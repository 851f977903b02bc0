import BracketScript.Double.Read
import BracketScript.Double.Shortest
import BracketScript.Text.Blank

/-! Values of scripts. Each keeps its type until it is joined with others. Every value has a text,
and some have a number. -/

namespace BracketScript

inductive Value where
  | undefined
  | bool (b : Bool)
  | int (n : Int64)
  | float (x : Double)
  | text (s : String)
  | list (items : List Value)
deriving Inhabited

namespace Value

mutual

/-- Lists are written with commas between their items, whatever the items hold. -/
def toText : Value → String
  | undefined => ""
  | bool true => "true"
  | bool false => "false"
  | int n => String.ofList (Decimal.ofInt n.toInt)
  | float x => x.toText
  | text s => s
  | list items => itemsText items

def itemsText : List Value → String
  | [] => ""
  | [item] => item.toText
  | item :: items => item.toText ++ "," ++ itemsText items

end

def isUndefined : Value → Bool
  | undefined => true
  | _ => false

def typeName : Value → String
  | undefined => "undefined"
  | bool _ => "boolean"
  | int _ | float _ => "number"
  | text _ => "string"
  | list _ => "array"

/-- The value that a text spells. A number with a point may have an exponent; without a point it is
read only if it is the canonical notation of a word. -/
def ofLiteral (s : String) : Value :=
  match Decimal.readWord? s.toList with
  | some n => int n
  | none =>
    match if s.toList.contains '.' then Double.readScientific? s.toList else none with
    | some x => float x
    | none =>
      match s with
      | "NaN" => float .nan
      | "true" => bool true
      | "false" => bool false
      | "null" | "undefined" => undefined
      | _ => text s

def isNonzero : Double → Bool
  | .nan => false
  | .infinite _ => true
  | .finite _ units _ => units != 0

/-- Truth by type alone: zero, not-a-number, the empty text and the undefined value are false. -/
def isTrueAsIs : Value → Bool
  | undefined => false
  | bool b => b
  | int n => n != 0
  | float x => isNonzero x
  | text s => !s.isEmpty
  | list _ => true

/-- A text is as true as the value it spells. -/
def isTrue : Value → Bool
  | text s => (ofLiteral s).isTrueAsIs
  | v => v.isTrueAsIs

/-- The numeric view. A text has one if it is plain decimal notation, blanks around it aside, of a
number that does not overflow. -/
def number? : Value → Option Double
  | undefined | list _ => none
  | bool b => some (Double.ofInt (if b then 1 else 0))
  | int n => some (Double.ofInt n.toInt)
  | float x => some x
  | text s => (Double.readPlain? (Text.trimChars s.toList)).filter Double.isFinite

/-- The integer view: the integer part of a finite number. -/
def integer? : Value → Option Int64
  | int n => some n
  | v => (v.number?.filter Double.isFinite).map Double.truncate

def trimmed : Value → Value
  | text s => text (Text.trim s)
  | v => v

/-- No values give the undefined one, one value stays as it is, and several are joined as text. -/
def fold : List Value → Value
  | [] => undefined
  | [v] => v
  | vs => text (String.join (vs.map toText))

end Value

end BracketScript
