import BracketScript.Comparison

/-! The pieces of a script and where they stand. -/

namespace BracketScript

/-- A position, line and column counted from one. -/
structure Span where
  line : Nat
  column : Nat
deriving DecidableEq, Repr, Inhabited

namespace Span

def start : Span := ⟨1, 1⟩

/-- The position after one character. Only a line feed begins a line. -/
def next (p : Span) (c : Char) : Span :=
  if c = '\n' then ⟨p.line + 1, 1⟩ else ⟨p.line, p.column + 1⟩

def after (p : Span) (s : List Char) : Span :=
  s.foldl next p

end Span

inductive Literal where
  | text (s : String)
  | number (n : Int64)
  | operator (op : Operator)
deriving DecidableEq

inductive Punctuation where
  | opening
  | closing
  | separator
deriving DecidableEq, Repr

/-- A token of a script. A call that stands for the head alone has no arguments; one written with
brackets has at least one, which may be empty. -/
inductive Token where
  | literal (span : Span) (value : Literal)
  | call (span : Span) (name : String) (args : List (List Token))
  | punctuation (span : Span) (mark : Punctuation)
deriving Inhabited

abbrev Program := List Token

def Literal.kind : Literal → String
  | text _ => "string"
  | number _ => "number"
  | operator _ => "operator"

def Literal.value : Literal → Value
  | text s => .text s
  | number n => .int n
  | operator op => .text op.spelling

def Punctuation.kind : Punctuation → String
  | opening => "open"
  | closing => "close"
  | separator => "newArg"

def Punctuation.spelling : Punctuation → String
  | opening => "["
  | closing => "]"
  | separator => ";"

namespace Token

def span : Token → Span
  | literal p _ | call p _ _ | punctuation p _ => p

def kind : Token → String
  | literal _ v => v.kind
  | call .. => "call"
  | punctuation _ m => m.kind

def text (p : Span) (s : String) : Token :=
  literal p (.text s)

def operator? : Token → Option Operator
  | literal _ (.operator op) => some op
  | _ => none

end Token

/-- The tokens before the first operator of an argument, the operator, and the tokens after it.
Operators inside nested calls belong to those calls. -/
def comparison? : List Token → Option (List Token × Operator × List Token)
  | [] => none
  | t :: ts =>
    match t.operator? with
    | some op => some ([], op, ts)
    | none => (comparison? ts).map fun (lhs, op, rhs) => (t :: lhs, op, rhs)

/-- A call as a function sees it: the name as written, and the arguments unevaluated. -/
structure Call where
  span : Span
  name : String
  args : List (List Token)

/-- Whether the call was written with brackets. -/
def Call.hasBrackets (call : Call) : Bool :=
  !call.args.isEmpty

end BracketScript
