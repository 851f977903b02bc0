import BracketScript.Value

/-! Comparison of values. Two values with a numeric view compare as numbers, all others as texts,
character by character. -/

namespace BracketScript

namespace Value

def equals (v w : Value) : Bool :=
  match v.number?, w.number? with
  | some x, some y => x.compare y == some .eq
  | _, _ => v.toText == w.toText

/-- Nothing is before, after or at a not-a-number. -/
def order? (v w : Value) : Option Ordering :=
  match v.number?, w.number? with
  | some x, some y => x.compare y
  | _, _ => some (compareOfLessAndEq v.toText w.toText)

end Value

inductive Operator where
  | equal
  | notEqual
  | atLeast
  | atMost
  | greater
  | less
deriving DecidableEq, Repr

namespace Operator

def all : List Operator :=
  [equal, notEqual, atLeast, atMost, greater, less]

def spelling : Operator → String
  | equal => "=="
  | notEqual => "!="
  | atLeast => ">="
  | atMost => "<="
  | greater => ">"
  | less => "<"

def ofSpelling? (s : String) : Option Operator :=
  all.find? (·.spelling == s)

def holds (op : Operator) (v w : Value) : Bool :=
  match op with
  | equal => v.equals w
  | notEqual => !v.equals w
  | greater => v.order? w == some .gt
  | less => v.order? w == some .lt
  | atLeast => v.order? w == some .gt || v.order? w == some .eq
  | atMost => v.order? w == some .lt || v.order? w == some .eq

end Operator

end BracketScript
