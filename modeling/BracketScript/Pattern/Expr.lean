import BracketScript.Pattern.CharSet

/-! Patterns as expressions. -/

namespace BracketScript.Pattern

/-- A condition on a place between two characters. -/
inductive Look where
  | textStart
  | textEnd
  | lineStart
  | lineEnd
  /-- Lines that may also end in a carriage return, with or without a line feed. -/
  | anyLineStart
  | anyLineEnd
  | wordBoundary (unicode : Bool)
  | notWordBoundary (unicode : Bool)
  | wordStart (unicode : Bool)
  | wordEnd (unicode : Bool)
  | notAfterWord (unicode : Bool)
  | notBeforeWord (unicode : Bool)
deriving DecidableEq, Repr

inductive Expr where
  | empty
  | set (s : CharSet)
  | look (l : Look)
  | group (index : Nat) (e : Expr)
  | concat (a b : Expr)
  /-- The first alternative goes before the second. -/
  | alternate (a b : Expr)
  /-- A greedy repetition tries to go on before it tries to end. -/
  | repetition (min : Nat) (max : Option Nat) (greedy : Bool) (e : Expr)

namespace Expr

def isNullable : Expr → Bool
  | empty | look _ => true
  | set _ => false
  | group _ e => e.isNullable
  | concat a b => a.isNullable && b.isNullable
  | alternate a b => a.isNullable || b.isNullable
  | repetition min _ _ e => min == 0 || e.isNullable

/-- Whether nothing but the empty text can match. -/
def isOnlyEmpty : Expr → Bool
  | empty | look _ => true
  | set _ => false
  | group _ e => e.isOnlyEmpty
  | concat a b => a.isOnlyEmpty && b.isOnlyEmpty
  | alternate a b => a.isOnlyEmpty && b.isOnlyEmpty
  | repetition _ max _ e => max == some 0 || e.isOnlyEmpty

/-- Repeating what takes no room more than once changes nothing. -/
def repeated (min : Nat) (max : Option Nat) (greedy : Bool) (e : Expr) : Expr :=
  if e.isOnlyEmpty then
    repetition (Nat.min min 1) (some (Nat.min (max.getD 1) 1)) greedy e
  else repetition min max greedy e

end Expr

end BracketScript.Pattern
