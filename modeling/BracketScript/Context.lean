import BracketScript.Scope

/-! The state of one run. -/

namespace BracketScript

structure Options where
  /-- Punctuation outside every group is an error. -/
  strictBrackets : Bool := false
  /-- Blanks around a text result are cut off. -/
  trimOutput : Bool := true
deriving DecidableEq, Repr, Inhabited

structure MessageEvent where
  text : String
  username : Option String
deriving DecidableEq, Repr

inductive Action where
  | send (text : String)
  | reply (text : String)
deriving DecidableEq, Repr

structure Context (κ : Type) where
  fileName : String
  options : Options
  /-- The bindings of this run alone; they go before those of the root scope. -/
  scope : Scope κ := Table.empty
  vars : Table Value := Table.empty
  /-- The requests so far, the oldest first. -/
  actions : List Action := []
  event : Option MessageEvent := none
  /-- Set once nothing more is to be evaluated. -/
  stopped : Bool := false
  /-- How many calls are active. -/
  depth : Nat := 0

/-- A run's state with what it shares with others: the root scope, and what the functions of the
host keep for themselves. -/
structure World (κ σ : Type) where
  context : Context κ
  root : Scope κ
  host : σ

namespace World

variable {κ σ : Type}

/-- The scopes that a name is looked up in. -/
def chain (w : World κ σ) : List (Scope κ) :=
  [w.context.scope, w.root]

def withDepth (w : World κ σ) (depth : Nat) : World κ σ :=
  { w with context := { w.context with depth := depth } }

end World

end BracketScript
