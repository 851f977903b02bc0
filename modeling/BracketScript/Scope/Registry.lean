import BracketScript.Scope

/-! Functions that are handed over together. They are known by normal names from the start, and of
several with one name the last counts. -/

namespace BracketScript

structure Registry (κ : Type) where
  entries : List (String × κ) := []

namespace Registry

variable {κ : Type}

def register (r : Registry κ) (name : String) (code : κ) : Registry κ :=
  ⟨r.entries ++ [(normalName name, code)]⟩

def extend (r other : Registry κ) : Registry κ :=
  ⟨r.entries ++ other.entries⟩

/-- The entries registered one after the other. -/
def ofList (given : List (String × κ)) : Registry κ :=
  given.foldl (fun r e => r.register e.1 e.2) {}

def names (r : Registry κ) : List String :=
  r.entries.map (·.1)

/-- Binds the entries in order. -/
def drainInto (r : Registry κ) (s : Scope κ) : Scope κ :=
  r.entries.foldl (fun s e => s.bind e.1 e.2) s

end Registry

end BracketScript
