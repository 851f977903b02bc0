import BracketScript.Scope.Registry

/-! Scopes that were opened inside one another. A scope is known by its number, and a scope inside
another has the greater number. -/

namespace BracketScript

structure Forest.Node (κ : Type) where
  parent : Option Nat
  bindings : Scope κ

structure Forest (κ : Type) where
  nodes : List (Forest.Node κ)
  parent_lt : ∀ (i : Nat) (n : Forest.Node κ) (p : Nat), nodes[i]? = some n →
    n.parent = some p → p < i

namespace Forest

variable {κ : Type}

def empty : Forest κ := ⟨[], by simp⟩

def size (f : Forest κ) : Nat :=
  f.nodes.length

/-- A new scope inside `parent`, or outside all others. -/
def push (f : Forest κ) (parent : Option Nat) (h : ∀ p ∈ parent, p < f.size) : Forest κ :=
  ⟨f.nodes ++ [⟨parent, Table.empty⟩], by
    intro i n p hn hp
    rw [List.getElem?_append] at hn
    split at hn
    · exact f.parent_lt i n p hn hp
    · rename_i hi
      obtain ⟨hj, rfl⟩ : i - f.nodes.length = 0 ∧ (⟨parent, Table.empty⟩ : Node κ) = n := by
        cases hk : i - f.nodes.length with
        | zero => simpa [hk] using hn
        | succ k => simp [hk] at hn
      have := h p hp
      unfold size at this
      omega⟩

def addRoot (f : Forest κ) : Forest κ :=
  f.push none (by simp)

/-- There is no scope inside one that does not exist. -/
def addChild (f : Forest κ) (parent : Nat) : Forest κ :=
  if h : parent < f.size then f.push (some parent) (by simpa using h) else f

def bindings (f : Forest κ) (i : Nat) : Scope κ :=
  match f.nodes[i]? with
  | some n => n.bindings
  | none => Table.empty

def hasParent (f : Forest κ) (i : Nat) : Bool :=
  match f.nodes[i]? with
  | some n => n.parent.isSome
  | none => false

def update (f : Forest κ) (i : Nat) (change : Scope κ → Scope κ) : Forest κ :=
  ⟨f.nodes.modify i fun n => { n with bindings := change n.bindings }, by
    intro j n p hn hp
    rw [List.getElem?_modify] at hn
    cases hm : f.nodes[j]? with
    | none => simp [hm] at hn
    | some m =>
      refine f.parent_lt j m p hm ?_
      rw [hm] at hn
      split at hn <;> simp at hn <;> subst hn <;> exact hp⟩

/-- The scope and those around it, the innermost first. -/
def chain (f : Forest κ) (i : Nat) : List (Scope κ) :=
  match h : f.nodes[i]? with
  | none => []
  | some n =>
    n.bindings ::
      match hp : n.parent with
      | none => []
      | some p =>
        have : p < i := f.parent_lt i n p h hp
        f.chain p
termination_by i

def resolve (f : Forest κ) (i : Nat) (name : String) : Except ScriptError κ :=
  BracketScript.resolve (f.chain i) name

def contains (f : Forest κ) (i : Nat) (name : String) : Bool :=
  (f.resolve i name).isOk

/-- Binds a name in one scope and tells what was bound to it there. -/
def bind (f : Forest κ) (i : Nat) (name : String) (code : κ) : Option κ × Forest κ :=
  ((f.bindings i).find? name, f.update i (·.bind name code))

/-- Unbinds a name in one scope and tells whether it was bound there. -/
def unbind (f : Forest κ) (i : Nat) (name : String) : Bool × Forest κ :=
  ((f.bindings i).has name, f.update i (·.unbind name))

def drain (f : Forest κ) (i : Nat) (r : Registry κ) : Forest κ :=
  f.update i r.drainInto

end Forest

end BracketScript
