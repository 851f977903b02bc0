import BracketScript.Proofs.Application

/-! The search of a list for the first item that satisfies a condition, when evaluating the condition
may change anything. -/

namespace BracketScript

variable {κ σ : Type}

/-- The value as a list, or the list that the variable of its name holds now. -/
def Machine.Lists (m : Machine κ σ) (v : Value) (items : List Value) : Prop :=
  v = .list items ∨ (∀ others, v ≠ .list others) ∧
    m.world.context.vars.get? (Text.trim v.toText) = some (.list items)

def Machine.assign (m : Machine κ σ) (name : String) (v : Value) : Machine κ σ :=
  { m with world := { m.world with context :=
    { m.world.context with vars := m.world.context.vars.insert name v } } }

namespace Search

variable (dispatch : Call → Run κ σ Value) (name : String) (tokens : List Token)

/-- One round binds the item and evaluates the condition. -/
def round (m : Machine κ σ) (item : Value) : Except ScriptError Bool × Machine κ σ :=
  Run.start (m.assign name item) (perform dispatch (condition tokens))

/-- The machine that the rounds for the items leave, each run where the one before it ended. -/
def rounds (m : Machine κ σ) (items : List Value) : Machine κ σ :=
  items.foldl (fun m item => (round dispatch name tokens m item).2) m

/-- The rounds before item `k` come to false, and that for item `k` to the verdict. -/
structure Arrives (m : Machine κ σ) (items : List Value) (k : Nat)
    (verdict : Except ScriptError Bool) (m' : Machine κ σ) : Prop where
  before : ∀ j item, j < k → items[j]? = some item →
    (round dispatch name tokens (rounds dispatch name tokens m (items.take j)) item).1 = .ok false
  last : ∃ item, items[k]? = some item ∧
    round dispatch name tokens (rounds dispatch name tokens m (items.take k)) item = (verdict, m')

/-- What a search comes to and the machine it leaves, which is that of its last round. -/
inductive FirstMatch (m : Machine κ σ) (items : List Value) :
    Except ScriptError (Option Nat) → Machine κ σ → Prop
  | found {k : Nat} {m' : Machine κ σ} (h : Arrives dispatch name tokens m items k (.ok true) m') :
      FirstMatch m items (.ok (some k)) m'
  | failed {k : Nat} {e : ScriptError} {m' : Machine κ σ}
      (h : Arrives dispatch name tokens m items k (.error e) m') : FirstMatch m items (.error e) m'
  | exhausted {k : Nat} {m' : Machine κ σ} (hk : k + 1 = items.length)
      (h : Arrives dispatch name tokens m items k (.ok false) m') : FirstMatch m items (.ok none) m'
  | empty (h : items = []) : FirstMatch m items (.ok none) m

variable {dispatch name tokens} {m m₁ m' : Machine κ σ} {item : Value} {items : List Value}

theorem Arrives.head {verdict : Except ScriptError Bool}
    (h : round dispatch name tokens m item = (verdict, m')) :
    Arrives dispatch name tokens m (item :: items) 0 verdict m' :=
  ⟨fun j _ hj _ => absurd hj (Nat.not_lt_zero j), item, rfl, h⟩

theorem Arrives.cons {k : Nat} {verdict : Except ScriptError Bool}
    (hfirst : round dispatch name tokens m item = (.ok false, m₁))
    (h : Arrives dispatch name tokens m₁ items k verdict m') :
    Arrives dispatch name tokens m (item :: items) (k + 1) verdict m' := by
  have hrounds (j : Nat) : rounds dispatch name tokens m ((item :: items).take (j + 1)) =
      rounds dispatch name tokens m₁ (items.take j) := by
    simp only [rounds, List.take_succ_cons, List.foldl_cons, hfirst]
  refine ⟨fun j x hj hx => ?_, ?_⟩
  · cases j with
    | zero =>
      obtain rfl := Option.some.inj hx
      exact congrArg Prod.fst hfirst
    | succ j =>
      rw [hrounds]
      exact h.before j x (Nat.lt_of_succ_lt_succ hj) hx
  · rw [hrounds]
    exact h.last

theorem FirstMatch.cons {outcome : Except ScriptError (Option Nat)}
    (hfirst : round dispatch name tokens m item = (.ok false, m₁))
    (h : FirstMatch dispatch name tokens m₁ items outcome m') :
    FirstMatch dispatch name tokens m (item :: items) (outcome.map (Option.map (· + 1))) m' := by
  cases h with
  | found h => exact .found (h.cons hfirst)
  | failed h => exact .failed (h.cons hfirst)
  | exhausted hk h => exact .exhausted (congrArg Nat.succ hk) (h.cons hfirst)
  | empty h =>
    subst h
    exact .exhausted rfl (.head hfirst)

variable (dispatch name tokens) in
theorem start_findFrom (i : Nat) (items : List Value) (m : Machine κ σ) :
    ∃ outcome m', FirstMatch dispatch name tokens m items outcome m' ∧
      Run.start m (perform dispatch (Library.findFrom name tokens i items)) =
        (outcome.map (Option.map (i + ·)), m') := by
  induction items generalizing i m with
  | nil => exact ⟨.ok none, m, .empty rfl, rfl⟩
  | cons item items ih =>
    have hbind : Run.start m (perform dispatch (Routine.setVariable name item)) =
        (.ok (m.world.context.vars.get? name), m.assign name item) := rfl
    rw [Library.findFrom, start_perform_bind_ok hbind]
    rcases hround : round dispatch name tokens m item with ⟨e | holds, m₁⟩
    · rw [start_perform_bind_error hround]
      exact ⟨.error e, m₁, .failed (.head hround), rfl⟩
    rw [start_perform_bind_ok hround]
    cases holds with
    | true => exact ⟨.ok (some 0), m₁, .found (.head hround), rfl⟩
    | false =>
      -- The search goes on with the items that are left, whatever became of the list meanwhile.
      obtain ⟨outcome, m', hmatch, hrest⟩ := ih (i + 1) m₁
      refine ⟨_, m', hmatch.cons hround, hrest.trans ?_⟩
      have hindex : (fun k => i + 1 + k) = fun k => i + (k + 1) := by
        funext k
        omega
      cases outcome with
      | error e => rfl
      | ok found => simp [Except.map, Function.comp_def, hindex]

theorem start_listOf {call : Call} {v : Value} (h : m.Lists v items) :
    Run.start m (perform dispatch (Library.listOf call v)) = (.ok items, m) := by
  rcases h with rfl | ⟨hv, hvar⟩
  · rfl
  have hget : Run.start m (perform dispatch (Routine.getVariable (Text.trim v.toText))) =
      (.ok (some (.list items)), m) := by
    rw [← hvar]
    rfl
  rw [Library.listOf]
  · exact start_perform_bind_ok hget _
  · exact hv

theorem start_listOf_error {call : Call} {v : Value} (h : ∀ items, ¬ m.Lists v items) :
    Run.start m (perform dispatch (Library.listOf call v)) =
      (.error (.failed call.name (.notList (Text.trim v.toText))), m) := by
  have hv : ∀ items, v ≠ .list items := fun items hitems => h items (.inl hitems)
  have hget : Run.start m (perform dispatch (Routine.getVariable (Text.trim v.toText))) =
      (.ok (m.world.context.vars.get? (Text.trim v.toText)), m) := rfl
  rw [Library.listOf]
  · rw [start_perform_bind_ok hget]
    split
    · rename_i items hvar
      exact absurd (.inr ⟨hv, hvar⟩) (h items)
    · rfl
  · exact hv

/-- The search once the list and the name of the variable are known. -/
theorem start_arrayFindIndex {call : Call} {v w : Value} {m₂ : Machine κ σ}
    (hv : Run.start m (perform dispatch (call.argument 0)) = (.ok v, m₁))
    (hitems : m₁.Lists v items)
    (hw : Run.start m₁ (perform dispatch (call.argument 1)) = (.ok w, m₂)) :
    ∃ outcome m₃,
      FirstMatch dispatch (Text.trim w.toText) (call.args[2]?.getD []) m₂ items outcome m₃ ∧
      Run.start m (perform dispatch (Library.arrayFindIndex call)) =
        (outcome.map Library.position, m₃) := by
  obtain ⟨outcome, m₃, hmatch, hfind⟩ :=
    start_findFrom dispatch (Text.trim w.toText) (call.args[2]?.getD []) 0 items m₂
  have hindex : outcome.map (Option.map (0 + ·)) = outcome := by
    cases outcome <;> simp [Except.map]
  rw [hindex] at hfind
  refine ⟨outcome, m₃, hmatch, ?_⟩
  rw [Library.arrayFindIndex, start_perform_bind_ok hv, start_perform_bind_ok (start_listOf hitems),
    start_perform_bind_ok (Call.start_trimmedText hw)]
  cases outcome with
  | error e => exact start_perform_bind_error hfind _
  | ok found => exact start_perform_bind_ok hfind _

end Search

end BracketScript
