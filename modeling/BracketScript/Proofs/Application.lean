import BracketScript.Proofs.ArgumentChecks
import BracketScript.Proofs.Literals
import BracketScript.Proofs.Mirroring

/-! What a function of the library makes of the values that its arguments come to. -/

namespace BracketScript

variable {κ σ α β : Type}

/-- The characters of a value taken as a text. -/
def Value.chars (v : Value) : List Char :=
  v.toText.toList

section Performing

variable {dispatch : Call → Run κ σ Value} {r : Routine κ σ α} {m m' : Machine κ σ}

theorem start_perform_bind_ok {a : α} (h : Run.start m (perform dispatch r) = (.ok a, m'))
    (f : α → Routine κ σ β) :
    Run.start m (perform dispatch (r >>= f)) = Run.start m' (perform dispatch (f a)) := by
  rw [perform_bind]
  exact Run.start_bind_ok _ h

theorem start_perform_bind_error {e : ScriptError}
    (h : Run.start m (perform dispatch r) = (.error e, m')) (f : α → Routine κ σ β) :
    Run.start m (perform dispatch (r >>= f)) = (.error e, m') := by
  rw [perform_bind]
  exact Run.start_bind_error _ h

end Performing

namespace Call

variable {call : Call} {i : Nat}

section Trimmed

variable {dispatch : Call → Run κ σ Value} {m m' : Machine κ σ}

theorem start_trimmedText {v : Value}
    (h : Run.start m (perform dispatch (call.argument i)) = (.ok v, m')) :
    Run.start m (perform dispatch (call.trimmedText i)) = (.ok (Text.trim v.toText), m') := by
  have htext : Run.start m (perform dispatch (call.text i)) = (.ok v.toText, m') :=
    start_perform_bind_ok h _
  exact start_perform_bind_ok htext _

theorem start_trimmedText_error {e : ScriptError}
    (h : Run.start m (perform dispatch (call.argument i)) = (.error e, m')) :
    Run.start m (perform dispatch (call.trimmedText i)) = (.error e, m') := by
  have htext : Run.start m (perform dispatch (call.text i)) = (.error e, m') :=
    start_perform_bind_error h _
  exact start_perform_bind_error htext _

end Trimmed

/-- From argument `i` on, the arguments of a call come to `values` one after the other. -/
def Comes (call : Call) (dispatch : Call → Run κ σ Value) (i : Nat) (m : Machine κ σ)
    (values : List Value) (m' : Machine κ σ) : Prop :=
  Run.start m (perform dispatch (evaluateAll (call.args.drop i))) = (.ok values, m')

variable {dispatch : Call → Run κ σ Value} {m m' : Machine κ σ} {v : Value} {values : List Value}

/-- The next argument is there and comes to the next value, or there is none of either. -/
theorem Comes.cases (h : call.Comes dispatch i m values m') :
    (∃ arg v vs m₁, call.args[i]? = some arg ∧ values = v :: vs ∧
      Run.start m (evaluateSequence dispatch arg) = (.ok v, m₁) ∧
      call.Comes dispatch (i + 1) m₁ vs m') ∨
    (call.args[i]? = none ∧ values = [] ∧ m' = m) := by
  cases hi : call.args[i]? with
  | none =>
    have hdrop : call.args.drop i = [] := List.drop_eq_nil_of_le (List.getElem?_eq_none_iff.mp hi)
    rw [Comes, hdrop] at h
    obtain ⟨hvalues, hm⟩ := Prod.mk.inj h
    exact .inr ⟨rfl, (Except.ok.inj hvalues).symm, hm.symm⟩
  | some arg =>
    obtain ⟨hlt, hget⟩ := List.getElem?_eq_some_iff.mp hi
    rw [Comes, List.drop_eq_getElem_cons hlt, hget, evaluateAll] at h
    rcases harg : Run.start m (evaluateSequence dispatch arg) with ⟨e | v, m₁⟩
    · rw [start_perform_bind_error (Run.start_bind_error _ harg)] at h
      cases h
    rw [start_perform_bind_ok (Run.start_bind_ok _ harg)] at h
    rcases hrest : Run.start m₁ (perform dispatch (evaluateAll (call.args.drop (i + 1)))) with
      ⟨e | vs, m₂⟩
    · rw [start_perform_bind_error hrest] at h
      cases h
    · rw [start_perform_bind_ok hrest] at h
      obtain ⟨hvalues, rfl⟩ := Prod.mk.inj h
      exact .inl ⟨arg, v, vs, m₁, rfl, (Except.ok.inj hvalues).symm, harg, hrest⟩

theorem Comes.argument (h : call.Comes dispatch i m (v :: values) m') :
    ∃ m₁, Run.start m (perform dispatch (call.argument i)) = (.ok v, m₁) ∧
      call.Comes dispatch (i + 1) m₁ values m' := by
  obtain ⟨arg, w, vs, m₁, hi, hvalues, harg, hrest⟩ | ⟨-, hvalues, -⟩ := h.cases
  · obtain ⟨rfl, rfl⟩ := List.cons.inj hvalues
    exact ⟨m₁, start_argument dispatch hi harg, hrest⟩
  · cases hvalues

theorem Comes.text (h : call.Comes dispatch i m (v :: values) m') :
    ∃ m₁, Run.start m (perform dispatch (call.text i)) = (.ok v.toText, m₁) ∧
      call.Comes dispatch (i + 1) m₁ values m' := by
  obtain ⟨m₁, hv, hrest⟩ := h.argument
  exact ⟨m₁, start_perform_bind_ok hv _, hrest⟩

theorem Comes.eq_of_nil (h : call.Comes dispatch i m [] m') : call.args[i]? = none ∧ m' = m := by
  obtain ⟨arg, v, vs, m₁, -, hvalues, -⟩ | ⟨hi, -, hm⟩ := h.cases
  · cases hvalues
  · exact ⟨hi, hm⟩

theorem Comes.length_eq (h : call.Comes dispatch i m values m') :
    values.length = call.args.length - i := by
  induction values generalizing i m with
  | nil =>
    have hle := List.getElem?_eq_none_iff.mp h.eq_of_nil.1
    simp [Nat.sub_eq_zero_of_le hle]
  | cons v values ih =>
    obtain ⟨arg, w, vs, m₁, hi, hvalues, -, hrest⟩ | ⟨-, hvalues, -⟩ := h.cases
    · obtain ⟨-, rfl⟩ := List.cons.inj hvalues
      have hlt := (List.getElem?_eq_some_iff.mp hi).1
      have hlength := ih hrest
      simp only [List.length_cons]
      omega
    · cases hvalues

end Call

namespace Builtin

theorem body_of_le {f : Builtin} {call : Call} (htwo : 2 ≤ call.args.length)
    (h : f.minimum ≤ call.args.length) : (f.body call : Routine κ σ Value) = f.action call :=
  body_of_not_lacks (Call.not_lacks_of_le htwo h)

/-- Whenever all its arguments have come to `values`, the function comes to `v` and does no more. -/
def Gives (f : Builtin) (values : List Value) (v : Value) : Prop :=
  ∀ (κ σ : Type) (dispatch : Call → Run κ σ Value) (call : Call) (m m' : Machine κ σ),
    Run.start m (perform dispatch (Call.evaluateAll call.args)) = (.ok values, m') →
    Run.start m (perform dispatch (f.body call)) = (.ok v, m')

theorem gives_of_action {f : Builtin} {values : List Value} {v : Value}
    (htwo : 2 ≤ values.length) (h : f.minimum ≤ values.length)
    (haction : ∀ (κ σ : Type) (dispatch : Call → Run κ σ Value) (call : Call)
      (m m' : Machine κ σ), call.Comes dispatch 0 m values m' →
      Run.start m (perform dispatch (f.action call)) = (.ok v, m')) : f.Gives values v := by
  intro κ σ dispatch call m m' hvalues
  have hcomes : call.Comes dispatch 0 m values m' := hvalues
  have hlength := hcomes.length_eq
  rw [body_of_le (by omega) (by omega)]
  exact haction κ σ dispatch call m m' hcomes

variable (v w : Value)

theorem gives_ofTwoTexts {f : Builtin} {g : List Char → List Char → Value} (hmin : f.minimum = 2)
    (hf : ∀ (κ σ : Type) (call : Call),
      (f.action call : Routine κ σ Value) = Library.ofTwoTexts g call) :
    f.Gives [v, w] (g v.chars w.chars) := by
  refine gives_of_action (Nat.le_refl 2) (Nat.le_of_eq hmin) ?_
  intro κ σ dispatch call m m' h
  obtain ⟨m₁, hv, h⟩ := h.text
  obtain ⟨m₂, hw, h⟩ := h.text
  obtain ⟨-, rfl⟩ := h.eq_of_nil
  rw [hf, Library.ofTwoTexts, start_perform_bind_ok hv, start_perform_bind_ok hw]
  rfl

theorem gives_charAt {n : Int64} (hn : w.integer? = some n) :
    charAt.Gives [v, w] (.text (Library.charText v.chars n.toInt)) := by
  refine gives_of_action (Nat.le_refl 2) (Nat.le_refl 2) ?_
  intro κ σ dispatch call m m' h
  obtain ⟨m₁, hv, h⟩ := h.text
  obtain ⟨m₂, hw, h⟩ := h.argument
  obtain ⟨-, rfl⟩ := h.eq_of_nil
  have hinteger : Run.start m₁ (perform dispatch (call.integer 1)) = (.ok n, m') := by
    rw [Call.integer, start_perform_bind_ok hw, hn]
    rfl
  rw [action, Library.charAt, start_perform_bind_ok hv, start_perform_bind_ok hinteger]
  rfl

theorem gives_checkContains {ws : List Value} (hws : ws ≠ []) :
    checkContains.Gives (v :: ws)
      (.bool (ws.any fun w => Library.containsText v.chars w.chars)) := by
  have htwo : 2 ≤ (v :: ws).length := by
    have hpos := List.length_pos_iff.mpr hws
    simp only [List.length_cons]
    omega
  refine gives_of_action htwo htwo ?_
  intro κ σ dispatch call m m' h
  rw [action, Library.checkContains]
  exact start_perform_bind_ok h _

/-- What the arguments after the third say about how many occurrences are to be replaced. -/
inductive Counts : List Value → Option Nat → Prop
  | missing : Counts [] none
  | undefined : Counts [.undefined] none
  | negative {v : Value} {n : Int64} (h : v.integer? = some n) (hn : n.toInt < 0) : Counts [v] none
  | limit {v : Value} {n : Int64} (h : v.integer? = some n) (hn : 0 ≤ n.toInt) :
      Counts [v] (some n.toInt.toNat)

theorem start_countArgument {call : Call} {dispatch : Call → Run κ σ Value} {i : Nat}
    {m m' : Machine κ σ} {values : List Value} {count : Option Nat}
    (h : call.Comes dispatch i m values m') (hcount : Counts values count) :
    Run.start m (perform dispatch (Library.countArgument call i)) = (.ok count, m') := by
  have hone {v : Value} {n : Int64} (hv : call.Comes dispatch i m [v] m')
      (hn : v.integer? = some n) :
      Run.start m (perform dispatch (Library.countArgument call i)) =
        (.ok (if 0 ≤ n.toInt then some n.toInt.toNat else none), m') := by
    obtain ⟨m₁, hargument, hrest⟩ := hv.argument
    obtain ⟨-, rfl⟩ := hrest.eq_of_nil
    rw [Library.countArgument, start_perform_bind_ok hargument]
    split
    · cases hn
    · simp only [hn]
      rfl
  cases hcount with
  | missing =>
    obtain ⟨hi, rfl⟩ := h.eq_of_nil
    rw [Library.countArgument, Call.argument, hi]
    rfl
  | undefined =>
    obtain ⟨m₁, hargument, hrest⟩ := h.argument
    obtain ⟨-, rfl⟩ := hrest.eq_of_nil
    rw [Library.countArgument, start_perform_bind_ok hargument]
    rfl
  | negative hn hneg => rw [hone h hn, if_neg (Int.not_le.mpr hneg)]
  | limit hn hpos => rw [hone h hn, if_pos hpos]

theorem gives_replaceText (u : Value) {values : List Value} {count : Option Nat}
    (hcount : Counts values count) :
    replaceText.Gives (v :: w :: u :: values)
      (.text (String.ofList (Text.replace w.chars u.chars count v.chars))) := by
  refine gives_of_action (by simp) (by simp [minimum]) ?_
  intro κ σ dispatch call m m' h
  obtain ⟨m₁, hv, h⟩ := h.text
  obtain ⟨m₂, hw, h⟩ := h.text
  obtain ⟨m₃, hu, h⟩ := h.text
  have hn := start_countArgument h hcount
  rw [action, Library.replaceText, start_perform_bind_ok hv, start_perform_bind_ok hw,
    start_perform_bind_ok hu, start_perform_bind_ok hn]
  rfl

end Builtin

end BracketScript
