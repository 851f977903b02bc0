import Mathlib
import BracketScript.Engine
import BracketScript.Library

/-! Evaluation of tokens in two parts. What the second part does depends on nothing but the machine
that the first part leaves, and the text of the whole is the texts of both. -/

namespace BracketScript

namespace Value

theorem toText_fold (vs : List Value) : (fold vs).toText = String.join (vs.map toText) := by
  match vs with
  | [] => rfl
  | [v] => simp [fold, String.join]
  | v :: w :: vs => rfl

theorem toText_fold_append (vs ws : List Value) :
    (fold (vs ++ ws)).toText = (fold vs).toText ++ (fold ws).toText := by
  simp only [toText_fold, ← String.toList_inj, String.toList_append, String.toList_join,
    List.map_append, List.flatMap_append]

end Value

variable {κ σ : Type}

theorem Run.start_bind_congr {α β : Type} {m : Machine κ σ} {run run' : Run κ σ α}
    (f : α → Run κ σ β) (h : start m run = start m run') :
    start m (run >>= f) = start m (run' >>= f) := by
  rcases hr : start m run' with ⟨e | a, m'⟩
  · rw [start_bind_error f (h.trans hr), start_bind_error f hr]
  · rw [start_bind_ok f (h.trans hr), start_bind_ok f hr]

variable (dispatch : Call → Run κ σ Value) {m : Machine κ σ}

@[simp] theorem start_evaluateTokens_nil (m : Machine κ σ) :
    Run.start m (evaluateTokens dispatch []) = (.ok [], m) :=
  rfl

theorem start_evaluateTokens_of_stopped (h : m.world.context.stopped = true) (ts : List Token) :
    Run.start m (evaluateTokens dispatch ts) = (.ok [], m) := by
  cases ts with
  | nil => rfl
  | cons t ts =>
    rw [evaluateTokens, Run.start_bind_ok _ (Run.start_getWorld m), if_pos h, Run.start_pure]

theorem start_evaluateTokens_cons (h : ¬ m.world.context.stopped = true) (t : Token)
    (ts : List Token) :
    Run.start m (evaluateTokens dispatch (t :: ts)) =
      Run.start m (evaluateToken dispatch t >>= fun v =>
        evaluateTokens dispatch ts >>= fun vs => pure (v :: vs)) := by
  rw [evaluateTokens, Run.start_bind_ok _ (Run.start_getWorld m), if_neg h]

/-- A stop among the first tokens leaves a machine on which the others give nothing. -/
theorem start_evaluateTokens_append (xs ys : List Token) (m : Machine κ σ) :
    Run.start m (evaluateTokens dispatch (xs ++ ys)) =
      Run.start m (evaluateTokens dispatch xs >>= fun vs =>
        evaluateTokens dispatch ys >>= fun ws => pure (vs ++ ws)) := by
  induction xs generalizing m with
  | nil =>
    rw [Run.start_bind_ok _ (start_evaluateTokens_nil dispatch m), List.nil_append]
    exact congrArg _ (bind_pure _).symm
  | cons t xs ih =>
    by_cases hstop : m.world.context.stopped = true
    · have hxs := start_evaluateTokens_of_stopped dispatch hstop
      rw [List.cons_append, Run.start_bind_ok _ (hxs _), Run.start_bind_ok _ (hxs _), hxs]
      rfl
    · have hcons := start_evaluateTokens_cons dispatch hstop t
      rw [List.cons_append, hcons, Run.start_bind_congr _ (hcons xs)]
      simp only [bind_assoc, pure_bind]
      rcases ht : Run.start m (evaluateToken dispatch t) with ⟨e | v, m'⟩
      · rw [Run.start_bind_error _ ht, Run.start_bind_error _ ht]
      · rw [Run.start_bind_ok _ ht, Run.start_bind_ok _ ht, Run.start_bind_congr _ (ih m')]
        simp only [bind_assoc, pure_bind, List.cons_append]

theorem start_evaluateSequence_eq (ts : List Token) (m : Machine κ σ) :
    Run.start m (evaluateSequence dispatch ts) =
      ((Run.start m (evaluateTokens dispatch ts)).1.map Value.fold,
        (Run.start m (evaluateTokens dispatch ts)).2) := by
  rw [evaluateSequence, Run.start_bind_pure]

theorem start_evaluateSequence_of_stopped (h : m.world.context.stopped = true) (ts : List Token) :
    Run.start m (evaluateSequence dispatch ts) = (.ok .undefined, m) := by
  rw [start_evaluateSequence_eq, start_evaluateTokens_of_stopped dispatch h]
  rfl

variable {xs : List Token}

theorem start_evaluateSequence_append_of_error {e : ScriptError} {m' : Machine κ σ}
    (h : Run.start m (evaluateSequence dispatch xs) = (.error e, m')) (ys : List Token) :
    Run.start m (evaluateSequence dispatch (xs ++ ys)) = (.error e, m') := by
  rw [start_evaluateSequence_eq] at h ⊢
  rw [start_evaluateTokens_append]
  rcases hx : Run.start m (evaluateTokens dispatch xs) with ⟨e' | vs, m₁⟩
  · rw [hx] at h
    rw [Run.start_bind_error _ hx]
    exact h
  · rw [hx] at h
    cases h

theorem start_evaluateSequence_append_of_ok {vs : List Value} {m' : Machine κ σ}
    (h : Run.start m (evaluateTokens dispatch xs) = (.ok vs, m')) (ys : List Token) :
    Run.start m (evaluateSequence dispatch (xs ++ ys)) =
      ((Run.start m' (evaluateTokens dispatch ys)).1.map fun ws => Value.fold (vs ++ ws),
        (Run.start m' (evaluateTokens dispatch ys)).2) := by
  rw [start_evaluateSequence_eq, start_evaluateTokens_append, Run.start_bind_ok _ h,
    Run.start_bind_pure]
  cases (Run.start m' (evaluateTokens dispatch ys)).1 <;> rfl

theorem start_evaluateSequence_append_of_stopped
    (h : (Run.start m (evaluateSequence dispatch xs)).2.world.context.stopped = true)
    (ys : List Token) :
    Run.start m (evaluateSequence dispatch (xs ++ ys)) =
      Run.start m (evaluateSequence dispatch xs) := by
  rcases hx : Run.start m (evaluateTokens dispatch xs) with ⟨e | vs, m'⟩
  · have hseq : Run.start m (evaluateSequence dispatch xs) = (.error e, m') := by
      rw [start_evaluateSequence_eq, hx]
      rfl
    rw [start_evaluateSequence_append_of_error dispatch hseq, hseq]
  · rw [start_evaluateSequence_eq, hx] at h
    rw [start_evaluateSequence_append_of_ok dispatch hx,
      start_evaluateTokens_of_stopped dispatch h, start_evaluateSequence_eq, hx]
    simp [Except.map]

theorem Engine.runWith_of_compile {bodies : Bodies κ σ} {e : Engine κ} {context : Context κ}
    {host : σ} {source : String} {program : Program} (hprogram : e.compile source = .ok program)
    {v : Value} {m : Machine κ σ}
    (hv : Run.start (e.machine context host) (evaluateNodes bodies program) = (.ok v, m)) :
    e.runWith bodies context host source =
      (.ok (if m.world.context.options.trimOutput then v.trimmed else v), m) := by
  rw [Engine.runWith, hprogram, Run.start_bind_ok _ (Run.start_ofExcept _ _), runProgram,
    Run.start_bind_ok _ hv, Run.start_bind_ok _ (Run.start_getWorld _)]
  split <;> rfl

/-- Evaluation of two lists of tokens one after the other: an error or a stop in the first ends it,
and otherwise the second goes on where the first has ended. -/
theorem evaluateNodes_append (bodies : Bodies κ σ) (xs ys : List Token) (m : Machine κ σ) :
    let whole := Run.start m (evaluateNodes bodies (xs ++ ys))
    match Run.start m (evaluateNodes bodies xs) with
    | (.error e, m') => whole = (.error e, m')
    | (.ok v, m') =>
      if m'.world.context.stopped then whole = (.ok v, m')
      else
        match Run.start m' (evaluateNodes bodies ys) with
        | (.error e, m'') => whole = (.error e, m'')
        | (.ok w, m'') => ∃ u, whole = (.ok u, m'') ∧ u.toText = v.toText ++ w.toText ∧
          (xs = [] → u = w) ∧ (ys = [] → u = v) := by
  intro whole
  have hfirst : Run.start m (evaluateNodes bodies xs) = _ :=
    start_evaluateSequence_eq (callFunction bodies) xs m
  rcases hx : Run.start m (evaluateTokens (callFunction bodies) xs) with ⟨e | vs, m'⟩
  · rw [hx] at hfirst
    rw [hfirst]
    exact start_evaluateSequence_append_of_error _ hfirst ys
  rw [hx] at hfirst
  simp only [hfirst, Except.map]
  split
  · rename_i hstop
    have hs : (Run.start m (evaluateNodes bodies xs)).2.world.context.stopped = true := by
      rw [hfirst]
      exact hstop
    exact (start_evaluateSequence_append_of_stopped _ hs ys).trans hfirst
  · have hsecond : Run.start m' (evaluateNodes bodies ys) = _ :=
      start_evaluateSequence_eq (callFunction bodies) ys m'
    have hwhole : whole = _ := start_evaluateSequence_append_of_ok _ hx ys
    rcases hy : Run.start m' (evaluateTokens (callFunction bodies) ys) with ⟨e | ws, m''⟩
    · rw [hy] at hsecond hwhole
      rw [hsecond]
      exact hwhole
    · rw [hy] at hsecond hwhole
      rw [hsecond]
      refine ⟨_, hwhole, Value.toText_fold_append vs ws, ?_, ?_⟩
      · rintro rfl
        obtain rfl : vs = [] := by simpa using (congrArg Prod.fst hx).symm
        rfl
      · rintro rfl
        obtain rfl : ws = [] := by simpa using (congrArg Prod.fst hy).symm
        exact congrArg Value.fold (List.append_nil vs)

/-- A number alone stays a number, and two of them are joined as texts. -/
theorem evaluateNodes_append_numbers :
    let e : Engine Builtin := Engine.ofRegistry Builtin.registry
    let m := e.machine (e.prepare "numbers") ()
    let five : List Token := [.literal ⟨1, 1⟩ (.number 5)]
    (∃ u, Run.start m (evaluateNodes Builtin.body ([] ++ five)) = (.ok u, m) ∧ u = .int 5) ∧
      (∃ u, Run.start m (evaluateNodes Builtin.body (five ++ [])) = (.ok u, m) ∧ u = .int 5) ∧
      ∃ u, Run.start m (evaluateNodes Builtin.body (five ++ five)) = (.ok u, m) ∧
        u.toText = "55" := by
  intro e m five
  obtain ⟨u, hu, -, hright, -⟩ := evaluateNodes_append Builtin.body [] five m
  obtain ⟨v, hv, -, -, hleft⟩ := evaluateNodes_append Builtin.body five [] m
  obtain ⟨w, hw, htext, -⟩ := evaluateNodes_append Builtin.body five five m
  exact ⟨⟨u, hu, hright rfl⟩, ⟨v, hv, hleft rfl⟩, ⟨w, hw, htext.trans (by decide)⟩⟩

end BracketScript
