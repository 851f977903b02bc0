import BracketScript.Proofs.Sequences
import BracketScript.Proofs.Stepping

/-! Every run ends. Step by step it comes to the outcome that evaluation by recursion has, though no
step counts the calls that are left. -/

namespace BracketScript

namespace Stepping

open StateTransition

variable {κ σ : Type} {bodies : Bodies κ σ}

/-- Whatever waits for its value, a control comes to the outcome of a computation. -/
def Computes (bodies : Bodies κ σ) (c : Control κ σ) (run : Run κ σ Value) (m : Machine κ σ) :
    Prop :=
  ∀ K, Reaches (step bodies) ⟨c, K, m⟩ ⟨.done (Run.start m run).1, K, (Run.start m run).2⟩

/-- The function of an active call comes to the outcome of a computation, and the call is left. -/
def Finishes (bodies : Bodies κ σ) (call : Call) (c : Control κ σ) (inner : List (Frame κ σ))
    (run : Run κ σ Value) (m : Machine κ σ) : Prop :=
  ∀ K, Reaches (step bodies) ⟨c, inner ++ K, m⟩
    ⟨.done (Run.start m run).1, K, (Run.start m run).2.leave call (Run.start m run).1⟩

/-- A computation leaves as many calls active as it found. -/
theorem Computes.depth_eq {c : Control κ σ} {run : Run κ σ Value} {m : Machine κ σ}
    (h : Computes bodies c run m) (hc : ∀ call rest, c ≠ .routine call rest) :
    (Run.start m run).2.depth = m.depth :=
  ((Contained.start hc rfl rfl).reaches (h [])).depth_eq

section Walk

/-! Walking over tokens at a depth where all calls come to their outcomes. -/

variable {d : Nat} {dispatch : Call → Run κ σ Value}

theorem computes_visit
    (hcall : ∀ call m, m.depth = d → Computes bodies (.call call) (dispatch call) m) (t : Token)
    {m : Machine κ σ} (hm : m.depth = d) :
    Computes bodies (.visit t) (evaluateToken dispatch t) m := by
  intro K
  cases t with
  | literal p v => exact .single rfl
  | punctuation p mark => exact .single rfl
  | call p name args =>
    have h := hcall ⟨p, name, args⟩ m hm (.visit (.call p name args) :: K)
    refine Relation.ReflTransGen.head rfl (h.tail ?_)
    change _ = some _
    rw [evaluateToken]
    cases (Run.start m (dispatch ⟨p, name, args⟩)).1 with
    | ok v => rfl
    | error e => rfl

theorem reaches_of_sequence
    (hcall : ∀ call m, m.depth = d → Computes bodies (.call call) (dispatch call) m)
    (ts : List Token) (values : List Value) {m : Machine κ σ} (hm : m.depth = d)
    (K : List (Frame κ σ)) :
    Reaches (step bodies) ⟨.sequence ts values, K, m⟩
      ⟨.done ((Run.start m (evaluateTokens dispatch ts)).1.map
        fun vs => Value.fold (values.reverse ++ vs)), K,
        (Run.start m (evaluateTokens dispatch ts)).2⟩ := by
  induction ts generalizing values m with
  | nil =>
    refine .single ?_
    simp [evaluateTokens, step, Except.map]
  | cons t ts ih =>
    by_cases hstop : m.world.context.stopped = true
    · have hrun := start_evaluateTokens_of_stopped dispatch hstop (t :: ts)
      refine .single ?_
      simp [hrun, step, hstop, Except.map]
    · have hrun := start_evaluateTokens_cons dispatch hstop t ts
      have hfirst : step bodies ⟨.sequence (t :: ts) values, K, m⟩ =
          some ⟨.visit t, .sequence t ts values :: K, m⟩ := by
        rw [step, if_neg hstop]
      have hvisit := computes_visit hcall t hm
      have hd := hvisit.depth_eq (by simp)
      refine Relation.ReflTransGen.head hfirst ((hvisit (.sequence t ts values :: K)).trans ?_)
      rw [hrun]
      rcases hv : Run.start m (evaluateToken dispatch t) with ⟨e | v, m'⟩
      · rw [Run.start_bind_error _ hv]
        exact .single rfl
      · rw [Run.start_bind_ok _ hv, Run.start_bind_pure]
        rw [hv, hm] at hd
        have hresume : step bodies ⟨.done (.ok v), .sequence t ts values :: K, m'⟩ =
            some ⟨.sequence ts (v :: values), K, m'⟩ := rfl
        refine Relation.ReflTransGen.head hresume ?_
        have hrest := ih (v :: values) (m := m') hd
        rcases hvs : Run.start m' (evaluateTokens dispatch ts) with ⟨e | vs, m''⟩
        · rw [hvs] at hrest
          exact hrest
        · rw [hvs] at hrest
          simp only [Except.map, List.reverse_cons, List.append_assoc, List.singleton_append]
            at hrest
          exact hrest

theorem computes_sequence
    (hcall : ∀ call m, m.depth = d → Computes bodies (.call call) (dispatch call) m)
    (ts : List Token) {m : Machine κ σ} (hm : m.depth = d) :
    Computes bodies (.sequence ts []) (evaluateSequence dispatch ts) m := by
  intro K
  rw [evaluateSequence, Run.start_bind_pure]
  exact reaches_of_sequence hcall ts [] hm K

theorem computes_compiled
    (hcall : ∀ call m, m.depth = d → Computes bodies (.call call) (dispatch call) m)
    (compiled : Except ScriptError Program) {m : Machine κ σ} (hm : m.depth = d) :
    Computes bodies (.ofCompiled compiled)
      (MonadExcept.ofExcept compiled >>= evaluateSequence dispatch) m := by
  intro K
  cases compiled with
  | error e =>
    rw [Run.start_bind_error _ (Run.start_ofExcept m _)]
    exact .refl
  | ok program =>
    rw [Run.start_bind_ok _ (Run.start_ofExcept m _)]
    exact computes_sequence hcall program hm K

theorem Computes.finishes {call : Call} {c : Control κ σ} {run : Run κ σ Value}
    {next : Value → Routine κ σ Value} {m : Machine κ σ} (h : Computes bodies c run m)
    (hc : ∀ call rest, c ≠ .routine call rest)
    (hnext : ∀ v m', m'.depth = m.depth →
      Finishes bodies call (.routine call (next v)) [] (perform dispatch (next v)) m') :
    Finishes bodies call c [.active call next] (run >>= fun v => perform dispatch (next v)) m := by
  intro K
  have hd := h.depth_eq hc
  refine (h (.active call next :: K)).trans ?_
  rcases hr : Run.start m run with ⟨e | v, m'⟩
  · rw [Run.start_bind_error _ hr]
    exact .single rfl
  · rw [Run.start_bind_ok _ hr]
    rw [hr] at hd
    exact Relation.ReflTransGen.head rfl (hnext v m' hd K)

theorem finishes_perform
    (hcall : ∀ call m, m.depth = d → Computes bodies (.call call) (dispatch call) m)
    (call : Call) (r : Routine κ σ Value) {m : Machine κ σ} (hm : m.depth = d) :
    Finishes bodies call (.routine call r) [] (perform dispatch r) m := by
  induction r generalizing m with
  | done v => exact fun K => .single rfl
  | fail e => exact fun K => .single rfl
  | ask q next ih =>
    intro K
    cases q with
    | evaluate tokens =>
      have h := (computes_sequence hcall tokens hm).finishes (by simp)
        fun v m' hd => ih v (hd.trans hm)
      exact Relation.ReflTransGen.head rfl (h K)
    | invoke callee =>
      have h := (hcall callee m hm).finishes (by simp) fun v m' hd => ih v (hd.trans hm)
      exact Relation.ReflTransGen.head rfl (h K)
    | execute source =>
      have h := (computes_compiled hcall
        (compile m.world.context.options.strictBrackets source) hm).finishes
          (Control.ofCompiled_ne_routine _) fun v m' hd => ih v (hd.trans hm)
      exact Relation.ReflTransGen.head rfl (h K)
    | _ =>
      -- answered at once, by a machine with the same depth
      refine Relation.ReflTransGen.head rfl (ih _ ?_ K)
      exact hm

end Walk

theorem computes_unknown (budget : Nat) {call : Call} {m : Machine κ σ} {e : ScriptError}
    (hr : resolve m.world.chain call.name = .error e) :
    Computes bodies (.call call) (callWithin bodies budget call) m := by
  intro K
  have hrun : Run.start m (callWithin bodies budget call) = (.error e, m) := by
    rw [callWithin, Run.start_bind_ok _ (Run.start_getWorld m), hr,
      Run.start_bind_error _ (Run.start_ofExcept m _)]
  rw [hrun]
  refine .single ?_
  simp [step, makeCall, hr]

/-- The calls that are left are those that the check at each call leaves. -/
theorem computes_callWithin (budget : Nat) (call : Call) {m : Machine κ σ}
    (hm : maxNesting - m.depth = budget) :
    Computes bodies (.call call) (callWithin bodies budget call) m := by
  induction budget generalizing call m with
  | zero =>
    cases hr : resolve m.world.chain call.name with
    | error e => exact computes_unknown 0 hr
    | ok code =>
      intro K
      have hdeep : maxNesting ≤ m.depth := by omega
      rw [callWithin, Run.start_bind_ok _ (Run.start_getWorld m), hr,
        Run.start_bind_ok _ (Run.start_ofExcept m _), Run.start_throw]
      refine .single ?_
      simp [step, makeCall, hr, hdeep]
  | succ budget ih =>
    cases hr : resolve m.world.chain call.name with
    | error e => exact computes_unknown (budget + 1) hr
    | ok code =>
      intro K
      have hroom : ¬ maxNesting ≤ m.depth := by omega
      have hfirst : step bodies ⟨.call call, K, m⟩ =
          some ⟨.routine call (bodies code call), K, m.enter call⟩ := by
        simp [step, makeCall, hr, hroom]
      -- inside the call the depth is one more, and so the budget that fits it is one less
      have hcall : ∀ callee m', m'.depth = m.depth + 1 →
          Computes bodies (.call callee) (callWithin bodies budget callee) m' := by
        intro callee m' hm'
        exact ih callee (by omega)
      have h := finishes_perform hcall call (bodies code call) (m.depth_enter call)
      rw [callWithin, Run.start_bind_ok _ (Run.start_getWorld m), hr,
        Run.start_bind_ok _ (Run.start_ofExcept m _), Run.start_whileActive]
      exact Relation.ReflTransGen.head hfirst (h K)

theorem computes_callFunction (call : Call) (m : Machine κ σ) :
    Computes bodies (.call call) (callFunction bodies call) m := by
  intro K
  rw [callFunction, Run.start_bind_ok _ (Run.start_getWorld m)]
  exact computes_callWithin _ call rfl K

def State.start (e : Engine κ) (context : Context κ) (host : σ) (source : String) : State κ σ :=
  ⟨.ofCompiled (e.compile source), [.output], e.machine context host⟩

/-- A run of a program as a whole. -/
def State.running (program : Program) (m : Machine κ σ) : State κ σ :=
  ⟨.sequence program [], [.output], m⟩

theorem reaches_compiled (bodies : Bodies κ σ) (compiled : Except ScriptError Program)
    (m : Machine κ σ) :
    let run := Run.start m (MonadExcept.ofExcept compiled >>= runProgram bodies)
    Reaches (step bodies) ⟨.ofCompiled compiled, [.output], m⟩ ⟨.done run.1, [], run.2⟩ := by
  let walk : Run κ σ Value :=
    MonadExcept.ofExcept compiled >>= evaluateSequence (callFunction bodies)
  have hrun : Run.start m (MonadExcept.ofExcept compiled >>= runProgram bodies) =
      Run.start m (walk >>= fun v => do
        if (← Run.getWorld).context.options.trimOutput then return v.trimmed else return v) := by
    simp only [walk, bind_assoc]
    rfl
  have h : Computes bodies (.ofCompiled compiled) walk m :=
    computes_compiled (fun call m' _ => computes_callFunction call m') compiled rfl
  rw [hrun]
  refine (h [.output]).tail ?_
  change _ = some _
  rcases hr : Run.start m walk with ⟨error | v, m'⟩
  · rw [Run.start_bind_error _ hr]
    rfl
  · rw [Run.start_bind_ok _ hr, Run.start_bind_ok _ (Run.start_getWorld m')]
    by_cases htrim : m'.world.context.options.trimOutput = true
    · simp [step, resume, htrim]
    · simp [step, resume, htrim]

theorem reaches_runProgram (bodies : Bodies κ σ) (program : Program) (m : Machine κ σ) :
    Reaches (step bodies) (.running program m)
      ⟨.done (Run.start m (runProgram bodies program)).1, [],
        (Run.start m (runProgram bodies program)).2⟩ :=
  reaches_compiled bodies (.ok program) m

theorem reaches_runWith (bodies : Bodies κ σ) (e : Engine κ) (context : Context κ) (host : σ)
    (source : String) :
    Reaches (step bodies) (.start e context host source)
      ⟨.done (e.runWith bodies context host source).1, [],
        (e.runWith bodies context host source).2⟩ :=
  reaches_compiled bodies (e.compile source) (e.machine context host)

/-- A run that ends passes through all that it reaches. -/
theorem reaches_of_ended {s s' t : State κ σ} (hs : Reaches (step bodies) s s')
    (ht : Reaches (step bodies) s t) (hend : step bodies t = none) :
    Reaches (step bodies) s' t := by
  have h := mem_eval.mpr ⟨ht, hend⟩
  rw [reaches_eval hs] at h
  exact (mem_eval.mp h).1

/-- There is one end to a run. -/
theorem ended_unique {s : State κ σ} {outcome outcome' : Except ScriptError Value}
    {m m' : Machine κ σ} (h : Reaches (step bodies) s ⟨.done outcome, [], m⟩)
    (h' : Reaches (step bodies) s ⟨.done outcome', [], m'⟩) : outcome = outcome' ∧ m = m' := by
  have hend := mem_eval.mpr ⟨h, step_done bodies outcome m⟩
  have hend' := mem_eval.mpr ⟨h', step_done bodies outcome' m'⟩
  have hsame := Part.mem_unique hend hend'
  simp only [State.mk.injEq, Control.done.injEq] at hsame
  exact ⟨hsame.1, hsame.2.2⟩

theorem contained_of_reaches (e : Engine κ) (context : Context κ) (host : σ) (source : String)
    {s : State κ σ} (hs : Reaches (step bodies) (.start e context host source) s) :
    Contained context.depth s :=
  (Contained.start (m := e.machine context host) (Control.ofCompiled_ne_routine _) rfl rfl).reaches
    hs

end Stepping

open Stepping StateTransition

/-- Whatever has been done in a run, its steps come to an end, with the outcome that evaluation by
recursion has. The evaluations that are going on get smaller inwards in a well-founded order, and
the calls that are active were all counted and are no more than were left. -/
theorem runWith_terminates {σ : Type} (e : Engine Builtin) (context : Context Builtin) (host : σ)
    (source : String) :
    WellFounded (fun x y : ℕ ×ₗ ℕ => x < y) ∧
    ∀ s, Reaches (step Builtin.body) (.start e context host source) s →
      ⟨.done (e.runWith Builtin.body context host source).1, [],
        (e.runWith Builtin.body context host source).2⟩ ∈ eval (step Builtin.body) s ∧
      (s.evaluations context.depth).Pairwise (fun x y => x < y) ∧
      s.machine.depth = context.depth + s.active ∧
      s.active ≤ maxNesting - context.depth := by
  refine ⟨wellFounded_lt, fun s hs => ?_⟩
  have hrun := reaches_runWith Builtin.body e context host source
  have hc := contained_of_reaches e context host source hs
  refine ⟨?_, hc.decreasing, hc.depth_eq, hc.active_le⟩
  rw [← reaches_eval hs]
  exact mem_eval.mpr ⟨hrun, step_done _ _ _⟩

end BracketScript
