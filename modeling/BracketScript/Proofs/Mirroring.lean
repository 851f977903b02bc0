import BracketScript.Proofs.Termination
import BracketScript.Proofs.Variation

/-! Two runs side by side, from machines with the same world. The second one evaluates tokens that are
related to those of the first one, and does the same. -/

namespace BracketScript

open Stepping StateTransition

variable {κ σ α β : Type}

theorem perform_bind (dispatch : Call → Run κ σ Value) (r : Routine κ σ α)
    (f : α → Routine κ σ β) :
    perform dispatch (r >>= f) = perform dispatch r >>= fun a => perform dispatch (f a) := by
  induction r with
  | done a => rfl
  | fail e => rfl
  | ask q next ih =>
    have hnext : (fun reply => perform dispatch (next reply >>= f)) =
        fun reply => perform dispatch (next reply) >>= fun a => perform dispatch (f a) :=
      funext ih
    change (answer dispatch q >>= fun reply => perform dispatch (next reply >>= f)) = _
    rw [hnext, perform, bind_assoc]

/-- The calls inside a call are carried out like that call itself, without a budget of their own. -/
theorem start_callFunction (bodies : Bodies κ σ) (call : Call) (m : Machine κ σ) :
    Run.start m (callFunction bodies call) =
      match resolve m.world.chain call.name with
      | .error e => (.error e, m)
      | .ok code =>
        if maxNesting ≤ m.depth then (.error (.failed call.name .nestedTooDeep), m)
        else Run.start m (Run.whileActive call (perform (callFunction bodies) (bodies code call))) := by
  have hcall : Computes bodies (.call call) (callFunction bodies call) m :=
    computes_callFunction call m
  have hstep : step bodies ⟨.call call, [], m⟩ = some (makeCall bodies call [] m) := rfl
  have hends {outcome : Except ScriptError Value} {m' : Machine κ σ}
      (h : Reaches (step bodies) (makeCall bodies call [] m) ⟨.done outcome, [], m'⟩) :
      Run.start m (callFunction bodies call) = (outcome, m') := by
    obtain ⟨houtcome, hmachine⟩ := ended_unique (hcall []) (.head hstep h)
    exact Prod.ext houtcome hmachine
  rw [makeCall] at hends
  cases hr : resolve m.world.chain call.name with
  | error e =>
    rw [hr] at hends
    exact hends .refl
  | ok code =>
    rw [hr] at hends
    dsimp only at hends ⊢
    by_cases hdeep : maxNesting ≤ m.depth
    · rw [if_pos hdeep] at hends ⊢
      exact hends .refl
    · rw [if_neg hdeep] at hends ⊢
      have hcalls : ∀ callee m', m'.depth = m.depth + 1 →
          Computes bodies (.call callee) (callFunction bodies callee) m' :=
        fun callee m' _ => computes_callFunction callee m'
      exact hends (finishes_perform hcalls call (bodies code call) (m.depth_enter call) [])

namespace Run

/-- From `m` on the second run mirrors the first one: as long as all that has been recorded is
`allowed`, it has the same outcome and leaves the same world. The first run only adds to the journal
and leaves as many calls active as it found. -/
structure Mirrors (allowed : Happening κ σ → Prop) (m : Machine κ σ) (run run' : Run κ σ α) :
    Prop where
  depth : (start m run).2.depth = m.depth
  grows : m.journal <:+ (start m run).2.journal
  agrees : (∀ h ∈ (start m run).2.journal, allowed h) → ∀ m', m'.world = m.world →
    (start m' run').1 = (start m run).1 ∧ (start m' run').2.world = (start m run).2.world

namespace Mirrors

variable {allowed : Happening κ σ → Prop} {m : Machine κ σ} {run run' : Run κ σ α}

/-- Whether it is mirrored may be judged with all that it records in sight. -/
theorem assuming (hself : Mirrors allowed m run run)
    (h : (∀ h ∈ (start m run).2.journal, allowed h) → Mirrors allowed m run run') :
    Mirrors allowed m run run' :=
  ⟨hself.depth, hself.grows, fun hallowed => (h hallowed).agrees hallowed⟩

theorem congr {other other' : Run κ σ α} (h : Mirrors allowed m run run')
    (hother : start m other = start m run)
    (hother' : ∀ m', m'.world = m.world → start m' other' = start m' run') :
    Mirrors allowed m other other' := by
  obtain ⟨hdepth, hgrows, hagrees⟩ := h
  rw [← hother] at hdepth hgrows hagrees
  refine ⟨hdepth, hgrows, fun hallowed m' hw => ?_⟩
  rw [hother' m' hw]
  exact hagrees hallowed m' hw

/-- What records nothing mirrors itself if it depends on the world alone. -/
theorem immediate (hdepth : (start m run).2.depth = m.depth)
    (hjournal : (start m run).2.journal = m.journal)
    (hworld : ∀ journal, (start ⟨m.world, journal⟩ run).1 = (start m run).1 ∧
      (start ⟨m.world, journal⟩ run).2.world = (start m run).2.world) :
    Mirrors allowed m run run := by
  refine ⟨hdepth, hjournal ▸ List.suffix_rfl, fun _ m' hw => ?_⟩
  obtain ⟨w, journal⟩ := m'
  obtain rfl : w = m.world := hw
  exact hworld journal

theorem pure (a : α) : Mirrors allowed m (Pure.pure a) (Pure.pure a) :=
  immediate rfl rfl fun _ => ⟨rfl, rfl⟩

theorem throw (e : ScriptError) :
    Mirrors allowed m (throw e : Run κ σ α) (throw e) :=
  immediate rfl rfl fun _ => ⟨rfl, rfl⟩

theorem getWorld : Mirrors allowed m getWorld getWorld :=
  immediate rfl rfl fun _ => ⟨rfl, rfl⟩

theorem ofExcept (x : Except ScriptError α) :
    Mirrors allowed m (MonadExcept.ofExcept x) (MonadExcept.ofExcept x) := by
  cases x with
  | error e => exact throw e
  | ok a => exact pure a

theorem bind {f f' : α → Run κ σ β} (h : Mirrors allowed m run run')
    (hf : ∀ a m', start m run = (.ok a, m') → m'.depth = m.depth →
      Mirrors allowed m' (f a) (f' a)) :
    Mirrors allowed m (run >>= f) (run' >>= f') := by
  obtain ⟨hdepth, hgrows, hagrees⟩ := h
  rcases hr : start m run with ⟨e | a, m₁⟩
  · rw [hr] at hdepth hgrows hagrees
    have hbind := start_bind_error f hr
    refine ⟨by rw [hbind]; exact hdepth, by rw [hbind]; exact hgrows, fun hallowed m' hw => ?_⟩
    rw [hbind] at hallowed ⊢
    obtain ⟨houtcome, hworld⟩ := hagrees hallowed m' hw
    have hr' : start m' run' = (.error e, (start m' run').2) := Prod.ext houtcome rfl
    rw [start_bind_error f' hr']
    exact ⟨rfl, hworld⟩
  · rw [hr] at hdepth hgrows hagrees
    obtain ⟨hdepth', hgrows', hagrees'⟩ := hf a m₁ hr hdepth
    have hbind := start_bind_ok f hr
    refine ⟨by rw [hbind]; exact hdepth'.trans hdepth, by rw [hbind]; exact hgrows.trans hgrows',
      fun hallowed m' hw => ?_⟩
    rw [hbind] at hallowed ⊢
    obtain ⟨houtcome, hworld⟩ := hagrees (fun h hh => hallowed h (hgrows'.subset hh)) m' hw
    have hr' : start m' run' = (.ok a, (start m' run').2) := Prod.ext houtcome rfl
    rw [start_bind_ok f' hr']
    exact hagrees' hallowed _ hworld

theorem whileActive {call call' : Call} {run run' : Run κ σ Value}
    (h : Mirrors allowed (m.enter call) run run') :
    Mirrors allowed m (whileActive call run) (whileActive call' run') := by
  obtain ⟨hdepth, hgrows, hagrees⟩ := h
  rw [Machine.depth_enter] at hdepth
  refine ⟨?_, ?_, fun hallowed m' hw => ?_⟩
  · rw [start_whileActive, Machine.depth_leave, hdepth]
    rfl
  · exact ((List.suffix_cons _ _).trans hgrows).trans (List.suffix_cons _ _)
  · obtain ⟨houtcome, hworld⟩ := hagrees (fun h hh => hallowed h (List.mem_cons_of_mem _ hh)) _
      (Machine.world_enter hw call call')
    exact ⟨houtcome, Machine.world_leave hworld _ _ _ _⟩

end Mirrors

end Run

section Walk

/-! Walking over tokens, at a depth where calls mirror those that they are related to. -/

open Run

def MirrorsCalls (R : Token → Token → Prop) (allowed : Happening κ σ → Prop)
    (dispatch : Call → Run κ σ Value) (d : Nat) : Prop :=
  ∀ call call' m, m.depth = d → R call.toToken call'.toToken →
    Mirrors allowed m (dispatch call) (dispatch call')

variable {R : Token → Token → Prop} {allowed : Happening κ σ → Prop} {d : Nat}
  {dispatch : Call → Run κ σ Value} {ts ts' : List Token} {m : Machine κ σ}

namespace MirrorsCalls

theorem token (hR : Token.Likeness R) (hcall : MirrorsCalls R allowed dispatch d) {t t' : Token}
    (ht : R t t') (hm : m.depth = d) :
    Mirrors allowed m (evaluateToken dispatch t) (evaluateToken dispatch t') := by
  cases hR.kind t t' ht with
  | literal p p' v => exact .pure _
  | punctuation p p' mark => exact .throw _
  | call p p' name args args' => exact hcall ⟨p, name, args⟩ ⟨p', name, args'⟩ m hm ht

theorem tokens (hR : Token.Likeness R) (hcall : MirrorsCalls R allowed dispatch d)
    (hts : List.Forall₂ R ts ts') (hm : m.depth = d) :
    Mirrors allowed m (evaluateTokens dispatch ts) (evaluateTokens dispatch ts') := by
  induction hts generalizing m with
  | nil => exact .pure _
  | cons ht _ ih =>
    refine Mirrors.getWorld.bind fun w m' _ hm' => ?_
    by_cases hstop : w.context.stopped = true
    · rw [if_pos hstop, if_pos hstop]
      exact .pure _
    · rw [if_neg hstop, if_neg hstop]
      refine (hcall.token hR ht (hm'.trans hm)).bind fun v m'' _ hm'' => ?_
      exact (ih (hm''.trans (hm'.trans hm))).bind fun vs _ _ _ => .pure _

theorem sequence (hR : Token.Likeness R) (hcall : MirrorsCalls R allowed dispatch d)
    (hts : List.Forall₂ R ts ts') (hm : m.depth = d) :
    Mirrors allowed m (evaluateSequence dispatch ts) (evaluateSequence dispatch ts') :=
  (hcall.tokens hR hts hm).bind fun _ _ _ _ => .pure _

theorem answer (hR : Token.Likeness R) (hcall : MirrorsCalls R allowed dispatch d)
    (q : Request κ σ) (hm : m.depth = d) :
    Mirrors allowed m (answer dispatch q) (answer dispatch q) := by
  cases q with
  | evaluate tokens => exact hcall.sequence hR (hR.tokens tokens) hm
  | invoke call => exact hcall call call m hm (hR.same _)
  | execute source =>
    refine Mirrors.getWorld.bind fun w m' _ hm' => ?_
    refine (Mirrors.ofExcept _).bind fun program m'' _ hm'' => ?_
    exact hcall.sequence hR (hR.tokens program) (hm''.trans (hm'.trans hm))
  | _ => exact .immediate rfl rfl fun _ => ⟨rfl, rfl⟩

theorem perform (hR : Token.Likeness R) (hcall : MirrorsCalls R allowed dispatch d)
    {r r' : Routine κ σ α} (hr : r.Varies R r') (hm : m.depth = d) :
    Mirrors allowed m (perform dispatch r) (perform dispatch r') := by
  induction hr generalizing m with
  | done a => exact .pure a
  | fail e => exact .throw e
  | evaluate hts _ ih =>
    exact (hcall.sequence hR hts hm).bind fun v m' _ hm' => ih v (hm'.trans hm)
  | invoke hrelated _ ih =>
    exact (hcall _ _ m hm hrelated).bind fun v m' _ hm' => ih v (hm'.trans hm)
  | ask q _ ih =>
    exact (hcall.answer hR q hm).bind fun reply m' _ hm' => ih reply (hm'.trans hm)

theorem perform_bind (hR : Token.Likeness R) (hcall : MirrorsCalls R allowed dispatch d)
    {r r' : Routine κ σ α} {f f' : α → Routine κ σ β} (hr : r.Varies R r') (hm : m.depth = d)
    (hf : ∀ a m', start m (BracketScript.perform dispatch r) = (.ok a, m') → m'.depth = d →
      Mirrors allowed m' (BracketScript.perform dispatch (f a))
        (BracketScript.perform dispatch (f' a))) :
    Mirrors allowed m (BracketScript.perform dispatch (r >>= f))
      (BracketScript.perform dispatch (r' >>= f')) := by
  rw [BracketScript.perform_bind, BracketScript.perform_bind]
  exact (hcall.perform hR hr hm).bind fun a m' ha hm' => hf a m' ha (hm'.trans hm)

end MirrorsCalls

end Walk

section Calls

open Run

variable {R : Token → Token → Prop} {allowed : Happening κ σ → Prop} {bodies : Bodies κ σ}
  {call call' : Call} {m : Machine κ σ}

theorem mirrors_of_bodies (hname : call'.name = call.name)
    (hbody : ∀ code, resolve m.world.chain call.name = .ok code → m.depth < maxNesting →
      Mirrors allowed (m.enter call) (perform (callFunction bodies) (bodies code call))
        (perform (callFunction bodies) (bodies code call'))) :
    Mirrors allowed m (callFunction bodies call) (callFunction bodies call') := by
  have hrun := start_callFunction bodies call m
  have hrun' (m' : Machine κ σ) (hw : m'.world = m.world) := by
    have hrun' := start_callFunction bodies call' m'
    have hdepth : m'.depth = m.depth := congrArg (fun w => w.context.depth) hw
    rw [hw, hdepth, hname] at hrun'
    exact hrun'
  cases hr : resolve m.world.chain call.name with
  | error e =>
    rw [hr] at hrun hrun'
    exact (Mirrors.throw e).congr hrun hrun'
  | ok code =>
    rw [hr] at hrun hrun'
    dsimp only at hrun hrun'
    by_cases hdeep : maxNesting ≤ m.depth
    · rw [if_pos hdeep] at hrun
      exact (Mirrors.throw _).congr hrun fun m' hw => (hrun' m' hw).trans (if_pos hdeep)
    · rw [if_neg hdeep] at hrun
      have hmirrors := hbody code hr (Nat.lt_of_not_le hdeep)
      exact hmirrors.whileActive.congr hrun fun m' hw => (hrun' m' hw).trans (if_neg hdeep)

/-- Where a call may be recorded, the body of its function is mirrored by that of every related call,
if the calls inside are. -/
def MirrorsBodies (R : Token → Token → Prop) (allowed : Happening κ σ → Prop)
    (bodies : Bodies κ σ) : Prop :=
  ∀ (call call' : Call) (code : κ) (m : Machine κ σ), R call.toToken call'.toToken →
    resolve m.world.chain call.name = .ok code → allowed (.entered call (m.enter call).world) →
    MirrorsCalls R allowed (callFunction bodies) (m.depth + 1) →
    Mirrors allowed (m.enter call) (perform (callFunction bodies) (bodies code call))
      (perform (callFunction bodies) (bodies code call'))

theorem mirrors_callFunction (hR : Token.Likeness R) (hbodies : MirrorsBodies R allowed bodies)
    (hinner : m.depth < maxNesting →
      MirrorsCalls R allowed (callFunction bodies) (m.depth + 1))
    (h : R call.toToken call'.toToken) :
    Mirrors allowed m (callFunction bodies call) (callFunction bodies call') := by
  have hname : call'.name = call.name := by
    obtain ⟨p, name, args⟩ := call
    obtain ⟨p', name', args'⟩ := call'
    cases hR.kind _ _ h
    rfl
  refine mirrors_of_bodies hname fun code hcode hlt => ?_
  have hcall := hinner hlt
  have hself := hcall.perform hR (.same (bodies code call)) (m.depth_enter call)
  refine hself.assuming fun hallowed => ?_
  -- the call itself has been recorded
  have hentered := hallowed _ (hself.grows.subset List.mem_cons_self)
  exact hbodies call call' code m h hcode hentered hcall

theorem mirrorsCalls_callFunction (hR : Token.Likeness R)
    (hbodies : MirrorsBodies R allowed bodies) (d : Nat) :
    MirrorsCalls R allowed (callFunction bodies) d := by
  -- by the number of calls that may still be made inside one another
  induction hn : maxNesting - d generalizing d with
  | zero =>
    rintro call call' m rfl h
    exact mirrors_callFunction hR hbodies (fun hlt => by omega) h
  | succ n ih =>
    rintro call call' m rfl h
    exact mirrors_callFunction hR hbodies (fun _ => ih (m.depth + 1) (by omega)) h

/-- Calls mirror themselves, and nothing is asked of what they record. -/
theorem mirrorsCalls_self (bodies : Bodies κ σ) (d : Nat) :
    MirrorsCalls Eq (fun _ => True) (callFunction bodies) d := by
  refine mirrorsCalls_callFunction Token.likeness_eq ?_ d
  rintro ⟨p, name, args⟩ ⟨p', name', args'⟩ code m hcall - - hinner
  obtain ⟨rfl, rfl, rfl⟩ := Token.call.inj hcall
  exact hinner.perform Token.likeness_eq (.same _) (m.depth_enter _)

theorem mirrors_runProgram (hR : Token.Likeness R) (hbodies : MirrorsBodies R allowed bodies)
    {program program' : Program} (h : List.Forall₂ R program program') :
    Mirrors allowed m (runProgram bodies program) (runProgram bodies program') := by
  have hcalls := mirrorsCalls_callFunction hR hbodies m.depth
  refine (hcalls.sequence hR h rfl).bind fun v m' _ _ => Mirrors.getWorld.bind fun w _ _ _ => ?_
  by_cases htrim : w.context.options.trimOutput = true
  · rw [if_pos htrim]
    exact .pure _
  · rw [if_neg htrim]
    exact .pure _

end Calls

end BracketScript
