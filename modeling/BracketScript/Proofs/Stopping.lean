import BracketScript.Proofs.Growth
import BracketScript.Proofs.Sequences

/-! How a stopped run ends. Once the flag is raised no call is made any more, at any depth. What is
still at work goes on, but all that it has evaluated is undefined and touches nothing. -/

namespace BracketScript

variable {κ σ : Type}

def Happening.entered? : Happening κ σ → Option Call
  | entered call _ => some call
  | left .. => none

namespace Machine

/-- The calls that were entered, the last first. -/
def entered (m : Machine κ σ) : List Call :=
  m.journal.filterMap Happening.entered?

def IsStopped (m : Machine κ σ) : Prop :=
  m.world.context.stopped = true

end Machine

namespace Stepping

open StateTransition

/-- No token is visited and no call made. -/
def Control.IsCalm : Control κ σ → Prop
  | .visit _ | .call _ => False
  | _ => True

def State.StopsCalls (s : State κ σ) : Prop :=
  s.machine.IsStopped → s.control.IsCalm

variable {bodies : Bodies κ σ} {K : List (Frame κ σ)} {m : Machine κ σ}

theorem Control.isCalm_ofCompiled (compiled : Except ScriptError Program) :
    (ofCompiled compiled : Control κ σ).IsCalm := by
  cases compiled <;> trivial

/-- The library asks for evaluations and never for a call. -/
theorem isCalm_serve {call : Call} {runs : Prop} {q : Request κ σ} (hq : call.MayAsk runs q)
    (next : q.Reply → Routine κ σ Value) : (serve call K m q next).control.IsCalm := by
  cases hq with
  | execute _ source => exact Control.isCalm_ofCompiled _
  | _ => trivial

theorem entered_serve {call : Call} {runs : Prop} {q : Request κ σ} (hq : call.MayAsk runs q)
    (next : q.Reply → Routine κ σ Value) : (serve call K m q next).machine.entered = m.entered := by
  cases hq <;> rfl

theorem isStopped_of_makeCall {call : Call}
    (h : (makeCall bodies call K m).machine.IsStopped) : m.IsStopped := by
  obtain ⟨code, -, hc⟩ | ⟨e, -, hc⟩ | ⟨-, hc⟩ := makeCall_cases bodies call K m <;>
    · rw [hc] at h
      exact h

namespace State.StopsCalls

theorem running (program : Program) (m : Machine κ σ) : (State.running program m).StopsCalls :=
  fun _ => trivial

theorem step {s s' : State κ σ} (h : s.StopsCalls) (ho : s.OfLibrary)
    (hs : Stepping.step bodies s = some s') : s'.StopsCalls := by
  intro hstopped
  cases (step_eq_some_iff bodies).mp hs with
  | next hn => exact absurd hstopped hn
  | head => exact absurd (h hstopped) id
  | call => exact absurd (h (isStopped_of_makeCall hstopped)) id
  | ask => exact isCalm_serve ho.control.1 _
  | @resume v frame K m => cases frame <;> trivial
  | @abort e frame K m => cases frame <;> trivial
  | _ => trivial

theorem entered_step {s s' : State κ σ} (h : s.StopsCalls) (ho : s.OfLibrary)
    (hstopped : s.machine.IsStopped) (hs : Stepping.step bodies s = some s') :
    s'.machine.entered = s.machine.entered := by
  cases (step_eq_some_iff bodies).mp hs with
  | call => exact absurd (h hstopped) id
  | ask => exact entered_serve ho.control.1 _
  | @resume v frame K m => cases frame <;> rfl
  | @abort e frame K m => cases frame <;> rfl
  | _ => rfl

theorem reaches {s s' : State Builtin σ} (h : s.StopsCalls) (ho : s.OfLibrary)
    (hs : Reaches (Stepping.step Builtin.body) s s') : s'.StopsCalls := by
  induction hs with
  | refl => exact h
  | tail hu hstep ih => exact ih.step (ho.reaches hu).1 hstep

theorem entered_reaches {s s' : State Builtin σ} (h : s.StopsCalls) (ho : s.OfLibrary)
    (hstopped : s.machine.IsStopped) (hs : Reaches (Stepping.step Builtin.body) s s') :
    s'.machine.IsStopped ∧ s'.machine.entered = s.machine.entered := by
  induction hs with
  | refl => exact ⟨hstopped, rfl⟩
  | tail hu hstep ih =>
    obtain ⟨hu', hgrows⟩ := ho.reaches hu
    have hcalm := h.reaches ho hu
    exact ⟨(hu'.grows hstep).stopped ih.1, (hcalm.entered_step hu' ih.1 hstep).trans ih.2⟩

end State.StopsCalls

theorem step_sequence_of_stopped (h : m.IsStopped) (tokens : List Token) :
    step bodies ⟨.sequence tokens [], K, m⟩ = some ⟨.done (.ok .undefined), K, m⟩ := by
  cases tokens with
  | nil => rfl
  | cons t ts => exact if_pos h

/-- A flag that is raised while tokens are evaluated is up when they have been. -/
theorem isStopped_evaluateNodes {tokens : List Token} {m : Machine Builtin σ}
    {s : State Builtin σ} (hs : Reaches (step Builtin.body) ⟨.sequence tokens [], [], m⟩ s)
    (hstopped : s.machine.IsStopped) :
    (Run.start m (evaluateNodes Builtin.body tokens)).2.IsStopped := by
  have hstart : State.OfLibrary (⟨.sequence tokens [], [], m⟩ : State Builtin σ) :=
    .start (by simp) (by simp)
  have hend := reaches_of_ended hs (computes_evaluateNodes Builtin.body tokens m [])
    (step_done Builtin.body _ _)
  exact ((hstart.reaches hs).1.reaches hend).2.stopped hstopped

end Stepping

open Stepping StateTransition

/-- After a stop no call is made or entered, and what starts to be evaluated is undefined at once. So
the tokens of a program after the one that stops it do not matter, and nothing happens in a context
that is stopped from the start. -/
theorem stopped_runs_end (σ : Type) :
    (∀ (program : Program) (m : Machine Builtin σ) (s : State Builtin σ),
      Reaches (step Builtin.body) (.running program m) s → s.machine.IsStopped →
      ∀ s', Reaches (step Builtin.body) s s' →
        s'.machine.IsStopped ∧ s'.machine.entered = s.machine.entered ∧
        (∀ call, s'.control ≠ .call call) ∧
        ∀ tokens, s'.control = .sequence tokens [] →
          step Builtin.body s' = some ⟨.done (.ok .undefined), s'.frames, s'.machine⟩) ∧
    (∀ (shared xs ys : Program) (m : Machine Builtin σ) (s : State Builtin σ),
      Reaches (step Builtin.body) ⟨.sequence shared [], [], m⟩ s → s.machine.IsStopped →
      Run.start m (runProgram Builtin.body (shared ++ xs)) =
        Run.start m (runProgram Builtin.body (shared ++ ys))) ∧
    ∀ (e : Engine Builtin) (context : Context Builtin) (host : σ) (source : String)
      (program : Program), e.compile source = .ok program → context.stopped = true →
      e.runWith Builtin.body context host source = (.ok .undefined, e.machine context host) := by
  refine ⟨fun program m s hs hstopped s' hs' => ?_, fun shared xs ys m s hs hstopped => ?_,
    fun e context host source program hcompile hstopped => ?_⟩
  · have hstart : (State.running program m).StopsCalls := .running program m
    have hlibrary : (State.running program m).OfLibrary := .running program m
    have ho := (hlibrary.reaches hs).1
    have hcalls := hstart.reaches hlibrary hs
    obtain ⟨hup, hentered⟩ := hcalls.entered_reaches ho hstopped hs'
    have hcalm := hcalls.reaches ho hs' hup
    refine ⟨hup, hentered, fun call hc => ?_, fun tokens ht => ?_⟩
    · rw [hc] at hcalm
      exact hcalm
    · obtain ⟨control, K, m'⟩ := s'
      obtain rfl : control = .sequence tokens [] := ht
      exact step_sequence_of_stopped hup tokens
  · have hup := isStopped_evaluateNodes hs hstopped
    have hnodes : ∀ zs, Run.start m (evaluateNodes Builtin.body (shared ++ zs)) =
        Run.start m (evaluateNodes Builtin.body shared) :=
      start_evaluateSequence_append_of_stopped (callFunction Builtin.body) hup
    exact Run.start_bind_congr _ ((hnodes xs).trans (hnodes ys).symm)
  · have hnodes : Run.start (e.machine context host) (evaluateNodes Builtin.body program) =
        (.ok .undefined, e.machine context host) :=
      start_evaluateSequence_of_stopped (callFunction Builtin.body) hstopped program
    rw [Engine.runWith, hcompile, Run.start_bind_ok _ (Run.start_ofExcept _ _), runProgram,
      Run.start_bind_ok _ hnodes, Run.start_bind_ok _ (Run.start_getWorld _)]
    split <;> rfl

/-- A stop before the call of a function that nothing is bound to. -/
theorem stopped_runs_end_before_unknown :
    let e : Engine Builtin := Engine.ofRegistry Builtin.registry
    let m : Machine Builtin Unit := e.machine (e.prepare "stop") ()
    let stop : Token := .call ⟨1, 1⟩ "$stop" []
    let unknown : Token := .call ⟨1, 6⟩ "$nope" []
    let call : Call := ⟨⟨1, 1⟩, "$stop", []⟩
    let up : Machine Builtin Unit :=
      (Run.start (m.enter call) (answer (fun _ => return .undefined) .stop)).2
    let K : List (Frame Builtin Unit) := [.visit stop, .sequence stop [unknown] [], .output]
    let stopped : Context Builtin := { e.prepare "stop" with stopped := true }
    Reaches (step Builtin.body) (.running [stop, unknown] m)
        ⟨.routine call (.done .undefined), K, up⟩ ∧
      up.IsStopped ∧ (up.leave call (.ok .undefined)).entered = [call] ∧
      Run.start m (runProgram Builtin.body ([stop] ++ [unknown])) =
        Run.start m (runProgram Builtin.body ([stop] ++ [])) ∧
      e.compile "$nope" = .ok [.call ⟨1, 1⟩ "$nope" []] ∧
      e.runWith Builtin.body stopped () "$nope" = (.ok .undefined, e.machine stopped ()) := by
  intro e m stop unknown call up K stopped
  have hinvokes (L : List (Frame Builtin Unit)) : State.Invokes ⟨.call call, L, m⟩ call .stop :=
    ⟨rfl, Builtin.resolve_name .stop, Nat.zero_lt_succ 63⟩
  have hraised (rest : List Token) (L : List (Frame Builtin Unit)) :
      Reaches (step Builtin.body) ⟨.sequence (stop :: rest) [], L, m⟩
        ⟨.routine call (.done .undefined), .visit stop :: .sequence stop rest [] :: L, up⟩ :=
    .head rfl (.head rfl (.head ((hinvokes _).step_eq _) (.single rfl)))
  have hleft : Reaches (step Builtin.body) ⟨.routine call (.done .undefined), K, up⟩
      ⟨.done (.ok .undefined), K, up.leave call (.ok .undefined)⟩ := .single rfl
  have hup : up.IsStopped := rfl
  have hcompile : e.compile "$nope" = .ok [.call ⟨1, 1⟩ "$nope" []] := by cbv
  obtain ⟨hend, hshared, hrun⟩ := stopped_runs_end Unit
  have hcalls := (hend [stop, unknown] m _ (hraised [unknown] [.output]) hup _ hleft).2.1
  have hsame := hshared [stop] [unknown] [] m _ (hraised [] []) hup
  exact ⟨hraised [unknown] [.output], hup, hcalls, hsame, hcompile,
    hrun e stopped () "$nope" _ hcompile rfl⟩

end BracketScript
