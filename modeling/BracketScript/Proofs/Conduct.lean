import BracketScript.Proofs.Requests
import BracketScript.Proofs.Termination

/-! How the functions of a run conduct themselves. Those at work and those that wait for a value ask
for no more, and fail in no other way, than they may with the calls they were given. -/

namespace BracketScript

namespace Builtin

theorem mem_all (f : Builtin) : f ∈ all := by
  cases f <;> decide

/-- With the standard registry every function of the library is found under its own name. -/
theorem resolve_name (f : Builtin) :
    resolve [Table.empty, Scope.ofRegistry registry] f.name = .ok f := by
  have hlookup : ∀ f ∈ all, lookup? [Table.empty, Scope.ofRegistry registry] f.name = some f := by
    decide +kernel
  rw [resolve, hlookup f f.mem_all]

end Builtin

namespace Stepping

open StateTransition

variable {κ σ : Type} (asks : Call → Request κ σ → Prop) (fails : Call → ScriptError → Prop)

def Control.Bounded : Control κ σ → Prop
  | .routine c rest => rest.Within (asks c) (fails c)
  | _ => True

def Frame.Bounded : Frame κ σ → Prop
  | .active call next => ∀ v, (next v).Within (asks call) (fails call)
  | _ => True

structure State.Bounded (s : State κ σ) : Prop where
  control : s.control.Bounded asks fails
  frames : ∀ frame ∈ s.frames, frame.Bounded asks fails

variable {asks fails} {bodies : Bodies κ σ} {K : List (Frame κ σ)} {m : Machine κ σ}

namespace State.Bounded

/-- Where no function is at work, all that counts is those that wait. -/
theorem start {c : Control κ σ} (hc : ∀ call rest, c ≠ .routine call rest)
    (hK : ∀ frame ∈ K, frame.Bounded asks fails) : Bounded asks fails ⟨c, K, m⟩ := by
  refine ⟨?_, hK⟩
  cases c with
  | routine call rest => exact absurd rfl (hc call rest)
  | _ => trivial

theorem running (program : Program) (m : Machine κ σ) :
    (State.running program m).Bounded asks fails :=
  start (by simp) (by simp [Frame.Bounded])

theorem resume {frame : Frame κ σ} {v : Value}
    (h : Bounded asks fails ⟨.done (.ok v), frame :: K, m⟩) :
    (Stepping.resume frame K m v).Bounded asks fails := by
  have ⟨hframe, hK⟩ := List.forall_mem_cons.mp h.frames
  cases frame with
  | active call next => exact ⟨hframe v, hK⟩
  | _ => exact ⟨trivial, hK⟩

theorem abort {frame : Frame κ σ} {e : ScriptError}
    (h : Bounded asks fails ⟨.done (.error e), frame :: K, m⟩) :
    (Stepping.abort frame K m e).Bounded asks fails := by
  have hK := (List.forall_mem_cons.mp h.frames).2
  cases frame <;> exact ⟨trivial, hK⟩

theorem makeCall {call : Call} (h : Bounded asks fails ⟨.call call, K, m⟩)
    (hbody : ∀ code, State.Invokes ⟨.call call, K, m⟩ call code →
      (bodies code call).Within (asks call) (fails call)) :
    (Stepping.makeCall bodies call K m).Bounded asks fails := by
  obtain ⟨code, hcode, hs⟩ | ⟨e, -, hs⟩ | ⟨-, hs⟩ := makeCall_cases bodies call K m
  · rw [hs]
    exact ⟨hbody code hcode, h.frames⟩
  · rw [hs]
    exact ⟨trivial, h.frames⟩
  · rw [hs]
    exact ⟨trivial, h.frames⟩

theorem serve {call : Call} {q : Request κ σ} {next : q.Reply → Routine κ σ Value}
    (h : Bounded asks fails ⟨.routine call (.ask q next), K, m⟩) :
    (Stepping.serve call K m q next).Bounded asks fails := by
  obtain ⟨⟨-, hnext⟩, hK⟩ := h
  cases q with
  | evaluate tokens => exact ⟨trivial, List.forall_mem_cons.mpr ⟨hnext, hK⟩⟩
  | invoke callee => exact ⟨trivial, List.forall_mem_cons.mpr ⟨hnext, hK⟩⟩
  | execute source =>
    refine start (Control.ofCompiled_ne_routine _) (List.forall_mem_cons.mpr ⟨hnext, hK⟩)
  | _ => exact ⟨hnext _, hK⟩

theorem step {s s' : State κ σ} (h : s.Bounded asks fails)
    (hbody : ∀ call code, s.Invokes call code → (bodies code call).Within (asks call) (fails call))
    (hs : Stepping.step bodies s = some s') : s'.Bounded asks fails := by
  cases (step_eq_some_iff bodies).mp hs with
  | next => exact ⟨trivial, List.forall_mem_cons.mpr ⟨trivial, h.frames⟩⟩
  | head => exact ⟨trivial, List.forall_mem_cons.mpr ⟨trivial, h.frames⟩⟩
  | call => exact h.makeCall fun code => hbody _ code
  | ask => exact h.serve
  | resume => exact h.resume
  | abort => exact h.abort
  | _ => exact ⟨trivial, h.frames⟩

theorem reaches {s s' : State κ σ} (h : s.Bounded asks fails)
    (hbody : ∀ u, Reaches (Stepping.step bodies) s u → ∀ call code, u.Invokes call code →
      (bodies code call).Within (asks call) (fails call))
    (hs : Reaches (Stepping.step bodies) s s') : s'.Bounded asks fails := by
  induction hs with
  | refl => exact h
  | tail hu hstep ih => exact ih.step (hbody _ hu) hstep

end State.Bounded

/-- No functions but those of the library are at work. -/
abbrev State.OfLibrary (s : State κ σ) : Prop :=
  s.Bounded (fun call => call.MayAsk True) Call.MayFail

theorem State.OfLibrary.step {s s' : State Builtin σ} (h : s.OfLibrary)
    (hs : Stepping.step Builtin.body s = some s') : s'.OfLibrary :=
  Bounded.step h (fun call f _ => (f.bounds_body call).mono (fun _ hq => hq.mono fun _ => trivial)
    fun _ he => he) hs

end Stepping

end BracketScript
