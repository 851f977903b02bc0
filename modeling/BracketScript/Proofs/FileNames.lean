import BracketScript.Proofs.Growth

/-! The name of the file counts for nothing in a run of the library's functions. Under another name
a run takes the same steps. -/

namespace BracketScript

variable {κ σ : Type}

def World.withFileName (w : World κ σ) (name : String) : World κ σ :=
  { w with context := { w.context with fileName := name } }

namespace Stepping

open StateTransition

/-- The same state but for the journal and the name of the file. -/
structure Renamed (name : String) (s s' : State κ σ) : Prop where
  control : s'.control = s.control
  frames : s'.frames = s.frames
  world : s'.machine.world = s.machine.world.withFileName name

namespace Renamed

variable {bodies : Bodies κ σ} {name : String} {K : List (Frame κ σ)} {m m' : Machine κ σ}

theorem resume (frame : Frame κ σ) (v : Value)
    (hw : m'.world = m.world.withFileName name) :
    Renamed name (Stepping.resume frame K m v) (Stepping.resume frame K m' v) := by
  cases frame with
  | output =>
    refine ⟨?_, rfl, hw⟩
    rw [Stepping.resume, hw]
    rfl
  | _ => exact ⟨rfl, rfl, hw⟩

theorem leave (hw : m'.world = m.world.withFileName name) (call : Call)
    (outcome : Except ScriptError Value) :
    (m'.leave call outcome).world = (m.leave call outcome).world.withFileName name := by
  change m'.world.withDepth (m'.world.context.depth - 1) = _
  rw [hw]
  rfl

theorem abort (frame : Frame κ σ) (e : ScriptError)
    (hw : m'.world = m.world.withFileName name) :
    Renamed name (Stepping.abort frame K m e) (Stepping.abort frame K m' e) := by
  cases frame with
  | active call next => exact ⟨rfl, rfl, leave hw call _⟩
  | _ => exact ⟨rfl, rfl, hw⟩

theorem makeCall (call : Call) (hw : m'.world = m.world.withFileName name) :
    Renamed name (Stepping.makeCall bodies call K m) (Stepping.makeCall bodies call K m') := by
  have hchain : m'.world.chain = m.world.chain := by
    rw [hw]
    rfl
  have hdepth : m'.depth = m.depth := by
    rw [Machine.depth, hw]
    rfl
  rw [Stepping.makeCall, Stepping.makeCall, hchain, hdepth]
  cases resolve m.world.chain call.name with
  | error e => exact ⟨rfl, rfl, hw⟩
  | ok code =>
    dsimp only
    split
    · exact ⟨rfl, rfl, hw⟩
    · refine ⟨rfl, rfl, ?_⟩
      change m'.world.withDepth (m'.depth + 1) = _
      rw [hdepth, hw]
      rfl

theorem serve {call : Call} {q : Request κ σ} {runs : Prop} (hq : call.MayAsk runs q)
    (next : q.Reply → Routine κ σ Value) (hw : m'.world = m.world.withFileName name) :
    Renamed name (Stepping.serve call K m q next) (Stepping.serve call K m' q next) := by
  obtain ⟨w', journal'⟩ := m'
  obtain rfl : w' = m.world.withFileName name := hw
  cases hq <;> exact ⟨rfl, rfl, rfl⟩

theorem step {s s' t : State κ σ} (h : Renamed name s s') (ho : s.OfLibrary)
    (hs : Stepping.step bodies s = some t) :
    ∃ t', Stepping.step bodies s' = some t' ∧ Renamed name t t' := by
  obtain ⟨control', K', m'⟩ := s'
  obtain ⟨rfl, rfl, hw⟩ := h
  have hstopped : m'.world.context.stopped = s.machine.world.context.stopped := by
    rw [hw]
    rfl
  cases (step_eq_some_iff bodies).mp hs with
  | stop h => exact ⟨_, if_pos (hstopped.trans h), rfl, rfl, hw⟩
  | next h => exact ⟨_, if_neg (hstopped ▸ h), rfl, rfl, hw⟩
  | call => exact ⟨_, rfl, makeCall _ hw⟩
  | leave => exact ⟨_, rfl, rfl, rfl, leave hw _ _⟩
  | fail => exact ⟨_, rfl, rfl, rfl, leave hw _ _⟩
  | ask => exact ⟨_, rfl, serve ho.control.1 _ hw⟩
  | resume => exact ⟨_, rfl, resume _ _ hw⟩
  | abort => exact ⟨_, rfl, abort _ _ hw⟩
  | _ => exact ⟨_, rfl, rfl, rfl, hw⟩

theorem reaches {s s' t : State Builtin σ} (h : Renamed name s s') (ho : s.OfLibrary)
    (hs : Reaches (Stepping.step Builtin.body) s t) :
    ∃ t', Reaches (Stepping.step Builtin.body) s' t' ∧ Renamed name t t' := by
  induction hs with
  | refl => exact ⟨s', .refl, h⟩
  | tail hu hstep ih =>
    obtain ⟨u', hu', hrenamed⟩ := ih
    obtain ⟨t', ht', hlast⟩ := hrenamed.step (ho.reaches hu).1 hstep
    exact ⟨t', hu'.tail ht', hlast⟩

end Renamed

end Stepping

open Stepping in
/-- Under another name a run has the same outcome and leaves the same world. -/
theorem Engine.runWith_withFileName (e : Engine Builtin) (context : Context Builtin) (host : σ)
    (name source : String) :
    let run := e.runWith Builtin.body context host source
    let renamed := e.runWith Builtin.body { context with fileName := name } host source
    renamed.1 = run.1 ∧ renamed.2.world = run.2.world.withFileName name := by
  intro run renamed
  have hstart : Renamed name (State.start e context host source)
      (State.start e { context with fileName := name } host source) := ⟨rfl, rfl, rfl⟩
  have hlibrary : (State.start e context host source).OfLibrary :=
    .start (Control.ofCompiled_ne_routine _) (by simp [Frame.Bounded])
  obtain ⟨⟨control, K, m⟩, hreach, hcontrol, hK, hw⟩ :=
    hstart.reaches hlibrary (reaches_runWith Builtin.body e context host source)
  dsimp only at hcontrol hK hw
  subst hcontrol hK
  obtain ⟨houtcome, hmachine⟩ := ended_unique (reaches_runWith Builtin.body e _ host source) hreach
  exact ⟨houtcome, hmachine ▸ hw⟩

end BracketScript
