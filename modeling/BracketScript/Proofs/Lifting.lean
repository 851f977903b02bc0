import BracketScript.Proofs.Orderly

/-! A run goes the same way above other frames and with more calls active around it, as long as it
does not come to the limit there. -/

namespace BracketScript

variable {κ σ : Type}

/-- The same machine but for the journal, with `k` more calls active. -/
def Machine.Deeper (k : Nat) (m m' : Machine κ σ) : Prop :=
  m'.world = m.world.withDepth (m.depth + k)

namespace Machine.Deeper

variable {k : Nat} {m m' : Machine κ σ}

theorem depth (h : Deeper k m m') : m'.depth = m.depth + k := by
  rw [Machine.depth, h]
  rfl

theorem enter (h : Deeper k m m') (call : Call) : Deeper k (m.enter call) (m'.enter call) := by
  have hd : m'.depth + 1 = m.depth + 1 + k := by
    have hd' := h.depth
    omega
  change m'.world.withDepth (m'.depth + 1) = (m.world.withDepth (m.depth + 1)).withDepth _
  rw [hd, h]
  rfl

theorem leave (h : Deeper k m m') (hm : 0 < m.depth) (call : Call)
    (outcome : Except ScriptError Value) :
    Deeper k (m.leave call outcome) (m'.leave call outcome) := by
  have hd : m'.depth - 1 = m.depth - 1 + k := by
    have hd' := h.depth
    omega
  change m'.world.withDepth (m'.depth - 1) = (m.world.withDepth (m.depth - 1)).withDepth _
  rw [hd, h]
  rfl

theorem world_leave (h : Deeper 1 m m') (call : Call) (outcome : Except ScriptError Value) :
    (m'.leave call outcome).world = m.world := by
  have hd : m'.depth - 1 = m.depth := by
    have hd' := h.depth
    omega
  change m'.world.withDepth (m'.depth - 1) = m.world
  rw [hd, h]
  rfl

end Machine.Deeper

namespace Stepping

open StateTransition

/-- The same state above the frames `low`, with `k` more calls active. -/
structure Lifted (k : Nat) (low : List (Frame κ σ)) (s s' : State κ σ) : Prop where
  control : s'.control = s.control
  frames : s'.frames = s.frames ++ low
  machine : s.machine.Deeper k s'.machine

namespace Lifted

variable {bodies : Bodies κ σ} {k : Nat} {low K : List (Frame κ σ)} {m m' : Machine κ σ}

theorem resume (frame : Frame κ σ) (v : Value) (hm : m.Deeper k m') :
    Lifted k low (Stepping.resume frame K m v) (Stepping.resume frame (K ++ low) m' v) := by
  cases frame with
  | output =>
    have hw : m'.world = m.world.withDepth (m.depth + k) := hm
    refine ⟨?_, rfl, hm⟩
    rw [Stepping.resume, hw]
    rfl
  | _ => exact ⟨rfl, rfl, hm⟩

theorem abort {base : Nat} {frame : Frame κ σ} {e : ScriptError} (hm : m.Deeper k m')
    (hc : Contained base ⟨.done (.error e), frame :: K, m⟩) :
    Lifted k low (Stepping.abort frame K m e) (Stepping.abort frame (K ++ low) m' e) := by
  cases frame with
  | active call next =>
    have hd : m.depth = base + (activeFrames K + 1) := hc.depth_eq
    exact ⟨rfl, rfl, hm.leave (by omega) call _⟩
  | _ => exact ⟨rfl, rfl, hm⟩

/-- A call that can be made is not one too many either where `k` more are active. -/
theorem makeCall {call : Call} (hm : m.Deeper k m')
    (hroom : (Stepping.makeCall bodies call K m).machine.depth + k ≤ maxNesting) :
    Lifted k low (Stepping.makeCall bodies call K m)
      (Stepping.makeCall bodies call (K ++ low) m') := by
  have hw : m'.world = m.world.withDepth (m.depth + k) := hm
  have hchain : m'.world.chain = m.world.chain := by
    rw [hw]
    rfl
  rw [Stepping.makeCall] at hroom ⊢
  rw [Stepping.makeCall, hchain]
  cases hr : resolve m.world.chain call.name with
  | error e => exact ⟨rfl, rfl, hm⟩
  | ok code =>
    rw [hr] at hroom
    dsimp only at hroom ⊢
    have hd := hm.depth
    by_cases hdeep : maxNesting ≤ m.depth
    · rw [if_pos hdeep, if_pos (by omega)]
      exact ⟨rfl, rfl, hm⟩
    · rw [if_neg hdeep] at hroom ⊢
      have hdepth : m.depth + 1 + k ≤ maxNesting := hroom
      rw [if_neg (by omega)]
      exact ⟨rfl, rfl, hm.enter call⟩

/-- Nothing that the library asks for depends on how many calls are active. -/
theorem serve {call : Call} {q : Request κ σ} {next : q.Reply → Routine κ σ Value}
    (hq : q.OfLibrary) (hm : m.Deeper k m') :
    Lifted k low (Stepping.serve call K m q next) (Stepping.serve call (K ++ low) m' q next) := by
  obtain ⟨w', journal'⟩ := m'
  obtain rfl : w' = m.world.withDepth (m.depth + k) := hm
  cases hq <;> exact ⟨rfl, rfl, rfl⟩

theorem step {base : Nat} {s s' t : State κ σ} (h : Lifted k low s s') (ho : s.Orderly)
    (hc : Contained base s) (hs : Stepping.step bodies s = some t)
    (hroom : t.machine.depth + k ≤ maxNesting) :
    ∃ t', Stepping.step bodies s' = some t' ∧ Lifted k low t t' := by
  obtain ⟨control', K', m'⟩ := s'
  obtain ⟨rfl, rfl, hm⟩ := h
  have hw : m'.world = s.machine.world.withDepth (s.machine.depth + k) := hm
  have hstopped : m'.world.context.stopped = s.machine.world.context.stopped := by
    rw [hw]
    rfl
  cases (step_eq_some_iff bodies).mp hs with
  | finish => exact ⟨_, rfl, rfl, rfl, hm⟩
  | stop h => exact ⟨_, if_pos (hstopped.trans h), rfl, rfl, hm⟩
  | next h => exact ⟨_, if_neg (hstopped ▸ h), rfl, rfl, hm⟩
  | literal => exact ⟨_, rfl, rfl, rfl, hm⟩
  | head => exact ⟨_, rfl, rfl, rfl, hm⟩
  | stray => cases ho.control
  | call => exact ⟨_, rfl, makeCall hm hroom⟩
  | leave => exact ⟨_, rfl, rfl, rfl, hm.leave hc.depth_pos _ _⟩
  | fail => exact ⟨_, rfl, rfl, rfl, hm.leave hc.depth_pos _ _⟩
  | ask => exact ⟨_, rfl, serve ho.control.1 hm⟩
  | resume => exact ⟨_, rfl, resume _ _ hm⟩
  | abort => exact ⟨_, rfl, abort hm hc⟩

theorem reaches {base : Nat} {s s' t : State κ σ}
    (hbody : ∀ code call, call.toToken.IsNode → (bodies code call).Orderly)
    (h : Lifted k low s s') (ho : s.Orderly) (hc : Contained base s)
    (hs : Reaches (Stepping.step bodies) s t)
    (hroom : ∀ u, Reaches (Stepping.step bodies) s u → u.machine.depth + k ≤ maxNesting) :
    ∃ t', Reaches (Stepping.step bodies) s' t' ∧ Lifted k low t t' := by
  induction hs with
  | refl => exact ⟨s', .refl, h⟩
  | tail hu hstep ih =>
    obtain ⟨u', hu', hlifted⟩ := ih
    obtain ⟨t', ht', hlast⟩ :=
      hlifted.step (ho.reaches hbody hu) (hc.reaches hu) hstep (hroom _ (hu.tail hstep))
    exact ⟨t', hu'.tail ht', hlast⟩

end Lifted

end Stepping

end BracketScript
