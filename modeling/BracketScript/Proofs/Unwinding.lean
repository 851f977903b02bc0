import BracketScript.Proofs.Termination

/-! How a run ends that fails. A call that fails makes the calls around it fail in the same way, the
inner ones first, and nothing else happens any more. -/

namespace BracketScript

variable {κ σ : Type}

def Happening.error? : Happening κ σ → Option ScriptError
  | left _ (.error e) _ => some e
  | _ => none

/-- The happening is that a call fails with `e`, and the world was then what `w` is, but for the
depth. -/
def Happening.Fails (e : ScriptError) (w : World κ σ) (h : Happening κ σ) : Prop :=
  ∃ call w', h = left call (.error e) w' ∧ w = w'.withDepth w.context.depth

theorem Happening.Fails.withDepth {e : ScriptError} {w : World κ σ} {h : Happening κ σ}
    (hf : h.Fails e w) (depth : Nat) : h.Fails e (w.withDepth depth) := by
  obtain ⟨call, w', rfl, hw⟩ := hf
  refine ⟨call, w', rfl, ?_⟩
  rw [hw]
  rfl

namespace Stepping

open StateTransition

/-- After what was `recorded` before, calls have failed only at the end, and then the run has come to
their error. -/
def State.Unwinds (recorded : List (Happening κ σ)) (s : State κ σ) : Prop :=
  ∃ failed others, s.machine.journal = failed ++ others ++ recorded ∧
    (∀ h ∈ failed, ∃ e, s.control = .done (.error e) ∧ h.Fails e s.machine.world) ∧
    ∀ h ∈ others, h.error? = none

variable {bodies : Bodies κ σ} {recorded : List (Happening κ σ)} {s s' : State κ σ}
  {K : List (Frame κ σ)} {m : Machine κ σ}

namespace State.Unwinds

theorem start (h : s.machine.journal = recorded) : s.Unwinds recorded :=
  ⟨[], [], h, by simp, by simp⟩

/-- As long as no error has come up nothing has failed. -/
theorem quiet (h : s.Unwinds recorded) (hc : ∀ e, s.control ≠ .done (.error e)) :
    ∃ others, s.machine.journal = others ++ recorded ∧ ∀ h ∈ others, h.error? = none := by
  obtain ⟨failed, others, hj, hfailed, hothers⟩ := h
  have hnil : failed = [] := by
    refine List.eq_nil_iff_forall_not_mem.mpr fun happening hmem => ?_
    obtain ⟨e, he, -⟩ := hfailed happening hmem
    exact hc e he
  subst hnil
  exact ⟨others, hj, hothers⟩

theorem silent (h : s.Unwinds recorded) (hc : ∀ e, s.control ≠ .done (.error e))
    (hj : s'.machine.journal = s.machine.journal) : s'.Unwinds recorded := by
  obtain ⟨others, hs, hothers⟩ := h.quiet hc
  exact ⟨[], others, hj.trans hs, by simp, hothers⟩

theorem record (h : s.Unwinds recorded) (hc : ∀ e, s.control ≠ .done (.error e))
    {happening : Happening κ σ} (hj : s'.machine.journal = happening :: s.machine.journal)
    (hnone : happening.error? = none) : s'.Unwinds recorded := by
  obtain ⟨others, hs, hothers⟩ := h.quiet hc
  refine ⟨[], happening :: others, ?_, by simp, List.forall_mem_cons.mpr ⟨hnone, hothers⟩⟩
  rw [hj, hs]
  rfl

theorem makeCall {call : Call} (h : Unwinds recorded ⟨.call call, K, m⟩) :
    (Stepping.makeCall bodies call K m).Unwinds recorded := by
  obtain ⟨code, -, hs⟩ | ⟨e, -, hs⟩ | ⟨-, hs⟩ := makeCall_cases bodies call K m
  · rw [hs]
    exact h.record nofun rfl rfl
  · rw [hs]
    exact h.silent nofun rfl
  · rw [hs]
    exact h.silent nofun rfl

theorem serve {call : Call} {q : Request κ σ} {next : q.Reply → Routine κ σ Value}
    (h : Unwinds recorded ⟨.routine call (.ask q next), K, m⟩) :
    (Stepping.serve call K m q next).Unwinds recorded := by
  have hj : (Stepping.serve call K m q next).machine.journal = m.journal := by
    cases q <;> rfl
  exact h.silent nofun hj

theorem fail {call : Call} {e : ScriptError}
    (h : Unwinds recorded ⟨.routine call (.fail e), K, m⟩) :
    Unwinds recorded ⟨.done (.error e), K, m.leave call (.error e)⟩ := by
  obtain ⟨others, hs, hothers⟩ := h.quiet nofun
  have hj : (m.leave call (.error e)).journal = _ :: m.journal := rfl
  refine ⟨[.left call (.error e) _], others, hj.trans (congrArg _ hs), fun happening hmem => ?_,
    hothers⟩
  obtain rfl := List.mem_singleton.mp hmem
  exact ⟨e, rfl, call, _, rfl, rfl⟩

theorem abort {frame : Frame κ σ} {e : ScriptError}
    (h : Unwinds recorded ⟨.done (.error e), frame :: K, m⟩) :
    (Stepping.abort frame K m e).Unwinds recorded := by
  obtain ⟨failed, others, hs, hfailed, hothers⟩ := h
  have hsame : ∀ happening ∈ failed, happening.Fails e m.world := by
    intro happening hmem
    obtain ⟨e', he, hfails⟩ := hfailed happening hmem
    obtain rfl := Except.error.inj (Control.done.inj he)
    exact hfails
  cases frame with
  | active call next =>
    -- the call that waits fails with the same error
    have hj : (m.leave call (.error e)).journal = _ :: m.journal := rfl
    refine ⟨.left call (.error e) _ :: failed, others, hj.trans (congrArg _ hs), ?_, hothers⟩
    refine List.forall_mem_cons.mpr ⟨⟨e, rfl, call, _, rfl, rfl⟩, fun happening hmem => ?_⟩
    exact ⟨e, rfl, (hsame happening hmem).withDepth _⟩
  | _ => exact ⟨failed, others, hs, fun happening hmem => ⟨e, rfl, hsame happening hmem⟩, hothers⟩

theorem step (h : s.Unwinds recorded) (hs : Stepping.step bodies s = some s') :
    s'.Unwinds recorded := by
  cases (step_eq_some_iff bodies).mp hs with
  | call => exact h.makeCall
  | leave => exact h.record nofun rfl rfl
  | fail => exact h.fail
  | ask => exact h.serve
  | @resume v frame K m => cases frame <;> exact h.silent nofun rfl
  | abort => exact h.abort
  | _ => exact h.silent nofun rfl

theorem reaches (h : s.Unwinds recorded) (hs : Reaches (Stepping.step bodies) s s') :
    s'.Unwinds recorded := by
  induction hs with
  | refl => exact h
  | tail _ hstep ih => exact ih.step hstep

/-- A failure among what the run has recorded is one of those at the end. -/
theorem cut {call : Call} {e : ScriptError} {w : World κ σ} {after before : List (Happening κ σ)}
    (h : s.Unwinds recorded)
    (hj : s.machine.journal = after ++ .left call (.error e) w :: before ++ recorded) :
    s.control = .done (.error e) ∧ s.machine.world = w.withDepth s.machine.depth ∧
      ∀ happening ∈ after, happening.Fails e s.machine.world := by
  obtain ⟨failed, others, hs, hfailed, hothers⟩ := h
  have hnot : ∀ us vs, others ≠ us ++ .left call (.error e) w :: vs := by
    rintro us vs rfl
    cases hothers (.left call (.error e) w) (by simp)
  have hsplit := List.append_cancel_right (hs.symm.trans hj)
  obtain ⟨us, -, hrest⟩ | ⟨us, hfirst, hrest⟩ := List.append_eq_append_iff.mp hsplit
  · exact absurd hrest (hnot us before)
  cases us with
  | nil => exact absurd hrest.symm (hnot [] before)
  | cons happening us =>
    obtain rfl := (List.cons.inj hrest).1
    obtain ⟨e', hcontrol, call', w', hleft, hworld⟩ := hfailed (.left call (.error e) w)
      (by simp [hfirst])
    obtain ⟨rfl, hoc, rfl⟩ := Happening.left.inj hleft
    obtain rfl := Except.error.inj hoc
    refine ⟨hcontrol, hworld, fun happening hmem => ?_⟩
    obtain ⟨e', hcontrol', hfails⟩ := hfailed happening (by simp [hfirst, hmem])
    obtain rfl := Except.error.inj (Control.done.inj (hcontrol.symm.trans hcontrol'))
    exact hfails

end State.Unwinds

end Stepping

open Stepping StateTransition

/-- When a call of the library or of the host has failed, the calls around it fail with its error and
so does the run. Nothing is called after it, and the world stays as it was then. -/
theorem failed_call_ends_run (bodies : Bodies κ σ) (program : Program) (m : Machine κ σ)
    {call : Call} {e : ScriptError} {w : World κ σ} {after before : List (Happening κ σ)}
    (h : (Run.start m (runProgram bodies program)).2.journal =
      after ++ .left call (.error e) w :: before ++ m.journal) :
    let run := Run.start m (runProgram bodies program)
    run.1 = .error e ∧ run.2.world = w.withDepth m.depth ∧
      ∀ happening ∈ after, ∃ call' w', happening = .left call' (.error e) w' := by
  intro run
  have hend := reaches_runProgram bodies program m
  have hstart : State.Unwinds m.journal (State.running program m) := .start rfl
  have hcontained : Contained m.depth (State.running program m) := .start (by simp) rfl rfl
  obtain ⟨hcontrol, hworld, hafter⟩ := (hstart.reaches hend).cut h
  have hdepth : run.2.depth = m.depth := (hcontained.reaches hend).depth_eq
  refine ⟨Control.done.inj hcontrol, hworld.trans (congrArg _ hdepth), fun happening hmem => ?_⟩
  obtain ⟨call', w', hleft, -⟩ := hafter happening hmem
  exact ⟨call', w', hleft⟩

/-- A function of the host fails in the argument of one of the library. -/
theorem failed_call_ends_run_of_host :
    let bodies : Bodies (Builtin ⊕ String) Unit :=
      Sum.elim Builtin.body fun text _ => .fail (.host text)
    let e : Engine (Builtin ⊕ String) := Engine.ofRegistry
      [("$sendMessage", .inl .sendMessage), ("$boom", .inr "no power")]
    let m : Machine (Builtin ⊕ String) Unit := e.machine (e.prepare "host") ()
    let boom : Call := ⟨⟨1, 14⟩, "$boom", []⟩
    let send : Call := ⟨⟨1, 1⟩, "$sendMessage", [[.call ⟨1, 14⟩ "$boom" []]]⟩
    let program : Program := [.call ⟨1, 1⟩ "$sendMessage" send.args, .call ⟨1, 20⟩ "$stop" []]
    let error : Except ScriptError Value := .error (.host "no power")
    let run := Run.start m (runProgram bodies program)
    run.2.journal = [.left send error m.world] ++ .left boom error (m.enter send).world ::
        [.entered boom ((m.enter send).enter boom).world, .entered send (m.enter send).world] ++
        m.journal ∧
      run.1 = error ∧ run.2.world = m.world := by
  intro bodies e m boom send program error run
  have hsend : resolve m.world.chain "$sendMessage" = .ok (.inl .sendMessage) := by
    have hlookup : lookup? m.world.chain "$sendMessage" = some (.inl .sendMessage) := by
      decide +kernel
    rw [resolve, hlookup]
  have hboom : resolve m.world.chain "$boom" = .ok (.inr "no power") := by
    have hlookup : lookup? m.world.chain "$boom" = some (.inr "no power") := by decide +kernel
    rw [resolve, hlookup]
  have hstop : ¬ m.world.context.stopped = true := Bool.false_ne_true
  have hdepth : m.depth = 0 := rfl
  -- nothing else of the engine matters
  clear_value m
  have hmade (L : List (Frame (Builtin ⊕ String) Unit)) :
      State.Invokes ⟨.call send, L, m⟩ send (.inl .sendMessage) :=
    ⟨rfl, hsend, hdepth ▸ Nat.zero_lt_succ 63⟩
  have hfailing (L : List (Frame (Builtin ⊕ String) Unit)) :
      State.Invokes ⟨.call boom, L, m.enter send⟩ boom (.inr "no power") :=
    ⟨rfl, hboom, Nat.succ_lt_succ (hdepth ▸ Nat.zero_lt_succ 62)⟩
  let m' := ((((m.enter send).enter boom).leave boom error).leave send error)
  have hends : Reaches (step bodies) (.running program m) ⟨.done error, [], m'⟩ := by
    refine .head (if_neg hstop) (.head rfl (.head ((hmade _).step_eq _) ?_))
    refine .head rfl (.head (if_neg hstop) (.head rfl (.head ((hfailing _).step_eq _) ?_)))
    refine .head rfl (.head rfl (.head rfl (.head rfl (.head rfl (.head rfl ?_)))))
    exact .single rfl
  obtain ⟨-, hm⟩ := ended_unique (reaches_runProgram bodies program m) hends
  have hjournal : run.2.journal = [.left send error m.world] ++
      .left boom error (m.enter send).world :: [.entered boom ((m.enter send).enter boom).world,
        .entered send (m.enter send).world] ++ m.journal := congrArg Machine.journal hm
  obtain ⟨herror, hworld, -⟩ := failed_call_ends_run bodies program m hjournal
  exact ⟨hjournal, herror, hworld⟩

end BracketScript
