import BracketScript.Proofs.Conduct

/-! What a run may change. Requests are added to those before, variables stay set, a stop stays, and
nothing else of the world is touched, whatever the outcome. Calls that were entered are left. -/

namespace BracketScript

theorem Table.contains_insert {α : Type} {t : Table α} {key : String} (h : t.contains key = true)
    (other : String) (value : α) : (t.insert other value).contains key = true := by
  by_cases he : key = other
  · subst he
    simp [contains]
  · simpa [contains, he] using h

variable {κ σ : Type}

/-- How a world may come out of another by the doings of the library, but for the depth. -/
structure World.Grows (w w' : World κ σ) : Prop where
  actions : w.context.actions <+: w'.context.actions
  vars : ∀ name, w.context.vars.contains name = true → w'.context.vars.contains name = true
  stopped : w.context.stopped = true → w'.context.stopped = true
  scope : w'.context.scope = w.context.scope
  root : w'.root = w.root
  options : w'.context.options = w.context.options
  fileName : w'.context.fileName = w.context.fileName
  event : w'.context.event = w.context.event
  host : w'.host = w.host

/-- How a world may come out of another by a computation from its start to its end. -/
structure World.Keeps (w w' : World κ σ) : Prop extends w.Grows w' where
  depth : w'.context.depth = w.context.depth

namespace World.Grows

theorem refl (w : World κ σ) : w.Grows w :=
  ⟨List.prefix_rfl, fun _ h => h, fun h => h, rfl, rfl, rfl, rfl, rfl, rfl⟩

theorem trans {w w' w'' : World κ σ} (h : w.Grows w') (h' : w'.Grows w'') : w.Grows w'' where
  actions := h.actions.trans h'.actions
  vars name hn := h'.vars name (h.vars name hn)
  stopped hs := h'.stopped (h.stopped hs)
  scope := h'.scope.trans h.scope
  root := h'.root.trans h.root
  options := h'.options.trans h.options
  fileName := h'.fileName.trans h.fileName
  event := h'.event.trans h.event
  host := h'.host.trans h.host

theorem withDepth (w : World κ σ) (depth : Nat) : w.Grows (w.withDepth depth) :=
  { refl w with }

end World.Grows

namespace Stepping

open StateTransition

variable {bodies : Bodies κ σ} {K : List (Frame κ σ)} {m : Machine κ σ}

theorem grows_serve {call : Call} {runs : Prop} {q : Request κ σ} (hq : call.MayAsk runs q)
    (next : q.Reply → Routine κ σ Value) :
    m.world.Grows (serve call K m q next).machine.world := by
  cases hq with
  | setVariable name value =>
    exact { World.Grows.refl m.world with vars := fun _ h => Table.contains_insert h name value }
  | pushAction action =>
    exact { World.Grows.refl m.world with actions := List.prefix_append _ _ }
  | stop => exact { World.Grows.refl m.world with stopped := fun _ => rfl }
  | _ => exact .refl m.world

theorem State.OfLibrary.grows {s s' : State κ σ} (h : s.OfLibrary)
    (hs : Stepping.step bodies s = some s') : s.machine.world.Grows s'.machine.world := by
  obtain ⟨depth, hw⟩ | ⟨call, q, next, hcontrol, rfl⟩ := world_step hs
  · rw [hw]
    exact .withDepth _ depth
  · have hrest := h.control
    rw [hcontrol] at hrest
    exact grows_serve hrest.1 next

theorem State.OfLibrary.reaches {s s' : State Builtin σ} (h : s.OfLibrary)
    (hs : Reaches (Stepping.step Builtin.body) s s') :
    s'.OfLibrary ∧ s.machine.world.Grows s'.machine.world := by
  induction hs with
  | refl => exact ⟨h, .refl _⟩
  | tail _ hstep ih =>
    obtain ⟨hu, hgrows⟩ := ih
    exact ⟨hu.step hstep, hgrows.trans (hu.grows hstep)⟩

/-- Where no call is active around it, what comes to its end has left all that it has entered. -/
theorem keeps_of_ended {c : Control Builtin σ} {K : List (Frame Builtin σ)}
    {m m' : Machine Builtin σ} {outcome : Except ScriptError Value}
    (hc : ∀ call rest, c ≠ .routine call rest) (ha : activeFrames K = 0)
    (hw : waiting m.depth K = [])
    (hK : ∀ frame ∈ K, frame.Bounded (fun call => call.MayAsk True) Call.MayFail)
    (h : Reaches (step Builtin.body) ⟨c, K, m⟩ ⟨.done outcome, [], m'⟩) :
    m.world.Keeps m'.world := by
  have ho : State.OfLibrary (⟨c, K, m⟩ : State Builtin σ) := .start hc hK
  exact ⟨(ho.reaches h).2, ((Contained.start hc ha hw).reaches h).depth_eq⟩

theorem Computes.keeps {c : Control Builtin σ} {run : Run Builtin σ Value}
    {m : Machine Builtin σ} (h : Computes Builtin.body c run m)
    (hc : ∀ call rest, c ≠ .routine call rest) : m.world.Keeps (Run.start m run).2.world :=
  keeps_of_ended hc rfl rfl (by simp) (h [])

theorem computes_evaluateNodes (bodies : Bodies κ σ) (tokens : List Token) (m : Machine κ σ) :
    Computes bodies (.sequence tokens []) (evaluateNodes bodies tokens) m :=
  computes_sequence (fun call m' _ => computes_callFunction call m') tokens rfl

end Stepping

open Stepping StateTransition

/-- From its start to its end a run, and every call and evaluation in it, leaves what it finds, but
that it adds requests and sets variables and may stop the run. A function that is called finds one
call more active than its caller. -/
theorem runs_keep (σ : Type) :
    (∀ (e : Engine Builtin) (context : Context Builtin) (host : σ) (source : String),
      (e.machine context host).world.Keeps
        (e.runWith Builtin.body context host source).2.world) ∧
    ∀ (program : Program) (m : Machine Builtin σ),
      m.world.Keeps (Run.start m (runProgram Builtin.body program)).2.world ∧
      ∀ s, Reaches (step Builtin.body) (.running program m) s →
        (∀ call, s.control = .call call →
          let called := Run.start s.machine (callFunction Builtin.body call)
          Reaches (step Builtin.body) s ⟨.done called.1, s.frames, called.2⟩ ∧
          s.machine.world.Keeps called.2.world ∧
          ∀ s' rest, Reaches (step Builtin.body) s s' → s'.control = .routine call rest →
            s'.frames = s.frames → s'.machine.depth = s.machine.depth + 1) ∧
        ∀ tokens, s.control = .sequence tokens [] →
          let evaluated := Run.start s.machine (evaluateNodes Builtin.body tokens)
          Reaches (step Builtin.body) s ⟨.done evaluated.1, s.frames, evaluated.2⟩ ∧
          s.machine.world.Keeps evaluated.2.world := by
  have houtput : ∀ frame ∈ ([.output] : List (Frame Builtin σ)),
      frame.Bounded (fun call => call.MayAsk True) Call.MayFail := by
    simp [Frame.Bounded]
  refine ⟨fun e context host source => ?_, fun program m => ⟨?_, fun s hs => ?_⟩⟩
  · exact keeps_of_ended (Control.ofCompiled_ne_routine _) rfl rfl houtput
      (reaches_runWith Builtin.body e context host source)
  · exact keeps_of_ended (by simp) rfl rfl houtput (reaches_runProgram Builtin.body program m)
  -- the depth counts the active calls, and these can be read off the frames
  have hstart : Contained m.depth (State.running program m) := .start (by simp) rfl rfl
  have hs' := hstart.reaches hs
  obtain ⟨control, K, m'⟩ := s
  constructor
  · rintro call rfl
    have hcomputes : Computes Builtin.body (.call call) _ m' := computes_callFunction call m'
    refine ⟨hcomputes K, hcomputes.keeps (by simp), ?_⟩
    rintro ⟨control, K', m''⟩ rest hr rfl rfl
    have hd : m'.depth = m.depth + activeFrames K' := hs'.depth_eq
    have hd' : m''.depth = m.depth + (activeFrames K' + 1) :=
      (hstart.reaches (hs.trans hr)).depth_eq
    exact hd'.trans (by rw [hd, Nat.add_assoc])
  · rintro tokens rfl
    have hcomputes := computes_evaluateNodes Builtin.body tokens m'
    exact ⟨hcomputes K, hcomputes.keeps (by simp)⟩

/-- A call whose last argument stops the run. -/
theorem runs_keep_stopping :
    let e : Engine Builtin := Engine.ofRegistry Builtin.registry
    let m : Machine Builtin Unit := e.machine (e.prepare "stopping") ()
    let args : List (List Token) := [[.text ⟨1, 6⟩ "x"], [.call ⟨1, 8⟩ "$stop" []]]
    let call : Call := ⟨⟨1, 1⟩, "$let", args⟩
    let t : Token := .call ⟨1, 1⟩ "$let" args
    let K : List (Frame Builtin Unit) := [.visit t, .sequence t [] [], .output]
    Reaches (step Builtin.body) (.running [t] m) ⟨.call call, K, m⟩ ∧
      m.world.Keeps (Run.start m (callFunction Builtin.body call)).2.world ∧
      step Builtin.body ⟨.call call, K, m⟩ =
        some ⟨.routine call (Builtin.letBe.body call), K, m.enter call⟩ ∧
      (m.enter call).depth = m.depth + 1 := by
  intro e m args call t K
  have hmade : Reaches (step Builtin.body) (.running [t] m) ⟨.call call, K, m⟩ :=
    .head rfl (.single rfl)
  have hinvokes : State.Invokes ⟨.call call, K, m⟩ call .letBe :=
    ⟨rfl, Builtin.resolve_name .letBe, Nat.zero_lt_succ 63⟩
  have hentered := hinvokes.step_eq Builtin.body
  have hlast : Reaches (step Builtin.body) ⟨.call call, K, m⟩
      ⟨.routine call (Builtin.letBe.body call), K, m.enter call⟩ := .single hentered
  obtain ⟨-, hkeeps, hdepth⟩ := (((runs_keep Unit).2 [t] m).2 _ hmade).1 call rfl
  dsimp only at hkeeps
  exact ⟨hmade, hkeeps, hentered, hdepth _ _ hlast rfl rfl⟩

end BracketScript
