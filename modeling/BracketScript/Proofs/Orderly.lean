import BracketScript.Proofs.Joining
import BracketScript.Proofs.Nodes
import BracketScript.Proofs.Requests
import BracketScript.Proofs.SyntaxFaults
import BracketScript.Proofs.Termination

/-! No script leads to a defect of the engine. All that is ever walked over came out of the reader,
also where a script has built it, and the functions of the library add nothing to it. -/

namespace BracketScript

variable {κ σ : Type}

/-- What the functions of the library ask for, given calls that came out of the reader. -/
inductive Request.OfLibrary : Request κ σ → Prop
  | evaluate {tokens : List Token} (h : ∀ t ∈ tokens, t.IsNode) : OfLibrary (.evaluate tokens)
  | execute (source : String) : OfLibrary (.execute source)
  | getVariable (name : String) : OfLibrary (.getVariable name)
  | setVariable (name : String) (value : Value) : OfLibrary (.setVariable name value)
  | pushAction (action : Action) : OfLibrary (.pushAction action)
  | stop : OfLibrary .stop
  | getEvent : OfLibrary .getEvent

theorem Call.MayAsk.ofLibrary {call : Call} {runs : Prop} {q : Request κ σ}
    (hc : call.toToken.IsNode) (h : call.MayAsk runs q) : q.OfLibrary := by
  cases h with
  | evaluate h =>
    refine .evaluate fun t ht => ?_
    obtain ⟨arg, harg, hmem⟩ := h t ht
    exact hc.args arg harg t hmem
  | execute _ source => exact .execute source
  | getVariable name => exact .getVariable name
  | setVariable name value => exact .setVariable name value
  | pushAction action => exact .pushAction action
  | stop => exact .stop
  | getEvent => exact .getEvent

theorem Call.MayFail.not_internal {call : Call} {e : ScriptError} (h : call.MayFail e) :
    e.isInternal = false := by
  obtain ⟨fault, -, rfl⟩ := h
  rfl

/-- A routine of the library at work on what came out of the reader. -/
abbrev Routine.Orderly {α : Type} (r : Routine κ σ α) : Prop :=
  r.Within Request.OfLibrary fun e => e.isInternal = false

theorem Builtin.body_orderly (f : Builtin) {call : Call} (h : call.toToken.IsNode) :
    (f.body call : Routine κ σ Value).Orderly :=
  (f.bounds_body call).mono (fun _ hq => hq.ofLibrary h) fun _ he => he.not_internal

theorem resolve_not_internal {chain : List (Scope κ)} {name : String} {e : ScriptError}
    (h : resolve chain name = .error e) : e.isInternal = false := by
  rw [resolve] at h
  split at h
  · cases h
  · obtain rfl := Except.error.inj h
    rfl

theorem Refuses.not_internal {α : Type} {outcome : Except ScriptError α} {p : Span} {text : String}
    {e : ScriptError} (h : Refuses outcome p text) (he : outcome = .error e) :
    e.isInternal = false := by
  obtain ⟨fault, ho, -⟩ := h
  obtain rfl := Except.error.inj (he.symm.trans ho)
  rfl

theorem Program.read_not_internal {strict : Bool} {r : Reading} {ts : List Token} {e : ScriptError}
    (h : read strict r ts = .error e) : e.isInternal = false := by
  induction ts generalizing r with
  | nil =>
    have hf := r.finish_spec
    split at hf
    · exact hf.not_internal h
    · obtain ⟨program, hp⟩ := hf
      cases hp.symm.trans h
  | cons t ts ih =>
    have hs := Reading.step_spec strict r t
    split at hs
    · obtain ⟨fault, he, -⟩ := hs
      rw [read, he] at h
      obtain rfl := Except.error.inj h
      rfl
    · obtain ⟨r', hr, -⟩ := hs
      rw [read, hr] at h
      exact ih h

theorem compile_not_internal {strict : Bool} {source : String} {e : ScriptError}
    (h : compile strict source = .error e) : e.isInternal = false := by
  rw [compile] at h
  by_cases hs : source.isEmpty = true
  · rw [tokenize, if_pos hs] at h
    obtain rfl := Except.error.inj h
    rfl
  · rw [tokenize, if_neg hs] at h
    have hp : parse strict (Lexer.mergeTexts (Lexer.scan .start source.toList)) = .error e := h
    rw [parse_eq_read] at hp
    exact Program.read_not_internal hp

namespace Stepping

open StateTransition

variable {bodies : Bodies κ σ}

def Control.Orderly : Control κ σ → Prop
  | .sequence tokens _ => ∀ t ∈ tokens, t.IsNode
  | .visit t => t.IsNode
  | .call c => c.toToken.IsNode
  | .routine _ rest => rest.Orderly
  | .done outcome => ∀ e, outcome = .error e → e.isInternal = false

def Frame.Orderly : Frame κ σ → Prop
  | .sequence _ ts _ => ∀ t ∈ ts, t.IsNode
  | .active _ next => ∀ v, (next v).Orderly
  | .visit _ | .output => True

theorem Control.Orderly.ofCompiled {strict : Bool} {source : String} :
    (Control.ofCompiled (compile strict source) : Control κ σ).Orderly := by
  cases h : compile strict source with
  | ok program => exact compile_nodes h
  | error e =>
    intro e' he
    obtain rfl := Except.error.inj he
    exact compile_not_internal h

/-- Nothing but trees is walked over or waits to be, no function asks for more than the library
does, and no outcome is a defect. -/
structure State.Orderly (s : State κ σ) : Prop where
  control : s.control.Orderly
  frames : ∀ frame ∈ s.frames, frame.Orderly

namespace State.Orderly

variable {K : List (Frame κ σ)} {m : Machine κ σ}

theorem start (e : Engine κ) (context : Context κ) (host : σ) (source : String) :
    (State.start e context host source).Orderly :=
  ⟨.ofCompiled, by simp [State.start, Frame.Orderly]⟩

theorem done_ok (v : Value) (hK : ∀ frame ∈ K, frame.Orderly) : Orderly ⟨.done (.ok v), K, m⟩ :=
  ⟨nofun, hK⟩

theorem done_error {e : ScriptError} (he : e.isInternal = false)
    (hK : ∀ frame ∈ K, frame.Orderly) : Orderly ⟨.done (.error e), K, m⟩ := by
  refine ⟨fun e' h => ?_, hK⟩
  obtain rfl := Except.error.inj h
  exact he

theorem resume {frame : Frame κ σ} {v : Value}
    (h : Orderly ⟨.done (.ok v), frame :: K, m⟩) : (Stepping.resume frame K m v).Orderly := by
  have ⟨hframe, hK⟩ := List.forall_mem_cons.mp h.frames
  cases frame with
  | sequence t ts values => exact ⟨hframe, hK⟩
  | visit t => exact done_ok v hK
  | active call next => exact ⟨hframe v, hK⟩
  | output => exact done_ok _ hK

theorem abort {frame : Frame κ σ} {e : ScriptError}
    (h : Orderly ⟨.done (.error e), frame :: K, m⟩) : (Stepping.abort frame K m e).Orderly := by
  have he := h.control e rfl
  have hK := (List.forall_mem_cons.mp h.frames).2
  cases frame <;> exact done_error he hK

theorem makeCall {call : Call}
    (hbody : ∀ code call, call.toToken.IsNode → (bodies code call).Orderly)
    (h : Orderly ⟨.call call, K, m⟩) : (Stepping.makeCall bodies call K m).Orderly := by
  obtain ⟨code, -, hs⟩ | ⟨e, he, hs⟩ | ⟨-, hs⟩ := makeCall_cases bodies call K m
  · rw [hs]
    exact ⟨hbody code call h.control, h.frames⟩
  · rw [hs]
    exact done_error (resolve_not_internal he) h.frames
  · rw [hs]
    exact done_error rfl h.frames

theorem serve {call : Call} {q : Request κ σ} {next : q.Reply → Routine κ σ Value}
    (h : Orderly ⟨.routine call (.ask q next), K, m⟩) :
    (Stepping.serve call K m q next).Orderly := by
  obtain ⟨⟨hq, hnext⟩, hK⟩ := h
  cases hq with
  | evaluate htokens => exact ⟨htokens, List.forall_mem_cons.mpr ⟨hnext, hK⟩⟩
  | execute source => exact ⟨.ofCompiled, List.forall_mem_cons.mpr ⟨hnext, hK⟩⟩
  | _ => exact ⟨hnext _, hK⟩

theorem step {s s' : State κ σ}
    (hbody : ∀ code call, call.toToken.IsNode → (bodies code call).Orderly) (h : s.Orderly)
    (hs : Stepping.step bodies s = some s') : s'.Orderly := by
  cases (step_eq_some_iff bodies).mp hs with
  | finish => exact done_ok _ h.frames
  | stop => exact done_ok _ h.frames
  | next =>
    have ⟨ht, hts⟩ := List.forall_mem_cons.mp h.control
    exact ⟨ht, List.forall_mem_cons.mpr ⟨hts, h.frames⟩⟩
  | literal => exact done_ok _ h.frames
  | head => exact ⟨h.control, List.forall_mem_cons.mpr ⟨trivial, h.frames⟩⟩
  | stray => cases h.control
  | call => exact makeCall hbody h
  | leave => exact done_ok _ h.frames
  | fail => exact done_error h.control h.frames
  | ask => exact serve h
  | resume => exact resume h
  | abort => exact abort h

theorem reaches {s s' : State κ σ}
    (hbody : ∀ code call, call.toToken.IsNode → (bodies code call).Orderly) (h : s.Orderly)
    (hs : Reaches (Stepping.step bodies) s s') : s'.Orderly := by
  induction hs with
  | refl => exact h
  | tail _ hstep ih => exact ih.step hbody hstep

end State.Orderly

theorem orderly_of_reaches {e : Engine Builtin} {context : Context Builtin} {host : σ}
    {source : String} {s : State Builtin σ}
    (hs : Reaches (step Builtin.body) (.start e context host source) s) : s.Orderly :=
  (State.Orderly.start e context host source).reaches (fun f _ h => f.body_orderly h) hs

end Stepping

open Stepping StateTransition

/-- No outcome is a defect. The reader leaves no punctuation in a program, whoever wrote it, and the
run walks over nothing else. Joining texts never fails. -/
theorem runWith_no_defect {σ : Type} (e : Engine Builtin) (context : Context Builtin) (host : σ)
    (source : String) :
    (∀ error, (e.runWith Builtin.body context host source).1 = .error error →
      error.isInternal = false) ∧
    (∀ s, Reaches (step Builtin.body) (.start e context host source) s → s.Orderly) ∧
    (∀ strict built program, compile strict built = .ok program → ∀ t ∈ program, t.IsNode) ∧
    ∀ tokens, Lexer.joinAll tokens = .ok (Lexer.mergeTexts tokens) := by
  refine ⟨fun error he => ?_, fun s hs => orderly_of_reaches hs, fun strict built program h => ?_,
    Lexer.joinAll_eq⟩
  · have hs := orderly_of_reaches (reaches_runWith Builtin.body e context host source)
    exact hs.control error he
  · exact compile_nodes h

/-- A script that builds the call of a function that nothing is bound to. -/
theorem runWith_no_defect_built :
    let e : Engine Builtin := Engine.ofRegistry Builtin.registry
    let source := "$eval[\\$nope]"
    let built : Program := [.call ⟨1, 1⟩ "$nope" []]
    (e.runWith Builtin.body (e.prepare "built") () source).1 = .error (.unknownFunction "$nope") ∧
      (ScriptError.unknownFunction "$nope").isInternal = false ∧
      (State.start e (e.prepare "built") () source).Orderly ∧
      compile false "$nope" = .ok built ∧ ∀ t ∈ built, t.IsNode := by
  intro e source built
  have hmap : (e.runWith Builtin.body (e.prepare "built") () source).1.map Value.toText =
      .error (.unknownFunction "$nope") := by decide +kernel
  have hrun : (e.runWith Builtin.body (e.prepare "built") () source).1 =
      .error (.unknownFunction "$nope") := by
    cases h : (e.runWith Builtin.body (e.prepare "built") () source).1 with
    | ok v =>
      rw [h] at hmap
      cases hmap
    | error error =>
      rw [h] at hmap
      exact congrArg _ (Except.error.inj hmap)
  have hbuilt : compile false "$nope" = .ok built := by cbv
  obtain ⟨hdefect, hstates, hnodes, -⟩ := runWith_no_defect e (e.prepare "built") () source
  exact ⟨hrun, hdefect _ hrun, hstates _ .refl, hbuilt, hnodes false "$nope" built hbuilt⟩

end BracketScript
