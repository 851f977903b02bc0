import BracketScript.Proofs.Conduct
import BracketScript.Proofs.Levels

/-! How many calls are active when a call is made. As long as the run evaluates no source of its own
making, these are the calls that it is written inside, and so a run never meets the limit that its
source was read under. -/

namespace BracketScript

variable {κ σ : Type}

/-- The failure of a call that would be one too many. -/
def ScriptError.IsTooDeep (e : ScriptError) : Prop :=
  ∃ name fault, e = .failed name fault ∧ fault.message = "nesting too deep"

theorem CallFault.IsOwn.message_ne {fault : CallFault} (h : fault.IsOwn) :
    fault.message ≠ "nesting too deep" := by
  -- already the first letters differ
  intro he
  have hhead := congrArg (fun s => s.toList.head?) he
  cases fault with
  | nestedTooDeep | other => exact h
  | bracketsExpected | invalidPattern => exact absurd he (by decide)
  | argumentsExpected | notNumber | notList =>
    dsimp only [message] at hhead
    rw [String.toList_append, String.toList_append, List.append_assoc, List.head?_append] at hhead
    cases hhead

theorem Call.MayFail.not_tooDeep {call : Call} {e : ScriptError} (h : call.MayFail e) :
    ¬ e.IsTooDeep := by
  obtain ⟨fault, hfault, rfl⟩ := h
  rintro ⟨name, fault', he, hmessage⟩
  obtain ⟨-, rfl⟩ := ScriptError.failed.inj he
  exact hfault.message_ne hmessage

theorem resolve_not_tooDeep {chain : List (Scope κ)} {name : String} {e : ScriptError}
    (h : resolve chain name = .error e) : ¬ e.IsTooDeep := by
  rw [resolve] at h
  split at h
  · cases h
  · obtain rfl := Except.error.inj h
    rintro ⟨name', fault, he, -⟩
    cases he

section Journal

variable [DecidableEq κ]

/-- Whether a call of a function with this code was entered. -/
def Happening.isRunOf (code : κ) : Happening κ σ → Bool
  | entered call world => resolve world.chain call.name = .ok code
  | left .. => false

def Machine.hasRun (code : κ) (m : Machine κ σ) : Bool :=
  m.journal.any fun happening => happening.isRunOf code

end Journal

namespace Stepping

open StateTransition

variable {bodies : Bodies κ σ} {K : List (Frame κ σ)} {m : Machine κ σ}

theorem journal_makeCall (bodies : Bodies κ σ) (call : Call) (K : List (Frame κ σ))
    (m : Machine κ σ) : m.journal <:+ (makeCall bodies call K m).machine.journal := by
  obtain ⟨code, -, hs⟩ | ⟨e, -, hs⟩ | ⟨-, hs⟩ := makeCall_cases bodies call K m
  · rw [hs]
    exact List.suffix_cons _ _
  · rw [hs]
  · rw [hs]

theorem journal_step {s s' : State κ σ} (hs : step bodies s = some s') :
    s.machine.journal <:+ s'.machine.journal := by
  cases (step_eq_some_iff bodies).mp hs with
  | call => exact journal_makeCall bodies _ _ _
  | leave => exact List.suffix_cons _ _
  | fail => exact List.suffix_cons _ _
  | @ask call q next K m => cases q <;> exact List.suffix_rfl
  | @resume v frame K m => cases frame <;> exact List.suffix_rfl
  | @abort e frame K m =>
    cases frame with
    | active call next => exact List.suffix_cons _ _
    | _ => exact List.suffix_rfl
  | _ => exact List.suffix_rfl

theorem journal_reaches {s s' : State κ σ} (hs : Reaches (step bodies) s s') :
    s.machine.journal <:+ s'.machine.journal := by
  induction hs with
  | refl => exact List.suffix_rfl
  | tail _ hstep ih => exact ih.trans (journal_step hstep)

/-- The journal of a run names all functions that it has invoked. -/
theorem State.Invokes.hasRun [DecidableEq κ] {s t : State κ σ} {call : Call} {code : κ}
    (h : s.Invokes call code) (ht : Reaches (step bodies) s t) (hend : step bodies t = none) :
    t.machine.hasRun code = true := by
  have hstep := h.step_eq bodies
  have hrest := journal_reaches (reaches_of_ended (.single hstep) ht hend)
  exact List.any_eq_true.mpr ⟨_, hrest.subset List.mem_cons_self, decide_eq_true h.2.1⟩

variable {At : Span → Nat → Prop}

def Control.Levelled (At : Span → Nat → Prop) (k : Nat) : Control κ σ → Prop
  | .sequence ts _ => ∀ t ∈ ts, t.Levelled At k
  | .visit t => t.Levelled At k
  | .call c => c.toToken.Levelled At k
  | .routine c _ => c.toToken.Levelled At k
  | .done outcome => ∀ e, outcome = .error e → ¬ e.IsTooDeep

def Frame.Levelled (At : Span → Nat → Prop) (k : Nat) : Frame κ σ → Prop
  | .sequence _ ts _ => ∀ t ∈ ts, t.Levelled At k
  | .active call _ => call.toToken.Levelled At k
  | .visit _ | .output => True

/-- What waits is as deep as the calls are that are active around it. -/
def LevelledFrames (At : Span → Nat → Prop) : List (Frame κ σ) → Prop
  | [] => True
  | frame :: K => frame.Levelled At (activeFrames K) ∧ LevelledFrames At K

/-- What is walked over is as deep as calls are active, and no call has been one too many. -/
structure State.Levelled (At : Span → Nat → Prop) (s : State κ σ) : Prop where
  control : s.control.Levelled At (activeFrames s.frames)
  frames : LevelledFrames At s.frames

/-- No functions are at work but those of the library that run no source. -/
abbrev State.RunsNoSource (s : State κ σ) : Prop :=
  s.Bounded (fun call => call.MayAsk False) Call.MayFail

namespace State.Levelled

theorem running {program : Program} (h : ∀ t ∈ program, t.Levelled At 0) (m : Machine κ σ) :
    (State.running program m).Levelled At :=
  ⟨h, trivial, trivial⟩

theorem done_ok (v : Value) (hK : LevelledFrames At K) : Levelled At ⟨.done (.ok v), K, m⟩ :=
  ⟨nofun, hK⟩

theorem done_error {e : ScriptError} (he : ¬ e.IsTooDeep) (hK : LevelledFrames At K) :
    Levelled At ⟨.done (.error e), K, m⟩ := by
  refine ⟨fun e' h => ?_, hK⟩
  obtain rfl := Except.error.inj h
  exact he

theorem resume {frame : Frame κ σ} {v : Value} (h : Levelled At ⟨.done (.ok v), frame :: K, m⟩) :
    (Stepping.resume frame K m v).Levelled At := by
  obtain ⟨-, hframe, hK⟩ := h
  cases frame with
  | sequence t ts values => exact ⟨hframe, hK⟩
  | visit t => exact done_ok v hK
  | active call next => exact ⟨hframe, hK⟩
  | output => exact done_ok _ hK

theorem abort {frame : Frame κ σ} {e : ScriptError}
    (h : Levelled At ⟨.done (.error e), frame :: K, m⟩) :
    (Stepping.abort frame K m e).Levelled At := by
  have he := h.control e rfl
  have hK := h.frames.2
  cases frame <;> exact done_error he hK

theorem makeCall {call : Call} (hAt : ∀ p k, At p k → k < maxNesting)
    (hc : Contained 0 ⟨.call call, K, m⟩) (h : Levelled At ⟨.call call, K, m⟩) :
    (Stepping.makeCall bodies call K m).Levelled At := by
  obtain ⟨code, -, hs⟩ | ⟨e, he, hs⟩ | ⟨hdeep, -⟩ := makeCall_cases bodies call K m
  · rw [hs]
    exact ⟨h.control, h.frames⟩
  · rw [hs]
    exact done_error (resolve_not_tooDeep he) h.frames
  · -- the call is as deep as calls are active, and nothing is as deep as the limit
    have hlevel : activeFrames K < maxNesting := hAt _ _ (Token.Levelled.at h.control)
    have hd : m.depth = 0 + activeFrames K := hc.depth_eq
    omega

theorem serve {call : Call} {q : Request κ σ} {next : q.Reply → Routine κ σ Value}
    (hq : call.MayAsk False q) (h : Levelled At ⟨.routine call (.ask q next), K, m⟩) :
    (Stepping.serve call K m q next).Levelled At := by
  cases hq with
  | evaluate htokens =>
    refine ⟨fun t ht => ?_, h.control, h.frames⟩
    obtain ⟨arg, harg, hmem⟩ := htokens t ht
    exact Token.Levelled.args h.control arg harg t hmem
  | execute hruns => exact hruns.elim
  | _ => exact ⟨h.control, h.frames⟩

theorem step {s s' : State κ σ} (hAt : ∀ p k, At p k → k < maxNesting) (hb : s.RunsNoSource)
    (hc : Contained 0 s) (h : s.Levelled At) (hs : Stepping.step bodies s = some s') :
    s'.Levelled At := by
  cases (step_eq_some_iff bodies).mp hs with
  | finish => exact done_ok _ h.frames
  | stop => exact done_ok _ h.frames
  | next =>
    have ⟨ht, hts⟩ := List.forall_mem_cons.mp h.control
    exact ⟨ht, hts, h.frames⟩
  | literal => exact done_ok _ h.frames
  | head => exact ⟨h.control, trivial, h.frames⟩
  | stray => cases h.control
  | call => exact h.makeCall hAt hc
  | leave => exact done_ok _ h.frames
  | fail => exact done_error hb.control.not_tooDeep h.frames
  | ask => exact h.serve hb.control.1
  | resume => exact h.resume
  | abort => exact h.abort

theorem reaches {s s' : State Builtin σ} (hAt : ∀ p k, At p k → k < maxNesting)
    (hb : s.RunsNoSource) (hc : Contained 0 s) (h : s.Levelled At)
    (heval : ∀ u, Reaches (Stepping.step Builtin.body) s u → ∀ call, ¬ u.Invokes call .eval)
    (hs : Reaches (Stepping.step Builtin.body) s s') : s'.Levelled At := by
  have hbody : ∀ u, Reaches (Stepping.step Builtin.body) s u → ∀ call f, u.Invokes call f →
      (f.body call : Routine Builtin σ Value).Within (call.MayAsk False) call.MayFail := by
    intro u hu call f hf
    refine (f.bounds_body call).mono (fun _ hq => hq.mono fun he => ?_) fun _ he => he
    exact heval u hu call (he ▸ hf)
  induction hs with
  | refl => exact h
  | tail hu hstep ih => exact ih.step hAt (hb.reaches hbody hu) (hc.reaches hu) hstep

end State.Levelled

variable {e : Engine Builtin} {context : Context Builtin} {host : σ} {source : String}

theorem levelled_of_reaches {program : Program} (hd : context.depth = 0)
    (hcompile : e.compile source = .ok program)
    (heval : (e.runWith Builtin.body context host source).2.hasRun .eval = false)
    {s : State Builtin σ} (hs : Reaches (step Builtin.body) (.start e context host source) s) :
    s.Levelled (WrittenInside source) := by
  have hend := reaches_runWith Builtin.body e context host source
  -- a call of `eval` would stand in the journal at the end
  have hnever : ∀ u, Reaches (step Builtin.body) (.start e context host source) u →
      ∀ call, ¬ u.Invokes call .eval := by
    intro u hu call hcall
    have hrun := hcall.hasRun (reaches_of_ended hu hend (step_done _ _ _)) (step_done _ _ _)
    exact Bool.false_ne_true (heval.symm.trans hrun)
  let m := e.machine context host
  have hc : Contained m.depth (State.running program m) := .start (by simp) rfl rfl
  have hstart : State.start e context host source = .running program m := by
    rw [State.start, hcompile]
    rfl
  rw [show m.depth = 0 from hd] at hc
  rw [hstart] at hs hnever
  have hl := State.Levelled.running (compile_levelled hcompile) m
  exact hl.reaches (fun p k hw => hw.lt_maxNesting hcompile) (.running program _) hc hnever hs

theorem failed_reaches {s s' : State κ σ} {error : ScriptError}
    (h : s.control = .done (.error error)) (hs : Reaches (step bodies) s s') :
    s'.control = .done (.error error) := by
  induction hs with
  | refl => exact h
  | tail _ hstep ih =>
    cases (step_eq_some_iff bodies).mp hstep with
    | @abort e frame K m => cases frame <;> exact ih
    | _ => cases ih

theorem refused_reaches {error : ScriptError} (h : e.compile source = .error error)
    {s : State Builtin σ} (hs : Reaches (step Builtin.body) (.start e context host source) s) :
    s.control = .done (.error error) :=
  failed_reaches (congrArg Control.ofCompiled h) hs

end Stepping

open Stepping StateTransition

/-- While a run evaluates no source of its own making, each call is made with as many calls active
as it is written inside, and none is one too many. A source with a call inside 64 others is refused
before any call is made. -/
theorem nesting_limits_agree {σ : Type} (e : Engine Builtin) (context : Context Builtin)
    (hd : context.depth = 0) (host : σ) (source : String) :
    (∀ program, e.compile source = .ok program →
      (∀ p k, WrittenInside source p k → k ≤ 63) ∧
      ((e.runWith Builtin.body context host source).2.hasRun .eval = false →
        (∀ error, (e.runWith Builtin.body context host source).1 = .error error →
          ¬ error.IsTooDeep) ∧
        ∀ s, Reaches (step Builtin.body) (.start e context host source) s →
          (∀ error, s.control = .done (.error error) → ¬ error.IsTooDeep) ∧
          ∀ call, s.control = .call call →
            s.machine.depth = s.active ∧ WrittenInside source call.span s.active ∧
            ∀ k, WrittenInside source call.span k → k = s.active)) ∧
    ∀ p k, WrittenInside source p k → 64 ≤ k →
      (∃ q text, Refuses (e.compile source) q text ∧
        Refuses (e.runWith Builtin.body context host source).1 q text ∧
        (q = p ∧ text = "nesting too deep" ∨ q.Before p)) ∧
      ∀ s, Reaches (step Builtin.body) (.start e context host source) s →
        ∀ call, s.control ≠ .call call := by
  have hend := reaches_runWith Builtin.body e context host source
  refine ⟨fun program hcompile => ⟨fun p k hw => ?_, fun heval => ?_⟩, fun p k hw hk => ?_⟩
  · exact Nat.le_of_lt_succ (hw.lt_maxNesting hcompile)
  · have hfailure := (levelled_of_reaches hd hcompile heval hend).control
    refine ⟨hfailure, fun s hs => ?_⟩
    have hlevelled := levelled_of_reaches hd hcompile heval hs
    have hdepth := (contained_of_reaches e context host source hs).depth_eq
    rw [hd, Nat.zero_add] at hdepth
    obtain ⟨control, K, m⟩ := s
    constructor
    · rintro error rfl
      exact hlevelled.control error rfl
    · rintro call rfl
      have hwritten : WrittenInside source call.span (activeFrames K) :=
        Token.Levelled.at hlevelled.control
      exact ⟨hdepth, hwritten, fun k hk => hk.unique hwritten⟩
  · obtain ⟨q, text, ⟨fault, hrefused, htext⟩, hplace⟩ := hw.refused hk e.options.strictBrackets
    have hcontrol := refused_reaches (e := e) hrefused hend
    refine ⟨⟨q, text, ⟨fault, hrefused, htext⟩, ⟨fault, ?_, htext⟩, hplace⟩, ?_⟩
    · exact Control.done.inj hcontrol
    · intro s hs call hcall
      cases (refused_reaches (e := e) hrefused hs).symm.trans hcall

/-- A call inside another one, and a call inside 64 others. -/
theorem nesting_limits_agree_nested :
    let e : Engine Builtin := Engine.ofRegistry Builtin.registry
    let context := e.prepare "nested"
    let m : Machine Builtin Unit := e.machine context ()
    let source := "$toUpperCase[$get[x]]"
    let inner : Call := ⟨⟨1, 14⟩, "$get", [[.text ⟨1, 19⟩ "x"]]⟩
    let outer : Call := ⟨⟨1, 1⟩, "$toUpperCase", [[inner.toToken]]⟩
    let next : Value → Routine Builtin Unit Value := fun v => .done (.text (Text.upper v.toText))
    let called : State Builtin Unit :=
      ⟨.call inner, [.visit inner.toToken, .sequence inner.toToken [] [], .active outer next,
        .visit outer.toToken, .sequence outer.toToken [] [], .output], m.enter outer⟩
    let deep := String.ofList (Lexer.openings 64 ++ ['$', 'f'])
    e.compile source = .ok [outer.toToken] ∧
      (e.runWith Builtin.body context () source).2.hasRun .eval = false ∧
      Reaches (step Builtin.body) (.start e context () source) called ∧
      WrittenInside source ⟨1, 14⟩ 1 ∧
      WrittenInside deep ⟨1, 193⟩ 64 ∧
      ∃ q text, Refuses (e.compile deep) q text ∧
        (q = ⟨1, 193⟩ ∧ text = "nesting too deep" ∨ q.Before ⟨1, 193⟩) := by
  intro e context m source inner outer next called deep
  have hcompile : e.compile source = .ok [outer.toToken] := by
    rw [Engine.compile, compile, tokenize, if_neg (by decide)]
    cbv
  have heval : (e.runWith Builtin.body context () source).2.hasRun .eval = false := by
    decide +kernel
  have hinvokes (L : List (Frame Builtin Unit)) :
      State.Invokes ⟨.call outer, L, m⟩ outer .toUpperCase :=
    ⟨rfl, Builtin.resolve_name .toUpperCase, Nat.zero_lt_succ 63⟩
  have hcalled : Reaches (step Builtin.body) (.start e context () source) called := by
    rw [State.start, hcompile]
    refine .head rfl (.head rfl (.head ((hinvokes _).step_eq _) ?_))
    exact .head rfl (.head rfl (.single rfl))
  have hplace : Span.start.after (Lexer.openings 64) = ⟨1, 193⟩ := by decide +kernel
  have hdeep : WrittenInside deep ⟨1, 193⟩ 64 := hplace ▸ writtenInside_openings 64
  obtain ⟨hcalls, -⟩ := nesting_limits_agree e context rfl () source
  obtain ⟨-, hstates⟩ := (hcalls _ hcompile).2 heval
  obtain ⟨-, hwritten, -⟩ := (hstates called hcalled).2 inner rfl
  obtain ⟨-, hlimit⟩ := nesting_limits_agree e context rfl () deep
  obtain ⟨⟨q, text, hrefused, -, hbefore⟩, -⟩ := hlimit _ _ hdeep (by decide)
  exact ⟨hcompile, heval, hcalled, hwritten, hdeep, q, text, hrefused, hbefore⟩

end BracketScript
