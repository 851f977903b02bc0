import BracketScript.Proofs.Conduct
import BracketScript.Proofs.EscapedText
import BracketScript.Proofs.Lifting

/-! A script that evaluates an escaped source does what the source does by itself. -/

namespace BracketScript

variable {κ σ : Type}

/-- The context of a run before anything is done in it. -/
def Engine.fresh (e : Engine κ) (fileName : String) (event : Option MessageEvent) :
    Context κ :=
  { e.prepare fileName with event := event }

theorem compile_eval (strict : Bool) {s : String} :
    compile strict ("$eval[" ++ escapeText s ++ "]") =
      .ok [.call ⟨1, 1⟩ "$eval" [Lexer.tokensAt ⟨1, 7⟩ (Lexer.escape s.toList)]] := by
  have hbefore : tokenize "$eval[" = .ok ([.call ⟨1, 1⟩ "$eval" []] ++
      [.punctuation ⟨1, 6⟩ .opening]) := by cbv
  have hafter : ClosesArgument "]" := .inl rfl
  have htokens := tokenize_argument hbefore hafter (literalBefore_escape hafter s.toList)
  have hplace : Span.following "$eval[".toList = ⟨1, 7⟩ := by decide
  have hclosing (p : Span) : Lexer.tokensAt p "]".toList = [.punctuation p .closing] := by
    change Lexer.mergeTexts (Lexer.scan p [']']) = _
    rw [Lexer.scan_cons]
    change Lexer.mergeTexts (.punctuation p .closing :: Lexer.scan _ []) = _
    rw [Lexer.scan]
    rfl
  have hdata := Lexer.isDatum_tokensAt_escape ⟨1, 7⟩ s.toList
  rw [hplace, hclosing] at htokens
  rw [escapeText, compile_of_tokenize htokens, parse_eq_read]
  generalize Lexer.tokensAt ⟨1, 7⟩ (Lexer.escape s.toList) = arg at hdata
  have hread := Program.read_literals strict ⟨⟨1, 1⟩, "$eval", [], []⟩ [] []
    (fun t ht => (hdata t ht).literal)
  refine (hread _).trans ?_
  change Except.ok [Token.call ⟨1, 1⟩ "$eval" [(arg.reverse ++ []).reverse]] = _
  rw [List.append_nil, List.reverse_reverse]

namespace Stepping

open StateTransition

variable {K : List (Frame Builtin σ)} {m m' : Machine Builtin σ}

theorem body_eval {call : Call} {arg : List Token} (ha : call.args = [arg]) (hne : arg ≠ []) :
    (Builtin.eval.body call : Routine Builtin σ Value) = .ask (.evaluate arg) fun v =>
      if Text.trim v.toText = "" then .done .undefined
      else .ask (.execute (Text.trim v.toText)) .done := by
  obtain ⟨span, name, args⟩ := call
  obtain rfl : args = [arg] := ha
  obtain ⟨t, ts, rfl⟩ := List.exists_cons_of_ne_nil hne
  rfl

/-- A call that evaluates a source comes to walking over it, with one more call active. -/
theorem reaches_evaluated {call : Call} {arg : List Token} {s : String} {v : Value}
    (ha : call.args = [arg]) (hne : arg ≠ []) (hr : resolve m.world.chain call.name = .ok .eval)
    (hm : m.depth < maxNesting)
    (hv : Run.start (m.enter call) (evaluateSequence (callFunction Builtin.body) arg) = (.ok v, m'))
    (hs : Text.trim v.toText = s) (hs' : s ≠ "") :
    Reaches (step Builtin.body) ⟨.call call, K, m⟩
      ⟨.ofCompiled (compile m'.world.context.options.strictBrackets s),
        .active call .done :: K, m'⟩ := by
  have hmade : State.Invokes ⟨.call call, K, m⟩ call .eval := ⟨rfl, hr, hm⟩
  have hcall := hmade.step_eq Builtin.body
  rw [body_eval ha hne] at hcall
  have hdispatch : ∀ callee m₁, m₁.depth = m.depth + 1 →
      Computes Builtin.body (.call callee) (callFunction (σ := σ) Builtin.body callee) m₁ :=
    fun callee m₁ _ => computes_callFunction callee m₁
  have hwalk := computes_sequence hdispatch arg (m.depth_enter call)
  have hnext : (if Text.trim v.toText = "" then .done .undefined
      else .ask (.execute (Text.trim v.toText)) .done : Routine Builtin σ Value) =
      .ask (.execute s) .done := by
    rw [hs, if_neg hs']
  refine .head hcall (.head rfl ((hwalk _).trans ?_))
  rw [hv]
  refine .head rfl ?_
  change Reaches (step Builtin.body) (⟨.routine call (if Text.trim v.toText = "" then
    .done .undefined else .ask (.execute (Text.trim v.toText)) .done), K, m'⟩ : State Builtin σ) _
  rw [hnext]
  exact .single rfl

/-- The outcome of a whole run whose program has come to `outcome`. -/
def finish (options : Options) (outcome : Except ScriptError Value) : Except ScriptError Value :=
  outcome.map fun v => if options.trimOutput then v.trimmed else v

theorem reaches_finished (bodies : Bodies κ σ) (outcome : Except ScriptError Value)
    (m : Machine κ σ) :
    Reaches (step bodies) ⟨.done outcome, [.output], m⟩
      ⟨.done (finish m.world.context.options outcome), [], m⟩ := by
  cases outcome <;> exact .single rfl

/-- What waits for a source while it is evaluated by a call that is the whole program. -/
def framesOf (call : Call) : List (Frame κ σ) :=
  [.active call .done, .visit call.toToken, .sequence call.toToken [] [], .output]

/-- A program that is one call comes to the outcome of what the call has run. -/
theorem reaches_returned (bodies : Bodies κ σ) (outcome : Except ScriptError Value) (call : Call)
    (m : Machine κ σ) :
    Reaches (step bodies) ⟨.done outcome, framesOf call, m⟩
      ⟨.done (finish m.world.context.options outcome), [], m.leave call outcome⟩ := by
  cases outcome with
  | ok v =>
    refine .head rfl (.head rfl (.head rfl (.head rfl (.head rfl ?_))))
    exact .single rfl
  | error e =>
    refine .head rfl (.head rfl (.head rfl ?_))
    exact .single rfl

theorem runWith_eq_of_reaches {bodies : Bodies κ σ} {e : Engine κ} {context : Context κ} {host : σ}
    {source : String} {outcome : Except ScriptError Value} {m : Machine κ σ}
    (h : Reaches (step bodies) (.start e context host source) ⟨.done outcome, [], m⟩) :
    e.runWith bodies context host source = (outcome, m) := by
  obtain ⟨ho, hm⟩ := ended_unique (reaches_runWith bodies e context host source) h
  exact Prod.ext ho hm

/-- A source that makes at most 63 calls active at once goes the same way inside one more call. -/
theorem reaches_deeper {e : Engine Builtin} {context : Context Builtin} {host : σ} {s : String}
    (hd : context.depth = 0)
    (hcalls : ∀ t, Reaches (step Builtin.body) (.start e context host s) t → t.active ≤ 63)
    (low : List (Frame Builtin σ)) {m' : Machine Builtin σ}
    (hm : (e.machine context host).Deeper 1 m') {outcome : Except ScriptError Value}
    {m : Machine Builtin σ}
    (h : Reaches (step Builtin.body) ⟨.ofCompiled (e.compile s), [], e.machine context host⟩
      ⟨.done outcome, [], m⟩) :
    ∃ m₁, m.Deeper 1 m₁ ∧
      Reaches (step Builtin.body) ⟨.ofCompiled (e.compile s), low, m'⟩
        ⟨.done outcome, low, m₁⟩ := by
  have ho : (⟨.ofCompiled (e.compile s), [], e.machine context host⟩ : State Builtin σ).Orderly :=
    ⟨.ofCompiled, nofun⟩
  have hc : Contained 0
      (⟨.ofCompiled (e.compile s), [], e.machine context host⟩ : State Builtin σ) := by
    have hstart := Contained.start (m := e.machine context host)
      (Control.ofCompiled_ne_routine (e.compile s)) (K := []) rfl rfl
    rwa [show (e.machine context host).depth = 0 from hd] at hstart
  have hbody : ∀ (code : Builtin) (call : Call), call.toToken.IsNode →
      (code.body call : Routine Builtin σ Value).Orderly := fun f _ h => f.body_orderly h
  -- the bound is on states of the run, which are those of this one above the frame of the output
  have hroom : ∀ u, Reaches (step Builtin.body)
      ⟨.ofCompiled (e.compile s), [], e.machine context host⟩ u →
      u.machine.depth + 1 ≤ maxNesting := by
    intro u hu
    have hsame : Lifted 0 [.output] ⟨.ofCompiled (e.compile s), [], e.machine context host⟩
        (.start e context host s) := ⟨rfl, rfl, rfl⟩
    obtain ⟨u', hu', hlifted⟩ := hsame.reaches hbody ho hc hu fun w hw => by
      have hw' := hc.reaches hw
      have hdepth := hw'.depth_eq
      have hactive := hw'.active_le
      omega
    have hactive := hcalls u' hu'
    have hdepth' := hlifted.machine.depth
    have hdepth := (contained_of_reaches e context host s hu').depth_eq
    simp only [maxNesting]
    omega
  have hdeep : Lifted 1 low ⟨.ofCompiled (e.compile s), [], e.machine context host⟩
      ⟨.ofCompiled (e.compile s), low, m'⟩ := ⟨rfl, rfl, hm⟩
  obtain ⟨⟨control, frames, m₁⟩, hreach, hcontrol, hframes, hm₁⟩ :=
    hdeep.reaches hbody ho hc h hroom
  obtain rfl : control = .done outcome := hcontrol
  obtain rfl : frames = low := hframes
  exact ⟨m₁, hm₁, hreach⟩

/-- The call that evaluates the source `s`. -/
def evalCall (s : String) : Call :=
  ⟨⟨1, 1⟩, "$eval", [Lexer.tokensAt ⟨1, 7⟩ (Lexer.escape s.toList)]⟩

theorem reaches_source {e : Engine Builtin} (he : e.root = Scope.ofRegistry Builtin.registry)
    (fileName : String) (event : Option MessageEvent) (host : σ) {s : String} (hs : s ≠ "")
    (htrim : Text.trim s = s) :
    Reaches (step Builtin.body)
      (.start e (e.fresh fileName event) host ("$eval[" ++ escapeText s ++ "]"))
      ⟨.ofCompiled (e.compile s), framesOf (evalCall s),
        (e.machine (e.fresh fileName event) host).enter (evalCall s)⟩ := by
  let m : Machine Builtin σ := e.machine (e.fresh fileName event) host
  have hcompiled : e.compile ("$eval[" ++ escapeText s ++ "]") = .ok [(evalCall s).toToken] :=
    compile_eval _
  have hresolve : resolve m.world.chain (evalCall s).name = .ok .eval := by
    change resolve [Table.empty, e.root] "$eval" = _
    rw [he]
    exact Builtin.resolve_name .eval
  have hroom : m.depth < maxNesting := Nat.zero_lt_succ 63
  have hreads := reads_fold_tokensAt_escape ⟨1, 7⟩ hs
  have hvalue := start_evaluateSequence_escape ⟨1, 7⟩ hs hreads (callFunction Builtin.body)
    (m := m.enter (evalCall s)) rfl
  have htext := (congrArg Text.trim hreads.toText).trans htrim
  have harg := tokensAt_escape_ne_nil ⟨1, 7⟩ hs
  rw [State.start, hcompiled]
  refine .head rfl (.head rfl ?_)
  exact reaches_evaluated rfl harg hresolve hroom hvalue htext hs

end Stepping

open Stepping StateTransition

/-- Evaluating an escaped source does what running the source does. -/
theorem runWith_eval_escapeText (e : Engine Builtin)
    (he : e.root = Scope.ofRegistry Builtin.registry) (fileName : String)
    (event : Option MessageEvent) (host : σ) {s : String} (hs : s ≠ "") (htrim : Text.trim s = s)
    (hcalls : ∀ t, Reaches (step Builtin.body) (.start e (e.fresh fileName event) host s) t →
      t.active ≤ 63) :
    let nested := e.runWith Builtin.body (e.fresh fileName event) host
      ("$eval[" ++ escapeText s ++ "]")
    let direct := e.runWith Builtin.body (e.fresh fileName event) host s
    nested.1 = direct.1 ∧ nested.2.world = direct.2.world := by
  let m : Machine Builtin σ := e.machine (e.fresh fileName event) host
  let run : Run Builtin σ Value :=
    MonadExcept.ofExcept (e.compile s) >>= evaluateSequence (callFunction Builtin.body)
  -- the same walk over the program of `s`, above the output alone and above the call
  have hcompute : Computes Builtin.body (.ofCompiled (e.compile s)) run m :=
    computes_compiled (fun call m' _ => computes_callFunction call m') (e.compile s) rfl
  have hdirect : e.runWith Builtin.body (e.fresh fileName event) host s = _ :=
    runWith_eq_of_reaches ((hcompute [.output]).trans (reaches_finished Builtin.body _ _))
  have hentered : m.Deeper 1 (m.enter (evalCall s)) := rfl
  obtain ⟨m₁, hm₁, hdeep⟩ :=
    reaches_deeper rfl hcalls (framesOf (evalCall s)) hentered (hcompute [])
  have hnested : e.runWith Builtin.body (e.fresh fileName event) host
      ("$eval[" ++ escapeText s ++ "]") = _ :=
    runWith_eq_of_reaches ((reaches_source he fileName event host hs htrim).trans
      (hdeep.trans (reaches_returned Builtin.body _ (evalCall s) m₁)))
  have hworld := hm₁.world_leave (evalCall s) (Run.start m run).1
  have hoptions : m₁.world.context.options = (Run.start m run).2.world.context.options := by
    have hw : m₁.world = _ := hm₁
    rw [hw]
    rfl
  rw [hdirect, hnested, hoptions]
  exact ⟨rfl, hworld⟩

namespace Stepping

variable {bodies : Bodies κ σ}

/-- Whether a run ends within `n` steps and never has more than `bound` calls active. -/
def staysWithin (bodies : Bodies κ σ) (bound : Nat) : Nat → State κ σ → Bool
  | 0, _ => false
  | n + 1, s =>
    decide (s.active ≤ bound) &&
      match step bodies s with
      | some t => staysWithin bodies bound n t
      | none => true

theorem active_le_of_staysWithin {bound n : Nat} {s t : State κ σ}
    (h : staysWithin bodies bound n s = true) (hs : Reaches (step bodies) s t) :
    t.active ≤ bound := by
  induction n generalizing s with
  | zero => cases h
  | succ n ih =>
    simp only [staysWithin, Bool.and_eq_true, decide_eq_true_eq] at h
    rcases Relation.ReflTransGen.cases_head hs with rfl | ⟨u, hu, hrest⟩
    · exact h.1
    · have hu' : step bodies s = some u := hu
      rw [hu'] at h
      exact ih h.2 hrest

end Stepping

/-- A script that sets a variable, reads it and fails. -/
theorem runWith_eval_escapeText_failing :
    let e : Engine Builtin := Engine.ofRegistry Builtin.registry
    let s := "$let[x;5]$get[x]$nope"
    let nested := e.runWith Builtin.body (e.fresh "nested" none) ()
      ("$eval[" ++ escapeText s ++ "]")
    let direct := e.runWith Builtin.body (e.fresh "nested" none) () s
    s ≠ "" ∧ Text.trim s = s ∧
      (∀ t, Reaches (step Builtin.body) (.start e (e.fresh "nested" none) () s) t →
        t.active ≤ 63) ∧
      nested.1 = direct.1 ∧ nested.2.world = direct.2.world := by
  intro e s nested direct
  have hcalls : ∀ t, Reaches (step Builtin.body) (.start e (e.fresh "nested" none) () s) t →
      t.active ≤ 63 := by
    refine fun t => active_le_of_staysWithin (n := 100) ?_
    decide +kernel
  have htrim : Text.trim s = s := by decide
  exact ⟨by decide, htrim, hcalls,
    runWith_eval_escapeText e rfl "nested" none () (by decide) htrim hcalls⟩

end BracketScript
