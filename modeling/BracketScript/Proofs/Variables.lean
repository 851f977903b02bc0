import BracketScript.Proofs.Commands
import BracketScript.Proofs.Conduct
import BracketScript.Proofs.Isolation
import BracketScript.Proofs.Mirroring
import BracketScript.Proofs.SourceInSource

/-! The variables of a run are a map from names without the blanks around them. It starts with the
presets of the engine, which a run leaves as they are. -/

namespace BracketScript

variable {σ : Type}

def assignment (pair : String × String) : Command :=
  ⟨"let", [pair.1, pair.2]⟩

def retrieval (name : String) : Command :=
  ⟨"get", [name]⟩

/-- The text that a variable has after some assignments to a table. -/
def Table.textAfter (vars : Table Value) (pairs : List (String × String)) (name : String) :
    Option String :=
  match pairs.reverse.find? fun pair => Text.trim pair.1 = name with
  | some pair => some pair.2
  | none => (vars.get? name).map Value.toText

theorem Table.textAfter_cons (vars : Table Value) (pair : String × String)
    (pairs : List (String × String)) {w : Value} (hw : w.toText = pair.2) (name : String) :
    vars.textAfter (pair :: pairs) name =
      (vars.insert (Text.trim pair.1) w).textAfter pairs name := by
  rw [textAfter, textAfter, List.reverse_cons, List.find?_append]
  cases pairs.reverse.find? fun pair => Text.trim pair.1 = name with
  | some later => rfl
  | none =>
    by_cases hname : Text.trim pair.1 = name
    · subst hname
      simp [hw]
    · simp [hname, Ne.symm hname]

/-- No call is active, nothing has stopped the run, and names mean what they mean in the library. -/
structure Machine.Idle (m : Machine Builtin σ) : Prop where
  chain : m.world.chain = [Table.empty, Scope.ofRegistry Builtin.registry]
  depth : m.depth = 0
  going : m.world.context.stopped = false

def World.withVars (w : World Builtin σ) (vars : Table Value) : World Builtin σ :=
  { w with context := { w.context with vars := vars } }

namespace Machine.Idle

variable {m m' : Machine Builtin σ}

theorem withVars (h : m.Idle) {vars : Table Value} (hw : m'.world = m.world.withVars vars) :
    m'.Idle := by
  obtain ⟨hchain, hdepth, hgoing⟩ := h
  obtain ⟨w', journal'⟩ := m'
  obtain rfl : w' = m.world.withVars vars := hw
  exact ⟨hchain, hdepth, hgoing⟩

/-- A call of the library that comes to a value without making another one. -/
theorem start_call (h : m.Idle) {f : Builtin} {call : Call} (hname : call.name = f.name)
    {v : Value} {vars : Table Value}
    (hbody : ∃ m', m'.world = (m.enter call).world.withVars vars ∧
      Run.start (m.enter call) (perform (callFunction Builtin.body) (f.body call)) = (.ok v, m')) :
    ∃ m', m'.world = m.world.withVars vars ∧
      Run.start m (callFunction Builtin.body call) = (.ok v, m') := by
  obtain ⟨m', hw, hrun⟩ := hbody
  refine ⟨m'.leave call (.ok v), ?_, ?_⟩
  · change m'.world.withDepth (m'.world.context.depth - 1) = _
    rw [hw]
    rfl
  · have hresolve : resolve m.world.chain call.name = .ok f := by
      rw [h.chain, hname]
      exact f.resolve_name
    have hroom : ¬ maxNesting ≤ m.depth := by
      rw [h.depth]
      decide
    have hcall := start_callFunction Builtin.body call m
    rw [hresolve] at hcall
    rw [hcall]
    dsimp only
    rw [if_neg hroom, Run.start_whileActive, hrun]

end Machine.Idle

/-- An escaped text comes to a value with that text; nothing at all to the undefined one. -/
theorem IsEscaped.exists_value (σ : Type) {s : String} {arg : List Token} (h : IsEscaped s arg) :
    ∃ v : Value, v.toText = s ∧ ∀ (dispatch : Call → Run Builtin σ Value) (m : Machine Builtin σ),
      m.world.context.stopped = false →
      Run.start m (evaluateSequence dispatch arg) = (.ok v, m) := by
  obtain ⟨p, rfl⟩ := h
  by_cases hs : s = ""
  · subst hs
    refine ⟨.undefined, rfl, fun dispatch m hm => ?_⟩
    rw [String.toList_empty, Lexer.escape, Lexer.tokensAt_nil]
    rfl
  · have hreads := reads_fold_tokensAt_escape p hs
    exact ⟨_, hreads.toText, fun dispatch m hm =>
      start_evaluateSequence_escape p hs hreads dispatch hm⟩

/-- Two arguments are enough even if both are empty. -/
theorem body_letBe {call : Call} {a b : List Token} (h : call.args = [a, b]) :
    (Builtin.letBe.body call : Routine Builtin σ Value) = .ask (.evaluate a) fun v =>
      .ask (.evaluate b) fun w => .ask (.setVariable (Text.trim v.toText) w) fun _ =>
        .done .undefined := by
  obtain ⟨span, name, args⟩ := call
  obtain rfl : args = [a, b] := h
  -- only an empty first argument may be the only one
  cases a <;> rfl

theorem body_get {call : Call} {a : List Token} (h : call.args = [a]) (ha : a ≠ []) :
    (Builtin.get.body call : Routine Builtin σ Value) = .ask (.evaluate a) fun v =>
      .ask (.getVariable (Text.trim v.toText)) fun found => .done (found.getD .undefined) := by
  obtain ⟨span, name, args⟩ := call
  obtain rfl : args = [a] := h
  obtain ⟨t, ts, rfl⟩ := List.exists_cons_of_ne_nil ha
  rfl

variable {m : Machine Builtin σ}

theorem start_assignment (hm : m.Idle) {pair : String × String} {t : Token}
    (ht : (assignment pair).Stands t) :
    ∃ (w : Value) (m' : Machine Builtin σ), w.toText = pair.2 ∧
      m'.world = m.world.withVars (m.world.context.vars.insert (Text.trim pair.1) w) ∧
      Run.start m (evaluateToken (callFunction Builtin.body) t) = (.ok .undefined, m') := by
  obtain ⟨p, args, rfl, hargs⟩ := ht
  obtain _ | ⟨ha, _ | ⟨hb, _ | _⟩⟩ := hargs
  rename_i a b
  obtain ⟨v, hv, hevalv⟩ := ha.exists_value σ
  obtain ⟨w, hw, hevalw⟩ := hb.exists_value σ
  rw [← hv]
  let call : Call := ⟨p, "$let", [a, b]⟩
  let vars := m.world.context.vars.insert (Text.trim v.toText) w
  let m₁ : Machine Builtin σ := ⟨(m.enter call).world.withVars vars, (m.enter call).journal⟩
  have hbody : Run.start (m.enter call) (perform (callFunction Builtin.body)
      (Builtin.letBe.body call)) = (.ok .undefined, m₁) := by
    rw [body_letBe rfl]
    refine (start_ask_evaluate _ (hevalv _ (m.enter call) hm.going) _).trans ?_
    exact start_ask_evaluate _ (hevalw _ (m.enter call) hm.going) _
  obtain ⟨m', hworld, hcall⟩ := hm.start_call rfl ⟨m₁, rfl, hbody⟩
  exact ⟨w, m', hw, hworld, hcall⟩

theorem start_retrieval (hm : m.Idle) {name : String} (hname : name ≠ "") {t : Token}
    (ht : (retrieval name).Stands t) :
    ∃ m' : Machine Builtin σ, m'.world = m.world ∧
      Run.start m (evaluateToken (callFunction Builtin.body) t) =
        (.ok ((m.world.context.vars.get? (Text.trim name)).getD .undefined), m') := by
  obtain ⟨p, args, rfl, hargs⟩ := ht
  obtain _ | ⟨ha, _ | _⟩ := hargs
  rename_i a
  obtain ⟨v, hv, hevalv⟩ := ha.exists_value σ
  rw [← hv]
  let call : Call := ⟨p, "$get", [a]⟩
  have hbody : Run.start (m.enter call) (perform (callFunction Builtin.body)
      (Builtin.get.body call)) =
      (.ok ((m.world.context.vars.get? (Text.trim v.toText)).getD .undefined), m.enter call) := by
    rw [body_get rfl (ha.ne_nil hname)]
    exact start_ask_evaluate _ (hevalv _ (m.enter call) hm.going) _
  have hworld : (m.enter call).world = (m.enter call).world.withVars m.world.context.vars := rfl
  exact hm.start_call rfl ⟨m.enter call, hworld, hbody⟩

/-- Assignments come to the undefined value each and change nothing but the variables. -/
theorem start_assignments (hm : m.Idle) {pairs : List (String × String)} {ts : List Token}
    (hts : List.Forall₂ Command.Stands (pairs.map assignment) ts) :
    ∃ (vars : Table Value) (m' : Machine Builtin σ),
      (∀ name, (vars.get? name).map Value.toText = m.world.context.vars.textAfter pairs name) ∧
      (pairs = [] → vars = m.world.context.vars) ∧
      m'.world = m.world.withVars vars ∧
      Run.start m (evaluateTokens (callFunction Builtin.body) ts) =
        (.ok (List.replicate pairs.length .undefined), m') := by
  induction pairs generalizing m ts with
  | nil =>
    cases hts
    exact ⟨m.world.context.vars, m, fun _ => rfl, fun _ => rfl, rfl, rfl⟩
  | cons pair pairs ih =>
    obtain _ | ⟨ht, hts⟩ := hts
    rename_i t ts
    obtain ⟨w, m₁, hw, hworld, hfirst⟩ := start_assignment hm ht
    obtain ⟨vars, m', hvars, -, hworld', hrest⟩ := ih (hm.withVars hworld) hts
    have hgoing : ¬ m.world.context.stopped = true := by simp [hm.going]
    refine ⟨vars, m', fun name => ?_, nofun, ?_, ?_⟩
    · rw [hvars, hworld, Table.textAfter_cons _ _ _ hw]
      rfl
    · rw [hworld', hworld]
      rfl
    · rw [start_evaluateTokens_cons _ hgoing, Run.start_bind_ok _ hfirst, Run.start_bind_ok _ hrest]
      rfl

/-- Sets variables to escaped texts and then reads one, under names that are escaped as well. -/
def lookupScript (pairs : List (String × String)) (name : String) : String :=
  String.join (pairs.map fun pair =>
    "$let[" ++ escapeText pair.1 ++ ";" ++ escapeText pair.2 ++ "]") ++
    "$get[" ++ escapeText name ++ "]"

theorem lookupScript_eq (pairs : List (String × String)) (name : String) :
    lookupScript pairs name =
      String.join ((pairs.map assignment ++ [retrieval name]).map Command.source) := by
  have hset (pair : String × String) : (assignment pair).source =
      "$let[" ++ escapeText pair.1 ++ ";" ++ escapeText pair.2 ++ "]" := by
    rw [← String.toList_inj]
    simp [Command.source, assignment]
  have hget : (retrieval name).source = "$get[" ++ escapeText name ++ "]" := by
    rw [← String.toList_inj]
    simp [Command.source, retrieval]
  have hsets : Command.source ∘ assignment = _ := funext hset
  rw [lookupScript, List.map_append, List.map_map, hsets, String.join_append, List.map_singleton,
    String.join_cons, String.join_nil, String.append_empty, hget]
  simp only [String.append_assoc]

theorem compile_lookupScript (strict : Bool) (pairs : List (String × String)) (name : String) :
    ∃ ts t, compile strict (lookupScript pairs name) = .ok (ts ++ [t]) ∧
      List.Forall₂ Command.Stands (pairs.map assignment) ts ∧ (retrieval name).Stands t := by
  have hlet : "let".toList.all Lexer.isNameChar = true := by decide
  have hget : "get".toList.all Lexer.isNameChar = true := by decide
  have hwell : ∀ c ∈ pairs.map assignment ++ [retrieval name], c.WellFormed := by
    intro c hc
    rcases List.mem_append.mp hc with hc | hc
    · obtain ⟨pair, -, rfl⟩ := List.mem_map.mp hc
      exact ⟨by simp [assignment], List.all_eq_true.mp hlet, List.cons_ne_nil _ _⟩
    · obtain rfl := List.mem_singleton.mp hc
      exact ⟨by simp [retrieval], List.all_eq_true.mp hget, List.cons_ne_nil _ _⟩
  obtain ⟨program, hprogram, hcompile⟩ := compile_commands strict (by simp) hwell
  have hfirst := List.forall₂_take_append _ _ _ hprogram.flip
  have hlast := List.forall₂_drop_append _ _ _ hprogram.flip
  rw [← lookupScript_eq, ← List.take_append_drop (pairs.map assignment).length program] at hcompile
  generalize program.drop (pairs.map assignment).length = last at hlast hcompile
  obtain _ | ⟨ht, _ | _⟩ := hlast
  exact ⟨_, _, hcompile, hfirst.flip, ht⟩

theorem toText_fold_replicate (n : Nat) (v : Value) :
    (Value.fold (List.replicate n .undefined ++ [v])).toText = v.toText := by
  rw [Value.toText_fold_append]
  have hnone : (Value.fold (List.replicate n .undefined)).toText = "" := by
    rw [Value.toText_fold, List.map_replicate]
    induction n with
    | zero => rfl
    | succ n ih =>
      rw [List.replicate_succ, String.join_cons, ih]
      rfl
  rw [hnone, String.empty_append]
  rfl

theorem toText_getD (found : Option Value) :
    (found.getD .undefined).toText = (found.map Value.toText).getD "" := by
  cases found <;> rfl

theorem runWith_lookupScript (e : Engine Builtin) (he : e.root = Scope.ofRegistry Builtin.registry)
    (htrim : e.options.trimOutput = false) (fileName : String) (event : Option MessageEvent)
    (host : σ) (pairs : List (String × String)) {name : String} (hname : name ≠ "") :
    ∃ (v : Value) (m : Machine Builtin σ),
      e.runWith Builtin.body (e.fresh fileName event) host (lookupScript pairs name) = (.ok v, m) ∧
      v.toText = (e.presets.textAfter pairs (Text.trim name)).getD "" ∧
      (pairs = [] → v = (e.presets.get? (Text.trim name)).getD .undefined) ∧
      ∀ other, (m.world.context.vars.get? other).map Value.toText =
        e.presets.textAfter pairs other := by
  let m₀ : Machine Builtin σ := e.machine (e.fresh fileName event) host
  have hidle : m₀.Idle := by
    refine ⟨?_, rfl, rfl⟩
    rw [← he]
    rfl
  obtain ⟨ts, t, hcompile, hts, ht⟩ :=
    compile_lookupScript e.options.strictBrackets pairs name
  obtain ⟨vars, m₁, hvars, hnil, hworld, hfirst⟩ := start_assignments hidle hts
  have hidle₁ := hidle.withVars hworld
  obtain ⟨m, hworld', hlast⟩ := start_retrieval hidle₁ hname ht
  let found : Value := (vars.get? (Text.trim name)).getD .undefined
  have hfound : (m₁.world.context.vars.get? (Text.trim name)).getD .undefined = found := by
    rw [hworld]
    rfl
  rw [hfound] at hlast
  let v : Value := Value.fold (List.replicate pairs.length .undefined ++ [found])
  have hrun : Run.start m₀ (evaluateSequence (callFunction Builtin.body) (ts ++ [t])) =
      (.ok v, m) := by
    have hgoing : ¬ m₁.world.context.stopped = true := by simp [hidle₁.going]
    rw [start_evaluateSequence_append_of_ok _ hfirst, start_evaluateTokens_cons _ hgoing,
      Run.start_bind_ok _ hlast]
    rfl
  have hkeep : ¬ m.world.context.options.trimOutput = true := by
    rw [hworld', hworld]
    exact Bool.eq_false_iff.mp htrim
  have hprogram : e.compile (lookupScript pairs name) = .ok (ts ++ [t]) := hcompile
  refine ⟨v, m, ?_, ?_, ?_, fun other => ?_⟩
  · rw [Engine.runWith_of_compile hprogram hrun, if_neg hkeep]
  · rw [toText_fold_replicate, toText_getD, hvars]
    rfl
  · rintro rfl
    have hpresets : vars = e.presets := hnil rfl
    rw [← hpresets]
    rfl
  · rw [hworld', hworld]
    exact hvars other

/-- A variable that is read has the text that was set last under its name, and else that of the
preset; if nothing has been set it is the preset itself. The presets of the engine stay as they are,
and so does every other context. -/
theorem variables_by_trimmed_name (e : Engine Builtin)
    (he : e.root = Scope.ofRegistry Builtin.registry) (htrim : e.options.trimOutput = false)
    (fileName : String) (event : Option MessageEvent) (host : σ)
    (pairs : List (String × String)) {name : String} (hname : name ≠ "") :
    (∃ (v : Value) (m : Machine Builtin σ),
      e.runWith Builtin.body (e.fresh fileName event) host (lookupScript pairs name) = (.ok v, m) ∧
      v.toText = (e.presets.textAfter pairs (Text.trim name)).getD "" ∧
      (pairs = [] → v = (e.presets.get? (Text.trim name)).getD .undefined) ∧
      (∀ other, (m.world.context.vars.get? other).map Value.toText =
        e.presets.textAfter pairs other) ∧
      e.resume m = e) ∧
    ∀ (s : Session Builtin σ) (id : String), s.engine = e →
      let s' := (s.perform Builtin.body (.within id (lookupScript pairs name))).2
      s'.engine.presets = e.presets ∧
        ∀ other, other ≠ id → s'.contexts.get? other = s.contexts.get? other := by
  obtain ⟨v, m, hrun, htext, hnative, hvars⟩ :=
    runWith_lookupScript e he htrim fileName event host pairs hname
  refine ⟨⟨v, m, hrun, htext, hnative, hvars, ?_⟩, fun s id hs => ?_⟩
  · have hresume := e.resume_runWith Builtin.body_isPrivate (e.fresh fileName event) host
      (lookupScript pairs name)
    rwa [hrun] at hresume
  · have hserves : s.Serves e s.host := ⟨hs, rfl⟩
    have hafter := hserves.perform Builtin.body_isPrivate (.within id (lookupScript pairs name))
    refine ⟨congrArg Engine.presets hafter.engine, fun other hother => ?_⟩
    refine Session.get?_perform_of_ne s fun hid => hother ?_
    exact (Option.some.inj hid).symm

/-- Blanks around a name, two empty arguments, and a text that looks like a call, over a preset that
is a text and another that is a list. -/
theorem variables_by_trimmed_name_blanks :
    let e : Engine Builtin := ((Engine.ofRegistry Builtin.registry).configure
      ⟨false, false⟩ [("xs", .list [.int 1, .int 2])]).setPreset "a;" (.text "old")
    let run (pairs : List (String × String)) (name : String) :=
      e.runWith Builtin.body (e.fresh "file" none) () (lookupScript pairs name)
    (e.root = Scope.ofRegistry Builtin.registry ∧ e.options.trimOutput = false) ∧
      (∃ v m, run [(" a;", "1"), ("", ""), ("a; ", " $x ")] "a;" = (.ok v, m) ∧
        v.toText = " $x " ∧ e.resume m = e) ∧
      (∃ v m, run [("b", "1")] " a;" = (.ok v, m) ∧ v.toText = "old") ∧
      ∃ v m, run [] "xs " = (.ok v, m) ∧ v = .list [.int 1, .int 2] := by
  intro e run
  have hset := (variables_by_trimmed_name e rfl rfl "file" none ()
    [(" a;", "1"), ("", ""), ("a; ", " $x ")] (by decide : "a;" ≠ "")).1
  have hother := (variables_by_trimmed_name e rfl rfl "file" none () [("b", "1")]
    (by decide : " a;" ≠ "")).1
  have hnone := (variables_by_trimmed_name e rfl rfl "file" none () [] (by decide : "xs " ≠ "")).1
  obtain ⟨v, m, hv, hvtext, -, -, hresume⟩ := hset
  obtain ⟨u, n, hu, hutext, -⟩ := hother
  obtain ⟨w, k, hw, -, hnative, -⟩ := hnone
  refine ⟨⟨rfl, rfl⟩, ⟨v, m, hv, hvtext.trans ?_, hresume⟩, ⟨u, n, hu, hutext.trans ?_⟩,
    ⟨w, k, hw, (hnative rfl).trans ?_⟩⟩
  · decide +kernel
  · decide +kernel
  · rfl

end BracketScript
