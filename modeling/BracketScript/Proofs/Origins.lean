import BracketScript.Proofs.Names
import BracketScript.Proofs.Recasing
import BracketScript.Proofs.Respelling

/-! Runs of sources with the heads of calls in another case. They end in the same way, and where
that is an error about a function, its name is taken from one and the same place in each of the
sources, or else from none of them. -/

namespace BracketScript

/-- The head of a call at this place of a source has this name. -/
def SpelledAt (source : String) (p : Span) (name : String) : Prop :=
  .call p name [] ∈ Lexer.tokensAt .start source.toList

/-! To tell where a name in an error comes from, the names in a program are marked with their
places. A run takes no notice of marks that do not count when names are looked up. -/

section Marks

def Token.marked (mark : Span → String → String) : Token → Token
  | .call p name args => .call p (mark p name) args
  | t => t

def compileMarked (mark : Span → String → String) (strict : Bool) (source : String) :
    Except ScriptError Program :=
  (tokenize source).bind fun tokens => parse strict (tokens.map (Token.marked mark))

theorem compileMarked_self (strict : Bool) (source : String) :
    compileMarked (fun _ name => name) strict source = compile strict source := by
  have hself : Token.marked (fun _ name => name) = id := by
    funext t
    cases t <;> rfl
  simp only [compileMarked, hself, List.map_id]
  rfl

variable (mark : Span → String → String) {s s' : String} {H : String → String → Prop}

theorem tokens_marked (h : Lexer.Recased s.toList s'.toList)
    (hH : ∀ p name name', SpelledAt s p name → SpelledAt s' p name' →
      Text.lowerAscii name'.toList = Text.lowerAscii name.toList → H (mark p name) name') :
    List.Forall₂ (Token.Respelled H)
      ((Lexer.tokensAt .start s.toList).map (Token.marked mark))
      (Lexer.tokensAt .start s'.toList) := by
  have htokens := Lexer.tokensAt_recased .start h
  obtain ⟨hlength, hget⟩ := List.forall₂_iff_get.mp htokens
  refine List.forall₂_map_left_iff.mpr (List.forall₂_iff_get.mpr ⟨hlength, fun i hi hi' => ?_⟩)
  have ht := List.get_mem (Lexer.tokensAt .start s.toList) ⟨i, hi⟩
  have ht' := List.get_mem (Lexer.tokensAt .start s'.toList) ⟨i, hi'⟩
  have hpair := hget i hi hi'
  generalize (Lexer.tokensAt .start s.toList).get ⟨i, hi⟩ = t at ht hpair ⊢
  generalize (Lexer.tokensAt .start s'.toList).get ⟨i, hi'⟩ = t' at ht' hpair ⊢
  cases hpair with
  | literal p v => exact .literal p v
  | punctuation p mark => exact .punctuation p mark
  | head p hname => exact .call (hH p _ _ ht ht' hname) .nil

theorem compile_marked (h : Lexer.Recased s.toList s'.toList) (strict : Bool)
    (hH : ∀ p name name', SpelledAt s p name → SpelledAt s' p name' →
      Text.lowerAscii name'.toList = Text.lowerAscii name.toList → H (mark p name) name') :
    Agree (List.Forall₂ (Token.Respelled H)) Eq (compileMarked mark strict s)
      (compile strict s') := by
  have hempty : s' = "" ↔ s = "" := by
    rw [← String.toList_eq_nil_iff, ← String.toList_eq_nil_iff]
    generalize s.toList = u, s'.toList = u' at h
    cases h <;> simp
  by_cases hs : s = ""
  · rw [hempty.mpr hs, hs]
    exact .error rfl
  · rw [compileMarked, tokenize_eq_tokensAt hs,
      compile_of_tokenize (tokenize_eq_tokensAt fun hs' => hs (hempty.mp hs'))]
    exact parse_respelled (tokens_marked mark h hH) strict

/-- The second name is the first one, or stands in `s'` where the first one marks a name of `s`. -/
def MarkedFor (s s' name name' : String) : Prop :=
  name' = name ∨ ∃ p other, name = mark p other ∧ SpelledAt s p other ∧ SpelledAt s' p name' ∧
    Text.lowerAscii name'.toList = Text.lowerAscii other.toList

variable {mark} in
theorem respelling_markedFor (hmark : ∀ p name, normalName (mark p name) = normalName name) :
    Respelling (MarkedFor mark s s') := by
  refine ⟨fun name => .inl rfl, fun name name' h => ?_⟩
  obtain rfl | ⟨p, other, rfl, -, -, hlower⟩ := h
  · rfl
  · rw [hmark, normalName_congr hlower]

variable {κ σ : Type}

theorem runs_marked (hmark : ∀ p name, normalName (mark p name) = normalName name)
    {bodies : Bodies κ σ} (hbodies : ∀ code, IgnoresSpelling (bodies code)) (e : Engine κ)
    (context : Context κ) (host : σ) (h : Lexer.Recased s.toList s'.toList) :
    let marked := Run.start (e.machine context host)
      (MonadExcept.ofExcept (compileMarked mark e.options.strictBrackets s) >>= runProgram bodies)
    let run := e.runWith bodies context host s'
    Agree Eq (ScriptError.Respelled (MarkedFor mark s s')) marked.1 run.1 ∧
      run.2.world = marked.2.world := by
  have hcompiled := compile_marked mark h e.options.strictBrackets
    fun p name name' hs hs' hlower =>
      show MarkedFor mark s s' (mark p name) name' from .inr ⟨p, name, rfl, hs, hs', hlower⟩
  exact runs_respelled (respelling_markedFor hmark) hbodies (e.machine context host) hcompiled

/-- A mark of blanks behind the name, more than `k` of them. -/
def blanksFor (k : Nat) (p : Span) (name : String) : String :=
  name ++ String.ofList ('\t' :: List.replicate (k + Nat.pair p.line p.column) ' ')

theorem normalName_blanksFor (k : Nat) (p : Span) (name : String) :
    normalName (blanksFor k p name) = normalName name := by
  refine normalName_append_blanks name fun c hc => ?_
  obtain rfl | hc := List.mem_cons.mp hc
  · rfl
  · rw [(List.mem_replicate.mp hc).2]
    rfl

theorem lt_length_blanksFor (k : Nat) (p : Span) (name : String) :
    k < (blanksFor k p name).toList.length := by
  simp only [blanksFor, String.toList_append, String.toList_ofList, List.length_append,
    List.length_cons, List.length_replicate]
  omega

theorem place_of_blanksFor {k : Nat} {p q : Span} {name other : String}
    (h : blanksFor k p name = blanksFor k q other) : p = q := by
  have hcount (p : Span) (name : String) :
      ((blanksFor k p name).toList.reverse.takeWhile (· == ' ')).length =
        k + Nat.pair p.line p.column := by
    simp [blanksFor, List.takeWhile_append_of_pos]
  have hpair : Nat.pair p.line p.column = Nat.pair q.line q.column := by
    have hp := hcount p name
    rw [h, hcount q other] at hp
    omega
  obtain ⟨line, column⟩ := p
  obtain ⟨line', column'⟩ := q
  obtain ⟨rfl, rfl⟩ := Nat.pair_eq_pair.mp hpair
  rfl

end Marks

/-- Two names that are taken from the same place of two sources, or from no place in them and are
the same. -/
def SameOrigin (origin : Option Span) (s s' name name' : String) : Prop :=
  match origin with
  | some p => SpelledAt s p name ∧ SpelledAt s' p name'
  | none => name' = name

/-- The mark of a name tells its origin. -/
theorem exists_origin {k : Nat} {s marked name : String}
    (h : MarkedFor (blanksFor k) s s marked name) (hk : name.toList.length ≤ k) :
    ∃ origin, ∀ s' name', MarkedFor (blanksFor k) s s' marked name' →
      name'.toList.length = name.toList.length → SameOrigin origin s s' name name' := by
  by_cases hmarked : ∃ p other, marked = blanksFor k p other
  · obtain ⟨p, other, rfl⟩ := hmarked
    have hlong := lt_length_blanksFor k p other
    obtain rfl | ⟨q, other', hq, -, hspelled, -⟩ := h
    · omega
    refine ⟨some q, fun s' name' h' hlength => ⟨hspelled, ?_⟩⟩
    obtain rfl | ⟨q', other'', hq', -, hspelled', -⟩ := h'
    · omega
    · obtain rfl := place_of_blanksFor (hq.symm.trans hq')
      exact hspelled'
  · have hself {s' name' : String} (h' : MarkedFor (blanksFor k) s s' marked name') :
        name' = marked := by
      obtain hsame | ⟨p, other, hp, -⟩ := h'
      · exact hsame
      · exact absurd ⟨p, other, hp⟩ hmarked
    exact ⟨none, fun s' name' h' _ => (hself h').trans (hself h).symm⟩

section Runs

variable {κ σ : Type} {bodies : Bodies κ σ}

theorem runs_recased (hbodies : ∀ code, IgnoresSpelling (bodies code)) (e : Engine κ)
    (context : Context κ) (host : σ) {s s' : String} (h : Lexer.Recased s.toList s'.toList) :
    let run (source : String) := e.runWith bodies context host source
    Agree Eq (ScriptError.Respelled fun name name' => name'.toList.length = name.toList.length)
        (run s).1 (run s').1 ∧ (run s').2.world = (run s).2.world := by
  intro run
  have hmarked := runs_marked (fun _ name => name) (fun _ _ => rfl) hbodies e context host h
  rw [compileMarked_self] at hmarked
  refine ⟨hmarked.1.imp_errors fun _ _ _ _ herror => herror.of_names fun name name' hn hn' => ?_,
    hmarked.2⟩
  obtain rfl | ⟨p, other, rfl, -, -, hlower⟩ := herror.names hn hn'
  · rfl
  · simpa [Text.lowerAscii] using congrArg List.length hlower

/-- What the error of a run is about comes from one place, or from none, however the heads of its
source are written. -/
theorem exists_error_origin (hbodies : ∀ code, IgnoresSpelling (bodies code)) (e : Engine κ)
    (context : Context κ) (host : σ) (s : String) :
    let run (source : String) := e.runWith bodies context host source
    ∃ origin, ∀ s', Lexer.Recased s.toList s'.toList → ∀ error error', (run s).1 = .error error →
      (run s').1 = .error error' → error.Respelled (SameOrigin origin s s') error' := by
  intro run
  have hrecased {s' : String} (h : Lexer.Recased s.toList s'.toList) :=
    (runs_recased hbodies e context host h).1
  cases hr : (run s).1 with
  | ok v => exact ⟨none, nofun⟩
  | error error =>
    cases hname : error.function? with
    | none =>
      refine ⟨none, fun s' h _ error' he hr' => ?_⟩
      obtain rfl := Except.error.inj he
      refine ((hrecased h).errors hr hr').of_names fun name name' hn _ => ?_
      rw [hname] at hn
      cases hn
    | some name =>
      have hmarked {s' : String} (h : Lexer.Recased s.toList s'.toList) :=
        (runs_marked _ (normalName_blanksFor name.toList.length) hbodies e context host h).1
      have hself := hmarked (Lexer.Recased.refl s.toList)
      obtain ⟨markedError, hme⟩ := hself.exists_error hr
      have hfirst := hself.errors hme hr
      obtain ⟨marked, hm⟩ : ∃ marked, markedError.function? = some marked :=
        Option.isSome_iff_exists.mp (by rw [hfirst.isSome_function?, hname]; rfl)
      obtain ⟨origin, horigin⟩ := exists_origin (hfirst.names hm hname) le_rfl
      refine ⟨origin, fun s' h _ error' he hr' => ?_⟩
      obtain rfl := Except.error.inj he
      have hother := (hmarked h).errors hme hr'
      have hlength := (hrecased h).errors hr hr'
      refine hlength.of_names fun other name' hn hn' => ?_
      obtain rfl : name = other := Option.some.inj (hname.symm.trans hn)
      exact horigin s' name' (hother.names hm hn') (hlength.names hn hn')

end Runs

/-- The case of the letters in call heads does not count. Whatever it is, a source is read in the
same way or refused with the same error, and a run ends in the same value and leaves the same world.
Where it ends in an error about a function, there is one place at which every such source has the
name that is in its error, or else it is the same name for all of them. -/
theorem heads_ignore_case {η σ : Type} (hosts : η → Call → Routine (Builtin ⊕ η) σ Value)
    (hhosts : ∀ h, IgnoresSpelling (hosts h)) (e : Engine (Builtin ⊕ η))
    (context : Context (Builtin ⊕ η)) (host : σ) (s : String) :
    let run (source : String) := e.runWith (Sum.elim Builtin.body hosts) context host source
    ∃ origin, ∀ s', Lexer.Recased s.toList s'.toList →
      Agree (List.Forall₂ (Token.Respelled fun name name' =>
          ∃ p, SpelledAt s p name ∧ SpelledAt s' p name')) Eq (e.compile s) (e.compile s') ∧
        Agree Eq (ScriptError.Respelled (SameOrigin origin s s')) (run s).1 (run s').1 ∧
        (run s').2.world = (run s).2.world := by
  intro run
  have hbodies : ∀ code, IgnoresSpelling (Sum.elim Builtin.body hosts code) := by
    rintro (f | h)
    · exact f.body_ignoresSpelling
    · exact hhosts h
  obtain ⟨origin, horigin⟩ := exists_error_origin hbodies e context host s
  refine ⟨origin, fun s' h => ?_⟩
  have hcompiled := compile_marked (fun _ name => name) h e.options.strictBrackets
    fun p name name' hs hs' _ => (⟨p, hs, hs'⟩ : ∃ p, SpelledAt s p name ∧ SpelledAt s' p name')
  rw [compileMarked_self] at hcompiled
  obtain ⟨hagree, hworld⟩ := runs_recased hbodies e context host h
  exact ⟨hcompiled, hagree.imp_errors fun error error' hr hr' _ => horigin s' h error error' hr hr',
    hworld⟩

/-- A failing call after a function of the host, and the same in other letters. The name in the
error is the one that each of the sources has there. -/
theorem heads_ignore_case_failing :
    let hosts (_ : Unit) (call : Call) : Routine (Builtin ⊕ Unit) Unit Value := do
      let s ← call.text 0
      return .text (s ++ s)
    let e : Engine (Builtin ⊕ Unit) :=
      Engine.ofRegistry [("$twice", .inr ()), ("$trunc", .inl .trunc)]
    let run (source : String) :=
      e.runWith (Sum.elim Builtin.body hosts) (e.prepare "failing") () source
    let s := "$twice[1]$trunc[x]"
    let s' := "$tWICE[1]$Trunc[x]"
    (∀ h, IgnoresSpelling (hosts h)) ∧ Lexer.Recased s.toList s'.toList ∧
      (run s).1 = .error (.failed "$trunc" (.notNumber 1)) ∧
      (run s').1 = .error (.failed "$Trunc" (.notNumber 1)) ∧
      (∃ p, SpelledAt s p "$trunc" ∧ SpelledAt s' p "$Trunc") ∧
      (run s').2.world = (run s).2.world := by
  intro hosts e run s s'
  have hhosts : ∀ h, IgnoresSpelling (hosts h) := by
    intro _ H hH call call' h
    exact (h.toCall.text hH.resemblance not_false).andThen hH.resemblance _
  have hrecased : Lexer.Recased s.toList s'.toList := by
    have hs : s.toList = '$' :: ("twice".toList ++ ('[' :: '1' :: ']' :: '$' ::
        ("trunc".toList ++ "[x]".toList))) := by decide
    have hs' : s'.toList = '$' :: ("tWICE".toList ++ ('[' :: '1' :: ']' :: '$' ::
        ("Trunc".toList ++ "[x]".toList))) := by decide
    rw [hs, hs']
    refine .head (by decide) ?_
    refine .char (by decide) (.char (by decide) (.char (by decide) ?_))
    exact .head (by decide) (.refl _)
  have hfails {source : String} {error : ScriptError}
      (h : (run source).1.map Value.toText = .error error) : (run source).1 = .error error := by
    cases hr : (run source).1 with
    | ok v =>
      rw [hr] at h
      cases h
    | error error' =>
      rw [hr] at h
      exact congrArg _ (Except.error.inj h)
  have hrun : (run s).1 = .error (.failed "$trunc" (.notNumber 1)) := hfails (by decide +kernel)
  have hrun' : (run s').1 = .error (.failed "$Trunc" (.notNumber 1)) := hfails (by decide +kernel)
  obtain ⟨origin, horigin⟩ := heads_ignore_case hosts hhosts e (e.prepare "failing") () s
  obtain ⟨-, hagree, hworld⟩ := horigin s' hrecased
  have hspelled : ∃ p, SpelledAt s p "$trunc" ∧ SpelledAt s' p "$Trunc" := by
    have horigin := (hagree.errors hrun hrun').names rfl rfl
    cases origin with
    | none =>
      have hsame : "$Trunc" = "$trunc" := horigin
      exact absurd hsame (by decide)
    | some p => exact ⟨p, horigin⟩
  exact ⟨hhosts, hrecased, hrun, hrun', hspelled, hworld⟩

end BracketScript
