import BracketScript.Proofs.Filling
import BracketScript.Proofs.Sequences

/-! Escaping makes any text literal. -/

namespace BracketScript

namespace Lexer

/-- Puts a backslash before every character that one would make literal. -/
def escape : List Char → List Char
  | [] => []
  | c :: s => if c ∈ escapable then '\\' :: c :: escape s else c :: escape s

theorem escape_cons_of_mem {c : Char} (h : c ∈ escapable) (s : List Char) :
    escape (c :: s) = '\\' :: c :: escape s := by
  rw [escape, if_pos h]

theorem escape_append_of_plain {s : List Char} (h : ∀ c ∈ s, isPlain c = true) (t : List Char) :
    escape (s ++ t) = s ++ escape t := by
  induction s with
  | nil => rfl
  | cons c s ih =>
    have ⟨hc, hs⟩ := List.forall_mem_cons.mp h
    rw [List.cons_append, escape, if_neg (isPlain_iff.mp hc), ih hs, List.cons_append]

theorem escape_of_plain {s : List Char} (h : ∀ c ∈ s, isPlain c = true) : escape s = s := by
  have ha := escape_append_of_plain h []
  simpa [escape] using ha

theorem endsRun_escape {s t : List Char} (hs : EndsRun s) (ht : EndsRun t) :
    EndsRun (escape s ++ t) := by
  cases s with
  | nil => exact ht
  | cons c s =>
    have hc : c ∈ escapable := by
      have hp := hs c rfl
      by_contra hn
      exact absurd (isPlain_iff.mpr hn) (by simp [hp])
    rw [escape_cons_of_mem hc]
    intro d hd
    obtain rfl := Option.some.inj hd
    decide

theorem scan_escaped (p : Span) {c : Char} (h : c ∈ escapable) (s : List Char) :
    scan p ('\\' :: c :: s) =
      Token.text p (String.ofList [c]) :: scan (p.after ['\\', c]) s := by
  have hc : isEscapable c = true := isEscapable_iff.mpr h
  rw [scan_cons, lexeme_escape, escapeLexeme, if_pos hc]
  rfl

/-- An escaped text is cut into texts and numbers that spell it, wherever it stands. -/
theorem exists_scansTo_escape (p : Span) (s : List Char) :
    ∃ ts, ScansTo p (escape s) ts ∧ (∀ t ∈ ts, t.IsDatum) ∧ ts.flatMap Token.spelling = s := by
  cases s with
  | nil => exact ⟨[], .nil p, by simp, rfl⟩
  | cons c s =>
    by_cases hc : c ∈ escapable
    · obtain ⟨ts, hscan, hdata, hspell⟩ := exists_scansTo_escape (p.after ['\\', c]) s
      refine ⟨Token.text p (String.ofList [c]) :: ts, fun t ht => ?_, ?_, ?_⟩
      · rw [escape_cons_of_mem hc, List.cons_append, List.cons_append, scan_escaped p hc,
          hscan t ht]
        rfl
      · exact List.forall_mem_cons.mpr ⟨trivial, hdata⟩
      · rw [List.flatMap_cons, hspell, Token.text, Token.spelling, Literal.spelling,
          String.toList_ofList]
        rfl
    · -- a run of plain characters is one token, so all of it is taken off at once
      have hp : isPlain c = true := isPlain_iff.mpr hc
      have hrun : ∀ d ∈ c :: s.takeWhile isPlain, isPlain d = true :=
        List.forall_mem_cons.mpr ⟨hp, fun d hd => List.mem_takeWhile_imp hd⟩
      have hcut : c :: s = (c :: s.takeWhile isPlain) ++ s.dropWhile isPlain := by
        rw [List.cons_append, List.takeWhile_append_dropWhile]
      have hle := List.length_dropWhile_le isPlain s
      obtain ⟨ts, hscan, hdata, hspell⟩ :=
        exists_scansTo_escape (p.after (c :: s.takeWhile isPlain)) (s.dropWhile isPlain)
      have hwhole := (ScansTo.run p (List.cons_ne_nil _ _) hrun).append hscan
        fun t ht => endsRun_escape (endsRun_dropWhile s) ht
      rw [← escape_append_of_plain hrun, ← hcut] at hwhole
      refine ⟨_, hwhole, List.forall_mem_cons.mpr ⟨isDatum_plainLexeme p _, hdata⟩, ?_⟩
      rw [List.singleton_append, List.flatMap_cons, hspell, spelling_toToken, spelling_plainLexeme,
        ← hcut]
termination_by s.length

theorem flatMap_spelling_mergeTexts (ts : List Token) :
    (mergeTexts ts).flatMap Token.spelling = ts.flatMap Token.spelling := by
  fun_induction mergeTexts ts with
  | case1 => rfl
  | case2 p s ts q s' ts' hm ih =>
    rw [hm] at ih
    rw [List.flatMap_cons, List.flatMap_cons, ← ih, List.flatMap_cons, Token.text]
    simp [Token.spelling, Literal.spelling]
  | case3 p s ts hm ih => rw [List.flatMap_cons, List.flatMap_cons, ih, Token.text]
  | case4 t ts hm ih => rw [List.flatMap_cons, List.flatMap_cons, ih]

theorem isDatum_tokensAt_escape (p : Span) (s : List Char) :
    ∀ t ∈ tokensAt p (escape s), t.IsDatum := by
  obtain ⟨ts, hscan, hdata, -⟩ := exists_scansTo_escape p s
  rw [hscan.tokensAt_eq]
  exact forall_mergeTexts (fun p s => trivial) hdata

theorem flatMap_spelling_tokensAt_escape (p : Span) (s : List Char) :
    (tokensAt p (escape s)).flatMap Token.spelling = s := by
  obtain ⟨ts, hscan, -, hspell⟩ := exists_scansTo_escape p s
  rw [hscan.tokensAt_eq, flatMap_spelling_mergeTexts, hspell]

theorem escape_ofInt (n : Int) : escape (Decimal.ofInt n) = Decimal.ofInt n :=
  escape_of_plain fun _ hc => isPlain_of_mem_ofInt hc

end Lexer

theorem literalBefore_escape {after : String} (h : ClosesArgument after) (s : List Char) :
    LiteralBefore after.toList (Lexer.escape s) := by
  refine h.literalBefore fun p => ?_
  obtain ⟨ts, hscan, hdata, -⟩ := Lexer.exists_scansTo_escape p s
  exact ⟨ts, hscan, fun t ht => (hdata t ht).literal⟩

/-- The word that `s` is the decimal notation of, and `s` itself if it is that of none. -/
def Value.Reads (s : String) (v : Value) : Prop :=
  (∃ n : Int64, s.toList = Decimal.ofInt n.toInt ∧ v = .int n) ∨
    ((∀ n : Int64, s.toList ≠ Decimal.ofInt n.toInt) ∧ v = .text s)

theorem Value.Reads.toText {s : String} {v : Value} (h : v.Reads s) : v.toText = s := by
  rcases h with ⟨n, hn, rfl⟩ | ⟨-, rfl⟩
  · change String.ofList (Decimal.ofInt n.toInt) = s
    rw [← hn, String.ofList_toList]
  · rfl

theorem Value.Reads.toText_trimmed {s : String} {v : Value} (h : v.Reads s) :
    v.trimmed.toText = Text.trim s := by
  rcases h with ⟨n, hn, rfl⟩ | ⟨-, rfl⟩
  · rw [Text.trim, hn, Text.trimChars_ofInt_self]
    rfl
  · rfl

theorem Value.Reads.unique {s : String} {v w : Value} (hv : v.Reads s) (hw : w.Reads s) :
    v = w := by
  rcases hv with ⟨n, hn, rfl⟩ | ⟨hv, rfl⟩
  · rcases hw with ⟨k, hk, rfl⟩ | ⟨hw, -⟩
    · have hread := Decimal.readWord?_ofInt n
      rw [← hn, hk, Decimal.readWord?_ofInt] at hread
      rw [Option.some.inj hread]
    · exact absurd hn (hw n)
  · rcases hw with ⟨k, hk, -⟩ | ⟨-, rfl⟩
    · exact absurd hk (hv k)
    · rfl

variable {κ σ : Type}

theorem reads_fold_tokensAt_escape (p : Span) {s : String} (hs : s ≠ "") :
    (Value.fold ((Lexer.tokensAt p (Lexer.escape s.toList)).map Token.value)).Reads s := by
  by_cases hn : ∃ n : Int64, s.toList = Decimal.ofInt n.toInt
  · obtain ⟨n, hn⟩ := hn
    rw [hn, Lexer.escape_ofInt, Lexer.tokensAt_ofInt]
    exact .inl ⟨n, hn, rfl⟩
  · have hdata := Lexer.isDatum_tokensAt_escape p s.toList
    have hspell := Lexer.flatMap_spelling_tokensAt_escape p s.toList
    have hjoin := toList_join_toText fun t ht => (hdata t ht).literal
    generalize Lexer.tokensAt p (Lexer.escape s.toList) = ts at hdata hspell hjoin
    rw [hspell] at hjoin
    -- a number alone would make `s` its notation, and with others it is joined as text
    refine .inr ⟨fun n h => hn ⟨n, h⟩, ?_⟩
    match ts with
    | [] => exact absurd (String.toList_eq_nil_iff.mp hspell.symm) hs
    | [t] =>
      obtain ⟨q, v, rfl⟩ := (hdata t List.mem_cons_self).literal
      rw [List.flatMap_singleton] at hspell
      cases v with
      | text s' => exact congrArg _ (String.toList_injective hspell)
      | number n => exact absurd ⟨n, hspell.symm⟩ hn
      | operator op => exact absurd (hdata _ List.mem_cons_self) id
    | t :: u :: ts => exact congrArg _ (String.toList_injective hjoin)

def escapeText (s : String) : String :=
  String.ofList (Lexer.escape s.toList)

theorem tokensAt_escape_ne_nil (p : Span) {s : String} (hs : s ≠ "") :
    Lexer.tokensAt p (Lexer.escape s.toList) ≠ [] := by
  intro h
  have hspell := Lexer.flatMap_spelling_tokensAt_escape p s.toList
  rw [h] at hspell
  exact hs (String.toList_eq_nil_iff.mp hspell.symm)

theorem escapeText_ne_empty {s : String} (hs : s ≠ "") : escapeText s ≠ "" := by
  intro h
  have hempty : Lexer.escape s.toList = [] := by
    have hl := congrArg String.toList h
    rwa [escapeText, String.toList_ofList] at hl
  have hne := tokensAt_escape_ne_nil .start hs
  rw [hempty, Lexer.tokensAt, Lexer.scan] at hne
  exact hne rfl

theorem tokenize_escapeText {s : String} (hs : s ≠ "") :
    tokenize (escapeText s) = .ok (Lexer.tokensAt .start (Lexer.escape s.toList)) := by
  rw [tokenize_eq_tokensAt (escapeText_ne_empty hs), escapeText, String.toList_ofList]

theorem compile_escapeText (strict : Bool) {s : String} (hs : s ≠ "") :
    compile strict (escapeText s) = .ok (Lexer.tokensAt .start (Lexer.escape s.toList)) := by
  rw [compile_of_tokenize (tokenize_escapeText hs)]
  exact parse_literals strict fun t ht => (Lexer.isDatum_tokensAt_escape .start _ t ht).literal

/-- The tokens of an escaped text have the value that it is read as, wherever they stand. -/
theorem start_evaluateSequence_escape (p : Span) {s : String} {v : Value} (hs : s ≠ "")
    (hv : v.Reads s) (dispatch : Call → Run κ σ Value) {m : Machine κ σ}
    (hm : m.world.context.stopped = false) :
    Run.start m (evaluateSequence dispatch (Lexer.tokensAt p (Lexer.escape s.toList))) =
      (.ok v, m) := by
  rw [hv.unique (reads_fold_tokensAt_escape p hs)]
  exact start_evaluateSequence dispatch hm fun t ht =>
    (Lexer.isDatum_tokensAt_escape p _ t ht).literal

theorem runWith_escapeText (bodies : Bodies κ σ) (e : Engine κ) (context : Context κ) (host : σ)
    (hc : context.stopped = false) {s : String} {v : Value} (hs : s ≠ "") (hv : v.Reads s) :
    e.runWith bodies context host (escapeText s) =
      (.ok (if context.options.trimOutput then v.trimmed else v), e.machine context host) := by
  have hcompile : e.compile (escapeText s) = _ := compile_escapeText _ hs
  have hrun := start_evaluateSequence_escape .start hs hv (callFunction bodies)
    (m := e.machine context host) hc
  exact Engine.runWith_of_compile hcompile hrun

/-- Escaping makes any text literal, as a script of its own and as an argument of a call. -/
theorem escapeText_literal {κ σ : Type} {s : String} (hs : s ≠ "") :
    ∃ v : Value, v.Reads s ∧ v.trimmed.toText = Text.trim s ∧
      (∃ tokens, tokenize (escapeText s) = .ok tokens ∧ (∀ t ∈ tokens, t.IsDatum) ∧
        ∀ strict, compile strict (escapeText s) = .ok tokens) ∧
      (∀ (bodies : Bodies κ σ) (e : Engine κ) (context : Context κ) (host : σ),
        context.stopped = false →
        e.runWith bodies context host (escapeText s) =
          (.ok (if context.options.trimOutput then v.trimmed else v), e.machine context host)) ∧
      ∀ (strict : Bool) (before after : String), OpensArgument before → ClosesArgument after →
        ((∃ program, compile strict (before ++ escapeText s ++ after) = .ok program) ↔
          ∃ program, compile strict (before ++ after) = .ok program) ∧
        ∀ program, compile strict (before ++ escapeText s ++ after) = .ok program →
          ∃ t ∈ program, t.HasCall fun call => ∃ i arg, call.args[i]? = some arg ∧
            arg = Lexer.tokensAt (.following before.toList) (escapeText s).toList ∧
            (∀ u ∈ arg, u.IsDatum) ∧
            ∀ (dispatch : Call → Run κ σ Value) (m : Machine κ σ),
              m.world.context.stopped = false →
              Run.start m (perform dispatch (call.argument i)) = (.ok v, m) := by
  have hv := reads_fold_tokensAt_escape .start hs
  refine ⟨_, hv, hv.toText_trimmed, ⟨_, tokenize_escapeText hs,
    Lexer.isDatum_tokensAt_escape .start s.toList, fun strict => compile_escapeText strict hs⟩,
    fun bodies e context host hc => runWith_escapeText bodies e context host hc hs hv,
    fun strict before after hb ha => ?_⟩
  have hliteral := literalBefore_escape ha s.toList
  obtain ⟨hiff, hcall⟩ := compile_argument strict hb ha hliteral
  refine ⟨hiff, fun program hp => ?_⟩
  obtain ⟨t, ht, hhas⟩ := hcall program hp
  refine ⟨t, ht, hhas.mono fun call harg => ?_⟩
  obtain ⟨i, hi⟩ := List.mem_iff_getElem?.mp harg
  refine ⟨i, _, hi, by rw [escapeText, String.toList_ofList],
    Lexer.isDatum_tokensAt_escape _ s.toList, fun dispatch m hm => ?_⟩
  exact start_argument dispatch hi (start_evaluateSequence_escape _ hs hv dispatch hm)

/-- A semicolon and a digit are two tokens, as a script and as what `$get` is given. -/
theorem escapeText_literal_semicolon :
    ";5" ≠ "" ∧
      tokenize (escapeText ";5") = .ok [.text ⟨1, 1⟩ ";", .literal ⟨1, 3⟩ (.number 5)] ∧
      ((Engine.ofRegistry Builtin.registry).runInput Builtin.body () (escapeText ";5") "text").1 =
        .ok (.text ";5") ∧
      OpensArgument "$get[" ∧ ClosesArgument "]" ∧
      ∃ program, compile true ("$get[" ++ escapeText ";5" ++ "]") = .ok program := by
  have hreads : (Value.text ";5").Reads ";5" := by
    refine .inr ⟨fun n h => ?_, rfl⟩
    have hmem : ';' ∈ Decimal.ofInt n.toInt := h ▸ List.mem_cons_self
    rcases Decimal.mem_ofInt hmem with hc | hc <;> exact absurd hc (by decide)
  have hopens : OpensArgument "$get[" :=
    ⟨[.call ⟨1, 1⟩ "$get" []], ⟨1, 5⟩, .opening, by cbv, nofun, rfl⟩
  have hcloses : ClosesArgument "]" := .inl rfl
  obtain ⟨v, hv, -, -, hrun, harg⟩ :=
    escapeText_literal (κ := Builtin) (σ := Unit) (s := ";5") (by decide)
  obtain rfl := hv.unique hreads
  refine ⟨by decide, by cbv, ?_, hopens, hcloses, ?_⟩
  · rw [Engine.runInput, hrun Builtin.body _ _ () rfl]
    rfl
  · exact (harg true "$get[" "]" hopens hcloses).1.mpr ⟨[.call ⟨1, 1⟩ "$get" [[]]], by cbv⟩

end BracketScript
