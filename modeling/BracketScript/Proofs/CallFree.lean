import BracketScript.Proofs.EscapedText
import BracketScript.Proofs.Roles
import BracketScript.Proofs.Sequences

/-! Scripts without calls. Their value is the text they are written as, without the backslashes that
escape something, and strict brackets refuse them at the first bracket or separator that nothing
escapes. -/

namespace BracketScript

namespace Token

def isCall : Token → Bool
  | .call .. => true
  | _ => false

def mark? : Token → Option (Span × Punctuation)
  | .punctuation p mark => some (p, mark)
  | _ => none

/-- The token with its punctuation as text. -/
def asLiteral : Token → Token
  | .punctuation p mark => .text p mark.spelling
  | t => t

theorem spelling_asLiteral (t : Token) : t.asLiteral.spelling = t.spelling := by
  cases t <;> rfl

theorem exists_asLiteral {t : Token} (h : t.isCall = false) : ∃ p v, t.asLiteral = .literal p v := by
  cases t with
  | literal p v => exact ⟨p, v, rfl⟩
  | punctuation p mark => exact ⟨p, _, rfl⟩
  | call p name args => cases h

end Token

namespace Lexer

namespace Glyph

def chars : Glyph → List Char
  | bare c => [c]
  | paired c => ['\\', c]

def mark? : Glyph → Option Punctuation
  | bare '[' => some .opening
  | bare ']' => some .closing
  | bare ';' => some .separator
  | _ => none

theorem mark?_bare {c : Char} (h : c ∉ ['[', ']', ';']) : (bare c).mark? = none := by
  rw [mark?] <;> rintro ⟨⟩ <;> simp at h

/-- A kind of characters that no punctuation is of. -/
theorem mark?_map_bare {kind : Char → Bool} (hkind : ['[', ']', ';'].any kind = false)
    {s : List Char} (h : ∀ c ∈ s, kind c = true) : ∀ g ∈ s.map bare, g.mark? = none := by
  intro g hg
  obtain ⟨c, hc, rfl⟩ := List.mem_map.mp hg
  exact mark?_bare fun hmark => List.any_eq_false.mp hkind c hmark (h c hc)

end Glyph

theorem flatMap_chars_glyphs (s : List Char) : (glyphs s).flatMap Glyph.chars = s := by
  fun_induction glyphs s with
  | case1 => rfl
  | case2 => rfl
  | case3 c s ih => rw [List.flatMap_cons, ih]; rfl
  | case4 c s hpair hlast ih => rw [List.flatMap_cons, ih]; rfl

/-- The first bracket or separator that is in no pair, with its place. -/
def firstMark? (p : Span) : List Glyph → Option (Span × Punctuation)
  | [] => none
  | g :: gs =>
    match g.mark? with
    | some mark => some (p, mark)
    | none => firstMark? (p.after g.chars) gs

theorem firstMark?_append {piece : List Glyph} (h : ∀ g ∈ piece, g.mark? = none) (p : Span)
    (gs : List Glyph) :
    firstMark? p (piece ++ gs) = firstMark? (p.after (piece.flatMap Glyph.chars)) gs := by
  induction piece generalizing p with
  | nil => rfl
  | cons g piece ih =>
    have ⟨hg, hpiece⟩ := List.forall_mem_cons.mp h
    rw [List.cons_append, firstMark?, hg, List.flatMap_cons, Span.after_append]
    exact ih hpiece (p.after g.chars)

/-- A piece is punctuation, or there is none in it. -/
theorem Role.mark_cases {piece gs : List Glyph} {said : Lexeme} (h : Role piece gs said) :
    (∃ g mark, piece = [g] ∧ g.mark? = some mark ∧ said = .punctuation mark) ∨
      (∀ g ∈ piece, g.mark? = none) ∧ ∀ mark, said ≠ .punctuation mark := by
  have hoperator {op : Operator} {s : List Char} (hop : op.spelling.toList = s) :
      ∀ g ∈ s.map Glyph.bare, g.mark? = none := by
    have hs : ∀ c ∈ s, isOperatorChar c = true := fun c hc => isOperatorChar_of_spelling (hop ▸ hc)
    exact Glyph.mark?_map_bare (by decide) hs
  cases h with
  | opening => exact .inl ⟨_, _, rfl, rfl, rfl⟩
  | closing => exact .inl ⟨_, _, rfl, rfl, rfl⟩
  | separator => exact .inl ⟨_, _, rfl, rfl, rfl⟩
  | pair c => exact .inr ⟨by simp [Glyph.mark?], nofun⟩
  | backslash => exact .inr ⟨by simp [Glyph.mark?], nofun⟩
  | head hne hname =>
    have hnone := Glyph.mark?_map_bare (by decide) hname
    exact .inr ⟨List.forall_mem_cons.mpr ⟨rfl, hnone⟩, nofun⟩
  | dollar => exact .inr ⟨by simp [Glyph.mark?], nofun⟩
  | double hop => exact .inr ⟨hoperator hop, nofun⟩
  | single hop => exact .inr ⟨hoperator hop, nofun⟩
  | lone hc => exact .inr ⟨by rcases hc with rfl | rfl <;> simp [Glyph.mark?], nofun⟩
  | number n =>
    have hn : ∀ c ∈ Decimal.ofInt n.toInt, isPlain c = true := fun c => isPlain_of_mem_ofInt
    exact .inr ⟨Glyph.mark?_map_bare (by decide) hn, nofun⟩
  | run hne hplain => exact .inr ⟨Glyph.mark?_map_bare (by decide) hplain, nofun⟩

theorem mark?_toToken {said : Lexeme} (h : ∀ mark, said ≠ .punctuation mark) (p : Span) :
    (said.toToken p).mark? = none := by
  cases said with
  | literal v => rfl
  | head name => rfl
  | punctuation mark => exact absurd rfl (h mark)

/-- The first punctuation among the tokens is the first that is in no pair. -/
theorem findSome?_mark?_scan (p : Span) (s : List Char) :
    (scan p s).findSome? Token.mark? = firstMark? p (glyphs s) := by
  cases s with
  | nil => rw [scan]; rfl
  | cons c rest =>
    have hlt : (rest.drop (lexeme c rest).2).length < (c :: rest).length := by
      simp only [List.length_drop, List.length_cons]
      omega
    obtain ⟨piece, hglyphs, hrole⟩ := exists_role c rest
    have hrest := findSome?_mark?_scan (p.after (c :: rest.take (lexeme c rest).2))
      (rest.drop (lexeme c rest).2)
    have hchars : piece.flatMap Glyph.chars = c :: rest.take (lexeme c rest).2 := by
      have hall := flatMap_chars_glyphs (c :: rest)
      rw [hglyphs, List.flatMap_append, flatMap_chars_glyphs] at hall
      have hsplit : c :: rest = (c :: rest.take (lexeme c rest).2) ++ rest.drop (lexeme c rest).2 := by
        rw [List.cons_append, List.take_append_drop]
      exact List.append_cancel_right (hall.trans hsplit)
    rw [scan_cons, hglyphs]
    obtain ⟨g, mark, rfl, hg, hsaid⟩ | ⟨hnone, hsaid⟩ := hrole.mark_cases
    · rw [hsaid, List.singleton_append, firstMark?, hg]
      rfl
    · rw [firstMark?_append hnone, hchars, ← hrest, List.findSome?_cons_of_isNone]
      rw [mark?_toToken hsaid]
      rfl
termination_by s.length

theorem findSome?_mark?_mergeTexts (ts : List Token) :
    (mergeTexts ts).findSome? Token.mark? = ts.findSome? Token.mark? := by
  fun_induction mergeTexts ts with
  | case1 => rfl
  | case2 p s ts q s' ts' hm ih =>
    rw [hm] at ih
    exact ih
  | case3 p s ts hm ih => exact ih
  | case4 t ts hm ih => rw [List.findSome?_cons, List.findSome?_cons, ih]

theorem findSome?_mark?_tokensAt (p : Span) (s : List Char) :
    (tokensAt p s).findSome? Token.mark? = firstMark? p (glyphs s) := by
  rw [tokensAt, findSome?_mark?_mergeTexts, findSome?_mark?_scan]

theorem Segmented.flatMap_spelling {p : Span} {ss : List (List Char)} {ts : List Token}
    (h : Segmented p ss ts) : ts.flatMap Token.spelling = unescape ss.flatten := by
  induction ts generalizing p ss with
  | nil =>
    cases ss with
    | nil => rfl
    | cons s ss => exact absurd h id
  | cons t ts ih =>
    cases ss with
    | nil => exact absurd h id
    | cons s ss =>
      obtain ⟨-, hs, -, hclosed, hts⟩ := h
      rw [List.flatMap_cons, hs, ih hts, List.flatten_cons]
      -- only what is not the end of the source is sure to be closed
      by_cases hss : ss = []
      · rw [hss, List.flatten_nil, List.append_nil, unescape, List.append_nil]
      · exact (hclosed hss ss.flatten).symm

theorem flatMap_spelling_tokensAt (p : Span) (s : List Char) :
    (tokensAt p s).flatMap Token.spelling = unescape s := by
  obtain ⟨ss, hflat, hss⟩ := scan_segmented p s
  rw [tokensAt, flatMap_spelling_mergeTexts, hss.flatMap_spelling, hflat]

end Lexer

/-- Without calls all punctuation is outside every group. -/
theorem Program.read_call_free (strict : Bool) (outer : List Token) {ts : List Token}
    (h : ∀ t ∈ ts, t.isCall = false) :
    read strict ⟨[], outer, none⟩ ts =
      match if strict then ts.findSome? Token.mark? else none with
      | none => .ok (outer.reverse ++ ts.map Token.asLiteral)
      | some (p, mark) => .error (.malformed p (.unexpected mark)) := by
  induction ts generalizing outer with
  | nil => cases strict <;> simp [read, Reading.finish, Reading.settle]
  | cons t ts ih =>
    obtain ⟨ht, hts⟩ := List.forall_mem_cons.mp h
    have hadd (u : Token) : read strict (Reading.add ⟨[], outer, none⟩ u) ts = _ :=
      ih (u :: outer) hts
    cases t with
    | call p name args => cases ht
    | literal p v =>
      refine (hadd (.literal p v)).trans ?_
      rw [List.findSome?_cons_of_isNone rfl, List.reverse_cons, List.append_assoc]
      rfl
    | punctuation p mark =>
      rw [read_stray strict [] outer p ts (.inl rfl)]
      cases strict with
      | true => rfl
      | false =>
        refine (hadd (.text p mark.spelling)).trans ?_
        rw [List.reverse_cons, List.append_assoc]
        rfl

theorem parse_call_free (strict : Bool) {tokens : List Token}
    (h : ∀ t ∈ tokens, t.isCall = false) :
    parse strict tokens =
      match if strict then tokens.findSome? Token.mark? else none with
      | none => .ok (tokens.map Token.asLiteral)
      | some (p, mark) => .error (.malformed p (.unexpected mark)) := by
  rw [parse_eq_read]
  exact Program.read_call_free strict [] h

/-- Trimming a value of literals is trimming its text. -/
theorem toText_trimmed_fold {ts : List Token} (h : ∀ t ∈ ts, ∃ p v, t = .literal p v) :
    (Value.fold (ts.map Token.value)).trimmed.toText =
      Text.trim (Value.fold (ts.map Token.value)).toText := by
  match ts with
  | [] => rfl
  | [t] =>
    obtain ⟨p, v, rfl⟩ := h t List.mem_cons_self
    cases v with
    | text s => rfl
    | operator op => rfl
    | number n =>
      change String.ofList (Decimal.ofInt n.toInt) =
        String.ofList (Text.trimChars (String.ofList (Decimal.ofInt n.toInt)).toList)
      rw [String.toList_ofList, Text.trimChars_ofInt_self]
  | t :: u :: ts => rfl

variable {κ σ : Type}

theorem runWith_literals {bodies : Bodies κ σ} {e : Engine κ} {context : Context κ} {host : σ}
    {source : String} {program : Program} (hprogram : e.compile source = .ok program)
    (hliteral : ∀ t ∈ program, ∃ p v, t = .literal p v) (hgoing : context.stopped = false) :
    let said := String.ofList (program.flatMap Token.spelling)
    ∃ v : Value, e.runWith bodies context host source = (.ok v, e.machine context host) ∧
      v.toText = if context.options.trimOutput then Text.trim said else said := by
  have hrun := start_evaluateSequence (callFunction bodies) (m := e.machine context host) hgoing
    hliteral
  have hsaid : (Value.fold (program.map Token.value)).toText =
      String.ofList (program.flatMap Token.spelling) := by
    rw [Value.toText_fold, ← String.toList_inj, toList_join_toText hliteral, String.toList_ofList]
  refine ⟨_, Engine.runWith_of_compile hprogram hrun, ?_⟩
  rw [← hsaid, ← toText_trimmed_fold hliteral]
  change Value.toText (if context.options.trimOutput = true then _ else _) = _
  split <;> rfl

/-- A script without calls comes to its own text and touches nothing, unless strict brackets refuse
it. They do so at the first bracket or separator that nothing escapes. -/
theorem runWith_call_free {source : String} (hs : source ≠ "") :
    ∃ tokens, tokenize source = .ok tokens ∧ ((∀ t ∈ tokens, t.isCall = false) →
      ∀ (bodies : Bodies κ σ) (e : Engine κ) (context : Context κ) (host : σ),
        context.stopped = false →
        let run := e.runWith bodies context host source
        let said := String.ofList (Lexer.unescape source.toList)
        let refused :=
          if e.options.strictBrackets then Lexer.firstMark? .start (Lexer.glyphs source.toList)
          else none
        match refused with
        | none => ∃ v : Value, run = (.ok v, e.machine context host) ∧
          v.toText = if context.options.trimOutput then Text.trim said else said
        | some (p, mark) =>
          run = (.error (.malformed p (.unexpected mark)), e.machine context host)) := by
  have htokens := tokenize_eq_tokensAt hs
  refine ⟨_, htokens, fun hcalls bodies e context host hgoing => ?_⟩
  have hcompile : e.compile source = _ :=
    (compile_of_tokenize htokens).trans (parse_call_free e.options.strictBrackets hcalls)
  rw [Lexer.findSome?_mark?_tokensAt] at hcompile
  dsimp only
  split
  · rename_i hmark
    rw [hmark] at hcompile
    have hliteral : ∀ t ∈ (Lexer.tokensAt .start source.toList).map Token.asLiteral,
        ∃ p v, t = .literal p v := by
      intro t ht
      obtain ⟨u, hu, rfl⟩ := List.mem_map.mp ht
      exact Token.exists_asLiteral (hcalls u hu)
    have hspelling : ((Lexer.tokensAt .start source.toList).map Token.asLiteral).flatMap
        Token.spelling = Lexer.unescape source.toList := by
      rw [List.flatMap_map, ← Lexer.flatMap_spelling_tokensAt .start]
      exact List.flatMap_congr fun t _ => t.spelling_asLiteral
    rw [← hspelling]
    exact runWith_literals hcompile hliteral hgoing
  · rename_i p mark hmark
    rw [hmark] at hcompile
    rw [Engine.runWith, hcompile]
    rfl

/-- An escaped bracket, a number, stray punctuation, a dollar sign, an operator, a backslash that
escapes nothing, and blanks at both ends. -/
theorem runWith_call_free_stray :
    let source := " \\[1;]$ == \\x "
    let run (strict : Bool) :=
      let e : Engine Builtin := (Engine.ofRegistry Builtin.registry).withOptions ⟨strict, true⟩
      (e.runWith Builtin.body (e.prepare "stray") () source).1
    source ≠ "" ∧ (∃ tokens, tokenize source = .ok tokens ∧ ∀ t ∈ tokens, t.isCall = false) ∧
      (∃ v, run false = .ok v ∧ v.toText = "[1;]$ == \\x") ∧
      run true = .error (.malformed ⟨1, 5⟩ (.unexpected .separator)) := by
  intro source run
  have hsource : source ≠ "" := by decide
  obtain ⟨tokens, htokens, hrun⟩ := runWith_call_free (κ := Builtin) (σ := Unit) hsource
  have hcalls : ∀ t ∈ tokens, t.isCall = false := by
    have hall : (tokenize source).map (·.all fun t => !t.isCall) = .ok true := by cbv
    rw [htokens] at hall
    simpa using Except.ok.inj hall
  let e (strict : Bool) : Engine Builtin :=
    (Engine.ofRegistry Builtin.registry).withOptions ⟨strict, true⟩
  have hboth (strict : Bool) :=
    hrun hcalls Builtin.body (e strict) ((e strict).prepare "stray") () rfl
  refine ⟨hsource, ⟨tokens, htokens, hcalls⟩, ?_, ?_⟩
  · obtain ⟨v, hv, htext⟩ := hboth false
    exact ⟨v, congrArg Prod.fst hv, htext.trans (by decide)⟩
  · have hmark : (if (e true).options.strictBrackets then
        Lexer.firstMark? .start (Lexer.glyphs source.toList) else none) =
        some (⟨1, 5⟩, .separator) := by decide
    have hstrict := hboth true
    dsimp only at hstrict
    rw [hmark] at hstrict
    exact congrArg Prod.fst hstrict

end BracketScript
