import BracketScript.Proofs.Nodes
import BracketScript.Proofs.PlainRuns

/-! The part that each character of a source plays. A backslash makes a pair with the character
behind it, and pairs are text. What stands outside them is cut into marks, heads, operators and
maximal runs, in one way only, and the texts that follow one another are one token. -/

namespace BracketScript

namespace Lexer

/-- A character by itself, or with the backslash that it makes a pair with. -/
inductive Glyph where
  | bare (c : Char)
  | paired (c : Char)

/-- From left to right, a backslash makes a pair with what comes next, unless it is in a pair. -/
def glyphs : List Char → List Glyph
  | [] => []
  | ['\\'] => [.bare '\\']
  | '\\' :: c :: s => .paired c :: glyphs s
  | c :: s => .bare c :: glyphs s

/-- No run of a kind of characters goes on in `gs`. -/
def Ends (kind : Char → Bool) (gs : List Glyph) : Prop :=
  ∀ c, gs.head? = some (.bare c) → kind c = false

/-- `c` and what comes next are no operator. -/
def EndsOperator (c : Char) (gs : List Glyph) : Prop :=
  ∀ d, gs.head? = some (.bare d) → ∀ op : Operator, op.spelling.toList ≠ [c, d]

/-- What the first glyphs say as one piece, when the others come after them. -/
inductive Role : List Glyph → List Glyph → Lexeme → Prop
  | opening (gs : List Glyph) : Role [.bare '['] gs (.punctuation .opening)
  | closing (gs : List Glyph) : Role [.bare ']'] gs (.punctuation .closing)
  | separator (gs : List Glyph) : Role [.bare ';'] gs (.punctuation .separator)
  | pair (c : Char) (gs : List Glyph) :
      Role [.paired c] gs (.text (if c ∈ escapable then [c] else ['\\', c]))
  | backslash : Role [.bare '\\'] [] (.text ['\\'])
  | head {name : List Char} {gs : List Glyph} (hne : name ≠ [])
      (hname : ∀ c ∈ name, isNameChar c = true) (hends : Ends isNameChar gs) :
      Role (.bare '$' :: name.map .bare) gs (.head (String.ofList ('$' :: name)))
  | dollar {gs : List Glyph} (hends : Ends isNameChar gs) : Role [.bare '$'] gs (.text ['$'])
  | double {op : Operator} {c d : Char} (h : op.spelling.toList = [c, d]) (gs : List Glyph) :
      Role [.bare c, .bare d] gs (.literal (.operator op))
  | single {op : Operator} {c : Char} {gs : List Glyph} (h : op.spelling.toList = [c])
      (hends : EndsOperator c gs) : Role [.bare c] gs (.literal (.operator op))
  | lone {c : Char} {gs : List Glyph} (h : c = '=' ∨ c = '!') (hends : EndsOperator c gs) :
      Role [.bare c] gs (.text [c])
  | number (n : Int64) {gs : List Glyph} (hends : Ends isPlain gs) :
      Role ((Decimal.ofInt n.toInt).map .bare) gs (.literal (.number n))
  | run {s : List Char} {gs : List Glyph} (hne : s ≠ []) (hplain : ∀ c ∈ s, isPlain c = true)
      (hends : Ends isPlain gs) (hnot : ∀ n : Int64, s ≠ Decimal.ofInt n.toInt) :
      Role (s.map .bare) gs (.text s)

/-- What glyphs say piece by piece. -/
inductive Reads : List Glyph → List Lexeme → Prop
  | nil : Reads [] []
  | cons {piece gs : List Glyph} {said : Lexeme} {saids : List Lexeme} (h : Role piece gs said)
      (hrest : Reads gs saids) : Reads (piece ++ gs) (said :: saids)

theorem glyphs_cons {c : Char} (h : c ≠ '\\') (s : List Char) :
    glyphs (c :: s) = .bare c :: glyphs s := by
  rw [glyphs]
  · rintro rfl rfl
    exact h rfl
  · rintro d t rfl
    exact fun _ => h rfl

theorem glyphs_append {u : List Char} (h : ∀ c ∈ u, c ≠ '\\') (s : List Char) :
    glyphs (u ++ s) = u.map .bare ++ glyphs s := by
  induction u with
  | nil => rfl
  | cons c u ih =>
    have ⟨hc, hu⟩ := List.forall_mem_cons.mp h
    rw [List.cons_append, glyphs_cons hc, ih hu, List.map_cons, List.cons_append]

/-- A glyph at the front says which characters stand there. -/
theorem glyphs_eq_cons {s : List Char} {g : Glyph} {gs : List Glyph} (h : glyphs s = g :: gs) :
    (∃ c t, g = .paired c ∧ s = '\\' :: c :: t ∧ glyphs t = gs) ∨
      (g = .bare '\\' ∧ s = ['\\'] ∧ gs = []) ∨
      ∃ c t, g = .bare c ∧ c ≠ '\\' ∧ s = c :: t ∧ glyphs t = gs := by
  cases s with
  | nil => cases h
  | cons c t =>
    by_cases hc : c = '\\'
    · subst hc
      cases t with
      | nil =>
        obtain ⟨rfl, rfl⟩ := List.cons.inj h
        exact .inr (.inl ⟨rfl, rfl, rfl⟩)
      | cons d t =>
        obtain ⟨rfl, rfl⟩ := List.cons.inj h
        exact .inl ⟨d, t, rfl, rfl, rfl⟩
    · rw [glyphs_cons hc] at h
      obtain ⟨rfl, rfl⟩ := List.cons.inj h
      exact .inr (.inr ⟨c, t, rfl, hc, rfl, rfl⟩)

theorem glyphs_eq_bare_cons {s : List Char} {c : Char} {gs : List Glyph} (hc : c ≠ '\\')
    (h : glyphs s = .bare c :: gs) : ∃ t, s = c :: t ∧ glyphs t = gs := by
  obtain ⟨d, t, hd, -⟩ | ⟨hd, -⟩ | ⟨d, t, hd, -, hs, ht⟩ := glyphs_eq_cons h
  · cases hd
  · exact absurd (Glyph.bare.inj hd) hc
  · obtain rfl := Glyph.bare.inj hd
    exact ⟨t, hs, ht⟩

theorem glyphs_eq_bare_append {s u : List Char} {gs : List Glyph} (hu : ∀ c ∈ u, c ≠ '\\')
    (h : glyphs s = u.map .bare ++ gs) : ∃ t, s = u ++ t ∧ glyphs t = gs := by
  induction u generalizing s with
  | nil => exact ⟨s, rfl, h⟩
  | cons c u ih =>
    have ⟨hc, hu⟩ := List.forall_mem_cons.mp hu
    obtain ⟨t, rfl, ht⟩ := glyphs_eq_bare_cons hc h
    obtain ⟨t', rfl, ht'⟩ := ih hu ht
    exact ⟨t', rfl, ht'⟩

theorem head?_glyphs {s : List Char} {c : Char} (hc : c ≠ '\\') :
    (glyphs s).head? = some (.bare c) ↔ s.head? = some c := by
  constructor
  · intro h
    obtain ⟨gs, hgs⟩ := List.head?_eq_some_iff.mp h
    obtain ⟨t, rfl, -⟩ := glyphs_eq_bare_cons hc hgs
    rfl
  · intro h
    obtain ⟨t, rfl⟩ := List.head?_eq_some_iff.mp h
    rw [glyphs_cons hc]
    rfl

theorem ne_backslash_of_kind {kind : Char → Bool} (hkind : kind '\\' = false) {c : Char}
    (h : kind c = true) : c ≠ '\\' := by
  rintro rfl
  exact Bool.false_ne_true (hkind.symm.trans h)

theorem ends_glyphs {kind : Char → Bool} (hkind : kind '\\' = false) {s : List Char} :
    Ends kind (glyphs s) ↔ s.takeWhile kind = [] := by
  have hne {c : Char} (hc : kind c = true) : c ≠ '\\' := ne_backslash_of_kind hkind hc
  cases s with
  | nil => simp [glyphs, Ends]
  | cons c s =>
    by_cases hc : kind c = true
    · have hhead : (glyphs (c :: s)).head? = some (.bare c) := (head?_glyphs (hne hc)).mpr rfl
      rw [List.takeWhile_cons_of_pos hc]
      refine ⟨fun h => ?_, nofun⟩
      exact absurd (h c hhead) (by simp [hc])
    · rw [List.takeWhile_cons_of_neg hc]
      refine ⟨fun _ => rfl, fun _ d hd => ?_⟩
      by_contra hk
      have hk' : kind d = true := by simpa using hk
      obtain rfl := Option.some.inj ((head?_glyphs (hne hk')).mp hd)
      exact hc hk'

theorem operatorOf?_spelling (op : Operator) : operatorOf? op.spelling.toList = some op := by
  cases op <;> rfl

theorem ne_backslash_of_spelling {op : Operator} {c : Char} {s : List Char}
    (h : op.spelling.toList = s) (hc : c ∈ s) : c ≠ '\\' :=
  spelling_plain c (h ▸ hc)

theorem endsOperator_glyphs (c : Char) (s : List Char) :
    EndsOperator c (glyphs s) ↔ ∀ d, s.head? = some d → operatorOf? [c, d] = none := by
  constructor
  · intro h d hd
    cases hop : operatorOf? [c, d] with
    | none => rfl
    | some op =>
      have hs := spelling_of_operatorOf? hop
      have hne : d ≠ '\\' := ne_backslash_of_spelling hs (by simp)
      exact absurd hs (h d ((head?_glyphs hne).mpr hd) op)
  · intro h d hd op hop
    have hne : d ≠ '\\' := ne_backslash_of_spelling hop (by simp)
    have hnone := h d ((head?_glyphs hne).mp hd)
    rw [← hop, operatorOf?_spelling] at hnone
    cases hnone

theorem exists_run {kind : Char → Bool} (hkind : kind '\\' = false) (s : List Char) :
    ∃ run t, s = run ++ t ∧ s.takeWhile kind = run ∧ (∀ c ∈ run, kind c = true) ∧
      Ends kind (glyphs t) := by
  refine ⟨s.takeWhile kind, s.dropWhile kind, List.takeWhile_append_dropWhile.symm, rfl,
    fun c hc => List.mem_takeWhile_imp hc, fun c hc => ?_⟩
  have hnot := List.head?_dropWhile_not kind s
  by_contra hk
  have hk' : kind c = true := by simpa using hk
  rw [(head?_glyphs (ne_backslash_of_kind hkind hk')).mp hc] at hnot
  exact hk hnot

theorem exists_role_dollar (rest : List Char) :
    ∃ piece, glyphs ('$' :: rest) = piece ++ glyphs (rest.drop (dollarLexeme rest).2) ∧
      Role piece (glyphs (rest.drop (dollarLexeme rest).2)) (dollarLexeme rest).1 := by
  have hkind : isNameChar '\\' = false := by decide
  obtain ⟨name, t, rfl, htake, hname, hends⟩ := exists_run hkind rest
  rw [dollarLexeme, htake]
  cases name with
  | nil => exact ⟨[.bare '$'], glyphs_cons (by decide) _, .dollar hends⟩
  | cons c name =>
    have hplain : ∀ d ∈ '$' :: c :: name, d ≠ '\\' :=
      List.forall_mem_cons.mpr
        ⟨by decide, fun d hd => ne_backslash_of_kind (by decide) (hname d hd)⟩
    dsimp only
    rw [List.drop_left]
    exact ⟨_, glyphs_append hplain t, .head (List.cons_ne_nil c name) hname hends⟩

theorem operatorLexeme_double {op : Operator} {c d : Char} (h : op.spelling.toList = [c, d])
    (t : List Char) : operatorLexeme c (d :: t) = (.literal (.operator op), 1) := by
  have hop := operatorOf?_spelling op
  rw [h] at hop
  rw [operatorLexeme, List.take_succ_cons, List.take_zero, hop]
  rfl

theorem operatorLexeme_of_ends {c : Char} {rest : List Char}
    (h : EndsOperator c (glyphs rest)) :
    operatorLexeme c rest = ((operatorOf? [c]).elim (.text [c]) (.literal ∘ .operator), 0) := by
  cases rest with
  | nil =>
    rw [operatorLexeme, List.take_nil]
    cases operatorOf? [c] <;> rfl
  | cons d t =>
    have hnone := (endsOperator_glyphs c (d :: t)).mp h d rfl
    rw [operatorLexeme, List.take_succ_cons, List.take_zero, hnone]
    cases operatorOf? [c] <;> rfl

theorem lone_of_operatorOf?_eq_none {c : Char} (hc : isOperatorChar c = true)
    (h : operatorOf? [c] = none) : c = '=' ∨ c = '!' := by
  simp only [isOperatorChar, Bool.or_eq_true, beq_iff_eq] at hc
  rcases hc with ((rfl | rfl) | rfl) | rfl
  · exact .inr rfl
  · exact .inl rfl
  · cases h
  · cases h

theorem exists_role_operator {c : Char} (hc : isOperatorChar c = true) (rest : List Char) :
    ∃ piece, glyphs (c :: rest) = piece ++ glyphs (rest.drop (operatorLexeme c rest).2) ∧
      Role piece (glyphs (rest.drop (operatorLexeme c rest).2)) (operatorLexeme c rest).1 := by
  have hne : c ≠ '\\' := ne_backslash_of_kind (by decide) hc
  by_cases hends : EndsOperator c (glyphs rest)
  · rw [operatorLexeme_of_ends hends]
    refine ⟨[.bare c], glyphs_cons hne rest, ?_⟩
    cases hop : operatorOf? [c] with
    | some op => exact .single (spelling_of_operatorOf? hop) hends
    | none => exact .lone (lone_of_operatorOf?_eq_none hc hop) hends
  · simp only [EndsOperator, not_forall, not_not] at hends
    obtain ⟨d, hd, op, hop⟩ := hends
    have hd' : d ≠ '\\' := ne_backslash_of_spelling hop (by simp)
    obtain ⟨t, rfl⟩ := List.head?_eq_some_iff.mp ((head?_glyphs hd').mp hd)
    rw [operatorLexeme_double hop]
    refine ⟨[.bare c, .bare d], ?_, .double hop _⟩
    rw [glyphs_cons hne, glyphs_cons hd']
    rfl

theorem exists_role_plain {c : Char} (hc : isPlain c = true) (rest : List Char) :
    ∃ piece, glyphs (c :: rest) = piece ++ glyphs (rest.drop (lexeme c rest).2) ∧
      Role piece (glyphs (rest.drop (lexeme c rest).2)) (lexeme c rest).1 := by
  have hkind : isPlain '\\' = false := by decide
  obtain ⟨run, t, rfl, htake, hrun, hends⟩ := exists_run hkind rest
  have hall : ∀ d ∈ c :: run, isPlain d = true := List.forall_mem_cons.mpr ⟨hc, hrun⟩
  have hplain : ∀ d ∈ c :: run, d ≠ '\\' := fun d hd => ne_backslash_of_kind (by decide) (hall d hd)
  rw [lexeme_plain hc, htake]
  dsimp only
  rw [List.drop_left]
  refine ⟨_, glyphs_append hplain t, ?_⟩
  rw [plainLexeme]
  cases hn : Decimal.readWord? (c :: run) with
  | some n =>
    rw [← Decimal.ofInt_of_readWord? hn]
    exact .number n hends
  | none =>
    refine .run (List.cons_ne_nil c run) hall hends fun n he => ?_
    rw [he, Decimal.readWord?_ofInt] at hn
    cases hn

theorem lexeme_pair (c : Char) (t : List Char) :
    lexeme '\\' (c :: t) = (.text (if c ∈ escapable then [c] else ['\\', c]), 1) := by
  rw [lexeme_escape, escapeLexeme]
  simp only [isEscapable_iff]

/-- The lexer takes off a piece that has its role before the rest. -/
theorem exists_role (c : Char) (rest : List Char) :
    ∃ piece, glyphs (c :: rest) = piece ++ glyphs (rest.drop (lexeme c rest).2) ∧
      Role piece (glyphs (rest.drop (lexeme c rest).2)) (lexeme c rest).1 := by
  rcases char_cases c with rfl | rfl | rfl | rfl | rfl | hc | hc
  · exact ⟨[.bare '['], glyphs_cons (by decide) rest, .opening _⟩
  · exact ⟨[.bare ']'], glyphs_cons (by decide) rest, .closing _⟩
  · exact ⟨[.bare ';'], glyphs_cons (by decide) rest, .separator _⟩
  · cases rest with
    | nil => exact ⟨[.bare '\\'], rfl, .backslash⟩
    | cons d t =>
      rw [lexeme_pair]
      exact ⟨[.paired d], rfl, .pair d _⟩
  · exact exists_role_dollar rest
  · rw [lexeme_operator hc]
    exact exists_role_operator hc rest
  · exact exists_role_plain hc rest

theorem lexeme_head {name t : List Char} (hne : name ≠ [])
    (hname : ∀ c ∈ name, isNameChar c = true) (hends : Ends isNameChar (glyphs t)) :
    lexeme '$' (name ++ t) = (.head (String.ofList ('$' :: name)), name.length) := by
  have htake : (name ++ t).takeWhile isNameChar = name := by
    rw [List.takeWhile_append_of_pos hname, (ends_glyphs (by decide)).mp hends, List.append_nil]
  obtain ⟨c, name, rfl⟩ := List.exists_cons_of_ne_nil hne
  rw [lexeme_dollar, dollarLexeme, htake]

theorem lexeme_run {c : Char} {run t : List Char} (h : ∀ d ∈ c :: run, isPlain d = true)
    (hends : Ends isPlain (glyphs t)) :
    lexeme c (run ++ t) = (plainLexeme (c :: run), run.length) := by
  have ⟨hc, hrun⟩ := List.forall_mem_cons.mp h
  have htake : (run ++ t).takeWhile isPlain = run := by
    rw [List.takeWhile_append_of_pos hrun, (ends_glyphs (by decide)).mp hends, List.append_nil]
  rw [lexeme_plain hc, htake]

theorem glyphs_eq_of_plain {c : Char} {rest : List Char} {run : List Char} {gs : List Glyph}
    (hne : run ≠ []) (hrun : ∀ d ∈ run, isPlain d = true) (hends : Ends isPlain gs)
    (hg : glyphs (c :: rest) = run.map .bare ++ gs) :
    (lexeme c rest).1 = plainLexeme run ∧ glyphs (rest.drop (lexeme c rest).2) = gs := by
  have hplain : ∀ d ∈ run, d ≠ '\\' := fun d hd => ne_backslash_of_kind (by decide) (hrun d hd)
  obtain ⟨t, ht, rfl⟩ := glyphs_eq_bare_append hplain hg
  obtain ⟨d, run, rfl⟩ := List.exists_cons_of_ne_nil hne
  rw [List.cons_append] at ht
  obtain ⟨rfl, rfl⟩ := List.cons.inj ht
  rw [lexeme_run hrun hends, List.drop_left]
  exact ⟨rfl, rfl⟩

theorem glyphs_eq_of_operator {c : Char} {rest : List Char} {gs : List Glyph}
    (hc : isOperatorChar c = true) (hends : EndsOperator c gs) (hg : glyphs rest = gs) :
    (lexeme c rest).1 = (operatorOf? [c]).elim (.text [c]) (.literal ∘ .operator) ∧
      glyphs (rest.drop (lexeme c rest).2) = gs := by
  subst hg
  rw [lexeme_operator hc, operatorLexeme_of_ends hends]
  exact ⟨rfl, rfl⟩

theorem isOperatorChar_of_spelling {op : Operator} {c : Char} (h : c ∈ op.spelling.toList) :
    isOperatorChar c = true := by
  cases op <;> simp [Operator.spelling] at h <;> rcases h with rfl | rfl <;> rfl

/-- Nothing else has a role at the front of a source. -/
theorem Role.lexeme_eq {c : Char} {rest : List Char} {piece gs : List Glyph} {said : Lexeme}
    (h : Role piece gs said) (hg : glyphs (c :: rest) = piece ++ gs) :
    (lexeme c rest).1 = said ∧ glyphs (rest.drop (lexeme c rest).2) = gs := by
  have hone {d : Char} (hd : d ≠ '\\') (hg : glyphs (c :: rest) = [.bare d] ++ gs) :
      c = d ∧ glyphs rest = gs := by
    obtain ⟨t, ht, hgs⟩ := glyphs_eq_bare_cons hd hg
    obtain ⟨rfl, rfl⟩ := List.cons.inj ht
    exact ⟨rfl, hgs⟩
  cases h with
  | opening =>
    obtain ⟨rfl, rfl⟩ := hone (by decide) hg
    exact ⟨rfl, rfl⟩
  | closing =>
    obtain ⟨rfl, rfl⟩ := hone (by decide) hg
    exact ⟨rfl, rfl⟩
  | separator =>
    obtain ⟨rfl, rfl⟩ := hone (by decide) hg
    exact ⟨rfl, rfl⟩
  | pair d =>
    obtain ⟨d', t, hd, ht, rfl⟩ | ⟨hd, -⟩ | ⟨d', t, hd, -⟩ := glyphs_eq_cons hg
    · obtain rfl := Glyph.paired.inj hd
      obtain ⟨rfl, rfl⟩ := List.cons.inj ht
      rw [lexeme_pair]
      exact ⟨rfl, rfl⟩
    · cases hd
    · cases hd
  | backslash =>
    obtain ⟨d', t, hd, -⟩ | ⟨-, ht, -⟩ | ⟨d', t, hd, hne, -⟩ := glyphs_eq_cons hg
    · cases hd
    · obtain ⟨rfl, rfl⟩ := List.cons.inj ht
      exact ⟨rfl, rfl⟩
    · exact absurd (Glyph.bare.inj hd).symm hne
  | @head name _ hne hname hends =>
    have hplain : ∀ d ∈ '$' :: name, d ≠ '\\' :=
      List.forall_mem_cons.mpr
        ⟨by decide, fun d hd => ne_backslash_of_kind (by decide) (hname d hd)⟩
    obtain ⟨t, ht, rfl⟩ := glyphs_eq_bare_append hplain hg
    rw [List.cons_append] at ht
    obtain ⟨rfl, rfl⟩ := List.cons.inj ht
    rw [lexeme_head hne hname hends, List.drop_left]
    exact ⟨rfl, rfl⟩
  | dollar hends =>
    obtain ⟨rfl, rfl⟩ := hone (by decide) hg
    rw [lexeme_dollar, dollarLexeme, (ends_glyphs (by decide)).mp hends]
    exact ⟨rfl, rfl⟩
  | @double op d e hop =>
    have hplain : ∀ x ∈ [d, e], x ≠ '\\' := fun x hx => ne_backslash_of_spelling hop hx
    obtain ⟨t, ht, rfl⟩ := glyphs_eq_bare_append (u := [d, e]) hplain hg
    obtain ⟨rfl, rfl⟩ := List.cons.inj (ht.trans (List.cons_append ..))
    have hc : isOperatorChar c = true := isOperatorChar_of_spelling (hop ▸ List.mem_cons_self)
    rw [List.singleton_append, lexeme_operator hc, operatorLexeme_double hop]
    exact ⟨rfl, rfl⟩
  | @single op d _ hop hends =>
    have hd : d ≠ '\\' := ne_backslash_of_spelling hop List.mem_cons_self
    obtain ⟨rfl, hgs⟩ := hone hd hg
    have hsome := operatorOf?_spelling op
    rw [hop] at hsome
    have hc : isOperatorChar c = true := isOperatorChar_of_spelling (hop ▸ List.mem_cons_self)
    have hsaid := glyphs_eq_of_operator hc hends hgs
    rwa [hsome] at hsaid
  | @lone d _ hd hends =>
    rcases hd with rfl | rfl
    · obtain ⟨rfl, hgs⟩ := hone (by decide) hg
      exact glyphs_eq_of_operator (by decide) hends hgs
    · obtain ⟨rfl, hgs⟩ := hone (by decide) hg
      exact glyphs_eq_of_operator (by decide) hends hgs
  | number n hends =>
    have hsaid := glyphs_eq_of_plain (Decimal.ofInt_ne_nil n.toInt)
      (fun d hd => isPlain_of_mem_ofInt hd) hends hg
    rwa [plainLexeme, Decimal.readWord?_ofInt] at hsaid
  | @run s _ hne hplain hends hnot =>
    have hsaid := glyphs_eq_of_plain hne hplain hends hg
    have hnone : Decimal.readWord? s = none := by
      cases hn : Decimal.readWord? s with
      | none => rfl
      | some n => exact absurd (Decimal.ofInt_of_readWord? hn).symm (hnot n)
    rwa [plainLexeme, hnone] at hsaid

/-- The tokens that pieces are before texts are joined, wherever they stand. -/
def Says (said : Lexeme) (t : Token) : Prop :=
  ∃ p, t = said.toToken p

theorem Role.ne_nil {piece gs : List Glyph} {said : Lexeme} (h : Role piece gs said) :
    piece ≠ [] := by
  cases h with
  | number n => simpa using Decimal.ofInt_ne_nil n.toInt
  | run hne => simpa using hne
  | _ => exact List.cons_ne_nil _ _

theorem reads_scan (p : Span) (s : List Char) :
    ∃ saids, Reads (glyphs s) saids ∧ List.Forall₂ Says saids (scan p s) := by
  cases s with
  | nil =>
    rw [scan]
    exact ⟨[], .nil, .nil⟩
  | cons c rest =>
    have hlt : (rest.drop (lexeme c rest).2).length < (c :: rest).length := by
      simp only [List.length_drop, List.length_cons]
      omega
    obtain ⟨piece, hg, hrole⟩ := exists_role c rest
    obtain ⟨saids, hreads, hsays⟩ := reads_scan (p.after (c :: rest.take (lexeme c rest).2))
      (rest.drop (lexeme c rest).2)
    rw [scan_cons, hg]
    exact ⟨_, .cons hrole hreads, .cons ⟨p, rfl⟩ hsays⟩
termination_by s.length

theorem Reads.unique {s : List Char} {saids saids' : List Lexeme} (h : Reads (glyphs s) saids)
    (h' : Reads (glyphs s) saids') : saids = saids' := by
  generalize hg : glyphs s = gs at h
  induction h generalizing s saids' with
  | nil =>
    rw [hg] at h'
    generalize hnil : ([] : List Glyph) = gs' at h'
    cases h' with
    | nil => rfl
    | cons hrole => exact absurd (List.append_eq_nil_iff.mp hnil.symm).1 hrole.ne_nil
  | @cons piece gs said saids hrole hrest ih =>
    generalize hg' : glyphs s = gs' at h'
    cases s with
    | nil => exact absurd (List.append_eq_nil_iff.mp hg.symm).1 hrole.ne_nil
    | cons c rest =>
      obtain ⟨hsaid, hgs⟩ := hrole.lexeme_eq hg
      cases h' with
      | nil => exact absurd (List.append_eq_nil_iff.mp (hg.symm.trans hg')).1 hrole.ne_nil
      | cons hrole' hrest' =>
        obtain ⟨hsaid', hgs'⟩ := hrole'.lexeme_eq hg'
        rw [← hsaid, ← hsaid', ih (hgs'.symm ▸ hrest') hgs]

theorem Role.ne_empty {piece gs : List Glyph} {said : Lexeme} (h : Role piece gs said) :
    said ≠ .text [] := by
  have htext {s : List Char} (hs : s ≠ []) : Lexeme.text s ≠ .text [] := by
    intro he
    exact hs (String.ofList_injective (Literal.text.inj (Lexeme.literal.inj he)))
  cases h with
  | pair c =>
    apply htext
    split <;> exact List.cons_ne_nil _ _
  | backslash => exact htext (List.cons_ne_nil _ _)
  | dollar => exact htext (List.cons_ne_nil _ _)
  | lone => exact htext (List.cons_ne_nil _ _)
  | run hne => exact htext hne
  | _ => exact nofun

theorem Reads.ne_empty {gs : List Glyph} {saids : List Lexeme} (h : Reads gs saids) :
    ∀ said ∈ saids, said ≠ .text [] := by
  induction h with
  | nil => simp
  | cons hrole _ ih => exact List.forall_mem_cons.mpr ⟨hrole.ne_empty, ih⟩

/-- A token is one piece that is no text, or all of some texts. -/
inductive Gathers : List Lexeme → Token → Prop
  | single {p : Span} {said : Lexeme} (h : (said.toToken p).isText = false) :
      Gathers [said] (said.toToken p)
  | texts (p : Span) {ss : List (List Char)} (hne : ss ≠ []) :
      Gathers (ss.map .text) (.text p (String.ofList ss.flatten))

theorem Gathers.exists_texts {group : List Lexeme} {p : Span} {s : String}
    (h : Gathers group (.literal p (.text s))) :
    ∃ ss, ss ≠ [] ∧ group = ss.map .text ∧ s = String.ofList ss.flatten := by
  generalize ht : Token.literal p (.text s) = t at h
  cases h with
  | single hnot =>
    rw [← ht] at hnot
    cases hnot
  | texts q hne =>
    obtain ⟨rfl, hs⟩ := Token.literal.inj ht
    exact ⟨_, hne, rfl, Literal.text.inj hs⟩

theorem says_text {said : Lexeme} {p : Span} {s : String}
    (h : Says said (.literal p (.text s))) : said = .text s.toList := by
  obtain ⟨q, hq⟩ := h
  cases said with
  | literal v =>
    obtain ⟨-, rfl⟩ := Token.literal.inj hq
    rw [Lexeme.text, String.ofList_toList]
  | head name => cases hq
  | punctuation mark => cases hq

theorem Says.single {said : Lexeme} {t : Token} (h : Says said t) (ht : t.isText = false) :
    Gathers [said] t := by
  obtain ⟨p, rfl⟩ := h
  exact .single ht

theorem Says.text {said : Lexeme} {p : Span} {s : String}
    (h : Says said (.literal p (.text s))) : Gathers [said] (.literal p (.text s)) := by
  rw [says_text h]
  have hg := Gathers.texts p (List.cons_ne_nil s.toList [])
  rwa [List.flatten_singleton, String.ofList_toList] at hg

theorem mergeTexts_gathers {saids : List Lexeme} {ts : List Token}
    (h : List.Forall₂ Says saids ts) :
    ∃ groups, groups.flatten = saids ∧ List.Forall₂ Gathers groups (mergeTexts ts) := by
  fun_induction mergeTexts ts generalizing saids with
  | case1 =>
    cases h
    exact ⟨[], rfl, .nil⟩
  | case2 p s ts q s' ts' hm ih =>
    obtain ⟨said, saids, ht, hts, rfl⟩ := List.forall₂_cons_right_iff.mp h
    obtain ⟨groups, rfl, hgroups⟩ := ih hts
    rw [hm] at hgroups
    obtain ⟨group, others, hgroup, hothers, rfl⟩ := List.forall₂_cons_right_iff.mp hgroups
    obtain ⟨ss, -, rfl, rfl⟩ := hgroup.exists_texts
    refine ⟨(s.toList :: ss).map .text :: others, ?_, .cons ?_ hothers⟩
    · rw [says_text ht]
      rfl
    · have hg := Gathers.texts p (List.cons_ne_nil s.toList ss)
      rwa [List.flatten_cons, String.ofList_append, String.ofList_toList] at hg
  | case3 p s ts hm ih =>
    obtain ⟨said, saids, ht, hts, rfl⟩ := List.forall₂_cons_right_iff.mp h
    obtain ⟨groups, rfl, hgroups⟩ := ih hts
    exact ⟨[said] :: groups, rfl, .cons ht.text hgroups⟩
  | case4 t ts hm ih =>
    obtain ⟨said, saids, ht, hts, rfl⟩ := List.forall₂_cons_right_iff.mp h
    obtain ⟨groups, rfl, hgroups⟩ := ih hts
    have hnot : t.isText = false := by
      by_contra hb
      obtain ⟨p, s, rfl⟩ := Token.exists_of_isText (by simpa using hb)
      exact hm p s rfl
    exact ⟨[said] :: groups, rfl, .cons (ht.single hnot) hgroups⟩

theorem isText_eq_false {t : Token} (h : ∀ p s, t ≠ .literal p (.text s)) : t.isText = false := by
  by_contra ht
  obtain ⟨p, s, rfl⟩ := Token.exists_of_isText (by simpa using ht)
  exact h p s rfl

theorem isChain_mergeTexts (ts : List Token) :
    (mergeTexts ts).IsChain fun t u => (t.isText && u.isText) = false := by
  fun_induction mergeTexts ts with
  | case1 => exact .nil
  | case2 p s ts q s' ts' hm ih =>
    rw [hm] at ih
    exact List.isChain_cons.mpr (List.isChain_cons.mp ih)
  | case3 p s ts hm ih =>
    refine List.isChain_cons.mpr ⟨fun u hu => ?_, ih⟩
    obtain ⟨us, hus⟩ := List.head?_eq_some_iff.mp hu
    refine isText_eq_false fun q s' he => ?_
    exact hm q s' us (he ▸ hus)
  | case4 t ts hm ih =>
    refine List.isChain_cons.mpr ⟨fun u _ => ?_, ih⟩
    rw [isText_eq_false hm, Bool.false_and]

theorem Gathers.ne_empty {groups : List (List Lexeme)} {tokens : List Token}
    (h : List.Forall₂ Gathers groups tokens) (hne : ∀ said ∈ groups.flatten, said ≠ .text [])
    (p : Span) : Token.text p "" ∉ tokens := by
  intro hp
  obtain ⟨i, hi, ht⟩ := List.mem_iff_getElem.mp hp
  have hi' : i < groups.length := h.length_eq ▸ hi
  have hgathers : Gathers groups[i] tokens[i] := h.get hi' hi
  rw [ht] at hgathers
  obtain ⟨ss, hss, hgroup, hempty⟩ := hgathers.exists_texts
  obtain ⟨s, ss, rfl⟩ := List.exists_cons_of_ne_nil hss
  have hflatten : (s :: ss).flatten = [] := String.ofList_eq_empty_iff.mp hempty.symm
  have hs : s = [] := (List.append_eq_nil_iff.mp hflatten).1
  refine hne (.text s) (List.mem_flatten.mpr ⟨groups[i], List.getElem_mem hi', ?_⟩) (hs ▸ rfl)
  rw [hgroup]
  exact List.mem_cons_self

end Lexer

open Lexer in
/-- A source can be read in one way, in which every character has its role. Its tokens are the
pieces of that reading, with all texts in a row as one. -/
theorem tokenize_roles {source : String} (h : source ≠ "") :
    ∃ saids, (∀ other, Reads (glyphs source.toList) other ↔ other = saids) ∧
      ∃ tokens groups, tokenize source = .ok tokens ∧ groups.flatten = saids ∧
        List.Forall₂ Gathers groups tokens ∧
        tokens.IsChain (fun t u => (t.isText && u.isText) = false) ∧
        (∀ p, Token.text p "" ∉ tokens) ∧ ∀ t ∈ tokens, t.IsBare := by
  obtain ⟨saids, hreads, hsays⟩ := reads_scan .start source.toList
  obtain ⟨groups, rfl, hgroups⟩ := mergeTexts_gathers hsays
  have htokens := tokenize_eq_tokensAt h
  exact ⟨groups.flatten, fun other => ⟨fun hother => hother.unique hreads, fun he => he ▸ hreads⟩,
    _, groups, htokens, rfl, hgroups, isChain_mergeTexts _,
    Gathers.ne_empty hgroups hreads.ne_empty, tokenize_bare htokens⟩

open Lexer in
/-- Two dollar signs, a number behind a name, an escaped sign before an operator, and a number
behind a backslash that escapes nothing. -/
theorem tokenize_roles_mixed :
    let source := "$$a1\\>==;\\n5"
    let tokens : List Token :=
      [.text ⟨1, 1⟩ "$", .call ⟨1, 2⟩ "$a" [], .literal ⟨1, 4⟩ (.number 1), .text ⟨1, 5⟩ ">",
        .literal ⟨1, 7⟩ (.operator .equal), .punctuation ⟨1, 9⟩ .separator, .text ⟨1, 10⟩ "\\n",
        .literal ⟨1, 12⟩ (.number 5)]
    source ≠ "" ∧ tokenize source = .ok tokens ∧
      ∃ groups, (∀ other, Reads (glyphs source.toList) other ↔ other = groups.flatten) ∧
        List.Forall₂ Gathers groups tokens := by
  intro source tokens
  have hne : source ≠ "" := by decide
  have htokens : tokenize source = .ok tokens := by cbv
  obtain ⟨saids, hreads, tokens', groups, htokens', hflatten, hgroups, -⟩ := tokenize_roles hne
  obtain rfl := Except.ok.inj (htokens.symm.trans htokens')
  exact ⟨hne, htokens, groups, hflatten ▸ hreads, hgroups⟩

end BracketScript
