import BracketScript.Proofs.Escapes

/-! The tokens of a source cut it into stretches that follow one another. Each token says what its
stretch says without the escaping backslashes, and stands where its stretch begins. -/

namespace BracketScript

def Literal.spelling : Literal → List Char
  | text s => s.toList
  | number n => Decimal.ofInt n.toInt
  | operator op => op.spelling.toList

/-- What a token of a stream looks like in a source. -/
def Token.spelling : Token → List Char
  | .literal _ v => v.spelling
  | .call _ name _ => name.toList
  | .punctuation _ mark => mark.spelling.toList

namespace Span

/-- The place after some text: a line for each line feed, and the characters since the last one. -/
def following (s : List Char) : Span :=
  ⟨s.count '\n' + 1, (s.reverse.takeWhile (· ≠ '\n')).length + 1⟩

def Before (p q : Span) : Prop :=
  p.line < q.line ∨ p.line = q.line ∧ p.column < q.column

theorem Before.trans {p q r : Span} (h : p.Before q) (h' : q.Before r) : p.Before r := by
  simp only [Before] at *
  omega

theorem before_next (p : Span) (c : Char) : p.Before (p.next c) := by
  rw [next]
  split
  · exact .inl (Nat.lt_succ_self _)
  · exact .inr ⟨rfl, Nat.lt_succ_self _⟩

theorem after_append (p : Span) (s t : List Char) : p.after (s ++ t) = (p.after s).after t :=
  List.foldl_append

theorem before_after (p : Span) {s : List Char} (h : s ≠ []) : p.Before (p.after s) := by
  induction s generalizing p with
  | nil => exact absurd rfl h
  | cons c s ih =>
    by_cases hs : s = []
    · subst hs
      exact before_next p c
    · exact (before_next p c).trans (ih (p.next c) hs)

theorem start_after (s : List Char) : start.after s = following s := by
  induction s using List.reverseRecOn with
  | nil => rfl
  | append_singleton s c ih =>
    rw [after_append, ih]
    by_cases hc : c = '\n'
    · simp [after, following, next, hc]
    · simp [after, following, next, hc]

end Span

namespace Lexer

def Lexeme.spelling : Lexeme → List Char
  | literal v => v.spelling
  | head name => name.toList
  | punctuation mark => mark.spelling.toList

theorem spelling_toToken (p : Span) (said : Lexeme) : (said.toToken p).spelling = said.spelling := by
  cases said <;> rfl

theorem span_toToken (p : Span) (said : Lexeme) : (said.toToken p).span = p := by
  cases said <;> rfl

/-- A lexeme says what its characters say, and only at the end of a source can they end in a
backslash that escapes nothing. -/
def Spells (c : Char) (rest : List Char) (said : Lexeme) (taken : Nat) : Prop :=
  said.spelling = unescape (c :: rest.take taken) ∧
    (rest.drop taken ≠ [] → Closed (c :: rest.take taken))

theorem spells_of_plain {c : Char} {rest : List Char} {said : Lexeme} {taken : Nat}
    (h : ∀ d ∈ c :: rest.take taken, d ≠ '\\') (hs : said.spelling = c :: rest.take taken) :
    Spells c rest said taken :=
  ⟨by rw [hs, unescape_of_plain h], fun _ => closed_of_plain h⟩

theorem spelling_text (s : List Char) : (Lexeme.text s).spelling = s :=
  String.toList_ofList

theorem spelling_of_operatorOf? {s : List Char} {op : Operator} (h : operatorOf? s = some op) :
    op.spelling.toList = s := by
  have hs := List.find?_some h
  rw [beq_iff_eq.mp hs, String.toList_ofList]

theorem escapeLexeme_spells (rest : List Char) :
    Spells '\\' rest (escapeLexeme rest).1 (escapeLexeme rest).2 := by
  cases rest with
  | nil => exact ⟨rfl, fun h => absurd rfl h⟩
  | cons d rest =>
    refine ⟨?_, fun _ => closed_escaped d⟩
    simp only [escapeLexeme, spelling_text, List.take_succ_cons, List.take_zero, unescape_pair,
      isEscapable_iff]

theorem take_length_takeWhile (P : Char → Bool) (s : List Char) :
    s.take (s.takeWhile P).length = s.takeWhile P :=
  (List.prefix_iff_eq_take.mp (List.takeWhile_prefix P)).symm

theorem ne_backslash_of_mem_takeWhile {P : Char → Bool} (hP : P '\\' = false) {s : List Char} :
    ∀ d ∈ s.takeWhile P, d ≠ '\\' := by
  rintro d hd rfl
  exact Bool.false_ne_true (hP.symm.trans (List.mem_takeWhile_imp hd))

theorem dollarLexeme_spells (rest : List Char) :
    Spells '$' rest (dollarLexeme rest).1 (dollarLexeme rest).2 := by
  have hname : ∀ d ∈ rest.takeWhile isNameChar, d ≠ '\\' :=
    ne_backslash_of_mem_takeWhile (by decide)
  have ht := take_length_takeWhile isNameChar rest
  rw [dollarLexeme]
  split
  · exact spells_of_plain (by simp) (spelling_text ['$'])
  · refine spells_of_plain ?_ ?_
    · dsimp only
      rw [ht]
      exact List.forall_mem_cons.mpr ⟨by decide, hname⟩
    · dsimp only
      rw [ht]
      exact String.toList_ofList

theorem spelling_plain {op : Operator} : ∀ d ∈ op.spelling.toList, d ≠ '\\' := by
  cases op <;> simp [Operator.spelling]

theorem operatorLexeme_spells {c : Char} (hc : isOperatorChar c = true) (rest : List Char) :
    Spells c rest (operatorLexeme c rest).1 (operatorLexeme c rest).2 := by
  have hone : ∀ d ∈ [c], d ≠ '\\' := by
    rintro d hd rfl
    obtain rfl := List.mem_singleton.mp hd
    exact absurd hc (by decide)
  rw [operatorLexeme]
  split
  · rename_i op hop
    have hs := spelling_of_operatorOf? hop
    have ht : rest.take (rest.take 1).length = rest.take 1 := by
      simp [List.take_eq_take_iff]
    refine spells_of_plain ?_ ?_
    · dsimp only
      rw [ht, ← hs]
      exact spelling_plain
    · dsimp only
      rw [ht]
      exact hs
  · split
    · rename_i op hop
      exact spells_of_plain hone (spelling_of_operatorOf? hop)
    · exact spells_of_plain hone (spelling_text [c])

theorem plainLexeme_spells {c : Char} (hc : isPlain c = true) (rest : List Char) :
    Spells c rest (plainLexeme (c :: rest.takeWhile isPlain)) (rest.takeWhile isPlain).length := by
  have ht := take_length_takeWhile isPlain rest
  have hrun : ∀ d ∈ c :: rest.takeWhile isPlain, d ≠ '\\' := by
    refine List.forall_mem_cons.mpr ⟨?_, ne_backslash_of_mem_takeWhile (by decide)⟩
    rintro rfl
    exact absurd hc (by decide)
  refine spells_of_plain (by rwa [ht]) ?_
  rw [ht, plainLexeme]
  split
  · rename_i n hn
    exact Decimal.ofInt_of_readWord? hn
  · exact spelling_text _

theorem lexeme_spells (c : Char) (rest : List Char) :
    Spells c rest (lexeme c rest).1 (lexeme c rest).2 := by
  rw [lexeme]
  split
  · rename_i hc
    exact spells_of_plain (by simp [hc]) (by simp [hc]; rfl)
  split
  · rename_i hc
    exact spells_of_plain (by simp [hc]) (by simp [hc]; rfl)
  split
  · rename_i hc
    exact spells_of_plain (by simp [hc]) (by simp [hc]; rfl)
  split
  · rename_i hc
    rw [hc]
    exact escapeLexeme_spells rest
  split
  · rename_i hc
    rw [hc]
    exact dollarLexeme_spells rest
  split
  · rename_i hc
    exact operatorLexeme_spells hc rest
  · rename_i h1 h2 h3 h4 h5 h6
    exact plainLexeme_spells (by simp [isPlain, isEscapable, isMark, h1, h2, h3, h4, h5, h6]) rest

/-- Each token, the first at `p`, says what its stretch says, and no stretch but the last can be
changed by what follows. -/
def Segmented (p : Span) : List (List Char) → List Token → Prop
  | [], [] => True
  | s :: ss, t :: ts =>
    s ≠ [] ∧ t.spelling = unescape s ∧ t.span = p ∧ (ss ≠ [] → Closed s) ∧
      Segmented (p.after s) ss ts
  | _, _ => False

theorem Segmented.flatten_ne_nil {p : Span} {ss : List (List Char)} {ts : List Token}
    (h : Segmented p ss ts) (hne : ss ≠ []) : ss.flatten ≠ [] := by
  cases ss with
  | nil => exact absurd rfl hne
  | cons s ss =>
    cases ts with
    | nil => exact absurd h id
    | cons t ts => simp [h.1]

theorem scan_cons (p : Span) (c : Char) (rest : List Char) :
    scan p (c :: rest) = (lexeme c rest).1.toToken p ::
      scan (p.after (c :: rest.take (lexeme c rest).2)) (rest.drop (lexeme c rest).2) := by
  rw [scan]

theorem scan_segmented (p : Span) (s : List Char) :
    ∃ ss : List (List Char), ss.flatten = s ∧ Segmented p ss (scan p s) := by
  cases s with
  | nil =>
    rw [scan]
    exact ⟨[], rfl, trivial⟩
  | cons c rest =>
    have hlt : (rest.drop (lexeme c rest).2).length < (c :: rest).length := by
      simp only [List.length_drop, List.length_cons]
      omega
    obtain ⟨ss, hflat, hss⟩ := scan_segmented
      (p.after (c :: rest.take (lexeme c rest).2)) (rest.drop (lexeme c rest).2)
    obtain ⟨hspells, hclosed⟩ := lexeme_spells c rest
    rw [scan_cons]
    refine ⟨(c :: rest.take (lexeme c rest).2) :: ss, ?_, by simp, ?_, span_toToken p _, ?_, hss⟩
    · rw [List.flatten_cons, hflat, List.cons_append, List.take_append_drop]
    · rw [spelling_toToken, hspells]
    · intro hne
      exact hclosed (hflat ▸ hss.flatten_ne_nil hne)
termination_by s.length

/-- A text and the text after it become one token on both stretches. -/
theorem Segmented.merge {p q : Span} {s s' : List Char} {ss : List (List Char)} {a b : String}
    {ts : List Token} (hs : a.toList = unescape s) (hne : s ≠ []) (hc : Closed s)
    (h : Segmented (p.after s) (s' :: ss) (.literal q (.text b) :: ts)) :
    Segmented p ((s ++ s') :: ss) (Token.text p (a ++ b) :: ts) := by
  obtain ⟨-, hs', -, hc', ht⟩ := h
  refine ⟨by simp [hne], ?_, rfl, fun hss => hc.append (hc' hss), ?_⟩
  · rw [hc s', ← hs, ← hs']
    exact String.toList_append
  · rw [Span.after_append]
    exact ht

theorem mergeTexts_segmented {p : Span} {ss : List (List Char)} {ts : List Token}
    (h : Segmented p ss ts) :
    ∃ ss' : List (List Char), ss'.flatten = ss.flatten ∧ Segmented p ss' (mergeTexts ts) := by
  induction ts generalizing p ss with
  | nil => exact ⟨ss, rfl, h⟩
  | cons t ts ih =>
    cases ss with
    | nil => exact absurd h id
    | cons s ss =>
      obtain ⟨hne, hs, hp, hc, ht⟩ := h
      obtain ⟨ss', hflat, hss'⟩ := ih ht
      have hc' : ss' ≠ [] → Closed s := by
        intro hne'
        apply hc
        rintro rfl
        exact hss'.flatten_ne_nil hne' hflat
      have hkeep : ∃ ss₁ : List (List Char), ss₁.flatten = (s :: ss).flatten ∧
          Segmented p ss₁ (t :: mergeTexts ts) :=
        ⟨s :: ss', by rw [List.flatten_cons, hflat, List.flatten_cons], hne, hs, hp, hc', hss'⟩
      cases t with
      | call q name args => exact hkeep
      | punctuation q mark => exact hkeep
      | literal q v =>
        cases v with
        | number n => exact hkeep
        | operator op => exact hkeep
        | text a =>
          obtain rfl : q = p := hp
          rw [mergeTexts]
          split
          · rename_i q' b ts' hm
            rw [hm] at hss'
            cases ss' with
            | nil => exact absurd hss' id
            | cons s' ss' =>
              refine ⟨(s ++ s') :: ss', ?_, .merge hs hne (hc' (by simp)) hss'⟩
              rw [List.flatten_cons, List.append_assoc, ← List.flatten_cons, hflat,
                List.flatten_cons]
          · exact hkeep

theorem Segmented.before {p : Span} {ss : List (List Char)} {ts : List Token}
    (h : Segmented p ss ts) : ∀ t ∈ ts, t.span = p ∨ p.Before t.span := by
  induction ts generalizing p ss with
  | nil => simp
  | cons t ts ih =>
    cases ss with
    | nil => exact absurd h id
    | cons s ss =>
      obtain ⟨hne, -, hp, -, ht⟩ := h
      intro u hu
      rcases List.mem_cons.mp hu with rfl | hu
      · exact .inl hp
      · have hb := p.before_after hne
        rcases ih ht u hu with hq | hq
        · exact .inr (hq ▸ hb)
        · exact .inr (hb.trans hq)

theorem Segmented.pairwise {p : Span} {ss : List (List Char)} {ts : List Token}
    (h : Segmented p ss ts) : ts.Pairwise fun t u => t.span.Before u.span := by
  induction ts generalizing p ss with
  | nil => exact .nil
  | cons t ts ih =>
    cases ss with
    | nil => exact absurd h id
    | cons s ss =>
      obtain ⟨hne, -, hp, -, ht⟩ := h
      refine .cons (fun u hu => ?_) (ih ht)
      have hb := p.before_after hne
      rw [hp]
      rcases ht.before u hu with hq | hq
      · exact hq ▸ hb
      · exact hb.trans hq

theorem Segmented.length_eq {p : Span} {ss : List (List Char)} {ts : List Token}
    (h : Segmented p ss ts) : ss.length = ts.length := by
  induction ts generalizing p ss with
  | nil =>
    cases ss with
    | nil => rfl
    | cons s ss => exact absurd h id
  | cons t ts ih =>
    cases ss with
    | nil => exact absurd h id
    | cons s ss => simp [ih h.2.2.2.2]

theorem Segmented.head?_span {p : Span} {ss : List (List Char)} {ts : List Token}
    (h : Segmented p ss ts) (hne : ss ≠ []) : ts.head?.map Token.span = some p := by
  cases ss with
  | nil => exact absurd rfl hne
  | cons s ss =>
    cases ts with
    | nil => exact absurd h id
    | cons t ts => exact congrArg some h.2.2.1

theorem Segmented.getElem {p : Span} {ss : List (List Char)} {ts : List Token}
    (h : Segmented p ss ts) (i : Nat) (hi : i < ts.length) (hi' : i < ss.length) :
    ss[i] ≠ [] ∧ ts[i].spelling = unescape ss[i] ∧ ts[i].span = p.after (ss.take i).flatten := by
  induction ts generalizing p ss i with
  | nil => exact absurd hi (Nat.not_lt_zero i)
  | cons t ts ih =>
    cases ss with
    | nil => exact absurd h id
    | cons s ss =>
      obtain ⟨hne, hs, hp, -, ht⟩ := h
      cases i with
      | zero => exact ⟨hne, hs, hp⟩
      | succ i =>
        have hh := ih ht i (by simpa using hi) (by simpa using hi')
        simpa [Span.after_append] using hh

end Lexer

/-- The tokens of a source spell stretches of it that follow one another. -/
structure Partitions (source : List Char) (tokens : List Token) (stretches : List (List Char)) :
    Prop where
  length_eq : stretches.length = tokens.length
  flatten_eq : stretches.flatten = source
  nonempty : ∀ s ∈ stretches, s ≠ []
  spelling_eq : ∀ (i : Nat) (hi : i < tokens.length) (hi' : i < stretches.length),
    tokens[i].spelling = Lexer.unescape stretches[i]
  span_eq : ∀ (i : Nat) (hi : i < tokens.length),
    tokens[i].span = Span.following (stretches.take i).flatten

theorem Lexer.Segmented.partitions {ss : List (List Char)} {ts : List Token}
    (h : Segmented .start ss ts) : Partitions ss.flatten ts ss where
  length_eq := h.length_eq
  flatten_eq := rfl
  nonempty s hs := by
    obtain ⟨i, hi, rfl⟩ := List.mem_iff_getElem.mp hs
    exact (h.getElem i (h.length_eq ▸ hi) hi).1
  spelling_eq i hi hi' := (h.getElem i hi hi').2.1
  span_eq i hi := by
    rw [(h.getElem i hi (h.length_eq ▸ hi)).2.2, Span.start_after]

/-- Each token of a source stands behind those before it. -/
theorem tokenize_pairwise {source : String} {tokens : List Token}
    (h : tokenize source = .ok tokens) : tokens.Pairwise fun t u => t.span.Before u.span := by
  rw [tokenize] at h
  split at h
  · cases h
  · obtain rfl := Except.ok.inj h
    obtain ⟨ss, -, hss⟩ := Lexer.scan_segmented .start source.toList
    obtain ⟨ss', -, hss'⟩ := Lexer.mergeTexts_segmented hss
    exact hss'.pairwise

theorem tokenize_partition (source : String) (h : source ≠ "") :
    ∃ tokens stretches, tokenize source = .ok tokens ∧
      Partitions source.toList tokens stretches ∧
      tokens.Pairwise (fun t u => t.span.Before u.span) ∧
      tokens.head?.map Token.span = some ⟨1, 1⟩ := by
  obtain ⟨ss, hflat, hss⟩ := Lexer.scan_segmented .start source.toList
  obtain ⟨ss', hflat', hss'⟩ := Lexer.mergeTexts_segmented hss
  rw [hflat] at hflat'
  have hne : ss' ≠ [] := by
    rintro rfl
    exact h (String.toList_eq_nil_iff.mp hflat'.symm)
  refine ⟨_, ss', ?_, hflat' ▸ hss'.partitions, hss'.pairwise, hss'.head?_span hne⟩
  rw [tokenize, if_neg (by simpa using h)]

/-- An escape beside a number, a head in the second line and an escape at the end. -/
theorem tokenize_partition_escapes :
    "\\;5\n$b\\[" ≠ "" ∧
      tokenize "\\;5\n$b\\[" =
        .ok [.text ⟨1, 1⟩ ";5\n", .call ⟨2, 1⟩ "$b" [], .text ⟨2, 3⟩ "["] ∧
      ∃ stretches, Partitions "\\;5\n$b\\[".toList
        [.text ⟨1, 1⟩ ";5\n", .call ⟨2, 1⟩ "$b" [], .text ⟨2, 3⟩ "["] stretches := by
  have ht : tokenize "\\;5\n$b\\[" =
      .ok [.text ⟨1, 1⟩ ";5\n", .call ⟨2, 1⟩ "$b" [], .text ⟨2, 3⟩ "["] := by cbv
  have hne : "\\;5\n$b\\[" ≠ "" := by decide
  obtain ⟨tokens, stretches, htokens, hp, -⟩ := tokenize_partition "\\;5\n$b\\[" hne
  obtain rfl := Except.ok.inj (ht.symm.trans htokens)
  exact ⟨hne, ht, stretches, hp⟩

end BracketScript
