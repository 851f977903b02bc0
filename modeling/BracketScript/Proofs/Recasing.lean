import BracketScript.Proofs.PlainRuns

/-! Sources with the heads of calls in another case. They are cut at the same places, into tokens that
are the same but for the letters of the heads. -/

namespace BracketScript

namespace Lexer

/-- The same character of a name but for its case. -/
def SameLetter (c c' : Char) : Prop :=
  isNameChar c = true ∧ isNameChar c' = true ∧ c'.toLower = c.toLower

instance (c c' : Char) : Decidable (SameLetter c c') :=
  inferInstanceAs (Decidable (_ ∧ _ ∧ _))

/-- A source with some letters of call heads in another case. What follows a backslash begins no
head. -/
inductive Recased : List Char → List Char → Prop
  | nil : Recased [] []
  | backslash : Recased ['\\'] ['\\']
  | escape (c : Char) {s s' : List Char} (h : Recased s s') :
      Recased ('\\' :: c :: s) ('\\' :: c :: s')
  | head {name name' s s' : List Char} (hname : List.Forall₂ SameLetter name name')
      (h : Recased s s') : Recased ('$' :: (name ++ s)) ('$' :: (name' ++ s'))
  | char {c : Char} (hc : c ≠ '\\') {s s' : List Char} (h : Recased s s') :
      Recased (c :: s) (c :: s')

variable {name name' s s' : List Char} {c c' : Char}

theorem isNameChar_of_sameLetter (h : List.Forall₂ SameLetter name name') :
    (∀ c ∈ name, isNameChar c = true) ∧ ∀ c ∈ name', isNameChar c = true := by
  induction h with
  | nil => simp
  | cons hc _ ih =>
    exact ⟨List.forall_mem_cons.mpr ⟨hc.1, ih.1⟩, List.forall_mem_cons.mpr ⟨hc.2.1, ih.2⟩⟩

theorem lowerAscii_of_sameLetter (h : List.Forall₂ SameLetter name name') :
    Text.lowerAscii name' = Text.lowerAscii name := by
  induction h with
  | nil => rfl
  | cons hc _ ih => exact congrArg₂ List.cons hc.2.2 ih

namespace Recased

theorem refl (s : List Char) : Recased s s := by
  match s with
  | [] => exact .nil
  | c :: s =>
    by_cases hc : c = '\\'
    · subst hc
      cases s with
      | nil => exact .backslash
      | cons d s => exact .escape d (refl s)
    · exact .char hc (refl s)

/-- Line feeds stay where they are, so that places do not change. -/
theorem forall₂_next (h : Recased s s') :
    List.Forall₂ (fun c c' => ∀ p : Span, p.next c' = p.next c) s s' := by
  induction h with
  | nil => exact .nil
  | backslash => exact .cons (fun _ => rfl) .nil
  | escape c _ ih => exact .cons (fun _ => rfl) (.cons (fun _ => rfl) ih)
  | char _ _ ih => exact .cons (fun _ => rfl) ih
  | head hname _ ih =>
    refine .cons (fun _ => rfl) ?_
    induction hname with
    | nil => exact ih
    | @cons c c' _ _ hc _ ihname =>
      refine .cons (fun p => ?_) ihname
      have hne {d : Char} (hd : isNameChar d = true) : d ≠ '\n' := by
        rintro rfl
        cases hd
      rw [Span.next, Span.next, if_neg (hne hc.1), if_neg (hne hc.2.1)]

theorem after_take (h : Recased s s') (n : Nat) (p : Span) :
    p.after (s'.take n) = p.after (s.take n) := by
  have htake := List.forall₂_take n h.forall₂_next
  generalize s.take n = u, s'.take n = u' at htake ⊢
  induction htake generalizing p with
  | nil => rfl
  | cons hc _ ih =>
    rw [Span.after, Span.after, List.foldl_cons, List.foldl_cons, hc]
    exact ih _

theorem takeWhile {P : Char → Bool} (hback : P '\\' = false) (hdollar : P '$' = false)
    (h : Recased s s') :
    s'.takeWhile P = s.takeWhile P ∧
      Recased (s.drop (s.takeWhile P).length) (s'.drop (s.takeWhile P).length) := by
  have hnone {d : Char} (hd : P d = false) (t : List Char) : (d :: t).takeWhile P = [] :=
    List.takeWhile_cons_of_neg (by simp [hd])
  induction h with
  | nil => exact ⟨rfl, .nil⟩
  | backslash =>
    rw [hnone hback]
    exact ⟨rfl, .backslash⟩
  | escape c h =>
    rw [hnone hback, hnone hback]
    exact ⟨rfl, .escape c h⟩
  | head hname h =>
    rw [hnone hdollar, hnone hdollar]
    exact ⟨rfl, .head hname h⟩
  | @char c hc s s' h ih =>
    cases hP : P c with
    | false =>
      rw [hnone hP, hnone hP]
      exact ⟨rfl, .char hc h⟩
    | true =>
      rw [List.takeWhile_cons_of_pos hP, List.takeWhile_cons_of_pos hP, ih.1]
      exact ⟨rfl, ih.2⟩

end Recased

/-- The same but for the case of the letters in a head. -/
inductive Lexeme.Recased : Lexeme → Lexeme → Prop
  | same (said : Lexeme) : Recased said said
  | head {name name' : List Char} (h : Text.lowerAscii name' = Text.lowerAscii name) :
      Recased (.head (String.ofList name)) (.head (String.ofList name'))

theorem dollarLexeme_recased (hname : List.Forall₂ SameLetter name name') (h : Recased s s') :
    (dollarLexeme (name ++ s)).1.Recased (dollarLexeme (name' ++ s')).1 ∧
      (dollarLexeme (name' ++ s')).2 = (dollarLexeme (name ++ s)).2 ∧
      Recased ((name ++ s).drop (dollarLexeme (name ++ s)).2)
        ((name' ++ s').drop (dollarLexeme (name ++ s)).2) := by
  obtain ⟨hchars, hchars'⟩ := isNameChar_of_sameLetter hname
  obtain ⟨htake, hrest⟩ := h.takeWhile (P := isNameChar) rfl rfl
  have hrun : (name ++ s).takeWhile isNameChar = name ++ s.takeWhile isNameChar :=
    List.takeWhile_append_of_pos hchars
  have hrun' : (name' ++ s').takeWhile isNameChar = name' ++ s.takeWhile isNameChar := by
    rw [List.takeWhile_append_of_pos hchars', htake]
  have hlength := hname.length_eq
  rw [dollarLexeme_snd, dollarLexeme_snd, hrun, hrun', List.length_append, List.length_append]
  refine ⟨?_, by rw [hlength], ?_⟩
  · rw [dollarLexeme, dollarLexeme, hrun, hrun']
    generalize s.takeWhile isNameChar = u
    cases hname with
    | nil => exact .same _
    | @cons c c' name name' hc hname =>
      have hlower : Text.lowerAscii ('$' :: (c' :: name' ++ u)) =
          Text.lowerAscii ('$' :: (c :: name ++ u)) := by
        have hletters := lowerAscii_of_sameLetter (hname.cons hc)
        simp only [Text.lowerAscii, List.map_cons, List.map_append, List.cons_append] at hletters ⊢
        rw [← List.cons_append, hletters, List.cons_append]
      exact .head hlower
  · rw [List.drop_length_add_append, hlength, List.drop_length_add_append]
    exact hrest

theorem isOperatorChar_of_operatorOf? {op : Operator} (h : operatorOf? [c, c'] = some op) :
    isOperatorChar c' = true := by
  have hmem : c' ∈ op.spelling.toList := by
    rw [spelling_of_operatorOf? h]
    simp
  have hall : ∀ d ∈ op.spelling.toList, isOperatorChar d = true := by
    cases op <;> simp [Operator.spelling, isOperatorChar]
  exact hall c' hmem

theorem operatorLexeme_recased (h : Recased s s') :
    operatorLexeme c s' = operatorLexeme c s ∧
      Recased (s.drop (operatorLexeme c s).2) (s'.drop (operatorLexeme c s).2) := by
  have htake : s'.take 1 = s.take 1 := by
    cases h <;> rfl
  refine ⟨by rw [operatorLexeme, htake, operatorLexeme], ?_⟩
  rw [operatorLexeme]
  cases hop : operatorOf? (c :: s.take 1) with
  | none => cases operatorOf? [c] <;> exact h
  | some op =>
    cases h with
    | nil => exact .nil
    | backslash => exact absurd (isOperatorChar_of_operatorOf? hop) (by decide)
    | escape => exact absurd (isOperatorChar_of_operatorOf? hop) (by decide)
    | head => exact absurd (isOperatorChar_of_operatorOf? hop) (by decide)
    | char hc h => exact h

/-- The same is said on both sides, with as many characters, and the same comes after it. -/
theorem Recased.lexeme (h : Recased (c :: s) (c' :: s')) :
    (lexeme c s).1.Recased (lexeme c' s').1 ∧ (lexeme c' s').2 = (lexeme c s).2 ∧
      Recased (s.drop (lexeme c s).2) (s'.drop (lexeme c s).2) := by
  cases h with
  | backslash => exact ⟨.same _, rfl, .nil⟩
  | escape d h => exact ⟨.same _, rfl, h⟩
  | head hname h => exact dollarLexeme_recased hname h
  | char hc h =>
    rcases char_cases c with rfl | rfl | rfl | rfl | rfl | hkind | hkind
    · exact ⟨.same _, rfl, h⟩
    · exact ⟨.same _, rfl, h⟩
    · exact ⟨.same _, rfl, h⟩
    · exact absurd rfl hc
    · exact dollarLexeme_recased .nil h
    · obtain ⟨hsame, hrest⟩ := operatorLexeme_recased (c := c) h
      rw [lexeme_operator hkind, lexeme_operator hkind, hsame]
      exact ⟨.same _, rfl, hrest⟩
    · obtain ⟨htake, hrest⟩ := h.takeWhile (P := isPlain) rfl rfl
      rw [lexeme_plain hkind, lexeme_plain hkind, htake]
      exact ⟨.same _, rfl, hrest⟩

end Lexer

/-- The same token but for the case of the letters in a head. -/
inductive Token.Recased : Token → Token → Prop
  | literal (p : Span) (v : Literal) : Recased (.literal p v) (.literal p v)
  | punctuation (p : Span) (mark : Punctuation) :
      Recased (.punctuation p mark) (.punctuation p mark)
  | head (p : Span) {name name' : String}
      (h : Text.lowerAscii name'.toList = Text.lowerAscii name.toList) :
      Recased (.call p name []) (.call p name' [])

namespace Lexer

theorem Lexeme.Recased.toToken {said said' : Lexeme} (h : said.Recased said') (p : Span) :
    (said.toToken p).Recased (said'.toToken p) := by
  cases h with
  | same =>
    cases said with
    | literal v => exact .literal p v
    | head name => exact .head p rfl
    | punctuation mark => exact .punctuation p mark
  | head h =>
    refine .head p ?_
    rwa [String.toList_ofList, String.toList_ofList]

theorem scan_recased (p : Span) {s s' : List Char} (h : Recased s s') :
    List.Forall₂ Token.Recased (scan p s) (scan p s') := by
  match s, s', h with
  | [], [], _ =>
    rw [scan]
    exact .nil
  | c :: s, c' :: s', h =>
    obtain ⟨hsaid, htaken, hrest⟩ := h.lexeme
    have hplace := h.after_take ((lexeme c s).2 + 1) p
    rw [List.take_succ_cons, List.take_succ_cons] at hplace
    rw [scan_cons, scan_cons, htaken, hplace]
    exact .cons (hsaid.toToken p) (scan_recased _ hrest)
termination_by s.length
decreasing_by
  rw [List.length_drop, List.length_cons]
  omega

theorem mergeTexts_recased {ts ts' : List Token} (h : List.Forall₂ Token.Recased ts ts') :
    List.Forall₂ Token.Recased (mergeTexts ts) (mergeTexts ts') := by
  induction h with
  | nil => exact .nil
  | @cons t t' ts ts' ht _ ih =>
    cases ht with
    | punctuation p mark =>
      rw [mergeTexts_of_not_text rfl, mergeTexts_of_not_text rfl]
      exact .cons (.punctuation p mark) ih
    | head p hname =>
      rw [mergeTexts_of_not_text rfl, mergeTexts_of_not_text rfl]
      exact .cons (.head p hname) ih
    | literal p v =>
      cases v with
      | number | operator =>
        rw [mergeTexts_of_not_text rfl, mergeTexts_of_not_text rfl]
        exact .cons (.literal p _) ih
      | text a =>
        rw [mergeTexts, mergeTexts]
        generalize mergeTexts ts = us, mergeTexts ts' = us' at ih ⊢
        cases ih with
        | nil => exact .cons (.literal p _) .nil
        | cons hu hus =>
          cases hu with
          | punctuation q mark => exact .cons (.literal p _) (.cons (.punctuation q mark) hus)
          | head q hname => exact .cons (.literal p _) (.cons (.head q hname) hus)
          | literal q w =>
            cases w with
            | text b => exact .cons (.literal p _) hus
            | number | operator => exact .cons (.literal p _) (.cons (.literal q _) hus)

theorem tokensAt_recased (p : Span) {s s' : List Char} (h : Recased s s') :
    List.Forall₂ Token.Recased (tokensAt p s) (tokensAt p s') :=
  mergeTexts_recased (scan_recased p h)

end Lexer

end BracketScript
