import BracketScript.Proofs.Joining
import BracketScript.Proofs.Partition

/-! Lexing starts anew after a bracket or a separator, whatever stands before and behind. -/

namespace BracketScript

namespace Lexer

theorem char_cases (c : Char) :
    c = '[' ∨ c = ']' ∨ c = ';' ∨ c = '\\' ∨ c = '$' ∨ isOperatorChar c = true ∨
      isPlain c = true := by
  by_cases hp : isPlain c = true
  · simp [hp]
  · simp only [isPlain, isEscapable, isMark, Bool.not_eq_true', Bool.not_eq_false, Bool.or_eq_true,
      beq_iff_eq] at hp
    tauto

theorem lexeme_escape (rest : List Char) : lexeme '\\' rest = escapeLexeme rest :=
  rfl

theorem lexeme_dollar (rest : List Char) : lexeme '$' rest = dollarLexeme rest :=
  rfl

/-- A kind of characters none of which has a meaning of its own. -/
theorem ne_marks_of_kind {kind : Char → Bool}
    (hkind : ['[', ']', ';', '\\', '$'].any kind = false) {c : Char} (h : kind c = true) :
    c ≠ '[' ∧ c ≠ ']' ∧ c ≠ ';' ∧ c ≠ '\\' ∧ c ≠ '$' := by
  have hnot (d : Char) (hd : d ∈ ['[', ']', ';', '\\', '$']) : c ≠ d := by
    rintro rfl
    exact List.any_eq_false.mp hkind c hd h
  exact ⟨hnot _ (by simp), hnot _ (by simp), hnot _ (by simp), hnot _ (by simp), hnot _ (by simp)⟩

theorem lexeme_operator {c : Char} (h : isOperatorChar c = true) (rest : List Char) :
    lexeme c rest = operatorLexeme c rest := by
  have hc := ne_marks_of_kind (by decide) h
  simp [lexeme, hc, h]

theorem lexeme_plain {c : Char} (h : isPlain c = true) (rest : List Char) :
    lexeme c rest =
      (plainLexeme (c :: rest.takeWhile isPlain), (rest.takeWhile isPlain).length) := by
  have hc := ne_marks_of_kind (by decide) h
  have ho : isOperatorChar c = false := by
    simp only [isPlain, isEscapable, Bool.not_eq_true', Bool.or_eq_false_iff] at h
    exact h.2
  simp [lexeme, hc, ho]

theorem takeWhile_append_of_lt {P : Char → Bool} {s : List Char}
    (h : (s.takeWhile P).length < s.length) (t : List Char) :
    (s ++ t).takeWhile P = s.takeWhile P := by
  rw [List.takeWhile_append, if_neg (Nat.ne_of_lt h)]

theorem dollarLexeme_snd (rest : List Char) :
    (dollarLexeme rest).2 = (rest.takeWhile isNameChar).length := by
  rw [dollarLexeme]
  split
  · rename_i h
    rw [h]
    rfl
  · rfl

/-- A lexeme that ends before its source does is not changed by a longer source. -/
theorem lexeme_append {c : Char} {rest : List Char} (h : (lexeme c rest).2 < rest.length)
    (t : List Char) : lexeme c (rest ++ t) = lexeme c rest := by
  have hne : rest ≠ [] := List.length_pos_iff.mp (Nat.zero_lt_of_lt h)
  obtain ⟨d, rest', hrest⟩ := List.exists_cons_of_ne_nil hne
  rcases char_cases c with rfl | rfl | rfl | rfl | rfl | hc | hc
  · rfl
  · rfl
  · rfl
  · rw [lexeme_escape, lexeme_escape, hrest]
    rfl
  · rw [lexeme_dollar, dollarLexeme_snd] at h
    rw [lexeme_dollar, lexeme_dollar, dollarLexeme, dollarLexeme, takeWhile_append_of_lt h]
  · rw [lexeme_operator hc, lexeme_operator hc, hrest]
    rfl
  · rw [lexeme_plain hc] at h
    rw [lexeme_plain hc, lexeme_plain hc, takeWhile_append_of_lt h]

theorem operatorLexeme_not_punctuation (c : Char) (rest : List Char) (mark : Punctuation) :
    (operatorLexeme c rest).1 ≠ .punctuation mark := by
  intro h
  rw [operatorLexeme] at h
  split at h
  · cases h
  · split at h <;> cases h

theorem plainLexeme_not_punctuation (run : List Char) (mark : Punctuation) :
    plainLexeme run ≠ .punctuation mark := by
  intro h
  rw [plainLexeme] at h
  split at h <;> cases h

/-- Punctuation is one character, whatever follows. -/
theorem lexeme_of_punctuation {c : Char} {rest : List Char} {mark : Punctuation}
    (h : (lexeme c rest).1 = .punctuation mark) (rest' : List Char) :
    lexeme c rest' = (.punctuation mark, 0) := by
  rcases char_cases c with rfl | rfl | rfl | rfl | rfl | hc | hc
  · exact congrArg (·, 0) h
  · exact congrArg (·, 0) h
  · exact congrArg (·, 0) h
  · cases rest <;> cases h
  · rw [lexeme_dollar, dollarLexeme] at h
    split at h <;> cases h
  · rw [lexeme_operator hc] at h
    exact absurd h (operatorLexeme_not_punctuation c rest mark)
  · rw [lexeme_plain hc] at h
    exact absurd h (plainLexeme_not_punctuation _ mark)

theorem said_of_toToken_punctuation {p : Span} {said : Lexeme} {q : Span} {mark : Punctuation}
    (h : said.toToken p = .punctuation q mark) : said = .punctuation mark := by
  cases said with
  | literal v => cases h
  | head name => cases h
  | punctuation m =>
    obtain rfl := (Token.punctuation.inj h).2
    rfl

/-- After punctuation the lexer has nothing in mind. -/
theorem scan_append {p q : Span} {s : List Char} {ts : List Token} {mark : Punctuation}
    (h : scan p s = ts ++ [.punctuation q mark]) (t : List Char) :
    scan p (s ++ t) = scan p s ++ scan (p.after s) t := by
  cases s with
  | nil => simp [scan] at h
  | cons c rest =>
    rw [scan_cons] at h ⊢
    rw [List.cons_append, scan_cons]
    by_cases hl : (lexeme c rest).2 < rest.length
    · have hlt : (rest.drop (lexeme c rest).2).length < (c :: rest).length := by
        simp only [List.length_drop, List.length_cons]
        omega
      cases ts with
      | nil =>
        have hrest := (List.cons.inj h).2
        have hdrop : rest.drop (lexeme c rest).2 ≠ [] := by simpa using hl
        obtain ⟨d, rest', hd⟩ := List.exists_cons_of_ne_nil hdrop
        rw [hd, scan_cons] at hrest
        cases hrest
      | cons u us =>
        have hrest := scan_append (List.cons.inj h).2 t
        rw [lexeme_append hl, List.take_append_of_le_length (Nat.le_of_lt hl),
          List.drop_append_of_le_length (Nat.le_of_lt hl), hrest, List.cons_append,
          ← Span.after_append, List.cons_append, List.take_append_drop]
    · have hdrop : rest.drop (lexeme c rest).2 = [] :=
        List.drop_eq_nil_of_le (Nat.le_of_not_lt hl)
      rw [hdrop, scan, List.singleton_eq_append_iff] at h
      obtain ⟨-, hlast⟩ | ⟨-, hlast⟩ := h
      · have hp := said_of_toToken_punctuation (List.cons.inj hlast).1.symm
        have hend := lexeme_of_punctuation hp rest
        have hrest : rest = [] := by
          rw [hend] at hl
          simpa using hl
        rw [hrest, List.nil_append, lexeme_of_punctuation hp t, lexeme_of_punctuation hp []]
        simp [scan]
      · cases hlast
termination_by s.length

end Lexer

end BracketScript
