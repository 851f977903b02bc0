import BracketScript.Proofs.Filling

/-! Sources between brackets and separators. The lexer makes of each what it makes of it alone, unless
the source ends in a backslash that would escape what comes next. -/

namespace BracketScript

namespace Lexer

/-- Whether a stretch ends in a backslash that is not escaped itself. -/
def endsInEscape : List Char → Bool
  | [] => false
  | ['\\'] => true
  | '\\' :: _ :: s => endsInEscape s
  | _ :: s => endsInEscape s

theorem endsInEscape_cons {c : Char} (h : c ≠ '\\') (s : List Char) :
    endsInEscape (c :: s) = endsInEscape s := by
  rw [endsInEscape]
  · exact fun hc => absurd hc h
  · exact fun _ _ hc => absurd hc h

theorem endsInEscape_append {u : List Char} (h : ∀ c ∈ u, c ≠ '\\') (s : List Char) :
    endsInEscape (u ++ s) = endsInEscape s := by
  induction u with
  | nil => rfl
  | cons c u ih =>
    have ⟨hc, hu⟩ := List.forall_mem_cons.mp h
    rw [List.cons_append, endsInEscape_cons hc, ih hu]

theorem endsInEscape_drop {s : List Char} {n : Nat} (h : ∀ c ∈ s.take n, c ≠ '\\') :
    endsInEscape (s.drop n) = endsInEscape s := by
  rw [← endsInEscape_append h, List.take_append_drop]

/-- What ends a stretch between brackets or separators. -/
def EndsSlot (d : Char) : Prop :=
  d = ']' ∨ d = ';'

theorem takeWhile_append_of_endsSlot {P : Char → Bool} (hP : P ']' = false ∧ P ';' = false)
    {d : Char} (hd : EndsSlot d) (s t : List Char) :
    (s ++ d :: t).takeWhile P = s.takeWhile P := by
  have hnot : P d = false := by
    rcases hd with rfl | rfl
    · exact hP.1
    · exact hP.2
  by_cases hall : (s.takeWhile P).length = s.length
  · have hs : s.takeWhile P = s := (List.takeWhile_prefix P).eq_of_length hall
    rw [List.takeWhile_append, if_pos hall, List.takeWhile_cons_of_neg (by simp [hnot]),
      List.append_nil, hs]
  · rw [List.takeWhile_append, if_neg hall]

theorem operatorOf?_of_endsSlot {d : Char} (hd : EndsSlot d) (c : Char) :
    operatorOf? [c, d] = none := by
  cases h : operatorOf? [c, d] with
  | none => rfl
  | some op =>
    have hmem : d ∈ op.spelling.toList := by
      rw [spelling_of_operatorOf? h]
      simp
    rcases hd with rfl | rfl
    · cases op <;> exact absurd hmem (by decide)
    · cases op <;> exact absurd hmem (by decide)

/-- A lexeme is not changed by what ends the stretch that it begins in. -/
theorem lexeme_append_of_endsSlot {c d : Char} {rest : List Char}
    (h : endsInEscape (c :: rest) = false) (hd : EndsSlot d) (t : List Char) :
    lexeme c (rest ++ d :: t) = lexeme c rest := by
  rcases char_cases c with rfl | rfl | rfl | rfl | rfl | hc | hc
  · rfl
  · rfl
  · rfl
  · cases rest with
    | nil => cases h
    | cons x rest => rfl
  · rw [lexeme_dollar, lexeme_dollar, dollarLexeme, dollarLexeme,
      takeWhile_append_of_endsSlot (by decide) hd]
  · rw [lexeme_operator hc, lexeme_operator hc]
    cases rest with
    | nil =>
      -- no operator goes on with `d`, so that what is read is `c` alone on both sides
      have hnone : operatorOf? (c :: ([] ++ d :: t).take 1) = none := operatorOf?_of_endsSlot hd c
      rw [operatorLexeme, hnone, operatorLexeme, List.take_nil]
      cases operatorOf? [c] with
      | none => rfl
      | some op => rfl
    | cons x rest => rfl
  · rw [lexeme_plain hc, lexeme_plain hc, takeWhile_append_of_endsSlot (by decide) hd]

theorem ne_backslash_of_mem_operator (c : Char) (rest : List Char) :
    ∀ d ∈ rest.take (operatorLexeme c rest).2, d ≠ '\\' := by
  intro d hd
  rw [operatorLexeme] at hd
  cases h : operatorOf? (c :: rest.take 1) with
  | some op =>
    rw [h] at hd
    have hmem : d ∈ rest.take 1 := List.take_subset_take_left rest (List.length_take_le _ _) hd
    have hplain : ∀ d ∈ op.spelling.toList, d ≠ '\\' := spelling_plain
    rw [spelling_of_operatorOf? h] at hplain
    exact hplain d (List.mem_cons_of_mem c hmem)
  | none =>
    rw [h] at hd
    cases h' : operatorOf? [c] with
    | some op => simp [h'] at hd
    | none => simp [h'] at hd

theorem endsInEscape_drop_lexeme {c : Char} {rest : List Char}
    (h : endsInEscape (c :: rest) = false) :
    endsInEscape (rest.drop (lexeme c rest).2) = false := by
  have hrest (hc : c ≠ '\\') : endsInEscape rest = false := endsInEscape_cons hc rest ▸ h
  have hrun {P : Char → Bool} (hP : P '\\' = false) (hc : c ≠ '\\') :
      endsInEscape (rest.drop (rest.takeWhile P).length) = false := by
    have hplain := ne_backslash_of_mem_takeWhile hP (s := rest)
    rw [← take_length_takeWhile] at hplain
    rw [endsInEscape_drop hplain]
    exact hrest hc
  rcases char_cases c with rfl | rfl | rfl | rfl | rfl | hc | hc
  · exact h
  · exact h
  · exact h
  · cases rest with
    | nil => cases h
    | cons x rest => exact h
  · rw [lexeme_dollar, dollarLexeme_snd]
    exact hrun (by decide) (by decide)
  · have hne := (ne_marks_of_kind (by decide) hc).2.2.2.1
    rw [lexeme_operator hc, endsInEscape_drop (ne_backslash_of_mem_operator c rest)]
    exact hrest hne
  · have hne := (ne_marks_of_kind (by decide) hc).2.2.2.1
    rw [lexeme_plain hc]
    exact hrun (by decide) hne

theorem lexeme_snd_le (c : Char) (rest : List Char) : (lexeme c rest).2 ≤ rest.length := by
  have hrun (P : Char → Bool) : (rest.takeWhile P).length ≤ rest.length :=
    (List.takeWhile_prefix P).length_le
  rcases char_cases c with rfl | rfl | rfl | rfl | rfl | hc | hc
  · exact Nat.zero_le _
  · exact Nat.zero_le _
  · exact Nat.zero_le _
  · cases rest with
    | nil => exact Nat.le_refl _
    | cons x rest => exact Nat.succ_le_succ (Nat.zero_le _)
  · rw [lexeme_dollar, dollarLexeme_snd]
    exact hrun isNameChar
  · rw [lexeme_operator hc, operatorLexeme]
    cases operatorOf? (c :: rest.take 1) with
    | some op => exact List.length_take_le' 1 rest
    | none => cases operatorOf? [c] <;> exact Nat.zero_le _
  · rw [lexeme_plain hc]
    exact hrun isPlain

theorem scan_append_of_endsSlot {p : Span} {d : Char} {s : List Char}
    (h : endsInEscape s = false) (hd : EndsSlot d) (t : List Char) :
    scan p (s ++ d :: t) = scan p s ++ scan (p.after s) (d :: t) := by
  cases s with
  | nil =>
    rw [scan]
    rfl
  | cons c rest =>
    have hlt : (rest.drop (lexeme c rest).2).length < (c :: rest).length := by
      simp only [List.length_drop, List.length_cons]
      omega
    have hle := lexeme_snd_le c rest
    have hrest := scan_append_of_endsSlot (p := p.after (c :: rest.take (lexeme c rest).2))
      (endsInEscape_drop_lexeme h) hd t
    rw [List.cons_append, scan_cons, scan_cons, lexeme_append_of_endsSlot h hd,
      List.take_append_of_le_length hle, List.drop_append_of_le_length hle, hrest,
      ← Span.after_append, List.cons_append, List.cons_append, List.take_append_drop]
termination_by s.length

/-- What ends a stretch keeps apart what the lexer makes on both sides of it. -/
theorem tokensAt_append_of_endsSlot (p : Span) {d : Char} {mark : Punctuation} {s : List Char}
    (h : endsInEscape s = false) (hd : EndsSlot d)
    (hmark : ∀ rest, lexeme d rest = (.punctuation mark, 0)) (t : List Char) :
    tokensAt p (s ++ d :: t) =
      tokensAt p s ++ .punctuation (p.after s) mark :: tokensAt ((p.after s).after [d]) t := by
  have hscan : scan (p.after s) (d :: t) =
      .punctuation (p.after s) mark :: scan ((p.after s).after [d]) t := by
    rw [scan_cons, hmark]
    rfl
  rw [tokensAt, scan_append_of_endsSlot h hd, hscan, mergeTexts_append rfl]
  rfl

end Lexer

end BracketScript
