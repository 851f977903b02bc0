import Mathlib
import BracketScript.Value
import BracketScript.Token.Lexer

/-! Decimal notation is read back as what was written, and blanks around it can be told from it. -/

namespace BracketScript

namespace Decimal

theorem isDigit_of_mem_ofNat {n : Nat} {c : Char} (h : c ∈ ofNat n) : isDigit c = true := by
  have hc : c.isDigit = true := Nat.isDigit_of_mem_toDigits (by decide) (by decide) h
  simp only [Char.isDigit, Bool.and_eq_true, decide_eq_true_eq] at hc
  simp only [isDigit, Bool.and_eq_true, decide_eq_true_eq, Char.le_def]
  exact hc

theorem value_ofNat (n : Nat) : value (ofNat n) = n := by
  have h : Nat.ofDigitChars 10 (Nat.toDigits 10 n) 0 = n := Nat.ofDigitChars_ten_toDigits
  rw [Nat.ofDigitChars_eq_foldl] at h
  exact h

theorem ofNat_ne_nil (n : Nat) : ofNat n ≠ [] :=
  Nat.toDigits_ne_nil

theorem readNat?_ofNat (n : Nat) : readNat? (ofNat n) = some n := by
  have hd : (ofNat n).all isDigit = true :=
    List.all_eq_true.mpr fun c hc => isDigit_of_mem_ofNat hc
  have he : (ofNat n).isEmpty = false := by simpa using ofNat_ne_nil n
  simp [readNat?, hd, he, value_ofNat]

theorem mem_ofInt {n : Int} {c : Char} (h : c ∈ ofInt n) : c = '-' ∨ isDigit c = true := by
  rw [ofInt] at h
  split at h
  · rcases List.mem_cons.mp h with rfl | h
    · exact .inl rfl
    · exact .inr (isDigit_of_mem_ofNat h)
  · exact .inr (isDigit_of_mem_ofNat h)

theorem ofInt_ne_nil (n : Int) : ofInt n ≠ [] := by
  rw [ofInt]
  split
  · exact List.cons_ne_nil _ _
  · exact ofNat_ne_nil _

theorem exists_ofNat_eq_cons (n : Nat) : ∃ c s, ofNat n = c :: s ∧ isDigit c = true := by
  obtain ⟨c, s, h⟩ := List.exists_cons_of_ne_nil (ofNat_ne_nil n)
  exact ⟨c, s, h, isDigit_of_mem_ofNat (h ▸ List.mem_cons_self)⟩

theorem readInt?_ofInt (n : Int) : readInt? (ofInt n) = some n := by
  rw [ofInt]
  split
  · rename_i hn
    rw [readInt?, readNat?_ofNat]
    change some (-(n.natAbs : ℤ)) = some n
    congr 1
    omega
  · rename_i hn
    obtain ⟨c, s, hs, hc⟩ := exists_ofNat_eq_cons n.natAbs
    rw [readInt?, readNat?_ofNat, Option.map_some]
    · congr 1
      simp only [Int.ofNat_eq_natCast]
      omega
    · rw [hs]
      rintro digits ⟨rfl, -⟩
      exact absurd hc (by decide)

theorem inWord_toInt (n : Int64) : inWord n.toInt = true := by
  have hl := n.minValue_le_toInt
  have hu := n.toInt_le
  simp only [inWord, Bool.and_eq_true, decide_eq_true_eq]
  exact ⟨hl, hu⟩

theorem readWord?_ofInt (n : Int64) : readWord? (ofInt n.toInt) = some n := by
  rw [readWord?, readInt?_ofInt]
  simp [inWord_toInt]

end Decimal

namespace Text

theorem dropWhile_blank_append {blanks s : List Char} (hb : ∀ c ∈ blanks, isBlank c = true)
    (hs : ∀ c ∈ s.head?, isBlank c = false) : (blanks ++ s).dropWhile isBlank = s := by
  rw [List.dropWhile_append_of_pos hb]
  cases s with
  | nil => rfl
  | cons c s => exact List.dropWhile_cons_of_neg (by simp [hs c rfl])

/-- What begins and ends without a blank is what is left when blanks around it are cut off. -/
theorem trimChars_between {before s after : List Char} (hb : ∀ c ∈ before, isBlank c = true)
    (ha : ∀ c ∈ after, isBlank c = true) (hfirst : ∀ c ∈ s.head?, isBlank c = false)
    (hlast : ∀ c ∈ s.getLast?, isBlank c = false) (hne : s ≠ []) :
    trimChars (before ++ s ++ after) = s := by
  have hfront : ((before ++ s ++ after).dropWhile isBlank) = s ++ after := by
    rw [List.append_assoc]
    refine dropWhile_blank_append hb fun c hc => hfirst c ?_
    rwa [List.head?_append_of_ne_nil _ hne] at hc
  have hback : ((s ++ after).reverse.dropWhile isBlank) = s.reverse := by
    rw [List.reverse_append]
    refine dropWhile_blank_append (fun c hc => ha c (List.mem_reverse.mp hc)) fun c hc => ?_
    exact hlast c (List.head?_reverse ▸ hc)
  rw [trimChars, hfront, hback, List.reverse_reverse]

end Text

theorem Decimal.not_blank_of_isDigit {c : Char} (h : Decimal.isDigit c = true) :
    Text.isBlank c = false := by
  simp only [Decimal.isDigit, Bool.and_eq_true, decide_eq_true_eq, Char.le_def] at h
  have hl : 48 ≤ c.toNat := by exact_mod_cast h.1
  have hu : c.toNat ≤ 57 := by exact_mod_cast h.2
  simp only [Text.isBlank, Bool.or_eq_false_iff, Bool.and_eq_false_iff, decide_eq_false_iff_not,
    beq_eq_false_iff_ne]
  omega

theorem Decimal.not_blank_of_mem_ofInt {n : Int} {c : Char} (h : c ∈ Decimal.ofInt n) :
    Text.isBlank c = false := by
  rcases Decimal.mem_ofInt h with rfl | hd
  · decide
  · exact Decimal.not_blank_of_isDigit hd

theorem Text.trimChars_ofInt {before after : List Char} (hb : ∀ c ∈ before, isBlank c = true)
    (ha : ∀ c ∈ after, isBlank c = true) (n : Int) :
    trimChars (before ++ Decimal.ofInt n ++ after) = Decimal.ofInt n :=
  trimChars_between hb ha (fun _ hc => Decimal.not_blank_of_mem_ofInt (List.mem_of_mem_head? hc))
    (fun _ hc => Decimal.not_blank_of_mem_ofInt (List.mem_of_mem_getLast? hc))
    (Decimal.ofInt_ne_nil n)

theorem Text.trimChars_ofInt_self (n : Int) : trimChars (Decimal.ofInt n) = Decimal.ofInt n := by
  have h := @trimChars_ofInt [] [] (by simp) (by simp) n
  rwa [List.nil_append, List.append_nil] at h

end BracketScript
