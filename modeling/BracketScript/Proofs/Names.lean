import BracketScript.Scope
import BracketScript.Proofs.DecimalNotation

/-! Names of functions that count as the same, and the one form that all of them have. -/

namespace BracketScript

namespace Text

theorem trimChars_eq_self {s : List Char} (hfirst : ∀ c ∈ s.head?, isBlank c = false)
    (hlast : ∀ c ∈ s.getLast?, isBlank c = false) (hne : s ≠ []) : trimChars s = s := by
  have h := @trimChars_between [] s [] (by simp) (by simp) hfirst hlast hne
  rwa [List.nil_append, List.append_nil] at h

theorem not_blank_of_mem_getLast?_trimChars {s : List Char} {c : Char}
    (h : c ∈ (trimChars s).getLast?) : isBlank c = false := by
  have hfirst := List.head?_dropWhile_not isBlank (s.dropWhile isBlank).reverse
  rw [trimChars, List.getLast?_reverse] at h
  rwa [Option.mem_def.mp h] at hfirst

/-- Only the letters `A` to `Z` are changed. -/
theorem toLower_cases (c : Char) :
    c.toLower = c ∨ 65 ≤ c.toNat ∧ c.toNat ≤ 90 ∧ c.toLower.toNat = c.toNat + 32 := by
  by_cases hc : c.isUpper = true
  · have hn : 65 ≤ c.toNat ∧ c.toNat ≤ 90 := by
      simpa [Char.isUpper, UInt32.le_iff_toNat_le, ← Char.toNat_val] using hc
    refine .inr ⟨hn.1, hn.2, ?_⟩
    rw [Char.toLower_eq_of_isUpper hc, Char.toNat_ofNat, if_pos (.inl (by omega))]
  · exact .inl (Char.toLower_eq_of_not_isUpper hc)

theorem isBlank_toLower (c : Char) : isBlank c.toLower = isBlank c := by
  obtain h | ⟨hlo, hhi, h⟩ := toLower_cases c
  · rw [h]
  · rw [Bool.eq_iff_iff]
    simp only [isBlank, h, Bool.or_eq_true, Bool.and_eq_true, decide_eq_true_eq, beq_iff_eq]
    omega

theorem lowerAscii_lowerAscii (s : List Char) : lowerAscii (lowerAscii s) = lowerAscii s := by
  simp [lowerAscii, Function.comp_def]

theorem trimChars_lowerAscii (s : List Char) :
    trimChars (lowerAscii s) = lowerAscii (trimChars s) := by
  have hblank : isBlank ∘ Char.toLower = isBlank := funext isBlank_toLower
  simp only [trimChars, lowerAscii, List.dropWhile_map, hblank, ← List.map_reverse]

theorem trimChars_append_blanks {s after : List Char} (h : ∀ c ∈ after, isBlank c = true) :
    trimChars (s ++ after) = trimChars s := by
  have hafter : after.dropWhile isBlank = [] := List.dropWhile_eq_nil_iff.mpr h
  have hback : ∀ c ∈ after.reverse, isBlank c = true := fun c hc => h c (List.mem_reverse.mp hc)
  rw [trimChars, trimChars, List.dropWhile_append]
  split
  · rename_i hs
    rw [hafter, List.isEmpty_iff.mp hs]
  · rw [List.reverse_append, List.dropWhile_append_of_pos hback]

end Text

def withDollar (s : List Char) : List Char :=
  if s.head? = some '$' then s else '$' :: s

theorem head?_withDollar (s : List Char) : (withDollar s).head? = some '$' := by
  by_cases h : s.head? = some '$'
  · rw [withDollar, if_pos h, h]
  · rw [withDollar, if_neg h]
    rfl

theorem not_blank_of_mem_getLast?_withDollar {s : List Char}
    (hs : ∀ c ∈ s.getLast?, Text.isBlank c = false) {c : Char}
    (hc : c ∈ (withDollar s).getLast?) : Text.isBlank c = false := by
  by_cases h : s.head? = some '$'
  · rw [withDollar, if_pos h] at hc
    exact hs c hc
  · rw [withDollar, if_neg h, List.getLast?_cons] at hc
    cases hlast : s.getLast? with
    | none =>
      obtain rfl : '$' = c := by simpa [hlast] using hc
      decide
    | some d =>
      obtain rfl : d = c := by simpa [hlast] using hc
      exact hs d hlast

/-- A name without the blanks around it, with a dollar sign in front, in small letters. -/
def canonicalName (name : String) : List Char :=
  Text.lowerAscii (withDollar (Text.trimChars name.toList))

theorem normalName_eq (name : String) : normalName name = String.ofList (canonicalName name) := by
  rw [normalName, canonicalName]
  cases Text.trimChars name.toList with
  | nil => rfl
  | cons c s =>
    by_cases hc : c = '$'
    · subst hc
      rfl
    · have hhead : (c :: s).head? ≠ some '$' := fun h => hc (Option.some.inj h)
      rw [withDollar, if_neg hhead]
      split
      · rename_i heq
        exact absurd (List.cons.inj heq).1 hc
      · rfl

theorem normalName_eq_iff (name other : String) :
    normalName name = normalName other ↔ canonicalName name = canonicalName other := by
  rw [normalName_eq, normalName_eq, String.ofList_inj]

theorem head?_canonicalName (name : String) : (canonicalName name).head? = some '$' := by
  rw [canonicalName, Text.lowerAscii, List.head?_map, head?_withDollar]
  rfl

theorem not_blank_of_mem_getLast?_canonicalName {name : String} {c : Char}
    (h : c ∈ (canonicalName name).getLast?) : Text.isBlank c = false := by
  rw [canonicalName, Text.lowerAscii, List.getLast?_map] at h
  obtain ⟨d, hd, rfl⟩ := Option.map_eq_some_iff.mp h
  rw [Text.isBlank_toLower]
  exact not_blank_of_mem_getLast?_withDollar
    (fun _ => Text.not_blank_of_mem_getLast?_trimChars) hd

theorem canonicalName_normalName (name : String) :
    canonicalName (normalName name) = canonicalName name := by
  have hhead := head?_canonicalName name
  have hne : canonicalName name ≠ [] := fun h => by rw [h] at hhead; cases hhead
  have htrim : Text.trimChars (canonicalName name) = canonicalName name := by
    refine Text.trimChars_eq_self (fun c hc => ?_)
      (fun c hc => not_blank_of_mem_getLast?_canonicalName hc) hne
    obtain rfl : '$' = c := Option.some.inj (hhead.symm.trans hc)
    decide
  have hdollar : withDollar (canonicalName name) = canonicalName name := if_pos hhead
  have hlower : Text.lowerAscii (canonicalName name) = canonicalName name :=
    Text.lowerAscii_lowerAscii _
  rw [normalName_eq, canonicalName, String.toList_ofList, htrim, hdollar, hlower]

theorem toLower_eq_dollar_iff (c : Char) : c.toLower = '$' ↔ c = '$' := by
  have hdollar : '$'.toNat = 36 := rfl
  obtain h | ⟨hlo, hhi, h⟩ := Text.toLower_cases c
  · rw [h]
  · rw [← Char.toNat_inj, ← Char.toNat_inj, h]
    omega

theorem withDollar_lowerAscii (s : List Char) :
    withDollar (Text.lowerAscii s) = Text.lowerAscii (withDollar s) := by
  have hhead : (Text.lowerAscii s).head? = some '$' ↔ s.head? = some '$' := by
    cases s with
    | nil => rfl
    | cons c s => simpa [Text.lowerAscii] using toLower_eq_dollar_iff c
  by_cases h : s.head? = some '$'
  · rw [withDollar, if_pos (hhead.mpr h), withDollar, if_pos h]
  · rw [withDollar, if_neg (fun h' => h (hhead.mp h')), withDollar, if_neg h]
    rfl

/-- The case of letters does not count. -/
theorem normalName_congr {name name' : String}
    (h : Text.lowerAscii name'.toList = Text.lowerAscii name.toList) :
    normalName name' = normalName name := by
  have hlower (s : String) : canonicalName s =
      withDollar (Text.trimChars (Text.lowerAscii s.toList)) := by
    rw [canonicalName, Text.trimChars_lowerAscii, withDollar_lowerAscii]
  rw [normalName_eq_iff, hlower, hlower, h]

theorem normalName_append_blanks (name : String) {after : List Char}
    (h : ∀ c ∈ after, Text.isBlank c = true) :
    normalName (name ++ String.ofList after) = normalName name := by
  rw [normalName_eq_iff, canonicalName, canonicalName, String.toList_append, String.toList_ofList,
    Text.trimChars_append_blanks h]

theorem normalName_normalName (name : String) : normalName (normalName name) = normalName name := by
  rw [normalName_eq_iff, canonicalName_normalName]

end BracketScript
