import BracketScript.Proofs.Occurrences

/-! The parts of a text between the occurrences of a separator, and what comes of the text when the
first of these occurrences are replaced. -/

namespace BracketScript

namespace Text

/-- Cut at the leftmost occurrence of the separator, then so on in what follows it. -/
inductive Splits (separator : List Char) : List Char → List (List Char) → Prop
  | whole {text : List Char} (h : ¬ separator <:+: text) : Splits separator text [text]
  | cut {part rest : List Char} {parts : List (List Char)}
      (h : ∀ i < part.length, ¬ OccursAt separator (part ++ separator ++ rest) i)
      (hrest : Splits separator rest parts) :
      Splits separator (part ++ separator ++ rest) (part :: parts)

variable {separator replacement text part rest : List Char} {parts : List (List Char)}

theorem occursAt_length : OccursAt separator (part ++ separator ++ rest) part.length := by
  simp [OccursAt]

theorem cut_eq_none (h : ¬ separator <:+: text) : Text.cut separator text = none := by
  obtain ⟨i, -, hleast⟩ | ⟨hnone, -⟩ := indexOf_cases separator text
  · exact absurd (exists_occursAt.mp ⟨i, hleast.1⟩) h
  · simp [Text.cut, hnone]

theorem cut_eq_some (h : ∀ i < part.length, ¬ OccursAt separator (part ++ separator ++ rest) i) :
    Text.cut separator (part ++ separator ++ rest) = some (part, rest) := by
  obtain ⟨i, hi, hleast⟩ | ⟨-, hnot⟩ := indexOf_cases separator (part ++ separator ++ rest)
  · have hle : i ≤ part.length := hleast.2 occursAt_length
    have hge : ¬ i < part.length := fun hlt => h i hlt hleast.1
    have hlength : i = part.length := by omega
    have hafter : (part ++ separator).length = part.length + separator.length := by simp
    rw [Text.cut, hi, Option.map_some, hlength, ← hafter, List.drop_left, List.append_assoc,
      List.take_left]
  · exact absurd ⟨part, rest, rfl⟩ hnot

theorem length_rest_lt (hs : separator ≠ []) :
    rest.length < (part ++ separator ++ rest).length := by
  have hpos := List.length_pos_iff.mpr hs
  simp only [List.length_append]
  omega

theorem exists_splits (hs : separator ≠ []) (text : List Char) :
    ∃ parts, Splits separator text parts := by
  induction hn : text.length using Nat.strong_induction_on generalizing text with
  | _ n ih =>
    obtain ⟨i, -, hleast⟩ | ⟨-, hnot⟩ := indexOf_cases separator text
    · obtain ⟨rest, hrest⟩ := hleast.1.2
      have htext : text.take i ++ separator ++ rest = text := by
        rw [List.append_assoc, hrest, List.take_append_drop]
      have hlt : rest.length < n := by
        rw [← hn, ← htext]
        exact length_rest_lt hs
      obtain ⟨parts, hparts⟩ := ih rest.length hlt rest rfl
      have hleft : ∀ j < (text.take i).length,
          ¬ OccursAt separator (text.take i ++ separator ++ rest) j := by
        intro j hj hoccurs
        rw [htext] at hoccurs
        have hij : i ≤ j := hleast.2 hoccurs
        have hi : (text.take i).length ≤ i := List.length_take_le i text
        omega
      have hsplits := Splits.cut hleft hparts
      rw [htext] at hsplits
      exact ⟨text.take i :: parts, hsplits⟩
    · exact ⟨[text], .whole hnot⟩

theorem replaceOccurrences_whole (h : ¬ separator <:+: text) (count : Option Nat) :
    replaceOccurrences separator replacement count text = text := by
  rw [replaceOccurrences, cut_eq_none h]
  simp

theorem replaceOccurrences_cut (hs : separator ≠ [])
    (h : ∀ i < part.length, ¬ OccursAt separator (part ++ separator ++ rest) i) {count : Option Nat}
    (hcount : count ≠ some 0) :
    replaceOccurrences separator replacement count (part ++ separator ++ rest) =
      part ++ replacement ++ replaceOccurrences separator replacement (count.map (· - 1)) rest := by
  rw [replaceOccurrences, if_neg hcount, cut_eq_some h]
  exact if_pos (length_rest_lt hs)

/-- The parts there are when only the first `k` separators count as such. -/
def regroup (separator : List Char) (k : Nat) (parts : List (List Char)) : List (List Char) :=
  parts.take k ++ [separator.intercalate (parts.drop k)]

theorem regroup_ne_nil (separator : List Char) (k : Nat) (parts : List (List Char)) :
    regroup separator k parts ≠ [] := by
  simp [regroup]

theorem regroup_zero (separator : List Char) (parts : List (List Char)) :
    regroup separator 0 parts = [separator.intercalate parts] :=
  rfl

theorem regroup_cons_succ (separator : List Char) (k : Nat) (part : List Char)
    (parts : List (List Char)) :
    regroup separator (k + 1) (part :: parts) = part :: regroup separator k parts :=
  rfl

theorem regroup_all (h : parts ≠ []) (separator : List Char) :
    regroup separator (parts.length - 1) parts = parts := by
  have hlast : separator.intercalate (parts.drop (parts.length - 1)) = parts.getLast h := by
    simp [List.drop_length_sub_one h]
  rw [regroup, hlast, ← List.dropLast_eq_take, List.dropLast_append_getLast]

namespace Splits

theorem ne_nil (h : Splits separator text parts) : parts ≠ [] := by
  cases h <;> simp

theorem intercalate_eq (h : Splits separator text parts) : separator.intercalate parts = text := by
  induction h with
  | whole h => simp
  | cut h hrest ih => rw [List.intercalate_cons_of_ne_nil hrest.ne_nil, ih, List.append_assoc]

/-- An occurrence inside of a part would be one further to the left. -/
theorem not_infix (hs : separator ≠ []) (h : Splits separator text parts) :
    ∀ part ∈ parts, ¬ separator <:+: part := by
  induction h with
  | whole h => simpa using h
  | @cut part rest parts h hrest ih =>
    intro p hp hinfix
    rcases List.mem_cons.mp hp with rfl | hp
    · obtain ⟨i, hi⟩ := exists_occursAt.mpr hinfix
      have hpos := List.length_pos_iff.mpr hs
      have hle := hi.add_length_le
      have hoccurs := hi.append (separator ++ rest)
      rw [← List.append_assoc] at hoccurs
      exact h i (by omega) hoccurs
    · exact ih p hp hinfix

theorem splitOn_eq (hs : separator ≠ []) (h : Splits separator text parts) :
    splitOn separator text = parts := by
  induction h with
  | whole h => rw [splitOn, cut_eq_none h]
  | cut h hrest ih =>
    rw [splitOn, cut_eq_some h]
    simp only [length_rest_lt hs, if_true, ih]

theorem replaceOccurrences_none (hs : separator ≠ []) (h : Splits separator text parts) :
    replaceOccurrences separator replacement none text = replacement.intercalate parts := by
  induction h with
  | whole h => simp [replaceOccurrences_whole h]
  | cut h hrest ih =>
    rw [replaceOccurrences_cut hs h (by simp), List.intercalate_cons_of_ne_nil hrest.ne_nil,
      Option.map_none, ih]

theorem replaceOccurrences_some (hs : separator ≠ []) (h : Splits separator text parts) (n : Nat) :
    replaceOccurrences separator replacement (some n) text =
      replacement.intercalate (regroup separator (min n (parts.length - 1)) parts) := by
  induction h generalizing n with
  | whole h => simp [replaceOccurrences_whole h, regroup]
  | @cut part rest parts h hrest ih =>
    cases n with
    | zero =>
      have htext := (Splits.cut h hrest).intercalate_eq
      rw [Nat.zero_min, regroup_zero, htext, replaceOccurrences, if_pos rfl]
      simp
    | succ n =>
      -- The cut takes one off the count and one part off the parts.
      have hpos := List.length_pos_iff.mpr hrest.ne_nil
      have hcount : min (n + 1) ((part :: parts).length - 1) = min n (parts.length - 1) + 1 := by
        simp only [List.length_cons]
        omega
      rw [hcount, regroup_cons_succ, List.intercalate_cons_of_ne_nil (regroup_ne_nil _ _ _), ← ih n,
        replaceOccurrences_cut hs h (by simp), Option.map_some, Nat.add_sub_cancel]

end Splits

theorem splits_iff (hs : separator ≠ []) :
    Splits separator text parts ↔ parts = splitOn separator text := by
  constructor
  · intro h
    exact (h.splitOn_eq hs).symm
  · rintro rfl
    obtain ⟨parts, h⟩ := exists_splits hs text
    rwa [h.splitOn_eq hs]

theorem insertAtBoundaries_nil (insertion : List Char) (count : Option Nat) :
    insertAtBoundaries insertion count [] = if ∀ n ∈ count, 0 < n then insertion else [] := by
  match count with
  | none => simp [insertAtBoundaries]
  | some 0 => simp [insertAtBoundaries]
  | some (n + 1) => simp [insertAtBoundaries]

theorem insertAtBoundaries_cons (insertion : List Char) (count : Option Nat) (c : Char)
    (text : List Char) :
    insertAtBoundaries insertion count (c :: text) =
      (if ∀ n ∈ count, 0 < n then insertion else []) ++
        c :: insertAtBoundaries insertion (count.map (· - 1)) text := by
  match count with
  | none => simp [insertAtBoundaries]
  | some 0 => simp [insertAtBoundaries]
  | some (n + 1) => simp [insertAtBoundaries]

theorem insertAtBoundaries_eq (insertion text : List Char) (count : Option Nat) :
    insertAtBoundaries insertion count text =
      (List.range (text.length + 1)).flatMap fun i =>
        (if ∀ n ∈ count, i < n then insertion else []) ++ text[i]?.toList := by
  induction text generalizing count with
  | nil => simp [insertAtBoundaries_nil, List.range_succ]
  | cons c text ih =>
    have hcount (i : Nat) : (∀ n ∈ count.map (· - 1), i < n) ↔ ∀ n ∈ count, i + 1 < n := by
      simp only [Option.mem_def, Option.map_eq_some_iff, forall_exists_index, and_imp,
        forall_apply_eq_imp_iff₂]
      exact forall₂_congr fun n _ => by omega
    have hrange : List.range (text.length + 1 + 1) =
        0 :: (List.range (text.length + 1)).map Nat.succ := List.range_succ_eq_map
    rw [insertAtBoundaries_cons, ih, List.length_cons, hrange, List.flatMap_cons, List.flatMap_map]
    simp only [hcount, List.getElem?_cons_zero, List.getElem?_cons_succ, Option.toList_some,
      List.append_assoc, List.singleton_append]

theorem replace_of_ne_nil (hs : separator ≠ []) (replacement : List Char) (count : Option Nat)
    (text : List Char) :
    replace separator replacement count text =
      replaceOccurrences separator replacement count text := by
  simp [replace, hs]

theorem replace_zero (separator replacement text : List Char) :
    replace separator replacement (some 0) text = text := by
  by_cases hs : separator = []
  · simp [replace, hs, insertAtBoundaries]
  · rw [replace_of_ne_nil hs, replaceOccurrences, if_pos rfl]

theorem intercalate_nil_singletons (text : List Char) :
    [].intercalate (text.map fun c => [c]) = text := by
  induction text with
  | nil => rfl
  | cons c text ih =>
    by_cases ht : text = []
    · simp [ht]
    · rw [List.map_cons, List.intercalate_cons_of_ne_nil (by simpa using ht), ih]
      simp

end Text

namespace Library

open Text

theorem exists_parts (text separator : List Char) :
    ∃ parts : List (List Char),
      splitText text separator = parts.map (fun part => .text (String.ofList part)) ∧
      separator.intercalate parts = text ∧
      (separator = [] → parts = text.map fun c => [c]) ∧
      (separator ≠ [] → Splits separator text parts) := by
  by_cases hs : separator = []
  · refine ⟨text.map fun c => [c], by simp [splitText, hs], ?_, fun _ => rfl, fun h => absurd hs h⟩
    rw [hs, intercalate_nil_singletons]
  · obtain ⟨parts, h⟩ := exists_splits hs text
    refine ⟨parts, ?_, h.intercalate_eq, fun hnil => absurd hnil hs, fun _ => h⟩
    simp [splitText, hs, h.splitOn_eq hs]

end Library

open Builtin Text in
/-- Replacing puts another text between the parts that splitting finds, as far as the count goes. -/
theorem split_replace_agree (v w : Value) :
    ∃ parts : List (List Char),
      split.Gives [v, w] (.list (parts.map fun part => .text (String.ofList part))) ∧
      w.chars.intercalate parts = v.chars ∧
      (w.chars = [] → parts = v.chars.map fun c => [c]) ∧
      (w.chars ≠ [] → (∀ others, Splits w.chars v.chars others ↔ others = parts) ∧
        ∀ part ∈ parts, ¬ w.chars <:+: part) ∧
      ∀ (u : Value) (values : List Value) (count : Option Nat), Counts values count →
        ∃ out : List Char,
          replaceText.Gives (v :: w :: u :: values) (.text (String.ofList out)) ∧
          (w.chars ≠ [] → count = none → out = u.chars.intercalate parts) ∧
          (w.chars ≠ [] → ∀ n, count = some n →
            out = u.chars.intercalate (regroup w.chars (min n (parts.length - 1)) parts) ∧
            (parts.length - 1 ≤ n → out = u.chars.intercalate parts)) ∧
          (count = some 0 → out = v.chars) ∧
          (w.chars = [] → out = (List.range (v.chars.length + 1)).flatMap fun i =>
            (if ∀ n ∈ count, i < n then u.chars else []) ++ v.chars[i]?.toList) := by
  obtain ⟨parts, hsplit, hjoin, hsingle, hsplits⟩ := Library.exists_parts v.chars w.chars
  refine ⟨parts, ?_, hjoin, hsingle, ?_, ?_⟩
  · have hgives := gives_ofTwoTexts (f := split) (g := fun s s' => .list (Library.splitText s s'))
      v w rfl fun _ _ _ => rfl
    rwa [hsplit] at hgives
  · intro hs
    have h := hsplits hs
    refine ⟨fun others => ?_, h.not_infix hs⟩
    rw [splits_iff hs, h.splitOn_eq hs]
  · intro u values count hcount
    refine ⟨_, gives_replaceText v w u hcount, ?_, ?_, ?_, ?_⟩
    · rintro hs rfl
      rw [replace_of_ne_nil hs, (hsplits hs).replaceOccurrences_none hs]
    · rintro hs n rfl
      rw [replace_of_ne_nil hs, (hsplits hs).replaceOccurrences_some hs]
      refine ⟨rfl, fun hn => ?_⟩
      rw [Nat.min_eq_right hn, regroup_all (hsplits hs).ne_nil]
    · rintro rfl
      exact replace_zero w.chars u.chars v.chars
    · intro hs
      rw [replace, if_pos (by simp [hs]), insertAtBoundaries_eq]

end BracketScript
