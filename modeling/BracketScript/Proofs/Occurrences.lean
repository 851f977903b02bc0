import BracketScript.Proofs.Application

/-! Where one text occurs in another, counted in characters, and what the functions that search for it
say about that. -/

namespace BracketScript

namespace Text

/-- The text without its first `i` characters starts with `sought`. -/
def OccursAt (sought text : List Char) (i : Nat) : Prop :=
  i ≤ text.length ∧ sought <+: text.drop i

variable {sought text : List Char} {i : Nat}

theorem occursAt_zero : OccursAt sought text 0 ↔ sought <+: text := by
  simp [OccursAt]

theorem occursAt_nil : OccursAt sought [] i ↔ sought = [] ∧ i = 0 := by
  simp [OccursAt, and_comm]

@[simp] theorem occursAt_succ (c : Char) :
    OccursAt sought (c :: text) (i + 1) ↔ OccursAt sought text i := by
  simp [OccursAt]

theorem OccursAt.add_length_le (h : OccursAt sought text i) : i + sought.length ≤ text.length := by
  have hle := h.2.length_le
  have hi := h.1
  rw [List.length_drop] at hle
  omega

theorem OccursAt.append (h : OccursAt sought text i) (rest : List Char) :
    OccursAt sought (text ++ rest) i := by
  refine ⟨Nat.le_trans h.1 (by simp), ?_⟩
  rw [List.drop_append_of_le_length h.1]
  exact h.2.trans (List.prefix_append _ _)

theorem exists_occursAt : (∃ i, OccursAt sought text i) ↔ sought <:+: text := by
  constructor
  · rintro ⟨i, -, h⟩
    exact h.isInfix.trans (List.drop_suffix i text).isInfix
  · rintro ⟨before, after, rfl⟩
    refine ⟨before.length, by simp, ?_⟩
    rw [List.append_assoc, List.drop_left]
    exact List.prefix_append _ _

theorem OccursAt.getElem? (h : OccursAt sought text i) {j : Nat} (hj : j < sought.length) :
    text[i + j]? = some sought[j] := by
  obtain ⟨after, hafter⟩ := h.2
  rw [← List.getElem?_drop, ← hafter, List.getElem?_append_left hj, List.getElem?_eq_getElem hj]

/-- What `indexOf` finds is the least place, and where it finds nothing there is none. -/
theorem indexOf_cases (sought text : List Char) :
    (∃ i, indexOf sought text = some i ∧ IsLeast {i | OccursAt sought text i} i) ∨
      (indexOf sought text = none ∧ ¬ sought <:+: text) := by
  induction text with
  | nil =>
    by_cases hs : sought = []
    · exact .inl ⟨0, by simp [indexOf, hs], occursAt_nil.mpr ⟨hs, rfl⟩, fun i _ => Nat.zero_le i⟩
    · exact .inr ⟨by simp [indexOf, hs], by simpa using hs⟩
  | cons c text ih =>
    by_cases hp : sought <+: c :: text
    · refine .inl ⟨0, by simp [indexOf, hp], occursAt_zero.mpr hp, fun i _ => Nat.zero_le i⟩
    obtain ⟨i, hi, hleast⟩ | ⟨hnone, hnot⟩ := ih
    · refine .inl ⟨i + 1, by simp [indexOf, hp, hi], (occursAt_succ c).mpr hleast.1, ?_⟩
      intro j hj
      cases j with
      | zero => exact absurd (occursAt_zero.mp hj) hp
      | succ j => exact Nat.succ_le_succ (hleast.2 ((occursAt_succ c).mp hj))
    · refine .inr ⟨by simp [indexOf, hp, hnone], fun h => ?_⟩
      rcases List.infix_cons_iff.mp h with h | h
      · exact hp h
      · exact hnot h

theorem lastIndexOf_cases (sought text : List Char) :
    (∃ i, lastIndexOf sought text = some i ∧ IsGreatest {i | OccursAt sought text i} i) ∨
      (lastIndexOf sought text = none ∧ ¬ sought <:+: text) := by
  induction text with
  | nil =>
    by_cases hs : sought = []
    · refine .inl ⟨0, by simp [lastIndexOf, hs], occursAt_nil.mpr ⟨hs, rfl⟩, fun i hi => ?_⟩
      exact Nat.le_of_eq (occursAt_nil.mp hi).2
    · exact .inr ⟨by simp [lastIndexOf, hs], by simpa using hs⟩
  | cons c text ih =>
    obtain ⟨i, hi, hgreatest⟩ | ⟨hnone, hnot⟩ := ih
    · refine .inl ⟨i + 1, by simp [lastIndexOf, hi], (occursAt_succ c).mpr hgreatest.1, ?_⟩
      intro j hj
      cases j with
      | zero => exact Nat.zero_le _
      | succ j => exact Nat.succ_le_succ (hgreatest.2 ((occursAt_succ c).mp hj))
    by_cases hp : sought <+: c :: text
    · refine .inl ⟨0, by simp [lastIndexOf, hnone, hp], occursAt_zero.mpr hp, fun j hj => ?_⟩
      cases j with
      | zero => exact Nat.le_refl 0
      | succ j => exact absurd (exists_occursAt.mp ⟨j, (occursAt_succ c).mp hj⟩) hnot
    · refine .inr ⟨by simp [lastIndexOf, hnone, hp], fun h => ?_⟩
      rcases List.infix_cons_iff.mp h with h | h
      · exact hp h
      · exact hnot h

instance : Decidable (OccursAt sought text i) :=
  inferInstanceAs (Decidable (_ ∧ _))

end Text

namespace Library

open Text (OccursAt)

variable {sought text : List Char}

def place (i : Option Nat) : Int64 :=
  match i with
  | some n => Int64.ofNat n
  | none => -1

theorem position_eq_place (i : Option Nat) : position i = .int (place i) := by
  cases i <;> rfl

theorem toInt_place_none : (place none).toInt = -1 := by
  decide

theorem toInt_place_some {i : Nat} (h : OccursAt sought text i) (hlen : text.length < 2 ^ 63) :
    (place (some i)).toInt = i :=
  Int64.toInt_ofNat_of_lt (Nat.lt_of_le_of_lt h.1 hlen)

/-- A number found at the occurrence `i` is not the one that says that there is none. -/
theorem place_spec {find : Option Nat} {P : Nat → Prop} (hP : ∀ i, P i → OccursAt sought text i)
    (hlen : text.length < 2 ^ 63)
    (hfind : (∃ i, find = some i ∧ P i) ∨ (find = none ∧ ¬ sought <:+: text)) :
    (sought <:+: text → ∃ i : Nat, (place find).toInt = i ∧ P i) ∧
      (place find = -1 ↔ ¬ sought <:+: text) ∧
      (0 ≤ (place find).toInt ↔ sought <:+: text) := by
  obtain ⟨i, rfl, hi⟩ | ⟨rfl, hnot⟩ := hfind
  · have hplace := toInt_place_some (hP i hi) hlen
    have hinfix : sought <:+: text := Text.exists_occursAt.mp ⟨i, hP i hi⟩
    have hne : place (some i) ≠ -1 := by
      intro h
      rw [h] at hplace
      have hneg : (-1 : Int64).toInt = -1 := by decide
      omega
    exact ⟨fun _ => ⟨i, hplace, hi⟩, by simp [hne, hinfix], by simp [hplace, hinfix]⟩
  · exact ⟨fun h => absurd h hnot, by simp [place, hnot], by simp [toInt_place_none, hnot]⟩

theorem charText_of_occursAt {i j : Nat} {c : Char} (h : OccursAt sought text i) (hj : 1 ≤ j)
    (hc : sought[j - 1]? = some c) : charText text ((i + j : Nat) : Int) = String.ofList [c] := by
  obtain ⟨hlt, hget⟩ := List.getElem?_eq_some_iff.mp hc
  have hpos : (1 : Int) ≤ ((i + j : Nat) : Int) := by omega
  have hindex : (((i + j : Nat) : Int) - 1).toNat = i + (j - 1) := by omega
  rw [charText, if_pos hpos, hindex, h.getElem? hlt, hget]
  rfl

theorem charText_outside {n : Int} (h : n < 1 ∨ (text.length : Int) < n) :
    charText text n = "" := by
  by_cases hn : 1 ≤ n
  · have hle : text.length ≤ (n - 1).toNat := by omega
    rw [charText, if_pos hn, List.getElem?_eq_none_iff.mpr hle]
    rfl
  · rw [charText, if_neg hn]

def first (sought text : List Char) : Int64 :=
  place (Text.indexOf sought text)

def last (sought text : List Char) : Int64 :=
  place (Text.lastIndexOf sought text)

theorem first_spec (sought : List Char) (hlen : text.length < 2 ^ 63) :
    (sought <:+: text → ∃ i : Nat, (first sought text).toInt = i ∧
      IsLeast {i | OccursAt sought text i} i) ∧
      (first sought text = -1 ↔ ¬ sought <:+: text) ∧
      (0 ≤ (first sought text).toInt ↔ sought <:+: text) :=
  place_spec (fun _ hi => hi.1) hlen (Text.indexOf_cases sought text)

theorem last_spec (sought : List Char) (hlen : text.length < 2 ^ 63) :
    (sought <:+: text → ∃ i : Nat, (last sought text).toInt = i ∧
      IsGreatest {i | OccursAt sought text i} i) ∧
      (last sought text = -1 ↔ ¬ sought <:+: text) ∧
      (0 ≤ (last sought text).toInt ↔ sought <:+: text) :=
  place_spec (fun _ hi => hi.1) hlen (Text.lastIndexOf_cases sought text)

theorem first_eq_zero_iff (hlen : text.length < 2 ^ 63) :
    first sought text = 0 ↔ sought <+: text := by
  constructor
  · intro hzero
    have hinfix : sought <:+: text := by
      rw [← (first_spec sought hlen).2.2, hzero]
      decide
    obtain ⟨i, hi, hleast⟩ := (first_spec sought hlen).1 hinfix
    have hi0 : i = 0 := by
      rw [hzero, Int64.toInt_zero] at hi
      omega
    subst hi0
    exact Text.occursAt_zero.mp hleast.1
  · intro hp
    obtain ⟨i, hi, hleast⟩ := (first_spec sought hlen).1 hp.isInfix
    have hi0 : i = 0 := Nat.le_zero.mp (hleast.2 (Text.occursAt_zero.mpr hp))
    rw [← Int64.toInt_inj, hi, hi0]
    rfl

theorem toInt_last_nil (hlen : text.length < 2 ^ 63) : (last [] text).toInt = text.length := by
  obtain ⟨j, hj, hgreatest⟩ := (last_spec [] hlen).1 List.nil_infix
  have hend : OccursAt [] text text.length := ⟨Nat.le_refl _, List.nil_prefix⟩
  rw [hj, Nat.le_antisymm hgreatest.1.1 (hgreatest.2 hend)]

theorem containsText_iff (sought text : List Char) :
    containsText text sought = true ↔ sought <:+: text := by
  obtain ⟨i, hi, hleast⟩ | ⟨hnone, hnot⟩ := Text.indexOf_cases sought text
  · simp [containsText, hi, Text.exists_occursAt.mp ⟨i, hleast.1⟩]
  · simp [containsText, hnone, hnot]

end Library

namespace Builtin

theorem gives_textIndexOf (v w : Value) :
    textIndexOf.Gives [v, w] (.int (Library.first w.chars v.chars)) := by
  have h := gives_ofTwoTexts (f := textIndexOf)
    (g := fun s s' => Library.position (Text.indexOf s' s)) v w rfl fun _ _ _ => rfl
  rwa [Library.position_eq_place] at h

theorem gives_textLastIndexOf (v w : Value) :
    textLastIndexOf.Gives [v, w] (.int (Library.last w.chars v.chars)) := by
  have h := gives_ofTwoTexts (f := textLastIndexOf)
    (g := fun s s' => Library.position (Text.lastIndexOf s' s)) v w rfl fun _ _ _ => rfl
  rwa [Library.position_eq_place] at h

theorem gives_startsWith (v w : Value) :
    startsWith.Gives [v, w] (.bool (w.chars.isPrefixOf v.chars)) :=
  gives_ofTwoTexts (f := startsWith) (g := fun s s' => .bool (s'.isPrefixOf s)) v w rfl
    fun _ _ _ => rfl

end Builtin

open Builtin Text in
/-- The searches count in characters and agree with each other. Places are numbers of 64 bits, which
is room enough for a text in memory. -/
theorem search_functions_agree (v : Value) (hlen : v.chars.length < 2 ^ 63) :
    ∃ first last : Value → Int64,
      (∀ w : Value,
        textIndexOf.Gives [v, w] (.int (first w)) ∧
        textLastIndexOf.Gives [v, w] (.int (last w)) ∧
        (w.chars <:+: v.chars → ∃ i j : Nat,
          (first w).toInt = i ∧ IsLeast {i | OccursAt w.chars v.chars i} i ∧
          (last w).toInt = j ∧ IsGreatest {i | OccursAt w.chars v.chars i} j) ∧
        (first w = -1 ↔ ¬ w.chars <:+: v.chars) ∧
        (last w = -1 ↔ ¬ w.chars <:+: v.chars) ∧
        (w.chars = [] → first w = 0 ∧ (last w).toInt = v.chars.length) ∧
        (∃ b, startsWith.Gives [v, w] (.bool b) ∧ (b = true ↔ first w = 0)) ∧
        ∀ (i j : Nat) (c : Char), OccursAt w.chars v.chars i → 1 ≤ j →
          w.chars[j - 1]? = some c → ∀ (u : Value) (n : Int64), u.integer? = some n →
            n.toInt = (i + j : Nat) → charAt.Gives [v, u] (.text (String.ofList [c]))) ∧
      (∀ ws : List Value, ws ≠ [] → ∃ b, checkContains.Gives (v :: ws) (.bool b) ∧
        (b = true ↔ ∃ w ∈ ws, 0 ≤ (first w).toInt)) ∧
      ∀ (u : Value) (n : Int64), u.integer? = some n →
        n.toInt < 1 ∨ (v.chars.length : Int) < n.toInt → charAt.Gives [v, u] (.text "") := by
  refine ⟨fun w => Library.first w.chars v.chars, fun w => Library.last w.chars v.chars, ?_, ?_, ?_⟩
  · intro w
    obtain ⟨hfirst, hnofirst, -⟩ := Library.first_spec w.chars hlen
    obtain ⟨hlast, hnolast, -⟩ := Library.last_spec w.chars hlen
    refine ⟨gives_textIndexOf v w, gives_textLastIndexOf v w, ?_, hnofirst, hnolast, ?_, ?_, ?_⟩
    · intro hinfix
      obtain ⟨i, hi, hleast⟩ := hfirst hinfix
      obtain ⟨j, hj, hgreatest⟩ := hlast hinfix
      exact ⟨i, j, hi, hleast, hj, hgreatest⟩
    · intro hnil
      have hp : w.chars <+: v.chars := by simp [hnil]
      refine ⟨(Library.first_eq_zero_iff hlen).mpr hp, ?_⟩
      simp only [hnil, Library.toInt_last_nil hlen]
    · refine ⟨_, gives_startsWith v w, ?_⟩
      rw [Library.first_eq_zero_iff hlen, List.isPrefixOf_iff_prefix]
    · intro i j c hi hj hc u n hn hsum
      have hgives := gives_charAt v u hn
      rwa [hsum, Library.charText_of_occursAt hi hj hc] at hgives
  · intro ws hws
    refine ⟨_, gives_checkContains v hws, ?_⟩
    simp only [List.any_eq_true, Library.containsText_iff, (Library.first_spec _ hlen).2.2]
  · intro u n hn hout
    have hgives := gives_charAt v u hn
    rwa [Library.charText_outside hout] at hgives

open Builtin in
/-- Occurrences that overlap, in a text with characters of several bytes. -/
theorem search_functions_agree_overlap :
    textIndexOf.Gives [.text "ñañaña", .text "aña"] (.int 1) ∧
      textLastIndexOf.Gives [.text "ñañaña", .text "aña"] (.int 3) ∧
      charAt.Gives [.text "ñañaña", .int 5] (.text "ñ") ∧
      charAt.Gives [.text "ñañaña", .int Int64.minValue] (.text "") := by
  have hlen : (Value.text "ñañaña").chars.length < 2 ^ 63 := by decide
  obtain ⟨first, last, hagree, -, hout⟩ := search_functions_agree (.text "ñañaña") hlen
  obtain ⟨hfirst, hlast, hplaces, -, -, -, -, hchar⟩ := hagree (.text "aña")
  obtain ⟨i, j, hi, hleast, hj, hgreatest⟩ := hplaces ⟨['ñ'], ['ñ', 'a'], by decide⟩
  have h1 : i = 1 := by
    have hle : i ≤ 1 := hleast.2 (by decide : Text.OccursAt _ _ 1)
    have h0 : i ≠ 0 := fun h0 => (by decide : ¬ Text.OccursAt _ _ 0) (h0 ▸ hleast.1)
    omega
  have h3 : j = 3 := by
    have hle := hgreatest.1.add_length_le
    have hge : 3 ≤ j := hgreatest.2 (by decide : Text.OccursAt _ _ 3)
    have hthree : (Value.text "aña").chars.length = 3 := by decide
    have hsix : (Value.text "ñañaña").chars.length = 6 := by decide
    omega
  subst h1 h3
  have hone : first (.text "aña") = 1 := Int64.toInt_inj.mp hi
  have hthree : last (.text "aña") = 3 := Int64.toInt_inj.mp hj
  rw [hone] at hfirst
  rw [hthree] at hlast
  have hsecond := hchar 3 2 'ñ' hgreatest.1 (by decide) (by decide) (.int 5) 5 rfl (by decide)
  have hbelow := hout (.int Int64.minValue) Int64.minValue rfl (by decide)
  exact ⟨hfirst, hlast, hsecond, hbelow⟩

end BracketScript
