import BracketScript.Proofs.Occurrences

/-! Texts as the bytes that encode them. What occurs among the bytes of a text occurs at a character of
it, so that the text can be cut off where a search by bytes has found something. -/

namespace BracketScript

namespace Text

variable {sought text s t : List Char} {b i j : Nat}

def bytes (s : List Char) : List UInt8 :=
  s.flatMap String.utf8EncodeChar

/-- The bytes of `sought` stand at byte `b` of `text`. -/
def BytesAt (sought text : List Char) (b : Nat) : Prop :=
  b ≤ (bytes text).length ∧ bytes sought <+: (bytes text).drop b

instance : Decidable (BytesAt sought text b) :=
  inferInstanceAs (Decidable (_ ∧ _))

def firstByte (sought text : List Char) : Option Nat :=
  (List.range ((bytes text).length + 1)).find? fun b => BytesAt sought text b

def lastByte (sought text : List Char) : Option Nat :=
  (List.range ((bytes text).length + 1)).reverse.find? fun b => BytesAt sought text b

/-- What stands before byte `b`, if `b` is not outside the text or inside a character. -/
def beforeByte? : Nat → List Char → Option (List Char)
  | 0, _ => some []
  | _ + 1, [] => none
  | b, c :: text =>
    if b < c.utf8Size then none else (beforeByte? (b - c.utf8Size) text).map (c :: ·)

theorem bytes_nil : bytes [] = [] :=
  rfl

theorem bytes_cons (c : Char) (s : List Char) :
    bytes (c :: s) = String.utf8EncodeChar c ++ bytes s :=
  rfl

theorem bytes_append (s t : List Char) : bytes (s ++ t) = bytes s ++ bytes t :=
  List.flatMap_append

theorem length_encode_pos (c : Char) : 0 < (String.utf8EncodeChar c).length :=
  List.length_pos_iff.mpr String.utf8EncodeChar_ne_nil

/-- The first character can be told from the bytes, whatever follows it. -/
theorem encode_append_inj {c d : Char} {rest rest' : List UInt8}
    (h : String.utf8EncodeChar c ++ rest = String.utf8EncodeChar d ++ rest') : c = d := by
  have hdecode (c : Char) (rest : List UInt8) :
      (String.utf8EncodeChar c ++ rest).toByteArray.utf8DecodeChar? 0 = some c := by
    rw [List.toByteArray_append]
    exact ByteArray.utf8DecodeChar?_utf8EncodeChar_append
  have hc := hdecode c rest
  rw [h, hdecode d rest'] at hc
  exact (Option.some.inj hc).symm

theorem bytes_prefix_iff : bytes s <+: bytes t ↔ s <+: t := by
  constructor
  · intro h
    induction s generalizing t with
    | nil => exact List.nil_prefix
    | cons c s ih =>
      obtain ⟨rest, hrest⟩ := h
      cases t with
      | nil =>
        have hlen := congrArg List.length hrest
        have hpos := length_encode_pos c
        simp only [bytes_cons, bytes_nil, List.length_append, List.length_nil] at hlen
        omega
      | cons d t =>
        rw [bytes_cons, bytes_cons, List.append_assoc] at hrest
        obtain rfl := encode_append_inj hrest
        exact List.cons_prefix_cons.mpr ⟨rfl, ih ⟨rest, List.append_cancel_left hrest⟩⟩
  · rintro ⟨rest, rfl⟩
    exact ⟨bytes rest, (bytes_append s rest).symm⟩

/-- The byte at which character `i` starts. -/
def offset (text : List Char) (i : Nat) : Nat :=
  (bytes (text.take i)).length

theorem offset_zero : offset text 0 = 0 := by
  simp [offset, bytes]

theorem offset_succ (c : Char) :
    offset (c :: text) (i + 1) = (String.utf8EncodeChar c).length + offset text i := by
  rw [offset, List.take_succ_cons, bytes_cons, List.length_append]
  rfl

theorem offset_length : offset text text.length = (bytes text).length := by
  rw [offset, List.take_length]

theorem drop_offset (text : List Char) (i : Nat) :
    (bytes text).drop (offset text i) = bytes (text.drop i) := by
  have hsplit : bytes text = bytes (text.take i) ++ bytes (text.drop i) := by
    rw [← bytes_append, List.take_append_drop]
  rw [hsplit]
  exact List.drop_left

theorem offset_mono (h : i ≤ j) : offset text i ≤ offset text j := by
  have hsplit : text.take j = text.take i ++ (text.take j).drop i := by
    have htake := List.take_append_drop i (text.take j)
    rwa [List.take_take, Nat.min_eq_left h, eq_comm] at htake
  rw [offset, offset, hsplit, bytes_append, List.length_append]
  exact Nat.le_add_right _ _

theorem beforeByte?_offset (hi : i ≤ text.length) :
    beforeByte? (offset text i) text = some (text.take i) := by
  induction text generalizing i with
  | nil =>
    rw [Nat.le_zero.mp hi, offset_zero]
    rfl
  | cons c text ih =>
    cases i with
    | zero =>
      rw [offset_zero]
      rfl
    | succ i =>
      have hrest := ih (Nat.le_of_succ_le_succ hi)
      have hsize := String.length_utf8EncodeChar c
      have hpos := length_encode_pos c
      have hnot : ¬ offset (c :: text) (i + 1) < c.utf8Size := by
        rw [offset_succ]
        omega
      have hsub : offset (c :: text) (i + 1) - c.utf8Size = offset text i := by
        rw [offset_succ]
        omega
      have hne : offset (c :: text) (i + 1) ≠ 0 := by
        rw [offset_succ]
        omega
      rw [beforeByte?, if_neg hnot, hsub, hrest]
      · rfl
      · exact hne

example : beforeByte? 2 ['ñ', 'a'] = some ['ñ'] ∧ beforeByte? 1 ['ñ', 'a'] = none := by
  decide

theorem OccursAt.bytesAt (h : OccursAt sought text i) : BytesAt sought text (offset text i) := by
  refine ⟨?_, ?_⟩
  · rw [← offset_length]
    exact offset_mono h.1
  · rw [drop_offset]
    exact bytes_prefix_iff.mpr h.2

/-- Encodings do not start inside one another. -/
theorem BytesAt.exists_occursAt (h : BytesAt sought text b) (hs : sought ≠ []) :
    ∃ i, OccursAt sought text i ∧ offset text i = b := by
  obtain ⟨first, rest, rfl⟩ := List.exists_cons_of_ne_nil hs
  induction text generalizing b with
  | nil =>
    have hlen := h.2.length_le
    have hpos := length_encode_pos first
    simp only [bytes_cons, bytes_nil, List.length_append, List.drop_nil, List.length_nil] at hlen
    omega
  | cons c text ih =>
    obtain ⟨hb, hprefix⟩ := h
    by_cases hzero : b = 0
    · subst hzero
      exact ⟨0, occursAt_zero.mpr (bytes_prefix_iff.mp hprefix), offset_zero⟩
    by_cases hinside : b < (String.utf8EncodeChar c).length
    · -- the first byte of a character is none of those after the first
      have hpos := length_encode_pos first
      have hget : (String.utf8EncodeChar first)[0] = (String.utf8EncodeChar c)[b] := by
        obtain ⟨after, hafter⟩ := hprefix
        have hhead := congrArg (fun l : List UInt8 => l[0]?) hafter
        rw [List.getElem?_drop, Nat.add_zero, bytes_cons, bytes_cons, List.append_assoc,
          List.getElem?_append_left hpos, List.getElem?_append_left hinside,
          List.getElem?_eq_getElem hpos, List.getElem?_eq_getElem hinside] at hhead
        exact Option.some.inj hhead
      have hfirst : (String.utf8EncodeChar first)[0].IsUTF8FirstByte :=
        UInt8.isUTF8FirstByte_getElem_zero_utf8EncodeChar
      rw [hget, UInt8.isUTF8FirstByte_getElem_utf8EncodeChar] at hfirst
      exact absurd hfirst hzero
    · have hle := Nat.le_of_not_lt hinside
      have hdrop : (bytes (c :: text)).drop b =
          (bytes text).drop (b - (String.utf8EncodeChar c).length) := by
        rw [bytes_cons, List.drop_append, List.drop_eq_nil_of_le hle, List.nil_append]
      have hrest : BytesAt (first :: rest) text (b - (String.utf8EncodeChar c).length) := by
        rw [bytes_cons, List.length_append] at hb
        rw [hdrop] at hprefix
        exact ⟨by omega, hprefix⟩
      obtain ⟨i, hi, hoffset⟩ := ih hrest
      refine ⟨i + 1, (occursAt_succ c).mpr hi, ?_⟩
      rw [offset_succ, hoffset]
      omega

theorem bytesAt_nil : BytesAt [] text b ↔ b ≤ (bytes text).length := by
  simp [BytesAt, bytes_nil]

/-- A search through a list in order finds an element that comes before all others with the
property. -/
theorem find?_cases {p : Nat → Prop} [DecidablePred p] {r : Nat → Nat → Prop} {l : List Nat}
    (h : l.Pairwise r) :
    (∃ b ∈ l, l.find? p = some b ∧ p b ∧ ∀ j ∈ l, p j → j = b ∨ r b j) ∨
      (l.find? p = none ∧ ∀ j ∈ l, ¬ p j) := by
  induction h with
  | nil => exact .inr ⟨rfl, by simp⟩
  | @cons a l ha _ ih =>
    by_cases hp : p a
    · refine .inl ⟨a, List.mem_cons_self, by simp [hp], hp, fun j hj _ => ?_⟩
      rcases List.mem_cons.mp hj with rfl | hj
      · exact .inl rfl
      · exact .inr (ha j hj)
    obtain ⟨b, hb, hfind, hpb, hbefore⟩ | ⟨hfind, hnone⟩ := ih
    · refine .inl ⟨b, List.mem_cons_of_mem a hb, by simp [hp, hfind], hpb, fun j hj hpj => ?_⟩
      rcases List.mem_cons.mp hj with rfl | hj
      · exact absurd hpj hp
      · exact hbefore j hj hpj
    · refine .inr ⟨by simp [hp, hfind], List.forall_mem_cons.mpr ⟨hp, hnone⟩⟩

theorem firstByte_cases (sought text : List Char) :
    (∃ b, firstByte sought text = some b ∧ IsLeast {b | BytesAt sought text b} b) ∨
      (firstByte sought text = none ∧ ∀ b, ¬ BytesAt sought text b) := by
  have hmem {b : Nat} (h : BytesAt sought text b) :
      b ∈ List.range ((bytes text).length + 1) := List.mem_range.mpr (Nat.lt_succ_of_le h.1)
  obtain ⟨b, -, hfind, hb, hleast⟩ | ⟨hfind, hnone⟩ :=
    find?_cases (p := BytesAt sought text) List.pairwise_lt_range
  · refine .inl ⟨b, hfind, hb, fun j hj => ?_⟩
    rcases hleast j (hmem hj) hj with rfl | hlt
    · exact Nat.le_refl j
    · exact Nat.le_of_lt hlt
  · exact .inr ⟨hfind, fun b hb => hnone b (hmem hb) hb⟩

theorem lastByte_cases (sought text : List Char) :
    (∃ b, lastByte sought text = some b ∧ IsGreatest {b | BytesAt sought text b} b) ∨
      (lastByte sought text = none ∧ ∀ b, ¬ BytesAt sought text b) := by
  have hmem {b : Nat} (h : BytesAt sought text b) :
      b ∈ (List.range ((bytes text).length + 1)).reverse :=
    List.mem_reverse.mpr (List.mem_range.mpr (Nat.lt_succ_of_le h.1))
  obtain ⟨b, -, hfind, hb, hgreatest⟩ | ⟨hfind, hnone⟩ :=
    find?_cases (p := BytesAt sought text) (List.pairwise_reverse.mpr List.pairwise_lt_range)
  · refine .inl ⟨b, hfind, hb, fun j hj => ?_⟩
    rcases hgreatest j (hmem hj) hj with rfl | hlt
    · exact Nat.le_refl j
    · exact Nat.le_of_lt hlt
  · exact .inr ⟨hfind, fun b hb => hnone b (hmem hb) hb⟩

theorem isLeast_bytesAt (h : IsLeast {i | OccursAt sought text i} i) :
    IsLeast {b | BytesAt sought text b} (offset text i) := by
  refine ⟨OccursAt.bytesAt h.1, fun b hb => ?_⟩
  by_cases hs : sought = []
  · subst hs
    have hzero : i = 0 := Nat.le_zero.mp (h.2 (occursAt_zero.mpr List.nil_prefix))
    rw [hzero, offset_zero]
    exact Nat.zero_le b
  · obtain ⟨j, hj, rfl⟩ := BytesAt.exists_occursAt hb hs
    exact offset_mono (h.2 hj)

theorem isGreatest_bytesAt (h : IsGreatest {i | OccursAt sought text i} i) :
    IsGreatest {b | BytesAt sought text b} (offset text i) := by
  refine ⟨OccursAt.bytesAt h.1, fun b hb => ?_⟩
  by_cases hs : sought = []
  · subst hs
    have hend : OccursAt [] text text.length := ⟨Nat.le_refl _, List.nil_prefix⟩
    have hlength : i = text.length := Nat.le_antisymm h.1.1 (h.2 hend)
    rw [hlength, offset_length]
    exact bytesAt_nil.mp hb
  · obtain ⟨j, hj, rfl⟩ := BytesAt.exists_occursAt hb hs
    exact offset_mono (h.2 hj)

theorem not_bytesAt (h : ¬ sought <:+: text) : ¬ BytesAt sought text b := by
  intro hb
  have hs : sought ≠ [] := by
    rintro rfl
    exact h List.nil_infix
  obtain ⟨i, hi, -⟩ := hb.exists_occursAt hs
  exact h (exists_occursAt.mp ⟨i, hi⟩)

theorem firstByte_eq (sought text : List Char) :
    firstByte sought text = (indexOf sought text).map (offset text) := by
  obtain ⟨i, hi, hleast⟩ | ⟨hi, hnot⟩ := indexOf_cases sought text <;>
    obtain ⟨b, hb, hbyte⟩ | ⟨hb, hnone⟩ := firstByte_cases sought text <;>
    rw [hi, hb]
  · exact congrArg some (hbyte.unique (isLeast_bytesAt hleast))
  · exact absurd (isLeast_bytesAt hleast).1 (hnone _)
  · exact absurd hbyte.1 (not_bytesAt hnot)
  · rfl

theorem lastByte_eq (sought text : List Char) :
    lastByte sought text = (lastIndexOf sought text).map (offset text) := by
  obtain ⟨i, hi, hgreatest⟩ | ⟨hi, hnot⟩ := lastIndexOf_cases sought text <;>
    obtain ⟨b, hb, hbyte⟩ | ⟨hb, hnone⟩ := lastByte_cases sought text <;>
    rw [hi, hb]
  · exact congrArg some (hbyte.unique (isGreatest_bytesAt hgreatest))
  · exact absurd (isGreatest_bytesAt hgreatest).1 (hnone _)
  · exact absurd hbyte.1 (not_bytesAt hnot)
  · rfl

end Text

end BracketScript
