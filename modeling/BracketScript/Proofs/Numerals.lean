import BracketScript.Comparison
import BracketScript.Proofs.NearestDoubles

/-! Which texts count as numbers. A scan with two flags accepts exactly plain decimal notation, and
what it accepts is read as the nearest double unless that is beyond the finite ones. -/

attribute [local instance (high)] instPowNat

namespace BracketScript

namespace Decimal

theorem foldl_digits (n : Nat) (s : List Char) :
    s.foldl (fun n c => 10 * n + digitValue c) n = n * 10 ^ s.length + value s := by
  induction s generalizing n with
  | nil => simp [value]
  | cons c s ih =>
    rw [value, List.foldl_cons, List.foldl_cons, ih, ih (10 * 0 + digitValue c), List.length_cons,
      Nat.pow_succ]
    ring

theorem value_append (s t : List Char) : value (s ++ t) = value s * 10 ^ t.length + value t := by
  rw [value, List.foldl_append, foldl_digits]
  rfl

end Decimal

/-- What stands in front of the digits of a number. -/
inductive Lead where
  | bare
  | plus
  | minus
deriving DecidableEq, Repr

namespace Lead

def chars : Lead → List Char
  | bare => []
  | plus => ['+']
  | minus => ['-']

def isMinus : Lead → Bool
  | minus => true
  | _ => false

end Lead

/-- Plain decimal notation: a sign or none, and digits with at most one point before, among or after
them. -/
structure Numeral where
  lead : Lead
  whole : List Char
  /-- The digits after the point, if there is a point. -/
  fraction? : Option (List Char)
  digits : ∀ c ∈ whole ++ fraction?.getD [], Decimal.isDigit c = true
  nonempty : whole ++ fraction?.getD [] ≠ []

namespace Numeral

variable (d : Numeral)

def fraction : List Char :=
  d.fraction?.getD []

/-- The digits and the point. -/
def unsigned : List Char :=
  d.whole ++ d.fraction?.elim [] ('.' :: ·)

def written : List Char :=
  d.lead.chars ++ d.unsigned

/-- The number that is written. -/
def denoted : ℚ :=
  Double.signed d.lead.isMinus
    (Decimal.value d.whole + Decimal.value d.fraction / 10 ^ d.fraction.length)

theorem digits_whole : ∀ c ∈ d.whole, Decimal.isDigit c = true :=
  fun c hc => d.digits c (List.mem_append_left _ hc)

theorem digits_fraction : ∀ c ∈ d.fraction, Decimal.isDigit c = true :=
  fun c hc => d.digits c (List.mem_append_right _ hc)

end Numeral

namespace Double

attribute [local irreducible] one limit unitExponent

/-- What the text of a number looks like without its sign. -/
theorem plainParts?_eq_some {s whole fraction : List Char} :
    plainParts? s = some (whole, fraction) ↔
      (∀ c ∈ whole ++ fraction, Decimal.isDigit c = true) ∧ whole ++ fraction ≠ [] ∧
        (s = whole ∧ fraction = [] ∨ s = whole ++ '.' :: fraction) := by
  have hsplit := List.takeWhile_append_dropWhile (p := Decimal.isDigit) (l := s)
  have htake : ∀ c ∈ s.takeWhile Decimal.isDigit, Decimal.isDigit c = true :=
    fun c hc => List.mem_takeWhile_imp hc
  constructor
  · intro h
    unfold plainParts? at h
    dsimp only at h
    split at h
    · rename_i hdrop
      split at h
      · exact absurd h nofun
      · rename_i hne
        obtain ⟨rfl, rfl⟩ := Prod.mk.inj (Option.some.inj h)
        rw [hdrop, List.append_nil] at hsplit
        refine ⟨by simpa using htake, by simpa using hne, .inl ⟨hsplit.symm, rfl⟩⟩
    · rename_i tail hdrop
      split at h
      · rename_i hc
        obtain ⟨rfl, rfl⟩ := Prod.mk.inj (Option.some.inj h)
        simp only [Bool.and_eq_true, List.all_eq_true, Bool.not_eq_true', Bool.and_eq_false_iff,
          List.isEmpty_eq_false_iff] at hc
        refine ⟨fun c hm => (List.mem_append.mp hm).elim (htake c) (hc.1 c), ?_, .inr ?_⟩
        · simpa [List.append_eq_nil_iff, -List.takeWhile_eq_nil_iff, imp_iff_not_or] using hc.2
        · rw [← hdrop, hsplit]
      · exact absurd h nofun
    · exact absurd h nofun
  · rintro ⟨hdigits, hne, ⟨rfl, rfl⟩ | rfl⟩
    · rw [List.append_nil] at hdigits hne
      have hempty : s.isEmpty = false := by simpa using hne
      simp [plainParts?, List.takeWhile_eq_self_iff.mpr hdigits,
        List.dropWhile_eq_nil_iff.mpr hdigits, hempty]
    · have hwhole : ∀ c ∈ whole, Decimal.isDigit c = true :=
        fun c hc => hdigits c (List.mem_append_left _ hc)
      have hfraction : ∀ c ∈ fraction, Decimal.isDigit c = true :=
        fun c hc => hdigits c (List.mem_append_right _ hc)
      have hpoint : Decimal.isDigit '.' = false := by decide
      have hempty : (whole.isEmpty && fraction.isEmpty) = false := by
        simpa [imp_iff_not_or] using hne
      simp [plainParts?, List.takeWhile_append_of_pos hwhole, List.dropWhile_append_of_pos hwhole,
        hpoint, hempty, List.all_eq_true.mpr hfraction]

/-- The scan for plain decimal notation after its sign. The flags say whether a digit has been seen
and whether a point has. -/
def scan (seenDigit seenPoint : Bool) : List Char → Bool
  | [] => seenDigit
  | c :: s =>
    if Decimal.isDigit c then scan true seenPoint s
    else if c == '.' && !seenPoint then scan seenDigit true s
    else false

theorem scan_after_point {seenDigit : Bool} {s : List Char} : scan seenDigit true s = true ↔
    (∀ c ∈ s, Decimal.isDigit c = true) ∧ (seenDigit = true ∨ s ≠ []) := by
  induction s generalizing seenDigit with
  | nil => simp [scan]
  | cons c s ih =>
    by_cases hc : Decimal.isDigit c = true
    · simp [scan, hc, ih]
    · simp [scan, hc]

/-- Digits with a point among them that start with no digit start with the point. -/
theorem starts_fraction {c : Char} {s whole fraction : List Char} (hc : ¬ Decimal.isDigit c = true)
    (hdigits : ∀ c ∈ whole ++ fraction, Decimal.isDigit c = true)
    (hs : c :: s = whole ∧ fraction = [] ∨ c :: s = whole ++ '.' :: fraction) :
    whole = [] ∧ c = '.' ∧ s = fraction := by
  cases whole with
  | nil =>
    rcases hs with ⟨hs, -⟩ | hs
    · exact absurd hs (List.cons_ne_nil _ _)
    · exact ⟨rfl, List.cons.inj hs⟩
  | cons a whole =>
    have hhead : c = a := hs.elim (fun h => (List.cons.inj h.1).1) fun h => (List.cons.inj h).1
    exact absurd (hhead ▸ hdigits a List.mem_cons_self) hc

theorem scan_before_point {seenDigit : Bool} {s : List Char} : scan seenDigit false s = true ↔
    ∃ whole fraction, (∀ c ∈ whole ++ fraction, Decimal.isDigit c = true) ∧
      (seenDigit = true ∨ whole ++ fraction ≠ []) ∧
        (s = whole ∧ fraction = [] ∨ s = whole ++ '.' :: fraction) := by
  induction s generalizing seenDigit with
  | nil => simp [scan]
  | cons c s ih =>
    by_cases hc : Decimal.isDigit c = true
    · rw [scan, if_pos hc, ih]
      constructor
      · rintro ⟨whole, fraction, hdigits, -, hs⟩
        refine ⟨c :: whole, fraction, ?_, .inr (List.cons_ne_nil _ _), ?_⟩
        · exact List.forall_mem_cons.mpr ⟨hc, hdigits⟩
        · exact hs.imp (fun h => ⟨by rw [h.1], h.2⟩) (fun h => by rw [h, List.cons_append])
      · rintro ⟨whole, fraction, hdigits, -, hs⟩
        cases whole with
        | nil =>
          rcases hs with ⟨hs, -⟩ | hs
          · exact absurd hs (List.cons_ne_nil _ _)
          · obtain ⟨rfl, -⟩ := List.cons.inj hs
            exact absurd hc (by decide)
        | cons a whole =>
          refine ⟨whole, fraction, (List.forall_mem_cons.mp hdigits).2, .inl rfl, ?_⟩
          exact hs.imp (fun h => ⟨(List.cons.inj h.1).2, h.2⟩) (fun h => (List.cons.inj h).2)
    · rw [scan, if_neg hc]
      by_cases hpoint : c = '.'
      · rw [if_pos (by simp [hpoint]), scan_after_point]
        constructor
        · exact fun h => ⟨[], s, h.1, h.2, .inr (by rw [hpoint, List.nil_append])⟩
        · rintro ⟨whole, fraction, hdigits, hsome, hs⟩
          obtain ⟨rfl, -, rfl⟩ := starts_fraction hc hdigits hs
          exact ⟨hdigits, hsome⟩
      · rw [if_neg (by simp [hpoint])]
        refine iff_of_false nofun ?_
        rintro ⟨whole, fraction, hdigits, -, hs⟩
        exact hpoint (starts_fraction hc hdigits hs).2.1

theorem scan_eq_isSome (s : List Char) : scan false false s = (plainParts? s).isSome := by
  rw [Bool.eq_iff_iff, scan_before_point, Option.isSome_iff_exists]
  simp only [Prod.exists, plainParts?_eq_some, Bool.false_eq_true, false_or]

theorem exists_lead (s : List Char) :
    ∃ lead : Lead, (sign s).1 = lead.isMinus ∧ s = lead.chars ++ (sign s).2 := by
  unfold sign
  split
  · exact ⟨.minus, rfl, rfl⟩
  · exact ⟨.plus, rfl, rfl⟩
  · exact ⟨.bare, rfl, rfl⟩

/-- Plain notation is read in the same way where an exponent would be allowed. -/
theorem readScientific?_of_scan {s : List Char} (h : scan false false (sign s).2 = true) :
    readScientific? s = readPlain? s := by
  rw [scan_eq_isSome, Option.isSome_iff_exists] at h
  obtain ⟨⟨whole, fraction⟩, hparts⟩ := h
  have hmark : ∀ c ∈ (sign s).2, (!isExponentMark c) = true := by
    intro c hc
    by_contra hm
    simp only [isExponentMark, Bool.not_eq_true, Bool.not_eq_false', Bool.or_eq_true,
      beq_iff_eq] at hm
    obtain ⟨hdigits, -, hs⟩ := plainParts?_eq_some.mp hparts
    have hc' : c ∈ whole ++ fraction ∨ c = '.' := by
      rcases hs with ⟨hs, -⟩ | hs
      · exact .inl (List.mem_append_left _ (hs ▸ hc))
      · rw [hs] at hc
        simpa [or_left_comm, or_comm, or_assoc] using hc
    rcases hc' with hc' | rfl
    · have := hdigits c hc'
      rcases hm with rfl | rfl <;> exact absurd this (by decide)
    · exact absurd hm (by decide)
  rw [readScientific?, readPlain?]
  simp only [List.takeWhile_eq_self_iff.mpr hmark, List.dropWhile_eq_nil_iff.mpr hmark, hparts,
    Option.map_some, ofScientific_eq_ofRatio]
  rfl

end Double

namespace Numeral

variable (d : Numeral)

theorem plainParts?_unsigned : Double.plainParts? d.unsigned = some (d.whole, d.fraction) := by
  rw [Double.plainParts?_eq_some]
  refine ⟨d.digits, d.nonempty, ?_⟩
  rw [unsigned, fraction]
  cases d.fraction? with
  | none => exact .inl ⟨List.append_nil _, rfl⟩
  | some fraction => exact .inr rfl

theorem exists_of_plainParts? {s whole fraction : List Char} (lead : Lead)
    (h : Double.plainParts? s = some (whole, fraction)) :
    ∃ d : Numeral, d.lead = lead ∧ d.unsigned = s := by
  obtain ⟨hdigits, hne, ⟨rfl, rfl⟩ | rfl⟩ := Double.plainParts?_eq_some.mp h
  · exact ⟨⟨lead, s, none, hdigits, hne⟩, rfl, List.append_nil s⟩
  · exact ⟨⟨lead, whole, some fraction, hdigits, hne⟩, rfl, rfl⟩

theorem exists_unsigned_eq_cons :
    ∃ c s, d.unsigned = c :: s ∧ (Decimal.isDigit c = true ∨ c = '.') := by
  have hd := d.digits
  have hne := d.nonempty
  rw [unsigned]
  cases hw : d.whole with
  | cons c whole =>
    exact ⟨c, _, rfl, .inl (d.digits_whole c (hw ▸ List.mem_cons_self))⟩
  | nil =>
    cases hf : d.fraction? with
    | none => exact absurd (by simp [hw, hf]) hne
    | some fraction => exact ⟨'.', fraction, rfl, .inr rfl⟩

theorem sign_written : Double.sign d.written = (d.lead.isMinus, d.unsigned) := by
  obtain ⟨c, s, hs, hc⟩ := d.exists_unsigned_eq_cons
  rw [written, hs]
  cases d.lead with
  | minus => rfl
  | plus => rfl
  | bare =>
    change Double.sign (c :: s) = _
    rw [Double.sign]
    · rfl
    · rintro rest ⟨rfl, -⟩
      exact absurd hc (by decide)
    · rintro rest ⟨rfl, -⟩
      exact absurd hc (by decide)

theorem readPlain?_written : Double.readPlain? d.written =
    some (Double.ofParts d.lead.isMinus d.whole d.fraction) := by
  rw [Double.readPlain?, d.sign_written]
  simp only [d.plainParts?_unsigned, Option.map_some]

/-- Only numerals are read. -/
theorem isSome_readPlain?_iff {s : List Char} :
    (Double.readPlain? s).isSome = true ↔ ∃ d : Numeral, d.written = s := by
  constructor
  · intro h
    rw [Double.readPlain?, Option.isSome_map, Option.isSome_iff_exists] at h
    obtain ⟨⟨whole, fraction⟩, h⟩ := h
    obtain ⟨lead, -, hs⟩ := Double.exists_lead s
    obtain ⟨d, rfl, hd⟩ := exists_of_plainParts? lead h
    exact ⟨d, by rw [written, hd, ← hs]⟩
  · rintro ⟨d, rfl⟩
    rw [d.readPlain?_written, Option.isSome_some]

section Denoted

attribute [local irreducible] Double.one Double.limit Double.unitExponent

open Double (one one_pos overflow)

/-- All digits as one number. -/
def mantissa : Nat :=
  Decimal.value (d.whole ++ d.fraction)

theorem ofParts_eq : Double.ofParts d.lead.isMinus d.whole d.fraction =
    Double.ofRatio d.lead.isMinus (d.mantissa * one) (10 ^ d.fraction.length) := rfl

theorem denoted_eq : d.denoted =
    Double.signed d.lead.isMinus (d.mantissa / 10 ^ d.fraction.length) := by
  have hpow : (10 : ℚ) ^ d.fraction.length ≠ 0 := pow_ne_zero _ (by norm_num)
  rw [denoted, mantissa, Decimal.value_append]
  push_cast
  rw [add_div, mul_div_cancel_right₀ _ hpow]

theorem denoted_eq_units : d.denoted = Double.signed d.lead.isMinus
    ((d.mantissa * one : Nat) / ((10 ^ d.fraction.length : Nat) * one)) := by
  have hone : (one : ℚ) ≠ 0 := by exact_mod_cast one_pos.ne'
  rw [d.denoted_eq]
  push_cast
  rw [mul_div_mul_right _ _ hone]

theorem lt_overflow_iff : d.mantissa * one < overflow * 10 ^ d.fraction.length ↔
    |d.denoted| < 2 ^ 1024 - 2 ^ 970 := by
  have hone : (0 : ℚ) < one := by exact_mod_cast one_pos
  have hpow : (0 : ℚ) < 10 ^ d.fraction.length := pow_pos (by norm_num) _
  have hpos : (0 : ℚ) ≤ d.mantissa / 10 ^ d.fraction.length := by positivity
  rw [d.denoted_eq, Double.abs_signed, abs_of_nonneg hpos, ← Double.overflow_div_one,
    div_lt_div_iff₀ hpow hone]
  norm_cast

theorem ofParts_of_lt (h : |d.denoted| < 2 ^ 1024 - 2 ^ 970) :
    ∃ units hu, Double.ofParts d.lead.isMinus d.whole d.fraction =
      .finite d.lead.isMinus units hu ∧
        (Double.finite d.lead.isMinus units hu).Nearest d.denoted := by
  have hten : 0 < 10 ^ d.fraction.length := Nat.pow_pos (by decide)
  have hround := (Double.roundUnits_lt_limit_iff hten).mpr (d.lt_overflow_iff.mpr h)
  refine ⟨_, Double.representable_roundUnits hround, ?_, ?_⟩
  · rw [d.ofParts_eq, Double.ofRatio, dif_pos hround]
  · rw [d.denoted_eq_units]
    exact Double.nearest_finite hten _ _

theorem ofParts_of_le (h : 2 ^ 1024 - 2 ^ 970 ≤ |d.denoted|) :
    Double.ofParts d.lead.isMinus d.whole d.fraction = .infinite d.lead.isMinus := by
  have hten : 0 < 10 ^ d.fraction.length := Nat.pow_pos (by decide)
  have hround := fun hlt => not_lt_of_ge h
    (d.lt_overflow_iff.mp ((Double.roundUnits_lt_limit_iff hten).mp hlt))
  rw [d.ofParts_eq, Double.ofRatio, dif_neg hround]

end Denoted

def signs : List Char :=
  ['+', '-']

theorem mem_written {c : Char} (h : c ∈ d.written) :
    Decimal.isDigit c = true ∨ c = '.' ∨ c ∈ signs := by
  rw [written, unsigned, List.mem_append, List.mem_append] at h
  rcases h with h | h | h
  · refine .inr (.inr ?_)
    cases hl : d.lead <;> rw [hl] at h <;> simp [Lead.chars] at h <;> simp [h, signs]
  · exact .inl (d.digits_whole c h)
  · have hd := d.digits_fraction c
    rw [fraction] at hd
    cases hf : d.fraction? with
    | none => simp [hf] at h
    | some fraction =>
      rw [hf] at h hd
      rcases List.mem_cons.mp h with rfl | h
      · exact .inr (.inl rfl)
      · exact .inl (hd h)

theorem count_eq_zero_of_digits {s : List Char} (h : ∀ c ∈ s, Decimal.isDigit c = true) :
    s.count '.' = 0 ∧ s.countP (signs.contains ·) = 0 := by
  refine ⟨List.count_eq_zero.mpr fun hm => absurd (h _ hm) (by decide), ?_⟩
  refine List.countP_eq_zero.mpr fun c hc hm => ?_
  have hdigit := h c hc
  rcases List.mem_cons.mp (List.contains_iff_mem.mp hm) with rfl | hm
  · exact absurd hdigit (by decide)
  · rw [List.mem_singleton.mp hm] at hdigit
    exact absurd hdigit (by decide)

theorem count_written :
    d.written.count '.' ≤ 1 ∧ d.written.countP (signs.contains ·) ≤ 1 := by
  have hwhole := count_eq_zero_of_digits d.digits_whole
  have hfraction := count_eq_zero_of_digits d.digits_fraction
  have hlead : d.lead.chars.count '.' = 0 ∧ d.lead.chars.countP (signs.contains ·) ≤ 1 := by
    cases d.lead <;> decide
  have hpoint : (d.fraction?.elim [] ('.' :: ·)).count '.' ≤ 1 ∧
      (d.fraction?.elim [] ('.' :: ·)).countP (signs.contains ·) = 0 := by
    rw [fraction] at hfraction
    cases hf : d.fraction? with
    | none => simp
    | some fraction =>
      rw [hf] at hfraction
      refine ⟨?_, ?_⟩
      · rw [Option.elim_some, List.count_cons_self]
        exact Nat.succ_le_succ (Nat.le_of_eq hfraction.1)
      · rw [Option.elim_some, List.countP_cons_of_neg (by decide)]
        exact hfraction.2
  rw [written, unsigned, List.count_append, List.count_append, List.countP_append,
    List.countP_append]
  omega

/-- A character that no numeral has, or more points or signs than one. -/
def Misspelt (s : List Char) : Prop :=
  (∃ c ∈ s, Decimal.isDigit c = false ∧ c ≠ '.' ∧ c ∉ signs) ∨ 1 < s.count '.' ∨
    1 < s.countP (signs.contains ·)

theorem written_ne_of_misspelt {s : List Char} (h : Misspelt s) : d.written ≠ s := by
  rintro rfl
  obtain ⟨hpoint, hsign⟩ := d.count_written
  rcases h with ⟨c, hc, hdigit, hne, hsigns⟩ | h | h
  · rcases d.mem_written hc with h | h | h
    · rw [hdigit] at h
      exact absurd h nofun
    · exact hne h
    · exact hsigns h
  · omega
  · omega

end Numeral

namespace Value

/-- No numeric view and no integer view, so that every comparison is one of texts. -/
def OnlyText (v : Value) : Prop :=
  v.number? = none ∧ v.integer? = none ∧ ∀ w : Value,
    v.equals w = (v.toText == w.toText) ∧ w.equals v = (w.toText == v.toText) ∧
      v.order? w = some (compareOfLessAndEq v.toText w.toText) ∧
        w.order? v = some (compareOfLessAndEq w.toText v.toText)

theorem onlyText_of_number? {v : Value} (h : v.number? = none) : v.OnlyText := by
  refine ⟨h, ?_, fun w => ?_⟩
  · unfold integer?
    split
    · exact absurd h nofun
    · rw [h]
      rfl
  · simp only [equals, order?, h]
    cases w.number? <;> simp

section Text

variable (s : String)

theorem number?_eq_of_scan : (text s).number? =
    if Double.scan false false (Double.sign (Text.trimChars s.toList)).2 then
      (Double.readScientific? (Text.trimChars s.toList)).filter Double.isFinite
    else none := by
  rw [number?]
  split
  · rename_i h
    rw [Double.readScientific?_of_scan h]
  · rename_i h
    rw [Double.scan_eq_isSome, Bool.not_eq_true, Option.isSome_eq_false_iff,
      Option.isNone_iff_eq_none] at h
    rw [Double.readPlain?]
    simp only [h, Option.map_none, Option.filter_none]

/-- A text has a numeric view just when it is a numeral, blanks around it aside, of a number that
does not overflow. The view is the double nearest to that number. -/
theorem number?_text :
    ((text s).number? =
      if Double.scan false false (Double.sign (Text.trimChars s.toList)).2 then
        (Double.readScientific? (Text.trimChars s.toList)).filter Double.isFinite
      else none) ∧
    (Double.scan false false (Double.sign (Text.trimChars s.toList)).2 = true ↔
      ∃ d : Numeral, d.written = Text.trimChars s.toList) ∧
    ((¬∃ d : Numeral, d.written = Text.trimChars s.toList) → (text s).OnlyText) ∧
    (∀ d : Numeral, d.written = Text.trimChars s.toList →
      (|d.denoted| < 2 ^ 1024 - 2 ^ 970 → ∃ units hu,
        (text s).number? = some (.finite d.lead.isMinus units hu) ∧
          (Double.finite d.lead.isMinus units hu).Nearest d.denoted) ∧
      (2 ^ 1024 - 2 ^ 970 ≤ |d.denoted| → (text s).OnlyText)) ∧
    (Numeral.Misspelt (Text.trimChars s.toList) → (text s).OnlyText) := by
  have hnone : (¬∃ d : Numeral, d.written = Text.trimChars s.toList) → (text s).OnlyText := by
    intro h
    rw [← Numeral.isSome_readPlain?_iff, Bool.not_eq_true, Option.isSome_eq_false_iff,
      Option.isNone_iff_eq_none] at h
    refine onlyText_of_number? ?_
    rw [number?, h, Option.filter_none]
  refine ⟨number?_eq_of_scan s, ?_, hnone, fun d hd => ⟨fun hlt => ?_, fun hle => ?_⟩, fun h => hnone ?_⟩
  · rw [← Numeral.isSome_readPlain?_iff, Double.scan_eq_isSome, Double.readPlain?,
      Option.isSome_map]
  · obtain ⟨units, hu, hparts, hnear⟩ := d.ofParts_of_lt hlt
    refine ⟨units, hu, ?_, hnear⟩
    rw [number?, ← hd, d.readPlain?_written, hparts]
    rfl
  · refine onlyText_of_number? ?_
    rw [number?, ← hd, d.readPlain?_written, d.ofParts_of_le hle]
    rfl
  · rintro ⟨d, hd⟩
    exact d.written_ne_of_misspelt h hd

end Text

theorem number?_text_signed :
    (∃ units hu, (text " -1.50 ").number? = some (.finite true units hu) ∧
      (Double.finite true units hu).Nearest (-3 / 2)) ∧ (text "1e5").OnlyText := by
  refine ⟨?_, (number?_text "1e5").2.2.2.2 (.inl ⟨'e', by decide, by decide, by decide, by decide⟩)⟩
  let d : Numeral := ⟨.minus, ['1'], some ['5', '0'], List.all_eq_true.mp rfl, by decide⟩
  have hden : d.denoted = -3 / 2 := by
    rw [d.denoted_eq, show d.mantissa = 150 from rfl, show d.fraction.length = 2 from rfl,
      show d.lead.isMinus = true from rfl, Double.signed_true]
    norm_num
  have hsmall : |d.denoted| < 2 ^ 1024 - 2 ^ 970 := by
    have hpow : (2 : ℚ) ^ 1024 = 2 ^ 54 * 2 ^ 970 := by
      rw [← pow_add]
    have hone : (1 : ℚ) ≤ 2 ^ 970 := one_le_pow₀ (by norm_num)
    rw [hden, hpow]
    generalize (2 : ℚ) ^ 970 = step at hone ⊢
    norm_num
    linarith
  have h := ((number?_text " -1.50 ").2.2.2.1 d (by decide)).1 hsmall
  rwa [hden] at h

end Value

end BracketScript
