import Mathlib
import BracketScript.Double.Read
import BracketScript.Proofs.DecimalNotation

/-! Rounding keeps the order of integers. It may bring two of them together, but not below
`2 ^ 53`. -/

attribute [local instance (high)] instPowNat

namespace BracketScript

namespace Double

attribute [local irreducible] one limit unitExponent

theorem div_le_nearestSteps (numerator step : Nat) :
    numerator / step ≤ nearestSteps numerator step := by
  rw [nearestSteps]
  split <;> omega

theorem nearestSteps_of_dvd {numerator step : Nat} (h : step ∣ numerator) :
    nearestSteps numerator step = numerator / step := by
  have hmod : numerator % step = 0 := Nat.mod_eq_zero_of_dvd h
  rw [nearestSteps, hmod]
  split <;> rename_i hc
  · have hstep : step = 0 := by
      simp only [Nat.mul_zero, Nat.not_lt_zero, decide_false, Bool.false_or, Bool.and_eq_true,
        beq_iff_eq] at hc
      exact hc.1.symm
    simp [hstep] at hc
  · rfl

theorem nearestSteps_mono {n n' step : Nat} (h : n ≤ n') :
    nearestSteps n step ≤ nearestSteps n' step := by
  have hdiv : n / step ≤ n' / step := Nat.div_le_div_right h
  rcases Nat.lt_or_eq_of_le hdiv with hlt | heq
  · exact (nearestSteps_le hlt).trans (div_le_nearestSteps n' step)
  · -- with as many whole steps it is the rest that decides
    have hn := Nat.div_add_mod n step
    have hn' := Nat.div_add_mod n' step
    have hrest : n % step ≤ n' % step := by
      rw [heq] at hn
      omega
    simp only [nearestSteps, heq]
    split <;> split <;> rename_i hr hr' <;> simp at hr hr' <;> omega

theorem roundUnits_one (n : Nat) :
    roundUnits n 1 =
      nearestSteps n (2 ^ (n.log2 - fractionBits)) * 2 ^ (n.log2 - fractionBits) := by
  rw [roundUnits, stepExponent, Nat.div_one, Nat.one_mul]

theorem roundUnits_of_dvd {n : Nat} (h : 2 ^ (n.log2 - fractionBits) ∣ n) : roundUnits n 1 = n := by
  rw [roundUnits_one, nearestSteps_of_dvd h, Nat.div_mul_cancel h]

/-- Rounding stays between the powers of two. -/
theorem two_pow_log2_le_roundUnits {n : Nat} (hn : n ≠ 0) : 2 ^ n.log2 ≤ roundUnits n 1 := by
  have hle : 2 ^ n.log2 ≤ n := Nat.log2_self_le hn
  rw [roundUnits_one]
  generalize hs : n.log2 - fractionBits = e
  have hpow : 2 ^ n.log2 = 2 ^ (n.log2 - e) * 2 ^ e := by
    rw [← Nat.pow_add]
    congr 1
    omega
  have hsteps : 2 ^ (n.log2 - e) ≤ n / 2 ^ e := by
    rw [Nat.le_div_iff_mul_le (Nat.two_pow_pos e), ← hpow]
    exact hle
  rw [hpow]
  exact Nat.mul_le_mul_right _ (hsteps.trans (div_le_nearestSteps n _))

theorem roundUnits_le_two_pow (n : Nat) : roundUnits n 1 ≤ 2 ^ (n.log2 + 1) := by
  rw [roundUnits_one]
  generalize hs : n.log2 - fractionBits = e
  have hpow : 2 ^ (n.log2 + 1) = 2 ^ (n.log2 + 1 - e) * 2 ^ e := by
    rw [← Nat.pow_add]
    congr 1
    omega
  have hsteps : n / 2 ^ e < 2 ^ (n.log2 + 1 - e) := by
    rw [Nat.div_lt_iff_lt_mul (Nat.two_pow_pos e), ← hpow]
    exact Nat.lt_log2_self
  rw [hpow]
  exact Nat.mul_le_mul_right _ (nearestSteps_le hsteps)

theorem roundUnits_mono {n n' : Nat} (h : n ≤ n') : roundUnits n 1 ≤ roundUnits n' 1 := by
  by_cases hn : n = 0
  · subst hn
    exact Nat.zero_le _
  have hn' : n' ≠ 0 := by omega
  have hlog : n.log2 ≤ n'.log2 := by
    rw [Nat.le_log2 hn']
    exact (Nat.log2_self_le hn).trans h
  rcases Nat.lt_or_eq_of_le hlog with hlt | heq
  · -- a power of two lies between them, which rounding does not pass
    calc
      roundUnits n 1 ≤ 2 ^ (n.log2 + 1) := roundUnits_le_two_pow n
      _ ≤ 2 ^ n'.log2 := Nat.pow_le_pow_right (by decide) hlt
      _ ≤ roundUnits n' 1 := two_pow_log2_le_roundUnits hn'
  · rw [roundUnits_one, roundUnits_one, heq]
    exact Nat.mul_le_mul_right _ (nearestSteps_mono h)

theorem roundUnits_lt_limit {n : Nat} (hn : n ≤ 2 ^ 63) : roundUnits (n * one) 1 < limit := by
  have hlt : n * one < 2 ^ (64 + unitExponent) := by
    rw [one, Nat.pow_add]
    exact Nat.mul_lt_mul_of_pos_right (by omega) (Nat.two_pow_pos unitExponent)
  have hlog : (n * one).log2 < 64 + unitExponent := by
    by_cases h : n * one = 0
    · rw [h, Nat.log2_zero]
      omega
    · exact (Nat.log2_lt h).mpr hlt
  calc
    roundUnits (n * one) 1 ≤ 2 ^ ((n * one).log2 + 1) := roundUnits_le_two_pow _
    _ ≤ 2 ^ (64 + unitExponent) := Nat.pow_le_pow_right (by decide) hlog
    _ < limit := by
      rw [limit, limitExponent]
      exact Nat.pow_lt_pow_right (by decide) (by omega)

theorem one_pos : 0 < one := by
  rw [one]
  exact Nat.two_pow_pos unitExponent

theorem roundUnits_of_le {n : Nat} (hn : n ≤ 2 ^ 53) : roundUnits (n * one) 1 = n * one := by
  apply roundUnits_of_dvd
  rcases Nat.lt_or_eq_of_le hn with hlt | rfl
  · have hlog : (n * one).log2 ≤ 52 + unitExponent := by
      by_cases h : n * one = 0
      · rw [h, Nat.log2_zero]
        omega
      · have hpow : n * one < 2 ^ (53 + unitExponent) := by
          rw [one, Nat.pow_add]
          exact Nat.mul_lt_mul_of_pos_right hlt (Nat.two_pow_pos unitExponent)
        have hlog' := (Nat.log2_lt h).mpr hpow
        omega
    rw [one] at hlog ⊢
    refine Nat.dvd_mul_left_of_dvd (Nat.pow_dvd_pow 2 ?_) n
    rw [fractionBits]
    omega
  · rw [one, ← Nat.pow_add, Nat.log2_two_pow]
    exact Nat.pow_dvd_pow 2 (Nat.sub_le _ _)

/-- Where the double nearest to a word stands on the line of integers. -/
def place (n : Int) : Int :=
  if n < 0 then -(roundUnits (n.natAbs * one) 1 : Nat) else (roundUnits (n.natAbs * one) 1 : Nat)

theorem ofInt_eq {n : Int} (hn : n.natAbs ≤ 2 ^ 63) :
    ofInt n = finite (n < 0) (roundUnits (n.natAbs * one) 1)
      (representable_roundUnits (roundUnits_lt_limit hn)) := by
  rw [ofInt, ofRatio, dif_pos (roundUnits_lt_limit hn)]

theorem rank_ofInt {n : Int} (hn : n.natAbs ≤ 2 ^ 63) : (ofInt n).rank = some (place n) := by
  rw [ofInt_eq hn, place]
  by_cases h : n < 0
  · simp [h, rank]
  · simp [h, rank]

theorem place_mono {a b : Int} (h : a ≤ b) : place a ≤ place b := by
  by_cases ha : a < 0
  · by_cases hb : b < 0
    · have hmono := roundUnits_mono (Nat.mul_le_mul_right one (show b.natAbs ≤ a.natAbs by omega))
      rw [place, if_pos ha, place, if_pos hb]
      omega
    · rw [place, if_pos ha, place, if_neg hb]
      omega
  · have hmono := roundUnits_mono (Nat.mul_le_mul_right one (show a.natAbs ≤ b.natAbs by omega))
    rw [place, if_neg ha, place, if_neg (by omega)]
    omega

theorem place_neg {n : Int} (h : n < 0) : place n < 0 := by
  have hpos : 0 < n.natAbs * one := Nat.mul_pos (by omega) one_pos
  have hround := two_pow_log2_le_roundUnits (Nat.ne_of_gt hpos)
  have hpow := Nat.two_pow_pos (n.natAbs * one).log2
  rw [place, if_pos h]
  omega

theorem ofInt_eq_of_place {a b : Int} (ha : a.natAbs ≤ 2 ^ 63) (hb : b.natAbs ≤ 2 ^ 63)
    (h : place a = place b) : ofInt a = ofInt b := by
  have hsign : a < 0 ↔ b < 0 := by
    constructor
    · intro hneg
      have hp := place_neg hneg
      by_contra hb'
      rw [h, place, if_neg hb'] at hp
      omega
    · intro hneg
      have hp := place_neg hneg
      by_contra ha'
      rw [← h, place, if_neg ha'] at hp
      omega
  have hunits : roundUnits (a.natAbs * one) 1 = roundUnits (b.natAbs * one) 1 := by
    rw [place, place] at h
    by_cases hneg : a < 0
    · rw [if_pos hneg, if_pos (hsign.mp hneg)] at h
      omega
    · rw [if_neg hneg, if_neg (fun hb' => hneg (hsign.mpr hb'))] at h
      omega
  rw [ofInt_eq ha, ofInt_eq hb]
  simp [hsign, hunits]

/-- Integers with different doubles are compared as they are. -/
theorem compare_ofInt {a b : Int} (ha : a.natAbs ≤ 2 ^ 63) (hb : b.natAbs ≤ 2 ^ 63) :
    (ofInt a).compare (ofInt b) =
      some (if ofInt a = ofInt b then .eq else Ord.compare a b) := by
  rw [Double.compare, rank_ofInt ha, rank_ofInt hb]
  change some (Ord.compare (place a) (place b)) = _
  congr 1
  by_cases h : ofInt a = ofInt b
  · have hplace : place a = place b := by
      have hr := congrArg rank h
      rw [rank_ofInt ha, rank_ofInt hb] at hr
      exact Option.some.inj hr
    rw [if_pos h, hplace]
    exact compare_eq_iff_eq.mpr rfl
  · have hne : place a ≠ place b := fun he => h (ofInt_eq_of_place ha hb he)
    rw [if_neg h]
    rcases lt_trichotomy a b with hlt | rfl | hgt
    · rw [compare_lt_iff_lt.mpr hlt]
      exact compare_lt_iff_lt.mpr (lt_of_le_of_ne (place_mono hlt.le) hne)
    · exact absurd rfl h
    · rw [compare_gt_iff_gt.mpr hgt]
      exact compare_gt_iff_gt.mpr (lt_of_le_of_ne (place_mono hgt.le) hne.symm)

theorem ofInt_inj {a b : Int} (ha : a.natAbs ≤ 2 ^ 53) (hb : b.natAbs ≤ 2 ^ 53) :
    ofInt a = ofInt b ↔ a = b := by
  refine ⟨fun h => ?_, congrArg ofInt⟩
  rw [ofInt_eq (by omega), ofInt_eq (by omega)] at h
  simp only [finite.injEq, decide_eq_decide, roundUnits_of_le ha, roundUnits_of_le hb] at h
  have habs := Nat.eq_of_mul_eq_mul_right one_pos h.2
  have hsign := h.1
  omega

theorem natAbs_toInt_le (n : Int64) : n.toInt.natAbs ≤ 2 ^ 63 := by
  have hl := n.le_toInt
  have hu := n.toInt_lt
  omega

theorem isFinite_ofInt {n : Int} (hn : n.natAbs ≤ 2 ^ 63) : (ofInt n).isFinite = true := by
  rw [ofInt_eq hn]
  rfl

theorem sign_ofNat (n : Nat) : sign (Decimal.ofNat n) = (false, Decimal.ofNat n) := by
  obtain ⟨c, s, hs, hc⟩ := Decimal.exists_ofNat_eq_cons n
  rw [hs, sign]
  · rintro rest ⟨rfl, -⟩
    exact absurd hc (by decide)
  · rintro rest ⟨rfl, -⟩
    exact absurd hc (by decide)

theorem plainParts?_ofNat (n : Nat) :
    plainParts? (Decimal.ofNat n) = some (Decimal.ofNat n, []) := by
  have hdigits : ∀ c ∈ Decimal.ofNat n, Decimal.isDigit c = true :=
    fun c hc => Decimal.isDigit_of_mem_ofNat hc
  have hwhole := List.takeWhile_eq_self_iff.mpr hdigits
  have hrest := List.dropWhile_eq_nil_iff.mpr hdigits
  have hne : (Decimal.ofNat n).isEmpty = false := by simpa using Decimal.ofNat_ne_nil n
  simp [plainParts?, hwhole, hrest, hne]

theorem readPlain?_ofInt (n : Int) : readPlain? (Decimal.ofInt n) = some (ofInt n) := by
  have hparts (negative : Bool) : ofParts negative (Decimal.ofNat n.natAbs) [] =
      ofRatio negative (n.natAbs * one) 1 := by
    rw [ofParts, List.append_nil, Decimal.value_ofNat]
    rfl
  rw [Decimal.ofInt]
  by_cases hn : n < 0
  · simp [hn, readPlain?, sign, plainParts?_ofNat, hparts, ofInt]
  · simp [hn, readPlain?, sign_ofNat, plainParts?_ofNat, hparts, ofInt]

end Double

end BracketScript
