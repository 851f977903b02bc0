import BracketScript.Proofs.Rounding

/-! No double lies nearer to a fraction than the one it is rounded to, and of two that lie equally
near it is the one with an even significand. What rounds to no finite number is what reaches half a
step beyond the greatest one, so that a power of ten far outside the range need not be computed. -/

attribute [local instance (high)] instPowNat

namespace BracketScript

namespace Double

attribute [local irreducible] one limit unitExponent

section Steps

variable {n step : Nat}

theorem steps_apart (m k step : Nat) :
    m * step + step ≤ k * step ∨ m = k ∨ k * step + step ≤ m * step := by
  rcases Nat.lt_trichotomy m k with h | h | h
  · exact .inl (by rw [← Nat.succ_mul]; exact Nat.mul_le_mul_right step h)
  · exact .inr (.inl h)
  · exact .inr (.inr (by rw [← Nat.succ_mul]; exact Nat.mul_le_mul_right step h))

theorem nearestSteps_dist_le (hstep : 0 < step) (m : Nat) :
    Nat.dist (nearestSteps n step * step) n ≤ Nat.dist (m * step) n := by
  have hn := Nat.div_add_mod n step
  have hr := Nat.mod_lt n hstep
  rw [Nat.mul_comm] at hn
  -- a multiple is at or below the whole steps, or a step above them at least
  have hm : m * step ≤ n / step * step ∨ n / step * step + step ≤ m * step := by
    rcases steps_apart m (n / step) step with h | rfl | h
    · exact .inl (by omega)
    · exact .inl le_rfl
    · exact .inr h
  simp only [nearestSteps, Nat.dist]
  split <;> rename_i hc <;> simp at hc
  · rw [Nat.succ_mul]
    omega
  · omega

theorem nearestSteps_even_of_tie (hstep : 0 < step) {m : Nat} (hne : m ≠ nearestSteps n step)
    (htie : Nat.dist (m * step) n = Nat.dist (nearestSteps n step * step) n) :
    nearestSteps n step % 2 = 0 := by
  have hn := Nat.div_add_mod n step
  have hr := Nat.mod_lt n hstep
  rw [Nat.mul_comm] at hn
  -- only the two neighbours can be as near as that
  have hbelow := steps_apart m (n / step) step
  have habove := steps_apart m (n / step + 1) step
  rw [Nat.succ_mul] at habove
  revert hne htie
  simp only [nearestSteps, Nat.dist]
  split <;> rename_i hc <;> simp at hc <;> intro hne htie
  · rw [Nat.succ_mul] at htie
    omega
  · omega

/-- An odd number of steps keeps half a step above it to itself, without its end. -/
theorem nearestSteps_le_iff_of_odd (hstep : 0 < step) {m : Nat} (hm : m % 2 = 1) :
    nearestSteps n step ≤ m ↔ 2 * n < (2 * m + 1) * step := by
  have hn := Nat.div_add_mod n step
  have hr := Nat.mod_lt n hstep
  have hexpand : (2 * m + 1) * step = 2 * (m * step) + step := by ring
  rw [Nat.mul_comm] at hn
  rw [hexpand]
  rcases Nat.lt_trichotomy m (n / step) with hlt | rfl | hgt
  · have hmul := Nat.mul_le_mul_right step (Nat.succ_le_of_lt hlt)
    have hle := div_le_nearestSteps n step
    rw [Nat.succ_mul] at hmul
    omega
  · simp only [nearestSteps]
    split <;> rename_i hc <;> simp at hc <;> omega
  · have hmul := Nat.mul_le_mul_right step (Nat.succ_le_of_lt hgt)
    have hle := nearestSteps_le hgt
    rw [Nat.succ_mul] at hmul
    omega

end Steps

/-- The magnitudes whose significand, of 53 bits where the least exponent does not forbid it, ends
in a zero. -/
def EndsEven (units : Nat) : Prop :=
  ∃ significand exponent : Nat, significand < significandLimit ∧ significand % 2 = 0 ∧
    (exponent = 0 ∨ 2 ^ fractionBits ≤ significand) ∧ units = significand * 2 ^ exponent

theorem endsEven_mul_pow {significand exponent : Nat} (hle : significand ≤ significandLimit)
    (heven : significand % 2 = 0) (hlead : exponent = 0 ∨ 2 ^ fractionBits ≤ significand) :
    EndsEven (significand * 2 ^ exponent) := by
  rcases Nat.lt_or_eq_of_le hle with h | h
  · exact ⟨significand, exponent, h, heven, hlead, rfl⟩
  · refine ⟨2 ^ fractionBits, exponent + 1, Nat.pow_lt_pow_right (by decide) (by decide), by decide,
      .inr le_rfl, ?_⟩
    rw [h, significandLimit, Nat.pow_succ, Nat.pow_succ]
    ring

section Units

variable {n d u : Nat}

theorem roundUnits_mul (n d : Nat) : roundUnits n d * d =
    nearestSteps n (d * 2 ^ stepExponent n d) * (d * 2 ^ stepExponent n d) := by
  rw [roundUnits]
  ring

/-- Steps longer than a unit are taken only where the fraction has 53 bits at least. -/
theorem two_pow_mul_le (h : stepExponent n d ≠ 0) :
    2 ^ (fractionBits + stepExponent n d) * d ≤ n := by
  have hlog : fractionBits + stepExponent n d = (n / d).log2 := by
    rw [stepExponent] at h ⊢
    omega
  have hne : n / d ≠ 0 := by
    intro hzero
    rw [stepExponent, hzero, Nat.log2_zero] at h
    exact h (Nat.zero_sub _)
  rw [hlog]
  exact (Nat.mul_le_mul_right d (Nat.log2_self_le hne)).trans (Nat.div_mul_le_self n d)

/-- A representable magnitude is a whole number of steps, or the least fraction that takes such
steps lies between. -/
theorem exists_steps (hd : 0 < d) (hu : Representable u) :
    ∃ m, m * 2 ^ stepExponent n d = u ∨
      Nat.dist (m * (d * 2 ^ stepExponent n d)) n < Nat.dist (u * d) n := by
  obtain ⟨-, s, f, hs, rfl⟩ := hu
  rcases Nat.le_or_ge (stepExponent n d) f with hle | hlt
  · obtain ⟨g, rfl⟩ := Nat.exists_eq_add_of_le hle
    exact ⟨s * 2 ^ g, .inl (by rw [Nat.pow_add]; ring)⟩
  rcases Nat.eq_or_lt_of_le hlt with heq | hlt
  · exact ⟨s, .inl (by rw [heq])⟩
  refine ⟨2 ^ fractionBits, .inr ?_⟩
  have hpow : 2 ^ fractionBits * (d * 2 ^ stepExponent n d) =
      2 ^ (fractionBits + stepExponent n d) * d := by
    rw [Nat.pow_add]
    ring
  have hn := two_pow_mul_le (n := n) (d := d) (by omega)
  have hbelow : s * 2 ^ f < 2 ^ (fractionBits + stepExponent n d) :=
    calc
      s * 2 ^ f < significandLimit * 2 ^ f := Nat.mul_lt_mul_of_pos_right hs (Nat.two_pow_pos f)
      _ = 2 ^ (fractionBits + (1 + f)) := by
        rw [significandLimit, ← Nat.pow_add, Nat.add_assoc]
      _ ≤ 2 ^ (fractionBits + stepExponent n d) := Nat.pow_le_pow_right (by decide) (by omega)
  have hbelow' := Nat.mul_lt_mul_of_pos_right hbelow hd
  rw [hpow, Nat.dist, Nat.dist]
  omega

theorem roundUnits_dist_le (hd : 0 < d) (hu : Representable u) :
    Nat.dist (roundUnits n d * d) n ≤ Nat.dist (u * d) n := by
  have hstep : 0 < d * 2 ^ stepExponent n d := Nat.mul_pos hd (Nat.two_pow_pos _)
  obtain ⟨m, hm⟩ := exists_steps (n := n) hd hu
  have hle := nearestSteps_dist_le (n := n) hstep m
  rw [roundUnits_mul]
  rcases hm with rfl | hlt
  · rwa [show m * 2 ^ stepExponent n d * d = m * (d * 2 ^ stepExponent n d) by ring]
  · exact hle.trans hlt.le

theorem two_pow_le_nearestSteps (hd : 0 < d) (h : stepExponent n d ≠ 0) :
    2 ^ fractionBits ≤ nearestSteps n (d * 2 ^ stepExponent n d) := by
  refine le_trans ?_ (div_le_nearestSteps _ _)
  rw [Nat.le_div_iff_mul_le (Nat.mul_pos hd (Nat.two_pow_pos _))]
  refine le_trans (Nat.le_of_eq ?_) (two_pow_mul_le h)
  rw [Nat.pow_add]
  ring

theorem endsEven_of_tie (hd : 0 < d) (hu : Representable u) (hne : u ≠ roundUnits n d)
    (htie : Nat.dist (u * d) n = Nat.dist (roundUnits n d * d) n) : EndsEven (roundUnits n d) := by
  have hstep : 0 < d * 2 ^ stepExponent n d := Nat.mul_pos hd (Nat.two_pow_pos _)
  have heven : nearestSteps n (d * 2 ^ stepExponent n d) % 2 = 0 := by
    obtain ⟨m, rfl | hlt⟩ := exists_steps (n := n) hd hu
    · refine nearestSteps_even_of_tie hstep (m := m) (fun h => hne ?_) ?_
      · rw [h, roundUnits]
      · rw [← roundUnits_mul, ← htie]
        congr 1
        ring
    · have hle := nearestSteps_dist_le (n := n) hstep m
      rw [← roundUnits_mul] at hle
      omega
  rw [roundUnits]
  refine endsEven_mul_pow (nearestSteps_le (div_step_lt n d)) heven ?_
  rcases Nat.eq_zero_or_pos (stepExponent n d) with h | h
  · exact .inl h
  · exact .inr (two_pow_le_nearestSteps hd (by omega))

/-- Half a step beyond the greatest finite number, in units. -/
def overflow : Nat :=
  (2 * significandLimit - 1) * 2 ^ (limitExponent - (fractionBits + 2))

/-- The exponent of half the last step below the limit. -/
def halfStepExponent : Nat :=
  limitExponent - (fractionBits + 2)

theorem limitExponent_eq : limitExponent = fractionBits + 1 + (halfStepExponent + 1) := by
  unfold halfStepExponent limitExponent fractionBits
  omega

theorem limit_eq_steps : limit = significandLimit * 2 ^ (halfStepExponent + 1) := by
  rw [limit, limitExponent_eq, significandLimit, ← Nat.pow_add]

theorem significandLimit_pos : 0 < significandLimit :=
  Nat.two_pow_pos _

theorem overflow_mul (d : Nat) :
    overflow * d = (2 * (significandLimit - 1) + 1) * (d * 2 ^ halfStepExponent) := by
  have hodd : 2 * significandLimit - 1 = 2 * (significandLimit - 1) + 1 := by
    have := significandLimit_pos
    omega
  rw [overflow, hodd, halfStepExponent]
  ring

theorem below_overflow (hd : 0 < d) (h : stepExponent n d ≤ halfStepExponent) :
    roundUnits n d < limit ∧ n < overflow * d := by
  have hpow : 2 ^ stepExponent n d ≤ 2 ^ halfStepExponent := Nat.pow_le_pow_right (by decide) h
  constructor
  · calc roundUnits n d
        ≤ significandLimit * 2 ^ halfStepExponent := by
          rw [roundUnits]
          exact Nat.mul_le_mul (nearestSteps_le (div_step_lt n d)) hpow
      _ < significandLimit * 2 ^ (halfStepExponent + 1) :=
          Nat.mul_lt_mul_of_pos_left
            (Nat.pow_lt_pow_right (by decide) (Nat.lt_succ_self halfStepExponent))
            significandLimit_pos
      _ = limit := limit_eq_steps.symm
  · have hlt := div_step_lt n d
    rw [Nat.div_lt_iff_lt_mul (Nat.mul_pos hd (Nat.two_pow_pos _))] at hlt
    calc n
        < significandLimit * (d * 2 ^ stepExponent n d) := hlt
      _ ≤ significandLimit * (d * 2 ^ halfStepExponent) :=
          Nat.mul_le_mul_left _ (Nat.mul_le_mul_left _ hpow)
      _ ≤ (2 * (significandLimit - 1) + 1) * (d * 2 ^ halfStepExponent) :=
          Nat.mul_le_mul_right _ (by have := significandLimit_pos; omega)
      _ = overflow * d := (overflow_mul d).symm

theorem beyond_overflow (hd : 0 < d) (h : halfStepExponent + 1 < stepExponent n d) :
    limit ≤ roundUnits n d ∧ overflow * d ≤ n := by
  have hne : stepExponent n d ≠ 0 := by omega
  have hlead : limit ≤ 2 ^ (fractionBits + stepExponent n d) := by
    rw [limit, limitExponent_eq]
    exact Nat.pow_le_pow_right (by decide) (by omega)
  constructor
  · refine hlead.trans ?_
    rw [roundUnits, Nat.pow_add]
    exact Nat.mul_le_mul_right _ (two_pow_le_nearestSteps hd hne)
  · calc overflow * d
        = (2 * (significandLimit - 1) + 1) * (d * 2 ^ halfStepExponent) := overflow_mul d
      _ ≤ 2 * significandLimit * (d * 2 ^ halfStepExponent) :=
          Nat.mul_le_mul_right _ (by have := significandLimit_pos; omega)
      _ = limit * d := by
          rw [limit_eq_steps, Nat.pow_succ]
          ring
      _ ≤ 2 ^ (fractionBits + stepExponent n d) * d := Nat.mul_le_mul_right d hlead
      _ ≤ n := two_pow_mul_le hne

theorem roundUnits_lt_limit_iff_of_last (hd : 0 < d)
    (h : stepExponent n d = halfStepExponent + 1) : roundUnits n d < limit ↔ n < overflow * d := by
  have hstep : 0 < d * 2 ^ (halfStepExponent + 1) := Nat.mul_pos hd (Nat.two_pow_pos _)
  have hodd := nearestSteps_le_iff_of_odd (n := n) hstep (m := significandLimit - 1) (by decide)
  have hdouble : (2 * (significandLimit - 1) + 1) * (d * 2 ^ (halfStepExponent + 1)) =
      2 * (overflow * d) := by
    rw [overflow_mul, Nat.pow_succ]
    ring
  rw [hdouble] at hodd
  rw [roundUnits, h, limit_eq_steps, Nat.mul_lt_mul_right (Nat.two_pow_pos _)]
  have := significandLimit_pos
  omega

/-- What rounds to no finite number is what reaches the overflow. -/
theorem roundUnits_lt_limit_iff (hd : 0 < d) : roundUnits n d < limit ↔ n < overflow * d := by
  rcases Nat.lt_trichotomy (stepExponent n d) (halfStepExponent + 1) with h | h | h
  · obtain ⟨hround, hsmall⟩ := below_overflow hd (Nat.le_of_lt_succ h)
    exact iff_of_true hround hsmall
  · exact roundUnits_lt_limit_iff_of_last hd h
  · obtain ⟨hround, hlarge⟩ := beyond_overflow hd h
    exact iff_of_false (Nat.not_lt_of_le hround) (Nat.not_lt_of_le hlarge)

end Units

theorem overflow_div_one : (overflow : ℚ) / one = 2 ^ 1024 - 2 ^ 970 := by
  have hone : (one : ℚ) ≠ 0 := by exact_mod_cast one_pos.ne'
  have hexp : limitExponent - (fractionBits + 2) = 970 + unitExponent := by
    unfold limitExponent fractionBits
    omega
  have hodd : ((2 * significandLimit - 1 : Nat) : ℚ) = 2 ^ 54 - 1 := by
    rw [show 2 * significandLimit - 1 = 2 ^ 54 - 1 by decide]
    norm_num
  have hcast : (one : ℚ) = 2 ^ unitExponent := by
    rw [one, Nat.cast_pow, Nat.cast_ofNat]
  have hunits : (overflow : ℚ) = (2 ^ 54 - 1) * (2 ^ 970 * one) := by
    rw [overflow, hexp, Nat.cast_mul, hodd, Nat.cast_pow, Nat.cast_ofNat, pow_add, hcast]
  have hpow : (2 : ℚ) ^ 1024 = 2 ^ 54 * 2 ^ 970 := by
    rw [← pow_add]
  rw [hunits, hpow, div_eq_iff hone]
  generalize (2 : ℚ) ^ 970 = step
  ring

theorem roundUnits_of_lt_half {n d : Nat} (h : 2 * n < d) : roundUnits n d = 0 := by
  have hdiv : n / d = 0 := Nat.div_eq_of_lt (by omega)
  have hmod : n % d = n := Nat.mod_eq_of_lt (by omega)
  have hexp : stepExponent n d = 0 := by
    rw [stepExponent, hdiv, Nat.log2_zero]
    exact Nat.zero_sub _
  rw [roundUnits, hexp, Nat.pow_zero, Nat.mul_one, Nat.mul_one, nearestSteps, hdiv, hmod]
  simp only [Nat.zero_mod, Bool.or_eq_true, decide_eq_true_eq]
  rw [if_neg]
  rintro (hlt | heq)
  · omega
  · exact absurd heq (by simp)

theorem lt_ten_pow_length (n : Nat) : n < 10 ^ (Decimal.ofNat n).length :=
  (Nat.length_toDigits_le_iff (by decide) (List.length_pos_iff.mpr Nat.toDigits_ne_nil)).mp le_rfl

theorem ten_pow_le {n k : Nat} (hk : 0 < k) (h : k < (Decimal.ofNat n).length) : 10 ^ k ≤ n := by
  by_contra hlt
  exact absurd ((Nat.length_toDigits_le_iff (by decide) hk).mpr (Nat.lt_of_not_le hlt))
    (Nat.not_le_of_lt h)

theorem two_pow_le_ten_pow {m k : Nat} (h : m ≤ 3 * k) : 2 ^ m ≤ 10 ^ k :=
  calc
    2 ^ m ≤ 2 ^ (3 * k) := Nat.pow_le_pow_right (by decide) h
    _ = 8 ^ k := Nat.pow_mul 2 3 k
    _ ≤ 10 ^ k := Nat.pow_le_pow_left (by decide) k

theorem two_mul_one_le {k : Nat} (h : 400 ≤ k) : 2 * one ≤ 10 ^ k := by
  rw [one, Nat.mul_comm, ← Nat.pow_succ]
  refine two_pow_le_ten_pow ?_
  unfold unitExponent
  omega

theorem overflow_le {k : Nat} (h : 400 ≤ k) : overflow ≤ 10 ^ k * one :=
  calc
    overflow ≤ 2 * significandLimit * 2 ^ (limitExponent - (fractionBits + 2)) :=
      Nat.mul_le_mul_right _ (Nat.sub_le _ _)
    _ = 2 ^ (fractionBits + 2 + (limitExponent - (fractionBits + 2))) := by
      rw [significandLimit, Nat.pow_add, Nat.pow_add, Nat.pow_add]
      ring
    _ = 2 ^ (limitExponent - unitExponent) * one := by
      rw [one, ← Nat.pow_add]
      congr 1
      unfold limitExponent fractionBits
      omega
    _ ≤ 10 ^ k * one := by
      refine Nat.mul_le_mul_right _ (two_pow_le_ten_pow ?_)
      unfold limitExponent
      omega

/-- What is far outside the range of doubles is read as rounding would have it. -/
theorem ofScientific_eq_ofRatio (negative : Bool) (digits places : Nat) :
    ofScientific negative digits (0 - places) = ofRatio negative (digits * one) (10 ^ places) := by
  have hten : 0 < 10 ^ places := Nat.pow_pos (by decide)
  have hlength := lt_ten_pow_length digits
  unfold ofScientific
  dsimp only
  split
  · rename_i hsmall
    have hzero : roundUnits (digits * one) (10 ^ places) = 0 := by
      apply roundUnits_of_lt_half
      simp only [Bool.or_eq_true, decide_eq_true_eq] at hsmall
      rcases hsmall with rfl | hsmall
      · rwa [Nat.zero_mul]
      obtain ⟨k, hk⟩ : ∃ k, places = (Decimal.ofNat digits).length + k :=
        ⟨places - (Decimal.ofNat digits).length, by omega⟩
      calc
        2 * (digits * one) = digits * (2 * one) := by ring
        _ ≤ digits * 10 ^ k := Nat.mul_le_mul_left _ (two_mul_one_le (by omega))
        _ < 10 ^ (Decimal.ofNat digits).length * 10 ^ k :=
          Nat.mul_lt_mul_of_pos_right hlength (Nat.pow_pos (by decide))
        _ = 10 ^ places := by rw [← Nat.pow_add, hk]
    simp only [ofRatio, hzero, dif_pos limit_pos]
  · split
    · rename_i hlarge
      obtain ⟨k, hk⟩ : ∃ k, (Decimal.ofNat digits).length = k + places + 1 :=
        ⟨(Decimal.ofNat digits).length - places - 1, by omega⟩
      have hover : overflow * 10 ^ places ≤ digits * one :=
        calc
          overflow * 10 ^ places ≤ 10 ^ k * one * 10 ^ places :=
            Nat.mul_le_mul_right _ (overflow_le (by omega))
          _ = 10 ^ (k + places) * one := by
            rw [Nat.pow_add]
            ring
          _ ≤ digits * one := Nat.mul_le_mul_right _ (ten_pow_le (by omega) (by omega))
      rw [ofRatio, dif_neg]
      rw [roundUnits_lt_limit_iff hten]
      exact Nat.not_lt_of_le hover
    · rw [show (0 - (places : Int)).toNat = 0 by omega,
        show (-(0 - (places : Int))).toNat = places by omega, Nat.pow_zero, Nat.mul_one]

/-- A magnitude with its sign. -/
def signed (negative : Bool) (q : ℚ) : ℚ :=
  if negative then -q else q

/-- The number that a finite double stands for. -/
def toRat? : Double → Option ℚ
  | finite negative units _ => some (signed negative (units / one))
  | _ => none

def IsEven : Double → Prop
  | finite _ units _ => EndsEven units
  | _ => False

/-- No finite double lies nearer to `q`, and if one with another value lies as near, it is this one
that has the even significand. -/
def Nearest (x : Double) (q : ℚ) : Prop :=
  ∃ a, x.toRat? = some a ∧ ∀ (y : Double) (b : ℚ), y.toRat? = some b →
    |a - q| ≤ |b - q| ∧ (|b - q| = |a - q| → b = a ∨ x.IsEven)

@[simp]
theorem signed_false (q : ℚ) : signed false q = q := rfl

@[simp]
theorem signed_true (q : ℚ) : signed true q = -q := rfl

@[simp]
theorem signed_zero (negative : Bool) : signed negative 0 = 0 := by
  cases negative <;> simp

theorem abs_signed (negative : Bool) (q : ℚ) : |signed negative q| = |q| := by
  cases negative <;> simp

theorem signed_sub (negative : Bool) (p q : ℚ) :
    signed negative p - signed negative q = signed negative (p - q) := by
  cases negative <;> simp
  ring

theorem abs_signed_sub_of_ne {s t : Bool} (h : s ≠ t) {p q : ℚ} (hp : 0 ≤ p) (hq : 0 ≤ q) :
    |signed s p - signed t q| = p + q := by
  have hsum : 0 ≤ p + q := add_nonneg hp hq
  cases s <;> cases t
  case false.true => rw [signed_false, signed_true, sub_neg_eq_add, abs_of_nonneg hsum]
  case true.false =>
    rw [signed_false, signed_true, ← neg_add', abs_neg, abs_of_nonneg hsum]
  all_goals exact absurd rfl h

section Magnitudes

variable {n d u : Nat}

theorem abs_sub_eq_dist (hd : 0 < d) (n u : Nat) :
    |(u / one : ℚ) - n / (d * one)| = Nat.dist (u * d) n / (d * one) := by
  have hone : (0 : ℚ) < one := by exact_mod_cast one_pos
  have hd' : (0 : ℚ) < d := by exact_mod_cast hd
  have hsub : (u / one : ℚ) - n / (d * one) = (u * d - n) / (d * one) := by
    field_simp
  rw [hsub, abs_div, abs_of_pos (mul_pos hd' hone)]
  congr 1
  rcases Nat.le_total (u * d) n with h | h
  · rw [Nat.dist_eq_sub_of_le h, Nat.cast_sub h, abs_of_nonpos]
    · push_cast
      ring
    · have : (u * d : ℚ) ≤ n := by exact_mod_cast h
      linarith
  · rw [Nat.dist_eq_sub_of_le_right h, Nat.cast_sub h, abs_of_nonneg]
    · push_cast
      ring
    · have : (n : ℚ) ≤ u * d := by exact_mod_cast h
      linarith

theorem abs_sub_roundUnits_le (hd : 0 < d) (n : Nat) (hu : Representable u) :
    |(roundUnits n d / one : ℚ) - n / (d * one)| ≤ |(u / one : ℚ) - n / (d * one)| := by
  rw [abs_sub_eq_dist hd, abs_sub_eq_dist hd]
  gcongr
  exact roundUnits_dist_le hd hu

theorem eq_or_endsEven_of_tie (hd : 0 < d) (hu : Representable u)
    (htie : |(u / one : ℚ) - n / (d * one)| = |(roundUnits n d / one : ℚ) - n / (d * one)|) :
    u = roundUnits n d ∨ EndsEven (roundUnits n d) := by
  have hpos : (0 : ℚ) < d * one := by exact_mod_cast Nat.mul_pos hd one_pos
  rw [abs_sub_eq_dist hd, abs_sub_eq_dist hd, div_left_inj' hpos.ne'] at htie
  by_cases h : u = roundUnits n d
  · exact .inl h
  · exact .inr (endsEven_of_tie hd hu h (by exact_mod_cast htie))

theorem nearest_finite (hd : 0 < d) (negative : Bool) (h : Representable (roundUnits n d)) :
    Nearest (finite negative (roundUnits n d) h) (signed negative (n / (d * one))) := by
  refine ⟨_, rfl, ?_⟩
  rintro (_ | _ | ⟨s, u, hu⟩) b hb
  case nan => exact absurd hb nofun
  case infinite => exact absurd hb nofun
  obtain rfl := Option.some.inj hb
  have hsame : |signed negative (roundUnits n d / one) - signed negative (n / (d * one))| =
      |(roundUnits n d / one : ℚ) - n / (d * one)| := by
    rw [signed_sub, abs_signed]
  rw [hsame]
  by_cases hs : s = negative
  · subst hs
    rw [signed_sub, abs_signed]
    refine ⟨abs_sub_roundUnits_le hd n hu, fun htie => ?_⟩
    exact (eq_or_endsEven_of_tie hd hu htie).imp (fun h => by rw [h]) id
  · -- zero lies between, and it is no farther off than what has the other sign
    have hu' : (0 : ℚ) ≤ u / one := by positivity
    have hq : (0 : ℚ) ≤ n / (d * one) := by positivity
    have hzero := abs_sub_roundUnits_le hd n representable_zero
    have hzero' : |((0 : Nat) / one : ℚ) - n / (d * one)| = n / (d * one) := by
      simp [abs_of_nonneg hq]
    rw [abs_signed_sub_of_ne hs hu' hq]
    refine ⟨by linarith, fun htie => ?_⟩
    have hu0 : (u / one : ℚ) = 0 := by linarith
    have htie' := eq_or_endsEven_of_tie (n := n) hd representable_zero (by linarith)
    refine htie'.imp (fun h => ?_) id
    rw [hu0, ← h]
    simp

end Magnitudes

end Double

end BracketScript
