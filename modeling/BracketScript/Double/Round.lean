import BracketScript.Double

/-! The double nearest to a fraction. A tie goes to the even significand, and what reaches half a
step beyond the greatest finite number becomes infinite. -/

attribute [local instance (high)] instPowNat

namespace BracketScript.Double

/-- The exponent of the step between representable numbers around `numerator / denominator`. -/
def stepExponent (numerator denominator : Nat) : Nat :=
  (numerator / denominator).log2 - fractionBits

/-- How many whole steps lie nearest to the fraction. -/
def nearestSteps (numerator step : Nat) : Nat :=
  let whole := numerator / step
  let rest := numerator % step
  if step < 2 * rest || (2 * rest == step && whole % 2 == 1) then whole + 1 else whole

/-- The nearest multiple of the step, in units. -/
def roundUnits (numerator denominator : Nat) : Nat :=
  let exponent := stepExponent numerator denominator
  nearestSteps numerator (denominator * 2 ^ exponent) * 2 ^ exponent

theorem nearestSteps_le {numerator step bound : Nat} (h : numerator / step < bound) :
    nearestSteps numerator step ≤ bound := by
  unfold nearestSteps
  dsimp only
  split <;> omega

theorem div_step_lt (numerator denominator : Nat) :
    numerator / (denominator * 2 ^ stepExponent numerator denominator) < significandLimit := by
  rw [← Nat.div_div_eq_div_mul]
  apply Nat.div_lt_of_lt_mul
  rw [significandLimit, ← Nat.pow_add]
  refine Nat.lt_of_lt_of_le Nat.lt_log2_self (Nat.pow_le_pow_right (by decide) ?_)
  unfold stepExponent
  omega

theorem representable_roundUnits {numerator denominator : Nat}
    (h : roundUnits numerator denominator < limit) :
    Representable (roundUnits numerator denominator) :=
  representable_mul_pow (nearestSteps_le (div_step_lt numerator denominator)) h

def ofRatio (negative : Bool) (numerator denominator : Nat) : Double :=
  if h : roundUnits numerator denominator < limit then
    finite negative (roundUnits numerator denominator) (representable_roundUnits h)
  else infinite negative

def ofInt (n : Int) : Double :=
  ofRatio (n < 0) (n.natAbs * one) 1

end BracketScript.Double
