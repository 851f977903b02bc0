import BracketScript.Double

/-! The interchange format: a sign, eleven bits of exponent and 52 of significand. -/

attribute [local instance (high)] instPowNat

namespace BracketScript.Double

def exponentBits : Nat := 11

/-- The exponent of what is not a finite number. -/
def topExponent : Nat := 2 ^ exponentBits - 1

theorem representable_bits {exponent significand : Nat} (he : exponent < topExponent - 1)
    (hs : significand < significandLimit) : Representable (significand * 2 ^ exponent) := by
  refine representable_mul_pow (Nat.le_of_lt hs) (Nat.lt_of_lt_of_le
    (Nat.mul_lt_mul_of_pos_right hs (Nat.two_pow_pos exponent)) ?_)
  have he : exponent < 2046 := he
  rw [limit, significandLimit, ← Nat.pow_add]
  exact Nat.pow_le_pow_right (by decide)
    (by unfold limitExponent unitExponent fractionBits; omega)

theorem fraction_lt (bits : Nat) : bits % 2 ^ fractionBits < 2 ^ fractionBits :=
  Nat.mod_lt _ (Nat.two_pow_pos fractionBits)

theorem significandLimit_eq : significandLimit = 2 ^ fractionBits + 2 ^ fractionBits :=
  Nat.two_pow_succ fractionBits

def ofBits (bits : Nat) : Double :=
  let negative := bits / 2 ^ (fractionBits + exponentBits) % 2 == 1
  let exponent := bits / 2 ^ fractionBits % 2 ^ exponentBits
  let fraction := bits % 2 ^ fractionBits
  if h₀ : exponent = 0 then
    finite negative (fraction * 2 ^ 0) (representable_bits (by decide)
      (by have := fraction_lt bits; have := significandLimit_eq; omega))
  else if h : exponent < topExponent then
    finite negative ((2 ^ fractionBits + fraction) * 2 ^ (exponent - 1))
      (representable_bits (Nat.sub_lt_sub_right (Nat.pos_of_ne_zero h₀) h)
        (by have := fraction_lt bits; have := significandLimit_eq; omega))
  else if fraction = 0 then infinite negative
  else nan

def signBit (negative : Bool) : Nat :=
  if negative then 2 ^ (fractionBits + exponentBits) else 0

def toBits : Double → Nat
  | nan => topExponent * 2 ^ fractionBits + 2 ^ (fractionBits - 1)
  | infinite negative => signBit negative + topExponent * 2 ^ fractionBits
  | finite negative units _ =>
    let exponent := units.log2 - fractionBits
    signBit negative +
      (if units < 2 ^ fractionBits then units
       else (exponent + 1) * 2 ^ fractionBits + (units / 2 ^ exponent - 2 ^ fractionBits))

end BracketScript.Double
