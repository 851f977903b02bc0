/-! Double precision numbers as exact multiples of the least positive one. All arithmetic on them is
on natural numbers, so that comparing, rounding and cutting off a fraction need no approximation. -/

attribute [local instance (high)] instPowNat

namespace BracketScript

namespace Double

/-- The least positive number is `2 ^ -1074`; it is the unit in which magnitudes are counted. -/
def unitExponent : Nat := 1074

def one : Nat := 2 ^ unitExponent

def limitExponent : Nat := 1024 + unitExponent

/-- The first power of two above every finite number. -/
def limit : Nat := 2 ^ limitExponent

/-- How many bits of a significand follow the first. -/
def fractionBits : Nat := 52

def significandLimit : Nat := 2 ^ (fractionBits + 1)

/-- The magnitudes with a significand of 53 bits, in units. -/
def Representable (units : Nat) : Prop :=
  units < limit ∧
    ∃ significand exponent : Nat,
      significand < significandLimit ∧ units = significand * 2 ^ exponent

theorem limit_pos : 0 < limit :=
  Nat.two_pow_pos limitExponent

theorem representable_zero : Representable 0 :=
  ⟨limit_pos, 0, 0, Nat.two_pow_pos (fractionBits + 1), (Nat.zero_mul _).symm⟩

theorem representable_mul_pow {significand exponent : Nat} (hs : significand ≤ significandLimit)
    (hl : significand * 2 ^ exponent < limit) : Representable (significand * 2 ^ exponent) := by
  refine ⟨hl, ?_⟩
  rcases Nat.lt_or_eq_of_le hs with h | h
  · exact ⟨significand, exponent, h, rfl⟩
  · refine ⟨2 ^ fractionBits, exponent + 1, Nat.pow_lt_pow_right (by decide) (by decide), ?_⟩
    rw [h, significandLimit, ← Nat.pow_add, ← Nat.pow_add]
    congr 1
    omega

end Double

inductive Double where
  | nan
  | infinite (negative : Bool)
  | finite (negative : Bool) (units : Nat) (representable : Double.Representable units)
deriving DecidableEq

namespace Double

def isNaN : Double → Bool
  | nan => true
  | _ => false

def isFinite : Double → Bool
  | finite .. => true
  | _ => false

def zero : Double :=
  finite false 0 representable_zero

/-- Places numbers on the line of integers. Both zeros have the same place and `nan` has none. -/
def rank : Double → Option Int
  | nan => none
  | infinite true => some (-limit)
  | infinite false => some limit
  | finite true units _ => some (-units)
  | finite false units _ => some units

def compare (x y : Double) : Option Ordering :=
  match x.rank, y.rank with
  | some a, some b => some (Ord.compare a b)
  | _, _ => none

/-- The integer nearest to `n` that a word holds. -/
def clamp (n : Int) : Int64 :=
  Int64.ofInt (max Int64.minValue.toInt (min n Int64.maxValue.toInt))

/-- The integer part, at the ends of its range where it does not fit; zero for `nan`. -/
def truncate : Double → Int64
  | nan => 0
  | infinite negative => if negative then Int64.minValue else Int64.maxValue
  | finite negative units _ =>
    let whole : Int := units / one
    clamp (if negative then -whole else whole)

end Double

end BracketScript
