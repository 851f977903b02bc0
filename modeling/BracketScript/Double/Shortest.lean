import BracketScript.Decimal
import BracketScript.Double

/-! The decimal notation of a double: the fewest digits that read back as the same number, nearest
to it among those, never with an exponent. -/

attribute [local instance (high)] instPowNat

namespace BracketScript.Double

/-- A positive decimal `digits * 10 ^ exponent`. -/
structure Digits where
  digits : Nat
  exponent : Int
deriving DecidableEq, Repr

/-- The numbers that round to one magnitude, bounded in quarters of a unit. -/
structure Interval where
  low : Nat
  high : Nat
  closed : Bool

/-- The gap below a power of two is half the gap above it. -/
def interval (units : Nat) : Interval :=
  let exponent := units.log2 - fractionBits
  let step := 2 ^ exponent
  let below := if exponent ≠ 0 && units == 2 ^ (fractionBits + exponent) then step else 2 * step
  ⟨4 * units - below, 4 * units + 2 * step, units / step % 2 == 0⟩

def Interval.contains (i : Interval) (numerator denominator : Nat) : Bool :=
  if i.closed then
    i.low * denominator ≤ 4 * numerator && 4 * numerator ≤ i.high * denominator
  else i.low * denominator < 4 * numerator && 4 * numerator < i.high * denominator

def leadingExponent (units : Nat) : Int :=
  if one ≤ units then (Decimal.ofNat (units / one)).length - 1
  else
    match (List.range 325).find? fun j => one ≤ units * 10 ^ j with
    | some j => -j
    | none => -325

/-- The decimal with `count` digits that lies nearest to the magnitude among its two neighbours
there that read back as it. A tie goes up. -/
def neighbour? (units count : Nat) : Option Digits :=
  let exponent := leadingExponent units - count + 1
  let up := 10 ^ exponent.toNat
  let down := 10 ^ (-exponent).toNat
  let numerator := units * down
  let denominator := one * up
  let floor := numerator / denominator
  let rest := numerator % denominator
  let reads := fun n => (interval units).contains (n * denominator) down
  match reads floor, reads (floor + 1) with
  | true, true => some ⟨if 2 * rest < denominator then floor else floor + 1, exponent⟩
  | true, false => some ⟨floor, exponent⟩
  | false, true => some ⟨floor + 1, exponent⟩
  | false, false => none

/-- Seventeen digits always suffice. -/
def shortest (units : Nat) : Digits :=
  match (List.range 17).findSome? fun n => neighbour? units (n + 1) with
  | some d => if d.digits = 10 then ⟨1, d.exponent + 1⟩ else d
  | none => ⟨units / one, 0⟩

def zeros (n : Nat) : List Char :=
  List.replicate n '0'

def Digits.positional (d : Digits) : List Char :=
  let digits := Decimal.ofNat d.digits
  let places := (-d.exponent).toNat
  if places = 0 then digits ++ zeros d.exponent.toNat
  else if places < digits.length then
    digits.take (digits.length - places) ++ '.' :: digits.drop (digits.length - places)
  else '0' :: '.' :: zeros (places - digits.length) ++ digits

/-- Whole numbers have no fraction, and both zeros are written alike. -/
def toText : Double → String
  | nan => "NaN"
  | infinite false => "Infinity"
  | infinite true => "-Infinity"
  | finite negative units _ =>
    if units = 0 then "0"
    else String.ofList ((if negative then ['-'] else []) ++ (shortest units).positional)

end BracketScript.Double
