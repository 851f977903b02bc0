import BracketScript.Decimal
import BracketScript.Double.Round

/-! Doubles read from decimal text, each the nearest to the number written. -/

attribute [local instance (high)] instPowNat

namespace BracketScript.Double

/-- A sign that may stand in front, and what follows it. -/
def sign : List Char → Bool × List Char
  | '-' :: rest => (true, rest)
  | '+' :: rest => (false, rest)
  | rest => (false, rest)

/-- Digits around at most one point, with at least one digit: the whole part and the fraction. -/
def plainParts? (s : List Char) : Option (List Char × List Char) :=
  let whole := s.takeWhile Decimal.isDigit
  match s.dropWhile Decimal.isDigit with
  | [] => if whole.isEmpty then none else some (whole, [])
  | '.' :: fraction =>
    if fraction.all Decimal.isDigit && !(whole.isEmpty && fraction.isEmpty) then
      some (whole, fraction)
    else none
  | _ => none

/-- The number whose decimal notation has these digits before and after the point. -/
def ofParts (negative : Bool) (whole fraction : List Char) : Double :=
  ofRatio negative (Decimal.value (whole ++ fraction) * one) (10 ^ fraction.length)

/-- Plain decimal notation: a sign or none, digits, and at most one point. -/
def readPlain? (s : List Char) : Option Double :=
  let (negative, rest) := sign s
  (plainParts? rest).map fun (whole, fraction) => ofParts negative whole fraction

/-- The nearest to `digits * 10 ^ exponent`. Far outside the range of doubles the power need not
be computed. -/
def ofScientific (negative : Bool) (digits : Nat) (exponent : Int) : Double :=
  let leading : Int := (Decimal.ofNat digits).length + exponent
  if digits = 0 || leading < -400 then finite negative 0 representable_zero
  else if 400 < leading then infinite negative
  else ofRatio negative (digits * 10 ^ exponent.toNat * one) (10 ^ (-exponent).toNat)

def isExponentMark (c : Char) : Bool :=
  c == 'e' || c == 'E'

/-- Plain decimal notation, with a power of ten after it if the text has one. -/
def readScientific? (s : List Char) : Option Double :=
  let (negative, rest) := sign s
  let mantissa := rest.takeWhile (!isExponentMark ·)
  let power? : Option Int :=
    match rest.dropWhile (!isExponentMark ·) with
    | [] => some 0
    | _ :: power =>
      let (negativePower, digits) := sign power
      (Decimal.readNat? digits).map fun n => if negativePower then -n else n
  match plainParts? mantissa, power? with
  | some (whole, fraction), some power =>
    some (ofScientific negative (Decimal.value (whole ++ fraction)) (power - fraction.length))
  | _, _ => none

end BracketScript.Double
