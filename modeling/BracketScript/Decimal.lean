/-! Integers in decimal notation. -/

namespace BracketScript.Decimal

def isDigit (c : Char) : Bool :=
  '0' ≤ c && c ≤ '9'

def digitValue (c : Char) : Nat :=
  c.toNat - '0'.toNat

/-- The number that a run of digits denotes, leading zeros allowed. -/
def value (digits : List Char) : Nat :=
  digits.foldl (fun n c => 10 * n + digitValue c) 0

/-- A run of digits, which may not be empty. -/
def readNat? (s : List Char) : Option Nat :=
  if !s.isEmpty && s.all isDigit then some (value s) else none

def ofNat (n : Nat) : List Char :=
  Nat.toDigits 10 n

def ofInt (n : Int) : List Char :=
  if n < 0 then '-' :: ofNat n.natAbs else ofNat n.natAbs

def inWord (n : Int) : Bool :=
  Int64.minValue.toInt ≤ n && n ≤ Int64.maxValue.toInt

/-- An integer with an optional minus sign. -/
def readInt? : List Char → Option Int
  | '-' :: digits => (readNat? digits).map fun n => -(n : Int)
  | digits => (readNat? digits).map Int.ofNat

/-- The word whose decimal notation is exactly `s`: no sign but a minus, no leading zeros. -/
def readWord? (s : List Char) : Option Int64 :=
  match readInt? s with
  | some n => if inWord n && ofInt n == s then some (Int64.ofInt n) else none
  | none => none

theorem toInt_ofInt_of_inWord {n : Int} (h : inWord n = true) : (Int64.ofInt n).toInt = n := by
  simp only [inWord, Bool.and_eq_true, decide_eq_true_eq] at h
  obtain ⟨hl, hu⟩ := h
  have hmin : Int64.minValue.toInt = -2 ^ 63 := by decide
  have hmax : Int64.maxValue.toInt = 2 ^ 63 - 1 := by decide
  exact Int64.toInt_ofInt_of_le (by omega) (by omega)

/-- The notation of a word is read back from nothing else. -/
theorem ofInt_of_readWord? {s : List Char} {n : Int64} (h : readWord? s = some n) :
    ofInt n.toInt = s := by
  rw [readWord?] at h
  split at h
  · split at h
    · rename_i k _ hk
      simp only [Bool.and_eq_true, beq_iff_eq] at hk
      obtain rfl := Option.some.inj h
      rw [toInt_ofInt_of_inWord hk.1, hk.2]
    · exact absurd h nofun
  · exact absurd h nofun

end BracketScript.Decimal
