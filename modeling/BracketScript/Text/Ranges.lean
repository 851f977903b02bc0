/-! Sets and maps of characters given by tables of code point runs. -/

namespace BracketScript.Text

/-- The code points `low, low + step, …, high`, each sent to the one `shift` places on. -/
structure Run where
  low : Nat
  high : Nat
  step : Nat
  shift : Int

def Run.covers (r : Run) (n : Nat) : Bool :=
  r.low ≤ n && n ≤ r.high && (n - r.low) % r.step == 0

def Run.target (r : Run) (n : Nat) : Nat :=
  (n + r.shift).toNat

/-- The code points that a run sends to `n`; there is at most one. -/
def Run.source? (r : Run) (n : Nat) : Option Nat :=
  let m := (n - r.shift).toNat
  if r.covers m && r.target m == n then some m else none

/-- Points outside every run stay where they are. -/
def shift (runs : List Run) (n : Nat) : Nat :=
  match runs.find? (·.covers n) with
  | some r => r.target n
  | none => n

def inRanges (ranges : List (Nat × Nat)) (n : Nat) : Bool :=
  ranges.any fun (low, high) => low ≤ n && n ≤ high

end BracketScript.Text
