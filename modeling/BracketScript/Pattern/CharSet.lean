import BracketScript.Text.Blank
import BracketScript.Text.Category
import BracketScript.Text.Fold
import BracketScript.Text.Word

/-! Sets of characters as patterns write them. -/

namespace BracketScript.Pattern

inductive CharSet where
  | ranges (rs : List (Nat × Nat))
  | word
  | digit
  | space
  | category (c : Text.Category)
  | union (a b : CharSet)
  | inter (a b : CharSet)
  | compl (a : CharSet)
  /-- All characters equal but for case to one of the set. -/
  | caseless (a : CharSet)
  /-- The same for the letters `A` to `Z` alone. -/
  | caselessAscii (a : CharSet)

namespace CharSet

def asciiVariants (n : Nat) : List Nat :=
  if 65 ≤ n && n ≤ 90 then [n, n + 32]
  else if 97 ≤ n && n ≤ 122 then [n, n - 32]
  else [n]

def contains : CharSet → Nat → Bool
  | ranges rs, n => Text.inRanges rs n
  | word, n => Text.isWord n
  | digit, n => Text.isDecimalDigit n
  | space, n => Text.isBlank (Char.ofNat n)
  | category c, n => c.contains n
  | union a b, n => a.contains n || b.contains n
  | inter a b, n => a.contains n && b.contains n
  | compl a, n => !a.contains n
  | caseless a, n => (Text.caseVariants n).any a.contains
  | caselessAscii a, n => (asciiVariants n).any a.contains

def empty : CharSet := ranges []

def single (c : Char) : CharSet := ranges [(c.toNat, c.toNat)]

def diff (a b : CharSet) : CharSet := inter a (compl b)

def symmDiff (a b : CharSet) : CharSet := union (diff a b) (diff b a)

/-- No character from U+0080 to U+00FF, the other bytes, is in the set. -/
def isAscii (a : CharSet) : Bool :=
  (List.range 128).all fun n => !a.contains (128 + n)

/-- The classes written `[:name:]`. -/
def posix? (name : String) : Option CharSet :=
  (·.map fun (low, high) => (low.toNat, high.toNat)) |> fun points =>
  ([("alnum", [('0', '9'), ('A', 'Z'), ('a', 'z')]),
    ("alpha", [('A', 'Z'), ('a', 'z')]),
    ("ascii", [('\x00', '\x7F')]),
    ("blank", [('\t', '\t'), (' ', ' ')]),
    ("cntrl", [('\x00', '\x1F'), ('\x7F', '\x7F')]),
    ("digit", [('0', '9')]),
    ("graph", [('!', '~')]),
    ("lower", [('a', 'z')]),
    ("print", [(' ', '~')]),
    ("punct", [('!', '/'), (':', '@'), ('[', '\x60'), ('\x7B', '~')]),
    ("space", [('\t', '\r'), (' ', ' ')]),
    ("upper", [('A', 'Z')]),
    ("word", [('0', '9'), ('A', 'Z'), ('_', '_'), ('a', 'z')]),
    ("xdigit", [('0', '9'), ('A', 'F'), ('a', 'f')])].lookup name).map fun rs =>
      ranges (points rs)

def rangeCount : CharSet → Nat
  | ranges rs => rs.length
  | word => 800
  | digit => 71
  | space => 11
  | category c => c.runs.length
  | union a b | inter a b => a.rangeCount + b.rangeCount
  | compl a => a.rangeCount + 1
  | caseless a | caselessAscii a => 2 * a.rangeCount

end CharSet

end BracketScript.Pattern
