import BracketScript.Pattern.Automaton
import Std.Data.HashSet

/-! Search for the first match. Of the matches that begin leftmost, it is the one that the branches
with the higher priority lead to. No state is entered twice at one place: what the first visit could
not reach, the second cannot either. -/

namespace BracketScript.Pattern

/-- A place in a text: how many characters are before it, the last of these, and those after it. -/
structure Place where
  index : Nat
  before : Option Char
  after : List Char

namespace Place

def start (text : List Char) : Place := ⟨0, none, text⟩

def next? (p : Place) : Option (Char × Place) :=
  match p.after with
  | [] => none
  | c :: rest => some (c, ⟨p.index + 1, some c, rest⟩)

def onwards (index : Nat) (before : Option Char) : List Char → List Place
  | [] => [⟨index, before, []⟩]
  | c :: rest => ⟨index, before, c :: rest⟩ :: onwards (index + 1) (some c) rest

end Place

def isWordChar (unicode : Bool) (c : Char) : Bool :=
  if unicode then Text.isWord c.toNat else c.isAlphanum || c == '_'

def Look.holds (l : Look) (p : Place) : Bool :=
  let after := p.after.head?
  let wordBefore (unicode : Bool) : Bool := p.before.any (isWordChar unicode)
  let wordAfter (unicode : Bool) : Bool := after.any (isWordChar unicode)
  match l with
  | textStart => p.before.isNone
  | textEnd => after.isNone
  | lineStart => p.before.all (· == '\n')
  | lineEnd => after.all (· == '\n')
  | anyLineStart =>
    p.before.all fun c => c == '\n' || (c == '\r' && after != some '\n')
  | anyLineEnd =>
    after.all fun c => c == '\r' || (c == '\n' && p.before != some '\r')
  | wordBoundary u => wordBefore u != wordAfter u
  | notWordBoundary u => wordBefore u == wordAfter u
  | wordStart u => !wordBefore u && wordAfter u
  | wordEnd u => wordBefore u && !wordAfter u
  | notAfterWord u => !wordBefore u
  | notBeforeWord u => !wordAfter u

/-- A state still to be entered, with the slots filled on the way to it, the last first. -/
structure Thread where
  state : Nat
  place : Place
  slots : List (Nat × Nat)

/-- What an instruction leads to, by priority. -/
def Thread.successors (t : Thread) : Instr → List Thread
  | .accept => []
  | .set s next =>
    match t.place.next? with
    | some (c, place) => if s.contains c.toNat then [⟨next, place, t.slots⟩] else []
    | none => []
  | .look l next => if l.holds t.place then [{ t with state := next }] else []
  | .save slot next => [⟨next, t.place, (slot, t.place.index) :: t.slots⟩]
  | .split first second => [{ t with state := first }, { t with state := second }]

/-- Takes the thread with the highest priority again and again until one is accepted. -/
def advance (code : Code) : Nat → Std.HashSet (Nat × Nat) → List Thread → Option Thread
  | 0, _, _ => none
  | _, _, [] => none
  | fuel + 1, visited, t :: ts =>
    if visited.contains (t.state, t.place.index) then advance code fuel visited ts
    else
      match code[t.state]? with
      | some .accept => some t
      | some i =>
        advance code fuel (visited.insert (t.state, t.place.index)) (t.successors i ++ ts)
      | none => advance code fuel visited ts

/-- The first match at or after a place. Every thread taken up was there at the start or is one of
two successors of a state entered for the first time. -/
def find? (c : Compiled) (origin : Place) : Option Thread :=
  let places := Place.onwards origin.index origin.before origin.after
  let pairs := c.code.size * places.length
  advance c.code (2 * pairs + places.length + 1) ∅ (places.map fun p => ⟨c.entry, p, []⟩)

end BracketScript.Pattern
