import BracketScript.Pattern.Reader
import BracketScript.Pattern.Search

/-! Replacing every match of a pattern. A dollar sign in the replacement refers to a group. -/

namespace BracketScript

namespace Pattern

/-- A match: where it begins, the place where it ends, and where its groups begin and end. -/
structure Match where
  start : Nat
  stop : Place
  slots : List (Nat × Nat)

def Match.isEmpty (m : Match) : Bool :=
  m.start == m.stop.index

def Match.ofThread (t : Thread) : Match :=
  ⟨(t.slots.lookup 0).getD t.place.index, t.place, t.slots⟩

/-- The part of the text that a group matched; none if the group took no part. -/
def Match.groupText (m : Match) (text : List Char) (i : Nat) : List Char :=
  match m.slots.lookup (2 * i), m.slots.lookup (2 * i + 1) with
  | some start, some stop => (text.drop start).take (stop - start)
  | _, _ => []

def first? (p : Pattern) (origin : Place) : Option Match :=
  (find? p.code origin).map Match.ofThread

/-- The next match from a place on, where an empty match at `taken` does not count. -/
def next? (p : Pattern) (origin : Place) (taken : Option Nat) : Option Match := do
  let m ← p.first? origin
  if m.isEmpty && taken == some m.stop.index then
    let (_, later) ← origin.next?
    p.first? later
  else return m

/-- All matches without overlap, from the left. Each but the first ends after the one before. -/
def matchesFrom (p : Pattern) : Nat → Place → Option Nat → List Match
  | 0, _, _ => []
  | fuel + 1, origin, taken =>
    match p.next? origin taken with
    | some m => m :: matchesFrom p fuel m.stop (some m.stop.index)
    | none => []

def allMatches (p : Pattern) (text : List Char) : List Match :=
  p.matchesFrom (text.length + 2) (.start text) none

inductive Piece where
  | literal (s : List Char)
  | group (i : Nat)
  | named (name : String)
deriving DecidableEq

def isReferenceChar (c : Char) : Bool :=
  Decimal.isDigit c || ('a' ≤ c && c ≤ 'z') || ('A' ≤ c && c ≤ 'Z') || c == '_'

def reference (s : List Char) : Piece :=
  let digits :=
    match s with
    | '+' :: digits => digits
    | digits => digits
  match Decimal.readNat? digits with
  | some i => .group i
  | none => .named (String.ofList s)

/-- What a dollar sign begins, and how many characters after it belong to it. -/
def dollarPiece : List Char → Piece × Nat
  | '$' :: _ => (.literal ['$'], 1)
  | '\x7b' :: s =>
    let name := s.takeWhile (· != '\x7d')
    if name.length < s.length then (reference name, name.length + 2) else (.literal ['$'], 0)
  | s =>
    match s.takeWhile isReferenceChar with
    | [] => (.literal ['$'], 0)
    | name => (reference name, name.length)

def pieces : List Char → List Piece
  | [] => []
  | c :: s =>
    if c = '$' then
      let (piece, taken) := dollarPiece s
      piece :: pieces (s.drop taken)
    else .literal [c] :: pieces s
termination_by s => s.length
decreasing_by all_goals simp only [List.length_drop, List.length_cons]; omega

def Piece.text (p : Pattern) (text : List Char) (m : Match) : Piece → List Char
  | literal s => s
  | group i => m.groupText text i
  | named name =>
    match p.names.lookup name with
    | some i => m.groupText text i
    | none => []

/-- Puts the pieces in the place of each match, from a given index on. -/
def substitute (p : Pattern) (template : List Piece) (text : List Char) :
    Nat → List Match → List Char
  | index, [] => text.drop index
  | index, m :: ms =>
    (text.drop index).take (m.start - index) ++ template.flatMap (Piece.text p text m) ++
      substitute p template text m.stop.index ms

def replaceAll (p : Pattern) (replacement text : List Char) : List Char :=
  p.substitute (pieces replacement) text 0 (p.allMatches text)

end Pattern

end BracketScript
