import BracketScript.Pattern.Escape

/-! Classes in square brackets, read with a stack: classes may hold classes, and the set operations
`&&`, `--` and `~~` bind from left to right, each weaker than writing sets side by side. -/

namespace BracketScript.Pattern

inductive SetOperation where
  | intersection
  | difference
  | symmetricDifference
deriving DecidableEq

def SetOperation.apply : SetOperation → CharSet → CharSet → CharSet
  | intersection => .inter
  | difference => .diff
  | symmetricDifference => .symmDiff

/-- What waits for the set that is being read: the class around it with what that holds so far, or
an operation with its left side. -/
inductive SetFrame where
  | opened (outer : CharSet) (negated : Bool)
  | operation (op : SetOperation) (left : CharSet)

def settle (f : Flags) (stack : List SetFrame) (set : CharSet) : CharSet × List SetFrame :=
  match stack with
  | .operation op left :: stack => (op.apply (foldSet f left) (foldSet f set), stack)
  | stack => (set, stack)

/-- Hyphens at the front are literal. -/
def leadingHyphens (f : Flags) (set : CharSet) (any : Bool) (fuel : Nat) (s : List Char) :
    CharSet × Bool × List Char :=
  match fuel, s with
  | fuel + 1, '-' :: s => leadingHyphens f (.union set (.single '-')) true fuel (skip f s)
  | _, s => (set, any, s)

/-- The front of a class after its bracket: whether it is negated, and the hyphens or the closing
bracket that are literal there. -/
def openClass (f : Flags) (s : List Char) : Bool × CharSet × List Char :=
  let (negated, s) :=
    match skip f s with
    | '^' :: s => (true, skip f s)
    | s => (false, s)
  let (set, any, s) := leadingHyphens f .empty false s.length s
  match any, s with
  | false, ']' :: s => (negated, .single ']', skip f s)
  | _, s => (negated, set, s)

/-- A class such as `[:alpha:]`, after its first bracket. What is not one is read as a class that
opens there. -/
def posixClass? (s : List Char) : Option (CharSet × Bool × List Char) :=
  match s with
  | ':' :: s =>
    let (negated, s) :=
      match s with
      | '^' :: s => (true, s)
      | s => (false, s)
    match s.dropWhile (· != ':') with
    | ':' :: ']' :: rest =>
      (CharSet.posix? (String.ofList (s.takeWhile (· != ':')))).map fun set =>
        (set, negated, rest)
    | _ => none
  | _ => none

def classAtom (f : Flags) : List Char → Option (Atom × List Char)
  | [] => none
  | '\\' :: s => readEscape f s
  | c :: s => some (.char c false, s)

/-- An end of a range, which without the Unicode flag is an ASCII character. -/
def classChar (f : Flags) : Atom → Option Char
  | .char c _ => if f.unicode || c.toNat < 128 then some c else none
  | _ => none

def classAtomSet (f : Flags) : Atom → Option CharSet
  | .named set negated => namedSet f set negated
  | .property set negated => propertyClass f set negated
  | atom => (classChar f atom).map .single

/-- A range, or the one atom that no range begins with. -/
def classRange (f : Flags) (s : List Char) : Option (CharSet × List Char) := do
  let (first, s) ← classAtom f s
  let s := skip f s
  match s with
  | [] => none
  | '-' :: s' =>
    let s' := skip f s'
    match s' with
    | [] => none
    | c :: _ =>
      if c = ']' || c = '-' then return (← classAtomSet f first, s)
      let (last, s') ← classAtom f s'
      let low ← classChar f first
      let high ← classChar f last
      if low ≤ high then return (.ranges [(low.toNat, high.toNat)], s') else none
  | s => return (← classAtomSet f first, s)

def closeClass (f : Flags) (negated : Bool) (set : CharSet) : Option CharSet :=
  checked f (negateSet negated (foldSet f set))

/-- An operation between two sets, after which the next set begins. -/
def operation? : List Char → Option (SetOperation × List Char)
  | '&' :: '&' :: s => some (.intersection, s)
  | '-' :: '-' :: s => some (.difference, s)
  | '~' :: '~' :: s => some (.symmetricDifference, s)
  | _ => none

/-- Reads to the end of the outermost class. Every step takes up a character at least. The depth of
nesting is counted, and the greatest is returned. -/
def readClassItems (f : Flags) :
    Nat → List SetFrame → Nat → CharSet → List Char → Option (CharSet × Nat × List Char)
  | 0, _, _, _, _ => none
  | fuel + 1, stack, depth, set, s => do
    let s := skip f s
    if let some (op, s) := operation? s then
      let (left, stack) := settle f stack set
      readClassItems f fuel (.operation op left :: stack) depth .empty s
    else
      match s with
      | [] => none
      | '[' :: s =>
        match posixClass? s with
        | some (posix, negated, s) =>
          let posix ← closeClass f negated posix
          readClassItems f fuel stack depth (.union set posix) s
        | none =>
          let (negated, inner, s) := openClass f s
          readClassItems f fuel (.opened set negated :: stack) (max depth (stack.length + 1))
            inner s
      | ']' :: s =>
        match settle f stack set with
        | (set, .opened outer negated :: stack) =>
          let set ← closeClass f negated set
          if stack.isEmpty then return (set, depth, s)
          readClassItems f fuel stack depth (.union outer set) s
        | _ => none
      | s =>
        let (range, s) ← classRange f s
        readClassItems f fuel stack depth (.union set range) s

def readClass (f : Flags) (s : List Char) : Option (CharSet × Nat × List Char) :=
  let (negated, set, s) := openClass f s
  readClassItems f (s.length + 1) [.opened .empty negated] 1 set s

end BracketScript.Pattern
