import BracketScript.Decimal
import BracketScript.Pattern.Automaton
import BracketScript.Pattern.Class

/-! Reading a pattern, with a stack of the groups that are open. -/

namespace BracketScript.Pattern

/-- A part of a sequence, with how deep its parts are nested. A change of flags is a part too, but
one that cannot be repeated. -/
inductive Item where
  | expr (e : Expr) (depth : Nat)
  | flags

/-- What has been read of a group: the alternatives before the current one and the parts of the
current one, both last first. -/
structure Branches where
  done : List (Expr × Nat) := []
  current : List Item := []

/-- A group that is open: its number if it captures, what stood before it, and the flags that hold
again after it. -/
structure OpenGroup where
  index : Option Nat
  outer : Branches
  flags : Flags

structure Reading where
  groups : List OpenGroup := []
  branches : Branches := {}
  flags : Flags := {}
  next : Nat := 1
  names : List (String × Nat) := []

def sequence (items : List Item) : Expr × Nat :=
  match items.filterMap fun item => match item with | .expr e d => some (e, d) | .flags => none with
  | [] => (.empty, 0)
  | [part] => part
  | parts =>
    (parts.foldr (fun part e => .concat part.1 e) .empty, (parts.map (·.2)).foldl max 0 + 1)

def Branches.close (b : Branches) : Expr × Nat :=
  let last := sequence b.current.reverse
  match b.done with
  | [] => last
  | done =>
    (done.foldl (fun e branch => .alternate branch.1 e) last.1,
      (done.map (·.2)).foldl max last.2 + 1)

namespace Reading

def push (r : Reading) (item : Item) : Reading :=
  { r with branches := { r.branches with current := item :: r.branches.current } }

def pushExpr (r : Reading) (e : Expr) (depth : Nat) : Reading :=
  r.push (.expr e depth)

def openGroup (r : Reading) (index : Option Nat) (flags : Flags) : Reading :=
  { r with
    groups := ⟨index, r.branches, r.flags⟩ :: r.groups
    branches := {}
    flags := flags
    next := if index.isSome then r.next + 1 else r.next }

def closeGroup (r : Reading) : Option Reading :=
  match r.groups with
  | [] => none
  | g :: groups =>
    let (e, depth) := r.branches.close
    let e := match g.index with
      | some i => .group i e
      | none => e
    some ({ r with groups := groups, branches := g.outer, flags := g.flags }.pushExpr e (depth + 1))

def alternate (r : Reading) : Reading :=
  { r with
    branches :=
      { done := sequence r.branches.current.reverse :: r.branches.done, current := [] } }

def repeatLast (r : Reading) (min : Nat) (max : Option Nat) (greedy : Bool) : Option Reading :=
  match r.branches.current with
  | .expr e depth :: items =>
    let part := Item.expr (e.repeated min max (greedy != r.flags.swapGreed)) (depth + 1)
    some { r with branches := { r.branches with current := part :: items } }
  | _ => none

end Reading

def setFlag (f : Flags) (on : Bool) : Char → Option Flags
  | 'i' => some { f with caseless := on }
  | 'm' => some { f with multiLine := on }
  | 's' => some { f with dotAll := on }
  | 'U' => some { f with swapGreed := on }
  | 'u' => some { f with unicode := on }
  | 'R' => some { f with carriageReturns := on }
  | 'x' => some { f with spaced := on }
  | _ => none

/-- Flags up to a colon or a closing parenthesis, no letter twice. Those after a hyphen are
switched off. Gives the flags, whether there were any, and the rest from that character on. -/
def readFlags (f : Flags) (on : Bool) (seen : List Char) : List Char →
    Option (Flags × Bool × List Char)
  | [] => none
  | c :: s =>
    if c = ':' || c = ')' then
      if seen.head? = some '-' then none else some (f, !seen.isEmpty, c :: s)
    else if seen.contains c then none
    else if c = '-' then readFlags f false ('-' :: seen) s
    else do
      let f ← setFlag f on c
      readFlags f on (c :: seen) s

def isNameStart (c : Char) : Bool :=
  c == '_' || Text.isAlphabetic c.toNat

def isNameChar (c : Char) : Bool :=
  c == '_' || c == '.' || c == '[' || c == ']' || Text.isAlphanumeric c.toNat

def readName (s : List Char) : Option (String × List Char) :=
  let name := s.takeWhile (· != '>')
  match name, s.dropWhile (· != '>') with
  | c :: cs, _ :: s =>
    if isNameStart c && cs.all isNameChar then some (String.ofList name, s) else none
  | _, _ => none

def openNamed (r : Reading) (s : List Char) : Option (Reading × List Char) := do
  let (name, s) ← readName s
  if (r.names.lookup name).isSome then none
  return ({ r.openGroup (some r.next) r.flags with names := (name, r.next) :: r.names }, s)

/-- What an opening parenthesis begins: a group, or a change of flags. There is no looking ahead or
behind. -/
def readOpening (r : Reading) (s : List Char) : Option (Reading × List Char) :=
  match skip r.flags s with
  | '?' :: 'P' :: '<' :: s => openNamed r s
  | '?' :: '<' :: '=' :: _ => none
  | '?' :: '<' :: '!' :: _ => none
  | '?' :: '<' :: s => openNamed r s
  | '?' :: s => do
    match ← readFlags r.flags true [] s with
    | (flags, any, ')' :: s) =>
      if any then some ({ r with flags := flags }.push .flags, s) else none
    | (flags, _, _ :: s) => some (r.openGroup none flags, s)
    | _ => none
  | s => some (r.openGroup (some r.next) r.flags, s)

/-- A repetition that a question mark follows is lazy. -/
def readGreed (s : List Char) : Bool × List Char :=
  match s with
  | '?' :: s => (false, s)
  | s => (true, s)

/-- Digits, between which blanks do not count in a spaced pattern. -/
def takeDigits (f : Flags) (fuel : Nat) (s : List Char) : List Char × List Char :=
  match fuel, s with
  | fuel + 1, c :: s =>
    if Decimal.isDigit c then
      let (digits, s) := takeDigits f fuel (skip f s)
      (c :: digits, s)
    else ([], c :: s)
  | _, s => ([], s)

/-- A count of at most 32 bits, with blanks around it. -/
def readCount (f : Flags) (s : List Char) : Option (Nat × List Char) :=
  let (digits, s) := takeDigits f s.length (s.dropWhile Text.isBlank)
  match Decimal.readNat? digits with
  | some n => if n < UInt32.size then some (n, skip f (s.dropWhile Text.isBlank)) else none
  | none => none

def readCounts (f : Flags) (s : List Char) : Option (Nat × Option Nat × List Char) := do
  let (min, s) ← readCount f (skip f s)
  match s with
  | '\x7d' :: s => return (min, some min, s)
  | ',' :: s =>
    match skip f s with
    | '\x7d' :: s => return (min, none, s)
    | s =>
      let (max, s) ← readCount f s
      match s with
      | '\x7d' :: s => if min ≤ max then return (min, some max, s) else none
      | _ => none
  | _ => none

def readRepetition (r : Reading) (min : Nat) (max : Option Nat) (s : List Char) :
    Option (Reading × List Char) := do
  let (greedy, s) := readGreed s
  return (← r.repeatLast min max greedy, s)

def step (r : Reading) (c : Char) (s : List Char) : Option (Reading × List Char) :=
  let atom (a : Atom) (s : List Char) : Option (Reading × List Char) := do
    return (r.pushExpr (← a.expr r.flags) 0, s)
  match c with
  | '(' => readOpening r s
  | ')' => do return (← r.closeGroup, s)
  | '|' => some (r.alternate, s)
  | '[' => do
    let (set, depth, s) ← readClass r.flags s
    return (r.pushExpr (.set set) (2 * depth), s)
  | '?' => readRepetition r 0 (some 1) s
  | '*' => readRepetition r 0 none s
  | '+' => readRepetition r 1 none s
  | '\x7b' => do
    let (min, max, s) ← readCounts r.flags s
    readRepetition r min max (skip r.flags s)
  | '\\' => do
    let (a, s) ← readEscape r.flags s
    atom a s
  | '.' => atom .dot s
  | '^' => atom (.look .lineStart) s
  | '$' => atom (.look .lineEnd) s
  | c => atom (.char c false) s

/-- Every step takes up a character at least. -/
def readFrom : Nat → Reading → List Char → Option Reading
  | 0, _, _ => none
  | fuel + 1, r, s =>
    match skip r.flags s with
    | [] => if r.groups.isEmpty then some r else none
    | c :: s => do
      let (r, s) ← step r c s
      readFrom fuel r s

/-- Patterns nested deeper are refused. -/
def depthLimit : Nat := 250

end BracketScript.Pattern

namespace BracketScript

structure Pattern where
  code : Pattern.Compiled
  names : List (String × Nat)

def Pattern.read? (s : List Char) : Option Pattern := do
  let r ← readFrom (s.length + 1) {} s
  let (e, depth) := r.branches.close
  if depth ≤ depthLimit && weight e + 128 ≤ weightLimit then some ⟨compile e, r.names⟩ else none

end BracketScript
