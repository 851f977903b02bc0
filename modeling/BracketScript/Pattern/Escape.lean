import BracketScript.Pattern.Expr
import BracketScript.Text.Search

/-! The atoms of patterns: single characters, escapes, classes of characters with a name, and
conditions on a place. -/

namespace BracketScript.Pattern

/-- What the flags of a pattern switch. -/
structure Flags where
  caseless : Bool := false
  multiLine : Bool := false
  dotAll : Bool := false
  swapGreed : Bool := false
  unicode : Bool := true
  carriageReturns : Bool := false
  /-- Blanks and comments do not count. -/
  spaced : Bool := false

/-- Drops blanks and comments; a comment ends with its line. -/
def skipSpaces (inComment : Bool) : List Char → List Char
  | [] => []
  | c :: s =>
    if inComment then skipSpaces (c != '\n') s
    else if Text.isBlank c then skipSpaces false s
    else if c = '#' then skipSpaces true s
    else c :: s

def skip (f : Flags) (s : List Char) : List Char :=
  if f.spaced then skipSpaces false s else s

inductive NamedSet where
  | digit
  | space
  | word
deriving DecidableEq

inductive LookKind where
  | textStart
  | textEnd
  | lineStart
  | lineEnd
  | boundary
  | notBoundary
  | wordStart
  | wordEnd
  | notAfterWord
  | notBeforeWord
deriving DecidableEq

inductive Atom where
  /-- A character; one written with two hexadecimal digits may stand for a byte. -/
  | char (c : Char) (asByte : Bool)
  | named (set : NamedSet) (negated : Bool)
  | property (set : CharSet) (negated : Bool)
  | dot
  | look (kind : LookKind)

def isMeta (c : Char) : Bool :=
  "\\.+*?()|[]\x7b\x7d^$#&-~".toList.contains c

/-- Every other ASCII character but letters, digits and angle brackets may be escaped too. -/
def isEscapable (c : Char) : Bool :=
  isMeta c || (c.toNat < 128 && !c.isAlphanum && c != '<' && c != '>')

def hexValue? (c : Char) : Option Nat :=
  if '0' ≤ c && c ≤ '9' then some (c.toNat - '0'.toNat)
  else if 'a' ≤ c && c ≤ 'f' then some (c.toNat - 'a'.toNat + 10)
  else if 'A' ≤ c && c ≤ 'F' then some (c.toNat - 'A'.toNat + 10)
  else none

def scalar? (n : Nat) : Option Char :=
  if h : n.isValidChar then some (Char.ofNatAux n h) else none

def readHexDigits (f : Flags) : Nat → Nat → List Char → Option (Nat × List Char)
  | 0, n, s => some (n, s)
  | count + 1, n, c :: s => do
    let d ← hexValue? c
    readHexDigits f count (16 * n + d) (skip f s)
  | _ + 1, _, [] => none

def readHexBraced (f : Flags) (fuel : Nat) (n : Nat) (any : Bool) (s : List Char) :
    Option (Nat × List Char) :=
  match fuel, s with
  | fuel + 1, c :: s =>
    if c = '\x7d' then if any then some (n, skip f s) else none
    else do
      let d ← hexValue? c
      readHexBraced f fuel (16 * n + d) true (skip f s)
  | _, _ => none

def readHex (f : Flags) (count : Nat) (s : List Char) : Option (Atom × List Char) :=
  match s with
  | '\x7b' :: s => do
    let s := skip f s
    let (n, s) ← readHexBraced f (s.length + 1) 0 false s
    let c ← scalar? n
    return (.char c false, s)
  | s => do
    let (n, s) ← readHexDigits f count 0 s
    let c ← scalar? n
    return (.char c (count == 2), s)

def letterCategories (letter : Char) : List Text.Category :=
  Text.Category.all.filter fun c => c.abbreviation.toList.head? == some letter

def unionOf (cs : List Text.Category) : CharSet :=
  cs.foldr (fun c s => .union (.category c) s) .empty

/-- Long names of categories and of groups of them, as `looseName` leaves them. -/
def categoryNames : List (String × String) :=
  [("letter", "l"), ("casedletter", "lc"), ("uppercaseletter", "lu"), ("lowercaseletter", "ll"),
   ("titlecaseletter", "lt"), ("modifierletter", "lm"), ("otherletter", "lo"), ("mark", "m"),
   ("combiningmark", "m"), ("nonspacingmark", "mn"), ("spacingmark", "mc"),
   ("enclosingmark", "me"), ("number", "n"), ("decimalnumber", "nd"), ("letternumber", "nl"),
   ("othernumber", "no"), ("punctuation", "p"), ("connectorpunctuation", "pc"),
   ("dashpunctuation", "pd"), ("openpunctuation", "ps"), ("closepunctuation", "pe"),
   ("initialpunctuation", "pi"), ("finalpunctuation", "pf"), ("otherpunctuation", "po"),
   ("symbol", "s"), ("mathsymbol", "sm"), ("currencysymbol", "sc"), ("modifiersymbol", "sk"),
   ("othersymbol", "so"), ("separator", "z"), ("spaceseparator", "zs"), ("lineseparator", "zl"),
   ("paragraphseparator", "zp"), ("other", "c"), ("control", "cc"), ("format", "cf"),
   ("privateuse", "co"), ("unassigned", "cn"), ("digit", "nd"), ("punct", "p"), ("cntrl", "cc")]

def assigned : CharSet :=
  unionOf Text.Category.all

def categorySet? (name : String) : Option CharSet :=
  match Text.Category.all.find? fun c => c.abbreviation.toLower == name with
  | some c => some (.category c)
  | none =>
    match name with
    | "l" => some (unionOf (letterCategories 'L'))
    | "m" => some (unionOf (letterCategories 'M'))
    | "n" => some (unionOf (letterCategories 'N'))
    | "p" => some (unionOf (letterCategories 'P'))
    | "s" => some (unionOf (letterCategories 'S'))
    | "z" => some (unionOf (letterCategories 'Z'))
    | "lc" => some (unionOf [.uppercaseLetter, .lowercaseLetter, .titlecaseLetter])
    | "c" => some (.union (unionOf (letterCategories 'C')) (.compl assigned))
    | "cn" => some (.compl assigned)
    | _ => none

/-- Names are compared without regard to case, blanks, hyphens and underscores. -/
def looseName (s : List Char) : String :=
  let letters := (s.filter fun c => c != ' ' && c != '-' && c != '_').map Char.toLower
  match letters with
  | 'i' :: 's' :: more => String.ofList (if more.isEmpty then letters else more)
  | letters => String.ofList letters

def propertySet? (s : List Char) : Option CharSet :=
  let name := looseName s
  let name := (categoryNames.lookup name).getD name
  match name with
  | "any" => some (.ranges [(0, 0x10FFFF)])
  | "ascii" => some (.ranges [(0, 127)])
  | "assigned" => some assigned
  | "alphabetic" | "alpha" => some (.ranges Text.alphabeticRanges)
  | "whitespace" | "wspace" | "space" => some .space
  | name => categorySet? name

/-- A property with a value: only the general category has values here. -/
def valueSet? (property value : List Char) : Option CharSet :=
  if ["generalcategory", "gc"].contains (looseName property) then
    let name := looseName value
    categorySet? ((categoryNames.lookup name).getD name)
  else none

def bracedProperty (s : List Char) : Option (CharSet × Bool) :=
  match Text.cut ['!', '='] s with
  | some (property, value) => (valueSet? property value).map fun set => (set, true)
  | none =>
    match Text.cut [':'] s with
    | some (property, value) => (valueSet? property value).map fun set => (set, false)
    | none =>
      match Text.cut ['='] s with
      | some (property, value) => (valueSet? property value).map fun set => (set, false)
      | none => (propertySet? s).map fun set => (set, false)

def untilBrace (f : Flags) (fuel : Nat) (s : List Char) : Option (List Char × List Char) :=
  match fuel, s with
  | fuel + 1, c :: s =>
    if c = '\x7d' then some ([], s)
    else (untilBrace f fuel (skip f s)).map fun (name, s) => (c :: name, s)
  | _, _ => none

def readProperty (f : Flags) (negated : Bool) (s : List Char) : Option (Atom × List Char) :=
  match s with
  | [] => none
  | '\x7b' :: s => do
    let s := skip f s
    let (name, s) ← untilBrace f (s.length + 1) s
    let (set, inverted) ← bracedProperty name
    return (.property set (negated != inverted), s)
  | c :: s => do
    if c = '\\' then none
    let set ← propertySet? [c]
    return (.property set negated, skip f s)

def isBoundaryNameChar (c : Char) : Bool :=
  c.isAlpha || c == '-'

def boundaryName (f : Flags) (fuel : Nat) (s : List Char) : List Char × List Char :=
  match fuel, s with
  | fuel + 1, c :: s =>
    if isBoundaryNameChar c then
      let (name, s) := boundaryName f fuel (skip f s)
      (c :: name, s)
    else ([], c :: s)
  | _, s => ([], s)

/-- A boundary may be followed by the name of a kind of boundary in braces. What cannot be a name
is left to be read as a repetition. -/
def readBoundary (f : Flags) (s : List Char) : Option (Atom × List Char) :=
  match s with
  | '\x7b' :: inner =>
    let inner := skip f inner
    match inner with
    | [] => none
    | c :: _ =>
      if !isBoundaryNameChar c then some (.look .boundary, s)
      else
        match boundaryName f (inner.length + 1) inner with
        | (name, '\x7d' :: s) =>
          match String.ofList name with
          | "start" => some (.look .wordStart, s)
          | "end" => some (.look .wordEnd, s)
          | "start-half" => some (.look .notAfterWord, s)
          | "end-half" => some (.look .notBeforeWord, s)
          | _ => none
        | _ => none
  | s => some (.look .boundary, s)

def readEscape (f : Flags) : List Char → Option (Atom × List Char)
  | [] => none
  | c :: s =>
    match c with
    | 'x' => readHex f 2 (skip f s)
    | 'u' => readHex f 4 (skip f s)
    | 'U' => readHex f 8 (skip f s)
    | 'p' => readProperty f false (skip f s)
    | 'P' => readProperty f true (skip f s)
    | 'd' => some (.named .digit false, s)
    | 'D' => some (.named .digit true, s)
    | 's' => some (.named .space false, s)
    | 'S' => some (.named .space true, s)
    | 'w' => some (.named .word false, s)
    | 'W' => some (.named .word true, s)
    | 'a' => some (.char '\x07' false, s)
    | 'f' => some (.char '\x0C' false, s)
    | 't' => some (.char '\t' false, s)
    | 'n' => some (.char '\n' false, s)
    | 'r' => some (.char '\r' false, s)
    | 'v' => some (.char '\x0B' false, s)
    | 'A' => some (.look .textStart, s)
    | 'z' => some (.look .textEnd, s)
    | 'b' => readBoundary f s
    | 'B' => some (.look .notBoundary, s)
    | '<' => some (.look .wordStart, s)
    | '>' => some (.look .wordEnd, s)
    | c => if isEscapable c then some (.char c false, s) else none

/-! What atoms mean under the flags in force. Without the Unicode flag sets are sets of bytes, and
one that holds other bytes than ASCII would match pieces of characters, which is refused. -/

def foldSet (f : Flags) (s : CharSet) : CharSet :=
  if !f.caseless then s
  else if f.unicode then .caseless s
  else .caselessAscii s

def negateSet (negated : Bool) (s : CharSet) : CharSet :=
  if negated then .compl s else s

def checked (f : Flags) (s : CharSet) : Option CharSet :=
  if f.unicode || s.isAscii then some s else none

def NamedSet.set (f : Flags) : NamedSet → CharSet
  | digit => if f.unicode then .digit else .ranges [(48, 57)]
  | space => if f.unicode then .space else .ranges [(9, 13), (32, 32)]
  | word => if f.unicode then .word else .ranges [(48, 57), (65, 90), (95, 95), (97, 122)]

def namedSet (f : Flags) (set : NamedSet) (negated : Bool) : Option CharSet :=
  checked f (negateSet negated (set.set f))

def propertyClass (f : Flags) (set : CharSet) (negated : Bool) : Option CharSet :=
  if f.unicode then some (negateSet negated (foldSet f set)) else none

/-- A byte that is not ASCII is no character. -/
def literalAllowed (f : Flags) (c : Char) (asByte : Bool) : Bool :=
  f.unicode || !asByte || c.toNat < 128

def dotSet (f : Flags) : Option CharSet :=
  if !f.unicode then none
  else if f.dotAll then some (.ranges [(0, 0x10FFFF)])
  else if f.carriageReturns then some (.compl (.ranges [(10, 10), (13, 13)]))
  else some (.compl (.ranges [(10, 10)]))

def LookKind.look (f : Flags) : LookKind → Look
  | textStart => .textStart
  | textEnd => .textEnd
  | lineStart =>
    if !f.multiLine then .textStart else if f.carriageReturns then .anyLineStart else .lineStart
  | lineEnd =>
    if !f.multiLine then .textEnd else if f.carriageReturns then .anyLineEnd else .lineEnd
  | boundary => .wordBoundary f.unicode
  | notBoundary => .notWordBoundary f.unicode
  | wordStart => .wordStart f.unicode
  | wordEnd => .wordEnd f.unicode
  | notAfterWord => .notAfterWord f.unicode
  | notBeforeWord => .notBeforeWord f.unicode

def Atom.expr (f : Flags) : Atom → Option Expr
  | char c asByte =>
    if literalAllowed f c asByte then some (.set (foldSet f (.single c))) else none
  | named set negated => (namedSet f set negated).map .set
  | property set negated => (propertyClass f set negated).map .set
  | dot => (dotSet f).map .set
  | look kind => some (.look (kind.look f))

end BracketScript.Pattern
