import BracketScript.Toml.Document

/-! White space, comments, strings and keys. -/

namespace BracketScript.Toml

/-- A reader takes something off the front of a text, or fails. -/
abbrev Reader (α : Type) := List Char → Option (α × List Char)

def isSpace (c : Char) : Bool :=
  c == ' ' || c == '\t'

/-- Neither a control character nor the end of a line. -/
def isPrintable (c : Char) : Bool :=
  c == '\t' || (0x20 ≤ c.toNat && c.toNat != 0x7F)

def skipSpace (s : List Char) : List Char :=
  s.dropWhile isSpace

def newline? : List Char → Option (List Char)
  | '\n' :: s => some s
  | '\r' :: '\n' :: s => some s
  | _ => none

def skipComment : List Char → List Char
  | '#' :: s => s.dropWhile isPrintable
  | s => s

def lineEnd? (s : List Char) : Option (List Char) :=
  match s with
  | [] => some []
  | s => newline? s

/-- Whatever may stand behind something that ends a line. -/
def trailing? (s : List Char) : Option (List Char) :=
  lineEnd? (skipComment (skipSpace s))

/-- Spaces, line ends and comments; a comment needs a line end behind it. -/
def skipLines : Nat → List Char → List Char
  | 0, s => s
  | fuel + 1, s =>
    match skipSpace s with
    | '#' :: s =>
      match newline? (s.dropWhile isPrintable) with
      | some s => skipLines fuel s
      | none => '#' :: s
    | s =>
      match newline? s with
      | some s => skipLines fuel s
      | none => s

def skipBlank (s : List Char) : List Char :=
  skipLines (s.length + 1) s

def hexValue? (c : Char) : Option Nat :=
  if '0' ≤ c && c ≤ '9' then some (c.toNat - '0'.toNat)
  else if 'a' ≤ c && c ≤ 'f' then some (c.toNat - 'a'.toNat + 10)
  else if 'A' ≤ c && c ≤ 'F' then some (c.toNat - 'A'.toNat + 10)
  else none

def hexChar (count n : Nat) : Reader Char := fun s =>
  match count, s with
  | 0, s => if h : n.isValidChar then some (Char.ofNatAux n h, s) else none
  | count + 1, c :: s => do hexChar count (16 * n + (← hexValue? c)) s
  | _ + 1, [] => none

def escape : Reader Char
  | 'b' :: s => some ('\x08', s)
  | 't' :: s => some ('\t', s)
  | 'n' :: s => some ('\n', s)
  | 'f' :: s => some ('\x0C', s)
  | 'r' :: s => some ('\r', s)
  | '"' :: s => some ('"', s)
  | '\\' :: s => some ('\\', s)
  | 'u' :: s => hexChar 4 0 s
  | 'U' :: s => hexChar 8 0 s
  | _ => none

def basicRest : Nat → Reader (List Char)
  | 0, _ => none
  | fuel + 1, s =>
    match s with
    | [] => none
    | '"' :: s => some ([], s)
    | '\\' :: s => do
      let (c, s) ← escape s
      let (cs, s) ← basicRest fuel s
      return (c :: cs, s)
    | c :: s => do
      if !isPrintable c then none
      let (cs, s) ← basicRest fuel s
      return (c :: cs, s)

/-- The rest of a string in single quotes, which has no escapes. -/
def literalRest (s : List Char) : Option (List Char × List Char) :=
  let body := s.takeWhile (· != '\'')
  match s.dropWhile (· != '\'') with
  | _ :: s => if body.all isPrintable then some (body, s) else none
  | [] => none

/-- Quotes at the front of a text: up to two are part of a string in triple quotes, and three end
it, with up to two more before them. Gives those that belong to the string, and whether it ends. -/
def quotes (quote : Char) (s : List Char) : Nat × Bool × List Char :=
  let count := min 5 (s.takeWhile (· == quote)).length
  if count < 3 then (count, false, s.drop count) else (count - 3, true, s.drop count)

def skipSpaceLines : List Char → List Char
  | '\r' :: '\n' :: s => skipSpaceLines s
  | c :: s => if isSpace c || c = '\n' then skipSpaceLines s else c :: s
  | [] => []

/-- A backslash at the end of a line takes the line end and all blanks after it away. -/
def escapedLineEnd? (s : List Char) : Option (List Char) :=
  (newline? (skipSpace s)).map skipSpaceLines

/-- The rest of a string in triple quotes. A line end is a line feed, however it is written. -/
def multilineRest (quote : Char) (escapes : Bool) : Nat → Reader (List Char)
  | 0, _ => none
  | fuel + 1, s =>
    match newline? s, s with
    | some s, _ => do
      let (cs, s) ← multilineRest quote escapes fuel s
      return ('\n' :: cs, s)
    | none, [] => none
    | none, c :: s =>
      if c = quote then
        match quotes quote (c :: s) with
        | (count, true, s) => some (List.replicate count quote, s)
        | (count, false, s) => do
          let (cs, s) ← multilineRest quote escapes fuel s
          return (List.replicate count quote ++ cs, s)
      else if escapes && c = '\\' then
        match escapedLineEnd? s with
        | some s => multilineRest quote escapes fuel s
        | none => do
          let (c, s) ← escape s
          let (cs, s) ← multilineRest quote escapes fuel s
          return (c :: cs, s)
      else do
        if !isPrintable c then none
        let (cs, s) ← multilineRest quote escapes fuel s
        return (c :: cs, s)

/-- A line end right behind the opening quotes does not count. -/
def multiline (quote : Char) (escapes : Bool) (s : List Char) : Option (List Char × List Char) :=
  let s := (newline? s).getD s
  multilineRest quote escapes (s.length + 1) s

def string : Reader String
  | '"' :: '"' :: '"' :: s => do
    let (cs, s) ← multiline '"' true s
    return (String.ofList cs, s)
  | '\'' :: '\'' :: '\'' :: s => do
    let (cs, s) ← multiline '\'' false s
    return (String.ofList cs, s)
  | '"' :: s => do
    let (cs, s) ← basicRest (s.length + 1) s
    return (String.ofList cs, s)
  | '\'' :: s => do
    let (cs, s) ← literalRest s
    return (String.ofList cs, s)
  | _ => none

def isBareKeyChar (c : Char) : Bool :=
  c.isAlphanum || c == '_' || c == '-'

def simpleKey : Reader String
  | '"' :: s => do
    let (cs, s) ← basicRest (s.length + 1) s
    return (String.ofList cs, s)
  | '\'' :: s => do
    let (cs, s) ← literalRest s
    return (String.ofList cs, s)
  | s =>
    match s.takeWhile isBareKeyChar with
    | [] => none
    | key => some (String.ofList key, s.dropWhile isBareKeyChar)

/-- The parts of a key between its dots, with the spaces around them. -/
def keyParts : Nat → Reader (List String)
  | 0, _ => none
  | fuel + 1, s => do
    let (part, s) ← simpleKey (skipSpace s)
    match skipSpace s with
    | '.' :: s =>
      let (parts, s) ← keyParts fuel s
      return (part :: parts, s)
    | s => return ([part], s)

/-- Values may be nested, and keys may have parts, up to this bound. -/
def nestingLimit : Nat := 80

/-- A key as the path to a table and the name in it. -/
def key (s : List Char) : Option ((List String × String) × List Char) := do
  let (parts, s) ← keyParts (s.length + 1) s
  if nestingLimit ≤ parts.length then none
  return ((parts.dropLast, ← parts.getLast?), s)

end BracketScript.Toml
