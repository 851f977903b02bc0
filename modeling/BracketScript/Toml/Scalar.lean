import BracketScript.Double.Read
import BracketScript.Toml.Text

/-! Numbers, dates and times. -/

namespace BracketScript.Toml

/-- Digits with single underscores between them, which are dropped. -/
def digitsRest (isDigit : Char → Bool) : Nat → List Char → Option (List Char × List Char)
  | fuel + 1, '_' :: c :: s =>
    if isDigit c then (digitsRest isDigit fuel s).map fun (cs, s) => (c :: cs, s) else none
  | _, ['_'] => none
  | fuel + 1, c :: s =>
    if isDigit c then (digitsRest isDigit fuel s).map fun (cs, s) => (c :: cs, s)
    else some ([], c :: s)
  | _, s => some ([], s)

def digits (isDigit : Char → Bool) (s : List Char) : Option (List Char × List Char) :=
  match s with
  | c :: s' => if isDigit c then digitsRest isDigit s.length (c :: s') else none
  | [] => none

def sign : List Char → List Char × List Char
  | '+' :: s => (['+'], s)
  | '-' :: s => (['-'], s)
  | s => ([], s)

/-- A decimal integer as text; zero alone may begin with zero. -/
def decimal (s : List Char) : Option (List Char × List Char) := do
  let (sign, s) := sign s
  match s with
  | '0' :: s => return (sign ++ ['0'], s)
  | s =>
    let (ds, s) ← digits Decimal.isDigit s
    return (sign ++ ds, s)

def power : List Char → Option (List Char × List Char)
  | c :: s =>
    if c = 'e' || c = 'E' then do
      let (sign, s) := sign s
      let (ds, s) ← digits Decimal.isDigit s
      return ('e' :: sign ++ ds, s)
    else none
  | [] => none

/-- The fraction and the power behind the whole part of a float. Gives nothing where there is
neither, and fails where one is broken off. -/
def floatRest? (s : List Char) : Option (Option (List Char × List Char)) :=
  match s with
  | '.' :: s => do
    let (ds, s) ← digits Decimal.isDigit s
    match s with
    | c :: _ =>
      if c = 'e' || c = 'E' then
        let (p, s) ← power s
        return some ('.' :: ds ++ p, s)
      else return some ('.' :: ds, s)
    | [] => return some ('.' :: ds, s)
  | c :: _ => if c = 'e' || c = 'E' then (power s).map some else some none
  | [] => some none

/-- A float may underflow, and overflow below, but not overflow above. -/
def floatValue (s : List Char) : Option Value :=
  match Double.readScientific? s with
  | some (.infinite false) => none
  | some x => some (.float x)
  | none => none

def integerValue (n : Int) : Option Value :=
  if Decimal.inWord n then some (.integer (Int64.ofInt n)) else none

def radixValue (radix : Nat) (digits : List Char) : Nat :=
  digits.foldl (fun n c => radix * n + (hexValue? c).getD 0) 0

def radixInteger (radix : Nat) (isDigit : Char → Bool) (s : List Char) :
    Option (Value × List Char) := do
  let (ds, s) ← digits isDigit s
  return (← integerValue (radixValue radix ds), s)

def signedValue : List Char → Int
  | '-' :: ds => -(Decimal.value ds : Int)
  | '+' :: ds => Decimal.value ds
  | ds => Decimal.value ds

def number (s : List Char) : Option (Value × List Char) :=
  match s with
  | '0' :: 'x' :: s => radixInteger 16 (fun c => (hexValue? c).isSome) s
  | '0' :: 'o' :: s => radixInteger 8 (fun c => '0' ≤ c && c ≤ '7') s
  | '0' :: 'b' :: s => radixInteger 2 (fun c => c == '0' || c == '1') s
  | s =>
    let (sign, unsigned) := sign s
    match unsigned with
    | 'i' :: 'n' :: 'f' :: s => some (.float (.infinite (sign == ['-'])), s)
    | 'n' :: 'a' :: 'n' :: s => some (.float .nan, s)
    | _ => do
      let (whole, s) ← decimal s
      match ← floatRest? s with
      | some (more, s) => return (← floatValue (whole ++ more), s)
      | none => return (← integerValue (signedValue whole), s)

/-- Exactly `count` digits, as a number from `low` to `high`. -/
def field (count low high : Nat) (s : List Char) : Option (Nat × List Char) :=
  let ds := s.take count
  if ds.length = count && ds.all Decimal.isDigit && low ≤ Decimal.value ds &&
      Decimal.value ds ≤ high then
    some (Decimal.value ds, s.drop count)
  else none

def expect (c : Char) : List Char → Option (List Char)
  | c' :: s => if c' = c then some s else none
  | [] => none

def padded (count n : Nat) : List Char :=
  let ds := Decimal.ofNat n
  List.replicate (count - ds.length) '0' ++ ds

def daysIn (year month : Nat) : Nat :=
  if month = 2 then
    if year % 4 = 0 && (year % 100 ≠ 0 || year % 400 = 0) then 29 else 28
  else if month = 4 || month = 6 || month = 9 || month = 11 then 30
  else 31

def date (s : List Char) : Option (List Char × List Char) := do
  let (year, s) ← field 4 0 9999 s
  let (month, s) ← field 2 1 12 (← expect '-' s)
  let (day, s) ← field 2 1 (daysIn year month) (← expect '-' s)
  return (padded 4 year ++ '-' :: padded 2 month ++ '-' :: padded 2 day, s)

/-- The fraction of a second to nine digits, without the zeros at its end. -/
def secondFraction (s : List Char) : Option (List Char × List Char) :=
  match s with
  | '.' :: s =>
    match s.takeWhile Decimal.isDigit with
    | [] => none
    | ds =>
      let kept := ((ds.take 9).reverse.dropWhile (· == '0')).reverse
      some (if kept.isEmpty then [] else '.' :: kept, s.dropWhile Decimal.isDigit)
  | s => some ([], s)

def time (s : List Char) : Option (List Char × List Char) := do
  let (hour, s) ← field 2 0 23 s
  let (minute, s) ← field 2 0 59 (← expect ':' s)
  let (second, s) ← field 2 0 60 (← expect ':' s)
  let (fraction, s) ← secondFraction s
  return (padded 2 hour ++ ':' :: padded 2 minute ++ ':' :: padded 2 second ++ fraction, s)

/-- The distance from universal time, as text; zero is always positive. -/
def offset (s : List Char) : Option (List Char × List Char) :=
  match s with
  | [] => some ([], [])
  | c :: s =>
    if c = 'Z' || c = 'z' then some (['Z'], s)
    else if c = '+' || c = '-' then do
      let (hour, s) ← field 2 0 23 s
      let (minute, s) ← field 2 0 59 (← expect ':' s)
      let sign := if hour = 0 && minute = 0 then '+' else c
      return (sign :: padded 2 hour ++ ':' :: padded 2 minute, s)
    else some ([], c :: s)

/-- A date, a time, or both with or without an offset. -/
def dateTime (s : List Char) : Option (Value × List Char) :=
  match date s with
  | some (day, s) =>
    match s with
    | c :: rest =>
      if c = 'T' || c = 't' || c = ' ' then
        match time rest with
        | some (clock, s) => do
          let (distance, s) ← offset s
          return (.dateTime (String.ofList (day ++ 'T' :: clock ++ distance)), s)
        | none => some (.dateTime (String.ofList day), s)
      else some (.dateTime (String.ofList day), s)
    | [] => some (.dateTime (String.ofList day), [])
  | none => (time s).map fun (clock, s) => (.dateTime (String.ofList clock), s)

def scalar (s : List Char) : Option (Value × List Char) :=
  match s with
  | [] => none
  | c :: _ =>
    if c = '"' || c = '\'' then (string s).map fun (t, s) => (.text t, s)
    else
      match s with
      | 't' :: 'r' :: 'u' :: 'e' :: s => some (.bool true, s)
      | 'f' :: 'a' :: 'l' :: 's' :: 'e' :: s => some (.bool false, s)
      | s => (dateTime s).orElse fun _ => number s

end BracketScript.Toml
