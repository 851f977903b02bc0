/-! Occurrences of one text in another, counted in characters, and what is cut or replaced at them.
An empty text occurs at every boundary, both ends included. -/

namespace BracketScript.Text

/-- The least `i` such that `text` without its first `i` characters starts with `sought`. -/
def indexOf (sought : List Char) : List Char → Option Nat
  | [] => if sought.isEmpty then some 0 else none
  | c :: text =>
    if sought.isPrefixOf (c :: text) then some 0 else (indexOf sought text).map (· + 1)

/-- The greatest such `i`. -/
def lastIndexOf (sought : List Char) : List Char → Option Nat
  | [] => if sought.isEmpty then some 0 else none
  | c :: text =>
    match lastIndexOf sought text with
    | some i => some (i + 1)
    | none => if sought.isPrefixOf (c :: text) then some 0 else none

/-- What stands before and after the first occurrence. -/
def cut (sought text : List Char) : Option (List Char × List Char) :=
  (indexOf sought text).map fun i => (text.take i, text.drop (i + sought.length))

/-- The parts between the occurrences, found from the left without overlap. A separator that takes
no room is cut at once only. -/
def splitOn (separator text : List Char) : List (List Char) :=
  match cut separator text with
  | none => [text]
  | some (part, rest) =>
    if rest.length < text.length then part :: splitOn separator rest else [part, rest]
termination_by text.length

/-- Puts `insertion` at the first `count` boundaries, or at all of them. -/
def insertAtBoundaries (insertion : List Char) : Option Nat → List Char → List Char
  | some 0, text => text
  | _, [] => insertion
  | count, c :: text => insertion ++ c :: insertAtBoundaries insertion (count.map (· - 1)) text

/-- Replaces the first `count` occurrences from the left, or all of them. -/
def replaceOccurrences (sought replacement : List Char) (count : Option Nat) (text : List Char) :
    List Char :=
  if count = some 0 then text
  else
    match cut sought text with
    | none => text
    | some (part, rest) =>
      if rest.length < text.length then
        part ++ replacement ++ replaceOccurrences sought replacement (count.map (· - 1)) rest
      else part ++ replacement ++ rest
termination_by text.length

def replace (sought replacement : List Char) (count : Option Nat) (text : List Char) :
    List Char :=
  if sought.isEmpty then insertAtBoundaries replacement count text
  else replaceOccurrences sought replacement count text

end BracketScript.Text
