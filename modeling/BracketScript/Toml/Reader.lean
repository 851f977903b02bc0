import BracketScript.Toml.Scalar

/-! Reading whole documents. -/

namespace BracketScript.Toml

/-- The items of an array after its bracket; a comma may follow the last. -/
def arrayRest (value : List Char → Option (Value × List Char)) :
    Nat → List Char → Option (List Value × List Char)
  | 0, _ => none
  | fuel + 1, s => do
    match skipBlank s with
    | ']' :: s => return ([], s)
    | s =>
      let (v, s) ← value s
      match skipBlank s with
      | ',' :: s =>
        let (vs, s) ← arrayRest value fuel s
        return (v :: vs, s)
      | ']' :: s => return ([v], s)
      | _ => none

def pair (value : List Char → Option (Value × List Char)) (s : List Char) :
    Option ((List String × String × Value) × List Char) := do
  let ((path, name), s) ← key s
  let (v, s) ← value (skipSpace (← expect '=' s))
  return ((path, name, v), skipSpace s)

/-- The keys of a table written on one line, at least one. -/
def inlineRest (value : List Char → Option (Value × List Char)) :
    Nat → Branch → List Char → Option (Branch × List Char)
  | 0, _, _ => none
  | fuel + 1, b, s => do
    let ((path, name, v), s) ← pair value s
    let b ← b.assign path name v
    match s with
    | ',' :: s => inlineRest value fuel b s
    | '}' :: s => return (b, s)
    | _ => none

/-- A value with at most `depth` arrays and tables around one another. -/
def value : Nat → List Char → Option (Value × List Char)
  | 0, s => scalar s
  | depth + 1, s =>
    match s with
    | '[' :: s => do
      if depth = 0 then none
      let (vs, s) ← arrayRest (value depth) (s.length + 1) s
      return (.array vs, s)
    | '{' :: s =>
      if depth = 0 then none
      else
        match skipSpace s with
        | '}' :: s => some (.table [], s)
        | s => do
          let (b, s) ← inlineRest (value depth) (s.length + 1) {} s
          return (b.toItem.toValue, s)
    | s => scalar s

/-- The document so far, and the path of the table that the next keys belong to. -/
structure Building where
  root : Branch := {}
  header : List String := []

def header (s : List Char) (b : Building) : Option (Building × List Char) :=
  match s with
  | '[' :: s => do
    let ((path, name), s) ← key s
    let s ← expect ']' (← expect ']' s)
    return (⟨← b.root.openTables path name, path ++ [name]⟩, ← trailing? s)
  | s => do
    let ((path, name), s) ← key s
    let s ← expect ']' s
    return (⟨← b.root.openTable path name, path ++ [name]⟩, ← trailing? s)

def assignment (s : List Char) (b : Building) : Option (Building × List Char) := do
  let ((path, name, v), s) ← pair (value nestingLimit) s
  let root ← Branch.change false (·.assign path name v) b.header b.root
  return ({ b with root := root }, ← trailing? s)

/-- One line of a document after another. Every step takes up a character at least. -/
def lines : Nat → Building → List Char → Option Building
  | 0, _, _ => none
  | fuel + 1, b, s =>
    match skipSpace s with
    | [] => some b
    | '#' :: s => (trailing? ('#' :: s)).bind (lines fuel b)
    | '[' :: s => do
      let (b, s) ← header s b
      lines fuel b s
    | s =>
      match newline? s with
      | some s => lines fuel b s
      | none => do
        let (b, s) ← assignment s b
        lines fuel b s

/-- The entries of a document; a byte order mark may stand in front. -/
def read? (source : String) : Option (List (String × Value)) := do
  let s :=
    match source.toList with
    | '\uFEFF' :: s => s
    | s => s
  let b ← lines (s.length + 1) {} s
  return entriesToValues b.root.entries

end BracketScript.Toml
