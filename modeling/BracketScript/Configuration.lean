import BracketScript.Context
import BracketScript.Toml.Reader

/-! Configuration files: the options and the preset variables of an engine. Tables are no values of
scripts; variables that hold one are left out, each with a warning. -/

namespace BracketScript

structure Configuration where
  options : Options := {}
  /-- In the order of their names. -/
  vars : List (String × Value) := []

structure Warning where
  key : String
  message : String
deriving DecidableEq

namespace Warning

def toText (w : Warning) : String :=
  s!"{w.key}: {w.message}"

def ofVariable (name : String) : Warning :=
  ⟨s!"vars.{name}", "tables cannot be used as script values"⟩

end Warning

namespace Configuration

mutual

/-- The value of a script that a value in a file stands for, if there is no table in it. -/
def scriptValue? : Toml.Value → Option Value
  | .text s => some (.text s)
  | .integer n => some (.int n)
  | .float x => some (.float x)
  | .bool b => some (.bool b)
  | .dateTime s => some (.text s)
  | .array items => (scriptValues? items).map .list
  | .table _ => none

def scriptValues? : List Toml.Value → Option (List Value)
  | [] => some []
  | item :: items => do
    let v ← scriptValue? item
    let vs ← scriptValues? items
    return v :: vs

end

/-- The entries of a table. A date or a time counts as a table of one entry, its text. -/
def entries? : Toml.Value → Option (List (String × Toml.Value))
  | .table entries => some entries
  | .dateTime s => some [("$__toml_private_datetime", .text s)]
  | _ => none

def flag? (default : Bool) : Option Toml.Value → Option Bool
  | none => some default
  | some (.bool b) => some b
  | some _ => none

/-- The options by name or, in an array, by position. -/
def options? : Toml.Value → Option Options
  | .array items => do
    let strict ← flag? false items[0]?
    let trim ← flag? true items[1]?
    return ⟨strict, trim⟩
  | v => do
    let entries ← entries? v
    let strict ← flag? false (entries.lookup "strictBrackets")
    let trim ← flag? true (entries.lookup "trimOutput")
    return ⟨strict, trim⟩

def sortByName (entries : List (String × Toml.Value)) : List (String × Toml.Value) :=
  entries.mergeSort fun a b => a.1 ≤ b.1

def takeVariables : List (String × Toml.Value) → List (String × Value) × List Warning
  | [] => ([], [])
  | (name, v) :: entries =>
    let (vars, warnings) := takeVariables entries
    match scriptValue? v with
    | some v => ((name, v) :: vars, warnings)
    | none => (vars, .ofVariable name :: warnings)

/-- The configuration of a document, with warnings in the order of the names. -/
def ofDocument? (document : List (String × Toml.Value)) :
    Option (Configuration × List Warning) := do
  let options ← ((document.lookup "runtime").map options?).getD (some {})
  let entries ← ((document.lookup "vars").map entries?).getD (some [])
  let (vars, warnings) := takeVariables (sortByName entries)
  return (⟨options, vars⟩, warnings)

def read? (source : String) : Option (Configuration × List Warning) :=
  (Toml.read? source).bind ofDocument?

end Configuration

end BracketScript
