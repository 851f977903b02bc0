import BracketScript.Double

/-! Documents of tables, and the rules by which their lines build them. A table may be written in
pieces only as long as no line has defined it as a whole. -/

namespace BracketScript.Toml

/-- What a key can stand for. Dates and times are kept as text. -/
inductive Value where
  | text (s : String)
  | integer (n : Int64)
  | float (x : Double)
  | bool (b : Bool)
  | dateTime (s : String)
  | array (items : List Value)
  | table (entries : List (String × Value))
deriving Inhabited

inductive Item where
  | value (v : Value)
  /-- A table is implied while only its parts have been written, and dotted if the dots of a key
  have made it. -/
  | table (implied dotted : Bool) (entries : List (String × Item))
  /-- Tables written one after the other under the same header. -/
  | tables (items : List (List (String × Item)))

mutual

def Item.toValue : Item → Value
  | .value v => v
  | .table _ _ entries => .table (entriesToValues entries)
  | .tables items => .array (tablesToValues items)

def entriesToValues : List (String × Item) → List (String × Value)
  | [] => []
  | (key, item) :: entries => (key, item.toValue) :: entriesToValues entries

def tablesToValues : List (List (String × Item)) → List Value
  | [] => []
  | entries :: items => .table (entriesToValues entries) :: tablesToValues items

end

structure Branch where
  implied : Bool := false
  dotted : Bool := false
  entries : List (String × Item) := []

namespace Branch

def toItem (b : Branch) : Item :=
  .table b.implied b.dotted b.entries

def put (b : Branch) (key : String) (item : Item) : Branch :=
  { b with entries := (key, item) :: b.entries.filter (·.1 != key) }

/-- Changes the table at the end of a path. Tables missing on the way are implied; of tables under
one header the last is meant. The dots of a key lead only through tables that are implied. -/
def change (dotted : Bool) (f : Branch → Option Branch) : List String → Branch → Option Branch
  | [], b => f b
  | key :: path, b =>
    match b.entries.lookup key with
    | none => do
      let inner ← change dotted f path { implied := true, dotted := dotted }
      return b.put key inner.toItem
    | some (.value _) => none
    | some (.table implied made entries) =>
      if dotted && !implied then none
      else do
        let inner ← change dotted f path ⟨implied, made, entries⟩
        return b.put key inner.toItem
    | some (.tables items) =>
      match items.reverse with
      | [] => none
      | last :: earlier => do
        let inner ← change dotted f path { entries := last }
        return b.put key (.tables (inner.entries :: earlier).reverse)

/-- Adds a key with a value, where the key may have dots. A table is made either by the dots of keys
or by a header, never by both. -/
def assign (path : List String) (key : String) (v : Value) : Branch → Option Branch :=
  change true (fun b =>
    if b.dotted == path.isEmpty || (b.entries.lookup key).isSome then none
    else some (b.put key (.value v))) path

/-- Begins the table of a header. Only one that is implied can be begun again. -/
def openTable (path : List String) (key : String) : Branch → Option Branch :=
  change false (fun b =>
    match b.entries.lookup key with
    | none => some (b.put key (.table false false []))
    | some (.table true false entries) => some (b.put key (.table false false entries))
    | some _ => none) path

def openTables (path : List String) (key : String) : Branch → Option Branch :=
  change false (fun b =>
    match b.entries.lookup key with
    | none => some (b.put key (.tables [[]]))
    | some (.tables items) => some (b.put key (.tables (items ++ [[]])))
    | some _ => none) path

end Branch

end BracketScript.Toml
