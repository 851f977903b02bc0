/-! Finite maps from texts. The entry set last comes first. -/

namespace BracketScript

structure Table (α : Type) where
  entries : List (String × α)
  distinct : (entries.map (·.1)).Nodup

namespace Table

variable {α : Type}

def empty : Table α := ⟨[], List.nodup_nil⟩

instance : Inhabited (Table α) := ⟨empty⟩

def get? (t : Table α) (key : String) : Option α :=
  (t.entries.find? fun e => e.1 == key).map (·.2)

def contains (t : Table α) (key : String) : Bool :=
  (t.get? key).isSome

def without (entries : List (String × α)) (key : String) : List (String × α) :=
  entries.filter fun e => e.1 != key

theorem distinct_without {entries : List (String × α)} (h : (entries.map (·.1)).Nodup)
    (key : String) : ((without entries key).map (·.1)).Nodup :=
  h.sublist (List.filter_sublist.map _)

def erase (t : Table α) (key : String) : Table α :=
  ⟨without t.entries key, distinct_without t.distinct key⟩

def insert (t : Table α) (key : String) (value : α) : Table α :=
  ⟨(key, value) :: without t.entries key, by
    simp only [List.map_cons, List.nodup_cons]
    refine ⟨?_, distinct_without t.distinct key⟩
    simp [without]⟩

def keys (t : Table α) : List String :=
  t.entries.map (·.1)

def size (t : Table α) : Nat :=
  t.entries.length

def ofList (entries : List (String × α)) : Table α :=
  entries.foldl (fun t e => t.insert e.1 e.2) empty

/-- The first table with the entries of the second put over it. -/
def extend (t : Table α) (entries : List (String × α)) : Table α :=
  entries.foldl (fun t e => t.insert e.1 e.2) t

@[simp] theorem get?_empty (key : String) : (empty : Table α).get? key = none := rfl

@[simp] theorem get?_insert_self (t : Table α) (key : String) (value : α) :
    (t.insert key value).get? key = some value := by
  simp [get?, insert]

theorem get?_without {entries : List (String × α)} {key other : String} (h : key ≠ other) :
    (without entries other).find? (fun e => e.1 == key) = entries.find? fun e => e.1 == key := by
  rw [without, List.find?_filter]
  congr 1
  funext e
  by_cases he : e.1 = key <;> simp [he, h]

@[simp] theorem get?_insert_of_ne (t : Table α) {key other : String} (value : α)
    (h : key ≠ other) : (t.insert other value).get? key = t.get? key := by
  simp [get?, insert, get?_without h, Ne.symm h]

@[simp] theorem get?_erase_self (t : Table α) (key : String) : (t.erase key).get? key = none := by
  simp [get?, erase, without]

@[simp] theorem get?_erase_of_ne (t : Table α) {key other : String} (h : key ≠ other) :
    (t.erase other).get? key = t.get? key := by
  simp [get?, erase, get?_without h]

end Table

end BracketScript
