import BracketScript.Proofs.Names
import BracketScript.Scope.Registry

/-! What one scope binds after a name was bound or unbound in it, or a registry was drained into
it. -/

namespace BracketScript

variable {κ : Type}

namespace Table

variable {α : Type}

theorem toFinset_keys_insert (t : Table α) (key : String) (value : α) :
    (t.insert key value).keys.toFinset = {key} ∪ t.keys.toFinset := by
  ext other
  have hkeys : other ∈ (t.insert key value).keys ↔ other = key ∨ other ∈ t.keys ∧ other ≠ key := by
    simp only [keys, insert, without, List.map_cons, List.mem_cons, List.mem_map, List.mem_filter,
      bne_iff_ne]
    grind
  rw [List.mem_toFinset, hkeys, Finset.mem_union, Finset.mem_singleton, List.mem_toFinset]
  tauto

theorem size_eq (t : Table α) : t.size = t.keys.toFinset.card := by
  have hcard : t.keys.toFinset.card = t.keys.length := List.toFinset_card_of_nodup t.distinct
  rw [hcard, keys, size, List.length_map]

end Table

namespace Scope

theorem find?_bind (s : Scope κ) (name other : String) (code : κ) :
    (s.bind other code).find? name =
      if canonicalName other = canonicalName name then some code else s.find? name := by
  rw [find?, Scope.bind]
  split
  · rename_i h
    rw [(normalName_eq_iff other name).mpr h, Table.get?_insert_self]
  · rename_i h
    have hne : normalName name ≠ normalName other := fun he =>
      h ((normalName_eq_iff other name).mp he.symm)
    rw [Table.get?_insert_of_ne _ _ hne, find?]

theorem find?_unbind (s : Scope κ) (name other : String) :
    (s.unbind other).find? name =
      if canonicalName other = canonicalName name then none else s.find? name := by
  rw [find?, unbind]
  split
  · rename_i h
    rw [(normalName_eq_iff other name).mpr h, Table.get?_erase_self]
  · rename_i h
    have hne : normalName name ≠ normalName other := fun he =>
      h ((normalName_eq_iff other name).mp he.symm)
    rw [Table.get?_erase_of_ne _ hne, find?]

theorem bind_normalName (s : Scope κ) (name : String) (code : κ) :
    s.bind (normalName name) code = s.bind name code := by
  rw [Scope.bind, normalName_normalName, Scope.bind]

/-- All its keys are normal names. -/
def Normal (s : Scope κ) : Prop :=
  ∀ key ∈ s.keys, normalName key = key

theorem normal_empty : Normal (Table.empty : Scope κ) := by
  intro key hkey
  cases hkey

theorem Normal.bind {s : Scope κ} (h : s.Normal) (name : String) (code : κ) :
    (s.bind name code).Normal := by
  intro key hkey
  have hmem : key ∈ (s.insert (normalName name) code).keys.toFinset := List.mem_toFinset.mpr hkey
  rw [Table.toFinset_keys_insert, Finset.mem_union, Finset.mem_singleton, List.mem_toFinset] at hmem
  obtain rfl | hold := hmem
  · exact normalName_normalName name
  · exact h key hold

theorem Normal.unbind {s : Scope κ} (h : s.Normal) (name : String) : (s.unbind name).Normal := by
  intro key hkey
  obtain ⟨e, he, rfl⟩ := List.mem_map.mp hkey
  exact h e.1 (List.mem_map_of_mem (List.mem_of_mem_filter he))

end Scope

namespace Registry

theorem entries_ofList (given : List (String × κ)) :
    (ofList given).entries = given.map fun e => (normalName e.1, e.2) := by
  have hfold (r : Registry κ) : (given.foldl (fun r e => r.register e.1 e.2) r).entries =
      r.entries ++ given.map fun e => (normalName e.1, e.2) := by
    induction given generalizing r with
    | nil => exact (List.append_nil _).symm
    | cons e given ih =>
      rw [List.foldl_cons, ih, register, List.append_assoc]
      rfl
  exact hfold {}

/-- The last of the entries that are called so. -/
def last? (r : Registry κ) (name : String) : Option κ :=
  (r.entries.reverse.find? fun e => canonicalName e.1 == canonicalName name).map (·.2)

theorem last?_ofList (given : List (String × κ)) (name : String) :
    (ofList given).last? name =
      (given.reverse.find? fun e => canonicalName e.1 == canonicalName name).map (·.2) := by
  rw [last?, entries_ofList, ← List.map_reverse, List.find?_map, Option.map_map]
  simp only [Function.comp_def, canonicalName_normalName]

theorem drainInto_ofList (given : List (String × κ)) (s : Scope κ) :
    (ofList given).drainInto s = given.foldl (fun s e => s.bind e.1 e.2) s := by
  rw [drainInto, entries_ofList, List.foldl_map]
  simp only [Scope.bind_normalName]

theorem find?_drainInto (r : Registry κ) (s : Scope κ) (name : String) :
    (r.drainInto s).find? name = (r.last? name).or (s.find? name) := by
  obtain ⟨entries⟩ := r
  induction entries using List.reverseRecOn with
  | nil => rfl
  | append_singleton entries e ih =>
    have hdrain : drainInto ⟨entries ++ [e]⟩ s = (drainInto ⟨entries⟩ s).bind e.1 e.2 := by
      rw [drainInto, List.foldl_append]
      rfl
    rw [hdrain, Scope.find?_bind, ih, last?, last?, List.reverse_append, List.reverse_singleton,
      List.singleton_append, List.find?_cons]
    by_cases h : canonicalName e.1 = canonicalName name
    · rw [if_pos h, beq_iff_eq.mpr h]
      rfl
    · rw [if_neg h, beq_eq_false_iff_ne.mpr h]

theorem toFinset_keys_drainInto (r : Registry κ) (s : Scope κ) :
    (r.drainInto s).keys.toFinset =
      (r.entries.map (normalName ·.1)).toFinset ∪ s.keys.toFinset := by
  obtain ⟨entries⟩ := r
  induction entries generalizing s with
  | nil => exact (Finset.empty_union _).symm
  | cons e entries ih =>
    have hdrain : drainInto ⟨e :: entries⟩ s = drainInto ⟨entries⟩ (s.bind e.1 e.2) := rfl
    rw [hdrain, ih, Scope.bind, Table.toFinset_keys_insert, List.map_cons, List.toFinset_cons,
      ← Finset.union_assoc, Finset.union_comm _ {normalName e.1}]
    rfl

theorem normal_drainInto (r : Registry κ) {s : Scope κ} (h : s.Normal) :
    (r.drainInto s).Normal := by
  obtain ⟨entries⟩ := r
  induction entries generalizing s with
  | nil => exact h
  | cons e entries ih => exact ih (h.bind e.1 e.2)

/-- As many names are bound as there are among the entries. -/
theorem size_drainInto_empty (given : List (String × κ)) :
    ((ofList given).drainInto Table.empty).size = (given.map (normalName ·.1)).dedup.length := by
  have hnames : ((ofList given).entries.map (normalName ·.1)) = given.map (normalName ·.1) := by
    rw [entries_ofList, List.map_map]
    simp only [Function.comp_def, normalName_normalName]
  have hempty : (Table.empty : Scope κ).keys.toFinset = ∅ := rfl
  have hkeys := toFinset_keys_drainInto (ofList given) Table.empty
  rw [hnames, hempty, Finset.union_empty] at hkeys
  rw [Table.size_eq, hkeys, List.card_toFinset]

end Registry

end BracketScript
