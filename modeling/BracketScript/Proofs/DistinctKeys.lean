import Mathlib
import BracketScript.Toml.Reader

/-! The tables of a document. However a table is written, in one piece or in several, no key stands
in it twice. -/

namespace BracketScript.Toml

/-- The value of no key decides between two entries: there is only one. -/
def Distinct {α : Type} (entries : List (String × α)) : Prop :=
  (entries.map Prod.fst).Nodup

theorem mem_of_lookup {α : Type} {entries : List (String × α)} {key : String} {a : α}
    (h : entries.lookup key = some a) : (key, a) ∈ entries := by
  obtain ⟨before, after, rfl, -⟩ := List.lookup_eq_some_iff.mp h
  simp

theorem Distinct.lookup_eq {α : Type} {entries : List (String × α)} (h : Distinct entries)
    {key : String} {a : α} (ha : (key, a) ∈ entries) : entries.lookup key = some a := by
  induction entries with
  | nil => simp at ha
  | cons entry entries ih =>
    obtain ⟨key', a'⟩ := entry
    obtain ⟨hnot, hrest⟩ := List.nodup_cons.mp h
    rcases List.mem_cons.mp ha with heq | hmem
    · rw [← heq]
      exact List.lookup_cons_self
    · have hne : key ≠ key' := fun heq => hnot (List.mem_map.mpr ⟨_, hmem, heq⟩)
      rw [List.lookup_cons, beq_false_of_ne hne]
      exact ih hrest hmem

theorem Distinct.unique {α : Type} {entries : List (String × α)} (h : Distinct entries)
    {key : String} {a b : α} (ha : (key, a) ∈ entries) (hb : (key, b) ∈ entries) : a = b :=
  Option.some.inj ((h.lookup_eq ha).symm.trans (h.lookup_eq hb))

/-- All tables in the value have distinct keys, at every depth. -/
inductive Value.Proper : Value → Prop
  | text (s : String) : Proper (.text s)
  | integer (n : Int64) : Proper (.integer n)
  | float (x : Double) : Proper (.float x)
  | bool (b : Bool) : Proper (.bool b)
  | dateTime (s : String) : Proper (.dateTime s)
  | array {items : List Value} (h : ∀ item ∈ items, Proper item) : Proper (.array items)
  | table {entries : List (String × Value)} (hkeys : Distinct entries)
      (h : ∀ entry ∈ entries, Proper entry.2) : Proper (.table entries)

theorem Value.Proper.distinct {entries : List (String × Value)}
    (h : (Value.table entries).Proper) : Distinct entries := by
  cases h with
  | table hkeys _ => exact hkeys

inductive Item.Proper : Item → Prop
  | value {v : Value} (h : v.Proper) : Proper (.value v)
  | table (implied dotted : Bool) {entries : List (String × Item)} (hkeys : Distinct entries)
      (h : ∀ entry ∈ entries, Proper entry.2) : Proper (.table implied dotted entries)
  | tables {items : List (List (String × Item))} (hkeys : ∀ entries ∈ items, Distinct entries)
      (h : ∀ entries ∈ items, ∀ entry ∈ entries, Proper entry.2) : Proper (.tables items)

theorem entriesToValues_eq (entries : List (String × Item)) :
    entriesToValues entries = entries.map fun entry => (entry.1, entry.2.toValue) := by
  induction entries with
  | nil => rfl
  | cons entry entries ih => rw [entriesToValues, ih, List.map_cons]

theorem tablesToValues_eq (items : List (List (String × Item))) :
    tablesToValues items = items.map fun entries => .table (entriesToValues entries) := by
  induction items with
  | nil => rfl
  | cons entries items ih => rw [tablesToValues, ih, List.map_cons]

theorem Distinct.entriesToValues {entries : List (String × Item)} (h : Distinct entries) :
    Distinct (entriesToValues entries) := by
  rw [Distinct, entriesToValues_eq, List.map_map]
  exact h

theorem proper_table {entries : List (String × Item)} (hkeys : Distinct entries)
    (h : ∀ entry ∈ entries, entry.2.toValue.Proper) :
    (Value.table (entriesToValues entries)).Proper := by
  refine .table hkeys.entriesToValues fun entry hentry => ?_
  rw [entriesToValues_eq] at hentry
  obtain ⟨item, hitem, rfl⟩ := List.mem_map.mp hentry
  exact h item hitem

theorem Item.Proper.toValue {item : Item} (h : item.Proper) : item.toValue.Proper := by
  induction h with
  | value h => exact h
  | table implied dotted hkeys _ ih => exact proper_table hkeys ih
  | tables hkeys _ ih =>
    rw [Item.toValue, tablesToValues_eq]
    refine .array fun v hv => ?_
    obtain ⟨entries, hentries, rfl⟩ := List.mem_map.mp hv
    exact proper_table (hkeys entries hentries) (ih entries hentries)

namespace Branch

structure Proper (b : Branch) : Prop where
  distinct : Distinct b.entries
  items : ∀ entry ∈ b.entries, entry.2.Proper

variable {b b' : Branch} {v : Value} {path : List String} {key : String}

theorem Proper.empty (implied dotted : Bool) : Proper ⟨implied, dotted, []⟩ :=
  ⟨List.nodup_nil, by simp⟩

theorem Proper.toItem (h : b.Proper) : b.toItem.Proper :=
  .table _ _ h.distinct h.items

theorem Proper.lookup {item : Item} (h : b.Proper) (hitem : b.entries.lookup key = some item) :
    item.Proper :=
  h.items _ (mem_of_lookup hitem)

theorem Proper.put {item : Item} (h : b.Proper) (hitem : item.Proper) : (b.put key item).Proper := by
  constructor
  · refine List.nodup_cons.mpr ⟨by simp, ?_⟩
    exact h.distinct.sublist (List.filter_sublist.map _)
  · exact List.forall_mem_cons.mpr
      ⟨hitem, fun entry hentry => h.items entry (List.mem_of_mem_filter hentry)⟩

theorem proper_last {items : List (List (String × Item))} {last : List (String × Item)}
    {earlier : List (List (String × Item))} (h : (Item.tables items).Proper)
    (hreverse : items.reverse = last :: earlier) : Proper { entries := last } := by
  have hlast : last ∈ items := List.mem_reverse.mp (hreverse ▸ List.mem_cons_self)
  cases h with
  | tables hkeys hitems => exact ⟨hkeys last hlast, hitems last hlast⟩

/-- The last table of an array may be exchanged for a proper one. -/
theorem proper_setLast {items : List (List (String × Item))} {last : List (String × Item)}
    {earlier : List (List (String × Item))} (h : (Item.tables items).Proper)
    (hreverse : items.reverse = last :: earlier) (hb : b.Proper) :
    (Item.tables (b.entries :: earlier).reverse).Proper := by
  have hcases : ∀ entries ∈ (b.entries :: earlier).reverse,
      entries = b.entries ∨ entries ∈ items := by
    intro entries hentries
    refine (List.mem_cons.mp (List.mem_reverse.mp hentries)).imp_right fun hmem => ?_
    exact List.mem_reverse.mp (hreverse ▸ List.mem_cons_of_mem _ hmem)
  cases h with
  | tables hkeys hitems =>
    refine .tables (fun entries hentries => ?_) fun entries hentries => ?_
    · rcases hcases entries hentries with rfl | hentries
      · exact hb.distinct
      · exact hkeys entries hentries
    · rcases hcases entries hentries with rfl | hentries
      · exact hb.items
      · exact hitems entries hentries

/-- A change at the end of a path leaves all tables on the way proper. -/
theorem Proper.change {dotted : Bool} {f : Branch → Option Branch} (h : b.Proper)
    (hf : ∀ b b', b.Proper → f b = some b' → b'.Proper) (hb : change dotted f path b = some b') :
    b'.Proper := by
  induction path generalizing b b' with
  | nil => exact hf b b' h hb
  | cons key path ih =>
    rw [Branch.change] at hb
    split at hb
    · obtain ⟨inner, hinner, heq⟩ := Option.bind_eq_some_iff.mp hb
      obtain rfl := Option.some.inj heq
      exact h.put (ih (.empty _ _) hinner).toItem
    · cases hb
    · rename_i implied made entries hlookup
      split at hb
      · cases hb
      obtain ⟨inner, hinner, heq⟩ := Option.bind_eq_some_iff.mp hb
      obtain rfl := Option.some.inj heq
      cases h.lookup hlookup with
      | table _ _ hkeys hitems => exact h.put (ih ⟨hkeys, hitems⟩ hinner).toItem
    · rename_i items hlookup
      split at hb
      · cases hb
      rename_i last earlier hreverse
      obtain ⟨inner, hinner, heq⟩ := Option.bind_eq_some_iff.mp hb
      obtain rfl := Option.some.inj heq
      have hitems := h.lookup hlookup
      exact h.put (proper_setLast hitems hreverse (ih (proper_last hitems hreverse) hinner))

theorem Proper.assign (h : b.Proper) (hv : v.Proper) (hb : b.assign path key v = some b') :
    b'.Proper := by
  refine h.change (fun b b' h hb => ?_) hb
  split at hb
  · cases hb
  · obtain rfl := Option.some.inj hb
    exact h.put (.value hv)

theorem Proper.openTable (h : b.Proper) (hb : b.openTable path key = some b') : b'.Proper := by
  refine h.change (fun b b' h hb => ?_) hb
  split at hb
  · obtain rfl := Option.some.inj hb
    exact h.put (.table _ _ List.nodup_nil (by simp))
  · rename_i entries hlookup
    obtain rfl := Option.some.inj hb
    cases h.lookup hlookup with
    | table _ _ hkeys hitems => exact h.put (.table _ _ hkeys hitems)
  · cases hb

theorem Proper.openTables (h : b.Proper) (hb : b.openTables path key = some b') : b'.Proper := by
  refine h.change (fun b b' h hb => ?_) hb
  split at hb
  · obtain rfl := Option.some.inj hb
    exact h.put (.tables (by simp [Distinct]) (by simp))
  · rename_i items hlookup
    obtain rfl := Option.some.inj hb
    cases h.lookup hlookup with
    | tables hkeys hitems =>
      refine h.put (.tables ?_ ?_)
      · exact List.forall_mem_append.mpr ⟨hkeys, by simp [Distinct]⟩
      · exact List.forall_mem_append.mpr ⟨hitems, by simp⟩
  · cases hb

end Branch

section Reading

variable {s s' : List Char} {v : Value}

theorem integerValue_proper {n : Int} (h : integerValue n = some v) : v.Proper := by
  rw [integerValue] at h
  split at h
  · obtain rfl := Option.some.inj h
    exact .integer _
  · cases h

theorem floatValue_proper (h : floatValue s = some v) : v.Proper := by
  rw [floatValue] at h
  split at h
  · cases h
  · obtain rfl := Option.some.inj h
    exact .float _
  · cases h

theorem radixInteger_proper {radix : Nat} {isDigit : Char → Bool}
    (h : radixInteger radix isDigit s = some (v, s')) : v.Proper := by
  obtain ⟨ds, -, h⟩ := Option.bind_eq_some_iff.mp h
  obtain ⟨n, hn, h⟩ := Option.bind_eq_some_iff.mp h
  obtain ⟨rfl, -⟩ := Prod.mk.inj (Option.some.inj h)
  exact integerValue_proper hn

theorem number_proper (h : number s = some (v, s')) : v.Proper := by
  unfold number at h
  split at h
  · exact radixInteger_proper h
  · exact radixInteger_proper h
  · exact radixInteger_proper h
  dsimp only at h
  split at h
  · obtain ⟨rfl, -⟩ := Prod.mk.inj (Option.some.inj h)
    exact .float _
  · obtain ⟨rfl, -⟩ := Prod.mk.inj (Option.some.inj h)
    exact .float _
  obtain ⟨whole, -, h⟩ := Option.bind_eq_some_iff.mp h
  obtain ⟨rest, -, h⟩ := Option.bind_eq_some_iff.mp h
  split at h
  · obtain ⟨x, hx, h⟩ := Option.bind_eq_some_iff.mp h
    obtain ⟨rfl, -⟩ := Prod.mk.inj (Option.some.inj h)
    exact floatValue_proper hx
  · obtain ⟨n, hn, h⟩ := Option.bind_eq_some_iff.mp h
    obtain ⟨rfl, -⟩ := Prod.mk.inj (Option.some.inj h)
    exact integerValue_proper hn

theorem dateTime_proper (h : dateTime s = some (v, s')) : v.Proper := by
  unfold dateTime at h
  split at h
  · split at h
    · split at h
      · split at h
        · obtain ⟨distance, -, h⟩ := Option.bind_eq_some_iff.mp h
          obtain ⟨rfl, -⟩ := Prod.mk.inj (Option.some.inj h)
          exact .dateTime _
        · obtain ⟨rfl, -⟩ := Prod.mk.inj (Option.some.inj h)
          exact .dateTime _
      · obtain ⟨rfl, -⟩ := Prod.mk.inj (Option.some.inj h)
        exact .dateTime _
    · obtain ⟨rfl, -⟩ := Prod.mk.inj (Option.some.inj h)
      exact .dateTime _
  · obtain ⟨clock, -, h⟩ := Option.map_eq_some_iff.mp h
    obtain ⟨rfl, -⟩ := Prod.mk.inj h
    exact .dateTime _

theorem scalar_proper (h : scalar s = some (v, s')) : v.Proper := by
  unfold scalar at h
  split at h
  · cases h
  split at h
  · obtain ⟨t, -, h⟩ := Option.map_eq_some_iff.mp h
    obtain ⟨rfl, -⟩ := Prod.mk.inj h
    exact .text _
  split at h
  · obtain ⟨rfl, -⟩ := Prod.mk.inj (Option.some.inj h)
    exact .bool _
  · obtain ⟨rfl, -⟩ := Prod.mk.inj (Option.some.inj h)
    exact .bool _
  · generalize hdate : dateTime _ = found at h
    cases found with
    | none => exact number_proper h
    | some found =>
      obtain rfl := Option.some.inj h
      exact dateTime_proper hdate

/-- What a reader of values takes off the front of a text is proper. -/
def ReadsProper (reader : Reader Value) : Prop :=
  ∀ s v s', reader s = some (v, s') → v.Proper

variable {reader : Reader Value}

theorem arrayRest_proper (hr : ReadsProper reader) {fuel : Nat} {items : List Value}
    (h : arrayRest reader fuel s = some (items, s')) : ∀ item ∈ items, item.Proper := by
  induction fuel generalizing s s' items with
  | zero => cases h
  | succ fuel ih =>
    rw [arrayRest] at h
    split at h
    · obtain ⟨rfl, -⟩ := Prod.mk.inj (Option.some.inj h)
      simp
    obtain ⟨⟨v, rest⟩, hv, h⟩ := Option.bind_eq_some_iff.mp h
    have hproper := hr _ _ _ hv
    dsimp only at h
    split at h
    · obtain ⟨⟨vs, rest'⟩, hvs, h⟩ := Option.bind_eq_some_iff.mp h
      obtain ⟨rfl, -⟩ := Prod.mk.inj (Option.some.inj h)
      exact List.forall_mem_cons.mpr ⟨hproper, ih hvs⟩
    · obtain ⟨rfl, -⟩ := Prod.mk.inj (Option.some.inj h)
      exact List.forall_mem_singleton.mpr hproper
    · cases h

theorem pair_proper (hr : ReadsProper reader) {path : List String} {name : String}
    (h : pair reader s = some ((path, name, v), s')) : v.Proper := by
  obtain ⟨k, -, h⟩ := Option.bind_eq_some_iff.mp h
  obtain ⟨rest, -, h⟩ := Option.bind_eq_some_iff.mp h
  obtain ⟨⟨v', rest'⟩, hv, h⟩ := Option.bind_eq_some_iff.mp h
  obtain ⟨heq, -⟩ := Prod.mk.inj (Option.some.inj h)
  obtain ⟨-, heq⟩ := Prod.mk.inj heq
  obtain ⟨-, rfl⟩ := Prod.mk.inj heq
  exact hr _ _ _ hv

theorem inlineRest_proper (hr : ReadsProper reader) {fuel : Nat} {b b' : Branch} (hb : b.Proper)
    (h : inlineRest reader fuel b s = some (b', s')) : b'.Proper := by
  induction fuel generalizing s s' b with
  | zero => cases h
  | succ fuel ih =>
    obtain ⟨⟨⟨path, name, v⟩, rest⟩, hpair, h⟩ := Option.bind_eq_some_iff.mp h
    obtain ⟨b₁, hassign, h⟩ := Option.bind_eq_some_iff.mp h
    have hb₁ := hb.assign (pair_proper hr hpair) hassign
    split at h
    · exact ih hb₁ h
    · obtain ⟨rfl, -⟩ := Prod.mk.inj (Option.some.inj h)
      exact hb₁
    · cases h

theorem value_proper (depth : Nat) : ReadsProper (value depth) := by
  induction depth with
  | zero => exact fun s v s' h => scalar_proper h
  | succ depth ih =>
    intro s v s' h
    unfold value at h
    split at h
    · dsimp only at h
      split at h
      · cases h
      obtain ⟨⟨items, rest⟩, hitems, h⟩ := Option.bind_eq_some_iff.mp h
      obtain ⟨rfl, -⟩ := Prod.mk.inj (Option.some.inj h)
      exact .array (arrayRest_proper ih hitems)
    · split at h
      · cases h
      split at h
      · obtain ⟨rfl, -⟩ := Prod.mk.inj (Option.some.inj h)
        exact .table List.nodup_nil (by simp)
      · obtain ⟨⟨b, rest⟩, hb, h⟩ := Option.bind_eq_some_iff.mp h
        obtain ⟨rfl, -⟩ := Prod.mk.inj (Option.some.inj h)
        exact (inlineRest_proper ih (.empty _ _) hb).toItem.toValue
    · exact scalar_proper h

end Reading

section Documents

variable {b b' : Building} {s s' : List Char}

theorem header_proper (hb : b.root.Proper) (h : header s b = some (b', s')) : b'.root.Proper := by
  unfold header at h
  split at h
  · obtain ⟨⟨⟨path, name⟩, rest⟩, -, h⟩ := Option.bind_eq_some_iff.mp h
    obtain ⟨rest₁, -, h⟩ := Option.bind_eq_some_iff.mp h
    obtain ⟨rest₂, -, h⟩ := Option.bind_eq_some_iff.mp h
    obtain ⟨root, hroot, h⟩ := Option.bind_eq_some_iff.mp h
    obtain ⟨rest₃, -, h⟩ := Option.bind_eq_some_iff.mp h
    obtain ⟨rfl, -⟩ := Prod.mk.inj (Option.some.inj h)
    exact hb.openTables hroot
  · obtain ⟨⟨⟨path, name⟩, rest⟩, -, h⟩ := Option.bind_eq_some_iff.mp h
    obtain ⟨rest₁, -, h⟩ := Option.bind_eq_some_iff.mp h
    obtain ⟨root, hroot, h⟩ := Option.bind_eq_some_iff.mp h
    obtain ⟨rest₂, -, h⟩ := Option.bind_eq_some_iff.mp h
    obtain ⟨rfl, -⟩ := Prod.mk.inj (Option.some.inj h)
    exact hb.openTable hroot

theorem assignment_proper (hb : b.root.Proper) (h : assignment s b = some (b', s')) :
    b'.root.Proper := by
  obtain ⟨⟨⟨path, name, v⟩, rest⟩, hpair, h⟩ := Option.bind_eq_some_iff.mp h
  obtain ⟨root, hroot, h⟩ := Option.bind_eq_some_iff.mp h
  obtain ⟨rest', -, h⟩ := Option.bind_eq_some_iff.mp h
  obtain ⟨rfl, -⟩ := Prod.mk.inj (Option.some.inj h)
  have hv := pair_proper (value_proper _) hpair
  exact hb.change (fun b b' h => h.assign hv) hroot

theorem lines_proper {fuel : Nat} (hb : b.root.Proper) (h : lines fuel b s = some b') :
    b'.root.Proper := by
  induction fuel generalizing s b with
  | zero => cases h
  | succ fuel ih =>
    rw [lines] at h
    split at h
    · obtain rfl := Option.some.inj h
      exact hb
    · obtain ⟨rest, -, h⟩ := Option.bind_eq_some_iff.mp h
      exact ih hb h
    · obtain ⟨⟨b₁, rest⟩, hheader, h⟩ := Option.bind_eq_some_iff.mp h
      exact ih (header_proper hb hheader) h
    · split at h
      · exact ih hb h
      · obtain ⟨⟨b₁, rest⟩, hassign, h⟩ := Option.bind_eq_some_iff.mp h
        exact ih (assignment_proper hb hassign) h

/-- No key stands twice in any table of a document, nor in the document itself. -/
theorem read?_proper {source : String} {document : List (String × Value)}
    (h : read? source = some document) : (Value.table document).Proper := by
  obtain ⟨b, hb, h⟩ := Option.bind_eq_some_iff.mp h
  obtain rfl := Option.some.inj h
  exact (lines_proper (.empty _ _) hb).toItem.toValue

end Documents

end BracketScript.Toml
