import BracketScript.Configuration
import BracketScript.Proofs.DistinctKeys

/-! What becomes of the entries of a configuration file. Each variable is either set or warned about,
depending on its own value alone, and so is each option. -/

namespace BracketScript

/-- A table, or an array with such a value in it. -/
inductive Toml.Value.HasTable : Toml.Value → Prop
  | table (entries : List (String × Toml.Value)) : HasTable (.table entries)
  | array {items : List Toml.Value} {item : Toml.Value} (h : item ∈ items) (hitem : HasTable item) :
      HasTable (.array items)

namespace Configuration

open Toml (Distinct)

/-- The value of a script that says the same as a value of a file. -/
inductive Becomes : Toml.Value → Value → Prop
  | text (s : String) : Becomes (.text s) (.text s)
  | integer (n : Int64) : Becomes (.integer n) (.int n)
  | float (x : Double) : Becomes (.float x) (.float x)
  | bool (b : Bool) : Becomes (.bool b) (.bool b)
  | dateTime (s : String) : Becomes (.dateTime s) (.text s)
  | array {items : List Toml.Value} {vs : List Value} (h : List.Forall₂ Becomes items vs) :
      Becomes (.array items) (.list vs)

mutual

/-- A table anywhere in a value is all that keeps it from being a value of a script. -/
theorem scriptValue?_cases (v : Toml.Value) :
    (∃ w, scriptValue? v = some w ∧ Becomes v w ∧ ¬ v.HasTable) ∨
      (scriptValue? v = none ∧ v.HasTable) := by
  cases v with
  | text s => exact .inl ⟨_, rfl, .text s, nofun⟩
  | integer n => exact .inl ⟨_, rfl, .integer n, nofun⟩
  | float x => exact .inl ⟨_, rfl, .float x, nofun⟩
  | bool b => exact .inl ⟨_, rfl, .bool b, nofun⟩
  | dateTime s => exact .inl ⟨_, rfl, .dateTime s, nofun⟩
  | table entries => exact .inr ⟨rfl, .table entries⟩
  | array items =>
    obtain ⟨vs, hvs, hall, hnone⟩ | ⟨hnone, item, hitem, htable⟩ := scriptValues?_cases items
    · refine .inl ⟨.list vs, by rw [scriptValue?, hvs, Option.map_some], .array hall, ?_⟩
      rintro (_ | ⟨hitem, htable⟩)
      exact hnone _ hitem htable
    · exact .inr ⟨by rw [scriptValue?, hnone, Option.map_none], .array hitem htable⟩

theorem scriptValues?_cases (items : List Toml.Value) :
    (∃ vs, scriptValues? items = some vs ∧ List.Forall₂ Becomes items vs ∧
      ∀ item ∈ items, ¬ item.HasTable) ∨
      (scriptValues? items = none ∧ ∃ item ∈ items, item.HasTable) := by
  cases items with
  | nil => exact .inl ⟨[], rfl, .nil, by simp⟩
  | cons item items =>
    rw [scriptValues?]
    obtain ⟨w, hw, hbecomes, hnot⟩ | ⟨hnone, htable⟩ := scriptValue?_cases item
    · obtain ⟨vs, hvs, hall, hnone⟩ | ⟨hnone, item', hitem', htable⟩ := scriptValues?_cases items
      · refine .inl ⟨w :: vs, ?_, .cons hbecomes hall, List.forall_mem_cons.mpr ⟨hnot, hnone⟩⟩
        rw [hw, hvs]
        rfl
      · refine .inr ⟨?_, item', List.mem_cons_of_mem _ hitem', htable⟩
        rw [hw, hnone]
        rfl
    · refine .inr ⟨?_, item, List.mem_cons_self, htable⟩
      rw [hnone]
      rfl

end

theorem scriptValue?_eq_none_iff {v : Toml.Value} : scriptValue? v = none ↔ v.HasTable := by
  obtain ⟨w, hw, -, hnot⟩ | ⟨hnone, htable⟩ := scriptValue?_cases v
  · simp [hw, hnot]
  · simp [hnone, htable]

/-- An entry with a value for scripts. -/
def loaded? (entry : String × Toml.Value) : Option (String × Value) :=
  (scriptValue? entry.2).map (entry.1, ·)

section Entries

variable {entries : List (String × Toml.Value)} {key : String}

theorem takeVariables_fst (entries : List (String × Toml.Value)) :
    (takeVariables entries).1 = entries.filterMap loaded? := by
  induction entries with
  | nil => rfl
  | cons entry entries ih =>
    obtain ⟨name, v⟩ := entry
    rw [takeVariables, List.filterMap_cons, loaded?, ← ih]
    cases scriptValue? v <;> rfl

theorem takeVariables_snd (entries : List (String × Toml.Value)) :
    (takeVariables entries).2 =
      (entries.filter fun entry => (scriptValue? entry.2).isNone).map fun entry =>
        .ofVariable entry.1 := by
  induction entries with
  | nil => rfl
  | cons entry entries ih =>
    obtain ⟨name, v⟩ := entry
    rw [takeVariables, List.filter_cons]
    cases scriptValue? v with
    | none => exact congrArg _ ih
    | some w => exact ih

theorem mem_takeVariables_fst {w : Value} :
    (key, w) ∈ (takeVariables entries).1 ↔ ∃ v, (key, v) ∈ entries ∧ scriptValue? v = some w := by
  rw [takeVariables_fst, List.mem_filterMap]
  simp [loaded?]

theorem mem_takeVariables_snd {w : Warning} :
    w ∈ (takeVariables entries).2 ↔
      ∃ key v, (key, v) ∈ entries ∧ scriptValue? v = none ∧ .ofVariable key = w := by
  rw [takeVariables_snd, List.mem_map]
  simp [and_assoc]

theorem loaded_sublist (entries : List (String × Toml.Value)) :
    ((takeVariables entries).1.map Prod.fst).Sublist (entries.map Prod.fst) := by
  induction entries with
  | nil => exact .slnil
  | cons entry entries ih =>
    obtain ⟨name, v⟩ := entry
    rw [takeVariables]
    cases scriptValue? v with
    | none => exact ih.cons _
    | some w => exact ih.cons_cons _

end Entries

theorem sortByName_perm (entries : List (String × Toml.Value)) :
    (sortByName entries).Perm entries :=
  List.mergeSort_perm _ _

theorem sortByName_pairwise {entries : List (String × Toml.Value)} (h : Distinct entries) :
    (sortByName entries).Pairwise fun a b => a.1 < b.1 := by
  have hle : (sortByName entries).Pairwise fun a b => a.1 ≤ b.1 := by
    have htrans : ∀ a b c : String × Toml.Value,
        decide (a.1 ≤ b.1) = true → decide (b.1 ≤ c.1) = true → decide (a.1 ≤ c.1) = true := by
      simpa using fun a b c => le_trans
    have htotal : ∀ a b : String × Toml.Value,
        (decide (a.1 ≤ b.1) || decide (b.1 ≤ a.1)) = true := by
      simpa using fun a b => le_total _ _
    have hsorted := List.pairwise_mergeSort htrans htotal entries
    simpa [sortByName] using hsorted
  have hne : (sortByName entries).Pairwise fun a b => a.1 ≠ b.1 :=
    List.pairwise_map.mp (((sortByName_perm entries).map Prod.fst).nodup_iff.mpr h)
  exact hle.imp₂ (fun _ _ => lt_of_le_of_ne) hne

/-- Every variable of a file is set or warned about, and nothing else is. -/
structure Accounts (vars : List (String × Toml.Value)) (loaded : List (String × Value))
    (warnings : List Warning) : Prop where
  refused : ∀ key v, (key, v) ∈ vars → v.HasTable →
    key ∉ loaded.map Prod.fst ∧ (warnings.map Warning.key).count ("vars." ++ key) = 1
  converted : ∀ key v, (key, v) ∈ vars → ¬ v.HasTable →
    (∃ w, Becomes v w ∧ (key, w) ∈ loaded) ∧ "vars." ++ key ∉ warnings.map Warning.key
  loaded_subset : ∀ key ∈ loaded.map Prod.fst, key ∈ vars.map Prod.fst
  warnings_subset : ∀ w ∈ warnings, ∃ key ∈ vars.map Prod.fst, w = .ofVariable key
  loaded_sorted : (loaded.map Prod.fst).Pairwise (· < ·)
  warnings_sorted : (warnings.map Warning.key).Pairwise (· < ·)

theorem key_ofVariable (name : String) : (Warning.ofVariable name).key = "vars." ++ name :=
  rfl

theorem key_ofVariable_lt {a b : String} (h : a < b) :
    (Warning.ofVariable a).key < (Warning.ofVariable b).key := by
  rw [key_ofVariable, key_ofVariable, String.lt_iff_toList_lt, String.toList_append,
    String.toList_append]
  exact List.append_left_lt (String.lt_iff_toList_lt.mp h)

theorem key_ofVariable_inj {a b : String}
    (h : (Warning.ofVariable a).key = (Warning.ofVariable b).key) : a = b :=
  String.append_right_inj "vars." |>.mp h

theorem accounts_takeVariables {vars : List (String × Toml.Value)} (h : Distinct vars) :
    Accounts vars (takeVariables (sortByName vars)).1 (takeVariables (sortByName vars)).2 := by
  have hmem (entry : String × Toml.Value) : entry ∈ sortByName vars ↔ entry ∈ vars :=
    (sortByName_perm vars).mem_iff
  have hsorted := sortByName_pairwise h
  have hkeys : ((takeVariables (sortByName vars)).2.map Warning.key).Pairwise (· < ·) := by
    rw [takeVariables_snd, List.map_map, List.pairwise_map]
    exact (hsorted.filter _).imp key_ofVariable_lt
  have hwarned (key : String) (v : Toml.Value) (hv : (key, v) ∈ vars) :
      "vars." ++ key ∈ (takeVariables (sortByName vars)).2.map Warning.key ↔ v.HasTable := by
    rw [← scriptValue?_eq_none_iff, List.mem_map]
    constructor
    · rintro ⟨w, hw, hkey⟩
      obtain ⟨key', v', hv', hnone, rfl⟩ := mem_takeVariables_snd.mp hw
      obtain rfl := key_ofVariable_inj hkey
      rwa [h.unique hv ((hmem _).mp hv')]
    · intro hnone
      exact ⟨_, mem_takeVariables_snd.mpr ⟨key, v, (hmem _).mpr hv, hnone, rfl⟩, rfl⟩
  refine ⟨fun key v hv htable => ⟨?_, ?_⟩, fun key v hv hnot => ⟨?_, ?_⟩, ?_, ?_, ?_, hkeys⟩
  · intro hkey
    obtain ⟨⟨key', w⟩, hw, rfl⟩ := List.mem_map.mp hkey
    obtain ⟨v', hv', hw⟩ := mem_takeVariables_fst.mp hw
    rw [h.unique ((hmem _).mp hv') hv, scriptValue?_eq_none_iff.mpr htable] at hw
    cases hw
  · exact List.count_eq_one_of_mem (hkeys.imp ne_of_lt) ((hwarned key v hv).mpr htable)
  · obtain ⟨w, hw, hbecomes, -⟩ | ⟨-, htable⟩ := scriptValue?_cases v
    · exact ⟨w, hbecomes, mem_takeVariables_fst.mpr ⟨v, (hmem _).mpr hv, hw⟩⟩
    · exact absurd htable hnot
  · exact mt (hwarned key v hv).mp hnot
  · intro key hkey
    exact ((sortByName_perm vars).map _).mem_iff.mp ((loaded_sublist _).mem hkey)
  · intro w hw
    obtain ⟨key, v, hv, -, rfl⟩ := mem_takeVariables_snd.mp hw
    exact ⟨key, List.mem_map.mpr ⟨_, (hmem _).mp hv, rfl⟩, rfl⟩
  · exact (List.pairwise_map.mpr hsorted).sublist (loaded_sublist _)

/-- What is loaded depends on nothing but the entries without tables. -/
theorem takeVariables_fst_congr {vars vars' : List (String × Toml.Value)} (h : Distinct vars)
    (h' : Distinct vars')
    (hsame : ∀ key v, ¬ v.HasTable → ((key, v) ∈ vars' ↔ (key, v) ∈ vars)) :
    (takeVariables (sortByName vars')).1 = (takeVariables (sortByName vars)).1 := by
  have hpairwise {vars : List (String × Toml.Value)} (h : Distinct vars) :
      (takeVariables (sortByName vars)).1.Pairwise fun a b => a.1 < b.1 :=
    List.pairwise_map.mp (accounts_takeVariables h).loaded_sorted
  have hnodup {vars : List (String × Toml.Value)} (h : Distinct vars) :
      (takeVariables (sortByName vars)).1.Nodup :=
    (hpairwise h).imp fun hlt heq => ne_of_lt hlt (congrArg Prod.fst heq)
  have hmem : ∀ entry, entry ∈ (takeVariables (sortByName vars')).1 ↔
      entry ∈ (takeVariables (sortByName vars)).1 := by
    rintro ⟨key, w⟩
    simp only [mem_takeVariables_fst, (sortByName_perm _).mem_iff]
    refine exists_congr fun v => and_congr_left fun hw => hsame key v fun htable => ?_
    rw [scriptValue?_eq_none_iff.mpr htable] at hw
    cases hw
  refine List.Perm.eq_of_pairwise (fun a b _ _ hab hba => absurd hba (lt_asymm hab))
    (hpairwise h') (hpairwise h) ?_
  exact (List.perm_ext_iff_of_nodup (hnodup h') (hnodup h)).mpr hmem

/-- What a file says about an option, by its name or, in an array, by its position. -/
def given? (document : List (String × Toml.Value)) (name : String) (position : Nat) :
    Option Toml.Value :=
  (document.lookup "runtime").bind fun
    | .array items => items[position]?
    | v => (entries? v).bind (·.lookup name)

/-- The entries of `[vars]`. -/
def presets (document : List (String × Toml.Value)) : List (String × Toml.Value) :=
  ((document.lookup "vars").bind entries?).getD []

/-- Tables stand where tables are expected, and the options are truth values. -/
structure Loadable (document : List (String × Toml.Value)) : Prop where
  runtime : ∀ v, document.lookup "runtime" = some v →
    (∃ items, v = .array items) ∨ (entries? v).isSome
  flags : ∀ name position, (name, position) ∈ [("strictBrackets", 0), ("trimOutput", 1)] →
    ∀ v, given? document name position = some v → ∃ b, v = .bool b
  vars : ∀ v, document.lookup "vars" = some v → (entries? v).isSome

/-- An option that is given has the value given, and any other its default. -/
def Follows (given : Option Toml.Value) (default b : Bool) : Prop :=
  (given = none → b = default) ∧ ∀ b', given = some (.bool b') → b = b'

theorem flag?_follows {given : Option Toml.Value} (h : ∀ v, given = some v → ∃ b, v = .bool b)
    (default : Bool) : ∃ b, flag? default given = some b ∧ Follows given default b := by
  cases given with
  | none => exact ⟨default, rfl, fun _ => rfl, nofun⟩
  | some v =>
    obtain ⟨b, rfl⟩ := h v rfl
    exact ⟨b, rfl, nofun, fun b' hb => by simpa using hb⟩

theorem distinct_presets {source : String} {document : List (String × Toml.Value)}
    (h : Toml.read? source = some document) : Distinct (presets document) := by
  have hproper : ∀ v, document.lookup "vars" = some v → v.Proper := by
    intro v hv
    cases Toml.read?_proper h with
    | table _ hitems => exact hitems _ (Toml.mem_of_lookup hv)
  rw [presets]
  cases hv : document.lookup "vars" with
  | none => exact List.nodup_nil
  | some v =>
    have hv := hproper v hv
    cases v with
    | table entries => exact hv.distinct
    | dateTime s => exact List.nodup_singleton _
    | _ => exact List.nodup_nil

section Documents

variable {document : List (String × Toml.Value)}

theorem options?_eq {v : Toml.Value} (h : (∃ items, v = .array items) ∨ (entries? v).isSome)
    (hv : document.lookup "runtime" = some v) :
    options? v = do
      let strict ← flag? false (given? document "strictBrackets" 0)
      let trim ← flag? true (given? document "trimOutput" 1)
      return ⟨strict, trim⟩ := by
  simp only [given?, hv, Option.bind_some]
  cases v with
  | array items => rfl
  | table entries => rfl
  | dateTime s => rfl
  | _ => simp [entries?] at h

theorem ofDocument?_eq (options : Options) (h : Loadable document)
    (hstrict : flag? false (given? document "strictBrackets" 0) = some options.strictBrackets)
    (htrim : flag? true (given? document "trimOutput" 1) = some options.trimOutput) :
    ofDocument? document =
      some (⟨options, (takeVariables (sortByName (presets document))).1⟩,
        (takeVariables (sortByName (presets document))).2) := by
  have hoptions : ((document.lookup "runtime").map options?).getD (some {}) = some options := by
    cases hv : document.lookup "runtime" with
    | none =>
      simp only [given?, hv, Option.bind_none, flag?, Option.some.injEq] at hstrict htrim
      obtain ⟨strict, trim⟩ := options
      obtain rfl : false = strict := hstrict
      obtain rfl : true = trim := htrim
      rfl
    | some v =>
      rw [Option.map_some, Option.getD_some, options?_eq (h.runtime v hv) hv, hstrict, htrim]
      rfl
  have hentries : ((document.lookup "vars").map entries?).getD (some []) =
      some (presets document) := by
    rw [presets]
    cases hv : document.lookup "vars" with
    | none => rfl
    | some v =>
      obtain ⟨entries, hsome⟩ := Option.isSome_iff_exists.mp (h.vars v hv)
      simp [hsome]
  rw [ofDocument?, hoptions, hentries]
  rfl

end Documents

end Configuration

end BracketScript
