import BracketScript.Proofs.Bindings
import BracketScript.Scope.Forest

/-! What a name is bound to after any history of scopes that were opened and changed. It is found in
the nearest scope that has it, as the last change there left it. -/

namespace BracketScript

variable {κ : Type}

namespace Forest

/-- The scopes from one outwards, the outermost last. -/
inductive Path (f : Forest κ) : Nat → List Nat → Prop
  | outermost {i : Nat} {node : Node κ} (h : f.nodes[i]? = some node)
      (hparent : node.parent = none) : Path f i [i]
  | inside {i p : Nat} {node : Node κ} {path : List Nat} (h : f.nodes[i]? = some node)
      (hparent : node.parent = some p) (hpath : Path f p path) : Path f i (i :: path)

theorem bindings_of_getElem? {f : Forest κ} {i : Nat} {node : Node κ}
    (h : f.nodes[i]? = some node) : f.bindings i = node.bindings := by
  rw [bindings, h]

theorem chain_of_getElem? {f : Forest κ} {i : Nat} {node : Node κ} (h : f.nodes[i]? = some node) :
    f.chain i = f.bindings i :: node.parent.elim [] f.chain := by
  rw [bindings_of_getElem? h, chain]
  split
  · rename_i hnone
    exact absurd (h.symm.trans hnone) (Option.some_ne_none _)
  · rename_i node' hnode'
    obtain rfl := Option.some.inj (h.symm.trans hnode')
    obtain ⟨parent, bindings⟩ := node
    cases parent <;> rfl

theorem Path.chain_eq {f : Forest κ} {i : Nat} {path : List Nat} (h : f.Path i path) :
    f.chain i = path.map f.bindings := by
  induction h with
  | outermost h hparent =>
    rw [chain_of_getElem? h, hparent]
    rfl
  | inside h hparent _ ih =>
    rw [chain_of_getElem? h, hparent, List.map_cons, ← ih]
    rfl

theorem Path.push {f : Forest κ} {i : Nat} {path : List Nat} (h : f.Path i path)
    (parent : Option Nat) (hlt : ∀ p ∈ parent, p < f.size) : (f.push parent hlt).Path i path := by
  have hold {j : Nat} {node : Node κ} (hj : f.nodes[j]? = some node) :
      (f.push parent hlt).nodes[j]? = some node :=
    (List.getElem?_append_left (List.getElem?_eq_some_iff.mp hj).1).trans hj
  induction h with
  | outermost h hparent => exact .outermost (hold h) hparent
  | inside h hparent _ ih => exact .inside (hold h) hparent ih

theorem Path.update {f : Forest κ} {i : Nat} {path : List Nat} (h : f.Path i path) (j : Nat)
    (change : Scope κ → Scope κ) : (f.update j change).Path i path := by
  have hparents {k : Nat} {node : Node κ} (hk : f.nodes[k]? = some node) :
      ∃ node', (f.update j change).nodes[k]? = some node' ∧ node'.parent = node.parent := by
    refine ⟨_, (List.getElem?_modify ..).trans (congrArg _ hk), ?_⟩
    split <;> rfl
  induction h with
  | outermost h hparent =>
    obtain ⟨node', h', hparent'⟩ := hparents h
    exact .outermost h' (hparent'.trans hparent)
  | inside h hparent _ ih =>
    obtain ⟨node', h', hparent'⟩ := hparents h
    exact .inside h' (hparent'.trans hparent) ih

theorem getElem?_push_size (f : Forest κ) (parent : Option Nat) (hlt : ∀ p ∈ parent, p < f.size)
    {i : Nat} (hi : f.size = i) :
    (f.push parent hlt).nodes[i]? = some ⟨parent, Table.empty⟩ :=
  hi ▸ List.getElem?_concat_length

theorem size_push (f : Forest κ) (parent : Option Nat) (hlt : ∀ p ∈ parent, p < f.size) :
    (f.push parent hlt).size = f.size + 1 :=
  List.length_append

/-- A scope that was just opened binds nothing, and neither does one that does not exist. -/
theorem bindings_push (f : Forest κ) (parent : Option Nat) (hlt : ∀ p ∈ parent, p < f.size)
    (i : Nat) : (f.push parent hlt).bindings i = f.bindings i := by
  rcases lt_trichotomy i f.size with h | rfl | h
  · have hold : (f.push parent hlt).nodes[i]? = f.nodes[i]? := List.getElem?_append_left h
    rw [bindings, bindings, hold]
  · have hnone : f.nodes[f.size]? = none := List.getElem?_eq_none (Nat.le_refl _)
    rw [bindings_of_getElem? (f.getElem?_push_size parent hlt rfl), bindings, hnone]
  · have hnone : f.nodes[i]? = none := List.getElem?_eq_none (Nat.le_of_lt h)
    have hnone' : (f.push parent hlt).nodes[i]? = none := by
      refine List.getElem?_eq_none ?_
      simp only [push, List.length_append, List.length_singleton]
      exact h
    rw [bindings, bindings, hnone, hnone']

theorem bindings_update (f : Forest κ) {i : Nat} (hi : i < f.size) (change : Scope κ → Scope κ)
    (j : Nat) :
    (f.update i change).bindings j = if i = j then change (f.bindings j) else f.bindings j := by
  have hget : (f.update i change).nodes[j]? = _ := List.getElem?_modify ..
  rw [bindings, bindings, hget]
  by_cases h : i = j
  · subst h
    rw [if_pos rfl, List.getElem?_eq_getElem hi]
    simp
  · rw [if_neg h]
    cases f.nodes[j]? with
    | none => rfl
    | some node => simp [h]

end Forest

/-- What may be done to one scope. -/
inductive Scope.Edit (κ : Type) where
  | bind (name : String) (code : κ)
  | unbind (name : String)
  | drain (registry : Registry κ)

/-- Scopes that were opened and changed, the last change outermost. There are `n` of them. -/
inductive History (κ : Type) : Nat → Type
  | start : History κ 0
  | openRoot {n : Nat} (h : History κ n) : History κ (n + 1)
  | openChild {n : Nat} (h : History κ n) (parent : Fin n) : History κ (n + 1)
  | edit {n : Nat} (h : History κ n) (i : Fin n) (change : Scope.Edit κ) : History κ n

namespace Scope.Edit

def apply : Edit κ → Scope κ → Scope κ
  | bind name code, s => s.bind name code
  | unbind name, s => s.unbind name
  | drain registry, s => registry.drainInto s

theorem normal_apply (change : Edit κ) {s : Scope κ} (h : s.Normal) : (change.apply s).Normal := by
  cases change with
  | bind name code => exact h.bind name code
  | unbind name => exact h.unbind name
  | drain registry => exact registry.normal_drainInto h

end Scope.Edit

namespace History

variable {n : Nat}

def forest {n : Nat} : History κ n → Forest κ
  | start => .empty
  | openRoot h => h.forest.addRoot
  | openChild h parent => h.forest.addChild parent
  | edit h i (.bind name code) => (h.forest.bind i name code).2
  | edit h i (.unbind name) => (h.forest.unbind i name).2
  | edit h i (.drain registry) => h.forest.drain i registry

/-- The scopes from one outwards, as they were opened. -/
def path {n : Nat} : History κ n → Nat → List Nat
  | start, _ => []
  | openRoot (n := n) h, i => if i = n then [n] else h.path i
  | openChild (n := n) h parent, i => if i = n then n :: h.path parent else h.path i
  | edit h _ _, i => h.path i

/-- What was last bound to a name in one scope, if it was not unbound since. -/
def latest? {n : Nat} : History κ n → Nat → String → Option κ
  | start, _, _ => none
  | openRoot h, i, name => h.latest? i name
  | openChild h _, i, name => h.latest? i name
  | edit h j (.bind other code), i, name =>
    if j = i ∧ canonicalName other = canonicalName name then some code else h.latest? i name
  | edit h j (.unbind other), i, name =>
    if j = i ∧ canonicalName other = canonicalName name then none else h.latest? i name
  | edit h j (.drain registry), i, name =>
    if j = i then (registry.last? name).or (h.latest? i name) else h.latest? i name

theorem forest_edit (h : History κ n) (i : Fin n) (change : Scope.Edit κ) :
    (h.edit i change).forest = h.forest.update i change.apply := by
  cases change <;> rfl

theorem size_forest (h : History κ n) : h.forest.size = n := by
  induction h with
  | start => rfl
  | openRoot h ih => rw [forest, Forest.addRoot, Forest.size_push, ih]
  | openChild h parent ih =>
    have hlt : parent < h.forest.size := ih.symm ▸ parent.isLt
    rw [forest, Forest.addChild, dif_pos hlt, Forest.size_push, ih]
  | edit h i change ih =>
    rw [forest_edit, Forest.update, Forest.size, List.length_modify]
    exact ih

theorem lt_size_forest (h : History κ n) (i : Fin n) : i < h.forest.size :=
  h.size_forest.symm ▸ i.isLt

theorem forest_openChild (h : History κ n) (parent : Fin n) :
    ∃ hlt, (h.openChild parent).forest = h.forest.push (some parent) hlt :=
  ⟨_, dif_pos (h.lt_size_forest parent)⟩

theorem bindings_forest_openChild (h : History κ n) (parent : Fin n) (i : Nat) :
    (h.openChild parent).forest.bindings i = h.forest.bindings i := by
  obtain ⟨hlt, hforest⟩ := h.forest_openChild parent
  rw [hforest, Forest.bindings_push]

theorem bindings_forest_edit (h : History κ n) (j : Fin n) (change : Scope.Edit κ) (i : Nat) :
    (h.edit j change).forest.bindings i =
      if j = i then change.apply (h.forest.bindings i) else h.forest.bindings i := by
  rw [forest_edit, Forest.bindings_update _ (h.lt_size_forest j)]

theorem path_forest (h : History κ n) {i : Nat} (hi : i < n) : h.forest.Path i (h.path i) := by
  induction h generalizing i with
  | start => exact absurd hi (Nat.not_lt_zero i)
  | @openRoot n h ih =>
    by_cases heq : i = n
    · subst heq
      rw [path, if_pos rfl]
      exact .outermost (h.forest.getElem?_push_size none (by simp) h.size_forest) rfl
    · rw [path, if_neg heq]
      exact (ih (by omega)).push none (by simp)
  | @openChild n h parent ih =>
    obtain ⟨hlt, hforest⟩ := h.forest_openChild parent
    rw [hforest]
    by_cases heq : i = n
    · subst heq
      have hnew := h.forest.getElem?_push_size (some ↑parent) hlt h.size_forest
      rw [path, if_pos rfl]
      exact .inside hnew rfl ((ih parent.isLt).push _ hlt)
    · rw [path, if_neg heq]
      exact (ih (by omega)).push _ hlt
  | edit h j change ih =>
    rw [forest_edit]
    exact (ih hi).update j change.apply

theorem chain_forest (h : History κ n) {i : Nat} (hi : i < n) :
    h.forest.chain i = (h.path i).map h.forest.bindings :=
  (h.path_forest hi).chain_eq

theorem chain_congr {m : Nat} {h : History κ n} {h' : History κ m} {i : Nat} (hi : i < n)
    (hi' : i < m) (hpath : h'.path i = h.path i)
    (hbindings : ∀ k ∈ h.path i, h'.forest.bindings k = h.forest.bindings k) :
    h'.forest.chain i = h.forest.chain i := by
  rw [chain_forest h' hi', chain_forest h hi, hpath]
  exact List.map_congr_left hbindings

theorem find?_forest (h : History κ n) (i : Nat) (name : String) :
    (h.forest.bindings i).find? name = h.latest? i name := by
  induction h with
  | start => rfl
  | openRoot h ih =>
    rw [forest, Forest.addRoot, Forest.bindings_push, ih, latest?]
  | openChild h parent ih => rw [bindings_forest_openChild, ih, latest?]
  | edit h j change ih =>
    rw [bindings_forest_edit]
    by_cases hj : j = i
    · rw [if_pos hj]
      cases change with
      | bind other code => simp only [Scope.Edit.apply, Scope.find?_bind, ih, latest?, hj, true_and]
      | unbind other => simp only [Scope.Edit.apply, Scope.find?_unbind, ih, latest?, hj, true_and]
      | drain registry =>
        simp only [Scope.Edit.apply, Registry.find?_drainInto, ih, latest?, hj, if_true]
    · rw [if_neg hj, ih]
      cases change <;> simp only [latest?, hj, false_and, if_false]

theorem lookup?_forest (h : History κ n) (i : Fin n) (name : String) :
    lookup? (h.forest.chain i) name = (h.path i).findSome? (h.latest? · name) := by
  rw [lookup?, h.chain_forest i.isLt, List.findSome?_map]
  exact congrArg (List.findSome? · _) (funext fun j => h.find?_forest j name)

theorem normal_forest (h : History κ n) (i : Nat) : (h.forest.bindings i).Normal := by
  induction h with
  | start => exact Scope.normal_empty
  | openRoot h ih =>
    rw [forest, Forest.addRoot, Forest.bindings_push]
    exact ih
  | openChild h parent ih =>
    rw [bindings_forest_openChild]
    exact ih
  | edit h j change ih =>
    rw [bindings_forest_edit]
    split
    · exact change.normal_apply ih
    · exact ih

/-- A change reaches no scope but the one that is changed and those inside it. -/
theorem chain_edit (h : History κ n) {i j : Fin n} (hj : ↑j ∉ h.path i) (change : Scope.Edit κ) :
    (h.edit j change).forest.chain i = h.forest.chain i := by
  refine chain_congr i.isLt i.isLt rfl fun k hk => ?_
  have hne : ↑j ≠ k := fun he => hj (he ▸ hk)
  rw [bindings_forest_edit, if_neg hne]

theorem chain_openRoot (h : History κ n) (i : Fin n) :
    h.openRoot.forest.chain i = h.forest.chain i :=
  chain_congr i.isLt (Nat.lt_succ_of_lt i.isLt) (if_neg (Nat.ne_of_lt i.isLt)) fun k _ =>
    h.forest.bindings_push none (by simp) k

theorem chain_openChild (h : History κ n) (parent i : Fin n) :
    (h.openChild parent).forest.chain i = h.forest.chain i :=
  chain_congr i.isLt (Nat.lt_succ_of_lt i.isLt) (if_neg (Nat.ne_of_lt i.isLt)) fun k _ =>
    h.bindings_forest_openChild parent k

end History

/-- In every scope that a history leaves, a name stands for what was last bound to it in the nearest
scope where that was not undone. A change tells what was there before and concerns only the scopes
inside the one it is made in. A registry that is drained binds the last entry of each name. -/
theorem resolve_nearest_latest {n : Nat} (h : History κ n) (i : Fin n) (name : String) :
    (h.forest.resolve i name =
      match (h.path i).findSome? (h.latest? · name) with
      | some code => .ok code
      | none => .error (.unknownFunction name)) ∧
    (h.forest.contains i name = true ↔ ∃ code, h.forest.resolve i name = .ok code) ∧
    (∀ code, (h.forest.bind i name code).1 = h.latest? i name) ∧
    ((h.forest.unbind i name).1 = true ↔ ∃ code, h.latest? i name = some code) ∧
    (∀ j change, ↑j ∉ h.path i →
      (h.edit j change).forest.resolve i name = h.forest.resolve i name) ∧
    h.openRoot.forest.resolve i name = h.forest.resolve i name ∧
    (∀ parent, (h.openChild parent).forest.resolve i name = h.forest.resolve i name) ∧
    (∀ key ∈ (h.forest.bindings i).keys, normalName key = key) ∧
    (∀ given : List (String × κ),
      let drained := (Registry.ofList given).drainInto Table.empty
      Scope.ofRegistry given = drained ∧
      drained.find? name =
        (given.reverse.find? fun e => canonicalName e.1 == canonicalName name).map (·.2) ∧
      drained.size = (given.map (normalName ·.1)).dedup.length) ∧
    (∀ other, normalName name = normalName other ↔ canonicalName name = canonicalName other) ∧
    normalName (normalName name) = normalName name := by
  have hresolve {m m' : Nat} {g : History κ m} {g' : History κ m'}
      (hchain : g'.forest.chain i = g.forest.chain i) :
      g'.forest.resolve i name = g.forest.resolve i name := congrArg (resolve · name) hchain
  refine ⟨?_, ?_, fun code => h.find?_forest i name, ?_,
    fun j change hj => hresolve (h.chain_edit hj change), hresolve (h.chain_openRoot i),
    fun parent => hresolve (h.chain_openChild parent i), h.normal_forest i,
    fun given => ⟨?_, ?_, Registry.size_drainInto_empty given⟩,
    normalName_eq_iff name, normalName_normalName name⟩
  · have hlookup := h.lookup?_forest i name
    cases hfound : (h.path i).findSome? (h.latest? · name) with
    | none => rw [Forest.resolve, resolve, hlookup, hfound]
    | some code => rw [Forest.resolve, resolve, hlookup, hfound]
  · rw [Forest.contains]
    cases h.forest.resolve i name <;> simp [Except.isOk, Except.toBool]
  · rw [Forest.unbind, Scope.has, h.find?_forest, Option.isSome_iff_exists]
  · exact (Registry.drainInto_ofList given Table.empty).symm
  · rw [Registry.find?_drainInto, Registry.last?_ofList]
    exact Option.or_none

/-- A child scope between two others, with a name bound twice by the registry that it got and once
more around it. -/
theorem resolve_nearest_latest_shadowed :
    let child : Fin 3 := 1
    let other : Fin 3 := 2
    let h : History Nat 3 := ((History.start.openRoot.openChild 0).openRoot.edit 0
      (.bind "$$A" 1)).edit child (.drain (Registry.ofList [("$a", 2), (" A", 3)]))
    let h' : History Nat 3 := (h.edit 0 (.bind "a" 4)).edit child (.unbind "A")
    ↑other ∉ h.path child ∧ h.forest.resolve child "$A" = .ok 3 ∧
      (h.edit other (.bind "a" 5)).forest.resolve child "$A" = .ok 3 ∧
      h'.forest.resolve child "$A" = .ok 4 ∧
      h'.forest.resolve other "$A" = .error (.unknownFunction "$A") := by
  intro child other h h'
  have hout : ↑other ∉ h.path child := by decide
  have hlatest : (h.path child).findSome? (h.latest? · "$A") = some 3 := by decide +kernel
  have houter : (h'.path child).findSome? (h'.latest? · "$A") = some 4 := by decide +kernel
  have hnone : (h'.path other).findSome? (h'.latest? · "$A") = none := by decide +kernel
  obtain ⟨hresolve, -, -, -, hedit, -⟩ := resolve_nearest_latest h child "$A"
  obtain ⟨hresolve', -⟩ := resolve_nearest_latest h' child "$A"
  obtain ⟨hunknown, -⟩ := resolve_nearest_latest h' other "$A"
  have hfound : h.forest.resolve child "$A" = .ok 3 := by rw [hresolve, hlatest]
  have hchanged := hedit other (.bind "a" 5) hout
  refine ⟨hout, hfound, hchanged.trans hfound, ?_, ?_⟩
  · rw [hresolve', houter]
  · rw [hunknown, hnone]

end BracketScript
