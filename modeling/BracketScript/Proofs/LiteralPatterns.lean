import Mathlib
import BracketScript.Pattern.Replacement

/-! Patterns of which every character stands for itself. What is read from one is a sequence of
single characters, and its code is a chain of as many states, the last character first. -/

namespace BracketScript

namespace Pattern

/-- No character with a meaning of its own. -/
def IsLiteral (s : List Char) : Prop :=
  ∀ c ∈ s, isMeta c = false

instance (s : List Char) : Decidable (IsLiteral s) :=
  decidable_of_iff (s.all (!isMeta ·) = true) (by simp [IsLiteral])

theorem isLiteral_cons {c : Char} {s : List Char} :
    IsLiteral (c :: s) ↔ isMeta c = false ∧ IsLiteral s :=
  List.forall_mem_cons

def characterItem (c : Char) : Item :=
  .expr (.set (.single c)) 0

/-- A sequence of single characters. -/
def chain (s : List Char) : Expr :=
  s.foldr (fun c e => .concat (.set (.single c)) e) .empty

/-- The expression that a literal pattern is read as. -/
def literalExpr : List Char → Expr
  | [] => .empty
  | [c] => .set (.single c)
  | s => chain s

section Read

variable {r : Reading} {c : Char} {s : List Char}

theorem step_literal (hflags : r.flags = {}) (hc : isMeta c = false) (s : List Char) :
    step r c s = some (r.push (characterItem c), s) := by
  have hne (d : Char) (hd : isMeta d = true) : c ≠ d := by
    rintro rfl
    rw [hc] at hd
    exact absurd hd nofun
  unfold step
  split
  all_goals first
    | exact absurd rfl (hne _ (by decide))
    | skip
  rw [hflags]
  rfl

theorem readFrom_literal (hgroups : r.groups = []) (hflags : r.flags = {}) (hs : IsLiteral s)
    {fuel : Nat} (hfuel : s.length < fuel) :
    readFrom fuel r s = some { r with
      branches := { r.branches with
        current := (s.map characterItem).reverse ++ r.branches.current } } := by
  induction s generalizing r fuel with
  | nil =>
    obtain ⟨fuel, rfl⟩ := Nat.exists_eq_succ_of_ne_zero (Nat.ne_of_gt hfuel)
    obtain ⟨groups, branches, flags, next, names⟩ := r
    subst hgroups hflags
    rfl
  | cons c s ih =>
    obtain ⟨hc, hs⟩ := isLiteral_cons.mp hs
    obtain ⟨fuel, rfl⟩ := Nat.exists_eq_succ_of_ne_zero (Nat.ne_of_gt (Nat.zero_lt_of_lt hfuel))
    have hskip : skip r.flags (c :: s) = c :: s := by
      rw [hflags]
      rfl
    rw [readFrom, hskip]
    dsimp only
    rw [step_literal hflags hc, Option.bind_eq_bind, Option.bind_some]
    rw [ih (r := r.push (characterItem c)) hgroups hflags hs (Nat.lt_of_succ_lt_succ hfuel)]
    simp [Reading.push]

theorem sequence_literal (s : List Char) :
    (sequence (s.map characterItem)).1 = literalExpr s ∧
      (sequence (s.map characterItem)).2 ≤ 1 := by
  have hparts (f : Item → Option (Expr × Nat))
      (hf : ∀ c, f (characterItem c) = some (.set (.single c), 0)) :
      (s.map characterItem).filterMap f = s.map fun c => (.set (.single c), 0) := by
    rw [List.filterMap_map, ← List.filterMap_eq_map]
    exact List.filterMap_congr fun c _ => hf c
  unfold sequence
  rw [hparts _ fun c => rfl]
  match s with
  | [] => exact ⟨rfl, Nat.zero_le 1⟩
  | [c] => exact ⟨rfl, Nat.zero_le 1⟩
  | c :: d :: s =>
    refine ⟨?_, ?_⟩
    · simp [literalExpr, chain, List.foldr_map]
    · have hzero : ∀ l : List Char, (l.map fun _ => 0).foldl max 0 = 0 := by
        intro l
        induction l with
        | nil => rfl
        | cons c l ih => exact ih
      simpa [List.map_map, Function.comp_def] using hzero (c :: d :: s)

theorem weight_single (c : Char) : weight (.set (.single c)) = 32 * c.utf8Size := by
  rw [CharSet.single, weight, if_pos rfl, Char.ofNat_toNat]

theorem weight_literal (s : List Char) : weight (literalExpr s) = 32 * (s.map Char.utf8Size).sum := by
  have hchain : ∀ s : List Char, weight (chain s) = 32 * (s.map Char.utf8Size).sum := by
    intro s
    induction s with
    | nil => rfl
    | cons c s ih =>
      rw [List.map_cons, List.sum_cons, Nat.mul_add, ← ih, ← weight_single]
      rfl
  match s with
  | [] => rfl
  | [c] => rw [literalExpr, weight_single, List.map_singleton, List.sum_singleton]
  | c :: d :: s => exact hchain _

/-- A literal pattern is read, unless it is too long. -/
theorem read?_literal (hs : IsLiteral s) :
    read? s =
      if 32 * (s.map Char.utf8Size).sum + 128 ≤ weightLimit then
        some ⟨compile (literalExpr s), []⟩
      else none := by
  have hread := readFrom_literal (r := {}) rfl rfl hs (Nat.lt_succ_self s.length)
  obtain ⟨hexpr, hdepth⟩ := sequence_literal s
  rw [read?, hread]
  simp only [Option.bind_eq_bind, Option.bind_some, List.append_nil]
  have hclose : Branches.close ⟨[], (s.map characterItem).reverse⟩ =
      sequence (s.map characterItem) := by
    rw [Branches.close, List.reverse_reverse]
  rw [hclose, hexpr, weight_literal]
  have hle : (sequence (s.map characterItem)).2 ≤ depthLimit := hdepth.trans (by decide)
  simp [hle]

end Read

section Compile

/-- The states that take the characters of a literal pattern. One that has the characters `rest`
still before it has as number two more than come after the next of them. -/
structure Takes (code : Code) (s : List Char) : Prop where
  accept : code[0]? = some .accept
  stop : code[1]? = some (.save 1 0)
  character : ∀ c rest, c :: rest <:+ s →
    code[rest.length + 2]? = some (.set (.single c) (rest.length + 1))

theorem getElem?_push_of_some {code : Code} {n : Nat} {i : Instr} (h : code[n]? = some i)
    (j : Instr) : (code.push j)[n]? = some i := by
  have hlt := (Array.getElem?_eq_some_iff.mp h).1
  rw [Array.getElem?_push_lt hlt, ← Array.getElem?_eq_getElem hlt, h]

theorem Takes.push {code : Code} {s : List Char} (h : Takes code s) (i : Instr) :
    Takes (code.push i) s :=
  ⟨getElem?_push_of_some h.accept i, getElem?_push_of_some h.stop i,
    fun c rest hs => getElem?_push_of_some (h.character c rest hs) i⟩

theorem takes_chain (s : List Char) :
    let c := compileExpr (chain s) 1 #[.accept, .save 1 0]
    Takes c.code s ∧ c.entry = s.length + 1 ∧ c.code.size = s.length + 2 := by
  induction s with
  | nil => exact ⟨⟨rfl, rfl, by simp⟩, rfl, rfl⟩
  | cons c s ih =>
    have hcons : compileExpr (chain (c :: s)) 1 #[.accept, .save 1 0] =
        (compileExpr (chain s) 1 #[.accept, .save 1 0]).prepend
          (.set (.single c) (compileExpr (chain s) 1 #[.accept, .save 1 0]).entry) := rfl
    rw [hcons]
    generalize compileExpr (chain s) 1 #[.accept, .save 1 0] = rest at ih
    obtain ⟨htakes, hentry, hsize⟩ := ih
    have hpushed := htakes.push (.set (.single c) rest.entry)
    refine ⟨⟨hpushed.accept, hpushed.stop, fun d t h => ?_⟩, hsize, ?_⟩
    · rcases List.suffix_cons_iff.mp h with heq | h
      · obtain ⟨rfl, rfl⟩ := List.cons.inj heq
        rw [Compiled.prepend, ← hsize, Array.getElem?_push_size, hentry]
      · exact hpushed.character d t h
    · rw [Compiled.prepend, Array.size_push, hsize, List.length_cons]

/-- The code of a literal pattern, which notes where the match begins and where it ends. -/
structure Spells (c : Compiled) (s : List Char) : Prop where
  takes : Takes c.code s
  start : c.code[s.length + 2]? = some (.save 0 (s.length + 1))
  entry : c.entry = s.length + 2
  size : c.code.size = s.length + 3

theorem spells_literal (s : List Char) : Spells (compile (literalExpr s)) s := by
  have hchain : compileExpr (literalExpr s) = compileExpr (chain s) := by
    match s with
    | [] => rfl
    | [c] => rfl
    | c :: d :: s => rfl
  have hcompile : compile (literalExpr s) =
      (compileExpr (chain s) 1 #[.accept, .save 1 0]).prepend
        (.save 0 (compileExpr (chain s) 1 #[.accept, .save 1 0]).entry) := by
    rw [compile, compileExpr, hchain]
    rfl
  rw [hcompile]
  obtain ⟨htakes, hentry, hsize⟩ := takes_chain s
  refine ⟨htakes.push _, ?_, hsize, ?_⟩
  · rw [Compiled.prepend, ← hsize, Array.getElem?_push_size, hentry]
  · rw [Compiled.prepend, Array.size_push, hsize]

end Compile

end Pattern

end BracketScript
