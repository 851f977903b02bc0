import BracketScript.Proofs.LiteralPatterns

/-! Search for a literal pattern. Its states are entered one after the other from each place in turn,
and none of them a second time at one place, so that the first match is the first occurrence. -/

namespace BracketScript

namespace Pattern

theorem contains_single (c d : Char) : (CharSet.single c).contains d.toNat = (c == d) := by
  rw [Bool.eq_iff_iff, CharSet.single, CharSet.contains, Text.inRanges, List.any_cons, List.any_nil,
    Bool.or_false, Bool.and_eq_true, decide_eq_true_eq, decide_eq_true_eq, beq_iff_eq,
    ← Char.toNat_inj]
  omega

section Advance

variable {code : Code} {visited : Std.HashSet (Nat × Nat)} {t : Thread} {ts : List Thread}

theorem advance_accept (fuel : Nat) (hnew : (t.state, t.place.index) ∉ visited)
    (h : code[t.state]? = some .accept) : advance code (fuel + 1) visited (t :: ts) = some t := by
  rw [advance, if_neg (by simpa using hnew), h]

theorem advance_step {i : Instr} (fuel : Nat) (ts : List Thread) (hnew : (t.state, t.place.index) ∉ visited)
    (h : code[t.state]? = some i) (hi : i ≠ .accept) :
    advance code (fuel + 1) visited (t :: ts) =
      advance code fuel (visited.insert (t.state, t.place.index)) (t.successors i ++ ts) := by
  rw [advance, if_neg (by simpa using hnew), h]
  cases i with
  | accept => exact absurd rfl hi
  | _ => rfl

theorem advance_nil (fuel : Nat) : advance code fuel visited [] = none := by
  cases fuel <;> rfl

/-- The states entered on the way from places before `start`, in a pattern of `n` characters. -/
def PassedBefore (n start : Nat) (visited : Std.HashSet (Nat × Nat)) : Prop :=
  ∀ s i, (s, i) ∈ visited →
    s = n + 2 ∧ i < start ∨ 0 < s ∧ s ≤ n + 1 ∧ s + i < n + 1 + start

/-- Those, and the ones entered from `start` itself when more than `left` characters of the pattern
were left. From one start to the next the sum of state and place grows. -/
def Passed (n start left : Nat) (visited : Std.HashSet (Nat × Nat)) : Prop :=
  ∀ s i, (s, i) ∈ visited →
    s = n + 2 ∧ i ≤ start ∨
      0 < s ∧ s ≤ n + 1 ∧ (s + i < n + 1 + start ∨ s + i = n + 1 + start ∧ left + 1 < s)

theorem passedBefore_empty (n start : Nat) : PassedBefore n start ∅ := by
  intro s i h
  simp at h

theorem PassedBefore.insert {n start : Nat} (h : PassedBefore n start visited) :
    Passed n start n (visited.insert (n + 2, start)) := by
  intro s i hmem
  rcases Std.HashSet.mem_insert.mp hmem with heq | hmem
  · simp only [beq_iff_eq, Prod.mk.injEq] at heq
    omega
  · have := h s i hmem
    omega

theorem Passed.insert {n start left index : Nat} (h : Passed n start (left + 1) visited)
    (hleft : left + 1 ≤ n) (hindex : index + (left + 1) = start + n) :
    Passed n start left (visited.insert (left + 2, index)) := by
  intro s i hmem
  rcases Std.HashSet.mem_insert.mp hmem with heq | hmem
  · simp only [beq_iff_eq, Prod.mk.injEq] at heq
    omega
  · have := h s i hmem
    omega

theorem Passed.before {n start left : Nat} (h : Passed n start left visited) :
    PassedBefore n (start + 1) visited := by
  intro s i hmem
  have := h s i hmem
  omega

theorem Passed.not_mem {n start left index : Nat} (h : Passed n start left visited)
    (hleft : left ≤ n) (hindex : index + left = start + n) : (left + 1, index) ∉ visited := by
  intro hmem
  have := h _ _ hmem
  omega

/-- The pattern of `n` characters, or what is left of it, has been taken from the place on. -/
structure Thread.Took (t : Thread) (n : Nat) (place : Place) (slots : List (Nat × Nat)) : Prop where
  index : t.place.index = place.index + n
  after : t.place.after = place.after.drop n
  slots : t.slots = (1, place.index + n) :: slots

/-- The threads that wait have their turn, and nothing has been entered from `start` on. -/
def GoesOn (code : Code) (n start fuel : Nat) (ts : List Thread) (result : Option Thread) : Prop :=
  ∃ visited fuel', fuel ≤ fuel' ∧ PassedBefore n start visited ∧
    result = advance code fuel' visited ts

theorem successors_single (t : Thread) (c : Char) (next : Nat) :
    t.successors (.set (.single c) next) =
      match t.place.after with
      | [] => []
      | d :: after =>
        if c = d then [⟨next, ⟨t.place.index + 1, some d, after⟩, t.slots⟩] else [] := by
  rw [Thread.successors, Place.next?]
  cases t.place.after with
  | nil => rfl
  | cons d after => simp only [contains_single, beq_iff_eq]

/-- With nothing of the pattern left, the end of the match is noted and the match accepted. -/
theorem advance_last {p : List Char} (hcode : Takes code p) {start : Nat}
    (hpassed : Passed p.length start 0 visited) (hstate : t.state = 1)
    (hplace : t.place.index = start + p.length) (fuel : Nat) :
    ∃ t' : Thread, advance code (fuel + 2) visited (t :: ts) = some t' ∧
      t'.Took 0 t.place t.slots := by
  have hnew : (t.state, t.place.index) ∉ visited :=
    hstate ▸ hpassed.not_mem (Nat.zero_le _) hplace
  have hnew' : (0, t.place.index) ∉ visited.insert (t.state, t.place.index) := by
    intro hmem
    rcases Std.HashSet.mem_insert.mp hmem with heq | hmem
    · simp [hstate] at heq
    · have := hpassed _ _ hmem
      omega
  have hstop : code[t.state]? = some (.save 1 0) := hstate ▸ hcode.stop
  refine ⟨⟨0, t.place, (1, t.place.index) :: t.slots⟩, ?_, rfl, rfl, rfl⟩
  rw [advance_step (fuel + 1) ts hnew hstop (by simp)]
  exact advance_accept (t := ⟨0, t.place, (1, t.place.index) :: t.slots⟩) fuel hnew' hcode.accept

/-- With `rest` of the pattern left: either it stands at the place, and is taken, or the search goes
on from the next place. -/
theorem advance_rest {p rest : List Char} (hcode : Takes code p) (hrest : rest <:+ p) {start : Nat}
    (hpassed : Passed p.length start rest.length visited) (hstate : t.state = rest.length + 1)
    (hplace : t.place.index + rest.length = start + p.length) (fuel : Nat) :
    (rest <+: t.place.after → ∃ t' : Thread,
      advance code (fuel + rest.length + 2) visited (t :: ts) = some t' ∧
        t'.Took rest.length t.place t.slots) ∧
    (¬ rest <+: t.place.after → GoesOn code p.length (start + 1) fuel ts
      (advance code (fuel + rest.length + 2) visited (t :: ts))) := by
  induction rest generalizing t visited fuel with
  | nil =>
    exact ⟨fun _ => advance_last hcode hpassed hstate hplace fuel,
      fun hnot => absurd List.nil_prefix hnot⟩
  | cons c rest ih =>
    have hlength := hrest.length_le
    rw [List.length_cons] at hpassed hstate hplace hlength
    have hnew : (t.state, t.place.index) ∉ visited := hstate ▸ hpassed.not_mem hlength hplace
    have hnext := hpassed.insert hlength hplace
    have hcharacter : code[t.state]? = some (.set (.single c) (rest.length + 1)) :=
      hstate ▸ hcode.character c rest hrest
    have hstep := advance_step (fuel + rest.length + 2) ts hnew hcharacter (by simp)
    rw [successors_single, hstate] at hstep
    have hfuel : fuel + (c :: rest).length + 2 = fuel + rest.length + 2 + 1 := by
      rw [List.length_cons]
      omega
    have hle : fuel ≤ fuel + rest.length + 2 := by omega
    rw [hfuel, hstep]
    cases hafter : t.place.after with
    | nil => exact ⟨fun h => absurd h (by simp), fun _ => ⟨_, _, hle, hnext.before, rfl⟩⟩
    | cons d after =>
      by_cases hcd : c = d
      · subst hcd
        obtain ⟨htaken, hleft⟩ :=
          ih (t := ⟨rest.length + 1, ⟨t.place.index + 1, some c, after⟩, t.slots⟩)
            ((List.suffix_cons c rest).trans hrest) hnext rfl (by dsimp only; omega) fuel
        simp only [if_true, List.singleton_append, List.prefix_cons_inj]
        refine ⟨fun h => ?_, hleft⟩
        obtain ⟨t', ht', hindex, hrest', hslots⟩ := htaken h
        have hshift : t.place.index + 1 + rest.length = t.place.index + (rest.length + 1) := by omega
        rw [hshift] at hindex hslots
        exact ⟨t', ht', hindex, by rw [hrest', hafter]; rfl, hslots⟩
      · simp only [hcd, if_false, List.nil_append]
        refine ⟨fun h => absurd (List.cons_prefix_cons.mp h).1 hcd, fun _ => ?_⟩
        exact ⟨_, _, hle, hnext.before, rfl⟩

/-- At one place: either the pattern stands there, and is taken, or the search goes on from the next
place. -/
theorem advance_start {p : List Char} {c : Compiled} (hc : Spells c p) (place : Place)
    (ts : List Thread) (hpassed : PassedBefore p.length place.index visited) (fuel : Nat) :
    (p <+: place.after → ∃ t : Thread,
      advance c.code (fuel + p.length + 3) visited (⟨c.entry, place, []⟩ :: ts) = some t ∧
        t.Took p.length place [(0, place.index)]) ∧
    (¬ p <+: place.after → GoesOn c.code p.length (place.index + 1) fuel ts
      (advance c.code (fuel + p.length + 3) visited (⟨c.entry, place, []⟩ :: ts))) := by
  have hnew : (c.entry, place.index) ∉ visited := by
    intro hmem
    have := hpassed _ _ hmem
    have := hc.entry
    omega
  have hstep := advance_step (t := ⟨c.entry, place, []⟩) (fuel + p.length + 2) ts hnew
    (hc.entry ▸ hc.start) (by simp)
  rw [hstep, hc.entry]
  exact advance_rest (t := ⟨p.length + 1, place, [(0, place.index)]⟩) hc.takes (List.suffix_refl p)
    hpassed.insert rfl rfl fuel

/-- The threads that a search begins with, one for each place. -/
def starts (c : Compiled) (index : Nat) (before : Option Char) (after : List Char) : List Thread :=
  (Place.onwards index before after).map fun place => ⟨c.entry, place, []⟩

theorem exists_fuel {n k fuel : Nat} (h : (n + 3) * (k + 1) ≤ fuel) :
    ∃ fuel', fuel = fuel' + n + 3 ∧ (n + 3) * k ≤ fuel' := by
  rw [Nat.mul_succ] at h
  exact ⟨fuel - (n + 3), by omega, by omega⟩

/-- The search finds the first occurrence of the pattern. -/
theorem advance_starts {p : List Char} {c : Compiled} (hc : Spells c p) (after : List Char)
    {index : Nat} (before : Option Char) (hpassed : PassedBefore p.length index visited) {fuel : Nat}
    (hfuel : (p.length + 3) * (after.length + 1) ≤ fuel) :
    (∃ i t b, Text.indexOf p after = some i ∧
      advance c.code fuel visited (starts c index before after) = some t ∧
      t.Took p.length ⟨index + i, b, after.drop i⟩ [(0, index + i)]) ∨
    (Text.indexOf p after = none ∧
      advance c.code fuel visited (starts c index before after) = none) := by
  induction after generalizing index before visited fuel with
  | nil =>
    obtain ⟨fuel, rfl, -⟩ := exists_fuel hfuel
    obtain ⟨htaken, hleft⟩ := advance_start hc ⟨index, before, []⟩ [] hpassed fuel
    by_cases hp : p = []
    · subst hp
      obtain ⟨t, ht, htook⟩ := htaken List.nil_prefix
      exact .inl ⟨0, t, before, rfl, ht, htook⟩
    · obtain ⟨visited', fuel', -, -, hadvance⟩ := hleft (by simpa using hp)
      exact .inr ⟨by simp [Text.indexOf, hp], hadvance.trans (advance_nil fuel')⟩
  | cons d after ih =>
    obtain ⟨fuel, rfl, henough⟩ := exists_fuel hfuel
    obtain ⟨htaken, hleft⟩ := advance_start hc ⟨index, before, d :: after⟩
      (starts c (index + 1) (some d) after) hpassed fuel
    by_cases hp : p <+: d :: after
    · obtain ⟨t, ht, htook⟩ := htaken hp
      refine .inl ⟨0, t, before, ?_, ht, htook⟩
      rw [Text.indexOf, if_pos (by simpa using hp)]
    · obtain ⟨visited', fuel', hle, hpassed', hadvance⟩ := hleft hp
      have hadvance' : advance c.code (fuel + p.length + 3) visited
          (starts c index before (d :: after)) = _ := hadvance
      rw [hadvance', Text.indexOf, if_neg (by simpa using hp)]
      obtain ⟨i, t, b, hi, ht, htook⟩ | ⟨hnone, hadvance⟩ :=
        ih (some d) hpassed' (henough.trans hle)
      · rw [Nat.add_right_comm, Nat.add_assoc] at htook
        exact .inl ⟨i + 1, t, b, by rw [hi]; rfl, ht, htook⟩
      · exact .inr ⟨by rw [hnone]; rfl, hadvance⟩

end Advance

theorem length_onwards (index : Nat) (before : Option Char) (after : List Char) :
    (Place.onwards index before after).length = after.length + 1 := by
  induction after generalizing index before with
  | nil => rfl
  | cons c after ih => rw [Place.onwards, List.length_cons, ih, List.length_cons]

section First

variable {p : Pattern} {s : List Char}

/-- The first match of a literal pattern is its first occurrence. -/
theorem first?_cases (hcode : Spells p.code s) (origin : Place) :
    (∃ i m, Text.indexOf s origin.after = some i ∧ p.first? origin = some m ∧
      m.start = origin.index + i ∧ m.stop.index = origin.index + i + s.length ∧
      m.stop.after = origin.after.drop (i + s.length)) ∨
    (Text.indexOf s origin.after = none ∧ p.first? origin = none) := by
  have hfuel : (s.length + 3) * (origin.after.length + 1) ≤
      2 * (p.code.code.size * (Place.onwards origin.index origin.before origin.after).length) +
        (Place.onwards origin.index origin.before origin.after).length + 1 := by
    rw [hcode.size, length_onwards]
    omega
  obtain ⟨i, t, b, hi, ht, htook⟩ | ⟨hnone, hadvance⟩ :=
    advance_starts hcode origin.after origin.before (passedBefore_empty s.length origin.index) hfuel
  · refine .inl ⟨i, .ofThread t, hi, ?_, ?_, htook.index, ?_⟩
    · rw [first?, find?]
      exact congrArg (Option.map Match.ofThread) ht
    · rw [Match.ofThread, htook.slots]
      rfl
    · exact htook.after.trans List.drop_drop
  · refine .inr ⟨hnone, ?_⟩
    rw [first?, find?]
    exact congrArg (Option.map Match.ofThread) hadvance

end First

end Pattern

end BracketScript
