import BracketScript.Proofs.LiteralSearch
import BracketScript.Proofs.Occurrences

/-! Replacing the matches of a literal pattern is replacing the occurrences of a text, also of the
empty one, if the dollar signs of the replacement are written twice. -/

namespace BracketScript

namespace Pattern

section Replace

variable {p : Pattern} {s : List Char}

theorem next?_of_none {origin : Place} (h : p.first? origin = none) (taken : Option Nat) :
    p.next? origin taken = none := by
  rw [next?, h]
  rfl

theorem next?_of_not_again {origin : Place} {m : Match} {taken : Option Nat}
    (h : p.first? origin = some m) (hm : ¬ (m.isEmpty && taken == some m.stop.index) = true) :
    p.next? origin taken = some m := by
  rw [next?, h]
  exact if_neg hm

theorem next?_of_again {origin : Place} {m : Match} {taken : Option Nat}
    (h : p.first? origin = some m) (hm : (m.isEmpty && taken == some m.stop.index) = true) :
    p.next? origin taken = origin.next?.bind fun (_, later) => p.first? later := by
  rw [next?, h]
  exact if_pos hm

variable {template : List Piece} {replacement text : List Char}

/-- Every match is replaced by the same text. -/
def Puts (p : Pattern) (text : List Char) (template : List Piece) (replacement : List Char) : Prop :=
  ∀ m, template.flatMap (Piece.text p text m) = replacement

theorem substitute_cons (hputs : p.Puts text template replacement) (index : Nat) (m : Match)
    (ms : List Match) : p.substitute template text index (m :: ms) =
      (text.drop index).take (m.start - index) ++ replacement ++
        p.substitute template text m.stop.index ms := by
  rw [substitute, hputs m]

theorem substitute_occurrences (hcode : Spells p.code s) (hs : s ≠ [])
    (hputs : p.Puts text template replacement) {origin : Place}
    (horigin : origin.after = text.drop origin.index) {fuel : Nat}
    (hfuel : origin.after.length < fuel) (taken : Option Nat) :
    p.substitute template text origin.index (p.matchesFrom fuel origin taken) =
      Text.replaceOccurrences s replacement none origin.after := by
  induction fuel generalizing origin taken with
  | zero => exact absurd hfuel (Nat.not_lt_zero _)
  | succ fuel ih =>
    have hpos := List.length_pos_iff.mpr hs
    rw [matchesFrom, Text.replaceOccurrences, if_neg nofun, Text.cut]
    obtain ⟨i, m, hi, hm, hstart, hindex, hafter⟩ | ⟨hnone, hm⟩ := first?_cases hcode origin
    · have hoccurs : i + s.length ≤ origin.after.length := by
        obtain ⟨j, hj, hleast⟩ | ⟨hnone, -⟩ := Text.indexOf_cases s origin.after
        · obtain rfl : i = j := Option.some.inj (hi.symm.trans hj)
          exact hleast.1.add_length_le
        · rw [hi] at hnone
          exact absurd hnone nofun
      have hnot : ¬ (m.isEmpty && taken == some m.stop.index) = true := by
        simp only [Match.isEmpty, Bool.and_eq_true, beq_iff_eq]
        omega
      have hlength : (origin.after.drop (i + s.length)).length < origin.after.length := by
        rw [List.length_drop]
        omega
      have hrest : m.stop.after = text.drop m.stop.index := by
        rw [hafter, hindex, horigin, List.drop_drop, Nat.add_assoc]
      have hih := ih hrest (by rw [hafter]; omega) (some m.stop.index)
      rw [next?_of_not_again hm hnot, hi, Option.map_some]
      dsimp only
      rw [substitute_cons hputs, hih, hafter, if_pos hlength, hstart, Nat.add_sub_cancel_left,
        ← horigin, Option.map_none]
    · rw [next?_of_none hm, hnone, Option.map_none]
      exact horigin.symm

theorem first?_empty (hcode : Spells p.code []) (origin : Place) :
    ∃ m, p.first? origin = some m ∧ m.start = origin.index ∧ m.stop.index = origin.index ∧
      m.stop.after = origin.after := by
  have hzero : Text.indexOf [] origin.after = some 0 := by
    cases origin.after <;> rfl
  obtain ⟨i, m, hi, hm, hstart, hindex, hafter⟩ | ⟨hnone, -⟩ := first?_cases hcode origin
  · obtain rfl : 0 = i := Option.some.inj (hzero.symm.trans hi)
    exact ⟨m, hm, hstart, hindex, hafter⟩
  · rw [hzero] at hnone
    exact absurd hnone nofun

/-- After an empty match the next one is at the next boundary. -/
theorem substitute_boundaries (hcode : Spells p.code []) (hputs : p.Puts text template replacement)
    {origin : Place} (horigin : origin.after = text.drop origin.index) {fuel : Nat}
    (hfuel : origin.after.length < fuel) :
    replacement ++ p.substitute template text origin.index
        (p.matchesFrom fuel origin (some origin.index)) =
      Text.insertAtBoundaries replacement none origin.after := by
  induction fuel generalizing origin with
  | zero => exact absurd hfuel (Nat.not_lt_zero _)
  | succ fuel ih =>
    obtain ⟨m, hm, hstart, hindex, -⟩ := first?_empty hcode origin
    have hagain : (m.isEmpty && some origin.index == some m.stop.index) = true := by
      simp [Match.isEmpty, hstart, hindex]
    rw [matchesFrom, next?_of_again hm hagain, Place.next?]
    cases hafter : origin.after with
    | nil =>
      rw [hafter] at horigin
      change replacement ++ text.drop origin.index = replacement
      rw [← horigin, List.append_nil]
    | cons c rest =>
      obtain ⟨m', hm', hstart', hindex', hafter'⟩ :=
        first?_empty hcode ⟨origin.index + 1, some c, rest⟩
      have hdrop : text.drop (origin.index + 1) = rest := by
        rw [← List.drop_drop, ← horigin, hafter, List.drop_one, List.tail_cons]
      have hless : rest.length < fuel := by
        rw [hafter, List.length_cons] at hfuel
        exact Nat.lt_of_succ_lt_succ hfuel
      have hrest : m'.stop.after = text.drop m'.stop.index := by
        rw [hafter', hindex', hdrop]
      have hih := ih hrest (by rwa [hafter'])
      dsimp only [Option.bind_some]
      rw [hm']
      dsimp only
      rw [substitute_cons hputs, hstart', ← horigin, hafter, List.append_assoc, hih, hafter']
      simp [Text.insertAtBoundaries]

/-- What a literal pattern is replaced by goes where its occurrences are, as for a plain text. -/
theorem substitute_allMatches (hcode : Spells p.code s) (hputs : p.Puts text template replacement) :
    p.substitute template text 0 (p.allMatches text) = Text.replace s replacement none text := by
  by_cases hs : s = []
  · subst hs
    obtain ⟨m, hm, hstart, hindex, hafter⟩ := first?_empty hcode (.start text)
    rw [allMatches, matchesFrom, next?_of_not_again hm (by simp)]
    dsimp only
    have hstop : m.stop.after = text.drop m.stop.index := by
      rw [hafter, hindex]
      rfl
    have hfuel : m.stop.after.length < text.length + 1 := by
      rw [hafter]
      exact Nat.lt_succ_self _
    have hrest := substitute_boundaries hcode hputs hstop hfuel
    rw [substitute_cons hputs, hstart, List.append_assoc, hrest, hafter, Text.replace,
      if_pos List.isEmpty_nil]
    rfl
  · rw [allMatches, Text.replace, if_neg (by simpa using hs)]
    have hstart : (Place.start text).after = text.drop (Place.start text).index := rfl
    exact substitute_occurrences hcode hs hputs hstart (by simp [Place.start]) none

end Replace

/-- A replacement that stands for itself: every dollar sign is written twice. -/
def doubled (s : List Char) : List Char :=
  s.flatMap fun c => if c = '$' then ['$', '$'] else [c]

theorem pieces_doubled (s : List Char) : pieces (doubled s) = s.map fun c => .literal [c] := by
  induction s with
  | nil => rw [doubled, List.flatMap_nil, pieces, List.map_nil]
  | cons c s ih =>
    rw [doubled, List.flatMap_cons, ← doubled]
    by_cases hc : c = '$'
    · rw [if_pos hc, List.cons_append, pieces, if_pos rfl]
      simp [dollarPiece, ih, hc]
    · rw [if_neg hc, List.singleton_append, pieces, if_neg hc, ih, List.map_cons]

theorem puts_doubled (p : Pattern) (text s : List Char) : p.Puts text (pieces (doubled s)) s := by
  intro m
  rw [pieces_doubled, List.flatMap_map]
  exact List.flatMap_singleton' s

/-- Patterns without a special character replace as plain texts do. -/
theorem replaceAll_literal {p : Pattern} {s : List Char} (hs : IsLiteral s) (h : read? s = some p)
    (replacement text : List Char) :
    p.replaceAll (doubled replacement) text = Text.replace s replacement none text := by
  rw [read?_literal hs] at h
  split at h
  · obtain rfl := Option.some.inj h
    exact substitute_allMatches (spells_literal s) (puts_doubled _ text replacement)
  · exact absurd h nofun

end Pattern

namespace Builtin

variable (v w u : Value)

theorem gives_replaceRegex {p : Pattern} (h : Pattern.read? w.chars = some p) :
    replaceRegex.Gives [v, w, u] (.text (String.ofList (p.replaceAll u.chars v.chars))) := by
  refine gives_of_action (by simp) (by simp [minimum]) ?_
  intro κ σ dispatch call m m' hcomes
  obtain ⟨m₁, hv, hcomes⟩ := hcomes.text
  obtain ⟨m₂, hw, hcomes⟩ := hcomes.text
  obtain ⟨m₃, hu, hcomes⟩ := hcomes.text
  obtain ⟨-, rfl⟩ := hcomes.eq_of_nil
  have hread : Pattern.read? w.toText.toList = some p := h
  rw [action, Library.replaceRegex, start_perform_bind_ok hv, start_perform_bind_ok hw,
    start_perform_bind_ok hu, hread]
  rfl

end Builtin

end BracketScript
