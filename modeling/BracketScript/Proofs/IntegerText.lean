import BracketScript.Proofs.Rounding
import BracketScript.Proofs.Sequences
import BracketScript.Proofs.Trichotomy
import BracketScript.Proofs.Truthiness

/-! Integers that are written out. A condition cannot tell the text of an integer from the integer,
whatever it is compared with and however the text has come about. -/

namespace BracketScript

namespace Value

variable {v v' w w' : Value} {n : Int64}

/-- A comparison sees the number of a value, and its text only if one side has no number. -/
theorem order?_congr (hnumber : v.number? = v'.number?)
    (htext : v.toText = v'.toText ∨ v.number?.isSome = true ∧ w.number?.isSome = true) :
    v.order? w = v'.order? w := by
  rw [order?, order?, ← hnumber]
  cases hv : v.number? with
  | none =>
    have heq : v.toText = v'.toText := by simpa [hv] using htext
    rw [heq]
  | some x =>
    cases hw : w.number? with
    | none =>
      have heq : v.toText = v'.toText := by simpa [hv, hw] using htext
      rw [heq]
    | some y => rfl

theorem holds_congr (op : Operator) (h : v.order? w = v'.order? w) :
    op.holds v w = op.holds v' w ∧ op.holds w v = op.holds w v' := by
  have hswap : w.order? v = w.order? v' := by rw [← order?_swap v w, ← order?_swap v' w, h]
  simp only [Operator.holds_eq, h, hswap, and_self]

/-- The decimal notation of an integer, with something before and after it. -/
def numeral (before : List Char) (n : Int64) (after : List Char) : Value :=
  .text (String.ofList (before ++ Decimal.ofInt n.toInt ++ after))

theorem numeral_nil (n : Int64) : numeral [] n [] = .text (int n).toText := by
  simp [numeral, toText]

theorem toText_numeral (n : Int64) : (numeral [] n []).toText = (int n).toText := by
  rw [numeral_nil]
  rfl

theorem isTrue_numeral (n : Int64) : (numeral [] n []).isTrue = (int n).isTrue := by
  have hread : ofLiteral (String.ofList (Decimal.ofInt n.toInt)) = .int n := by
    simp only [ofLiteral, String.toList_ofList, Decimal.readWord?_ofInt]
  rw [numeral_nil, isTrue, toText, hread]
  rfl

section Blanks

variable {before after : List Char} (hb : ∀ c ∈ before, Text.isBlank c = true)
  (ha : ∀ c ∈ after, Text.isBlank c = true)

include hb ha

theorem number?_numeral : (numeral before n after).number? = (int n).number? := by
  have htrim := Text.trimChars_ofInt hb ha n.toInt
  have hfinite := Double.isFinite_ofInt (Double.natAbs_toInt_le n)
  simp only [numeral, number?, String.toList_ofList, htrim, Double.readPlain?_ofInt]
  simp [hfinite]

theorem trimmed_numeral : (numeral before n after).trimmed = numeral [] n [] := by
  have htrim := Text.trimChars_ofInt hb ha n.toInt
  rw [numeral, trimmed, Text.trim, String.toList_ofList, htrim]
  simp [numeral]

end Blanks

/-- No condition can tell the values apart. -/
structure Alike (v v' : Value) : Prop where
  number : v.trimmed.number? = v'.trimmed.number?
  text : v.trimmed.toText = v'.trimmed.toText
  truth : v.trimmed.isTrue = v'.trimmed.isTrue

namespace Alike

theorem refl (v : Value) : v.Alike v :=
  ⟨rfl, rfl, rfl⟩

theorem holds (hv : v.Alike v') (hw : w.Alike w') (op : Operator) :
    op.holds v.trimmed w.trimmed = op.holds v'.trimmed w'.trimmed := by
  have hleft := (holds_congr op (order?_congr hv.number (w := w.trimmed) (.inl hv.text))).1
  have hright := (holds_congr op (order?_congr hw.number (w := v'.trimmed) (.inl hw.text))).2
  exact hleft.trans hright

theorem numeral {before after : List Char} (hb : ∀ c ∈ before, Text.isBlank c = true)
    (ha : ∀ c ∈ after, Text.isBlank c = true) (n : Int64) :
    (int n).Alike (numeral before n after) := by
  have htrim := trimmed_numeral (n := n) hb ha
  refine ⟨?_, ?_, ?_⟩
  · rw [htrim]
    exact (number?_numeral (by simp) (by simp)).symm
  · rw [htrim]
    exact (toText_numeral n).symm
  · rw [htrim]
    exact (isTrue_numeral n).symm

end Alike

theorem fold_of_two_le {vs : List Value} (h : 2 ≤ vs.length) :
    fold vs = .text (String.join (vs.map toText)) := by
  match vs with
  | [] => simp at h
  | [v] => simp at h
  | v :: w :: vs => rfl

section Joined

variable {before after : List Value}

theorem fold_between (h : ¬ (before = [] ∧ after = [])) (v : Value) :
    fold (before ++ v :: after) = .text (String.join ((before ++ v :: after).map toText)) := by
  have hpos : before.length ≠ 0 ∨ after.length ≠ 0 := by
    simp only [ne_eq, List.length_eq_zero_iff]
    tauto
  apply fold_of_two_le
  simp only [List.length_append, List.length_cons]
  omega

/-- Among other values an integer is joined like its text. -/
theorem alike_fold (before after : List Value) (n : Int64) :
    (fold (before ++ .int n :: after)).Alike (fold (before ++ numeral [] n [] :: after)) := by
  by_cases hnone : before = [] ∧ after = []
  · obtain ⟨rfl, rfl⟩ := hnone
    exact .numeral (by simp) (by simp) n
  · have hjoin : fold (before ++ .int n :: after) = fold (before ++ numeral [] n [] :: after) := by
      rw [fold_between hnone, fold_between hnone]
      simp only [List.map_append, List.map_cons, toText_numeral]
    rw [hjoin]
    exact .refl _

theorem alike_fold_blank (hb : ∀ u ∈ before, ∀ c ∈ u.toText.toList, Text.isBlank c = true)
    (ha : ∀ u ∈ after, ∀ c ∈ u.toText.toList, Text.isBlank c = true) (n : Int64) :
    (int n).Alike (fold (before ++ .int n :: after)) := by
  by_cases hnone : before = [] ∧ after = []
  · obtain ⟨rfl, rfl⟩ := hnone
    exact .refl _
  · let front := before.flatMap fun u => u.toText.toList
    let back := after.flatMap fun u => u.toText.toList
    have hfront : ∀ c ∈ front, Text.isBlank c = true := by
      intro c hc
      obtain ⟨u, hu, hcu⟩ := List.mem_flatMap.mp hc
      exact hb u hu c hcu
    have hback : ∀ c ∈ back, Text.isBlank c = true := by
      intro c hc
      obtain ⟨u, hu, hcu⟩ := List.mem_flatMap.mp hc
      exact ha u hu c hcu
    have hfold : fold (before ++ .int n :: after) = numeral front n back := by
      rw [fold_between hnone, numeral, text.injEq, ← String.toList_inj, String.toList_join]
      simp [front, back, toText, List.flatMap_map]
    rw [hfold]
    exact .numeral hfront hback n

end Joined

end Value

variable {κ σ : Type} {dispatch : Call → Run κ σ Value} {tokens tokens' : List Token}
  {m m₁ m' m₁' : Machine κ σ}

/-- The operator of a condition, if it has one, and the values that its sides come to. -/
inductive Sees (dispatch : Call → Run κ σ Value) (tokens : List Token) (m m' : Machine κ σ) :
    Option Operator → List Value → Prop
  | comparison {lhs rhs : List Token} {op : Operator} {v w : Value} {m₁ : Machine κ σ}
      (hc : comparison? tokens = some (lhs, op, rhs))
      (hv : Run.start m (evaluateSequence dispatch lhs) = (.ok v, m₁))
      (hw : Run.start m₁ (evaluateSequence dispatch rhs) = (.ok w, m')) :
      Sees dispatch tokens m m' (some op) [v, w]
  | alone {v : Value} (hc : comparison? tokens = none)
      (hv : Run.start m (evaluateSequence dispatch tokens) = (.ok v, m')) :
      Sees dispatch tokens m m' none [v]

def Sees.verdict : Option Operator → List Value → Bool
  | some op, [v, w] => op.holds v.trimmed w.trimmed
  | none, [v] => v.trimmed.isTrue
  | _, _ => false

theorem Sees.start_condition {op : Option Operator} {vs : List Value}
    (h : Sees dispatch tokens m m' op vs) :
    Run.start m (perform dispatch (condition tokens)) = (.ok (verdict op vs), m') := by
  cases h with
  | comparison hc hv hw =>
    rw [condition, hc]
    exact (Run.start_bind_ok _ hv).trans (Run.start_bind_ok _ hw)
  | alone hc hv => exact start_condition_ok hc hv

theorem Sees.verdict_congr (op : Option Operator) {vs vs' : List Value}
    (h : List.Forall₂ Value.Alike vs vs') : verdict op vs = verdict op vs' := by
  cases op with
  | none =>
    rcases h with _ | ⟨hv, _ | ⟨hw, h⟩⟩
    · rfl
    · exact hv.truth
    · rfl
  | some op =>
    rcases h with _ | ⟨hv, _ | ⟨hw, _ | ⟨hu, h⟩⟩⟩
    · rfl
    · rfl
    · exact hv.holds hw op
    · rfl

/-- An integer compares with anything as its text does, and with numbers also if there are blanks
around the text. No condition changes when an integer is written out, alone or among other text. -/
theorem integer_compares_as_text (n : Int64) :
    (∀ (w : Value) (op : Operator),
      op.holds (.text (Value.int n).toText) w = op.holds (.int n) w ∧
        op.holds w (.text (Value.int n).toText) = op.holds w (.int n)) ∧
    (∀ before after : List Char, (∀ c ∈ before, Text.isBlank c = true) →
      (∀ c ∈ after, Text.isBlank c = true) → (Value.int n).Alike (.numeral before n after) ∧
        ∀ (w : Value) (op : Operator), w.number?.isSome = true →
          op.holds (.numeral before n after) w = op.holds (.int n) w ∧
            op.holds w (.numeral before n after) = op.holds w (.int n)) ∧
    (∀ before after : List Value,
      (Value.fold (before ++ .int n :: after)).Alike
        (Value.fold (before ++ .text (Value.int n).toText :: after))) ∧
    (∀ before after : List Value, (∀ u ∈ before, ∀ c ∈ u.toText.toList, Text.isBlank c = true) →
      (∀ u ∈ after, ∀ c ∈ u.toText.toList, Text.isBlank c = true) →
      (Value.int n).Alike (Value.fold (before ++ .int n :: after))) ∧
    ∀ (κ σ : Type) (dispatch : Call → Run κ σ Value) (tokens tokens' : List Token)
      (op : Option Operator) (vs vs' : List Value) (m m₁ m' m₁' : Machine κ σ),
      Sees dispatch tokens m m₁ op vs → Sees dispatch tokens' m' m₁' op vs' →
      List.Forall₂ Value.Alike vs vs' →
      ∃ holds, Run.start m (perform dispatch (condition tokens)) = (.ok holds, m₁) ∧
        Run.start m' (perform dispatch (condition tokens')) = (.ok holds, m₁') := by
  rw [← Value.numeral_nil]
  refine ⟨fun w op => ?_, fun before after hb ha => ?_, fun before after => ?_,
    fun before after hb ha => ?_, ?_⟩
  · have hnumber : (Value.numeral [] n []).number? = (Value.int n).number? :=
      Value.number?_numeral (by simp) (by simp)
    exact Value.holds_congr op (Value.order?_congr hnumber (.inl (Value.toText_numeral n)))
  · refine ⟨.numeral hb ha n, fun w op hw => ?_⟩
    have hnumber := Value.number?_numeral (n := n) hb ha
    exact Value.holds_congr op (Value.order?_congr hnumber (.inr ⟨by rw [hnumber]; rfl, hw⟩))
  · exact Value.alike_fold before after n
  · exact Value.alike_fold_blank hb ha n
  · intro κ σ dispatch tokens tokens' op vs vs' m m₁ m' m₁' h h' hvs
    have hsame := Sees.verdict_congr op hvs
    refine ⟨Sees.verdict op vs, h.start_condition, ?_⟩
    rw [hsame]
    exact h'.start_condition

/-- A negative integer beside a fraction, with a blank written before it. -/
theorem integer_compares_as_text_blank :
    let e : Engine Builtin := Engine.ofRegistry Builtin.registry
    let m : Machine Builtin Unit := e.machine (e.prepare "file") ()
    let dispatch : Call → Run Builtin Unit Value := callFunction Builtin.body
    let compared : List Token :=
      [.literal ⟨1, 3⟩ (.number (-7)), .literal ⟨1, 5⟩ (.operator .equal),
        .literal ⟨1, 7⟩ (.text "-7.0")]
    let blank : Token := .literal ⟨1, 2⟩ (.text " ")
    (∀ c ∈ [' '], Text.isBlank c = true) ∧ (Value.text "-7.0").number?.isSome = true ∧
      Operator.equal.holds (.numeral [' '] (-7) [' ']) (.text "-7.0") =
        Operator.equal.holds (.int (-7)) (.text "-7.0") ∧
      ∃ holds, Run.start m (perform dispatch (condition compared)) = (.ok holds, m) ∧
        Run.start m (perform dispatch (condition (blank :: compared))) = (.ok holds, m) := by
  intro e m dispatch compared blank
  have hblank : ∀ c ∈ [' '], Text.isBlank c = true := List.forall_mem_singleton.mpr (by decide)
  have hnumber : (Value.text "-7.0").number?.isSome = true := by decide +kernel
  obtain ⟨-, hpadded, -, hjoined, hconditions⟩ := integer_compares_as_text (-7)
  have halike := hjoined [.text " "] [] (List.forall_mem_singleton.mpr hblank) nofun
  have hsees : Sees dispatch compared m m (some .equal) [.int (-7), .text "-7.0"] :=
    .comparison rfl rfl rfl
  have hsees' : Sees dispatch (blank :: compared) m m (some .equal)
      [Value.fold [.text " ", .int (-7)], .text "-7.0"] := .comparison rfl rfl rfl
  refine ⟨hblank, hnumber, ((hpadded _ _ hblank hblank).2 _ .equal hnumber).1, ?_⟩
  exact hconditions _ _ dispatch _ _ _ _ _ m m m m hsees hsees'
    (.cons halike (.cons (.refl _) .nil))

end BracketScript
