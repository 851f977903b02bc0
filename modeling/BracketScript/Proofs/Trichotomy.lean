import BracketScript.Comparison
import Mathlib.Data.String.Basic

/-! The operators agree with one another. All of them go by one order of values, in which some
numbers have no place, and the order is turned round when the sides are exchanged. -/

namespace BracketScript

namespace Double

theorem rank_eq_none_iff (x : Double) : x.rank = none ↔ x.isNaN = true := by
  cases x with
  | nan => exact iff_of_true rfl rfl
  | infinite negative => cases negative <;> exact iff_of_false nofun nofun
  | finite negative units h => cases negative <;> exact iff_of_false nofun nofun

theorem compare_eq_none_iff (x y : Double) :
    x.compare y = none ↔ x.isNaN = true ∨ y.isNaN = true := by
  rw [← rank_eq_none_iff, ← rank_eq_none_iff, compare]
  cases x.rank <;> cases y.rank <;> simp

theorem compare_swap (x y : Double) : (x.compare y).map Ordering.swap = y.compare x := by
  rw [compare, compare]
  cases x.rank with
  | none => cases y.rank <;> rfl
  | some a =>
    cases y.rank with
    | none => rfl
    | some b => exact congrArg some Std.OrientedOrd.eq_swap.symm

end Double

namespace Value

/-- Both values are numbers, and one of them is not a number that can be compared. -/
def Unordered (v w : Value) : Prop :=
  ∃ x y, v.number? = some x ∧ w.number? = some y ∧ (x.isNaN = true ∨ y.isNaN = true)

theorem order?_eq_none_iff (v w : Value) : v.order? w = none ↔ v.Unordered w := by
  rw [order?, Unordered]
  cases v.number? with
  | none => simp
  | some x =>
    cases w.number? with
    | none => simp
    | some y => simpa using x.compare_eq_none_iff y

theorem order?_swap (v w : Value) : (v.order? w).map Ordering.swap = w.order? v := by
  have htext : (compare v.toText w.toText).swap = compare w.toText v.toText :=
    Std.OrientedOrd.eq_swap.symm
  rw [order?, order?]
  cases v.number? with
  | none => cases w.number? <;> exact congrArg some htext
  | some x =>
    cases w.number? with
    | none => exact congrArg some htext
    | some y => exact x.compare_swap y

/-- Values are equal where the order says so, whether it is that of numbers or that of texts. -/
theorem equals_eq (v w : Value) : v.equals w = (v.order? w == some .eq) := by
  have htext : (v.toText == w.toText) =
      (some (compareOfLessAndEq v.toText w.toText) == some .eq) := by
    have heq : compare v.toText w.toText = .eq ↔ v.toText = w.toText := compare_eq_iff_eq
    change compareOfLessAndEq v.toText w.toText = .eq ↔ _ at heq
    rw [Bool.eq_iff_iff, beq_iff_eq, beq_iff_eq, Option.some.injEq, heq]
  rw [equals, order?]
  cases v.number? with
  | none => cases w.number? <;> exact htext
  | some x =>
    cases w.number? with
    | none => exact htext
    | some y => rfl

end Value

namespace Operator

/-- The operator that says the same of exchanged sides. -/
def converse : Operator → Operator
  | equal => equal
  | notEqual => notEqual
  | atLeast => atMost
  | atMost => atLeast
  | greater => less
  | less => greater

/-- Whether the operator holds of values with this order between them. -/
def accepts (op : Operator) (order : Option Ordering) : Bool :=
  match op with
  | equal => order == some .eq
  | notEqual => order != some .eq
  | atLeast => order == some .gt || order == some .eq
  | atMost => order == some .lt || order == some .eq
  | greater => order == some .gt
  | less => order == some .lt

theorem holds_eq (op : Operator) (v w : Value) : op.holds v w = op.accepts (v.order? w) := by
  cases op with
  | equal => exact v.equals_eq w
  | notEqual => exact congrArg (!·) (v.equals_eq w)
  | _ => rfl

theorem accepts_swap (op : Operator) (order : Option Ordering) :
    op.accepts (order.map Ordering.swap) = op.converse.accepts order := by
  obtain - | (_ | _ | _) := order <;> cases op <;> rfl

theorem accepts_none (op : Operator) : op.accepts none = (op == notEqual) := by
  cases op <;> rfl

/-- The one of the three strict operators that holds where values have this order. -/
def ofOrdering : Ordering → Operator
  | .lt => less
  | .eq => equal
  | .gt => greater

theorem accepts_strict (order : Ordering) :
    ∀ op ∈ [less, equal, greater], op.accepts (some order) = (op == ofOrdering order) := by
  cases order <;> decide

theorem ofOrdering_strict (order : Ordering) : ofOrdering order ∈ [less, equal, greater] := by
  cases order <;> decide

theorem accepts_some_unique (order : Ordering) :
    ∃! op, op ∈ [less, equal, greater] ∧ op.accepts (some order) = true := by
  refine ⟨ofOrdering order, ⟨ofOrdering_strict order, ?_⟩, fun op ⟨hop, haccepts⟩ => ?_⟩
  · rw [accepts_strict order _ (ofOrdering_strict order), beq_self_eq_true]
  · rwa [accepts_strict order op hop, beq_iff_eq] at haccepts

theorem accepts_negation (order : Ordering) :
    atLeast.accepts (some order) = !less.accepts (some order) ∧
      atMost.accepts (some order) = !greater.accepts (some order) := by
  cases order <;> decide

/-- Where one of two numbers is not a number, only `!=` holds between them. Between all other values
one of `<`, `==` and `>` does, and the other three operators are their negations. Exchanging the sides
is the same as turning the operator round. -/
theorem holds_coherent (v w : Value) :
    (v.Unordered w → ∀ op : Operator, op.holds v w = (op == notEqual)) ∧
    (¬ v.Unordered w →
      (∃! op : Operator, op ∈ [less, equal, greater] ∧ op.holds v w = true) ∧
      atLeast.holds v w = !less.holds v w ∧ atMost.holds v w = !greater.holds v w ∧
      notEqual.holds v w = !equal.holds v w) ∧
    (∀ op : Operator, op.holds w v = op.converse.holds v w) ∧
    (v.order? w = some .eq ↔ v.equals w = true) := by
  refine ⟨fun hnone op => ?_, fun hsome => ?_, fun op => ?_, ?_⟩
  · rw [op.holds_eq, (v.order?_eq_none_iff w).mpr hnone, accepts_none]
  · obtain ⟨order, horder⟩ := Option.ne_none_iff_exists'.mp (hsome ∘ (v.order?_eq_none_iff w).mp)
    have ⟨hless, hgreater⟩ := accepts_negation order
    simp only [holds_eq, horder]
    exact ⟨accepts_some_unique order, hless, hgreater, rfl⟩
  · rw [op.holds_eq, op.converse.holds_eq, ← v.order?_swap w, accepts_swap]
  · rw [v.equals_eq, beq_iff_eq]

/-- A float that is not a number beside a text that is one, and two zeros of different sign. -/
theorem holds_coherent_zeros :
    let nan : Value := .float .nan
    let half : Value := .text " .50 "
    let zero : Value := .float (.finite true 0 Double.representable_zero)
    nan.Unordered half ∧ (∀ op : Operator, op.holds nan half = (op == notEqual)) ∧
    ¬ zero.Unordered (.int 0) ∧ zero.equals (.int 0) = true ∧
      less.holds zero (.int 0) = false ∧ atLeast.holds zero (.int 0) = true := by
  intro nan half zero
  have hhalf : half.number?.map Double.isNaN = some false := by decide +kernel
  have hunordered : nan.Unordered half := by
    obtain ⟨x, hx, -⟩ := Option.map_eq_some_iff.mp hhalf
    exact ⟨.nan, x, rfl, hx, .inl rfl⟩
  have hzeros : zero.order? (.int 0) = some .eq := by decide +kernel
  have hordered : ¬ zero.Unordered (.int 0) := by
    rw [← Value.order?_eq_none_iff, hzeros]
    exact Option.some_ne_none _
  obtain ⟨-, hcoherent, -, hequal⟩ := holds_coherent zero (.int 0)
  obtain ⟨-, hatLeast, -, -⟩ := hcoherent hordered
  have hless : less.holds zero (.int 0) = false := by rw [holds_eq, hzeros]; rfl
  exact ⟨hunordered, (holds_coherent nan half).1 hunordered, hordered, hequal.mp hzeros, hless,
    by rw [hatLeast, hless]; rfl⟩

end Operator

end BracketScript
