import Mathlib
import BracketScript.Library

/-! Functions that need arguments look at the call before anything else. What they refuse fails with
the name of the call, and nothing has been evaluated by then. -/

namespace BracketScript

variable {κ σ : Type}

namespace Call

/-- A call with too few arguments. A single empty one does not count. -/
def Lacks (call : Call) (minimum : Nat) : Prop :=
  call.args = [[]] ∨ call.args.length < minimum

def refusal (call : Call) (minimum : Nat) : CallFault :=
  if call.hasBrackets then .argumentsExpected minimum else .bracketsExpected

variable {call : Call} {minimum : Nat}

theorem given_eq_length (h : call.args ≠ [[]]) : call.given = call.args.length := by
  rw [given]
  split
  · rename_i hargs
    exact absurd hargs h
  · rfl

theorem given_lt_iff (hmin : minimum ≠ 0) : call.given < minimum ↔ call.Lacks minimum := by
  by_cases hargs : call.args = [[]]
  · have hzero : call.given = 0 := by rw [given, hargs]
    have hpos : call.given < minimum := by omega
    exact iff_of_true hpos (.inl hargs)
  · rw [given_eq_length hargs, Lacks, or_iff_right hargs]

theorem not_lacks_of_le (htwo : 2 ≤ call.args.length) (h : minimum ≤ call.args.length) :
    ¬ call.Lacks minimum := by
  rintro (hargs | hlt)
  · simp [hargs] at htwo
  · omega

theorem le_of_not_lacks (h : ¬ call.Lacks minimum) : minimum ≤ call.args.length :=
  Nat.le_of_not_lt fun hlt => h (.inr hlt)

theorem require_of_lacks (hmin : minimum ≠ 0) (h : call.Lacks minimum) :
    (call.require minimum : Routine κ σ Unit) = .fail (.failed call.name (call.refusal minimum)) := by
  have hlt := (given_lt_iff hmin).mpr h
  cases hbrackets : call.hasBrackets with
  | false => simp [require, refusal, hbrackets]
  | true => simp [require, refusal, hbrackets, hlt]

theorem require_of_not_lacks (hmin : minimum ≠ 0) (h : ¬ call.Lacks minimum) :
    (call.require minimum : Routine κ σ Unit) = .done () := by
  have hlt := mt (given_lt_iff hmin).mp h
  have hbrackets : call.hasBrackets = true := by
    by_contra hnone
    have hargs : call.args = [] := by simpa [hasBrackets] using hnone
    refine h (.inr ?_)
    simp only [hargs, List.length_nil]
    omega
  simp [require, hbrackets, hlt]

end Call

namespace Builtin

variable {f : Builtin} {call : Call}

theorem body_of_lacks (hf : f.minimum ≠ 0) (h : call.Lacks f.minimum) :
    (f.body call : Routine κ σ Value) =
      .fail (.failed call.name (call.refusal f.minimum)) := by
  rw [body, if_pos hf, Call.require_of_lacks hf h]
  rfl

theorem body_of_not_lacks (h : ¬ call.Lacks f.minimum) :
    (f.body call : Routine κ σ Value) = f.action call := by
  rw [body]
  split
  · rename_i hf
    rw [Call.require_of_not_lacks hf h]
    rfl
  · rfl

end Builtin

end BracketScript
