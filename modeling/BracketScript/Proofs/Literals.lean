import BracketScript.Evaluation
import BracketScript.Proofs.Arguments
import BracketScript.Proofs.Partition

/-! Literals in a program. They are read as they stand, and their values need nothing of the
machine. -/

namespace BracketScript

namespace Token

/-- A text or a number. -/
def IsDatum : Token → Prop
  | .literal _ (.text _) => True
  | .literal _ (.number _) => True
  | _ => False

theorem IsDatum.literal {t : Token} (h : t.IsDatum) : ∃ p v, t = .literal p v := by
  cases t with
  | literal p v => exact ⟨p, v, rfl⟩
  | call p name args => exact absurd h id
  | punctuation p mark => exact absurd h id

theorem IsDatum.operator? {t : Token} (h : t.IsDatum) : t.operator? = none := by
  obtain ⟨p, v, rfl⟩ := h.literal
  cases v with
  | operator op => exact absurd h id
  | text s => rfl
  | number n => rfl

def value : Token → Value
  | .literal _ v => v.value
  | _ => .undefined

theorem toText_value {t : Token} (h : ∃ p v, t = .literal p v) :
    t.value.toText.toList = t.spelling := by
  obtain ⟨p, v, rfl⟩ := h
  cases v with
  | text s => rfl
  | number n => exact String.toList_ofList
  | operator op => rfl

end Token

theorem toList_join_toText {ts : List Token} (h : ∀ t ∈ ts, ∃ p v, t = .literal p v) :
    (String.join ((ts.map Token.value).map Value.toText)).toList = ts.flatMap Token.spelling := by
  rw [String.toList_join, List.flatMap_map, List.flatMap_map]
  exact List.flatMap_congr fun t ht => Token.toText_value (h t ht)

theorem parse_literals (strict : Bool) {ts : List Token} (h : ∀ t ∈ ts, ∃ p v, t = .literal p v) :
    parse strict ts = .ok ts := by
  rw [parse_eq_read]
  exact Program.read_outer_literals strict [] h

variable {κ σ : Type} (dispatch : Call → Run κ σ Value) {m m' : Machine κ σ}

theorem start_evaluateTokens (hm : m.world.context.stopped = false) {ts : List Token}
    (h : ∀ t ∈ ts, ∃ p v, t = .literal p v) :
    Run.start m (evaluateTokens dispatch ts) = (.ok (ts.map Token.value), m) := by
  induction ts with
  | nil => rfl
  | cons t ts ih =>
    have ⟨⟨p, v, ht⟩, hts⟩ := List.forall_mem_cons.mp h
    have hfirst : Run.start m (evaluateToken dispatch t) = (.ok t.value, m) := by
      rw [ht]
      rfl
    rw [evaluateTokens, Run.start_bind_ok _ (Run.start_getWorld m), if_neg (by simp [hm]),
      Run.start_bind_ok _ hfirst, Run.start_bind_ok _ (ih hts), Run.start_pure]
    rfl

theorem start_evaluateSequence (hm : m.world.context.stopped = false) {ts : List Token}
    (h : ∀ t ∈ ts, ∃ p v, t = .literal p v) :
    Run.start m (evaluateSequence dispatch ts) = (.ok (Value.fold (ts.map Token.value)), m) := by
  rw [evaluateSequence, Run.start_bind_ok _ (start_evaluateTokens dispatch hm h), Run.start_pure]

theorem start_ask_evaluate {tokens : List Token} {v : Value}
    (hv : Run.start m (evaluateSequence dispatch tokens) = (.ok v, m'))
    (next : Value → Routine κ σ Value) :
    Run.start m (perform dispatch (.ask (.evaluate tokens) next)) =
      Run.start m' (perform dispatch (next v)) :=
  Run.start_bind_ok _ hv

/-- To ask for an argument is to evaluate it. -/
theorem start_argument_eq {call : Call} {i : Nat} {arg : List Token}
    (h : call.args[i]? = some arg) :
    Run.start m (perform dispatch (call.argument i)) =
      Run.start m (evaluateSequence dispatch arg) := by
  rw [Call.argument, h]
  exact congrArg (Run.start m) (bind_pure (evaluateSequence dispatch arg))

theorem start_argument {call : Call} {i : Nat} {arg : List Token} (h : call.args[i]? = some arg)
    {v : Value} (hv : Run.start m (evaluateSequence dispatch arg) = (.ok v, m')) :
    Run.start m (perform dispatch (call.argument i)) = (.ok v, m') :=
  (start_argument_eq dispatch h).trans hv

end BracketScript
