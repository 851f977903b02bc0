import BracketScript.Library

/-! What the functions of the library ask for and how they fail. They evaluate tokens of the call
they are given, one of them runs sources, and they fail in their own name only. -/

namespace BracketScript

namespace Routine

variable {κ σ α β : Type} {asks asks' : Request κ σ → Prop} {fails fails' : ScriptError → Prop}

/-- Whatever the answers, the requests are among `asks` and the failures among `fails`. -/
def Within (asks : Request κ σ → Prop) (fails : ScriptError → Prop) : Routine κ σ α → Prop
  | .done _ => True
  | .fail e => fails e
  | .ask q next => asks q ∧ ∀ reply, (next reply).Within asks fails

theorem Within.bind {r : Routine κ σ α} {f : α → Routine κ σ β} (hr : r.Within asks fails)
    (hf : ∀ a, (f a).Within asks fails) : (r >>= f).Within asks fails := by
  induction r with
  | done a => exact hf a
  | fail e => exact hr
  | ask q next ih => exact ⟨hr.1, fun reply => ih reply (hr.2 reply)⟩

theorem Within.mono {r : Routine κ σ α} (hr : r.Within asks fails) (ha : ∀ q, asks q → asks' q)
    (hf : ∀ e, fails e → fails' e) : r.Within asks' fails' := by
  induction r with
  | done a => trivial
  | fail e => exact hf e hr
  | ask q next ih => exact ⟨ha q hr.1, fun reply => ih reply (hr.2 reply)⟩

end Routine

theorem comparison?_eq_some {ts lhs rhs : List Token} {op : Operator}
    (h : comparison? ts = some (lhs, op, rhs)) :
    ∃ t, t.operator? = some op ∧ ts = lhs ++ t :: rhs := by
  induction ts generalizing lhs with
  | nil => simp [comparison?] at h
  | cons t ts ih =>
    rw [comparison?] at h
    cases ht : t.operator? with
    | some op' =>
      simp only [ht, Option.some.injEq, Prod.mk.injEq] at h
      obtain ⟨rfl, rfl, rfl⟩ := h
      exact ⟨t, ht, rfl⟩
    | none =>
      simp only [ht, Option.map_eq_some_iff, Prod.mk.injEq, Prod.exists] at h
      obtain ⟨lhs', op', rhs', hrest, rfl, rfl, rfl⟩ := h
      obtain ⟨u, hu, rfl⟩ := ih hrest
      exact ⟨u, hu, rfl⟩

/-- A fault that a function finds in the call it is given. -/
def CallFault.IsOwn : CallFault → Prop
  | .nestedTooDeep | .other _ => False
  | _ => True

namespace Call

variable {κ σ : Type}

/-- What a function of the library may ask for when it is given this call. `runs` is whether it runs
sources. -/
inductive MayAsk (call : Call) (runs : Prop) : Request κ σ → Prop
  | evaluate {tokens : List Token} (h : ∀ t ∈ tokens, ∃ arg ∈ call.args, t ∈ arg) :
      MayAsk call runs (.evaluate tokens)
  | execute (h : runs) (source : String) : MayAsk call runs (.execute source)
  | getVariable (name : String) : MayAsk call runs (.getVariable name)
  | setVariable (name : String) (value : Value) : MayAsk call runs (.setVariable name value)
  | pushAction (action : Action) : MayAsk call runs (.pushAction action)
  | stop : MayAsk call runs .stop
  | getEvent : MayAsk call runs .getEvent

theorem MayAsk.mono {call : Call} {runs runs' : Prop} {q : Request κ σ} (h : call.MayAsk runs q)
    (hruns : runs → runs') : call.MayAsk runs' q := by
  cases h with
  | evaluate h => exact .evaluate h
  | execute h source => exact .execute (hruns h) source
  | getVariable name => exact .getVariable name
  | setVariable name value => exact .setVariable name value
  | pushAction action => exact .pushAction action
  | stop => exact .stop
  | getEvent => exact .getEvent

def MayFail (call : Call) (e : ScriptError) : Prop :=
  ∃ fault, fault.IsOwn ∧ e = .failed call.name fault

/-- A routine that does no more with a call than the library does. -/
abbrev Bounds (call : Call) (runs : Prop) {α : Type} (r : Routine κ σ α) : Prop :=
  r.Within (call.MayAsk runs) call.MayFail

variable {runs : Prop} (call : Call)

theorem bounds_fail {α : Type} {fault : CallFault} (h : fault.IsOwn) :
    call.Bounds runs (.fail (.failed call.name fault) : Routine κ σ α) :=
  ⟨fault, h, rfl⟩

theorem bounds_evaluate {tokens : List Token} (h : ∀ t ∈ tokens, ∃ arg ∈ call.args, t ∈ arg) :
    call.Bounds runs (Routine.evaluate tokens : Routine κ σ Value) :=
  ⟨.evaluate h, fun _ => trivial⟩

theorem bounds_require (minimum : Nat) :
    call.Bounds runs (call.require minimum : Routine κ σ Unit) := by
  rw [require]
  split
  · exact call.bounds_fail trivial
  split
  · exact call.bounds_fail trivial
  · trivial

theorem bounds_argument (i : Nat) : call.Bounds runs (call.argument i : Routine κ σ Value) := by
  rw [argument]
  cases h : call.args[i]? with
  | none => trivial
  | some tokens => exact call.bounds_evaluate fun t ht => ⟨tokens, List.mem_of_getElem? h, ht⟩

theorem bounds_text (i : Nat) : call.Bounds runs (call.text i : Routine κ σ String) :=
  (call.bounds_argument i).bind fun _ => trivial

theorem bounds_trimmedText (i : Nat) :
    call.Bounds runs (call.trimmedText i : Routine κ σ String) :=
  (call.bounds_text i).bind fun _ => trivial

theorem bounds_integer (i : Nat) : call.Bounds runs (call.integer i : Routine κ σ Int64) := by
  refine (call.bounds_argument i).bind fun v => ?_
  cases v.integer? with
  | some n => trivial
  | none => exact call.bounds_fail trivial

theorem bounds_evaluateAll {args : List (List Token)} (h : ∀ arg ∈ args, arg ∈ call.args) :
    call.Bounds runs (evaluateAll args : Routine κ σ (List Value)) := by
  induction args with
  | nil => trivial
  | cons arg args ih =>
    have ⟨harg, hargs⟩ := List.forall_mem_cons.mp h
    refine (call.bounds_evaluate fun t ht => ⟨arg, harg, ht⟩).bind fun v => ?_
    exact (ih hargs).bind fun vs => trivial

/-- An argument that is missing has no tokens. -/
theorem exists_of_mem_getD (i : Nat) {t : Token} (ht : t ∈ call.args[i]?.getD []) :
    ∃ arg ∈ call.args, t ∈ arg := by
  cases h : call.args[i]? with
  | none => simp [h] at ht
  | some arg => exact ⟨arg, List.mem_of_getElem? h, by simpa [h] using ht⟩

theorem bounds_condition (i : Nat) :
    call.Bounds runs (condition (call.args[i]?.getD []) : Routine κ σ Bool) := by
  have hmem := fun t => call.exists_of_mem_getD i (t := t)
  rw [condition]
  cases h : comparison? (call.args[i]?.getD []) with
  | none => exact (call.bounds_evaluate hmem).bind fun v => trivial
  | some sides =>
    obtain ⟨lhs, op, rhs⟩ := sides
    obtain ⟨u, -, hu⟩ := comparison?_eq_some h
    have hlhs : ∀ t ∈ lhs, ∃ arg ∈ call.args, t ∈ arg := fun t ht => hmem t (by simp [hu, ht])
    have hrhs : ∀ t ∈ rhs, ∃ arg ∈ call.args, t ∈ arg := fun t ht => hmem t (by simp [hu, ht])
    refine (call.bounds_evaluate hlhs).bind fun v => ?_
    exact (call.bounds_evaluate hrhs).bind fun w => trivial

end Call

namespace Library

variable {κ σ : Type} {runs : Prop} (call : Call)

theorem bounds_branch : call.Bounds runs (branch call : Routine κ σ Value) :=
  (call.bounds_condition 0).bind fun _ => call.bounds_argument _

theorem bounds_guard : call.Bounds runs (guard call : Routine κ σ Value) := by
  have hstop : call.Bounds runs (Routine.stop >>= fun _ => pure .undefined : Routine κ σ Value) :=
    ⟨.stop, fun _ => trivial⟩
  refine (call.bounds_condition 0).bind fun holds => ?_
  split
  · trivial
  refine (call.bounds_trimmedText 1).bind fun message => ?_
  split
  · refine (call.bounds_argument 2).bind fun reply => ?_
    exact ⟨.pushAction _, fun _ => hstop⟩
  · exact hstop

theorem bounds_evaluateText (h : runs) :
    call.Bounds runs (evaluateText call : Routine κ σ Value) := by
  refine (call.bounds_trimmedText 0).bind fun source => ?_
  split
  · trivial
  · exact ⟨.execute h source, fun _ => trivial⟩

theorem bounds_assign : call.Bounds runs (assign call : Routine κ σ Value) := by
  refine (call.bounds_trimmedText 0).bind fun name => ?_
  refine (call.bounds_argument 1).bind fun value => ?_
  exact ⟨.setVariable name value, fun _ => trivial⟩

theorem bounds_fetch : call.Bounds runs (fetch call : Routine κ σ Value) := by
  refine (call.bounds_trimmedText 0).bind fun name => ?_
  exact ⟨.getVariable name, fun _ => trivial⟩

theorem bounds_ofTwoTexts (f : List Char → List Char → Value) :
    call.Bounds runs (ofTwoTexts f call : Routine κ σ Value) :=
  (call.bounds_text 0).bind fun _ => (call.bounds_text 1).bind fun _ => trivial

theorem bounds_charAt : call.Bounds runs (charAt call : Routine κ σ Value) :=
  (call.bounds_text 0).bind fun _ => (call.bounds_integer 1).bind fun _ => trivial

theorem bounds_checkContains : call.Bounds runs (checkContains call : Routine κ σ Value) := by
  refine (call.bounds_evaluateAll fun arg harg => harg).bind fun values => ?_
  cases values with
  | nil => trivial
  | cons first others => trivial

theorem bounds_countArgument (i : Nat) :
    call.Bounds runs (countArgument call i : Routine κ σ (Option Nat)) := by
  refine (call.bounds_argument i).bind fun v => ?_
  split
  · trivial
  split
  · trivial
  · exact call.bounds_fail trivial

theorem bounds_replaceText : call.Bounds runs (replaceText call : Routine κ σ Value) := by
  refine (call.bounds_text 0).bind fun s => (call.bounds_text 1).bind fun sought => ?_
  refine (call.bounds_text 2).bind fun replacement => ?_
  exact (bounds_countArgument call 3).bind fun count => trivial

theorem bounds_replaceRegex : call.Bounds runs (replaceRegex call : Routine κ σ Value) := by
  refine (call.bounds_text 0).bind fun s => (call.bounds_text 1).bind fun source => ?_
  refine (call.bounds_text 2).bind fun replacement => ?_
  split
  · trivial
  · exact call.bounds_fail trivial

theorem bounds_isString : call.Bounds runs (isString call : Routine κ σ Value) := by
  refine (call.bounds_trimmedText 0).bind fun s => ?_
  split <;> trivial

theorem bounds_listOf (v : Value) :
    call.Bounds runs (listOf call v : Routine κ σ (List Value)) := by
  have hget : call.Bounds runs
      (Routine.getVariable (Text.trim v.toText) : Routine κ σ (Option Value)) :=
    ⟨.getVariable _, fun _ => trivial⟩
  cases v with
  | list items => trivial
  | _ =>
    refine hget.bind fun held => ?_
    split
    · trivial
    · exact call.bounds_fail trivial

theorem bounds_findFrom (name : String) (i j : Nat) (items : List Value) :
    call.Bounds runs
      (findFrom name (call.args[j]?.getD []) i items : Routine κ σ (Option Nat)) := by
  induction items generalizing i with
  | nil => trivial
  | cons item items ih =>
    refine ⟨.setVariable name item, fun _ => ?_⟩
    refine (call.bounds_condition j).bind fun holds => ?_
    split
    · trivial
    · exact ih (i + 1)

theorem bounds_arrayFindIndex : call.Bounds runs (arrayFindIndex call : Routine κ σ Value) := by
  refine (call.bounds_argument 0).bind fun v => (bounds_listOf call v).bind fun items => ?_
  refine (call.bounds_trimmedText 1).bind fun name => ?_
  exact (bounds_findFrom call name 0 2 items).bind fun found => trivial

theorem bounds_trunc : call.Bounds runs (trunc call : Routine κ σ Value) := by
  refine (call.bounds_argument 0).bind fun v => ?_
  split
  · trivial
  · exact call.bounds_fail trivial

theorem bounds_request (action : String → Action) :
    call.Bounds runs (request action call : Routine κ σ Value) := by
  refine (call.bounds_trimmedText 0).bind fun s => ?_
  exact ⟨.pushAction _, fun _ => trivial⟩

theorem bounds_ofEvent (f : MessageEvent → Option String) :
    call.Bounds runs (ofEvent f : Routine κ σ Value) := by
  have hget : call.Bounds runs (Routine.getEvent : Routine κ σ (Option MessageEvent)) :=
    ⟨.getEvent, fun _ => trivial⟩
  refine hget.bind fun event => ?_
  split <;> trivial

end Library

namespace Builtin

variable {κ σ : Type}

/-- Only `eval` runs sources. -/
theorem bounds_action (f : Builtin) (call : Call) :
    call.Bounds (f = .eval) (f.action call : Routine κ σ Value) := by
  cases f with
  | ifElse => exact Library.bounds_branch call
  | onlyIf => exact Library.bounds_guard call
  | stop => exact ⟨.stop, fun _ => trivial⟩
  | eval => exact Library.bounds_evaluateText call rfl
  | letBe => exact Library.bounds_assign call
  | get => exact Library.bounds_fetch call
  | toLowerCase => exact (call.bounds_text 0).bind fun _ => trivial
  | toUpperCase => exact (call.bounds_text 0).bind fun _ => trivial
  | startsWith | textIndexOf | textLastIndexOf | split =>
    rw [action]
    exact Library.bounds_ofTwoTexts call _
  | charAt => exact Library.bounds_charAt call
  | checkContains => exact Library.bounds_checkContains call
  | replaceText => exact Library.bounds_replaceText call
  | replaceRegex => exact Library.bounds_replaceRegex call
  | isString => exact Library.bounds_isString call
  | arrayFindIndex => exact Library.bounds_arrayFindIndex call
  | trunc => exact Library.bounds_trunc call
  | sendMessage | replyMessage => exact Library.bounds_request call _
  | eventText | username => exact Library.bounds_ofEvent call _

theorem bounds_body (f : Builtin) (call : Call) :
    call.Bounds (f = .eval) (f.body call : Routine κ σ Value) := by
  rw [body]
  split
  · exact (call.bounds_require f.minimum).bind fun _ => bounds_action f call
  · exact bounds_action f call

end Builtin

end BracketScript
