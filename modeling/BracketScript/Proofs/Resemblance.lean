import BracketScript.Library
import BracketScript.Proofs.GroupStack

/-! Routines that do the same with related tokens. They go on in the same way after every reply, and
where they fail it is with related errors. The functions of the library do so on related calls. -/

namespace BracketScript

/-- What related tokens and related errors must have in common for routines to resemble one
another. -/
structure Resemblance (R : Token → Token → Prop) (E : ScriptError → ScriptError → Prop) : Prop where
  operator : ∀ t t', R t t' → t'.operator? = t.operator?
  same : ∀ e, E e e

variable {κ σ α β : Type} {R : Token → Token → Prop} {E : ScriptError → ScriptError → Prop}

theorem comparison?_resembles (hR : ∀ t t', R t t' → t'.operator? = t.operator?)
    {ts ts' : List Token} (h : List.Forall₂ R ts ts') :
    comparison? ts = none ∧ comparison? ts' = none ∨
      ∃ lhs lhs' op rhs rhs', comparison? ts = some (lhs, op, rhs) ∧
        comparison? ts' = some (lhs', op, rhs') ∧
        List.Forall₂ R lhs lhs' ∧ List.Forall₂ R rhs rhs' := by
  induction h with
  | nil => exact .inl ⟨rfl, rfl⟩
  | @cons t t' ts ts' ht hts ih =>
    rw [comparison?, comparison?, hR t t' ht]
    cases t.operator? with
    | some op => exact .inr ⟨[], [], op, ts, ts', rfl, rfl, .nil, hts⟩
    | none =>
      obtain ⟨hnone, hnone'⟩ | ⟨lhs, lhs', op, rhs, rhs', hsome, hsome', hlhs, hrhs⟩ := ih
      · exact .inl ⟨by rw [hnone]; rfl, by rw [hnone']; rfl⟩
      · refine .inr ⟨t :: lhs, t' :: lhs', op, rhs, rhs', ?_, ?_, hlhs.cons ht, hrhs⟩
        · rw [hsome]
          rfl
        · rw [hsome']
          rfl

namespace Routine

/-- Two routines that go on in the same way after every reply, ask for the values of related tokens
and calls, and fail with related errors. -/
inductive Resembles (R : Token → Token → Prop) (E : ScriptError → ScriptError → Prop) :
    Routine κ σ α → Routine κ σ α → Prop
  | done (a : α) : Resembles R E (.done a) (.done a)
  | fail {e e' : ScriptError} (h : E e e') : Resembles R E (.fail e) (.fail e')
  | evaluate {ts ts' : List Token} {next next' : Value → Routine κ σ α}
      (hts : List.Forall₂ R ts ts') (hnext : ∀ v, Resembles R E (next v) (next' v)) :
      Resembles R E (.ask (.evaluate ts) next) (.ask (.evaluate ts') next')
  | invoke {call call' : Call} {next next' : Value → Routine κ σ α}
      (hcall : R call.toToken call'.toToken) (hnext : ∀ v, Resembles R E (next v) (next' v)) :
      Resembles R E (.ask (.invoke call) next) (.ask (.invoke call') next')
  | ask (q : Request κ σ) {next next' : q.Reply → Routine κ σ α}
      (hnext : ∀ reply, Resembles R E (next reply) (next' reply)) :
      Resembles R E (.ask q next) (.ask q next')

namespace Resembles

theorem same (hR : Resemblance R E) (r : Routine κ σ α) : Resembles R E r r := by
  induction r with
  | done a => exact .done a
  | fail e => exact .fail (hR.same e)
  | ask q next ih => exact .ask q ih

theorem bind {r r' : Routine κ σ α} {f f' : α → Routine κ σ β} (h : Resembles R E r r')
    (hf : ∀ a, Resembles R E (f a) (f' a)) : Resembles R E (r >>= f) (r' >>= f') := by
  induction h with
  | done a => exact hf a
  | fail h => exact .fail h
  | evaluate hts _ ih => exact .evaluate hts ih
  | invoke hcall _ ih => exact .invoke hcall ih
  | ask q _ ih => exact .ask q ih

theorem andThen (hR : Resemblance R E) {r r' : Routine κ σ α} (h : Resembles R E r r')
    (f : α → Routine κ σ β) : Resembles R E (r >>= f) (r' >>= f) :=
  h.bind fun a => same hR (f a)

end Resembles

theorem resembles_evaluate {ts ts' : List Token} (h : List.Forall₂ R ts ts') :
    Resembles R E (evaluate ts : Routine κ σ Value) (evaluate ts') :=
  .evaluate h fun v => .done v

theorem resembles_condition (hR : Resemblance R E) {ts ts' : List Token}
    (h : List.Forall₂ R ts ts') :
    Resembles R E (condition ts : Routine κ σ Bool) (condition ts') := by
  rw [condition, condition]
  obtain ⟨hnone, hnone'⟩ | ⟨lhs, lhs', op, rhs, rhs', hsome, hsome', hlhs, hrhs⟩ :=
    comparison?_resembles hR.operator h
  · rw [hnone, hnone']
    exact (resembles_evaluate h).andThen hR _
  · rw [hsome, hsome']
    exact (resembles_evaluate hlhs).bind fun v => (resembles_evaluate hrhs).andThen hR _

theorem resembles_evaluateAll (hR : Resemblance R E) {args args' : List (List Token)}
    (h : List.Forall₂ (List.Forall₂ R) args args') :
    Resembles R E (Call.evaluateAll args : Routine κ σ (List Value)) (Call.evaluateAll args') := by
  induction h with
  | nil => exact .same hR _
  | cons hts _ ih => exact (resembles_evaluate hts).bind fun v => ih.andThen hR _

end Routine

/-- Two calls that fail with related errors, with as many arguments each, of which those in the same
place are made of related tokens unless the first one is `free`. -/
structure Call.Resembles (R : Token → Token → Prop) (E : ScriptError → ScriptError → Prop)
    (free : Nat → Prop) (call call' : Call) : Prop where
  fault : ∀ fault, E (.failed call.name fault) (.failed call'.name fault)
  length : call'.args.length = call.args.length
  arg : ∀ i ts ts', call.args[i]? = some ts → call'.args[i]? = some ts' → ¬ free i →
    List.Forall₂ R ts ts'

namespace Call.Resembles

open Routine

variable {free : Nat → Prop} {call call' : Call} {i : Nat}

theorem arg_cases (h : call.Resembles R E free call') (hi : ¬ free i) :
    call.args[i]? = none ∧ call'.args[i]? = none ∨
      ∃ ts ts', call.args[i]? = some ts ∧ call'.args[i]? = some ts' ∧
        List.Forall₂ R ts ts' := by
  have hlength := h.length
  by_cases hlt : i < call.args.length
  · have hlt' : i < call'.args.length := hlength ▸ hlt
    have hts := List.getElem?_eq_getElem hlt
    have hts' := List.getElem?_eq_getElem hlt'
    exact .inr ⟨_, _, hts, hts', h.arg i _ _ hts hts' hi⟩
  · have hle : call.args.length ≤ i := Nat.le_of_not_lt hlt
    have hle' : call'.args.length ≤ i := hlength ▸ hle
    exact .inl ⟨List.getElem?_eq_none hle, List.getElem?_eq_none hle'⟩

theorem hasBrackets_eq (h : call.Resembles R E free call') :
    call'.hasBrackets = call.hasBrackets := by
  have hempty : call'.args.isEmpty = call.args.isEmpty := by
    rw [Bool.eq_iff_iff, List.isEmpty_iff_length_eq_zero, List.isEmpty_iff_length_eq_zero, h.length]
  rw [Call.hasBrackets, Call.hasBrackets, hempty]

/-- One empty argument counts as none, and so the first argument must not be free. -/
theorem given_eq (h : call.Resembles R E free call') (h0 : ¬ free 0) :
    call'.given = call.given := by
  obtain ⟨p, name, args⟩ := call
  obtain ⟨p', name', args'⟩ := call'
  have hlength : args'.length = args.length := h.length
  match args, args' with
  | [], [] => rfl
  | [ts], [ts'] =>
    have hts : List.Forall₂ R ts ts' := h.arg 0 ts ts' rfl rfl h0
    cases hts with
    | nil => rfl
    | cons => rfl
  | ts :: _ :: _, ts' :: _ :: _ => cases ts <;> cases ts' <;> exact hlength

theorem require (h : call.Resembles R E free call') (h0 : ¬ free 0) (minimum : Nat) :
    Routine.Resembles R E (call.require minimum : Routine κ σ Unit) (call'.require minimum) := by
  rw [Call.require, Call.require, h.hasBrackets_eq, h.given_eq h0]
  split
  · exact .fail (h.fault _)
  split
  · exact .fail (h.fault _)
  · exact .done ()

theorem getD (h : call.Resembles R E free call') (hi : ¬ free i) :
    List.Forall₂ R (call.args[i]?.getD []) (call'.args[i]?.getD []) := by
  obtain ⟨hnone, hnone'⟩ | ⟨ts, ts', hts, hts', hrelated⟩ := h.arg_cases hi
  · rw [hnone, hnone']
    exact .nil
  · rw [hts, hts']
    exact hrelated

theorem argument (h : call.Resembles R E free call') (hi : ¬ free i) :
    Routine.Resembles R E (call.argument i : Routine κ σ Value) (call'.argument i) := by
  rw [Call.argument, Call.argument]
  obtain ⟨hnone, hnone'⟩ | ⟨ts, ts', hts, hts', hrelated⟩ := h.arg_cases hi
  · rw [hnone, hnone']
    exact .done _
  · rw [hts, hts']
    exact resembles_evaluate hrelated

theorem integer (h : call.Resembles R E free call') (hi : ¬ free i) :
    Routine.Resembles R E (call.integer i : Routine κ σ Int64) (call'.integer i) := by
  refine (h.argument hi).bind fun v => ?_
  cases v.integer? with
  | some n => exact .done n
  | none => exact .fail (h.fault _)

variable (hR : Resemblance R E)
include hR

theorem text (h : call.Resembles R E free call') (hi : ¬ free i) :
    Routine.Resembles R E (call.text i : Routine κ σ String) (call'.text i) :=
  (h.argument hi).andThen hR _

theorem trimmedText (h : call.Resembles R E free call') (hi : ¬ free i) :
    Routine.Resembles R E (call.trimmedText i : Routine κ σ String) (call'.trimmedText i) :=
  (h.text hR hi).andThen hR _

theorem condition (h : call.Resembles R E free call') (hi : ¬ free i) :
    Routine.Resembles R E (condition (call.args[i]?.getD []) : Routine κ σ Bool)
      (condition (call'.args[i]?.getD [])) :=
  resembles_condition hR (h.getD hi)

theorem evaluateAll (h : call.Resembles R E free call') (hfree : ∀ i, ¬ free i) :
    Routine.Resembles R E (Call.evaluateAll call.args : Routine κ σ (List Value))
      (Call.evaluateAll call'.args) := by
  refine resembles_evaluateAll hR (List.forall₂_iff_get.mpr ⟨h.length.symm, fun i hi hi' => ?_⟩)
  exact h.arg i _ _ (List.getElem?_eq_getElem hi) (List.getElem?_eq_getElem hi') (hfree i)

end Call.Resembles

namespace Library

open Routine

variable {free : Nat → Prop} {call call' : Call} {i : Nat}

theorem resembles_countArgument (h : call.Resembles R E free call') (hi : ¬ free i) :
    Resembles R E (countArgument call i : Routine κ σ (Option Nat)) (countArgument call' i) := by
  refine (h.argument hi).bind fun v => ?_
  split
  · exact .done none
  split
  · exact .done _
  · exact .fail (h.fault _)

theorem resembles_listOf (h : call.Resembles R E free call') (v : Value) :
    Resembles R E (listOf call v : Routine κ σ (List Value)) (listOf call' v) := by
  have hget (name : String) : Resembles R E
      (getVariable name : Routine κ σ (Option Value)) (getVariable name) :=
    .ask _ fun held => .done held
  cases v with
  | list items => exact .done items
  | _ =>
    refine (hget _).bind fun held => ?_
    split
    · exact .done _
    · exact .fail (h.fault _)

variable (hR : Resemblance R E)
include hR

theorem resembles_branch (h : call.Resembles R E free call') (hfree : ∀ i < 3, ¬ free i) :
    Resembles R E (branch call : Routine κ σ Value) (branch call') := by
  refine (h.condition hR (hfree 0 (by decide))).bind fun holds => ?_
  cases holds with
  | true => exact h.argument (hfree 1 (by decide))
  | false => exact h.argument (hfree 2 (by decide))

theorem resembles_guard (h : call.Resembles R E free call') (hfree : ∀ i < 3, ¬ free i) :
    Resembles R E (guard call : Routine κ σ Value) (guard call') := by
  refine (h.condition hR (hfree 0 (by decide))).bind fun holds => ?_
  cases holds with
  | true => exact .done _
  | false =>
    refine (h.trimmedText hR (hfree 1 (by decide))).bind fun message => ?_
    by_cases hblank : message = ""
    · rw [if_neg (not_not.mpr hblank), if_neg (not_not.mpr hblank)]
      exact .same hR _
    · rw [if_pos hblank, if_pos hblank]
      exact (h.argument (hfree 2 (by decide))).andThen hR _

theorem resembles_findFrom {ts ts' : List Token} (hts : List.Forall₂ R ts ts') (name : String)
    (i : Nat) (items : List Value) :
    Resembles R E (findFrom name ts i items : Routine κ σ (Option Nat))
      (findFrom name ts' i items) := by
  induction items generalizing i with
  | nil => exact .done none
  | cons item items ih =>
    have hcondition := resembles_condition (κ := κ) (σ := σ) hR hts
    refine .ask (.setVariable name item) fun _ => hcondition.bind fun holds => ?_
    cases holds with
    | true => exact .done _
    | false => exact ih (i + 1)

theorem resembles_arrayFindIndex (h : call.Resembles R E free call') (hfree : ∀ i < 3, ¬ free i) :
    Resembles R E (arrayFindIndex call : Routine κ σ Value) (arrayFindIndex call') := by
  refine (h.argument (hfree 0 (by decide))).bind fun v => ?_
  refine (resembles_listOf h v).bind fun items => ?_
  refine (h.trimmedText hR (hfree 1 (by decide))).bind fun name => ?_
  exact (resembles_findFrom hR (h.getD (hfree 2 (by decide))) name 0 items).andThen hR _

end Library

namespace Builtin

open Routine

/-- How many arguments a function has by its description, if there is a limit. -/
def documented : Builtin → Option Nat
  | stop | eventText | username => some 0
  | eval | get | toLowerCase | toUpperCase | isString | trunc | sendMessage | replyMessage => some 1
  | letBe | startsWith | textIndexOf | textLastIndexOf | charAt | split => some 2
  | ifElse | onlyIf | replaceRegex | arrayFindIndex => some 3
  | replaceText => some 4
  | checkContains => none

variable {free : Nat → Prop} {call call' : Call}

/-- A function does the same on related calls if the arguments that it has by its description are
not free. -/
theorem resembles_action (hR : Resemblance R E) (f : Builtin) (h : call.Resembles R E free call')
    (hneeded : ∀ i, (∀ n ∈ f.documented, i < n) → ¬ free i) :
    Resembles R E (f.action call : Routine κ σ Value) (f.action call') := by
  have hbelow (n : Nat) (hn : f.documented = some n) (i : Nat) (hi : i < n) : ¬ free i := by
    refine hneeded i fun n' hn' => ?_
    obtain rfl := Option.some.inj (hn.symm.trans hn')
    exact hi
  cases f with
  | ifElse => exact Library.resembles_branch hR h (hbelow 3 rfl)
  | onlyIf => exact Library.resembles_guard hR h (hbelow 3 rfl)
  | arrayFindIndex => exact Library.resembles_arrayFindIndex hR h (hbelow 3 rfl)
  | stop | eventText | username => exact .same hR _
  | eval | get | isString | sendMessage | replyMessage =>
    exact (h.trimmedText hR (hbelow 1 rfl 0 (by decide))).andThen hR _
  | toLowerCase | toUpperCase => exact (h.text hR (hbelow 1 rfl 0 (by decide))).andThen hR _
  | trunc =>
    refine (h.argument (hbelow 1 rfl 0 (by decide))).bind fun v => ?_
    cases v.number? with
    | some x => exact .done _
    | none => exact .fail (h.fault _)
  | letBe =>
    refine (h.trimmedText hR (hbelow 2 rfl 0 (by decide))).bind fun name => ?_
    exact (h.argument (hbelow 2 rfl 1 (by decide))).andThen hR _
  | startsWith | textIndexOf | textLastIndexOf | split =>
    refine (h.text hR (hbelow 2 rfl 0 (by decide))).bind fun s => ?_
    exact (h.text hR (hbelow 2 rfl 1 (by decide))).andThen hR _
  | charAt =>
    refine (h.text hR (hbelow 2 rfl 0 (by decide))).bind fun s => ?_
    exact (h.integer (hbelow 2 rfl 1 (by decide))).andThen hR _
  | checkContains =>
    refine (h.evaluateAll hR fun i => hneeded i ?_).andThen hR _
    nofun
  | replaceText =>
    refine (h.text hR (hbelow 4 rfl 0 (by decide))).bind fun s => ?_
    refine (h.text hR (hbelow 4 rfl 1 (by decide))).bind fun sought => ?_
    refine (h.text hR (hbelow 4 rfl 2 (by decide))).bind fun replacement => ?_
    exact (Library.resembles_countArgument h (hbelow 4 rfl 3 (by decide))).andThen hR _
  | replaceRegex =>
    refine (h.text hR (hbelow 3 rfl 0 (by decide))).bind fun s => ?_
    refine (h.text hR (hbelow 3 rfl 1 (by decide))).bind fun source => ?_
    refine (h.text hR (hbelow 3 rfl 2 (by decide))).bind fun replacement => ?_
    cases Pattern.read? source.toList with
    | some pattern => exact .done _
    | none => exact .fail (h.fault _)

theorem resembles_body (hR : Resemblance R E) (f : Builtin)
    (h : call.Resembles R E (fun _ => False) call') :
    Resembles R E (f.body call : Routine κ σ Value) (f.body call') := by
  have haction : Resembles R E (f.action call : Routine κ σ Value) (f.action call') :=
    resembles_action hR f h fun _ _ => not_false
  rw [body, body]
  by_cases hmin : f.minimum = 0
  · rw [if_neg (not_not.mpr hmin), if_neg (not_not.mpr hmin)]
    exact haction
  · rw [if_pos hmin, if_pos hmin]
    exact (h.require not_false f.minimum).bind fun _ => haction

end Builtin

end BracketScript
