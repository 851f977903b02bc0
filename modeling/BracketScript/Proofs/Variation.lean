import BracketScript.Proofs.Resemblance

/-! Trees that differ in some arguments only, and the functions of the library on calls that do.
What asks for none of those arguments asks for the same as before. -/

namespace BracketScript

/-- Two tokens that are the same but for their spans and for some arguments: argument `i` of the
call at `p` may be any other one if `differ p i`. -/
inductive Token.Varies (differ : Span → Nat → Prop) : Token → Token → Prop
  | same (t : Token) : Varies differ t t
  | literal (p p' : Span) (v : Literal) : Varies differ (.literal p v) (.literal p' v)
  | punctuation (p p' : Span) (mark : Punctuation) :
      Varies differ (.punctuation p mark) (.punctuation p' mark)
  | call {p p' : Span} {name : String} {args args' : List (List Token)}
      (hlength : args'.length = args.length)
      (hargs : ∀ i ts ts', args[i]? = some ts → args'[i]? = some ts' → ¬ differ p i →
        List.Forall₂ (Varies differ) ts ts') :
      Varies differ (.call p name args) (.call p' name args')

/-- The same but for the spans. -/
abbrev Token.Alike : Token → Token → Prop :=
  Token.Varies fun _ _ => False

/-- The same literal, the same punctuation, or calls of one name. -/
inductive Token.SameKind : Token → Token → Prop
  | literal (p p' : Span) (v : Literal) : SameKind (.literal p v) (.literal p' v)
  | punctuation (p p' : Span) (mark : Punctuation) :
      SameKind (.punctuation p mark) (.punctuation p' mark)
  | call (p p' : Span) (name : String) (args args' : List (List Token)) :
      SameKind (.call p name args) (.call p' name args')

/-- A relation under which tokens may stand for one another wherever only their kind counts. -/
structure Token.Likeness (R : Token → Token → Prop) : Prop where
  same : ∀ t, R t t
  kind : ∀ t t', R t t' → t.SameKind t'

/-- Two calls of one name with as many arguments each, of which those in the same place are made of
related tokens unless the first one is `free`. -/
structure Call.Varies (R : Token → Token → Prop) (free : Nat → Prop) (call call' : Call) :
    Prop where
  name : call'.name = call.name
  length : call'.args.length = call.args.length
  arg : ∀ i ts ts', call.args[i]? = some ts → call'.args[i]? = some ts' → ¬ free i →
    List.Forall₂ R ts ts'

variable {differ : Span → Nat → Prop} {R : Token → Token → Prop}

namespace Token

theorem SameKind.same (t : Token) : t.SameKind t := by
  cases t with
  | literal p v => exact .literal p p v
  | punctuation p mark => exact .punctuation p p mark
  | call p name args => exact .call p p name args args

theorem SameKind.operator?_eq {t t' : Token} (h : t.SameKind t') :
    t'.operator? = t.operator? := by
  cases h with
  | literal p p' v => cases v <;> rfl
  | _ => rfl

theorem likeness_eq : Likeness Eq :=
  ⟨fun _ => rfl, fun t _ h => h ▸ .same t⟩

theorem likeness_varies : Likeness (Varies differ) := by
  refine ⟨.same, fun t t' h => ?_⟩
  cases h with
  | same => exact .same t
  | literal p p' v => exact .literal p p' v
  | punctuation p p' mark => exact .punctuation p p' mark
  | call => exact .call _ _ _ _ _

theorem Likeness.tokens (hR : Likeness R) (ts : List Token) : List.Forall₂ R ts ts :=
  List.forall₂_same.mpr fun t _ => hR.same t

theorem Varies.of_forall₂ {p p' : Span} {name : String} {args args' : List (List Token)}
    (h : List.Forall₂ (List.Forall₂ (Varies differ)) args args') :
    Varies differ (.call p name args) (.call p' name args') := by
  refine .call h.length_eq.symm fun i ts ts' hts hts' _ => ?_
  obtain ⟨hi, rfl⟩ := List.getElem?_eq_some_iff.mp hts
  obtain ⟨hi', rfl⟩ := List.getElem?_eq_some_iff.mp hts'
  exact (List.forall₂_iff_get.mp h).2 i hi hi'

end Token

theorem Token.Likeness.resemblance (hR : Likeness R) : Resemblance R Eq :=
  ⟨fun t t' h => (hR.kind t t' h).operator?_eq, fun _ => rfl⟩

namespace Routine

variable {κ σ α β : Type}

/-- Two routines that go on in the same way after every reply, and ask for the values of related
tokens and calls. -/
inductive Varies (R : Token → Token → Prop) : Routine κ σ α → Routine κ σ α → Prop
  | done (a : α) : Varies R (.done a) (.done a)
  | fail (e : ScriptError) : Varies R (.fail e) (.fail e)
  | evaluate {ts ts' : List Token} {next next' : Value → Routine κ σ α}
      (hts : List.Forall₂ R ts ts') (hnext : ∀ v, Varies R (next v) (next' v)) :
      Varies R (.ask (.evaluate ts) next) (.ask (.evaluate ts') next')
  | invoke {call call' : Call} {next next' : Value → Routine κ σ α}
      (hcall : R call.toToken call'.toToken) (hnext : ∀ v, Varies R (next v) (next' v)) :
      Varies R (.ask (.invoke call) next) (.ask (.invoke call') next')
  | ask (q : Request κ σ) {next next' : q.Reply → Routine κ σ α}
      (hnext : ∀ reply, Varies R (next reply) (next' reply)) :
      Varies R (.ask q next) (.ask q next')

namespace Varies

theorem same (r : Routine κ σ α) : Varies R r r := by
  induction r with
  | done a => exact .done a
  | fail e => exact .fail e
  | ask q next ih => exact .ask q ih

theorem bind {r r' : Routine κ σ α} {f f' : α → Routine κ σ β} (h : Varies R r r')
    (hf : ∀ a, Varies R (f a) (f' a)) : Varies R (r >>= f) (r' >>= f') := by
  induction h with
  | done a => exact hf a
  | fail e => exact .fail e
  | evaluate hts _ ih => exact .evaluate hts ih
  | invoke hcall _ ih => exact .invoke hcall ih
  | ask q _ ih => exact .ask q ih

theorem andThen {r r' : Routine κ σ α} (h : Varies R r r') (f : α → Routine κ σ β) :
    Varies R (r >>= f) (r' >>= f) :=
  h.bind fun a => .same (f a)

end Varies

theorem Resembles.varies {r r' : Routine κ σ α} (h : Resembles R Eq r r') : Varies R r r' := by
  induction h with
  | done a => exact .done a
  | @fail e e' h =>
    subst h
    exact .fail e
  | evaluate hts _ ih => exact .evaluate hts ih
  | invoke hcall _ ih => exact .invoke hcall ih
  | ask q _ ih => exact .ask q ih

end Routine

theorem Call.require_cases {κ σ : Type} (call : Call) (minimum : Nat) :
    (call.require minimum : Routine κ σ Unit) = .done () ∨
      ∃ e, (call.require minimum : Routine κ σ Unit) = .fail e := by
  rw [require]
  split
  · exact .inr ⟨_, rfl⟩
  split
  · exact .inr ⟨_, rfl⟩
  · exact .inl rfl

namespace Call.Varies

open Routine

variable {κ σ : Type} {free : Nat → Prop} {call call' : Call} {i : Nat}

theorem same (hR : Token.Likeness R) (call : Call) : call.Varies R free call := by
  refine ⟨rfl, rfl, fun i ts ts' hts hts' _ => ?_⟩
  obtain rfl := Option.some.inj (hts.symm.trans hts')
  exact hR.tokens ts

theorem resembles (h : call.Varies R free call') : call.Resembles R Eq free call' :=
  ⟨fun fault => by rw [h.name], h.length, h.arg⟩

theorem require_eq (h : call.Varies R free call') (h0 : ¬ free 0) (minimum : Nat) :
    (call'.require minimum : Routine κ σ Unit) = call.require minimum := by
  rw [Call.require, Call.require, h.resembles.hasBrackets_eq, h.resembles.given_eq h0, h.name]

theorem argument (h : call.Varies R free call') (hi : ¬ free i) :
    Routine.Varies R (call.argument i : Routine κ σ Value) (call'.argument i) :=
  (h.resembles.argument hi).varies

theorem text (h : call.Varies R free call') (hi : ¬ free i) :
    Routine.Varies R (call.text i : Routine κ σ String) (call'.text i) :=
  (h.argument hi).andThen _

theorem trimmedText (h : call.Varies R free call') (hi : ¬ free i) :
    Routine.Varies R (call.trimmedText i : Routine κ σ String) (call'.trimmedText i) :=
  (h.text hi).andThen _

theorem condition (hR : Token.Likeness R) (h : call.Varies R free call') (hi : ¬ free i) :
    Routine.Varies R (condition (call.args[i]?.getD []) : Routine κ σ Bool)
      (condition (call'.args[i]?.getD [])) :=
  (h.resembles.condition hR.resemblance hi).varies

end Call.Varies

theorem Token.Varies.toCall {call call' : Call}
    (h : Token.Varies differ call.toToken call'.toToken) :
    call.Varies (Token.Varies differ) (differ call.span) call' := by
  obtain ⟨p, name, args⟩ := call
  obtain ⟨p', name', args'⟩ := call'
  cases h with
  | same => exact .same likeness_varies _
  | call hlength hargs => exact ⟨rfl, hlength, hargs⟩

end BracketScript
