import BracketScript.Proofs.Conduct
import BracketScript.Proofs.Mirroring

/-! Arguments that a function does not need. They may be anything at all, at every depth of a
program, and the run goes the same way. -/

namespace BracketScript

open Run

variable {η κ σ : Type}

/-- What a routine comes to on a machine. -/
def Machine.outcome {α : Type} (m : Machine κ σ) (bodies : Bodies κ σ) (r : Routine κ σ α) :
    Except ScriptError α :=
  (start m (perform (callFunction bodies) r)).1

namespace Builtin

/-- The arguments, counted from zero, that a function does without when called on a machine. -/
inductive Spares (bodies : Bodies κ σ) (m : Machine κ σ) (call : Call) : Builtin → Nat → Prop
  | consequent (h : m.outcome bodies (condition (call.args[0]?.getD [])) ≠ .ok true) :
      Spares bodies m call .ifElse 1
  | alternative (h : m.outcome bodies (condition (call.args[0]?.getD [])) ≠ .ok false) :
      Spares bodies m call .ifElse 2
  | guarded {i : Nat} (hi : 0 < i)
      (h : m.outcome bodies (condition (call.args[0]?.getD [])) ≠ .ok false) :
      Spares bodies m call .onlyIf i
  | silent (h : ∀ message, m.outcome bodies (do
        let _ ← condition (call.args[0]?.getD [])
        call.trimmedText 1) = .ok message → message = "") : Spares bodies m call .onlyIf 2
  | empty (h : ∀ items, m.outcome bodies (do Library.listOf call (← call.argument 0)) = .ok items →
        items = []) : Spares bodies m call .arrayFindIndex 2
  | surplus {f : Builtin} {n i : Nat} (hn : f.documented = some n) (hi : n ≤ i) :
      Spares bodies m call f i

namespace Spares

variable {bodies : Bodies κ σ} {m : Machine κ σ} {call : Call} {f : Builtin} {i n : Nat}

/-- The other functions evaluate whatever arguments they have. -/
theorem documented_le (h : f.Spares bodies m call i) (hif : f ≠ .ifElse) (honly : f ≠ .onlyIf)
    (hfind : f ≠ .arrayFindIndex) : ∃ n, f.documented = some n ∧ n ≤ i := by
  cases h with
  | consequent | alternative => exact absurd rfl hif
  | guarded | silent => exact absurd rfl honly
  | empty => exact absurd rfl hfind
  | surplus hn hi => exact ⟨_, hn, hi⟩

theorem not_surplus (hi : i < n) : ∀ n', some n = some n' → ¬ n' ≤ i := by
  rintro n' ⟨⟩
  exact Nat.not_le_of_lt hi

theorem minimum_eq_zero (h : f.Spares bodies m call 0) : f.minimum = 0 := by
  cases h with
  | guarded hi => exact absurd hi (Nat.lt_irrefl 0)
  | @surplus _ n _ hn hi =>
    obtain rfl := Nat.le_zero.mp hi
    cases f <;> first | rfl | cases hn

theorem not_selected {holds : Bool}
    (hc : m.outcome bodies (condition (call.args[0]?.getD [])) = .ok holds) :
    ¬ ifElse.Spares bodies m call (if holds then 1 else 2) := by
  cases holds with
  | true =>
    show ¬ ifElse.Spares bodies m call 1
    rintro (⟨h⟩ | _ | _ | _ | _ | ⟨hn, hle⟩)
    · exact h hc
    · exact not_surplus (by decide) _ hn hle
  | false =>
    show ¬ ifElse.Spares bodies m call 2
    rintro (_ | ⟨h⟩ | _ | _ | _ | ⟨hn, hle⟩)
    · exact h hc
    · exact not_surplus (by decide) _ hn hle

theorem not_guarded (hc : m.outcome bodies (condition (call.args[0]?.getD [])) = .ok false) :
    ¬ onlyIf.Spares bodies m call 1 := by
  rintro (_ | _ | ⟨_, h⟩ | _ | _ | ⟨hn, hle⟩)
  · exact h hc
  · exact not_surplus (by decide) _ hn hle

theorem not_silent {message : String}
    (hc : m.outcome bodies (condition (call.args[0]?.getD [])) = .ok false)
    (hmessage : m.outcome bodies (do
      let _ ← condition (call.args[0]?.getD [])
      call.trimmedText 1) = .ok message) (hne : message ≠ "") :
    ¬ onlyIf.Spares bodies m call 2 := by
  rintro (_ | _ | ⟨_, h⟩ | ⟨h⟩ | _ | ⟨hn, hle⟩)
  · exact h hc
  · exact hne (h message hmessage)
  · exact not_surplus (by decide) _ hn hle

theorem not_empty {items : List Value} (hne : items ≠ [])
    (hitems : m.outcome bodies (do Library.listOf call (← call.argument 0)) = .ok items) :
    ¬ arrayFindIndex.Spares bodies m call 2 := by
  rintro (_ | _ | _ | _ | ⟨h⟩ | ⟨hn, hle⟩)
  · exact hne (h items hitems)
  · exact not_surplus (by decide) _ hn hle

theorem not_variable : ¬ arrayFindIndex.Spares bodies m call 1 := by
  rintro (_ | _ | _ | _ | _ | ⟨hn, hle⟩)
  exact not_surplus (by decide) _ hn hle

end Spares

end Builtin

/-! The functions on related calls, where the arguments they need are related. -/

section Bodies

variable {R : Token → Token → Prop} {allowed : Happening κ σ → Prop} {bodies : Bodies κ σ} {d : Nat}
  {call call' : Call} {m : Machine κ σ}

namespace Library

theorem mirrors_branch (hR : Token.Likeness R)
    (hcall : MirrorsCalls R allowed (callFunction bodies) d) (hm : m.depth = d)
    (h : call.Varies R (Builtin.ifElse.Spares bodies m call) call') :
    Mirrors allowed m (perform (callFunction bodies) (branch call))
      (perform (callFunction bodies) (branch call')) := by
  have h0 : ¬ Builtin.ifElse.Spares bodies m call 0 := fun hs => nomatch hs.minimum_eq_zero
  refine hcall.perform_bind hR (h.condition hR h0) hm fun holds m' hr hm' => ?_
  have hselected := Builtin.Spares.not_selected (congrArg Prod.fst hr)
  exact hcall.perform hR (h.argument hselected) hm'

theorem mirrors_guard (hR : Token.Likeness R)
    (hcall : MirrorsCalls R allowed (callFunction bodies) d) (hm : m.depth = d)
    (h : call.Varies R (Builtin.onlyIf.Spares bodies m call) call') :
    Mirrors allowed m (perform (callFunction bodies) (guard call))
      (perform (callFunction bodies) (guard call')) := by
  have h0 : ¬ Builtin.onlyIf.Spares bodies m call 0 := fun hs => nomatch hs.minimum_eq_zero
  refine hcall.perform_bind hR (h.condition hR h0) hm fun holds m₁ hr₁ hm₁ => ?_
  cases holds with
  | true => exact .pure _
  | false =>
    have hfails : m.outcome bodies (condition (call.args[0]?.getD [])) = .ok false :=
      congrArg Prod.fst hr₁
    have h1 := Builtin.Spares.not_guarded hfails
    refine hcall.perform_bind hR (h.trimmedText h1) hm₁ fun message m₂ hr₂ hm₂ => ?_
    by_cases hblank : message = ""
    · rw [if_neg (not_not.mpr hblank), if_neg (not_not.mpr hblank)]
      exact hcall.perform hR (.same _) hm₂
    · have hmessage : m.outcome bodies (do
          let _ ← condition (call.args[0]?.getD [])
          call.trimmedText 1) = .ok message := by
        rw [Machine.outcome, perform_bind, start_bind_ok _ hr₁, hr₂]
      have h2 := Builtin.Spares.not_silent hfails hmessage hblank
      rw [if_pos hblank, if_pos hblank]
      exact hcall.perform hR ((h.argument h2).andThen _) hm₂

theorem mirrors_arrayFindIndex (hR : Token.Likeness R)
    (hcall : MirrorsCalls R allowed (callFunction bodies) d) (hm : m.depth = d)
    (h : call.Varies R (Builtin.arrayFindIndex.Spares bodies m call) call') :
    Mirrors allowed m (perform (callFunction bodies) (arrayFindIndex call))
      (perform (callFunction bodies) (arrayFindIndex call')) := by
  have h0 : ¬ Builtin.arrayFindIndex.Spares bodies m call 0 :=
    fun hs => nomatch hs.minimum_eq_zero
  have h1 : ¬ Builtin.arrayFindIndex.Spares bodies m call 1 := Builtin.Spares.not_variable
  refine hcall.perform_bind hR (h.argument h0) hm fun v m₁ hr₁ hm₁ => ?_
  have hlist : (listOf call' v : Routine κ σ (List Value)) = listOf call v := by
    cases v <;> simp only [listOf, h.name]
  rw [hlist]
  refine hcall.perform_bind hR (.same (listOf call v)) hm₁ fun items m₂ hr₂ hm₂ => ?_
  refine hcall.perform_bind hR (h.trimmedText h1) hm₂ fun name m₃ _ hm₃ => ?_
  cases items with
  | nil => exact .pure _
  | cons item items =>
    have hitems : m.outcome bodies (do listOf call (← call.argument 0)) = .ok (item :: items) := by
      rw [Machine.outcome, perform_bind, start_bind_ok _ hr₁, hr₂]
    have h2 := Builtin.Spares.not_empty (List.cons_ne_nil _ _) hitems
    have hfind := resembles_findFrom (κ := κ) (σ := σ) hR.resemblance (h.resembles.getD h2) name 0
    exact hcall.perform hR ((hfind _).varies.andThen _) hm₃

end Library

namespace Builtin

theorem mirrors_action (hR : Token.Likeness R) {f : Builtin}
    (hcall : MirrorsCalls R allowed (callFunction bodies) d) (hm : m.depth = d)
    (h : call.Varies R (f.Spares bodies m call) call') :
    Mirrors allowed m (perform (callFunction bodies) (f.action call))
      (perform (callFunction bodies) (f.action call')) := by
  by_cases hif : f = .ifElse
  · subst hif
    exact Library.mirrors_branch hR hcall hm h
  by_cases honly : f = .onlyIf
  · subst honly
    exact Library.mirrors_guard hR hcall hm h
  by_cases hfind : f = .arrayFindIndex
  · subst hfind
    exact Library.mirrors_arrayFindIndex hR hcall hm h
  have hneeded : ∀ i, (∀ n ∈ f.documented, i < n) → ¬ f.Spares bodies m call i := by
    intro i hi hs
    obtain ⟨n, hn, hle⟩ := hs.documented_le hif honly hfind
    exact absurd hle (Nat.not_le_of_lt (hi n hn))
  exact hcall.perform hR (resembles_action hR.resemblance f h.resembles hneeded).varies hm

theorem mirrors_body (hR : Token.Likeness R) {f : Builtin}
    (hcall : MirrorsCalls R allowed (callFunction bodies) d) (hm : m.depth = d)
    (h : call.Varies R (f.Spares bodies m call) call') :
    Mirrors allowed m (perform (callFunction bodies) (f.body call))
      (perform (callFunction bodies) (f.body call')) := by
  rw [body, body]
  by_cases hmin : f.minimum = 0
  · rw [if_neg (not_not.mpr hmin), if_neg (not_not.mpr hmin)]
    exact mirrors_action hR hcall hm h
  · have h0 : ¬ f.Spares bodies m call 0 := fun hs => hmin hs.minimum_eq_zero
    rw [if_pos hmin, if_pos hmin, h.require_eq h0]
    have hrequire : (call.require f.minimum : Routine κ σ Unit) = .done () ∨
        ∃ e, call.require f.minimum = .fail e := call.require_cases f.minimum
    obtain hdone | ⟨e, hfail⟩ := hrequire
    · rw [hdone]
      exact mirrors_action hR hcall hm h
    · rw [hfail]
      exact .throw e

end Builtin

end Bodies

/-- The journal counts for nothing in what a routine comes to. -/
theorem Machine.outcome_congr {α : Type} {m m' : Machine κ σ} (hw : m'.world = m.world)
    (bodies : Bodies κ σ) (r : Routine κ σ α) : m'.outcome bodies r = m.outcome bodies r := by
  have hcalls := mirrorsCalls_self bodies m.depth
  have hself := hcalls.perform Token.likeness_eq (.same r) rfl
  exact (hself.agrees (fun _ _ => trivial) m' hw).1

theorem Builtin.Spares.congr {bodies : Bodies κ σ} {m : Machine κ σ} {call : Call} {f : Builtin}
    {i : Nat} (h : f.Spares bodies m call i) (m' : Machine κ σ) (hw : m'.world = m.world) :
    f.Spares bodies m' call i := by
  cases h with
  | consequent h => exact .consequent (m.outcome_congr hw bodies _ ▸ h)
  | alternative h => exact .alternative (m.outcome_congr hw bodies _ ▸ h)
  | guarded hi h => exact .guarded hi (m.outcome_congr hw bodies _ ▸ h)
  | silent h => exact .silent fun message => m.outcome_congr hw bodies _ ▸ h message
  | empty h => exact .empty fun items => m.outcome_congr hw bodies _ ▸ h items
  | surplus hn hi => exact .surplus hn hi

section Hosts

variable {differ : Span → Nat → Prop} {hosts : η → Call → Routine (Builtin ⊕ η) σ Value}
  {allowed : Happening (Builtin ⊕ η) σ → Prop}

/-- Where a call that may differ is allowed to be recorded, it is one of the library that does
without the arguments in question. -/
def Sparing (hosts : η → Call → Routine (Builtin ⊕ η) σ Value) (differ : Span → Nat → Prop)
    (allowed : Happening (Builtin ⊕ η) σ → Prop) : Prop :=
  ∀ (call : Call) (i : Nat) (m : Machine (Builtin ⊕ η) σ),
    allowed (.entered call (m.enter call).world) → i < call.args.length → differ call.span i →
    ∃ f, resolve m.world.chain call.name = .ok (.inl f) ∧
      f.Spares (Sum.elim Builtin.body hosts) (m.enter call) call i

/-- A function that takes nothing from its arguments but their values. -/
def Uniform (body : Call → Routine κ σ Value) : Prop :=
  ∀ differ call call', call.Varies (Token.Varies differ) (fun _ => False) call' →
    Routine.Varies (Token.Varies differ) (body call) (body call')

theorem mirrorsBodies_varies (hhosts : ∀ h, Uniform (hosts h))
    (hsparing : Sparing hosts differ allowed) :
    MirrorsBodies (Token.Varies differ) allowed (Sum.elim Builtin.body hosts) := by
  intro call call' code m h hcode hentered hinner
  have hvaries := h.toCall
  cases code with
  | inl f =>
    refine Builtin.mirrors_body Token.likeness_varies hinner (m.depth_enter call)
      ⟨hvaries.name, hvaries.length, fun i ts ts' hts hts' hneeded => ?_⟩
    refine hvaries.arg i ts ts' hts hts' fun hdiffers => hneeded ?_
    obtain ⟨hi, -⟩ := List.getElem?_eq_some_iff.mp hts
    obtain ⟨f', hf', hspares⟩ := hsparing call i m hentered hi hdiffers
    obtain rfl := Sum.inl.inj (Except.ok.inj (hcode.symm.trans hf'))
    exact hspares
  | inr host =>
    have hneeded : call.Varies (Token.Varies differ) (fun _ => False) call' := by
      refine ⟨hvaries.name, hvaries.length, fun i ts ts' hts hts' _ => ?_⟩
      refine hvaries.arg i ts ts' hts hts' fun hdiffers => ?_
      obtain ⟨hi, -⟩ := List.getElem?_eq_some_iff.mp hts
      obtain ⟨f', hf', -⟩ := hsparing call i m hentered hi hdiffers
      cases Except.ok.inj (hcode.symm.trans hf')
    exact hinner.perform Token.likeness_varies (hhosts host differ call call' hneeded)
      (m.depth_enter call)

theorem mirrors_of_spares {m : Machine (Builtin ⊕ η) σ} {call call' : Call} {f : Builtin}
    (hf : resolve m.world.chain call.name = .ok (.inl f))
    (h : call.Varies Eq (f.Spares (Sum.elim Builtin.body hosts) (m.enter call) call) call') :
    Mirrors (fun _ => True) m (callFunction (Sum.elim Builtin.body hosts) call)
      (callFunction (Sum.elim Builtin.body hosts) call') := by
  refine mirrors_of_bodies h.name fun code hcode _ => ?_
  obtain rfl := Except.ok.inj (hf.symm.trans hcode)
  have hcalls := mirrorsCalls_self (Sum.elim Builtin.body hosts) (m.depth + 1)
  exact Builtin.mirrors_body Token.likeness_eq hcalls (m.depth_enter call) h

end Hosts

/-- A call with other arguments in place of those that its function does without comes to the same.
So does a program with such calls in it, where the functions of the host take nothing from their
arguments but the values. Its calls are known by their spans, and in `marked` these may be chosen so
that no source that is evaluated on the way has any of them. -/
theorem spared_arguments_irrelevant {η σ : Type}
    (hosts : η → Call → Routine (Builtin ⊕ η) σ Value) (w : World (Builtin ⊕ η) σ) :
    let bodies : Bodies (Builtin ⊕ η) σ := Sum.elim Builtin.body hosts
    let runCall (call : Call) := start { world := w } (callFunction bodies call)
    let run (program : Program) := start { world := w } (runProgram bodies program)
    (∀ call call' f, resolve w.chain call.name = .ok (.inl f) →
      call'.name = call.name → call'.args.length = call.args.length →
      (∀ i, call'.args[i]? = call.args[i]? ∨
        f.Spares bodies { world := w.withDepth (w.context.depth + 1) } call i) →
      (runCall call').1 = (runCall call).1 ∧ (runCall call').2.world = (runCall call).2.world) ∧
    ((∀ h, Uniform (hosts h)) → ∀ differ program marked program',
      List.Forall₂ Token.Alike program marked →
      List.Forall₂ (Token.Varies differ) marked program' →
      (∀ call w' i, .entered call w' ∈ (run marked).2.journal → i < call.args.length →
        differ call.span i → ∃ f, resolve w'.chain call.name = .ok (.inl f) ∧
          f.Spares bodies { world := w' } call i) →
      (run program').1 = (run program).1 ∧ (run program').2.world = (run program).2.world) := by
  intro bodies runCall run
  let m : Machine (Builtin ⊕ η) σ := { world := w }
  refine ⟨fun call call' f hf hname hlength hargs => ?_,
    fun hhosts differ program marked program' hmarked hvaries hspares => ?_⟩
  · have hvaries : call.Varies Eq (f.Spares bodies (m.enter call) call) call' := by
      refine ⟨hname, hlength, fun i ts ts' hts hts' hneeded => ?_⟩
      obtain hsame | hspared := hargs i
      · obtain rfl := Option.some.inj (hts.symm.trans (hsame.symm.trans hts'))
        exact Token.likeness_eq.tokens ts
      · exact absurd (hspared.congr (m.enter call) rfl) hneeded
    exact (mirrors_of_spares hf hvaries).agrees (fun _ _ => trivial) m rfl
  · have hsame : (run marked).1 = (run program).1 ∧
        (run marked).2.world = (run program).2.world := by
      have hnever : Sparing hosts (fun _ _ => False) fun _ => True :=
        fun _ _ _ _ _ hdiffers => hdiffers.elim
      have hbodies := mirrorsBodies_varies hhosts hnever
      have hmirrors := mirrors_runProgram (m := m) Token.likeness_varies hbodies hmarked
      exact hmirrors.agrees (fun _ _ => trivial) m rfl
    let allowed (h : Happening (Builtin ⊕ η) σ) : Prop := ∀ call w' i, h = .entered call w' →
      i < call.args.length → differ call.span i → ∃ f,
        resolve w'.chain call.name = .ok (.inl f) ∧ f.Spares bodies { world := w' } call i
    have hsparing : Sparing hosts differ allowed := by
      intro call i m' hentered hi hdiffers
      obtain ⟨f, hf, hspared⟩ := hentered call _ i rfl hi hdiffers
      exact ⟨f, hf, hspared.congr (m'.enter call) rfl⟩
    have hallowed : ∀ h ∈ (run marked).2.journal, allowed h := by
      rintro _ hh call w' i rfl
      exact hspares call w' i hh
    have hbodies := mirrorsBodies_varies hhosts hsparing
    have hmirrors := mirrors_runProgram (m := m) Token.likeness_varies hbodies hvaries
    obtain ⟨houtcome, hworld⟩ := hmirrors.agrees hallowed m rfl
    exact ⟨houtcome.trans hsame.1, hworld.trans hsame.2⟩

/-- A function of the host evaluates its argument twice. In that there is a branch that is not taken
and that would fail, and one that would stop the run instead. -/
theorem spared_arguments_irrelevant_branch :
    let hosts (_ : Unit) (call : Call) : Routine (Builtin ⊕ Unit) Unit Value := do
      let s ← call.text 0
      let s' ← call.text 0
      return .text (s ++ s')
    let bodies : Bodies (Builtin ⊕ Unit) Unit := Sum.elim Builtin.body hosts
    let e : Engine (Builtin ⊕ Unit) := Engine.ofRegistry
      [("$if", .inl .ifElse), ("$stop", .inl .stop), ("$twice", .inr ())]
    let w : World (Builtin ⊕ Unit) Unit := (e.machine (e.prepare "branch") ()).world
    let call (other : String) : Call :=
      ⟨⟨1, 8⟩, "$if", [[.text ⟨1, 12⟩ "yes"], [.text ⟨1, 16⟩ "a"], [.call ⟨1, 18⟩ other []]]⟩
    let program (other : String) : Program := [.call ⟨1, 1⟩ "$twice" [[(call other).toToken]]]
    let runCall (call : Call) := start { world := w } (callFunction bodies call)
    let run (program : Program) := start { world := w } (runProgram bodies program)
    resolve w.chain "$if" = .ok (.inl .ifElse) ∧ (∀ h, Uniform (hosts h)) ∧
      Builtin.ifElse.Spares bodies { world := w.withDepth 1 } (call "$nope") 2 ∧
      (runCall (call "$stop")).1 = (runCall (call "$nope")).1 ∧
      (runCall (call "$stop")).2.world = (runCall (call "$nope")).2.world ∧
      (run (program "$stop")).1 = (run (program "$nope")).1 ∧
      (run (program "$stop")).2.world = (run (program "$nope")).2.world := by
  intro hosts bodies e w call program runCall run
  let holds (call : Call) (w : World (Builtin ⊕ Unit) Unit) : Bool :=
    Machine.outcome { world := w } bodies (condition (call.args[0]?.getD [])) ≠ .ok false
  let judged (h : Happening (Builtin ⊕ Unit) Unit) : Bool :=
    match h with
    | .entered call w =>
      call.span ≠ ⟨1, 8⟩ || resolve w.chain call.name = .ok (.inl .ifElse) && holds call w
    | .left .. => true
  have hif : resolve w.chain "$if" = .ok (.inl .ifElse) := by decide +kernel
  have hholds : holds (call "$nope") (w.withDepth 1) = true := by decide +kernel
  have hjudged : (run (program "$nope")).2.journal.all judged = true := by decide +kernel
  have hdepth : w.context.depth = 0 := rfl
  -- nothing else of the engine matters
  clear_value w
  have huniform : ∀ h, Uniform (hosts h) := by
    intro _ differ call call' h
    exact (h.text not_false).bind fun s => (h.text not_false).andThen _
  have hspares : Builtin.ifElse.Spares bodies { world := w.withDepth 1 } (call "$nope") 2 :=
    .alternative (of_decide_eq_true hholds)
  have hargs : ∀ i, (call "$stop").args[i]? = (call "$nope").args[i]? ∨
      Builtin.ifElse.Spares bodies { world := w.withDepth 1 } (call "$nope") i := by
    intro i
    match i with
    | 0 => exact .inl rfl
    | 1 => exact .inl rfl
    | 2 => exact .inr hspares
    | _ + 3 => exact .inl rfl
  let differ (p : Span) (i : Nat) : Prop := p = ⟨1, 8⟩ ∧ i = 2
  have hbranch : Token.Varies differ (call "$nope").toToken (call "$stop").toToken := by
    refine .call rfl fun i ts ts' hts hts' hsame => ?_
    obtain rfl | rfl : i = 0 ∨ i = 1 := by
      obtain ⟨hi, -⟩ := List.getElem?_eq_some_iff.mp hts
      have hi : i < 3 := hi
      have hne : i ≠ 2 := fun he => hsame ⟨rfl, he⟩
      omega
    all_goals
      obtain rfl := Option.some.inj (hts.symm.trans hts')
      exact Token.likeness_varies.tokens ts
  have hvaries : List.Forall₂ (Token.Varies differ) (program "$nope") (program "$stop") :=
    .cons (.of_forall₂ (.cons (.cons hbranch .nil) .nil)) .nil
  obtain ⟨hcalls, hprograms⟩ := spared_arguments_irrelevant hosts w
  rw [hdepth] at hcalls
  obtain ⟨houtcome, hworld⟩ := hcalls (call "$nope") (call "$stop") .ifElse hif rfl rfl hargs
  refine ⟨hif, huniform, hspares, houtcome, hworld, ?_⟩
  refine hprograms huniform differ (program "$nope") _ _ (Token.likeness_varies.tokens _) hvaries ?_
  rintro call' w' i hentered - ⟨hspan, rfl⟩
  have hcall : judged (.entered call' w') = true := List.all_eq_true.mp hjudged _ hentered
  obtain hother | hcall := Bool.or_eq_true_iff.mp hcall
  · exact absurd hspan (of_decide_eq_true hother)
  obtain ⟨hresolve, hholds⟩ := Bool.and_eq_true_iff.mp hcall
  exact ⟨.ifElse, of_decide_eq_true hresolve, .alternative (of_decide_eq_true hholds)⟩

end BracketScript
