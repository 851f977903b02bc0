import BracketScript.Proofs.Resemblance
import BracketScript.Proofs.Termination

/-! Programs that are the same but for the spelling of the names in them. They are read in the same
way and go the same way, step by step, and where one fails so does the other, at a name in its own
spelling. -/

namespace BracketScript

/-- Ways to spell a name that count as the same when it is looked up. -/
structure Respelling (H : String → String → Prop) : Prop where
  same : ∀ name, H name name
  normal : ∀ name name', H name name' → normalName name' = normalName name

/-- Two tokens that are the same but for the names of calls, which are related in each place. -/
inductive Token.Respelled (H : String → String → Prop) : Token → Token → Prop
  | literal (p : Span) (v : Literal) : Respelled H (.literal p v) (.literal p v)
  | punctuation (p : Span) (mark : Punctuation) :
      Respelled H (.punctuation p mark) (.punctuation p mark)
  | call {p : Span} {name name' : String} {args args' : List (List Token)} (hname : H name name')
      (hargs : List.Forall₂ (List.Forall₂ (Respelled H)) args args') :
      Respelled H (.call p name args) (.call p name' args')

/-- The name of the function that is unknown or has failed. -/
def ScriptError.function? : ScriptError → Option String
  | unknownFunction name => some name
  | failed name _ => some name
  | _ => none

/-- The same error but for the name of a function in it. -/
inductive ScriptError.Respelled (H : String → String → Prop) : ScriptError → ScriptError → Prop
  | other {e : ScriptError} (h : e.function? = none) : Respelled H e e
  | unknownFunction {name name' : String} (h : H name name') :
      Respelled H (.unknownFunction name) (.unknownFunction name')
  | failed {name name' : String} (h : H name name') (fault : CallFault) :
      Respelled H (.failed name fault) (.failed name' fault)

/-- Both values or both errors, and related as such. -/
inductive Agree {α : Type} (V : α → α → Prop) (E : ScriptError → ScriptError → Prop) :
    Except ScriptError α → Except ScriptError α → Prop
  | ok {a a' : α} (h : V a a') : Agree V E (.ok a) (.ok a')
  | error {e e' : ScriptError} (h : E e e') : Agree V E (.error e) (.error e')

namespace Agree

variable {α : Type} {V : α → α → Prop} {E E' : ScriptError → ScriptError → Prop}
  {x x' : Except ScriptError α}

theorem errors (h : Agree V E x x') {e e' : ScriptError} (hx : x = .error e)
    (hx' : x' = .error e') : E e e' := by
  subst hx hx'
  cases h with
  | error he => exact he

theorem exists_error (h : Agree V E x x') {e' : ScriptError} (hx' : x' = .error e') :
    ∃ e, x = .error e := by
  subst hx'
  cases h with
  | error => exact ⟨_, rfl⟩

theorem imp_errors (h : Agree V E x x')
    (herror : ∀ e e', x = .error e → x' = .error e' → E e e' → E' e e') : Agree V E' x x' := by
  cases h with
  | ok ha => exact .ok ha
  | error he => exact .error (herror _ _ rfl rfl he)

end Agree

variable {κ σ : Type} {H : String → String → Prop}

namespace Token.Respelled

theorem refl (hH : Respelling H) (t : Token) : t.Respelled H t := by
  cases t with
  | literal p v => exact .literal p v
  | punctuation p mark => exact .punctuation p mark
  | call p name args =>
    refine .call (hH.same name) (List.forall₂_same.mpr fun arg harg => ?_)
    exact List.forall₂_same.mpr fun t ht => refl hH t
termination_by t
decreasing_by
  have harg' := List.sizeOf_lt_of_mem harg
  have ht' := List.sizeOf_lt_of_mem ht
  simp only [call.sizeOf_spec]
  omega

theorem refl_tokens (hH : Respelling H) (ts : List Token) :
    List.Forall₂ (Token.Respelled H) ts ts :=
  List.forall₂_same.mpr fun t _ => refl hH t

theorem call_iff {call call' : Call} :
    call.toToken.Respelled H call'.toToken ↔ call'.span = call.span ∧ H call.name call'.name ∧
      List.Forall₂ (List.Forall₂ (Token.Respelled H)) call.args call'.args := by
  obtain ⟨p, name, args⟩ := call
  obtain ⟨p', name', args'⟩ := call'
  constructor
  · intro h
    cases h with
    | call hname hargs => exact ⟨rfl, hname, hargs⟩
  · rintro ⟨rfl, hname, hargs⟩
    exact .call hname hargs

end Token.Respelled

namespace ScriptError.Respelled

theorem refl (hH : Respelling H) (e : ScriptError) : e.Respelled H e := by
  cases e with
  | unknownFunction name => exact .unknownFunction (hH.same name)
  | failed name fault => exact .failed (hH.same name) fault
  | _ => exact .other rfl

variable {e e' : ScriptError} {H' : String → String → Prop}

theorem isSome_function? (h : e.Respelled H e') : e.function?.isSome = e'.function?.isSome := by
  cases h <;> rfl

theorem names (h : e.Respelled H e') {name name' : String} (hname : e.function? = some name)
    (hname' : e'.function? = some name') : H name name' := by
  cases h with
  | other hnone =>
    rw [hnone] at hname
    cases hname
  | unknownFunction h =>
    cases hname
    cases hname'
    exact h
  | failed h fault =>
    cases hname
    cases hname'
    exact h

/-- All that depends on the relation is how the names in the two errors are related. -/
theorem of_names (h : e.Respelled H e')
    (hnames : ∀ name name', e.function? = some name → e'.function? = some name' → H' name name') :
    e.Respelled H' e' := by
  cases h with
  | other hnone => exact .other hnone
  | unknownFunction h => exact .unknownFunction (hnames _ _ rfl rfl)
  | failed h fault => exact .failed (hnames _ _ rfl rfl) fault

end ScriptError.Respelled

theorem Respelling.resemblance (hH : Respelling H) :
    Resemblance (Token.Respelled H) (ScriptError.Respelled H) := by
  refine ⟨fun t t' h => ?_, ScriptError.Respelled.refl hH⟩
  cases h <;> rfl

theorem Token.Respelled.toCall {call call' : Call}
    (h : call.toToken.Respelled H call'.toToken) :
    call.Resembles (Token.Respelled H) (ScriptError.Respelled H) (fun _ => False) call' := by
  obtain ⟨-, hname, hargs⟩ := call_iff.mp h
  refine ⟨.failed hname, hargs.length_eq.symm, fun i ts ts' hts hts' _ => ?_⟩
  obtain ⟨hi, rfl⟩ := List.getElem?_eq_some_iff.mp hts
  obtain ⟨hi', rfl⟩ := List.getElem?_eq_some_iff.mp hts'
  exact (List.forall₂_iff_get.mp hargs).2 i hi hi'

namespace Program

structure Group.Respelled (H : String → String → Prop) (g g' : Group) : Prop where
  span : g'.span = g.span
  name : H g.name g'.name
  arguments : List.Forall₂ (List.Forall₂ (Token.Respelled H)) g.arguments g'.arguments
  current : List.Forall₂ (Token.Respelled H) g.current g'.current

namespace Group.Respelled

variable {g g' : Group}

theorem add {t t' : Token} (h : g.Respelled H g') (ht : t.Respelled H t') :
    (g.add t).Respelled H (g'.add t') :=
  ⟨h.span, h.name, h.arguments, h.current.cons ht⟩

theorem separate (h : g.Respelled H g') : g.separate.Respelled H g'.separate :=
  ⟨h.span, h.name, h.arguments.cons (List.forall₂_reverse_iff.mpr h.current), .nil⟩

theorem toToken (h : g.Respelled H g') : g.toToken.Respelled H g'.toToken := by
  rw [Group.toToken, Group.toToken, h.span]
  exact .call h.name (List.forall₂_reverse_iff.mpr h.separate.arguments)

end Group.Respelled

structure Reading.Respelled (H : String → String → Prop) (r r' : Reading) : Prop where
  groups : List.Forall₂ (Group.Respelled H) r.groups r'.groups
  outer : List.Forall₂ (Token.Respelled H) r.outer r'.outer
  head : Option.Rel (fun call call' => call.toToken.Respelled H call'.toToken) r.head r'.head

namespace Reading.Respelled

variable {r r' : Reading} {t t' : Token}

theorem start (H : String → String → Prop) : Respelled H Reading.start Reading.start :=
  ⟨.nil, .nil, .none⟩

theorem add (h : r.Respelled H r') (ht : t.Respelled H t') : (r.add t).Respelled H (r'.add t') := by
  obtain ⟨groups, outer, head⟩ := r
  obtain ⟨groups', outer', head'⟩ := r'
  obtain ⟨hgroups, houter, hhead⟩ := h
  cases hgroups with
  | nil => exact ⟨.nil, houter.cons ht, hhead⟩
  | cons hg hgs => exact ⟨hgs.cons (hg.add ht), houter, hhead⟩

theorem settle (h : r.Respelled H r') : r.settle.Respelled H r'.settle := by
  obtain ⟨groups, outer, head⟩ := r
  obtain ⟨groups', outer', head'⟩ := r'
  obtain ⟨hgroups, houter, hhead⟩ := h
  cases hhead with
  | none => exact ⟨hgroups, houter, .none⟩
  | some hcall =>
    have hnone : Respelled H ⟨groups, outer, none⟩ ⟨groups', outer', none⟩ :=
      ⟨hgroups, houter, .none⟩
    exact hnone.add hcall

theorem addStray (h : r.Respelled H r') (strict : Bool) (p : Span) (mark : Punctuation) :
    Agree (Respelled H) Eq (r.addStray strict p mark) (r'.addStray strict p mark) := by
  cases strict with
  | true => exact .error rfl
  | false => exact .ok (h.add (.literal p _))

theorem punctuate (h : r.Respelled H r') (strict : Bool) (p : Span) (mark : Punctuation) :
    Agree (Respelled H) Eq (r.punctuate strict p mark) (r'.punctuate strict p mark) := by
  have hstray := h.addStray strict p mark
  obtain ⟨groups, outer, head⟩ := r
  obtain ⟨groups', outer', head'⟩ := r'
  obtain ⟨hgroups, houter, hhead⟩ := h
  cases hgroups with
  | nil => cases mark <;> exact hstray
  | @cons g g' gs gs' hg hgs =>
    cases mark with
    | opening => exact hstray
    | closing =>
      have hrest : Respelled H ⟨gs, outer, head⟩ ⟨gs', outer', head'⟩ := ⟨hgs, houter, hhead⟩
      exact .ok (hrest.add hg.toToken)
    | separator => exact .ok ⟨hgs.cons hg.separate, houter, hhead⟩

theorem step (h : r.Respelled H r') (ht : t.Respelled H t') (strict : Bool) :
    Agree (Respelled H) Eq (r.step strict t) (r'.step strict t') := by
  cases ht with
  | literal p v => exact .ok (h.settle.add (.literal p v))
  | @call p name name' args args' hname hargs =>
    rw [Reading.step, Reading.step, h.groups.length_eq]
    split
    · exact .error rfl
    · exact .ok ⟨h.settle.groups, h.settle.outer, .some (.call hname hargs)⟩
  | punctuation p mark =>
    have hother := h.settle.punctuate strict p mark
    obtain ⟨groups, outer, head⟩ := r
    obtain ⟨groups', outer', head'⟩ := r'
    obtain ⟨hgroups, houter, hhead⟩ := h
    cases hhead with
    | none => cases mark <;> exact hother
    | some hcall =>
      cases mark with
      | opening =>
        obtain ⟨hspan, hname, -⟩ := Token.Respelled.call_iff.mp hcall
        exact .ok ⟨hgroups.cons ⟨hspan, hname, .nil, .nil⟩, houter, .none⟩
      | closing => exact hother
      | separator => exact hother

theorem finish (h : r.Respelled H r') :
    Agree (List.Forall₂ (Token.Respelled H)) Eq r.finish r'.finish := by
  have hsettled := h.settle
  rw [Reading.finish, Reading.finish]
  generalize r.settle = r, r'.settle = r' at hsettled ⊢
  obtain ⟨groups, outer, head⟩ := r
  obtain ⟨groups', outer', head'⟩ := r'
  obtain ⟨hgroups, houter, -⟩ := hsettled
  cases hgroups with
  | nil => exact .ok (List.forall₂_reverse_iff.mpr houter)
  | cons hg hgs => exact .error (by rw [hg.span])

end Reading.Respelled

theorem read_respelled {r r' : Reading} {ts ts' : List Token} (h : r.Respelled H r')
    (hts : List.Forall₂ (Token.Respelled H) ts ts') (strict : Bool) :
    Agree (List.Forall₂ (Token.Respelled H)) Eq (read strict r ts) (read strict r' ts') := by
  induction hts generalizing r r' with
  | nil => exact h.finish
  | @cons t t' ts ts' ht _ ih =>
    have hstep := h.step ht strict
    rw [read, read]
    generalize r.step strict t = stepped, r'.step strict t' = stepped' at hstep ⊢
    cases hstep with
    | ok hr => exact ih hr
    | error he => exact .error he

end Program

theorem parse_respelled {ts ts' : List Token} (hts : List.Forall₂ (Token.Respelled H) ts ts')
    (strict : Bool) :
    Agree (List.Forall₂ (Token.Respelled H)) Eq (parse strict ts) (parse strict ts') := by
  rw [parse_eq_read, parse_eq_read]
  exact Program.read_respelled (.start H) hts strict

/-- A function that does not look at the spelling of the names in the call it is given, neither its
own nor those of the calls in its arguments. -/
def IgnoresSpelling (body : Call → Routine κ σ Value) : Prop :=
  ∀ H, Respelling H → ∀ call call', call.toToken.Respelled H call'.toToken →
    (body call).Resembles (Token.Respelled H) (ScriptError.Respelled H) (body call')

theorem Builtin.body_ignoresSpelling (f : Builtin) :
    IgnoresSpelling (f.body : Call → Routine κ σ Value) :=
  fun _ hH _ _ h => f.resembles_body hH.resemblance h.toCall

theorem lookup?_congr {name name' : String} (h : normalName name' = normalName name)
    (chain : List (Scope κ)) : lookup? chain name' = lookup? chain name := by
  simp only [lookup?, Scope.find?, h]

theorem resolve_respelled (hH : Respelling H) {name name' : String} (h : H name name')
    (chain : List (Scope κ)) :
    Agree Eq (ScriptError.Respelled H) (resolve chain name) (resolve chain name') := by
  rw [resolve, resolve, lookup?_congr (hH.normal name name' h)]
  cases lookup? chain name with
  | some code => exact .ok rfl
  | none => exact .error (.unknownFunction h)

namespace Stepping

open StateTransition

/-- The two are at the same point of the same evaluation. -/
inductive Control.Respelled (H : String → String → Prop) : Control κ σ → Control κ σ → Prop
  | sequence {ts ts' : List Token} (hts : List.Forall₂ (Token.Respelled H) ts ts')
      (values : List Value) : Respelled H (.sequence ts values) (.sequence ts' values)
  | visit {t t' : Token} (ht : t.Respelled H t') : Respelled H (.visit t) (.visit t')
  | call {call call' : Call} (hcall : call.toToken.Respelled H call'.toToken) :
      Respelled H (.call call) (.call call')
  | routine (call call' : Call) {rest rest' : Routine κ σ Value}
      (hrest : rest.Resembles (Token.Respelled H) (ScriptError.Respelled H) rest') :
      Respelled H (.routine call rest) (.routine call' rest')
  | done {outcome outcome' : Except ScriptError Value}
      (h : Agree Eq (ScriptError.Respelled H) outcome outcome') :
      Respelled H (.done outcome) (.done outcome')

inductive Frame.Respelled (H : String → String → Prop) : Frame κ σ → Frame κ σ → Prop
  | sequence (t t' : Token) {ts ts' : List Token} (hts : List.Forall₂ (Token.Respelled H) ts ts')
      (values : List Value) : Respelled H (.sequence t ts values) (.sequence t' ts' values)
  | visit (t t' : Token) : Respelled H (.visit t) (.visit t')
  | active (call call' : Call) {next next' : Value → Routine κ σ Value}
      (hnext : ∀ v, (next v).Resembles (Token.Respelled H) (ScriptError.Respelled H) (next' v)) :
      Respelled H (.active call next) (.active call' next')
  | output : Respelled H .output .output

/-- The journals may differ, since the calls in them do. -/
structure State.Respelled (H : String → String → Prop) (s s' : State κ σ) : Prop where
  control : s.control.Respelled H s'.control
  frames : List.Forall₂ (Frame.Respelled H) s.frames s'.frames
  world : s'.machine.world = s.machine.world

theorem Control.Respelled.ofCompiled (hH : Respelling H)
    {compiled compiled' : Except ScriptError Program}
    (h : Agree (List.Forall₂ (Token.Respelled H)) Eq compiled compiled') :
    (Control.ofCompiled compiled : Control κ σ).Respelled H (.ofCompiled compiled') := by
  cases h with
  | ok hprogram => exact .sequence hprogram []
  | @error e e' he =>
    subst he
    exact .done (.error (.refl hH e))

namespace State.Respelled

variable {bodies : Bodies κ σ} {s s' t : State κ σ} {K K' : List (Frame κ σ)}
  {m m' : Machine κ σ}

theorem resume {frame frame' : Frame κ σ} (hframe : frame.Respelled H frame')
    (hK : List.Forall₂ (Frame.Respelled H) K K') (hw : m'.world = m.world) (v : Value) :
    Respelled H (Stepping.resume frame K m v) (Stepping.resume frame' K' m' v) := by
  cases hframe with
  | sequence t t' hts values => exact ⟨.sequence hts _, hK, hw⟩
  | visit t t' => exact ⟨.done (.ok rfl), hK, hw⟩
  | active call call' hnext => exact ⟨.routine call call' (hnext v), hK, hw⟩
  | output => exact ⟨.done (.ok (by rw [hw])), hK, hw⟩

theorem abort {frame frame' : Frame κ σ} (hframe : frame.Respelled H frame')
    (hK : List.Forall₂ (Frame.Respelled H) K K') (hw : m'.world = m.world) {e e' : ScriptError}
    (he : e.Respelled H e') :
    Respelled H (Stepping.abort frame K m e) (Stepping.abort frame' K' m' e') := by
  have hdone : (Control.done (.error e) : Control κ σ).Respelled H (.done (.error e')) :=
    .done (.error he)
  cases hframe with
  | active call call' hnext => exact ⟨hdone, hK, Machine.world_leave hw call call' _ _⟩
  | _ => exact ⟨hdone, hK, hw⟩

theorem makeCall (hH : Respelling H) (hbodies : ∀ code, IgnoresSpelling (bodies code))
    {call call' : Call} (hcall : call.toToken.Respelled H call'.toToken)
    (hK : List.Forall₂ (Frame.Respelled H) K K') (hw : m'.world = m.world) :
    Respelled H (Stepping.makeCall bodies call K m) (Stepping.makeCall bodies call' K' m') := by
  obtain ⟨-, hname, -⟩ := Token.Respelled.call_iff.mp hcall
  have hresolve := resolve_respelled hH hname m.world.chain
  have hdepth : m'.depth = m.depth := congrArg (·.context.depth) hw
  rw [Stepping.makeCall, Stepping.makeCall, hw, hdepth]
  generalize resolve m.world.chain call.name = found, resolve m.world.chain call'.name = found'
    at hresolve ⊢
  cases hresolve with
  | error he => exact ⟨.done (.error he), hK, hw⟩
  | @ok code code' hcode =>
    subst hcode
    dsimp only
    split
    · exact ⟨.done (.error (.failed hname _)), hK, hw⟩
    · exact ⟨.routine call call' (hbodies code H hH call call' hcall), hK,
        Machine.world_enter hw call call'⟩

theorem serve (hH : Respelling H) (call call' : Call) {q : Request κ σ}
    {next next' : q.Reply → Routine κ σ Value}
    (hnext : ∀ reply, (next reply).Resembles (Token.Respelled H) (ScriptError.Respelled H)
      (next' reply))
    (hK : List.Forall₂ (Frame.Respelled H) K K') (hw : m'.world = m.world) :
    Respelled H (Stepping.serve call K m q next) (Stepping.serve call' K' m' q next') := by
  obtain ⟨w, journal⟩ := m
  obtain ⟨w', journal'⟩ := m'
  obtain rfl : w' = w := hw
  cases q with
  | evaluate tokens =>
    exact ⟨.sequence (Token.Respelled.refl_tokens hH tokens) [], hK.cons (.active _ _ hnext), rfl⟩
  | invoke callee =>
    exact ⟨.call (Token.Respelled.refl hH _), hK.cons (.active _ _ hnext), rfl⟩
  | execute source =>
    refine ⟨.ofCompiled hH ?_, hK.cons (.active _ _ hnext), rfl⟩
    dsimp only
    cases compile w'.context.options.strictBrackets source with
    | ok program => exact .ok (Token.Respelled.refl_tokens hH program)
    | error e => exact .error rfl
  | _ => exact ⟨.routine _ _ (hnext _), hK, rfl⟩

theorem step (hH : Respelling H) (hbodies : ∀ code, IgnoresSpelling (bodies code))
    (h : Respelled H s s') (hs : Stepping.step bodies s = some t) :
    ∃ t', Stepping.step bodies s' = some t' ∧ Respelled H t t' := by
  obtain ⟨control', K', m'⟩ := s'
  obtain ⟨hcontrol, hK, hw⟩ := h
  dsimp only at hcontrol hK hw
  cases (step_eq_some_iff bodies).mp hs with
  | finish =>
    cases hcontrol with
    | sequence hts =>
      cases hts
      exact ⟨_, rfl, .done (.ok rfl), hK, hw⟩
  | stop hstop =>
    cases hcontrol with
    | sequence hts =>
      cases hts
      rw [← hw] at hstop
      exact ⟨_, if_pos hstop, .done (.ok rfl), hK, hw⟩
  | next hgoes =>
    cases hcontrol with
    | sequence hts =>
      obtain _ | ⟨ht, hts⟩ := hts
      rw [← hw] at hgoes
      exact ⟨_, if_neg hgoes, .visit ht, hK.cons (.sequence _ _ hts _), hw⟩
  | literal =>
    cases hcontrol with
    | visit ht =>
      cases ht
      exact ⟨_, rfl, .done (.ok rfl), hK, hw⟩
  | head =>
    cases hcontrol with
    | visit ht =>
      obtain _ | _ | ⟨hname, hargs⟩ := ht
      exact ⟨_, rfl, .call (.call hname hargs), hK.cons (.visit _ _), hw⟩
  | stray =>
    cases hcontrol with
    | visit ht =>
      cases ht
      exact ⟨_, rfl, .done (.error (.other rfl)), hK, hw⟩
  | call =>
    cases hcontrol with
    | call hcall => exact ⟨_, rfl, makeCall hH hbodies hcall hK hw⟩
  | leave =>
    cases hcontrol with
    | routine _ _ hrest =>
      cases hrest
      exact ⟨_, rfl, .done (.ok rfl), hK, Machine.world_leave hw _ _ _ _⟩
  | fail =>
    cases hcontrol with
    | routine _ _ hrest =>
      obtain _ | ⟨he⟩ := hrest
      exact ⟨_, rfl, .done (.error he), hK, Machine.world_leave hw _ _ _ _⟩
  | ask =>
    cases hcontrol with
    | routine _ _ hrest =>
      cases hrest with
      | evaluate hts hnext =>
        exact ⟨_, rfl, .sequence hts [], hK.cons (.active _ _ hnext), hw⟩
      | invoke hcallee hnext =>
        exact ⟨_, rfl, .call hcallee, hK.cons (.active _ _ hnext), hw⟩
      | ask q hnext => exact ⟨_, rfl, serve hH _ _ hnext hK hw⟩
  | resume =>
    cases hcontrol with
    | done h =>
      obtain ⟨rfl⟩ | _ := h
      obtain _ | ⟨hframe, hK⟩ := hK
      exact ⟨_, rfl, resume hframe hK hw _⟩
  | abort =>
    cases hcontrol with
    | done h =>
      obtain _ | ⟨he⟩ := h
      obtain _ | ⟨hframe, hK⟩ := hK
      exact ⟨_, rfl, abort hframe hK hw he⟩

theorem reaches (hH : Respelling H) (hbodies : ∀ code, IgnoresSpelling (bodies code))
    (h : Respelled H s s') (hs : Reaches (Stepping.step bodies) s t) :
    ∃ t', Reaches (Stepping.step bodies) s' t' ∧ Respelled H t t' := by
  induction hs with
  | refl => exact ⟨s', .refl, h⟩
  | tail _ hstep ih =>
    obtain ⟨u', hu', hrelated⟩ := ih
    obtain ⟨t', ht', hlast⟩ := hrelated.step hH hbodies hstep
    exact ⟨t', hu'.tail ht', hlast⟩

end State.Respelled

end Stepping

open Stepping in
/-- Programs that are the same but for the spelling of names, or errors of reading, have the same
outcome but for that of the name in an error, and leave the same world. -/
theorem runs_respelled (hH : Respelling H) {bodies : Bodies κ σ}
    (hbodies : ∀ code, IgnoresSpelling (bodies code)) (m : Machine κ σ)
    {compiled compiled' : Except ScriptError Program}
    (h : Agree (List.Forall₂ (Token.Respelled H)) Eq compiled compiled') :
    let run (compiled : Except ScriptError Program) :=
      Run.start m (MonadExcept.ofExcept compiled >>= runProgram bodies)
    Agree Eq (ScriptError.Respelled H) (run compiled).1 (run compiled').1 ∧
      (run compiled').2.world = (run compiled).2.world := by
  intro run
  have hstart : State.Respelled H (⟨.ofCompiled compiled, [.output], m⟩ : State κ σ)
      ⟨.ofCompiled compiled', [.output], m⟩ := ⟨.ofCompiled hH h, .cons .output .nil, rfl⟩
  obtain ⟨⟨control, K, m'⟩, hreach, hcontrol, hK, hw⟩ :=
    hstart.reaches hH hbodies (reaches_compiled bodies compiled m)
  cases hK
  cases hcontrol with
  | done houtcome =>
    obtain ⟨hsame, hmachine⟩ := ended_unique (reaches_compiled bodies compiled' m) hreach
    rw [← hsame] at houtcome
    rw [← hmachine] at hw
    exact ⟨houtcome, hw⟩

end BracketScript
