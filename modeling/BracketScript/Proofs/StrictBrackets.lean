import BracketScript.Proofs.CallDepth
import BracketScript.Proofs.Flattening

/-! Strict brackets take away behaviour and add none. A run with them that is not refused for a stray
bracket goes step by step as it does without them, also through sources of its own making. -/

namespace BracketScript

/-- The error of punctuation that belongs to no group. -/
def ScriptError.IsUnexpectedToken (e : ScriptError) : Prop :=
  ∃ p fault, e = .malformed p fault ∧
    "Unexpected token of type ".toList <+: (fault.message p).toList

theorem ScriptError.isUnexpectedToken_unexpected (p : Span) (mark : Punctuation) :
    (malformed p (.unexpected mark)).IsUnexpectedToken := by
  refine ⟨p, .unexpected mark, rfl, ?_⟩
  change _ <+: ("Unexpected token of type " ++ mark.kind ++ " at " ++ p.toText).toList
  simp only [String.toList_append, List.append_assoc]
  exact List.prefix_append _ _

namespace Program

theorem Reading.step_lenient (r : Reading) (t : Token) :
    r.step false t = r.step true t ∨ ∃ e, r.step true t = .error e ∧ e.IsUnexpectedToken := by
  cases t with
  | literal p v => exact .inl rfl
  | call p name args => exact .inl rfl
  | punctuation p mark =>
    have hstray := ScriptError.isUnexpectedToken_unexpected p mark
    obtain ⟨groups, outer, head⟩ := r
    cases head with
    | none =>
      cases groups with
      | nil => cases mark <;> exact .inr ⟨_, rfl, hstray⟩
      | cons g gs => cases mark <;> first | exact .inl rfl | exact .inr ⟨_, rfl, hstray⟩
    | some call =>
      cases groups with
      | nil => cases mark <;> first | exact .inl rfl | exact .inr ⟨_, rfl, hstray⟩
      | cons g gs => cases mark <;> exact .inl rfl

theorem read_lenient (r : Reading) (ts : List Token) :
    read false r ts = read true r ts ∨ ∃ e, read true r ts = .error e ∧ e.IsUnexpectedToken := by
  induction ts generalizing r with
  | nil => exact .inl rfl
  | cons t ts ih =>
    rw [read, read]
    obtain hs | ⟨e, he, hstray⟩ := r.step_lenient t
    · rw [hs]
      cases r.step true t with
      | error e => exact .inl rfl
      | ok r' => exact ih r'
    · rw [he]
      exact .inr ⟨e, rfl, hstray⟩

end Program

/-- A source that strict brackets do not refuse as such parses in the same way without them. -/
theorem compile_lenient (source : String) :
    compile false source = compile true source ∨
      ∃ e, compile true source = .error e ∧ e.IsUnexpectedToken := by
  cases ht : tokenize source with
  | error e =>
    rw [compile, compile, ht]
    exact .inl rfl
  | ok tokens =>
    rw [compile_of_tokenize ht, compile_of_tokenize ht, parse_eq_read, parse_eq_read]
    exact Program.read_lenient .start tokens

variable {κ σ : Type}

def World.withBrackets (w : World κ σ) (strict : Bool) : World κ σ :=
  { w with context := { w.context with
    options := { w.context.options with strictBrackets := strict } } }

namespace Stepping

open StateTransition

variable {bodies : Bodies κ σ} {s s' t : State κ σ} {K : List (Frame κ σ)} {m m' : Machine κ σ}

/-- The same machine but for the journal, without the strict brackets that the first one has. -/
structure Loosened (m m' : Machine κ σ) : Prop where
  strict : m.world.context.options.strictBrackets = true
  world : m'.world = m.world.withBrackets false

structure Lenient (s s' : State κ σ) : Prop where
  control : s'.control = s.control
  frames : s'.frames = s.frames
  machine : Loosened s.machine s'.machine

/-- The run has failed on stray punctuation. -/
def State.IsRefused (s : State κ σ) : Prop :=
  ∃ e, s.control = .done (.error e) ∧ e.IsUnexpectedToken

namespace Lenient

theorem compiled (hm : Loosened m m') (source : String) :
    Lenient ⟨.ofCompiled (compile true source), K, m⟩
      ⟨.ofCompiled (compile false source), K, m'⟩ ∨
    State.IsRefused (⟨.ofCompiled (compile true source), K, m⟩ : State κ σ) := by
  obtain hc | ⟨e, he, hstray⟩ := compile_lenient source
  · rw [hc]
    exact .inl ⟨rfl, rfl, hm⟩
  · rw [he]
    exact .inr ⟨e, rfl, hstray⟩

theorem makeCall (hm : Loosened m m') (call : Call) :
    Lenient (Stepping.makeCall bodies call K m) (Stepping.makeCall bodies call K m') := by
  obtain ⟨w', journal'⟩ := m'
  obtain ⟨hstrict, rfl⟩ := hm
  have hchain : (m.world.withBrackets false).chain = m.world.chain := rfl
  have hdepth : (⟨m.world.withBrackets false, journal'⟩ : Machine κ σ).depth = m.depth := rfl
  rw [Stepping.makeCall, Stepping.makeCall, hchain, hdepth]
  cases resolve m.world.chain call.name with
  | error e => exact ⟨rfl, rfl, hstrict, rfl⟩
  | ok code =>
    dsimp only
    by_cases hdeep : maxNesting ≤ m.depth
    · rw [if_pos hdeep, if_pos hdeep]
      exact ⟨rfl, rfl, hstrict, rfl⟩
    · rw [if_neg hdeep, if_neg hdeep]
      exact ⟨rfl, rfl, hstrict, rfl⟩

theorem serve {call : Call} {q : Request κ σ} {next : q.Reply → Routine κ σ Value}
    (hm : Loosened m m') :
    Lenient (Stepping.serve call K m q next) (Stepping.serve call K m' q next) ∨
      (Stepping.serve call K m q next).IsRefused := by
  obtain ⟨w', journal'⟩ := m'
  obtain ⟨hstrict, rfl⟩ := hm
  cases q with
  | execute source =>
    -- no other answer depends on the brackets
    have hm : Loosened m ⟨m.world.withBrackets false, journal'⟩ := ⟨hstrict, rfl⟩
    have hc := compiled (K := .active call next :: K) hm source
    rw [← hstrict] at hc
    exact hc
  | _ => exact .inl ⟨rfl, rfl, hstrict, rfl⟩

theorem step (h : Lenient s s') (hs : Stepping.step bodies s = some t) :
    (∃ t', Stepping.step bodies s' = some t' ∧ Lenient t t') ∨ t.IsRefused := by
  obtain ⟨control', K', w', journal'⟩ := s'
  obtain ⟨rfl, rfl, hstrict, rfl⟩ := h
  have hm : Loosened s.machine ⟨s.machine.world.withBrackets false, journal'⟩ := ⟨hstrict, rfl⟩
  cases (step_eq_some_iff bodies).mp hs with
  | stop h => exact .inl ⟨_, if_pos h, rfl, rfl, hm⟩
  | next h => exact .inl ⟨_, if_neg h, rfl, rfl, hm⟩
  | call => exact .inl ⟨_, rfl, makeCall hm _⟩
  | ask =>
    obtain hserved | hrefused := serve hm
    · exact .inl ⟨_, rfl, hserved⟩
    · exact .inr hrefused
  | @resume v frame K m =>
    cases frame <;> exact .inl ⟨_, rfl, rfl, rfl, hstrict, rfl⟩
  | @abort e frame K m =>
    cases frame <;> exact .inl ⟨_, rfl, rfl, rfl, hstrict, rfl⟩
  | _ => exact .inl ⟨_, rfl, rfl, rfl, hstrict, rfl⟩

theorem reaches (h : Lenient s s') (hs : Reaches (Stepping.step bodies) s t) :
    (∃ t', Reaches (Stepping.step bodies) s' t' ∧ Lenient t t') ∨ t.IsRefused := by
  induction hs with
  | refl => exact .inl ⟨s', .refl, h⟩
  | tail hu hstep ih =>
    obtain ⟨u', hu', hlenient⟩ | ⟨e, he, hstray⟩ := ih
    · obtain ⟨t', ht', hlast⟩ | hrefused := hlenient.step hstep
      · exact .inl ⟨t', hu'.tail ht', hlast⟩
      · exact .inr hrefused
    · -- a run that has failed goes on only to its end
      exact .inr ⟨e, failed_reaches he (.single hstep), hstray⟩

end Lenient

end Stepping

open Stepping StateTransition

/-- With strict brackets or without, a script has the same outcome and leaves the same world, unless
the strict run ends with an error about a stray bracket or separator. -/
theorem strict_run_agrees {σ : Type} (e : Engine Builtin) (context : Context Builtin) (host : σ)
    (source : String) (trim : Bool) :
    let run (strict : Bool) := (e.withOptions ⟨strict, trim⟩).runWith Builtin.body
      { context with options := ⟨strict, trim⟩ } host source
    (∀ v, (run true).1 = .ok v →
      (run false).1 = .ok v ∧ (run false).2.world = (run true).2.world.withBrackets false) ∧
    ∀ error, (run true).1 = .error error → ¬ error.IsUnexpectedToken →
      (run false).1 = .error error ∧
        (run false).2.world = (run true).2.world.withBrackets false := by
  intro run
  let start (strict : Bool) := State.start (e.withOptions ⟨strict, trim⟩)
    { context with options := ⟨strict, trim⟩ } host source
  have hends (strict : Bool) : Reaches (step Builtin.body) (start strict)
      ⟨.done (run strict).1, [], (run strict).2⟩ :=
    reaches_runWith Builtin.body (e.withOptions ⟨strict, trim⟩) _ host source
  have hagree : ((run false).1 = (run true).1 ∧
      (run false).2.world = (run true).2.world.withBrackets false) ∨
      ∃ error, (run true).1 = .error error ∧ error.IsUnexpectedToken := by
    have hm : Loosened (start true).machine (start false).machine := ⟨rfl, rfl⟩
    obtain hstart | ⟨error, hfailed, hstray⟩ := Lenient.compiled (K := [.output]) hm source
    · obtain ⟨⟨control, frames, m'⟩, hreach, hlast⟩ | ⟨error, hfailed, hstray⟩ :=
        hstart.reaches (hends true)
      · obtain rfl : control = _ := hlast.control
        obtain rfl : frames = [] := hlast.frames
        obtain ⟨houtcome, hmachine⟩ := ended_unique (hends false) hreach
        rw [hmachine]
        exact .inl ⟨houtcome, hlast.machine.world⟩
      · exact .inr ⟨error, Control.done.inj hfailed, hstray⟩
    · have hend := failed_reaches hfailed (hends true)
      exact .inr ⟨error, Control.done.inj hend, hstray⟩
  obtain ⟨houtcome, hworld⟩ | ⟨refused, hrefused, hstray⟩ := hagree
  · rw [houtcome]
    exact ⟨fun v hv => ⟨hv, hworld⟩, fun error herror _ => ⟨herror, hworld⟩⟩
  · rw [hrefused]
    refine ⟨nofun, fun error herror hother => ?_⟩
    obtain rfl : refused = error := Except.error.inj herror
    exact absurd hstray hother

/-- Two scripts that write code at run time, the second one with a bracket left open in it. -/
theorem strict_run_agrees_built :
    let e : Engine Builtin := Engine.ofRegistry Builtin.registry
    let run (strict : Bool) (source : String) := (e.withOptions ⟨strict, true⟩).runWith Builtin.body
      { e.prepare "built" with options := ⟨strict, true⟩ } () source
    let built := "$let[x;5]$eval[\\$get\\[x\\]]"
    let broken := "$let[x;5]$eval[\\$get\\[x]"
    let unclosed := ScriptError.malformed ⟨1, 1⟩ .unclosed
    (∃ v, (run true built).1 = .ok v ∧ (run false built).1 = .ok v ∧
      (run false built).2.world = (run true built).2.world.withBrackets false) ∧
    (run true broken).1 = .error unclosed ∧ ¬ unclosed.IsUnexpectedToken ∧
      (run false broken).1 = .error unclosed ∧
      (run false broken).2.world = (run true broken).2.world.withBrackets false := by
  intro e run built broken unclosed
  have hbuilt : (run true built).1.map Value.toText = .ok "5" := by decide +kernel
  have hbroken : (run true broken).1.map Value.toText = .error unclosed := by decide +kernel
  have hother : ¬ unclosed.IsUnexpectedToken := by
    rintro ⟨p, fault, h, hmessage⟩
    obtain ⟨rfl, rfl⟩ := ScriptError.malformed.inj h
    revert hmessage
    decide
  have hagrees (source : String) := strict_run_agrees e (e.prepare "built") () source true
  refine ⟨?_, ?_⟩
  · obtain ⟨v, hv⟩ : ∃ v, (run true built).1 = .ok v := by
      cases h : (run true built).1 with
      | ok v => exact ⟨v, rfl⟩
      | error error =>
        rw [h] at hbuilt
        cases hbuilt
    exact ⟨v, hv, (hagrees built).1 v hv⟩
  · have hfails : (run true broken).1 = .error unclosed := by
      cases h : (run true broken).1 with
      | ok v =>
        rw [h] at hbroken
        cases hbroken
      | error error =>
        rw [h] at hbroken
        exact congrArg _ (Except.error.inj hbroken)
    exact ⟨hfails, hother, (hagrees broken).2 unclosed hfails hother⟩

end BracketScript
