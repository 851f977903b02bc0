import Mathlib
import BracketScript.Engine

/-! Evaluation one step at a time, with a stack of what waits for a value. A call fails if too many
are active when it is made, and nothing else bounds a run. -/

namespace BracketScript

namespace Token

mutual

/-- The size of the text that a token stands for: its tokens and its lists of tokens. -/
def size : Token → Nat
  | .literal .. => 1
  | .punctuation .. => 1
  | .call _ _ args => sizeOfArguments args + 1

def sizeOfTokens : List Token → Nat
  | [] => 1
  | t :: ts => t.size + sizeOfTokens ts

def sizeOfArguments : List (List Token) → Nat
  | [] => 0
  | arg :: args => sizeOfTokens arg + sizeOfArguments args

end

theorem size_pos (t : Token) : 0 < t.size := by
  cases t <;> simp [size]

theorem sizeOfTokens_pos (ts : List Token) : 0 < sizeOfTokens ts := by
  induction ts with
  | nil => simp [sizeOfTokens]
  | cons t ts ih =>
    simp only [sizeOfTokens]
    omega

theorem size_lt_cons (t : Token) (ts : List Token) : t.size < sizeOfTokens (t :: ts) := by
  have h := sizeOfTokens_pos ts
  simp only [sizeOfTokens]
  omega

theorem sizeOfTokens_lt_cons (t : Token) (ts : List Token) :
    sizeOfTokens ts < sizeOfTokens (t :: ts) := by
  have h := size_pos t
  simp only [sizeOfTokens]
  omega

end Token

namespace Machine

variable {κ σ : Type}

theorem world_enter {m m' : Machine κ σ} (h : m'.world = m.world) (call call' : Call) :
    (m'.enter call').world = (m.enter call).world := by
  change m'.world.withDepth (m'.world.context.depth + 1) = _
  rw [h]
  rfl

theorem world_leave {m m' : Machine κ σ} (h : m'.world = m.world) (call call' : Call)
    (outcome outcome' : Except ScriptError Value) :
    (m'.leave call' outcome').world = (m.leave call outcome).world := by
  change m'.world.withDepth (m'.world.context.depth - 1) = _
  rw [h]
  rfl

end Machine

namespace Stepping

open StateTransition

variable {κ σ : Type}

inductive Control (κ σ : Type) where
  /-- Walk over tokens. The values before them come last first. -/
  | sequence (tokens : List Token) (values : List Value)
  | visit (t : Token)
  | call (call : Call)
  | routine (call : Call) (rest : Routine κ σ Value)
  | done (outcome : Except ScriptError Value)

/-- A program is walked over. A source that does not parse has failed. -/
def Control.ofCompiled : Except ScriptError Program → Control κ σ
  | .ok program => .sequence program []
  | .error e => .done (.error e)

theorem Control.ofCompiled_ne_routine (compiled : Except ScriptError Program) (call : Call)
    (rest : Routine κ σ Value) : ofCompiled compiled ≠ .routine call rest := by
  cases compiled <;> simp [ofCompiled]

/-- What waits for a value: a walk over tokens for that of `t`, the visit of a call, the function of
an active call, or the run as a whole. -/
inductive Frame (κ σ : Type) where
  | sequence (t : Token) (ts : List Token) (values : List Value)
  | visit (t : Token)
  | active (call : Call) (next : Value → Routine κ σ Value)
  | output

structure State (κ σ : Type) where
  control : Control κ σ
  frames : List (Frame κ σ)
  machine : Machine κ σ

def resume (frame : Frame κ σ) (K : List (Frame κ σ)) (m : Machine κ σ) (v : Value) : State κ σ :=
  match frame with
  | .sequence _ ts values => ⟨.sequence ts (v :: values), K, m⟩
  | .visit _ => ⟨.done (.ok v), K, m⟩
  | .active call next => ⟨.routine call (next v), K, m⟩
  | .output =>
    ⟨.done (.ok (if m.world.context.options.trimOutput then v.trimmed else v)), K, m⟩

def abort (frame : Frame κ σ) (K : List (Frame κ σ)) (m : Machine κ σ) (e : ScriptError) :
    State κ σ :=
  match frame with
  | .active call _ => ⟨.done (.error e), K, m.leave call (.error e)⟩
  | _ => ⟨.done (.error e), K, m⟩

/-- What a function asks for is evaluated, or answered at once. -/
def serve (call : Call) (K : List (Frame κ σ)) (m : Machine κ σ) :
    (q : Request κ σ) → (q.Reply → Routine κ σ Value) → State κ σ
  | .evaluate tokens, next => ⟨.sequence tokens [], .active call next :: K, m⟩
  | .invoke callee, next => ⟨.call callee, .active call next :: K, m⟩
  | .execute source, next =>
    ⟨.ofCompiled (compile m.world.context.options.strictBrackets source),
      .active call next :: K, m⟩
  | q, next =>
    match Run.start m (answer (fun _ => return .undefined) q) with
    | (.ok reply, m') => ⟨.routine call (next reply), K, m'⟩
    | (.error e, m') => ⟨.routine call (.fail e), K, m'⟩

section Steps

variable (bodies : Bodies κ σ)

/-- The number of active calls is checked when a call is made, after its function was found. -/
def makeCall (call : Call) (K : List (Frame κ σ)) (m : Machine κ σ) : State κ σ :=
  match resolve m.world.chain call.name with
  | .error e => ⟨.done (.error e), K, m⟩
  | .ok code =>
    if maxNesting ≤ m.depth then ⟨.done (.error (.failed call.name .nestedTooDeep)), K, m⟩
    else ⟨.routine call (bodies code call), K, m.enter call⟩

def step : State κ σ → Option (State κ σ)
  | ⟨.sequence [] values, K, m⟩ => some ⟨.done (.ok (Value.fold values.reverse)), K, m⟩
  | ⟨.sequence (t :: ts) values, K, m⟩ =>
    if m.world.context.stopped then some ⟨.done (.ok (Value.fold values.reverse)), K, m⟩
    else some ⟨.visit t, .sequence t ts values :: K, m⟩
  | ⟨.visit (.literal _ v), K, m⟩ => some ⟨.done (.ok v.value), K, m⟩
  | ⟨.visit (.call p name args), K, m⟩ =>
    some ⟨.call ⟨p, name, args⟩, .visit (.call p name args) :: K, m⟩
  | ⟨.visit (.punctuation _ mark), K, m⟩ =>
    some ⟨.done (.error (.internal (.strayNode mark.kind))), K, m⟩
  | ⟨.call call, K, m⟩ => some (makeCall bodies call K m)
  | ⟨.routine call (.done v), K, m⟩ => some ⟨.done (.ok v), K, m.leave call (.ok v)⟩
  | ⟨.routine call (.fail e), K, m⟩ => some ⟨.done (.error e), K, m.leave call (.error e)⟩
  | ⟨.routine call (.ask q next), K, m⟩ => some (serve call K m q next)
  | ⟨.done (.ok v), frame :: K, m⟩ => some (resume frame K m v)
  | ⟨.done (.error e), frame :: K, m⟩ => some (abort frame K m e)
  | ⟨.done _, [], _⟩ => none

/-- One rule for each thing that a step does. -/
inductive Rule : State κ σ → State κ σ → Prop
  | finish {values : List Value} {K : List (Frame κ σ)} {m : Machine κ σ} :
      Rule ⟨.sequence [] values, K, m⟩ ⟨.done (.ok (Value.fold values.reverse)), K, m⟩
  | stop {t : Token} {ts : List Token} {values : List Value} {K : List (Frame κ σ)}
      {m : Machine κ σ} (h : m.world.context.stopped = true) :
      Rule ⟨.sequence (t :: ts) values, K, m⟩ ⟨.done (.ok (Value.fold values.reverse)), K, m⟩
  | next {t : Token} {ts : List Token} {values : List Value} {K : List (Frame κ σ)}
      {m : Machine κ σ} (h : ¬ m.world.context.stopped = true) :
      Rule ⟨.sequence (t :: ts) values, K, m⟩ ⟨.visit t, .sequence t ts values :: K, m⟩
  | literal {p : Span} {v : Literal} {K : List (Frame κ σ)} {m : Machine κ σ} :
      Rule ⟨.visit (.literal p v), K, m⟩ ⟨.done (.ok v.value), K, m⟩
  | head {p : Span} {name : String} {args : List (List Token)} {K : List (Frame κ σ)}
      {m : Machine κ σ} :
      Rule ⟨.visit (.call p name args), K, m⟩
        ⟨.call ⟨p, name, args⟩, .visit (.call p name args) :: K, m⟩
  | stray {p : Span} {mark : Punctuation} {K : List (Frame κ σ)} {m : Machine κ σ} :
      Rule ⟨.visit (.punctuation p mark), K, m⟩
        ⟨.done (.error (.internal (.strayNode mark.kind))), K, m⟩
  | call {call : Call} {K : List (Frame κ σ)} {m : Machine κ σ} :
      Rule ⟨.call call, K, m⟩ (makeCall bodies call K m)
  | leave {call : Call} {v : Value} {K : List (Frame κ σ)} {m : Machine κ σ} :
      Rule ⟨.routine call (.done v), K, m⟩ ⟨.done (.ok v), K, m.leave call (.ok v)⟩
  | fail {call : Call} {e : ScriptError} {K : List (Frame κ σ)} {m : Machine κ σ} :
      Rule ⟨.routine call (.fail e), K, m⟩ ⟨.done (.error e), K, m.leave call (.error e)⟩
  | ask {call : Call} {q : Request κ σ} {next : q.Reply → Routine κ σ Value}
      {K : List (Frame κ σ)} {m : Machine κ σ} :
      Rule ⟨.routine call (.ask q next), K, m⟩ (serve call K m q next)
  | resume {v : Value} {frame : Frame κ σ} {K : List (Frame κ σ)} {m : Machine κ σ} :
      Rule ⟨.done (.ok v), frame :: K, m⟩ (resume frame K m v)
  | abort {e : ScriptError} {frame : Frame κ σ} {K : List (Frame κ σ)} {m : Machine κ σ} :
      Rule ⟨.done (.error e), frame :: K, m⟩ (abort frame K m e)

theorem step_eq_some_iff {s s' : State κ σ} : step bodies s = some s' ↔ Rule bodies s s' := by
  constructor
  · intro h
    rw [step.eq_def] at h
    split at h
    · obtain rfl := Option.some.inj h
      exact .finish
    · split at h <;> obtain rfl := Option.some.inj h
      · exact .stop ‹_›
      · exact .next ‹_›
    · obtain rfl := Option.some.inj h
      exact .literal
    · obtain rfl := Option.some.inj h
      exact .head
    · obtain rfl := Option.some.inj h
      exact .stray
    · obtain rfl := Option.some.inj h
      exact .call
    · obtain rfl := Option.some.inj h
      exact .leave
    · obtain rfl := Option.some.inj h
      exact .fail
    · obtain rfl := Option.some.inj h
      exact .ask
    · obtain rfl := Option.some.inj h
      exact .resume
    · obtain rfl := Option.some.inj h
      exact .abort
    · cases h
  · intro h
    cases h with
    | stop h => exact if_pos h
    | next h => exact if_neg h
    | _ => rfl

theorem step_done (outcome : Except ScriptError Value) (m : Machine κ σ) :
    step bodies ⟨.done outcome, [], m⟩ = none := by
  cases outcome <;> rfl

end Steps

/-- A call of a function with this code is made here, and it is not one too many. -/
def State.Invokes (s : State κ σ) (call : Call) (code : κ) : Prop :=
  s.control = .call call ∧ resolve s.machine.world.chain call.name = .ok code ∧
    s.machine.depth < maxNesting

theorem State.Invokes.step_eq {s : State κ σ} {call : Call} {code : κ} (h : s.Invokes call code)
    (bodies : Bodies κ σ) :
    step bodies s = some ⟨.routine call (bodies code call), s.frames, s.machine.enter call⟩ := by
  obtain ⟨control, K, m⟩ := s
  obtain ⟨rfl, hr, hm⟩ : control = .call call ∧ resolve m.world.chain call.name = .ok code ∧
    m.depth < maxNesting := h
  simp only [step, makeCall, hr]
  rw [if_neg (Nat.not_le_of_lt hm)]

/-- The call is made, or the machine is as it was. -/
theorem makeCall_cases (bodies : Bodies κ σ) (call : Call) (K : List (Frame κ σ))
    (m : Machine κ σ) :
    (∃ code, State.Invokes ⟨.call call, K, m⟩ call code ∧
      makeCall bodies call K m = ⟨.routine call (bodies code call), K, m.enter call⟩) ∨
    (∃ e, resolve m.world.chain call.name = .error e ∧
      makeCall bodies call K m = ⟨.done (.error e), K, m⟩) ∨
    (maxNesting ≤ m.depth ∧
      makeCall bodies call K m = ⟨.done (.error (.failed call.name .nestedTooDeep)), K, m⟩) := by
  cases hr : resolve m.world.chain call.name with
  | error e => exact .inr (.inl ⟨e, rfl, by rw [makeCall, hr]⟩)
  | ok code =>
    by_cases hm : maxNesting ≤ m.depth
    · exact .inr (.inr ⟨hm, by simp only [makeCall, hr, if_pos hm]⟩)
    · exact .inl ⟨code, ⟨rfl, hr, Nat.lt_of_not_le hm⟩, by simp only [makeCall, hr, if_neg hm]⟩

/-- A step leaves the world but for the depth, or it answers what a function asks for. -/
theorem world_step {bodies : Bodies κ σ} {s s' : State κ σ} (hs : step bodies s = some s') :
    (∃ depth, s'.machine.world = s.machine.world.withDepth depth) ∨
    ∃ (call : Call) (q : Request κ σ) (next : q.Reply → Routine κ σ Value),
      s.control = .routine call (.ask q next) ∧ s' = serve call s.frames s.machine q next := by
  cases (step_eq_some_iff bodies).mp hs with
  | ask => exact .inr ⟨_, _, _, rfl, rfl⟩
  | @call call K m =>
    obtain ⟨code, -, hc⟩ | ⟨e, -, hc⟩ | ⟨-, hc⟩ := makeCall_cases bodies call K m
    · exact .inl ⟨m.depth + 1, by rw [hc]; rfl⟩
    · exact .inl ⟨m.depth, by rw [hc]; rfl⟩
    · exact .inl ⟨m.depth, by rw [hc]; rfl⟩
  | @resume v frame K m => exact .inl ⟨m.depth, by cases frame <;> rfl⟩
  | @abort e frame K m =>
    cases frame with
    | active call next => exact .inl ⟨m.depth - 1, rfl⟩
    | _ => exact .inl ⟨m.depth, rfl⟩
  | _ => exact .inl ⟨_, rfl⟩

def activeFrames : List (Frame κ σ) → Nat
  | [] => 0
  | .active .. :: K => activeFrames K + 1
  | _ :: K => activeFrames K

def State.active (s : State κ σ) : Nat :=
  match s.control with
  | .routine .. => activeFrames s.frames + 1
  | _ => activeFrames s.frames

/-- How much an evaluation may still do: the number of calls that can be active inside it, and then
the size of what it has to walk. `base` calls were active before the run. -/
def measure (base : Nat) (K : List (Frame κ σ)) (size : Nat) : ℕ ×ₗ ℕ :=
  toLex (maxNesting - (base + activeFrames K), size)

/-- The measures of the evaluations that wait for a value, the innermost first. `State.evaluations`
adds the one that goes on. -/
def waiting (base : Nat) : List (Frame κ σ) → List (ℕ ×ₗ ℕ)
  | [] => []
  | .sequence t ts _ :: K => measure base K (Token.sizeOfTokens (t :: ts)) :: waiting base K
  | .visit t :: K => measure base K t.size :: waiting base K
  | .active .. :: K => waiting base K
  | .output :: K => waiting base K

def State.evaluations (base : Nat) (s : State κ σ) : List (ℕ ×ₗ ℕ) :=
  match s.control with
  | .sequence ts _ => measure base s.frames (Token.sizeOfTokens ts) :: waiting base s.frames
  | .visit t => measure base s.frames t.size :: waiting base s.frames
  | _ => waiting base s.frames

theorem measure_lt {base : Nat} {K : List (Frame κ σ)} {n n' : Nat} (h : n < n') :
    measure base K n < measure base K n' :=
  Prod.Lex.toLex_lt_toLex.mpr (.inr ⟨rfl, h⟩)

theorem le_of_mem_waiting {base : Nat} {K : List (Frame κ σ)} {x : ℕ ×ₗ ℕ}
    (hx : x ∈ waiting base K) : maxNesting - (base + activeFrames K) ≤ (ofLex x).1 := by
  induction K with
  | nil => simp [waiting] at hx
  | cons frame K ih =>
    cases frame with
    | sequence t ts values =>
      rcases List.mem_cons.mp hx with rfl | hx
      · exact Nat.le_refl _
      · exact ih hx
    | visit t =>
      rcases List.mem_cons.mp hx with rfl | hx
      · exact Nat.le_refl _
      · exact ih hx
    | active call next =>
      have h := ih hx
      simp only [activeFrames]
      omega
    | output => exact ih hx

/-- What a run keeps, when `base` calls were active at its start: the calls that have been counted
are the active ones, they are not too many, and every evaluation is smaller than those around it. -/
structure Contained (base : Nat) (s : State κ σ) : Prop where
  depth_eq : s.machine.depth = base + s.active
  active_le : s.active ≤ maxNesting - base
  decreasing : (s.evaluations base).Pairwise (· < ·)

namespace Contained

variable {base : Nat} {K : List (Frame κ σ)} {m : Machine κ σ}

theorem start {c : Control κ σ} (hc : ∀ call rest, c ≠ .routine call rest)
    (ha : activeFrames K = 0) (hw : waiting m.depth K = []) : Contained m.depth ⟨c, K, m⟩ := by
  cases c with
  | routine call rest => exact absurd rfl (hc call rest)
  | _ => constructor <;> simp [State.active, State.evaluations, ha, hw]

theorem of_smaller {x y : ℕ ×ₗ ℕ} {xs : List (ℕ ×ₗ ℕ)} (h : (y :: xs).Pairwise (· < ·))
    (hxy : x < y) : (x :: xs).Pairwise (· < ·) := by
  obtain ⟨hy, hxs⟩ := List.pairwise_cons.mp h
  exact List.pairwise_cons.mpr ⟨fun z hz => hxy.trans (hy z hz), hxs⟩

theorem resume {frame : Frame κ σ} {v : Value}
    (h : Contained base ⟨.done (.ok v), frame :: K, m⟩) :
    Contained base (Stepping.resume frame K m v) := by
  obtain ⟨hd, ha, hw⟩ := h
  cases frame with
  | sequence t ts values =>
    exact ⟨hd, ha, of_smaller hw (measure_lt (Token.sizeOfTokens_lt_cons t ts))⟩
  | visit t => exact ⟨hd, ha, hw.of_cons⟩
  | active call next => exact ⟨hd, ha, hw⟩
  | output => exact ⟨hd, ha, hw⟩

theorem depth_pos {call : Call} {rest : Routine κ σ Value}
    (h : Contained base ⟨.routine call rest, K, m⟩) : 0 < m.depth := by
  have hd : m.depth = base + (activeFrames K + 1) := h.depth_eq
  omega

theorem leave {call : Call} {rest : Routine κ σ Value}
    (h : Contained base ⟨.routine call rest, K, m⟩) (outcome : Except ScriptError Value) :
    Contained base ⟨.done outcome, K, m.leave call outcome⟩ := by
  obtain ⟨hd, ha, hw⟩ := h
  have hd' : m.depth = base + (activeFrames K + 1) := hd
  refine ⟨?_, Nat.le_of_succ_le ha, hw⟩
  rw [Machine.depth_leave, hd']
  rfl

theorem abort {frame : Frame κ σ} {e : ScriptError}
    (h : Contained base ⟨.done (.error e), frame :: K, m⟩) :
    Contained base (Stepping.abort frame K m e) := by
  obtain ⟨hd, ha, hw⟩ := h
  cases frame with
  | sequence t ts values => exact ⟨hd, ha, hw.of_cons⟩
  | visit t => exact ⟨hd, ha, hw.of_cons⟩
  | active call next =>
    have hr : Contained base ⟨.routine call (.fail e), K, m⟩ := ⟨hd, ha, hw⟩
    exact hr.leave (.error e)
  | output => exact ⟨hd, ha, hw⟩

theorem makeCall {bodies : Bodies κ σ} {call : Call} (h : Contained base ⟨.call call, K, m⟩) :
    Contained base (Stepping.makeCall bodies call K m) := by
  obtain ⟨hd, ha, hw⟩ := h
  obtain ⟨code, ⟨-, -, hm⟩, hs⟩ | ⟨e, -, hs⟩ | ⟨-, hs⟩ := makeCall_cases bodies call K m
  · rw [hs]
    have hd' : m.depth = base + activeFrames K := hd
    have hm' : m.depth < maxNesting := hm
    refine ⟨?_, ?_, hw⟩
    · simp only [Machine.depth_enter, hd', State.active]
      omega
    · simp only [State.active]
      omega
  · rw [hs]
    exact ⟨hd, ha, hw⟩
  · rw [hs]
    exact ⟨hd, ha, hw⟩

/-- A function that evaluates tokens has one call less left than what its own call is in. -/
theorem walk {call : Call} {rest : Routine κ σ Value}
    (h : Contained base ⟨.routine call rest, K, m⟩) (tokens : List Token)
    (next : Value → Routine κ σ Value) :
    Contained base ⟨.sequence tokens [], .active call next :: K, m⟩ := by
  obtain ⟨hd, ha, hw⟩ := h
  have ha' : activeFrames K + 1 ≤ maxNesting - base := ha
  refine ⟨hd, ha, List.pairwise_cons.mpr ⟨fun x hx => ?_, hw⟩⟩
  have hle := le_of_mem_waiting (K := K) hx
  refine Prod.Lex.lt_iff.mpr (.inl ?_)
  refine Nat.lt_of_lt_of_le ?_ hle
  simp only [measure, ofLex_toLex, activeFrames]
  omega

theorem serve {call : Call} {q : Request κ σ} {next : q.Reply → Routine κ σ Value}
    (h : Contained base ⟨.routine call (.ask q next), K, m⟩) :
    Contained base (Stepping.serve call K m q next) := by
  cases q with
  | evaluate tokens => exact h.walk tokens next
  | invoke callee => exact ⟨h.depth_eq, h.active_le, h.decreasing⟩
  | execute source =>
    dsimp only [Stepping.serve]
    cases compile m.world.context.options.strictBrackets source with
    | ok program => exact h.walk program next
    | error e => exact ⟨h.depth_eq, h.active_le, h.decreasing⟩
  | _ => exact ⟨h.depth_eq, h.active_le, h.decreasing⟩

theorem step {bodies : Bodies κ σ} {s s' : State κ σ} (h : Contained base s)
    (hs : step bodies s = some s') : Contained base s' := by
  cases (step_eq_some_iff bodies).mp hs with
  | finish => exact ⟨h.depth_eq, h.active_le, h.decreasing.of_cons⟩
  | stop => exact ⟨h.depth_eq, h.active_le, h.decreasing.of_cons⟩
  | @next t ts values K m =>
    refine ⟨h.depth_eq, h.active_le, List.pairwise_cons.mpr ⟨fun x hx => ?_, h.decreasing⟩⟩
    have hlt : measure base K t.size < measure base K (Token.sizeOfTokens (t :: ts)) :=
      measure_lt (Token.size_lt_cons t ts)
    rcases List.mem_cons.mp hx with rfl | hx
    · exact hlt
    · exact hlt.trans ((List.pairwise_cons.mp h.decreasing).1 x hx)
  | literal => exact ⟨h.depth_eq, h.active_le, h.decreasing.of_cons⟩
  | head => exact ⟨h.depth_eq, h.active_le, h.decreasing⟩
  | stray => exact ⟨h.depth_eq, h.active_le, h.decreasing.of_cons⟩
  | call => exact h.makeCall
  | leave => exact h.leave _
  | fail => exact h.leave _
  | ask => exact h.serve
  | resume => exact h.resume
  | abort => exact h.abort

theorem reaches {bodies : Bodies κ σ} {s s' : State κ σ} (h : Contained base s)
    (hs : Reaches (Stepping.step bodies) s s') : Contained base s' := by
  induction hs with
  | refl => exact h
  | tail _ hstep ih => exact ih.step hstep

end Contained

end Stepping

end BracketScript
