import BracketScript.Program
import BracketScript.Routine

/-! Evaluation of programs. Tokens are evaluated from left to right until the run is stopped, and
every call goes through the engine, which counts the calls that are active. A call that would be one
too many fails, so evaluation needs no other bound: what a call evaluates has one call less left. -/

namespace BracketScript

/-- What happened during a run: which calls were entered and left, in which state, and with which
outcome. -/
inductive Happening (κ σ : Type) where
  | entered (call : Call) (world : World κ σ)
  | left (call : Call) (outcome : Except ScriptError Value) (world : World κ σ)

/-- A world together with the journal of what happened, the last first. -/
structure Machine (κ σ : Type) where
  world : World κ σ
  journal : List (Happening κ σ) := []

namespace Machine

variable {κ σ : Type}

def depth (m : Machine κ σ) : Nat :=
  m.world.context.depth

def enter (m : Machine κ σ) (call : Call) : Machine κ σ :=
  let inside := m.world.withDepth (m.depth + 1)
  { world := inside, journal := .entered call inside :: m.journal }

/-- The call that was entered last has come to its outcome. -/
def leave (m : Machine κ σ) (call : Call) (outcome : Except ScriptError Value) : Machine κ σ :=
  let outside := m.world.withDepth (m.depth - 1)
  { world := outside, journal := .left call outcome outside :: m.journal }

@[simp] theorem depth_enter (m : Machine κ σ) (call : Call) : (m.enter call).depth = m.depth + 1 :=
  rfl

@[simp] theorem depth_leave (m : Machine κ σ) (call : Call) (outcome : Except ScriptError Value) :
    (m.leave call outcome).depth = m.depth - 1 :=
  rfl

end Machine

/-- A computation on a machine. The machine remains when it fails. -/
abbrev Run (κ σ : Type) := ExceptT ScriptError (StateM (Machine κ σ))

abbrev Bodies (κ σ : Type) := κ → Call → Routine κ σ Value

variable {κ σ α β : Type}

namespace Run

def start (m : Machine κ σ) (run : Run κ σ α) : Except ScriptError α × Machine κ σ :=
  StateT.run (ExceptT.run run) m

def getWorld : Run κ σ (World κ σ) := do
  return (← get).world

def modifyWorld (f : World κ σ → World κ σ) : Run κ σ Unit :=
  modify fun m => { m with world := f m.world }

def modifyContext (f : Context κ → Context κ) : Run κ σ Unit :=
  modifyWorld fun w => { w with context := f w.context }

/-- Counts a call as active while it runs, whatever its outcome. -/
def whileActive (call : Call) (run : Run κ σ Value) : Run κ σ Value := fun m =>
  let (outcome, m') := run (m.enter call)
  (outcome, m'.leave call outcome)

@[simp] theorem start_pure (m : Machine κ σ) (a : α) : start m (pure a) = (.ok a, m) :=
  rfl

@[simp] theorem start_throw (m : Machine κ σ) (e : ScriptError) :
    start m (throw e : Run κ σ α) = (.error e, m) :=
  rfl

@[simp] theorem start_ofExcept (m : Machine κ σ) (x : Except ScriptError α) :
    start m (MonadExcept.ofExcept x) = (x, m) := by
  cases x with
  | ok a => rfl
  | error e => rfl

@[simp] theorem start_getWorld (m : Machine κ σ) : start m getWorld = (.ok m.world, m) :=
  rfl

theorem start_bind_ok {m m' : Machine κ σ} {run : Run κ σ α} {a : α} (f : α → Run κ σ β)
    (h : start m run = (.ok a, m')) : start m (run >>= f) = start m' (f a) := by
  simp only [start, ExceptT.run_bind, StateT.run_bind] at h ⊢
  rw [h]
  rfl

theorem start_bind_error {m m' : Machine κ σ} {run : Run κ σ α} {e : ScriptError}
    (f : α → Run κ σ β) (h : start m run = (.error e, m')) :
    start m (run >>= f) = (.error e, m') := by
  simp only [start, ExceptT.run_bind, StateT.run_bind] at h ⊢
  rw [h]
  rfl

theorem start_bind_pure (m : Machine κ σ) (run : Run κ σ α) (f : α → β) :
    start m (run >>= fun a => pure (f a)) = ((start m run).1.map f, (start m run).2) := by
  rcases h : start m run with ⟨e | a, m'⟩
  · exact start_bind_error _ h
  · exact start_bind_ok _ h

@[simp] theorem start_whileActive (m : Machine κ σ) (call : Call) (run : Run κ σ Value) :
    start m (whileActive call run) =
      ((start (m.enter call) run).1,
        (start (m.enter call) run).2.leave call (start (m.enter call) run).1) :=
  rfl

end Run

section Walk

/-! Walking over tokens, for a given way to carry out calls. -/

variable (dispatch : Call → Run κ σ Value)

def evaluateToken : Token → Run κ σ Value
  | .literal _ v => return v.value
  | .call span name args => dispatch ⟨span, name, args⟩
  | .punctuation _ mark => throw (.internal (.strayNode mark.kind))

/-- The values of the tokens up to the point where the run is stopped. -/
def evaluateTokens : List Token → Run κ σ (List Value)
  | [] => return []
  | t :: ts => do
    if (← Run.getWorld).context.stopped then return []
    let v ← evaluateToken dispatch t
    let vs ← evaluateTokens ts
    return v :: vs

def evaluateSequence (tokens : List Token) : Run κ σ Value := do
  return Value.fold (← evaluateTokens dispatch tokens)

/-- Runs a source text under the options of the current run. -/
def executeSource (source : String) : Run κ σ Value := do
  let w ← Run.getWorld
  let program ← MonadExcept.ofExcept (compile w.context.options.strictBrackets source)
  evaluateSequence dispatch program

def answer : (q : Request κ σ) → Run κ σ q.Reply
  | .evaluate tokens => evaluateSequence dispatch tokens
  | .invoke call => dispatch call
  | .execute source => executeSource dispatch source
  | .getVariable name => do return (← Run.getWorld).context.vars.get? name
  | .setVariable name value => do
    let w ← Run.getWorld
    Run.modifyContext fun c => { c with vars := c.vars.insert name value }
    return w.context.vars.get? name
  | .getActions => do return (← Run.getWorld).context.actions
  | .pushAction action => Run.modifyContext fun c => { c with actions := c.actions ++ [action] }
  | .stop => Run.modifyContext fun c => { c with stopped := true }
  | .isStopped => do return (← Run.getWorld).context.stopped
  | .getEvent => do return (← Run.getWorld).context.event
  | .getFileName => do return (← Run.getWorld).context.fileName
  | .getDepth => do return (← Run.getWorld).context.depth
  | .define name code => Run.modifyContext fun c => { c with scope := c.scope.bind name code }
  | .bindRoot name code => do
    let w ← Run.getWorld
    Run.modifyWorld fun w => { w with root := w.root.bind name code }
    return w.root.has name
  | .unbindRoot name => do
    let w ← Run.getWorld
    Run.modifyWorld fun w => { w with root := w.root.unbind name }
    return w.root.has name
  | .getHost => do return (← Run.getWorld).host
  | .setHost state => Run.modifyWorld fun w => { w with host := state }

def perform : Routine κ σ α → Run κ σ α
  | .done a => return a
  | .fail e => throw e
  | .ask q next => do
    let reply ← answer dispatch q
    perform (next reply)

end Walk

section Calls

variable (bodies : Bodies κ σ)

/-- Carries out a call with `budget` calls left below it. -/
def callWithin : Nat → Call → Run κ σ Value
  | budget, call => do
    let code ← MonadExcept.ofExcept (resolve (← Run.getWorld).chain call.name)
    match budget with
    | 0 => throw (.failed call.name .nestedTooDeep)
    | budget + 1 => Run.whileActive call (perform (callWithin budget) (bodies code call))

/-- Carries out a call. Those active already leave so many fewer. -/
def callFunction (call : Call) : Run κ σ Value := do
  callWithin bodies (maxNesting - (← Run.getWorld).context.depth) call

/-- The value of tokens, text not trimmed. -/
def evaluateNodes (tokens : List Token) : Run κ σ Value :=
  evaluateSequence (callFunction bodies) tokens

/-- Runs a source text inside the current run, under its options. -/
def evaluateSource (source : String) : Run κ σ Value :=
  executeSource (callFunction bodies) source

/-- Runs a program as a whole. A text result is trimmed if the run's options say so. -/
def runProgram (program : Program) : Run κ σ Value := do
  let v ← evaluateNodes bodies program
  if (← Run.getWorld).context.options.trimOutput then return v.trimmed else return v

end Calls

end BracketScript
