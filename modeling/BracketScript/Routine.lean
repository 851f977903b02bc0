import BracketScript.Context

/-! What a function may do with the call it is given, as a tree of requests to the engine. Arguments
are evaluated only on request, any number of times and in any order. The codes of functions are of
a type `κ`, so that a function can bind others, and `σ` is the state of the host. -/

namespace BracketScript

inductive Request (κ σ : Type) where
  | evaluate (tokens : List Token)
  | invoke (call : Call)
  | execute (source : String)
  | getVariable (name : String)
  | setVariable (name : String) (value : Value)
  | getActions
  | pushAction (action : Action)
  | stop
  | isStopped
  | getEvent
  | getFileName
  | getDepth
  /-- Bind a function for the rest of this run. -/
  | define (name : String) (code : κ)
  | bindRoot (name : String) (code : κ)
  | unbindRoot (name : String)
  | getHost
  | setHost (state : σ)

/-- What the engine answers: the old value where something is replaced, and whether something was
there where a root binding is changed. -/
def Request.Reply {κ σ : Type} : Request κ σ → Type
  | evaluate _ | invoke _ | execute _ => Value
  | getVariable _ | setVariable .. => Option Value
  | getActions => List Action
  | pushAction _ | stop | define .. | setHost _ => Unit
  | isStopped | bindRoot .. | unbindRoot _ => Bool
  | getEvent => Option MessageEvent
  | getFileName => String
  | getDepth => Nat
  | getHost => σ

inductive Routine (κ σ α : Type) where
  | done (value : α)
  | fail (error : ScriptError)
  | ask (request : Request κ σ) (next : request.Reply → Routine κ σ α)

namespace Routine

variable {κ σ α β : Type}

def bind (r : Routine κ σ α) (f : α → Routine κ σ β) : Routine κ σ β :=
  match r with
  | done a => f a
  | fail e => fail e
  | ask q next => ask q fun reply => (next reply).bind f

instance : Monad (Routine κ σ) where
  pure := done
  bind := bind

def evaluate (tokens : List Token) : Routine κ σ Value := ask (.evaluate tokens) done

def invoke (call : Call) : Routine κ σ Value := ask (.invoke call) done

def execute (source : String) : Routine κ σ Value := ask (.execute source) done

def getVariable (name : String) : Routine κ σ (Option Value) := ask (.getVariable name) done

def setVariable (name : String) (value : Value) : Routine κ σ (Option Value) :=
  ask (.setVariable name value) done

def getActions : Routine κ σ (List Action) := ask .getActions done

def pushAction (action : Action) : Routine κ σ Unit := ask (.pushAction action) done

def stop : Routine κ σ Unit := ask .stop done

def isStopped : Routine κ σ Bool := ask .isStopped done

def getEvent : Routine κ σ (Option MessageEvent) := ask .getEvent done

def getFileName : Routine κ σ String := ask .getFileName done

def getDepth : Routine κ σ Nat := ask .getDepth done

def define (name : String) (code : κ) : Routine κ σ Unit := ask (.define name code) done

def bindRoot (name : String) (code : κ) : Routine κ σ Bool := ask (.bindRoot name code) done

def unbindRoot (name : String) : Routine κ σ Bool := ask (.unbindRoot name) done

def getHost : Routine κ σ σ := ask .getHost done

def setHost (state : σ) : Routine κ σ Unit := ask (.setHost state) done

end Routine

namespace Call

variable {κ σ : Type}

/-- How many arguments count as given: a single empty one is none. -/
def given (call : Call) : Nat :=
  match call.args with
  | [[]] => 0
  | args => args.length

/-- Fails unless the call has brackets and enough arguments. -/
def require (call : Call) (minimum : Nat) : Routine κ σ Unit :=
  if !call.hasBrackets then .fail (.failed call.name .bracketsExpected)
  else if call.given < minimum then .fail (.failed call.name (.argumentsExpected minimum))
  else .done ()

/-- The value of an argument, undefined where there is none. -/
def argument (call : Call) (i : Nat) : Routine κ σ Value :=
  match call.args[i]? with
  | some tokens => .evaluate tokens
  | none => .done .undefined

def text (call : Call) (i : Nat) : Routine κ σ String := do
  return (← call.argument i).toText

def trimmedText (call : Call) (i : Nat) : Routine κ σ String := do
  return Text.trim (← call.text i)

def integer (call : Call) (i : Nat) : Routine κ σ Int64 := do
  match (← call.argument i).integer? with
  | some n => return n
  | none => .fail (.failed call.name (.notNumber (i + 1)))

/-- The values of several arguments, from left to right. -/
def evaluateAll : List (List Token) → Routine κ σ (List Value)
  | [] => return []
  | tokens :: rest => do
    let v ← Routine.evaluate tokens
    let vs ← evaluateAll rest
    return v :: vs

end Call

/-- A comparison evaluates what is left of the operator, then what is right of it; any other tokens
are true or false as their value is. Blanks around texts do not count. -/
def condition {κ σ : Type} (tokens : List Token) : Routine κ σ Bool :=
  match comparison? tokens with
  | some (lhs, op, rhs) => do
    let v ← Routine.evaluate lhs
    let w ← Routine.evaluate rhs
    return op.holds v.trimmed w.trimmed
  | none => do
    let v ← Routine.evaluate tokens
    return v.trimmed.isTrue

end BracketScript
