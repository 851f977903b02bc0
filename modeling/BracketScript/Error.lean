import BracketScript.Token

/-! What can go wrong with a script, and how it is reported. -/

namespace BracketScript

inductive SyntaxFault where
  | nestedTooDeep
  | unclosed
  | unexpected (mark : Punctuation)
  | other (message : String)
deriving DecidableEq

inductive CallFault where
  | nestedTooDeep
  | bracketsExpected
  | argumentsExpected (minimum : Nat)
  | notNumber (position : Nat)
  | notList (name : String)
  | invalidPattern
  | other (message : String)
deriving DecidableEq

/-- A state that no script can lead to. -/
inductive Defect where
  | strayNode (kind : String)
  | unmergeable (left right : String)
deriving DecidableEq

inductive ScriptError where
  | invalidInput (message : String)
  | malformed (span : Span) (fault : SyntaxFault)
  | parserBusy
  | unknownFunction (name : String)
  | internal (defect : Defect)
  | failed (name : String) (fault : CallFault)
  | host (message : String)
deriving DecidableEq

namespace Span

def toText (p : Span) : String :=
  s!"{p.line}:{p.column}"

end Span

def SyntaxFault.message (p : Span) : SyntaxFault → String
  | nestedTooDeep => "nesting too deep"
  | unclosed => "Expected ']', got none"
  | unexpected mark => s!"Unexpected token of type {mark.kind} at {p.toText}"
  | other message => message

def CallFault.message : CallFault → String
  | nestedTooDeep => "nesting too deep"
  | bracketsExpected => "expected brackets"
  | argumentsExpected minimum => s!"expected at least {minimum} arguments"
  | notNumber position => s!"argument {position} is not a number"
  | notList name => s!"the variable \"{name}\" does not hold an array"
  | invalidPattern => "invalid pattern"
  | other message => message

def Defect.message : Defect → String
  | strayNode kind => s!"evaluator cannot handle `{kind}` node"
  | unmergeable left right => s!"cannot merge `{left}` token with `{right}` token"

namespace ScriptError

def emptySource : ScriptError :=
  invalidInput "script source must be non-empty"

def message : ScriptError → String
  | invalidInput text => s!"invalid input: {text}"
  | malformed p fault => s!"{p.toText}: {fault.message p}"
  | parserBusy => "parser is busy"
  | unknownFunction name => s!"unknown function `{name}`"
  | internal defect => s!"internal error: {defect.message}"
  | failed name fault => s!"{name}: {fault.message}"
  | host text => text

/-- Whether the engine is to blame, and not the script. -/
def isInternal : ScriptError → Bool
  | internal _ | parserBusy => true
  | _ => false

def position : ScriptError → Option Span
  | malformed p _ => some p
  | _ => none

end ScriptError

end BracketScript
