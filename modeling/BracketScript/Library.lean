import BracketScript.Pattern.Replacement
import BracketScript.Routine
import BracketScript.Text.Search

/-! The functions that every script has: branches, variables, texts, lists, and the requests to the
host. Texts are taken with the blanks around them except where they name a variable or are sent. -/

namespace BracketScript

inductive Builtin where
  | ifElse
  | onlyIf
  | stop
  | eval
  | letBe
  | get
  | toLowerCase
  | toUpperCase
  | startsWith
  | textIndexOf
  | textLastIndexOf
  | charAt
  | split
  | checkContains
  | replaceText
  | replaceRegex
  | isString
  | arrayFindIndex
  | trunc
  | sendMessage
  | replyMessage
  | eventText
  | username
deriving DecidableEq, Repr

namespace Builtin

def all : List Builtin :=
  [ifElse, onlyIf, stop, eval, letBe, get, toLowerCase, toUpperCase, startsWith, textIndexOf,
   textLastIndexOf, charAt, split, checkContains, replaceText, replaceRegex, isString,
   arrayFindIndex, trunc, sendMessage, replyMessage, eventText, username]

def name : Builtin → String
  | ifElse => "$if"
  | onlyIf => "$onlyIf"
  | stop => "$stop"
  | eval => "$eval"
  | letBe => "$let"
  | get => "$get"
  | toLowerCase => "$toLowerCase"
  | toUpperCase => "$toUpperCase"
  | startsWith => "$startsWith"
  | textIndexOf => "$textIndexOf"
  | textLastIndexOf => "$textLastIndexOf"
  | charAt => "$charAt"
  | split => "$split"
  | checkContains => "$checkContains"
  | replaceText => "$replaceText"
  | replaceRegex => "$replaceRegex"
  | isString => "$isString"
  | arrayFindIndex => "$arrayFindIndex"
  | trunc => "$trunc"
  | sendMessage => "$sendMessage"
  | replyMessage => "$replyMessage"
  | eventText => "$eventText"
  | username => "$username"

def minimum : Builtin → Nat
  | stop | eventText | username => 0
  | eval | get | toLowerCase | toUpperCase | isString | trunc | sendMessage | replyMessage => 1
  | ifElse | onlyIf | letBe | startsWith | textIndexOf | textLastIndexOf | charAt | split
  | checkContains => 2
  | replaceText | replaceRegex | arrayFindIndex => 3

end Builtin

namespace Library

variable {κ σ : Type}

/-- A position as a script sees it, with `-1` for none. -/
def position (i : Option Nat) : Value :=
  match i with
  | some n => .int (Int64.ofNat n)
  | none => .int (-1)

/-- The character at a position counted from one, as a text; none outside the text. -/
def charText (s : List Char) (position : Int) : String :=
  if 1 ≤ position then String.ofList (s[(position - 1).toNat]?).toList else ""

def splitText (s separator : List Char) : List Value :=
  if separator.isEmpty then s.map fun c => .text (String.ofList [c])
  else (Text.splitOn separator s).map fun part => .text (String.ofList part)

def containsText (s sought : List Char) : Bool :=
  (Text.indexOf sought s).isSome

/-- Only the branch that the condition selects is evaluated. -/
def branch (call : Call) : Routine κ σ Value := do
  let holds ← condition (call.args[0]?.getD [])
  call.argument (if holds then 1 else 2)

/-- When the condition fails, sends the message, unless it is blank, and stops the run. -/
def guard (call : Call) : Routine κ σ Value := do
  if ← condition (call.args[0]?.getD []) then return .undefined
  let message ← call.trimmedText 1
  if message ≠ "" then
    let reply ← call.argument 2
    Routine.pushAction (if reply.isTrue then .reply message else .send message)
  Routine.stop
  return .undefined

def evaluateText (call : Call) : Routine κ σ Value := do
  let source ← call.trimmedText 0
  if source = "" then return .undefined
  Routine.execute source

def assign (call : Call) : Routine κ σ Value := do
  let name ← call.trimmedText 0
  let value ← call.argument 1
  let _ ← Routine.setVariable name value
  return .undefined

def fetch (call : Call) : Routine κ σ Value := do
  let name ← call.trimmedText 0
  return (← Routine.getVariable name).getD .undefined

/-- A function of the first two arguments as texts. -/
def ofTwoTexts (f : List Char → List Char → Value) (call : Call) : Routine κ σ Value := do
  let s ← call.text 0
  let s' ← call.text 1
  return f s.toList s'.toList

def charAt (call : Call) : Routine κ σ Value := do
  let s ← call.text 0
  let position ← call.integer 1
  return .text (charText s.toList position.toInt)

def checkContains (call : Call) : Routine κ σ Value := do
  match ← Call.evaluateAll call.args with
  | [] => return .bool false
  | first :: others =>
    return .bool (others.any fun v => containsText first.toText.toList v.toText.toList)

/-- How many occurrences to replace: all when the count is undefined or negative. -/
def countArgument (call : Call) (i : Nat) : Routine κ σ (Option Nat) := do
  match ← call.argument i with
  | .undefined => return none
  | v =>
    match v.integer? with
    | some n => return if 0 ≤ n.toInt then some n.toInt.toNat else none
    | none => .fail (.failed call.name (.notNumber (i + 1)))

def replaceText (call : Call) : Routine κ σ Value := do
  let s ← call.text 0
  let sought ← call.text 1
  let replacement ← call.text 2
  let count ← countArgument call 3
  return .text
    (String.ofList (Text.replace sought.toList replacement.toList count s.toList))

def replaceRegex (call : Call) : Routine κ σ Value := do
  let s ← call.text 0
  let source ← call.text 1
  let replacement ← call.text 2
  match Pattern.read? source.toList with
  | some pattern =>
    return .text (String.ofList (pattern.replaceAll replacement.toList s.toList))
  | none => .fail (.failed call.name .invalidPattern)

def isString (call : Call) : Routine κ σ Value := do
  match Value.ofLiteral (← call.trimmedText 0) with
  | .text _ => return .bool true
  | _ => return .bool false

/-- The list that a value is, or that the variable of its name holds. -/
def listOf (call : Call) (v : Value) : Routine κ σ (List Value) :=
  match v with
  | .list items => return items
  | v => do
    let name := Text.trim v.toText
    match ← Routine.getVariable name with
    | some (.list items) => return items
    | _ => .fail (.failed call.name (.notList name))

/-- Binds the items in turn until the condition holds. -/
def findFrom (name : String) (tokens : List Token) (i : Nat) :
    List Value → Routine κ σ (Option Nat)
  | [] => return none
  | item :: items => do
    let _ ← Routine.setVariable name item
    if ← condition tokens then return some i
    findFrom name tokens (i + 1) items

def arrayFindIndex (call : Call) : Routine κ σ Value := do
  let items ← listOf call (← call.argument 0)
  let name ← call.trimmedText 1
  return position (← findFrom name (call.args[2]?.getD []) 0 items)

def trunc (call : Call) : Routine κ σ Value := do
  match (← call.argument 0).number? with
  | some x => return .int x.truncate
  | none => .fail (.failed call.name (.notNumber 1))

def request (action : String → Action) (call : Call) : Routine κ σ Value := do
  let s ← call.trimmedText 0
  Routine.pushAction (action s)
  return .undefined

def ofEvent (f : MessageEvent → Option String) : Routine κ σ Value := do
  match (← Routine.getEvent).bind f with
  | some s => return .text s
  | none => return .undefined

end Library

namespace Builtin

variable {κ σ : Type}

def action : Builtin → Call → Routine κ σ Value
  | ifElse => Library.branch
  | onlyIf => Library.guard
  | stop => fun _ => do
    Routine.stop
    return .undefined
  | eval => Library.evaluateText
  | letBe => Library.assign
  | get => Library.fetch
  | toLowerCase => fun call => return .text (Text.lower (← call.text 0))
  | toUpperCase => fun call => return .text (Text.upper (← call.text 0))
  | startsWith => Library.ofTwoTexts fun s s' => .bool (s'.isPrefixOf s)
  | textIndexOf => Library.ofTwoTexts fun s s' => Library.position (Text.indexOf s' s)
  | textLastIndexOf => Library.ofTwoTexts fun s s' => Library.position (Text.lastIndexOf s' s)
  | charAt => Library.charAt
  | split => Library.ofTwoTexts fun s s' => .list (Library.splitText s s')
  | checkContains => Library.checkContains
  | replaceText => Library.replaceText
  | replaceRegex => Library.replaceRegex
  | isString => Library.isString
  | arrayFindIndex => Library.arrayFindIndex
  | trunc => Library.trunc
  | sendMessage => Library.request .send
  | replyMessage => Library.request .reply
  | eventText => fun _ => Library.ofEvent fun e => some e.text
  | username => fun _ => Library.ofEvent MessageEvent.username

/-- Functions that need no arguments may also be called without brackets. -/
def body (f : Builtin) (call : Call) : Routine κ σ Value := do
  if f.minimum ≠ 0 then call.require f.minimum
  f.action call

/-- The standard registry, each function under its own name. -/
def registry : List (String × Builtin) :=
  all.map fun f => (f.name, f)

end Builtin

end BracketScript
