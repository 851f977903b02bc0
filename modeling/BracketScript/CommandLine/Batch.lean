import BracketScript.CommandLine.Arguments
import BracketScript.Engine
import BracketScript.Library

/-! A batch of scripts. Each runs by itself, in order, whatever became of those before it. -/

namespace BracketScript.CommandLine

inductive Origin where
  | command (text : String)
  | input
  | file (path : String)
deriving DecidableEq, Repr

def Origin.name : Origin → String
  | command _ => "<command>"
  | input => "<stdin>"
  | file path => path

def Origin.ofFile (path : String) : Origin :=
  if path = "-" then .input else .file path

/-- What is to run: the script among the flags, then the files, or else the standard input. -/
def Arguments.origins (a : Arguments) : List Origin :=
  if a.isEmpty then [.input]
  else (a.script.map Origin.command).toList ++ a.files.map Origin.ofFile

/-- A script by name, or the reason why it cannot be read. -/
structure Source where
  name : String
  text : Except String String

/-- What has been printed, and whether all went well. -/
structure Report where
  output : String := ""
  complaints : String := ""
  succeeded : Bool := true
deriving DecidableEq, Repr, Inhabited

namespace Report

def append (r s : Report) : Report :=
  ⟨r.output ++ s.output, r.complaints ++ s.complaints, r.succeeded && s.succeeded⟩

instance : Append Report := ⟨append⟩

def exitCode (r : Report) : UInt32 :=
  if r.succeeded then 0 else 1

end Report

def line (s : String) : String :=
  s ++ "\n"

def complaint (message : String) : String :=
  line s!"aoi: {message}"

def failure (name message : String) : Report :=
  { complaints := complaint s!"{name}: {message}", succeeded := false }

def actionLine : Action → String
  | .send s => line s!"send: {s}"
  | .reply s => line s!"reply: {s}"

/-- The requests of a run, then its value unless there is none. -/
def success (actions : List Action) (value : Value) : Report :=
  { output := String.join (actions.map actionLine) ++
      if value.isUndefined then "" else line value.toText }

def reportOf (name : String) (actions : List Action) : Except ScriptError Value → Report
  | .ok v => success actions v
  | .error e =>
    let r := failure name e.message
    if e.isInternal then
      { r with complaints := r.complaints ++ complaint "internal error, please report it" }
    else r

/-- Answers the same message with every script. -/
def runSource (e : Engine Builtin) (event : MessageEvent) (s : Source) :
    Report × Engine Builtin :=
  match s.text with
  | .error reason => (failure s.name reason, e)
  | .ok text =>
    let context := { e.prepare s.name with event := some event }
    let (outcome, m) := e.runWith Builtin.body context () text
    (reportOf s.name m.world.context.actions outcome, e.resume m)

def runSources (event : MessageEvent) : Engine Builtin → List Source → Report
  | _, [] => {}
  | e, s :: sources =>
    let (report, e) := runSource e event s
    report ++ runSources event e sources

end BracketScript.CommandLine
