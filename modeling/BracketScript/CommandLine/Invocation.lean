import BracketScript.CommandLine.Batch
import BracketScript.Configuration

/-! One invocation of the command line, from its arguments to what it prints. Files and the standard
input are reached through `Surroundings`, in any monad. -/

namespace BracketScript.CommandLine

/-- Access to the outside. An access that fails gives its reason. -/
structure Surroundings (m : Type → Type) where
  fileText : String → m (Except String String)
  fileExists : String → m Bool
  inputText : m (Except String String)
  home : m (Option String)

def usage : List String :=
  ["Usage: aoi [-sTd] [-C[<config>]] [-e<text>] [-u<user>] [-c<script>] [<file>...]",
   "  -C<config>   load <config>; `-C <config>` works only for names ending in .toml",
   "  -C           skip config files"]

def UsageFault.report (fault : UsageFault) : Report :=
  { complaints := complaint fault.message ++ String.join (usage.map line), succeeded := false }

def joinPath (directory file : String) : String :=
  if directory.isEmpty || directory.back = '/' then directory ++ file
  else s!"{directory}/{file}"

namespace Surroundings

variable {m : Type → Type} [Monad m] (S : Surroundings m)

/-- The first configuration file that exists in the usual places. -/
def findConfig : m (Option String) := do
  if ← S.fileExists "./aoi.toml" then return some "./aoi.toml"
  match ← S.home with
  | none => return none
  | some home =>
    let path := joinPath home ".aoi.toml"
    return if ← S.fileExists path then some path else none

/-- The configuration in a file, if it is usable, and the complaints about it. -/
def loadConfig (path : String) : m (Option Configuration × String) := do
  match ← S.fileText path with
  | .error reason => return (none, complaint s!"cannot read {path}: {reason}")
  | .ok text =>
    match Configuration.read? text with
    | none => return (none, complaint "invalid config")
    | some (config, warnings) =>
      let complaints := warnings.map fun w => complaint s!"warning: {path}: {w.toText}"
      return (some config, String.join complaints)

/-- The configuration to use. One that has been asked for must be usable, one that has been found
gives way to the defaults. -/
def chooseConfig : ConfigChoice → m (Option Configuration × String)
  | .skip => return (some {}, "")
  | .file path => S.loadConfig path
  | .search => do
    match ← S.findConfig with
    | none => return (some {}, "")
    | some path =>
      let (config?, complaints) ← S.loadConfig path
      return (some (config?.getD {}), complaints)

/-- The text of a script. The standard input is empty once it has been read to its end. -/
def readOrigin (inputRead : Bool) : Origin → m (Except String String)
  | .command text => return .ok text
  | .input => if inputRead then return .ok "" else S.inputText
  | .file path => S.fileText path

/-- Reads all scripts, in order, before any of them runs. -/
def gather : (inputRead : Bool) → List Origin → m (List Source)
  | _, [] => return []
  | inputRead, origin :: origins => do
    let text ← S.readOrigin inputRead origin
    return ⟨origin.name, text⟩ :: (← gather (inputRead || origin = .input) origins)

end Surroundings

/-- The options in force: flags go before the configuration. -/
def Arguments.options (a : Arguments) (config : Configuration) : Options where
  strictBrackets := a.strict || config.options.strictBrackets
  trimOutput := !a.noTrim && config.options.trimOutput

def Arguments.engine (a : Arguments) (config : Configuration) : Engine Builtin :=
  ((Engine.ofRegistry Builtin.registry).configure config.options config.vars).withOptions
    (a.options config)

/-- The message that the scripts answer; there always is one. -/
def Arguments.event (a : Arguments) : MessageEvent :=
  ⟨a.eventText.getD "", a.username⟩

def runArguments {m : Type → Type} [Monad m] (S : Surroundings m) (a : Arguments) : m Report := do
  match ← S.chooseConfig a.config with
  | (none, complaints) => return { complaints := complaints, succeeded := false }
  | (some config, complaints) =>
    let sources ← S.gather false a.origins
    return { complaints := complaints : Report } ++ runSources a.event (a.engine config) sources

def run {m : Type → Type} [Monad m] (S : Surroundings m) (args : List String) : m Report :=
  match Arguments.read args with
  | .error fault => return fault.report
  | .ok a => runArguments S a

end BracketScript.CommandLine
