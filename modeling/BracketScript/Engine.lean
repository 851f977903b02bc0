import BracketScript.Evaluation

/-! An engine runs any number of scripts. It keeps the root scope, the options that new runs start
with, and the variables that are set at the start of every run. -/

namespace BracketScript

structure Engine (κ : Type) where
  root : Scope κ
  options : Options := {}
  presets : Table Value := Table.empty

namespace Engine

variable {κ σ : Type}

def ofRegistry (entries : List (String × κ)) : Engine κ :=
  { root := Scope.ofRegistry entries }

def withOptions (e : Engine κ) (options : Options) : Engine κ :=
  { e with options := options }

/-- Takes options and further presets from a configuration. -/
def configure (e : Engine κ) (options : Options) (presets : List (String × Value)) : Engine κ :=
  { e with options := options, presets := e.presets.extend presets }

def setPreset (e : Engine κ) (name : String) (value : Value) : Engine κ :=
  { e with presets := e.presets.insert name value }

def prepare (e : Engine κ) (fileName : String) : Context κ :=
  { fileName := fileName, options := e.options, vars := e.presets }

def machine (e : Engine κ) (context : Context κ) (host : σ) : Machine κ σ :=
  { world := ⟨context, e.root, host⟩ }

def compile (e : Engine κ) (source : String) : Except ScriptError Program :=
  BracketScript.compile e.options.strictBrackets source

/-- The engine after a run, which may have changed the root scope. -/
def resume (e : Engine κ) (m : Machine κ σ) : Engine κ :=
  { e with root := m.world.root }

/-- Runs a source in a prepared context. It is parsed under the options of the engine and its result
is trimmed under those of the context. -/
def runWith (bodies : Bodies κ σ) (e : Engine κ) (context : Context κ) (host : σ)
    (source : String) : Except ScriptError Value × Machine κ σ :=
  Run.start (e.machine context host) do
    let program ← MonadExcept.ofExcept (e.compile source)
    runProgram bodies program

def runInput (bodies : Bodies κ σ) (e : Engine κ) (host : σ) (source fileName : String) :
    Except ScriptError Value × Machine κ σ :=
  e.runWith bodies (e.prepare fileName) host source

end Engine

end BracketScript
