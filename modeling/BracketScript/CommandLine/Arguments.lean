/-! The arguments of the command line. Flags are single letters and may be written together; a flag
that takes a text takes the rest of its cluster or, if nothing is left there, the next argument. -/

namespace BracketScript.CommandLine

inductive ConfigChoice where
  /-- The first file found in the usual places. -/
  | search
  | skip
  | file (path : String)
deriving DecidableEq, Repr

inductive TextFlag where
  | script
  | eventText
  | username
deriving DecidableEq, Repr

structure Arguments where
  config : ConfigChoice := .search
  script : Option String := none
  files : List String := []
  eventText : Option String := none
  username : Option String := none
  strict : Bool := false
  noTrim : Bool := false
  debug : Bool := false
deriving DecidableEq, Repr

inductive UsageFault where
  | missingText (flag : TextFlag)
  | unknownFlag (letter : Char)
deriving DecidableEq, Repr

/-- What the next argument is read as. A configuration is taken only if its name says so. -/
inductive Expected where
  | anything
  | text (flag : TextFlag)
  | config
deriving DecidableEq, Repr

namespace TextFlag

def letter : TextFlag → Char
  | script => 'c'
  | eventText => 'e'
  | username => 'u'

def ofLetter? : Char → Option TextFlag
  | 'c' => some script
  | 'e' => some eventText
  | 'u' => some username
  | _ => none

end TextFlag

def UsageFault.message : UsageFault → String
  | missingText flag => s!"-{flag.letter} requires an argument"
  | unknownFlag letter => s!"unknown option: -{letter}"

def isConfigName (s : String) : Bool :=
  ".toml".toList.isSuffixOf s.toList

namespace Arguments

def isEmpty (a : Arguments) : Bool :=
  a.script.isNone && a.files.isEmpty

/-- A later text replaces an earlier one. -/
def setText (a : Arguments) (s : String) : TextFlag → Arguments
  | .script => { a with script := some s }
  | .eventText => { a with eventText := some s }
  | .username => { a with username := some s }

def readCluster (a : Arguments) : List Char → Except UsageFault (Arguments × Expected)
  | [] => .ok (a, .anything)
  | 's' :: letters => readCluster { a with strict := true } letters
  | 'T' :: letters => readCluster { a with noTrim := true } letters
  | 'd' :: letters => readCluster { a with debug := true } letters
  | ['C'] => .ok ({ a with config := .skip }, .config)
  | 'C' :: path => .ok ({ a with config := .file (String.ofList path) }, .anything)
  | letter :: rest =>
    match TextFlag.ofLetter? letter with
    | none => .error (.unknownFlag letter)
    | some flag =>
      if rest.isEmpty then .ok (a, .text flag)
      else .ok (a.setText (String.ofList rest) flag, .anything)

def readFrom (a : Arguments) : Expected → List String → Except UsageFault Arguments
  | .text flag, [] => .error (.missingText flag)
  | _, [] => .ok a
  | .text flag, s :: args => readFrom (a.setText s flag) .anything args
  | expected, s :: args =>
    if expected = .config ∧ isConfigName s then
      readFrom { a with config := .file s } .anything args
    else if s = "--" then .ok { a with files := a.files ++ args }
    else
      match s.toList with
      | '-' :: c :: letters => do
        let (a, expected) ← readCluster a (c :: letters)
        readFrom a expected args
      | _ => readFrom { a with files := a.files ++ [s] } .anything args

def read (args : List String) : Except UsageFault Arguments :=
  readFrom {} .anything args

end Arguments

end BracketScript.CommandLine
