import BracketScript.Error
import BracketScript.Table
import BracketScript.Text.Case

/-! Names of functions and the scopes that bind them. Names are compared without regard to blanks
around them, a dollar sign in front, or the case of the letters `A` to `Z`. -/

namespace BracketScript

/-- The form under which a name is bound and looked up. -/
def normalName (name : String) : String :=
  let bare :=
    match Text.trimChars name.toList with
    | '$' :: rest => rest
    | rest => rest
  String.ofList ('$' :: Text.lowerAscii bare)

/-- One scope: what each normal name is bound to. -/
abbrev Scope (κ : Type) := Table κ

namespace Scope

variable {κ : Type}

def find? (s : Scope κ) (name : String) : Option κ :=
  s.get? (normalName name)

def has (s : Scope κ) (name : String) : Bool :=
  (s.find? name).isSome

def bind (s : Scope κ) (name : String) (code : κ) : Scope κ :=
  s.insert (normalName name) code

def unbind (s : Scope κ) (name : String) : Scope κ :=
  s.erase (normalName name)

/-- Binds the entries of a registry in order, so that of several under one name the last stays. -/
def ofRegistry (entries : List (String × κ)) : Scope κ :=
  entries.foldl (fun s e => s.bind e.1 e.2) Table.empty

end Scope

/-- The binding in the innermost scope of a chain that has one. -/
def lookup? {κ : Type} (chain : List (Scope κ)) (name : String) : Option κ :=
  chain.findSome? (·.find? name)

def resolve {κ : Type} (chain : List (Scope κ)) (name : String) : Except ScriptError κ :=
  match lookup? chain name with
  | some code => .ok code
  | none => .error (.unknownFunction name)

end BracketScript
