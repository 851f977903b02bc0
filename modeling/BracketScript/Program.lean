import BracketScript.Token.Lexer

/-! Building the tree of calls. A call that is followed by an opening bracket reads its arguments up
to the bracket that closes them, and the calls among them do the same. -/

namespace BracketScript

/-- How many calls may be nested in one another, the outermost included. The same bound holds for
the calls active at one time when a script runs. -/
def maxNesting : Nat := 64

namespace Program

/-- What was read at the front of `tokens`, and what is left of them. -/
structure Taken (α : Type) (tokens : List Token) where
  value : α
  rest : List Token
  isSuffix : rest <:+ tokens

namespace Taken

variable {α : Type} {ts ts' : List Token}

def nothing (value : α) : Taken α ts :=
  ⟨value, ts, List.suffix_refl ts⟩

def widen (r : Taken α ts) (h : ts <:+ ts') : Taken α ts' :=
  ⟨r.value, r.rest, r.isSuffix.trans h⟩

theorem length_rest_lt (r : Taken α ts) (t : Token) : r.rest.length < (t :: ts).length :=
  Nat.lt_succ_of_le r.isSuffix.length_le

end Taken

/-- Punctuation that belongs to no group is text unless brackets are strict. -/
def stray (strict : Bool) (p : Span) (mark : Punctuation) : Except ScriptError Token :=
  if strict then .error (.malformed p (.unexpected mark)) else .ok (.text p mark.spelling)

mutual

/-- A token, and if it is the head of a call, the arguments after it. `depth` groups are open around
it. -/
def readToken (strict : Bool) (depth : Nat) :
    Token → (ts : List Token) → Except ScriptError (Taken Token ts)
  | .literal p v, _ => .ok (.nothing (.literal p v))
  | .call p name args, ts =>
    if maxNesting ≤ depth then .error (.malformed p .nestedTooDeep)
    else
      match ts with
      | .punctuation _ .opening :: ts' =>
        match readArguments strict (depth + 1) p [] [] ts' with
        | .ok r => .ok (Taken.widen ⟨.call p name r.value, r.rest, r.isSuffix⟩ (List.suffix_cons _ _))
        | .error e => .error e
      | _ => .ok (.nothing (.call p name args))
  | .punctuation p mark, _ =>
    match stray strict p mark with
    | .ok t => .ok (.nothing t)
    | .error e => .error e
termination_by _ ts => ts.length
decreasing_by exact Nat.lt_succ_self _

/-- The arguments of the call at `p`, whose opening bracket has been read: those before the current
one and the tokens of the current one, both last first, and then what follows. -/
def readArguments (strict : Bool) (depth : Nat) (p : Span) (arguments : List (List Token))
    (current : List Token) : (ts : List Token) → Except ScriptError (Taken (List (List Token)) ts)
  | [] => .error (.malformed p .unclosed)
  | .punctuation _ .closing :: _ =>
    .ok (Taken.widen (.nothing (current.reverse :: arguments).reverse) (List.suffix_cons _ _))
  | .punctuation _ .separator :: ts =>
    match readArguments strict depth p (current.reverse :: arguments) [] ts with
    | .ok r => .ok (r.widen (List.suffix_cons _ _))
    | .error e => .error e
  | t :: ts =>
    match readToken strict depth t ts with
    | .ok node =>
      match readArguments strict depth p arguments (node.value :: current) node.rest with
      | .ok r => .ok (r.widen (node.isSuffix.trans (List.suffix_cons _ _)))
      | .error e => .error e
    | .error e => .error e
termination_by ts => ts.length
decreasing_by
  · exact Nat.lt_succ_self _
  · exact Nat.lt_succ_self _
  · exact node.length_rest_lt t

end

/-- The tokens outside all groups, those before the rest last first. -/
def readAll (strict : Bool) (nodes : List Token) : List Token → Except ScriptError Program
  | [] => .ok nodes.reverse
  | t :: ts =>
    match readToken strict 0 t ts with
    | .ok node => readAll strict (node.value :: nodes) node.rest
    | .error e => .error e
termination_by ts => ts.length
decreasing_by exact node.length_rest_lt t

end Program

def parse (strict : Bool) (tokens : List Token) : Except ScriptError Program :=
  Program.readAll strict [] tokens

def compile (strict : Bool) (source : String) : Except ScriptError Program :=
  (tokenize source).bind (parse strict)

end BracketScript
