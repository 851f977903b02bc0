import BracketScript.Error

/-! Cutting a script into tokens. Every source but the empty one can be cut: a dollar sign, an
exclamation mark or an equals sign that begins nothing is text. -/

namespace BracketScript

namespace Lexer

/-- Characters with a meaning of their own. -/
def isMark (c : Char) : Bool :=
  c == '[' || c == ']' || c == '\\' || c == ';' || c == '$'

def isOperatorChar (c : Char) : Bool :=
  c == '!' || c == '=' || c == '<' || c == '>'

/-- What a backslash makes literal. -/
def isEscapable (c : Char) : Bool :=
  isMark c || isOperatorChar c

def isNameChar (c : Char) : Bool :=
  ('a' ≤ c && c ≤ 'z') || ('A' ≤ c && c ≤ 'Z') || c == '_'

def isPlain (c : Char) : Bool :=
  !isEscapable c

/-- What one token says, before it has a place. -/
inductive Lexeme where
  | literal (value : Literal)
  | head (name : String)
  | punctuation (mark : Punctuation)
deriving DecidableEq

def Lexeme.text (s : List Char) : Lexeme :=
  literal (.text (String.ofList s))

def Lexeme.toToken (p : Span) : Lexeme → Token
  | literal v => .literal p v
  | head name => .call p name []
  | punctuation m => .punctuation p m

/-- A run of plain characters is a number if it is the canonical notation of one. -/
def plainLexeme (run : List Char) : Lexeme :=
  match Decimal.readWord? run with
  | some n => .literal (.number n)
  | none => .text run

def operatorOf? (s : List Char) : Option Operator :=
  Operator.ofSpelling? (String.ofList s)

/-- An operator of two characters goes before one of one character. -/
def operatorLexeme (c : Char) (rest : List Char) : Lexeme × Nat :=
  match operatorOf? (c :: rest.take 1) with
  | some op => (.literal (.operator op), rest.take 1 |>.length)
  | none =>
    match operatorOf? [c] with
    | some op => (.literal (.operator op), 0)
    | none => (.text [c], 0)

def escapeLexeme : List Char → Lexeme × Nat
  | [] => (.text ['\\'], 0)
  | d :: _ => (.text (if isEscapable d then [d] else ['\\', d]), 1)

def dollarLexeme (rest : List Char) : Lexeme × Nat :=
  match rest.takeWhile isNameChar with
  | [] => (.text ['$'], 0)
  | name => (.head (String.ofList ('$' :: name)), name.length)

/-- The token that begins with `c`, and how many characters after `c` belong to it. -/
def lexeme (c : Char) (rest : List Char) : Lexeme × Nat :=
  if c = '[' then (.punctuation .opening, 0)
  else if c = ']' then (.punctuation .closing, 0)
  else if c = ';' then (.punctuation .separator, 0)
  else if c = '\\' then escapeLexeme rest
  else if c = '$' then dollarLexeme rest
  else if isOperatorChar c then operatorLexeme c rest
  else
    let run := rest.takeWhile isPlain
    (plainLexeme (c :: run), run.length)

def scan (p : Span) : List Char → List Token
  | [] => []
  | c :: rest =>
    let (said, taken) := lexeme c rest
    said.toToken p :: scan (p.after (c :: rest.take taken)) (rest.drop taken)
termination_by s => s.length
decreasing_by simp only [List.length_drop, List.length_cons]; omega

/-- Joins texts that follow one another; the first gives the place. -/
def mergeTexts : List Token → List Token
  | [] => []
  | .literal p (.text s) :: ts =>
    match mergeTexts ts with
    | .literal _ (.text s') :: ts' => Token.text p (s ++ s') :: ts'
    | ts' => Token.text p s :: ts'
  | t :: ts => t :: mergeTexts ts

end Lexer

def tokenize (source : String) : Except ScriptError (List Token) :=
  if source.isEmpty then .error .emptySource
  else .ok (Lexer.mergeTexts (Lexer.scan .start source.toList))

end BracketScript
