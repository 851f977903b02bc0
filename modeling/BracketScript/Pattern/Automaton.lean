import BracketScript.Pattern.Expr

/-! Patterns as instructions. Of a split the first branch goes before the second. -/

namespace BracketScript.Pattern

inductive Instr where
  | accept
  | set (s : CharSet) (next : Nat)
  | look (l : Look) (next : Nat)
  | save (slot : Nat) (next : Nat)
  | split (first second : Nat)

abbrev Code := Array Instr

/-- Where an expression begins, and the instructions so far. -/
structure Compiled where
  entry : Nat
  code : Code

namespace Compiled

def prepend (c : Compiled) (i : Instr) : Compiled :=
  ⟨c.code.size, c.code.push i⟩

end Compiled

def choice (greedy : Bool) (on off : Nat) : Instr :=
  if greedy then .split on off else .split off on

abbrev Compiler := Nat → Code → Compiled

def copies (body : Compiler) : Nat → Compiler
  | 0, next, code => ⟨next, code⟩
  | n + 1, next, code =>
    let rest := copies body n next code
    body rest.entry rest.code

/-- The body up to `n` times. Every copy may be left for `next` at once. -/
def optionals (body : Compiler) (greedy : Bool) (next : Nat) : Nat → Code → Compiled
  | 0, code => ⟨next, code⟩
  | n + 1, code =>
    let rest := optionals body greedy next n code
    let inner := body rest.entry rest.code
    inner.prepend (choice greedy inner.entry next)

/-- The body once or more. After it comes the choice whether to go back to its beginning; the
second result is where that choice stands. -/
def plus (body : Compiler) (greedy : Bool) (next : Nat) (code : Code) : Compiled × Nat :=
  let loop := code.size
  let inner := body loop (code.push (.split next next))
  (⟨inner.entry, inner.code.setIfInBounds loop (choice greedy inner.entry next)⟩, loop)

/-- The body any number of times. Where it may be empty, the choice before the first time is not
the one between two times. -/
def star (body : Compiler) (nullable greedy : Bool) (next : Nat) (code : Code) : Compiled :=
  let (inner, loop) := plus body greedy next code
  if nullable then inner.prepend (choice greedy inner.entry next) else ⟨loop, inner.code⟩

def compileExpr : Expr → Compiler
  | .empty, next, code => ⟨next, code⟩
  | .set s, next, code => Compiled.prepend ⟨next, code⟩ (.set s next)
  | .look l, next, code => Compiled.prepend ⟨next, code⟩ (.look l next)
  | .group i e, next, code =>
    let last := Compiled.prepend ⟨next, code⟩ (.save (2 * i + 1) next)
    let inner := compileExpr e last.entry last.code
    inner.prepend (.save (2 * i) inner.entry)
  | .concat a b, next, code =>
    let rest := compileExpr b next code
    compileExpr a rest.entry rest.code
  | .alternate a b, next, code =>
    let second := compileExpr b next code
    let first := compileExpr a next second.code
    first.prepend (.split first.entry second.entry)
  | .repetition min max greedy e, next, code =>
    match min, max with
    | min, some max =>
      let rest := optionals (compileExpr e) greedy next (max - min) code
      copies (compileExpr e) min rest.entry rest.code
    | 0, none => star (compileExpr e) e.isNullable greedy next code
    | min + 1, none =>
      let (last, _) := plus (compileExpr e) greedy next code
      copies (compileExpr e) min last.entry last.code

/-- The whole match is the group with number zero. -/
def compile (e : Expr) : Compiled :=
  compileExpr (.group 0 e) 0 #[.accept]

/-- The room that an expression takes when compiled, in bytes, without compiling it. -/
def weight : Expr → Nat
  | .empty => 0
  | .set (.ranges [(low, high)]) =>
    if low = high then 32 * (Char.ofNat low).utf8Size else if high < 128 then 32 else 92
  | .set s => 32 + 60 * s.rangeCount
  | .look _ => 32
  | .group _ e => 64 + weight e
  | .concat a b => weight a + weight b
  | .alternate a b => 48 + weight a + weight b
  | .repetition min max _ e => (max.getD (min + 1)) * (48 + weight e) + 48

/-- Patterns that would take more are refused. -/
def weightLimit : Nat := 10 * 1024 * 1024

end BracketScript.Pattern
