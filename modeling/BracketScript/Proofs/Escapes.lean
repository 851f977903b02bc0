import Mathlib
import BracketScript.Token.Lexer

/-! What a stretch of a source says once the backslashes that escape something are taken out. -/

namespace BracketScript.Lexer

/-- The characters that a backslash makes literal. -/
def escapable : List Char :=
  ['[', ']', '\\', ';', '$', '!', '=', '<', '>']

/-- Takes out each backslash that stands before an escapable character, from left to right. -/
def unescape : List Char → List Char
  | [] => []
  | '\\' :: c :: s => if c ∈ escapable then c :: unescape s else '\\' :: unescape (c :: s)
  | c :: s => c :: unescape s

theorem isEscapable_iff {c : Char} : isEscapable c = true ↔ c ∈ escapable := by
  simp [isEscapable, isMark, isOperatorChar, escapable]
  grind

theorem unescape_cons {c : Char} (h : c ≠ '\\') (s : List Char) :
    unescape (c :: s) = c :: unescape s := by
  rw [unescape]
  exact fun d t hc => absurd hc h

theorem unescape_append_of_plain {s : List Char} (h : ∀ c ∈ s, c ≠ '\\') (t : List Char) :
    unescape (s ++ t) = s ++ unescape t := by
  induction s with
  | nil => rfl
  | cons c s ih =>
    have ⟨hc, hs⟩ := List.forall_mem_cons.mp h
    rw [List.cons_append, unescape_cons hc, ih hs, List.cons_append]

theorem unescape_of_plain {s : List Char} (h : ∀ c ∈ s, c ≠ '\\') : unescape s = s := by
  simpa [unescape] using unescape_append_of_plain h []

/-- A stretch that no following text can change, as it does not end in a backslash that may escape
what comes next. -/
def Closed (s : List Char) : Prop :=
  ∀ t, unescape (s ++ t) = unescape s ++ unescape t

theorem closed_of_plain {s : List Char} (h : ∀ c ∈ s, c ≠ '\\') : Closed s := by
  intro t
  rw [unescape_append_of_plain h, unescape_of_plain h]

theorem Closed.append {s t : List Char} (hs : Closed s) (ht : Closed t) : Closed (s ++ t) := by
  intro u
  rw [List.append_assoc, hs, ht, hs, List.append_assoc]

theorem unescape_escaped (c : Char) (s : List Char) :
    unescape ('\\' :: c :: s) = (if c ∈ escapable then [c] else ['\\', c]) ++ unescape s := by
  rw [unescape]
  split
  · rfl
  · rename_i h
    have hc : c ≠ '\\' := fun he => h (by simp [he, escapable])
    rw [unescape_cons hc]
    rfl

theorem unescape_pair (c : Char) :
    unescape ['\\', c] = if c ∈ escapable then [c] else ['\\', c] := by
  rw [unescape_escaped]
  exact List.append_nil _

theorem closed_escaped (c : Char) : Closed ['\\', c] := by
  intro t
  rw [List.cons_append, List.singleton_append, unescape_escaped, unescape_pair]

end BracketScript.Lexer
