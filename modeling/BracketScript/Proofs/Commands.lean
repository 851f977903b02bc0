import BracketScript.Proofs.EscapedText
import BracketScript.Proofs.Slots

/-! Scripts that are calls one after the other, with escaped texts as arguments. Each text arrives
as an argument of its own, whatever is in it. -/

namespace BracketScript

namespace Lexer

theorem endsInEscape_escape (s : List Char) : endsInEscape (escape s) = false := by
  induction s with
  | nil => rfl
  | cons c s ih =>
    by_cases hc : c ∈ escapable
    · rw [escape_cons_of_mem hc]
      exact ih
    · have hne : c ≠ '\\' := fun he => hc (by simp [he, escapable])
      rw [escape, if_neg hc, endsInEscape_cons hne, ih]

end Lexer

/-- The tokens of an escaped text, wherever it stands. -/
def IsEscaped (s : String) (arg : List Token) : Prop :=
  ∃ p, arg = Lexer.tokensAt p (Lexer.escape s.toList)

theorem IsEscaped.literal {s : String} {arg : List Token} (h : IsEscaped s arg) :
    ∀ t ∈ arg, ∃ p v, t = .literal p v := by
  obtain ⟨p, rfl⟩ := h
  exact fun t ht => (Lexer.isDatum_tokensAt_escape p s.toList t ht).literal

theorem IsEscaped.ne_nil {s : String} {arg : List Token} (h : IsEscaped s arg) (hs : s ≠ "") :
    arg ≠ [] := by
  obtain ⟨p, rfl⟩ := h
  exact tokensAt_escape_ne_nil p hs

/-- A call by its name, without the dollar sign, with what its arguments say. -/
structure Command where
  name : String
  texts : List String

namespace Command

def source (c : Command) : String :=
  "$" ++ c.name ++ "[" ++ ";".intercalate (c.texts.map escapeText) ++ "]"

structure WellFormed (c : Command) : Prop where
  named : c.name ≠ ""
  chars : ∀ d ∈ c.name.toList, Lexer.isNameChar d = true
  given : c.texts ≠ []

/-- The call that a command is read as. -/
def Stands (c : Command) (t : Token) : Prop :=
  ∃ p args, t = .call p ("$" ++ c.name) args ∧ List.Forall₂ IsEscaped c.texts args

theorem toList_source (c : Command) (rest : List Char) :
    c.source.toList ++ rest = '$' :: (c.name.toList ++ '[' ::
      ([';'].intercalate (c.texts.map fun s => Lexer.escape s.toList) ++ ']' :: rest)) := by
  have hescape : (String.toList ∘ escapeText) = fun s => Lexer.escape s.toList :=
    funext fun s => String.toList_ofList
  simp [source, hescape]

end Command

namespace Program

/-- Escaped texts between the brackets of a call are its arguments. -/
theorem read_escaped (strict : Bool) (q : Span) (name : String) (outer : List Token)
    {texts : List String} (hne : texts ≠ []) (arguments : List (List Token)) (p : Span)
    (rest : List Char) :
    ∃ args p', List.Forall₂ IsEscaped texts args ∧
      read strict ⟨[⟨q, name, arguments, []⟩], outer, none⟩ (Lexer.tokensAt p
        ([';'].intercalate (texts.map fun s => Lexer.escape s.toList) ++ ']' :: rest)) =
      read strict ⟨[], .call q name (arguments.reverse ++ args) :: outer, none⟩
        (Lexer.tokensAt p' rest) := by
  induction texts generalizing arguments p with
  | nil => exact absurd rfl hne
  | cons s texts ih =>
    have hends := Lexer.endsInEscape_escape s.toList
    have harg : IsEscaped s (Lexer.tokensAt p (Lexer.escape s.toList)) := ⟨p, rfl⟩
    have hread := read_literals strict ⟨q, name, arguments, []⟩ [] outer harg.literal
    simp only [List.append_nil] at hread
    cases texts with
    | nil =>
      refine ⟨[_], (p.after (Lexer.escape s.toList)).after [']'], .cons harg .nil, ?_⟩
      rw [List.map_singleton, List.intercalate_singleton,
        Lexer.tokensAt_append_of_endsSlot p hends (.inl rfl) (fun _ => rfl), hread,
        ← List.reverse_cons]
      exact congrArg (fun arg => read strict
        ⟨[], .call q name (arg :: arguments).reverse :: outer, none⟩ _) (List.reverse_reverse _)
    | cons s' texts =>
      obtain ⟨args, p', hargs, hrest⟩ := ih (List.cons_ne_nil _ _)
        (Lexer.tokensAt p (Lexer.escape s.toList) :: arguments)
        ((p.after (Lexer.escape s.toList)).after [';'])
      refine ⟨_ :: args, p', .cons harg hargs, ?_⟩
      rw [List.reverse_cons, List.append_assoc, List.singleton_append] at hrest
      rw [← hrest, List.map_cons, List.map_cons, List.intercalate_cons_cons, List.append_assoc,
        List.append_assoc, List.singleton_append,
        Lexer.tokensAt_append_of_endsSlot p hends (.inr rfl) (fun _ => rfl), hread]
      exact congrArg (fun arg => read strict
        ⟨[⟨q, name, arg :: arguments, []⟩], outer, none⟩ _) (List.reverse_reverse _)

theorem read_command (strict : Bool) (outer : List Token) {c : Command} (hc : c.WellFormed)
    (p : Span) (rest : List Char) :
    ∃ t p', c.Stands t ∧
      read strict ⟨[], outer, none⟩ (Lexer.tokensAt p (c.source.toList ++ rest)) =
        read strict ⟨[], t :: outer, none⟩ (Lexer.tokensAt p' rest) := by
  have hnil : c.name.toList ≠ [] := by simpa using hc.named
  have hhead : String.ofList ('$' :: c.name.toList) = "$" ++ c.name := by
    rw [← String.toList_inj]
    simp
  obtain ⟨q, q', htokens⟩ := Lexer.tokensAt_opening hnil hc.chars p
    ([';'].intercalate (c.texts.map fun s => Lexer.escape s.toList) ++ ']' :: rest)
  obtain ⟨args, p', hargs, hread⟩ :=
    read_escaped strict p ("$" ++ c.name) outer hc.given [] q' rest
  refine ⟨_, p', ⟨p, args, rfl, hargs⟩, ?_⟩
  rw [c.toList_source, htokens, hhead]
  exact hread

theorem read_commands (strict : Bool) (outer : List Token) {commands : List Command}
    (hc : ∀ c ∈ commands, c.WellFormed) (p : Span) :
    ∃ program, List.Forall₂ Command.Stands commands program ∧
      read strict ⟨[], outer, none⟩
        (Lexer.tokensAt p (commands.flatMap fun c => c.source.toList)) =
      .ok (outer.reverse ++ program) := by
  induction commands generalizing outer p with
  | nil =>
    refine ⟨[], .nil, ?_⟩
    rw [List.flatMap_nil, Lexer.tokensAt_nil, List.append_nil]
    rfl
  | cons c commands ih =>
    have ⟨hfirst, hothers⟩ := List.forall_mem_cons.mp hc
    obtain ⟨t, p', ht, hread⟩ := read_command strict outer hfirst p
      (commands.flatMap fun c => c.source.toList)
    obtain ⟨program, hprogram, hrest⟩ := ih (t :: outer) hothers p'
    refine ⟨t :: program, .cons ht hprogram, ?_⟩
    rw [List.flatMap_cons, hread, hrest, List.reverse_cons, List.append_assoc]
    rfl

end Program

theorem compile_commands (strict : Bool) {commands : List Command} (hne : commands ≠ [])
    (hc : ∀ c ∈ commands, c.WellFormed) :
    ∃ program, List.Forall₂ Command.Stands commands program ∧
      compile strict (String.join (commands.map Command.source)) = .ok program := by
  have hlist : (String.join (commands.map Command.source)).toList =
      commands.flatMap fun c => c.source.toList := by
    rw [String.toList_join, List.flatMap_map]
  have hsource : String.join (commands.map Command.source) ≠ "" := by
    obtain ⟨c, commands, rfl⟩ := List.exists_cons_of_ne_nil hne
    intro he
    rw [he, List.flatMap_cons, c.toList_source] at hlist
    cases hlist
  obtain ⟨program, hprogram, hread⟩ := Program.read_commands strict [] hc .start
  refine ⟨program, hprogram, ?_⟩
  rw [compile_of_tokenize (tokenize_eq_tokensAt hsource), hlist, parse_eq_read]
  exact hread

end BracketScript
