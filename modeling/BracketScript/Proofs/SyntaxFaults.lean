import BracketScript.Proofs.GroupStack
import BracketScript.Proofs.Nesting

/-! Which error a token stream is refused with: that of the first token that cannot stand where it
does, and if there is none, that of the innermost group left open. -/

namespace BracketScript

/-- What one pass over a token stream knows: the calls whose groups are open, the innermost first,
and the call that stands just before, if one does. -/
structure Pass where
  groups : List Span
  head : Option Span

namespace Pass

def start : Pass := ⟨[], none⟩

def step (s : Pass) : Token → Pass
  | .literal .. => ⟨s.groups, none⟩
  | .call p _ _ => ⟨s.groups, some p⟩
  | .punctuation _ .opening =>
    match s.head with
    | some p => ⟨p :: s.groups, none⟩
    | none => s
  | .punctuation _ .closing => ⟨s.groups.tail, none⟩
  | .punctuation _ .separator => ⟨s.groups, none⟩

def after (s : Pass) (tokens : List Token) : Pass :=
  tokens.foldl step s

/-- A bracket that opens no group, or punctuation outside all groups. -/
def isStray (s : Pass) : Punctuation → Bool
  | .opening => s.head.isNone
  | .closing | .separator => s.groups.isEmpty

/-- Why a token cannot stand after what has been passed. -/
def complaint? (strict : Bool) (s : Pass) : Token → Option String
  | .literal .. => none
  | .call .. => if maxNesting ≤ s.groups.length then some "nesting too deep" else none
  | .punctuation p mark =>
    if strict && s.isStray mark then some s!"Unexpected token of type {mark.kind} at {p.toText}"
    else none

def Accepts (strict : Bool) (s : Pass) (tokens : List Token) : Prop :=
  ∀ before t rest, tokens = before ++ t :: rest → (s.after before).complaint? strict t = none

@[simp] theorem after_nil (s : Pass) : s.after [] = s := rfl

@[simp] theorem after_cons (s : Pass) (t : Token) (ts : List Token) :
    s.after (t :: ts) = (s.step t).after ts := rfl

@[simp] theorem accepts_nil (strict : Bool) (s : Pass) : s.Accepts strict [] := by
  intro before t rest he
  simp at he

theorem accepts_cons {strict : Bool} {s : Pass} {t : Token} {ts : List Token} :
    s.Accepts strict (t :: ts) ↔ s.complaint? strict t = none ∧ (s.step t).Accepts strict ts := by
  constructor
  · intro h
    exact ⟨h [] t ts rfl, fun before u rest he => h (t :: before) u rest (congrArg (t :: ·) he)⟩
  · rintro ⟨ht, hs⟩ before u rest he
    cases before with
    | nil =>
      obtain ⟨rfl, -⟩ := List.cons.inj he
      exact ht
    | cons v before =>
      obtain ⟨rfl, htail⟩ := List.cons.inj he
      exact hs before u rest htail

end Pass

/-- The outcome is a syntax error with this place and text. -/
def Refuses {α : Type} (outcome : Except ScriptError α) (p : Span) (text : String) : Prop :=
  ∃ fault : SyntaxFault, outcome = .error (.malformed p fault) ∧ fault.message p = text

namespace Program

/-- What the pass knows where the tree has been read so far. -/
def Reading.pass (r : Reading) : Pass :=
  ⟨r.groups.map Group.span, r.head.map Call.span⟩

namespace Reading

theorem pass_add (r : Reading) (t : Token) : (r.add t).pass = r.pass := by
  simp only [pass, map_span_add, add_head]

theorem pass_settle (r : Reading) : r.settle.pass = ⟨r.pass.groups, none⟩ := by
  simp only [pass, map_span_settle, settle_head, Option.map_none]

theorem addStray_spec (strict : Bool) (r : Reading) (p : Span) (mark : Punctuation) :
    if strict then
      Refuses (r.addStray strict p mark) p s!"Unexpected token of type {mark.kind} at {p.toText}"
    else ∃ r', r.addStray strict p mark = .ok r' ∧ r'.pass = r.pass := by
  cases strict with
  | true => exact ⟨.unexpected mark, rfl, rfl⟩
  | false => exact ⟨_, rfl, pass_add r _⟩

theorem step_spec (strict : Bool) (r : Reading) (t : Token) :
    match r.pass.complaint? strict t with
    | some text => Refuses (r.step strict t) t.span text
    | none => ∃ r', r.step strict t = .ok r' ∧ r'.pass = r.pass.step t := by
  cases t with
  | literal p v => exact ⟨_, rfl, by rw [pass_add, pass_settle]; rfl⟩
  | call p name args =>
    have hl : r.pass.groups.length = r.groups.length := List.length_map _
    by_cases hd : maxNesting ≤ r.groups.length
    · simp only [Pass.complaint?, hl, hd, if_true]
      exact ⟨.nestedTooDeep, by rw [step, if_pos hd]; rfl, rfl⟩
    · simp only [Pass.complaint?, hl, hd, if_false]
      refine ⟨_, by rw [step, if_neg hd], ?_⟩
      simp only [pass, map_span_settle, Pass.step, Option.map_some]
  | punctuation p mark =>
    obtain ⟨groups, outer, head⟩ := r
    have hs := addStray_spec strict (settle ⟨groups, outer, head⟩) p mark
    rw [pass_settle] at hs
    cases mark with
    | opening =>
      cases head with
      | some call => cases strict <;> exact ⟨_, rfl, rfl⟩
      | none => cases strict <;> exact hs
    | closing =>
      cases groups with
      | nil => cases strict <;> cases head <;> exact hs
      | cons g gs => cases strict <;> cases head <;> exact ⟨_, rfl, pass_add _ _⟩
    | separator =>
      cases groups with
      | nil => cases strict <;> cases head <;> exact hs
      | cons g gs => cases strict <;> cases head <;> exact ⟨_, rfl, rfl⟩

theorem step_ok {strict : Bool} {r r' : Reading} {t : Token} (h : r.step strict t = .ok r') :
    r.pass.complaint? strict t = none ∧ r'.pass = r.pass.step t := by
  have hs := step_spec strict r t
  cases hc : r.pass.complaint? strict t with
  | none =>
    rw [hc] at hs
    obtain ⟨r'', hr, hp⟩ := hs
    obtain rfl := Except.ok.inj (h.symm.trans hr)
    exact ⟨rfl, hp⟩
  | some text =>
    rw [hc] at hs
    obtain ⟨fault, he, -⟩ := hs
    cases h.symm.trans he

theorem finish_spec (r : Reading) :
    match r.pass.groups with
    | p :: _ => Refuses r.finish p "Expected ']', got none"
    | [] => ∃ program, r.finish = .ok program := by
  have hs : r.settle.groups.map Group.span = r.pass.groups := map_span_settle r
  rw [← hs]
  cases hg : r.settle.groups with
  | nil => exact ⟨r.settle.outer.reverse, by rw [finish, hg]⟩
  | cons g gs => exact ⟨.unclosed, by rw [finish, hg], rfl⟩

end Reading

theorem read_accepted {strict : Bool} {r : Reading} {before : List Token}
    (h : r.pass.Accepts strict before) (rest : List Token) :
    ∃ r', read strict r (before ++ rest) = read strict r' rest ∧
      r'.pass = r.pass.after before := by
  induction before generalizing r with
  | nil => exact ⟨r, rfl, rfl⟩
  | cons t ts ih =>
    obtain ⟨hc, ht⟩ := Pass.accepts_cons.mp h
    have hs := Reading.step_spec strict r t
    rw [hc] at hs
    obtain ⟨r', hr, hp⟩ := hs
    rw [← hp] at ht
    obtain ⟨r'', hr', hp'⟩ := ih ht
    refine ⟨r'', ?_, by rw [hp', hp, Pass.after_cons]⟩
    rw [List.cons_append, read, hr]
    exact hr'

theorem read_refuses {strict : Bool} {r : Reading} {before rest : List Token} {t : Token}
    {text : String} (h : r.pass.Accepts strict before)
    (ht : (r.pass.after before).complaint? strict t = some text) :
    Refuses (read strict r (before ++ t :: rest)) t.span text := by
  obtain ⟨r', hr, hp⟩ := read_accepted h (t :: rest)
  have hs := Reading.step_spec strict r' t
  rw [hp, ht] at hs
  obtain ⟨fault, he, hm⟩ := hs
  exact ⟨fault, by rw [hr, read, he], hm⟩

theorem read_spec_of_accepts {strict : Bool} {r : Reading} {tokens : List Token}
    (h : r.pass.Accepts strict tokens) :
    match (r.pass.after tokens).groups with
    | p :: _ => Refuses (read strict r tokens) p "Expected ']', got none"
    | [] => ∃ program, read strict r tokens = .ok program := by
  obtain ⟨r', hr, hp⟩ := read_accepted h []
  rw [List.append_nil] at hr
  rw [hr, ← hp]
  exact r'.finish_spec

end Program

/-- The error of the first offending token, else that of the innermost call left open, else none.
What is accepted nests no deeper than the reader recurses. -/
theorem parse_outcome (strict : Bool) (tokens : List Token) :
    (∀ before t rest text, tokens = before ++ t :: rest → Pass.start.Accepts strict before →
      (Pass.start.after before).complaint? strict t = some text →
      Refuses (parse strict tokens) t.span text) ∧
    (Pass.start.Accepts strict tokens →
      match (Pass.start.after tokens).groups with
      | p :: _ => Refuses (parse strict tokens) p "Expected ']', got none"
      | [] => ∃ program, parse strict tokens = .ok program) ∧
    ((∀ t ∈ tokens, t.IsBare) →
      ∀ program, parse strict tokens = .ok program → program.nesting ≤ maxNesting) ∧
    ∀ n i, Program.Invoked strict tokens n i → i.depth = n ∧ n ≤ maxNesting := by
  refine ⟨?_, ?_, ?_, ?_⟩
  · rintro before t rest text rfl ha ht
    rw [parse_eq_read]
    exact Program.read_refuses ha ht
  · intro ha
    rw [parse_eq_read]
    exact Program.read_spec_of_accepts (r := .start) ha
  · intro hb program h
    exact Program.readAll_nesting hb (Nat.zero_le _) h
  · intro n i h
    exact h.depth_eq

/-- The tokens of `$a[$b[`, of `$a[];` with strict brackets, and of `$a[]`. -/
theorem parse_outcome_brackets :
    (let heads : List Token := [.call ⟨1, 1⟩ "$a" [], .punctuation ⟨1, 3⟩ .opening,
      .call ⟨1, 4⟩ "$b" [], .punctuation ⟨1, 6⟩ .opening]
    Pass.start.Accepts false heads ∧ Refuses (parse false heads) ⟨1, 4⟩ "Expected ']', got none") ∧
    (let group : List Token := [.call ⟨1, 1⟩ "$a" [], .punctuation ⟨1, 3⟩ .opening,
      .punctuation ⟨1, 4⟩ .closing]
    Pass.start.Accepts true group ∧
      Refuses (parse true (group ++ [.punctuation ⟨1, 5⟩ .separator])) ⟨1, 5⟩
        "Unexpected token of type newArg at 1:5" ∧
      parse true group = .ok [.call ⟨1, 1⟩ "$a" [[]]] ∧
      Program.nesting [.call ⟨1, 1⟩ "$a" [[]]] ≤ maxNesting ∧
      Program.Invoked true group 1 (.arguments 1 ⟨1, 1⟩ [] [] [.punctuation ⟨1, 4⟩ .closing]) ∧
      1 ≤ maxNesting) := by
  have hheads : Pass.start.Accepts false [.call ⟨1, 1⟩ "$a" [], .punctuation ⟨1, 3⟩ .opening,
      .call ⟨1, 4⟩ "$b" [], .punctuation ⟨1, 6⟩ .opening] := by
    simp [Pass.accepts_cons, Pass.complaint?, Pass.step, Pass.start, Pass.isStray, maxNesting]
  have hgroup : Pass.start.Accepts true [.call ⟨1, 1⟩ "$a" [], .punctuation ⟨1, 3⟩ .opening,
      .punctuation ⟨1, 4⟩ .closing] := by
    simp [Pass.accepts_cons, Pass.complaint?, Pass.step, Pass.start, Pass.isStray, maxNesting]
  have hparse : parse true [.call ⟨1, 1⟩ "$a" [], .punctuation ⟨1, 3⟩ .opening,
      .punctuation ⟨1, 4⟩ .closing] = .ok [.call ⟨1, 1⟩ "$a" [[]]] := by
    rw [parse_eq_read]
    rfl
  have hinvoked : Program.Invoked true [.call ⟨1, 1⟩ "$a" [], .punctuation ⟨1, 3⟩ .opening,
      .punctuation ⟨1, 4⟩ .closing] 1 (.arguments 1 ⟨1, 1⟩ [] [] [.punctuation ⟨1, 4⟩ .closing]) :=
    .group (.first rfl) (by decide)
  refine ⟨⟨hheads, (parse_outcome false _).2.1 hheads⟩, hgroup,
    (parse_outcome true _).1 _ _ [] _ rfl hgroup rfl, hparse,
    (parse_outcome true _).2.2.1 (by simp [Token.IsBare]) _ hparse, hinvoked,
    ((parse_outcome true _).2.2.2 1 _ hinvoked).2⟩

end BracketScript
