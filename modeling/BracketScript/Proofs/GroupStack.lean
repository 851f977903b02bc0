import Mathlib
import BracketScript.Program

/-! The tree of calls built token by token, with a stack of the bracket groups that are open. The
recursive reader does the same, and its depth is the height of the stack. -/

namespace BracketScript

def Call.toToken (call : Call) : Token :=
  .call call.span call.name call.args

namespace Program

/-- A bracket group that has not been closed: the call it belongs to, the arguments before the
current one and the tokens of the current one, both last first. -/
structure Group where
  span : Span
  name : String
  arguments : List (List Token)
  current : List Token

namespace Group

def toToken (g : Group) : Token :=
  .call g.span g.name (g.current.reverse :: g.arguments).reverse

def add (g : Group) (t : Token) : Group :=
  { g with current := t :: g.current }

def separate (g : Group) : Group :=
  { g with arguments := g.current.reverse :: g.arguments, current := [] }

end Group

/-- The groups open at some point of a script, the innermost first, the tokens outside all of them,
last first, and the head that has just been read, which may have a group of its own. -/
structure Reading where
  groups : List Group
  outer : List Token
  head : Option Call

namespace Reading

def start : Reading := ⟨[], [], none⟩

def add : Reading → Token → Reading
  | ⟨[], outer, head⟩, t => ⟨[], t :: outer, head⟩
  | ⟨g :: gs, outer, head⟩, t => ⟨g.add t :: gs, outer, head⟩

/-- The head that has just been read has no group. -/
def settle : Reading → Reading
  | ⟨groups, outer, none⟩ => ⟨groups, outer, none⟩
  | ⟨groups, outer, some call⟩ => add ⟨groups, outer, none⟩ call.toToken

def addStray (strict : Bool) (r : Reading) (p : Span) (mark : Punctuation) :
    Except ScriptError Reading :=
  match stray strict p mark with
  | .ok t => .ok (r.add t)
  | .error e => .error e

def punctuate (strict : Bool) (r : Reading) (p : Span) (mark : Punctuation) :
    Except ScriptError Reading :=
  match mark, r.groups with
  | .closing, g :: gs => .ok (add ⟨gs, r.outer, r.head⟩ g.toToken)
  | .separator, g :: gs => .ok { r with groups := g.separate :: gs }
  | mark, _ => r.addStray strict p mark

def step (strict : Bool) (r : Reading) : Token → Except ScriptError Reading
  | .literal p v => .ok (r.settle.add (.literal p v))
  | .call p name args =>
    if maxNesting ≤ r.groups.length then .error (.malformed p .nestedTooDeep)
    else .ok { r.settle with head := some ⟨p, name, args⟩ }
  | .punctuation p mark =>
    match mark, r.head with
    | .opening, some call => .ok ⟨⟨call.span, call.name, [], []⟩ :: r.groups, r.outer, none⟩
    | mark, _ => r.settle.punctuate strict p mark

def finish (r : Reading) : Except ScriptError Program :=
  match r.settle.groups with
  | [] => .ok r.settle.outer.reverse
  | g :: _ => .error (.malformed g.span .unclosed)

theorem add_head (r : Reading) (t : Token) : (r.add t).head = r.head := by
  obtain ⟨groups, outer, head⟩ := r
  cases groups with
  | nil => rfl
  | cons g gs => rfl

theorem map_span_add (r : Reading) (t : Token) :
    (r.add t).groups.map Group.span = r.groups.map Group.span := by
  obtain ⟨groups, outer, head⟩ := r
  cases groups with
  | nil => rfl
  | cons g gs => rfl

theorem settle_head (r : Reading) : r.settle.head = none := by
  obtain ⟨groups, outer, head⟩ := r
  cases head with
  | none => rfl
  | some call => exact add_head _ _

theorem map_span_settle (r : Reading) :
    r.settle.groups.map Group.span = r.groups.map Group.span := by
  obtain ⟨groups, outer, head⟩ := r
  cases head with
  | none => rfl
  | some call => exact map_span_add _ _

theorem length_groups_settle (r : Reading) : r.settle.groups.length = r.groups.length := by
  simpa only [List.length_map] using congrArg List.length (map_span_settle r)

theorem settle_of_head_none {r : Reading} (h : r.head = none) : r.settle = r := by
  obtain ⟨groups, outer, head⟩ := r
  subst h
  rfl

theorem settle_settle (r : Reading) : r.settle.settle = r.settle :=
  settle_of_head_none (settle_head r)

theorem addStray_ok {strict : Bool} {r r' : Reading} {p : Span} {mark : Punctuation}
    (h : r.addStray strict p mark = .ok r') : r' = r.add (.text p mark.spelling) := by
  cases strict with
  | true => cases h
  | false => exact (Except.ok.inj h).symm

/-- Punctuation closes the innermost group, divides it, or is text. -/
theorem punctuate_cases {strict : Bool} {r r' : Reading} {p : Span} {mark : Punctuation}
    (h : r.punctuate strict p mark = .ok r') :
    (∃ g gs, mark = .closing ∧ r.groups = g :: gs ∧
      r' = add ⟨gs, r.outer, r.head⟩ g.toToken) ∨
    (∃ g gs, mark = .separator ∧ r.groups = g :: gs ∧
      r' = { r with groups := g.separate :: gs }) ∨
    r' = r.add (.text p mark.spelling) := by
  obtain ⟨groups, outer, head⟩ := r
  cases groups with
  | nil => cases mark <;> exact .inr (.inr (addStray_ok h))
  | cons g gs =>
    cases mark with
    | opening => exact .inr (.inr (addStray_ok h))
    | closing => exact .inl ⟨g, gs, rfl, rfl, (Except.ok.inj h).symm⟩
    | separator => exact .inr (.inl ⟨g, gs, rfl, rfl, (Except.ok.inj h).symm⟩)

/-- A token is a node, or a head that may get a group, or it opens the group of the head before it,
or it is other punctuation. -/
theorem step_cases {strict : Bool} {r r' : Reading} {t : Token} (h : r.step strict t = .ok r') :
    (∃ p v, t = .literal p v ∧ r' = r.settle.add t) ∨
    (∃ p name args, t = .call p name args ∧ r' = { r.settle with head := some ⟨p, name, args⟩ }) ∨
    (∃ p call, t = .punctuation p .opening ∧ r.head = some call ∧
      r' = ⟨⟨call.span, call.name, [], []⟩ :: r.groups, r.outer, none⟩) ∨
    ∃ p mark, t = .punctuation p mark ∧ r.settle.punctuate strict p mark = .ok r' := by
  cases t with
  | literal p v => exact .inl ⟨p, v, rfl, (Except.ok.inj h).symm⟩
  | call p name args =>
    rw [step] at h
    split at h
    · cases h
    · exact .inr (.inl ⟨p, name, args, rfl, (Except.ok.inj h).symm⟩)
  | punctuation p mark =>
    by_cases hopen : ∃ call, mark = .opening ∧ r.head = some call
    · obtain ⟨call, rfl, hcall⟩ := hopen
      simp only [step, hcall, Except.ok.injEq] at h
      exact .inr (.inr (.inl ⟨p, call, rfl, hcall, h.symm⟩))
    · refine .inr (.inr (.inr ⟨p, mark, rfl, ?_⟩))
      rw [← h, step]
      exact fun call hmark hcall => hopen ⟨call, hmark, hcall⟩

end Reading

def read (strict : Bool) (r : Reading) : List Token → Except ScriptError Program
  | [] => r.finish
  | t :: ts =>
    match r.step strict t with
    | .ok r' => read strict r' ts
    | .error e => .error e

def NoOpening (ts : List Token) : Prop :=
  ∀ p ts', ts ≠ .punctuation p .opening :: ts'

theorem read_settle (strict : Bool) (r : Reading) {ts : List Token} (h : NoOpening ts) :
    read strict r.settle ts = read strict r ts := by
  cases ts with
  | nil => simp only [read, Reading.finish, Reading.settle_settle]
  | cons t ts =>
    have hs : r.settle.step strict t = r.step strict t := by
      cases t with
      | literal p v => simp only [Reading.step, Reading.settle_settle]
      | call p name args =>
        simp only [Reading.step, Reading.settle_settle, Reading.length_groups_settle]
      | punctuation p mark =>
        cases mark with
        | opening => exact absurd rfl (h p ts)
        | closing => simp only [Reading.step, Reading.settle_settle]
        | separator => simp only [Reading.step, Reading.settle_settle]
    simp only [read, hs]

def readAfter {ts : List Token} (strict : Bool) (r : Reading) :
    Except ScriptError (Taken Token ts) → Except ScriptError Program
  | .ok node => read strict (r.add node.value) node.rest
  | .error e => .error e

def readAfterArguments {ts : List Token} (strict : Bool) (r : Reading) (p : Span) (name : String) :
    Except ScriptError (Taken (List (List Token)) ts) → Except ScriptError Program
  | .ok taken => read strict (r.add (.call p name taken.value)) taken.rest
  | .error e => .error e

/-- A token that neither ends nor divides a group. -/
def BeginsNode (groups : List Group) (t : Token) : Prop :=
  ∀ p mark, t = .punctuation p mark → groups = [] ∨ mark = .opening

theorem read_stray (strict : Bool) (groups : List Group) (outer : List Token) (p : Span)
    {mark : Punctuation} (ts : List Token) (h : groups = [] ∨ mark = .opening) :
    read strict ⟨groups, outer, none⟩ (.punctuation p mark :: ts) =
      match stray strict p mark with
      | .ok t => read strict (Reading.add ⟨groups, outer, none⟩ t) ts
      | .error e => .error e := by
  have hp : Reading.step strict ⟨groups, outer, none⟩ (.punctuation p mark) =
      Reading.addStray strict ⟨groups, outer, none⟩ p mark := by
    rcases h with rfl | rfl
    · cases mark <;> rfl
    · rfl
  rw [read, hp, Reading.addStray]
  cases stray strict p mark with
  | ok t => rfl
  | error e => rfl

theorem readToken_call {strict : Bool} {depth : Nat} (p : Span) (name : String)
    (args : List (List Token)) {ts : List Token} (hd : depth < maxNesting) (h : NoOpening ts) :
    readToken strict depth (.call p name args) ts = .ok (.nothing (.call p name args)) := by
  rw [readToken, if_neg (Nat.not_le_of_lt hd)]
  exact fun q ts' he => h q ts' he

mutual

theorem read_token (strict : Bool) (groups : List Group) (outer : List Token) (t : Token)
    (ts : List Token) (h : BeginsNode groups t) :
    read strict ⟨groups, outer, none⟩ (t :: ts) =
      readAfter strict ⟨groups, outer, none⟩ (readToken strict groups.length t ts) := by
  cases t with
  | literal p v => rw [readToken]; rfl
  | punctuation p mark =>
    rw [read_stray strict groups outer p ts (h p mark rfl), readToken]
    cases stray strict p mark with
    | ok t => rfl
    | error e => rfl
  | call p name args =>
    by_cases ho : ∃ q ts', ts = .punctuation q .opening :: ts'
    · obtain ⟨q, ts', rfl⟩ := ho
      by_cases hd : maxNesting ≤ groups.length
      · rw [read, readToken, Reading.step, if_pos hd, if_pos hd]
        rfl
      · have ha := read_arguments strict groups outer p name [] [] ts'
        rw [read, readToken, Reading.step, if_neg hd, if_neg hd]
        refine Eq.trans ha ?_
        cases readArguments strict (groups.length + 1) p [] [] ts' with
        | ok taken => rfl
        | error e => rfl
    · have hn : NoOpening ts := fun q ts' he => ho ⟨q, ts', he⟩
      by_cases hd : maxNesting ≤ groups.length
      · rw [read, readToken, Reading.step, if_pos hd, if_pos hd]
        · rfl
        · exact hn
      · rw [read, readToken_call p name args (Nat.lt_of_not_le hd) hn, Reading.step, if_neg hd]
        exact (read_settle strict ⟨groups, outer, some ⟨p, name, args⟩⟩ hn).symm
termination_by ts.length

theorem read_arguments (strict : Bool) (groups : List Group) (outer : List Token) (p : Span)
    (name : String) (arguments : List (List Token)) (current ts : List Token) :
    read strict ⟨⟨p, name, arguments, current⟩ :: groups, outer, none⟩ ts =
      readAfterArguments strict ⟨groups, outer, none⟩ p name
        (readArguments strict (groups.length + 1) p arguments current ts) := by
  cases ts with
  | nil => rw [readArguments]; rfl
  | cons t ts =>
    by_cases hc : ∃ q, t = .punctuation q .closing
    · obtain ⟨q, rfl⟩ := hc
      rw [readArguments]
      rfl
    by_cases hs : ∃ q, t = .punctuation q .separator
    · obtain ⟨q, rfl⟩ := hs
      have ha := read_arguments strict groups outer p name (current.reverse :: arguments) [] ts
      rw [readArguments]
      refine Eq.trans ha ?_
      cases readArguments strict (groups.length + 1) p (current.reverse :: arguments) [] ts with
      | ok taken => rfl
      | error e => rfl
    · have hb : BeginsNode (⟨p, name, arguments, current⟩ :: groups) t := by
        rintro q mark rfl
        cases mark with
        | opening => exact .inr rfl
        | closing => exact absurd ⟨q, rfl⟩ hc
        | separator => exact absurd ⟨q, rfl⟩ hs
      rw [read_token strict _ outer t ts hb, readArguments, List.length_cons]
      · cases readToken strict (groups.length + 1) t ts with
        | error e => rfl
        | ok node =>
          have hle := node.isSuffix.length_le
          have ha := read_arguments strict groups outer p name arguments (node.value :: current)
            node.rest
          refine Eq.trans ha ?_
          dsimp only
          cases readArguments strict (groups.length + 1) p arguments (node.value :: current)
              node.rest with
          | ok taken => rfl
          | error e => rfl
      · exact fun q he => hc ⟨q, he⟩
      · exact fun q he => hs ⟨q, he⟩
termination_by ts.length

end

theorem readAll_eq_read (strict : Bool) (nodes ts : List Token) :
    readAll strict nodes ts = read strict ⟨[], nodes, none⟩ ts := by
  cases ts with
  | nil => rw [readAll]; rfl
  | cons t ts =>
    rw [readAll, read_token strict [] nodes t ts (fun _ _ _ => .inl rfl), List.length_nil]
    cases readToken strict 0 t ts with
    | error e => rfl
    | ok node =>
      have hle := node.isSuffix.length_le
      exact readAll_eq_read strict (node.value :: nodes) node.rest
termination_by ts.length

end Program

theorem parse_eq_read (strict : Bool) (tokens : List Token) :
    parse strict tokens = Program.read strict .start tokens :=
  Program.readAll_eq_read strict [] tokens

theorem compile_of_tokenize {strict : Bool} {source : String} {tokens : List Token}
    (h : tokenize source = .ok tokens) : compile strict source = parse strict tokens := by
  rw [compile, h]
  rfl

end BracketScript
