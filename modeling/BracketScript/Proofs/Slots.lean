import BracketScript.Proofs.Nodes
import BracketScript.Proofs.PartialNesting
import BracketScript.Proofs.Seams
import BracketScript.Proofs.Variation

/-! A source as an argument of a call. Read in a group of its own, it gives the nodes that it gives
as a program, one level deeper. -/

namespace BracketScript

namespace Token.Alike

theorem literal {p : Span} {v : Literal} {t : Token} (h : Alike (.literal p v) t) :
    ∃ p', t = .literal p' v := by
  cases Token.likeness_varies.kind _ _ h with
  | literal _ p' => exact ⟨p', rfl⟩

theorem punctuation {p : Span} {mark : Punctuation} {t : Token}
    (h : Alike (.punctuation p mark) t) : ∃ p', t = .punctuation p' mark := by
  cases Token.likeness_varies.kind _ _ h with
  | punctuation _ p' => exact ⟨p', rfl⟩

theorem call {p : Span} {name : String} {args : List (List Token)} {t : Token}
    (h : Alike (.call p name args) t) : ∃ p' args', t = .call p' name args' := by
  cases Token.likeness_varies.kind _ _ h with
  | call _ p' _ _ args' => exact ⟨p', args', rfl⟩

end Token.Alike

namespace Program

open Token

structure Group.Alike (g g' : Group) : Prop where
  name : g'.name = g.name
  arguments : List.Forall₂ (List.Forall₂ Token.Alike) g.arguments g'.arguments
  current : List.Forall₂ Token.Alike g.current g'.current

namespace Group.Alike

variable {g g' : Group}

theorem add {t t' : Token} (h : g.Alike g') (ht : t.Alike t') : (g.add t).Alike (g'.add t') :=
  ⟨h.name, h.arguments, h.current.cons ht⟩

theorem separate (h : g.Alike g') : g.separate.Alike g'.separate :=
  ⟨h.name, h.arguments.cons (List.forall₂_reverse_iff.mpr h.current), .nil⟩

theorem toToken (h : g.Alike g') : g.toToken.Alike g'.toToken := by
  rw [Group.toToken, Group.toToken, h.name]
  exact .of_forall₂ (List.forall₂_reverse_iff.mpr h.separate.arguments)

end Group.Alike

/-- The second reading stands inside the group `base`, of which it reads an argument, where the first
one stands outside all groups. -/
inductive Reading.Inside (base : Group) : Reading → Reading → Prop
  | intro {gs gs' : List Group} {outer current : List Token} {head head' : Option Call}
      (hgroups : List.Forall₂ Group.Alike gs gs') (houter : List.Forall₂ Token.Alike outer current)
      (hhead : Option.Rel (fun call call' => call.toToken.Alike call'.toToken) head head') :
      Inside base ⟨gs, outer, head⟩ ⟨gs' ++ [{ base with current := current }], [], head'⟩

namespace Reading.Inside

variable {base : Group} {r r' r₁ : Reading}

theorem start (base : Group) (h : base.current = []) :
    Inside base Reading.start ⟨[base], [], none⟩ := by
  have hbase : base = { base with current := [] } := by rw [← h]
  rw [hbase]
  exact .intro .nil .nil .none

theorem length_groups (h : Inside base r r') : r'.groups.length = r.groups.length + 1 := by
  obtain ⟨hgroups, -, -⟩ := h
  rw [List.length_append, hgroups.length_eq]
  rfl

theorem add {t t' : Token} (h : Inside base r r') (ht : t.Alike t') :
    Inside base (r.add t) (r'.add t') := by
  obtain ⟨hgroups, houter, hhead⟩ := h
  cases hgroups with
  | nil => exact .intro .nil (houter.cons ht) hhead
  | cons hg hgs => exact .intro (hgs.cons (hg.add ht)) houter hhead

theorem settle (h : Inside base r r') : Inside base r.settle r'.settle := by
  obtain ⟨hgroups, houter, hhead⟩ := h
  cases hhead with
  | none => exact .intro hgroups houter .none
  | some hcall =>
    have hnone : Inside base _ _ := .intro hgroups houter .none
    exact hnone.add hcall

theorem withHead {call call' : Call} (h : Inside base r r')
    (hcall : call.toToken.Alike call'.toToken) :
    Inside base { r with head := some call } { r' with head := some call' } := by
  obtain ⟨hgroups, houter, -⟩ := h
  exact .intro hgroups houter (.some hcall)

theorem opening {call : Call} (h : Inside base r r') (hhead : r.head = some call) :
    ∃ call', r'.head = some call' ∧
      Inside base ⟨⟨call.span, call.name, [], []⟩ :: r.groups, r.outer, none⟩
        ⟨⟨call'.span, call'.name, [], []⟩ :: r'.groups, r'.outer, none⟩ := by
  obtain ⟨hgroups, houter, hcall⟩ := h
  cases hcall with
  | none => cases hhead
  | @some _ call' hcall =>
    obtain rfl := Option.some.inj hhead
    obtain ⟨p', args', hcall'⟩ := Token.Alike.call hcall
    obtain ⟨-, hname, -⟩ := Token.call.inj hcall'
    exact ⟨call', rfl, .intro (hgroups.cons ⟨hname, .nil, .nil⟩) houter .none⟩

/-- Strict brackets leave only punctuation that has a group. -/
theorem punctuate {p : Span} {mark : Punctuation} (h : Inside base r r')
    (hr : r.punctuate true p mark = .ok r₁) (strict : Bool) (p' : Span) :
    mark ≠ .opening ∧ ∃ r₁', r'.punctuate strict p' mark = .ok r₁' ∧ Inside base r₁ r₁' := by
  obtain ⟨hgroups, houter, hhead⟩ := h
  cases hgroups with
  | nil => cases mark <;> cases hr
  | cons hg hgs =>
    cases mark with
    | opening => cases hr
    | closing =>
      obtain rfl := Except.ok.inj hr
      have hrest : Inside base _ _ := .intro hgs houter hhead
      exact ⟨nofun, _, rfl, hrest.add hg.toToken⟩
    | separator =>
      obtain rfl := Except.ok.inj hr
      exact ⟨nofun, _, rfl, .intro (hgs.cons hg.separate) houter hhead⟩

theorem step {t t' : Token} (h : Inside base r r') (ht : t.Alike t')
    (hr : r.step true t = .ok r₁) (hroom : r₁.Shallow 63) (strict : Bool) :
    ∃ r₁', r'.step strict t' = .ok r₁' ∧ Inside base r₁ r₁' := by
  obtain ⟨p, v, rfl, rfl⟩ | ⟨p, name, args, rfl, rfl⟩ | ⟨p, call, rfl, hhead, rfl⟩ |
      ⟨p, mark, rfl, hp⟩ := step_cases hr
  · obtain ⟨p', rfl⟩ := ht.literal
    exact ⟨_, rfl, h.settle.add ht⟩
  · obtain ⟨p', args', rfl⟩ := ht.call
    -- the call has its place in the program, and so one more level is left for the group around it
    have hlt : r.settle.groups.length < 63 := hroom.head nofun
    rw [r.length_groups_settle] at hlt
    have hdeep : ¬ maxNesting ≤ r'.groups.length := by
      rw [h.length_groups, maxNesting]
      omega
    exact ⟨_, if_neg hdeep, h.settle.withHead ht⟩
  · obtain ⟨p', rfl⟩ := ht.punctuation
    obtain ⟨call', hhead', hinside⟩ := h.opening hhead
    refine ⟨_, ?_, hinside⟩
    simp only [Reading.step, hhead']
  · obtain ⟨p', rfl⟩ := ht.punctuation
    obtain ⟨hmark, r₁', hr₁', hinside⟩ := h.settle.punctuate hp strict p'
    refine ⟨r₁', ?_, hinside⟩
    rw [Reading.step, hr₁']
    exact fun call he => absurd he hmark

/-- What is a program of its own can be read inside the group too, whatever comes after it there. -/
theorem read {ts ts' : List Token} {program : Program} (h : Inside base r r')
    (hts : List.Forall₂ Token.Alike ts ts') (hr : Program.read true r ts = .ok program)
    (hn : program.nesting ≤ 63) (strict : Bool) :
    ∃ r₁ r₁', Inside base r₁ r₁' ∧ r₁.finish = .ok program ∧
      ∀ rest, Program.read strict r' (ts' ++ rest) = Program.read strict r₁' rest := by
  induction hts generalizing r r' with
  | nil => exact ⟨r, r', h, hr, fun _ => rfl⟩
  | @cons t t' ts ts' ht _ ih =>
    rw [Program.read] at hr
    cases hs : r.step true t with
    | error e =>
      rw [hs] at hr
      cases hr
    | ok r₂ =>
      rw [hs] at hr
      obtain ⟨r₂', hs', hinside⟩ := h.step ht hs (.of_read hr hn) strict
      obtain ⟨r₁, r₁', hinside₁, hfinish, hrest⟩ := ih hinside hr
      refine ⟨r₁, r₁', hinside₁, hfinish, fun rest => ?_⟩
      rw [List.cons_append, Program.read, hs']
      exact hrest rest

/-- Where the program ends, its nodes are those of the argument. -/
theorem current {program : Program} (h : Inside base r r') (hfinish : r.finish = .ok program) :
    ∃ arg, r'.settle = ⟨[{ base with current := arg.reverse }], [], none⟩ ∧
      List.Forall₂ Token.Alike program arg := by
  have hsettle := h.settle
  have hhead := r.settle_head
  rw [finish] at hfinish
  generalize r.settle = s at hsettle hhead hfinish
  generalize r'.settle = s' at hsettle ⊢
  obtain @⟨gs, gs', outer, current, head, head', hgroups, houter, hcall⟩ := hsettle
  cases hgroups with
  | cons => cases hfinish
  | nil =>
    obtain rfl := Except.ok.inj hfinish
    obtain rfl : head = none := hhead
    cases hcall
    refine ⟨current.reverse, ?_, List.forall₂_reverse_iff.mpr houter⟩
    rw [List.reverse_reverse]
    rfl

end Reading.Inside

/-- The argument that is read up to a separator or to the bracket that closes the call. -/
theorem read_slot {ts ts' : List Token} {program : Program}
    (hts : List.Forall₂ Token.Alike ts ts') (hr : read true .start ts = .ok program)
    (hn : program.nesting ≤ 63) (strict : Bool) (q : Span) (name : String)
    (arguments : List (List Token)) (p : Span) :
    ∃ arg, List.Forall₂ Token.Alike program arg ∧
      (∀ rest, read strict ⟨[⟨q, name, arguments, []⟩], [], none⟩
          (ts' ++ .punctuation p .separator :: rest) =
        read strict ⟨[⟨q, name, arg :: arguments, []⟩], [], none⟩ rest) ∧
      read strict ⟨[⟨q, name, arguments, []⟩], [], none⟩ (ts' ++ [.punctuation p .closing]) =
        .ok [.call q name (arg :: arguments).reverse] := by
  have hinside := Reading.Inside.start ⟨q, name, arguments, []⟩ rfl
  obtain ⟨r₁, r₁', hinside₁, hfinish, hrest⟩ := hinside.read hts hr hn strict
  obtain ⟨arg, hsettle, harg⟩ := hinside₁.current hfinish
  have hstep (mark : Punctuation) (hmark : mark ≠ .opening) :
      r₁'.step strict (.punctuation p mark) = r₁'.settle.punctuate strict p mark := by
    rw [Reading.step]
    exact fun call he => absurd he hmark
  refine ⟨arg, harg, fun rest => ?_, ?_⟩
  · rw [hrest, read, hstep .separator (by decide), hsettle]
    simp only [Reading.punctuate, Group.separate, List.reverse_reverse]
  · rw [hrest, read, hstep .closing (by decide), hsettle]
    simp only [Reading.punctuate, Group.toToken, List.reverse_reverse]
    rfl

end Program

namespace Lexer

@[simp] theorem tokensAt_nil (p : Span) : tokensAt p [] = [] := by
  rw [tokensAt, scan]
  rfl

theorem alike_of_unplaced {t t' : Token} (h : t.unplaced = t'.unplaced) : t.Alike t' := by
  cases t <;> cases t' <;> cases h
  · exact Token.Varies.literal _ _ _
  · exact .of_forall₂ (List.forall₂_same.mpr fun arg _ => Token.likeness_varies.tokens arg)
  · exact Token.Varies.punctuation _ _ _

theorem alike_tokensAt (p q : Span) (s : List Char) :
    List.Forall₂ Token.Alike (tokensAt p s) (tokensAt q s) := by
  have h := unplaced_tokensAt p q s
  rw [← List.forall₂_eq_eq_eq, List.forall₂_map_left_iff, List.forall₂_map_right_iff] at h
  exact h.imp fun t t' ht => alike_of_unplaced ht

theorem tokensAt_opening {name : List Char} (hne : name ≠ [])
    (hname : ∀ c ∈ name, isNameChar c = true) (p : Span) (rest : List Char) :
    ∃ q q', tokensAt p ('$' :: (name ++ '[' :: rest)) =
      .call p (String.ofList ('$' :: name)) [] :: .punctuation q .opening :: tokensAt q' rest := by
  have hrun : (name ++ '[' :: rest).takeWhile isNameChar = name := by
    rw [List.takeWhile_append_of_pos hname, List.takeWhile_cons_of_neg (by decide), List.append_nil]
  have hhead : lexeme '$' (name ++ '[' :: rest) =
      (.head (String.ofList ('$' :: name)), name.length) := by
    obtain ⟨c, cs, rfl⟩ := List.exists_cons_of_ne_nil hne
    rw [lexeme_dollar, dollarLexeme, hrun]
  rw [tokensAt, scan_cons, hhead, List.take_left, List.drop_left, scan_cons]
  exact ⟨_, _, rfl⟩

end Lexer

/-- A source that may stand as an argument, and its nodes: either nothing, or a program with at most
63 calls nested in one another whose source does not end in the middle of an escape. -/
def Embeds (source : String) (program : Program) : Prop :=
  source = "" ∧ program = [] ∨
    compile true source = .ok program ∧ program.nesting ≤ 63 ∧
      Lexer.endsInEscape source.toList = false

theorem Embeds.read {source : String} {program : Program} (h : Embeds source program) :
    Program.read true .start (Lexer.tokensAt .start source.toList) = .ok program ∧
      program.nesting ≤ 63 ∧ Lexer.endsInEscape source.toList = false := by
  obtain ⟨rfl, rfl⟩ | ⟨hcompile, hnesting, hends⟩ := h
  · refine ⟨?_, Nat.zero_le _, rfl⟩
    rw [String.toList_empty, Lexer.tokensAt_nil]
    rfl
  · have hne : source ≠ "" := by
      rintro rfl
      cases hcompile
    rw [compile_of_tokenize (tokenize_eq_tokensAt hne), parse_eq_read] at hcompile
    exact ⟨hcompile, hnesting, hends⟩

theorem read_slots {sources : List String} {programs : List Program}
    (h : List.Forall₂ Embeds sources programs) (hne : sources ≠ []) (strict : Bool) (q : Span)
    (name : String) (arguments : List (List Token)) (p : Span) :
    ∃ args, List.Forall₂ (List.Forall₂ Token.Alike) programs args ∧
      Program.read strict ⟨[⟨q, name, arguments, []⟩], [], none⟩
        (Lexer.tokensAt p ([';'].intercalate (sources.map String.toList) ++ [']'])) =
      .ok [.call q name (arguments.reverse ++ args)] := by
  induction h generalizing arguments p with
  | nil => exact absurd rfl hne
  | @cons source program sources programs hsource hsources ih =>
    obtain ⟨hread, hnesting, hends⟩ := hsource.read
    have hslot := Program.read_slot (Lexer.alike_tokensAt .start p source.toList) hread hnesting
      strict q name arguments (p.after source.toList)
    obtain ⟨arg, harg, hseparator, hclosing⟩ := hslot
    cases hsources with
    | nil =>
      refine ⟨[arg], .cons harg .nil, ?_⟩
      rw [List.map_singleton, List.intercalate_singleton,
        Lexer.tokensAt_append_of_endsSlot p hends (.inl rfl) (fun _ => rfl), ← List.reverse_cons]
      rw [Lexer.tokensAt_nil]
      exact hclosing
    | @cons source' program' sources programs hsource' hsources =>
      obtain ⟨args, hargs, hrest⟩ := ih nofun (arg :: arguments)
        ((p.after source.toList).after [';'])
      refine ⟨arg :: args, .cons harg hargs, ?_⟩
      rw [List.map_cons, List.map_cons, List.intercalate_cons_cons, List.append_assoc,
        List.append_assoc, List.singleton_append,
        Lexer.tokensAt_append_of_endsSlot p hends (.inr rfl) (fun _ => rfl), hseparator,
        ← List.map_cons, hrest, List.reverse_cons, List.append_assoc]
      rfl

/-- Sources put between brackets and separators are the arguments of one call. -/
theorem compile_call_of_sources {name : String} (hname : name ≠ "")
    (hchars : ∀ c ∈ name.toList, Lexer.isNameChar c = true) {sources : List String}
    {programs : List Program} (hne : sources ≠ []) (h : List.Forall₂ Embeds sources programs)
    (strict : Bool) :
    ∃ args, compile strict ("$" ++ name ++ "[" ++ ";".intercalate sources ++ "]") =
        .ok [.call .start ("$" ++ name) args] ∧
      args.length = sources.length ∧ List.Forall₂ (List.Forall₂ Token.Alike) programs args := by
  have hnil : name.toList ≠ [] := by simpa using hname
  have hlist : ("$" ++ name ++ "[" ++ ";".intercalate sources ++ "]").toList =
      '$' :: (name.toList ++ '[' :: ([';'].intercalate (sources.map String.toList) ++ [']'])) := by
    simp
  obtain ⟨q, q', htokens⟩ := Lexer.tokensAt_opening hnil hchars .start
    ([';'].intercalate (sources.map String.toList) ++ [']'])
  obtain ⟨args, hargs, hread⟩ := read_slots h hne strict .start
    (String.ofList ('$' :: name.toList)) [] q'
  have hsource : "$" ++ name ++ "[" ++ ";".intercalate sources ++ "]" ≠ "" := by
    intro he
    rw [he] at hlist
    cases hlist
  have hhead : String.ofList ('$' :: name.toList) = "$" ++ name := by
    rw [← String.toList_inj]
    simp
  rw [hhead] at hread htokens
  refine ⟨args, ?_, hargs.length_eq.symm.trans h.length_eq.symm, hargs⟩
  rw [compile_of_tokenize (tokenize_eq_tokensAt hsource), hlist, htokens, parse_eq_read]
  exact hread

/-- Nothing at all, a call with text behind it, and a text that ends in an escaped backslash. -/
theorem compile_call_of_sources_nested :
    let sources := ["", "$get[a;12]!", "x\\\\"]
    let programs : List Program :=
      [[],
        [.call ⟨1, 1⟩ "$get" [[.text ⟨1, 6⟩ "a"], [.literal ⟨1, 8⟩ (.number 12)]],
          .text ⟨1, 11⟩ "!"],
        [.text ⟨1, 1⟩ "x\\"]]
    List.Forall₂ Embeds sources programs ∧
      ∃ args, compile true "$f[;$get[a;12]!;x\\\\]" = .ok [.call .start "$f" args] ∧
        args.length = 3 ∧ List.Forall₂ (List.Forall₂ Token.Alike) programs args := by
  intro sources programs
  have hempty : Embeds "" [] := .inl ⟨rfl, rfl⟩
  have hcall : Embeds "$get[a;12]!" [.call ⟨1, 1⟩ "$get" [[.text ⟨1, 6⟩ "a"],
      [.literal ⟨1, 8⟩ (.number 12)]], .text ⟨1, 11⟩ "!"] :=
    .inr ⟨by cbv, by decide, by decide⟩
  have htext : Embeds "x\\\\" [.text ⟨1, 1⟩ "x\\"] :=
    .inr ⟨by cbv, by decide, by decide⟩
  have hembed : List.Forall₂ Embeds sources programs :=
    .cons hempty (.cons hcall (.cons htext .nil))
  have hsource : "$" ++ "f" ++ "[" ++ ";".intercalate sources ++ "]" =
      "$f[;$get[a;12]!;x\\\\]" := by decide +kernel
  have hname : "f" ≠ "" := by decide
  have hchars : ∀ c ∈ "f".toList, Lexer.isNameChar c = true := by
    intro c hc
    obtain rfl : c = 'f' := by simpa using hc
    decide
  have hne : sources ≠ [] := List.cons_ne_nil _ _
  obtain ⟨args, hcompile, hlength, hargs⟩ := compile_call_of_sources hname hchars hne hembed true
  rw [hsource] at hcompile
  exact ⟨hembed, args, hcompile, hlength, hargs⟩

end BracketScript
