import BracketScript.Proofs.SyntaxFaults

/-! A program written out again gives back the tokens it was parsed from, except that punctuation
outside all groups has become text. -/

namespace BracketScript

/-- What a tree keeps of a token: of the punctuation of groups not the place, and of the head of a
call also whether a group follows. -/
inductive Piece where
  | literal (span : Span) (value : Literal)
  | head (span : Span) (name : String) (bracketed : Bool)
  | mark (mark : Punctuation)
  /-- Punctuation as a node of a tree. -/
  | loose (span : Span) (mark : Punctuation)
deriving DecidableEq

def Piece.head? : Piece → Option (Span × String × Bool)
  | head p name bracketed => some (p, name, bracketed)
  | _ => none

namespace Token

mutual

def flatten : Token → List Piece
  | .literal p v => [.literal p v]
  | .punctuation p mark => [.loose p mark]
  | .call p name [] => [.head p name false]
  | .call p name (arg :: args) =>
    .head p name true :: .mark .opening ::
      [Piece.mark .separator].intercalate (flattenTokens arg :: flattenArguments args) ++
      [.mark .closing]

def flattenTokens : List Token → List Piece
  | [] => []
  | t :: ts => t.flatten ++ flattenTokens ts

def flattenArguments : List (List Token) → List (List Piece)
  | [] => []
  | arg :: args => flattenTokens arg :: flattenArguments args

end

/-- A token of a stream, with whether a bracket comes right after it. -/
def piece (bracketed : Bool) : Token → Piece
  | .literal p v => .literal p v
  | .call p name _ => .head p name bracketed
  | .punctuation _ mark => .mark mark

def isOpening : Token → Bool
  | .punctuation _ .opening => true
  | _ => false

theorem flattenTokens_append (ts us : List Token) :
    flattenTokens (ts ++ us) = flattenTokens ts ++ flattenTokens us := by
  induction ts with
  | nil => rfl
  | cons t ts ih => simp [flattenTokens, ih]

theorem flattenTokens_concat (ts : List Token) (t : Token) :
    flattenTokens (ts ++ [t]) = flattenTokens ts ++ t.flatten := by
  simp [flattenTokens_append, flattenTokens]

theorem flattenArguments_eq_map (args : List (List Token)) :
    flattenArguments args = args.map flattenTokens := by
  induction args with
  | nil => rfl
  | cons arg args ih => simp [flattenArguments, ih]

theorem flatten_call {args : List (List Token)} (p : Span) (name : String) (h : args ≠ []) :
    (Token.call p name args).flatten = .head p name true :: .mark .opening ::
      [Piece.mark .separator].intercalate (args.map flattenTokens) ++ [.mark .closing] := by
  cases args with
  | nil => exact absurd rfl h
  | cons arg args => simp [flatten, flattenArguments_eq_map]

end Token

def Program.flatten (program : Program) : List Piece :=
  Token.flattenTokens program

def pieces : List Token → List Piece
  | [] => []
  | t :: ts => t.piece (ts.head?.any Token.isOpening) :: pieces ts

namespace Pass

def literalStray (s : Pass) : Token → Token
  | .punctuation p mark => if s.isStray mark then .text p mark.spelling else .punctuation p mark
  | t => t

/-- A token stream with all stray punctuation as text. -/
def literalStrays (s : Pass) : List Token → List Token
  | [] => []
  | t :: ts => s.literalStray t :: (s.step t).literalStrays ts

end Pass

theorem Pass.isOpening_literalStray {s : Pass} {p : Span} (h : s.head = some p) (t : Token) :
    (s.literalStray t).isOpening = t.isOpening := by
  cases t with
  | literal q v => rfl
  | call q name args => rfl
  | punctuation q mark =>
    cases mark with
    | opening => simp [literalStray, isStray, h]
    | closing => simp only [literalStray]; split <;> rfl
    | separator => simp only [literalStray]; split <;> rfl

theorem Pass.head?_literalStrays {p : Span} (s : Pass) (h : s.head = some p) (ts : List Token) :
    (s.literalStrays ts).head?.any Token.isOpening = ts.head?.any Token.isOpening := by
  cases ts with
  | nil => rfl
  | cons t ts => exact isOpening_literalStray h t

theorem heads_literalStrays (s : Pass) (ts : List Token) :
    (pieces (s.literalStrays ts)).filterMap Piece.head? = (pieces ts).filterMap Piece.head? := by
  induction ts generalizing s with
  | nil => rfl
  | cons t ts ih =>
    cases t with
    | literal p v => exact ih _
    | call p name args =>
      have hh := (s.step (.call p name args)).head?_literalStrays (p := p) rfl ts
      simp only [Pass.literalStrays, Pass.literalStray, pieces, hh, List.filterMap_cons, ih]
    | punctuation p mark =>
      simp only [Pass.literalStrays, Pass.literalStray, pieces]
      split <;> exact ih _

theorem intercalate_concat {α : Type} (sep x : List α) (xs : List (List α)) :
    sep.intercalate (xs ++ [x]) = xs.flatMap (· ++ sep) ++ x := by
  induction xs with
  | nil => simp
  | cons y ys ih =>
    rw [List.cons_append, List.intercalate_cons_of_ne_nil (by simp), ih]
    simp

namespace Program

namespace Group

def pieces (g : Group) : List Piece :=
  .head g.span g.name true :: .mark .opening ::
    (g.arguments.reverse.flatMap fun arg => Token.flattenTokens arg ++ [.mark .separator]) ++
    Token.flattenTokens g.current.reverse

theorem pieces_add (g : Group) (t : Token) : (g.add t).pieces = g.pieces ++ t.flatten := by
  simp [pieces, add, Token.flattenTokens_concat]

theorem pieces_separate (g : Group) : g.separate.pieces = g.pieces ++ [.mark .separator] := by
  simp [pieces, separate, Token.flattenTokens]

theorem flatten_toToken (g : Group) : g.toToken.flatten = g.pieces ++ [.mark .closing] := by
  rw [toToken, Token.flatten_call _ _ (by simp), List.reverse_cons, List.map_append,
    List.map_singleton, intercalate_concat, List.flatMap_map, pieces]
  rfl

end Group

def piecesOfGroups : List Group → List Piece
  | [] => []
  | g :: gs => piecesOfGroups gs ++ g.pieces

namespace Reading

/-- What has been read, if a bracket comes next or not. -/
def pieces (r : Reading) (bracketed : Bool) : List Piece :=
  Token.flattenTokens r.outer.reverse ++ piecesOfGroups r.groups ++
    r.head.toList.map fun call => .head call.span call.name bracketed

/-- The head that waits for its group has no arguments yet. -/
def HeadIsBare (r : Reading) : Prop :=
  ∀ call, r.head = some call → call.args = []

theorem pieces_add {r : Reading} (t : Token) (b : Bool) (h : r.head = none) :
    (r.add t).pieces b = r.pieces b ++ t.flatten := by
  obtain ⟨groups, outer, head⟩ := r
  subst h
  cases groups with
  | nil => simp [pieces, add, piecesOfGroups, Token.flattenTokens_concat]
  | cons g gs => simp [pieces, add, piecesOfGroups, Group.pieces_add]

theorem pieces_settle {r : Reading} (b : Bool) (h : r.HeadIsBare) :
    r.settle.pieces b = r.pieces false := by
  obtain ⟨groups, outer, head⟩ := r
  cases head with
  | none => rfl
  | some call =>
    have ha : call.args = [] := h call rfl
    rw [settle, pieces_add _ _ rfl]
    simp [pieces, Call.toToken, ha, Token.flatten]

theorem headIsBare_of_none {r : Reading} (h : r.head = none) : r.HeadIsBare := by
  intro call hc
  rw [h] at hc
  cases hc

theorem pieces_of_head_none {r : Reading} (b b' : Bool) (h : r.head = none) :
    r.pieces b = r.pieces b' := by
  simp [pieces, h]

theorem pieces_setHead {r : Reading} (call : Call) (b : Bool) (h : r.head = none) :
    ({ r with head := some call } : Reading).pieces b =
      r.pieces b ++ [.head call.span call.name b] := by
  simp [pieces, h]

theorem addStray_pieces {strict : Bool} {r r' : Reading} {p : Span} {mark : Punctuation}
    (hn : r.head = none) (h : r.addStray strict p mark = .ok r') (b : Bool) :
    r'.head = none ∧ r'.pieces b = r.pieces b ++ [.literal p (.text mark.spelling)] := by
  cases strict with
  | true => cases h
  | false =>
    obtain rfl := Except.ok.inj h
    exact ⟨by rw [add_head, hn], pieces_add _ b hn⟩

theorem punctuate_pieces {strict : Bool} {r r' : Reading} {p : Span} {mark : Punctuation}
    (hn : r.head = none) (h : r.punctuate strict p mark = .ok r') (b : Bool) :
    r'.head = none ∧
      r'.pieces b = r.pieces b ++ [(r.pass.literalStray (.punctuation p mark)).piece b] := by
  obtain ⟨groups, outer, head⟩ := r
  subst hn
  cases mark with
  | opening => exact addStray_pieces rfl h b
  | closing =>
    cases groups with
    | nil => exact addStray_pieces rfl h b
    | cons g gs =>
      obtain rfl := Except.ok.inj h
      refine ⟨add_head _ _, ?_⟩
      rw [pieces_add _ _ rfl, Group.flatten_toToken]
      simp [pieces, piecesOfGroups, Pass.literalStray, Pass.isStray, pass, Token.piece]
  | separator =>
    cases groups with
    | nil => exact addStray_pieces rfl h b
    | cons g gs =>
      obtain rfl := Except.ok.inj h
      refine ⟨rfl, ?_⟩
      simp [pieces, piecesOfGroups, Group.pieces_separate, Pass.literalStray, Pass.isStray, pass,
        Token.piece]

theorem step_pieces {strict : Bool} {r r' : Reading} {t : Token} (ht : t.IsBare)
    (hr : r.HeadIsBare) (h : r.step strict t = .ok r') :
    r'.HeadIsBare ∧ ∀ b, r'.pieces b =
      r.pieces (r.pass.literalStray t).isOpening ++ [(r.pass.literalStray t).piece b] := by
  have hs := settle_head r
  cases t with
  | literal p v =>
    obtain rfl := Except.ok.inj h
    refine ⟨headIsBare_of_none (by rw [add_head, hs]), fun b => ?_⟩
    rw [pieces_add _ _ hs, pieces_settle b hr]
    rfl
  | call p name args =>
    rw [step] at h
    split at h
    · cases h
    · obtain rfl := Except.ok.inj h
      refine ⟨fun call hc => ?_, fun b => ?_⟩
      · obtain rfl := Option.some.inj hc
        exact ht
      · rw [pieces_setHead _ _ hs, pieces_settle b hr]
        rfl
  | punctuation p mark =>
    by_cases hc : mark = .opening ∧ r.head ≠ none
    · obtain ⟨rfl, hh⟩ := hc
      obtain ⟨groups, outer, head⟩ := r
      cases head with
      | none => exact absurd rfl hh
      | some call =>
        obtain rfl := Except.ok.inj h
        refine ⟨headIsBare_of_none rfl, fun b => ?_⟩
        simp [pieces, piecesOfGroups, Group.pieces, Token.flattenTokens, Pass.literalStray,
          Pass.isStray, pass, Token.piece, Token.isOpening]
    · have hp : r.settle.punctuate strict p mark = .ok r' := by
        rw [← h]
        obtain ⟨groups, outer, head⟩ := r
        cases head <;> cases mark <;> simp_all [step]
      have hm : r.settle.pass.literalStray (.punctuation p mark) =
          r.pass.literalStray (.punctuation p mark) := by
        rw [pass_settle]
        obtain ⟨groups, outer, head⟩ := r
        cases head <;> cases mark <;> simp_all [Pass.literalStray, Pass.isStray, pass]
      have hb : r.pieces false =
          r.pieces (r.pass.literalStray (.punctuation p mark)).isOpening := by
        by_cases hh : r.head = none
        · exact pieces_of_head_none _ _ hh
        · have hmark : mark ≠ .opening := fun he => hc ⟨he, hh⟩
          congr 1
          simp only [Pass.literalStray]
          split <;> cases mark <;> first | rfl | exact absurd rfl hmark
      refine ⟨headIsBare_of_none (punctuate_pieces hs hp true).1, fun b => ?_⟩
      rw [(punctuate_pieces hs hp b).2, pieces_settle b hr, hm, hb]

theorem finish_pieces {r : Reading} {program : Program} (hr : r.HeadIsBare)
    (h : r.finish = .ok program) : program.flatten = r.pieces false := by
  rw [← pieces_settle true hr]
  rw [finish] at h
  cases hg : r.settle.groups with
  | cons g gs =>
    rw [hg] at h
    cases h
  | nil =>
    rw [hg] at h
    obtain rfl := Except.ok.inj h
    simp [pieces, hg, settle_head, piecesOfGroups, Program.flatten]

/-- Nothing that strict brackets accept is stray. -/
theorem step_of_strict {r r' : Reading} {t : Token} (h : r.step true t = .ok r') :
    r.step false t = .ok r' ∧ r.pass.literalStray t = t := by
  cases t with
  | literal p v => exact ⟨h, rfl⟩
  | call p name args => exact ⟨h, rfl⟩
  | punctuation p mark =>
    obtain ⟨groups, outer, head⟩ := r
    cases head <;> cases mark <;> cases groups <;>
      first | exact ⟨h, rfl⟩ | cases h

end Reading

theorem read_pieces {strict : Bool} {r : Reading} {ts : List Token} {program : Program}
    (ht : ∀ t ∈ ts, t.IsBare) (hr : r.HeadIsBare) (h : read strict r ts = .ok program) :
    program.flatten =
      r.pieces ((r.pass.literalStrays ts).head?.any Token.isOpening) ++
        pieces (r.pass.literalStrays ts) := by
  induction ts generalizing r with
  | nil => simpa [Pass.literalStrays, pieces] using Reading.finish_pieces hr h
  | cons t ts ih =>
    rw [read] at h
    cases hs : r.step strict t with
    | error e =>
      rw [hs] at h
      cases h
    | ok r' =>
      rw [hs] at h
      have ⟨htt, hts⟩ := List.forall_mem_cons.mp ht
      have ⟨hr', hp⟩ := Reading.step_pieces htt hr hs
      have hi := ih hts hr' h
      rw [(Reading.step_ok hs).2] at hi
      rw [hi, hp, Pass.literalStrays, pieces, List.append_assoc]
      rfl

theorem read_of_strict {r : Reading} {ts : List Token} {program : Program}
    (h : read true r ts = .ok program) :
    read false r ts = .ok program ∧ r.pass.literalStrays ts = ts := by
  induction ts generalizing r with
  | nil => exact ⟨h, rfl⟩
  | cons t ts ih =>
    rw [read] at h
    cases hs : r.step true t with
    | error e =>
      rw [hs] at h
      cases h
    | ok r' =>
      rw [hs] at h
      have ⟨hf, hl⟩ := Reading.step_of_strict hs
      have ⟨hi, hli⟩ := ih h
      rw [(Reading.step_ok hs).2] at hli
      exact ⟨by rw [read, hf]; exact hi, by rw [Pass.literalStrays, hl, hli]⟩

end Program

/-- Parsing loses, doubles and moves nothing. Calls have arguments if a bracket follows them. -/
theorem parse_flatten (tokens : List Token) (hb : ∀ t ∈ tokens, t.IsBare) :
    (∀ program, parse true tokens = .ok program →
      program.flatten = pieces tokens ∧ parse false tokens = .ok program) ∧
    (∀ program, parse false tokens = .ok program →
      program.flatten = pieces (Pass.start.literalStrays tokens)) ∧
    ∀ strict program, parse strict tokens = .ok program →
      program.flatten.filterMap Piece.head? = (pieces tokens).filterMap Piece.head? := by
  have hstart : Program.Reading.start.HeadIsBare := Program.Reading.headIsBare_of_none rfl
  refine ⟨fun program h => ?_, fun program h => ?_, fun strict program h => ?_⟩
  · rw [parse_eq_read] at h ⊢
    have ⟨hf, hl⟩ := Program.read_of_strict h
    refine ⟨?_, hf⟩
    have hp := Program.read_pieces hb hstart hf
    rw [hl] at hp
    exact hp
  · rw [parse_eq_read] at h
    exact Program.read_pieces hb hstart h
  · rw [parse_eq_read] at h
    have hp := Program.read_pieces hb hstart h
    exact (congrArg _ hp).trans (heads_literalStrays _ tokens)

/-- The tokens of `$a[[;x]` with and without another closing bracket. -/
theorem parse_flatten_stray :
    let group : List Token := [.call ⟨1, 1⟩ "$a" [], .punctuation ⟨1, 3⟩ .opening,
      .punctuation ⟨1, 4⟩ .separator, .text ⟨1, 5⟩ "x", .punctuation ⟨1, 6⟩ .closing]
    let closed : Token := .call ⟨1, 1⟩ "$a" [[], [.text ⟨1, 5⟩ "x"]]
    parse true group = .ok [closed] ∧ Program.flatten [closed] = pieces group ∧
      parse false (group ++ [.punctuation ⟨1, 7⟩ .closing]) = .ok [closed, .text ⟨1, 7⟩ "]"] ∧
      Program.flatten [closed, .text ⟨1, 7⟩ "]"] = pieces (group ++ [.text ⟨1, 7⟩ "]"]) := by
  intro group closed
  have hg : ∀ t ∈ group, t.IsBare := by simp [group, Token.IsBare, Token.text]
  have hs : ∀ t ∈ group ++ [.punctuation ⟨1, 7⟩ .closing], t.IsBare := by
    simp [group, Token.IsBare, Token.text]
  have hstrict : parse true group = .ok [closed] := by
    rw [parse_eq_read]
    rfl
  have hstray : parse false (group ++ [.punctuation ⟨1, 7⟩ .closing]) =
      .ok [closed, .text ⟨1, 7⟩ "]"] := by
    rw [parse_eq_read]
    rfl
  exact ⟨hstrict, ((parse_flatten group hg).1 _ hstrict).1, hstray,
    (parse_flatten _ hs).2.1 _ hstray⟩

end BracketScript
