import BracketScript.Proofs.PlainRuns

/-! An empty argument of a call filled with literals. The source parses as it did before, and what
was filled in is the argument. -/

namespace BracketScript

theorem Lexer.unplaced_tokensAt (p q : Span) (s : List Char) :
    (tokensAt p s).map Token.unplaced = (tokensAt q s).map Token.unplaced := by
  rw [tokensAt, tokensAt, unplaced_mergeTexts, unplaced_mergeTexts, unplaced_scan p q]

/-- An argument begins behind `before`, which ends in the bracket that opens a group or in a
separator within one. -/
def OpensArgument (before : String) : Prop :=
  ∃ tokens p mark, tokenize before = .ok (tokens ++ [.punctuation p mark]) ∧ mark ≠ .closing ∧
    (Pass.start.after tokens).isStray mark = false

def ClosesArgument (after : String) : Prop :=
  after.toList.head? = some ']' ∨ after.toList.head? = some ';'

/-- `before` ends in the head of a call and the bracket behind it. -/
def OpensCall (name before : String) : Prop :=
  ∃ tokens p q, tokenize before = .ok (tokens ++ [.call p name [], .punctuation q .opening])

theorem OpensCall.opensArgument {name before : String} (h : OpensCall name before) :
    OpensArgument before := by
  obtain ⟨tokens, p, q, htokens⟩ := h
  refine ⟨tokens ++ [.call p name []], q, .opening, ?_, nofun, ?_⟩
  · rw [htokens, List.append_assoc]
    rfl
  · rw [Pass.after_append]
    rfl

/-- Literals wherever they stand, if the rest begins with `after`. -/
structure LiteralBefore (after : List Char) (s : List Char) : Prop where
  scan_append : ∀ p, Lexer.scan p (s ++ after) = Lexer.scan p s ++ Lexer.scan (p.after s) after
  literal : ∀ p, ∀ t ∈ Lexer.tokensAt p s, ∃ q v, t = .literal q v

theorem LiteralBefore.nil (after : List Char) : LiteralBefore after [] := by
  constructor
  · intro p
    rw [Lexer.scan]
    rfl
  · intro p
    rw [Lexer.tokensAt, Lexer.scan]
    simp [Lexer.mergeTexts]

theorem ClosesArgument.tokensAt {after : String} (h : ClosesArgument after) :
    ∃ mark, mark ≠ .opening ∧ ∀ p, ∃ rest,
      Lexer.scan p after.toList = .punctuation p mark :: rest := by
  obtain ⟨c, cs, hafter⟩ : ∃ c cs, after.toList = c :: cs := by
    cases hl : after.toList with
    | nil => simp [ClosesArgument, hl] at h
    | cons c cs => exact ⟨c, cs, rfl⟩
  simp only [ClosesArgument, hafter, List.head?_cons, Option.some.injEq] at h
  rcases h with rfl | rfl
  · refine ⟨.closing, nofun, fun p => ⟨Lexer.scan (p.after [']']) cs, ?_⟩⟩
    rw [hafter, Lexer.scan_cons]
    rfl
  · refine ⟨.separator, nofun, fun p => ⟨Lexer.scan (p.after [';']) cs, ?_⟩⟩
    rw [hafter, Lexer.scan_cons]
    rfl

theorem ClosesArgument.endsRun {after : String} (h : ClosesArgument after) :
    Lexer.EndsRun after.toList := by
  intro c hc
  rcases h with h | h
  · obtain rfl := Option.some.inj (h.symm.trans hc)
    decide
  · obtain rfl := Option.some.inj (h.symm.trans hc)
    decide

theorem ClosesArgument.literalBefore {after : String} (h : ClosesArgument after) {s : List Char}
    (hs : ∀ p, ∃ ts, Lexer.ScansTo p s ts ∧ ∀ t ∈ ts, ∃ q v, t = .literal q v) :
    LiteralBefore after.toList s := by
  constructor
  · intro p
    obtain ⟨ts, hscan, -⟩ := hs p
    rw [hscan _ h.endsRun, hscan.scan_eq]
  · intro p
    obtain ⟨ts, hscan, hliteral⟩ := hs p
    rw [hscan.tokensAt_eq]
    exact Lexer.forall_mergeTexts (fun q v => ⟨q, _, rfl⟩) hliteral

theorem tokenize_argument {before after : String} {tokens : List Token} {p : Span}
    {mark : Punctuation} {s : List Char}
    (hb : tokenize before = .ok (tokens ++ [.punctuation p mark])) (ha : ClosesArgument after)
    (hs : LiteralBefore after.toList s) :
    tokenize (before ++ String.ofList s ++ after) =
      .ok (tokens ++ .punctuation p mark ::
        (Lexer.tokensAt (.following before.toList) s ++
          Lexer.tokensAt (.following (before.toList ++ s)) after.toList)) := by
  have hne : before ≠ "" := by
    rintro rfl
    cases hb
  have hmerge : Lexer.tokensAt .start before.toList = tokens ++ [.punctuation p mark] :=
    Except.ok.inj ((tokenize_eq_tokensAt hne).symm.trans hb)
  obtain ⟨ts, hscan, rfl⟩ := Lexer.eq_concat_of_mergeTexts rfl hmerge
  obtain ⟨mark', -, hafter⟩ := ha.tokensAt
  obtain ⟨rest, hrest⟩ := hafter (.following (before.toList ++ s))
  have hsource : before ++ String.ofList s ++ after ≠ "" := by
    intro he
    have hl := congrArg String.toList he
    simp [hne] at hl
  rw [tokenize_eq_tokensAt hsource]
  congr 1
  have hlist : (before ++ String.ofList s ++ after).toList =
      before.toList ++ (s ++ after.toList) := by simp
  have hbegin : Span.start.after before.toList = .following before.toList := Span.start_after _
  have hend : (Span.following before.toList).after s = .following (before.toList ++ s) := by
    rw [← hbegin, ← Span.after_append, Span.start_after]
  rw [hlist, Lexer.tokensAt, Lexer.scan_append hscan, hs.scan_append, hscan, hbegin, hend,
    List.append_assoc, List.singleton_append, Lexer.mergeTexts_append rfl, Lexer.tokensAt,
    Lexer.tokensAt, hrest, Lexer.mergeTexts_append rfl, Lexer.mergeTexts_of_not_text rfl]

theorem Pass.head_step_opens {s : Pass} {mark : Punctuation} (hmark : mark ≠ .closing)
    (hs : s.isStray mark = false) (p : Span) : (s.step (.punctuation p mark)).head = none := by
  obtain ⟨groups, head⟩ := s
  cases mark with
  | closing => exact absurd rfl hmark
  | separator => rfl
  | opening =>
    cases head with
    | none => cases hs
    | some q => rfl

/-- Literals change nothing for what follows, unless they come right after a head. -/
theorem Pass.literals {s : Pass} (hs : s.head = none) {ts : List Token}
    (ht : ∀ t ∈ ts, ∃ p v, t = .literal p v) (strict : Bool) :
    s.Accepts strict ts ∧ s.after ts = s := by
  induction ts with
  | nil => exact ⟨accepts_nil strict s, rfl⟩
  | cons t ts ih =>
    have ⟨⟨p, v, ht'⟩, hts⟩ := List.forall_mem_cons.mp ht
    obtain ⟨ha, hafter⟩ := ih hts
    have hstep : s.step t = s := by
      obtain ⟨groups, head⟩ := s
      obtain rfl : head = none := hs
      rw [ht']
      rfl
    refine ⟨accepts_cons.mpr ⟨?_, by rwa [hstep]⟩, by rw [after_cons, hstep, hafter]⟩
    rw [ht']
    rfl

/-- What parses around some literals parses around others, whatever the places behind them. -/
theorem Pass.accepts_around {strict : Bool} {s : Pass} {before lits lits' after after' : List Token}
    (hs : (s.after before).head = none) (hl : ∀ t ∈ lits, ∃ p v, t = .literal p v)
    (hl' : ∀ t ∈ lits', ∃ p v, t = .literal p v)
    (ha : after.map Token.unplaced = after'.map Token.unplaced)
    (h : s.Accepts strict (before ++ (lits ++ after)) ∧
      (s.after (before ++ (lits ++ after))).groups = []) :
    s.Accepts strict (before ++ (lits' ++ after')) ∧
      (s.after (before ++ (lits' ++ after'))).groups = [] := by
  obtain ⟨hacc, hlits⟩ := literals hs hl strict
  obtain ⟨hacc', hlits'⟩ := literals hs hl' strict
  obtain ⟨hrest, halike⟩ := (Alike.refl (s.after before)).after ha strict
  rw [accepts_append, accepts_append, after_append, after_append, hlits] at h
  rw [accepts_append, accepts_append, after_append, after_append, hlits']
  refine ⟨⟨h.1.1, hacc', hrest.mp h.1.2.2⟩, ?_⟩
  have hlen := halike.groups
  rw [h.2] at hlen
  exact List.eq_nil_of_length_eq_zero hlen.symm

/-- Filling an empty argument with literals changes neither whether the source parses nor anything
else but that argument. -/
theorem compile_argument (strict : Bool) {before after : String} {s : List Char}
    (hb : OpensArgument before) (ha : ClosesArgument after)
    (hs : LiteralBefore after.toList s) :
    ((∃ program, compile strict (before ++ String.ofList s ++ after) = .ok program) ↔
      ∃ program, compile strict (before ++ after) = .ok program) ∧
    ∀ program, compile strict (before ++ String.ofList s ++ after) = .ok program →
      ∃ t ∈ program, t.HasCall fun call =>
        Lexer.tokensAt (.following before.toList) s ∈ call.args := by
  obtain ⟨tokens, p, mark, hbefore, hmark, hstray⟩ := hb
  have hfilled := tokenize_argument hbefore ha hs
  have hempty := tokenize_argument hbefore ha (.nil after.toList)
  have harg := hs.literal (.following before.toList)
  have hnil := (LiteralBefore.nil after.toList).literal (.following before.toList)
  simp only [String.ofList_nil, String.append_empty, List.append_nil] at hempty
  rw [compile_of_tokenize hfilled, compile_of_tokenize hempty]
  constructor
  · have hhead : (Pass.start.after (tokens ++ [.punctuation p mark])).head = none := by
      rw [Pass.after_append]
      exact Pass.head_step_opens hmark hstray p
    have hplace := Lexer.unplaced_tokensAt (.following (before.toList ++ s))
      (.following before.toList) after.toList
    have hsplit := List.append_cons tokens (.punctuation p mark)
    rw [parse_ok_iff, parse_ok_iff, hsplit (_ ++ _), hsplit (_ ++ _)]
    exact ⟨Pass.accepts_around hhead harg hnil hplace,
      Pass.accepts_around hhead hnil harg hplace.symm⟩
  · intro program h
    obtain ⟨mark', hmark', hafter⟩ := ha.tokensAt
    obtain ⟨rest, hrest⟩ := hafter (.following (before.toList ++ s))
    rw [Lexer.tokensAt.eq_def _ after.toList, hrest, Lexer.mergeTexts_of_not_text rfl] at h
    exact Program.hasCall_of_parse hmark hstray harg hmark' h

theorem compile_first_argument {strict : Bool} {name before after : String} {s : List Char}
    (hb : OpensCall name before) (ha : after.toList.head? = some ';')
    (hs : LiteralBefore after.toList s) {program : Program}
    (h : compile strict (before ++ String.ofList s ++ after) = .ok program) :
    ∃ t ∈ program, t.HasCall fun call => call.name = name ∧ ∃ last more,
      call.args = Lexer.tokensAt (.following before.toList) s :: last :: more := by
  obtain ⟨tokens, p, q, htokens⟩ := hb
  have hbefore : tokenize before = .ok ((tokens ++ [.call p name []]) ++
      [.punctuation q .opening]) := by
    rw [htokens, List.append_assoc]
    rfl
  obtain ⟨cs, hcs⟩ := List.head?_eq_some_iff.mp ha
  have hafter (r : Span) : ∃ rest,
      Lexer.tokensAt r after.toList = .punctuation r .separator :: rest := by
    rw [hcs, Lexer.tokensAt, Lexer.scan_cons]
    exact ⟨_, Lexer.mergeTexts_of_not_text rfl _⟩
  obtain ⟨rest, hrest⟩ := hafter (.following (before.toList ++ s))
  rw [compile_of_tokenize (tokenize_argument hbefore (.inr ha) hs), hrest, List.append_assoc] at h
  exact Program.hasCall_of_parse_first (hs.literal _) h

end BracketScript
