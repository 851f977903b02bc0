import BracketScript.Library
import BracketScript.Proofs.Filling
import BracketScript.Proofs.Rounding

/-! Comparison of integers, as values and as they are written in the condition of a branch. It goes
by the nearest doubles, so that large integers close to each other count as equal. -/

namespace BracketScript

/-- Whether two integers are as the operator says. -/
def Operator.compares (op : Operator) (a b : Int) : Bool :=
  match op with
  | equal => a == b
  | notEqual => a != b
  | atLeast => decide (b ≤ a)
  | atMost => decide (a ≤ b)
  | greater => decide (b < a)
  | less => decide (a < b)

/-- `b` as far as doubles tell it from `a`. -/
def Double.toldFrom (a b : Int) : Int :=
  if ofInt a = ofInt b then a else b

theorem Double.toldFrom_of_le {a b : Int} (ha : a.natAbs ≤ 2 ^ 53) (hb : b.natAbs ≤ 2 ^ 53) :
    toldFrom a b = b := by
  rw [toldFrom]
  split
  · rename_i h
    exact (ofInt_inj ha hb).mp h
  · rfl

theorem Double.compare_ofInt_toldFrom {a b : Int} (ha : a.natAbs ≤ 2 ^ 63)
    (hb : b.natAbs ≤ 2 ^ 63) :
    (ofInt a).compare (ofInt b) = some (Ord.compare a (toldFrom a b)) := by
  rw [compare_ofInt ha hb, toldFrom]
  split
  · exact congrArg some (compare_eq_iff_eq.mpr rfl).symm
  · rfl

theorem Operator.holds_of_numbers (op : Operator) {v w : Value} {a b : Int}
    (ha : a.natAbs ≤ 2 ^ 63) (hb : b.natAbs ≤ 2 ^ 63) (hv : v.number? = some (Double.ofInt a))
    (hw : w.number? = some (Double.ofInt b)) :
    op.holds v w = op.compares a (Double.toldFrom a b) := by
  have h := Double.compare_ofInt_toldFrom ha hb
  have hequals : v.equals w = (some (Ord.compare a (Double.toldFrom a b)) == some .eq) := by
    simp only [Value.equals, hv, hw, h]
  have horder : v.order? w = some (Ord.compare a (Double.toldFrom a b)) := by
    simp only [Value.order?, hv, hw, h]
  generalize Double.toldFrom a b = c at hequals horder
  rcases lt_trichotomy a c with hlt | rfl | hgt
  · rw [compare_lt_iff_lt.mpr hlt] at hequals horder
    cases op <;> simp [holds, compares, hequals, horder] <;> omega
  · rw [compare_eq_iff_eq.mpr rfl] at hequals horder
    cases op <;> simp [holds, compares, hequals, horder]
  · rw [compare_gt_iff_gt.mpr hgt] at hequals horder
    cases op <;> simp [holds, compares, hequals, horder] <;> omega

namespace Lexer

theorem operatorOf?_plain {c d : Char} (hd : isPlain d = true) : operatorOf? [c, d] = none := by
  cases h : operatorOf? [c, d] with
  | none => rfl
  | some op =>
    have hs := spelling_of_operatorOf? h
    have hdouble : '=' = d := by
      cases op <;> simp [Operator.spelling] at hs <;> exact hs.2
    rw [← hdouble] at hd
    exact absurd hd (by decide)

theorem endsRun_operator (op : Operator) (s : List Char) : EndsRun (op.spelling.toList ++ s) := by
  cases op <;>
    · intro d hd
      obtain rfl := Option.some.inj hd
      decide

theorem scan_operator (p : Span) (op : Operator) {c : Char} (hc : isPlain c = true)
    (s : List Char) :
    scan p (op.spelling.toList ++ c :: s) =
      .literal p (.operator op) :: scan (p.after op.spelling.toList) (c :: s) := by
  -- an operator of one character might be the first of two
  have hone (d : Char) (hd : isOperatorChar d = true) :
      lexeme d (c :: s) = operatorLexeme d [] := by
    have htake : (c :: s).take 1 = [c] := rfl
    rw [lexeme_operator hd, operatorLexeme, operatorLexeme, htake, operatorOf?_plain hc,
      List.take_nil]
    cases operatorOf? [d] <;> rfl
  cases op with
  | greater =>
    change scan p ('>' :: c :: s) = _
    rw [scan_cons, hone '>' (by decide)]
    rfl
  | less =>
    change scan p ('<' :: c :: s) = _
    rw [scan_cons, hone '<' (by decide)]
    rfl
  | _ =>
    refine (scan_cons p _ _).trans ?_
    rfl

end Lexer

/-- An integer as it may be written on one side of an operator. -/
structure Operand where
  number : Int64
  before : List Char
  after : List Char
  blank_before : ∀ c ∈ before, Text.isBlank c = true
  blank_after : ∀ c ∈ after, Text.isBlank c = true

namespace Operand

open Lexer

def chars (o : Operand) : List Char :=
  o.before ++ Decimal.ofInt o.number.toInt ++ o.after

theorem chars_ne_nil (o : Operand) : o.chars ≠ [] := by
  have h := Decimal.ofInt_ne_nil o.number.toInt
  simp [chars, h]

theorem isPlain_of_mem_chars (o : Operand) : ∀ c ∈ o.chars, isPlain c = true := by
  intro c hc
  rcases List.mem_append.mp hc with hc | hc
  · rcases List.mem_append.mp hc with hc | hc
    · exact isPlain_of_isBlank (o.blank_before c hc)
    · exact isPlain_of_mem_ofInt hc
  · exact isPlain_of_isBlank (o.blank_after c hc)

theorem exists_chars_eq_cons (o : Operand) : ∃ c s, o.chars = c :: s ∧ isPlain c = true := by
  obtain ⟨c, s, h⟩ := List.exists_cons_of_ne_nil o.chars_ne_nil
  exact ⟨c, s, h, o.isPlain_of_mem_chars c (h ▸ List.mem_cons_self)⟩

theorem trimChars_chars (o : Operand) : Text.trimChars o.chars = Decimal.ofInt o.number.toInt :=
  Text.trimChars_ofInt o.blank_before o.blank_after o.number.toInt

def token (o : Operand) (p : Span) : Token :=
  (plainLexeme o.chars).toToken p

/-- With blanks around it an integer is a text, which has the same number. -/
theorem number?_trimmed_value (o : Operand) (p : Span) :
    (o.token p).value.trimmed.number? = some (Double.ofInt o.number.toInt) := by
  have htrim := o.trimChars_chars
  rw [token, plainLexeme]
  cases h : Decimal.readWord? o.chars with
  | some n =>
    have hn : o.number = n := by
      have hchars := Decimal.ofInt_of_readWord? h
      have hself := Text.trimChars_ofInt_self n.toInt
      rw [hchars, htrim] at hself
      rw [← hself, Decimal.readWord?_ofInt] at h
      exact Option.some.inj h
    rw [hn]
    rfl
  | none =>
    have hself := Text.trimChars_ofInt_self o.number.toInt
    have hfinite := Double.isFinite_ofInt (Double.natAbs_toInt_le o.number)
    change (Value.text (Text.trim (String.ofList o.chars))).number? = _
    simp [Value.number?, Text.trim, htrim, hself, Double.readPlain?_ofInt, hfinite]

/-- A comparison as it is written. -/
def compared (l : Operand) (op : Operator) (r : Operand) : List Char :=
  l.chars ++ (op.spelling.toList ++ r.chars)

def tokens (l : Operand) (op : Operator) (r : Operand) (p : Span) : List Token :=
  [l.token p, .literal (p.after l.chars) (.operator op),
    r.token ((p.after l.chars).after op.spelling.toList)]

theorem scansTo_compared (l : Operand) (op : Operator) (r : Operand) (p : Span) :
    ScansTo p (l.compared op r) (l.tokens op r p) := by
  have hleft := ScansTo.run p l.chars_ne_nil l.isPlain_of_mem_chars
  have hright := ScansTo.run ((p.after l.chars).after op.spelling.toList) r.chars_ne_nil
    r.isPlain_of_mem_chars
  refine hleft.append (fun t ht => ?_) fun t _ => ?_
  · obtain ⟨c, cs, hr, hc⟩ := r.exists_chars_eq_cons
    have hmiddle := scan_operator (p.after l.chars) op hc (cs ++ t)
    rw [← List.cons_append, ← hr, hright t ht] at hmiddle
    rw [List.append_assoc, hmiddle, Span.after_append]
    rfl
  · rw [List.append_assoc]
    exact endsRun_operator op _

theorem tokensAt_compared (l : Operand) (op : Operator) (r : Operand) (p : Span) :
    tokensAt p (l.compared op r) = l.tokens op r p := by
  have hnot : ((l.token p).isText && (Token.literal (p.after l.chars) (.operator op)).isText) =
      false := Bool.and_false _
  rw [(l.scansTo_compared op r p).tokensAt_eq, tokens, mergeTexts_of_not_both hnot,
    mergeTexts_of_not_text rfl, mergeTexts_singleton]

theorem literal_of_mem_tokens (l : Operand) (op : Operator) (r : Operand) (p : Span) :
    ∀ t ∈ l.tokens op r p, ∃ q v, t = .literal q v := by
  intro t ht
  simp only [tokens, List.mem_cons, List.not_mem_nil, or_false] at ht
  rcases ht with rfl | rfl | rfl
  · exact (isDatum_plainLexeme _ _).literal
  · exact ⟨_, _, rfl⟩
  · exact (isDatum_plainLexeme _ _).literal

theorem literalBefore_compared {after : String} (h : ClosesArgument after) (l : Operand)
    (op : Operator) (r : Operand) : LiteralBefore after.toList (l.compared op r) :=
  h.literalBefore fun p => ⟨_, l.scansTo_compared op r p, l.literal_of_mem_tokens op r p⟩

theorem comparison?_tokens (l : Operand) (op : Operator) (r : Operand) (p : Span) :
    comparison? (l.tokens op r p) = some ([l.token p], op,
      [r.token ((p.after l.chars).after op.spelling.toList)]) := by
  have hleft : (l.token p).operator? = none := (isDatum_plainLexeme p l.chars).operator?
  rw [tokens, comparison?, hleft]
  rfl

end Operand

variable {κ σ : Type}

/-- A branch on a comparison goes by the values of both sides. -/
theorem body_ifElse {call : Call} {tokens lhs rhs last : List Token} {more : List (List Token)}
    {op : Operator} (ha : call.args = tokens :: last :: more)
    (hc : comparison? tokens = some (lhs, op, rhs)) :
    (Builtin.ifElse.body call : Routine κ σ Value) =
      .ask (.evaluate lhs) fun v => .ask (.evaluate rhs) fun w =>
        call.argument (if op.holds v.trimmed w.trimmed then 1 else 2) := by
  obtain ⟨span, name, args⟩ := call
  obtain rfl : args = tokens :: last :: more := ha
  have hcondition : (condition tokens : Routine κ σ Bool) =
      .ask (.evaluate lhs) fun v => .ask (.evaluate rhs) fun w =>
        .done (op.holds v.trimmed w.trimmed) := by
    rw [condition, hc]
    rfl
  have hbody : (Builtin.ifElse.body ⟨span, name, tokens :: last :: more⟩ : Routine κ σ Value) =
      Library.branch ⟨span, name, tokens :: last :: more⟩ := by
    have hrequire : (Call.require ⟨span, name, tokens :: last :: more⟩ 2 : Routine κ σ Unit) =
        .done () := by
      simp [Call.require, Call.hasBrackets, Call.given]
    change (Call.require _ 2).bind (fun _ => Library.branch _) = _
    rw [hrequire]
    rfl
  have hbranch : (Library.branch ⟨span, name, tokens :: last :: more⟩ : Routine κ σ Value) =
      (condition tokens).bind fun holds =>
        Call.argument ⟨span, name, tokens :: last :: more⟩ (if holds then 1 else 2) := rfl
  rw [hbody, hbranch, hcondition]
  rfl

theorem start_ifElse {l r : Operand} {op : Operator} {p : Span} {call : Call} {last : List Token}
    {more : List (List Token)} (ha : call.args = l.tokens op r p :: last :: more)
    (dispatch : Call → Run κ σ Value) {m : Machine κ σ} (hm : m.world.context.stopped = false) :
    Run.start m (perform dispatch (Builtin.ifElse.body call)) =
      Run.start m (perform dispatch (call.argument
        (if op.compares l.number.toInt (Double.toldFrom l.number.toInt r.number.toInt)
          then 1 else 2))) := by
  have hvalue (o : Operand) (q : Span) :
      Run.start m (evaluateSequence dispatch [o.token q]) = (.ok (o.token q).value, m) := by
    have hdata := Lexer.isDatum_plainLexeme q o.chars
    exact start_evaluateSequence dispatch hm (List.forall_mem_singleton.mpr hdata.literal)
  have hholds := op.holds_of_numbers (Double.natAbs_toInt_le l.number)
    (Double.natAbs_toInt_le r.number) (l.number?_trimmed_value p)
    (r.number?_trimmed_value ((p.after l.chars).after op.spelling.toList))
  rw [body_ifElse ha (l.comparison?_tokens op r p), ← hholds]
  exact (start_ask_evaluate dispatch (hvalue l p) _).trans
    (start_ask_evaluate dispatch (hvalue r _) _)

/-- Integers are compared as their nearest doubles are, so exactly where these tell them apart, and
always up to `2 ^ 53`. A branch on a comparison that is written out does the same. -/
theorem compares_integers {κ σ : Type} (op : Operator) (l r : Operand) :
    let holds := op.compares l.number.toInt (Double.toldFrom l.number.toInt r.number.toInt)
    op.holds (.int l.number) (.int r.number) = holds ∧
      (l.number.toInt.natAbs ≤ 2 ^ 53 → r.number.toInt.natAbs ≤ 2 ^ 53 →
        holds = op.compares l.number.toInt r.number.toInt) ∧
      ∀ (strict : Bool) (before after : String), OpensCall "$if" before →
        after.toList.head? = some ';' →
        ((∃ program, compile strict (before ++ String.ofList (l.compared op r) ++ after) =
          .ok program) ↔ ∃ program, compile strict (before ++ after) = .ok program) ∧
        ∀ program, compile strict (before ++ String.ofList (l.compared op r) ++ after) =
          .ok program → ∃ t ∈ program, t.HasCall fun call => call.name = "$if" ∧
            call.args[0]? =
              some (Lexer.tokensAt (.following before.toList) (l.compared op r)) ∧
            ∀ (dispatch : Call → Run κ σ Value) (m : Machine κ σ),
              m.world.context.stopped = false →
              Run.start m (perform dispatch (Builtin.ifElse.body call)) =
                Run.start m (perform dispatch (call.argument (if holds then 1 else 2))) := by
  intro holds
  refine ⟨?_, fun hl hr => ?_, fun strict before after hb ha => ?_⟩
  · exact op.holds_of_numbers (Double.natAbs_toInt_le _) (Double.natAbs_toInt_le _) rfl rfl
  · rw [show holds = op.compares _ (Double.toldFrom _ _) from rfl, Double.toldFrom_of_le hl hr]
  have hliteral := Operand.literalBefore_compared (.inr ha) l op r
  refine ⟨(compile_argument strict hb.opensArgument (.inr ha) hliteral).1, fun program hp => ?_⟩
  obtain ⟨t, ht, hhas⟩ := compile_first_argument hb ha hliteral hp
  refine ⟨t, ht, hhas.mono ?_⟩
  rintro call ⟨hname, last, more, hargs⟩
  refine ⟨hname, by rw [hargs, List.getElem?_cons_zero], fun dispatch m hm => ?_⟩
  rw [Operand.tokensAt_compared] at hargs
  exact start_ifElse hargs dispatch hm

/-- Where doubles do not tell integers apart, different ones are equal. -/
theorem equal_holds_of_distinct :
    (9007199254740993 : Int64) ≠ 9007199254740992 ∧
      Operator.equal.holds (.int 9007199254740993) (.int 9007199254740992) = true ∧
      Operator.greater.holds (.int 9007199254740993) (.int 9007199254740992) = false := by
  decide +kernel

/-- Seven is greater than minus seven, with a blank on either side of the operator. -/
theorem compares_integers_blanks :
    let l : Operand := ⟨7, [], [' '], nofun, List.forall_mem_singleton.mpr (by decide)⟩
    let r : Operand := ⟨-7, [' '], [], List.forall_mem_singleton.mpr (by decide), nofun⟩
    l.number.toInt.natAbs ≤ 2 ^ 53 ∧ r.number.toInt.natAbs ≤ 2 ^ 53 ∧
      Operator.greater.holds (.int 7) (.int (-7)) = true ∧
      OpensCall "$if" "$if[" ∧ ";yes;no]".toList.head? = some ';' ∧
      ∃ program, compile true ("$if[" ++ String.ofList (l.compared .greater r) ++ ";yes;no]") =
        .ok program ∧ ∃ t ∈ program, t.HasCall fun call => call.name = "$if" ∧
          ∀ (dispatch : Call → Run Builtin Unit Value) (m : Machine Builtin Unit),
            m.world.context.stopped = false →
            Run.start m (perform dispatch (Builtin.ifElse.body call)) =
              Run.start m (perform dispatch (call.argument 1)) := by
  intro l r
  have hl : l.number.toInt.natAbs ≤ 2 ^ 53 := by decide
  have hr : r.number.toInt.natAbs ≤ 2 ^ 53 := by decide
  have hopens : OpensCall "$if" "$if[" := ⟨[], ⟨1, 1⟩, ⟨1, 4⟩, by cbv⟩
  obtain ⟨hvalues, hexact, hwritten⟩ :=
    compares_integers (κ := Builtin) (σ := Unit) .greater l r
  have hholds : Operator.greater.compares l.number.toInt
      (Double.toldFrom l.number.toInt r.number.toInt) = true := (hexact hl hr).trans (by decide)
  obtain ⟨hcompiles, hcalls⟩ := hwritten true "$if[" ";yes;no]" hopens (by decide)
  obtain ⟨program, hp⟩ := hcompiles.mpr ⟨_, show compile true ("$if[" ++ ";yes;no]") =
    .ok [.call ⟨1, 1⟩ "$if" [[], [.text ⟨1, 6⟩ "yes"], [.text ⟨1, 10⟩ "no"]]] by cbv⟩
  obtain ⟨t, ht, hhas⟩ := hcalls program hp
  refine ⟨hl, hr, hvalues.trans hholds, hopens, by decide, program, hp, t, ht, hhas.mono ?_⟩
  rintro call ⟨hname, -, hbranch⟩
  refine ⟨hname, fun dispatch m hm => ?_⟩
  rw [hbranch dispatch m hm, hholds]
  rfl

end BracketScript
