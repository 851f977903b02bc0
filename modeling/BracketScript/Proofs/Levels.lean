import BracketScript.Proofs.Nodes
import BracketScript.Proofs.Placement

/-! How many calls each call of a program is written inside. The reader takes no call where too many
groups are open, so none of a program is too deep. -/

namespace BracketScript

/-- A call stands at `p` in a token stream where `k` groups are open. -/
def StandsInside (tokens : List Token) (p : Span) (k : Nat) : Prop :=
  ∃ before name args rest, tokens = before ++ .call p name args :: rest ∧
    (Pass.start.after before).groups.length = k

/-- A call is written at `p` in a source, inside the brackets of `k` calls. -/
def WrittenInside (source : String) (p : Span) (k : Nat) : Prop :=
  ∃ tokens, tokenize source = .ok tokens ∧ StandsInside tokens p k

/-- A call of a program is as deep in its tree as it is written in the source. -/
theorem compile_levelled {strict : Bool} {source : String} {program : Program}
    (h : compile strict source = .ok program) :
    ∀ t ∈ program, t.Levelled (WrittenInside source) 0 := by
  obtain ⟨tokens, ht, hr⟩ := read_of_compile h
  refine Program.read_levelled .start (tokenize_bare ht) (fun before p name args rest he => ?_) hr
  exact ⟨tokens, ht, before, name, args, rest, he, rfl⟩

theorem Span.not_before_self (p : Span) : ¬ p.Before p := by
  simp [Before]

theorem StandsInside.unique {tokens : List Token} {p : Span} {k k' : Nat}
    (ht : tokens.Pairwise fun t u => t.span.Before u.span) (h : StandsInside tokens p k)
    (h' : StandsInside tokens p k') : k = k' := by
  obtain ⟨before, name, args, rest, rfl, rfl⟩ := h
  obtain ⟨before', name', args', rest', he, rfl⟩ := h'
  obtain ⟨between, rfl, hrest⟩ | ⟨between, rfl, hrest⟩ := List.append_eq_append_iff.mp he
  · cases between with
    | nil => rw [List.append_nil]
    | cons t between =>
      obtain ⟨-, rfl⟩ := List.cons.inj hrest
      have hlater := (List.pairwise_append.mp ht).2.1
      have hbefore := (List.pairwise_cons.mp hlater).1 (.call p name' args') (by simp)
      exact absurd hbefore p.not_before_self
  · cases between with
    | nil => rw [List.append_nil]
    | cons t between =>
      obtain ⟨rfl, -⟩ := List.cons.inj hrest
      have hlater := (List.pairwise_append.mp ht).2.2 (.call p name' args') (by simp)
        (.call p name args) (by simp)
      exact absurd hlater p.not_before_self

theorem WrittenInside.unique {source : String} {p : Span} {k k' : Nat}
    (h : WrittenInside source p k) (h' : WrittenInside source p k') : k = k' := by
  obtain ⟨tokens, ht, hk⟩ := h
  obtain ⟨tokens', ht', hk'⟩ := h'
  obtain rfl := Except.ok.inj (ht.symm.trans ht')
  exact hk.unique (tokenize_pairwise ht) hk'

theorem Pass.complaint?_of_deep (strict : Bool) {s : Pass} {p : Span} {name : String}
    {args : List (List Token)} (h : maxNesting ≤ s.groups.length) :
    s.complaint? strict (.call p name args) = some "nesting too deep" :=
  if_pos h

theorem WrittenInside.lt_maxNesting {strict : Bool} {source : String} {program : Program} {p : Span}
    {k : Nat} (h : WrittenInside source p k) (hc : compile strict source = .ok program) :
    k < maxNesting := by
  obtain ⟨tokens, ht, before, name, args, rest, rfl, rfl⟩ := h
  rw [compile_of_tokenize ht, parse_eq_read] at hc
  have haccepted : (Pass.start.after before).complaint? strict (.call p name args) = none :=
    (Program.read_ok hc).1 before _ rest rfl
  by_contra hlimit
  cases haccepted.symm.trans (Pass.complaint?_of_deep strict (Nat.le_of_not_lt hlimit))

theorem Pass.exists_first_complaint {strict : Bool} {s : Pass} {ts : List Token}
    (h : ¬ s.Accepts strict ts) :
    ∃ before t rest text, ts = before ++ t :: rest ∧ s.Accepts strict before ∧
      (s.after before).complaint? strict t = some text := by
  induction ts generalizing s with
  | nil => exact absurd (accepts_nil strict s) h
  | cons t ts ih =>
    cases hc : s.complaint? strict t with
    | some text => exact ⟨[], t, ts, text, rfl, accepts_nil strict s, hc⟩
    | none =>
      have hrest : ¬ (s.step t).Accepts strict ts := fun ha => h (accepts_cons.mpr ⟨hc, ha⟩)
      obtain ⟨before, u, rest, text, rfl, ha, hu⟩ := ih hrest
      exact ⟨t :: before, u, rest, text, rfl, accepts_cons.mpr ⟨hc, ha⟩, hu⟩

/-- A call inside 64 others is refused, unless something before it is. -/
theorem WrittenInside.refused {source : String} {p : Span} {k : Nat}
    (h : WrittenInside source p k) (hk : maxNesting ≤ k) (strict : Bool) :
    ∃ q text, Refuses (compile strict source) q text ∧
      (q = p ∧ text = "nesting too deep" ∨ q.Before p) := by
  obtain ⟨tokens, ht, before, name, args, rest, rfl, rfl⟩ := h
  have hpairwise := tokenize_pairwise ht
  rw [compile_of_tokenize ht, parse_eq_read]
  by_cases ha : Pass.start.Accepts strict before
  · have hcomplaint : (Pass.start.after before).complaint? strict (.call p name args) = _ :=
      Pass.complaint?_of_deep strict hk
    exact ⟨p, _, Program.read_refuses (r := .start) ha hcomplaint, .inl ⟨rfl, rfl⟩⟩
  · obtain ⟨first, t, between, text, rfl, hfirst, hcomplaint⟩ := Pass.exists_first_complaint ha
    refine ⟨t.span, text, ?_, .inr ?_⟩
    · rw [List.append_assoc]
      exact Program.read_refuses (r := .start) hfirst hcomplaint
    · exact (List.pairwise_append.mp hpairwise).2.2 t (by simp) (.call p name args) (by simp)

namespace Lexer

theorem mergeTexts_eq_self {ts : List Token} (h : ∀ t ∈ ts, t.isText = false) :
    mergeTexts ts = ts := by
  induction ts with
  | nil => rfl
  | cons t ts ih =>
    have ⟨ht, hts⟩ := List.forall_mem_cons.mp h
    rw [mergeTexts_of_not_text ht, ih hts]

/-- The beginnings of `n` calls, each inside those before it. -/
def openings (n : Nat) : List Char :=
  (List.replicate n ['$', 'f', '[']).flatten

theorem scan_openings (n : Nat) (p : Span) (s : Pass) (rest : List Char) :
    ∃ tokens, scan p (openings n ++ rest) = tokens ++ scan (p.after (openings n)) rest ∧
      (∀ t ∈ tokens, t.isText = false) ∧ (s.after tokens).groups.length = s.groups.length + n := by
  induction n generalizing p s with
  | zero => exact ⟨[], rfl, by simp, rfl⟩
  | succ n ih =>
    let q := p.after ['$', 'f']
    let opened : Pass := (s.step (.call p "$f" [])).step (.punctuation q .opening)
    obtain ⟨tokens, hscan, htext, hgroups⟩ := ih (q.after ['[']) opened
    refine ⟨.call p "$f" [] :: .punctuation q .opening :: tokens, ?_, ?_, ?_⟩
    · change scan p ('$' :: 'f' :: '[' :: (openings n ++ rest)) = _
      rw [scan_cons]
      change _ :: scan q ('[' :: (openings n ++ rest)) = _
      rw [scan_cons]
      exact congrArg (.call p "$f" [] :: .punctuation q .opening :: ·) hscan
    · exact List.forall_mem_cons.mpr ⟨rfl, List.forall_mem_cons.mpr ⟨rfl, htext⟩⟩
    · rw [Pass.after_cons, Pass.after_cons, hgroups]
      change s.groups.length + 1 + n = _
      omega

end Lexer

theorem writtenInside_openings (n : Nat) :
    WrittenInside (String.ofList (Lexer.openings n ++ ['$', 'f']))
      (Span.start.after (Lexer.openings n)) n := by
  obtain ⟨tokens, hscan, htext, hgroups⟩ := Lexer.scan_openings n .start .start ['$', 'f']
  have hlast (p : Span) : Lexer.scan p ['$', 'f'] = [.call p "$f" []] := by
    rw [Lexer.scan_cons]
    change _ :: Lexer.scan _ [] = _
    rw [Lexer.scan]
    rfl
  refine ⟨tokens ++ [.call _ "$f" []], ?_, tokens, "$f", [], [], rfl, ?_⟩
  · rw [tokenize, if_neg (by simp), String.toList_ofList, hscan, hlast, Lexer.mergeTexts_eq_self]
    exact List.forall_mem_append.mpr ⟨htext, by simp [Token.isText]⟩
  · exact hgroups.trans (Nat.zero_add n)

end BracketScript
