import Mathlib
import BracketScript.Program

/-! How deep the calls of a program are nested, and how deep the reader recurses to find out. -/

namespace BracketScript

namespace Token

/-- A token as it comes before parsing, where a call is a head alone. -/
def IsBare : Token → Prop
  | .call _ _ args => args = []
  | _ => True

mutual

/-- How many calls are nested in one another in a token, the outermost included. -/
def nesting : Token → Nat
  | .literal .. => 0
  | .punctuation .. => 0
  | .call _ _ args => nestingOfArguments args + 1

def nestingOfTokens : List Token → Nat
  | [] => 0
  | t :: ts => max t.nesting (nestingOfTokens ts)

def nestingOfArguments : List (List Token) → Nat
  | [] => 0
  | arg :: args => max (nestingOfTokens arg) (nestingOfArguments args)

end

theorem nestingOfTokens_le {ts : List Token} {n : Nat} :
    nestingOfTokens ts ≤ n ↔ ∀ t ∈ ts, t.nesting ≤ n := by
  induction ts with
  | nil => simp [nestingOfTokens]
  | cons t ts ih => simp [nestingOfTokens, ih]

theorem nestingOfArguments_le {args : List (List Token)} {n : Nat} :
    nestingOfArguments args ≤ n ↔ ∀ arg ∈ args, nestingOfTokens arg ≤ n := by
  induction args with
  | nil => simp [nestingOfArguments]
  | cons arg args ih => simp [nestingOfArguments, ih]

end Token

def Program.nesting (program : Program) : Nat :=
  Token.nestingOfTokens program

namespace Program

open Token

mutual

/-- `depth` calls around a token leave so many fewer inside it. -/
theorem readToken_nesting {strict : Bool} {depth : Nat} {t : Token} {ts : List Token}
    {node : Taken Token ts} (hb : ∀ u ∈ t :: ts, u.IsBare)
    (h : readToken strict depth t ts = .ok node) : node.value.nesting ≤ maxNesting - depth := by
  cases t with
  | literal p v =>
    rw [readToken] at h
    obtain rfl := Except.ok.inj h
    simp [Taken.nothing, Token.nesting]
  | punctuation p mark =>
    rw [readToken] at h
    cases strict with
    | true => cases h
    | false =>
      obtain rfl := Except.ok.inj h
      simp [Taken.nothing, Token.text, Token.nesting]
  | call p name args =>
    have hargs : args = [] := hb _ List.mem_cons_self
    by_cases hd : maxNesting ≤ depth
    · rw [readToken.eq_def] at h
      simp [hd] at h
    by_cases ho : ∃ q ts', ts = .punctuation q .opening :: ts'
    · obtain ⟨q, ts', rfl⟩ := ho
      rw [readToken, if_neg hd] at h
      cases hr : readArguments strict (depth + 1) p [] [] ts' with
      | error e =>
        rw [hr] at h
        cases h
      | ok r =>
        rw [hr] at h
        obtain rfl := Except.ok.inj h
        have hi := readArguments_nesting
          (fun u hu => hb u (List.mem_cons_of_mem _ (List.mem_cons_of_mem _ hu)))
          (by simp [nestingOfTokens]) hr
        simp only [Taken.widen, Token.nesting]
        omega
    · rw [readToken, if_neg hd] at h
      · obtain rfl := Except.ok.inj h
        simp only [Taken.nothing, Token.nesting, hargs, nestingOfArguments]
        omega
      · exact fun q ts' he => ho ⟨q, ts', he⟩
termination_by ts.length

theorem readArguments_nesting {strict : Bool} {depth : Nat} {p : Span}
    {arguments : List (List Token)} {current ts : List Token} {r : Taken (List (List Token)) ts}
    (hb : ∀ u ∈ ts, u.IsBare)
    (ha : ∀ arg ∈ current :: arguments, nestingOfTokens arg ≤ maxNesting - depth)
    (h : readArguments strict depth p arguments current ts = .ok r) :
    nestingOfArguments r.value ≤ maxNesting - depth := by
  have hrev : ∀ arg ∈ current.reverse :: arguments, nestingOfTokens arg ≤ maxNesting - depth := by
    obtain ⟨hcur, hargs⟩ := List.forall_mem_cons.mp ha
    refine List.forall_mem_cons.mpr ⟨nestingOfTokens_le.mpr fun t ht => ?_, hargs⟩
    exact nestingOfTokens_le.mp hcur t (List.mem_reverse.mp ht)
  cases ts with
  | nil =>
    rw [readArguments] at h
    cases h
  | cons t ts =>
    have hb' : ∀ u ∈ ts, u.IsBare := fun u hu => hb u (List.mem_cons_of_mem _ hu)
    by_cases hc : ∃ q, t = .punctuation q .closing
    · obtain ⟨q, rfl⟩ := hc
      rw [readArguments] at h
      obtain rfl := Except.ok.inj h
      exact nestingOfArguments_le.mpr fun arg harg => hrev arg (List.mem_reverse.mp harg)
    by_cases hs : ∃ q, t = .punctuation q .separator
    · obtain ⟨q, rfl⟩ := hs
      rw [readArguments] at h
      cases hr : readArguments strict depth p (current.reverse :: arguments) [] ts with
      | error e =>
        rw [hr] at h
        cases h
      | ok taken =>
        rw [hr] at h
        obtain rfl := Except.ok.inj h
        have hempty : nestingOfTokens [] ≤ maxNesting - depth := by simp [nestingOfTokens]
        have hi := readArguments_nesting hb' (List.forall_mem_cons.mpr ⟨hempty, hrev⟩) hr
        exact hi
    rw [readArguments] at h
    · cases hn : readToken strict depth t ts with
      | error e =>
        rw [hn] at h
        cases h
      | ok node =>
        rw [hn] at h
        dsimp only at h
        have hlt := node.length_rest_lt t
        cases hr : readArguments strict depth p arguments (node.value :: current) node.rest with
        | error e =>
          rw [hr] at h
          cases h
        | ok taken =>
          rw [hr] at h
          obtain rfl := Except.ok.inj h
          have hcur : nestingOfTokens (node.value :: current) ≤ maxNesting - depth := by
            simp only [nestingOfTokens, Nat.max_le]
            exact ⟨readToken_nesting hb hn, (List.forall_mem_cons.mp ha).1⟩
          have hi := readArguments_nesting (fun u hu => hb' u (node.isSuffix.subset hu))
            (List.forall_mem_cons.mpr ⟨hcur, (List.forall_mem_cons.mp ha).2⟩) hr
          exact hi
    · exact fun q he => hc ⟨q, he⟩
    · exact fun q he => hs ⟨q, he⟩
termination_by ts.length

end

theorem readAll_nesting {strict : Bool} {nodes ts : List Token} {program : Program}
    (hb : ∀ u ∈ ts, u.IsBare) (hn : nestingOfTokens nodes ≤ maxNesting)
    (h : readAll strict nodes ts = .ok program) : program.nesting ≤ maxNesting := by
  cases ts with
  | nil =>
    rw [readAll] at h
    obtain rfl := Except.ok.inj h
    have ht := nestingOfTokens_le.mp hn
    exact nestingOfTokens_le.mpr fun t htm => ht t (List.mem_reverse.mp htm)
  | cons t ts =>
    rw [readAll] at h
    cases hr : readToken strict 0 t ts with
    | error e =>
      rw [hr] at h
      cases h
    | ok node =>
      rw [hr] at h
      have hlt := node.length_rest_lt t
      have hcur : nestingOfTokens (node.value :: nodes) ≤ maxNesting := by
        simp only [nestingOfTokens, Nat.max_le]
        exact ⟨readToken_nesting hb hr, hn⟩
      refine readAll_nesting (fun u hu => ?_) hcur h
      exact hb u (List.mem_cons_of_mem _ (node.isSuffix.subset hu))
termination_by ts.length

/-- A call of one of the two functions that read a program recursively. -/
inductive Invocation where
  | token (depth : Nat) (t : Token) (rest : List Token)
  | arguments (depth : Nat) (p : Span) (arguments : List (List Token)) (current rest : List Token)

def Invocation.depth : Invocation → Nat
  | token depth .. => depth
  | arguments depth .. => depth

/-- What is called when `tokens` are parsed, with the number of argument lists that are being read at
that time. A list is read on, and not read anew, after each of its tokens and separators. -/
inductive Invoked (strict : Bool) (tokens : List Token) : Nat → Invocation → Prop
  | first {t : Token} {ts : List Token} (h : tokens = t :: ts) :
      Invoked strict tokens 0 (.token 0 t ts)
  | next {t u : Token} {ts us : List Token} {node : Taken Token ts}
      (hi : Invoked strict tokens 0 (.token 0 t ts)) (hr : readToken strict 0 t ts = .ok node)
      (h : node.rest = u :: us) : Invoked strict tokens 0 (.token 0 u us)
  | group {n depth : Nat} {p q : Span} {name : String} {args : List (List Token)}
      {ts : List Token}
      (hi : Invoked strict tokens n
        (.token depth (.call p name args) (.punctuation q .opening :: ts)))
      (hd : depth < maxNesting) : Invoked strict tokens (n + 1) (.arguments (depth + 1) p [] [] ts)
  | separator {n depth : Nat} {p q : Span} {arguments : List (List Token)}
      {current ts : List Token}
      (hi : Invoked strict tokens n
        (.arguments depth p arguments current (.punctuation q .separator :: ts))) :
      Invoked strict tokens n (.arguments depth p (current.reverse :: arguments) [] ts)
  | node {n depth : Nat} {p : Span} {arguments : List (List Token)} {t : Token}
      {current ts : List Token}
      (hi : Invoked strict tokens n (.arguments depth p arguments current (t :: ts)))
      (hc : ∀ q, t ≠ .punctuation q .closing) (hs : ∀ q, t ≠ .punctuation q .separator) :
      Invoked strict tokens n (.token depth t ts)
  | later {n depth : Nat} {p : Span} {arguments : List (List Token)} {t : Token}
      {current ts : List Token} {node : Taken Token ts}
      (hi : Invoked strict tokens n (.arguments depth p arguments current (t :: ts)))
      (hc : ∀ q, t ≠ .punctuation q .closing) (hs : ∀ q, t ≠ .punctuation q .separator)
      (hr : readToken strict depth t ts = .ok node) :
      Invoked strict tokens n (.arguments depth p arguments (node.value :: current) node.rest)

theorem Invoked.depth_eq {strict : Bool} {tokens : List Token} {n : Nat} {i : Invocation}
    (h : Invoked strict tokens n i) : i.depth = n ∧ n ≤ maxNesting := by
  induction h with
  | first _ => exact ⟨rfl, Nat.zero_le _⟩
  | next _ _ _ _ => exact ⟨rfl, Nat.zero_le _⟩
  | group _ hd ih =>
    obtain ⟨rfl, -⟩ := ih
    exact ⟨rfl, hd⟩
  | separator _ ih => exact ih
  | node _ _ _ ih => exact ih
  | later _ _ _ _ ih => exact ih

end Program

end BracketScript
