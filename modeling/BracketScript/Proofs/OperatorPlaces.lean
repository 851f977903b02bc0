import BracketScript.Proofs.Truthiness

/-! Arguments that keep the place of their first operator beside their nodes. The place is noted
when the operator is pushed, so that every argument put together by pushes has it right, and a
condition that goes by it is the one that looks for the operator. -/

namespace BracketScript

/-- An operator that is not the first of its argument counts as its spelling. -/
def Token.plain : Token → Token
  | .literal p (.operator op) => .text p op.spelling
  | t => t

section Comparison

variable {t : Token} {op : Operator} {lhs rhs : List Token}

theorem comparison?_of_first (hop : t.operator? = some op) (hlhs : ∀ t ∈ lhs, t.operator? = none)
    (rhs : List Token) : comparison? (lhs ++ t :: rhs) = some (lhs, op, rhs) := by
  induction lhs with
  | nil => rw [List.nil_append, comparison?, hop]
  | cons u lhs ih =>
    obtain ⟨hu, hlhs⟩ := List.forall_mem_cons.mp hlhs
    rw [List.cons_append, comparison?, hu, ih hlhs]
    rfl

theorem comparison?_of_forall {ts : List Token} (h : ∀ t ∈ ts, t.operator? = none) :
    comparison? ts = none := by
  induction ts with
  | nil => rfl
  | cons t ts ih =>
    obtain ⟨ht, hts⟩ := List.forall_mem_cons.mp h
    rw [comparison?, ht, ih hts]
    rfl

end Comparison

section Evaluation

variable {κ σ : Type} (dispatch : Call → Run κ σ Value)

theorem evaluateToken_plain (t : Token) : evaluateToken dispatch t.plain = evaluateToken dispatch t := by
  cases t with
  | literal p v => cases v <;> rfl
  | call p name args => rfl
  | punctuation p mark => rfl

theorem evaluateSequence_plain (ts : List Token) :
    evaluateSequence dispatch (ts.map Token.plain) = evaluateSequence dispatch ts := by
  have htokens : evaluateTokens dispatch (ts.map Token.plain) = evaluateTokens dispatch ts := by
    induction ts with
    | nil => rfl
    | cons t ts ih => rw [List.map_cons, evaluateTokens, evaluateTokens, evaluateToken_plain, ih]
  rw [evaluateSequence, htokens, evaluateSequence]

/-- What is left of an operator is evaluated, then what is right of it in the machine that this
leaves, unless it has failed or has stopped the run. -/
def compareInTurn (lhs : List Token) (op : Operator) (rhs : List Token) (m : Machine κ σ) :
    Except ScriptError Bool × Machine κ σ :=
  match Run.start m (evaluateSequence dispatch lhs) with
  | (.error e, m₁) => (.error e, m₁)
  | (.ok v, m₁) =>
    if m₁.world.context.stopped then (.ok (op.holds v.trimmed .undefined), m₁)
    else
      match Run.start m₁ (evaluateSequence dispatch rhs) with
      | (.error e, m₂) => (.error e, m₂)
      | (.ok w, m₂) => (.ok (op.holds v.trimmed w.trimmed), m₂)

theorem start_condition_eq_compareInTurn {tokens lhs rhs : List Token} {op : Operator}
    (h : comparison? tokens = some (lhs, op, rhs)) (m : Machine κ σ) :
    Run.start m (perform dispatch (condition tokens)) = compareInTurn dispatch lhs op rhs m := by
  rw [condition, h, compareInTurn]
  rcases hv : Run.start m (evaluateSequence dispatch lhs) with ⟨e | v, m₁⟩
  · exact Run.start_bind_error _ hv
  refine (Run.start_bind_ok _ hv).trans ?_
  dsimp only
  split
  · rename_i hstop
    exact Run.start_bind_ok _ (start_evaluateSequence_of_stopped dispatch hstop rhs)
  · rcases hw : Run.start m₁ (evaluateSequence dispatch rhs) with ⟨e | w, m₂⟩
    · exact Run.start_bind_error _ hw
    · exact Run.start_bind_ok _ hw

theorem start_condition_eq_map {tokens : List Token} (h : comparison? tokens = none)
    (m : Machine κ σ) : Run.start m (perform dispatch (condition tokens)) =
      ((Run.start m (evaluateSequence dispatch tokens)).1.map fun v => v.trimmed.isTrue,
        (Run.start m (evaluateSequence dispatch tokens)).2) := by
  rcases hv : Run.start m (evaluateSequence dispatch tokens) with ⟨e | v, m₁⟩
  · exact start_condition_error h hv
  · exact start_condition_ok h hv

end Evaluation

namespace Parsed

/-- The nodes of an argument, and where the first operator among them stands, if one does. -/
structure Argument (ν : Type) where
  nodes : List ν := []
  operatorAt? : Option Nat := none

/-- A token of a tree whose arguments keep the places of their operators. -/
inductive Node where
  | literal (span : Span) (value : Literal)
  | call (span : Span) (name : String) (args : List (Argument Node))
  | punctuation (span : Span) (mark : Punctuation)

namespace Node

def operator? : Node → Option Operator
  | literal _ (.operator op) => some op
  | _ => none

end Node

namespace Argument

variable {a : Argument Node} {n : Node}

/-- The place is noted once and for all when the first operator comes. -/
def push (a : Argument Node) (n : Node) : Argument Node where
  nodes := a.nodes ++ [n]
  operatorAt? :=
    if a.operatorAt?.isNone && n.operator?.isSome then some a.nodes.length else a.operatorAt?

def ofNodes (nodes : List Node) : Argument Node :=
  nodes.foldl push {}

/-- What stands before the noted place, the operator there, and what stands after it. -/
def comparison? (a : Argument Node) : Option (List Node × Operator × List Node) := do
  let i ← a.operatorAt?
  let n ← a.nodes[i]?
  let op ← n.operator?
  return (a.nodes.take i, op, a.nodes.drop (i + 1))

/-- Arguments put together by pushes. -/
inductive Built : Argument Node → Prop
  | empty : Built {}
  | push {a : Argument Node} (h : Built a) (n : Node) : Built (a.push n)

theorem built_ofNodes (nodes : List Node) : (ofNodes nodes).Built := by
  suffices h : ∀ a : Argument Node, a.Built → (nodes.foldl push a).Built from h {} .empty
  induction nodes with
  | nil => exact fun a h => h
  | cons n nodes ih => exact fun a h => ih _ (h.push n)

/-- The noted place is that of the first operator. -/
def IsNoted (a : Argument Node) : Prop :=
  a.operatorAt? = a.nodes.findIdx? (·.operator?.isSome)

theorem IsNoted.push (h : a.IsNoted) (n : Node) : (a.push n).IsNoted := by
  rw [IsNoted] at h
  rw [IsNoted, Argument.push, List.findIdx?_append, ← h]
  cases a.operatorAt? with
  | some i => rfl
  | none =>
    cases hn : n.operator? with
    | none => simp [hn]
    | some op => simp [hn]

theorem Built.isNoted (h : a.Built) : a.IsNoted := by
  induction h with
  | empty => rfl
  | push _ n ih => exact ih.push n

section Comparison

variable {lhs rhs : List Node} {op : Operator}

theorem comparison?_eq_none (h : a.IsNoted) (hnone : ∀ n ∈ a.nodes, n.operator? = none) :
    a.comparison? = none := by
  have hat : a.operatorAt? = none := by
    rw [h, List.findIdx?_eq_none_iff]
    intro n hn
    rw [hnone n hn]
    rfl
  rw [comparison?, hat]
  rfl

theorem comparison?_of_split (h : a.IsNoted) (hsplit : a.nodes = lhs ++ n :: rhs)
    (hop : n.operator? = some op) (hlhs : ∀ n ∈ lhs, n.operator? = none) :
    a.comparison? = some (lhs, op, rhs) := by
  have hat : a.operatorAt? = some lhs.length := by
    have hfirst : lhs.findIdx? (·.operator?.isSome) = none := by
      rw [List.findIdx?_eq_none_iff]
      intro n hn
      rw [hlhs n hn]
      rfl
    rw [h, hsplit, List.findIdx?_append, hfirst, List.findIdx?_cons, hop]
    simp
  have hget : a.nodes[lhs.length]? = some n := by
    rw [hsplit]
    simp
  rw [comparison?, hat, Option.bind_eq_bind, Option.bind_some, hget]
  simp [hop, hsplit]

/-- The nodes stand on both sides of the first operator, if there is one. -/
theorem exists_split (nodes : List Node) : (∀ n ∈ nodes, n.operator? = none) ∨
    ∃ lhs n op rhs, nodes = lhs ++ n :: rhs ∧ n.operator? = some op ∧
      ∀ n ∈ lhs, n.operator? = none := by
  induction nodes with
  | nil => exact .inl (by simp)
  | cons n nodes ih =>
    cases hn : n.operator? with
    | some op => exact .inr ⟨[], n, op, nodes, rfl, hn, by simp⟩
    | none =>
      rcases ih with ih | ⟨lhs, n', op, rhs, rfl, hop, hlhs⟩
      · exact .inl (List.forall_mem_cons.mpr ⟨hn, ih⟩)
      · exact .inr ⟨n :: lhs, n', op, rhs, rfl, hop, List.forall_mem_cons.mpr ⟨hn, hlhs⟩⟩

theorem isSome_comparison? (h : a.IsNoted) :
    a.comparison?.isSome = true ↔ ∃ n ∈ a.nodes, n.operator?.isSome = true := by
  rcases exists_split a.nodes with hnone | ⟨lhs, n, op, rhs, hsplit, hop, hlhs⟩
  · rw [comparison?_eq_none h hnone]
    refine iff_of_false nofun ?_
    rintro ⟨n, hn, hop⟩
    rw [hnone n hn] at hop
    exact absurd hop nofun
  · rw [comparison?_of_split h hsplit hop hlhs]
    refine iff_of_true rfl ⟨n, ?_, by rw [hop, Option.isSome_some]⟩
    rw [hsplit]
    exact List.mem_append_right _ List.mem_cons_self

theorem split_of_comparison? (h : a.IsNoted) (hc : a.comparison? = some (lhs, op, rhs)) :
    (∃ n, n.operator? = some op ∧ a.nodes = lhs ++ n :: rhs) ∧ ∀ n ∈ lhs, n.operator? = none := by
  rcases exists_split a.nodes with hnone | ⟨lhs', n, op', rhs', hsplit, hop, hlhs⟩
  · rw [comparison?_eq_none h hnone] at hc
    exact absurd hc nofun
  · rw [comparison?_of_split h hsplit hop hlhs] at hc
    obtain ⟨rfl, rfl, rfl⟩ : lhs' = lhs ∧ op' = op ∧ rhs' = rhs := by simpa using hc
    exact ⟨⟨n, hop, hsplit⟩, hlhs⟩

end Comparison

end Argument

/-! A tree without the places, and the tree that has them again. -/

mutual

def Node.forget : Node → Token
  | .literal p v => .literal p v
  | .call p name args => .call p name (forgetArguments args)
  | .punctuation p mark => .punctuation p mark

def forgetArguments : List (Argument Node) → List (List Token)
  | [] => []
  | a :: args => a.forget :: forgetArguments args

def Argument.forget : Argument Node → List Token
  | ⟨nodes, _⟩ => forgetNodes nodes

def forgetNodes : List Node → List Token
  | [] => []
  | n :: nodes => n.forget :: forgetNodes nodes

end

mutual

def Node.ofToken : Token → Node
  | .literal p v => .literal p v
  | .call p name args => .call p name (argumentsOf args)
  | .punctuation p mark => .punctuation p mark

def argumentsOf : List (List Token) → List (Argument Node)
  | [] => []
  | ts :: args => .ofNodes (nodesOf ts) :: argumentsOf args

def nodesOf : List Token → List Node
  | [] => []
  | t :: ts => .ofToken t :: nodesOf ts

end

theorem forgetNodes_eq_map (nodes : List Node) : forgetNodes nodes = nodes.map Node.forget := by
  induction nodes with
  | nil => rfl
  | cons n nodes ih => rw [forgetNodes, ih, List.map_cons]

theorem forget_eq_map (a : Argument Node) : a.forget = a.nodes.map Node.forget := by
  obtain ⟨nodes, _⟩ := a
  exact forgetNodes_eq_map nodes

theorem nodesOf_eq_map (ts : List Token) : nodesOf ts = ts.map Node.ofToken := by
  induction ts with
  | nil => rfl
  | cons t ts ih => rw [nodesOf, ih, List.map_cons]

theorem argumentsOf_eq_map (args : List (List Token)) :
    argumentsOf args = args.map fun ts => .ofNodes (nodesOf ts) := by
  induction args with
  | nil => rfl
  | cons ts args ih => rw [argumentsOf, ih, List.map_cons]

theorem nodes_ofNodes (nodes : List Node) : (Argument.ofNodes nodes).nodes = nodes := by
  suffices h : ∀ a : Argument Node, (nodes.foldl Argument.push a).nodes = a.nodes ++ nodes from h {}
  induction nodes with
  | nil => exact fun a => (List.append_nil _).symm
  | cons n nodes ih =>
    intro a
    rw [List.foldl_cons, ih, Argument.push, List.append_assoc, List.singleton_append]

mutual

theorem forget_ofToken (t : Token) : (Node.ofToken t).forget = t := by
  cases t with
  | literal p v => rfl
  | call p name args => rw [Node.ofToken, Node.forget, forgetArguments_argumentsOf]
  | punctuation p mark => rfl

theorem forgetArguments_argumentsOf (args : List (List Token)) :
    forgetArguments (argumentsOf args) = args := by
  cases args with
  | nil => rfl
  | cons ts args =>
    rw [argumentsOf, forgetArguments, forget_eq_map, nodes_ofNodes, ← forgetNodes_eq_map,
      forgetNodes_nodesOf, forgetArguments_argumentsOf]

theorem forgetNodes_nodesOf (ts : List Token) : forgetNodes (nodesOf ts) = ts := by
  cases ts with
  | nil => rfl
  | cons t ts => rw [nodesOf, forgetNodes, forget_ofToken, forgetNodes_nodesOf]

end

theorem operator?_forget (n : Node) : n.forget.operator? = n.operator? := by
  cases n with
  | literal p v => cases v <;> rfl
  | call p name args => rfl
  | punctuation p mark => rfl

/-! Reading that notes the places of operators as it pushes nodes. -/

open Program (Taken stray)

mutual

def readToken (strict : Bool) (depth : Nat) :
    Token → (ts : List Token) → Except ScriptError (Taken Node ts)
  | .literal p v, _ => .ok (.nothing (.literal p v))
  | .call p name args, ts =>
    if maxNesting ≤ depth then .error (.malformed p .nestedTooDeep)
    else
      match ts with
      | .punctuation _ .opening :: ts' =>
        match readArguments strict (depth + 1) p [] {} ts' with
        | .ok r => .ok (Taken.widen ⟨.call p name r.value, r.rest, r.isSuffix⟩ (List.suffix_cons _ _))
        | .error e => .error e
      | _ => .ok (.nothing (.ofToken (.call p name args)))
  | .punctuation p mark, _ =>
    match stray strict p mark with
    | .ok t => .ok (.nothing (.ofToken t))
    | .error e => .error e
termination_by _ ts => ts.length
decreasing_by exact Nat.lt_succ_self _

def readArguments (strict : Bool) (depth : Nat) (p : Span) (arguments : List (Argument Node))
    (current : Argument Node) : (ts : List Token) → Except ScriptError (Taken (List (Argument Node)) ts)
  | [] => .error (.malformed p .unclosed)
  | .punctuation _ .closing :: _ =>
    .ok (Taken.widen (.nothing (arguments ++ [current])) (List.suffix_cons _ _))
  | .punctuation _ .separator :: ts =>
    match readArguments strict depth p (arguments ++ [current]) {} ts with
    | .ok r => .ok (r.widen (List.suffix_cons _ _))
    | .error e => .error e
  | t :: ts =>
    match readToken strict depth t ts with
    | .ok node =>
      match readArguments strict depth p arguments (current.push node.value) node.rest with
      | .ok r => .ok (r.widen (node.isSuffix.trans (List.suffix_cons _ _)))
      | .error e => .error e
    | .error e => .error e
termination_by ts => ts.length
decreasing_by
  · exact Nat.lt_succ_self _
  · exact Nat.lt_succ_self _
  · exact node.length_rest_lt t

end

def readAll (strict : Bool) (nodes : List Node) : List Token → Except ScriptError (List Node)
  | [] => .ok nodes
  | t :: ts =>
    match readToken strict 0 t ts with
    | .ok node => readAll strict (nodes ++ [node.value]) node.rest
    | .error e => .error e
termination_by ts => ts.length
decreasing_by exact node.length_rest_lt t

/-- What was read, in another form. -/
def taken {α β : Type} {ts : List Token} (f : α → β) (r : Taken α ts) : Taken β ts :=
  ⟨f r.value, r.rest, r.isSuffix⟩

theorem ofNodes_push (ts : List Token) (t : Token) :
    (Argument.ofNodes (nodesOf ts)).push (.ofToken t) = .ofNodes (nodesOf (ts ++ [t])) := by
  rw [nodesOf_eq_map, nodesOf_eq_map, List.map_append, Argument.ofNodes, Argument.ofNodes,
    List.foldl_append]
  rfl

mutual

theorem readToken_eq (strict : Bool) (depth : Nat) (t : Token) (ts : List Token) :
    readToken strict depth t ts =
      (Program.readToken strict depth t ts).map (taken Node.ofToken) := by
  cases t with
  | literal p v => rw [readToken, Program.readToken]; rfl
  | punctuation p mark =>
    rw [readToken, Program.readToken]
    cases stray strict p mark <;> rfl
  | call p name args =>
    by_cases hd : maxNesting ≤ depth
    · unfold readToken Program.readToken
      rw [if_pos hd, if_pos hd]
      rfl
    by_cases ho : ∃ q ts', ts = .punctuation q .opening :: ts'
    · obtain ⟨q, ts', rfl⟩ := ho
      have ha := readArguments_eq strict (depth + 1) p [] [] ts'
      rw [readToken, Program.readToken, if_neg hd, if_neg hd]
      change readArguments strict (depth + 1) p [] {} ts' = _ at ha
      rw [ha]
      cases Program.readArguments strict (depth + 1) p [] [] ts' <;> rfl
    · have hn : ∀ q ts', ts = .punctuation q .opening :: ts' → False :=
        fun q ts' h => ho ⟨q, ts', h⟩
      rw [readToken, Program.readToken, if_neg hd, if_neg hd]
      · rfl
      · exact hn
      · exact hn
termination_by ts.length

theorem readArguments_eq (strict : Bool) (depth : Nat) (p : Span) (arguments : List (List Token))
    (current ts : List Token) :
    readArguments strict depth p (argumentsOf arguments.reverse) (.ofNodes (nodesOf current.reverse))
        ts =
      (Program.readArguments strict depth p arguments current ts).map (taken argumentsOf) := by
  have hclose : argumentsOf arguments.reverse ++ [.ofNodes (nodesOf current.reverse)] =
      argumentsOf (current.reverse :: arguments).reverse := by
    simp [argumentsOf_eq_map]
  cases ts with
  | nil => rw [readArguments, Program.readArguments]; rfl
  | cons t ts =>
    by_cases hc : ∃ q, t = .punctuation q .closing
    · obtain ⟨q, rfl⟩ := hc
      rw [readArguments, Program.readArguments, hclose]
      rfl
    by_cases hs : ∃ q, t = .punctuation q .separator
    · obtain ⟨q, rfl⟩ := hs
      have ha := readArguments_eq strict depth p (current.reverse :: arguments) [] ts
      rw [readArguments, Program.readArguments, hclose]
      change readArguments strict depth p _ {} ts = _ at ha
      rw [ha]
      cases Program.readArguments strict depth p (current.reverse :: arguments) [] ts <;> rfl
    · rw [readArguments, Program.readArguments, readToken_eq]
      · cases Program.readToken strict depth t ts with
        | error e => rfl
        | ok node =>
          have hle := node.isSuffix.length_le
          have ha := readArguments_eq strict depth p arguments (node.value :: current) node.rest
          rw [List.reverse_cons, ← ofNodes_push] at ha
          simp only [Except.map, taken]
          rw [ha]
          cases Program.readArguments strict depth p arguments (node.value :: current) node.rest <;>
            rfl
      · exact fun q he => hc ⟨q, he⟩
      · exact fun q he => hs ⟨q, he⟩
      · exact fun q he => hc ⟨q, he⟩
      · exact fun q he => hs ⟨q, he⟩
termination_by ts.length

end

theorem readAll_eq (strict : Bool) (nodes ts : List Token) :
    readAll strict (nodesOf nodes.reverse) ts = (Program.readAll strict nodes ts).map nodesOf := by
  cases ts with
  | nil => rw [readAll, Program.readAll]; rfl
  | cons t ts =>
    rw [readAll, Program.readAll, readToken_eq]
    cases Program.readToken strict 0 t ts with
    | error e => rfl
    | ok node =>
      have hle := node.isSuffix.length_le
      have ha := readAll_eq strict (node.value :: nodes) node.rest
      rw [nodesOf_eq_map, List.reverse_cons, List.map_append, ← nodesOf_eq_map] at ha
      exact ha
termination_by ts.length

/-- Reads a whole script. -/
def read (strict : Bool) (tokens : List Token) : Except ScriptError (List Node) :=
  readAll strict [] tokens

theorem read_eq (strict : Bool) (tokens : List Token) :
    read strict tokens = (parse strict tokens).map nodesOf :=
  readAll_eq strict [] tokens

namespace Argument

variable {a : Argument Node}

/-- The arguments of a call, and those of the calls among their nodes. -/
inductive Within (a : Argument Node) : Node → Prop
  | own {p : Span} {name : String} {args : List (Argument Node)} (h : a ∈ args) :
    Within a (.call p name args)
  | inside {p : Span} {name : String} {args : List (Argument Node)} {b : Argument Node} {n : Node}
    (hb : b ∈ args) (hn : n ∈ b.nodes) (h : Within a n) : Within a (.call p name args)

theorem Within.built {t : Token} (h : a.Within (.ofToken t)) : a.Built := by
  generalize hn : Node.ofToken t = n at h
  induction h generalizing t with
  | own hmem =>
    cases t with
    | call p name args =>
      obtain ⟨-, -, rfl⟩ := Node.call.inj hn
      rw [argumentsOf_eq_map] at hmem
      obtain ⟨ts, -, rfl⟩ := List.mem_map.mp hmem
      exact built_ofNodes _
    | _ => exact absurd hn nofun
  | inside hb hmem _ ih =>
    cases t with
    | call p name args =>
      obtain ⟨-, -, rfl⟩ := Node.call.inj hn
      rw [argumentsOf_eq_map] at hb
      obtain ⟨ts, -, rfl⟩ := List.mem_map.mp hb
      rw [nodes_ofNodes, nodesOf_eq_map] at hmem
      obtain ⟨u, -, hu⟩ := List.mem_map.mp hmem
      exact ih hu
    | _ => exact absurd hn nofun

/-- The ways to come by an argument: by pushing nodes one after the other, by collecting them, and by
reading a script, in which it may stand at any depth. -/
inductive Arises : Argument Node → Prop
  | pushed {a : Argument Node} (h : a.Built) : Arises a
  | collected (nodes : List Node) : Arises (ofNodes nodes)
  | read {a : Argument Node} {strict : Bool} {tokens : List Token} {nodes : List Node} {n : Node}
    (hread : read strict tokens = .ok nodes) (hn : n ∈ nodes) (h : a.Within n) : Arises a

theorem Arises.isNoted (h : a.Arises) : a.IsNoted := by
  cases h with
  | pushed h => exact h.isNoted
  | collected nodes => exact (built_ofNodes nodes).isNoted
  | @read _ strict tokens nodes n hread hn h =>
    rw [read_eq] at hread
    cases hparse : parse strict tokens with
    | error e =>
      rw [hparse] at hread
      exact absurd hread nofun
    | ok program =>
      rw [hparse] at hread
      obtain rfl : nodesOf program = nodes := Except.ok.inj hread
      rw [nodesOf_eq_map] at hn
      obtain ⟨t, -, rfl⟩ := List.mem_map.mp hn
      exact h.built.isNoted

section Condition

variable {κ σ : Type}

/-- The truth of an argument, which goes by the noted place. -/
def condition (a : Argument Node) : Routine κ σ Bool :=
  match a.comparison? with
  | some (lhs, op, rhs) => do
    let v ← Routine.evaluate (forgetNodes lhs)
    let w ← Routine.evaluate (forgetNodes rhs)
    return op.holds v.trimmed w.trimmed
  | none => do
    let v ← Routine.evaluate a.forget
    return v.trimmed.isTrue

theorem comparison?_forget (h : a.IsNoted) : BracketScript.comparison? a.forget =
    a.comparison?.map fun (lhs, op, rhs) => (forgetNodes lhs, op, forgetNodes rhs) := by
  have hforget : ∀ {nodes : List Node}, (∀ n ∈ nodes, n.operator? = none) →
      ∀ t ∈ forgetNodes nodes, t.operator? = none := by
    intro nodes hnone t ht
    rw [forgetNodes_eq_map] at ht
    obtain ⟨n, hn, rfl⟩ := List.mem_map.mp ht
    rw [operator?_forget, hnone n hn]
  rcases exists_split a.nodes with hnone | ⟨lhs, n, op, rhs, hsplit, hop, hlhs⟩
  · rw [comparison?_eq_none h hnone, forget_eq_map, ← forgetNodes_eq_map,
      comparison?_of_forall (hforget hnone)]
    rfl
  · have hnodes : a.forget = forgetNodes lhs ++ n.forget :: forgetNodes rhs := by
      rw [forget_eq_map, hsplit, List.map_append, List.map_cons, ← forgetNodes_eq_map,
        ← forgetNodes_eq_map]
    rw [comparison?_of_split h hsplit hop hlhs, hnodes,
      comparison?_of_first ((operator?_forget n).trans hop) (hforget hlhs)]
    rfl

theorem condition_eq (h : a.IsNoted) :
    (a.condition : Routine κ σ Bool) = BracketScript.condition a.forget := by
  rw [condition, BracketScript.condition, comparison?_forget h]
  cases a.comparison? <;> rfl

/-- Reading with places is the reading that runs. However an argument arises, its comparison is that
at its first operator, and its condition evaluates the two sides of it in turn. -/
theorem comparison_at_first_operator (h : a.Arises) (dispatch : Call → Run κ σ Value)
    (m : Machine κ σ) :
    (∀ strict tokens, (read strict tokens).map forgetNodes = parse strict tokens) ∧
    (a.comparison?.isSome = true ↔ ∃ n ∈ a.nodes, n.operator?.isSome = true) ∧
    (∀ lhs op rhs, a.comparison? = some (lhs, op, rhs) →
      (∃ n, n.operator? = some op ∧ a.nodes = lhs ++ n :: rhs) ∧ ∀ n ∈ lhs, n.operator? = none) ∧
    (a.condition : Routine κ σ Bool) = BracketScript.condition a.forget ∧
    (∀ lhs n op rhs, a.nodes = lhs ++ n :: rhs → n.operator? = some op →
      (∀ n ∈ lhs, n.operator? = none) →
      Run.start m (perform dispatch a.condition) =
        compareInTurn dispatch (forgetNodes lhs) op ((forgetNodes rhs).map Token.plain) m) ∧
    ((∀ n ∈ a.nodes, n.operator? = none) →
      Run.start m (perform dispatch a.condition) =
        ((Run.start m (evaluateSequence dispatch a.forget)).1.map fun v => v.trimmed.isTrue,
          (Run.start m (evaluateSequence dispatch a.forget)).2)) := by
  have hnoted := h.isNoted
  refine ⟨fun strict tokens => ?_, isSome_comparison? hnoted,
    fun lhs op rhs hc => split_of_comparison? hnoted hc, condition_eq hnoted,
    fun lhs n op rhs hsplit hop hlhs => ?_, fun hnone => ?_⟩
  · rw [read_eq]
    cases parse strict tokens with
    | error e => rfl
    | ok program => exact congrArg Except.ok (forgetNodes_nodesOf program)
  · have hcomparison : BracketScript.comparison? a.forget =
        some (forgetNodes lhs, op, forgetNodes rhs) := by
      rw [comparison?_forget hnoted, comparison?_of_split hnoted hsplit hop hlhs]
      rfl
    rw [condition_eq hnoted, start_condition_eq_compareInTurn dispatch hcomparison, compareInTurn,
      compareInTurn, evaluateSequence_plain]
  · rw [condition_eq hnoted]
    apply start_condition_eq_map
    rw [comparison?_forget hnoted, comparison?_eq_none hnoted hnone]
    rfl

/-- A call before the first operator that fails: the call after it is not made. -/
theorem comparison_at_first_operator_failing :
    let a := ofNodes [.call ⟨1, 1⟩ "$left" [], .literal ⟨1, 6⟩ (.operator .equal),
      .call ⟨1, 8⟩ "$right" []]
    let e : Engine Builtin := Engine.ofRegistry Builtin.registry
    let m := e.machine (e.prepare "failing") ()
    let dispatch : Call → Run Builtin Unit Value := fun call =>
      throw (.failed call.name .bracketsExpected)
    a.comparison?.isSome = true ∧
      Run.start m (perform dispatch a.condition) = (.error (.failed "$left" .bracketsExpected), m) := by
  intro a e m dispatch
  obtain ⟨-, hsome, -, -, hsplit, -⟩ :=
    comparison_at_first_operator (a := a) (.collected _) dispatch m
  refine ⟨hsome.mpr ⟨_, List.mem_cons_of_mem _ List.mem_cons_self, rfl⟩, ?_⟩
  rw [hsplit [.call ⟨1, 1⟩ "$left" []] (.literal ⟨1, 6⟩ (.operator .equal)) .equal
    [.call ⟨1, 8⟩ "$right" []] rfl rfl (by simp [Node.operator?])]
  rfl

end Condition

end Argument

end Parsed

end BracketScript
