import BracketScript.Proofs.Joining
import BracketScript.Proofs.SyntaxFaults

/-! What a program is made of: literals and calls of such lists, at every depth. The punctuation of
groups is used up by the reader and stray punctuation becomes text. A call is as deep in the tree as
groups are open where it stands. -/

namespace BracketScript

namespace Token

/-- A token of a tree. There is no punctuation in it, at any depth. -/
inductive IsNode : Token → Prop
  | literal (p : Span) (v : Literal) : IsNode (.literal p v)
  | call (p : Span) (name : String) {args : List (List Token)}
      (h : ∀ arg ∈ args, ∀ t ∈ arg, IsNode t) : IsNode (.call p name args)

theorem IsNode.args {p : Span} {name : String} {args : List (List Token)}
    (h : (Token.call p name args).IsNode) : ∀ arg ∈ args, ∀ t ∈ arg, t.IsNode := by
  cases h with
  | call _ _ h => exact h

end Token

/-- Every call of a tree that is inside `k` others is where `At` says. -/
inductive Token.Levelled (At : Span → Nat → Prop) : Nat → Token → Prop
  | literal {k : Nat} (p : Span) (v : Literal) : Levelled At k (.literal p v)
  | call {k : Nat} {p : Span} (name : String) {args : List (List Token)} (h : At p k)
      (hargs : ∀ arg ∈ args, ∀ t ∈ arg, Levelled At (k + 1) t) : Levelled At k (.call p name args)

variable {At : Span → Nat → Prop}

theorem Token.Levelled.at {k : Nat} {p : Span} {name : String} {args : List (List Token)}
    (h : (Token.call p name args).Levelled At k) : At p k := by
  cases h with
  | call _ h _ => exact h

theorem Token.Levelled.args {k : Nat} {p : Span} {name : String} {args : List (List Token)}
    (h : (Token.call p name args).Levelled At k) :
    ∀ arg ∈ args, ∀ t ∈ arg, t.Levelled At (k + 1) := by
  cases h with
  | call _ _ hargs => exact hargs

theorem Token.Levelled.isNode {k : Nat} {t : Token} (h : t.Levelled At k) : t.IsNode := by
  induction h with
  | literal p v => exact .literal p v
  | call name _ _ ih => exact .call _ name ih

namespace Program

/-- A group that is open inside `k` others. -/
structure Group.Levelled (At : Span → Nat → Prop) (k : Nat) (g : Group) : Prop where
  head : At g.span k
  arguments : ∀ arg ∈ g.arguments, ∀ t ∈ arg, t.Levelled At (k + 1)
  current : ∀ t ∈ g.current, t.Levelled At (k + 1)

namespace Group.Levelled

variable {k : Nat} {g : Group}

theorem add {t : Token} (h : g.Levelled At k) (ht : t.Levelled At (k + 1)) :
    (g.add t).Levelled At k :=
  ⟨h.head, h.arguments, List.forall_mem_cons.mpr ⟨ht, h.current⟩⟩

theorem arguments_separate (h : g.Levelled At k) :
    ∀ arg ∈ g.current.reverse :: g.arguments, ∀ t ∈ arg, t.Levelled At (k + 1) :=
  List.forall_mem_cons.mpr ⟨fun t ht => h.current t (List.mem_reverse.mp ht), h.arguments⟩

theorem separate (h : g.Levelled At k) : g.separate.Levelled At k :=
  ⟨h.head, h.arguments_separate, by simp [Group.separate]⟩

theorem toToken (h : g.Levelled At k) : g.toToken.Levelled At k :=
  .call g.name h.head fun arg harg => h.arguments_separate arg (List.mem_reverse.mp harg)

end Group.Levelled

/-- Each of the groups is open inside those after it. -/
def LevelledGroups (At : Span → Nat → Prop) : List Group → Prop
  | [] => True
  | g :: gs => g.Levelled At gs.length ∧ LevelledGroups At gs

namespace Reading

structure Levelled (At : Span → Nat → Prop) (r : Reading) : Prop where
  groups : LevelledGroups At r.groups
  outer : ∀ t ∈ r.outer, t.Levelled At 0
  head : ∀ call, r.head = some call → call.toToken.Levelled At r.groups.length

namespace Levelled

theorem start : Reading.start.Levelled At := by
  constructor <;> simp [Reading.start, LevelledGroups]

theorem add {r : Reading} {t : Token} (h : r.Levelled At) (ht : t.Levelled At r.groups.length) :
    (r.add t).Levelled At := by
  obtain ⟨groups, outer, head⟩ := r
  obtain ⟨hgroups, houter, hhead⟩ := h
  cases groups with
  | nil => exact ⟨hgroups, List.forall_mem_cons.mpr ⟨ht, houter⟩, hhead⟩
  | cons g gs => exact ⟨⟨hgroups.1.add ht, hgroups.2⟩, houter, hhead⟩

theorem settle {r : Reading} (h : r.Levelled At) : r.settle.Levelled At := by
  obtain ⟨groups, outer, head⟩ := r
  cases head with
  | none => exact h
  | some call =>
    have hnone : Levelled At ⟨groups, outer, none⟩ := ⟨h.groups, h.outer, by simp⟩
    exact hnone.add (h.head call rfl)

theorem punctuate {strict : Bool} {r r' : Reading} {p : Span} {mark : Punctuation}
    (h : r.Levelled At) (hn : r.head = none) (hr : r.punctuate strict p mark = .ok r') :
    r'.Levelled At := by
  obtain ⟨g, gs, -, hgroups, rfl⟩ | ⟨g, gs, -, hgroups, rfl⟩ | rfl := punctuate_cases hr
  · have ⟨hg, hgs⟩ : LevelledGroups At (g :: gs) := hgroups ▸ h.groups
    have hrest : Levelled At ⟨gs, r.outer, r.head⟩ := ⟨hgs, h.outer, by simp [hn]⟩
    exact hrest.add hg.toToken
  · have ⟨hg, hgs⟩ : LevelledGroups At (g :: gs) := hgroups ▸ h.groups
    exact ⟨⟨hg.separate, hgs⟩, h.outer, by simp [hn]⟩
  · exact h.add (.literal p _)

theorem step {strict : Bool} {r r' : Reading} {t : Token} (h : r.Levelled At) (hb : t.IsBare)
    (hAt : ∀ p name args, t = .call p name args → At p r.groups.length)
    (hr : r.step strict t = .ok r') : r'.Levelled At := by
  obtain ⟨p, v, rfl, rfl⟩ | ⟨p, name, args, rfl, rfl⟩ | ⟨p, call, rfl, hcall, rfl⟩ |
      ⟨p, mark, rfl, hp⟩ :=
    step_cases hr
  · exact h.settle.add (.literal p v)
  · refine ⟨h.settle.groups, h.settle.outer, fun call hc => ?_⟩
    obtain rfl := Option.some.inj hc
    obtain rfl : args = [] := hb
    rw [length_groups_settle]
    exact .call name (hAt p name [] rfl) (by simp)
  · have hempty : Group.Levelled At r.groups.length ⟨call.span, call.name, [], []⟩ :=
      ⟨(h.head call hcall).at, by simp, by simp⟩
    exact ⟨⟨hempty, h.groups⟩, h.outer, by simp⟩
  · exact h.settle.punctuate r.settle_head hp

theorem finish {r : Reading} {program : Program} (h : r.Levelled At)
    (hr : r.finish = .ok program) : ∀ t ∈ program, t.Levelled At 0 := by
  rw [Reading.finish] at hr
  split at hr
  · obtain rfl := Except.ok.inj hr
    exact fun t ht => h.settle.outer t (List.mem_reverse.mp ht)
  · cases hr

end Levelled

end Reading

theorem read_levelled {strict : Bool} {r : Reading} {ts : List Token} {program : Program}
    (hr : r.Levelled At) (hb : ∀ t ∈ ts, t.IsBare)
    (hAt : ∀ before p name args rest, ts = before ++ .call p name args :: rest →
      At p (r.pass.after before).groups.length)
    (h : read strict r ts = .ok program) : ∀ t ∈ program, t.Levelled At 0 := by
  induction ts generalizing r with
  | nil => exact hr.finish h
  | cons t ts ih =>
    have ⟨ht, hts⟩ := List.forall_mem_cons.mp hb
    rw [read] at h
    cases hs : r.step strict t with
    | error e =>
      rw [hs] at h
      cases h
    | ok r' =>
      rw [hs] at h
      have hhere : ∀ p name args, t = .call p name args → At p r.groups.length := by
        rintro p name args rfl
        simpa [Reading.pass] using hAt [] p name args ts rfl
      refine ih (hr.step ht hhere hs) hts (fun before p name args rest he => ?_) h
      have hthere := hAt (t :: before) p name args rest (congrArg (t :: ·) he)
      rwa [Pass.after_cons, ← (Reading.step_ok hs).2] at hthere

end Program

namespace Lexer

theorem isBare_toToken (p : Span) (said : Lexeme) : (said.toToken p).IsBare := by
  cases said with
  | literal v => trivial
  | head name => rfl
  | punctuation mark => trivial

theorem scan_bare (p : Span) (s : List Char) : ∀ t ∈ scan p s, t.IsBare := by
  cases s with
  | nil =>
    rw [scan]
    simp
  | cons c rest =>
    have hlt : (rest.drop (lexeme c rest).2).length < (c :: rest).length := by
      simp only [List.length_drop, List.length_cons]
      omega
    rw [scan]
    exact List.forall_mem_cons.mpr ⟨isBare_toToken p _, scan_bare _ _⟩
termination_by s.length

end Lexer

theorem tokenize_bare {source : String} {tokens : List Token} (h : tokenize source = .ok tokens) :
    ∀ t ∈ tokens, t.IsBare := by
  rw [tokenize] at h
  split at h
  · cases h
  · obtain rfl := Except.ok.inj h
    exact Lexer.forall_mergeTexts (fun p s => trivial) (Lexer.scan_bare _ _)

theorem read_of_compile {strict : Bool} {source : String} {program : Program}
    (h : compile strict source = .ok program) :
    ∃ tokens, tokenize source = .ok tokens ∧ Program.read strict .start tokens = .ok program := by
  cases ht : tokenize source with
  | error e =>
    rw [compile, ht] at h
    cases h
  | ok tokens =>
    rw [compile_of_tokenize ht, parse_eq_read] at h
    exact ⟨tokens, rfl, h⟩

theorem compile_nodes {strict : Bool} {source : String} {program : Program}
    (h : compile strict source = .ok program) : ∀ t ∈ program, t.IsNode := by
  obtain ⟨tokens, ht, hr⟩ := read_of_compile h
  have hlevelled : ∀ t ∈ program, t.Levelled (fun _ _ => True) 0 :=
    Program.read_levelled .start (tokenize_bare ht) (fun _ _ _ _ _ _ => trivial) hr
  exact fun t htmem => (hlevelled t htmem).isNode

end BracketScript
