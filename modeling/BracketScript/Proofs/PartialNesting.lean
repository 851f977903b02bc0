import BracketScript.Proofs.GroupStack
import BracketScript.Proofs.Nesting

/-! How deep the calls of a program are nested that has been read in part. Reading on does not take
nesting away, and so a bound on the whole program is one on each of its readings. -/

namespace BracketScript

namespace Program

open Token

def ShallowGroups (n : Nat) : List Group → Prop
  | [] => True
  | g :: gs =>
    (gs.length < n ∧ ∀ arg ∈ g.current :: g.arguments, ∀ t ∈ arg, gs.length + 1 + t.nesting ≤ n) ∧
      ShallowGroups n gs

/-- At most `n` calls are nested in one another in what has been read. -/
structure Reading.Shallow (n : Nat) (r : Reading) : Prop where
  groups : ShallowGroups n r.groups
  outer : ∀ t ∈ r.outer, t.nesting ≤ n
  head : r.head ≠ none → r.groups.length < n

namespace Reading.Shallow

variable {n : Nat} {r r' : Reading}

theorem of_add {t : Token} (h : (r.add t).Shallow n) :
    r.Shallow n ∧ r.groups.length + t.nesting ≤ n := by
  obtain ⟨groups, outer, head⟩ := r
  obtain ⟨hgroups, houter, hhead⟩ := h
  cases groups with
  | nil =>
    have ⟨ht, houter⟩ := List.forall_mem_cons.mp houter
    refine ⟨⟨hgroups, houter, hhead⟩, ?_⟩
    rw [List.length_nil, Nat.zero_add]
    exact ht
  | cons g gs =>
    obtain ⟨⟨hlt, hargs⟩, hgs⟩ := hgroups
    have ⟨hcurrent, harguments⟩ := List.forall_mem_cons.mp hargs
    have ⟨ht, hcurrent⟩ := List.forall_mem_cons.mp hcurrent
    exact ⟨⟨⟨⟨hlt, List.forall_mem_cons.mpr ⟨hcurrent, harguments⟩⟩, hgs⟩, houter, hhead⟩, ht⟩

theorem of_settle (h : r.settle.Shallow n) : r.Shallow n := by
  obtain ⟨groups, outer, head⟩ := r
  cases head with
  | none => exact h
  | some call =>
    obtain ⟨⟨hgroups, houter, -⟩, hcall⟩ := of_add (r := ⟨groups, outer, none⟩) h
    refine ⟨hgroups, houter, fun _ => ?_⟩
    have hpos : 0 < call.toToken.nesting := Nat.succ_pos _
    have hcall : groups.length + call.toToken.nesting ≤ n := hcall
    show groups.length < n
    omega

theorem of_punctuate {strict : Bool} {p : Span} {mark : Punctuation} (h : r'.Shallow n)
    (hhead : r.head = none) (hr : r.punctuate strict p mark = .ok r') : r.Shallow n := by
  obtain ⟨g, gs, -, hg, rfl⟩ | ⟨g, gs, -, hg, rfl⟩ | rfl := Reading.punctuate_cases hr
  · obtain ⟨⟨hgs, houter, -⟩, hcall⟩ := of_add h
    have hcall : gs.length + (nestingOfArguments (g.current.reverse :: g.arguments).reverse + 1) ≤ n :=
      hcall
    refine ⟨?_, houter, fun hne => absurd hhead hne⟩
    rw [hg]
    refine ⟨⟨by omega, fun arg harg t ht => ?_⟩, hgs⟩
    have ht' : t.nesting ≤ nestingOfArguments (g.current.reverse :: g.arguments).reverse := by
      have hinner := nestingOfArguments_le.mp
        (Nat.le_refl (nestingOfArguments (g.current.reverse :: g.arguments).reverse))
      rcases List.mem_cons.mp harg with rfl | harg
      · exact nestingOfTokens_le.mp (hinner g.current.reverse (by simp)) t (List.mem_reverse.mpr ht)
      · exact nestingOfTokens_le.mp (hinner arg (by simp [harg])) t ht
    omega
  · obtain ⟨⟨hlt, hargs⟩, hgs⟩ := h.groups
    obtain ⟨-, hargs⟩ := List.forall_mem_cons.mp hargs
    have ⟨hcurrent, hargs⟩ := List.forall_mem_cons.mp hargs
    refine ⟨?_, h.outer, fun hne => absurd hhead hne⟩
    rw [hg]
    refine ⟨⟨hlt, List.forall_mem_cons.mpr ⟨fun t ht => ?_, hargs⟩⟩, hgs⟩
    exact hcurrent t (List.mem_reverse.mpr ht)
  · exact (of_add h).1

theorem of_step {strict : Bool} {t : Token} (h : r'.Shallow n) (hr : r.step strict t = .ok r') :
    r.Shallow n := by
  obtain ⟨p, v, rfl, rfl⟩ | ⟨p, name, args, rfl, rfl⟩ | ⟨p, call, rfl, hhead, rfl⟩ |
      ⟨p, mark, rfl, hp⟩ := step_cases hr
  · exact of_settle (of_add h).1
  · refine of_settle ⟨h.groups, h.outer, fun hnone => absurd r.settle_head hnone⟩
  · obtain ⟨⟨hlt, -⟩, hgroups⟩ := h.groups
    exact ⟨hgroups, h.outer, fun _ => hlt⟩
  · exact of_settle (of_punctuate h r.settle_head hp)

theorem of_finish {program : Program} (h : r.finish = .ok program) (hn : program.nesting ≤ n) :
    r.Shallow n := by
  refine of_settle ?_
  rw [Reading.finish] at h
  cases hg : r.settle.groups with
  | nil =>
    rw [hg] at h
    obtain rfl := Except.ok.inj h
    refine ⟨hg ▸ trivial, fun t ht => ?_, fun hne => absurd r.settle_head hne⟩
    exact nestingOfTokens_le.mp hn t (List.mem_reverse.mpr ht)
  | cons g gs =>
    rw [hg] at h
    cases h

theorem of_read {strict : Bool} {ts : List Token} {program : Program}
    (h : read strict r ts = .ok program) (hn : program.nesting ≤ n) : r.Shallow n := by
  induction ts generalizing r with
  | nil => exact of_finish h hn
  | cons t ts ih =>
    rw [read] at h
    cases hs : r.step strict t with
    | error e =>
      rw [hs] at h
      cases h
    | ok r' =>
      rw [hs] at h
      exact of_step (ih h) hs

end Reading.Shallow

end Program

end BracketScript
