import BracketScript.Proofs.Placement

/-! The arguments of a call as they stand in a program: what is read in an open group stays together
as one argument of its call. -/

namespace BracketScript

/-- At some depth there is a call with the property `P`. -/
inductive Token.HasCall (P : Call → Prop) : Token → Prop
  | here {p : Span} {name : String} {args : List (List Token)} (h : P ⟨p, name, args⟩) :
      HasCall P (.call p name args)
  | inside {p : Span} {name : String} {args : List (List Token)} {arg : List Token} {t : Token}
      (harg : arg ∈ args) (ht : t ∈ arg) (h : HasCall P t) : HasCall P (.call p name args)

theorem Token.HasCall.mono {P Q : Call → Prop} (hPQ : ∀ call, P call → Q call) {t : Token}
    (h : t.HasCall P) : t.HasCall Q := by
  induction h with
  | here h => exact .here (hPQ _ h)
  | inside harg ht _ ih => exact .inside harg ht ih

namespace Program

variable {P : Call → Prop}

namespace Group

/-- Whatever arguments follow, one at least, the call of the group has the property. -/
def Settles (P : Call → Prop) (g : Group) : Prop :=
  ∀ arg more, P ⟨g.span, g.name, g.arguments.reverse ++ arg :: more⟩

def Holds (P : Call → Prop) (g : Group) : Prop :=
  g.Settles P ∨ ∃ arg ∈ g.current :: g.arguments, ∃ t ∈ arg, t.HasCall P

theorem Holds.add {g : Group} (h : g.Holds P) (t : Token) : (g.add t).Holds P := by
  rcases h with h | ⟨arg, harg, u, hu, hP⟩
  · exact .inl h
  rcases List.mem_cons.mp harg with rfl | harg
  · exact .inr ⟨_, List.mem_cons_self, u, List.mem_cons_of_mem t hu, hP⟩
  · exact .inr ⟨arg, List.mem_cons_of_mem _ harg, u, hu, hP⟩

theorem holds_add_of_hasCall (g : Group) {t : Token} (h : t.HasCall P) : (g.add t).Holds P :=
  .inr ⟨_, List.mem_cons_self, t, List.mem_cons_self, h⟩

theorem exists_mem_separate {g : Group}
    (h : ∃ arg ∈ g.current :: g.arguments, ∃ t ∈ arg, t.HasCall P) :
    ∃ arg ∈ g.current.reverse :: g.arguments, ∃ t ∈ arg, t.HasCall P := by
  obtain ⟨arg, harg, t, ht, hP⟩ := h
  rcases List.mem_cons.mp harg with rfl | harg
  · exact ⟨_, List.mem_cons_self, t, List.mem_reverse.mpr ht, hP⟩
  · exact ⟨arg, List.mem_cons_of_mem _ harg, t, ht, hP⟩

theorem Holds.separate {g : Group} (h : g.Holds P) : g.separate.Holds P := by
  rcases h with h | h
  · refine .inl fun arg more => ?_
    have hmore := h g.current.reverse (arg :: more)
    simpa [Group.separate] using hmore
  · obtain ⟨arg, harg, hP⟩ := exists_mem_separate h
    exact .inr ⟨arg, List.mem_cons_of_mem _ harg, hP⟩

theorem Holds.toToken {g : Group} (h : g.Holds P) : g.toToken.HasCall P := by
  rcases h with h | h
  · have hP := h g.current.reverse []
    refine .here ?_
    simpa using hP
  · obtain ⟨arg, harg, t, ht, hP⟩ := exists_mem_separate h
    exact .inside (List.mem_reverse.mpr harg) ht hP

end Group

namespace Reading

def Holds (P : Call → Prop) (r : Reading) : Prop :=
  (∃ g ∈ r.groups, g.Holds P) ∨ ∃ t ∈ r.outer, t.HasCall P

theorem Holds.add {r : Reading} (h : r.Holds P) (t : Token) : (r.add t).Holds P := by
  obtain ⟨groups, outer, head⟩ := r
  cases groups with
  | nil =>
    obtain ⟨g, hg, -⟩ | ⟨u, hu, hP⟩ := h
    · simp at hg
    · exact .inr ⟨u, List.mem_cons_of_mem t hu, hP⟩
  | cons g gs =>
    obtain ⟨g', hg', hP⟩ | h := h
    · rcases List.mem_cons.mp hg' with rfl | hg'
      · exact .inl ⟨_, List.mem_cons_self, hP.add t⟩
      · exact .inl ⟨g', List.mem_cons_of_mem _ hg', hP⟩
    · exact .inr h

theorem holds_add_of_hasCall (r : Reading) {t : Token} (h : t.HasCall P) : (r.add t).Holds P := by
  obtain ⟨groups, outer, head⟩ := r
  cases groups with
  | nil => exact .inr ⟨t, List.mem_cons_self, h⟩
  | cons g gs => exact .inl ⟨_, List.mem_cons_self, g.holds_add_of_hasCall h⟩

theorem Holds.settle {r : Reading} (h : r.Holds P) : r.settle.Holds P := by
  obtain ⟨groups, outer, head⟩ := r
  cases head with
  | none => exact h
  | some call =>
    have hnone : Holds P ⟨groups, outer, none⟩ := h
    exact hnone.add _

theorem Holds.punctuate {strict : Bool} {r r' : Reading} {p : Span} {mark : Punctuation}
    (h : r.Holds P) (hr : r.punctuate strict p mark = .ok r') : r'.Holds P := by
  obtain ⟨g, gs, -, hgroups, rfl⟩ | ⟨g, gs, -, hgroups, rfl⟩ | rfl := punctuate_cases hr
  · obtain ⟨g', hg', hP⟩ | houter := h
    · rcases List.mem_cons.mp (hgroups ▸ hg') with rfl | hg'
      · exact holds_add_of_hasCall _ hP.toToken
      · have hrest : Holds P ⟨gs, r.outer, r.head⟩ := .inl ⟨g', hg', hP⟩
        exact hrest.add _
    · have hrest : Holds P ⟨gs, r.outer, r.head⟩ := .inr houter
      exact hrest.add _
  · obtain ⟨g', hg', hP⟩ | houter := h
    · rcases List.mem_cons.mp (hgroups ▸ hg') with rfl | hg'
      · exact .inl ⟨_, List.mem_cons_self, hP.separate⟩
      · exact .inl ⟨g', List.mem_cons_of_mem _ hg', hP⟩
    · exact .inr houter
  · exact h.add _

theorem Holds.step {strict : Bool} {r r' : Reading} {t : Token} (h : r.Holds P)
    (hr : r.step strict t = .ok r') : r'.Holds P := by
  obtain ⟨p, v, rfl, rfl⟩ | ⟨p, name, args, rfl, rfl⟩ | ⟨p, call, rfl, -, rfl⟩ |
      ⟨p, mark, rfl, hp⟩ :=
    step_cases hr
  · exact h.settle.add _
  · exact h.settle
  · obtain ⟨g, hg, hP⟩ | houter := h
    · exact .inl ⟨g, List.mem_cons_of_mem _ hg, hP⟩
    · exact .inr houter
  · exact h.settle.punctuate hp

end Reading

theorem read_holds {strict : Bool} {r : Reading} {ts : List Token} {program : Program}
    (hr : r.Holds P) (h : read strict r ts = .ok program) : ∃ t ∈ program, t.HasCall P := by
  induction ts generalizing r with
  | nil =>
    rw [read, Reading.finish] at h
    split at h
    · rename_i hg
      obtain rfl := Except.ok.inj h
      obtain ⟨g, hmem, -⟩ | ⟨t, ht, hP⟩ := hr.settle
      · simp [hg] at hmem
      · exact ⟨t, List.mem_reverse.mpr ht, hP⟩
    · cases h
  | cons t ts ih =>
    rw [read] at h
    cases hs : r.step strict t with
    | error e =>
      rw [hs] at h
      cases h
    | ok r' =>
      rw [hs] at h
      exact ih (hr.step hs) h

/-- Literals are gathered in the argument that is being read. -/
theorem read_literals (strict : Bool) (g : Group) (gs : List Group) (outer : List Token)
    {ts : List Token} (h : ∀ t ∈ ts, ∃ p v, t = .literal p v) (rest : List Token) :
    read strict ⟨g :: gs, outer, none⟩ (ts ++ rest) =
      read strict ⟨{ g with current := ts.reverse ++ g.current } :: gs, outer, none⟩ rest := by
  induction ts generalizing g with
  | nil => rfl
  | cons t ts ih =>
    have ⟨⟨p, v, ht⟩, hts⟩ := List.forall_mem_cons.mp h
    have hi := ih (g.add t) hts
    rw [ht] at hi ⊢
    rw [List.reverse_cons, List.append_assoc]
    exact hi

/-- Outside every group literals stay as they are. -/
theorem read_outer_literals (strict : Bool) (outer : List Token) {ts : List Token}
    (h : ∀ t ∈ ts, ∃ p v, t = .literal p v) :
    read strict ⟨[], outer, none⟩ ts = .ok (outer.reverse ++ ts) := by
  induction ts generalizing outer with
  | nil =>
    rw [List.append_nil]
    rfl
  | cons t ts ih =>
    have ⟨⟨p, v, ht⟩, hts⟩ := List.forall_mem_cons.mp h
    have hi := ih (t :: outer) hts
    rw [ht] at hi ⊢
    rw [List.reverse_cons, List.append_assoc] at hi
    exact hi

/-- Literals up to a separator are an argument, and not the last one. -/
theorem hasCall_of_read_separated {strict : Bool} {g : Group} {gs : List Group}
    {outer arg : List Token} {q : Span} {rest : List Token} {program : Program}
    (harg : ∀ t ∈ arg, ∃ p v, t = .literal p v) (hg : g.current = [])
    (hP : ∀ last more, P ⟨g.span, g.name, g.arguments.reverse ++ arg :: last :: more⟩)
    (h : read strict ⟨g :: gs, outer, none⟩ (arg ++ .punctuation q .separator :: rest) =
      .ok program) : ∃ t ∈ program, t.HasCall P := by
  rw [read_literals strict g gs outer harg, hg, List.append_nil] at h
  refine read_holds (r := ⟨Group.separate _ :: gs, outer, none⟩) ?_ h
  refine .inl ⟨_, List.mem_cons_self, .inl fun last more => ?_⟩
  simpa [Group.separate] using hP last more

/-- Literals up to the end of an argument are an argument of the call in whose group they stand. -/
theorem hasCall_of_read {strict : Bool} {g : Group} {gs : List Group} {outer arg : List Token}
    {q : Span} {mark : Punctuation} {rest : List Token} {program : Program}
    (harg : ∀ t ∈ arg, ∃ p v, t = .literal p v) (hg : g.current = []) (hmark : mark ≠ .opening)
    (hP : ∀ more, P ⟨g.span, g.name, g.arguments.reverse ++ arg :: more⟩)
    (h : read strict ⟨g :: gs, outer, none⟩ (arg ++ .punctuation q mark :: rest) = .ok program) :
    ∃ t ∈ program, t.HasCall P := by
  cases mark with
  | opening => exact absurd rfl hmark
  | separator => exact hasCall_of_read_separated harg hg (fun last more => hP (last :: more)) h
  | closing =>
    rw [read_literals strict g gs outer harg, hg, List.append_nil] at h
    refine read_holds (r := Reading.add ⟨gs, outer, none⟩ _) ?_ h
    refine Reading.holds_add_of_hasCall _ (.here ?_)
    simpa using hP []

theorem Reading.step_opens {r : Reading} {mark : Punctuation} (hmark : mark ≠ .closing)
    (hs : r.pass.isStray mark = false) (strict : Bool) (p : Span) :
    ∃ g gs outer, r.step strict (.punctuation p mark) = .ok ⟨g :: gs, outer, none⟩ ∧
      g.current = [] := by
  cases mark with
  | closing => exact absurd rfl hmark
  | opening =>
    obtain ⟨groups, outer, head⟩ := r
    cases head with
    | none => cases hs
    | some call => exact ⟨_, groups, outer, rfl, rfl⟩
  | separator =>
    have hgroups : r.settle.groups ≠ [] := by
      intro he
      have hnil : r.pass.groups = [] := by rw [Reading.pass, ← map_span_settle, he, List.map_nil]
      rw [Pass.isStray, hnil] at hs
      cases hs
    obtain ⟨g, gs, hg⟩ := List.exists_cons_of_ne_nil hgroups
    refine ⟨g.separate, gs, r.settle.outer, ?_, rfl⟩
    simp [Reading.step, Reading.punctuate, hg, r.settle_head]

end Program

theorem Program.hasCall_of_parse {strict : Bool} {tokens arg rest : List Token} {p q : Span}
    {mark mark' : Punctuation} {program : Program} (hmark : mark ≠ .closing)
    (hstray : (Pass.start.after tokens).isStray mark = false)
    (harg : ∀ t ∈ arg, ∃ p v, t = .literal p v) (hmark' : mark' ≠ .opening)
    (h : parse strict (tokens ++ .punctuation p mark :: (arg ++ .punctuation q mark' :: rest)) =
      .ok program) : ∃ t ∈ program, t.HasCall fun call => arg ∈ call.args := by
  rw [parse_eq_read] at h
  have haccepts := (Pass.accepts_append.mp (read_ok h).1).1
  obtain ⟨r, hr, hpass⟩ := read_accepted haccepts
    (.punctuation p mark :: (arg ++ .punctuation q mark' :: rest))
  have hstray' : r.pass.isStray mark = false := by
    rw [hpass]
    exact hstray
  obtain ⟨g, gs, outer, hstep, hg⟩ := Reading.step_opens hmark hstray' strict p
  rw [hr, read, hstep] at h
  exact hasCall_of_read harg hg hmark' (fun more => by simp) h

/-- The first of several arguments. -/
theorem Program.hasCall_of_parse_first {strict : Bool} {tokens arg rest : List Token}
    {p p' q : Span} {name : String} {program : Program}
    (harg : ∀ t ∈ arg, ∃ p v, t = .literal p v)
    (h : parse strict (tokens ++ .call p name [] :: .punctuation p' .opening ::
      (arg ++ .punctuation q .separator :: rest)) = .ok program) :
    ∃ t ∈ program, t.HasCall fun call =>
      call.name = name ∧ ∃ last more, call.args = arg :: last :: more := by
  rw [parse_eq_read] at h
  have haccepts := (Pass.accepts_append.mp (read_ok h).1).1
  obtain ⟨r, hr, -⟩ := read_accepted haccepts
    (.call p name [] :: .punctuation p' .opening :: (arg ++ .punctuation q .separator :: rest))
  rw [hr, read] at h
  cases hs : r.step strict (.call p name []) with
  | error e =>
    rw [hs] at h
    cases h
  | ok r' =>
    have hhead : r' = { r.settle with head := some ⟨p, name, []⟩ } := by
      rw [Reading.step] at hs
      split at hs
      · cases hs
      · exact (Except.ok.inj hs).symm
    rw [hs, hhead] at h
    exact hasCall_of_read_separated (g := ⟨p, name, [], []⟩) harg rfl
      (fun last more => ⟨rfl, last, more, rfl⟩) h

end BracketScript
