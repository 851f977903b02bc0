import BracketScript.CommandLine.Batch
import BracketScript.Proofs.Growth

/-! Runs on one engine are isolated. Functions that change nothing but the run that they are called
in leave the root scope and the host as they were, so that each run goes as it would by itself on an
engine that was just built, whatever has been run before it. -/

namespace BracketScript

variable {κ σ η : Type}

/-- A request that concerns the current run alone. It may bind names in the scope of the run. -/
def Request.IsPrivate : Request κ σ → Prop
  | .bindRoot .. | .unbindRoot _ | .setHost _ => False
  | _ => True

/-- A routine that changes nothing but the current run, and may fail in any way. -/
abbrev Routine.IsPrivate {α : Type} (r : Routine κ σ α) : Prop :=
  r.Within Request.IsPrivate fun _ => True

theorem Call.MayAsk.isPrivate {call : Call} {runs : Prop} {q : Request κ σ}
    (h : call.MayAsk runs q) : q.IsPrivate := by
  cases h <;> trivial

theorem Builtin.body_isPrivate (f : Builtin) (call : Call) :
    (f.body call : Routine κ σ Value).IsPrivate :=
  (f.bounds_body call).mono (fun _ hq => hq.isPrivate) fun _ _ => trivial

/-- What a run has in common with the other runs on its engine. -/
def World.shared (w : World κ σ) : Scope κ × σ :=
  (w.root, w.host)

namespace Stepping

open StateTransition

variable {bodies : Bodies κ σ} {K : List (Frame κ σ)} {m : Machine κ σ}

abbrev State.IsPrivate (s : State κ σ) : Prop :=
  s.Bounded (fun _ => Request.IsPrivate) fun _ _ => True

theorem shared_serve {q : Request κ σ} (hq : q.IsPrivate) (call : Call)
    (next : q.Reply → Routine κ σ Value) :
    (serve call K m q next).machine.world.shared = m.world.shared := by
  cases q with
  | bindRoot name code => exact hq.elim
  | unbindRoot name => exact hq.elim
  | setHost state => exact hq.elim
  | _ => rfl

theorem State.IsPrivate.shared_step {s s' : State κ σ} (h : s.IsPrivate)
    (hs : step bodies s = some s') : s'.machine.world.shared = s.machine.world.shared := by
  obtain ⟨depth, hw⟩ | ⟨call, q, next, hcontrol, rfl⟩ := world_step hs
  · rw [hw]
    rfl
  · have hrest := h.control
    rw [hcontrol] at hrest
    exact shared_serve hrest.1 call next

theorem State.IsPrivate.shared_reaches (hbodies : ∀ code call, (bodies code call).IsPrivate)
    {s s' : State κ σ} (h : s.IsPrivate) (hs : Reaches (step bodies) s s') :
    s'.machine.world.shared = s.machine.world.shared := by
  induction hs with
  | refl => rfl
  | @tail u t hu hstep ih =>
    have hu' : u.IsPrivate := h.reaches (fun _ _ call code _ => hbodies code call) hu
    exact (hu'.shared_step hstep).trans ih

end Stepping

open Stepping in
theorem Engine.shared_runWith {bodies : Bodies κ σ}
    (hbodies : ∀ code call, (bodies code call).IsPrivate) (e : Engine κ) (context : Context κ)
    (host : σ) (source : String) :
    (e.runWith bodies context host source).2.world.shared = (e.root, host) := by
  have hstart : (State.start e context host source).IsPrivate :=
    .start (Control.ofCompiled_ne_routine _) (by simp [Frame.Bounded])
  exact hstart.shared_reaches hbodies (reaches_runWith bodies e context host source)

theorem Engine.resume_runWith {bodies : Bodies κ σ}
    (hbodies : ∀ code call, (bodies code call).IsPrivate) (e : Engine κ) (context : Context κ)
    (host : σ) (source : String) : e.resume (e.runWith bodies context host source).2 = e := by
  obtain ⟨hroot, -⟩ := Prod.mk.inj (e.shared_runWith hbodies context host source)
  rw [resume, hroot]

/-- Each script of a batch is reported on as if it were the only one. -/
theorem CommandLine.runSources_eq (event : MessageEvent) (e : Engine Builtin)
    (sources : List Source) :
    runSources event e sources =
      (sources.map fun s => (runSource e event s).1).foldr (· ++ ·) {} := by
  have hsame (s : Source) : (runSource e event s).2 = e := by
    rw [runSource]
    split
    · rfl
    · exact e.resume_runWith Builtin.body_isPrivate _ () _
  induction sources with
  | nil => rfl
  | cons s sources ih =>
    simp only [runSources, hsame, ih, List.map_cons, List.foldr_cons]

/-- What can be told of a run: its outcome, and its context with the variables and the actions. -/
abbrev Report (κ : Type) := Except ScriptError Value × Context κ

/-- A run on an engine that nothing else is run on. -/
def Engine.report (bodies : Bodies κ σ) (e : Engine κ) (host : σ) (context : Context κ)
    (source : String) : Report κ :=
  let (outcome, m) := e.runWith bodies context host source
  (outcome, m.world.context)

/-- An engine in use: the state of the host, and the contexts that it has prepared, by name. -/
structure Session (κ σ : Type) where
  engine : Engine κ
  host : σ
  contexts : Table (Context κ) := Table.empty

/-- What the host does with an engine. -/
inductive Activity (κ : Type) where
  /-- Run a source in a context of its own. -/
  | input (source fileName : String)
  | prepare (id fileName : String)
  /-- Change a context between runs, for instance give it an event or take its actions. -/
  | adjust (id : String) (change : Context κ → Context κ)
  /-- Run a source in a context that was prepared. -/
  | within (id source : String)

def Activity.context? : Activity κ → Option String
  | input .. => none
  | prepare id _ => some id
  | adjust id _ => some id
  | within id _ => some id

namespace Session

def start (e : Engine κ) (host : σ) : Session κ σ :=
  { engine := e, host := host }

variable (bodies : Bodies κ σ)

def run (s : Session κ σ) (context : Context κ) (source : String) : Report κ × Session κ σ :=
  let (outcome, m) := s.engine.runWith bodies context s.host source
  ((outcome, m.world.context), { s with engine := s.engine.resume m, host := m.world.host })

def perform (s : Session κ σ) : Activity κ → Option (Report κ) × Session κ σ
  | .input source fileName =>
    let (report, s) := s.run bodies (s.engine.prepare fileName) source
    (some report, s)
  | .prepare id fileName =>
    (none, { s with contexts := s.contexts.insert id (s.engine.prepare fileName) })
  | .adjust id change =>
    match s.contexts.get? id with
    | none => (none, s)
    | some context => (none, { s with contexts := s.contexts.insert id (change context) })
  | .within id source =>
    match s.contexts.get? id with
    | none => (none, s)
    | some context =>
      let (report, s) := s.run bodies context source
      (some report, { s with contexts := s.contexts.insert id report.2 })

def report (s : Session κ σ) (a : Activity κ) : Option (Report κ) :=
  (s.perform bodies a).1

def after (s : Session κ σ) (history : List (Activity κ)) : Session κ σ :=
  history.foldl (fun s a => (s.perform bodies a).2) s

structure Serves (e : Engine κ) (host : σ) (s : Session κ σ) : Prop where
  engine : s.engine = e
  host : s.host = host

variable {bodies} {e : Engine κ} {host : σ} {s s' : Session κ σ}

theorem run_eq (hbodies : ∀ code call, (bodies code call).IsPrivate) (hs : s.Serves e host)
    (context : Context κ) (source : String) :
    s.run bodies context source = (e.report bodies host context source, s) := by
  obtain ⟨engine, host', contexts⟩ := s
  obtain ⟨rfl, rfl⟩ := hs
  have hshared := engine.shared_runWith hbodies context host' source
  obtain ⟨hroot, hhost⟩ := Prod.mk.inj hshared
  simp only [run, Engine.report, Engine.resume, hroot, hhost]

theorem Serves.perform (hbodies : ∀ code call, (bodies code call).IsPrivate)
    (hs : s.Serves e host) (a : Activity κ) : (s.perform bodies a).2.Serves e host := by
  cases a with
  | input source fileName =>
    simp only [Session.perform, run_eq hbodies hs]
    exact hs
  | prepare id fileName => exact ⟨hs.engine, hs.host⟩
  | adjust id change =>
    rw [Session.perform]
    cases s.contexts.get? id with
    | none => exact hs
    | some context => exact ⟨hs.engine, hs.host⟩
  | within id source =>
    rw [Session.perform]
    cases s.contexts.get? id with
    | none => exact hs
    | some context =>
      simp only [run_eq hbodies hs]
      exact ⟨hs.engine, hs.host⟩

theorem Serves.after (hbodies : ∀ code call, (bodies code call).IsPrivate)
    (hs : s.Serves e host) (history : List (Activity κ)) :
    (s.after bodies history).Serves e host := by
  induction history generalizing s with
  | nil => exact hs
  | cons a history ih => exact ih (hs.perform hbodies a)

theorem after_append (s : Session κ σ) (history history' : List (Activity κ)) :
    s.after bodies (history ++ history') = (s.after bodies history).after bodies history' :=
  List.foldl_append

section Purge

variable {id : String} {a : Activity κ}

theorem get?_perform_of_ne (s : Session κ σ) (ha : a.context? ≠ some id) :
    (s.perform bodies a).2.contexts.get? id = s.contexts.get? id := by
  have hne {other : String} (h : some other ≠ some id) : id ≠ other := fun he => h (he ▸ rfl)
  cases a with
  | input source fileName => rfl
  | prepare other fileName => exact Table.get?_insert_of_ne _ _ (hne ha)
  | adjust other change =>
    rw [perform]
    cases s.contexts.get? other with
    | none => rfl
    | some context => exact Table.get?_insert_of_ne _ _ (hne ha)
  | within other source =>
    rw [perform]
    cases s.contexts.get? other with
    | none => rfl
    | some context => exact Table.get?_insert_of_ne _ _ (hne ha)

/-- What is done with a context depends on no other one. -/
theorem perform_congr (hbodies : ∀ code call, (bodies code call).IsPrivate)
    (hs : s.Serves e host) (hs' : s'.Serves e host)
    (hget : s.contexts.get? id = s'.contexts.get? id) (ha : a.context? = some id) :
    s.report bodies a = s'.report bodies a ∧
      (s.perform bodies a).2.contexts.get? id = (s'.perform bodies a).2.contexts.get? id := by
  cases a with
  | input source fileName => cases ha
  | prepare other fileName =>
    obtain rfl := Option.some.inj ha
    simp only [report, perform, hs.engine, hs'.engine, Table.get?_insert_self, and_self]
  | adjust other change =>
    obtain rfl := Option.some.inj ha
    cases h : s'.contexts.get? other with
    | none => simp only [report, perform, hget, h, and_self]
    | some context => simp only [report, perform, hget, h, Table.get?_insert_self, and_self]
  | within other source =>
    obtain rfl := Option.some.inj ha
    cases h : s'.contexts.get? other with
    | none => simp only [report, perform, hget, h, and_self]
    | some context =>
      simp only [report, perform, hget, h, run_eq hbodies hs, run_eq hbodies hs',
        Table.get?_insert_self, and_self]

/-- All that counts for a context is what was done with it. -/
theorem get?_after (hbodies : ∀ code call, (bodies code call).IsPrivate)
    (hs : s.Serves e host) (hs' : s'.Serves e host)
    (hget : s.contexts.get? id = s'.contexts.get? id) (history : List (Activity κ)) :
    (s.after bodies history).contexts.get? id =
      (s'.after bodies (history.filter (·.context? == some id))).contexts.get? id := by
  induction history generalizing s s' with
  | nil => exact hget
  | cons a history ih =>
    by_cases ha : a.context? = some id
    · rw [List.filter_cons_of_pos (by simp [ha])]
      have hcongr := perform_congr hbodies hs hs' hget ha
      exact ih (hs.perform hbodies a) (hs'.perform hbodies a) hcongr.2
    · rw [List.filter_cons_of_neg (by simp [ha])]
      exact ih (hs.perform hbodies a) hs' ((get?_perform_of_ne s ha).trans hget)

theorem get?_after_adjust {context : Context κ} (changes : List (Context κ → Context κ))
    (hget : s.contexts.get? id = some context) :
    (s.after bodies (changes.map (.adjust id))).contexts.get? id =
      some (changes.foldl (fun c change => change c) context) := by
  induction changes generalizing s context with
  | nil => exact hget
  | cons change changes ih =>
    refine ih ?_
    simp only [perform, hget, Table.get?_insert_self]

end Purge

theorem report_input (hbodies : ∀ code call, (bodies code call).IsPrivate) (hs : s.Serves e host)
    (source fileName : String) :
    s.report bodies (.input source fileName) =
      some (e.report bodies host (e.prepare fileName) source) := by
  simp only [report, perform, run_eq hbodies hs, hs.engine]

theorem report_within (hbodies : ∀ code call, (bodies code call).IsPrivate) (hs : s.Serves e host)
    {id : String} {context : Context κ} (hget : s.contexts.get? id = some context)
    (source : String) :
    s.report bodies (.within id source) = some (e.report bodies host context source) := by
  simp only [report, perform, hget, run_eq hbodies hs]

/-- A context is what was prepared last under its name, with the changes since then. -/
theorem get?_after_prepare (hbodies : ∀ code call, (bodies code call).IsPrivate)
    (hs : s.Serves e host) {id fileName : String} {later : List (Activity κ)}
    {changes : List (Context κ → Context κ)}
    (hlater : later.filter (·.context? == some id) = changes.map (.adjust id)) :
    (s.after bodies (.prepare id fileName :: later)).contexts.get? id =
      some (changes.foldl (fun c change => change c) (e.prepare fileName)) := by
  have hprepared := hs.perform hbodies (.prepare id fileName)
  refine (get?_after hbodies hprepared hprepared rfl later).trans ?_
  rw [hlater]
  refine get?_after_adjust changes ?_
  simp only [perform, Table.get?_insert_self, hs.engine]

end Session

/-- After any history an engine is as it was built. A run in a context of its own goes as on the new
engine, and one in a context that was prepared as if nothing had been done but what was done with
this context. -/
theorem runs_isolated (hosts : η → Call → Routine (Builtin ⊕ η) σ Value)
    (hprivate : ∀ h call, (hosts h call).IsPrivate) (e : Engine (Builtin ⊕ η)) (host : σ)
    (history : List (Activity (Builtin ⊕ η))) :
    let bodies : Bodies (Builtin ⊕ η) σ := Sum.elim Builtin.body hosts
    let session := (Session.start e host).after bodies history
    session.engine = e ∧ session.host = host ∧
    (∀ source fileName, session.report bodies (.input source fileName) =
      some (e.report bodies host (e.prepare fileName) source)) ∧
    ∀ id source,
      session.report bodies (.within id source) =
        ((Session.start e host).after bodies
          (history.filter (·.context? == some id))).report bodies (.within id source) ∧
      ∀ earlier later fileName changes, history = earlier ++ .prepare id fileName :: later →
        later.filter (·.context? == some id) = List.map (.adjust id) changes →
        session.report bodies (.within id source) = some (e.report bodies host
          (changes.foldl (fun c change => change c) (e.prepare fileName)) source) := by
  intro bodies session
  have hbodies : ∀ code call, (bodies code call).IsPrivate := by
    rintro (f | h) call
    · exact f.body_isPrivate call
    · exact hprivate h call
  have hserves : (Session.start e host).Serves e host := ⟨rfl, rfl⟩
  have hsession : session.Serves e host := hserves.after hbodies history
  refine ⟨hsession.engine, hsession.host, Session.report_input hbodies hsession,
    fun id source => ⟨?_, ?_⟩⟩
  · have hget : session.contexts.get? id = ((Session.start e host).after bodies
        (history.filter (·.context? == some id))).contexts.get? id :=
      Session.get?_after hbodies hserves hserves rfl history
    exact (Session.perform_congr hbodies hsession (hserves.after hbodies _) hget rfl).1
  · rintro earlier later fileName changes rfl hlater
    have hearlier := hserves.after hbodies earlier
    have hget : session.contexts.get? id =
        some (changes.foldl (fun c change => change c) (e.prepare fileName)) := by
      dsimp only [session]
      rw [Session.after_append]
      exact Session.get?_after_prepare hbodies hearlier hlater
    exact Session.report_within hbodies hsession hget source

/-- Two runs that hide a function of the root scope, and one that fails, before a run that calls it.
In the context that was prepared for the second of them it stays hidden. -/
theorem runs_isolated_shadowing :
    let hosts (text : String) (_ : Call) : Routine (Builtin ⊕ String) Unit Value :=
      if text = "" then do
        Routine.define "$who" (.inr "inner")
        return .undefined
      else return .text text
    let bodies : Bodies (Builtin ⊕ String) Unit := Sum.elim Builtin.body hosts
    let e : Engine (Builtin ⊕ String) := Engine.ofRegistry
      [("$who", .inr "outer"), ("$shadow", .inr ""), ("$stop", .inl .stop), ("$let", .inl .letBe)]
    let history : List (Activity (Builtin ⊕ String)) :=
      [.prepare "b" "file", .input "$shadow$who$stop" "a", .within "b" "$shadow$let[x;1]",
        .input "$let[x;2]$nope" "c"]
    let session := (Session.start e ()).after bodies history
    (∀ h call, (hosts h call).IsPrivate) ∧ session.engine = e ∧
      session.report bodies (.input "$who" "d") =
        some (e.report bodies () (e.prepare "d") "$who") ∧
      (e.report bodies () (e.prepare "d") "$who").1.map Value.toText = .ok "outer" ∧
      session.report bodies (.within "b" "$who") =
        ((Session.start e ()).after bodies [.prepare "b" "file",
          .within "b" "$shadow$let[x;1]"]).report bodies (.within "b" "$who") ∧
      (session.report bodies (.within "b" "$who")).map (·.1.map Value.toText) =
        some (.ok "inner") := by
  intro hosts bodies e history session
  have hprivate : ∀ h call, (hosts h call).IsPrivate := by
    intro h call
    dsimp only [hosts]
    split
    · exact ⟨trivial, fun _ => trivial⟩
    · trivial
  obtain ⟨hengine, -, hinput, hwithin⟩ := runs_isolated hosts hprivate e () history
  have houter : (e.report bodies () (e.prepare "d") "$who").1.map Value.toText = .ok "outer" := by
    decide +kernel
  have hinner : (session.report bodies (.within "b" "$who")).map (·.1.map Value.toText) =
      some (.ok "inner") := by
    decide +kernel
  exact ⟨hprivate, hengine, hinput "$who" "d", houter, (hwithin "b" "$who").1, hinner⟩

end BracketScript
