import BracketScript.CommandLine.Invocation
import BracketScript.Proofs.FileNames
import BracketScript.Proofs.Isolation

/-! What an invocation runs and what it prints. A source prints in a batch what it prints alone, and
one that fails prints nothing and keeps none of the others from running. -/

namespace BracketScript.CommandLine

section Texts

variable (S : Surroundings Id)

/-- The text at a place among the files. The first dash takes the standard input and leaves none of
it to the others. -/
def Surroundings.textAt (files : List String) (i : Nat) (path : String) : Except String String :=
  if path ≠ "-" then S.fileText path
  else if "-" ∈ files.take i then .ok ""
  else S.inputText

def Arguments.texts (a : Arguments) : List (Except String String) :=
  if a.script = none ∧ a.files = [] then [S.inputText]
  else (a.script.map Except.ok).toList ++ a.files.mapIdx (S.textAt a.files)

theorem gather_cons (inputRead : Bool) (origin : Origin) (origins : List Origin) :
    S.gather inputRead (origin :: origins) =
      ⟨origin.name, S.readOrigin inputRead origin⟩ ::
        S.gather (inputRead || origin = .input) origins :=
  rfl

theorem ofFile_eq_input_iff {path : String} : Origin.ofFile path = .input ↔ path = "-" := by
  rw [Origin.ofFile]
  split
  · simpa
  · simpa

theorem readOrigin_ofFile (before files : List String) (path : String) :
    S.readOrigin ("-" ∈ before) (Origin.ofFile path) =
      S.textAt (before ++ files) before.length path := by
  rw [Origin.ofFile, Surroundings.textAt, List.take_left]
  by_cases hpath : path = "-"
  · rw [if_pos hpath, if_neg (not_not.mpr hpath), Surroundings.readOrigin]
    simp only [decide_eq_true_eq]
    rfl
  · rw [if_neg hpath, if_pos hpath]
    rfl

theorem texts_gather_files (before files : List String) :
    (S.gather ("-" ∈ before) (files.map Origin.ofFile)).map Source.text =
      files.mapIdx fun i path => S.textAt (before ++ files) (before.length + i) path := by
  induction files generalizing before with
  | nil => rfl
  | cons path files ih =>
    have hread : (decide ("-" ∈ before) || decide (Origin.ofFile path = .input)) =
        decide ("-" ∈ before ++ [path]) := by
      simp [ofFile_eq_input_iff, @eq_comm _ "-"]
    have hrest := ih (before ++ [path])
    simp only [List.append_assoc, List.singleton_append, List.length_append,
      List.length_singleton] at hrest
    rw [List.map_cons, gather_cons, List.map_cons, List.mapIdx_cons, hread, hrest,
      readOrigin_ofFile S before (path :: files)]
    simp only [Nat.add_assoc, Nat.add_comm 1, Nat.add_zero]

/-- The script among the flags comes first, and only the standard input is left if there is nothing
else. -/
theorem texts_gather (a : Arguments) :
    (S.gather false a.origins).map Source.text = a.texts S := by
  have hfiles := texts_gather_files S [] a.files
  simp only [List.nil_append, List.length_nil, Nat.zero_add, List.not_mem_nil, decide_false]
    at hfiles
  have hempty : a.isEmpty = true ↔ a.script = none ∧ a.files = [] := by simp [Arguments.isEmpty]
  rw [Arguments.origins, Arguments.texts, ← hfiles]
  by_cases h : a.script = none ∧ a.files = []
  · rw [if_pos h, if_pos (hempty.mpr h)]
    rfl
  · rw [if_neg h, if_neg (hempty.not.mpr h)]
    cases a.script <;> rfl

end Texts

section Printing

variable (e : Engine Builtin) (event : MessageEvent)

/-- What becomes of a source that is run by itself and has no name. -/
def runAlone (text : String) : BracketScript.Report Builtin :=
  e.report Builtin.body () { e.prepare "" with event := some event } text

def succeeds : Except String String → Bool
  | .error _ => false
  | .ok text => (runAlone e event text).1.isOk

/-- The requests in order, then the value unless there is none. A source that fails prints nothing,
whatever it has requested before. -/
def printed : Except String String → String
  | .error _ => ""
  | .ok text =>
    let (outcome, context) := runAlone e event text
    match outcome with
    | .error _ => ""
    | .ok v =>
      String.join (context.actions.map actionLine) ++ if v.isUndefined then "" else line v.toText

theorem runWith_prepare (name text : String) :
    let run := e.runWith Builtin.body { e.prepare name with event := some event } () text
    run.1 = (runAlone e event text).1 ∧
      run.2.world.context.actions = (runAlone e event text).2.actions := by
  intro run
  have hrun := e.runWith_withFileName { e.prepare "" with event := some event } () name text
  exact ⟨hrun.1, congrArg (fun w => w.context.actions) hrun.2⟩

theorem output_reportOf (name : String) (actions : List Action)
    (outcome : Except ScriptError Value) :
    (reportOf name actions outcome).output =
      match outcome with
      | .error _ => ""
      | .ok v =>
        String.join (actions.map actionLine) ++ if v.isUndefined then "" else line v.toText := by
  cases outcome with
  | ok v => rfl
  | error e =>
    rw [reportOf]
    split <;> rfl

theorem succeeded_reportOf (name : String) (actions : List Action)
    (outcome : Except ScriptError Value) :
    (reportOf name actions outcome).succeeded = outcome.isOk := by
  cases outcome with
  | ok v => rfl
  | error e =>
    rw [reportOf]
    split <;> rfl

/-- The name of a source shows in the complaints only. -/
theorem runSource_eq (s : Source) :
    (runSource e event s).1.output = printed e event s.text ∧
      (runSource e event s).1.succeeded = succeeds e event s.text := by
  obtain ⟨name, text⟩ := s
  cases text with
  | error reason => exact ⟨rfl, rfl⟩
  | ok text =>
    obtain ⟨houtcome, hactions⟩ := runWith_prepare e event name text
    have hreport : (runSource e event ⟨name, .ok text⟩).1 =
        reportOf name (runAlone e event text).2.actions (runAlone e event text).1 := by
      rw [← houtcome, ← hactions]
      rfl
    rw [hreport, output_reportOf, succeeded_reportOf]
    exact ⟨rfl, rfl⟩

theorem runSources_printed (sources : List Source) :
    (runSources event e sources).output =
        String.join ((sources.map Source.text).map (printed e event)) ∧
      (runSources event e sources).succeeded =
        (sources.map Source.text).all (succeeds e event) := by
  rw [runSources_eq]
  induction sources with
  | nil => exact ⟨String.join_nil.symm, rfl⟩
  | cons s sources ih =>
    obtain ⟨houtput, hsucceeded⟩ := runSource_eq e event s
    simp only [List.map_cons, List.foldr_cons, String.join_cons, List.all_cons, ← houtput,
      ← hsucceeded, ← ih.1, ← ih.2]
    exact ⟨rfl, rfl⟩

end Printing

section Invocation

variable (S : Surroundings Id)

/-- The same flags and nothing to run but this text. -/
def Arguments.alone (a : Arguments) (text : String) : Arguments :=
  { a with script := some text, files := [] }

theorem runArguments_eq {a : Arguments} {config : Configuration} {complaints : String}
    (hconfig : S.chooseConfig a.config = (some config, complaints)) :
    runArguments S a = ({ complaints := complaints } : Report) ++
      runSources a.event (a.engine config) (S.gather false a.origins) := by
  rw [runArguments, hconfig]
  rfl

theorem runArguments_printed {a : Arguments} {config : Configuration}
    (hconfig : (S.chooseConfig a.config).1 = some config) :
    (runArguments S a).output =
        String.join ((a.texts S).map (printed (a.engine config) a.event)) ∧
      (runArguments S a).succeeded = (a.texts S).all (succeeds (a.engine config) a.event) := by
  have hrun := runArguments_eq S (Prod.ext hconfig rfl)
  obtain ⟨houtput, hsucceeded⟩ :=
    runSources_printed (a.engine config) a.event (S.gather false a.origins)
  rw [texts_gather] at houtput hsucceeded
  rw [hrun]
  exact ⟨String.empty_append.trans houtput, hsucceeded⟩

theorem runArguments_alone {a : Arguments} {config : Configuration}
    (hconfig : (S.chooseConfig a.config).1 = some config) (text : String) :
    (runArguments S (a.alone text)).output = printed (a.engine config) a.event (.ok text) ∧
      (runArguments S (a.alone text)).succeeded =
        succeeds (a.engine config) a.event (.ok text) := by
  have halone : (S.chooseConfig (a.alone text).config).1 = some config := hconfig
  obtain ⟨houtput, hsucceeded⟩ := runArguments_printed S halone
  have htexts : (a.alone text).texts S = [.ok text] := rfl
  rw [htexts] at houtput hsucceeded
  rw [List.map_singleton, String.join_cons, String.join_nil, String.append_empty] at houtput
  rw [List.all_cons, List.all_nil, Bool.and_true] at hsucceeded
  exact ⟨houtput, hsucceeded⟩

theorem chooseConfig_search {path : String} (hfound : S.findConfig = some path) :
    S.chooseConfig .search = (some ((S.loadConfig path).1.getD {}), (S.loadConfig path).2) := by
  rw [Surroundings.chooseConfig, hfound]
  rfl

/-- A configuration that was asked for by its path is the only one that a run cannot do without. -/
theorem chooseConfig_eq_none (choice : ConfigChoice) (h : (S.chooseConfig choice).1 = none) :
    ∃ path, choice = .file path ∧ (S.loadConfig path).1 = none := by
  cases choice with
  | search =>
    cases hfound : S.findConfig with
    | none =>
      rw [Surroundings.chooseConfig, hfound] at h
      cases h
    | some path =>
      rw [chooseConfig_search S hfound] at h
      cases h
  | skip => cases h
  | file path => exact ⟨path, rfl, h⟩

/-- What an invocation runs, in which order and with which options, and what it prints. A source
prints what it prints when it is all there is to run. A configuration that was asked for and is of
no use keeps everything from running, and one that was found counts as if there were none. -/
theorem run_batch {args : List String} {a : Arguments} (hread : Arguments.read args = .ok a) :
    (∀ config, (S.chooseConfig a.config).1 = some config →
      let e := a.engine config
      let texts := a.texts S
      e.options.strictBrackets = (config.options.strictBrackets || a.strict) ∧
      e.options.trimOutput = (config.options.trimOutput && !a.noTrim) ∧
      (run S args).output = String.join (texts.map (printed e a.event)) ∧
      (run S args).exitCode = (if texts.all (succeeds e a.event) then 0 else 1) ∧
      ∀ text,
        (runArguments S (a.alone text)).output = printed e a.event (.ok text) ∧
        (runArguments S (a.alone text)).exitCode =
          if succeeds e a.event (.ok text) then 0 else 1) ∧
    ((S.chooseConfig a.config).1 = none →
      (∃ path, a.config = .file path ∧ (S.loadConfig path).1 = none) ∧
      (run S args).output = "" ∧ (run S args).exitCode = 1) ∧
    ∀ path, a.config = .search → S.findConfig = some path → (S.loadConfig path).1 = none →
      (S.chooseConfig a.config).1 = some {} := by
  have hrun : run S args = runArguments S a := by rw [run, hread]
  rw [hrun]
  refine ⟨fun config hconfig => ?_, fun hnone => ?_, fun path hsearch hfound hload => ?_⟩
  · obtain ⟨houtput, hsucceeded⟩ := runArguments_printed S hconfig
    refine ⟨Bool.or_comm _ _, Bool.and_comm _ _, houtput, ?_, fun text => ?_⟩
    · rw [Report.exitCode, hsucceeded]
    · obtain ⟨halone, hends⟩ := runArguments_alone S hconfig text
      exact ⟨halone, by rw [Report.exitCode, hends]⟩
  · have hchosen : S.chooseConfig a.config = (none, (S.chooseConfig a.config).2) :=
      Prod.ext hnone rfl
    have hreport : runArguments S a =
        { complaints := (S.chooseConfig a.config).2, succeeded := false } := by
      rw [runArguments, hchosen]
      rfl
    rw [hreport]
    exact ⟨chooseConfig_eq_none S a.config hnone, rfl, rfl⟩
  · rw [hsearch, chooseConfig_search S hfound, hload]
    rfl

/-- A script that stands between the files, one file that fails after a request and one that is
missing, and the standard input asked for twice. Without its configuration nothing runs. -/
theorem run_batch_partial :
    let S : Surroundings Id :=
      { fileText := fun path =>
          if path = "late" then .ok "$sendMessage[lost]$nope" else .error "gone"
        fileExists := fun _ => false
        inputText := .ok " in "
        home := none }
    let args := ["late", "-", "-Tc", "$sendMessage[a]b", "-", "absent"]
    let texts := [.ok "$sendMessage[a]b", .ok "$sendMessage[lost]$nope", .ok " in ", .ok "",
      .error "gone"]
    ∃ a, Arguments.read args = .ok a ∧ (S.chooseConfig a.config).1 = some {} ∧
      a.texts S = texts ∧ (a.engine {}).options.trimOutput = false ∧
      (run S args).output = String.join (texts.map (printed (a.engine {}) a.event)) ∧
      texts.map (printed (a.engine {}) a.event) = ["send: a\nb\n", "", " in \n", "", ""] ∧
      (run S args).exitCode = 1 ∧
      (run S ("-Cabsent" :: args)).output = "" ∧ (run S ("-Cabsent" :: args)).exitCode = 1 := by
  intro S args texts
  let a : Arguments := ⟨.search, some "$sendMessage[a]b", ["late", "-", "-", "absent"], none, none,
    false, true, false⟩
  have hread : Arguments.read args = .ok a := by decide +kernel
  have htexts : a.texts S = texts := by decide +kernel
  obtain ⟨-, htrim, houtput, hexit, -⟩ := (run_batch S hread).1 {} rfl
  rw [htexts] at houtput hexit
  have hprinted : texts.map (printed (a.engine {}) a.event) =
      ["send: a\nb\n", "", " in \n", "", ""] := by decide +kernel
  have hfails : texts.all (succeeds (a.engine {}) a.event) = false := by decide +kernel
  rw [hfails] at hexit
  have hread' : Arguments.read ("-Cabsent" :: args) = .ok { a with config := .file "absent" } := by
    decide +kernel
  have hnothing := (run_batch S hread').2.1 rfl
  exact ⟨a, hread, rfl, htexts, htrim, houtput, hprinted, hexit, hnothing.2⟩

end Invocation

end BracketScript.CommandLine
