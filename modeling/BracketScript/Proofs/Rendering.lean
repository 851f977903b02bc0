import Mathlib
import BracketScript.CommandLine.Arguments

/-! The command line read one argument at a time, and written out. Reading what was written gives it
back, and neither flags that share a cluster nor a text that is attached to its flag need do so. -/

namespace BracketScript.CommandLine

theorem isConfigName_ofList (letters : List Char) {c : Char} (h : c ≠ 'l') :
    isConfigName (String.ofList (letters ++ [c])) = false := by
  rw [isConfigName, String.toList_ofList, Bool.eq_false_iff]
  intro hs
  obtain ⟨stem, hstem⟩ := List.isSuffixOf_iff_suffix.mp hs
  have hlast := congrArg List.getLast? hstem
  simp at hlast
  exact h hlast.symm

theorem TextFlag.letter_ne (flag : TextFlag) : flag.letter ≠ 'l' ∧ flag.letter ≠ '-' := by
  cases flag <;> decide

inductive Progress where
  | reading (a : Arguments) (expected : Expected)
  /-- Two dashes have been met, and all that follows is a file. -/
  | listing (a : Arguments)
  | failed (fault : UsageFault)

inductive Switch where
  | strict
  | noTrim
  | debug
deriving DecidableEq, Repr

def Switch.letter : Switch → Char
  | strict => 's'
  | noTrim => 'T'
  | debug => 'd'

namespace Arguments

def turnOn (a : Arguments) : Switch → Arguments
  | .strict => { a with strict := true }
  | .noTrim => { a with noTrim := true }
  | .debug => { a with debug := true }

@[simp] theorem readCluster_switch (a : Arguments) (w : Switch) (letters : List Char) :
    a.readCluster (w.letter :: letters) = (a.turnOn w).readCluster letters := by
  cases w <;> rfl

theorem readCluster_path (a : Arguments) {path : List Char} (h : path ≠ []) :
    a.readCluster ('C' :: path) =
      .ok ({ a with config := .file (String.ofList path) }, .anything) := by
  obtain ⟨c, path, rfl⟩ := List.exists_cons_of_ne_nil h
  rfl

theorem readCluster_text (a : Arguments) (flag : TextFlag) (s : List Char) :
    a.readCluster (flag.letter :: s) =
      if s.isEmpty then .ok (a, .text flag)
      else .ok (a.setText (String.ofList s) flag, .anything) := by
  cases flag <;> rfl

theorem readCluster_unknown (a : Arguments) {c : Char} (hw : ∀ w : Switch, c ≠ w.letter)
    (hc : c ≠ 'C') (ht : TextFlag.ofLetter? c = none) (letters : List Char) :
    a.readCluster (c :: letters) = .error (.unknownFlag c) := by
  have hs : c ≠ 's' := hw .strict
  have hT : c ≠ 'T' := hw .noTrim
  have hd : c ≠ 'd' := hw .debug
  unfold readCluster
  split <;> simp_all

/-- The letters before a flag that takes a text are read alike whatever is attached to the flag. -/
theorem readCluster_before_text (a : Arguments) (flag : TextFlag) {letters : List Char}
    (h : ∀ c ∈ letters, c ≠ 'C' ∧ TextFlag.ofLetter? c = none) :
    (∃ a' : Arguments, ∀ s, a.readCluster (letters ++ flag.letter :: s) =
      a'.readCluster (flag.letter :: s)) ∨
    ∃ fault, ∀ s, a.readCluster (letters ++ flag.letter :: s) = .error fault := by
  induction letters generalizing a with
  | nil => exact .inl ⟨a, fun _ => rfl⟩
  | cons c letters ih =>
    obtain ⟨⟨hc, ht⟩, hletters⟩ := List.forall_mem_cons.mp h
    by_cases hw : ∃ w : Switch, c = w.letter
    · obtain ⟨w, rfl⟩ := hw
      simpa only [List.cons_append, readCluster_switch] using ih (a.turnOn w) hletters
    · push Not at hw
      exact .inr ⟨.unknownFlag c, fun s => readCluster_unknown a hw hc ht _⟩

end Arguments

namespace Progress

def start : Progress :=
  reading {} .anything

def ofCluster : Except UsageFault (Arguments × Expected) → Progress
  | .ok (a, expected) => reading a expected
  | .error fault => failed fault

/-- An argument that no flag has asked for. -/
def look (a : Arguments) (s : String) : Progress :=
  if s = "--" then listing a
  else
    match s.toList with
    | '-' :: c :: letters => ofCluster (a.readCluster (c :: letters))
    | _ => reading { a with files := a.files ++ [s] } .anything

def next : Progress → String → Progress
  | reading a (.text flag), s => reading (a.setText s flag) .anything
  | reading a .config, s =>
    if isConfigName s then reading { a with config := .file s } .anything else look a s
  | reading a .anything, s => look a s
  | listing a, s => listing { a with files := a.files ++ [s] }
  | failed fault, _ => failed fault

def finish : Progress → Except UsageFault Arguments
  | reading _ (.text flag) => .error (.missingText flag)
  | reading a _ => .ok a
  | listing a => .ok a
  | failed fault => .error fault

def after (r : Progress) (args : List String) : Progress :=
  args.foldl next r

theorem after_append (r : Progress) (args args' : List String) :
    r.after (args ++ args') = (r.after args).after args' :=
  List.foldl_append

theorem after_listing (a : Arguments) (args : List String) :
    (listing a).after args = listing { a with files := a.files ++ args } := by
  induction args generalizing a with
  | nil => simp [after]
  | cons s args ih =>
    refine (ih _).trans ?_
    simp

theorem after_failed (fault : UsageFault) (args : List String) :
    (failed fault).after args = failed fault := by
  induction args with
  | nil => rfl
  | cons s args ih => exact ih

end Progress

open Progress

theorem readFrom_anything (a : Arguments) (s : String) (args : List String) :
    Arguments.readFrom a .anything (s :: args) =
      if s = "--" then .ok { a with files := a.files ++ args }
      else
        match s.toList with
        | '-' :: c :: letters => do
          let (a, expected) ← a.readCluster (c :: letters)
          Arguments.readFrom a expected args
        | _ => Arguments.readFrom { a with files := a.files ++ [s] } .anything args := by
  have hnext := Arguments.readFrom.eq_4 a .anything s args (by simp)
  rw [if_neg (by simp)] at hnext
  exact hnext

theorem readFrom_config (a : Arguments) (s : String) (args : List String) :
    Arguments.readFrom a .config (s :: args) =
      if isConfigName s then Arguments.readFrom { a with config := .file s } .anything args
      else Arguments.readFrom a .anything (s :: args) := by
  have hnext := Arguments.readFrom.eq_4 a .config s args (by simp)
  simp only [true_and] at hnext
  rw [readFrom_anything]
  exact hnext

/-- Reading all arguments at once is reading them one after the other. -/
theorem readFrom_eq (a : Arguments) (expected : Expected) (args : List String) :
    Arguments.readFrom a expected args = ((reading a expected).after args).finish := by
  induction args generalizing a expected with
  | nil => cases expected <;> rfl
  | cons s args ih =>
    have hlook : Arguments.readFrom a .anything (s :: args) = ((look a s).after args).finish := by
      rw [readFrom_anything, look]
      by_cases hs : s = "--"
      · rw [if_pos hs, if_pos hs, after_listing]
        rfl
      rw [if_neg hs, if_neg hs]
      split
      · rename_i c letters _
        cases h : a.readCluster (c :: letters) with
        | ok r => exact ih r.1 r.2
        | error fault =>
          rw [ofCluster, after_failed]
          rfl
      · exact ih _ _
    cases expected with
    | text flag => exact ih _ _
    | anything => exact hlook
    | config =>
      rw [readFrom_config, hlook, ih]
      by_cases hs : isConfigName s = true
      · have hnext : (reading a .config).next s = reading { a with config := .file s } .anything :=
          if_pos hs
        rw [if_pos hs, ← hnext]
        rfl
      · have hnext : (reading a .config).next s = look a s := if_neg hs
        rw [if_neg hs, ← hnext]
        rfl

theorem read_eq (args : List String) :
    Arguments.read args = (start.after args).finish :=
  readFrom_eq {} .anything args

namespace Progress

/-- In flag position an argument is read on its own, and not as the text or the configuration that a
flag before it takes. -/
def AwaitsFlag (s : String) : Progress → Prop
  | reading _ .anything => True
  | reading _ .config => isConfigName s = false
  | reading _ (.text _) => False
  | listing _ => False
  | failed _ => True

theorem look_cluster (a : Arguments) {cluster : List Char} (hne : cluster ≠ [])
    (hdash : cluster ≠ ['-']) :
    look a (String.ofList ('-' :: cluster)) = ofCluster (a.readCluster cluster) := by
  obtain ⟨c, letters, rfl⟩ := List.exists_cons_of_ne_nil hne
  have hs : String.ofList ('-' :: c :: letters) ≠ "--" := by
    intro hs
    have hlist := congrArg String.toList hs
    rw [String.toList_ofList] at hlist
    exact hdash (List.cons_inj_right '-' |>.mp hlist)
  rw [look, if_neg hs, String.toList_ofList]
  rfl

/-- No text is missing, though the name of a configuration may still follow. -/
inductive Ready (a : Arguments) : Progress → Prop where
  | anything : Ready a (reading a .anything)
  | config : Ready a (reading a .config)

theorem Ready.next {a : Arguments} {r : Progress} (h : Ready a r) {s : String}
    (hs : isConfigName s = false) : r.next s = look a s := by
  cases h with
  | anything => rfl
  | config => exact if_neg (by simp [hs])

theorem ready_of_awaitsFlag {a : Arguments} {expected : Expected} {s : String}
    (h : (reading a expected).AwaitsFlag s) : Ready a (reading a expected) := by
  cases expected with
  | anything => exact .anything
  | config => exact .config
  | text flag => exact h.elim

theorem next_of_awaitsFlag {a : Arguments} {expected : Expected} {s : String}
    (h : (reading a expected).AwaitsFlag s) : (reading a expected).next s = look a s := by
  cases expected with
  | anything => rfl
  | config => exact Ready.config.next h
  | text flag => exact h.elim

end Progress

section Render

def dash (letter : Char) : String :=
  String.ofList ['-', letter]

def Switch.render (w : Switch) (on : Bool) : List String :=
  if on then [dash w.letter] else []

def ConfigChoice.render : ConfigChoice → List String
  | search => []
  | skip => [dash 'C']
  | file path => [String.ofList ('-' :: 'C' :: path.toList)]

def TextFlag.render (flag : TextFlag) : Option String → List String
  | none => []
  | some s => [dash flag.letter, s]

/-- The files stand behind two dashes, where none of them can be taken for a flag. -/
def Arguments.render (a : Arguments) : List String :=
  Switch.render .strict a.strict ++ Switch.render .noTrim a.noTrim ++
    Switch.render .debug a.debug ++ a.config.render ++ TextFlag.render .script a.script ++
    TextFlag.render .eventText a.eventText ++ TextFlag.render .username a.username ++
    "--" :: a.files

theorem look_dash (a : Arguments) {letter : Char} (h : letter ≠ '-') :
    look a (dash letter) = ofCluster (a.readCluster [letter]) :=
  look_cluster a (List.cons_ne_nil _ _) (by simpa using h)

theorem after_switch (a : Arguments) (w : Switch) (on : Bool) :
    (reading a .anything).after (w.render on) =
      reading (if on then a.turnOn w else a) .anything := by
  cases on with
  | false => rfl
  | true =>
    have hw : w.letter ≠ '-' := by cases w <;> decide
    refine (look_dash a hw).trans ?_
    rw [Arguments.readCluster_switch]
    rfl

theorem ready_config (a : Arguments) {choice : ConfigChoice} (hsearch : a.config = .search)
    (hpath : choice ≠ .file "") :
    Ready { a with config := choice } ((reading a .anything).after choice.render) := by
  cases choice with
  | search =>
    have ha : { a with config := .search } = a := by rw [← hsearch]
    rw [ha]
    exact .anything
  | skip =>
    have hafter : (reading a .anything).after ConfigChoice.skip.render =
        reading { a with config := .skip } .config := look_dash a (by decide : 'C' ≠ '-')
    rw [hafter]
    exact .config
  | file path =>
    have hne : path.toList ≠ [] := fun h => hpath (by rw [String.toList_eq_nil_iff.mp h])
    have hafter : (reading a .anything).after (ConfigChoice.file path).render =
        reading { a with config := .file path } .anything := by
      refine (look_cluster a (List.cons_ne_nil _ _) (by simp)).trans ?_
      rw [Arguments.readCluster_path a hne, String.ofList_toList]
      rfl
    rw [hafter]
    exact .anything

theorem Progress.Ready.after_text {a : Arguments} {r : Progress} (h : Ready a r) (flag : TextFlag)
    (s : Option String) :
    Ready (s.elim a fun s => a.setText s flag) (r.after (flag.render s)) := by
  cases s with
  | none => exact h
  | some s =>
    have hname : isConfigName (dash flag.letter) = false :=
      isConfigName_ofList ['-'] flag.letter_ne.1
    have hflag : r.next (dash flag.letter) = reading a (.text flag) := by
      rw [h.next hname, look_dash a flag.letter_ne.2, Arguments.readCluster_text]
      rfl
    have hafter : r.after (flag.render (some s)) = reading (a.setText s flag) .anything := by
      refine (congrArg (fun r => Progress.next r s) hflag).trans ?_
      rfl
    rw [hafter]
    exact .anything

theorem Progress.Ready.after_files {a : Arguments} {r : Progress} (h : Ready a r)
    (files : List String) :
    r.after ("--" :: files) = listing { a with files := a.files ++ files } := by
  have hdashes : r.next "--" = listing a := by
    rw [h.next (by decide)]
    exact if_pos rfl
  refine Eq.trans ?_ (after_listing a files)
  rw [← hdashes]
  rfl

theorem start_after_render (a : Arguments) (h : a.config ≠ .file "") :
    start.after a.render = listing a := by
  have hswitches : ((start.after (Switch.render .strict a.strict)).after
      (Switch.render .noTrim a.noTrim)).after (Switch.render .debug a.debug) =
      reading { strict := a.strict, noTrim := a.noTrim, debug := a.debug } .anything := by
    rw [start, after_switch, after_switch, after_switch]
    cases a.strict <;> cases a.noTrim <;> cases a.debug <;> rfl
  have hready := ready_config { strict := a.strict, noTrim := a.noTrim, debug := a.debug } rfl h
  have hafter := (((hready.after_text .script a.script).after_text .eventText
    a.eventText).after_text .username a.username).after_files a.files
  rw [← hswitches] at hafter
  simp only [Arguments.render, after_append]
  refine hafter.trans (congrArg listing ?_)
  obtain ⟨_, _ | _, _, _ | _, _ | _, _, _, _⟩ := a <;> rfl

/-- An argument and what it may be split into: a flag that takes no text leaves its cluster, or a
text leaves its flag. -/
inductive Parts : String → List String → Prop where
  | switch (w : Switch) {letters : List Char} (hne : letters ≠ [])
      (hdash : letters.head? ≠ some '-') :
    Parts (String.ofList ('-' :: w.letter :: letters))
      [dash w.letter, String.ofList ('-' :: letters)]
  | text {letters : List Char} (h : ∀ c ∈ letters, c ≠ 'C' ∧ TextFlag.ofLetter? c = none)
      (flag : TextFlag) {s : String} (hs : s ≠ "") :
    Parts (String.ofList ('-' :: letters ++ flag.letter :: s.toList))
      [String.ofList ('-' :: letters ++ [flag.letter]), s]

theorem after_split_switch {a : Arguments} {r : Progress} (hready : Ready a r) (w : Switch)
    {letters : List Char} (hne : letters ≠ []) (hdash : letters.head? ≠ some '-') :
    r.after [dash w.letter, String.ofList ('-' :: letters)] =
      look a (String.ofList ('-' :: w.letter :: letters)) := by
  have hw : w.letter ≠ 'l' ∧ w.letter ≠ '-' := by cases w <;> decide
  have hname : isConfigName (dash w.letter) = false := isConfigName_ofList ['-'] hw.1
  have hfirst : r.next (dash w.letter) = reading (a.turnOn w) .anything := by
    rw [hready.next hname, look_dash a hw.2, Arguments.readCluster_switch]
    rfl
  have hrest : letters ≠ ['-'] := by
    rintro rfl
    exact hdash rfl
  calc r.after [dash w.letter, String.ofList ('-' :: letters)]
      = look (a.turnOn w) (String.ofList ('-' :: letters)) :=
        congrArg (fun r => Progress.next r (String.ofList ('-' :: letters))) hfirst
    _ = ofCluster (a.readCluster (w.letter :: letters)) := by
        rw [look_cluster _ hne hrest, Arguments.readCluster_switch]
    _ = look a (String.ofList ('-' :: w.letter :: letters)) :=
        (look_cluster a (List.cons_ne_nil _ _) (by simp [hne])).symm

theorem after_split_text {a : Arguments} {r : Progress} (hready : Ready a r)
    {letters : List Char} (hletters : ∀ c ∈ letters, c ≠ 'C' ∧ TextFlag.ofLetter? c = none)
    (flag : TextFlag) {s : String} (hs : s ≠ "") :
    r.after [String.ofList ('-' :: letters ++ [flag.letter]), s] =
      look a (String.ofList ('-' :: letters ++ flag.letter :: s.toList)) := by
  have hname : isConfigName (String.ofList ('-' :: letters ++ [flag.letter])) = false :=
    isConfigName_ofList ('-' :: letters) flag.letter_ne.1
  have hlook (t : List Char) : look a (String.ofList ('-' :: (letters ++ flag.letter :: t))) =
      ofCluster (a.readCluster (letters ++ flag.letter :: t)) := by
    refine look_cluster a (by simp) fun h => ?_
    have hmem : flag.letter ∈ ['-'] := h ▸ List.mem_append_right _ List.mem_cons_self
    exact flag.letter_ne.2 (List.mem_singleton.mp hmem)
  have hfirst := (hready.next hname).trans (hlook [])
  have hsecond : r.after [String.ofList ('-' :: letters ++ [flag.letter]), s] =
      (ofCluster (a.readCluster (letters ++ [flag.letter]))).next s :=
    congrArg (fun r => Progress.next r s) hfirst
  rw [hsecond, List.cons_append, hlook]
  -- The letters before the flag have either settled everything or been refused.
  obtain ⟨a', ha'⟩ | ⟨fault, hfault⟩ := Arguments.readCluster_before_text a flag hletters
  · rw [ha', ha', Arguments.readCluster_text, Arguments.readCluster_text,
      if_pos List.isEmpty_nil, if_neg (by simpa using hs), String.ofList_toList]
    rfl
  · rw [hfault, hfault]
    rfl

theorem Parts.after_eq_next {a : Arguments} {expected : Expected} {arg : String}
    {parts : List String} (hflag : (reading a expected).AwaitsFlag arg) (h : Parts arg parts) :
    (reading a expected).after parts = (reading a expected).next arg := by
  have hready := ready_of_awaitsFlag hflag
  rw [next_of_awaitsFlag hflag]
  cases h with
  | switch w hne hdash => exact after_split_switch hready w hne hdash
  | text hletters flag hs => exact after_split_text hready hletters flag hs

/-- Whether the argument is read in flag position, after those before it. -/
def InFlagPosition (before : List String) (arg : String) : Prop :=
  (start.after before).AwaitsFlag arg

/-- Reading gives back what was written out, and it does not matter whether a flag shares its
cluster or a text is attached to its flag. -/
theorem read_render :
    (∀ a : Arguments, a.config ≠ .file "" → Arguments.read a.render = .ok a) ∧
    ∀ before arg parts after, InFlagPosition before arg → Parts arg parts →
      Arguments.read (before ++ arg :: after) = Arguments.read (before ++ parts ++ after) := by
  refine ⟨fun a h => ?_, fun before arg parts after hflag hparts => ?_⟩
  · rw [read_eq, start_after_render a h]
    rfl
  · have hsplit : (start.after before).after parts = (start.after before).next arg := by
      rw [InFlagPosition] at hflag
      cases hr : start.after before with
      | reading a expected => exact hparts.after_eq_next (hr ▸ hflag)
      | listing a => exact (hr ▸ hflag : (listing a).AwaitsFlag arg).elim
      | failed fault => exact after_failed fault parts
    rw [read_eq, read_eq, after_append, after_append, after_append, hsplit]
    rfl

/-- The script looks like a flag, the file like two dashes, and `-Tcd` stands where only a name that
ends in `.toml` would be the configuration. -/
theorem read_render_flaglike :
    Arguments.read ["-T", "-C", "-c", "-s", "-u", "", "--", "--"] =
      .ok { config := .skip, script := some "-s", username := some "", noTrim := true,
            files := ["--"] } ∧
    Arguments.read ["-C", "-Tcd", "x"] = Arguments.read ["-C", "-T", "-cd", "x"] ∧
    Arguments.read ["-C", "-Tcd", "x"] = Arguments.read ["-C", "-Tc", "d", "x"] := by
  have hskip : start.after ["-C"] = reading { config := .skip } .config := by rfl
  have hposition : InFlagPosition ["-C"] "-Tcd" := by
    rw [InFlagPosition, hskip]
    exact isConfigName_ofList ['-', 'T', 'c'] (by decide : 'd' ≠ 'l')
  have hrest : ∀ c ∈ ['T'], c ≠ 'C' ∧ TextFlag.ofLetter? c = none := by simp [TextFlag.ofLetter?]
  refine ⟨?_, ?_, ?_⟩
  · exact read_render.1 ⟨.skip, some "-s", ["--"], none, some "", false, true, false⟩ (by decide)
  · exact read_render.2 ["-C"] "-Tcd" ["-T", "-cd"] ["x"] hposition
      (Parts.switch .noTrim (List.cons_ne_nil 'c' ['d']) (by decide))
  · exact read_render.2 ["-C"] "-Tcd" ["-Tc", "d"] ["x"] hposition
      (Parts.text hrest .script (by simp : "d" ≠ ""))

end Render

end BracketScript.CommandLine
