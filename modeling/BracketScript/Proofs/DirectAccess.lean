import BracketScript.Proofs.ByteOffsets
import BracketScript.Proofs.Orderly

/-! The functions of the library with every direct access spelled out. An access to an argument, to a
value or to a byte of a text that is not there is a panic, which ends the run with an error that can be
any at all. It makes no difference which one, since the check of the arguments comes first. -/

namespace BracketScript

variable {κ σ α β γ : Type}

theorem Routine.bind_bind (r : Routine κ σ α) (f : α → Routine κ σ β) (g : β → Routine κ σ γ) :
    (r.bind f).bind g = r.bind fun a => (f a).bind g := by
  induction r with
  | done a => rfl
  | fail e => rfl
  | ask q next ih => exact congrArg (ask q) (funext ih)

/-- What follows the evaluation of arguments is given as many values as there are arguments. -/
theorem Call.evaluateAll_bind_congr {f g : List Value → Routine κ σ α} (args : List (List Token))
    (h : ∀ values, values.length = args.length → f values = g values) :
    (evaluateAll args).bind f = (evaluateAll args).bind g := by
  induction args generalizing f g with
  | nil => exact h [] rfl
  | cons tokens rest ih =>
    have hunfold : (evaluateAll (tokens :: rest) : Routine κ σ (List Value)) =
        (Routine.evaluate tokens).bind fun v =>
          (evaluateAll rest).bind fun values => .done (v :: values) := rfl
    have hstep (k : List Value → Routine κ σ α) : (evaluateAll (tokens :: rest)).bind k =
        (Routine.evaluate tokens).bind fun v =>
          (evaluateAll rest).bind fun values => k (v :: values) := by
      simp only [hunfold, Routine.bind_bind]
      rfl
    have hrest (v : Value) : ((evaluateAll rest).bind fun values => f (v :: values)) =
        (evaluateAll rest).bind fun values => g (v :: values) :=
      ih fun values hlength => h (v :: values) (congrArg Nat.succ hlength)
    rw [hstep, hstep]
    exact congrArg _ (funext hrest)

namespace Direct

variable (panic : ScriptError)

/-- Takes what is there and panics otherwise. -/
def demand (x : Option α) : Routine κ σ α :=
  match x with
  | some a => .done a
  | none => .fail panic

def from? (i : Nat) (values : List α) : Option (List α) :=
  if i ≤ values.length then some (values.drop i) else none

def branch (call : Call) : Routine κ σ Value := do
  let tokens ← demand panic call.args[0]?
  let holds ← condition tokens
  call.argument (if holds then 1 else 2)

def guard (call : Call) : Routine κ σ Value := do
  let tokens ← demand panic call.args[0]?
  if ← condition tokens then return .undefined
  let message ← call.trimmedText 1
  if message ≠ "" then
    let reply ← call.argument 2
    Routine.pushAction (if reply.isTrue then .reply message else .send message)
  Routine.stop
  return .undefined

def checkContains (call : Call) : Routine κ σ Value := do
  let values ← Call.evaluateAll call.args
  let first ← demand panic values[0]?
  let others ← demand panic (from? 1 values)
  return .bool (others.any fun v => Library.containsText first.toText.toList v.toText.toList)

/-- The position of a byte, counted in characters. -/
def characterIndex (text : List Char) (byte : Option Nat) : Routine κ σ Value :=
  match byte with
  | none => return .int (-1)
  | some b => do
    let before ← demand panic (Text.beforeByte? b text)
    return .int (Int64.ofNat before.length)

def search (find : List Char → List Char → Option Nat) (call : Call) : Routine κ σ Value := do
  let s ← call.text 0
  let s' ← call.text 1
  characterIndex panic s.toList (find s'.toList s.toList)

def findFrom (name : String) (args : List (List Token)) (i : Nat) :
    List Value → Routine κ σ (Option Nat)
  | [] => return none
  | item :: items => do
    let _ ← Routine.setVariable name item
    let tokens ← demand panic args[2]?
    if ← condition tokens then return some i
    findFrom name args (i + 1) items

def arrayFindIndex (call : Call) : Routine κ σ Value := do
  let items ← Library.listOf call (← call.argument 0)
  let name ← call.trimmedText 1
  return Library.position (← findFrom panic name call.args 0 items)

def action : Builtin → Call → Routine κ σ Value
  | .ifElse => branch panic
  | .onlyIf => guard panic
  | .textIndexOf => search panic Text.firstByte
  | .textLastIndexOf => search panic Text.lastByte
  | .checkContains => checkContains panic
  | .arrayFindIndex => arrayFindIndex panic
  | f => f.action

def body (f : Builtin) (call : Call) : Routine κ σ Value := do
  if f.minimum ≠ 0 then call.require f.minimum
  action panic f call

variable {panic} {call : Call} {tokens : List Token} {f : Builtin} {text : List Char}

theorem exists_argument {n i : Nat} (h : ¬ call.Lacks n) (hi : i < n) :
    ∃ tokens, call.args[i]? = some tokens := by
  have hle := Call.le_of_not_lacks h
  exact ⟨call.args[i], List.getElem?_eq_getElem (Nat.lt_of_lt_of_le hi hle)⟩

theorem branch_eq (h : call.args[0]? = some tokens) :
    (branch panic call : Routine κ σ Value) = Library.branch call := by
  rw [branch, Library.branch, h]
  rfl

theorem guard_eq (h : call.args[0]? = some tokens) :
    (guard panic call : Routine κ σ Value) = Library.guard call := by
  rw [guard, Library.guard, h]
  rfl

theorem checkContains_eq (h : 1 ≤ call.args.length) :
    (checkContains panic call : Routine κ σ Value) = Library.checkContains call := by
  refine Call.evaluateAll_bind_congr call.args fun values hlength => ?_
  cases values with
  | nil =>
    rw [List.length_nil] at hlength
    omega
  | cons first others => rfl

theorem findFrom_eq {args : List (List Token)} (h : args[2]? = some tokens) (name : String) (i : Nat)
    (items : List Value) :
    (findFrom panic name args i items : Routine κ σ (Option Nat)) =
      Library.findFrom name tokens i items := by
  induction items generalizing i with
  | nil => rfl
  | cons item items ih =>
    rw [findFrom, Library.findFrom, h, ih]
    rfl

theorem arrayFindIndex_eq (h : call.args[2]? = some tokens) :
    (arrayFindIndex panic call : Routine κ σ Value) = Library.arrayFindIndex call := by
  rw [arrayFindIndex, Library.arrayFindIndex, h]
  simp only [findFrom_eq h, Option.getD_some]

theorem characterIndex_offset {i : Nat} (hi : i ≤ text.length) :
    (characterIndex panic text (some (Text.offset text i)) : Routine κ σ Value) =
      .done (Library.position (some i)) := by
  have hlength : (text.take i).length = i := by rw [List.length_take, Nat.min_eq_left hi]
  rw [characterIndex, Text.beforeByte?_offset hi]
  change Routine.done (Value.int (Int64.ofNat (text.take i).length)) = _
  rw [hlength]
  rfl

/-- A search by bytes finds the start of a character, wherever one by characters finds anything. -/
theorem search_eq {find index : List Char → List Char → Option Nat}
    (hfind : ∀ sought text, find sought text = (index sought text).map (Text.offset text))
    (hindex : ∀ sought text, (∃ i, index sought text = some i ∧ Text.OccursAt sought text i) ∨
      index sought text = none) :
    (search panic find call : Routine κ σ Value) =
      Library.ofTwoTexts (fun s s' => Library.position (index s' s)) call := by
  have hposition (text sought : List Char) :
      (characterIndex panic text (find sought text) : Routine κ σ Value) =
        .done (Library.position (index sought text)) := by
    rw [hfind]
    obtain ⟨i, hi, hoccurs⟩ | hi := hindex sought text
    · rw [hi]
      exact characterIndex_offset hoccurs.1
    · rw [hi]
      rfl
  simp only [search, hposition]
  rfl

theorem search_first_eq : (search panic Text.firstByte call : Routine κ σ Value) =
    Builtin.textIndexOf.action call :=
  search_eq Text.firstByte_eq fun sought text =>
    (Text.indexOf_cases sought text).imp (fun ⟨i, hi, hleast⟩ => ⟨i, hi, hleast.1⟩) And.left

theorem search_last_eq : (search panic Text.lastByte call : Routine κ σ Value) =
    Builtin.textLastIndexOf.action call :=
  search_eq Text.lastByte_eq fun sought text =>
    (Text.lastIndexOf_cases sought text).imp (fun ⟨i, hi, hgreatest⟩ => ⟨i, hi, hgreatest.1⟩)
      And.left

/-- With enough arguments everything that is accessed is there. -/
theorem action_eq (h : ¬ call.Lacks f.minimum) :
    (action panic f call : Routine κ σ Value) = f.action call := by
  cases f with
  | ifElse =>
    obtain ⟨tokens, htokens⟩ := exists_argument h (i := 0) (by decide)
    exact branch_eq htokens
  | onlyIf =>
    obtain ⟨tokens, htokens⟩ := exists_argument h (i := 0) (by decide)
    exact guard_eq htokens
  | textIndexOf => exact search_first_eq
  | textLastIndexOf => exact search_last_eq
  | checkContains =>
    have hle := Call.le_of_not_lacks h
    exact checkContains_eq (Nat.le_of_succ_le hle)
  | arrayFindIndex =>
    obtain ⟨tokens, htokens⟩ := exists_argument h (i := 2) (by decide)
    exact arrayFindIndex_eq htokens
  | _ => rfl

-- without the check there would be something to access that is not there
example : (action panic .ifElse ⟨⟨1, 1⟩, "$if", []⟩ : Routine κ σ Value) = .fail panic :=
  rfl

variable (panic f call) in
theorem body_eq : (body panic f call : Routine κ σ Value) = f.body call := by
  rw [body, Builtin.body]
  by_cases hf : f.minimum ≠ 0
  · rw [if_pos hf, if_pos hf]
    by_cases h : call.Lacks f.minimum
    · rw [Call.require_of_lacks hf h]
      rfl
    · rw [action_eq h]
  · rw [if_neg hf, if_neg hf]
    cases f <;> first | rfl | exact absurd (by decide) hf

end Direct

theorem Machine.world_leave_enter (m : Machine κ σ) (call : Call)
    (outcome : Except ScriptError Value) : ((m.enter call).leave call outcome).world = m.world :=
  rfl

theorem start_callFunction_of_lacks {bodies : Bodies κ σ} {f : Builtin} {code : κ} {call : Call}
    {m : Machine κ σ} (hf : f.minimum ≠ 0) (h : call.Lacks f.minimum)
    (hbody : bodies code call = f.body call) (hcode : resolve m.world.chain call.name = .ok code)
    (hdepth : m.depth < maxNesting) :
    let error : ScriptError := .failed call.name (call.refusal f.minimum)
    Run.start m (callFunction bodies call) =
      (.error error, (m.enter call).leave call (.error error)) := by
  intro error
  have hfail : (bodies code call : Routine κ σ Value) = .fail error := by
    rw [hbody, Builtin.body_of_lacks hf h]
  rw [start_callFunction, hcode]
  dsimp only
  rw [if_neg (Nat.not_le.mpr hdepth), hfail]
  rfl

open Stepping StateTransition in
/-- A call that lacks arguments fails in its own name, and the world is as it was: nothing has been
evaluated. With enough of them everything that the function accesses is there, so that no script can
tell what happens where it is not. -/
theorem arguments_checked_first {κ σ : Type} {f : Builtin} (hf : f.minimum ≠ 0) (call : Call) :
    (call.Lacks f.minimum →
      (f.body call : Routine κ σ Value) = .fail (.failed call.name (call.refusal f.minimum)) ∧
      ∀ (bodies : Bodies κ σ) (code : κ) (m : Machine κ σ), bodies code call = f.body call →
        resolve m.world.chain call.name = .ok code →
        ∃ fault m', Run.start m (callFunction bodies call) = (.error (.failed call.name fault), m') ∧
          m'.world = m.world ∧
          (maxNesting ≤ m.depth → fault = .nestedTooDeep ∧ m' = m) ∧
          (m.depth < maxNesting → fault = call.refusal f.minimum ∧
            m' = (m.enter call).leave call (.error (.failed call.name fault)))) ∧
    (¬ call.Lacks f.minimum → ∀ panic : ScriptError,
      (f.body call : Routine κ σ Value) = f.action call ∧
        (Direct.action panic f call : Routine κ σ Value) = f.action call) ∧
    ∀ (panic : ScriptError) (e : Engine Builtin) (context : Context Builtin) (host : σ)
      (source : String),
      e.runWith (Direct.body panic) context host source =
          e.runWith Builtin.body context host source ∧
        (panic.isInternal = true →
          (e.runWith (Direct.body panic) context host source).1 ≠ .error panic) := by
  refine ⟨fun h => ⟨Builtin.body_of_lacks hf h, ?_⟩, fun h panic => ?_, ?_⟩
  · intro bodies code m hbody hcode
    by_cases hdeep : maxNesting ≤ m.depth
    · refine ⟨.nestedTooDeep, m, ?_, rfl, fun _ => ⟨rfl, rfl⟩, fun hlt => ?_⟩
      · rw [start_callFunction, hcode]
        exact if_pos hdeep
      · omega
    · have hlt := Nat.lt_of_not_le hdeep
      have hrun := start_callFunction_of_lacks hf h hbody hcode hlt
      exact ⟨_, _, hrun, m.world_leave_enter call _, fun hle => absurd hle hdeep,
        fun _ => ⟨rfl, rfl⟩⟩
  · exact ⟨Builtin.body_of_not_lacks h, Direct.action_eq h⟩
  · intro panic e context host source
    have hbodies : (Direct.body panic : Bodies Builtin σ) = Builtin.body :=
      funext fun f => funext fun call => Direct.body_eq panic call f
    rw [hbodies]
    refine ⟨rfl, fun hinternal herror => ?_⟩
    have hs := orderly_of_reaches (reaches_runWith Builtin.body e context host source)
    have hnot := hs.control panic herror
    rw [hinternal] at hnot
    cases hnot

/-- A single empty argument, and a search for a letter that stands after one of two bytes. -/
theorem arguments_checked_first_empty :
    let e : Engine Builtin := Engine.ofRegistry Builtin.registry
    let m : Machine Builtin Unit := e.machine (e.prepare "file") ()
    let empty : Call := ⟨⟨1, 1⟩, "$CheckContains", [[]]⟩
    let found : Call := ⟨⟨1, 1⟩, "$textIndexOf", [[.text ⟨1, 14⟩ "mañana"], [.text ⟨1, 21⟩ "n"]]⟩
    empty.Lacks 2 ∧ ¬ found.Lacks 2 ∧
      (∃ m', Run.start m (callFunction Builtin.body empty) =
        (.error (.failed "$CheckContains" (.argumentsExpected 2)), m') ∧ m'.world = m.world) ∧
      ∀ panic : ScriptError, (Direct.action panic .textIndexOf found : Routine Builtin Unit Value) =
        Builtin.textIndexOf.action found := by
  intro e m empty found
  have hempty : empty.Lacks 2 := .inl rfl
  have hfound : ¬ found.Lacks 2 := Call.not_lacks_of_le (by decide) (by decide)
  have hcode : resolve m.world.chain empty.name = .ok Builtin.checkContains := by decide +kernel
  have hmin : Builtin.checkContains.minimum ≠ 0 := by decide
  obtain ⟨hlacks, -, -⟩ := arguments_checked_first (κ := Builtin) (σ := Unit) hmin empty
  obtain ⟨-, hinvoked⟩ := hlacks hempty
  obtain ⟨fault, m', hrun, hworld, -, hshallow⟩ := hinvoked Builtin.body _ m rfl hcode
  obtain ⟨rfl, -⟩ := hshallow (by decide)
  obtain ⟨-, henough, -⟩ :=
    arguments_checked_first (κ := Builtin) (σ := Unit) (f := .textIndexOf) (by decide) found
  exact ⟨hempty, hfound, ⟨m', hrun, hworld⟩, fun panic => (henough hfound panic).2⟩

end BracketScript
