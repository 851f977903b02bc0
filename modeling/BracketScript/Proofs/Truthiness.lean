import BracketScript.Proofs.Application
import BracketScript.Proofs.Names

/-! Which values count as true. The condition of a branch is taken without the blanks around it, the
third argument of `$onlyIf` with them, and a text that has some spells nothing but itself. -/

namespace BracketScript

open Text (isBlank)

theorem Text.trimChars_of_not_blank {s : List Char} (h : ∀ c ∈ s, isBlank c = false) :
    trimChars s = s := by
  cases s with
  | nil => rfl
  | cons c s =>
    refine trimChars_eq_self (fun d hd => h d ?_) (fun d hd => h d ?_) (List.cons_ne_nil c s)
    · exact List.mem_of_mem_head? hd
    · exact List.mem_of_mem_getLast? hd

namespace Double

variable {s : List Char}

theorem not_blank_of_sign (h : ∀ c ∈ (sign s).2, isBlank c = false) :
    ∀ c ∈ s, isBlank c = false := by
  unfold sign at h
  split at h
  · exact List.forall_mem_cons.mpr ⟨by decide, h⟩
  · exact List.forall_mem_cons.mpr ⟨by decide, h⟩
  · exact h

theorem not_blank_of_plainParts? {parts : List Char × List Char} (h : plainParts? s = some parts) :
    ∀ c ∈ s, isBlank c = false := by
  have hwhole : ∀ c ∈ s.takeWhile Decimal.isDigit, isBlank c = false :=
    fun c hc => Decimal.not_blank_of_isDigit (List.mem_takeWhile_imp hc)
  have hrest : ∀ c ∈ s.dropWhile Decimal.isDigit, isBlank c = false := by
    rw [plainParts?] at h
    split at h
    · rename_i hnil
      simp [hnil]
    · rename_i fraction hfraction
      rw [hfraction]
      split at h
      · rename_i hdigits
        have hall := List.all_eq_true.mp (Bool.and_eq_true_iff.mp hdigits).1
        exact List.forall_mem_cons.mpr
          ⟨by decide, fun c hc => Decimal.not_blank_of_isDigit (hall c hc)⟩
      · cases h
    · cases h
  rw [← List.takeWhile_append_dropWhile (p := Decimal.isDigit) (l := s)]
  exact List.forall_mem_append.mpr ⟨hwhole, hrest⟩

theorem not_blank_of_readNat? {n : Nat} (h : Decimal.readNat? s = some n) :
    ∀ c ∈ s, isBlank c = false := by
  rw [Decimal.readNat?] at h
  split at h
  · rename_i hdigits
    have hall := List.all_eq_true.mp (Bool.and_eq_true_iff.mp hdigits).2
    exact fun c hc => Decimal.not_blank_of_isDigit (hall c hc)
  · cases h

theorem not_blank_of_readScientific? {x : Double} (h : readScientific? s = some x) :
    ∀ c ∈ s, isBlank c = false := by
  apply not_blank_of_sign
  simp only [readScientific?] at h
  generalize (sign s).2 = rest at h ⊢
  split at h
  · rename_i whole fraction power hparts hpower
    have hmantissa := not_blank_of_plainParts? hparts
    have hdrop : ∀ c ∈ rest.dropWhile (!isExponentMark ·), isBlank c = false := by
      have hmark := List.head?_dropWhile_not (!isExponentMark ·) rest
      cases hd : rest.dropWhile (!isExponentMark ·) with
      | nil => simp
      | cons c digits =>
        simp only [hd, List.head?_cons, Bool.not_eq_false'] at hmark
        simp only [hd] at hpower
        obtain ⟨n, hn, -⟩ := Option.map_eq_some_iff.mp hpower
        obtain ⟨k, hk, -⟩ := Option.bind_eq_some_iff.mp hn
        refine List.forall_mem_cons.mpr ⟨?_, not_blank_of_sign (not_blank_of_readNat? hk)⟩
        rcases Bool.or_eq_true_iff.mp hmark with hc | hc <;>
          rw [eq_of_beq hc] <;>
          decide
    rw [← List.takeWhile_append_dropWhile (p := (!isExponentMark ·)) (l := rest)]
    exact List.forall_mem_append.mpr ⟨hmantissa, hdrop⟩
  · cases h

end Double

namespace Value

theorem trimChars_ne {s : String} (h : Text.trim s ≠ s) : Text.trimChars s.toList ≠ s.toList := by
  intro htrim
  rw [Text.trim, htrim, String.ofList_toList] at h
  exact h rfl

theorem ofLiteral_of_padded {s : String} (h : Text.trim s ≠ s) : ofLiteral s = .text s := by
  have hblank : ¬ ∀ c ∈ s.toList, isBlank c = false :=
    mt Text.trimChars_of_not_blank (trimChars_ne h)
  have hword : Decimal.readWord? s.toList = none := by
    cases hn : Decimal.readWord? s.toList with
    | none => rfl
    | some n =>
      refine absurd (fun c hc => ?_) hblank
      rw [← Decimal.ofInt_of_readWord? hn] at hc
      exact Decimal.not_blank_of_mem_ofInt hc
  have hfloat : (if s.toList.contains '.' then Double.readScientific? s.toList else none) = none := by
    split
    · cases hx : Double.readScientific? s.toList with
      | none => rfl
      | some x => exact absurd (Double.not_blank_of_readScientific? hx) hblank
    · rfl
  have hspelled (w : String) (hw : Text.trim w = w) : s ≠ w := by
    rintro rfl
    exact h hw
  rw [ofLiteral, hword, hfloat]
  · exact hspelled "NaN" rfl
  · exact hspelled "true" rfl
  · exact hspelled "false" rfl
  · exact hspelled "null" rfl
  · exact hspelled "undefined" rfl

theorem isTrue_of_padded {s : String} (h : Text.trim s ≠ s) : (text s).isTrue = true := by
  have hne : s ≠ "" := by
    rintro rfl
    exact h rfl
  rw [isTrue, ofLiteral_of_padded h, isTrueAsIs]
  simpa using hne

/-- Blanks around a value matter only if it is false without them. -/
theorem isTrue_trimmed_iff (v : Value) :
    v.isTrue = v.trimmed.isTrue ↔ v.trimmed = v ∨ v.trimmed.isTrue = true := by
  cases v with
  | text s =>
    by_cases h : Text.trim s = s
    · simp [trimmed, h]
    · have htrue := isTrue_of_padded h
      have hne : (text s).trimmed ≠ text s := fun hv => h (text.inj hv)
      rw [htrue, or_iff_right hne, eq_comm]
  | _ => exact iff_of_true rfl (.inl rfl)

end Value

variable {κ σ : Type} {dispatch : Call → Run κ σ Value} {call branch : Call} {tokens : List Token}
  {m m₁ m₂ m' : Machine κ σ} {v w : Value} {e : ScriptError}

/-- An argument that is missing is worth as much as an empty one. -/
theorem start_argument_getD (call : Call) (i : Nat) (m : Machine κ σ) :
    Run.start m (perform dispatch (call.argument i)) =
      Run.start m (evaluateSequence dispatch (call.args[i]?.getD [])) := by
  cases h : call.args[i]? with
  | none =>
    rw [Call.argument, h]
    rfl
  | some arg => exact start_argument_eq dispatch h

theorem start_condition_ok (hnone : comparison? tokens = none)
    (h : Run.start m (evaluateSequence dispatch tokens) = (.ok v, m')) :
    Run.start m (perform dispatch (condition tokens)) = (.ok v.trimmed.isTrue, m') := by
  rw [condition, hnone]
  exact Run.start_bind_ok _ h

theorem start_condition_error (hnone : comparison? tokens = none)
    (h : Run.start m (evaluateSequence dispatch tokens) = (.error e, m')) :
    Run.start m (perform dispatch (condition tokens)) = (.error e, m') := by
  rw [condition, hnone]
  exact Run.start_bind_error _ h

/-- The machine after a last request, with the run stopped. -/
def Machine.ended (m : Machine κ σ) (action : Action) : Machine κ σ :=
  { m with world := { m.world with context :=
    { m.world.context with actions := m.world.context.actions ++ [action], stopped := true } } }

/-- The part of `$onlyIf` that is left once the condition has failed and there is a message. -/
theorem start_guard (hgiven : ¬ call.Lacks 2)
    (hcondition :
      Run.start m (perform dispatch (condition (call.args[0]?.getD []))) = (.ok false, m₁))
    (hmessage : Run.start m₁ (perform dispatch (call.argument 1)) = (.ok w, m₂))
    (hw : Text.trim w.toText ≠ "") :
    Run.start m (perform dispatch (Builtin.onlyIf.body call)) =
      Run.start m₂ (perform dispatch (do
        let reply ← call.argument 2
        Routine.pushAction
          (if reply.isTrue then .reply (Text.trim w.toText) else .send (Text.trim w.toText))
        Routine.stop
        return .undefined)) := by
  have htext := Call.start_trimmedText hmessage
  rw [Builtin.body_of_not_lacks hgiven, Builtin.action, Library.guard,
    start_perform_bind_ok hcondition]
  simp only [Bool.false_eq_true, if_false]
  rw [start_perform_bind_ok htext, if_pos hw]

/-- What `$onlyIf` requests goes by the value of its third argument, blanks included, and a branch on
the same tokens by the value without them. They differ where the value is a text that spells something
false with blanks around it. -/
theorem onlyIf_reply_verdict (hgiven : ¬ call.Lacks 2) (hbranch : ¬ branch.Lacks 2)
    (hsame : branch.args[0]? = some (call.args[2]?.getD []))
    (hnone : comparison? (call.args[2]?.getD []) = none)
    (hcondition :
      Run.start m (perform dispatch (condition (call.args[0]?.getD []))) = (.ok false, m₁))
    (hmessage : Run.start m₁ (perform dispatch (call.argument 1)) = (.ok w, m₂))
    (hw : Text.trim w.toText ≠ "") :
    let guarded := Run.start m (perform dispatch (Builtin.onlyIf.body call))
    let branched := Run.start m₂ (perform dispatch (Builtin.ifElse.body branch))
    let third := Run.start m₂ (evaluateSequence dispatch (call.args[2]?.getD []))
    (∀ e m', third = (.error e, m') → guarded = (.error e, m') ∧ branched = (.error e, m')) ∧
    ∀ v m', third = (.ok v, m') →
      guarded = (.ok .undefined, m'.ended
        (if v.isTrue then .reply (Text.trim w.toText) else .send (Text.trim w.toText))) ∧
      branched = Run.start m' (perform dispatch
        (branch.argument (if v.trimmed.isTrue then 1 else 2))) ∧
      (v.isTrue = v.trimmed.isTrue ↔ v.trimmed = v ∨ v.trimmed.isTrue = true) ∧
      ∀ s, v = .text s → Text.trim s ≠ s → v.isTrue = true := by
  intro guarded branched third
  have hguarded : guarded = _ := start_guard hgiven hcondition hmessage hw
  have hbody : (Builtin.ifElse.body branch : Routine κ σ Value) = Library.branch branch :=
    Builtin.body_of_not_lacks hbranch
  have hselected : branched = Run.start m₂ (perform dispatch (Library.branch branch)) :=
    congrArg (fun r => Run.start m₂ (perform dispatch r)) hbody
  have hfirst : branch.args[0]?.getD [] = call.args[2]?.getD [] := by rw [hsame, Option.getD_some]
  rw [Library.branch, hfirst] at hselected
  rw [hguarded, hselected]
  constructor
  · intro e m' hthird
    have hargument := (start_argument_getD call 2 m₂).trans hthird
    have hverdict := start_condition_error hnone hthird
    exact ⟨start_perform_bind_error hargument _, start_perform_bind_error hverdict _⟩
  · intro v m' hthird
    have hargument := (start_argument_getD call 2 m₂).trans hthird
    have hverdict := start_condition_ok hnone hthird
    refine ⟨?_, start_perform_bind_ok hverdict _, v.isTrue_trimmed_iff, ?_⟩
    · rw [start_perform_bind_ok hargument]
      rfl
    · rintro s rfl hs
      exact Value.isTrue_of_padded hs

/-- With a blank before it `false` is true for `$onlyIf` and false for a branch. -/
theorem onlyIf_reply_padded :
    let e : Engine Builtin := Engine.ofRegistry Builtin.registry
    let run (source : String) := e.runInput Builtin.body () source "file"
    (run "$onlyIf[0;hi; false]").2.world.context.actions = [.reply "hi"] ∧
      (run "$onlyIf[0;hi;false]").2.world.context.actions = [.send "hi"] ∧
      (run "$if[ false;then;else]").1.map Value.toText = .ok "else" := by
  decide +kernel

/-- The message has blanks around it, and so has the third argument. -/
theorem onlyIf_reply_verdict_padded :
    let e : Engine Builtin := Engine.ofRegistry Builtin.registry
    let m : Machine Builtin Unit := e.machine (e.prepare "file") ()
    let dispatch : Call → Run Builtin Unit Value := callFunction Builtin.body
    let third : List Token := [.literal ⟨1, 16⟩ (.text " 0")]
    let call : Call :=
      ⟨⟨1, 1⟩, "$onlyIf", [[.literal ⟨1, 9⟩ (.number 0)], [.text ⟨1, 11⟩ " hi "], third]⟩
    let branch : Call := ⟨⟨1, 1⟩, "$if", [third, [.text ⟨1, 8⟩ "then"], [.text ⟨1, 13⟩ "else"]]⟩
    (¬ call.Lacks 2 ∧ ¬ branch.Lacks 2) ∧ comparison? third = none ∧
      Run.start m (perform dispatch (Builtin.onlyIf.body call)) =
        (.ok .undefined, m.ended (.reply "hi")) ∧
      Run.start m (perform dispatch (Builtin.ifElse.body branch)) = (.ok (.text "else"), m) := by
  intro e m dispatch third call branch
  have hgiven : ¬ call.Lacks 2 := Call.not_lacks_of_le (by decide) (by decide)
  have hbranch : ¬ branch.Lacks 2 := Call.not_lacks_of_le (by decide) (by decide)
  have hpadded : Text.trim " 0" ≠ " 0" := by decide +kernel
  have hfalse : (Value.text " 0").trimmed.isTrue = false := by decide +kernel
  obtain ⟨-, hverdict⟩ := @onlyIf_reply_verdict _ _ dispatch call branch m m m (.text " hi ")
    hgiven hbranch rfl rfl rfl rfl (by decide +kernel)
  obtain ⟨hguarded, hbranched, -, htrue⟩ := hverdict (.text " 0") m rfl
  rw [htrue " 0" rfl hpadded] at hguarded
  rw [hfalse] at hbranched
  exact ⟨⟨hgiven, hbranch⟩, rfl, hguarded, hbranched⟩

end BracketScript
