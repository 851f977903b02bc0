import BracketScript.Proofs.Application
import BracketScript.Proofs.Rounding

/-! Cutting off the fraction of a number. It is done on doubles, so that an integer that no double
holds is changed by it; what it gives once it gives again. -/

attribute [local instance (high)] instPowNat

namespace BracketScript

namespace Double

attribute [local irreducible] one limit unitExponent

/-- The integers with a significand of 53 bits. -/
def Holds (n : Int) : Prop :=
  ∃ significand exponent : Nat, significand < significandLimit ∧
    n.natAbs = significand * 2 ^ exponent

theorem holds_iff_of_natAbs_eq {a b : Int} (h : a.natAbs = b.natAbs) : Holds a ↔ Holds b := by
  rw [Holds, Holds, h]

theorem holds_of_lt {n : Int} (h : n.natAbs < significandLimit) : Holds n :=
  ⟨n.natAbs, 0, h, by simp⟩

theorem holds_of_le {n : Int} (h : n.natAbs ≤ 2 ^ 53) : Holds n := by
  rcases Nat.lt_or_eq_of_le h with hlt | heq
  · exact holds_of_lt hlt
  · exact ⟨1, 53, by decide, by rw [heq, Nat.one_mul]⟩

/-- The whole part of a magnitude has no more digits than the magnitude. -/
theorem holds_div_one {units : Nat} (h : Representable units) : Holds (units / one : Nat) := by
  obtain ⟨-, s, e, hs, rfl⟩ := h
  rw [one]
  by_cases he : unitExponent ≤ e
  · obtain ⟨d, rfl⟩ := Nat.exists_eq_add_of_le he
    have hpow : s * 2 ^ (unitExponent + d) = s * 2 ^ d * 2 ^ unitExponent := by
      rw [Nat.pow_add]
      ring
    refine ⟨s, d, hs, ?_⟩
    rw [Int.natAbs_natCast, hpow, Nat.mul_div_cancel _ (Nat.two_pow_pos unitExponent)]
  · have hle : s * 2 ^ e / 2 ^ unitExponent ≤ s := by
      refine Nat.div_le_of_le_mul ?_
      rw [Nat.mul_comm]
      exact Nat.mul_le_mul_right s (Nat.pow_le_pow_right (by decide) (by omega))
    apply holds_of_lt
    rw [Int.natAbs_natCast]
    exact Nat.lt_of_le_of_lt hle hs

theorem roundUnits_of_significand {s e : Nat} (hs : s < significandLimit) :
    roundUnits (s * 2 ^ e) 1 = s * 2 ^ e := by
  apply roundUnits_of_dvd
  by_cases hzero : s = 0
  · simp [hzero]
  have hlt : s * 2 ^ e < 2 ^ (fractionBits + 1 + e) := by
    rw [Nat.pow_add]
    exact Nat.mul_lt_mul_of_pos_right hs (Nat.two_pow_pos e)
  have hlog : (s * 2 ^ e).log2 < fractionBits + 1 + e :=
    (Nat.log2_lt (Nat.mul_ne_zero hzero (Nat.two_pow_pos e).ne')).mpr hlt
  exact Nat.dvd_mul_left_of_dvd (Nat.pow_dvd_pow 2 (by omega)) s

theorem roundUnits_of_holds {n : Int} (h : Holds n) :
    roundUnits (n.natAbs * one) 1 = n.natAbs * one := by
  obtain ⟨s, e, hs, he⟩ := h
  have hpow : s * 2 ^ e * one = s * 2 ^ (e + unitExponent) := by
    rw [one, Nat.pow_add, Nat.mul_assoc]
  rw [he, hpow, roundUnits_of_significand hs]

/-- The integer part of the double nearest to an integer. -/
def nearest (n : Int) : Int :=
  if n < 0 then -(roundUnits (n.natAbs * one) 1 / one : Nat)
  else (roundUnits (n.natAbs * one) 1 / one : Nat)

theorem natAbs_nearest (n : Int) :
    (nearest n).natAbs = roundUnits (n.natAbs * one) 1 / one := by
  rw [nearest]
  generalize roundUnits (n.natAbs * one) 1 / one = whole
  split <;> omega

theorem nearest_of_holds {n : Int} (h : Holds n) : nearest n = n := by
  have hdiv : roundUnits (n.natAbs * one) 1 / one = n.natAbs := by
    rw [roundUnits_of_holds h, Nat.mul_div_cancel _ one_pos]
  rw [nearest, hdiv]
  split <;> omega

theorem holds_nearest {n : Int} (hn : n.natAbs ≤ 2 ^ 63) : Holds (nearest n) := by
  have hunits := holds_div_one (representable_roundUnits (roundUnits_lt_limit hn))
  refine (holds_iff_of_natAbs_eq ?_).mp hunits
  rw [natAbs_nearest, Int.natAbs_natCast]

theorem nearest_eq_iff {n : Int} (hn : n.natAbs ≤ 2 ^ 63) : nearest n = n ↔ Holds n :=
  ⟨fun h => h ▸ holds_nearest hn, nearest_of_holds⟩

theorem natAbs_nearest_le {n : Int} (hn : n.natAbs ≤ 2 ^ 63) : (nearest n).natAbs ≤ 2 ^ 63 := by
  have hpow : Holds (2 ^ 63) := ⟨1, 63, by decide, by decide⟩
  have hmono := roundUnits_mono (Nat.mul_le_mul_right one hn)
  have hround := roundUnits_of_holds hpow
  have habs : (2 ^ 63 : Int).natAbs = 2 ^ 63 := by decide
  rw [habs] at hround
  rw [natAbs_nearest]
  refine Nat.div_le_of_le_mul ?_
  rw [Nat.mul_comm one, ← hround]
  exact hmono

theorem toInt_clamp (n : Int) : (clamp n).toInt = max (-2 ^ 63) (min n (2 ^ 63 - 1)) := by
  have hmin : Int64.minValue.toInt = -2 ^ 63 := by decide
  have hmax : Int64.maxValue.toInt = 2 ^ 63 - 1 := by decide
  rw [clamp, hmin, hmax]
  exact Int64.toInt_ofInt_of_le (by omega) (by omega)

theorem truncate_finite (negative : Bool) {units : Nat} (h : Representable units) :
    truncate (finite negative units h) =
      clamp (if negative then -(units / one : Nat) else (units / one : Nat)) := by
  simp only [truncate, Int.natCast_ediv]

theorem truncate_ofInt {n : Int} (hn : n.natAbs ≤ 2 ^ 63) :
    truncate (ofInt n) = clamp (nearest n) := by
  rw [ofInt_eq hn, truncate_finite, nearest]
  simp only [decide_eq_true_eq]

theorem truncate_ofInt_eq_iff (n : Int64) :
    truncate (ofInt n.toInt) = n ↔ Holds n.toInt ∨ n = Int64.maxValue := by
  have hn := natAbs_toInt_le n
  have hle := n.toInt_lt
  have hnearest := natAbs_nearest_le hn
  have hclamp := toInt_clamp (nearest n.toInt)
  rw [truncate_ofInt hn]
  constructor
  · intro h
    rw [h] at hclamp
    by_cases hlt : nearest n.toInt < 2 ^ 63
    · have heq : nearest n.toInt = n.toInt := by omega
      exact .inl ((nearest_eq_iff hn).mp heq)
    · refine .inr (Int64.toInt_inj.mp ?_)
      have hmax : Int64.maxValue.toInt = 2 ^ 63 - 1 := by decide
      omega
  · rintro (h | rfl)
    · rw [nearest_of_holds h] at hclamp ⊢
      have hge := n.le_toInt
      exact Int64.toInt_inj.mp (by omega)
    · decide +kernel

/-- What is left of any double is an integer that a double holds, or the greatest of all words. -/
theorem truncate_ofInt_truncate (x : Double) :
    truncate (ofInt x.truncate.toInt) = x.truncate := by
  cases x with
  | nan => decide +kernel
  | infinite negative => cases negative <;> decide +kernel
  | finite negative units h =>
    rw [truncate_ofInt_eq_iff, truncate_finite]
    have hunits := holds_div_one h
    generalize units / one = whole at hunits
    generalize hw : (if negative then -(whole : Int) else (whole : Int)) = w
    have habs : (whole : Int).natAbs = w.natAbs := by
      rw [← hw]
      split <;> omega
    have hclamp := toInt_clamp w
    by_cases hhigh : 2 ^ 63 ≤ w
    · refine .inr (Int64.toInt_inj.mp ?_)
      have hmax : Int64.maxValue.toInt = 2 ^ 63 - 1 := by decide
      omega
    by_cases hlow : w < -2 ^ 63
    · have hpow : Holds (-2 ^ 63) := ⟨1, 63, by decide, by decide⟩
      have hmin : (clamp w).toInt = -2 ^ 63 := by omega
      exact .inl (hmin ▸ hpow)
    · have hself : (clamp w).toInt = w := by omega
      rw [hself]
      exact .inl ((holds_iff_of_natAbs_eq habs).mp hunits)

end Double

namespace Value

/-- All values but the integers that no double holds and the floats that are not finite. -/
def KeepsInteger : Value → Prop
  | int n => Double.Holds n.toInt ∨ n = Int64.maxValue
  | float x => x.isFinite = true
  | _ => True

theorem integer?_of_finite {v : Value} (hint : ∀ n, v ≠ int n)
    (h : ∀ x ∈ v.number?, x.isFinite = true) : v.integer? = v.number?.map Double.truncate := by
  have hfilter : v.number?.filter Double.isFinite = v.number? := by
    cases hx : v.number? with
    | none => rfl
    | some x => simp [Option.filter, h x hx]
  rw [integer?, hfilter]
  exact hint

theorem integer?_eq_iff (v : Value) :
    v.integer? = v.number?.map Double.truncate ↔ v.KeepsInteger := by
  cases v with
  | undefined => exact iff_of_true rfl trivial
  | list items => exact iff_of_true rfl trivial
  | bool b =>
    have hfinite (n : Int) (hn : n.natAbs ≤ 2 ^ 63) := Double.isFinite_ofInt hn
    refine iff_of_true (integer?_of_finite nofun fun x hx => ?_) trivial
    obtain rfl := Option.some.inj hx
    cases b <;> exact hfinite _ (by decide)
  | int n =>
    rw [KeepsInteger, ← Double.truncate_ofInt_eq_iff, integer?, number?, Option.map_some,
      Option.some.injEq, eq_comm]
  | float x =>
    cases x with
    | nan => exact iff_of_false nofun nofun
    | infinite negative => exact iff_of_false nofun nofun
    | finite negative units h => exact iff_of_true rfl rfl
  | text s =>
    refine iff_of_true (integer?_of_finite nofun fun x hx => ?_) trivial
    exact (Option.mem_filter_iff.mp hx).2

end Value

variable {κ σ : Type} {dispatch : Call → Run κ σ Value} {call : Call} {arg : List Token}
  {m m' : Machine κ σ} {v : Value}

theorem ScriptError.message_notNumber (name : String) :
    (ScriptError.failed name (.notNumber 1)).message = name ++ ": argument 1 is not a number" := by
  change name ++ ": " ++ (CallFault.notNumber 1).message = _
  rw [String.append_assoc]
  rfl

/-- What cutting off comes to for a value with this integer part, or for one with none. -/
def Library.truncated (name : String) (part : Option Int64) : Except ScriptError Value :=
  match part with
  | some n => .ok (.int n)
  | none => .error (.failed name (.notNumber 1))

theorem Library.truncated_eq_ok_iff {name : String} {part : Option Int64} {n : Int64} :
    truncated name part = .ok (.int n) ↔ part = some n := by
  cases part <;> simp [truncated]

theorem Library.truncated_eq_error_iff {name : String} {part : Option Int64} :
    truncated name part = .error (.failed name (.notNumber 1)) ↔ part = none := by
  cases part <;> simp [truncated]

theorem start_trunc (hgiven : ¬ call.Lacks 1) (harg : call.args[0]? = some arg)
    (hv : Run.start m (evaluateSequence dispatch arg) = (.ok v, m')) :
    Run.start m (perform dispatch (Builtin.trunc.body call)) =
      (Library.truncated call.name (v.number?.map Double.truncate), m') := by
  have hargument := start_argument dispatch harg hv
  rw [Builtin.body_of_not_lacks hgiven, Builtin.action, Library.trunc,
    start_perform_bind_ok hargument]
  cases v.number? <;> rfl

theorem Library.truncated_iff (v : Value) (name : String) :
    ((∀ n, truncated name (v.number?.map Double.truncate) = .ok (.int n) ↔ v.integer? = some n) ∧
      (truncated name (v.number?.map Double.truncate) = .error (.failed name (.notNumber 1)) ↔
        v.integer? = none)) ↔ v.KeepsInteger := by
  simp only [truncated_eq_ok_iff, truncated_eq_error_iff, ← Value.integer?_eq_iff]
  constructor
  · rintro ⟨hsome, -⟩
    exact Option.ext fun n => (hsome n).symm
  · intro h
    simp [h]

/-- The integer part that is cut off is the integer view of the value exactly if the value keeps it,
as all integers up to `2 ^ 53` do. Cutting off twice is cutting off once. -/
theorem trunc_integer_view (hgiven : ¬ call.Lacks 1) (harg : call.args[0]? = some arg)
    (hv : Run.start m (evaluateSequence dispatch arg) = (.ok v, m')) :
    let result := Run.start m (perform dispatch (Builtin.trunc.body call))
    let fault : ScriptError := .failed call.name (.notNumber 1)
    fault.message = call.name ++ ": argument 1 is not a number" ∧
    ((∀ n, result = (.ok (.int n), m') ↔ v.integer? = some n) ∧
      (result = (.error fault, m') ↔ v.integer? = none) ↔ v.KeepsInteger) ∧
    (∀ n, v = .int n → result = (.ok (.int (Double.clamp (Double.nearest n.toInt))), m') ∧
      (n.toInt.natAbs ≤ 2 ^ 53 → result = (.ok v, m'))) ∧
    (∀ x, v = .float x → x.isFinite = false →
      v.integer? = none ∧ result = (.ok (.int x.truncate), m')) ∧
    ∀ n, result = (.ok (.int n), m') → ∀ (call' : Call) (arg' : List Token) (m₁ m₂ : Machine κ σ),
      ¬ call'.Lacks 1 → call'.args[0]? = some arg' →
      Run.start m₁ (evaluateSequence dispatch arg') = (.ok (.int n), m₂) →
      Run.start m₁ (perform dispatch (Builtin.trunc.body call')) = (.ok (.int n), m₂) := by
  intro result fault
  have hresult : result = (Library.truncated call.name (v.number?.map Double.truncate), m') :=
    start_trunc hgiven harg hv
  rw [hresult]
  refine ⟨?_, ?_, ?_, ?_, ?_⟩
  · exact ScriptError.message_notNumber call.name
  · simpa [fault] using Library.truncated_iff v call.name
  · rintro n rfl
    have hn := Double.natAbs_toInt_le n
    refine ⟨?_, fun hle => ?_⟩
    · rw [← Double.truncate_ofInt hn]
      rfl
    · have hcut := (Double.truncate_ofInt_eq_iff n).mpr (.inl (Double.holds_of_le hle))
      rw [Value.number?, Option.map_some, hcut]
      rfl
  · rintro x rfl hx
    refine ⟨?_, rfl⟩
    simp [Value.integer?, Value.number?, hx]
  · intro n hn call' arg' m₁ m₂ hgiven' harg' hv'
    obtain ⟨hn, -⟩ := Prod.mk.inj hn
    obtain ⟨x, -, rfl⟩ := Option.map_eq_some_iff.mp (Library.truncated_eq_ok_iff.mp hn)
    rw [start_trunc hgiven' harg' hv', Value.number?, Option.map_some,
      Double.truncate_ofInt_truncate]
    rfl

/-- `2 ^ 53 + 1`, which no double holds, and a float that is not a number. -/
theorem trunc_changes_integer :
    let e : Engine Builtin := (Engine.ofRegistry Builtin.registry).setPreset "x" (.float .nan)
    let run (source : String) := (e.runInput Builtin.body () source "file").1.map fun v =>
      (v.typeName, v.toText)
    run "$trunc[9007199254740993]" = .ok ("number", "9007199254740992") ∧
      (Value.int 9007199254740993).integer? = some 9007199254740993 ∧
      run "$trunc[$get[x]]" = .ok ("number", "0") ∧ (Value.float .nan).integer? = none := by
  decide +kernel

/-- A negative fraction with a blank before it, and what is left of it. -/
theorem trunc_integer_view_negative :
    let e : Engine Builtin := Engine.ofRegistry Builtin.registry
    let m : Machine Builtin Unit := e.machine (e.prepare "file") ()
    let dispatch : Call → Run Builtin Unit Value := callFunction Builtin.body
    let call : Call := ⟨⟨1, 1⟩, "$trunc", [[.text ⟨1, 8⟩ " -3.9"]]⟩
    let call' : Call := ⟨⟨1, 1⟩, "$TRUNC", [[.literal ⟨1, 8⟩ (.number (-3))], []]⟩
    (¬ call.Lacks 1 ∧ ¬ call'.Lacks 1) ∧ (Value.text " -3.9").integer? = some (-3) ∧
      Run.start m (perform dispatch (Builtin.trunc.body call)) = (.ok (.int (-3)), m) ∧
      Run.start m (perform dispatch (Builtin.trunc.body call')) = (.ok (.int (-3)), m) := by
  intro e m dispatch call call'
  have hgiven : ¬ call.Lacks 1 := by simp [Call.Lacks, call]
  have hgiven' : ¬ call'.Lacks 1 := by simp [Call.Lacks, call']
  have hpart : (Value.text " -3.9").integer? = some (-3) := by decide +kernel
  obtain ⟨-, hview, -, -, htwice⟩ := @trunc_integer_view _ _ dispatch call _ m m (.text " -3.9") hgiven
    rfl rfl
  have hcut := ((hview.mpr trivial).1 (-3)).mpr hpart
  exact ⟨⟨hgiven, hgiven'⟩, hpart, hcut, htwice (-3) hcut call' _ m m hgiven' rfl rfl⟩

end BracketScript
