import ControlOfc.Profile.Validate
/-! # The load-time net against `validate` (profile.rs:402-564, 991-1318)

Two traversals check the same fields: `check_numeric_ranges` stops at the first that is wrong, `validate`
reports every one. Both come down to one predicate on each field, `Bounded`, so what remains is that they
visit the same fields with the same bounds (`controlFindings_numeric`, `curveFindings_numeric`).
-/
namespace ControlOfc.Profile
open FieldViolation Number

variable {F : Type} [Number F] [DecidableEq F]

/-- The errors of `validate` about a number: `NON_FINITE` and `OUT_OF_RANGE`. -/
def FieldViolation.IsNumeric (v : FieldViolation) : Prop :=
  v.severity = .error ∧ (v.reason = .nonFinite ∨ v.reason = .outOfRange)

instance (v : FieldViolation) : Decidable v.IsNumeric := inferInstanceAs (Decidable (_ ∧ _))

/-- No finding is an error about a number. -/
def NumericClean (fs : List FieldViolation) : Prop := ∀ v ∈ fs, ¬ v.IsNumeric

/-- The three nets of `parse_profile` (profile.rs:416-441), on the profile its document decodes to. -/
def loadNets (path : String) (p : DaemonProfile F) : Except String Unit :=
  if maxProfileCurves < p.curves.length then
    .error ("profile '" ++ path ++ "' has " ++ toString p.curves.length ++ " curves, exceeding the maximum of 256")
  else if maxProfileControls < p.controls.length then
    .error ("profile '" ++ path ++ "' has " ++ toString p.controls.length ++ " controls, exceeding the maximum of 256")
  else
    match checkNumericRanges p with
    | .error e => .error ("profile '" ++ path ++ "' has an out-of-range value: " ++ e)
    | .ok () => .ok ()

/-! ## One field -/

/-- What both ask of a bounded field. -/
def Bounded (lo hi : ℚ) (v : F) : Prop := isFinite v = true ∧ inRange lo hi v = true

/-- What both ask of an optional field. -/
def IfPresent (ok : F → Prop) (v : Option F) : Prop := ∀ x, v = some x → ok x

@[simp] theorem numericClean_nil : NumericClean [] := List.forall_mem_nil _

@[simp] theorem numericClean_append {fs gs : List FieldViolation} :
    NumericClean (fs ++ gs) ↔ NumericClean fs ∧ NumericClean gs := List.forall_mem_append

@[simp] theorem numericClean_warn (field description : String) (reason : Reason) :
    NumericClean [warn field reason description] := by
  simp [NumericClean, IsNumeric, warn]

theorem numericClean_error {field description : String} {reason : Reason} :
    NumericClean [error field reason description] ↔ reason ≠ .nonFinite ∧ reason ≠ .outOfRange := by
  simp [NumericClean, IsNumeric, error]

/-- A finding of another kind, made or not. -/
theorem numericClean_ite {c : Prop} [Decidable c] {f : FieldViolation} (h : NumericClean [f]) :
    NumericClean (if c then [f] else []) := by
  split
  · exact h
  · exact numericClean_nil

omit [DecidableEq F] in
@[simp] theorem checkFinite_numeric {field : String} {v : F} : NumericClean (checkFinite field v) ↔ isFinite v = true := by
  unfold checkFinite
  cases isFinite v <;> simp [numericClean_error]

omit [DecidableEq F] in
@[simp] theorem checkRange_numeric {noun bounds field : String} {lo hi : ℚ} {v : F} :
    NumericClean (checkRange noun bounds lo hi field v) ↔ Bounded lo hi v := by
  unfold checkRange Bounded
  cases isFinite v <;> cases inRange lo hi v <;> simp [numericClean_error]

omit [Number F] [DecidableEq F] in
theorem checkOpt_numeric {check : String → F → List FieldViolation} {ok : F → Prop}
    (h : ∀ field v, NumericClean (check field v) ↔ ok v) (path name : String) (v : Option F) :
    NumericClean (checkOpt check path name v) ↔ IfPresent ok v := by
  cases v with
  | none => simp [checkOpt, IfPresent]
  | some x => simp [checkOpt, IfPresent, h]

theorem enumerated_numeric {α : Type} {check : Nat → α → List FieldViolation} {xs : List α} :
    NumericClean (enumerated check xs) ↔ ∀ x i, (x, i) ∈ xs.zipIdx → NumericClean (check i x) := by
  unfold NumericClean enumerated
  simp only [List.mem_flatMap]
  constructor
  · exact fun h x i hmem v hv => h v ⟨(x, i), hmem, hv⟩
  · rintro h v ⟨⟨x, i⟩, hmem, hv⟩
    exact h x i hmem v hv

theorem bind_eq_ok {a : Except String Unit} {f : Unit → Except String Unit} :
    (a >>= f) = .ok () ↔ a = .ok () ∧ f () = .ok () := by
  constructor
  · exact ok_of_bind
  · rintro ⟨rfl, h⟩
    exact h

omit [DecidableEq F] in
@[simp] theorem finite_eq_ok {field : String} {v : F} : finite field v = .ok () ↔ isFinite v = true := by
  unfold finite
  cases isFinite v <;> simp

omit [DecidableEq F] in
@[simp] theorem checkInRange_eq_ok {lo hi : ℚ} {field : String} {v : F} :
    checkInRange lo hi field v = .ok () ↔ Bounded lo hi v := by
  unfold checkInRange Bounded
  rw [bind_eq_ok, finite_eq_ok]
  cases inRange lo hi v <;> simp

omit [Number F] [DecidableEq F] in
theorem checkOptional_eq_ok {check : String → F → Except String Unit} {ok : F → Prop}
    (h : ∀ field v, check field v = .ok () ↔ ok v) (path name : String) (v : Option F) :
    checkOptional check path name v = .ok () ↔ IfPresent ok v := by
  cases v with
  | none => simp [checkOptional, IfPresent]
  | some x => simp [checkOptional, IfPresent, h]

theorem checkEach_eq_ok {α : Type} {check : Nat → α → Except String Unit} {xs : List α} :
    checkEach check xs = .ok () ↔ ∀ x i, (x, i) ∈ xs.zipIdx → check i x = .ok () := by
  unfold checkEach
  generalize xs.zipIdx = l
  induction l with
  | nil => simp [pure, Except.pure]
  | cons y l ih =>
    rw [List.forM, bind_eq_ok, ih]
    constructor
    · rintro ⟨hy, hl⟩ x i hmem
      rcases List.mem_cons.mp hmem with rfl | hmem
      · exact hy
      · exact hl x i hmem
    · exact fun h => ⟨h y.1 y.2 List.mem_cons_self, fun x i hmem => h x i (List.mem_cons_of_mem _ hmem)⟩

/-! ## One control, one curve -/

/-- The fields of a control, as both bound them. -/
structure ControlBounded (ctrl : LogicalControl F) : Prop where
  manual : Bounded 0 100 ctrl.manualOutputPct
  minimum : Bounded 0 100 ctrl.minimumPct
  start : Bounded 0 100 ctrl.startPct
  stop : Bounded 0 100 ctrl.stopPct
  stepUp : Bounded 0 100 ctrl.stepUpPct
  stepDown : Bounded 0 100 ctrl.stepDownPct
  offset : Bounded (-100) 100 ctrl.offsetPct

/-- The fields of a curve, as both bound them. -/
structure CurveBounded (c : CurveConfig F) : Prop where
  points : ∀ pt ∈ c.points, isFinite pt.tempC = true ∧ Bounded 0 100 pt.outputPct
  startTemp : IfPresent (isFinite · = true) c.startTempC
  endTemp : IfPresent (isFinite · = true) c.endTempC
  triggerIdleTemp : IfPresent (isFinite · = true) c.triggerIdleTempC
  triggerLoadTemp : IfPresent (isFinite · = true) c.triggerLoadTempC
  startOutput : IfPresent (Bounded 0 100) c.startOutputPct
  endOutput : IfPresent (Bounded 0 100) c.endOutputPct
  flatOutput : IfPresent (Bounded 0 100) c.flatOutputPct
  triggerIdle : IfPresent (Bounded 0 100) c.triggerIdlePct
  triggerLoad : IfPresent (Bounded 0 100) c.triggerLoadPct
  syncOffset : IfPresent (Bounded (-100) 100) c.syncOffsetPct
  hysteresis : IfPresent (Bounded 0 hysteresisDeadbandMaxC) c.hysteresisC

/-- A loop whose check does not depend on the index. -/
theorem forall_zipIdx {α : Type} {xs : List α} {ok : α → Prop} : (∀ x i, (x, i) ∈ xs.zipIdx → ok x) ↔ ∀ x ∈ xs, ok x := by
  constructor
  · intro h x hx
    obtain ⟨i, hi⟩ := List.mem_iff_getElem?.mp hx
    exact h x i (List.mk_mem_zipIdx_iff_getElem?.mpr hi)
  · intro h x i hmem
    exact h x (List.mem_of_getElem? (List.mk_mem_zipIdx_iff_getElem?.mp hmem))

omit [DecidableEq F] in
theorem checkControlRanges_eq_ok {i : Nat} {ctrl : LogicalControl F} :
    checkControlRanges i ctrl = .ok () ↔ ControlBounded ctrl := by
  unfold checkControlRanges
  simp only [bind_eq_ok, checkInRange_eq_ok]
  constructor
  · rintro ⟨h1, h2, h3, h4, h5, h6, h7⟩
    exact ⟨h1, h2, h3, h4, h5, h6, h7⟩
  · rintro ⟨h1, h2, h3, h4, h5, h6, h7⟩
    exact ⟨h1, h2, h3, h4, h5, h6, h7⟩

theorem controlFindings_numeric {p : DaemonProfile F} {i : Nat} {ctrl : LogicalControl F} :
    NumericClean (controlFindings p i ctrl) ↔ ControlBounded ctrl := by
  unfold controlFindings checkPct checkOffset
  dsimp only
  simp only [numericClean_append, checkRange_numeric]
  constructor
  · rintro ⟨⟨⟨⟨⟨⟨⟨⟨⟨⟨h1, h2⟩, h3⟩, h4⟩, h5⟩, h6⟩, h7⟩, -⟩, -⟩, -⟩, -⟩
    exact ⟨h1, h2, h3, h4, h5, h6, h7⟩
  · rintro ⟨h1, h2, h3, h4, h5, h6, h7⟩
    -- what else `validate` finds in a control is no error about a number
    refine ⟨⟨⟨⟨⟨⟨⟨⟨⟨⟨h1, h2⟩, h3⟩, h4⟩, h5⟩, h6⟩, h7⟩, ?_⟩, ?_⟩, ?_⟩, ?_⟩
    · exact numericClean_ite (numericClean_error.mpr ⟨nofun, nofun⟩)
    · refine enumerated_numeric.mpr fun m k _ => ?_
      split
      · exact numericClean_warn _ _ _
      · exact numericClean_nil
    · exact numericClean_ite (numericClean_error.mpr ⟨nofun, nofun⟩)
    · exact numericClean_ite (numericClean_error.mpr ⟨nofun, nofun⟩)

omit [DecidableEq F] in
theorem checkCurveRanges_eq_ok {i : Nat} {c : CurveConfig F} : checkCurveRanges i c = .ok () ↔ CurveBounded c := by
  have hfinite : ∀ path name (v : Option F), checkOptional finite path name v = .ok () ↔ IfPresent (isFinite · = true) v :=
    checkOptional_eq_ok fun _ _ => finite_eq_ok
  have hrange : ∀ lo hi path name (v : Option F),
      checkOptional (checkInRange lo hi) path name v = .ok () ↔ IfPresent (Bounded lo hi) v := fun _ _ =>
    checkOptional_eq_ok fun _ _ => checkInRange_eq_ok
  unfold checkCurveRanges
  simp only [bind_eq_ok, checkEach_eq_ok, finite_eq_ok, checkInRange_eq_ok, hfinite, hrange, forall_zipIdx]
  constructor
  · rintro ⟨h1, h2, h3, h4, h5, h6, h7, h8, h9, h10, h11, h12⟩
    exact ⟨h1, h2, h3, h4, h5, h6, h7, h8, h9, h10, h11, h12⟩
  · rintro ⟨h1, h2, h3, h4, h5, h6, h7, h8, h9, h10, h11, h12⟩
    exact ⟨h1, h2, h3, h4, h5, h6, h7, h8, h9, h10, h11, h12⟩

omit [DecidableEq F] in
theorem curveNumberFindings_numeric {path : String} {c : CurveConfig F} :
    NumericClean (curveNumberFindings path c) ↔ CurveBounded c := by
  have htemp : ∀ field (v : F), NumericClean (checkFinite field v) ↔ isFinite v = true := fun _ _ => checkFinite_numeric
  have hpct : ∀ field (v : F), NumericClean (checkPct field v) ↔ Bounded 0 100 v := fun _ _ => checkRange_numeric
  have hoffset : ∀ field (v : F), NumericClean (checkOffset field v) ↔ Bounded (-100) 100 v := fun _ _ => checkRange_numeric
  have hhysteresis : ∀ field (v : F), NumericClean (checkHysteresis field v) ↔ Bounded 0 hysteresisDeadbandMaxC v :=
    fun _ _ => checkRange_numeric
  unfold curveNumberFindings
  simp only [numericClean_append, enumerated_numeric, htemp, hpct, checkOpt_numeric htemp path, checkOpt_numeric hpct path,
    checkOpt_numeric hoffset path, checkOpt_numeric hhysteresis path, forall_zipIdx]
  constructor
  · rintro ⟨⟨⟨⟨⟨⟨⟨⟨⟨⟨⟨⟨⟨-, -⟩, h1⟩, h2⟩, h3⟩, h6⟩, h7⟩, h8⟩, h4⟩, h5⟩, h9⟩, h10⟩, h11⟩, h12⟩
    exact ⟨h1, h2, h3, h4, h5, h6, h7, h8, h9, h10, h11, h12⟩
  · rintro ⟨h1, h2, h3, h4, h5, h6, h7, h8, h9, h10, h11, h12⟩
    refine ⟨⟨⟨⟨⟨⟨⟨⟨⟨⟨⟨⟨⟨?_, ?_⟩, h1⟩, h2⟩, h3⟩, h6⟩, h7⟩, h8⟩, h4⟩, h5⟩, h9⟩, h10⟩, h11⟩, h12⟩
    · split
      · exact numericClean_warn _ _ _
      · exact numericClean_nil
    · exact numericClean_ite (numericClean_error.mpr ⟨nofun, nofun⟩)

omit [DecidableEq F] in
/-- The rest of what `validate` finds in a curve is about its references and its type. -/
theorem curveFindings_numeric {p : DaemonProfile F} {known : List String} {i : Nat} {c : CurveConfig F} :
    NumericClean (curveFindings p known i c) ↔ CurveBounded c := by
  unfold curveFindings
  dsimp only
  rw [numericClean_append, numericClean_append, curveNumberFindings_numeric]
  refine and_iff_left_of_imp (fun _ => ?_) |>.trans (and_iff_left_of_imp fun _ => ?_)
  · split
    · exact numericClean_ite (numericClean_error.mpr ⟨nofun, nofun⟩)
    · unfold mixFindings
      refine numericClean_append.mpr ⟨?_, enumerated_numeric.mpr fun mid k _ => ?_⟩
      · split
        · exact numericClean_warn _ _ _
        · exact numericClean_nil
      · split
        · exact numericClean_nil
        · exact numericClean_error.mpr ⟨nofun, nofun⟩
    · exact numericClean_ite (numericClean_error.mpr ⟨nofun, nofun⟩)
    · exact numericClean_nil
  · exact numericClean_ite (numericClean_warn _ _ _)

/-! ## The whole document -/

omit [DecidableEq F] in
theorem checkNumericRanges_eq_ok {p : DaemonProfile F} :
    checkNumericRanges p = .ok () ↔ (∀ ctrl ∈ p.controls, ControlBounded ctrl) ∧ ∀ c ∈ p.curves, CurveBounded c := by
  unfold checkNumericRanges
  simp only [bind_eq_ok, checkEach_eq_ok, checkControlRanges_eq_ok, checkCurveRanges_eq_ok, forall_zipIdx]

theorem findings_numeric {p : DaemonProfile F} {known : List String} :
    NumericClean (findings p known) ↔ (∀ ctrl ∈ p.controls, ControlBounded ctrl) ∧ ∀ c ∈ p.curves, CurveBounded c := by
  have hsize : NumericClean (sizeFindings p) := by
    unfold sizeFindings
    exact numericClean_append.mpr ⟨numericClean_ite (numericClean_error.mpr ⟨nofun, nofun⟩),
      numericClean_ite (numericClean_error.mpr ⟨nofun, nofun⟩)⟩
  have hcycles : NumericClean (cycleFindings p) := by
    unfold cycleFindings
    refine numericClean_append.mpr ⟨?_, ?_⟩
    · split
      · exact numericClean_error.mpr ⟨nofun, nofun⟩
      · exact numericClean_nil
    · split
      · exact numericClean_error.mpr ⟨nofun, nofun⟩
      · exact numericClean_nil
  unfold findings
  simp only [numericClean_append, enumerated_numeric, controlFindings_numeric, curveFindings_numeric, forall_zipIdx,
    hsize, hcycles, true_and, and_true]
  exact and_comm

theorem errors_numeric {p : DaemonProfile F} {known : List String} :
    (∀ v ∈ (validate p known).errors, v.reason ≠ .nonFinite ∧ v.reason ≠ .outOfRange) ↔ NumericClean (findings p known) := by
  simp only [validate, List.mem_filter, decide_eq_true_iff, NumericClean, IsNumeric, not_and, not_or, and_imp]

/-- **The net and `validate` agree on numbers**, and so what `validate` accepts passes the nets of a load. -/
theorem numeric_net_agrees (p : DaemonProfile F) (known : List String) :
    (checkNumericRanges p = .ok () ↔
      ∀ v ∈ (validate p known).errors, v.reason ≠ .nonFinite ∧ v.reason ≠ .outOfRange) ∧
      (Accepts p known → ∀ path, loadNets path p = .ok ()) := by
  have hagree : checkNumericRanges p = .ok () ↔
      ∀ v ∈ (validate p known).errors, v.reason ≠ .nonFinite ∧ v.reason ≠ .outOfRange := by
    rw [errors_numeric, checkNumericRanges_eq_ok, findings_numeric]
  refine ⟨hagree, fun haccept path => ?_⟩
  have hnone : (validate p known).errors = [] := List.isEmpty_iff.mp haccept
  have hranges : checkNumericRanges p = .ok () := hagree.mpr (hnone ▸ List.forall_mem_nil _)
  unfold loadNets
  rw [if_neg (not_lt.mpr haccept.curves_length_le), if_neg (not_lt.mpr haccept.controls_length_le), hranges]

/-- One control on a curve whose end lies beyond the percentages, or at them. -/
def endingAt (pct : Ieee) : DaemonProfile Ieee where
  id := "p"
  controls := [⟨"c", "", .curve, "linear", .fin 50, [], .fin 100, .fin 100, .fin 0, .fin 0, .fin 0, .fin 0⟩]
  curves := [{ CurveConfig.blank "linear" .linear with endOutputPct := some pct }]

theorem numeric_net_agrees_endingAt :
    loadNets "p.json" (endingAt (.fin 100)) = .ok () ∧ checkNumericRanges (endingAt .posInf) ≠ .ok () := by
  refine ⟨(numeric_net_agrees (endingAt (.fin 100)) []).2 (by decide) "p.json", fun hok => ?_⟩
  have hnone := (numeric_net_agrees (endingAt .posInf) []).1.mp hok
  exact absurd hnone (by decide)

end ControlOfc.Profile
