import ControlOfc.Profile.Cycle
import ControlOfc.Profile.Roles
import ControlOfc.Hwmon.MemoryId
import ControlOfc.Lib.Ieee
/-! # Validation (profile.rs:485-586, 898-1350)

`validate` is the front door of the API: hard errors reject a document, warnings do not.
`checkNumericRanges` is the narrower net every loaded file passes. Both are generic in the number
type, since a document may carry any `f64`; `Accepts` collects what the engine may rely on.
-/
namespace ControlOfc.Profile

/-- The operations the checks use on a number. `display` stands for the formatting of an `f64`. -/
class Number (F : Type) where
  ofRat : ℚ → F
  isFinite : F → Bool
  le : F → F → Bool
  lt : F → F → Bool
  display : F → String

instance : Number ℚ := ⟨id, fun _ => true, fun a b => decide (a ≤ b), fun a b => decide (a < b), toString⟩

def displayIeee : Ieee → String
  | .nan => "NaN"
  | .negInf => "-inf"
  | .fin q => toString q
  | .posInf => "inf"

instance : Number Ieee := ⟨.fin, Ieee.isFinite, Ieee.le, Ieee.lt, displayIeee⟩

open Number

/-- `(lo..=hi).contains(&v)`. -/
def inRange {F : Type} [Number F] (lo hi : ℚ) (v : F) : Bool := le (ofRat lo) v && le v (ofRat hi)

/-! ## Findings -/

inductive Severity where
  | error
  | warning
  deriving DecidableEq, Repr

/-- The machine codes of `FieldViolation::reason`. -/
inductive Reason where
  | tooManyCurves
  | tooManyControls
  | unknownCurveType
  | tooManyPoints
  | nonFinite
  | outOfRange
  | unknownSensor
  | triggerIdleGeLoad
  | unknownMixFunction
  | unknownCurveRef
  | unknownControlRef
  | unknownSource
  | floorTooLow
  | pumpStopForbidden
  | mixCycle
  | syncCycle
  deriving DecidableEq, Repr

/-- The code as it is serialised. -/
def Reason.code : Reason → String
  | tooManyCurves => "TOO_MANY_CURVES"
  | tooManyControls => "TOO_MANY_CONTROLS"
  | unknownCurveType => "UNKNOWN_CURVE_TYPE"
  | tooManyPoints => "TOO_MANY_POINTS"
  | nonFinite => "NON_FINITE"
  | outOfRange => "OUT_OF_RANGE"
  | unknownSensor => "UNKNOWN_SENSOR"
  | triggerIdleGeLoad => "TRIGGER_IDLE_GE_LOAD"
  | unknownMixFunction => "UNKNOWN_MIX_FUNCTION"
  | unknownCurveRef => "UNKNOWN_CURVE_REF"
  | unknownControlRef => "UNKNOWN_CONTROL_REF"
  | unknownSource => "UNKNOWN_SOURCE"
  | floorTooLow => "FLOOR_TOO_LOW"
  | pumpStopForbidden => "PUMP_STOP_FORBIDDEN"
  | mixCycle => "MIX_CYCLE"
  | syncCycle => "SYNC_CYCLE"

/-- `FieldViolation` (profile.rs:913). -/
structure FieldViolation where
  field : String
  reason : Reason
  description : String
  severity : Severity
  deriving DecidableEq, Repr

def FieldViolation.error (field : String) (reason : Reason) (description : String) : FieldViolation :=
  ⟨field, reason, description, .error⟩

def FieldViolation.warn (field : String) (reason : Reason) (description : String) : FieldViolation :=
  ⟨field, reason, description, .warning⟩

/-- `ValidationReport` (profile.rs:927). -/
structure ValidationReport where
  errors : List FieldViolation
  warnings : List FieldViolation
  deriving DecidableEq, Repr

/-- `is_valid` (profile.rs:935). -/
def ValidationReport.isValid (r : ValidationReport) : Bool := r.errors.isEmpty

open FieldViolation

/-! ## Cycles -/

section Cycles

variable {F : Type}

def DaemonProfile.mixCurves (p : DaemonProfile F) : List (CurveConfig F) :=
  p.curves.filter fun c => c.curveType = .mix

/-- The map `mix_cycle` builds: of two mix curves with one id, the last. -/
def mixAdj (p : DaemonProfile F) : KMap String (List String) :=
  KMap.ofList (p.mixCurves.map fun c => (c.id, c.mixCurveIds))

/-- `mix_cycle` (profile.rs:1322). -/
def mixCycle (p : DaemonProfile F) : Option String := graphFirstCycle (p.mixCurves.map (·.id)) (mixAdj p)

/-- `sync_target` of `sync_cycle`: of two sync curves with one id, the last. -/
def syncTarget (p : DaemonProfile F) : KMap String String :=
  KMap.ofList ((p.curves.filter fun c => c.curveType = .sync).map fun c => (c.id, c.syncControlId))

/-- The entry `sync_cycle` inserts for a control, if any. -/
def syncEdge (p : DaemonProfile F) (ctrl : LogicalControl F) : Option (String × List String) :=
  if ctrl.mode = .curve then
    match (syncTarget p).get? ctrl.curveId with
    | some target => if target = "" then none else some (ctrl.id, [target])
    | none => none
  else none

def syncAdj (p : DaemonProfile F) : KMap String (List String) := KMap.ofList (p.controls.filterMap (syncEdge p))

/-- `sync_cycle` (profile.rs:1334). -/
def syncCycle (p : DaemonProfile F) : Option String :=
  graphFirstCycle ((p.controls.filterMap (syncEdge p)).map Prod.fst) (syncAdj p)

def cycleFindings (p : DaemonProfile F) : List FieldViolation :=
  (match mixCycle p with
   | some node => [error "curves" .mixCycle ("mix curves form a dependency cycle involving '" ++ node ++ "'")]
   | none => []) ++
  match syncCycle p with
  | some node =>
    [error "controls" .syncCycle ("sync controls form a dependency cycle involving control '" ++ node ++ "'")]
  | none => []

end Cycles

variable {F : Type} [Number F] [DecidableEq F]

/-! ## Checks of one number -/

/-- `check_finite`. -/
def checkFinite (field : String) (v : F) : List FieldViolation :=
  if isFinite v then [] else [error field .nonFinite "value must be a finite number"]

/-- What `check_pct`, `check_offset` and `check_opt_hysteresis` share. -/
def checkRange (noun bounds : String) (lo hi : ℚ) (field : String) (v : F) : List FieldViolation :=
  if !isFinite v then [error field .nonFinite "value must be a finite number"]
  else if !inRange lo hi v then
    [error field .outOfRange (noun ++ " " ++ display v ++ " must be between " ++ bounds)]
  else []

/-- `check_pct`. -/
def checkPct (field : String) (v : F) : List FieldViolation := checkRange "value" "0 and 100" 0 100 field v

/-- `check_offset`. -/
def checkOffset (field : String) (v : F) : List FieldViolation :=
  checkRange "offset" "-100 and 100" (-100) 100 field v

/-- `check_opt_hysteresis`, of a value that is present. -/
def checkHysteresis (field : String) (v : F) : List FieldViolation :=
  checkRange "hysteresis" "0 and 10 °C" 0 hysteresisDeadbandMaxC field v

/-- `check_opt_finite`, `check_opt_pct`, `check_opt_offset`: an absent value passes. -/
def checkOpt (check : String → F → List FieldViolation) (path name : String) (v : Option F) :
    List FieldViolation :=
  match v with
  | some v => check (path ++ "." ++ name) v
  | none => []

/-- What a loop over `iter().enumerate()` reports. -/
def enumerated {α : Type} (check : Nat → α → List FieldViolation) (xs : List α) : List FieldViolation :=
  xs.zipIdx.flatMap fun (x, i) => check i x

/-- `"{path}[{i}]"`. -/
def indexed (path : String) (i : Nat) : String := path ++ "[" ++ toString i ++ "]"

/-! ## The checks, in the source's order -/

/-- The two collection caps (profile.rs:997-1017). -/
def sizeFindings (p : DaemonProfile F) : List FieldViolation :=
  (if maxProfileCurves < p.curves.length then
    [error "curves" .tooManyCurves (toString p.curves.length ++ " curves exceeds the maximum of 256")]
   else []) ++
  (if maxProfileControls < p.controls.length then
    [error "controls" .tooManyControls (toString p.controls.length ++ " controls exceeds the maximum of 256")]
   else [])

/-- Type, points and numbers of one curve (profile.rs:1023-1073). -/
def curveNumberFindings (path : String) (c : CurveConfig F) : List FieldViolation :=
  (match c.curveType with
   | .unknown t =>
     [warn (path ++ ".type") .unknownCurveType
       ("curve type '" ++ t ++ "' is unrecognised; the engine will output 50%")]
   | _ => []) ++
  (if maxCurvePoints < c.points.length then
    [error (path ++ ".points") .tooManyPoints (toString c.points.length ++ " points exceeds the maximum of 256")]
   else []) ++
  enumerated (fun j pt =>
    checkFinite (indexed (path ++ ".points") j ++ ".temp_c") pt.tempC ++
    checkPct (indexed (path ++ ".points") j ++ ".output_pct") pt.outputPct) c.points ++
  checkOpt checkFinite path "start_temp_c" c.startTempC ++
  checkOpt checkFinite path "end_temp_c" c.endTempC ++
  checkOpt checkPct path "start_output_pct" c.startOutputPct ++
  checkOpt checkPct path "end_output_pct" c.endOutputPct ++
  checkOpt checkPct path "flat_output_pct" c.flatOutputPct ++
  checkOpt checkFinite path "trigger_idle_temp_c" c.triggerIdleTempC ++
  checkOpt checkFinite path "trigger_load_temp_c" c.triggerLoadTempC ++
  checkOpt checkPct path "trigger_idle_pct" c.triggerIdlePct ++
  checkOpt checkPct path "trigger_load_pct" c.triggerLoadPct ++
  checkOpt checkOffset path "sync_offset_pct" c.syncOffsetPct ++
  checkOpt checkHysteresis path "hysteresis_c" c.hysteresisC

/-- A sensor this machine does not have (profile.rs:1075-1097). -/
def sensorFindings (known : List String) (path : String) (c : CurveConfig F) : List FieldViolation :=
  if c.sensorId ≠ "" ∧ ¬ known.contains c.sensorId ∧ (Hwmon.MemoryId.resolve c.sensorId known []).isNone then
    [warn (path ++ ".sensor_id") .unknownSensor
      ("sensor '" ++ c.sensorId ++ "' is not present on this machine. A curve using it on its own will not " ++
       "command its fans — they hold their last speed; a combined (Mix) curve will run on the inputs it does have")]
  else []

/-- The trigger arm (profile.rs:1100-1112). -/
def triggerFindings (path : String) (c : CurveConfig F) : List FieldViolation :=
  let idle := c.triggerIdleTempC.getD (ofRat 40)
  let load := c.triggerLoadTempC.getD (ofRat 60)
  if isFinite idle && isFinite load && le load idle then
    [error (path ++ ".trigger_idle_temp_c") .triggerIdleGeLoad
      ("idle temp " ++ display idle ++ " must be below load temp " ++ display load ++ " or the trigger oscillates")]
  else []

/-- The mix arm (profile.rs:1113-1136). -/
def mixFindings (p : DaemonProfile F) (path : String) (c : CurveConfig F) : List FieldViolation :=
  (match c.mixFunction with
   | some (.unknown f) =>
     [warn (path ++ ".mix_function") .unknownMixFunction
       ("mix function '" ++ f ++ "' is unrecognised; the engine defaults to 'max'")]
   | _ => []) ++
  enumerated (fun k mid =>
    if (p.curves.map (·.id)).contains mid then []
    else
      [error (indexed (path ++ ".mix_curve_ids") k) .unknownCurveRef
        ("mix references curve '" ++ mid ++ "', which does not exist in this profile")]) c.mixCurveIds

/-- The sync arm (profile.rs:1137-1149). -/
def syncFindings (p : DaemonProfile F) (path : String) (c : CurveConfig F) : List FieldViolation :=
  if c.syncControlId = "" ∨ ¬ (p.controls.map (·.id)).contains c.syncControlId then
    [error (path ++ ".sync_control_id") .unknownControlRef
      ("sync references control '" ++ c.syncControlId ++ "', which does not exist in this profile")]
  else []

def curveFindings (p : DaemonProfile F) (known : List String) (i : Nat) (c : CurveConfig F) :
    List FieldViolation :=
  let path := indexed "curves" i
  curveNumberFindings path c ++ sensorFindings known path c ++
    match c.curveType with
    | .trigger => triggerFindings path c
    | .mix => mixFindings p path c
    | .sync => syncFindings p path c
    | _ => []

/-- One control (profile.rs:1154-1234). -/
def controlFindings (p : DaemonProfile F) (i : Nat) (ctrl : LogicalControl F) : List FieldViolation :=
  let path := indexed "controls" i
  checkPct (path ++ ".manual_output_pct") ctrl.manualOutputPct ++
  checkPct (path ++ ".minimum_pct") ctrl.minimumPct ++
  checkPct (path ++ ".start_pct") ctrl.startPct ++
  checkPct (path ++ ".stop_pct") ctrl.stopPct ++
  checkPct (path ++ ".step_up_pct") ctrl.stepUpPct ++
  checkPct (path ++ ".step_down_pct") ctrl.stepDownPct ++
  checkOffset (path ++ ".offset_pct") ctrl.offsetPct ++
  (if ctrl.mode = .curve ∧ (ctrl.curveId = "" ∨ ¬ (p.curves.map (·.id)).contains ctrl.curveId) then
    [error (path ++ ".curve_id") .unknownCurveRef
      ("control is in curve mode but curve '" ++ ctrl.curveId ++ "' does not exist in this profile")]
   else []) ++
  enumerated (fun k m =>
    match m.source with
    | .other s =>
      [warn (indexed (path ++ ".members") k ++ ".source") .unknownSource
        ("member source '" ++ s ++ "' is unrecognised")]
    | _ => []) ctrl.members ++
  (if lt ctrl.minimumPct (ofRat hardPumpCpuFloorPct) && ctrl.members.any memberIsPumpOrCpu then
    [error (path ++ ".minimum_pct") .floorTooLow
      ("control has a pump/CPU member but minimum_pct " ++ display ctrl.minimumPct ++
       " is below the required 30% pump floor")]
   else []) ++
  (if ctrl.stopPct ≠ ofRat 0 ∧ ctrl.members.any memberIsPumpOrCpu then
    [error (path ++ ".stop_pct") .pumpStopForbidden
      ("control has a pump/CPU member but stop_pct " ++ display ctrl.stopPct ++ " is non-zero; a pump must " ++
       "never be configured to stop (coolant-flow loss leads to rapid thermal runaway)")]
   else [])

/-- Everything `validate` reports, errors and warnings, in order. -/
def findings (p : DaemonProfile F) (known : List String) : List FieldViolation :=
  sizeFindings p ++ enumerated (curveFindings p known) p.curves ++ enumerated (controlFindings p) p.controls ++
    cycleFindings p

/-- `validate` (profile.rs:991). -/
def validate (p : DaemonProfile F) (known : List String) : ValidationReport :=
  ⟨(findings p known).filter fun v => v.severity = .error, (findings p known).filter fun v => v.severity = .warning⟩

/-! ## The load-time net (profile.rs:485-586) -/

/-- `finite`. -/
def finite (field : String) (v : F) : Except String Unit :=
  if isFinite v then .ok () else .error (field ++ " must be a finite number (got " ++ display v ++ ")")

/-- `in_range`. -/
def checkInRange (lo hi : ℚ) (field : String) (v : F) : Except String Unit := do
  finite field v
  if inRange lo hi v then .ok ()
  else
    .error (field ++ " must be between " ++ display (ofRat lo : F) ++ " and " ++ display (ofRat hi : F) ++
      " (got " ++ display v ++ ")")

/-- Whether an optional value passes, an absent one always. -/
def checkOptional (check : String → F → Except String Unit) (path name : String) (v : Option F) :
    Except String Unit :=
  match v with
  | some v => check (path ++ "." ++ name) v
  | none => .ok ()

/-- A loop of checks, left at the first failure. -/
def checkEach {α : Type} (check : Nat → α → Except String Unit) (xs : List α) : Except String Unit :=
  xs.zipIdx.forM fun (x, i) => check i x

def checkControlRanges (i : Nat) (ctrl : LogicalControl F) : Except String Unit := do
  let path := indexed "controls" i
  checkInRange 0 100 (path ++ ".manual_output_pct") ctrl.manualOutputPct
  checkInRange 0 100 (path ++ ".minimum_pct") ctrl.minimumPct
  checkInRange 0 100 (path ++ ".start_pct") ctrl.startPct
  checkInRange 0 100 (path ++ ".stop_pct") ctrl.stopPct
  checkInRange 0 100 (path ++ ".step_up_pct") ctrl.stepUpPct
  checkInRange 0 100 (path ++ ".step_down_pct") ctrl.stepDownPct
  checkInRange (-100) 100 (path ++ ".offset_pct") ctrl.offsetPct

def checkCurveRanges (i : Nat) (c : CurveConfig F) : Except String Unit := do
  let path := indexed "curves" i
  checkEach (fun j pt => do
    finite (indexed (path ++ ".points") j ++ ".temp_c") pt.tempC
    checkInRange 0 100 (indexed (path ++ ".points") j ++ ".output_pct") pt.outputPct) c.points
  checkOptional finite path "start_temp_c" c.startTempC
  checkOptional finite path "end_temp_c" c.endTempC
  checkOptional finite path "trigger_idle_temp_c" c.triggerIdleTempC
  checkOptional finite path "trigger_load_temp_c" c.triggerLoadTempC
  checkOptional (checkInRange 0 100) path "start_output_pct" c.startOutputPct
  checkOptional (checkInRange 0 100) path "end_output_pct" c.endOutputPct
  checkOptional (checkInRange 0 100) path "flat_output_pct" c.flatOutputPct
  checkOptional (checkInRange 0 100) path "trigger_idle_pct" c.triggerIdlePct
  checkOptional (checkInRange 0 100) path "trigger_load_pct" c.triggerLoadPct
  checkOptional (checkInRange (-100) 100) path "sync_offset_pct" c.syncOffsetPct
  checkOptional (checkInRange 0 hysteresisDeadbandMaxC) path "hysteresis_c" c.hysteresisC

/-- `check_numeric_ranges` (profile.rs:485). -/
def checkNumericRanges (p : DaemonProfile F) : Except String Unit := do
  checkEach checkControlRanges p.controls
  checkEach checkCurveRanges p.curves

/-! ## What the net tells -/

theorem checkEach_ok {α : Type} {check : Nat → α → Except String Unit} {xs : List α} (h : checkEach check xs = .ok ())
    {x : α} (hx : x ∈ xs) : ∃ i, check i x = .ok () := by
  obtain ⟨i, hi⟩ := List.mem_iff_getElem?.mp hx
  have hmem : (x, i) ∈ xs.zipIdx := List.mk_mem_zipIdx_iff_getElem?.mpr hi
  unfold checkEach at h
  generalize xs.zipIdx = l at h hmem
  induction l with
  | nil => cases hmem
  | cons y l ih =>
    change (check y.2 y.1 >>= fun _ => l.forM fun (x, i) => check i x) = .ok () at h
    cases hy : check y.2 y.1 with
    | error e =>
      rw [hy] at h
      cases h
    | ok u =>
      rw [hy] at h
      rcases List.mem_cons.mp hmem with rfl | hmem
      · exact ⟨i, hy⟩
      · exact ih h hmem

omit [DecidableEq F] in
theorem checkInRange_ok {lo hi : ℚ} {field : String} {v : F} (h : checkInRange lo hi field v = .ok ()) :
    inRange lo hi v = true := by
  unfold checkInRange finite at h
  cases hv : isFinite v with
  | false => simp [hv, bind, Except.bind] at h
  | true =>
    cases hr : inRange lo hi v with
    | false => simp [hv, hr, bind, Except.bind] at h
    | true => rfl

/-- A sequence of checks passes only if its head does. -/
theorem ok_of_bind {a : Except String Unit} {f : Unit → Except String Unit} (h : (a >>= f) = .ok ()) :
    a = .ok () ∧ f () = .ok () := by
  cases a with
  | error e => cases h
  | ok u => exact ⟨rfl, h⟩

/-- The percentages of a control that passed. -/
structure ControlRanges (c : LogicalControl ℚ) : Prop where
  manual : 0 ≤ c.manualOutputPct ∧ c.manualOutputPct ≤ 100
  minimum : 0 ≤ c.minimumPct ∧ c.minimumPct ≤ 100
  start : 0 ≤ c.startPct ∧ c.startPct ≤ 100
  stop : 0 ≤ c.stopPct ∧ c.stopPct ≤ 100
  stepUp : 0 ≤ c.stepUpPct ∧ c.stepUpPct ≤ 100
  stepDown : 0 ≤ c.stepDownPct ∧ c.stepDownPct ≤ 100
  offset : -100 ≤ c.offsetPct ∧ c.offsetPct ≤ 100

theorem inRange_rat {lo hi v : ℚ} (h : inRange lo hi v = true) : lo ≤ v ∧ v ≤ hi := by
  unfold inRange at h
  rw [Bool.and_eq_true] at h
  exact ⟨of_decide_eq_true h.1, of_decide_eq_true h.2⟩

theorem controlRanges_of_checked {p : DaemonProfile ℚ} (h : checkNumericRanges p = .ok ()) {c : LogicalControl ℚ}
    (hc : c ∈ p.controls) : ControlRanges c := by
  obtain ⟨i, hi⟩ := checkEach_ok (ok_of_bind h).1 hc
  unfold checkControlRanges at hi
  obtain ⟨h1, hi⟩ := ok_of_bind hi
  obtain ⟨h2, hi⟩ := ok_of_bind hi
  obtain ⟨h3, hi⟩ := ok_of_bind hi
  obtain ⟨h4, hi⟩ := ok_of_bind hi
  obtain ⟨h5, hi⟩ := ok_of_bind hi
  obtain ⟨h6, h7⟩ := ok_of_bind hi
  exact ⟨inRange_rat (checkInRange_ok h1), inRange_rat (checkInRange_ok h2), inRange_rat (checkInRange_ok h3),
    inRange_rat (checkInRange_ok h4), inRange_rat (checkInRange_ok h5), inRange_rat (checkInRange_ok h6),
    inRange_rat (checkInRange_ok h7)⟩

/-! ## What acceptance tells -/

/-- No finding is an error. -/
def Clean (fs : List FieldViolation) : Prop := ∀ v ∈ fs, v.severity ≠ .error

theorem clean_append {fs gs : List FieldViolation} : Clean (fs ++ gs) ↔ Clean fs ∧ Clean gs := by
  simp [Clean, or_imp, forall_and]

theorem not_clean_error (field : String) (reason : Reason) (description : String) (fs : List FieldViolation) :
    ¬ Clean (error field reason description :: fs) :=
  fun h => h _ List.mem_cons_self rfl

/-- A clean loop was clean at each element. -/
theorem Clean.of_enumerated {α : Type} {check : Nat → α → List FieldViolation} {xs : List α}
    (h : Clean (enumerated check xs)) {x : α} (hx : x ∈ xs) : ∃ i, Clean (check i x) := by
  obtain ⟨i, hi⟩ := List.mem_iff_getElem?.mp hx
  refine ⟨i, fun v hv => h v ?_⟩
  exact List.mem_flatMap.mpr ⟨(x, i), List.mk_mem_zipIdx_iff_getElem?.mpr hi, hv⟩

/-- `validate` reports no error. -/
def Accepts (p : DaemonProfile F) (known : List String) : Prop := (validate p known).isValid = true

instance (p : DaemonProfile F) (known : List String) : Decidable (Accepts p known) :=
  inferInstanceAs (Decidable (_ = true))

namespace Accepts

variable {p : DaemonProfile F} {known : List String}

theorem clean (h : Accepts p known) : Clean (findings p known) := by
  intro v hv herr
  have hempty : (findings p known).filter (fun v => v.severity = .error) = [] :=
    List.isEmpty_iff.mp h
  have hmem : v ∈ (findings p known).filter (fun v => v.severity = .error) :=
    List.mem_filter.mpr ⟨hv, by simpa using herr⟩
  rw [hempty] at hmem
  cases hmem

theorem parts (h : Accepts p known) :
    Clean (sizeFindings p) ∧ Clean (enumerated (curveFindings p known) p.curves) ∧
      Clean (enumerated (controlFindings p) p.controls) ∧ Clean (cycleFindings p) := by
  have hc := h.clean
  unfold findings at hc
  rw [clean_append, clean_append, clean_append] at hc
  exact ⟨hc.1.1.1, hc.1.1.2, hc.1.2, hc.2⟩

theorem curves_length_le (h : Accepts p known) : p.curves.length ≤ maxProfileCurves := by
  by_contra hlt
  have hs := (clean_append.mp h.parts.1).1
  rw [if_pos (not_le.mp hlt)] at hs
  exact not_clean_error _ _ _ _ hs

theorem controls_length_le (h : Accepts p known) : p.controls.length ≤ maxProfileControls := by
  by_contra hlt
  have hs := (clean_append.mp h.parts.1).2
  rw [if_pos (not_le.mp hlt)] at hs
  exact not_clean_error _ _ _ _ hs

/-- Every entry of a mix names a curve of the profile. -/
theorem mix_ref (h : Accepts p known) {c : CurveConfig F} (hc : c ∈ p.curves) (hmix : c.curveType = .mix)
    {mid : String} (hmid : mid ∈ c.mixCurveIds) : mid ∈ p.curves.map (·.id) := by
  by_contra hno
  obtain ⟨i, hi⟩ := h.parts.2.1.of_enumerated hc
  unfold curveFindings at hi
  rw [hmix] at hi
  obtain ⟨k, hk⟩ := (clean_append.mp (clean_append.mp hi).2).2.of_enumerated hmid
  rw [if_neg (by rwa [List.contains_iff_mem])] at hk
  exact not_clean_error _ _ _ _ hk

/-- Every sync curve names a control of the profile. -/
theorem sync_ref (h : Accepts p known) {c : CurveConfig F} (hc : c ∈ p.curves) (hsync : c.curveType = .sync) :
    c.syncControlId ≠ "" ∧ c.syncControlId ∈ p.controls.map (·.id) := by
  by_contra hno
  obtain ⟨i, hi⟩ := h.parts.2.1.of_enumerated hc
  unfold curveFindings at hi
  rw [hsync] at hi
  have hs : Clean (syncFindings p (indexed "curves" i) c) := (clean_append.mp hi).2
  unfold syncFindings at hs
  rw [if_pos (by rw [List.contains_iff_mem]; tauto)] at hs
  exact not_clean_error _ _ _ _ hs

theorem mixCycle_eq_none (h : Accepts p known) : mixCycle p = none := by
  have hc := (clean_append.mp h.parts.2.2.2).1
  cases hm : mixCycle p with
  | none => rfl
  | some node =>
    rw [hm] at hc
    exact absurd hc (not_clean_error _ _ _ _)

theorem syncCycle_eq_none (h : Accepts p known) : syncCycle p = none := by
  have hc := (clean_append.mp h.parts.2.2.2).2
  cases hm : syncCycle p with
  | none => rfl
  | some node =>
    rw [hm] at hc
    exact absurd hc (not_clean_error _ _ _ _)

/-- The mix curves `mix_cycle` looked at have finished, each after all its children. -/
theorem mix_finished (h : Accepts p known) :
    ∃ done, Digraph.Finished (neighbors (mixAdj p)) done ∧ ∀ c ∈ p.mixCurves, c.id ∈ done := by
  have hkeys : ∀ n, ((mixAdj p).get? n).isSome → n ∈ p.mixCurves.map (·.id) := by
    intro n hn
    have hmem := KMap.isSome_get?_ofList.mp hn
    rwa [List.map_map] at hmem
  obtain ⟨done, hf, hk⟩ := graphFirstCycle_none hkeys h.mixCycle_eq_none
  exact ⟨done, hf, fun c hc => hk (List.mem_map.mpr ⟨c, hc, rfl⟩)⟩

/-- The controls `sync_cycle` looked at have finished, each after its target. -/
theorem sync_finished (h : Accepts p known) :
    ∃ done, Digraph.Finished (neighbors (syncAdj p)) done ∧
      ∀ e ∈ p.controls.filterMap (syncEdge p), e.1 ∈ done := by
  obtain ⟨done, hf, hk⟩ := graphFirstCycle_none (fun n => KMap.isSome_get?_ofList.mp) h.syncCycle_eq_none
  exact ⟨done, hf, fun e he => hk (List.mem_map.mpr ⟨e, he, rfl⟩)⟩

end Accepts

end ControlOfc.Profile
