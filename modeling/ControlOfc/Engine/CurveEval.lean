import ControlOfc.Engine.State
import ControlOfc.Hwmon.MemoryId
/-! # Curve evaluation (profile_engine/curve_eval.rs:1-440)

`visited` is a set the source restores on the way out, so the model passes it down. The recursion of
`resolve_curve_output` and `resolve_mix` is structural in what the depth backstop leaves of it, and
returns next to the value what the statements are about: which warnings it logged and how many
invocations it took.
-/
namespace ControlOfc.Engine
open Profile

/-- The sensor map: ids in the order the map iterates, with their reading in °C. -/
abbrev Sensors := List (String × ℚ)

def Sensors.get? (s : Sensors) (id : String) : Option ℚ := (s.find? fun kv => kv.1 = id).map Prod.snd

/-- `curve_sensor` (curve_eval.rs:166). -/
def curveSensor (sensors : Sensors) (sensorId : String) (quarantined : List String) : Option ℚ :=
  (sensors.get? sensorId).or do
    let _ ← Hwmon.MemoryId.parse sensorId.toList
    let live ← Hwmon.MemoryId.resolve sensorId (sensors.map Prod.fst) quarantined
    sensors.get? live

/-! ## Deadband and latch -/

/-- The answer of `evaluate_curve_with_deadband` once it re-evaluates: the hold streak ends, and the
anchor moves with a meaningful change (curve_eval.rs:75-97). -/
def reanchor (s : ProfileEngineState) (id : String) (curveOutput currentTemp : ℚ) : ProfileEngineState :=
  let moveAnchor := match s.lastCurveOutput.get? id with
    | some prev => decide (deadbandAnchorDeltaPct ≤ |curveOutput - prev|)
    | none => true
  { s with
    deadbandHoldCycles := s.deadbandHoldCycles.remove id
    lastTransitionTemp := if moveAnchor then s.lastTransitionTemp.insert id currentTemp else s.lastTransitionTemp
    lastCurveOutput := s.lastCurveOutput.insert id curveOutput }

/-- `evaluate_curve_with_deadband` (curve_eval.rs:32). -/
def evaluateCurveWithDeadband (id : String) (curve : CurveConfig ℚ) (currentTemp : ℚ) (s : ProfileEngineState) :
    ProfileEngineState × ℚ :=
  let band := curve.effectiveHysteresisC
  let curveOutput := clampPct (evaluateCurve curve currentTemp)
  match s.lastCurveOutput.get? id, s.lastTransitionTemp.get? id with
  | some prevOut, some anchor =>
    if 0 < band ∧ currentTemp ≤ anchor ∧ anchor - band ≤ currentTemp ∧ curveOutput ≤ prevOut then
      let held := (s.deadbandHoldCycles.get? id).getD 0 + 1
      let s := { s with deadbandHoldCycles := s.deadbandHoldCycles.insert id held }
      if held < deadbandMaxHoldCycles then (s, prevOut)
      else (reanchor s id curveOutput currentTemp, curveOutput)
    else (reanchor s id curveOutput currentTemp, curveOutput)
  | _, _ => (reanchor s id curveOutput currentTemp, curveOutput)

/-- `evaluate_trigger` (curve_eval.rs:101). -/
def evaluateTrigger (id : String) (curve : CurveConfig ℚ) (currentTemp : ℚ) (s : ProfileEngineState) :
    ProfileEngineState × ℚ :=
  let isLoad : Bool := match s.triggerLatch.get? id with
    | some true => decide (curve.triggerIdleTempC.getD triggerIdleTempC < currentTemp)
    | _ => decide (curve.triggerLoadTempC.getD triggerLoadTempC ≤ currentTemp)
  ({ s with triggerLatch := s.triggerLatch.insert id isLoad },
    if isLoad then curve.triggerLoadPct.getD triggerLoadPct else curve.triggerIdlePct.getD triggerIdlePct)

/-! ## Mix -/

/-- `combine_mix` (curve_eval.rs:141) of a non-empty list. The folds of `min` and `max` begin at an
infinity, which leaves the least and the greatest value. -/
def combineMix (function : MixFunction) (first : ℚ) (rest : List ℚ) : ℚ :=
  clampPct <| match function with
    | .min => rest.foldl min first
    | .average => (first + rest.sum) / (rest.length + 1)
    | .sum => first + rest.sum
    | .subtract => first - rest.sum
    | .max | .unknown _ => rest.foldl max first

/-- `combine_mix_partial` (curve_eval.rs:305): one slot per child, empty where it did not resolve. -/
def combineMixPartial (function : MixFunction) (values : List (Option ℚ)) : Option ℚ :=
  if function = .subtract then
    match values with
    | some minuend :: rest => some (clampPct (minuend - rest.reduceOption.sum))
    | _ => none
  else
    match values.reduceOption with
    | [] => none
    | first :: rest => some (combineMix function first rest)

/-- Why `resolve_mix` gives up on a curve, as it logs it. -/
inductive MixCut where
  | cycle (name : String)
  | depth (name : String)
  deriving DecidableEq, Repr

/-- What one resolution yields: the value, whether an input was missing, the warnings in order, and the
number of `resolve_curve_output` invocations it took. -/
structure Resolved where
  value : Option ℚ
  degraded : Bool
  cuts : List MixCut
  calls : Nat
  deriving DecidableEq, Repr

/-- A slot whose id names no curve: nothing is called. -/
def Resolved.absent : Resolved := ⟨none, false, [], 0⟩

/-- The loop of `resolve_mix` over its children (curve_eval.rs:258-276), after each has been resolved. -/
def combineChildren (curve : CurveConfig ℚ) (slots : List Resolved) : Resolved where
  value := combineMixPartial (curve.mixFunction.getD .max) (slots.map (·.value))
  degraded := slots.any fun r => r.degraded || r.value.isNone
  cuts := slots.flatMap (·.cuts)
  calls := (slots.map (·.calls)).sum

/-- `resolve_mix` (curve_eval.rs:226), given how a child resolves one level down. -/
def resolveMix (p : DaemonProfile ℚ) (child : List String → CurveConfig ℚ → Resolved) (depthLeft : Nat)
    (visited : List String) (curve : CurveConfig ℚ) : Resolved :=
  if visited.contains curve.id then ⟨none, false, [.cycle curve.name], 0⟩
  else if depthLeft = 0 then ⟨none, false, [.depth curve.name], 0⟩
  else
    combineChildren curve (curve.mixCurveIds.map fun childId =>
      ((p.findCurve childId).map (child (curve.id :: visited))).getD .absent)

/-- `resolve_curve_output` (curve_eval.rs:194). `depthLeft` is `MAX_PROFILE_CURVES - visited.len()`. -/
def resolveCurveOutput (p : DaemonProfile ℚ) (sensors : Sensors) (quarantined : List String) :
    Nat → List String → CurveConfig ℚ → Resolved
  | depthLeft, visited, curve =>
    match curve.curveType with
    | .mix =>
      let child := match depthLeft with
        | depthLeft + 1 => resolveCurveOutput p sensors quarantined depthLeft
        | 0 => fun _ _ => .absent
      let r := resolveMix p child depthLeft visited curve
      { r with calls := r.calls + 1 }
    | .sync => ⟨none, false, [], 1⟩
    | .flat => ⟨some (clampPct (flatOutput curve)), false, [], 1⟩
    | _ => ⟨(curveSensor sensors curve.sensorId quarantined).map fun t => clampPct (evaluateCurve curve t), false, [], 1⟩

/-- The resolution `curve_output_for_control` starts: nothing visited yet. -/
def resolveRoot (p : DaemonProfile ℚ) (sensors : Sensors) (quarantined : List String) (curve : CurveConfig ℚ) :
    Resolved :=
  resolveCurveOutput p sensors quarantined maxProfileCurves [] curve

/-! ## Sync and dispatch -/

/-- `resolve_sync_output` (curve_eval.rs:330). -/
def resolveSyncOutput (control : LogicalControl ℚ) (curve : CurveConfig ℚ) (tickOutputs : KMap String ℚ) :
    Option ℚ :=
  if curve.syncControlId = "" ∨ curve.syncControlId = control.id then none
  else (tickOutputs.get? curve.syncControlId).map fun target => clampPct (target + curve.syncOffsetPct.getD 0)

/-- The mix arm of `curve_output_for_control`: with an input missing the output may rise, not fall. -/
def holdDegraded (r : Resolved) (lastOutput : Option ℚ) : Option ℚ :=
  r.value.map fun value =>
    if r.degraded then (lastOutput.map (max value)).getD value else value

/-- What `curve_output_for_control` hands back: the state, the raw output, the warnings. -/
structure CurveOutput where
  state : ProfileEngineState
  value : Option ℚ
  cuts : List MixCut

/-- `curve_output_for_control` (curve_eval.rs:355). -/
def curveOutputForControl (control : LogicalControl ℚ) (curve : CurveConfig ℚ) (p : DaemonProfile ℚ)
    (sensors : Sensors) (tickOutputs : KMap String ℚ) (s : ProfileEngineState) : CurveOutput :=
  match curve.curveType with
  | .mix =>
    let r := resolveRoot p sensors s.quarantinedSensorIds curve
    ⟨s, holdDegraded r (s.lastOutput.get? control.id), r.cuts⟩
  | .sync => ⟨s, resolveSyncOutput control curve tickOutputs, []⟩
  | .flat => ⟨s, some (clampPct (flatOutput curve)), []⟩
  | .trigger =>
    match curveSensor sensors curve.sensorId s.quarantinedSensorIds with
    | some t =>
      let (s, v) := evaluateTrigger control.id curve t s
      ⟨s, some v, []⟩
    | none => ⟨s, none, []⟩
  | _ =>
    match curveSensor sensors curve.sensorId s.quarantinedSensorIds with
    | some t =>
      let (s, v) := evaluateCurveWithDeadband control.id curve t s
      ⟨s, some v, []⟩
    | none => ⟨s, none, []⟩

/-- `skip_reason` (curve_eval.rs:436). -/
def skipReason (curve : CurveConfig ℚ) : SkipReason :=
  match curve.curveType with
  | .mix => .mixUnresolvable
  | .sync => .syncUnresolvable
  | _ => .sensorUnavailable

end ControlOfc.Engine
