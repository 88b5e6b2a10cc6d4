import ControlOfc.Diagnostics.Plateaus
import ControlOfc.Diagnostics.RpmStats
import ControlOfc.Diagnostics.Sweep
import Mathlib.Algebra.BigOperators.Group.List.Basic
import Mathlib.Algebra.Order.Ring.Rat
/-! # The summary of a sweep (api/characterization.rs:914-1360, api/stats.rs:618-695)

What a sweep's points come to: how the header took its commands, what the fan did with them, and how that compares
with earlier sweeps. Ratios are exact.
-/
namespace ControlOfc.Diagnostics.Sweep
open Stats

/-! ## Tokens -/

def hysteresisNone : String := "none"

def hysteresisPresent : String := "present"

def hysteresisInsufficient : String := "insufficient_data"

def hysteresisNotTested : String := "not_tested"

/-- The `STABILITY_*` tokens. -/
inductive Stability
  | stable
  | varying
  | unstable
  | insufficient
  | unavailable
  | notSettled
  deriving DecidableEq, Repr

def Stability.token : Stability → String
  | .stable => stabilityStable
  | .varying => stabilityVariable
  | .unstable => stabilityUnstable
  | .insufficient => stabilityInsufficient
  | .unavailable => stabilityUnavailable
  | .notSettled => stabilityNotSettled

/-- `rank`. -/
def Stability.rank : Stability → Nat
  | .unstable => 5
  | .varying => 4
  | .notSettled => 3
  | .insufficient => 2
  | .stable => 1
  | .unavailable => 0

/-! ## Points -/

/-- What the summary reads of a `PointStability`. -/
structure PointStability where
  verdict : Stability
  cvPct : Option ℚ
  dropouts : Nat
  outliers : Nat
  updateIntervalMs : Option Nat
  deriving DecidableEq

/-- A `CharPoint` with what is derived for it. -/
structure SweptPoint extends CharPoint where
  readbackVerdict : String
  firstChangeMs : Option Nat := none
  stability : Option PointStability := none
  deriving DecidableEq

structure LearnedPoint where
  dutyPct : Nat
  rpmMin : Nat
  rpmMax : Nat
  deriving DecidableEq, Repr

/-- `READBACK_TOLERANCE_PCT` (constants.rs:642). -/
def readbackTolerancePct : Nat := 2

def absDiff (a b : Nat) : Nat := (a - b) + (b - a)

def readbackVerdict (requestedPct : Nat) (readbackPct pwmEnable : Option Nat) : String :=
  if pwmEnable.any (· ≠ 1) && !Pwm.isFullSpeedAlias requestedPct readbackPct pwmEnable then "reverted"
  else
    match readbackPct with
    | none => "unavailable"
    | some got => if absDiff got requestedPct ≤ readbackTolerancePct then "match" else "clamped"

/-! ## Commands and readback -/

def commandAcceptance (points : List SweptPoint) : String :=
  let accepted := points.countP (·.commandAccepted)
  if points = [] ∨ accepted = 0 then "fail" else if accepted = points.length then "pass" else "partial"

def interferenceDetected (points : List SweptPoint) : Bool :=
  points.any fun p => p.pwmEnable.any (· ≠ 1) && !Pwm.isFullSpeedAlias p.requestedPct p.readbackPct p.pwmEnable

def pwmReadback (points : List SweptPoint) : String :=
  if points.any (·.readbackVerdict = "reverted") then "reverted"
  else if points = [] ∨ points.all (·.readbackVerdict = "unavailable") then "unavailable"
  else if points.any (·.readbackVerdict = "clamped") then "clamped"
  else "pass"

/-- The most frequent value, the lowest of several. -/
def mostFrequent (vs : List Nat) : Option Nat :=
  vs.foldl (fun best v => some (best.elim v fun b =>
    if vs.count b < vs.count v ∨ vs.count b = vs.count v ∧ v ≤ b then v else b)) none

def clampPct (points : List SweptPoint) : Option Nat :=
  mostFrequent ((points.filter (·.readbackVerdict = "clamped")).filterMap (·.readbackPct))

/-! ## Readings -/

/-- `CHARACTERIZATION_RPM_NOISE_FLOOR` (constants.rs:654). -/
def characterizationRpmNoiseFloor : Nat := 50

/-- `CHARACTERIZATION_RESPONSIVE_MIN_DELTA_RPM` (constants.rs:671). -/
def characterizationResponsiveMinDeltaRpm : Nat := 150

def rpmsOf (points : List SweptPoint) : List DutyRpm :=
  points.filterMap fun p => p.rpmAfter.map fun r => ⟨p.requestedPct, r⟩

def minRpm (rpms : List DutyRpm) : Option Nat := (rpms.map (·.rpm)).min?

def maxRpm (rpms : List DutyRpm) : Option Nat := (rpms.map (·.rpm)).max?

def responseThreshold (lo : Nat) : Nat := max characterizationResponsiveMinDeltaRpm (lo / 5)

def rpmResponse (rpms : List DutyRpm) : String :=
  match minRpm rpms, maxRpm rpms with
  | some lo, some hi => if responseThreshold lo < hi - lo then "responsive" else "no_response"
  | _, _ => "unavailable"

def rpmTolerance (rpm : Nat) : Nat := max characterizationRpmNoiseFloor (rpm / 33)

/-- `u16` addition, where it does not panic. -/
def addU16 (a b : Nat) : Nat := (a + b) % 65536

def windows (seq : List Nat) : List (Nat × Nat) := seq.zip seq.tail

def nonDecreasing (seq : List Nat) : Option Bool :=
  if seq.length < 2 then none else some ((windows seq).all fun w => w.1 ≤ addU16 w.2 (rpmTolerance w.1))

/-- A flat stretch the readings start with and leave again. -/
def deadZoneUpperPct (rpms : List DutyRpm) : Option Nat :=
  match minRpm rpms with
  | none => none
  | some lo =>
    if rpms.length < 2 then none
    else
      let flat := rpms.takeWhile fun r => absDiff r.rpm lo ≤ rpmTolerance lo
      if 2 ≤ flat.length ∧ flat.length < rpms.length then flat.getLast?.map (·.dutyPct) else none

def series (points : List SweptPoint) (direction : Direction) : List DutyRpm :=
  foldDirection (rpmsOf (points.filter (·.direction = direction)))

def isBidirectional (points : List SweptPoint) : Bool := points.any (·.direction = .falling)

def leg (series : List DutyRpm) : Option Bool := nonDecreasing (series.map (·.rpm))

/-- Over both legs, on the falling one, and on the rising one. -/
def monotonicity (points : List SweptPoint) : Option Bool × Option Bool × Option Bool :=
  if isBidirectional points then
    let f := leg (series points .falling)
    let r := leg (series points .rising)
    let overall :=
      if f = some false ∨ r = some false then some false else if f = none ∧ r = none then none else some true
    (overall, f, r)
  else (nonDecreasing ((rpmsOf points).map (·.rpm)), none, none)

/-! ## Hysteresis -/

/-- `HYSTERESIS_MIN_PCT` (constants.rs:771). -/
def hysteresisMinPct : ℚ := 5

structure Hysteresis where
  magnitudePct : Option ℚ
  worstDutyPct : Option Nat
  worstDeltaRpm : Option Nat
  comparedPoints : Nat
  verdict : String
  deriving DecidableEq

/-- The duties both legs have, with how far apart they read there. -/
def sharedDeltas (rising falling : List DutyRpm) : List (Nat × Nat) :=
  rising.filterMap fun r => (falling.find? (·.dutyPct = r.dutyPct)).map fun f => (r.dutyPct, absDiff r.rpm f.rpm)

/-- The first of the largest. -/
def worstDelta (deltas : List (Nat × Nat)) : Option (Nat × Nat) :=
  deltas.foldl (fun worst d => some (worst.elim d fun w => if w.2 < d.2 then d else w)) none

def hysteresis (rising falling : List DutyRpm) (bidirectional : Bool) : Hysteresis :=
  if bidirectional then
    let all := (rising ++ falling).map (·.rpm)
    let span := (all.max?.getD 0) - (all.min?.getD 0)
    let deltas := sharedDeltas rising falling
    match worstDelta deltas with
    | none => ⟨none, none, none, deltas.length, hysteresisInsufficient⟩
    | some (duty, delta) =>
      if span = 0 then ⟨some 0, some duty, some delta, deltas.length, hysteresisNone⟩
      else
        let pct : ℚ := delta / span * 100
        ⟨some pct, some duty, some delta, deltas.length, if hysteresisMinPct ≤ pct then hysteresisPresent else hysteresisNone⟩
  else ⟨none, none, none, 0, hysteresisNotTested⟩

/-! ## The learned band -/

/-- `LEARNED_RANGE_TOLERANCE_PCT` (constants.rs:783). -/
def learnedRangeTolerancePct : Nat := 25

/-- The readings with a learned band for their duty. -/
def comparedPoints (rpms : List DutyRpm) (learned : List LearnedPoint) : List (DutyRpm × LearnedPoint) :=
  rpms.filterMap fun r => (learned.find? (·.dutyPct = r.dutyPct)).map fun band => (r, band)

def isAbove (c : DutyRpm × LearnedPoint) : Bool := c.2.rpmMax * (100 + learnedRangeTolerancePct) < c.1.rpm * 100

def isBelow (c : DutyRpm × LearnedPoint) : Bool := c.1.rpm * 100 < c.2.rpmMin * (100 - learnedRangeTolerancePct)

def gapOf (c : DutyRpm × LearnedPoint) : Nat := if isAbove c then c.1.rpm - c.2.rpmMax else c.2.rpmMin - c.1.rpm

/-- The first of the furthest outside. -/
def worstOutside (outside : List (DutyRpm × LearnedPoint)) : Option (DutyRpm × LearnedPoint) :=
  outside.foldl (fun worst c => some (worst.elim c fun w => if gapOf w < gapOf c then c else w)) none

structure LearnedVerdict where
  outside : Option Bool
  note : Option String
  above : Nat
  below : Nat
  deriving DecidableEq

def compareToLearned (points : List SweptPoint) (learned : List LearnedPoint) : LearnedVerdict :=
  let compared := comparedPoints (rpmsOf points) learned
  if compared = [] then ⟨none, none, 0, 0⟩
  else
    let above := compared.countP isAbove
    let below := compared.countP fun c => !isAbove c && isBelow c
    let worst := worstOutside (compared.filter fun c => isAbove c || isBelow c)
    ⟨some (0 < above + below),
      worst.map fun (r, band) => s!"at {r.dutyPct}% the learned response is {band.rpmMin}-{band.rpmMax} RPM", above, below⟩

def suspiciousTachRatio (points : List SweptPoint) (learned : List LearnedPoint) : Bool :=
  let ratios : List ℚ := (comparedPoints (rpmsOf points) learned).filterMap fun (r, band) =>
    if band.rpmMin + band.rpmMax = 0 then none else some (r.rpm / ((band.rpmMin + band.rpmMax) / 2))
  let mean := ratios.sum / ratios.length
  let near (target : ℚ) : Bool := |mean - target| ≤ 15 / 100
  3 ≤ ratios.length && ratios.all (fun r => |r - mean| ≤ mean * (1 / 10)) && (near 2 || near (1 / 2) || near 3 || near (1 / 3))

/-! ## The summary -/

def worstStability (points : List SweptPoint) : Stability :=
  ((points.filterMap (·.stability)).map (·.verdict)).foldl (fun worst v => if worst.rank ≤ v.rank then v else worst) .unavailable

def worstCvPct (points : List SweptPoint) : Option ℚ :=
  ((points.filterMap (·.stability)).filterMap (·.cvPct)).foldl (fun worst cv => some (worst.elim cv (max · cv))) none

/-- `median_u64`. -/
def medianU64 (v : List Nat) : Option Nat := (v.insertionSort (· ≤ ·))[v.length / 2]?

def interpretationStates (points : List SweptPoint) (learned : List LearnedPoint) : List String :=
  let readbackOk := pwmReadback points = "pass"
  let unresponsive := readbackOk ∧ rpmResponse (rpmsOf points) = "no_response"
  let v := compareToLearned points learned
  (if unresponsive then ["DEVICE_OVERRIDE_POSSIBLE"] else []) ++
  (if pwmReadback points = "clamped" then ["PWM_CLAMP_POSSIBLE"] else []) ++
  (if v.outside = some true ∧ readbackOk then
    (if v.below < v.above ∧ points.length ≤ v.above * 2 then ["DEVICE_THERMAL_CONTROL_POSSIBLE"] else []) ++
    (if 0 < v.above ∧ v.above ≤ 2 ∧ 3 < points.length then ["STARTUP_OVERRIDE_POSSIBLE"] else []) ++
    (if suspiciousTachRatio points learned then ["TACH_MAPPING_OR_SCALING_POSSIBLE"] else []) ++
    (if unresponsive then [] else ["DEVICE_OVERRIDE_POSSIBLE"])
  else [])

structure CharSummary where
  commandAcceptance : String
  pwmReadback : String
  rpmResponse : String
  minTestedPct : Option Nat
  maxTestedPct : Option Nat
  minRpm : Option Nat
  maxRpm : Option Nat
  monotonic : Option Bool
  monotonicFalling : Option Bool
  monotonicRising : Option Bool
  deadZoneUpperPct : Option Nat
  clampPct : Option Nat
  possibleDeviceOverride : Bool
  interferenceDetected : Bool
  hysteresis : Hysteresis
  range : EffectiveRange
  plateaus : List Plateau
  stabilityVerdict : String
  worstCvPct : Option ℚ
  totalDropouts : Nat
  totalOutliers : Nat
  measurementResolutionMs : Option Nat
  typicalResponseMs : Option Nat
  typicalSettlingMs : Option Nat
  outsideLearnedRange : Option Bool
  learnedRangeNote : Option String
  interpretationStates : List String

def summarise (points : List SweptPoint) (learned : List LearnedPoint) (driverUpdateIntervalMs : Option Nat) : CharSummary :=
  let rpms := rpmsOf points
  let allPoints := foldDirection rpms
  let stabilities := points.filterMap (·.stability)
  let v := compareToLearned points learned
  { commandAcceptance := commandAcceptance points
    pwmReadback := pwmReadback points
    rpmResponse := rpmResponse rpms
    minTestedPct := (points.map (·.requestedPct)).min?
    maxTestedPct := (points.map (·.requestedPct)).max?
    minRpm := minRpm rpms
    maxRpm := maxRpm rpms
    monotonic := (monotonicity points).1
    monotonicFalling := (monotonicity points).2.1
    monotonicRising := (monotonicity points).2.2
    deadZoneUpperPct := deadZoneUpperPct rpms
    clampPct := clampPct points
    possibleDeviceOverride := pwmReadback points = "pass" ∧ rpmResponse rpms = "no_response"
    interferenceDetected := interferenceDetected points
    hysteresis := hysteresis (series points .rising) (series points .falling) (isBidirectional points)
    range := effectiveRange allPoints
    plateaus := plateaus allPoints
    stabilityVerdict := (worstStability points).token
    worstCvPct := worstCvPct points
    totalDropouts := (stabilities.map (·.dropouts)).sum
    totalOutliers := (stabilities.map (·.outliers)).sum
    measurementResolutionMs := driverUpdateIntervalMs.or (medianU64 (stabilities.filterMap (·.updateIntervalMs)))
    typicalResponseMs := medianU64 (points.filterMap (·.firstChangeMs))
    typicalSettlingMs := medianU64 (points.filterMap (·.settledMs))
    outsideLearnedRange := v.outside
    learnedRangeNote := v.note
    interpretationStates := interpretationStates points learned }

end ControlOfc.Diagnostics.Sweep
