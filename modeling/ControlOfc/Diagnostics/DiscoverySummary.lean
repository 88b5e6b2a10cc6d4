import ControlOfc.Diagnostics.Discovery
import ControlOfc.Lib.KeyedList
import Mathlib.Algebra.Order.Ring.Rat
import Mathlib.Data.String.Basic
/-! # The result of a discovery (api/discovery.rs:246-331, 396-611, api/handlers/discovery.rs:742-765)

The duties a discovery perturbs between, and what its cycles come to: the channels that answered, how surely, and which
way. Ratios are exact.
-/
namespace ControlOfc.Diagnostics.Discovery

/-! ## The duties -/

/-- `DISCOVERY_MIN_PCT` (constants.rs:1264). -/
def discoveryMinPct : Nat := 20

/-- `DISCOVERY_DELTA_PCT` (constants.rs:1244). -/
def discoveryDeltaPct : Nat := 25

/-- `DISCOVERY_DELTA_MIN_PCT` (constants.rs:1250). -/
def discoveryDeltaMinPct : Nat := 10

/-- `DISCOVERY_DELTA_MAX_PCT` (constants.rs:1251). -/
def discoveryDeltaMaxPct : Nat := 40

/-- `DISCOVERY_DEFAULT_CYCLES` (constants.rs:1272). -/
def discoveryDefaultCycles : Nat := 2

/-- `DISCOVERY_MAX_CYCLES` (constants.rs:1273). -/
def discoveryMaxCycles : Nat := 3

/-- `IDENTIFY_PUMP_BASELINE_FALLBACK_PCT` (constants.rs:265). -/
def identifyPumpBaselineFallbackPct : Nat := 60

/-- `clamp`, which panics unless its bounds are in order. -/
def clamp (v lo hi : Nat) : Option Nat := if lo ≤ hi then some (max lo (min v hi)) else none

def resolveDelta (requested : Option Nat) : Nat :=
  max discoveryDeltaMinPct (min (requested.getD discoveryDeltaPct) discoveryDeltaMaxPct)

def resolveCycles (requested : Option Nat) : Nat :=
  max discoveryDefaultCycles (min (requested.getD discoveryDefaultCycles) discoveryMaxCycles)

def resolveBaseline (readbackPct : Option Nat) (floor : Nat) : Option Nat :=
  clamp (readbackPct.getD identifyPumpBaselineFallbackPct) (max floor discoveryMinPct) 100

/-- Away from the nearer end of the range. -/
def perturbationTarget (baselinePct delta floor : Nat) : Option (Nat × String) := do
  let lo := max floor discoveryMinPct
  let base ← clamp baselinePct lo 100
  let roomUp := 100 - base
  let roomDown := base - lo
  return if roomDown ≤ roomUp then (min (base + delta) 100, "up") else (max (base - delta) lo, "down")

/-! ## Candidates -/

/-- `CONF_HIGH` and its siblings. -/
inductive Confidence where
  | high
  | medium
  | low
  | unknown
  deriving DecidableEq, Repr

def Confidence.rank : Confidence → Nat
  | .high => 3
  | .medium => 2
  | .low => 1
  | .unknown => 0

/-- `REL_CONFIRMED` and its siblings. -/
inductive Relationship where
  | confirmed
  | probable
  | ambiguous
  | noTachResponse
  | multipleResponses
  deriving DecidableEq, Repr

def Relationship.token : Relationship → String
  | .confirmed => "confirmed"
  | .probable => "probable"
  | .ambiguous => "ambiguous"
  | .noTachResponse => "no_tach_response"
  | .multipleResponses => "multiple_responses"

/-- A `TachChannel` with what a candidate shows of it. -/
structure LabelledChannel extends TachChannel where
  label : String
  monitorOnly : Bool
  deriving DecidableEq, Repr

structure ControlPathCandidate where
  tachId : String
  label : String
  monitorOnly : Bool
  confidence : Confidence
  direction : String
  baselineRpm : Option Nat
  perturbedRpm : Option Nat
  changePct : Option ℚ
  cyclesResponded : Nat
  cyclesTotal : Nat
  deriving DecidableEq

/-- What the cycles saw of a channel. -/
def observationsOf (cycles : List DiscoveryCycle) (tachId : String) : List TachObservation :=
  cycles.filterMap fun c => KeyedList.lookup (·.tachId) c.observations tachId

def changePct (o : TachObservation) : Option ℚ :=
  match o.baselineRpm, o.deltaRpm with
  | some b, some d => if 0 < b then some (d / b * 100) else none
  | _, _ => none

def directionOf (o : TachObservation) : String := if o.deltaRpm.any (· < 0) then "negative" else "positive"

/-- A channel that responded, with the figures of its first response. Counts are `u8`. -/
def candidateOf (cycles : List DiscoveryCycle) (ch : LabelledChannel) : Option ControlPathCandidate :=
  let obs := observationsOf cycles ch.tachId
  let respondedCount := obs.countP (·.responded) % 256
  (obs.find? (·.responded)).bind fun first =>
    if respondedCount = 0 then none
    else some
      { tachId := ch.tachId, label := ch.label, monitorOnly := ch.monitorOnly, confidence := .low
        direction := directionOf first, baselineRpm := first.baselineRpm, perturbedRpm := first.perturbedRpm
        changePct := changePct first, cyclesResponded := respondedCount, cyclesTotal := cycles.length % 256 }

/-- The most that a channel moved without responding. -/
def quietestMargin (cycles : List DiscoveryCycle) : Nat :=
  (((cycles.flatMap (·.observations)).filter (!·.responded)).filterMap fun o => o.deltaRpm.map Int.natAbs).max?.getD 0

/-- `DISCOVERY_TARGET_OVER_NOISE` (constants.rs:1299). -/
def targetOverNoise : Nat := 3

def ownDelta (c : ControlPathCandidate) : Nat :=
  match c.baselineRpm, c.perturbedRpm with
  | some b, some p => max b p - min b p
  | _, _ => 0

def graded (margin cyclesTotal : Nat) (c : ControlPathCandidate) : ControlPathCandidate :=
  let consistent := c.cyclesResponded = cyclesTotal ∧ 0 < cyclesTotal
  let clearOfOthers := margin = 0 ∨ margin * targetOverNoise ≤ ownDelta c
  { c with confidence := if consistent then if clearOfOthers then .high else .medium else .low }

/-- Strongest first. -/
def stronger (a b : ControlPathCandidate) : Prop :=
  b.confidence.rank < a.confidence.rank ∨ b.confidence.rank = a.confidence.rank ∧ b.cyclesResponded ≤ a.cyclesResponded

instance : DecidableRel stronger := fun _ _ => by unfold stronger; infer_instance

def candidatesOf (channels : List LabelledChannel) (cycles : List DiscoveryCycle) : List ControlPathCandidate :=
  ((channels.filterMap (candidateOf cycles)).map (graded (quietestMargin cycles) (cycles.length % 256))).insertionSort stronger

/-! ## The summary -/

def anyReadable (cycles : List DiscoveryCycle) : Bool :=
  (cycles.flatMap (·.observations)).any fun o => o.baselineRpm.isSome || o.perturbedRpm.isSome

/-- The relationship, and what is noted with it. -/
def relationshipOf (readable : Bool) (candidates : List ControlPathCandidate) : Relationship × List String :=
  if readable then
    match candidates with
    | [] => (.noTachResponse, ["Every tach channel stayed within its own noise floor. This header may drive no tach-reporting device, or its device may be running under its own internal control."])
    | [only] =>
      match only.confidence with
      | .high => (.confirmed, [])
      | .medium => (.probable, ["One channel responded in every cycle, but another channel moved by a comparable amount, so the mapping is probable rather than confirmed."])
      | _ => (.ambiguous, [s!"The responding channel answered in only {only.cyclesResponded} of {only.cyclesTotal} cycles, so the result is not repeatable enough to rely on."])
    | _ => (.multipleResponses, [s!"{candidates.length} tach channels responded together. That is expected for a splitter or a shared header, and means the mapping is not one-to-one."])
  else (.noTachResponse, ["No tach channel produced a readable RPM during this run, so no relationship could be tested."])

def overallConfidence (readable : Bool) (relationship : Relationship) (candidates : List ControlPathCandidate) : Confidence :=
  if readable then
    match candidates.head? with
    | some best => if relationship = .multipleResponses ∧ best.confidence = .high then .medium else best.confidence
    | none => .low
  else .unknown

def unsettledNotes (settleWaitMaxS : Nat) (cycles : List DiscoveryCycle) : List String :=
  let unsettled := (cycles.filter (·.baselineSettled = some false)).map fun c => toString c.cycle
  let borrowed := (cycles.flatMap (·.observations)).countP (·.noiseFloorFromCycle1)
  let which := String.intercalate ", " unsettled
  if unsettled = [] then []
  else [s!"The tachs had not all settled within {settleWaitMaxS} s before the baseline of cycle(s) {which}. {borrowed} channel reading(s) used cycle 1's noise floor instead of one measured while the fan was still recovering."]

def resolutionNotes : Option Nat → List String
  | none => ["Telemetry update cadence is unknown: this driver publishes no update_interval and no reading changed during the run."]
  | some res =>
    if millis sampleInterval * 2 ≤ res then
      [s!"Telemetry updates roughly every {res} ms, so timings finer than that are not meaningful."]
    else []

/-- `DISCOVERY_SETTLE_WAIT_MAX`, in seconds (constants.rs:625, 1413). -/
def settleWaitMaxS : Nat := 15

structure DiscoverySummary where
  relationship : Relationship
  confidence : Confidence
  candidates : List ControlPathCandidate
  measurementResolutionMs : Option Nat
  sampleIntervalMs : Nat
  sampleCount : Nat
  confidenceNotes : List String

def summarise (channels : List LabelledChannel) (cycles : List DiscoveryCycle)
    (driverUpdateIntervalMs observedResolutionMs : Option Nat) (sampleCount : Nat) : DiscoverySummary :=
  let candidates := candidatesOf channels cycles
  let (relationship, notes) := relationshipOf (anyReadable cycles) candidates
  let measurementResolutionMs := driverUpdateIntervalMs.or observedResolutionMs
  { relationship, candidates, measurementResolutionMs, sampleCount
    confidence := overallConfidence (anyReadable cycles) relationship candidates
    sampleIntervalMs := millis sampleInterval
    confidenceNotes := notes ++ unsettledNotes settleWaitMaxS cycles ++ resolutionNotes measurementResolutionMs }

/-- What is persisted of a run that completed. -/
structure ControlPathRecord where
  headerId : String
  relationship : Relationship
  confidence : Confidence
  tachIds : List String
  tachLabels : List String
  direction : String
  baselineRpm : Option Nat
  perturbedRpm : Option Nat
  changePct : Option ℚ
  runId : String
  validatedUnixMs : Nat
  deriving DecidableEq

def recordFor (headerId runId : String) (summary : DiscoverySummary) (completedUnixMs : Nat) : ControlPathRecord :=
  let best := summary.candidates.head?
  { headerId, runId, relationship := summary.relationship, confidence := summary.confidence
    tachIds := summary.candidates.map (·.tachId), tachLabels := summary.candidates.map (·.label)
    direction := (best.map (·.direction)).getD "", baselineRpm := best.bind (·.baselineRpm)
    perturbedRpm := best.bind (·.perturbedRpm), changePct := best.bind (·.changePct), validatedUnixMs := completedUnixMs }

end ControlOfc.Diagnostics.Discovery
