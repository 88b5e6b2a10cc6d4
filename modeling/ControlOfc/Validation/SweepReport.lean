import ControlOfc.Diagnostics.CharSummary
import ControlOfc.Lib.Decimal
import ControlOfc.Validation.Restoration
/-! # What a session reports of its sweeps (validation/summary.rs:20-518, 887-911)

Eight findings are derived from the sweeps of a session, one for each member that has one with a summary. Each
reads the tokens `characterization::summarise` wrote.

| here | there |
| --- | --- |
| `perMember`, `orAbsent` | summary.rs:135, 154 |
| `pwmHeaderControl`, `pwmReadback`, `pwmResponse` | summary.rs:165, 219, 304 |
| `hysteresisFinding`, `stabilityFinding` | summary.rs:369, 416 |
| `effectiveRangeFinding`, `learnedRangeFinding`, `deviceOverride` | summary.rs:449, 488, 887 |
-/
namespace ControlOfc.Validation
open Diagnostics.Sweep (CharSummary SweptPoint)
open Text (fixed1)

/-! ## Evidence -/

/-- The `DIAG_*` kinds (session.rs:105). -/
inductive DiagKind where
  | characterization
  | verify
  | controlPath
  | behaviour
  deriving DecidableEq, Repr

def DiagKind.token : DiagKind → String
  | .characterization => "pwm_characterization"
  | .verify => "pwm_verify"
  | .controlPath => "control_path_discovery"
  | .behaviour => "pwm_behaviour_characterization"

/-- The part of a `CharacterizationRun` a report reads: a summary is the one `summarise` derives from the points. -/
structure CharacterizationRun where
  points : List SweptPoint
  summary : Option CharSummary
  derived : ∀ sum, summary = some sum → ∃ learned driver, sum = Diagnostics.Sweep.summarise points learned driver

/-- What a report reads of a `VerifyEvidence` (session.rs:572). -/
structure VerifyEvidence where
  writeOk : Bool
  result : Option String
  deriving DecidableEq, Repr

/-- What a report reads of an `EvidenceRef` (session.rs:502). -/
structure EvidenceRef where
  kind : DiagKind
  memberId : String
  characterization : Option CharacterizationRun
  verify : Option VerifyEvidence

/-- What a report reads of a member in a sample. -/
structure MemberSample where
  memberId : String
  readbackPct : Option Nat
  deriving DecidableEq, Repr

def reportKinds : Kinds where
  Metadata := Unit
  Reading := List MemberSample
  Evidence := EvidenceRef
  maxSamplesFor := fun _ => 7200
  clampDetail := id

abbrev Session := ValidationSession reportKinds

def isInterrupted (session : Session) : Bool := session.state == .interrupted

/-- `absent_state` (summary.rs:79). -/
def absentState (interrupted : Bool) : String := if interrupted then "interrupted" else "not_tested"

/-- `characterizations` (summary.rs:101). -/
def characterizations (session : Session) : List EvidenceRef :=
  session.evidence.filter fun ev => ev.kind = .characterization ∨ ev.kind = .behaviour

/-- `verifies` (summary.rs:109). -/
def verifies (session : Session) : List EvidenceRef := session.evidence.filter fun ev => ev.kind = .verify

/-- `done` are the members that have a finding. -/
def perMember (derive : EvidenceRef → Option ValidationFinding) (done : List String) :
    List EvidenceRef → List ValidationFinding
  | [] => []
  | ev :: evidence =>
    if ev.memberId ∈ done then perMember derive done evidence
    else
      match derive ev with
      | some f => { f with memberId := some ev.memberId } :: perMember derive (ev.memberId :: done) evidence
      | none => perMember derive done evidence

def orAbsent (out : List ValidationFinding) (id : String) (interrupted : Bool) : List ValidationFinding :=
  if out.isEmpty then [finding id (absentState interrupted)] else out

/-! ## What a run says -/

def summaryOf (ev : EvidenceRef) : Option CharSummary := ev.characterization.bind (·.summary)

/-- A finding of a run with a summary: its state and its detail. -/
def fromSummary (id : String) (outcome : CharSummary → String × String) (ev : EvidenceRef) : Option ValidationFinding :=
  (summaryOf ev).map fun sum =>
    { withDetail (finding id (outcome sum).1) (outcome sum).2 with evidenceKind := some ev.kind.token }

def headerControlOutcome (sum : CharSummary) : String × String :=
  (if sum.commandAcceptance = "pass" then "pass" else if sum.commandAcceptance = "fail" then "fail" else "unknown",
    s!"command acceptance: {sum.commandAcceptance}")

def readbackOutcome (sum : CharSummary) : String × String :=
  (if sum.pwmReadback = "pass" then "pass"
    else if sum.pwmReadback = "clamped" ∨ sum.pwmReadback = "reverted" then "observed"
    else if sum.pwmReadback = "unavailable" then "unavailable" else "unknown",
    s!"readback: {sum.pwmReadback}")

def responseOutcome (sum : CharSummary) : String × String :=
  (if sum.rpmResponse = "pass" then "pass"
    else if sum.rpmResponse = "fail" then "fail"
    else if sum.rpmResponse = "unavailable" then "unavailable" else "unknown",
    s!"rpm response: {sum.rpmResponse}")

def hysteresisOutcome (sum : CharSummary) : String × String :=
  let h := sum.hysteresis
  if h.verdict = "not_tested" then ("not_tested", "the sweep walked one direction only")
  else if h.verdict = "insufficient_data" then ("unknown", "no duty carried readings in both directions")
  else if h.verdict = "none" then
    ("not_observed",
      match h.magnitudePct with
      | some p => s!"rising and falling agree to within {fixed1 p}% of span"
      | none => "rising and falling agree")
  else
    ("observed",
      match h.magnitudePct, h.worstDutyPct with
      | some p, some d => s!"rising and falling differ by up to {fixed1 p}% of span, worst at {d}%"
      | some p, none => s!"rising and falling differ by up to {fixed1 p}% of span"
      | none, _ => "rising and falling differ")

def stabilityOutcome (sum : CharSummary) : String × String :=
  let state :=
    if sum.stabilityVerdict = "unavailable" then "unavailable"
    else if sum.stabilityVerdict = "insufficient_data" ∨ sum.stabilityVerdict = "not_settled" then "unknown"
    else "observed"
  let worst := match sum.worstCvPct with
    | some cv => s!" (worst CV {fixed1 cv}%)"
    | none => ""
  let dropouts := if 0 < sum.totalDropouts then s!", {sum.totalDropouts} tach dropout(s)" else ""
  (state, s!"worst per-point stability: {sum.stabilityVerdict}" ++ worst ++ dropouts)

def effectiveRangeOutcome (sum : CharSummary) : String × String :=
  let range := sum.range
  let detail := match range.minResponsivePct, range.maxResponsivePct with
    | some lo, some hi =>
      let low := match range.lowPlateauToPct with
        | some p => s!", low plateau to {p}%"
        | none => ""
      let high := match range.saturationFromPct with
        | some p => s!", saturating from {p}%"
        | none => ""
      s!"effective control range {lo}-{hi}%" ++ low ++ high
    | _, _ => "no duty change produced a meaningful RPM change"
  (if range.minResponsivePct.isSome then "observed" else "not_observed", detail)

def learnedRangeOutcome (sum : CharSummary) : String × String :=
  match sum.outsideLearnedRange with
  | none => ("not_tested", "no learned response range for this header yet")
  | some false => ("not_observed", "every reading fell inside the learned response range")
  | some true =>
    let note := match sum.learnedRangeNote with
      | some note => s!" — {note}"
      | none => ""
    let explanations := String.intercalate ", " sum.interpretationStates
    let states := if sum.interpretationStates = [] then "" else s!"; possible explanations: {explanations}"
    ("observed", "reported RPM outside the learned response range" ++ note ++ states)

def overrideOutcome (sum : CharSummary) : String × String :=
  if sum.possibleDeviceOverride then ("observed", "PWM control/readback valid, physical response unexpected")
  else ("not_observed", "physical response tracked PWM")

/-! ## The findings -/

/-- The findings a sweep leads to, by the `F_*` constants of their ids (session.rs:636). -/
inductive SweepFinding where
  | headerControl
  | readback
  | response
  | hysteresis
  | stability
  | effectiveRange
  | learnedRange
  | override
  deriving DecidableEq, Repr

namespace SweepFinding

def id : SweepFinding → String
  | headerControl => "pwm_header_control"
  | readback => "pwm_readback"
  | response => "pwm_response_characterization"
  | hysteresis => "pwm_hysteresis"
  | stability => "rpm_stability"
  | effectiveRange => "effective_control_range"
  | learnedRange => "learned_response_range"
  | override => "possible_device_override"

def outcome : SweepFinding → CharSummary → String × String
  | headerControl => headerControlOutcome
  | readback => readbackOutcome
  | response => responseOutcome
  | hysteresis => hysteresisOutcome
  | stability => stabilityOutcome
  | effectiveRange => effectiveRangeOutcome
  | learnedRange => learnedRangeOutcome
  | override => overrideOutcome

end SweepFinding

open SweepFinding (headerControl readback response hysteresis stability effectiveRange learnedRange override)

/-- `verify_outcome` (summary.rs:206). -/
def verifyOutcome (v : VerifyEvidence) : String :=
  if !v.writeOk then "unavailable"
  else if v.result = some "effective" then "pass"
  else if v.result = some "no_rpm_effect" ∨ v.result = some "pwm_enable_reverted" ∨ v.result = some "pwm_value_clamped" then
    "observed"
  else if v.result = some "rpm_unavailable" ∨ v.result = some "pwm_readback_unavailable" ∨
      v.result = some "pump_protected_mid_run" then
    "unavailable"
  else "unknown"

/-- A member no sweep covered falls back to its verify. -/
def pwmHeaderControl (session : Session) (interrupted : Bool) : List ValidationFinding :=
  let out := perMember (fromSummary headerControl.id headerControlOutcome) [] (characterizations session)
  let swept := out.filterMap (·.memberId)
  let verified := perMember
    (fun ev => ev.verify.map fun v =>
      { finding headerControl.id (verifyOutcome v) with evidenceKind := some DiagKind.verify.token })
    [] ((verifies session).filter fun ev => ev.memberId ∉ swept)
  orAbsent (out ++ verified) headerControl.id interrupted

def pwmReadback (session : Session) (interrupted : Bool) : List ValidationFinding :=
  let swept := perMember (fromSummary readback.id readbackOutcome) [] (characterizations session)
  if !swept.isEmpty then swept
  else
    let anyReadback := session.samples.any fun s => List.any s.reading fun m => m.readbackPct.isSome
    [if session.samples = [] then finding readback.id (absentState interrupted)
      else if anyReadback then withDetail (finding readback.id "observed") "readback sampled, not swept"
      else withDetail (finding readback.id "unavailable") "no PWM readback exposed"]

/-- A finding that each member's sweep decides, and nothing else. -/
def sweptFinding (s : SweepFinding) (session : Session) (interrupted : Bool) : List ValidationFinding :=
  orAbsent (perMember (fromSummary s.id s.outcome) [] (characterizations session)) s.id interrupted

def pwmResponse (session : Session) (interrupted : Bool) : List ValidationFinding :=
  sweptFinding response session interrupted

def hysteresisFinding (session : Session) (interrupted : Bool) : List ValidationFinding :=
  sweptFinding hysteresis session interrupted

/-- A run without a stability verdict is passed over. -/
def stabilityFinding (session : Session) (interrupted : Bool) : List ValidationFinding :=
  orAbsent
    (perMember
      (fun ev => if (summaryOf ev).any (·.stabilityVerdict = "") then none else fromSummary stability.id stabilityOutcome ev)
      [] (characterizations session))
    stability.id interrupted

def effectiveRangeFinding (session : Session) (interrupted : Bool) : List ValidationFinding :=
  sweptFinding effectiveRange session interrupted

def learnedRangeFinding (session : Session) (interrupted : Bool) : List ValidationFinding :=
  sweptFinding learnedRange session interrupted

def deviceOverride (session : Session) (interrupted : Bool) : List ValidationFinding :=
  sweptFinding override session interrupted

/-- The findings of the other functions of the report, each under an id of its own. -/
structure OtherFindings where
  rpmTelemetry : List ValidationFinding
  responseLatency : List ValidationFinding
  startupAndSteadyState : List ValidationFinding
  divergence : List ValidationFinding
  afterOverride : List ValidationFinding
  own_ids : ∀ f ∈ rpmTelemetry ++ responseLatency ++ startupAndSteadyState ++ divergence ++ afterOverride,
    ∀ s : SweepFinding, f.id ≠ s.id

/-- `summarise` (summary.rs:27). -/
def summarise (session : Session) (others : OtherFindings) : List ValidationFinding :=
  let interrupted := isInterrupted session
  pwmHeaderControl session interrupted ++ pwmReadback session interrupted ++ others.rpmTelemetry ++
    pwmResponse session interrupted ++ others.responseLatency ++ hysteresisFinding session interrupted ++
    stabilityFinding session interrupted ++ effectiveRangeFinding session interrupted ++
    learnedRangeFinding session interrupted ++ others.startupAndSteadyState ++ others.divergence ++
    deviceOverride session interrupted ++ others.afterOverride

end ControlOfc.Validation
