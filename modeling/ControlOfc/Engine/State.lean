import ControlOfc.Profile.Curve
import ControlOfc.Profile.Roles
import ControlOfc.Lib.KMap
/-! # The engine's cross-tick state (profile_engine/mod.rs:57-534)

Every control shares five maps keyed by strings. A control's own entries sit under its id; a member
whose floor differs from the control's keeps its step-rate tracker in `lastOutput` too, under
`{control}::m::{member}`, and `resetControl` finds those again by their beginning.

The debounce of the skip list and the once-per-activation log set are left out: nothing the engine
commands reads them.
-/
namespace ControlOfc.Engine
open Profile

/-- `SkipReason` (health/state.rs:226). -/
inductive SkipReason where
  | curveNotFound
  | sensorUnavailable
  | mixUnresolvable
  | syncUnresolvable
  | backendUnavailable
  deriving DecidableEq, Repr

/-- `SkipRecord` (skipped.rs:56). -/
structure SkipRecord where
  controlId : String
  controlName : String
  reason : SkipReason
  deriving DecidableEq, Repr

/-- `PwmCommand` (mod.rs:46). -/
structure PwmCommand where
  memberId : String
  source : Source
  pwmPercent : Nat
  gpuFanZeroRpm : Bool
  deriving DecidableEq, Repr

/-- `HeaderFacts` (mod.rs:180). -/
structure HeaderFacts where
  pwmMode : Option Nat
  inferredRole : HeaderRole × RoleSource
  deriving DecidableEq, Repr

/-- `HeaderFacts::default`. -/
def HeaderFacts.unknown : HeaderFacts := ⟨none, (.unknown, .none)⟩

/-- `StaticEvalCache` (mod.rs:81). -/
structure StaticEvalCache where
  order : List Nat
  curveIndex : KMap String Nat

/-- `ProfileEngineState` (mod.rs:92). -/
structure ProfileEngineState where
  quarantinedSensorIds : List String
  lastOutput : KMap String ℚ
  lastCurveOutput : KMap String ℚ
  lastTransitionTemp : KMap String ℚ
  triggerLatch : KMap String Bool
  deadbandHoldCycles : KMap String Nat
  activeProfileId : Option String
  staticCache : Option StaticEvalCache
  skippedThisTick : List SkipRecord
  tickOutputs : KMap String ℚ
  assignedRoles : KMap String HeaderRole
  headerFacts : KMap String HeaderFacts

/-- `DEADBAND_ANCHOR_DELTA_PCT` (curve_eval.rs:11). -/
def deadbandAnchorDeltaPct : ℚ := 1 / 2

/-- `DEADBAND_MAX_HOLD_CYCLES` (constants.rs:223). -/
def deadbandMaxHoldCycles : Nat := 30

namespace ProfileEngineState

/-- `ProfileEngineState::new`. -/
def new : ProfileEngineState where
  quarantinedSensorIds := []
  lastOutput := .empty
  lastCurveOutput := .empty
  lastTransitionTemp := .empty
  triggerLatch := .empty
  deadbandHoldCycles := .empty
  activeProfileId := none
  staticCache := none
  skippedThisTick := []
  tickOutputs := .empty
  assignedRoles := .empty
  headerFacts := .empty

/-- The tuning maps of a state that has just begun: what `sync_profile_id` and `deactivate` clear. -/
def clearTuning (s : ProfileEngineState) : ProfileEngineState :=
  { s with
    lastOutput := .empty
    lastCurveOutput := .empty
    lastTransitionTemp := .empty
    triggerLatch := .empty
    deadbandHoldCycles := .empty
    staticCache := none }

/-- `deactivate` (mod.rs:435), with the `deactivate_tuning_only` it begins with. -/
def deactivate (s : ProfileEngineState) : ProfileEngineState :=
  { s.clearTuning with activeProfileId := none, tickOutputs := .empty, skippedThisTick := [] }

/-- `reset_for_forced_tick` (mod.rs:417). -/
def resetForForcedTick (s : ProfileEngineState) : ProfileEngineState :=
  { s with lastOutput := .empty, tickOutputs := .empty }

/-- `format!("{control_id}::m::{member_id}")`: where a member's own tracker is kept. -/
def memberKey (controlId memberId : String) : String := controlId ++ "::m::" ++ memberId

/-- `k.starts_with("{control_id}::m::")`. -/
def isMemberKeyOf (controlId key : String) : Bool := (controlId ++ "::m::").toList.isPrefixOf key.toList

/-- `reset_control` (mod.rs:458). -/
def resetControl (s : ProfileEngineState) (controlId : String) : ProfileEngineState :=
  { s with
    lastOutput := (s.lastOutput.remove controlId).retain fun k _ => !isMemberKeyOf controlId k
    lastCurveOutput := s.lastCurveOutput.remove controlId
    lastTransitionTemp := s.lastTransitionTemp.remove controlId
    triggerLatch := s.triggerLatch.remove controlId
    deadbandHoldCycles := s.deadbandHoldCycles.remove controlId }

/-- `sync_profile_id` (mod.rs:474). -/
def syncProfileId (s : ProfileEngineState) (newId : String) : ProfileEngineState :=
  if s.activeProfileId = some newId then s
  else { s.clearTuning with activeProfileId := some newId }

/-- `set_assigned_roles` and `set_header_facts` (mod.rs:197-208), with this tick's quarantine list. -/
def install (s : ProfileEngineState) (quarantined : List String) (roles : KMap String HeaderRole)
    (facts : KMap String HeaderFacts) : ProfileEngineState :=
  { s with quarantinedSensorIds := quarantined, assignedRoles := roles, headerFacts := facts }

end ProfileEngineState

/-- `curve_id → index`, the last curve of an id winning (mod.rs:503-508). -/
def curveIndex (p : DaemonProfile ℚ) : KMap String Nat :=
  KMap.ofList (p.curves.zipIdx.map fun (c, i) => (c.id, i))

end ControlOfc.Engine
