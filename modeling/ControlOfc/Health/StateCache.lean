import ControlOfc.Lib.Machine
import Mathlib.Algebra.Group.Nat.Defs
/-! # The write pause and the firmware claim of the shared state (health/cache.rs:653-1180, health/state.rs:560-737)

`DaemonState` holds one slot that pauses the engine's writes for a diagnostic, and one hold of a firmware
update on the OpenFan controller. Every operation takes the write guard once, so each is one step; instants
count nanoseconds.

Left out of the two records: what only `/status` shows of an engine tick (its causes and its coolant
thresholds), and the probe evidence of silent boards.
-/
namespace ControlOfc.Health

/-- `OpenFanLink` (health/state.rs:560). -/
inductive OpenFanLink where
  | connected
  | unresponsive
  | reconnecting
  deriving DecidableEq, Repr

/-- `as_str` (health/state.rs:572). -/
def OpenFanLink.asStr : OpenFanLink → String
  | .connected => "connected"
  | .unresponsive => "unresponsive"
  | .reconnecting => "reconnecting"

/-- `OpenFanMaintenance` (health/state.rs:583). -/
inductive OpenFanMaintenance where
  | running (runId stage : String) (stageDeadline : Option Nat) (writesSuspended : Bool)
  | needsRecovery (runId outcome : String)
  deriving DecidableEq, Repr

/-- `MaintenanceRefusal` (health/state.rs:616). -/
inductive MaintenanceRefusal where
  | maintenanceActive
  | linkNotReady (link : Option OpenFanLink)
  | recoveryPending
  | diagnosticActive
  | thermalEmergency
  | boardAnswers
  deriving DecidableEq, Repr

/-- `reason` (health/state.rs:637). -/
def MaintenanceRefusal.reason : MaintenanceRefusal → String
  | .maintenanceActive => "maintenance_active"
  | .linkNotReady _ | .recoveryPending => "openfan_link_not_ready"
  | .diagnosticActive => "diagnostic_active"
  | .thermalEmergency => "thermal_emergency"
  | .boardAnswers => "board_not_silent"

/-- `message` (health/state.rs:647). -/
def MaintenanceRefusal.message : MaintenanceRefusal → String
  | .maintenanceActive => "an OpenFan firmware update is already running"
  | .linkNotReady link =>
    "the OpenFan controller's connection is " ++ link.elim "not established yet" OpenFanLink.asStr ++
      " — an update starts only while it is connected"
  | .recoveryPending =>
    "the last firmware update left the OpenFan board needing recovery — an update starts once the controller " ++
      "answers again"
  | .diagnosticActive => "a hardware diagnostic or calibration holds the fans — wait for it to finish"
  | .thermalEmergency => "a thermal emergency is forcing the fans — wait until it has cleared"
  | .boardAnswers => "the OpenFan controller answers — update it as a connected board"

/-- The fields of `DaemonState` (health/state.rs:415) the pause and the claim live in, and the clock. -/
structure DaemonState where
  now : Nat
  verifyInProgress : Bool
  verifyActiveUntil : Option Nat
  /-- A `u64` that wraps. -/
  verifyEpoch : Nat
  openfanLink : Option OpenFanLink
  openfanMaintenance : Option OpenFanMaintenance
  thermalOverrideState : Option String
  deriving DecidableEq, Repr

namespace DaemonState

/-- `DaemonState::default`. -/
def default : DaemonState := ⟨0, false, none, 0, none, none, none⟩

/-- `verify_active_at` (health/state.rs:704), now. -/
def verifyActive (s : DaemonState) : Bool := s.verifyInProgress && s.verifyActiveUntil.any (s.now < ·)

/-- `openfan_maintenance_running` (health/state.rs:713). -/
def openfanMaintenanceRunning (s : DaemonState) : Bool :=
  match s.openfanMaintenance with
  | some (.running _ _ _ _) => true
  | _ => false

/-- `openfan_writes_suspended` (health/state.rs:727). -/
def openfanWritesSuspended (s : DaemonState) : Bool :=
  match s.openfanMaintenance with
  | some (.running _ _ _ writesSuspended) => writesSuspended
  | some (.needsRecovery _ _) => true
  | none => false

/-- `openfan_writes_paused` (health/cache.rs:1198). -/
def openfanWritesPaused (s : DaemonState) : Bool := s.verifyActive || s.openfanWritesSuspended

/-! ## The pause slot -/

/-- `wrapping_add(1)` on a `u64`. -/
def nextEpoch (epoch : Nat) : Nat := (epoch + 1) % 2 ^ 64

/-- `try_begin_verify` (health/cache.rs:683): the epoch claimed. -/
def tryBeginVerify (s : DaemonState) (window : Nat) : DaemonState × Option Nat :=
  if s.openfanMaintenanceRunning then (s, none)
  else if s.verifyActive then (s, none)
  else
    ({ s with
        verifyEpoch := nextEpoch s.verifyEpoch
        verifyInProgress := true
        verifyActiveUntil := some (s.now + window) },
      some (nextEpoch s.verifyEpoch))

/-- `end_verify` (health/cache.rs:727). -/
def endVerify (s : DaemonState) (epoch : Nat) : DaemonState × Bool :=
  if s.verifyEpoch ≠ epoch then (s, false)
  else ({ s with verifyInProgress := false, verifyActiveUntil := none }, true)

/-- `renew_verify` (health/cache.rs:753). -/
def renewVerify (s : DaemonState) (epoch window : Nat) : DaemonState × Bool :=
  if s.verifyEpoch ≠ epoch then (s, false) else ({ s with verifyActiveUntil := some (s.now + window) }, true)

/-! ## The firmware claim -/

/-- `set_openfan_link` (health/cache.rs:828): `Connected` ends a recovery. -/
def setOpenfanLink (s : DaemonState) (link : OpenFanLink) : DaemonState :=
  { s with
    openfanLink := some link
    openfanMaintenance := match link, s.openfanMaintenance with
      | .connected, some (.needsRecovery _ _) => none
      | _, maintenance => maintenance }

/-- `try_begin_openfan_maintenance` (health/cache.rs:888). -/
def tryBeginOpenfanMaintenance (s : DaemonState) (runId firstStage : String) :
    DaemonState × Except MaintenanceRefusal Unit :=
  if s.openfanMaintenanceRunning then (s, .error .maintenanceActive)
  else if s.openfanLink ≠ some .connected then (s, .error (.linkNotReady s.openfanLink))
  else
    match s.openfanMaintenance with
    | some (.needsRecovery _ _) => (s, .error .recoveryPending)
    | _ =>
      if s.verifyInProgress then (s, .error .diagnosticActive)
      else if s.thermalOverrideState = some "emergency" then (s, .error .thermalEmergency)
      else ({ s with openfanMaintenance := some (.running runId firstStage none false) }, .ok ())

/-- `try_begin_silent_openfan_maintenance` (health/cache.rs:943): the recovery it replaces is returned. -/
def tryBeginSilentOpenfanMaintenance (s : DaemonState) (runId firstStage : String) :
    DaemonState × Except MaintenanceRefusal (Option (String × String)) :=
  if s.openfanMaintenanceRunning then (s, .error .maintenanceActive)
  else if s.openfanLink = some .connected then (s, .error .boardAnswers)
  else if s.verifyInProgress then (s, .error .diagnosticActive)
  else if s.thermalOverrideState = some "emergency" then (s, .error .thermalEmergency)
  else
    let prior := match s.openfanMaintenance with
      | some (.needsRecovery runId outcome) => some (runId, outcome)
      | _ => none
    ({ s with openfanMaintenance := some (.running runId firstStage none true) }, .ok prior)

/-- A call that changes the update of its own `run_id` and is ignored otherwise. -/
def onRun (s : DaemonState) (runId : String) (f : String → Option Nat → Bool → Option OpenFanMaintenance) :
    DaemonState × Bool :=
  match s.openfanMaintenance with
  | some (.running id stage stageDeadline writesSuspended) =>
    if id = runId then ({ s with openfanMaintenance := f stage stageDeadline writesSuspended }, true) else (s, false)
  | _ => (s, false)

/-- `suspend_openfan_writes` (health/cache.rs:982). -/
def suspendOpenfanWrites (s : DaemonState) (runId : String) : DaemonState × Bool :=
  s.onRun runId fun stage stageDeadline _ => some (.running runId stage stageDeadline true)

/-- `set_openfan_maintenance_stage` (health/cache.rs:1005). -/
def setOpenfanMaintenanceStage (s : DaemonState) (runId next : String) (deadline : Option Nat) : DaemonState × Bool :=
  s.onRun runId fun _ _ writesSuspended => some (.running runId next deadline writesSuspended)

/-- `resume_openfan_writes` (health/cache.rs:1029). -/
def resumeOpenfanWrites (s : DaemonState) (runId : String) : DaemonState × Bool :=
  s.onRun runId fun stage stageDeadline _ => some (.running runId stage stageDeadline false)

/-- `end_openfan_maintenance` (health/cache.rs:1054). -/
def endOpenfanMaintenance (s : DaemonState) (runId : String) (needsRecovery : Option String) : DaemonState :=
  (s.onRun runId fun _ _ _ => needsRecovery.map (.needsRecovery runId)).1

/-- `end_openfan_maintenance_restoring` (health/cache.rs:1092). -/
def endOpenfanMaintenanceRestoring (s : DaemonState) (runId : String) (prior : String × String) : DaemonState :=
  (s.onRun runId fun _ _ _ => some (.needsRecovery prior.1 prior.2)).1

/-- `restore_openfan_recovery` (health/cache.rs:1172). -/
def restoreOpenfanRecovery (s : DaemonState) (runId outcome : String) : DaemonState :=
  if s.openfanMaintenance.isNone then { s with openfanMaintenance := some (.needsRecovery runId outcome) } else s

/-- `record_engine_safety` (health/cache.rs:653). -/
def recordEngineSafety (s : DaemonState) (thermalState : String) : DaemonState :=
  { s with thermalOverrideState := some thermalState }

end DaemonState

/-! ## Histories -/

inductive CacheOp where
  | elapse (d : Nat)
  | tryBeginVerify (window : Nat)
  | endVerify (epoch : Nat)
  | renewVerify (epoch window : Nat)
  | setOpenfanLink (link : OpenFanLink)
  | tryBeginOpenfanMaintenance (runId firstStage : String)
  | tryBeginSilentOpenfanMaintenance (runId firstStage : String)
  | suspendOpenfanWrites (runId : String)
  | setOpenfanMaintenanceStage (runId next : String) (deadline : Option Nat)
  | resumeOpenfanWrites (runId : String)
  | endOpenfanMaintenance (runId : String) (needsRecovery : Option String)
  | endOpenfanMaintenanceRestoring (runId : String) (prior : String × String)
  | restoreOpenfanRecovery (runId outcome : String)
  | recordEngineSafety (thermalState : String)
  deriving DecidableEq, Repr

/-- The run an operation speaks for; the two claims speak for none that runs. -/
def CacheOp.runId : CacheOp → Option String
  | .suspendOpenfanWrites runId | .setOpenfanMaintenanceStage runId _ _ | .resumeOpenfanWrites runId
  | .endOpenfanMaintenance runId _ | .endOpenfanMaintenanceRestoring runId _ => some runId
  | _ => none

namespace DaemonState

def step (s : DaemonState) : CacheOp → DaemonState
  | .elapse d => { s with now := s.now + d }
  | .tryBeginVerify window => (s.tryBeginVerify window).1
  | .endVerify epoch => (s.endVerify epoch).1
  | .renewVerify epoch window => (s.renewVerify epoch window).1
  | .setOpenfanLink link => s.setOpenfanLink link
  | .tryBeginOpenfanMaintenance runId firstStage => (s.tryBeginOpenfanMaintenance runId firstStage).1
  | .tryBeginSilentOpenfanMaintenance runId firstStage => (s.tryBeginSilentOpenfanMaintenance runId firstStage).1
  | .suspendOpenfanWrites runId => (s.suspendOpenfanWrites runId).1
  | .setOpenfanMaintenanceStage runId next deadline => (s.setOpenfanMaintenanceStage runId next deadline).1
  | .resumeOpenfanWrites runId => (s.resumeOpenfanWrites runId).1
  | .endOpenfanMaintenance runId needsRecovery => s.endOpenfanMaintenance runId needsRecovery
  | .endOpenfanMaintenanceRestoring runId prior => s.endOpenfanMaintenanceRestoring runId prior
  | .restoreOpenfanRecovery runId outcome => s.restoreOpenfanRecovery runId outcome
  | .recordEngineSafety thermalState => s.recordEngineSafety thermalState

end DaemonState

end ControlOfc.Health
