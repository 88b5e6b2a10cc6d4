import ControlOfc.Diagnostics.Preflight
/-! # What a diagnostic's `POST` refuses before it claims the pause slot (api/handlers)

The four handlers up to their claim of the slot: each asks the shared guards in its own order, and a refusal is
answered without touching anything.

| here | there |
| --- | --- |
| `verifyThermalGuard`, `staleTemperatureGuard` | handlers/mod.rs:1133, 1185 |
| `beginVerifyPause`, `verifySlotRefusal` | handlers/mod.rs:1050, 1065 |
| `hwmonVerifyHandler`, `hwmonCharacterizeHandler` | hwmon_ctl.rs:412, 1008 |
| `startControlPathDiscovery` | discovery.rs:356 |
| `stallProbeHandler` | stall_probe.rs:35 |
-/
namespace ControlOfc.Diagnostics.Preflight
open Config Polling Profile Text

/-! ## Refusals -/

/-- Why a diagnostic does not start. -/
inductive Refusal where
  | shuttingDown
  | notAcknowledged
  | tooHot (sensorId : String) (tempC : Ieee)
  | forcing (state : String)
  | stale (what reason : String)
  | noController
  | unknownHeader (headerId : String)
  | readOnly (headerId : String)
  | notEligible (headerId : String) (why : Ineligible) (role : HeaderRole)
  | noCpuTemperature
  | openfanMaintenance
  | slotTaken
  deriving DecidableEq, Repr

/-- An `ErrorEnvelope` under its status. -/
structure ErrorAnswer where
  status : Nat
  code : String
  message : String
  retryable : Bool
  source : String
  details : List (String × String)
  deriving DecidableEq, Repr

def validation (status : Nat) (message : String) : ErrorAnswer := ⟨status, "validation_error", message, false, "validation", []⟩

def hardwareUnavailable (message : String) : ErrorAnswer := ⟨503, "hardware_unavailable", message, true, "hardware", []⟩

def featureUnavailable (message : String) : ErrorAnswer :=
  ⟨400, "feature_unavailable", message, false, "validation", []⟩

/-- What the client is told. -/
def Refusal.answer : Refusal → ErrorAnswer
  | .shuttingDown => hardwareUnavailable "the daemon is shutting down"
  | .notAcknowledged =>
    validation 400 <|
      "the stall probe drives this header below 20% and down to 0%; send \x7b\"acknowledge_below_floor\": true\x7d " ++
        "to confirm"
  | .tooHot sensorId tempC =>
    let message :=
      s!"Cannot run a fan verify while hot: {sensorId} at {ieeeFixed1 tempC}°C (limit {limitText}°C). Let the system " ++
        "cool, then retry."
    ⟨409, "thermal_abort", message, true, "hardware", []⟩
  | .forcing state =>
    { validation 409 s!"thermal safety is forcing fan output ({state}); a fan verify cannot run" with retryable := true }
  | .stale what reason =>
    { validation 409 s!"{what} cannot run: {reason}. Retry once sensor polling recovers." with retryable := true }
  | .noController => hardwareUnavailable "no hwmon PWM headers available"
  | .unknownHeader headerId => validation 404 s!"unknown header: {headerId}"
  | .readOnly headerId =>
    featureUnavailable s!"header {headerId} is read-only; control-path discovery cannot run on it"
  | .notEligible headerId why role =>
    let message := s!"header {headerId} cannot be stall-probed: {ineligibilityDetail why}"
    let envelope := if why = .readOnly ∨ why = .noTach then featureUnavailable message else validation 400 message
    { envelope with details := [("reason", why.token), ("role", asStr role)] }
  | .noCpuTemperature =>
    { validation 400 "no fresh CPU temperature reading, so the stall probe's rise gate cannot be evaluated" with
      retryable := true
      details := [("reason", "no_cpu_temperature")] }
  | .openfanMaintenance =>
    { validation 409 "an OpenFan firmware update is running — try again once it has finished" with
      retryable := true
      details := [("reason", "openfan_maintenance")] }
  | .slotTaken => validation 409 "a hardware verify or calibration is already in progress"

/-! ## The guards -/

variable {F : Type}

def shutdownGuard (s : AppState F) : Except Refusal Unit := if s.shuttingDown then .error .shuttingDown else .ok ()

def verifyThermalGuard (s : AppState F) : Except Refusal Unit :=
  match checkThermalSafety s, thermalForceState s with
  | .error (sensorId, tempC), _ => .error (.tooHot sensorId tempC)
  | .ok (), some state => .error (.forcing state)
  | .ok (), none => .ok ()

/-- `temperature_refusal` (calibration.rs:624). -/
def temperatureRefusal (s : AppState F) : Option String :=
  let freshness := cacheTemperatureFreshness s
  if freshness.isUsable then none
  else if freshness.total = 0 then
    some "no temperature readings are available, so the thermal guards cannot be evaluated"
  else
    match freshness.newestAgeMs with
    | some age =>
      some (s!"every temperature reading is stale — freshest is {age} ms old, limit " ++
        s!"{asMillis (diagnosticTempMaxAge s)} ms; the thermal guards cannot be evaluated")
    | none => some "every temperature reading is stale, so the thermal guards cannot be evaluated"

/-- `stale_temperature_refusal` (calibration.rs:610). -/
def staleTemperatureRefusal (s : AppState F) (diagnostic : Diagnostic) : Option String :=
  if !diagnostic.blocksOnStaleTemperature then none else temperatureRefusal s

def staleTemperatureGuard (s : AppState F) (diagnostic : Diagnostic) (what : String) : Except Refusal Unit :=
  match staleTemperatureRefusal s diagnostic with
  | some reason => .error (.stale what reason)
  | none => .ok ()

def controllerGuard (s : AppState F) : Except Refusal (KMap String PwmHeader) :=
  match s.hwmonController with
  | some controller => .ok controller
  | none => .error .noController

def headerGuard (controller : KMap String PwmHeader) (headerId : String) : Except Refusal PwmHeader :=
  match controller.get? headerId with
  | some h => .ok h
  | none => .error (.unknownHeader headerId)

/-- `VERIFY_PAUSE_DEADMAN`. -/
def verifyPauseDeadman : Nat := 30 * 1000000000

def verifySlotRefusal (s : AppState F) : Refusal :=
  if s.cache.openfanMaintenanceRunning then .openfanMaintenance else .slotTaken

/-- The cache with the slot claimed, and the epoch of the claim. -/
def beginVerifyPause (s : AppState F) : Except Refusal (Health.DaemonState × Nat) :=
  match s.cache.tryBeginVerify verifyPauseDeadman with
  | (cache, some epoch) => .ok (cache, epoch)
  | (_, none) => .error (verifySlotRefusal s)

/-! ## The handlers -/

def hwmonVerifyHandler (s : AppState F) (headerId : String) : Except Refusal (Health.DaemonState × Nat) := do
  shutdownGuard s
  verifyThermalGuard s
  staleTemperatureGuard s .verify "a fan verify"
  let controller ← controllerGuard s
  let _ ← headerGuard controller headerId
  beginVerifyPause s

def hwmonCharacterizeHandler (s : AppState F) (headerId : String) : Except Refusal (Health.DaemonState × Nat) := do
  shutdownGuard s
  verifyThermalGuard s
  staleTemperatureGuard s .characterization "PWM characterisation"
  let controller ← controllerGuard s
  let _ ← headerGuard controller headerId
  beginVerifyPause s

/-- The scan for monitor-only tachs in between fails without a refusal. -/
def startControlPathDiscovery (s : AppState F) (headerId : String) : Except Refusal (Health.DaemonState × Nat) := do
  shutdownGuard s
  verifyThermalGuard s
  staleTemperatureGuard s .controlPathDiscovery "control-path discovery"
  let controller ← controllerGuard s
  let target ← headerGuard controller headerId
  if !target.isWritable then throw (.readOnly headerId)
  beginVerifyPause s

def stallProbeHandler (s : AppState F) (headerId : String) (acknowledgeBelowFloor : Option Bool) :
    Except Refusal (Health.DaemonState × Nat) := do
  shutdownGuard s
  if acknowledgeBelowFloor ≠ some true then throw .notAcknowledged
  verifyThermalGuard s
  staleTemperatureGuard s .stallProbe "the stall probe"
  let controller ← controllerGuard s
  let h ← headerGuard controller headerId
  let pumpProtected := s.headerIsPumpProtected headerId
  let role := s.resolvedHeaderRole headerId
  if let some why := ineligibility role pumpProtected h.isWritable h.rpmPath.isSome then
    throw (.notEligible headerId why role)
  if (hottestFreshCpuC s).isNone then throw .noCpuTemperature
  beginVerifyPause s

/-- The `POST` of a diagnostic, the stall probe's with its acknowledgement. -/
def start (s : AppState F) (headerId : String) : Diagnostic → Except Refusal (Health.DaemonState × Nat)
  | .verify => hwmonVerifyHandler s headerId
  | .characterization => hwmonCharacterizeHandler s headerId
  | .controlPathDiscovery => startControlPathDiscovery s headerId
  | .stallProbe => stallProbeHandler s headerId (some true)

/-- The check of the report that stands for a refusal. -/
def Refusal.check : Refusal → Option CheckId
  | .shuttingDown | .notAcknowledged => none
  | .tooHot _ _ | .forcing _ => some .thermal
  | .stale _ _ => some .temperature
  | .noController | .unknownHeader _ => some .target
  | .readOnly _ => some .writable
  | .notEligible _ _ _ | .noCpuTemperature => some .stallProbeEligible
  | .openfanMaintenance | .slotTaken => some .ownership

end ControlOfc.Diagnostics.Preflight
