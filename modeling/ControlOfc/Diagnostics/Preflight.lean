import ControlOfc.Config.CoolingDevice
import ControlOfc.Diagnostics.HeaderVerify
import ControlOfc.Health.StateCache
import ControlOfc.Lib.Decimal
import ControlOfc.Override.Handlers
import ControlOfc.Polling.Loop
/-! # The preflight of a diagnostic (api/preflight.rs, api/handlers/discovery.rs:108-290)

One request reads the state the daemon is in at that instant and publishes what would keep the diagnostic from
starting. The state has every fact the report or a diagnostic's `POST` reads before the pause slot is claimed.

| here | there |
| --- | --- |
| `checkThermalSafety`, `thermalForceState` | calibration.rs:456, 486 |
| `cacheTemperatureFreshness`, `temperatureFreshness` | calibration.rs:516, preflight.rs:363 |
| `headerRoleParts`, `headerIsPumpProtected` | handlers/mod.rs:884, 981 |
| `ineligibility`, `hottestFreshCpuC` | stall_probe.rs:371, 428 |
| `observeSibling`, `supportingCooling` | discovery.rs:203, 267 |
| `gatherPreflight`, `buildReport` | discovery.rs:112, preflight.rs:405 |
-/
namespace ControlOfc.Diagnostics.Preflight
open Config Polling Profile Text

/-! ## Vocabulary -/

/-- `Diagnostic` (preflight.rs:107). -/
inductive Diagnostic where
  | verify
  | characterization
  | controlPathDiscovery
  | stallProbe
  deriving DecidableEq, Repr

def Diagnostic.token : Diagnostic → String
  | .verify => "pwm_verify"
  | .characterization => "pwm_characterization"
  | .controlPathDiscovery => "control_path_discovery"
  | .stallProbe => "pwm_stall_probe"

def Diagnostic.blocksOnStaleTemperature : Diagnostic → Bool
  | .verify | .characterization | .controlPathDiscovery | .stallProbe => true

/-- The `CHECK_*` ids (preflight.rs:89). -/
inductive CheckId where
  | target
  | role
  | writable
  | readback
  | ownership
  | safeMinimum
  | temperature
  | thermal
  | reclaim
  | originalState
  | supporting
  | stallProbeEligible
  deriving DecidableEq, Repr

def CheckId.token : CheckId → String
  | .target => "target_discoverable"
  | .role => "header_role"
  | .writable => "pwm_writable"
  | .readback => "pwm_readback"
  | .ownership => "control_ownership"
  | .safeMinimum => "safe_minimum"
  | .temperature => "temperature_source"
  | .thermal => "thermal_state"
  | .reclaim => "reclaim_state"
  | .originalState => "original_state"
  | .supporting => "supporting_cooling"
  | .stallProbeEligible => "stall_probe_eligible"

/-- The states of a check (preflight.rs:77). -/
inductive CheckState where
  | pass
  | warn
  | fail
  | unknown
  | notApplicable
  deriving DecidableEq, Repr

/-- `VERDICT_*` (preflight.rs:84). -/
inductive Verdict where
  | ready
  | warn
  | blocked
  deriving DecidableEq, Repr

structure PreflightCheck where
  checkId : CheckId
  state : CheckState
  detail : String
  deriving DecidableEq, Repr

structure PreflightReport where
  headerId : String
  diagnostic : Diagnostic
  verdict : Verdict
  checks : List PreflightCheck
  blocking : List CheckId
  deriving DecidableEq, Repr

/-! ## The state of the daemon -/

/-- What is read of a `PwmHeaderDescriptor`. -/
structure PwmHeader where
  pwmPath : String
  enablePath : Option String
  rpmPath : Option String
  isWritable : Bool
  role : HeaderRole
  roleSource : RoleSource
  pwmMode : Option Nat

structure OpenFanState where
  rpm : Nat
  rpmPolled : Bool

structure HwmonFanState where
  rpm : Option Nat
  pwmReadbackPct : Option Nat

structure AmdGpuFanState where
  rpm : Option Nat
  dutyPct : Option Nat

/-- What the daemon knows at one instant, which is the cache's. -/
structure AppState (F : Type) where
  shuttingDown : Bool
  cache : Health.DaemonState
  hwmonPollIntervalMs : Nat
  sensors : List CachedSensorReading
  openfanFans : KMap Nat OpenFanState
  hwmonFans : KMap String HwmonFanState
  gpuFans : KMap String AmdGpuFanState
  /-- The headers by id, where there is a controller. -/
  hwmonController : Option (KMap String PwmHeader)
  /-- What the files at the paths of a header show. -/
  files : PwmHeader → Verify.HeaderFiles
  headerRoles : KMap String HeaderRole
  activeProfile : Option (DaemonProfile F)
  coolingDevices : List CoolingDevice

variable {F : Type}

namespace AppState

/-- `HwmonHandle::header`. -/
def header (s : AppState F) (headerId : String) : Option PwmHeader := s.hwmonController.bind (·.get? headerId)

def headerRoleParts (s : AppState F) (headerId : String) : Option HeaderRole × (HeaderRole × RoleSource) :=
  let assigned := s.headerRoles.get? (roleKey headerId)
  match openfanChannelOf headerId with
  | .ok _ => (assigned, (.unknown, .none))
  | .error _ => (assigned, ((s.header headerId).map fun h => (h.role, h.roleSource)).getD (.unknown, .none))

def resolvedHeaderRole (s : AppState F) (headerId : String) : HeaderRole :=
  (resolveRole (s.headerRoleParts headerId).1 (s.headerRoleParts headerId).2).1

/-- `profile_pump_header_ids`, as a membership test. -/
def profilePumpHeaderIds (s : AppState F) (headerId : String) : Bool :=
  s.activeProfile.any fun p => Override.pumpHeaderIds p headerId

def headerIsPumpProtected (s : AppState F) (headerId : String) : Bool :=
  isPumpProtected (s.headerRoleParts headerId).1 (s.headerRoleParts headerId).2 (s.profilePumpHeaderIds headerId)

/-- `pump_floor_duty` (handlers/mod.rs:995) of the header's mode. -/
def headerPumpFloorPct (s : AppState F) (headerId : String) : Nat :=
  ⌊pumpFloorPct ((s.header headerId).bind (·.pwmMode))⌋.toNat

end AppState

/-! ## Temperatures -/

/-- `CALIBRATION_MAX_TEMP_C`. -/
def calibrationMaxTempC : ℚ := 85

/-- A sensor over the limit: its id and its value. -/
def checkThermalSafety (s : AppState F) : Except (String × Ieee) Unit :=
  match s.sensors.find? fun sensor => Ieee.fin calibrationMaxTempC < sensor.valueC with
  | some sensor => .error (sensor.id, sensor.valueC)
  | none => .ok ()

def thermalForceState (s : AppState F) : Option String := s.cache.thermalOverrideState.filter (· ≠ "normal")

structure TemperatureFreshness where
  total : Nat
  fresh : Nat
  newestAgeMs : Option Nat
  newestId : Option String
  maxAgeMs : Nat
  deriving DecidableEq, Repr

def TemperatureFreshness.isUsable (t : TemperatureFreshness) : Bool := 0 < t.fresh

/-- `as_millis() as u64`. -/
def asMillis (duration : Nat) : Nat := duration / 1000000 % 2 ^ 64

/-- One round of the loop: the readings that are fresh, and the newest with its age. -/
def noteReading (maxAge now : Nat) (seen : Nat × Option (String × Nat)) (reading : String × Nat) :
    Nat × Option (String × Nat) :=
  let age := now - reading.2
  (if age ≤ maxAge then seen.1 + 1 else seen.1,
    if seen.2.all (age < ·.2) then some (reading.1, age) else seen.2)

def temperatureFreshness (readings : List (String × Nat)) (maxAge now : Nat) : TemperatureFreshness :=
  let seen := readings.foldl (noteReading maxAge now) (0, none)
  { total := readings.length
    fresh := seen.1
    newestAgeMs := seen.2.map fun newest => asMillis newest.2
    newestId := seen.2.map (·.1)
    maxAgeMs := asMillis maxAge }

def diagnosticTempMaxAge (s : AppState F) : Nat := cpuTempStaleAfter s.hwmonPollIntervalMs

/-- Every temperature there is, where no sensor is a CPU's. -/
def cacheTemperatureFreshness (s : AppState F) : TemperatureFreshness :=
  let cpu := (s.sensors.filter isCpu).map fun sensor => (sensor.id, sensor.updatedAt)
  let readings := if cpu.isEmpty then s.sensors.map fun sensor => (sensor.id, sensor.updatedAt) else cpu
  temperatureFreshness readings (diagnosticTempMaxAge s) s.cache.now

def hottestFreshCpuC (s : AppState F) : Option Ieee :=
  match hottestCpuReading s.sensors s.cache.now (cpuTempStaleAfter s.hwmonPollIntervalMs) with
  | .fresh t => some t
  | _ => none

/-! ## The stall probe's envelope -/

/-- The `INELIGIBLE_*` tokens (stall_probe.rs:116). -/
inductive Ineligible where
  | pumpProtected
  | cpuFan
  | roleUnknown
  | readOnly
  | noTach
  | noFan
  deriving DecidableEq, Repr

def Ineligible.token : Ineligible → String
  | .pumpProtected => "pump_protected"
  | .cpuFan => "cpu_fan"
  | .roleUnknown => "role_unknown"
  | .readOnly => "read_only"
  | .noTach => "no_tach"
  | .noFan => "no_fan"

def ineligibility (role : HeaderRole) (pumpProtected writable hasTach : Bool) : Option Ineligible :=
  if pumpProtected then some .pumpProtected
  else if !writable then some .readOnly
  else if !hasTach then some .noTach
  else
    match role with
    | .chassisFan | .radiatorFan => none
    | .cpuFan => some .cpuFan
    | .pump => some .pumpProtected
    | .unknown => some .roleUnknown
    | .noFan => some .noFan

def ineligibilityDetail : Ineligible → String
  | .pumpProtected => "this header is pump-protected, and a pump is never driven below its floor"
  | .cpuFan => "this header's role is cpu_fan, which the stall probe never tests"
  | .roleUnknown => "this header's role is unknown; assign chassis_fan or radiator_fan to probe it"
  | .readOnly => "this header is read-only"
  | .noTach => "this header has no tach, so a stall cannot be seen"
  | .noFan => "this header's role is no_fan: nothing is plugged into it"

/-! ## The cooling that keeps running -/

inductive SiblingObservation where
  | running
  | stopped
  | unknown
  deriving DecidableEq, Repr

/-- The tach wins wherever there is one. -/
def classifySibling (rpm dutyReadbackPct : Option Nat) : SiblingObservation :=
  match rpm, dutyReadbackPct with
  | some r, _ => if 0 < r then .running else .stopped
  | none, some p => if 0 < p then .running else .stopped
  | none, none => .unknown

def observeSibling (s : AppState F) (member : String) : SiblingObservation :=
  match openfanChannelOf member with
  | .ok channel =>
    match s.openfanFans.get? channel with
    | some f => if f.rpmPolled then classifySibling (some f.rpm) none else .unknown
    | none => .unknown
  | .error _ =>
    match s.hwmonFans.get? member with
    | some f => classifySibling f.rpm f.pwmReadbackPct
    | none =>
      match s.gpuFans.get? member with
      | some g => classifySibling g.rpm g.dutyPct
      | none => .unknown

structure SupportingCooling where
  applicable : Bool := false
  deviceId : Option String := none
  siblings : Nat := 0
  siblingsRunning : Nat := 0
  siblingsUnknown : Nat := 0
  deriving DecidableEq, Repr

def supportingCooling (s : AppState F) (headerId : String) : SupportingCooling :=
  match s.coolingDevices.find? fun d => d.allMembers.contains headerId with
  | none => {}
  | some device =>
    let siblings := device.allMembers.filter (· ≠ headerId)
    let observed := siblings.map (observeSibling s)
    { applicable := true
      deviceId := some device.id
      siblings := siblings.length
      siblingsRunning := observed.count .running
      siblingsUnknown := observed.count .unknown }

/-! ## What the report is built from -/

structure PreflightInputs where
  headerId : String
  diagnostic : Diagnostic
  headerKnown : Bool
  isWritable : Bool
  readbackPct : Option Nat
  pwmEnable : Option Nat
  role : String
  pumpProtected : Bool
  effectiveFloorPct : Nat
  slotBusy : Bool
  enableRevertCount : Nat
  temperature : TemperatureFreshness
  thermalForcing : Option String
  tooHot : Option (String × Ieee)
  supporting : SupportingCooling
  stallProbeIneligible : Option Ineligible
  cpuTemperatureFresh : Bool

/-- `read_header_state` at the paths of a header. -/
def liveState (s : AppState F) (h : PwmHeader) : Verify.HwmonVerifyState :=
  let files := s.files h
  Verify.readHeaderState
    { pwm := files.pwm
      enable := h.enablePath.bind fun _ => files.enable
      rpm := h.rpmPath.bind fun _ => files.rpm }

def gatherPreflight (s : AppState F) (headerId : String) (diagnostic : Diagnostic) (enableRevertCount : Nat) :
    PreflightInputs :=
  let pumpProtected := s.headerIsPumpProtected headerId
  let resolvedRole := s.resolvedHeaderRole headerId
  let header := s.header headerId
  let headerKnown := header.isSome
  let isWritable := header.any (·.isWritable)
  let hasTach := header.any (·.rpmPath.isSome)
  let live := header.map (liveState s)
  { headerId := headerId
    diagnostic := diagnostic
    headerKnown := headerKnown
    isWritable := isWritable
    readbackPct := live.bind (·.pwmPercent)
    pwmEnable := live.bind (·.pwmEnable)
    role := asStr resolvedRole
    pumpProtected := pumpProtected
    effectiveFloorPct := if pumpProtected then s.headerPumpFloorPct headerId else 0
    slotBusy := s.cache.verifyActive || s.cache.openfanMaintenanceRunning
    enableRevertCount := enableRevertCount
    temperature := cacheTemperatureFreshness s
    thermalForcing := thermalForceState s
    tooHot := match checkThermalSafety s with
      | .error hot => some hot
      | .ok () => none
    supporting := supportingCooling s headerId
    stallProbeIneligible :=
      if diagnostic = .stallProbe ∧ headerKnown then ineligibility resolvedRole pumpProtected isWritable hasTach
      else none
    cpuTemperatureFresh := (hottestFreshCpuC s).isSome }

/-! ## The rows of the report -/

def targetCheck (inputs : PreflightInputs) : PreflightCheck :=
  if inputs.headerKnown then ⟨.target, .pass, "Header found in discovery"⟩
  else ⟨.target, .fail, s!"No header '{inputs.headerId}' in the current scan"⟩

def roleCheck (inputs : PreflightInputs) : PreflightCheck :=
  if inputs.pumpProtected then
    ⟨.role, .pass,
      s!"Role '{inputs.role}' — pump-protected: never stopped, never driven below {inputs.effectiveFloorPct}%"⟩
  else ⟨.role, .pass, s!"Role '{inputs.role}' — not pump-protected"⟩

def writableCheck (inputs : PreflightInputs) : PreflightCheck :=
  if inputs.isWritable then ⟨.writable, .pass, "PWM is writable"⟩
  else ⟨.writable, .fail, "This header is read-only; an active diagnostic cannot run on it"⟩

def readbackCheck (inputs : PreflightInputs) : PreflightCheck :=
  match inputs.readbackPct with
  | some pct => ⟨.readback, .pass, s!"Reads back {pct}%"⟩
  | none => ⟨.readback, .warn, "PWM readback unavailable — command acceptance cannot be confirmed"⟩

def ownershipCheck (inputs : PreflightInputs) : PreflightCheck :=
  if inputs.slotBusy then ⟨.ownership, .fail, "Another hardware diagnostic is already running"⟩
  else ⟨.ownership, .pass, "Control can be taken — no diagnostic in progress"⟩

/-- `STALL_PROBE_START_PCT`, `STALL_PROBE_KICK_PCT`, `DISCOVERY_MIN_PCT`. -/
def stallProbeStartPct : Nat := 20
def stallProbeKickPct : Nat := 100
def discoveryMinPct : Nat := 20

def safeMinimumCheck (inputs : PreflightInputs) : PreflightCheck :=
  if inputs.diagnostic = .stallProbe then
    ⟨.safeMinimum, .pass,
      s!"Descends from {stallProbeStartPct}% to 0% by design, then back up to {stallProbeStartPct}%; any abort " ++
        s!"ends with a {stallProbeKickPct}% recovery kick"⟩
  else ⟨.safeMinimum, .pass, s!"Commands clamped to {max inputs.effectiveFloorPct discoveryMinPct}%–100%"⟩

/-- The state of a temperature row that does not pass. -/
def staleState (diagnostic : Diagnostic) : CheckState :=
  if diagnostic.blocksOnStaleTemperature then .fail else .warn

def temperatureCheck (inputs : PreflightInputs) : PreflightCheck :=
  let t := inputs.temperature
  if t.total = 0 then ⟨.temperature, staleState inputs.diagnostic, "No temperature sensors are available"⟩
  else if t.isUsable then
    ⟨.temperature, .pass,
      match t.newestId, t.newestAgeMs with
      | some id, some age => s!"{id} · {age} ms old"
      | _, _ => s!"{t.fresh} fresh reading(s)"⟩
  else
    ⟨.temperature, staleState inputs.diagnostic,
      match t.newestAgeMs with
      | some age => s!"Every temperature reading is stale — freshest is {age} ms old, limit {t.maxAgeMs} ms"
      | none => "Every temperature reading is stale"⟩

/-- `{:.0}` of the diagnostic limit. -/
def limitText : String := fixed0 calibrationMaxTempC

def thermalCheck (inputs : PreflightInputs) : PreflightCheck :=
  match inputs.thermalForcing, inputs.tooHot with
  | some state, _ => ⟨.thermal, .fail, s!"Thermal safety is forcing fan output ({state})"⟩
  | none, some (sensor, temp) =>
    ⟨.thermal, .fail, s!"{sensor} at {ieeeFixed1 temp}°C exceeds the {limitText}°C diagnostic limit"⟩
  | none, none => ⟨.thermal, .pass, "No thermal failsafe active"⟩

def reclaimCheck (inputs : PreflightInputs) : PreflightCheck :=
  match inputs.pwmEnable.filter (· ≠ 1) with
  | some mode =>
    ⟨.reclaim, .warn, s!"pwm_enable is {mode} — another controller currently holds this header"⟩
  | none =>
    if inputs.enableRevertCount = 0 then ⟨.reclaim, .pass, "No reclaim detected"⟩
    else
      ⟨.reclaim, .warn,
        s!"This header has been reclaimed by BIOS/EC {inputs.enableRevertCount} time(s) since boot"⟩

def originalStateCheck (inputs : PreflightInputs) : PreflightCheck :=
  match inputs.readbackPct with
  | some pct => ⟨.originalState, .pass, s!"Captured {pct}% to restore on exit"⟩
  | none => ⟨.originalState, .warn, "The pre-test duty could not be read — this header cannot be put back"⟩

def supportingCheck (inputs : PreflightInputs) : PreflightCheck :=
  let c := inputs.supporting
  if !c.applicable then
    ⟨.supporting, .notApplicable, "This header is not part of a configured cooling device"⟩
  else if c.siblings = 0 then ⟨.supporting, .notApplicable, "This cooling device has no other members"⟩
  else if 0 < c.siblingsRunning then
    ⟨.supporting, .pass,
      s!"{c.siblingsRunning} of {c.siblings} sibling member(s) running and held at their current duty for the test"⟩
  else if c.siblingsUnknown = c.siblings then
    ⟨.supporting, .unknown, "No sibling member's state could be read"⟩
  else
    ⟨.supporting, .warn,
      s!"No sibling member of this cooling device is observably running ({c.siblingsUnknown} of {c.siblings} unreadable)"⟩

/-- For the stall probe only. -/
def stallProbeCheck (inputs : PreflightInputs) : PreflightCheck :=
  if !inputs.headerKnown then
    ⟨.stallProbeEligible, .notApplicable, "No header to assess — see target_discoverable"⟩
  else
    match inputs.stallProbeIneligible, inputs.cpuTemperatureFresh with
    | some why, _ => ⟨.stallProbeEligible, .fail, s!"Not eligible ({why.token}): {ineligibilityDetail why}"⟩
    | none, false =>
      ⟨.stallProbeEligible, .fail, "No fresh CPU temperature, so the probe's rise gate cannot be evaluated"⟩
    | none, true =>
      ⟨.stallProbeEligible, .pass, "Eligible: a chassis or radiator fan, not pump-protected, with a tach"⟩

/-! ## The report -/

def checksOf (inputs : PreflightInputs) : List PreflightCheck :=
  [targetCheck inputs, roleCheck inputs, writableCheck inputs, readbackCheck inputs, ownershipCheck inputs,
    safeMinimumCheck inputs, temperatureCheck inputs, thermalCheck inputs, reclaimCheck inputs,
    originalStateCheck inputs, supportingCheck inputs] ++
    if inputs.diagnostic = .stallProbe then [stallProbeCheck inputs] else []

def verdictFor (checks : List PreflightCheck) : Verdict :=
  if checks.any (·.state = .fail) then .blocked else if checks.any (·.state = .warn) then .warn else .ready

def buildReport (inputs : PreflightInputs) : PreflightReport :=
  let checks := checksOf inputs
  { headerId := inputs.headerId
    diagnostic := inputs.diagnostic
    verdict := verdictFor checks
    checks := checks
    blocking := (checks.filter (·.state = .fail)).map (·.checkId) }

end ControlOfc.Diagnostics.Preflight
