import ControlOfc.Lib.Ieee
import ControlOfc.Lib.Machine
import Mathlib.Tactic.Cases
/-! # The thermal safety tick (safety.rs, profile_engine/safety_tick.rs)

Two `ThermalSafetyRule`s run side by side, one over the hottest CPU reading and one over the hottest
coolant reading. Each is a latch: only a fresh reading moves it. The CPU table adds a debounced
no-sensor floor. `safetyTick` is the engine's order of calls (profile_engine/mod.rs:1389-1409).

Readings and trip points are floating-point values, NaN and the infinities included. The blind
counter is a `u32` that counts seconds, so it is a number here.
-/
namespace ControlOfc.Thermal

/-! ## Constants (constants.rs:283-482) -/

def noSensorCycleThreshold : Nat := 5
def noSensorSafePct : Nat := 40
def thermalEmergencyTriggerC : ℚ := 105
def thermalEmergencyReleaseC : ℚ := 80
def thermalTriggerMarginC : ℚ := 5
def thermalTriggerMaxC : ℚ := 115
def coolantReleaseMarginC : ℚ := 5

/-! ## The rule -/

/-- `ThermalSafetyRule` (safety.rs:72), its log subject apart. -/
structure ThermalSafetyRule where
  triggerTempC : Ieee
  releaseTempC : Ieee
  forcedOutputPct : Nat
  active : Bool
  deriving DecidableEq, Repr

namespace ThermalSafetyRule

/-- `new` (safety.rs:83). -/
def new : ThermalSafetyRule := ⟨.fin thermalEmergencyTriggerC, .fin thermalEmergencyReleaseC, 100, false⟩

/-- `set_coolant_limit_c` (safety.rs:116): both thresholds move, the latch does not. -/
def setCoolantLimitC (r : ThermalSafetyRule) (limitC : Nat) : ThermalSafetyRule :=
  { r with triggerTempC := .fin limitC, releaseTempC := .fin limitC - .fin coolantReleaseMarginC }

/-- `coolant` (safety.rs:96). -/
def coolant (limitC : Nat) : ThermalSafetyRule := setCoolantLimitC ⟨.fin 0, .fin 0, 100, false⟩ limitC

/-- `set_trigger_temp_c` (safety.rs:191). -/
def setTriggerTempC (r : ThermalSafetyRule) (triggerC : Ieee) : ThermalSafetyRule := { r with triggerTempC := triggerC }

/-- `evaluate` (safety.rs:131): the one thing that moves the latch. -/
def evaluate (r : ThermalSafetyRule) (tctlC : Ieee) : ThermalSafetyRule × Option Nat :=
  let r' :=
    if !r.active && decide (r.triggerTempC ≤ tctlC) then { r with active := true }
    else if r.active && decide (tctlC ≤ r.releaseTempC) then { r with active := false }
    else r
  (r', if r'.active then some r'.forcedOutputPct else none)

end ThermalSafetyRule

/-! ## Readings and the trip point -/

/-- `SensorKind` (hwmon/types.rs:70). -/
inductive SensorKind where
  | cpuTemp
  | mbTemp
  | diskTemp
  | gpuTemp
  | coolantTemp
  deriving DecidableEq, Repr

/-- The fields of `CachedSensorReading` (health/state.rs:145) the trip point is derived from. -/
structure CachedSensorReading where
  kind : SensorKind
  chipName : String
  critC : Option Ieee
  deriving DecidableEq, Repr

/-- `CpuReading` (profile_engine/mod.rs:955), used for the coolant as well. -/
inductive CpuReading where
  | fresh (t : Ieee)
  | stale (t : Ieee)
  | absent
  deriving DecidableEq, Repr

/-- `is_authoritative_cpu_chip` (hwmon/classify.rs:172). -/
def isAuthoritativeCpuChip (chip : String) : Bool :=
  chip == "k10temp" || chip == "coretemp" || chip == "sbtsi" || chip == "sbtsi_temp"

/-- The trip point one sensor proposes: its finite ceiling plus the margin, capped. -/
def proposedTriggerC (s : CachedSensorReading) : Option Ieee :=
  if s.kind == .cpuTemp && isAuthoritativeCpuChip s.chipName then
    (s.critC.filter Ieee.isFinite).map fun crit =>
      (crit + .fin thermalTriggerMarginC).min (.fin thermalTriggerMaxC)
  else none

/-- `effective_trigger_c` (profile_engine/mod.rs:1074). -/
def effectiveTriggerC (sensors : List CachedSensorReading) : Ieee :=
  (sensors.filterMap proposedTriggerC).foldl Ieee.max (.fin thermalEmergencyTriggerC)

/-! ## One tick -/

/-- `thermal_state`'s three values. -/
inductive ThermalState where
  | normal
  | emergency
  | noSensorFallback
  deriving DecidableEq, Repr

/-- The wire string. -/
def ThermalState.asStr : ThermalState → String
  | .normal => "normal"
  | .emergency => "emergency"
  | .noSensorFallback => "no_sensor_fallback"

/-- `SafetyDecision` (safety_tick.rs:56). -/
structure SafetyDecision where
  thermalState : ThermalState
  forcedPct : Option Nat
  deriving DecidableEq, Repr

namespace SafetyDecision

def normal : SafetyDecision := ⟨.normal, none⟩

def emergency (r : ThermalSafetyRule) : SafetyDecision := ⟨.emergency, some r.forcedOutputPct⟩

def noSensorFallbackDecision : SafetyDecision := ⟨.noSensorFallback, some noSensorSafePct⟩

end SafetyDecision

/-- The fresh arm of both tables. -/
def freshArm (r : ThermalSafetyRule) (t : Ieee) : ThermalSafetyRule × SafetyDecision :=
  let (r', forced) := r.evaluate t
  match forced with
  | some _ => (r', .emergency r')
  | none => (r', .normal)

/-- `evaluate_safety_tick` (safety_tick.rs:100): the counter, the rule and the decision. -/
def evaluateSafetyTick (reading : CpuReading) (noCpuSensorCycles : Nat) (safety : ThermalSafetyRule) :
    Nat × ThermalSafetyRule × SafetyDecision :=
  let blindCycles := match reading with
    | .fresh _ => 0
    | .stale _ | .absent => noCpuSensorCycles + 1
  let blindForTheDebounce := decide (noSensorCycleThreshold ≤ blindCycles)
  match reading, safety.active with
  | .fresh t, _ => (blindCycles, freshArm safety t)
  | .stale _, true | .absent, true => (blindCycles, safety, .emergency safety)
  | .stale t, false =>
    -- going to the floor here would lower cooling: curves still run on the stale value
    if safety.releaseTempC ≤ t then (blindCycles, safety, .normal)
    else if blindForTheDebounce then (blindCycles, safety, .noSensorFallbackDecision)
    else (blindCycles, safety, .normal)
  | .absent, false =>
    if blindForTheDebounce then (blindCycles, safety, .noSensorFallbackDecision) else (blindCycles, safety, .normal)

/-- `evaluate_coolant_tick` (safety_tick.rs:237): no blind floor. -/
def evaluateCoolantTick (reading : CpuReading) (rule : ThermalSafetyRule) : ThermalSafetyRule × SafetyDecision :=
  match reading, rule.active with
  | .fresh t, _ => freshArm rule t
  | .stale _, true | .absent, true => (rule, .emergency rule)
  | .stale _, false | .absent, false => (rule, .normal)

/-- `EmergencyCauses` (safety_tick.rs:203). -/
structure EmergencyCauses where
  cpu : Bool
  coolant : Bool
  deriving DecidableEq, Repr

/-- `TickSafety` (safety_tick.rs:225). -/
structure TickSafety where
  decision : SafetyDecision
  causes : EmergencyCauses
  deriving DecidableEq, Repr

/-- `combine` (safety_tick.rs:260). -/
def combine (cpu coolant : SafetyDecision) : TickSafety :=
  let causes : EmergencyCauses := ⟨cpu.thermalState == .emergency, coolant.thermalState == .emergency⟩
  let forcedPct := match cpu.forcedPct, coolant.forcedPct with
    | some a, some b => some (max a b)
    | a, b => a.or b
  let thermalState := if causes.cpu || causes.coolant then .emergency else cpu.thermalState
  ⟨⟨thermalState, forcedPct⟩, causes⟩

/-! ## The ladder -/

/-- What one tick is given. -/
structure Tick where
  cpu : CpuReading
  coolant : CpuReading
  sensors : List CachedSensorReading
  coolantLimitC : Nat
  deriving DecidableEq, Repr

/-- What the engine loop keeps between ticks. -/
structure Ladder where
  safety : ThermalSafetyRule
  coolantRule : ThermalSafetyRule
  noCpuSensorCycles : Nat
  deriving DecidableEq, Repr

namespace Ladder

def start (limitC : Nat) : Ladder := ⟨.new, .coolant limitC, 0⟩

/-- One tick of the engine loop's safety leg (profile_engine/mod.rs:1389-1409). -/
def safetyTick (l : Ladder) (k : Tick) : Ladder × TickSafety :=
  let safety := l.safety.setTriggerTempC (effectiveTriggerC k.sensors)
  let (cycles, safety, cpuDecision) := evaluateSafetyTick k.cpu l.noCpuSensorCycles safety
  let coolantRule := l.coolantRule.setCoolantLimitC k.coolantLimitC
  let (coolantRule, coolantDecision) := evaluateCoolantTick k.coolant coolantRule
  (⟨safety, coolantRule, cycles⟩, combine cpuDecision coolantDecision)

def step (l : Ladder) (k : Tick) : Ladder := (l.safetyTick k).1

end Ladder

end ControlOfc.Thermal
