import ControlOfc.Diagnostics.Sweep
import ControlOfc.Lib.Decimal
import ControlOfc.Pwm
/-! # The OpenFan calibration (api/calibration.rs:400-440, 640-1300)

A descent finds the duty a fan stops at, an ascent from there the duty it starts at again. Every hold is gated on
every sample. What ends early and may have left the fan stopped is followed by a kick at 100 %, and every run by the
restore. Times are in nanoseconds; log lines are left out.

| here | there |
| --- | --- |
| `descentDuties`, `ascentDuties` | calibration.rs:653-684 |
| `Stop`, `Verdict`, `verdict` | calibration.rs:714-756 |
| `CalProgress`, `Walk` | calibration.rs:689-705, 774-803 |
| `gate`, `refreshPumpSeen` | calibration.rs:813-887 |
| `step`, `holdPass`, `push` | calibration.rs:901-1003 |
| `search`, `walk`, `kick`, `kickOwed`, `restore` | calibration.rs:1007-1142 |
| `runCalibration` | calibration.rs:1187-1295 |
-/
namespace ControlOfc.Diagnostics.Calibration
open Asking

/-! ## Constants and duties -/

/-- `OPENFAN_CAL_COARSE_STEP_PCT`. -/
def coarseStepPct : Nat := 10

/-- `OPENFAN_CAL_FINE_BELOW_PCT`. -/
def fineBelowPct : Nat := 30

/-- `OPENFAN_CAL_FINE_STEP_PCT`. -/
def fineStepPct : Nat := 2

/-- `OPENFAN_CAL_CONFIRM_SAMPLES`. -/
def confirmSamples : Nat := 3

/-- `OPENFAN_CAL_SAMPLE_INTERVAL`. -/
def sampleEvery : Nat := 500000000

/-- `OPENFAN_CAL_KICK_MAX`. -/
def kickMax : Nat := 10000000000

/-- `STALL_PROBE_RISE_LIMIT_C`. -/
def riseLimitC : Ieee := .fin 5

/-- The two loops of `descent_duties`: coarse above the fine band, then fine to the standstill. -/
def descentFrom : Nat → Nat → List Nat
  | 0, _ => []
  | fuel + 1, pct =>
    if fineBelowPct < pct then pct :: descentFrom fuel (pct - coarseStepPct)
    else if pct = 0 then [0]
    else pct :: descentFrom fuel (pct - fineStepPct)

/-- `descent_duties`. -/
def descentDuties : List Nat := descentFrom 101 100

/-- `ascent_duties`. -/
def ascentDuties (stallPct : Nat) : List Nat :=
  let top := max fineBelowPct (min (min (stallPct + coarseStepPct) 255) 100)
  (descentDuties.filter fun d => stallPct < d ∧ d ≤ top).reverse

/-- `min_hold`. -/
def minHold (pollInterval : Nat) : Nat := pollInterval * (confirmSamples + 1)

/-- `pump_floor_duty`. -/
def pumpFloorDuty : Nat := hardPumpFloor

/-! ## Verdicts -/

inductive Verdict where
  | spinning
  | stopped
  | unconfirmed
  deriving DecidableEq, Repr

/-- `verdict`: of the last fresh samples. -/
def verdict (fresh : List Nat) : Verdict :=
  if fresh.length < confirmSamples then .unconfirmed
  else
    let last := fresh.drop (fresh.length - confirmSamples)
    if last.all (· == 0) then .stopped
    else if last.all (0 < ·) then .spinning
    else .unconfirmed

/-! ## What a run keeps -/

inductive CalPhase where
  | descent
  | ascent
  | kick
  | restore
  deriving DecidableEq, Repr

inductive Observation where
  | held (v : Verdict)
  | interrupted
  deriving DecidableEq, Repr

/-- `CalPoint`. -/
structure CalPoint where
  pwmPercent : Nat
  rpm : Nat
  phase : CalPhase
  observation : Observation
  deriving DecidableEq, Repr

inductive CalOutcome where
  | stallAndRestartFound
  | noStallDownTo0
  | didNotRestart
  | noFanDetected
  | aborted
  | cancelled
  deriving DecidableEq, Repr

/-- The `ABORT_*` tokens and the thermal ones. -/
inductive AbortReason where
  | shuttingDown
  | superseded
  | thermalRise
  | noCpuTemperature
  | writeFailed
  | rpmUnreadable
  | pumpProtected
  | thermal (which : ThermalRefusal)
  deriving DecidableEq, Repr

inductive CalRestore where
  | pending
  | notNeeded
  | fullSpeed
  | restored
  | writeFailed
  | skippedThermalForce
  deriving DecidableEq, Repr

/-- `CalProgress`. -/
structure CalProgress where
  /-- `none` while running. -/
  state : Option EndState := none
  phase : Option CalPhase := none
  currentPct : Option Nat := none
  outcome : Option CalOutcome := none
  abortReason : Option AbortReason := none
  detail : Option String := none
  stallDutyPct : Option Nat := none
  restartDutyPct : Option Nat := none
  restartFailedAtFull : Bool := false
  maxCpuTempC : Option Ieee
  points : List CalPoint := []
  originalPct : Option Nat
  restoreOutcome : CalRestore := .pending
  restoreFailed : Bool := false
  deriving DecidableEq, Repr

/-- `Walk`, and the part of `RestoreBackstop` that changes. -/
structure Walk where
  p : CalProgress
  touched : Bool := false
  lowest : Option Nat := none
  lastVerdict : Option Verdict := none
  armed : Bool := false
  target : Nat
  restoreFullSpeed : Bool := false
  pumpSeen : Bool := false
  deriving DecidableEq, Repr

/-- What the run is started with. -/
structure CalArgs where
  channel : Nat
  hold : Nat
  original : Option Nat
  startCpuC : Ieee

/-! ## What a run asks -/

inductive CalQuestion where
  | write (pct : Nat)
  | shuttingDown
  | cancel
  | pumpProtected
  | checkThermalSafety
  | thermalForceState
  | temperatureRefusal
  | hottestFreshCpu
  | keepalive
  /-- `openfan_polls_started`. -/
  | pollsStarted
  /-- `rpm_reading`: the cached RPM, and the poll that read it. -/
  | rpmReading
  | pollInterval
  | now
  | sleep (duration : Nat)
  | publish (p : CalProgress)

abbrev CalAnswer : CalQuestion → Type
  | .write _ => Except String Unit
  | .shuttingDown | .cancel | .pumpProtected | .keepalive => Bool
  | .checkThermalSafety | .thermalForceState | .temperatureRefusal => Option String
  | .hottestFreshCpu => Option Ieee
  | .rpmReading => Option (Nat × Nat)
  | .pollsStarted | .pollInterval | .now => Nat
  | .sleep _ | .publish _ => Unit

abbrev CalRun := Asking CalQuestion CalAnswer Walk

abbrev CalEvent := Σ q : CalQuestion, CalAnswer q

inductive Stop where
  | shuttingDown
  | cancelled
  | abort (token : AbortReason) (detail : String)
  deriving DecidableEq, Repr

abbrev Walking := Act CalRun (Left Stop)

open CalQuestion

variable {ε : Type}

/-! ## The gate -/

/-- A pump raises what the backstop would write. -/
def floorBackstop : Act CalRun ε Bool := do
  modify fun w => if w.pumpSeen then { w with target := max w.target pumpFloorDuty } else w
  return (← get).pumpSeen

/-- `refresh_pump_seen`: the union is read until it answers yes, and not once the daemon is shutting down. -/
def refreshPumpSeen : Act CalRun ε Bool := do
  if !(← get).pumpSeen then
    if !(← ask shuttingDown) then
      if ← ask pumpProtected then
        modify fun w => { w with pumpSeen := true }
  floorBackstop

/-- `gate`: every gate, in order. -/
def gate (args : CalArgs) : Act CalRun ε (Except Stop Unit) := do
  if ← ask shuttingDown then
    return .error .shuttingDown
  if ← ask cancel then
    return .error .cancelled
  if ← refreshPumpSeen then
    return .error (.abort .pumpProtected
      "this channel was assigned the pump role; a pump is never walked toward 0%")
  if let some e ← ask checkThermalSafety then
    return .error (.abort (.thermal .tooHot) e)
  if let some state ← ask thermalForceState then
    return .error (.abort (.thermal .forcing)
      s!"thermal safety is forcing fan output ({state}); calibration cannot write")
  if let some reason ← ask temperatureRefusal then
    return .error (.abort (.thermal .stale) s!"calibration cannot write: {reason}")
  match ← ask hottestFreshCpu with
  | none => return .error (.abort .noCpuTemperature
      "no fresh CPU temperature reading, so the rise gate cannot be evaluated")
  | some nowC =>
    modify fun w => { w with p := { w.p with maxCpuTempC := some (w.p.maxCpuTempC.elim nowC (·.max nowC)) } }
    if args.startCpuC + riseLimitC < nowC then
      return .error (.abort .thermalRise
        s!"the hottest CPU reading rose from {Text.ieeeFixed1 args.startCpuC}°C to {Text.ieeeFixed1 nowC}°C, more than the 5°C calibration allows")
    if !(← ask keepalive) then
      return .error (.abort .superseded
        "superseded by a later diagnostic; the engine pause is no longer this run's")
    return .ok ()

/-! ## One hold -/

def setPhase (phase : CalPhase) (pct : Option Nat) : Act CalRun ε Unit := do
  modify fun w => { w with p := { w.p with phase := some phase, currentPct := pct.orElse fun _ => w.p.currentPct } }
  ask (publish (← get).p)

def push (point : CalPoint) : Act CalRun ε Unit := do
  modify fun w => { w with p := { w.p with points := w.p.points ++ [point] } }
  ask (publish (← get).p)

/-- What is checked on a sample: the kick stops on shutdown only. -/
def checked (args : CalArgs) (gated : Bool) : Act CalRun ε (Except Stop Unit) := do
  if gated then
    gate args
  else if ← ask shuttingDown then
    return .error .shuttingDown
  else
    let _ ← ask keepalive
    return .ok ()

/-- What a hold has heard: its fresh samples, and the last poll it counted. -/
structure Held where
  fresh : List Nat := []
  lastPoll : Nat
  deriving DecidableEq, Repr

/-- A poll counts once, and only if it started after the write returned. -/
def Held.sample (h : Held) : Option (Nat × Nat) → Held
  | some (rpm, poll) => if h.lastPoll < poll then ⟨h.fresh ++ [rpm], poll⟩ else h
  | none => h

/-- One pass of the hold's loop: it goes on, or ends with what stopped it. -/
def holdPass (args : CalArgs) (gated untilSpinning : Bool) (deadline : Nat) (h : Held) :
    Walking (Held ⊕ Held × Option Stop) := do
  let t ← ask now
  if deadline ≤ t then
    return .inr (h, none)
  ask (sleep (min (deadline - t) sampleEvery))
  match ← checked args gated with
  | .error stop => return .inr (h, some stop)
  | .ok () =>
    let h := h.sample (← ask rpmReading)
    if untilSpinning ∧ verdict h.fresh = .spinning then
      return .inr (h, none)
    return .inl h

/-- What is made of a hold that ended. -/
def concludeHold (args : CalArgs) (pct : Nat) (phase : CalPhase) (hold : Nat) (h : Held) (stopped : Option Stop) :
    Walking Verdict := do
  match stopped, h.fresh.getLast? with
  | some stop, last =>
    if let some rpm := last then
      push ⟨pct, rpm, phase, .interrupted⟩
    modify fun w => { w with lastVerdict := last.map fun r => if 0 < r then .spinning else .stopped }
    Act.leave (.returned stop)
  | none, none =>
    modify fun w => { w with lastVerdict := none }
    Act.leave (.returned (.abort .rpmUnreadable
      s!"no RPM reading for channel {args.channel} arrived within the {hold / 1000000000} s hold at {pct}%"))
  | none, some rpm =>
    modify fun w => { w with lastVerdict := some (verdict h.fresh) }
    push ⟨pct, rpm, phase, .held (verdict h.fresh)⟩
    return verdict h.fresh

/-- Before the write: the gate, or for the kick the shutdown alone. -/
def entryCheck (args : CalArgs) (gated : Bool) : Act CalRun ε (Except Stop Unit) := do
  if gated then
    gate args
  else if ← ask shuttingDown then
    return .error .shuttingDown
  else
    return .ok ()

def writeDuty (args : CalArgs) (pct : Nat) : Walking Unit := do
  modify fun w => { w with touched := true, armed := true, lowest := some (w.lowest.elim pct (min · pct)) }
  if let .error e ← ask (write pct) then
    modify fun w => { w with lastVerdict := none }
    Act.leave (.returned (.abort .writeFailed s!"writing {pct}% to channel {args.channel} failed: {e}"))

/-- The hold of a duty whose write has returned. -/
def holdDuty (args : CalArgs) (fuel pct : Nat) (phase : CalPhase) (hold : Nat) (gated untilSpinning : Bool) :
    Walking Verdict := do
  let lastPoll ← ask pollsStarted
  let deadline := (← ask now) + hold
  let (h, stopped) ← Act.iterate .unended (holdPass args gated untilSpinning deadline) fuel ⟨[], lastPoll⟩
  concludeHold args pct phase hold h stopped

/-- `step`: write a duty and hold it. -/
def step (args : CalArgs) (fuel pct : Nat) (phase : CalPhase) (hold : Nat) (gated untilSpinning : Bool) :
    Walking Verdict := do
  if let .error stop ← entryCheck args gated then
    Act.leave (.returned stop)
  setPhase phase (some pct)
  writeDuty args pct
  holdDuty args fuel pct phase hold gated untilSpinning

/-! ## The walk -/

/-- The loop of the descent and of the ascent: each duty in turn, to the first whose hold ends with the verdict sought. -/
def search (args : CalArgs) (fuel : Nat) (phase : CalPhase) (sought : Verdict) : List Nat → Walking (Option Nat)
  | [] => return none
  | pct :: rest => do
    if (← step args fuel pct phase args.hold true false) = sought then
      return some pct
    search args fuel phase sought rest

/-- `kick`. -/
def kick (args : CalArgs) (fuel : Nat) : Walking Unit := do
  modify fun w => { w with target := 100 }
  let window := max kickMax (minHold (← ask pollInterval))
  let v ← step args fuel 100 .kick window false true
  modify fun w => { w with p := { w.p with restartFailedAtFull := v != .spinning } }

def found (o : CalOutcome) : Walking Unit := modify fun w => { w with p := { w.p with outcome := some o } }

/-- The ascent of `walk`, from the stall on. -/
def fromStall (args : CalArgs) (fuel stall : Nat) : Walking Unit := do
  match ← search args fuel .ascent .spinning (ascentDuties stall) with
  | some restart =>
    modify fun w => { w with p := { w.p with restartDutyPct := some restart } }
    found .stallAndRestartFound
  | none =>
    found .didNotRestart
    kick args fuel

/-- `walk`. -/
def walk (args : CalArgs) (fuel : Nat) : Walking Unit := do
  match ← search args fuel .descent .stopped descentDuties with
  | none => found .noStallDownTo0
  | some 100 => found .noFanDetected
  | some stall =>
    modify fun w => { w with p := { w.p with stallDutyPct := some stall } }
    ask (publish (← get).p)
    fromStall args fuel stall

/-! ## The end of a run -/

/-- `kick_owed`. -/
def kickOwed (w : Walk) : Bool :=
  w.touched && match w.lastVerdict with
    | some .spinning => false
    | some _ => true
    | none => w.lowest.any (· < fineBelowPct) || w.p.stallDutyPct.isSome

/-- The duty `restore` writes. -/
def restoreTarget (w : Walk) : Nat :=
  if w.restoreFullSpeed then 100
  else if w.pumpSeen then max (Pwm.exitDuty w.p.originalPct 0) pumpFloorDuty
  else Pwm.exitDuty w.p.originalPct 0

def restored (o : CalRestore) (failed : Bool) : Act CalRun ε Unit :=
  modify fun w => { w with p := { w.p with restoreOutcome := o, restoreFailed := failed } }

/-- `restore`. -/
def restore : Act CalRun ε Unit := do
  modify fun w => { w with armed := false }
  if !(← get).touched then
    modify fun w => { w with p := { w.p with restoreOutcome := .notNeeded } }
    return
  let _ ← refreshPumpSeen
  let w ← get
  let target := restoreTarget w
  if (← ask thermalForceState).isSome then
    restored .skippedThermalForce true
    return
  setPhase .restore (some target)
  match ← ask (write target) with
  | .ok () =>
    if w.restoreFullSpeed then
      restored .fullSpeed (Pwm.exitDuty w.p.originalPct 0 != 100)
    else
      restored .restored (target != Pwm.exitDuty w.p.originalPct 0)
  | .error _ => restored .writeFailed true

/-- What a walk's end makes of the progress. -/
def CalProgress.ended (p : CalProgress) : Except Stop Unit → CalProgress
  | .ok () => { p with state := some .complete }
  | .error .cancelled => { p with state := some .cancelled, outcome := some .cancelled }
  | .error .shuttingDown =>
    { p with state := some .aborted, outcome := some .aborted, abortReason := some .shuttingDown,
             detail := some "the daemon is shutting down" }
  | .error (.abort token detail) =>
    { p with state := some .aborted, outcome := some .aborted, abortReason := some token, detail := some detail }

/-- The kick an early end owes. Where it is owed and does not run to its end, the restore is at full speed. -/
def settleKick (args : CalArgs) (fuel : Nat) : Act CalRun Empty (Option Unit) := do
  if !kickOwed (← get) then
    return some ()
  if (← ask thermalForceState).isSome then
    return some ()
  if ← ask shuttingDown then
    modify fun w => { w with restoreFullSpeed := true }
    return some ()
  match ← Act.attempt (kick args fuel) with
  | .ok () => return some ()
  | .error (.returned _) =>
    modify fun w => { w with restoreFullSpeed := true }
    return some ()
  | .error .unended => return none

/-- `run_calibration`, from the start of its walk; `none` if a hold did not end. -/
def runCalibration (args : CalArgs) (fuel : Nat) : Act CalRun Empty (Option CalProgress) := do
  let ended ← Act.attempt (walk args fuel)
  match ended with
  | .error .unended => return none
  | .ok () =>
    modify fun w => { w with p := w.p.ended (.ok ()) }
  | .error (.returned stop) =>
    modify fun w => { w with p := w.p.ended (.error stop) }
    if (← settleKick args fuel).isNone then
      return none
  restore
  modify fun w => { w with p := { w.p with phase := none } }
  return some (← get).p

/-- The run before its first question. -/
def start (args : CalArgs) (env : List CalEvent → (q : CalQuestion) → CalAnswer q) : CalRun :=
  ⟨env, [], { p := { maxCpuTempC := some args.startCpuC, originalPct := args.original }
              target := Pwm.exitDuty args.original 0 }⟩

end ControlOfc.Diagnostics.Calibration
