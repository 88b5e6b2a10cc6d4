import ControlOfc.Diagnostics.Restore
import ControlOfc.Diagnostics.Stats
import ControlOfc.Pwm
/-! # The characterisation sweep (characterization.rs, `run_sweep`)

The walk leaves early with its outcome wherever the source returns from its block; every such exit ends in the
restore. A hold is a loop on the clock, which is one of the questions, so nothing bounds its samples: `fuel`
cuts it, and a walk that is cut has not ended. Derived statistics of a point are left out, but for the settle
point.

| here | there |
| --- | --- |
| `HwmonVerifyState` | responses.rs:2406 |
| `SweepStep`, `SweepOutcome` | characterization.rs:687, 1744 |
| `noteUnresponsive` | characterization.rs:1763 |
| `runSweep`, its block `sweepWalk` | characterization.rs:1807-2294 |
| `hold` | characterization.rs:2054-2212 |
-/
namespace ControlOfc.Diagnostics
open Asking Question

structure HwmonVerifyState where
  pwmEnable : Option Nat
  pwmRaw : Option Nat
  pwmPercent : Option Nat
  rpm : Option Nat
  deriving DecidableEq, Repr

/-- How a run ended: `STATE_COMPLETE` and its siblings. -/
inductive EndState where
  | complete
  | cancelled
  | aborted
  | failed
  deriving DecidableEq, Repr

/-- Why a program was left: its run ended with an outcome, or has not ended. -/
inductive Left (ω : Type) where
  | unended
  | returned (o : ω)

/-- `CHARACTERIZATION_SAMPLE_INTERVAL`. -/
def sampleInterval : Nat := 500000000

/-- `STABILITY_RENEW_INTERVAL_S`. -/
def renewEvery : Nat := 5000000000

/-- `as_millis`. -/
def millis (duration : Nat) : Nat := duration / 1000000

/-- `elapsed`. -/
def elapsed {Sample Pub V ε : Type} (started : Nat) : Act (Run Sample Pub V) ε Nat := do
  return (← ask now) - started

/-- A mode other than manual, unless it is the driver's alias for full speed. -/
def reclaimed (commanded : Nat) (state : HwmonVerifyState) : Bool :=
  state.pwmEnable.any (· ≠ 1) && !Pwm.isFullSpeedAlias commanded state.pwmPercent state.pwmEnable

namespace Sweep

inductive Direction where
  | ramp
  | falling
  | rising
  deriving DecidableEq, Repr

structure SweepStep where
  pct : Nat
  direction : Direction
  dwell : Option Nat
  deriving DecidableEq, Repr

structure CharPoint where
  requestedPct : Nat
  commandAccepted : Bool
  readbackPct : Option Nat := none
  readbackRaw : Option Nat := none
  pwmEnable : Option Nat := none
  rpmBefore : Option Nat
  rpmAfter : Option Nat := none
  settleMs : Nat := 0
  direction : Direction
  stepIndex : Nat
  settledMs : Option Nat := none
  deriving DecidableEq, Repr

/-- What a sweep publishes: a measured point, or the phase it enters (`RunStep`). -/
inductive News where
  | point (p : CharPoint)
  | settle (index dutyPct maxMs : Nat)
  | dwell (index dutyPct maxMs : Nat)
  deriving DecidableEq, Repr

structure SweepOutcome where
  state : EndState
  detail : Option String
  points : List CharPoint
  originalPct : Option Nat
  deriving DecidableEq, Repr

structure SweepArgs where
  plan : List SweepStep
  restoreFloor : Nat
  hasModeSwitch : Bool
  pumpWatch : PumpWatch
  settle : Nat

abbrev SweepRun := Run HwmonVerifyState News Unit

abbrev Walk := Act SweepRun (Left SweepOutcome)

def noteUnresponsive : Walk String := do
  modify fun m => { m with unresponsive := true }
  return "a read of the header did not return within 2 s (a driver that is not responding), so the sweep stopped and does not read it again; restore_outcome says whether its pre-sweep duty was written back"

variable (args : SweepArgs) (original : Option Nat) (fuel : Nat)

/-- Returns from the walk. -/
def finish {α : Type} (state : EndState) (detail : Option String) (measured : List CharPoint) : Walk α :=
  .leave (.returned ⟨state, detail, measured, original⟩)

def shuttingDownDetail : String := "the daemon is shutting down"

def supersededDetail : String := "superseded by a later diagnostic; this run's lease is gone"

/-- A read that does not return ends the run. -/
def readOr (measured : List CharPoint) : Walk HwmonVerifyState := do
  match ← ask read with
  | some sample => return sample
  | none => finish original .aborted (some (← noteUnresponsive)) measured

/-- The watch's stop. -/
def stopIfProtected (measured : List CharPoint) : Walk Unit := do
  if ← args.pumpWatch.becameProtected then
    finish original .aborted (some (pumpProtectedMidRunDetail "characterisation" args.pumpWatch.pumpFloor)) measured

/-- Every gate before the write of step `idx`, the shutdown check right before it included. -/
def beforeWrite (idx : Nat) (measured : List CharPoint) : Walk Unit := do
  match ← stepGate "characterisation" "cannot write" with
  | .error .shuttingDown => finish original .aborted (some shuttingDownDetail) measured
  | .error .cancelled =>
    finish original .cancelled (some s!"cancelled after {idx} of {args.plan.length} steps") measured
  | .error (.thermal _ detail) => finish original .aborted (some detail) measured
  | .error .superseded => finish original .aborted (some supersededDetail) measured
  | .ok _ => pure ()
  stopIfProtected args original measured
  if ← ask shuttingDown then
    finish original .aborted (some shuttingDownDetail) measured

/-- The write of one step. -/
def command (idx : Nat) (step : SweepStep) (before : HwmonVerifyState) (measured : List CharPoint) : Walk Unit := do
  modify fun m => { m with wroteAny := true }
  PumpWatch.noteWrite step.pct
  match ← ask (write step.pct) with
  | .ok _ => pure ()
  | .error .unresponsive => finish original .failed (some (← noteWriteUnresponsive step.pct)) measured
  | .error (.error e) =>
    let point : CharPoint :=
      { requestedPct := step.pct, commandAccepted := false, readbackPct := before.pwmPercent
        readbackRaw := before.pwmRaw, pwmEnable := before.pwmEnable, rpmBefore := before.rpm
        direction := step.direction, stepIndex := idx }
    ask (publish (.point point))
    finish original .failed (some s!"PWM write of {step.pct}% failed: {e}") (measured ++ [point])

/-- What the loop of a hold carries. -/
structure Holding where
  samples : List RpmSample
  lastRenew : Nat
  dwellAnnounced : Bool

/-- The thermal gates and the keepalive, once per renewal interval. -/
def renew (measured : List CharPoint) (h : Holding) : Walk Holding := do
  if renewEvery ≤ (← elapsed h.lastRenew) then
    if let some detail ← thermalGate "characterisation" "cannot continue" then
      finish original .aborted (some detail) measured
    if !(← ask keepalive) then
      finish original .aborted (some supersededDetail) measured
    return { h with lastRenew := ← ask now }
  return h

/-- A dwell honours a cancel; a settle does not. -/
def cancelInDwell (idx : Nat) (step : SweepStep) (measured : List CharPoint) (started : Nat) : Walk Unit := do
  if step.dwell.isSome then
    if args.settle ≤ (← elapsed started) then
      if ← ask cancel then
        finish original .cancelled
          (some s!"cancelled during the stability hold at {step.pct}%, after {idx} of {args.plan.length} steps") measured

def announceDwell (idx : Nat) (step : SweepStep) (started : Nat) (h : Holding) : Walk Holding := do
  if !h.dwellAnnounced then
    if args.settle ≤ (← elapsed started) then
      ask (publish (.dwell idx step.pct (millis (args.settle + step.dwell.getD 0 - (← elapsed started)))))
      return { h with dwellAnnounced := true }
  return h

/-- One pass of a hold. -/
def holdPass (idx : Nat) (step : SweepStep) (before : HwmonVerifyState) (measured : List CharPoint) (started : Nat)
    (h : Holding) : Walk (Holding ⊕ List RpmSample) := do
  let hold := args.settle + step.dwell.getD 0
  if hold ≤ (← elapsed started) then
    return .inr h.samples
  let remaining := hold - (← elapsed started)
  ask (sleep (min remaining sampleInterval))
  if ← ask shuttingDown then
    let point : CharPoint :=
      { requestedPct := step.pct, commandAccepted := true, rpmBefore := before.rpm
        settleMs := millis (← elapsed started), direction := step.direction, stepIndex := idx }
    finish original .aborted (some shuttingDownDetail) (measured ++ [point])
  if (← elapsed started) < hold then
    stopIfProtected args original measured
  let h ← renew original measured h
  cancelInDwell args original idx step measured started
  let h ← announceDwell args idx step started h
  let atMs := millis (← elapsed started)
  let sample ← readOr original measured
  return .inl { h with samples := h.samples ++ [⟨atMs, sample.rpm⟩] }

def hold (idx : Nat) (step : SweepStep) (before : HwmonVerifyState) (measured : List CharPoint) (started : Nat) :
    Walk (List RpmSample) := do
  ask (publish (.settle idx step.pct (millis args.settle)))
  Act.iterate .unended (holdPass args original idx step before measured started) fuel
    ⟨[], ← ask now, step.dwell.getD 0 = 0⟩

/-- One step of the plan. -/
def walkStep (idx : Nat) (step : SweepStep) (measured : List CharPoint) : Walk (List CharPoint) := do
  let before ← readOr original measured
  beforeWrite args original idx measured
  command original idx step before measured
  let started ← ask now
  let samples ← hold args original fuel idx step before measured started
  let after ← readOr original measured
  let point : CharPoint :=
    { requestedPct := step.pct, commandAccepted := true, readbackPct := after.pwmPercent, readbackRaw := after.pwmRaw
      pwmEnable := after.pwmEnable, rpmBefore := before.rpm, rpmAfter := after.rpm
      settleMs := millis (← elapsed started), direction := step.direction, stepIndex := idx
      settledMs := Stats.settlingMs samples before.rpm }
  let measured := measured ++ [point]
  ask (publish (.point point))
  if reclaimed step.pct after then
    if ← ask shuttingDown then
      finish original .aborted (some shuttingDownDetail) measured
    finish original .aborted
      (some s!"another controller reclaimed the header at {step.pct}% (pwm_enable={after.pwmEnable.getD 0}); the remaining points were not tested")
      measured
  return measured

def walkFrom (idx : Nat) : List SweepStep → List CharPoint → Walk SweepOutcome
  | [], measured => return ⟨.complete, none, measured, original⟩
  | step :: rest, measured => do
    let measured ← walkStep args original fuel idx step measured
    walkFrom (idx + 1) rest measured

/-- The block of `run_sweep`. -/
def sweepWalk (first : Option HwmonVerifyState) : Walk SweepOutcome := do
  if first.isNone then
    finish original .aborted (some (← noteUnresponsive)) []
  walkFrom args original fuel 0 args.plan []

/-- `RestoreGuard` as `run_sweep` arms it. -/
def guard : RestoreGuard where
  originalPct := original
  restoreFloor := args.restoreFloor
  pumpWatch := some args.pumpWatch
  unresponsive := true
  afterStuckWrite := .forHeader args.hasModeSwitch .queueRestore

end Sweep

open Sweep in
/-- `none` is a walk that has not ended. -/
def runSweep (args : SweepArgs) (fuel : Nat) : Act SweepRun Empty (Option SweepOutcome) := do
  let first ← ask read
  let original := first.bind (·.pwmPercent)
  match ← (sweepWalk args original fuel first).attempt with
  | .error .unended => return none
  | .error (.returned outcome) | .ok outcome => do
    (guard args original).restoreBody
    return some outcome

end ControlOfc.Diagnostics
