import ControlOfc.Diagnostics.Sweep
/-! # Control-path discovery (discovery.rs, `run_discovery`)

Each cycle holds a header at its baseline and then at a perturbed duty, and notes what every tach channel does.
Its reads are not bounded, so one that does not return leaves the run without an end. A window that is
stopped early answers why; the walk turns that into an abort.

| here | there |
| --- | --- |
| `noiseFloor`, `responded` | discovery.rs:363-394 |
| `runDiscovery`, its block `discoveryWalk` | discovery.rs:641-1228 |
| `reclaimOrLostPump` | discovery.rs:1235-1264 |
| `windowStop`, `observe` | discovery.rs:1302-1370 |
| `foldResolution`, `nothingToSettle`, `settleWait` | discovery.rs:1375-1484 |
-/
namespace ControlOfc.Diagnostics
open Asking Question

namespace Discovery

structure TachChannel where
  tachId : String
  isTargetHeader : Bool
  deriving DecidableEq, Repr

structure DiscoverySample where
  header : HwmonVerifyState
  /-- Parallel to the channels. -/
  tachs : List (Option Nat)
  deriving DecidableEq, Repr

def DiscoverySample.tach (sample : DiscoverySample) (i : Nat) : Option Nat := sample.tachs[i]?.join

structure TachObservation where
  tachId : String
  baselineRpm : Option Nat
  perturbedRpm : Option Nat
  deltaRpm : Option Int
  noiseFloorRpm : Nat
  responded : Bool
  noiseFloorFromCycle1 : Bool
  deriving DecidableEq, Repr

structure DiscoveryCycle where
  cycle : Nat
  baselinePct : Nat
  perturbedPct : Nat
  direction : String
  observations : List TachObservation
  baselineSettled : Option Bool
  settleWaitMs : Nat
  deriving DecidableEq, Repr

inductive Phase where
  | settleWait
  | baseline
  | perturbed
  deriving DecidableEq, Repr

/-- What a discovery publishes: a finished cycle, or the phase it enters (`RunStep`). -/
inductive News where
  | cycle (c : DiscoveryCycle)
  | step (phase : Phase) (index dutyPct maxMs : Nat)
  deriving DecidableEq, Repr

structure DiscoveryOutcome where
  state : EndState
  detail : Option String
  cycles : List DiscoveryCycle
  sampleCount : Nat
  observedResolutionMs : Option Nat
  deriving DecidableEq, Repr

structure DiscoveryArgs where
  channels : List TachChannel
  baselinePct : Nat
  perturbedPct : Nat
  direction : String
  cycleCount : Nat
  restoreFloor : Nat
  hasModeSwitch : Bool
  pumpProtected : Bool
  pumpWatch : PumpWatch
  window : Nat
  settleWaitMax : Nat

/-- The counters every sample adds to. -/
structure Counters where
  sampleCount : Nat
  resolution : List (List (Nat × Option Nat))

abbrev DiscoveryRun := Run DiscoverySample News Counters

abbrev Walk := Act DiscoveryRun (Left DiscoveryOutcome)

/-! ## Pure rules -/

/-- `DISCOVERY_MIN_NOISE_FLOOR_RPM`. -/
def minNoiseFloorRpm : Nat := 50

def noiseFloor (samples : List (Option Nat)) : Nat :=
  let readable := samples.filterMap id
  let spread := match readable.min?, readable.max? with
    | some lo, some hi => hi - lo
    | _, _ => 0
  max spread minNoiseFloorRpm

/-- `DISCOVERY_RESPONSE_MIN_PCT` is 10. -/
def responded (baseline perturbed : Option Nat) (noise : Nat) : Bool :=
  match baseline, perturbed with
  | some b, some p => noise ≤ max b p - min b p && b * 10 / 100 ≤ max b p - min b p
  | _, _ => false

def pumpTachLost (pumpProtected hadTachAtStart : Bool) (current : Option Nat) : Bool :=
  pumpProtected && hadTachAtStart && current.isNone

def reclaimOrLostPump (sample : DiscoverySample) (commandedPct : Nat) (pumpProtected hadTargetTach : Bool)
    (targetRpm : Option Nat) : Option String :=
  if reclaimed commandedPct sample.header then
    some s!"another controller reclaimed the header at {commandedPct}% (pwm_enable={sample.header.pwmEnable.getD 0}); discovery stopped"
  else if pumpTachLost pumpProtected hadTargetTach targetRpm then
    some "the pump's tachometer stopped reporting during the test; discovery stopped and the header is being restored"
  else none

def foldResolution (perChannel : List (List (Nat × Option Nat))) (targetIdx : Option Nat) : Option Nat :=
  match targetIdx.bind fun i => perChannel[i]?.bind Stats.updateIntervalMs with
  | some ms => some ms
  | none => (perChannel.filterMap Stats.updateIntervalMs).min?

/-- `DISCOVERY_UNCHANGED_SPAN`, in milliseconds. -/
def unchangedSpanMs : Nat := 6000

def nothingToSettle (history : List (Nat × Option Nat)) (reference : Option Nat) : Bool :=
  let readable := history.filterMap fun (at_, v) => v.map fun v => (at_, v)
  match readable with
  | [] => reference.isNone
  | first :: rest =>
    reference.all (· = first.2) && rest.all (·.2 = first.2) &&
      unchangedSpanMs ≤ (rest.getLast?.getD first).1 - first.1

/-! ## Windows -/

inductive WindowStop where
  | shuttingDown
  | pumpProtected
  deriving DecidableEq, Repr

def WindowStop.detail (pumpFloor : Nat) : WindowStop → String
  | .shuttingDown => Sweep.shuttingDownDetail
  | .pumpProtected => pumpProtectedMidRunDetail "control-path discovery" pumpFloor

variable (args : DiscoveryArgs)

/-- Shutdown, then, while the window is open, the pump watch. -/
def windowStop (isOpen : Bool) : Walk (Option WindowStop) := do
  if ← ask shuttingDown then
    return some .shuttingDown
  if isOpen then
    if ← args.pumpWatch.becameProtected then
      return some .pumpProtected
  return none

/-- One read of the header and of every channel, counted. -/
def sampleOnce (runStarted : Nat) : Walk DiscoverySample := do
  match ← ask read with
  | none => .leave .unended
  | some sample =>
    let atMs := millis (← elapsed runStarted)
    modify fun m => { m with vars :=
      { sampleCount := min (m.vars.sampleCount + 1) 4294967295
        resolution := m.vars.resolution.mapIdx fun i res => res ++ [(atMs, sample.tach i)] } }
    return sample

structure Observed where
  last : DiscoverySample
  perChannel : List (List (Option Nat))

def observePass (runStarted started : Nat) (perChannel : List (List (Option Nat))) :
    Walk (List (List (Option Nat)) ⊕ Except WindowStop Observed) := do
  let isOpen := decide ((← elapsed started) < args.window)
  match ← windowStop args isOpen with
  | some stop => return .inr (.error stop)
  | none =>
    let sample ← sampleOnce runStarted
    let perChannel := perChannel.mapIdx fun i slot => slot ++ [sample.tach i]
    if args.window ≤ (← elapsed started) then
      return .inr (.ok ⟨sample, perChannel⟩)
    let remaining := args.window - (← elapsed started)
    ask (sleep (min remaining sampleInterval))
    return .inl perChannel

def observe (fuel runStarted : Nat) : Walk (Except WindowStop Observed) := do
  let started ← ask now
  Act.iterate .unended (observePass args runStarted started) fuel (args.channels.map fun _ => [])

structure SettleWait where
  settled : List Bool
  elapsedMs : Nat
  last : DiscoverySample

def settledOver (perChannel : List (List RpmSample)) (resolution : List (List (Nat × Option Nat)))
    (reference : List (Option Nat)) (settles : List RpmSample → Option Nat → Option Nat) : List Bool :=
  perChannel.mapIdx fun i samples =>
    nothingToSettle (resolution.getD i []) reference[i]?.join || (settles samples reference[i]?.join).isSome

def waitOver (openDone : Bool) (started : Nat) : Walk Bool := do
  if openDone then
    return true
  return args.settleWaitMax ≤ (← elapsed started)

def settleWaitPass (reference : List (Option Nat)) (runStarted started : Nat) (perChannel : List (List RpmSample)) :
    Walk (List (List RpmSample) ⊕ Except WindowStop SettleWait) := do
  match ← windowStop args true with
  | some stop => return .inr (.error stop)
  | none =>
    let sample ← sampleOnce runStarted
    let atMs := millis (← elapsed started)
    let perChannel := perChannel.mapIdx fun i slot => slot ++ [⟨atMs, sample.tach i⟩]
    let resolution := (← get).vars.resolution
    let openDone := (settledOver perChannel resolution reference Stats.settledOnUpdates).all id
    if ← waitOver args openDone started then
      let settled := settledOver perChannel resolution reference Stats.settlingMs
      return .inr (.ok ⟨settled, millis (← elapsed started), sample⟩)
    let remaining := args.settleWaitMax - (← elapsed started)
    ask (sleep (min remaining sampleInterval))
    return .inl perChannel

def settleWait (fuel : Nat) (reference : List (Option Nat)) (runStarted : Nat) : Walk (Except WindowStop SettleWait) := do
  let started ← ask now
  Act.iterate .unended (settleWaitPass args reference runStarted started) fuel (args.channels.map fun _ => [])

/-! ## Cycles -/

/-- What the run knows before its first cycle. -/
structure Setting where
  original : Option Nat
  targetIdx : Option Nat
  hadTargetTach : Bool
  runStarted : Nat

/-- What a cycle leaves to the next. -/
structure Carry where
  measured : List DiscoveryCycle
  previousTachs : List (Option Nat)
  cycle1Noise : List (Option Nat)

variable (at_ : Setting) (fuel : Nat)

def bail {α : Type} (state : EndState) (detail : String) (measured : List DiscoveryCycle) : Walk α := do
  let m ← get
  .leave (.returned ⟨state, some detail, measured, m.vars.sampleCount, foldResolution m.vars.resolution at_.targetIdx⟩)

def bailWindow {α : Type} (stop : WindowStop) (measured : List DiscoveryCycle) : Walk α :=
  bail at_ .aborted (stop.detail args.pumpWatch.pumpFloor) measured

/-- The three thermal gates, in the words of this run. -/
def thermalRefused : Walk (Option String) := do
  if let some e ← ask checkThermalSafety then
    return some e
  if let some state ← ask thermalForceState then
    return some s!"thermal safety is forcing fan output ({state}); control-path discovery cannot write"
  ask staleTemperature

def thermalOr (measured : List DiscoveryCycle) : Walk Unit := do
  if let some reason ← thermalRefused then
    bail at_ .aborted reason measured

def shutdownOr (measured : List DiscoveryCycle) : Walk Unit := do
  if ← ask shuttingDown then
    bail at_ .aborted Sweep.shuttingDownDetail measured

def cancelOr (cycle : Nat) (measured : List DiscoveryCycle) : Walk Unit := do
  if ← ask cancel then
    bail at_ .cancelled s!"cancelled after {cycle - 1} of {args.cycleCount} cycles" measured

def keepaliveOr (measured : List DiscoveryCycle) : Walk Unit := do
  if !(← ask keepalive) then
    bail at_ .aborted Sweep.supersededDetail measured

def protectedOr (measured : List DiscoveryCycle) : Walk Unit := do
  if ← args.pumpWatch.becameProtected then
    bailWindow args at_ .pumpProtected measured

/-- What came of a write of the walk. -/
def accepted (pct : Nat) (measured : List DiscoveryCycle) : Except WriteFailure Unit → Walk Unit
  | .ok _ => pure ()
  | .error .unresponsive => do bail at_ .failed (← noteWriteUnresponsive pct) measured
  | .error (.error e) => bail at_ .failed s!"PWM write of {pct}% failed: {e}" measured

def checkLast (last : DiscoverySample) (pct : Nat) (measured : List DiscoveryCycle) : Walk Unit := do
  match reclaimOrLostPump last pct args.pumpProtected at_.hadTargetTach (at_.targetIdx.bind last.tach) with
  | some reason => bail at_ .aborted reason measured
  | none => pure ()

/-- The baseline of a cycle: its gates, its write, and the wait until the channels have settled. -/
def toBaseline (cycle : Nat) (c : Carry) : Walk (Option Bool × Nat × List Bool) := do
  shutdownOr at_ c.measured
  cancelOr args at_ cycle c.measured
  thermalOr at_ c.measured
  keepaliveOr at_ c.measured
  shutdownOr at_ c.measured
  protectedOr args at_ c.measured
  modify fun m => { m with wroteAny := true }
  PumpWatch.noteWrite args.baselinePct
  let a ← ask (write args.baselinePct)
  accepted at_ args.baselinePct c.measured a
  if 1 < cycle || at_.original != some args.baselinePct then
    ask (publish (.step .settleWait cycle args.baselinePct (millis args.settleWaitMax)))
    match ← settleWait args fuel c.previousTachs at_.runStarted with
    | .error stop => bailWindow args at_ stop c.measured
    | .ok waited =>
      checkLast args at_ waited.last args.baselinePct c.measured
      cancelOr args at_ cycle c.measured
      thermalOr at_ c.measured
      keepaliveOr at_ c.measured
      return (some (waited.settled.all id), waited.elapsedMs, waited.settled)
  else
    return (none, 0, args.channels.map fun _ => true)

/-- One window at a written duty, and the check of its last reading. -/
def windowAt (phase : Phase) (cycle pct : Nat) (measured : List DiscoveryCycle) : Walk Observed := do
  ask (publish (.step phase cycle pct (millis args.window)))
  match ← observe args fuel at_.runStarted with
  | .error stop => bailWindow args at_ stop measured
  | .ok seen =>
    checkLast args at_ seen.last pct measured
    return seen

/-- The perturbed duty of a cycle: its gates and its write. -/
def toPerturbed (cycle : Nat) (c : Carry) : Walk Unit := do
  cancelOr args at_ cycle c.measured
  thermalOr at_ c.measured
  keepaliveOr at_ c.measured
  shutdownOr at_ c.measured
  protectedOr args at_ c.measured
  PumpWatch.noteWrite args.perturbedPct
  let a ← ask (write args.perturbedPct)
  accepted at_ args.perturbedPct c.measured a

/-- The noise floor of channel `i`: cycle 1's where this baseline did not settle. -/
def observation (settled : List Bool) (cycle1Noise : List (Option Nat)) (base pert : Observed) (i : Nat)
    (ch : TachChannel) : TachObservation :=
  let baselineRpm := base.last.tach i
  let perturbedRpm := pert.last.tach i
  let ownNoise := noiseFloor (base.perChannel.getD i [])
  let fallback := if settled.getD i false then none else cycle1Noise[i]?.join
  let noise := fallback.getD ownNoise
  { tachId := ch.tachId, baselineRpm, perturbedRpm
    deltaRpm := baselineRpm.bind fun b => perturbedRpm.map fun p => (p : Int) - b
    noiseFloorRpm := noise, responded := responded baselineRpm perturbedRpm noise
    noiseFloorFromCycle1 := fallback.isSome }

def nextNoise (cycle : Nat) (settled : List Bool) (cycle1Noise : List (Option Nat)) (base : Observed) : List (Option Nat) :=
  if cycle = 1 then
    cycle1Noise.mapIdx fun i _ => if settled.getD i false then some (noiseFloor (base.perChannel.getD i [])) else none
  else cycle1Noise

def runCycle (cycle : Nat) (c : Carry) : Walk Carry := do
  let (baselineSettled, settleWaitMs, settled) ← toBaseline args at_ fuel cycle c
  let base ← windowAt args at_ fuel .baseline cycle args.baselinePct c.measured
  toPerturbed args at_ cycle c
  let pert ← windowAt args at_ fuel .perturbed cycle args.perturbedPct c.measured
  let done : DiscoveryCycle :=
    { cycle, baselinePct := args.baselinePct, perturbedPct := args.perturbedPct, direction := args.direction
      observations := args.channels.mapIdx (observation settled c.cycle1Noise base pert), baselineSettled, settleWaitMs }
  ask (publish (.cycle done))
  return ⟨c.measured ++ [done], pert.last.tachs, nextNoise cycle settled c.cycle1Noise base⟩

/-- The cycles from `cycle` on, `left` of them. -/
def cyclesFrom (cycle : Nat) : Nat → Carry → Walk Carry
  | 0, c => return c
  | left + 1, c => do
    let c ← runCycle args at_ fuel cycle c
    cyclesFrom (cycle + 1) left c

/-- The return to the baseline; a header that has become a pump returns to its floor. -/
def returnToBaseline : Walk Unit := do
  if !(← ask shuttingDown) then
    if (← ask thermalForceState).isNone then
      let pct := if ← args.pumpWatch.becameProtected then max args.baselinePct args.pumpWatch.pumpFloor else args.baselinePct
      PumpWatch.noteWrite pct
      match ← ask (write pct) with
      | .error .unresponsive => modify fun m => { m with writeStuck := true }
      | _ => pure ()

/-- The block of `run_discovery`. -/
def discoveryWalk (first : DiscoverySample) : Walk DiscoveryOutcome := do
  let c ← cyclesFrom args at_ fuel 1 args.cycleCount ⟨[], first.tachs, args.channels.map fun _ => none⟩
  thermalOr at_ c.measured
  returnToBaseline args
  let m ← get
  return ⟨.complete, none, c.measured, m.vars.sampleCount, foldResolution m.vars.resolution at_.targetIdx⟩

/-- `RestoreGuard` as `run_discovery` arms it. -/
def guard (original : Option Nat) : RestoreGuard where
  originalPct := original
  restoreFloor := args.restoreFloor
  pumpWatch := some args.pumpWatch
  unresponsive := false
  afterStuckWrite := .forHeader args.hasModeSwitch .queueRestore

end Discovery

open Discovery in
/-- `none` is a run that has not ended. -/
def runDiscovery (args : DiscoveryArgs) (fuel : Nat) : Act DiscoveryRun Empty (Option DiscoveryOutcome) := do
  match ← ask read with
  | none => return none
  | some first =>
    let original := first.header.pwmPercent
    let targetIdx := args.channels.findIdx? (·.isTargetHeader)
    let at_ : Setting := ⟨original, targetIdx, (targetIdx.bind first.tach).isSome, ← ask now⟩
    match ← (discoveryWalk args at_ fuel first).attempt with
    | .error .unended => return none
    | .error (.returned outcome) | .ok outcome => do
      (guard args original).restoreBody
      return some outcome

end ControlOfc.Diagnostics
