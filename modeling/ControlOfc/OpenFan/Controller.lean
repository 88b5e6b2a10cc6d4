import ControlOfc.Lib.Machine
import ControlOfc.Lib.KMap
import ControlOfc.Pwm
import Mathlib.Data.List.FinRange
import Mathlib.Logic.Function.Basic
/-! # The OpenFan controller (serial/controller.rs)

`FanController` keeps per channel what it last put on the device, so that a repeat writes nothing. A
resume or a reconnect bumps the cache's write generation, and the duties are unknown from then on.

* `FanController.setPwm` — one command; the outcome of the serial exchange is an argument, and the
  frame it puts on the wire is part of the result.
* `Rig` — the controller, the cache's share, the clock and a device that holds one raw byte per
  channel. A frame lands when its exchange is acknowledged, and may land when it is not.
-/
namespace ControlOfc.OpenFan
open ControlOfc.Pwm

/-- `NUM_CHANNELS` (protocol.rs). -/
abbrev numChannels : Nat := 10

abbrev Ch := Fin numChannels

instance numChannels_neZero : @NeZero Nat Zero.ofOfNat0 numChannels := ⟨by decide⟩

/-- `STOP_TIMEOUT` (constants.rs:30), in nanoseconds. -/
def stopTimeout : Nat := 8 * 1000000000

/-- `ChannelControl` (controller.rs:22). -/
structure ChannelControl where
  lastCommandedPct : Option Nat
  stopStartedAt : Option Nat
  written : Bool
  dutyBeforeLoss : Option Nat
  exitMin : Option Nat
  deriving DecidableEq, Repr

/-- `ChannelControl::default`. -/
def ChannelControl.default : ChannelControl := ⟨none, none, false, none, none⟩

/-- `SerialError` (error.rs:17). -/
inductive SerialError where
  | timeout (timeoutMs : Nat)
  | protocol (message : String)
  deriving DecidableEq, Repr

/-- The three ways a command is refused before it reaches the wire. -/
inductive Validation where
  | channelRange (channel : Nat)
  | percentRange (percent : Nat)
  | stopTimeout (channel : Nat)
  deriving DecidableEq, Repr

/-- The text of `FanControlError::Validation`. -/
def Validation.message : Validation → String
  | .channelRange ch => "channel " ++ toString ch ++ " out of range (0–" ++ toString (numChannels - 1) ++ ")"
  | .percentRange p => "pwm_percent " ++ toString p ++ " out of range (0–100)"
  | .stopTimeout ch =>
    "channel " ++ toString ch ++ ": 0% PWM exceeded " ++ toString (OpenFan.stopTimeout / 1000000000) ++ "s stop timeout"

/-- `FanControlError` (controller.rs:457). -/
inductive FanControlError where
  | validation (v : Validation)
  | serial (e : SerialError)
  deriving DecidableEq, Repr

/-- `SetPwmResult` (controller.rs:447). -/
structure SetPwmResult where
  channel : Nat
  pwmPercent : Nat
  coalesced : Bool
  deriving DecidableEq, Repr

/-- The part of `StateCache` the controller touches: the write generation, and the duty published
for each channel the cache has an entry for. -/
structure WriteCache where
  generation : Nat
  fans : KMap Nat (Option Nat)

namespace WriteCache

/-- `clear_openfan_commanded_pwm` (cache.rs:1312). -/
def clearCommanded (k : WriteCache) (channel : Nat) : WriteCache :=
  match k.fans.get? channel with
  | some _ => { k with fans := k.fans.insert channel none }
  | none => k

/-- `set_openfan_commanded_pwm` (cache.rs:1332): nothing is published across a bump. -/
def setCommanded (k : WriteCache) (channel pwm generation : Nat) : WriteCache :=
  if k.generation ≠ generation then k else { k with fans := k.fans.insert channel (some pwm) }

/-- `invalidate_openfan_writes` (cache.rs:1709). -/
def invalidate (k : WriteCache) : WriteCache :=
  { generation := k.generation + 1, fans := k.fans.filterMap fun _ _ => some none }

@[simp] theorem clearCommanded_generation (k : WriteCache) (ch : Nat) :
    (k.clearCommanded ch).generation = k.generation := by
  unfold clearCommanded
  split <;> rfl

@[simp] theorem setCommanded_generation (k : WriteCache) (ch p g : Nat) :
    (k.setCommanded ch p g).generation = k.generation := by
  unfold setCommanded
  split <;> rfl

end WriteCache

/-- `FanController` (controller.rs:71), the transport and the cache apart. -/
structure FanController where
  channels : Ch → ChannelControl
  lastWriteGeneration : Nat

/-- How `send_command` ended. A failed exchange says nothing about whether the frame was applied. -/
inductive Exchange where
  | acked
  | failed (e : SerialError) (landed : Bool)
  deriving DecidableEq, Repr

def Exchange.lands : Exchange → Bool
  | .acked => true
  | .failed _ landed => landed

/-- What a `set_pwm` leaves behind: the controller, the cache, the `SetPwm` frame it put on the wire
(channel and raw duty) and its answer. -/
structure Sent where
  ctrl : FanController
  cache : WriteCache
  frame : Option (Ch × Nat)
  result : Except FanControlError SetPwmResult

namespace ChannelControl

/-- The duty `last_known_duty` and the exit floor go by. -/
def known (c : ChannelControl) : Option Nat := c.lastCommandedPct.or c.dutyBeforeLoss

/-- One channel of `observe_write_generation`'s loop (controller.rs:263-284). -/
def lose (c : ChannelControl) : ChannelControl :=
  { c with dutyBeforeLoss := c.known, lastCommandedPct := none, stopStartedAt := none }

/-- Raising a command to the latched exit duty (controller.rs:317-327). -/
def raise (c : ChannelControl) (pwmPercent : Nat) : Nat :=
  match c.exitMin with
  | some min => if pwmPercent < min then min else pwmPercent
  | none => pwmPercent

/-- `apply_safety` (controller.rs:431). -/
def applySafety (c : ChannelControl) (now channel pwmPercent : Nat) : Except FanControlError Nat :=
  if pwmPercent = 0 then
    match c.stopStartedAt with
    | some started =>
      if stopTimeout ≤ now - started then .error (.validation (.stopTimeout channel)) else .ok pwmPercent
    | none => .ok pwmPercent
  else .ok pwmPercent

/-- Tracking after a failed exchange (controller.rs:360-387). -/
def failed (c : ChannelControl) (effective : Nat) : ChannelControl :=
  { c with
    written := true
    lastCommandedPct := none
    stopStartedAt := none
    dutyBeforeLoss := if c.dutyBeforeLoss ≠ some effective then none else c.dutyBeforeLoss }

/-- Tracking after an acknowledged one (controller.rs:391-399). -/
def landed (c : ChannelControl) (now effective : Nat) : ChannelControl :=
  { c with
    written := true
    lastCommandedPct := some effective
    dutyBeforeLoss := none
    stopStartedAt := if effective = 0 then c.stopStartedAt.or (some now) else none }

/-- The latch of `apply_exit_floor` (controller.rs:186-192). -/
def latch (c : ChannelControl) (floorPct : Nat) : ChannelControl :=
  { c with exitMin := some (if c.written then exitDuty c.known floorPct else floorPct) }

end ChannelControl

namespace FanController

/-- `new` (controller.rs:86). -/
def new : FanController := ⟨fun _ => .default, 0⟩

/-- `last_commanded_pct` (controller.rs:146): unknown under a bump no write has observed. -/
def lastCommandedPct (c : FanController) (k : WriteCache) (channel : Nat) : Option Nat :=
  if k.generation ≠ c.lastWriteGeneration then none
  else if h : channel < numChannels then (c.channels ⟨channel, h⟩).lastCommandedPct
  else none

/-- `duty_before_loss` (controller.rs:219). -/
def dutyBeforeLoss (c : FanController) (k : WriteCache) (channel : Nat) : Option Nat :=
  if h : channel < numChannels then
    if k.generation ≠ c.lastWriteGeneration then (c.channels ⟨channel, h⟩).known
    else (c.channels ⟨channel, h⟩).dutyBeforeLoss
  else none

/-- `last_known_duty` (controller.rs:236). -/
def lastKnownDuty (c : FanController) (k : WriteCache) (channel : Nat) : Option Nat :=
  (c.lastCommandedPct k channel).or (c.dutyBeforeLoss k channel)

/-- `observe_write_generation` (controller.rs:246). -/
def observeWriteGeneration (c : FanController) (generation : Nat) : FanController :=
  if generation ≠ c.lastWriteGeneration then ⟨fun i => (c.channels i).lose, generation⟩ else c

def modify (c : FanController) (i : Ch) (f : ChannelControl → ChannelControl) : FanController :=
  { c with channels := Function.update c.channels i (f (c.channels i)) }

/-- `set_pwm` from the raise on (controller.rs:317-420). -/
def command (c : FanController) (k : WriteCache) (now : Nat) (i : Ch) (pwmPercent : Nat) (x : Exchange) : Sent :=
  let pwmPercent := (c.channels i).raise pwmPercent
  if (c.channels i).lastCommandedPct = some pwmPercent then ⟨c, k, none, .ok ⟨i, pwmPercent, true⟩⟩
  else
    match (c.channels i).applySafety now i pwmPercent with
    | .error e => ⟨c, k, none, .error e⟩
    | .ok effective =>
      match x with
      | .failed e _ =>
        ⟨c.modify i (·.failed effective), k.clearCommanded i, some (i, percentToRaw effective), .error (.serial e)⟩
      | .acked =>
        ⟨c.modify i (·.landed now effective), k.setCommanded i effective c.lastWriteGeneration,
          some (i, percentToRaw effective), .ok ⟨i, effective, false⟩⟩

/-- `set_pwm` (controller.rs:297). -/
def setPwm (c : FanController) (k : WriteCache) (now channel pwmPercent : Nat) (x : Exchange) : Sent :=
  if h : channel < numChannels then
    if pwmPercent > 100 then ⟨c, k, none, .error (.validation (.percentRange pwmPercent))⟩
    else (c.observeWriteGeneration k.generation).command k now ⟨channel, h⟩ pwmPercent x
  else ⟨c, k, none, .error (.validation (.channelRange channel))⟩

/-! ### `set_pwm` in two steps

The controller is locked for the whole call, but the port is taken only for the exchange. -/

/-- How `set_pwm` reaches the port: answered without it, or with a frame to send. -/
inductive Begun where
  | answered (result : Except FanControlError SetPwmResult)
  | frame (i : Ch) (effective : Nat)

/-- `set_pwm` up to the port (controller.rs:297-357). -/
def beginSetPwm (c : FanController) (generation now channel pwmPercent : Nat) : FanController × Begun :=
  if h : channel < numChannels then
    if pwmPercent > 100 then (c, .answered (.error (.validation (.percentRange pwmPercent))))
    else
      let i : Ch := ⟨channel, h⟩
      let c := c.observeWriteGeneration generation
      let pwmPercent := (c.channels i).raise pwmPercent
      if (c.channels i).lastCommandedPct = some pwmPercent then (c, .answered (.ok ⟨i, pwmPercent, true⟩))
      else
        match (c.channels i).applySafety now i pwmPercent with
        | .error e => (c, .answered (.error e))
        | .ok effective => (c.modify i fun ch => { ch with written := true }, .frame i effective)
  else (c, .answered (.error (.validation (.channelRange channel))))

/-- `set_pwm` after the exchange (controller.rs:362-420). -/
def finishSetPwm (c : FanController) (k : WriteCache) (now : Nat) (i : Ch) (effective : Nat) (sent : Option SerialError) :
    FanController × WriteCache × Except FanControlError SetPwmResult :=
  match sent with
  | some e => (c.modify i (·.failed effective), k.clearCommanded i, .error (.serial e))
  | none =>
    (c.modify i (·.landed now effective), k.setCommanded i effective c.lastWriteGeneration, .ok ⟨i, effective, false⟩)

@[simp] theorem modify_modify (c : FanController) (i : Ch) (f g : ChannelControl → ChannelControl) :
    (c.modify i f).modify i g = c.modify i (g ∘ f) := by
  simp [modify]

/-- Where nothing happens in between, the two steps are the call. -/
theorem setPwm_eq (c : FanController) (k : WriteCache) (now channel pwmPercent : Nat) (x : Exchange) :
    let s := c.setPwm k now channel pwmPercent x
    (s.ctrl, s.cache, s.result) =
      match c.beginSetPwm k.generation now channel pwmPercent with
      | (c', .answered result) => (c', k, result)
      | (c', .frame i effective) =>
        c'.finishSetPwm k now i effective (match x with | .acked => none | .failed e _ => some e) := by
  unfold setPwm beginSetPwm
  split
  · split
    · rfl
    · unfold command
      dsimp only
      split
      · rfl
      · split
        · rfl
        · cases x <;> simp only [finishSetPwm, modify_modify] <;> rfl
  · rfl

/-- The channels `apply_exit_floor` writes, each with the duty it was last known at
(controller.rs:180-185). -/
def exitTargets (c : FanController) : List (Ch × Option Nat) :=
  ((List.finRange numChannels).filter fun i => (c.channels i).written).map fun i => (i, (c.channels i).known)

/-- `apply_exit_floor` up to its writes: observe, then latch (controller.rs:170-192). -/
def beginExitFloor (c : FanController) (generation floorPct : Nat) : FanController :=
  let c := c.observeWriteGeneration generation
  { c with channels := fun i => (c.channels i).latch floorPct }

end FanController

/-! ## The controller with its device -/

/-- `ExitFloorWrite` (controller.rs:59). -/
structure ExitFloorWrite where
  channel : Ch
  wasPct : Option Nat
  targetPct : Nat
  result : Except FanControlError SetPwmResult

structure Rig where
  ctrl : FanController
  cache : WriteCache
  device : Ch → Nat
  now : Nat

namespace Rig

/-- Hands the frame of a command to the device. -/
def deliver (device : Ch → Nat) (frame : Option (Ch × Nat)) (x : Exchange) : Ch → Nat :=
  match frame with
  | some (i, raw) => if x.lands then Function.update device i raw else device
  | none => device

def setPwm (r : Rig) (channel pwmPercent : Nat) (x : Exchange) : Rig × Except FanControlError SetPwmResult :=
  let s := r.ctrl.setPwm r.cache r.now channel pwmPercent x
  ({ r with ctrl := s.ctrl, cache := s.cache, device := deliver r.device s.frame x }, s.result)

/-- The writes of `apply_exit_floor` (controller.rs:193-207). -/
def exitWrites (floorPct : Nat) (xs : Ch → Exchange) : Rig → List (Ch × Option Nat) → Rig × List ExitFloorWrite
  | r, [] => (r, [])
  | r, (i, was) :: ts =>
    let target := exitDuty was floorPct
    let (r', result) := r.setPwm i target (xs i)
    let (r'', ws) := exitWrites floorPct xs r' ts
    (r'', ⟨i, was, target, result⟩ :: ws)

/-- `apply_exit_floor` (controller.rs:170), with the outcome of each channel's exchange. -/
def applyExitFloor (r : Rig) (floorPct : Nat) (xs : Ch → Exchange) : Rig × List ExitFloorWrite :=
  if floorPct = 0 then (r, [])
  else
    let observed := r.ctrl.observeWriteGeneration r.cache.generation
    exitWrites floorPct xs { r with ctrl := r.ctrl.beginExitFloor r.cache.generation floorPct } observed.exitTargets

end Rig

/-- What can happen between two reads of the clock. -/
inductive RigEvent where
  | setPwm (channel pwmPercent : Nat) (x : Exchange)
  | bump (device : Ch → Nat)
  | exitFloor (floorPct : Nat) (xs : Ch → Exchange)

namespace Rig

def start (cache : WriteCache) (device : Ch → Nat) (now : Nat) : Rig := ⟨.new, cache, device, now⟩

def wait (r : Rig) (dt : Nat) : Rig := { r with now := r.now + dt }

/-- One event, `dt` nanoseconds after the one before it. -/
def step (r : Rig) : Nat × RigEvent → Rig
  | (dt, .setPwm channel pct x) => ((r.wait dt).setPwm channel pct x).1
  | (dt, .bump device) => { r.wait dt with cache := r.cache.invalidate, device := device }
  | (dt, .exitFloor f xs) => ((r.wait dt).applyExitFloor f xs).1

end Rig

end ControlOfc.OpenFan
