import ControlOfc.OpenFan.PutBack
/-! # An emergency and what comes after it (profile_engine/backends.rs, `OpenFanBackend`)

At 100 % the thermal force writes every channel, and records each one's duty before its first write.
When the emergency is over, the first task that may gives every channel no profile names its duty back.
The recorded duties live in one slot, taken once per emergency, taken out by the give-back and put back
whole when a pause interrupts it.

* `Closure`, `Stage` — the blocking tasks of `write` and `force_all_with_floor`, one lock of the
  controller at a time, over the `Port` that every caller of `set_pwm` shares.
* `EmergencyBackend` — the slot, the held channels, the gates and the log.

The put-backs a tick asks for are given with it; which of them it leaves out is `OpenFan.PutBack`'s.
-/
namespace ControlOfc.OpenFan
open ControlOfc.Pwm

/-- A `Vec<Option<u8>>` of `NUM_CHANNELS` entries. -/
abbrev Duties := Ch → Option Nat

/-- A `HashSet<u8>` of channels. -/
abbrev Channels := Ch → Bool

namespace Port

def lastCommandedPct (q : Port) (i : Ch) : Option Nat := q.ctrl.lastCommandedPct q.cache i

def lastKnownDuty (q : Port) (i : Ch) : Option Nat := q.ctrl.lastKnownDuty q.cache i

/-- The answer of a `set_pwm` that does not reach the wire. -/
def answer (q : Port) (channel pwmPercent : Nat) : Option (Except FanControlError SetPwmResult) :=
  match (q.ctrl.beginSetPwm q.generation q.now channel pwmPercent).2 with
  | .answered r => some r
  | .frame _ _ => none

end Port

/-- `ForceReach`, the channels of it. -/
inductive Reach where
  | all
  | profileMembers (members : Channels) (giveBack : Bool) (held : Channels)

/-- What `force_all_with_floor` hands to its task. -/
structure Force where
  pct : Nat
  /-- This tick's profile duties, a floor under the forced one. -/
  floors : Duties
  reach : Reach

namespace Force

def recordSnapshot (f : Force) : Bool :=
  match f.reach with
  | .all => true
  | .profileMembers .. => false

def targets (f : Force) : List Ch :=
  match f.reach with
  | .all => List.finRange numChannels
  | .profileMembers members _ _ => (List.finRange numChannels).filter members

def held (f : Force) : Channels :=
  match f.reach with
  | .all => fun _ => false
  | .profileMembers _ _ held => held

def giveBack (f : Force) : Option Channels :=
  match f.reach with
  | .profileMembers members true _ => some members
  | _ => none

/-- The duty of one forced write (backends.rs:1605-1614). -/
def duty (f : Force) (q : Port) (i : Ch) : Nat :=
  let heldDuty := if f.held i then q.lastKnownDuty i else none
  max (max f.pct ((f.floors i).getD 0)) (heldDuty.getD 0)

end Force

/-- A task that waits for the one in flight. -/
inductive Closure where
  | write (w : Work) (giveBack : Option Channels)
  | force (f : Force)

/-- `returnable` (backends.rs:1448): a member is the profile's to drive, and an unknown duty is not
guessed. -/
def returnable (duties : Duties) (members : Channels) (floorPct : Nat) (i : Ch) : Option Nat :=
  if members i then none else (duties i).map fun d => exitDuty (some d) floorPct

/-- Where the task in flight stands. -/
inductive Stage where
  | idle
  | writing (t : Task) (giveBack : Option Channels)
  /-- `record_pre_emergency`, before its first look. -/
  | checking (f : Force)
  /-- `record_pre_emergency`, the slot empty and the writes not paused, before the lock. -/
  | reading (f : Force)
  | forcing (f : Force) (rest : List Ch)
  /-- `give_back_openfan`, before its first look. -/
  | release (members : Channels)
  | releasing (members : Channels) (floorPct : Nat) (rest : List Ch)
  /-- `give_back_pre_emergency`, before its first look. -/
  | taking (members : Channels)
  | returning (duties : Duties) (members : Channels) (floorPct : Nat) (rest : List Ch)

namespace Stage

/-- The give-back of a task, where it has one. -/
def afterWrites : Option Channels → Stage
  | some members => .release members
  | none => .idle

def start : Closure → Stage
  | .write w giveBack => .writing (.start w) giveBack
  | .force f => if f.recordSnapshot then .checking f else .forcing f f.targets

end Stage

/-- What is noted of a run, for the statements about it. -/
inductive Happening where
  /-- The slot was filled: was the pause held, and what was each channel last known to hold? -/
  | snapshot (paused : Bool) (known : Duties)
  | began (members : Channels) (floorPct : Nat)
  | returned (i : Ch) (pct : Nat)
  | interrupted
  | finished

structure EmergencyBackend where
  port : Port
  /-- `verify_active_at`. -/
  verify : Bool
  /-- `openfan_writes_suspended`. -/
  suspended : Bool
  exitFloor : Nat
  preEmergency : Option Duties
  held : Channels
  queued : Option Closure
  task : Stage
  /-- The released channel whose write the task waits for. -/
  awaiting : Option Ch
  log : List Happening

inductive EmergencyEvent where
  | port (e : PortEvent)
  | suspend (on : Bool)
  | exitFloor (pct : Nat)
  | tick (w : Work) (members : Channels)
  | force (f : Force)
  | issue
  | drop
  | turn

namespace EmergencyBackend

def start (q : Port) (exitFloor : Nat) : EmergencyBackend :=
  ⟨{ q with paused := false }, false, false, exitFloor, none, fun _ => false, none, .idle, none, []⟩

def hold (s : EmergencyBackend) (p : Channels) : EmergencyBackend := { s with held := fun i => s.held i || p i }

def unhold (s : EmergencyBackend) (i : Ch) : EmergencyBackend := { s with held := Function.update s.held i false }

/-- A closure waits for the write in flight; the engine awaits it, so there is one at most. -/
def enqueue (s : EmergencyBackend) (c : Closure) : EmergencyBackend :=
  if s.queued.isSome then s else { s with queued := some c }

/-- `apply_and_give_back` (backends.rs:1000), and `write` up to its task. -/
def tick (s : EmergencyBackend) (w : Work) (members : Channels) : EmergencyBackend :=
  let unheld := (List.finRange numChannels).any fun i => s.held i && !members i
  let giveBack := if unheld || s.preEmergency.isSome then some members else none
  let outstanding := match s.task with | .idle => false | _ => true
  if w.chans.isEmpty && w.putBack.isEmpty && giveBack.isNone && !outstanding then s
  else s.enqueue (.write w giveBack)

/-- `force_all_with_floor` up to its task (backends.rs:1527-1590). -/
def force (s : EmergencyBackend) (f : Force) : EmergencyBackend :=
  (if f.recordSnapshot then s else s.hold fun i => f.targets.contains i).enqueue (.force f)

/-- The channels the task of a write commands are the engine's before it writes them. -/
def issue (s : EmergencyBackend) : EmergencyBackend :=
  match s.task, s.queued with
  | .idle, some c =>
    let s := { s with task := .start c, queued := none }
    match c with
    | .write w _ => s.hold fun i => w.chans.any fun c => c.1 == (i : Nat)
    | .force _ => s
  | _, _ => s

/-- One lock of `write`'s commands and put-backs; a channel put back is held. -/
def turnWriting (s : EmergencyBackend) (t : Task) (giveBack : Option Channels) : EmergencyBackend :=
  let (port, t') := s.port.turn t
  let s' := match t with
    | .writing [] (i :: _) _ => if port.putBacks.length > s.port.putBacks.length then s.hold (· == i) else s
    | _ => s
  { s' with
    port
    task := match t' with | .done => .afterWrites giveBack | _ => .writing t' giveBack }

/-- `record_pre_emergency` up to the lock (backends.rs:1301-1306): under a pause every entry is
unknown. -/
def turnChecking (s : EmergencyBackend) (f : Force) : EmergencyBackend :=
  if s.preEmergency.isSome then { s with task := .forcing f f.targets }
  else if s.port.paused then
    { s with
      preEmergency := some fun _ => none
      task := .forcing f f.targets
      log := s.log ++ [.snapshot true s.port.lastKnownDuty] }
  else { s with task := .reading f }

/-- `record_pre_emergency` from the lock on (backends.rs:1311-1320). -/
def turnReading (s : EmergencyBackend) (f : Force) : EmergencyBackend :=
  if s.port.inFlight.isSome then s
  else
    match s.preEmergency with
    | some _ => { s with task := .forcing f f.targets }
    | none =>
      { s with
        preEmergency := some s.port.lastKnownDuty
        task := .forcing f f.targets
        log := s.log ++ [.snapshot s.port.paused s.port.lastKnownDuty] }

/-- One channel of the forced scan (backends.rs:1592-1617). -/
def turnForcing (s : EmergencyBackend) (f : Force) : List Ch → EmergencyBackend
  | [] => { s with task := .afterWrites f.giveBack }
  | i :: rest =>
    if s.port.inFlight.isSome then s
    else if s.suspended then { s with task := .afterWrites f.giveBack }
    else { s with port := s.port.call i (f.duty s.port i), task := .forcing f rest }

/-- One channel of `release_unheld_openfan` (backends.rs:1365-1417): it stays held where its write
failed. -/
def turnReleasing (s : EmergencyBackend) (members : Channels) (floorPct : Nat) : List Ch → EmergencyBackend
  | [] => { s with task := .taking members }
  | i :: rest =>
    if s.port.inFlight.isSome then s
    else if s.port.paused then { s with task := .taking members }
    else
      let s' := { s with task := .releasing members floorPct rest }
      let target := exitDuty (s.port.lastKnownDuty i) floorPct
      if 0 < floorPct ∧ some target ≠ s.port.lastCommandedPct i then
        let s'' := { s' with port := s.port.call i target }
        match s.port.answer i target with
        | some (.ok _) => s''.unhold i
        | some (.error _) => s''
        | none => { s'' with awaiting := some i }
      else s'.unhold i

/-- One channel of `give_back_pre_emergency` (backends.rs:1453-1497). On a pause the whole snapshot goes
back. -/
def turnReturning (s : EmergencyBackend) (duties : Duties) (members : Channels) (floorPct : Nat) :
    List Ch → EmergencyBackend
  | [] => { s with task := .idle, log := s.log ++ [.finished] }
  | i :: rest =>
    match returnable duties members floorPct i with
    | none => { s with task := .returning duties members floorPct rest }
    | some duty =>
      if s.port.inFlight.isSome then s
      else if s.port.paused then
        { s with
          preEmergency := s.preEmergency.or (some duties)
          task := .idle
          log := s.log ++ [.interrupted] }
      else
        { s with
          port := s.port.call i duty
          task := .returning duties members floorPct rest
          log := s.log ++ [.returned i duty] }

def turn (s : EmergencyBackend) : EmergencyBackend :=
  match s.task with
  | .idle => s
  | .writing t giveBack => s.turnWriting t giveBack
  | .checking f => s.turnChecking f
  | .reading f => s.turnReading f
  | .forcing f rest => s.turnForcing f rest
  | .release members =>
    { s with task := .releasing members s.exitFloor ((List.finRange numChannels).filter fun i => s.held i && !members i) }
  | .releasing members floorPct rest => s.turnReleasing members floorPct rest
  | .taking members =>
    if s.port.paused then { s with task := .idle }
    else
      match s.preEmergency with
      | none => { s with task := .idle }
      | some duties =>
        { s with
          preEmergency := none
          task := .returning duties members s.exitFloor (List.finRange numChannels)
          log := s.log ++ [.began members s.exitFloor] }
  | .returning duties members floorPct rest => s.turnReturning duties members floorPct rest

/-- A reply ends the write a released channel waits for, if there is one. -/
def reply (s : EmergencyBackend) (sent : Option SerialError) : EmergencyBackend :=
  let s' := { s with port := s.port.reply sent, awaiting := none }
  match s.awaiting, sent with
  | some i, none => s'.unhold i
  | _, _ => s'

def step (s : EmergencyBackend) : EmergencyEvent → EmergencyBackend
  | .port (.pause on) => { s with verify := on, port := { s.port with paused := on || s.suspended } }
  | .port (.reply sent) => s.reply sent
  | .port e => { s with port := s.port.step e }
  | .suspend on => { s with suspended := on, port := { s.port with paused := s.verify || on } }
  | .exitFloor pct => { s with exitFloor := pct }
  | .tick w members => s.tick w members
  | .force f => s.force f
  | .issue => s.issue
  | .drop => { s with queued := none }
  | .turn => s.turn

end EmergencyBackend

end ControlOfc.OpenFan
