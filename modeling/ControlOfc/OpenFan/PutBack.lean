import ControlOfc.OpenFan.Controller
import Mathlib.Data.List.FinRange
/-! # Putting a lost duty back (profile_engine/backends.rs, `OpenFanBackend::write`)

A control that is skipped this tick commands nothing, so its channels hold their last duty only while
the device keeps it. After a resume or a reconnect the write task puts them back at the duty they
held before. To start no task on the ticks that have nothing to put back, the backend remembers which
channels a task last found holding a lost duty, and the write generation that was read at.

* `Port` — what every caller of `set_pwm` shares. The controller stays locked while an exchange is on
  the wire (`inFlight`), and the generation may move at any moment, an exchange included.
* `Task` — where the blocking task stands, one lock of the controller at a time.
* `Backend` — the port, the task, the closure that waits for it, and `lost_duties`.

The generation is a `u64` in the source; here it does not wrap.
-/
namespace ControlOfc.OpenFan
open ControlOfc.Pwm

/-! ## The port -/

structure Port where
  ctrl : FanController
  cache : WriteCache
  now : Nat
  /-- `openfan_writes_paused`. -/
  paused : Bool
  /-- The `set_pwm` that holds the controller, waiting for its reply. -/
  inFlight : Option (Ch × Nat)
  /-- The lost duties the write tasks have put back, oldest first. -/
  putBacks : List (Ch × Nat)

namespace Port

def generation (q : Port) : Nat := q.cache.generation

def dutyBeforeLoss (q : Port) (i : Ch) : Option Nat := q.ctrl.dutyBeforeLoss q.cache i

/-- `set_pwm` up to the port, or to its answer. -/
def call (q : Port) (channel pwmPercent : Nat) : Port :=
  match q.ctrl.beginSetPwm q.generation q.now channel pwmPercent with
  | (ctrl, .answered _) => { q with ctrl }
  | (ctrl, .frame i effective) => { q with ctrl, inFlight := some (i, effective) }

/-- The rest of `set_pwm`, once its exchange has ended. -/
def reply (q : Port) (sent : Option SerialError) : Port :=
  match q.inFlight with
  | none => q
  | some (i, effective) =>
    let (ctrl, cache, _) := q.ctrl.finishSetPwm q.cache q.now i effective sent
    { q with ctrl, cache, inFlight := none }

end Port

/-- What anyone but the engine's write task does. A forced task, an API request and the writes of the
exit floor are calls. -/
inductive PortEvent where
  | elapse (dt : Nat)
  | bump
  | pause (on : Bool)
  | call (channel pwmPercent : Nat)
  | reply (sent : Option SerialError)
  | latch (floorPct : Nat)
  deriving DecidableEq

def Port.step (q : Port) : PortEvent → Port
  | .elapse dt => { q with now := q.now + dt }
  | .bump => { q with cache := q.cache.invalidate }
  | .pause on => { q with paused := on }
  | .call channel pwmPercent => q.call channel pwmPercent
  | .reply sent => q.reply sent
  | .latch floorPct => { q with ctrl := q.ctrl.beginExitFloor q.generation floorPct }

/-! ## The mask -/

/-- `1 << ch`. -/
def bitOf (i : Ch) : BitVec 16 := 1#16 <<< (i : Nat)

/-- `mask & (1 << ch) != 0`. -/
def inMask (mask : BitVec 16) (i : Ch) : Bool := mask &&& bitOf i != 0#16

/-- One round of the mask's fold (backends.rs:1119). -/
def Port.scan (q : Port) (mask : BitVec 16) (i : Ch) : BitVec 16 :=
  if (q.dutyBeforeLoss i).isSome then mask ||| bitOf i else mask

/-! ## The task -/

/-- The channels a write task was given: the commands, then the put-backs. -/
structure Work where
  chans : List (Nat × Nat)
  putBack : List Ch
  deriving DecidableEq

def Work.none : Work := ⟨[], []⟩

inductive Task where
  | done
  | writing (chans : List (Nat × Nat)) (putBack : List Ch) (checksPutBack : Bool)
  /-- The generation has been read; the controller is not locked yet. -/
  | recording (generation : Nat)
  /-- Under the lock, the channels of `rest` not looked at yet. -/
  | scanning (generation : Nat) (mask : BitVec 16) (rest : List Ch)
  | storing (generation : Nat) (mask : BitVec 16)

namespace Task

/-- What of its work the task has not come to. -/
def work : Task → Work
  | writing chans putBack _ => ⟨chans, putBack⟩
  | _ => .none

def isScanning : Task → Bool
  | scanning .. => true
  | _ => false

/-- The closure's first line that reads its lists. -/
def start (w : Work) : Task := .writing w.chans w.putBack (!w.putBack.isEmpty)

end Task

/-- The task's next step under the lock it needs (backends.rs:1050-1122); it waits while an exchange
is on the wire. -/
def Port.turn (q : Port) : Task → Port × Task
  | .done => (q, .done)
  | .writing ((ch, pct) :: chans) putBack checks =>
    if q.inFlight.isSome then (q, .writing ((ch, pct) :: chans) putBack checks)
    else if q.paused then (q, .writing chans putBack checks)
    else (q.call ch pct, .writing chans putBack checks)
  | .writing [] (ch :: putBack) checks =>
    if q.inFlight.isSome then (q, .writing [] (ch :: putBack) checks)
    else if q.paused then (q, .writing [] [] checks)
    else
      match q.dutyBeforeLoss ch with
      | none => (q, .writing [] putBack checks)
      | some duty => ({ q.call ch duty with putBacks := q.putBacks ++ [(ch, duty)] }, .writing [] putBack checks)
  | .writing [] [] checks => (q, if checks then .recording q.generation else .done)
  | .recording g => if q.inFlight.isSome then (q, .recording g) else (q, .scanning g 0#16 (List.finRange numChannels))
  | .scanning g mask (ch :: rest) => (q, .scanning g (q.scan mask ch) rest)
  | .scanning g mask [] => (q, .storing g mask)
  | .storing _ _ => (q, .done)

/-! ## The backend -/

structure Backend where
  port : Port
  lostDuties : Option (Nat × BitVec 16)
  /-- The generation the tick has read, before it decides. -/
  ticking : Option Nat
  /-- A closure that waits for the write in flight (`BoundedWrite::run`). -/
  queued : Option Work
  task : Task

/-- The backend's own moves: start the closure, drop it at the end of the budget, let the task go on. -/
inductive OwnMove where
  | issue
  | drop
  | turn
  deriving DecidableEq

namespace Backend

def start (q : Port) : Backend := ⟨q, none, none, none, .done⟩

/-- Is the controller locked? -/
def locked (s : Backend) : Bool := s.port.inFlight.isSome || s.task.isScanning

def move (s : Backend) : PortEvent ⊕ OwnMove → Backend
  | .inl e => { s with port := s.port.step e }
  | .inr .issue =>
    match s.task, s.queued with
    | .done, some w => { s with task := .start w, queued := none }
    | _, _ => s
  | .inr .drop => { s with queued := none }
  | .inr .turn =>
    { s with
      port := (s.port.turn s.task).1
      task := (s.port.turn s.task).2
      lostDuties := match s.task with | .storing g mask => some (g, mask) | _ => s.lostDuties }

/-- A call stands at the moment it gets the lock, and a reply ends an exchange. -/
def Allowed (s : Backend) : PortEvent ⊕ OwnMove → Prop
  | .inl (.call ..) => s.locked = false
  | .inl (.latch _) => s.locked = false
  | .inl (.reply _) => s.port.inFlight.isSome
  | _ => True

/-- The skipped channels no control commands this tick, in channel order. -/
def candidates (chans : List (Nat × Nat)) (skipped : Ch → Bool) : List Ch :=
  (List.finRange numChannels).filter fun i => skipped i && !chans.any fun c => c.1 == (i : Nat)

/-- The mask a decision at `generation` goes by (backends.rs:1026). -/
def lostMask (s : Backend) (generation : Nat) : BitVec 16 :=
  match s.lostDuties with
  | some (g, mask) => if g = generation then mask else BitVec.allOnes 16
  | none => BitVec.allOnes 16

/-- No task for a tick with nothing to write, nothing to give back and nothing outstanding. -/
def enqueue (s : Backend) (w : Work) (wanted : Bool) : Backend :=
  if w.chans.isEmpty && w.putBack.isEmpty && !wanted then s else { s with queued := some w }

/-- The rest of the tick's decision (backends.rs:1026-1045). `wanted`: there is something to give
back, or a write outstanding. -/
def decide (s : Backend) (generation : Nat) (chans : List (Nat × Nat)) (skipped : Ch → Bool) (wanted : Bool) : Backend :=
  { s with ticking := none }.enqueue
    ⟨chans, (candidates chans skipped).filter (inMask (s.lostMask generation))⟩ wanted

/-- The tick that asks the controller for every skipped channel. -/
def decidePlain (s : Backend) (chans : List (Nat × Nat)) (skipped : Ch → Bool) (wanted : Bool) : Backend :=
  { s with ticking := none }.enqueue ⟨chans, candidates chans skipped⟩ wanted

end Backend

inductive BackendEvent where
  | move (m : PortEvent ⊕ OwnMove)
  | readGeneration
  | decide (chans : List (Nat × Nat)) (skipped : Ch → Bool) (wanted : Bool)

namespace Backend

/-- The engine awaits one tick's write before it begins the next, so a tick finds no closure waiting. -/
def step (s : Backend) : BackendEvent → Backend
  | .move m => s.move m
  | .readGeneration => if s.queued.isSome then s else { s with ticking := some s.port.generation }
  | .decide chans skipped wanted =>
    match s.ticking with
    | some g => s.decide g chans skipped wanted
    | none => s

/-- The events of a run are taken when they can be. -/
def Possible (s : Backend) : BackendEvent → Prop
  | .move m => s.Allowed m
  | _ => True

end Backend

end ControlOfc.OpenFan
