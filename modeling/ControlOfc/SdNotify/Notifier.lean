import ControlOfc.Lib.Prog
import Mathlib.Data.PNat.Basic
/-! # Notifications to systemd (sd_notify.rs:155-508)

Three calls set `WATCHDOG_USEC=`, behind one lock: the stop, its retry and a sleep transition. The engine's
keep-alive takes no lock. `watch_sleep` runs one transition at a time on a blocking thread and learns its
outcome only when it has joined it; its channel stays open for the life of the process.

A world carries along when each message was sent and when its sender had looked at the flag, in events, and
when `watch_sleep` last took the outcome of a widening and of a failed narrowing. Time counts microseconds.
-/
namespace ControlOfc.SdNotify
open Prog

/-! ## Messages -/

/-- `SleepTransition` (sd_notify.rs:134). -/
inductive SleepTransition where
  | entering
  | resumed
  deriving DecidableEq, Repr

/-- `SleepOutcome` (sd_notify.rs:144). -/
inductive SleepOutcome where
  | sent
  | skipped
  | failed
  deriving DecidableEq, Repr

/-- The fields of one datagram. -/
structure Message where
  keepAlive : Bool
  restartReset : Bool
  stopping : Bool
  watchdogUsec : Option Nat
  deriving DecidableEq, Repr

/-- `STOP_MESSAGE` (sd_notify.rs:446). -/
def stopMessage : Message := ⟨false, false, true, some 0⟩

/-- `SLEEP_WATCHDOG` (sd_notify.rs:117). -/
def sleepWatchdog : Nat := 120000000

/-- `SLEEP_RESTORE_RETRY` (sd_notify.rs:120). -/
def sleepRestoreRetry : Nat := 1000000

/-- `RESTART_RESET_AFTER_TICKS` (sd_notify.rs:101). -/
def restartResetAfterTicks : Nat := 300

/-- `ONE_SHOT_RETRIES` (sd_notify.rs:104). -/
def oneShotRetries : Nat := 50

/-- The value of a transition (sd_notify.rs:385-388). -/
def transitionUsec (configured : ℕ+) : SleepTransition → Nat
  | .entering => max configured sleepWatchdog
  | .resumed => configured

def sleepMessage (configured : ℕ+) (t : SleepTransition) : Message :=
  ⟨false, false, false, some (transitionUsec configured t)⟩

/-! ## The world -/

inductive Sender where
  | engine
  | stop
  | sleep (t : SleepTransition)
  deriving DecidableEq, Repr

/-- What the socket answers: a full queue is told apart from other errors. -/
inductive SendResult where
  | ok
  | wouldBlock
  | error
  deriving DecidableEq, Repr

/-- One attempt to send. -/
structure Sent where
  sender : Sender
  message : Message
  delivered : Bool
  time : Nat
  /-- The event at which the sender had found the stop not begun. -/
  checkedAt : Nat
  sentAt : Nat
  deriving DecidableEq, Repr

/-- Where the engine's `watchdog_tick` stands. -/
inductive EnginePhase where
  | idle
  | checked (checkedAt : Nat)
  | sending (checkedAt : Nat) (resetDue : Bool) (message : Message)
  deriving DecidableEq, Repr

/-- Where `watch_sleep` stands. -/
inductive SleepPhase where
  | waiting
  | chosen (t : SleepTransition)
  /-- The blocking task holds the lock; `landed` once its message is delivered. -/
  | running (t : SleepTransition) (landed : Bool)
  | done (t : SleepTransition) (outcome : SleepOutcome)
  deriving DecidableEq, Repr

structure World where
  now : Nat
  events : Nat
  watchdog : Option ℕ+
  stopping : Bool
  /-- The event that set `stopping`. -/
  stoppedAt : Option Nat
  disarmed : Bool
  engine : EnginePhase
  ticks : Nat
  restartResetSent : Bool
  sleep : SleepPhase
  narrowAt : Option Nat
  widenTakenAt : Option Nat
  failTakenAt : Option Nat
  log : List Sent
  deriving DecidableEq, Repr

/-- systemd's watchdog after a log: the last value delivered. -/
def valueAfter (initial : Option Nat) (log : List Sent) : Option Nat :=
  log.foldl (fun value a => if a.delivered then a.message.watchdogUsec.or value else value) initial

def World.value (w : World) : Option Nat := valueAfter (w.watchdog.map (·.val)) w.log

/-- A widening was delivered and no narrowing since. -/
def isWide (log : List Sent) : Bool :=
  log.foldl (fun wide a => if a.delivered then
    match a.sender with
    | .sleep .entering => true
    | .sleep .resumed => false
    | _ => wide else wide) false

/-! ## The calls behind the lock -/

inductive Effect where
  | setStopping
  | loadStopping
  | loadDisarmed
  | setDisarmed
  | send (sender : Sender) (message : Message)
  deriving DecidableEq, Repr

abbrev Answer : Effect → Type
  | .loadStopping | .loadDisarmed => Bool
  | .send _ _ => SendResult
  | .setStopping | .setDisarmed => Unit

abbrev Call := Prog Effect Answer

def perform (e : Effect) : Call (Answer e) := ask e

/-- `send` (sd_notify.rs:433). -/
def send (sender : Sender) (message : Message) : Call SendResult := perform (.send sender message)

/-- `send_once` (sd_notify.rs:418), with the retries left. -/
def sendOnce (sender : Sender) (message : Message) : Nat → Call Bool
  | 0 => do
    match ← send sender message with
    | .ok => return true
    | _ => return false
  | retries + 1 => do
    match ← send sender message with
    | .ok => return true
    | .wouldBlock => sendOnce sender message retries
    | .error => return false

/-- `stopping` (sd_notify.rs:333). -/
def stopping : Call (Option SleepOutcome) := do
  perform .setStopping
  if ← sendOnce .stop stopMessage oneShotRetries then
    perform .setDisarmed
  return none

/-- `resend_disarm_if_lost` (sd_notify.rs:354). -/
def resendDisarmIfLost : Call (Option SleepOutcome) := do
  if !(← perform .loadStopping) then return none
  if ← perform .loadDisarmed then return none
  if ← sendOnce .stop stopMessage oneShotRetries then
    perform .setDisarmed
  return none

/-- `sleep_transition` (sd_notify.rs:377). -/
def sleepTransition (watchdog : Option ℕ+) (t : SleepTransition) : Call (Option SleepOutcome) :=
  match watchdog with
  | none => return some .skipped
  | some configured => do
    if ← perform .loadStopping then return some .skipped
    if ← sendOnce (.sleep t) (sleepMessage configured t) oneShotRetries then return some .sent
    return some .failed

namespace World

/-- An attempt, entered in the log; a transition's marks its task. -/
def sending (w : World) (sender : Sender) (message : Message) (checkedAt : Nat) (c : SendResult) : World :=
  { w with
    events := w.events + 1
    log := w.log ++ [⟨sender, message, c = .ok, w.now, checkedAt, w.events⟩]
    sleep := match sender, w.sleep with
      | .sleep _, .running t landed => .running t (landed || c = .ok)
      | _, phase => phase }

def exec : (e : Effect) → SendResult → World → Answer e × World
  | .setStopping, _, w =>
    ((), { w with events := w.events + 1, stopping := true, stoppedAt := some (w.stoppedAt.getD w.events) })
  | .loadStopping, _, w => (w.stopping, w)
  | .loadDisarmed, _, w => (w.disarmed, w)
  | .setDisarmed, _, w => ((), { w with disarmed := true })
  | .send sender message, c, w => (c, w.sending sender message w.events c)

end World

/-! ## What happens beside them -/

inductive Beside where
  | elapse (d : Nat)
  /-- The engine's steps: the flag, the count, the send. -/
  | tickCheck
  | tickCount
  | tickSend (c : SendResult)
  | event (t : SleepTransition)
  /-- `sleep_until` returns. -/
  | fallback
  /-- `watch_sleep` takes the outcome of its task. -/
  | join
  deriving DecidableEq, Repr

/-- The message of a tick (sd_notify.rs:302-307). -/
def tickMessage (watchdog resetDue : Bool) : Option Message :=
  if watchdog || resetDue then some ⟨watchdog, resetDue, false, none⟩ else none

/-- The next deadline (sd_notify.rs:488-497). -/
def nextNarrow (fallback now : Nat) (narrowAt : Option Nat) : SleepTransition → SleepOutcome → Option Nat
  | .entering, .sent => some (now + fallback)
  | .entering, .failed => narrowAt
  | .resumed, .failed => some (now + sleepRestoreRetry)
  | .resumed, .sent | _, .skipped => none

/-- A step of what takes no lock. -/
def World.beside (fallback : Nat) (w : World) : Beside → World
  | .elapse d => { w with now := w.now + d }
  | .tickCheck =>
    match w.engine with
    | .idle => if w.stopping then w else { w with events := w.events + 1, engine := .checked w.events }
    | _ => w
  | .tickCount =>
    match w.engine with
    | .checked checkedAt =>
      let resetDue := decide (restartResetAfterTicks ≤ w.ticks + 1) && !w.restartResetSent
      { w with
        ticks := w.ticks + 1
        engine := match tickMessage w.watchdog.isSome resetDue with
          | some message => .sending checkedAt resetDue message
          | none => .idle }
    | _ => w
  | .tickSend c =>
    match w.engine with
    | .sending checkedAt resetDue message =>
      { w.sending .engine message checkedAt c with
        engine := .idle
        restartResetSent := w.restartResetSent || (resetDue && c = .ok) }
    | _ => w
  | .event t => if w.sleep = .waiting then { w with sleep := .chosen t } else w
  | .fallback =>
    match w.sleep, w.narrowAt with
    | .waiting, some deadline => if deadline ≤ w.now then { w with sleep := .chosen .resumed } else w
    | _, _ => w
  | .join =>
    match w.sleep with
    | .done t outcome =>
      { w with
        sleep := .waiting
        narrowAt := nextNarrow fallback w.now w.narrowAt t outcome
        widenTakenAt := if t = .entering ∧ outcome = .sent then some w.now else w.widenTakenAt
        failTakenAt := if t = .resumed ∧ outcome = .failed then some w.now else w.failTakenAt }
    | _ => w

/-! ## The system -/

inductive Task where
  | stopping
  | resendDisarmIfLost
  | sleep (t : SleepTransition)
  deriving DecidableEq, Repr

/-- The calls as tasks behind the `WATCHDOG_USEC=` lock. -/
def rules (fallback : Nat) : Locked.Rules World Task Effect Answer (Option SleepOutcome) Beside SendResult where
  exec := World.exec
  start
    | .stopping, w => some (stopping, w)
    | .resendDisarmIfLost, w => some (resendDisarmIfLost, w)
    | .sleep t, w =>
      if w.sleep = .chosen t then some (sleepTransition w.watchdog t, { w with sleep := .running t false }) else none
  finish
    | .sleep t, outcome, w => { w with sleep := .done t (outcome.getD .failed) }
    | _, _, w => w
  move m w := w.beside fallback m
  died _ w := w

abbrev System := Locked World Task Effect Answer (Option SleepOutcome)

inductive Event where
  | start (j : Task)
  | eff (c : SendResult)
  | finish
  | beside (m : Beside)
  deriving DecidableEq, Repr

def Event.move : Event → Locked.Move Task Beside SendResult
  | .start j => .start j
  | .eff c => .eff c
  | .finish => .finish
  | .beside m => .move m

def step (fallback : Nat) (s : System) (e : Event) : System := Locked.step (rules fallback) s e.move

/-- `Notifier::new`, and `watch_sleep` at its first wait. -/
def start (watchdog : Option ℕ+) : System where
  running := none
  world :=
    { now := 0, events := 0, watchdog := watchdog, stopping := false, stoppedAt := none, disarmed := false
      engine := .idle, ticks := 0, restartResetSent := false, sleep := .waiting, narrowAt := none
      widenTakenAt := none, failTakenAt := none, log := [] }

end ControlOfc.SdNotify
