import ControlOfc.Diagnostics.Published
import ControlOfc.Health.StateCache
import ControlOfc.Lib.KMap
/-! # The characterisation slot (hwmon_ctl.rs:1143-1594, validation.rs:1252-1360)

One slot holds the current or most recent run, one flag asks for a stop. A start request claims the pause slot,
takes the lease, numbers its run and installs it under the slot's lock, which also clears the flag; its sweep
runs on in a task of its own and publishes under the same lock. A cancel checks and sets under that lock too.

A sweep goes along the transcript of `runSweep` for some surroundings, one question at a time; where the answer
is the shared state's (the cancel flag, the pause of a keepalive) the step waits for a state that gives it. What
a run keeps and nothing here reads (its request, its derived summary, its time) is left out.
-/
namespace ControlOfc.Diagnostics
open Sweep Health

/-- `CharacterizationRun` (characterization.rs:454); no state is `running`. -/
structure CharacterizationRun where
  runId : Nat
  headerId : String
  state : Option EndState
  points : List CharPoint
  originalPct : Option Nat
  restoreFailed : Bool
  restoreOutcome : RestoreOutcome
  detail : Option String
  currentStep : Option News
  deriving DecidableEq, Repr

namespace CharacterizationRun

def isRunning (r : CharacterizationRun) : Bool := r.state.isNone

/-- A run as the start request installs it (hwmon_ctl.rs:1148-1176). -/
def install (runId : Nat) (headerId : String) : CharacterizationRun :=
  { runId := runId, headerId := headerId, state := none, points := [], originalPct := none, restoreFailed := false
    restoreOutcome := .pending, detail := none, currentStep := none }

/-- `publish` and `announce`, fenced on the run (hwmon_ctl.rs:1273-1289). -/
def hear (r : CharacterizationRun) (runId : Nat) (news : News) : CharacterizationRun :=
  if r.runId = runId ∧ r.isRunning then
    match news with
    | .point p => { r with points := r.points ++ [p] }
    | phase => { r with currentStep := some phase }
  else r

/-- The terminal publish, fenced on the run alone (hwmon_ctl.rs:1362-1383). -/
def finish (r : CharacterizationRun) (runId : Nat) (outcome : SweepOutcome) (restore : RestoreOutcome) : CharacterizationRun :=
  if r.runId = runId then
    { r with
      points := outcome.points, originalPct := outcome.originalPct, state := some outcome.state, detail := outcome.detail
      restoreFailed := restore.headerLeftMoved, restoreOutcome := restore, currentStep := none }
  else r

end CharacterizationRun

/-- `VERIFY_PAUSE_DEADMAN`. -/
def verifyPauseDeadman : Nat := 30000000000

inductive SweepPhase where
  | sweeping
  | published
  | released
  deriving DecidableEq, Repr

/-- A detached sweep. -/
structure SweepTask where
  /-- The epoch of its pause. -/
  epoch : Nat
  said : List SweepEvent
  todo : List SweepEvent
  /-- What it ends with; a sweep that was cut does not end. -/
  ending : Option (SweepOutcome × RestoreOutcome)
  phase : SweepPhase

abbrev Surroundings := List SweepEvent → (q : Question News) → Answer HwmonVerifyState q

/-- A sweep in some surroundings. -/
def SweepTask.launch (epoch : Nat) (args : SweepArgs) (fuel : Nat) (env : Surroundings) : SweepTask :=
  match runSweep args fuel ⟨env, [], { vars := () }⟩ with
  | (.ok outcome, s) =>
    { epoch := epoch, said := [], todo := s.said, ending := outcome.map (·, s.mem.report), phase := .sweeping }
  | (.error e, _) => e.elim

/-- Where `watch_run` stands. -/
inductive WatchPhase where
  | polling
  /-- The snapshot was its own run, still running. -/
  | checking
  | fallingThrough (finalRun : Option CharacterizationRun)
  | finished (finalRun : Option CharacterizationRun)
  | sessionEnded
  deriving DecidableEq, Repr

structure Watch where
  runId : Option Nat
  phase : WatchPhase
  deriving DecidableEq, Repr

structure RunSlot where
  daemon : DaemonState
  /-- The next number of `next_run_id`. -/
  nextRun : Nat
  /-- Start requests that hold a pause, by its epoch; that hold the lease too; that have numbered their run. -/
  paused : List Nat
  leased : List Nat
  numbered : List (Nat × Nat)
  slot : Option CharacterizationRun
  cancel : Bool
  sweeps : KMap Nat SweepTask
  watches : KMap Nat Watch
  /-- The runs in the order of their installation. -/
  installed : List Nat
  /-- The runs a cancel was accepted for. -/
  accepted : List Nat

namespace RunSlot

inductive Event where
  /-- What others do to the pause slot, and the clock. -/
  | cache (op : CacheOp)
  | beginVerifyPause
  | takeVerifyLease (epoch : Nat) (taken : Bool)
  | dropRequest (epoch : Nat)
  | number (epoch : Nat)
  | install (epoch runId : Nat) (headerId : String) (args : SweepArgs) (fuel : Nat) (env : Surroundings)
  | sweepStep (runId : Nat)
  | terminal (runId : Nat)
  | release (runId : Nat)
  | delete
  | watch (session : Nat) (runId : Option Nat)
  | deadline (session : Nat)
  | snapshot (session : Nat)
  | sessionLive (session : Nat) (live : Bool)
  | fallThrough (session : Nat)

variable (s : RunSlot)

/-- Whether the shared state gives a sweep this answer. -/
def agrees (t : SweepTask) : SweepEvent → Bool
  | ⟨.cancel, b⟩ => b = s.cancel
  | ⟨.keepalive, b⟩ => !b || (s.daemon.renewVerify t.epoch verifyPauseDeadman).2
  | _ => true

/-- What a question of run `runId` does to the shared state. -/
def heard (runId : Nat) (t : SweepTask) : SweepEvent → RunSlot
  | ⟨.keepalive, _⟩ => { s with daemon := (s.daemon.renewVerify t.epoch verifyPauseDeadman).1 }
  | ⟨.publish news, _⟩ => { s with slot := s.slot.map (·.hear runId news) }
  | _ => s

def sweepStep (runId : Nat) : RunSlot :=
  match s.sweeps.get? runId with
  | some t =>
    match t.todo with
    | e :: rest =>
      if s.agrees t e then
        { s.heard runId t e with sweeps := s.sweeps.insert runId { t with said := t.said ++ [e], todo := rest } }
      else s
    | [] => s
  | none => s

def terminal (runId : Nat) : RunSlot :=
  match s.sweeps.get? runId with
  | some t =>
    match t.phase, t.todo, t.ending with
    | .sweeping, [], some (outcome, restore) =>
      { s with
        slot := s.slot.map (·.finish runId outcome restore)
        sweeps := s.sweeps.insert runId { t with phase := .published } }
    | _, _, _ => s
  | none => s

/-- The pause guard drops after the terminal publish. -/
def release (runId : Nat) : RunSlot :=
  match s.sweeps.get? runId with
  | some t =>
    if t.phase = .published then
      { s with
        daemon := (s.daemon.endVerify t.epoch).1
        sweeps := s.sweeps.insert runId { t with phase := .released } }
    else s
  | none => s

/-- A cancel that found its run running. -/
def accept (runId : Nat) : RunSlot := { s with cancel := true, accepted := s.accepted ++ [runId] }

/-- `characterization_cancel_handler` (hwmon_ctl.rs:1571). -/
def delete : RunSlot :=
  match s.slot with
  | some run => if run.isRunning then s.accept run.runId else s
  | none => s

/-- `cancel_run_fenced` (validation.rs:1252). -/
def cancelRunFenced (runId : Option Nat) : RunSlot :=
  match runId, s.slot with
  | some runId, some run => if run.isRunning ∧ run.runId = runId then s.accept runId else s
  | _, _ => s

def setWatch (session : Nat) (w : Watch) (phase : WatchPhase) : RunSlot :=
  { s with watches := s.watches.insert session { w with phase := phase } }

/-- The snapshot of one pass of `watch_run` (validation.rs:1327-1342). -/
def snapshot (session : Nat) (w : Watch) : RunSlot :=
  match s.slot with
  | some run =>
    if some run.runId = w.runId then
      if run.isRunning then s.setWatch session w .checking else s.setWatch session w (.fallingThrough (some run))
    else s.setWatch session w (.fallingThrough none)
  | none => s.setWatch session w (.fallingThrough none)

/-- A step of `watch_run` (validation.rs:1313). -/
def watchStep (session : Nat) (f : RunSlot → Watch → RunSlot) : RunSlot :=
  match s.watches.get? session with
  | some w => f s w
  | none => s

def step : Event → RunSlot
  | .cache op => { s with daemon := s.daemon.step op }
  | .beginVerifyPause =>
    match s.daemon.tryBeginVerify verifyPauseDeadman with
    | (daemon, some epoch) => { s with daemon := daemon, paused := epoch :: s.paused }
    | (_, none) => s
  | .takeVerifyLease epoch taken =>
    if epoch ∈ s.paused then
      let s := { s with paused := s.paused.erase epoch }
      if taken then { s with leased := epoch :: s.leased } else { s with daemon := (s.daemon.endVerify epoch).1 }
    else s
  | .dropRequest epoch =>
    if epoch ∈ s.paused then
      { s with paused := s.paused.erase epoch, daemon := (s.daemon.endVerify epoch).1 }
    else s
  | .number epoch =>
    if epoch ∈ s.leased then
      { s with leased := s.leased.erase epoch, numbered := (epoch, s.nextRun) :: s.numbered, nextRun := s.nextRun + 1 }
    else s
  | .install epoch runId headerId args fuel env =>
    if (epoch, runId) ∈ s.numbered then
      { s with
        numbered := s.numbered.erase (epoch, runId)
        cancel := false
        slot := some (.install runId headerId)
        sweeps := s.sweeps.insert runId (.launch epoch args fuel env)
        installed := s.installed ++ [runId] }
    else s
  | .sweepStep runId => s.sweepStep runId
  | .terminal runId => s.terminal runId
  | .release runId => s.release runId
  | .delete => s.delete
  | .watch session runId =>
    if (s.watches.get? session).isNone then
      { s with watches := s.watches.insert session ⟨runId, .polling⟩ }
    else s
  | .deadline session => s.watchStep session fun s w =>
    if w.phase = .polling then s.setWatch session w (.fallingThrough none) else s
  | .snapshot session => s.watchStep session fun s w => if w.phase = .polling then s.snapshot session w else s
  | .sessionLive session live => s.watchStep session fun s w =>
    if w.phase = .checking then
      if live then s.setWatch session w .polling else (s.cancelRunFenced w.runId).setWatch session w .sessionEnded
    else s
  | .fallThrough session => s.watchStep session fun s w =>
    match w.phase with
    | .fallingThrough finalRun => (s.cancelRunFenced w.runId).setWatch session w (.finished finalRun)
    | _ => s

/-- At boot: no run yet, the counter at one. -/
def start (daemon : DaemonState) : RunSlot where
  daemon := daemon
  nextRun := 1
  paused := []
  leased := []
  numbered := []
  slot := none
  cancel := false
  sweeps := .empty
  watches := .empty
  installed := []
  accepted := []

end RunSlot

end ControlOfc.Diagnostics
