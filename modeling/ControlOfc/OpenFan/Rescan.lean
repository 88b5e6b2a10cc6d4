import ControlOfc.Lib.Machine
import Mathlib.Data.List.Sort
import Mathlib.Logic.Function.Basic
/-! # Adopting a controller after boot (api/handlers/openfan.rs, serial/adoption.rs)

A rescan looks whether the daemon stops, whether an update runs, which ports there are, whether it must wait
and whether a controller is there, each at its own time, and then takes the probes' flag. Its probe runs
detached: a caller that goes away stops neither the probe nor what it adopts. The post-boot search calls the
same handler. An update of a silent board holds the flag too, and adopts the board it brought back.

* `World.handler` — the handler's next step; it has one `await`, at the answer, where its future may go.
* `World.task` — the detached task's next step.
* `World.adopt` — `adopt_openfan_controller`, one step for each structure it looks at under its lock.
* `World.update` — what a firmware update does with the claim, the flag and the lock.
-/
namespace ControlOfc.OpenFan.Rescan

/-- `OPENFAN_RESCAN_COOLDOWN` (openfan.rs:32), in milliseconds. -/
def openfanRescanCooldown : Nat := 10000

/-! ## Ports -/

/-- `serial_port_candidates_enumerated`: the configured port first, no port twice. -/
def serialPortCandidatesEnumerated (configured : Option String) (enumerated : List String) : List String :=
  enumerated.foldl (fun candidates p => if p ∈ candidates then candidates else candidates ++ [p]) configured.toList

/-- `same_port_set`: the same ports, in whatever order. -/
def samePortSet (a b : List String) : Bool :=
  if a.length ≠ b.length then false
  else a.insertionSort (· ≤ ·) == b.insertionSort (· ≤ ·)

/-- `first_openfan_port`: the first candidate that opens and identifies itself. -/
def firstOpenfanPort (candidates : List String) (identifies : String → Bool) : Option String :=
  candidates.find? identifies

/-- `LastRescan` (mod.rs:321). -/
structure LastRescan where
  endedAt : Nat
  candidates : List String
  deriving DecidableEq, Repr

/-- The wait a rescan over these ports is told, if it is told to wait. -/
def cooldown (last : Option LastRescan) (now : Nat) (candidates : List String) : Option Nat :=
  match last with
  | none => none
  | some last =>
    let elapsed := now - last.endedAt
    if elapsed < openfanRescanCooldown ∧ samePortSet last.candidates candidates = true then
      some ((openfanRescanCooldown - elapsed) / 1000 + 1)
    else none

/-! ## Answers -/

inductive AdoptOutcome where
  | adopted | alreadyAdopted | shuttingDown | maintenanceRunning
  deriving DecidableEq, Repr

inductive RescanOutcome where
  | adopted (port : String)
  | alreadyAdopted | shuttingDown | maintenanceRunning | notFound | probeFailed
  deriving DecidableEq, Repr

/-- What a rescan concludes from the adoption of the controller found on `port`. -/
def AdoptOutcome.concludes (port : String) : AdoptOutcome → RescanOutcome
  | .adopted => .adopted port
  | .alreadyAdopted => .alreadyAdopted
  | .shuttingDown => .shuttingDown
  | .maintenanceRunning => .maintenanceRunning

/-- A status and its body. -/
inductive Response where
  | rescan (status : Nat) (adopted alreadyConnected : Bool) (port : Option String) (message : String)
  | error (status : Nat) (code message source : String) (retryable : Bool)
  deriving DecidableEq, Repr

/-- `ErrorEnvelope::validation`. -/
def conflict (message : String) (retryable : Bool) : Response :=
  .error 409 "validation_error" message "validation" retryable

/-- `ErrorEnvelope::hardware_unavailable`. -/
def hardwareUnavailable (message : String) : Response := .error 503 "hardware_unavailable" message "hardware" true

/-- `openfan_maintenance_conflict` (mod.rs:1099). -/
def openfanMaintenanceConflict : Response :=
  conflict "an OpenFan firmware update is running — try again once it has finished" true

def stopping : Response := hardwareUnavailable "the daemon is shutting down — no OpenFan probe was started"

def alreadyConnected : Response := .rescan 200 false true none "an OpenFanController is already connected"

def alreadyInProgress : Response := conflict "an OpenFan rescan is already in progress" false

def coolingDown (wait : Nat) : Response :=
  conflict ("a probe over the same ports was attempted moments ago — each probe resets Arduino-class boards, so retry in "
    ++ toString wait ++ "s, or retry immediately once the attached hardware changes") true

/-- What the handler makes of its task's outcome. -/
def RescanOutcome.response : RescanOutcome → Response
  | .adopted port => .rescan 200 true false (some port) ("OpenFanController adopted on " ++ port)
  | .alreadyAdopted => alreadyConnected
  | .maintenanceRunning => openfanMaintenanceConflict
  | .shuttingDown =>
    hardwareUnavailable "an OpenFanController was found but the daemon is shutting down — it will be adopted on the next start"
  | .notFound => hardwareUnavailable "no OpenFanController found — no candidate port both opened and identified as one"
  | .probeFailed => hardwareUnavailable "OpenFan rescan failed to run"

/-! ## Who takes part -/

/-- Who may hold the flag and adopt: a rescan's detached task or an update's run. -/
inductive Party where
  | rescan (call : Nat)
  | run (id : Nat)
  deriving DecidableEq, Repr

inductive Controller where
  | boot
  | adopted (by_ : Party)
  deriving DecidableEq, Repr

/-- `OpenFanLink` (state.rs:560); only the poll loop of an installed controller publishes it. -/
inductive OpenFanLink where
  | connected | unresponsive | reconnecting
  deriving DecidableEq, Repr

/-- `OpenFanMaintenance` (state.rs:583). -/
inductive OpenFanMaintenance where
  | running (run : Nat)
  | needsRecovery (run : Nat)
  deriving DecidableEq, Repr

/-- How far the holder of `adopted_poll_tasks` is in `adopt_openfan_controller`. -/
inductive AdoptStep where
  /-- Registration is open; the run that holds the controller is looked at next. -/
  | registering
  /-- No other run holds it; the slot is next. -/
  | installing
  /-- The slot was written; the poll loop is spawned and registered next. -/
  | spawning
  deriving DecidableEq, Repr

/-- How far it is in the claim of `start_silent`. -/
inductive ClaimStep where
  /-- It has yet to ask whether a controller answers. -/
  | asking
  | beginning
  deriving DecidableEq, Repr

/-- Who holds the lock over `adopted_poll_tasks`, and in which of its critical sections. -/
inductive Holder where
  | adopting (party : Party) (step : AdoptStep)
  | claiming (run : Nat) (step : ClaimStep)
  deriving DecidableEq, Repr

/-- `AdoptedTasks` (mod.rs:356); a poll loop's handle is the party that had it spawned. -/
structure AdoptedTasks where
  handles : List Party
  closed : Bool
  deriving DecidableEq, Repr

/-- How far a call's handler is. -/
inductive Call where
  | absent
  | entered
  | notStopping
  | notUpdating
  | listed (candidates : List String)
  /-- It need not wait, going by the last probe it read. -/
  | rested (candidates : List String) (last : Option LastRescan)
  /-- It found no controller. -/
  | vacant (candidates : List String) (last : Option LastRescan)
  | awaiting
  | answered (response : Response)
  | gone
  deriving DecidableEq, Repr

/-- How far a call's detached task is. -/
inductive Task where
  | unspawned
  | spawned (candidates : List String)
  | probing (candidates : List String)
  | found (port : String) (candidates : List String)
  | concluded (outcome : RescanOutcome) (candidates : List String)
  /-- The guard wrote `last_openfan_rescan` and has yet to clear the flag. -/
  | stamped (outcome : RescanOutcome)
  | released (outcome : RescanOutcome)
  | sent (outcome : RescanOutcome)
  deriving DecidableEq, Repr

/-- How far an update's run is. -/
inductive Update where
  | idle
  /-- `start_silent` is in its critical section. -/
  | locked
  | claimed (silent : Bool)
  /-- It holds the probes' flag. -/
  | gated
  /-- It is in `hand_over`, adopting. -/
  | handing
  /-- Its claim is released. -/
  | released (gate : Bool)
  | ended
  deriving DecidableEq, Repr

structure World where
  now : Nat
  shutdown : Bool
  openfanMaintenance : Option OpenFanMaintenance
  openfanLink : Option OpenFanLink
  fanController : Option Controller
  openfanRescanning : Bool
  lastOpenfanRescan : Option LastRescan
  adoptedPollTasks : AdoptedTasks
  lock : Option Holder
  calls : Nat → Call
  tasks : Nat → Task
  updates : Nat → Update
  /-- History: who installed a controller, who had a poll loop spawned, and what `close_and_drain` returned. -/
  installed : List Party
  spawned : List Party
  drained : List Party

namespace World

/-- The daemon once boot has looked for a controller. -/
def start (now : Nat) (found : Bool) : World where
  now := now
  shutdown := false
  openfanMaintenance := none
  openfanLink := none
  fanController := if found then some .boot else none
  openfanRescanning := false
  lastOpenfanRescan := none
  adoptedPollTasks := ⟨[], false⟩
  lock := none
  calls := fun _ => .absent
  tasks := fun _ => .unspawned
  updates := fun _ => .idle
  installed := []
  spawned := []
  drained := []

def setCall (w : World) (i : Nat) (c : Call) : World := { w with calls := Function.update w.calls i c }

def setTask (w : World) (i : Nat) (t : Task) : World := { w with tasks := Function.update w.tasks i t }

def setUpdate (w : World) (r : Nat) (u : Update) : World := { w with updates := Function.update w.updates r u }

/-! ## adopt_openfan_controller -/

/-- Whether a run other than the one that adopts holds the controller; a rescan adopts for no run. -/
def heldByAnother (w : World) (p : Party) : Bool :=
  match w.openfanMaintenance with
  | some (.running r) => decide (p ≠ .run r)
  | _ => false

/-- The next step of `adopt_openfan_controller` for `p`, and its outcome when that is the last; every outcome
drops the lock. -/
def adopt (w : World) (p : Party) : World × Option AdoptOutcome :=
  match w.lock with
  | none =>
    if w.adoptedPollTasks.closed then (w, some .shuttingDown)
    else ({ w with lock := some (.adopting p .registering) }, none)
  | some (.claiming _ _) => (w, none)
  | some (.adopting q step) =>
    if q ≠ p then (w, none)
    else
      match step with
      | .registering =>
        if w.heldByAnother p then ({ w with lock := none }, some .maintenanceRunning)
        else ({ w with lock := some (.adopting p .installing) }, none)
      | .installing =>
        match w.fanController with
        | some _ => ({ w with lock := none }, some .alreadyAdopted)
        | none =>
          ({ w with
              fanController := some (.adopted p), installed := w.installed ++ [p],
              lock := some (.adopting p .spawning) }, none)
      | .spawning =>
        ({ w with
            spawned := w.spawned ++ [p],
            adoptedPollTasks := { w.adoptedPollTasks with handles := w.adoptedPollTasks.handles ++ [p] },
            lock := none }, some .adopted)

/-- `AdoptedTasks::close_and_drain`, under the lock. -/
def closeAndDrain (w : World) : World :=
  match w.lock with
  | none => { w with drained := w.drained ++ w.adoptedPollTasks.handles, adoptedPollTasks := ⟨[], true⟩ }
  | some _ => w

/-! ## openfan_rescan_with -/

/-- The handler's next step; `enumerated` is what the enumeration answers. -/
def handler (configured : Option String) (w : World) (i : Nat) (enumerated : List String) : World :=
  match w.calls i with
  | .entered => w.setCall i (if w.shutdown then .answered stopping else .notStopping)
  | .notStopping =>
    match w.openfanMaintenance with
    | some (.running _) => w.setCall i (.answered openfanMaintenanceConflict)
    | _ => w.setCall i .notUpdating
  | .notUpdating => w.setCall i (.listed (serialPortCandidatesEnumerated configured enumerated))
  | .listed candidates =>
    match cooldown w.lastOpenfanRescan w.now candidates with
    | some wait => w.setCall i (.answered (coolingDown wait))
    | none => w.setCall i (.rested candidates w.lastOpenfanRescan)
  | .rested candidates last =>
    match w.fanController with
    | some _ => w.setCall i (.answered alreadyConnected)
    | none => w.setCall i (.vacant candidates last)
  | .vacant candidates _ =>
    -- The exchange; the guard and the spawn follow with no `await` and touch nothing shared.
    if w.openfanRescanning then w.setCall i (.answered alreadyInProgress)
    else ({ w with openfanRescanning := true }.setTask i (.spawned candidates)).setCall i .awaiting
  | .awaiting =>
    match w.tasks i with
    | .sent outcome => w.setCall i (.answered outcome.response)
    | _ => w
  | .absent | .answered _ | .gone => w

/-- How a probe ends: it panics, or it asked the candidates in turn. -/
inductive ProbeEnd where
  | panicked
  | asked (identifies : String → Bool)

/-- The detached task's next step; `probe` is how its probe ends. -/
def task (w : World) (i : Nat) (probe : ProbeEnd) : World :=
  match w.tasks i with
  | .spawned candidates => w.setTask i (.probing candidates)
  | .probing candidates =>
    match probe with
    | .panicked => w.setTask i (.concluded .probeFailed candidates)
    | .asked identifies =>
      match firstOpenfanPort candidates identifies with
      | some port => w.setTask i (.found port candidates)
      | none => w.setTask i (.concluded .notFound candidates)
  | .found port candidates =>
    match w.adopt (.rescan i) with
    | (w', none) => w'
    | (w', some outcome) => w'.setTask i (.concluded (outcome.concludes port) candidates)
  -- `RescanGuard::drop`: the stamp, then the flag.
  | .concluded outcome candidates =>
    { w with lastOpenfanRescan := some ⟨w.now, candidates⟩ }.setTask i (.stamped outcome)
  | .stamped outcome => { w with openfanRescanning := false }.setTask i (.released outcome)
  | .released outcome => w.setTask i (.sent outcome)
  | .unspawned | .sent _ => w

/-! ## An update -/

/-- `no_controller_answers` (openfan_firmware.rs:210). -/
def noControllerAnswers (w : World) : Bool := w.fanController.isNone || w.openfanLink == some .reconnecting

def updateRunning (w : World) : Bool :=
  match w.openfanMaintenance with
  | some (.running _) => true
  | _ => false

/-- `end_openfan_maintenance`, and its sibling that puts a recovery back. -/
def endMaintenance (w : World) (r : Nat) (recovery : Option Nat) : World :=
  if w.openfanMaintenance = some (.running r) then { w with openfanMaintenance := recovery.map .needsRecovery } else w

/-- What a run may do next. -/
inductive UpdateMove where
  /-- `try_begin_openfan_maintenance`; `admitted` is what its other refusals come to. -/
  | beginConnected (admitted : Bool)
  | startSilent
  | ask
  /-- `try_begin_silent_openfan_maintenance`. -/
  | beginSilent (admitted : Bool)
  /-- One attempt at the probes' flag. -/
  | takeGate
  | handOver
  | adopt
  /-- The run ends, however it does; `recovery` is what it leaves the board needing. -/
  | release (recovery : Option Nat)
  | dropGate

def update (w : World) (r : Nat) (move : UpdateMove) : World :=
  match move, w.updates r with
  | .beginConnected admitted, .idle =>
    if w.updateRunning = false ∧ w.openfanLink = some .connected ∧ w.openfanMaintenance = none ∧ admitted = true then
      { w with openfanMaintenance := some (.running r) }.setUpdate r (.claimed false)
    else w.setUpdate r .ended
  | .startSilent, .idle =>
    match w.lock with
    | none => { w with lock := some (.claiming r .asking) }.setUpdate r .locked
    | some _ => w
  | .ask, .locked =>
    if w.lock ≠ some (.claiming r .asking) then w
    else if w.noControllerAnswers then { w with lock := some (.claiming r .beginning) }
    else { w with lock := none }.setUpdate r .ended
  | .beginSilent admitted, .locked =>
    if w.lock ≠ some (.claiming r .beginning) then w
    else if w.updateRunning = false ∧ w.openfanLink ≠ some .connected ∧ admitted = true then
      { w with openfanMaintenance := some (.running r), lock := none }.setUpdate r (.claimed true)
    else { w with lock := none }.setUpdate r .ended
  | .takeGate, .claimed true =>
    if w.openfanRescanning then w
    else { w with openfanRescanning := true }.setUpdate r .gated
  | .handOver, .gated => w.setUpdate r .handing
  | .adopt, .handing =>
    match w.adopt (.run r) with
    | (w', none) => w'
    | (w', some _) => w'.setUpdate r .gated
  | .release recovery, .claimed _ =>
    (w.endMaintenance r recovery).setUpdate r (.released false)
  | .release recovery, .gated =>
    (w.endMaintenance r recovery).setUpdate r (.released true)
  | .dropGate, .released true => { w with openfanRescanning := false }.setUpdate r .ended
  | _, _ => w

/-- A poll loop publishes its link; a good poll ends a recovery. -/
def publish (w : World) (link : OpenFanLink) : World :=
  match w.fanController with
  | none => w
  | some _ =>
    match link, w.openfanMaintenance with
    | .connected, some (.needsRecovery _) => { w with openfanLink := some link, openfanMaintenance := none }
    | _, _ => { w with openfanLink := some link }

/-! ## The machine -/

inductive Event where
  | elapse (by_ : Nat)
  /-- The shutdown watch is set. -/
  | stop
  | call (i : Nat)
  | handler (i : Nat) (enumerated : List String)
  /-- The handler's future goes away at its `await`. -/
  | drop (i : Nat)
  | task (i : Nat) (probe : ProbeEnd)
  | update (r : Nat) (move : UpdateMove)
  | publish (link : OpenFanLink)
  | closeAndDrain

def step (configured : Option String) (w : World) : Event → World
  | .elapse d => { w with now := w.now + d }
  | .stop => { w with shutdown := true }
  | .call i => if w.calls i = .absent then w.setCall i .entered else w
  | .handler i enumerated => w.handler configured i enumerated
  | .drop i => if w.calls i = .awaiting then w.setCall i .gone else w
  | .task i probe => w.task i probe
  | .update r move => w.update r move
  | .publish link => w.publish link
  | .closeAndDrain => w.closeAndDrain

end World

end ControlOfc.OpenFan.Rescan
