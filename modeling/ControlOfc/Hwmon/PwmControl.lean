import ControlOfc.Hwmon.HandBack
import ControlOfc.Hwmon.Lease
import Mathlib.Data.List.Sort
/-! # The hwmon controller (hwmon/pwm_control.rs)

`set_pwm` is the one way to a header: it validates the lease, raises the command to the latched exit
duty, looks for a firmware reclaim, coalesces, takes the header and writes. Priming and the exit floor
write on their own.

* A header with no mode switch has nothing to give back; `exit_record` keeps what it was last told.
* Every operation holds the controller's lock, and the clock stands still within one. The hand-back mark
  alone is set without the lock.
* What the controller publishes to the cache and logs is left out.
-/
namespace ControlOfc.Hwmon
open Pwm

/-- `PWM_ENABLE_MANUAL` (pwm_control.rs:36). -/
def pwmEnableManual : Nat := 1

/-- `SHARED_REPORT_CHIPS` (pwm_control.rs:49). -/
def sharedReportChips : List String := ["arctic_fan"]

/-- `is_shared_report_chip` (pwm_control.rs:58). -/
def isSharedReportChip (chip : String) : Bool := sharedReportChips.contains chip

/-- `PRIME_PCT` (pwm_control.rs:65). -/
def primePct : Nat := 100

/-- `owned_by_hand_back` (pwm_control.rs:909): the headers the hand-back gives back. -/
def PwmHeaderDescriptor.ownedByHandBack (h : PwmHeaderDescriptor) : Bool := h.supportsEnable && h.enablePath.isSome

/-! ## Drift of a held duty -/

/-- `READBACK_TOLERANCE_PCT`, `DUTY_CORRECTION_ATTEMPTS` (constants.rs:642, 650). -/
def readbackTolerancePct : Nat := 2
def dutyCorrectionAttempts : Nat := 3

/-- `DriftState` (pwm_control.rs:160). -/
structure DriftState where
  corrections : Nat
  notHolding : Bool
  inEpisode : Bool
  giveUpLogged : Bool
  deriving DecidableEq, Repr

def DriftState.default : DriftState := ⟨0, false, false, false⟩

/-- `after_plain_write` (pwm_control.rs:178). -/
def DriftState.afterPlainWrite (s : DriftState) : DriftState := { s with corrections := 0, notHolding := false }

/-- `DriftAction` (pwm_control.rs:189). -/
inductive DriftAction where
  | coalesce
  | recovered (wasNotHolding : Bool)
  | correct (first : Bool)
  | giveUp (log : Bool)
  | hold
  deriving DecidableEq, Repr

def DriftAction.rewrites : DriftAction → Bool
  | .correct _ => true
  | _ => false

/-- `reconcile_decision` (pwm_control.rs:211). -/
def reconcileDecision (expected : Nat) (readback : Option Nat) (s : DriftState) : DriftAction × DriftState :=
  match readback with
  | none => (.coalesce, s)
  | some read =>
    if max read expected - min read expected ≤ readbackTolerancePct then
      if s.inEpisode then (.recovered (s.notHolding || s.giveUpLogged), .default) else (.coalesce, s)
    else if s.notHolding then (.hold, s)
    else if dutyCorrectionAttempts ≤ s.corrections then
      (.giveUp (!s.giveUpLogged), { s with notHolding := true, giveUpLogged := true })
    else (.correct (!s.inEpisode), { s with corrections := s.corrections + 1, inEpisode := true })

/-! ## The controller -/

/-- `HeaderWriteState` (pwm_control.rs:126). -/
structure HeaderWriteState where
  lastCommandedPct : Option Nat
  manualModeSet : Bool
  heldPct : Option Nat
  drift : DriftState
  deriving DecidableEq, Repr

def HeaderWriteState.default : HeaderWriteState := ⟨none, false, none, .default⟩

/-- `HwmonControlError` (pwm_control.rs:78). -/
inductive HwmonControlError where
  | lease (e : LeaseError)
  | validation (message : String)
  | hardware (e : HwmonError)
  | shuttingDown (message : String)
  deriving DecidableEq, Repr

/-- `HwmonSetPwmResult` (pwm_control.rs:71). -/
structure HwmonSetPwmResult where
  headerId : String
  pwmPercent : Nat
  rawValue : Nat
  deriving DecidableEq, Repr

/-- `NoModeRelease` (pwm_control.rs:417). -/
inductive NoModeRelease where
  | raised (was : Option Nat) (target : Nat)
  | kept (pct : Option Nat)
  | failed (target : Nat) (error : HwmonError)
  deriving DecidableEq, Repr

/-- `HwmonExitFloorWrite` (pwm_control.rs:431). -/
structure HwmonExitFloorWrite where
  headerId : String
  wasPct : Option Nat
  targetPct : Nat
  result : Option (Option HwmonError)
  deriving DecidableEq, Repr

/-- `HwmonPwmController` (pwm_control.rs:325), its headers and its files apart. -/
structure HwmonPwmController where
  leaseManager : LeaseManager
  writeState : KMap String HeaderWriteState
  enableRevertCounts : KMap String Nat
  verifyMismatchCounts : KMap String Nat
  dutyCorrections : KMap String Nat
  handback : HandBackLedger
  exitRecord : KMap String (Option Nat)
  exitMin : KMap String Nat
  primingSuspended : List String
  engineHeld : List String

/-- `*entry(id).or_insert(0) += 1`. -/
def countUp (m : KMap String Nat) (id : String) : KMap String Nat := m.insert id ((m.get? id).getD 0 + 1)

namespace HwmonPwmController

/-- `new` (pwm_control.rs:464). -/
def new (hs : Headers) (leases : LeaseManager) : HwmonPwmController :=
  ⟨leases, .empty, .empty, .empty, .empty, .new hs, .empty, .empty, [], []⟩

/-- `write_state.get_mut(id)`, where there is one. -/
def modifyWs (c : HwmonPwmController) (id : String) (f : HeaderWriteState → HeaderWriteState) : HwmonPwmController :=
  match c.writeState.get? id with
  | some ws => { c with writeState := c.writeState.insert id (f ws) }
  | none => c

/-- `write_state.entry(id).or_default()`. -/
def entryWs (c : HwmonPwmController) (id : String) (f : HeaderWriteState → HeaderWriteState) : HwmonPwmController :=
  { c with writeState := c.writeState.insert id (f ((c.writeState.get? id).getD .default)) }

/-- `forget_manual_mode` (pwm_control.rs:1543). -/
def forgetManualMode (c : HwmonPwmController) : HwmonPwmController :=
  { c with writeState := c.writeState.filterMap fun _ ws => some { ws with manualModeSet := false } }

/-- `on_lease_released` (pwm_control.rs:1433). -/
def onLeaseReleased (c : HwmonPwmController) : HwmonPwmController := { c with writeState := .empty }

def record (c : HwmonPwmController) (id : String) (duty : Option Nat) : HwmonPwmController :=
  { c with exitRecord := c.exitRecord.insert id duty }

/-- `set_pwm` records the headers with no mode switch only. -/
def recordNoMode (c : HwmonPwmController) (h : PwmHeaderDescriptor) (duty : Option Nat) : HwmonPwmController :=
  if h.supportsEnable then c else c.record h.id duty

/-- `last_commanded_pct` (pwm_control.rs:851). -/
def lastCommandedPct (c : HwmonPwmController) (id : String) : Option Nat :=
  (c.writeState.get? id).bind (·.lastCommandedPct)

def manualModeSet (c : HwmonPwmController) (id : String) : Bool := (c.writeState.get? id).any (·.manualModeSet)

/-- Raising a command to the latched exit duty (pwm_control.rs:929-939). -/
def raise (c : HwmonPwmController) (id : String) (pct : Nat) : Nat :=
  match c.exitMin.get? id with
  | some min => if pct < min then min else pct
  | none => pct

/-- A zero the daemon itself commanded, and no exit floor has latched since (pwm_control.rs:1373-1378). -/
def chosenZero (c : HwmonPwmController) (id : String) : Bool :=
  c.lastCommandedPct id == some 0 && (c.exitMin.get? id).all (· == 0)

/-- The latch of `apply_exit_floor` (pwm_control.rs:509-515). -/
def latchExitMin (hs : Headers) (c : HwmonPwmController) (floorPct : Nat) : KMap String Nat := fun id =>
  match hs.get? id with
  | some h =>
    if h.supportsEnable then c.exitMin.get? id
    else
      match c.exitRecord.get? id with
      | some was => some (exitDuty was floorPct)
      | none => some floorPct
  | none => c.exitMin.get? id

end HwmonPwmController

/-- The part of `StateCache` the controller reads. -/
structure HwmonCache where
  resumeDetected : Bool
  verifyActive : Bool
  exitFloorPct : Nat
  abandonedByDiagnostic : List String

/-- The controller with its files, the cache's share and the clock. -/
structure HwmonRig where
  ctrl : HwmonPwmController
  cache : HwmonCache
  bus : Bus
  now : Nat

namespace HwmonRig

def start (hs : Headers) (leases : LeaseManager) (cache : HwmonCache) (now : Nat) : HwmonRig :=
  ⟨.new hs leases, cache, ⟨0, []⟩, now⟩

def wait (r : HwmonRig) (dt : Nat) : HwmonRig := { r with now := r.now + dt }

variable (env : Sysfs) (hs : Headers)

/-! ### Priming the siblings of a shared report -/

/-- The siblings of `h`, in the order they are primed (pwm_control.rs:1351-1361). -/
def siblings (h : PwmHeaderDescriptor) : List PwmHeaderDescriptor :=
  (hs.list.filter fun s => s.id ≠ h.id && s.isWritable && s.pwmPath.dir = h.pwmPath.dir).insertionSort
    (fun a b => a.id ≤ b.id)

/-- The loop of `prime_shared_report_siblings` (pwm_control.rs:1362-1409): a failed write ends it and
suspends the device. -/
def primeEach (dir : String) : HwmonRig → List PwmHeaderDescriptor → HwmonRig
  | r, [] => r
  | r, s :: rest =>
    let cached := r.bus.read env s.pwmPath
    let r := { r with bus := cached.2 }
    if cached.1 ≠ some 0 then primeEach dir r rest
    else if r.ctrl.chosenZero s.id then primeEach dir r rest
    else
      let w := r.bus.write env s.id s.pwmPath .duty (percentToRaw primePct)
      if w.1.isNone then primeEach dir { r with ctrl := r.ctrl.record s.id (some primePct), bus := w.2 } rest
      else
        { r with
          ctrl := { r.ctrl.record s.id none with primingSuspended := dir :: r.ctrl.primingSuspended }
          bus := w.2 }

/-- `prime_shared_report_siblings` (pwm_control.rs:1334). -/
def primeSharedReportSiblings (r : HwmonRig) (h : PwmHeaderDescriptor) : HwmonRig :=
  if isSharedReportChip h.chipName && !r.ctrl.primingSuspended.contains h.pwmPath.dir then
    primeEach env h.pwmPath.dir r (siblings hs h)
  else r

/-- `resume_priming_after_success` (pwm_control.rs:1416). -/
def resumePrimingAfterSuccess (r : HwmonRig) (h : PwmHeaderDescriptor) : HwmonRig :=
  if isSharedReportChip h.chipName && r.ctrl.primingSuspended.contains h.pwmPath.dir then
    primeSharedReportSiblings env hs
      { r with ctrl := { r.ctrl with primingSuspended := r.ctrl.primingSuspended.filter (· ≠ h.pwmPath.dir) } } h
  else r

/-! ### `set_pwm` -/

/-- The `pwm_enable` watchdog (pwm_control.rs:955-990): has firmware reclaimed the header? -/
def enableReclaimed (r : HwmonRig) (h : PwmHeaderDescriptor) : Bool × HwmonRig :=
  if h.supportsEnable && r.ctrl.manualModeSet h.id then
    match h.enablePath with
    | none => (false, r)
    | some ep =>
      let mode := r.bus.read env ep
      if mode.1.isNone || mode.1 == some 1 then (false, { r with bus := mode.2 })
      else
        match r.ctrl.lastCommandedPct h.id with
        | none => (true, { r with bus := mode.2 })
        | some last =>
          let duty := mode.2.read env h.pwmPath
          (!isFullSpeedAlias last (duty.1.map rawToPercent) mode.1, { r with bus := duty.2 })
  else (false, r)

/-- `duty_drift_rewrite` (pwm_control.rs:1470). -/
def dutyDriftRewrite (r : HwmonRig) (h : PwmHeaderDescriptor) (commandedPct : Nat) : Bool × HwmonRig :=
  let duty := r.bus.read env h.pwmPath
  match r.ctrl.writeState.get? h.id with
  | none => (false, { r with bus := duty.2 })
  | some ws =>
    let (action, next) := reconcileDecision (ws.heldPct.getD commandedPct) (duty.1.map rawToPercent) ws.drift
    (action.rewrites, { r with ctrl := r.ctrl.modifyWs h.id ({ · with drift := next }), bus := duty.2 })

def shuttingDown (id : String) : HwmonControlError :=
  .shuttingDown ("hwmon " ++ id ++ ": the shutdown hand-back has begun, and it owns this header")

/-- What the header was doing, read before the first take only (pwm_control.rs:1105-1117). -/
def readOriginal (r : HwmonRig) (h : PwmHeaderDescriptor) (ep : SysfsPath) : Option HandBack × Bus :=
  if r.ctrl.handback.needsOriginal h.id then
    let mode := r.bus.read env ep
    let duty := mode.2.read env h.pwmPath
    (some (HandBack.fromReading h.chipName mode.1 duty.1), duty.2)
  else (none, r.bus)

/-- The take (pwm_control.rs:1098-1130): the mark is checked once more before the switch. -/
def takeMode (r : HwmonRig) (h : PwmHeaderDescriptor) : Option HwmonControlError × HwmonRig :=
  match h.enablePath with
  | none => (none, r)
  | some ep =>
    let original := readOriginal env r h ep
    let mark := original.2.check env
    if h.ownedByHandBack && mark.1 then (some (shuttingDown h.id), { r with bus := mark.2 })
    else
      let w := mark.2.write env h.id ep .enable pwmEnableManual
      (w.1.map .hardware,
        { r with ctrl := { r.ctrl with handback := r.ctrl.handback.noteTake h.id original.1 }, bus := w.2 })

/-- A correction that never landed is not counted (pwm_control.rs:1143-1147, 1166-1176). -/
def uncount (ws : HeaderWriteState) (correcting : Bool) : HeaderWriteState :=
  if correcting then { ws with drift := { ws.drift with corrections := ws.drift.corrections - 1 } } else ws

/-- After a successful write: the readback and the coalescing state (pwm_control.rs:1190-1240). -/
def settle (r : HwmonRig) (h : PwmHeaderDescriptor) (effectivePct : Nat) (reconciles correcting : Bool) : HwmonRig :=
  let raw := percentToRaw effectivePct
  let back := r.bus.read env h.pwmPath
  let c := r.ctrl
  let c := if back.1.any (· ≠ raw) then { c with verifyMismatchCounts := countUp c.verifyMismatchCounts h.id } else c
  let c := c.entryWs h.id fun ws =>
    { lastCommandedPct := some effectivePct
      manualModeSet := true
      heldPct := back.1.map rawToPercent
      drift := if !correcting && reconciles then ws.drift.afterPlainWrite else ws.drift }
  let c := if correcting then { c with dutyCorrections := countUp c.dutyCorrections h.id } else c
  { r with ctrl := c, bus := back.2 }

/-- The duty write (pwm_control.rs:1132-1262): recorded as unknown, the mark checked, the siblings
primed, and only then written. -/
def writeDuty (r : HwmonRig) (h : PwmHeaderDescriptor) (effectivePct : Nat) (reconciles correcting : Bool) :
    HwmonRig × Except HwmonControlError HwmonSetPwmResult :=
  let raw := percentToRaw effectivePct
  let mark := r.bus.check env
  let r := { r with ctrl := r.ctrl.recordNoMode h none, bus := mark.2 }
  if h.ownedByHandBack && mark.1 then
    ({ r with ctrl := r.ctrl.modifyWs h.id (uncount · correcting) }, .error (shuttingDown h.id))
  else
    let r := primeSharedReportSiblings env hs r h
    let w := r.bus.write env h.id h.pwmPath .duty raw
    match w.1 with
    | some e =>
      ({ r with ctrl := r.ctrl.modifyWs h.id fun ws => uncount { ws with manualModeSet := false } correcting, bus := w.2 },
        .error (.hardware e))
    | none =>
      let r := { r with ctrl := r.ctrl.recordNoMode h (some effectivePct), bus := w.2 }
      let r := resumePrimingAfterSuccess env hs r h
      (settle env r h effectivePct reconciles correcting, .ok ⟨h.id, effectivePct, raw⟩)

/-- Counting a reclaim, holding the header and opening its write state (pwm_control.rs:993-1061). -/
def book (r : HwmonRig) (h : PwmHeaderDescriptor) (reconciles reclaimed : Bool) : HwmonRig :=
  let c := r.ctrl
  let c := if reclaimed then { c with enableRevertCounts := countUp c.enableRevertCounts h.id } else c
  let c := if reconciles && !h.supportsEnable then { c with engineHeld := c.engineHeld.insert h.id } else c
  { r with ctrl := c.entryWs h.id fun ws => if reclaimed then { ws with manualModeSet := false } else ws }

/-- A command that repeats the last one while the header is held (pwm_control.rs:1074). -/
def coalescible (r : HwmonRig) (h : PwmHeaderDescriptor) (effectivePct : Nat) (reconciles : Bool) : Bool :=
  reconciles && r.ctrl.manualModeSet h.id && r.ctrl.lastCommandedPct h.id == some effectivePct

/-- A header already in manual mode, or without a mode switch, is not taken (pwm_control.rs:1098). -/
def takeUnheld (r : HwmonRig) (h : PwmHeaderDescriptor) : Option HwmonControlError × HwmonRig :=
  if !r.ctrl.manualModeSet h.id && h.supportsEnable then takeMode env r h else (none, r)

def takeAndWrite (r : HwmonRig) (h : PwmHeaderDescriptor) (effectivePct : Nat) (reconciles correcting : Bool) :
    HwmonRig × Except HwmonControlError HwmonSetPwmResult :=
  let take := takeUnheld env r h
  match take.1 with
  | some e => (take.2, .error e)
  | none => writeDuty env hs take.2 h effectivePct reconciles correcting

/-- `set_pwm` past its checks (pwm_control.rs:929-1262). -/
def command (r : HwmonRig) (h : PwmHeaderDescriptor) (pct : Nat) (reconciles : Bool) :
    HwmonRig × Except HwmonControlError HwmonSetPwmResult :=
  let effectivePct := r.ctrl.raise h.id pct
  let watch := enableReclaimed env r h
  let r := book watch.2 h reconciles watch.1
  if coalescible r h effectivePct reconciles then
    let drift := dutyDriftRewrite env r h effectivePct
    if drift.1 then takeAndWrite env hs drift.2 h effectivePct reconciles true
    else (drift.2, .ok ⟨h.id, effectivePct, percentToRaw effectivePct⟩)
  else takeAndWrite env hs r h effectivePct reconciles false

/-- `take_resume_flag` and what a resume clears (pwm_control.rs:887-892). -/
def takeResumeFlag (r : HwmonRig) : HwmonRig :=
  { r with
    ctrl := if r.cache.resumeDetected then r.ctrl.forgetManualMode else r.ctrl
    cache := { r.cache with resumeDetected := false } }

/-- Only the engine's writes are reconciled (pwm_control.rs:880-885). -/
def reconciles (r : HwmonRig) (leaseId : String) : Bool :=
  (r.ctrl.leaseManager.activeLease r.now).any fun l => l.leaseId = leaseId && l.owner ≠ .verify

/-- `set_pwm` (pwm_control.rs:863). -/
def setPwm (r : HwmonRig) (id : String) (pct : Nat) (leaseId : String) :
    HwmonRig × Except HwmonControlError HwmonSetPwmResult :=
  match r.ctrl.leaseManager.validateLease r.now leaseId with
  | .error e => (r, .error (.lease e))
  | .ok () =>
    let reconciles := r.reconciles leaseId
    let r := r.takeResumeFlag
    match hs.get? id with
    | none => (r, .error (.validation ("unknown header: " ++ id)))
    | some h =>
      let mark := r.bus.check env
      let r := { r with bus := mark.2 }
      if h.ownedByHandBack && mark.1 then (r, .error (shuttingDown h.id))
      else if 100 < pct then
        (r, .error (.validation ("pwm_percent " ++ toString pct ++ " out of range (0–100)")))
      else command env hs r h pct reconciles

/-! ### Letting a header go -/

/-- What outlives no command: `hand_back` and `release_no_mode` both end so. -/
def forgetWrites (r : HwmonRig) (id : String) : HwmonRig :=
  { r with ctrl := { r.ctrl with writeState := r.ctrl.writeState.remove id } }

/-- `hand_back` (pwm_control.rs:590). -/
def handBack (r : HwmonRig) (id : String) (leaseId : String) :
    HwmonRig × Except HwmonControlError (Option HandBackOutcome) :=
  match r.ctrl.leaseManager.validateLease r.now leaseId with
  | .error e => (r, .error (.lease e))
  | .ok () =>
    match r.ctrl.handback.takenHeader id with
    | none => (r, .ok none)
    | some (entry, action) =>
      let o := r.bus.handBack env id entry action
      let r := { r with bus := o.2 }
      if o.1.released then
        ({ r with ctrl := { r.ctrl with handback := r.ctrl.handback.noteHandedBack id } }.forgetWrites id, .ok (some o.1))
      else ({ r with ctrl := r.ctrl.modifyWs id ({ · with drift := .default }) }, .ok (some o.1))

/-- `holds_no_mode` (pwm_control.rs:681). -/
def holdsNoMode (r : HwmonRig) (id : String) : Bool :=
  r.ctrl.engineHeld.contains id ||
    (hs.get? id).any (!·.supportsEnable) && r.cache.abandonedByDiagnostic.contains id

/-- The end of `release_no_mode` (pwm_control.rs:736-743). -/
def released (r : HwmonRig) (id : String) : HwmonRig :=
  { r with
    ctrl := { r.ctrl with engineHeld := r.ctrl.engineHeld.filter (· ≠ id) }
    cache := { r.cache with abandonedByDiagnostic := r.cache.abandonedByDiagnostic.filter (· ≠ id) } }.forgetWrites id

/-- `release_no_mode` (pwm_control.rs:707). -/
def releaseNoMode (r : HwmonRig) (id : String) (leaseId : String) :
    HwmonRig × Except HwmonControlError (Option NoModeRelease) :=
  match r.ctrl.leaseManager.validateLease r.now leaseId with
  | .error e => (r, .error (.lease e))
  | .ok () =>
    if !holdsNoMode hs r id || r.cache.verifyActive then (r, .ok none)
    else
      let was := (r.ctrl.exitRecord.get? id).join
      let floor := r.cache.exitFloorPct
      if floor = 0 ∨ some (exitDuty was floor) = was then (r.released id, .ok (some (.kept was)))
      else
        let target := exitDuty was floor
        match setPwm env hs r id target leaseId with
        | (r, .ok _) => (r.released id, .ok (some (.raised was target)))
        | (r, .error (.hardware e)) => (r, .ok (some (.failed target e)))
        | (r, .error e) => (r, .error e)

/-! ### The exit floor -/

/-- The order of the floor's writes (pwm_control.rs:517-527): a slow shared-report chip last. -/
def exitOrder (a b : PwmHeaderDescriptor) : Prop :=
  if isSharedReportChip a.chipName = isSharedReportChip b.chipName then a.id ≤ b.id
  else isSharedReportChip b.chipName = true

instance : DecidableRel exitOrder := fun a b => by unfold exitOrder; infer_instance

/-- The write of one header below its target (pwm_control.rs:538-566). -/
def exitRaise (r : HwmonRig) (h : PwmHeaderDescriptor) (target : Nat) : Option HwmonError × HwmonRig :=
  let r := primeSharedReportSiblings env hs r h
  let w := r.bus.write env h.id h.pwmPath .duty (percentToRaw target)
  match w.1 with
  | none =>
    let r := resumePrimingAfterSuccess env hs { r with ctrl := r.ctrl.record h.id (some target), bus := w.2 } h
    (none, { r with ctrl := r.ctrl.modifyWs h.id ({ · with lastCommandedPct := some target, heldPct := none }) })
  | some e =>
    (some e,
      { r with ctrl := (r.ctrl.record h.id none).modifyWs h.id ({ · with manualModeSet := false }), bus := w.2 })

/-- One header of `apply_exit_floor` (pwm_control.rs:529-573). -/
def exitWrite (floorPct : Nat) (r : HwmonRig) (h : PwmHeaderDescriptor) : HwmonRig × HwmonExitFloorWrite :=
  let was := (r.ctrl.exitRecord.get? h.id).join
  let target := exitDuty was floorPct
  if was = some target then (r, ⟨h.id, was, target, none⟩)
  else
    let w := exitRaise env hs r h target
    (w.2, ⟨h.id, was, target, some w.1⟩)

def exitWrites (floorPct : Nat) : HwmonRig → List PwmHeaderDescriptor → HwmonRig × List HwmonExitFloorWrite
  | r, [] => (r, [])
  | r, h :: rest =>
    let w := exitWrite env hs floorPct r h
    let ws := exitWrites floorPct w.1 rest
    (ws.1, w.2 :: ws.2)

/-- The headers `apply_exit_floor` writes: those in `exit_record`. -/
def exitTargets (r : HwmonRig) : List PwmHeaderDescriptor :=
  (hs.list.filter fun h => (r.ctrl.exitRecord.get? h.id).isSome).insertionSort exitOrder

/-- `apply_exit_floor` (pwm_control.rs:505). -/
def applyExitFloor (r : HwmonRig) (floorPct : Nat) : HwmonRig × List HwmonExitFloorWrite :=
  if floorPct = 0 then (r, [])
  else
    exitWrites env hs floorPct { r with ctrl := { r.ctrl with exitMin := r.ctrl.latchExitMin hs floorPct } }
      (exitTargets hs r)

end HwmonRig

/-! ## Runs -/

/-- What can be asked of the controller, or happen to the cache, before and after the floor. -/
inductive HwmonOp where
  | setPwm (id : String) (pct : Nat) (leaseId : String)
  | releaseNoMode (id : String) (leaseId : String)
  | handBack (id : String) (leaseId : String)
  | forgetManualMode
  | onLeaseReleased
  | lease (op : LeaseOp)
  | resumeDetected
  | verifyActive (on : Bool)
  | abandoned (id : String)
  | setExitFloorPct (pct : Nat)

namespace HwmonRig

variable (env : Sysfs) (hs : Headers)

/-- One operation, `dt` nanoseconds after the one before it. -/
def step (r : HwmonRig) : Nat × HwmonOp → HwmonRig
  | (dt, .setPwm id pct leaseId) => (setPwm env hs (r.wait dt) id pct leaseId).1
  | (dt, .releaseNoMode id leaseId) => (releaseNoMode env hs (r.wait dt) id leaseId).1
  | (dt, .handBack id leaseId) => (handBack env (r.wait dt) id leaseId).1
  | (dt, .forgetManualMode) => { r.wait dt with ctrl := r.ctrl.forgetManualMode }
  | (dt, .onLeaseReleased) => { r.wait dt with ctrl := r.ctrl.onLeaseReleased }
  | (dt, .lease op) =>
    { r.wait dt with ctrl := { r.ctrl with leaseManager := (Arbiter.step ⟨r.ctrl.leaseManager, r.now⟩ ⟨dt, op⟩).mgr } }
  | (dt, .resumeDetected) => { r.wait dt with cache := { r.cache with resumeDetected := true } }
  | (dt, .verifyActive on) => { r.wait dt with cache := { r.cache with verifyActive := on } }
  | (dt, .abandoned id) =>
    { r.wait dt with cache := { r.cache with abandonedByDiagnostic := r.cache.abandonedByDiagnostic.insert id } }
  | (dt, .setExitFloorPct pct) => { r.wait dt with cache := { r.cache with exitFloorPct := pct } }

end HwmonRig

end ControlOfc.Hwmon
