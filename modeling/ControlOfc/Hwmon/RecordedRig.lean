import ControlOfc.Hwmon.ExitLatch
import ControlOfc.Hwmon.Record
/-! # The controller and its record on disk (hwmon/handback.rs, `HandBackLedger`)

Every change of the ledger replaces the record before anything else is written, and a replace that failed
is tried again by the next write. `RecordedRig` is the rig with its record: the same operations, with the
replaces where the source makes them and every effect in order, since the daemon can die between any two.

* `RecordedRig.setPwm_rig`, `handBack_rig`, `releaseNoMode_rig` — without the record, these are the rig's
  operations.
-/
namespace ControlOfc.Hwmon

/-- What a crash can come between. -/
inductive Effect where
  /-- The record was replaced by the lines of these headers, or the replace failed. -/
  | replace (held : List (String × LedgerEntry)) (ok : Bool)
  | write (w : SysfsWrite)
  /-- A hand-back gave the header back. -/
  | released (id : String)
  deriving DecidableEq

/-- The headers of a ledger that get a line. -/
def HandBackLedger.held (hs : Headers) (l : HandBackLedger) : List (String × LedgerEntry) :=
  (hs.list.filterMap fun h => (l.get? h.id).map fun e => (h.id, e)).filter fun x => x.2.taken

/-- The text a replace writes. -/
def recordText (held : List (String × LedgerEntry)) : List Char := renderRecord (held.map Prod.snd)

/-- `note_take` has something to record (handback.rs:425-440). -/
def HandBackLedger.takeChanges (l : HandBackLedger) (id : String) (original : Option HandBack) : Bool :=
  (l.get? id).any fun e => (e.original.isNone && original.isSome) || !e.taken

/-- The rig, the record's `record_stale`, how often it was replaced, and what has been done so far. -/
structure RecordedRig where
  rig : HwmonRig
  stale : Bool
  replaces : Nat
  effects : List Effect

namespace RecordedRig

section
variable (hs : Headers) (disk : Nat → Bool)

/-- `persist` (handback.rs:400). -/
def persist (d : RecordedRig) : RecordedRig :=
  { d with
    stale := !disk d.replaces
    replaces := d.replaces + 1
    effects := d.effects ++ [.replace (d.rig.ctrl.handback.held hs) (disk d.replaces)] }

/-- The controller once `set_record_path` has run (handback.rs:375). -/
def start (leases : LeaseManager) (cache : HwmonCache) (now : Nat) : RecordedRig :=
  persist hs disk ⟨HwmonRig.start hs leases cache now, false, 0, []⟩

/-- `retry_record_if_failed` (handback.rs:389). -/
def retryRecordIfFailed (d : RecordedRig) : RecordedRig := if d.stale then persist hs disk d else d

/-- `note_take` (handback.rs:423). -/
def noteTake (d : RecordedRig) (id : String) (original : Option HandBack) : RecordedRig :=
  let l := d.rig.ctrl.handback
  let d' := { d with rig := { d.rig with ctrl := { d.rig.ctrl with handback := l.noteTake id original } } }
  if l.takeChanges id original then persist hs disk d' else d'

/-- `note_handed_back` (handback.rs:492). -/
def noteHandedBack (d : RecordedRig) (id : String) : RecordedRig :=
  let l := d.rig.ctrl.handback
  let d' := { d with rig := { d.rig with ctrl := { d.rig.ctrl with handback := l.noteHandedBack id } } }
  if (l.get? id).any (·.taken) then persist hs disk d' else d'

end

/-- What the rig does without touching the ledger. -/
def move (d : RecordedRig) (r : HwmonRig) : RecordedRig :=
  { d with rig := r, effects := d.effects ++ (d.rig.bus.since r.bus).map .write }

variable (env : Sysfs) (hs : Headers) (disk : Nat → Bool)

/-- The take (pwm_control.rs:1098-1130): recorded, and only then switched. -/
def takeMode (d : RecordedRig) (h : PwmHeaderDescriptor) : Option HwmonControlError × RecordedRig :=
  match h.enablePath with
  | none => (none, d)
  | some ep =>
    let original := HwmonRig.readOriginal env d.rig h ep
    let mark := original.2.check env
    let d := d.move { d.rig with bus := mark.2 }
    if h.ownedByHandBack && mark.1 then (some (HwmonRig.shuttingDown h.id), d)
    else
      let d := noteTake hs disk d h.id original.1
      let w := d.rig.bus.write env h.id ep .enable pwmEnableManual
      (w.1.map .hardware, d.move { d.rig with bus := w.2 })

def takeUnheld (d : RecordedRig) (h : PwmHeaderDescriptor) : Option HwmonControlError × RecordedRig :=
  if !d.rig.ctrl.manualModeSet h.id && h.supportsEnable then takeMode env hs disk d h else (none, d)

def takeAndWrite (d : RecordedRig) (h : PwmHeaderDescriptor) (effectivePct : Nat) (reconciles correcting : Bool) :
    RecordedRig × Except HwmonControlError HwmonSetPwmResult :=
  let take := takeUnheld env hs disk d h
  match take.1 with
  | some e => (take.2, .error e)
  | none =>
    let w := HwmonRig.writeDuty env hs take.2.rig h effectivePct reconciles correcting
    (take.2.move w.1, w.2)

/-- `set_pwm` past its checks (pwm_control.rs:929-1262). -/
def command (d : RecordedRig) (h : PwmHeaderDescriptor) (pct : Nat) (reconciles : Bool) :
    RecordedRig × Except HwmonControlError HwmonSetPwmResult :=
  let effectivePct := d.rig.ctrl.raise h.id pct
  let watch := HwmonRig.enableReclaimed env d.rig h
  let d := d.move (HwmonRig.book watch.2 h reconciles watch.1)
  if HwmonRig.coalescible d.rig h effectivePct reconciles then
    let drift := HwmonRig.dutyDriftRewrite env d.rig h effectivePct
    if drift.1 then takeAndWrite env hs disk (d.move drift.2) h effectivePct reconciles true
    else (d.move drift.2, .ok ⟨h.id, effectivePct, Pwm.percentToRaw effectivePct⟩)
  else takeAndWrite env hs disk d h effectivePct reconciles false

/-- `set_pwm` (pwm_control.rs:863), with the record's retry. -/
def setPwm (d : RecordedRig) (id : String) (pct : Nat) (leaseId : String) :
    RecordedRig × Except HwmonControlError HwmonSetPwmResult :=
  match d.rig.ctrl.leaseManager.validateLease d.rig.now leaseId with
  | .error e => (d, .error (.lease e))
  | .ok () =>
    let reconciles := d.rig.reconciles leaseId
    let d := d.move d.rig.takeResumeFlag
    match hs.get? id with
    | none => (d, .error (.validation ("unknown header: " ++ id)))
    | some h =>
      let mark := d.rig.bus.check env
      let d := d.move { d.rig with bus := mark.2 }
      if h.ownedByHandBack && mark.1 then (d, .error (HwmonRig.shuttingDown h.id))
      else if 100 < pct then
        (d, .error (.validation ("pwm_percent " ++ toString pct ++ " out of range (0–100)")))
      else command env hs disk (retryRecordIfFailed hs disk d) h pct reconciles

/-- `hand_back` (pwm_control.rs:590). -/
def handBack (d : RecordedRig) (id : String) (leaseId : String) :
    RecordedRig × Except HwmonControlError (Option HandBackOutcome) :=
  match d.rig.ctrl.leaseManager.validateLease d.rig.now leaseId with
  | .error e => (d, .error (.lease e))
  | .ok () =>
    let d := retryRecordIfFailed hs disk d
    match d.rig.ctrl.handback.takenHeader id with
    | none => (d, .ok none)
    | some (entry, action) =>
      let o := d.rig.bus.handBack env id entry action
      let d := d.move { d.rig with bus := o.2 }
      if o.1.released then
        let d := noteHandedBack hs disk { d with effects := d.effects ++ [.released id] } id
        (d.move (d.rig.forgetWrites id), .ok (some o.1))
      else (d.move { d.rig with ctrl := d.rig.ctrl.modifyWs id ({ · with drift := .default }) }, .ok (some o.1))

/-- `release_no_mode` (pwm_control.rs:707). -/
def releaseNoMode (d : RecordedRig) (id : String) (leaseId : String) :
    RecordedRig × Except HwmonControlError (Option NoModeRelease) :=
  match d.rig.ctrl.leaseManager.validateLease d.rig.now leaseId with
  | .error e => (d, .error (.lease e))
  | .ok () =>
    if !HwmonRig.holdsNoMode hs d.rig id || d.rig.cache.verifyActive then (d, .ok none)
    else
      let was := (d.rig.ctrl.exitRecord.get? id).join
      let floor := d.rig.cache.exitFloorPct
      if floor = 0 ∨ some (Pwm.exitDuty was floor) = was then (d.move (d.rig.released id), .ok (some (.kept was)))
      else
        let target := Pwm.exitDuty was floor
        match setPwm env hs disk d id target leaseId with
        | (d, .ok _) => (d.move (d.rig.released id), .ok (some (.raised was target)))
        | (d, .error (.hardware e)) => (d, .ok (some (.failed target e)))
        | (d, .error e) => (d, .error e)

/-- One operation, `dt` nanoseconds after the one before it. -/
def step (d : RecordedRig) : Nat × HwmonOp → RecordedRig
  | (dt, .setPwm id pct leaseId) => (setPwm env hs disk (d.move (d.rig.wait dt)) id pct leaseId).1
  | (dt, .releaseNoMode id leaseId) => (releaseNoMode env hs disk (d.move (d.rig.wait dt)) id leaseId).1
  | (dt, .handBack id leaseId) => (handBack env hs disk (d.move (d.rig.wait dt)) id leaseId).1
  | e => d.move (HwmonRig.step env hs d.rig e)

/-! ## Without the record -/

@[simp] theorem persist_rig (d : RecordedRig) : (persist hs disk d).rig = d.rig := rfl

@[simp] theorem move_rig (d : RecordedRig) (r : HwmonRig) : (d.move r).rig = r := rfl

@[simp] theorem retryRecordIfFailed_rig (d : RecordedRig) : (retryRecordIfFailed hs disk d).rig = d.rig := by
  unfold retryRecordIfFailed
  split <;> rfl

@[simp] theorem noteTake_rig (d : RecordedRig) (id : String) (o : Option HandBack) :
    (noteTake hs disk d id o).rig =
      { d.rig with ctrl := { d.rig.ctrl with handback := d.rig.ctrl.handback.noteTake id o } } := by
  unfold noteTake
  dsimp only
  split <;> rfl

@[simp] theorem noteHandedBack_rig (d : RecordedRig) (id : String) :
    (noteHandedBack hs disk d id).rig =
      { d.rig with ctrl := { d.rig.ctrl with handback := d.rig.ctrl.handback.noteHandedBack id } } := by
  unfold noteHandedBack
  dsimp only
  split <;> rfl

theorem takeMode_rig (d : RecordedRig) (h : PwmHeaderDescriptor) :
    ((takeMode env hs disk d h).1, (takeMode env hs disk d h).2.rig) = HwmonRig.takeMode env d.rig h := by
  unfold takeMode HwmonRig.takeMode
  cases h.enablePath with
  | none => rfl
  | some ep =>
    dsimp only
    split <;> simp

theorem takeUnheld_rig (d : RecordedRig) (h : PwmHeaderDescriptor) :
    ((takeUnheld env hs disk d h).1, (takeUnheld env hs disk d h).2.rig) = HwmonRig.takeUnheld env d.rig h := by
  unfold takeUnheld HwmonRig.takeUnheld
  split
  · exact takeMode_rig env hs disk d h
  · rfl

theorem takeAndWrite_rig (d : RecordedRig) (h : PwmHeaderDescriptor) (eff : Nat) (reconciles correcting : Bool) :
    ((takeAndWrite env hs disk d h eff reconciles correcting).1.rig, (takeAndWrite env hs disk d h eff reconciles correcting).2) =
      HwmonRig.takeAndWrite env hs d.rig h eff reconciles correcting := by
  have htake := takeUnheld_rig env hs disk d h
  unfold takeAndWrite HwmonRig.takeAndWrite
  rw [← htake]
  dsimp only
  cases (takeUnheld env hs disk d h).1 <;> rfl

theorem command_rig (d : RecordedRig) (h : PwmHeaderDescriptor) (pct : Nat) (reconciles : Bool) :
    ((command env hs disk d h pct reconciles).1.rig, (command env hs disk d h pct reconciles).2) =
      HwmonRig.command env hs d.rig h pct reconciles := by
  unfold command HwmonRig.command
  dsimp only
  generalize HwmonRig.book (HwmonRig.enableReclaimed env d.rig h).2 h reconciles (HwmonRig.enableReclaimed env d.rig h).1 = r
  rw [move_rig]
  generalize HwmonRig.dutyDriftRewrite env r h (d.rig.ctrl.raise h.id pct) = drift
  cases HwmonRig.coalescible r h (d.rig.ctrl.raise h.id pct) reconciles with
  | true =>
    cases drift.1 with
    | true => exact takeAndWrite_rig env hs disk _ h _ _ _
    | false => rfl
  | false => exact takeAndWrite_rig env hs disk _ h _ _ _

/-- Without its record, `set_pwm` is the rig's. -/
theorem setPwm_rig (d : RecordedRig) (id : String) (pct : Nat) (leaseId : String) :
    ((setPwm env hs disk d id pct leaseId).1.rig, (setPwm env hs disk d id pct leaseId).2) =
      HwmonRig.setPwm env hs d.rig id pct leaseId := by
  unfold setPwm HwmonRig.setPwm
  cases d.rig.ctrl.leaseManager.validateLease d.rig.now leaseId with
  | error e => rfl
  | ok _ =>
    cases hs.get? id with
    | none => rfl
    | some h =>
      dsimp only
      rw [move_rig]
      cases h.ownedByHandBack && (d.rig.takeResumeFlag.bus.check env).1 with
      | true => rfl
      | false =>
        by_cases hp : 100 < pct
        · simp [hp]
        · simp only [Bool.false_eq_true, if_false, hp]
          rw [command_rig, retryRecordIfFailed_rig, move_rig]

theorem handBack_rig (d : RecordedRig) (id leaseId : String) :
    ((handBack env hs disk d id leaseId).1.rig, (handBack env hs disk d id leaseId).2) =
      HwmonRig.handBack env d.rig id leaseId := by
  unfold handBack HwmonRig.handBack
  cases d.rig.ctrl.leaseManager.validateLease d.rig.now leaseId with
  | error e => rfl
  | ok _ =>
    simp only [retryRecordIfFailed_rig]
    cases d.rig.ctrl.handback.takenHeader id with
    | none => simp
    | some x =>
      dsimp only
      split <;> simp

theorem releaseNoMode_rig (d : RecordedRig) (id leaseId : String) :
    ((releaseNoMode env hs disk d id leaseId).1.rig, (releaseNoMode env hs disk d id leaseId).2) =
      HwmonRig.releaseNoMode env hs d.rig id leaseId := by
  have hset := setPwm_rig env hs disk d id (Pwm.exitDuty (d.rig.ctrl.exitRecord.get? id).join d.rig.cache.exitFloorPct) leaseId
  unfold releaseNoMode HwmonRig.releaseNoMode
  cases d.rig.ctrl.leaseManager.validateLease d.rig.now leaseId with
  | error e => rfl
  | ok _ =>
    dsimp only
    split
    · rfl
    · split
      · rfl
      · rw [← hset]
        rcases setPwm env hs disk d id (Pwm.exitDuty (d.rig.ctrl.exitRecord.get? id).join d.rig.cache.exitFloorPct) leaseId with
          ⟨d', e | v⟩
        · cases e <;> rfl
        · rfl

theorem step_rig (d : RecordedRig) (e : Nat × HwmonOp) : (step env hs disk d e).rig = HwmonRig.step env hs d.rig e := by
  obtain ⟨dt, op⟩ := e
  cases op with
  | setPwm id pct leaseId => exact congrArg Prod.fst (setPwm_rig env hs disk (d.move (d.rig.wait dt)) id pct leaseId)
  | releaseNoMode id leaseId => exact congrArg Prod.fst (releaseNoMode_rig env hs disk (d.move (d.rig.wait dt)) id leaseId)
  | handBack id leaseId => exact congrArg Prod.fst (handBack_rig env hs disk (d.move (d.rig.wait dt)) id leaseId)
  | _ => rfl

end RecordedRig

end ControlOfc.Hwmon
