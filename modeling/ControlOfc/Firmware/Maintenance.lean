import ControlOfc.Firmware.Picoboot
import ControlOfc.Lib.Asking
import ControlOfc.Lib.SortedMap
import ControlOfc.OpenFan.Controller
import Mathlib.Data.String.Basic
/-! # A firmware update (openfan_maintenance/run.rs:445-1396, 1700-1805)

The run takes the board to its bootloader, waits for the firmware, confirms the board that comes back and hands it
over. Its record goes to the journal before each action. What it asks of the board, of sysfs, of the poll loop and of
the other requests is answered from outside; `write_firmware` is one of those questions here (it is modelled in
`Firmware.Write`). Times, log lines and the claim guard's marks for a panic are left out, and a watch of sysfs is one
question.

| here | there |
| --- | --- |
| `Outcome`, `whenInterrupted` | mod.rs:72-120 |
| `says`, `compare` | evidence.rs:49-145 |
| `record`, `note`, `enter`, `interrupted` | run.rs:466-524 |
| `prepare`, `park`, `requestBootloader`, `sendJump`, `leaveNormalMode`, `awaitBootloader` | run.rs:589-802 |
| `claimGate`, `signal`, `bootButtonPass`, `enterSilent` | run.rs:807-1103 |
| `filePass`, `awaitReturn`, `returnPass`, `handshakePass`, `landedPass`, `onward` | run.rs:1106-1357 |
| `offer`, `handOver`, `inFirmware`, `dropPort`, `conclude` | run.rs:1363-1396, 1708-1805 |
| `recover` | journal.rs:62-101 |
-/
namespace ControlOfc.Firmware.Maintenance
open Asking

/-! ## The record -/

inductive Outcome where
  | noFirmwareChange
  | needsRecovery
  | firmwareCopiedBoardNotBack
  | boardBackControlNotRestored
  | completedBuildNotConfirmed
  | exactBuildVerified
  | backOnPreviousFirmware
  deriving DecidableEq, Repr

/-- `outcome::needs_recovery`. -/
def Outcome.leavesOutside : Outcome → Bool
  | .needsRecovery | .firmwareCopiedBoardNotBack => true
  | _ => false

/-- `outcome::when_interrupted`. -/
def whenInterrupted (bootloaderRequested boardAnswered : Bool) : Outcome :=
  if !bootloaderRequested then .noFirmwareChange
  else if !boardAnswered then .needsRecovery
  else .boardBackControlNotRestored

inductive Trigger where
  | jump
  | baud1200
  | bootButton
  deriving DecidableEq, Repr

/-- The `KEY:VALUE` strings of `>05` and `>06`. -/
abbrev Info := SortedMap String String

/-- `UsbDevice`. -/
structure UsbDevice where
  port : String
  vendorId : String
  productId : String
  manufacturer : Option String
  product : Option String
  serial : Option String
  configDescriptorHex : Option String

/-- `TtyIdentity`. -/
structure TtyIdentity where
  device : UsbDevice
  interfaceNumber : Nat
  tty : String

structure FirmwareClaim where
  sha256 : String
  size : Nat
  usbConfigDescriptorHex : Option String := none
  info : Option Info := none

structure BoardSnapshot where
  usb : Option UsbDevice := none
  hwInfo : Option Info := none
  fwInfo : Option Info := none

/-- `BoardSnapshot::info`. -/
def BoardSnapshot.info (s : BoardSnapshot) : Option Info :=
  if s.hwInfo.isNone && s.fwInfo.isNone then none
  else some (((s.fwInfo.getD .empty).entries).foldl (fun all e => all.insert e.1 e.2) (s.hwInfo.getD .empty))

inductive Verdict where
  | consistentWithFile
  | previousFirmware
  | inconclusive
  deriving DecidableEq, Repr

structure Evidence where
  descriptorChanged : Option Bool
  descriptorMatchesFile : Option Bool
  infoMatchesFile : Option Bool
  infoChanged : Option Bool
  verdict : Verdict

/-- `MaintenanceRecord`, without its times and its run id. -/
structure Record where
  /-- `state` is `running`. -/
  running : Bool := true
  stage : String := "preparing"
  cancellable : Bool := true
  outcome : Option Outcome := none
  outcomeDetail : Option String := none
  interrupted : Bool := false
  cancelled : Bool := false
  bootloaderRequested : Bool := false
  bootloaderSeen : Bool := false
  boardAnswered : Bool := false
  bootloaderTrigger : Option Trigger := none
  bootloaderDrive : Option String := none
  otherBootloaderDrives : List String := []
  notes : List String := []
  expectedUsbSerial : String
  usbPort : Option String := none
  interfaceNumber : Option Nat := none
  tty : Option String := none
  firmware : FirmwareClaim
  before : BoardSnapshot := {}
  after : Option BoardSnapshot := none
  evidence : Option Evidence := none
  firmwareWrite : Option FirmwareWrite := none

/-! ## The evidence -/

inductive Signal where
  | new
  | old
  | neither
  | cannotTell
  deriving DecidableEq, Repr

section Evidence

variable {α : Type} [DecidableEq α]

/-- `says`. -/
def Signal.of (before after file : Option α) : Signal :=
  match after, file with
  | some after, some file =>
    if after = file then
      if before = some file then .cannotTell else .new
    else if before = some after then .old
    else .neither
  | _, _ => .cannotTell

/-- Whether two known sides differ. -/
def differ (a b : Option α) : Option Bool := a.bind fun a => b.map fun b => decide (a ≠ b)

/-- Whether two known sides agree. -/
def agree (a b : Option α) : Option Bool := a.bind fun a => b.map fun b => decide (a = b)

end Evidence

/-- `on_file_keys`. -/
def onFileKeys (board : Option Info) (file : Info) : Option (List (String × String)) :=
  board.bind fun board => file.entries.mapM fun e => (board.get? e.1).map fun v => (e.1, v)

/-- The verdict on the two signals. -/
def verdictOf (signals : List Signal) : Verdict :=
  if .old ∈ signals ∧ .new ∉ signals ∧ .neither ∉ signals then .previousFirmware
  else if .new ∈ signals ∧ .old ∉ signals ∧ .neither ∉ signals then .consistentWithFile
  else .inconclusive

/-- `compare`. -/
def compare (before after : BoardSnapshot) (file : FirmwareClaim) : Evidence :=
  let desc (s : BoardSnapshot) : Option String := s.usb.bind (·.configDescriptorHex)
  let infoFile := file.info.filter fun m => !m.entries.isEmpty
  let infoBefore := infoFile.bind (onFileKeys before.info)
  let infoAfter := infoFile.bind (onFileKeys after.info)
  { descriptorChanged := differ (desc before) (desc after)
    descriptorMatchesFile := agree (desc after) file.usbConfigDescriptorHex
    infoMatchesFile := agree infoAfter (infoFile.map (·.entries))
    infoChanged := differ (before.info.map (·.entries)) (after.info.map (·.entries))
    verdict := verdictOf
      [.of (desc before) (desc after) file.usbConfigDescriptorHex, .of infoBefore infoAfter (infoFile.map (·.entries))] }

/-! ## The port -/

inductive PortHolds where
  | board
  | bootloader
  | other
  | empty
  deriving DecidableEq, Repr

/-- `port_holds`, of the device on the port. -/
def portHolds (device : Option UsbDevice) (serial : String) : PortHolds :=
  match device with
  | none => .empty
  | some d =>
    if d.vendorId = "2e8a" ∧ d.productId = "0003" then .bootloader
    else if d.vendorId = "2e8a" ∧ d.serial = some serial then .board
    else .other

/-- `is_openfan_board`. -/
def UsbDevice.isOpenfanBoard (d : UsbDevice) : Bool :=
  d.vendorId == "2e8a" && d.productId == "000a" && d.manufacturer == some "Karanovic Research" && d.product == some "OpenFan" &&
    d.serial.any fun s => !s.isEmpty && s.utf8ByteSize ≤ 64 && s.toList.all Char.isAlphanum

inductive Landed where
  | bootloader
  | firmware (tty : String)

inductive Back where
  | board (tty : String)
  | bootloader

structure Drives where
  disks : List String
  ours : Option String
  others : List String
  deriving DecidableEq

inductive FileWait where
  | left
  | drives (now : Drives)

/-- `Watched`. -/
inductive Watch (α : Type) where
  | found (a : α)
  | deadline
  | shutdown

/-- What the silent board said when it was asked once more. -/
inductive Asked where
  | answers
  | silent (why : String)
  deriving DecidableEq

inductive Written where
  | done
  | fellBack
  | stopped
  deriving DecidableEq

/-- What is read of a channel of the controller. -/
structure OpenFanChannel where
  channel : Nat
  rpmPolled : Bool
  lastCommandedPwm : Option Nat
  pollSeq : Nat

/-! ## Questions -/

inductive Ask where
  /-- `journal::save`: was it written? -/
  | save (r : Record)
  /-- `set_openfan_maintenance_stage`. -/
  | publishStage (stage : String)
  | shuttingDown
  | deadlinePassed
  /-- `pause`: `false` on a stop. -/
  | pause
  | cancelRequested
  | closeCancelWindow
  | openfanPort
  | ttyIdentity (tty : String)
  | readInfo
  | suspendWrites
  | resumeWrites
  | invalidateWrites
  /-- `set_pwm(ch, 100)`; `none` if the step panicked. -/
  | park (ch : Nat)
  /-- `borrow`, or `borrow_any` of a silent board's update; the refusal is described. -/
  | borrow (any : Bool)
  /-- `>07` on the lent port; `none` if the step panicked, which loses the port. -/
  | jump
  | touch1200
  | watchLeft
  | watchLanded
  | watchBootloader
  | watchFile (known : Option (List String))
  | watchBack
  | deviceAt (port : String)
  /-- The port has been empty for less time than a bootloader takes to appear. -/
  | settling
  | ttyFor (port : String) (interfaceNumber : Nat)
  | claimGate
  | freeGate
  /-- The silent board asked once more, on the port held or on its own node. -/
  | askOnce (held lentOnTarget : Bool) (tty : String)
  /-- Whether a port pending in the run answers, or one opened on `tty`. -/
  | checkFirmware (held : Bool) (tty : String)
  /-- `give_back`: a port on this node, or nothing. -/
  | giveBack (path : Option String)
  | adopt (path : String)
  | discardPort
  /-- `write_firmware`, with what it leaves of the record. -/
  | writeFirmware (port serial : String)
  /-- Opens the node and verifies the board's identity. -/
  | handshake (tty : String)
  | readBoard
  | openfanFans
  | pollsStarted
  | expectedChannels
  | releaseUnchanged
  | release (needsRecovery : Option Outcome)

abbrev Answered : Ask → Type
  | .save _ | .shuttingDown | .deadlinePassed | .pause | .cancelRequested | .closeCancelWindow | .suspendWrites
  | .settling | .claimGate | .checkFirmware .. | .giveBack _ | .adopt _ => Bool
  | .publishStage _ | .resumeWrites | .invalidateWrites | .freeGate | .discardPort | .releaseUnchanged | .release _ => Unit
  | .openfanPort | .ttyFor .. => Option String
  | .ttyIdentity _ => Option TtyIdentity
  | .readInfo => Option Info × Option Info
  | .park _ | .jump | .touch1200 | .handshake _ => Option (Except String Unit)
  | .borrow _ => Except String Unit
  | .watchLeft | .watchBootloader => Watch Unit
  | .watchLanded => Watch Landed
  | .watchFile _ => Watch FileWait
  | .watchBack => Watch Back
  | .deviceAt _ => Option UsbDevice
  | .askOnce .. => Option (Except String Asked)
  | .writeFirmware .. => Written × MaintenanceRecord
  | .readBoard => Option (Option Info × Option Info)
  | .openfanFans => List OpenFanChannel
  | .pollsStarted => Nat
  | .expectedChannels => List Nat

abbrev Event := Σ q : Ask, Answered q

/-- `Runner`. -/
structure Update where
  record : Record
  /-- The borrowed port is held. -/
  port : Bool := false
  /-- The loan is not settled. -/
  handle : Bool := false
  gate : Bool := false
  handedOver : Bool := false

/-- `Target`. -/
inductive Target where
  | connected
  | silent (usbPort : String) (interfaceNumber : Nat) (lender : Bool)

structure End where
  outcome : Outcome
  detail : String
  interrupted : Bool := false
  cancelled : Bool := false
  deriving DecidableEq

/-- `End::new`. -/
def End.new (outcome : Outcome) (detail : String) : End := { outcome, detail }

/-- `End::cancelled`. -/
def End.cancelledAt (detail : String) : End := { outcome := .noFirmwareChange, detail, cancelled := true }

/-- A run is left by its end, or by a loop that was cut. -/
inductive Left where
  | unended
  | ended (e : End)

abbrev UpdateRun := Asking Ask Answered Update

abbrev Runner := Act UpdateRun Left

open Ask

variable {ε : Type}

/-! ## The record and the stages -/

/-- `record`: the record is changed and goes to the journal before anything else happens. -/
def record (f : Record → Record) : Act UpdateRun ε Unit := do
  modify fun u => { u with record := f u.record }
  let _ ← ask (save (← get).record)

def note (text : String) : Runner Unit := record fun r => { r with notes := r.notes ++ [text] }

def enter (next : String) : Runner Unit := do
  record fun r => { r with stage := next }
  ask (publishStage next)

def stop {α : Type} (e : End) : Runner α := Act.leave (.ended e)

def unchanged {α : Type} (detail : String) : Runner α := stop (.new .noFirmwareChange detail)

/-- A run the daemon is stopping. -/
def interrupted {α : Type} : Runner α := do
  let r := (← get).record
  stop { outcome := whenInterrupted r.bootloaderRequested r.boardAnswered
         detail := s!"interrupted by a daemon stop during {r.stage}", interrupted := true }

/-- `close_cancel_window`. -/
def closeWindow : Runner Bool := do
  modify fun u => { u with record := { u.record with cancellable := false } }
  ask closeCancelWindow

/-- `drop_port`. -/
def dropPort : Act UpdateRun ε Unit := do
  if (← get).port then
    modify fun u => { u with port := false }
    ask discardPort

structure Entered where
  port : String
  ifnum : Nat

/-! ## A board that answers -/

/-- Stage 1: the board is the one the update was started for. -/
def prepare (serial : String) : Runner TtyIdentity := do
  enter "preparing"
  match ← ask openfanPort with
  | none => unchanged "the controller's serial device is not known"
  | some adopted =>
    match ← ask (ttyIdentity adopted) with
    | none => unchanged "the board's USB identity could not be read"
    | some identity =>
      if identity.device.serial ≠ some serial then
        unchanged "the connected board is not the one the update was started for"
      else
        let (hw, fw) ← ask readInfo
        record fun r => { r with
          usbPort := some identity.device.port, interfaceNumber := some identity.interfaceNumber
          tty := some ("/dev/" ++ identity.tty), before := ⟨some identity.device, hw, fw⟩ }
        if ← ask cancelRequested then
          stop (.cancelledAt "cancelled before the fans were touched")
        if ← ask shuttingDown then
          interrupted
        return identity

def parkFrom : List Nat → Runner Unit
  | [] => return
  | ch :: rest => do
    if ← ask cancelRequested then
      stop (.cancelledAt "cancelled while parking the fans — they return to profile control")
    match ← ask (Ask.park ch) with
    | some (.ok ()) => parkFrom rest
    | some (.error e) => unchanged s!"parking channel {ch} at 100 % failed ({e})"
    | none => unchanged s!"parking channel {ch} at 100 % failed"

/-- Stage 2: every channel at 100 %, and the last point a cancel lands. -/
def park : Runner Unit := do
  enter "parking"
  if !(← ask suspendWrites) then
    unchanged "the update lost its claim on the controller"
  parkFrom (List.range OpenFan.numChannels)
  if ← closeWindow then
    stop (.cancelledAt "cancelled after parking the fans — they return to profile control")
  if ← ask shuttingDown then
    interrupted

/-- The board left normal mode in time. -/
def awaitLeft : Runner Bool := do
  match ← ask watchLeft with
  | .found _ => return true
  | .deadline => return false
  | .shutdown => interrupted

/-- The 1200-baud signal, and what is noted of it. -/
def touch : Runner Unit := do
  match ← ask touch1200 with
  | some (.ok ()) => return
  | some (.error e) => note s!"the 1200-baud signal failed ({e})"
  | none => note "the 1200-baud signal failed"

/-- `>07`, on the borrowed port. -/
def sendJump : Runner Unit := do
  match ← ask jump with
  | some sent =>
    modify fun u => { u with port := true }
    if let .error e := sent then
      note s!"sending >07 failed ({e})"
  | none => note "sending >07 failed (protocol error: the write task failed)"

/-- Whether the board left normal mode: on `>07`, or on the 1200-baud signal on the same port. -/
def leaveNormalMode : Runner Bool := do
  if ← awaitLeft then
    return true
  record fun r => { r with bootloaderTrigger := some .baud1200 }
  if (← get).port then
    modify fun u => { u with port := false }
    touch
  awaitLeft

/-- Stage 3: the port is borrowed and the bootloader asked for. -/
def requestBootloader : Runner Bool := do
  enter "entering_bootloader"
  match ← ask (borrow false) with
  | .error why => unchanged s!"the port could not be borrowed: {why}"
  | .ok () =>
    modify fun u => { u with handle := true }
    record fun r => { r with bootloaderRequested := true, bootloaderTrigger := some .jump }
    sendJump
    leaveNormalMode

/-- `in_firmware`: the board never reached its bootloader. It is handed back if it answers. -/
def inFirmware {α : Type} (tty what : String) : Runner α := do
  let held := (← get).port
  modify fun u => { u with port := false }
  let answers ← ask (checkFirmware held tty)
  if !(← get).handle then
    unchanged what
  modify fun u => { u with handle := false }
  let _ ← ask (giveBack (if answers then some tty else none))
  unchanged (what ++ if answers then "; it answers, and control resumes"
    else ", and it does not answer — the daemon is reconnecting to it")

def awaitBootloader (identity : TtyIdentity) (gone : Bool) : Runner Entered := do
  if !gone then
    inFirmware ("/dev/" ++ identity.tty) "the board did not leave normal mode"
  match ← ask watchLanded with
  | .found .bootloader => return ⟨identity.device.port, identity.interfaceNumber⟩
  | .found (.firmware tty) =>
    dropPort
    inFirmware tty "the board restarted into its firmware instead of its bootloader"
  | .deadline => stop (.new .needsRecovery "the board left normal mode, but no bootloader appeared on its USB port")
  | .shutdown => interrupted

/-- `enter_connected`. -/
def enterConnected (serial : String) : Runner Entered := do
  let identity ← prepare serial
  park
  awaitBootloader identity (← requestBootloader)

/-! ## A silent board -/

/-- Through the loan where one is out, else by adopting the board. What a refusal is put down to. -/
def offer (target : Target) (path : String) : Runner (Bool × String) := do
  if (← get).handle then
    modify fun u => { u with handle := false }
    return (← ask (giveBack (some path)), "the poll loop did not take the port back")
  match target with
  | .silent .. => return (← ask (adopt path), "the board answers, but it could not be adopted as the controller")
  | .connected => stop (.new .boardBackControlNotRestored "the loan was lost before the hand-back")

/-- `hand_over`. -/
def handOver (target : Target) (path : String) : Runner Unit := do
  let (taken, refused) ← offer target path
  if !taken then
    if ← ask shuttingDown then
      interrupted
    stop (.new .boardBackControlNotRestored refused)
  modify fun u => { u with handedOver := true }

/-- One pass of the wait for a probe that is running. -/
def gatePass (_ : Unit) : Runner (Unit ⊕ Unit) := do
  if ← ask claimGate then
    modify fun u => { u with gate := true }
    return .inr ()
  if ← ask cancelRequested then
    stop (.cancelledAt "cancelled before the board was signalled")
  if ← ask deadlinePassed then
    unchanged "an OpenFan probe that was already running did not finish in time"
  if !(← ask pause) then
    interrupted
  return .inl ()

/-- Stage 1 of a silent board's update; the serial device it is on. -/
def prepareSilent (serial port : String) (ifnum : Nat) (lender : Bool) (fuel : Nat) : Runner String := do
  enter "preparing"
  let device := (← ask (deviceAt port)).filter fun d => d.isOpenfanBoard && d.serial == some serial
  match device, ← ask (ttyFor port ifnum) with
  | some device, some tty =>
    record fun r => { r with
      usbPort := some port, interfaceNumber := some ifnum, tty := some tty, before := ⟨some device, none, none⟩ }
    Act.iterate .unended gatePass fuel ()
    if lender then
      match ← ask (borrow true) with
      | .ok () => modify fun u => { u with handle := true, port := true }
      | .error why => unchanged s!"the OpenFan poll loop could not be paused: {why}"
    if ← ask cancelRequested then
      stop (.cancelledAt "cancelled before the board was signalled")
    if ← ask shuttingDown then
      interrupted
    return tty
  | _, _ => unchanged "the board is no longer on its USB port running its firmware"

/-- Stage 2: asked once more, and signalled if it is silent. Whether a signal was sent. -/
def signal (target : Target) (tty : String) : Runner Bool := do
  enter "entering_bootloader"
  let lentOnTarget := (← ask openfanPort) = some tty
  let held := (← get).port
  modify fun u => { u with port := false }
  match ← ask (askOnce held lentOnTarget tty) with
  | some (.ok .answers) =>
    handOver target tty
    unchanged
      "the board answers Control-OFC — it is not silent, nothing was changed, and control resumes"
  | some (.ok (.silent why)) =>
    note s!"the board does not answer ({why})"
    record fun r => { r with bootloaderRequested := true, bootloaderTrigger := some .baud1200 }
    touch
    return true
  | some (.error e) =>
    note s!"the board's serial device could not be opened ({e}) — no signal was sent"
    return false
  | none =>
    note "opening the board's serial device failed — no signal was sent"
    return false

/-- Whether the signal took the board to its bootloader. -/
def awaitSignalled : Runner Bool := do
  if !(← awaitLeft) then
    return false
  match ← ask watchBootloader with
  | .found _ => return true
  | .deadline => return false
  | .shutdown => interrupted

/-- The port is empty, and has not been for as long as a bootloader takes to appear. -/
def stillSettling (holds : PortHolds) : Runner Bool := if holds = .empty then ask settling else return false

/-- A cancel, or the time running out, ends the wait once one more look has confirmed it. -/
def confirmEnding (ending : Option End) : Runner (Option End) := do
  if let some e := ending then
    stop e
  if ← ask cancelRequested then
    return some (.cancelledAt "cancelled while waiting for the BOOT button — the board was not changed")
  if ← ask deadlinePassed then
    return some (.new .noFirmwareChange "the board did not enter its bootloader in time — nothing was changed")
  return none

def confirmUnless (still : Bool) (ending : Option End) : Runner (Option End) :=
  if still then return none else confirmEnding ending

/-- One look of the wait for the BOOT button. -/
def bootButtonPass (port serial : String) (ending : Option End) : Runner (Option End ⊕ Unit) := do
  let holds := portHolds (← ask (deviceAt port)) serial
  if holds = .bootloader then
    return .inr ()
  let still ← stillSettling holds
  let next ← confirmUnless still ending
  if !(← ask pause) then
    interrupted
  return .inl next

/-- `wait_for_boot_button`. -/
def waitForBootButton (port serial : String) (fuel : Nat) : Runner Unit := do
  record fun r => { r with bootloaderRequested := true, bootloaderTrigger := some .bootButton }
  enter "waiting_for_boot_button"
  note
    "the board did not enter its bootloader — hold its BOOT button, press and release RESET, then release BOOT"
  Act.iterate .unended (bootButtonPass port serial) fuel none

/-- `enter_silent`. -/
def enterSilent (target : Target) (serial port : String) (ifnum : Nat) (lender : Bool) (fuel : Nat) : Runner Entered := do
  let tty ← prepareSilent serial port ifnum lender fuel
  let mut landed := false
  if ← signal target tty then
    landed ← awaitSignalled
  if !landed then
    waitForBootButton port serial fuel
  if ← closeWindow then
    note
      "a cancel arrived as the board entered its bootloader — the update goes on, since stopping now would leave the board there"
  return ⟨port, ifnum⟩

/-! ## From the bootloader on -/

/-- The daemon's own write, where the start asked for it. Whether it was done. -/
def ownWrite (write : Bool) (port serial : String) : Runner Bool := do
  if !write then
    return false
  let (written, left) ← ask (writeFirmware port serial)
  modify fun u => { u with record := { u.record with
    stage := left.stage, firmwareWrite := left.firmwareWrite, notes := left.notes } }
  match written with
  | .done => return true
  | .fellBack => return false
  | .stopped => interrupted

/-- `NO_FILE_IN_TIME`. -/
def noFileInTime : String := "no firmware file was copied in time — the board is still in its bootloader"

/-- One event of the wait for the file: the drives seen so far. -/
def filePass (seen : Option Drives) : Runner (Option Drives ⊕ Unit) := do
  match ← ask (watchFile (seen.map (·.disks))) with
  | .found .left => return .inr ()
  | .found (.drives now) =>
    if seen.all fun was => (was.ours, was.others) ≠ (now.ours, now.others) then
      record fun r => { r with bootloaderDrive := now.ours, otherBootloaderDrives := now.others }
    if ← ask deadlinePassed then
      stop (.new .needsRecovery noFileInTime)
    return .inl (some now)
  | .deadline => stop (.new .needsRecovery noFileInTime)
  | .shutdown => interrupted

/-- `OPENFAN_MAINT_MAX_BOOTLOADER_RETURNS`. -/
def maxBootloaderReturns : Nat := 3

/-- How often the board went back to its bootloader, and whether a file is waited for. -/
structure Return where
  returns : Nat
  waitForFile : Bool

/-- The wait for the board, which ends with its serial device, or goes back to the file. -/
def awaitReturn (st : Return) : Runner (Return ⊕ String × Nat) := do
  enter "waiting_for_return"
  match ← ask watchBack with
  | .found (.board tty) => return .inr (tty, st.returns)
  | .found .bootloader =>
    let returns := st.returns + 1
    if maxBootloaderReturns ≤ returns then
      stop (.new .needsRecovery
        s!"the board went back to its bootloader {returns} times after its drive went away — it is still in its bootloader")
    note
      "the board went back to its bootloader — the copied file may not have started; waiting for a file again"
    return .inl ⟨returns, true⟩
  | .deadline => stop (.new .firmwareCopiedBoardNotBack "the board did not come back after its drive went away")
  | .shutdown => interrupted

/-- One round of the wait for the file and for the board. -/
def returnPass (fuel : Nat) (st : Return) : Runner (Return ⊕ String × Nat) := do
  if st.waitForFile then
    enter "waiting_for_file"
    Act.iterate .unended filePass fuel none
  awaitReturn st

/-- One attempt of the identity handshake on the board that came back. -/
def handshakePass (tty : String) (_ : Unit) : Runner (Unit ⊕ Unit) := do
  match ← ask (handshake tty) with
  | some (.ok ()) => return .inr ()
  | answer =>
    let lastError := match answer with
      | some (.error e) => e
      | _ => "the open task failed"
    if ← ask deadlinePassed then
      stop (.new .firmwareCopiedBoardNotBack
        s!"the board came back (its USB identity matches) but does not answer Control-OFC's commands ({lastError})")
    if !(← ask pause) then
      interrupted
    return .inl ()

/-- Stage 6: the board answers, and what its reports say of the firmware it runs. -/
def check (fuel : Nat) (port tty : String) : Runner Verdict := do
  enter "checking"
  let usb ← ask (deviceAt port)
  record fun r => { r with tty := some tty }
  Act.iterate .unended (handshakePass tty) fuel ()
  record fun r => { r with boardAnswered := true }
  match ← ask readBoard with
  | none => stop (.new .firmwareCopiedBoardNotBack "reading the returned board's information failed")
  | some (hw, fw) =>
    record fun r => { r with
      evidence := some (compare r.before ⟨usb, hw, fw⟩ r.firmware), after := some ⟨usb, hw, fw⟩ }
    return ((← get).record.evidence.map (·.verdict)).getD .inconclusive

/-- Every expected channel has its setting again, and every known one was polled since. -/
def landed (expected known : List Nat) (pollsBefore : Nat) (fans : List OpenFanChannel) : Bool :=
  (expected.all fun ch => fans.any fun f => f.channel == ch && f.lastCommandedPwm.isSome) &&
    known.all fun ch => fans.any fun f => f.channel == ch && pollsBefore < f.pollSeq

def landedPass (expected known : List Nat) (pollsBefore : Nat) (_ : Unit) : Runner (Unit ⊕ Unit) := do
  if landed expected known pollsBefore (← ask openfanFans) then
    return .inr ()
  if ← ask deadlinePassed then
    stop (.new .boardBackControlNotRestored
      "the board answers, but the fan settings did not land in time — the engine keeps retrying")
  if !(← ask pause) then
    interrupted
  return .inl ()

/-- Stage 7: the board is handed over, and its settings have landed. -/
def restoreControl (target : Target) (fuel : Nat) (tty : String) : Runner Unit := do
  enter "restoring_control"
  ask invalidateWrites
  let known := ((← ask openfanFans).filter (·.rpmPolled)).map (·.channel)
  let pollsBefore ← ask pollsStarted
  handOver target tty
  ask resumeWrites
  let expected ← ask expectedChannels
  Act.iterate .unended (landedPass expected known pollsBefore) fuel ()

/-- How a run that restored control ends. -/
def finished (verified previous : Bool) : End :=
  match verified, previous with
  | true, false => .new .exactBuildVerified
    "control is restored; Control-OFC wrote the file, read every byte back, and the board restarted from it"
  | true, true => .new .completedBuildNotConfirmed
    "control is restored; Control-OFC wrote the file and read every byte back, but the board's own reports match the firmware it ran before, so the exact build is not confirmed"
  | false, true => .new .backOnPreviousFirmware
    "control is restored, but the board reports the firmware it ran before — the update was not applied"
  | false, false => .new .completedBuildNotConfirmed
    "control is restored; the evidence is shown, but no check can prove which exact build is running"

/-- `onward_from_bootloader`. -/
def onward (target : Target) (write : Bool) (fuel : Nat) (entered : Entered) (serial : String) : Runner Unit := do
  ask invalidateWrites
  record fun r => { r with bootloaderSeen := true }
  dropPort
  let written ← ownWrite write entered.port serial
  let (tty, returns) ← Act.iterate .unended (returnPass fuel) fuel ⟨0, !written⟩
  let verdict ← check fuel entered.port tty
  restoreControl target fuel tty
  stop (finished (written && returns == 0) (verdict == .previousFirmware))

/-! ## The whole run -/

/-- `drive`. -/
def drive (target : Target) (write : Bool) (fuel : Nat) : Runner Unit := do
  let serial := (← get).record.expectedUsbSerial
  let entered ← match target with
    | .connected => enterConnected serial
    | .silent port ifnum lender => enterSilent target serial port ifnum lender fuel
  onward target write fuel entered serial

/-- `finish_record`, and whether the run was cancelled. -/
def Record.finish (r : Record) (e : End) : Record :=
  { r with
    running := false, cancellable := false, outcome := some e.outcome, outcomeDetail := some e.detail
    interrupted := r.interrupted || e.interrupted, cancelled := e.cancelled }

/-- `conclude`: the journal, then the port or nothing, then the claim, then the probes' flag. -/
def conclude (e : End) : Act UpdateRun Empty Unit := do
  record fun r => r.finish e
  if (← get).handle then
    dropPort
    modify fun u => { u with handle := false }
    let _ ← ask (giveBack none)
  if e.outcome = .noFirmwareChange ∧ !(← get).handedOver then
    ask releaseUnchanged
  else
    ask (release (if e.outcome.leavesOutside then some e.outcome else none))
  if (← get).gate then
    modify fun u => { u with gate := false }
    ask freeGate

/-- `run`: how it ended; `none` if a loop did not end. -/
def run (target : Target) (write : Bool) (fuel : Nat) : Act UpdateRun Empty (Option End) := do
  match ← Act.attempt (drive target write fuel) with
  | .error (.ended e) =>
    conclude e
    return some e
  | _ => return none

/-- A run before its first question. -/
def start (serial : String) (firmware : FirmwareClaim) (write : Option FirmwareWrite)
    (env : List Event → (q : Ask) → Answered q) : UpdateRun :=
  ⟨env, [], { record := { expectedUsbSerial := serial, firmware, firmwareWrite := write } }⟩

/-! ## The journal -/

/-- What the journal holds: the record that was last written. -/
def journal (said : List Event) : Option Record :=
  said.foldl (fun j e => match e with
    | ⟨.save r, true⟩ => some r
    | _ => j) none

/-- `recover`: a run the daemon stopped in the middle of is closed, and nothing it did is repeated. -/
def recover (r : Record) : Record :=
  if !r.running then r
  else
    let howFar :=
      if !r.bootloaderRequested then "before the board was asked to enter its bootloader"
      else if !r.boardAnswered then "after asking the board to enter its bootloader"
      else "after the board came back and answered"
    { r with
      running := false, interrupted := true, cancellable := false
      outcome := some (whenInterrupted r.bootloaderRequested r.boardAnswered)
      outcomeDetail := some s!"the daemon stopped during {r.stage}, {howFar}; nothing was repeated" }

end ControlOfc.Firmware.Maintenance
