import ControlOfc.Firmware.Picoboot
/-! # The daemon's own firmware write (openfan_maintenance/run.rs)

`write_firmware` identifies the bootloader's flash, erases and programs each sector of the image, reads
every run back and restarts the board. Anything that stops it earlier gives the drive back, and the run
goes on to the copy by hand.
-/
namespace ControlOfc.Firmware

/-- How the daemon's own write ended. -/
inductive Written where
  | done
  | fellBack
  | stopped
  deriving DecidableEq

abbrev Runner (α : Type) : Type := Act World Written α

/-- `{:#010x}`. -/
def hex32 (n : Nat) : String := "0x" ++ String.ofList ((Nat.toDigits 16 n).leftpad 8 '0')

namespace Runner

/-- The early `return`. -/
def leaveWith {α : Type} (m : Runner Written) : Runner α := do
  let written ← m
  Act.leave written

/-- `record` (run.rs:468): the record is changed, and handed to the journal before anything else
happens. A journal that cannot be written is logged, and the run goes on. -/
def record (f : MaintenanceRecord → MaintenanceRecord) : Runner Unit :=
  Act.modify fun w =>
    { w.asked with record := f w.record, log := w.log ++ [.journal (f w.record) w.answer.yes] }

/-- `record_write` (run.rs:1412). -/
def recordWrite (f : FirmwareWrite → FirmwareWrite) : Runner Unit :=
  record fun r => { r with firmwareWrite := r.firmwareWrite.map f }

/-- `progress` (run.rs:1403): in memory only. -/
def progress (f : FirmwareWrite → FirmwareWrite) : Runner Unit :=
  Act.modify fun w => { w with record := { w.record with firmwareWrite := w.record.firmwareWrite.map f } }

def note (text : String) : Runner Unit := record fun r => { r with notes := r.notes ++ [text] }

def enterUntil (stage : String) : Runner Unit := record fun r => { r with stage }

def shuttingDown : Runner Bool := Act.lift fun w => (w.answer.yes, w.asked)

/-- `Instant::now() >= deadline`. -/
def pastDeadline : Runner Bool := Act.lift fun w => (w.answer.yes, w.asked)

/-- Opens the bootloader on the board's port, on the blocking pool. -/
def openClient : Runner (Option (Except PicobootError Unit)) := Act.lift fun w => (w.answer.opened, w.asked)

/-- Waits for the bootloader to leave the port. -/
def watchSysfs : Runner Watched := Act.lift fun w => (w.answer.watched, w.asked)

/-- `on_usb` (run.rs:378): `none` if the step panicked. -/
def onUsb {α : Type} (m : Usb α) : Runner (Option (Except PicobootError α)) := do
  match ← Act.attempt m with
  | .ok a => pure (some (.ok a))
  | .error (.error e) => pure (some (.error e))
  | .error .lost => pure none

/-- `is_ok`, of a step that did not panic. -/
def isOk (m : Usb Unit) : Usb Bool := do
  match ← Act.attempt m with
  | .ok () => pure true
  | .error (.error _) => pure false
  | .error .lost => Act.leave .lost

/-- Asks for the drive; resets the interface and asks again if that fails. -/
def askForDrive : Usb Bool := do
  if ← isOk (Client.exclusiveAccess notExclusive) then pure true
  else if ← isOk Client.reset then isOk (Client.exclusiveAccess notExclusive)
  else pure false

/-- `release_drive` (run.rs:392). -/
def releaseDrive : Runner Bool := do
  match ← onUsb askForDrive with
  | some (.ok released) => pure released
  | _ => pure false

/-- `fell_back` (run.rs:1652). -/
def fellBack (released : Bool) (reason detail : String) : Runner Written := do
  recordWrite fun w =>
    { w with phase := "fell_back", fallbackReason := some reason, fallbackDetail := some detail }
  let copy :=
    if reason = "flash_id_mismatch" then
      "copy the file onto the drive only if you are sure it is the OpenFAN board's"
    else "copy the file onto the board's drive"
  note ("Control-OFC did not write the firmware itself (" ++ detail ++ ") — " ++ copy)
  if released then pure Written.fellBack
  else do
    note ("the bootloader did not confirm its drive takes a copy again — if the copy fails, " ++
      "see the recovery steps")
    pure Written.fellBack

/-- `fall_back` (run.rs:1622): `client` is whether the bootloader is open. -/
def fallBack (client : Bool) (reason detail : String) : Runner Written := do
  let released ← if client then releaseDrive else pure true
  fellBack released reason detail

/-- `fall_back_held` (run.rs:1638): the client was lost, and is opened again to give the drive back. -/
def fallBackHeld (reason detail : String) : Runner Written := do
  match ← openClient with
  | some (.ok ()) => do
    let released ← releaseDrive
    fellBack released reason detail
  | _ => fellBack false reason detail

/-- `stop_writing` (run.rs:1684). -/
def stopWriting : Runner Written := do
  let _ ← releaseDrive
  pure .stopped

/-- Opening the bootloader, and nothing else (run.rs:1441-1464). -/
def openBootloader : Runner Unit := do
  match ← openClient with
  | some (.ok ()) => pure ()
  | some (.error (.noAccess e)) =>
    leaveWith (fallBack false "no_usb_access"
      ("the daemon may not open USB devices (" ++ e ++ ") — the openfan-firmware-write drop-in is not installed"))
  | some (.error e) => leaveWith (fallBack false "usb_unavailable" e.display)
  | none => leaveWith (fallBack false "usb_unavailable" "opening the bootloader failed")

/-- The steps before the flash id. -/
def identifySteps : Usb (List Nat) := do
  Client.reset
  Client.exclusiveAccess exclusive
  Client.exitXip
  Client.flashId

/-- Whose flash is it? (run.rs:1468-1489) -/
def identify : Runner (List Nat) := do
  match ← onUsb identifySteps with
  | some (.ok id) => pure id
  | some (.error e) =>
    leaveWith (fallBack true "transfer_failed" ("reading the flash id failed: " ++ e.display))
  | none => leaveWith (fallBackHeld "transfer_failed" "reading the flash id failed")

/-- The checks before a sector is written or read back. -/
def checkStop (late : String) : Runner Unit := do
  if ← shuttingDown then leaveWith stopWriting
  else if ← pastDeadline then leaveWith (fallBack true "transfer_failed" late)
  else pure ()

/-- One sector of the write loop, from the checks on (run.rs:1526-1543). -/
def writeOne (sector : Sector) : Runner Unit := do
  match ← onUsb (writeSector sector) with
  | some (.ok ()) => pure ()
  | some (.error e) =>
    leaveWith (fallBack true "transfer_failed"
      ("writing the sector at " ++ hex32 sector.base ++ " failed: " ++ e.display))
  | none => leaveWith (fallBackHeld "transfer_failed" ("writing the sector at " ++ hex32 sector.base ++ " failed"))

/-- The write loop; before the first sector the record says that the flash is about to change
(run.rs:1503-1546). -/
def writeSectors : (index done : Nat) → List Sector → Runner Unit
  | _, _, [] => pure ()
  | index, done, sector :: rest => do
    checkStop "the write did not finish in time"
    if index = 0 then recordWrite fun w => { w with flashChanged := true, phase := "writing" }
    else pure ()
    writeOne sector
    progress fun w => { w with doneBytes := done + sector.bytes }
    writeSectors (index + 1) (done + sector.bytes) rest

/-- One sector of the read-back loop, from the checks on (run.rs:1565-1588). -/
def verifyOne (sector : Sector) : Runner Unit := do
  match ← onUsb (verifySector sector) with
  | some (.ok none) => pure ()
  | some (.ok (some at_)) =>
    leaveWith (fallBack true "readback_mismatch" ("the flash at " ++ hex32 at_ ++ " does not hold the file's bytes"))
  | some (.error e) =>
    leaveWith (fallBack true "transfer_failed"
      ("reading back the sector at " ++ hex32 sector.base ++ " failed: " ++ e.display))
  | none =>
    leaveWith (fallBackHeld "transfer_failed" ("reading back the sector at " ++ hex32 sector.base ++ " failed"))

def verifySectors : (done : Nat) → List Sector → Runner Unit
  | _, [] => pure ()
  | done, sector :: rest => do
    checkStop "reading the firmware back did not finish in time"
    verifyOne sector
    progress fun w => { w with doneBytes := done + sector.bytes }
    verifySectors (done + sector.bytes) rest

/-- The board is told to restart (run.rs:1596-1616). -/
def restartBoard : Runner Unit := do
  match ← onUsb Client.reboot with
  | some (.ok ()) => pure ()
  | some (.error e) =>
    leaveWith (fallBack true "no_restart" ("the firmware was written and read back, but the restart failed (" ++
      e.display ++ ") — press the board's RESET button, or copy the file onto its drive"))
  | none =>
    leaveWith (fallBackHeld "no_restart" ("the firmware was written and read back, but the restart failed — " ++
      "press the board's RESET button, or copy the file onto its drive"))

/-- The bootloader leaves the board's port, or not (run.rs:1617-1639). -/
def awaitRestart : Runner Written := do
  match ← watchSysfs with
  | .found => do
    recordWrite fun w => { w with phase := "written" }
    pure Written.done
  | .deadline =>
    fallBackHeld "no_restart" ("the firmware was written and read back, but the board did not " ++
      "restart — press its RESET button, or copy the file onto its drive")
  | .shutdown => pure Written.stopped

/-- The restart (run.rs:1593-1639). -/
def restart : Runner Written := do
  if ← shuttingDown then leaveWith stopWriting else pure ()
  restartBoard
  awaitRestart

/-- `write_firmware` (run.rs:1426). -/
def writeFirmware (port : String) (serial : List Char) (release : String) (image : Image) : Runner Written := do
  enterUntil "writing_firmware"
  record fun r =>
    { r with firmwareWrite := some { r.firmwareWrite.getD (.new release image.byteCount) with phase := "identifying" } }
  openBootloader
  let id ← identify
  recordWrite fun w => { w with flashId := some (String.ofList (serialOf id)) }
  if idMatchesSerial id serial then do
    writeSectors 0 0 image.sectors
    recordWrite fun w => { w with phase := "verifying", doneBytes := 0 }
    verifySectors 0 image.sectors
    recordWrite fun w => { w with verified := true, phase := "rebooting" }
    restart
  else
    fallBack true "flash_id_mismatch" ("the bootloader on USB port " ++ port ++
      " has another board's flash, not this controller's — nothing was written")

end Runner

/-- Where a run's write begins: its record has none yet. -/
def World.begin (mem : Nat → Nat) (answers : Nat → Answer) (stage : String) (notes : List String) : World :=
  { mem, answers, next := 0, record := ⟨stage, none, notes⟩, log := [] }

/-- A whole run: how the write ended, and the world it left. -/
def World.writeFirmware (w : World) (port : String) (serial : List Char) (release : String) (image : Image) :
    Written × World :=
  match Runner.writeFirmware port serial release image w with
  | (.ok written, w') => (written, w')
  | (.error written, w') => (written, w')

end ControlOfc.Firmware
