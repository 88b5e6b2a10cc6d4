import ControlOfc.Lib.Act
import ControlOfc.Lib.Text
import ControlOfc.Firmware.Uf2
/-! # PICOBOOT (serial/picoboot.rs)

The commands the daemon sends to an RP2040's boot ROM, and a boot ROM that answers them as it likes:
each is carried out, refused, or fails after it reached the ROM or before, and a command that was not
carried out may have left any bytes in the range it names. The daemon's step that sends it may panic,
which takes the client with it.

`World` holds the board's memory, the answers to come, the run's record, and what has happened so far.
-/
namespace ControlOfc.Firmware

/-- `LinkError` (picoboot.rs:91). -/
inductive LinkError where
  | stall
  | timeout
  | gone
  | other (text : String)
  deriving DecidableEq

def LinkError.display : LinkError → String
  | .stall => "the bootloader stalled"
  | .timeout => "no answer in time"
  | .gone => "the device left USB"
  | .other e => e

/-- `PicobootError` (picoboot.rs:141). -/
inductive PicobootError where
  | noAccess (e : String)
  | notFound (e : String)
  | transfer (e : String)
  | refused (command : String) (status : Option Nat)
  | protocol (e : String)
  deriving DecidableEq

/-- `status_text` (picoboot.rs:182). -/
def statusText : Nat → String
  | 0 => "ok"
  | 1 => "unknown command"
  | 2 => "invalid command length"
  | 3 => "invalid transfer length"
  | 4 => "invalid address"
  | 5 => "bad alignment"
  | 6 => "interleaved write"
  | 7 => "rebooting"
  | 8 => "unknown error"
  | _ => "an unrecognised status"

def PicobootError.display : PicobootError → String
  | .noAccess e => "the daemon may not open USB devices (" ++ e ++ ")"
  | .notFound e | .transfer e | .protocol e => e
  | .refused command (some code) => "the bootloader refused " ++ command ++ ": " ++ statusText code
  | .refused command none => "the bootloader refused " ++ command

/-- `EXCLUSIVE_ACCESS`'s argument. -/
abbrev notExclusive : Nat := 0
abbrev exclusive : Nat := 1

/-- `FLASH_ID_CODE_ADDR`: XIP SRAM, free while XIP is off. -/
abbrev flashIdCodeAddr : Nat := 0x15000000

/-- `FLASH_ID_RESULT_ADDR`. -/
abbrev flashIdResultAddr : Nat := flashIdCodeAddr + 28 + 1 + 4

/-- `FLASH_ID_HELPER` (picoboot.rs:83). -/
def flashIdHelper : List Nat := [
  0x02, 0xa0, 0x06, 0xa1, 0x00, 0x4a, 0x11, 0xe0, 0x0d, 0x00, 0x00, 0x00, 0x4b, 0x00, 0x00, 0x00,
  0x00, 0x00, 0x00, 0x00, 0x00, 0x00, 0x00, 0x00, 0x00, 0x00, 0x00, 0x00, 0x00, 0x00, 0x00, 0x00,
  0x00, 0x00, 0x00, 0x00, 0x00, 0x00, 0x00, 0x00, 0x00, 0x00, 0x00, 0x00, 0x80, 0x23, 0xf0, 0xb5,
  0x17, 0x4e, 0x9b, 0x00, 0x34, 0x68, 0x63, 0x40, 0xc0, 0x24, 0xa4, 0x00, 0x23, 0x40, 0x15, 0x4c,
  0x23, 0x60, 0xc0, 0x24, 0x13, 0x00, 0x64, 0x05, 0x17, 0x00, 0x1f, 0x43, 0x06, 0xd1, 0xc0, 0x23,
  0x32, 0x68, 0x9b, 0x00, 0x93, 0x43, 0x0f, 0x4a, 0x13, 0x60, 0xf0, 0xbd, 0x08, 0x25, 0xa7, 0x6a,
  0x3d, 0x40, 0xac, 0x46, 0x02, 0x25, 0x2f, 0x42, 0x08, 0xd0, 0x00, 0x2a, 0x06, 0xd0, 0x9f, 0x1a,
  0x0d, 0x2f, 0x03, 0xd8, 0x07, 0x78, 0x01, 0x3a, 0x27, 0x66, 0x01, 0x30, 0x65, 0x46, 0x00, 0x2d,
  0xe2, 0xd0, 0x00, 0x2b, 0xe0, 0xd0, 0x27, 0x6e, 0x01, 0x3b, 0x0f, 0x70, 0x01, 0x31, 0xdb, 0xe7,
  0x0c, 0x80, 0x01, 0x40, 0x0c, 0x90, 0x01, 0x40]

inductive Command where
  | reset
  | exclusiveAccess (mode : Nat)
  | reboot
  | flashErase (addr len : Nat)
  | read (addr len : Nat)
  | write (addr : Nat) (data : List Nat)
  | exitXip
  | exec (addr : Nat)
  deriving DecidableEq

def Command.name : Command → String
  | .reset => "reset"
  | .exclusiveAccess _ => "EXCLUSIVE_ACCESS"
  | .reboot => "REBOOT"
  | .flashErase .. => "FLASH_ERASE"
  | .read .. => "READ"
  | .write .. => "WRITE"
  | .exitXip => "EXIT_XIP"
  | .exec _ => "EXEC"

/-- How a command ended. `phase` is the part of the exchange that failed. -/
inductive Reply where
  | done
  | refused (status : Option Nat)
  | failed (phase : String) (error : LinkError)
  | lost
  deriving DecidableEq

/-! ## The run's record -/

/-- `FirmwareWrite` (openfan_maintenance/mod.rs:186). -/
structure FirmwareWrite where
  release : String
  phase : String
  doneBytes : Nat
  totalBytes : Nat
  flashId : Option String
  flashChanged : Bool
  verified : Bool
  fallbackReason : Option String
  fallbackDetail : Option String
  deriving DecidableEq

/-- `FirmwareWrite::new`. -/
def FirmwareWrite.new (release : String) (totalBytes : Nat) : FirmwareWrite :=
  ⟨release, "pending", 0, totalBytes, none, false, false, none, none⟩

/-- The part of `MaintenanceRecord` a daemon write touches. -/
structure MaintenanceRecord where
  stage : String
  firmwareWrite : Option FirmwareWrite
  notes : List String
  deriving DecidableEq

namespace MaintenanceRecord

def flashChanged (r : MaintenanceRecord) : Bool := r.firmwareWrite.any (·.flashChanged)

def verified (r : MaintenanceRecord) : Bool := r.firmwareWrite.any (·.verified)

end MaintenanceRecord

/-! ## The world -/

/-- What `watch_sysfs` ended with. -/
inductive Watched where
  | found
  | deadline
  | shutdown
  deriving DecidableEq

/-- One answer of the environment; each question reads its part of it. -/
structure Answer where
  /-- A stop or a deadline seen, a journal saved. -/
  yes : Bool
  /-- `none`: the step panicked. -/
  opened : Option (Except PicobootError Unit)
  reply : Reply
  /-- Did a command that was not carried out reach the boot ROM? -/
  reached : Bool
  /-- What such a command left in its range. -/
  garbage : Nat → Nat
  /-- What a program run by EXEC left in RAM. -/
  ram : Nat → Nat
  watched : Watched

inductive Entry where
  /-- A command that was attempted, and whether it reached the boot ROM; READ with the bytes that came
  back. -/
  | command (c : Command) (reached : Bool) (reply : Reply) (bytes : List Nat)
  /-- The record was handed to the journal, and whether it was saved. -/
  | journal (r : MaintenanceRecord) (saved : Bool)
  deriving DecidableEq

structure World where
  mem : Nat → Nat
  answers : Nat → Answer
  next : Nat
  record : MaintenanceRecord
  log : List Entry

namespace World

def answer (w : World) : Answer := w.answers w.next

/-- The next question of the run. -/
def asked (w : World) : World := { w with next := w.next + 1 }

def bytesAt (w : World) (addr len : Nat) : List Nat := (List.range len).map fun i => w.mem (addr + i)

end World

/-- What a command does to the memory. Flash that is programmed keeps its zero bits; a command that was
not carried out leaves anything in its range. -/
def Command.effect (c : Command) (a : Answer) (mem : Nat → Nat) (x : Nat) : Nat :=
  match c with
  | .flashErase addr len =>
    if addr ≤ x ∧ x < addr + len then
      if a.reply = .done then 0xff else if a.reached then a.garbage x else mem x
    else mem x
  | .write addr data =>
    if addr ≤ x ∧ x < addr + data.length then
      if a.reply = .done then
        if IsFlash x then mem x &&& data.getD (x - addr) 0 else data.getD (x - addr) 0
      else if a.reached then a.garbage x
      else mem x
    else mem x
  | .exec _ => if IsFlash x then mem x else if a.reply = .done ∨ a.reached then a.ram x else mem x
  | _ => mem x

/-! ## The client -/

/-- Why a blocking step on the client ended. -/
inductive UsbStop where
  | error (e : PicobootError)
  /-- The step panicked, and took the client with it. -/
  | lost

abbrev Usb (α : Type) : Type := Act World UsbStop α

namespace Client

/-- The error of a command that was not carried out (picoboot.rs:358-371). -/
def stopOf (c : Command) : Reply → Option UsbStop
  | .done => none
  | .refused status => some (.error (.refused c.name status))
  | .failed phase e => some (.error (.transfer (c.name ++ ": " ++ phase ++ ": " ++ e.display)))
  | .lost => some .lost

/-- `command` (picoboot.rs:336), with `exchange`. -/
def command (c : Command) : Usb (List Nat) := fun w =>
  let a := w.answer
  let bytes := match c, a.reply with
    | .read addr len, .done => w.bytesAt addr len
    | _, _ => []
  let w' := { w.asked with
    mem := c.effect a w.mem
    log := w.log ++ [.command c (a.reply = .done || a.reached) a.reply bytes] }
  match stopOf c a.reply with
  | none => (.ok bytes, w')
  | some e => (.error e, w')

/-- `reset`: clears any halt, then resets the interface. -/
def reset : Usb Unit := fun w =>
  let a := w.answer
  let w' := { w.asked with log := w.log ++ [.command .reset (a.reply = .done || a.reached) a.reply []] }
  match a.reply with
  | .done => (.ok (), w')
  | .refused _ => (.error (.error (.transfer ("resetting the PICOBOOT interface: " ++ LinkError.stall.display))), w')
  | .failed phase e => (.error (.error (.transfer (phase ++ ": " ++ e.display))), w')
  | .lost => (.error .lost, w')

def exclusiveAccess (mode : Nat) : Usb Unit := do
  let _ ← command (.exclusiveAccess mode)

def exitXip : Usb Unit := do
  let _ ← command .exitXip

def erase (addr len : Nat) : Usb Unit := do
  let _ ← command (.flashErase addr len)

def write (addr : Nat) (data : List Nat) : Usb Unit := do
  let _ ← command (.write addr data)

def read (addr len : Nat) : Usb (List Nat) := command (.read addr len)

def exec (addr : Nat) : Usb Unit := do
  let _ ← command (.exec addr)

def reboot : Usb Unit := do
  let _ ← command .reboot

/-- `flash_id` (picoboot.rs:301). -/
def flashId : Usb (List Nat) := do
  write flashIdCodeAddr flashIdHelper
  exec flashIdCodeAddr
  let raw ← read flashIdResultAddr 8
  if raw.length = 8 then pure raw else Act.leave (.error (.protocol "the flash id read back short"))

end Client

/-- The runs of a sector, one WRITE each. -/
def writeRuns : List Run → Usb Unit
  | [] => pure ()
  | run :: runs => do
    Client.write run.addr run.data
    writeRuns runs

/-- `write_sector` (picoboot.rs:430). -/
def writeSector (sector : Sector) : Usb Unit := do
  Client.erase sector.base sectorSize
  writeRuns sector.runs

/-- The first position at which the two differ. -/
def mismatch (got data : List Nat) : Option Nat :=
  (got.zip data).findIdx? fun (a, b) => a != b

def verifyRuns : List Run → Usb (Option Nat)
  | [] => pure none
  | run :: runs => do
    let got ← Client.read run.addr run.data.length
    match mismatch got run.data with
    | some i => pure (some (run.addr + i))
    | none => verifyRuns runs

/-- `verify_sector` (picoboot.rs:440). -/
def verifySector (sector : Sector) : Usb (Option Nat) := verifyRuns sector.runs

/-- `serial_of` (picoboot.rs:455). -/
def serialOf (id : List Nat) : List Char := id.flatMap Text.hexByte

/-- `id_matches_serial` (picoboot.rs:461). -/
def idMatchesSerial (id : List Nat) (serial : List Char) : Bool :=
  serial.map Char.toLower == (serialOf id).map Char.toLower

end ControlOfc.Firmware
