import ControlOfc.Diagnostics.Gates
import ControlOfc.Pwm
/-! # A header verify (api/handlers/hwmon_ctl.rs:280-400, 480-986)

The blocking task writes a test duty, lets it settle while the pump union is read again, and writes the captured
duty back. `Surroundings` is everything it meets on the way: what the files show before and after, what each
evaluation of the shutdown flag, the pump union and the slot answers, and what becomes of each write.

| here | there |
| --- | --- |
| `readHeaderState` | `read_header_state` (hwmon_ctl.rs:280) |
| `restoreDuty`, `verifyTestDuty` | hwmon_ctl.rs:347, 380 |
| `verifyTask` | the closure of `hwmon_verify_handler` (hwmon_ctl.rs:544-710) |
| `holdVerifySettle` | `hold_verify_settle` (hwmon_ctl.rs:823) |
| `classifyVerifyResult` | `classify_verify_result` (hwmon_ctl.rs:869) |
| `verifyRecord` | hwmon_ctl.rs:746-768, `verdict_for_verify` (pwm_verification.rs:89) |
-/
namespace ControlOfc.Diagnostics.Verify
open Pwm

/-! ## What the files show -/

/-- The three files of a header, each a value or unreadable. -/
structure HeaderFiles where
  pwm : Option (Fin 256)
  enable : Option (Fin 256)
  rpm : Option (Fin 65536)
  deriving DecidableEq, Repr

/-- `HwmonVerifyState` (responses.rs:2406). -/
structure HwmonVerifyState where
  pwmEnable : Option Nat
  pwmRaw : Option Nat
  pwmPercent : Option Nat
  rpm : Option Nat
  deriving DecidableEq, Repr

def readHeaderState (files : HeaderFiles) : HwmonVerifyState where
  pwmEnable := files.enable.map (·.val)
  pwmRaw := files.pwm.map (·.val)
  pwmPercent := files.pwm.map fun raw => rawToPercent raw.val
  rpm := files.rpm.map (·.val)

/-! ## The duties -/

def restoreDuty (isPump : Bool) (pumpFloor capturedPct : Nat) : Nat :=
  if isPump then max capturedPct pumpFloor else capturedPct

/-- `abs_diff`. -/
def absDiff (a b : Nat) : Nat := (a - b) + (b - a)

/-- `DELTA` (hwmon_ctl.rs:384). -/
def delta : Nat := 40

def verifyTestDuty (isPump : Bool) (pumpFloor currentPct : Nat) : Nat :=
  if !isPump then if currentPct > 50 then 20 else 80
  else
    let floor := max pumpFloor hardPumpFloor
    let up := max (min (currentPct + delta) 100) floor
    let down := max (currentPct - delta) floor
    if absDiff up currentPct ≥ absDiff down currentPct then up else down

/-- The test duty of a pump is at its floor or above. -/
theorem le_verifyTestDuty (pumpFloor currentPct : Nat) : max pumpFloor hardPumpFloor ≤ verifyTestDuty true pumpFloor currentPct := by
  simp only [verifyTestDuty, Bool.not_true, Bool.false_eq_true, if_false]
  split <;> exact Nat.le_max_right _ _

/-! ## What the task meets -/

/-- What `set_pwm` answers; one that failed may have landed. -/
inductive SetPwm where
  | ok
  | refused (e : String)
  | failed (e : String) (landed : Bool)
  deriving DecidableEq, Repr

def SetPwm.error? : SetPwm → Option String
  | ok => none
  | refused e | failed e _ => some e

/-- One pass of the settle: the time at its head and after its sleep, and what the two questions of `stop` answer
if they are put. -/
structure Pass where
  before : Nat
  after : Nat
  shutdown : Bool
  pump : Bool
  deriving DecidableEq, Repr

structure Surroundings where
  /-- The pump union and the header's pump floor, read as the run is planned. -/
  isPump : Bool
  pumpFloor : Nat
  initial : HeaderFiles
  shutdownBefore : Bool
  pumpBefore : Bool
  testWrite : SetPwm
  /-- The passes of the settle, in nanoseconds since it started. -/
  passes : List Pass
  final : HeaderFiles
  /-- The slot is still this run's. -/
  renewed : Bool
  shutdownAfter : Bool
  pumpAfter : Bool
  restoreWrite : SetPwm
  deriving DecidableEq, Repr

/-- What the task hears and does, in order. -/
inductive Event where
  | shutdown (raised : Bool)
  | pump (isPump : Bool)
  | renew (kept : Bool)
  | sleep (duration : Nat)
  | write (pct : Nat) (answer : SetPwm)
  deriving DecidableEq, Repr

structure Mem where
  /-- `PumpWatch::seen`. -/
  seen : Bool := false
  said : List Event := []
  deriving DecidableEq, Repr

/-- `VerifyRun` (hwmon_ctl.rs:840). -/
structure VerifyRun where
  initial : HwmonVerifyState
  finalState : HwmonVerifyState
  testPct : Nat
  restoreFailed : Bool
  pumpProtectedMidRun : Bool
  deriving DecidableEq, Repr

abbrev Task (α : Type) : Type := Act Mem String α

def say (e : Event) : Task Unit := .modify fun m => { m with said := m.said ++ [e] }

def shuttingDown (raised : Bool) : Task Bool := do
  say (.shutdown raised)
  return raised

def renew (kept : Bool) : Task Bool := do
  say (.renew kept)
  return kept

/-- `PumpWatch::became_protected`, where the union answers `isPump` if it is read. -/
def becameProtected (watch : PumpWatch) (isPump : Bool) : Task Bool := do
  if watch.atStart then
    return false
  if ← .lift fun m => (m.seen, m) then
    return true
  say (.pump isPump)
  if !isPump then
    return false
  .modify fun m => { m with seen := true }
  return true

def restoreIsPump (watch : PumpWatch) (isPump : Bool) : Task Bool := do
  if watch.atStart then
    return true
  becameProtected watch isPump

def setPwm (pct : Nat) (answer : SetPwm) : Task (Option String) := do
  say (.write pct answer)
  return answer.error?

/-! ## The task -/

/-- `VERIFY_WAIT_SECONDS`, `VERIFY_PUMP_RECHECK_INTERVAL`, in nanoseconds. -/
def verifyWait : Nat := 6 * 10 ^ 9

def verifyPumpRecheckInterval : Nat := 5 * 10 ^ 8

/-- `stop` is put only while the window is open. -/
def holdVerifySettle (settle interval : Nat) (stop : Pass → Task Bool) : List Pass → Task Bool
  | [] => return false
  | p :: ps => do
    if p.before < settle then
      say (.sleep (min (settle - p.before) interval))
      if p.after < settle then
        if ← stop p then
          return true
      holdVerifySettle settle interval stop ps
    else
      return false

/-- `!shutdown && pump_watch.became_protected()`. -/
def stopOn (watch : PumpWatch) (raised isPump : Bool) : Task Bool := do
  if ← shuttingDown raised then
    return false
  becameProtected watch isPump

/-- From the end of the settle on (hwmon_ctl.rs:605-700): whether the restore failed. -/
def putBack (w : Surroundings) (watch : PumpWatch) (currentPct : Nat) : Task Bool := do
  if !(← renew w.renewed) then
    return true
  if ← shuttingDown w.shutdownAfter then
    return true
  let restorePct := restoreDuty (← restoreIsPump watch w.pumpAfter) watch.pumpFloor currentPct
  let failed ← setPwm restorePct w.restoreWrite
  return failed.isSome

def verifyTask (w : Surroundings) : Task VerifyRun := do
  let watch := PumpWatch.new w.isPump w.pumpFloor
  let initial := readHeaderState w.initial
  let currentPct := initial.pwmPercent.getD 50
  let testPct := verifyTestDuty w.isPump w.pumpFloor currentPct
  if ← stopOn watch w.shutdownBefore w.pumpBefore then
    return ⟨initial, initial, testPct, false, true⟩
  if let some e ← setPwm testPct w.testWrite then
    .leave e
  else
    let midRun ← holdVerifySettle verifyWait verifyPumpRecheckInterval (fun p => stopOn watch p.shutdown p.pump) w.passes
    let restoreFailed ← putBack w watch currentPct
    return ⟨initial, readHeaderState w.final, testPct, restoreFailed, midRun⟩

/-! ## The verdict -/

def pumpProtectedMidRunToken : String := "pump_protected_mid_run"

def pumpProtectedMidRunVerdict (pumpFloor : Nat) : String × String :=
  let detail := pumpProtectedMidRunDetail "verify" pumpFloor
  (pumpProtectedMidRunToken,
    s!"{detail}. The 6s test window did not complete, so nothing was measured. Re-run the verify: it now uses pump-safe duties.")

/-- Which readback produced no value after the write (hwmon_ctl.rs:941). -/
def unreadable (initial final : HwmonVerifyState) : Option String :=
  match final.pwmRaw.isNone, initial.pwmEnable.isSome && final.pwmEnable.isNone with
  | true, true => some "Neither pwmN nor pwmN_enable could be read back"
  | true, false => some "pwmN could not be read back"
  | false, true => some "pwmN_enable could not be read back"
  | false, false => none

/-- The mode is not the one the run wrote, and not the driver's alias for full speed. -/
def enableReverted (initial final : HwmonVerifyState) (testPct : Nat) : Option Nat :=
  final.pwmEnable.filter fun enable =>
    enable ≠ 1 && !(initial.pwmEnable == some 1 && isFullSpeedAlias testPct final.pwmPercent final.pwmEnable)

/-- The duty is not the one the run wrote. -/
def valueClamped (final : HwmonVerifyState) (testPct : Nat) : Option Nat :=
  final.pwmRaw.filter fun raw => absDiff raw (percentToRaw testPct) > 10

/-- In a release build the sum wraps at the end of `u16`. -/
def rpmChanged (initial : HwmonVerifyState) (testPct initRpm finalRpm : Nat) : Bool :=
  if testPct < initial.pwmPercent.getD 50 then finalRpm < initRpm - initRpm / 5
  else finalRpm > (initRpm + initRpm / 5) % 65536

def classifyVerifyResult (initial final : HwmonVerifyState) (testPct : Nat) : String × String :=
  if let some enable := enableReverted initial final testPct then
    ("pwm_enable_reverted",
      s!"pwm_enable changed from 1 to {enable} after write. Most likely cause: BIOS/EC firmware reasserting automatic mode (e.g. AORUS Smart Fan reclaim). Less likely: another in-process writer (lease holder, thermal-safety override) flipped pwm_enable during the 6s test window. Re-run with no profile active and no other client writing to disambiguate.")
  else if let some raw := valueClamped final testPct then
    ("pwm_value_clamped",
      s!"PWM value changed from test {percentToRaw testPct} to {raw} during the 6s verify window. Most likely cause: BIOS/EC firmware overriding the PWM register. Less likely: another writer (lease holder, thermal-safety override, or a CLI tool poking sysfs directly) wrote to the same header during the test. Re-run with no profile active and no other client writing to confirm BIOS/EC reclaim.")
  else
    match initial.rpm.filter (· > 100), final.rpm with
    | some initRpm, some finalRpm =>
      if rpmChanged initial testPct initRpm finalRpm then
        ("effective", s!"PWM control verified: RPM changed {initRpm} → {finalRpm}")
      else
        ("no_rpm_effect",
          s!"RPM unchanged ({initRpm} → {finalRpm}) despite PWM change — PWM writes may be accepted but have no hardware effect")
    | _, _ =>
      match unreadable initial final with
      | some what =>
        ("pwm_readback_unavailable",
          s!"{what} after the 6s test window, so whether the written duty held is unknown — and no usable RPM reading is available to corroborate it independently. Most likely cause: a transient sysfs I/O error, or the chip being removed or its driver unbound during the test. This is NOT evidence that the write failed or that the firmware interfered; re-run to get a conclusive result.")
      | none => ("rpm_unavailable", "PWM values held but RPM sensor unavailable or too low to verify")

/-- The `result` and `details` of a run. -/
def verdict (pumpFloor : Nat) (run : VerifyRun) : String × String :=
  if run.pumpProtectedMidRun then pumpProtectedMidRunVerdict pumpFloor
  else classifyVerifyResult run.initial run.finalState run.testPct

/-- `STATE_VERIFIED`, `STATE_FAILED` (pwm_verification.rs:45). -/
inductive VerifiedState where
  | verified
  | failed
  deriving DecidableEq, Repr

def verdictForVerify (result : String) : Option VerifiedState :=
  if result = "effective" then some .verified
  else if result = "pwm_enable_reverted" ∨ result = "pwm_value_clamped" ∨ result = "no_rpm_effect" then some .failed
  else none

/-- The record a run leaves: its verdict and its `result`. -/
def verifyRecord (pumpFloor : Nat) : Except String VerifyRun → Option (VerifiedState × String)
  | .error _ => none
  | .ok run =>
    let result := (verdict pumpFloor run).1
    if run.restoreFailed then none else (verdictForVerify result).map (·, result)

end ControlOfc.Diagnostics.Verify
