import ControlOfc.Gpu.FanCurve
import ControlOfc.Gpu.PmfwHandBack
import Mathlib.Logic.Function.Basic
/-! # GPU fan writes (hwmon/gpu_fan.rs:325-540, profile_engine/backends.rs:1712-2085, api/handlers/gpu.rs:14-237)

Every sequence the daemon runs on a PMFW card, as a program of single effects: a read or a write of a sysfs
file, or one operation of the shared cache. The legacy arms of the two handlers are left out: they touch no
PMFW card and no entry of the hand-back list.
-/
namespace ControlOfc.Gpu
open Prog

/-- `AmdGpuInfo` (gpu_detect.rs:31), as far as it decides which files are written. -/
structure AmdGpuInfo where
  pciBdf : String
  fanCurvePath : Option String
  fanZeroRpmPath : Option String
  deriving DecidableEq, Repr

/-- Where a card's curve file stands under its PCI device. -/
def fanCurveSuffix : List Char := "/gpu_od/fan_ctrl/fan_curve".toList

/-- The detected cards: a curve file stands under the PCI device its card is named by. -/
structure AmdGpus where
  list : List AmdGpuInfo
  curve_file : ∀ g ∈ list, ∀ path, g.fanCurvePath = some path → fanCurveSuffix <:+ path.toList
  own_curve : ∀ g ∈ list, ∀ g' ∈ list, g.fanCurvePath.isSome = true → g.fanCurvePath = g'.fanCurvePath →
    g.pciBdf = g'.pciBdf

/-- `strip_prefix("amd_gpu:")`. -/
def bdfOf (fanId : String) : Option String :=
  (Text.stripPrefix "amd_gpu:".toList fanId.toList).map String.ofList

/-- The files a fan id names: those of the first card of its address, where that card has a curve. -/
def AmdGpus.card? (gpus : AmdGpus) (fanId : String) : Option CardPaths :=
  (bdfOf fanId).bind fun bdf => (gpus.list.find? (·.pciBdf = bdf)).bind fun g =>
    g.fanCurvePath.map fun curve => ⟨curve, g.fanZeroRpmPath⟩

/-! ## The world -/

/-- What `OD_RANGE` of a card's curve file says. -/
structure OdRange where
  temp : Option (Int × Int)
  speed : Option (Nat × Nat)
  deriving DecidableEq, Repr

/-- `GpuFanWrite` (backends.rs:1789). -/
structure GpuFanWrite where
  fanId : String
  paths : CardPaths
  pct : Nat
  preserveZeroRpm : Bool
  deriving DecidableEq, Repr

/-- `GpuTaskOutcome` (backends.rs:1780): `none` is a write the task skipped. -/
structure GpuTaskOutcome where
  writes : List (String × Nat × Option Bool)
  handedBack : List (String × Bool)
  deriving DecidableEq, Repr

structure World where
  /-- The files of the cards, by their paths. -/
  curve : String → CurveFile
  zero : String → ZeroFile
  od : String → OdRange
  writable : String → Bool
  /-- `gpu_fans[..].last_commanded_pct`. -/
  lastCommandedPct : KMap String Nat
  relinquishedGpuFans : String → Bool
  verifyActive : Bool
  handback : PmfwState
  /-- `GpuBackend` (backends.rs:1800), and the commands that wait for the write lock. -/
  now : Nat
  failCache : KMap String (Nat × Nat)
  giveBackFailed : KMap String Nat
  outstandingBatch : List (String × Nat)
  waiting : Option (List GpuFanWrite × List String)
  /-- What ended and is not harvested; `none` is a panic. -/
  finished : List (Option GpuTaskOutcome)
  /-- What the last static speed of a curve file asked for. -/
  lastPreserve : String → Option Bool
  /-- How often the relinquished set was cleared, and at which count a reset claimed a card. -/
  epoch : Nat
  claimedAt : String → Option Nat
  /-- A reset of the card returned `Ok`, and the set was not cleared since its claim, or since it returned. -/
  givenBack : String → Bool
  resetOk : String → Bool

/-! ## The effects -/

inductive Effect where
  | readFanCurve (path : String)
  | readZeroRpm (path : String)
  | writeCurve (path : String) (c : CurveCommand)
  | writeZero (path : String) (c : ZeroCommand)
  | isWritable (path : String)
  /-- No effect of the source: a static speed is being set. -/
  | called (path : String) (preserveZeroRpm : Bool)
  | verifyActive
  | isGpuFanRelinquished (fanId : String)
  | relinquishGpuFan (fanId : String)
  | unrelinquishGpuFan (fanId : String)
  | noteTake (fanId : String) (paths : CardPaths)
  | noteHandedBack (fanId : String)
  | takenPaths (fanId : String)
  | lastCommandedPct (fanId : String)
  | setGpuFanCommandedPct (fanId : String) (pct : Nat)
  | clearGpuFanCommandedPct (fanId : String)
  deriving DecidableEq, Repr

/-- What an effect is answered with. -/
abbrev Answer : Effect → Type
  | .readFanCurve _ => Option FanCurve
  | .readZeroRpm _ => Option Bool
  | .writeCurve _ _ | .writeZero _ _ | .isWritable _ => Bool
  | .verifyActive | .isGpuFanRelinquished _ | .relinquishGpuFan _ => Bool
  | .takenPaths _ => Option CardPaths
  | .lastCommandedPct _ => Option Nat
  | .called _ _ | .unrelinquishGpuFan _ | .noteTake _ _ | .noteHandedBack _ => Unit
  | .setGpuFanCommandedPct _ _ | .clearGpuFanCommandedPct _ => Unit

/-- What the environment chooses at an effect: whether a file is read or written, whether a write that failed
landed all the same, and which points the curve file shows. -/
structure Luck where
  ok : Bool
  landed : Bool
  points : List FanCurvePoint
  deriving DecidableEq, Repr

namespace World

/-- What `read_fan_curve` makes of a file: its points, and the ranges of the card. -/
def shown (w : World) (path : String) (c : Luck) : Option FanCurve :=
  if c.ok && !c.points.isEmpty then some ⟨c.points, (w.od path).temp, (w.od path).speed⟩ else none

def exec (e : Effect) (c : Luck) (w : World) : Answer e × World :=
  match e with
  | .readFanCurve path => (w.shown path c, w)
  | .readZeroRpm path => (if c.ok then some (w.zero path).committed else none, w)
  | .writeCurve path cmd =>
    (c.ok, { w with curve := Function.update w.curve path ((w.curve path).write cmd c.ok c.landed) })
  | .writeZero path cmd =>
    (c.ok, { w with zero := Function.update w.zero path ((w.zero path).write cmd c.ok c.landed) })
  | .isWritable path => (w.writable path, w)
  | .called path preserve => ((), { w with lastPreserve := Function.update w.lastPreserve path (some preserve) })
  | .verifyActive => (w.verifyActive, w)
  | .isGpuFanRelinquished fanId => (w.relinquishedGpuFans fanId, w)
  | .relinquishGpuFan fanId =>
    (!w.relinquishedGpuFans fanId,
      { w with
        relinquishedGpuFans := Function.update w.relinquishedGpuFans fanId true
        claimedAt := Function.update w.claimedAt fanId (some w.epoch) })
  | .unrelinquishGpuFan fanId =>
    ((), { w with relinquishedGpuFans := Function.update w.relinquishedGpuFans fanId false })
  | .noteTake fanId paths => ((), { w with handback := w.handback.noteTake fanId paths c.ok c.landed })
  | .noteHandedBack fanId => ((), { w with handback := w.handback.noteHandedBack fanId c.ok c.landed })
  | .takenPaths fanId => (w.handback.find? fanId, w)
  | .lastCommandedPct fanId => (w.lastCommandedPct.get? fanId, w)
  | .setGpuFanCommandedPct fanId pct => ((), { w with lastCommandedPct := w.lastCommandedPct.insert fanId pct })
  | .clearGpuFanCommandedPct fanId => ((), { w with lastCommandedPct := w.lastCommandedPct.remove fanId })

end World

/-! ## What is written to a card -/

abbrev Program (α : Type) : Type := Prog Effect Answer α

abbrev perform (e : Effect) : Program (Answer e) := ask e

/-- `disable_zero_rpm` (gpu_fan.rs:339). -/
def disableZeroRpm (path : String) : Program Bool := do
  if (← perform (.readZeroRpm path)) = some false then return true
  if ← perform (.writeZero path (.set false)) then perform (.writeZero path .commit) else return false

/-- `enable_zero_rpm` (gpu_fan.rs:410). -/
def enableZeroRpm (path : String) : Program Bool := do
  if ← perform (.writeZero path (.set true)) then perform (.writeZero path .commit) else return false

/-- `write_fan_curve` (gpu_fan.rs:292). -/
def writeFanCurve (path : String) (points : List FanCurvePoint) : Program Bool := do
  if ← untilFailed (fun p => perform (.writeCurve path (.point p))) points then perform (.writeCurve path .commit)
  else return false

/-- The zero-RPM step of a static speed, whose failure is only logged (gpu_fan.rs:463). -/
def disableUnlessPreserved (paths : CardPaths) (preserveZeroRpm : Bool) : Program Unit :=
  match preserveZeroRpm, paths.zeroRpm with
  | false, some zeroRpm => do let _ ← disableZeroRpm zeroRpm
  | _, _ => return ()

/-- `set_static_speed_with_zero_rpm` (gpu_fan.rs:455). -/
def setStaticSpeedWithZeroRpm (paths : CardPaths) (speedPct numPoints : Nat) (preserveZeroRpm : Bool) :
    Program Bool := do
  perform (.called paths.fanCurve preserveZeroRpm)
  disableUnlessPreserved paths preserveZeroRpm
  let curve ← perform (.readFanCurve paths.fanCurve)
  writeFanCurve paths.fanCurve (staticPoints curve speedPct numPoints)

/-- `set_static_speed` (gpu_fan.rs:433). -/
def setStaticSpeed (paths : CardPaths) (speedPct numPoints : Nat) : Program Bool :=
  setStaticSpeedWithZeroRpm paths speedPct numPoints false

/-- The curve half of `reset_to_auto`. -/
def resetCurve (path : String) : Program Bool := do
  if ← perform (.writeCurve path .reset) then perform (.writeCurve path .commit) else return false

/-- Zero-RPM goes back on whatever became of the curve. -/
def enableIfPresent (paths : CardPaths) : Program Unit :=
  match paths.zeroRpm with
  | some zeroRpm => do let _ ← enableZeroRpm zeroRpm
  | none => return ()

/-- `reset_to_auto` (gpu_fan.rs:524). -/
def resetToAuto (paths : CardPaths) : Program Bool := do
  let ok ← resetCurve paths.fanCurve
  enableIfPresent paths
  return ok

/-! ## The engine's tperform -/

/-- `gpu_blocking_write` (backends.rs:1712). -/
def gpuBlockingWrite (write : GpuFanWrite) : Program (Option Bool) := do
  if ← perform .verifyActive then return none
  if ← perform (.isGpuFanRelinquished write.fanId) then return none
  perform (.noteTake write.fanId write.paths)
  if ← setStaticSpeedWithZeroRpm write.paths write.pct gpuPmfwNumCurvePoints write.preserveZeroRpm then
    perform (.setGpuFanCommandedPct write.fanId write.pct)
    return some true
  else return some false

/-- `gpu_give_back` (backends.rs:2069). -/
def gpuGiveBack (fanId : String) : Program (Option Bool) := do
  if ← perform .verifyActive then return none
  match ← perform (.takenPaths fanId) with
  | none => return none
  | some paths =>
    if ← resetToAuto paths then
      perform (.clearGpuFanCommandedPct fanId)
      perform (.noteHandedBack fanId)
      return some true
    else return some false

/-- The closure `GpuBackend::write` runs (backends.rs:2247). -/
def engineTask (batch : List GpuFanWrite) (giveBack : List String) : Program GpuTaskOutcome := do
  let writes ← each (fun w => do return (w.fanId, w.pct, ← gpuBlockingWrite w)) batch
  let handedBack ← each (fun id => do return (id, ← gpuGiveBack id)) giveBack
  return ⟨writes, handedBack.filterMap fun x => x.2.map (x.1, ·)⟩

/-! ## The two handlers -/

/-- A reset that failed rolls back only what it claimed itself (api/handlers/gpu.rs:83). -/
def rollBack (fanId : String) (newlyClaimed : Bool) : Program Unit :=
  if newlyClaimed then perform (.unrelinquishGpuFan fanId) else return ()

/-- The closure of `gpu_reset_fan_handler` (api/handlers/gpu.rs:57). -/
def resetTask (fanId : String) (paths : CardPaths) : Program Bool := do
  let newlyClaimed ← perform (.relinquishGpuFan fanId)
  if ← resetToAuto paths then
    perform (.clearGpuFanCommandedPct fanId)
    perform (.noteHandedBack fanId)
    return true
  else
    rollBack fanId newlyClaimed
    return false

/-- `select_gpu_test_speed` (gpu.rs:491). -/
def selectGpuTestSpeed (currentPct : Option Nat) (odMin odMax : Nat) : Nat :=
  let target := if currentPct.getD 0 < 60 then 75 else 100
  max (min target odMax) (min odMin odMax)

/-- `Some(p) if p > 0`: a card that was driven goes back to its speed, any other to firmware auto. -/
def drivenAt (priorPct : Option Nat) : Option Nat := priorPct.filter (0 < ·)

/-- `restore_pmfw` (gpu.rs:505), whether it failed. -/
def restorePmfw (priorPct : Option Nat) (paths : CardPaths) : Program Bool :=
  match drivenAt priorPct with
  | some p => do return !(← setStaticSpeed paths p gpuPmfwNumCurvePoints)
  | none => do return !(← resetToAuto paths)

/-- `stamp_restored_pct` (gpu.rs:206). -/
def stampRestoredPct (fanId : String) (priorPct : Option Nat) (restoreFailed : Bool) : Program Unit :=
  match restoreFailed, drivenAt priorPct with
  | true, _ => return ()
  | false, some p => perform (.setGpuFanCommandedPct fanId p)
  | false, none => perform (.clearGpuFanCommandedPct fanId)

/-- `note_pmfw_restored` (gpu.rs:228). -/
def notePmfwRestored (fanId : String) (priorPct : Option Nat) (restoreFailed : Bool) : Program Unit :=
  match restoreFailed, drivenAt priorPct with
  | false, none => perform (.noteHandedBack fanId)
  | _, _ => return ()

/-- A restore with its bookkeeping, as both arms of the verify end. -/
def restoreAndNote (fanId : String) (priorPct : Option Nat) (paths : CardPaths) : Program Bool := do
  let restoreFailed ← restorePmfw priorPct paths
  stampRestoredPct fanId priorPct restoreFailed
  notePmfwRestored fanId priorPct restoreFailed
  return restoreFailed

/-- `pmfw_verify_sequence` (gpu.rs:536), with the handler's read of the prior duty: the test speed, whether it
was written, and whether the restore failed. What the response shows of the card is left out. -/
def pmfwVerifySequence (fanId : String) (paths : CardPaths) : Program (Nat × Bool × Bool) := do
  let priorPct ← perform (.lastCommandedPct fanId)
  let initialCurve ← perform (.readFanCurve paths.fanCurve)
  let (odMin, odMax) := speedBounds initialCurve
  let testSpeed := selectGpuTestSpeed (priorPct.or (initialCurve.bind flatSpeedPct)) odMin odMax
  perform (.noteTake fanId paths)
  if ← setStaticSpeed paths testSpeed gpuPmfwNumCurvePoints then
    perform (.setGpuFanCommandedPct fanId testSpeed)
    return (testSpeed, true, ← restoreAndNote fanId priorPct paths)
  else return (testSpeed, false, ← restoreAndNote fanId priorPct paths)

end ControlOfc.Gpu
