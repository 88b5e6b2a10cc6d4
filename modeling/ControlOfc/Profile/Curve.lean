import ControlOfc.Profile.Model
import Mathlib.Algebra.Order.Ring.Rat
import Mathlib.Algebra.Order.Floor.Defs
import Mathlib.Data.Rat.Floor
/-! # Single-temperature curves (profile.rs:135-330)

`evaluateCurve` on exact rationals: the engine only ever sees finite numbers, and what it computes
with them is interpolation.
-/
namespace ControlOfc.Profile

/-- `f64::clamp(0.0, 100.0)`. -/
def clampPct (x : ℚ) : ℚ := if x < 0 then 0 else if 100 < x then 100 else x

theorem clampPct_nonneg (x : ℚ) : 0 ≤ clampPct x := by
  unfold clampPct
  split
  · exact le_refl _
  · next h =>
    split
    · norm_num
    · exact not_lt.mp h

theorem clampPct_le (x : ℚ) : clampPct x ≤ 100 := by
  unfold clampPct
  split
  · norm_num
  · split
    · exact le_refl _
    · next h => exact not_lt.mp h

theorem clampPct_of_mem {x : ℚ} (h0 : 0 ≤ x) (h1 : x ≤ 100) : clampPct x = x := by
  simp [clampPct, not_lt.mpr h0, not_lt.mpr h1]

theorem clampPct_mono {x y : ℚ} (h : x ≤ y) : clampPct x ≤ clampPct y := by
  unfold clampPct
  split_ifs <;> linarith

/-- `f64::round`: halves away from zero. -/
def roundF64 (x : ℚ) : ℤ := if 0 ≤ x then ⌊x + 1 / 2⌋ else -⌊-x + 1 / 2⌋

theorem roundF64_mono {x y : ℚ} (h : x ≤ y) : roundF64 x ≤ roundF64 y := by
  unfold roundF64
  split
  · next hx =>
    rw [if_pos (hx.trans h)]
    exact Int.floor_le_floor (by linarith)
  · next hx =>
    have hpos : 0 ≤ ⌊-x + 1 / 2⌋ := Int.floor_nonneg.mpr (by linarith)
    split
    · next hy =>
      have : 0 ≤ ⌊y + 1 / 2⌋ := Int.floor_nonneg.mpr (by linarith)
      omega
    · exact neg_le_neg (Int.floor_le_floor (by linarith))

theorem roundF64_natCast (n : Nat) : roundF64 n = n := by
  rw [roundF64, if_pos n.cast_nonneg, Int.floor_eq_iff, Int.cast_natCast]
  constructor <;> linarith

@[simp] theorem roundF64_zero : roundF64 0 = 0 := by exact_mod_cast roundF64_natCast 0

@[simp] theorem roundF64_hundred : roundF64 100 = 100 := by exact_mod_cast roundF64_natCast 100

/-- `x.round().clamp(0.0, 100.0) as u8`. -/
def roundPct (x : ℚ) : Nat := (clampPct (roundF64 x)).floor.toNat

theorem roundPct_eq (x : ℚ) : (roundPct x : ℤ) = max 0 (min 100 (roundF64 x)) := by
  unfold roundPct clampPct
  split
  · next h =>
    have : roundF64 x < 0 := by exact_mod_cast h
    have hf : (0 : ℚ).floor = 0 := by decide
    rw [hf]
    omega
  · next h0 =>
    have h0' : ¬ roundF64 x < 0 := by exact_mod_cast h0
    split
    · next h1 =>
      have : 100 < roundF64 x := by exact_mod_cast h1
      have hf : (100 : ℚ).floor = 100 := by decide
      rw [hf]
      omega
    · next h1 =>
      have h1' : ¬ 100 < roundF64 x := by exact_mod_cast h1
      rw [Rat.floor_intCast]
      omega

theorem roundPct_mono : Monotone roundPct := by
  intro x y h
  have := roundF64_mono h
  have hx := roundPct_eq x
  have hy := roundPct_eq y
  omega

/-- On a percentage the clamp after rounding does nothing. -/
theorem roundPct_of_mem {x : ℚ} (h0 : 0 ≤ x) (h1 : x ≤ 100) : (roundPct x : ℤ) = roundF64 x := by
  have hx := roundPct_eq x
  have hl := roundF64_mono h0
  have hu := roundF64_mono h1
  rw [roundF64_zero] at hl
  rw [roundF64_hundred] at hu
  omega

/-- Clamping before rounding is clamping after it. -/
theorem roundPct_clampPct (x : ℚ) : roundPct (clampPct x) = roundPct x := by
  have hx := roundPct_eq x
  have hc := roundPct_eq (clampPct x)
  unfold clampPct at hc ⊢
  split at hc
  · next h =>
    have := roundF64_mono h.le
    rw [if_pos h]
    rw [roundF64_zero] at hc this
    omega
  · next h0 =>
    rw [if_neg h0]
    split at hc
    · next h1 =>
      have := roundF64_mono h1.le
      rw [if_pos h1]
      rw [roundF64_hundred] at hc this
      omega
    · next h1 => rw [if_neg h1]

/-- `effective_hysteresis_c` (profile.rs:158); a rational is finite. -/
def CurveConfig.effectiveHysteresisC (c : CurveConfig ℚ) : ℚ :=
  match c.hysteresisC with
  | some v => if v < 0 then 0 else if hysteresisDeadbandMaxC < v then hysteresisDeadbandMaxC else v
  | none => hysteresisDeadbandC

def triggerIdleTempC : ℚ := 40
def triggerLoadTempC : ℚ := 60
def triggerIdlePct : ℚ := 30
def triggerLoadPct : ℚ := 80

/-- `flat_output` (profile.rs:201). -/
def flatOutput (c : CurveConfig ℚ) : ℚ := c.flatOutputPct.getD 50

/-- The interpolation loop of `evaluate_graph`: the first segment that covers `t`. -/
def graphSegment (t : ℚ) : List (CurvePoint ℚ) → Option ℚ
  | p0 :: p1 :: rest =>
    if p0.tempC ≤ t ∧ t ≤ p1.tempC then
      let range := p1.tempC - p0.tempC
      if range ≤ 0 then some p0.outputPct
      else some (p0.outputPct + (t - p0.tempC) / range * (p1.outputPct - p0.outputPct))
    else graphSegment t (p1 :: rest)
  | _ => none

/-- `evaluate_graph` (profile.rs:205). -/
def evaluateGraph (c : CurveConfig ℚ) (t : ℚ) : ℚ :=
  match c.points with
  | [] => 50
  | [p] => p.outputPct
  | p :: ps =>
    let last := (p :: ps).getLast (List.cons_ne_nil p ps)
    if t ≤ p.tempC then p.outputPct
    else if last.tempC ≤ t then last.outputPct
    else (graphSegment t (p :: ps)).getD last.outputPct

/-- The loop of `evaluate_stepped`. -/
def steppedSegment (t : ℚ) : List (CurvePoint ℚ) → Option ℚ
  | p0 :: p1 :: rest => if p0.tempC ≤ t ∧ t < p1.tempC then some p0.outputPct else steppedSegment t (p1 :: rest)
  | _ => none

/-- `evaluate_stepped` (profile.rs:245). -/
def evaluateStepped (c : CurveConfig ℚ) (t : ℚ) : ℚ :=
  match c.points with
  | [] => 50
  | p :: ps =>
    let last := (p :: ps).getLast (List.cons_ne_nil p ps)
    if t ≤ p.tempC then p.outputPct
    else if last.tempC ≤ t then last.outputPct
    else (steppedSegment t (p :: ps)).getD last.outputPct

/-- `evaluate_linear` (profile.rs:265). -/
def evaluateLinear (c : CurveConfig ℚ) (t : ℚ) : ℚ :=
  let startT := c.startTempC.getD 30
  let startO := c.startOutputPct.getD 20
  let endT := c.endTempC.getD 80
  let endO := c.endOutputPct.getD 100
  if t ≤ startT then startO
  else if endT ≤ t then endO
  else
    let range := endT - startT
    if range ≤ 0 then startO else startO + (t - startT) / range * (endO - startO)

/-- `evaluate_trigger_stateless` (profile.rs:300). -/
def evaluateTriggerStateless (c : CurveConfig ℚ) (t : ℚ) : ℚ :=
  if c.triggerLoadTempC.getD triggerLoadTempC ≤ t then c.triggerLoadPct.getD triggerLoadPct
  else c.triggerIdlePct.getD triggerIdlePct

/-- `evaluate_curve` (profile.rs:179). -/
def evaluateCurve (c : CurveConfig ℚ) (t : ℚ) : ℚ :=
  match c.curveType with
  | .graph => evaluateGraph c t
  | .stepped => evaluateStepped c t
  | .linear => evaluateLinear c t
  | .flat => flatOutput c
  | .trigger => evaluateTriggerStateless c t
  | .mix | .sync | .unknown _ => 50

end ControlOfc.Profile
