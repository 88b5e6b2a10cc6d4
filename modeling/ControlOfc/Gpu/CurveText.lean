import ControlOfc.Lib.Fields
import ControlOfc.Gpu.FanCurve
import ControlOfc.Gpu.LegacyRecord
import Mathlib.Data.List.Sort
/-! # The text of a fan curve (hwmon/gpu_fan.rs:80-232, 449-505)

`parse_fan_curve` reads the points and the two ranges of a card from its `fan_curve` file, line by line. The
file is the device's text and may hold anything; the points a static speed writes are then computed in `i32`.

* `parseFanCurve_sane`: whatever the text, what comes out of it is within bounds.
* `points?_eq`: and the points built from it neither overflow nor divide by zero.
-/
namespace ControlOfc.Gpu
open Text

/-- `HwmonError::ReadError` (error.rs:36). -/
structure ReadError where
  path : String
  message : String
  deriving DecidableEq, Repr

/-! ## One line -/

/-- A digit and a colon come off the front of a curve point (gpu_fan.rs:89). -/
def stripIndex : List Char → Option (List Char)
  | d :: ':' :: rest => if isAsciiDigit d then some rest else none
  | _ => none

/-- The first two fields, each read as the number it starts with (`parse_value_with_suffix`, gpu_fan.rs:203). -/
def twoValues (rest : List Char) : Option (Int × Int) :=
  match splitWhitespace rest with
  | a :: b :: _ => (leadingI32 a).bind fun x => (leadingI32 b).map fun y => (x, y)
  | _ => none

/-- `N: TTTC SS%` (gpu_fan.rs:88). The index is every leading digit. -/
def curvePoint (trimmed : List Char) : Option FanCurvePoint :=
  (stripIndex trimmed).bind fun rest =>
    (twoValues rest).map fun (t, s) =>
      ⟨(parseU8 (trimmed.takeWhile isAsciiDigit)).getD 0, t, (min (max s 0) 100).toNat⟩

/-- The two values behind the colon of a range line. -/
def rangeValues (label : List Char) (trimmed : List Char) : Option (Int × Int) :=
  if contains trimmed label then (secondField ':' trimmed).bind twoValues else none

/-- `TEMP_SANE` (gpu_fan.rs:140). -/
def TempSane (t : Int) : Prop := -50 ≤ t ∧ t ≤ 200

instance (t : Int) : Decidable (TempSane t) := inferInstanceAs (Decidable (_ ∧ _))

def hotspotTemp : List Char := "hotspot temp".toList

def fanSpeed : List Char := "fan speed".toList

/-- `FAN_CURVE(hotspot temp): 25C 100C` (gpu_fan.rs:116). -/
def tempRangeOf (trimmed : List Char) : Option (Int × Int) :=
  (rangeValues hotspotTemp trimmed).bind fun (l, h) =>
    if l ≤ h ∧ TempSane l ∧ TempSane h then some (l, h) else none

/-- `u8::try_from`. -/
def tryU8 (n : Int) : Option Nat := if 0 ≤ n ∧ n ≤ 255 then some n.toNat else none

/-- `FAN_CURVE(fan speed): 15% 100%` (gpu_fan.rs:156). -/
def speedRangeOf (trimmed : List Char) : Option (Nat × Nat) :=
  (rangeValues fanSpeed trimmed).bind fun (l, h) =>
    (tryU8 l).bind fun l => (tryU8 h).bind fun h => if l ≤ h ∧ h ≤ 100 then some (l, h) else none

/-- The body of the loop: a range that is read replaces the one before it. -/
def parseLine (curve : FanCurve) (line : List Char) : FanCurve :=
  let trimmed := trim line
  { points := curve.points ++ (curvePoint trimmed).toList
    tempRange := (tempRangeOf trimmed).or curve.tempRange
    speedRange := (speedRangeOf trimmed).or curve.speedRange }

/-- `parse_fan_curve` (gpu_fan.rs:80). -/
def parseFanCurve (content : List Char) : Except ReadError FanCurve :=
  let curve := (strLines content).foldl parseLine ⟨[], none, none⟩
  if curve.points.isEmpty then .error ⟨"<fan_curve>", "no curve points found in fan_curve output"⟩
  else .ok { curve with points := curve.points.mergeSort fun p q => decide (p.index ≤ q.index) }

/-! ## Whatever the text -/

/-- What may have been read of a card: every number in bounds, every range in order. -/
structure FanCurve.Sane (curve : FanCurve) : Prop where
  point : ∀ p ∈ curve.points, p.index ≤ 255 ∧ IsI32 p.tempC ∧ p.speedPct ≤ 100
  temp : ∀ r, curve.tempRange = some r → r.1 ≤ r.2 ∧ TempSane r.1 ∧ TempSane r.2
  speed : ∀ r, curve.speedRange = some r → r.1 ≤ r.2 ∧ r.2 ≤ 100

theorem parseU8_le_max {s : List Char} {n : Nat} (h : parseU8 s = some n) : n ≤ 255 := by
  simp only [parseU8, Option.ite_none_right_eq_some, Bool.and_eq_true, decide_eq_true_eq, Option.some.injEq] at h
  obtain ⟨⟨-, hle⟩, rfl⟩ := h
  exact hle

theorem twoValues_isI32 {rest : List Char} {x y : Int} (h : twoValues rest = some (x, y)) : IsI32 x := by
  unfold twoValues at h
  split at h
  · simp only [Option.bind_eq_some_iff, Option.map_eq_some_iff, Prod.mk.injEq] at h
    obtain ⟨x', hx, y', -, rfl, rfl⟩ := h
    exact leadingI32_isI32 hx
  · exact absurd h (by simp)

theorem curvePoint_sane {trimmed : List Char} {p : FanCurvePoint} (h : curvePoint trimmed = some p) :
    p.index ≤ 255 ∧ IsI32 p.tempC ∧ p.speedPct ≤ 100 := by
  simp only [curvePoint, Option.bind_eq_some_iff, Option.map_eq_some_iff] at h
  obtain ⟨rest, -, ⟨t, s⟩, hts, rfl⟩ := h
  refine ⟨?_, twoValues_isI32 hts, ?_⟩
  · cases hn : parseU8 (trimmed.takeWhile isAsciiDigit) with
    | none => simp
    | some n => exact parseU8_le_max hn
  · dsimp only
    omega

theorem tempRangeOf_sane {trimmed : List Char} {r : Int × Int} (h : tempRangeOf trimmed = some r) :
    r.1 ≤ r.2 ∧ TempSane r.1 ∧ TempSane r.2 := by
  simp only [tempRangeOf, Option.bind_eq_some_iff, Option.ite_none_right_eq_some, Option.some.injEq] at h
  obtain ⟨⟨l, u⟩, -, hsane, rfl⟩ := h
  exact hsane

theorem speedRangeOf_sane {trimmed : List Char} {r : Nat × Nat} (h : speedRangeOf trimmed = some r) :
    r.1 ≤ r.2 ∧ r.2 ≤ 100 := by
  simp only [speedRangeOf, Option.bind_eq_some_iff, Option.ite_none_right_eq_some, Option.some.injEq] at h
  obtain ⟨⟨l, u⟩, -, l', -, u', -, hsane, rfl⟩ := h
  exact hsane

theorem FanCurve.Sane.parseLine {curve : FanCurve} (h : curve.Sane) (line : List Char) : (parseLine curve line).Sane where
  point p hp := by
    rcases List.mem_append.mp hp with hp | hp
    · exact h.point p hp
    · exact curvePoint_sane (Option.mem_toList.mp hp)
  temp r hr := by
    rcases Option.or_eq_some_iff.mp hr with hr | ⟨-, hr⟩
    · exact tempRangeOf_sane hr
    · exact h.temp r hr
  speed r hr := by
    rcases Option.or_eq_some_iff.mp hr with hr | ⟨-, hr⟩
    · exact speedRangeOf_sane hr
    · exact h.speed r hr

theorem FanCurve.Sane.parseLines {curve : FanCurve} (h : curve.Sane) (lines : List (List Char)) :
    (lines.foldl Gpu.parseLine curve).Sane := by
  induction lines generalizing curve with
  | nil => exact h
  | cons line lines ih => exact ih (h.parseLine line)

theorem parseFanCurve_sane {content : List Char} {curve : FanCurve} (h : parseFanCurve content = .ok curve) :
    curve.Sane := by
  have hlines : ((strLines content).foldl parseLine ⟨[], none, none⟩).Sane :=
    FanCurve.Sane.parseLines ⟨by simp, by simp, by simp⟩ _
  unfold parseFanCurve at h
  dsimp only at h
  split at h
  · exact absurd h (by simp)
  · obtain rfl := Except.ok.inj h
    exact ⟨fun p hp => hlines.point p (List.mem_mergeSort.mp hp), hlines.temp, hlines.speed⟩

theorem parseFanCurve_toOption_sane {content : List Char} :
    ∀ c, (parseFanCurve content).toOption = some c → c.Sane := by
  intro c hc
  cases h : parseFanCurve content with
  | error e => simp [h, Except.toOption] at hc
  | ok curve =>
    rw [h] at hc
    obtain rfl := Option.some.inj hc
    exact parseFanCurve_sane h

/-! ## The points of a static speed, in `i32` -/

/-- The result of an operation on `i32`, where it does not overflow. -/
def checkedI32 (n : Int) : Option Int := if IsI32 n then some n else none

/-- Division panics at a zero divisor too. -/
def checkedDiv (a b : Int) : Option Int := if b = 0 then none else checkedI32 (a.tdiv b)

/-- `raw_temp` (gpu_fan.rs:486), each operation on `i32` as it is evaluated. -/
def rawTemp? (tempMin tempMax : Int) (numPoints i : Nat) : Option Int := do
  let steps ← checkedI32 ((max numPoints 1 : Nat) - 1)
  let width ← checkedI32 (tempMax - tempMin)
  let scaled ← checkedI32 (i * width)
  let above ← checkedDiv scaled (max steps 1)
  checkedI32 (tempMin + above)

/-- The points of a static speed as the source computes them: none where it would panic or wrap. -/
def points? (curve : Option FanCurve) (speedPct numPoints : Nat) : Option (List FanCurvePoint) :=
  let (tempMin, tempMax) := tempBounds curve
  (List.range numPoints).mapM fun i => (rawTemp? tempMin tempMax numPoints i).map fun rawTemp =>
    ⟨i, min (max rawTemp tempMin) tempMax, clampedSpeed curve speedPct⟩

theorem tempBounds_sane {curve : Option FanCurve} (h : ∀ c, curve = some c → c.Sane) :
    (tempBounds curve).1 ≤ (tempBounds curve).2 ∧ TempSane (tempBounds curve).1 ∧ TempSane (tempBounds curve).2 := by
  unfold tempBounds
  cases hr : curve.bind (·.tempRange) with
  | none => simp [TempSane]
  | some r =>
    obtain ⟨c, hc, hr⟩ := Option.bind_eq_some_iff.mp hr
    exact (h c hc).temp r hr

theorem speedBounds_sane {curve : Option FanCurve} (h : ∀ c, curve = some c → c.Sane) :
    (speedBounds curve).1 ≤ (speedBounds curve).2 ∧ (speedBounds curve).2 ≤ 100 := by
  unfold speedBounds
  cases hr : curve.bind (·.speedRange) with
  | none => simp
  | some r =>
    obtain ⟨c, hc, hr⟩ := Option.bind_eq_some_iff.mp hr
    exact (h c hc).speed r hr

/-- The part of a range that lies below a step of it. -/
theorem tdiv_within {width : Int} {i divisor : Nat} (hw : 0 ≤ width) (hi : i ≤ divisor) (hd : 0 < divisor) :
    0 ≤ ((i : Int) * width).tdiv divisor ∧ ((i : Int) * width).tdiv divisor ≤ width := by
  have hi' : (i : Int) ≤ divisor := by exact_mod_cast hi
  have hd' : (0 : Int) < divisor := by exact_mod_cast hd
  have hpos : 0 ≤ (i : Int) * width := Int.mul_nonneg (Int.natCast_nonneg i) hw
  rw [Int.tdiv_eq_ediv_of_nonneg hpos]
  refine ⟨Int.ediv_nonneg hpos hd'.le, Int.ediv_le_of_le_mul hd' ?_⟩
  rw [Int.mul_comm width]
  exact Int.mul_le_mul_of_nonneg_right hi' hw

theorem checkedI32_eq {n : Int} (h : -100000 ≤ n ∧ n ≤ 100000) : checkedI32 n = some n := by
  have hn : IsI32 n := ⟨by unfold i32Min; omega, by unfold i32Max; omega⟩
  simp [checkedI32, hn]

/-- Within a sane range no operation leaves `i32`. -/
theorem rawTemp?_eq {tempMin tempMax : Int} (hle : tempMin ≤ tempMax) (hmin : TempSane tempMin) (hmax : TempSane tempMax)
    {numPoints i : Nat} (hn : numPoints ≤ 255) (hi : i < numPoints) :
    rawTemp? tempMin tempMax numPoints i =
      some (tempMin + ((i : Int) * (tempMax - tempMin)).tdiv (max ((max numPoints 1 : Nat) - 1 : Int) 1)) := by
  obtain ⟨hlo, -⟩ := hmin
  obtain ⟨-, hhi⟩ := hmax
  have hdivisor : max ((max numPoints 1 : Nat) - 1 : Int) 1 = (max (numPoints - 1) 1 : Nat) := by omega
  have hstep := @tdiv_within (tempMax - tempMin) i (max (numPoints - 1) 1) (by omega) (by omega) (by omega)
  have hscaled : (i : Int) * (tempMax - tempMin) ≤ 255 * 250 :=
    Int.mul_le_mul (by omega) (by omega) (by omega) (by omega)
  have hpos : 0 ≤ (i : Int) * (tempMax - tempMin) := Int.mul_nonneg (by omega) (by omega)
  rw [hdivisor]
  have hne : ((max (numPoints - 1) 1 : Nat) : Int) ≠ 0 := by omega
  simp only [rawTemp?, checkedDiv, Option.bind_eq_bind]
  rw [checkedI32_eq (by omega), Option.bind_some, checkedI32_eq (by omega), Option.bind_some,
    checkedI32_eq (by omega), Option.bind_some, hdivisor, if_neg hne, checkedI32_eq (by omega), Option.bind_some,
    checkedI32_eq (by omega)]

theorem mapM_eq_some {α β : Type} {f : α → Option β} {g : α → β} {l : List α} (h : ∀ a ∈ l, f a = some (g a)) :
    l.mapM f = some (l.map g) := by
  induction l with
  | nil => rfl
  | cons a l ih =>
    rw [List.mapM_cons, h a List.mem_cons_self, ih fun b hb => h b (List.mem_cons_of_mem _ hb)]
    rfl

/-- Building the points of a static speed neither panics nor overflows. -/
theorem points?_eq {curve : Option FanCurve} (h : ∀ c, curve = some c → c.Sane) (speedPct : Nat) {numPoints : Nat}
    (hn : numPoints ≤ 255) : points? curve speedPct numPoints = some (staticPoints curve speedPct numPoints) := by
  obtain ⟨hle, hmin, hmax⟩ := tempBounds_sane h
  have hraw : ∀ i ∈ List.range numPoints, rawTemp? (tempBounds curve).1 (tempBounds curve).2 numPoints i =
      some ((tempBounds curve).1 + ((i : Int) * ((tempBounds curve).2 - (tempBounds curve).1)).tdiv
        (max ((max numPoints 1 : Nat) - 1 : Int) 1)) :=
    fun i hi => rawTemp?_eq hle hmin hmax hn (List.mem_range.mp hi)
  unfold points? staticPoints
  dsimp only
  refine mapM_eq_some fun i hi => ?_
  rw [hraw i hi]
  rfl

/-- No point of a static speed is above full scale. -/
theorem staticPoints_le {curve : Option FanCurve} (h : ∀ c, curve = some c → c.Sane) {speedPct n : Nat}
    {p : FanCurvePoint} (hp : p ∈ staticPoints curve speedPct n) : p.speedPct ≤ 100 := by
  rw [staticPoints_speed hp]
  exact (min_le_right _ _).trans (speedBounds_sane h).2

end ControlOfc.Gpu
