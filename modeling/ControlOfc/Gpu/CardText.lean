import ControlOfc.Gpu.CurveText
/-! # What is read of a PMFW card (hwmon/gpu_fan.rs:1-17, 80-212)

A card prints its curve and its ranges as the kernel documents them. `parse_fan_curve` peels one digit off the
line of a point, so it reads the first ten points of a card.

* `parseFanCurve_text`: what is read of a card, whatever its points and ranges.
* `parseFanCurve_text_iff`: the cards of which everything is read.
-/
namespace ControlOfc.Gpu
open Text

/-! ## A card -/

/-- A PMFW card: its points in index order, those staged, and its OD_RANGE. -/
structure PmfwCard where
  points : List (Int × Nat)
  staged : List (Int × Nat)
  tempRange : Int × Int
  speedRange : Nat × Nat
  staged_length : staged.length = points.length
  nonempty : 1 ≤ points.length
  le_255 : points.length ≤ 255

/-- Points with their indexes. -/
def indexed (points : List (Int × Nat)) : List FanCurvePoint := points.mapIdx fun i p => ⟨i, p.1, p.2⟩

def fanCurveOpen : List Char := "FAN_CURVE(".toList

def rangeLabel (label : List Char) : List Char := fanCurveOpen ++ label ++ [')']

/-- Two values, each behind a blank and with its unit. -/
def valuePair (x : Int) (c : Char) (y : Int) (d : Char) : List Char :=
  ' ' :: (printInt x ++ [c] ++ ' ' :: (printInt y ++ [d]))

/-- `N: TC S%`. -/
def pointLine (p : FanCurvePoint) : List Char := printNat p.index ++ ':' :: valuePair p.tempC 'C' p.speedPct '%'

/-- `FAN_CURVE(label): LO HI`, each with its unit. -/
def rangeLine (label : List Char) (unit : Char) (lo hi : Int) : List Char :=
  rangeLabel label ++ ':' :: valuePair lo unit hi unit

namespace PmfwCard

/-- What the card would have read of it. -/
def curve (card : PmfwCard) : FanCurve := ⟨indexed card.points, some card.tempRange, some card.speedRange⟩

def lines (card : PmfwCard) : List (List Char) :=
  "OD_FAN_CURVE:".toList :: (indexed card.points).map pointLine ++
    ["OD_RANGE:".toList, rangeLine hotspotTemp 'C' card.tempRange.1 card.tempRange.2,
      rangeLine fanSpeed '%' card.speedRange.1 card.speedRange.2]

/-- The `fan_curve` file of the card. -/
def text (card : PmfwCard) : List Char := card.lines.flatMap (· ++ ['\n'])

end PmfwCard

/-! ## What is read of a card -/

section Reading

theorem isDigit_digitChar {i : Nat} (hi : i < 10) : (Nat.digitChar i).isDigit = true := by
  have h : ∀ i < 10, (Nat.digitChar i).isDigit = true := by decide
  exact h i hi

theorem parseU8_digitChar {i : Nat} (hi : i < 10) : parseU8 [Nat.digitChar i] = some i := by
  have h : ∀ i < 10, parseU8 [Nat.digitChar i] = some i := by decide
  exact h i hi

/-- An index of more than one digit starts with two of them. -/
theorem printNat_two {i : Nat} (hi : 10 ≤ i) : ∃ a b rest, printNat i = a :: b :: rest ∧ b.isDigit = true := by
  have hlen : ¬ (printNat i).length ≤ 1 := by
    rw [printNat, Nat.length_toDigits_le_iff (by decide) (by decide)]
    omega
  have hdigit : ∀ c ∈ printNat i, c.isDigit = true := fun c hc => isDigit_printNat hc
  match h : printNat i with
  | [] => simp [h] at hlen
  | [_] => simp [h] at hlen
  | a :: b :: rest => exact ⟨a, b, rest, rfl, hdigit b (by simp [h])⟩

/-- Only an index of one digit is peeled off. -/
theorem stripIndex_pointLine (p : FanCurvePoint) :
    stripIndex (pointLine p) = if p.index < 10 then some (valuePair p.tempC 'C' p.speedPct '%') else none := by
  by_cases hi : p.index < 10
  · have hone : printNat p.index = [Nat.digitChar p.index] := Nat.toDigits_of_lt_base hi
    simp [pointLine, hone, stripIndex, isAsciiDigit, isDigit_digitChar hi, hi]
  · obtain ⟨a, b, rest, htwo, hb⟩ := printNat_two (by omega : 10 ≤ p.index)
    have hcolon : b ≠ ':' := by
      rintro rfl
      simp at hb
    rw [if_neg hi, pointLine, htwo]
    simp [stripIndex, hcolon]

/-- Two numbers with their units come back, where both fit. -/
theorem twoValues_print (x y : Int) {c : Char} (hd : c.isDigit = false) (hm : c ≠ '-') (hw : isWhitespace c = false)
    {d : Char} (hd' : d.isDigit = false) (hm' : d ≠ '-') (hw' : isWhitespace d = false) :
    twoValues (valuePair x c y d) = if IsI32 x ∧ IsI32 y then some (x, y) else none := by
  rw [twoValues, valuePair, splitWhitespace_two (word_printInt x hw) (word_printInt y hw')]
  dsimp only
  rw [leadingI32_printInt x hd hm, leadingI32_printInt y hd' hm']
  by_cases hx : IsI32 x <;> by_cases hy : IsI32 y <;> simp [hx, hy]

/-- What is read of a point's line. -/
def readPoint (p : FanCurvePoint) : Option FanCurvePoint :=
  if p.index < 10 ∧ IsI32 p.tempC ∧ IsI32 p.speedPct then some ⟨p.index, p.tempC, min p.speedPct 100⟩ else none

theorem curvePoint_pointLine (p : FanCurvePoint) : curvePoint (pointLine p) = readPoint p := by
  have hvalues : twoValues (valuePair p.tempC 'C' p.speedPct '%') =
      if IsI32 p.tempC ∧ IsI32 p.speedPct then some (p.tempC, (p.speedPct : Int)) else none :=
    twoValues_print _ _ (by decide) (by decide) (by decide) (by decide) (by decide) (by decide)
  unfold curvePoint readPoint
  rw [stripIndex_pointLine]
  by_cases hi : p.index < 10
  · have hone : printNat p.index = [Nat.digitChar p.index] := Nat.toDigits_of_lt_base hi
    have hindex : parseU8 ((pointLine p).takeWhile isAsciiDigit) = some p.index := by
      rw [pointLine, hone]
      simp [isAsciiDigit, isDigit_digitChar hi, parseU8_digitChar hi]
    have hclamp : (min (p.speedPct : Int) 100).toNat = min p.speedPct 100 := by omega
    rw [if_pos hi, Option.bind_some, hvalues, hindex]
    by_cases hfit : IsI32 p.tempC ∧ IsI32 p.speedPct <;> simp [hfit, hi, hclamp]
  · simp [hi]

/-- The characters of two values. -/
theorem mem_valuePair {x y : Int} {c d e : Char} (he : e ∈ valuePair x c y d) :
    e.isDigit = true ∨ e ∈ [' ', '-', c, d] := by
  simp only [valuePair, List.mem_append, List.mem_cons, List.not_mem_nil, or_false] at he
  rcases he with rfl | (he | rfl) | rfl | he | rfl
  · simp
  · rcases mem_printInt he with h | rfl
    · exact .inl h
    · simp
  · simp
  · simp
  · rcases mem_printInt he with h | rfl
    · exact .inl h
    · simp
  · simp

/-- The two values of a range, where both fit. -/
theorem rangeValues_rangeLine {label : List Char} {u : Char} (lo hi : Int) (hlabel : ':' ∉ label) (hcolon : u ≠ ':')
    (hd : u.isDigit = false) (hm : u ≠ '-') (hw : isWhitespace u = false) :
    rangeValues label (rangeLine label u lo hi) = if IsI32 lo ∧ IsI32 hi then some (lo, hi) else none := by
  have hcontains : contains (rangeLine label u lo hi) label = true := by
    rw [rangeLine, rangeLabel, List.append_assoc]
    exact contains_append _ _ _
  have hopen : ':' ∉ fanCurveOpen := by decide
  have hfront : ':' ∉ rangeLabel label := by simp [rangeLabel, hlabel, hopen]
  have hback : ':' ∉ valuePair lo u hi u := by
    intro hc
    rcases mem_valuePair hc with h | h
    · exact absurd h (by decide)
    · simp [Ne.symm hcolon] at h
  rw [rangeValues, if_pos hcontains, rangeLine, secondField_append hfront hback, Option.bind_some,
    twoValues_print lo hi hd hm hw hd hm hw]

/-- A line without a letter of the label says nothing of the range. -/
theorem rangeValues_none {label line : List Char} {c : Char} (hc : c ∈ label) (hline : c ∉ line) :
    rangeValues label line = none := by
  rw [rangeValues, not_contains hc hline]
  rfl

theorem not_mem_valuePair {x y : Int} {c d e : Char} (hd : e.isDigit = false) (he : e ∉ [' ', '-', c, d]) :
    e ∉ valuePair x c y d := by
  intro h
  rcases mem_valuePair h with h | h
  · simp [hd] at h
  · exact he h

theorem not_mem_pointLine {p : FanCurvePoint} {c : Char} (hd : c.isDigit = false) (hc : c ∉ [':', ' ', '-', 'C', '%']) :
    c ∉ pointLine p := by
  intro h
  rcases List.mem_append.mp h with h | h
  · simp [isDigit_printNat h] at hd
  · rcases List.mem_cons.mp h with rfl | h
    · simp at hc
    · exact not_mem_valuePair hd (fun h => hc (List.mem_cons_of_mem _ h)) h

theorem not_mem_rangeLine {label : List Char} {u c : Char} {lo hi : Int} (hd : c.isDigit = false)
    (hlabel : c ∉ rangeLabel label) (hc : c ∉ [':', ' ', '-', u]) : c ∉ rangeLine label u lo hi := by
  intro h
  rcases List.mem_append.mp h with h | h
  · exact hlabel h
  · rcases List.mem_cons.mp h with rfl | h
    · simp at hc
    · refine not_mem_valuePair hd (fun h => hc ?_) h
      simp only [List.mem_cons, List.not_mem_nil, or_false, or_self] at h ⊢
      exact .inr h

/-! ### The lines of a card -/

/-- Every line of a card is kept as it is. -/
structure KeptLine (l : List Char) : Prop where
  plain : PlainLine l
  trim : Text.trim l = l

theorem keptLine {l : List Char} (hne : l ≠ []) (hhead : l.head? ≠ some '#') (hnl : '\n' ∉ l)
    (hfirst : ∀ c ∈ l.head?, isWhitespace c = false) (hlast : ∀ c ∈ l.getLast?, isWhitespace c = false) : KeptLine l where
  plain :=
    { nonempty := hne
      entry := hhead
      newline := hnl
      ending := fun h => absurd (hlast '\r' h) (by decide) }
  trim := trim_eq_self hne (hfirst _ (List.head?_eq_some_head hne)) (hlast _ (List.getLast?_eq_some_getLast hne))

theorem getLast?_valuePair (front : List Char) (x : Int) (c : Char) (y : Int) (d : Char) :
    (front ++ ':' :: valuePair x c y d).getLast? = some d := by
  have hsplit : front ++ ':' :: valuePair x c y d =
      (front ++ ':' :: ' ' :: (printInt x ++ [c] ++ ' ' :: printInt y)) ++ [d] := by
    simp only [valuePair, List.append_assoc, List.cons_append]
  rw [hsplit, List.getLast?_concat]

/-- A line whose ends are looked at. -/
theorem keptLine_fixed {l : List Char} (hne : l ≠ []) (hhead : l.head? ≠ some '#') (hnl : '\n' ∉ l)
    (hfirst : l.head?.any isWhitespace = false) (hlast : l.getLast?.any isWhitespace = false) : KeptLine l := by
  refine keptLine hne hhead hnl (fun c hc => ?_) fun c hc => ?_
  · rw [Option.mem_def.mp hc] at hfirst
    exact hfirst
  · rw [Option.mem_def.mp hc] at hlast
    exact hlast

theorem keptLine_pointLine (p : FanCurvePoint) : KeptLine (pointLine p) := by
  obtain ⟨d, rest, hfront⟩ := List.exists_cons_of_ne_nil (printNat_ne_nil p.index)
  have hdigit : d.isDigit = true := isDigit_printNat (hfront ▸ List.mem_cons_self)
  have hlast : (pointLine p).getLast? = some '%' := getLast?_valuePair _ _ _ _ _
  have hhead : (pointLine p).head? = some d := by simp [pointLine, hfront]
  refine keptLine (by simp [pointLine]) ?_ (not_mem_pointLine (by decide) (by decide)) ?_ ?_
  · rw [hhead]
    intro h
    obtain rfl := Option.some.inj h
    simp at hdigit
  · rw [hhead]
    intro c hc
    obtain rfl := Option.some.inj hc
    exact isWhitespace_eq_false_of_isDigit hdigit
  · rw [hlast]
    intro c hc
    obtain rfl := Option.some.inj hc
    rfl

theorem keptLine_rangeLine {label : List Char} {u : Char} (lo hi : Int) (hlabel : '\n' ∉ label) (hu : u ≠ '\n')
    (hw : isWhitespace u = false) : KeptLine (rangeLine label u lo hi) := by
  have hopen : '\n' ∉ fanCurveOpen := by decide
  have hhead : (rangeLine label u lo hi).head? = some 'F' := rfl
  have hlast : (rangeLine label u lo hi).getLast? = some u := getLast?_valuePair _ _ _ _ _
  have hne : rangeLine label u lo hi ≠ [] := by
    intro h
    rw [h] at hhead
    exact absurd hhead (by simp)
  refine keptLine hne (by simp [hhead]) ?_ ?_ ?_
  · exact not_mem_rangeLine (by decide) (by simp [rangeLabel, hlabel, hopen]) (by simp [Ne.symm hu])
  · rw [hhead]
    intro c hc
    obtain rfl := Option.some.inj hc
    rfl
  · rw [hlast]
    intro c hc
    obtain rfl := Option.some.inj hc
    exact hw

namespace PmfwCard

variable (card : PmfwCard)

theorem keptLine_lines : ∀ l ∈ card.lines, KeptLine l := by
  intro l hl
  simp only [lines, List.cons_append, List.mem_cons, List.mem_append, List.mem_map, List.not_mem_nil, or_false] at hl
  rcases hl with rfl | ⟨p, -, rfl⟩ | rfl | rfl | rfl
  · exact keptLine_fixed (by decide) (by decide) (by decide) (by decide) (by decide)
  · exact keptLine_pointLine p
  · exact keptLine_fixed (by decide) (by decide) (by decide) (by decide) (by decide)
  · exact keptLine_rangeLine _ _ (by decide) (by decide) (by decide)
  · exact keptLine_rangeLine _ _ (by decide) (by decide) (by decide)

theorem strLines_text : strLines card.text = card.lines :=
  strLines_plain fun l hl => (card.keptLine_lines l hl).plain

end PmfwCard

theorem tempRangeOf_none {line : List Char} (h : 'h' ∉ line) : tempRangeOf line = none := by
  rw [tempRangeOf, rangeValues_none (c := 'h') (by decide) h]
  rfl

theorem speedRangeOf_none {line : List Char} (h : 'd' ∉ line) : speedRangeOf line = none := by
  rw [speedRangeOf, rangeValues_none (c := 'd') (by decide) h]
  rfl

/-- A line that is neither a point nor a range says nothing. -/
theorem parseLine_header (curve : FanCurve) {line : List Char} (hkept : KeptLine line) (hpoint : stripIndex line = none)
    (hh : 'h' ∉ line) (hd : 'd' ∉ line) : parseLine curve line = curve := by
  simp [parseLine, hkept.trim, curvePoint, hpoint, tempRangeOf_none hh, speedRangeOf_none hd]

theorem parseLine_pointLine (curve : FanCurve) (p : FanCurvePoint) :
    parseLine curve (pointLine p) = { curve with points := curve.points ++ (readPoint p).toList } := by
  have hh : 'h' ∉ pointLine p := not_mem_pointLine (by decide) (by decide)
  have hd : 'd' ∉ pointLine p := not_mem_pointLine (by decide) (by decide)
  simp [parseLine, (keptLine_pointLine p).trim, curvePoint_pointLine, tempRangeOf_none hh, speedRangeOf_none hd]

theorem foldl_pointLines (curve : FanCurve) (ps : List FanCurvePoint) :
    (ps.map pointLine).foldl parseLine curve = { curve with points := curve.points ++ ps.filterMap readPoint } := by
  induction ps generalizing curve with
  | nil => simp
  | cons p ps ih =>
    rw [List.map_cons, List.foldl_cons, parseLine_pointLine, ih, List.filterMap_cons]
    cases readPoint p <;> simp

theorem stripIndex_rangeLine (label : List Char) (u : Char) (lo hi : Int) : stripIndex (rangeLine label u lo hi) = none := rfl

/-- What is read of a temperature range. -/
def readTempRange (r : Int × Int) : Option (Int × Int) :=
  if r.1 ≤ r.2 ∧ TempSane r.1 ∧ TempSane r.2 then some r else none

/-- What is read of a speed range. -/
def readSpeedRange (r : Nat × Nat) : Option (Nat × Nat) := if r.1 ≤ r.2 ∧ r.2 ≤ 100 then some r else none

theorem tempRangeOf_rangeLine (r : Int × Int) : tempRangeOf (rangeLine hotspotTemp 'C' r.1 r.2) = readTempRange r := by
  rw [tempRangeOf, rangeValues_rangeLine r.1 r.2 (by decide) (by decide) (by decide) (by decide) (by decide), readTempRange]
  by_cases hsane : r.1 ≤ r.2 ∧ TempSane r.1 ∧ TempSane r.2
  · have hfit : IsI32 r.1 ∧ IsI32 r.2 := by
      unfold TempSane at hsane
      unfold IsI32 i32Min i32Max
      omega
    simp [hfit, hsane]
  · by_cases hfit : IsI32 r.1 ∧ IsI32 r.2 <;> simp [hfit, hsane]

theorem tryU8_natCast (n : Nat) : tryU8 n = if n ≤ 255 then some n else none := by
  by_cases hn : n ≤ 255
  · rw [tryU8, if_pos (by omega), if_pos hn]
    rfl
  · rw [tryU8, if_neg (by omega), if_neg hn]

theorem speedRangeOf_rangeLine (r : Nat × Nat) :
    speedRangeOf (rangeLine fanSpeed '%' r.1 r.2) = readSpeedRange r := by
  rw [speedRangeOf, rangeValues_rangeLine _ _ (by decide) (by decide) (by decide) (by decide) (by decide), readSpeedRange]
  by_cases hsane : r.1 ≤ r.2 ∧ r.2 ≤ 100
  · have hfit : IsI32 r.1 ∧ IsI32 r.2 := by
      unfold IsI32 i32Min i32Max
      omega
    have hlo : r.1 ≤ 255 := by omega
    have hhi : r.2 ≤ 255 := by omega
    simp [hfit, tryU8_natCast, hlo, hhi, hsane]
  · by_cases hfit : IsI32 (r.1 : Int) ∧ IsI32 (r.2 : Int)
    · by_cases hlo : r.1 ≤ 255 <;> by_cases hhi : r.2 ≤ 255 <;> simp [hfit, tryU8_natCast, hlo, hhi, hsane]
    · simp [hfit, hsane]

theorem parseLine_tempRange (curve : FanCurve) (r : Int × Int) :
    parseLine curve (rangeLine hotspotTemp 'C' r.1 r.2) =
      { curve with tempRange := (readTempRange r).or curve.tempRange } := by
  have hd : 'd' ∉ rangeLine hotspotTemp 'C' r.1 r.2 := not_mem_rangeLine (by decide) (by decide) (by decide)
  have hkept : KeptLine (rangeLine hotspotTemp 'C' r.1 r.2) := keptLine_rangeLine _ _ (by decide) (by decide) (by decide)
  simp [parseLine, hkept.trim, curvePoint, stripIndex_rangeLine, tempRangeOf_rangeLine, speedRangeOf_none hd]

theorem parseLine_speedRange (curve : FanCurve) (r : Nat × Nat) :
    parseLine curve (rangeLine fanSpeed '%' r.1 r.2) =
      { curve with speedRange := (readSpeedRange r).or curve.speedRange } := by
  have hh : 'h' ∉ rangeLine fanSpeed '%' r.1 r.2 := not_mem_rangeLine (by decide) (by decide) (by decide)
  have hkept : KeptLine (rangeLine fanSpeed '%' r.1 r.2) := keptLine_rangeLine _ _ (by decide) (by decide) (by decide)
  simp [parseLine, hkept.trim, curvePoint, stripIndex_rangeLine, speedRangeOf_rangeLine, tempRangeOf_none hh]

namespace PmfwCard

variable (card : PmfwCard)

/-- The points that are read of a card. -/
def readPoints : List FanCurvePoint := (indexed card.points).filterMap readPoint

theorem mem_indexed {points : List (Int × Nat)} {p : FanCurvePoint} :
    p ∈ indexed points ↔ points[p.index]? = some (p.tempC, p.speedPct) := by
  simp only [indexed, List.mem_mapIdx]
  constructor
  · rintro ⟨i, hi, rfl⟩
    exact List.getElem?_eq_getElem hi
  · intro h
    obtain ⟨hi, hp⟩ := List.getElem?_eq_some_iff.mp h
    exact ⟨p.index, hi, by rw [hp]⟩

theorem indexed_sorted (points : List (Int × Nat)) : (indexed points).Pairwise fun p q => p.index < q.index := by
  rw [List.pairwise_iff_getElem]
  intro i j hi hj hij
  simpa [indexed] using hij

theorem readPoint_index {p q : FanCurvePoint} (h : readPoint p = some q) : q.index = p.index := by
  unfold readPoint at h
  split at h
  · obtain rfl := Option.some.inj h
    rfl
  · exact absurd h (by simp)

theorem readPoints_sorted : card.readPoints.Pairwise fun p q => p.index ≤ q.index := by
  refine List.Pairwise.filterMap _ ?_ (indexed_sorted card.points)
  intro p q hlt p' hp q' hq
  rw [readPoint_index hp, readPoint_index hq]
  exact hlt.le

theorem foldl_lines : card.lines.foldl parseLine ⟨[], none, none⟩ =
    ⟨card.readPoints, readTempRange card.tempRange, readSpeedRange card.speedRange⟩ := by
  have hcurve : ∀ c, parseLine c "OD_FAN_CURVE:".toList = c := fun c =>
    parseLine_header c (keptLine_fixed (by decide) (by decide) (by decide) (by decide) (by decide)) rfl (by decide) (by decide)
  have hrange : ∀ c, parseLine c "OD_RANGE:".toList = c := fun c =>
    parseLine_header c (keptLine_fixed (by decide) (by decide) (by decide) (by decide) (by decide)) rfl (by decide) (by decide)
  simp only [lines, List.foldl_append, List.foldl_cons, List.foldl_nil, hcurve, hrange, foldl_pointLines,
    parseLine_tempRange, parseLine_speedRange]
  simp [readPoints]

/-- What is read of a card. -/
theorem parseFanCurve_text : parseFanCurve card.text =
    if card.readPoints.isEmpty then .error ⟨"<fan_curve>", "no curve points found in fan_curve output"⟩
    else .ok ⟨card.readPoints, readTempRange card.tempRange, readSpeedRange card.speedRange⟩ := by
  have hsorted : card.readPoints.mergeSort (fun p q => decide (p.index ≤ q.index)) = card.readPoints :=
    List.mergeSort_of_pairwise (by simpa using card.readPoints_sorted)
  rw [parseFanCurve, strLines_text, foldl_lines, hsorted]

/-- Everything a card shows is within what is read: ten points, values that fit, and plausible ranges. -/
structure Readable : Prop where
  points : card.points.length ≤ 10
  values : ∀ p ∈ card.points, IsI32 p.1 ∧ p.2 ≤ 100
  temp : card.tempRange.1 ≤ card.tempRange.2 ∧ TempSane card.tempRange.1 ∧ TempSane card.tempRange.2
  speed : card.speedRange.1 ≤ card.speedRange.2 ∧ card.speedRange.2 ≤ 100

theorem readPoint_eq_self {p : FanCurvePoint} :
    readPoint p = some p ↔ p.index < 10 ∧ IsI32 p.tempC ∧ p.speedPct ≤ 100 := by
  obtain ⟨i, t, s⟩ := p
  simp only [readPoint, Option.ite_none_right_eq_some, Option.some.injEq, FanCurvePoint.mk.injEq, true_and]
  unfold IsI32 i32Min i32Max
  omega

/-- A card is read whole where every point of it is. -/
theorem readPoints_eq_iff : card.readPoints = indexed card.points ↔
    ∀ p ∈ indexed card.points, readPoint p = some p := by
  constructor
  · intro h p hp
    have hread : p ∈ card.readPoints := h ▸ hp
    obtain ⟨q, hq, hqp⟩ := List.mem_filterMap.mp hread
    have hsame : q = p := by
      have hq' := mem_indexed.mp hq
      have hp' := mem_indexed.mp hp
      rw [← readPoint_index hqp, hp'] at hq'
      obtain ⟨i, t, s⟩ := q
      obtain ⟨j, t', s'⟩ := p
      have hij := readPoint_index hqp
      simp_all
    rwa [hsame] at hqp
  · intro h
    exact (List.filterMap_congr h).trans List.filterMap_some

theorem readPoints_iff : card.readPoints = indexed card.points ↔
    card.points.length ≤ 10 ∧ ∀ p ∈ card.points, IsI32 p.1 ∧ p.2 ≤ 100 := by
  rw [readPoints_eq_iff]
  constructor
  · intro h
    have hat : ∀ i (hi : i < card.points.length), i < 10 ∧ IsI32 card.points[i].1 ∧ card.points[i].2 ≤ 100 :=
      fun i hi => readPoint_eq_self.mp (h ⟨i, card.points[i].1, card.points[i].2⟩
        (mem_indexed.mpr (List.getElem?_eq_getElem hi)))
    refine ⟨?_, fun p hp => ?_⟩
    · have hlast := hat (card.points.length - 1) (by have := card.nonempty; omega)
      omega
    · obtain ⟨i, hi, rfl⟩ := List.mem_iff_getElem.mp hp
      exact (hat i hi).2
  · rintro ⟨hlen, hvalues⟩ p hp
    obtain ⟨hi, hval⟩ := List.getElem?_eq_some_iff.mp (mem_indexed.mp hp)
    have hmem : (p.tempC, p.speedPct) ∈ card.points := hval ▸ List.getElem_mem hi
    exact readPoint_eq_self.mpr ⟨by omega, hvalues _ hmem⟩

theorem parseFanCurve_text_iff : parseFanCurve card.text = .ok card.curve ↔ card.Readable := by
  have htemp : readTempRange card.tempRange = some card.tempRange ↔
      card.tempRange.1 ≤ card.tempRange.2 ∧ TempSane card.tempRange.1 ∧ TempSane card.tempRange.2 := by
    simp [readTempRange]
  have hspeed : readSpeedRange card.speedRange = some card.speedRange ↔
      card.speedRange.1 ≤ card.speedRange.2 ∧ card.speedRange.2 ≤ 100 := by
    simp [readSpeedRange]
  have hfull : (indexed card.points).isEmpty = false := by
    have hne := card.nonempty
    simp only [indexed, List.isEmpty_eq_false_iff, ne_eq, List.mapIdx_eq_nil_iff]
    intro h
    simp [h] at hne
  rw [parseFanCurve_text]
  constructor
  · intro h
    split at h
    · exact absurd h (by simp)
    · have hcurve := Except.ok.inj h
      simp only [curve, FanCurve.mk.injEq] at hcurve
      obtain ⟨hp, ht, hs⟩ := hcurve
      obtain ⟨hlen, hvalues⟩ := card.readPoints_iff.mp hp
      exact ⟨hlen, hvalues, htemp.mp ht, hspeed.mp hs⟩
  · intro h
    have hp : card.readPoints = indexed card.points := card.readPoints_iff.mpr ⟨h.points, h.values⟩
    rw [hp, hfull, htemp.mpr h.temp, hspeed.mpr h.speed]
    rfl

end PmfwCard

end Reading

end ControlOfc.Gpu
