import ControlOfc.Profile.Curve
import Mathlib.Tactic.Linarith
import Mathlib.Tactic.FieldSimp
/-! # The shape of a curve (profile.rs:199-289)

`evaluate_graph` and `evaluate_stepped` are one walk: the first segment that covers the temperature
decides, between two outer guards. `Segments` holds what a loop of that kind needs to know of a segment,
and what it answers is proved of the walk once. A linear curve is one graph segment with its own guards.
-/
namespace ControlOfc.Profile

/-! ## The first segment that covers a temperature -/

/-- One loop over neighbouring points: which temperatures a segment covers, and what it answers there. -/
structure Segments where
  covers : CurvePoint ℚ → CurvePoint ℚ → ℚ → Bool
  value : CurvePoint ℚ → CurvePoint ℚ → ℚ → ℚ
  start : ∀ {p q t}, covers p q t → p.tempC ≤ t
  stop : ∀ {p q t}, covers p q t → t ≤ q.tempC
  inside : ∀ {p q t}, p.tempC ≤ t → t < q.tempC → covers p q t
  between : ∀ {p q t}, covers p q t →
    (p.outputPct ≤ value p q t ∧ value p q t ≤ q.outputPct) ∨ (q.outputPct ≤ value p q t ∧ value p q t ≤ p.outputPct)
  mono : ∀ {p q t t'}, covers p q t → covers p q t' → t ≤ t' → p.outputPct ≤ q.outputPct → value p q t ≤ value p q t'

/-- `v` lies between two of the values listed. -/
def Within (outs : List ℚ) (v : ℚ) : Prop := ∃ lo ∈ outs, ∃ hi ∈ outs, lo ≤ v ∧ v ≤ hi

theorem Within.of_mem {outs : List ℚ} {v : ℚ} (h : v ∈ outs) : Within outs v := ⟨v, h, v, h, le_refl v, le_refl v⟩

theorem Within.mono {outs outs' : List ℚ} {v : ℚ} (h : Within outs v) (hsub : outs ⊆ outs') : Within outs' v := by
  obtain ⟨lo, hlo, hi, hhi, hle⟩ := h
  exact ⟨lo, hsub hlo, hi, hsub hhi, hle⟩

theorem points_ne_nil (p : CurvePoint ℚ) (ps : List (CurvePoint ℚ)) : p :: ps ≠ [] := List.cons_ne_nil p ps

/-- `points[points.len() - 1]`. -/
abbrev lastOf (p : CurvePoint ℚ) (ps : List (CurvePoint ℚ)) : CurvePoint ℚ := (p :: ps).getLast (points_ne_nil p ps)

theorem lastOf_mem {p : CurvePoint ℚ} {ps : List (CurvePoint ℚ)} : lastOf p ps ∈ p :: ps := List.getLast_mem _

theorem lastOf_cons (p q : CurvePoint ℚ) (ps : List (CurvePoint ℚ)) : lastOf p (q :: ps) = lastOf q ps :=
  List.getLast_cons (List.cons_ne_nil q ps)

/-- Neither temperatures nor outputs fall along the points. -/
def Rising (points : List (CurvePoint ℚ)) : Prop :=
  points.Pairwise fun p q => p.tempC ≤ q.tempC ∧ p.outputPct ≤ q.outputPct

theorem Rising.le_last {p : CurvePoint ℚ} {ps : List (CurvePoint ℚ)} (h : Rising (p :: ps)) : p.tempC ≤ (lastOf p ps).tempC ∧ p.outputPct ≤ (lastOf p ps).outputPct := by
  have hlast : lastOf p ps ∈ p :: ps := lastOf_mem
  rcases List.mem_cons.mp hlast with heq | hmem
  · rw [heq]
    exact ⟨le_refl _, le_refl _⟩
  · exact (List.pairwise_cons.mp h).1 _ hmem

namespace Segments

variable (s : Segments)

/-- The loop. -/
def first (t : ℚ) : List (CurvePoint ℚ) → Option ℚ
  | p :: q :: rest => if s.covers p q t then some (s.value p q t) else first t (q :: rest)
  | _ => none

/-- The loop between its guards, over at least one point. -/
def eval (t : ℚ) (p : CurvePoint ℚ) (ps : List (CurvePoint ℚ)) : ℚ :=
  if t ≤ p.tempC then p.outputPct
  else if (lastOf p ps).tempC ≤ t then (lastOf p ps).outputPct
  else (s.first t (p :: ps)).getD (lastOf p ps).outputPct

variable {s} {t t' : ℚ} {p : CurvePoint ℚ} {ps : List (CurvePoint ℚ)}

theorem first_within : ∀ {points : List (CurvePoint ℚ)} {v : ℚ}, s.first t points = some v →
    Within (points.map (·.outputPct)) v
  | [], _, h => by cases h
  | [_], _, h => by cases h
  | p :: q :: rest, v, h => by
    unfold first at h
    split at h
    · next hcov =>
      obtain rfl := Option.some.inj h
      have hp : p.outputPct ∈ (p :: q :: rest).map (·.outputPct) := by simp
      have hq : q.outputPct ∈ (p :: q :: rest).map (·.outputPct) := by simp
      rcases s.between hcov with hbetween | hbetween
      · exact ⟨_, hp, _, hq, hbetween⟩
      · exact ⟨_, hq, _, hp, hbetween⟩
    · exact (first_within h).mono (List.subset_cons_self _ _)

/-- Whatever the order of the points, the answer lies between two of their outputs. -/
theorem eval_within : Within ((p :: ps).map (·.outputPct)) (s.eval t p ps) := by
  have hlast : (lastOf p ps).outputPct ∈ (p :: ps).map (·.outputPct) := List.mem_map.mpr ⟨_, lastOf_mem, rfl⟩
  unfold eval
  split
  · exact .of_mem (by simp)
  · split
    · exact .of_mem hlast
    · cases h : s.first t (p :: ps) with
      | none => exact .of_mem hlast
      | some v => exact first_within h

/-- Inside its points a rising curve finds a segment, and answers between its first output and its last. -/
theorem first_rising (h : Rising (p :: ps)) (hstart : p.tempC ≤ t) (hstop : t < (lastOf p ps).tempC) :
    ∃ v, s.first t (p :: ps) = some v ∧ p.outputPct ≤ v ∧ v ≤ (lastOf p ps).outputPct := by
  induction ps generalizing p with
  | nil => exact absurd hstop (not_lt.mpr hstart)
  | cons q ps ih =>
    obtain ⟨hfirst, hrest⟩ := List.pairwise_cons.mp h
    obtain ⟨-, hpq⟩ := hfirst q List.mem_cons_self
    have hlast := Rising.le_last hrest
    rw [lastOf_cons] at hstop ⊢
    unfold first
    by_cases hcov : s.covers p q t
    · rw [if_pos hcov]
      refine ⟨_, rfl, ?_⟩
      rcases s.between hcov with hbetween | hbetween <;> constructor <;> linarith
    · rw [if_neg hcov]
      have hq : q.tempC ≤ t := not_lt.mp fun hlt => hcov (s.inside hstart hlt)
      obtain ⟨v, hv, hlo, hhi⟩ := ih hrest hq hstop
      exact ⟨v, hv, hpq.trans hlo, hhi⟩

/-- The segment that covers the higher temperature is no earlier one, and none of them falls. -/
theorem first_mono (h : Rising (p :: ps)) (hstart : p.tempC ≤ t) (htt : t ≤ t') (hstop : t' < (lastOf p ps).tempC)
    {v v' : ℚ} (hv : s.first t (p :: ps) = some v) (hv' : s.first t' (p :: ps) = some v') : v ≤ v' := by
  induction ps generalizing p with
  | nil => cases hv
  | cons q ps ih =>
    obtain ⟨hfirst, hrest⟩ := List.pairwise_cons.mp h
    obtain ⟨-, hpq⟩ := hfirst q List.mem_cons_self
    rw [lastOf_cons] at hstop
    unfold first at hv hv'
    by_cases hcov : s.covers p q t
    · rw [if_pos hcov] at hv
      obtain rfl := Option.some.inj hv
      by_cases hcov' : s.covers p q t'
      · rw [if_pos hcov'] at hv'
        obtain rfl := Option.some.inj hv'
        exact s.mono hcov hcov' htt hpq
      · -- the higher temperature lies beyond this segment, where nothing is below its end
        rw [if_neg hcov'] at hv'
        have hq : q.tempC ≤ t' := not_lt.mp fun hlt => hcov' (s.inside (hstart.trans htt) hlt)
        obtain ⟨w, hw, hlo, -⟩ := first_rising (s := s) hrest hq hstop
        obtain rfl := Option.some.inj (hv'.symm.trans hw)
        rcases s.between hcov with hbetween | hbetween <;> linarith
    · rw [if_neg hcov] at hv
      have hq : q.tempC ≤ t := not_lt.mp fun hlt => hcov (s.inside hstart hlt)
      have hcov' : ¬ s.covers p q t' := by
        intro hcov'
        have hsame : t' = t := le_antisymm ((s.stop hcov').trans hq) htt
        rw [hsame] at hcov'
        exact hcov hcov'
      rw [if_neg hcov'] at hv'
      exact ih hrest hq hstop hv hv'

/-- **A rising curve never falls.** -/
theorem eval_mono (h : Rising (p :: ps)) (htt : t ≤ t') : s.eval t p ps ≤ s.eval t' p ps := by
  have hle := (Rising.le_last h).2
  unfold eval
  by_cases hlow : t ≤ p.tempC
  · rw [if_pos hlow]
    split
    · exact le_refl _
    · next hlow' =>
      split
      · exact hle
      · next hhigh' =>
        obtain ⟨v', hv', hlo, -⟩ := first_rising (s := s) h (not_le.mp hlow').le (not_le.mp hhigh')
        rw [hv']
        exact hlo
  · rw [if_neg hlow, if_neg fun hle' => hlow (htt.trans hle')]
    have hstart : p.tempC ≤ t := (not_le.mp hlow).le
    by_cases hhigh : (lastOf p ps).tempC ≤ t
    · rw [if_pos hhigh, if_pos (hhigh.trans htt)]
    · rw [if_neg hhigh]
      obtain ⟨v, hv, -, hhi⟩ := first_rising (s := s) h hstart (not_le.mp hhigh)
      rw [hv]
      split
      · exact hhi
      · next hhigh' =>
        obtain ⟨v', hv', -, -⟩ := first_rising (s := s) h (hstart.trans htt) (not_le.mp hhigh')
        rw [hv']
        exact first_mono h hstart htt (not_le.mp hhigh') hv hv'

end Segments

/-! ## The two loops -/

/-- Interpolation, over a segment of positive length. -/
def lerp (p q : CurvePoint ℚ) (t : ℚ) : ℚ :=
  p.outputPct + (t - p.tempC) / (q.tempC - p.tempC) * (q.outputPct - p.outputPct)

section Lerp

variable {p q : CurvePoint ℚ} {t t' : ℚ}

theorem fraction_mem (hrange : 0 < q.tempC - p.tempC) (hp : p.tempC ≤ t) (hq : t ≤ q.tempC) :
    0 ≤ (t - p.tempC) / (q.tempC - p.tempC) ∧ (t - p.tempC) / (q.tempC - p.tempC) ≤ 1 := by
  constructor
  · exact div_nonneg (by linarith) hrange.le
  · rw [div_le_one hrange]
    linarith

theorem lerp_between (hrange : 0 < q.tempC - p.tempC) (hp : p.tempC ≤ t) (hq : t ≤ q.tempC) :
    (p.outputPct ≤ lerp p q t ∧ lerp p q t ≤ q.outputPct) ∨ (q.outputPct ≤ lerp p q t ∧ lerp p q t ≤ p.outputPct) := by
  obtain ⟨h0, h1⟩ := fraction_mem hrange hp hq
  unfold lerp
  generalize (t - p.tempC) / (q.tempC - p.tempC) = f at h0 h1
  rcases le_total p.outputPct q.outputPct with hle | hle
  · left
    constructor <;> nlinarith
  · right
    constructor <;> nlinarith

theorem lerp_mono (hrange : 0 < q.tempC - p.tempC) (htt : t ≤ t') (hpq : p.outputPct ≤ q.outputPct) :
    lerp p q t ≤ lerp p q t' := by
  have hfraction : (t - p.tempC) / (q.tempC - p.tempC) ≤ (t' - p.tempC) / (q.tempC - p.tempC) :=
    div_le_div_of_nonneg_right (by linarith) hrange.le
  unfold lerp
  nlinarith

theorem lerp_end (hrange : 0 < q.tempC - p.tempC) : lerp p q q.tempC = q.outputPct := by
  unfold lerp
  rw [div_self hrange.ne']
  ring

end Lerp

/-- The loop of `evaluate_graph`: both ends belong to a segment. -/
def graphSegments : Segments where
  covers p q t := decide (p.tempC ≤ t ∧ t ≤ q.tempC)
  value p q t := if q.tempC - p.tempC ≤ 0 then p.outputPct else lerp p q t
  start h := (of_decide_eq_true h).1
  stop h := (of_decide_eq_true h).2
  inside hp hq := decide_eq_true ⟨hp, hq.le⟩
  between := by
    intro p q t h
    obtain ⟨hp, hq⟩ := of_decide_eq_true h
    split
    · exact (le_total p.outputPct q.outputPct).imp (fun hle => ⟨le_refl _, hle⟩) fun hle => ⟨hle, le_refl _⟩
    · next hrange => exact lerp_between (not_le.mp hrange) hp hq
  mono := by
    intro p q t t' h h' htt hpq
    by_cases hrange : q.tempC - p.tempC ≤ 0
    · rw [if_pos hrange, if_pos hrange]
    · rw [if_neg hrange, if_neg hrange]
      exact lerp_mono (not_le.mp hrange) htt hpq

/-- The loop of `evaluate_stepped`: a segment ends before its upper point. -/
def steppedSegments : Segments where
  covers p q t := decide (p.tempC ≤ t ∧ t < q.tempC)
  value p _ _ := p.outputPct
  start h := (of_decide_eq_true h).1
  stop h := (of_decide_eq_true h).2.le
  inside hp hq := decide_eq_true ⟨hp, hq⟩
  between := by
    intro p q t _
    exact (le_total p.outputPct q.outputPct).imp (fun hle => ⟨le_refl _, hle⟩) fun hle => ⟨hle, le_refl _⟩
  mono _ _ _ _ := le_refl _

@[simp] theorem graphSegments_covers {p q : CurvePoint ℚ} {t : ℚ} :
    graphSegments.covers p q t = true ↔ p.tempC ≤ t ∧ t ≤ q.tempC := decide_eq_true_iff

@[simp] theorem steppedSegments_covers {p q : CurvePoint ℚ} {t : ℚ} :
    steppedSegments.covers p q t = true ↔ p.tempC ≤ t ∧ t < q.tempC := decide_eq_true_iff

theorem graphSegment_eq (t : ℚ) : ∀ points : List (CurvePoint ℚ), graphSegment t points = graphSegments.first t points
  | [] => rfl
  | [_] => rfl
  | p :: q :: rest => by
    unfold graphSegment Segments.first
    rw [graphSegment_eq t (q :: rest)]
    by_cases hcov : p.tempC ≤ t ∧ t ≤ q.tempC
    · rw [if_pos hcov, if_pos (graphSegments_covers.mpr hcov)]
      exact (apply_ite some _ _ _).symm
    · rw [if_neg hcov, if_neg fun h => hcov (graphSegments_covers.mp h)]

theorem steppedSegment_eq (t : ℚ) :
    ∀ points : List (CurvePoint ℚ), steppedSegment t points = steppedSegments.first t points
  | [] => rfl
  | [_] => rfl
  | p :: q :: rest => by
    unfold steppedSegment Segments.first
    rw [steppedSegment_eq t (q :: rest)]
    by_cases hcov : p.tempC ≤ t ∧ t < q.tempC
    · rw [if_pos hcov, if_pos (steppedSegments_covers.mpr hcov)]
      rfl
    · rw [if_neg hcov, if_neg fun h => hcov (steppedSegments_covers.mp h)]

variable {c : CurveConfig ℚ} {t t' : ℚ} {p : CurvePoint ℚ} {ps : List (CurvePoint ℚ)}

/-- One point is a curve like any other: its guards leave nothing to the loop. -/
theorem evaluateGraph_cons (h : c.points = p :: ps) : evaluateGraph c t = graphSegments.eval t p ps := by
  unfold evaluateGraph Segments.eval
  rw [h]
  cases ps with
  | nil =>
    by_cases hlow : t ≤ p.tempC
    · simp [hlow]
    · simp [hlow, (not_le.mp hlow).le]
  | cons q ps =>
    rw [← graphSegment_eq]

theorem evaluateStepped_cons (h : c.points = p :: ps) : evaluateStepped c t = steppedSegments.eval t p ps := by
  unfold evaluateStepped Segments.eval
  rw [h, ← steppedSegment_eq]

/-! ## Strictly increasing temperatures -/

def Increasing (points : List (CurvePoint ℚ)) : Prop := points.Pairwise fun p q => p.tempC < q.tempC

theorem graphSegment_of_mem (h : Increasing (p :: ps)) {q : CurvePoint ℚ} (hq : q ∈ ps) :
    graphSegment q.tempC (p :: ps) = some q.outputPct := by
  induction ps generalizing p with
  | nil => cases hq
  | cons p₁ ps ih =>
    obtain ⟨hfirst, hrest⟩ := List.pairwise_cons.mp h
    have hp₁ := hfirst p₁ List.mem_cons_self
    unfold graphSegment
    rcases List.mem_cons.mp hq with rfl | hq
    · rw [if_pos ⟨hp₁.le, le_refl _⟩]
      have hrange : 0 < q.tempC - p.tempC := by linarith
      have hend := lerp_end hrange
      unfold lerp at hend
      rw [if_neg (not_le.mpr hrange), hend]
    · have hbeyond : p₁.tempC < q.tempC := (List.pairwise_cons.mp hrest).1 q hq
      rw [if_neg fun hcov => absurd hcov.2 (not_le.mpr hbeyond)]
      exact ih hrest hq

/-- A graph passes through every one of its points. -/
theorem evaluateGraph_of_mem (h : Increasing c.points) {q : CurvePoint ℚ} (hq : q ∈ c.points) :
    evaluateGraph c q.tempC = q.outputPct := by
  cases hpoints : c.points with
  | nil =>
    rw [hpoints] at hq
    cases hq
  | cons p ps =>
    rw [hpoints] at h hq
    rw [evaluateGraph_cons hpoints]
    unfold Segments.eval
    rcases List.mem_cons.mp hq with rfl | hq
    · rw [if_pos (le_refl _)]
    · have hp : p.tempC < q.tempC := (List.pairwise_cons.mp h).1 q hq
      rw [if_neg (not_le.mpr hp), ← graphSegment_eq, graphSegment_of_mem h hq]
      split
      · next hhigh =>
        -- only the last point lies at or above the last point
        have hlast : lastOf p ps = q := by
          by_contra hne
          have hsplit := List.dropLast_append_getLast (List.cons_ne_nil p ps)
          have hpair := h
          rw [← hsplit] at hpair
          have hbefore : q ∈ (p :: ps).dropLast := by
            have hmem : q ∈ p :: ps := List.mem_cons_of_mem _ hq
            rw [← hsplit] at hmem
            rcases List.mem_append.mp hmem with hmem | hmem
            · exact hmem
            · exact absurd (List.mem_singleton.mp hmem).symm hne
          have hlt := (List.pairwise_append.mp hpair).2.2 q hbefore _ (List.mem_singleton_self _)
          exact absurd hhigh (not_le.mpr hlt)
        rw [hlast]
      · rfl

/-- The last of the points at or below `t`, or the first point. -/
def pointAt (t : ℚ) (p : CurvePoint ℚ) (ps : List (CurvePoint ℚ)) : CurvePoint ℚ :=
  ((p :: ps).filter fun q => q.tempC ≤ t).getLast?.getD p

theorem pointAt_nil_of_lt (h : ∀ q ∈ ps, t < q.tempC) : pointAt t p ps = p := by
  have hnone : ps.filter (fun q => q.tempC ≤ t) = [] :=
    List.filter_eq_nil_iff.mpr fun q hq => by simpa using h q hq
  unfold pointAt
  by_cases hp : p.tempC ≤ t
  · rw [List.filter_cons_of_pos (by simpa using hp), hnone]
    rfl
  · rw [List.filter_cons_of_neg (by simpa using hp), hnone]
    rfl

theorem pointAt_cons_of_le {q : CurvePoint ℚ} (hp : p.tempC ≤ t) (hq : q.tempC ≤ t) : pointAt t p (q :: ps) = pointAt t q ps := by
  unfold pointAt
  rw [List.filter_cons_of_pos (by simpa using hp), List.filter_cons_of_pos (by simpa using hq)]
  simp [List.getLast?_cons]

theorem steppedSegment_pointAt (h : Increasing (p :: ps)) (hstart : p.tempC ≤ t) (hstop : t < (lastOf p ps).tempC) :
    steppedSegment t (p :: ps) = some (pointAt t p ps).outputPct := by
  induction ps generalizing p with
  | nil => exact absurd hstop (not_lt.mpr hstart)
  | cons q ps ih =>
    obtain ⟨-, hrest⟩ := List.pairwise_cons.mp h
    rw [lastOf_cons] at hstop
    unfold steppedSegment
    by_cases hq : t < q.tempC
    · rw [if_pos ⟨hstart, hq⟩, pointAt_nil_of_lt]
      intro q' hq'
      rcases List.mem_cons.mp hq' with rfl | hq'
      · exact hq
      · exact hq.trans ((List.pairwise_cons.mp hrest).1 q' hq')
    · rw [if_neg fun hcov => hq hcov.2, pointAt_cons_of_le hstart (not_lt.mp hq)]
      exact ih hrest (not_lt.mp hq) hstop

theorem pointAt_of_last_le (h : Increasing (p :: ps)) (hlast : (lastOf p ps).tempC ≤ t) : pointAt t p ps = lastOf p ps := by
  have hall : ∀ q ∈ p :: ps, q.tempC ≤ t := by
    intro q hq
    have hsplit := List.dropLast_append_getLast (List.cons_ne_nil p ps)
    have hpair := h
    rw [← hsplit] at hpair hq
    rcases List.mem_append.mp hq with hq | hq
    · exact ((List.pairwise_append.mp hpair).2.2 q hq _ (List.mem_singleton_self _)).le.trans hlast
    · rw [List.mem_singleton.mp hq]
      exact hlast
  unfold pointAt
  rw [List.filter_eq_self.mpr fun q hq => by simpa using hall q hq, List.getLast?_eq_getLast_of_ne_nil (List.cons_ne_nil p ps)]
  rfl

/-- A stepped curve answers the last point the temperature has reached, below the first its first. -/
theorem evaluateStepped_pointAt (h : Increasing c.points) (hpoints : c.points = p :: ps) :
    evaluateStepped c t = (pointAt t p ps).outputPct := by
  rw [hpoints] at h
  rw [evaluateStepped_cons hpoints]
  unfold Segments.eval
  split
  · next hlow =>
    rw [pointAt_nil_of_lt]
    exact fun q hq => lt_of_le_of_lt hlow ((List.pairwise_cons.mp h).1 q hq)
  · next hlow =>
    split
    · next hhigh => rw [pointAt_of_last_le h hhigh]
    · next hhigh =>
      rw [← steppedSegment_eq, steppedSegment_pointAt h (not_le.mp hlow).le (not_le.mp hhigh)]
      rfl

/-! ## Linear curves -/

/-- `(start_temp_c, start_output_pct)`, with the defaults. -/
def CurveConfig.startPoint (c : CurveConfig ℚ) : CurvePoint ℚ := ⟨c.startTempC.getD 30, c.startOutputPct.getD 20⟩

/-- `(end_temp_c, end_output_pct)`, with the defaults. -/
def CurveConfig.endPoint (c : CurveConfig ℚ) : CurvePoint ℚ := ⟨c.endTempC.getD 80, c.endOutputPct.getD 100⟩

/-- Between its guards the length of the ramp is positive, whatever the two temperatures. -/
theorem evaluateLinear_eq : evaluateLinear c t =
    if t ≤ c.startPoint.tempC then c.startPoint.outputPct
    else if c.endPoint.tempC ≤ t then c.endPoint.outputPct
    else lerp c.startPoint c.endPoint t := by
  have hguarded : evaluateLinear c t =
      if t ≤ c.startPoint.tempC then c.startPoint.outputPct
      else if c.endPoint.tempC ≤ t then c.endPoint.outputPct
      else if c.endPoint.tempC - c.startPoint.tempC ≤ 0 then c.startPoint.outputPct
      else lerp c.startPoint c.endPoint t := rfl
  rw [hguarded]
  by_cases hlow : t ≤ c.startPoint.tempC
  · rw [if_pos hlow, if_pos hlow]
  · by_cases hhigh : c.endPoint.tempC ≤ t
    · rw [if_pos hhigh, if_pos hhigh]
    · rw [if_neg (c := c.endPoint.tempC - c.startPoint.tempC ≤ 0)]
      intro hrange
      linarith

theorem evaluateLinear_within : Within [c.startPoint.outputPct, c.endPoint.outputPct] (evaluateLinear c t) := by
  rw [evaluateLinear_eq]
  split
  · exact .of_mem (by simp)
  · next hlow =>
    split
    · exact .of_mem (by simp)
    · next hhigh =>
      have hrange : 0 < c.endPoint.tempC - c.startPoint.tempC := by linarith
      rcases lerp_between hrange (not_le.mp hlow).le (not_le.mp hhigh).le with hbetween | hbetween
      · exact ⟨_, by simp, _, by simp, hbetween⟩
      · exact ⟨c.endPoint.outputPct, by simp, c.startPoint.outputPct, by simp, hbetween⟩

theorem evaluateLinear_mono (houtput : c.startPoint.outputPct ≤ c.endPoint.outputPct) (htt : t ≤ t') :
    evaluateLinear c t ≤ evaluateLinear c t' := by
  have hbounds : ∀ u, c.startPoint.outputPct ≤ evaluateLinear c u ∧ evaluateLinear c u ≤ c.endPoint.outputPct := by
    intro u
    obtain ⟨lo, hlo, hi, hhi, hle⟩ := evaluateLinear_within (c := c) (t := u)
    simp only [List.mem_cons, List.not_mem_nil, or_false] at hlo hhi
    rcases hlo with rfl | rfl <;> rcases hhi with rfl | rfl <;> constructor <;> linarith
  by_cases hlow : t ≤ c.startPoint.tempC
  · rw [evaluateLinear_eq, if_pos hlow]
    exact (hbounds t').1
  · by_cases hhigh' : c.endPoint.tempC ≤ t'
    · have hend : evaluateLinear c t' = c.endPoint.outputPct := by
        rw [evaluateLinear_eq, if_neg fun hle => hlow (htt.trans hle), if_pos hhigh']
      rw [hend]
      exact (hbounds t).2
    · rw [evaluateLinear_eq, evaluateLinear_eq, if_neg hlow, if_neg fun hle => hhigh' (hle.trans htt),
        if_neg fun hle => hlow (htt.trans hle), if_neg hhigh']
      exact lerp_mono (by linarith) htt houtput

/-! ## Where the source divides -/

/-- A division that fails on zero. -/
def checkedDiv (a b : ℚ) : Option ℚ := if b = 0 then none else some (a / b)

theorem checkedDiv_of_pos {a b : ℚ} (hb : ¬ b ≤ 0) : checkedDiv a b = some (a / b) := by
  rw [checkedDiv, if_neg]
  rintro rfl
  exact hb (le_refl _)

/-- `graphSegment` with the division checked. -/
def graphSegmentChecked (t : ℚ) : List (CurvePoint ℚ) → Option (Option ℚ)
  | p0 :: p1 :: rest =>
    if p0.tempC ≤ t ∧ t ≤ p1.tempC then
      let range := p1.tempC - p0.tempC
      if range ≤ 0 then some (some p0.outputPct)
      else (checkedDiv (t - p0.tempC) range).map fun f => some (p0.outputPct + f * (p1.outputPct - p0.outputPct))
    else graphSegmentChecked t (p1 :: rest)
  | _ => some none

/-- `evaluateGraph` with the division checked. -/
def evaluateGraphChecked (c : CurveConfig ℚ) (t : ℚ) : Option ℚ :=
  match c.points with
  | [] => some 50
  | [p] => some p.outputPct
  | p :: ps =>
    if t ≤ p.tempC then some p.outputPct
    else if (lastOf p ps).tempC ≤ t then some (lastOf p ps).outputPct
    else (graphSegmentChecked t (p :: ps)).map fun v => v.getD (lastOf p ps).outputPct

/-- `evaluateLinear` with the division checked. -/
def evaluateLinearChecked (c : CurveConfig ℚ) (t : ℚ) : Option ℚ :=
  if t ≤ c.startPoint.tempC then some c.startPoint.outputPct
  else if c.endPoint.tempC ≤ t then some c.endPoint.outputPct
  else
    let range := c.endPoint.tempC - c.startPoint.tempC
    if range ≤ 0 then some c.startPoint.outputPct
    else (checkedDiv (t - c.startPoint.tempC) range).map fun f =>
      c.startPoint.outputPct + f * (c.endPoint.outputPct - c.startPoint.outputPct)

/-- `evaluateCurve` with its divisions checked; the other types do not divide. -/
def evaluateCurveChecked (c : CurveConfig ℚ) (t : ℚ) : Option ℚ :=
  match c.curveType with
  | .graph => evaluateGraphChecked c t
  | .linear => evaluateLinearChecked c t
  | _ => some (evaluateCurve c t)

theorem graphSegmentChecked_eq (t : ℚ) :
    ∀ points : List (CurvePoint ℚ), graphSegmentChecked t points = some (graphSegment t points)
  | [] => rfl
  | [_] => rfl
  | p :: q :: rest => by
    unfold graphSegmentChecked graphSegment
    rw [graphSegmentChecked_eq t (q :: rest)]
    split
    · dsimp only
      split
      · rfl
      · next hrange =>
        rw [checkedDiv_of_pos hrange]
        rfl
    · rfl

theorem evaluateGraphChecked_eq : evaluateGraphChecked c t = some (evaluateGraph c t) := by
  rcases h : c.points with _ | ⟨p, _ | ⟨q, ps⟩⟩
  · simp only [evaluateGraphChecked, evaluateGraph, h]
  · simp only [evaluateGraphChecked, evaluateGraph, h]
  · simp only [evaluateGraphChecked, evaluateGraph, h, graphSegmentChecked_eq]
    by_cases hfirst : t ≤ p.tempC
    · rw [if_pos hfirst, if_pos hfirst]
    · rw [if_neg hfirst, if_neg hfirst]
      split <;> rfl

theorem evaluateLinearChecked_eq : evaluateLinearChecked c t = some (evaluateLinear c t) := by
  rw [evaluateLinear_eq]
  unfold evaluateLinearChecked
  split
  · rfl
  · next hlow =>
    split
    · rfl
    · next hhigh =>
      have hrange : ¬ c.endPoint.tempC - c.startPoint.tempC ≤ 0 := by
        intro hrange
        linarith
      dsimp only
      rw [if_neg hrange, checkedDiv_of_pos hrange]
      rfl

/-! ## The three types together -/

/-- The outputs of a curve's points; without any it answers 50. -/
def CurveConfig.pointOutputs (c : CurveConfig ℚ) : List ℚ :=
  match c.points with
  | [] => [50]
  | p :: ps => (p :: ps).map (·.outputPct)

/-- The outputs a curve states itself: those of its points, or of its two ends. -/
def CurveConfig.ownOutputs (c : CurveConfig ℚ) : List ℚ :=
  match c.curveType with
  | .linear => [c.startPoint.outputPct, c.endPoint.outputPct]
  | _ => c.pointOutputs

/-- Hotter never means less, as the curve is written. -/
def CurveConfig.WrittenRising (c : CurveConfig ℚ) : Prop :=
  match c.curveType with
  | .linear => c.startPoint.tempC ≤ c.endPoint.tempC ∧ c.startPoint.outputPct ≤ c.endPoint.outputPct
  | _ => Rising c.points

theorem evaluateGraph_within : Within c.pointOutputs (evaluateGraph c t) := by
  unfold CurveConfig.pointOutputs
  cases h : c.points with
  | nil =>
    rw [evaluateGraph, h]
    exact .of_mem (by simp)
  | cons p ps =>
    rw [evaluateGraph_cons h]
    exact Segments.eval_within

theorem evaluateStepped_within : Within c.pointOutputs (evaluateStepped c t) := by
  unfold CurveConfig.pointOutputs
  cases h : c.points with
  | nil =>
    rw [evaluateStepped, h]
    exact .of_mem (by simp)
  | cons p ps =>
    rw [evaluateStepped_cons h]
    exact Segments.eval_within

theorem evaluateGraph_mono (h : Rising c.points) (htt : t ≤ t') : evaluateGraph c t ≤ evaluateGraph c t' := by
  cases hpoints : c.points with
  | nil => rw [evaluateGraph, evaluateGraph, hpoints]
  | cons p ps =>
    rw [evaluateGraph_cons hpoints, evaluateGraph_cons hpoints]
    exact Segments.eval_mono (hpoints ▸ h) htt

theorem evaluateStepped_mono (h : Rising c.points) (htt : t ≤ t') : evaluateStepped c t ≤ evaluateStepped c t' := by
  cases hpoints : c.points with
  | nil => rw [evaluateStepped, evaluateStepped, hpoints]
  | cons p ps =>
    rw [evaluateStepped_cons hpoints, evaluateStepped_cons hpoints]
    exact Segments.eval_mono (hpoints ▸ h) htt

/-- **The shape of a graph, stepped or linear curve**: it stays within its own outputs and divides by no
zero; a graph with increasing temperatures passes through its points and a staircase answers the last one
reached; and one written rising never falls. -/
theorem evaluateCurve_shape (c : CurveConfig ℚ) (t : ℚ)
    (hshape : c.curveType = .graph ∨ c.curveType = .stepped ∨ c.curveType = .linear) :
    Within c.ownOutputs (evaluateCurve c t) ∧
      ((∀ o ∈ c.ownOutputs, 0 ≤ o ∧ o ≤ 100) → 0 ≤ evaluateCurve c t ∧ evaluateCurve c t ≤ 100) ∧
      evaluateCurveChecked c t = some (evaluateCurve c t) ∧
      (Increasing c.points →
        (c.curveType = .graph → ∀ p ∈ c.points, evaluateCurve c p.tempC = p.outputPct) ∧
          (c.curveType = .stepped → ∀ p ps, c.points = p :: ps → evaluateCurve c t = (pointAt t p ps).outputPct)) ∧
      (c.WrittenRising → ∀ t', t ≤ t' → evaluateCurve c t ≤ evaluateCurve c t') := by
  have hwithin : Within c.ownOutputs (evaluateCurve c t) := by
    unfold CurveConfig.ownOutputs evaluateCurve
    rcases hshape with h | h | h
    · rw [h]; exact evaluateGraph_within
    · rw [h]; exact evaluateStepped_within
    · rw [h]; exact evaluateLinear_within
  refine ⟨hwithin, ?_, ?_, ?_, ?_⟩
  · intro hrange
    obtain ⟨lo, hlo, hi, hhi, hle⟩ := hwithin
    exact ⟨(hrange lo hlo).1.trans hle.1, hle.2.trans (hrange hi hhi).2⟩
  · rcases hshape with h | h | h
    · simp only [evaluateCurveChecked, evaluateCurve, h, evaluateGraphChecked_eq]
    · simp only [evaluateCurveChecked, h]
    · simp only [evaluateCurveChecked, evaluateCurve, h, evaluateLinearChecked_eq]
  · intro hinc
    constructor
    · intro h p hp
      simpa only [evaluateCurve, h] using evaluateGraph_of_mem hinc hp
    · intro h p ps hpoints
      simpa only [evaluateCurve, h] using evaluateStepped_pointAt hinc hpoints
  · intro hrising t' htt
    unfold CurveConfig.WrittenRising at hrising
    rcases hshape with h | h | h
    · rw [h] at hrising
      simpa only [evaluateCurve, h] using evaluateGraph_mono hrising htt
    · rw [h] at hrising
      simpa only [evaluateCurve, h] using evaluateStepped_mono hrising htt
    · rw [h] at hrising
      simpa only [evaluateCurve, h] using evaluateLinear_mono hrising.2 htt

/-- A staircase of three points. -/
def staircase : CurveConfig ℚ := { CurveConfig.blank "stairs" .stepped with points := [⟨30, 20⟩, ⟨50, 40⟩, ⟨70, 90⟩] }

theorem evaluateCurve_shape_staircase :
    Within [20, 40, 90] (evaluateCurve staircase 60) ∧ evaluateCurve staircase 60 = 40 ∧
      evaluateCurve staircase 60 ≤ evaluateCurve staircase 80 := by
  obtain ⟨hwithin, -, -, hinc, hrising⟩ := evaluateCurve_shape staircase 60 (.inr (.inl rfl))
  refine ⟨hwithin, ?_, hrising ?_ 80 (by norm_num)⟩
  · rw [(hinc ?_).2 rfl ⟨30, 20⟩ [⟨50, 40⟩, ⟨70, 90⟩] rfl]
    · decide
    · change List.Pairwise _ _
      decide
  · change List.Pairwise _ _
    decide

end ControlOfc.Profile
