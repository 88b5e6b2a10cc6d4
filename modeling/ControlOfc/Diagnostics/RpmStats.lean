import ControlOfc.Diagnostics.Stats
import Mathlib.Algebra.Field.Rat
import Mathlib.Algebra.Order.Group.Abs
import Mathlib.Algebra.Order.Ring.Rat
import Mathlib.Tactic.Common
/-! # Statistics over a window (api/stats.rs:20-270, 454-473)

The figures are exact: a deviation is kept as its square, and so compared.

Main theorem `settledRpmStats_counts`.
-/
namespace ControlOfc.Diagnostics.Stats

/-! ## The verdicts -/

def stabilityStable : String := "stable"

def stabilityVariable : String := "variable"

def stabilityUnstable : String := "unstable"

def stabilityInsufficient : String := "insufficient_data"

def stabilityUnavailable : String := "unavailable"

def stabilityNotSettled : String := "not_settled"

/-- `STABILITY_MIN_SAMPLES` (constants.rs:722). -/
def stabilityMinSamples : Nat := 8

/-- `STABILITY_STABLE_MAX_CV_PCT` (constants.rs:727). -/
def stabilityStableMaxCvPct : ℚ := 3

/-- `STABILITY_VARIABLE_MAX_CV_PCT` (constants.rs:728). -/
def stabilityVariableMaxCvPct : ℚ := 10

/-- `STABILITY_OUTLIER_MODIFIED_Z` (constants.rs:747). -/
def stabilityOutlierModifiedZ : ℚ := 7 / 2

/-- `MAD_SCALE`. -/
def madScale : ℚ := 6745 / 10000

/-- `MEAN_AD_SCALE`. -/
def meanAdScale : ℚ := 1253314 / 1000000

/-- `RpmStats`, with `stddev` and `cv_pct` by their squares. -/
structure RpmStats where
  samples : Nat
  usable : Nat
  dropouts : Nat
  outliers : Nat
  mean : Option ℚ
  median : Option Nat
  min : Option Nat
  max : Option Nat
  variance : Option ℚ
  cvPctSq : Option ℚ
  verdict : String
  deriving DecidableEq, Repr

/-- `RpmStats::unavailable`. -/
def RpmStats.unavailable (samples dropouts : Nat) : RpmStats where
  samples := samples
  usable := 0
  dropouts := dropouts
  outliers := 0
  mean := none
  median := none
  min := none
  max := none
  variance := none
  cvPctSq := none
  verdict := stabilityUnavailable

/-- `classify_stability`. -/
def classifyStability (usable : Nat) (cvPctSq : Option ℚ) : String :=
  if usable = 0 then stabilityUnavailable
  else if usable < stabilityMinSamples then stabilityInsufficient
  else
    match cvPctSq with
    | none => stabilityStable
    | some cv =>
      if cv ≤ stabilityStableMaxCvPct ^ 2 then stabilityStable
      else if cv ≤ stabilityVariableMaxCvPct ^ 2 then stabilityVariable
      else stabilityUnstable

/-- `count_outliers`. -/
def countOutliers (values : List Nat) (median : Nat) : Nat :=
  if values.length < 3 then 0
  else
    let dev (v : Nat) : ℚ := |(v : ℚ) - median|
    let devs := (values.map dev).mergeSort (· ≤ ·)
    let n := devs.length
    let mad := if n % 2 = 1 then devs.getD (n / 2) 0 else (devs.getD (n / 2 - 1) 0 + devs.getD (n / 2) 0) / 2
    let meanAd := devs.sum / n
    if mad ≤ 0 ∧ meanAd ≤ 0 then 0
    else
      let denom := if 0 < mad then mad / madScale else meanAd * meanAdScale
      values.countP fun v => stabilityOutlierModifiedZ < dev v / denom

/-- `rpm_stats`. -/
def rpmStats (samples : List RpmSample) : RpmStats :=
  let values := samples.filterMap (·.rpm)
  let unreadable := samples.length - values.length
  let zeroDropouts := if values.any (0 < ·) then values.countP (· = 0) else 0
  let dropouts := unreadable + zeroDropouts
  if values = [] then .unavailable samples.length dropouts
  else
    let sorted := values.mergeSort (· ≤ ·)
    let median := medianOfSorted sorted
    let n : ℚ := values.length
    let mean : ℚ := (values.map fun v : Nat => (v : ℚ)).sum / n
    let variance := (values.map fun v : Nat => ((v : ℚ) - mean) ^ 2).sum / n
    let cvPctSq := if 0 < mean then some (variance / mean ^ 2 * 100 ^ 2) else none
    { samples := samples.length
      usable := values.length
      dropouts := dropouts
      outliers := countOutliers values median
      mean := some mean
      median := some median
      min := sorted.head?
      max := sorted.getLast?
      variance := some variance
      cvPctSq := cvPctSq
      verdict := classifyStability values.length cvPctSq }

/-- `settled_rpm_stats`: the figures from the settle point on, and where they open. -/
def settledRpmStats (samples : List RpmSample) (settledMs : Option Nat) : RpmStats × Nat :=
  match settledMs with
  | some t =>
    let whole := rpmStats samples
    ({ rpmStats (samples.filter (t ≤ ·.atMs)) with samples := whole.samples, dropouts := whole.dropouts }, t)
  | none =>
    let st := rpmStats samples
    if st.verdict ≠ stabilityUnavailable ∧ st.verdict ≠ stabilityInsufficient then
      ({ st with verdict := stabilityNotSettled }, 0)
    else (st, 0)

/-! ## The counts -/

section Counts

variable (samples : List RpmSample)

@[simp] theorem samples_rpmStats : (rpmStats samples).samples = samples.length := by
  unfold rpmStats
  dsimp only
  by_cases h : samples.filterMap (·.rpm) = []
  · rw [if_pos h]
    rfl
  · rw [if_neg h]

@[simp] theorem usable_rpmStats : (rpmStats samples).usable = samples.countP (·.rpm.isSome) := by
  have hlen : (samples.filterMap (·.rpm)).length = samples.countP (·.rpm.isSome) := List.length_filterMap_eq_countP
  unfold rpmStats
  dsimp only
  by_cases h : samples.filterMap (·.rpm) = []
  · rw [if_pos h, ← hlen, h]
    rfl
  · rw [if_neg h]
    exact hlen

theorem settledRpmStats_counts (settledMs : Option Nat) :
    (settledRpmStats samples settledMs).1.samples = samples.length ∧
      (settledRpmStats samples settledMs).1.dropouts = (rpmStats samples).dropouts ∧
      (settledRpmStats samples settledMs).1.usable =
        samples.countP (fun s => s.rpm.isSome && decide (∀ t, settledMs = some t → t ≤ s.atMs)) := by
  cases settledMs with
  | none =>
    unfold settledRpmStats
    dsimp only
    split_ifs <;> simp
  | some t =>
    refine ⟨samples_rpmStats samples, rfl, ?_⟩
    show (rpmStats (samples.filter (t ≤ ·.atMs))).usable = _
    rw [usable_rpmStats, List.countP_filter]
    simp

end Counts

end ControlOfc.Diagnostics.Stats
