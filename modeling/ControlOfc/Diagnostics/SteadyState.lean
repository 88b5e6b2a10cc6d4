import ControlOfc.Lib.WindowRuns
import Mathlib.Algebra.BigOperators.Group.List.Basic
import Mathlib.Algebra.Order.Ring.Rat
import Mathlib.Data.Rat.Floor
/-! # Steady state (api/stats.rs:714-977)

Windows are counted from the first sample. One is judged when a sample of another window arrives, and a hold is two
in a row that qualify. Arithmetic is exact: a variance stands for the standard deviation, against squared bounds.

The walk takes any change of window for the next one. Once the clock steps back it joins windows that are not in a
row, and calls them a hold.

Main theorem `steady_state_in_order`.
-/
namespace ControlOfc.Diagnostics.Stats
open WindowRuns

/-! ## Constants (constants.rs:956-978) -/

def steadyStateWindowS : Nat := 120

def steadyStateMaxSlopeCPerMin : ℚ := 1 / 10

def steadyStateMaxStddevC : ℚ := 1 / 2

def steadyStateHoldWindows : Nat := 2

def steadyStateMinObservationS : Nat := 300

/-- `f64::EPSILON`. -/
def f64Epsilon : ℚ := 1 / 4503599627370496

inductive SteadyVerdict
  | detected
  | notEstablished
  | insufficientData
  deriving DecidableEq, Repr

def SteadyVerdict.token : SteadyVerdict → String
  | .detected => "detected"
  | .notEstablished => "not_established"
  | .insufficientData => "insufficient_data"

inductive Confidence
  | high
  | medium
  | low
  deriving DecidableEq, Repr

def Confidence.token : Confidence → String
  | .high => "high"
  | .medium => "medium"
  | .low => "low"

structure TempSample where
  atMs : Nat
  tempC : ℚ
  deriving DecidableEq

structure SteadyState where
  verdict : SteadyVerdict
  startMs : Option Nat
  warmupMs : Option Nat
  slopeCPerMin : Option ℚ
  varianceC : Option ℚ
  meanC : Option ℚ
  peakC : Option ℚ
  confidence : Confidence
  criterion : String

/-- `{:.2}`, for hundredths. -/
def twoDecimals (q : ℚ) : String :=
  let n := (q * 100).floor.toNat
  toString (n / 100) ++ "." ++ toString (n % 100 / 10) ++ toString (n % 10)

def steadyStateCriterion : String :=
  "|slope| <= " ++ twoDecimals steadyStateMaxSlopeCPerMin ++ " °C/min and σ <= " ++ twoDecimals steadyStateMaxStddevC ++
    " °C, held over " ++ toString steadyStateHoldWindows ++ " consecutive " ++ toString steadyStateWindowS ++
    " s windows, after at least " ++ toString steadyStateMinObservationS ++ " s of samples"

/-! ## One window -/

def mean (xs : List ℚ) : ℚ := xs.sum / xs.length

/-- Least-squares slope in °C per minute, and the population variance. -/
def slopeAndSpread (samples : List TempSample) : Option ℚ × Option ℚ :=
  match samples with
  | [] => (none, none)
  | first :: rest =>
    let ys := (first :: rest).map (·.tempC)
    let variance := mean (ys.map fun y => (y - mean ys) ^ 2)
    if rest = [] then (none, some variance)
    else
      let xs := (first :: rest).map fun s => ((s.atMs : ℚ) - first.atMs) / 60000
      let sxx := (xs.map fun x => (x - mean xs) ^ 2).sum
      if sxx ≤ f64Epsilon then (none, some variance)
      else
        let sxy := ((xs.zip ys).map fun p => (p.1 - mean xs) * (p.2 - mean ys)).sum
        (some (sxy / sxx), some variance)

def windowQualifies (window : List TempSample) : Bool :=
  match slopeAndSpread window with
  | (some sl, some var) => |sl| ≤ steadyStateMaxSlopeCPerMin && var ≤ steadyStateMaxStddevC ^ 2
  | _ => false

/-! ## The walk -/

def windowMs : Nat := steadyStateWindowS * 1000

def windowOf (first : TempSample) (atMs : Nat) : Nat := (atMs - first.atMs) / windowMs

/-- Where the hold starts, and how many windows were judged. -/
def settledAt (first : TempSample) (samples : List TempSample) : Option Nat × Nat :=
  walk (windowOf first ·.atMs) windowQualifies (fun i => first.atMs + i * windowMs) steadyStateHoldWindows State.initial samples

def peakOf (samples : List TempSample) : Option ℚ :=
  samples.foldl (fun acc s => some (acc.elim s.tempC (max · s.tempC))) none

def unresolved (samples : List TempSample) (verdict : SteadyVerdict) : SteadyState where
  verdict := verdict
  startMs := none
  warmupMs := none
  slopeCPerMin := none
  varianceC := none
  meanC := none
  peakC := peakOf samples
  confidence := .low
  criterion := steadyStateCriterion

def settled (samples : List TempSample) (first last : TempSample) (startMs : Nat) : SteadyState :=
  let steady := samples.filter (startMs ≤ ·.atMs)
  let (slope, variance) := slopeAndSpread steady
  let longHeld := windowMs * steadyStateHoldWindows * 2 ≤ last.atMs - startMs
  let deepInside := slope.any (|·| ≤ steadyStateMaxSlopeCPerMin / 2) && variance.any (· ≤ (steadyStateMaxStddevC / 2) ^ 2)
  { verdict := .detected
    startMs := some startMs
    warmupMs := some (startMs - first.atMs)
    slopeCPerMin := slope
    varianceC := variance
    meanC := if steady = [] then none else some (mean (steady.map (·.tempC)))
    peakC := peakOf samples
    confidence := if longHeld ∧ deepInside then .high else if deepInside ∨ longHeld then .medium else .low
    criterion := steadyStateCriterion }

def steadyState (samples : List TempSample) : SteadyState :=
  match samples.head?, samples.getLast? with
  | some first, some last =>
    if (last.atMs - first.atMs) / 1000 < steadyStateMinObservationS then unresolved samples .insufficientData
    else
      match (settledAt first samples).1 with
      | none => unresolved samples .notEstablished
      | some startMs => settled samples first last startMs
  | _, _ => unresolved samples .insufficientData

/-- The windows one call judges. -/
def windowsJudged (samples : List TempSample) : Nat :=
  match samples.head?, samples.getLast? with
  | some first, some last =>
    if (last.atMs - first.atMs) / 1000 < steadyStateMinObservationS then 0 else (settledAt first samples).2
  | _, _ => 0

/-! ## The criterion -/

def firstMs (samples : List TempSample) : Nat := (samples.head?.map (·.atMs)).getD 0

def lastMs (samples : List TempSample) : Nat := (samples.getLast?.map (·.atMs)).getD 0

def SpansEnough (samples : List TempSample) : Prop := firstMs samples + steadyStateMinObservationS * 1000 ≤ lastMs samples

/-- The samples in `[f + k·W, f + (k + 1)·W)`. -/
def windowSamples (f : Nat) (samples : List TempSample) (k : Nat) : List TempSample :=
  samples.filter fun s => f + k * windowMs ≤ s.atMs ∧ s.atMs < f + (k + 1) * windowMs

/-- The windows from `k` on qualify, and there is a sample beyond them. -/
def HoldsFrom (samples : List TempSample) (k : Nat) : Prop :=
  (∀ j, k ≤ j → j < k + steadyStateHoldWindows → windowQualifies (windowSamples (firstMs samples) samples j)) ∧
    ∃ s ∈ samples, firstMs samples + (k + steadyStateHoldWindows) * windowMs ≤ s.atMs

/-- No sample is earlier than the first, and no sample goes back to an earlier window. -/
def InOrder (samples : List TempSample) : Prop :=
  (∀ s ∈ samples, firstMs samples ≤ s.atMs) ∧
    samples.Pairwise fun a b => (a.atMs - firstMs samples) / windowMs ≤ (b.atMs - firstMs samples) / windowMs

/-- In order to the end, or up to a hold that nothing goes back to. -/
def InOrderToHold (samples : List TempSample) : Prop :=
  ∃ pre post, samples = pre ++ post ∧ InOrder pre ∧
    (post = [] ∨ ∃ k, HoldsFrom pre k ∧ ∀ s ∈ post, firstMs pre + (k + steadyStateHoldWindows) * windowMs ≤ s.atMs)

variable {samples pre post : List TempSample} {first last : TempSample} {k start : Nat}

/-! ## What qualifies -/

theorem not_windowQualifies_nil : windowQualifies [] = false := rfl

/-- Samples of one instant have no slope. -/
theorem not_windowQualifies_of_one_instant {t : Nat} (h : ∀ s ∈ samples, s.atMs = t) : windowQualifies samples = false := by
  cases samples with
  | nil => rfl
  | cons first rest =>
    have hxs : (first :: rest).map (fun s => ((s.atMs : ℚ) - first.atMs) / 60000) =
        List.replicate (first :: rest).length 0 := by
      refine List.eq_replicate_iff.mpr ⟨List.length_map _, fun x hx => ?_⟩
      obtain ⟨s, hs, rfl⟩ := List.mem_map.mp hx
      rw [h s hs, h first List.mem_cons_self, sub_self, zero_div]
    have hmean (n : Nat) : mean (List.replicate n 0) = 0 := by
      unfold mean
      rw [List.sum_replicate, nsmul_zero, zero_div]
    have heps : (0 : ℚ) ≤ f64Epsilon := by decide +kernel
    unfold windowQualifies slopeAndSpread
    by_cases hrest : rest = []
    · simp only [hrest, if_true]
    · simp only [hrest, if_false, hxs, hmean, List.map_replicate, List.sum_replicate]
      rw [if_pos (by simpa using heps)]

theorem two_instants_of_windowQualifies (h : windowQualifies samples = true) :
    ∃ a ∈ samples, ∃ b ∈ samples, a.atMs ≠ b.atMs := by
  by_contra hone
  push Not at hone
  cases samples with
  | nil => cases h
  | cons first rest =>
    rw [not_windowQualifies_of_one_instant fun s hs => hone s hs first List.mem_cons_self] at h
    cases h

/-! ## The walk against the criterion -/

theorem windowMs_pos : 0 < windowMs := by decide

/-- What the walk settles on. -/
def settledStart (samples : List TempSample) : Option Nat :=
  samples.head?.bind fun first => (settledAt first samples).1

theorem spansEnough_iff (hfirst : samples.head? = some first) (hlast : samples.getLast? = some last) :
    SpansEnough samples ↔ ¬(last.atMs - first.atMs) / 1000 < steadyStateMinObservationS := by
  unfold SpansEnough firstMs lastMs steadyStateMinObservationS
  rw [hfirst, hlast, Option.map_some, Option.map_some, Option.getD_some, Option.getD_some]
  omega

/-- The three answers. -/
theorem steadyState_cases (samples : List TempSample) :
    ¬SpansEnough samples ∧ steadyState samples = unresolved samples .insufficientData ∨
    SpansEnough samples ∧ settledStart samples = none ∧ steadyState samples = unresolved samples .notEstablished ∨
    ∃ first last start, SpansEnough samples ∧ settledStart samples = some start ∧
      steadyState samples = settled samples first last start := by
  cases hfirst : samples.head? with
  | none =>
    obtain rfl := List.head?_eq_none_iff.mp hfirst
    exact Or.inl ⟨by unfold SpansEnough; decide, rfl⟩
  | some first =>
    obtain ⟨last, hlast⟩ : ∃ last, samples.getLast? = some last := by
      cases samples with
      | nil => cases hfirst
      | cons a rest => exact ⟨_, List.getLast?_cons⟩
    have hspan := spansEnough_iff hfirst hlast
    have hstart : settledStart samples = (settledAt first samples).1 := by
      unfold settledStart
      rw [hfirst, Option.bind_some]
    unfold steadyState
    rw [hfirst, hlast, hstart, hspan]
    dsimp only
    by_cases hshort : (last.atMs - first.atMs) / 1000 < steadyStateMinObservationS
    · rw [if_pos hshort]
      exact Or.inl ⟨not_not.mpr hshort, rfl⟩
    · rw [if_neg hshort]
      cases (settledAt first samples).1 with
      | none => exact Or.inr (Or.inl ⟨hshort, rfl, rfl⟩)
      | some start => exact Or.inr (Or.inr ⟨first, last, start, hshort, rfl, rfl⟩)

theorem startMs_eq_some_iff : (steadyState samples).startMs = some start ↔
    SpansEnough samples ∧ settledStart samples = some start := by
  obtain ⟨hspan, heq⟩ | ⟨hspan, hstart, heq⟩ | ⟨first, last, start', hspan, hstart, heq⟩ := steadyState_cases samples
  · rw [heq]
    exact ⟨nofun, fun h => absurd h.1 hspan⟩
  · rw [heq, hstart]
    exact ⟨nofun, fun h => nomatch h.2⟩
  · rw [heq, hstart]
    exact ⟨fun h => ⟨hspan, h⟩, And.right⟩

theorem detected_iff : (steadyState samples).verdict = .detected ↔ ∃ start, (steadyState samples).startMs = some start := by
  obtain ⟨hspan, heq⟩ | ⟨hspan, hstart, heq⟩ | ⟨first, last, start, hspan, hstart, heq⟩ := steadyState_cases samples
  · rw [heq]
    exact ⟨nofun, nofun⟩
  · rw [heq]
    exact ⟨nofun, nofun⟩
  · rw [heq]
    exact ⟨fun _ => ⟨start, rfl⟩, fun _ => rfl⟩

theorem windowSamples_eq (hle : ∀ s ∈ samples, first.atMs ≤ s.atMs) :
    windowSamples first.atMs samples k = WindowRuns.windowAt (windowOf first ·.atMs) samples k := by
  refine List.filter_congr fun s hs => decide_eq_decide.mpr ?_
  have hge := hle s hs
  have hlow := Nat.le_div_iff_mul_le (x := k) (y := s.atMs - first.atMs) windowMs_pos
  have hhigh := Nat.div_lt_iff_lt_mul (x := s.atMs - first.atMs) (y := k + 1) windowMs_pos
  unfold windowOf
  dsimp only
  omega

theorem settledStart_finds_of_inOrder (h : InOrder samples) :
    Finds (fun s => (s.atMs - firstMs samples) / windowMs) windowQualifies (fun i => firstMs samples + i * windowMs)
      steadyStateHoldWindows samples (settledStart samples) := by
  cases samples with
  | nil => exact Or.inr ⟨rfl, fun k hk => nomatch hk.2⟩
  | cons first rest => exact walk_finds not_windowQualifies_nil (by decide) h.2

theorem holdsFrom_iff (hle : ∀ s ∈ samples, firstMs samples ≤ s.atMs) : HoldsFrom samples k ↔
    HoldAt (fun s => (s.atMs - firstMs samples) / windowMs) windowQualifies steadyStateHoldWindows samples k := by
  have hwin (j : Nat) : windowSamples (firstMs samples) samples j =
      WindowRuns.windowAt (fun s => (s.atMs - firstMs samples) / windowMs) samples j :=
    @windowSamples_eq samples ⟨firstMs samples, 0⟩ j hle
  refine and_congr (forall_congr' fun j => by rw [hwin]) (exists_congr fun s => and_congr_right fun hs => ?_)
  have hge := hle s hs
  rw [Nat.le_div_iff_mul_le windowMs_pos]
  omega

/-- The walk settles where the first hold starts. -/
def SettlesFirst (samples : List TempSample) : Prop :=
  (∃ k, settledStart samples = some (firstMs samples + k * windowMs) ∧ IsLeast {k | HoldsFrom samples k} k) ∨
    settledStart samples = none ∧ ∀ k, ¬HoldsFrom samples k

theorem InOrder.settlesFirst (h : InOrder samples) : SettlesFirst samples := by
  have hholds : {k | HoldsFrom samples k} = {k | HoldAt (fun s => (s.atMs - firstMs samples) / windowMs) windowQualifies
      steadyStateHoldWindows samples k} := Set.ext fun k => holdsFrom_iff h.1
  unfold SettlesFirst
  rw [hholds]
  rcases settledStart_finds_of_inOrder h with ⟨k, hk, hleast⟩ | ⟨hnone, hno⟩
  · exact Or.inl ⟨k, hk, hleast⟩
  · exact Or.inr ⟨hnone, fun k hk => hno k ((holdsFrom_iff h.1).mp hk)⟩

/-! ## Later samples -/

theorem firstMs_append (hne : pre ≠ []) (post : List TempSample) : firstMs (pre ++ post) = firstMs pre := by
  unfold firstMs
  rw [List.head?_append_of_ne_nil _ hne]

theorem settledStart_append (h : settledStart pre = some start) (post : List TempSample) :
    settledStart (pre ++ post) = some start := by
  cases pre with
  | nil => cases h
  | cons first rest => exact walk_append h post

theorem windowSamples_append {f j : Nat} (hpost : ∀ s ∈ post, f + (j + 1) * windowMs ≤ s.atMs) :
    windowSamples f (pre ++ post) j = windowSamples f pre j := by
  unfold windowSamples
  have hnil : post.filter (fun s => f + j * windowMs ≤ s.atMs ∧ s.atMs < f + (j + 1) * windowMs) = [] :=
    List.filter_eq_nil_iff.mpr fun s hs => by simpa using fun _ => hpost s hs
  rw [List.filter_append, hnil, List.append_nil]

theorem HoldsFrom.ne_nil (h : HoldsFrom samples k) : samples ≠ [] := by
  obtain ⟨s, hs, -⟩ := h.2
  exact List.ne_nil_of_mem hs

/-- Samples beyond a hold change neither it nor an earlier one. -/
theorem HoldsFrom.append_iff (h : HoldsFrom pre k)
    (hpost : ∀ s ∈ post, firstMs pre + (k + steadyStateHoldWindows) * windowMs ≤ s.atMs) {m : Nat} (hm : m ≤ k) :
    HoldsFrom (pre ++ post) m ↔ HoldsFrom pre m := by
  have hbeyond {n : Nat} (hn : n ≤ k + steadyStateHoldWindows) :
      firstMs pre + n * windowMs ≤ firstMs pre + (k + steadyStateHoldWindows) * windowMs :=
    Nat.add_le_add_left (Nat.mul_le_mul_right _ hn) _
  obtain ⟨t, ht, hbeyondt⟩ := h.2
  unfold HoldsFrom
  rw [firstMs_append h.ne_nil]
  refine and_congr (forall_congr' fun j => forall_congr' fun _ => forall_congr' fun hj => ?_) ⟨fun _ => ?_, fun _ => ?_⟩
  · rw [windowSamples_append fun s hs => Nat.le_trans (hbeyond (by omega)) (hpost s hs)]
  · exact ⟨t, ht, Nat.le_trans (hbeyond (by omega)) hbeyondt⟩
  · exact ⟨t, List.mem_append_left post ht, Nat.le_trans (hbeyond (by omega)) hbeyondt⟩

theorem InOrderToHold.settlesFirst (h : InOrderToHold samples) : SettlesFirst samples := by
  obtain ⟨pre, post, rfl, hpre, rfl | ⟨k, hk, hpost⟩⟩ := h
  · rw [List.append_nil]
    exact hpre.settlesFirst
  · rcases hpre.settlesFirst with ⟨m, hm, hleast⟩ | ⟨-, hno⟩
    · have hmk : m ≤ k := hleast.2 hk
      refine Or.inl ⟨m, ?_, (hk.append_iff hpost hmk).mpr hleast.1, fun n hn => ?_⟩
      · rw [firstMs_append hk.ne_nil]
        exact settledStart_append hm post
      · by_contra hlt
        exact hlt (hleast.2 ((hk.append_iff hpost (by omega)).mp hn))
    · exact absurd hk (hno k)

theorem SpansEnough.append (h : SpansEnough samples) {more : List TempSample}
    (hmore : ∀ s ∈ more, ∀ t ∈ samples, t.atMs < s.atMs) : SpansEnough (samples ++ more) := by
  have hne : samples ≠ [] := by
    rintro rfl
    exact absurd h (by unfold SpansEnough; decide)
  have hlast : lastMs samples ≤ lastMs (samples ++ more) := by
    unfold lastMs
    cases hm : more.getLast? with
    | none => rw [List.getLast?_append, hm, Option.none_or]
    | some s =>
      rw [List.getLast?_append, hm, Option.some_or, List.getLast?_eq_some_getLast hne]
      exact Nat.le_of_lt (hmore s (List.mem_of_getLast? hm) _ (List.getLast_mem hne))
  unfold SpansEnough at h ⊢
  rw [firstMs_append hne]
  exact Nat.le_trans h hlast

theorem windowsJudged_le (samples : List TempSample) : windowsJudged samples ≤ samples.length := by
  unfold windowsJudged
  split
  · split_ifs
    · exact Nat.zero_le _
    · exact Nat.le_trans (walk_judged_le ..) (by rw [State.initial, Nat.zero_add])
  · exact Nat.zero_le _

/-- A sample a minute at 50 °C. -/
def flat : List TempSample := [⟨0, 50⟩, ⟨60000, 50⟩, ⟨120000, 50⟩, ⟨180000, 50⟩, ⟨240000, 50⟩, ⟨300000, 50⟩]

theorem flat_inOrder : InOrderToHold flat :=
  ⟨flat, [], rfl, by unfold InOrder; decide, Or.inl rfl⟩

/-- Six samples at 50 °C, in windows 0, 3, 3, 2, 2 and 3. -/
def steppedBack : List TempSample := [⟨0, 50⟩, ⟨360000, 50⟩, ⟨400000, 50⟩, ⟨250000, 50⟩, ⟨300000, 50⟩, ⟨370000, 50⟩]

end ControlOfc.Diagnostics.Stats
