import ControlOfc.Diagnostics.RpmStats
import Mathlib.Data.List.Chain
import Mathlib.Data.List.Induction
/-! # Settling on register updates (api/stats.rs:283-473)

A tach register refreshes slower than it is sampled. What is judged is the list of its updates, so a sample that shows
what the register already showed changes no result, and samples that come later change no settle.

Main theorem `settling_on_updates`.
-/
namespace ControlOfc.Diagnostics.Stats

/-! ## Updates -/

/-- What the register showed last: the last readable value, or the reference before there is one. -/
def held (reference : Option Nat) (before : List RpmSample) : Option Nat :=
  ((usableOf before).getLast?.map (·.2)).or reference

/-- A sample that says nothing new. -/
def Stutters (reference : Option Nat) (before : List RpmSample) (x : RpmSample) : Prop :=
  ∀ v, x.rpm = some v → held reference before = some v

/-- A sample that shows another value than was held. -/
def Updates (reference : Option Nat) (before : List RpmSample) (x : RpmSample) : Prop :=
  ∃ v p, x.rpm = some v ∧ held reference before = some p ∧ v ≠ p

variable {reference : Option Nat} {samples pre post : List RpmSample} {x : RpmSample}

theorem usableOf_append (l r : List RpmSample) : usableOf (l ++ r) = usableOf l ++ usableOf r :=
  List.filterMap_append

theorem go_append (prev : Nat) (l r : List (Nat × Nat)) : registerUpdates.go prev (l ++ r) =
    registerUpdates.go prev l ++ registerUpdates.go ((l.getLast?.map (·.2)).getD prev) r := by
  induction l generalizing prev with
  | nil => rfl
  | cons u l ih =>
    have hlast : (((u :: l).getLast?.map (·.2)).getD prev) = (l.getLast?.map (·.2)).getD u.2 := by
      cases h : l.getLast? <;> simp [List.getLast?_cons, h]
    obtain ⟨at_, v⟩ := u
    rw [hlast, List.cons_append, registerUpdates.go, registerUpdates.go]
    split_ifs with hv
    · rw [ih, List.cons_append]
    · obtain rfl := not_not.mp hv
      exact ih v

/-- Without a reference the first reading is one. -/
theorem registerUpdates_eq (usable : List (Nat × Nat)) (reference : Option Nat) : registerUpdates usable reference =
    match reference.or (usable.head?.map (·.2)) with
    | none => []
    | some prev => registerUpdates.go prev usable := by
  cases reference with
  | some r => rfl
  | none =>
    cases usable with
    | nil => rfl
    | cons first rest => simp [registerUpdates, registerUpdates.go]

theorem registerUpdates_append (l r : List (Nat × Nat)) (reference : Option Nat) :
    registerUpdates (l ++ r) reference =
      registerUpdates l reference ++ registerUpdates r ((l.getLast?.map (·.2)).or reference) := by
  cases l with
  | nil => cases reference <;> rfl
  | cons u l =>
    obtain ⟨last, hlast⟩ : ∃ last, (u :: l).getLast? = some last := ⟨_, List.getLast?_cons⟩
    have hgo (prev : Nat) := go_append prev (u :: l) r
    rw [hlast] at hgo
    cases reference with
    | none => simpa [registerUpdates_eq, hlast] using hgo u.2
    | some p => simpa [registerUpdates_eq, hlast] using hgo p

/-- The updates of a window, in order. -/
def updatesOf (samples : List RpmSample) (reference : Option Nat) : List (Nat × Nat) :=
  registerUpdates (usableOf samples) reference

theorem updatesOf_append (l r : List RpmSample) : updatesOf (l ++ r) reference =
    updatesOf l reference ++ updatesOf r (held reference l) := by
  rw [updatesOf, usableOf_append, registerUpdates_append]
  rfl

theorem held_append (l r : List RpmSample) : held reference (l ++ r) = held (held reference l) r := by
  unfold held
  rw [usableOf_append, List.getLast?_append]
  cases (usableOf r).getLast? <;> rfl

theorem updatesOf_single (reference : Option Nat) (x : RpmSample) : updatesOf [x] reference =
    match reference, x.rpm with
    | some p, some v => if v ≠ p then [(x.atMs, v)] else []
    | _, _ => [] := by
  cases reference <;> cases h : x.rpm <;> simp [updatesOf, usableOf, registerUpdates, registerUpdates.go, h]

theorem held_single (reference : Option Nat) (x : RpmSample) : held reference [x] = x.rpm.or reference := by
  cases h : x.rpm <;> simp [held, usableOf, h]

theorem updatesOf_stutter (h : Stutters reference pre x) :
    updatesOf (pre ++ x :: post) reference = updatesOf (pre ++ post) reference := by
  have hnone : updatesOf [x] (held reference pre) = [] := by
    rw [updatesOf_single]
    cases hx : x.rpm with
    | none => cases held reference pre <;> rfl
    | some v => simp [h v hx]
  have hheld : held (held reference pre) [x] = held reference pre := by
    rw [held_single]
    cases hx : x.rpm with
    | none => rfl
    | some v => rw [h v hx]; rfl
  rw [← List.singleton_append, updatesOf_append, updatesOf_append, hnone, hheld, updatesOf_append, List.nil_append]

/-- Every update is a sample's. -/
theorem mem_updatesOf {u : Nat × Nat} (h : u ∈ updatesOf samples reference) :
    ∃ pre x post, samples = pre ++ x :: post ∧ Updates reference pre x ∧ x.atMs = u.1 ∧ x.rpm = some u.2 := by
  induction samples using List.reverseRecOn with
  | nil => cases reference <;> cases h
  | append_singleton front x ih =>
    rw [updatesOf_append] at h
    rcases List.mem_append.mp h with h | h
    · obtain ⟨pre, y, post, rfl, hy, hu⟩ := ih h
      exact ⟨pre, y, post ++ [x], by simp, hy, hu⟩
    · rw [updatesOf_single] at h
      cases hheld : held reference front with
      | none => simp [hheld] at h
      | some p =>
        cases hx : x.rpm with
        | none => simp [hheld, hx] at h
        | some v =>
          rw [hheld, hx] at h
          dsimp only at h
          split_ifs at h with hv
          · obtain rfl := List.mem_singleton.mp h
            exact ⟨front, x, [], by simp, ⟨v, p, hx, hheld, hv⟩, rfl, hx⟩
          · cases h

/-! ## The window that settles -/

/-- The steps of a list of readings all go one way. -/
def OneWay (values : List Nat) : Prop := values.IsChain (· < ·) ∨ values.IsChain (· > ·)

/-- Readings within 5 % of their median that do not move one way by more than 2.5 % of it. -/
def Steady (window : List (Nat × Nat)) : Prop :=
  let med := medianOfSorted ((window.map (·.2)).mergeSort (· ≤ ·))
  (∀ u ∈ window, 100 * (max u.2 med - min u.2 med) ≤ 5 * med) ∧
    ∀ first last, window.head? = some first → window.getLast? = some last → OneWay (window.map (·.2)) →
      1000 * (max first.2 last.2 - min first.2 last.2) ≤ 25 * med

theorem zip_tail_all {p : Nat × Nat → Bool} {r : Nat → Nat → Prop} (hr : ∀ a b, p (a, b) = true ↔ r a b)
    (values : List Nat) : (values.zip values.tail).all p = true ↔ values.IsChain r := by
  induction values with
  | nil => simp
  | cons a values ih =>
    cases values with
    | nil => simp
    | cons b values =>
      rw [List.isChain_cons_cons, ← ih, ← hr]
      simp

theorem settledWindow_iff (window : List (Nat × Nat)) : settledWindow window = true ↔ Steady window := by
  unfold settledWindow Steady
  dsimp only
  generalize medianOfSorted ((window.map (·.2)).mergeSort (· ≤ ·)) = med
  rw [Bool.and_eq_true, List.all_eq_true, Bool.not_eq_true', Bool.eq_false_iff]
  refine and_congr (forall₂_congr fun u _ => ?_) ?_
  · rw [decide_eq_true_iff]
    omega
  · unfold isRamp
    cases hfirst : window.head? with
    | none => simp
    | some first =>
      cases hlast : window.getLast? with
      | none => simp
      | some last =>
        dsimp only
        rw [Ne, Bool.and_eq_true, Bool.or_eq_true, zip_tail_all (r := (· < ·)) (by simp),
          zip_tail_all (r := (· > ·)) (by simp), decide_eq_true_iff, not_and, not_lt]
        constructor
        · rintro h _ _ ⟨⟩ ⟨⟩ hone
          have := h hone
          omega
        · intro h hone
          have := h first last rfl rfl hone
          omega

/-- The updates from one on that have to hold. -/
def windowAt (updates : List (Nat × Nat)) (start : Nat) : List (Nat × Nat) := (updates.drop start).take settlingHoldSamples

/-- The update at `start` is the first to begin a steady run of updates. -/
def SettlesAt (updates : List (Nat × Nat)) (start : Nat) : Prop :=
  start + settlingHoldSamples ≤ updates.length ∧ Steady (windowAt updates start) ∧
    ∀ j < start, ¬ Steady (windowAt updates j)

theorem settledOnUpdates_iff {t : Nat} : settledOnUpdates samples reference = some t ↔
    ∃ start v, (updatesOf samples reference)[start]? = some (t, v) ∧ SettlesAt (updatesOf samples reference) start := by
  have hdef : settledOnUpdates samples reference =
      if (updatesOf samples reference).length < settlingHoldSamples then none
      else (((List.range ((updatesOf samples reference).length - settlingHoldSamples + 1)).map
        (windowAt (updatesOf samples reference))).find? settledWindow).bind fun window => window.head?.map (·.1) := rfl
  rw [hdef]
  generalize updatesOf samples reference = updates
  have hhead (start : Nat) : (windowAt updates start).head? = updates[start]? := by
    simp [windowAt, settlingHoldSamples, List.head?_take]
  split_ifs with hlen
  · simp only [false_iff]
    rintro ⟨start, v, -, h, -⟩
    omega
  · rw [List.find?_map, Option.bind_eq_some_iff]
    simp only [Option.map_eq_some_iff, List.find?_range_eq_some, List.mem_range, Function.comp, Bool.not_eq_true',
      Bool.eq_false_iff, Ne, settledWindow_iff]
    constructor
    · rintro ⟨-, ⟨start, ⟨hsteady, hlt, hfirst⟩, rfl⟩, ⟨t', v⟩, hu, rfl⟩
      exact ⟨start, v, hhead start ▸ hu, by omega, hsteady, hfirst⟩
    · rintro ⟨start, v, hu, hle, hsteady, hfirst⟩
      exact ⟨_, ⟨start, ⟨hsteady, by omega, hfirst⟩, rfl⟩, (t, v), (hhead start).trans hu, rfl⟩

theorem windowAt_append {updates : List (Nat × Nat)} {start : Nat} (h : start + settlingHoldSamples ≤ updates.length)
    (later : List (Nat × Nat)) : windowAt (updates ++ later) start = windowAt updates start := by
  unfold windowAt
  rw [List.drop_append_of_le_length (by omega), List.take_append_of_le_length]
  rw [List.length_drop]
  omega

/-- A settle once proved stands. -/
theorem settledOnUpdates_append {t : Nat} (more : List RpmSample) (h : settledOnUpdates samples reference = some t) :
    settledOnUpdates (samples ++ more) reference = some t := by
  obtain ⟨start, v, hu, hle, hsteady, hfirst⟩ := settledOnUpdates_iff.mp h
  rw [settledOnUpdates_iff, updatesOf_append]
  refine ⟨start, v, ?_, ?_, ?_, fun j hj => ?_⟩
  · rw [List.getElem?_append_left (by have : 0 < settlingHoldSamples := by decide
                                      omega), hu]
  · rw [List.length_append]
    omega
  · rwa [windowAt_append hle]
  · rw [windowAt_append (by omega)]
    exact hfirst j hj

theorem length_go_le (prev : Nat) (l : List (Nat × Nat)) : (registerUpdates.go prev l).length ≤ l.length := by
  induction l generalizing prev with
  | nil => exact le_rfl
  | cons u l ih =>
    obtain ⟨at_, v⟩ := u
    rw [registerUpdates.go]
    split_ifs
    · exact Nat.succ_le_succ (ih v)
    · exact (ih prev).trans (Nat.le_succ _)

theorem length_updatesOf_le : (updatesOf samples reference).length ≤ (usableOf samples).length := by
  rw [updatesOf, registerUpdates_eq]
  split
  · exact Nat.zero_le _
  · exact length_go_le _ _

/-- Enough readings, all the same. -/
def Constant (samples : List RpmSample) : Prop :=
  settlingHoldSamples ≤ (usableOf samples).length ∧ ∀ u ∈ usableOf samples, ∀ w ∈ usableOf samples, u.2 = w.2

theorem settlingMs_constant (h : Constant samples) : settlingMs samples reference = (usableOf samples).head?.map (·.1) := by
  obtain ⟨hlen, hsame⟩ := h
  unfold settlingMs
  dsimp only
  rw [if_neg (by omega)]
  cases hu : usableOf samples with
  | nil => rfl
  | cons first rest =>
    rw [hu] at hsame
    have hall : rest.all (·.2 = first.2) = true := List.all_eq_true.mpr fun u hrest =>
      decide_eq_true (hsame u (List.mem_cons_of_mem _ hrest) first List.mem_cons_self)
    dsimp only
    rw [if_pos hall]
    rfl

theorem settlingMs_of_not_constant (h : ¬ Constant samples) :
    settlingMs samples reference = settledOnUpdates samples reference := by
  unfold settlingMs
  dsimp only
  split_ifs with hlen
  · have hle : (updatesOf samples reference).length < settlingHoldSamples := length_updatesOf_le.trans_lt hlen
    exact (if_pos hle).symm
  · cases hu : usableOf samples with
    | nil => exact absurd hlen (by rw [hu]; decide)
    | cons first rest =>
      dsimp only
      split_ifs with hall
      · refine absurd ⟨by omega, fun u hmem w hmem' => ?_⟩ h
        have hfirst {u : Nat × Nat} (hmem : u ∈ usableOf samples) : u.2 = first.2 := by
          rw [hu] at hmem
          rcases List.mem_cons.mp hmem with rfl | hmem
          · rfl
          · exact of_decide_eq_true (List.all_eq_true.mp hall u hmem)
        exact (hfirst hmem).trans (hfirst hmem').symm
      · rfl

/-! ## The refresh interval -/

/-- A window as `updateIntervalMs` reads it. -/
def timed (samples : List RpmSample) : List (Nat × Option Nat) := samples.map fun s => (s.atMs, s.rpm)

theorem changeGaps_stutter {lastValue prevChangeAt : Option Nat} (h : Stutters lastValue pre x) :
    changeGaps lastValue prevChangeAt (timed (pre ++ x :: post)) = changeGaps lastValue prevChangeAt (timed (pre ++ post)) := by
  induction pre generalizing lastValue prevChangeAt with
  | nil =>
    show changeGaps lastValue prevChangeAt ((x.atMs, x.rpm) :: timed post) = changeGaps lastValue prevChangeAt (timed post)
    cases hx : x.rpm with
    | none => rfl
    | some v =>
      obtain rfl : lastValue = some v := h v hx
      simp [changeGaps]
  | cons s pre ih =>
    rw [Stutters, ← List.singleton_append, held_append, held_single] at h
    show changeGaps lastValue prevChangeAt ((s.atMs, s.rpm) :: timed (pre ++ x :: post)) =
      changeGaps lastValue prevChangeAt ((s.atMs, s.rpm) :: timed (pre ++ post))
    cases hs : s.rpm with
    | none =>
      rw [hs] at h
      exact ih h
    | some w =>
      rw [hs] at h
      cases lastValue with
      | none => exact ih h
      | some p =>
        unfold changeGaps
        dsimp only
        split_ifs with hne
        · exact congrArg _ (ih h)
        · obtain rfl := not_not.mp hne
          exact ih h

theorem updateIntervalMs_stutter (h : Stutters none pre x) :
    updateIntervalMs (timed (pre ++ x :: post)) = updateIntervalMs (timed (pre ++ post)) := by
  unfold updateIntervalMs
  rw [changeGaps_stutter h]

/-! ## Settling -/

/-- Both are judged on updates: a sample that says nothing new changes neither, a settle is the first update that begins
a steady run of them and stands, and the closed window differs from the open one on constant readings alone. -/
theorem settling_on_updates (reference : Option Nat) :
    (∀ pre x post, Stutters reference pre x →
      settledOnUpdates (pre ++ x :: post) reference = settledOnUpdates (pre ++ post) reference) ∧
    (∀ pre x post, Stutters none pre x → updateIntervalMs (timed (pre ++ x :: post)) = updateIntervalMs (timed (pre ++ post))) ∧
    ∀ samples,
      (∀ t more, settledOnUpdates samples reference = some t → settledOnUpdates (samples ++ more) reference = some t) ∧
      (∀ t, settledOnUpdates samples reference = some t ↔
        ∃ start v, (updatesOf samples reference)[start]? = some (t, v) ∧ SettlesAt (updatesOf samples reference) start) ∧
      (∀ u ∈ updatesOf samples reference, ∃ pre x post, samples = pre ++ x :: post ∧ Updates reference pre x ∧
        x.atMs = u.1 ∧ x.rpm = some u.2) ∧
      (¬ Constant samples → settlingMs samples reference = settledOnUpdates samples reference) ∧
      (Constant samples → settlingMs samples reference = (usableOf samples).head?.map (·.1)) ∧
      ∀ settledMs, (settledRpmStats samples settledMs).1.samples = samples.length ∧
        (settledRpmStats samples settledMs).1.dropouts = (rpmStats samples).dropouts ∧
        (settledRpmStats samples settledMs).1.usable ≤ (usableOf samples).length ∧
        (usableOf samples).length ≤ samples.length := by
  refine ⟨fun pre x post h => ?_, fun pre x post h => updateIntervalMs_stutter h, fun samples => ⟨fun t more h =>
    settledOnUpdates_append more h, fun t => settledOnUpdates_iff, fun u hu => mem_updatesOf hu,
    settlingMs_of_not_constant, settlingMs_constant, fun settledMs => ?_⟩⟩
  · have hsame : updatesOf (pre ++ x :: post) reference = updatesOf (pre ++ post) reference := updatesOf_stutter h
    unfold settledOnUpdates
    rw [← updatesOf, ← updatesOf, hsame]
  · obtain ⟨hsamples, hdropouts, husable⟩ := settledRpmStats_counts samples settledMs
    have hlen : (usableOf samples).length = samples.countP (·.rpm.isSome) := by
      unfold usableOf
      rw [List.length_filterMap_eq_countP]
      simp
    refine ⟨hsamples, hdropouts, ?_, List.length_filterMap_le _ _⟩
    rw [husable, hlen]
    exact List.countP_mono_left fun s _ hs => (Bool.and_eq_true_iff.mp hs).1

/-- A reading before the first is a reference only to the settle: to the refresh interval it is the first reading. A zero
reading of a fan that turns is a dropout that still counts as readable. -/
theorem reference_is_no_reading :
    held (some 5) [] = some 5 ∧
      updateIntervalMs (timed ([] ++ ⟨0, some 5⟩ :: [⟨1, some 10⟩, ⟨3, some 20⟩])) ≠
        updateIntervalMs (timed ([] ++ [⟨1, some 10⟩, ⟨3, some 20⟩])) ∧
      (settledRpmStats [⟨0, some 10⟩, ⟨1, some 0⟩] none).1.samples -
        (settledRpmStats [⟨0, some 10⟩, ⟨1, some 0⟩] none).1.dropouts <
          (settledRpmStats [⟨0, some 10⟩, ⟨1, some 0⟩] none).1.usable := by
  refine ⟨rfl, by simp [updateIntervalMs, timed, changeGaps, Option.filter], ?_⟩
  obtain ⟨hsamples, hdropouts, husable⟩ := settledRpmStats_counts [⟨0, some 10⟩, ⟨1, some 0⟩] none
  have hzero : (rpmStats [⟨0, some 10⟩, ⟨1, some 0⟩]).dropouts = 1 := by simp [rpmStats]
  rw [hsamples, hdropouts, husable, hzero]
  simp

end ControlOfc.Diagnostics.Stats
