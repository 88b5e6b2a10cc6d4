import ControlOfc.Polling.Loop
/-! # How old a reading judged fresh can be

`hottest_reading_where` judges a reading by its stamp. A read that outlived the loop's wait is stamped when
it is joined, so its readings pass for fresh until the budget has run out once more: exactly those
readings are acted on over age (`fresh_inAge_iff`).
-/
namespace ControlOfc.Polling
open Thermal

/-! ## The fold -/

theorem hottest_foldl {l : List CachedSensorReading} {v₀ v : Ieee}
    (h : l.foldl (fun target s => some (target.elim s.valueC fun v => v.max s.valueC)) (some v₀) = some v) :
    v₀.max v = v ∧ (v₀ = v ∨ ∃ r ∈ l, r.valueC = v) ∧ ∀ r ∈ l, r.valueC.max v = v := by
  induction l generalizing v₀ with
  | nil =>
    obtain rfl := Option.some.inj h
    exact ⟨v₀.max_self, .inl rfl, nofun⟩
  | cons r l ih =>
    obtain ⟨hmax, hmem, hall⟩ := ih h
    have hr : r.valueC.max v = v := Ieee.max_eq_right_trans (Ieee.max_max_right v₀ r.valueC) hmax
    refine ⟨Ieee.max_eq_right_trans (Ieee.max_max_left v₀ r.valueC) hmax, ?_, ?_⟩
    · rcases hmem with hv | ⟨r', hr', hv⟩
      · rcases Ieee.max_cases v₀ r.valueC with hc | hc
        · exact .inl (hc.symm.trans hv)
        · exact .inr ⟨r, List.mem_cons_self, hc.symm.trans hv⟩
      · exact .inr ⟨r', List.mem_cons_of_mem _ hr', hv⟩
    · intro r' hr'
      rcases List.mem_cons.mp hr' with rfl | hr'
      · exact hr
      · exact hall r' hr'

theorem hottest_eq_none {l : List CachedSensorReading} : hottest l = none ↔ l = [] := by
  cases l with
  | nil => simp [hottest]
  | cons r l =>
    suffices h : ∀ v, (l.foldl (fun target s => some (target.elim s.valueC fun v => v.max s.valueC)) (some v)).isSome by
      simp [hottest, Option.isSome_iff_ne_none.mp (h r.valueC)]
    induction l with
    | nil => simp
    | cons r' l ih => exact fun v => ih (v.max r'.valueC)

/-- The maximum is one of the readings, and no reading is hotter. -/
theorem hottest_spec {l : List CachedSensorReading} {v : Ieee} (h : hottest l = some v) :
    (∃ r ∈ l, r.valueC = v) ∧ ∀ r ∈ l, r.valueC.max v = v := by
  cases l with
  | nil => cases h
  | cons r l =>
    obtain ⟨hmax, hmem, hall⟩ := hottest_foldl h
    constructor
    · rcases hmem with hv | ⟨r', hr', hv⟩
      · exact ⟨r, List.mem_cons_self, hv⟩
      · exact ⟨r', List.mem_cons_of_mem _ hr', hv⟩
    · intro r' hr'
      rcases List.mem_cons.mp hr' with rfl | hr'
      · exact hmax
      · exact hall r' hr'

section Reduction

variable {sensors : List CachedSensorReading} {now staleAfter : Nat} {keep : CachedSensorReading → Bool}

theorem isFresh_iff {r : CachedSensorReading} : r.isFresh now staleAfter = true ↔ now ≤ r.updatedAt + staleAfter := by
  rw [CachedSensorReading.isFresh, decide_eq_true_eq]
  omega

/-- A fresh answer is the hottest of the readings stamped within the budget. -/
theorem hottestReadingWhere_fresh {v : Ieee} (h : hottestReadingWhere sensors now staleAfter keep = .fresh v) :
    (∃ r ∈ sensors, keep r ∧ now ≤ r.updatedAt + staleAfter ∧ r.valueC = v) ∧
      ∀ r ∈ sensors, keep r → now ≤ r.updatedAt + staleAfter → r.valueC.max v = v := by
  have hv : hottest ((sensors.filter keep).filter (·.isFresh now staleAfter)) = some v := by
    unfold hottestReadingWhere at h
    dsimp only at h
    split at h
    · next t ht => rw [ht, CpuReading.fresh.inj h]
    · cases h
    · cases h
  obtain ⟨⟨r, hr, hrv⟩, hall⟩ := hottest_spec hv
  simp only [List.mem_filter, isFresh_iff] at hr hall
  exact ⟨⟨r, hr.1.1, hr.1.2, hr.2, hrv⟩, fun r hr hk hf => hall r ⟨⟨hr, hk⟩, hf⟩⟩

/-- One reading stamped within the budget makes the answer fresh. -/
theorem hottestReadingWhere_of_fresh {r : CachedSensorReading} (hr : r ∈ sensors) (hk : keep r = true)
    (hf : now ≤ r.updatedAt + staleAfter) : ∃ v, hottestReadingWhere sensors now staleAfter keep = .fresh v := by
  have hmem : r ∈ (sensors.filter keep).filter (·.isFresh now staleAfter) := by
    simp [List.mem_filter, hr, hk, isFresh_iff, hf]
  unfold hottestReadingWhere
  dsimp only
  cases hv : hottest ((sensors.filter keep).filter (·.isFresh now staleAfter)) with
  | none =>
    rw [hottest_eq_none.mp hv] at hmem
    cases hmem
  | some v => exact ⟨v, rfl⟩

/-! ## Age by the sample -/

/-- What the answer rests on: a fresh value was sampled no earlier than the budget before `now`. -/
def SampledWithin (sensors : List CachedSensorReading) (now staleAfter : Nat) (keep : CachedSensorReading → Bool) :
    CpuReading → Prop
  | .fresh v => ∃ r ∈ sensors, keep r = true ∧ r.valueC = v ∧ now ≤ r.readAt + staleAfter
  | .stale _ | .absent => True

instance (a : CpuReading) : Decidable (SampledWithin sensors now staleAfter keep a) := by
  cases a <;> unfold SampledWithin <;> infer_instance

/-- Every reading whose sample the budget has overtaken, but not its stamp, stands beside one sampled within
the budget that is at least as hot. -/
def LateReadingsCovered (sensors : List CachedSensorReading) (now staleAfter : Nat)
    (keep : CachedSensorReading → Bool) : Prop :=
  ∀ r ∈ sensors, keep r = true → r.readAt + staleAfter < now → now ≤ r.updatedAt + staleAfter →
    ∃ r' ∈ sensors, keep r' = true ∧ now ≤ r'.readAt + staleAfter ∧ r.valueC.max r'.valueC = r'.valueC

instance : Decidable (LateReadingsCovered sensors now staleAfter keep) := by
  unfold LateReadingsCovered
  infer_instance

theorem sampledWithin_iff (hstamp : ∀ r ∈ sensors, r.readAt ≤ r.updatedAt) :
    SampledWithin sensors now staleAfter keep (hottestReadingWhere sensors now staleAfter keep) ↔
      LateReadingsCovered sensors now staleAfter keep := by
  constructor
  · intro h r hr hk _ hf
    obtain ⟨v, hv⟩ := hottestReadingWhere_of_fresh hr hk hf
    rw [hv] at h
    obtain ⟨r', hr', hk', rfl, hage⟩ := h
    exact ⟨r', hr', hk', hage, (hottestReadingWhere_fresh hv).2 r hr hk hf⟩
  · intro h
    cases hv : hottestReadingWhere sensors now staleAfter keep with
    | stale _ => trivial
    | absent => trivial
    | fresh v =>
      obtain ⟨⟨r, hr, hk, hf, rfl⟩, hall⟩ := hottestReadingWhere_fresh hv
      by_cases hage : now ≤ r.readAt + staleAfter
      · exact ⟨r, hr, hk, rfl, hage⟩
      · obtain ⟨r', hr', hk', hage', hmax⟩ := h r hr hk (by omega) hf
        -- sampled within the budget, so stamped within it, so no hotter than the answer
        have hle := hall r' hr' hk' (hage'.trans (Nat.add_le_add_right (hstamp r' hr') _))
        exact ⟨r', hr', hk', (Ieee.max_eq_right_antisymm hmax hle).symm, hage'⟩

end Reduction

/-! ## Over a run -/

namespace PollRig

/-- What the engine takes for fresh in this tick was sampled within the budget. -/
def FreshInAge (s : PollRig) : PollEvent → Prop
  | .engineSnapshot =>
    ∀ t ∈ s.snapshotTakenAt,
      SampledWithin s.sensors t s.staleAfter isCpu (hottestCpuReading s.sensors t s.staleAfter) ∧
        SampledWithin s.sensors t s.staleAfter isCoolant (hottestCoolantReading s.sensors t s.staleAfter)
  | _ => True

/-- No late reading of either kind decides this tick. -/
def LateCovered (s : PollRig) : PollEvent → Prop
  | .engineSnapshot =>
    ∀ t ∈ s.snapshotTakenAt,
      LateReadingsCovered s.sensors t s.staleAfter isCpu ∧ LateReadingsCovered s.sensors t s.staleAfter isCoolant
  | _ => True

instance (s : PollRig) : ∀ e, Decidable (s.FreshInAge e)
  | .engineSnapshot => inferInstanceAs (Decidable (∀ t ∈ s.snapshotTakenAt, _))
  | .elapse _ | .tick | .sample _ _ _ | .returned _ | .poll _ | .update _ | .engineTick => isTrue trivial

theorem freshInAge_iff {s : PollRig} (h : s.Stamped) (e : PollEvent) : s.FreshInAge e ↔ s.LateCovered e := by
  cases e with
  | engineSnapshot =>
    refine forall₂_congr fun t _ => and_congr ?_ ?_
    · exact sampledWithin_iff h.sensors
    · exact sampledWithin_iff h.sensors
  | _ => exact Iff.rfl

/-- **An over-age temperature is acted on as fresh exactly in the ticks a late reading decides.** -/
theorem run_freshInAge_iff (hwmonPollIntervalMs : Nat) (es : List PollEvent) :
    Machine.Along step FreshInAge (start hwmonPollIntervalMs) es ↔
      Machine.Along step LateCovered (start hwmonPollIntervalMs) es :=
  Machine.along_congr_of_inv (I := Stamped) (fun _ e h => step_stamped h e) (fun _ e h => freshInAge_iff h e) _
    (start_stamped hwmonPollIntervalMs) es

/-! A read samples the CPU at once and then hangs; it is joined 20 s later, and the tick a second after that
takes the 70 °C of 21 s ago for current. -/

def lateJoin : List PollEvent :=
  [.tick, .sample "hwmon:k10temp:temp1" .cpuTemp (.fin 70), .elapse 5000000000, .poll [], .tick,
    .elapse 15000000000, .returned true, .poll [], .update [], .elapse 1000000000, .engineTick, .engineSnapshot]

theorem lateJoin_acted_on : ¬Machine.Along step FreshInAge (start 1000) lateJoin := by decide

end PollRig

end ControlOfc.Polling
