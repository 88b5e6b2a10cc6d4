import ControlOfc.Thermal.SafetyTick
import ControlOfc.Lib.History
import Mathlib.Tactic.NormNum
/-! # The thermal ladder over whole runs

What the two latch bits and the blind counter mean: after any sequence of ticks each bit is the
set/reset latch of the ticks so far (`History.Latched`), the counter is the number of ticks without
a fresh CPU reading the history ends in, and the decision is a function of these.

A reading cannot set and reset at once because each release point lies below its trip point:
`release_lt_effectiveTrigger` for the CPU (the derived trip point only ever rises above 105), and the
release margin for the coolant.
-/
namespace ControlOfc.Thermal
open History

/-! ## Trip points -/

theorem foldl_max_ge {q : ℚ} : ∀ (l : List Ieee) (a : Ieee), .fin q ≤ a → .fin q ≤ l.foldl Ieee.max a
  | [], _, h => h
  | b :: l, a, h => foldl_max_ge l (a.max b) (Ieee.fin_le_max_left h b)

/-- Raise-only: no sensor can bring the trip point below the global one. -/
theorem trigger_le_effectiveTriggerC (sensors : List CachedSensorReading) :
    .fin thermalEmergencyTriggerC ≤ effectiveTriggerC sensors :=
  foldl_max_ge _ _ (Ieee.fin_le_fin.mpr (le_refl _))

theorem release_lt_effectiveTrigger (sensors : List CachedSensorReading) (t : Ieee)
    (hot : effectiveTriggerC sensors ≤ t) : ¬ t ≤ .fin thermalEmergencyReleaseC := by
  intro cool
  have := Ieee.le_trans' (trigger_le_effectiveTriggerC sensors) (Ieee.le_trans' hot cool)
  rw [Ieee.fin_le_fin] at this
  norm_num [thermalEmergencyTriggerC, thermalEmergencyReleaseC] at this

theorem release_lt_limit (limitC : Nat) (t : Ieee) (hot : .fin limitC ≤ t) :
    ¬ t ≤ .fin limitC - .fin coolantReleaseMarginC := by
  intro cool
  have := Ieee.le_trans' hot cool
  rw [Ieee.fin_sub_fin, Ieee.fin_le_fin] at this
  norm_num [coolantReleaseMarginC] at this

/-! ## What a tick does to one rule -/

/-- The latch after a fresh reading, for a rule whose release point lies below its trip point. -/
theorem evaluate_spec (r : ThermalSafetyRule) (t : Ieee) (h : r.triggerTempC ≤ t → ¬ t ≤ r.releaseTempC) :
    (r.evaluate t).1 =
      { r with active := decide (r.triggerTempC ≤ t) || (r.active && !decide (t ≤ r.releaseTempC)) } := by
  obtain ⟨trig, rel, pct, active⟩ := r
  unfold ThermalSafetyRule.evaluate
  by_cases hot : trig ≤ t
  · have cool : ¬ t ≤ rel := h hot
    cases active <;> simp [hot, cool]
  · by_cases cool : t ≤ rel <;> cases active <;> simp [hot, cool]

theorem freshArm_snd (r : ThermalSafetyRule) (t : Ieee) :
    freshArm r t = ((r.evaluate t).1,
      if (r.evaluate t).1.active then .emergency (r.evaluate t).1 else .normal) := by
  unfold freshArm
  have : (r.evaluate t).2 = if (r.evaluate t).1.active then some (r.evaluate t).1.forcedOutputPct else none := rfl
  by_cases ha : (r.evaluate t).1.active <;> simp [this, ha]

/-- A fresh reading that sets, or resets, a rule with these thresholds. -/
def Sets (trigger : Ieee) (reading : CpuReading) : Prop := ∃ t, reading = .fresh t ∧ trigger ≤ t

def Resets (release : Ieee) (reading : CpuReading) : Prop := ∃ t, reading = .fresh t ∧ t ≤ release

/-- The rule after a tick: the same thresholds, and a latch only a fresh reading moved. -/
structure RuleSpec (r : ThermalSafetyRule) (reading : CpuReading) (r' : ThermalSafetyRule) : Prop where
  trigger : r'.triggerTempC = r.triggerTempC
  release : r'.releaseTempC = r.releaseTempC
  forced : r'.forcedOutputPct = r.forcedOutputPct
  latch : r'.active = true ↔ Sets r.triggerTempC reading ∨ (r.active = true ∧ ¬ Resets r.releaseTempC reading)

theorem ruleSpec_fresh (r : ThermalSafetyRule) (t : Ieee) (h : r.triggerTempC ≤ t → ¬ t ≤ r.releaseTempC) :
    RuleSpec r (.fresh t) (freshArm r t).1 := by
  rw [freshArm_snd, evaluate_spec r t h]
  refine ⟨rfl, rfl, rfl, ?_⟩
  simp [Sets, Resets]

theorem ruleSpec_blind (r : ThermalSafetyRule) (reading : CpuReading) (h : ∀ t, reading ≠ .fresh t) :
    RuleSpec r reading r := by
  refine ⟨rfl, rfl, rfl, ?_⟩
  simp [Sets, Resets, h]

/-- A tick without a fresh CPU reading. -/
def CpuReading.blind : CpuReading → Bool
  | .fresh _ => false
  | .stale _ | .absent => true

/-- The last thing known was at or above the release point. -/
def StaleHot (release : Ieee) (reading : CpuReading) : Prop := ∃ t, reading = .stale t ∧ release ≤ t

instance (release : Ieee) (reading : CpuReading) : Decidable (StaleHot release reading) :=
  match reading with
  | .stale t => decidable_of_iff (release ≤ t) (by simp [StaleHot])
  | .fresh _ | .absent => isFalse (by simp [StaleHot])

/-- The decision a rule's latch and the debounce lead to. -/
def decisionOf (latched : Bool) (floor : Prop) [Decidable floor] : SafetyDecision :=
  if latched then ⟨.emergency, some 100⟩ else if floor then .noSensorFallbackDecision else .normal

theorem decisionOf_of_not (latched : Bool) (floor : Prop) [Decidable floor] (h : ¬ floor) :
    decisionOf latched floor = decisionOf latched False := by
  simp [decisionOf, h]

theorem freshArm_decision (r : ThermalSafetyRule) (t : Ieee) (hforced : r.forcedOutputPct = 100)
    (h : r.triggerTempC ≤ t → ¬ t ≤ r.releaseTempC) :
    (freshArm r t).2 = decisionOf (freshArm r t).1.active False := by
  have hf : (r.evaluate t).1.forcedOutputPct = 100 := by
    rw [evaluate_spec r t h]
    exact hforced
  rw [freshArm_snd]
  by_cases ha : (r.evaluate t).1.active
  · simp [decisionOf, ha, SafetyDecision.emergency, hf]
  · simp [decisionOf, ha]

/-- Blind: the counter grows, the rule is untouched, and the floor waits for the debounce unless the
last thing known was hot. -/
theorem evaluateSafetyTick_blind {reading : CpuReading} (hb : reading.blind = true) (n : Nat)
    (r : ThermalSafetyRule) (hforced : r.forcedOutputPct = 100) :
    evaluateSafetyTick reading n r = (n + 1, r,
      decisionOf r.active (noSensorCycleThreshold ≤ n + 1 ∧ ¬ StaleHot r.releaseTempC reading)) := by
  cases reading with
  | fresh t => cases hb
  | stale t =>
    cases ha : r.active with
    | true => simp [evaluateSafetyTick, ha, decisionOf, SafetyDecision.emergency, hforced]
    | false =>
      by_cases hot : r.releaseTempC ≤ t
      · simp [evaluateSafetyTick, ha, hot, decisionOf, StaleHot]
      · by_cases hn : noSensorCycleThreshold ≤ n + 1 <;>
          simp [evaluateSafetyTick, ha, hot, hn, decisionOf, StaleHot]
  | absent =>
    cases ha : r.active with
    | true => simp [evaluateSafetyTick, ha, decisionOf, SafetyDecision.emergency, hforced]
    | false =>
      by_cases hn : noSensorCycleThreshold ≤ n + 1 <;>
        simp [evaluateSafetyTick, ha, hn, decisionOf, StaleHot]

theorem evaluateSafetyTick_spec (reading : CpuReading) (n : Nat) (r : ThermalSafetyRule)
    (hforced : r.forcedOutputPct = 100) (h : ∀ t, r.triggerTempC ≤ t → ¬ t ≤ r.releaseTempC) :
    let out := evaluateSafetyTick reading n r
    out.1 = (if reading.blind then n + 1 else 0) ∧ RuleSpec r reading out.2.1 ∧
      out.2.2 = decisionOf out.2.1.active
        (reading.blind = true ∧ noSensorCycleThreshold ≤ out.1 ∧ ¬ StaleHot r.releaseTempC reading) := by
  intro out
  cases hb : reading.blind with
  | false =>
    cases reading with
    | fresh t =>
      refine ⟨rfl, ruleSpec_fresh r t (h t), ?_⟩
      rw [decisionOf_of_not _ _ (by simp)]
      exact freshArm_decision r t hforced (h t)
    | stale t => cases hb
    | absent => cases hb
  | true =>
    have hout : out = _ := evaluateSafetyTick_blind hb n r hforced
    rw [hout]
    refine ⟨rfl, ruleSpec_blind r reading ?_, by simp⟩
    rintro t rfl
    cases hb

theorem evaluateCoolantTick_spec (reading : CpuReading) (r : ThermalSafetyRule) (hforced : r.forcedOutputPct = 100)
    (h : ∀ t, r.triggerTempC ≤ t → ¬ t ≤ r.releaseTempC) :
    let out := evaluateCoolantTick reading r
    RuleSpec r reading out.1 ∧ out.2 = decisionOf out.1.active False := by
  intro out
  cases hb : reading.blind with
  | false =>
    cases reading with
    | fresh t => exact ⟨ruleSpec_fresh r t (h t), freshArm_decision r t hforced (h t)⟩
    | stale t => cases hb
    | absent => cases hb
  | true =>
    have hout : out = (r, decisionOf r.active False) := by
      show evaluateCoolantTick reading r = _
      cases reading with
      | fresh t => cases hb
      | stale t => cases ha : r.active <;> simp [evaluateCoolantTick, ha, decisionOf, SafetyDecision.emergency, hforced]
      | absent => cases ha : r.active <;> simp [evaluateCoolantTick, ha, decisionOf, SafetyDecision.emergency, hforced]
    rw [hout]
    refine ⟨ruleSpec_blind r reading ?_, rfl⟩
    rintro t rfl
    cases hb

/-- Both rules' decisions folded: an emergency when either is latched, else the CPU ladder's. -/
theorem combine_decisionOf (cpu cool : Bool) (floor : Prop) [Decidable floor] :
    combine (decisionOf cpu floor) (decisionOf cool False) =
      ⟨decisionOf (cpu || cool) floor, ⟨cpu, cool⟩⟩ := by
  have hle : noSensorSafePct ≤ 100 := by decide
  cases cpu <;> cases cool <;> by_cases hf : floor <;>
    simp [combine, decisionOf, hf, hle, SafetyDecision.normal, SafetyDecision.noSensorFallbackDecision]

/-! ## Whole runs -/

def Tick.cpuSets (k : Tick) : Prop := Sets (effectiveTriggerC k.sensors) k.cpu
def Tick.cpuResets (k : Tick) : Prop := Resets (.fin thermalEmergencyReleaseC) k.cpu
def Tick.coolantSets (k : Tick) : Prop := Sets (.fin k.coolantLimitC) k.coolant
def Tick.coolantResets (k : Tick) : Prop := Resets (.fin k.coolantLimitC - .fin coolantReleaseMarginC) k.coolant

def CpuLatched (ks : List Tick) : Prop := Latched Tick.cpuSets Tick.cpuResets ks
def CoolantLatched (ks : List Tick) : Prop := Latched Tick.coolantSets Tick.coolantResets ks

/-- The ladder's state read off the ticks so far. -/
structure Agrees (l : Ladder) (ks : List Tick) : Prop where
  release : l.safety.releaseTempC = .fin thermalEmergencyReleaseC
  forced : l.safety.forcedOutputPct = 100
  coolantForced : l.coolantRule.forcedOutputPct = 100
  cpuLatch : l.safety.active = true ↔ CpuLatched ks
  coolantLatch : l.coolantRule.active = true ↔ CoolantLatched ks
  blind : l.noCpuSensorCycles = trailing (fun k => k.cpu.blind) ks

theorem agrees_start (limitC : Nat) : Agrees (.start limitC) [] := by
  refine ⟨rfl, rfl, rfl, ?_, ?_, rfl⟩
  · exact iff_of_false Bool.false_ne_true (not_latched_nil _ _)
  · exact iff_of_false Bool.false_ne_true (not_latched_nil _ _)

/-- One tick keeps the ladder in step with the history, and its decision is read off the new state. -/
theorem safetyTick_spec {l : Ladder} {ks : List Tick} (h : Agrees l ks) (k : Tick) :
    Agrees (l.step k) (ks ++ [k]) ∧
    (l.safetyTick k).2 =
      ⟨decisionOf ((l.step k).safety.active || (l.step k).coolantRule.active)
        (k.cpu.blind = true ∧ noSensorCycleThreshold ≤ (l.step k).noCpuSensorCycles ∧
          ¬ StaleHot (.fin thermalEmergencyReleaseC) k.cpu),
        ⟨(l.step k).safety.active, (l.step k).coolantRule.active⟩⟩ := by
  obtain ⟨hn, hcpu, hdec⟩ := evaluateSafetyTick_spec k.cpu l.noCpuSensorCycles
    (l.safety.setTriggerTempC (effectiveTriggerC k.sensors)) h.forced
    (fun t hot => h.release ▸ release_lt_effectiveTrigger k.sensors t hot)
  obtain ⟨hcool, hcdec⟩ := evaluateCoolantTick_spec k.coolant (l.coolantRule.setCoolantLimitC k.coolantLimitC)
    h.coolantForced (fun t hot => release_lt_limit k.coolantLimitC t hot)
  have hrel : (l.safety.setTriggerTempC (effectiveTriggerC k.sensors)).releaseTempC = .fin thermalEmergencyReleaseC :=
    h.release
  have hcomb : (l.safetyTick k).2 = combine
      (evaluateSafetyTick k.cpu l.noCpuSensorCycles (l.safety.setTriggerTempC (effectiveTriggerC k.sensors))).2.2
      (evaluateCoolantTick k.coolant (l.coolantRule.setCoolantLimitC k.coolantLimitC)).2 := rfl
  refine ⟨⟨hcpu.release.trans h.release, hcpu.forced.trans h.forced, hcool.forced.trans h.coolantForced, ?_, ?_, ?_⟩,
    ?_⟩
  · refine hcpu.latch.trans ?_
    unfold CpuLatched
    rw [latched_concat]
    exact or_congr Iff.rfl (and_congr h.cpuLatch (by rw [hrel]; rfl))
  · refine hcool.latch.trans ?_
    unfold CoolantLatched
    rw [latched_concat]
    exact or_congr Iff.rfl (and_congr h.coolantLatch Iff.rfl)
  · rw [trailing_concat, ← h.blind]
    exact hn
  · rw [hcomb, hdec, hcdec, combine_decisionOf]
    simp only [hrel]
    rfl

theorem run_agrees (ks : List Tick) :
    ∀ (l : Ladder) (past : List Tick), Agrees l past → Agrees (Machine.run Ladder.step l ks) (past ++ ks) := by
  induction ks with
  | nil => intro l past h; simpa using h
  | cons k ks ih =>
    intro l past h
    have := ih _ _ (safetyTick_spec h k).1
    simpa [List.append_assoc] using this

end ControlOfc.Thermal
