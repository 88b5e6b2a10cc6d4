import ControlOfc.Diagnostics.Entry
import ControlOfc.Lib.Guarded
import ControlOfc.Polling.Freshness
/-! # Whether the preflight is the `POST`'s answer

Both sides are reduced to the same obstacles. A failing row of the report is an obstacle (`mem_blocking_iff`), and
so is every refusal (`start_guards`); but a verify and a characterisation do not ask whether the header is writable.

Main theorem `preflight_is_the_posts_answer_iff`: the two agree unless that is the one thing that is wrong.
-/
namespace ControlOfc.Diagnostics.Preflight
open Config Polling Profile

variable {F : Type} {s : AppState F} {headerId : String} {d : Diagnostic} {reverts : Nat}

/-! ## Obstacles -/

/-- What stands in the way of a diagnostic, by the check that says so. -/
def Obstacle (s : AppState F) (headerId : String) (d : Diagnostic) : CheckId → Prop
  | .target => s.header headerId = none
  | .writable => (s.header headerId).any (·.isWritable) = false
  | .ownership => (s.cache.verifyActive || s.cache.openfanMaintenanceRunning) = true
  | .temperature => (cacheTemperatureFreshness s).isUsable = false
  | .thermal => (thermalForceState s).isSome = true ∨ ∃ hot, checkThermalSafety s = .error hot
  | .stallProbeEligible => d = .stallProbe ∧ ∃ h, s.header headerId = some h ∧
      ((ineligibility (s.resolvedHeaderRole headerId) (s.headerIsPumpProtected headerId) h.isWritable h.rpmPath.isSome).isSome ∨
        hottestFreshCpuC s = none)
  | .role | .readback | .safeMinimum | .reclaim | .originalState | .supporting => False

attribute [local simp] Obstacle

/-! ## The temperatures -/

theorem foldl_noteReading (maxAge now : Nat) (readings : List (String × Nat)) (seen : Nat × Option (String × Nat)) :
    (readings.foldl (noteReading maxAge now) seen).1 = seen.1 + readings.countP fun r => now - r.2 ≤ maxAge := by
  induction readings generalizing seen with
  | nil => rfl
  | cons r readings ih =>
    rw [List.foldl_cons, ih, List.countP_cons]
    by_cases hr : now - r.2 ≤ maxAge
    · simp only [noteReading, hr, if_true, decide_true]
      omega
    · simp [noteReading, hr]

/-- Some reading is within the age bound. -/
theorem isUsable_iff {maxAge now : Nat} {readings : List (String × Nat)} :
    (temperatureFreshness readings maxAge now).isUsable = true ↔ ∃ r ∈ readings, now - r.2 ≤ maxAge := by
  rw [TemperatureFreshness.isUsable, temperatureFreshness, decide_eq_true_eq, foldl_noteReading, Nat.zero_add,
    List.countP_pos_iff]
  simp only [decide_eq_true_eq]

theorem not_isUsable_of_empty (h : (cacheTemperatureFreshness s).total = 0) :
    (cacheTemperatureFreshness s).isUsable = false := by
  rw [← Bool.not_eq_true]
  intro husable
  obtain ⟨r, hr, -⟩ := isUsable_iff.mp husable
  exact List.not_mem_nil (List.length_eq_zero_iff.mp h ▸ hr)

/-- On a machine with a CPU sensor, its temperatures are usable just where the ladder acts on one of them. -/
theorem isUsable_iff_fresh (hcpu : ∃ sensor ∈ s.sensors, isCpu sensor = true) :
    (cacheTemperatureFreshness s).isUsable = true ↔
      ∃ t, hottestCpuReading s.sensors s.cache.now (cpuTempStaleAfter s.hwmonPollIntervalMs) = .fresh t := by
  obtain ⟨sensor, hsensor, hkind⟩ := hcpu
  have hne : ¬ ((s.sensors.filter isCpu).map fun sensor => (sensor.id, sensor.updatedAt)).isEmpty = true := by
    have hmem : sensor ∈ s.sensors.filter isCpu := List.mem_filter.mpr ⟨hsensor, hkind⟩
    rw [List.isEmpty_iff, List.map_eq_nil_iff]
    exact List.ne_nil_of_mem hmem
  unfold cacheTemperatureFreshness
  simp only [if_neg hne]
  rw [isUsable_iff]
  constructor
  · rintro ⟨r, hr, hage⟩
    obtain ⟨x, hx, rfl⟩ := List.mem_map.mp hr
    obtain ⟨hx, hxkind⟩ := List.mem_filter.mp hx
    refine hottestReadingWhere_of_fresh hx hxkind ?_
    simp only [diagnosticTempMaxAge] at hage
    omega
  · rintro ⟨t, ht⟩
    obtain ⟨⟨x, hx, hxkind, hage, -⟩, -⟩ := hottestReadingWhere_fresh ht
    refine ⟨(x.id, x.updatedAt), List.mem_map.mpr ⟨x, List.mem_filter.mpr ⟨hx, hxkind⟩, rfl⟩, ?_⟩
    simp only [diagnosticTempMaxAge]
    omega

/-! ## The rows -/

/-- A row of the report: the check it is about, and when it fails. -/
structure Row (c : PreflightCheck) (id : CheckId) (fails : Prop) : Prop where
  checkId : c.checkId = id
  state : c.state = .fail ↔ fails

section Rows

variable (inputs : PreflightInputs)

theorem targetCheck_row : Row (targetCheck inputs) .target (inputs.headerKnown = false) := by
  unfold targetCheck
  cases inputs.headerKnown <;> exact ⟨rfl, by simp⟩

theorem roleCheck_row : Row (roleCheck inputs) .role False := by
  unfold roleCheck
  split <;> exact ⟨rfl, by simp⟩

theorem writableCheck_row : Row (writableCheck inputs) .writable (inputs.isWritable = false) := by
  unfold writableCheck
  cases inputs.isWritable <;> exact ⟨rfl, by simp⟩

theorem readbackCheck_row : Row (readbackCheck inputs) .readback False := by
  unfold readbackCheck
  split <;> exact ⟨rfl, by simp⟩

theorem ownershipCheck_row : Row (ownershipCheck inputs) .ownership (inputs.slotBusy = true) := by
  unfold ownershipCheck
  cases inputs.slotBusy <;> exact ⟨rfl, by simp⟩

theorem safeMinimumCheck_row : Row (safeMinimumCheck inputs) .safeMinimum False := by
  unfold safeMinimumCheck
  split <;> exact ⟨rfl, by simp⟩

theorem staleState_eq (d : Diagnostic) : staleState d = .fail := by
  cases d <;> rfl

/-- Readings that are none are not usable either. -/
theorem temperatureCheck_row (h : inputs.temperature.total = 0 → inputs.temperature.isUsable = false) :
    Row (temperatureCheck inputs) .temperature (inputs.temperature.isUsable = false) := by
  unfold temperatureCheck
  dsimp only
  rw [staleState_eq]
  split
  · next htotal => exact ⟨rfl, by simp [h htotal]⟩
  · cases inputs.temperature.isUsable <;> exact ⟨rfl, by simp⟩

theorem temperatureCheck_pass (h : inputs.temperature.total = 0 → inputs.temperature.isUsable = false) :
    (temperatureCheck inputs).state = .pass ↔ inputs.temperature.isUsable = true := by
  unfold temperatureCheck
  dsimp only
  rw [staleState_eq]
  split
  · next htotal => simp [h htotal]
  · cases inputs.temperature.isUsable <;> simp

theorem thermalCheck_row : Row (thermalCheck inputs) .thermal
    (inputs.thermalForcing.isSome = true ∨ inputs.tooHot.isSome = true) := by
  unfold thermalCheck
  cases inputs.thermalForcing with
  | some state => exact ⟨rfl, by simp⟩
  | none => cases inputs.tooHot <;> exact ⟨rfl, by simp⟩

theorem reclaimCheck_row : Row (reclaimCheck inputs) .reclaim False := by
  unfold reclaimCheck
  split
  · exact ⟨rfl, by simp⟩
  · split <;> exact ⟨rfl, by simp⟩

theorem originalStateCheck_row : Row (originalStateCheck inputs) .originalState False := by
  unfold originalStateCheck
  split <;> exact ⟨rfl, by simp⟩

theorem supportingCheck_row : Row (supportingCheck inputs) .supporting False := by
  unfold supportingCheck
  dsimp only
  repeat' split
  all_goals exact ⟨rfl, by simp⟩

theorem stallProbeCheck_row : Row (stallProbeCheck inputs) .stallProbeEligible
    (inputs.headerKnown = true ∧ (inputs.stallProbeIneligible.isSome = true ∨ inputs.cpuTemperatureFresh = false)) := by
  unfold stallProbeCheck
  cases inputs.headerKnown with
  | false => exact ⟨rfl, by simp⟩
  | true =>
    cases inputs.stallProbeIneligible with
    | some why => exact ⟨rfl, by simp⟩
    | none => cases inputs.cpuTemperatureFresh <;> exact ⟨rfl, by simp⟩

end Rows

/-! ## The report -/

/-- Its failing rows block, and nothing else does. -/
theorem mem_blocking {inputs : PreflightInputs} {id : CheckId} :
    id ∈ (buildReport inputs).blocking ↔ ∃ c ∈ checksOf inputs, c.state = .fail ∧ c.checkId = id := by
  simp [buildReport, List.mem_filter, and_assoc]

theorem verdict_iff {inputs : PreflightInputs} :
    (buildReport inputs).verdict = .blocked ↔ ∃ id, id ∈ (buildReport inputs).blocking := by
  have hany : (buildReport inputs).verdict = .blocked ↔ (checksOf inputs).any (·.state = .fail) = true := by
    simp only [buildReport, verdictFor]
    split
    · next h => exact iff_of_true rfl h
    · next h =>
      refine iff_of_false ?_ h
      split <;> exact nofun
  simp only [hany, mem_blocking, List.any_eq_true, decide_eq_true_eq]
  constructor
  · rintro ⟨c, hc, hfail⟩
    exact ⟨c.checkId, c, hc, hfail, rfl⟩
  · rintro ⟨id, c, hc, hfail, -⟩
    exact ⟨c, hc, hfail⟩

/-- Some row about `id` fails. -/
def Failing (rows : List PreflightCheck) (id : CheckId) : Prop := ∃ c ∈ rows, c.state = .fail ∧ c.checkId = id

theorem failing_cons {c : PreflightCheck} {rows : List PreflightCheck} {id id' : CheckId} {fails : Prop}
    (h : Row c id fails) : Failing (c :: rows) id' ↔ fails ∧ id = id' ∨ Failing rows id' := by
  simp only [Failing, List.mem_cons, exists_eq_or_imp, h.checkId, h.state]

theorem failing_nil {id : CheckId} : Failing [] id ↔ False := by
  simp [Failing]

theorem failing_append {rows rows' : List PreflightCheck} {id : CheckId} :
    Failing (rows ++ rows') id ↔ Failing rows id ∨ Failing rows' id := by
  simp only [Failing, List.mem_append, or_and_right, exists_or]

theorem failing_stallProbe {inputs : PreflightInputs} {id : CheckId} :
    Failing (if inputs.diagnostic = .stallProbe then [stallProbeCheck inputs] else []) id ↔
      (inputs.diagnostic = .stallProbe ∧ inputs.headerKnown = true ∧
        (inputs.stallProbeIneligible.isSome = true ∨ inputs.cpuTemperatureFresh = false)) ∧ .stallProbeEligible = id := by
  split
  · next h => simp only [failing_cons (stallProbeCheck_row inputs), failing_nil, or_false, h, true_and]
  · next h => simp only [failing_nil, h, false_and]

/-- What the report names as blocking is what stands in the way. -/
theorem mem_blocking_iff {id : CheckId} :
    id ∈ (buildReport (gatherPreflight s headerId d reverts)).blocking ↔ Obstacle s headerId d id := by
  have htemperature : (cacheTemperatureFreshness s).total = 0 → (cacheTemperatureFreshness s).isUsable = false :=
    not_isUsable_of_empty
  rw [mem_blocking]
  change Failing (checksOf _) id ↔ _
  rw [checksOf, failing_append, failing_cons (targetCheck_row _), failing_cons (roleCheck_row _),
    failing_cons (writableCheck_row _), failing_cons (readbackCheck_row _), failing_cons (ownershipCheck_row _),
    failing_cons (safeMinimumCheck_row _), failing_cons (temperatureCheck_row _ htemperature),
    failing_cons (thermalCheck_row _), failing_cons (reclaimCheck_row _), failing_cons (originalStateCheck_row _),
    failing_cons (supportingCheck_row _), failing_nil, failing_stallProbe]
  cases id with
  | target => simp [gatherPreflight]
  | writable => simp [gatherPreflight]
  | ownership => simp [gatherPreflight]
  | temperature => simp [gatherPreflight]
  | thermal =>
    cases hhot : checkThermalSafety s with
    | error hot => simp [gatherPreflight, hhot]
    | ok u => simp [gatherPreflight, hhot]
  | stallProbeEligible =>
    cases hheader : s.header headerId with
    | none => simp [gatherPreflight, hheader]
    | some h =>
      by_cases hd : d = .stallProbe
      · simp [gatherPreflight, hheader, hd]
      · simp [gatherPreflight, hd]
  | role | readback | safeMinimum | reclaim | originalState | supporting => simp

/-! ## The handlers -/

/-- A refusal names an obstacle. -/
def Named (s : AppState F) (headerId : String) (d : Diagnostic) (r : Refusal) : Prop :=
  ∃ id, r.check = some id ∧ Obstacle s headerId d id

section Guards

variable (s headerId d)

theorem shutdownGuard_guards (hup : s.shuttingDown = false) : (shutdownGuard s).Guards True (Named s headerId d) := by
  rw [shutdownGuard, hup]
  exact .ok _ trivial

theorem verifyThermalGuard_guards :
    (verifyThermalGuard s).Guards (¬ Obstacle s headerId d .thermal) (Named s headerId d) := by
  unfold verifyThermalGuard
  cases hhot : checkThermalSafety s with
  | error hot =>
    have hobstacle : Obstacle s headerId d .thermal := .inr ⟨hot, hhot⟩
    exact .error (not_not.mpr hobstacle) ⟨.thermal, rfl, hobstacle⟩
  | ok u =>
    cases hforce : thermalForceState s with
    | some state =>
      have hobstacle : Obstacle s headerId d .thermal := .inl (by rw [hforce]; rfl)
      exact .error (not_not.mpr hobstacle) ⟨.thermal, rfl, hobstacle⟩
    | none => exact .ok _ (by simp [hforce, hhot])

theorem staleTemperatureGuard_guards (what : String) :
    (staleTemperatureGuard s d what).Guards (¬ Obstacle s headerId d .temperature) (Named s headerId d) := by
  have hblocks : d.blocksOnStaleTemperature = true := by cases d <;> rfl
  have hrefusal : staleTemperatureRefusal s d = none ↔ (cacheTemperatureFreshness s).isUsable = true := by
    rw [staleTemperatureRefusal, hblocks]
    simp only [Bool.not_true, Bool.false_eq_true, if_false, temperatureRefusal]
    split
    · next h => exact iff_of_true rfl h
    · next h =>
      refine iff_of_false ?_ h
      split
      · exact nofun
      · split <;> exact nofun
  unfold staleTemperatureGuard
  cases hstale : staleTemperatureRefusal s d with
  | some reason =>
    have hobstacle : Obstacle s headerId d .temperature := by
      rw [Obstacle, ← Bool.not_eq_true, ← hrefusal, hstale]
      exact nofun
    exact .error (not_not.mpr hobstacle) ⟨.temperature, rfl, hobstacle⟩
  | none => exact .ok _ (by simp [hrefusal.mp hstale])

/-- The two lookups of a header, together. -/
theorem headerGuards (rest : PwmHeader → Except Refusal (Health.DaemonState × Nat)) {C : Prop}
    (hrest : ∀ h, s.header headerId = some h → (rest h).Guards C (Named s headerId d)) :
    (controllerGuard s >>= fun controller => headerGuard controller headerId >>= rest).Guards
      (¬ Obstacle s headerId d .target ∧ C) (Named s headerId d) := by
  unfold controllerGuard
  cases hcontroller : s.hwmonController with
  | none =>
    have hobstacle : Obstacle s headerId d .target := by simp [AppState.header, hcontroller]
    exact .error (fun h => h.1 hobstacle) ⟨.target, rfl, hobstacle⟩
  | some controller =>
    change (headerGuard controller headerId >>= rest).Guards _ _
    unfold headerGuard
    cases hheader : controller.get? headerId with
    | none =>
      have hobstacle : Obstacle s headerId d .target := by simp [AppState.header, hcontroller, hheader]
      exact .error (fun h => h.1 hobstacle) ⟨.target, rfl, hobstacle⟩
    | some h =>
      have hknown : s.header headerId = some h := by simp [AppState.header, hcontroller, hheader]
      exact (hrest h hknown).congr (by simp [hknown])

theorem beginVerifyPause_guards :
    (beginVerifyPause s).Guards (¬ Obstacle s headerId d .ownership) (Named s headerId d) := by
  unfold beginVerifyPause verifySlotRefusal Health.DaemonState.tryBeginVerify
  by_cases hrunning : s.cache.openfanMaintenanceRunning = true
  · have hobstacle : Obstacle s headerId d .ownership := by simp [hrunning]
    simp only [hrunning, if_true]
    exact .error (not_not.mpr hobstacle) ⟨.ownership, rfl, hobstacle⟩
  · by_cases hactive : s.cache.verifyActive = true
    · have hobstacle : Obstacle s headerId d .ownership := by simp [hactive]
      simp only [if_neg hrunning, if_pos hactive]
      exact .error (not_not.mpr hobstacle) ⟨.ownership, rfl, hobstacle⟩
    · simp only [if_neg hrunning, if_neg hactive]
      exact .ok _ (by simp [hrunning, hactive])

/-- A verify and a characterisation ask the same. -/
theorem sweepGuards (hup : s.shuttingDown = false) (what : String) :
    (do
      shutdownGuard s
      verifyThermalGuard s
      staleTemperatureGuard s d what
      let controller ← controllerGuard s
      let _ ← headerGuard controller headerId
      beginVerifyPause s).Guards
      (True ∧ ¬ Obstacle s headerId d .thermal ∧ ¬ Obstacle s headerId d .temperature ∧
        ¬ Obstacle s headerId d .target ∧ ¬ Obstacle s headerId d .ownership) (Named s headerId d) := by
  refine .bind (shutdownGuard_guards s headerId d hup) fun _ _ => ?_
  refine .bind (verifyThermalGuard_guards s headerId d) fun _ _ => ?_
  refine .bind (staleTemperatureGuard_guards s headerId d what) fun _ _ => ?_
  exact headerGuards s headerId d _ fun _ _ => beginVerifyPause_guards s headerId d

theorem discoveryGuards (hup : s.shuttingDown = false) : (startControlPathDiscovery s headerId).Guards
    (True ∧ ¬ Obstacle s headerId .controlPathDiscovery .thermal ∧
      ¬ Obstacle s headerId .controlPathDiscovery .temperature ∧ ¬ Obstacle s headerId .controlPathDiscovery .target ∧
      ¬ Obstacle s headerId .controlPathDiscovery .writable ∧ ¬ Obstacle s headerId .controlPathDiscovery .ownership)
    (Named s headerId .controlPathDiscovery) := by
  unfold startControlPathDiscovery
  refine .bind (shutdownGuard_guards s headerId _ hup) fun _ _ => ?_
  refine .bind (verifyThermalGuard_guards s headerId _) fun _ _ => ?_
  refine .bind (staleTemperatureGuard_guards s headerId _ _) fun _ _ => ?_
  refine headerGuards s headerId _ _ fun h hknown => ?_
  have hwritable : Obstacle s headerId .controlPathDiscovery .writable ↔ (!h.isWritable) = true := by
    simp [hknown]
  rw [hwritable]
  change (if (!h.isWritable) = true then .error (.readOnly headerId) else beginVerifyPause s).Guards _ _
  exact .throwIf (fun hro => ⟨.writable, rfl, hwritable.mpr hro⟩) fun _ => beginVerifyPause_guards s headerId _

theorem stallProbeGuards (hup : s.shuttingDown = false) : (stallProbeHandler s headerId (some true)).Guards
    (True ∧ ¬ Obstacle s headerId .stallProbe .thermal ∧ ¬ Obstacle s headerId .stallProbe .temperature ∧
      ¬ Obstacle s headerId .stallProbe .target ∧ ¬ Obstacle s headerId .stallProbe .stallProbeEligible ∧
      ¬ Obstacle s headerId .stallProbe .ownership) (Named s headerId .stallProbe) := by
  unfold stallProbeHandler
  refine .bind (shutdownGuard_guards s headerId _ hup) fun _ _ => ?_
  rw [if_neg (not_not.mpr rfl)]
  refine .bind (verifyThermalGuard_guards s headerId _) fun _ _ => ?_
  refine .bind (staleTemperatureGuard_guards s headerId _ _) fun _ _ => ?_
  refine headerGuards s headerId _ _ fun h hknown => ?_
  have heligible : Obstacle s headerId .stallProbe .stallProbeEligible ↔
      (ineligibility (s.resolvedHeaderRole headerId) (s.headerIsPumpProtected headerId) h.isWritable h.rpmPath.isSome).isSome =
          true ∨ hottestFreshCpuC s = none := by
    simp [hknown]
  dsimp only
  cases hwhy : ineligibility (s.resolvedHeaderRole headerId) (s.headerIsPumpProtected headerId) h.isWritable
      h.rpmPath.isSome with
  | some why =>
    have hobstacle : Obstacle s headerId .stallProbe .stallProbeEligible := heligible.mpr (.inl (by rw [hwhy]; rfl))
    exact .error (fun hno => hno.1 hobstacle) ⟨.stallProbeEligible, rfl, hobstacle⟩
  | none =>
    have hcpu : Obstacle s headerId .stallProbe .stallProbeEligible ↔ (hottestFreshCpuC s).isNone = true := by
      rw [heligible, hwhy]
      simp
    rw [hcpu]
    change (if (hottestFreshCpuC s).isNone = true then .error .noCpuTemperature else beginVerifyPause s).Guards _ _
    exact .throwIf (fun hnone => ⟨.stallProbeEligible, rfl, hcpu.mpr hnone⟩) fun _ => beginVerifyPause_guards s headerId _

end Guards

/-- Whether a diagnostic's `POST` looks at the header being writable. -/
def asksWritable : Diagnostic → Bool
  | .verify | .characterization => false
  | .controlPathDiscovery | .stallProbe => true

/-- A header that is not there is not writable, and one that is not cannot be probed. -/
theorem stallProbeEligible_of_writable (hknown : s.header headerId ≠ none) (h : Obstacle s headerId .stallProbe .writable) :
    Obstacle s headerId .stallProbe .stallProbeEligible := by
  obtain ⟨header, hheader⟩ := Option.ne_none_iff_exists'.mp hknown
  have hro : header.isWritable = false := by simpa [hheader] using h
  refine ⟨rfl, header, hheader, .inl ?_⟩
  unfold ineligibility
  rw [hro]
  split <;> rfl

/-- Without the header's being writable, four checks are asked about. -/
theorem asked_iff (hd : asksWritable d = false) :
    (True ∧ ¬ Obstacle s headerId d .thermal ∧ ¬ Obstacle s headerId d .temperature ∧ ¬ Obstacle s headerId d .target ∧
      ¬ Obstacle s headerId d .ownership) ↔
    ∀ id, (id = .writable → asksWritable d = true) → ¬ Obstacle s headerId d id := by
  constructor
  · rintro ⟨-, hthermal, htemperature, htarget, hownership⟩ id hid
    cases id with
    | writable => exact absurd ((hid rfl).symm.trans hd) (by decide)
    | target => exact htarget
    | ownership => exact hownership
    | temperature => exact htemperature
    | thermal => exact hthermal
    | stallProbeEligible =>
      rintro ⟨rfl, -⟩
      cases hd
    | role | readback | safeMinimum | reclaim | originalState | supporting => exact False.elim
  · intro h
    exact ⟨trivial, h _ nofun, h _ nofun, h _ nofun, h _ nofun⟩

/-- A `POST` refuses just where an obstacle stands that it asks about, and says which. -/
theorem start_guards (hup : s.shuttingDown = false) : (start s headerId d).Guards
    (∀ id, (id = .writable → asksWritable d = true) → ¬ Obstacle s headerId d id) (Named s headerId d) := by
  cases d with
  | verify => exact (sweepGuards s headerId .verify hup _).congr (asked_iff rfl)
  | characterization => exact (sweepGuards s headerId .characterization hup _).congr (asked_iff rfl)
  | controlPathDiscovery =>
    refine (discoveryGuards s headerId hup).congr ?_
    constructor
    · rintro ⟨-, hthermal, htemperature, htarget, hwritable, hownership⟩ id -
      cases id with
      | writable => exact hwritable
      | target => exact htarget
      | ownership => exact hownership
      | temperature => exact htemperature
      | thermal => exact hthermal
      | stallProbeEligible => exact fun h => nomatch h.1
      | role | readback | safeMinimum | reclaim | originalState | supporting => exact False.elim
    · intro h
      exact ⟨trivial, h _ nofun, h _ nofun, h _ nofun, h _ fun _ => rfl, h _ nofun⟩
  | stallProbe =>
    refine (stallProbeGuards s headerId hup).congr ?_
    constructor
    · rintro ⟨-, hthermal, htemperature, htarget, heligible, hownership⟩ id -
      cases id with
      | writable => exact mt (stallProbeEligible_of_writable htarget) heligible
      | target => exact htarget
      | ownership => exact hownership
      | temperature => exact htemperature
      | thermal => exact hthermal
      | stallProbeEligible => exact heligible
      | role | readback | safeMinimum | reclaim | originalState | supporting => exact False.elim
    · intro h
      exact ⟨trivial, h _ nofun, h _ nofun, h _ nofun, h _ nofun, h _ nofun⟩

/-! ## Whether they agree -/

/-- The preflight of a diagnostic says what its `POST` would. -/
structure IsThePostsAnswer (s : AppState F) (headerId : String) (d : Diagnostic) (reverts : Nat) : Prop where
  verdict : (buildReport (gatherPreflight s headerId d reverts)).verdict = .blocked ↔ ∃ r, start s headerId d = .error r
  reason : ∀ r, start s headerId d = .error r →
    ∃ id, r.check = some id ∧ id ∈ (buildReport (gatherPreflight s headerId d reverts)).blocking
  temperature : (∃ sensor ∈ s.sensors, isCpu sensor = true) →
    ((temperatureCheck (gatherPreflight s headerId d reverts)).state = .pass ↔
      ∃ t, hottestCpuReading s.sensors s.cache.now (cpuTempStaleAfter s.hwmonPollIntervalMs) = .fresh t)

/-- A header that is there and cannot be written, and nothing else in the way of a diagnostic that does not ask. -/
structure OnlyReadOnly (s : AppState F) (headerId : String) (d : Diagnostic) : Prop where
  unasked : d = .verify ∨ d = .characterization
  readOnly : ∃ h, s.header headerId = some h ∧ h.isWritable = false
  calm : thermalForceState s = none ∧ checkThermalSafety s = .ok ()
  usable : (cacheTemperatureFreshness s).isUsable = true
  free : s.cache.verifyActive = false ∧ s.cache.openfanMaintenanceRunning = false

theorem onlyReadOnly_iff : OnlyReadOnly s headerId d ↔ Obstacle s headerId d .writable ∧
    asksWritable d = false ∧ ∀ id, (id = .writable → asksWritable d = true) → ¬ Obstacle s headerId d id := by
  constructor
  · rintro ⟨hd, ⟨h, hknown, hro⟩, ⟨hforce, hhot⟩, husable, hfree⟩
    have hasks : asksWritable d = false := by rcases hd with rfl | rfl <;> rfl
    refine ⟨by simp [hknown, hro], hasks, (asked_iff hasks).mp ⟨trivial, ?_, ?_, ?_, ?_⟩⟩
    · simp [hforce, hhot]
    · simp [husable]
    · simp [hknown]
    · simp [hfree]
  · rintro ⟨hwritable, hasks, hclear⟩
    obtain ⟨-, hthermal, htemperature, htarget, hownership⟩ := (asked_iff hasks).mpr hclear
    obtain ⟨h, hknown⟩ := Option.ne_none_iff_exists'.mp htarget
    refine ⟨?_, ⟨h, hknown, by simpa [hknown] using hwritable⟩, ?_, by simpa using htemperature,
      by simpa using hownership⟩
    · cases d with
      | verify => exact .inl rfl
      | characterization => exact .inr rfl
      | controlPathDiscovery | stallProbe => cases hasks
    · simp only [Obstacle, not_or, not_exists] at hthermal
      refine ⟨by simpa using hthermal.1, ?_⟩
      cases hhot : checkThermalSafety s with
      | error hot => exact absurd hhot (hthermal.2 hot)
      | ok u => rfl

theorem isThePostsAnswer_iff (hup : s.shuttingDown = false) :
    IsThePostsAnswer s headerId d reverts ↔ ¬ OnlyReadOnly s headerId d := by
  have hguards : (start s headerId d).Guards _ (Named s headerId d) := start_guards hup
  constructor
  · intro h hro
    obtain ⟨hwritable, -, hclear⟩ := onlyReadOnly_iff.mp hro
    have hblocked : (buildReport (gatherPreflight s headerId d reverts)).verdict = .blocked :=
      verdict_iff.mpr ⟨.writable, mem_blocking_iff.mpr hwritable⟩
    exact hguards.refuses_iff.mp (h.verdict.mp hblocked) hclear
  · intro hro
    refine ⟨?_, ?_, ?_⟩
    · rw [verdict_iff, hguards.refuses_iff]
      simp only [mem_blocking_iff]
      constructor
      · rintro ⟨id, hobstacle⟩ hclear
        have hunasked : id = .writable ∧ asksWritable d = false := by
          by_contra hasked
          exact hclear id (fun hid => by simpa [hid] using hasked) hobstacle
        exact hro (onlyReadOnly_iff.mpr ⟨hunasked.1 ▸ hobstacle, hunasked.2, hclear⟩)
      · intro hrefused
        by_contra hnone
        exact hrefused fun id _ hobstacle => hnone ⟨id, hobstacle⟩
    · intro r hr
      obtain ⟨id, hid, hobstacle⟩ := hguards.answers r hr
      exact ⟨id, hid, mem_blocking_iff.mpr hobstacle⟩
    · intro hcpu
      rw [← isUsable_iff_fresh hcpu]
      exact temperatureCheck_pass _ not_isUsable_of_empty

/-- On a daemon that stays up, the preflight of a header and a diagnostic is the answer of the `POST` (it blocks
just where that refuses, it names the check of the refusal, and its temperature row passes just where the thermal
ladder acts on a CPU reading) unless a header that cannot be written is the one thing in the way of a verify or a
characterisation, which do not ask. -/
theorem preflight_is_the_posts_answer_iff (s : AppState F) (hup : s.shuttingDown = false) (headerId : String)
    (d : Diagnostic) (reverts : Nat) : IsThePostsAnswer s headerId d reverts ↔ ¬ OnlyReadOnly s headerId d :=
  isThePostsAnswer_iff hup

/-- A board with one header nobody may write, and a CPU at 45 °C read just now. -/
def readOnlyBoard : AppState Nat where
  shuttingDown := false
  cache := { Health.DaemonState.default with now := 60000000000 }
  hwmonPollIntervalMs := 1000
  sensors := [⟨⟨"hwmon:k10temp:temp1", .cpuTemp, .fin 45, 60000000000⟩, 60000000000⟩]
  openfanFans := .empty
  hwmonFans := .empty
  gpuFans := .empty
  hwmonController := some (KMap.empty.insert "hwmon:it8696:pwm1"
    ⟨"/sys/class/hwmon/hwmon3/pwm1", none, some "/sys/class/hwmon/hwmon3/fan1_input", false, .chassisFan, .label, none⟩)
  files := fun _ => ⟨some 128, none, some 900⟩
  headerRoles := .empty
  activeProfile := none
  coolingDevices := []

theorem read_only_header_blocks_the_probe_and_its_post : IsThePostsAnswer readOnlyBoard "hwmon:it8696:pwm1" .stallProbe 0 :=
  (preflight_is_the_posts_answer_iff readOnlyBoard rfl "hwmon:it8696:pwm1" .stallProbe 0).mpr fun h =>
    h.unasked.elim nofun nofun

theorem blocked_verify_starts : ¬ IsThePostsAnswer readOnlyBoard "hwmon:it8696:pwm1" .verify 0 := by
  rw [isThePostsAnswer_iff rfl, not_not]
  exact ⟨.inl rfl, ⟨_, rfl, rfl⟩, ⟨rfl, rfl⟩, by decide, by decide⟩

end ControlOfc.Diagnostics.Preflight
