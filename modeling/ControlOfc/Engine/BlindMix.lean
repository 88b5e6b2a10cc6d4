import ControlOfc.Engine.BlindHold
import ControlOfc.Engine.HardFloor
/-! # A mix that misses an input, over plain ticks

`curve_output_for_control` holds a degraded mix at the last tuned output, and the tuning pipeline then runs on
the held value: an offset below zero takes it down again, and the stop threshold takes a start kick back.
`mix_kept_up` states exactly when the tuned output does not fall.
-/
namespace ControlOfc.Engine
open Profile Override ProfileEngineState

/-! ## What tuning keeps -/

theorem le_clampPct_iff {prev x : ℚ} (hnonneg : 0 ≤ prev) (hle : prev ≤ 100) :
    prev ≤ clampPct x ↔ prev = 0 ∨ prev ≤ x := by
  unfold clampPct
  split
  · next hx =>
    refine ⟨fun h => .inl (le_antisymm h hnonneg), ?_⟩
    rintro (rfl | h)
    · exact le_refl _
    · exact absurd (hnonneg.trans h) (not_le.mpr hx)
  · next hx =>
    split
    · next hx' => exact ⟨fun h => .inr (h.trans hx'.le), fun _ => hle⟩
    · refine ⟨.inr, ?_⟩
      rintro (rfl | h)
      · exact not_lt.mp hx
      · exact h

theorem le_rateLimit_iff (c : LogicalControl ℚ) (x prev y : ℚ) :
    x ≤ rateLimit c (some prev) y ↔ (x ≤ y ∨ x ≤ prev - max c.stepDownPct 0) ∧ x ≤ prev + max c.stepUpPct 0 := by
  unfold rateLimit
  rw [le_min_iff, le_max_iff]

/-- The tuned output of a held mix is at least `prev`: it was zero, or neither the offset with the step down,
nor the stop threshold takes it below. -/
def KeepsUp (c : LogicalControl ℚ) (prev value : ℚ) : Prop :=
  let d := demand c (max value prev) c.minimumPct
  prev = 0 ∨
    ((prev ≤ d ∨ c.stepDownPct ≤ 0) ∧
      (c.stopPct ≤ 0 ∨
        ((c.stopPct ≤ d ∨ c.stopPct ≤ prev - max c.stepDownPct 0) ∧ c.stopPct ≤ prev + max c.stepUpPct 0)))

instance (c : LogicalControl ℚ) (prev value : ℚ) : Decidable (KeepsUp c prev value) := by
  unfold KeepsUp
  infer_instance

theorem le_applyTuning_iff (c : LogicalControl ℚ) {prev value : ℚ} (hnonneg : 0 ≤ prev) (hle : prev ≤ 100) :
    prev ≤ applyTuning c (max value prev) (some prev) ↔ KeepsUp c prev value := by
  unfold applyTuning applyTuningWithFloor KeepsUp
  dsimp only
  rw [le_clampPct_iff hnonneg hle]
  refine or_congr_right' fun hzero => ?_
  have hkick : ∀ d x, startKick c false (some prev) d x = x := by
    intro d x
    unfold startKick
    rw [if_neg]
    rintro ⟨-, h, -⟩
    exact hzero (Option.some.inj h)
  rw [hkick]
  have hup : prev ≤ prev + max c.stepUpPct 0 := by simp
  have hrate : prev ≤ rateLimit c (some prev) (demand c (max value prev) c.minimumPct) ↔
      (prev ≤ demand c (max value prev) c.minimumPct ∨ c.stepDownPct ≤ 0) := by
    rw [le_rateLimit_iff, and_iff_left hup]
    simp
  unfold stopSnap
  simp only [Bool.not_false, true_and]
  split
  · next hsnap =>
    obtain ⟨hstop, hbelow⟩ := hsnap
    constructor
    · intro h
      exact absurd (le_antisymm h hnonneg) hzero
    · rintro ⟨-, h | h⟩
      · exact absurd hstop (not_lt.mpr h)
      · exact absurd ((le_rateLimit_iff _ _ _ _).mpr h) (not_le.mpr hbelow)
  · next hsnap =>
    rw [hrate]
    refine ⟨fun h => ⟨h, ?_⟩, fun h => h.1⟩
    by_cases hstop : 0 < c.stopPct
    · have hkept := not_lt.mp fun hbelow => hsnap ⟨hstop, hbelow⟩
      exact .inr ((le_rateLimit_iff _ _ _ _).mp hkept)
    · exact .inl (not_lt.mp hstop)

/-! ## Trackers are percentages -/

def TrackersInRange (s : ProfileEngineState) : Prop := ∀ k v, s.lastOutput.get? k = some v → 0 ≤ v ∧ v ≤ 100

theorem applyTuningWithFloor_mem (c : LogicalControl ℚ) (raw : ℚ) (last : Option ℚ) (floor : ℚ) (hard : Bool) :
    0 ≤ applyTuningWithFloor c raw last floor hard ∧ applyTuningWithFloor c raw last floor hard ≤ 100 :=
  ⟨clampPct_nonneg _, clampPct_le _⟩

theorem inRange_insert {m : KMap String ℚ} (h : ∀ k v, m.get? k = some v → 0 ≤ v ∧ v ≤ 100) (key : String) {x : ℚ}
    (hx : 0 ≤ x ∧ x ≤ 100) : ∀ k v, (m.insert key x).get? k = some v → 0 ≤ v ∧ v ≤ 100 := by
  intro k v hv
  by_cases hk : k = key
  · subst hk
    rw [KMap.get?_insert_self] at hv
    obtain rfl := Option.some.inj hv
    exact hx
  · rw [KMap.get?_insert_of_ne _ _ hk] at hv
    exact h k v hv

theorem tuneControl_inRange {s : ProfileEngineState} (h : TrackersInRange s) (c : LogicalControl ℚ) (raw : ℚ) :
    TrackersInRange (tuneControl c raw s).1 := by
  let I : KMap String ℚ → Prop := fun m => ∀ k v, m.get? k = some v → 0 ≤ v ∧ v ≤ 100
  refine Machine.run_inv (I := I) (fun m member hm => ?_) _ c.members
    (inRange_insert h c.id (applyTuningWithFloor_mem c raw _ _ _))
  unfold MemberLoop.step
  split
  · exact inRange_insert hm _ (applyTuningWithFloor_mem _ _ _ _ _)
  · exact hm

theorem controlStep_inRange (p : DaemonProfile ℚ) (sensors : Sensors) (o : OverrideSnapshot) (c : LogicalControl ℚ)
    (tick : KMap String ℚ) {s : ProfileEngineState} (h : TrackersInRange s) :
    TrackersInRange (controlStep p sensors o c tick s).state := by
  have hraw : TrackersInRange (rawOutput p sensors c tick s).state := by
    intro k v hv
    rw [(rawOutput_frame p sensors c tick s).lastOutput] at hv
    exact h k v hv
  unfold controlStep
  split
  · exact h
  · dsimp only
    split
    · exact hraw
    · exact tuneControl_inRange hraw c _

theorem evaluate_inRange (p : DaemonProfile ℚ) (sensors : Sensors) (o : OverrideSnapshot) {s : ProfileEngineState}
    (h : TrackersInRange (s.prepare p)) : TrackersInRange (evaluateProfileWithOverrides p sensors s o).state := by
  refine Machine.run_inv (I := fun acc : TickAcc => TrackersInRange acc.state) (fun acc idx hacc => ?_) _ _ h
  unfold visitControl
  split
  · exact hacc
  · exact controlStep_inRange p sensors o _ _ hacc

theorem inRange_of_drop {m m' : KMap String ℚ} (h : ∀ k v, m.get? k = some v → 0 ≤ v ∧ v ≤ 100)
    (hsub : ∀ k, m'.get? k = none ∨ m'.get? k = m.get? k) : ∀ k v, m'.get? k = some v → 0 ≤ v ∧ v ≤ 100 := by
  intro k v hv
  rcases hsub k with hnone | hsame
  · rw [hnone] at hv
    cases hv
  · exact h k v (hsame.symm.trans hv)

theorem prepare_inRange {s : ProfileEngineState} (h : TrackersInRange s) (p : DaemonProfile ℚ) :
    TrackersInRange (s.prepare p) :=
  inRange_of_drop h (prepare_lastOutput s p)

theorem engineStep_inRange (p : DaemonProfile ℚ) {s : ProfileEngineState} (h : TrackersInRange s) (e : EngineEvent) :
    TrackersInRange (engineStep p s e) := by
  cases e with
  | install quarantined roles facts => exact h
  | resetControl controlId => exact inRange_of_drop h (resetControl_lastOutput s controlId)
  | evaluate sensors overrides => exact evaluate_inRange p sensors overrides (prepare_inRange h p)
  | resetForForcedTick =>
    intro k v hv
    cases hv
  | deactivate =>
    intro k v hv
    cases hv

/-! ## A plain tick -/

/-- What a tick with no override, no override cleared and no force is given. -/
structure PlainTick where
  quarantined : List String
  roles : KMap String HeaderRole
  facts : KMap String HeaderFacts
  sensors : Sensors

def PlainTick.input (t : PlainTick) : TickInput := ⟨[], t.quarantined, t.roles, t.facts, t.sensors, noOverrides⟩

def plainStep (p : DaemonProfile ℚ) (s : ProfileEngineState) (t : PlainTick) : ProfileEngineState :=
  (engineTick p s t.input).state

/-- The state the tick's loop starts from. -/
def enteringPlain (p : DaemonProfile ℚ) (s : ProfileEngineState) (t : PlainTick) : ProfileEngineState :=
  (s.enter t.input).prepare p

/-- The control's mix misses an input this tick and still resolves, to `value`. -/
structure ResolvesBlind (p : DaemonProfile ℚ) (c : LogicalControl ℚ) (t : PlainTick) (curve : CurveConfig ℚ)
    (value : ℚ) : Prop where
  mode : c.mode ≠ .manual
  written : lastCurve p c.curveId = some curve
  mix : curve.curveType = .mix
  missing : (resolveRoot p t.sensors t.quarantined curve).degraded = true
  value : (resolveRoot p t.sensors t.quarantined curve).value = some value

/-- No other control writes the control's tracker. -/
structure Own (p : DaemonProfile ℚ) (c : LogicalControl ℚ) : Prop where
  ids : (p.controls.map (·.id)).Nodup
  keys : KeysApart p (· = c.id)

section Plain

variable {p : DaemonProfile ℚ} {c : LogicalControl ℚ} {s : ProfileEngineState} {t : PlainTick}

theorem tuneControl_lastOutput (c : LogicalControl ℚ) (raw : ℚ) (s : ProfileEngineState) :
    (tuneControl c raw s).1.lastOutput.get? c.id = some (applyTuning c raw (s.lastOutput.get? c.id)) := by
  unfold tuneControl
  dsimp only
  rw [memberLoop_other _ _ fun m _ => (memberKey_ne c.id m.memberId).symm]
  exact KMap.get?_insert_self _ _ _

/-- **A blind tick's output**: the held value, tuned, both in the tracker and for those that mirror it. -/
theorem output_of_blind (hs : ForProfile p s) (hc : c ∈ p.controls) (hown : Own p c) {curve : CurveConfig ℚ} {value : ℚ}
    (hblind : ResolvesBlind p c t curve value) {prev : ℚ} (hprev : (enteringPlain p s t).lastOutput.get? c.id = some prev) :
    (plainStep p s t).lastOutput.get? c.id = some (applyTuning c (max value prev) (some prev)) ∧
      (plainStep p s t).tickOutputs.get? c.id = some (applyTuning c (max value prev) (some prev)) := by
  obtain ⟨pre, i, post, haround⟩ := exists_around hown.ids hc
  have hentered : ForProfile p (s.enter t.input) := forProfile_enter hs t.input
  have hagree : ControlAgree c (enteringPlain p s t) (loop p t.sensors noOverrides (enteringPlain p s t) pre).state := by
    have happart := loop_apart t.sensors noOverrides (enteringPlain p s t) [] pre fun j hj =>
      haround.disjoint hown.keys rfl j (List.mem_append_left _ hj)
    rwa [List.nil_append, loop_nil] at happart
  have hcached : (loop p t.sensors noOverrides (enteringPlain p s t) pre).state.cachedCurve p c.curveId =
      lastCurve p c.curveId := cachedCurve_loop hentered pre c.curveId
  obtain ⟨hquar, -, -⟩ := prepare_installed (s.enter t.input) p
  -- what the control's own step starts from
  have hraw : (rawOutput p t.sensors c (loop p t.sensors noOverrides (enteringPlain p s t) pre).tickOutputs
      (loop p t.sensors noOverrides (enteringPlain p s t) pre).state).value = .ok (max value prev) := by
    refine rawOutput_mix _ hblind.mode (hcached.trans hblind.written) hblind.mix ?_
    rw [← hagree.quarantinedSensorIds, ← hagree.lastOutput _ (id_mem_ownKeys c), hprev]
    unfold holdDegraded
    rw [show (enteringPlain p s t).quarantinedSensorIds = t.quarantined from hquar, hblind.missing, hblind.value]
    rfl
  have hframe := rawOutput_frame p t.sensors c (loop p t.sensors noOverrides (enteringPlain p s t) pre).tickOutputs
    (loop p t.sensors noOverrides (enteringPlain p s t) pre).state
  have hlast := (congrArg (fun m => m.get? c.id) hframe.lastOutput).trans
    ((hagree.lastOutput _ (id_mem_ownKeys c)).symm.trans hprev)
  have hfree : noOverrides.controls.get? c.id = none := rfl
  have hstep : (stepAfter p t.sensors noOverrides (enteringPlain p s t) pre c).state.lastOutput.get? c.id =
        some (applyTuning c (max value prev) (some prev)) ∧
      (stepAfter p t.sensors noOverrides (enteringPlain p s t) pre c).outcome.output =
        some (applyTuning c (max value prev) (some prev)) := by
    unfold stepAfter controlStep
    rw [hfree]
    dsimp only
    rw [hraw]
    dsimp only
    rw [tuneControl_lastOutput, hlast]
    refine ⟨rfl, ?_⟩
    unfold tuneControl Outcome.output
    dsimp only
    rw [hlast]
  have hafter := state_of_around t.sensors noOverrides hentered hown.keys rfl haround
  obtain ⟨hpublished, -⟩ := loop_after t.sensors noOverrides (enteringPlain p s t) haround (List.prefix_refl post)
  constructor
  · exact (hafter.lastOutput _ (id_mem_ownKeys c)).symm.trans hstep.1
  · rw [← haround.split, ← evalOrder_prepare hentered] at hpublished
    exact hpublished.trans hstep.2

/-- On a tick that resolves blind, the control's output is at least the one it had. -/
def NotFalling (p : DaemonProfile ℚ) (c : LogicalControl ℚ) (s : ProfileEngineState) (t : PlainTick) : Prop :=
  ∀ curve value prev, ResolvesBlind p c t curve value → (enteringPlain p s t).lastOutput.get? c.id = some prev →
    ∃ now, (plainStep p s t).lastOutput.get? c.id = some now ∧ (plainStep p s t).tickOutputs.get? c.id = some now ∧
      prev ≤ now

/-- On a tick that resolves blind, the control's tracker is its own and tuning keeps the held value up. -/
def Keeps (p : DaemonProfile ℚ) (c : LogicalControl ℚ) (s : ProfileEngineState) (t : PlainTick) : Prop :=
  ∀ curve value prev, ResolvesBlind p c t curve value → (enteringPlain p s t).lastOutput.get? c.id = some prev →
    Own p c ∧ KeepsUp c prev value

/-- What holds of the engine's state at every tick: its trackers are percentages, its plan is the profile's. -/
structure Settled (p : DaemonProfile ℚ) (s : ProfileEngineState) : Prop where
  plan : ForProfile p s
  inRange : TrackersInRange s

theorem Settled.entering (h : Settled p s) (t : PlainTick) : TrackersInRange (enteringPlain p s t) :=
  prepare_inRange (s := s.enter t.input) h.inRange p

theorem Settled.step (h : Settled p s) (t : PlainTick) : Settled p (plainStep p s t) where
  plan := forProfile_evaluate (forProfile_enter h.plan t.input) t.sensors noOverrides
  inRange := evaluate_inRange p t.sensors noOverrides (h.entering t)

theorem notFalling_of_keeps (h : Settled p s) (hc : c ∈ p.controls) (hkeeps : Keeps p c s t) : NotFalling p c s t := by
  intro curve value prev hblind hprev
  obtain ⟨hown, hup⟩ := hkeeps curve value prev hblind hprev
  obtain ⟨hnonneg, hle⟩ := h.entering t _ _ hprev
  obtain ⟨hlast, htick⟩ := output_of_blind h.plan hc hown hblind hprev
  exact ⟨_, hlast, htick, (le_applyTuning_iff c hnonneg hle).mpr hup⟩

theorem keeps_of_notFalling (h : Settled p s) (hc : c ∈ p.controls) (hown : Own p c) (hfalls : NotFalling p c s t) :
    Keeps p c s t := by
  intro curve value prev hblind hprev
  obtain ⟨now, hnow, -, hge⟩ := hfalls curve value prev hblind hprev
  obtain ⟨hnonneg, hle⟩ := h.entering t _ _ hprev
  obtain ⟨hlast, -⟩ := output_of_blind h.plan hc hown hblind hprev
  obtain rfl := Option.some.inj (hnow.symm.trans hlast)
  exact ⟨hown, (le_applyTuning_iff c hnonneg hle).mp hge⟩

end Plain

/-! ## The result -/

/-- A call on the engine's state under whatever profile is active then. -/
def anyStep (s : ProfileEngineState) (call : DaemonProfile ℚ × EngineEvent) : ProfileEngineState :=
  engineStep call.1 s call.2

/-- The hotter of two sensors, ten points under. -/
def quieterControl : LogicalControl ℚ := { hotterControl with offsetPct := -10 }

def quieterProfile : DaemonProfile ℚ := { hotterProfile with controls := [quieterControl] }

def plainTick (sensors : Sensors) : PlainTick := ⟨[], .empty, .empty, sensors⟩

def plainBoth : PlainTick := plainTick [("cpu", 50), ("gpu", 80)]

def plainOne : PlainTick := plainTick [("cpu", 50)]

theorem hotter_resolvesBlind {p : DaemonProfile ℚ} (hp : p.curves = hotterProfile.curves) :
    ResolvesBlind p hotterControl plainOne hotterCurve 50 := by
  have hlast : lastCurve hotterProfile "hotter" = some hotterCurve := by decide
  have hroot : resolveRoot p plainOne.sensors plainOne.quarantined hotterCurve =
      resolveRoot hotterProfile plainOne.sensors plainOne.quarantined hotterCurve := by
    unfold resolveRoot
    rw [resolveCurveOutput_curves hp]
  refine ⟨by decide, (lastCurve_curves hp _).trans hlast, rfl, ?_, ?_⟩
  · rw [hroot]
    decide
  · rw [hroot]
    decide +kernel

end ControlOfc.Engine
