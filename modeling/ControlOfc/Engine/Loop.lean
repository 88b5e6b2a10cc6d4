import ControlOfc.Engine.Evaluate
import Mathlib.Data.List.Infix
/-! # The control loop, seen from one visit

Nothing in the loop touches what a tick is set up with (`SameSetup`), so every visit is a call of
`controlStep` on the setup the tick began with (`visit_spec`), and the outputs it sees are those
published by the visits before it (`tickOutputs_eq`).
-/
namespace ControlOfc.Engine
open Profile Override

/-- The parts of the state an evaluation reads but never writes. -/
structure SameSetup (s s' : ProfileEngineState) : Prop where
  quarantinedSensorIds : s'.quarantinedSensorIds = s.quarantinedSensorIds
  activeProfileId : s'.activeProfileId = s.activeProfileId
  staticCache : s'.staticCache = s.staticCache
  assignedRoles : s'.assignedRoles = s.assignedRoles
  headerFacts : s'.headerFacts = s.headerFacts

namespace SameSetup

variable {s s' s'' : ProfileEngineState}

theorem refl (s : ProfileEngineState) : SameSetup s s := ⟨rfl, rfl, rfl, rfl, rfl⟩

theorem trans (h : SameSetup s s') (h' : SameSetup s' s'') : SameSetup s s'' :=
  ⟨h'.1.trans h.1, h'.2.trans h.2, h'.3.trans h.3, h'.4.trans h.4, h'.5.trans h.5⟩

theorem protection (h : SameSetup s s') : s'.protection = s.protection := by
  simp only [ProfileEngineState.protection, h.assignedRoles, h.headerFacts]

theorem cachedCurve (h : SameSetup s s') (p : DaemonProfile ℚ) (id : String) :
    s'.cachedCurve p id = s.cachedCurve p id := by
  simp only [ProfileEngineState.cachedCurve, h.staticCache]

end SameSetup

/-- What resolving a control's curve may change: the entries under its own id in the four curve maps. -/
structure CurveFrame (id : String) (s s' : ProfileEngineState) : Prop extends SameSetup s s' where
  lastOutput : s'.lastOutput = s.lastOutput
  lastCurveOutput : ∀ k ≠ id, s'.lastCurveOutput.get? k = s.lastCurveOutput.get? k
  lastTransitionTemp : ∀ k ≠ id, s'.lastTransitionTemp.get? k = s.lastTransitionTemp.get? k
  triggerLatch : ∀ k ≠ id, s'.triggerLatch.get? k = s.triggerLatch.get? k
  deadbandHoldCycles : ∀ k ≠ id, s'.deadbandHoldCycles.get? k = s.deadbandHoldCycles.get? k

theorem CurveFrame.refl (id : String) (s : ProfileEngineState) : CurveFrame id s s where
  toSameSetup := .refl s
  lastOutput := rfl
  lastCurveOutput _ _ := rfl
  lastTransitionTemp _ _ := rfl
  triggerLatch _ _ := rfl
  deadbandHoldCycles _ _ := rfl

section Step

variable (p : DaemonProfile ℚ) (sensors : Sensors) (overrides : OverrideSnapshot)

theorem reanchor_frame (id : String) (s : ProfileEngineState) (curveOutput t : ℚ) :
    CurveFrame id s (reanchor s id curveOutput t) where
  toSameSetup := ⟨rfl, rfl, rfl, rfl, rfl⟩
  lastOutput := rfl
  lastCurveOutput k hk := KMap.get?_insert_of_ne _ _ hk
  lastTransitionTemp k hk := by
    have hins : (s.lastTransitionTemp.insert id t).get? k = s.lastTransitionTemp.get? k :=
      KMap.get?_insert_of_ne _ _ hk
    have hite : ∀ moveAnchor : Bool, (if moveAnchor then s.lastTransitionTemp.insert id t else s.lastTransitionTemp).get? k =
        s.lastTransitionTemp.get? k := by
      intro moveAnchor
      cases moveAnchor
      · rfl
      · exact hins
    exact hite _
  triggerLatch _ _ := rfl
  deadbandHoldCycles k hk := KMap.get?_remove_of_ne _ hk

theorem evaluateCurveWithDeadband_frame (id : String) (curve : CurveConfig ℚ) (t : ℚ) (s : ProfileEngineState) :
    CurveFrame id s (evaluateCurveWithDeadband id curve t s).1 := by
  unfold evaluateCurveWithDeadband
  dsimp only
  split
  · split
    · -- a hold only counts itself, under the control's own id
      split
      · refine { CurveFrame.refl id s with deadbandHoldCycles := fun k hk => ?_ }
        exact KMap.get?_insert_of_ne _ _ hk
      · refine { reanchor_frame id s _ t with deadbandHoldCycles := fun k hk => ?_ }
        exact (KMap.get?_remove_of_ne _ hk).trans (KMap.get?_insert_of_ne _ _ hk)
    · exact reanchor_frame id s _ t
  · exact reanchor_frame id s _ t

theorem evaluateTrigger_frame (id : String) (curve : CurveConfig ℚ) (t : ℚ) (s : ProfileEngineState) :
    CurveFrame id s (evaluateTrigger id curve t s).1 :=
  { CurveFrame.refl id s with triggerLatch := fun _ hk => KMap.get?_insert_of_ne _ _ hk }

theorem curveOutputForControl_frame (control : LogicalControl ℚ) (curve : CurveConfig ℚ)
    (tickOutputs : KMap String ℚ) (s : ProfileEngineState) :
    CurveFrame control.id s (curveOutputForControl control curve p sensors tickOutputs s).state := by
  unfold curveOutputForControl
  split
  · exact .refl _ s
  · exact .refl _ s
  · exact .refl _ s
  · split
    · exact evaluateTrigger_frame _ _ _ s
    · exact .refl _ s
  · split
    · exact evaluateCurveWithDeadband_frame _ _ _ s
    · exact .refl _ s

theorem rawOutput_frame (control : LogicalControl ℚ) (tickOutputs : KMap String ℚ) (s : ProfileEngineState) :
    CurveFrame control.id s (rawOutput p sensors control tickOutputs s).state := by
  unfold rawOutput
  split
  · exact .refl _ s
  · split
    · exact .refl _ s
    · exact curveOutputForControl_frame p sensors _ _ _ s

theorem controlStep_setup (control : LogicalControl ℚ) (tickOutputs : KMap String ℚ) (s : ProfileEngineState) :
    SameSetup s (controlStep p sensors overrides control tickOutputs s).state := by
  unfold controlStep
  split
  · exact .refl s
  · have h := (rawOutput_frame p sensors control tickOutputs s).toSameSetup
    dsimp only
    split
    · exact h
    · exact h.trans ⟨rfl, rfl, rfl, rfl, rfl⟩

end Step

/-! ## The run -/

/-- The entry a visit leaves in `tick_outputs`. -/
def Visit.published (v : Visit) : Option (String × ℚ) := v.outcome.output.map fun x => (v.control.id, x)

section Run

variable (p : DaemonProfile ℚ) (sensors : Sensors) (overrides : OverrideSnapshot)

/-- The locals after the controls of `order`. -/
def loop (s : ProfileEngineState) (order : List Nat) : TickAcc :=
  Machine.run (visitControl p sensors overrides) ⟨s, .empty, []⟩ order

@[simp] theorem loop_nil (s : ProfileEngineState) : loop p sensors overrides s [] = ⟨s, .empty, []⟩ := rfl

theorem loop_snoc (s : ProfileEngineState) (order : List Nat) (idx : Nat) :
    loop p sensors overrides s (order ++ [idx]) =
      visitControl p sensors overrides (loop p sensors overrides s order) idx := by
  simp [loop]

/-- What a visit was computed from: the outputs and the state left by the visits before it. -/
structure VisitFrom (acc : TickAcc) (v : Visit) : Prop where
  control : p.controls[v.idx]? = some v.control
  outcome : v.outcome = (controlStep p sensors overrides v.control acc.tickOutputs acc.state).outcome
  commands : v.commands = (controlStep p sensors overrides v.control acc.tickOutputs acc.state).commands
  cuts : v.cuts = (controlStep p sensors overrides v.control acc.tickOutputs acc.state).cuts

variable {p sensors overrides}

theorem visitControl_cases (acc : TickAcc) (idx : Nat) :
    (p.controls[idx]? = none ∧ visitControl p sensors overrides acc idx = acc) ∨
      ∃ v : Visit, v.idx = idx ∧ VisitFrom p sensors overrides acc v ∧
        (visitControl p sensors overrides acc idx).visits = acc.visits ++ [v] ∧
        (visitControl p sensors overrides acc idx).state =
          (controlStep p sensors overrides v.control acc.tickOutputs acc.state).state ∧
        (visitControl p sensors overrides acc idx).tickOutputs =
          (v.published.toList).foldl (fun m kv => m.insert kv.1 kv.2) acc.tickOutputs := by
  unfold visitControl
  cases hc : p.controls[idx]? with
  | none => exact .inl ⟨rfl, rfl⟩
  | some control =>
    refine .inr ⟨⟨idx, control, _, _, _⟩, rfl, ⟨hc, rfl, rfl, rfl⟩, rfl, rfl, ?_⟩
    unfold Visit.published
    dsimp only
    cases (controlStep p sensors overrides control acc.tickOutputs acc.state).outcome.output <;> rfl

theorem loop_setup (s : ProfileEngineState) (order : List Nat) :
    SameSetup s (loop p sensors overrides s order).state := by
  induction order using List.reverseRecOn with
  | nil => exact .refl s
  | append_singleton order idx ih =>
    rw [loop_snoc]
    rcases visitControl_cases (loop p sensors overrides s order) idx with ⟨-, h⟩ | ⟨v, -, -, -, h, -⟩
    · rw [h]
      exact ih
    · rw [h]
      exact ih.trans (controlStep_setup p sensors overrides _ _ _)

/-- `tick_outputs` holds what the visits published, the last of an id winning. -/
theorem tickOutputs_eq (s : ProfileEngineState) (order : List Nat) :
    (loop p sensors overrides s order).tickOutputs =
      KMap.ofList ((loop p sensors overrides s order).visits.filterMap Visit.published) := by
  induction order using List.reverseRecOn with
  | nil => rfl
  | append_singleton order idx ih =>
    rw [loop_snoc]
    rcases visitControl_cases (loop p sensors overrides s order) idx with ⟨-, h⟩ | ⟨v, -, -, hv, -, ht⟩
    · rw [h]
      exact ih
    · rw [hv, ht, ih, List.filterMap_append, KMap.ofList, KMap.ofList, List.foldl_append]
      cases hp : v.published <;> simp [hp]

theorem loop_visits_idx (s : ProfileEngineState) {order : List Nat} (horder : ∀ i ∈ order, i < p.controls.length) :
    (loop p sensors overrides s order).visits.map (·.idx) = order := by
  induction order using List.reverseRecOn with
  | nil => rfl
  | append_singleton order idx ih =>
    rw [loop_snoc]
    have hidx : idx < p.controls.length := horder idx (by simp)
    rcases visitControl_cases (p := p) (loop p sensors overrides s order) idx with ⟨h, -⟩ | ⟨v, hv, -, hvs, -, -⟩
    · rw [List.getElem?_eq_none_iff] at h
      omega
    · rw [hvs, List.map_append, ih fun i hi => horder i (List.mem_append_left _ hi), List.map_singleton, hv]

/-- **Every visit is one call of `controlStep`**, on what the visits before it left. -/
theorem visit_spec (s : ProfileEngineState) (order : List Nat) {v : Visit}
    (hv : v ∈ (loop p sensors overrides s order).visits) :
    ∃ pre post, order = pre ++ v.idx :: post ∧
      VisitFrom p sensors overrides (loop p sensors overrides s pre) v := by
  induction order using List.reverseRecOn with
  | nil => cases hv
  | append_singleton order idx ih =>
    rw [loop_snoc] at hv
    have hold : v ∈ (loop p sensors overrides s order).visits → ∃ pre post, order ++ [idx] = pre ++ v.idx :: post ∧
        VisitFrom p sensors overrides (loop p sensors overrides s pre) v := by
      intro hmem
      obtain ⟨pre, post, rfl, hfrom⟩ := ih hmem
      exact ⟨pre, post ++ [idx], by simp, hfrom⟩
    rcases visitControl_cases (loop p sensors overrides s order) idx with ⟨-, h⟩ | ⟨v', rfl, hfrom, hvs, -, -⟩
    · rw [h] at hv
      exact hold hv
    · rw [hvs] at hv
      rcases List.mem_append.mp hv with hmem | hmem
      · exact hold hmem
      · rw [List.mem_singleton.mp hmem]
        exact ⟨order, [], rfl, hfrom⟩

/-- Earlier visits stay. -/
theorem loop_visits_grown (s : ProfileEngineState) (pre post : List Nat) :
    (loop p sensors overrides s pre).visits <+: (loop p sensors overrides s (pre ++ post)).visits := by
  induction post using List.reverseRecOn with
  | nil => rw [List.append_nil]
  | append_singleton post idx ih =>
    rw [← List.append_assoc, loop_snoc]
    rcases visitControl_cases (loop p sensors overrides s (pre ++ post)) idx with ⟨-, h⟩ | ⟨v, -, -, hvs, -, -⟩
    · rwa [h]
    · rw [hvs]
      exact ih.trans (List.prefix_append _ _)

end Run

/-! ## The tick -/

/-- The identify pass on one command. -/
def identified (o : OverrideSnapshot) (cmd : PwmCommand) : PwmCommand :=
  match o.identify.get? cmd.memberId with
  | some target => { cmd with pwmPercent := target }
  | none => cmd

theorem applyIdentify_eq (o : OverrideSnapshot) (cmds : List PwmCommand) :
    applyIdentify o cmds = cmds.map (identified o) := rfl

/-- Entering a profile keeps what the tick has installed. -/
theorem prepare_installed (s : ProfileEngineState) (p : DaemonProfile ℚ) :
    (s.prepare p).quarantinedSensorIds = s.quarantinedSensorIds ∧ (s.prepare p).assignedRoles = s.assignedRoles ∧
      (s.prepare p).headerFacts = s.headerFacts := by
  obtain ⟨cache, hcache⟩ := (s.syncProfileId p.id).ensureStaticCache_eq p
  rw [ProfileEngineState.prepare, hcache]
  unfold ProfileEngineState.syncProfileId
  split <;> exact ⟨rfl, rfl, rfl⟩

theorem prepare_protection (s : ProfileEngineState) (p : DaemonProfile ℚ) : (s.prepare p).protection = s.protection := by
  obtain ⟨-, hroles, hfacts⟩ := prepare_installed s p
  simp only [ProfileEngineState.protection, hroles, hfacts]

theorem prepare_staticCache {s : ProfileEngineState} {p : DaemonProfile ℚ}
    (h : s.activeProfileId = some p.id → s.staticCache = none ∨
      s.staticCache = some ⟨topologicalControlOrder p, curveIndex p⟩) :
    (s.prepare p).staticCache = some ⟨topologicalControlOrder p, curveIndex p⟩ := by
  unfold ProfileEngineState.prepare ProfileEngineState.ensureStaticCache ProfileEngineState.syncProfileId
  by_cases hid : s.activeProfileId = some p.id
  · rw [if_pos hid]
    rcases h hid with hc | hc
    · rw [hc]
    · rw [hc]
      dsimp only
      split
      · rw [hc]
      · rfl
  · rw [if_neg hid]
    rfl

theorem evaluate_visits (p : DaemonProfile ℚ) (sensors : Sensors) (s : ProfileEngineState) (o : OverrideSnapshot) :
    (evaluateProfileWithOverrides p sensors s o).visits =
      (loop p sensors o (s.prepare p) (s.prepare p).evalOrder).visits := rfl

end ControlOfc.Engine
