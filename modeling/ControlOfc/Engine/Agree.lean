import ControlOfc.Engine.Views
/-! # What an evaluation does to one control

`ControlAgree c` relates two states that hold the same under `c`'s keys. A step on `c` keeps it and acts
the same on both (`controlStep_agree`), whatever else the two states and the two profiles hold; a step on a
control with other keys leaves it alone (`controlStep_apart`).
-/
namespace ControlOfc.Engine
open Profile Override ProfileEngineState

/-- The keys a control writes: its id, and each member's tracker. -/
def ownKeys (c : LogicalControl ℚ) : List String := c.id :: c.members.map fun m => memberKey c.id m.memberId

theorem id_mem_ownKeys (c : LogicalControl ℚ) : c.id ∈ ownKeys c := List.mem_cons_self

theorem memberKey_mem_ownKeys {c : LogicalControl ℚ} {m : ControlMember} (hm : m ∈ c.members) :
    memberKey c.id m.memberId ∈ ownKeys c :=
  List.mem_cons_of_mem _ (List.mem_map.mpr ⟨m, hm, rfl⟩)

/-- The two states hold the same under the keys of `c`, and the same tick's protection. -/
structure ControlAgree (c : LogicalControl ℚ) (s s' : ProfileEngineState) : Prop where
  quarantinedSensorIds : s.quarantinedSensorIds = s'.quarantinedSensorIds
  assignedRoles : s.assignedRoles = s'.assignedRoles
  headerFacts : s.headerFacts = s'.headerFacts
  lastOutput : ∀ k ∈ ownKeys c, s.lastOutput.get? k = s'.lastOutput.get? k
  lastCurveOutput : s.lastCurveOutput.get? c.id = s'.lastCurveOutput.get? c.id
  lastTransitionTemp : s.lastTransitionTemp.get? c.id = s'.lastTransitionTemp.get? c.id
  triggerLatch : s.triggerLatch.get? c.id = s'.triggerLatch.get? c.id
  deadbandHoldCycles : s.deadbandHoldCycles.get? c.id = s'.deadbandHoldCycles.get? c.id

namespace ControlAgree

variable {c : LogicalControl ℚ} {s s' s'' : ProfileEngineState}

theorem refl (s : ProfileEngineState) : ControlAgree c s s :=
  ⟨rfl, rfl, rfl, fun _ _ => rfl, rfl, rfl, rfl, rfl⟩

theorem symm (h : ControlAgree c s s') : ControlAgree c s' s :=
  ⟨h.1.symm, h.2.symm, h.3.symm, fun k hk => (h.4 k hk).symm, h.5.symm, h.6.symm, h.7.symm, h.8.symm⟩

theorem trans (h : ControlAgree c s s') (h' : ControlAgree c s' s'') : ControlAgree c s s'' :=
  ⟨h.1.trans h'.1, h.2.trans h'.2, h.3.trans h'.3, fun k hk => (h.4 k hk).trans (h'.4 k hk), h.5.trans h'.5,
    h.6.trans h'.6, h.7.trans h'.7, h.8.trans h'.8⟩

theorem protection (h : ControlAgree c s s') : s.protection = s'.protection := by
  simp only [ProfileEngineState.protection, h.assignedRoles, h.headerFacts]

end ControlAgree

theorem insert_agree {α : Type} {m m' : KMap String α} {k : String} (h : m.get? k = m'.get? k) (i : String) (v : α) :
    (m.insert i v).get? k = (m'.insert i v).get? k := by
  rw [KMap.get?_insert, KMap.get?_insert, h]

theorem remove_agree {α : Type} {m m' : KMap String α} {k : String} (h : m.get? k = m'.get? k) (i : String) :
    (m.remove i).get? k = (m'.remove i).get? k := by
  rw [KMap.get?_remove, KMap.get?_remove, h]

/-! ## A step on the control itself -/

section Seen

variable {c : LogicalControl ℚ} {s s' : ProfileEngineState}

theorem reanchor_agree (h : ControlAgree c s s') (x t : ℚ) :
    ControlAgree c (reanchor s c.id x t) (reanchor s' c.id x t) := by
  have hmove : ∀ b : Bool, (if b then s.lastTransitionTemp.insert c.id t else s.lastTransitionTemp).get? c.id =
      (if b then s'.lastTransitionTemp.insert c.id t else s'.lastTransitionTemp).get? c.id := by
    intro b
    cases b
    · exact h.lastTransitionTemp
    · exact insert_agree h.lastTransitionTemp c.id t
  refine { h with
    lastCurveOutput := insert_agree h.lastCurveOutput c.id x
    lastTransitionTemp := ?_
    deadbandHoldCycles := remove_agree h.deadbandHoldCycles c.id }
  unfold reanchor
  dsimp only
  rw [h.lastCurveOutput]
  exact hmove _

theorem evaluateCurveWithDeadband_agree (h : ControlAgree c s s') (curve : CurveConfig ℚ) (t : ℚ) :
    (evaluateCurveWithDeadband c.id curve t s).2 = (evaluateCurveWithDeadband c.id curve t s').2 ∧
      ControlAgree c (evaluateCurveWithDeadband c.id curve t s).1 (evaluateCurveWithDeadband c.id curve t s').1 := by
  unfold evaluateCurveWithDeadband
  dsimp only
  rw [h.lastCurveOutput, h.lastTransitionTemp, h.deadbandHoldCycles]
  split
  · split
    · have hhold : ∀ held, ControlAgree c
          { s with deadbandHoldCycles := s.deadbandHoldCycles.insert c.id held }
          { s' with deadbandHoldCycles := s'.deadbandHoldCycles.insert c.id held } := fun held =>
        { h with deadbandHoldCycles := insert_agree h.deadbandHoldCycles c.id held }
      split
      · exact ⟨rfl, hhold _⟩
      · exact ⟨rfl, reanchor_agree (hhold _) _ _⟩
    · exact ⟨rfl, reanchor_agree h _ _⟩
  · exact ⟨rfl, reanchor_agree h _ _⟩

theorem evaluateTrigger_agree (h : ControlAgree c s s') (curve : CurveConfig ℚ) (t : ℚ) :
    (evaluateTrigger c.id curve t s).2 = (evaluateTrigger c.id curve t s').2 ∧
      ControlAgree c (evaluateTrigger c.id curve t s).1 (evaluateTrigger c.id curve t s').1 := by
  unfold evaluateTrigger
  dsimp only
  rw [h.triggerLatch]
  exact ⟨rfl, { h with triggerLatch := insert_agree h.triggerLatch c.id _ }⟩

/-- The mix evaluation reads the curves of a profile and nothing else of it. -/
theorem resolveCurveOutput_curves {p p' : DaemonProfile ℚ} (hcurves : p.curves = p'.curves) (sensors : Sensors)
    (quarantined : List String) (depthLeft : Nat) :
    resolveCurveOutput p sensors quarantined depthLeft = resolveCurveOutput p' sensors quarantined depthLeft := by
  have hfind : ∀ id, p.findCurve id = p'.findCurve id := fun id => by
    unfold DaemonProfile.findCurve
    rw [hcurves]
  induction depthLeft with
  | zero =>
    funext visited curve
    unfold resolveCurveOutput resolveMix
    simp only [hfind]
  | succ depthLeft ih =>
    funext visited curve
    unfold resolveCurveOutput resolveMix
    simp only [hfind, ih]

theorem lastCurve_curves {p p' : DaemonProfile ℚ} (hcurves : p.curves = p'.curves) (id : String) :
    lastCurve p id = lastCurve p' id := by
  unfold lastCurve curveIndex
  rw [hcurves]

/-- The control `a` mirrors the id `b`: what `curve_output_for_control` looks up for it. -/
def SyncsTo (p : DaemonProfile ℚ) (a : LogicalControl ℚ) (b : String) : Prop :=
  a.mode ≠ .manual ∧ b ≠ "" ∧ b ≠ a.id ∧
    ∃ curve, lastCurve p a.curveId = some curve ∧ curve.curveType = .sync ∧ curve.syncControlId = b

variable {p p' : DaemonProfile ℚ} (sensors : Sensors) {tick tick' : KMap String ℚ}

theorem resolveSyncOutput_agree {curve : CurveConfig ℚ}
    (htick : curve.syncControlId ≠ "" → curve.syncControlId ≠ c.id →
      tick.get? curve.syncControlId = tick'.get? curve.syncControlId) :
    resolveSyncOutput c curve tick = resolveSyncOutput c curve tick' := by
  unfold resolveSyncOutput
  split
  · rfl
  · next hne =>
    rw [not_or] at hne
    rw [htick hne.1 hne.2]

theorem curveOutputForControl_agree (hcurves : p.curves = p'.curves) (h : ControlAgree c s s') {curve : CurveConfig ℚ}
    (htick : curve.curveType = .sync → curve.syncControlId ≠ "" → curve.syncControlId ≠ c.id →
      tick.get? curve.syncControlId = tick'.get? curve.syncControlId) :
    (curveOutputForControl c curve p sensors tick s).value = (curveOutputForControl c curve p' sensors tick' s').value ∧
      ControlAgree c (curveOutputForControl c curve p sensors tick s).state
        (curveOutputForControl c curve p' sensors tick' s').state := by
  unfold curveOutputForControl
  cases htype : curve.curveType with
  | mix =>
    dsimp only
    unfold resolveRoot
    rw [resolveCurveOutput_curves hcurves, h.quarantinedSensorIds, h.lastOutput _ (id_mem_ownKeys c)]
    exact ⟨rfl, h⟩
  | sync => exact ⟨resolveSyncOutput_agree (htick htype), h⟩
  | flat => exact ⟨rfl, h⟩
  | trigger =>
    dsimp only
    rw [h.quarantinedSensorIds]
    split
    · obtain ⟨hv, hs⟩ := evaluateTrigger_agree h curve _
      exact ⟨congrArg some hv, hs⟩
    · exact ⟨rfl, h⟩
  | graph | stepped | linear | unknown =>
    dsimp only
    rw [h.quarantinedSensorIds]
    split
    · obtain ⟨hv, hs⟩ := evaluateCurveWithDeadband_agree h curve _
      exact ⟨congrArg some hv, hs⟩
    · exact ⟨rfl, h⟩

theorem rawOutput_agree (hcurves : p.curves = p'.curves) (h : ControlAgree c s s')
    (hcached : ∀ id, s.cachedCurve p id = lastCurve p id) (hcached' : ∀ id, s'.cachedCurve p' id = lastCurve p' id)
    (htick : ∀ b, SyncsTo p c b → tick.get? b = tick'.get? b) :
    (rawOutput p sensors c tick s).value = (rawOutput p' sensors c tick' s').value ∧
      ControlAgree c (rawOutput p sensors c tick s).state (rawOutput p' sensors c tick' s').state := by
  unfold rawOutput
  rw [hcached, hcached', ← lastCurve_curves hcurves]
  by_cases hmode : c.mode = .manual
  · rw [if_pos hmode, if_pos hmode]
    exact ⟨rfl, h⟩
  · rw [if_neg hmode, if_neg hmode]
    cases hcurve : lastCurve p c.curveId with
    | none => exact ⟨rfl, h⟩
    | some curve =>
      obtain ⟨hv, hs⟩ := curveOutputForControl_agree sensors hcurves h
        (fun hsync hne hself => htick _ ⟨hmode, hne, hself, curve, hcurve, hsync, rfl⟩)
      dsimp only
      rw [hv]
      exact ⟨rfl, hs⟩

/-- The loop over members reads and writes their own trackers. -/
theorem memberLoop_agree {keys : List String} (l : MemberLoop) {m m' : KMap String ℚ}
    (h : ∀ k ∈ keys, m.get? k = m'.get? k) (members : List ControlMember) (hkeys : ∀ x ∈ members, l.key x ∈ keys) :
    Machine.trace l.step l.command m members = Machine.trace l.step l.command m' members ∧
      ∀ k ∈ keys, (Machine.run l.step m members).get? k = (Machine.run l.step m' members).get? k := by
  induction members generalizing m m' with
  | nil => exact ⟨rfl, h⟩
  | cons x members ih =>
    have hx : m.get? (l.key x) = m'.get? (l.key x) := h _ (hkeys x List.mem_cons_self)
    have htuned : l.tuned m x = l.tuned m' x := by
      unfold MemberLoop.tuned
      rw [hx]
    have hcommand : l.command m x = l.command m' x := by
      unfold MemberLoop.command
      rw [htuned]
    have hstep : ∀ k ∈ keys, (l.step m x).get? k = (l.step m' x).get? k := by
      intro k hk
      unfold MemberLoop.step
      rw [htuned]
      split
      · exact insert_agree (h k hk) _ _
      · exact h k hk
    obtain ⟨htrace, hrun⟩ := ih hstep fun y hy => hkeys y (List.mem_cons_of_mem _ hy)
    rw [Machine.trace_cons, Machine.trace_cons, hcommand, htrace, Machine.run_cons, Machine.run_cons]
    exact ⟨rfl, hrun⟩

theorem tuneControl_agree (h : ControlAgree c s s') (raw : ℚ) :
    (tuneControl c raw s).2 = (tuneControl c raw s').2 ∧
      ControlAgree c (tuneControl c raw s).1 (tuneControl c raw s').1 := by
  have hid := h.lastOutput c.id (id_mem_ownKeys c)
  have hinsert : ∀ x, ∀ k ∈ ownKeys c, (s.lastOutput.insert c.id x).get? k = (s'.lastOutput.insert c.id x).get? k :=
    fun x k hk => insert_agree (h.lastOutput k hk) c.id x
  unfold tuneControl
  dsimp only
  rw [hid, h.protection]
  obtain ⟨htrace, hrun⟩ := memberLoop_agree
    ⟨c, raw, roundPct (applyTuning c raw (s'.lastOutput.get? c.id)), s'.protection⟩ (hinsert _) c.members
    fun m hm => memberKey_mem_ownKeys hm
  exact ⟨Prod.ext rfl htrace, { h with lastOutput := hrun }⟩

/-- **A step acts alike on states that agree**: what becomes of the control and its commands are read from
its own entries, its curve, and the outputs of the control it mirrors. -/
theorem controlStep_agree {o o' : OverrideSnapshot} (hcurves : p.curves = p'.curves) (h : ControlAgree c s s')
    (hcached : ∀ id, s.cachedCurve p id = lastCurve p id) (hcached' : ∀ id, s'.cachedCurve p' id = lastCurve p' id)
    (htick : ∀ b, SyncsTo p c b → tick.get? b = tick'.get? b)
    (ho : o.controls.get? c.id = o'.controls.get? c.id) :
    (controlStep p sensors o c tick s).outcome = (controlStep p' sensors o' c tick' s').outcome ∧
      (controlStep p sensors o c tick s).commands = (controlStep p' sensors o' c tick' s').commands ∧
      ControlAgree c (controlStep p sensors o c tick s).state (controlStep p' sensors o' c tick' s').state := by
  unfold controlStep
  rw [ho]
  cases o'.controls.get? c.id with
  | some pct =>
    dsimp only
    rw [h.protection]
    exact ⟨rfl, rfl, h⟩
  | none =>
    obtain ⟨hv, hs⟩ := rawOutput_agree sensors hcurves h hcached hcached' htick
    dsimp only
    rw [hv]
    cases (rawOutput p' sensors c tick' s').value with
    | error reason => exact ⟨rfl, rfl, hs⟩
    | ok raw =>
      obtain ⟨hout, hagree⟩ := tuneControl_agree hs raw
      exact ⟨congrArg (fun r => Outcome.evaluated raw r.1) hout, congrArg (fun r => r.2) hout, hagree⟩

end Seen

/-! ## A step on another control -/

/-- The loop over members writes no tracker but theirs. -/
theorem memberLoop_other (l : MemberLoop) {k : String} (members : List ControlMember) (hk : ∀ x ∈ members, k ≠ l.key x)
    (m : KMap String ℚ) : (Machine.run l.step m members).get? k = m.get? k := by
  induction members generalizing m with
  | nil => rfl
  | cons x members ih =>
    rw [Machine.run_cons, ih fun y hy => hk y (List.mem_cons_of_mem _ hy)]
    unfold MemberLoop.step
    split
    · exact KMap.get?_insert_of_ne _ _ (hk x List.mem_cons_self)
    · rfl

theorem CurveFrame.agree {c : LogicalControl ℚ} {id : String} {s s' : ProfileEngineState} (h : CurveFrame id s s')
    (hid : c.id ≠ id) : ControlAgree c s s' where
  quarantinedSensorIds := h.quarantinedSensorIds.symm
  assignedRoles := h.assignedRoles.symm
  headerFacts := h.headerFacts.symm
  lastOutput _ _ := by rw [h.lastOutput]
  lastCurveOutput := (h.lastCurveOutput _ hid).symm
  lastTransitionTemp := (h.lastTransitionTemp _ hid).symm
  triggerLatch := (h.triggerLatch _ hid).symm
  deadbandHoldCycles := (h.deadbandHoldCycles _ hid).symm

/-- **A step on a control with other keys** leaves this control's entries as they are. -/
theorem controlStep_apart {c d : LogicalControl ℚ} (hkeys : List.Disjoint (ownKeys c) (ownKeys d))
    (p : DaemonProfile ℚ) (sensors : Sensors) (o : OverrideSnapshot) (tick : KMap String ℚ) (s : ProfileEngineState) :
    ControlAgree c s (controlStep p sensors o d tick s).state := by
  have hid : c.id ≠ d.id := fun heq => hkeys (id_mem_ownKeys c) (heq ▸ id_mem_ownKeys d)
  unfold controlStep
  cases o.controls.get? d.id with
  | some pct => exact .refl s
  | none =>
    have hraw := (rawOutput_frame p sensors d tick s).agree (c := c) hid
    dsimp only
    cases (rawOutput p sensors d tick s).value with
    | error reason => exact hraw
    | ok raw =>
      refine hraw.trans { ControlAgree.refl _ with lastOutput := fun k hk => ?_ }
      have hne : k ≠ d.id := fun heq => hkeys hk (heq ▸ id_mem_ownKeys d)
      refine ((memberLoop_other _ _ (fun x hx heq => ?_) _).trans (KMap.get?_insert_of_ne _ _ hne)).symm
      exact hkeys hk (heq ▸ memberKey_mem_ownKeys hx)

end ControlOfc.Engine
