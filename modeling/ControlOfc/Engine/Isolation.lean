import ControlOfc.Engine.OneControl
import ControlOfc.Engine.Run
/-! # Controls do not interfere

Two runs over two profiles that share a control, its chain of Sync targets and the curves. All maps of the
state are keyed by strings that ids are pasted into, so the two runs treat the control alike as long as no
other control writes, and no cleared override of another control sweeps, one of the chain's keys, and each
control of the chain comes after its target in both orders or in neither (`controls_isolated`).
-/
namespace ControlOfc.Engine
open Profile Override ProfileEngineState

/-! ## One tick of two profiles that share a part -/

/-- The ids the output of `c` depends on: its own, and those its chain of Sync curves leads to. -/
def SyncChain (p : DaemonProfile ℚ) (c : String) : String → Prop :=
  Relation.ReflTransGen (fun a b => ∃ x ∈ p.controls, x.id = a ∧ SyncsTo p x b) c

/-- One profile id, one list of curves, distinct control ids, and the same controls at the ids of `S`. -/
structure Shared (p p' : DaemonProfile ℚ) (S : String → Prop) : Prop where
  id : p.id = p'.id
  curves : p.curves = p'.curves
  nodup : (p.controls.map (·.id)).Nodup
  nodup' : (p'.controls.map (·.id)).Nodup
  controls : ∀ x : LogicalControl ℚ, S x.id → (x ∈ p.controls ↔ x ∈ p'.controls)

/-- No other control writes a key of a control of `S`. -/
def KeysApart (p : DaemonProfile ℚ) (S : String → Prop) : Prop :=
  ∀ x ∈ p.controls, S x.id → ∀ d ∈ p.controls, d.id ≠ x.id → List.Disjoint (ownKeys x) (ownKeys d)

/-- A control of `S` is evaluated after the one it mirrors under both profiles or under neither. -/
def SameOrder (p p' : DaemonProfile ℚ) (S : String → Prop) : Prop :=
  ∀ x ∈ p.controls, S x.id → ∀ b, SyncsTo p x b → (ComesFirst p b x.id ↔ ComesFirst p' b x.id)

theorem Around.disjoint {p : DaemonProfile ℚ} {S : String → Prop} (hkeys : KeysApart p S) {c : LogicalControl ℚ}
    {pre : List Nat} {i : Nat} {post : List Nat} (h : Around p c pre i post) (hS : S c.id) :
    ∀ j ∈ pre ++ post, ∀ d, p.controls[j]? = some d → List.Disjoint (ownKeys c) (ownKeys d) := fun j hj d hd =>
  hkeys c (List.mem_of_getElem? h.control) hS d (List.mem_of_getElem? hd) (h.others j hj d hd)

/-- The outputs published before a control that comes after `d`. -/
theorem tickOutputs_before {p : DaemonProfile ℚ} (sensors : Sensors) (o : OverrideSnapshot) (s : ProfileEngineState)
    {c d : LogicalControl ℚ} {pre : List Nat} {i : Nat} {post : List Nat} (h : Around p c pre i post)
    {pre' : List Nat} {j : Nat} {post' : List Nat} (hd : Around p d pre' j post') (hj : j ∈ pre) :
    (loop p sensors o s pre).tickOutputs.get? d.id = (stepAfter p sensors o s pre' d).outcome.output ∧
      pre'.length < pre.length := by
  obtain ⟨l₁, l₂, rfl⟩ := List.append_of_mem hj
  have hsplit : l₁ ++ j :: (l₂ ++ i :: post) = pre' ++ j :: post' := by
    rw [← hd.split, h.split]
    simp
  have hnd := order_nodup p
  rw [hd.split, List.nodup_append] at hnd
  obtain ⟨-, hcons, hdisj⟩ := hnd
  have hnot : j ∉ pre' := fun hmem => hdisj j hmem j List.mem_cons_self rfl
  obtain ⟨rfl, -, rfl⟩ := (List.append_cons_inj_of_notMem hnot (List.nodup_cons.mp hcons).1).mp hsplit.symm
  exact ⟨(loop_after sensors o s hd (List.prefix_append _ _)).1, by simp⟩

section Tick

variable {p p' : DaemonProfile ℚ} {S : String → Prop} (hshared : Shared p p' S)
  (hclosed : ∀ x ∈ p.controls, S x.id → ∀ b, SyncsTo p x b → S b)
  (hkeys : KeysApart p S) (hkeys' : KeysApart p' S) (horder : SameOrder p p' S)
  (sensors : Sensors) {o o' : OverrideSnapshot} (ho : ∀ id, S id → o.controls.get? id = o'.controls.get? id)
  {s s' : ProfileEngineState} (hs : ForProfile p s) (hs' : ForProfile p' s')
  (hstart : ∀ x ∈ p.controls, S x.id → ControlAgree x (s.prepare p) (s'.prepare p'))

include hshared hclosed hkeys hkeys' horder ho hs hs' hstart in
/-- By strong induction on the place of the control in the first order: what it mirrors comes earlier, or has
no output yet in either loop. -/
theorem steps_agree (n : Nat) : ∀ (x : LogicalControl ℚ) (pre : List Nat) (i : Nat) (post pre' : List Nat) (i' : Nat)
    (post' : List Nat), S x.id → Around p x pre i post → Around p' x pre' i' post' → pre.length = n →
    (stepAfter p sensors o (s.prepare p) pre x).outcome = (stepAfter p' sensors o' (s'.prepare p') pre' x).outcome ∧
      (stepAfter p sensors o (s.prepare p) pre x).commands =
        (stepAfter p' sensors o' (s'.prepare p') pre' x).commands ∧
      ControlAgree x (stepAfter p sensors o (s.prepare p) pre x).state
        (stepAfter p' sensors o' (s'.prepare p') pre' x).state := by
  induction n using Nat.strong_induction_on with
  | _ n ih =>
    rintro x pre i post pre' i' post' hS ha ha' rfl
    have hx : x ∈ p.controls := List.mem_of_getElem? ha.control
    have hagree : ControlAgree x (loop p sensors o (s.prepare p) pre).state
        (loop p' sensors o' (s'.prepare p') pre').state := by
      have hleft := loop_apart sensors o (s.prepare p) [] pre fun j hj =>
        ha.disjoint hkeys hS j (List.mem_append_left _ hj)
      have hright := loop_apart sensors o' (s'.prepare p') [] pre' fun j hj =>
        ha'.disjoint hkeys' hS j (List.mem_append_left _ hj)
      exact hleft.symm.trans ((hstart x hx hS).trans hright)
    have htick : ∀ b, SyncsTo p x b → (loop p sensors o (s.prepare p) pre).tickOutputs.get? b =
        (loop p' sensors o' (s'.prepare p') pre').tickOutputs.get? b := by
      intro b hb
      have hSb := hclosed x hx hS b hb
      have hfirst := horder x hx hS b hb
      rw [ha.comesFirst_iff, ha'.comesFirst_iff] at hfirst
      by_cases hcome : ∃ j ∈ pre, ∃ d, p.controls[j]? = some d ∧ d.id = b
      · obtain ⟨j', hj', d', hd', hid'⟩ := hfirst.mp hcome
        obtain ⟨j, hj, d, hd, rfl⟩ := hcome
        have hmem : d ∈ p'.controls := (hshared.controls d hSb).mp (List.mem_of_getElem? hd)
        obtain rfl : d' = d := List.inj_on_of_nodup_map hshared.nodup' (List.mem_of_getElem? hd') hmem hid'
        obtain ⟨l, k, r, hda⟩ := exists_around hshared.nodup (List.mem_of_getElem? hd)
        obtain ⟨l', k', r', hda'⟩ := exists_around hshared.nodup' hmem
        obtain rfl := eq_idx_of_id hshared.nodup hd hda.control rfl
        obtain rfl := eq_idx_of_id hshared.nodup' hd' hda'.control rfl
        obtain ⟨htick, hlt⟩ := tickOutputs_before sensors o (s.prepare p) ha hda hj
        obtain ⟨htick', -⟩ := tickOutputs_before sensors o' (s'.prepare p') ha' hda' hj'
        rw [htick, htick', (ih _ hlt d' l j r l' j' r' hSb hda hda' rfl).1]
      · have hcome' := fun h => hcome (hfirst.mpr h)
        have hnone := (loop_others sensors o (s.prepare p) b [] pre fun j hj d hd hid => hcome ⟨j, hj, d, hd, hid⟩).1
        have hnone' := (loop_others sensors o' (s'.prepare p') b [] pre'
          fun j hj d hd hid => hcome' ⟨j, hj, d, hd, hid⟩).1
        exact hnone.trans hnone'.symm
    exact controlStep_agree sensors hshared.curves hagree (cachedCurve_loop hs pre) (cachedCurve_loop hs' pre') htick
      (ho x.id hS)

end Tick

/-! ## What one tick shows of a control -/

/-- Its commands as they go out, its entry in `tick_outputs`, its entries in the skip list. -/
structure ControlView where
  commands : List PwmCommand
  output : Option ℚ
  skipped : List SkipRecord
  deriving DecidableEq, Repr

def controlView (o : OverrideSnapshot) (t : Tick) (id : String) : ControlView where
  commands := applyIdentify o ((t.visits.filter (·.control.id = id)).flatMap (·.commands))
  output := t.state.tickOutputs.get? id
  skipped := t.state.skippedThisTick.filter (·.controlId = id)

theorem skipped_filter (id : String) (visits : List Visit) :
    (visits.filterMap Visit.skipRecord).filter (·.controlId = id) =
      (visits.filter (·.control.id = id)).filterMap Visit.skipRecord := by
  induction visits with
  | nil => rfl
  | cons v visits ih =>
    have hid : ∀ r, v.skipRecord = some r → r.controlId = v.control.id := by
      intro r hr
      unfold Visit.skipRecord at hr
      split at hr
      · rw [← Option.some.inj hr]
      · cases hr
    by_cases hv : v.control.id = id
    · rw [List.filter_cons_of_pos (by simpa using hv)]
      cases hr : v.skipRecord with
      | none => rw [List.filterMap_cons_none hr, List.filterMap_cons_none hr, ih]
      | some r =>
        rw [List.filterMap_cons_some hr, List.filterMap_cons_some hr,
          List.filter_cons_of_pos (by simpa using (hid r hr).trans hv), ih]
    · rw [List.filter_cons_of_neg (by simpa using hv)]
      cases hr : v.skipRecord with
      | none => rw [List.filterMap_cons_none hr, ih]
      | some r =>
        have hne : r.controlId ≠ id := fun heq => hv ((hid r hr).symm.trans heq)
        rw [List.filterMap_cons_some hr, List.filter_cons_of_neg (by simpa using hne), ih]

theorem applyIdentify_congr {o o' : OverrideSnapshot} (h : o.identify = o'.identify) :
    applyIdentify o = applyIdentify o' := by
  funext commands
  unfold applyIdentify
  rw [h]

section View

variable {p : DaemonProfile ℚ} (sensors : Sensors) (o : OverrideSnapshot) {s : ProfileEngineState}

theorem controlView_eq (p : DaemonProfile ℚ) (s : ProfileEngineState) (id : String) :
    controlView o (evaluateProfileWithOverrides p sensors s o) id =
      let acc := loop p sensors o (s.prepare p) (s.prepare p).evalOrder
      { commands := applyIdentify o ((acc.visits.filter (·.control.id = id)).flatMap (·.commands))
        output := acc.tickOutputs.get? id
        skipped := (acc.visits.filter (·.control.id = id)).filterMap Visit.skipRecord } := by
  have hskip := skipped_filter id (loop p sensors o (s.prepare p) (s.prepare p).evalOrder).visits
  exact congrArg (ControlView.mk _ _) hskip

theorem view_of_around (hs : ForProfile p s) {c : LogicalControl ℚ} {pre : List Nat} {i : Nat} {post : List Nat}
    (h : Around p c pre i post) :
    controlView o (evaluateProfileWithOverrides p sensors s o) c.id =
      { commands := applyIdentify o (stepAfter p sensors o (s.prepare p) pre c).commands
        output := (stepAfter p sensors o (s.prepare p) pre c).outcome.output
        skipped := match (stepAfter p sensors o (s.prepare p) pre c).outcome with
          | .skipped reason => [⟨c.id, c.name, reason⟩]
          | _ => [] } := by
  obtain ⟨htick, hvisits⟩ := loop_after sensors o (s.prepare p) h (List.prefix_refl post)
  rw [controlView_eq, evalOrder_prepare hs, h.split]
  dsimp only
  rw [htick, hvisits]
  cases hout : (stepAfter p sensors o (s.prepare p) pre c).outcome <;> simp [Visit.skipRecord]

/-- The entries under the control's keys at the end of the tick are those its step left. -/
theorem state_of_around (hs : ForProfile p s) {S : String → Prop} (hkeys : KeysApart p S) {c : LogicalControl ℚ}
    (hS : S c.id) {pre : List Nat} {i : Nat} {post : List Nat} (h : Around p c pre i post) :
    ControlAgree c (stepAfter p sensors o (s.prepare p) pre c).state
      (evaluateProfileWithOverrides p sensors s o).state := by
  have hrest := loop_apart sensors o (s.prepare p) (pre ++ [i]) post fun j hj =>
    h.disjoint hkeys hS j (List.mem_append_right _ hj)
  rw [loop_visit sensors o _ h.control, List.append_assoc, List.singleton_append, ← h.split, ← evalOrder_prepare hs]
    at hrest
  exact hrest.trans ⟨rfl, rfl, rfl, fun _ _ => rfl, rfl, rfl, rfl, rfl⟩

theorem view_absent (p : DaemonProfile ℚ) (s : ProfileEngineState) {id : String} (h : ∀ d ∈ p.controls, d.id ≠ id) :
    controlView o (evaluateProfileWithOverrides p sensors s o) id = ⟨[], none, []⟩ := by
  obtain ⟨htick, hvisits⟩ := loop_absent sensors o (s.prepare p) (s.prepare p).evalOrder h
  rw [controlView_eq]
  dsimp only
  rw [htick, hvisits]
  rfl

end View

/-! ## Runs -/

/-- What one turn of the engine loop is given: the controls whose override cleared, this tick's quarantine
list, roles and header facts, the sensors, the overrides. -/
structure TickInput where
  cleared : List String
  quarantined : List String
  roles : KMap String HeaderRole
  facts : KMap String HeaderFacts
  sensors : Sensors
  overrides : OverrideSnapshot

/-- The state a tick evaluates in. -/
def ProfileEngineState.enter (s : ProfileEngineState) (t : TickInput) : ProfileEngineState :=
  (Machine.run resetControl s t.cleared).install t.quarantined t.roles t.facts

/-- One tick: clear, install, evaluate. -/
def engineTick (p : DaemonProfile ℚ) (s : ProfileEngineState) (t : TickInput) : Tick :=
  evaluateProfileWithOverrides p t.sensors (s.enter t) t.overrides

/-- What a run shows of one control, tick by tick. -/
def controlViews (p : DaemonProfile ℚ) (id : String) (s : ProfileEngineState) (ts : List TickInput) : List ControlView :=
  Machine.trace (fun s t => (engineTick p s t).state) (fun s t => controlView t.overrides (engineTick p s t) id) s ts

/-- The same tick for the controls of `S`. -/
structure TickAlike (S : String → Prop) (t t' : TickInput) : Prop where
  quarantined : t.quarantined = t'.quarantined
  roles : t.roles = t'.roles
  facts : t.facts = t'.facts
  sensors : t.sensors = t'.sensors
  identify : t.overrides.identify = t'.overrides.identify
  pinned : ∀ id, S id → t.overrides.controls.get? id = t'.overrides.controls.get? id
  cleared : ∀ id, S id → (id ∈ t.cleared ↔ id ∈ t'.cleared)

/-- `reset_control(id)` drops the output kept under `key`. -/
def sweeps (id key : String) : Bool := key = id || isMemberKeyOf id key

/-- No cleared override of another control drops an entry of a control of `S`. -/
def Unswept (p : DaemonProfile ℚ) (S : String → Prop) (t : TickInput) : Prop :=
  ∀ x ∈ p.controls, S x.id → ∀ id ∈ t.cleared, ¬ S id → ∀ k ∈ ownKeys x, sweeps id k = false

/-! ### The tick's input -/

/-- What clearing a list of overrides leaves. -/
structure Cleared (ids : List String) (s s' : ProfileEngineState) : Prop where
  activeProfileId : s'.activeProfileId = s.activeProfileId
  staticCache : s'.staticCache = s.staticCache
  lastOutput : ∀ k, s'.lastOutput.get? k = if ids.any (sweeps · k) then none else s.lastOutput.get? k
  lastCurveOutput : ∀ k, s'.lastCurveOutput.get? k = if k ∈ ids then none else s.lastCurveOutput.get? k
  lastTransitionTemp : ∀ k, s'.lastTransitionTemp.get? k = if k ∈ ids then none else s.lastTransitionTemp.get? k
  triggerLatch : ∀ k, s'.triggerLatch.get? k = if k ∈ ids then none else s.triggerLatch.get? k
  deadbandHoldCycles : ∀ k, s'.deadbandHoldCycles.get? k = if k ∈ ids then none else s.deadbandHoldCycles.get? k

theorem get?_remove_if {α : Type} (m : KMap String α) (id : String) (ids : List String) (k : String) :
    (if k ∈ ids then none else (m.remove id).get? k) = if k ∈ id :: ids then none else m.get? k := by
  rw [KMap.get?_remove]
  by_cases hid : k = id
  · simp [hid]
  · by_cases hk : k ∈ ids <;> simp [hid, hk]

theorem resetControl_get? (s : ProfileEngineState) (id k : String) :
    (s.resetControl id).lastOutput.get? k = if sweeps id k then none else s.lastOutput.get? k := by
  unfold ProfileEngineState.resetControl sweeps
  rw [KMap.get?_retain, KMap.get?_remove]
  by_cases hk : k = id
  · simp [hk]
  · by_cases hm : isMemberKeyOf id k = true
    · simp [hk, hm]
    · cases s.lastOutput.get? k <;> simp [hk, hm]

theorem resets_cleared (ids : List String) (s : ProfileEngineState) : Cleared ids s (Machine.run resetControl s ids) := by
  induction ids generalizing s with
  | nil => constructor <;> simp
  | cons id ids ih =>
    have hrest := ih (s.resetControl id)
    rw [Machine.run_cons]
    refine ⟨hrest.activeProfileId, hrest.staticCache, fun k => ?_, fun k => ?_, fun k => ?_, fun k => ?_, fun k => ?_⟩
    · rw [hrest.lastOutput, resetControl_get?, List.any_cons]
      by_cases hid : sweeps id k = true
      · simp [hid]
      · simp [hid]
    · rw [hrest.lastCurveOutput]
      exact get?_remove_if _ id ids k
    · rw [hrest.lastTransitionTemp]
      exact get?_remove_if _ id ids k
    · rw [hrest.triggerLatch]
      exact get?_remove_if _ id ids k
    · rw [hrest.deadbandHoldCycles]
      exact get?_remove_if _ id ids k

theorem forProfile_enter {p : DaemonProfile ℚ} {s : ProfileEngineState} (h : ForProfile p s) (t : TickInput) :
    ForProfile p (s.enter t) := by
  have hcleared := resets_cleared t.cleared s
  intro hactive
  have hcache : (s.enter t).staticCache = s.staticCache := hcleared.staticCache
  rw [hcache]
  exact h (hcleared.activeProfileId.symm.trans hactive)

theorem prepare_agree {p p' : DaemonProfile ℚ} {c : LogicalControl ℚ} {s s' : ProfileEngineState}
    (hid : p.id = p'.id) (hactive : s.activeProfileId = s'.activeProfileId) (h : ControlAgree c s s') :
    ControlAgree c (s.prepare p) (s'.prepare p') := by
  have hensure : ∀ (p : DaemonProfile ℚ) (s : ProfileEngineState), ControlAgree c s (s.ensureStaticCache p) := by
    intro p s
    obtain ⟨cache, hcache⟩ := s.ensureStaticCache_eq p
    rw [hcache]
    exact ⟨rfl, rfl, rfl, fun _ _ => rfl, rfl, rfl, rfl, rfl⟩
  have hsync : ControlAgree c (s.syncProfileId p.id) (s'.syncProfileId p'.id) := by
    unfold ProfileEngineState.syncProfileId
    rw [hactive, hid]
    split
    · exact h
    · exact ⟨h.quarantinedSensorIds, h.assignedRoles, h.headerFacts, fun _ _ => rfl, rfl, rfl, rfl, rfl⟩
  exact (hensure p _).symm.trans (hsync.trans (hensure p' _))

section Enter

variable {p p' : DaemonProfile ℚ} {S : String → Prop} (hshared : Shared p p' S) {t t' : TickInput}
  (ht : TickAlike S t t') (hswept : Unswept p S t) (hswept' : Unswept p' S t')

include hshared ht hswept hswept' in
/-- A key of a control of `S` is swept in both runs or in neither. -/
theorem swept_agree {x : LogicalControl ℚ} (hx : x ∈ p.controls) (hS : S x.id) {k : String} (hk : k ∈ ownKeys x) :
    t.cleared.any (sweeps · k) = t'.cleared.any (sweeps · k) := by
  have hx' : x ∈ p'.controls := (hshared.controls x hS).mp hx
  rw [Bool.eq_iff_iff, List.any_eq_true, List.any_eq_true]
  constructor
  · rintro ⟨id, hid, hsw⟩
    have hSid : S id := by
      by_contra hnot
      rw [hswept x hx hS id hid hnot k hk] at hsw
      cases hsw
    exact ⟨id, (ht.cleared id hSid).mp hid, hsw⟩
  · rintro ⟨id, hid, hsw⟩
    have hSid : S id := by
      by_contra hnot
      rw [hswept' x hx' hS id hid hnot k hk] at hsw
      cases hsw
    exact ⟨id, (ht.cleared id hSid).mpr hid, hsw⟩

include hshared ht hswept hswept' in
theorem enter_agree {x : LogicalControl ℚ} (hx : x ∈ p.controls) (hS : S x.id) {s s' : ProfileEngineState}
    (h : ControlAgree x s s') : ControlAgree x (s.enter t) (s'.enter t') := by
  have hs := resets_cleared t.cleared s
  have hs' := resets_cleared t'.cleared s'
  have hid := ht.cleared x.id hS
  refine ⟨ht.quarantined, ht.roles, ht.facts, fun k hk => ?_, ?_, ?_, ?_, ?_⟩
  · refine (hs.lastOutput k).trans (Eq.trans ?_ (hs'.lastOutput k).symm)
    rw [swept_agree hshared ht hswept hswept' hx hS hk, h.lastOutput k hk]
  · refine (hs.lastCurveOutput x.id).trans (Eq.trans ?_ (hs'.lastCurveOutput x.id).symm)
    simp only [hid, h.lastCurveOutput]
  · refine (hs.lastTransitionTemp x.id).trans (Eq.trans ?_ (hs'.lastTransitionTemp x.id).symm)
    simp only [hid, h.lastTransitionTemp]
  · refine (hs.triggerLatch x.id).trans (Eq.trans ?_ (hs'.triggerLatch x.id).symm)
    simp only [hid, h.triggerLatch]
  · refine (hs.deadbandHoldCycles x.id).trans (Eq.trans ?_ (hs'.deadbandHoldCycles x.id).symm)
    simp only [hid, h.deadbandHoldCycles]

end Enter

/-! ### One tick -/

/-- What the two runs keep in common. -/
structure RunAgree (p p' : DaemonProfile ℚ) (S : String → Prop) (s s' : ProfileEngineState) : Prop where
  active : s.activeProfileId = s'.activeProfileId
  forProfile : ForProfile p s
  forProfile' : ForProfile p' s'
  controls : ∀ x ∈ p.controls, S x.id → ControlAgree x s s'

theorem evaluate_activeProfileId (p : DaemonProfile ℚ) (sensors : Sensors) (s : ProfileEngineState)
    (o : OverrideSnapshot) : (evaluateProfileWithOverrides p sensors s o).state.activeProfileId = some p.id := by
  refine (loop_setup (s.prepare p) (s.prepare p).evalOrder).activeProfileId.trans ?_
  obtain ⟨cache, hcache⟩ := (s.syncProfileId p.id).ensureStaticCache_eq p
  rw [ProfileEngineState.prepare, hcache]
  unfold ProfileEngineState.syncProfileId
  split
  · next h => exact h
  · rfl

theorem forProfile_evaluate {p : DaemonProfile ℚ} {s : ProfileEngineState} (h : ForProfile p s) (sensors : Sensors)
    (o : OverrideSnapshot) : ForProfile p (evaluateProfileWithOverrides p sensors s o).state := fun _ =>
  .inr ((loop_setup (s.prepare p) (s.prepare p).evalOrder).staticCache.trans (prepare_staticCache h))

section Run

variable {p p' : DaemonProfile ℚ} {S : String → Prop} (hshared : Shared p p' S)
  (hclosed : ∀ x ∈ p.controls, S x.id → ∀ b, SyncsTo p x b → S b)
  (hkeys : KeysApart p S) (hkeys' : KeysApart p' S) (horder : SameOrder p p' S)

include hshared hclosed hkeys hkeys' horder in
theorem engineTick_agree {s s' : ProfileEngineState} (h : RunAgree p p' S s s') {t t' : TickInput}
    (ht : TickAlike S t t') (hswept : Unswept p S t) (hswept' : Unswept p' S t') :
    (∀ id, S id → controlView t.overrides (engineTick p s t) id = controlView t'.overrides (engineTick p' s' t') id) ∧
      RunAgree p p' S (engineTick p s t).state (engineTick p' s' t').state := by
  have hs := forProfile_enter h.forProfile t
  have hs' := forProfile_enter h.forProfile' t'
  have hactive : (s.enter t).activeProfileId = (s'.enter t').activeProfileId :=
    (resets_cleared t.cleared s).activeProfileId.trans
      (h.active.trans (resets_cleared t'.cleared s').activeProfileId.symm)
  have hstart : ∀ x ∈ p.controls, S x.id → ControlAgree x ((s.enter t).prepare p) ((s'.enter t').prepare p') :=
    fun x hx hS => prepare_agree hshared.id hactive (enter_agree hshared ht hswept hswept' hx hS (h.controls x hx hS))
  have hone : ∀ x ∈ p.controls, S x.id →
      controlView t.overrides (engineTick p s t) x.id = controlView t'.overrides (engineTick p' s' t') x.id ∧
        ControlAgree x (engineTick p s t).state (engineTick p' s' t').state := by
    intro x hx hS
    obtain ⟨pre, i, post, ha⟩ := exists_around hshared.nodup hx
    obtain ⟨pre', i', post', ha'⟩ := exists_around hshared.nodup' ((hshared.controls x hS).mp hx)
    obtain ⟨hout, hcmd, hstate⟩ := steps_agree hshared hclosed hkeys hkeys' horder t.sensors ht.pinned hs hs' hstart _ x
      pre i post pre' i' post' hS ha ha' rfl
    have hafter := state_of_around t.sensors t.overrides hs hkeys hS ha
    have hafter' := state_of_around t.sensors t'.overrides hs' hkeys' hS ha'
    unfold engineTick
    rw [← ht.sensors, view_of_around t.sensors t.overrides hs ha, view_of_around t.sensors t'.overrides hs' ha', hout,
      hcmd, applyIdentify_congr ht.identify]
    exact ⟨rfl, hafter.symm.trans (hstate.trans hafter')⟩
  refine ⟨fun id hS => ?_, ⟨?_, forProfile_evaluate hs _ _, forProfile_evaluate hs' _ _, fun x hx hS => (hone x hx hS).2⟩⟩
  · by_cases hx : ∃ x ∈ p.controls, x.id = id
    · obtain ⟨x, hx, rfl⟩ := hx
      exact (hone x hx hS).1
    · have hnone : ∀ d ∈ p.controls, d.id ≠ id := fun d hd hid => hx ⟨d, hd, hid⟩
      have hnone' : ∀ d ∈ p'.controls, d.id ≠ id := fun d hd hid =>
        hx ⟨d, (hshared.controls d (hid ▸ hS)).mpr hd, hid⟩
      unfold engineTick
      rw [view_absent _ _ p _ hnone, view_absent _ _ p' _ hnone']
  · unfold engineTick
    rw [evaluate_activeProfileId, evaluate_activeProfileId, hshared.id]

include hshared hclosed hkeys hkeys' horder in
theorem controlViews_agree {ts ts' : List TickInput} (hts : List.Forall₂ (TickAlike S) ts ts')
    (hswept : ∀ t ∈ ts, Unswept p S t) (hswept' : ∀ t ∈ ts', Unswept p' S t) {s s' : ProfileEngineState}
    (h : RunAgree p p' S s s') {id : String} (hid : S id) : controlViews p id s ts = controlViews p' id s' ts' := by
  induction hts generalizing s s' with
  | nil => rfl
  | cons ht _ ih =>
    obtain ⟨hview, hnext⟩ := engineTick_agree hshared hclosed hkeys hkeys' horder h ht
      (hswept _ List.mem_cons_self) (hswept' _ List.mem_cons_self)
    have hrest := ih (fun t hmem => hswept t (List.mem_cons_of_mem _ hmem))
      (fun t hmem => hswept' t (List.mem_cons_of_mem _ hmem)) hnext
    exact congrArg₂ List.cons (hview id hid) hrest

end Run

/-- Two documents evaluated as written put every control after the one it mirrors. -/
theorem sameOrder_of_viewsAgree {p p' : DaemonProfile ℚ} {S : String → Prop} (hshared : Shared p p' S)
    (hclosed : ∀ x ∈ p.controls, S x.id → ∀ b, SyncsTo p x b → S b) (h : ViewsAgree p) (h' : ViewsAgree p') :
    SameOrder p p' S := by
  have hfirst : ∀ q : DaemonProfile ℚ, ViewsAgree q → ∀ x ∈ q.controls, ∀ b, SyncsTo q x b →
      ∀ y ∈ q.controls, y.id = b → ComesFirst q b x.id := by
    rintro q hq x hx b ⟨hmode, -, hne, curve, hcurve, hsync, rfl⟩ y hy hyb
    obtain ⟨i, hi⟩ := List.mem_iff_getElem?.mp hx
    obtain ⟨j, hj⟩ := List.mem_iff_getElem?.mp hy
    have hij : j ≠ i := by
      rintro rfl
      rw [hi] at hj
      exact hne (hyb.symm.trans (congrArg LogicalControl.id (Option.some.inj hj)).symm)
    exact ⟨i, j, y, x, hj, hyb, hi, rfl, (hq.sync i x curve hi hmode hcurve hsync j y hj hij hyb).1⟩
  intro x hx hS b hb
  have hx' : x ∈ p'.controls := (hshared.controls x hS).mp hx
  have hb' : SyncsTo p' x b := by
    obtain ⟨hmode, hempty, hne, curve, hcurve, hrest⟩ := hb
    exact ⟨hmode, hempty, hne, curve, (lastCurve_curves hshared.curves _).symm.trans hcurve, hrest⟩
  constructor
  · rintro ⟨_, _, y, _, hy, hyb, -⟩
    have hy' := (hshared.controls y (hyb ▸ hclosed x hx hS b hb)).mp (List.mem_of_getElem? hy)
    exact hfirst p' h' x hx' b hb' y hy' hyb
  · rintro ⟨_, _, y, _, hy, hyb, -⟩
    have hy' := (hshared.controls y (hyb ▸ hclosed x hx hS b hb)).mpr (List.mem_of_getElem? hy)
    exact hfirst p h x hx b hb y hy' hyb

theorem syncChain_closed {p : DaemonProfile ℚ} {c : String} :
    ∀ x ∈ p.controls, SyncChain p c x.id → ∀ b, SyncsTo p x b → SyncChain p c b := fun x hx hchain _ hb =>
  Relation.ReflTransGen.tail hchain ⟨x, hx, rfl, hb⟩

/-! ## The result -/

/-- **Controls do not interfere** where their keys are apart. Two runs from a fresh start over profiles with
one id and one list of curves, alike in a control and its chain of Sync targets, and alike in every tick's
input to these, show the same commands, output and skip record of the control at every tick: provided that in
both no other control writes a key of the chain, no cleared override of another control sweeps one, and each
control of the chain is evaluated after the one it mirrors under both profiles or under neither. Two
documents that the engine evaluates as written meet the last condition. -/
theorem controls_isolated (p p' : DaemonProfile ℚ) (c : String) (hshared : Shared p p' (SyncChain p c)) :
    (∀ ts ts', List.Forall₂ (TickAlike (SyncChain p c)) ts ts' →
      KeysApart p (SyncChain p c) → KeysApart p' (SyncChain p c) → SameOrder p p' (SyncChain p c) →
      (∀ t ∈ ts, Unswept p (SyncChain p c) t) → (∀ t ∈ ts', Unswept p' (SyncChain p c) t) →
      controlViews p c .new ts = controlViews p' c .new ts') ∧
    (ViewsAgree p → ViewsAgree p' → SameOrder p p' (SyncChain p c)) := by
  refine ⟨?_, sameOrder_of_viewsAgree hshared syncChain_closed⟩
  intro ts ts' hts hkeys hkeys' horder hswept hswept'
  have hnew : RunAgree p p' (SyncChain p c) .new .new :=
    ⟨rfl, forProfile_new p, forProfile_new p', fun _ _ _ => .refl _⟩
  exact controlViews_agree hshared syncChain_closed hkeys hkeys' horder hts hswept hswept' hnew .refl

/-- A turn of the loop with nothing cleared, pinned or measured. -/
def quietTick : TickInput := ⟨[], [], .empty, .empty, [], noOverrides⟩

/-- A pump at a manual 80 % that may rise by 10 % a tick. -/
def pumpLoop : LogicalControl ℚ :=
  { plainControl "loop" .manual "" 80 with
    members := [⟨.hwmon, "pwm2", "Pump", false⟩]
    stepUpPct := 10
    minimumPct := 30 }

/-- The second control's id is the key of the pump's tracker. -/
def collidingProfile : DaemonProfile ℚ := ⟨"shared", [pumpLoop, plainControl "loop::m::pwm2" .manual "" 0], []⟩

def renamedProfile : DaemonProfile ℚ := ⟨"shared", [pumpLoop, plainControl "case" .manual "" 0], []⟩

/-- A control whose id begins like the member keys of the other's. -/
def nestedProfile : DaemonProfile ℚ :=
  ⟨"nested", [plainControl "a" .manual "" 50, { plainControl "a::m::b" .curve "ramp" 0 with stepUpPct := 10 }],
    [{ CurveConfig.blank "ramp" .linear with
      sensorId := "cpu", startTempC := some 20, startOutputPct := some 20, endTempC := some 80, endOutputPct := some 80 }]⟩

def warmTick (t : ℚ) : TickInput := { quietTick with sensors := [("cpu", t)] }

/-- Two accepted documents and two runs that are alike for `c`, and yet treat it differently. -/
structure Interference (p p' : DaemonProfile ℚ) (c : String) (ts ts' : List TickInput) : Prop where
  accepted : Accepts p []
  accepted' : Accepts p' []
  shared : Shared p p' (SyncChain p c)
  alike : List.Forall₂ (TickAlike (SyncChain p c)) ts ts'
  differs : controlViews p c .new ts ≠ controlViews p' c .new ts'

theorem syncChain_of_no_sync {p : DaemonProfile ℚ} (h : ∀ curve ∈ p.curves, curve.curveType ≠ .sync) {c id : String}
    (hchain : SyncChain p c id) : id = c := by
  cases hchain with
  | refl => rfl
  | tail _ hlast =>
    obtain ⟨_, -, -, -, -, -, curve, hcurve, hsync, -⟩ := hlast
    exact absurd hsync (h curve (mem_of_lastCurve hcurve).1)

theorem tickAlike_refl (S : String → Prop) (t : TickInput) : TickAlike S t t :=
  ⟨rfl, rfl, rfl, rfl, rfl, fun _ _ => rfl, fun _ _ => Iff.rfl⟩

/-- The other control writes 0 over the pump's tracker, and the pump is commanded 10 % instead of 80 %; an
override of `a` that clears lets the other control jump from 20 % to 80 % past its ramp. -/
theorem keys_interfere :
    Interference collidingProfile renamedProfile "loop" [quietTick, quietTick] [quietTick, quietTick] ∧
      Interference nestedProfile nestedProfile "a::m::b" [warmTick 20, warmTick 80]
        [warmTick 20, { warmTick 80 with cleared := ["a"] }] := by
  refine ⟨⟨by decide +kernel, by decide +kernel, ⟨rfl, rfl, by decide, by decide, fun x hx => ?_⟩, ?_, by decide +kernel⟩,
    ⟨by decide +kernel, by decide +kernel, ⟨rfl, rfl, by decide, by decide, fun _ _ => Iff.rfl⟩, ?_, by decide +kernel⟩⟩
  · have hid := syncChain_of_no_sync (by decide) hx
    simp only [collidingProfile, renamedProfile, List.mem_cons, List.not_mem_nil, or_false]
    refine or_congr_right ⟨?_, ?_⟩ <;>
    · rintro rfl
      exact absurd hid (by decide)
  · exact .cons (tickAlike_refl _ _) (.cons (tickAlike_refl _ _) .nil)
  · refine .cons (tickAlike_refl _ _) (.cons ⟨rfl, rfl, rfl, rfl, rfl, fun _ _ => rfl, fun id hid => ?_⟩ .nil)
    rw [syncChain_of_no_sync (by decide) hid]
    decide

/-- The mirror with one more control, pinned in the second run. -/
def mirrorBesideProfile : DaemonProfile ℚ :=
  { mirrorProfile with controls := plainControl "case" .manual "" 20 :: mirrorProfile.controls }

def pinnedTick : TickInput := { quietTick with overrides := pinned "case" 100, cleared := ["case"] }

theorem mirror_chain {id : String} (hchain : SyncChain mirrorProfile "mirror" id) : id = "mirror" ∨ id = "base" := by
  cases hchain with
  | refl => exact .inl rfl
  | tail _ hlast =>
    obtain ⟨x, -, -, -, -, -, curve, hcurve, -, rfl⟩ := hlast
    have hmem := (mem_of_lastCurve hcurve).1
    simp only [mirrorProfile, strayModeProfile, List.mem_singleton] at hmem
    exact .inr (by rw [hmem])

theorem mirror_isolated :
    controlViews mirrorProfile "mirror" .new [quietTick, quietTick] =
      controlViews mirrorBesideProfile "mirror" .new [quietTick, pinnedTick] := by
  have hshared : Shared mirrorProfile mirrorBesideProfile (SyncChain mirrorProfile "mirror") := by
    refine ⟨rfl, rfl, by decide, by decide, fun x hx => ⟨fun h => List.mem_cons_of_mem _ h, fun h => ?_⟩⟩
    rcases List.mem_cons.mp h with rfl | h
    · rcases mirror_chain hx with hid | hid <;> exact absurd hid (by decide)
    · exact h
  have hcase : ¬ SyncChain mirrorProfile "mirror" "case" := fun h => by
    rcases mirror_chain h with hid | hid <;> exact absurd hid (by decide)
  have hviews : ∀ q : DaemonProfile ℚ, Accepts q [] → (q.curves.map (·.id)).Nodup → (q.controls.map (·.id)).Nodup →
      (∀ c ∈ q.controls, c.mode = .manual ∨ c.mode = .curve) → ViewsAgree q := fun q hq hcurves hids hmodes =>
    viewsAgree_of_nodup hq hcurves hids fun c hc hmode _ _ _ => (hmodes c hc).resolve_left hmode
  have hmain := controls_isolated mirrorProfile mirrorBesideProfile "mirror" hshared
  refine hmain.1 [quietTick, quietTick] [quietTick, pinnedTick] ?_ ?_ ?_ (hmain.2 ?_ ?_) ?_ ?_
  · refine .cons (tickAlike_refl _ _) (.cons ⟨rfl, rfl, rfl, rfl, rfl, fun id hid => ?_, fun id hid => ?_⟩ .nil)
    · exact (KMap.get?_insert_of_ne KMap.empty 100 fun heq : id = "case" => hcase (heq ▸ hid)).symm
    · refine ⟨fun h => (List.not_mem_nil h).elim, fun h => ?_⟩
      exact (hcase (List.mem_singleton.mp h ▸ hid)).elim
  · intro x hx _ d hd hne k hk hk'
    have hdisj : ∀ x ∈ mirrorProfile.controls, ∀ d ∈ mirrorProfile.controls, d.id ≠ x.id → ∀ k ∈ ownKeys x,
        k ∉ ownKeys d := by decide
    exact hdisj x hx d hd hne k hk hk'
  · intro x hx _ d hd hne k hk hk'
    have hdisj : ∀ x ∈ mirrorBesideProfile.controls, ∀ d ∈ mirrorBesideProfile.controls, d.id ≠ x.id → ∀ k ∈ ownKeys x,
        k ∉ ownKeys d := by decide
    exact hdisj x hx d hd hne k hk hk'
  · exact hviews mirrorProfile (by decide) (by decide) (by decide) (by decide)
  · exact hviews mirrorBesideProfile (by decide) (by decide) (by decide) (by decide)
  · intro t ht x _ _ id hid
    simp only [List.mem_cons, List.not_mem_nil, or_false, or_self] at ht
    rw [ht] at hid
    cases hid
  · have hswept : ∀ x ∈ mirrorBesideProfile.controls, x.id ≠ "case" → ∀ k ∈ ownKeys x, sweeps "case" k = false := by
      decide
    intro t ht x hx hS id hid _ k hk
    simp only [List.mem_cons, List.not_mem_nil, or_false] at ht
    rcases ht with rfl | rfl
    · cases hid
    · obtain rfl := List.mem_singleton.mp hid
      exact hswept x hx (fun heq => hcase (heq ▸ hS)) k hk

end ControlOfc.Engine
