import ControlOfc.Engine.Loop
import ControlOfc.Engine.MixCost
/-! # What `validate` accepts and what the engine evaluates

Four places look a profile's references up: the cycle checks, the sorter, the cached curve index and the
evaluator. They differ on a repeated id (first or last match) and on a mode that is neither `"curve"` nor
`"manual"`. `ViewsAgree` states what has to hold of a document for the evaluation to follow it as
written (`accepted_evaluatedAsWritten`).
-/
namespace ControlOfc.Engine
open Profile Override

/-- The curve a control is evaluated with: the last of the id (`curve_index`). -/
def lastCurve (p : DaemonProfile ℚ) (id : String) : Option (CurveConfig ℚ) :=
  ((curveIndex p).get? id).bind (p.curves[·]?)

theorem mem_of_lastCurve {p : DaemonProfile ℚ} {id : String} {c : CurveConfig ℚ} (h : lastCurve p id = some c) :
    c ∈ p.curves ∧ c.id = id := by
  obtain ⟨ci, hci, hc⟩ := Option.bind_eq_some_iff.mp h
  obtain ⟨⟨c', i⟩, hmem, heq⟩ := List.mem_map.mp (KMap.mem_of_get?_ofList hci)
  obtain ⟨rfl, rfl⟩ := Prod.mk.inj heq
  have hc' := List.mk_mem_zipIdx_iff_getElem?.mp hmem
  obtain rfl := Option.some.inj (hc.symm.trans hc')
  exact ⟨List.mem_of_getElem? hc, rfl⟩

/-! ## Mix references as the evaluator follows them -/

/-- The evaluator steps from a mix to the first curve an entry names. -/
def MixChild (p : DaemonProfile ℚ) (c c' : CurveConfig ℚ) : Prop :=
  c ∈ p.mixCurves ∧ ∃ id ∈ c.mixCurveIds, p.findCurve id = some c'

/-- No mix below `root` comes up again, by id, below itself. -/
def RepeatFree (p : DaemonProfile ℚ) (root : CurveConfig ℚ) : Prop :=
  ∀ m m', Relation.ReflTransGen (MixChild p) root m → Relation.TransGen (MixChild p) m m' →
    m'.curveType = .mix → m'.id ≠ m.id

section Mix

variable {p : DaemonProfile ℚ} {sensors : Sensors} {quarantined : List String}

theorem cuts_of_not_mix {c : CurveConfig ℚ} (h : c.curveType ≠ .mix) (depthLeft : Nat) (visited : List String) :
    (resolveCurveOutput p sensors quarantined depthLeft visited c).cuts = [] := by
  unfold resolveCurveOutput
  split
  · contradiction
  all_goals rfl

/-- A mix that is not cut logs what its children log. -/
theorem cuts_mix {c : CurveConfig ℚ} (h : c.curveType = .mix) {visited : List String} (hv : c.id ∉ visited)
    (depthLeft : Nat) :
    (resolveCurveOutput p sensors quarantined (depthLeft + 1) visited c).cuts =
      c.mixCurveIds.flatMap fun id =>
        (((p.findCurve id).map (resolveCurveOutput p sensors quarantined depthLeft (c.id :: visited))).getD
          .absent).cuts := by
  unfold resolveCurveOutput
  rw [h]
  dsimp only
  unfold resolveMix
  rw [if_neg (by simpa using hv), if_neg (Nat.succ_ne_zero _)]
  simp only [combineChildren, List.flatMap_map]

theorem cuts_mix_repeated {c : CurveConfig ℚ} (h : c.curveType = .mix) {visited : List String} (hv : c.id ∈ visited)
    (depthLeft : Nat) : (resolveCurveOutput p sensors quarantined depthLeft visited c).cuts = [.cycle c.name] := by
  unfold resolveCurveOutput
  rw [h]
  dsimp only
  unfold resolveMix
  rw [if_pos (by simpa using hv)]

theorem cuts_of_repeatFree (hcap : p.curves.length ≤ maxProfileCurves) {root : CurveConfig ℚ}
    (hfree : RepeatFree p root) (depthLeft : Nat) (visited : List String) (c : CurveConfig ℚ) (hc : c ∈ p.curves)
    (hpath : ∀ v ∈ visited, ∃ m, m.id = v ∧ m ∈ p.curves ∧ Relation.ReflTransGen (MixChild p) root m ∧
      Relation.TransGen (MixChild p) m c)
    (hroot : Relation.ReflTransGen (MixChild p) root c) (hnodup : visited.Nodup)
    (hdepth : depthLeft + visited.length = maxProfileCurves) :
    (resolveCurveOutput p sensors quarantined depthLeft visited c).cuts = [] := by
  induction depthLeft generalizing visited c with
  | zero =>
    by_cases hmix : c.curveType = .mix
    · have hv : c.id ∉ visited := by
        intro hmem
        obtain ⟨m, hm, -, hrm, hmc⟩ := hpath _ hmem
        exact hfree m c hrm hmc hmix hm.symm
      -- 257 distinct ids among at most 256 curves
      have hsub : c.id :: visited ⊆ p.curves.map (·.id) := by
        intro id hid
        rcases List.mem_cons.mp hid with rfl | hid
        · exact List.mem_map.mpr ⟨c, hc, rfl⟩
        · obtain ⟨m, rfl, hm, -, -⟩ := hpath _ hid
          exact List.mem_map.mpr ⟨m, hm, rfl⟩
      have hle := (List.subperm_of_subset (List.nodup_cons.mpr ⟨hv, hnodup⟩) hsub).length_le
      rw [List.length_cons, List.length_map] at hle
      omega
    · exact cuts_of_not_mix hmix _ _
  | succ depthLeft ih =>
    by_cases hmix : c.curveType = .mix
    · have hv : c.id ∉ visited := by
        intro hmem
        obtain ⟨m, hm, -, hrm, hmc⟩ := hpath _ hmem
        exact hfree m c hrm hmc hmix hm.symm
      rw [cuts_mix hmix hv, List.flatMap_eq_nil_iff]
      intro id hid
      cases hfind : p.findCurve id with
      | none => rfl
      | some c' =>
        have hchild : MixChild p c c' := ⟨mem_mixCurves.mpr ⟨hc, hmix⟩, id, hid, hfind⟩
        refine ih (c.id :: visited) c' (mem_of_findCurve hfind).1 ?_ (hroot.tail hchild)
          (List.nodup_cons.mpr ⟨hv, hnodup⟩) (by rw [List.length_cons]; omega)
        intro v hmem
        rcases List.mem_cons.mp hmem with rfl | hmem
        · exact ⟨c, rfl, hc, hroot, .single hchild⟩
        · obtain ⟨m, hm, hmp, hrm, hmc⟩ := hpath v hmem
          exact ⟨m, hm, hmp, hrm, hmc.tail hchild⟩
    · exact cuts_of_not_mix hmix _ _

/-- Where nothing was cut at a mix, nothing was cut at its children, which were resolved below it. -/
theorem cuts_child {c c' : CurveConfig ℚ} (h : MixChild p c c') {depthLeft : Nat} {visited : List String}
    (hcuts : (resolveCurveOutput p sensors quarantined depthLeft visited c).cuts = []) :
    ∃ d, (resolveCurveOutput p sensors quarantined d (c.id :: visited) c').cuts = [] := by
  obtain ⟨hc, id, hid, hfind⟩ := h
  have hmix := (mem_mixCurves.mp hc).2
  have hv : c.id ∉ visited := by
    intro hmem
    rw [cuts_mix_repeated hmix hmem] at hcuts
    cases hcuts
  cases depthLeft with
  | zero =>
    unfold resolveCurveOutput at hcuts
    rw [hmix] at hcuts
    dsimp only at hcuts
    unfold resolveMix at hcuts
    rw [if_neg (by simpa using hv), if_pos rfl] at hcuts
    cases hcuts
  | succ d =>
    rw [cuts_mix hmix hv, List.flatMap_eq_nil_iff] at hcuts
    have := hcuts id hid
    rw [hfind] at this
    exact ⟨d, this⟩

/-- **The cycle and depth branches stay untaken exactly where no mix repeats below itself.** -/
theorem resolveRoot_cuts_iff (hcap : p.curves.length ≤ maxProfileCurves) {root : CurveConfig ℚ} (hroot : root ∈ p.curves) :
    (resolveRoot p sensors quarantined root).cuts = [] ↔ RepeatFree p root := by
  constructor
  · intro hcuts m m' hrm hmm' hmix hid
    have hm : ∃ d visited, (resolveCurveOutput p sensors quarantined d visited m).cuts = [] := by
      clear hmm' hid
      induction hrm with
      | refl => exact ⟨_, _, hcuts⟩
      | tail _ hstep ih =>
        obtain ⟨d, visited, h⟩ := ih
        obtain ⟨d', h'⟩ := cuts_child hstep h
        exact ⟨d', _, h'⟩
    have hm' : ∃ d visited, m.id ∈ visited ∧ (resolveCurveOutput p sensors quarantined d visited m').cuts = [] := by
      clear hmix hid
      obtain ⟨d, visited, h⟩ := hm
      induction hmm' with
      | single hstep =>
        obtain ⟨d', h'⟩ := cuts_child hstep h
        exact ⟨d', _, List.mem_cons_self, h'⟩
      | tail _ hstep ih =>
        obtain ⟨d', visited', hmem, h'⟩ := ih
        obtain ⟨d'', h''⟩ := cuts_child hstep h'
        exact ⟨d'', _, List.mem_cons_of_mem _ hmem, h''⟩
    obtain ⟨d, visited, hmem, h⟩ := hm'
    rw [← hid] at hmem
    rw [cuts_mix_repeated hmix hmem] at h
    cases h
  · intro hfree
    exact cuts_of_repeatFree hcap hfree maxProfileCurves [] root hroot (by simp) .refl List.nodup_nil rfl

end Mix

/-! ## Agreement of the views -/

/-- The evaluator's own lookups describe the document: its mix references do not loop, and a control it
resolves through a sync curve mirrors the one control of that id, which the order puts before it. -/
structure ViewsAgree (p : DaemonProfile ℚ) : Prop where
  mix : ∀ control ∈ p.controls, control.mode ≠ .manual → ∀ root, lastCurve p control.curveId = some root →
    root.curveType = .mix → RepeatFree p root
  sync : ∀ i control curve, p.controls[i]? = some control → control.mode ≠ .manual →
    lastCurve p control.curveId = some curve → curve.curveType = .sync →
    ∀ j target, p.controls[j]? = some target → j ≠ i → target.id = curve.syncControlId →
      Before (topologicalControlOrder p) j i ∧
        ∀ k other, p.controls[k]? = some other → other.id = target.id → k = j

/-- The state belongs to no profile, to another one, or to this one with at most its own plan cached. -/
def ForProfile (p : DaemonProfile ℚ) (s : ProfileEngineState) : Prop :=
  s.activeProfileId = some p.id → s.staticCache = none ∨
    s.staticCache = some ⟨topologicalControlOrder p, curveIndex p⟩

/-- One tick follows the document: no branch for cyclic or oversized graphs is taken, every control is
visited once, and a control on a sync curve whose target has an output this tick starts from that output. -/
structure EvaluatedAsWritten (p : DaemonProfile ℚ) (sensors : Sensors) (s : ProfileEngineState)
    (o : OverrideSnapshot) : Prop where
  uncut : ∀ v ∈ (evaluateProfileWithOverrides p sensors s o).visits, v.cuts = []
  unwarned : (topoRun p).depthWarnings = 0
  once : ((evaluateProfileWithOverrides p sensors s o).visits.map (·.idx)).Perm (List.range p.controls.length)
  sync : ∀ v ∈ (evaluateProfileWithOverrides p sensors s o).visits, o.controls.get? v.control.id = none →
    v.control.mode ≠ .manual → ∀ curve, lastCurve p v.control.curveId = some curve → curve.curveType = .sync →
    ∀ w ∈ (evaluateProfileWithOverrides p sensors s o).visits, w.idx ≠ v.idx → w.control.id = curve.syncControlId →
      ∀ output, w.outcome.output = some output →
        ∃ tuned, v.outcome = .evaluated (clampPct (output + curve.syncOffsetPct.getD 0)) tuned

section Tick

variable {p : DaemonProfile ℚ} {sensors : Sensors} {s : ProfileEngineState} {o : OverrideSnapshot}

theorem evalOrder_prepare (hs : ForProfile p s) : (s.prepare p).evalOrder = topologicalControlOrder p := by
  unfold ProfileEngineState.evalOrder
  rw [prepare_staticCache hs]

theorem cachedCurve_loop (hs : ForProfile p s) (order : List Nat) (id : String) :
    (loop p sensors o (s.prepare p) order).state.cachedCurve p id = lastCurve p id := by
  rw [(loop_setup (s.prepare p) order).cachedCurve]
  unfold ProfileEngineState.cachedCurve lastCurve
  rw [prepare_staticCache hs]
  rfl

/-- The visits of a tick come from its loop over the topological order. -/
theorem visit_of_tick (hs : ForProfile p s) {v : Visit} (hv : v ∈ (evaluateProfileWithOverrides p sensors s o).visits) :
    ∃ pre post, topologicalControlOrder p = pre ++ v.idx :: post ∧
      VisitFrom p sensors o (loop p sensors o (s.prepare p) pre) v := by
  rw [evaluate_visits, evalOrder_prepare hs] at hv
  exact visit_spec _ _ hv

theorem visits_idx (hs : ForProfile p s) (ht : TopoSpec p) :
    (evaluateProfileWithOverrides p sensors s o).visits.map (·.idx) = topologicalControlOrder p := by
  rw [evaluate_visits, evalOrder_prepare hs]
  exact loop_visits_idx _ ht.sorted.lt

theorem exists_visit (sensors : Sensors) (o : OverrideSnapshot) (hs : ForProfile p s) (ht : TopoSpec p) {i : Nat} {control : LogicalControl ℚ}
    (hi : p.controls[i]? = some control) :
    ∃ v ∈ (evaluateProfileWithOverrides p sensors s o).visits, v.idx = i ∧ v.control = control := by
  have hlt : i < p.controls.length := (List.getElem?_eq_some_iff.mp hi).1
  have hmem : i ∈ (evaluateProfileWithOverrides p sensors s o).visits.map (·.idx) := by
    rw [visits_idx hs ht]
    exact ht.complete i hlt
  obtain ⟨v, hv, rfl⟩ := List.mem_map.mp hmem
  obtain ⟨_, _, _, hfrom⟩ := visit_of_tick hs hv
  exact ⟨v, hv, rfl, Option.some.inj (hfrom.control.symm.trans hi)⟩

/-! ### What a visit logs -/

theorem cuts_of_visit {acc : TickAcc} {v : Visit} (hfrom : VisitFrom p sensors o acc v)
    (hcached : ∀ id, acc.state.cachedCurve p id = lastCurve p id) :
    v.cuts = [] ∨ (v.control.mode ≠ .manual ∧ ∃ root, lastCurve p v.control.curveId = some root ∧
      root.curveType = .mix ∧ v.cuts = (resolveRoot p sensors acc.state.quarantinedSensorIds root).cuts) := by
  rw [hfrom.cuts]
  unfold controlStep
  split
  · exact .inl rfl
  · have hcuts : (rawOutput p sensors v.control acc.tickOutputs acc.state).cuts = [] ∨
        (v.control.mode ≠ .manual ∧ ∃ root, lastCurve p v.control.curveId = some root ∧ root.curveType = .mix ∧
          (rawOutput p sensors v.control acc.tickOutputs acc.state).cuts =
            (resolveRoot p sensors acc.state.quarantinedSensorIds root).cuts) := by
      unfold rawOutput
      split
      · exact .inl rfl
      · next hmode =>
        rw [hcached]
        split
        · exact .inl rfl
        · next curve hcurve =>
          by_cases hmix : curve.curveType = .mix
          · refine .inr ⟨hmode, curve, hcurve, hmix, ?_⟩
            simp only [curveOutputForControl, hmix]
          · refine .inl ?_
            unfold curveOutputForControl
            dsimp only
            split
            · contradiction
            · rfl
            · rfl
            · split <;> rfl
            · split <;> rfl
    dsimp only
    split <;> exact hcuts

/-- A visited control on a mix curve logs what resolving the curve logs. -/
theorem cuts_of_mix_visit {acc : TickAcc} {v : Visit} (hfrom : VisitFrom p sensors o acc v)
    (hcached : ∀ id, acc.state.cachedCurve p id = lastCurve p id) (ho : o.controls.get? v.control.id = none)
    (hmode : v.control.mode ≠ .manual) {root : CurveConfig ℚ} (hroot : lastCurve p v.control.curveId = some root)
    (hmix : root.curveType = .mix) : v.cuts = (resolveRoot p sensors acc.state.quarantinedSensorIds root).cuts := by
  have hraw : (rawOutput p sensors v.control acc.tickOutputs acc.state).cuts =
      (resolveRoot p sensors acc.state.quarantinedSensorIds root).cuts := by
    unfold rawOutput
    rw [if_neg hmode, hcached, hroot]
    simp only [curveOutputForControl, hmix]
  rw [hfrom.cuts, ← hraw]
  unfold controlStep
  rw [ho]
  dsimp only
  split <;> rfl

/-! ### What a visit on a sync curve starts from -/

/-- The outcome of a control on a sync curve, from the outputs published before it. -/
theorem outcome_of_sync_visit {acc : TickAcc} {v : Visit} (hfrom : VisitFrom p sensors o acc v)
    (hcached : ∀ id, acc.state.cachedCurve p id = lastCurve p id) (ho : o.controls.get? v.control.id = none)
    (hmode : v.control.mode ≠ .manual) {curve : CurveConfig ℚ} (hcurve : lastCurve p v.control.curveId = some curve)
    (hsync : curve.curveType = .sync) :
    match resolveSyncOutput v.control curve acc.tickOutputs with
    | some raw => ∃ tuned, v.outcome = .evaluated raw tuned
    | none => v.outcome = .skipped .syncUnresolvable := by
  have hraw : (rawOutput p sensors v.control acc.tickOutputs acc.state).value =
      ((resolveSyncOutput v.control curve acc.tickOutputs).map Except.ok).getD (.error .syncUnresolvable) := by
    unfold rawOutput
    rw [if_neg hmode, hcached, hcurve]
    simp only [curveOutputForControl, skipReason, hsync]
  rw [hfrom.outcome]
  unfold controlStep
  rw [ho]
  dsimp only
  rw [hraw]
  cases resolveSyncOutput v.control curve acc.tickOutputs with
  | none => rfl
  | some raw => exact ⟨_, rfl⟩

end Tick

end ControlOfc.Engine
