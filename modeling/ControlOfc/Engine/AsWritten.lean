import ControlOfc.Engine.Views
/-! # Accepted documents are evaluated as written exactly when the views agree

`evaluatedAsWritten_of_viewsAgree`, its converse on documents with distinct control ids, and the
ordinary case: distinct ids and no mode but the two the engine knows. A document `validate` accepts can
fall outside all three.
-/
namespace ControlOfc.Engine
open Profile Override

variable {p : DaemonProfile ℚ} {known : List String}

/-! ## Sufficient -/

section Sufficient

variable {sensors : Sensors} {s : ProfileEngineState} {o : OverrideSnapshot}

/-- Two visits of one tick at one index are the same visit. -/
theorem visit_unique (hs : ForProfile p s) (ht : TopoSpec p) {v w : Visit}
    (hv : v ∈ (evaluateProfileWithOverrides p sensors s o).visits)
    (hw : w ∈ (evaluateProfileWithOverrides p sensors s o).visits) (h : v.idx = w.idx) : v = w := by
  refine List.inj_on_of_nodup_map ?_ hv hw h
  rw [visits_idx hs ht]
  exact ht.sorted.nodup

/-- Where the target comes first and is alone with its id, its output is what the mirror reads. -/
theorem tickOutputs_of_before (hs : ForProfile p s) (ht : TopoSpec p) {w : Visit}
    (hw : w ∈ (evaluateProfileWithOverrides p sensors s o).visits) {pre post : List Nat} {i : Nat}
    (horder : topologicalControlOrder p = pre ++ i :: post) (hbefore : Before (topologicalControlOrder p) w.idx i)
    (halone : ∀ k other, p.controls[k]? = some other → other.id = w.control.id → k = w.idx)
    {output : ℚ} (hout : w.outcome.output = some output) :
    (loop p sensors o (s.prepare p) pre).tickOutputs.get? w.control.id = some output := by
  have hlt : ∀ k ∈ pre, k < p.controls.length := fun k hk => ht.sorted.lt k (by rw [horder]; simp [hk])
  have hfinal : (evaluateProfileWithOverrides p sensors s o).visits =
      (loop p sensors o (s.prepare p) (pre ++ i :: post)).visits := by
    rw [evaluate_visits, evalOrder_prepare hs, horder]
  have hgrown := (loop_visits_grown (p := p) (s.prepare p) pre (i :: post) : _ <+:
    (loop p sensors o (s.prepare p) (pre ++ i :: post)).visits)
  have hwpre : w.idx ∈ pre := hbefore.mem_of_split ht.sorted.nodup horder
  have hwmem : w ∈ (loop p sensors o (s.prepare p) pre).visits := by
    have hidxs : (loop p sensors o (s.prepare p) pre).visits.map (·.idx) = pre := loop_visits_idx _ hlt
    rw [← hidxs] at hwpre
    obtain ⟨w', hw', hidx⟩ := List.mem_map.mp hwpre
    have hw'' : w' ∈ (evaluateProfileWithOverrides p sensors s o).visits := by
      rw [hfinal]
      exact hgrown.subset hw'
    rwa [← visit_unique hs ht hw'' hw hidx]
  rw [tickOutputs_eq]
  refine KMap.get?_ofList_of_forall (List.mem_filterMap.mpr ⟨w, hwmem, by simp [Visit.published, hout]⟩) ?_
  intro output' hmem'
  obtain ⟨w', hw', hpub⟩ := List.mem_filterMap.mp hmem'
  obtain ⟨x, hx, heq⟩ := Option.map_eq_some_iff.mp hpub
  obtain ⟨hid, rfl⟩ := Prod.mk.inj heq
  have hw'' : w' ∈ (evaluateProfileWithOverrides p sensors s o).visits := by
    rw [hfinal]
    exact hgrown.subset hw'
  obtain ⟨_, _, _, hfrom⟩ := visit_of_tick hs hw''
  obtain rfl := visit_unique hs ht hw'' hw (halone _ _ hfrom.control hid)
  exact Option.some.inj (hx.symm.trans hout)

/-- **Agreement suffices**, in every state, for all sensors and overrides. -/
theorem evaluatedAsWritten_of_viewsAgree (h : Accepts p known) (hviews : ViewsAgree p) (hs : ForProfile p s) :
    EvaluatedAsWritten p sensors s o := by
  have ht := topologicalControlOrder_spec h.controls_length_le
  refine ⟨?_, ht.warnings, ?_, ?_⟩
  · intro v hv
    obtain ⟨pre, _, -, hfrom⟩ := visit_of_tick hs hv
    rcases cuts_of_visit hfrom (cachedCurve_loop hs pre) with hnil | ⟨hmode, root, hroot, hmix, hcuts⟩
    · exact hnil
    · rw [hcuts]
      refine (resolveRoot_cuts_iff h.curves_length_le (mem_of_lastCurve hroot).1).mpr ?_
      exact hviews.mix v.control (List.mem_of_getElem? hfrom.control) hmode root hroot hmix
  · rw [visits_idx hs ht]
    exact ht.perm
  · intro v hv ho hmode curve hcurve hsync w hw hne hid output hout
    obtain ⟨pre, post, horder, hfrom⟩ := visit_of_tick hs hv
    obtain ⟨_, _, _, hfromw⟩ := visit_of_tick hs hw
    obtain ⟨hbefore, halone⟩ := hviews.sync v.idx v.control curve hfrom.control hmode hcurve hsync w.idx w.control
      hfromw.control hne hid
    have hread := tickOutputs_of_before hs ht hw horder hbefore halone hout
    have hempty := (h.sync_ref (mem_of_lastCurve hcurve).1 hsync).1
    have hself : curve.syncControlId ≠ v.control.id := by
      intro heq
      exact hne (halone v.idx v.control hfrom.control (by rw [hid, heq])).symm
    have houtcome := outcome_of_sync_visit hfrom (cachedCurve_loop hs pre) ho hmode hcurve hsync
    rw [resolveSyncOutput, if_neg (not_or.mpr ⟨hempty, hself⟩), ← hid, hread] at houtcome
    exact houtcome

end Sufficient

/-! ## Necessary, on documents whose control ids are distinct -/

/-- The snapshot that pins one control. -/
def pinned (id : String) (pct : Nat) : OverrideSnapshot := ⟨KMap.empty.insert id pct, .empty⟩

/-- No override, no identify hold. -/
def noOverrides : OverrideSnapshot := ⟨.empty, .empty⟩

theorem forProfile_new (p : DaemonProfile ℚ) : ForProfile p .new := by
  intro h
  cases h

theorem eq_idx_of_id {F : Type} {p : DaemonProfile F} (hids : (p.controls.map (·.id)).Nodup) {i j : Nat}
    {c d : LogicalControl F} (hc : p.controls[i]? = some c) (hd : p.controls[j]? = some d) (h : c.id = d.id) : i = j := by
  have hi : i < (p.controls.map (·.id)).length := by
    rw [List.length_map]
    exact (List.getElem?_eq_some_iff.mp hc).1
  refine (List.getElem?_inj hi hids).mp ?_
  rw [List.getElem?_map, List.getElem?_map, hc, hd, Option.map_some, Option.map_some, h]

theorem viewsAgree_of_evaluatedAsWritten (h : Accepts p known) (hids : (p.controls.map (·.id)).Nodup)
    (hall : ∀ sensors s o, ForProfile p s → EvaluatedAsWritten p sensors s o) : ViewsAgree p := by
  have ht := topologicalControlOrder_spec h.controls_length_le
  have hs := forProfile_new p
  refine ⟨?_, ?_⟩
  · -- any tick on this control resolves its mix, whatever the sensors
    intro control hcontrol hmode root hroot hmix
    obtain ⟨i, hi⟩ := List.mem_iff_getElem?.mp hcontrol
    obtain ⟨v, hv, -, rfl⟩ := exists_visit [] noOverrides hs ht hi
    obtain ⟨pre, _, -, hfrom⟩ := visit_of_tick hs hv
    have hcuts := cuts_of_mix_visit hfrom (cachedCurve_loop hs pre) rfl hmode hroot hmix
    rw [(hall [] .new noOverrides hs).uncut v hv] at hcuts
    exact (resolveRoot_cuts_iff h.curves_length_le (mem_of_lastCurve hroot).1).mp hcuts.symm
  · intro i control curve hi hmode hcurve hsync j target hj hne hid
    refine ⟨?_, fun k other hk hother => eq_idx_of_id hids hk hj hother⟩
    -- pin the target: it has an output, so its mirror must have read it
    have hdiff : control.id ≠ target.id := fun heq => hne (eq_idx_of_id hids hj hi heq.symm)
    have hW := hall [] .new (pinned target.id 50) hs
    obtain ⟨v, hv, rfl, rfl⟩ := exists_visit [] (pinned target.id 50) hs ht hi
    obtain ⟨w, hw, rfl, rfl⟩ := exists_visit [] (pinned target.id 50) hs ht hj
    have ho : (pinned w.control.id 50).controls.get? v.control.id = none := KMap.get?_insert_of_ne _ _ hdiff
    obtain ⟨_, _, _, hfromw⟩ := visit_of_tick hs hw
    have hpin : w.outcome = .overridden 50 := by
      rw [hfromw.outcome]
      unfold controlStep
      rw [show (pinned w.control.id 50).controls.get? w.control.id = some 50 from KMap.get?_insert_self _ _ _]
    obtain ⟨tuned, hv'⟩ := hW.sync v hv ho hmode curve hcurve hsync w hw hne hid 50 (by rw [hpin]; rfl)
    obtain ⟨pre, post, horder, hfrom⟩ := visit_of_tick hs hv
    have houtcome := outcome_of_sync_visit hfrom (cachedCurve_loop hs pre) ho hmode hcurve hsync
    cases hread : resolveSyncOutput v.control curve
        (loop p [] (pinned w.control.id 50) (ProfileEngineState.new.prepare p) pre).tickOutputs with
    | none =>
      rw [hread] at houtcome
      rw [hv'] at houtcome
      cases houtcome
    | some raw =>
      unfold resolveSyncOutput at hread
      split at hread
      · cases hread
      · obtain ⟨output, hout, -⟩ := Option.map_eq_some_iff.mp hread
        rw [tickOutputs_eq] at hout
        obtain ⟨w', hw', hpub⟩ := List.mem_filterMap.mp (KMap.mem_of_get?_ofList hout)
        obtain ⟨x, -, heq⟩ := Option.map_eq_some_iff.mp hpub
        have hid' : w'.control.id = w.control.id := (Prod.mk.inj heq).1.trans hid.symm
        have hlt : ∀ k ∈ pre, k < p.controls.length := fun k hk => ht.sorted.lt k (by rw [horder]; simp [hk])
        have hmem : w'.idx ∈ pre := by
          rw [← loop_visits_idx (p := p) (ProfileEngineState.new.prepare p) hlt]
          exact List.mem_map.mpr ⟨w', hw', rfl⟩
        obtain ⟨_, _, _, hfrom'⟩ := visit_spec _ _ hw'
        rw [eq_idx_of_id hids hfrom'.control hfromw.control hid'] at hmem
        exact ⟨pre, post, horder, hmem⟩

/-! ## Documents with distinct ids -/

section Distinct

theorem eq_of_curve_id {F : Type} {p : DaemonProfile F} (hcurves : (p.curves.map (·.id)).Nodup) {c d : CurveConfig F}
    (hc : c ∈ p.curves) (hd : d ∈ p.curves) (h : c.id = d.id) : c = d :=
  List.inj_on_of_nodup_map hcurves hc hd h

theorem findCurve_of_mem {F : Type} {p : DaemonProfile F} (hcurves : (p.curves.map (·.id)).Nodup) {c : CurveConfig F}
    (hc : c ∈ p.curves) : p.findCurve c.id = some c := by
  have hsome : (p.findCurve c.id).isSome := by
    rw [DaemonProfile.findCurve, List.find?_isSome]
    exact ⟨c, hc, by simp⟩
  obtain ⟨d, hd⟩ := Option.isSome_iff_exists.mp hsome
  rw [hd, eq_of_curve_id hcurves (mem_of_findCurve hd).1 hc (mem_of_findCurve hd).2]

/-- Where curve ids are distinct, `mix_cycle` searched the very graph the evaluator follows. -/
theorem repeatFree_of_nodup (h : Accepts p known) (hcurves : (p.curves.map (·.id)).Nodup) (root : CurveConfig ℚ) :
    RepeatFree p root := by
  obtain ⟨done, hfin, hdone⟩ := h.mix_finished
  have hkeys : ((p.mixCurves.map fun c => (c.id, c.mixCurveIds)).map Prod.fst).Nodup := by
    rw [List.map_map]
    exact hcurves.sublist (List.filter_sublist.map _)
  have hedge : ∀ c c', MixChild p c c' → c'.id ∈ neighbors (mixAdj p) c.id := by
    rintro c c' ⟨hc, id, hid, hfind⟩
    have hget : (mixAdj p).get? c.id = some c.mixCurveIds :=
      (KMap.get?_ofList_of_nodup hkeys).mpr (List.mem_map.mpr ⟨c, hc, rfl⟩)
    rw [neighbors, hget, (mem_of_findCurve hfind).2]
    exact hid
  intro m m' _ hmm' _ hid
  have hm : m ∈ p.mixCurves := by
    obtain ⟨c, hmc, -⟩ := Relation.TransGen.head'_iff.mp hmm'
    exact hmc.1
  have hcycle : Relation.TransGen (fun x y => y ∈ neighbors (mixAdj p) x) m.id m'.id := hmm'.lift (·.id) hedge
  rw [hid] at hcycle
  exact hfin.acyclic (hdone m hm) hcycle

/-- A dependency the sorter follows is an edge `sync_cycle` searched. -/
theorem syncAdj_of_depIdx (hcurves : (p.curves.map (·.id)).Nodup) (hids : (p.controls.map (·.id)).Nodup) {i j : Nat}
    {c d : LogicalControl ℚ} (hc : p.controls[i]? = some c) (hd : p.controls[j]? = some d) (h : depIdx p i = some j) :
    d.id ∈ neighbors (syncAdj p) c.id ∧ c.id ∈ (p.controls.filterMap (syncEdge p)).map Prod.fst := by
  simp only [depIdx, Option.bind_eq_bind, Option.bind_eq_some_iff] at h
  obtain ⟨c', hc', target, hdep, j', hj', hif⟩ := h
  obtain rfl := Option.some.inj (hc.symm.trans hc')
  obtain ⟨d', hd', rfl⟩ := idToIdx_lt hj'
  split at hif
  · cases hif
  · obtain rfl := Option.some.inj hif
    obtain rfl := Option.some.inj (hd.symm.trans hd')
    have hedge : syncEdge p c = some (c.id, [d.id]) := by
      unfold syncDependency at hdep
      unfold syncEdge
      split at hdep
      · cases hdep
      · next hmode =>
        rw [if_pos (not_not.mp hmode)]
        cases hfind : p.findCurve c.curveId with
        | none => simp [hfind] at hdep
        | some curve =>
          rw [hfind] at hdep
          dsimp only at hdep
          split at hdep
          · cases hdep
          · next hcurve =>
            obtain ⟨hsync, hne⟩ := not_or.mp hcurve
            rw [not_not] at hsync
            have htarget : curve.syncControlId = d.id := Option.some.inj hdep
            have hget : (syncTarget p).get? c.curveId = some d.id := by
              refine (KMap.get?_ofList_of_nodup ?_).mpr (List.mem_map.mpr ⟨curve, ?_, ?_⟩)
              · rw [List.map_map]
                exact hcurves.sublist (List.filter_sublist.map _)
              · exact List.mem_filter.mpr ⟨(mem_of_findCurve hfind).1, by simpa using hsync⟩
              · rw [(mem_of_findCurve hfind).2, htarget]
            rw [hget]
            dsimp only
            rw [if_neg (htarget ▸ hne)]
    have hmem : (c.id, [d.id]) ∈ p.controls.filterMap (syncEdge p) :=
      List.mem_filterMap.mpr ⟨c, List.mem_of_getElem? hc, hedge⟩
    have hkeys : ((p.controls.filterMap (syncEdge p)).map Prod.fst).Nodup := by
      refine hids.sublist ?_
      have hfst : ∀ c : LogicalControl ℚ, (syncEdge p c).map Prod.fst = some c.id ∨ syncEdge p c = none := by
        intro c
        unfold syncEdge
        split
        · split
          · split
            · exact .inr rfl
            · exact .inl rfl
          · exact .inr rfl
        · exact .inr rfl
      generalize p.controls = l
      induction l with
      | nil => exact List.Sublist.refl _
      | cons c l ih =>
        rcases hfst c with hsome | hnone
        · obtain ⟨e, he, hid⟩ := Option.map_eq_some_iff.mp hsome
          rw [List.filterMap_cons_some he, List.map_cons, List.map_cons, hid]
          exact ih.cons_cons _
        · rw [List.filterMap_cons_none hnone, List.map_cons]
          exact ih.cons _
    refine ⟨?_, List.mem_map.mpr ⟨_, hmem, rfl⟩⟩
    rw [neighbors, syncAdj, (KMap.get?_ofList_of_nodup hkeys).mpr hmem]
    exact List.mem_cons_self

theorem depIdx_of_sync (hcurves : (p.curves.map (·.id)).Nodup) (hids : (p.controls.map (·.id)).Nodup) {i j : Nat}
    {c d : LogicalControl ℚ} (hc : p.controls[i]? = some c) (hd : p.controls[j]? = some d) (hmode : c.mode = .curve)
    {curve : CurveConfig ℚ} (hcurve : lastCurve p c.curveId = some curve) (hsync : curve.curveType = .sync)
    (hempty : curve.syncControlId ≠ "") (htarget : d.id = curve.syncControlId) (hne : j ≠ i) : depIdx p i = some j := by
  have hfind : p.findCurve c.curveId = some curve := by
    obtain ⟨hmem, hid⟩ := mem_of_lastCurve hcurve
    rw [← hid]
    exact findCurve_of_mem hcurves hmem
  have hdep : syncDependency p c = some d.id := by
    unfold syncDependency
    rw [if_neg (not_not.mpr hmode), hfind]
    dsimp only
    rw [if_neg (not_or.mpr ⟨not_not.mpr hsync, hempty⟩), htarget]
  have hkeys : ((p.controls.zipIdx.map fun (c, i) => (c.id, i)).map Prod.fst).Nodup := by
    have heq : (p.controls.zipIdx.map fun (c, i) => (c.id, i)).map Prod.fst = p.controls.map (·.id) := by
      rw [List.map_map, show (Prod.fst ∘ fun (ci : LogicalControl ℚ × Nat) => (ci.1.id, ci.2)) =
        (·.id) ∘ Prod.fst from rfl, ← List.map_map, List.zipIdx_map_fst]
    rwa [heq]
  have hidx : (idToIdx p).get? d.id = some j :=
    (KMap.get?_ofList_of_nodup hkeys).mpr (List.mem_map.mpr ⟨(d, j), List.mk_mem_zipIdx_iff_getElem?.mpr hd, rfl⟩)
  simp only [depIdx, hc, hdep, hidx, Option.bind_eq_bind, Option.bind_some]
  rw [if_neg hne]

/-- A cycle among the sorter's dependencies would have been reported. -/
theorem not_reaches_self (h : Accepts p known) (hcurves : (p.curves.map (·.id)).Nodup)
    (hids : (p.controls.map (·.id)).Nodup) {i : Nat} : ¬ Reaches (depIdx p) i i := by
  intro hcycle
  obtain ⟨done, hfin, hdone⟩ := h.sync_finished
  let idOf : Nat → String := fun k => ((p.controls[k]?).map (·.id)).getD ""
  have hedge : ∀ a b, depIdx p a = some b → idOf b ∈ neighbors (syncAdj p) (idOf a) ∧
      idOf a ∈ (p.controls.filterMap (syncEdge p)).map Prod.fst := by
    intro a b hab
    have hb : b < p.controls.length := depIdx_lt hab
    cases ha : p.controls[a]? with
    | none => simp [depIdx, ha] at hab
    | some c =>
      have := syncAdj_of_depIdx hcurves hids ha (List.getElem?_eq_getElem hb) hab
      simpa [idOf, ha, List.getElem?_eq_getElem hb] using this
  have hi : idOf i ∈ done := by
    obtain ⟨b, hib, -⟩ := Relation.TransGen.head'_iff.mp hcycle
    obtain ⟨e, he, heq⟩ := List.mem_map.mp (hedge i b hib).2
    rw [← heq]
    exact hdone e he
  exact hfin.acyclic hi (hcycle.lift idOf fun a b hab => (hedge a b hab).1)

theorem viewsAgree_of_nodup (h : Accepts p known) (hcurves : (p.curves.map (·.id)).Nodup)
    (hids : (p.controls.map (·.id)).Nodup)
    (hmodes : ∀ c ∈ p.controls, c.mode ≠ .manual → ∀ curve, lastCurve p c.curveId = some curve →
      curve.curveType = .sync → c.mode = .curve) : ViewsAgree p := by
  refine ⟨fun _ _ _ root _ _ => repeatFree_of_nodup h hcurves root, ?_⟩
  intro i control curve hi hmode hcurve hsync j target hj hne hid
  refine ⟨?_, fun k other hk hother => eq_idx_of_id hids hk hj hother⟩
  have hempty := (h.sync_ref (mem_of_lastCurve hcurve).1 hsync).1
  have hcm := hmodes control (List.mem_of_getElem? hi) hmode curve hcurve hsync
  have hdep := depIdx_of_sync hcurves hids hi hj hcm hcurve hsync hempty hid hne
  have ht := topologicalControlOrder_spec h.controls_length_le
  refine (ht.sorted.after i (ht.complete i ?_) j hdep).resolve_right fun hji => ?_
  · exact (List.getElem?_eq_some_iff.mp hi).1
  · exact not_reaches_self h hcurves hids (Relation.TransGen.head hdep hji)

end Distinct

/-! ## The result -/

/-- A control without members, tuning switched off. -/
def plainControl (id : String) (mode : Mode) (curveId : String) (manualOutputPct : ℚ) : LogicalControl ℚ where
  id := id
  name := id
  mode := mode
  curveId := curveId
  manualOutputPct := manualOutputPct
  members := []
  stepUpPct := 100
  stepDownPct := 100
  offsetPct := 0
  minimumPct := 0
  startPct := 0
  stopPct := 0

/-- A mirror whose mode is neither `"curve"` nor `"manual"`, listed before its target. -/
def strayModeProfile : DaemonProfile ℚ :=
  ⟨"stray", [plainControl "mirror" (.other "auto") "follow" 0, plainControl "base" .manual "" 40],
    [{ CurveConfig.blank "follow" .sync with syncControlId := "base" }]⟩

/-- Two curves named `a`: the evaluator loops through the first, `mix_cycle` has seen the last. -/
def repeatedIdProfile : DaemonProfile ℚ :=
  ⟨"repeated", [plainControl "fan" .curve "c" 0],
    [mixOf "a" ["a"], mixOf "a" ["b"], CurveConfig.blank "b" .flat, mixOf "c" ["a"]]⟩

/-- The same mirror under mode `"curve"`. -/
def mirrorProfile : DaemonProfile ℚ :=
  { strayModeProfile with
    controls := [plainControl "mirror" .curve "follow" 0, plainControl "base" .manual "" 40] }

end ControlOfc.Engine
