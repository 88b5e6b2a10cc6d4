import ControlOfc.Profile.Validate
/-! # The mix cycles `validate` reports (profile.rs:1320-1353)

The search of `Cycle` decides which graphs have a cycle, in whatever order it takes the keys of the map.
Where curve ids are distinct, the map `mix_cycle` builds has an edge for every child of a mix curve and
no other, so what it decides is whether a mix curve reaches itself.
-/
namespace ControlOfc.Profile

variable {F : Type}

/-- A mix curve of the profile with id `a` lists `b`. -/
def MixEdge (p : DaemonProfile F) (a b : String) : Prop :=
  ∃ c ∈ p.curves, c.curveType = .mix ∧ c.id = a ∧ b ∈ c.mixCurveIds

theorem mem_mixCurves {p : DaemonProfile F} {c : CurveConfig F} : c ∈ p.mixCurves ↔ c ∈ p.curves ∧ c.curveType = .mix := by
  rw [DaemonProfile.mixCurves, List.mem_filter, decide_eq_true_iff]

theorem isSome_mixAdj {p : DaemonProfile F} {a : String} : ((mixAdj p).get? a).isSome ↔ a ∈ p.mixCurves.map (·.id) := by
  rw [mixAdj, KMap.isSome_get?_ofList, List.map_map]
  rfl

/-- Distinct ids: the map has the entry of each mix curve. -/
theorem mixAdj_get? {p : DaemonProfile F} (hids : (p.curves.map (·.id)).Nodup) {a : String} {children : List String} :
    (mixAdj p).get? a = some children ↔
      ∃ c ∈ p.curves, c.curveType = .mix ∧ c.id = a ∧ c.mixCurveIds = children := by
  have hkeys : ((p.mixCurves.map fun c => (c.id, c.mixCurveIds)).map Prod.fst).Nodup := by
    rw [List.map_map]
    exact hids.sublist (List.filter_sublist.map _)
  rw [mixAdj, KMap.get?_ofList_of_nodup hkeys, List.mem_map]
  simp only [mem_mixCurves, Prod.mk.injEq, and_assoc]

theorem edge_mixAdj {p : DaemonProfile F} (hids : (p.curves.map (·.id)).Nodup) : Edge (mixAdj p) = MixEdge p := by
  ext a b
  constructor
  · intro h
    obtain ⟨children, hget⟩ := Option.isSome_iff_exists.mp (isSome_of_edge h)
    obtain ⟨c, hc, hmix, hid, rfl⟩ := (mixAdj_get? hids).mp hget
    rw [Edge, neighbors, hget] at h
    exact ⟨c, hc, hmix, hid, h⟩
  · rintro ⟨c, hc, hmix, rfl, hb⟩
    rw [Edge, neighbors, (mixAdj_get? hids).mpr ⟨c, hc, hmix, rfl, rfl⟩]
    exact hb

theorem mixCycle_isSome_iff {p : DaemonProfile F} (hids : (p.curves.map (·.id)).Nodup) {keys : List String}
    (hkeys : ∀ a, ((mixAdj p).get? a).isSome → a ∈ keys) :
    (graphFirstCycle keys (mixAdj p)).isSome ↔
      ∃ c ∈ p.curves, c.curveType = .mix ∧ Relation.TransGen (MixEdge p) c.id c.id := by
  rw [← edge_mixAdj hids]
  constructor
  · intro h
    obtain ⟨found, hfound⟩ := Option.isSome_iff_exists.mp h
    have hcycle := graphFirstCycle_some hfound
    obtain ⟨next, hedge, -⟩ := Relation.TransGen.head'_iff.mp hcycle
    rw [edge_mixAdj hids] at hedge
    obtain ⟨c, hc, hmix, rfl, -⟩ := hedge
    exact ⟨c, hc, hmix, hcycle⟩
  · rintro ⟨c, -, -, hcycle⟩
    rw [Option.isSome_iff_ne_none]
    intro hnone
    exact (graphFirstCycle_eq_none_iff hkeys).mp hnone c.id hcycle

/-- **Cycle detection is exact.** Over any map and any order of its keys the search ends, reports nothing
exactly of a graph without cycles and otherwise a node on one; so `mix_cycle` reports exactly the profiles
with a mix curve that reaches itself. -/
theorem cycle_detection_exact :
    (∀ (adj : KMap String (List String)) (keys : List String), (∀ n, n ∈ keys ↔ (adj.get? n).isSome) →
      searchKeys adj (searchFuel keys adj) keys [] ≠ .unfinished ∧
        (graphFirstCycle keys adj = none ↔ ∀ n, ¬ Relation.TransGen (Edge adj) n n) ∧
        ∀ n, graphFirstCycle keys adj = some n → Relation.TransGen (Edge adj) n n) ∧
    ∀ (p : DaemonProfile F), (p.curves.map (·.id)).Nodup →
      ((mixCycle p).isSome ↔ ∃ c ∈ p.curves, c.curveType = .mix ∧ Relation.TransGen (MixEdge p) c.id c.id) := by
  constructor
  · intro adj keys hkeys
    have hsome : ∀ n, (adj.get? n).isSome → n ∈ keys := fun n => (hkeys n).mpr
    exact ⟨searchKeys_ne_unfinished hsome keys [] (List.Subset.refl _), graphFirstCycle_eq_none_iff hsome,
      fun n => graphFirstCycle_some⟩
  · intro p hids
    exact mixCycle_isSome_iff hids fun a => isSome_mixAdj.mp

/-- A mix of itself through another one, next to a plain curve. -/
def loopedMix : DaemonProfile ℚ where
  id := "looped"
  controls := []
  curves := [{ CurveConfig.blank "a" .mix with mixCurveIds := ["c", "b"] },
    { CurveConfig.blank "b" .mix with mixCurveIds := ["a"] }, CurveConfig.blank "c" .graph]

theorem cycle_detection_loopedMix :
    (∃ n, graphFirstCycle ["b", "a"] (mixAdj loopedMix) = some n ∧ Relation.TransGen (Edge (mixAdj loopedMix)) n n) ∧
      ∃ c ∈ loopedMix.curves, c.curveType = .mix ∧ Relation.TransGen (MixEdge loopedMix) c.id c.id := by
  obtain ⟨hsearch, hmix⟩ := cycle_detection_exact (F := ℚ)
  constructor
  · have hkeys : ∀ n, n ∈ ["b", "a"] ↔ ((mixAdj loopedMix).get? n).isSome := by
      intro n
      have hids : loopedMix.mixCurves.map (·.id) = ["a", "b"] := by decide
      rw [isSome_mixAdj, hids]
      simp only [List.mem_cons, List.not_mem_nil, or_false]
      exact or_comm
    obtain ⟨-, -, hcycle⟩ := hsearch (mixAdj loopedMix) ["b", "a"] hkeys
    have hfound : graphFirstCycle ["b", "a"] (mixAdj loopedMix) = some "b" := by decide
    exact ⟨"b", hfound, hcycle "b" hfound⟩
  · exact (hmix loopedMix (by decide)).mp (by decide)

end ControlOfc.Profile
