import ControlOfc.Engine.CurveEval
import ControlOfc.Profile.Validate
import Mathlib.Algebra.BigOperators.Group.Finset.Basic
import Mathlib.Algebra.BigOperators.Ring.Finset
import Mathlib.Algebra.Order.BigOperators.Group.List
/-! # What a mix costs to resolve (profile_engine/curve_eval.rs:194-277)

`visited` holds one path, so a mix reached along two paths is resolved twice. The number of
`resolve_curve_output` calls is bounded by a geometric sum in the number of mix curves
(`resolveRoot_calls_le`), and doubling chains reach that bound: it is not polynomial in the profile.
-/
namespace ControlOfc.Engine
open Profile

/-- All entries of all mix lists of the profile. -/
def mixEntries (p : DaemonProfile ℚ) : Nat := (p.curves.map fun c => c.mixCurveIds.length).sum

/-- The longest mix list of the profile. -/
def maxMixEntries (p : DaemonProfile ℚ) : Nat := (p.mixCurves.map fun c => c.mixCurveIds.length).foldr max 0

theorem length_le_maxMixEntries {p : DaemonProfile ℚ} {c : CurveConfig ℚ} (hc : c ∈ p.mixCurves) :
    c.mixCurveIds.length ≤ maxMixEntries p := by
  unfold maxMixEntries
  generalize p.mixCurves = l at hc
  induction l with
  | nil => cases hc
  | cons x l ih =>
    rw [List.map_cons, List.foldr_cons]
    rcases List.mem_cons.mp hc with rfl | hc
    · exact Nat.le_max_left _ _
    · exact (ih hc).trans (Nat.le_max_right _ _)

/-- Mixes nest at most `h` deep below `c`, `c` included. -/
def nestedWithin (p : DaemonProfile ℚ) : Nat → CurveConfig ℚ → Bool
  | h, c =>
    c.curveType ≠ .mix ||
      match h with
      | 0 => false
      | h + 1 => c.mixCurveIds.all fun id => ((p.findCurve id).map (nestedWithin p h)).getD true

/-- `1 + d + … + d ^ h`. -/
def geometric (d h : Nat) : Nat := ∑ k ∈ Finset.range (h + 1), d ^ k

theorem geometric_succ (d h : Nat) : geometric d (h + 1) = d * geometric d h + 1 := by
  unfold geometric
  rw [Finset.sum_range_succ', Finset.mul_sum, pow_zero]
  simp only [pow_succ']

theorem one_le_geometric (d h : Nat) : 1 ≤ geometric d h := by
  cases h with
  | zero => simp [geometric]
  | succ h =>
    rw [geometric_succ]
    exact Nat.le_add_left 1 _

theorem geometric_mono (d : Nat) {h h' : Nat} (hh : h ≤ h') : geometric d h ≤ geometric d h' := by
  unfold geometric
  exact Finset.sum_le_sum_of_subset (Finset.range_subset_range.mpr (Nat.succ_le_succ hh))

theorem mem_of_findCurve {F : Type} {p : DaemonProfile F} {id : String} {c : CurveConfig F} (h : p.findCurve id = some c) :
    c ∈ p.curves ∧ c.id = id := by
  refine ⟨List.mem_of_find?_eq_some h, ?_⟩
  simpa using List.find?_some h

theorem mem_mixCurves {F : Type} {p : DaemonProfile F} {c : CurveConfig F} :
    c ∈ p.mixCurves ↔ c ∈ p.curves ∧ c.curveType = .mix := by
  simp [DaemonProfile.mixCurves]

/-! ## One resolution -/

section Calls

variable {p : DaemonProfile ℚ} {sensors : Sensors} {quarantined : List String}

theorem calls_of_not_mix {curve : CurveConfig ℚ} (h : curve.curveType ≠ .mix) (depthLeft : Nat)
    (visited : List String) : (resolveCurveOutput p sensors quarantined depthLeft visited curve).calls = 1 := by
  unfold resolveCurveOutput
  split
  · contradiction
  all_goals rfl

/-- A mix costs its own call and those of its children, or just its own when it is cut. -/
theorem calls_mix_le {curve : CurveConfig ℚ} (h : curve.curveType = .mix) {b depthLeft : Nat} {visited : List String}
    (hchild : curve.id ∉ visited → ∀ d, depthLeft = d + 1 → ∀ id ∈ curve.mixCurveIds, ∀ c, p.findCurve id = some c →
      (resolveCurveOutput p sensors quarantined d (curve.id :: visited) c).calls ≤ b) :
    (resolveCurveOutput p sensors quarantined depthLeft visited curve).calls ≤
      curve.mixCurveIds.length * b + 1 := by
  unfold resolveCurveOutput
  rw [h]
  dsimp only
  refine Nat.succ_le_succ ?_
  unfold resolveMix
  split
  · exact Nat.zero_le _
  · next hv =>
    split
    · exact Nat.zero_le _
    · next hd =>
      obtain ⟨d, rfl⟩ := Nat.exists_eq_succ_of_ne_zero hd
      unfold combineChildren
      refine (List.sum_le_card_nsmul _ b ?_).trans (by simp)
      intro n hn
      simp only [List.map_map, List.mem_map, Function.comp_apply] at hn
      obtain ⟨id, hid, rfl⟩ := hn
      cases hc : p.findCurve id with
      | none => exact Nat.zero_le _
      | some c => exact hchild (by simpa using hv) d rfl id hid c hc

/-- The mix curves that may still be entered. -/
def unvisitedMixes (p : DaemonProfile ℚ) (visited : List String) : Nat :=
  p.mixCurves.countP fun c => !visited.contains c.id

theorem unvisitedMixes_lt {curve : CurveConfig ℚ} (hc : curve ∈ p.mixCurves) {visited : List String}
    (hv : curve.id ∉ visited) : unvisitedMixes p (curve.id :: visited) < unvisitedMixes p visited := by
  have hmono : ∀ l : List (CurveConfig ℚ), (l.countP fun c => !(curve.id :: visited).contains c.id) ≤
      l.countP fun c => !visited.contains c.id := by
    intro l
    refine List.countP_mono_left fun c _ h => ?_
    simp only [Bool.not_eq_true', List.contains_eq_mem, decide_eq_false_iff_not, List.mem_cons, not_or] at h ⊢
    exact h.2
  obtain ⟨l₁, l₂, hl⟩ := List.append_of_mem hc
  have h₁ := hmono l₁
  have h₂ := hmono l₂
  unfold unvisitedMixes
  rw [hl, List.countP_append, List.countP_append, List.countP_cons_of_neg (by simp),
    List.countP_cons_of_pos (by simpa using hv)]
  omega

theorem calls_le_of_path (depthLeft : Nat) (visited : List String) (curve : CurveConfig ℚ) (hc : curve ∈ p.curves) :
    (resolveCurveOutput p sensors quarantined depthLeft visited curve).calls ≤
      geometric (maxMixEntries p) (unvisitedMixes p visited) := by
  induction depthLeft generalizing visited curve with
  | zero =>
    by_cases hmix : curve.curveType = .mix
    · refine (calls_mix_le hmix (b := 0) (fun _ d hd => by cases hd)).trans ?_
      rw [Nat.mul_zero]
      exact one_le_geometric _ _
    · rw [calls_of_not_mix hmix]
      exact one_le_geometric _ _
  | succ depthLeft ih =>
    by_cases hmix : curve.curveType = .mix
    · by_cases hv : curve.id ∈ visited
      · refine (calls_mix_le hmix (b := 0) (fun hv' => absurd hv hv')).trans ?_
        rw [Nat.mul_zero]
        exact one_le_geometric _ _
      · have hmem : curve ∈ p.mixCurves := mem_mixCurves.mpr ⟨hc, hmix⟩
        have hlt := unvisitedMixes_lt hmem hv
        have hlen := length_le_maxMixEntries hmem
        calc (resolveCurveOutput p sensors quarantined (depthLeft + 1) visited curve).calls
            ≤ curve.mixCurveIds.length * geometric (maxMixEntries p) (unvisitedMixes p (curve.id :: visited)) + 1 := by
              refine calls_mix_le hmix fun _ d hd id _ c hfind => ?_
              obtain rfl := Nat.succ.inj hd
              exact ih _ c (mem_of_findCurve hfind).1
          _ ≤ maxMixEntries p * geometric (maxMixEntries p) (unvisitedMixes p (curve.id :: visited)) + 1 := by
              gcongr
          _ = geometric (maxMixEntries p) (unvisitedMixes p (curve.id :: visited) + 1) := (geometric_succ _ _).symm
          _ ≤ geometric (maxMixEntries p) (unvisitedMixes p visited) := geometric_mono _ hlt
    · rw [calls_of_not_mix hmix]
      exact one_le_geometric _ _

/-- A mix nested `h` deep costs at most the geometric sum up to `h`. -/
theorem calls_le_of_nested {h : Nat} {curve : CurveConfig ℚ} (hc : curve ∈ p.curves)
    (hn : nestedWithin p h curve = true) (depthLeft : Nat) (visited : List String) :
    (resolveCurveOutput p sensors quarantined depthLeft visited curve).calls ≤ geometric (maxMixEntries p) h := by
  induction h generalizing curve depthLeft visited with
  | zero =>
    unfold nestedWithin at hn
    rw [calls_of_not_mix (by simpa using hn)]
    exact one_le_geometric _ _
  | succ h ih =>
    by_cases hmix : curve.curveType = .mix
    · have hlen := length_le_maxMixEntries (mem_mixCurves.mpr ⟨hc, hmix⟩)
      have hall : ∀ id ∈ curve.mixCurveIds, ∀ c, p.findCurve id = some c → nestedWithin p h c = true := by
        intro id hid c hfind
        unfold nestedWithin at hn
        rw [hmix] at hn
        have := List.all_eq_true.mp (by simpa using hn) id hid
        simpa [hfind] using this
      calc (resolveCurveOutput p sensors quarantined depthLeft visited curve).calls
          ≤ curve.mixCurveIds.length * geometric (maxMixEntries p) h + 1 := by
            refine calls_mix_le hmix fun _ d _ id hid c hfind => ?_
            exact ih (mem_of_findCurve hfind).1 (hall id hid c hfind) d _
        _ ≤ maxMixEntries p * geometric (maxMixEntries p) h + 1 := by gcongr
        _ = geometric (maxMixEntries p) (h + 1) := (geometric_succ _ _).symm
    · rw [calls_of_not_mix hmix]
      exact one_le_geometric _ _

end Calls

/-! ## From the root -/

/-- **The cost of a mix**: whatever the sensors read, evaluating a control on it makes at most
`1 + d + … + d ^ m` calls, `d` the longest mix list and `m` the number of mix curves; the exponent is
no more than the depth to which it nests. -/
theorem resolveRoot_calls_le (p : DaemonProfile ℚ) (sensors : Sensors) (quarantined : List String)
    (curve : CurveConfig ℚ) (hc : curve ∈ p.mixCurves) :
    (resolveRoot p sensors quarantined curve).calls ≤ geometric (maxMixEntries p) p.mixCurves.length ∧
      ∀ h, nestedWithin p h curve = true →
        (resolveRoot p sensors quarantined curve).calls ≤ geometric (maxMixEntries p) h := by
  have hmem : curve ∈ p.curves := (mem_mixCurves.mp hc).1
  constructor
  · refine (calls_le_of_path maxProfileCurves [] curve hmem).trans (geometric_mono _ ?_)
    exact List.countP_le_length
  · intro h hn
    exact calls_le_of_nested hmem hn maxProfileCurves []

/-- A mix of the given children, in order. -/
def mixOf (id : String) (children : List String) : CurveConfig ℚ :=
  { CurveConfig.blank id .mix with mixCurveIds := children }

/-- Eight mixes, each naming the next one twice, over one flat curve. -/
def doublingProfile : DaemonProfile ℚ :=
  ⟨"doubling", [],
    [mixOf "a" ["b", "b"], mixOf "b" ["c", "c"], mixOf "c" ["d", "d"], mixOf "d" ["e", "e"], mixOf "e" ["f", "f"],
      mixOf "f" ["g", "g"], mixOf "g" ["h", "h"], mixOf "h" ["i", "i"], CurveConfig.blank "i" .flat]⟩

/-- An accepted profile of nine curves and sixteen entries takes 511 calls, the bound of
`resolveRoot_calls_le`. -/
theorem doublingProfile_calls :
    Accepts doublingProfile [] ∧ mixOf "a" ["b", "b"] ∈ doublingProfile.mixCurves ∧
      (resolveRoot doublingProfile [] [] (mixOf "a" ["b", "b"])).calls = 511 ∧
      geometric (maxMixEntries doublingProfile) doublingProfile.mixCurves.length = 511 ∧
      ¬ (resolveRoot doublingProfile [] [] (mixOf "a" ["b", "b"])).calls ≤
        1 + mixEntries doublingProfile * doublingProfile.curves.length := by
  decide

theorem doublingProfile_within :
    (resolveRoot doublingProfile [] [] (mixOf "a" ["b", "b"])).calls ≤
        geometric (maxMixEntries doublingProfile) doublingProfile.mixCurves.length ∧
      ∀ h, nestedWithin doublingProfile h (mixOf "a" ["b", "b"]) = true →
        (resolveRoot doublingProfile [] [] (mixOf "a" ["b", "b"])).calls ≤ geometric (maxMixEntries doublingProfile) h :=
  resolveRoot_calls_le doublingProfile [] [] (mixOf "a" ["b", "b"]) (by decide)

end ControlOfc.Engine
