import ControlOfc.Profile.Model
import ControlOfc.Lib.KMap
import Mathlib.Logic.Relation
import Mathlib.Data.List.Nodup
import Mathlib.Data.List.Perm.Subperm
/-! # The evaluation order (profile_engine/curve_eval.rs:449-550)

`topo_visit` follows a control's Sync dependency before it emits the control. `emitted` and `ordered`
change together, so the model keeps `ordered` alone; `on_path` is restored on the way out and passed
down instead. `topologicalControlOrder_spec`: the order lists every control once, the depth backstop
does nothing within the control cap, and a control stands after its dependency unless the two lie on
a cycle.
-/
namespace ControlOfc.Engine
open Profile

variable {F : Type}

/-- `sync_dependency` (curve_eval.rs:449). -/
def syncDependency (p : DaemonProfile F) (control : LogicalControl F) : Option String :=
  if control.mode ≠ .curve then none
  else
    match p.findCurve control.curveId with
    | some curve =>
      if curve.curveType ≠ .sync ∨ curve.syncControlId = "" then none else some curve.syncControlId
    | none => none

/-- `id_to_idx` (curve_eval.rs:478): of two controls with one id, the last. -/
def idToIdx (p : DaemonProfile F) : KMap String Nat :=
  KMap.ofList (p.controls.zipIdx.map fun (c, i) => (c.id, i))

/-- The index `topo_visit` follows from `idx`, if any. -/
def depIdx (p : DaemonProfile F) (idx : Nat) : Option Nat := do
  let control ← p.controls[idx]?
  let depId ← syncDependency p control
  let dep ← (idToIdx p).get? depId
  if dep = idx then none else some dep

/-- What `topo_visit` changes, with the depth warnings it logged. -/
structure Topo where
  ordered : List Nat
  depthWarnings : Nat
  deriving DecidableEq, Repr

/-- `topo_visit` (curve_eval.rs:510) over any dependency function; `depthLeft` is
`MAX_PROFILE_CONTROLS - depth`. -/
def topoVisit (dep : Nat → Option Nat) : Nat → List Nat → Topo → Nat → Topo
  | depthLeft, onPath, t, idx =>
    if t.ordered.contains idx || onPath.contains idx then t
    else
      match depthLeft with
      | 0 => { t with depthWarnings := t.depthWarnings + 1 }
      | depthLeft + 1 =>
        let t := match dep idx with
          | some depIdx => topoVisit dep depthLeft (idx :: onPath) t depIdx
          | none => t
        if t.ordered.contains idx then t else { t with ordered := t.ordered ++ [idx] }

/-- `topological_control_order` (curve_eval.rs:477), with the warnings. -/
def topoRun (p : DaemonProfile F) : Topo :=
  (List.range p.controls.length).foldl (topoVisit (depIdx p) maxProfileControls []) ⟨[], 0⟩

def topologicalControlOrder (p : DaemonProfile F) : List Nat := (topoRun p).ordered

/-! ## One visit -/

/-- `j` stands before `i` in `l`. -/
def Before (l : List Nat) (j i : Nat) : Prop := ∃ l₁ l₂, l = l₁ ++ i :: l₂ ∧ j ∈ l₁

theorem Before.append {l : List Nat} {j i : Nat} (h : Before l j i) (m : List Nat) : Before (l ++ m) j i := by
  obtain ⟨l₁, l₂, rfl, hj⟩ := h
  exact ⟨l₁, l₂ ++ m, by simp, hj⟩

/-- In a list without repetition, what stands before `i` is in the part before it. -/
theorem Before.mem_of_split {l pre post : List Nat} {j i : Nat} (h : Before l j i) (hl : l.Nodup)
    (hsplit : l = pre ++ i :: post) : j ∈ pre := by
  obtain ⟨l₁, l₂, hl', hj⟩ := h
  rw [hsplit] at hl hl'
  obtain ⟨-, hcons, hdisj⟩ := List.nodup_append.mp hl
  have hpre : i ∉ pre := fun hmem => hdisj i hmem i List.mem_cons_self rfl
  have hpost : i ∉ post := (List.nodup_cons.mp hcons).1
  rw [((List.append_cons_inj_of_notMem hpre hpost).mp hl').1]
  exact hj

section Visit

variable (dep : Nat → Option Nat) (n : Nat)

/-- `i` reaches `j` by following dependencies at least once. -/
abbrev Reaches : Nat → Nat → Prop := Relation.TransGen fun a b => dep a = some b

/-- The list so far: distinct indices below `n`, each after its dependency unless they are on a cycle. -/
structure Sorted (l : List Nat) : Prop where
  nodup : l.Nodup
  lt : ∀ i ∈ l, i < n
  after : ∀ i ∈ l, ∀ j, dep i = some j → Before l j i ∨ Reaches dep j i

/-- The path above a visit: distinct indices below `n` that all reach the one visited. -/
structure PathTo (onPath : List Nat) (idx : Nat) : Prop where
  nodup : onPath.Nodup
  lt : ∀ a ∈ onPath, a < n
  reaches : ∀ a ∈ onPath, Reaches dep a idx

/-- What a visit leaves: the list grown at its end, the visited index in it unless it was on the path. -/
structure Visited (onPath : List Nat) (t t' : Topo) (idx : Nat) : Prop where
  sorted : Sorted dep n t'.ordered
  grown : t.ordered <+: t'.ordered
  emitted : idx ∈ t'.ordered ∨ idx ∈ onPath
  warnings : t'.depthWarnings = t.depthWarnings

variable {dep n}

theorem PathTo.nil (idx : Nat) : PathTo dep n [] idx :=
  ⟨List.nodup_nil, by simp, by simp⟩

theorem PathTo.step {onPath : List Nat} {idx j : Nat} (h : PathTo dep n onPath idx) (hidx : idx < n)
    (hnot : idx ∉ onPath) (hj : dep idx = some j) : PathTo dep n (idx :: onPath) j := by
  refine ⟨List.nodup_cons.mpr ⟨hnot, h.nodup⟩, ?_, ?_⟩
  · intro a ha
    rcases List.mem_cons.mp ha with rfl | ha
    · exact hidx
    · exact h.lt a ha
  · intro a ha
    rcases List.mem_cons.mp ha with rfl | ha
    · exact .single hj
    · exact (h.reaches a ha).tail hj

/-- A path of distinct indices below `n` has at most `n` of them, fewer when one is missing. -/
theorem PathTo.length_lt {onPath : List Nat} {idx : Nat} (h : PathTo dep n onPath idx) (hidx : idx < n)
    (hnot : idx ∉ onPath) : onPath.length < n := by
  have hsub : (idx :: onPath) ⊆ List.range n := by
    intro a ha
    rw [List.mem_range]
    rcases List.mem_cons.mp ha with rfl | ha
    · exact hidx
    · exact h.lt a ha
  have hle := (List.subperm_of_subset (List.nodup_cons.mpr ⟨hnot, h.nodup⟩) hsub).length_le
  rw [List.length_cons, List.length_range] at hle
  omega

theorem Sorted.snoc {l : List Nat} {idx : Nat} (h : Sorted dep n l) (hidx : idx < n) (hnot : idx ∉ l)
    (hdep : ∀ j, dep idx = some j → j ∈ l ∨ Reaches dep j idx) : Sorted dep n (l ++ [idx]) := by
  refine ⟨?_, ?_, ?_⟩
  · exact h.nodup.append (List.nodup_singleton _) (by simpa using hnot)
  · intro i hi
    rcases List.mem_append.mp hi with hi | hi
    · exact h.lt i hi
    · rw [List.mem_singleton.mp hi]
      exact hidx
  · intro i hi j hj
    rcases List.mem_append.mp hi with hi | hi
    · exact (h.after i hi j hj).imp_left fun hb => hb.append _
    · obtain rfl := List.mem_singleton.mp hi
      exact (hdep j hj).imp_left fun hjl => ⟨l, [], rfl, hjl⟩

theorem topoVisit_spec (hdep : ∀ i j, dep i = some j → j < n) :
    ∀ (depthLeft : Nat) (onPath : List Nat) (t : Topo) (idx : Nat), n ≤ depthLeft + onPath.length → idx < n →
      PathTo dep n onPath idx → Sorted dep n t.ordered →
      Visited dep n onPath t (topoVisit dep depthLeft onPath t idx) idx := by
  intro depthLeft
  induction depthLeft with
  | zero =>
    intro onPath t idx hn hidx hpath hsorted
    unfold topoVisit
    split
    · next hmem =>
      simp only [Bool.or_eq_true, List.contains_iff_mem] at hmem
      exact ⟨hsorted, List.prefix_refl _, hmem, rfl⟩
    · next hmem =>
      simp only [Bool.or_eq_true, List.contains_iff_mem, not_or] at hmem
      have := hpath.length_lt hidx hmem.2
      omega
  | succ depthLeft ih =>
    intro onPath t idx hn hidx hpath hsorted
    unfold topoVisit
    split
    · next hmem =>
      simp only [Bool.or_eq_true, List.contains_iff_mem] at hmem
      exact ⟨hsorted, List.prefix_refl _, hmem, rfl⟩
    · next hmem =>
      simp only [Bool.or_eq_true, List.contains_iff_mem, not_or] at hmem
      cases hd : dep idx with
      | none =>
        dsimp only
        rw [if_neg (by simpa using hmem.1)]
        have hsnoc := hsorted.snoc hidx hmem.1 (fun j hj => by rw [hd] at hj; cases hj)
        exact ⟨hsnoc, List.prefix_append _ _, .inl (by simp), rfl⟩
      | some j =>
        dsimp only
        have hv := ih (idx :: onPath) t j (by rw [List.length_cons]; omega) (hdep idx j hd)
          (hpath.step hidx hmem.2 hd) hsorted
        generalize topoVisit dep depthLeft (idx :: onPath) t j = t' at hv
        split
        · next hin =>
          rw [List.contains_iff_mem] at hin
          exact ⟨hv.sorted, hv.grown, .inl hin, hv.warnings⟩
        · next hin =>
          rw [List.contains_iff_mem] at hin
          refine ⟨hv.sorted.snoc hidx hin ?_, hv.grown.trans (List.prefix_append _ _), .inl (by simp), hv.warnings⟩
          -- the dependency was emitted below, or it is an ancestor and closes a cycle
          intro j' hj'
          rw [hd] at hj'
          obtain rfl := Option.some.inj hj'
          refine hv.emitted.imp_right fun hon => ?_
          rcases List.mem_cons.mp hon with rfl | hon
          · exact .single hd
          · exact hpath.reaches _ hon

theorem foldl_topoVisit_spec (hdep : ∀ i j, dep i = some j → j < n) {cap : Nat} (hcap : n ≤ cap) (starts : List Nat)
    (hstarts : ∀ i ∈ starts, i < n) (t : Topo) (hsorted : Sorted dep n t.ordered) :
    Sorted dep n (starts.foldl (topoVisit dep cap []) t).ordered ∧
      t.ordered <+: (starts.foldl (topoVisit dep cap []) t).ordered ∧
      (∀ i ∈ starts, i ∈ (starts.foldl (topoVisit dep cap []) t).ordered) ∧
      (starts.foldl (topoVisit dep cap []) t).depthWarnings = t.depthWarnings := by
  induction starts generalizing t with
  | nil => exact ⟨hsorted, List.prefix_refl _, by simp, rfl⟩
  | cons i starts ih =>
    have hv := topoVisit_spec hdep cap [] t i (by simpa using hcap) (hstarts i List.mem_cons_self) (.nil i) hsorted
    obtain ⟨hs, hg, hm, hw⟩ := ih (fun j hj => hstarts j (List.mem_cons_of_mem _ hj)) _ hv.sorted
    refine ⟨hs, hv.grown.trans hg, ?_, hw.trans hv.warnings⟩
    intro j hj
    rcases List.mem_cons.mp hj with rfl | hj
    · exact hg.subset (hv.emitted.resolve_right List.not_mem_nil)
    · exact hm j hj

/-- A visit adds nothing but the index it starts from and dependencies of others. -/
theorem mem_topoVisit {depthLeft : Nat} {onPath : List Nat} {t : Topo} {idx i : Nat}
    (h : i ∈ (topoVisit dep depthLeft onPath t idx).ordered) : i ∈ t.ordered ∨ i = idx ∨ ∃ k, dep k = some i := by
  induction depthLeft generalizing onPath t idx with
  | zero =>
    unfold topoVisit at h
    split at h <;> exact .inl h
  | succ depthLeft ih =>
    unfold topoVisit at h
    split at h
    · exact .inl h
    · cases hd : dep idx with
      | none =>
        rw [hd] at h
        dsimp only at h
        split at h
        · exact .inl h
        · exact (List.mem_append.mp h).imp_right fun h => .inl (List.mem_singleton.mp h)
      | some j =>
        rw [hd] at h
        dsimp only at h
        have hbelow : i ∈ (topoVisit dep depthLeft (idx :: onPath) t j).ordered →
            i ∈ t.ordered ∨ i = idx ∨ ∃ k, dep k = some i := by
          intro h
          rcases ih h with h | rfl | h
          · exact .inl h
          · exact .inr (.inr ⟨idx, hd⟩)
          · exact .inr (.inr h)
        split at h
        · exact hbelow h
        · rcases List.mem_append.mp h with h | h
          · exact hbelow h
          · exact .inr (.inl (List.mem_singleton.mp h))

theorem mem_foldl_topoVisit {cap : Nat} {starts : List Nat} {t : Topo} {i : Nat}
    (h : i ∈ (starts.foldl (topoVisit dep cap []) t).ordered) :
    i ∈ t.ordered ∨ i ∈ starts ∨ ∃ k, dep k = some i := by
  induction starts generalizing t with
  | nil => exact .inl h
  | cons start starts ih =>
    rcases ih h with h | h | h
    · rcases mem_topoVisit h with h | rfl | h
      · exact .inl h
      · exact .inr (.inl List.mem_cons_self)
      · exact .inr (.inr h)
    · exact .inr (.inl (List.mem_cons_of_mem _ h))
    · exact .inr (.inr h)

/-- An index nothing depends on waits for its own start, so what starts earlier stands before it. -/
theorem foldl_topoVisit_before (hdep : ∀ i j, dep i = some j → j < n) {cap : Nat} (hcap : n ≤ cap) {i j : Nat}
    (hij : i < j) (hj : j < n) (huntargeted : ∀ k, dep k ≠ some j) :
    Before ((List.range n).foldl (topoVisit dep cap []) ⟨[], 0⟩).ordered i j := by
  have hsplit : List.range n = List.range j ++ List.range' j (n - j) := by
    have happend := List.range'_append_1 (s := 0) (m := j) (n := n - j)
    rw [Nat.zero_add, Nat.add_sub_cancel' hj.le] at happend
    rw [List.range_eq_range', List.range_eq_range', happend]
  have hbelow : ∀ k ∈ List.range j, k < n := fun k hk => (List.mem_range.mp hk).trans hj
  have habove : ∀ k ∈ List.range' j (n - j), k < n := fun k hk => by
    have := List.mem_range'_1.mp hk
    omega
  obtain ⟨hsorted, -, hearlier, -⟩ := foldl_topoVisit_spec hdep hcap (List.range j) hbelow ⟨[], 0⟩
    ⟨List.nodup_nil, by simp, by simp⟩
  have hnotYet : j ∉ ((List.range j).foldl (topoVisit dep cap []) ⟨[], 0⟩).ordered := by
    intro h
    rcases mem_foldl_topoVisit h with h | h | ⟨k, hk⟩
    · cases h
    · exact Nat.lt_irrefl j (List.mem_range.mp h)
    · exact huntargeted k hk
  rw [hsplit, List.foldl_append]
  generalize (List.range j).foldl (topoVisit dep cap []) ⟨[], 0⟩ = t at hsorted hearlier hnotYet ⊢
  obtain ⟨-, ⟨more, hmore⟩, hlater, -⟩ := foldl_topoVisit_spec hdep hcap _ habove t hsorted
  have hjmore : j ∈ more := by
    have hj' := hlater j (List.mem_range'_1.mpr ⟨le_refl j, by omega⟩)
    rw [← hmore] at hj'
    exact (List.mem_append.mp hj').resolve_left hnotYet
  obtain ⟨l₁, l₂, rfl⟩ := List.append_of_mem hjmore
  rw [← hmore]
  exact ⟨t.ordered ++ l₁, l₂, by simp, List.mem_append_left _ (hearlier i (List.mem_range.mpr hij))⟩

/-- With nothing to follow, the order is the profile's. -/
theorem foldl_topoVisit_range (hnone : ∀ i, dep i = none) {cap : Nat} (hcap : 0 < cap) (m : Nat) :
    (List.range m).foldl (topoVisit dep cap []) ⟨[], 0⟩ = ⟨List.range m, 0⟩ := by
  obtain ⟨cap, rfl⟩ := Nat.exists_eq_succ_of_ne_zero hcap.ne'
  induction m with
  | zero => rfl
  | succ m ih =>
    rw [List.range_succ, List.foldl_append, ih, List.foldl_cons, List.foldl_nil]
    unfold topoVisit
    simp [hnone]

end Visit

/-! ## The whole order -/

theorem idToIdx_lt {p : DaemonProfile F} {id : String} {i : Nat} (h : (idToIdx p).get? id = some i) :
    ∃ c, p.controls[i]? = some c ∧ c.id = id := by
  obtain ⟨⟨c, k⟩, hmem, heq⟩ := List.mem_map.mp (KMap.mem_of_get?_ofList h)
  obtain ⟨rfl, rfl⟩ := Prod.mk.inj heq
  exact ⟨c, List.mk_mem_zipIdx_iff_getElem?.mp hmem, rfl⟩

theorem depIdx_lt {p : DaemonProfile F} {i j : Nat} (h : depIdx p i = some j) : j < p.controls.length := by
  simp only [depIdx, Option.bind_eq_bind, Option.bind_eq_some_iff] at h
  obtain ⟨_, _, _, _, dep, hdep, hj⟩ := h
  obtain ⟨c, hc, -⟩ := idToIdx_lt hdep
  split at hj
  · cases hj
  · cases hj
    exact (List.getElem?_eq_some_iff.mp hc).1

/-- The order of a profile within the control cap. -/
structure TopoSpec (p : DaemonProfile F) : Prop where
  sorted : Sorted (depIdx p) p.controls.length (topologicalControlOrder p)
  complete : ∀ i < p.controls.length, i ∈ topologicalControlOrder p
  warnings : (topoRun p).depthWarnings = 0

/-- **Every control once, dependencies first**, except where they form a cycle; the depth backstop stays
silent. -/
theorem topologicalControlOrder_spec {p : DaemonProfile F} (h : p.controls.length ≤ maxProfileControls) :
    TopoSpec p := by
  obtain ⟨hs, -, hm, hw⟩ := foldl_topoVisit_spec (fun _ _ => depIdx_lt) h (List.range p.controls.length)
    (fun i hi => List.mem_range.mp hi) ⟨[], 0⟩ ⟨List.nodup_nil, by simp, by simp⟩
  exact ⟨hs, fun i hi => hm i (List.mem_range.mpr hi), hw⟩

theorem TopoSpec.perm {p : DaemonProfile F} (h : TopoSpec p) :
    (topologicalControlOrder p).Perm (List.range p.controls.length) := by
  refine (List.perm_ext_iff_of_nodup h.sorted.nodup List.nodup_range).mpr fun i => ?_
  rw [List.mem_range]
  exact ⟨h.sorted.lt i, h.complete i⟩

/-- **The control order**: every control once; one after the control its Sync curve names, unless it lies on
a cycle; the profile's own order where nothing depends on anything, and between any two controls no other
one follows. -/
theorem topologicalControlOrder_lawful {p : DaemonProfile F} (h : p.controls.length ≤ maxProfileControls) :
    (topologicalControlOrder p).Perm (List.range p.controls.length) ∧
      (∀ i j, depIdx p i = some j → ¬ Reaches (depIdx p) i i → Before (topologicalControlOrder p) j i) ∧
      ((∀ i, depIdx p i = none) → topologicalControlOrder p = List.range p.controls.length) ∧
      ∀ i j, i < j → j < p.controls.length → (∀ k, ¬ Reaches (depIdx p) k i) → (∀ k, ¬ Reaches (depIdx p) k j) →
        Before (topologicalControlOrder p) i j := by
  have hspec := topologicalControlOrder_spec h
  refine ⟨hspec.perm, ?_, ?_, ?_⟩
  · intro i j hdep hcycle
    have hi : i ∈ topologicalControlOrder p := by
      refine hspec.complete i ?_
      by_contra hi
      rw [depIdx, List.getElem?_eq_none (not_lt.mp hi)] at hdep
      cases hdep
    exact (hspec.sorted.after i hi j hdep).resolve_right fun hback => hcycle (.head hdep hback)
  · intro hnone
    exact congrArg Topo.ordered (foldl_topoVisit_range hnone (by decide) _)
  · intro i j hij hj _ huntargeted
    exact foldl_topoVisit_before (fun _ _ => depIdx_lt) h hij hj fun k hk => huntargeted k (.single hk)

/-- Three controls, of which the first mirrors the last. -/
def firstMirrorsLast : DaemonProfile ℚ where
  id := "mirroring"
  controls := ["a", "b", "c"].map fun id =>
    ⟨id, "", .curve, if id = "a" then "mirror" else "", 50, [], 100, 100, 0, 0, 0, 0⟩
  curves := [{ CurveConfig.blank "mirror" .sync with syncControlId := "c" }]

theorem topologicalControlOrder_firstMirrorsLast :
    (topologicalControlOrder firstMirrorsLast).Perm [0, 1, 2] ∧
      Before (topologicalControlOrder firstMirrorsLast) 2 0 := by
  obtain ⟨hperm, hafter, -, -⟩ := topologicalControlOrder_lawful (p := firstMirrorsLast) (by decide)
  have hdep : depIdx firstMirrorsLast 0 = some 2 := by decide
  have hlast : depIdx firstMirrorsLast 2 = none := by decide
  refine ⟨hperm, hafter 0 2 hdep ?_⟩
  intro hcycle
  obtain ⟨j, hj, hrest⟩ := Relation.TransGen.head'_iff.mp hcycle
  rw [hdep] at hj
  obtain rfl := Option.some.inj hj
  rcases Relation.ReflTransGen.cases_head hrest with h | ⟨k, hk, -⟩
  · cases h
  · rw [hlast] at hk
    cases hk

end ControlOfc.Engine
