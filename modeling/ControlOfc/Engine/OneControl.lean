import ControlOfc.Engine.Agree
import ControlOfc.Engine.AsWritten
/-! # The control loop, seen from one control

Where control ids are distinct, a control stands once in the order (`exists_around`). What the loop leaves
under its id is what its own step does (`loop_after`), on the entries it began the tick with (`loop_apart`).
-/
namespace ControlOfc.Engine
open Profile Override

/-! ## The order lists every control once, however many there are -/

/-- What a visit leaves of the list, depth backstop or not. -/
structure Listed (n : Nat) (t t' : Topo) : Prop where
  nodup : t'.ordered.Nodup
  lt : ∀ i ∈ t'.ordered, i < n
  grown : t.ordered <+: t'.ordered

theorem Listed.emit {n : Nat} {t t' : Topo} (h : Listed n t t') {idx : Nat} (hidx : idx < n) :
    Listed n t (if t'.ordered.contains idx then t' else { t' with ordered := t'.ordered ++ [idx] }) ∧
      idx ∈ (if t'.ordered.contains idx then t' else { t' with ordered := t'.ordered ++ [idx] }).ordered := by
  split
  · next hin => exact ⟨h, by simpa using hin⟩
  · next hin =>
    rw [List.contains_iff_mem] at hin
    refine ⟨⟨?_, ?_, h.grown.trans (List.prefix_append _ _)⟩, by simp⟩
    · exact h.nodup.append (List.nodup_singleton _) (by simpa using hin)
    · intro i hi
      rcases List.mem_append.mp hi with hi | hi
      · exact h.lt i hi
      · rw [List.mem_singleton.mp hi]
        exact hidx

theorem topoVisit_listed {dep : Nat → Option Nat} {n : Nat} (hdep : ∀ i j, dep i = some j → j < n) :
    ∀ (depthLeft : Nat) (onPath : List Nat) (t : Topo) (idx : Nat), idx < n → t.ordered.Nodup →
      (∀ i ∈ t.ordered, i < n) →
      Listed n t (topoVisit dep depthLeft onPath t idx) ∧
        (onPath = [] → 0 < depthLeft → idx ∈ (topoVisit dep depthLeft onPath t idx).ordered) := by
  intro depthLeft
  induction depthLeft with
  | zero =>
    intro onPath t idx _ hnd hlt
    refine ⟨?_, fun _ h => absurd h (Nat.lt_irrefl 0)⟩
    unfold topoVisit
    split <;> exact ⟨hnd, hlt, List.prefix_refl _⟩
  | succ depthLeft ih =>
    intro onPath t idx hidx hnd hlt
    unfold topoVisit
    split
    · next hmem =>
      refine ⟨⟨hnd, hlt, List.prefix_refl _⟩, ?_⟩
      rintro rfl -
      simpa using hmem
    · cases hd : dep idx with
      | none =>
        obtain ⟨hl, hin⟩ := Listed.emit ⟨hnd, hlt, List.prefix_refl _⟩ hidx
        exact ⟨hl, fun _ _ => hin⟩
      | some j =>
        obtain ⟨hl, hin⟩ := (ih (idx :: onPath) t j (hdep idx j hd) hnd hlt).1.emit hidx
        exact ⟨hl, fun _ _ => hin⟩

theorem foldl_topoVisit_listed {dep : Nat → Option Nat} {n cap : Nat} (hdep : ∀ i j, dep i = some j → j < n)
    (hcap : 0 < cap) (starts : List Nat) (hstarts : ∀ i ∈ starts, i < n) (t : Topo) (hnd : t.ordered.Nodup)
    (hlt : ∀ i ∈ t.ordered, i < n) :
    Listed n t (starts.foldl (topoVisit dep cap []) t) ∧
      ∀ i ∈ starts, i ∈ (starts.foldl (topoVisit dep cap []) t).ordered := by
  induction starts generalizing t with
  | nil => exact ⟨⟨hnd, hlt, List.prefix_refl _⟩, by simp⟩
  | cons i starts ih =>
    obtain ⟨hv, hin⟩ := topoVisit_listed hdep cap [] t i (hstarts i List.mem_cons_self) hnd hlt
    obtain ⟨hl, hall⟩ := ih (fun j hj => hstarts j (List.mem_cons_of_mem _ hj)) _ hv.nodup hv.lt
    refine ⟨⟨hl.nodup, hl.lt, hv.grown.trans hl.grown⟩, ?_⟩
    intro j hj
    rcases List.mem_cons.mp hj with rfl | hj
    · exact hl.grown.subset (hin rfl hcap)
    · exact hall j hj

theorem order_nodup (p : DaemonProfile ℚ) : (topologicalControlOrder p).Nodup :=
  (foldl_topoVisit_listed (fun _ _ => depIdx_lt) (by decide) (List.range p.controls.length)
    (fun _ hi => List.mem_range.mp hi) ⟨[], 0⟩ List.nodup_nil (by simp)).1.nodup

theorem mem_order {p : DaemonProfile ℚ} {i : Nat} (hi : i < p.controls.length) : i ∈ topologicalControlOrder p :=
  (foldl_topoVisit_listed (fun _ _ => depIdx_lt) (by decide) (List.range p.controls.length)
    (fun _ hi => List.mem_range.mp hi) ⟨[], 0⟩ List.nodup_nil (by simp)).2 i (List.mem_range.mpr hi)

/-- The order around one control: it stands once, and no other control has its id. -/
structure Around (p : DaemonProfile ℚ) (c : LogicalControl ℚ) (pre : List Nat) (i : Nat) (post : List Nat) : Prop where
  split : topologicalControlOrder p = pre ++ i :: post
  control : p.controls[i]? = some c
  others : ∀ j ∈ pre ++ post, ∀ d, p.controls[j]? = some d → d.id ≠ c.id

theorem exists_around {p : DaemonProfile ℚ} (hids : (p.controls.map (·.id)).Nodup) {c : LogicalControl ℚ}
    (hc : c ∈ p.controls) : ∃ pre i post, Around p c pre i post := by
  obtain ⟨i, hi⟩ := List.mem_iff_getElem?.mp hc
  obtain ⟨pre, post, hsplit⟩ := List.append_of_mem (mem_order (List.getElem?_eq_some_iff.mp hi).1)
  refine ⟨pre, i, post, hsplit, hi, ?_⟩
  intro j hj d hd heq
  have hnd := order_nodup p
  rw [hsplit, List.nodup_middle, List.nodup_cons] at hnd
  exact hnd.1 (eq_idx_of_id hids hd hi heq ▸ hj)

/-- The control with id `a` is evaluated before the one with id `b`. -/
def ComesFirst (p : DaemonProfile ℚ) (a b : String) : Prop :=
  ∃ i j c d, p.controls[j]? = some c ∧ c.id = a ∧ p.controls[i]? = some d ∧ d.id = b ∧
    Before (topologicalControlOrder p) j i

theorem Around.comesFirst_iff {p : DaemonProfile ℚ} {c : LogicalControl ℚ} {pre : List Nat} {i : Nat} {post : List Nat}
    (h : Around p c pre i post) (a : String) :
    ComesFirst p a c.id ↔ ∃ j ∈ pre, ∃ d, p.controls[j]? = some d ∧ d.id = a := by
  constructor
  · rintro ⟨k, j, d, d', hd, hda, hk, hkc, hbefore⟩
    have hki : k = i := by
      obtain ⟨l₁, l₂, hl, -⟩ := hbefore
      have hmem : k ∈ pre ++ i :: post := by
        rw [← h.split, hl]
        exact List.mem_append_right _ List.mem_cons_self
      rw [List.mem_append, List.mem_cons] at hmem
      rcases hmem with hmem | hmem | hmem
      · exact absurd hkc (h.others k (List.mem_append_left _ hmem) d' hk)
      · exact hmem
      · exact absurd hkc (h.others k (List.mem_append_right _ hmem) d' hk)
    subst hki
    exact ⟨j, hbefore.mem_of_split (order_nodup p) h.split, d, hd, hda⟩
  · rintro ⟨j, hj, d, hd, hda⟩
    exact ⟨i, j, d, c, hd, hda, h.control, rfl, pre, post, h.split, hj⟩

/-! ## The loop, seen from one control -/

section Loop

variable {p : DaemonProfile ℚ} {sensors : Sensors} {o : OverrideSnapshot}

/-- Controls with other keys leave this one's entries alone. -/
theorem loop_apart {c : LogicalControl ℚ} (sensors : Sensors) (o : OverrideSnapshot) (s : ProfileEngineState) (pre post : List Nat)
    (hpost : ∀ j ∈ post, ∀ d, p.controls[j]? = some d → List.Disjoint (ownKeys c) (ownKeys d)) :
    ControlAgree c (loop p sensors o s pre).state (loop p sensors o s (pre ++ post)).state := by
  induction post using List.reverseRecOn with
  | nil =>
    rw [List.append_nil]
    exact .refl _
  | append_singleton post idx ih =>
    have hold := ih fun j hj => hpost j (List.mem_append_left _ hj)
    rw [← List.append_assoc, loop_snoc]
    rcases visitControl_cases (loop p sensors o s (pre ++ post)) idx with ⟨-, h⟩ | ⟨v, hv, hfrom, -, h, -⟩
    · rw [h]
      exact hold
    · rw [h]
      have hdisj := hpost idx (by simp) v.control (hv ▸ hfrom.control)
      exact hold.trans (controlStep_apart hdisj p sensors o _ _)

/-- Controls with other ids leave this id's output and visits alone. -/
theorem loop_others (sensors : Sensors) (o : OverrideSnapshot) (s : ProfileEngineState) (id : String) (pre post : List Nat)
    (hpost : ∀ j ∈ post, ∀ d, p.controls[j]? = some d → d.id ≠ id) :
    (loop p sensors o s (pre ++ post)).tickOutputs.get? id = (loop p sensors o s pre).tickOutputs.get? id ∧
      (loop p sensors o s (pre ++ post)).visits.filter (·.control.id = id) =
        (loop p sensors o s pre).visits.filter (·.control.id = id) := by
  induction post using List.reverseRecOn with
  | nil =>
    rw [List.append_nil]
    exact ⟨rfl, rfl⟩
  | append_singleton post idx ih =>
    obtain ⟨htick, hvisits⟩ := ih fun j hj => hpost j (List.mem_append_left _ hj)
    rw [← List.append_assoc, loop_snoc]
    rcases visitControl_cases (loop p sensors o s (pre ++ post)) idx with ⟨-, h⟩ | ⟨v, hv, hfrom, hvs, -, ht⟩
    · rw [h]
      exact ⟨htick, hvisits⟩
    · have hne := hpost idx (by simp) v.control (hv ▸ hfrom.control)
      rw [hvs, ht, List.filter_append, hvisits]
      refine ⟨?_, by simp [hne]⟩
      cases hp : v.published with
      | none => exact htick
      | some kv =>
        have hkey : id ≠ kv.1 := by
          obtain ⟨x, -, rfl⟩ := Option.map_eq_some_iff.mp hp
          exact hne.symm
        exact (KMap.get?_insert_of_ne _ _ hkey).trans htick

/-- The step on the control that comes after `pre`. -/
def stepAfter (p : DaemonProfile ℚ) (sensors : Sensors) (o : OverrideSnapshot) (s : ProfileEngineState)
    (pre : List Nat) (c : LogicalControl ℚ) : ControlStep :=
  controlStep p sensors o c (loop p sensors o s pre).tickOutputs (loop p sensors o s pre).state

variable (sensors o) {c : LogicalControl ℚ} {pre : List Nat} {i : Nat} {post : List Nat} (s : ProfileEngineState)

theorem loop_visit (hc : p.controls[i]? = some c) :
    loop p sensors o s (pre ++ [i]) =
      { state := (stepAfter p sensors o s pre c).state
        tickOutputs := match (stepAfter p sensors o s pre c).outcome.output with
          | some output => (loop p sensors o s pre).tickOutputs.insert c.id output
          | none => (loop p sensors o s pre).tickOutputs
        visits := (loop p sensors o s pre).visits ++
          [⟨i, c, (stepAfter p sensors o s pre c).outcome, (stepAfter p sensors o s pre c).commands,
            (stepAfter p sensors o s pre c).cuts⟩] } := by
  rw [loop_snoc, visitControl, hc]
  rfl

/-- What the loop leaves under the control's id, at any point after its visit. -/
theorem loop_after (h : Around p c pre i post) {rest : List Nat} (hrest : rest <+: post) :
    (loop p sensors o s (pre ++ i :: rest)).tickOutputs.get? c.id = (stepAfter p sensors o s pre c).outcome.output ∧
      (loop p sensors o s (pre ++ i :: rest)).visits.filter (·.control.id = c.id) =
        [⟨i, c, (stepAfter p sensors o s pre c).outcome, (stepAfter p sensors o s pre c).commands,
          (stepAfter p sensors o s pre c).cuts⟩] := by
  have hpre : ∀ j ∈ pre, ∀ d, p.controls[j]? = some d → d.id ≠ c.id := fun j hj =>
    h.others j (List.mem_append_left _ hj)
  have hpost : ∀ j ∈ rest, ∀ d, p.controls[j]? = some d → d.id ≠ c.id := fun j hj =>
    h.others j (List.mem_append_right _ (hrest.subset hj))
  obtain ⟨ht, hv⟩ := loop_others sensors o s c.id [] pre hpre
  obtain ⟨ht', hv'⟩ := loop_others sensors o s c.id (pre ++ [i]) rest hpost
  rw [List.nil_append, loop_nil] at ht hv
  rw [List.append_cons, ht', hv', loop_visit sensors o s h.control]
  dsimp only
  refine ⟨?_, by rw [List.filter_append, hv]; simp⟩
  cases (stepAfter p sensors o s pre c).outcome.output with
  | none => exact ht
  | some output => exact KMap.get?_insert_self _ _ _

theorem loop_absent {id : String} (order : List Nat) (h : ∀ d ∈ p.controls, d.id ≠ id) :
    (loop p sensors o s order).tickOutputs.get? id = none ∧
      (loop p sensors o s order).visits.filter (·.control.id = id) = [] := by
  have hothers := loop_others sensors o s id [] order
    fun _ _ d hd => h d (List.mem_of_getElem? hd)
  rwa [List.nil_append] at hothers

end Loop

end ControlOfc.Engine
