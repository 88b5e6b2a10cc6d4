import Mathlib.Tactic.Common
/-! # Greedy runs of a list

A run starts with an entry and goes on while `extend` takes the next one. `scan` finds runs of a least length: where
one begins it is taken as far as it goes and the scan goes on behind it, else one entry is left.
-/
namespace GreedyRuns

section Scan

variable {α σ : Type*} (init : α → σ) (extend : σ → α → Option σ) (minLen : Nat)

/-- How far a run goes on, and what it comes to. -/
def grow (s : σ) : List α → Nat × σ
  | [] => (0, s)
  | a :: rest =>
    match extend s a with
    | none => (0, s)
    | some s' => ((grow s' rest).1 + 1, (grow s' rest).2)

structure Run (σ : Type*) where
  start : Nat
  length : Nat
  state : σ

def scan (i : Nat) : List α → List (Run σ)
  | [] => []
  | a :: rest =>
    let (n, s) := grow extend (init a) rest
    if minLen ≤ n + 1 then ⟨i, n + 1, s⟩ :: scan (i + (n + 1)) (rest.drop n) else scan (i + 1) rest
  termination_by l => l.length
  decreasing_by
    all_goals simp only [List.length_drop, List.length_cons]
    all_goals omega

/-- From `j` on there is a run of that length. -/
def RunAt (l : List α) (j n : Nat) (s : σ) : Prop :=
  ∃ a rest, l.drop j = a :: rest ∧ n ≤ rest.length + 1 ∧ 1 ≤ n ∧ (rest.take (n - 1)).foldlM extend (init a) = some s

/-! ## One run -/

variable {init extend minLen}

attribute [local simp] grow

theorem grow_le (s : σ) (l : List α) : (grow extend s l).1 ≤ l.length := by
  induction l generalizing s with
  | nil => exact Nat.le_refl _
  | cons a rest ih =>
    unfold grow
    cases extend s a with
    | none => exact Nat.zero_le _
    | some s' => exact Nat.succ_le_succ (ih s')

theorem foldlM_take_grow (s : σ) (l : List α) :
    (l.take (grow extend s l).1).foldlM extend s = some (grow extend s l).2 := by
  induction l generalizing s with
  | nil => rfl
  | cons a rest ih =>
    unfold grow
    cases h : extend s a with
    | none => rfl
    | some s' =>
      rw [List.take_succ_cons, List.foldlM_cons, h]
      exact ih s'

/-- The next entry does not go on with it. -/
theorem grow_stops {s : σ} {l : List α} {b : α} (h : l[(grow extend s l).1]? = some b) :
    extend (grow extend s l).2 b = none := by
  induction l generalizing s with
  | nil => simp at h
  | cons a rest ih =>
    unfold grow at h ⊢
    cases hs : extend s a with
    | none =>
      rw [hs] at h
      obtain rfl : a = b := by simpa using h
      exact hs
    | some s' =>
      rw [hs, List.getElem?_cons_succ] at h
      exact ih h

/-- No run from there is longer. -/
theorem le_grow {s s' : σ} {l : List α} {m : Nat} (hm : m ≤ l.length) (h : (l.take m).foldlM extend s = some s') :
    m ≤ (grow extend s l).1 := by
  induction l generalizing s m with
  | nil => exact hm
  | cons a rest ih =>
    cases m with
    | zero => exact Nat.zero_le _
    | succ m =>
      rw [List.take_succ_cons, List.foldlM_cons] at h
      obtain ⟨t, ht, h⟩ := Option.bind_eq_some_iff.mp h
      unfold grow
      rw [ht]
      exact Nat.succ_le_succ (ih (Nat.le_of_succ_le_succ hm) h)

/-! ## The scan -/

attribute [elab_as_elim] scan.induct_unfolding

theorem RunAt.drop {l : List α} {i j n : Nat} {s : σ} : RunAt init extend (l.drop i) j n s ↔ RunAt init extend l (i + j) n s := by
  unfold RunAt
  rw [List.drop_drop]

/-- What is found is a run, as long as asked, that the next entry does not go on with. -/
theorem scan_mem (i : Nat) (l : List α) : ∀ r ∈ scan init extend minLen i l, i ≤ r.start ∧ minLen ≤ r.length ∧
    RunAt init extend l (r.start - i) r.length r.state ∧
    ∀ b, l[r.start - i + r.length]? = some b → extend r.state b = none := by
  fun_induction scan init extend minLen i l with
  | case1 i => nofun
  | case2 i a rest n s hgrow hlen ih =>
    have hn : n = (grow extend (init a) rest).1 := by rw [hgrow]
    have hs : s = (grow extend (init a) rest).2 := by rw [hgrow]
    intro r hr
    rcases List.mem_cons.mp hr with rfl | hr
    · rw [Nat.sub_self]
      refine ⟨Nat.le_refl i, hlen, ⟨a, rest, rfl, ?_, Nat.succ_pos n, ?_⟩, fun b hb => ?_⟩
      · exact Nat.succ_le_succ (hn ▸ grow_le (init a) rest)
      · rw [Nat.add_sub_cancel, hn, hs]
        exact foldlM_take_grow (init a) rest
      · dsimp only at hb ⊢
        rw [Nat.zero_add, List.getElem?_cons_succ, hn] at hb
        rw [hs]
        exact grow_stops hb
    · obtain ⟨hle, hmin, hrun, hstop⟩ := ih r hr
      have hpos : r.start - i = (n + 1) + (r.start - (i + (n + 1))) := by omega
      have hdrop : rest.drop n = (a :: rest).drop (n + 1) := rfl
      refine ⟨by omega, hmin, ?_, fun b hb => hstop b ?_⟩
      · rw [hpos, ← RunAt.drop]
        exact hrun
      · rw [hpos, Nat.add_assoc, ← List.getElem?_drop] at hb
        exact hb
  | case3 i a rest n s hgrow hlen ih =>
    intro r hr
    obtain ⟨hle, hmin, hrun, hstop⟩ := ih r hr
    have hpos : r.start - i = 1 + (r.start - (i + 1)) := by omega
    refine ⟨by omega, hmin, ?_, fun b hb => hstop b ?_⟩
    · rw [hpos, ← RunAt.drop]
      exact hrun
    · rw [hpos, Nat.add_assoc, ← List.getElem?_drop] at hb
      exact hb

theorem scan_pairwise (i : Nat) (l : List α) :
    (scan init extend minLen i l).Pairwise fun r r' => r.start + r.length ≤ r'.start := by
  fun_induction scan init extend minLen i l with
  | case1 i => exact .nil
  | case2 i a rest n s hgrow hlen ih => exact List.pairwise_cons.mpr ⟨fun r hr => (scan_mem _ _ r hr).1, ih⟩
  | case3 i a rest n s hgrow hlen ih => exact ih

/-- Any run that is long enough meets one that is found. -/
theorem scan_complete (i : Nat) (l : List α) {j n : Nat} {s : σ} (hn : minLen ≤ n) (hrun : RunAt init extend l j n s) :
    ∃ r ∈ scan init extend minLen i l, r.start < i + j + n ∧ i + j < r.start + r.length := by
  fun_induction scan init extend minLen i l generalizing j n with
  | case1 i =>
    obtain ⟨a, rest, h, -⟩ := hrun
    simp at h
  | case2 i a rest m t hgrow hlen ih =>
    have hpos : 1 ≤ n := by
      obtain ⟨_, _, -, -, h, -⟩ := hrun
      exact h
    by_cases hj : j < m + 1
    · refine ⟨_, List.mem_cons_self, ?_, ?_⟩
      · dsimp only
        omega
      · dsimp only
        omega
    · have hback : j = (m + 1) + (j - (m + 1)) := by omega
      rw [hback, ← RunAt.drop] at hrun
      obtain ⟨r, hr, h1, h2⟩ := ih hn hrun
      exact ⟨r, List.mem_cons_of_mem _ hr, by omega, by omega⟩
  | case3 i a rest m t hgrow hlen ih =>
    have hj : j ≠ 0 := by
      rintro rfl
      obtain ⟨b, rest', hcons, hle, hpos, hfold⟩ := hrun
      obtain ⟨rfl, rfl⟩ : a = b ∧ rest = rest' := by simpa using hcons
      have hm : n - 1 ≤ (grow extend (init a) rest).1 := le_grow (by omega) hfold
      rw [hgrow] at hm
      dsimp only at hm
      omega
    have hback : j = 1 + (j - 1) := by omega
    rw [hback, ← RunAt.drop] at hrun
    obtain ⟨r, hr, h1, h2⟩ := ih hn hrun
    exact ⟨r, hr, by omega, by omega⟩

end Scan

end GreedyRuns
