import Mathlib.Data.List.Basic
import Mathlib.Order.Bounds.Basic
import Mathlib.Tactic.Common
/-! # Runs of windows

A stream is cut into windows by a number of each entry. The walk judges a window when an entry of another one arrives,
and stops once `hold` windows in a row have qualified. Where the numbers never go down it finds the first such row.
-/
namespace WindowRuns

section Walk

variable {α β : Type*} (idx : α → Nat) (qualifies : List α → Bool) (mark : Nat → β) (hold : Nat)

/-- Windows in a row that qualified, and where the row starts. -/
structure Run (β : Type*) where
  length : Nat
  start : Option β

def Run.none : Run β := ⟨0, Option.none⟩

def Run.judge (r : Run β) (q : Bool) (here : β) : Run β :=
  if q then ⟨r.length + 1, if r.length = 0 then some here else r.start⟩ else Run.none

structure State (α β : Type*) where
  run : Run β
  window : List α
  index : Nat
  /-- Counts the windows judged; the walk does not read it. -/
  judged : Nat

def State.initial : State α β := ⟨Run.none, [], 0, 0⟩

/-- The window is left for that of `a`. Windows between the two hold no entry and end the run. -/
def State.leave (st : State α β) (run : Run β) (a : α) : State α β :=
  ⟨if st.index + 1 < idx a then Run.none else run, [a], idx a, st.judged + 1⟩

/-- What was found, and how many windows were judged for it. -/
def walk (st : State α β) : List α → Option β × Nat
  | [] => (none, st.judged)
  | a :: rest =>
    if idx a = st.index then walk { st with window := st.window ++ [a] } rest
    else
      let run := st.run.judge (qualifies st.window) (mark st.index)
      if qualifies st.window ∧ hold ≤ run.length then (run.start, st.judged + 1)
      else walk (st.leave idx run a) rest

/-- The entries of window `k`. -/
def windowAt (l : List α) (k : Nat) : List α := l.filter (idx · = k)

/-- From window `k` on, `hold` of them qualify, and an entry lies beyond the last. -/
def HoldAt (l : List α) (k : Nat) : Prop :=
  (∀ j, k ≤ j → j < k + hold → qualifies (windowAt idx l j)) ∧ ∃ a ∈ l, k + hold ≤ idx a

/-! ## What is judged -/

variable {idx qualifies mark hold} {st : State α β} {l : List α}

theorem walk_judged_le (st : State α β) (l : List α) : (walk idx qualifies mark hold st l).2 ≤ st.judged + l.length := by
  induction l generalizing st with
  | nil => exact Nat.le_refl _
  | cons a rest ih =>
    unfold walk
    rw [List.length_cons]
    dsimp only
    split_ifs with ha hq
    · exact Nat.le_succ_of_le (ih _)
    · exact Nat.add_le_add_left (Nat.succ_le_succ (Nat.zero_le _)) _
    · have h := ih (st.leave idx (st.run.judge (qualifies st.window) (mark st.index)) a)
      unfold State.leave at h ⊢
      dsimp only at h ⊢
      omega

/-- What was found stays found. -/
theorem walk_append {b : β} (h : (walk idx qualifies mark hold st l).1 = some b) (more : List α) :
    (walk idx qualifies mark hold st (l ++ more)).1 = some b := by
  induction l generalizing st with
  | nil => cases h
  | cons a rest ih =>
    unfold walk at h
    rw [List.cons_append]
    unfold walk
    dsimp only at h ⊢
    split_ifs at h ⊢ with ha hq
    · exact ih h
    · exact h
    · exact ih h

/-! ## Rows -/

/-- The longest row of qualifying windows that ends before `i`. -/
structure RowBefore (Q : Nat → Bool) (mark : Nat → β) (i : Nat) (r : Run β) : Prop where
  le : r.length ≤ i
  qualify : ∀ j, i - r.length ≤ j → j < i → Q j = true
  longest : r.length < i → Q (i - r.length - 1) = false
  start : r.length ≠ 0 → r.start = some (mark (i - r.length))

/-- No row of `hold` ends before `i`. -/
def NoneBefore (Q : Nat → Bool) (hold i : Nat) : Prop :=
  ∀ k, k + hold ≤ i → ∃ j, k ≤ j ∧ j < k + hold ∧ Q j = false

variable {Q : Nat → Bool} {r : Run β} {i n : Nat}

theorem RowBefore.zero : RowBefore Q mark 0 Run.none where
  le := Nat.le_refl _
  qualify := nofun
  longest := nofun
  start h := absurd rfl h

theorem RowBefore.judge (h : RowBefore Q mark i r) : RowBefore Q mark (i + 1) (r.judge (Q i) (mark i)) := by
  unfold Run.judge
  cases hq : Q i with
  | false =>
    exact ⟨Nat.zero_le _, fun j hj hj' => absurd hj' (Nat.not_lt.mpr hj), fun _ => hq, fun h0 => absurd rfl h0⟩
  | true =>
    have hsub : i + 1 - (r.length + 1) = i - r.length := Nat.add_sub_add_right i 1 r.length
    rw [if_pos rfl]
    refine ⟨Nat.succ_le_succ h.le, fun j hj hj' => ?_, fun hlt => ?_, fun _ => ?_⟩
    · dsimp only at hj
      rw [hsub] at hj
      rcases Nat.lt_succ_iff_lt_or_eq.mp hj' with hlt | rfl
      · exact h.qualify j hj hlt
      · exact hq
    · dsimp only
      rw [hsub]
      exact h.longest (Nat.lt_of_succ_lt_succ hlt)
    · dsimp only
      rw [hsub]
      split_ifs with h0
      · rw [h0, Nat.sub_zero]
      · exact h.start h0

/-- Windows that do not qualify end the row. -/
theorem RowBefore.skip (hlt : i < n) (hskip : ∀ j, i ≤ j → j < n → Q j = false) : RowBefore Q mark n Run.none where
  le := Nat.zero_le _
  qualify _ hj hj' := absurd hj' (Nat.not_lt.mpr hj)
  longest _ := hskip (n - 1) (Nat.le_sub_one_of_lt hlt) (Nat.sub_one_lt_of_lt hlt)
  start h0 := absurd rfl h0

theorem NoneBefore.next (hnone : NoneBefore Q hold i) (hrow : RowBefore Q mark (i + 1) r) (hr : r.length < hold) :
    NoneBefore Q hold (i + 1) := by
  intro k hk
  rcases Nat.lt_or_eq_of_le hk with hlt | heq
  · exact hnone k (Nat.le_of_lt_succ hlt)
  · -- a row that ends here would be longer than the longest
    exact ⟨i + 1 - r.length - 1, by omega, by omega, hrow.longest (by omega)⟩

theorem NoneBefore.skip (hnone : NoneBefore Q hold i) (hhold : 0 < hold) (hskip : ∀ j, i ≤ j → j < n → Q j = false) :
    NoneBefore Q hold n := by
  intro k hk
  rcases Nat.lt_or_ge i (k + hold) with hlt | hle
  · exact ⟨k + hold - 1, by omega, by omega, hskip _ (by omega) (by omega)⟩
  · exact hnone k hle

/-! ## What is found -/

/-- The first hold is found, if there is one. -/
def Finds (idx : α → Nat) (qualifies : List α → Bool) (mark : Nat → β) (hold : Nat) (l : List α) (found : Option β) : Prop :=
  (∃ k, found = some (mark k) ∧ IsLeast {k | HoldAt idx qualifies hold l k} k) ∨
    found = none ∧ ∀ k, ¬HoldAt idx qualifies hold l k

/-- The state once `p` of `l` is walked. -/
structure Walked (idx : α → Nat) (qualifies : List α → Bool) (mark : Nat → β) (hold : Nat) (l p : List α)
    (st : State α β) : Prop where
  window : st.window = windowAt idx p st.index
  le : ∀ a ∈ p, idx a ≤ st.index
  row : RowBefore (fun j => qualifies (windowAt idx l j)) mark st.index st.run
  short : st.run.length < hold
  noHold : NoneBefore (fun j => qualifies (windowAt idx l j)) hold st.index

theorem Walked.initial (hhold : 0 < hold) : Walked idx qualifies mark hold l [] State.initial where
  window := rfl
  le := nofun
  row := RowBefore.zero
  short := hhold
  noHold k hk := absurd hk (by unfold State.initial; dsimp only; omega)

variable {p rest : List α} {a : α}

theorem windowAt_append (p q : List α) (k : Nat) : windowAt idx (p ++ q) k = windowAt idx p k ++ windowAt idx q k :=
  List.filter_append ..

theorem windowAt_eq_nil {l : List α} {k : Nat} (h : ∀ a ∈ l, idx a ≠ k) : windowAt idx l k = [] :=
  List.filter_eq_nil_iff.mpr fun a ha => by simpa using h a ha

/-- An entry of the same window joins it. -/
theorem Walked.join (h : Walked idx qualifies mark hold l p st) (ha : idx a = st.index) :
    Walked idx qualifies mark hold l (p ++ [a]) { st with window := st.window ++ [a] } where
  window := by
    have hone : windowAt idx [a] st.index = [a] := List.filter_eq_self.mpr (by simpa using ha)
    dsimp only
    rw [windowAt_append, hone, h.window]
  le b hb := by
    rcases List.mem_append.mp hb with hb | hb
    · exact h.le b hb
    · rw [List.mem_singleton.mp hb]
      exact Nat.le_of_eq ha
  row := h.row
  short := h.short
  noHold := h.noHold

/-- A window that is left is complete. -/
theorem Walked.complete (h : Walked idx qualifies mark hold (p ++ a :: rest) p st)
    (hmono : (p ++ a :: rest).Pairwise (idx · ≤ idx ·)) (hlt : st.index < idx a) :
    windowAt idx (p ++ a :: rest) st.index = st.window := by
  have hrest : windowAt idx (a :: rest) st.index = [] := windowAt_eq_nil fun b hb => by
    have hab : idx a ≤ idx b := by
      rcases List.mem_cons.mp hb with rfl | hb
      · exact Nat.le_refl _
      · exact (List.pairwise_cons.mp (List.pairwise_append.mp hmono).2.1).1 b hb
    exact Nat.ne_of_gt (Nat.lt_of_lt_of_le hlt hab)
  rw [windowAt_append, hrest, List.append_nil, h.window]

/-- No window between is entered. -/
theorem Walked.between (h : Walked idx qualifies mark hold (p ++ a :: rest) p st) (hempty : qualifies [] = false)
    (hmono : (p ++ a :: rest).Pairwise (idx · ≤ idx ·)) {j : Nat} (hj : st.index + 1 ≤ j) (hj' : j < idx a) :
    qualifies (windowAt idx (p ++ a :: rest) j) = false := by
  have hnil : windowAt idx (p ++ a :: rest) j = [] := windowAt_eq_nil fun b hb => by
    rcases List.mem_append.mp hb with hb | hb
    · exact Nat.ne_of_lt (Nat.lt_of_le_of_lt (h.le b hb) hj)
    · rcases List.mem_cons.mp hb with rfl | hb
      · exact Nat.ne_of_gt hj'
      · have hab := (List.pairwise_cons.mp (List.pairwise_append.mp hmono).2.1).1 b hb
        exact Nat.ne_of_gt (Nat.lt_of_lt_of_le hj' hab)
  rw [hnil, hempty]

theorem Walked.leave (h : Walked idx qualifies mark hold (p ++ a :: rest) p st) (hempty : qualifies [] = false)
    (hmono : (p ++ a :: rest).Pairwise (idx · ≤ idx ·)) (hlt : st.index < idx a)
    (hshort : (st.run.judge (qualifies st.window) (mark st.index)).length < hold) :
    Walked idx qualifies mark hold (p ++ a :: rest) (p ++ [a])
      (st.leave idx (st.run.judge (qualifies st.window) (mark st.index)) a) := by
  have hrow := h.row.judge
  have hbetween : ∀ j, st.index + 1 ≤ j → j < idx a → qualifies (windowAt idx (p ++ a :: rest) j) = false :=
    fun j hj hj' => h.between hempty hmono hj hj'
  rw [h.complete hmono hlt] at hrow
  have hnext := h.noHold.next hrow hshort
  refine ⟨?_, fun b hb => ?_, ?_, ?_, ?_⟩
  · have hp : windowAt idx p (idx a) = [] :=
      windowAt_eq_nil fun b hb => Nat.ne_of_lt (Nat.lt_of_le_of_lt (h.le b hb) hlt)
    have ha : windowAt idx [a] (idx a) = [a] := List.filter_eq_self.mpr (by simp)
    exact (by rw [windowAt_append, hp, ha]; rfl : [a] = windowAt idx (p ++ [a]) (idx a))
  · rcases List.mem_append.mp hb with hb | hb
    · exact Nat.le_trans (h.le b hb) (Nat.le_of_lt hlt)
    · rw [List.mem_singleton.mp hb]
      exact Nat.le_refl _
  · unfold State.leave
    dsimp only
    split_ifs with hgap
    · exact RowBefore.skip hgap hbetween
    · rwa [Nat.le_antisymm (Nat.le_of_not_lt hgap) hlt]
  · unfold State.leave
    dsimp only
    split_ifs with hgap
    · exact Nat.lt_of_le_of_lt (Nat.zero_le _) hshort
    · exact hshort
  · exact hnext.skip (Nat.lt_of_le_of_lt (Nat.zero_le _) hshort) hbetween

/-- The row that stops the walk is the first hold. -/
theorem Walked.holds (h : Walked idx qualifies mark hold (p ++ a :: rest) p st)
    (hmono : (p ++ a :: rest).Pairwise (idx · ≤ idx ·)) (hlt : st.index < idx a)
    (hrun : hold ≤ (st.run.judge (qualifies st.window) (mark st.index)).length) :
    ∃ k, (st.run.judge (qualifies st.window) (mark st.index)).start = some (mark k) ∧
      IsLeast {k | HoldAt idx qualifies hold (p ++ a :: rest) k} k := by
  have hrow := h.row.judge
  rw [h.complete hmono hlt] at hrow
  have hpos : 0 < hold := Nat.lt_of_le_of_lt (Nat.zero_le _) h.short
  have hlen : (st.run.judge (qualifies st.window) (mark st.index)).length = hold := by
    have hle : (st.run.judge (qualifies st.window) (mark st.index)).length ≤ st.run.length + 1 := by
      unfold Run.judge
      split
      · exact Nat.le_refl _
      · exact Nat.zero_le _
    exact Nat.le_antisymm (Nat.le_trans hle h.short) hrun
  have hle := hrow.le
  have hqualify := hrow.qualify
  rw [hlen] at hle hqualify
  refine ⟨st.index + 1 - hold, ?_, ⟨fun j hj hj' => hqualify j hj (by omega), a, by simp, by omega⟩, ?_⟩
  · rw [← hlen]
    exact hrow.start (by omega)
  · rintro k ⟨hk, -⟩
    by_contra hlow
    obtain ⟨j, hj, hj', hq⟩ := h.noHold k (by omega)
    exact absurd (hk j hj hj') (Bool.eq_false_iff.mp hq)

theorem walk_finds_of_walked (hempty : qualifies [] = false) (hmono : (p ++ rest).Pairwise (idx · ≤ idx ·))
    (hrest : ∀ b ∈ rest, st.index ≤ idx b) (h : Walked idx qualifies mark hold (p ++ rest) p st) :
    Finds idx qualifies mark hold (p ++ rest) (walk idx qualifies mark hold st rest).1 := by
  induction rest generalizing p st with
  | nil =>
    refine Or.inr ⟨rfl, ?_⟩
    rintro k ⟨hk, b, hb, hkb⟩
    rw [List.append_nil] at hb
    obtain ⟨j, hj, hj', hq⟩ := h.noHold k (Nat.le_trans hkb (h.le b hb))
    exact absurd (hk j hj hj') (Bool.eq_false_iff.mp hq)
  | cons a rest ih =>
    have hassoc : p ++ a :: rest = (p ++ [a]) ++ rest := by simp
    have htail := (List.pairwise_cons.mp (List.pairwise_append.mp hmono).2.1).1
    unfold walk
    dsimp only
    split_ifs with ha hq
    · have hj := h.join ha
      rw [hassoc] at hmono hj ⊢
      exact ih hmono (fun b hb => hrest b (List.mem_cons_of_mem a hb)) hj
    all_goals have hlt : st.index < idx a := Nat.lt_of_le_of_ne (hrest a List.mem_cons_self) (Ne.symm ha)
    · exact Or.inl (h.holds hmono hlt hq.2)
    · have hshort : (st.run.judge (qualifies st.window) (mark st.index)).length < hold := by
        cases hqual : qualifies st.window with
        | true => exact Nat.lt_of_not_le fun hle => hq ⟨hqual, by rw [hqual]; exact hle⟩
        | false => exact Nat.lt_of_le_of_lt (Nat.zero_le _) h.short
      have hl := h.leave hempty hmono hlt hshort
      rw [hassoc] at hmono hl ⊢
      exact ih hmono htail hl

/-- Over numbers that never go down the walk finds the first hold. -/
theorem walk_finds (hempty : qualifies [] = false) (hhold : 0 < hold) (hmono : l.Pairwise (idx · ≤ idx ·)) :
    Finds idx qualifies mark hold l (walk idx qualifies mark hold State.initial l).1 :=
  walk_finds_of_walked (p := []) hempty hmono (fun _ _ => Nat.zero_le _) (Walked.initial hhold)

end Walk
end WindowRuns
