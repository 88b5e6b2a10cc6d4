import Mathlib.Data.List.NodupEquivFin
import Mathlib.Data.List.Destutter
/-! # Thinning a list

`pick l m` takes `m` entries at even strides, the first and the last among them. Up to the length of the list the
strides are at least one, so what is picked is a sublist with both ends.
-/
namespace Thinning
open List

variable {α : Type*}

/-- The place of the `i`-th of `m` entries among `n`. -/
def stride (n m i : Nat) : Nat := i * (n - 1) / (m - 1)

section Stride

variable {n m : Nat}

theorem stride_zero : stride n m 0 = 0 := by
  simp [stride]

theorem stride_last (hm : 2 ≤ m) : stride n m (m - 1) = n - 1 :=
  Nat.mul_div_cancel_left _ (by omega)

theorem stride_succ (hm : 2 ≤ m) (hle : m ≤ n) (i : Nat) : stride n m i < stride n m (i + 1) := by
  have hstep : i * (n - 1) + (m - 1) ≤ (i + 1) * (n - 1) := by
    rw [Nat.succ_mul]
    omega
  calc stride n m i < (i * (n - 1) + (m - 1)) / (m - 1) := by
        rw [Nat.add_div_right _ (by omega)]
        exact Nat.lt_succ_self _
    _ ≤ stride n m (i + 1) := Nat.div_le_div_right hstep

theorem stride_strictMono (hm : 2 ≤ m) (hle : m ≤ n) : StrictMono (stride n m) :=
  strictMono_nat_of_lt_succ (stride_succ hm hle)

theorem stride_lt (hm : 2 ≤ m) (hle : m ≤ n) {i : Nat} : stride n m i < n ↔ i < m := by
  have hmono := stride_strictMono hm hle
  have hlast := stride_last (n := n) hm
  constructor
  · intro h
    have : stride n m i ≤ stride n m (m - 1) := by omega
    have := hmono.le_iff_le.mp this
    omega
  · intro h
    have : stride n m i ≤ stride n m (m - 1) := hmono.monotone (by omega)
    omega

end Stride

section Pick

variable [Inhabited α] {l : List α} {m : Nat}

def pick (l : List α) (m : Nat) : List α := (List.range m).map fun i => l[stride l.length m i]!

@[simp] theorem length_pick : (pick l m).length = m := by
  simp [pick]

theorem getElem?_pick (hm : 2 ≤ m) (hle : m ≤ l.length) (i : Nat) : (pick l m)[i]? = l[stride l.length m i]? := by
  by_cases hi : i < m
  · have hlt : stride l.length m i < l.length := (stride_lt hm hle).mpr hi
    rw [pick, List.getElem?_map, List.getElem?_range hi, Option.map_some, getElem!_pos l _ hlt, List.getElem?_eq_getElem hlt]
  · rw [List.getElem?_eq_none (by simpa using hi), List.getElem?_eq_none]
    rw [← not_lt, stride_lt hm hle]
    exact hi

theorem pick_sublist (hm : 2 ≤ m) (hle : m ≤ l.length) : pick l m <+ l :=
  List.sublist_of_orderEmbedding_getElem?_eq (OrderEmbedding.ofStrictMono _ (stride_strictMono hm hle)) fun i =>
    getElem?_pick hm hle i

theorem head?_pick (hm : 2 ≤ m) (hle : m ≤ l.length) : (pick l m).head? = l.head? := by
  rw [List.head?_eq_getElem?, getElem?_pick hm hle, stride_zero, ← List.head?_eq_getElem?]

theorem getLast?_pick (hm : 2 ≤ m) (hle : m ≤ l.length) : (pick l m).getLast? = l.getLast? := by
  rw [List.getLast?_eq_getElem?, length_pick, getElem?_pick hm hle, stride_last hm, ← List.getLast?_eq_getElem?]

end Pick

/-- A list that strictly ascends has no repeats to drop. -/
theorem destutter_of_pairwise [LinearOrder α] {l : List α} (h : l.Pairwise (· < ·)) : l.destutter (· ≠ ·) = l :=
  l.destutter_of_isChain _ (h.imp ne_of_lt).isChain

theorem pairwise_destutter [LinearOrder α] {l : List α} (h : l.Pairwise (· ≤ ·)) :
    (l.destutter (· ≠ ·)).Pairwise (· < ·) := by
  have hle := (h.sublist (l.destutter_sublist (· ≠ ·))).isChain
  have hne := l.isChain_destutter (· ≠ ·)
  rw [List.isChain_iff_getElem] at hle hne
  rw [← List.isChain_iff_pairwise, List.isChain_iff_getElem]
  exact fun i hi => lt_of_le_of_ne (hle i hi) (hne i hi)

theorem mem_destutter [DecidableEq α] {l : List α} {a : α} : a ∈ l.destutter (· ≠ ·) ↔ a ∈ l := by
  refine ⟨fun h => (l.destutter_sublist _).subset h, fun h => ?_⟩
  have hfrom (l : List α) (b : α) (ha : a ∈ b :: l) : a ∈ l.destutter' (· ≠ ·) b := by
    induction l generalizing b with
    | nil => simpa using ha
    | cons c l ih =>
      rw [List.destutter'_cons]
      split_ifs with hc
      · rcases List.mem_cons.mp ha with rfl | ha
        · exact List.mem_cons_self
        · exact List.mem_cons_of_mem _ (ih c ha)
      · obtain rfl := not_not.mp hc
        exact ih b (by simpa using ha)
  cases l with
  | nil => exact h
  | cons b l => exact hfrom l b h

end Thinning
