import Mathlib.Data.List.Basic
import Mathlib.Logic.Relation
import Mathlib.Tactic.Cases
/-! # Finishing orders of a directed graph

A graph is a successor function `adj : α → List α`. `Finished adj l`: the list `l`, newest first, is
the order in which a depth-first search may have finished its nodes; every successor of a node
finished before it. Such a list is closed under successors and free of cycles, and a node's position
from the end of it is a rank that every edge lowers.
-/
namespace Digraph

variable {α : Type*} {adj : α → List α}

/-- Every node of the list stands before all of its successors, once. -/
def Finished (adj : α → List α) : List α → Prop
  | [] => True
  | a :: l => (∀ b ∈ adj a, b ∈ l) ∧ a ∉ l ∧ Finished adj l

@[simp] theorem finished_nil : Finished adj [] := trivial

@[simp] theorem finished_cons {a : α} {l : List α} :
    Finished adj (a :: l) ↔ (∀ b ∈ adj a, b ∈ l) ∧ a ∉ l ∧ Finished adj l := Iff.rfl

theorem Finished.closed {l : List α} (h : Finished adj l) {a b : α} (ha : a ∈ l) (hb : b ∈ adj a) : b ∈ l := by
  induction l with
  | nil => cases ha
  | cons x l ih =>
    obtain ⟨hx, -, hl⟩ := h
    rcases List.mem_cons.mp ha with rfl | ha
    · exact List.mem_cons_of_mem _ (hx b hb)
    · exact List.mem_cons_of_mem _ (ih hl ha)

theorem Finished.nodup {l : List α} (h : Finished adj l) : l.Nodup := by
  induction l with
  | nil => exact List.nodup_nil
  | cons x l ih => exact List.nodup_cons.mpr ⟨h.2.1, ih h.2.2⟩

/-- On a path listed from its far end, every node reaches the first one listed. -/
theorem reaches_head {a : α} {l : List α} (h : List.IsChain (fun x y => x ∈ adj y) (a :: l)) {x : α} (hx : x ∈ a :: l) :
    Relation.ReflTransGen (fun x y => y ∈ adj x) x a := by
  induction l generalizing a with
  | nil =>
    rw [List.mem_singleton.mp hx]
  | cons b l ih =>
    obtain ⟨hab, hrest⟩ := List.isChain_cons_cons.mp h
    rcases List.mem_cons.mp hx with rfl | hx
    · exact .refl
    · exact (ih hrest hx).tail hab

variable [DecidableEq α]

/-- How many nodes of the list finished no later than `a`. -/
def rank (l : List α) (a : α) : Nat := l.length - l.idxOf a

theorem rank_cons_self (a : α) (l : List α) : rank (a :: l) a = l.length + 1 := by
  simp [rank]

theorem rank_cons_of_mem {a x : α} {l : List α} (hx : x ∉ l) (ha : a ∈ l) : rank (x :: l) a = rank l a := by
  have hne : x ≠ a := by
    rintro rfl
    exact hx ha
  unfold rank
  rw [List.idxOf_cons_ne l hne, List.length_cons]
  omega

theorem rank_le_length (l : List α) (a : α) : rank l a ≤ l.length := Nat.sub_le _ _

/-- Every edge out of a finished node lowers the rank. -/
theorem Finished.rank_lt {l : List α} (h : Finished adj l) {a b : α} (ha : a ∈ l) (hb : b ∈ adj a) :
    rank l b < rank l a := by
  induction l with
  | nil => cases ha
  | cons x l ih =>
    obtain ⟨hx, hxl, hl⟩ := h
    rcases List.mem_cons.mp ha with rfl | ha
    · rw [rank_cons_self, rank_cons_of_mem hxl (hx b hb)]
      exact Nat.lt_succ_of_le (rank_le_length l b)
    · rw [rank_cons_of_mem hxl ha, rank_cons_of_mem hxl (hl.closed ha hb)]
      exact ih hl ha

/-- A finished node reaches only nodes of lower rank. -/
theorem Finished.rank_lt_of_transGen {l : List α} (h : Finished adj l) {a b : α} (ha : a ∈ l)
    (hab : Relation.TransGen (fun x y => y ∈ adj x) a b) : b ∈ l ∧ rank l b < rank l a := by
  induction hab with
  | single hb => exact ⟨h.closed ha hb, h.rank_lt ha hb⟩
  | tail _ hcd ih => exact ⟨h.closed ih.1 hcd, Nat.lt_trans (h.rank_lt ih.1 hcd) ih.2⟩

/-- No cycle passes through a finished node. -/
theorem Finished.acyclic {l : List α} (h : Finished adj l) {a : α} (ha : a ∈ l) :
    ¬ Relation.TransGen (fun x y => y ∈ adj x) a a :=
  fun hc => Nat.lt_irrefl _ (h.rank_lt_of_transGen ha hc).2

end Digraph
