import Mathlib.Data.List.Sort
import Mathlib.Order.Basic
import Mathlib.Tactic.Common
/-! # Lists by key

A list whose entries are looked up by a key, strictly ascending: it is its lookups (`Ascending.ext`). Two are merged
with a join for the entries they share. Cutting a merge to its first `n` entries may cut what is merged first
(`take_merge`), so a store that keeps only `n` of what it merges keeps the first `n` of everything.
-/
namespace KeyedList

section Keyed

variable {α κ : Type*} [LinearOrder κ] (key : α → κ) (join : α → α → α)

def lookup (l : List α) (k : κ) : Option α := l.find? (key · = k)

def Ascending (l : List α) : Prop := l.Pairwise (key · < key ·)

def merge : List α → List α → List α
  | [], r => r
  | a :: l, [] => a :: l
  | a :: l, b :: r =>
    if key a < key b then a :: merge l (b :: r)
    else if key b < key a then b :: merge (a :: l) r
    else join a b :: merge l r
  termination_by l r => l.length + r.length

/-- `b` joins the entry of its key, or is a new one. -/
def upsert (l : List α) (b : α) : List α :=
  if l.any (key · = key b) then l.map fun a => if key a = key b then join a b else a else l ++ [b]

def sort (l : List α) : List α := l.insertionSort (key · ≤ key ·)

variable {key join} {l r : List α} {a b : α} {k : κ}

/-! ## Lookups -/

@[simp] theorem lookup_nil : lookup key ([] : List α) k = none := rfl

theorem lookup_cons : lookup key (a :: l) k = if key a = k then some a else lookup key l k := by
  unfold lookup
  rw [List.find?_cons]
  split_ifs with h
  · rw [decide_eq_true h]
  · rw [decide_eq_false h]

theorem lookup_eq_none_iff : lookup key l k = none ↔ ∀ a ∈ l, key a ≠ k := by
  unfold lookup
  rw [List.find?_eq_none]
  exact forall₂_congr fun a _ => by simp

theorem key_of_lookup (h : lookup key l k = some a) : key a = k := by simpa using List.find?_some h

theorem mem_of_lookup (h : lookup key l k = some a) : a ∈ l := List.mem_of_find?_eq_some h

theorem lookup_of_mem (hl : (l.map key).Nodup) (ha : a ∈ l) : lookup key l (key a) = some a := by
  induction l with
  | nil => cases ha
  | cons b l ih =>
    rw [List.map_cons, List.nodup_cons] at hl
    rw [lookup_cons]
    rcases List.mem_cons.mp ha with rfl | ha
    · rw [if_pos rfl]
    · have hne : key b ≠ key a := fun h => hl.1 (by rw [h]; exact List.mem_map_of_mem ha)
      rw [if_neg hne, ih hl.2 ha]

theorem Ascending.nodup (hl : Ascending key l) : (l.map key).Nodup :=
  List.pairwise_map.mpr (hl.imp fun h => h.ne)

theorem mem_iff_lookup (hl : (l.map key).Nodup) : a ∈ l ↔ lookup key l (key a) = some a :=
  ⟨lookup_of_mem hl, mem_of_lookup⟩

theorem Ascending.ext (hl : Ascending key l) (hr : Ascending key r) (h : ∀ k, lookup key l k = lookup key r k) : l = r := by
  have hirrefl : Std.Irrefl fun a b : α => key a < key b := ⟨fun a => lt_irrefl (key a)⟩
  have hasymm : Std.Asymm fun a b : α => key a < key b := ⟨fun _ _ => lt_asymm⟩
  exact hl.eq_of_mem_iff hr fun a => by rw [mem_iff_lookup hl.nodup, mem_iff_lookup hr.nodup, h]

theorem lookup_perm (hl : (l.map key).Nodup) (h : l.Perm r) (k : κ) : lookup key l k = lookup key r k := by
  have hr : (r.map key).Nodup := (h.map key).nodup_iff.mp hl
  refine Option.ext fun a => ⟨fun ha => ?_, fun ha => ?_⟩
  · obtain rfl := key_of_lookup ha
    exact lookup_of_mem hr (h.mem_iff.mp (mem_of_lookup ha))
  · obtain rfl := key_of_lookup ha
    exact lookup_of_mem hl (h.mem_iff.mpr (mem_of_lookup ha))

theorem lookup_sort (hl : (l.map key).Nodup) (k : κ) : lookup key (sort key l) k = lookup key l k :=
  (lookup_perm hl (List.perm_insertionSort _ l).symm k).symm

theorem ascending_sort (hl : (l.map key).Nodup) : Ascending key (sort key l) := by
  have htotal : Std.Total fun a b : α => key a ≤ key b := ⟨fun a b => le_total (key a) (key b)⟩
  have htrans : IsTrans α fun a b => key a ≤ key b := ⟨fun _ _ _ => le_trans⟩
  have hle := List.pairwise_insertionSort (fun a b : α => key a ≤ key b) l
  have hne := ((List.perm_insertionSort (fun a b : α => key a ≤ key b) l).map key).nodup_iff.mpr hl
  exact List.Pairwise.imp₂ (fun _ _ => lt_of_le_of_ne) hle (List.pairwise_map.mp hne)

/-- An entry with fewer than `n` below it is among the first `n`. -/
theorem Ascending.mem_take (hl : Ascending key l) (ha : a ∈ l) {n : Nat} (hn : (l.filter (key · < key a)).length < n) :
    a ∈ l.take n := by
  rw [← List.take_append_drop n l] at ha
  refine (List.mem_append.mp ha).resolve_right fun hdrop => ?_
  have hsplit : Ascending key (l.take n ++ l.drop n) := by rwa [List.take_append_drop]
  have hbelow := (List.pairwise_append.mp hsplit).2.2
  have hall : (l.take n).filter (key · < key a) = l.take n :=
    List.filter_eq_self.mpr fun b hb => decide_eq_true (hbelow b hb a hdrop)
  have hlong : n < l.length := Nat.lt_of_not_le fun h => by
    rw [List.drop_eq_nil_of_le h] at hdrop
    cases hdrop
  have hlen : (l.filter (key · < key a)).length = n + ((l.drop n).filter (key · < key a)).length := by
    rw [← List.take_append_drop n l, List.filter_append, List.length_append, List.take_append_drop, hall,
      List.length_take_of_le hlong.le]
  omega

/-! ## Joining one entry -/

variable (hkey : ∀ a b, key a = key b → key (join a b) = key b)
include hkey

theorem map_key_upsert_of_mem (h : l.any (key · = key b) = true) : (upsert key join l b).map key = l.map key := by
  unfold upsert
  rw [if_pos h, List.map_map]
  refine List.map_congr_left fun a _ => ?_
  dsimp only [Function.comp]
  split_ifs with ha
  · rw [hkey a b ha, ha]
  · rfl

theorem nodup_upsert (hl : (l.map key).Nodup) (b : α) : ((upsert key join l b).map key).Nodup := by
  by_cases h : l.any (key · = key b) = true
  · rwa [map_key_upsert_of_mem hkey h]
  · unfold upsert
    rw [if_neg h, List.map_append, List.map_singleton, ← List.concat_eq_append]
    refine List.Nodup.concat (fun hmem => h ?_) hl
    obtain ⟨a, ha, heq⟩ := List.mem_map.mp hmem
    exact List.any_eq_true.mpr ⟨a, ha, decide_eq_true heq⟩

theorem lookup_upsert (l : List α) (b : α) (k : κ) : lookup key (upsert key join l b) k =
    if key b = k then some ((lookup key l k).elim b (join · b)) else lookup key l k := by
  have hmap : ∀ l : List α, lookup key (l.map fun a => if key a = key b then join a b else a) k =
      (lookup key l k).map fun a => if key a = key b then join a b else a := by
    intro l
    induction l with
    | nil => rfl
    | cons a l ih =>
      have hsame : key (if key a = key b then join a b else a) = key a := by
        split_ifs with ha
        · rw [hkey a b ha, ha]
        · rfl
      rw [List.map_cons, lookup_cons, lookup_cons, ih, hsame, apply_ite (Option.map _), Option.map_some]
  unfold upsert
  by_cases h : l.any (key · = key b) = true
  · rw [if_pos h, hmap]
    obtain ⟨a, ha, heq⟩ := List.any_eq_true.mp h
    cases hk : lookup key l k with
    | none =>
      rw [if_neg fun hb => lookup_eq_none_iff.mp hk a ha ((of_decide_eq_true heq).trans hb)]
      rfl
    | some a' =>
      rw [Option.map_some, key_of_lookup hk]
      split_ifs with h₁ h₂ h₂
      · rfl
      · exact absurd h₁.symm h₂
      · exact absurd h₂.symm h₁
      · rfl
  · have hnone : lookup key l (key b) = none := lookup_eq_none_iff.mpr fun a ha heq =>
      h (List.any_eq_true.mpr ⟨a, ha, decide_eq_true heq⟩)
    have happend : lookup key (l ++ [b]) k = (lookup key l k).or (lookup key [b] k) := List.find?_append
    rw [if_neg h, happend, lookup_cons, lookup_nil]
    split_ifs with hb
    · subst hb
      rw [hnone]
      rfl
    · exact Option.or_none

theorem nodup_foldl_upsert (hl : (l.map key).Nodup) (r : List α) : ((r.foldl (upsert key join) l).map key).Nodup := by
  induction r generalizing l with
  | nil => exact hl
  | cons b r ih => exact ih (nodup_upsert hkey hl b)

theorem lookup_foldl_upsert (l : List α) (hr : (r.map key).Nodup) (k : κ) :
    lookup key (r.foldl (upsert key join) l) k = Option.merge join (lookup key l k) (lookup key r k) := by
  induction r generalizing l with
  | nil =>
    rw [lookup_nil]
    exact (Option.merge_none_right ..).symm
  | cons b r ih =>
    rw [List.map_cons, List.nodup_cons] at hr
    rw [List.foldl_cons, ih _ hr.2, lookup_upsert hkey, lookup_cons]
    split_ifs with hb
    · have hnone : lookup key r k = none := lookup_eq_none_iff.mpr fun a ha heq =>
        hr.1 (hb ▸ heq ▸ List.mem_map_of_mem ha)
      rw [hnone]
      cases lookup key l k <;> rfl
    · rfl

/-! ## Merging -/

attribute [elab_as_elim] merge.induct_unfolding

theorem lt_of_mem_merge {c : κ} (hl : ∀ a ∈ l, c < key a) (hr : ∀ a ∈ r, c < key a) : ∀ a ∈ merge key join l r, c < key a := by
  fun_induction merge key join l r with
  | case1 r => exact hr
  | case2 a l => exact hl
  | case3 a l b r hab ih =>
    obtain ⟨ha, hl⟩ := List.forall_mem_cons.mp hl
    exact List.forall_mem_cons.mpr ⟨ha, ih hl hr⟩
  | case4 a l b r hab hba ih =>
    obtain ⟨hb, hr⟩ := List.forall_mem_cons.mp hr
    exact List.forall_mem_cons.mpr ⟨hb, ih hl hr⟩
  | case5 a l b r hab hba ih =>
    obtain ⟨ha, hl⟩ := List.forall_mem_cons.mp hl
    obtain ⟨hb, hr⟩ := List.forall_mem_cons.mp hr
    refine List.forall_mem_cons.mpr ⟨?_, ih hl hr⟩
    rwa [hkey a b (le_antisymm (not_lt.mp hba) (not_lt.mp hab))]

theorem ascending_merge (hl : Ascending key l) (hr : Ascending key r) : Ascending key (merge key join l r) := by
  fun_induction merge key join l r with
  | case1 r => exact hr
  | case2 a l => exact hl
  | case3 a l b r hab ih =>
    obtain ⟨ha, hl⟩ := List.pairwise_cons.mp hl
    have hb := (List.pairwise_cons.mp hr).1
    exact List.pairwise_cons.mpr ⟨lt_of_mem_merge hkey ha (List.forall_mem_cons.mpr ⟨hab, fun x hx => hab.trans (hb x hx)⟩),
      ih hl hr⟩
  | case4 a l b r hab hba ih =>
    obtain ⟨hb, hr⟩ := List.pairwise_cons.mp hr
    have ha := (List.pairwise_cons.mp hl).1
    exact List.pairwise_cons.mpr ⟨lt_of_mem_merge hkey (List.forall_mem_cons.mpr ⟨hba, fun x hx => hba.trans (ha x hx)⟩) hb,
      ih hl hr⟩
  | case5 a l b r hab hba ih =>
    obtain ⟨ha, hl⟩ := List.pairwise_cons.mp hl
    obtain ⟨hb, hr⟩ := List.pairwise_cons.mp hr
    have heq : key a = key b := le_antisymm (not_lt.mp hba) (not_lt.mp hab)
    refine List.pairwise_cons.mpr ⟨?_, ih hl hr⟩
    rw [hkey a b heq]
    exact lt_of_mem_merge hkey (fun x hx => heq ▸ ha x hx) hb

theorem lookup_merge (hl : Ascending key l) (hr : Ascending key r) (k : κ) :
    lookup key (merge key join l r) k = Option.merge join (lookup key l k) (lookup key r k) := by
  fun_induction merge key join l r with
  | case1 r => rw [lookup_nil, Option.merge_none_left]
  | case2 a l => rw [lookup_nil, Option.merge_none_right]
  | case3 a l b r hab ih =>
    rw [lookup_cons, ih (List.pairwise_cons.mp hl).2 hr, lookup_cons (l := l)]
    split_ifs with hak
    · have hnone : lookup key (b :: r) k = none := lookup_eq_none_iff.mpr (List.forall_mem_cons.mpr
        ⟨(hak ▸ hab).ne', fun x hx => (hak ▸ hab.trans ((List.pairwise_cons.mp hr).1 x hx)).ne'⟩)
      rw [hnone, Option.merge_none_right]
    · rfl
  | case4 a l b r hab hba ih =>
    rw [lookup_cons, ih hl (List.pairwise_cons.mp hr).2, lookup_cons (l := r)]
    split_ifs with hbk
    · have hnone : lookup key (a :: l) k = none := lookup_eq_none_iff.mpr (List.forall_mem_cons.mpr
        ⟨(hbk ▸ hba).ne', fun x hx => (hbk ▸ hba.trans ((List.pairwise_cons.mp hl).1 x hx)).ne'⟩)
      rw [hnone, Option.merge_none_left]
    · rfl
  | case5 a l b r hab hba ih =>
    have heq : key a = key b := le_antisymm (not_lt.mp hba) (not_lt.mp hab)
    rw [lookup_cons, ih (List.pairwise_cons.mp hl).2 (List.pairwise_cons.mp hr).2, lookup_cons (l := l),
      lookup_cons (l := r), hkey a b heq, heq]
    split_ifs <;> rfl

/-- Joining entry by entry and sorting is merging. -/
theorem sort_foldl_upsert (hl : Ascending key l) (hr : Ascending key r) :
    sort key (r.foldl (upsert key join) l) = merge key join l r := by
  have hnodup := nodup_foldl_upsert hkey hl.nodup r
  refine (ascending_sort hnodup).ext (ascending_merge hkey hl hr) fun k => ?_
  rw [lookup_sort hnodup, lookup_foldl_upsert hkey l hr.nodup, lookup_merge hkey hl hr]

omit hkey in
theorem take_merge {n i j : Nat} (hi : n ≤ i) (hj : n ≤ j) :
    (merge key join (l.take i) (r.take j)).take n = (merge key join l r).take n := by
  fun_induction merge key join l r generalizing n i j with
  | case1 r =>
    rw [List.take_nil]
    unfold merge
    rw [List.take_take, Nat.min_eq_left hj]
  | case2 a l =>
    rw [List.take_nil]
    cases i with
    | zero => rw [Nat.le_zero.mp hi, List.take_zero, List.take_zero]
    | succ i =>
      rw [List.take_succ_cons]
      unfold merge
      rw [← List.take_succ_cons, List.take_take, Nat.min_eq_left hi]
  | case3 a l b r hab ih =>
    cases n with
    | zero => rw [List.take_zero, List.take_zero]
    | succ n =>
      obtain ⟨i, rfl⟩ := Nat.exists_eq_add_one.mpr (Nat.lt_of_lt_of_le n.succ_pos hi)
      obtain ⟨j, rfl⟩ := Nat.exists_eq_add_one.mpr (Nat.lt_of_lt_of_le n.succ_pos hj)
      have h := ih (Nat.le_of_succ_le_succ hi) (Nat.le_of_succ_le hj)
      rw [List.take_succ_cons] at h ⊢
      rw [List.take_succ_cons, merge, if_pos hab, List.take_succ_cons, List.take_succ_cons, h]
  | case4 a l b r hab hba ih =>
    cases n with
    | zero => rw [List.take_zero, List.take_zero]
    | succ n =>
      obtain ⟨i, rfl⟩ := Nat.exists_eq_add_one.mpr (Nat.lt_of_lt_of_le n.succ_pos hi)
      obtain ⟨j, rfl⟩ := Nat.exists_eq_add_one.mpr (Nat.lt_of_lt_of_le n.succ_pos hj)
      have h := ih (Nat.le_of_succ_le hi) (Nat.le_of_succ_le_succ hj)
      rw [List.take_succ_cons] at h ⊢
      rw [List.take_succ_cons, merge, if_neg hab, if_pos hba, List.take_succ_cons, List.take_succ_cons, h]
  | case5 a l b r hab hba ih =>
    cases n with
    | zero => rw [List.take_zero, List.take_zero]
    | succ n =>
      obtain ⟨i, rfl⟩ := Nat.exists_eq_add_one.mpr (Nat.lt_of_lt_of_le n.succ_pos hi)
      obtain ⟨j, rfl⟩ := Nat.exists_eq_add_one.mpr (Nat.lt_of_lt_of_le n.succ_pos hj)
      have h := ih (Nat.le_of_succ_le_succ hi) (Nat.le_of_succ_le_succ hj)
      rw [List.take_succ_cons, List.take_succ_cons, merge, if_neg hab, if_neg hba, List.take_succ_cons, List.take_succ_cons, h]

end Keyed
end KeyedList
