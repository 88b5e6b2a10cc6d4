import Mathlib.Data.List.Sort
import Mathlib.Order.Basic
/-! # Ordered maps

A map whose iteration is in key order: its entries, with the proof that their keys ascend. Two of them are equal when
every lookup agrees (`SortedMap.ext`), so a loop over the entries may be specified by what it leaves at each key.
-/

/-- A map as its entries, in key order. -/
structure SortedMap (κ α : Type*) [LinearOrder κ] where
  entries : List (κ × α)
  sorted : entries.Pairwise fun a b => a.1 < b.1

namespace SortedMap

variable {κ α β : Type*} [LinearOrder κ]

def get? (m : SortedMap κ α) (k : κ) : Option α := (m.entries.find? fun e => e.1 = k).map Prod.snd

/-! ## Entries and lookups -/

theorem eq_of_key {l : List (κ × α)} (hl : l.Pairwise fun a b => a.1 < b.1) {e e' : κ × α} (he : e ∈ l) (he' : e' ∈ l)
    (hk : e.1 = e'.1) : e = e' := by
  induction l with
  | nil => cases he
  | cons x l ih =>
    obtain ⟨hx, hl⟩ := List.pairwise_cons.mp hl
    rcases List.mem_cons.mp he with hex | he
    · rcases List.mem_cons.mp he' with hex' | he'
      · rw [hex, hex']
      · exact absurd hk (hex ▸ hx e' he').ne
    · rcases List.mem_cons.mp he' with hex' | he'
      · exact absurd hk (hex' ▸ hx e he).ne'
      · exact ih hl he he'

theorem mem_entries {m : SortedMap κ α} {k : κ} {v : α} : (k, v) ∈ m.entries ↔ m.get? k = some v := by
  unfold get?
  rw [Option.map_eq_some_iff]
  constructor
  · intro h
    cases hfind : m.entries.find? fun e => e.1 = k with
    | none => exact absurd rfl (of_decide_eq_false (Bool.eq_false_iff.mpr (List.find?_eq_none.mp hfind _ h)))
    | some e =>
      have hkey : e.1 = k := by simpa using List.find?_some hfind
      exact ⟨e, rfl, congrArg Prod.snd (eq_of_key m.sorted (List.mem_of_find?_eq_some hfind) h hkey)⟩
  · rintro ⟨e, he, rfl⟩
    have hkey : e.1 = k := by simpa using List.find?_some he
    exact hkey ▸ List.mem_of_find?_eq_some he

@[ext] theorem ext {m m' : SortedMap κ α} (h : ∀ k, m.get? k = m'.get? k) : m = m' := by
  have hmem : ∀ e, e ∈ m.entries ↔ e ∈ m'.entries := fun ⟨k, v⟩ => by rw [mem_entries, mem_entries, h]
  have hirrefl : Std.Irrefl fun a b : κ × α => a.1 < b.1 := ⟨fun a => lt_irrefl a.1⟩
  have hasymm : Std.Asymm fun a b : κ × α => a.1 < b.1 := ⟨fun _ _ => lt_asymm⟩
  obtain ⟨l, hl⟩ := m
  obtain ⟨l', hl'⟩ := m'
  obtain rfl : l = l' := hl.eq_of_mem_iff hl' hmem
  rfl

/-- The keys, in their order. -/
def keys (m : SortedMap κ α) : List κ := m.entries.map Prod.fst

theorem mem_keys {m : SortedMap κ α} {k : κ} : k ∈ m.keys ↔ (m.get? k).isSome := by
  unfold keys
  rw [List.mem_map, Option.isSome_iff_exists]
  constructor
  · rintro ⟨⟨k', v⟩, he, rfl⟩
    exact ⟨v, mem_entries.mp he⟩
  · rintro ⟨v, hv⟩
    exact ⟨(k, v), mem_entries.mpr hv, rfl⟩

/-! ## Building maps -/

def empty : SortedMap κ α := ⟨[], .nil⟩

@[simp] theorem get?_empty (k : κ) : (empty : SortedMap κ α).get? k = none := rfl

def insertEntry (k : κ) (v : α) : List (κ × α) → List (κ × α)
  | [] => [(k, v)]
  | e :: rest =>
    if k < e.1 then (k, v) :: e :: rest
    else if k = e.1 then (k, v) :: rest
    else e :: insertEntry k v rest

theorem mem_insertEntry {k : κ} {v : α} {l : List (κ × α)} (hl : l.Pairwise fun a b => a.1 < b.1) {e : κ × α} :
    e ∈ insertEntry k v l ↔ e = (k, v) ∨ e ∈ l ∧ e.1 ≠ k := by
  induction l with
  | nil => simp [insertEntry]
  | cons x l ih =>
    obtain ⟨hx, hl⟩ := List.pairwise_cons.mp hl
    unfold insertEntry
    split_ifs with hlt heq
    · have hne : ∀ y ∈ x :: l, y.1 ≠ k := by
        intro y hy
        rcases List.mem_cons.mp hy with rfl | hy
        · exact hlt.ne'
        · exact (hlt.trans (hx y hy)).ne'
      rw [List.mem_cons]
      exact or_congr_right ⟨fun h => ⟨h, hne e h⟩, And.left⟩
    · have hne : ∀ y ∈ l, y.1 ≠ k := fun y hy => heq ▸ (hx y hy).ne'
      rw [List.mem_cons, List.mem_cons]
      refine or_congr_right ⟨fun h => ⟨.inr h, hne e h⟩, ?_⟩
      rintro ⟨rfl | h, hk⟩
      · exact absurd heq.symm hk
      · exact h
    · rw [List.mem_cons, List.mem_cons, ih hl]
      constructor
      · rintro (rfl | rfl | h)
        · exact .inr ⟨.inl rfl, Ne.symm heq⟩
        · exact .inl rfl
        · exact .inr ⟨.inr h.1, h.2⟩
      · rintro (rfl | ⟨rfl | h, hk⟩)
        · exact .inr (.inl rfl)
        · exact .inl rfl
        · exact .inr (.inr ⟨h, hk⟩)

theorem sorted_insertEntry (k : κ) (v : α) {l : List (κ × α)} (hl : l.Pairwise fun a b => a.1 < b.1) :
    (insertEntry k v l).Pairwise fun a b => a.1 < b.1 := by
  induction l with
  | nil => exact List.pairwise_singleton ..
  | cons x l ih =>
    obtain ⟨hx, htail⟩ := List.pairwise_cons.mp hl
    unfold insertEntry
    split_ifs with hlt heq
    · refine List.pairwise_cons.mpr ⟨fun y hy => ?_, hl⟩
      rcases List.mem_cons.mp hy with rfl | hy
      · exact hlt
      · exact hlt.trans (hx y hy)
    · exact List.pairwise_cons.mpr ⟨fun y hy => heq ▸ hx y hy, htail⟩
    · refine List.pairwise_cons.mpr ⟨fun y hy => ?_, ih htail⟩
      rcases (mem_insertEntry htail).mp hy with rfl | hy
      · exact lt_of_le_of_ne (not_lt.mp hlt) (Ne.symm heq)
      · exact hx y hy.1

def insert (m : SortedMap κ α) (k : κ) (v : α) : SortedMap κ α := ⟨insertEntry k v m.entries, sorted_insertEntry k v m.sorted⟩

theorem get?_insert (m : SortedMap κ α) (k k' : κ) (v : α) :
    (m.insert k v).get? k' = if k' = k then some v else m.get? k' := by
  refine Option.ext fun w => ?_
  have hw : (k', w) ∈ (m.insert k v).entries ↔ (k', w) = (k, v) ∨ (k', w) ∈ m.entries ∧ k' ≠ k := mem_insertEntry m.sorted
  rw [← mem_entries, hw, mem_entries]
  by_cases hk : k' = k
  · simp [hk, eq_comm]
  · simp [hk]

@[simp] theorem get?_insert_self (m : SortedMap κ α) (k : κ) (v : α) : (m.insert k v).get? k = some v := by
  rw [get?_insert, if_pos rfl]

@[simp] theorem get?_insert_of_ne (m : SortedMap κ α) {k k' : κ} (v : α) (h : k' ≠ k) :
    (m.insert k v).get? k' = m.get? k' := by
  rw [get?_insert, if_neg h]

/-- `retain`: keep the entries `p` accepts. -/
def retain (m : SortedMap κ α) (p : κ → α → Bool) : SortedMap κ α :=
  ⟨m.entries.filter fun e => p e.1 e.2, m.sorted.filter _⟩

@[simp] theorem get?_retain (m : SortedMap κ α) (p : κ → α → Bool) (k : κ) :
    (m.retain p).get? k = (m.get? k).filter (p k) := by
  refine Option.ext fun v => ?_
  have hv : (k, v) ∈ (m.retain p).entries ↔ (k, v) ∈ m.entries ∧ p k v = true := List.mem_filter
  rw [← mem_entries, hv, mem_entries, Option.filter_eq_some_iff]

/-- The values changed, under their keys. -/
def mapVal (m : SortedMap κ α) (f : α → β) : SortedMap κ β :=
  ⟨m.entries.map fun e => (e.1, f e.2), List.pairwise_map.mpr m.sorted⟩

@[simp] theorem get?_mapVal (m : SortedMap κ α) (f : α → β) (k : κ) : (m.mapVal f).get? k = (m.get? k).map f := by
  unfold get? mapVal
  dsimp only
  rw [List.find?_map, Option.map_map, Option.map_map]
  rfl

end SortedMap
