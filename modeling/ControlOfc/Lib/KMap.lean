import Mathlib.Logic.Basic
import Mathlib.Data.Option.Basic
import Mathlib.Data.List.Nodup
/-! # Keyed maps seen through their lookups

A hash map is used by lookup, insertion, removal and `retain`; its iteration order is unspecified,
so it is modelled by its lookup function. Two maps are equal when every lookup agrees (`KMap.ext`).
-/

/-- A map from keys to values, as its lookup function. -/
def KMap (κ α : Type*) := κ → Option α

namespace KMap

variable {κ α β : Type*}

def get? (m : KMap κ α) (k : κ) : Option α := m k

@[ext] theorem ext {m m' : KMap κ α} (h : ∀ k, m.get? k = m'.get? k) : m = m' := funext h

def empty : KMap κ α := fun _ => none

@[simp] theorem get?_empty (k : κ) : (empty : KMap κ α).get? k = none := rfl

def insert [DecidableEq κ] (m : KMap κ α) (k : κ) (v : α) : KMap κ α :=
  fun k' => if k' = k then some v else m k'

def remove [DecidableEq κ] (m : KMap κ α) (k : κ) : KMap κ α := fun k' => if k' = k then none else m k'

/-- `retain`: keep the entries `p` accepts. -/
def retain (m : KMap κ α) (p : κ → α → Bool) : KMap κ α := fun k => (m k).filter (p k)

/-- `iter().filter(..).map(..).collect()`: the entries `f` gives a value, under their keys. -/
def filterMap (m : KMap κ α) (f : κ → α → Option β) : KMap κ β := fun k => (m k).bind (f k)

variable [DecidableEq κ]

theorem get?_insert (m : KMap κ α) (k k' : κ) (v : α) :
    (m.insert k v).get? k' = if k' = k then some v else m.get? k' := rfl

@[simp] theorem get?_insert_self (m : KMap κ α) (k : κ) (v : α) : (m.insert k v).get? k = some v := by
  simp [get?_insert]

@[simp] theorem get?_insert_of_ne (m : KMap κ α) {k k' : κ} (v : α) (h : k' ≠ k) :
    (m.insert k v).get? k' = m.get? k' := by
  simp [get?_insert, h]

theorem get?_remove (m : KMap κ α) (k k' : κ) :
    (m.remove k).get? k' = if k' = k then none else m.get? k' := rfl

@[simp] theorem get?_remove_self (m : KMap κ α) (k : κ) : (m.remove k).get? k = none := by
  simp [get?_remove]

@[simp] theorem get?_remove_of_ne (m : KMap κ α) {k k' : κ} (h : k' ≠ k) :
    (m.remove k).get? k' = m.get? k' := by
  simp [get?_remove, h]

omit [DecidableEq κ] in
@[simp] theorem get?_retain (m : KMap κ α) (p : κ → α → Bool) (k : κ) :
    (m.retain p).get? k = (m.get? k).filter (p k) := rfl

omit [DecidableEq κ] in
@[simp] theorem get?_filterMap (m : KMap κ α) (f : κ → α → Option β) (k : κ) :
    (m.filterMap f).get? k = (m.get? k).bind (f k) := rfl

/-! ## Maps built from a list of pairs: `collect()`, or a loop of insertions -/

/-- The last pair of a key wins. -/
def ofList (l : List (κ × α)) : KMap κ α := l.foldl (fun m kv => m.insert kv.1 kv.2) empty

theorem get?_foldl_insert (l : List (κ × α)) (m : KMap κ α) (k : κ) :
    (l.foldl (fun m kv => m.insert kv.1 kv.2) m).get? k =
      ((l.reverse.find? fun kv => kv.1 = k).map Prod.snd).or (m.get? k) := by
  induction l generalizing m with
  | nil => simp
  | cons kv l ih =>
    rw [List.foldl_cons, ih, List.reverse_cons, List.find?_append, get?_insert]
    by_cases hk : kv.1 = k
    · cases l.reverse.find? (fun kv => kv.1 = k) <;> simp [hk]
    · cases l.reverse.find? (fun kv => kv.1 = k) <;> simp [hk, Ne.symm hk]

theorem get?_ofList (l : List (κ × α)) (k : κ) :
    (ofList l).get? k = (l.reverse.find? fun kv => kv.1 = k).map Prod.snd := by
  rw [ofList, get?_foldl_insert]
  simp

theorem mem_of_get?_ofList {l : List (κ × α)} {k : κ} {v : α} (h : (ofList l).get? k = some v) : (k, v) ∈ l := by
  rw [get?_ofList] at h
  obtain ⟨⟨k', v'⟩, hf, rfl⟩ := Option.map_eq_some_iff.mp h
  have hk : k' = k := by simpa using List.find?_some hf
  subst hk
  exact List.mem_reverse.mp (List.mem_of_find?_eq_some hf)

theorem isSome_get?_ofList {l : List (κ × α)} {k : κ} : ((ofList l).get? k).isSome ↔ k ∈ l.map Prod.fst := by
  rw [get?_ofList, Option.isSome_map, List.find?_isSome]
  simp

/-- A key all of whose pairs carry one value is looked up as that value. -/
theorem get?_ofList_of_forall {l : List (κ × α)} {k : κ} {v : α} (h : (k, v) ∈ l) (hall : ∀ v', (k, v') ∈ l → v' = v) :
    (ofList l).get? k = some v := by
  have hsome : ((ofList l).get? k).isSome := isSome_get?_ofList.mpr (List.mem_map.mpr ⟨(k, v), h, rfl⟩)
  obtain ⟨v', hv'⟩ := Option.isSome_iff_exists.mp hsome
  rw [hv', hall v' (mem_of_get?_ofList hv')]

/-- Where no key is repeated, a lookup finds exactly the listed pairs. -/
theorem get?_ofList_of_nodup {l : List (κ × α)} (hl : (l.map Prod.fst).Nodup) {k : κ} {v : α} :
    (ofList l).get? k = some v ↔ (k, v) ∈ l := by
  constructor
  · exact mem_of_get?_ofList
  · intro h
    refine get?_ofList_of_forall h fun v' h' => ?_
    exact (Prod.mk.inj (List.inj_on_of_nodup_map hl h' h rfl)).2

end KMap
