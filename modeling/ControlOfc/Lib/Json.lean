import ControlOfc.Lib.KMap
import Mathlib.Data.List.Forall2
/-! # JSON documents edited in place

`Json N` is a JSON value over the numbers `N`. An object is a map, seen through its lookups as a `KMap` is, and
the operations are those of a document that is edited through references into it: a field read, a field
assigned, and an update of what a field or the elements of an array hold.

* `Fields R` and `Elements R` say how far two documents differ: field by field, or as two arrays. An update
  of one field leaves the other fields (`modifyField_fields`).
* Updates of different fields commute, and an update that is idempotent on the value is on the document.
-/

/-- A JSON value. -/
inductive Json (N : Type) where
  | null
  | bool (b : Bool)
  | num (n : N)
  | str (s : String)
  | arr (elements : List (Json N))
  | obj (fields : String → Option (Json N))

namespace Json

variable {N : Type}

/-- `Value::get` with a key. -/
def get : Json N → String → Option (Json N)
  | .obj fields, key => fields key
  | _, _ => none

/-- `Value::as_str`. -/
def asStr : Json N → Option String
  | .str s => some s
  | _ => none

/-- `Value::as_bool`. -/
def asBool : Json N → Option Bool
  | .bool b => some b
  | _ => none

/-- An object of a list of fields. -/
def ofFields (fields : List (String × Json N)) : Json N := .obj (KMap.ofList fields).get?

/-- An update through `get_mut` with a key. -/
def modifyField (key : String) (f : Json N → Json N) : Json N → Json N
  | .obj fields => .obj fun k => if k = key then (fields k).map f else fields k
  | j => j

/-- An update through `as_array_mut`. -/
def modifyArray (f : List (Json N) → List (Json N)) : Json N → Json N
  | .arr elements => .arr (f elements)
  | j => j

/-- An assignment to a field that is there. -/
def setField (j : Json N) (key : String) (v : Json N) : Json N := j.modifyField key fun _ => v

/-! ## Reading what was written -/

theorem get_modifyField (key : String) (f : Json N → Json N) (j : Json N) (key' : String) :
    (j.modifyField key f).get key' = if key' = key then (j.get key').map f else j.get key' := by
  cases j with
  | obj fields => rfl
  | _ => simp [modifyField, get]

theorem get_setField_self {key : String} {v : Json N} {j : Json N} (h : (j.get key).isSome) :
    (j.setField key v).get key = some v := by
  obtain ⟨v', hv'⟩ := Option.isSome_iff_exists.mp h
  rw [setField, get_modifyField, if_pos rfl, hv']
  rfl

theorem get_setField_of_ne {key key' : String} (v : Json N) (j : Json N) (h : key' ≠ key) :
    (j.setField key v).get key' = j.get key' := by
  rw [setField, get_modifyField, if_neg h]

/-! ## Updates together -/

theorem modifyField_modifyField (key : String) (f g : Json N → Json N) (j : Json N) :
    (j.modifyField key f).modifyField key g = j.modifyField key (g ∘ f) := by
  cases j with
  | obj fields =>
    simp only [modifyField, obj.injEq]
    funext k
    by_cases hk : k = key <;> simp [hk]
  | _ => rfl

theorem modifyField_comm {key key' : String} (hne : key ≠ key') (f g : Json N → Json N) (j : Json N) :
    (j.modifyField key f).modifyField key' g = (j.modifyField key' g).modifyField key f := by
  cases j with
  | obj fields =>
    simp only [modifyField, obj.injEq]
    funext k
    by_cases hk : k = key
    · have hk' : k ≠ key' := by rwa [hk]
      simp [hk, hne]
    · simp [hk]
  | _ => rfl

theorem setField_setField (key : String) (v v' : Json N) (j : Json N) :
    (j.setField key v).setField key v' = j.setField key v' := modifyField_modifyField key _ _ j

theorem modifyField_idem {key : String} {f : Json N → Json N} (hf : ∀ v, f (f v) = f v) (j : Json N) :
    (j.modifyField key f).modifyField key f = j.modifyField key f := by
  rw [modifyField_modifyField]
  congr 1
  exact funext hf

theorem modifyArray_idem {f : List (Json N) → List (Json N)} (hf : ∀ xs, f (f xs) = f xs) (j : Json N) :
    (j.modifyArray f).modifyArray f = j.modifyArray f := by
  cases j with
  | arr xs => exact congrArg Json.arr (hf xs)
  | _ => rfl

/-! ## How far two documents differ -/

/-- Two objects with the same keys, `R key` relating the values of each; anything else is the same. -/
def Fields (R : String → Json N → Json N → Prop) : Json N → Json N → Prop
  | .obj fields, j' => ∃ fields', j' = .obj fields' ∧ ∀ key, Option.Rel (R key) (fields key) (fields' key)
  | j, j' => j' = j

/-- Two arrays that `R` relates; anything else is the same. -/
def Elements (R : List (Json N) → List (Json N) → Prop) : Json N → Json N → Prop
  | .arr xs, j' => ∃ xs', j' = .arr xs' ∧ R xs xs'
  | j, j' => j' = j

theorem optionRel_refl {R : Json N → Json N → Prop} (h : ∀ v, R v v) : ∀ o : Option (Json N), Option.Rel R o o
  | some v => .some (h v)
  | none => .none

theorem fields_refl {R : String → Json N → Json N → Prop} (h : ∀ key v, R key v v) (j : Json N) : Fields R j j := by
  cases j with
  | obj fields => exact ⟨fields, rfl, fun key => optionRel_refl (h key) _⟩
  | _ => rfl

/-- An update of one field leaves the others. -/
theorem modifyField_fields {key : String} {f : Json N → Json N} {R : String → Json N → Json N → Prop} {j : Json N}
    (hkey : ∀ v, j.get key = some v → R key v (f v)) (hother : ∀ key', key' ≠ key → ∀ v, R key' v v) :
    Fields R j (j.modifyField key f) := by
  cases j with
  | obj fields =>
    refine ⟨_, rfl, fun k => ?_⟩
    by_cases hk : k = key
    · rw [if_pos hk, hk]
      cases hv : fields key with
      | none => exact .none
      | some v => exact .some (hkey v hv)
    · rw [if_neg hk]
      exact optionRel_refl (hother k hk) _
  | _ => rfl

/-- Two updates, of two fields. -/
theorem modifyField_fields₂ {key key' : String} (hne : key ≠ key') {f g : Json N → Json N} {R : String → Json N → Json N → Prop}
    (hkey : ∀ v, R key v (f v)) (hkey' : ∀ v, R key' v (g v)) (hother : ∀ k, k ≠ key → k ≠ key' → ∀ v, R k v v) (j : Json N) :
    Fields R j ((j.modifyField key f).modifyField key' g) := by
  cases j with
  | obj fields =>
    refine ⟨_, rfl, fun k => ?_⟩
    by_cases hk : k = key
    · subst hk
      rw [if_neg hne]
      dsimp only
      rw [if_pos rfl]
      cases fields k with
      | none => exact .none
      | some v => exact .some (hkey v)
    · dsimp only
      rw [if_neg hk]
      by_cases hk' : k = key'
      · subst hk'
        rw [if_pos rfl]
        cases fields k with
        | none => exact .none
        | some v => exact .some (hkey' v)
      · rw [if_neg hk']
        exact optionRel_refl (hother k hk hk') _
  | _ => rfl

theorem modifyArray_elements {f : List (Json N) → List (Json N)} {R : List (Json N) → List (Json N) → Prop}
    (h : ∀ xs, R xs (f xs)) (j : Json N) : Elements R j (j.modifyArray f) := by
  cases j with
  | arr xs => exact ⟨_, rfl, h xs⟩
  | _ => rfl

theorem forall₂_map_self {α : Type} {f : α → α} {R : α → α → Prop} (h : ∀ a, R a (f a)) (xs : List α) :
    List.Forall₂ R xs (xs.map f) := by
  rw [List.forall₂_map_right_iff, List.forall₂_same]
  exact fun a _ => h a

end Json
