import ControlOfc.Config.CoolingDevice
import ControlOfc.Lib.Json
import ControlOfc.Lib.KMap
import Mathlib.Data.List.Induction
import Mathlib.Data.List.Perm.Subperm
import Mathlib.Data.List.Perm.Basic
/-! # Canonical ids in a profile document (profile.rs:309-390)

`canonicalizeProfileDocument` edits the parsed JSON in place. What it does to the members of one control is
a single pass (`Collapse`): a member under a second spelling of a header is dropped, or takes the slot of
the first. `Collapses` says what the pass keeps of the list.
-/
namespace ControlOfc.Profile
open Config

variable {N : Type}

/-! ## Members -/

/-- `ControlMember::source`. -/
def sourceOf (s : String) : Source :=
  if s = "openfan" then .openfan
  else if s = "hwmon" then .hwmon
  else if s = "amd_gpu" then .amdGpu
  else if s = "intel_gpu" then .intelGpu
  else if s = "nvidia_gpu" then .nvidiaGpu
  else .other s

/-- `from_value::<ControlMember>`, of an object. -/
def controlMemberOf (m : Json N) : Option ControlMember := do
  let source ← (m.get "source").bind Json.asStr
  let memberId ← (m.get "member_id").bind Json.asStr
  let memberLabel ← match m.get "member_label" with
    | none => some ""
    | some v => v.asStr
  let fanZeroRpm ← match m.get "fan_zero_rpm" with
    | none => some false
    | some v => v.asBool
  return ⟨sourceOf source, memberId, memberLabel, fanZeroRpm⟩

/-- `floored` (profile.rs:357). -/
def floored (m : Json N) : Bool :=
  match controlMemberOf m with
  | some member => memberIsPumpOrCpu member
  | none => false

/-- The `member_id` of an entry, where it is a string. -/
def rawId (m : Json N) : Option String := (m.get "member_id").bind Json.asStr

def canonicalId (m : Json N) : Option String := (rawId m).map canonicalHwmonId

/-- `member["member_id"] = Value::String(canonical)`. -/
def respelled (m : Json N) (raw : String) : Json N := m.setField "member_id" (.str (canonicalHwmonId raw))

/-- An entry with its id canonical. -/
def rewritten (m : Json N) : Json N :=
  match rawId m with
  | some raw => respelled m raw
  | none => m

/-- The members kept so far, and for each canonical id the slot it was first kept in and the spelling kept there. -/
structure Collapse (N : Type) where
  kept : List (Json N)
  first : KMap String (Nat × String)

/-- One round of the loop over the members (profile.rs:337-378). -/
def Collapse.member (s : Collapse N) (m : Json N) : Collapse N :=
  match rawId m with
  | none => { s with kept := s.kept ++ [m] }
  | some raw =>
    let suffixed := isSuffixedHwmonId raw
    let canonical := canonicalHwmonId raw
    let m := respelled m raw
    match s.first.get? canonical with
    | none => ⟨s.kept ++ [m], s.first.insert canonical (s.kept.length, raw)⟩
    | some (slot, keptRaw) =>
      if keptRaw = raw then { s with kept := s.kept ++ [m] }
      else
        let newFloored := floored m
        let keptFloored := (s.kept[slot]?.map floored).getD false
        let takesOver := (newFloored && !keptFloored) || (newFloored == keptFloored && suffixed)
        if takesOver then ⟨s.kept.set slot m, s.first.insert canonical (slot, raw)⟩ else s

/-- The members of one control. -/
def collapsed (members : List (Json N)) : List (Json N) := (members.foldl Collapse.member ⟨[], .empty⟩).kept

def canonicalControl (control : Json N) : Json N := control.modifyField "members" (Json.modifyArray collapsed)

def canonicalCurve (curve : Json N) : Json N :=
  match (curve.get "sensor_id").bind Json.asStr with
  | some raw => if isSuffixedHwmonId raw then curve.setField "sensor_id" (.str (canonicalHwmonId raw)) else curve
  | none => curve

/-- `canonicalize_profile_document` (profile.rs:328). -/
def canonicalizeProfileDocument (doc : Json N) : Json N :=
  (doc.modifyField "controls" (Json.modifyArray (·.map canonicalControl))).modifyField "curves"
    (Json.modifyArray (·.map canonicalCurve))

/-! ## An entry -/

theorem rawId_respelled {m : Json N} {raw : String} (h : rawId m = some raw) :
    rawId (respelled m raw) = some (canonicalHwmonId raw) := by
  have hsome : (m.get "member_id").isSome := by
    unfold rawId at h
    cases hget : m.get "member_id" with
    | some v => rfl
    | none =>
      rw [hget] at h
      cases h
  rw [rawId, respelled, Json.get_setField_self hsome]
  rfl

theorem rawId_rewritten (m : Json N) : rawId (rewritten m) = canonicalId m := by
  unfold rewritten canonicalId
  cases h : rawId m with
  | none => exact h
  | some raw => exact rawId_respelled h

@[simp] theorem canonicalId_rewritten (m : Json N) : canonicalId (rewritten m) = canonicalId m := by
  rw [canonicalId, rawId_rewritten, canonicalId, Option.map_map]
  congr 1
  exact funext canonicalHwmonId_canonicalHwmonId

theorem rewritten_of_unnamed {m : Json N} (h : rawId m = none) : rewritten m = m := by
  rw [rewritten, h]

@[simp] theorem rewritten_rewritten (m : Json N) : rewritten (rewritten m) = rewritten m := by
  cases h : rawId m with
  | none => rw [rewritten_of_unnamed h, rewritten_of_unnamed h]
  | some raw =>
    have hm : rewritten m = respelled m raw := by rw [rewritten, h]
    rw [hm, rewritten, rawId_respelled h]
    dsimp only
    rw [respelled, respelled, Json.setField_setField, canonicalHwmonId_canonicalHwmonId]

/-- Only the id of an entry changes. -/
theorem get_rewritten (m : Json N) {key : String} (hkey : key ≠ "member_id") : (rewritten m).get key = m.get key := by
  unfold rewritten
  split
  · exact Json.get_setField_of_ne _ _ hkey
  · rfl

/-! ## What the pass keeps -/

/-- Ids in order of first appearance. -/
def firstAppearances (ids : List String) : List String := ids.foldl pushNew []

theorem firstAppearances_concat (ids : List String) (id : String) :
    firstAppearances (ids ++ [id]) = pushNew (firstAppearances ids) id := List.foldl_concat ..

theorem mem_firstAppearances {ids : List String} {id : String} (h : id ∈ ids) : id ∈ firstAppearances ids := by
  induction ids using List.reverseRecOn with
  | nil => cases h
  | append_singleton ids id' ih =>
    rw [firstAppearances_concat]
    unfold pushNew
    rcases List.mem_append.mp h with h | h
    · split
      · exact ih h
      · exact List.mem_append_left _ (ih h)
    · rw [List.mem_singleton.mp h]
      split
      · assumption
      · exact List.mem_append_right _ (List.mem_singleton_self id')

/-- What is kept of a control's members: some of them, their ids canonical; every id, in order of first appearance;
every entry without an id, in order; each of the members whose id has one spelling; and a floored member of every id
that has one. -/
structure Collapses (members kept : List (Json N)) : Prop where
  entries : kept.Subperm (members.map rewritten)
  ids : firstAppearances (kept.filterMap canonicalId) = firstAppearances (members.filterMap canonicalId)
  unnamed : kept.filter (fun m => (rawId m).isNone) = members.filter (fun m => (rawId m).isNone)
  repeated : ∀ id raw, (∀ m ∈ members, canonicalId m = some id → rawId m = some raw) →
    kept.countP (fun m => canonicalId m = some id) = members.countP (fun m => canonicalId m = some id)
  keepsFloor : ∀ id, (∃ m ∈ members, canonicalId m = some id ∧ floored (rewritten m) = true) →
    ∃ k ∈ kept, canonicalId k = some id ∧ floored k = true

variable {members kept : List (Json N)} {m : Json N}

/-- An entry kept beside the others. -/
theorem Collapses.push (h : Collapses members kept) (m : Json N) : Collapses (members ++ [m]) (kept ++ [rewritten m]) := by
  refine ⟨?_, ?_, ?_, fun id raw hone => ?_, fun id => ?_⟩
  · rw [List.map_append]
    exact h.entries.append (List.Subperm.refl _)
  · rw [List.filterMap_append, List.filterMap_append]
    cases hid : canonicalId m with
    | none => simpa [hid] using h.ids
    | some id => simp [hid, firstAppearances_concat, h.ids]
  · rw [List.filter_append, List.filter_append, h.unnamed]
    congr 1
    cases hraw : rawId m with
    | none => rw [rewritten_of_unnamed hraw]
    | some raw => simp [rawId_rewritten, canonicalId, hraw]
  · rw [List.countP_append, List.countP_append, h.repeated id raw fun m' hm' => hone m' (List.mem_append_left _ hm')]
    simp
  · rintro ⟨m', hm', hid, hfloored⟩
    rcases List.mem_append.mp hm' with hm' | hm'
    · obtain ⟨k, hk, hkept⟩ := h.keepsFloor id ⟨m', hm', hid, hfloored⟩
      exact ⟨k, List.mem_append_left _ hk, hkept⟩
    · rw [List.mem_singleton.mp hm'] at hid hfloored
      exact ⟨rewritten m, by simp, by rw [canonicalId_rewritten, hid], hfloored⟩

/-- A member under a second spelling of an id, whether or not it takes a slot: what is kept has the ids it had,
and a floored member where there was one or this is one. -/
theorem Collapses.collapse (h : Collapses members kept) {kept' : List (Json N)} {raw raw' : String}
    (hraw : rawId m = some raw) (hother : ∃ m' ∈ members, rawId m' = some raw' ∧ canonicalId m' = canonicalId m)
    (hne : raw' ≠ raw) (hentries : kept'.Subperm ((members ++ [m]).map rewritten))
    (hids : kept'.map canonicalId = kept.map canonicalId)
    (hunnamed : kept'.filter (fun m => (rawId m).isNone) = kept.filter fun m => (rawId m).isNone)
    (hfloored : ∀ id, (∃ k ∈ kept, canonicalId k = some id ∧ floored k = true) → ∃ k ∈ kept', canonicalId k = some id ∧ floored k = true)
    (hnew : floored (rewritten m) = true → ∃ k ∈ kept', canonicalId k = canonicalId m ∧ floored k = true) :
    Collapses (members ++ [m]) kept' := by
  obtain ⟨m', hm', hraw', hsame⟩ := hother
  have hid : canonicalId m = some (canonicalHwmonId raw) := by rw [canonicalId, hraw]; rfl
  refine ⟨hentries, ?_, ?_, fun id raw₀ hone => ?_, fun id => ?_⟩
  · have hmap : ∀ l : List (Json N), l.filterMap canonicalId = (l.map canonicalId).filterMap id :=
      fun l => by rw [List.filterMap_map]; rfl
    have hkept : kept'.filterMap canonicalId = kept.filterMap canonicalId := by rw [hmap, hmap, hids]
    have hin : canonicalHwmonId raw ∈ members.filterMap canonicalId :=
      List.mem_filterMap.mpr ⟨m', hm', hsame.trans hid⟩
    rw [hkept, h.ids, List.filterMap_append]
    simp [hid, firstAppearances_concat, pushNew, mem_firstAppearances hin]
  · rw [hunnamed, h.unnamed, List.filter_append]
    simp [hraw]
  · have hcount : kept'.countP (fun m => canonicalId m = some id) = kept.countP (fun m => canonicalId m = some id) := by
      have hmap : ∀ l : List (Json N), l.countP (fun m => canonicalId m = some id) = (l.map canonicalId).countP (· = some id) :=
        fun l => by rw [List.countP_map]; rfl
      rw [hmap, hmap, hids]
    have hdiff : canonicalId m ≠ some id := by
      intro hm
      have hfirst := hone m' (List.mem_append_left _ hm') (hsame.trans hm)
      have hsecond := hone m (by simp) hm
      rw [hraw'] at hfirst
      rw [hraw, ← hfirst] at hsecond
      exact hne (Option.some.inj hsecond).symm
    rw [hcount, h.repeated id raw₀ fun m' hm' => hone m' (List.mem_append_left _ hm'), List.countP_append]
    simp [hdiff]
  · rintro ⟨m', hm', hid, hm'floored⟩
    rcases List.mem_append.mp hm' with hm' | hm'
    · exact hfloored id (h.keepsFloor id ⟨m', hm', hid, hm'floored⟩)
    · rw [List.mem_singleton.mp hm'] at hid hm'floored
      rw [← hid]
      exact hnew hm'floored

/-! ## The pass -/

/-- What the pass has done with the members so far. -/
structure Tracks (members : List (Json N)) (s : Collapse N) : Prop where
  collapses : Collapses members s.kept
  slots : ∀ id slot raw, s.first.get? id = some (slot, raw) →
    (∃ k, s.kept[slot]? = some k ∧ canonicalId k = some id) ∧ ∃ m ∈ members, rawId m = some raw ∧ canonicalId m = some id

theorem canonicalId_of_rawId {m : Json N} {raw : String} (h : rawId m = some raw) : canonicalId m = some (canonicalHwmonId raw) := by
  rw [canonicalId, h]
  rfl

theorem getElem?_append_of_some {l : List (Json N)} {i : Nat} {k : Json N} (h : l[i]? = some k) (m : Json N) :
    (l ++ [m])[i]? = some k := by
  obtain ⟨hi, -⟩ := List.getElem?_eq_some_iff.mp h
  rw [List.getElem?_append_left hi, h]

/-- An entry kept beside the others, under the slot of its id if it is the first of it. -/
theorem Tracks.push {s : Collapse N} (h : Tracks members s) {first : KMap String (Nat × String)}
    (hfirst : first = s.first ∨ ∃ raw, rawId m = some raw ∧ first = s.first.insert (canonicalHwmonId raw) (s.kept.length, raw)) :
    Tracks (members ++ [m]) ⟨s.kept ++ [rewritten m], first⟩ := by
  refine ⟨h.collapses.push m, fun id slot raw hslot => ?_⟩
  have hbefore : s.first.get? id = some (slot, raw) → (∃ k, (s.kept ++ [rewritten m])[slot]? = some k ∧ canonicalId k = some id) ∧
      ∃ m' ∈ members ++ [m], rawId m' = some raw ∧ canonicalId m' = some id := by
    intro hslot
    obtain ⟨⟨k, hk, hid⟩, m', hm', hm'id⟩ := h.slots id slot raw hslot
    exact ⟨⟨k, getElem?_append_of_some hk _, hid⟩, m', List.mem_append_left _ hm', hm'id⟩
  rcases hfirst with rfl | ⟨raw', hraw, rfl⟩
  · exact hbefore hslot
  · rw [KMap.get?_insert] at hslot
    split at hslot
    · next hid =>
      obtain ⟨rfl, rfl⟩ := Prod.mk.inj (Option.some.inj hslot)
      rw [hid]
      have hm := canonicalId_of_rawId hraw
      exact ⟨⟨rewritten m, by simp, by rw [canonicalId_rewritten, hm]⟩, m, by simp, hraw, hm⟩
    · exact hbefore hslot

theorem filter_set_of_neg {α : Type} {p : α → Bool} {l : List α} {i : Nat} {a b : α} (hl : l[i]? = some a) (ha : p a = false)
    (hb : p b = false) : (l.set i b).filter p = l.filter p := by
  induction l generalizing i with
  | nil => rfl
  | cons c l ih =>
    cases i with
    | zero =>
      obtain rfl : c = a := by simpa using hl
      simp [ha, hb]
    | succ i =>
      rw [List.set_cons_succ, List.filter_cons, List.filter_cons, ih (by simpa using hl)]

section SecondSpelling

variable {s : Collapse N} {slot : Nat} {raw keptRaw : String} {k : Json N}

/-- A member under a second spelling that is dropped. -/
theorem Tracks.drop (h : Tracks members s) (hraw : rawId m = some raw)
    (hslot : s.first.get? (canonicalHwmonId raw) = some (slot, keptRaw)) (hne : keptRaw ≠ raw) (hk : s.kept[slot]? = some k)
    (hid : canonicalId k = some (canonicalHwmonId raw)) (hfloored : floored (rewritten m) = true → floored k = true) :
    Tracks (members ++ [m]) s := by
  have hm := canonicalId_of_rawId hraw
  obtain ⟨-, m', hm', hraw', hid'⟩ := h.slots _ slot keptRaw hslot
  refine ⟨h.collapses.collapse hraw ⟨m', hm', hraw', hid'.trans hm.symm⟩ hne ?_ rfl rfl (fun _ => id) ?_, fun id slot raw hslot => ?_⟩
  · rw [List.map_append]
    exact h.collapses.entries.trans (List.sublist_append_left _ _).subperm
  · intro hnew
    exact ⟨k, List.mem_of_getElem? hk, hid.trans hm.symm, hfloored hnew⟩
  · obtain ⟨hkept, m', hm', hm'id⟩ := h.slots id slot raw hslot
    exact ⟨hkept, m', List.mem_append_left _ hm', hm'id⟩

/-- A member under a second spelling that takes over the slot. -/
theorem Tracks.takeOver (h : Tracks members s) (hraw : rawId m = some raw)
    (hslot : s.first.get? (canonicalHwmonId raw) = some (slot, keptRaw)) (hne : keptRaw ≠ raw) (hk : s.kept[slot]? = some k)
    (hid : canonicalId k = some (canonicalHwmonId raw)) (hfloored : floored k = true → floored (rewritten m) = true) :
    Tracks (members ++ [m]) ⟨s.kept.set slot (rewritten m), s.first.insert (canonicalHwmonId raw) (slot, raw)⟩ := by
  have hm := canonicalId_of_rawId hraw
  obtain ⟨-, m', hm', hraw', hid'⟩ := h.slots _ slot keptRaw hslot
  obtain ⟨hlength, -⟩ := List.getElem?_eq_some_iff.mp hk
  have hin : (s.kept.set slot (rewritten m))[slot]? = some (rewritten m) := List.getElem?_set_self hlength
  have hids : (s.kept.set slot (rewritten m)).map canonicalId = s.kept.map canonicalId := by
    refine List.ext_getElem? fun i => ?_
    rw [List.getElem?_map, List.getElem?_map]
    by_cases hislot : i = slot
    · rw [hislot, hin, hk, Option.map_some, Option.map_some, canonicalId_rewritten, hm, hid]
    · rw [List.getElem?_set_ne (Ne.symm hislot)]
  have hunnamed : ∀ {j : Json N}, canonicalId j = some (canonicalHwmonId raw) → (rawId j).isNone = false := by
    intro j hj
    cases hrawj : rawId j with
    | some _ => rfl
    | none =>
      rw [canonicalId, hrawj] at hj
      cases hj
  refine ⟨h.collapses.collapse hraw ⟨m', hm', hraw', hid'.trans hm.symm⟩ hne ?_ hids ?_ ?_ ?_, fun id slot' raw' hslot' => ?_⟩
  · -- the entry that held the slot goes, and the member comes
    have hperm : (s.kept.set slot (rewritten m)).Perm (rewritten m :: s.kept.eraseIdx slot) := List.set_perm_cons_eraseIdx hlength _
    refine hperm.subperm.trans (((List.perm_append_singleton _ _).symm.subperm).trans ?_)
    rw [List.map_append]
    exact ((List.eraseIdx_sublist _ _).subperm.trans h.collapses.entries).append (List.Subperm.refl _)
  · exact filter_set_of_neg hk (hunnamed hid) (hunnamed (by rw [canonicalId_rewritten, hm]))
  · rintro id ⟨k', hk', hid', hk'floored⟩
    obtain ⟨i, hi⟩ := List.getElem?_of_mem hk'
    by_cases hislot : i = slot
    · subst hislot
      obtain rfl := Option.some.inj (hk.symm.trans hi)
      exact ⟨rewritten m, List.mem_of_getElem? hin, by rw [canonicalId_rewritten, hm, ← hid, hid'], hfloored hk'floored⟩
    · exact ⟨k', List.mem_of_getElem? (by rw [List.getElem?_set_ne (Ne.symm hislot), hi]), hid', hk'floored⟩
  · intro hnew
    exact ⟨rewritten m, List.mem_of_getElem? hin, canonicalId_rewritten m, hnew⟩
  · rw [KMap.get?_insert] at hslot'
    split at hslot'
    · next hcanonical =>
      obtain ⟨rfl, rfl⟩ := Prod.mk.inj (Option.some.inj hslot')
      rw [hcanonical]
      exact ⟨⟨rewritten m, hin, by rw [canonicalId_rewritten, hm]⟩, m, by simp, hraw, hm⟩
    · obtain ⟨⟨k', hk', hk'id⟩, m'', hm'', hm''id⟩ := h.slots id slot' raw' hslot'
      refine ⟨?_, m'', List.mem_append_left _ hm'', hm''id⟩
      by_cases hsame : slot' = slot
      · subst hsame
        obtain rfl := Option.some.inj (hk.symm.trans hk')
        exact ⟨rewritten m, hin, by rw [canonicalId_rewritten, hm, ← hid, hk'id]⟩
      · exact ⟨k', by rw [List.getElem?_set_ne (Ne.symm hsame), hk'], hk'id⟩

end SecondSpelling

/-- **Every round keeps it.** -/
theorem Tracks.step {s : Collapse N} (h : Tracks members s) (m : Json N) : Tracks (members ++ [m]) (s.member m) := by
  unfold Collapse.member
  cases hraw : rawId m with
  | none =>
    have hpush := h.push (m := m) (.inl rfl)
    rwa [rewritten_of_unnamed hraw] at hpush
  | some raw =>
    have hm : respelled m raw = rewritten m := by rw [rewritten, hraw]
    dsimp only
    rw [hm]
    cases hslot : s.first.get? (canonicalHwmonId raw) with
    | none => exact h.push (.inr ⟨raw, hraw, rfl⟩)
    | some found =>
      obtain ⟨slot, keptRaw⟩ := found
      dsimp only
      by_cases hsame : keptRaw = raw
      · rw [if_pos hsame]
        exact h.push (.inl rfl)
      · rw [if_neg hsame]
        obtain ⟨⟨k, hk, hid⟩, -⟩ := h.slots _ slot keptRaw hslot
        have hkept : ((s.kept[slot]?).map floored).getD false = floored k := by rw [hk]; rfl
        rw [hkept]
        split
        · next htakes =>
          refine h.takeOver hraw hslot hsame hk hid fun hkf => ?_
          cases hnew : floored (rewritten m) with
          | true => rfl
          | false => simp [hkf, hnew] at htakes
        · next hleaves =>
          refine h.drop hraw hslot hsame hk hid fun hnew => ?_
          cases hkf : floored k with
          | true => rfl
          | false => simp [hkf, hnew] at hleaves

theorem tracks (members : List (Json N)) : Tracks members (members.foldl Collapse.member ⟨[], .empty⟩) := by
  induction members using List.reverseRecOn with
  | nil => exact ⟨⟨List.Subperm.refl _, rfl, rfl, fun _ _ _ => rfl, nofun⟩, nofun⟩
  | append_singleton members m ih =>
    rw [List.foldl_concat]
    exact ih.step m

theorem collapses (members : List (Json N)) : Collapses members (collapsed members) := (tracks members).collapses

/-! ## A second time -/

theorem rawId_of_canonical {m : Json N} (h : rewritten m = m) : rawId m = canonicalId m := by
  rw [← rawId_rewritten, h]

theorem kept_member_of_canonical {s : Collapse N} (h : Tracks members s) (hmembers : ∀ m ∈ members, rewritten m = m)
    (hm : rewritten m = m) : (s.member m).kept = s.kept ++ [m] := by
  unfold Collapse.member
  cases hraw : rawId m with
  | none => rfl
  | some raw =>
    have hself : respelled m raw = m := by
      rw [rewritten, hraw] at hm
      exact hm
    dsimp only
    rw [hself]
    cases hslot : s.first.get? (canonicalHwmonId raw) with
    | none => rfl
    | some found =>
      obtain ⟨slot, keptRaw⟩ := found
      obtain ⟨-, m', hm', hraw', hid'⟩ := h.slots _ slot keptRaw hslot
      have hsame : keptRaw = raw := by
        have hkept := (rawId_of_canonical (hmembers m' hm')).symm.trans hraw'
        have hnew := rawId_of_canonical hm
        rw [hraw, canonicalId_of_rawId hraw] at hnew
        rw [hid', ← hnew] at hkept
        exact (Option.some.inj hkept).symm
      dsimp only
      rw [if_pos hsame]

/-- Members that are canonical already are all kept. -/
theorem collapsed_of_canonical (h : ∀ m ∈ members, rewritten m = m) : collapsed members = members := by
  unfold collapsed
  induction members using List.reverseRecOn with
  | nil => rfl
  | append_singleton members m ih =>
    obtain ⟨hmembers, hm⟩ := List.forall_mem_append.mp h
    rw [List.foldl_concat, kept_member_of_canonical (tracks members) hmembers (hm m (List.mem_singleton_self m)), ih hmembers]

theorem collapsed_collapsed (members : List (Json N)) : collapsed (collapsed members) = collapsed members := by
  apply collapsed_of_canonical
  intro k hk
  obtain ⟨m, -, rfl⟩ := List.mem_map.mp ((collapses members).entries.subset hk)
  exact rewritten_rewritten m

theorem canonicalControl_canonicalControl (control : Json N) :
    canonicalControl (canonicalControl control) = canonicalControl control :=
  Json.modifyField_idem (Json.modifyArray_idem collapsed_collapsed) control

theorem canonicalCurve_canonicalCurve (curve : Json N) : canonicalCurve (canonicalCurve curve) = canonicalCurve curve := by
  cases hraw : (curve.get "sensor_id").bind Json.asStr with
  | none =>
    have hsame : canonicalCurve curve = curve := by rw [canonicalCurve, hraw]
    rw [hsame, hsame]
  | some raw =>
    by_cases hsuffixed : isSuffixedHwmonId raw = true
    · have hset : canonicalCurve curve = curve.setField "sensor_id" (.str (canonicalHwmonId raw)) := by
        rw [canonicalCurve, hraw]
        exact if_pos hsuffixed
      have hsome : (curve.get "sensor_id").isSome := by
        cases hget : curve.get "sensor_id" with
        | some v => rfl
        | none =>
          rw [hget] at hraw
          cases hraw
      have hnow : isSuffixedHwmonId (canonicalHwmonId raw) = false := by simp [isSuffixedHwmonId]
      rw [hset, canonicalCurve, Json.get_setField_self hsome]
      simp [Json.asStr, hnow]
    · have hsame : canonicalCurve curve = curve := by
        rw [canonicalCurve, hraw]
        exact if_neg hsuffixed
      rw [hsame, hsame]

theorem canonicalizeProfileDocument_idem (doc : Json N) :
    canonicalizeProfileDocument (canonicalizeProfileDocument doc) = canonicalizeProfileDocument doc := by
  have hne : "curves" ≠ "controls" := by decide
  have hmap : ∀ {f : Json N → Json N}, (∀ j, f (f j) = f j) → ∀ xs : List (Json N), (xs.map f).map f = xs.map f :=
    fun hf xs => by rw [List.map_map]; exact List.map_congr_left fun j _ => hf j
  unfold canonicalizeProfileDocument
  rw [Json.modifyField_comm hne, Json.modifyField_idem (Json.modifyArray_idem (hmap canonicalControl_canonicalControl)),
    Json.modifyField_idem (Json.modifyArray_idem (hmap canonicalCurve_canonicalCurve))]

/-! ## What the document keeps -/

/-- An object that differs in the spelling of the id it has under `key`. -/
def Respelled (key : String) : Json N → Json N → Prop :=
  Json.Fields fun k v v' => if k = key then v' = v ∨ ∃ raw, v = .str raw ∧ v' = .str (canonicalHwmonId raw) else v' = v

/-- A control that differs in its members. -/
def ControlKept : Json N → Json N → Prop :=
  Json.Fields fun key v v' => if key = "members" then Json.Elements Collapses v v' else v' = v

/-- A document that differs in its controls and its curves. -/
def DocumentKept : Json N → Json N → Prop :=
  Json.Fields fun key v v' =>
    if key = "controls" then Json.Elements (List.Forall₂ ControlKept) v v'
    else if key = "curves" then Json.Elements (List.Forall₂ (Respelled "sensor_id")) v v'
    else v' = v

theorem canonicalControl_kept (control : Json N) : ControlKept control (canonicalControl control) := by
  refine Json.modifyField_fields (fun v _ => ?_) (fun key hkey v => ?_)
  · rw [if_pos rfl]
    exact Json.modifyArray_elements collapses v
  · rw [if_neg hkey]

theorem respelled_refl (key : String) (j : Json N) : Respelled key j j := by
  refine Json.fields_refl (fun k v => ?_) j
  split
  · exact .inl rfl
  · rfl

theorem respelled_setField {key raw : String} {j : Json N} (hraw : (j.get key).bind Json.asStr = some raw) :
    Respelled key j (j.setField key (.str (canonicalHwmonId raw))) := by
  refine Json.modifyField_fields (fun v hv => ?_) (fun key hkey v => ?_)
  · rw [if_pos rfl]
    rw [hv] at hraw
    cases v with
    | str s =>
      obtain rfl := Option.some.inj hraw
      exact .inr ⟨s, rfl, rfl⟩
    | _ => cases hraw
  · rw [if_neg hkey]

theorem rewritten_respelled (m : Json N) : Respelled "member_id" m (rewritten m) := by
  unfold rewritten
  split
  · next raw hraw => exact respelled_setField hraw
  · exact respelled_refl _ m

theorem canonicalCurve_respelled (curve : Json N) : Respelled "sensor_id" curve (canonicalCurve curve) := by
  unfold canonicalCurve
  split
  · next raw hraw =>
    split
    · exact respelled_setField hraw
    · exact respelled_refl _ curve
  · exact respelled_refl _ curve

theorem canonicalizeProfileDocument_kept (doc : Json N) : DocumentKept doc (canonicalizeProfileDocument doc) := by
  refine Json.modifyField_fields₂ (by decide) (fun v => ?_) (fun v => ?_) (fun key hcontrols hcurves v => ?_) doc
  · rw [if_pos rfl]
    exact Json.modifyArray_elements (Json.forall₂_map_self canonicalControl_kept) v
  · rw [if_neg (by decide), if_pos rfl]
    exact Json.modifyArray_elements (Json.forall₂_map_self canonicalCurve_respelled) v
  · rw [if_neg hcontrols, if_neg hcurves]

/-- **Canonicalising a profile document** a second time changes nothing, and once it changes only the members of
controls and the ids of curves' sensors: of the members it keeps what `Collapses` says, and of a member it changes only
the id. -/
theorem canonicalize_profile_document (doc : Json N) :
    canonicalizeProfileDocument (canonicalizeProfileDocument doc) = canonicalizeProfileDocument doc ∧
      DocumentKept doc (canonicalizeProfileDocument doc) ∧ ∀ m : Json N, Respelled "member_id" m (rewritten m) :=
  ⟨canonicalizeProfileDocument_idem doc, canonicalizeProfileDocument_kept doc, rewritten_respelled⟩

/-- The suffixed spelling loses to a floored member, then takes the slot back with a floor of its own. -/
example :
    let member (id label : String) : Json Nat :=
      .ofFields [("source", .str "hwmon"), ("member_id", .str id), ("member_label", .str label)]
    (collapsed [member "hwmon:it8696:d:pwm1:a" "CPU fan", member "hwmon:it8696_a008090a:d:pwm1:a" "Rear",
      member "hwmon:it8696_a008090a:d:pwm1:a" "Pump"]).map (fun m => (m.get "member_label").bind Json.asStr) =
        [some "Pump"] := by
  decide

end ControlOfc.Profile
