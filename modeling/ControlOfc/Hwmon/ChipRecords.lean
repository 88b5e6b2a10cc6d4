import ControlOfc.Config.CoolingDevice
import ControlOfc.Lib.SortedMap
import Mathlib.Data.String.Basic
/-! # Stores keyed by header id (hwmon/chip_name.rs:143-213)

The baselines and the verification verdicts are kept under header ids, and an id embeds its chip's name. A newer driver
spells the name with a board suffix, so at boot a store is keyed again by canonical id, and then the records of headers
that are gone are dropped.

Main theorem `chip_records`.
-/
namespace ControlOfc.Hwmon
open Config Profile Text

variable {V : Type}

/-! ## The two passes -/

/-- One record of the loop (chip_name.rs:148-169): of two for one header, the first, or the first of a suffixed key. -/
def foldKeyed (fix : String → V → V) (out : SortedMap String (V × Bool)) (e : String × V) : SortedMap String (V × Bool) :=
  let suffixed := isSuffixedHwmonId e.1
  let canonical := canonicalHwmonId e.1
  let record := fix canonical e.2
  let replaces := match out.get? canonical with
    | none => true
    | some (_, keptSuffixed) => suffixed && !keptSuffixed
  if replaces then out.insert canonical (record, suffixed) else out

/-- `canonicalize_keyed` (chip_name.rs:143). -/
def canonicalizeKeyed (fix : String → V → V) (records : SortedMap String V) : SortedMap String V :=
  (records.entries.foldl (foldKeyed fix) .empty).mapVal Prod.fst

/-- `hwmon_id_chip` (chip_name.rs:176). -/
def hwmonIdChip (id : String) : Option (List Char) := do
  let rest ← stripPrefix "hwmon:".toList id.toList
  let (chip, _) ← splitOnce [':'] rest
  return chip

/-- `prune_to_live_chips` (chip_name.rs:194): what is left, and how many records went. -/
def pruneToLiveChips (records : SortedMap String V) (liveHeaderIds : List String) : SortedMap String V × Nat :=
  if liveHeaderIds.isEmpty then (records, 0)
  else
    let liveChips := liveHeaderIds.filterMap hwmonIdChip
    let kept := records.retain fun headerId _ =>
      liveHeaderIds.contains headerId || (hwmonIdChip headerId).any fun chip => !liveChips.contains chip
    (kept, records.entries.length - kept.entries.length)

/-! ## Keying again -/

theorem canonical_of_not_suffixed {id : String} (h : isSuffixedHwmonId id = false) : canonicalHwmonId id = id := by
  simpa [isSuffixedHwmonId] using h

@[simp] theorem isSuffixedHwmonId_canonical (id : String) : isSuffixedHwmonId (canonicalHwmonId id) = false := by
  simp [isSuffixedHwmonId]

/-- The entries of one header. -/
def hits (l : List (String × V)) (k : String) : List (String × V) := l.filter fun e => canonicalHwmonId e.1 = k

/-- The entry that stands for it. -/
def winner (l : List (String × V)) (k : String) : Option (String × V) :=
  ((hits l k).find? fun e => isSuffixedHwmonId e.1).or (hits l k).head?

theorem winner_append (l : List (String × V)) (e : String × V) (k : String) :
    winner (l ++ [e]) k =
      if canonicalHwmonId e.1 = k then
        match winner l k with
        | none => some e
        | some kept => if isSuffixedHwmonId e.1 && !isSuffixedHwmonId kept.1 then some e else some kept
      else winner l k := by
  unfold winner
  split
  · next hk =>
    have hhits : hits (l ++ [e]) k = hits l k ++ [e] := by simp [hits, hk]
    rw [hhits, List.find?_append]
    cases hfind : (hits l k).find? fun e => isSuffixedHwmonId e.1 with
    | some kept =>
      have hkept : isSuffixedHwmonId kept.1 = true := by simpa using List.find?_some hfind
      simp [hkept]
    | none =>
      cases hhead : hits l k with
      | nil => cases hs : isSuffixedHwmonId e.1 <;> simp [hs]
      | cons first rest =>
        have hfirst : isSuffixedHwmonId first.1 = false := by
          rw [hhead] at hfind
          simpa using List.find?_eq_none.mp hfind first List.mem_cons_self
        cases hs : isSuffixedHwmonId e.1 <;> simp [hfirst, hs]
  · next hk => simp [hits, hk]

/-- What the loop has left for a header. -/
theorem get?_foldKeyed (fix : String → V → V) (l : List (String × V)) (k : String) :
    (l.foldl (foldKeyed fix) .empty).get? k = (winner l k).map fun e => (fix k e.2, isSuffixedHwmonId e.1) := by
  induction l using List.reverseRecOn with
  | nil => rfl
  | append_singleton l e ih =>
    rw [List.foldl_append, List.foldl_cons, List.foldl_nil, winner_append]
    generalize l.foldl (foldKeyed fix) .empty = out at ih ⊢
    by_cases hk : canonicalHwmonId e.1 = k
    · subst hk
      unfold foldKeyed
      dsimp only
      rw [if_pos rfl, ih]
      cases hwin : winner l (canonicalHwmonId e.1) with
      | none => simp
      | some kept =>
        dsimp only [Option.map_some]
        split_ifs
        · simp
        · rw [ih, hwin]
    · have hskip : (foldKeyed fix out e).get? k = out.get? k := by
        unfold foldKeyed
        dsimp only
        split_ifs
        · exact SortedMap.get?_insert_of_ne _ _ (Ne.symm hk)
        · rfl
      rw [hskip, ih, if_neg hk]

theorem get?_canonicalizeKeyed (fix : String → V → V) (m : SortedMap String V) (k : String) :
    (canonicalizeKeyed fix m).get? k = (winner m.entries k).map fun e => fix k e.2 := by
  unfold canonicalizeKeyed
  rw [SortedMap.get?_mapVal, get?_foldKeyed, Option.map_map]
  rfl

/-- A header's record is that of its first suffixed key, and where there is none that of its own. -/
theorem winner_spec (m : SortedMap String V) (k : String) (e : String × V) :
    winner m.entries k = some e →
      e ∈ m.entries ∧ canonicalHwmonId e.1 = k ∧
        ((isSuffixedHwmonId e.1 = true ∧
            ∀ s ∈ m.keys, canonicalHwmonId s = k → isSuffixedHwmonId s = true → e.1 ≤ s) ∨
          (e.1 = k ∧ ∀ s ∈ m.keys, canonicalHwmonId s = k → isSuffixedHwmonId s = false)) := by
  intro hwin
  have hits_mem {e : String × V} (he : e ∈ hits m.entries k) : e ∈ m.entries ∧ canonicalHwmonId e.1 = k := by
    simpa [hits] using he
  have hits_sorted : (hits m.entries k).Pairwise fun a b => a.1 < b.1 := m.sorted.filter _
  have hits_key {s : String} (hs : s ∈ m.keys) (hk : canonicalHwmonId s = k) : ∃ v, (s, v) ∈ hits m.entries k := by
    obtain ⟨⟨s', v⟩, hmem, rfl⟩ := List.mem_map.mp hs
    exact ⟨v, by simpa [hits] using ⟨hmem, hk⟩⟩
  unfold winner at hwin
  cases hfind : (hits m.entries k).find? fun e => isSuffixedHwmonId e.1 with
  | some kept =>
    obtain rfl : kept = e := by simpa [hfind] using hwin
    obtain ⟨hmem, hk⟩ := hits_mem (List.mem_of_find?_eq_some hfind)
    have hsuffixed : isSuffixedHwmonId kept.1 = true := by simpa using List.find?_some hfind
    refine ⟨hmem, hk, .inl ⟨hsuffixed, fun s hs hsk hss => ?_⟩⟩
    obtain ⟨v, hv⟩ := hits_key hs hsk
    obtain ⟨-, before, after, hsplit, hbefore⟩ := List.find?_eq_some_iff_append.mp hfind
    rw [hsplit] at hv hits_sorted
    rcases List.mem_append.mp hv with hv | hv
    · exact absurd hss (by simpa using hbefore _ hv)
    · rcases List.mem_cons.mp hv with hv | hv
      · exact (congrArg Prod.fst hv).symm.le
      · exact ((List.pairwise_cons.mp (List.pairwise_append.mp hits_sorted).2.1).1 _ hv).le
  | none =>
    have hhead : (hits m.entries k).head? = some e := by simpa [hfind] using hwin
    obtain ⟨hmem, hk⟩ := hits_mem (List.mem_of_head? hhead)
    have hplain : ∀ x ∈ hits m.entries k, isSuffixedHwmonId x.1 = false := fun x hx => by
      simpa using List.find?_eq_none.mp hfind x hx
    have hown : canonicalHwmonId e.1 = e.1 := canonical_of_not_suffixed (hplain e (List.mem_of_head? hhead))
    refine ⟨hmem, hk, .inr ⟨hown.symm.trans hk, fun s hs hsk => ?_⟩⟩
    obtain ⟨v, hv⟩ := hits_key hs hsk
    exact hplain (s, v) hv

theorem winner_isSome {m : SortedMap String V} {k : String} :
    (winner m.entries k).isSome ↔ ∃ s ∈ m.keys, canonicalHwmonId s = k := by
  have hsome : (winner m.entries k).isSome = true ↔ hits m.entries k ≠ [] := by
    unfold winner
    cases hfind : (hits m.entries k).find? fun e => isSuffixedHwmonId e.1 with
    | some kept => simp [List.ne_nil_of_mem (List.mem_of_find?_eq_some hfind)]
    | none => simp
  rw [hsome]
  constructor
  · intro hne
    obtain ⟨e, he⟩ := List.exists_mem_of_ne_nil _ hne
    obtain ⟨hmem, hk⟩ : e ∈ m.entries ∧ canonicalHwmonId e.1 = k := by simpa [hits] using he
    exact ⟨e.1, List.mem_map_of_mem hmem, hk⟩
  · rintro ⟨s, hs, hk⟩
    obtain ⟨e, hmem, rfl⟩ := List.mem_map.mp hs
    exact List.ne_nil_of_mem (a := e) (by simpa [hits] using ⟨hmem, hk⟩)

theorem mem_keys_canonicalizeKeyed {fix : String → V → V} {m : SortedMap String V} {k : String} :
    k ∈ (canonicalizeKeyed fix m).keys ↔ ∃ s ∈ m.keys, canonicalHwmonId s = k := by
  rw [SortedMap.mem_keys, get?_canonicalizeKeyed, Option.isSome_map, winner_isSome]

theorem canonicalizeKeyed_record {fix : String → V → V} {m : SortedMap String V} {k : String} {v : V}
    (h : (canonicalizeKeyed fix m).get? k = some v) :
    (∃ s v₀, m.get? s = some v₀ ∧ canonicalHwmonId s = k ∧ isSuffixedHwmonId s = true ∧ v = fix k v₀ ∧
        ∀ s' ∈ m.keys, canonicalHwmonId s' = k → isSuffixedHwmonId s' = true → s ≤ s') ∨
      ((∀ s ∈ m.keys, canonicalHwmonId s = k → isSuffixedHwmonId s = false) ∧ ∃ v₀, m.get? k = some v₀ ∧ v = fix k v₀) := by
  rw [get?_canonicalizeKeyed, Option.map_eq_some_iff] at h
  obtain ⟨⟨s, v₀⟩, hwin, rfl⟩ := h
  obtain ⟨hmem, hk, ⟨hs, hfirst⟩ | ⟨rfl, hplain⟩⟩ := winner_spec m k _ hwin
  · exact .inl ⟨s, v₀, SortedMap.mem_entries.mp hmem, hk, hs, rfl, hfirst⟩
  · exact .inr ⟨hplain, v₀, SortedMap.mem_entries.mp hmem, rfl⟩

/-- A store whose keys are canonical already only has its records fixed. -/
theorem canonicalizeKeyed_canonical {fix : String → V → V} {m : SortedMap String V}
    (hm : ∀ s ∈ m.keys, canonicalHwmonId s = s) (k : String) : (canonicalizeKeyed fix m).get? k = (m.get? k).map (fix k) := by
  refine Option.ext fun v => ⟨fun h => ?_, fun h => ?_⟩
  · rcases canonicalizeKeyed_record h with ⟨s, v₀, hv₀, hk, -, rfl, -⟩ | ⟨-, v₀, hv₀, rfl⟩
    · have hs : s ∈ m.keys := SortedMap.mem_keys.mpr (by simp [hv₀])
      obtain rfl : s = k := (hm s hs).symm.trans hk
      simp [hv₀]
    · simp [hv₀]
  · obtain ⟨v₀, hv₀, rfl⟩ := Option.map_eq_some_iff.mp h
    have hkey : k ∈ m.keys := SortedMap.mem_keys.mpr (by simp [hv₀])
    have hout : k ∈ (canonicalizeKeyed fix m).keys := mem_keys_canonicalizeKeyed.mpr ⟨k, hkey, hm k hkey⟩
    obtain ⟨v, hv⟩ := Option.isSome_iff_exists.mp (SortedMap.mem_keys.mp hout)
    rcases canonicalizeKeyed_record hv with ⟨s, v₁, hv₁, hk, hs, -, -⟩ | ⟨-, v₁, hv₁, rfl⟩
    · have hplain := hm s (SortedMap.mem_keys.mpr (by simp [hv₁]))
      simp [isSuffixedHwmonId, hplain] at hs
    · rw [hv]
      rw [hv₀] at hv₁
      rw [Option.some.inj hv₁]

theorem canonicalizeKeyed_idem {fix : String → V → V} (hfix : ∀ k v, fix k (fix k v) = fix k v) (m : SortedMap String V) :
    canonicalizeKeyed fix (canonicalizeKeyed fix m) = canonicalizeKeyed fix m := by
  refine SortedMap.ext fun k => ?_
  have hcanonical : ∀ s ∈ (canonicalizeKeyed fix m).keys, canonicalHwmonId s = s := by
    intro s hs
    obtain ⟨s', -, rfl⟩ := mem_keys_canonicalizeKeyed.mp hs
    exact canonicalHwmonId_canonicalHwmonId s'
  rw [canonicalizeKeyed_canonical hcanonical]
  cases hv : (canonicalizeKeyed fix m).get? k with
  | none => rfl
  | some v =>
    have hfixed : ∃ v₀, v = fix k v₀ := by
      rcases canonicalizeKeyed_record hv with ⟨_, v₀, -, -, -, hv, -⟩ | ⟨-, v₀, -, hv⟩
      · exact ⟨v₀, hv⟩
      · exact ⟨v₀, hv⟩
    obtain ⟨v₀, rfl⟩ := hfixed
    simp [hfix]

/-! ## Dropping what is gone -/

/-- A header is gone when its chip was seen without it, or when its id is no hwmon id and anything was seen. -/
def Gone (live : List String) (k : String) : Prop :=
  k ∉ live ∧ ((hwmonIdChip k = none ∧ live ≠ []) ∨ ∃ chip, hwmonIdChip k = some chip ∧ ∃ h ∈ live, hwmonIdChip h = some chip)

theorem get?_pruneToLiveChips (m : SortedMap String V) (live : List String) (k : String) :
    (Gone live k → (pruneToLiveChips m live).1.get? k = none) ∧
      (¬ Gone live k → (pruneToLiveChips m live).1.get? k = m.get? k) := by
  by_cases hempty : live = []
  · subst hempty
    exact ⟨by simp [Gone], fun _ => by simp [pruneToLiveChips]⟩
  · have hne : live.isEmpty = false := by simpa using hempty
    have hget : (pruneToLiveChips m live).1.get? k = (m.get? k).filter fun _ =>
        live.contains k || (hwmonIdChip k).any fun chip => !(live.filterMap hwmonIdChip).contains chip := by
      simp [pruneToLiveChips, hne]
    have hkeep : (live.contains k || (hwmonIdChip k).any fun chip => !(live.filterMap hwmonIdChip).contains chip) = false ↔
        Gone live k := by
      unfold Gone
      cases hwmonIdChip k with
      | none => simp [hempty]
      | some chip => simp [hempty]
    rw [hget]
    constructor
    · intro h
      rw [hkeep.mpr h]
      cases m.get? k <;> rfl
    · intro h
      rw [Bool.eq_true_of_not_eq_false fun hf => h (hkeep.mp hf)]
      cases m.get? k <;> rfl

theorem pruneToLiveChips_idem (m : SortedMap String V) (live : List String) :
    pruneToLiveChips (pruneToLiveChips m live).1 live = ((pruneToLiveChips m live).1, 0) := by
  have hsame : (pruneToLiveChips (pruneToLiveChips m live).1 live).1 = (pruneToLiveChips m live).1 := by
    refine SortedMap.ext fun k => ?_
    by_cases hg : Gone live k
    · rw [(get?_pruneToLiveChips _ live k).1 hg, (get?_pruneToLiveChips m live k).1 hg]
    · exact (get?_pruneToLiveChips _ live k).2 hg
  refine Prod.ext hsame ?_
  by_cases hempty : live.isEmpty = true
  · simp [pruneToLiveChips, hempty]
  · have hcount (m : SortedMap String V) : (pruneToLiveChips m live).2 =
        m.entries.length - (pruneToLiveChips m live).1.entries.length := by simp [pruneToLiveChips, hempty]
    rw [hcount, hsame, Nat.sub_self]

/-- Keying a store again and then pruning it keeps every live header's record, under whichever spelling it was saved. -/
theorem chip_records (fix : String → V → V) (m : SortedMap String V) (live : List String) :
    let keyed := canonicalizeKeyed fix m
    let loaded := (pruneToLiveChips keyed live).1
    (∀ k, k ∈ keyed.keys ↔ ∃ s ∈ m.keys, canonicalHwmonId s = k) ∧
      (∀ k v, keyed.get? k = some v →
        (∃ s v₀, m.get? s = some v₀ ∧ canonicalHwmonId s = k ∧ isSuffixedHwmonId s = true ∧ v = fix k v₀ ∧
            ∀ s' ∈ m.keys, canonicalHwmonId s' = k → isSuffixedHwmonId s' = true → s ≤ s') ∨
          ((∀ s ∈ m.keys, canonicalHwmonId s = k → isSuffixedHwmonId s = false) ∧
            ∃ v₀, m.get? k = some v₀ ∧ v = fix k v₀)) ∧
      ((∀ k v, fix k (fix k v) = fix k v) → canonicalizeKeyed fix keyed = keyed) ∧
      (∀ k, (Gone live k → (pruneToLiveChips m live).1.get? k = none) ∧
        (¬ Gone live k → (pruneToLiveChips m live).1.get? k = m.get? k)) ∧
      pruneToLiveChips (pruneToLiveChips m live).1 live = ((pruneToLiveChips m live).1, 0) ∧
      (∀ h ∈ live, (pruneToLiveChips m live).1.get? h = m.get? h) ∧
      pruneToLiveChips m [] = (m, 0) ∧
      (∀ h ∈ live, (∃ s ∈ m.keys, canonicalHwmonId s = h) → (loaded.get? h).isSome ∧ loaded.get? h = keyed.get? h) ∧
      (∀ h ∈ live, ∀ s v, canonicalHwmonId s = h → m.get? s = some v → (∀ s' ∈ m.keys, canonicalHwmonId s' = h → s' = s) →
        loaded.get? h = some (fix h v)) := by
  intro keyed loaded
  have hlive (m : SortedMap String V) : ∀ h ∈ live, (pruneToLiveChips m live).1.get? h = m.get? h := fun h hh =>
    (get?_pruneToLiveChips m live h).2 fun hg => hg.1 hh
  have hkept : ∀ h ∈ live, (∃ s ∈ m.keys, canonicalHwmonId s = h) →
      (loaded.get? h).isSome ∧ loaded.get? h = keyed.get? h := by
    intro h hh hs
    rw [hlive keyed h hh]
    exact ⟨SortedMap.mem_keys.mp (mem_keys_canonicalizeKeyed.mpr hs), rfl⟩
  refine ⟨fun k => mem_keys_canonicalizeKeyed, fun k v => canonicalizeKeyed_record, fun hfix => canonicalizeKeyed_idem hfix m,
    get?_pruneToLiveChips m live, pruneToLiveChips_idem m live, hlive m, rfl, hkept, fun h hh s v hs hv honly => ?_⟩
  have hkey : s ∈ m.keys := SortedMap.mem_keys.mpr (by simp [hv])
  obtain ⟨hsome, hsame⟩ := hkept h hh ⟨s, hkey, hs⟩
  obtain ⟨w, hw⟩ := Option.isSome_iff_exists.mp hsome
  have hrecord : ∃ s' v₀, m.get? s' = some v₀ ∧ canonicalHwmonId s' = h ∧ w = fix h v₀ := by
    rcases canonicalizeKeyed_record (hsame ▸ hw) with ⟨s', v₀, hv₀, hs', -, hw₀, -⟩ | ⟨-, v₀, hv₀, hw₀⟩
    · exact ⟨s', v₀, hv₀, hs', hw₀⟩
    · exact ⟨h, v₀, hv₀, hs ▸ canonicalHwmonId_canonicalHwmonId s, hw₀⟩
  obtain ⟨s', v₀, hv₀, hs', rfl⟩ := hrecord
  obtain rfl : s' = s := honly s' (SortedMap.mem_keys.mpr (by simp [hv₀])) hs'
  obtain rfl : v₀ = v := Option.some.inj (hv₀.symm.trans hv)
  exact hw

end ControlOfc.Hwmon
