import ControlOfc.Config.HeaderRoles
/-! # Cooling devices (hwmon/cooling_device.rs)

The device table of `runtime.toml` as the daemon reads it: ids canonical, unusable devices dropped, at most
`maxCoolingDevices` of them. `CoolingDevices` is a table that is already so; reading one again gives it
back, which is what lets the daemon write its own table over a file it cannot read.
-/
namespace ControlOfc.Config
open Profile

/-- `MAX_COOLING_DEVICES` (cooling_device.rs:46). -/
def maxCoolingDevices : Nat := 16

/-- `MAX_MEMBERS_PER_LIST` (cooling_device.rs:49). -/
def maxMembersPerList : Nat := 32

/-- `MAX_DEVICE_ID_BYTES` (cooling_device.rs:52). -/
def maxDeviceIdBytes : Nat := 64

/-- `MAX_DEVICE_TEXT_BYTES` (cooling_device.rs:59). -/
def maxDeviceTextBytes : Nat := 256

/-- `CoolingDeviceConfig` (cooling_device.rs:106). -/
structure CoolingDevice where
  id : String
  name : String
  kind : String
  pumpMember : Option String
  radiatorMembers : List String
  auxiliaryMembers : List String
  preferredSensor : Option String
  fallbackSensor : Option String
  coolantSensor : Option String
  devicePolicyId : String
  deriving DecidableEq, Repr

/-- `all_members` (cooling_device.rs:161). -/
def CoolingDevice.allMembers (d : CoolingDevice) : List String :=
  d.pumpMember.toList ++ d.radiatorMembers ++ d.auxiliaryMembers

/-- Whether `validate_device` (cooling_device.rs:231) accepts a device. -/
def validateDevice (d : CoolingDevice) : Bool :=
  !d.id.isEmpty && d.id.utf8ByteSize ≤ maxDeviceIdBytes &&
    (d.id.toList.all fun c => c.isAlphanum || c == '-' || c == '_' || c == '.') && d.id != "." && d.id != ".." &&
    ([d.name, d.kind, d.devicePolicyId] ++ d.preferredSensor.toList ++ d.fallbackSensor.toList ++
      d.coolantSensor.toList).all (fun s => s.utf8ByteSize ≤ maxDeviceTextBytes) &&
    d.radiatorMembers.length ≤ maxMembersPerList && d.auxiliaryMembers.length ≤ maxMembersPerList &&
    (d.allMembers.all fun m => !m.isEmpty && m.utf8ByteSize ≤ maxDeviceTextBytes) && decide d.allMembers.Nodup

/-- `is_suffixed_hwmon_id` (hwmon/chip_name.rs:124). -/
def isSuffixedHwmonId (id : String) : Bool := canonicalHwmonId id != id

/-- One round of the loop in `canon_list`: an id that is there already is left out. -/
def pushNew {α : Type} [DecidableEq α] (out : List α) (a : α) : List α := if a ∈ out then out else out ++ [a]

/-- `canonicalize_ids` (cooling_device.rs:323). -/
def canonicalizeIds (d : CoolingDevice) : CoolingDevice :=
  let claimedBySuffixed := (d.allMembers.filter isSuffixedHwmonId).map canonicalHwmonId
  -- a bare spelling yields to a suffixed spelling of the same header
  let keep m := isSuffixedHwmonId m || !claimedBySuffixed.contains m
  let canonList (l : List String) := ((l.filter keep).map canonicalHwmonId).foldl pushNew []
  { d with
    pumpMember := (d.pumpMember.filter keep).map canonicalHwmonId
    radiatorMembers := canonList d.radiatorMembers
    auxiliaryMembers := canonList d.auxiliaryMembers
    preferredSensor := d.preferredSensor.map canonicalHwmonId
    fallbackSensor := d.fallbackSensor.map canonicalHwmonId
    coolantSensor := d.coolantSensor.map canonicalHwmonId }

/-- One round of the loop in `sanitize`; a full table stays as it is. -/
def keepDevice (out : List CoolingDevice) (d : CoolingDevice) : List CoolingDevice :=
  if out.length ≥ maxCoolingDevices then out
  else if validateDevice d && !(out.any fun d' => d'.id == d.id) then out ++ [d]
  else out

/-- `sanitize` (cooling_device.rs:358). -/
def sanitize (devices : List CoolingDevice) : List CoolingDevice := devices.foldl keepDevice []

/-! ## Reading a clean table gives it back -/

section PushNew
variable {α : Type} [DecidableEq α]

theorem foldl_pushNew_eq (acc l : List α) (h : (acc ++ l).Nodup) : l.foldl pushNew acc = acc ++ l := by
  induction l generalizing acc with
  | nil => simp
  | cons a l ih =>
    have hnot : a ∉ acc := by
      intro ha
      have := (List.nodup_append.mp h).2.2 a ha a List.mem_cons_self
      exact this rfl
    rw [List.foldl_cons, pushNew, if_neg hnot, ih _ (by simpa using h)]
    simp

theorem foldl_pushNew_nodup (acc l : List α) (h : acc.Nodup) : (l.foldl pushNew acc).Nodup := by
  induction l generalizing acc with
  | nil => exact h
  | cons a l ih =>
    rw [List.foldl_cons]
    apply ih
    unfold pushNew
    split
    · exact h
    · rename_i ha
      exact List.nodup_append.mpr ⟨h, List.nodup_singleton a, by simp only [List.mem_singleton]; rintro b hb _ rfl rfl; exact ha hb⟩

theorem mem_foldl_pushNew {acc l : List α} {a : α} (h : a ∈ l.foldl pushNew acc) : a ∈ acc ∨ a ∈ l := by
  induction l generalizing acc with
  | nil => exact .inl h
  | cons b l ih =>
    rcases ih h with hacc | hl
    · unfold pushNew at hacc
      split at hacc
      · exact .inl hacc
      · rcases List.mem_append.mp hacc with hacc | hb
        · exact .inl hacc
        · rw [List.mem_singleton.mp hb]
          exact .inr List.mem_cons_self
    · exact .inr (List.mem_cons_of_mem b hl)

end PushNew

theorem canonical_mem_canonList {l : List String} {p : String → Bool} {m : String}
    (h : m ∈ ((l.filter p).map canonicalHwmonId).foldl pushNew []) : canonicalHwmonId m = m := by
  rcases mem_foldl_pushNew h with h | h
  · cases h
  · obtain ⟨m', -, rfl⟩ := List.mem_map.mp h
    exact canonicalHwmonId_canonicalHwmonId m'

theorem canonical_mem_canonicalizeIds {d : CoolingDevice} {m : String} (h : m ∈ (canonicalizeIds d).allMembers) :
    canonicalHwmonId m = m := by
  simp only [CoolingDevice.allMembers, canonicalizeIds, List.mem_append, Option.mem_toList, Option.map_eq_some_iff] at h
  rcases h with (⟨m', -, rfl⟩ | h) | h
  · exact canonicalHwmonId_canonicalHwmonId m'
  · exact canonical_mem_canonList h
  · exact canonical_mem_canonList h

/-- Nothing to change in a device whose ids are canonical and listed once. -/
theorem canonicalizeIds_eq_self {d : CoolingDevice} (hm : ∀ m ∈ d.allMembers, canonicalHwmonId m = m)
    (hr : d.radiatorMembers.Nodup) (ha : d.auxiliaryMembers.Nodup)
    (hp : d.preferredSensor.map canonicalHwmonId = d.preferredSensor)
    (hf : d.fallbackSensor.map canonicalHwmonId = d.fallbackSensor)
    (hc : d.coolantSensor.map canonicalHwmonId = d.coolantSensor) : canonicalizeIds d = d := by
  have hclaimed : d.allMembers.filter isSuffixedHwmonId = [] := by
    rw [List.filter_eq_nil_iff]
    intro m hmem
    simp [isSuffixedHwmonId, hm m hmem]
  have hlist : ∀ l : List String, l.Nodup → (∀ m ∈ l, canonicalHwmonId m = m) →
      (l.map canonicalHwmonId).foldl pushNew [] = l := by
    intro l hl hcanon
    rw [List.map_congr_left hcanon, List.map_id', foldl_pushNew_eq [] l (by simpa using hl)]
    rfl
  have hpump : d.pumpMember.map canonicalHwmonId = d.pumpMember := by
    cases hd : d.pumpMember with
    | none => rfl
    | some m => rw [Option.map_some, hm m (by simp [CoolingDevice.allMembers, hd])]
  have hrad : (d.radiatorMembers.map canonicalHwmonId).foldl pushNew [] = d.radiatorMembers :=
    hlist _ hr fun m hmem => hm m (by simp [CoolingDevice.allMembers, hmem])
  have haux : (d.auxiliaryMembers.map canonicalHwmonId).foldl pushNew [] = d.auxiliaryMembers :=
    hlist _ ha fun m hmem => hm m (by simp [CoolingDevice.allMembers, hmem])
  have hpick : d.pumpMember.filter (fun _ => true) = d.pumpMember := by
    cases d.pumpMember <;> rfl
  simp [canonicalizeIds, hclaimed, hpick, hpump, hrad, haux, hp, hf, hc]

@[simp] theorem canonicalizeIds_canonicalizeIds (d : CoolingDevice) :
    canonicalizeIds (canonicalizeIds d) = canonicalizeIds d := by
  have htwice : ∀ o : Option String, (o.map canonicalHwmonId).map canonicalHwmonId = o.map canonicalHwmonId := by
    intro o
    cases o <;> simp
  exact canonicalizeIds_eq_self (fun m h => canonical_mem_canonicalizeIds h) (foldl_pushNew_nodup [] _ List.nodup_nil)
    (foldl_pushNew_nodup [] _ List.nodup_nil) (htwice _) (htwice _) (htwice _)

/-- A table `sanitize` leaves as it is. -/
structure Clean (l : List CoolingDevice) : Prop where
  size : l.length ≤ maxCoolingDevices
  valid : ∀ d ∈ l, validateDevice d = true
  ids : (l.map CoolingDevice.id).Nodup

theorem clean_nil : Clean [] := ⟨Nat.zero_le _, nofun, List.nodup_nil⟩

theorem Clean.keepDevice {out : List CoolingDevice} (h : Clean out) (d : CoolingDevice) : Clean (keepDevice out d) := by
  unfold Config.keepDevice
  split
  · exact h
  · rename_i hsize
    split
    · rename_i hd
      simp only [Bool.and_eq_true, Bool.not_eq_true', List.any_eq_false, beq_iff_eq] at hd
      refine ⟨?_, ?_, ?_⟩
      · rw [List.length_append, List.length_singleton]
        omega
      · intro d' hd'
        rcases List.mem_append.mp hd' with hd' | hd'
        · exact h.valid d' hd'
        · rw [List.mem_singleton.mp hd']
          exact hd.1
      · rw [List.map_append, List.map_singleton, List.nodup_append]
        refine ⟨h.ids, List.nodup_singleton _, ?_⟩
        intro i hi j hj
        obtain ⟨d', hd', rfl⟩ := List.mem_map.mp hi
        rw [List.mem_singleton.mp hj]
        exact hd.2 d' hd'
    · exact h

theorem clean_sanitize (l : List CoolingDevice) : Clean (sanitize l) := by
  have : ∀ (l out : List CoolingDevice), Clean out → Clean (l.foldl keepDevice out) := by
    intro l
    induction l with
    | nil => exact fun _ h => h
    | cons d l ih => exact fun out h => ih _ (h.keepDevice d)
  exact this l [] clean_nil

theorem foldl_keepDevice_eq (out l : List CoolingDevice) (h : Clean (out ++ l)) : l.foldl keepDevice out = out ++ l := by
  induction l generalizing out with
  | nil => simp
  | cons d l ih =>
    have hsize := h.size
    have hids := h.ids
    simp only [List.length_append, List.length_cons] at hsize
    simp only [List.map_append, List.map_cons, List.nodup_append] at hids
    have hnew : (out.any fun d' => d'.id == d.id) = false := by
      simp only [List.any_eq_false, beq_iff_eq]
      intro d' hd'
      exact hids.2.2 d'.id (List.mem_map_of_mem hd') d.id List.mem_cons_self
    have hkeep : keepDevice out d = out ++ [d] := by
      rw [keepDevice, if_neg (by omega), h.valid d (by simp), hnew]
      rfl
    rw [List.foldl_cons, hkeep, ih _ (by simpa using h)]
    simp

theorem sanitize_of_clean {l : List CoolingDevice} (h : Clean l) : sanitize l = l := foldl_keepDevice_eq [] l h

theorem mem_of_mem_sanitize {l : List CoolingDevice} {d : CoolingDevice} (h : d ∈ sanitize l) : d ∈ l := by
  have : ∀ (l out : List CoolingDevice), d ∈ l.foldl keepDevice out → d ∈ out ∨ d ∈ l := by
    intro l
    induction l with
    | nil => exact fun _ h => .inl h
    | cons d' l ih =>
      intro out h
      rcases ih _ h with h | h
      · unfold Config.keepDevice at h
        split at h
        · exact .inl h
        · split at h
          · rcases List.mem_append.mp h with h | h
            · exact .inl h
            · rw [List.mem_singleton.mp h]
              exact .inr List.mem_cons_self
          · exact .inl h
      · exact .inr (List.mem_cons_of_mem _ h)
  exact (this l [] h).resolve_left nofun

/-- A device table as the daemon holds it: reading it again gives it back. -/
structure CoolingDevices where
  list : List CoolingDevice
  clean : sanitize (list.map canonicalizeIds) = list

/-- `RuntimeConfig::cooling_devices` (runtime_config.rs:753). -/
def coolingDevices (saved : List CoolingDevice) : CoolingDevices where
  list := sanitize (saved.map canonicalizeIds)
  clean := by
    have hcanon : (sanitize (saved.map canonicalizeIds)).map canonicalizeIds = sanitize (saved.map canonicalizeIds) := by
      have hself : ∀ d ∈ sanitize (saved.map canonicalizeIds), canonicalizeIds d = d := by
        intro d hd
        obtain ⟨d', -, rfl⟩ := List.mem_map.mp (mem_of_mem_sanitize hd)
        exact canonicalizeIds_canonicalizeIds d'
      rw [List.map_congr_left hself, List.map_id']
    rw [hcanon, sanitize_of_clean (clean_sanitize _)]

theorem coolingDevices_list (devices : CoolingDevices) : coolingDevices devices.list = devices := by
  cases devices with
  | mk list clean =>
    simp only [coolingDevices, CoolingDevices.mk.injEq]
    exact clean

/-! ## Edits -/

/-- `set_cooling_device` (runtime_config.rs:781): `none` when the table is full. -/
def setCoolingDevice (saved : List CoolingDevice) (dev : CoolingDevice) : Option (List CoolingDevice) :=
  match saved.findIdx? fun d => d.id == dev.id with
  | some i => some (saved.set i dev)
  | none => if (coolingDevices saved).list.length ≥ maxCoolingDevices then none else some (saved ++ [dev])

/-- `remove_cooling_device` (runtime_config.rs:797): `none` when there is none. -/
def removeCoolingDevice (saved : List CoolingDevice) (id : String) : Option (List CoolingDevice) :=
  if saved.any fun d => d.id == id then some (saved.filter fun d => d.id != id) else none

/-- The device saved under an id. -/
def findDevice (saved : List CoolingDevice) (id : String) : Option CoolingDevice := saved.find? fun d => d.id == id

theorem findDevice_set {saved : List CoolingDevice} {dev : CoolingDevice} {i : Nat}
    (h : (saved.findIdx? fun d => d.id == dev.id) = some i) (id : String) :
    findDevice (saved.set i dev) id = if id = dev.id then some dev else findDevice saved id := by
  induction saved generalizing i with
  | nil => simp at h
  | cons d saved ih =>
    rw [List.findIdx?_cons] at h
    by_cases hd : d.id = dev.id
    · simp only [hd, beq_self_eq_true, if_true, Option.some.injEq] at h
      subst h
      by_cases hid : id = dev.id
      · simp [findDevice, hid]
      · simp [findDevice, hid, hd, Ne.symm hid]
    · simp only [beq_eq_false_iff_ne.mpr hd, Bool.false_eq_true, if_false, Option.map_eq_some_iff] at h
      obtain ⟨i, hi, rfl⟩ := h
      have htail := ih hi
      simp only [findDevice] at htail
      by_cases hid : d.id = id
      · simp [findDevice, hid, hid ▸ hd]
      · simp [findDevice, hid, htail]

theorem findDevice_setCoolingDevice {saved saved' : List CoolingDevice} {dev : CoolingDevice}
    (h : setCoolingDevice saved dev = some saved') (id : String) :
    findDevice saved' id = if id = dev.id then some dev else findDevice saved id := by
  unfold setCoolingDevice at h
  split at h
  · rename_i i hi
    rw [← Option.some.inj h]
    exact findDevice_set hi id
  · rename_i hnone
    simp only [Option.ite_none_left_eq_some, Option.some.injEq] at h
    rw [← h.2, findDevice, List.find?_append]
    by_cases hid : id = dev.id
    · subst hid
      have hno : saved.find? (fun d => d.id == dev.id) = none := by
        rw [List.find?_eq_none]
        simpa [List.findIdx?_eq_none_iff] using hnone
      simp [hno]
    · simp [findDevice, hid, Ne.symm hid]

theorem findDevice_removeCoolingDevice {saved saved' : List CoolingDevice} {id : String}
    (h : removeCoolingDevice saved id = some saved') (id' : String) :
    findDevice saved' id' = if id' = id then none else findDevice saved id' := by
  simp only [removeCoolingDevice, Option.ite_none_right_eq_some, Option.some.injEq] at h
  rw [← h.2, findDevice, findDevice]
  by_cases hid : id' = id
  · subst hid
    rw [if_pos rfl, List.find?_eq_none]
    intro d hd
    simpa using (List.mem_filter.mp hd).2
  · rw [if_neg hid, List.find?_filter]
    congr 1
    funext d
    by_cases hd : d.id = id'
    · simp [hd, hid]
    · simp [hd]

end ControlOfc.Config
