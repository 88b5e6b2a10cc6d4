import ControlOfc.Config.CoolingDevice
import Mathlib.Data.List.Dedup
/-! # The runtime configuration and its edits (runtime_config.rs, api/handlers/config.rs)

`RuntimeConfig` is `runtime.toml`, section by section; `Live` is what the running daemon holds of it. An
`Edit` is one accepted request of a `/config/*` route: it changes one key of the config it was given, and
once that is saved it changes the daemon's copy. The settings that wait for a restart have no live copy.
-/
namespace ControlOfc.Config
open Profile

/-- `RuntimeConfig` (runtime_config.rs:30), its sections flattened: a section is present when one of its
keys is. -/
structure RuntimeConfig where
  searchDirs : Option (List String)
  startupDelaySecs : Option Nat
  serialPort : Option String
  serialTimeoutMs : Option Nat
  pollIntervalMs : Option Nat
  allowPortProbe : Option Bool
  enableNvidiaTelemetry : Option Bool
  exitFloorPct : Option Nat
  coolantLimitC : Option Nat
  preferredCpuSensor : Option String
  preferredMbSensor : Option String
  headerRoles : SavedRoles
  coolingDevices : List CoolingDevice

/-- `RuntimeConfig::default`. -/
def RuntimeConfig.default : RuntimeConfig :=
  ⟨none, none, none, none, none, none, none, none, none, none, none, [], []⟩

/-! ## The live copies -/

/-- The role map the engine reads: a hash map, as its entries in some order. -/
structure HeaderRoles where
  entries : List (String × HeaderRole)
  canonical : ∀ e ∈ entries, roleKey e.1 = e.1
  nodup : (entries.map Prod.fst).Nodup

namespace HeaderRoles

def toMap (r : HeaderRoles) : KMap String HeaderRole := KMap.ofList r.entries

/-- What `header_roles_parsed` collects. -/
def ofSaved (saved : SavedRoles) : HeaderRoles where
  entries := (saved.map fun e => roleKey e.1).dedup.filterMap fun k => ((headerRolesParsed saved).get? k).map (k, ·)
  canonical := by
    intro e he
    obtain ⟨k, hk, hr⟩ := List.mem_filterMap.mp he
    obtain ⟨r, -, rfl⟩ := Option.map_eq_some_iff.mp hr
    obtain ⟨e', -, rfl⟩ := List.mem_map.mp (List.mem_dedup.mp hk)
    exact roleKey_roleKey e'.1
  nodup := by
    rw [List.map_filterMap]
    refine List.Nodup.filterMap ?_ (List.nodup_dedup _)
    intro k k' b hb hb'
    simp only [Option.map_map, Option.mem_def, Option.map_eq_some_iff] at hb hb'
    obtain ⟨_, -, rfl⟩ := hb
    obtain ⟨_, -, h⟩ := hb'
    exact h.symm

theorem exists_of_parsed {saved : SavedRoles} {k : String} {r : HeaderRole}
    (h : (headerRolesParsed saved).get? k = some r) : ∃ e ∈ saved, roleKey e.1 = k := by
  by_contra hno
  have hnil : (saved.filter fun e => roleKey e.1 = k) = [] := by
    rw [List.filter_eq_nil_iff]
    intro e he hk
    exact hno ⟨e, he, by simpa using hk⟩
  rw [get?_headerRolesParsed, hnil] at h
  cases h

theorem toMap_ofSaved (saved : SavedRoles) : (ofSaved saved).toMap = headerRolesParsed saved := by
  apply KMap.ext
  intro k
  apply Option.ext
  intro r
  rw [toMap, KMap.get?_ofList_of_nodup (ofSaved saved).nodup]
  simp only [ofSaved, List.mem_filterMap, List.mem_dedup, List.mem_map, Option.map_eq_some_iff, Prod.mk.injEq]
  constructor
  · rintro ⟨k', -, r', hr', rfl, rfl⟩
    exact hr'
  · intro h
    obtain ⟨e, he, hk⟩ := exists_of_parsed h
    exact ⟨k, ⟨e, he, hk⟩, r, h, rfl, rfl⟩

end HeaderRoles

/-- What the daemon runs on: the state's copies of the settings that apply at once. -/
structure Live where
  searchDirs : List String
  headerRoles : HeaderRoles
  coolingDevices : CoolingDevices
  exitFloorPct : Nat
  coolantLimitC : Nat

/-- `carrying` (runtime_config.rs:557): the defaults and the assignments the daemon runs on. -/
def carrying (live : Live) : RuntimeConfig :=
  { RuntimeConfig.default with
    headerRoles := live.headerRoles.entries.foldl (fun saved e => setHeaderRole saved e.1 (some e.2)) []
    coolingDevices := live.coolingDevices.list }

/-- The file and the daemon have the same roles and the same devices. -/
structure Agrees (cfg : RuntimeConfig) (live : Live) : Prop where
  roles : headerRolesParsed cfg.headerRoles = live.headerRoles.toMap
  devices : coolingDevices cfg.coolingDevices = live.coolingDevices

theorem headerRolesParsed_foldl (l : List (String × HeaderRole)) (hl : ∀ e ∈ l, roleKey e.1 = e.1) (saved : SavedRoles) :
    headerRolesParsed (l.foldl (fun saved e => setHeaderRole saved e.1 (some e.2)) saved) =
      l.foldl (fun m e => m.insert e.1 e.2) (headerRolesParsed saved) := by
  induction l generalizing saved with
  | nil => rfl
  | cons e l ih =>
    have hset : headerRolesParsed (setHeaderRole saved e.1 (some e.2)) = (headerRolesParsed saved).insert e.1 e.2 := by
      apply KMap.ext
      intro k
      rw [get?_headerRolesParsed_setHeaderRole, KMap.get?_insert, hl e List.mem_cons_self]
    rw [List.foldl_cons, List.foldl_cons, ih (fun e he => hl e (List.mem_cons_of_mem _ he)), hset]

theorem agrees_carrying (live : Live) : Agrees (carrying live) live where
  roles := by
    rw [carrying, headerRolesParsed_foldl _ live.headerRoles.canonical]
    rfl
  devices := coolingDevices_list live.coolingDevices

/-! ## Search directories (config.rs:84-219) -/

/-- `SYSTEM_PROFILE_DIR` (config.rs). -/
def systemProfileDir : String := "/etc/control-ofc/profiles"

/-- `MAX_PROFILE_SEARCH_DIRS` (constants.rs:1590). -/
def maxProfileSearchDirs : Nat := 32

/-- `MAX_PROFILE_SEARCH_DIRS_PER_USER` (constants.rs:1597). -/
def maxProfileSearchDirsPerUser : Nat := 4

/-- `normalize_lexically` (profile_store.rs:74): `.` components, repeated and trailing separators go. -/
def normalizeLexically (path : String) : String :=
  let pieces := path.splitOn "/"
  let parts := pieces.filter fun s => s != "" && s != "."
  if path.startsWith "/" then "/" ++ "/".intercalate parts
  else "/".intercalate (if pieces.head? = some "." then "." :: parts else parts)

/-- `dir_key` (config.rs:86). -/
def dirKey (dir : String) : String := normalizeLexically dir

/-- `is_system_dir` (config.rs:90). -/
def isSystemDir (dir : String) : Bool := dirKey dir == systemProfileDir

/-- `system_dir_protected` (config.rs:94). -/
def systemDirProtected : String := "the system profile directory cannot be removed: " ++ systemProfileDir

/-- `merge_search_dirs` (config.rs:172). -/
def mergeSearchDirs (current add remove : List String) (storeDir : Option String) : Except String (List String) :=
  let removed := remove.map dirKey
  if current.any fun d => removed.contains (dirKey d) && isSystemDir d then .error systemDirProtected
  else
    let kept := current.filter fun d => !removed.contains (dirKey d)
    let merged := add.foldl (fun merged d => if merged.any fun m => dirKey m == dirKey d then merged else merged ++ [dirKey d]) kept
    if merged.length > maxProfileSearchDirs ∧ merged.length > current.length then
      .error ("at most " ++ toString maxProfileSearchDirs ++
        " profile search directories can be registered; remove one first")
    else if merged.isEmpty then
      .error ("at least one profile search directory must remain; refusing an edit that " ++
        "would empty the search path")
    else
      match storeDir with
      | some store =>
        if merged.head? ≠ some store then
          .error ("the daemon's profile store directory must remain first in the " ++
            "search path and cannot be removed or displaced: " ++ store)
        else .ok merged
      | none => .ok merged

/-- `within_user_share` (config.rs:107); `who` is what lies in the caller's home, `none` for root. -/
def withinUserShare (current merged : List String) (who : Option (String → Bool)) : Except String (List String) :=
  match who with
  | none => .ok merged
  | some permits =>
    if merged.countP permits > maxProfileSearchDirsPerUser ∧ merged.countP permits > current.countP permits then
      .error ("at most " ++ toString maxProfileSearchDirsPerUser ++
        " profile search directories inside your home can be registered; remove one first")
    else .ok merged

/-! ## Edits -/

/-- A setting that waits for a restart. -/
inductive RestartSetting where
  | startupDelay (secs : Nat)
  | pollInterval (ms : Nat)
  | serialPort (port : Option String)
  | serialTimeout (ms : Nat)
  | allowPortProbe (enabled : Bool)
  | nvidiaTelemetry (enabled : Bool)
  | preferredCpuSensor (id : Option String)
  | preferredMbSensor (id : Option String)

/-- A request that passed the checks its handler makes before it takes `config_write`. -/
inductive Edit where
  | searchDirs (add remove : List String) (who : Option (String → Bool))
  | headerRole (headerId : String) (role : Option HeaderRole)
  | setDevice (dev : CoolingDevice)
  | removeDevice (id : String)
  | exitFloor (pct : Nat)
  | coolantLimit (limitC : Nat)
  | atRestart (s : RestartSetting)

/-- Why a handler turns an edit away under the lock. -/
inductive Refusal where
  | validation (message : String)
  | alreadyExists (message : String)
  | notFound (message : String)
  deriving DecidableEq, Repr

/-- What the search-directory handler merges (config.rs:369): the delta applied to the live list. -/
def mergedDirs (live : Live) (add remove : List String) (who : Option (String → Bool)) : Except String (List String) := do
  let merged ← mergeSearchDirs live.searchDirs add remove live.searchDirs.head?
  withinUserShare live.searchDirs merged who

/-- One setter's change of the loaded config. -/
def Edit.apply (e : Edit) (live : Live) (cfg : RuntimeConfig) : Except Refusal RuntimeConfig :=
  match e with
  | .searchDirs add remove who =>
    match mergedDirs live add remove who with
    | .ok merged => .ok { cfg with searchDirs := some merged }
    | .error message => .error (.validation message)
  | .headerRole headerId role => .ok { cfg with headerRoles := setHeaderRole cfg.headerRoles (roleKey headerId) role }
  | .setDevice dev =>
    match setCoolingDevice cfg.coolingDevices dev with
    | some coolingDevices => .ok { cfg with coolingDevices }
    | none => .error (.alreadyExists ("cooling device limit reached (" ++ toString maxCoolingDevices ++ ")"))
  | .removeDevice id =>
    match removeCoolingDevice cfg.coolingDevices id with
    | some coolingDevices => .ok { cfg with coolingDevices }
    | none => .error (.notFound ("no cooling device with id: " ++ id))
  | .exitFloor pct => .ok { cfg with exitFloorPct := some pct }
  | .coolantLimit limitC => .ok { cfg with coolantLimitC := some limitC }
  | .atRestart (.startupDelay secs) => .ok { cfg with startupDelaySecs := some secs }
  | .atRestart (.pollInterval ms) => .ok { cfg with pollIntervalMs := some ms }
  | .atRestart (.serialPort port) => .ok { cfg with serialPort := port }
  | .atRestart (.serialTimeout ms) => .ok { cfg with serialTimeoutMs := some ms }
  | .atRestart (.allowPortProbe enabled) => .ok { cfg with allowPortProbe := some enabled }
  | .atRestart (.nvidiaTelemetry enabled) => .ok { cfg with enableNvidiaTelemetry := some enabled }
  | .atRestart (.preferredCpuSensor id) => .ok { cfg with preferredCpuSensor := id.map canonicalHwmonId }
  | .atRestart (.preferredMbSensor id) => .ok { cfg with preferredMbSensor := id.map canonicalHwmonId }

/-- What the setter puts in force once its config is saved. -/
def Edit.commit (e : Edit) (saved : RuntimeConfig) (live : Live) : Live :=
  match e with
  | .searchDirs .. => { live with searchDirs := saved.searchDirs.getD live.searchDirs }
  | .headerRole .. => { live with headerRoles := .ofSaved saved.headerRoles }
  | .setDevice _ | .removeDevice _ => { live with coolingDevices := coolingDevices saved.coolingDevices }
  | .exitFloor pct => { live with exitFloorPct := pct }
  | .coolantLimit limitC => { live with coolantLimitC := limitC }
  | .atRestart _ => live

/-! ## Keys and their values -/

/-- The keys an edit can be about. -/
inductive Key where
  | searchDirs
  | headerRole (id : String)
  | coolingDevice (id : String)
  | exitFloor
  | coolantLimit
  | startupDelay
  | pollInterval
  | serialPort
  | serialTimeout
  | allowPortProbe
  | nvidiaTelemetry
  | preferredCpuSensor
  | preferredMbSensor
  deriving DecidableEq, Repr

/-- What a key holds. -/
inductive Value where
  | dirs (v : Option (List String))
  | role (v : Option HeaderRole)
  | device (v : Option CoolingDevice)
  | number (v : Option Nat)
  | text (v : Option String)
  | flag (v : Option Bool)
  deriving DecidableEq, Repr

def RestartSetting.key : RestartSetting → Key
  | .startupDelay _ => .startupDelay
  | .pollInterval _ => .pollInterval
  | .serialPort _ => .serialPort
  | .serialTimeout _ => .serialTimeout
  | .allowPortProbe _ => .allowPortProbe
  | .nvidiaTelemetry _ => .nvidiaTelemetry
  | .preferredCpuSensor _ => .preferredCpuSensor
  | .preferredMbSensor _ => .preferredMbSensor

def Edit.key : Edit → Key
  | .searchDirs .. => .searchDirs
  | .headerRole headerId _ => .headerRole (roleKey headerId)
  | .setDevice dev => .coolingDevice dev.id
  | .removeDevice id => .coolingDevice id
  | .exitFloor _ => .exitFloor
  | .coolantLimit _ => .coolantLimit
  | .atRestart s => s.key

/-- What an edit asks for its key. -/
def Edit.asks (e : Edit) (live : Live) : Value :=
  match e with
  | .searchDirs add remove who => .dirs (mergedDirs live add remove who).toOption
  | .headerRole _ role => .role role
  | .setDevice dev => .device (some dev)
  | .removeDevice _ => .device none
  | .exitFloor pct => .number (some pct)
  | .coolantLimit limitC => .number (some limitC)
  | .atRestart (.startupDelay secs) => .number (some secs)
  | .atRestart (.pollInterval ms) => .number (some ms)
  | .atRestart (.serialPort port) => .text port
  | .atRestart (.serialTimeout ms) => .number (some ms)
  | .atRestart (.allowPortProbe enabled) => .flag (some enabled)
  | .atRestart (.nvidiaTelemetry enabled) => .flag (some enabled)
  | .atRestart (.preferredCpuSensor id) => .text (id.map canonicalHwmonId)
  | .atRestart (.preferredMbSensor id) => .text (id.map canonicalHwmonId)

/-- What the file holds under a key. -/
def RuntimeConfig.valueAt (cfg : RuntimeConfig) : Key → Value
  | .searchDirs => .dirs cfg.searchDirs
  | .headerRole id => .role ((headerRolesParsed cfg.headerRoles).get? id)
  | .coolingDevice id => .device (findDevice cfg.coolingDevices id)
  | .exitFloor => .number cfg.exitFloorPct
  | .coolantLimit => .number cfg.coolantLimitC
  | .startupDelay => .number cfg.startupDelaySecs
  | .pollInterval => .number cfg.pollIntervalMs
  | .serialPort => .text cfg.serialPort
  | .serialTimeout => .number cfg.serialTimeoutMs
  | .allowPortProbe => .flag cfg.allowPortProbe
  | .nvidiaTelemetry => .flag cfg.enableNvidiaTelemetry
  | .preferredCpuSensor => .text cfg.preferredCpuSensor
  | .preferredMbSensor => .text cfg.preferredMbSensor

/-- What the daemon runs on under a key; `none` where it waits for a restart. The device table is read as a
whole (`Agrees`). -/
def Live.valueAt (live : Live) : Key → Option Value
  | .searchDirs => some (.dirs (some live.searchDirs))
  | .headerRole id => some (.role (live.headerRoles.toMap.get? id))
  | .exitFloor => some (.number (some live.exitFloorPct))
  | .coolantLimit => some (.number (some live.coolantLimitC))
  | _ => none

/-! ## What an edit does to the file and to the daemon -/

section Laws
variable {e : Edit} {live : Live} {cfg cfg' : RuntimeConfig} {k : Key}

theorem apply_searchDirs {add remove : List String} {who : Option (String → Bool)}
    (h : (Edit.searchDirs add remove who).apply live cfg = .ok cfg') :
    ∃ merged, mergedDirs live add remove who = .ok merged ∧ cfg' = { cfg with searchDirs := some merged } := by
  simp only [Edit.apply] at h
  split at h
  · rename_i merged hm
    exact ⟨merged, hm, by simpa using h.symm⟩
  · cases h

theorem apply_setDevice {dev : CoolingDevice} (h : (Edit.setDevice dev).apply live cfg = .ok cfg') :
    ∃ saved, setCoolingDevice cfg.coolingDevices dev = some saved ∧ cfg' = { cfg with coolingDevices := saved } := by
  simp only [Edit.apply] at h
  split at h
  · rename_i saved hs
    exact ⟨saved, hs, by simpa using h.symm⟩
  · cases h

theorem apply_removeDevice {id : String} (h : (Edit.removeDevice id).apply live cfg = .ok cfg') :
    ∃ saved, removeCoolingDevice cfg.coolingDevices id = some saved ∧ cfg' = { cfg with coolingDevices := saved } := by
  simp only [Edit.apply] at h
  split at h
  · rename_i saved hs
    exact ⟨saved, hs, by simpa using h.symm⟩
  · cases h

/-- An accepted edit puts under its key what it asks for, and leaves every other key alone. -/
theorem valueAt_apply (h : e.apply live cfg = .ok cfg') (k : Key) :
    cfg'.valueAt k = if k = e.key then e.asks live else cfg.valueAt k := by
  cases e with
  | searchDirs add remove who =>
    obtain ⟨merged, hm, rfl⟩ := apply_searchDirs h
    cases k <;> simp [RuntimeConfig.valueAt, Edit.key, Edit.asks, hm, Except.toOption]
  | headerRole headerId role =>
    cases h
    cases k <;> simp [RuntimeConfig.valueAt, Edit.key, Edit.asks]
    rw [get?_headerRolesParsed_setHeaderRole, roleKey_roleKey]
    split <;> rfl
  | setDevice dev =>
    obtain ⟨saved, hs, rfl⟩ := apply_setDevice h
    cases k <;> simp [RuntimeConfig.valueAt, Edit.key, Edit.asks]
    rw [findDevice_setCoolingDevice hs]
    split <;> rfl
  | removeDevice id =>
    obtain ⟨saved, hs, rfl⟩ := apply_removeDevice h
    cases k <;> simp [RuntimeConfig.valueAt, Edit.key, Edit.asks]
    rw [findDevice_removeCoolingDevice hs]
    split <;> rfl
  | exitFloor pct =>
    cases h
    cases k <;> simp [RuntimeConfig.valueAt, Edit.key, Edit.asks]
  | coolantLimit limitC =>
    cases h
    cases k <;> simp [RuntimeConfig.valueAt, Edit.key, Edit.asks]
  | atRestart s =>
    cases s <;> cases h <;> cases k <;> simp [RuntimeConfig.valueAt, Edit.key, RestartSetting.key, Edit.asks]

/-- Saved and committed, an edit leaves the file and the daemon in agreement. -/
theorem Agrees.commit (hagree : Agrees cfg live) (h : e.apply live cfg = .ok cfg') : Agrees cfg' (e.commit cfg' live) := by
  cases e with
  | searchDirs add remove who =>
    obtain ⟨merged, -, rfl⟩ := apply_searchDirs h
    exact ⟨hagree.roles, hagree.devices⟩
  | headerRole headerId role =>
    cases h
    exact ⟨(HeaderRoles.toMap_ofSaved _).symm, hagree.devices⟩
  | setDevice dev =>
    obtain ⟨saved, -, rfl⟩ := apply_setDevice h
    exact ⟨hagree.roles, rfl⟩
  | removeDevice id =>
    obtain ⟨saved, -, rfl⟩ := apply_removeDevice h
    exact ⟨hagree.roles, rfl⟩
  | exitFloor pct =>
    cases h
    exact ⟨hagree.roles, hagree.devices⟩
  | coolantLimit limitC =>
    cases h
    exact ⟨hagree.roles, hagree.devices⟩
  | atRestart s => cases s <;> cases h <;> exact ⟨hagree.roles, hagree.devices⟩

/-- What is in force after an edit: what it asked for under its key, the rest as before. -/
theorem valueAt_commit (hagree : Agrees cfg live) (h : e.apply live cfg = .ok cfg') {v : Value}
    (hv : (e.commit cfg' live).valueAt k = some v) :
    if k = e.key then v = e.asks live else live.valueAt k = some v := by
  cases e with
  | searchDirs add remove who =>
    obtain ⟨merged, hm, rfl⟩ := apply_searchDirs h
    cases k <;> simp_all [Live.valueAt, Edit.key, Edit.asks, Edit.commit, Except.toOption]
  | headerRole headerId role =>
    cases h
    cases k <;> simp_all [Live.valueAt, Edit.key, Edit.asks, Edit.commit]
    rename_i id
    rw [HeaderRoles.toMap_ofSaved, get?_headerRolesParsed_setHeaderRole, roleKey_roleKey, hagree.roles] at hv
    rw [← hv]
    split <;> rfl
  | setDevice dev => cases k <;> simp_all [Live.valueAt, Edit.key, Edit.commit]
  | removeDevice id => cases k <;> simp_all [Live.valueAt, Edit.key, Edit.commit]
  | exitFloor pct => cases k <;> simp_all [Live.valueAt, Edit.key, Edit.asks, Edit.commit]
  | coolantLimit limitC => cases k <;> simp_all [Live.valueAt, Edit.key, Edit.asks, Edit.commit]
  | atRestart s => cases s <;> cases k <;> simp_all [Live.valueAt, Edit.key, RestartSetting.key, Edit.commit]

end Laws

end ControlOfc.Config
