import ControlOfc.Health.SensorFailure
import ControlOfc.Polling.Loop
/-! # The sensor leg of the poll loop (polling.rs:262-516, health/cache.rs:580, 1466, 1661)

A tick spawns one blocking read, which discovers the sensors first where the loop asks for it; the loop joins
it at this tick or a later one. What is cached is keyed by the id discovery gave: an entry leaves when its id
is quarantined, or when neither the descriptors, nor this tick's readings, nor the exemption for unreadable
chips know it.
-/
namespace ControlOfc.Polling
open Hwmon Health
open Thermal (CpuReading)

/-! ## The cache -/

/-- A reading in the cache, with the instant it was joined. -/
structure CacheEntry where
  reading : Hwmon.SensorReading
  updatedAt : Nat
  deriving DecidableEq, Repr

/-- As the thermal rules take it. -/
def CacheEntry.forThermal (e : CacheEntry) : CachedSensorReading :=
  ⟨⟨e.reading.id, e.reading.kind, .fin e.reading.valueC, e.updatedAt⟩, e.updatedAt⟩

def insertEntry (sensors : List CacheEntry) (e : CacheEntry) : List CacheEntry :=
  sensors.filter (fun x => x.reading.id ≠ e.reading.id) ++ [e]

/-- `update_sensors` (health/cache.rs:580), without the rates and extremes it derives. -/
def updateEntries (sensors readings : List CacheEntry) : List CacheEntry := readings.foldl insertEntry sensors

/-! ## The leg -/

/-- `SENSOR_READ_FAIL_REDISCOVER_STREAK` (constants.rs:166). -/
def sensorReadFailRediscoverStreak : Nat := 5

/-- A temperature NVML reports. -/
structure NvmlTemp where
  pciBdf : String
  tempC : ℚ
  deriving DecidableEq, Repr

/-- `read_nvml_states` (polling.rs:735), as far as it reads temperatures. -/
def readNvmlTemps (nvml : List NvmlTemp) : List Hwmon.SensorReading :=
  nvml.map fun r => ⟨"nvidia_gpu:" ++ r.pciBdf ++ ":temp", .gpuTemp, "GPU", r.tempC, none⟩

/-- `SensorLegResult` (polling.rs), with the tree a discovery went through. -/
structure LegResult where
  found : Option (HwmonTree × SensorDiscovery)
  outcome : SensorReadOutcome

/-- The locals of `hwmon_poll_loop` and what it shares. `lastPass` is carried along: the tree of the latest
discovery joined. -/
structure SensorLoop where
  descriptors : List SensorDescriptor
  protectedIds : List String
  discoveredOnce : Bool
  failureTracker : SensorFailureTracker
  sensorRescan : Bool
  pending : Option (Except String LegResult)
  sensors : List CacheEntry
  lastPass : Option HwmonTree

inductive LoopEvent where
  /-- `POST /hwmon/rescan`. -/
  | rescan
  /-- A tick: the tree, should it discover, and what the files and NVML answer. -/
  | tick (root : Except String HwmonTree) (files : InputPath → TempFile) (nvml : List NvmlTemp)
  /-- The await answers. -/
  | join (now : Nat)
  /-- The read panicked. -/
  | lost

/-- `needs_discovery` (polling.rs:270). -/
def SensorLoop.needsDiscovery (s : SensorLoop) : Bool :=
  !s.discoveredOnce || s.sensorRescan || s.failureTracker.wantsRediscovery || s.descriptors.all (·.kind ≠ .cpuTemp)

/-- Reading a descriptor set, NVML's temperatures after it. -/
def readLeg (files : InputPath → TempFile) (nvml : List NvmlTemp) (descriptors : List SensorDescriptor) :
    SensorReadOutcome :=
  let outcome := readSensorValues files descriptors
  { outcome with readings := outcome.readings ++ readNvmlTemps nvml }

/-- A discovery and the read of what it found. -/
def discoverLeg (boardVendor : String) (tree : HwmonTree) (files : InputPath → TempFile) (nvml : List NvmlTemp) :
    LegResult :=
  let found := discoverSensorsReportingSkips boardVendor tree
  ⟨some (tree, found), readLeg files nvml found.descriptors⟩

/-- The blocking leg (polling.rs:327-341). -/
def SensorLoop.leg (boardVendor : String) (s : SensorLoop) (root : Except String HwmonTree)
    (files : InputPath → TempFile) (nvml : List NvmlTemp) : Except String LegResult :=
  if s.needsDiscovery then root.map fun tree => discoverLeg boardVendor tree files nvml
  else .ok ⟨none, readLeg files nvml s.descriptors⟩

/-- `newly_protected` (polling.rs:393). -/
def newlyProtected (descriptors : List SensorDescriptor) (unreadableDirs : List String) : List String :=
  (descriptors.filter fun d => unreadableDirs.contains d.inputPath.dir).map (·.id)

/-- A discovery taken over (polling.rs:379-417). -/
def SensorLoop.adopt (s : SensorLoop) : Option (HwmonTree × SensorDiscovery) → SensorLoop
  | none => s
  | some (tree, found) =>
    { s with
      protectedIds := newlyProtected s.descriptors found.unreadableDirs
      descriptors := found.descriptors
      discoveredOnce := true
      lastPass := some tree }

/-- The implausibly low readings, moved to the failures (polling.rs:438-444). -/
def credible (outcome : SensorReadOutcome) : SensorReadOutcome :=
  let lowReadings := implausiblyLowCpuReadings outcome.readings
  ⟨outcome.readings.filter fun r => !lowReadings.any (·.id = r.id), outcome.failures ++ lowReadings⟩

/-- The tracker and the cache after the reads (polling.rs:451-513). -/
def SensorLoop.record (s : SensorLoop) (outcome : SensorReadOutcome) (now : Nat) : SensorLoop :=
  let tracker := s.failureTracker.recordTick s.descriptors outcome.failures now
  let cached := outcome.readings.map fun r => (⟨r, now⟩ : CacheEntry)
  let live := s.descriptors.map (·.id) ++ outcome.readings.map (·.id) ++ s.protectedIds
  let sensors := updateEntries s.sensors cached
  let sensors := sensors.filter fun e => !tracker.unavailable.any (·.id = e.reading.id)
  { s with failureTracker := tracker, sensors := sensors.filter fun e => live.contains e.reading.id }

/-- A joined read (polling.rs:376-516). -/
def SensorLoop.apply (s : SensorLoop) (result : LegResult) (now : Nat) : SensorLoop :=
  (s.adopt result.found).record (credible result.outcome) now

namespace SensorLoop

def start : SensorLoop where
  descriptors := []
  protectedIds := []
  discoveredOnce := false
  failureTracker := .new sensorReadFailRediscoverStreak
  sensorRescan := false
  pending := none
  sensors := []
  lastPass := none

def step (boardVendor : String) (s : SensorLoop) : LoopEvent → SensorLoop
  | .rescan => { s with sensorRescan := true }
  | .tick root files nvml =>
    match s.pending with
    | some _ => s
    | none => { s with sensorRescan := false, pending := some (s.leg boardVendor root files nvml) }
  | .join now =>
    match s.pending with
    | some (.ok result) => { s.apply result now with pending := none }
    | some (.error _) => { s with pending := none }
    | none => s
  | .lost => { s with pending := none }

/-- Some entry has the id. -/
def Caches (s : SensorLoop) (id : String) : Prop := ∃ e ∈ s.sensors, e.reading.id = id

def Quarantines (s : SensorLoop) (id : String) : Prop := ∃ u ∈ s.failureTracker.quarantined, u.id = id

def Describes (s : SensorLoop) (id : String) : Prop := ∃ d ∈ s.descriptors, d.id = id

end SensorLoop

/-! ## What the cache is after a read -/

theorem mem_updateEntries {readings sensors : List CacheEntry} {e : CacheEntry} :
    e ∈ updateEntries sensors readings →
      e ∈ readings ∨ (e ∈ sensors ∧ ∀ r ∈ readings, r.reading.id ≠ e.reading.id) := by
  unfold updateEntries
  induction readings generalizing sensors with
  | nil =>
    intro h
    exact .inr ⟨h, nofun⟩
  | cons r readings ih =>
    intro h
    rcases ih h with h | ⟨h, hne⟩
    · exact .inl (List.mem_cons_of_mem _ h)
    · rcases List.mem_append.mp h with h | h
      · obtain ⟨hmem, hid⟩ := List.mem_filter.mp h
        refine .inr ⟨hmem, ?_⟩
        intro r' hr'
        rcases List.mem_cons.mp hr' with rfl | hr'
        · have hne' : e.reading.id ≠ r'.reading.id := by simpa using hid
          exact hne'.symm
        · exact hne r' hr'
      · exact .inl (List.mem_singleton.mp h ▸ List.mem_cons_self)

/-- What no reading replaces stays. -/
theorem kept_updateEntries {readings sensors : List CacheEntry} {e : CacheEntry} (h : e ∈ sensors)
    (hne : ∀ r ∈ readings, r.reading.id ≠ e.reading.id) : e ∈ updateEntries sensors readings := by
  unfold updateEntries
  induction readings generalizing sensors with
  | nil => exact h
  | cons r readings ih =>
    refine ih ?_ fun r' hr' => hne r' (List.mem_cons_of_mem _ hr')
    refine List.mem_append_left _ (List.mem_filter.mpr ⟨h, ?_⟩)
    have hr := hne r List.mem_cons_self
    simpa using hr.symm

theorem caches_updateEntries {id : String} {readings sensors : List CacheEntry}
    (h : ∃ e, (e ∈ sensors ∨ e ∈ readings) ∧ e.reading.id = id) :
    ∃ e ∈ updateEntries sensors readings, e.reading.id = id := by
  unfold updateEntries
  induction readings generalizing sensors with
  | nil =>
    obtain ⟨e, he, hid⟩ := h
    exact ⟨e, he.resolve_right List.not_mem_nil, hid⟩
  | cons r readings ih =>
    refine ih ?_
    by_cases hr : r.reading.id = id
    · exact ⟨r, .inl (List.mem_append_right _ (List.mem_singleton_self r)), hr⟩
    · obtain ⟨e, he, hid⟩ := h
      refine ⟨e, ?_, hid⟩
      rcases he with he | he
      · refine .inl (List.mem_append_left _ (List.mem_filter.mpr ⟨he, ?_⟩))
        rw [← hid] at hr
        simpa using fun heq => hr heq.symm
      · rcases List.mem_cons.mp he with rfl | he
        · exact absurd hid hr
        · exact .inr he

section Record

variable {s : SensorLoop} {outcome : SensorReadOutcome} {now : Nat}

/-- **What is cached after a read**: what was cached or read, unless quarantined or known to none. -/
theorem caches_record {id : String} :
    (s.record outcome now).Caches id ↔
      ((s.Caches id ∨ ∃ r ∈ outcome.readings, r.id = id) ∧ ¬ (s.record outcome now).Quarantines id) ∧
        (s.Describes id ∨ (∃ r ∈ outcome.readings, r.id = id) ∨ id ∈ s.protectedIds) := by
  have hlive : (s.descriptors.map (·.id) ++ outcome.readings.map (·.id) ++ s.protectedIds).contains id = true ↔
      (s.Describes id ∨ (∃ r ∈ outcome.readings, r.id = id) ∨ id ∈ s.protectedIds) := by
    simp [SensorLoop.Describes]
  have hquar : (!(s.record outcome now).failureTracker.unavailable.any (·.id = id)) = true ↔
      ¬ (s.record outcome now).Quarantines id := by
    simp [SensorLoop.Quarantines, SensorFailureTracker.mem_unavailable]
  constructor
  · rintro ⟨e, he, rfl⟩
    obtain ⟨he, hl⟩ := List.mem_filter.mp he
    obtain ⟨he, hq⟩ := List.mem_filter.mp he
    refine ⟨⟨?_, hquar.mp hq⟩, hlive.mp hl⟩
    rcases mem_updateEntries he with hr | ⟨hold, -⟩
    · obtain ⟨r, hmem, rfl⟩ := List.mem_map.mp hr
      exact .inr ⟨r, hmem, rfl⟩
    · exact .inl ⟨e, hold, rfl⟩
  · rintro ⟨⟨hfrom, hq⟩, hl⟩
    have hthere : ∃ e, (e ∈ s.sensors ∨ e ∈ outcome.readings.map fun r => (⟨r, now⟩ : CacheEntry)) ∧ e.reading.id = id := by
      rcases hfrom with ⟨e, he, hid⟩ | ⟨r, hr, hid⟩
      · exact ⟨e, .inl he, hid⟩
      · exact ⟨⟨r, now⟩, .inr (List.mem_map.mpr ⟨r, hr, rfl⟩), hid⟩
    obtain ⟨e, he, rfl⟩ := caches_updateEntries hthere
    exact ⟨e, List.mem_filter.mpr ⟨List.mem_filter.mpr ⟨he, hquar.mpr hq⟩, hlive.mpr hl⟩, rfl⟩

/-- An entry after a read is one of its readings, or was there and none of its readings has the id. -/
theorem mem_record {e : CacheEntry} (h : e ∈ (s.record outcome now).sensors) :
    (∃ r ∈ outcome.readings, e = ⟨r, now⟩) ∨ (e ∈ s.sensors ∧ ∀ r ∈ outcome.readings, r.id ≠ e.reading.id) := by
  rcases mem_updateEntries (List.mem_filter.mp (List.mem_filter.mp h).1).1 with hr | ⟨hold, hne⟩
  · obtain ⟨r, hmem, rfl⟩ := List.mem_map.mp hr
    exact .inl ⟨r, hmem, rfl⟩
  · exact .inr ⟨hold, fun r hr => hne ⟨r, now⟩ (List.mem_map.mpr ⟨r, hr, rfl⟩)⟩

/-- What is quarantined after a read is described and failed in it. -/
theorem quarantines_record {id : String} (h : (s.record outcome now).Quarantines id) :
    s.Describes id ∧ ∃ f ∈ outcome.failures, f.id = id := by
  obtain ⟨u, hu, rfl⟩ := h
  exact SensorFailureTracker.quarantined_spec hu

end Record

end ControlOfc.Polling
