import ControlOfc.Thermal.SafetyTick
import ControlOfc.Lib.Machine
/-! # The hwmon poll loop and the age of what it caches (polling.rs:57-374, health/cache.rs:382-407)

One blocking read samples the sensors one by one. The loop waits for it no longer than
`cpu_temp_stale_after()`, keeps its handle when that budget elapses and waits on the same read again at
its next tick. A reading is stamped when the read is joined (`to_cached`), and the engine judges its age
by that stamp.

The source keeps no instant of sampling: `readAt` is carried along so that the two ages can be compared.
Instants count nanoseconds. Which readings the plausibility check rejects and which sensors the
quarantine and the vanished-sensor eviction remove is left to the event.
-/
namespace ControlOfc.Polling
open Thermal

/-! ## The freshness budget -/

def defaultHwmonPollIntervalMs : Nat := 1000
def cpuTempStaleIntervals : Nat := 5
def cpuTempStaleCeilingMs : Nat := 30000

/-- `cpu_temp_stale_after` (health/cache.rs:382), for the published interval. -/
def cpuTempStaleAfter (hwmonPollIntervalMs : Nat) : Nat :=
  let interval := max hwmonPollIntervalMs defaultHwmonPollIntervalMs
  let budget := max (min (min (interval * cpuTempStaleIntervals) (2 ^ 64 - 1)) cpuTempStaleCeilingMs) interval
  budget * 1000000

/-! ## Readings -/

/-- `SensorReading` (hwmon/types.rs:126), as far as the thermal rules look at it. -/
structure SensorReading where
  id : String
  kind : SensorKind
  valueC : Ieee
  /-- When its sensor was sampled. -/
  readAt : Nat
  deriving DecidableEq, Repr

/-- `CachedSensorReading` (health/state.rs:145), likewise. -/
structure CachedSensorReading extends SensorReading where
  updatedAt : Nat
  deriving DecidableEq, Repr

/-- `to_cached` (polling.rs:58): stamped at the instant of the call. -/
def toCached (now : Nat) (reading : SensorReading) : CachedSensorReading := ⟨reading, now⟩

/-- `sensors.insert`. -/
def insertReading (sensors : List CachedSensorReading) (reading : CachedSensorReading) : List CachedSensorReading :=
  sensors.filter (fun s => s.id ≠ reading.id) ++ [reading]

/-- `update_sensors` (health/cache.rs:580). -/
def updateSensors (sensors readings : List CachedSensorReading) : List CachedSensorReading :=
  readings.foldl insertReading sensors

theorem mem_updateSensors {sensors readings : List CachedSensorReading} {r : CachedSensorReading}
    (h : r ∈ updateSensors sensors readings) : r ∈ sensors ∨ r ∈ readings := by
  unfold updateSensors at h
  induction readings generalizing sensors with
  | nil => exact .inl h
  | cons r' readings ih =>
    rcases ih h with h | h
    · simp only [insertReading, List.mem_append, List.mem_filter, List.mem_singleton] at h
      rcases h with ⟨h, -⟩ | rfl
      · exact .inl h
      · exact .inr List.mem_cons_self
    · exact .inr (List.mem_cons_of_mem _ h)

/-! ## What the engine takes from the cache (profile_engine/mod.rs:967-1024) -/

/-- `now.saturating_duration_since(s.updated_at) <= stale_after`. -/
def CachedSensorReading.isFresh (s : CachedSensorReading) (now staleAfter : Nat) : Bool :=
  decide (now - s.updatedAt ≤ staleAfter)

/-- The running maximum over `l`, `none` when there is nothing. -/
def hottest (l : List CachedSensorReading) : Option Ieee :=
  l.foldl (fun target s => some (target.elim s.valueC fun v => v.max s.valueC)) none

/-- `hottest_reading_where` (profile_engine/mod.rs:998). -/
def hottestReadingWhere (sensors : List CachedSensorReading) (now staleAfter : Nat) (keep : CachedSensorReading → Bool) :
    CpuReading :=
  let kept := sensors.filter keep
  match hottest (kept.filter (·.isFresh now staleAfter)), hottest (kept.filter fun s => !s.isFresh now staleAfter) with
  | some t, _ => .fresh t
  | none, some t => .stale t
  | none, none => .absent

def isCpu (s : CachedSensorReading) : Bool := s.kind == .cpuTemp

def isCoolant (s : CachedSensorReading) : Bool := s.kind == .coolantTemp && s.valueC.isFinite

/-- `hottest_cpu_reading` (profile_engine/mod.rs:967). -/
def hottestCpuReading (sensors : List CachedSensorReading) (now staleAfter : Nat) : CpuReading :=
  hottestReadingWhere sensors now staleAfter isCpu

/-- `hottest_coolant_reading` (profile_engine/mod.rs:985). -/
def hottestCoolantReading (sensors : List CachedSensorReading) (now staleAfter : Nat) : CpuReading :=
  hottestReadingWhere sensors now staleAfter isCoolant

/-! ## The loop -/

/-- The blocking read the loop has spawned. -/
structure BlockingRead where
  sampled : List SensorReading
  /-- Set when its thread ends: `true` with readings, `false` on an error or a panic. -/
  returned : Option Bool
  deriving DecidableEq, Repr

/-- The clock, the poll loop with its read, the sensor cache and the engine's tick. -/
structure PollRig where
  now : Nat
  hwmonPollIntervalMs : Nat
  /-- `pending`, or the handle being awaited. -/
  read : Option BlockingRead
  /-- Since when the loop awaits the handle. -/
  awaitedSince : Option Nat
  /-- `cached`: stamped, not yet in the cache. -/
  cached : Option (List CachedSensorReading)
  sensors : List CachedSensorReading
  snapshotTakenAt : Option Nat
  deriving DecidableEq, Repr

inductive PollEvent where
  | elapse (d : Nat)
  /-- `tick.tick()`. -/
  | tick
  /-- The read's thread samples one sensor. -/
  | sample (id : String) (kind : SensorKind) (valueC : Ieee)
  | returned (ok : Bool)
  /-- The runtime polls `timeout(cpu_temp_stale_after(), &mut handle)`. -/
  | poll ( implausible : List String)
  /-- `update_sensors`, `update_unavailable_sensors` and `retain_sensors`. -/
  | update (evicted : List String)
  /-- `snapshot_taken_at = Instant::now()`. -/
  | engineTick
  /-- `sensors_snapshot()`, and the ladder on it. -/
  | engineSnapshot
  deriving DecidableEq, Repr

namespace PollRig

/-- The loop has published its interval (polling.rs:163) and reached its `select!`. -/
def start (hwmonPollIntervalMs : Nat) : PollRig where
  now := 0
  hwmonPollIntervalMs := hwmonPollIntervalMs
  read := none
  awaitedSince := none
  cached := none
  sensors := []
  snapshotTakenAt := none

def staleAfter (s : PollRig) : Nat := cpuTempStaleAfter s.hwmonPollIntervalMs

/-- The await on the handle (polling.rs:334): a finished read is joined, even past the deadline. -/
def pollHandle (s : PollRig) ( implausible : List String) : PollRig :=
  match s.read, s.awaitedSince with
  | some read, some since =>
    match read.returned with
    | some true =>
      let readings := read.sampled.filter fun r => r.id ∉ implausible
      { s with read := none, awaitedSince := none, cached := some (readings.map (toCached s.now)) }
    | some false => { s with read := none, awaitedSince := none }
    | none => if since + s.staleAfter ≤ s.now then { s with awaitedSince := none } else s
  | _, _ => s

def step (s : PollRig) : PollEvent → PollRig
  | .elapse d => { s with now := s.now + d }
  | .tick =>
    if s.awaitedSince.isNone && s.cached.isNone then
      { s with read := some (s.read.getD ⟨[], none⟩), awaitedSince := some s.now }
    else s
  | .sample id kind valueC =>
    match s.read with
    | some ⟨sampled, none⟩ => { s with read := some ⟨sampled ++ [⟨id, kind, valueC, s.now⟩], none⟩ }
    | _ => s
  | .returned ok =>
    match s.read with
    | some ⟨sampled, none⟩ => { s with read := some ⟨sampled, some ok⟩ }
    | _ => s
  | .poll implausible => s.pollHandle implausible
  | .update evicted =>
    match s.cached with
    | some cached =>
      { s with cached := none, sensors := (updateSensors s.sensors cached).filter fun r => r.id ∉ evicted }
    | none => s
  | .engineTick => { s with snapshotTakenAt := some s.now }
  | .engineSnapshot => { s with snapshotTakenAt := none }

/-! ## A stamp is no earlier than its sample -/

/-- Every reading was sampled no later than it was stamped, and no later than now. -/
structure Stamped (s : PollRig) : Prop where
  sampled : ∀ read, s.read = some read → ∀ r ∈ read.sampled, r.readAt ≤ s.now
  cached : ∀ l, s.cached = some l → ∀ r ∈ l, r.readAt ≤ r.updatedAt
  sensors : ∀ r ∈ s.sensors, r.readAt ≤ r.updatedAt

theorem start_stamped (hwmonPollIntervalMs : Nat) : (start hwmonPollIntervalMs).Stamped := ⟨nofun, nofun, nofun⟩

theorem pollHandle_stamped {s : PollRig} (h : s.Stamped) ( implausible : List String) :
    (s.pollHandle implausible).Stamped := by
  unfold pollHandle
  split
  case h_1 read since hread _ =>
    split
    · refine ⟨nofun, ?_, h.sensors⟩
      rintro _ ⟨⟩ r hr
      obtain ⟨r', hr', rfl⟩ := List.mem_map.mp hr
      exact h.sampled read hread r' (List.mem_filter.mp hr').1
    · exact ⟨nofun, h.cached, h.sensors⟩
    · split
      · exact ⟨h.sampled, h.cached, h.sensors⟩
      · exact h
  case h_2 => exact h

theorem step_stamped {s : PollRig} (h : s.Stamped) (e : PollEvent) : (s.step e).Stamped := by
  cases e with
  | elapse d =>
    refine ⟨?_, h.cached, h.sensors⟩
    intro read hread r hr
    exact (h.sampled read hread r hr).trans (Nat.le_add_right _ _)
  | tick =>
    simp only [step]
    split
    · refine ⟨?_, h.cached, h.sensors⟩
      rintro _ ⟨⟩ r hr
      cases hread : s.read with
      | none => simp [hread] at hr
      | some read => exact h.sampled read hread r (by simpa [hread] using hr)
    · exact h
  | sample id kind valueC =>
    simp only [step]
    split
    case h_1 sampled hread =>
      refine ⟨?_, h.cached, h.sensors⟩
      rintro _ ⟨⟩ r hr
      rcases List.mem_append.mp hr with hr | hr
      · exact h.sampled _ hread r hr
      · rw [List.mem_singleton.mp hr]
    case h_2 => exact h
  | returned ok =>
    simp only [step]
    split
    case h_1 sampled hread =>
      refine ⟨?_, h.cached, h.sensors⟩
      rintro _ ⟨⟩ r hr
      exact h.sampled _ hread r hr
    case h_2 => exact h
  | poll implausible => exact pollHandle_stamped h implausible
  | update evicted =>
    simp only [step]
    split
    case h_1 cached hcached =>
      refine ⟨h.sampled, nofun, ?_⟩
      intro r hr
      rcases mem_updateSensors (List.mem_filter.mp hr).1 with hr | hr
      · exact h.sensors r hr
      · exact h.cached cached hcached r hr
    case h_2 => exact h
  | engineTick => exact ⟨h.sampled, h.cached, h.sensors⟩
  | engineSnapshot => exact ⟨h.sampled, h.cached, h.sensors⟩

end PollRig

end ControlOfc.Polling
