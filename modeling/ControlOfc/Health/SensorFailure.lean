import ControlOfc.Hwmon.SensorDiscovery
import ControlOfc.Lib.Machine
/-! # Read failures and quarantine (health/sensor_failure.rs)

A descriptor that keeps failing earns one re-discovery at the threshold and is quarantined by the failure
after it. The transitions `record_tick` returns beside its state are a definition of their own.
-/
namespace ControlOfc.Health
open Hwmon

/-- `UnavailableSensor` (health/state.rs). -/
structure UnavailableSensor where
  id : String
  label : String
  reason : FailureReason
  since : Nat
  deriving DecidableEq, Repr

/-- `TrackerEvent` (sensor_failure.rs:42). -/
inductive TrackerEvent where
  | quarantined (id : String) (reason : FailureReason)
  | recovered (id : String)
  deriving DecidableEq, Repr

def TrackerEvent.id : TrackerEvent → String
  | .quarantined id _ | .recovered id => id

/-- `SensorFailureTracker` (sensor_failure.rs:51), both maps by their entries. -/
structure SensorFailureTracker where
  threshold : Nat
  streak : List (String × Nat)
  quarantined : List UnavailableSensor
  deriving DecidableEq, Repr

namespace SensorFailureTracker

def new (threshold : Nat) : SensorFailureTracker := ⟨threshold, [], []⟩

def isQuarantined (t : SensorFailureTracker) (id : String) : Bool := t.quarantined.any (·.id = id)

def streakOf (t : SensorFailureTracker) (id : String) : Nat := ((t.streak.find? (·.1 = id)).map Prod.snd).getD 0

/-- `wants_rediscovery` (sensor_failure.rs:80). -/
def wantsRediscovery (t : SensorFailureTracker) : Bool :=
  t.streak.any fun (id, n) => t.threshold ≤ n && !t.isQuarantined id

/-- `rediscovery_ids` (sensor_failure.rs:88). -/
def rediscoveryIds (t : SensorFailureTracker) : List String :=
  ((t.streak.filter fun (id, n) => t.threshold ≤ n && !t.isQuarantined id).map Prod.fst).insertionSort (· ≤ ·)

/-- One descriptor of `record_tick` (sensor_failure.rs:126-166). The failures are looked up by id, the last of
an id winning. -/
def recordOne (failures : List SensorReadFailure) (now : Nat) (t : SensorFailureTracker) (d : SensorDescriptor) :
    SensorFailureTracker :=
  match failures.reverse.find? (·.id = d.id) with
  | some failure =>
    if t.isQuarantined d.id then t
    else
      let n := t.streakOf d.id + 1
      let t := { t with streak := t.streak.filter (·.1 ≠ d.id) ++ [(d.id, n)] }
      if t.threshold < n then
        { t with quarantined := t.quarantined ++ [⟨d.id, failure.label, failure.reason, now⟩] }
      else t
  | none =>
    { t with streak := t.streak.filter (·.1 ≠ d.id), quarantined := t.quarantined.filter (·.id ≠ d.id) }

/-- `record_tick` (sensor_failure.rs:107): what is not there any more is forgotten first. -/
def recordTick (t : SensorFailureTracker) (descriptors : List SensorDescriptor) (failures : List SensorReadFailure)
    (now : Nat) : SensorFailureTracker :=
  let present (id : String) : Bool := descriptors.any (·.id = id)
  let t := { t with
    streak := t.streak.filter fun e => present e.1
    quarantined := t.quarantined.filter fun u => present u.id }
  Machine.run (recordOne failures now) t descriptors

/-- What a tick finds of the last: the entries of descriptors that are still there. -/
def forgetGone (t : SensorFailureTracker) (descriptors : List SensorDescriptor) : SensorFailureTracker :=
  { t with
    streak := t.streak.filter fun e => descriptors.any (·.id = e.1)
    quarantined := t.quarantined.filter fun u => descriptors.any (·.id = u.id) }

theorem recordTick_eq (t : SensorFailureTracker) (descriptors : List SensorDescriptor) (failures : List SensorReadFailure)
    (now : Nat) :
    t.recordTick descriptors failures now = Machine.run (recordOne failures now) (t.forgetGone descriptors) descriptors :=
  rfl

/-- The transition one descriptor makes. -/
def eventOf (failures : List SensorReadFailure) (t : SensorFailureTracker) (d : SensorDescriptor) : Option TrackerEvent :=
  match failures.reverse.find? (·.id = d.id) with
  | some failure =>
    if !t.isQuarantined d.id && t.threshold < t.streakOf d.id + 1 then some (.quarantined d.id failure.reason) else none
  | none => if t.isQuarantined d.id then some (.recovered d.id) else none

/-- What `record_tick` returns. -/
def tickEvents (t : SensorFailureTracker) (descriptors : List SensorDescriptor) (failures : List SensorReadFailure)
    (now : Nat) : List TrackerEvent :=
  (Machine.trace (recordOne failures now) (eventOf failures) (t.forgetGone descriptors) descriptors).filterMap id

/-- `unavailable` (sensor_failure.rs:169). -/
def unavailable (t : SensorFailureTracker) : List UnavailableSensor :=
  t.quarantined.insertionSort fun a b => a.id ≤ b.id

theorem mem_unavailable {t : SensorFailureTracker} {u : UnavailableSensor} : u ∈ t.unavailable ↔ u ∈ t.quarantined :=
  (List.perm_insertionSort _ _).mem_iff

section Record

variable {failures : List SensorReadFailure} {now : Nat} {t : SensorFailureTracker}

/-- One descriptor changes the quarantine of its own id alone. -/
theorem recordOne_quarantined {d : SensorDescriptor} {u : UnavailableSensor}
    (h : u ∈ (recordOne failures now t d).quarantined) :
    (u ∈ t.quarantined ∨ u.id = d.id) ∧ (u.id = d.id → ∃ f ∈ failures, f.id = d.id) := by
  unfold recordOne at h
  cases hfind : failures.reverse.find? (·.id = d.id) with
  | some failure =>
    have hfails : ∃ f ∈ failures, f.id = d.id :=
      ⟨failure, List.mem_reverse.mp (List.mem_of_find?_eq_some hfind), by simpa using List.find?_some hfind⟩
    rw [hfind] at h
    dsimp only at h
    refine ⟨?_, fun _ => hfails⟩
    split at h
    · exact .inl h
    · split at h
      · rcases List.mem_append.mp h with h | h
        · exact .inl h
        · rw [List.mem_singleton.mp h]
          exact .inr rfl
      · exact .inl h
  | none =>
    rw [hfind] at h
    obtain ⟨hold, hne⟩ := List.mem_filter.mp h
    have hne' : u.id ≠ d.id := by simpa using hne
    exact ⟨.inl hold, fun heq => absurd heq hne'⟩

theorem run_quarantined {descriptors : List SensorDescriptor} {u : UnavailableSensor}
    (h : u ∈ (Machine.run (recordOne failures now) t descriptors).quarantined) :
    (u ∈ t.quarantined ∨ ∃ d ∈ descriptors, d.id = u.id) ∧
      ((∃ d ∈ descriptors, d.id = u.id) → ∃ f ∈ failures, f.id = u.id) := by
  induction descriptors generalizing t with
  | nil => exact ⟨.inl h, fun ⟨_, hd, _⟩ => nomatch hd⟩
  | cons d descriptors ih =>
    obtain ⟨hfrom, hfails⟩ := ih h
    have hlater : (∃ d' ∈ descriptors, d'.id = u.id) → ∃ d' ∈ d :: descriptors, d'.id = u.id :=
      fun ⟨d', hd', heq⟩ => ⟨d', List.mem_cons_of_mem _ hd', heq⟩
    constructor
    · rcases hfrom with hold | hfound
      · rcases (recordOne_quarantined hold).1 with hold | heq
        · exact .inl hold
        · exact .inr ⟨d, List.mem_cons_self, heq.symm⟩
      · exact .inr (hlater hfound)
    · rintro ⟨d', hd', heq⟩
      rcases List.mem_cons.mp hd' with rfl | hd'
      · rcases hfrom with hold | hfound
        · rw [← heq]
          exact (recordOne_quarantined hold).2 heq.symm
        · exact hfails hfound
      · exact hfails ⟨d', hd', heq⟩

/-- **What is quarantined is described and fails this tick.** -/
theorem quarantined_spec {descriptors : List SensorDescriptor} {u : UnavailableSensor}
    (h : u ∈ (t.recordTick descriptors failures now).quarantined) :
    (∃ d ∈ descriptors, d.id = u.id) ∧ ∃ f ∈ failures, f.id = u.id := by
  obtain ⟨hfrom, hfails⟩ := run_quarantined h
  have hfound : ∃ d ∈ descriptors, d.id = u.id := by
    rcases hfrom with hold | hfound
    · simpa using (List.mem_filter.mp hold).2
    · exact hfound
  exact ⟨hfound, hfails hfound⟩

end Record

end SensorFailureTracker

end ControlOfc.Health
