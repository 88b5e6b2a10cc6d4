import ControlOfc.Lib.Asking
import ControlOfc.Lib.Ieee
/-! # What a hardware diagnostic asks before it writes (diagnostic_gates.rs)

The diagnostics walk duties on one output while the rest of the daemon goes on. Everything they cannot decide
for themselves is a question: the reads and the writes, which may fail or not return, and the gates, whose
answers may change from one evaluation to the next. `mem` holds what a run keeps: its flags, the pump watch's
memory, the report of its restore, and the variables of the one runner.

| here | there |
| --- | --- |
| `WriteFailure` | `WriteFailure` (diagnostic_gates.rs:325) |
| `ThermalRefusal`, `thermalRefusal`, `thermalGate` | diagnostic_gates.rs:46-105 |
| `GateStop`, `stepGate` | diagnostic_gates.rs:31, 116-141 |
| `PumpWatch` | diagnostic_gates.rs:186-323 |
| `noteWriteUnresponsive` | diagnostic_gates.rs:379 |
-/
namespace ControlOfc.Diagnostics

/-- Why a diagnostic's PWM write did not succeed: it returned with an error, or it did not return within its
budget. -/
inductive WriteFailure where
  | error (e : String)
  | unresponsive
  deriving DecidableEq, Repr

/-- What the eligibility check of the stall probe found. -/
structure Eligibility where
  ineligible : Option String
  pumpProtected : Bool
  deriving DecidableEq, Repr

/-- What a diagnostic asks of its surroundings. `Pub` is what it publishes. Times are in nanoseconds. -/
inductive Question (Pub : Type) where
  | read
  | write (pct : Nat)
  | shuttingDown
  | cancel
  /-- `check_thermal_safety`: the error, when a sensor is over the limit. -/
  | checkThermalSafety
  /-- `thermal_force_state`: the state, when the ladder is forcing. -/
  | thermalForceState
  | staleTemperature
  | keepalive
  /-- The pump-protection union. -/
  | pumpProtected
  | eligible
  /-- `hottest_fresh_cpu_c`. -/
  | hottestFreshCpu
  | now
  | sleep (duration : Nat)
  | publish (p : Pub)

variable {Sample Pub V ε α : Type}

/-- A read that answers `none` did not return. -/
abbrev Answer (Sample : Type) : Question Pub → Type
  | .read => Option Sample
  | .write _ => Except WriteFailure Unit
  | .shuttingDown | .cancel | .keepalive | .pumpProtected => Bool
  | .checkThermalSafety | .thermalForceState | .staleTemperature => Option String
  | .eligible => Eligibility
  | .hottestFreshCpu => Option Ieee
  | .now => Nat
  | .sleep _ | .publish _ => Unit

/-- `RestoreOutcome` (characterization.rs:537). -/
inductive RestoreOutcome where
  | pending
  | restored
  | writeFailed
  | skippedShuttingDown
  | skippedThermalForce
  | noOriginalDuty
  | skippedUnresponsive
  deriving DecidableEq, Repr

/-- What every run keeps, beside the variables `V` of its own. -/
structure RunMem (V : Type) where
  wroteAny : Bool := false
  writeStuck : Bool := false
  unresponsive : Bool := false
  /-- `PumpWatch::seen`. -/
  seen : Bool := false
  /-- `PumpWatch::last_written`; `none` until `wrote`. -/
  lastWritten : Option Nat := none
  report : RestoreOutcome := .pending
  vars : V

/-- A run under way. -/
abbrev Run (Sample Pub V : Type) := Asking (Question Pub) (Answer Sample) (RunMem V)

/-- One question with its answer. -/
abbrev Event (Sample Pub : Type) := Σ q : Question Pub, Answer Sample q

open Asking Question

/-! ## The transcript -/

def written : Event Sample Pub → Option Nat
  | ⟨.write pct, _⟩ => some pct
  | _ => none

/-- The duties that were written, whatever came of them. -/
def writes (said : List (Event Sample Pub)) : List Nat := said.filterMap written

/-- A write that did not return. -/
def isStuck : Event Sample Pub → Bool
  | ⟨.write _, .error .unresponsive⟩ => true
  | _ => false

def sawPump : Event Sample Pub → Bool
  | ⟨.pumpProtected, true⟩ => true
  | _ => false

@[simp] theorem writes_nil : writes ([] : List (Event Sample Pub)) = [] := rfl

@[simp] theorem writes_append (l l' : List (Event Sample Pub)) : writes (l ++ l') = writes l ++ writes l' :=
  List.filterMap_append

@[simp] theorem writes_cons (e : Event Sample Pub) (l : List (Event Sample Pub)) :
    writes (e :: l) = (written e).toList ++ writes l := by
  unfold writes
  cases h : written e <;> simp [List.filterMap_cons, h]

/-! ## Thermal gates -/

inductive ThermalRefusal where
  | tooHot
  | forcing
  | stale
  deriving DecidableEq, Repr

def ThermalRefusal.token : ThermalRefusal → String
  | .tooHot => "thermal_limit"
  | .forcing => "thermal_force"
  | .stale => "stale_temperature"

/-- `thermal_refusal`: the first gate that refuses, and its detail. -/
def thermalRefusal (subject action : String) : Act (Run Sample Pub V) ε (Option (ThermalRefusal × String)) := do
  if let some e ← ask checkThermalSafety then
    return some (.tooHot, e)
  if let some state ← ask thermalForceState then
    return some (.forcing, s!"thermal safety is forcing fan output ({state}); {subject} {action}")
  if let some reason ← ask staleTemperature then
    return some (.stale, s!"{subject} {action}: {reason}")
  return none

def thermalGate (subject action : String) : Act (Run Sample Pub V) ε (Option String) := do
  return (← thermalRefusal subject action).map (·.2)

inductive GateStop where
  | shuttingDown
  | cancelled
  | thermal (which : ThermalRefusal) (detail : String)
  | superseded
  deriving DecidableEq, Repr

/-- `step_gate`: shutdown, cancel, the thermal gates, keepalive. -/
def stepGate (subject action : String) : Act (Run Sample Pub V) ε (Except GateStop Unit) := do
  if ← ask shuttingDown then
    return .error .shuttingDown
  if ← ask cancel then
    return .error .cancelled
  if let some (which, detail) ← thermalRefusal subject action then
    return .error (.thermal which detail)
  if !(← ask keepalive) then
    return .error .superseded
  return .ok ()

/-! ## The pump watch -/

/-- `HARD_PUMP_CPU_FLOOR_PCT as u8`. -/
def hardPumpFloor : Nat := 30

/-- The part of `PumpWatch` a run does not change. -/
structure PumpWatch where
  atStart : Bool
  pumpFloor : Nat
  floored : hardPumpFloor ≤ pumpFloor

namespace PumpWatch

def new (atStart : Bool) (pumpFloor : Nat) : PumpWatch := ⟨atStart, max pumpFloor hardPumpFloor, Nat.le_max_right ..⟩

/-- `note_write`, before the write. -/
def noteWrite (pct : Nat) : Act (Run Sample Pub V) ε Unit := modify fun m => { m with lastWritten := some pct }

/-- `became_protected`: the union is read until it answers yes. -/
def becameProtected (w : PumpWatch) : Act (Run Sample Pub V) ε Bool := do
  if w.atStart then
    return false
  if (← get).seen then
    return true
  if !(← ask pumpProtected) then
    return false
  modify fun m => { m with seen := true }
  return true

/-- `restore_is_pump`. -/
def restoreIsPump (w : PumpWatch) : Act (Run Sample Pub V) ε Bool := do
  if w.atStart then
    return true
  w.becameProtected

/-- `seen_as_pump`: nothing is read. -/
def seenAsPump (w : PumpWatch) (m : RunMem V) : Bool := w.atStart || m.seen

def flooredFallbackIf (w : PumpWatch) (pump : Bool) (m : RunMem V) : Option Nat :=
  if pump then m.lastWritten.map (max · w.pumpFloor) else none

def flooredFallback (w : PumpWatch) : Act (Run Sample Pub V) ε (Option Nat) := do
  let pump ← w.restoreIsPump
  return w.flooredFallbackIf pump (← get)

def flooredFallbackAsSeen (w : PumpWatch) (m : RunMem V) : Option Nat := w.flooredFallbackIf (w.seenAsPump m) m

end PumpWatch

/-- The union was read. -/
def heardPump (s : Run Sample Pub V) (b : Bool) : Run Sample Pub V :=
  { s.note pumpProtected b with mem := { s.mem with seen := s.mem.seen || b } }

theorem heardPump_false (s : Run Sample Pub V) : heardPump s false = s.note pumpProtected false := by
  simp [heardPump, note]

namespace PumpWatch

variable {w : PumpWatch} {E : ε → Run Sample Pub V → Prop} {s : Run Sample Pub V}

theorem wp_becameProtected {T : Bool → Run Sample Pub V → Prop} (hstart : w.atStart = true → T false s)
    (hseen : w.atStart = false → s.mem.seen = true → T true s)
    (hask : w.atStart = false → s.mem.seen = false → ∀ b, T b (heardPump s b)) : w.becameProtected.wp T E s := by
  unfold becameProtected
  cases hw : w.atStart with
  | true => simpa using hstart hw
  | false =>
    cases hm : s.mem.seen with
    | true => simpa [hm] using hseen hw hm
    | false =>
      simp only [Bool.false_eq_true, if_false, Act.wp_bind, Asking.wp_get, hm]
      refine wp_ask fun b => ?_
      have hT := hask hw hm b
      cases b with
      | true => simpa [heardPump] using hT
      | false =>
        rw [heardPump_false] at hT
        simpa using hT

theorem wp_restoreIsPump {T : Bool → Run Sample Pub V → Prop} (hknown : T (w.seenAsPump s.mem) s)
    (hask : w.atStart = false → s.mem.seen = false → ∀ b, T b (heardPump s b)) : w.restoreIsPump.wp T E s := by
  unfold restoreIsPump
  cases hw : w.atStart with
  | true => simpa [seenAsPump, hw] using hknown
  | false =>
    simp only [Bool.false_eq_true, if_false]
    refine wp_becameProtected (fun h => ?_) (fun _ hm => ?_) (fun _ hm => hask hw hm)
    · rw [hw] at h
      cases h
    · simpa [seenAsPump, hw, hm] using hknown

end PumpWatch

def pumpProtectedMidRunDetail (subject : String) (pumpFloor : Nat) : String :=
  s!"the header became pump-protected during the {subject} (a profile naming it a pump was activated, or it was assigned the pump role), so the {subject} stopped and its restore is floored at the {pumpFloor}% pump floor"

/-- `note_write_unresponsive`. -/
def noteWriteUnresponsive (pct : Nat) : Act (Run Sample Pub V) ε String := do
  modify fun m => { m with writeStuck := true }
  return s!"the PWM write of {pct}% did not return within 2 s (a driver that is not responding), so the run stopped and writes nothing more to the header; restore_outcome says what was left"

end ControlOfc.Diagnostics
