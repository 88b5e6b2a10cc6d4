import ControlOfc.Engine.Delivery
/-! # The forced write (profile_engine/backends.rs:380-560, 1504-1660, 2780-2900, pump_stall.rs:285)

A forced tick floors the profile's own commands. Below 100 % it reaches the profile's members only, and
holds the members of skipped controls at the duty last written to them. Every exchange succeeds here, so
what a controller records of an output is the duty last written to it; the outputs a forced tick gives
back are those no member names and are left out.
-/
namespace ControlOfc.Engine
open Profile Override OpenFan

/-- `ProfileMembers` (backends.rs:387), as the list of outputs. -/
abbrev ProfileMembers := List Output

/-- `ProfileMembers::collect` (backends.rs:418). -/
def ProfileMembers.collect (controls : List (LogicalControl ℚ)) : ProfileMembers :=
  controls.flatMap fun c => c.members.filterMap fun m => outputOf m.source m.memberId

/-- `ProfileMembers::of`. -/
def ProfileMembers.of (p : DaemonProfile ℚ) : ProfileMembers := collect p.controls

/-- `HeldMembers` (backends.rs:480): the members of controls skipped this tick. -/
structure HeldMembers where
  members : ProfileMembers

/-- `HeldMembers::of_skipped`, through `ProfileMembers::of_controls`. -/
def HeldMembers.ofSkipped (p : DaemonProfile ℚ) (skipped : List String) : HeldMembers :=
  ⟨ProfileMembers.collect (p.controls.filter fun c => skipped.contains c.id)⟩

/-- `ForceReach` (backends.rs:495). -/
inductive ForceReach where
  | all
  | profileMembers (members : ProfileMembers) (giveBack : Bool) (held : HeldMembers)

/-- `ForceReach::for_duty` (backends.rs:531). -/
def ForceReach.forDuty (pct : Nat) (members : ProfileMembers) (held : HeldMembers) (emergencyLatched : Bool) :
    ForceReach :=
  if 100 ≤ pct then .all else .profileMembers members (!emergencyLatched) held

def ForceReach.reaches : ForceReach → Output → Bool
  | .all, _ => true
  | .profileMembers members _ _, out => members.contains out

def ForceReach.holds : ForceReach → Output → Bool
  | .all, _ => false
  | .profileMembers _ _ held, out => held.members.contains out

/-- Every output this machine can be forced on, in the order it is written. -/
def Backends.outputs (b : Backends) : List Output :=
  (if b.openfan then (List.range numChannels).map .openfan else []) ++ (b.headers.getD []).map .hwmon

/-- `PUMP_STALL_RESPONSE_PCT` (constants.rs). -/
def pumpStallResponsePct : Nat := 100

/-- One turn of the loop of `apply_stall_response`. -/
def raiseHeader (commands : List PwmCommand) (id : String) : List PwmCommand :=
  if commands.any fun c => c.source = .hwmon ∧ c.memberId = id then
    commands.map fun c =>
      if c.source = .hwmon ∧ c.memberId = id then { c with pwmPercent := max c.pwmPercent pumpStallResponsePct } else c
  else commands ++ [⟨id, .hwmon, pumpStallResponsePct, false⟩]

/-- `apply_stall_response` (pump_stall.rs:285). -/
def applyStallResponse (commands : List PwmCommand) (raised : List String) : List PwmCommand :=
  raised.foldl raiseHeader commands

/-- This tick's duty per output; of two commands for one, the last. -/
def commandFloors (commands : List PwmCommand) : KMap Output Nat :=
  KMap.ofList (commands.filterMap fun c => (outputOf c.source c.memberId).map fun out => (out, c.pwmPercent))

/-- The duty of one forced output: the force, over its command and, if held, its last duty. -/
def forceDuty (pct : Nat) (commands : List PwmCommand) (reach : ForceReach) (duties : KMap Output Nat)
    (out : Output) : Nat :=
  (((commandFloors commands).get? out).toList ++ if reach.holds out then (duties.get? out).toList else []).foldl max pct

/-- `force_present_backends` (backends.rs:792) over the two `force_all_with_floor`. -/
def forceAllWithFloor (b : Backends) (pct : Nat) (commands : List PwmCommand) (reach : ForceReach)
    (duties : KMap Output Nat) : List (Output × Nat) :=
  (b.outputs.filter reach.reaches).map fun out => (out, forceDuty pct commands reach duties out)

/-- The `apply` of the two backends: every command for an output that is there, in order. -/
def applyCommands (b : Backends) (commands : List PwmCommand) : List (Output × Nat) :=
  commands.filterMap fun c => do
    let out ← outputOf c.source c.memberId
    if b.outputs.contains out then some (out, c.pwmPercent) else none

/-- The records of the controllers after some writes. -/
def recordWrites (duties : KMap Output Nat) (writes : List (Output × Nat)) : KMap Output Nat :=
  writes.foldl (fun m w => m.insert w.1 w.2) duties

/-! ## One turn of the loop (mod.rs:1480-1860) -/

/-- What one turn is given, which pumps the stall watch raises, what the safety decision forces. -/
structure TurnInput where
  quarantined : List String
  roles : KMap String HeaderRole
  facts : KMap String HeaderFacts
  sensors : Sensors
  overrides : OverrideSnapshot
  backends : Backends
  raised : List String
  forcedPct : Option Nat
  emergencyLatched : Bool

structure LoopState where
  engine : ProfileEngineState
  duties : KMap Output Nat

/-- What a turn computes before it writes. -/
structure Evaluated where
  engine : ProfileEngineState
  commands : List PwmCommand
  held : HeldMembers

/-- The evaluation of a turn. -/
def turnTick (p : DaemonProfile ℚ) (s : ProfileEngineState) (t : TurnInput) : Tick :=
  evaluateProfileWithOverrides p t.sensors (s.install t.quarantined t.roles t.facts) t.overrides

/-- Evaluate, note what cannot be delivered, raise the stalled pumps. -/
def evaluateTurn (p : DaemonProfile ℚ) (s : ProfileEngineState) (t : TurnInput) : Evaluated :=
  let tick := turnTick p s t
  let engine := tick.state.noteBackendUnavailable p t.overrides t.backends.deliveryTargets
  ⟨engine, applyStallResponse tick.commands t.raised, HeldMembers.ofSkipped p engine.skippedIds⟩

/-- The writes of a turn: the forced ones, or the commands. -/
def turnWrites (p : DaemonProfile ℚ) (s : LoopState) (t : TurnInput) : List (Output × Nat) :=
  let e := evaluateTurn p s.engine t
  match t.forcedPct with
  | some pct =>
    forceAllWithFloor t.backends pct e.commands
      (ForceReach.forDuty pct (ProfileMembers.of p) e.held t.emergencyLatched) s.duties
  | none => applyCommands t.backends e.commands

/-- One turn. -/
def turn (p : DaemonProfile ℚ) (s : LoopState) (t : TurnInput) : LoopState where
  engine :=
    let e := evaluateTurn p s.engine t
    if t.forcedPct.isSome then e.engine.resetForForcedTick else e.engine
  duties := recordWrites s.duties (turnWrites p s t)

/-- The duty a list of writes leaves an output at. -/
def dutyWritten (writes : List (Output × Nat)) (out : Output) : Option Nat := (KMap.ofList writes).get? out

/-! ## What the writes leave -/

theorem get?_recordWrites (duties : KMap Output Nat) (writes : List (Output × Nat)) (out : Output) :
    (recordWrites duties writes).get? out = (dutyWritten writes out).or (duties.get? out) := by
  unfold recordWrites dutyWritten
  rw [KMap.get?_foldl_insert, KMap.get?_ofList]

/-- A forced output is written at `forceDuty`, every other not at all. -/
theorem dutyWritten_force (b : Backends) (pct : Nat) (commands : List PwmCommand) (reach : ForceReach)
    (duties : KMap Output Nat) (out : Output) :
    dutyWritten (forceAllWithFloor b pct commands reach duties) out =
      if out ∈ b.outputs ∧ reach.reaches out = true then some (forceDuty pct commands reach duties out) else none := by
  unfold dutyWritten forceAllWithFloor
  by_cases hout : out ∈ b.outputs ∧ reach.reaches out = true
  · rw [if_pos hout]
    have hmem : out ∈ b.outputs.filter reach.reaches := List.mem_filter.mpr hout
    refine KMap.get?_ofList_of_forall (List.mem_map.mpr ⟨out, hmem, rfl⟩) ?_
    intro v hv
    obtain ⟨out', -, heq⟩ := List.mem_map.mp hv
    obtain ⟨rfl, rfl⟩ := Prod.mk.inj heq
    rfl
  · rw [if_neg hout, ← Option.not_isSome_iff_eq_none, KMap.isSome_get?_ofList]
    simp only [List.map_map, List.mem_map, List.mem_filter, Function.comp_apply]
    rintro ⟨out', hmem, rfl⟩
    exact hout hmem

theorem le_foldl_max (l : List Nat) (a : Nat) : a ≤ l.foldl max a ∧ ∀ x ∈ l, x ≤ l.foldl max a := by
  induction l generalizing a with
  | nil => simp
  | cons y l ih =>
    obtain ⟨hacc, hall⟩ := ih (max a y)
    rw [List.foldl_cons]
    refine ⟨(le_max_left a y).trans hacc, ?_⟩
    intro x hx
    rcases List.mem_cons.mp hx with rfl | hx
    · exact (le_max_right a x).trans hacc
    · exact hall x hx

section Duty

variable (pct : Nat) (commands : List PwmCommand) (reach : ForceReach) (duties : KMap Output Nat) {out : Output} {d : Nat}

theorem pct_le_forceDuty (out : Output) : pct ≤ forceDuty pct commands reach duties out := (le_foldl_max _ pct).1

theorem command_le_forceDuty (h : (commandFloors commands).get? out = some d) :
    d ≤ forceDuty pct commands reach duties out := by
  refine (le_foldl_max _ pct).2 d (List.mem_append_left _ ?_)
  rw [h]
  simp

theorem held_le_forceDuty (hheld : reach.holds out = true) (h : duties.get? out = some d) :
    d ≤ forceDuty pct commands reach duties out := by
  refine (le_foldl_max _ pct).2 d (List.mem_append_right _ ?_)
  rw [if_pos hheld, h]
  simp

end Duty

/-! ## The floor map -/

theorem commandFloors_snoc (commands : List PwmCommand) (c : PwmCommand) (out : Output) :
    (commandFloors (commands ++ [c])).get? out =
      if outputOf c.source c.memberId = some out then some c.pwmPercent else (commandFloors commands).get? out := by
  unfold commandFloors KMap.ofList
  rw [List.filterMap_append, List.foldl_append]
  cases h : outputOf c.source c.memberId with
  | none => simp [h]
  | some o =>
    simp only [List.filterMap_cons, h, Option.map_some, List.filterMap_nil, List.foldl_cons, List.foldl_nil,
      KMap.get?_insert, Option.some.injEq, eq_comm]

theorem outputOf_hwmon {source : Source} {memberId id : String} (h : outputOf source memberId = some (.hwmon id)) :
    source = .hwmon ∧ memberId = id := by
  unfold outputOf at h
  split at h
  · obtain ⟨ch, -, hch⟩ := Option.map_eq_some_iff.mp h
    cases hch
  · exact ⟨rfl, by simpa using h⟩
  · cases h

/-- Raising the duty of some commands raises the floors. -/
theorem map_raise_floor (f : PwmCommand → PwmCommand)
    (hf : ∀ c, outputOf (f c).source (f c).memberId = outputOf c.source c.memberId ∧ c.pwmPercent ≤ (f c).pwmPercent)
    (commands : List PwmCommand) {out : Output} {d : Nat} (h : (commandFloors commands).get? out = some d) :
    ∃ d', (commandFloors (commands.map f)).get? out = some d' ∧ d ≤ d' := by
  induction commands using List.reverseRecOn with
  | nil => simp [commandFloors, KMap.ofList] at h
  | append_singleton commands c ih =>
    rw [List.map_append, List.map_singleton, commandFloors_snoc, (hf c).1]
    rw [commandFloors_snoc] at h
    split at h
    · next hc =>
      rw [if_pos hc]
      exact ⟨_, rfl, Option.some.inj h ▸ (hf c).2⟩
    · next hc =>
      rw [if_neg hc]
      exact ih h

/-- A stalled pump's commands only rise. -/
theorem raiseHeader_floor (commands : List PwmCommand) (id : String) {out : Output} {d : Nat}
    (h : (commandFloors commands).get? out = some d) :
    ∃ d', (commandFloors (raiseHeader commands id)).get? out = some d' ∧ d ≤ d' := by
  unfold raiseHeader
  split
  · refine map_raise_floor _ (fun c => ?_) commands h
    split
    · exact ⟨rfl, le_max_left _ _⟩
    · exact ⟨rfl, le_refl _⟩
  · next hnone =>
    rw [commandFloors_snoc]
    split
    · -- a command for the header would have been found
      next hout =>
      refine absurd ?_ hnone
      obtain ⟨c, hc, heq⟩ := List.mem_filterMap.mp (KMap.mem_of_get?_ofList h)
      obtain ⟨out', hout', heq'⟩ := Option.map_eq_some_iff.mp heq
      obtain ⟨rfl, -⟩ := Prod.mk.inj heq'
      obtain rfl := Option.some.inj hout
      obtain ⟨hsource, hid⟩ := outputOf_hwmon hout'
      exact List.any_eq_true.mpr ⟨c, hc, by simp [hsource, hid]⟩
    · exact ⟨d, h, le_refl d⟩

theorem applyStallResponse_floor (commands : List PwmCommand) (raised : List String) {out : Output} {d : Nat}
    (h : (commandFloors commands).get? out = some d) :
    ∃ d', (commandFloors (applyStallResponse commands raised)).get? out = some d' ∧ d ≤ d' := by
  induction raised generalizing commands d with
  | nil => exact ⟨d, h, le_refl d⟩
  | cons id raised ih =>
    obtain ⟨d', h', hle⟩ := raiseHeader_floor commands id h
    obtain ⟨d'', h'', hle'⟩ := ih (raiseHeader commands id) h'
    exact ⟨d'', h'', hle.trans hle'⟩

end ControlOfc.Engine
