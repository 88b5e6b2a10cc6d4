import ControlOfc.Engine.State
/-! # The tuning pipeline (profile_engine/tuning.rs)

Offset, floor, step rate, stop snap, start kick, clamp, and the floor each member gets.
-/
namespace ControlOfc.Engine
open Profile

/-- Steps 1 and 2: what the curve and the floor want this cycle. -/
def demand (control : LogicalControl ℚ) (rawOutput floor : ℚ) : ℚ :=
  if rawOutput + control.offsetPct < floor then floor else rawOutput + control.offsetPct

/-- Step 3. A negative cap reads as no movement in that direction. -/
def rateLimit (control : LogicalControl ℚ) (lastOutput : Option ℚ) (output : ℚ) : ℚ :=
  match lastOutput with
  | some last => min (max output (last - max control.stepDownPct 0)) (last + max control.stepUpPct 0)
  | none => output

/-- Step 4. -/
def stopSnap (control : LogicalControl ℚ) (floorIsHard : Bool) (output : ℚ) : ℚ :=
  if !floorIsHard ∧ 0 < control.stopPct ∧ output < control.stopPct then 0 else output

/-- Step 5, judged on the demand and not on the rate-limited output. -/
def startKick (control : LogicalControl ℚ) (floorIsHard : Bool) (lastOutput : Option ℚ) (demand output : ℚ) : ℚ :=
  if (0 < demand ∧ (floorIsHard ∨ control.stopPct = 0 ∨ control.stopPct ≤ demand)) ∧
      lastOutput = some 0 ∧ 0 < control.startPct then
    max output control.startPct
  else output

/-- `apply_tuning_with_floor` (tuning.rs:36). -/
def applyTuningWithFloor (control : LogicalControl ℚ) (rawOutput : ℚ) (lastOutput : Option ℚ) (floor : ℚ)
    (floorIsHard : Bool) : ℚ :=
  let demand := demand control rawOutput floor
  let output := rateLimit control lastOutput demand
  let output := stopSnap control floorIsHard output
  let output := startKick control floorIsHard lastOutput demand output
  clampPct output

/-- `apply_tuning` (tuning.rs:15). -/
def applyTuning (control : LogicalControl ℚ) (rawOutput : ℚ) (lastOutput : Option ℚ) : ℚ :=
  applyTuningWithFloor control rawOutput lastOutput control.minimumPct false

/-! ## Member floors -/

/-- The maps of the tick that decide a member's floor. -/
structure Protection where
  assignedRoles : KMap String HeaderRole
  headerFacts : KMap String HeaderFacts

def ProfileEngineState.protection (s : ProfileEngineState) : Protection := ⟨s.assignedRoles, s.headerFacts⟩

/-- `member_pump_floor` (tuning.rs:185). -/
def memberPumpFloor (member : ControlMember) (prot : Protection) : Option ℚ :=
  if member.source ≠ .hwmon then none
  else
    let facts := (prot.headerFacts.get? member.memberId).getD .unknown
    if isPumpProtected (prot.assignedRoles.get? member.memberId) facts.inferredRole (memberLabelNamesPump member) then
      some (pumpFloorPct facts.pwmMode)
    else none

/-- `member_effective_floor` (tuning.rs:134). -/
def memberEffectiveFloor (control : LogicalControl ℚ) (member : ControlMember) (prot : Protection) : ℚ :=
  if memberIsGpu member then 0
  else
    let floor :=
      if memberNeedsHardFloor member || assignedRoleEarnsHardFloor member prot.assignedRoles then
        max control.minimumPct hardPumpCpuFloorPct
      else control.minimumPct
    match memberPumpFloor member prot with
    | some pumpFloor => max floor pumpFloor
    | none => floor

/-- `floor_is_hard` in the member loop (mod.rs:723-725). -/
def floorIsHard (member : ControlMember) (prot : Protection) : Bool :=
  memberNeedsHardFloor member || assignedRoleEarnsHardFloor member prot.assignedRoles ||
    (memberPumpFloor member prot).isSome

/-! ## A hard floor -/

section HardFloor

variable {member : ControlMember} {prot : Protection}

theorem pumpFloorPct_mem (pwmMode : Option Nat) : 30 ≤ pumpFloorPct pwmMode ∧ pumpFloorPct pwmMode ≤ 70 := by
  unfold pumpFloorPct dcPumpFloorPct hardPumpCpuFloorPct
  split <;> norm_num

theorem memberPumpFloor_mem {f : ℚ} (h : memberPumpFloor member prot = some f) : 30 ≤ f ∧ f ≤ 70 := by
  unfold memberPumpFloor at h
  split at h
  · cases h
  · dsimp only at h
    split at h
    · obtain rfl := Option.some.inj h
      exact pumpFloorPct_mem _
    · cases h

/-- Only a header or an OpenFan channel has a hard floor. -/
theorem memberIsGpu_of_hard (h : floorIsHard member prot = true) : memberIsGpu member = false := by
  unfold floorIsHard memberNeedsHardFloor memberIsPumpOrCpu assignedRoleEarnsHardFloor sourceTakesRole memberPumpFloor
    at h
  unfold memberIsGpu memberIsGpuSource
  cases hs : member.source <;> simp [hs] at h ⊢

theorem hard_le_effectiveFloor (control : LogicalControl ℚ) (h : floorIsHard member prot = true) :
    30 ≤ memberEffectiveFloor control member prot := by
  unfold memberEffectiveFloor
  rw [memberIsGpu_of_hard h]
  rw [if_neg Bool.false_ne_true]
  dsimp only
  cases hp : memberPumpFloor member prot with
  | some f => exact (memberPumpFloor_mem hp).1.trans (le_max_right _ _)
  | none =>
    have hlabel : (memberNeedsHardFloor member || assignedRoleEarnsHardFloor member prot.assignedRoles) = true := by
      unfold floorIsHard at h
      rwa [hp, Option.isSome_none, Bool.or_false] at h
    rw [if_pos hlabel]
    exact le_max_right _ _

theorem effectiveFloor_le (member : ControlMember) (prot : Protection) {control : LogicalControl ℚ}
    (h : control.minimumPct ≤ 100) :
    memberEffectiveFloor control member prot ≤ 100 := by
  have hbase : (if memberNeedsHardFloor member || assignedRoleEarnsHardFloor member prot.assignedRoles then
      max control.minimumPct hardPumpCpuFloorPct else control.minimumPct) ≤ 100 := by
    split
    · exact max_le h (by unfold hardPumpCpuFloorPct; norm_num)
    · exact h
  unfold memberEffectiveFloor
  split
  · norm_num
  · dsimp only
    split
    · next f hp => exact max_le hbase ((memberPumpFloor_mem hp).2.trans (by norm_num))
    · exact hbase

/-- Where a step-rate tracker lets the output reach a floor: there is none yet, one step up from it
rounds to the floor, or it stands at zero and the start kick does. -/
def FloorReached (control : LogicalControl ℚ) (lastOutput : Option ℚ) (floor : ℚ) : Prop :=
  match lastOutput with
  | none => True
  | some last =>
    roundPct floor ≤ roundPct (last + max control.stepUpPct 0) ∨
      (last = 0 ∧ 0 < control.startPct ∧ roundPct floor ≤ roundPct control.startPct)

instance (control : LogicalControl ℚ) (lastOutput : Option ℚ) (floor : ℚ) :
    Decidable (FloorReached control lastOutput floor) := by
  unfold FloorReached
  split <;> infer_instance

theorem le_demand (control : LogicalControl ℚ) (rawOutput floor : ℚ) : floor ≤ demand control rawOutput floor := by
  unfold demand
  split
  · exact le_refl _
  · next h => exact not_lt.mp h

/-- **The hard floor after tuning** holds, once rounded, exactly where the tracker reaches it: the offset,
the step down and the stop threshold never break it. -/
theorem hardFloor_tuned (control : LogicalControl ℚ) (rawOutput : ℚ) (lastOutput : Option ℚ) {floor : ℚ}
    (hfloor : 0 < floor) :
    roundPct floor ≤ roundPct (applyTuningWithFloor control rawOutput lastOutput floor true) ↔
      FloorReached control lastOutput floor := by
  have hdemand := le_demand control rawOutput floor
  have hstop : ∀ x, stopSnap control true x = x := fun x => by simp [stopSnap]
  have hround := roundPct_mono hdemand
  unfold applyTuningWithFloor
  dsimp only
  rw [hstop, roundPct_clampPct]
  cases lastOutput with
  | none =>
    have hkick : startKick control true none (demand control rawOutput floor)
        (rateLimit control none (demand control rawOutput floor)) = demand control rawOutput floor := by
      unfold startKick rateLimit
      rw [if_neg (by simp)]
    rw [hkick]
    exact ⟨fun _ => trivial, fun _ => hround⟩
  | some last =>
    have hrate : roundPct floor ≤ roundPct (rateLimit control (some last) (demand control rawOutput floor)) ↔
        roundPct floor ≤ roundPct (last + max control.stepUpPct 0) := by
      unfold rateLimit
      dsimp only
      rw [roundPct_mono.map_min, roundPct_mono.map_max, le_min_iff]
      exact and_iff_right (hround.trans (le_max_left _ _))
    unfold startKick FloorReached
    split
    · next hon =>
      obtain ⟨-, hzero, hstart⟩ := hon
      rw [roundPct_mono.map_max, le_max_iff, hrate]
      refine or_congr_right ⟨fun h => ⟨Option.some.inj hzero, hstart, h⟩, fun h => h.2.2⟩
    · next hon =>
      rw [hrate]
      refine ⟨.inl, fun h => h.resolve_right ?_⟩
      rintro ⟨rfl, hstart, -⟩
      exact hon ⟨⟨hfloor.trans_le hdemand, .inl rfl⟩, rfl, hstart⟩

end HardFloor

end ControlOfc.Engine
