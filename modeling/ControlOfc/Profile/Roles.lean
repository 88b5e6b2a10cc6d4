import ControlOfc.Profile.Model
import ControlOfc.Lib.KMap
import ControlOfc.Lib.Text
import Mathlib.Algebra.Order.Ring.Rat
/-! # Header roles and the hard floor (hwmon/roles.rs, profile.rs:647-897)

Which members must never drop below the pump floor. Three independent terms can say so: the member's
own labels, the user's role assignment, and the pump-protection union with what discovery inferred.
-/
namespace ControlOfc.Profile
open Text

/-- `HeaderRole` (hwmon/roles.rs). -/
inductive HeaderRole where
  | unknown
  | cpuFan
  | pump
  | radiatorFan
  | chassisFan
  | noFan
  deriving DecidableEq, Repr

/-- `RoleSource` (hwmon/roles.rs). -/
inductive RoleSource where
  | none
  | label
  | chipMapping
  | userAssigned
  deriving DecidableEq, Repr

/-- `HeaderRole::is_pump`. -/
def HeaderRole.isPump (r : HeaderRole) : Bool := r == .pump

/-- `source_takes_role`. -/
def sourceTakesRole (s : Source) : Bool := s == .hwmon || s == .openfan

/-- `resolve_role`. -/
def resolveRole (assigned : Option HeaderRole) (inferred : HeaderRole × RoleSource) : HeaderRole × RoleSource :=
  match assigned with
  | some role => (role, .userAssigned)
  | none => inferred

/-- `is_pump_protected` (hwmon/roles.rs:309). -/
def isPumpProtected (assigned : Option HeaderRole) (inferred : HeaderRole × RoleSource) (profileNamesPump : Bool) :
    Bool :=
  profileNamesPump || inferred.1.isPump || (resolveRole assigned inferred).1.isPump

/-! ## Ids -/

/-- Why a member id names no OpenFan channel (serial/mod.rs:48). -/
inductive OpenFanMemberIdError where
  | notOpenFan
  | unparseableChannel
  deriving DecidableEq, Repr

/-- `openfan_member_id` (serial/mod.rs:36). -/
def openfanMemberId (channel : Nat) : String :=
  "openfan:ch" ++ (if channel < 10 then "0" ++ toString channel else toString channel)

/-- `openfan_channel_of` (serial/mod.rs:62). -/
def openfanChannelOf (memberId : String) : Except OpenFanMemberIdError Nat :=
  match stripPrefix "openfan:ch".toList memberId.toList with
  | none => .error .notOpenFan
  | some suffix =>
    match parseU8 suffix with
    | some ch => .ok ch
    | none => .error .unparseableChannel

/-- `split_it87_suffix` (hwmon/chip_name.rs:69). -/
def splitIt87Suffix (raw : List Char) : Option (List Char) := do
  let (base, suffix) ← splitOnce ['_'] raw
  let digits ← stripPrefix "it".toList base
  if !isDigits digits then none
  if suffix.length ≠ 8 ∨ ¬ suffix.all fun c => c.isDigit || ('a' ≤ c && c ≤ 'f') || ('A' ≤ c && c ≤ 'F') then none
  return base

/-- `canonical_hwmon_id` (hwmon/chip_name.rs:112). -/
def canonicalHwmonId (id : String) : String :=
  match stripPrefix "hwmon:".toList id.toList with
  | none => id
  | some rest =>
    match splitOnce [':'] rest with
    | none => id
    | some (chip, rest) =>
      match splitIt87Suffix chip with
      | some base => "hwmon:" ++ String.ofList base ++ ":" ++ String.ofList rest
      | none => id

/-- `role_key` (hwmon/roles.rs). -/
def roleKey (id : String) : String :=
  match openfanChannelOf id with
  | .ok channel => openfanMemberId channel
  | .error _ => canonicalHwmonId id

/-! ## Labels -/

/-- `LIQUID_COOLER_CHIPS` (hwmon/aio.rs:43). -/
def liquidCoolerChips : List (List Char) :=
  ["x53", "z53", "kraken2023", "kraken2023elite", "kraken2024elite", "kraken2", "d5next", "highflownext",
    "leakshield"].map String.toList

/-- `is_liquid_cooler_chip` (hwmon/aio.rs:114). -/
def isLiquidCoolerChip (chip : List Char) : Bool := liquidCoolerChips.contains (toLowercase chip)

/-- `CPU_PUMP_LABEL_HINTS` (profile.rs). -/
def cpuPumpLabelHints : List (List Char) := ["cpu", "pump", "aio"].map String.toList

/-- `PUMP_LABEL_HINTS` (profile.rs). -/
def pumpLabelHints : List (List Char) := ["pump", "aio"].map String.toList

/-- The test both label predicates share: the lower-cased label contains one of the hints. -/
def labelHints (hints : List (List Char)) (label : List Char) : Bool :=
  hints.any fun hint => contains (toLowercase label) hint

/-- `member_is_gpu_source` (profile.rs). -/
def memberIsGpuSource (s : Source) : Bool := s == .amdGpu || s == .intelGpu || s == .nvidiaGpu

/-- `member_is_gpu`. -/
def memberIsGpu (m : ControlMember) : Bool := memberIsGpuSource m.source

/-- `member_is_pump_or_cpu` (profile.rs). -/
def memberIsPumpOrCpu (m : ControlMember) : Bool :=
  m.source == .hwmon &&
    (labelHints cpuPumpLabelHints m.memberLabel.toList ||
      isLiquidCoolerChip ((secondField ':' m.memberId.toList).getD []))

/-- `daemon_label_from_member_id` (profile.rs): the label discovery minted into the id. -/
def daemonLabelFromMemberId (memberId : String) : Option (List Char) := do
  let (_, afterMarker) ← splitOnce ":pwm".toList memberId.toList
  let (_, label) ← splitOnce [':'] afterMarker
  return label

/-- `member_needs_hard_floor` (profile.rs). -/
def memberNeedsHardFloor (m : ControlMember) : Bool :=
  memberIsPumpOrCpu m ||
    (m.source == .hwmon && ((daemonLabelFromMemberId m.memberId).map (labelHints cpuPumpLabelHints)).getD false)

/-- `member_label_names_pump` (profile.rs). -/
def memberLabelNamesPump (m : ControlMember) : Bool :=
  m.source == .hwmon &&
    (labelHints pumpLabelHints m.memberLabel.toList ||
      ((daemonLabelFromMemberId m.memberId).map (labelHints pumpLabelHints)).getD false)

/-- `assigned_role_earns_hard_floor` (profile.rs:884). -/
def assignedRoleEarnsHardFloor (m : ControlMember) (assigned : KMap String HeaderRole) : Bool :=
  sourceTakesRole m.source &&
    match assigned.get? (roleKey m.memberId) with
    | some .pump | some .cpuFan => true
    | _ => false

/-! ## Floors -/

/-- `HARD_PUMP_CPU_FLOOR_PCT`. -/
def hardPumpCpuFloorPct : ℚ := 30

/-- `DC_PUMP_FLOOR_PCT`. -/
def dcPumpFloorPct : ℚ := 70

/-- `PWM_MODE_DC`. -/
def pwmModeDc : Nat := 0

/-- `pump_floor_pct` (profile.rs). -/
def pumpFloorPct (pwmMode : Option Nat) : ℚ := if pwmMode = some pwmModeDc then dcPumpFloorPct else hardPumpCpuFloorPct

end ControlOfc.Profile
