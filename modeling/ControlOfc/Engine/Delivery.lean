import ControlOfc.Engine.Evaluate
import ControlOfc.OpenFan.Controller
/-! # Outputs and who can write them (profile_engine/skipped.rs:80-193, serial/mod.rs:28-69)

A member names an output by its source and its id. Several spellings name one OpenFan channel: the
parser takes any `u8`.
-/
namespace ControlOfc.Engine
open Profile Override OpenFan

/-- `OpenFanMemberIdError` (serial/mod.rs:49). -/
inductive OpenFanMemberIdError where
  | notOpenFan
  | unparseableChannel
  deriving DecidableEq, Repr

/-- `openfan_channel_of` (serial/mod.rs:62). -/
def openfanChannelOf (memberId : String) : Except OpenFanMemberIdError Nat :=
  match Text.stripPrefix "openfan:ch".toList memberId.toList with
  | none => .error .notOpenFan
  | some suffix =>
    match Text.parseU8 suffix with
    | some ch => .ok ch
    | none => .error .unparseableChannel

/-- What the thermal force can write: an OpenFan channel or an hwmon header. -/
inductive Output where
  | openfan (channel : Nat)
  | hwmon (headerId : String)
  deriving DecidableEq, Repr

/-- The output a member or a command names. A malformed OpenFan id names none, a GPU is never forced. -/
def outputOf (source : Source) (memberId : String) : Option Output :=
  match source with
  | .openfan => (openfanChannelOf memberId).toOption.map .openfan
  | .hwmon => some (.hwmon memberId)
  | _ => none

/-- The backends of this machine: an adopted OpenFanController, the headers of an hwmon backend in
`forced_target_ids` order, whether they were read when it was built, the GPU fans it can write. -/
structure Backends where
  openfan : Bool
  headers : Option (List String)
  measured : Bool
  gpuFans : List String

/-- `HwmonTargets` (skipped.rs:85). -/
inductive HwmonTargets where
  | absent
  | unmeasured
  | writable (ids : List String)
  deriving DecidableEq, Repr

/-- `DeliveryTargets` (skipped.rs:101). -/
structure DeliveryTargets where
  openfan : Bool
  hwmon : HwmonTargets
  amdGpu : List String

/-- `delivery_targets` of the backends (backends.rs:1901, 2450). -/
def Backends.deliveryTargets (b : Backends) : DeliveryTargets where
  openfan := b.openfan
  hwmon := match b.headers with
    | none => .absent
    | some ids => if b.measured then .writable ids else .unmeasured
  amdGpu := b.gpuFans

/-- `member_is_deliverable` (skipped.rs:154). -/
def memberIsDeliverable (member : ControlMember) (targets : DeliveryTargets) : Bool :=
  match member.source with
  | .openfan => targets.openfan
  | .hwmon =>
    match targets.hwmon with
    | .absent => false
    | .unmeasured => true
    | .writable ids => ids.contains member.memberId
  | .amdGpu => targets.amdGpu.contains member.memberId
  | _ => false

/-- `Deliverability` (skipped.rs). -/
inductive Deliverability where
  | noMembers
  | none
  | partly
  | all
  deriving DecidableEq, Repr

/-- `control_deliverability` (skipped.rs:175). -/
def controlDeliverability (control : LogicalControl ℚ) (targets : DeliveryTargets) : Deliverability :=
  if control.members.isEmpty then .noMembers
  else
    let live := control.members.countP (memberIsDeliverable · targets)
    if live = 0 then .none
    else if live = control.members.length then .all
    else .partly

/-- One turn of the loop of `note_backend_unavailable` (mod.rs:247-287). -/
def noteControl (overrides : OverrideSnapshot) (targets : DeliveryTargets) (s : ProfileEngineState)
    (control : LogicalControl ℚ) : ProfileEngineState :=
  if (overrides.controls.get? control.id).isSome || s.skippedThisTick.any (·.controlId = control.id) then s
  else
    match controlDeliverability control targets with
    | .none =>
      { s with
        skippedThisTick := s.skippedThisTick ++ [⟨control.id, control.name, .backendUnavailable⟩]
        tickOutputs := s.tickOutputs.remove control.id }
    | _ => s

/-- `note_backend_unavailable` (mod.rs:240). The ids it returns are only logged. -/
def ProfileEngineState.noteBackendUnavailable (s : ProfileEngineState) (p : DaemonProfile ℚ)
    (overrides : OverrideSnapshot) (targets : DeliveryTargets) : ProfileEngineState :=
  Machine.run (noteControl overrides targets) s p.controls

/-- `skipped_ids_this_tick` (mod.rs:295). -/
def ProfileEngineState.skippedIds (s : ProfileEngineState) : List String := s.skippedThisTick.map (·.controlId)

end ControlOfc.Engine
