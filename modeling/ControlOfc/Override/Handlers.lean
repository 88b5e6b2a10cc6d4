import ControlOfc.Override.Table
import ControlOfc.Config.HeaderRoles
/-! # Overrides and identify holds among the other handlers

Who touches the override table, at its lock boundaries: `override_take_handler`, renew, release and
`fan_identify_handler` (api/handlers/control.rs), `commit_activation` and `deactivate_and_persist`
(api/handlers/profile.rs), `update_header_role_handler` (api/handlers/config.rs), an update's
`release_openfan_overrides` (api/handlers/openfan_firmware.rs) and the engine's tick
(profile_engine/mod.rs:1481-1560).

`active_profile` and `override_table` are locks, so one handler at a time is inside either: `Guard` says
which and how far it is. `config_write` lets one role edit in at a time, and a request that is dropped
lets go of it. Every other client waits, and is not in the state. What a handler does between two
acquisitions is a move of its own; a move whose lock is not free does nothing.
-/
namespace ControlOfc.Override
open Profile Config

/-- `OVERRIDE_TTL_SECS` (constants.rs:235). -/
def overrideTtlSecs : Nat := 15

/-- `resolve_ttl` (control.rs:28), as a `Duration`. -/
def resolveTtl (requested : Option Nat) : Nat := min (max (requested.getD overrideTtlSecs) 1) overrideTtlSecs * 1000000000

/-- `IDENTIFY_PUMP_DELTA_PCT` (constants.rs:249). -/
def identifyPumpDeltaPct : Nat := 25

/-- `IDENTIFY_PUMP_BASELINE_FALLBACK_PCT` (constants.rs:265). -/
def identifyPumpBaselineFallbackPct : Nat := 60

/-- `identify_target_for_role` (control_override.rs:116), on `u8` percentages. -/
def identifyTargetForRole (role : HeaderRole) (lastCommandedPct : Option Nat) (pumpFloor : Nat) : Nat × IdentifyMode :=
  if !role.isPump then (0, .stop)
  else
    let floor := max pumpFloor 30
    let baseline := lastCommandedPct.getD identifyPumpBaselineFallbackPct
    let raised := min (baseline + identifyPumpDeltaPct) 255
    let target := if raised ≤ 100 then raised else baseline - identifyPumpDeltaPct
    (max floor (min target 100), .pumpPerturb)

/-- A fan the fan list shows. Discovery mints its id canonical: the chip name without the driver's suffix,
an OpenFan channel padded. -/
structure ListedFan where
  id : String
  canonical : roleKey id = id

/-- A stop request that found its fan in the list and no update running, with what it read before it took a
lock. -/
structure StopRequest where
  fan : ListedFan
  lastCommanded : Option Nat
  pumpFloor : Nat
  ttl : Option Nat

/-- `pump_header_ids` (api/handlers/mod.rs:1007), as a membership test. -/
def pumpHeaderIds {F : Type} (p : DaemonProfile F) (id : String) : Bool :=
  p.controls.any fun c => c.members.any fun m => memberLabelNamesPump m && m.memberId == id

/-- The profile has a control of this id. -/
def hasControl {F : Type} (p : DaemonProfile F) (id : String) : Bool := p.controls.any fun c => c.id == id

/-- The profile's control of this id has an OpenFan member (control.rs:79). -/
def drivesOpenfan {F : Type} (p : DaemonProfile F) (id : String) : Bool :=
  p.controls.any fun c => c.id == id && c.members.any fun m => m.source == .openfan

/-- The controls `release_openfan_overrides` collects (openfan_firmware.rs:549). -/
def openfanControls {F : Type} (p : DaemonProfile F) (id : String) : Bool :=
  p.controls.any fun c => c.members.any (fun m => m.source == .openfan) && c.id == id

/-- `openfan_channel_of(id).is_ok()`. -/
def isOpenfanId (id : String) : Bool := (openfanChannelOf id).toBool

/-- How far the holder of the `active_profile` guard is. -/
inductive Guard (F : Type) where
  | free
  /-- A take: the profile has the control. -/
  | taking (control : String) (pwmPercent ttl : Nat) (openfan : Bool)
  /-- The same, `override_table` held too and no update running. -/
  | inserting (control : String) (pwmPercent ttl : Nat)
  /-- An identify stop: whether the profile names the fan a pump. -/
  | identifying (request : StopRequest) (profileNamesPump : Bool)
  /-- The same, `override_table` held too and the hold decided. -/
  | holding (fan : String) (targetPct : Nat) (mode : IdentifyMode) (ttl : Nat)
  /-- An activation that has swapped the profile and bumped the epoch. -/
  | activating (replaced : Option (DaemonProfile F)) (pumpIds : String → Bool)
  /-- A deactivation that has taken the profile out. -/
  | deactivating (replaced : Option (DaemonProfile F))

/-- `override_table` is held over more than one move. -/
def Guard.holdsTable {F : Type} : Guard F → Bool
  | .inserting .. | .holding .. => true
  | _ => false

/-- An activation is between its swap and its clear. -/
def Guard.midSwap {F : Type} : Guard F → Bool
  | .activating .. => true
  | _ => false

/-- How far the role edit that holds `config_write` is. -/
inductive RoleEdit where
  | idle
  /-- Its save is running, or done and not yet committed. -/
  | saving (header : String) (role : Option HeaderRole) (saved : SavedRoles) (landed : Bool)
  /-- The map is swapped, and the header it made a pump is still to be released. -/
  | releasing (header : String)

/-- How far a firmware update is; `openfan_maintenance_running` from the claim to the end. -/
inductive Maintenance where
  | idle
  | claimed
  | collected (controls : String → Bool)
  | running

def Maintenance.isRunning : Maintenance → Bool
  | .idle => false
  | _ => true

/-- What the engine's tick took from the override table: the table as its sweep left it and the clock it
read. Beside that, for the statements, the profile epoch then and whether an activation was between its
swap and its clear. -/
structure Sight where
  table : OverrideTable
  now : Nat
  epoch : Nat
  midSwap : Bool

/-- `engine_state`'s copy of the overrides: `snapshot` (control_override.rs:452). -/
def Sight.overrides (s : Sight) : KMap String Nat := (s.table.snapshot s.now).controls

/-- The daemon as the table's users see it. `epoch` is `profile_activation_epoch`, a `u64` no run can wrap.
`takenAt` is the epoch each override token was issued in and `lastEpoch` the one the last tick read: both
are for the statements only. -/
structure World (F : Type) where
  now : Nat
  profile : Option (DaemonProfile F)
  guard : Guard F
  table : OverrideTable
  epoch : Nat
  headerRoles : KMap String HeaderRole
  edit : RoleEdit
  file : SavedRoles
  late : List SavedRoles
  maintenance : Maintenance
  tick : Option Sight
  lastEpoch : Option Nat
  takenAt : Nat → Nat

/-- What can happen next. -/
inductive Move (F : Type) where
  | elapse (ns : Nat)
  | take (control : String) (pwmPercent : Nat) (ttl : Option Nat)
  | takeTable
  | takeInsert
  | renew (control : String) (token : Nat)
  | release (control : String) (token : Nat)
  | identifyStop (request : StopRequest)
  | identifyTable
  | identifyInsert
  | identifyRestore (fan : String)
  | activate (p : DaemonProfile F)
  | activateClear
  | deactivate
  | deactivateClear
  | claim
  | collect
  | releaseOpenfan
  | updateEnds
  | editRole (header : String) (role : Option HeaderRole)
  | saveLands
  | saveFails
  | editDropped
  | editCommits
  | editReleases
  | lateSaveLands (i : Nat)
  | lateSaveFails (i : Nat)
  | fileBecomes (saved : SavedRoles)
  | snapshot
  | evaluate

namespace World

variable {F : Type}

/-- The daemon at start: nothing is held, the roles are the file's. -/
def boot (profile : Option (DaemonProfile F)) (saved : SavedRoles) : World F :=
  ⟨0, profile, .free, .new, 0, headerRolesParsed saved, .idle, saved, [], .idle, none, none, fun _ => 0⟩

/-- `fan_identify_handler`'s decision (control.rs:268), from the role map as it is now. -/
def decide (w : World F) (inferred : String → HeaderRole × RoleSource) (r : StopRequest) (profileNamesPump : Bool) :
    Nat × IdentifyMode :=
  let assigned := w.headerRoles.get? (roleKey r.fan.id)
  let role :=
    if isPumpProtected assigned (inferred r.fan.id) profileNamesPump then .pump
    else (resolveRole assigned (inferred r.fan.id)).1
  identifyTargetForRole role r.lastCommanded r.pumpFloor

/-- A move on the override table alone. -/
def onTable (w : World F) (f : OverrideTable → OverrideTable) : World F :=
  if w.guard.holdsTable then w else { w with table := f w.table }

/-- One move; `inferred` is the role discovery gave each header. -/
def step (inferred : String → HeaderRole × RoleSource) (w : World F) : Move F → World F
  | .elapse ns => { w with now := w.now + ns }
  | .take control pwmPercent ttl =>
    match w.guard, w.profile with
    | .free, some p =>
      if pwmPercent ≤ 100 ∧ hasControl p control then
        { w with guard := .taking control pwmPercent (resolveTtl ttl) (drivesOpenfan p control) }
      else w
    | _, _ => w
  | .takeTable =>
    match w.guard with
    | .taking control pwmPercent ttl openfan =>
      -- the refusal drops both guards
      if openfan && w.maintenance.isRunning then { w with guard := .free }
      else { w with guard := .inserting control pwmPercent ttl }
    | _ => w
  | .takeInsert =>
    match w.guard with
    | .inserting control pwmPercent ttl =>
      let (table, grant) := w.table.takeOverride w.now control pwmPercent ttl
      { w with
        guard := .free, table
        takenAt := fun token => if token = grant.token then w.epoch else w.takenAt token }
    | _ => w
  | .renew control token => w.onTable fun t => (t.renewOverride w.now control token (resolveTtl none)).1
  | .release control token => w.onTable fun t => (t.releaseOverride w.now control token).1
  | .identifyStop r =>
    match w.guard with
    | .free => { w with guard := .identifying r (w.profile.any fun p => pumpHeaderIds p r.fan.id) }
    | _ => w
  | .identifyTable =>
    match w.guard with
    | .identifying r profileNamesPump =>
      if isOpenfanId r.fan.id && w.maintenance.isRunning then { w with guard := .free }
      else
        let (targetPct, mode) := w.decide inferred r profileNamesPump
        { w with guard := .holding r.fan.id targetPct mode (resolveTtl r.ttl) }
    | _ => w
  | .identifyInsert =>
    match w.guard with
    | .holding fan targetPct mode ttl =>
      { w with guard := .free, table := w.table.identifyHold w.now fan targetPct mode ttl }
    | _ => w
  | .identifyRestore fan => w.onTable fun t => t.identifyRestore fan
  | .activate p =>
    match w.guard with
    | .free => { w with profile := some p, guard := .activating w.profile (pumpHeaderIds p), epoch := w.epoch + 1 }
    | _ => w
  | .activateClear =>
    match w.guard with
    | .activating _ pumpIds =>
      { w with guard := .free, table := (w.table.clearAllOverrides.releaseIdentifyStops pumpIds).1 }
    | _ => w
  | .deactivate =>
    match w.guard with
    | .free => { w with profile := none, guard := .deactivating w.profile }
    | _ => w
  | .deactivateClear =>
    match w.guard with
    | .deactivating _ => { w with guard := .free, table := w.table.clearAllOverrides }
    | _ => w
  | .claim =>
    match w.maintenance with
    | .idle => { w with maintenance := .claimed }
    | _ => w
  | .collect =>
    match w.maintenance, w.guard with
    | .claimed, .free => { w with maintenance := .collected fun id => w.profile.any fun p => openfanControls p id }
    | _, _ => w
  | .releaseOpenfan =>
    match w.maintenance with
    | .collected controls =>
      if w.guard.holdsTable then w
      else { w with maintenance := .running, table := (w.table.releaseForMaintenance controls isOpenfanId).1 }
    | _ => w
  | .updateEnds => { w with maintenance := .idle }
  | .editRole header role =>
    match w.edit with
    | .idle => { w with edit := .saving (roleKey header) role (setHeaderRole w.file (roleKey header) role) false }
    | _ => w
  | .saveLands =>
    match w.edit with
    | .saving header role saved false => { w with edit := .saving header role saved true, file := saved }
    | _ => w
  | .saveFails =>
    match w.edit with
    | .saving _ _ _ false => { w with edit := .idle }
    | _ => w
  | .editDropped =>
    match w.edit with
    | .saving _ _ saved landed => { w with edit := .idle, late := if landed then w.late else w.late ++ [saved] }
    | _ => w
  | .editCommits =>
    match w.edit with
    | .saving header role saved true =>
      { w with
        headerRoles := headerRolesParsed saved
        edit := if role.any HeaderRole.isPump then .releasing header else .idle }
    | _ => w
  | .editReleases =>
    match w.edit with
    | .releasing header =>
      if w.guard.holdsTable then w else { w with edit := .idle, table := w.table.identifyRestore header }
    | _ => w
  | .lateSaveLands i =>
    match w.late[i]? with
    | some saved => { w with file := saved, late := w.late.eraseIdx i }
    | none => w
  | .lateSaveFails i => { w with late := w.late.eraseIdx i }
  | .fileBecomes saved => { w with file := saved }
  | .snapshot =>
    if w.guard.holdsTable ∨ w.tick.isSome then w
    else
      let swept := (w.table.sweep w.now).1
      { w with
        table := swept
        tick := some ⟨swept, w.now, w.epoch, w.guard.midSwap⟩ }
  | .evaluate =>
    match w.guard, w.tick with
    | .free, some _ => { w with tick := none, lastEpoch := some w.epoch }
    | _, _ => w

/-- The profile a holder of the guard would find: while an activation or a deactivation is inside, the one
it replaces. -/
def active (w : World F) : Option (DaemonProfile F) :=
  match w.guard with
  | .activating replaced _ => replaced
  | .deactivating replaced => replaced
  | _ => w.profile

/-- The tick that is about to read the profile is the first to see an activated one. -/
def FirstSees (w : World F) (s : Sight) : Prop :=
  w.guard = .free ∧ w.tick = some s ∧ w.profile.isSome ∧ w.lastEpoch ≠ some w.epoch

/-- `is_pump_protected`, on what the daemon holds now. -/
def pumpProtected (w : World F) (inferred : String → HeaderRole × RoleSource) (fan : String) : Bool :=
  isPumpProtected (w.headerRoles.get? (roleKey fan)) (inferred fan) (w.profile.any fun p => pumpHeaderIds p fan)

end World

end ControlOfc.Override
