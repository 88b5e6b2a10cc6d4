import ControlOfc.Lib.Machine
import ControlOfc.Lib.KMap
import Mathlib.Tactic.Cases
/-! # The manual-override table (control_override.rs)

Clients pin a control with `take_override` and keep it pinned by renewing with the token the take
issued; identify holds pin single fans. Tokens come from one counter, so a superseded client is
fenced out. `Instant` and `Duration` are nanoseconds, and the table's methods take the clock
reading they make.

The ids a `retain` drops come back as their membership test: the source's lists are in hash order
or sorted, and nobody reads a position. `next_token` is a `u64` whose `2^64` takes are out of reach,
so it is a number here.
-/
namespace ControlOfc.Override

/-- `OverrideReject` (control_override.rs:47). -/
inductive OverrideReject where
  | staleToken
  | notActive
  deriving DecidableEq, Repr

/-- `ControlOverride` (control_override.rs:69). -/
structure ControlOverride where
  token : Nat
  pwmPercent : Nat
  expiresAt : Nat
  deriving DecidableEq, Repr

/-- `IdentifyMode` (control_override.rs:77). -/
inductive IdentifyMode where
  | stop
  | pumpPerturb
  deriving DecidableEq, Repr

/-- `IdentifyEntry` (control_override.rs:139). -/
structure IdentifyEntry where
  expiresAt : Nat
  targetPct : Nat
  mode : IdentifyMode
  deriving DecidableEq, Repr

/-- `OverrideGrant` (control_override.rs:156). -/
structure OverrideGrant where
  token : Nat
  ttlSecs : Nat
  expiresInSecs : Nat
  deriving DecidableEq, Repr

/-- `OverrideSnapshot` (control_override.rs:164). -/
structure OverrideSnapshot where
  controls : KMap String Nat
  identify : KMap String Nat

/-- `SweepCleared` (control_override.rs:200): which ids a sweep dropped. -/
structure SweepCleared where
  controls : String → Bool
  fans : String → Bool

/-- `OverrideTable` (control_override.rs:212), its clock apart. -/
structure OverrideTable where
  controls : KMap String ControlOverride
  identify : KMap String IdentifyEntry
  nextToken : Nat

/-- `Duration::as_secs` of a span in nanoseconds. -/
def asSecs (ns : Nat) : Nat := ns / 1000000000

namespace OverrideTable

/-- `with_clock` (control_override.rs:235). -/
def new : OverrideTable := ⟨.empty, .empty, 0⟩

/-- `take_override` (control_override.rs:247). -/
def takeOverride (t : OverrideTable) (now : Nat) (controlId : String) (pwmPercent ttl : Nat) :
    OverrideTable × OverrideGrant :=
  let token := t.nextToken + 1
  ({ t with controls := t.controls.insert controlId ⟨token, pwmPercent, now + ttl⟩, nextToken := token },
    ⟨token, asSecs ttl, asSecs ttl⟩)

/-- `renew_override` (control_override.rs:275). -/
def renewOverride (t : OverrideTable) (now : Nat) (controlId : String) (token ttl : Nat) :
    OverrideTable × Except OverrideReject OverrideGrant :=
  match t.controls.get? controlId with
  | some ov =>
    if ov.token = token ∧ now < ov.expiresAt then
      ({ t with controls := t.controls.insert controlId { ov with expiresAt := now + ttl } },
        .ok ⟨token, asSecs ttl, asSecs ttl⟩)
    else if now < ov.expiresAt then (t, .error .staleToken)
    else (t, .error .notActive)
  | none => (t, .error .notActive)

/-- `release_override` (control_override.rs:302). -/
def releaseOverride (t : OverrideTable) (now : Nat) (controlId : String) (token : Nat) :
    OverrideTable × Except OverrideReject Unit :=
  match t.controls.get? controlId with
  | some ov =>
    if ov.token = token ∧ now < ov.expiresAt then
      ({ t with controls := t.controls.remove controlId }, .ok ())
    else if now < ov.expiresAt then (t, .error .staleToken)
    else (t, .error .notActive)
  | none => (t, .error .notActive)

/-- `clear_all_overrides` (control_override.rs:329): identify holds stay. -/
def clearAllOverrides (t : OverrideTable) : OverrideTable := { t with controls := .empty }

/-- `identify_hold` (control_override.rs:342). -/
def identifyHold (t : OverrideTable) (now : Nat) (fanId : String) (targetPct : Nat) (mode : IdentifyMode)
    (ttl : Nat) : OverrideTable :=
  { t with identify := t.identify.insert fanId ⟨now + ttl, targetPct, mode⟩ }

/-- `identify_restore` (control_override.rs:361). -/
def identifyRestore (t : OverrideTable) (fanId : String) : OverrideTable :=
  { t with identify := t.identify.remove fanId }

/-- `release_identify_stops` (control_override.rs:379): stops on the fans named, perturbations stay. -/
def releaseIdentifyStops (t : OverrideTable) (fanIds : String → Bool) : OverrideTable × (String → Bool) :=
  let release id (e : IdentifyEntry) := e.mode == .stop && fanIds id
  ({ t with identify := t.identify.retain fun id e => !release id e },
    fun id => (t.identify.get? id).any (release id))

/-- `release_for_maintenance` (control_override.rs:401). -/
def releaseForMaintenance (t : OverrideTable) (controlIds : String → Bool) (isOpenfan : String → Bool) :
    OverrideTable × (String → Bool) × (String → Bool) :=
  ({ t with controls := t.controls.retain fun id _ => !controlIds id,
            identify := t.identify.retain fun id _ => !isOpenfan id },
    fun id => (t.controls.get? id).any fun _ => controlIds id,
    fun id => (t.identify.get? id).any fun _ => isOpenfan id)

/-- `sweep` (control_override.rs:430): drop what has expired. -/
def sweep (t : OverrideTable) (now : Nat) : OverrideTable × SweepCleared :=
  ({ t with controls := t.controls.retain fun _ ov => now < ov.expiresAt,
            identify := t.identify.retain fun _ e => now < e.expiresAt },
    ⟨fun id => (t.controls.get? id).any fun ov => !(now < ov.expiresAt),
     fun id => (t.identify.get? id).any fun e => !(now < e.expiresAt)⟩)

/-- `snapshot` (control_override.rs:452): the live entries only, swept or not. -/
def snapshot (t : OverrideTable) (now : Nat) : OverrideSnapshot :=
  ⟨t.controls.filterMap fun _ ov => if now < ov.expiresAt then some ov.pwmPercent else none,
   t.identify.filterMap fun _ e => if now < e.expiresAt then some e.targetPct else none⟩

end OverrideTable

/-! ## One call -/

namespace OverrideTable

variable {t : OverrideTable} {now : Nat} {c : String} {token : Nat}

/-- The stored override of `c` is live at `now` and carries `token`. -/
def Holds (t : OverrideTable) (now : Nat) (c : String) (token : Nat) : Prop :=
  ∃ ov, t.controls.get? c = some ov ∧ ov.token = token ∧ now < ov.expiresAt

theorem renewOverride_of_holds {ov : ControlOverride} (h : t.controls.get? c = some ov) (hlive : now < ov.expiresAt)
    (ttl : Nat) :
    t.renewOverride now c ov.token ttl =
      ({ t with controls := t.controls.insert c { ov with expiresAt := now + ttl } },
        .ok ⟨ov.token, asSecs ttl, asSecs ttl⟩) := by
  simp [renewOverride, h, hlive]

theorem releaseOverride_of_holds {ov : ControlOverride} (h : t.controls.get? c = some ov)
    (hlive : now < ov.expiresAt) :
    t.releaseOverride now c ov.token = ({ t with controls := t.controls.remove c }, .ok ()) := by
  simp [releaseOverride, h, hlive]

/-- Why a renewal or a release is refused: another token while live, nothing live otherwise. -/
def rejection (t : OverrideTable) (now : Nat) (c : String) : OverrideReject :=
  match t.controls.get? c with
  | some ov => if now < ov.expiresAt then .staleToken else .notActive
  | none => .notActive

theorem renewOverride_of_not_holds (h : ¬ t.Holds now c token) (ttl : Nat) :
    t.renewOverride now c token ttl = (t, .error (t.rejection now c)) := by
  unfold renewOverride rejection
  cases hc : t.controls.get? c with
  | none => rfl
  | some ov =>
    have hno : ¬ (ov.token = token ∧ now < ov.expiresAt) := fun hh => h ⟨ov, hc, hh⟩
    simp only [if_neg hno]
    split <;> rfl

theorem releaseOverride_of_not_holds (h : ¬ t.Holds now c token) :
    t.releaseOverride now c token = (t, .error (t.rejection now c)) := by
  unfold releaseOverride rejection
  cases hc : t.controls.get? c with
  | none => rfl
  | some ov =>
    have hno : ¬ (ov.token = token ∧ now < ov.expiresAt) := fun hh => h ⟨ov, hc, hh⟩
    simp only [if_neg hno]
    split <;> rfl

/-- A snapshot shows a control's duty exactly while its override is live. -/
theorem snapshot_controls (t : OverrideTable) (now : Nat) (c : String) (pct : Nat) :
    (t.snapshot now).controls.get? c = some pct ↔
      ∃ ov, t.controls.get? c = some ov ∧ now < ov.expiresAt ∧ ov.pwmPercent = pct := by
  cases h : t.controls.get? c <;> simp [snapshot, h]

end OverrideTable

end ControlOfc.Override
