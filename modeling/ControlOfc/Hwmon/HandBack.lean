import ControlOfc.Hwmon.Sysfs
import ControlOfc.Lib.KMap
import ControlOfc.Lib.Text
import ControlOfc.Pwm
import Mathlib.Tactic.SplitIfs
/-! # Giving a header back (hwmon/handback.rs)

The daemon takes a header by writing `pwmN_enable = 1`, and what the header was doing before the first
take is what it gets back. `HandBackLedger` tracks the headers with a mode switch and no other.
-/
namespace ControlOfc.Hwmon
open Pwm

/-- `HandBack` (handback.rs:98). -/
inductive HandBack where
  | mode (value : Nat)
  | writeOnlyMode (value : Nat)
  | manual (raw : Nat)
  | fullSpeed
  deriving DecidableEq, Repr

/-- `NZXT_KRAKEN3_CHIPS` (aio.rs:90). -/
def nzxtKraken3Chips : List (List Char) :=
  ["x53".toList, "z53".toList, "kraken2023".toList, "kraken2023elite".toList, "kraken2024elite".toList]

/-- `is_nzxt_kraken3_chip` (aio.rs:100). -/
def isNzxtKraken3Chip (chip : String) : Bool := nzxtKraken3Chips.contains (Text.toLowercase chip.toList)

/-- `DELL_SMM_CHIP`, `DELL_SMM_BIOS_CONTROL` (handback.rs:78, 82). -/
def dellSmmChip : String := "dell_smm"
def dellSmmBiosControl : Nat := 2

/-- `FULL_SPEED_MIN_RAW` (handback.rs:89). -/
def fullSpeedMinRaw : Nat := 190

/-- `driver_rule` (handback.rs:169). -/
def driverRule (chip : String) (enable : Option Nat) : Option HandBack :=
  match enable with
  | some 2 => if isNzxtKraken3Chip chip then some .fullSpeed else none
  | none => if chip = dellSmmChip then some (.writeOnlyMode dellSmmBiosControl) else none
  | some _ => none

/-- `HandBack::from_reading` (handback.rs:126). -/
def HandBack.fromReading (chip : String) (enable rawPwm : Option Nat) : HandBack :=
  match driverRule chip enable with
  | some action => action
  | none =>
    match enable with
    | none => .fullSpeed
    | some 1 => (rawPwm.map HandBack.manual).getD .fullSpeed
    | some m => .mode m

/-- `HandBackOutcome` (handback.rs:182). -/
inductive HandBackOutcome where
  | restored
  | fullSpeed
  | failed
  deriving DecidableEq, Repr

def HandBackOutcome.released : HandBackOutcome → Bool
  | .failed => false
  | _ => true

/-! ## The ledger -/

/-- `Entry` (handback.rs:278). -/
structure LedgerEntry where
  enablePath : SysfsPath
  pwmPath : SysfsPath
  original : Option HandBack
  taken : Bool
  deriving DecidableEq, Repr

/-- `HandBackLedger` (handback.rs:312): its entries. The hand-back mark is `Sysfs.begun`. -/
abbrev HandBackLedger := KMap String LedgerEntry

namespace HandBackLedger

/-- `new` (handback.rs:329). -/
def new (hs : Headers) : HandBackLedger := fun id =>
  (hs.get? id).bind fun h =>
    if h.supportsEnable then h.enablePath.map fun ep => ⟨ep, h.pwmPath, none, false⟩ else none

/-- `needs_original` (handback.rs:408). -/
def needsOriginal (l : HandBackLedger) (id : String) : Bool := (l.get? id).any fun e => e.original.isNone

/-- `note_take` (handback.rs:423). -/
def noteTake (l : HandBackLedger) (id : String) (original : Option HandBack) : HandBackLedger :=
  match l.get? id with
  | some e => l.insert id { e with original := e.original.or original, taken := true }
  | none => l

/-- `taken_header` (handback.rs:464), with the action `taken` gives it (handback.rs:521). -/
def takenHeader (l : HandBackLedger) (id : String) : Option (LedgerEntry × HandBack) :=
  ((l.get? id).filter (·.taken)).map fun e => (e, e.original.getD .fullSpeed)

/-- `note_handed_back` (handback.rs:492). -/
def noteHandedBack (l : HandBackLedger) (id : String) : HandBackLedger :=
  match l.get? id with
  | some e => if e.taken then l.insert id { e with taken := false } else l
  | none => l

/-- `id` is a header the ledger tracks. -/
def Tracks (l : HandBackLedger) (id : String) : Prop := (l.get? id).isSome

@[simp] theorem tracks_noteTake (l : HandBackLedger) (id id' : String) (o : Option HandBack) :
    (l.noteTake id o).Tracks id' ↔ l.Tracks id' := by
  unfold noteTake Tracks
  cases h : l.get? id with
  | none => rfl
  | some e => by_cases hi : id' = id <;> simp [hi, h]

@[simp] theorem tracks_noteHandedBack (l : HandBackLedger) (id id' : String) :
    (l.noteHandedBack id).Tracks id' ↔ l.Tracks id' := by
  unfold noteHandedBack Tracks
  cases h : l.get? id with
  | none => rfl
  | some e =>
    by_cases ht : e.taken
    · by_cases hi : id' = id <;> simp [ht, hi, h]
    · simp [ht]

theorem tracks_of_takenHeader {l : HandBackLedger} {id : String} {e : LedgerEntry × HandBack}
    (h : l.takenHeader id = some e) : l.Tracks id := by
  unfold takenHeader at h
  unfold Tracks
  cases hg : l.get? id with
  | none => simp [hg] at h
  | some _ => rfl

/-- A header without a mode switch is never in the ledger. -/
theorem not_tracks_new {hs : Headers} {id : String} {h : PwmHeaderDescriptor} (hh : hs.get? id = some h)
    (hno : h.supportsEnable = false) : ¬ (new hs).Tracks id := by
  simp [Tracks, new, KMap.get?, hh, hno]

end HandBackLedger

/-! ## One hand-back -/

namespace Bus

/-- `manual_confirmed` (handback.rs:248). -/
def manualConfirmed (env : Sysfs) (b : Bus) (e : LedgerEntry) (raw : Nat) : Bool × Bus :=
  let m := b.read env e.enablePath
  if m.1 = some 1 then (true, m.2)
  else if m.1 = some 0 then
    let d := m.2.read env e.pwmPath
    (isFullSpeedAlias (rawToPercent raw) (d.1.map rawToPercent) (some 0), d.2)
  else (false, m.2)

/-- The fallback of `full_speed`: manual mode at 255 (handback.rs:236-242). -/
def manualFullSpeed (env : Sysfs) (b : Bus) (id : String) (e : LedgerEntry) : HandBackOutcome × Bus :=
  let m := b.write env id e.enablePath .enable 1
  if m.1.isSome then (.failed, m.2)
  else
    let w := m.2.write env id e.pwmPath .duty 255
    if w.1.isSome then (.failed, w.2)
    else
      let d := w.2.read env e.pwmPath
      (if d.1.any (fullSpeedMinRaw ≤ ·) then .fullSpeed else .failed, d.2)

/-- `full_speed` (handback.rs:232). -/
def fullSpeed (env : Sysfs) (b : Bus) (id : String) (e : LedgerEntry) : HandBackOutcome × Bus :=
  let w := b.write env id e.enablePath .enable 0
  if w.1.isSome then w.2.manualFullSpeed env id e
  else
    let m := w.2.read env e.enablePath
    if m.1 = some 0 then (.fullSpeed, m.2) else m.2.manualFullSpeed env id e

/-- The write `hand_back` tries first, and whether it took (handback.rs:215-228). -/
def restore (env : Sysfs) (b : Bus) (id : String) (e : LedgerEntry) (action : HandBack) : Bool × Bus :=
  match action with
  | .mode value =>
    let w := b.write env id e.enablePath .enable value
    if w.1.isSome then (false, w.2)
    else
      let m := w.2.read env e.enablePath
      (m.1 = some value, m.2)
  | .writeOnlyMode value =>
    let w := b.write env id e.enablePath .enable value
    (w.1.isNone, w.2)
  | .manual raw =>
    let m := b.write env id e.enablePath .enable 1
    if m.1.isSome then (false, m.2)
    else
      let w := m.2.write env id e.pwmPath .duty raw
      if w.1.isSome then (false, w.2) else w.2.manualConfirmed env e raw
  | .fullSpeed => (false, b)

/-- `hand_back` (handback.rs:208). -/
def handBack (env : Sysfs) (b : Bus) (id : String) (e : LedgerEntry) (action : HandBack) : HandBackOutcome × Bus :=
  let w := b.restore env id e action
  if w.1 then (.restored, w.2) else w.2.fullSpeed env id e

/-! A hand-back writes to its own header only. -/

variable (env : Sysfs) (id : String) (e : LedgerEntry)

theorem manualConfirmed_wrote {P : SysfsWrite → Prop} (b : Bus) (raw : Nat) :
    Wrote P b (b.manualConfirmed env e raw).2 := by
  have hm : Wrote P b (b.read env e.enablePath).2 := wrote_read env b e.enablePath
  unfold manualConfirmed
  dsimp only
  split_ifs
  · exact hm
  · exact hm.trans (wrote_read env _ e.pwmPath)
  · exact hm

theorem manualFullSpeed_wrote (b : Bus) : Wrote (·.header = id) b (b.manualFullSpeed env id e).2 := by
  have hm : Wrote (·.header = id) b (b.write env id e.enablePath .enable 1).2 := wrote_write env b _ _ _ _ rfl
  have hw := hm.trans (wrote_write env _ id e.pwmPath .duty 255 rfl)
  unfold manualFullSpeed
  dsimp only
  split
  · exact hm
  · split
    · exact hw
    · exact hw.trans (wrote_read env _ e.pwmPath)

theorem fullSpeed_wrote (b : Bus) : Wrote (·.header = id) b (b.fullSpeed env id e).2 := by
  have hw : Wrote (·.header = id) b (b.write env id e.enablePath .enable 0).2 := wrote_write env b _ _ _ _ rfl
  have hm := hw.trans (wrote_read env _ e.enablePath)
  unfold fullSpeed
  dsimp only
  split
  · exact hw.trans (manualFullSpeed_wrote env id e _)
  · split
    · exact hm
    · exact hm.trans (manualFullSpeed_wrote env id e _)

theorem restore_wrote (b : Bus) (action : HandBack) : Wrote (·.header = id) b (b.restore env id e action).2 := by
  have hw (value : Nat) : Wrote (·.header = id) b (b.write env id e.enablePath .enable value).2 :=
    wrote_write env b _ _ _ _ rfl
  unfold restore
  cases action with
  | mode value =>
    dsimp only
    split
    · exact hw value
    · exact (hw value).trans (wrote_read env _ e.enablePath)
  | writeOnlyMode value => exact hw value
  | manual raw =>
    have hd := (hw 1).trans (wrote_write env _ id e.pwmPath .duty raw rfl)
    dsimp only
    split
    · exact hw 1
    · split
      · exact hd
      · exact hd.trans (manualConfirmed_wrote env e _ raw)
  | fullSpeed => exact .refl b

theorem handBack_wrote (b : Bus) (action : HandBack) : Wrote (·.header = id) b (b.handBack env id e action).2 := by
  have hr := restore_wrote env id e b action
  unfold handBack
  dsimp only
  split
  · exact hr
  · exact hr.trans (fullSpeed_wrote env id e _)

end Bus

end ControlOfc.Hwmon
