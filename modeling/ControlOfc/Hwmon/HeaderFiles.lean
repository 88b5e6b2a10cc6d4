import ControlOfc.Hwmon.HandBack
/-! # Giving a header back, whatever holds its files

`hand_back` only knows a `SysfsWriter`. `HeaderFiles` is one that reaches a header's two files: each access
answers, and leaves the state it is made on. A hand-back on files that answer alike ends alike (`Sim`), and
the controller's is the one on the files of its bus (`Bus.handBack_eq`).
-/
namespace ControlOfc.Hwmon
open Pwm

/-- A header's two files, in a state `σ`: a write and whether it succeeded, and a read, parsed as a `u8`. -/
structure HeaderFiles (σ : Type) where
  write : σ → Attr → Nat → Bool × σ
  read : σ → Attr → Option Nat × σ

namespace HeaderFiles

variable {σ τ : Type}

section
variable (F : HeaderFiles σ)

/-- `manual_confirmed` (handback.rs:248). -/
def manualConfirmed (s : σ) (raw : Nat) : Bool × σ :=
  let m := F.read s .enable
  if m.1 = some 1 then (true, m.2)
  else if m.1 = some 0 then
    let d := F.read m.2 .duty
    (isFullSpeedAlias (rawToPercent raw) (d.1.map rawToPercent) (some 0), d.2)
  else (false, m.2)

/-- The fallback of `full_speed`: manual mode at 255 (handback.rs:236-242). -/
def manualFullSpeed (s : σ) : HandBackOutcome × σ :=
  let m := F.write s .enable 1
  if m.1 then
    let w := F.write m.2 .duty 255
    if w.1 then
      let d := F.read w.2 .duty
      (if d.1.any (fullSpeedMinRaw ≤ ·) then .fullSpeed else .failed, d.2)
    else (.failed, w.2)
  else (.failed, m.2)

/-- `full_speed` (handback.rs:232). -/
def fullSpeed (s : σ) : HandBackOutcome × σ :=
  let w := F.write s .enable 0
  if w.1 then
    let m := F.read w.2 .enable
    if m.1 = some 0 then (.fullSpeed, m.2) else F.manualFullSpeed m.2
  else F.manualFullSpeed w.2

/-- The write `hand_back` tries first, and whether it took (handback.rs:215-228). -/
def restore (s : σ) (action : HandBack) : Bool × σ :=
  match action with
  | .mode value =>
    let w := F.write s .enable value
    if w.1 then
      let m := F.read w.2 .enable
      (m.1 = some value, m.2)
    else (false, w.2)
  | .writeOnlyMode value => F.write s .enable value
  | .manual raw =>
    let m := F.write s .enable 1
    if m.1 then
      let w := F.write m.2 .duty raw
      if w.1 then F.manualConfirmed w.2 raw else (false, w.2)
    else (false, m.2)
  | .fullSpeed => (false, s)

/-- `hand_back` (handback.rs:208). -/
def handBack (s : σ) (action : HandBack) : HandBackOutcome × σ :=
  let w := F.restore s action
  if w.1 then (.restored, w.2) else F.fullSpeed w.2

end

/-! ## Files that answer alike -/

/-- Two ways to a header that answer every access alike and stay related. -/
structure Sim (F : HeaderFiles σ) (G : HeaderFiles τ) (R : σ → τ → Prop) : Prop where
  write : ∀ s t, R s t → ∀ attr value, (F.write s attr value).1 = (G.write t attr value).1 ∧
    R (F.write s attr value).2 (G.write t attr value).2
  read : ∀ s t, R s t → ∀ attr, (F.read s attr).1 = (G.read t attr).1 ∧ R (F.read s attr).2 (G.read t attr).2

namespace Sim

variable {F : HeaderFiles σ} {G : HeaderFiles τ} {R : σ → τ → Prop}

theorem manualConfirmed (h : Sim F G R) {s : σ} {t : τ} (hst : R s t) (raw : Nat) :
    (F.manualConfirmed s raw).1 = (G.manualConfirmed t raw).1 ∧ R (F.manualConfirmed s raw).2 (G.manualConfirmed t raw).2 := by
  obtain ⟨hm, hms⟩ := h.read s t hst .enable
  obtain ⟨hd, hds⟩ := h.read _ _ hms .duty
  unfold HeaderFiles.manualConfirmed
  dsimp only
  rw [hm, hd]
  split_ifs
  · exact ⟨rfl, hms⟩
  · exact ⟨rfl, hds⟩
  · exact ⟨rfl, hms⟩

theorem manualFullSpeed (h : Sim F G R) {s : σ} {t : τ} (hst : R s t) :
    (F.manualFullSpeed s).1 = (G.manualFullSpeed t).1 ∧ R (F.manualFullSpeed s).2 (G.manualFullSpeed t).2 := by
  obtain ⟨hm, hms⟩ := h.write s t hst .enable 1
  obtain ⟨hw, hws⟩ := h.write _ _ hms .duty 255
  obtain ⟨hd, hds⟩ := h.read _ _ hws .duty
  unfold HeaderFiles.manualFullSpeed
  dsimp only
  rw [hm, hw, hd]
  split
  · split
    · exact ⟨rfl, hds⟩
    · exact ⟨rfl, hws⟩
  · exact ⟨rfl, hms⟩

theorem fullSpeed (h : Sim F G R) {s : σ} {t : τ} (hst : R s t) :
    (F.fullSpeed s).1 = (G.fullSpeed t).1 ∧ R (F.fullSpeed s).2 (G.fullSpeed t).2 := by
  obtain ⟨hw, hws⟩ := h.write s t hst .enable 0
  obtain ⟨hm, hms⟩ := h.read _ _ hws .enable
  unfold HeaderFiles.fullSpeed
  dsimp only
  rw [hw, hm]
  split
  · split
    · exact ⟨rfl, hms⟩
    · exact h.manualFullSpeed hms
  · exact h.manualFullSpeed hws

theorem restore (h : Sim F G R) {s : σ} {t : τ} (hst : R s t) (action : HandBack) :
    (F.restore s action).1 = (G.restore t action).1 ∧ R (F.restore s action).2 (G.restore t action).2 := by
  unfold HeaderFiles.restore
  cases action with
  | mode value =>
    obtain ⟨hw, hws⟩ := h.write s t hst .enable value
    obtain ⟨hm, hms⟩ := h.read _ _ hws .enable
    dsimp only
    rw [hw, hm]
    split
    · exact ⟨rfl, hms⟩
    · exact ⟨rfl, hws⟩
  | writeOnlyMode value => exact h.write s t hst .enable value
  | manual raw =>
    obtain ⟨hm, hms⟩ := h.write s t hst .enable 1
    obtain ⟨hw, hws⟩ := h.write _ _ hms .duty raw
    dsimp only
    rw [hm, hw]
    split
    · split
      · exact h.manualConfirmed hws raw
      · exact ⟨rfl, hws⟩
    · exact ⟨rfl, hms⟩
  | fullSpeed => exact ⟨rfl, hst⟩

theorem handBack (h : Sim F G R) {s : σ} {t : τ} (hst : R s t) (action : HandBack) :
    (F.handBack s action).1 = (G.handBack t action).1 ∧ R (F.handBack s action).2 (G.handBack t action).2 := by
  obtain ⟨hr, hrs⟩ := h.restore hst action
  unfold HeaderFiles.handBack
  dsimp only
  rw [hr]
  split
  · exact ⟨rfl, hrs⟩
  · exact h.fullSpeed hrs

end Sim

/-- A hand-back keeps what every access keeps. -/
theorem handBack_keeps {F : HeaderFiles σ} {P : σ → Prop} (hw : ∀ s, P s → ∀ attr value, P (F.write s attr value).2)
    (hr : ∀ s, P s → ∀ attr, P (F.read s attr).2) {s : σ} (hs : P s) (action : HandBack) : P (F.handBack s action).2 := by
  have hsim : Sim F F fun s t => s = t ∧ P s := by
    constructor
    · rintro s _ ⟨rfl, h⟩ attr value
      exact ⟨rfl, rfl, hw s h attr value⟩
    · rintro s _ ⟨rfl, h⟩ attr
      exact ⟨rfl, rfl, hr s h attr⟩
  exact (hsim.handBack ⟨rfl, hs⟩ action).2.2

end HeaderFiles

/-! ## The controller's files -/

namespace Bus

/-- A ledger entry's files, on the bus. -/
def files (env : Sysfs) (id : String) (e : LedgerEntry) : HeaderFiles Bus where
  write b attr value :=
    let w := match attr with
      | .enable => b.write env id e.enablePath .enable value
      | .duty => b.write env id e.pwmPath .duty value
    (w.1.isNone, w.2)
  read b
    | .enable => b.read env e.enablePath
    | .duty => b.read env e.pwmPath

variable (env : Sysfs) (id : String) (e : LedgerEntry)

/-- An error is what a write that did not succeed reports. -/
theorem ite_isSome {α β : Type} (o : Option α) (x y : β) : (if o.isSome then x else y) = if o.isNone then y else x := by
  cases o <;> rfl

theorem manualConfirmed_eq (b : Bus) (raw : Nat) :
    b.manualConfirmed env e raw = (files env id e).manualConfirmed b raw := rfl

theorem manualFullSpeed_eq (b : Bus) : b.manualFullSpeed env id e = (files env id e).manualFullSpeed b := by
  unfold manualFullSpeed
  simp only [ite_isSome]
  rfl

theorem fullSpeed_eq (b : Bus) : b.fullSpeed env id e = (files env id e).fullSpeed b := by
  unfold fullSpeed
  simp only [ite_isSome, manualFullSpeed_eq]
  rfl

theorem restore_eq (b : Bus) (action : HandBack) : b.restore env id e action = (files env id e).restore b action := by
  unfold restore
  cases action with
  | writeOnlyMode value => rfl
  | fullSpeed => rfl
  | _ =>
    simp only [ite_isSome, manualConfirmed_eq env id e]
    rfl

theorem handBack_eq (b : Bus) (action : HandBack) : b.handBack env id e action = (files env id e).handBack b action := by
  unfold handBack HeaderFiles.handBack
  simp only [restore_eq, fullSpeed_eq]

end Bus

end ControlOfc.Hwmon
