import ControlOfc.Lib.History
import ControlOfc.Firmware.Write
/-! # The flash is never damaged before it is identified

`Ok` is what the run must have done before each entry of its log; a run keeps its log legal whatever the
boot ROM, the journal and the daemon's own steps do. Everything but the two loops stays within `Calm`:
it changes no flash, restarts nothing, and leaves the record's two flags alone.
-/
namespace ControlOfc.Firmware
open History

/-! ## What the log must show -/

/-- An erase, or a write into the flash. -/
def Entry.changesFlash : Entry → Bool
  | .command (.flashErase ..) .. => true
  | .command (.write addr _) .. => decide (IsFlash addr)
  | _ => false

/-- The addresses the run has erased, oldest first. -/
def erases (l : List Entry) : List Nat :=
  l.filterMap fun
    | .command (.flashErase addr _) .. => some addr
    | _ => none

/-- The flash id was read, and is the board's. -/
def Identified (serial : List Char) (l : List Entry) : Prop :=
  ∃ reached id, .command (.read flashIdResultAddr 8) reached .done id ∈ l ∧ idMatchesSerial id serial = true

/-- The journal was handed a record that says the flash has changed. -/
def Flagged (l : List Entry) : Prop := ∃ r saved, .journal r saved ∈ l ∧ r.flashChanged = true

/-- The run's bytes came back, and no erase or flash write was attempted since. -/
def ReadBack (run : Run) (l : List Entry) : Prop :=
  Latched (fun e => ∃ reached, e = .command (.read run.addr run.data.length) reached .done run.data)
    (fun e => e.changesFlash = true) l

def AllReadBack (sectors : List Sector) (l : List Entry) : Prop := ∀ s ∈ sectors, ∀ r ∈ s.runs, ReadBack r l

/-- What must have come before an entry. -/
def Ok (sectors : List Sector) (serial : List Char) (before : List Entry) : Entry → Prop
  | .command (.flashErase addr len) .. =>
    Identified serial before ∧ Flagged before ∧ (∃ s ∈ sectors, addr = s.base) ∧ len = sectorSize ∧
      ∀ a ∈ erases before, a < addr
  | .command (.write addr data) .. =>
    IsFlash addr → Identified serial before ∧ Flagged before ∧
      ∃ s ∈ sectors, s.base ∈ erases before ∧ ⟨addr, data⟩ ∈ s.runs
  | .command .reboot .. => AllReadBack sectors before
  | .journal r _ => r.verified = true → AllReadBack sectors before
  | _ => True

theorem Identified.append {serial : List Char} {l : List Entry} (h : Identified serial l) (l' : List Entry) :
    Identified serial (l ++ l') := by
  obtain ⟨reached, id, hm, hid⟩ := h
  exact ⟨reached, id, List.mem_append_left _ hm, hid⟩

theorem Flagged.append {l : List Entry} (h : Flagged l) (l' : List Entry) : Flagged (l ++ l') := by
  obtain ⟨r, saved, hm, hr⟩ := h
  exact ⟨r, saved, List.mem_append_left _ hm, hr⟩

theorem ReadBack.concat {run : Run} {l : List Entry} {e : Entry} (h : ReadBack run l) (he : e.changesFlash = false) :
    ReadBack run (l ++ [e]) :=
  (latched_concat ..).mpr (.inr ⟨h, by simp [he]⟩)

@[simp] theorem erases_nil : erases [] = [] := rfl

@[simp] theorem erases_append (l l' : List Entry) : erases (l ++ l') = erases l ++ erases l' := by
  simp [erases]

/-! ## Calm steps -/

/-- An entry that touches no flash and restarts nothing, and a record whose `verified` is `v`. -/
def Entry.Calm (v : Bool) : Entry → Prop
  | .command (.flashErase ..) .. => False
  | .command (.write addr _) .. => ¬ IsFlash addr
  | .command .reboot .. => False
  | .journal r _ => r.verified = v
  | _ => True

theorem Entry.Calm.changesFlash {v : Bool} {e : Entry} (h : e.Calm v) : e.changesFlash = false := by
  rcases e with ⟨c, reached, reply, bytes⟩ | ⟨r, saved⟩
  · cases c with
    | flashErase addr len => exact h.elim
    | write addr data => exact decide_eq_false h
    | _ => rfl
  · rfl

theorem Entry.Calm.erases {v : Bool} {e : Entry} (h : e.Calm v) : Firmware.erases [e] = [] := by
  rcases e with ⟨c, reached, reply, bytes⟩ | ⟨r, saved⟩
  · cases c with
    | flashErase addr len => exact h.elim
    | _ => rfl
  · rfl

theorem Entry.Calm.ok {sectors : List Sector} {serial : List Char} {v : Bool} {e : Entry} {l : List Entry} (h : e.Calm v)
    (hv : v = true → AllReadBack sectors l) : Ok sectors serial l e := by
  rcases e with ⟨c, reached, reply, bytes⟩ | ⟨r, saved⟩
  · cases c with
    | flashErase addr len => exact h.elim
    | write addr data => exact fun hf => absurd hf h
    | reboot => exact h.elim
    | _ => trivial
  · exact fun hr => hv (h ▸ hr)

/-- What a program does that only talks: to the board, to the journal, to the drive. -/
structure Calm (w w' : World) : Prop where
  log : ∃ l, w'.log = w.log ++ l ∧ ∀ e ∈ l, e.Calm w.record.verified
  mem : ∀ x, IsFlash x → w'.mem x = w.mem x
  written : w'.record.firmwareWrite.isSome = w.record.firmwareWrite.isSome
  changed : w'.record.flashChanged = w.record.flashChanged
  verified : w'.record.verified = w.record.verified

namespace Calm

theorem refl (w : World) : Calm w w := ⟨⟨[], by simp, nofun⟩, fun _ _ => rfl, rfl, rfl, rfl⟩

theorem trans {w w' w'' : World} (h : Calm w w') (h' : Calm w' w'') : Calm w w'' := by
  obtain ⟨l, hl, hc⟩ := h.log
  obtain ⟨l', hl', hc'⟩ := h'.log
  refine ⟨⟨l ++ l', by rw [hl', hl, List.append_assoc], fun e he => ?_⟩, fun x hx => (h'.mem x hx).trans (h.mem x hx),
    h'.written.trans h.written, h'.changed.trans h.changed, h'.verified.trans h.verified⟩
  rcases List.mem_append.mp he with he | he
  · exact hc e he
  · exact h.verified ▸ hc' e he

theorem bind {ε α β : Type} {m : Act World ε α} {f : α → Act World ε β} (hm : Act.Within Calm m)
    (hf : ∀ a, Act.Within Calm (f a)) : Act.Within Calm (m >>= f) :=
  Act.Within.bind (R := Calm) (fun _ _ _ h h' => trans h h') hm hf

theorem pure {ε α : Type} (a : α) : Act.Within Calm (Pure.pure a : Act World ε α) := Act.Within.pure refl a

theorem leave {ε α : Type} (e : ε) : Act.Within Calm (Act.leave e : Act World ε α) := Act.Within.leave refl e

theorem erases_eq {w w' : World} (h : Calm w w') : erases w'.log = erases w.log := by
  obtain ⟨l, hl, hc⟩ := h.log
  rw [hl, erases_append]
  have hnil : erases l = [] := by
    clear hl
    induction l with
    | nil => rfl
    | cons e l ih =>
      rw [← List.singleton_append, erases_append, (hc e List.mem_cons_self).erases,
        ih fun e' he' => hc e' (List.mem_cons_of_mem _ he')]
      rfl
  rw [hnil, List.append_nil]

theorem identified {serial : List Char} {w w' : World} (h : Calm w w') (hi : Identified serial w.log) :
    Identified serial w'.log := by
  obtain ⟨l, hl, -⟩ := h.log
  rw [hl]
  exact hi.append l

theorem flagged {w w' : World} (h : Calm w w') (hf : Flagged w.log) : Flagged w'.log := by
  obtain ⟨l, hl, -⟩ := h.log
  rw [hl]
  exact hf.append l

theorem readBack {run : Run} {w w' : World} (h : Calm w w') (hr : ReadBack run w.log) : ReadBack run w'.log := by
  obtain ⟨l, hl, hc⟩ := h.log
  rw [hl]
  clear hl
  induction l using List.reverseRecOn with
  | nil => rwa [List.append_nil]
  | append_singleton l e ih =>
    rw [← List.append_assoc]
    exact (ih fun e' he' => hc e' (List.mem_append_left _ he')).concat
      (hc e (List.mem_append_right _ List.mem_cons_self)).changesFlash

end Calm

/-! ## The invariant of a run -/

/-- The address lies in no sector of the image. -/
def Outside (sectors : List Sector) (x : Nat) : Prop := ∀ s ∈ sectors, ¬ (s.base ≤ x ∧ x < s.base + sectorSize)

section
variable (sectors : List Sector) (serial : List Char) (mem₀ : Nat → Nat)

structure Safe (w : World) : Prop where
  legal : Legal (Ok sectors serial) w.log
  outside : ∀ x, IsFlash x → Outside sectors x → w.mem x = mem₀ x
  verified : w.record.verified = true → AllReadBack sectors w.log

end

variable {sectors : List Sector} {serial : List Char} {mem₀ : Nat → Nat}

theorem Safe.calm {w w' : World} (h : Safe sectors serial mem₀ w) (hc : Calm w w') : Safe sectors serial mem₀ w' := by
  refine ⟨?_, fun x hx ho => (hc.mem x hx).trans (h.outside x hx ho), fun hv s hs r hr => ?_⟩
  · obtain ⟨l, hl, hcalm⟩ := hc.log
    rw [hl]
    clear hl
    induction l using List.reverseRecOn with
    | nil =>
      rw [List.append_nil]
      exact h.legal
    | append_singleton l e ih =>
      have hpre : ∀ e' ∈ l, e'.Calm w.record.verified := fun e' he' => hcalm e' (List.mem_append_left _ he')
      rw [← List.append_assoc]
      refine (ih hpre).concat ((hcalm e (List.mem_append_right _ List.mem_cons_self)).ok fun hv s hs r hr => ?_)
      have hmid : Calm w { w with log := w.log ++ l } := ⟨⟨l, rfl, hpre⟩, fun _ _ => rfl, rfl, rfl, rfl⟩
      exact hmid.readBack (h.verified hv s hs r hr)
  · exact hc.readBack (h.verified (hc.verified ▸ hv) s hs r hr)

/-- Nothing has been erased, and the record says so. -/
structure Fresh (w : World) : Prop where
  erases : erases w.log = []
  changed : w.record.flashChanged = false

/-- An erase was attempted, and the record says so. -/
structure Begun (w : World) : Prop where
  erases : Firmware.erases w.log ≠ []
  changed : w.record.flashChanged = true

theorem Fresh.calm {w w' : World} (h : Fresh w) (hc : Calm w w') : Fresh w' :=
  ⟨hc.erases_eq.trans h.erases, hc.changed.trans h.changed⟩

theorem Begun.calm {w w' : World} (h : Begun w) (hc : Calm w w') : Begun w' :=
  ⟨by rw [hc.erases_eq]; exact h.erases, hc.changed.trans h.changed⟩

/-! ## The calm programs -/

namespace Client

/-- The world a command leaves. -/
def after (c : Command) (w : World) : World :=
  { w.asked with
    mem := c.effect w.answer w.mem
    log := w.log ++ [.command c (w.answer.reply = .done || w.answer.reached) w.answer.reply
      (match c, w.answer.reply with | .read addr len, .done => w.bytesAt addr len | _, _ => [])] }

theorem command_snd (c : Command) (w : World) : (command c w).2 = after c w := by
  unfold command after
  dsimp only
  split <;> rfl

/-- A command that can neither touch the flash nor restart the board. -/
def IsCalm : Command → Prop
  | .flashErase .. => False
  | .write addr data => ∀ x, addr ≤ x → x < addr + data.length → ¬ IsFlash x
  | .reboot => False
  | _ => True

theorem calm_after {c : Command} (hc : IsCalm c) (hne : ∀ addr data, c = .write addr data → data ≠ []) (w : World) :
    Calm w (after c w) := by
  refine ⟨⟨_, rfl, fun e he => ?_⟩, fun x hx => ?_, rfl, rfl, rfl⟩
  · obtain rfl := List.mem_singleton.mp he
    cases c with
    | flashErase addr len => exact hc
    | write addr data =>
      have hpos := List.length_pos_of_ne_nil (hne addr data rfl)
      exact hc addr (Nat.le_refl _) (by omega)
    | reboot => exact hc
    | _ => trivial
  · show c.effect w.answer w.mem x = w.mem x
    cases c with
    | flashErase addr len => exact hc.elim
    | write addr data =>
      have hout : ¬ (addr ≤ x ∧ x < addr + data.length) := fun h => hc x h.1 h.2 hx
      simp [Command.effect, hout]
    | exec addr => simp [Command.effect, hx]
    | _ => rfl

theorem calm_command {c : Command} (hc : IsCalm c) (hne : ∀ addr data, c = .write addr data → data ≠ []) :
    Act.Within Calm (command c) := by
  intro w
  rw [command_snd]
  exact calm_after hc hne w

theorem calm_reset : Act.Within Calm reset := by
  intro w
  have h : Calm w { w.asked with log := w.log ++ [.command .reset (w.answer.reply = .done || w.answer.reached) w.answer.reply []] } :=
    ⟨⟨_, rfl, fun e he => by obtain rfl := List.mem_singleton.mp he; trivial⟩, fun _ _ => rfl, rfl, rfl, rfl⟩
  unfold reset
  dsimp only
  split <;> exact h

theorem calm_exclusiveAccess (mode : Nat) : Act.Within Calm (exclusiveAccess mode) :=
  Calm.bind (calm_command trivial nofun) fun _ => Calm.pure ()

theorem calm_flashId : Act.Within Calm flashId := by
  have hwrite : Act.Within Calm (write flashIdCodeAddr flashIdHelper) := by
    refine Calm.bind (calm_command ?_ ?_) fun _ => Calm.pure ()
    · rintro x hlo - ⟨-, hhi⟩
      simp only [flashIdCodeAddr, flashBase, flashSize] at hlo hhi
      omega
    · rintro addr data ⟨⟩ h
      cases h
  refine Calm.bind hwrite fun _ => Calm.bind (Calm.bind (calm_command trivial nofun) fun _ => Calm.pure ()) fun _ =>
    Calm.bind (calm_command trivial nofun) fun raw => ?_
  split
  · exact Calm.pure raw
  · exact Calm.leave _

end Client

namespace Runner

/-- A change of the record that leaves its two flags alone. -/
structure KeepsFlags (f : MaintenanceRecord → MaintenanceRecord) : Prop where
  written : ∀ r, (f r).firmwareWrite.isSome = r.firmwareWrite.isSome
  changed : ∀ r, (f r).flashChanged = r.flashChanged
  verified : ∀ r, (f r).verified = r.verified

theorem calm_record {f : MaintenanceRecord → MaintenanceRecord} (hf : KeepsFlags f) : Act.Within Calm (record f) := by
  refine Act.Within.modify fun w => ⟨⟨_, rfl, fun e he => ?_⟩, fun _ _ => rfl, hf.written _, hf.changed _, hf.verified _⟩
  obtain rfl := List.mem_singleton.mp he
  exact hf.verified _

/-- The same of a change of the write alone. -/
theorem keepsFlags_map {f : FirmwareWrite → FirmwareWrite} (hc : ∀ w, (f w).flashChanged = w.flashChanged)
    (hv : ∀ w, (f w).verified = w.verified) :
    KeepsFlags fun r => { r with firmwareWrite := r.firmwareWrite.map f } := by
  refine ⟨fun r => by simp, fun r => ?_, fun r => ?_⟩
  · cases hw : r.firmwareWrite <;> simp [MaintenanceRecord.flashChanged, hw, hc]
  · cases hw : r.firmwareWrite <;> simp [MaintenanceRecord.verified, hw, hv]

theorem calm_recordWrite {f : FirmwareWrite → FirmwareWrite} (hc : ∀ w, (f w).flashChanged = w.flashChanged)
    (hv : ∀ w, (f w).verified = w.verified) : Act.Within Calm (recordWrite f) :=
  calm_record (keepsFlags_map hc hv)

theorem calm_progress {f : FirmwareWrite → FirmwareWrite} (hc : ∀ w, (f w).flashChanged = w.flashChanged)
    (hv : ∀ w, (f w).verified = w.verified) : Act.Within Calm (progress f) :=
  Act.Within.modify fun _ =>
    ⟨⟨[], by simp, nofun⟩, fun _ _ => rfl, (keepsFlags_map hc hv).written _, (keepsFlags_map hc hv).changed _,
      (keepsFlags_map hc hv).verified _⟩

theorem calm_note (text : String) : Act.Within Calm (note text) := calm_record ⟨fun _ => rfl, fun _ => rfl, fun _ => rfl⟩

/-- A question changes nothing. -/
theorem calm_asked {α : Type} (f : World → α) : Act.Within Calm (Act.lift fun w => (f w, w.asked) : Runner α) :=
  Act.Within.lift fun _ => ⟨⟨[], by simp [World.asked], nofun⟩, fun _ _ => rfl, rfl, rfl, rfl⟩

theorem calm_onUsb {α : Type} {m : Usb α} (hm : Act.Within Calm m) : Act.Within Calm (onUsb m) := by
  refine Calm.bind (Act.Within.attempt hm) fun r => ?_
  rcases r with (e | -) | a <;> exact Calm.pure _

theorem calm_isOk {m : Usb Unit} (hm : Act.Within Calm m) : Act.Within Calm (isOk m) := by
  refine Calm.bind (Act.Within.attempt hm) fun r => ?_
  rcases r with (e | -) | a
  · exact Calm.pure false
  · exact Calm.leave _
  · exact Calm.pure true

theorem calm_releaseDrive : Act.Within Calm releaseDrive := by
  have hask : Act.Within Calm askForDrive := by
    refine Calm.bind (calm_isOk (Client.calm_exclusiveAccess _)) fun ok => ?_
    split
    · exact Calm.pure true
    · refine Calm.bind (calm_isOk Client.calm_reset) fun ok => ?_
      split
      · exact calm_isOk (Client.calm_exclusiveAccess _)
      · exact Calm.pure false
  refine Calm.bind (calm_onUsb hask) fun r => ?_
  split <;> exact Calm.pure _

theorem calm_fellBack (released : Bool) (reason detail : String) : Act.Within Calm (fellBack released reason detail) := by
  refine Calm.bind (calm_recordWrite (fun _ => rfl) fun _ => rfl) fun _ => Calm.bind (calm_note _) fun _ => ?_
  split
  · exact Calm.pure _
  · exact Calm.bind (calm_note _) fun _ => Calm.pure _

theorem calm_fallBack (client : Bool) (reason detail : String) : Act.Within Calm (fallBack client reason detail) := by
  unfold fallBack
  split
  · exact Calm.bind calm_releaseDrive fun released => calm_fellBack released reason detail
  · exact Calm.bind (Calm.pure true) fun released => calm_fellBack released reason detail

theorem calm_fallBackHeld (reason detail : String) : Act.Within Calm (fallBackHeld reason detail) := by
  refine Calm.bind (calm_asked _) fun r => ?_
  split
  · exact Calm.bind calm_releaseDrive fun released => calm_fellBack released reason detail
  · exact calm_fellBack false reason detail

theorem calm_stopWriting : Act.Within Calm stopWriting := Calm.bind calm_releaseDrive fun _ => Calm.pure _

theorem calm_identifySteps : Act.Within Calm identifySteps :=
  Calm.bind Client.calm_reset fun _ => Calm.bind (Client.calm_exclusiveAccess _) fun _ =>
    Calm.bind (Calm.bind (Client.calm_command trivial nofun) fun _ => Calm.pure ()) fun _ => Client.calm_flashId

end Runner

end ControlOfc.Firmware
