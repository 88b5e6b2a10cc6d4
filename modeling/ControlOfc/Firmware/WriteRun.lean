import ControlOfc.Firmware.Safety
/-! # A whole run of the firmware write

`Open` is what allows an erase: the flash id was the board's, and the journal has been told. The write
loop keeps it, each sector above the ones before; the read-back loop collects the runs that came back;
the restart follows when all have.
-/
namespace ControlOfc.Firmware
open History

variable {sectors : List Sector} {serial : List Char} {mem₀ : Nat → Nat}

/-! ## Before the first erase -/

namespace Client

/-- What a READ returns has come back, and is what the memory holds. -/
theorem read_triple (addr len : Nat) (E : UsbStop → World → Prop) (hE : ∀ e w, E e w) :
    Act.Triple (fun _ => True) (read addr len)
      (fun bytes w => Latched (fun e => ∃ reached, e = .command (.read addr len) reached .done bytes)
        (fun e => e.changesFlash = true) w.log ∧ bytes = w.bytesAt addr len) E := by
  intro w _
  simp only [read, command]
  cases hr : w.answer.reply with
  | done =>
    simp only [stopOf]
    exact ⟨(latched_concat ..).mpr (.inl ⟨_, rfl⟩), rfl⟩
  | _ => exact hE _ _

theorem flashId_triple :
    Act.Triple (fun _ => True) flashId
      (fun id w => ∃ reached, .command (.read flashIdResultAddr 8) reached .done id ∈ w.log) fun _ _ => True := by
  have hany : ∀ (m : Usb Unit), Act.Triple (fun _ => True) m (fun _ _ => True) fun _ _ => True :=
    fun m => Act.Triple.of_state fun _ _ => trivial
  refine Act.Triple.bind (hany _) fun _ => Act.Triple.bind (hany _) fun _ =>
    Act.Triple.bind (read_triple _ _ _ fun _ _ => trivial) fun raw => ?_
  split
  · refine Act.Triple.pure fun w hw => ?_
    obtain ⟨⟨i, e, he, ⟨reached, rfl⟩, -⟩, -⟩ := hw
    exact ⟨reached, List.mem_of_getElem? he⟩
  · exact Act.Triple.leave fun _ _ => trivial

end Client

namespace Runner

/-- What `on_usb` hands on of a step's end. -/
def handedOn {α : Type} : Except UsbStop α → Option (Except PicobootError α)
  | .ok a => some (.ok a)
  | .error (.error e) => some (.error e)
  | .error .lost => none

theorem onUsb_triple {α : Type} {m : Usb α} {P : World → Prop} {Q : Option (Except PicobootError α) → World → Prop}
    {E : Written → World → Prop}
    (h : Act.Triple P m (fun a => Q (some (.ok a))) (fun e => Q (handedOn (.error e)))) : Act.Triple P (onUsb m) Q E := by
  refine Act.Triple.bind (Q := fun r => Q (handedOn r)) (Act.Triple.attempt (h.conseq (fun _ hs => hs) (fun _ _ hq => hq) ?_))
    fun r => ?_
  · exact fun _ _ hs => hs
  · rcases r with (e | -) | a <;> exact Act.Triple.pure fun _ hs => hs

/-- The same where only the state matters. -/
theorem onUsb_state {α : Type} {m : Usb α} {P S : World → Prop} {E : Written → World → Prop}
    (h : Act.Triple P m (fun _ => S) fun _ => S) : Act.Triple P (onUsb m) (fun _ => S) E :=
  onUsb_triple (h.conseq (fun _ hs => hs) (fun _ _ hq => hq) fun e _ hs => by cases e <;> exact hs)

/-! ### Giving up -/

theorem releaseDrive_returns (E : Written → World → Prop) :
    Act.Triple (fun _ => True) releaseDrive (fun _ _ => True) E := by
  refine Act.Triple.bind (onUsb_state (S := fun _ => True) (Act.Triple.of_state fun _ _ => trivial)) fun r => ?_
  split <;> exact Act.Triple.pure fun _ _ => trivial

theorem fellBack_returns (released : Bool) (reason detail : String) (E : Written → World → Prop) :
    Act.Triple (fun _ => True) (fellBack released reason detail) (fun r _ => r ≠ .done) E := by
  intro w _
  cases released <;> exact nofun

theorem fallBack_returns (client : Bool) (reason detail : String) (E : Written → World → Prop) :
    Act.Triple (fun _ => True) (fallBack client reason detail) (fun r _ => r ≠ .done) E := by
  unfold fallBack
  split
  · exact Act.Triple.bind (releaseDrive_returns E) fun r => fellBack_returns r reason detail E
  · exact Act.Triple.bind (Act.Triple.pure (Q := fun _ _ => True) fun _ _ => trivial) fun r => fellBack_returns r reason detail E

theorem openClient_returns (E : Written → World → Prop) :
    Act.Triple (fun _ => True) openClient (fun _ _ => True) E := Act.Triple.lift fun _ _ => trivial

theorem fallBackHeld_returns (reason detail : String) (E : Written → World → Prop) :
    Act.Triple (fun _ => True) (fallBackHeld reason detail) (fun r _ => r ≠ .done) E := by
  refine Act.Triple.bind (openClient_returns E) fun r => ?_
  split
  · exact Act.Triple.bind (releaseDrive_returns E) fun r => fellBack_returns r reason detail E
  · exact fellBack_returns false reason detail E

theorem stopWriting_returns (E : Written → World → Prop) :
    Act.Triple (fun _ => True) stopWriting (fun r _ => r ≠ .done) E :=
  Act.Triple.bind (releaseDrive_returns E) fun _ => Act.Triple.pure fun _ _ => nofun

/-- What a calm early return leaves, and that it is not `Done`. -/
theorem quit {α : Type} {m : Runner Written} {S : World → Prop} {Q : α → World → Prop}
    (hS : ∀ w w', Calm w w' → S w → S w') (hm : Act.Within Calm m)
    (hd : Act.Triple (fun _ => True) m (fun r _ => r ≠ .done) fun r _ => r ≠ .done) :
    Act.Triple S (leaveWith m : Runner α) Q fun r w => S w ∧ r ≠ .done := by
  refine Act.Triple.bind (Q := fun r w => S w ∧ r ≠ .done) ?_ fun r => Act.Triple.leave fun _ h => h
  exact ((hm.triple hS).and hd).conseq (fun _ hs => ⟨hs, trivial⟩) (fun _ _ h => h) fun _ _ h => h

theorem quit_fallBack {α : Type} {S : World → Prop} {Q : α → World → Prop} (hS : ∀ w w', Calm w w' → S w → S w')
    (client : Bool) (reason detail : String) :
    Act.Triple S (leaveWith (fallBack client reason detail) : Runner α) Q fun r w => S w ∧ r ≠ .done :=
  quit hS (calm_fallBack _ _ _) (fallBack_returns _ _ _ _)

theorem quit_fallBackHeld {α : Type} {S : World → Prop} {Q : α → World → Prop} (hS : ∀ w w', Calm w w' → S w → S w')
    (reason detail : String) :
    Act.Triple S (leaveWith (fallBackHeld reason detail) : Runner α) Q fun r w => S w ∧ r ≠ .done :=
  quit hS (calm_fallBackHeld _ _) (fallBackHeld_returns _ _ _)

/-- A question keeps what a calm step keeps, and cannot leave. -/
theorem asked_triple {α : Type} {S : World → Prop} (hS : ∀ w w', Calm w w' → S w → S w') (f : World → α)
    (E : Written → World → Prop) : Act.Triple S (Act.lift fun w => (f w, w.asked) : Runner α) (fun _ => S) E :=
  Act.Triple.lift fun w h => hS w _ (calm_asked f w) h

theorem openBootloader_triple {S : World → Prop} (hS : ∀ w w', Calm w w' → S w → S w') :
    Act.Triple S openBootloader (fun _ => S) fun r w => S w ∧ r ≠ .done := by
  refine Act.Triple.bind (asked_triple hS _ _) fun r => ?_
  split
  · exact Act.Triple.pure fun _ h => h
  · exact quit_fallBack hS _ _ _
  · exact quit_fallBack hS _ _ _
  · exact quit_fallBack hS _ _ _

end Runner

/-! ## Writing the sectors -/

section
variable (sectors : List Sector) (serial : List Char) (mem₀ : Nat → Nat)

/-- What allows an erase. -/
structure Open (w : World) : Prop where
  safe : Safe sectors serial mem₀ w
  identified : Identified serial w.log
  flagged : Flagged w.log
  changed : w.record.flashChanged = true
  unverified : w.record.verified = false

/-- Nothing has been erased, and the record has said nothing yet. -/
structure Untouched (w : World) : Prop where
  safe : Safe sectors serial mem₀ w
  fresh : Fresh w
  written : w.record.firmwareWrite.isSome = true
  unverified : w.record.verified = false

/-- The sector has been erased, and none above it. -/
structure InSector (s : Sector) (w : World) : Prop where
  is_open : Open sectors serial mem₀ w
  erased : s.base ∈ erases w.log
  last : ∀ a ∈ erases w.log, a ≤ s.base

/-- Every erase so far was below the sectors to come. -/
structure Ready (rest : List Sector) (w : World) : Prop where
  is_open : Open sectors serial mem₀ w
  below : ∀ s ∈ rest, ∀ a ∈ erases w.log, a < s.base

/-- How a run that has erased may end early. -/
structure Left (written : Written) (w : World) : Prop where
  safe : Safe sectors serial mem₀ w
  told : Fresh w ∨ Begun w
  not_done : written ≠ .done

end

theorem Open.calm {w w' : World} (h : Open sectors serial mem₀ w) (hc : Calm w w') : Open sectors serial mem₀ w' :=
  ⟨h.safe.calm hc, hc.identified h.identified, hc.flagged h.flagged, hc.changed.trans h.changed,
    hc.verified.trans h.unverified⟩

theorem Untouched.calm {w w' : World} (h : Untouched sectors serial mem₀ w) (hc : Calm w w') :
    Untouched sectors serial mem₀ w' :=
  ⟨h.safe.calm hc, h.fresh.calm hc, hc.written.trans h.written, hc.verified.trans h.unverified⟩

theorem InSector.calm {s : Sector} {w w' : World} (h : InSector sectors serial mem₀ s w) (hc : Calm w w') :
    InSector sectors serial mem₀ s w' :=
  ⟨h.is_open.calm hc, by rw [hc.erases_eq]; exact h.erased, by rw [hc.erases_eq]; exact h.last⟩

theorem Ready.calm {rest : List Sector} {w w' : World} (h : Ready sectors serial mem₀ rest w) (hc : Calm w w') :
    Ready sectors serial mem₀ rest w' :=
  ⟨h.is_open.calm hc, by rw [hc.erases_eq]; exact h.below⟩

theorem InSector.begun {s : Sector} {w : World} (h : InSector sectors serial mem₀ s w) : Begun w :=
  ⟨List.ne_nil_of_mem h.erased, h.is_open.changed⟩

/-- What comes after a sector is ready once it is written. -/
theorem InSector.ready {s : Sector} {rest : List Sector} {w : World} (h : InSector sectors serial mem₀ s w)
    (hasc : ∀ t ∈ rest, s.base < t.base) : Ready sectors serial mem₀ rest w :=
  ⟨h.is_open, fun t ht a ha => Nat.lt_of_le_of_lt (h.last a ha) (hasc t ht)⟩

/-- One more entry of an open run; the flash may change inside the image's sectors. -/
theorem Open.step {w w' : World} {e : Entry} (h : Open sectors serial mem₀ w) (hlog : w'.log = w.log ++ [e])
    (hrec : w'.record = w.record) (hok : Ok sectors serial w.log e)
    (hmem : ∀ x, Outside sectors x → w'.mem x = w.mem x) : Open sectors serial mem₀ w' := by
  refine ⟨⟨?_, fun x hx ho => (hmem x ho).trans (h.safe.outside x hx ho), fun hv => ?_⟩, ?_, ?_, ?_, ?_⟩
  · rw [hlog]
    exact h.safe.legal.concat hok
  · rw [hrec, h.unverified] at hv
    cases hv
  · rw [hlog]
    exact h.identified.append _
  · rw [hlog]
    exact h.flagged.append _
  · rw [hrec]
    exact h.changed
  · rw [hrec]
    exact h.unverified

namespace Client

theorem command_state {c : Command} {P S : World → Prop} (h : ∀ w, P w → S (after c w)) :
    Act.Triple P (command c) (fun _ => S) fun _ => S :=
  Act.Triple.of_state fun w hw => by
    rw [command_snd]
    exact h w hw

theorem erase_triple {s : Sector} (hs : s ∈ sectors) :
    Act.Triple (Ready sectors serial mem₀ [s]) (erase s.base sectorSize) (fun _ => InSector sectors serial mem₀ s)
      fun _ => InSector sectors serial mem₀ s := by
  refine Act.Triple.bind (command_state fun w hw => ?_) fun _ => Act.Triple.pure fun _ h => h
  have hbelow : ∀ a ∈ erases w.log, a < s.base := hw.below s List.mem_cons_self
  have herases : erases (after (.flashErase s.base sectorSize) w).log = erases w.log ++ [s.base] := by
    simp [after, erases]
  refine ⟨hw.is_open.step rfl rfl ⟨hw.is_open.identified, hw.is_open.flagged, ⟨s, hs, rfl⟩, rfl, hbelow⟩ fun x hx => ?_,
    ?_, fun a ha => ?_⟩
  · have hout : ¬ (s.base ≤ x ∧ x < s.base + sectorSize) := hx s hs
    simp [after, Command.effect, hout]
  · rw [herases]
    exact List.mem_append_right _ List.mem_cons_self
  · rw [herases] at ha
    rcases List.mem_append.mp ha with ha | ha
    · exact Nat.le_of_lt (hbelow a ha)
    · exact Nat.le_of_eq (List.mem_singleton.mp ha)

theorem write_triple {s : Sector} (hs : s ∈ sectors) (hok : s.Ok) {run : Run} (hrun : run ∈ s.runs) :
    Act.Triple (InSector sectors serial mem₀ s) (write run.addr run.data) (fun _ => InSector sectors serial mem₀ s)
      fun _ => InSector sectors serial mem₀ s := by
  refine Act.Triple.bind (command_state fun w hw => ?_) fun _ => Act.Triple.pure fun _ h => h
  have herases : erases (after (.write run.addr run.data) w).log = erases w.log := by
    simp [after, erases]
  refine ⟨hw.is_open.step rfl rfl (fun _ => ⟨hw.is_open.identified, hw.is_open.flagged, s, hs, hw.erased, hrun⟩)
    fun x hx => ?_, by rw [herases]; exact hw.erased, by rw [herases]; exact hw.last⟩
  have hin := hok.runs run hrun
  have hout : ¬ (run.addr ≤ x ∧ x < run.addr + run.data.length) := by
    intro h
    have := hx s hs
    omega
  simp [after, Command.effect, hout]

end Client

theorem writeRuns_triple {s : Sector} (hs : s ∈ sectors) (hok : s.Ok) :
    ∀ runs, (∀ r ∈ runs, r ∈ s.runs) →
      Act.Triple (InSector sectors serial mem₀ s) (writeRuns runs) (fun _ => InSector sectors serial mem₀ s)
        fun _ => InSector sectors serial mem₀ s := by
  intro runs
  induction runs with
  | nil => exact fun _ => Act.Triple.pure fun _ h => h
  | cons run runs ih =>
    intro hruns
    exact Act.Triple.bind (Client.write_triple hs hok (hruns run List.mem_cons_self)) fun _ =>
      ih fun r hr => hruns r (List.mem_cons_of_mem _ hr)

theorem writeSector_triple {s : Sector} (hs : s ∈ sectors) (hok : s.Ok) :
    Act.Triple (Ready sectors serial mem₀ [s]) (writeSector s) (fun _ => InSector sectors serial mem₀ s)
      fun _ => InSector sectors serial mem₀ s :=
  Act.Triple.bind (Client.erase_triple hs) fun _ => writeRuns_triple hs hok s.runs fun _ hr => hr

namespace Runner

/-- From an open sector, an early return leaves a run that has begun. -/
theorem quit_left {α : Type} {P : World → Prop} {Q : α → World → Prop}
    (hsafe : ∀ w, P w → Safe sectors serial mem₀ w ∧ (Fresh w ∨ Begun w)) {m : Runner α}
    (h : Act.Triple P m Q fun r w => P w ∧ r ≠ .done) :
    Act.Triple P m Q (Left sectors serial mem₀) :=
  h.conseq (fun _ hp => hp) (fun _ _ hq => hq) fun _ w ⟨hp, hr⟩ => ⟨(hsafe w hp).1, (hsafe w hp).2, hr⟩

theorem writeOne_triple {s : Sector} (hs : s ∈ sectors) (hok : s.Ok) :
    Act.Triple (Ready sectors serial mem₀ [s]) (writeOne s) (fun _ => InSector sectors serial mem₀ s)
      fun r w => InSector sectors serial mem₀ s w ∧ r ≠ .done := by
  have hcalm : ∀ w w', Calm w w' → InSector sectors serial mem₀ s w → InSector sectors serial mem₀ s w' :=
    fun _ _ hc h => h.calm hc
  refine Act.Triple.bind (onUsb_state (writeSector_triple hs hok)) fun r => ?_
  split
  · exact Act.Triple.pure fun _ h => h
  · exact quit_fallBack hcalm _ _ _
  · exact quit_fallBackHeld hcalm _ _

theorem checkStop_triple {S : World → Prop} (hS : ∀ w w', Calm w w' → S w → S w') (late : String) :
    Act.Triple S (checkStop late) (fun _ => S) fun r w => S w ∧ r ≠ .done := by
  refine Act.Triple.bind (asked_triple hS _ _) fun stop => ?_
  split
  · exact quit hS calm_stopWriting (stopWriting_returns _)
  · refine Act.Triple.bind (asked_triple hS _ _) fun past => ?_
    split
    · exact quit_fallBack hS _ _ _
    · exact Act.Triple.pure fun _ h => h

theorem writeSectors_zero (done : Nat) (s : Sector) (rest : List Sector) :
    writeSectors 0 done (s :: rest) = (do
      checkStop "the write did not finish in time"
      recordWrite fun w => { w with flashChanged := true, phase := "writing" }
      writeOne s
      progress fun w => { w with doneBytes := done + s.bytes }
      writeSectors 1 (done + s.bytes) rest) := rfl

theorem writeSectors_succ (index done : Nat) (s : Sector) (rest : List Sector) :
    writeSectors (index + 1) done (s :: rest) = (do
      checkStop "the write did not finish in time"
      writeOne s
      progress fun w => { w with doneBytes := done + s.bytes }
      writeSectors (index + 2) (done + s.bytes) rest) := rfl

/-- The sector's bytes are counted, and nothing else changes. -/
theorem progress_triple {S : World → Prop} (hS : ∀ w w', Calm w w' → S w → S w') (n : Nat) (E : Written → World → Prop) :
    Act.Triple S (progress fun w => { w with doneBytes := n }) (fun _ => S) E :=
  Act.Triple.modify fun w h =>
    hS _ _ (calm_progress (f := fun w => { w with doneBytes := n }) (fun _ => rfl) (fun _ => rfl) w) h

theorem writeSectors_succ_triple (hok : ∀ s ∈ sectors, s.Ok) :
    ∀ (rest : List Sector) (index done : Nat), (∀ s ∈ rest, s ∈ sectors) → (rest.Pairwise fun s t => s.base < t.base) →
      Act.Triple (fun w => Ready sectors serial mem₀ rest w ∧ Begun w) (writeSectors (index + 1) done rest)
        (fun _ w => Open sectors serial mem₀ w ∧ Begun w) (Left sectors serial mem₀) := by
  intro rest
  induction rest with
  | nil => exact fun _ _ _ _ => Act.Triple.pure fun _ h => ⟨h.1.is_open, h.2⟩
  | cons s rest ih =>
    intro index done hmem hasc
    obtain ⟨hlt, hasc⟩ := List.pairwise_cons.mp hasc
    have hs := hmem s List.mem_cons_self
    have hcheck : Act.Triple (fun w => Ready sectors serial mem₀ (s :: rest) w ∧ Begun w)
        (checkStop "the write did not finish in time")
        (fun _ w => Ready sectors serial mem₀ (s :: rest) w ∧ Begun w) (Left sectors serial mem₀) :=
      quit_left (fun w h => ⟨h.1.is_open.safe, .inr h.2⟩) (checkStop_triple (fun _ _ hc h => ⟨h.1.calm hc, h.2.calm hc⟩) _)
    have hone : Act.Triple (fun w => Ready sectors serial mem₀ (s :: rest) w ∧ Begun w) (writeOne s)
        (fun _ w => Ready sectors serial mem₀ rest w ∧ Begun w) (Left sectors serial mem₀) :=
      (writeOne_triple hs (hok s hs)).conseq (fun w h => ⟨h.1.is_open, fun t ht => by
          obtain rfl := List.mem_singleton.mp ht
          exact h.1.below t List.mem_cons_self⟩)
        (fun _ w h => ⟨h.ready hlt, h.begun⟩) fun _ w h => ⟨h.1.is_open.safe, .inr h.1.begun, h.2⟩
    rw [writeSectors_succ]
    exact Act.Triple.bind hcheck fun _ => Act.Triple.bind hone fun _ =>
      Act.Triple.bind (progress_triple (fun _ _ hc h => ⟨h.1.calm hc, h.2.calm hc⟩) _ _) fun _ =>
        ih (index + 1) (done + s.bytes) (fun t ht => hmem t (List.mem_cons_of_mem _ ht)) hasc

/-- The record says that the flash is about to change. -/
theorem flag_triple (rest : List Sector) (E : Written → World → Prop) :
    Act.Triple (fun w => Untouched sectors serial mem₀ w ∧ Identified serial w.log)
      (recordWrite fun w => { w with flashChanged := true, phase := "writing" })
      (fun _ => Ready sectors serial mem₀ rest) E := by
  refine Act.Triple.modify fun w ⟨h, hid⟩ => ?_
  obtain ⟨fw, hfw⟩ := Option.isSome_iff_exists.mp h.written
  have hun : fw.verified = false := by simpa [MaintenanceRecord.verified, hfw] using h.unverified
  have herases : erases w.log = [] := h.fresh.erases
  refine ⟨⟨⟨h.safe.legal.concat fun hv => ?_, h.safe.outside, fun hv => ?_⟩, hid.append _, ?_, ?_, ?_⟩, fun s _ a ha => ?_⟩
  · simp [MaintenanceRecord.verified, hfw, hun] at hv
  · simp [MaintenanceRecord.verified, hfw, hun] at hv
  · exact ⟨_, _, List.mem_append_right _ List.mem_cons_self, by simp [MaintenanceRecord.flashChanged, hfw]⟩
  · simp [MaintenanceRecord.flashChanged, hfw]
  · simp [MaintenanceRecord.verified, hfw, hun]
  · have hlog : a ∈ erases w.log := by simpa [World.asked, erases] using ha
    simp [herases] at hlog

theorem writeSectors_triple (hok : ∀ s ∈ sectors, s.Ok) (hasc : sectors.Pairwise fun s t => s.base < t.base)
    (hne : sectors ≠ []) :
    Act.Triple (fun w => Untouched sectors serial mem₀ w ∧ Identified serial w.log) (writeSectors 0 0 sectors)
      (fun _ w => Open sectors serial mem₀ w ∧ Begun w) (Left sectors serial mem₀) := by
  obtain ⟨s, rest, rfl⟩ := List.exists_cons_of_ne_nil hne
  obtain ⟨hlt, hasc⟩ := List.pairwise_cons.mp hasc
  have hcalm : ∀ w w', Calm w w' → Untouched (s :: rest) serial mem₀ w ∧ Identified serial w.log →
      Untouched (s :: rest) serial mem₀ w' ∧ Identified serial w'.log :=
    fun _ _ hc h => ⟨h.1.calm hc, hc.identified h.2⟩
  have hone : Act.Triple (Ready (s :: rest) serial mem₀ [s]) (writeOne s)
      (fun _ w => Ready (s :: rest) serial mem₀ rest w ∧ Begun w) (Left (s :: rest) serial mem₀) :=
    (writeOne_triple List.mem_cons_self (hok s List.mem_cons_self)).conseq (fun _ h => h)
      (fun _ w h => ⟨h.ready hlt, h.begun⟩) fun _ w h => ⟨h.1.is_open.safe, .inr h.1.begun, h.2⟩
  rw [writeSectors_zero]
  refine Act.Triple.bind (quit_left (fun w h => ⟨h.1.safe, .inl h.1.fresh⟩) (checkStop_triple hcalm _)) fun _ =>
    Act.Triple.bind (flag_triple [s] _) fun _ => Act.Triple.bind hone fun _ =>
      Act.Triple.bind (progress_triple (fun _ _ hc h => ⟨h.1.calm hc, h.2.calm hc⟩) _ _) fun _ => ?_
  exact writeSectors_succ_triple hok rest 0 _ (fun t ht => List.mem_cons_of_mem _ ht) hasc

end Runner

end ControlOfc.Firmware
