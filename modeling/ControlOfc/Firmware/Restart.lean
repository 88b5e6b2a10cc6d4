import ControlOfc.Firmware.WriteRun
/-! # Read back, restarted, done

The read-back loop collects the runs that came back as they are in the image; `verified` is recorded once
it has them all, and the board is restarted. `World.write_firmware_safe` is the whole write.
-/
namespace ControlOfc.Firmware
open History

variable {sectors : List Sector} {serial : List Char} {mem₀ : Nat → Nat}

/-! ## What the flash holds -/

/-- The flash holds the run. -/
def Holds (r : Run) (w : World) : Prop := ∀ i b, r.data[i]? = some b → IsFlash (r.addr + i) ∧ w.mem (r.addr + i) = b

theorem Holds.calm {r : Run} {w w' : World} (h : Holds r w) (hc : Calm w w') : Holds r w' := by
  intro i b hi
  obtain ⟨hf, hm⟩ := h i b hi
  exact ⟨hf, (hc.mem _ hf).trans hm⟩

/-- Runs that were read back as they are in the image. -/
structure Held (sectors : List Sector) (serial : List Char) (mem₀ : Nat → Nat) (runs : List Run) (w : World) : Prop where
  is_open : Open sectors serial mem₀ w
  begun : Begun w
  runs : ∀ r ∈ runs, ReadBack r w.log ∧ Holds r w

theorem Held.calm {runs : List Run} {w w' : World} (h : Held sectors serial mem₀ runs w) (hc : Calm w w') :
    Held sectors serial mem₀ runs w' :=
  ⟨h.is_open.calm hc, h.begun.calm hc, fun r hr => ⟨hc.readBack (h.runs r hr).1, (h.runs r hr).2.calm hc⟩⟩

theorem Held.concat {runs : List Run} {w : World} {r : Run} (h : Held sectors serial mem₀ runs w)
    (hr : ReadBack r w.log ∧ Holds r w) : Held sectors serial mem₀ (runs ++ [r]) w := by
  refine ⟨h.is_open, h.begun, fun t ht => ?_⟩
  rcases List.mem_append.mp ht with ht | ht
  · exact h.runs t ht
  · rwa [List.mem_singleton.mp ht]

theorem Held.left {runs more : List Run} {w : World} (h : Held sectors serial mem₀ (runs ++ more) w) :
    Held sectors serial mem₀ runs w :=
  ⟨h.is_open, h.begun, fun r hr => h.runs r (List.mem_append_left _ hr)⟩

/-- Every run was read back, the flash holds it, and the record says so. -/
structure Checked (sectors : List Sector) (serial : List Char) (mem₀ : Nat → Nat) (w : World) : Prop where
  safe : Safe sectors serial mem₀ w
  begun : Begun w
  verified : w.record.verified = true
  holds : ∀ s ∈ sectors, ∀ r ∈ s.runs, Holds r w

/-- How a run ends. -/
structure Ended (sectors : List Sector) (serial : List Char) (mem₀ : Nat → Nat) (written : Written) (w : World) : Prop where
  safe : Safe sectors serial mem₀ w
  told : Fresh w ∨ Begun w
  done : written = .done → Checked sectors serial mem₀ w ∧ .command .reboot true .done [] ∈ w.log

theorem Left.ended {written : Written} {w : World} (h : Left sectors serial mem₀ written w) :
    Ended sectors serial mem₀ written w :=
  ⟨h.safe, h.told, fun hd => absurd hd h.not_done⟩

theorem Checked.calm {w w' : World} (h : Checked sectors serial mem₀ w) (hc : Calm w w') :
    Checked sectors serial mem₀ w' :=
  ⟨h.safe.calm hc, h.begun.calm hc, hc.verified.trans h.verified, fun s hs r hr => (h.holds s hs r hr).calm hc⟩

/-- A checked board, which took the restart. -/
def Restarted (sectors : List Sector) (serial : List Char) (mem₀ : Nat → Nat) (w : World) : Prop :=
  Checked sectors serial mem₀ w ∧ .command .reboot true .done [] ∈ w.log

theorem Restarted.calm {w w' : World} (h : Restarted sectors serial mem₀ w) (hc : Calm w w') :
    Restarted sectors serial mem₀ w' := by
  obtain ⟨l, hl, -⟩ := hc.log
  refine ⟨h.1.calm hc, ?_⟩
  rw [hl]
  exact List.mem_append_left _ h.2

theorem Restarted.ended {w : World} (h : Restarted sectors serial mem₀ w) (written : Written) :
    Ended sectors serial mem₀ written w :=
  ⟨h.1.safe, .inr h.1.begun, fun _ => h⟩

/-- Bytes of one length in which no position differs are the same. -/
theorem eq_of_mismatch {got data : List Nat} (hlen : got.length = data.length) (h : mismatch got data = none) :
    got = data := by
  apply List.ext_getElem hlen
  intro i hi hi'
  have hz : i < (got.zip data).length := by
    simp
    omega
  have hne := List.findIdx?_eq_none_iff.mp h _ (List.getElem_mem hz)
  simpa using hne

theorem World.length_bytesAt (w : World) (addr len : Nat) : (w.bytesAt addr len).length = len := by
  simp [World.bytesAt]

theorem World.getElem?_bytesAt {w : World} {addr len i : Nat} {b : Nat} (h : (w.bytesAt addr len)[i]? = some b) :
    w.mem (addr + i) = b := by
  simp only [World.bytesAt, List.getElem?_map] at h
  obtain ⟨j, hj, rfl⟩ := Option.map_eq_some_iff.mp h
  obtain ⟨-, rfl⟩ := List.getElem?_eq_some_iff.mp hj
  simp

/-! ## Reading back -/

/-- The bytes of a run come back; if they are the image's, the flash holds them. -/
theorem read_held {before : List Run} {run : Run} (hflash : ∀ i < run.data.length, IsFlash (run.addr + i)) :
    Act.Triple (Held sectors serial mem₀ before) (Client.read run.addr run.data.length)
      (fun got w => Held sectors serial mem₀ before w ∧ got.length = run.data.length ∧
        (got = run.data → Held sectors serial mem₀ (before ++ [run]) w))
      fun _ => Held sectors serial mem₀ before := by
  have hcalm : Act.Triple (Held sectors serial mem₀ before) (Client.read run.addr run.data.length)
      (fun _ => Held sectors serial mem₀ before) fun _ => Held sectors serial mem₀ before :=
    Act.Within.triple (Client.calm_command (c := .read run.addr run.data.length) trivial nofun) fun _ _ hc h => h.calm hc
  refine (hcalm.and (Client.read_triple run.addr run.data.length (fun _ _ => True) fun _ _ => trivial)).conseq
    (fun w h => ⟨h, trivial⟩) ?_ fun _ _ h => h.1
  rintro got w ⟨h, hback, hgot⟩
  refine ⟨h, by rw [hgot, World.length_bytesAt], fun hdata => h.concat ⟨?_, fun i b hi => ⟨?_, ?_⟩⟩⟩
  · rwa [hdata] at hback
  · exact hflash i (List.getElem?_eq_some_iff.mp hi).1
  · rw [← hdata, hgot] at hi
    exact World.getElem?_bytesAt hi

theorem verifyRuns_triple :
    ∀ runs before, (∀ r ∈ runs, ∀ i < r.data.length, IsFlash (r.addr + i)) →
      Act.Triple (Held sectors serial mem₀ before) (verifyRuns runs)
        (fun r w => Held sectors serial mem₀ before w ∧ (r = none → Held sectors serial mem₀ (before ++ runs) w))
        fun _ => Held sectors serial mem₀ before := by
  intro runs
  induction runs with
  | nil =>
    intro before _
    refine Act.Triple.pure fun w h => ⟨h, fun _ => ?_⟩
    rwa [List.append_nil]
  | cons run runs ih =>
    intro before hflash
    refine Act.Triple.bind (read_held (hflash run List.mem_cons_self)) fun got => ?_
    split
    · exact Act.Triple.pure fun w h => ⟨h.1, nofun⟩
    · next hm =>
      refine (ih (before ++ [run]) fun r hr => hflash r (List.mem_cons_of_mem _ hr)).conseq
        (fun w h => h.2.2 (eq_of_mismatch h.2.1 hm)) (fun r w h => ⟨h.1.left, ?_⟩) fun _ _ h => h.left
      rw [List.append_assoc] at h
      exact h.2

namespace Runner

theorem verifyOne_triple {before : List Run} {s : Sector} (hok : s.Ok) :
    Act.Triple (Held sectors serial mem₀ before) (verifyOne s) (fun _ => Held sectors serial mem₀ (before ++ s.runs))
      (Left sectors serial mem₀) := by
  have hflash : ∀ r ∈ s.runs, ∀ i < r.data.length, IsFlash (r.addr + i) := by
    intro r hr i hi
    have hin := hok.inFlash
    have hrun := hok.runs r hr
    constructor <;> omega
  have hcalm : ∀ w w', Calm w w' → Held sectors serial mem₀ before w → Held sectors serial mem₀ before w' :=
    fun _ _ hc h => h.calm hc
  have hquit : ∀ {m : Runner Unit},
      Act.Triple (Held sectors serial mem₀ before) m (fun _ => Held sectors serial mem₀ (before ++ s.runs))
        (fun r w => Held sectors serial mem₀ before w ∧ r ≠ .done) →
      Act.Triple (Held sectors serial mem₀ before) m (fun _ => Held sectors serial mem₀ (before ++ s.runs))
        (Left sectors serial mem₀) :=
    quit_left fun w h => ⟨h.is_open.safe, .inr h.begun⟩
  refine Act.Triple.bind (Q := fun r w => Held sectors serial mem₀ before w ∧
    (r = some (.ok none) → Held sectors serial mem₀ (before ++ s.runs) w)) ?_ fun r => ?_
  · refine onUsb_triple ((verifyRuns_triple s.runs before hflash).conseq (fun _ h => h) (fun r w h => ⟨h.1, fun hr => ?_⟩)
      fun e w h => ?_)
    · exact h.2 (Except.ok.inj (Option.some.inj hr))
    · cases e <;> exact ⟨h, nofun⟩
  · split
    · exact Act.Triple.pure fun w h => h.2 rfl
    all_goals refine Act.Triple.conseq (hquit ?_) (fun _ h => h.1) (fun _ _ h => h) fun _ _ h => h
    · exact quit_fallBack hcalm _ _ _
    · exact quit_fallBack hcalm _ _ _
    · exact quit_fallBackHeld hcalm _ _

theorem verifySectors_triple (hok : ∀ s ∈ sectors, s.Ok) :
    ∀ rest before done, (∀ s ∈ rest, s ∈ sectors) →
      Act.Triple (Held sectors serial mem₀ before) (verifySectors done rest)
        (fun _ => Held sectors serial mem₀ (before ++ rest.flatMap Sector.runs)) (Left sectors serial mem₀) := by
  intro rest
  induction rest with
  | nil =>
    intro before done _
    refine Act.Triple.pure fun w h => ?_
    rwa [List.flatMap_nil, List.append_nil]
  | cons s rest ih =>
    intro before done hmem
    have hcalm : ∀ runs w w', Calm w w' → Held sectors serial mem₀ runs w → Held sectors serial mem₀ runs w' :=
      fun _ _ _ hc h => h.calm hc
    have hcheck : Act.Triple (Held sectors serial mem₀ before) (checkStop "reading the firmware back did not finish in time")
        (fun _ => Held sectors serial mem₀ before) (Left sectors serial mem₀) :=
      quit_left (fun w h => ⟨h.is_open.safe, .inr h.begun⟩) (checkStop_triple (hcalm before) _)
    have hrest := ih (before ++ s.runs) (done + s.bytes) fun t ht => hmem t (List.mem_cons_of_mem _ ht)
    rw [List.append_assoc, ← List.flatMap_cons] at hrest
    exact Act.Triple.bind hcheck fun _ => Act.Triple.bind (verifyOne_triple (hok s (hmem s List.mem_cons_self))) fun _ =>
      Act.Triple.bind (progress_triple (hcalm _) _ _) fun _ => hrest

/-! ## The restart -/

theorem verified_triple (E : Written → World → Prop) :
    Act.Triple (Held sectors serial mem₀ (sectors.flatMap Sector.runs))
      (recordWrite fun w => { w with verified := true, phase := "rebooting" })
      (fun _ => Checked sectors serial mem₀) E := by
  refine Act.Triple.modify fun w h => ?_
  have hback : AllReadBack sectors w.log := fun s hs r hr => (h.runs r (List.mem_flatMap.mpr ⟨s, hs, hr⟩)).1
  have hsome : ∃ fw, w.record.firmwareWrite = some fw ∧ fw.flashChanged = true := by
    exact Option.any_eq_true .. |>.mp h.begun.changed
  obtain ⟨fw, hfw, hch⟩ := hsome
  refine ⟨⟨h.is_open.safe.legal.concat fun _ => hback, h.is_open.safe.outside, fun _ s hs r hr => ?_⟩, ⟨?_, ?_⟩, ?_,
    fun s hs r hr => (h.runs r (List.mem_flatMap.mpr ⟨s, hs, hr⟩)).2⟩
  · exact (hback s hs r hr).concat rfl
  · have hne := h.begun.erases
    simpa [World.asked, erases] using hne
  · simp [MaintenanceRecord.flashChanged, hfw, hch]
  · simp [MaintenanceRecord.verified, hfw]

/-- The board restarts only with everything read back. -/
theorem reboot_triple :
    Act.Triple (Checked sectors serial mem₀) Client.reboot
      (fun _ w => Checked sectors serial mem₀ w ∧ .command .reboot true .done [] ∈ w.log)
      fun _ => Checked sectors serial mem₀ := by
  have hstep : ∀ w, Checked sectors serial mem₀ w → Checked sectors serial mem₀ (Client.after .reboot w) := by
    intro w h
    have hback := h.safe.verified h.verified
    refine ⟨⟨h.safe.legal.concat hback, h.safe.outside, fun _ s hs r hr => (hback s hs r hr).concat rfl⟩, ⟨?_, h.begun.changed⟩,
      h.verified, h.holds⟩
    have hne := h.begun.erases
    simpa [Client.after, erases] using hne
  refine Act.Triple.bind (Q := fun _ w => Checked sectors serial mem₀ w ∧ .command .reboot true .done [] ∈ w.log) ?_
    fun _ => Act.Triple.pure fun _ h => h
  intro w h
  have hafter := hstep w h
  simp only [Client.command]
  cases hr : w.answer.reply <;> simp [Client.stopOf, Client.after, hr] at hafter ⊢ <;> exact hafter

theorem restartBoard_triple :
    Act.Triple (Checked sectors serial mem₀) restartBoard (fun _ => Restarted sectors serial mem₀)
      (Left sectors serial mem₀) := by
  have hcalm : ∀ w w', Calm w w' → Checked sectors serial mem₀ w → Checked sectors serial mem₀ w' :=
    fun _ _ hc h => h.calm hc
  have hsafe : ∀ w, Checked sectors serial mem₀ w → Safe sectors serial mem₀ w ∧ (Fresh w ∨ Begun w) :=
    fun w h => ⟨h.safe, .inr h.begun⟩
  refine Act.Triple.bind (Q := fun r w => Checked sectors serial mem₀ w ∧
    (r = some (.ok ()) → Restarted sectors serial mem₀ w)) ?_ fun r => ?_
  · refine onUsb_triple (reboot_triple.conseq (fun _ h => h) (fun _ _ h => ⟨h.1, fun _ => h⟩) fun e _ h => ?_)
    cases e <;> exact ⟨h, nofun⟩
  · split
    · exact Act.Triple.pure fun w h => h.2 rfl
    · exact (quit_left hsafe (quit_fallBack hcalm _ _ _)).conseq (fun _ h => h.1) (fun _ _ h => h) fun _ _ h => h
    · exact (quit_left hsafe (quit_fallBackHeld hcalm _ _)).conseq (fun _ h => h.1) (fun _ _ h => h) fun _ _ h => h

theorem awaitRestart_triple :
    Act.Triple (Restarted sectors serial mem₀) awaitRestart (Ended sectors serial mem₀) (Ended sectors serial mem₀) := by
  have hcalm : ∀ w w', Calm w w' → Restarted sectors serial mem₀ w → Restarted sectors serial mem₀ w' :=
    fun _ _ hc h => h.calm hc
  have hwritten : Act.Within Calm (recordWrite fun w => { w with phase := "written" }) :=
    calm_recordWrite (fun _ => rfl) fun _ => rfl
  have hended : ∀ {m : Runner Written}, Act.Within Calm m →
      Act.Triple (Restarted sectors serial mem₀) m (Ended sectors serial mem₀) (Ended sectors serial mem₀) :=
    fun hm => (hm.triple hcalm).conseq (fun _ h => h) (fun r _ h => h.ended r) fun r _ h => h.ended r
  refine Act.Triple.bind (asked_triple hcalm _ _) fun r => ?_
  split
  · exact hended (Calm.bind hwritten fun _ => Calm.pure _)
  · exact hended (calm_fallBackHeld _ _)
  · exact Act.Triple.pure fun w h => h.ended _

theorem restart_triple :
    Act.Triple (Checked sectors serial mem₀) restart (Ended sectors serial mem₀) (Ended sectors serial mem₀) := by
  have hcalm : ∀ w w', Calm w w' → Checked sectors serial mem₀ w → Checked sectors serial mem₀ w' :=
    fun _ _ hc h => h.calm hc
  have hgo : Act.Triple (Checked sectors serial mem₀) (restartBoard >>= fun _ => awaitRestart)
      (Ended sectors serial mem₀) (Ended sectors serial mem₀) :=
    Act.Triple.bind (restartBoard_triple.conseq (fun _ h => h) (fun _ _ h => h) fun _ _ h => h.ended) fun _ =>
      awaitRestart_triple
  refine Act.Triple.bind (asked_triple hcalm _ _) fun stop => ?_
  cases stop with
  | true =>
    have hquit : Act.Triple (Checked sectors serial mem₀) (leaveWith stopWriting : Runner Unit)
        (fun _ => Checked sectors serial mem₀) (Left sectors serial mem₀) :=
      quit_left (fun w h => ⟨h.safe, .inr h.begun⟩) (quit hcalm calm_stopWriting (stopWriting_returns _))
    exact Act.Triple.bind (hquit.conseq (fun _ h => h) (fun _ _ h => h) fun _ _ h => h.ended) fun _ => hgo
  | false => exact hgo

/-! ## The whole write -/

theorem identify_triple :
    Act.Triple (Untouched sectors serial mem₀) identify
      (fun id w => Untouched sectors serial mem₀ w ∧
        ∃ reached, .command (.read flashIdResultAddr 8) reached .done id ∈ w.log) (Left sectors serial mem₀) := by
  have hcalm : ∀ w w', Calm w w' → Untouched sectors serial mem₀ w → Untouched sectors serial mem₀ w' :=
    fun _ _ hc h => h.calm hc
  have hsafe : ∀ w, Untouched sectors serial mem₀ w → Safe sectors serial mem₀ w ∧ (Fresh w ∨ Begun w) :=
    fun w h => ⟨h.safe, .inl h.fresh⟩
  have hid : Act.Triple (fun _ => True) identifySteps
      (fun id w => ∃ reached, .command (.read flashIdResultAddr 8) reached .done id ∈ w.log) fun _ _ => True := by
    have hany : ∀ (m : Usb Unit), Act.Triple (fun _ => True) m (fun _ _ => True) fun _ _ => True :=
      fun m => Act.Triple.of_state fun _ _ => trivial
    exact Act.Triple.bind (hany _) fun _ => Act.Triple.bind (hany _) fun _ => Act.Triple.bind (hany _) fun _ =>
      Client.flashId_triple
  refine Act.Triple.bind (Q := fun r w => Untouched sectors serial mem₀ w ∧
    ∀ id, r = some (.ok id) → ∃ reached, .command (.read flashIdResultAddr 8) reached .done id ∈ w.log) ?_ fun r => ?_
  · refine onUsb_triple (((calm_identifySteps.triple hcalm).and hid).conseq (fun _ h => ⟨h, trivial⟩)
      (fun id w h => ⟨h.1, ?_⟩) fun e w h => ?_)
    · rintro id' ⟨⟩
      exact h.2
    · cases e <;> exact ⟨h.1, nofun⟩
  · split
    · exact Act.Triple.pure fun w h => ⟨h.1, h.2 _ rfl⟩
    · exact (quit_left hsafe (quit_fallBack hcalm _ _ _)).conseq (fun _ h => h.1) (fun _ _ h => h) fun _ _ h => h
    · exact (quit_left hsafe (quit_fallBackHeld hcalm _ _)).conseq (fun _ h => h.1) (fun _ _ h => h) fun _ _ h => h

/-- A change of the record that leaves its flags alone, which cannot leave the run. -/
theorem recordWrite_triple {S : World → Prop} (hS : ∀ w w', Calm w w' → S w → S w') {f : FirmwareWrite → FirmwareWrite}
    (hc : ∀ w, (f w).flashChanged = w.flashChanged) (hv : ∀ w, (f w).verified = w.verified) (E : Written → World → Prop) :
    Act.Triple S (recordWrite f) (fun _ => S) E :=
  Act.Triple.modify fun w h => hS _ _ (calm_recordWrite hc hv w) h

/-- Once the flash is the board's: every sector written, read back, and the board restarted. -/
theorem write_triple (image : Image) :
    Act.Triple (fun w => Untouched image.sectors serial mem₀ w ∧ Identified serial w.log)
      (do
        writeSectors 0 0 image.sectors
        recordWrite fun w => { w with phase := "verifying", doneBytes := 0 }
        verifySectors 0 image.sectors
        recordWrite fun w => { w with verified := true, phase := "rebooting" }
        restart)
      (Ended image.sectors serial mem₀) (Ended image.sectors serial mem₀) := by
  have hne : image.sectors ≠ [] := by
    have hpages : image.pages ≠ [] := by
      intro h
      simpa [h] using image.start
    obtain ⟨s, hs, -⟩ := image.sectors_cover _ (List.head_mem hpages)
    exact List.ne_nil_of_mem hs
  have hwrite := @writeSectors_triple image.sectors serial mem₀ image.sectors_ok image.sectors_ascending hne
  have hread := @verifySectors_triple image.sectors serial mem₀ image.sectors_ok image.sectors [] 0 fun _ hs => hs
  refine Act.Triple.bind (hwrite.conseq (fun _ h => h) (fun _ _ h => h) fun _ _ h => h.ended) fun _ => ?_
  refine Act.Triple.bind (recordWrite_triple (S := fun w => Open image.sectors serial mem₀ w ∧ Begun w)
    (fun _ _ hc h => ⟨h.1.calm hc, h.2.calm hc⟩) (by intro; rfl) (by intro; rfl) _) fun _ => ?_
  refine Act.Triple.bind (hread.conseq (fun w h => ⟨h.1, h.2, nofun⟩) (fun _ _ h => h) fun _ _ h => h.ended) fun _ => ?_
  exact Act.Triple.bind (verified_triple _) fun _ => restart_triple

/-- The stage is entered and the write is in the record. -/
theorem begin_triple (image : Image) (release : String) {rest : Runner Written}
    (h : Act.Triple (Untouched sectors serial mem₀) rest (Ended sectors serial mem₀) (Ended sectors serial mem₀)) :
    Act.Triple (fun w => w.log = [] ∧ w.record.firmwareWrite = none ∧ w.mem = mem₀)
      (do
        enterUntil "writing_firmware"
        record fun r =>
          { r with firmwareWrite := some { r.firmwareWrite.getD (.new release image.byteCount) with phase := "identifying" } }
        rest)
      (Ended sectors serial mem₀) (Ended sectors serial mem₀) := by
  refine Act.Triple.bind (Q := fun _ w => (∃ e, w.log = [e] ∧ e.Calm false) ∧ w.record.firmwareWrite = none ∧ w.mem = mem₀)
    (Act.Triple.modify ?_) fun _ => Act.Triple.bind (Act.Triple.modify ?_) fun _ => h
  · rintro w ⟨hlog, hrec, hmem⟩
    exact ⟨⟨_, by rw [hlog]; rfl, by simp [Entry.Calm, MaintenanceRecord.verified, hrec]⟩, hrec, hmem⟩
  · rintro w ⟨⟨e, hlog, he⟩, hrec, hmem⟩
    refine ⟨⟨?_, fun x _ _ => congrFun hmem x, ?_⟩, ⟨?_, ?_⟩, rfl, ?_⟩
    · rw [hlog]
      refine ((legal_nil _).concat (he.ok fun h => by cases h)).concat fun hv => ?_
      simp [MaintenanceRecord.verified, hrec, FirmwareWrite.new] at hv
    · simp [MaintenanceRecord.verified, hrec, FirmwareWrite.new]
    · show erases (w.log ++ _) = []
      rw [hlog, erases_append, he.erases]
      rfl
    · simp [MaintenanceRecord.flashChanged, hrec, FirmwareWrite.new]
    · simp [MaintenanceRecord.verified, hrec, FirmwareWrite.new]

theorem writeFirmware_triple (port release : String) (image : Image) :
    Act.Triple (fun w => w.log = [] ∧ w.record.firmwareWrite = none ∧ w.mem = mem₀)
      (writeFirmware port serial release image) (Ended image.sectors serial mem₀) (Ended image.sectors serial mem₀) := by
  have hcalm : ∀ w w', Calm w w' → Untouched image.sectors serial mem₀ w → Untouched image.sectors serial mem₀ w' :=
    fun _ _ hc h => h.calm hc
  have hsafe : ∀ w, Untouched image.sectors serial mem₀ w → Safe image.sectors serial mem₀ w ∧ (Fresh w ∨ Begun w) :=
    fun w h => ⟨h.safe, .inl h.fresh⟩
  refine begin_triple image release (Act.Triple.bind ((quit_left hsafe (openBootloader_triple hcalm)).conseq (fun _ h => h)
    (fun _ _ h => h) fun _ _ h => h.ended) fun _ => Act.Triple.bind (identify_triple.conseq (fun _ h => h) (fun _ _ h => h)
    fun _ _ h => h.ended) fun id => Act.Triple.bind (recordWrite_triple (S := fun w => Untouched image.sectors serial mem₀ w ∧
      ∃ reached, .command (.read flashIdResultAddr 8) reached .done id ∈ w.log) ?_ (by intro; rfl) (by intro; rfl) _) fun _ => ?_)
  · rintro w w' hc ⟨h, reached, hr⟩
    obtain ⟨l, hl, -⟩ := hc.log
    exact ⟨h.calm hc, reached, by rw [hl]; exact List.mem_append_left _ hr⟩
  · split
    · next hid =>
      exact (write_triple image).conseq (fun w ⟨h, reached, hr⟩ => ⟨h, reached, id, hr, hid⟩) (fun _ _ h => h) fun _ _ h => h
    · exact (((calm_fallBack _ _ _).triple hcalm).and (fallBack_returns _ _ _ fun r _ => r ≠ .done)).conseq
        (fun w h => ⟨h.1, trivial⟩) (fun r w h => ⟨h.1.safe, .inl h.1.fresh, fun hd => absurd hd h.2⟩)
        fun r w h => ⟨h.1.safe, .inl h.1.fresh, fun hd => absurd hd h.2⟩

end Runner

/-- The page's bytes are in the flash. -/
def World.HoldsPage (w : World) (p : Nat × List Nat) : Prop := ∀ i b, p.2[i]? = some b → w.mem (p.1 + i) = b

theorem Checked.holdsPage {image : Image} {w : World} (h : Checked image.sectors serial mem₀ w) {p : Nat × List Nat}
    (hp : p ∈ image.pages) : w.HoldsPage p := by
  obtain ⟨s, hs, r, hr, k, hk, hpage⟩ := image.sectors_cover p hp
  intro i b hi
  have hmem := (h.holds s hs r hr (k + i) b (hpage i b hi)).2
  rwa [← Nat.add_assoc, hk] at hmem

/-- What a whole write does, whatever the boot ROM, the journal and the daemon's steps do. Every erase and
flash write, every restart and every record that says `verified` has what `Ok` asks for before it; the
bytes outside the image's sectors are as they were; the record says that the flash has changed just when
an erase was attempted, and `verified` only with everything read back; and a write that is done has
restarted a board whose flash holds the image. -/
theorem World.write_firmware_safe (image : Image) (port release stage : String) (serial : List Char) (notes : List String)
    (mem : Nat → Nat) (answers : Nat → Answer) :
    let run := (World.begin mem answers stage notes).writeFirmware port serial release image
    (∀ before e after, run.2.log = before ++ e :: after → Ok image.sectors serial before e) ∧
    (∀ x, IsFlash x → Outside image.sectors x → run.2.mem x = mem x) ∧
    (run.2.record.flashChanged = true ↔ erases run.2.log ≠ []) ∧
    (run.2.record.verified = true → AllReadBack image.sectors run.2.log) ∧
    (run.1 = .done → run.2.record.verified = true ∧ .command .reboot true .done [] ∈ run.2.log ∧
      ∀ p ∈ image.pages, run.2.HoldsPage p) := by
  have hend : Ended image.sectors serial mem ((World.begin mem answers stage notes).writeFirmware port serial release image).1
      ((World.begin mem answers stage notes).writeFirmware port serial release image).2 := by
    have h := @Runner.writeFirmware_triple serial mem port release image (World.begin mem answers stage notes) ⟨rfl, rfl, rfl⟩
    unfold World.writeFirmware
    split at h <;> next heq => rw [heq]; exact h
  refine ⟨hend.safe.legal, hend.safe.outside, ?_, hend.safe.verified, fun hd => ?_⟩
  · rcases hend.told with h | h
    · simp [h.erases, h.changed]
    · simp [h.erases, h.changed]
  · obtain ⟨h, hreboot⟩ := hend.done hd
    exact ⟨h.verified, hreboot, fun p hp => h.holdsPage hp⟩

/-! ## A flash that never changed, and a journal that was never saved -/

/-- An erase that reached the boot ROM. -/
def Entry.erased : Entry → Bool
  | .command (.flashErase ..) reached .. => reached
  | _ => false

def Entry.saved : Entry → Bool
  | .journal _ saved => saved
  | _ => false

/-- One page of zeroes, at the start of the flash. -/
def onePage : Image where
  pages := [(flashBase, List.replicate pageSize 0)]
  sorted := List.pairwise_singleton ..
  aligned := by decide
  inFlash := by decide
  payload := by simp
  start := rfl

/-- A boot ROM that does what it is told, on a flash whose id is all 0xAB, and a journal that cannot be
saved. -/
def obedient : Answer where
  yes := false
  opened := some (.ok ())
  reply := .done
  reached := true
  garbage := fun _ => 0
  ram := fun _ => 0xab
  watched := .found

/-- The step that would send the first erase panics before it does. -/
def lostBeforeErase (n : Nat) : Answer :=
  if n = 13 then { obedient with reply := .lost, reached := false } else obedient

/-- The write of the page, to the board whose flash id is all 0xAB. -/
def writeOnePage (answers : Nat → Answer) : Written × World :=
  (World.begin (fun _ => 0) answers "start" []).writeFirmware "1-2" (serialOf (List.replicate 8 0xab)) "release" onePage

/-- The record can say that the flash has changed when no erase was sent; and an erase is sent although the
journal could not be saved. -/
theorem flashChanged_unsent :
    ((writeOnePage lostBeforeErase).2.record.flashChanged = true ∧
      (writeOnePage lostBeforeErase).2.log.any Entry.erased = false) ∧
    (writeOnePage fun _ => obedient).2.log.any Entry.erased = true ∧
      (writeOnePage fun _ => obedient).2.log.any Entry.saved = false := by
  decide +kernel

end ControlOfc.Firmware
