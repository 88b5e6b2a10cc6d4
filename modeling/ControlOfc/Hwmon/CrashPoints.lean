import ControlOfc.Hwmon.Replay
import ControlOfc.Hwmon.WriteAhead
import ControlOfc.Lib.Machine
/-! # What a crash finds

Every operation of the controller keeps the ledger, the record and the hardware `InStep`, so the record is
ahead of the hardware wherever a run is cut.

* `RecordedRig.record_write_ahead` — over every run and every crash point.
-/
namespace ControlOfc.Hwmon
open History Pwm

/-! ## A line of the record as text -/

theorem newline_not_mem_columns (a : HandBack) : '\n' ∉ a.recordColumns.1 ∧ '\n' ∉ a.recordColumns.2 := by
  have hdigits (n : Nat) : '\n' ∉ digits n := by
    intro hc
    simpa using Nat.isDigit_of_mem_toDigits (by decide) (by decide) hc
  have hkind : '\n' ∉ kindMode ∧ '\n' ∉ kindWriteOnly ∧ '\n' ∉ kindManual := by decide
  cases a with
  | mode n => exact ⟨hkind.1, hdigits n⟩
  | writeOnlyMode n => exact ⟨hkind.2.1, hdigits n⟩
  | manual n => exact ⟨hkind.2.2, hdigits n⟩
  | fullSpeed => decide

/-- What a replace is told to hold can be read back line by line, but for a path a line cannot carry. -/
theorem line_mem_recordText {held : List (String × LedgerEntry)} {x : String × LedgerEntry} (hx : x ∈ held)
    (ht : x.2.taken = true) (hep : hasSeparator x.2.enablePath.text = false) (hpp : hasSeparator x.2.pwmPath.text = false) :
    x.2.line ∈ Shell.lines (recordText held) := by
  have hheader : '\n' ∉ recordHeader := by decide
  have hrows : ∀ e ∈ recorded (held.map Prod.snd), '\n' ∉ LedgerEntry.line e := by
    intro e he
    obtain ⟨-, hce, hcp⟩ := mem_recorded.mp he
    obtain ⟨hk, hv⟩ := newline_not_mem_columns e.action
    simp [LedgerEntry.line, (RestoreAuto.not_mem_of_clean hce).2, (RestoreAuto.not_mem_of_clean hcp).2, hk, hv]
  have hmem : x.2 ∈ recorded (held.map Prod.snd) := mem_recorded.mpr ⟨⟨List.mem_map_of_mem hx, ht⟩, hep, hpp⟩
  unfold recordText renderRecord
  rw [Shell.lines_line hheader, Shell.lines_table _ _ hrows]
  exact List.mem_cons_of_mem _ (List.mem_map_of_mem hmem)

namespace RecordedRig

variable {env : Sysfs} {hs : Headers} {disk : Nat → Bool} {d : RecordedRig}

/-! ## Each operation keeps the record in step -/

theorem InStep.takeAndWrite (h : InStep env hs d) {hd : PwmHeaderDescriptor} (hh : hd ∈ hs.list) (eff : Nat)
    (reconciles correcting : Bool) : InStep env hs (takeAndWrite env hs disk d hd eff reconciles correcting).1 := by
  have htake := @InStep.takeUnheld env hs disk d h hd hh
  unfold RecordedRig.takeAndWrite
  dsimp only
  split
  · exact htake
  · exact htake.quiet (HwmonRig.writeDuty_quiet _ hd eff _ _)

theorem InStep.command (h : InStep env hs d) {hd : PwmHeaderDescriptor} (hh : hd ∈ hs.list) (pct : Nat)
    (reconciles : Bool) : InStep env hs (command env hs disk d hd pct reconciles).1 := by
  have hbook : InStep env hs (d.move (HwmonRig.book (HwmonRig.enableReclaimed env d.rig hd).2 hd reconciles
      (HwmonRig.enableReclaimed env d.rig hd).1)) :=
    h.quiet ((HwmonRig.enableReclaimed_quiet d.rig hd).trans (HwmonRig.book_quiet _ hd _ _))
  unfold RecordedRig.command
  dsimp only
  generalize d.move (HwmonRig.book _ hd reconciles _) = d' at hbook ⊢
  split
  · have hdrift := hbook.quiet (@HwmonRig.dutyDriftRewrite_quiet env d'.rig hd (d.rig.ctrl.raise hd.id pct))
    split
    · exact hdrift.takeAndWrite hh _ _ _
    · exact hdrift
  · exact hbook.takeAndWrite hh _ _ _

theorem InStep.setPwm (h : InStep env hs d) (id : String) (pct : Nat) (leaseId : String) :
    InStep env hs (setPwm env hs disk d id pct leaseId).1 := by
  unfold RecordedRig.setPwm
  cases d.rig.ctrl.leaseManager.validateLease d.rig.now leaseId with
  | error e => exact h
  | ok _ =>
    have hflag := h.quiet (HwmonRig.takeResumeFlag_quiet d.rig)
    cases hg : hs.get? id with
    | none => exact hflag
    | some hd =>
      have hmark := hflag.quiet (r := { (d.move d.rig.takeResumeFlag).rig with
        bus := ((d.move d.rig.takeResumeFlag).rig.bus.check env).2 }) ⟨Bus.wrote_check env _, rfl⟩
      dsimp only
      split
      · exact hmark
      · split
        · exact hmark
        · exact hmark.retry.command (Headers.mem_of_get? hg) _ _

/-- Giving a header back frees it, and the record then says so. -/
theorem InStep.handedBack (h : InStep env hs d) {id : String} {e : LedgerEntry}
    (he : d.rig.ctrl.handback.get? id = some e) (ht : e.taken = true) :
    InStep env hs (noteHandedBack hs disk { d with effects := d.effects ++ [.released id] } id) := by
  have hget := HandBackLedger.noteHandedBack_get? he ht
  have hfree : ∀ id', Driven id' (d.effects ++ [.released id]) → id' ≠ id ∧ Driven id' d.effects := by
    intro id' hdr
    rcases (driven_concat id' _ _).mp hdr with hset | ⟨hdr, hno⟩
    · exact hset.elim
    · exact ⟨fun heq => hno heq.symm, hdr⟩
  have htracked : Tracked env hs (d.rig.ctrl.handback.noteHandedBack id) (d.effects ++ [.released id] ++
      [.replace ((d.rig.ctrl.handback.noteHandedBack id).held hs) (disk d.replaces)]) := by
    refine (h.tracked.release id).persist (fun id' => ?_) (fun id' hdr => ?_) (fun id' e' he' hte => ?_) _
    · rw [hget]
      by_cases hid : id' = id
      · simp [hid, he]
      · simp [hid]
    · obtain ⟨hne, hdr⟩ := hfree id' hdr
      rw [hget, if_neg hne]
      exact h.tracked.driven id' hdr
    · rw [hget] at he'
      split at he'
      · obtain rfl := Option.some.inj he'
        cases hte
      · exact h.tracked.original id' e' he' hte
  unfold RecordedRig.noteHandedBack
  simp only [he, Option.any_some, ht, if_true]
  refine ⟨htracked, ?_⟩
  show (!disk d.replaces) = !replacedOk (_ ++ [_])
  rw [replacedOk_concat]

theorem takenHeader_eq {l : HandBackLedger} {id : String} {x : LedgerEntry × HandBack} (h : l.takenHeader id = some x) :
    l.get? id = some x.1 ∧ x.1.taken = true := by
  unfold HandBackLedger.takenHeader at h
  obtain ⟨e, he, rfl⟩ := Option.map_eq_some_iff.mp h
  exact Option.filter_eq_some_iff.mp he

theorem InStep.handBack (h : InStep env hs d) (id leaseId : String) : InStep env hs (handBack env hs disk d id leaseId).1 := by
  unfold RecordedRig.handBack
  cases d.rig.ctrl.leaseManager.validateLease d.rig.now leaseId with
  | error e => exact h
  | ok _ =>
    have hretry := @InStep.retry env hs disk d h
    dsimp only
    cases hx : (retryRecordIfFailed hs disk d).rig.ctrl.handback.takenHeader id with
    | none => exact hretry
    | some x =>
      obtain ⟨hget, ht⟩ := takenHeader_eq hx
      have hwrote := Bus.handBack_wrote env id x.1 (retryRecordIfFailed hs disk d).rig.bus x.2
      have hback := hretry.move (r := { (retryRecordIfFailed hs disk d).rig with
        bus := ((retryRecordIfFailed hs disk d).rig.bus.handBack env id x.1 x.2).2 }) rfl
        fun w hw _ => by rw [hwrote.since w hw]; exact ⟨_, hget, ht⟩
      dsimp only
      split
      · exact (hback.handedBack hget ht).quiet (.of_bus rfl rfl)
      · exact hback.quiet (.of_bus rfl (by simp))

theorem InStep.releaseNoMode (h : InStep env hs d) (id leaseId : String) :
    InStep env hs (releaseNoMode env hs disk d id leaseId).1 := by
  have hset := @InStep.setPwm env hs disk d h id (Pwm.exitDuty (d.rig.ctrl.exitRecord.get? id).join d.rig.cache.exitFloorPct) leaseId
  have hend {d' : RecordedRig} (h' : InStep env hs d') : InStep env hs (d'.move (d'.rig.released id)) :=
    h'.quiet (.of_bus rfl rfl)
  unfold RecordedRig.releaseNoMode
  cases d.rig.ctrl.leaseManager.validateLease d.rig.now leaseId with
  | error e => exact h
  | ok _ =>
    dsimp only
    split
    · exact h
    · split
      · exact hend h
      · generalize RecordedRig.setPwm env hs disk d id _ leaseId = out at hset ⊢
        rcases out with ⟨d', e | v⟩
        · cases e <;> exact hset
        · exact hend hset

/-- The step lemma. -/
theorem InStep.step (h : InStep env hs d) (e : Nat × HwmonOp) : InStep env hs (step env hs disk d e) := by
  obtain ⟨dt, op⟩ := e
  have hwait : InStep env hs (d.move (d.rig.wait dt)) := h.quiet (.of_bus rfl rfl)
  cases op with
  | setPwm id pct leaseId => exact hwait.setPwm id pct leaseId
  | releaseNoMode id leaseId => exact hwait.releaseNoMode id leaseId
  | handBack id leaseId => exact hwait.handBack id leaseId
  | _ => exact h.quiet (.of_bus rfl rfl)

/-- A record that names nobody is in step with a controller that has taken nobody. -/
theorem start_inStep (leases : LeaseManager) (cache : HwmonCache) (now : Nat) :
    InStep env hs (start hs disk leases cache now) := by
  have hnew : ∀ id e, (HandBackLedger.new hs).get? id = some e →
      ∃ h ∈ hs.list, h.id = id ∧ h.supportsEnable = true ∧ h.enablePath = some e.enablePath ∧ e.pwmPath = h.pwmPath ∧
        e.original = none ∧ e.taken = false := by
    intro id e he
    obtain ⟨h, hh, he⟩ := Option.bind_eq_some_iff.mp he
    split at he
    · next hen =>
      obtain ⟨ep, hep, rfl⟩ := Option.map_eq_some_iff.mp he
      exact ⟨h, Headers.mem_of_get? hh, Headers.id_of_get? hh, hen, hep, rfl, rfl, rfl⟩
    · cases he
  have hnot : ∀ id, ¬ Driven id [] := fun id => not_latched_nil _ _
  have hnil : Tracked env hs (HandBackLedger.new hs) [] := by
    refine ⟨always_nil fun _ h _ hdr => absurd hdr (hnot h.id), fun _ => ?_, fun id e he => ?_, fun h hh hen => ?_,
      fun id hdr => absurd hdr (hnot id), fun id e he ht => ?_, fun h hh e a he ha => ?_, fun _ _ _ _ => rfl, nofun⟩
    · refine (List.eq_nil_iff_forall_not_mem.mpr fun x hx => ?_).symm
      obtain ⟨-, -, -, he, ht⟩ := HandBackLedger.mem_held.mp hx
      obtain ⟨-, -, -, -, -, -, -, hfalse⟩ := hnew _ _ he
      rw [hfalse] at ht
      cases ht
    · obtain ⟨h, hh, hid, hen, hep, hpp, -⟩ := hnew id e he
      exact ⟨h, hh, hid, hen, hep, hpp⟩
    · have hep : h.enablePath.isSome := h.enable_iff.symm.trans hen
      simp [HandBackLedger.Tracks, HandBackLedger.new, KMap.get?, Headers.get?_of_mem hh, hen, hep]
    · obtain ⟨-, -, -, -, -, -, -, hfalse⟩ := hnew id e he
      rw [hfalse] at ht
      cases ht
    · obtain ⟨-, -, -, -, -, -, hnone, -⟩ := hnew _ e he
      rw [hnone] at ha
      cases ha
  have hstart : InStep env hs ⟨HwmonRig.start hs leases cache now, false, 0, []⟩ := ⟨hnil, rfl⟩
  exact hstart.persist

theorem run_inStep (leases : LeaseManager) (cache : HwmonCache) (now : Nat) (es : List (Nat × HwmonOp)) :
    InStep env hs (Machine.run (step env hs disk) (start hs disk leases cache now) es) :=
  Machine.run_inv (fun _ e h => h.step e) _ es (start_inStep leases cache now)

/-! ## Effects are only added -/

theorem takeUnheld_effects (d : RecordedRig) (hd : PwmHeaderDescriptor) :
    d.effects <+: (takeUnheld env hs disk d hd).2.effects := by
  have hmove (d : RecordedRig) (r : HwmonRig) : d.effects <+: (d.move r).effects := List.prefix_append ..
  have hnote (d : RecordedRig) (o : Option HandBack) : d.effects <+: (noteTake hs disk d hd.id o).effects := by
    unfold noteTake
    dsimp only
    split
    · exact List.prefix_append ..
    · exact List.prefix_rfl
  unfold takeUnheld takeMode
  split
  · split
    · exact List.prefix_rfl
    · dsimp only
      split
      · exact hmove ..
      · exact (hmove ..).trans ((hnote ..).trans (hmove ..))
  · exact List.prefix_rfl

theorem takeAndWrite_effects (d : RecordedRig) (hd : PwmHeaderDescriptor) (eff : Nat) (reconciles correcting : Bool) :
    d.effects <+: (takeAndWrite env hs disk d hd eff reconciles correcting).1.effects := by
  have htake := @takeUnheld_effects env hs disk d hd
  unfold takeAndWrite
  dsimp only
  split
  · exact htake
  · exact htake.trans (List.prefix_append ..)

theorem command_effects (d : RecordedRig) (hd : PwmHeaderDescriptor) (pct : Nat) (reconciles : Bool) :
    d.effects <+: (command env hs disk d hd pct reconciles).1.effects := by
  have hmove (d : RecordedRig) (r : HwmonRig) : d.effects <+: (d.move r).effects := List.prefix_append ..
  unfold command
  dsimp only
  split
  · split
    · exact (hmove ..).trans ((hmove ..).trans (takeAndWrite_effects ..))
    · exact (hmove ..).trans (hmove ..)
  · exact (hmove ..).trans (takeAndWrite_effects ..)

/-- A command past its checks first replaces a record whose last replace failed. -/
theorem setPwm_retries {id : String} {pct : Nat} {leaseId : String} {hd : PwmHeaderDescriptor} (hstale : d.stale = true)
    (hlease : d.rig.ctrl.leaseManager.validateLease d.rig.now leaseId = .ok ()) (hg : hs.get? id = some hd)
    (hmark : (hd.ownedByHandBack && env.begun d.rig.bus.tick) = false) (hpct : pct ≤ 100) :
    (d.effects ++ [.replace (d.rig.ctrl.handback.held hs) (disk d.replaces)]) <+:
      (setPwm env hs disk d id pct leaseId).1.effects := by
  have hledger := (HwmonRig.takeResumeFlag_quiet d.rig).ledger
  have hbus : d.rig.takeResumeFlag.bus = d.rig.bus := rfl
  have hno : ¬ 100 < pct := by omega
  unfold setPwm
  simp only [hlease, hg, move_rig, Bus.check, hbus, hmark, Bool.false_eq_true, if_false, hno]
  refine List.IsPrefix.trans ?_ (command_effects ..)
  simp [retryRecordIfFailed, hstale, persist, move, hledger, Bus.since, hbus]

/-! ## The record is write-ahead -/

/-- Two lines of one header give it back the same way, whenever they were written. -/
theorem InStep.lines_agree (h : InStep env hs d) {held held' : List (String × LedgerEntry)} {ok ok' : Bool}
    (hm : .replace held ok ∈ d.effects) (hm' : .replace held' ok' ∈ d.effects) {x x' : String × LedgerEntry}
    (hx : x ∈ held) (hx' : x' ∈ held') (hid : x.1 = x'.1) : x.2.original = x'.2.original := by
  obtain ⟨-, e, a, he, hea, hxa⟩ := h.tracked.lines held ok hm x hx
  obtain ⟨-, e', a', he', hea', hxa'⟩ := h.tracked.lines held' ok' hm' x' hx'
  rw [← hid, he] at he'
  obtain rfl := Option.some.inj he'
  rw [hxa, hxa', ← hea, ← hea']

/-- At every crash point of every run the record, if its last replace took, names each header the daemon drives
with what was read before its first take; no line ever changes a header's action; a failed replace is made up
for by the next command past its checks; and only headers with a mode switch ever get a line. -/
theorem record_write_ahead (env : Sysfs) (hs : Headers) (disk : Nat → Bool) (leases : LeaseManager) (cache : HwmonCache)
    (now : Nat) (es : List (Nat × HwmonOp)) :
    let d := Machine.run (step env hs disk) (start hs disk leases cache now) es
    Always (Ahead env hs) d.effects ∧
    (∀ held ok held' ok', .replace held ok ∈ d.effects → .replace held' ok' ∈ d.effects →
      ∀ x ∈ held, ∀ x' ∈ held', x.1 = x'.1 → x.2.original = x'.2.original) ∧
    (replacedOk d.effects = false → ∀ (dt : Nat) (id : String) (pct : Nat) (leaseId : String) (h : PwmHeaderDescriptor),
      d.rig.ctrl.leaseManager.validateLease (d.rig.now + dt) leaseId = .ok () → hs.get? id = some h →
      (h.ownedByHandBack && env.begun d.rig.bus.tick) = false → pct ≤ 100 →
      ∃ held, (d.effects ++ [.replace held (disk d.replaces)]) <+: (step env hs disk d (dt, .setPwm id pct leaseId)).effects ∧
        (disk d.replaces = true → replacedOk (d.effects ++ [.replace held true]) = true ∧
          Ahead env hs (d.effects ++ [.replace held true]))) ∧
    (∀ held ok, .replace held ok ∈ d.effects → ∀ x ∈ held,
      (∃ h ∈ hs.list, h.id = x.1 ∧ h.supportsEnable = true ∧ h.enablePath = some x.2.enablePath ∧ x.2.pwmPath = h.pwmPath) ∧
      (x.2.taken = true → hasSeparator x.2.enablePath.text = false → hasSeparator x.2.pwmPath.text = false →
        x.2.line ∈ Shell.lines (recordText held))) := by
  intro d
  have hd : InStep env hs d := run_inStep leases cache now es
  refine ⟨hd.tracked.ahead, fun held ok held' ok' hm hm' x hx x' hx' => hd.lines_agree hm hm' hx hx', ?_, ?_⟩
  · intro hfailed dt id pct leaseId h hlease hg hmark hpct
    have hstale : d.stale = true := by simpa [hfailed] using hd.stale
    have hpre := @setPwm_retries env hs disk (d.move (d.rig.wait dt)) id pct leaseId h hstale hlease hg hmark hpct
    rw [show (d.move (d.rig.wait dt)).effects = d.effects by simp [move, HwmonRig.wait, Bus.since]] at hpre
    refine ⟨_, hpre, fun hok => ?_⟩
    have hall := (@InStep.step env hs disk d hd (dt, .setPwm id pct leaseId)).tracked.ahead _ hpre
    rw [show disk (d.move (d.rig.wait dt)).replaces = true from hok] at hall
    exact ⟨by simp, hall⟩
  · intro held ok hm x hx
    exact ⟨(hd.tracked.lines held ok hm x hx).header, fun ht hep hpp => line_mem_recordText hx ht hep hpp⟩

/-- A laptop header whose mode switch cannot be read. -/
def dellHeader : PwmHeaderDescriptor :=
  ⟨"cpu", "dell_smm", true, ⟨"hwmon0", "pwm1"⟩, some ⟨"hwmon0", "pwm1_enable"⟩, true, by decide⟩

def dell : Headers := ⟨[dellHeader], by decide⟩

def dellFiles : Sysfs := ⟨fun _ p => if p.file = "pwm1" then some 128 else none, fun _ => none, none⟩

/-- Its record line gives it back to the BIOS and not at full speed. -/
theorem dell_not_fullSpeed :
    (∀ t, dellFiles.read t ⟨"hwmon0", "pwm1_enable"⟩ = none) ∧
    let d := Machine.run (step dellFiles dell fun _ => true)
      (start dell (fun _ => true) (.withTtl defaultLeaseTtl) ⟨false, false, 50, []⟩ 0)
      [(0, .lease (.take .engine)), (1, .setPwm "cpu" 50 "lease-1")]
    (∀ held ok, .replace held ok ∈ d.effects → ok = true) ∧ Driven "cpu" d.effects ∧
      onDisk d.effects = [("cpu", ⟨⟨"hwmon0", "pwm1_enable"⟩, ⟨"hwmon0", "pwm1"⟩, some (.writeOnlyMode 2), true⟩)] := by
  refine ⟨fun _ => by simp [dellFiles], ?_⟩
  have heffects : (Machine.run (step dellFiles dell fun _ => true)
      (start dell (fun _ => true) (.withTtl defaultLeaseTtl) ⟨false, false, 50, []⟩ 0)
      [(0, .lease (.take .engine)), (1, .setPwm "cpu" 50 "lease-1")]).effects =
      [.replace [] true,
        .replace [("cpu", ⟨⟨"hwmon0", "pwm1_enable"⟩, ⟨"hwmon0", "pwm1"⟩, some (.writeOnlyMode 2), true⟩)] true,
        .write ⟨4, "cpu", .enable, 1⟩, .write ⟨6, "cpu", .duty, 128⟩] := by decide
  dsimp only
  rw [heffects]
  refine ⟨fun held ok hm => ?_, ⟨2, _, rfl, ⟨rfl, rfl, rfl⟩, fun j e hj he hfree => ?_⟩, rfl⟩
  · simp only [List.mem_cons, Effect.replace.injEq, List.not_mem_nil, or_false, reduceCtorEq] at hm
    rcases hm with ⟨-, rfl⟩ | ⟨-, rfl⟩ <;> rfl
  · have hlt : j < 4 := (List.getElem?_eq_some_iff.mp he).1
    obtain rfl : j = 3 := by omega
    obtain rfl := Option.some.inj he
    exact absurd hfree.2.1 (by decide)

end RecordedRig
end ControlOfc.Hwmon
