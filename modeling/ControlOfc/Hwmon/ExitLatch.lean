import ControlOfc.Hwmon.PwmControl
import Mathlib.Tactic.Cases
/-! # What the hwmon controller writes under a latched exit floor

`Kept P` is what each function of the controller does to its rig: it makes only writes `P` allows, it
leaves the latch `exit_min` and the set of headers the hand-back owns as they are, and it keeps
`exit_record` truthful. Each function gets one such lemma; a run is their composition.
-/
namespace ControlOfc.Hwmon
open Pwm

/-! ## The record is what a header was last told -/

/-- The last duty written to a header. -/
def Bus.lastDuty (b : Bus) (id : String) : Option Nat :=
  ((b.log.filter fun w => w.header = id ∧ w.attr = .duty).getLast?).map (·.value)

@[simp] theorem Bus.lastDuty_write (env : Sysfs) (b : Bus) (header : String) (path : SysfsPath) (attr : Attr)
    (value : Nat) (id : String) :
    (b.write env header path attr value).2.lastDuty id =
      if header = id ∧ attr = .duty then some value else b.lastDuty id := by
  unfold lastDuty write
  by_cases h : header = id ∧ attr = .duty
  · simp [List.filter_append, h]
  · rw [if_neg h]
    simp only [List.filter_append, List.filter_cons, decide_eq_true_eq, if_neg h, List.filter_nil, List.append_nil]

/-- What is written to other headers does not matter. -/
theorem Bus.lastDuty_of_wrote {P : SysfsWrite → Prop} {b b' : Bus} (h : Wrote P b b') {id : String}
    (hP : ∀ w, P w → w.header ≠ id) : b'.lastDuty id = b.lastDuty id := by
  obtain ⟨-, ws, hl, hw⟩ := h
  have hnil : ws.filter (fun w => w.header = id ∧ w.attr = .duty) = [] := by
    rw [List.filter_eq_nil_iff]
    intro w hm
    simp [hP w (hw w hm)]
  rw [lastDuty, hl, List.filter_append, hnil, List.append_nil, lastDuty]

theorem Bus.lastDuty_of_log {b b' : Bus} (h : b'.log = b.log) (id : String) : b'.lastDuty id = b.lastDuty id := by
  simp [lastDuty, h]

namespace HwmonPwmController

variable (c : HwmonPwmController) (id : String) (f : HeaderWriteState → HeaderWriteState)

@[simp] theorem modifyWs_exitMin : (c.modifyWs id f).exitMin = c.exitMin := by
  unfold modifyWs
  split <;> rfl

@[simp] theorem modifyWs_handback : (c.modifyWs id f).handback = c.handback := by
  unfold modifyWs
  split <;> rfl

@[simp] theorem modifyWs_exitRecord : (c.modifyWs id f).exitRecord = c.exitRecord := by
  unfold modifyWs
  split <;> rfl

@[simp] theorem entryWs_exitMin : (c.entryWs id f).exitMin = c.exitMin := rfl
@[simp] theorem entryWs_handback : (c.entryWs id f).handback = c.handback := rfl
@[simp] theorem entryWs_exitRecord : (c.entryWs id f).exitRecord = c.exitRecord := rfl
@[simp] theorem record_exitMin (d : Option Nat) : (c.record id d).exitMin = c.exitMin := rfl
@[simp] theorem record_handback (d : Option Nat) : (c.record id d).handback = c.handback := rfl

@[simp] theorem record_exitRecord (d : Option Nat) (id' : String) :
    (c.record id d).exitRecord.get? id' = if id' = id then some d else c.exitRecord.get? id' := by
  simp [record, KMap.get?_insert]

@[simp] theorem recordNoMode_exitMin (h : PwmHeaderDescriptor) (d : Option Nat) :
    (c.recordNoMode h d).exitMin = c.exitMin := by
  unfold recordNoMode
  split <;> rfl

@[simp] theorem recordNoMode_handback (h : PwmHeaderDescriptor) (d : Option Nat) :
    (c.recordNoMode h d).handback = c.handback := by
  unfold recordNoMode
  split <;> rfl

@[simp] theorem recordNoMode_exitRecord (h : PwmHeaderDescriptor) (d : Option Nat) (id' : String) :
    (c.recordNoMode h d).exitRecord.get? id' =
      if h.supportsEnable = false ∧ id' = h.id then some d else c.exitRecord.get? id' := by
  cases hen : h.supportsEnable <;> simp [recordNoMode, hen]

theorem raise_congr {c c' : HwmonPwmController} (h : c'.exitMin = c.exitMin) (id : String) (pct : Nat) :
    c'.raise id pct = c.raise id pct := by
  simp [raise, h]

theorem raise_eq_max (pct : Nat) : c.raise id pct = max pct ((c.exitMin.get? id).getD 0) := by
  unfold raise
  cases c.exitMin.get? id with
  | none => simp
  | some m =>
    by_cases h : pct < m
    · simp [h, Nat.max_eq_right (Nat.le_of_lt h)]
    · simp [h, Nat.max_eq_left (Nat.le_of_not_lt h)]

end HwmonPwmController

namespace HwmonRig

variable (hs : Headers)

/-- The header `id` has no mode switch. -/
def NoMode (id : String) : Prop := ∃ h, hs.get? id = some h ∧ h.supportsEnable = false

/-- A duty `exit_record` knows is a percentage, and the last one the header was told. -/
def Recorded (r : HwmonRig) : Prop :=
  ∀ id d, NoMode hs id → r.ctrl.exitRecord.get? id = some (some d) →
    d ≤ 100 ∧ r.bus.lastDuty id = some (percentToRaw d)

/-- Only headers with no mode switch are latched, at a percentage, and the hand-back owns none of them. -/
structure Latched (r : HwmonRig) : Prop where
  bound : ∀ id m, r.ctrl.exitMin.get? id = some m → m ≤ 100
  noMode : ∀ id m, r.ctrl.exitMin.get? id = some m → NoMode hs id
  ledger : ∀ id, NoMode hs id → ¬ r.ctrl.handback.Tracks id

structure Kept (P : SysfsWrite → Prop) (r r' : HwmonRig) : Prop where
  wrote : Bus.Wrote P r.bus r'.bus
  exitMin : r'.ctrl.exitMin = r.ctrl.exitMin
  tracks : ∀ id, r'.ctrl.handback.Tracks id ↔ r.ctrl.handback.Tracks id
  recorded : r.Recorded hs → r'.Recorded hs

variable {hs} {P Q : SysfsWrite → Prop} {r r' r'' : HwmonRig}

namespace Kept

theorem refl (r : HwmonRig) : Kept hs P r r := ⟨.refl _, rfl, fun _ => Iff.rfl, id⟩

theorem trans (h : Kept hs P r r') (h' : Kept hs P r' r'') : Kept hs P r r'' :=
  ⟨h.wrote.trans h'.wrote, h'.exitMin.trans h.exitMin, fun id => (h'.tracks id).trans (h.tracks id),
    fun hr => h'.recorded (h.recorded hr)⟩

theorem mono (h : Kept hs P r r') (hPQ : ∀ w, P w → Q w) : Kept hs Q r r' :=
  ⟨h.wrote.mono hPQ, h.exitMin, h.tracks, h.recorded⟩

theorem latched (h : Kept hs P r r') (hl : r.Latched hs) : r'.Latched hs :=
  ⟨fun id m hm => hl.bound id m (h.exitMin ▸ hm), fun id m hm => hl.noMode id m (h.exitMin ▸ hm),
    fun id hno ht => hl.ledger id hno ((h.tracks id).mp ht)⟩

/-- Code that writes nothing, leaves the latch alone and only forgets duties. -/
theorem of_silent (hb : Bus.Wrote (fun _ => False) r.bus r'.bus) (hm : r'.ctrl.exitMin = r.ctrl.exitMin)
    (hh : ∀ id, r'.ctrl.handback.Tracks id ↔ r.ctrl.handback.Tracks id)
    (he : ∀ id d, r'.ctrl.exitRecord.get? id = some (some d) → r.ctrl.exitRecord.get? id = some (some d)) :
    Kept hs P r r' := by
  refine ⟨hb.mono fun _ => False.elim, hm, hh, fun hr id d hno hd => ?_⟩
  obtain ⟨-, ws, hl, hw⟩ := hb
  have hlog : r'.bus.log = r.bus.log := by rw [hl, List.eq_nil_iff_forall_not_mem.mpr hw, List.append_nil]
  rw [Bus.lastDuty_of_log hlog]
  exact hr id d hno (he id d hd)

theorem of_read (env : Sysfs) (r : HwmonRig) (path : SysfsPath) :
    Kept hs P r { r with bus := (r.bus.read env path).2 } :=
  .of_silent (Bus.wrote_read env _ path) rfl (fun _ => Iff.rfl) fun _ _ hd => hd

/-- One duty write, of a header whose record then says no more than what was written. -/
theorem of_write (env : Sysfs) (path : SysfsPath) {id : String} {d : Nat}
    (hb : r'.bus = (r.bus.write env id path .duty (percentToRaw d)).2)
    (hP : P ⟨r.bus.tick, id, .duty, percentToRaw d⟩) (hm : r'.ctrl.exitMin = r.ctrl.exitMin)
    (hh : ∀ id, r'.ctrl.handback.Tracks id ↔ r.ctrl.handback.Tracks id)
    (hself : NoMode hs id → ∀ d', r'.ctrl.exitRecord.get? id = some (some d') → d' = d ∧ d ≤ 100)
    (hother : ∀ id', id' ≠ id → r'.ctrl.exitRecord.get? id' = r.ctrl.exitRecord.get? id') : Kept hs P r r' := by
  refine ⟨hb ▸ Bus.wrote_write env _ _ _ _ _ hP, hm, hh, fun hr id' d' hno hd' => ?_⟩
  rw [hb, Bus.lastDuty_write]
  by_cases hi : id' = id
  · subst hi
    obtain ⟨rfl, hle⟩ := hself hno d' hd'
    exact ⟨hle, by simp⟩
  · rw [hother id' hi] at hd'
    obtain ⟨hle, hlast⟩ := hr id' d' hno hd'
    exact ⟨hle, by simp [Ne.symm hi, hlast]⟩

/-- One duty write, recorded with the duty it carried or as unknown. -/
theorem of_recorded (env : Sysfs) (r : HwmonRig) (id : String) (path : SysfsPath) {d : Nat} (hd : d ≤ 100)
    {known : Option Nat} (hk : known = none ∨ known = some d) (hP : P ⟨r.bus.tick, id, .duty, percentToRaw d⟩) :
    Kept hs P r { r with
      ctrl := r.ctrl.record id known, bus := (r.bus.write env id path .duty (percentToRaw d)).2 } := by
  refine of_write env path rfl hP rfl (fun _ => Iff.rfl) (fun _ d' hd' => ?_) (fun id' hi => by simp [hi])
  simp only [HwmonPwmController.record_exitRecord, if_pos, Option.some.injEq] at hd'
  rcases hk with rfl | rfl
  · cases hd'
  · exact ⟨(Option.some.inj hd').symm, hd⟩

end Kept

/-! ## Priming -/

/-- A priming write for a write to `h`: full speed, to a sibling on a shared-report chip. -/
structure Primes (hs : Headers) (h : PwmHeaderDescriptor) (w : SysfsWrite) : Prop where
  chip : isSharedReportChip h.chipName
  sibling : ∃ s ∈ hs.list, s.id = w.header ∧ s.id ≠ h.id ∧ s.isWritable ∧ s.pwmPath.dir = h.pwmPath.dir
  attr : w.attr = .duty
  value : w.value = percentToRaw primePct

theorem mem_siblings {h s : PwmHeaderDescriptor} :
    s ∈ siblings hs h ↔ s ∈ hs.list ∧ s.id ≠ h.id ∧ s.isWritable ∧ s.pwmPath.dir = h.pwmPath.dir := by
  simp [siblings, and_assoc]

theorem primeEach_kept (env : Sysfs) {h : PwmHeaderDescriptor} (hchip : isSharedReportChip h.chipName) (dir : String) :
    ∀ (ss : List PwmHeaderDescriptor) (r : HwmonRig), (∀ s ∈ ss, s ∈ siblings hs h) →
      Kept hs (Primes hs h) r (primeEach env dir r ss)
  | [], r, _ => .refl r
  | s :: ss, r, hss => by
    have hrest := fun r => primeEach_kept env hchip dir ss r fun s hs => hss s (List.mem_cons_of_mem _ hs)
    have hread : Kept hs (Primes hs h) r { r with bus := (r.bus.read env s.pwmPath).2 } := .of_read env r _
    have hs := mem_siblings.mp (hss s List.mem_cons_self)
    have hP (t : Nat) : Primes _ h ⟨t, s.id, .duty, percentToRaw primePct⟩ := ⟨hchip, ⟨s, hs.1, rfl, hs.2⟩, rfl, rfl⟩
    unfold primeEach
    dsimp only
    split
    · exact hread.trans (hrest _)
    · split
      · exact hread.trans (hrest _)
      · have hwrite (known : Option Nat) (hk : known = none ∨ known = some primePct) :=
          hread.trans (.of_recorded env _ s.id s.pwmPath (Nat.le_refl 100) hk (hP _))
        split
        · exact (hwrite _ (.inr rfl)).trans (hrest _)
        · exact (hwrite _ (.inl rfl)).trans (.of_silent (.refl _) rfl (fun _ => Iff.rfl) fun _ _ hd => hd)

/-- Priming for `h` says nothing about `h` itself. -/
theorem primeEach_record (env : Sysfs) (dir : String) {id : String} :
    ∀ (ss : List PwmHeaderDescriptor) (r : HwmonRig), (∀ s ∈ ss, s.id ≠ id) →
      (primeEach env dir r ss).ctrl.exitRecord.get? id = r.ctrl.exitRecord.get? id
  | [], _, _ => rfl
  | s :: ss, r, hss => by
    have hrest := fun r => primeEach_record env dir ss r fun s hs => hss s (List.mem_cons_of_mem _ hs)
    have hs : id ≠ s.id := (hss s List.mem_cons_self).symm
    unfold primeEach
    dsimp only
    split_ifs <;> simp [hrest, hs]

theorem prime_record (env : Sysfs) (r : HwmonRig) (h : PwmHeaderDescriptor) :
    (primeSharedReportSiblings env hs r h).ctrl.exitRecord.get? h.id = r.ctrl.exitRecord.get? h.id := by
  unfold primeSharedReportSiblings
  split
  · exact primeEach_record env _ _ r fun s hs => (mem_siblings.mp hs).2.1
  · rfl

theorem prime_kept (env : Sysfs) (r : HwmonRig) (h : PwmHeaderDescriptor) :
    Kept hs (Primes hs h) r (primeSharedReportSiblings env hs r h) := by
  unfold primeSharedReportSiblings
  split
  · next hc =>
    rw [Bool.and_eq_true] at hc
    exact primeEach_kept env hc.1 _ _ _ fun _ hs => hs
  · exact .refl r

theorem resumePriming_kept (env : Sysfs) (r : HwmonRig) (h : PwmHeaderDescriptor) :
    Kept hs (Primes hs h) r (resumePrimingAfterSuccess env hs r h) := by
  unfold resumePrimingAfterSuccess
  split
  · have hclear : Kept hs (Primes hs h) r { r with
        ctrl := { r.ctrl with primingSuspended := r.ctrl.primingSuspended.filter (· ≠ h.pwmPath.dir) } } :=
      .of_silent (.refl _) rfl (fun _ => Iff.rfl) fun _ _ hd => hd
    exact hclear.trans (prime_kept env _ h)
  · exact .refl r

/-! ## `set_pwm` -/

/-- A write of a `set_pwm` to `h` whose command, raised, is `eff`. -/
inductive Writes (hs : Headers) (h : PwmHeaderDescriptor) (eff : Nat) : SysfsWrite → Prop where
  | prime {w : SysfsWrite} (hw : Primes hs h w) : Writes hs h eff w
  | take (t : Nat) (hen : h.supportsEnable) : Writes hs h eff ⟨t, h.id, .enable, pwmEnableManual⟩
  | duty (t : Nat) : Writes hs h eff ⟨t, h.id, .duty, percentToRaw eff⟩

theorem enableReclaimed_kept (env : Sysfs) (r : HwmonRig) (h : PwmHeaderDescriptor) :
    Kept hs P r (enableReclaimed env r h).2 := by
  unfold enableReclaimed
  split
  · split
    · exact .refl r
    · next ep _ =>
      have hmode : Kept hs P r { r with bus := (r.bus.read env ep).2 } := .of_read env r ep
      dsimp only
      split
      · exact hmode
      · split
        · exact hmode
        · exact hmode.trans (.of_read env _ h.pwmPath)
  · exact .refl r

theorem dutyDriftRewrite_kept (env : Sysfs) (r : HwmonRig) (h : PwmHeaderDescriptor) (pct : Nat) :
    Kept hs P r (dutyDriftRewrite env r h pct).2 := by
  unfold dutyDriftRewrite
  dsimp only
  split
  · exact .of_read env r h.pwmPath
  · exact .of_silent (Bus.wrote_read env _ h.pwmPath) (by simp) (fun _ => by simp) fun _ _ hd => by simpa using hd

theorem readOriginal_wrote (env : Sysfs) (r : HwmonRig) (h : PwmHeaderDescriptor) (ep : SysfsPath) :
    Bus.Wrote P r.bus (readOriginal env r h ep).2 := by
  unfold readOriginal
  split
  · exact (Bus.wrote_read env _ ep).trans (Bus.wrote_read env _ h.pwmPath)
  · exact .refl _

theorem takeMode_kept (env : Sysfs) (r : HwmonRig) {h : PwmHeaderDescriptor} (hen : h.supportsEnable) (eff : Nat) :
    Kept hs (Writes hs h eff) r (takeMode env r h).2 := by
  unfold takeMode
  split
  · exact .refl r
  · next ep _ =>
    have hmark : Kept hs (Writes hs h eff) r { r with bus := ((readOriginal env r h ep).2.check env).2 } :=
      .of_silent ((readOriginal_wrote env r h ep).trans (Bus.wrote_check env _)) rfl (fun _ => Iff.rfl) fun _ _ hd => hd
    dsimp only
    split
    · exact hmark
    · refine hmark.trans ⟨Bus.wrote_write env _ _ ep _ _ (.take _ hen), rfl, fun id => by simp, fun hr id d hno hd => ?_⟩
      rw [Bus.lastDuty_write, if_neg (by simp)]
      exact hr id d hno hd

theorem settle_kept (env : Sysfs) (r : HwmonRig) (h : PwmHeaderDescriptor) (eff : Nat) (reconciles correcting : Bool) :
    Kept hs P r (settle env r h eff reconciles correcting) := by
  refine .of_silent (Bus.wrote_read env _ h.pwmPath) ?_ (fun _ => ?_) fun _ _ hd => ?_
  · unfold settle
    dsimp only
    split <;> split <;> rfl
  · unfold settle
    dsimp only
    split <;> split <;> rfl
  · unfold settle at hd
    dsimp only at hd
    split at hd <;> split at hd <;> exact hd

theorem NoMode.not_supportsEnable {h : PwmHeaderDescriptor} (hh : hs.get? h.id = some h) (hno : NoMode hs h.id) :
    h.supportsEnable = false := by
  obtain ⟨h', hh', hen⟩ := hno
  rw [hh] at hh'
  exact Option.some.inj hh' ▸ hen

theorem writeDuty_kept (env : Sysfs) (r : HwmonRig) {h : PwmHeaderDescriptor} (hh : hs.get? h.id = some h) {eff : Nat}
    (heff : eff ≤ 100) (reconciles correcting : Bool) :
    Kept hs (Writes hs h eff) r (writeDuty env hs r h eff reconciles correcting).1 := by
  -- the record is blanked before the mark is checked
  have hmark : Kept hs (Writes hs h eff) r { r with ctrl := r.ctrl.recordNoMode h none, bus := (r.bus.check env).2 } := by
    refine .of_silent (Bus.wrote_check env _) (by simp) (fun _ => by simp) fun id d hd => ?_
    by_cases hi : id = h.id <;> by_cases hen : h.supportsEnable <;> simp_all
  have hprime := hmark.trans ((prime_kept env _ h).mono fun _ => Writes.prime)
  unfold writeDuty
  dsimp only
  split
  · exact hmark.trans (.of_silent (.refl _) (by simp) (fun _ => by simp) fun _ _ hd => by simpa using hd)
  · split
    · refine hprime.trans (.of_write env h.pwmPath rfl (.duty _) (by simp) (fun _ => by simp) (fun hno d' hd' => ?_)
        fun id' _ => by simp)
      simp [prime_record, hno.not_supportsEnable hh] at hd'
    · have hwritten (r : HwmonRig) : Kept hs (Writes hs h eff) r { r with
          ctrl := r.ctrl.recordNoMode h (some eff)
          bus := (r.bus.write env h.id h.pwmPath .duty (percentToRaw eff)).2 } := by
        refine .of_write env h.pwmPath rfl (.duty _) (by simp) (fun _ => by simp) (fun hno d' hd' => ?_)
          fun id' hi => by simp [hi]
        simp only [HwmonPwmController.recordNoMode_exitRecord, hno.not_supportsEnable hh, and_self, if_pos,
          Option.some.injEq] at hd'
        exact ⟨hd'.symm, heff⟩
      exact ((hprime.trans (hwritten _)).trans ((resumePriming_kept env _ h).mono fun _ => Writes.prime)).trans
        (settle_kept env _ h eff reconciles correcting)

theorem book_kept (r : HwmonRig) (h : PwmHeaderDescriptor) (reconciles reclaimed : Bool) :
    Kept hs P r (book r h reconciles reclaimed) := by
  refine .of_silent (.refl _) ?_ (fun _ => ?_) fun _ _ hd => ?_ <;> unfold book at *
  · dsimp only
    split <;> split <;> rfl
  · dsimp only
    split <;> split <;> rfl
  · dsimp only at hd
    split at hd <;> split at hd <;> exact hd

theorem takeAndWrite_kept (env : Sysfs) (r : HwmonRig) {h : PwmHeaderDescriptor} (hh : hs.get? h.id = some h) {eff : Nat}
    (heff : eff ≤ 100) (reconciles correcting : Bool) :
    Kept hs (Writes hs h eff) r (takeAndWrite env hs r h eff reconciles correcting).1 := by
  have htake : Kept hs (Writes hs h eff) r (takeUnheld env r h).2 := by
    unfold takeUnheld
    split
    · next hen => exact takeMode_kept env r (by simp_all) eff
    · exact .refl r
  unfold takeAndWrite
  dsimp only
  split
  · exact htake
  · exact htake.trans (writeDuty_kept env _ hh heff reconciles correcting)

theorem command_kept (env : Sysfs) (r : HwmonRig) {h : PwmHeaderDescriptor} (hh : hs.get? h.id = some h) {pct : Nat}
    (heff : r.ctrl.raise h.id pct ≤ 100) (reconciles : Bool) :
    Kept hs (Writes hs h (r.ctrl.raise h.id pct)) r (command env hs r h pct reconciles).1 := by
  have hbook : Kept hs (Writes hs h (r.ctrl.raise h.id pct)) r
      (book (enableReclaimed env r h).2 h reconciles (enableReclaimed env r h).1) :=
    (enableReclaimed_kept env r h).trans (book_kept _ h _ _)
  unfold command
  dsimp only
  split
  · have hdrift := hbook.trans (dutyDriftRewrite_kept env _ h (r.ctrl.raise h.id pct))
    split
    · exact hdrift.trans (takeAndWrite_kept env _ hh heff reconciles true)
    · exact hdrift
  · exact hbook.trans (takeAndWrite_kept env _ hh heff reconciles false)

theorem takeResumeFlag_kept (r : HwmonRig) : Kept hs P r r.takeResumeFlag := by
  refine .of_silent (.refl _) ?_ (fun _ => ?_) fun _ _ hd => ?_ <;> unfold takeResumeFlag at *
  · dsimp only
    split <;> rfl
  · dsimp only
    split <;> rfl
  · dsimp only at hd
    split at hd <;> exact hd

theorem Latched.raise_le (hl : r.Latched hs) (id : String) {pct : Nat} (hp : pct ≤ 100) : r.ctrl.raise id pct ≤ 100 := by
  rw [HwmonPwmController.raise_eq_max]
  cases hm : r.ctrl.exitMin.get? id with
  | none => simpa using hp
  | some m => simpa using ⟨hp, hl.bound id m hm⟩

/-- Every write of one `set_pwm`, and what it leaves alone. -/
theorem setPwm_kept (env : Sysfs) (hl : r.Latched hs) (id : String) (pct : Nat) (leaseId : String) :
    Kept hs (fun w => ∃ h, hs.get? id = some h ∧ pct ≤ 100 ∧ Writes hs h (r.ctrl.raise id pct) w) r
      (setPwm env hs r id pct leaseId).1 := by
  have hresume : Kept hs (fun w => ∃ h, hs.get? id = some h ∧ pct ≤ 100 ∧ Writes hs h (r.ctrl.raise id pct) w) r
      r.takeResumeFlag := takeResumeFlag_kept r
  unfold setPwm
  split
  · exact .refl r
  · dsimp only
    split
    · exact hresume
    · next h hh =>
      have hid := Headers.id_of_get? hh
      subst hid
      have hmark := hresume.trans
        (.of_silent (Bus.wrote_check env _) rfl (fun _ => Iff.rfl) fun _ _ hd => hd :
          Kept hs _ r.takeResumeFlag { r.takeResumeFlag with bus := (r.takeResumeFlag.bus.check env).2 })
      have hraise : r.takeResumeFlag.ctrl.raise h.id pct = r.ctrl.raise h.id pct :=
        HwmonPwmController.raise_congr hresume.exitMin h.id pct
      split
      · exact hmark
      · split
        · exact hmark
        · next hp =>
          have hle : r.takeResumeFlag.ctrl.raise h.id pct ≤ 100 := hraise ▸ hl.raise_le h.id (Nat.le_of_not_lt hp)
          have hcommand := command_kept env { r.takeResumeFlag with bus := (r.takeResumeFlag.bus.check env).2 } hh hle
            (r.reconciles leaseId)
          exact hmark.trans (hcommand.mono fun w hw => ⟨h, hh, Nat.le_of_not_lt hp, hraise ▸ hw⟩)

/-! ## The other operations -/

/-- A write that respects the latch: a duty no lower than the exit duty of its header. -/
def Respects (r : HwmonRig) (w : SysfsWrite) : Prop :=
  w.attr = .duty → ∀ m, r.ctrl.exitMin.get? w.header = some m →
    ∃ p, w.value = percentToRaw p ∧ m ≤ p ∧ p ≤ 100

theorem Writes.respects {h : PwmHeaderDescriptor} (hl : r.Latched hs) {pct : Nat} (hp : pct ≤ 100) {w : SysfsWrite}
    (hw : Writes hs h (r.ctrl.raise h.id pct) w) : r.Respects w := by
  intro hattr m hm
  cases hw with
  | prime hw => exact ⟨primePct, hw.value, hl.bound _ m hm, Nat.le_refl _⟩
  | take t hen => cases hattr
  | duty t =>
    refine ⟨r.ctrl.raise h.id pct, rfl, ?_, hl.raise_le h.id hp⟩
    rw [HwmonPwmController.raise_eq_max, hm]
    exact Nat.le_max_right _ _

theorem setPwm_respects (env : Sysfs) (hl : r.Latched hs) (id : String) (pct : Nat) (leaseId : String) :
    Kept hs r.Respects r (setPwm env hs r id pct leaseId).1 := by
  refine (setPwm_kept env hl id pct leaseId).mono ?_
  rintro w ⟨h, hh, hp, hw⟩
  obtain rfl := Headers.id_of_get? hh
  exact hw.respects hl hp

theorem released_kept (r : HwmonRig) (id : String) : Kept hs P r (r.released id) :=
  .of_silent (.refl _) rfl (fun _ => Iff.rfl) fun _ _ hd => hd

theorem releaseNoMode_respects (env : Sysfs) (hl : r.Latched hs) (id leaseId : String) :
    Kept hs r.Respects r (releaseNoMode env hs r id leaseId).1 := by
  unfold releaseNoMode
  split
  · exact .refl r
  · split
    · exact .refl r
    · dsimp only
      split
      · exact released_kept r id
      · have hset := setPwm_respects env hl id (exitDuty (r.ctrl.exitRecord.get? id).join r.cache.exitFloorPct) leaseId
        split <;> rename_i heq <;> rw [heq] at hset
        · exact hset.trans (released_kept _ id)
        · exact hset
        · exact hset

theorem handBack_respects (env : Sysfs) (hl : r.Latched hs) (id leaseId : String) :
    Kept hs r.Respects r (handBack env r id leaseId).1 := by
  unfold handBack
  split
  · exact .refl r
  · split
    · exact .refl r
    · next entry action htaken =>
      -- the ledger tracks the header, so nothing is latched or recorded for it
      have hno (id' : String) (h' : NoMode hs id') : id' ≠ id := fun e =>
        hl.ledger id' h' (e ▸ HandBackLedger.tracks_of_takenHeader htaken)
      have hw := Bus.handBack_wrote env id entry r.bus action
      have hback : Kept hs r.Respects r { r with bus := (r.bus.handBack env id entry action).2 } := by
        refine ⟨hw.mono fun w hid _ m hm => ?_, rfl, fun _ => Iff.rfl, fun hr id' d h' hd => ?_⟩
        · exact absurd hid (hno _ (hl.noMode _ m hm))
        · rw [Bus.lastDuty_of_wrote hw fun w hid => hid ▸ (hno id' h').symm]
          exact hr id' d h' hd
      dsimp only
      split
      · exact hback.trans (.of_silent (.refl _) rfl (fun _ => by simp [forgetWrites]) fun _ _ hd => hd)
      · exact hback.trans (.of_silent (.refl _) (by simp) (fun _ => by simp) fun _ _ hd => by simpa using hd)

/-! ## Runs -/

theorem step_respects (env : Sysfs) (hl : r.Latched hs) (e : Nat × HwmonOp) : Kept hs r.Respects r (step env hs r e) := by
  obtain ⟨dt, op⟩ := e
  have hwait : Kept hs r.Respects r (r.wait dt) := .of_silent (.refl _) rfl (fun _ => Iff.rfl) fun _ _ hd => hd
  have hl' := hwait.latched hl
  cases op with
  | setPwm id pct leaseId => exact hwait.trans (setPwm_respects env hl' id pct leaseId)
  | releaseNoMode id leaseId => exact hwait.trans (releaseNoMode_respects env hl' id leaseId)
  | handBack id leaseId => exact hwait.trans (handBack_respects env hl' id leaseId)
  | _ => exact hwait.trans (.of_silent (.refl _) rfl (fun _ => Iff.rfl) fun _ _ hd => hd)

theorem respects_congr (h : r'.ctrl.exitMin = r.ctrl.exitMin) : r'.Respects = r.Respects := by
  funext w
  simp [Respects, h]

theorem run_respects (env : Sysfs) (es : List (Nat × HwmonOp)) :
    ∀ r : HwmonRig, r.Latched hs → Kept hs r.Respects r (Machine.run (step env hs) r es) := by
  induction es with
  | nil => exact fun r _ => .refl r
  | cons e es ih =>
    intro r hl
    have hstep := step_respects env hl e
    have hrest := ih _ (hstep.latched hl)
    rw [respects_congr hstep.exitMin] at hrest
    exact hstep.trans hrest

end HwmonRig

end ControlOfc.Hwmon
