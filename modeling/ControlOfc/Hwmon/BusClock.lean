import ControlOfc.Hwmon.ExitLatch
/-! # The clock of the bus

Every access to a file takes one tick, and a write carries the tick it was made at. So what a function of the
controller writes lies between the tick it started at and the one it left, and the log is in order.
-/
namespace ControlOfc.Hwmon

namespace Bus

/-- `b'` comes after `b`, and what was written in between was written in between. -/
structure Later (b b' : Bus) : Prop where
  tick : b.tick ≤ b'.tick
  log : ∃ ws, b'.log = b.log ++ ws ∧ ∀ w ∈ ws, b.tick ≤ w.tick ∧ w.tick < b'.tick

/-- What is in the log is in the past. -/
def Clocked (b : Bus) : Prop := ∀ w ∈ b.log, w.tick < b.tick

namespace Later

variable {b b' b'' b''' : Bus}

theorem refl (b : Bus) : Later b b := ⟨Nat.le_refl _, [], (List.append_nil _).symm, nofun⟩

theorem trans (h : Later b b') (h' : Later b' b'') : Later b b'' := by
  obtain ⟨ht, ws, hl, hw⟩ := h
  obtain ⟨ht', ws', hl', hw'⟩ := h'
  refine ⟨Nat.le_trans ht ht', ws ++ ws', by rw [hl', hl, List.append_assoc], fun w hm => ?_⟩
  rcases List.mem_append.mp hm with hm | hm
  · exact ⟨(hw w hm).1, Nat.lt_of_lt_of_le (hw w hm).2 ht'⟩
  · exact ⟨Nat.le_trans ht (hw' w hm).1, (hw' w hm).2⟩

theorem read (env : Sysfs) (b : Bus) (path : SysfsPath) : Later b (b.read env path).2 :=
  ⟨Nat.le_succ _, [], (List.append_nil _).symm, nofun⟩

theorem check (env : Sysfs) (b : Bus) : Later b (b.check env).2 :=
  ⟨Nat.le_succ _, [], (List.append_nil _).symm, nofun⟩

theorem write (env : Sysfs) (b : Bus) (header : String) (path : SysfsPath) (attr : Attr) (value : Nat) :
    Later b (b.write env header path attr value).2 :=
  ⟨Nat.le_succ _, [⟨b.tick, header, attr, value⟩], rfl, by simp [Bus.write]⟩

theorem since (h : Later b b') : ∀ w ∈ b.since b', b.tick ≤ w.tick ∧ w.tick < b'.tick := by
  obtain ⟨-, ws, hl, hw⟩ := h
  rw [since_of_append hl]
  exact hw

theorem log_eq (h : Later b b') : b'.log = b.log ++ b.since b' := by
  obtain ⟨-, ws, hl, -⟩ := h
  rw [since_of_append hl, hl]

theorem since_trans (h : Later b b') (h' : Later b' b'') : b.since b'' = b.since b' ++ b'.since b'' := by
  refine since_of_append ?_
  rw [h'.log_eq, h.log_eq, List.append_assoc]

theorem clocked (h : Later b b') (hc : b.Clocked) : b'.Clocked := by
  intro w hm
  rw [h.log_eq, List.mem_append] at hm
  rcases hm with hm | hm
  · exact Nat.lt_of_lt_of_le (hc w hm) h.tick
  · exact (h.since w hm).2

/-- A write of a stretch is found where its tick says. -/
theorem mem_since (hc : b.Clocked) (h : Later b b') (h' : Later b' b'') {w : SysfsWrite} (hm : w ∈ b''.log)
    (ht : b.tick ≤ w.tick) (ht' : w.tick < b'.tick) : w ∈ b.since b' := by
  rw [h'.log_eq, h.log_eq, List.mem_append, List.mem_append] at hm
  rcases hm with (hm | hm) | hm
  · exact absurd (hc w hm) (Nat.not_lt_of_le ht)
  · exact hm
  · exact absurd (h'.since w hm).1 (Nat.not_le_of_lt ht')

end Later

/-! ## A hand-back -/

variable (env : Sysfs) (id : String) (e : LedgerEntry)

theorem manualConfirmed_later (b : Bus) (raw : Nat) : Later b (b.manualConfirmed env e raw).2 := by
  have hm := Later.read env b e.enablePath
  unfold manualConfirmed
  dsimp only
  split_ifs
  · exact hm
  · exact hm.trans (.read env _ e.pwmPath)
  · exact hm

theorem manualFullSpeed_later (b : Bus) : Later b (b.manualFullSpeed env id e).2 := by
  have hm := Later.write env b id e.enablePath .enable 1
  have hw := hm.trans (.write env _ id e.pwmPath .duty 255)
  unfold manualFullSpeed
  dsimp only
  split_ifs
  · exact hm
  · exact hw
  · exact hw.trans (.read env _ e.pwmPath)
  · exact hw.trans (.read env _ e.pwmPath)

theorem fullSpeed_later (b : Bus) : Later b (b.fullSpeed env id e).2 := by
  have hw := Later.write env b id e.enablePath .enable 0
  have hm := hw.trans (.read env _ e.enablePath)
  unfold fullSpeed
  dsimp only
  split_ifs
  · exact hw.trans (manualFullSpeed_later env id e _)
  · exact hm
  · exact hm.trans (manualFullSpeed_later env id e _)

theorem restore_later (b : Bus) (action : HandBack) : Later b (b.restore env id e action).2 := by
  cases action with
  | mode value =>
    have hw := Later.write env b id e.enablePath .enable value
    unfold restore
    dsimp only
    split_ifs
    · exact hw
    · exact hw.trans (.read env _ e.enablePath)
  | writeOnlyMode value => exact .write env b id e.enablePath .enable value
  | manual raw =>
    have hm := Later.write env b id e.enablePath .enable 1
    have hw := hm.trans (.write env _ id e.pwmPath .duty raw)
    unfold restore
    dsimp only
    split_ifs
    · exact hm
    · exact hw
    · exact hw.trans (manualConfirmed_later env e _ raw)
  | fullSpeed => exact .refl b

theorem handBack_later (b : Bus) (action : HandBack) : Later b (b.handBack env id e action).2 := by
  unfold handBack
  dsimp only
  split_ifs
  · exact restore_later env id e b action
  · exact (restore_later env id e b action).trans (fullSpeed_later env id e _)

end Bus

/-! ## The controller's functions -/

namespace HwmonRig

/-- `r'` is `r` some accesses later. -/
def Later (r r' : HwmonRig) : Prop := r.bus.Later r'.bus

namespace Later

variable {r r' r'' : HwmonRig}

theorem refl (r : HwmonRig) : Later r r := Bus.Later.refl _

theorem trans (h : Later r r') (h' : Later r' r'') : Later r r'' := Bus.Later.trans h h'

/-- What touches no file. -/
theorem of_bus (h : r'.bus = r.bus) : Later r r' := by
  rw [Later, h]
  exact Bus.Later.refl _

theorem of_read (env : Sysfs) (r : HwmonRig) (path : SysfsPath) : Later r { r with bus := (r.bus.read env path).2 } :=
  Bus.Later.read env _ path

theorem of_check (env : Sysfs) (r : HwmonRig) : Later r { r with bus := (r.bus.check env).2 } := Bus.Later.check env _

theorem of_write (env : Sysfs) (r : HwmonRig) (c : HwmonPwmController) (header : String) (path : SysfsPath) (attr : Attr)
    (value : Nat) : Later r { r with ctrl := c, bus := (r.bus.write env header path attr value).2 } :=
  Bus.Later.write env _ header path attr value

end Later

variable (env : Sysfs) (hs : Headers)

theorem primeEach_later (dir : String) (ss : List PwmHeaderDescriptor) (r : HwmonRig) :
    Later r (primeEach env dir r ss) := by
  induction ss generalizing r with
  | nil => exact .refl _
  | cons s ss ih =>
    have hread := Later.of_read env r s.pwmPath
    have hwrite := fun c => hread.trans (.of_write env _ c s.id s.pwmPath .duty (Pwm.percentToRaw primePct))
    unfold primeEach
    dsimp only
    split_ifs
    · exact hread.trans (ih _)
    · exact hread.trans (ih _)
    · exact (hwrite _).trans (ih _)
    · exact hwrite _

theorem prime_later (r : HwmonRig) (h : PwmHeaderDescriptor) : Later r (primeSharedReportSiblings env hs r h) := by
  unfold primeSharedReportSiblings
  split
  · exact primeEach_later env _ _ r
  · exact .refl _

theorem resumePriming_later (r : HwmonRig) (h : PwmHeaderDescriptor) : Later r (resumePrimingAfterSuccess env hs r h) := by
  unfold resumePrimingAfterSuccess
  split
  · have hlifted : Later r { r with
        ctrl := { r.ctrl with primingSuspended := r.ctrl.primingSuspended.filter (· ≠ h.pwmPath.dir) } } := .of_bus rfl
    exact hlifted.trans (prime_later env hs _ h)
  · exact .refl _

theorem enableReclaimed_later (r : HwmonRig) (h : PwmHeaderDescriptor) : Later r (enableReclaimed env r h).2 := by
  unfold enableReclaimed
  split
  · split
    · exact .refl _
    · next ep _ =>
      have hmode := Later.of_read env r ep
      dsimp only
      split
      · exact hmode
      · split
        · exact hmode
        · exact hmode.trans (.of_read env _ h.pwmPath)
  · exact .refl _

theorem dutyDriftRewrite_later (r : HwmonRig) (h : PwmHeaderDescriptor) (pct : Nat) :
    Later r (dutyDriftRewrite env r h pct).2 := by
  have hread := Later.of_read env r h.pwmPath
  unfold dutyDriftRewrite
  dsimp only
  split
  · exact hread
  · exact hread

theorem takeUnheld_later (r : HwmonRig) (h : PwmHeaderDescriptor) : Later r (takeUnheld env r h).2 := by
  unfold takeUnheld
  split
  · unfold takeMode
    split
    · exact .refl _
    · next ep _ =>
      have horiginal : Later r { r with bus := (readOriginal env r h ep).2 } := by
        unfold readOriginal
        split
        · exact (Later.of_read env r ep).trans (.of_read env _ h.pwmPath)
        · exact .refl _
      have hmark := horiginal.trans (.of_check env _)
      dsimp only
      split
      · exact hmark
      · exact hmark.trans (.of_write env _ _ h.id ep .enable pwmEnableManual)
  · exact .refl _

theorem writeDuty_later (r : HwmonRig) (h : PwmHeaderDescriptor) (eff : Nat) (reconciles correcting : Bool) :
    Later r (writeDuty env hs r h eff reconciles correcting).1 := by
  have hmark : Later r { r with ctrl := r.ctrl.recordNoMode h none, bus := (r.bus.check env).2 } := Bus.Later.check env _
  unfold writeDuty
  dsimp only
  split
  · exact hmark
  · have hwrite := fun c => (hmark.trans (prime_later env hs _ h)).trans (.of_write env _ c h.id h.pwmPath .duty (Pwm.percentToRaw eff))
    split
    · exact hwrite _
    · exact ((hwrite _).trans (resumePriming_later env hs _ h)).trans (.of_read env _ h.pwmPath)

theorem takeAndWrite_later (r : HwmonRig) (h : PwmHeaderDescriptor) (eff : Nat) (reconciles correcting : Bool) :
    Later r (takeAndWrite env hs r h eff reconciles correcting).1 := by
  have htake := takeUnheld_later env r h
  unfold takeAndWrite
  dsimp only
  split
  · exact htake
  · exact htake.trans (writeDuty_later env hs _ h eff reconciles correcting)

theorem command_later (r : HwmonRig) (h : PwmHeaderDescriptor) (pct : Nat) (reconciles : Bool) :
    Later r (command env hs r h pct reconciles).1 := by
  have hbook : Later r (book (enableReclaimed env r h).2 h reconciles (enableReclaimed env r h).1) :=
    enableReclaimed_later env r h
  unfold command
  dsimp only
  split
  · have hdrift := hbook.trans (dutyDriftRewrite_later env _ h (r.ctrl.raise h.id pct))
    split
    · exact hdrift.trans (takeAndWrite_later env hs _ h _ reconciles true)
    · exact hdrift
  · exact hbook.trans (takeAndWrite_later env hs _ h _ reconciles false)

theorem setPwm_later (r : HwmonRig) (id : String) (pct : Nat) (leaseId : String) :
    Later r (setPwm env hs r id pct leaseId).1 := by
  have hresume : Later r r.takeResumeFlag := .of_bus rfl
  have hmark := hresume.trans (.of_check env _)
  unfold setPwm
  split
  · exact .refl _
  · dsimp only
    split
    · exact hresume
    · split_ifs
      · exact hmark
      · exact hmark
      · exact hmark.trans (command_later env hs _ _ pct _)

theorem handBack_later (r : HwmonRig) (id leaseId : String) : Later r (handBack env r id leaseId).1 := by
  unfold handBack
  split
  · exact .refl _
  · split
    · exact .refl _
    · next entry action _ =>
      have hback := Bus.handBack_later env id entry r.bus action
      dsimp only
      split
      · exact hback
      · exact hback

theorem releaseNoMode_later (r : HwmonRig) (id leaseId : String) : Later r (releaseNoMode env hs r id leaseId).1 := by
  unfold releaseNoMode
  split
  · exact .refl _
  · dsimp only
    split_ifs
    · exact .refl _
    · exact .of_bus rfl
    · have hset := setPwm_later env hs r id (Pwm.exitDuty (r.ctrl.exitRecord.get? id).join r.cache.exitFloorPct) leaseId
      generalize setPwm env hs r id (Pwm.exitDuty (r.ctrl.exitRecord.get? id).join r.cache.exitFloorPct) leaseId = set at hset ⊢
      obtain ⟨r', res⟩ := set
      cases res with
      | ok done => exact hset.trans (.of_bus rfl)
      | error err => cases err <;> exact hset

theorem exitRaise_later (r : HwmonRig) (h : PwmHeaderDescriptor) (target : Nat) :
    Later r (exitRaise env hs r h target).2 := by
  have hwrite := fun c => (prime_later env hs r h).trans (.of_write env _ c h.id h.pwmPath .duty (Pwm.percentToRaw target))
  unfold exitRaise
  dsimp only
  split
  · exact (hwrite _).trans (resumePriming_later env hs _ h)
  · exact hwrite _

theorem exitWrite_later (floorPct : Nat) (r : HwmonRig) (h : PwmHeaderDescriptor) :
    Later r (exitWrite env hs floorPct r h).1 := by
  unfold exitWrite
  dsimp only
  split
  · exact .refl _
  · exact exitRaise_later env hs r h _

theorem exitWrites_later (floorPct : Nat) (hh : List PwmHeaderDescriptor) (r : HwmonRig) :
    Later r (exitWrites env hs floorPct r hh).1 := by
  induction hh generalizing r with
  | nil => exact .refl _
  | cons h hh ih => exact (exitWrite_later env hs floorPct r h).trans (ih _)

theorem applyExitFloor_later (r : HwmonRig) (floorPct : Nat) : Later r (applyExitFloor env hs r floorPct).1 := by
  unfold applyExitFloor
  split
  · exact .refl _
  · exact exitWrites_later env hs floorPct _ { r with ctrl := { r.ctrl with exitMin := r.ctrl.latchExitMin hs floorPct } }

theorem step_later (r : HwmonRig) (e : Nat × HwmonOp) : Later r (step env hs r e) := by
  obtain ⟨dt, op⟩ := e
  have hwait : Later r (r.wait dt) := .of_bus rfl
  cases op with
  | setPwm id pct leaseId => exact hwait.trans (setPwm_later env hs _ id pct leaseId)
  | releaseNoMode id leaseId => exact hwait.trans (releaseNoMode_later env hs _ id leaseId)
  | handBack id leaseId => exact hwait.trans (handBack_later env _ id leaseId)
  | forgetManualMode => exact .of_bus rfl
  | onLeaseReleased => exact .of_bus rfl
  | lease op => exact .of_bus rfl
  | resumeDetected => exact .of_bus rfl
  | verifyActive on => exact .of_bus rfl
  | abandoned id => exact .of_bus rfl
  | setExitFloorPct pct => exact .of_bus rfl

end HwmonRig

end ControlOfc.Hwmon
