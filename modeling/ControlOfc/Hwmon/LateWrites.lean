import ControlOfc.Hwmon.ExitLatch
/-! # Writes that outlive the start of the hand-back

`set_pwm` checks the hand-back mark on entry, before the switch to manual and before the duty write, each
check just before the write it guards. The mark is set without the controller's lock, so a write past its
check can land after it: one at most, since the next check refuses.
-/
namespace ControlOfc.Hwmon
open Pwm

/-- The writes to `id` that landed with the hand-back begun. -/
def Bus.late (env : Sysfs) (id : String) (b : Bus) : Nat := b.log.countP fun w => w.header = id ∧ env.begun w.tick

namespace Bus

variable {env : Sysfs} {id : String} {P : SysfsWrite → Prop} {b b' : Bus}

theorem late_of_wrote (h : Wrote P b b') (hP : ∀ w, P w → w.header ≠ id) : b'.late env id = b.late env id := by
  obtain ⟨-, ws, hl, hw⟩ := h
  have hnone : ws.countP (fun w => w.header = id ∧ env.begun w.tick) = 0 := by
    rw [List.countP_eq_zero]
    intro w hm
    simp [hP w (hw w hm)]
  rw [late, hl, List.countP_append, hnone, late, Nat.add_zero]

theorem late_of_silent (h : Wrote (fun _ => False) b b') : b'.late env id = b.late env id :=
  late_of_wrote h fun _ => False.elim

theorem late_write (path : SysfsPath) (attr : Attr) (value : Nat) :
    (b.write env id path attr value).2.late env id = b.late env id + if env.begun b.tick then 1 else 0 := by
  simp [late, write, List.countP_append, List.countP_singleton]

theorem late_write_le (path : SysfsPath) (attr : Attr) (value : Nat) :
    (b.write env id path attr value).2.late env id ≤ b.late env id + 1 := by
  rw [late_write]
  split <;> omega

theorem late_since (h : Wrote P b b') :
    b'.late env id = b.late env id + (b.since b').countP fun w => w.header = id ∧ env.begun w.tick := by
  rw [late, h.log_eq, List.countP_append, late]

end Bus

theorem PwmHeaderDescriptor.owned_of_supportsEnable {h : PwmHeaderDescriptor} (hen : h.supportsEnable) :
    h.ownedByHandBack := by
  have hp := h.enable_iff
  simp [ownedByHandBack, hen, ← hp]

namespace HwmonRig

variable {env : Sysfs} {hs : Headers}

/-- If the switch landed after the mark, the mark is visible to the check that follows. -/
theorem takeMode_late (r : HwmonRig) (h : PwmHeaderDescriptor) :
    (takeMode env r h).2.bus.late env h.id ≤ r.bus.late env h.id + 1 ∧
      ((takeMode env r h).2.bus.late env h.id ≠ r.bus.late env h.id → env.begun (takeMode env r h).2.bus.tick) := by
  unfold takeMode
  split
  · exact ⟨Nat.le_succ _, fun hne => absurd rfl hne⟩
  · next ep _ =>
    have hmark : (((readOriginal env r h ep).2.check env).2).late env h.id = r.bus.late env h.id :=
      Bus.late_of_silent ((readOriginal_wrote env r h ep).trans (Bus.wrote_check env _))
    dsimp only
    split
    · exact ⟨hmark ▸ Nat.le_succ _, fun hne => absurd hmark hne⟩
    · constructor
      · rw [← hmark]
        exact Bus.late_write_le ep _ _
      · intro hne
        by_cases hb : env.begun ((readOriginal env r h ep).2.check env).2.tick
        · exact Sysfs.begun_mono (Nat.le_succ _) hb
        · rw [Bus.late_write, if_neg hb, hmark] at hne
          exact absurd rfl hne

theorem prime_late (r : HwmonRig) (h : PwmHeaderDescriptor) :
    (primeSharedReportSiblings env hs r h).bus.late env h.id = r.bus.late env h.id := by
  have hk : Kept hs (Primes hs h) r _ := prime_kept env r h
  refine Bus.late_of_wrote hk.wrote fun w hw => ?_
  obtain ⟨s, -, hs, hne, -⟩ := hw.sibling
  exact hs ▸ hne

theorem resumePriming_late (r : HwmonRig) (h : PwmHeaderDescriptor) :
    (resumePrimingAfterSuccess env hs r h).bus.late env h.id = r.bus.late env h.id := by
  have hk : Kept hs (Primes hs h) r _ := resumePriming_kept env r h
  refine Bus.late_of_wrote hk.wrote fun w hw => ?_
  obtain ⟨s, -, hs, hne, -⟩ := hw.sibling
  exact hs ▸ hne

theorem settle_late (r : HwmonRig) (h : PwmHeaderDescriptor) (eff : Nat) (reconciles correcting : Bool) (id : String) :
    (settle env r h eff reconciles correcting).bus.late env id = r.bus.late env id :=
  Bus.late_of_silent (Bus.wrote_read env _ h.pwmPath)

/-- The duty write is one write, and none where the mark is already set. -/
theorem writeDuty_late (r : HwmonRig) (h : PwmHeaderDescriptor) (eff : Nat) (reconciles correcting : Bool) :
    (writeDuty env hs r h eff reconciles correcting).1.bus.late env h.id ≤ r.bus.late env h.id + 1 ∧
      (h.ownedByHandBack → env.begun r.bus.tick →
        (writeDuty env hs r h eff reconciles correcting).1.bus.late env h.id = r.bus.late env h.id) := by
  have hmark : ((r.bus.check env).2).late env h.id = r.bus.late env h.id := rfl
  have hwrite (r' : HwmonRig) (hr' : r'.bus = (r.bus.check env).2) :
      ((primeSharedReportSiblings env hs r' h).bus.write env h.id h.pwmPath .duty (percentToRaw eff)).2.late env h.id ≤
        r.bus.late env h.id + 1 := by
    refine Nat.le_trans (Bus.late_write_le _ _ _) ?_
    rw [prime_late, hr', hmark]
  unfold writeDuty
  dsimp only
  split
  · exact ⟨Nat.le_succ _, fun _ _ => rfl⟩
  · next hgo =>
    refine ⟨?_, fun ho hb => absurd (by simp [ho, Bus.check, hb]) hgo⟩
    split
    · exact hwrite _ rfl
    · rw [settle_late, resumePriming_late]
      exact hwrite _ rfl

theorem takeAndWrite_late (r : HwmonRig) {h : PwmHeaderDescriptor} (ho : h.ownedByHandBack) (eff : Nat)
    (reconciles correcting : Bool) :
    (takeAndWrite env hs r h eff reconciles correcting).1.bus.late env h.id ≤ r.bus.late env h.id + 1 := by
  obtain ⟨hle, hlate⟩ : (takeUnheld env r h).2.bus.late env h.id ≤ r.bus.late env h.id + 1 ∧
      ((takeUnheld env r h).2.bus.late env h.id ≠ r.bus.late env h.id → env.begun (takeUnheld env r h).2.bus.tick) := by
    unfold takeUnheld
    split
    · exact takeMode_late r h
    · exact ⟨Nat.le_succ _, fun hne => absurd rfl hne⟩
  obtain ⟨hone, hnone⟩ := writeDuty_late (takeUnheld env r h).2 h eff reconciles correcting
  unfold takeAndWrite
  dsimp only
  split
  · exact hle
  · by_cases hsame : (takeUnheld env r h).2.bus.late env h.id = r.bus.late env h.id
    · exact hsame ▸ hone
    · rw [hnone ho (hlate hsame)]
      exact hle

theorem command_late (r : HwmonRig) {h : PwmHeaderDescriptor} (ho : h.ownedByHandBack) (pct : Nat) (reconciles : Bool) :
    (command env hs r h pct reconciles).1.bus.late env h.id ≤ r.bus.late env h.id + 1 := by
  have hbook : Kept hs (fun _ => False) r (book (enableReclaimed env r h).2 h reconciles (enableReclaimed env r h).1) :=
    (enableReclaimed_kept env r h).trans (book_kept _ h _ _)
  have hdrift := hbook.trans (dutyDriftRewrite_kept env _ h (r.ctrl.raise h.id pct))
  unfold command
  dsimp only
  split
  · split
    · exact Bus.late_of_silent hdrift.wrote ▸ takeAndWrite_late _ ho _ _ _
    · exact (Bus.late_of_silent hdrift.wrote).le.trans (Nat.le_succ _)
  · exact Bus.late_of_silent hbook.wrote ▸ takeAndWrite_late _ ho _ _ _

/-- What `set_pwm` still does to a header with a mode switch around the start of the hand-back: called
after it, nothing; running when it begins, one write more at most. A command to another header reaches it
only as a sibling primed to full speed. -/
structure HandBackLast (env : Sysfs) (hs : Headers) (r : HwmonRig) : Prop where
  refused : ∀ h ∈ hs.list, h.supportsEnable → env.begun r.bus.tick → ∀ pct leaseId,
    r.bus.since (setPwm env hs r h.id pct leaseId).1.bus = []
  inFlight : ∀ h ∈ hs.list, h.supportsEnable → ∀ pct leaseId,
    (r.bus.since (setPwm env hs r h.id pct leaseId).1.bus).countP (fun w => w.header = h.id ∧ env.begun w.tick) ≤ 1
  sibling : ∀ id pct leaseId, ∀ w ∈ r.bus.since (setPwm env hs r id pct leaseId).1.bus, w.header ≠ id →
    ∃ h, hs.get? id = some h ∧ Primes hs h w

theorem setPwm_refused {r : HwmonRig} {h : PwmHeaderDescriptor} (hh : hs.get? h.id = some h) (ho : h.ownedByHandBack)
    (hb : env.begun r.bus.tick) (pct : Nat) (leaseId : String) :
    r.bus.since (setPwm env hs r h.id pct leaseId).1.bus = [] := by
  refine Bus.since_of_append ?_
  have hcheck : (r.takeResumeFlag.bus.check env).1 = true := hb
  have hmark : h.ownedByHandBack && (r.takeResumeFlag.bus.check env).1 := by simp [ho, hcheck]
  unfold setPwm
  split
  · simp
  · rw [hh]
    dsimp only
    rw [if_pos hmark]
    simp [Bus.check, takeResumeFlag]

theorem setPwm_late {r : HwmonRig} (hl : r.Latched hs) {h : PwmHeaderDescriptor} (hh : hs.get? h.id = some h)
    (ho : h.ownedByHandBack) (pct : Nat) (leaseId : String) :
    (r.bus.since (setPwm env hs r h.id pct leaseId).1.bus).countP (fun w => w.header = h.id ∧ env.begun w.tick) ≤ 1 := by
  have hlate : (setPwm env hs r h.id pct leaseId).1.bus.late env h.id ≤ r.bus.late env h.id + 1 := by
    unfold setPwm
    split
    · exact Nat.le_succ _
    · rw [hh]
      dsimp only
      split
      · exact Nat.le_succ _
      · split
        · exact Nat.le_succ _
        · exact command_late _ ho pct _
  rw [Bus.late_since (setPwm_kept env hl h.id pct leaseId).wrote] at hlate
  omega

theorem handBackLast {r : HwmonRig} (hl : r.Latched hs) : HandBackLast env hs r := by
  refine ⟨fun h hm hen hb pct leaseId => ?_, fun h hm hen pct leaseId => ?_, fun id pct leaseId w hw hne => ?_⟩
  · exact setPwm_refused (Headers.get?_of_mem hm) (PwmHeaderDescriptor.owned_of_supportsEnable hen) hb pct leaseId
  · exact setPwm_late hl (Headers.get?_of_mem hm) (PwmHeaderDescriptor.owned_of_supportsEnable hen) pct leaseId
  · obtain ⟨h, hh, -, hw⟩ := (setPwm_kept env hl id pct leaseId).wrote.since w hw
    obtain rfl := Headers.id_of_get? hh
    cases hw with
    | prime hw => exact ⟨h, hh, hw⟩
    | take t hen => exact absurd rfl hne
    | duty t => exact absurd rfl hne

end HwmonRig

end ControlOfc.Hwmon
