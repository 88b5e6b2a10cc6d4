import ControlOfc.Hwmon.LateWrites
/-! # The exit floor of the hwmon headers

`apply_exit_floor` latches every header with no mode switch at the duty promised to it. The latch is what
`Respects` measures a write against, so the promise holds of every write of every later run.
-/
namespace ControlOfc.Hwmon
open Pwm

namespace HwmonRig

variable {hs : Headers} {r : HwmonRig}

theorem latched_start (leases : LeaseManager) (cache : HwmonCache) (now : Nat) :
    (start hs leases cache now).Latched hs := by
  refine ⟨fun id m hm => ?_, fun id m hm => ?_, fun id hno ht => ?_⟩
  · cases hm
  · cases hm
  · obtain ⟨h, hh, hen⟩ := hno
    exact HandBackLedger.not_tracks_new hh hen ht

theorem recorded_start (leases : LeaseManager) (cache : HwmonCache) (now : Nat) :
    (start hs leases cache now).Recorded hs := by
  intro id d _ hd
  cases hd

/-- The floor's latch on a header with no mode switch is what it owes it. -/
theorem latch_eq_promised (hr : r.Recorded hs) {id : String} (hno : NoMode hs id) {f : Nat} (hf : f ≤ 100) :
    (r.ctrl.latchExitMin hs f).get? id =
      some (promised (r.ctrl.exitRecord.get? id).isSome (r.ctrl.exitRecord.get? id).join f) := by
  obtain ⟨h, hh, hen⟩ := hno
  have hget : (r.ctrl.latchExitMin hs f).get? id = some ((r.ctrl.exitRecord.get? id).elim f (exitDuty · f)) := by
    simp only [HwmonPwmController.latchExitMin, KMap.get?] at hh ⊢
    rw [hh]
    simp only [hen]
    cases r.ctrl.exitRecord id <;> rfl
  rw [hget]
  cases hrec : r.ctrl.exitRecord.get? id with
  | none => rfl
  | some was =>
    have hk : ∀ d, was = some d → d ≤ 100 := fun d hd => (hr id d ⟨h, hh, hen⟩ (hd ▸ hrec)).1
    exact congrArg some (promised_of_written hk hf).symm

theorem latched_latch (hl : r.Latched hs) {f : Nat} (hf : f ≤ 100) :
    ({ r with ctrl := { r.ctrl with exitMin := r.ctrl.latchExitMin hs f } } : HwmonRig).Latched hs := by
  have hcases (id : String) (m : Nat) (hm : (r.ctrl.latchExitMin hs f).get? id = some m) :
      r.ctrl.exitMin.get? id = some m ∨ (NoMode hs id ∧ m ≤ 100) := by
    simp only [HwmonPwmController.latchExitMin, KMap.get?] at hm
    cases hh : hs.get? id with
    | none =>
      rw [hh] at hm
      exact .inl hm
    | some h =>
      rw [hh] at hm
      by_cases hen : h.supportsEnable
      · simp only [if_pos hen] at hm
        exact .inl hm
      · have hno : NoMode hs id := ⟨h, hh, by simpa using hen⟩
        simp only [if_neg hen] at hm
        cases hrec : r.ctrl.exitRecord id with
        | none => exact .inr ⟨hno, by simp_all⟩
        | some was =>
          obtain rfl : exitDuty was f = m := by simpa [hrec] using hm
          exact .inr ⟨hno, exitDuty_le was f⟩
  refine ⟨fun id m hm => ?_, fun id m hm => ?_, hl.ledger⟩
  · rcases hcases id m hm with h | h
    · exact hl.bound id m h
    · exact h.2
  · rcases hcases id m hm with h | h
    · exact hl.noMode id m h
    · exact h.1

theorem exitRaise_kept (env : Sysfs) (r : HwmonRig) (h : PwmHeaderDescriptor) {target : Nat} (ht : target ≤ 100) :
    Kept hs (fun _ => True) r (exitRaise env hs r h target).2 := by
  have hprime : Kept hs (fun _ => True) r (primeSharedReportSiblings env hs r h) :=
    (prime_kept env r h).mono fun _ _ => trivial
  have hwrite (known : Option Nat) (hk : known = none ∨ known = some target) :=
    hprime.trans (.of_recorded env (primeSharedReportSiblings env hs r h) h.id h.pwmPath ht hk trivial)
  unfold exitRaise
  dsimp only
  split
  · have hresume := (hwrite _ (.inr rfl)).trans ((resumePriming_kept env _ h).mono fun _ _ => trivial)
    exact hresume.trans (.of_silent (.refl _) (by simp) (fun _ => by simp) fun _ _ hd => by simpa using hd)
  · exact (hwrite _ (.inl rfl)).trans
      (.of_silent (.refl _) (by simp) (fun _ => by simp) fun _ _ hd => by simpa using hd)

theorem exitWrite_kept (env : Sysfs) (f : Nat) (r : HwmonRig) (h : PwmHeaderDescriptor) :
    Kept hs (fun _ => True) r (exitWrite env hs f r h).1 := by
  unfold exitWrite
  dsimp only
  split
  · exact .refl r
  · exact exitRaise_kept env r h (exitDuty_le _ f)

theorem exitWrites_kept (env : Sysfs) (f : Nat) :
    ∀ (ts : List PwmHeaderDescriptor) (r : HwmonRig), Kept hs (fun _ => True) r (exitWrites env hs f r ts).1
  | [], r => .refl r
  | h :: ts, r => (exitWrite_kept env f r h).trans (exitWrites_kept env f ts _)

/-- After the floor the latch is set and the rest is as sound as before. -/
theorem applyExitFloor_latched (env : Sysfs) (hl : r.Latched hs) {f : Nat} (hpos : 1 ≤ f) (hf : f ≤ 100) :
    (applyExitFloor env hs r f).1.Latched hs ∧
      (applyExitFloor env hs r f).1.ctrl.exitMin = r.ctrl.latchExitMin hs f := by
  have hk : Kept hs (fun _ => True) { r with ctrl := { r.ctrl with exitMin := r.ctrl.latchExitMin hs f } }
      (exitWrites env hs f _ (exitTargets hs r)).1 := exitWrites_kept env f _ _
  unfold applyExitFloor
  rw [if_neg (by omega)]
  exact ⟨hk.latched (latched_latch hl hf), hk.exitMin⟩

/-- What `set_pwm` answers on a header with no mode switch once it is past its checks. -/
def Delivered (id : String) (eff : Nat) (res : Except HwmonControlError HwmonSetPwmResult) : Prop :=
  res = .ok ⟨id, eff, percentToRaw eff⟩ ∨ ∃ e, res = .error (.hardware e)

theorem takeAndWrite_delivered (env : Sysfs) (r : HwmonRig) {h : PwmHeaderDescriptor} (hno : h.supportsEnable = false)
    (eff : Nat) (reconciles correcting : Bool) :
    Delivered h.id eff (takeAndWrite env hs r h eff reconciles correcting).2 := by
  have howned : h.ownedByHandBack = false := by simp [PwmHeaderDescriptor.ownedByHandBack, hno]
  simp only [takeAndWrite, takeUnheld, hno, Bool.and_false, Bool.false_eq_true, if_false, writeDuty, howned,
    Bool.false_and]
  split
  · next e _ => exact .inr ⟨e, rfl⟩
  · exact .inl rfl

/-- A command no lower than the latch is answered as if there were none. -/
theorem setPwm_delivered (env : Sysfs) {id : String} (hno : NoMode hs id) {pct : Nat} (hp : pct ≤ 100)
    (hmin : ∀ m, r.ctrl.exitMin.get? id = some m → m ≤ pct) {leaseId : String}
    (hlease : r.ctrl.leaseManager.validateLease r.now leaseId = .ok ()) :
    Delivered id pct (setPwm env hs r id pct leaseId).2 := by
  obtain ⟨h, hh, hen⟩ := hno
  obtain rfl := Headers.id_of_get? hh
  have howned : h.ownedByHandBack = false := by simp [PwmHeaderDescriptor.ownedByHandBack, hen]
  have hraise : r.takeResumeFlag.ctrl.raise h.id pct = pct := by
    have hk : Kept hs (fun _ => True) r r.takeResumeFlag := takeResumeFlag_kept r
    rw [HwmonPwmController.raise_congr hk.exitMin, HwmonPwmController.raise_eq_max]
    cases hm : r.ctrl.exitMin.get? h.id with
    | none => simp
    | some m => simpa using hmin m hm
  simp only [setPwm, hlease, hh, howned, Bool.false_and, Bool.false_eq_true, if_false, Nat.not_lt.mpr hp, command, hraise]
  split
  · split
    · exact takeAndWrite_delivered env _ hen pct _ _
    · exact .inl rfl
  · exact takeAndWrite_delivered env _ hen pct _ _

/-- The duty writes of such a command to its own header carry the duty asked for. -/
theorem setPwm_own_write (env : Sysfs) (hl : r.Latched hs) {id : String} (hno : NoMode hs id) {pct : Nat}
    (hmin : ∀ m, r.ctrl.exitMin.get? id = some m → m ≤ pct) (leaseId : String) :
    ∀ w ∈ r.bus.since (setPwm env hs r id pct leaseId).1.bus, w.header = id →
      w.attr = .duty ∧ w.value = percentToRaw pct := by
  intro w hw hid
  obtain ⟨h, hh, -, hw⟩ := (setPwm_kept env hl id pct leaseId).wrote.since w hw
  obtain rfl := Headers.id_of_get? hh
  cases hw with
  | prime hw =>
    obtain ⟨s, -, hs, hne, -⟩ := hw.sibling
    exact absurd (hs.trans hid) hne
  | take t hen =>
    rw [hno.not_supportsEnable hh] at hen
    cases hen
  | duty t =>
    refine ⟨rfl, ?_⟩
    rw [HwmonPwmController.raise_eq_max]
    cases hm : r.ctrl.exitMin.get? h.id with
    | none => simp
    | some m => simp [Nat.max_eq_left (hmin m hm)]

end HwmonRig

end ControlOfc.Hwmon
