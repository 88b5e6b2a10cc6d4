import ControlOfc.OpenFan.ExitLatch
import ControlOfc.Hwmon.ExitFloor
/-! # The exit floor is final

Both controllers latch the duty they owe an output under the lock every later writer takes, so nothing that
outlives the stop lowers it. What the hand-back owns is another matter: its mark is set without that lock.
-/
namespace ControlOfc
open Pwm

/-! A board header with a mode switch, and a hub's channels without one. -/

def caseFan : Hwmon.PwmHeaderDescriptor :=
  ⟨"case", "it8696", true, ⟨"hwmon0", "pwm1"⟩, some ⟨"hwmon0", "pwm1_enable"⟩, true, rfl⟩

def fan (n : Nat) : Hwmon.PwmHeaderDescriptor :=
  ⟨"fan" ++ toString n, "arctic_fan", false, ⟨"hwmon1", "pwm" ++ toString n⟩, none, true, rfl⟩

def switchedFan : Hwmon.PwmHeaderDescriptor :=
  ⟨"fan1", "arctic_fan", true, ⟨"hwmon1", "pwm1"⟩, some ⟨"hwmon1", "pwm1_enable"⟩, true, rfl⟩

def board : Hwmon.Headers := ⟨[caseFan], by decide⟩
def hub : Hwmon.Headers := ⟨[fan 1, fan 2], by decide⟩
def mixedHub : Hwmon.Headers := ⟨[switchedFan, fan 2], by decide⟩

/-- Every file reads 0 and takes every write. -/
def hubFiles : Hwmon.Sysfs := ⟨fun _ _ => some 0, fun _ => none, none⟩

def atRest (hs : Hwmon.Headers) : Hwmon.HwmonRig := .start hs (.withTtl Hwmon.defaultLeaseTtl) ⟨false, false, 50, []⟩ 0

/-- After an exit floor, over every later run: each frame and each duty written to a header with no mode
switch is at or above what the floor promised, a command at or above it goes through as it is, and
around the start of the hand-back `set_pwm` does to a header with a mode switch what `HandBackLast` says. -/
theorem exit_floor_final (f : Nat) (hpos : 1 ≤ f) (hf : f ≤ 100) :
    (∀ (k : OpenFan.WriteCache) (device : OpenFan.Ch → Nat) (now dt : Nat) (xs : OpenFan.Ch → OpenFan.Exchange)
      (es es' : List (Nat × OpenFan.RigEvent)), (∀ e ∈ es, e.2.Ordinary) → (∀ e ∈ es', e.2.Ordinary) →
      let r := (Machine.run OpenFan.Rig.step (.start k device now) es).wait dt
      let owed := fun i => promised (r.ctrl.channels i).written (r.ctrl.lastKnownDuty r.cache i) f
      let r₁ := (r.applyExitFloor f xs).1
      let r₂ := Machine.run OpenFan.Rig.step r₁ es'
      (∀ fr ∈ r₁.frames es', ∃ p, fr.2 = percentToRaw p ∧ owed fr.1 ≤ p ∧ p ≤ 100) ∧
      ∀ (dt : Nat) (i : OpenFan.Ch) (p : Nat) (x : OpenFan.Exchange), owed i ≤ p → p ≤ 100 →
        ((∃ coalesced, ((r₂.wait dt).setPwm i p x).2 = .ok ⟨i, p, coalesced⟩) ∨
          ∃ e, ((r₂.wait dt).setPwm i p x).2 = .error (.serial e)) ∧
        ∀ fr, r₂.frame (dt, .setPwm i p x) = some fr → fr = (i, percentToRaw p)) ∧
    (∀ (env : Hwmon.Sysfs) (hs : Hwmon.Headers) (leases : Hwmon.LeaseManager) (cache : Hwmon.HwmonCache) (now dt : Nat)
      (es es' : List (Nat × Hwmon.HwmonOp)),
      let r := (Machine.run (Hwmon.HwmonRig.step env hs) (.start hs leases cache now) es).wait dt
      let owed := fun id => promised (r.ctrl.exitRecord.get? id).isSome (r.ctrl.exitRecord.get? id).join f
      let r₁ := (Hwmon.HwmonRig.applyExitFloor env hs r f).1
      let r₂ := Machine.run (Hwmon.HwmonRig.step env hs) r₁ es'
      (∀ w ∈ r₁.bus.since r₂.bus, w.attr = .duty → Hwmon.HwmonRig.NoMode hs w.header →
        ∃ p, w.value = percentToRaw p ∧ owed w.header ≤ p ∧ p ≤ 100) ∧
      (∀ (dt : Nat) (id : String) (p : Nat) (leaseId : String), Hwmon.HwmonRig.NoMode hs id → owed id ≤ p → p ≤ 100 →
        r₂.ctrl.leaseManager.validateLease (r₂.now + dt) leaseId = .ok () →
        Hwmon.HwmonRig.Delivered id p (Hwmon.HwmonRig.setPwm env hs (r₂.wait dt) id p leaseId).2 ∧
        ∀ w ∈ r₂.bus.since (Hwmon.HwmonRig.setPwm env hs (r₂.wait dt) id p leaseId).1.bus, w.header = id →
          w.attr = .duty ∧ w.value = percentToRaw p) ∧
      Hwmon.HwmonRig.HandBackLast env hs r ∧ Hwmon.HwmonRig.HandBackLast env hs r₂) := by
  constructor
  · intro k device now dt xs es es' hes hes' r owed r₁ r₂
    have hknows : r.Knows := (OpenFan.Rig.run_knows hes (OpenFan.Rig.knows_start k device now)).wait dt
    obtain ⟨hsound, hlatch⟩ := OpenFan.Rig.applyExitFloor_knows hknows hpos hf xs
    have h₁ : r₁.LatchedAt owed := ⟨hsound, hlatch⟩
    have h₂ : r₂.LatchedAt owed := h₁.run hes'
    have howed (i : OpenFan.Ch) : owed i ≤ 100 := by
      refine promised_le (fun d hd => ?_) hf
      rw [OpenFan.FanController.lastKnownDuty_eq] at hd
      exact ((hknows.known i).known hd).2
    refine ⟨h₁.frames howed hes', fun dt i p x hp hle => ?_⟩
    have hraised : (r₂.wait dt).raised i p = p := by
      have hl : ((r₂.wait dt).ctrl.channels i).exitMin = some (owed i) := h₂.latch i
      simp [OpenFan.Rig.raised, hl, Nat.max_eq_left hp]
    obtain ⟨-, hfr, hres⟩ | ⟨hfr, ⟨-, hres⟩ | ⟨e, -, hres⟩⟩ := OpenFan.Rig.setPwm_cases (h₂.sound.wait dt) i hle x <;>
      rw [hraised] at *
    · exact ⟨.inl ⟨true, hres⟩, fun fr he => nomatch hfr.symm.trans he⟩
    · exact ⟨.inl ⟨false, hres⟩, fun fr he => (Option.some.inj (hfr.symm.trans he)).symm⟩
    · exact ⟨.inr ⟨e, hres⟩, fun fr he => (Option.some.inj (hfr.symm.trans he)).symm⟩
  · intro env hs leases cache now dt es es' r owed r₁ r₂
    have hstart : (Hwmon.HwmonRig.start hs leases cache now).Latched hs := Hwmon.HwmonRig.latched_start leases cache now
    have hrun := Hwmon.HwmonRig.run_respects env es _ hstart
    have hl' := hrun.latched hstart
    have hl : r.Latched hs := ⟨hl'.bound, hl'.noMode, hl'.ledger⟩
    have hrec : r.Recorded hs := hrun.recorded (Hwmon.HwmonRig.recorded_start leases cache now)
    obtain ⟨hl₁, hmin₁⟩ := Hwmon.HwmonRig.applyExitFloor_latched env hl hpos hf
    have hrun' := Hwmon.HwmonRig.run_respects env es' r₁ hl₁
    have hl₂ : r₂.Latched hs := hrun'.latched hl₁
    have hmin (id : String) (hno : Hwmon.HwmonRig.NoMode hs id) : r₁.ctrl.exitMin.get? id = some (owed id) := by
      rw [hmin₁]
      exact Hwmon.HwmonRig.latch_eq_promised hrec hno hf
    refine ⟨fun w hw hattr hno => hrun'.wrote.since w hw hattr _ (hmin _ hno), fun dt id p leaseId hno hp hle hv => ?_,
      Hwmon.HwmonRig.handBackLast hl, Hwmon.HwmonRig.handBackLast hl₂⟩
    have hm (m : Nat) (h : (r₂.wait dt).ctrl.exitMin.get? id = some m) : m ≤ p := by
      have h' : r₁.ctrl.exitMin.get? id = some m := hrun'.exitMin ▸ h
      rw [hmin id hno] at h'
      exact Option.some.inj h' ▸ hp
    have hl₂' : (r₂.wait dt).Latched hs := ⟨hl₂.bound, hl₂.noMode, hl₂.ledger⟩
    exact ⟨Hwmon.HwmonRig.setPwm_delivered env hno hle hm hv, Hwmon.HwmonRig.setPwm_own_write env hl₂' hno hm leaseId⟩

/-- A channel and a header commanded to 20 %, a floor of 50 %, and late commands to 10 %: what follows the
floor is at 50 %, over a reconnect too. -/
theorem exit_floor_final_late :
    (∀ fr ∈ (OpenFan.Rig.applyExitFloor (Machine.run OpenFan.Rig.step (.start ⟨0, .empty⟩ (fun _ => 0) 0)
        [(0, .setPwm 3 20 .acked)]) 50 fun _ => .acked).1.frames [(1, .bump fun _ => 0), (1, .setPwm 3 10 .acked)],
      ∃ p, fr.2 = percentToRaw p ∧ 50 ≤ p ∧ p ≤ 100) ∧
    ∀ w ∈ Hwmon.Bus.since
        (Hwmon.HwmonRig.applyExitFloor hubFiles hub (Machine.run (Hwmon.HwmonRig.step hubFiles hub) (atRest hub)
          [(0, .lease (.take .engine)), (1, .setPwm "fan1" 20 "lease-1")]) 50).1.bus
        (Machine.run (Hwmon.HwmonRig.step hubFiles hub)
          (Hwmon.HwmonRig.applyExitFloor hubFiles hub (Machine.run (Hwmon.HwmonRig.step hubFiles hub) (atRest hub)
            [(0, .lease (.take .engine)), (1, .setPwm "fan1" 20 "lease-1")]) 50).1
          [(1, .onLeaseReleased), (1, .setPwm "fan1" 10 "lease-1")]).bus,
      w.attr = .duty → w.header = "fan1" → ∃ p, w.value = percentToRaw p ∧ 50 ≤ p ∧ p ≤ 100 := by
  obtain ⟨hopenfan, hhwmon⟩ := exit_floor_final 50 (by decide) (by decide)
  refine ⟨fun fr hfr => ?_, fun w hw hattr hid => ?_⟩
  · obtain ⟨p, hp, hle, h100⟩ := (hopenfan ⟨0, .empty⟩ (fun _ => 0) 0 0 (fun _ => .acked) [(0, .setPwm 3 20 .acked)]
      [(1, .bump fun _ => 0), (1, .setPwm 3 10 .acked)] (by decide) (by decide)).1 fr hfr
    exact ⟨p, hp, Nat.le_trans (le_promised (by decide)) hle, h100⟩
  · obtain ⟨p, hp, hle, h100⟩ := (hhwmon hubFiles hub (.withTtl Hwmon.defaultLeaseTtl) ⟨false, false, 50, []⟩ 0 0
      [(0, .lease (.take .engine)), (1, .setPwm "fan1" 20 "lease-1")]
      [(1, .onLeaseReleased), (1, .setPwm "fan1" 10 "lease-1")]).1 w hw hattr ⟨fan 1, hid ▸ rfl, rfl⟩
    exact ⟨p, hp, Nat.le_trans (le_promised (by decide)) hle, h100⟩

/-- "A header with a mode switch receives no write from `set_pwm` once the hand-back has begun." -/
def SilentAfterHandBack (env : Hwmon.Sysfs) (hs : Hwmon.Headers) (r : Hwmon.HwmonRig) : Prop :=
  ∀ id pct leaseId, ∀ w ∈ r.bus.since (Hwmon.HwmonRig.setPwm env hs r id pct leaseId).1.bus,
    env.begun w.tick → Hwmon.HwmonRig.NoMode hs w.header

/-- It does. A duty write past its last check lands after the mark is set; and on a shared-report chip that
has a mode switch on one channel and none on another, a command after the mark primes the first. -/
theorem hand_back_not_silent :
    ¬ SilentAfterHandBack { hubFiles with handBackAt := some 6 } board
      (Machine.run (Hwmon.HwmonRig.step { hubFiles with handBackAt := some 6 } board) (atRest board)
        [(0, .lease (.take .engine))]) ∧
    ¬ SilentAfterHandBack { hubFiles with handBackAt := some 0 } mixedHub
      (Machine.run (Hwmon.HwmonRig.step { hubFiles with handBackAt := some 0 } mixedHub) (atRest mixedHub)
        [(0, .lease (.take .engine))]) := by
  constructor
  · intro h
    obtain ⟨d, hd, hno⟩ := h "case" 60 "lease-1" ⟨6, "case", .duty, 153⟩ (by decide) (by decide)
    cases hd
    cases hno
  · intro h
    obtain ⟨d, hd, hno⟩ := h "fan2" 60 "lease-1" ⟨3, "fan1", .duty, 255⟩ (by decide) (by decide)
    cases hd
    cases hno

end ControlOfc
