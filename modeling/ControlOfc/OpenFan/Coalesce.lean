import ControlOfc.OpenFan.Controller
import Mathlib.Tactic.Cases
/-! # A coalesced write is a write that was not needed

`Sound` is the invariant of every run: while the generation is observed, what the controller says it
last commanded is what the device holds, and a stop timer runs exactly on the channels last
commanded to 0. The second half is why `apply_safety` never refuses: a wire-bound 0 % finds the
timer off, because with the timer on it would have coalesced.
-/
namespace ControlOfc.OpenFan
open ControlOfc.Pwm

/-! ## One channel -/

/-- `stop_started_at` is set exactly while the stored duty is 0. -/
def ChannelControl.StopOk (c : ChannelControl) : Prop := c.stopStartedAt.isSome ↔ c.lastCommandedPct = some 0

namespace ChannelControl

theorem stopOk_lose (c : ChannelControl) : c.lose.StopOk := by simp [StopOk, lose]

theorem stopOk_failed (c : ChannelControl) (eff : Nat) : (c.failed eff).StopOk := by simp [StopOk, failed]

theorem stopOk_landed (c : ChannelControl) (now eff : Nat) : (c.landed now eff).StopOk := by
  by_cases h : eff = 0
  · cases hs : c.stopStartedAt <;> simp [StopOk, landed, h, hs]
  · simp [StopOk, landed, h]

/-- A command that is not the stored one meets no stop timer. -/
theorem applySafety_of_ne {c : ChannelControl} (h : c.StopOk) {pct : Nat} (hne : c.lastCommandedPct ≠ some pct)
    (now channel : Nat) : c.applySafety now channel pct = .ok pct := by
  unfold applySafety
  split
  · next h0 =>
    subst h0
    have hs : c.stopStartedAt = none := by
      cases hs : c.stopStartedAt with
      | none => rfl
      | some t => exact absurd (h.mp (by simp [hs])) hne
    rw [hs]
  · rfl

theorem raise_eq_max (c : ChannelControl) (pct : Nat) : c.raise pct = max pct (c.exitMin.getD 0) := by
  unfold raise
  cases c.exitMin with
  | none => simp
  | some m =>
    by_cases h : pct < m
    · simp [h, Nat.max_eq_right (Nat.le_of_lt h)]
    · simp [h, Nat.max_eq_left (Nat.le_of_not_lt h)]

@[simp] theorem lose_exitMin (c : ChannelControl) : c.lose.exitMin = c.exitMin := rfl
@[simp] theorem failed_exitMin (c : ChannelControl) (e : Nat) : (c.failed e).exitMin = c.exitMin := rfl
@[simp] theorem landed_exitMin (c : ChannelControl) (n e : Nat) : (c.landed n e).exitMin = c.exitMin := rfl
@[simp] theorem latch_lastCommandedPct (c : ChannelControl) (f : Nat) :
    (c.latch f).lastCommandedPct = c.lastCommandedPct := rfl
@[simp] theorem latch_stopStartedAt (c : ChannelControl) (f : Nat) : (c.latch f).stopStartedAt = c.stopStartedAt := rfl

end ChannelControl

/-! ## The controller -/

namespace FanController

@[simp] theorem observe_lastWriteGeneration (c : FanController) (g : Nat) :
    (c.observeWriteGeneration g).lastWriteGeneration = g := by
  unfold observeWriteGeneration
  split
  · rfl
  · next h => exact (not_not.mp h).symm

@[simp] theorem observe_exitMin (c : FanController) (g : Nat) (i : Ch) :
    ((c.observeWriteGeneration g).channels i).exitMin = (c.channels i).exitMin := by
  unfold observeWriteGeneration
  split <;> rfl

/-- After observing, a stored duty was stored under the current generation. -/
theorem observe_lastCommandedPct {c : FanController} {g p : Nat} {i : Ch}
    (h : ((c.observeWriteGeneration g).channels i).lastCommandedPct = some p) :
    g = c.lastWriteGeneration ∧ (c.channels i).lastCommandedPct = some p := by
  unfold observeWriteGeneration at h
  split at h
  · cases h
  · next hg => exact ⟨not_not.mp hg, h⟩

@[simp] theorem modify_self (c : FanController) (i : Ch) (f : ChannelControl → ChannelControl) :
    (c.modify i f).channels i = f (c.channels i) := by
  simp [modify]

@[simp] theorem modify_of_ne (c : FanController) {i j : Ch} (h : j ≠ i) (f : ChannelControl → ChannelControl) :
    (c.modify i f).channels j = c.channels j := by
  simp [modify, h]

/-- What holds of every channel, and of the new one, holds of every channel after it. -/
theorem modify_forall {c : FanController} {i : Ch} {f : ChannelControl → ChannelControl} {P : ChannelControl → Prop}
    (h : ∀ j, P (c.channels j)) (hi : P (f (c.channels i))) (j : Ch) : P ((c.modify i f).channels j) := by
  by_cases hj : j = i
  · subst hj
    rw [modify_self]
    exact hi
  · rw [modify_of_ne c hj]
    exact h j

/-- What the change of one channel leaves alone is as before on every channel. -/
theorem modify_same {β : Type} (part : ChannelControl → β) {c : FanController} {i : Ch} {f : ChannelControl → ChannelControl}
    (hi : part (f (c.channels i)) = part (c.channels i)) (j : Ch) :
    part ((c.modify i f).channels j) = part (c.channels j) := by
  by_cases hj : j = i
  · subst hj
    rw [modify_self, hi]
  · rw [modify_of_ne c hj]

@[simp] theorem modify_lastWriteGeneration (c : FanController) (i : Ch) (f : ChannelControl → ChannelControl) :
    (c.modify i f).lastWriteGeneration = c.lastWriteGeneration := rfl

/-- The three ways through a command: the stop timeout is not one of them. -/
theorem command_cases {c : FanController} {i : Ch} (h : (c.channels i).StopOk) (k : WriteCache) (now pct : Nat)
    (x : Exchange) :
    let eff := max pct ((c.channels i).exitMin.getD 0)
    ((c.channels i).lastCommandedPct = some eff ∧
      c.command k now i pct x = ⟨c, k, none, .ok ⟨i, eff, true⟩⟩) ∨
    (x = .acked ∧ c.command k now i pct x =
      ⟨c.modify i (·.landed now eff), k.setCommanded i eff c.lastWriteGeneration, some (i, percentToRaw eff),
        .ok ⟨i, eff, false⟩⟩) ∨
    (∃ e landed, x = .failed e landed ∧ c.command k now i pct x =
      ⟨c.modify i (·.failed eff), k.clearCommanded i, some (i, percentToRaw eff), .error (.serial e)⟩) := by
  intro eff
  have heff : (c.channels i).raise pct = eff := (c.channels i).raise_eq_max pct
  unfold command
  rw [heff]
  by_cases hc : (c.channels i).lastCommandedPct = some eff
  · exact .inl ⟨hc, by simp only [if_pos hc]⟩
  · simp only [if_neg hc, ChannelControl.applySafety_of_ne h hc]
    cases x with
    | acked => exact .inr (.inl ⟨rfl, rfl⟩)
    | failed e landed => exact .inr (.inr ⟨e, landed, rfl, rfl⟩)

end FanController

/-! ## The invariant -/

namespace Rig

structure Sound (r : Rig) : Prop where
  stop : ∀ i, (r.ctrl.channels i).StopOk
  held : r.cache.generation = r.ctrl.lastWriteGeneration →
    ∀ i p, (r.ctrl.channels i).lastCommandedPct = some p → r.device i = percentToRaw p
  seen : r.ctrl.lastWriteGeneration ≤ r.cache.generation

theorem sound_start (k : WriteCache) (device : Ch → Nat) (now : Nat) : (start k device now).Sound := by
  refine ⟨fun i => ?_, fun _ i p h => ?_, Nat.zero_le _⟩
  · simp [start, FanController.new, ChannelControl.default, ChannelControl.StopOk]
  · cases h

/-- Observing the generation keeps the invariant and makes every stored duty current. -/
theorem Sound.observe {r : Rig} (h : r.Sound) :
    ({ r with ctrl := r.ctrl.observeWriteGeneration r.cache.generation } : Rig).Sound := by
  refine ⟨fun i => ?_, fun _ i p hp => ?_, ?_⟩
  · show ((r.ctrl.observeWriteGeneration r.cache.generation).channels i).StopOk
    unfold FanController.observeWriteGeneration
    split
    · exact (r.ctrl.channels i).stopOk_lose
    · exact h.stop i
  · obtain ⟨hg, hp⟩ := FanController.observe_lastCommandedPct hp
    exact h.held hg i p hp
  · rw [FanController.observe_lastWriteGeneration]

theorem Sound.wait {r : Rig} (h : r.Sound) (dt : Nat) : (r.wait dt).Sound := ⟨h.stop, h.held, h.seen⟩

theorem Sound.bump {r : Rig} (h : r.Sound) (device : Ch → Nat) :
    ({ r with cache := r.cache.invalidate, device := device } : Rig).Sound := by
  refine ⟨h.stop, fun hg => ?_, Nat.le_succ_of_le h.seen⟩
  have hseen := h.seen
  simp only [WriteCache.invalidate] at hg
  omega

/-! ## One command -/

/-- What one channel and its device cell look like after a command. -/
structure CommandSpec (r : Rig) (i : Ch) (pct : Nat) (r' : Rig) (result : Except FanControlError SetPwmResult) :
    Prop where
  sound : r'.Sound
  exitMin : ∀ j, (r'.ctrl.channels j).exitMin = (r.ctrl.channels j).exitMin
  frame : ∀ j, j ≠ i → r'.device j = r.device j
  lands : ∀ res, result = .ok res →
    res.pwmPercent = max pct ((r.ctrl.channels i).exitMin.getD 0) ∧ r'.device i = percentToRaw res.pwmPercent
  refusal : ∀ e, result = .error e → ∃ s, e = .serial s

/-- The part of `set_pwm` past its range checks: it coalesces against what the device holds, or puts
a frame on the wire; the stop timeout does not get in the way. -/
theorem command_spec {r : Rig} (h : r.Sound) (hg : r.cache.generation = r.ctrl.lastWriteGeneration) (i : Ch)
    (pct : Nat) (x : Exchange) :
    let s := r.ctrl.command r.cache r.now i pct x
    CommandSpec r i pct { r with ctrl := s.ctrl, cache := s.cache, device := deliver r.device s.frame x } s.result := by
  obtain ⟨hc, hs⟩ | ⟨rfl, hs⟩ | ⟨e, landed, rfl, hs⟩ :=
    FanController.command_cases (h.stop i) r.cache r.now pct x <;> simp only [hs]
  · refine ⟨⟨h.stop, h.held, h.seen⟩, fun _ => rfl, fun _ _ => rfl, ?_, nofun⟩
    intro res hres
    cases hres
    exact ⟨rfl, h.held hg i _ hc⟩
  · refine ⟨⟨fun j => ?_, fun _ j p hp => ?_, ?_⟩, fun j => ?_, fun j hj => ?_, ?_, nofun⟩
    · dsimp only
      refine FanController.modify_forall h.stop ?_ j
      exact ChannelControl.stopOk_landed ..
    · by_cases hj : j = i
      · subst hj
        simp only [FanController.modify_self, ChannelControl.landed, Option.some.injEq] at hp
        simp [deliver, Exchange.lands, hp]
      · simp only [FanController.modify_of_ne _ hj] at hp
        simpa [deliver, Exchange.lands, hj] using h.held hg j p hp
    · simpa using h.seen
    · dsimp only
      refine FanController.modify_same ChannelControl.exitMin ?_ j
      rfl
    · simp [deliver, Exchange.lands, hj]
    · intro res hres
      cases hres
      exact ⟨rfl, by simp [deliver, Exchange.lands]⟩
  · refine ⟨⟨fun j => ?_, fun _ j p hp => ?_, ?_⟩, fun j => ?_, fun j hj => ?_, nofun, ?_⟩
    · dsimp only
      refine FanController.modify_forall h.stop ?_ j
      exact ChannelControl.stopOk_failed ..
    · by_cases hj : j = i
      · subst hj
        simp [ChannelControl.failed] at hp
      · simp only [FanController.modify_of_ne _ hj] at hp
        have := h.held hg j p hp
        cases landed <;> simpa [deliver, Exchange.lands, hj] using this
    · simpa using h.seen
    · dsimp only
      refine FanController.modify_same ChannelControl.exitMin ?_ j
      rfl
    · cases landed <;> simp [deliver, Exchange.lands, hj]
    · intro e' he'
      cases he'
      exact ⟨e, rfl⟩

theorem setPwm_spec {r : Rig} (h : r.Sound) (i : Ch) {pct : Nat} (hpct : pct ≤ 100) (x : Exchange) :
    CommandSpec r i pct (r.setPwm i pct x).1 (r.setPwm i pct x).2 := by
  have key := command_spec h.observe (FanController.observe_lastWriteGeneration _ _).symm i pct x
  have hset : r.ctrl.setPwm r.cache r.now i pct x =
      (r.ctrl.observeWriteGeneration r.cache.generation).command r.cache r.now i pct x := by
    simp [FanController.setPwm, Nat.not_lt.mpr hpct]
  unfold Rig.setPwm
  simp only [hset]
  refine ⟨key.sound, fun j => ?_, key.frame, ?_, key.refusal⟩
  · simpa using key.exitMin j
  · simpa using key.lands

/-- A command outside the ranges changes nothing. -/
theorem setPwm_of_invalid (r : Rig) {channel pct : Nat} (h : ¬ (channel < numChannels ∧ pct ≤ 100)) (x : Exchange) :
    (r.setPwm channel pct x).1 = r ∧
      ((r.setPwm channel pct x).2 = .error (.validation (.channelRange channel)) ∨
        (r.setPwm channel pct x).2 = .error (.validation (.percentRange pct))) := by
  unfold Rig.setPwm FanController.setPwm
  by_cases hc : channel < numChannels
  · have hp : pct > 100 := by omega
    simp [hc, hp, deliver]
  · simp [hc, deliver]

theorem setPwm_sound {r : Rig} (h : r.Sound) (channel pct : Nat) (x : Exchange) : (r.setPwm channel pct x).1.Sound := by
  by_cases hv : channel < numChannels ∧ pct ≤ 100
  · exact (setPwm_spec h ⟨channel, hv.1⟩ hv.2 x).sound
  · rw [(setPwm_of_invalid r hv x).1]
    exact h

/-- `set_pwm` as its callers see it: an accepted command leaves the channel at the duty asked for,
raised to the latched exit duty. -/
theorem setPwm_ok {r : Rig} (h : r.Sound) {channel pct : Nat} {x : Exchange} {res : SetPwmResult}
    (hok : (r.setPwm channel pct x).2 = .ok res) :
    ∃ i : Ch, (i : Nat) = channel ∧ res.pwmPercent = max pct ((r.ctrl.channels i).exitMin.getD 0) ∧
      (r.setPwm channel pct x).1.device i = percentToRaw res.pwmPercent := by
  by_cases hv : channel < numChannels ∧ pct ≤ 100
  · exact ⟨⟨channel, hv.1⟩, rfl, (setPwm_spec h ⟨channel, hv.1⟩ hv.2 x).lands res hok⟩
  · rcases (setPwm_of_invalid r hv x).2 with he | he <;> rw [he] at hok <;> cases hok

theorem setPwm_ne_stopTimeout {r : Rig} (h : r.Sound) (channel pct : Nat) (x : Exchange) (ch : Nat) :
    (r.setPwm channel pct x).2 ≠ .error (.validation (.stopTimeout ch)) := by
  intro he
  by_cases hv : channel < numChannels ∧ pct ≤ 100
  · obtain ⟨s, hs⟩ := (setPwm_spec h ⟨channel, hv.1⟩ hv.2 x).refusal _ he
    cases hs
  · rcases (setPwm_of_invalid r hv x).2 with h' | h' <;> rw [h'] at he <;> cases he

/-! ## The exit floor -/

theorem Sound.beginExitFloor {r : Rig} (h : r.Sound) (f : Nat) :
    ({ r with ctrl := r.ctrl.beginExitFloor r.cache.generation f } : Rig).Sound := by
  have ho := h.observe
  exact ⟨ho.stop, ho.held, ho.seen⟩

theorem exitTargets_nodup (c : FanController) : (c.exitTargets.map Prod.fst).Nodup := by
  have : c.exitTargets.map Prod.fst = (List.finRange numChannels).filter fun i => (c.channels i).written := by
    simp [FanController.exitTargets, Function.comp_def]
  rw [this]
  exact (List.nodup_finRange _).filter _

/-- Every channel the floor writes has been latched at the duty it is written at. -/
theorem beginExitFloor_exitMin (c : FanController) (g f : Nat) :
    ∀ t ∈ (c.observeWriteGeneration g).exitTargets,
      ((c.beginExitFloor g f).channels t.1).exitMin = some (exitDuty t.2 f) := by
  intro t ht
  simp only [FanController.exitTargets, List.mem_map, List.mem_filter] at ht
  obtain ⟨i, ⟨-, hw⟩, rfl⟩ := ht
  simp [FanController.beginExitFloor, ChannelControl.latch, hw]

/-- What the floor's writes leave behind, write by write. -/
structure FloorSpec (r : Rig) (w : ExitFloorWrite) : Prop where
  latched : (r.ctrl.channels w.channel).exitMin = some w.targetPct
  lands : ∀ res, w.result = .ok res → res.pwmPercent = w.targetPct ∧ r.device w.channel = percentToRaw w.targetPct
  refusal : ∀ e, w.result = .error e → ∃ s, e = .serial s

theorem exitWrites_spec (f : Nat) (xs : Ch → Exchange) :
    ∀ (ts : List (Ch × Option Nat)) (r : Rig), r.Sound → (ts.map Prod.fst).Nodup →
      (∀ t ∈ ts, (r.ctrl.channels t.1).exitMin = some (exitDuty t.2 f)) →
      (exitWrites f xs r ts).1.Sound ∧
      (∀ j, j ∉ ts.map Prod.fst → (exitWrites f xs r ts).1.device j = r.device j) ∧
      (∀ j, ((exitWrites f xs r ts).1.ctrl.channels j).exitMin = (r.ctrl.channels j).exitMin) ∧
      ∀ w ∈ (exitWrites f xs r ts).2, FloorSpec (exitWrites f xs r ts).1 w
  | [], r, h, _, _ => ⟨h, fun _ _ => rfl, fun _ => rfl, nofun⟩
  | (i, was) :: ts, r, h, hnd, hmin => by
    have hspec := setPwm_spec h i (exitDuty_le was f) (xs i)
    have hi : (r.ctrl.channels i).exitMin = some (exitDuty was f) := hmin (i, was) List.mem_cons_self
    obtain ⟨hni, hnd'⟩ := List.nodup_cons.mp hnd
    obtain ⟨hs, hdev, hex, hws⟩ := exitWrites_spec f xs ts (r.setPwm i (exitDuty was f) (xs i)).1 hspec.sound hnd'
      (fun t ht => (hspec.exitMin t.1).trans (hmin t (List.mem_cons_of_mem _ ht)))
    refine ⟨hs, fun j hj => ?_, fun j => (hex j).trans (hspec.exitMin j), fun w hw => ?_⟩
    · have hji : j ≠ i := fun e => hj (e ▸ List.mem_cons_self)
      exact (hdev j fun hm => hj (List.mem_cons_of_mem _ hm)).trans (hspec.frame j hji)
    · rcases List.mem_cons.mp hw with rfl | hw
      · refine ⟨((hex i).trans (hspec.exitMin i)).trans hi, fun res hres => ?_, hspec.refusal⟩
        obtain ⟨hp, hd⟩ := hspec.lands res hres
        have hp' : res.pwmPercent = exitDuty was f := by
          rw [hp, hi]
          exact Nat.max_self _
        exact ⟨hp', (hdev i hni).trans (hp' ▸ hd)⟩
      · exact hws w hw

theorem applyExitFloor_spec {r : Rig} (h : r.Sound) (f : Nat) (xs : Ch → Exchange) :
    (r.applyExitFloor f xs).1.Sound ∧ ∀ w ∈ (r.applyExitFloor f xs).2, FloorSpec (r.applyExitFloor f xs).1 w := by
  unfold applyExitFloor
  by_cases hf : f = 0
  · rw [if_pos hf]
    exact ⟨h, nofun⟩
  · rw [if_neg hf]
    obtain ⟨hs, -, -, hw⟩ := exitWrites_spec f xs _ _ (h.beginExitFloor f) (exitTargets_nodup _)
      (beginExitFloor_exitMin r.ctrl r.cache.generation f)
    exact ⟨hs, hw⟩

/-! ## Every run -/

theorem step_sound (r : Rig) (e : Nat × RigEvent) (h : r.Sound) : (r.step e).Sound := by
  obtain ⟨dt, op⟩ := e
  cases op with
  | setPwm channel pct x => exact setPwm_sound (h.wait dt) channel pct x
  | bump device => exact (h.wait dt).bump device
  | exitFloor f xs => exact (applyExitFloor_spec (h.wait dt) f xs).1

/-- **Coalescing.** In every state a run of commands, bumps and exit floors reaches: a duty the
controller reports is the device's; an accepted command, coalesced or not, leaves the device at the
duty asked for raised to the channel's exit minimum, and an exit-floor write at its target, which is
that minimum; the stop timer runs exactly on the channels last commanded to 0, and no command is
refused for it. -/
theorem coalescing_sound (k : WriteCache) (device : Ch → Nat) (now : Nat) (es : List (Nat × RigEvent)) :
    let r := Machine.run step (start k device now) es
    (∀ (i : Ch) p, r.ctrl.lastCommandedPct r.cache i = some p → r.device i = percentToRaw p) ∧
    (∀ dt channel pct x res, ((r.wait dt).setPwm channel pct x).2 = .ok res →
      ∃ i : Ch, (i : Nat) = channel ∧ ((r.wait dt).setPwm channel pct x).1.device i =
        percentToRaw (max pct ((r.ctrl.channels i).exitMin.getD 0))) ∧
    (∀ dt f xs, ∀ w ∈ ((r.wait dt).applyExitFloor f xs).2, ∀ res, w.result = .ok res →
      ((r.wait dt).applyExitFloor f xs).1.device w.channel = percentToRaw w.targetPct ∧
      (((r.wait dt).applyExitFloor f xs).1.ctrl.channels w.channel).exitMin = some w.targetPct) ∧
    (∀ i, (r.ctrl.channels i).stopStartedAt.isSome ↔ (r.ctrl.channels i).lastCommandedPct = some 0) ∧
    (∀ dt channel pct x ch, ((r.wait dt).setPwm channel pct x).2 ≠ .error (.validation (.stopTimeout ch))) ∧
    (∀ dt f xs ch, ∀ w ∈ ((r.wait dt).applyExitFloor f xs).2, w.result ≠ .error (.validation (.stopTimeout ch))) := by
  intro r
  have h : r.Sound := Machine.run_inv step_sound _ es (sound_start k device now)
  refine ⟨fun i p hp => ?_, fun dt channel pct x res hok => ?_, fun dt f xs w hw res hres => ?_, h.stop,
    fun dt channel pct x ch => setPwm_ne_stopTimeout (h.wait dt) channel pct x ch, fun dt f xs ch w hw he => ?_⟩
  · unfold FanController.lastCommandedPct at hp
    split at hp
    · cases hp
    · next hg =>
      rw [dif_pos i.isLt] at hp
      exact h.held (not_not.mp hg) i p hp
  · obtain ⟨i, hi, hp, hd⟩ := setPwm_ok (h.wait dt) hok
    exact ⟨i, hi, hp ▸ hd⟩
  · have hspec := (applyExitFloor_spec (h.wait dt) f xs).2 w hw
    exact ⟨(hspec.lands res hres).2, hspec.latched⟩
  · obtain ⟨s, hs⟩ := ((applyExitFloor_spec (h.wait dt) f xs).2 w hw).refusal _ he
    cases hs

end Rig

end ControlOfc.OpenFan
