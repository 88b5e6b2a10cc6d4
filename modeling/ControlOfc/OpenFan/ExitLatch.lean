import ControlOfc.OpenFan.Coalesce
/-! # The exit floor of the OpenFan channels

`apply_exit_floor` latches every channel at the duty promised to it, and `set_pwm` never writes below the
latch. `Known` is the invariant of the runs before the stop that makes latch and promise agree: a duty the
controller knows, lost or not, is a percentage, and of a channel it has written.
-/
namespace ControlOfc.OpenFan
open ControlOfc.Pwm

/-- Anything but the exit floor, which runs once, at the stop. -/
def RigEvent.Ordinary : RigEvent → Prop
  | .exitFloor _ _ => False
  | _ => True

instance (e : RigEvent) : Decidable e.Ordinary := by
  cases e <;> unfold RigEvent.Ordinary <;> infer_instance

/-- The controller knows duties only of channels it has written, and they are percentages. -/
structure ChannelControl.Known (c : ChannelControl) : Prop where
  last : ∀ d, c.lastCommandedPct = some d → c.written = true ∧ d ≤ 100
  lost : ∀ d, c.dutyBeforeLoss = some d → c.written = true ∧ d ≤ 100

namespace ChannelControl

theorem Known.known {c : ChannelControl} (h : c.Known) {d : Nat} (hd : c.known = some d) : c.written = true ∧ d ≤ 100 := by
  cases hl : c.lastCommandedPct with
  | none => exact h.lost d (by simpa [ChannelControl.known, hl] using hd)
  | some p => exact h.last d (by simpa [ChannelControl.known, hl] using hd)

theorem known_lose (c : ChannelControl) : c.lose.known = c.known := by simp [ChannelControl.known, lose]

theorem Known.lose {c : ChannelControl} (h : c.Known) : c.lose.Known :=
  ⟨nofun, fun _ hd => h.known hd⟩

theorem Known.failed {c : ChannelControl} (h : c.Known) (eff : Nat) : (c.failed eff).Known := by
  refine ⟨nofun, fun d hd => ⟨rfl, ?_⟩⟩
  simp only [ChannelControl.failed] at hd
  split at hd
  · cases hd
  · exact (h.lost d hd).2

theorem Known.landed {c : ChannelControl} (now : Nat) {eff : Nat} (he : eff ≤ 100) : (c.landed now eff).Known := by
  refine ⟨fun d hd => ⟨rfl, ?_⟩, nofun⟩
  obtain rfl : eff = d := by simpa [ChannelControl.landed] using hd
  exact he

/-- The latch is the promise. -/
theorem Known.latch {c : ChannelControl} (h : c.Known) {f : Nat} (hf : f ≤ 100) :
    (c.latch f).exitMin = some (promised c.written c.known f) := by
  simp only [ChannelControl.latch]
  cases hw : c.written with
  | true => rw [promised_of_written (fun d hd => (h.known hd).2) hf]; rfl
  | false =>
    cases hk : c.known with
    | none => rfl
    | some d =>
      rw [(h.known hk).1] at hw
      cases hw

end ChannelControl

namespace FanController

theorem known_observe (c : FanController) (g : Nat) (i : Ch) :
    ((c.observeWriteGeneration g).channels i).known = (c.channels i).known := by
  unfold observeWriteGeneration
  split
  · exact ChannelControl.known_lose _
  · rfl

theorem written_observe (c : FanController) (g : Nat) (i : Ch) :
    ((c.observeWriteGeneration g).channels i).written = (c.channels i).written := by
  unfold observeWriteGeneration
  split <;> rfl

/-- `last_known_duty` sees through a bump no write has observed. -/
theorem lastKnownDuty_eq (c : FanController) (k : WriteCache) (i : Ch) :
    c.lastKnownDuty k i = (c.channels i).known := by
  unfold lastKnownDuty lastCommandedPct dutyBeforeLoss
  by_cases hg : k.generation ≠ c.lastWriteGeneration
  · simp [hg]
  · simp [hg, ChannelControl.known]

end FanController

namespace Rig

/-- The frame an event puts on the wire. -/
def frame (r : Rig) : Nat × RigEvent → Option (Ch × Nat)
  | (dt, .setPwm channel pct x) => ((r.wait dt).ctrl.setPwm r.cache (r.now + dt) channel pct x).frame
  | _ => none

/-- Every frame a run puts on the wire, in order. -/
def frames (r : Rig) (es : List (Nat × RigEvent)) : List (Ch × Nat) := (Machine.trace step frame r es).filterMap id

structure Knows (r : Rig) : Prop where
  sound : r.Sound
  known : ∀ i, (r.ctrl.channels i).Known
  latch : ∀ i m, (r.ctrl.channels i).exitMin = some m → m ≤ 100

theorem knows_start (k : WriteCache) (device : Ch → Nat) (now : Nat) : (start k device now).Knows :=
  ⟨sound_start k device now, fun _ => ⟨nofun, nofun⟩, nofun⟩

theorem Knows.wait {r : Rig} (h : r.Knows) (dt : Nat) : (r.wait dt).Knows := ⟨h.sound.wait dt, h.known, h.latch⟩

theorem known_observe {r : Rig} (h : r.Knows) (g : Nat) (i : Ch) :
    ((r.ctrl.observeWriteGeneration g).channels i).Known := by
  unfold FanController.observeWriteGeneration
  split
  · exact (h.known i).lose
  · exact h.known i

theorem stop_observe {r : Rig} (h : r.Sound) (g : Nat) (i : Ch) : ((r.ctrl.observeWriteGeneration g).channels i).StopOk := by
  unfold FanController.observeWriteGeneration
  split
  · exact (r.ctrl.channels i).stopOk_lose
  · exact h.stop i

/-- The duty a command asks for, raised to the latch. -/
def raised (r : Rig) (i : Ch) (pct : Nat) : Nat := max pct ((r.ctrl.channels i).exitMin.getD 0)

theorem raised_le {r : Rig} (hl : ∀ i m, (r.ctrl.channels i).exitMin = some m → m ≤ 100) (i : Ch) {pct : Nat}
    (hp : pct ≤ 100) : r.raised i pct ≤ 100 := by
  unfold raised
  cases hm : (r.ctrl.channels i).exitMin with
  | none => simpa using hp
  | some m => simpa using ⟨hp, hl i m hm⟩

/-- What one accepted command does on the wire, to the tracking and to its caller. -/
theorem setPwm_cases {r : Rig} (h : r.Sound) (i : Ch) {pct : Nat} (hp : pct ≤ 100) (x : Exchange) :
    let s := r.ctrl.setPwm r.cache r.now i pct x
    let c := r.ctrl.observeWriteGeneration r.cache.generation
    (s.ctrl = c ∧ s.frame = none ∧ s.result = .ok ⟨i, r.raised i pct, true⟩) ∨
    (s.frame = some (i, percentToRaw (r.raised i pct)) ∧
      ((s.ctrl = c.modify i (·.landed r.now (r.raised i pct)) ∧ s.result = .ok ⟨i, r.raised i pct, false⟩) ∨
        ∃ e, s.ctrl = c.modify i (·.failed (r.raised i pct)) ∧ s.result = .error (.serial e))) := by
  have hset : r.ctrl.setPwm r.cache r.now i pct x =
      (r.ctrl.observeWriteGeneration r.cache.generation).command r.cache r.now i pct x := by
    simp [FanController.setPwm, Nat.not_lt.mpr hp]
  intro s c
  obtain ⟨-, hs⟩ | ⟨-, hs⟩ | ⟨e, landed, -, hs⟩ :=
    FanController.command_cases (stop_observe h r.cache.generation i) r.cache r.now pct x
  all_goals
    simp only [FanController.observe_exitMin] at hs
    rw [show s = _ from hset.trans hs]
  · exact .inl ⟨rfl, rfl, rfl⟩
  · exact .inr ⟨rfl, .inl ⟨rfl, rfl⟩⟩
  · exact .inr ⟨rfl, .inr ⟨e, rfl, rfl⟩⟩

theorem setPwm_knows {r : Rig} (h : r.Knows) (channel pct : Nat) (x : Exchange) : (r.setPwm channel pct x).1.Knows := by
  by_cases hv : channel < numChannels ∧ pct ≤ 100
  · obtain ⟨hc, hp⟩ := hv
    have hspec := setPwm_spec h.sound ⟨channel, hc⟩ hp x
    have hle := raised_le h.latch ⟨channel, hc⟩ hp
    refine ⟨hspec.sound, fun j => ?_, fun j m hm => h.latch j m (hspec.exitMin j ▸ hm)⟩
    have hmodify (f : ChannelControl → ChannelControl)
        (hf : (f ((r.ctrl.observeWriteGeneration r.cache.generation).channels ⟨channel, hc⟩)).Known) :
        (((r.ctrl.observeWriteGeneration r.cache.generation).modify ⟨channel, hc⟩ f).channels j).Known := by
      by_cases hj : j = ⟨channel, hc⟩
      · subst hj
        rwa [FanController.modify_self]
      · rw [FanController.modify_of_ne _ hj]
        exact known_observe h _ j
    change ((r.ctrl.setPwm r.cache r.now ((⟨channel, hc⟩ : Ch) : Nat) pct x).ctrl.channels j).Known
    obtain ⟨hs, -⟩ | ⟨-, ⟨hs, -⟩ | ⟨e, hs, -⟩⟩ := setPwm_cases h.sound ⟨channel, hc⟩ hp x <;> rw [hs]
    · exact known_observe h _ j
    · exact hmodify _ (.landed r.now hle)
    · exact hmodify _ ((known_observe h _ _).failed _)
  · rw [(setPwm_of_invalid r hv x).1]
    exact h

theorem step_knows {r : Rig} (h : r.Knows) {e : Nat × RigEvent} (he : e.2.Ordinary) : (r.step e).Knows := by
  obtain ⟨dt, op⟩ := e
  cases op with
  | setPwm channel pct x => exact setPwm_knows (h.wait dt) channel pct x
  | bump device => exact ⟨(h.sound.wait dt).bump device, h.known, h.latch⟩
  | exitFloor f xs => cases he

theorem run_knows {r : Rig} {es : List (Nat × RigEvent)} (hes : ∀ e ∈ es, e.2.Ordinary) (h : r.Knows) :
    (Machine.run step r es).Knows :=
  (Machine.along_of_inv (G := fun _ _ => True) (I := Knows) (fun _ e he hs => ⟨trivial, step_knows hs (hes e he)⟩) r h).2

/-- No ordinary event moves a latch. -/
theorem step_exitMin {r : Rig} (h : r.Sound) {e : Nat × RigEvent} (he : e.2.Ordinary) (i : Ch) :
    ((r.step e).ctrl.channels i).exitMin = (r.ctrl.channels i).exitMin := by
  obtain ⟨dt, op⟩ := e
  cases op with
  | setPwm channel pct x =>
    by_cases hv : channel < numChannels ∧ pct ≤ 100
    · exact (setPwm_spec (h.wait dt) ⟨channel, hv.1⟩ hv.2 x).exitMin i
    · simp only [step]
      rw [(setPwm_of_invalid (r.wait dt) hv x).1]
      rfl
  | bump device => rfl
  | exitFloor f xs => cases he

/-- A frame respects the latch of its channel. -/
theorem frame_respects {r : Rig} (h : r.Sound) (hl : ∀ i m, (r.ctrl.channels i).exitMin = some m → m ≤ 100)
    {e : Nat × RigEvent} {i : Ch} {raw : Nat} (hf : r.frame e = some (i, raw)) :
    ∃ p, raw = percentToRaw p ∧ ((r.ctrl.channels i).exitMin.getD 0) ≤ p ∧ p ≤ 100 := by
  obtain ⟨dt, op⟩ := e
  cases op with
  | setPwm channel pct x =>
    by_cases hv : channel < numChannels ∧ pct ≤ 100
    · obtain ⟨hc, hp⟩ := hv
      have hf' : ((r.wait dt).ctrl.setPwm (r.wait dt).cache (r.wait dt).now channel pct x).frame = some (i, raw) := hf
      obtain ⟨-, hs, -⟩ | ⟨hs, -⟩ := setPwm_cases (h.wait dt) ⟨channel, hc⟩ hp x
      · rw [hs] at hf'
        cases hf'
      · rw [hs] at hf'
        obtain ⟨rfl, rfl⟩ := Prod.mk.inj (Option.some.inj hf')
        exact ⟨_, rfl, Nat.le_max_right _ _, raised_le hl _ hp⟩
    · simp only [frame, FanController.setPwm] at hf
      by_cases hc : channel < numChannels
      · have hp : pct > 100 := by omega
        simp [hc, hp] at hf
      · simp [hc] at hf
  | bump device => cases hf
  | exitFloor f xs => cases hf

/-- The floor leaves every channel latched at its promise. -/
theorem applyExitFloor_knows {r : Rig} (h : r.Knows) {f : Nat} (hpos : 1 ≤ f) (hf : f ≤ 100) (xs : Ch → Exchange) :
    (r.applyExitFloor f xs).1.Sound ∧ ∀ i, ((r.applyExitFloor f xs).1.ctrl.channels i).exitMin =
      some (promised (r.ctrl.channels i).written (r.ctrl.lastKnownDuty r.cache i) f) := by
  have hwrites := exitWrites_spec f xs _ _ (h.sound.beginExitFloor f) (exitTargets_nodup _)
    (beginExitFloor_exitMin r.ctrl r.cache.generation f)
  unfold applyExitFloor
  rw [if_neg (by omega)]
  refine ⟨hwrites.1, fun i => (hwrites.2.2.1 i).trans ?_⟩
  rw [FanController.lastKnownDuty_eq, ← FanController.known_observe _ r.cache.generation,
    ← FanController.written_observe _ r.cache.generation]
  exact (known_observe h _ i).latch hf

/-- After the floor: soundness, and a latch that no longer moves. -/
structure LatchedAt (v : Ch → Nat) (r : Rig) : Prop where
  sound : r.Sound
  latch : ∀ i, (r.ctrl.channels i).exitMin = some (v i)

theorem LatchedAt.step {v : Ch → Nat} {r : Rig} (h : r.LatchedAt v) {e : Nat × RigEvent} (he : e.2.Ordinary) :
    (r.step e).LatchedAt v :=
  ⟨step_sound r e h.sound, fun i => (step_exitMin h.sound he i).trans (h.latch i)⟩

theorem LatchedAt.run {v : Ch → Nat} {r : Rig} (h : r.LatchedAt v) {es : List (Nat × RigEvent)}
    (hes : ∀ e ∈ es, e.2.Ordinary) : (Machine.run Rig.step r es).LatchedAt v :=
  (Machine.along_of_inv (G := fun _ _ => True) (I := LatchedAt v)
    (fun _ e he hs => ⟨trivial, hs.step (hes e he)⟩) r h).2

theorem LatchedAt.frames {v : Ch → Nat} (hv : ∀ i, v i ≤ 100) {es : List (Nat × RigEvent)} (hes : ∀ e ∈ es, e.2.Ordinary)
    {r : Rig} (h : r.LatchedAt v) :
    ∀ f ∈ r.frames es, ∃ p, f.2 = percentToRaw p ∧ v f.1 ≤ p ∧ p ≤ 100 := by
  intro f hf
  obtain ⟨w, hw, hwf⟩ := List.mem_filterMap.mp hf
  refine Machine.forall_mem_trace (Q := fun w => ∀ f, w = some f → ∃ p, f.2 = percentToRaw p ∧ v f.1 ≤ p ∧ p ≤ 100)
    (fun r e he hr => ⟨?_, hr.step (hes e he)⟩) r h w hw f hwf
  rintro ⟨i, raw⟩ hfr
  have hl (i : Ch) (m : Nat) (hm : (r.ctrl.channels i).exitMin = some m) : m ≤ 100 := by
    rw [hr.latch i] at hm
    exact Option.some.inj hm ▸ hv i
  obtain ⟨p, hp, hm, hle⟩ := frame_respects hr.sound hl hfr
  rw [hr.latch] at hm
  exact ⟨p, hp, hm, hle⟩

end Rig

end ControlOfc.OpenFan
