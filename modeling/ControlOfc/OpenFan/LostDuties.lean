import ControlOfc.Lib.Machine
import ControlOfc.OpenFan.PutBack
import ControlOfc.OpenFan.Coalesce
/-! # The lost-duty mask never hides a put-back

At one generation a lost duty is only ever cleared: `set_pwm` observes the generation before it does
anything else, which moves no lost duty, and the end of an exchange forgets one or keeps it. So a
channel found clear stays clear until the generation moves, and a mask read at a generation that has
moved since is not used.

A tick that decides by the mask is then matched step by step by one that asks the controller for every
skipped channel, until the generation moves under them.
-/
namespace ControlOfc.OpenFan
open ControlOfc.Pwm

/-! ## Bits -/

@[simp] theorem inMask_zero (i : Ch) : inMask 0#16 i = false := by
  simp [inMask]

@[simp] theorem inMask_allOnes (i : Ch) : inMask (BitVec.allOnes 16) i = true := by
  revert i
  decide

theorem inMask_eq_getLsbD (mask : BitVec 16) (i : Ch) : inMask mask i = mask.getLsbD i := by
  have hi : (i : Nat) < 16 := Nat.lt_trans i.isLt (by decide)
  have h : mask &&& bitOf i = if mask.getLsbD i then BitVec.twoPow 16 i else 0#16 := BitVec.and_twoPow mask i
  have hne : BitVec.twoPow 16 i ≠ 0#16 := by
    intro he
    have := congrArg (BitVec.getLsbD · i) he
    simp [hi] at this
  unfold inMask
  rw [h]
  cases mask.getLsbD i <;> simp [hne]

theorem inMask_or_bitOf (mask : BitVec 16) (i j : Ch) : inMask (mask ||| bitOf i) j = (inMask mask j || j == i) := by
  have hj : (j : Nat) < 16 := Nat.lt_trans j.isLt (by decide)
  have hb : bitOf i = BitVec.twoPow 16 i := rfl
  rw [inMask_eq_getLsbD, inMask_eq_getLsbD, BitVec.getLsbD_or, hb, BitVec.getLsbD_twoPow]
  simp [hj, Nat.lt_trans i.isLt (by decide : numChannels < 16), Fin.ext_iff, eq_comm, beq_eq_decide]

/-! ## What a call does to the lost duties -/

namespace FanController

theorem dutyBeforeLoss_eq (c : FanController) (k : WriteCache) (i : Ch) :
    c.dutyBeforeLoss k i =
      if k.generation ≠ c.lastWriteGeneration then (c.channels i).known else (c.channels i).dutyBeforeLoss := by
  simp [dutyBeforeLoss]

theorem observe_dutyBeforeLoss (c : FanController) (k : WriteCache) (i : Ch) :
    (c.observeWriteGeneration k.generation).dutyBeforeLoss k i = c.dutyBeforeLoss k i := by
  rw [dutyBeforeLoss_eq, dutyBeforeLoss_eq, observe_lastWriteGeneration]
  unfold observeWriteGeneration
  by_cases h : k.generation ≠ c.lastWriteGeneration
  · simp [h, ChannelControl.lose]
  · simp [h]

theorem modify_dutyBeforeLoss (c : FanController) (k : WriteCache) (i j : Ch) {f : ChannelControl → ChannelControl}
    (hk : ∀ ch, (f ch).known = ch.known) (hd : ∀ ch, (f ch).dutyBeforeLoss = ch.dutyBeforeLoss) :
    (c.modify i f).dutyBeforeLoss k j = c.dutyBeforeLoss k j := by
  rw [dutyBeforeLoss_eq, dutyBeforeLoss_eq, modify_lastWriteGeneration]
  by_cases hj : j = i
  · subst hj
    simp [hk, hd]
  · simp [hj]

/-- Up to the port, `set_pwm` leaves every lost duty where it was. -/
theorem beginSetPwm_dutyBeforeLoss (c : FanController) (k : WriteCache) (now channel pct : Nat) (i : Ch) :
    (c.beginSetPwm k.generation now channel pct).1.dutyBeforeLoss k i = c.dutyBeforeLoss k i := by
  unfold beginSetPwm
  split
  · split
    · rfl
    · dsimp only
      split
      · exact c.observe_dutyBeforeLoss k i
      · split
        · exact c.observe_dutyBeforeLoss k i
        · rw [modify_dutyBeforeLoss]
          · exact c.observe_dutyBeforeLoss k i
          · exact fun _ => rfl
          · exact fun _ => rfl
  · rfl

/-- What reaches the port has observed the generation; what is answered has, or has changed nothing. -/
theorem beginSetPwm_lastWriteGeneration (c : FanController) (g now channel pct : Nat) :
    (c.beginSetPwm g now channel pct).1.lastWriteGeneration = g ∨
      ∃ r, c.beginSetPwm g now channel pct = (c, .answered r) := by
  unfold beginSetPwm
  split
  · split
    · exact .inr ⟨_, rfl⟩
    · refine .inl ?_
      dsimp only
      split
      · exact observe_lastWriteGeneration ..
      · split <;> exact observe_lastWriteGeneration ..
  · exact .inr ⟨_, rfl⟩

theorem finishSetPwm_lastWriteGeneration (c : FanController) (k : WriteCache) (now : Nat) (i : Ch) (eff : Nat)
    (sent : Option SerialError) : (c.finishSetPwm k now i eff sent).1.lastWriteGeneration = c.lastWriteGeneration := by
  cases sent <;> rfl

theorem finishSetPwm_generation (c : FanController) (k : WriteCache) (now : Nat) (i : Ch) (eff : Nat)
    (sent : Option SerialError) : (c.finishSetPwm k now i eff sent).2.1.generation = k.generation := by
  cases sent <;> simp [finishSetPwm]

/-- The end of an exchange at the observed generation gives no channel a lost duty. -/
theorem finishSetPwm_dutyBeforeLoss {c : FanController} {k : WriteCache} (hg : c.lastWriteGeneration = k.generation)
    (now : Nat) (i : Ch) (eff : Nat) (sent : Option SerialError) {j : Ch} (h : c.dutyBeforeLoss k j = none) :
    (c.finishSetPwm k now i eff sent).1.dutyBeforeLoss (c.finishSetPwm k now i eff sent).2.1 j = none := by
  rw [dutyBeforeLoss_eq, if_neg (not_not.mpr hg.symm)] at h
  have hg' : ¬ (c.finishSetPwm k now i eff sent).2.1.generation ≠
      (c.finishSetPwm k now i eff sent).1.lastWriteGeneration := by
    rw [finishSetPwm_generation, finishSetPwm_lastWriteGeneration, hg]
    exact not_not.mpr rfl
  rw [dutyBeforeLoss_eq, if_neg hg']
  by_cases hj : j = i
  · subst hj
    cases sent with
    | none => simp [finishSetPwm, ChannelControl.landed]
    | some e => simp [finishSetPwm, ChannelControl.failed, h]
  · cases sent <;> simpa [finishSetPwm, hj] using h

theorem beginExitFloor_dutyBeforeLoss (c : FanController) (k : WriteCache) (f : Nat) (i : Ch) :
    (c.beginExitFloor k.generation f).dutyBeforeLoss k i = c.dutyBeforeLoss k i := by
  rw [← c.observe_dutyBeforeLoss k i, dutyBeforeLoss_eq, dutyBeforeLoss_eq]
  rfl

end FanController

/-! ## Channels with nothing to put back -/

namespace Port

/-- The channels of `P` have no lost duty, and an exchange on the wire will not give them one. -/
structure Clear (q : Port) (P : Ch → Prop) : Prop where
  observed : q.inFlight.isSome → q.ctrl.lastWriteGeneration = q.generation
  clear : ∀ i, P i → q.dutyBeforeLoss i = none

/-- What was read at `g` still holds, unless the generation has moved. -/
structure Noted (q : Port) (g : Nat) (P : Ch → Prop) : Prop where
  le : g ≤ q.generation
  clear : g = q.generation → q.Clear P

@[simp] theorem call_generation (q : Port) (channel pct : Nat) : (q.call channel pct).generation = q.generation := by
  unfold call
  split <;> rfl

@[simp] theorem call_paused (q : Port) (channel pct : Nat) : (q.call channel pct).paused = q.paused := by
  unfold call
  split <;> rfl

@[simp] theorem call_putBacks (q : Port) (channel pct : Nat) : (q.call channel pct).putBacks = q.putBacks := by
  unfold call
  split <;> rfl

theorem call_dutyBeforeLoss (q : Port) (channel pct : Nat) (i : Ch) :
    (q.call channel pct).dutyBeforeLoss i = q.dutyBeforeLoss i := by
  have h := q.ctrl.beginSetPwm_dutyBeforeLoss q.cache q.now channel pct i
  unfold call
  split <;> (rename_i hb; rw [show q.generation = q.cache.generation from rfl] at hb; rw [hb] at h; exact h)

theorem Clear.call {q : Port} {P : Ch → Prop} (h : q.Clear P) (channel pct : Nat) : (q.call channel pct).Clear P := by
  refine ⟨fun hf => ?_, fun i hi => (q.call_dutyBeforeLoss channel pct i).trans (h.clear i hi)⟩
  rw [call_generation]
  have hb := q.ctrl.beginSetPwm_lastWriteGeneration q.generation q.now channel pct
  unfold Port.call at hf ⊢
  split
  · next c r hc =>
    rw [hc] at hb hf
    rcases hb with hb | ⟨r', hb⟩
    · exact hb
    · obtain rfl : c = q.ctrl := congrArg Prod.fst hb
      exact h.observed hf
  · next c i eff hc =>
    rw [hc] at hb
    rcases hb with hb | ⟨r, hb⟩
    · exact hb
    · cases congrArg Prod.snd hb

theorem Clear.step {q : Port} {P : Ch → Prop} (h : q.Clear P) {e : PortEvent} (he : e ≠ .bump) : (q.step e).Clear P := by
  cases e with
  | elapse dt => exact ⟨h.observed, h.clear⟩
  | bump => exact absurd rfl he
  | pause on => exact ⟨h.observed, h.clear⟩
  | call channel pct => exact h.call channel pct
  | reply sent =>
    simp only [Port.step, reply]
    split
    · exact h
    · next i eff hf =>
      have hg : q.ctrl.lastWriteGeneration = q.cache.generation := h.observed (by simp [hf])
      exact ⟨nofun, fun j hj => FanController.finishSetPwm_dutyBeforeLoss hg q.now i eff sent (h.clear j hj)⟩
  | latch f =>
    refine ⟨fun _ => FanController.observe_lastWriteGeneration .., fun i hi => ?_⟩
    exact (q.ctrl.beginExitFloor_dutyBeforeLoss q.cache f i).trans (h.clear i hi)

theorem step_generation (q : Port) (e : PortEvent) :
    (q.step e).generation = if e = .bump then q.generation + 1 else q.generation := by
  cases e with
  | reply sent =>
    simp only [Port.step, reply, reduceCtorEq, ↓reduceIte]
    split
    · rfl
    · exact FanController.finishSetPwm_generation ..
  | call channel pct => simp [Port.step]
  | _ => rfl

theorem step_putBacks (q : Port) (e : PortEvent) : (q.step e).putBacks = q.putBacks := by
  cases e with
  | reply sent =>
    simp only [Port.step, reply]
    split <;> rfl
  | call channel pct => exact q.call_putBacks channel pct
  | _ => rfl

theorem Noted.mono {q : Port} {g : Nat} {P Q : Ch → Prop} (h : q.Noted g P) (hPQ : ∀ i, Q i → P i) : q.Noted g Q :=
  ⟨h.le, fun hg => ⟨(h.clear hg).observed, fun i hi => (h.clear hg).clear i (hPQ i hi)⟩⟩

/-- Whatever anyone does, what was read at a generation holds while that generation is current. -/
theorem Noted.step {q : Port} {g : Nat} {P : Ch → Prop} (h : q.Noted g P) (e : PortEvent) : (q.step e).Noted g P := by
  have hle := h.le
  by_cases he : e = .bump
  · have hgen : (q.step e).generation = q.generation + 1 := by simp [step_generation, he]
    exact ⟨by omega, fun hg => by omega⟩
  · have hgen : (q.step e).generation = q.generation := by simp [step_generation, he]
    exact ⟨by omega, fun hg => (h.clear (by omega)).step he⟩

/-- A turn of the task does to the port nothing, or a call. -/
theorem turn_port (q : Port) (t : Task) :
    (q.turn t).1 = q ∨ ∃ channel pct log, (q.turn t).1 = { q.call channel pct with putBacks := log } := by
  unfold turn
  split
  · exact .inl rfl
  · split
    · exact .inl rfl
    · split
      · exact .inl rfl
      · exact .inr ⟨_, _, _, rfl⟩
  · split
    · exact .inl rfl
    · split
      · exact .inl rfl
      · split
        · exact .inl rfl
        · exact .inr ⟨_, _, _, rfl⟩
  · exact .inl rfl
  · split <;> exact .inl rfl
  · exact .inl rfl
  · exact .inl rfl
  · exact .inl rfl

theorem turn_generation (q : Port) (t : Task) : (q.turn t).1.generation = q.generation := by
  rcases q.turn_port t with ht | ⟨channel, pct, log, ht⟩ <;> rw [ht]
  exact q.call_generation channel pct

theorem Clear.turn {q : Port} {P : Ch → Prop} (h : q.Clear P) (t : Task) : (q.turn t).1.Clear P := by
  rcases q.turn_port t with ht | ⟨channel, pct, log, ht⟩ <;> rw [ht]
  · exact h
  · have hc := h.call channel pct
    exact ⟨hc.observed, hc.clear⟩

theorem Noted.turn {q : Port} {g : Nat} {P : Ch → Prop} (h : q.Noted g P) (t : Task) : (q.turn t).1.Noted g P := by
  have hgen := q.turn_generation t
  exact ⟨hgen ▸ h.le, fun hg => (h.clear (hg.trans hgen)).turn t⟩

end Port

/-! ## The invariant -/

/-- What the task carries of a scan it has begun. -/
def Task.Noted (q : Port) : Task → Prop
  | .recording g => g ≤ q.generation
  | .scanning g mask rest => q.Noted g fun i => i ∉ rest ∧ inMask mask i = false
  | .storing g mask => q.Noted g fun i => inMask mask i = false
  | _ => True

theorem Port.inMask_scan {q : Port} {mask : BitVec 16} {i j : Ch} (h : inMask (q.scan mask i) j = false) :
    inMask mask j = false ∧ (j = i → q.dutyBeforeLoss i = none) := by
  unfold Port.scan at h
  split at h
  · rw [inMask_or_bitOf, Bool.or_eq_false_iff] at h
    exact ⟨h.1, fun hj => by simp [hj] at h⟩
  · next hn => exact ⟨h, fun _ => by simpa using hn⟩

theorem Task.Noted.step {q : Port} {t : Task} (h : t.Noted q) (e : PortEvent) : t.Noted (q.step e) := by
  cases t with
  | recording g =>
    have hg : g ≤ q.generation := h
    show g ≤ (q.step e).generation
    rw [Port.step_generation]
    split <;> omega
  | scanning g mask rest => exact Port.Noted.step h e
  | storing g mask => exact Port.Noted.step h e
  | _ => trivial

/-- The scan: the generation first, then the channels one by one under the lock. -/
theorem Task.Noted.turn {q : Port} {t : Task} (h : t.Noted q) : (q.turn t).2.Noted (q.turn t).1 := by
  cases t with
  | done => trivial
  | writing chans putBack checks =>
    cases chans with
    | cons c chans =>
      simp only [Port.turn]
      split
      · trivial
      · split <;> trivial
    | nil =>
      cases putBack with
      | cons ch putBack =>
        simp only [Port.turn]
        split
        · trivial
        · split
          · trivial
          · split <;> trivial
      | nil =>
        cases checks
        · trivial
        · exact Nat.le_refl q.generation
  | recording g =>
    simp only [Port.turn]
    split
    · exact h
    · next hf => exact ⟨h, fun _ => ⟨fun hs => absurd hs hf, fun i hi => absurd (List.mem_finRange i) hi.1⟩⟩
  | scanning g mask rest =>
    have h : q.Noted g _ := h
    cases rest with
    | nil => exact h.mono fun i hi => ⟨List.not_mem_nil, hi⟩
    | cons ch rest =>
      refine ⟨h.le, fun hg => ⟨(h.clear hg).observed, fun i hi => ?_⟩⟩
      obtain ⟨hm, hd⟩ := Port.inMask_scan hi.2
      by_cases hic : i = ch
      · rw [hic]
        exact hd hic
      · exact (h.clear hg).clear i ⟨fun hr => (List.mem_cons.mp hr).elim hic hi.1, hm⟩
  | storing g mask => trivial

namespace Backend

structure Inv (s : Backend) : Prop where
  stored : ∀ g mask, s.lostDuties = some (g, mask) → s.port.Noted g fun i => inMask mask i = false
  task : s.task.Noted s.port
  awaited : s.ticking.isSome → s.queued = none

theorem inv_start (q : Port) : (start q).Inv := ⟨nofun, trivial, nofun⟩

theorem Inv.move {s : Backend} (h : s.Inv) (m : PortEvent ⊕ OwnMove) : (s.move m).Inv := by
  rcases m with e | own
  · exact ⟨fun g mask hs => (h.stored g mask hs).step e, h.task.step e, h.awaited⟩
  · cases own with
    | issue =>
      simp only [Backend.move]
      split
      · exact ⟨h.stored, trivial, fun _ => rfl⟩
      · exact h
    | drop => exact ⟨h.stored, h.task, fun _ => rfl⟩
    | turn =>
      refine ⟨fun g mask hs => ?_, h.task.turn, h.awaited⟩
      simp only [Backend.move] at hs
      split at hs
      · next g' mask' ht =>
        obtain ⟨rfl, rfl⟩ := Prod.mk.inj (Option.some.inj hs)
        have hn := h.task
        rw [ht] at hn
        exact Port.Noted.turn hn s.task
      · exact (h.stored g mask hs).turn s.task

theorem Inv.step {s : Backend} (h : s.Inv) (e : BackendEvent) : (s.step e).Inv := by
  cases e with
  | move m => exact h.move m
  | readGeneration =>
    simp only [Backend.step]
    split
    · exact h
    · next hq => exact ⟨h.stored, h.task, fun _ => by simpa using hq⟩
  | decide chans skipped wanted =>
    simp only [Backend.step]
    split
    · unfold Backend.decide enqueue
      split <;> exact ⟨h.stored, h.task, nofun⟩
    · exact h

theorem run_inv (q : Port) (es : List BackendEvent) : (Machine.run step (start q) es).Inv := by
  have hstep : ∀ (s : Backend) (e : BackendEvent), s.Inv → (s.step e).Inv := fun _ e h => h.step e
  exact Machine.run_inv hstep _ es (inv_start q)

/-- A channel whose bit is clear in the mask a decision goes by has nothing to put back. -/
theorem Inv.clear {s : Backend} (h : s.Inv) :
    s.lostMask s.port.generation = BitVec.allOnes 16 ∨
      s.port.Clear fun i => inMask (s.lostMask s.port.generation) i = false := by
  unfold lostMask
  split
  · next g mask hl =>
    split
    · next hg => exact .inr ((h.stored g mask hl).clear hg)
    · exact .inl rfl
  · exact .inl rfl

end Backend

end ControlOfc.OpenFan
