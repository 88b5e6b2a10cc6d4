import ControlOfc.OpenFan.Emergency
import ControlOfc.OpenFan.ExitLatch
import ControlOfc.OpenFan.LostDuties
/-! # Released channels

A channel the engine has written is held until a profile stops naming it; the first task that may then
raises it to the exit floor, and forgets it. Before a stop no channel is latched, so a command puts on the
wire the duty it asks for, and while its exchange is under way nobody else moves what the controller knows
of the channel: the duty a release goes by is still the known one when the write is answered.
-/
namespace ControlOfc.OpenFan
open ControlOfc.Pwm

/-! ## The port before a stop -/

theorem exitDuty_pos (known : Option Nat) {floorPct : Nat} (h : 0 < floorPct) : 0 < exitDuty known floorPct := by
  cases known with
  | none => exact Nat.zero_lt_succ _
  | some d =>
    simp only [exitDuty]
    omega

/-- On a percentage the exit duty lowers nothing. -/
theorem le_exitDuty {d : Nat} (hd : d ≤ 100) (floorPct : Nat) : d ≤ exitDuty (some d) floorPct := by
  simp only [exitDuty]
  omega

theorem ChannelControl.raise_of_unlatched {c : ChannelControl} (h : c.exitMin = none) (pct : Nat) : c.raise pct = pct := by
  simp [raise, h]

theorem ChannelControl.applySafety_eq {c : ChannelControl} {now channel pct eff : Nat}
    (h : c.applySafety now channel pct = .ok eff) : eff = pct := by
  unfold applySafety at h
  split at h
  · split at h
    · split at h
      · cases h
      · exact (Except.ok.inj h).symm
    · exact (Except.ok.inj h).symm
  · exact (Except.ok.inj h).symm

theorem ChannelControl.applySafety_of_pos (c : ChannelControl) (now channel : Nat) {pct : Nat} (h : 0 < pct) :
    c.applySafety now channel pct = .ok pct := if_neg (Nat.ne_of_gt h)

/-- Before a stop, `set_pwm` is refused or coalesced, or sends the duty it was asked for. -/
theorem FanController.beginSetPwm_cases {c : FanController} (h : ∀ i, (c.channels i).exitMin = none) (g now channel pct : Nat) :
    (∃ r, c.beginSetPwm g now channel pct = (c, .answered r)) ∨
    (∃ r, c.beginSetPwm g now channel pct = (c.observeWriteGeneration g, .answered r)) ∨
    (∃ i : Ch, (i : Nat) = channel ∧ pct ≤ 100 ∧
      c.beginSetPwm g now channel pct =
        ((c.observeWriteGeneration g).modify i fun ch => { ch with written := true }, .frame i pct)) := by
  unfold beginSetPwm
  split
  · next hch =>
    split
    · exact .inl ⟨_, rfl⟩
    · next hp =>
      have hraise := ChannelControl.raise_of_unlatched (((c.observe_exitMin g ⟨channel, hch⟩)).trans (h _)) pct
      simp only [hraise]
      split
      · exact .inr (.inl ⟨_, rfl⟩)
      · split
        · exact .inr (.inl ⟨_, rfl⟩)
        · next eff he =>
          obtain rfl := ChannelControl.applySafety_eq he
          exact .inr (.inr ⟨⟨channel, hch⟩, rfl, Nat.le_of_not_lt hp, rfl⟩)
  · exact .inl ⟨_, rfl⟩

/-- A positive duty the device is not known to hold goes on the wire. -/
theorem FanController.beginSetPwm_frame {c : FanController} {k : WriteCache} {i : Ch} (h : (c.channels i).exitMin = none) (now : Nat)
    {pct : Nat} (hpos : 0 < pct) (hle : pct ≤ 100) (hne : some pct ≠ c.lastCommandedPct k i) :
    (c.beginSetPwm k.generation now i pct).2 = .frame i pct := by
  have hraise := ChannelControl.raise_of_unlatched ((c.observe_exitMin k.generation i).trans h) pct
  have hstored : ((c.observeWriteGeneration k.generation).channels i).lastCommandedPct ≠ some pct := by
    intro hst
    obtain ⟨hg, hl⟩ := observe_lastCommandedPct hst
    exact hne (by simp [lastCommandedPct, hg, hl])
  unfold beginSetPwm
  rw [dif_pos i.isLt, if_neg (Nat.not_lt.mpr hle)]
  simp only [Fin.eta, hraise, if_neg hstored, ChannelControl.applySafety_of_pos _ _ _ hpos]

theorem FanController.modify_unlatched {c : FanController} (hmin : ∀ j, (c.channels j).exitMin = none)
    (hk : ∀ j, (c.channels j).Known) {i : Ch} {f : ChannelControl → ChannelControl} (hmin' : (f (c.channels i)).exitMin = none)
    (hk' : (f (c.channels i)).Known) :
    (∀ j, ((c.modify i f).channels j).exitMin = none) ∧ ∀ j, ((c.modify i f).channels j).Known :=
  ⟨modify_forall (P := fun ch => ch.exitMin = none) hmin hmin', modify_forall (P := ChannelControl.Known) hk hk'⟩

namespace Port

/-- No stop has latched its floor; every duty known or on its way is a percentage. -/
structure Unlatched (q : Port) : Prop where
  exitMin : ∀ i, (q.ctrl.channels i).exitMin = none
  known : ∀ i, (q.ctrl.channels i).Known
  sent : ∀ i pct, q.inFlight = some (i, pct) → pct ≤ 100

theorem lastKnownDuty_eq (q : Port) (i : Ch) : q.lastKnownDuty i = (q.ctrl.channels i).known :=
  q.ctrl.lastKnownDuty_eq q.cache i

theorem Unlatched.lastKnownDuty_le {q : Port} (h : q.Unlatched) {i : Ch} {d : Nat} (hd : q.lastKnownDuty i = some d) :
    d ≤ 100 :=
  ((h.known i).known (q.lastKnownDuty_eq i ▸ hd)).2

theorem known_observe {c : FanController} (h : ∀ i, (c.channels i).Known) (g : Nat) (i : Ch) :
    ((c.observeWriteGeneration g).channels i).Known := by
  unfold FanController.observeWriteGeneration
  split
  · exact (h i).lose
  · exact h i

theorem Unlatched.call {q : Port} (h : q.Unlatched) (channel pct : Nat) : (q.call channel pct).Unlatched := by
  have hobs : ∀ i, ((q.ctrl.observeWriteGeneration q.generation).channels i).exitMin = none :=
    fun i => (q.ctrl.observe_exitMin q.generation i).trans (h.exitMin i)
  have hknown := known_observe h.known q.generation
  unfold Port.call
  rcases FanController.beginSetPwm_cases h.exitMin q.generation q.now channel pct with
    ⟨r, hb⟩ | ⟨r, hb⟩ | ⟨i, -, hp, hb⟩ <;> rw [hb]
  · exact ⟨h.exitMin, h.known, h.sent⟩
  · exact ⟨hobs, hknown, h.sent⟩
  · obtain ⟨hmin, hk⟩ := FanController.modify_unlatched hobs hknown (i := i) (f := fun ch => { ch with written := true })
      (hobs i) ⟨fun d hd => ⟨rfl, ((hknown i).last d hd).2⟩, fun d hd => ⟨rfl, ((hknown i).lost d hd).2⟩⟩
    refine ⟨hmin, hk, fun j p hj => ?_⟩
    obtain ⟨rfl, rfl⟩ := Prod.mk.inj (Option.some.inj hj)
    exact hp

/-- A call forgets no duty. -/
theorem Unlatched.call_lastKnownDuty {q : Port} (h : q.Unlatched) (channel pct : Nat) (i : Ch) :
    (q.call channel pct).lastKnownDuty i = q.lastKnownDuty i := by
  rw [lastKnownDuty_eq, lastKnownDuty_eq]
  unfold Port.call
  rcases FanController.beginSetPwm_cases h.exitMin q.generation q.now channel pct with
    ⟨r, hb⟩ | ⟨r, hb⟩ | ⟨j, -, -, hb⟩ <;> rw [hb]
  · exact q.ctrl.known_observe q.generation i
  · rw [← q.ctrl.known_observe q.generation i]
    dsimp only
    refine FanController.modify_same ChannelControl.known ?_ i
    rfl

theorem Unlatched.reply {q : Port} (h : q.Unlatched) (sent : Option SerialError) : (q.reply sent).Unlatched := by
  unfold Port.reply
  split
  · exact h
  · next i eff hf =>
    have heff := h.sent i eff hf
    cases sent with
    | none =>
      obtain ⟨hmin, hk⟩ := FanController.modify_unlatched h.exitMin h.known (i := i) (f := (·.landed q.now eff)) (h.exitMin i)
        (ChannelControl.Known.landed q.now heff)
      exact ⟨hmin, hk, nofun⟩
    | some e =>
      obtain ⟨hmin, hk⟩ := FanController.modify_unlatched h.exitMin h.known (i := i) (f := (·.failed eff)) (h.exitMin i)
        ((h.known i).failed eff)
      exact ⟨hmin, hk, nofun⟩

/-- An acknowledged write is the channel's last landed command. -/
theorem reply_landed {q : Port} {i : Ch} {pct : Nat} (h : q.inFlight = some (i, pct)) :
    ((q.reply none).ctrl.channels i).lastCommandedPct = some pct := by
  simp [reply, h, FanController.finishSetPwm, ChannelControl.landed]

theorem Unlatched.turn {q : Port} (h : q.Unlatched) (t : Task) : (q.turn t).1.Unlatched := by
  rcases q.turn_port t with ht | ⟨channel, pct, log, ht⟩ <;> rw [ht]
  · exact h
  · have hc := h.call channel pct
    exact ⟨hc.exitMin, hc.known, hc.sent⟩

/-- The write of a release goes on the wire, unless the device is known to hold the duty already. -/
theorem Unlatched.call_release {q : Port} (h : q.Unlatched) {i : Ch} {pct : Nat} (hpos : 0 < pct) (hle : pct ≤ 100)
    (hne : some pct ≠ q.lastCommandedPct i) : q.answer i pct = none ∧ (q.call i pct).inFlight = some (i, pct) := by
  have hb : (q.ctrl.beginSetPwm q.generation q.now i pct).2 = .frame i pct :=
    FanController.beginSetPwm_frame (h.exitMin i) q.now hpos hle hne
  constructor
  · simp [answer, hb]
  · unfold Port.call
    split
    · next c r hc =>
      rw [hc] at hb
      cases hb
    · next c j eff hc =>
      rw [hc] at hb
      obtain ⟨rfl, rfl⟩ := FanController.Begun.frame.inj hb
      rfl

/-- What the accessor says the device was told is what the channel stores. -/
theorem lastCommandedPct_eq_some {q : Port} {i : Ch} {pct : Nat} (h : q.lastCommandedPct i = some pct) :
    (q.ctrl.channels i).lastCommandedPct = some pct := by
  unfold lastCommandedPct FanController.lastCommandedPct at h
  split at h
  · cases h
  · simpa using h

end Port

/-! ## Taking, releasing, trying again -/

/-- Neither the write of a tick nor a release. -/
def Stage.Plain : Stage → Prop
  | .writing .. | .releasing .. => False
  | _ => True

@[simp] theorem Stage.afterWrites_plain (giveBack : Option Channels) : (Stage.afterWrites giveBack).Plain := by
  cases giveBack <;> trivial

namespace EmergencyBackend

/-- `set_pwm` holds the controller until its exchange ends: nobody calls meanwhile, and the task that called
does not go on. A stop's latch ends the run. -/
def Allowed (s : EmergencyBackend) : EmergencyEvent → Prop
  | .port (.call ..) => s.port.inFlight = none
  | .port (.latch _) => False
  | .turn => s.awaiting = none
  | _ => True

instance (s : EmergencyBackend) (e : EmergencyEvent) : Decidable (s.Allowed e) :=
  match e with
  | .port (.call ..) => inferInstanceAs (Decidable (s.port.inFlight = none))
  | .port (.latch _) => isFalse not_false
  | .turn => inferInstanceAs (Decidable (s.awaiting = none))
  | .port (.elapse _) | .port .bump | .port (.pause _) | .port (.reply _) | .suspend _ | .exitFloor _ | .tick .. | .force _
  | .issue | .drop => isTrue trivial

/-- A turn in which an ordinary tick writes the channel or puts its lost duty back, or a force that names it. -/
def Takes (s : EmergencyBackend) (i : Ch) : EmergencyEvent → Prop
  | .turn => s.port.inFlight = none ∧ s.port.paused = false ∧ ∃ giveBack putBack checks,
      (∃ pct chans, s.task = .writing (.writing ((↑i, pct) :: chans) putBack checks) giveBack) ∨
      (∃ duty, s.task = .writing (.writing [] (i :: putBack) checks) giveBack ∧ s.port.dutyBeforeLoss i = some duty)
  | .force f => f.recordSnapshot = false ∧ i ∈ f.targets
  | _ => False

/-- The channel's turn in a release that took `floorPct`. -/
structure AtRelease (s : EmergencyBackend) (members : Channels) (floorPct : Nat) (i : Ch) : Prop where
  task : ∃ rest, s.task = .releasing members floorPct (i :: rest)
  free : s.port.inFlight = none
  unpaused : s.port.paused = false

/-- The write of a release is under way. -/
structure AtReply (s : EmergencyBackend) (members : Channels) (floorPct : Nat) (i : Ch) : Prop where
  task : ∃ rest, s.task = .releasing members floorPct rest
  awaiting : s.awaiting = some i
  sent : s.port.inFlight = some (i, exitDuty (s.port.lastKnownDuty i) floorPct)

/-- A release that has not come to the channel yet. -/
def Ahead (s : EmergencyBackend) (members : Channels) (i : Ch) : Prop :=
  (s.task = .release members ∧ s.held i = true ∧ members i = false) ∨
  ∃ floorPct rest, s.task = .releasing members floorPct rest ∧ i ∈ rest

structure Books (s : EmergencyBackend) : Prop where
  port : s.port.Unlatched
  /-- The task's channels are held since it started, and no release runs beside it. -/
  writing : ∀ {chans putBack checks giveBack}, s.task = .writing (.writing chans putBack checks) giveBack →
    ∀ c ∈ chans, ∀ i : Ch, c.1 = i → s.held i = true
  unnamed : ∀ {members floorPct rest}, s.task = .releasing members floorPct rest → ∀ i ∈ rest, members i = false
  awaiting : ∀ {i}, s.awaiting = some i → ∃ members floorPct, s.AtReply members floorPct i ∧ members i = false ∧ 0 < floorPct

theorem books_start {q : Port} (hq : q.ctrl = .new) (hf : q.inFlight = none) (exitFloor : Nat) :
    (start q exitFloor).Books := by
  refine ⟨⟨fun i => ?_, fun i => ⟨fun d hd => ?_, fun d hd => ?_⟩, fun i pct hs => ?_⟩, nofun, nofun, nofun⟩
  · simp [start, hq, FanController.new, ChannelControl.default]
  · simp [start, hq, FanController.new, ChannelControl.default] at hd
  · simp [start, hq, FanController.new, ChannelControl.default] at hd
  · simp [start, hf] at hs

/-! ### One step -/

/-- An event that moves neither the controller nor the task, and lets go of no channel. -/
structure Aside (s s' : EmergencyBackend) : Prop where
  ctrl : s'.port.ctrl = s.port.ctrl
  inFlight : s'.port.inFlight = s.port.inFlight
  task : s'.task = s.task
  awaiting : s'.awaiting = s.awaiting
  held : ∀ i, s.held i = true → s'.held i = true

theorem Aside.lastKnownDuty {s s' : EmergencyBackend} (h : s.Aside s') (i : Ch) :
    s'.port.lastKnownDuty i = s.port.lastKnownDuty i := by
  rw [Port.lastKnownDuty_eq, Port.lastKnownDuty_eq, h.ctrl]

theorem Aside.books {s s' : EmergencyBackend} (h : s.Aside s') (hb : s.Books) : s'.Books := by
  refine ⟨⟨h.ctrl ▸ hb.port.exitMin, h.ctrl ▸ hb.port.known, h.inFlight ▸ hb.port.sent⟩, ?_, ?_, ?_⟩
  · intro chans putBack checks giveBack ht c hc i hi
    exact h.held i (hb.writing (h.task ▸ ht) c hc i hi)
  · intro members floorPct rest ht
    exact hb.unnamed (h.task ▸ ht)
  · intro i hi
    obtain ⟨members, floorPct, hr, hm, hpos⟩ := hb.awaiting (h.awaiting ▸ hi)
    exact ⟨members, floorPct, ⟨h.task ▸ hr.task, hi, by rw [h.inFlight, h.lastKnownDuty]; exact hr.sent⟩, hm, hpos⟩

theorem Aside.ahead {s s' : EmergencyBackend} (h : s.Aside s') {members : Channels} {i : Ch} (ha : s.Ahead members i) :
    s'.Ahead members i := by
  rcases ha with ⟨ht, hh, hm⟩ | ⟨floorPct, rest, ht, hi⟩
  · exact .inl ⟨h.task ▸ ht, h.held i hh, hm⟩
  · exact .inr ⟨floorPct, rest, h.task ▸ ht, hi⟩

theorem enqueue_aside (s : EmergencyBackend) (c : Closure) : s.Aside (s.enqueue c) := by
  unfold enqueue
  split <;> exact ⟨rfl, rfl, rfl, rfl, fun _ h => h⟩

theorem tick_aside (s : EmergencyBackend) (w : Work) (members : Channels) : s.Aside (s.tick w members) := by
  have hite : ∀ (c : Bool) (x : Closure), s.Aside (if c then s else s.enqueue x) := by
    intro c x
    cases c
    · exact s.enqueue_aside x
    · exact ⟨rfl, rfl, rfl, rfl, fun _ h => h⟩
  exact hite _ _

theorem hold_held (s : EmergencyBackend) (p : Channels) {i : Ch} (h : s.held i = true ∨ p i = true) :
    (s.hold p).held i = true := by
  simpa [hold] using h

theorem force_aside (s : EmergencyBackend) (f : Force) : s.Aside (s.force f) := by
  unfold force
  by_cases h : f.recordSnapshot = true
  · rw [if_pos h]
    exact s.enqueue_aside _
  · rw [if_neg h]
    have he := (s.hold fun i => f.targets.contains i).enqueue_aside (.force f)
    exact ⟨he.ctrl, he.inFlight, he.task, he.awaiting, fun i hi => he.held i (s.hold_held _ (.inl hi))⟩

/-- Every event but a call, a reply, the start of a task and a turn is aside. -/
theorem step_cases {s : EmergencyBackend} {e : EmergencyEvent} (h : s.Allowed e) :
    s.Aside (s.step e) ∨ (∃ channel pct, e = .port (.call channel pct)) ∨ (∃ sent, e = .port (.reply sent)) ∨
      e = .issue ∨ e = .turn := by
  cases e with
  | port e =>
    cases e with
    | call channel pct => exact .inr (.inl ⟨_, _, rfl⟩)
    | reply sent => exact .inr (.inr (.inl ⟨_, rfl⟩))
    | latch f => exact h.elim
    | elapse dt => exact .inl ⟨rfl, rfl, rfl, rfl, fun _ h => h⟩
    | bump => exact .inl ⟨rfl, rfl, rfl, rfl, fun _ h => h⟩
    | pause on => exact .inl ⟨rfl, rfl, rfl, rfl, fun _ h => h⟩
  | suspend on => exact .inl ⟨rfl, rfl, rfl, rfl, fun _ h => h⟩
  | exitFloor pct => exact .inl ⟨rfl, rfl, rfl, rfl, fun _ h => h⟩
  | tick w members => exact .inl (s.tick_aside w members)
  | force f => exact .inl (s.force_aside f)
  | issue => exact .inr (.inr (.inr (.inl rfl)))
  | drop => exact .inl ⟨rfl, rfl, rfl, rfl, fun _ h => h⟩
  | turn => exact .inr (.inr (.inr (.inr rfl)))

/-- One turn of a release: over, waiting, interrupted, a channel let go without a command, or a channel's
write under way. -/
theorem turnReleasing_cases {s : EmergencyBackend} (hb : s.Books) {members : Channels} {floorPct : Nat} {rest : List Ch}
    (ht : s.task = .releasing members floorPct rest) :
    (rest = [] ∧ s.turn = { s with task := .taking members }) ∨
    (s.port.inFlight.isSome ∧ s.turn = s) ∨
    (s.port.inFlight = none ∧ s.port.paused = true ∧ s.turn = { s with task := .taking members }) ∨
    ∃ i rest', rest = i :: rest' ∧ s.AtRelease members floorPct i ∧
      (((floorPct = 0 ∨ s.port.lastCommandedPct i = some (exitDuty (s.port.lastKnownDuty i) floorPct)) ∧
          s.turn = { s with task := .releasing members floorPct rest' }.unhold i) ∨
        (0 < floorPct ∧
          (s.port.call i (exitDuty (s.port.lastKnownDuty i) floorPct)).inFlight =
            some (i, exitDuty (s.port.lastKnownDuty i) floorPct) ∧
          s.turn = { s with
            task := .releasing members floorPct rest'
            port := s.port.call i (exitDuty (s.port.lastKnownDuty i) floorPct)
            awaiting := some i })) := by
  cases rest with
  | nil => exact .inl ⟨rfl, by simp [turn, ht, turnReleasing]⟩
  | cons i rest =>
    by_cases hf : s.port.inFlight.isSome
    · exact .inr (.inl ⟨hf, by simp [turn, ht, turnReleasing, hf]⟩)
    · have hnone : s.port.inFlight = none := by simpa using hf
      cases hp : s.port.paused with
      | true => exact .inr (.inr (.inl ⟨hnone, rfl, by simp [turn, ht, turnReleasing, hnone, hp]⟩))
      | false =>
        refine .inr (.inr (.inr ⟨i, rest, rfl, ⟨⟨rest, ht⟩, hnone, hp⟩, ?_⟩))
        by_cases hc : 0 < floorPct ∧ some (exitDuty (s.port.lastKnownDuty i) floorPct) ≠ s.port.lastCommandedPct i
        · obtain ⟨hpos, hne⟩ := hc
          have htarget : 0 < exitDuty (s.port.lastKnownDuty i) floorPct := exitDuty_pos _ hpos
          obtain ⟨hans, hfl⟩ := hb.port.call_release htarget (exitDuty_le _ _) hne
          exact .inr ⟨hpos, hfl, by simp [turn, ht, turnReleasing, hnone, hp, hpos, hne, hans]⟩
        · refine .inl ⟨?_, by simp [turn, ht, turnReleasing, hnone, hp, hc]⟩
          by_cases hpos : 0 < floorPct
          · exact .inr (not_not.mp fun hne => hc ⟨hpos, fun he => hne he.symm⟩)
          · exact .inl (Nat.eq_zero_of_not_pos hpos)

/-- What a write task has left of its channels it had before. -/
theorem turn_writing_chans {q : Port} {t : Task} {chans : List (Nat × Nat)} {putBack : List Ch} {checks : Bool}
    (h : (q.turn t).2 = .writing chans putBack checks) :
    ∃ chans' putBack' checks', t = .writing chans' putBack' checks' ∧ ∀ c ∈ chans, c ∈ chans' := by
  cases t with
  | writing chans' putBack' checks' =>
    refine ⟨chans', putBack', checks', rfl, ?_⟩
    rcases chans' with _ | ⟨c', chans'⟩
    · rcases putBack' with _ | ⟨ch, putBack'⟩
      · simp only [Port.turn] at h
        split at h <;> cases h
      · simp only [Port.turn] at h
        split at h
        · obtain ⟨rfl, -, -⟩ := Task.writing.inj h
          exact fun c hc => hc
        · split at h
          · obtain ⟨rfl, -, -⟩ := Task.writing.inj h
            exact fun c hc => hc
          · split at h <;>
            · obtain ⟨rfl, -, -⟩ := Task.writing.inj h
              exact fun c hc => hc
    · simp only [Port.turn] at h
      split at h
      · obtain ⟨rfl, -, -⟩ := Task.writing.inj h
        exact fun c hc => hc
      · split at h <;>
        · obtain ⟨rfl, -, -⟩ := Task.writing.inj h
          exact fun c hc => List.mem_cons_of_mem _ hc
  | done => cases h
  | recording g =>
    simp only [Port.turn] at h
    split at h <;> cases h
  | scanning g mask rest => cases rest <;> cases h
  | storing g mask => cases h

/-- A turn beside the releases: it lets go of no channel. -/
structure Beside (s s' : EmergencyBackend) : Prop where
  port : s'.port.Unlatched
  awaiting : s'.awaiting = s.awaiting
  held : ∀ i, s.held i = true → s'.held i = true
  task : s'.task = s.task ∨ s'.task.Plain

theorem Beside.books {s s' : EmergencyBackend} (h : s.Beside s') (hb : s.Books) (ha : s.awaiting = none) : s'.Books := by
  refine ⟨h.port, fun {chans putBack checks giveBack} ht c hc i hi => ?_, fun {members floorPct rest} ht => ?_,
    fun hi => by simp [h.awaiting, ha] at hi⟩
  · rcases h.task with htask | hp
    · exact h.held i (hb.writing (htask ▸ ht) c hc i hi)
    · rw [ht] at hp
      exact hp.elim
  · rcases h.task with htask | hp
    · exact hb.unnamed (htask ▸ ht)
    · rw [ht] at hp
      exact hp.elim

theorem turnWriting_spec {s : EmergencyBackend} (hb : s.Books) (ha : s.awaiting = none) {t : Task} {giveBack : Option Channels}
    (ht : s.task = .writing t giveBack) :
    (s.turnWriting t giveBack).Books ∧ ∀ i, s.held i = true → (s.turnWriting t giveBack).held i = true := by
  have hheld : ∀ i, s.held i = true → (s.turnWriting t giveBack).held i = true := by
    intro i hi
    unfold turnWriting
    dsimp only
    split
    · split
      · exact s.hold_held _ (.inl hi)
      · exact hi
    · exact hi
  have hawaiting : (s.turnWriting t giveBack).awaiting = none := by
    unfold turnWriting
    dsimp only
    split
    · split <;> exact ha
    · exact ha
  have htask : (s.turnWriting t giveBack).task = .afterWrites giveBack ∨
      (s.turnWriting t giveBack).task = .writing (s.port.turn t).2 giveBack := by
    unfold turnWriting
    dsimp only
    split
    · exact .inl rfl
    · exact .inr rfl
  refine ⟨⟨hb.port.turn t, ?_, ?_, fun hi => by simp [hawaiting] at hi⟩, hheld⟩
  · intro chans putBack checks giveBack' htask' c hc i hi
    rcases htask with h | h <;> rw [h] at htask'
    · have hp := Stage.afterWrites_plain giveBack
      rw [htask'] at hp
      exact hp.elim
    · obtain ⟨htt, rfl⟩ := Stage.writing.inj htask'
      obtain ⟨chans', putBack', checks', rfl, hsub⟩ := turn_writing_chans htt
      exact hheld i (hb.writing ht c (hsub c hc) i hi)
  · intro members floorPct rest htask'
    rcases htask with h | h <;> rw [h] at htask'
    · have hp := Stage.afterWrites_plain giveBack
      rw [htask'] at hp
      exact hp.elim
    · cases htask'

theorem turn_beside {s : EmergencyBackend} (hb : s.Books) (hp : s.task.Plain) (hl : ∀ members, s.task ≠ .release members) :
    s.Beside s.turn := by
  cases ht : s.task with
  | idle => exact ⟨by simpa [turn, ht] using hb.port, by simp [turn, ht], fun i hi => by simpa [turn, ht] using hi,
      .inl (by simp [turn, ht])⟩
  | writing t giveBack =>
    rw [ht] at hp
    exact hp.elim
  | checking f =>
    simp only [turn, ht, turnChecking]
    split
    · exact ⟨hb.port, rfl, fun _ h => h, .inr trivial⟩
    · split <;> exact ⟨hb.port, rfl, fun _ h => h, .inr trivial⟩
  | reading f =>
    simp only [turn, ht, turnReading]
    split
    · exact ⟨hb.port, rfl, fun _ h => h, .inl rfl⟩
    · split <;> exact ⟨hb.port, rfl, fun _ h => h, .inr trivial⟩
  | forcing f rest =>
    simp only [turn, ht]
    cases rest with
    | nil => exact ⟨hb.port, rfl, fun _ h => h, .inr (Stage.afterWrites_plain _)⟩
    | cons i rest =>
      simp only [turnForcing]
      split
      · exact ⟨hb.port, rfl, fun _ h => h, .inl rfl⟩
      · split
        · exact ⟨hb.port, rfl, fun _ h => h, .inr (Stage.afterWrites_plain _)⟩
        · exact ⟨hb.port.call _ _, rfl, fun _ h => h, .inr trivial⟩
  | release members => exact absurd ht (hl members)
  | releasing members floorPct rest =>
    rw [ht] at hp
    exact hp.elim
  | taking members =>
    simp only [turn, ht]
    split
    · exact ⟨hb.port, rfl, fun _ h => h, .inr trivial⟩
    · split <;> exact ⟨hb.port, rfl, fun _ h => h, .inr trivial⟩
  | returning duties members floorPct rest =>
    simp only [turn, ht]
    cases rest with
    | nil => exact ⟨hb.port, rfl, fun _ h => h, .inr trivial⟩
    | cons i rest =>
      simp only [turnReturning]
      split
      · exact ⟨hb.port, rfl, fun _ h => h, .inr trivial⟩
      · split
        · exact ⟨hb.port, rfl, fun _ h => h, .inl rfl⟩
        · split
          · exact ⟨hb.port, rfl, fun _ h => h, .inr trivial⟩
          · exact ⟨hb.port.call _ _, rfl, fun _ h => h, .inr trivial⟩

/-- The three kinds of turn. -/
theorem turn_cases {s : EmergencyBackend} (hb : s.Books) (ha : s.awaiting = none) :
    (s.turn.Books ∧ (∀ i, s.held i = true → s.turn.held i = true) ∧ ∀ members i, ¬ s.Ahead members i) ∨
    (∃ members, s.task = .release members ∧ s.turn.Books ∧ s.turn.held = s.held ∧
      ∀ i, s.held i = true → members i = false → s.turn.Ahead members i) ∨
    ∃ members floorPct rest, s.task = .releasing members floorPct rest := by
  have hbeside : s.task.Plain → (∀ members, s.task ≠ .release members) →
      s.turn.Books ∧ (∀ i, s.held i = true → s.turn.held i = true) ∧ ∀ members i, ¬ s.Ahead members i := by
    intro hp hl
    have h := turn_beside hb hp hl
    refine ⟨h.books hb ha, h.held, fun members i hah => ?_⟩
    rcases hah with ⟨ht, -, -⟩ | ⟨floorPct, rest, ht, -⟩
    · exact hl members ht
    · rw [ht] at hp
      exact hp
  cases ht : s.task with
  | writing t giveBack =>
    obtain ⟨hbooks, hheld⟩ := turnWriting_spec hb ha ht
    have hturn : s.turn = s.turnWriting t giveBack := by simp [turn, ht]
    refine .inl ⟨hturn ▸ hbooks, hturn ▸ hheld, fun members i hah => ?_⟩
    rcases hah with ⟨hr, -, -⟩ | ⟨floorPct, rest, hr, -⟩ <;>
    · rw [ht] at hr
      cases hr
  | release members =>
    refine .inr (.inl ⟨members, rfl, ?_, by simp [turn, ht], fun i hi hm => .inr ?_⟩)
    · refine ⟨by simpa [turn, ht] using hb.port, ?_, ?_, ?_⟩
      · intro chans putBack checks giveBack htask
        simp [turn, ht] at htask
      · intro members' floorPct rest htask i hi
        simp only [turn, ht, Stage.releasing.injEq] at htask
        obtain ⟨rfl, -, rfl⟩ := htask
        have hkept := (List.mem_filter.mp hi).2
        simp only [Bool.and_eq_true, Bool.not_eq_true'] at hkept
        exact hkept.2
      · intro i hi
        simp [turn, ht, ha] at hi
    · exact ⟨s.exitFloor, (List.finRange numChannels).filter fun i => s.held i && !members i, by simp [turn, ht], by simp [hi, hm]⟩
  | releasing members floorPct rest => exact .inr (.inr ⟨members, floorPct, rest, rfl⟩)
  | idle => exact .inl (hbeside (ht ▸ trivial) (by simp [ht]))
  | checking f => exact .inl (hbeside (ht ▸ trivial) (by simp [ht]))
  | reading f => exact .inl (hbeside (ht ▸ trivial) (by simp [ht]))
  | forcing f rest => exact .inl (hbeside (ht ▸ trivial) (by simp [ht]))
  | taking members => exact .inl (hbeside (ht ▸ trivial) (by simp [ht]))
  | returning duties members floorPct rest => exact .inl (hbeside (ht ▸ trivial) (by simp [ht]))

theorem Books.turn {s : EmergencyBackend} (hb : s.Books) (ha : s.awaiting = none) : s.turn.Books := by
  rcases turn_cases hb ha with ⟨h, -, -⟩ | ⟨members, -, h, -, -⟩ | ⟨members, floorPct, rest, ht⟩
  · exact h
  · exact h
  · rcases turnReleasing_cases hb ht with ⟨-, he⟩ | ⟨-, he⟩ | ⟨-, -, he⟩ | ⟨i, rest', rfl, hat, ⟨-, he⟩ | ⟨hpos, hsent, he⟩⟩ <;>
      rw [he]
    · exact ⟨hb.port, nofun, nofun, fun hj => by simp [ha] at hj⟩
    · exact hb
    · exact ⟨hb.port, nofun, nofun, fun hj => by simp [ha] at hj⟩
    · refine ⟨hb.port, nofun, ?_, ?_⟩
      · rintro members' floorPct' rest'' ⟨⟩ j hj
        exact hb.unnamed ht j (List.mem_cons_of_mem _ hj)
      · intro j hj
        simp [unhold, ha] at hj
    · refine ⟨hb.port.call _ _, nofun, ?_, ?_⟩
      · rintro members' floorPct' rest'' ⟨⟩ j hj
        exact hb.unnamed ht j (List.mem_cons_of_mem _ hj)
      · rintro j ⟨⟩
        refine ⟨members, floorPct, ⟨⟨rest', rfl⟩, rfl, ?_⟩, hb.unnamed ht i List.mem_cons_self, hpos⟩
        rw [hb.port.call_lastKnownDuty]
        exact hsent

/-- A reply lets go of the channel a release waits for, where the write has landed. -/
theorem reply_cases (s : EmergencyBackend) (sent : Option SerialError) :
    (∃ i, s.awaiting = some i ∧ sent = none ∧
      s.reply sent = { s with port := s.port.reply sent, awaiting := none }.unhold i) ∨
    (s.reply sent = { s with port := s.port.reply sent, awaiting := none } ∧ (s.awaiting = none ∨ sent ≠ none)) := by
  unfold reply
  cases ha : s.awaiting with
  | none => exact .inr ⟨rfl, .inl rfl⟩
  | some i =>
    cases sent with
    | none => exact .inl ⟨i, rfl, rfl, rfl⟩
    | some e => exact .inr ⟨rfl, .inr nofun⟩

theorem Books.reply {s : EmergencyBackend} (hb : s.Books) (sent : Option SerialError) : (s.reply sent).Books := by
  have hport := hb.port.reply sent
  rcases s.reply_cases sent with ⟨i, ha, -, he⟩ | ⟨he, -⟩ <;> rw [he]
  · obtain ⟨members, floorPct, hat, -, -⟩ := hb.awaiting ha
    obtain ⟨rest, ht⟩ := hat.task
    refine ⟨hport, ?_, hb.unnamed, nofun⟩
    intro chans putBack checks giveBack hw
    have hw : s.task = .writing (.writing chans putBack checks) giveBack := hw
    rw [ht] at hw
    cases hw
  · exact ⟨hport, hb.writing, hb.unnamed, nofun⟩

/-- A task starts holding the channels it was given to command. -/
theorem issue_holds (s : EmergencyBackend) :
    s.issue = s ∨ s.task = .idle ∧ s.issue.port = s.port ∧ s.issue.awaiting = s.awaiting ∧
      (∀ i, s.held i = true → s.issue.held i = true) ∧
      ((∃ f, s.issue.task = .start (.force f)) ∨
        ∃ w giveBack, s.issue.task = .writing (.start w) giveBack ∧ ∀ c ∈ w.chans, ∀ i : Ch, c.1 = i → s.issue.held i = true) := by
  unfold issue
  split
  · next c ht hq =>
    refine .inr ⟨ht, ?_⟩
    cases c with
    | write w giveBack =>
      refine ⟨rfl, rfl, fun i hi => hold_held _ _ (.inl hi), .inr ⟨w, giveBack, rfl, fun c hc i hi => ?_⟩⟩
      exact hold_held _ _ (.inr (List.any_eq_true.mpr ⟨c, hc, by simp [hi]⟩))
    | force f => exact ⟨rfl, rfl, fun i hi => hi, .inl ⟨f, rfl⟩⟩
  · exact .inl rfl

theorem start_force_plain (f : Force) : (Stage.start (.force f)).Plain := by
  simp only [Stage.start]
  split <;> trivial

theorem Books.issue {s : EmergencyBackend} (hb : s.Books) : s.issue.Books := by
  rcases s.issue_holds with he | ⟨hi, hport, hawait, -, htask⟩
  · exact he.symm ▸ hb
  · have hnone : s.awaiting = none := by
      cases ha : s.awaiting with
      | none => rfl
      | some i =>
        obtain ⟨members, floorPct, hat, -, -⟩ := hb.awaiting ha
        obtain ⟨rest, ht⟩ := hat.task
        rw [hi] at ht
        cases ht
    refine ⟨hport ▸ hb.port, ?_, ?_, fun hj => by simp [hawait, hnone] at hj⟩
    · intro chans putBack checks giveBack ht
      rcases htask with ⟨f, hf⟩ | ⟨w, giveBack', hw, hheld⟩
      · have hp := start_force_plain f
        rw [← hf, ht] at hp
        exact hp.elim
      · rw [hw] at ht
        obtain ⟨htt, -⟩ := Stage.writing.inj ht
        obtain ⟨rfl, -, -⟩ := Task.writing.inj htt
        exact hheld
    · intro members floorPct rest ht
      rcases htask with ⟨f, hf⟩ | ⟨w, giveBack', hw, -⟩
      · have hp := start_force_plain f
        rw [← hf, ht] at hp
        exact hp.elim
      · rw [hw] at ht
        cases ht

theorem Books.step {s : EmergencyBackend} (hb : s.Books) {e : EmergencyEvent} (he : s.Allowed e) : (s.step e).Books := by
  rcases step_cases he with h | ⟨channel, pct, rfl⟩ | ⟨sent, rfl⟩ | rfl | rfl
  · exact h.books hb
  · refine ⟨hb.port.call channel pct, hb.writing, hb.unnamed, fun {i} hi => ?_⟩
    obtain ⟨members, floorPct, hat, -, -⟩ := hb.awaiting (i := i) hi
    have hsent := hat.sent
    rw [show s.port.inFlight = none from he] at hsent
    cases hsent
  · exact hb.reply sent
  · exact hb.issue
  · exact hb.turn he

/-! ### Taking -/

theorem takes_held {s : EmergencyBackend} (hb : s.Books) {i : Ch} {e : EmergencyEvent} (h : s.Takes i e) :
    (s.step e).held i = true := by
  cases e with
  | force f =>
    obtain ⟨hr, hi⟩ := h
    have hheld := s.hold_held (fun i => f.targets.contains i) (i := i) (.inr (by simpa using hi))
    have hstep : s.step (.force f) = (s.hold fun i => f.targets.contains i).enqueue (.force f) := by
      simp [step, force, hr]
    rw [hstep]
    exact (enqueue_aside _ _).held i hheld
  | turn =>
    obtain ⟨hf, hp, giveBack, putBack, checks, ⟨pct, chans, ht⟩ | ⟨duty, ht, hd⟩⟩ := h
    · have hi := hb.writing ht _ List.mem_cons_self i rfl
      simpa [step, turn, ht, turnWriting] using hi
    · have hturn : s.port.turn (.writing [] (i :: putBack) checks) =
          ({ s.port.call i duty with putBacks := s.port.putBacks ++ [(i, duty)] }, .writing [] putBack checks) := by
        simp [Port.turn, hf, hp, hd]
      have hlt : s.port.putBacks.length < (s.port.putBacks ++ [(i, duty)]).length := by simp
      simp only [step, turn, ht, turnWriting, hturn]
      rw [if_pos hlt]
      exact s.hold_held _ (.inr (by simp))
  | _ => exact h.elim

/-! ### Releasing -/

/-- While a release waits for its write, nothing but the reply moves what it goes by. -/
theorem awaiting_cases {s : EmergencyBackend} (hb : s.Books) {i : Ch} (ha : s.awaiting = some i) {e : EmergencyEvent}
    (he : s.Allowed e) : (∃ sent, e = .port (.reply sent)) ∨ s.Aside (s.step e) := by
  obtain ⟨members, floorPct, hat, -, -⟩ := hb.awaiting ha
  rcases step_cases he with h | ⟨channel, pct, rfl⟩ | ⟨sent, rfl⟩ | rfl | rfl
  · exact .inr h
  · have hsent := hat.sent
    rw [show s.port.inFlight = none from he] at hsent
    cases hsent
  · exact .inl ⟨sent, rfl⟩
  · obtain ⟨rest, ht⟩ := hat.task
    rcases s.issue_holds with h | ⟨hi, -⟩
    · have hstep : s.step .issue = s := h
      rw [hstep]
      exact .inr ⟨rfl, rfl, rfl, rfl, fun _ h => h⟩
    · rw [hi] at ht
      cases ht
  · rw [show s.awaiting = none from he] at ha
    cases ha

/-- A channel leaves in a release only. -/
theorem leaves {s : EmergencyBackend} (hb : s.Books) {e : EmergencyEvent} (he : s.Allowed e) {i : Ch}
    (hi : s.held i = true) (hout : (s.step e).held i = false) :
    ∃ members floorPct,
      (e = .turn ∧ s.AtRelease members floorPct i ∨ e = .port (.reply none) ∧ s.AtReply members floorPct i) ∧
      members i = false ∧
      (floorPct = 0 ∨
        ((s.step e).port.ctrl.channels i).lastCommandedPct = some (exitDuty (s.port.lastKnownDuty i) floorPct)) := by
  have hstays : (s.step e).held i = true → False := fun h => by simp [h] at hout
  have hdrop : ∀ j, (s.held i = true → (Function.update s.held j false) i = true → False) → j = i := by
    intro j h
    by_contra hne
    exact h hi (by rw [Function.update_of_ne (Ne.symm hne)]; exact hi)
  rcases step_cases he with h | ⟨channel, pct, rfl⟩ | ⟨sent, rfl⟩ | rfl | rfl
  · exact (hstays (h.held i hi)).elim
  · exact (hstays hi).elim
  · have hstep : s.step (.port (.reply sent)) = s.reply sent := rfl
    rw [hstep] at hstays ⊢
    rcases s.reply_cases sent with ⟨j, ha, rfl, hr⟩ | ⟨hr, -⟩ <;> rw [hr] at hstays ⊢
    · obtain rfl := hdrop j fun _ h => hstays h
      obtain ⟨members, floorPct, hat, hm, -⟩ := hb.awaiting ha
      exact ⟨members, floorPct, .inr ⟨rfl, hat⟩, hm, .inr (Port.reply_landed hat.sent)⟩
    · exact (hstays hi).elim
  · have hstep : s.step .issue = s.issue := rfl
    rw [hstep] at hstays
    rcases s.issue_holds with h | ⟨-, -, -, h, -⟩
    · rw [h] at hstays
      exact (hstays hi).elim
    · exact (hstays (h i hi)).elim
  · have hstep : s.step .turn = s.turn := rfl
    rw [hstep] at hstays ⊢
    rcases turn_cases hb he with ⟨-, h, -⟩ | ⟨members, -, -, h, -⟩ | ⟨members, floorPct, rest, ht⟩
    · exact (hstays (h i hi)).elim
    · exact (hstays (h ▸ hi)).elim
    · rcases turnReleasing_cases hb ht with ⟨-, hr⟩ | ⟨-, hr⟩ | ⟨-, -, hr⟩ | ⟨j, rest', rfl, hat, ⟨hthere, hr⟩ | ⟨-, -, hr⟩⟩ <;>
        rw [hr] at hstays ⊢
      · exact (hstays hi).elim
      · exact (hstays hi).elim
      · exact (hstays hi).elim
      · obtain rfl := hdrop j fun _ h => hstays h
        exact ⟨members, floorPct, .inl ⟨rfl, hat⟩, hb.unnamed ht j List.mem_cons_self,
          hthere.imp_right Port.lastCommandedPct_eq_some⟩
      · exact (hstays hi).elim

/-- What a turn of a release commands. -/
theorem release_commands {s : EmergencyBackend} (hb : s.Books) {members : Channels} {floorPct : Nat} {rest : List Ch}
    (ht : s.task = .releasing members floorPct rest) :
    (s.step .turn).port = s.port ∨
    ∃ i, s.AtRelease members floorPct i ∧ members i = false ∧ 0 < floorPct ∧
      (s.step .turn).port = s.port.call i (exitDuty (s.port.lastKnownDuty i) floorPct) ∧
      (s.step .turn).AtReply members floorPct i ∧ (s.step .turn).port.lastKnownDuty i = s.port.lastKnownDuty i ∧
      (∀ d, s.port.lastKnownDuty i = some d → d ≤ exitDuty (s.port.lastKnownDuty i) floorPct) ∧
      (s.port.lastKnownDuty i = none → exitDuty (s.port.lastKnownDuty i) floorPct = 100) := by
  have hstep : s.step .turn = s.turn := rfl
  rw [hstep]
  rcases turnReleasing_cases hb ht with ⟨-, hr⟩ | ⟨-, hr⟩ | ⟨-, -, hr⟩ | ⟨i, rest', rfl, hat, ⟨-, hr⟩ | ⟨hpos, hsent, hr⟩⟩ <;>
    rw [hr]
  · exact .inl rfl
  · exact .inl rfl
  · exact .inl rfl
  · exact .inl rfl
  · have hkept := hb.port.call_lastKnownDuty i (exitDuty (s.port.lastKnownDuty i) floorPct) i
    refine .inr ⟨i, hat, hb.unnamed ht i List.mem_cons_self, hpos, rfl, ⟨⟨rest', rfl⟩, rfl, ?_⟩, hkept, ?_, ?_⟩
    · rw [hkept]
      exact hsent
    · intro d hd
      rw [hd]
      exact le_exitDuty (hb.port.lastKnownDuty_le hd) floorPct
    · intro hd
      rw [hd]
      rfl

/-! ### Trying again -/

/-- A pause ends the release before it has come to the channel. -/
structure Interrupted (s : EmergencyBackend) (members : Channels) (i : Ch) : Prop where
  task : ∃ floorPct rest, s.task = .releasing members floorPct rest ∧ i ∈ rest
  free : s.port.inFlight = none
  paused : s.port.paused = true

theorem Ahead.step {s : EmergencyBackend} (hb : s.Books) {members : Channels} {i : Ch} (h : s.Ahead members i)
    {e : EmergencyEvent} (he : s.Allowed e) :
    (e = .turn ∧ ((∃ floorPct, s.AtRelease members floorPct i) ∨ s.Interrupted members i)) ∨
    (s.step e).Ahead members i := by
  rcases step_cases he with ha | ⟨channel, pct, rfl⟩ | ⟨sent, rfl⟩ | rfl | rfl
  · exact .inr (ha.ahead h)
  · exact .inr h
  · right
    have hstep : s.step (.port (.reply sent)) = s.reply sent := rfl
    rw [hstep]
    rcases s.reply_cases sent with ⟨j, ha, -, hr⟩ | ⟨hr, -⟩ <;> rw [hr]
    · rcases h with ⟨ht, -, -⟩ | hrest
      · obtain ⟨m, f, hat, -, -⟩ := hb.awaiting ha
        obtain ⟨rest, ht'⟩ := hat.task
        rw [ht] at ht'
        cases ht'
      · exact .inr hrest
    · exact h
  · right
    have hstep : s.step .issue = s.issue := rfl
    rw [hstep]
    rcases s.issue_holds with hi | ⟨hi, -⟩
    · exact hi.symm ▸ h
    · rcases h with ⟨ht, -, -⟩ | ⟨floorPct, rest, ht, -⟩ <;>
      · rw [hi] at ht
        cases ht
  · have hstep : s.step .turn = s.turn := rfl
    rw [hstep]
    rcases turn_cases hb he with ⟨-, -, hno⟩ | ⟨members', ht', -, -, hahead⟩ | ⟨members', floorPct', rest', ht'⟩
    · exact (hno members i h).elim
    · rcases h with ⟨ht, hi, hm⟩ | ⟨floorPct, rest, ht, -⟩
      · rw [ht] at ht'
        obtain rfl := Stage.release.inj ht'
        exact .inr (hahead i hi hm)
      · rw [ht] at ht'
        cases ht'
    · rcases h with ⟨ht, -, -⟩ | ⟨floorPct, rest, ht, hi⟩
      · rw [ht] at ht'
        cases ht'
      · rcases turnReleasing_cases hb ht with
          ⟨rfl, -⟩ | ⟨-, hr⟩ | ⟨hf, hp, -⟩ | ⟨j, rest'', rfl, hat, ⟨-, hr⟩ | ⟨-, -, hr⟩⟩
        · cases hi
        · rw [hr]
          exact .inr (.inr ⟨floorPct, rest, ht, hi⟩)
        · exact .inl ⟨rfl, .inr ⟨⟨floorPct, rest, ht, hi⟩, hf, hp⟩⟩
        · rcases List.mem_cons.mp hi with rfl | hi
          · exact .inl ⟨rfl, .inl ⟨floorPct, hat⟩⟩
          · rw [hr]
            exact .inr (.inr ⟨floorPct, rest'', rfl, hi⟩)
        · rcases List.mem_cons.mp hi with rfl | hi
          · exact .inl ⟨rfl, .inl ⟨floorPct, hat⟩⟩
          · rw [hr]
            exact .inr (.inr ⟨floorPct, rest'', rfl, hi⟩)

/-- A give-back comes to every held channel it does not name, unless a pause ends it first. -/
theorem ahead_run {s : EmergencyBackend} (hb : s.Books) {members : Channels} {i : Ch} (h : s.Ahead members i) :
    ∀ {es : List EmergencyEvent}, Machine.Along EmergencyBackend.step Allowed s es →
      (Machine.run EmergencyBackend.step s es).Ahead members i ∨
      ∃ mid after, es = mid ++ .turn :: after ∧
        ((∃ floorPct, (Machine.run EmergencyBackend.step s mid).AtRelease members floorPct i) ∨
          (Machine.run EmergencyBackend.step s mid).Interrupted members i) := by
  intro es hG
  induction es generalizing s with
  | nil => exact .inl h
  | cons e es ih =>
    obtain ⟨he, hG⟩ := hG
    rcases h.step hb he with ⟨rfl, hnow⟩ | h'
    · exact .inr ⟨[], es, rfl, hnow⟩
    · rcases ih (hb.step he) h' hG with hend | ⟨mid, after, rfl, hnow⟩
      · exact .inl hend
      · exact .inr ⟨e :: mid, after, rfl, hnow⟩

/-- The next tick asks for a give-back as long as a held channel is not named. -/
theorem tick_asks {s : EmergencyBackend} {i : Ch} (hi : s.held i = true) {members : Channels} (hm : members i = false)
    (hq : s.queued = none) (w : Work) : (s.step (.tick w members)).queued = some (.write w (some members)) := by
  have hany : ((List.finRange numChannels).any fun i => s.held i && !members i) = true :=
    List.any_eq_true.mpr ⟨i, List.mem_finRange i, by simp [hi, hm]⟩
  simp [step, tick, hany, enqueue, hq]

/-- **A released channel is never lowered and never forgotten.** In every state of every run from a fresh
controller, before a stop latches its floor:
* a channel an ordinary tick writes or puts back, or a members-only force names, is held;
* a held channel is let go only in a release, of a member set that does not name it, and only if the exit floor
  is 0 or the last landed command is the exit duty of the last known duty;
* a turn of a release does nothing to the controller, or commands that exit duty, at least the last known duty and
  100 % where it is unknown; until the reply what it goes by stays as it is;
* a failed write and a pause leave the channel held; the next tick that does not name a held channel asks for a
  give-back, and a give-back comes to every such channel unless a pause ends it first. -/
theorem held_until_released (q : Port) (hq : q.ctrl = .new) (hf : q.inFlight = none) (exitFloor : Nat)
    (es : List EmergencyEvent) (hes : Machine.Along step Allowed (start q exitFloor) es) :
    let s := Machine.run step (start q exitFloor) es
    (∀ i e, s.Takes i e → (s.step e).held i = true) ∧
    (∀ i e, s.Allowed e → s.held i = true → (s.step e).held i = false →
      ∃ members floorPct,
        (e = .turn ∧ s.AtRelease members floorPct i ∨ e = .port (.reply none) ∧ s.AtReply members floorPct i) ∧
        members i = false ∧
        (floorPct = 0 ∨
          ((s.step e).port.ctrl.channels i).lastCommandedPct = some (exitDuty (s.port.lastKnownDuty i) floorPct))) ∧
    (∀ members floorPct rest, s.task = .releasing members floorPct rest →
      (s.step .turn).port = s.port ∨
      ∃ i, s.AtRelease members floorPct i ∧ members i = false ∧ 0 < floorPct ∧
        (s.step .turn).port = s.port.call i (exitDuty (s.port.lastKnownDuty i) floorPct) ∧
        (s.step .turn).AtReply members floorPct i ∧ (s.step .turn).port.lastKnownDuty i = s.port.lastKnownDuty i ∧
        (∀ d, s.port.lastKnownDuty i = some d → d ≤ exitDuty (s.port.lastKnownDuty i) floorPct) ∧
        (s.port.lastKnownDuty i = none → exitDuty (s.port.lastKnownDuty i) floorPct = 100)) ∧
    (∀ i e, s.awaiting = some i → s.Allowed e → (∀ sent, e ≠ .port (.reply sent)) →
      (s.step e).awaiting = some i ∧ (s.step e).task = s.task ∧
      (s.step e).port.lastKnownDuty i = s.port.lastKnownDuty i) ∧
    (∀ i err, s.held i = true → (s.step (.port (.reply (some err)))).held i = true) ∧
    (∀ i, s.awaiting = none → s.held i = true → s.port.paused = true → (s.step .turn).held i = true) ∧
    (∀ i members w, s.held i = true → members i = false → s.queued = none →
      (s.step (.tick w members)).queued = some (.write w (some members))) ∧
    (∀ i members es', s.task = .release members → s.held i = true → members i = false →
      Machine.Along step Allowed s es' →
      (Machine.run step s es').Ahead members i ∨
      ∃ mid after, es' = mid ++ .turn :: after ∧
        ((∃ floorPct, (Machine.run step s mid).AtRelease members floorPct i) ∨
          (Machine.run step s mid).Interrupted members i)) := by
  intro s
  have hb : s.Books := Machine.run_inv_of (fun _ _ h he => h.step he) _ es (books_start hq hf exitFloor) hes
  refine ⟨fun i e h => takes_held hb h, fun i e he hi hout => leaves hb he hi hout,
    fun members floorPct rest ht => release_commands hb ht, fun i e ha he hno => ?_, fun i err hi => ?_,
    fun i ha hi hp => ?_, fun i members w hi hm hq => tick_asks hi hm hq w,
    fun i members es' ht hi hm hG => ahead_run hb (.inl ⟨ht, hi, hm⟩) hG⟩
  · rcases awaiting_cases hb ha he with ⟨sent, rfl⟩ | h
    · exact absurd rfl (hno sent)
    · exact ⟨h.awaiting.trans ha, h.task, h.lastKnownDuty i⟩
  · cases hout : (s.step (.port (.reply (some err)))).held i with
    | true => rfl
    | false =>
      obtain ⟨-, -, ⟨he, -⟩ | ⟨he, -⟩, -, -⟩ := leaves hb (e := .port (.reply (some err))) trivial hi hout <;> cases he
  · cases hout : (s.step .turn).held i with
    | true => rfl
    | false =>
      obtain ⟨members, floorPct, ⟨-, hat⟩ | ⟨he, -⟩, -, -⟩ := leaves hb (e := .turn) ha hi hout
      · rw [hat.unpaused] at hp
        cases hp
      · cases he

/-- A tick commands channel 0 at 20 %; the next names no channel, and the exit floor is 30 %. -/
def releaseRun : List EmergencyEvent :=
  [.tick ⟨[(0, 20)], []⟩ (· == 0), .issue, .turn, .port (.reply none), .turn, .tick ⟨[], []⟩ fun _ => false, .issue, .turn,
    .turn, .turn]

theorem held_until_released_raised :
    let s := Machine.run step (start ⟨.new, ⟨0, .empty⟩, 0, false, none, []⟩ 30) releaseRun
    s.held 0 = true ∧ (s.step (.port (.reply none))).held 0 = false ∧
    ∃ members floorPct, s.AtReply members floorPct 0 ∧ members 0 = false ∧
      (floorPct = 0 ∨ ((s.step (.port (.reply none))).port.ctrl.channels 0).lastCommandedPct =
        some (exitDuty (s.port.lastKnownDuty 0) floorPct)) := by
  intro s
  have hheld : s.held 0 = true := by decide
  have hout : (s.step (.port (.reply none))).held 0 = false := by decide
  obtain ⟨members, floorPct, ⟨he, -⟩ | ⟨-, hat⟩, hm, hland⟩ :=
    (held_until_released ⟨.new, ⟨0, .empty⟩, 0, false, none, []⟩ rfl rfl 30 releaseRun (by decide)).2.1
      0 (.port (.reply none)) trivial hheld hout
  · cases he
  · exact ⟨hheld, hout, members, floorPct, hat, hm, hland⟩

end EmergencyBackend

end ControlOfc.OpenFan
