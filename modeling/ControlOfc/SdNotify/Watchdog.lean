import ControlOfc.SdNotify.Notifier
import Mathlib.Data.List.Induction
/-! # A stop disarms for good, a sleep does not leave the watchdog wide

Every value but the stop's is sent behind the lock after a look at the flag, so none follows the stop. A
delivered widening has a deadline from the moment `watch_sleep` takes its outcome: until then it has none, and
the time the join took is added to it.
-/
namespace ControlOfc.SdNotify
open Prog

/-! ## Logs -/

@[simp] theorem valueAfter_append (initial : Option Nat) (log : List Sent) (a : Sent) :
    valueAfter initial (log ++ [a]) =
      if a.delivered then a.message.watchdogUsec.or (valueAfter initial log) else valueAfter initial log := by
  simp [valueAfter]

theorem isWide_append (log : List Sent) (a : Sent) :
    isWide (log ++ [a]) = if a.delivered then
      match a.sender with
      | .sleep .entering => true
      | .sleep .resumed => false
      | _ => isWide log else isWide log := by
  unfold isWide
  rw [List.foldl_append]
  rfl

theorem transitionUsec_pos (configured : ℕ+) (t : SleepTransition) : 0 < transitionUsec configured t := by
  have hpos := configured.pos
  cases t with
  | entering =>
    simp only [transitionUsec]
    omega
  | resumed => exact hpos

/-! ## The invariant -/

/-- A narrowing is due: at most the fallback after the outcome of a widening was taken, or at most the retry
after that of a failed narrowing. -/
def Due (fallback : Nat) (w : World) : Prop :=
  ∃ deadline, w.narrowAt = some deadline ∧
    ((∃ taken, w.widenTakenAt = some taken ∧ deadline ≤ taken + fallback) ∨
      ∃ taken, w.failTakenAt = some taken ∧ deadline ≤ taken + sleepRestoreRetry)

/-- `watch_sleep` is about to narrow, has yet to take the outcome of a delivered widening or of a failed
narrowing, or has a narrowing due. -/
def Narrows (fallback : Nat) (w : World) : Prop :=
  match w.sleep with
  | .chosen .resumed | .running .resumed _ => True
  | .running .entering true | .done .entering .sent | .done .resumed .failed => True
  | _ => Due fallback w

/-- A tick looked at the flag before the stop, and after the last message of the tick before it. -/
def LookedAt (w : World) (checkedAt : Nat) : Prop :=
  checkedAt < w.events ∧ (∀ n, w.stoppedAt = some n → checkedAt < n) ∧
    ∀ a ∈ w.log, a.sender = .engine → a.sentAt < checkedAt

/-- What a tick under way has found and what it is to send. -/
def EngineSound (w : World) : Prop :=
  match w.engine with
  | .idle => True
  | .checked checkedAt => LookedAt w checkedAt
  | .sending checkedAt _ message =>
    LookedAt w checkedAt ∧ message.watchdogUsec = none ∧ (message.keepAlive = true → w.watchdog.isSome = true)

structure Inv (fallback : Nat) (w : World) : Prop where
  stopped : w.stopping = w.stoppedAt.isSome
  earlier : ∀ a ∈ w.log, a.checkedAt < w.events ∧ a.sentAt < w.events
  engineSent : ∀ a ∈ w.log, a.sender = .engine → a.message.watchdogUsec = none ∧
    (a.message.keepAlive = true → w.watchdog.isSome = true) ∧ ∀ n, w.stoppedAt = some n → a.checkedAt < n
  oneTick : w.log.Pairwise fun a b => a.sender = .engine → b.sender = .engine → a.sentAt < b.checkedAt
  sleepSent : ∀ a ∈ w.log, ∀ t, a.sender = .sleep t →
    (∃ configured, w.watchdog = some configured ∧ a.message = sleepMessage configured t) ∧
      ∀ n, w.stoppedAt = some n → a.sentAt < n
  stopSent : ∀ a ∈ w.log, a.sender = .stop → a.message = stopMessage ∧ w.stopping = true
  value : (∃ a ∈ w.log, a.delivered = true ∧ a.sender = .stop) → w.value = some 0
  engine : EngineSound w
  narrows : isWide w.log = true → w.stopping = false → Narrows fallback w
  skipped : ∀ t, w.sleep = .done t .skipped → w.stopping = true ∨ w.watchdog = none
  narrowed : w.sleep = .running .resumed true ∨ w.sleep = .done .resumed .sent → isWide w.log = false

section Sending

variable {fallback : Nat} {w : World}

theorem Inv.watchdog_of_wide (h : Inv fallback w) (hwide : isWide w.log = true) : w.watchdog.isSome = true := by
  by_contra hnone
  have hnever : ∀ a ∈ w.log, ∀ t, a.sender ≠ .sleep t := by
    intro a ha t hs
    obtain ⟨⟨configured, hc, -⟩, -⟩ := h.sleepSent a ha t hs
    simp [hc] at hnone
  have hnot : ∀ log : List Sent, (∀ a ∈ log, ∀ t, a.sender ≠ .sleep t) → isWide log = false := by
    intro log hlog
    induction log using List.reverseRecOn with
    | nil => rfl
    | append_singleton log a ih =>
      have ha := hlog a (List.mem_append_right _ (List.mem_singleton_self a))
      rw [isWide_append, ih fun b hb => hlog b (List.mem_append_left _ hb)]
      cases hs : a.sender with
      | sleep t => exact absurd hs (ha t)
      | _ => simp
  rw [hnot _ hnever] at hwide
  cases hwide

theorem forall_appended {P : Sent → Prop} {a : Sent} (hold : ∀ b ∈ w.log, P b) (hnew : P a) : ∀ b ∈ w.log ++ [a], P b :=
  List.forall_mem_append.mpr ⟨hold, List.forall_mem_singleton.mpr hnew⟩

theorem Inv.earlier_sending (h : Inv fallback w) {checkedAt : Nat} (hless : checkedAt ≤ w.events) (sender : Sender)
    (message : Message) (c : SendResult) : ∀ a ∈ (w.sending sender message checkedAt c).log,
      a.checkedAt < w.events + 1 ∧ a.sentAt < w.events + 1 :=
  forall_appended (fun a ha => ⟨Nat.lt_succ_of_lt (h.earlier a ha).1, Nat.lt_succ_of_lt (h.earlier a ha).2⟩)
    ⟨Nat.lt_succ_of_le hless, Nat.lt_succ_self _⟩

/-- A tick under way stays sound while the events go on. -/
theorem EngineSound.later {w' : World} (h : EngineSound w) (hengine : w'.engine = w.engine)
    (hlooked : ∀ n, LookedAt w n → LookedAt w' n) (hwatchdog : w'.watchdog = w.watchdog) : EngineSound w' := by
  unfold EngineSound at h ⊢
  rw [hengine, hwatchdog]
  cases he : w.engine with
  | idle => trivial
  | checked n =>
    rw [he] at h
    exact hlooked n h
  | sending n due message =>
    rw [he] at h
    exact ⟨hlooked n h.1, h.2⟩

theorem LookedAt.sending {n : Nat} (h : LookedAt w n) {sender : Sender} (hs : ¬ sender = .engine) (message : Message)
    (checkedAt : Nat) (c : SendResult) : LookedAt (w.sending sender message checkedAt c) n :=
  ⟨h.1.trans (Nat.lt_succ_self _), h.2.1, forall_appended h.2.2 fun ha => absurd ha hs⟩

/-- Only the engine's own messages are ordered among themselves. -/
theorem oneTick_append {log : List Sent} {a : Sent}
    (h : log.Pairwise fun a b => a.sender = .engine → b.sender = .engine → a.sentAt < b.checkedAt)
    (ha : a.sender = .engine → ∀ b ∈ log, b.sender = .engine → b.sentAt < a.checkedAt) :
    (log ++ [a]).Pairwise fun a b => a.sender = .engine → b.sender = .engine → a.sentAt < b.checkedAt := by
  refine List.pairwise_append.mpr ⟨h, List.pairwise_singleton _ _, ?_⟩
  intro b hb a' ha' hsb hsa
  rw [List.mem_singleton.mp ha'] at hsa ⊢
  exact ha hsa b hb hsb

/-- An engine's message changes neither the value nor the width. -/
theorem Inv.sending_engine (h : Inv fallback w) {checkedAt : Nat} {message : Message} (hlook : LookedAt w checkedAt) (husec : message.watchdogUsec = none)
    (hkeep : message.keepAlive = true → w.watchdog.isSome = true) (c : SendResult) :
    Inv fallback { w.sending .engine message checkedAt c with engine := .idle } := by
  have hwide : isWide (w.sending .engine message checkedAt c).log = isWide w.log := by
    simp [World.sending, isWide_append]
  have hvalue : (w.sending .engine message checkedAt c).value = w.value := by
    simp [World.value, World.sending, husec]
  refine ⟨h.stopped, h.earlier_sending hlook.1.le _ _ c, forall_appended h.engineSent fun _ => ⟨husec, hkeep, hlook.2.1⟩,
    oneTick_append h.oneTick fun _ => hlook.2.2, forall_appended h.sleepSent nofun, forall_appended h.stopSent nofun, ?_, trivial, ?_, h.skipped, ?_⟩
  · rintro ⟨a, ha, hd, hs⟩
    refine hvalue.trans (h.value ?_)
    rcases List.mem_append.mp ha with ha | ha
    · exact ⟨a, ha, hd, hs⟩
    · rw [List.mem_singleton.mp ha] at hs
      cases hs
  · intro hw hst
    rw [hwide] at hw
    exact h.narrows hw hst
  · intro ht
    exact hwide.trans (h.narrowed ht)

/-- The stop's message sets the value to zero, if it lands. -/
theorem Inv.sending_stop (h : Inv fallback w) (hst : w.stopping = true) (c : SendResult) :
    Inv fallback (w.sending .stop stopMessage w.events c) := by
  refine ⟨h.stopped, h.earlier_sending le_rfl _ _ c, forall_appended h.engineSent nofun,
    oneTick_append h.oneTick nofun, forall_appended h.sleepSent nofun,
    forall_appended h.stopSent fun _ => ⟨rfl, hst⟩, ?_, h.engine.later rfl (fun _ hn => hn.sending (by simp) _ _ c) rfl, ?_, fun _ _ => .inl hst, ?_⟩
  · rintro ⟨a, ha, hd, hs⟩
    by_cases hc : c = .ok
    · simp [World.value, World.sending, hc, stopMessage]
    · have hvalue : (w.sending .stop stopMessage w.events c).value = w.value := by
        simp [World.value, World.sending, hc]
      refine hvalue.trans (h.value ?_)
      rcases List.mem_append.mp ha with ha | ha
      · exact ⟨a, ha, hd, hs⟩
      · rw [List.mem_singleton.mp ha] at hd
        simp [hc] at hd
  · intro _ hrun
    have hrun' : w.stopping = false := hrun
    rw [hst] at hrun'
    cases hrun'
  · intro ht
    have hold := h.narrowed ht
    simpa [World.sending, isWide_append] using hold

/-- A transition's message, before the stop. -/
theorem Inv.sending_sleep (h : Inv fallback w) (hst : w.stopping = false) {configured : ℕ+} (hc : w.watchdog = some configured)
    {t : SleepTransition} {landed : Bool} (hrun : w.sleep = .running t landed) (c : SendResult) :
    Inv fallback (w.sending (.sleep t) (sleepMessage configured t) w.events c) := by
  have hnone : w.stoppedAt = none := by
    have hsome := h.stopped
    rw [hst] at hsome
    exact Option.not_isSome_iff_eq_none.mp (by rw [← hsome]; exact Bool.false_ne_true)
  have hsleep : (w.sending (.sleep t) (sleepMessage configured t) w.events c).sleep = .running t (landed || c = .ok) := by
    simp [World.sending, hrun]
  refine ⟨h.stopped, h.earlier_sending le_rfl _ _ c, forall_appended h.engineSent nofun,
    oneTick_append h.oneTick nofun, ?_, forall_appended h.stopSent nofun,
    ?_, h.engine.later rfl (fun _ hn => hn.sending (by simp) _ _ c) rfl, ?_, ?_, ?_⟩
  · refine forall_appended h.sleepSent fun t' ht => ?_
    obtain rfl := Sender.sleep.inj ht
    refine ⟨⟨configured, hc, rfl⟩, fun n hn => ?_⟩
    rw [show w.stoppedAt = some n from hn] at hnone
    cases hnone
  · rintro ⟨a, ha, -, hs⟩
    rcases List.mem_append.mp ha with ha | ha
    · have hstopped := (h.stopSent a ha hs).2
      rw [hst] at hstopped
      cases hstopped
    · rw [List.mem_singleton.mp ha] at hs
      cases hs
  · intro hwide _
    unfold Narrows
    rw [hsleep]
    cases t with
    | resumed => trivial
    | entering =>
      by_cases hok : c = .ok
      · simp [hok]
      · have hsame : isWide w.log = true := by simpa [World.sending, isWide_append, hok] using hwide
        have hold := h.narrows hsame hst
        unfold Narrows at hold
        rw [hrun] at hold
        cases landed with
        | true => trivial
        | false =>
          rw [show (false || decide (c = .ok)) = false by simp [hok]]
          exact hold
  · intro t' ht
    rw [hsleep] at ht
    cases ht
  · intro ht
    rw [hsleep] at ht
    rcases ht with ht | ht
    · obtain ⟨rfl, hlanded⟩ := SleepPhase.running.inj ht
      by_cases hok : c = .ok
      · simp [World.sending, isWide_append, hok]
      · have hwas : landed = true := by simpa [hok] using hlanded
        rw [hwas] at hrun
        have hold := h.narrowed (.inl hrun)
        simpa [World.sending, isWide_append, hok] using hold
    · cases ht

end Sending

/-! ## What happens beside the lock -/

section BesideLock

variable {fallback : Nat} {w : World}

theorem Inv.tickCount (h : Inv fallback w) : Inv fallback (w.beside fallback .tickCount) := by
  unfold World.beside
  dsimp only
  cases he : w.engine with
  | idle => exact h
  | sending n due message => exact h
  | checked n =>
    have hsound := h.engine
    unfold EngineSound at hsound
    rw [he] at hsound
    refine ⟨h.stopped, h.earlier, h.engineSent, h.oneTick, h.sleepSent, h.stopSent, h.value, ?_, h.narrows, h.skipped, h.narrowed⟩
    unfold EngineSound tickMessage
    dsimp only
    split
    · trivial
    · next heq =>
      split at heq <;> cases heq
    · next heq =>
      split at heq
      · next message hmessage =>
        obtain ⟨rfl, -, rfl⟩ := EnginePhase.sending.inj heq
        split at hmessage
        · obtain rfl := Option.some.inj hmessage
          exact ⟨hsound, rfl, id⟩
        · cases hmessage
      · cases heq

/-- Taking an outcome leaves a deadline wherever one is needed. -/
theorem Inv.join (h : Inv fallback w) : Inv fallback (w.beside fallback .join) := by
  unfold World.beside
  dsimp only
  cases hs : w.sleep with
  | done t outcome =>
    refine ⟨h.stopped, h.earlier, h.engineSent, h.oneTick, h.sleepSent, h.stopSent, h.value, h.engine, ?_, nofun, ?_⟩
    · intro hwide hst
      have hold := h.narrows hwide hst
      unfold Narrows at hold ⊢
      rw [hs] at hold
      dsimp only at hold ⊢
      cases outcome with
      | skipped =>
        rcases h.skipped t hs with hstop | hnone
        · rw [show w.stopping = false from hst] at hstop
          cases hstop
        · have hsome := h.watchdog_of_wide hwide
          rw [hnone] at hsome
          cases hsome
      | sent =>
        cases t with
        | entering => exact ⟨_, rfl, .inl ⟨w.now, by simp, le_refl _⟩⟩
        | resumed =>
          have hnarrow := h.narrowed (.inr hs)
          rw [show isWide w.log = true from hwide] at hnarrow
          cases hnarrow
      | failed =>
        cases t with
        | resumed => exact ⟨_, rfl, .inr ⟨w.now, by simp, le_refl _⟩⟩
        | entering =>
          obtain ⟨deadline, hd, hbound⟩ := hold
          refine ⟨deadline, hd, ?_⟩
          simpa using hbound
    · rintro (ht | ht) <;> cases ht
  | _ => exact h

theorem Inv.beside (h : Inv fallback w) (m : Beside) : Inv fallback (w.beside fallback m) := by
  cases m with
  | elapse d =>
    exact ⟨h.stopped, h.earlier, h.engineSent, h.oneTick, h.sleepSent, h.stopSent, h.value, h.engine, h.narrows, h.skipped, h.narrowed⟩
  | tickCheck =>
    unfold World.beside
    dsimp only
    cases he : w.engine with
    | idle =>
      dsimp only
      split
      · exact h
      · next hrun =>
        refine ⟨h.stopped, ?_, h.engineSent, h.oneTick, h.sleepSent, h.stopSent, h.value,
          ⟨Nat.lt_succ_self _, ?_, fun a ha _ => (h.earlier a ha).2⟩, h.narrows, h.skipped, h.narrowed⟩
        · exact fun a ha => ⟨Nat.lt_succ_of_lt (h.earlier a ha).1, Nat.lt_succ_of_lt (h.earlier a ha).2⟩
        · intro n hn
          have hstop := h.stopped
          rw [show w.stoppedAt = some n from hn] at hstop
          exact absurd hstop hrun
    | _ => exact h
  | tickCount => exact h.tickCount
  | tickSend c =>
    unfold World.beside
    dsimp only
    cases he : w.engine with
    | sending n due message =>
      have hsound := h.engine
      unfold EngineSound at hsound
      rw [he] at hsound
      have hsent := h.sending_engine hsound.1 hsound.2.1 hsound.2.2 c
      exact ⟨hsent.stopped, hsent.earlier, hsent.engineSent, hsent.oneTick, hsent.sleepSent, hsent.stopSent, hsent.value, trivial,
        hsent.narrows, hsent.skipped, hsent.narrowed⟩
    | _ => exact h
  | event t =>
    unfold World.beside
    dsimp only
    split
    · next hs =>
      refine ⟨h.stopped, h.earlier, h.engineSent, h.oneTick, h.sleepSent, h.stopSent, h.value, h.engine, ?_, nofun, ?_⟩
      · intro hwide hst
        have hold := h.narrows hwide hst
        unfold Narrows at hold ⊢
        rw [hs] at hold
        cases t with
        | resumed => trivial
        | entering => exact hold
      · rintro (ht | ht) <;> cases ht
    · exact h
  | fallback =>
    unfold World.beside
    dsimp only
    split
    · split
      · refine ⟨h.stopped, h.earlier, h.engineSent, h.oneTick, h.sleepSent, h.stopSent, h.value, h.engine, fun _ _ => trivial, nofun, ?_⟩
        rintro (ht | ht) <;> cases ht
      · exact h
    · exact h
  | join => exact h.join

end BesideLock

/-! ## The calls -/

/-- What a step beside the lock leaves as it is. -/
def SameStop (w w' : World) : Prop :=
  w'.stopping = w.stopping ∧ w'.watchdog = w.watchdog ∧ ∀ t landed, w.sleep = .running t landed ↔ w'.sleep = .running t landed

theorem SameStop.refl (w : World) : SameStop w w := ⟨rfl, rfl, fun _ _ => Iff.rfl⟩

theorem SameStop.trans {u v w : World} (h : SameStop u v) (h' : SameStop v w) : SameStop u w :=
  ⟨h'.1.trans h.1, h'.2.1.trans h.2.1, fun t landed => (h.2.2 t landed).trans (h'.2.2 t landed)⟩

theorem sameStop_beside (fallback : Nat) (w : World) (m : Beside) : SameStop w (w.beside fallback m) := by
  cases m with
  | elapse d => exact .refl w
  | tickCheck =>
    unfold World.beside
    dsimp only
    split
    · split <;> exact .refl w
    · exact .refl w
  | tickCount =>
    unfold World.beside
    dsimp only
    split <;> exact .refl w
  | tickSend c =>
    unfold World.beside
    dsimp only
    split <;> exact .refl w
  | event t =>
    unfold World.beside
    dsimp only
    split
    · next hs => exact ⟨rfl, rfl, fun t' landed => by simp [hs]⟩
    · exact .refl w
  | fallback =>
    unfold World.beside
    dsimp only
    split
    · next hs _ =>
      split
      · exact ⟨rfl, rfl, fun t' landed => by simp [hs]⟩
      · exact .refl w
    · exact .refl w
  | join =>
    unfold World.beside
    dsimp only
    split
    · next hs => exact ⟨rfl, rfl, fun t' landed => by simp [hs]⟩
    · exact .refl w

/-- No transition's task has the lock. -/
def Settled (w : World) : Prop := ∀ t landed, w.sleep ≠ .running t landed

/-- What a call may ask for, and when. -/
def Allowed (_ : Task) (e : Effect) (w : World) : Prop :=
  match e with
  | .send .stop message => message = stopMessage ∧ w.stopping = true
  | .send (.sleep t) message => w.stopping = false ∧
      ∃ configured landed, w.watchdog = some configured ∧ message = sleepMessage configured t ∧ w.sleep = .running t landed
  | .send .engine _ => False
  | _ => True

/-- What a call ends in. -/
def Ends (j : Task) (outcome : Option SleepOutcome) (w : World) : Prop :=
  match j with
  | .sleep t => ∃ o landed, outcome = some o ∧ w.sleep = .running t landed ∧ (o = .sent → landed = true) ∧
      (o = .failed → landed = false) ∧ (o = .skipped → w.stopping = true ∨ w.watchdog = none)
  | _ => Settled w

theorem Inv.exec {fallback : Nat} {w : World} (h : Inv fallback w) {j : Task} {e : Effect} (ha : Allowed j e w)
    (c : SendResult) : Inv fallback (w.exec e c).2 := by
  cases e with
  | setStopping =>
    have hbefore : ∀ m, m < w.events → (∀ n, w.stoppedAt = some n → m < n) →
        ∀ n, some (w.stoppedAt.getD w.events) = some n → m < n := by
      intro m hless hold n hn
      obtain rfl := Option.some.inj hn
      cases hs : w.stoppedAt with
      | none => exact hless
      | some k => exact hold k hs
    refine ⟨rfl, ?_, ?_, h.oneTick, ?_, fun a ha hs => ⟨(h.stopSent a ha hs).1, rfl⟩, h.value, ?_, nofun, fun _ _ => .inl rfl, h.narrowed⟩
    · exact fun a ha => ⟨Nat.lt_succ_of_lt (h.earlier a ha).1, Nat.lt_succ_of_lt (h.earlier a ha).2⟩
    · intro a ha hs
      obtain ⟨husec, hkeep, hstop⟩ := h.engineSent a ha hs
      exact ⟨husec, hkeep, hbefore _ (h.earlier a ha).1 hstop⟩
    · intro a ha t hs
      obtain ⟨hmessage, hstop⟩ := h.sleepSent a ha t hs
      exact ⟨hmessage, hbefore _ (h.earlier a ha).2 hstop⟩
    · refine h.engine.later rfl (fun n hn => ⟨hn.1.trans (Nat.lt_succ_self _), ?_, hn.2.2⟩) rfl
      exact hbefore n hn.1 hn.2.1
  | loadStopping => exact h
  | loadDisarmed => exact h
  | setDisarmed =>
    exact ⟨h.stopped, h.earlier, h.engineSent, h.oneTick, h.sleepSent, h.stopSent, h.value, h.engine, h.narrows, h.skipped, h.narrowed⟩
  | send sender message =>
    cases sender with
    | engine => exact ha.elim
    | stop =>
      obtain ⟨rfl, hst⟩ := ha
      exact h.sending_stop hst c
    | sleep t =>
      obtain ⟨hst, configured, landed, hc, rfl, hrun⟩ := ha
      exact h.sending_sleep hst hc hrun c

section Calls

variable {A : Effect → World → Prop} {P : World → Prop} {Q : Bool → World → Prop}

/-- Sending until it lands, fails, or the retries are used up. -/
theorem sendOnce_spec {sender : Sender} {message : Message} (hA : ∀ w, P w → A (.send sender message) w)
    (hok : ∀ w, P w → Q true (w.sending sender message w.events .ok))
    (hagain : ∀ c w, c ≠ .ok → P w → P (w.sending sender message w.events c)) (hfalse : ∀ w, P w → Q false w)
    (hP : ∀ w w', SameStop w w' → P w → P w') (hQ : ∀ w w', SameStop w w' → Q true w → Q true w') (retries : Nat) :
    Triple World.exec SameStop A P (sendOnce sender message retries) Q := by
  have hsend : Triple World.exec SameStop A P (send sender message) fun c w => if c = .ok then Q true w else P w := by
    refine Triple.ask (R := Answer) (e := Effect.send sender message)
      (Q := fun (c : SendResult) w => if c = .ok then Q true w else P w) hA ?_ ?_
    · intro c w hw
      by_cases hc : c = .ok
      · subst hc
        exact hok w hw
      · rw [if_neg (show ¬ (World.exec (.send sender message) c w).1 = SendResult.ok from hc)]
        exact hagain c w hc hw
    · intro c w w' he hw
      by_cases hc : c = .ok
      · rw [if_pos hc] at hw ⊢
        exact hQ w w' he hw
      · rw [if_neg hc] at hw ⊢
        exact hP w w' he hw
  induction retries with
  | zero =>
    refine .bind hsend fun c => ?_
    cases c with
    | ok => exact .pure fun w hw => hw
    | wouldBlock => exact .pure fun w hw => hfalse w hw
    | error => exact .pure fun w hw => hfalse w hw
  | succ retries ih =>
    refine .bind hsend fun c => ?_
    cases c with
    | ok => exact .pure fun w hw => hw
    | wouldBlock => exact ih
    | error => exact .pure fun w hw => hfalse w hw

end Calls

/-- The stop has begun and no transition's task has the lock. -/
def Stopping (w : World) : Prop := w.stopping = true ∧ Settled w

theorem Settled.sameStop {w w' : World} (he : SameStop w w') (h : Settled w) : Settled w' :=
  fun t landed hrun => h t landed ((he.2.2 t landed).mpr hrun)

theorem Stopping.sameStop {w w' : World} (he : SameStop w w') (h : Stopping w) : Stopping w' :=
  ⟨he.1.trans h.1, h.2.sameStop he⟩

/-- The disarm's own message. -/
theorem sendStop_spec (j : Task) (retries : Nat) :
    Triple World.exec SameStop (Allowed j) Stopping (sendOnce .stop stopMessage retries) fun _ w => Stopping w :=
  @sendOnce_spec (Allowed j) Stopping (fun _ w => Stopping w) .stop stopMessage (fun _ hw => ⟨rfl, hw.1⟩) (fun _ hw => hw)
    (fun _ _ _ hw => hw) (fun _ hw => hw) (fun _ _ he hw => hw.sameStop he) (fun _ _ he hw => hw.sameStop he) retries

/-- The disarm, and its flag once it landed. -/
theorem disarm_spec (j : Task) :
    Triple World.exec SameStop (Allowed j) Stopping
      (do
        if ← sendOnce .stop stopMessage oneShotRetries then perform .setDisarmed
        return none)
      fun (_ : Option SleepOutcome) w => Settled w := by
  refine .bind (sendStop_spec j _) fun landed => ?_
  cases landed with
  | false => exact .pure fun w hw => hw.2
  | true =>
    refine .bind (.ask (Q := fun (_ : Unit) w => Settled w) (fun _ _ => trivial) (fun _ _ hw => hw.2)
      fun _ _ _ he hw => hw.sameStop he) fun _ => .pure fun _ hw => hw

theorem stopping_spec (j : Task) : Triple World.exec SameStop (Allowed j) Settled stopping fun _ w => Settled w :=
  .bind (.ask (Q := fun (_ : Unit) w => Stopping w) (fun _ _ => trivial) (fun _ _ hw => ⟨rfl, hw⟩)
    fun _ _ _ he hw => hw.sameStop he) fun _ => disarm_spec j

theorem resend_spec (j : Task) :
    Triple World.exec SameStop (Allowed j) Settled resendDisarmIfLost fun _ w => Settled w := by
  refine .bind (.ask (Q := fun (stop : Bool) w => stop = w.stopping ∧ Settled w) (fun _ _ => trivial)
    (fun _ _ hw => ⟨rfl, hw⟩) fun _ _ _ he hw => ⟨hw.1.trans he.1.symm, hw.2.sameStop he⟩) fun stop => ?_
  cases stop with
  | false => exact .pure fun w hw => hw.2
  | true =>
    refine .bind (.ask (Q := fun (_ : Bool) w => Stopping w) (fun _ _ => trivial) (fun _ _ hw => ⟨hw.1.symm, hw.2⟩)
      fun _ _ _ he hw => hw.sameStop he) fun disarmed => ?_
    cases disarmed with
    | true => exact .pure fun w hw => hw.2
    | false => exact disarm_spec j

theorem sleep_spec (j : Task) (watchdog : Option ℕ+) (t : SleepTransition) :
    Triple World.exec SameStop (Allowed j) (fun w => w.watchdog = watchdog ∧ w.sleep = .running t false)
      (sleepTransition watchdog t) (Ends (.sleep t)) := by
  cases watchdog with
  | none => exact .pure fun w hw => ⟨.skipped, false, rfl, hw.2, nofun, nofun, fun _ => .inr hw.1⟩
  | some configured =>
    refine .bind (.ask (Q := fun (stop : Bool) w => stop = w.stopping ∧ w.watchdog = some configured ∧ w.sleep = .running t false)
      (fun _ _ => trivial) (fun c w hw => ⟨rfl, hw⟩)
      fun stop w w' he hw => ⟨hw.1.trans he.1.symm, he.2.1.trans hw.2.1, (he.2.2 t false).mp hw.2.2⟩) fun stop => ?_
    cases stop with
    | true => exact .pure fun w hw => ⟨.skipped, false, rfl, hw.2.2, nofun, nofun, fun _ => .inl hw.1.symm⟩
    | false =>
      refine .bind (sendOnce_spec (P := fun w => w.stopping = false ∧ w.watchdog = some configured ∧ w.sleep = .running t false)
        (Q := fun landed w => w.sleep = .running t landed) ?_ ?_ ?_ (fun w hw => hw.2.2) ?_ ?_ _ |>.conseq
          (fun w hw => ⟨hw.1.symm, hw.2⟩) fun _ _ hw => hw) fun landed => ?_
      · exact fun w hw => ⟨hw.1, configured, false, hw.2.1, rfl, hw.2.2⟩
      · intro w hw
        simp [World.sending, hw.2.2]
      · intro c w hc hw
        refine ⟨hw.1, hw.2.1, ?_⟩
        simp [World.sending, hw.2.2, hc]
      · exact fun w w' he hw => ⟨he.1.trans hw.1, he.2.1.trans hw.2.1, (he.2.2 t false).mp hw.2.2⟩
      · exact fun w w' he hw => (he.2.2 t true).mp hw
      · cases landed with
        | true => exact .pure fun w hw => ⟨.sent, true, rfl, hw, fun _ => rfl, nofun, nofun⟩
        | false => exact .pure fun w hw => ⟨.failed, false, rfl, hw, nofun, fun _ => rfl, nofun⟩

theorem rules_sound (fallback : Nat) :
    Locked.Sound (rules fallback) SameStop (Inv fallback) Settled Allowed Ends where
  refl := SameStop.refl
  trans _ _ _ h h' := h.trans h'
  start := by
    intro j w p w' hstart hI hK
    cases j with
    | stopping =>
      obtain ⟨rfl, rfl⟩ := Prod.mk.inj (Option.some.inj hstart)
      exact ⟨hI, fun v hv => stopping_spec .stopping v (hK.sameStop hv)⟩
    | resendDisarmIfLost =>
      obtain ⟨rfl, rfl⟩ := Prod.mk.inj (Option.some.inj hstart)
      exact ⟨hI, fun v hv => resend_spec .resendDisarmIfLost v (hK.sameStop hv)⟩
    | sleep t =>
      have hstart' : (if w.sleep = .chosen t then some (sleepTransition w.watchdog t, { w with sleep := .running t false })
          else none) = some (p, w') := hstart
      split at hstart'
      · next hs =>
        obtain ⟨rfl, rfl⟩ := Prod.mk.inj (Option.some.inj hstart')
        refine ⟨⟨hI.stopped, hI.earlier, hI.engineSent, hI.oneTick, hI.sleepSent, hI.stopSent, hI.value, hI.engine, ?_, nofun, ?_⟩,
          fun v hv => sleep_spec (.sleep t) _ t v ⟨hv.2.1, (hv.2.2 t false).mp rfl⟩⟩
        · intro hwide hst
          have hold := hI.narrows hwide hst
          unfold Narrows at hold ⊢
          rw [hs] at hold
          cases t with
          | resumed => trivial
          | entering => exact hold
        · rintro (ht | ht) <;> cases ht
      · cases hstart'
  exec _ _ c _ hI hA := hI.exec hA c
  finish := by
    intro j outcome w hI hQ
    cases j with
    | stopping => exact ⟨hI, hQ⟩
    | resendDisarmIfLost => exact ⟨hI, hQ⟩
    | sleep t =>
      obtain ⟨o, landed, rfl, hrun, hsent, hfailed, hskipped⟩ := hQ
      refine ⟨⟨hI.stopped, hI.earlier, hI.engineSent, hI.oneTick, hI.sleepSent, hI.stopSent, hI.value, hI.engine, ?_, ?_, ?_⟩, nofun⟩
      · intro hwide hst
        have hold := hI.narrows hwide hst
        unfold Narrows at hold
        rw [hrun] at hold
        unfold Narrows
        cases o with
        | sent =>
          cases t with
          | entering => trivial
          | resumed =>
            obtain rfl := hsent rfl
            have hnarrow := hI.narrowed (.inl hrun)
            rw [show isWide w.log = true from hwide] at hnarrow
            cases hnarrow
        | failed =>
          cases t with
          | resumed => trivial
          | entering =>
            obtain rfl := hfailed rfl
            exact hold
        | skipped =>
          rcases hskipped rfl with hstop | hnone
          · rw [show w.stopping = false from hst] at hstop
            cases hstop
          · have hsome := hI.watchdog_of_wide hwide
            rw [hnone] at hsome
            cases hsome
      · intro t' ht
        obtain ⟨rfl, heq⟩ := SleepPhase.done.inj ht
        exact hskipped heq
      · rintro (ht | ht)
        · cases ht
        · obtain ⟨rfl, heq⟩ := SleepPhase.done.inj ht
          obtain rfl : o = .sent := heq
          obtain rfl := hsent rfl
          exact hI.narrowed (.inl hrun)
  move m w hI := ⟨sameStop_beside fallback w m, hI.beside m⟩
  moveIdle m w hK := hK.sameStop (sameStop_beside fallback w m)

/-! ## Runs -/

theorem start_inv (fallback : Nat) (watchdog : Option ℕ+) :
    Locked.Inv (rules fallback) SameStop (Inv fallback) Settled Allowed Ends (start watchdog) where
  world :=
    { stopped := rfl, earlier := nofun, engineSent := nofun, oneTick := .nil, sleepSent := nofun, stopSent := nofun
      value := by rintro ⟨a, ha, -⟩; cases ha
      engine := trivial, narrows := nofun, skipped := nofun, narrowed := fun _ => rfl }
  idle _ := nofun
  task := nofun

theorem run_sound (fallback : Nat) (watchdog : Option ℕ+) (es : List Event) :
    Inv fallback (Machine.run (step fallback) (start watchdog) es).world := by
  have hstep : ∀ s e, Locked.Inv (rules fallback) SameStop (Inv fallback) Settled Allowed Ends s →
      Locked.Inv (rules fallback) SameStop (Inv fallback) Settled Allowed Ends (step fallback s e) := by
    intro s e hs
    refine hs.step (rules_sound fallback) e.move ?_
    cases e <;> nofun
  have hinv := Machine.run_inv hstep _ es (start_inv fallback watchdog)
  exact hinv.world

/-- What a step does to the log and to the deadline. -/
def Goes (e : Event) (w w' : World) : Prop :=
  w.log <+: w'.log ∧ (w'.narrowAt = w.narrowAt ∨ e = .beside .join ∧ w.sleep ≠ .done .entering .failed)

theorem exec_goes (e : Event) (effect : Effect) (c : SendResult) (w : World) : Goes e w (w.exec effect c).2 := by
  cases effect with
  | send sender message => exact ⟨List.prefix_append _ _, .inl rfl⟩
  | _ => exact ⟨List.prefix_rfl, .inl rfl⟩

theorem beside_goes (fallback : Nat) (w : World) (m : Beside) : Goes (.beside m) w (w.beside fallback m) := by
  cases m with
  | elapse d => exact ⟨List.prefix_rfl, .inl rfl⟩
  | tickSend c =>
    unfold World.beside
    dsimp only
    split
    · exact ⟨List.prefix_append _ _, .inl rfl⟩
    · exact ⟨List.prefix_rfl, .inl rfl⟩
  | join =>
    unfold World.beside
    dsimp only
    split
    · next t outcome hs =>
      refine ⟨List.prefix_rfl, ?_⟩
      by_cases hfail : t = .entering ∧ outcome = .failed
      · obtain ⟨rfl, rfl⟩ := hfail
        exact .inl rfl
      · refine .inr ⟨rfl, fun heq => hfail ?_⟩
        rw [hs] at heq
        exact SleepPhase.done.inj heq
    · exact ⟨List.prefix_rfl, .inl rfl⟩
  | _ =>
    unfold World.beside
    dsimp only
    repeat' split
    all_goals exact ⟨List.prefix_rfl, .inl rfl⟩

theorem step_goes (fallback : Nat) (s : System) (e : Event) : Goes e s.world (step fallback s e).world := by
  obtain h | ⟨j, p, -, h⟩ | ⟨c, effect, -, h⟩ | ⟨j, a, -, h⟩ | ⟨m, hm, h⟩ | ⟨j, hm, -⟩ :=
    Locked.step_world (rules fallback) s e.move
  · rw [show (step fallback s e).world = s.world from h]
    exact ⟨List.prefix_rfl, .inl rfl⟩
  · cases j with
    | sleep t =>
      have h' : (if s.world.sleep = .chosen t then some (sleepTransition s.world.watchdog t,
          { s.world with sleep := .running t false }) else none) = some (p, (step fallback s e).world) := h
      split at h'
      · rw [← (Prod.mk.inj (Option.some.inj h')).2]
        exact ⟨List.prefix_rfl, .inl rfl⟩
      · cases h'
    | _ =>
      rw [show (step fallback s e).world = s.world from (Prod.mk.inj (Option.some.inj h)).2.symm]
      exact ⟨List.prefix_rfl, .inl rfl⟩
  · rw [show (step fallback s e).world = (s.world.exec effect c).2 from h]
    exact exec_goes e effect c s.world
  · rw [show (step fallback s e).world = (rules fallback).finish j a s.world from h]
    cases j <;> exact ⟨List.prefix_rfl, .inl rfl⟩
  · obtain rfl : e = .beside m := by cases e <;> cases hm; rfl
    exact beside_goes fallback s.world m
  · cases e <;> cases hm

theorem log_grows (fallback : Nat) (s : System) (es : List Event) :
    s.world.log <+: (Machine.run (step fallback) s es).world.log :=
  Machine.run_inv (I := fun s' => s.world.log <+: s'.world.log)
    (fun s' e hs => hs.trans (step_goes fallback s' e).1) s es List.prefix_rfl

/-- A disarm has reached systemd. -/
def DisarmDelivered (w : World) : Prop := ∃ a ∈ w.log, a.delivered = true ∧ a.sender = .stop

/-- What holds of the watchdog in a state and after any further events. -/
structure WatchdogHeld (fallback : Nat) (s : System) : Prop where
  disarmed : DisarmDelivered s.world → ∀ es, (Machine.run (step fallback) s es).world.value = some 0
  beforeStop : ∀ a ∈ s.world.log, ∀ usec, a.message.watchdogUsec = some usec → 0 < usec →
    ∀ n, s.world.stoppedAt = some n → a.sentAt < n
  unconfigured : s.world.watchdog = none → ∀ a ∈ s.world.log,
    a.message.keepAlive = false ∧ ∀ usec, a.message.watchdogUsec = some usec → usec = 0
  narrows : isWide s.world.log = true → s.world.stopping = false → Narrows fallback s.world
  deadlineKept : ∀ e, (step fallback s e).world.narrowAt = s.world.narrowAt ∨
    e = .beside .join ∧ s.world.sleep ≠ .done .entering .failed
  ticks : ∀ a ∈ s.world.log, a.sender = .engine →
    a.message.watchdogUsec = none ∧ ∀ n, s.world.stoppedAt = some n → a.checkedAt < n
  lastTick : ∀ n, s.world.stoppedAt = some n →
    s.world.log.Pairwise fun a b => a.sender = .engine → b.sender = .engine → a.sentAt < n

section Held

variable {fallback : Nat} {w : World}

theorem Inv.beforeStop (h : Inv fallback w) {a : Sent} (ha : a ∈ w.log) {usec : Nat} (hu : a.message.watchdogUsec = some usec)
    (hpos : 0 < usec) {n : Nat} (hn : w.stoppedAt = some n) : a.sentAt < n := by
  cases hs : a.sender with
  | engine =>
    rw [(h.engineSent a ha hs).1] at hu
    cases hu
  | stop =>
    rw [(h.stopSent a ha hs).1] at hu
    obtain rfl := Option.some.inj hu
    omega
  | sleep t => exact (h.sleepSent a ha t hs).2 n hn

theorem Inv.unconfigured (h : Inv fallback w) (hnone : w.watchdog = none) {a : Sent} (ha : a ∈ w.log) :
    a.message.keepAlive = false ∧ ∀ usec, a.message.watchdogUsec = some usec → usec = 0 := by
  cases hs : a.sender with
  | engine =>
    obtain ⟨husec, hkeep, -⟩ := h.engineSent a ha hs
    simpa [husec, hnone] using hkeep
  | stop => simp [(h.stopSent a ha hs).1, stopMessage]
  | sleep t =>
    obtain ⟨⟨configured, hc, -⟩, -⟩ := h.sleepSent a ha t hs
    rw [hnone] at hc
    cases hc

/-- A tick after one that sent looked at the flag later still. -/
theorem Inv.lastTick (h : Inv fallback w) {n : Nat} (hn : w.stoppedAt = some n) :
    w.log.Pairwise fun a b => a.sender = .engine → b.sender = .engine → a.sentAt < n := by
  refine h.oneTick.imp_of_mem fun {a b} _ hb hab hsa hsb => ?_
  have hlooked := (h.engineSent b hb hsb).2.2 n hn
  have hless := hab hsa hsb
  omega

end Held

/-- For any watchdog and fallback, whatever the order of the events and whatever the socket answers. -/
theorem watchdog_held (fallback : Nat) (watchdog : Option ℕ+) (es : List Event) :
    WatchdogHeld fallback (Machine.run (step fallback) (start watchdog) es) := by
  have hinv := run_sound fallback watchdog es
  refine
    { disarmed := ?_
      beforeStop := fun a ha usec hu hpos n hn => hinv.beforeStop ha hu hpos hn
      unconfigured := fun hnone a ha => hinv.unconfigured hnone ha
      narrows := hinv.narrows
      deadlineKept := fun e => (step_goes fallback _ e).2
      ticks := fun a ha hs => ⟨(hinv.engineSent a ha hs).1, (hinv.engineSent a ha hs).2.2⟩
      lastTick := fun n hn => hinv.lastTick hn }
  rintro ⟨a, ha, hd, hs⟩ es'
  have hlater := run_sound fallback watchdog (es ++ es')
  rw [Machine.run_append] at hlater
  exact hlater.value ⟨a, (log_grows fallback _ es').subset ha, hd, hs⟩

/-- When the last widening was delivered. -/
def lastWidened (log : List Sent) : Option Nat :=
  log.foldl (fun last a => if a.delivered ∧ a.sender = .sleep .entering then some a.time else last) none

/-- The deadline runs from when the outcome is taken, which may be any time after the delivery. -/
theorem deadline_runs_late : ¬ ∀ (fallback : Nat) (watchdog : Option ℕ+) (es : List Event) (w : World),
    (Machine.run (step fallback) (start watchdog) es).world = w → isWide w.log = true → w.stopping = false →
      (w.sleep = .chosen .resumed ∨ ∃ landed, w.sleep = .running .resumed landed) ∨
        ∃ deadline, w.narrowAt = some deadline ∧
          ((∃ t, lastWidened w.log = some t ∧ deadline ≤ t + fallback) ∨
            ∃ a ∈ w.log, a.sender = .sleep .resumed ∧ a.delivered = false ∧ deadline ≤ a.time + sleepRestoreRetry) := by
  intro hclaim
  have hrun := hclaim 10 (some 5)
    [.beside (.event .entering), .start (.sleep .entering), .eff .ok, .eff .ok, .finish, .beside (.elapse 7), .beside .join]
    _ rfl rfl rfl
  rcases hrun with (h | ⟨landed, h⟩) | ⟨deadline, hd, ⟨t, ht, hless⟩ | ⟨a, ha, hs, -⟩⟩
  · cases h
  · cases h
  · obtain rfl : 17 = deadline := Option.some.inj hd
    obtain rfl : 0 = t := Option.some.inj ht
    omega
  · obtain rfl := List.mem_singleton.mp ha
    cases hs

end ControlOfc.SdNotify
