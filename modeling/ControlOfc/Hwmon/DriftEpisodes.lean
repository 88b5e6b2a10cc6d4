import ControlOfc.Hwmon.PwmControl
import ControlOfc.Lib.Machine
import Mathlib.Data.List.Induction
/-! # Duty-drift episodes (hwmon/pwm_control.rs:160-256, :1468-1518)

What happens to one header, event by event: a coalesced tick and what `reconcile_decision` makes of its
readback, a write that is no correction, a hand-back. `Episode.after` is what each leaves, and a history is
read off it: what a stretch of events counts is what the state has gained.
-/
namespace ControlOfc.Hwmon

/-- What happens to a header. -/
inductive DriftEvent where
  /-- A command that coalesces: what it read back, what was made of it, and whether a correction landed. -/
  | tick (pct expected : Nat) (readback : Option Nat) (action : DriftAction) (landed : Bool)
  /-- A write that is not a correction, by the engine or under a Verify lease. -/
  | write (pct : Nat) (engine landed : Bool)
  | handBackFailed
  /-- The write state is dropped: handed back, released, or its lease released. -/
  | forgotten
  deriving DecidableEq

namespace DriftEvent

/-- A correction was written. -/
def corrected : DriftEvent → Bool
  | .tick _ _ _ (.correct _) landed => landed
  | _ => false

/-- The readback is within tolerance. -/
def within : DriftEvent → Bool
  | .tick _ expected (some read) _ _ => decide (max read expected - min read expected ≤ readbackTolerancePct)
  | _ => false

/-- It closes an episode. -/
def closes (e : DriftEvent) : Bool :=
  e.within || match e with
    | .handBackFailed | .forgotten => true
    | _ => false

/-- It restarts the corrections. -/
def resets (e : DriftEvent) : Bool :=
  e.closes || match e with
    | .write _ true true => true
    | _ => false

/-- The WARN of an episode's first correction (pwm_control.rs:1488). -/
def firstWarn : DriftEvent → Bool
  | .tick _ _ _ (.correct true) _ => true
  | _ => false

/-- The WARN of giving up (pwm_control.rs:1497). -/
def giveUpWarn : DriftEvent → Bool
  | .tick _ _ _ (.giveUp true) _ => true
  | _ => false

/-- It gives up on a duty that is off. -/
def givesUp : DriftEvent → Bool
  | .tick _ expected (some read) (.giveUp _) _ => !decide (max read expected - min read expected ≤ readbackTolerancePct)
  | _ => false

end DriftEvent

/-- What the controller keeps of a header: its drift, its last command and its correction count. -/
structure Episode where
  drift : DriftState
  command : Option Nat
  corrections : Nat
  deriving DecidableEq

namespace Episode

/-- The event is one the controller can report here. -/
def Emits (s : Episode) : DriftEvent → Prop
  | .tick pct expected readback action _ =>
    s.command = some pct ∧ action = (reconcileDecision expected readback s.drift).1
  | _ => True

/-- A correction that did not land is not counted. -/
def afterTick (s : Episode) (expected : Nat) (readback : Option Nat) (landed : Bool) : Episode :=
  let next := (reconcileDecision expected readback s.drift).2
  if (reconcileDecision expected readback s.drift).1.rewrites then
    if landed then { s with drift := next, corrections := s.corrections + 1 }
    else { s with drift := { next with corrections := next.corrections - 1 } }
  else { s with drift := next }

def after (s : Episode) : DriftEvent → Episode
  | .tick _ expected readback _ landed => s.afterTick expected readback landed
  | .write pct engine landed =>
    if landed then { s with drift := if engine then s.drift.afterPlainWrite else s.drift, command := some pct } else s
  | .handBackFailed => { s with drift := .default }
  | .forgotten => { s with drift := .default, command := none }

/-- What `DriftState` says it keeps. -/
structure Sound (s : Episode) : Prop where
  bound : s.drift.corrections ≤ dutyCorrectionAttempts
  opened : 0 < s.drift.corrections → s.drift.inEpisode = true
  gaveUp : s.drift.notHolding = true → s.drift.corrections = dutyCorrectionAttempts ∧ s.drift.giveUpLogged = true
  logged : s.drift.giveUpLogged = true → s.drift.inEpisode = true

theorem sound_default (command : Option Nat) (corrections : Nat) : Sound ⟨.default, command, corrections⟩ :=
  ⟨Nat.zero_le _, fun h => absurd h (Nat.lt_irrefl 0), nofun, nofun⟩

/-! ## One tick -/

/-- The five things a tick comes to. -/
inductive TickCase (s : Episode) (expected : Nat) (readback : Option Nat) (landed : Bool) : DriftAction → Episode → Prop where
  | unreadable (h : readback = none) : TickCase s expected readback landed .coalesce s
  | holds {read : Nat} (h : readback = some read) (hw : max read expected - min read expected ≤ readbackTolerancePct)
    (he : s.drift.inEpisode = false) : TickCase s expected readback landed .coalesce s
  | recovered {read : Nat} (h : readback = some read) (hw : max read expected - min read expected ≤ readbackTolerancePct) :
    TickCase s expected readback landed (.recovered (s.drift.notHolding || s.drift.giveUpLogged)) { s with drift := .default }
  | held {read : Nat} (h : readback = some read) (hw : ¬max read expected - min read expected ≤ readbackTolerancePct)
    (hn : s.drift.notHolding = true) : TickCase s expected readback landed .hold s
  | gaveUp {read : Nat} (h : readback = some read) (hw : ¬max read expected - min read expected ≤ readbackTolerancePct)
    (hn : s.drift.notHolding = false) (hc : dutyCorrectionAttempts ≤ s.drift.corrections) :
    TickCase s expected readback landed (.giveUp (!s.drift.giveUpLogged))
      { s with drift := { s.drift with notHolding := true, giveUpLogged := true } }
  | landed {read : Nat} (h : readback = some read) (hw : ¬max read expected - min read expected ≤ readbackTolerancePct)
    (hn : s.drift.notHolding = false) (hc : s.drift.corrections < dutyCorrectionAttempts) (hl : landed = true) :
    TickCase s expected readback landed (.correct (!s.drift.inEpisode))
      { s with drift := { s.drift with corrections := s.drift.corrections + 1, inEpisode := true }, corrections := s.corrections + 1 }
  | lost {read : Nat} (h : readback = some read) (hw : ¬max read expected - min read expected ≤ readbackTolerancePct)
    (hn : s.drift.notHolding = false) (hc : s.drift.corrections < dutyCorrectionAttempts) (hl : landed = false) :
    TickCase s expected readback landed (.correct (!s.drift.inEpisode)) { s with drift := { s.drift with inEpisode := true } }

theorem tick_cases (s : Episode) (expected : Nat) (readback : Option Nat) (landed : Bool) :
    TickCase s expected readback landed (reconcileDecision expected readback s.drift).1
      (s.afterTick expected readback landed) := by
  cases readback with
  | none => exact .unreadable rfl
  | some read =>
    unfold afterTick reconcileDecision
    by_cases hw : max read expected - min read expected ≤ readbackTolerancePct
    · by_cases he : s.drift.inEpisode = true
      · simp only [if_pos hw, if_pos he, DriftAction.rewrites]
        exact .recovered rfl hw
      · simp only [if_pos hw, if_neg he, DriftAction.rewrites]
        exact .holds rfl hw (by simpa using he)
    · by_cases hn : s.drift.notHolding = true
      · simp only [if_neg hw, if_pos hn, DriftAction.rewrites]
        exact .held rfl hw hn
      · by_cases hc : dutyCorrectionAttempts ≤ s.drift.corrections
        · simp only [if_neg hw, if_neg hn, if_pos hc, DriftAction.rewrites]
          exact .gaveUp rfl hw (by simpa using hn) hc
        · simp only [if_neg hw, if_neg hn, if_neg hc, DriftAction.rewrites]
          cases landed with
          | true => exact .landed rfl hw (by simpa using hn) (by omega) rfl
          | false => exact .lost rfl hw (by simpa using hn) (by omega) rfl

/-! ## What an event leaves -/

/-- What one event counts, in the state and in the history. -/
structure Counted (s : Episode) (e : DriftEvent) (s' : Episode) : Prop where
  sound : s'.Sound
  count : s'.corrections = s.corrections + e.corrected.toNat
  row : e.resets = false → s'.drift.corrections = s.drift.corrections + e.corrected.toNat
  fresh : e.resets = true → s'.drift.corrections = 0 ∧ s'.drift.notHolding = false
  first : e.closes = false → s'.drift.inEpisode.toNat = s.drift.inEpisode.toNat + e.firstWarn.toNat
  warned : e.closes = false → s'.drift.giveUpLogged.toNat = s.drift.giveUpLogged.toNat + e.giveUpWarn.toNat
  gaveUp : s'.drift.notHolding = true → e.corrected = false ∧ (s.drift.notHolding = true ∨ e.givesUp = true)

theorem counted_tick {s : Episode} (h : s.Sound) (pct expected : Nat) (readback : Option Nat) (landed : Bool) :
    Counted s (.tick pct expected readback (reconcileDecision expected readback s.drift).1 landed)
      (s.afterTick expected readback landed) := by
  have ht := tick_cases s expected readback landed
  generalize (reconcileDecision expected readback s.drift).1 = action at ht ⊢
  generalize s.afterTick expected readback landed = s' at ht ⊢
  have hbound := h.bound
  cases ht with
  | unreadable hr =>
    subst hr
    exact ⟨h, rfl, fun _ => rfl, nofun, fun _ => rfl, fun _ => rfl, fun hn => ⟨rfl, .inl hn⟩⟩
  | holds hr hw he =>
    subst hr
    have hzero : s.drift.corrections = 0 := by
      by_contra hne
      rw [h.opened (Nat.pos_of_ne_zero hne)] at he
      cases he
    have hnot : s.drift.notHolding = false := by
      by_contra hn
      have hlogged := h.logged (h.gaveUp (by simpa using hn)).2
      rw [he] at hlogged
      cases hlogged
    refine ⟨h, rfl, fun _ => rfl, fun _ => ⟨hzero, hnot⟩, fun _ => rfl, fun _ => rfl, fun hn => ⟨rfl, .inl hn⟩⟩
  | recovered hr hw =>
    subst hr
    refine ⟨sound_default _ _, rfl, ?_, fun _ => ⟨rfl, rfl⟩, ?_, ?_, nofun⟩ <;>
      simp [DriftEvent.resets, DriftEvent.closes, DriftEvent.within, hw]
  | held hr hw hn =>
    subst hr
    refine ⟨h, rfl, fun _ => rfl, ?_, fun _ => rfl, fun _ => rfl, fun hn => ⟨rfl, .inl hn⟩⟩
    simp [DriftEvent.resets, DriftEvent.closes, DriftEvent.within, hw]
  | gaveUp hr hw hn hc =>
    subst hr
    have hepisode : s.drift.inEpisode = true := h.opened (Nat.lt_of_lt_of_le (by decide) hc)
    refine ⟨⟨hbound, h.opened, fun _ => ⟨Nat.le_antisymm hbound hc, rfl⟩, fun _ => hepisode⟩, rfl, fun _ => rfl, ?_,
      fun _ => rfl, ?_, fun _ => ⟨rfl, .inr (by simp [DriftEvent.givesUp, hw])⟩⟩
    · simp [DriftEvent.resets, DriftEvent.closes, DriftEvent.within, hw]
    · intro _
      cases s.drift.giveUpLogged <;> rfl
  | landed hr hw hn hc hl =>
    subst hr hl
    refine ⟨⟨hc, fun _ => rfl, fun hn' => ?_, fun _ => rfl⟩, rfl, fun _ => rfl, ?_, ?_, fun _ => rfl, fun hn' => ?_⟩
    · rw [hn] at hn'
      cases hn'
    · simp [DriftEvent.resets, DriftEvent.closes, DriftEvent.within, hw]
    · intro _
      cases s.drift.inEpisode <;> rfl
    · rw [hn] at hn'
      cases hn'
  | lost hr hw hn hc hl =>
    subst hr hl
    refine ⟨⟨hbound, fun _ => rfl, h.gaveUp, fun _ => rfl⟩, rfl, fun _ => rfl, ?_, ?_, fun _ => rfl, fun hn' => ?_⟩
    · simp [DriftEvent.resets, DriftEvent.closes, DriftEvent.within, hw]
    · intro _
      cases s.drift.inEpisode <;> rfl
    · rw [hn] at hn'
      cases hn'

theorem counted {s : Episode} (h : s.Sound) {e : DriftEvent} (he : s.Emits e) : Counted s e (s.after e) := by
  cases e with
  | tick pct expected readback action landed =>
    obtain ⟨-, rfl⟩ := he
    exact counted_tick h pct expected readback landed
  | write pct engine landed =>
    cases landed with
    | false =>
      refine ⟨h, rfl, fun _ => rfl, ?_, fun _ => rfl, fun _ => rfl, fun hn => ⟨rfl, .inl hn⟩⟩
      cases engine <;> nofun
    | true =>
      cases engine with
      | false => exact ⟨⟨h.bound, h.opened, h.gaveUp, h.logged⟩, rfl, fun _ => rfl, nofun, fun _ => rfl, fun _ => rfl,
          fun hn => ⟨rfl, .inl hn⟩⟩
      | true => exact ⟨⟨Nat.zero_le _, fun h => absurd h (Nat.lt_irrefl 0), nofun, h.logged⟩, rfl, nofun, fun _ => ⟨rfl, rfl⟩,
          fun _ => rfl, fun _ => rfl, nofun⟩
  | handBackFailed => exact ⟨sound_default _ _, rfl, nofun, fun _ => ⟨rfl, rfl⟩, nofun, nofun, nofun⟩
  | forgotten => exact ⟨sound_default _ _, rfl, nofun, fun _ => ⟨rfl, rfl⟩, nofun, nofun, nofun⟩

/-! ## What a history counts -/

section Histories
open Machine

variable {s : Episode} {es : List DriftEvent}

theorem countP_cons_toNat {α : Type} (p : α → Bool) (a : α) (l : List α) :
    (a :: l).countP p = (p a).toNat + l.countP p := by
  rw [List.countP_cons]
  cases p a <;> simp [Nat.add_comm]

theorem sound_run (hs : s.Sound) (h : Along after Emits s es) : (run after s es).Sound :=
  run_inv_of (I := Sound) (fun _ _ hs he => (counted hs he).sound) s es hs h

/-- A quantity that each event of a stretch adds its own share to has gained the sum of them. -/
theorem gained (q : Episode → Nat) (p ok : DriftEvent → Bool)
    (hstep : ∀ s e, Sound s → Emits s e → ok e = false → q (s.after e) = q s + (p e).toNat) (hs : s.Sound)
    (h : Along after Emits s es) (hok : ∀ e ∈ es, ok e = false) : q (run after s es) = q s + es.countP p := by
  induction es generalizing s with
  | nil => rfl
  | cons e es ih =>
    have hrest := ih (counted hs h.1).sound h.2 fun e' he' => hok e' (List.mem_cons_of_mem _ he')
    rw [run_cons, hrest, hstep s e hs h.1 (hok e List.mem_cons_self), countP_cons_toNat, Nat.add_assoc]

theorem corrections_run (hs : s.Sound) (h : Along after Emits s es) :
    (run after s es).corrections = s.corrections + es.countP DriftEvent.corrected :=
  gained Episode.corrections _ (fun _ => false) (fun _ _ hs he _ => (counted hs he).count) hs h fun _ _ => rfl

/-- Of a stretch of the history. -/
theorem along_infix {pre seg post : List DriftEvent} (hs : s.Sound) (h : Along after Emits s (pre ++ seg ++ post)) :
    (run after s pre).Sound ∧ Along after Emits (run after s pre) seg := by
  rw [along_append, along_append] at h
  exact ⟨sound_run hs h.1.1, h.1.2⟩

/-- Between two resets there are no more corrections than attempts. -/
theorem corrected_le {pre seg post : List DriftEvent} (hs : s.Sound) (h : Along after Emits s (pre ++ seg ++ post))
    (hno : ∀ e ∈ seg, e.resets = false) : seg.countP DriftEvent.corrected ≤ dutyCorrectionAttempts := by
  obtain ⟨hpre, hseg⟩ := along_infix hs h
  have hrow := gained (·.drift.corrections) _ _ (fun _ _ hs he => (counted hs he).row) hpre hseg hno
  have hbound := (sound_run hpre hseg).bound
  omega

/-- Between two closings there is at most one WARN of either kind. -/
theorem warns_le {pre seg post : List DriftEvent} (hs : s.Sound) (h : Along after Emits s (pre ++ seg ++ post))
    (hno : ∀ e ∈ seg, e.closes = false) : seg.countP DriftEvent.firstWarn ≤ 1 ∧ seg.countP DriftEvent.giveUpWarn ≤ 1 := by
  obtain ⟨hpre, hseg⟩ := along_infix hs h
  have hfirst := gained (·.drift.inEpisode.toNat) _ _ (fun _ _ hs he => (counted hs he).first) hpre hseg hno
  have hwarned := gained (·.drift.giveUpLogged.toNat) _ _ (fun _ _ hs he => (counted hs he).warned) hpre hseg hno
  have hle := Bool.toNat_le (run after (run after s pre) seg).drift.inEpisode
  have hle' := Bool.toNat_le (run after (run after s pre) seg).drift.giveUpLogged
  exact ⟨by omega, by omega⟩

/-! ### Since the last reset -/

/-- The events since the corrections last restarted: as many corrections as the state has, and, where it has
given up, three of them and then the reading that it gave up on. -/
structure SinceReset (seg : List DriftEvent) (s : Episode) : Prop where
  unreset : ∀ e ∈ seg, e.resets = false
  row : s.drift.corrections = seg.countP DriftEvent.corrected
  gaveUp : s.drift.notHolding = true → ∃ row e tail, seg = row ++ e :: tail ∧ e.givesUp = true ∧
    row.countP DriftEvent.corrected = dutyCorrectionAttempts ∧ tail.countP DriftEvent.corrected = 0
  command : (∀ e ∈ seg, ∀ pct, e ≠ .write pct false true) →
    ∀ e ∈ seg, ∀ pct expected readback action landed, e = .tick pct expected readback action landed → s.command = some pct

/-- A command is replaced by a write only. -/
theorem command_after {s : Episode} {e : DriftEvent} (hr : e.resets = false) (hv : ∀ pct, e ≠ .write pct false true) :
    (s.after e).command = s.command := by
  cases e with
  | tick pct expected readback action landed =>
    show (s.afterTick expected readback landed).command = _
    unfold afterTick
    split
    · split <;> rfl
    · rfl
  | write pct engine landed =>
    cases landed with
    | false => rfl
    | true =>
      cases engine with
      | false => exact absurd rfl (hv pct)
      | true => cases hr
  | handBackFailed => rfl
  | forgotten => cases hr

theorem SinceReset.concat {s : Episode} {seg : List DriftEvent} {e : DriftEvent} (h : SinceReset seg s) (hs : s.Sound)
    (he : s.Emits e) (hr : e.resets = false) : SinceReset (seg ++ [e]) (s.after e) := by
  have hc := counted hs he
  refine ⟨?_, ?_, ?_, ?_⟩
  · intro e' he'
    rcases List.mem_append.mp he' with he' | he'
    · exact h.unreset e' he'
    · exact List.mem_singleton.mp he' ▸ hr
  · rw [hc.row hr, h.row, List.countP_append, countP_cons_toNat]
    rfl
  · intro hn
    obtain ⟨hcorrected, hbefore | hgives⟩ := hc.gaveUp hn
    · obtain ⟨row, g, tail, rfl, hg, hrow, htail⟩ := h.gaveUp hbefore
      refine ⟨row, g, tail ++ [e], by simp, hg, hrow, ?_⟩
      rw [List.countP_append, htail, countP_cons_toNat, hcorrected]
      rfl
    · refine ⟨seg, e, [], rfl, hgives, ?_, rfl⟩
      have hthree := (hc.sound.gaveUp hn).1
      rw [hc.row hr, hcorrected] at hthree
      rw [← h.row]
      exact hthree
  · intro hv e' he' pct expected readback action landed heq
    have hve : ∀ pct, e ≠ .write pct false true := hv e (by simp)
    rw [command_after hr hve]
    rcases List.mem_append.mp he' with he' | he'
    · exact h.command (fun e'' he'' => hv e'' (List.mem_append_left _ he'')) e' he' pct expected readback action landed heq
    · obtain rfl := List.mem_singleton.mp he'
      subst heq
      exact he.1

theorem exists_sinceReset (hs : s.Sound) (h0 : s.drift = .default) (h : Along after Emits s es) :
    ∃ pre seg, es = pre ++ seg ∧ SinceReset seg (run after s es) := by
  induction es using List.reverseRecOn with
  | nil =>
    refine ⟨[], [], rfl, ⟨nofun, ?_, ?_, nofun⟩⟩
    · rw [run_nil, h0]
      rfl
    · rw [run_nil, h0]
      nofun
  | append_singleton es e ih =>
    rw [along_append] at h
    have hsound := sound_run hs h.1
    have hrun : run after s (es ++ [e]) = (run after s es).after e := by rw [run_append, run_cons, run_nil]
    rw [hrun]
    cases hr : e.resets with
    | true =>
      have hfresh := (counted hsound h.2.1).fresh hr
      refine ⟨es ++ [e], [], (List.append_nil _).symm, ⟨nofun, hfresh.1, ?_, nofun⟩⟩
      rw [hfresh.2]
      nofun
    | false =>
      obtain ⟨pre, seg, hes, hseg⟩ := ih h.1
      exact ⟨pre, seg ++ [e], by rw [hes, List.append_assoc], hseg.concat hsound h.2.1 hr⟩

end Histories

end Episode

end ControlOfc.Hwmon
