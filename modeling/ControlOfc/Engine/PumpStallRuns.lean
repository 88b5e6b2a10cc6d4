import ControlOfc.Engine.PumpStall
import ControlOfc.Lib.Machine
import Mathlib.Data.List.Induction
/-! # The pump stall watch over runs (profile_engine/pump_stall.rs)

`Tracks` ties a header's watch to the calls so far: a window that is building began at a tick since which
every tick was a stall sample, after the header was seen to turn, and the count is that of the confirmed
stalls. It is kept by every call (`Tracks.step`), and a confirmed stall reads its witness off it.
-/
namespace ControlOfc.PumpStall

/-! ## One input -/

def StallEvent.isStalled : StallEvent → Bool
  | .stalled _ _ => true
  | _ => false

/-- What an input may leave short of a confirmed stall. -/
structure Quiet (w : HeaderWatch) (input : PumpInput) (now : Nat) (r : HeaderWatch × List StallEvent) : Prop where
  events : ∀ e ∈ r.2, e.isStalled = false
  stalls : r.1.stalls = w.stalls
  spinning : r.1.seenSpinning = true → w.seenSpinning = true ∨ ∃ rpm, 0 < rpm ∧ input.tach = .fresh rpm
  window : ∀ since, r.1.phase = .monitoring (some since) →
    input.tach = .fresh 0 ∧ input.commanded = true ∧ w.seenSpinning = true ∧
      (w.phase = .monitoring (some since) ∨ since = now)
  raised : r.1.phase.isMonitoring = false → w.phase.isMonitoring = false
  held : w.phase.isHeld = true → r.1.phase.isHeld = true

/-- A confirmed stall. -/
structure Confirms (w : HeaderWatch) (input : PumpInput) (now : Nat) (r : HeaderWatch × List StallEvent) : Prop where
  window : ∃ since, w.phase = .monitoring (some since) ∧ since + pumpStallDetect ≤ now
  tach : input.tach = .fresh 0
  commanded : input.commanded = true
  spinning : w.seenSpinning = true
  stalls : r.1.stalls = (w.stalls + 1) % 2 ^ 32
  phase : r.1.phase = if 2 ≤ (w.stalls + 1) % 2 ^ 32 then .held now false else .kick now false
  events : r.2 = [.stalled input.headerId (decide (2 ≤ (w.stalls + 1) % 2 ^ 32))]

namespace HeaderWatch

theorem noteSpin_spinning {w : HeaderWatch} {tach : Tach} (h : (w.noteSpin tach).seenSpinning = true) :
    w.seenSpinning = true ∨ ∃ rpm, 0 < rpm ∧ tach = .fresh rpm := by
  cases tach with
  | stale => exact .inl h
  | fresh rpm =>
    rcases Bool.or_eq_true_iff.mp h with h | h
    · exact .inl h
    · exact .inr ⟨rpm, of_decide_eq_true h, rfl⟩

@[simp] theorem noteSpin_stalls (w : HeaderWatch) (tach : Tach) : (w.noteSpin tach).stalls = w.stalls := by
  cases tach <;> rfl

@[simp] theorem noteSpin_phase (w : HeaderWatch) (tach : Tach) : (w.noteSpin tach).phase = w.phase := by
  cases tach <;> rfl

theorem noteSpin_zero (w : HeaderWatch) : w.noteSpin (.fresh 0) = w := by
  cases w
  simp [noteSpin]

/-- A fresh zero while monitoring builds the window, restarts it, or confirms the stall. -/
theorem zeroSample_cases (w : HeaderWatch) (input : PumpInput) (now : Nat) {zeroSince : Option Nat}
    (hphase : w.phase = .monitoring zeroSince) (htach : input.tach = .fresh 0) :
    Quiet w input now (w.zeroSample input zeroSince now) ∨ Confirms w input now (w.zeroSample input zeroSince now) := by
  unfold zeroSample
  by_cases hsample : w.seenSpinning = true ∧ input.commanded = true
  · obtain ⟨hspinning, hcommanded⟩ := hsample
    rw [if_neg (by simp [hspinning, hcommanded])]
    dsimp only
    by_cases hlong : pumpStallDetect ≤ now - zeroSince.getD now
    · rw [if_pos hlong]
      right
      refine ⟨?_, htach, hcommanded, hspinning, rfl, by simp, rfl⟩
      cases zeroSince with
      | none => simp [pumpStallDetect] at hlong
      | some since =>
        refine ⟨since, hphase, ?_⟩
        have hpos : 0 < pumpStallDetect := by decide
        rw [Option.getD_some] at hlong
        omega
    · rw [if_neg hlong]
      left
      refine ⟨nofun, rfl, .inl, ?_, nofun, ?_⟩
      · intro since hsince
        obtain rfl := Option.some.inj (Phase.monitoring.inj hsince)
        refine ⟨htach, hcommanded, hspinning, ?_⟩
        cases zeroSince with
        | none => exact .inr rfl
        | some since => exact .inl hphase
      · intro hheld
        rw [hphase] at hheld
        cases hheld
  · have hnot : (!(w.seenSpinning && input.commanded)) = true := by
      rw [Bool.not_eq_true', Bool.eq_false_iff, ne_eq, Bool.and_eq_true]
      exact hsample
    rw [if_pos hnot]
    left
    refine ⟨nofun, rfl, .inl, nofun, nofun, ?_⟩
    intro hheld
    rw [hphase] at hheld
    cases hheld

theorem observe_cases (w : HeaderWatch) (input : PumpInput) (now : Nat) :
    Quiet w input now (w.observe input now) ∨ Confirms w input now (w.observe input now) := by
  have hspin : ∀ tach, input.tach = tach → (w.noteSpin tach).seenSpinning = true →
      w.seenSpinning = true ∨ ∃ rpm, 0 < rpm ∧ input.tach = .fresh rpm := by
    rintro tach rfl
    exact noteSpin_spinning
  unfold observe
  dsimp only
  rw [noteSpin_phase]
  cases hphase : w.phase with
  | monitoring zeroSince =>
    cases htach : input.tach with
    | stale =>
      left
      exact ⟨nofun, noteSpin_stalls _ _, hspin _ htach, nofun, nofun, by simp [hphase, Phase.isHeld]⟩
    | fresh rpm =>
      cases rpm with
      | succ rpm =>
        left
        exact ⟨nofun, noteSpin_stalls _ _, hspin _ htach, nofun, nofun, by simp [hphase, Phase.isHeld]⟩
      | zero =>
        dsimp only
        rw [noteSpin_zero]
        exact zeroSample_cases w input now hphase htach
  | kick since turning =>
    left
    dsimp only
    split
    · exact ⟨nofun, noteSpin_stalls _ _, hspin _ rfl, nofun, fun _ => by rw [hphase]; rfl, by simp [hphase, Phase.isHeld]⟩
    · split
      · exact ⟨by simp [StallEvent.isStalled], noteSpin_stalls _ _, hspin _ rfl, nofun, nofun, by simp [hphase, Phase.isHeld]⟩
      · exact ⟨by simp [StallEvent.isStalled], noteSpin_stalls _ _, hspin _ rfl, nofun, fun _ => by rw [hphase]; rfl,
          by simp [hphase, Phase.isHeld]⟩
  | notTurning since =>
    left
    dsimp only
    split
    · next htach =>
      exact ⟨by simp [StallEvent.isStalled], noteSpin_stalls _ _, hspin _ rfl, nofun, nofun,
        by simp [hphase, Phase.isHeld]⟩
    · exact ⟨nofun, noteSpin_stalls _ _, hspin _ rfl, nofun, fun _ => by rw [hphase]; rfl, by simp [hphase, Phase.isHeld]⟩
  | held since turning =>
    left
    exact ⟨nofun, noteSpin_stalls _ _, hspin _ rfl, nofun, fun _ => by rw [hphase]; rfl, fun _ => rfl⟩

end HeaderWatch

/-! ## Calls -/

/-- One call on the watch. -/
inductive Call where
  | tick (inputs : List PumpInput) (now : Nat) (paused : Bool)
  | releaseHolds
  deriving DecidableEq, Repr

namespace Call

/-- The header ids of a tick are distinct. -/
def Distinct : Call → Prop
  | .tick inputs _ _ => (inputs.map (·.headerId)).Nodup
  | .releaseHolds => True

/-- If a tick: unpaused, and the header among its inputs reading a fresh zero at the pump floor or above. -/
def StallSample (id : String) : Call → Prop
  | .tick inputs _ paused => paused = false ∧ ∃ i ∈ inputs, i.headerId = id ∧ i.tach = .fresh 0 ∧ i.commanded = true
  | .releaseHolds => True

/-- A tick whose inputs name the header. -/
def Watches (id : String) : Call → Prop
  | .tick inputs _ _ => ∃ i ∈ inputs, i.headerId = id
  | .releaseHolds => False

/-- An unpaused tick at which the header reads above 0 RPM. -/
def Spins (id : String) : Call → Prop
  | .tick inputs _ paused => paused = false ∧ ∃ i ∈ inputs, i.headerId = id ∧ ∃ rpm, 0 < rpm ∧ i.tach = .fresh rpm
  | .releaseHolds => False

end Call

def PumpStallWatch.call (s : PumpStallWatch) : Call → PumpStallWatch × List StallEvent
  | .tick inputs now paused => s.tick inputs now paused
  | .releaseHolds => s.releaseHolds

/-- The watch after a sequence of calls, from its beginning. -/
def after (calls : List Call) : PumpStallWatch := Machine.run (fun s c => (PumpStallWatch.call s c).1) default calls

/-- Every event the calls returned, in order. -/
def said (calls : List Call) : List StallEvent :=
  (Machine.trace (fun s c => (PumpStallWatch.call s c).1) (fun s c => (PumpStallWatch.call s c).2) default calls).flatten

/-- How many stalls of a header the calls confirmed. -/
def stallCount (id : String) (calls : List Call) : Nat := (eventsOf id (said calls)).countP StallEvent.isStalled

theorem after_concat (calls : List Call) (c : Call) : after (calls ++ [c]) = ((after calls).call c).1 := by
  simp [after]

theorem said_concat (calls : List Call) (c : Call) : said (calls ++ [c]) = said calls ++ ((after calls).call c).2 := by
  simp [said, after]

theorem stallCount_concat (id : String) (calls : List Call) (c : Call) :
    stallCount id (calls ++ [c]) = stallCount id calls + (eventsOf id ((after calls).call c).2).countP StallEvent.isStalled := by
  rw [stallCount, said_concat, eventsOf_append, List.countP_append]
  rfl

/-- The header was seen to turn. -/
def SpunIn (id : String) (calls : List Call) : Prop := ∃ c ∈ calls, c.Spins id

/-- Since the tick at `since`, after the header was seen to turn, every tick was a stall sample. -/
def Window (id : String) (calls : List Call) (since : Nat) : Prop :=
  ∃ earlier inputs paused mid, calls = earlier ++ .tick inputs since paused :: mid ∧ SpunIn id earlier ∧
    ∀ c ∈ Call.tick inputs since paused :: mid, c.StallSample id

theorem SpunIn.concat {id : String} {calls : List Call} (h : SpunIn id calls) (c : Call) : SpunIn id (calls ++ [c]) := by
  obtain ⟨c', hc', hspins⟩ := h
  exact ⟨c', List.mem_append_left _ hc', hspins⟩

theorem Window.concat {id : String} {calls : List Call} {since : Nat} (h : Window id calls since) {c : Call}
    (hc : c.StallSample id) : Window id (calls ++ [c]) since := by
  obtain ⟨earlier, inputs, paused, mid, rfl, hspun, hall⟩ := h
  refine ⟨earlier, inputs, paused, mid ++ [c], by simp, hspun, ?_⟩
  rw [← List.cons_append]
  exact List.forall_mem_append.mpr ⟨hall, List.forall_mem_singleton.mpr hc⟩

/-- What a header's watch says of the calls so far. -/
structure Tracks (id : String) (calls : List Call) (w : HeaderWatch) : Prop where
  spinning : w.seenSpinning = true → SpunIn id calls
  stalls : w.stalls = stallCount id calls % 2 ^ 32
  window : ∀ since, w.phase = .monitoring (some since) → Window id calls since
  raised : w.phase.isMonitoring = false → 0 < stallCount id calls

/-- A header a call does not observe keeps what it was, or starts over. -/
theorem Tracks.unobserved {id : String} {calls : List Call} {c : Call} {w w' : HeaderWatch} (h : Tracks id calls w)
    (hquiet : ∀ e ∈ eventsOf id ((after calls).call c).2, e.isStalled = false) (hspinning : w'.seenSpinning = w.seenSpinning)
    (hstalls : w'.stalls = w.stalls)
    (hphase : w'.phase = .monitoring none ∨ w'.phase = w.phase ∧ (w.phase.isMonitoring = true → c.StallSample id)) :
    Tracks id (calls ++ [c]) w' := by
  have hcount : stallCount id (calls ++ [c]) = stallCount id calls := by
    rw [stallCount_concat, List.countP_eq_zero.mpr fun e he => by simp [hquiet e he], Nat.add_zero]
  refine ⟨?_, ?_, ?_, ?_⟩
  · rw [hspinning]
    exact fun hspun => (h.spinning hspun).concat c
  · rw [hstalls, h.stalls, hcount]
  · intro since hsince
    rcases hphase with hphase | ⟨hphase, hsample⟩
    · rw [hphase] at hsince
      cases hsince
    · rw [hphase] at hsince
      exact (h.window since hsince).concat (hsample (by rw [hsince]; rfl))
  · intro hraised
    rw [hcount]
    rcases hphase with hphase | ⟨hphase, -⟩
    · rw [hphase] at hraised
      cases hraised
    · rw [hphase] at hraised
      exact h.raised hraised

namespace HeaderWatch

theorem enter_cases (w : HeaderWatch) (watched paused : Bool) :
    (w.enter watched paused).seenSpinning = w.seenSpinning ∧ (w.enter watched paused).stalls = w.stalls ∧
      ((w.enter watched paused).phase = .monitoring none ∨
        (w.enter watched paused).phase = w.phase ∧ watched = true ∧ (paused = true → w.phase.isMonitoring = false)) := by
  unfold enter
  cases watched <;> cases paused <;> cases hmonitoring : w.phase.isMonitoring <;> simp

theorem releaseHold_cases (w : HeaderWatch) :
    w.releaseHold.seenSpinning = w.seenSpinning ∧ w.releaseHold.stalls = w.stalls ∧
      (w.releaseHold.phase = .monitoring none ∨ w.releaseHold.phase = w.phase) := by
  unfold releaseHold
  cases w.phase.isHeld <;> simp

end HeaderWatch

theorem eventsOf_releaseHolds (s : PumpStallWatch) (id : String) : ∀ e ∈ eventsOf id s.releaseHolds.2, e.isStalled = false := by
  intro e he
  obtain ⟨⟨k, w⟩, -, heq⟩ := List.mem_filterMap.mp (List.mem_of_mem_filter he)
  split at heq
  · obtain rfl := Option.some.inj heq
    rfl
  · cases heq

/-- **Every call keeps it.** -/
theorem Tracks.step {id : String} {calls : List Call} (h : Tracks id calls ((after calls).watchOf id)) {c : Call}
    (hc : c.Distinct) : Tracks id (calls ++ [c]) ((after (calls ++ [c])).watchOf id) := by
  rw [after_concat]
  cases c with
  | releaseHolds =>
    obtain ⟨hspinning, hstalls, hphase⟩ := ((after calls).watchOf id).releaseHold_cases
    rw [show ((after calls).call .releaseHolds).1.watchOf id = _ from PumpStallWatch.watchOf_releaseHolds]
    exact h.unobserved (eventsOf_releaseHolds _ id) hspinning hstalls (hphase.imp_right fun hphase => ⟨hphase, fun _ => trivial⟩)
  | tick inputs now paused =>
    obtain ⟨hwatch, hevents⟩ := @PumpStallWatch.watchOf_tick (after calls) id inputs hc now paused
    rw [show ((after calls).call (.tick inputs now paused)).1.watchOf id = _ from hwatch]
    have hsaid : eventsOf id ((after calls).call (.tick inputs now paused)).2 = _ := hevents
    generalize (after calls).watchOf id = w at h hsaid
    unfold HeaderWatch.afterTick at hsaid ⊢
    obtain ⟨hspinning, hstalls, hphase⟩ := w.enter_cases (inputOf id inputs).isSome paused
    dsimp only at hsaid ⊢
    cases paused with
    | true =>
      rw [if_pos rfl] at hsaid ⊢
      refine h.unobserved (by simp [hsaid]) hspinning hstalls (hphase.imp_right fun hphase => ⟨hphase.1, fun hmonitoring => ?_⟩)
      rw [hphase.2.2 rfl] at hmonitoring
      cases hmonitoring
    | false =>
      rw [if_neg Bool.false_ne_true] at hsaid ⊢
      cases hinput : inputOf id inputs with
      | none =>
        rw [hinput] at hsaid hphase hspinning hstalls
        refine h.unobserved (by simp [hsaid]) hspinning hstalls (.inl (hphase.resolve_right ?_))
        rintro ⟨-, hwatched, -⟩
        cases hwatched
      | some i =>
        obtain ⟨hmem, hid⟩ := inputOf_some hinput
        have hsame : w.enter (some i).isSome false = w := rfl
        rw [hinput] at hsaid
        rw [hsame] at hsaid ⊢
        dsimp only at hsaid ⊢
        have hspun : ∀ rpm, 0 < rpm → i.tach = .fresh rpm → SpunIn id (calls ++ [.tick inputs now false]) := fun rpm hrpm htach =>
          ⟨.tick inputs now false, by simp, rfl, i, hmem, hid, rpm, hrpm, htach⟩
        rcases w.observe_cases i now with hquiet | hstall
        · have hcount : stallCount id (calls ++ [.tick inputs now false]) = stallCount id calls := by
            rw [stallCount_concat, hsaid, List.countP_eq_zero.mpr fun e he => by simp [hquiet.events e he], Nat.add_zero]
          refine ⟨fun hturned => ?_, by rw [hquiet.stalls, h.stalls, hcount], fun since hsince => ?_, fun hraised => ?_⟩
          · rcases hquiet.spinning hturned with hturned | ⟨rpm, hrpm, htach⟩
            · exact (h.spinning hturned).concat _
            · exact hspun rpm hrpm htach
          · obtain ⟨htach, hcommanded, hturned, hold⟩ := hquiet.window since hsince
            have hsample : (Call.tick inputs now false).StallSample id := ⟨rfl, i, hmem, hid, htach, hcommanded⟩
            rcases hold with hold | rfl
            · exact (h.window since hold).concat hsample
            · exact ⟨calls, inputs, false, [], rfl, h.spinning hturned, List.forall_mem_singleton.mpr hsample⟩
          · rw [hcount]
            exact h.raised (hquiet.raised hraised)
        · have hcount : stallCount id (calls ++ [.tick inputs now false]) = stallCount id calls + 1 := by
            rw [stallCount_concat, hsaid, hstall.events]
            rfl
          refine ⟨fun _ => (h.spinning hstall.spinning).concat _, ?_, fun since hsince => ?_, fun _ => by omega⟩
          · rw [hstall.stalls, hcount, h.stalls, Nat.mod_add_mod]
          · rw [hstall.phase] at hsince
            split at hsince <;> cases hsince

/-- **Every run keeps it.** -/
theorem tracks (id : String) (calls : List Call) (hdistinct : ∀ c ∈ calls, c.Distinct) :
    Tracks id calls ((after calls).watchOf id) := by
  induction calls using List.reverseRecOn with
  | nil => exact ⟨nofun, rfl, nofun, nofun⟩
  | append_singleton calls c ih =>
    obtain ⟨hcalls, hc⟩ := List.forall_mem_append.mp hdistinct
    exact (ih hcalls).step (hc c (List.mem_singleton_self c))


/-! ## A confirmed stall -/

/-- What a tick that reports a stall had before it. -/
theorem confirms_of_stalled {id : String} {pre : List Call} {inputs : List PumpInput} {now : Nat} {paused held : Bool}
    (hids : (inputs.map (·.headerId)).Nodup) (h : StallEvent.stalled id held ∈ ((after pre).tick inputs now paused).2) :
    ∃ i ∈ inputs, i.headerId = id ∧ paused = false ∧
      Confirms ((after pre).watchOf id) i now (((after pre).watchOf id).observe i now) ∧
      held = decide (2 ≤ (((after pre).watchOf id).stalls + 1) % 2 ^ 32) ∧
      ((after pre).tick inputs now paused).1.watchOf id = (((after pre).watchOf id).observe i now).1 := by
  obtain ⟨hwatch, hevents⟩ := @PumpStallWatch.watchOf_tick (after pre) id inputs hids now paused
  have hmem : StallEvent.stalled id held ∈ eventsOf id ((after pre).tick inputs now paused).2 :=
    List.mem_filter.mpr ⟨h, by simp [StallEvent.headerId]⟩
  rw [hevents] at hmem
  unfold HeaderWatch.afterTick at hmem hwatch
  dsimp only at hmem hwatch
  cases paused with
  | true =>
    rw [if_pos rfl] at hmem
    cases hmem
  | false =>
    rw [if_neg Bool.false_ne_true] at hmem hwatch
    cases hinput : inputOf id inputs with
    | none =>
      rw [hinput] at hmem
      cases hmem
    | some i =>
      obtain ⟨hi, hid⟩ := inputOf_some hinput
      have hsame : ((after pre).watchOf id).enter (some i).isSome false = (after pre).watchOf id := rfl
      rw [hinput, hsame] at hmem hwatch
      refine ⟨i, hi, hid, rfl, ?_⟩
      rcases ((after pre).watchOf id).observe_cases i now with hquiet | hstall
      · cases hquiet.events _ hmem
      · refine ⟨hstall, ?_, hwatch⟩
        dsimp only at hmem
        rw [hstall.events] at hmem
        obtain ⟨-, rfl⟩ := StallEvent.stalled.inj (List.mem_singleton.mp hmem)
        rfl

/-- **The witness of a reported stall**, and its place in the count. -/
theorem window_of_stalled {id : String} {pre : List Call} {inputs : List PumpInput} {now : Nat} {paused held : Bool}
    (hpre : ∀ c ∈ pre, c.Distinct) (hids : (inputs.map (·.headerId)).Nodup)
    (h : StallEvent.stalled id held ∈ ((after pre).tick inputs now paused).2) :
    (∃ since, since + pumpStallDetect ≤ now ∧ Window id pre since) ∧ (Call.tick inputs now paused).StallSample id ∧
      held = decide (2 ≤ (stallCount id pre + 1) % 2 ^ 32) := by
  obtain ⟨i, hi, hid, rfl, hstall, hheld, -⟩ := confirms_of_stalled hids h
  have htracks := tracks id pre hpre
  obtain ⟨since, hphase, hlong⟩ := hstall.window
  refine ⟨⟨since, hlong, htracks.window since hphase⟩, ⟨rfl, i, hi, hid, hstall.tach, hstall.commanded⟩, ?_⟩
  rw [hheld, htracks.stalls, Nat.mod_add_mod]

/-! ## A held header -/

/-- A tick that watches a held header leaves it held, paused or not. -/
theorem HeaderWatch.afterTick_held {w : HeaderWatch} (h : w.phase.isHeld = true) (i : PumpInput) (now : Nat) (paused : Bool) :
    (w.afterTick (some i) now paused).1.phase.isHeld = true := by
  have hmonitoring : w.phase.isMonitoring = false := by
    cases hphase : w.phase with
    | held => rfl
    | _ => simp [hphase, Phase.isHeld] at h
  have henter : w.enter (some i).isSome paused = w := by
    unfold enter
    simp [hmonitoring]
  unfold afterTick
  dsimp only
  rw [henter]
  cases paused with
  | true => exact h
  | false =>
    rw [if_neg Bool.false_ne_true]
    rcases w.observe_cases i now with hquiet | hstall
    · exact hquiet.held h
    · obtain ⟨since, hphase, -⟩ := hstall.window
      simp [hphase, Phase.isMonitoring] at hmonitoring

theorem inputOf_of_mem {id : String} {inputs : List PumpInput} (h : ∃ i ∈ inputs, i.headerId = id) :
    ∃ i, inputOf id inputs = some i := by
  obtain ⟨i, hi, hid⟩ := h
  rw [← Option.isSome_iff_exists, inputOf_isSome, List.any_eq_true]
  exact ⟨i, hi, by simpa using hid⟩

/-- **A held header stays held** while each call is a tick that watches it. -/
theorem held_along {id : String} {calls later : List Call} (hheld : ((after calls).watchOf id).phase.isHeld = true)
    (hdistinct : ∀ c ∈ later, c.Distinct) (hwatched : ∀ c ∈ later, c.Watches id) :
    ((after (calls ++ later)).watchOf id).phase.isHeld = true := by
  induction later using List.reverseRecOn with
  | nil => rwa [List.append_nil]
  | append_singleton later c ih =>
    obtain ⟨hbefore, hc⟩ := List.forall_mem_append.mp hdistinct
    obtain ⟨hkept, hwatches⟩ := List.forall_mem_append.mp hwatched
    rw [List.forall_mem_singleton] at hc hwatches
    rw [← List.append_assoc, after_concat]
    cases c with
    | releaseHolds => exact hwatches.elim
    | tick inputs now paused =>
      obtain ⟨i, hi⟩ := inputOf_of_mem hwatches
      change (((after (calls ++ later)).tick inputs now paused).1.watchOf id).phase.isHeld = true
      rw [(PumpStallWatch.watchOf_tick hc now paused).1, hi]
      exact HeaderWatch.afterTick_held (ih hbefore hkept) i now paused

theorem Phase.not_isMonitoring_of_isHeld {phase : Phase} (h : phase.isHeld = true) : phase.isMonitoring = false := by
  cases phase with
  | held => rfl
  | _ => cases h

/-! ## Soundness -/

/-- **A header is raised only after a confirmed stall**; a stall reported at `now` was read at every tick since a
tick at least `pumpStallDetect` before, the header having turned before that; the `n`-th stall of a header holds
it exactly when `2 ≤ n % 2 ^ 32`; and a held header stays raised while the calls are ticks that watch it. -/
theorem stall_watch_sound (calls : List Call) (hdistinct : ∀ c ∈ calls, c.Distinct) (id : String) :
    (id ∈ (after calls).raisedHeaders → ∃ held, StallEvent.stalled id held ∈ said calls) ∧
      ∀ pre inputs now paused post held, calls = pre ++ .tick inputs now paused :: post →
        StallEvent.stalled id held ∈ ((after pre).tick inputs now paused).2 →
        (∃ since, since + pumpStallDetect ≤ now ∧ Window id (pre ++ [.tick inputs now paused]) since) ∧
          (held = true ↔ 2 ≤ (stallCount id pre + 1) % 2 ^ 32) ∧
          (held = true → ∀ later rest, post = later ++ rest → (∀ c ∈ later, c.Watches id) →
            id ∈ (after (pre ++ .tick inputs now paused :: later)).raisedHeaders) := by
  constructor
  · intro hraised
    have hcount := (tracks id calls hdistinct).raised (PumpStallWatch.mem_raisedHeaders.mp hraised)
    obtain ⟨e, hmem, hstalled⟩ := List.countP_pos_iff.mp hcount
    obtain ⟨hsaid, hid⟩ := List.mem_filter.mp hmem
    cases e with
    | stalled id' held =>
      have hid : id' = id := of_decide_eq_true hid
      exact ⟨held, hid ▸ hsaid⟩
    | _ => cases hstalled
  · rintro pre inputs now paused post held rfl hmem
    obtain ⟨hpre, hrest⟩ := List.forall_mem_append.mp hdistinct
    obtain ⟨hids, hpost⟩ := List.forall_mem_cons.mp hrest
    obtain ⟨⟨since, hlong, hwindow⟩, hsample, hheld⟩ := window_of_stalled hpre hids hmem
    refine ⟨⟨since, hlong, hwindow.concat hsample⟩, by rw [hheld, decide_eq_true_iff], ?_⟩
    rintro rfl later rest rfl hwatched
    obtain ⟨i, -, -, rfl, hstall, hheld, hwatch⟩ := confirms_of_stalled hids hmem
    have hnow : ((after (pre ++ [.tick inputs now false])).watchOf id).phase.isHeld = true := by
      rw [after_concat]
      change (((after pre).tick inputs now false).1.watchOf id).phase.isHeld = true
      rw [hwatch, hstall.phase, if_pos (of_decide_eq_true hheld.symm)]
      rfl
    have hlater := held_along hnow (List.forall_mem_append.mp hpost).1 hwatched
    rw [List.append_assoc, List.singleton_append] at hlater
    exact PumpStallWatch.mem_raisedHeaders.mpr (Phase.not_isMonitoring_of_isHeld hlater)

/-! ## Thirteen centuries of stalls

The count is a `u32`. A cycle below confirms one stall and lets go of the header, and nothing else; after
`2 ^ 32 - 1` of them the next stall, which is not the first, holds nothing.
-/

/-- One header, its tach and a command at half speed. -/
def pumpAt (rpm : Nat) : List PumpInput := [⟨"pump", .fresh rpm, some 50⟩]

/-- A stall from the spin to its confirmation, and a tick without the header. -/
def stallCycle (start : Nat) : List Call :=
  [.tick (pumpAt 1200) start false, .tick (pumpAt 0) start false, .tick (pumpAt 0) (start + pumpStallDetect) false,
    .tick [] (start + pumpStallDetect) false]

def stallCycles : Nat → List Call
  | 0 => []
  | n + 1 => stallCycles n ++ stallCycle (n * pumpStallDetect)

/-- The time of a tick. -/
def Call.time : Call → Option Nat
  | .tick _ now _ => some now
  | .releaseHolds => none

theorem watchOf_after_tick {id : String} {pre : List Call} {inputs : List PumpInput} {now : Nat} {paused : Bool}
    (hids : (inputs.map (·.headerId)).Nodup) :
    (after (pre ++ [.tick inputs now paused])).watchOf id =
      (((after pre).watchOf id).afterTick (inputOf id inputs) now paused).1 := by
  rw [after_concat]
  exact (PumpStallWatch.watchOf_tick hids now paused).1

theorem stallCount_after_tick {id : String} {pre : List Call} {inputs : List PumpInput} {now : Nat} {paused : Bool}
    (hids : (inputs.map (·.headerId)).Nodup) :
    stallCount id (pre ++ [.tick inputs now paused]) = stallCount id pre +
      (((after pre).watchOf id).afterTick (inputOf id inputs) now paused).2.countP StallEvent.isStalled := by
  rw [stallCount_concat]
  congr 2
  exact (PumpStallWatch.watchOf_tick hids now paused).2

theorem distinct_pumpAt (rpm : Nat) : ((pumpAt rpm).map (·.headerId)).Nodup := List.nodup_singleton _

theorem inputOf_pumpAt (rpm : Nat) : inputOf "pump" (pumpAt rpm) = some ⟨"pump", .fresh rpm, some 50⟩ := rfl

section Cycle

variable {w : HeaderWatch} (start : Nat)

theorem spin_tick (hphase : w.phase = .monitoring none) :
    w.afterTick (inputOf "pump" (pumpAt 1200)) start false = ({ w with seenSpinning := true }, []) := by
  cases w
  subst hphase
  simp [inputOf_pumpAt, HeaderWatch.afterTick, HeaderWatch.enter, HeaderWatch.observe, HeaderWatch.noteSpin]

theorem zero_tick (hphase : w.phase = .monitoring none) (hspinning : w.seenSpinning = true) :
    w.afterTick (inputOf "pump" (pumpAt 0)) start false = ({ w with phase := .monitoring (some start) }, []) := by
  cases w
  subst hphase hspinning
  simp [inputOf_pumpAt, HeaderWatch.afterTick, HeaderWatch.enter, HeaderWatch.observe, HeaderWatch.noteSpin,
    HeaderWatch.zeroSample, PumpInput.commanded, pumpFloor, pumpStallDetect]

theorem confirm_tick (hphase : w.phase = .monitoring (some start)) (hspinning : w.seenSpinning = true) :
    w.afterTick (inputOf "pump" (pumpAt 0)) (start + pumpStallDetect) false =
      ({ w with
          stalls := (w.stalls + 1) % 2 ^ 32
          phase := if 2 ≤ (w.stalls + 1) % 2 ^ 32 then .held (start + pumpStallDetect) false
            else .kick (start + pumpStallDetect) false },
        [.stalled "pump" (decide (2 ≤ (w.stalls + 1) % 2 ^ 32))]) := by
  cases w
  subst hphase hspinning
  simp [inputOf_pumpAt, HeaderWatch.afterTick, HeaderWatch.enter, HeaderWatch.observe, HeaderWatch.noteSpin,
    HeaderWatch.zeroSample, PumpInput.commanded, pumpFloor]

theorem leave_tick : w.afterTick (inputOf "pump" []) (start + pumpStallDetect) false = ({ w with phase := .monitoring none }, []) := by
  simp [inputOf, HeaderWatch.afterTick, HeaderWatch.enter]

end Cycle

/-- Up to the confirming tick of the next cycle. -/
def stallCyclesUntil (n : Nat) : List Call :=
  stallCycles n ++ [.tick (pumpAt 1200) (n * pumpStallDetect) false] ++ [.tick (pumpAt 0) (n * pumpStallDetect) false]

theorem after_stallCyclesUntil {n : Nat} (hphase : ((after (stallCycles n)).watchOf "pump").phase = .monitoring none) :
    (after (stallCyclesUntil n)).watchOf "pump" =
      ⟨true, ((after (stallCycles n)).watchOf "pump").stalls, .monitoring (some (n * pumpStallDetect))⟩ ∧
    stallCount "pump" (stallCyclesUntil n) = stallCount "pump" (stallCycles n) := by
  have hspin := spin_tick (n * pumpStallDetect) hphase
  have hzero := zero_tick (w := { (after (stallCycles n)).watchOf "pump" with seenSpinning := true }) (n * pumpStallDetect) hphase rfl
  unfold stallCyclesUntil
  rw [watchOf_after_tick (distinct_pumpAt 0), stallCount_after_tick (distinct_pumpAt 0), watchOf_after_tick (distinct_pumpAt 1200),
    stallCount_after_tick (distinct_pumpAt 1200), hspin]
  dsimp only
  rw [hzero]
  exact ⟨rfl, rfl⟩

/-- What the cycles leave. -/
theorem after_stallCycles (n : Nat) :
    ((after (stallCycles n)).watchOf "pump").phase = .monitoring none ∧
      ((after (stallCycles n)).watchOf "pump").stalls = n % 2 ^ 32 ∧ stallCount "pump" (stallCycles n) = n := by
  induction n with
  | zero => exact ⟨rfl, rfl, rfl⟩
  | succ n ih =>
    obtain ⟨hphase, hstalls, hcount⟩ := ih
    obtain ⟨huntil, hsame⟩ := after_stallCyclesUntil hphase
    have hcalls : stallCycles (n + 1) = stallCyclesUntil n ++ [.tick (pumpAt 0) (n * pumpStallDetect + pumpStallDetect) false] ++
        [.tick [] (n * pumpStallDetect + pumpStallDetect) false] := by
      simp [stallCycles, stallCycle, stallCyclesUntil]
    have hempty : (([] : List PumpInput).map (·.headerId)).Nodup := List.nodup_nil
    rw [hcalls, watchOf_after_tick hempty, stallCount_after_tick hempty, watchOf_after_tick (distinct_pumpAt 0),
      stallCount_after_tick (distinct_pumpAt 0), leave_tick, huntil, confirm_tick _ rfl rfl, hsame, hcount, hstalls]
    exact ⟨rfl, Nat.mod_add_mod n (2 ^ 32) 1, rfl⟩

theorem distinct_stallCyclesUntil (n : Nat) : ∀ c ∈ stallCyclesUntil n, c.Distinct := by
  have hcycles : ∀ c ∈ stallCycles n, c.Distinct := by
    induction n with
    | zero => nofun
    | succ n ih =>
      refine List.forall_mem_append.mpr ⟨ih, ?_⟩
      simp [stallCycle, Call.Distinct, pumpAt]
  refine List.forall_mem_append.mpr ⟨List.forall_mem_append.mpr ⟨hcycles, ?_⟩, ?_⟩ <;>
    exact List.forall_mem_singleton.mpr (distinct_pumpAt _)

/-- The cycles' times do not decrease, and end by the beginning of the next cycle. -/
theorem times_stallCycles (n : Nat) :
    ((stallCycles n).filterMap Call.time).Pairwise (· ≤ ·) ∧ ∀ t ∈ (stallCycles n).filterMap Call.time, t ≤ n * pumpStallDetect := by
  induction n with
  | zero => exact ⟨List.Pairwise.nil, nofun⟩
  | succ n ih =>
    obtain ⟨hsorted, hbound⟩ := ih
    have hcycle : (stallCycle (n * pumpStallDetect)).filterMap Call.time =
        [n * pumpStallDetect, n * pumpStallDetect, n * pumpStallDetect + pumpStallDetect, n * pumpStallDetect + pumpStallDetect] := rfl
    rw [stallCycles, List.filterMap_append, hcycle, Nat.succ_mul]
    constructor
    · refine List.pairwise_append.mpr ⟨hsorted, by simp, fun t ht t' ht' => ?_⟩
      have hstart := hbound t ht
      simp only [List.mem_cons, List.not_mem_nil, or_false] at ht'
      omega
    · intro t ht
      rcases List.mem_append.mp ht with ht | ht
      · have hstart := hbound t ht
        omega
      · simp only [List.mem_cons, List.not_mem_nil, or_false] at ht
        omega

/-- The stall after `n` others, where the count wraps. -/
theorem stall_at_wrap {n : Nat} (hlast : (n % 2 ^ 32 + 1) % 2 ^ 32 = 0) :
    stallCount "pump" (stallCyclesUntil n) = n ∧
      StallEvent.stalled "pump" false ∈
        ((after (stallCyclesUntil n)).tick (pumpAt 0) (n * pumpStallDetect + pumpStallDetect) false).2 := by
  obtain ⟨hphase, hstalls, hcount⟩ := after_stallCycles n
  obtain ⟨huntil, hsame⟩ := after_stallCyclesUntil hphase
  refine ⟨by rw [hsame, hcount], ?_⟩
  have hevents := (@PumpStallWatch.watchOf_tick (after (stallCyclesUntil n)) "pump" (pumpAt 0) (distinct_pumpAt 0)
    (n * pumpStallDetect + pumpStallDetect) false).2
  rw [huntil, confirm_tick _ rfl rfl, hstalls, hlast] at hevents
  have hmem : StallEvent.stalled "pump" false ∈ eventsOf "pump"
      ((after (stallCyclesUntil n)).tick (pumpAt 0) (n * pumpStallDetect + pumpStallDetect) false).2 := by
    rw [hevents]
    exact List.mem_singleton.mpr rfl
  exact List.mem_of_mem_filter hmem

theorem times_stallCyclesUntil (n : Nat) :
    ((stallCyclesUntil n ++ [Call.tick (pumpAt 0) (n * pumpStallDetect + pumpStallDetect) false]).filterMap
      Call.time).Pairwise (· ≤ ·) := by
  obtain ⟨hsorted, hbound⟩ := times_stallCycles n
  have htimes : (stallCyclesUntil n ++ [Call.tick (pumpAt 0) (n * pumpStallDetect + pumpStallDetect) false]).filterMap Call.time =
      (stallCycles n).filterMap Call.time ++ [n * pumpStallDetect, n * pumpStallDetect, n * pumpStallDetect + pumpStallDetect] := by
    simp [stallCyclesUntil, Call.time]
  rw [htimes]
  refine List.pairwise_append.mpr ⟨hsorted, by simp, fun t ht t' ht' => ?_⟩
  have hstart := hbound t ht
  simp only [List.mem_cons, List.not_mem_nil, or_false] at ht'
  omega

/-- **A stall that is not the first may hold nothing**: the `2 ^ 32`-th, of calls with distinct ids and times that
do not decrease. -/
theorem held_wraps :
    (∀ c ∈ stallCyclesUntil (2 ^ 32 - 1), c.Distinct) ∧
      ((stallCyclesUntil (2 ^ 32 - 1) ++ [Call.tick (pumpAt 0) ((2 ^ 32 - 1) * pumpStallDetect + pumpStallDetect) false]).filterMap
        Call.time).Pairwise (· ≤ ·) ∧
      stallCount "pump" (stallCyclesUntil (2 ^ 32 - 1)) = 2 ^ 32 - 1 ∧
      StallEvent.stalled "pump" false ∈
        ((after (stallCyclesUntil (2 ^ 32 - 1))).tick (pumpAt 0) ((2 ^ 32 - 1) * pumpStallDetect + pumpStallDetect) false).2 :=
  ⟨distinct_stallCyclesUntil _, times_stallCyclesUntil _, stall_at_wrap (by decide)⟩

/-- A pump that turned and then reads zero is reported after ten seconds of it, and raised. -/
theorem stall_watch_sound_firstStall :
    "pump" ∈ (after ((stallCycle 0).take 3)).raisedHeaders ∧ (∃ held, StallEvent.stalled "pump" held ∈ said ((stallCycle 0).take 3)) ∧
      ∃ since, since + pumpStallDetect ≤ pumpStallDetect ∧ Window "pump" ((stallCycle 0).take 3) since := by
  have hdistinct : ∀ c ∈ (stallCycle 0).take 3, c.Distinct := by simp [stallCycle, Call.Distinct, pumpAt]
  have hraised : "pump" ∈ (after ((stallCycle 0).take 3)).raisedHeaders := PumpStallWatch.mem_raisedHeaders.mpr (by decide)
  obtain ⟨hsaid, hreported⟩ := stall_watch_sound ((stallCycle 0).take 3) hdistinct "pump"
  exact ⟨hraised, hsaid hraised, (hreported ((stallCycle 0).take 2) (pumpAt 0) pumpStallDetect false [] false rfl (by decide)).1⟩

end ControlOfc.PumpStall
