import ControlOfc.Diagnostics.Gates
/-! # What a walk keeps to

While no gate has refused, a walk may write the next duty of its plan; from the first refusal on it only ends.
`Going` is the first half and `Stopped` the second; both tie what the run keeps in mind to what was said.
-/
namespace ControlOfc.Diagnostics
open Asking Question

variable {Sample Pub V ε : Type}

/-- A gate refuses, a stop is seen, or the pump union answers yes. -/
def refuses : Event Sample Pub → Bool
  | ⟨.shuttingDown, b⟩ | ⟨.cancel, b⟩ | ⟨.pumpProtected, b⟩ => b
  | ⟨.checkThermalSafety, o⟩ | ⟨.thermalForceState, o⟩ | ⟨.staleTemperature, o⟩ => o.isSome
  | ⟨.keepalive, b⟩ => !b
  | _ => false

theorem isStuck_of_written {e : Event Sample Pub} (h : written e = none) : isStuck e = false := by
  rcases e with ⟨q, a⟩
  cases q <;> first | rfl | cases h

theorem sawPump_of_refuses {e : Event Sample Pub} (h : refuses e = false) : sawPump e = false := by
  rcases e with ⟨q, a⟩
  cases q with
  | pumpProtected =>
    cases a with
    | true => cases h
    | false => rfl
  | _ => rfl

/-- Nothing is written after a refusal, nor after a write that did not return. -/
def Orderly (said : List (Event Sample Pub)) : Prop :=
  said.Pairwise fun x e => (written e).isSome → refuses x = false ∧ isStuck x = false

/-- What a run keeps in mind is what was said. -/
structure Ledger (s : Run Sample Pub V) : Prop where
  wrote : s.mem.wroteAny = !(writes s.said).isEmpty
  stuck : s.mem.writeStuck = s.said.any isStuck
  seen : s.mem.seen = s.said.any sawPump
  last : s.mem.lastWritten = (writes s.said).getLast?
  pending : s.mem.report = .pending

/-- A walk that has written `W`. -/
structure Stopped (W : List Nat) (s : Run Sample Pub V) : Prop where
  ledger : Ledger s
  writes : writes s.said = W
  orderly : Orderly s.said

/-- And may write on. -/
structure Going (W : List Nat) (s : Run Sample Pub V) : Prop extends Stopped W s where
  clear : ∀ e ∈ s.said, refuses e = false ∧ isStuck e = false

/-- A walk that was left. -/
def Cut (walk : List Nat) (s : Run Sample Pub V) : Prop := ∃ W, W <+: walk ∧ Stopped W s

variable {W walk : List Nat} {s : Run Sample Pub V}

theorem Ledger.note (h : Ledger s) {q : Question Pub} {a : Answer Sample q} (hw : written (⟨q, a⟩ : Event Sample Pub) = none)
    (hp : sawPump (⟨q, a⟩ : Event Sample Pub) = false) : Ledger (s.note q a) := by
  have hs := isStuck_of_written hw
  obtain ⟨h1, h2, h3, h4, h5⟩ := h
  constructor <;> simp [h1, h2, h3, h4, h5, hw, hs, hp]

theorem Ledger.heard (h : Ledger s) (b : Bool) : Ledger (heardPump s b) := by
  obtain ⟨h1, h2, h3, h4, h5⟩ := h
  refine ⟨?_, ?_, ?_, ?_, h5⟩
  · simp [heardPump, h1, written]
  · simp [heardPump, h2, isStuck]
  · cases b <;> simp [heardPump, h3, sawPump]
  · simp [heardPump, h4, written]

/-- A write with nothing stuck before it. -/
theorem Ledger.of_write (h : Ledger s) (hnone : s.mem.writeStuck = false) (d : Nat) (a : Except WriteFailure Unit)
    {m : RunMem V} (hwrote : m.wroteAny = true) (hstuck : m.writeStuck = isStuck (⟨write d, a⟩ : Event Sample Pub))
    (hseen : m.seen = s.mem.seen) (hlast : m.lastWritten = some d) (hreport : m.report = s.mem.report) :
    Ledger { s.note (write d) a with mem := m } := by
  rw [h.stuck] at hnone
  refine ⟨?_, ?_, ?_, ?_, hreport.trans h.pending⟩
  · simp [hwrote, written]
  · simp [hstuck, hnone]
  · simp [hseen, h.seen, sawPump]
  · simp [hlast, written]

theorem Orderly.note {said : List (Event Sample Pub)} (h : Orderly said) {e : Event Sample Pub} (hw : written e = none) :
    Orderly (said ++ [e]) := by
  refine List.pairwise_append.mpr ⟨h, List.pairwise_singleton .., fun x _ y hy hwy => ?_⟩
  obtain rfl := List.mem_singleton.mp hy
  rw [hw] at hwy
  cases hwy

theorem Stopped.note (h : Stopped W s) {q : Question Pub} {a : Answer Sample q} (hw : written (⟨q, a⟩ : Event Sample Pub) = none)
    (hp : sawPump (⟨q, a⟩ : Event Sample Pub) = false) : Stopped W (s.note q a) :=
  ⟨h.ledger.note hw hp, by simp [hw, h.writes], h.orderly.note hw⟩

theorem Stopped.heard (h : Stopped W s) (b : Bool) : Stopped W (heardPump s b) :=
  ⟨h.ledger.heard b, by simp [heardPump, h.writes, written], h.orderly.note rfl⟩

/-- The rest of the memory is no part of it. -/
theorem Stopped.of_mem (h : Stopped W s) {m : RunMem V} (hwrote : m.wroteAny = s.mem.wroteAny)
    (hstuck : m.writeStuck = s.mem.writeStuck) (hseen : m.seen = s.mem.seen) (hlast : m.lastWritten = s.mem.lastWritten)
    (hreport : m.report = s.mem.report) : Stopped W { s with mem := m } :=
  ⟨⟨hwrote.trans h.ledger.wrote, hstuck.trans h.ledger.stuck, hseen.trans h.ledger.seen, hlast.trans h.ledger.last,
    hreport.trans h.ledger.pending⟩, h.writes, h.orderly⟩

theorem Stopped.cut (h : Stopped W s) (hpre : W <+: walk) : Cut walk s := ⟨W, hpre, h⟩

namespace Going

theorem note (h : Going W s) {q : Question Pub} {a : Answer Sample q} (hw : written (⟨q, a⟩ : Event Sample Pub) = none)
    (hr : refuses (⟨q, a⟩ : Event Sample Pub) = false) : Going W (s.note q a) := by
  refine ⟨h.toStopped.note hw (sawPump_of_refuses hr), fun e he => ?_⟩
  rcases List.mem_append.mp he with he | he
  · exact h.clear e he
  · obtain rfl := List.mem_singleton.mp he
    exact ⟨hr, isStuck_of_written hw⟩

theorem not_stuck (h : Going W s) : s.mem.writeStuck = false := by
  rw [h.ledger.stuck, List.any_eq_false]
  intro e he
  simp [(h.clear e he).2]

/-- One write of the walk. -/
theorem wrote (h : Going W s) (d : Nat) (a : Except WriteFailure Unit) {m : RunMem V} (hwrote : m.wroteAny = true)
    (hstuck : m.writeStuck = isStuck (⟨write d, a⟩ : Event Sample Pub)) (hseen : m.seen = s.mem.seen)
    (hlast : m.lastWritten = some d) (hreport : m.report = s.mem.report) :
    Stopped (W ++ [d]) { s.note (write d) a with mem := m } :=
  ⟨h.ledger.of_write h.not_stuck d a hwrote hstuck hseen hlast hreport, by simp [written, h.writes],
    List.pairwise_append.mpr ⟨h.orderly, List.pairwise_singleton .., fun x hx _ _ _ => h.clear x hx⟩⟩

/-- The next one may follow where it returned. -/
theorem wrote_on (h : Going W s) (d : Nat) {a : Except WriteFailure Unit}
    (ha : isStuck (⟨write d, a⟩ : Event Sample Pub) = false) {m : RunMem V} (hwrote : m.wroteAny = true)
    (hstuck : m.writeStuck = s.mem.writeStuck) (hseen : m.seen = s.mem.seen) (hlast : m.lastWritten = some d)
    (hreport : m.report = s.mem.report) : Going (W ++ [d]) { s.note (write d) a with mem := m } := by
  refine ⟨h.wrote d a hwrote (by rw [hstuck, h.not_stuck, ha]) hseen hlast hreport, fun e he => ?_⟩
  rcases List.mem_append.mp he with he | he
  · exact h.clear e he
  · obtain rfl := List.mem_singleton.mp he
    exact ⟨rfl, ha⟩

theorem of_mem (h : Going W s) {m : RunMem V} (hwrote : m.wroteAny = s.mem.wroteAny)
    (hstuck : m.writeStuck = s.mem.writeStuck) (hseen : m.seen = s.mem.seen) (hlast : m.lastWritten = s.mem.lastWritten)
    (hreport : m.report = s.mem.report) : Going W { s with mem := m } :=
  ⟨h.toStopped.of_mem hwrote hstuck hseen hlast hreport, h.clear⟩

end Going

/-! ## The gates -/

section Gates

variable {E : ε → Run Sample Pub V → Prop}

theorem Going.wp_becameProtected {T : Bool → Run Sample Pub V → Prop} {w : PumpWatch} (h : Going W s)
    (hgo : ∀ s, Going W s → T false s) (hstop : ∀ s, Stopped W s → T true s) : w.becameProtected.wp T E s := by
  refine PumpWatch.wp_becameProtected (fun _ => hgo s h) (fun _ _ => hstop s h.toStopped) fun _ _ b => ?_
  cases b with
  | true => exact hstop _ (h.toStopped.heard true)
  | false =>
    rw [heardPump_false]
    exact hgo _ (h.note rfl rfl)

theorem Going.wp_thermalRefusal {T : Option (ThermalRefusal × String) → Run Sample Pub V → Prop} (subject action : String)
    (h : Going W s) (hgo : ∀ s, Going W s → T none s) (hstop : ∀ r s, Stopped W s → T (some r) s) :
    (thermalRefusal subject action).wp T E s := by
  unfold thermalRefusal
  refine wp_askBind fun hot => ?_
  cases hot with
  | some e => exact hstop _ _ (h.toStopped.note rfl rfl)
  | none =>
    replace h := h.note (q := checkThermalSafety) (a := none) rfl rfl
    refine wp_askBind fun force => ?_
    cases force with
    | some e => exact hstop _ _ (h.toStopped.note rfl rfl)
    | none =>
      replace h := h.note (q := thermalForceState) (a := none) rfl rfl
      refine wp_askBind fun stale => ?_
      cases stale with
      | some e => exact hstop _ _ (h.toStopped.note rfl rfl)
      | none => exact hgo _ (h.note rfl rfl)

theorem Going.wp_stepGate {T : Except GateStop Unit → Run Sample Pub V → Prop} (subject action : String)
    (h : Going W s) (hgo : ∀ s, Going W s → T (.ok ()) s) (hstop : ∀ r s, Stopped W s → T (.error r) s) :
    (stepGate subject action).wp T E s := by
  unfold stepGate
  refine wp_askBind fun down => ?_
  cases down with
  | true => exact hstop _ _ (h.toStopped.note rfl rfl)
  | false =>
    replace h := h.note (q := shuttingDown) (a := false) rfl rfl
    refine wp_askBind fun cancelled => ?_
    cases cancelled with
    | true => exact hstop _ _ (h.toStopped.note rfl rfl)
    | false =>
      replace h := h.note (q := cancel) (a := false) rfl rfl
      refine Act.wp_bind.mpr (h.wp_thermalRefusal _ _ (fun s h => ?_) fun r s h => hstop _ _ h)
      refine wp_askBind fun alive => ?_
      cases alive with
      | true => exact hgo _ (h.note rfl rfl)
      | false => exact hstop _ _ (h.toStopped.note rfl rfl)

end Gates

end ControlOfc.Diagnostics
