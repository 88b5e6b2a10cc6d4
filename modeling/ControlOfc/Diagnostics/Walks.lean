import ControlOfc.Diagnostics.InPlan
import ControlOfc.Diagnostics.Discovery
/-! # The walks keep to their plans

What a sweep and the cycles of a discovery write is a prefix of their duties, each written when every gate before it
has passed; where one refuses, the walk is left.
-/
namespace ControlOfc.Diagnostics
open Asking Question

theorem Going.wp_elapsed {Sample Pub V ε : Type} {W : List Nat} {s : Run Sample Pub V} {E : ε → Run Sample Pub V → Prop}
    {T : Nat → Run Sample Pub V → Prop} (started : Nat) (h : Going W s) (hgo : ∀ t s, Going W s → T t s) :
    (elapsed started).wp T E s := by
  unfold elapsed
  exact wp_askBind fun t => hgo _ _ (h.note rfl rfl)

/-! ## The sweep -/

namespace Sweep

variable {args : SweepArgs} {original : Option Nat} {measured : List CharPoint} {W walk : List Nat} {s : SweepRun}

theorem going_readOr {T : HwmonVerifyState → SweepRun → Prop} (hpre : W <+: walk) (h : Going W s)
    (hgo : ∀ r s, Going W s → T r s) : (readOr original measured).wp T (fun _ => Cut walk) s := by
  unfold readOr noteUnresponsive
  refine wp_askBind fun answer => ?_
  replace h := h.note (q := read) (a := answer) rfl rfl
  cases answer with
  | some sample => exact hgo _ _ h
  | none => exact (h.toStopped.of_mem (m := { s.mem with unresponsive := true }) rfl rfl rfl rfl rfl).cut hpre

theorem going_stopIfProtected {T : Unit → SweepRun → Prop} (hpre : W <+: walk) (h : Going W s)
    (hgo : ∀ s, Going W s → T () s) : (stopIfProtected args original measured).wp T (fun _ => Cut walk) s := by
  unfold stopIfProtected
  rw [Act.wp_bind]
  exact h.wp_becameProtected hgo fun s h => h.cut hpre

theorem going_beforeWrite {T : Unit → SweepRun → Prop} (idx : Nat) (hpre : W <+: walk) (h : Going W s)
    (hgo : ∀ s, Going W s → T () s) : (beforeWrite args original idx measured).wp T (fun _ => Cut walk) s := by
  unfold beforeWrite
  refine Act.wp_bind.mpr (h.wp_stepGate _ _ (fun s h => ?_) fun r s h => ?_)
  · refine Act.wp_bind.mpr (going_stopIfProtected hpre h fun s h => ?_)
    refine wp_askBind fun down => ?_
    cases down with
    | true => exact (h.toStopped.note rfl rfl).cut hpre
    | false => exact hgo _ (h.note rfl rfl)
  · cases r <;> exact h.cut hpre

theorem going_command {T : Unit → SweepRun → Prop} (idx : Nat) (step : SweepStep) (before : HwmonVerifyState)
    (hpre : W ++ [step.pct] <+: walk) (h : Going W s) (hgo : ∀ s, Going (W ++ [step.pct]) s → T () s) :
    (command original idx step before measured).wp T (fun _ => Cut walk) s := by
  unfold command PumpWatch.noteWrite noteWriteUnresponsive
  simp only [Act.wp_bind, wp_modify]
  refine wp_ask fun a => ?_
  rcases a with (e | _) | _
  · have hon := h.wrote_on step.pct (a := .error (.error e)) rfl (m := { s.mem with wroteAny := true, lastWritten := some step.pct })
      rfl rfl rfl rfl rfl
    exact (hon.toStopped.note (q := publish _) (a := ()) rfl rfl).cut hpre
  · exact (h.wrote step.pct (.error .unresponsive)
      (m := { s.mem with wroteAny := true, lastWritten := some step.pct, writeStuck := true }) rfl rfl rfl rfl rfl).cut hpre
  · exact hgo _ (h.wrote_on step.pct (a := .ok ()) rfl (m := { s.mem with wroteAny := true, lastWritten := some step.pct })
      rfl rfl rfl rfl rfl)

theorem going_renew {T : Holding → SweepRun → Prop} (holding : Holding) (hpre : W <+: walk) (h : Going W s)
    (hgo : ∀ r s, Going W s → T r s) : (renew original measured holding).wp T (fun _ => Cut walk) s := by
  unfold renew
  refine Act.wp_bind.mpr (h.wp_elapsed _ fun t s h => ?_)
  split
  · unfold thermalGate
    simp only [Act.wp_bind]
    refine h.wp_thermalRefusal _ _ (fun s h => ?_) fun r s h => h.cut hpre
    refine wp_askBind fun alive => ?_
    cases alive with
    | true => exact wp_askBind fun t => hgo _ _ ((h.note (q := keepalive) (a := true) rfl rfl).note rfl rfl)
    | false => exact (h.toStopped.note rfl rfl).cut hpre
  · exact hgo _ _ h

theorem going_cancelInDwell {T : Unit → SweepRun → Prop} (idx : Nat) (step : SweepStep) (started : Nat) (hpre : W <+: walk)
    (h : Going W s) (hgo : ∀ s, Going W s → T () s) :
    (cancelInDwell args original idx step measured started).wp T (fun _ => Cut walk) s := by
  unfold cancelInDwell
  split
  · refine Act.wp_bind.mpr (h.wp_elapsed _ fun t s h => ?_)
    split
    · refine wp_askBind fun cancelled => ?_
      cases cancelled with
      | true => exact (h.toStopped.note rfl rfl).cut hpre
      | false => exact hgo _ (h.note rfl rfl)
    · exact hgo _ h
  · exact hgo _ h

theorem going_announceDwell {E : Left SweepOutcome → SweepRun → Prop} {T : Holding → SweepRun → Prop} (idx : Nat)
    (step : SweepStep) (started : Nat) (holding : Holding) (h : Going W s) (hgo : ∀ r s, Going W s → T r s) :
    (announceDwell args idx step started holding).wp T E s := by
  unfold announceDwell
  split
  · refine Act.wp_bind.mpr (h.wp_elapsed _ fun t s h => ?_)
    split
    · refine Act.wp_bind.mpr (h.wp_elapsed _ fun t s h => ?_)
      exact wp_askBind fun u => hgo _ _ (h.note rfl rfl)
    · exact hgo _ _ h
  · exact hgo _ _ h

/-- A pass of a hold after its stop checks. -/
theorem going_sample {T : Holding ⊕ List RpmSample → SweepRun → Prop} (idx : Nat) (step : SweepStep) (started : Nat)
    (holding : Holding) (hpre : W <+: walk) (h : Going W s) (hgo : ∀ r s, Going W s → T r s) :
    (do
      let h ← renew original measured holding
      cancelInDwell args original idx step measured started
      let h ← announceDwell args idx step started h
      let atMs := millis (← elapsed started)
      let sample ← readOr original measured
      return .inl { h with samples := h.samples ++ [⟨atMs, sample.rpm⟩] } : Walk (Holding ⊕ List RpmSample)).wp T
        (fun _ => Cut walk) s := by
  refine Act.wp_bind.mpr (going_renew holding hpre h fun holding s h => ?_)
  refine Act.wp_bind.mpr (going_cancelInDwell idx step started hpre h fun s h => ?_)
  refine Act.wp_bind.mpr (going_announceDwell idx step started holding h fun holding s h => ?_)
  refine Act.wp_bind.mpr (h.wp_elapsed started fun t s h => ?_)
  exact Act.wp_bind.mpr (going_readOr hpre h fun sample s h => hgo _ _ h)

theorem going_holdPass {T : Holding ⊕ List RpmSample → SweepRun → Prop} (idx : Nat) (step : SweepStep)
    (before : HwmonVerifyState) (started : Nat) (holding : Holding) (hpre : W <+: walk) (h : Going W s)
    (hgo : ∀ r s, Going W s → T r s) :
    (holdPass args original idx step before measured started holding).wp T (fun _ => Cut walk) s := by
  unfold holdPass
  refine Act.wp_bind.mpr (h.wp_elapsed _ fun t s h => ?_)
  dsimp only
  split
  · exact hgo _ _ h
  · refine Act.wp_bind.mpr (h.wp_elapsed _ fun t s h => ?_)
    refine wp_askBind fun u => ?_
    replace h := h.note (q := sleep _) (a := u) rfl rfl
    refine wp_askBind fun down => ?_
    cases down with
    | true => exact ((h.toStopped.note (q := shuttingDown) (a := true) rfl rfl).note (q := now) rfl rfl).cut hpre
    | false =>
      replace h := h.note (q := shuttingDown) (a := false) rfl rfl
      simp only [Bool.false_eq_true, if_false, Act.wp_bind]
      refine h.wp_elapsed _ fun t s h => ?_
      split
      · rw [Act.wp_bind]
        exact going_stopIfProtected hpre h fun s h => going_sample idx step started holding hpre h hgo
      · exact going_sample idx step started holding hpre h hgo

theorem going_hold {T : List RpmSample → SweepRun → Prop} (fuel idx : Nat) (step : SweepStep) (before : HwmonVerifyState)
    (started : Nat) (hpre : W <+: walk) (h : Going W s) (hgo : ∀ r s, Going W s → T r s) :
    (hold args original fuel idx step before measured started).wp T (fun _ => Cut walk) s := by
  unfold hold
  refine wp_askBind fun u => ?_
  replace h := h.note (q := publish _) (a := u) rfl rfl
  refine wp_askBind fun t => ?_
  replace h := h.note (q := now) (a := t) rfl rfl
  have hloop : ∀ b, Act.Triple (Going W) (Act.iterate .unended (holdPass args original idx step before measured started) fuel b)
      (fun _ => Going W) fun _ => Cut walk := by
    intro b
    refine Act.Triple.iterate (I := fun _ => Going W) (E := fun _ => Cut walk) (fun b s h => ?_) (fun _ _ h => h.toStopped.cut hpre) fuel b
    exact going_holdPass idx step before started b hpre h fun r s h => by cases r <;> exact h
  exact (hloop _).wp h hgo fun _ _ h => h

/-- A step writes its duty once, when every gate before it has passed. -/
theorem going_walkStep {T : List CharPoint → SweepRun → Prop} (fuel idx : Nat) (step : SweepStep)
    (hpre : W ++ [step.pct] <+: walk) (h : Going W s) (hgo : ∀ l s, Going (W ++ [step.pct]) s → T l s) :
    (walkStep args original fuel idx step measured).wp T (fun _ => Cut walk) s := by
  have hpreW : W <+: walk := (List.prefix_append W _).trans hpre
  unfold walkStep
  refine Act.wp_bind.mpr (going_readOr hpreW h fun before s h => ?_)
  refine Act.wp_bind.mpr (going_beforeWrite idx hpreW h fun s h => ?_)
  refine Act.wp_bind.mpr (going_command idx step before hpre h fun s h => ?_)
  refine wp_askBind fun started => ?_
  replace h := h.note (q := now) (a := started) rfl rfl
  refine Act.wp_bind.mpr (going_hold fuel idx step before started hpre h fun samples s h => ?_)
  refine Act.wp_bind.mpr (going_readOr hpre h fun after s h => ?_)
  refine Act.wp_bind.mpr (h.wp_elapsed started fun t s h => ?_)
  refine wp_askBind fun u => ?_
  replace h := h.note (q := publish _) (a := u) rfl rfl
  dsimp only
  split
  · refine wp_askBind fun down => ?_
    cases down with
    | true => exact (h.toStopped.note rfl rfl).cut hpre
    | false => exact (h.toStopped.note rfl rfl).cut hpre
  · exact hgo _ _ h

theorem going_walkFrom (fuel idx : Nat) (plan : List SweepStep) (h : Going W s) (hplan : W ++ plan.map (·.pct) = walk) :
    (walkFrom args original fuel idx plan measured).wp (fun _ => Cut walk) (fun _ => Cut walk) s := by
  induction plan generalizing idx measured s W with
  | nil =>
    rw [List.map_nil, List.append_nil] at hplan
    exact h.toStopped.cut (hplan ▸ List.prefix_rfl)
  | cons step rest ih =>
    have hnext : W ++ [step.pct] ++ rest.map (·.pct) = walk := by simpa using hplan
    unfold walkFrom
    rw [Act.wp_bind]
    exact going_walkStep fuel idx step ⟨_, hnext⟩ h fun l s h => ih (idx + 1) h hnext

theorem going_sweepWalk (fuel : Nat) (first : Option HwmonVerifyState) (h : Going [] s) :
    (sweepWalk args original fuel first).wp (fun _ => Cut (args.plan.map (·.pct))) (fun _ => Cut (args.plan.map (·.pct))) s := by
  unfold sweepWalk noteUnresponsive
  cases first with
  | none => exact (h.toStopped.of_mem (m := { s.mem with unresponsive := true }) rfl rfl rfl rfl rfl).cut List.nil_prefix
  | some first => exact going_walkFrom fuel 0 args.plan h (List.nil_append _)

end Sweep

/-! ## The discovery -/

namespace Discovery

/-- The duties of so many cycles. -/
def cycleDuties (args : DiscoveryArgs) (count : Nat) : List Nat :=
  (List.replicate count [args.baselinePct, args.perturbedPct]).flatten

theorem cycleDuties_succ (args : DiscoveryArgs) (count : Nat) :
    cycleDuties args (count + 1) = [args.baselinePct, args.perturbedPct] ++ cycleDuties args count := by
  simp [cycleDuties, List.replicate_succ]

variable {args : DiscoveryArgs} {at_ : Setting} {measured : List DiscoveryCycle} {W walk : List Nat} {s : DiscoveryRun}

theorem going_windowStop {E : Left DiscoveryOutcome → DiscoveryRun → Prop} {T : Option WindowStop → DiscoveryRun → Prop}
    (isOpen : Bool) (h : Going W s) (hgo : ∀ s, Going W s → T none s) (hstop : ∀ r s, Stopped W s → T (some r) s) :
    (windowStop args isOpen).wp T E s := by
  unfold windowStop
  refine wp_askBind fun down => ?_
  cases down with
  | true => exact hstop _ _ (h.toStopped.note rfl rfl)
  | false =>
    replace h := h.note (q := shuttingDown) (a := false) rfl rfl
    cases isOpen with
    | false => exact hgo _ h
    | true =>
      simp only [Bool.false_eq_true, if_false, if_true, Act.wp_bind]
      exact h.wp_becameProtected hgo fun s h => hstop _ _ h

theorem going_sampleOnce {T : DiscoverySample → DiscoveryRun → Prop} (runStarted : Nat) (hpre : W <+: walk) (h : Going W s)
    (hgo : ∀ r s, Going W s → T r s) : (sampleOnce runStarted).wp T (fun _ => Cut walk) s := by
  unfold sampleOnce
  refine wp_askBind fun answer => ?_
  replace h := h.note (q := read) (a := answer) rfl rfl
  cases answer with
  | none => exact h.toStopped.cut hpre
  | some sample =>
    refine Act.wp_bind.mpr (h.wp_elapsed _ fun t s h => ?_)
    exact hgo _ _ (h.of_mem rfl rfl rfl rfl rfl)

/-- A window ends with the walk going on, or with what stopped it. -/
def Windowed {α : Type} (W : List Nat) : Except WindowStop α → DiscoveryRun → Prop
  | .ok _ => Going W
  | .error _ => Stopped W

theorem going_observePass (runStarted started : Nat) (perChannel : List (List (Option Nat))) (hpre : W <+: walk)
    (h : Going W s) :
    (observePass args runStarted started perChannel).wp (Sum.elim (fun _ => Going W) (Windowed W)) (fun _ => Cut walk) s := by
  unfold observePass
  refine Act.wp_bind.mpr (h.wp_elapsed _ fun t s h => ?_)
  refine Act.wp_bind.mpr (going_windowStop _ h (fun s h => ?_) fun r s h => h)
  refine Act.wp_bind.mpr (going_sampleOnce runStarted hpre h fun sample s h => ?_)
  refine Act.wp_bind.mpr (h.wp_elapsed _ fun t s h => ?_)
  dsimp only
  split
  · exact h
  · refine Act.wp_bind.mpr (h.wp_elapsed _ fun t s h => ?_)
    exact wp_askBind fun u => h.note rfl rfl

theorem going_observe (fuel runStarted : Nat) (hpre : W <+: walk) (h : Going W s) :
    (observe args fuel runStarted).wp (Windowed W) (fun _ => Cut walk) s := by
  unfold observe
  refine wp_askBind fun started => ?_
  exact Act.Triple.iterate (I := fun _ => Going W) (fun perChannel s h => going_observePass runStarted started perChannel hpre h)
    (fun _ _ h => h.toStopped.cut hpre) fuel _ _ (h.note rfl rfl)

theorem going_waitOver {E : Left DiscoveryOutcome → DiscoveryRun → Prop} {T : Bool → DiscoveryRun → Prop} (openDone : Bool)
    (started : Nat) (h : Going W s) (hgo : ∀ b s, Going W s → T b s) : (waitOver args openDone started).wp T E s := by
  unfold waitOver
  split
  · exact hgo _ _ h
  · exact Act.wp_bind.mpr (h.wp_elapsed _ fun t s h => hgo _ _ h)

theorem going_settleWaitPass (reference : List (Option Nat)) (runStarted started : Nat) (perChannel : List (List RpmSample))
    (hpre : W <+: walk) (h : Going W s) :
    (settleWaitPass args reference runStarted started perChannel).wp (Sum.elim (fun _ => Going W) (Windowed W))
      (fun _ => Cut walk) s := by
  unfold settleWaitPass
  refine Act.wp_bind.mpr (going_windowStop _ h (fun s h => ?_) fun r s h => h)
  refine Act.wp_bind.mpr (going_sampleOnce runStarted hpre h fun sample s h => ?_)
  refine Act.wp_bind.mpr (h.wp_elapsed _ fun t s h => ?_)
  refine Act.wp_bind.mpr (wp_get.mpr ?_)
  refine Act.wp_bind.mpr (going_waitOver _ started h fun ended s h => ?_)
  split
  · exact Act.wp_bind.mpr (h.wp_elapsed _ fun t s h => h)
  · refine Act.wp_bind.mpr (h.wp_elapsed _ fun t s h => ?_)
    exact wp_askBind fun u => h.note rfl rfl

theorem going_settleWait (fuel : Nat) (reference : List (Option Nat)) (runStarted : Nat) (hpre : W <+: walk) (h : Going W s) :
    (settleWait args fuel reference runStarted).wp (Windowed W) (fun _ => Cut walk) s := by
  unfold settleWait
  refine wp_askBind fun started => ?_
  exact Act.Triple.iterate (I := fun _ => Going W)
    (fun perChannel s h => going_settleWaitPass reference runStarted started perChannel hpre h)
    (fun _ _ h => h.toStopped.cut hpre) fuel _ _ (h.note rfl rfl)

theorem going_thermalOr {T : Unit → DiscoveryRun → Prop} (hpre : W <+: walk) (h : Going W s)
    (hgo : ∀ s, Going W s → T () s) : (thermalOr at_ measured).wp T (fun _ => Cut walk) s := by
  unfold thermalOr thermalRefused
  simp only [Act.wp_bind]
  refine wp_ask fun hot => ?_
  cases hot with
  | some e => exact (h.toStopped.note rfl rfl).cut hpre
  | none =>
    replace h := h.note (q := checkThermalSafety) (a := none) rfl rfl
    refine wp_askBind fun force => ?_
    cases force with
    | some state => exact (h.toStopped.note rfl rfl).cut hpre
    | none =>
      replace h := h.note (q := thermalForceState) (a := none) rfl rfl
      refine wp_ask fun stale => ?_
      cases stale with
      | some e => exact (h.toStopped.note rfl rfl).cut hpre
      | none => exact hgo _ (h.note rfl rfl)

theorem going_shutdownOr {T : Unit → DiscoveryRun → Prop} (hpre : W <+: walk) (h : Going W s)
    (hgo : ∀ s, Going W s → T () s) : (shutdownOr at_ measured).wp T (fun _ => Cut walk) s := by
  unfold shutdownOr
  refine wp_askBind fun down => ?_
  cases down with
  | true => exact (h.toStopped.note rfl rfl).cut hpre
  | false => exact hgo _ (h.note rfl rfl)

theorem going_cancelOr {T : Unit → DiscoveryRun → Prop} (cycle : Nat) (hpre : W <+: walk) (h : Going W s)
    (hgo : ∀ s, Going W s → T () s) : (cancelOr args at_ cycle measured).wp T (fun _ => Cut walk) s := by
  unfold cancelOr
  refine wp_askBind fun cancelled => ?_
  cases cancelled with
  | true => exact (h.toStopped.note rfl rfl).cut hpre
  | false => exact hgo _ (h.note rfl rfl)

theorem going_keepaliveOr {T : Unit → DiscoveryRun → Prop} (hpre : W <+: walk) (h : Going W s)
    (hgo : ∀ s, Going W s → T () s) : (keepaliveOr at_ measured).wp T (fun _ => Cut walk) s := by
  unfold keepaliveOr
  refine wp_askBind fun alive => ?_
  cases alive with
  | true => exact hgo _ (h.note rfl rfl)
  | false => exact (h.toStopped.note rfl rfl).cut hpre

theorem going_protectedOr {T : Unit → DiscoveryRun → Prop} (hpre : W <+: walk) (h : Going W s)
    (hgo : ∀ s, Going W s → T () s) : (protectedOr args at_ measured).wp T (fun _ => Cut walk) s := by
  unfold protectedOr
  rw [Act.wp_bind]
  exact h.wp_becameProtected hgo fun s h => h.cut hpre

theorem going_checkLast {T : Unit → DiscoveryRun → Prop} (last : DiscoverySample) (pct : Nat) (hpre : W <+: walk)
    (h : Going W s) (hgo : ∀ s, Going W s → T () s) :
    (checkLast args at_ last pct measured).wp T (fun _ => Cut walk) s := by
  unfold checkLast
  split
  · exact h.toStopped.cut hpre
  · exact hgo _ h

/-- What came of a write of the walk, whose flag was set before the first. -/
theorem going_accepted {T : Unit → DiscoveryRun → Prop} (pct : Nat) (a : Except WriteFailure Unit)
    (hpre : W ++ [pct] <+: walk) (h : Going W s) {m : RunMem Counters} (hwrote : m.wroteAny = true)
    (hstuck : m.writeStuck = s.mem.writeStuck) (hseen : m.seen = s.mem.seen) (hlast : m.lastWritten = some pct)
    (hreport : m.report = s.mem.report) (hgo : ∀ s, Going (W ++ [pct]) s → T () s) :
    (accepted at_ pct measured a).wp T (fun _ => Cut walk) { s.note (write pct) a with mem := m } := by
  rcases a with (e | _) | _
  · exact (h.wrote_on pct (a := .error (.error e)) rfl hwrote hstuck hseen hlast hreport).toStopped.cut hpre
  · exact (h.wrote pct (.error .unresponsive) (m := { m with writeStuck := true }) hwrote rfl hseen hlast hreport).cut hpre
  · exact hgo _ (h.wrote_on pct (a := .ok ()) rfl hwrote hstuck hseen hlast hreport)

theorem going_toBaseline {T : Option Bool × Nat × List Bool → DiscoveryRun → Prop} (fuel cycle : Nat) (c : Carry)
    (hpre : W ++ [args.baselinePct] <+: walk) (h : Going W s)
    (hgo : ∀ r s, Going (W ++ [args.baselinePct]) s → T r s) :
    (toBaseline args at_ fuel cycle c).wp T (fun _ => Cut walk) s := by
  have hpreW : W <+: walk := (List.prefix_append W _).trans hpre
  unfold toBaseline PumpWatch.noteWrite
  refine Act.wp_bind.mpr (going_shutdownOr hpreW h fun s h => ?_)
  refine Act.wp_bind.mpr (going_cancelOr cycle hpreW h fun s h => ?_)
  refine Act.wp_bind.mpr (going_thermalOr hpreW h fun s h => ?_)
  refine Act.wp_bind.mpr (going_keepaliveOr hpreW h fun s h => ?_)
  refine Act.wp_bind.mpr (going_shutdownOr hpreW h fun s h => ?_)
  refine Act.wp_bind.mpr (going_protectedOr hpreW h fun s h => ?_)
  refine Act.wp_bind.mpr (wp_modify.mpr (Act.wp_bind.mpr (wp_modify.mpr (wp_askBind fun a => ?_))))
  refine Act.wp_bind.mpr (going_accepted args.baselinePct a hpre h rfl rfl rfl rfl rfl fun s h => ?_)
  split
  · refine wp_askBind fun u => ?_
    replace h := h.note (q := publish _) (a := u) rfl rfl
    refine Act.wp_bind.mpr ((going_settleWait fuel c.previousTachs at_.runStarted hpre h).mono (fun r s h => ?_) fun _ _ h => h)
    cases r with
    | error stop => exact h.cut hpre
    | ok waited =>
      refine Act.wp_bind.mpr (going_checkLast waited.last _ hpre h fun s h => ?_)
      refine Act.wp_bind.mpr (going_cancelOr cycle hpre h fun s h => ?_)
      refine Act.wp_bind.mpr (going_thermalOr hpre h fun s h => ?_)
      exact Act.wp_bind.mpr (going_keepaliveOr hpre h fun s h => hgo _ _ h)
  · exact hgo _ _ h

theorem going_windowAt {T : Observed → DiscoveryRun → Prop} (fuel : Nat) (phase : Phase) (cycle pct : Nat)
    (hpre : W <+: walk) (h : Going W s) (hgo : ∀ r s, Going W s → T r s) :
    (windowAt args at_ fuel phase cycle pct measured).wp T (fun _ => Cut walk) s := by
  unfold windowAt
  refine wp_askBind fun u => ?_
  replace h := h.note (q := publish _) (a := u) rfl rfl
  refine Act.wp_bind.mpr ((going_observe fuel at_.runStarted hpre h).mono (fun r s h => ?_) fun _ _ h => h)
  cases r with
  | error stop => exact h.cut hpre
  | ok seen => exact Act.wp_bind.mpr (going_checkLast seen.last pct hpre h fun s h => hgo _ _ h)

theorem going_toPerturbed {T : Unit → DiscoveryRun → Prop} (cycle : Nat) (c : Carry) (hW : W ≠ [])
    (hpre : W ++ [args.perturbedPct] <+: walk) (h : Going W s) (hgo : ∀ s, Going (W ++ [args.perturbedPct]) s → T () s) :
    (toPerturbed args at_ cycle c).wp T (fun _ => Cut walk) s := by
  have hpreW : W <+: walk := (List.prefix_append W _).trans hpre
  unfold toPerturbed PumpWatch.noteWrite
  refine Act.wp_bind.mpr (going_cancelOr cycle hpreW h fun s h => ?_)
  refine Act.wp_bind.mpr (going_thermalOr hpreW h fun s h => ?_)
  refine Act.wp_bind.mpr (going_keepaliveOr hpreW h fun s h => ?_)
  refine Act.wp_bind.mpr (going_shutdownOr hpreW h fun s h => ?_)
  refine Act.wp_bind.mpr (going_protectedOr hpreW h fun s h => ?_)
  have hwrote : s.mem.wroteAny = true := by
    rw [h.ledger.wrote, h.writes, List.isEmpty_eq_false_iff.mpr hW]
    rfl
  refine Act.wp_bind.mpr (wp_modify.mpr (wp_askBind fun a => ?_))
  exact going_accepted args.perturbedPct a hpre h hwrote rfl rfl rfl rfl hgo

/-- A cycle writes its baseline and then its perturbed duty. -/
theorem going_runCycle {T : Carry → DiscoveryRun → Prop} (fuel cycle : Nat) (c : Carry)
    (hpre : W ++ [args.baselinePct, args.perturbedPct] <+: walk) (h : Going W s)
    (hgo : ∀ r s, Going (W ++ [args.baselinePct, args.perturbedPct]) s → T r s) :
    (runCycle args at_ fuel cycle c).wp T (fun _ => Cut walk) s := by
  have htwo : W ++ [args.baselinePct] ++ [args.perturbedPct] = W ++ [args.baselinePct, args.perturbedPct] := by simp
  have hpreB : W ++ [args.baselinePct] <+: walk := (List.prefix_append _ [args.perturbedPct]).trans (htwo ▸ hpre)
  unfold runCycle
  refine Act.wp_bind.mpr (going_toBaseline fuel cycle c hpreB h fun r s h => ?_)
  refine Act.wp_bind.mpr (going_windowAt fuel .baseline cycle _ hpreB h fun base s h => ?_)
  refine Act.wp_bind.mpr (going_toPerturbed cycle c (by simp) (htwo ▸ hpre) h fun s h => ?_)
  rw [htwo] at h
  refine Act.wp_bind.mpr (going_windowAt fuel .perturbed cycle _ hpre h fun pert s h => ?_)
  exact wp_askBind fun u => hgo _ _ (h.note rfl rfl)

theorem going_cyclesFrom {T : Carry → DiscoveryRun → Prop} (fuel cycle left : Nat) (c : Carry) (h : Going W s)
    (hplan : W ++ cycleDuties args left = walk) (hgo : ∀ r s, Going walk s → T r s) :
    (cyclesFrom args at_ fuel cycle left c).wp T (fun _ => Cut walk) s := by
  induction left generalizing cycle c s W with
  | zero =>
    obtain rfl : W = walk := by simpa [cycleDuties] using hplan
    exact hgo _ _ h
  | succ left ih =>
    have hnext : W ++ [args.baselinePct, args.perturbedPct] ++ cycleDuties args left = walk := by
      rw [← hplan, cycleDuties_succ, List.append_assoc]
    unfold cyclesFrom
    rw [Act.wp_bind]
    exact going_runCycle fuel cycle c ⟨_, hnext⟩ h fun c s h => ih (cycle + 1) c h hnext

end Discovery

end ControlOfc.Diagnostics
