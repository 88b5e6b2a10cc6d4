import ControlOfc.Diagnostics.Sweep
/-! # What a sweep publishes and what it ends with

A point is published as soon as it is measured; the one that a shutdown cuts short in its hold is not, and is
only in the outcome.
-/
namespace ControlOfc.Diagnostics.Sweep
open Asking Question

abbrev SweepEvent := Event HwmonVerifyState News

def publishedPoint : SweepEvent → Option CharPoint
  | ⟨.publish (.point p), _⟩ => some p
  | _ => none

def publishedPoints (said : List SweepEvent) : List CharPoint := said.filterMap publishedPoint

@[simp] theorem publishedPoints_nil : publishedPoints [] = [] := rfl

@[simp] theorem publishedPoints_append (l l' : List SweepEvent) :
    publishedPoints (l ++ l') = publishedPoints l ++ publishedPoints l' := List.filterMap_append

theorem publishedPoints_note (s : SweepRun) (q : Question News) (a : Answer HwmonVerifyState q) :
    publishedPoints (s.note q a).said = publishedPoints s.said ++ (publishedPoint ⟨q, a⟩).toList := by
  rw [note_said, publishedPoints_append]
  cases h : publishedPoint ⟨q, a⟩ <;> simp [publishedPoints, h]

/-- Exactly these points were published. -/
def At (points : List CharPoint) (s : SweepRun) : Prop := publishedPoints s.said = points

/-- All but the last point of an outcome were published, in order. -/
def Covers (o : SweepOutcome) (said : List SweepEvent) : Prop :=
  publishedPoints said <+: o.points ∧ o.points.length ≤ (publishedPoints said).length + 1

/-- Where a walk is left. -/
def Told (e : Left SweepOutcome) (s : SweepRun) : Prop := ∀ o, e = .returned o → Covers o s.said

section Quiet

variable {V ε : Type} {l : List CharPoint} {s : SweepRun}

theorem At.note (h : At l s) {q : Question News} (hq : ∀ a, publishedPoint ⟨q, a⟩ = none) (a : Answer HwmonVerifyState q) :
    At l (s.note q a) := by
  unfold At
  rw [publishedPoints_note, hq, h]
  simp

theorem At.published (h : At l s) (p : CharPoint) : At (l ++ [p]) (s.note (.publish (.point p)) ()) := by
  unfold At
  rw [publishedPoints_note, h]
  rfl

theorem wp_finish {α : Type} {T : α → SweepRun → Prop} (original : Option Nat) (state : EndState) (detail : Option String)
    (h : At l s) : (finish original state detail l).wp T Told s := by
  simp only [finish, Act.wp_leave]
  intro o ho
  obtain rfl := Left.returned.inj ho
  rw [Covers, h]
  exact ⟨List.prefix_rfl, Nat.le_succ _⟩

/-- The point a shutdown cuts short. -/
theorem wp_finish_cut {α : Type} {T : α → SweepRun → Prop} (original : Option Nat) (state : EndState)
    (detail : Option String) (p : CharPoint) (h : At l s) : (finish original state detail (l ++ [p])).wp T Told s := by
  simp only [finish, Act.wp_leave]
  intro o ho
  obtain rfl := Left.returned.inj ho
  rw [Covers, h]
  exact ⟨List.prefix_append _ _, by simp⟩

theorem wp_thermalRefusal {E : ε → SweepRun → Prop} {T : Option (ThermalRefusal × String) → SweepRun → Prop}
    (subject action : String) (h : At l s) (hT : ∀ r s, At l s → T r s) : (thermalRefusal subject action).wp T E s := by
  unfold thermalRefusal
  refine wp_askBind fun hot => ?_
  replace h := h.note (fun _ => rfl) hot
  cases hot with
  | some e => exact hT _ _ h
  | none =>
    refine wp_askBind fun force => ?_
    replace h := h.note (fun _ => rfl) force
    cases force with
    | some state => exact hT _ _ h
    | none =>
      refine wp_askBind fun stale => ?_
      replace h := h.note (fun _ => rfl) stale
      cases stale <;> exact hT _ _ h

theorem wp_becameProtected {E : ε → SweepRun → Prop} {T : Bool → SweepRun → Prop} (w : PumpWatch) (h : At l s)
    (hT : ∀ b s, At l s → T b s) : w.becameProtected.wp T E s :=
  PumpWatch.wp_becameProtected (fun _ => hT _ _ h) (fun _ _ => hT _ _ h) fun _ _ b =>
    hT _ _ (h.note (q := pumpProtected) (fun _ => rfl) b)

end Quiet

section Walk

variable {args : SweepArgs} {original : Option Nat} {l : List CharPoint} {s : SweepRun}

theorem wp_readOr {T : HwmonVerifyState → SweepRun → Prop} (h : At l s) (hT : ∀ a s, At l s → T a s) :
    (readOr original l).wp T Told s := by
  unfold readOr
  refine wp_askBind fun a => ?_
  replace h := h.note (fun _ => rfl) a
  cases a with
  | some sample => exact hT _ _ h
  | none =>
    simp only [noteUnresponsive, Act.wp_bind, wp_modify, Act.wp_pure]
    exact wp_finish original _ _ h

theorem wp_stopIfProtected {T : Unit → SweepRun → Prop} (h : At l s) (hT : ∀ s, At l s → T () s) :
    (stopIfProtected args original l).wp T Told s := by
  unfold stopIfProtected
  simp only [Act.wp_bind]
  refine wp_becameProtected _ h fun b s h => ?_
  cases b with
  | true => exact wp_finish original _ _ h
  | false => exact hT _ h

theorem wp_stepGate {ε : Type} {E : ε → SweepRun → Prop} {T : Except GateStop Unit → SweepRun → Prop} (subject action : String)
    (h : At l s) (hT : ∀ r s, At l s → T r s) : (stepGate subject action).wp T E s := by
  unfold stepGate
  refine wp_askBind fun down => ?_
  replace h := h.note (fun _ => rfl) down
  cases down with
  | true => exact hT _ _ h
  | false =>
    refine wp_askBind fun cancelled => ?_
    replace h := h.note (fun _ => rfl) cancelled
    cases cancelled with
    | true => exact hT _ _ h
    | false =>
      simp only [Bool.false_eq_true, if_false, Act.wp_bind]
      refine wp_thermalRefusal subject action h fun r s h => ?_
      cases r with
      | some refusal => exact hT _ _ h
      | none =>
        refine wp_askBind fun alive => ?_
        replace h := h.note (fun _ => rfl) alive
        cases alive <;> exact hT _ _ h

theorem wp_beforeWrite {T : Unit → SweepRun → Prop} (idx : Nat) (h : At l s) (hT : ∀ s, At l s → T () s) :
    (beforeWrite args original idx l).wp T Told s := by
  unfold beforeWrite
  simp only [Act.wp_bind]
  refine wp_stepGate _ _ h fun r s h => ?_
  cases r with
  | error stop => cases stop <;> exact wp_finish original _ _ h
  | ok u =>
    simp only [Act.wp_bind]
    refine wp_stopIfProtected h fun s h => ?_
    refine wp_askBind fun down => ?_
    replace h := h.note (fun _ => rfl) down
    cases down with
    | true => exact wp_finish original _ _ h
    | false => exact hT _ h

theorem wp_command {T : Unit → SweepRun → Prop} (idx : Nat) (step : SweepStep) (before : HwmonVerifyState) (h : At l s)
    (hT : ∀ s, At l s → T () s) : (command original idx step before l).wp T Told s := by
  unfold command PumpWatch.noteWrite
  simp only [Act.wp_bind, wp_modify]
  refine wp_ask fun a => ?_
  have h' : At l ({ s with mem := { { s.mem with wroteAny := true } with lastWritten := some step.pct } }.note (.write step.pct) a) :=
    At.note h (fun _ => rfl) a
  rcases a with (⟨e⟩ | _) | _
  · simp only [Act.wp_bind]
    refine wp_ask fun u => ?_
    exact wp_finish original _ _ (h'.published _)
  · simp only [Act.wp_bind, noteWriteUnresponsive, wp_modify, Act.wp_pure]
    exact wp_finish original _ _ h'
  · exact hT _ h'

theorem wp_elapsed {T : Nat → SweepRun → Prop} (started : Nat) (h : At l s) (hT : ∀ t s, At l s → T t s) :
    (elapsed (ε := Left SweepOutcome) started).wp T Told s := by
  unfold elapsed
  exact wp_askBind fun t => hT _ _ (h.note (fun _ => rfl) t)

theorem wp_renew {T : Holding → SweepRun → Prop} (holding : Holding) (h : At l s) (hT : ∀ r s, At l s → T r s) :
    (renew original l holding).wp T Told s := by
  unfold renew
  simp only [Act.wp_bind]
  refine wp_elapsed _ h fun t s h => ?_
  split
  · simp only [Act.wp_bind, thermalGate]
    refine wp_thermalRefusal _ _ h fun r s h => ?_
    cases r with
    | some refusal =>
      simp only [Option.map_some, Act.wp_pure, Act.wp_bind]
      exact wp_finish original _ _ h
    | none =>
      refine wp_askBind fun alive => ?_
      replace h := h.note (fun _ => rfl) alive
      cases alive with
      | true => exact wp_askBind fun t => hT _ _ (h.note (fun _ => rfl) t)
      | false =>
        apply wp_finish
        exact h
  · exact hT _ _ h

theorem wp_cancelInDwell {T : Unit → SweepRun → Prop} (idx : Nat) (step : SweepStep) (started : Nat) (h : At l s)
    (hT : ∀ s, At l s → T () s) : (cancelInDwell args original idx step l started).wp T Told s := by
  unfold cancelInDwell
  split
  · simp only [Act.wp_bind]
    refine wp_elapsed _ h fun t s h => ?_
    split
    · refine wp_askBind fun cancelled => ?_
      replace h := h.note (fun _ => rfl) cancelled
      cases cancelled with
      | true => exact wp_finish original _ _ h
      | false => exact hT _ h
    · exact hT _ h
  · exact hT _ h

theorem wp_announceDwell {T : Holding → SweepRun → Prop} (idx : Nat) (step : SweepStep) (started : Nat) (holding : Holding)
    (h : At l s) (hT : ∀ r s, At l s → T r s) : (announceDwell args idx step started holding).wp T Told s := by
  unfold announceDwell
  split
  · simp only [Act.wp_bind]
    refine wp_elapsed _ h fun t s h => ?_
    split
    · simp only [Act.wp_bind]
      refine wp_elapsed _ h fun t s h => ?_
      exact wp_askBind fun u => hT _ _ (h.note (fun _ => rfl) u)
    · exact hT _ _ h
  · exact hT _ _ h

/-- A pass of a hold after its shutdown check. -/
theorem wp_sample {T : Holding ⊕ List RpmSample → SweepRun → Prop} (idx : Nat) (step : SweepStep) (started : Nat)
    (holding : Holding) (h : At l s) (hT : ∀ r s, At l s → T r s) :
    (do
      let h ← renew original l holding
      cancelInDwell args original idx step l started
      let h ← announceDwell args idx step started h
      let atMs := millis (← elapsed started)
      let sample ← readOr original l
      return .inl { h with samples := h.samples ++ [⟨atMs, sample.rpm⟩] } : Walk (Holding ⊕ List RpmSample)).wp T Told s := by
  refine Act.wp_bind.mpr (wp_renew holding h fun holding s h => ?_)
  refine Act.wp_bind.mpr (wp_cancelInDwell idx step started h fun s h => ?_)
  refine Act.wp_bind.mpr (wp_announceDwell idx step started holding h fun holding s h => ?_)
  refine Act.wp_bind.mpr (wp_elapsed started h fun t s h => ?_)
  exact Act.wp_bind.mpr (wp_readOr h fun sample s h => hT _ _ h)

theorem wp_holdPass {T : Holding ⊕ List RpmSample → SweepRun → Prop} (idx : Nat) (step : SweepStep) (before : HwmonVerifyState)
    (started : Nat) (holding : Holding) (h : At l s) (hT : ∀ r s, At l s → T r s) :
    (holdPass args original idx step before l started holding).wp T Told s := by
  unfold holdPass
  simp only [Act.wp_bind]
  refine wp_elapsed _ h fun t s h => ?_
  split
  · exact hT _ _ h
  · simp only [Act.wp_bind]
    refine wp_elapsed _ h fun t s h => ?_
    refine wp_askBind fun u => ?_
    replace h := h.note (fun _ => rfl) u
    refine wp_askBind fun down => ?_
    replace h := h.note (fun _ => rfl) down
    cases down with
    | true =>
      simp only [if_true, Act.wp_bind]
      refine wp_elapsed _ h fun t s h => ?_
      exact wp_finish_cut original _ _ _ h
    | false =>
      simp only [Bool.false_eq_true, if_false, Act.wp_bind]
      refine wp_elapsed _ h fun t s h => ?_
      split
      · rw [Act.wp_bind]
        exact wp_stopIfProtected h fun s h => wp_sample idx step started holding h hT
      · exact wp_sample idx step started holding h hT

theorem wp_hold {T : List RpmSample → SweepRun → Prop} (fuel idx : Nat) (step : SweepStep) (before : HwmonVerifyState)
    (started : Nat) (h : At l s) (hT : ∀ r s, At l s → T r s) :
    (hold args original fuel idx step before l started).wp T Told s := by
  unfold hold
  refine wp_askBind fun u => ?_
  replace h := h.note (fun _ => rfl) u
  refine wp_askBind fun t => ?_
  replace h := h.note (fun _ => rfl) t
  have hloop : ∀ b, Act.Triple (At l) (Act.iterate .unended (holdPass args original idx step before l started) fuel b)
      (fun _ => At l) Told := by
    intro b
    refine Act.Triple.iterate (I := fun _ => At l) (fun b s h => ?_) (fun _ _ _ => nofun) fuel b
    exact wp_holdPass idx step before started b h fun r s h => by cases r <;> exact h
  exact (hloop _).wp h hT fun _ _ h => h

theorem wp_walkStep {T : List CharPoint → SweepRun → Prop} (fuel idx : Nat) (step : SweepStep) (h : At l s)
    (hT : ∀ l s, At l s → T l s) : (walkStep args original fuel idx step l).wp T Told s := by
  unfold walkStep
  refine Act.wp_bind.mpr (wp_readOr h fun before s h => ?_)
  refine Act.wp_bind.mpr (wp_beforeWrite idx h fun s h => ?_)
  refine Act.wp_bind.mpr (wp_command idx step before h fun s h => ?_)
  refine wp_askBind fun started => ?_
  replace h := h.note (fun _ => rfl) started
  refine Act.wp_bind.mpr (wp_hold fuel idx step before started h fun samples s h => ?_)
  refine Act.wp_bind.mpr (wp_readOr h fun after s h => ?_)
  refine Act.wp_bind.mpr (wp_elapsed started h fun t s h => ?_)
  refine wp_askBind fun u => ?_
  have hp := h.published
  have hdown : ∀ p down, At (l ++ [p]) ((s.note (.publish (.point p)) ()).note shuttingDown down) :=
    fun p down => (hp p).note (fun _ => rfl) down
  dsimp only
  split
  · refine wp_askBind fun down => ?_
    cases down with
    | true =>
      rw [if_pos rfl]
      exact Act.wp_bind.mpr (wp_finish original _ _ (hdown _ true))
    | false =>
      rw [if_neg Bool.false_ne_true]
      exact Act.wp_bind.mpr (wp_finish original _ _ (hdown _ false))
  · exact hT _ _ (hp _)

theorem wp_walkFrom {T : SweepOutcome → SweepRun → Prop} (fuel idx : Nat) (plan : List SweepStep) (h : At l s)
    (hT : ∀ o s, Covers o s.said → T o s) : (walkFrom args original fuel idx plan l).wp T Told s := by
  induction plan generalizing idx l s with
  | nil =>
    refine hT _ _ ?_
    rw [Covers, h]
    exact ⟨List.prefix_rfl, Nat.le_succ _⟩
  | cons step rest ih =>
    unfold walkFrom
    rw [Act.wp_bind]
    exact wp_walkStep fuel idx step h fun l s h => ih (idx + 1) h

theorem wp_sweepWalk {T : SweepOutcome → SweepRun → Prop} (fuel : Nat) (first : Option HwmonVerifyState) (h : At [] s)
    (hT : ∀ o s, Covers o s.said → T o s) : (sweepWalk args original fuel first).wp T Told s := by
  unfold sweepWalk
  cases first with
  | none =>
    simp only [noteUnresponsive, Option.isNone_none, if_true, Act.wp_bind, wp_modify, Act.wp_pure]
    exact wp_finish (l := []) original _ _ h
  | some first => exact wp_walkFrom fuel 0 args.plan h hT

end Walk

/-! ## The restore -/

/-- It publishes no point. -/
theorem kept_published : Kept fun s t : SweepRun => publishedPoints t.said = publishedPoints s.said where
  refl _ := rfl
  trans _ _ _ h h' := h'.trans h
  noted _ _ _ := rfl
  shuttingDown s b := (publishedPoints_note s _ b).trans (List.append_nil _)
  thermalForceState s o := (publishedPoints_note s _ o).trans (List.append_nil _)
  write s _ a := (publishedPoints_note s _ a).trans (List.append_nil _)
  heard s b := (publishedPoints_note s pumpProtected b).trans (List.append_nil _)

/-- A sweep that ended published all but the last of its points at most. -/
theorem runSweep_covers (args : SweepArgs) (fuel : Nat) :
    Act.Triple (At []) (runSweep args fuel) (fun o s => ∀ outcome, o = some outcome → Covers outcome s.said)
      fun _ _ => True := by
  intro s hs
  have hrun : (runSweep args fuel).wp (fun o s => ∀ outcome, o = some outcome → Covers outcome s.said) (fun _ _ => True) s := by
    unfold runSweep
    refine wp_askBind fun first => Act.wp_bind.mpr ?_
    have hwalk : (sweepWalk args (first.bind (·.pwmPercent)) fuel first).wp (fun o s => Covers o s.said) Told
        (s.note read first) := wp_sweepWalk fuel first (hs.note (fun _ => rfl) first) fun _ _ h => h
    have hrestore : ∀ (o : SweepOutcome) (t : SweepRun), Covers o t.said →
        ((guard args (first.bind (·.pwmPercent))).restoreBody >>= fun _ => Pure.pure (some o)).wp
          (fun o s => ∀ outcome, o = some outcome → Covers outcome s.said)
          (fun (_ : Empty) _ => True) t := by
      intro o t h
      rw [Act.wp_bind]
      refine Act.wp.mono (Act.triple_iff.mp (Act.Within.triple kept_published.restoreBody (P := (· = t))
        (Q := fun u => publishedPoints u.said = publishedPoints t.said) ?_) t rfl) (fun _ u hu => ?_) fun e => e.elim
      · rintro s u hsu rfl
        exact hsu
      · intro outcome ho
        obtain rfl := Option.some.inj ho
        unfold Covers at h ⊢
        rwa [hu]
    refine Act.Triple.wp (Act.Triple.attempt (Q := fun r t => match r with
      | .ok o => Covers o t.said
      | .error e => Told e t) (P := (· = s.note read first)) (E := fun _ _ => True) ?_) rfl (fun r t ht => ?_) fun _ _ _ => trivial
    · rintro _ rfl
      exact hwalk
    · rcases r with (_ | o) | o
      · exact nofun
      · exact hrestore o t (ht o rfl)
      · exact hrestore o t ht
  exact hrun

end ControlOfc.Diagnostics.Sweep
