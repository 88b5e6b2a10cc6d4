import ControlOfc.Diagnostics.Gates
import Mathlib.Data.List.Basic
/-! # The restore every diagnostic ends in (characterization.rs, `RestoreGuard`)

`restoreBody` puts the header back where the run found it, unless one of its skip rules applies first:
shutdown, a thermal force, a write that did not return, a read that did not return, an unknown original duty.
`Ending` lists what it can have done.

| here | there |
| --- | --- |
| `RestoreOutcome.token`, `headerLeftMoved` | characterization.rs:565-584 |
| `RestoreGuard`, `restoreBody` | characterization.rs:1394-1594 |
| `afterAStuckWrite` | characterization.rs:1602-1672 |
| `AfterStuckWrite` | characterization.rs:1708-1741 |
-/
namespace ControlOfc.Diagnostics
open Asking Question

variable {Sample Pub V ε : Type}

def RestoreOutcome.token : RestoreOutcome → String
  | .pending => "pending"
  | .restored => "restored"
  | .writeFailed => "write_failed"
  | .skippedShuttingDown => "skipped_shutting_down"
  | .skippedThermalForce => "skipped_thermal_force"
  | .noOriginalDuty => "no_original_duty"
  | .skippedUnresponsive => "skipped_unresponsive"

/-- `restore_failed`. -/
def RestoreOutcome.headerLeftMoved (o : RestoreOutcome) : Bool := o ≠ .pending && o ≠ .restored

/-- What is done after a write that did not return. -/
inductive AfterStuckWrite where
  | writeNothing
  | queueRestore
  | queueFullSpeed
  deriving DecidableEq, Repr

def AfterStuckWrite.forHeader (hasModeSwitch : Bool) (noMode : AfterStuckWrite) : AfterStuckWrite :=
  if hasModeSwitch then .writeNothing else noMode

structure RestoreGuard where
  originalPct : Option Nat
  restoreFloor : Nat
  pumpWatch : Option PumpWatch
  /-- Whether the run bounds its reads. -/
  unresponsive : Bool
  afterStuckWrite : AfterStuckWrite

namespace RestoreGuard

def report (o : RestoreOutcome) : Act (Run Sample Pub V) ε Unit := modify fun m => { m with report := o }

/-- A run that never wrote left the header where it found it. -/
def leftBehind (moved : Bool) (o : RestoreOutcome) : RestoreOutcome := if moved then o else .restored

/-- The lowest duty to restore to, from what the watch has seen. -/
def floorAsSeen (g : RestoreGuard) (m : RunMem V) : Nat :=
  match g.pumpWatch with
  | some w => if w.seenAsPump m then max g.restoreFloor w.pumpFloor else g.restoreFloor
  | none => g.restoreFloor

/-- What is queued behind a write that did not return. -/
def queued (g : RestoreGuard) (m : RunMem V) : Option Nat :=
  match g.afterStuckWrite with
  | .writeNothing => none
  | .queueFullSpeed => some 100
  | .queueRestore =>
    match g.originalPct with
    | some original => some (max original (g.floorAsSeen m))
    | none => g.pumpWatch.bind (·.flooredFallbackAsSeen m)

def afterAStuckWrite (g : RestoreGuard) (moved : Bool) : Act (Run Sample Pub V) ε Unit := do
  match g.queued (← get) with
  | none => report (leftBehind moved .skippedUnresponsive)
  | some pct =>
    match ← ask (write pct) with
    | .ok _ => report (if g.afterStuckWrite = .queueRestore then .restored else .skippedUnresponsive)
    | .error .unresponsive => report .skippedUnresponsive
    | .error (.error _) => report .writeFailed

/-- A failed raise is only noted: the report says that there was no original duty either way. -/
def raise (pct : Nat) : Act (Run Sample Pub V) ε Unit := do
  match ← ask (write pct) with
  | .error .unresponsive => modify fun m => { m with writeStuck := true }
  | _ => pure ()

/-- The header was moved and cannot be put back: a pump is raised to its floor. -/
def withoutOriginal (g : RestoreGuard) (moved : Bool) : Act (Run Sample Pub V) ε Unit := do
  if moved then
    match g.pumpWatch with
    | none => pure ()
    | some w =>
      match ← w.flooredFallback with
      | some pct => raise pct
      | none => pure ()
  report (leftBehind moved .noOriginalDuty)

/-- The lowest duty to restore to; the pump union is read once more. -/
def floor (g : RestoreGuard) : Act (Run Sample Pub V) ε Nat := do
  match g.pumpWatch with
  | none => return g.restoreFloor
  | some w =>
    if ← w.restoreIsPump then
      return max g.restoreFloor w.pumpFloor
    return g.restoreFloor

def putBack (g : RestoreGuard) (original : Nat) : Act (Run Sample Pub V) ε Unit := do
  let floor ← g.floor
  match ← ask (write (max original floor)) with
  | .ok _ => report .restored
  | .error .unresponsive =>
    modify fun m => { m with writeStuck := true }
    report .skippedUnresponsive
  | .error (.error _) => report .writeFailed

def restoreDuty (g : RestoreGuard) (moved : Bool) : Act (Run Sample Pub V) ε Unit :=
  match g.originalPct with
  | none => g.withoutOriginal moved
  | some original => g.putBack original

/-- After a read that did not return nothing is written, unless the header has become a pump. -/
def afterAStuckRead (g : RestoreGuard) (moved : Bool) : Act (Run Sample Pub V) ε Unit := do
  let became ← match g.pumpWatch with
    | some w => w.becameProtected
    | none => pure false
  if became then
    g.restoreDuty moved
  else
    report (leftBehind moved .skippedUnresponsive)

def restoreBody (g : RestoreGuard) : Act (Run Sample Pub V) ε Unit := do
  let m ← get
  let moved := m.wroteAny
  if ← ask shuttingDown then
    report (leftBehind moved .skippedShuttingDown)
  else if (← ask thermalForceState).isSome then
    report (leftBehind moved .skippedThermalForce)
  else if m.writeStuck then
    g.afterAStuckWrite moved
  else if g.unresponsive && m.unresponsive then
    g.afterAStuckRead moved
  else
    g.restoreDuty moved

end RestoreGuard

/-! ## What the restore can have done -/

/-- Asked by the restore before it writes. -/
def Calm (e : Event Sample Pub) : Prop :=
  e = ⟨.shuttingDown, false⟩ ∨ e = ⟨.thermalForceState, none⟩ ∨ ∃ b, e = ⟨.pumpProtected, b⟩

/-- Why the restore wrote `d`, and what it reported of the answer; `m` and `m'` are the run's memory before and after. -/
inductive LastWrite (g : RestoreGuard) (m m' : RunMem V) (d : Nat) : Except WriteFailure Unit → Prop
  | putBack (a : Except WriteFailure Unit) (original : Nat) (horiginal : g.originalPct = some original)
      (hstuck : m.writeStuck = false) (hd : d = max original (g.floorAsSeen m'))
      (hreport : m'.report = .restored ↔ a = .ok ()) (hpending : m'.report ≠ .pending) : LastWrite g m m' d a
  | raised (a : Except WriteFailure Unit) (w : PumpWatch) (last : Nat) (horiginal : g.originalPct = none)
      (hstuck : m.writeStuck = false) (hwatch : g.pumpWatch = some w) (hlast : m.lastWritten = some last)
      (hd : d = max last w.pumpFloor) (hreport : m'.report = .noOriginalDuty) : LastWrite g m m' d a
  | queued (a : Except WriteFailure Unit) (hstuck : m.writeStuck = true) (hseen : m'.seen = m.seen)
      (hd : g.queued m = some d)
      (hreport : m'.report = .restored ↔ a = .ok () ∧ g.afterStuckWrite = .queueRestore)
      (hpending : m'.report ≠ .pending) : LastWrite g m m' d a

/-- What a restore from `s` left. -/
inductive Ending (g : RestoreGuard) (s s' : Run Sample Pub V) : Prop
  | quiet (asked : List (Event Sample Pub)) (said : s'.said = s.said ++ asked) (hasked : writes asked = [])
      (hreport : s'.mem.report = .restored → s.mem.wroteAny = false) (hpending : s'.mem.report ≠ .pending)
  | wrote (asked : List (Event Sample Pub)) (d : Nat) (a : Except WriteFailure Unit)
      (said : s'.said = s.said ++ asked ++ [⟨.write d, a⟩]) (hasked : ∀ e ∈ asked, Calm e)
      (why : LastWrite g s.mem s'.mem d a)

/-- Between the start `s` of a restore and its write nothing was said that is not calm, and only the watch has
learnt. -/
structure Before (s t : Run Sample Pub V) : Prop where
  said : ∃ asked : List (Event Sample Pub), t.said = s.said ++ asked ∧ ∀ e ∈ asked, Calm e
  mem : t.mem = { s.mem with seen := t.mem.seen }

namespace Before

variable {s t : Run Sample Pub V}

theorem refl (s : Run Sample Pub V) : Before s s := ⟨⟨[], by simp, by simp⟩, rfl⟩

theorem note (h : Before s t) {q : Question Pub} {a : Answer Sample q} (he : Calm (⟨q, a⟩ : Event Sample Pub)) :
    Before s (t.note q a) := by
  obtain ⟨asked, hsaid, hcalm⟩ := h.said
  refine ⟨⟨asked ++ [⟨q, a⟩], by simp [hsaid], fun e hmem => ?_⟩, h.mem⟩
  rcases List.mem_append.mp hmem with hmem | hmem
  · exact hcalm e hmem
  · rw [List.mem_singleton.mp hmem]
    exact he

theorem heard (h : Before s t) (b : Bool) : Before s (heardPump t b) := by
  have hnote := h.note (.inr (.inr ⟨b, rfl⟩))
  refine ⟨hnote.said, ?_⟩
  have hmem := h.mem
  simp only [heardPump]
  rw [hmem]

/-- Where the run's last words are a write. -/
theorem wrote {g : RestoreGuard} {s' : Run Sample Pub V} {d : Nat} {a : Except WriteFailure Unit} (h : Before s t)
    (hsaid : s'.said = t.said ++ [⟨.write d, a⟩]) (why : LastWrite g s.mem s'.mem d a) : Ending g s s' := by
  obtain ⟨asked, hasked, hcalm⟩ := h.said
  exact .wrote asked d a (by rw [hsaid, hasked]) hcalm why

end Before

theorem Calm.written {e : Event Sample Pub} (h : Calm e) : written e = none := by
  rcases h with rfl | rfl | ⟨b, rfl⟩ <;> rfl

theorem writes_of_calm {asked : List (Event Sample Pub)} (h : ∀ e ∈ asked, Calm e) : writes asked = [] :=
  List.filterMap_eq_nil_iff.mpr fun e he => (h e he).written

namespace RestoreGuard

variable {g : RestoreGuard} {E : ε → Run Sample Pub V → Prop} {s t : Run Sample Pub V}

theorem wp_leftAfter {asked : List (Event Sample Pub)} {o : RestoreOutcome} (hsaid : t.said = s.said ++ asked)
    (hasked : writes asked = []) (ho : o ≠ .restored ∧ o ≠ .pending) :
    (report (leftBehind s.mem.wroteAny o)).wp (fun _ s' => Ending g s s') E t := by
  simp only [report, wp_modify]
  refine .quiet asked hsaid hasked (fun hr => ?_) ?_
  · cases hw : s.mem.wroteAny with
    | false => rfl
    | true => exact absurd (by simpa [leftBehind, hw] using hr) ho.1
  · cases hw : s.mem.wroteAny <;> simp [leftBehind, ho.2]

theorem wp_left {o : RestoreOutcome} (h : Before s t) (ho : o ≠ .restored ∧ o ≠ .pending) :
    (report (leftBehind s.mem.wroteAny o)).wp (fun _ s' => Ending g s s') E t := by
  obtain ⟨asked, hsaid, hcalm⟩ := h.said
  exact wp_leftAfter hsaid (writes_of_calm hcalm) ho

theorem wp_afterAStuckWrite (h : Before s t) (hmem : t.mem = s.mem) (hstuck : s.mem.writeStuck = true) :
    (g.afterAStuckWrite s.mem.wroteAny).wp (fun _ s' => Ending g s s') E t := by
  unfold afterAStuckWrite
  simp only [Act.wp_bind, wp_get]
  rw [hmem]
  cases hq : g.queued s.mem with
  | none => exact wp_left h (by simp)
  | some pct =>
    refine wp_askBind fun a => ?_
    rcases a with (⟨e⟩ | _) | _
    · refine h.wrote rfl (.queued _ hstuck (by simp [hmem]) hq ?_ ?_) <;> simp
    · refine h.wrote rfl (.queued _ hstuck (by simp [hmem]) hq ?_ ?_) <;> simp
    · refine h.wrote rfl (.queued _ hstuck (by simp [hmem]) hq ?_ ?_)
      · by_cases hafter : g.afterStuckWrite = .queueRestore <;> simp [hafter]
      · by_cases hafter : g.afterStuckWrite = .queueRestore <;> simp [hafter]

theorem wp_floor {T : Nat → Run Sample Pub V → Prop} (h : Before s t)
    (hT : ∀ t, Before s t → T (g.floorAsSeen t.mem) t) : g.floor.wp T E t := by
  unfold floor
  cases hw : g.pumpWatch with
  | none => simpa [floorAsSeen, hw] using hT t h
  | some w =>
    simp only [Act.wp_bind]
    refine PumpWatch.wp_restoreIsPump ?_ fun hstart hseen b => ?_
    · have := hT t h
      cases hs : w.seenAsPump t.mem <;> simpa [floorAsSeen, hw, hs] using this
    · have := hT _ (h.heard b)
      cases b <;> simpa [floorAsSeen, hw, PumpWatch.seenAsPump, hstart, hseen, heardPump] using this

theorem wp_putBack {original : Nat} (h : Before s t) (horiginal : g.originalPct = some original)
    (hstuck : s.mem.writeStuck = false) : (g.putBack original).wp (fun _ s' => Ending g s s') E t := by
  unfold putBack
  simp only [Act.wp_bind]
  refine wp_floor h fun t h => ?_
  refine wp_askBind fun a => ?_
  rcases a with (⟨e⟩ | _) | _
  · exact h.wrote rfl (.putBack _ original horiginal hstuck rfl (by simp) (by simp))
  · exact h.wrote rfl (.putBack _ original horiginal hstuck rfl (by simp) (by simp))
  · exact h.wrote rfl (.putBack _ original horiginal hstuck rfl (by simp) (by simp))

theorem wp_raise {last : Nat} {w : PumpWatch} (h : Before s t) (horiginal : g.originalPct = none)
    (hstuck : s.mem.writeStuck = false) (hw : g.pumpWatch = some w) (hlast : s.mem.lastWritten = some last) :
    (do raise (max last w.pumpFloor); report .noOriginalDuty).wp (fun _ s' => Ending g s s') E t := by
  unfold raise
  simp only [Act.wp_bind]
  refine wp_ask fun a => ?_
  rcases a with (⟨e⟩ | _) | _
  · exact h.wrote rfl (.raised _ w last horiginal hstuck hw hlast rfl rfl)
  · exact h.wrote rfl (.raised _ w last horiginal hstuck hw hlast rfl rfl)
  · exact h.wrote rfl (.raised _ w last horiginal hstuck hw hlast rfl rfl)

theorem wp_withoutOriginal (h : Before s t) (horiginal : g.originalPct = none) (hstuck : s.mem.writeStuck = false) :
    (g.withoutOriginal s.mem.wroteAny).wp (fun _ s' => Ending g s s') E t := by
  have hleft : ∀ t, Before s t → (report (leftBehind s.mem.wroteAny .noOriginalDuty)).wp (fun _ s' => Ending g s s') E t :=
    fun t h => wp_left h (by simp)
  unfold withoutOriginal
  cases hmoved : s.mem.wroteAny with
  | false =>
    rw [hmoved] at hleft
    exact hleft t h
  | true =>
    rw [hmoved] at hleft
    simp only [if_true, Act.wp_bind]
    cases hw : g.pumpWatch with
    | none => exact hleft t h
    | some w =>
      simp only [Act.wp_bind, PumpWatch.flooredFallback]
      have hgo : ∀ t, Before s t → ∀ pump,
          (match w.flooredFallbackIf pump t.mem with
            | some pct => do raise pct; report (leftBehind true .noOriginalDuty)
            | none => report (leftBehind true .noOriginalDuty) : Act (Run Sample Pub V) ε Unit).wp
          (fun _ s' => Ending g s s') E t := by
        intro t h pump
        have hlast : t.mem.lastWritten = s.mem.lastWritten := by rw [h.mem]
        cases pump with
        | false => exact hleft t h
        | true =>
          cases hl : s.mem.lastWritten with
          | none => simpa [PumpWatch.flooredFallbackIf, hlast, hl] using hleft t h
          | some last =>
            simp only [PumpWatch.flooredFallbackIf, hlast, hl, if_true, Option.map_some]
            exact wp_raise h horiginal hstuck hw hl
      exact PumpWatch.wp_restoreIsPump (hgo t h _) fun _ _ b => hgo _ (h.heard b) b

theorem wp_restoreDuty (h : Before s t) (hstuck : s.mem.writeStuck = false) :
    (g.restoreDuty s.mem.wroteAny).wp (fun _ s' => Ending g s s') E t := by
  unfold restoreDuty
  split
  · exact wp_withoutOriginal h ‹_› hstuck
  · exact wp_putBack h ‹_› hstuck

theorem wp_afterAStuckRead (h : Before s t) (hstuck : s.mem.writeStuck = false) :
    (g.afterAStuckRead s.mem.wroteAny).wp (fun _ s' => Ending g s s') E t := by
  have hleft : ∀ t, Before s t →
      (report (leftBehind s.mem.wroteAny .skippedUnresponsive)).wp (fun _ s' => Ending g s s') E t :=
    fun t h => wp_left h (by simp)
  unfold afterAStuckRead
  split
  · simp only [Act.wp_bind]
    refine PumpWatch.wp_becameProtected (fun _ => hleft t h) (fun _ _ => wp_restoreDuty h hstuck) fun _ _ b => ?_
    cases b with
    | true => exact wp_restoreDuty (h.heard true) hstuck
    | false => exact hleft _ (h.heard false)
  · exact hleft t h

/-- A restore ends in one of these ways, whatever it is answered. -/
theorem restoreBody_ending (s : Run Sample Pub V) : g.restoreBody.wp (fun _ s' => Ending g s s') E s := by
  unfold restoreBody
  simp only [Act.wp_bind, wp_get]
  refine wp_ask fun down => ?_
  cases down with
  | true => exact wp_leftAfter rfl rfl (by simp)
  | false =>
    have h := (Before.refl s).note (.inl rfl)
    refine wp_askBind fun force => ?_
    cases force with
    | some state => exact wp_leftAfter (List.append_assoc ..) rfl (by simp)
    | none =>
      replace h := h.note (.inr (.inl rfl))
      cases hstuck : s.mem.writeStuck with
      | true => exact wp_afterAStuckWrite h rfl hstuck
      | false =>
        simp only [Option.isSome_none, Bool.false_eq_true, if_false]
        split
        · exact wp_afterAStuckRead h hstuck
        · exact wp_restoreDuty h hstuck

end RestoreGuard

/-! ## What every step of the restore keeps -/

/-- Kept by whatever a restore asks, and by what it notes in memory, of which the watch is told what it heard. -/
structure Kept (R : Run Sample Pub V → Run Sample Pub V → Prop) : Prop where
  refl : ∀ s, R s s
  trans : ∀ s t u, R s t → R t u → R s u
  noted : ∀ s m, m.seen = s.mem.seen → R s { s with mem := m }
  shuttingDown : ∀ s b, R s (s.note shuttingDown b)
  thermalForceState : ∀ s o, R s (s.note thermalForceState o)
  write : ∀ s pct a, R s (s.note (write pct) a)
  heard : ∀ s b, R s (heardPump s b)

namespace Kept

variable {R : Run Sample Pub V → Run Sample Pub V → Prop} {α β : Type} {g : RestoreGuard}

theorem pure (h : Kept R) (a : α) : Act.Within R (Pure.pure a : Act (Run Sample Pub V) ε α) := Act.Within.pure h.refl a

theorem bind (h : Kept R) {m : Act (Run Sample Pub V) ε α} {f : α → Act (Run Sample Pub V) ε β} (hm : Act.Within R m)
    (hf : ∀ a, Act.Within R (f a)) : Act.Within R (m >>= f) := Act.Within.bind h.trans hm hf

theorem get (h : Kept R) : Act.Within R (Asking.get : Act (Run Sample Pub V) ε (RunMem V)) := Act.Within.lift h.refl

theorem asked (h : Kept R) (pct : Nat) : Act.Within R (ask (.write pct) : Act (Run Sample Pub V) ε _) :=
  Act.Within.lift fun s => h.write s pct _

theorem report (h : Kept R) (o : RestoreOutcome) : Act.Within R (RestoreGuard.report o : Act (Run Sample Pub V) ε Unit) :=
  Act.Within.modify fun s => h.noted s _ rfl

theorem stuck (h : Kept R) :
    Act.Within R (modify fun m => { m with writeStuck := true } : Act (Run Sample Pub V) ε Unit) :=
  Act.Within.modify fun s => h.noted s _ rfl

theorem becameProtected (h : Kept R) (w : PumpWatch) :
    Act.Within R (w.becameProtected : Act (Run Sample Pub V) ε Bool) :=
  Act.within_iff.mpr fun s =>
    PumpWatch.wp_becameProtected (fun _ => h.refl s) (fun _ _ => h.refl s) fun _ _ b => h.heard s b

theorem restoreIsPump (h : Kept R) (w : PumpWatch) :
    Act.Within R (w.restoreIsPump : Act (Run Sample Pub V) ε Bool) :=
  Act.within_iff.mpr fun s => PumpWatch.wp_restoreIsPump (h.refl s) fun _ _ b => h.heard s b

theorem raise (h : Kept R) (pct : Nat) : Act.Within R (RestoreGuard.raise pct : Act (Run Sample Pub V) ε Unit) := by
  unfold RestoreGuard.raise
  refine h.bind (h.asked pct) fun a => ?_
  split
  · exact h.stuck
  · exact h.pure _

theorem putBack (h : Kept R) (original : Nat) : Act.Within R (g.putBack original : Act (Run Sample Pub V) ε Unit) := by
  unfold RestoreGuard.putBack RestoreGuard.floor
  refine h.bind ?_ fun floor => h.bind (h.asked _) fun a => ?_
  · split
    · exact h.pure _
    · refine h.bind (h.restoreIsPump _) fun b => ?_
      split <;> exact h.pure _
  · split
    · exact h.report _
    · exact h.bind h.stuck fun _ => h.report _
    · exact h.report _

theorem withoutOriginal (h : Kept R) (moved : Bool) :
    Act.Within R (g.withoutOriginal moved : Act (Run Sample Pub V) ε Unit) := by
  unfold RestoreGuard.withoutOriginal PumpWatch.flooredFallback
  split
  · split
    · exact h.report _
    · refine h.bind (h.bind (h.restoreIsPump _) fun b => h.bind h.get fun m => h.pure _) fun fallback => ?_
      split
      · exact h.bind (h.raise _) fun _ => h.report _
      · exact h.report _
  · exact h.report _

theorem restoreDuty (h : Kept R) (moved : Bool) : Act.Within R (g.restoreDuty moved : Act (Run Sample Pub V) ε Unit) := by
  unfold RestoreGuard.restoreDuty
  split
  · exact h.withoutOriginal moved
  · exact h.putBack _

theorem afterAStuckWrite (h : Kept R) (moved : Bool) :
    Act.Within R (g.afterAStuckWrite moved : Act (Run Sample Pub V) ε Unit) := by
  unfold RestoreGuard.afterAStuckWrite
  refine h.bind h.get fun m => ?_
  split
  · exact h.report _
  · refine h.bind (h.asked _) fun a => ?_
    split <;> exact h.report _

theorem afterAStuckRead (h : Kept R) (moved : Bool) :
    Act.Within R (g.afterAStuckRead moved : Act (Run Sample Pub V) ε Unit) := by
  unfold RestoreGuard.afterAStuckRead
  dsimp only
  split
  · refine h.bind (h.becameProtected _) fun became => ?_
    split
    · exact h.restoreDuty moved
    · exact h.report _
  · exact h.report _

theorem restoreBody (h : Kept R) : Act.Within R (g.restoreBody : Act (Run Sample Pub V) ε Unit) := by
  unfold RestoreGuard.restoreBody
  refine h.bind h.get fun m => h.bind (Act.Within.lift fun s => h.shuttingDown s _) fun down => ?_
  split
  · exact h.report _
  · refine h.bind (Act.Within.lift fun s => h.thermalForceState s _) fun force => ?_
    split
    · exact h.report _
    · split
      · exact h.afterAStuckWrite _
      · split
        · exact h.afterAStuckRead _
        · exact h.restoreDuty _

end Kept

end ControlOfc.Diagnostics
