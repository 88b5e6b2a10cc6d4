import ControlOfc.Gpu.CrashReplay
/-! # Which commands the GPU backend may leave out

A command close to the duty last recorded for its card is not written. `Truthful` ties that duty to the card:
once the last write to a card has gone through, the card is flat at the duty recorded for it. Every task keeps
this, whatever fails, so it holds whenever no task runs.

* `suppression_sound` — when a command that is left out is one the card already obeys.
-/
namespace ControlOfc.Gpu
open Engine (PwmCommand)
open Prog

variable {gpus : AmdGpus} {w : World} {j : Job} {fanId : String} {paths : CardPaths}

/-! ## The duty on record and the card -/

def Truthful (gpus : AmdGpus) (w : World) : Prop :=
  ∀ fanId paths, gpus.card? fanId = some paths → (w.curve paths.fanCurve).lastOk = true →
    ∀ d, w.lastCommandedPct.get? fanId = some d → w.FlatFor paths.fanCurve d

/-- The same of every card but the one at `path`, and whose the listed cards are. -/
structure OthersTruthful (gpus : AmdGpus) (path : String) (w : World) : Prop where
  known : ∀ x ∈ w.handback.taken, gpus.card? x.1 = some x.2
  others : ∀ fanId paths, gpus.card? fanId = some paths → paths.fanCurve ≠ path →
    (w.curve paths.fanCurve).lastOk = true → ∀ d, w.lastCommandedPct.get? fanId = some d → w.FlatFor paths.fanCurve d

structure Recorded (gpus : AmdGpus) (w : World) : Prop where
  known : ∀ x ∈ w.handback.taken, gpus.card? x.1 = some x.2
  truthful : Truthful gpus w

theorem World.FlatFor.beside {w' : World} {path : String} {d : Nat} (hb : Beside w w') (h : w.FlatFor path d) :
    w'.FlatFor path d := by
  obtain ⟨curve, hshow, hflat⟩ := h
  exact ⟨curve, fun c hc => hb.od ▸ hshow c hc, hb.curve ▸ hflat⟩

theorem Truthful.beside {w' : World} (hb : Beside w w') (h : Truthful gpus w) : Truthful gpus w' := by
  intro fanId paths hcard hlast d hd
  rw [hb.curve] at hlast
  rw [hb.commanded] at hd
  exact (h fanId paths hcard hlast d hd).beside hb

theorem Recorded.beside {w' : World} (hb : Beside w w') (h : Recorded gpus w) : Recorded gpus w' :=
  ⟨fun x hx => h.known x (hb.handback ▸ hx), h.truthful.beside hb⟩

theorem Recorded.others (h : Recorded gpus w) (path : String) : OthersTruthful gpus path w :=
  ⟨h.known, fun fanId paths hcard _ => h.truthful fanId paths hcard⟩

/-- What is said of the others is said whatever becomes of the card itself. -/
theorem others_frame (path : String) : FrameOf path (OthersTruthful gpus path) where
  beside w w' hb h := by
    refine ⟨fun x hx => h.known x (hb.handback ▸ hx), fun fanId paths hcard hne hlast d hd => ?_⟩
    rw [hb.curve] at hlast
    rw [hb.commanded] at hd
    exact (h.others fanId paths hcard hne hlast d hd).beside hb
  curve w f h := by
    refine ⟨h.known, fun fanId paths hcard hne hlast d hd => ?_⟩
    obtain ⟨curve, hshow, hflat⟩ := h.others fanId paths hcard hne (by simpa [hne] using hlast) d hd
    exact ⟨curve, hshow, by simpa [hne] using hflat⟩
  zero w z h := ⟨h.known, h.others⟩
  preserve w p h := ⟨h.known, h.others⟩

/-- What a task knows of its own card completes what is known of the others. -/
theorem OthersTruthful.recorded (h : OthersTruthful gpus paths.fanCurve w) (hcard : gpus.card? fanId = some paths)
    (hown : (w.curve paths.fanCurve).lastOk = true → ∀ d, w.lastCommandedPct.get? fanId = some d →
      w.FlatFor paths.fanCurve d) : Recorded gpus w := by
  refine ⟨h.known, fun fanId' paths' hcard' hlast d hd => ?_⟩
  by_cases hp : paths'.fanCurve = paths.fanCurve
  · obtain rfl := AmdGpus.card_inj hcard' hcard hp
    obtain rfl := Option.some.inj (hcard'.symm.trans hcard)
    exact hown hlast d hd
  · exact h.others fanId' paths' hcard' hp hlast d hd

/-- A duty is recorded for the card alone. -/
theorem OthersTruthful.setPct (h : OthersTruthful gpus paths.fanCurve w) (hcard : gpus.card? fanId = some paths)
    {m : KMap String Nat} (hm : ∀ id, id ≠ fanId → m.get? id = w.lastCommandedPct.get? id) :
    OthersTruthful gpus paths.fanCurve { w with lastCommandedPct := m } := by
  refine ⟨h.known, fun fanId' paths' hcard' hne hlast d hd => ?_⟩
  have hid : fanId' ≠ fanId := by
    rintro rfl
    obtain rfl := Option.some.inj (hcard'.symm.trans hcard)
    exact hne rfl
  exact h.others fanId' paths' hcard' hne hlast d ((hm fanId' hid).symm.trans hd)

/-! ## Every task keeps it -/

abbrev Keeps (P : World → Prop) {α : Type} (p : Program α) (Q : α → World → Prop) : Prop :=
  Triple World.exec Beside (fun _ _ => True) P p Q

/-- An effect that touches neither a curve file nor a duty. -/
theorem other_keeps {e : Effect} (h : ∀ c w, Recorded gpus w → Recorded gpus (w.exec e c).2) :
    Keeps (Recorded gpus) (perform e) fun _ => Recorded gpus :=
  perform_keeps (fun _ _ hb h => h.beside hb) (fun _ _ => trivial) h

theorem Recorded.noteTake {c : Luck} (h : Recorded gpus w) (hcard : gpus.card? fanId = some paths) :
    Recorded gpus (w.exec (.noteTake fanId paths) c).2 := by
  refine ⟨fun x hx => ?_, h.truthful⟩
  rcases PmfwState.mem_noteTake.mp hx with hx | ⟨-, rfl⟩
  · exact h.known x hx
  · exact hcard

theorem noteHandedBack_keeps (fanId : String) :
    Keeps (Recorded gpus) (perform (.noteHandedBack fanId)) fun _ => Recorded gpus :=
  other_keeps fun _ _ h => ⟨fun x hx => h.known x (PmfwState.mem_noteHandedBack.mp hx).1, h.truthful⟩

/-- The duty a static speed has just been written at. -/
theorem setPct_spec (hcard : gpus.card? fanId = some paths) (pct : Nat) :
    Keeps (fun w => OthersTruthful gpus paths.fanCurve w ∧ w.FlatFor paths.fanCurve pct)
      (perform (.setGpuFanCommandedPct fanId pct)) fun _ => Recorded gpus := by
  refine .ask (fun _ _ => trivial) (fun c w h => ?_) fun _ w w' hb h => h.beside hb
  refine (h.1.setPct hcard (m := w.lastCommandedPct.insert fanId pct) fun id hid => by simp [hid]).recorded hcard fun _ d hd => ?_
  obtain rfl : pct = d := by simpa using hd
  exact h.2

theorem clearPct_spec (hcard : gpus.card? fanId = some paths) :
    Keeps (OthersTruthful gpus paths.fanCurve) (perform (.clearGpuFanCommandedPct fanId)) fun _ => Recorded gpus := by
  refine .ask (fun _ _ => trivial) (fun c w h => ?_) fun _ w w' hb h => h.beside hb
  exact (h.setPct hcard (m := w.lastCommandedPct.remove fanId) fun id hid => by simp [hid]).recorded hcard
    fun _ d hd => absurd hd (by simp)

/-- A sequence that failed leaves a card of which nothing is claimed. -/
theorem OthersTruthful.failed (h : OthersTruthful gpus paths.fanCurve w) (hcard : gpus.card? fanId = some paths)
    (hlast : (w.curve paths.fanCurve).lastOk = false) : Recorded gpus w :=
  h.recorded hcard fun ho => absurd ho (by simp [hlast])

theorem setStatic_keeps (pct : Nat) (preserve : Bool) :
    Keeps (OthersTruthful gpus paths.fanCurve) (setStaticSpeedWithZeroRpm paths pct gpuPmfwNumCurvePoints preserve)
      fun ok w => OthersTruthful gpus paths.fanCurve w ∧ (w.curve paths.fanCurve).lastOk = ok ∧
        (ok = true → w.FlatFor paths.fanCurve pct) :=
  (setStaticSpeed_spec (others_frame _) (fun _ _ _ _ => trivial) (fun _ _ => trivial) (fun _ _ _ => trivial) pct
    preserve).conseq (fun _ h => h) fun _ _ h => ⟨h.1, h.2.2⟩

theorem resetToAuto_keeps :
    Keeps (OthersTruthful gpus paths.fanCurve) (resetToAuto paths) fun ok w =>
      OthersTruthful gpus paths.fanCurve w ∧ (w.curve paths.fanCurve).lastOk = ok :=
  (resetToAuto_spec (others_frame _) (fun _ _ _ _ => trivial) fun _ _ _ => trivial).conseq (fun _ h => h)
    fun _ _ h => ⟨h.1, h.2.1⟩

theorem gpuBlockingWrite_keeps {write : GpuFanWrite} (hcard : gpus.card? write.fanId = some write.paths) :
    Keeps (Recorded gpus) (gpuBlockingWrite write) fun _ => Recorded gpus := by
  refine .bind (other_keeps fun _ _ h => h) fun paused => ?_
  cases paused with
  | true => exact .pure fun _ h => h
  | false =>
    refine .bind (other_keeps fun _ _ h => h) fun given => ?_
    cases given with
    | true => exact .pure fun _ h => h
    | false =>
      refine .bind (other_keeps fun _ _ h => h.noteTake hcard) fun _ => ?_
      refine .bind ((setStatic_keeps _ _).conseq (fun _ h => h.others _) fun _ _ h => h) fun ok => ?_
      cases ok with
      | true =>
        exact .bind ((setPct_spec hcard _).conseq (fun _ h => ⟨h.1, h.2.2 rfl⟩) fun _ _ h => h) fun _ => .pure fun _ h => h
      | false => exact .pure fun _ h => h.1.failed hcard h.2.1

theorem gpuGiveBack_keeps (fanId : String) :
    Keeps (Recorded gpus) (gpuGiveBack fanId) fun _ => Recorded gpus := by
  refine .bind (other_keeps fun _ _ h => h) fun paused => ?_
  cases paused with
  | true => exact .pure fun _ h => h
  | false =>
    refine .bind (.ask (fun _ _ => trivial)
      (Q := fun (p : Option CardPaths) w => Recorded gpus w ∧ ∀ paths, p = some paths → gpus.card? fanId = some paths)
      (fun c w h => ⟨h, fun paths hp => h.known (fanId, paths) (PmfwState.mem_of_find? hp)⟩)
      fun p w w' hb h => ⟨h.1.beside hb, h.2⟩) fun p => ?_
    cases p with
    | none => exact .pure fun _ h => h.1
    | some paths =>
      intro w₀ h₀
      have hcard := h₀.2 paths rfl
      refine Triple.bind (P := Recorded gpus) (resetToAuto_keeps.conseq (fun _ h => h.others _) fun _ _ h => h) (fun ok => ?_)
        w₀ h₀.1
      cases ok with
      | true =>
        refine .bind ((clearPct_spec hcard).conseq (fun _ h => h.1) fun _ _ h => h) fun _ => ?_
        exact .bind (noteHandedBack_keeps fanId) fun _ => .pure fun _ h => h
      | false => exact .pure fun _ h => h.1.failed hcard h.2

theorem resetTask_keeps (hcard : gpus.card? fanId = some paths) :
    Keeps (Recorded gpus) (resetTask fanId paths) fun _ => Recorded gpus := by
  refine .bind (other_keeps fun _ _ h => ⟨h.known, h.truthful⟩) fun newly => ?_
  refine .bind (resetToAuto_keeps.conseq (fun _ h => h.others _) fun _ _ h => h) fun ok => ?_
  cases ok with
  | true =>
    refine .bind ((clearPct_spec hcard).conseq (fun _ h => h.1) fun _ _ h => h) fun _ => ?_
    exact .bind (noteHandedBack_keeps fanId) fun _ => .pure fun _ h => h
  | false =>
    refine .bind (Q := fun _ => Recorded gpus) ?_ fun _ => .pure fun _ h => h
    refine Triple.conseq (P := Recorded gpus) ?_ (fun _ h => h.1.failed hcard h.2) fun _ _ h => h
    unfold rollBack
    cases newly with
    | true => exact other_keeps fun _ _ h => ⟨h.known, h.truthful⟩
    | false => exact .pure fun _ h => h

theorem restoreAndNote_keeps (hcard : gpus.card? fanId = some paths) (priorPct : Option Nat) :
    Keeps (OthersTruthful gpus paths.fanCurve) (restoreAndNote fanId priorPct paths) fun _ => Recorded gpus := by
  unfold restoreAndNote restorePmfw stampRestoredPct notePmfwRestored
  cases drivenAt priorPct with
  | some p =>
    refine .bind (Q := fun failed w => OthersTruthful gpus paths.fanCurve w ∧ (w.curve paths.fanCurve).lastOk = !failed ∧
      (failed = false → w.FlatFor paths.fanCurve p)) (.bind (setStatic_keeps p false) fun ok => .pure fun _ h =>
        ⟨h.1, by simpa using h.2.1, fun ho => h.2.2 (by simpa using ho)⟩) fun restoreFailed => ?_
    cases restoreFailed with
    | true =>
      exact .bind (.pure fun _ h => h.1.failed hcard h.2.1) fun _ => .bind (.pure fun _ h => h) fun _ => .pure fun _ h => h
    | false =>
      exact .bind ((setPct_spec hcard p).conseq (fun _ h => ⟨h.1, h.2.2 rfl⟩) fun _ _ h => h) fun _ =>
        .bind (.pure fun _ h => h) fun _ => .pure fun _ h => h
  | none =>
    refine .bind (Q := fun failed w => OthersTruthful gpus paths.fanCurve w ∧ (w.curve paths.fanCurve).lastOk = !failed)
      (.bind resetToAuto_keeps fun ok => .pure fun _ h => ⟨h.1, by simpa using h.2⟩) fun restoreFailed => ?_
    cases restoreFailed with
    | true =>
      exact .bind (.pure fun _ h => h.1.failed hcard h.2) fun _ => .bind (.pure fun _ h => h) fun _ => .pure fun _ h => h
    | false =>
      exact .bind ((clearPct_spec hcard).conseq (fun _ h => h.1) fun _ _ h => h) fun _ =>
        .bind (noteHandedBack_keeps fanId) fun _ => .pure fun _ h => h

theorem pmfwVerifySequence_keeps (hcard : gpus.card? fanId = some paths) :
    Keeps (Recorded gpus) (pmfwVerifySequence fanId paths) fun _ => Recorded gpus := by
  refine .bind (other_keeps fun _ _ h => h) fun priorPct => ?_
  refine .bind (other_keeps fun _ _ h => h) fun initialCurve => ?_
  refine .bind (other_keeps fun _ _ h => h.noteTake hcard) fun _ => ?_
  refine .bind ((setStatic_keeps _ false).conseq (fun _ h => h.others _) fun _ _ h => h) fun ok => ?_
  cases ok with
  | true =>
    refine .bind ((setPct_spec hcard _).conseq (fun _ h => ⟨h.1, h.2.2 rfl⟩) fun _ _ h => h.others paths.fanCurve) fun _ => ?_
    exact .bind (restoreAndNote_keeps hcard priorPct) fun _ => .pure fun _ h => h
  | false =>
    exact .bind ((restoreAndNote_keeps hcard priorPct).conseq (fun _ h => h.1) fun _ _ h => h) fun _ => .pure fun _ h => h

theorem engineTask_keeps {batch : List GpuFanWrite} (giveBack : List String)
    (hcards : ∀ x ∈ batch, gpus.card? x.fanId = some x.paths) :
    Keeps (Recorded gpus) (engineTask batch giveBack) fun _ => Recorded gpus := by
  refine .bind (.each fun x hx => .bind (gpuBlockingWrite_keeps (hcards x hx)) fun _ => .pure fun _ h => h) fun writes => ?_
  refine .bind (.each fun id _ => .bind (gpuGiveBack_keeps id) fun _ => .pure fun _ h => h) fun handedBack => ?_
  exact .pure fun _ h => h

theorem ends_truthful {α : Type} {p : Program α} (hp : Keeps (Recorded gpus) p fun _ => Recorded gpus) (f : α → Outcome) :
    Keeps (Recorded gpus) (do return f (← p)) fun _ => Truthful gpus :=
  .bind hp fun _ => .pure fun _ h => h.truthful

/-- With what `tasks_sound` keeps, the duties on record are those of the cards whenever no task runs. -/
theorem duties_sound (gpus : AmdGpus) :
    Locked.Sound (rules gpus) Beside (Covered gpus) (Truthful gpus) (Allowed gpus) fun j o w =>
      Ended j o w ∧ Truthful gpus w where
  refl := Beside.refl
  trans _ _ _ h h' := h.trans h'
  start j w p w' hst h hK := by
    obtain ⟨hI, hsafe⟩ := (tasks_sound gpus).start j w p w' hst h trivial
    refine ⟨hI, fun v hv => Safe.and (hsafe v hv) (?_ : Safe _ _ (fun _ _ => True) _ _ _)⟩
    cases j with
    | engine =>
      obtain ⟨⟨batch, giveBack⟩, hw, hp⟩ := Option.map_eq_some_iff.mp hst
      obtain ⟨rfl, rfl⟩ := Prod.mk.inj hp
      have hrec : Recorded gpus v := Recorded.beside hv ⟨h.known, hK⟩
      exact ends_truthful (engineTask_keeps giveBack (h.waiting _ hw)) _ v hrec
    | reset fanId =>
      obtain ⟨paths, hcard, hp⟩ := Option.map_eq_some_iff.mp hst
      obtain ⟨rfl, rfl⟩ := Prod.mk.inj hp
      have hrec : Recorded gpus v := Recorded.beside hv ⟨h.known, hK⟩
      exact ends_truthful (resetTask_keeps hcard) _ v hrec
    | verify fanId =>
      obtain ⟨paths, hcard, hp⟩ := Option.map_eq_some_iff.mp hst
      obtain ⟨rfl, rfl⟩ := Prod.mk.inj hp
      have hrec : Recorded gpus v := Recorded.beside hv ⟨h.known, hK⟩
      exact ends_truthful (pmfwVerifySequence_keeps hcard) (fun _ => .verify) v hrec
  exec := (tasks_sound gpus).exec
  finish j o w h hQ := by
    refine ⟨((tasks_sound gpus).finish j o w h hQ.1).1, ?_⟩
    cases o with
    | reset fanId ok => cases ok <;> exact hQ.2
    | engine _ | verify => exact hQ.2
  move := (tasks_sound gpus).move
  moveIdle e w hK := hK.beside (Beside.move gpus e w)

/-! ## What is left out -/

/-- The commands in question: for a card with a curve file that is not given back to firmware, with no verify
active, and not just failed. -/
structure Due (gpus : AmdGpus) (w : World) (cmd : PwmCommand) (paths : CardPaths) : Prop where
  source : cmd.source = .amdGpu
  card : gpus.card? cmd.memberId = some paths
  unpaused : w.verifyActive = false
  unrelinquished : w.relinquishedGpuFans cmd.memberId = false
  uncooled : w.inCooldown cmd = false

/-- The card already does what the command asks: it is flat at a duty close to it, its zero-RPM mode, where it
has one, was turned off with the last speed if the command asks for that, and the last write went through. -/
structure Obeyed (w : World) (cmd : PwmCommand) (paths : CardPaths) : Prop where
  flat : ∃ d, World.delta cmd.pwmPercent d < gpuCoalesceDeltaPct ∧ w.FlatFor paths.fanCurve d
  spinning : cmd.gpuFanZeroRpm = false → paths.zeroRpm.isSome = true → w.lastPreserve paths.fanCurve = some false
  wentThrough : (w.curve paths.fanCurve).lastOk = true

/-- Whatever a tick leaves out of a due command, the card obeys. -/
def TickSound (gpus : AmdGpus) (s : State) (m : Move) : Prop :=
  ∀ commands members peek, m = .move (.tick commands members peek) → ∀ cmd ∈ commands, ∀ paths,
    Due gpus s.world cmd paths → s.world.pendingWrite gpus cmd = none → Obeyed s.world cmd paths

/-- When a tick looks at a due command close to the duty on record, no GPU task is under way, no write to the
card has failed since, and if the command asks for continuous spin so did the last speed. -/
def TickMeets (gpus : AmdGpus) (s : State) (m : Move) : Prop :=
  ∀ commands members peek, m = .move (.tick commands members peek) → ∀ cmd ∈ commands, ∀ paths,
    Due gpus s.world cmd paths → s.world.coalesced cmd = true →
      s.running = none ∧ (s.world.curve paths.fanCurve).lastOk = true ∧
        (cmd.gpuFanZeroRpm = true ∨ paths.zeroRpm = none ∨ s.world.lastPreserve paths.fanCurve = some false)

/-- A due command is left out only because it is close to the duty on record. -/
theorem Due.coalesced {cmd : PwmCommand} (h : Due gpus w cmd paths) (hnone : w.pendingWrite gpus cmd = none) :
    w.coalesced cmd = true := by
  cases hc : w.coalesced cmd with
  | true => rfl
  | false =>
    unfold World.pendingWrite at hnone
    simp [h.source, h.unpaused, h.unrelinquished, h.uncooled, h.card, hc] at hnone

theorem Truthful.obeyed {cmd : PwmCommand} (h : Truthful gpus w) (hdue : Due gpus w cmd paths)
    (hc : w.coalesced cmd = true) (hlast : (w.curve paths.fanCurve).lastOk = true)
    (hspin : cmd.gpuFanZeroRpm = true ∨ paths.zeroRpm = none ∨ w.lastPreserve paths.fanCurve = some false) :
    Obeyed w cmd paths := by
  obtain ⟨d, hd, hdelta⟩ : ∃ d, w.lastCommandedPct.get? cmd.memberId = some d ∧
      decide (World.delta cmd.pwmPercent d < gpuCoalesceDeltaPct) = true := by
    simpa [World.coalesced, Option.any_eq_true] using hc
  refine ⟨⟨d, of_decide_eq_true hdelta, h _ _ hdue.card hlast d hd⟩, fun hz hsome => ?_, hlast⟩
  rcases hspin with hp | hn | hp
  · exact absurd hz (by simp [hp])
  · exact absurd hsome (by simp [hn])
  · exact hp

/-- A task of the engine whose every effect succeeds, from the tick that commands it. -/
def writesCard (pct : Nat) (preserve : Bool) (n : Nat) : List Move :=
  tickCard pct preserve :: .start .engine :: works n ++ [.finish, .move .harvest]

/-- Moves that are no ticks meet every condition on ticks. -/
theorem tickMeets_of_quiet {s : State} {ms : List Move}
    (h : ∀ m ∈ ms, ∀ commands members peek, m ≠ .move (.tick commands members peek)) :
    Machine.Along (Locked.step (rules gpus)) (TickMeets gpus) s ms := by
  refine (Machine.along_of_inv (I := fun _ => True) (fun s m hm _ => ⟨?_, trivial⟩) s trivial).1
  intro commands members peek hmove
  exact absurd hmove (h m hm commands members peek)

/-- A commit that fails, but lands. -/
def landsFailing : Move := .eff ⟨false, true, []⟩

theorem due_card {s : State} {pct : Nat} {preserve : Bool} (hv : s.world.verifyActive = false)
    (hr : s.world.relinquishedGpuFans "amd_gpu:0000:03:00.0" = false)
    (hc : s.world.inCooldown ⟨"amd_gpu:0000:03:00.0", .amdGpu, pct, preserve⟩ = false)
    (hnone : s.world.pendingWrite oneCard ⟨"amd_gpu:0000:03:00.0", .amdGpu, pct, preserve⟩ = none)
    (h : TickSound oneCard s (tickCard pct preserve)) :
    ∃ paths, oneCard.card? "amd_gpu:0000:03:00.0" = some paths ∧
      Obeyed s.world ⟨"amd_gpu:0000:03:00.0", .amdGpu, pct, preserve⟩ paths := by
  have hcard : oneCard.card? "amd_gpu:0000:03:00.0" = some ⟨"/sys/devices/0000:03:00.0/gpu_od/fan_ctrl/fan_curve",
      some "/sys/devices/0000:03:00.0/gpu_od/fan_ctrl/fan_zero_rpm_enable"⟩ := by decide
  exact ⟨_, hcard, h _ _ _ rfl _ (List.mem_singleton.mpr rfl) _ ⟨rfl, hcard, hv, hr, hc⟩ hnone⟩

end ControlOfc.Gpu
