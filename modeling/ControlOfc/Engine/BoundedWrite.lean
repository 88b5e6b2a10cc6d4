import ControlOfc.Lib.Machine
import Mathlib.Data.List.Range
/-! # A write whose join is bounded (profile_engine/backends.rs:55-305)

A blocking task cannot be cancelled: it finishes at some point or never, and a join of it either sees it finished
within its budget or gives up. `BoundedWrite` holds the handle of the one it gave up on and joins it again before it
issues another. Tasks are numbered in the order they are issued; what a task answers is left out, and a result is
named by its task.

| here | there |
| --- | --- |
| `outstanding`, `stalled` | backends.rs:117-142 |
| `noteNoProgress`, `drain` | backends.rs:154-184 |
| `harvestOnly` | backends.rs:191-221 |
| `run`, its harvest and its issue | backends.rs:242-305 |
-/
namespace ControlOfc.Engine

/-- `BoundedWrite`; the handle by the number of its task. -/
structure BoundedWrite where
  pending : Option Nat := none
  completedLastRun : Bool := false
  deriving DecidableEq, Repr

/-- `WriteProgress`. -/
structure WriteProgress where
  harvested : Option Nat
  issued : Option Nat
  inFlight : Bool
  deriving DecidableEq, Repr

/-- `completed`: oldest first. -/
def WriteProgress.completed (p : WriteProgress) : List Nat := p.harvested.toList ++ p.issued.toList

/-- One device: its bounded write, and what became of the tasks issued to it. -/
structure WriteDevice where
  write : BoundedWrite := {}
  issued : Nat := 0
  finished : List Nat := []
  /-- Given up by a `drain`. -/
  abandoned : List Nat := []
  deriving DecidableEq, Repr

namespace WriteDevice

def new : WriteDevice := {}

/-- `outstanding`. -/
def outstanding (s : WriteDevice) : Bool := s.write.pending.any fun task => !s.finished.contains task

/-- `stalled`. -/
def stalled (s : WriteDevice) : Bool := s.outstanding && !s.write.completedLastRun

def finish (s : WriteDevice) (task : Nat) : WriteDevice := { s with finished := task :: s.finished }

/-- `note_no_progress`. -/
def noteNoProgress (s : WriteDevice) : WriteDevice := { s with write := { s.write with completedLastRun := false } }

/-- `drain`: what it joined is thrown away. -/
def drain (s : WriteDevice) (joined : Bool) : WriteDevice :=
  match s.write.pending with
  | none => s
  | some task =>
    let s := { s with write := { s.write with pending := none } }
    if joined then s.finish task else { s with abandoned := task :: s.abandoned }

/-- `harvest_only`. -/
def harvestOnly (s : WriteDevice) (joined : Bool) : WriteDevice × WriteProgress :=
  match s.write.pending with
  | none => (s.noteNoProgress, ⟨none, none, false⟩)
  | some task =>
    if joined then ({ s.finish task with write := ⟨none, true⟩ }, ⟨some task, none, false⟩)
    else (s.noteNoProgress, ⟨none, none, true⟩)

/-- The harvest of a `run`: `none` where it timed out. -/
def harvest (s : WriteDevice) (joined : Bool) : Option (WriteDevice × Option Nat) :=
  match s.write.pending with
  | none => some (s, none)
  | some task =>
    if joined then some ({ s.finish task with write := { s.write with pending := none } }, some task) else none

/-- The issue of a `run`, with what it has harvested. -/
def issue (s : WriteDevice) (harvested : Option Nat) (joined : Bool) : WriteDevice × WriteProgress :=
  let task := s.issued
  let s := { s with issued := s.issued + 1 }
  if joined then ({ s.finish task with write := { s.write with completedLastRun := true } }, ⟨harvested, some task, false⟩)
  else ({ s with write := ⟨some task, harvested.isSome⟩ }, ⟨harvested, none, true⟩)

/-- `run`. -/
def run (s : WriteDevice) (harvestJoined issueJoined : Bool) : WriteDevice × WriteProgress :=
  match s.harvest harvestJoined with
  | none => (s.noteNoProgress, ⟨none, none, true⟩)
  | some (s, harvested) => s.issue harvested issueJoined

/-- What may happen to a device. -/
inductive Event where
  /-- A blocking task returns by itself. -/
  | finish (task : Nat)
  | run (harvestJoined issueJoined : Bool)
  | harvestOnly (joined : Bool)
  | noteNoProgress
  | drain (joined : Bool)
  deriving DecidableEq, Repr

def step (s : WriteDevice) : Event → WriteDevice
  | .finish task => s.finish task
  | .run harvestJoined issueJoined => (s.run harvestJoined issueJoined).1
  | .harvestOnly joined => (s.harvestOnly joined).1
  | .noteNoProgress => s.noteNoProgress
  | .drain joined => s.drain joined

/-- The results a call hands to its caller. -/
def delivered (s : WriteDevice) : Event → List Nat
  | .run harvestJoined issueJoined => (s.run harvestJoined issueJoined).2.completed
  | .harvestOnly joined => (s.harvestOnly joined).2.completed
  | _ => []

/-- The results a call throws away. -/
def discarded (s : WriteDevice) : Event → List Nat
  | .drain _ => s.write.pending.toList
  | _ => []

/-- Whether a call says of the writes that they get through; a drain says nothing. -/
def progress (s : WriteDevice) : Event → Option Bool
  | .finish _ | .drain _ => none
  | .noteNoProgress => some false
  | e => some (!(s.delivered e).isEmpty)

/-- Issued, not finished and not given up. -/
def Open (s : WriteDevice) (task : Nat) : Prop := task < s.issued ∧ task ∉ s.finished ∧ task ∉ s.abandoned

/-- Every task but the held one has finished or was given up. -/
structure Inv (s : WriteDevice) : Prop where
  open_ : ∀ task, s.Open task → s.write.pending = some task
  below : ∀ task, s.write.pending = some task → task < s.issued ∧ task ∉ s.abandoned
  abandoned : ∀ task ∈ s.abandoned, task < s.issued

variable {s : WriteDevice}

theorem inv_init : Inv new := ⟨fun _ h => absurd h.1 (Nat.not_lt_zero _), nofun, nofun⟩

theorem Inv.finish (h : s.Inv) (task : Nat) : (s.finish task).Inv := by
  refine ⟨fun t ht => h.open_ t ⟨ht.1, fun hin => ht.2.1 (List.mem_cons_of_mem _ hin), ht.2.2⟩, h.below, h.abandoned⟩

/-- The held task is let go once it has finished. -/
theorem Inv.release (h : s.Inv) {task : Nat} (hp : s.write.pending = some task) (completed : Bool) :
    Inv { s.finish task with write := ⟨none, completed⟩ } := by
  refine ⟨fun t ht => ?_, nofun, h.abandoned⟩
  have hheld := h.open_ t ⟨ht.1, fun hin => ht.2.1 (List.mem_cons_of_mem _ hin), ht.2.2⟩
  rw [hp] at hheld
  exact absurd (Option.some.inj hheld ▸ List.mem_cons_self) ht.2.1

theorem Inv.abandon (h : s.Inv) {task : Nat} (hp : s.write.pending = some task) (completed : Bool) :
    Inv { s with write := ⟨none, completed⟩, abandoned := task :: s.abandoned } := by
  refine ⟨fun t ht => ?_, nofun, fun t ht => ?_⟩
  · have hheld := h.open_ t ⟨ht.1, ht.2.1, fun hin => ht.2.2 (List.mem_cons_of_mem _ hin)⟩
    rw [hp] at hheld
    exact absurd (Option.some.inj hheld ▸ List.mem_cons_self) ht.2.2
  · rcases List.mem_cons.mp ht with rfl | ht
    · exact (h.below t hp).1
    · exact h.abandoned t ht

theorem Inv.noteNoProgress (h : s.Inv) : s.noteNoProgress.Inv := ⟨h.open_, h.below, h.abandoned⟩

theorem Inv.drain (h : s.Inv) (joined : Bool) : (s.drain joined).Inv := by
  unfold WriteDevice.drain
  cases hp : s.write.pending with
  | none => exact h
  | some task =>
    cases joined with
    | true => exact h.release hp _
    | false => exact h.abandon hp _

theorem Inv.harvestOnly (h : s.Inv) (joined : Bool) : (s.harvestOnly joined).1.Inv := by
  unfold WriteDevice.harvestOnly
  cases hp : s.write.pending with
  | none => exact h.noteNoProgress
  | some task =>
    cases joined with
    | true => exact h.release hp _
    | false => exact h.noteNoProgress

/-- After its harvest a `run` holds nothing. -/
theorem Inv.harvest (h : s.Inv) {joined : Bool} {t : WriteDevice} {harvested : Option Nat}
    (ht : s.harvest joined = some (t, harvested)) :
    t.Inv ∧ t.write.pending = none ∧ t.issued = s.issued ∧ harvested = s.write.pending := by
  unfold WriteDevice.harvest at ht
  cases hp : s.write.pending with
  | none =>
    rw [hp] at ht
    cases ht
    exact ⟨h, hp, rfl, rfl⟩
  | some task =>
    rw [hp] at ht
    cases joined with
    | true =>
      cases ht
      exact ⟨h.release hp _, rfl, rfl, rfl⟩
    | false => cases ht

/-- Where nothing is held, nothing is open. -/
theorem Inv.none_open (h : s.Inv) (hp : s.write.pending = none) (task : Nat) : ¬ s.Open task := fun ho => by
  rw [h.open_ task ho] at hp
  cases hp

theorem Inv.issue (h : s.Inv) (hp : s.write.pending = none) (harvested : Option Nat) (joined : Bool) :
    (s.issue harvested joined).1.Inv := by
  have hold : ∀ t, t < s.issued + 1 → t ∉ s.finished → t ∉ s.abandoned → t = s.issued := fun t hlt hf ha => by
    rcases Nat.lt_succ_iff_lt_or_eq.mp hlt with hlt | heq
    · exact absurd ⟨hlt, hf, ha⟩ (h.none_open hp t)
    · exact heq
  unfold WriteDevice.issue
  cases joined with
  | true =>
    refine ⟨fun t ht => ?_, fun t ht => ?_, fun t ht => Nat.lt_succ_of_lt (h.abandoned t ht)⟩
    · have heq := hold t ht.1 (fun hin => ht.2.1 (List.mem_cons_of_mem _ hin)) ht.2.2
      exact absurd (heq ▸ List.mem_cons_self) ht.2.1
    · have hp' : s.write.pending = some t := ht
      rw [hp] at hp'
      cases hp'
  | false =>
    refine ⟨fun t ht => ?_, fun t ht => ?_, fun t ht => Nat.lt_succ_of_lt (h.abandoned t ht)⟩
    · exact congrArg some (hold t ht.1 ht.2.1 ht.2.2).symm
    · obtain rfl := Option.some.inj ht
      exact ⟨Nat.lt_succ_self _, fun hin => absurd (h.abandoned _ hin) (Nat.lt_irrefl _)⟩

theorem Inv.run (h : s.Inv) (harvestJoined issueJoined : Bool) : (s.run harvestJoined issueJoined).1.Inv := by
  unfold WriteDevice.run
  cases ht : s.harvest harvestJoined with
  | none => exact h.noteNoProgress
  | some r =>
    obtain ⟨hinv, hp, -⟩ := h.harvest ht
    exact hinv.issue hp _ _

theorem Inv.step (h : s.Inv) (e : Event) : (s.step e).Inv := by
  cases e with
  | finish task => exact h.finish task
  | run harvestJoined issueJoined => exact h.run harvestJoined issueJoined
  | harvestOnly joined => exact h.harvestOnly joined
  | noteNoProgress => exact h.noteNoProgress
  | drain joined => exact h.drain joined

/-! ## What a call lets go of -/

/-- The held task and the ones a call issues, in the order they are let go of or held on. -/
theorem released_step (h : s.Inv) (e : Event) :
    s.delivered e ++ s.discarded e ++ (s.step e).write.pending.toList =
      s.write.pending.toList ++ List.range' s.issued ((s.step e).issued - s.issued) ∧ s.issued ≤ (s.step e).issued := by
  cases e with
  | finish task => simp [delivered, discarded, WriteDevice.step, WriteDevice.finish]
  | noteNoProgress => simp [delivered, discarded, WriteDevice.step, WriteDevice.noteNoProgress]
  | drain joined =>
    cases hp : s.write.pending <;> cases joined <;>
      simp [delivered, discarded, WriteDevice.step, WriteDevice.drain, WriteDevice.finish, hp]
  | harvestOnly joined =>
    cases hp : s.write.pending <;> cases joined <;>
      simp [delivered, discarded, WriteDevice.step, WriteDevice.harvestOnly, WriteDevice.finish, WriteProgress.completed,
        WriteDevice.noteNoProgress, hp]
  | run harvestJoined issueJoined =>
    simp only [delivered, discarded, WriteDevice.step, WriteDevice.run]
    cases ht : s.harvest harvestJoined with
    | none => simp [WriteProgress.completed, WriteDevice.noteNoProgress]
    | some r =>
      obtain ⟨t, harvested⟩ := r
      obtain ⟨-, hp, hissued, rfl⟩ := h.harvest ht
      cases issueJoined <;> simp [WriteDevice.issue, WriteProgress.completed, WriteDevice.finish, hissued, hp]

/-- A call says what it delivered. -/
theorem progress_step (e : Event) :
    (s.step e).write.completedLastRun = (s.progress e).getD s.write.completedLastRun := by
  cases e with
  | finish task => rfl
  | noteNoProgress => rfl
  | drain joined =>
    cases hp : s.write.pending <;> cases joined <;>
      simp [progress, WriteDevice.step, WriteDevice.drain, WriteDevice.finish, hp]
  | harvestOnly joined =>
    cases hp : s.write.pending <;> cases joined <;>
      simp [progress, delivered, WriteDevice.step, WriteDevice.harvestOnly, WriteProgress.completed,
        WriteDevice.noteNoProgress, hp]
  | run harvestJoined issueJoined =>
    simp only [progress, delivered, WriteDevice.step, WriteDevice.run]
    cases ht : s.harvest harvestJoined with
    | none => simp [WriteProgress.completed, WriteDevice.noteNoProgress]
    | some r =>
      obtain ⟨t, harvested⟩ := r
      cases issueJoined <;> cases harvested <;> simp [WriteDevice.issue, WriteProgress.completed]

/-! ## Runs -/

/-- What a run delivered or threw away, in order. -/
def released (es : List Event) : List Nat :=
  (Machine.trace step (fun s e => s.delivered e ++ s.discarded e) new es).flatten

/-- What the last call that says something says. -/
def lastProgress (es : List Event) : Bool := ((Machine.trace step progress new es).filterMap id).getLast?.getD false

theorem run_inv (es : List Event) : (Machine.run step new es).Inv :=
  Machine.run_inv (I := Inv) (fun _ e h => h.step e) new es inv_init

theorem released_run (es : List Event) :
    released es ++ (Machine.run step new es).write.pending.toList = List.range (Machine.run step new es).issued := by
  induction es using List.reverseRecOn with
  | nil => rfl
  | append_singleton es e ih =>
    obtain ⟨hstep, hle⟩ := released_step (run_inv es) e
    rw [released, Machine.trace_append, List.flatten_append, Machine.run_append]
    simp only [Machine.trace_cons, Machine.trace_nil, List.flatten_cons, List.flatten_nil, List.append_nil, Machine.run_cons,
      Machine.run_nil]
    calc
      released es ++ ((Machine.run step new es).delivered e ++ (Machine.run step new es).discarded e) ++
            ((Machine.run step new es).step e).write.pending.toList
        = released es ++ ((Machine.run step new es).write.pending.toList ++ _) := by rw [List.append_assoc, hstep]
      _ = List.range (Machine.run step new es).issued ++ _ := by rw [← List.append_assoc, ih]
      _ = List.range ((Machine.run step new es).step e).issued := by
        have happ := List.range'_append_1 (s := 0) (m := (Machine.run step new es).issued)
          (n := ((Machine.run step new es).step e).issued - (Machine.run step new es).issued)
        rw [Nat.zero_add, Nat.add_sub_cancel' hle] at happ
        rw [List.range_eq_range', List.range_eq_range', happ]

theorem completedLastRun_run (es : List Event) : (Machine.run step new es).write.completedLastRun = lastProgress es := by
  induction es using List.reverseRecOn with
  | nil => rfl
  | append_singleton es e ih =>
    rw [Machine.run_append, Machine.run_cons, Machine.run_nil, progress_step, ih, lastProgress, lastProgress,
      Machine.trace_append, List.filterMap_append]
    cases hp : (Machine.run step new es).progress e with
    | none => simp [hp]
    | some b => simp [hp]

theorem outstanding_iff (h : s.Inv) : s.outstanding ↔ ∃ task, s.Open task := by
  unfold outstanding
  rw [Option.any_eq_true]
  constructor
  · rintro ⟨task, hp, hf⟩
    exact ⟨task, (h.below task hp).1, by simpa using hf, (h.below task hp).2⟩
  · rintro ⟨task, ho⟩
    exact ⟨task, h.open_ task ho, by simpa using ho.2.1⟩

/-- **One write at a time, each result once and in order, and a stall is an open task without progress.** -/
theorem bounded_write (es : List Event) :
    let s := Machine.run step new es
    (∀ task task', s.Open task → s.Open task' → task = task') ∧
    (released es ++ s.write.pending.toList = List.range s.issued) ∧
    (∀ harvestJoined issueJoined,
      (s.harvest harvestJoined = none →
        (s.run harvestJoined issueJoined).1.issued = s.issued ∧ (s.run harvestJoined issueJoined).2.completed = []) ∧
      ∀ t harvested, s.harvest harvestJoined = some (t, harvested) → (∀ task, ¬ t.Open task) ∧ t.issued = s.issued ∧
        s.run harvestJoined issueJoined = t.issue harvested issueJoined) ∧
    (s.stalled ↔ (∃ task, s.Open task) ∧ lastProgress es = false) := by
  intro s
  have h : s.Inv := run_inv es
  refine ⟨fun task task' ho ho' => ?_, released_run es, fun harvestJoined issueJoined => ⟨fun hnone => ?_, fun t harvested ht => ?_⟩, ?_⟩
  · exact Option.some.inj ((h.open_ task ho).symm.trans (h.open_ task' ho'))
  · simp [run, hnone, WriteProgress.completed, noteNoProgress]
  · obtain ⟨hinv, hp, hissued, -⟩ := h.harvest ht
    exact ⟨hinv.none_open hp, hissued, by simp [run, ht]⟩
  · rw [← outstanding_iff h, ← completedLastRun_run es, stalled, Bool.and_eq_true_iff, Bool.not_eq_true']

/-- A write that never returns: the run after it issues nothing. -/
theorem bounded_write_wedged :
    (Machine.run step new [.run true false]).stalled ∧ ((Machine.run step new [.run true false]).run false true).1.issued = 1 :=
  ⟨(bounded_write [.run true false]).2.2.2.mpr ⟨⟨0, by decide, by decide, by decide⟩, rfl⟩,
    (((bounded_write [.run true false]).2.2.1 false true).1 rfl).1⟩

end WriteDevice

end ControlOfc.Engine
