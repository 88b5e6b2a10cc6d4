import ControlOfc.Engine.State
import ControlOfc.Gpu.World
/-! # Who writes GPU fans (profile_engine/backends.rs:1880-2310, api/handlers/gpu.rs)

The engine's task, `POST /gpu/{id}/fan/reset` and `/fan/verify` take the GPU write lock for all their effects.
Beside them the engine ticks, deciding from what the cache shows without the lock, and collects what its tasks
left; a profile activation clears the relinquished set; a verify takes and drops its pause.
-/
namespace ControlOfc.Gpu
open Engine (PwmCommand)

/-- `GPU_COALESCE_DELTA_PCT` (constants.rs:138). -/
def gpuCoalesceDeltaPct : Nat := 5

/-- `GPU_FAIL_COOLDOWN` (constants.rs:150), in nanoseconds. -/
def gpuFailCooldown : Nat := 60 * 10 ^ 9

namespace World

/-! ## What a tick decides -/

/-- The distance of two duties. -/
def delta (a b : Nat) : Nat := (a - b) + (b - a)

/-- The duty last recorded for the card is too close to command another. -/
def coalesced (w : World) (cmd : PwmCommand) : Bool :=
  (w.lastCommandedPct.get? cmd.memberId).any fun last => decide (delta cmd.pwmPercent last < gpuCoalesceDeltaPct)

/-- The same speed failed recently. -/
def inCooldown (w : World) (cmd : PwmCommand) : Bool :=
  (w.failCache.get? cmd.memberId).any fun (failedPct, failedAt) =>
    failedPct == cmd.pwmPercent && decide (w.now - failedAt < gpuFailCooldown)

/-- The body of the loop of `GpuBackend::write` (backends.rs:2112): the write one command becomes. -/
def pendingWrite (gpus : AmdGpus) (w : World) (cmd : PwmCommand) : Option GpuFanWrite :=
  if cmd.source ≠ .amdGpu then none
  else if w.verifyActive then none
  else if w.relinquishedGpuFans cmd.memberId then none
  else if w.coalesced cmd then none
  else if w.inCooldown cmd then none
  else (gpus.card? cmd.memberId).map fun paths => ⟨cmd.memberId, paths, cmd.pwmPercent, cmd.gpuFanZeroRpm⟩

/-- `give_back_candidates` (backends.rs:2019), whose peek at the list may miss. -/
def giveBackCandidates (w : World) (members : List String) (peek : Bool) : List String × World :=
  if peek then
    let failed := w.giveBackFailed.retain fun id _ => w.handback.isTaken id && !members.contains id
    ((w.handback.taken.map Prod.fst).filter fun id =>
        !members.contains id && (failed.get? id).all fun failedAt => decide (gpuFailCooldown ≤ w.now - failedAt),
      { w with giveBackFailed := failed })
  else ([], w)

/-- `apply_and_give_back` (backends.rs:2049) up to the wait for the lock. A tick that still waits makes no other. -/
def tick (gpus : AmdGpus) (w : World) (commands : List PwmCommand) (members : List String) (peek : Bool) : World :=
  match w.waiting with
  | some _ => w
  | none =>
    let (giveBack, w') := w.giveBackCandidates members peek
    let pending := commands.filterMap (w.pendingWrite gpus)
    if pending.isEmpty && giveBack.isEmpty then w' else { w' with waiting := some (pending, giveBack) }

/-! ## What a tick collects -/

/-- `note_give_backs` (backends.rs:1974), one card. -/
def noteGiveBack (w : World) (x : String × Bool) : World :=
  { w with giveBackFailed := if x.2 then w.giveBackFailed.remove x.1 else w.giveBackFailed.insert x.1 w.now }

/-- One write of `note_gpu_outcomes` (backends.rs:1927). -/
def noteWrite (w : World) (x : String × Nat × Option Bool) : World :=
  match x.2.2 with
  | some true => { w with failCache := w.failCache.remove x.1 }
  | some false => { w with failCache := w.failCache.insert x.1 (x.2.1, w.now) }
  | none => w

/-- `note_gpu_outcomes` (backends.rs:1917) of the oldest task that ended. -/
def harvest (w : World) : World :=
  match w.finished with
  | [] => w
  | o :: rest =>
    let w := { w with finished := rest }
    match o with
    | some outcome => outcome.writes.foldl noteWrite (outcome.handedBack.foldl noteGiveBack w)
    | none =>
      { w with
        failCache := w.outstandingBatch.foldl (fun m x => m.insert x.1 (x.2, w.now)) w.failCache
        outstandingBatch := [] }

theorem foldl_waiting {β : Type} {f : World → β → World} (hf : ∀ w b, (f w b).waiting = w.waiting) (bs : List β)
    (w : World) : (bs.foldl f w).waiting = w.waiting := by
  induction bs generalizing w with
  | nil => rfl
  | cons b bs ih => exact (ih (f w b)).trans (hf w b)

/-- What is collected leaves what waits. -/
theorem harvest_waiting (w : World) : w.harvest.waiting = w.waiting := by
  unfold harvest
  split
  · rfl
  · dsimp only
    split
    · rw [foldl_waiting, foldl_waiting]
      · intro w x
        rfl
      · intro w x
        unfold noteWrite
        split <;> rfl
    · rfl

/-- `clear_relinquished_gpu_fans` (health/cache.rs:1292), as an activation calls it. -/
def activate (w : World) : World :=
  { w with
    relinquishedGpuFans := fun _ => false
    epoch := w.epoch + 1
    givenBack := fun _ => false
    resetOk := fun _ => false }

end World

/-! ## The tasks and what happens beside them -/

/-- Who takes the write lock. -/
inductive Job where
  | engine
  | reset (fanId : String)
  | verify (fanId : String)
  deriving DecidableEq, Repr

/-- What a task's end reports. -/
inductive Outcome where
  | engine (o : GpuTaskOutcome)
  | reset (fanId : String) (ok : Bool)
  | verify

inductive Event where
  | tick (commands : List PwmCommand) (members : List String) (peek : Bool)
  /-- The tick's wait for the lock is over its bound. -/
  | giveUp
  | harvest
  | activate
  | pause (active : Bool)
  | advance (d : Nat)

namespace Job

/-- What a task does once it has the lock. A verify holds the pause by then, unless its deadman let it go. -/
def start (gpus : AmdGpus) : Job → World → Option (Program Outcome × World)
  | .engine, w => w.waiting.map fun (batch, giveBack) =>
    (do return .engine (← engineTask batch giveBack),
      { w with waiting := none, outstandingBatch := batch.map fun x => (x.fanId, x.pct) })
  | .reset fanId, w => (gpus.card? fanId).map fun paths => (do return .reset fanId (← resetTask fanId paths), w)
  | .verify fanId, w => (gpus.card? fanId).map fun paths =>
    (do let _ ← pmfwVerifySequence fanId paths; return .verify, w)

def finish (_ : Job) (o : Outcome) (w : World) : World :=
  match o with
  | .engine o => { w with finished := w.finished ++ [some o] }
  | .reset fanId true =>
    { w with
      givenBack := Function.update w.givenBack fanId (decide (w.claimedAt fanId = some w.epoch))
      resetOk := Function.update w.resetOk fanId true }
  | .reset _ false | .verify => w

/-- A panic of a blocking task is contained; the engine finds it when it collects. -/
def died : Job → World → World
  | .engine, w => { w with finished := w.finished ++ [none] }
  | .reset _, w | .verify _, w => w

end Job

def Event.move (gpus : AmdGpus) : Event → World → World
  | .tick commands members peek, w => w.tick gpus commands members peek
  | .giveUp, w => { w with waiting := none }
  | .harvest, w => w.harvest
  | .activate, w => w.activate
  | .pause active, w => { w with verifyActive := active }
  | .advance d, w => { w with now := w.now + d }

/-- The GPU half of the daemon. -/
def rules (gpus : AmdGpus) : Locked.Rules World Job Effect Answer Outcome Event Luck where
  exec := World.exec
  start := Job.start gpus
  finish := Job.finish
  move := Event.move gpus
  died := Job.died

abbrev State : Type := Locked World Job Effect Answer Outcome

abbrev Move : Type := Locked.Move Job Event Luck

/-- The daemon has started: it drives no card, and has or has not begun to keep the record. -/
structure Started (s : State) : Prop where
  idle : s.running = none
  taken : s.world.handback.taken = []
  faithful : s.world.handback.Faithful
  sent : ∀ path, (s.world.curve path).sent = false
  driven : ∀ path, (s.world.curve path).driven = false
  staged : ∀ path, (s.world.curve path).staged = []
  commanded : ∀ fanId, s.world.lastCommandedPct.get? fanId = none
  relinquished : ∀ fanId, s.world.relinquishedGpuFans fanId = false
  given : ∀ fanId, s.world.givenBack fanId = false
  unclaimed : ∀ fanId, s.world.claimedAt fanId = none
  waiting : s.world.waiting = none

/-! ## What the rest of the daemon leaves alone -/

/-- What may change while a task holds the lock: nothing of the cards, the record and the duties; the
relinquished set only by being cleared. -/
structure Beside (w w' : World) : Prop where
  curve : w'.curve = w.curve
  zero : w'.zero = w.zero
  od : w'.od = w.od
  writable : w'.writable = w.writable
  commanded : w'.lastCommandedPct = w.lastCommandedPct
  handback : w'.handback = w.handback
  preserve : w'.lastPreserve = w.lastPreserve
  claimed : w'.claimedAt = w.claimedAt
  epoch : w.epoch ≤ w'.epoch
  uncleared : w'.epoch = w.epoch → w'.relinquishedGpuFans = w.relinquishedGpuFans
  given : ∀ fanId, w'.givenBack fanId = true → w.givenBack fanId = true
  cleared : w'.epoch ≠ w.epoch → ∀ fanId, w'.givenBack fanId = false

namespace Beside

/-- A move of what `Beside` does not speak of. -/
theorem of_eq {w w' : World} (curve : w'.curve = w.curve) (zero : w'.zero = w.zero) (od : w'.od = w.od)
    (writable : w'.writable = w.writable) (commanded : w'.lastCommandedPct = w.lastCommandedPct)
    (handback : w'.handback = w.handback) (preserve : w'.lastPreserve = w.lastPreserve)
    (claimed : w'.claimedAt = w.claimedAt) (epoch : w'.epoch = w.epoch)
    (relinquished : w'.relinquishedGpuFans = w.relinquishedGpuFans) (given : w'.givenBack = w.givenBack) :
    Beside w w' :=
  ⟨curve, zero, od, writable, commanded, handback, preserve, claimed, Nat.le_of_eq epoch.symm, fun _ => relinquished,
    fun fanId h => given ▸ h, fun h => absurd epoch h⟩

theorem refl (w : World) : Beside w w := of_eq rfl rfl rfl rfl rfl rfl rfl rfl rfl rfl rfl

theorem trans {u v w : World} (h : Beside u v) (h' : Beside v w) : Beside u w where
  curve := h'.curve.trans h.curve
  zero := h'.zero.trans h.zero
  od := h'.od.trans h.od
  writable := h'.writable.trans h.writable
  commanded := h'.commanded.trans h.commanded
  handback := h'.handback.trans h.handback
  preserve := h'.preserve.trans h.preserve
  claimed := h'.claimed.trans h.claimed
  epoch := h.epoch.trans h'.epoch
  uncleared he := by
    have h₁ : v.epoch = u.epoch := Nat.le_antisymm (he ▸ h'.epoch) h.epoch
    exact (h'.uncleared (he.trans h₁.symm)).trans (h.uncleared h₁)
  given fanId hg := h.given fanId (h'.given fanId hg)
  cleared hne fanId := by
    by_cases he : w.epoch = v.epoch
    · have hv := h.cleared (fun h => hne (he.trans h)) fanId
      cases hg : w.givenBack fanId with
      | false => rfl
      | true => exact absurd (h'.given fanId hg) (by simp [hv])
    · exact h'.cleared he fanId

theorem giveBackCandidates (w : World) (members : List String) (peek : Bool) :
    Beside w (w.giveBackCandidates members peek).2 := by
  cases peek <;> exact of_eq rfl rfl rfl rfl rfl rfl rfl rfl rfl rfl rfl

theorem tick (gpus : AmdGpus) (w : World) (commands : List PwmCommand) (members : List String) (peek : Bool) :
    Beside w (w.tick gpus commands members peek) := by
  have h := giveBackCandidates w members peek
  unfold World.tick
  split
  · exact refl w
  · dsimp only
    split
    · exact h
    · exact h.trans (of_eq rfl rfl rfl rfl rfl rfl rfl rfl rfl rfl rfl)

theorem noteWrite (w : World) (x : String × Nat × Option Bool) : Beside w (w.noteWrite x) := by
  unfold World.noteWrite
  split <;> exact of_eq rfl rfl rfl rfl rfl rfl rfl rfl rfl rfl rfl

theorem noteGiveBack (w : World) (x : String × Bool) : Beside w (w.noteGiveBack x) :=
  of_eq rfl rfl rfl rfl rfl rfl rfl rfl rfl rfl rfl

theorem foldl {β : Type} {f : World → β → World} (hf : ∀ w b, Beside w (f w b)) (bs : List β) (w : World) :
    Beside w (bs.foldl f w) := by
  induction bs generalizing w with
  | nil => exact refl w
  | cons b bs ih => exact (hf w b).trans (ih (f w b))

theorem harvest (w : World) : Beside w w.harvest := by
  unfold World.harvest
  split
  · exact refl w
  · rename_i o rest _
    have hrest : Beside w { w with finished := rest } :=
      of_eq rfl rfl rfl rfl rfl rfl rfl rfl rfl rfl rfl
    cases o with
    | some outcome =>
      exact hrest.trans ((foldl noteGiveBack _ _).trans (foldl noteWrite _ _))
    | none =>
      exact hrest.trans (of_eq rfl rfl rfl rfl rfl rfl rfl rfl rfl rfl rfl)

theorem activate (w : World) : Beside w w.activate where
  curve := rfl
  zero := rfl
  od := rfl
  writable := rfl
  commanded := rfl
  handback := rfl
  preserve := rfl
  claimed := rfl
  epoch := Nat.le_succ _
  uncleared he := absurd he (Nat.succ_ne_self _)
  given _ hg := Bool.noConfusion hg
  cleared _ _ := rfl

theorem move (gpus : AmdGpus) (e : Event) (w : World) : Beside w (e.move gpus w) := by
  cases e with
  | tick commands members peek => exact tick gpus w commands members peek
  | harvest => exact harvest w
  | activate => exact activate w
  | giveUp | pause _ | advance _ =>
    exact of_eq rfl rfl rfl rfl rfl rfl rfl rfl rfl rfl rfl

end Beside

end ControlOfc.Gpu
