import ControlOfc.OpenFan.Rescan
/-! # One probe and one adopted controller

The flag has one holder, and only its holder writes the slot and the stamp. The slot is written under the lock
over the registered poll loops, so what was installed is what is registered or was returned to the stop.
-/
namespace ControlOfc.OpenFan.Rescan

/-- The guard of the task is alive. -/
def Task.holds : Task → Bool
  | .unspawned | .released _ | .sent _ => false
  | .spawned _ | .probing _ | .found _ _ | .concluded _ _ | .stamped _ => true

/-- The run has the probes' flag. -/
def Update.holds : Update → Bool
  | .gated | .handing | .released true => true
  | .idle | .locked | .claimed _ | .released false | .ended => false

namespace World

def holds (w : World) : Party → Bool
  | .rescan i => (w.tasks i).holds
  | .run r => (w.updates r).holds

/-- The party is between its call of `adopt_openfan_controller` and the outcome. -/
def InAdoption (w : World) : Party → Prop
  | .rescan i => ∃ port candidates, w.tasks i = .found port candidates
  | .run r => w.updates r = .handing

theorem InAdoption.holds {w : World} {p : Party} (h : w.InAdoption p) : w.holds p = true := by
  cases p with
  | rescan i =>
    obtain ⟨port, candidates, htask⟩ := h
    simp [World.holds, htask, Task.holds]
  | run r => simp [World.holds, show w.updates r = .handing from h, Update.holds]

section Setters

variable (w : World)

theorem holds_setTask (i : Nat) (t : Task) (p : Party) :
    (w.setTask i t).holds p = if p = .rescan i then t.holds else w.holds p := by
  cases p with
  | rescan j =>
    by_cases hj : j = i
    · simp [World.holds, setTask, hj]
    · simp [World.holds, setTask, hj]
  | run r => simp [World.holds, setTask]

theorem holds_setUpdate (r : Nat) (u : Update) (p : Party) :
    (w.setUpdate r u).holds p = if p = .run r then u.holds else w.holds p := by
  cases p with
  | run q =>
    by_cases hq : q = r
    · simp [World.holds, setUpdate, hq]
    · simp [World.holds, setUpdate, hq]
  | rescan i => simp [World.holds, setUpdate]

theorem inAdoption_setTask {i : Nat} {t : Task} {p : Party} (hp : p ≠ .rescan i) :
    (w.setTask i t).InAdoption p ↔ w.InAdoption p := by
  cases p with
  | rescan j =>
    have hj : j ≠ i := fun heq => hp (heq ▸ rfl)
    simp [InAdoption, setTask, hj]
  | run r => rfl

theorem inAdoption_setUpdate {r : Nat} {u : Update} {p : Party} (hp : p ≠ .run r) :
    (w.setUpdate r u).InAdoption p ↔ w.InAdoption p := by
  cases p with
  | run q =>
    have hq : q ≠ r := fun heq => hp (heq ▸ rfl)
    simp [InAdoption, setUpdate, hq]
  | rescan i => rfl

end Setters

/-! ## What a step of an adoption does -/

/-- The steps of `adopt_openfan_controller` for `p`. -/
inductive Adopts (p : Party) (w : World) : World → Option AdoptOutcome → Prop where
  /-- Another party holds the lock. -/
  | waits (h : ∃ holder, w.lock = some holder ∧ ∀ s, holder ≠ .adopting p s) : Adopts p w w none
  | closed (hlock : w.lock = none) (hclosed : w.adoptedPollTasks.closed = true) : Adopts p w w (some .shuttingDown)
  | enters (hlock : w.lock = none) (hclosed : w.adoptedPollTasks.closed = false) :
    Adopts p w { w with lock := some (.adopting p .registering) } none
  | held (hlock : w.lock = some (.adopting p .registering)) (hheld : w.heldByAnother p = true) :
    Adopts p w { w with lock := none } (some .maintenanceRunning)
  | passes (hlock : w.lock = some (.adopting p .registering)) (hheld : w.heldByAnother p = false) :
    Adopts p w { w with lock := some (.adopting p .installing) } none
  | taken (hlock : w.lock = some (.adopting p .installing)) (hslot : w.fanController.isSome = true) :
    Adopts p w { w with lock := none } (some .alreadyAdopted)
  | installs (hlock : w.lock = some (.adopting p .installing)) (hslot : w.fanController = none) :
    Adopts p w { w with
      fanController := some (.adopted p), installed := w.installed ++ [p], lock := some (.adopting p .spawning) } none
  | registers (hlock : w.lock = some (.adopting p .spawning)) :
    Adopts p w { w with
      spawned := w.spawned ++ [p],
      adoptedPollTasks := { w.adoptedPollTasks with handles := w.adoptedPollTasks.handles ++ [p] },
      lock := none } (some .adopted)

theorem adopt_adopts (w : World) (p : Party) : Adopts p w (w.adopt p).1 (w.adopt p).2 := by
  unfold adopt
  split
  · next hlock =>
    split
    · next hclosed => exact .closed hlock hclosed
    · next hclosed => exact .enters hlock (by simpa using hclosed)
  · next hlock => exact .waits ⟨_, hlock, fun s => nofun⟩
  · next q step hlock =>
    split
    · next hne =>
      refine .waits ⟨_, hlock, fun s heq => hne ?_⟩
      exact (Holder.adopting.inj heq).1
    · next heq =>
      obtain rfl : q = p := not_not.mp heq
      cases step with
      | registering =>
        dsimp only
        split
        · next hheld => exact .held hlock hheld
        · next hheld => exact .passes hlock (by simpa using hheld)
      | installing =>
        dsimp only
        split
        · next c hslot => exact .taken hlock (by simp [hslot])
        · next hslot => exact .installs hlock hslot
      | spawning => exact .registers hlock

namespace Adopts

variable {p : Party} {w w' : World} {o : Option AdoptOutcome}

/-- What an adoption leaves as it was. -/
theorem frame (h : Adopts p w w' o) : w'.now = w.now ∧ w'.openfanMaintenance = w.openfanMaintenance ∧
    w'.openfanLink = w.openfanLink ∧ w'.openfanRescanning = w.openfanRescanning ∧
    w'.lastOpenfanRescan = w.lastOpenfanRescan ∧ w'.calls = w.calls ∧ w'.tasks = w.tasks ∧ w'.updates = w.updates := by
  cases h <;> exact ⟨rfl, rfl, rfl, rfl, rfl, rfl, rfl, rfl⟩

/-- An outcome comes with the lock free. -/
theorem unlocked (h : Adopts p w w' o) (ho : o.isSome = true) : w'.lock = none := by
  cases h with
  | closed hlock => exact hlock
  | waits | enters | passes | installs => cases ho
  | held | taken | registers => rfl

end Adopts

/-! ## The invariant -/

/-- What was installed is what was registered, but for the adoption between the two. -/
structure Books (w : World) : Prop where
  registering : ∀ p s, w.lock = some (.adopting p s) → w.adoptedPollTasks.closed = false
  undrained : w.adoptedPollTasks.closed = false → w.drained = []
  taken : w.adoptedPollTasks.closed = true → w.adoptedPollTasks.handles = []
  listed : w.drained ++ w.adoptedPollTasks.handles = w.spawned
  settled : (∀ p, w.lock ≠ some (.adopting p .spawning)) → w.installed = w.spawned
  spawning : ∀ p, w.lock = some (.adopting p .spawning) → w.spawned = [] ∧ w.installed = [p]
  only : w.installed = [] ∨ ∃ p, w.installed = [p] ∧ w.fanController = some (.adopted p)

structure Inv (w : World) : Prop where
  held : w.openfanRescanning = true ↔ ∃ p, w.holds p = true
  one : ∀ p q, w.holds p = true → w.holds q = true → p = q
  adopting : ∀ p s, w.lock = some (.adopting p s) → w.InAdoption p
  claiming : ∀ r s, w.lock = some (.claiming r s) → w.updates r = .locked
  books : w.Books
  linked : w.openfanLink = some .connected → w.fanController.isSome = true
  installing : ∀ p, w.lock = some (.adopting p .installing) → ∀ r, w.openfanMaintenance = some (.running r) →
    p = .run r ∨ w.fanController.isSome = true

theorem start_inv (now : Nat) (found : Bool) : (start now found).Inv where
  held := by
    constructor
    · intro h
      cases h
    · rintro ⟨p, hp⟩
      cases p <;> cases hp
  one := by
    intro p q hp
    cases p <;> cases hp
  adopting := nofun
  claiming := nofun
  books := ⟨nofun, fun _ => rfl, nofun, rfl, fun _ => rfl, nofun, .inl rfl⟩
  linked := nofun
  installing := nofun

section Steps

variable {w w' : World}

/-- The clock, the watch, the stamp and the calls are no part of it. -/
theorem Inv.beside (h : w.Inv) (now : Nat) (shutdown : Bool) (last : Option LastRescan) (calls : Nat → Call) :
    Inv { w with now := now, shutdown := shutdown, lastOpenfanRescan := last, calls := calls } := by
  have hholds : ∀ p, World.holds { w with now := now, shutdown := shutdown, lastOpenfanRescan := last, calls := calls } p =
      w.holds p := fun p => by cases p <;> rfl
  refine ⟨?_, ?_, fun p s hlock => ?_, h.claiming, ⟨h.books.registering, h.books.undrained, h.books.taken, h.books.listed,
    h.books.settled, h.books.spawning, h.books.only⟩, h.linked, h.installing⟩
  · simpa only [hholds] using h.held
  · simpa only [hholds] using h.one
  · have hin := h.adopting p s hlock
    cases p <;> exact hin

theorem Inv.setCall (h : w.Inv) (i : Nat) (c : Call) : (w.setCall i c).Inv :=
  h.beside w.now w.shutdown w.lastOpenfanRescan _

/-- A task that goes on with its guard, and is in no critical section. -/
theorem Inv.setTask (h : w.Inv) {i : Nat} {t : Task} (hsame : t.holds = (w.tasks i).holds)
    (hlock : ∀ s, w.lock ≠ some (.adopting (.rescan i) s)) : (w.setTask i t).Inv := by
  have hholds : ∀ p, (w.setTask i t).holds p = w.holds p := by
    intro p
    rw [holds_setTask]
    split
    · next hp => rw [hp, hsame, World.holds]
    · rfl
  refine ⟨?_, ?_, fun p s hp => ?_, h.claiming, ⟨h.books.registering, h.books.undrained, h.books.taken, h.books.listed,
    h.books.settled, h.books.spawning, h.books.only⟩, h.linked, h.installing⟩
  · simp only [hholds]
    exact h.held
  · simp only [hholds]
    exact h.one
  · rw [inAdoption_setTask]
    · exact h.adopting p s hp
    · rintro rfl
      exact hlock s hp

theorem Inv.setUpdate (h : w.Inv) {r : Nat} {u : Update} (hsame : u.holds = (w.updates r).holds)
    (hlock : ∀ s, w.lock ≠ some (.adopting (.run r) s))
    (hclaiming : ∀ s, w.lock = some (.claiming r s) → u = .locked) : (w.setUpdate r u).Inv := by
  have hholds : ∀ p, (w.setUpdate r u).holds p = w.holds p := by
    intro p
    rw [holds_setUpdate]
    split
    · next hp => rw [hp, hsame, World.holds]
    · rfl
  refine ⟨?_, ?_, fun p s hp => ?_, fun q s hq => ?_, ⟨h.books.registering, h.books.undrained, h.books.taken, h.books.listed,
    h.books.settled, h.books.spawning, h.books.only⟩, h.linked, h.installing⟩
  · simp only [hholds]
    exact h.held
  · simp only [hholds]
    exact h.one
  · rw [inAdoption_setUpdate]
    · exact h.adopting p s hp
    · rintro rfl
      exact hlock s hp
  · by_cases hqr : q = r
    · subst hqr
      simpa [World.setUpdate] using hclaiming s hq
    · simpa [World.setUpdate, hqr] using h.claiming q s hq

/-- A step that frees the lock from a critical section that is done with, or had none. -/
theorem Inv.unlock (h : w.Inv) (hlock : ∀ p, w.lock ≠ some (.adopting p .spawning)) : Inv { w with lock := none } := by
  have hholds : ∀ p, World.holds { w with lock := none } p = w.holds p := fun p => by cases p <;> rfl
  refine ⟨?_, ?_, nofun, nofun, ⟨nofun, h.books.undrained, h.books.taken, h.books.listed, fun _ => h.books.settled hlock,
    nofun, h.books.only⟩, h.linked, nofun⟩
  · simpa only [hholds] using h.held
  · simpa only [hholds] using h.one

theorem heldByAnother_eq_false {p : Party} (h : w.heldByAnother p = false) {r : Nat}
    (hr : w.openfanMaintenance = some (.running r)) : p = .run r := by
  rw [heldByAnother, hr] at h
  simpa using h

/-- An adoption's step, for a party in it. -/
theorem Inv.adopts {p : Party} {o : Option AdoptOutcome} (h : w.Inv) (hin : w.InAdoption p) (ha : Adopts p w w' o) :
    w'.Inv := by
  have hframe := ha.frame
  have hholds : ∀ q, w'.holds q = w.holds q := by
    intro q
    cases q with
    | rescan i => rw [World.holds, World.holds, hframe.2.2.2.2.2.2.1]
    | run r => rw [World.holds, World.holds, hframe.2.2.2.2.2.2.2]
  have hin' : w'.InAdoption p := by
    cases p with
    | rescan i => rwa [InAdoption, hframe.2.2.2.2.2.2.1]
    | run r => rwa [InAdoption, hframe.2.2.2.2.2.2.2]
  have hheld : w'.openfanRescanning = true ↔ ∃ q, w'.holds q = true := by
    simp only [hholds, hframe.2.2.2.1]
    exact h.held
  have hone : ∀ q q', w'.holds q = true → w'.holds q' = true → q = q' := by
    simp only [hholds]
    exact h.one
  have hself : ∀ {step : AdoptStep}, w'.lock = some (.adopting p step) → ∀ q s, w'.lock = some (.adopting q s) → w'.InAdoption q := by
    intro step hlock q s hq
    obtain ⟨rfl, -⟩ := Holder.adopting.inj (Option.some.inj (hlock.symm.trans hq))
    exact hin'
  cases ha with
  | waits => exact h
  | closed => exact h
  | enters hlock hclosed =>
    refine ⟨hheld, hone, hself rfl, nofun, ⟨fun _ _ _ => hclosed, h.books.undrained, h.books.taken, h.books.listed,
      fun _ => h.books.settled (by simp [hlock]), by simp, h.books.only⟩, h.linked, by simp⟩
  | held hlock => exact h.unlock (by simp [hlock])
  | passes hlock hnot =>
    refine ⟨hheld, hone, hself rfl, nofun, ⟨fun _ _ _ => h.books.registering _ _ hlock, h.books.undrained, h.books.taken,
      h.books.listed, fun _ => h.books.settled (by simp [hlock]), by simp, h.books.only⟩, h.linked, ?_⟩
    intro q hq r hr
    obtain ⟨rfl, -⟩ := Holder.adopting.inj (Option.some.inj hq)
    exact .inl (heldByAnother_eq_false hnot hr)
  | taken hlock => exact h.unlock (by simp [hlock])
  | installs hlock hslot =>
    have hnone : w.installed = [] := by
      rcases h.books.only with hnone | ⟨q, -, hq⟩
      · exact hnone
      · rw [hslot] at hq
        cases hq
    have hspawned : w.spawned = [] := (h.books.settled (by simp [hlock])).symm.trans hnone
    refine ⟨hheld, hone, hself rfl, nofun, ⟨fun _ _ _ => h.books.registering _ _ hlock, h.books.undrained, h.books.taken,
      h.books.listed, fun hno => absurd rfl (hno p), fun q hq => ?_, .inr ⟨p, by simp [hnone], rfl⟩⟩, fun _ => rfl, nofun⟩
    obtain ⟨rfl, -⟩ := Holder.adopting.inj (Option.some.inj hq)
    exact ⟨hspawned, by simp [hnone]⟩
  | registers hlock =>
    obtain ⟨hspawned, hinstalled⟩ := h.books.spawning p hlock
    have hopen := h.books.registering p _ hlock
    refine ⟨hheld, hone, nofun, nofun, ⟨nofun, h.books.undrained, fun hc => ?_, ?_, fun _ => ?_, nofun, h.books.only⟩,
      h.linked, nofun⟩
    · exact absurd (hopen.symm.trans hc) Bool.false_ne_true
    · simp [← h.books.listed]
    · simp [hspawned, hinstalled]

/-- Taking the flag while nobody has it. -/
theorem Inv.take (h : w.Inv) (hfree : w.openfanRescanning = false) {p : Party} (hholds : w'.holds p = true)
    (hothers : ∀ q, q ≠ p → w'.holds q = w.holds q) (hadopting : ∀ q s, w'.lock = some (.adopting q s) → w'.InAdoption q)
    (hclaiming : ∀ r s, w'.lock = some (.claiming r s) → w'.updates r = .locked)
    (hflag : w'.openfanRescanning = true) (hbooks : w'.Books)
    (hlinked : w'.openfanLink = some .connected → w'.fanController.isSome = true)
    (hinstalling : ∀ p, w'.lock = some (.adopting p .installing) → ∀ r, w'.openfanMaintenance = some (.running r) →
      p = .run r ∨ w'.fanController.isSome = true) : w'.Inv := by
  have hnobody : ∀ q, w.holds q ≠ true := by
    intro q hq
    exact Bool.false_ne_true (hfree.symm.trans (h.held.mpr ⟨q, hq⟩))
  have honly : ∀ q, w'.holds q = true → q = p := by
    intro q hq
    by_contra hne
    rw [hothers q hne] at hq
    exact hnobody q hq
  exact ⟨⟨fun _ => ⟨p, hholds⟩, fun _ => hflag⟩, fun q q' hq hq' => (honly q hq).trans (honly q' hq').symm, hadopting,
    hclaiming, hbooks, hlinked, hinstalling⟩

/-- Nobody is in an adoption while the flag is free. -/
theorem Inv.not_adopting (h : w.Inv) (hfree : w.openfanRescanning = false) (p : Party) (s : AdoptStep) :
    w.lock ≠ some (.adopting p s) := by
  intro hlock
  exact Bool.false_ne_true (hfree.symm.trans (h.held.mpr ⟨p, (h.adopting p s hlock).holds⟩))

/-- The holder is not in an adoption that another party's lock is for. -/
theorem Inv.not_adopting_of_holds (h : w.Inv) {p : Party} (hp : w.holds p = true) (hnot : ¬ w.InAdoption p) (q : Party)
    (s : AdoptStep) : w.lock ≠ some (.adopting q s) := by
  intro hlock
  have hin := h.adopting q s hlock
  rw [h.one q p hin.holds hp] at hin
  exact hnot hin

theorem Inv.handler (h : w.Inv) (configured : Option String) (i : Nat) (enumerated : List String) :
    (w.handler configured i enumerated).Inv := by
  unfold World.handler
  split
  · exact h.setCall _ _
  · split <;> exact h.setCall _ _
  · exact h.setCall _ _
  · split <;> exact h.setCall _ _
  · split <;> exact h.setCall _ _
  · next candidates _ _ =>
    split
    · exact h.setCall _ _
    · next hfree =>
      rw [Bool.not_eq_true] at hfree
      refine Inv.setCall ?_ _ _
      refine h.take hfree (p := .rescan i) ?_ ?_ ?_ h.claiming rfl ⟨h.books.registering, h.books.undrained, h.books.taken,
        h.books.listed, h.books.settled, h.books.spawning, h.books.only⟩ h.linked h.installing
      · simp [holds_setTask, Task.holds]
      · intro q hq
        rw [holds_setTask, if_neg hq]
        cases q <;> rfl
      · intro q s hlock
        exact absurd hlock (h.not_adopting hfree q s)
  · split
    · exact h.setCall _ _
    · exact h
  · exact h
  · exact h
  · exact h

/-- The guard's last act frees the flag. -/
theorem Inv.free (h : w.Inv) {p : Party} (hp : w.holds p = true) (hnot : ¬ w.InAdoption p) (hholds : w'.holds p = false)
    (hothers : ∀ q, q ≠ p → w'.holds q = w.holds q) (hflag : w'.openfanRescanning = false) (hlock : w'.lock = w.lock)
    (hclaiming : ∀ r s, w'.lock = some (.claiming r s) → w'.updates r = .locked)
    (hbooks : w'.Books) (hlinked : w'.openfanLink = some .connected → w'.fanController.isSome = true) : w'.Inv := by
  have hnobody : ∀ q, w'.holds q ≠ true := by
    intro q hq
    by_cases hqp : q = p
    · subst hqp
      exact Bool.false_ne_true (hholds.symm.trans hq)
    · rw [hothers q hqp] at hq
      exact hqp (h.one q p hq hp)
  have hunlocked : ∀ q s, w'.lock ≠ some (.adopting q s) := by
    rw [hlock]
    exact h.not_adopting_of_holds hp hnot
  refine ⟨⟨fun hf => ?_, fun ⟨q, hq⟩ => absurd hq (hnobody q)⟩, fun q _ hq => absurd hq (hnobody q),
    fun q s hq => absurd hq (hunlocked q s), hclaiming, hbooks, hlinked, fun q hq => absurd hq (hunlocked q _)⟩
  exact absurd (hflag.symm.trans hf) Bool.false_ne_true

theorem Inv.not_adopting_task (h : w.Inv) {i : Nat} (hnot : ¬ w.InAdoption (.rescan i)) (s : AdoptStep) :
    w.lock ≠ some (.adopting (.rescan i) s) := fun hlock => hnot (h.adopting _ s hlock)

theorem Inv.task (h : w.Inv) (i : Nat) (probe : ProbeEnd) : (w.task i probe).Inv := by
  unfold World.task
  cases ht : w.tasks i with
  | unspawned => exact h
  | sent outcome => exact h
  | spawned candidates =>
    exact h.setTask (by rw [ht]; rfl) (h.not_adopting_task (by simp [InAdoption, ht]))
  | probing candidates =>
    have hlock := h.not_adopting_task (i := i) (by simp [InAdoption, ht])
    cases probe with
    | panicked => exact h.setTask (by rw [ht]; rfl) hlock
    | asked identifies =>
      dsimp only
      split
      · exact h.setTask (by rw [ht]; rfl) hlock
      · exact h.setTask (by rw [ht]; rfl) hlock
  | found port candidates =>
    have ha := adopt_adopts w (.rescan i)
    have hin : w.InAdoption (.rescan i) := ⟨port, candidates, ht⟩
    dsimp only
    split
    · next w' heq =>
      rw [heq] at ha
      exact h.adopts hin ha
    · next w' outcome heq =>
      rw [heq] at ha
      refine (h.adopts hin ha).setTask ?_ ?_
      · rw [ha.frame.2.2.2.2.2.2.1, ht]
        rfl
      · have hunlocked : w'.lock = none := ha.unlocked rfl
        simp [hunlocked]
  | concluded outcome candidates =>
    have hbeside := h.beside w.now w.shutdown (some ⟨w.now, candidates⟩) w.calls
    refine hbeside.setTask (by rw [ht]; rfl) ?_
    exact h.not_adopting_task (by simp [InAdoption, ht])
  | stamped outcome =>
    refine h.free (p := .rescan i) (by simp [World.holds, ht, Task.holds]) (by simp [InAdoption, ht]) ?_ ?_ rfl rfl h.claiming
      ⟨h.books.registering, h.books.undrained, h.books.taken, h.books.listed, h.books.settled, h.books.spawning,
        h.books.only⟩ h.linked
    · simp [holds_setTask, Task.holds]
    · intro q hq
      rw [holds_setTask, if_neg hq]
      cases q <;> rfl
  | released outcome =>
    exact h.setTask (by rw [ht]; rfl) (h.not_adopting_task (by simp [InAdoption, ht]))

/-- A claim made or ended, where the party about to install is not refused by it too late. -/
theorem Inv.maintain (h : w.Inv) (m : Option OpenFanMaintenance)
    (hm : ∀ p, w.lock = some (.adopting p .installing) → ∀ r, m = some (.running r) → p = .run r ∨ w.fanController.isSome = true) :
    Inv { w with openfanMaintenance := m } := by
  have hholds : ∀ p, World.holds { w with openfanMaintenance := m } p = w.holds p := fun p => by cases p <;> rfl
  refine ⟨?_, ?_, fun p s hlock => ?_, h.claiming, ⟨h.books.registering, h.books.undrained, h.books.taken, h.books.listed,
    h.books.settled, h.books.spawning, h.books.only⟩, h.linked, hm⟩
  · simpa only [hholds] using h.held
  · simpa only [hholds] using h.one
  · have hin := h.adopting p s hlock
    cases p <;> exact hin

theorem Inv.endMaintenance (h : w.Inv) (r : Nat) (recovery : Option Nat) : (w.endMaintenance r recovery).Inv := by
  unfold World.endMaintenance
  split
  · refine h.maintain _ fun p _ q hq => ?_
    cases recovery <;> simp at hq
  · exact h

theorem endMaintenance_frame (w : World) (r : Nat) (recovery : Option Nat) :
    (w.endMaintenance r recovery).lock = w.lock ∧ (w.endMaintenance r recovery).updates = w.updates := by
  unfold endMaintenance
  split <;> exact ⟨rfl, rfl⟩

/-- A run whose phase names no critical section holds none. -/
theorem Inv.not_claiming (h : w.Inv) {r : Nat} (hnot : w.updates r ≠ .locked) (s : ClaimStep) :
    w.lock ≠ some (.claiming r s) := fun hlock => hnot (h.claiming r s hlock)

theorem Inv.not_adopting_run (h : w.Inv) {r : Nat} (hnot : w.updates r ≠ .handing) (s : AdoptStep) :
    w.lock ≠ some (.adopting (.run r) s) := fun hlock => hnot (h.adopting _ s hlock)

/-- A run that goes on outside every critical section, its share of the flag as it was. -/
theorem Inv.runOn (h : w.Inv) {r : Nat} {u : Update} (hsame : u.holds = (w.updates r).holds) (hhanding : w.updates r ≠ .handing)
    (hlocked : w.updates r ≠ .locked) : (w.setUpdate r u).Inv :=
  h.setUpdate hsame (h.not_adopting_run hhanding) fun s hlock => absurd hlock (h.not_claiming hlocked s)

/-- A run that holds the adoption lock to claim leaves it. -/
theorem Inv.unclaim (h : w.Inv) {r : Nat} {u : Update} {s : ClaimStep} (hlock : w.lock = some (.claiming r s))
    (hsame : u.holds = (w.updates r).holds) : ({ w with lock := none }.setUpdate r u).Inv :=
  (h.unlock (by simp [hlock])).setUpdate hsame nofun nofun

/-- It goes on in its critical section. -/
theorem Inv.relock (h : w.Inv) {r : Nat} {s : ClaimStep} (hlock : w.lock = some (.claiming r s)) (s' : ClaimStep) :
    Inv { w with lock := some (.claiming r s') } := by
  have hholds : ∀ p, World.holds { w with lock := some (.claiming r s') } p = w.holds p := fun p => by cases p <;> rfl
  refine ⟨?_, ?_, nofun, fun q t hq => ?_, ⟨nofun, h.books.undrained, h.books.taken, h.books.listed,
    fun _ => h.books.settled (by simp [hlock]), nofun, h.books.only⟩, h.linked, nofun⟩
  · simpa only [hholds] using h.held
  · simpa only [hholds] using h.one
  · obtain ⟨rfl, -⟩ := Holder.claiming.inj (Option.some.inj hq)
    exact h.claiming r s hlock

theorem Inv.update (h : w.Inv) (r : Nat) (move : UpdateMove) : (w.update r move).Inv := by
  unfold World.update
  split
  · next admitted hr =>
    split
    · next hbegin =>
      refine (h.maintain (some (.running r)) fun _ _ _ _ => .inr (h.linked hbegin.2.1)).runOn ?_ ?_ ?_
      · show _ = (w.updates r).holds
        rw [hr]
        rfl
      · exact fun heq => by cases hr.symm.trans heq
      · exact fun heq => by cases hr.symm.trans heq
    · exact h.runOn (by rw [hr]; rfl) (by simp [hr]) (by simp [hr])
  · next hr =>
    split
    · next hfree =>
      have hholds : ∀ p, World.holds ({ w with lock := some (.claiming r .asking) }.setUpdate r .locked) p = w.holds p := by
        intro p
        rw [holds_setUpdate]
        split
        · next hp => rw [hp, World.holds, hr]; rfl
        · cases p <;> rfl
      refine ⟨?_, ?_, nofun, fun q s hq => ?_, ⟨nofun, h.books.undrained, h.books.taken, h.books.listed,
        fun _ => h.books.settled (by simp [hfree]), nofun, h.books.only⟩, h.linked, nofun⟩
      · simp only [hholds]
        exact h.held
      · simp only [hholds]
        exact h.one
      · obtain ⟨rfl, -⟩ := Holder.claiming.inj (Option.some.inj hq)
        simp [World.setUpdate]
    · exact h
  · next hr =>
    split
    · exact h
    · next hlock =>
      rw [not_not] at hlock
      split
      · exact h.relock hlock .beginning
      · exact h.unclaim hlock (by rw [hr]; rfl)
  · next admitted hr =>
    split
    · exact h
    · next hlock =>
      rw [not_not] at hlock
      split
      · refine Inv.unclaim (w := { w with openfanMaintenance := some (.running r) }) ?_ hlock ?_
        · exact h.maintain _ fun p hp => by simp [hlock] at hp
        · show _ = (w.updates r).holds
          rw [hr]
          rfl
      · exact h.unclaim hlock (by rw [hr]; rfl)
  · next hr =>
    split
    · exact h
    · next hfree =>
      rw [Bool.not_eq_true] at hfree
      refine h.take hfree (p := .run r) ?_ ?_ ?_ ?_ rfl ⟨h.books.registering, h.books.undrained, h.books.taken,
        h.books.listed, h.books.settled, h.books.spawning, h.books.only⟩ h.linked h.installing
      · simp [holds_setUpdate, Update.holds]
      · intro q hq
        rw [holds_setUpdate, if_neg hq]
        cases q <;> rfl
      · intro q s hlock
        exact absurd hlock (h.not_adopting hfree q s)
      · intro q s hq
        have hqr : q ≠ r := by
          rintro rfl
          exact h.not_claiming (by simp [hr]) s hq
        simpa [World.setUpdate, hqr] using h.claiming q s hq
  · next hr => exact h.runOn (by rw [hr]; rfl) (by simp [hr]) (by simp [hr])
  · next hr =>
    have ha := adopt_adopts w (.run r)
    split
    · next w' heq =>
      rw [heq] at ha
      exact h.adopts (p := .run r) hr ha
    · next w' outcome heq =>
      rw [heq] at ha
      have hunlocked : w'.lock = none := ha.unlocked rfl
      refine (h.adopts (p := .run r) hr ha).setUpdate ?_ (by simp [hunlocked]) (by simp [hunlocked])
      rw [ha.frame.2.2.2.2.2.2.2, hr]
      rfl
  · next recovery silent hr =>
    obtain ⟨-, hupdates⟩ := endMaintenance_frame w r recovery
    exact (h.endMaintenance r recovery).runOn (by rw [hupdates, hr]; rfl) (by simp [hupdates, hr])
      (by simp [hupdates, hr])
  · next recovery hr =>
    obtain ⟨-, hupdates⟩ := endMaintenance_frame w r recovery
    exact (h.endMaintenance r recovery).runOn (by rw [hupdates, hr]; rfl) (by simp [hupdates, hr])
      (by simp [hupdates, hr])
  · next hr =>
    refine h.free (p := .run r) (by simp [World.holds, hr, Update.holds]) (by simp [InAdoption, hr]) ?_ ?_ rfl rfl ?_
      ⟨h.books.registering, h.books.undrained, h.books.taken, h.books.listed, h.books.settled, h.books.spawning,
        h.books.only⟩ h.linked
    · simp [holds_setUpdate, Update.holds]
    · intro q hq
      rw [holds_setUpdate, if_neg hq]
      cases q <;> rfl
    · intro q s hq
      have hqr : q ≠ r := by
        rintro rfl
        exact h.not_claiming (by simp [hr]) s hq
      simpa [World.setUpdate, hqr] using h.claiming q s hq
  · exact h

/-- Only the poll loop of an installed controller publishes. -/
theorem Inv.publish (h : w.Inv) (link : OpenFanLink) : (w.publish link).Inv := by
  have hlinked : ∀ m, (∀ r, m = some (.running r) → w.openfanMaintenance = some (.running r)) →
      w.fanController.isSome = true → Inv { w with openfanLink := some link, openfanMaintenance := m } := by
    intro m hm hslot
    have hmaintain := h.maintain m fun p hp r hr => h.installing p hp r (hm r hr)
    exact ⟨hmaintain.held, hmaintain.one, hmaintain.adopting, hmaintain.claiming,
      ⟨h.books.registering, h.books.undrained, h.books.taken, h.books.listed, h.books.settled, h.books.spawning,
        h.books.only⟩, fun _ => hslot, hmaintain.installing⟩
  unfold World.publish
  split
  · exact h
  · next c hslot =>
    have hsome : w.fanController.isSome = true := by simp [hslot]
    split
    · exact hlinked none nofun hsome
    · exact hlinked _ (fun r hr => hr) hsome

theorem Inv.closeAndDrain (h : w.Inv) : w.closeAndDrain.Inv := by
  unfold World.closeAndDrain
  split
  · next hfree =>
    have hholds : ∀ p, World.holds { w with
        drained := w.drained ++ w.adoptedPollTasks.handles, adoptedPollTasks := ⟨[], true⟩ } p = w.holds p := by
      intro p
      cases p <;> rfl
    refine ⟨?_, ?_, fun p s hlock => absurd (hfree.symm.trans hlock) nofun, fun r s hlock => absurd (hfree.symm.trans hlock) nofun,
      ⟨fun p s hlock => absurd (hfree.symm.trans hlock) nofun, nofun, fun _ => rfl, ?_,
        fun _ => h.books.settled (by simp [hfree]), fun p hlock => absurd (hfree.symm.trans hlock) nofun, h.books.only⟩, h.linked,
      fun p hlock => absurd (hfree.symm.trans hlock) nofun⟩
    · simpa only [hholds] using h.held
    · simpa only [hholds] using h.one
    · simpa using h.books.listed
  · exact h

theorem Inv.step (h : w.Inv) (configured : Option String) (e : Event) : (w.step configured e).Inv := by
  cases e with
  | elapse d => exact h.beside _ w.shutdown w.lastOpenfanRescan w.calls
  | stop => exact h.beside w.now true w.lastOpenfanRescan w.calls
  | call i =>
    unfold World.step
    dsimp only
    split
    · exact h.setCall i _
    · exact h
  | handler i enumerated => exact h.handler configured i enumerated
  | drop i =>
    unfold World.step
    dsimp only
    split
    · exact h.setCall i _
    · exact h
  | task i probe => exact h.task i probe
  | update r move => exact h.update r move
  | publish link => exact h.publish link
  | closeAndDrain => exact h.closeAndDrain

end Steps

theorem run_inv (configured : Option String) (now : Nat) (found : Bool) (es : List Event) :
    (Machine.run (step configured) (start now found) es).Inv :=
  Machine.run_inv (fun _ e hw => hw.step configured e) _ es (start_inv now found)

/-! ## What one step writes -/

/-- The slot, the poll loops and the stamp a step leaves behind; registration stays closed. -/
inductive Writes (w : World) : World → Prop where
  | nothing {w' : World} (hslot : w'.fanController = w.fanController) (hinstalled : w'.installed = w.installed)
    (hspawned : w'.spawned = w.spawned) (hlast : w'.lastOpenfanRescan = w.lastOpenfanRescan)
    (hclosed : w.adoptedPollTasks.closed = true → w'.adoptedPollTasks.closed = true) : Writes w w'
  | installs {w' : World} (p : Party) (hlock : w.lock = some (.adopting p .installing)) (hslot : w.fanController = none)
    (hinstalled : w'.installed = w.installed ++ [p]) (hspawned : w'.spawned = w.spawned)
    (hlast : w'.lastOpenfanRescan = w.lastOpenfanRescan)
    (hclosed : w.adoptedPollTasks.closed = true → w'.adoptedPollTasks.closed = true) : Writes w w'
  | spawns {w' : World} (p : Party) (hlock : w.lock = some (.adopting p .spawning))
    (hslot : w'.fanController = w.fanController) (hinstalled : w'.installed = w.installed)
    (hlast : w'.lastOpenfanRescan = w.lastOpenfanRescan)
    (hclosed : w.adoptedPollTasks.closed = true → w'.adoptedPollTasks.closed = true) : Writes w w'
  | stamps {w' : World} (i : Nat) (outcome : RescanOutcome) (candidates : List String)
    (htask : w.tasks i = .concluded outcome candidates) (hslot : w'.fanController = w.fanController)
    (hinstalled : w'.installed = w.installed) (hspawned : w'.spawned = w.spawned)
    (hclosed : w.adoptedPollTasks.closed = true → w'.adoptedPollTasks.closed = true) : Writes w w'

theorem Adopts.writes {p : Party} {w w' : World} {o : Option AdoptOutcome} (h : Adopts p w w' o) : Writes w w' := by
  cases h with
  | waits => exact .nothing rfl rfl rfl rfl id
  | closed => exact .nothing rfl rfl rfl rfl id
  | enters => exact .nothing rfl rfl rfl rfl id
  | held => exact .nothing rfl rfl rfl rfl id
  | passes => exact .nothing rfl rfl rfl rfl id
  | taken => exact .nothing rfl rfl rfl rfl id
  | installs hlock hslot => exact .installs p hlock hslot rfl rfl rfl id
  | registers hlock => exact .spawns p hlock rfl rfl rfl id

/-- A phase set afterwards writes none of these. -/
theorem Writes.congr {w w' w'' : World} (h : Writes w w') (hslot : w''.fanController = w'.fanController)
    (hinstalled : w''.installed = w'.installed) (hspawned : w''.spawned = w'.spawned)
    (hlast : w''.lastOpenfanRescan = w'.lastOpenfanRescan)
    (hclosed : w''.adoptedPollTasks.closed = w'.adoptedPollTasks.closed) : Writes w w'' := by
  cases h with
  | nothing h₁ h₂ h₃ h₄ h₅ =>
    exact .nothing (hslot.trans h₁) (hinstalled.trans h₂) (hspawned.trans h₃) (hlast.trans h₄) fun h => hclosed.trans (h₅ h)
  | installs p h₁ h₂ h₃ h₄ h₅ h₆ =>
    exact .installs p h₁ h₂ (hinstalled.trans h₃) (hspawned.trans h₄) (hlast.trans h₅) fun h => hclosed.trans (h₆ h)
  | spawns p h₁ h₂ h₃ h₄ h₅ =>
    exact .spawns p h₁ (hslot.trans h₂) (hinstalled.trans h₃) (hlast.trans h₄) fun h => hclosed.trans (h₅ h)
  | stamps i o cs h₁ h₂ h₃ h₄ h₅ =>
    exact .stamps i o cs h₁ (hslot.trans h₂) (hinstalled.trans h₃) (hspawned.trans h₄) fun h => hclosed.trans (h₅ h)

section Frames

variable (w : World)

theorem handler_frame (configured : Option String) (i : Nat) (enumerated : List String) :
    (w.handler configured i enumerated).now = w.now ∧
      (w.handler configured i enumerated).fanController = w.fanController ∧
      (w.handler configured i enumerated).installed = w.installed ∧
      (w.handler configured i enumerated).spawned = w.spawned ∧
      (w.handler configured i enumerated).lastOpenfanRescan = w.lastOpenfanRescan ∧
      (w.handler configured i enumerated).adoptedPollTasks = w.adoptedPollTasks := by
  unfold handler
  split
  · exact ⟨rfl, rfl, rfl, rfl, rfl, rfl⟩
  · split <;> exact ⟨rfl, rfl, rfl, rfl, rfl, rfl⟩
  · exact ⟨rfl, rfl, rfl, rfl, rfl, rfl⟩
  · split <;> exact ⟨rfl, rfl, rfl, rfl, rfl, rfl⟩
  · split <;> exact ⟨rfl, rfl, rfl, rfl, rfl, rfl⟩
  · split <;> exact ⟨rfl, rfl, rfl, rfl, rfl, rfl⟩
  · split <;> exact ⟨rfl, rfl, rfl, rfl, rfl, rfl⟩
  all_goals exact ⟨rfl, rfl, rfl, rfl, rfl, rfl⟩

theorem task_writes (i : Nat) (probe : ProbeEnd) : Writes w (w.task i probe) := by
  unfold task
  split
  · exact .nothing rfl rfl rfl rfl id
  · split
    · exact .nothing rfl rfl rfl rfl id
    · split <;> exact .nothing rfl rfl rfl rfl id
  · have ha := (adopt_adopts w (.rescan i)).writes
    split
    · next w' heq =>
      rw [heq] at ha
      exact ha
    · next w' outcome heq =>
      rw [heq] at ha
      exact ha.congr rfl rfl rfl rfl rfl
  · next outcome candidates htask => exact .stamps i outcome candidates htask rfl rfl rfl id
  all_goals exact .nothing rfl rfl rfl rfl id

theorem endMaintenance_writes (r : Nat) (recovery : Option Nat) : Writes w (w.endMaintenance r recovery) := by
  unfold endMaintenance
  split <;> exact .nothing rfl rfl rfl rfl id

theorem update_writes (r : Nat) (move : UpdateMove) : Writes w (w.update r move) := by
  unfold update
  split
  · split <;> exact .nothing rfl rfl rfl rfl id
  · split <;> exact .nothing rfl rfl rfl rfl id
  · split
    · exact .nothing rfl rfl rfl rfl id
    · split <;> exact .nothing rfl rfl rfl rfl id
  · split
    · exact .nothing rfl rfl rfl rfl id
    · split <;> exact .nothing rfl rfl rfl rfl id
  · split <;> exact .nothing rfl rfl rfl rfl id
  · exact .nothing rfl rfl rfl rfl id
  · have ha := (adopt_adopts w (.run r)).writes
    split
    · next w' heq =>
      rw [heq] at ha
      exact ha
    · next w' outcome heq =>
      rw [heq] at ha
      exact ha.congr rfl rfl rfl rfl rfl
  · next recovery _ _ => exact (w.endMaintenance_writes r recovery).congr rfl rfl rfl rfl rfl
  · next recovery _ => exact (w.endMaintenance_writes r recovery).congr rfl rfl rfl rfl rfl
  all_goals exact .nothing rfl rfl rfl rfl id

theorem publish_frame (link : OpenFanLink) : (w.publish link).now = w.now ∧ (w.publish link).calls = w.calls ∧
    (w.publish link).tasks = w.tasks ∧ Writes w (w.publish link) := by
  unfold publish
  split
  · exact ⟨rfl, rfl, rfl, .nothing rfl rfl rfl rfl id⟩
  · split <;> exact ⟨rfl, rfl, rfl, .nothing rfl rfl rfl rfl id⟩

theorem closeAndDrain_frame : w.closeAndDrain.now = w.now ∧ w.closeAndDrain.calls = w.calls ∧
    w.closeAndDrain.tasks = w.tasks ∧ Writes w w.closeAndDrain := by
  unfold closeAndDrain
  split
  · exact ⟨rfl, rfl, rfl, .nothing rfl rfl rfl rfl fun _ => rfl⟩
  · exact ⟨rfl, rfl, rfl, .nothing rfl rfl rfl rfl id⟩

theorem step_writes (configured : Option String) (e : Event) : Writes w (w.step configured e) := by
  cases e with
  | elapse d => exact .nothing rfl rfl rfl rfl id
  | stop => exact .nothing rfl rfl rfl rfl id
  | call i =>
    unfold step
    dsimp only
    split <;> exact .nothing rfl rfl rfl rfl id
  | handler i enumerated =>
    obtain ⟨-, hslot, hinstalled, hspawned, hlast, hclosed⟩ := w.handler_frame configured i enumerated
    exact .nothing hslot hinstalled hspawned hlast fun h => hclosed ▸ h
  | drop i =>
    unfold step
    dsimp only
    split <;> exact .nothing rfl rfl rfl rfl id
  | task i probe => exact w.task_writes i probe
  | update r move => exact w.update_writes r move
  | publish link => exact (w.publish_frame link).2.2.2
  | closeAndDrain => exact w.closeAndDrain_frame.2.2.2

end Frames

/-! ## Checks and probes -/

theorem cooldown_eq_none {last : Option LastRescan} {now : Nat} {candidates : List String} :
    cooldown last now candidates = none ↔ ∀ l, last = some l → samePortSet l.candidates candidates = true →
      l.endedAt + openfanRescanCooldown ≤ now := by
  cases last with
  | none => simp [cooldown]
  | some l =>
    by_cases hsame : samePortSet l.candidates candidates = true
    · by_cases hless : now - l.endedAt < openfanRescanCooldown
      · have hnot : ¬ l.endedAt + openfanRescanCooldown ≤ now := by omega
        simp [cooldown, hless, hsame, hnot]
      · simp only [cooldown, hless, false_and, if_false, Option.some.injEq, forall_eq', hsame, forall_const, true_iff]
        unfold openfanRescanCooldown at hless ⊢
        omega
    · simp [cooldown, hsame]

theorem cooldown_later {last : Option LastRescan} {now now' : Nat} {candidates : List String}
    (h : cooldown last now candidates = none) (hle : now ≤ now') : cooldown last now' candidates = none := by
  rw [cooldown_eq_none] at h ⊢
  intro l hl hsame
  exact (h l hl hsame).trans hle

section Checks

variable (w : World)

theorem task_frame (i : Nat) (probe : ProbeEnd) : (w.task i probe).now = w.now ∧ (w.task i probe).calls = w.calls ∧
    ∀ j candidates, (w.task i probe).tasks j = .spawned candidates → w.tasks j = .spawned candidates := by
  have hset : ∀ t, (∀ candidates, t ≠ .spawned candidates) → ∀ j candidates,
      Function.update w.tasks i t j = .spawned candidates → w.tasks j = .spawned candidates := by
    intro t ht j candidates hj
    by_cases hji : j = i
    · rw [hji, Function.update_self] at hj
      exact absurd hj (ht candidates)
    · rwa [Function.update_of_ne hji] at hj
  unfold task
  split
  · exact ⟨rfl, rfl, hset _ nofun⟩
  · split
    · exact ⟨rfl, rfl, hset _ nofun⟩
    · split <;> exact ⟨rfl, rfl, hset _ nofun⟩
  · have ha := (adopt_adopts w (.rescan i)).frame
    split
    · next w' heq =>
      rw [heq] at ha
      obtain ⟨hnow, -, -, -, -, hcalls, htasks, -⟩ := ha
      exact ⟨hnow, hcalls, fun j candidates hj => by rwa [htasks] at hj⟩
    · next w' outcome heq =>
      rw [heq] at ha
      obtain ⟨hnow, -, -, -, -, hcalls, htasks, -⟩ := ha
      refine ⟨hnow, hcalls, fun j candidates hj => ?_⟩
      unfold setTask at hj
      rw [htasks] at hj
      exact hset _ (by simp) j candidates hj
  · exact ⟨rfl, rfl, hset _ nofun⟩
  · exact ⟨rfl, rfl, hset _ nofun⟩
  · exact ⟨rfl, rfl, hset _ nofun⟩
  all_goals exact ⟨rfl, rfl, fun _ _ hj => hj⟩

theorem update_frame (r : Nat) (move : UpdateMove) : (w.update r move).now = w.now ∧ (w.update r move).calls = w.calls ∧
    (w.update r move).tasks = w.tasks := by
  have hend : ∀ recovery, (w.endMaintenance r recovery).now = w.now ∧ (w.endMaintenance r recovery).calls = w.calls ∧
      (w.endMaintenance r recovery).tasks = w.tasks := by
    intro recovery
    unfold endMaintenance
    split <;> exact ⟨rfl, rfl, rfl⟩
  unfold update
  split
  · split <;> exact ⟨rfl, rfl, rfl⟩
  · split <;> exact ⟨rfl, rfl, rfl⟩
  · split
    · exact ⟨rfl, rfl, rfl⟩
    · split <;> exact ⟨rfl, rfl, rfl⟩
  · split
    · exact ⟨rfl, rfl, rfl⟩
    · split <;> exact ⟨rfl, rfl, rfl⟩
  · split <;> exact ⟨rfl, rfl, rfl⟩
  · exact ⟨rfl, rfl, rfl⟩
  · have ha := (adopt_adopts w (.run r)).frame
    split
    · next w' heq =>
      rw [heq] at ha
      exact ⟨ha.1, ha.2.2.2.2.2.1, ha.2.2.2.2.2.2.1⟩
    · next w' outcome heq =>
      rw [heq] at ha
      exact ⟨ha.1, ha.2.2.2.2.2.1, ha.2.2.2.2.2.2.1⟩
  · exact hend _
  · exact hend _
  all_goals exact ⟨rfl, rfl, rfl⟩

theorem handler_tasks (configured : Option String) (i : Nat) (enumerated : List String) (j : Nat) (candidates : List String)
    (hj : (w.handler configured i enumerated).tasks j = .spawned candidates) :
    w.tasks j = .spawned candidates ∨
      j = i ∧ (∃ last, w.calls i = .vacant candidates last) ∧ w.openfanRescanning = false := by
  unfold handler at hj
  split at hj
  · exact .inl hj
  · split at hj <;> exact .inl hj
  · exact .inl hj
  · split at hj <;> exact .inl hj
  · split at hj <;> exact .inl hj
  · next cs last hcall =>
    split at hj
    · exact .inl hj
    · next hfree =>
      by_cases hji : j = i
      · have hcs : cs = candidates := by simpa [setCall, setTask, hji] using hj
        subst hcs
        exact .inr ⟨hji, ⟨last, hcall⟩, by simpa using hfree⟩
      · left
        simpa [setCall, setTask, hji] using hj
  · split at hj <;> exact .inl hj
  all_goals exact .inl hj

/-- The call has its ports and the stamp it read at its cooldown check. -/
def Checked (i : Nat) (candidates : List String) (last : Option LastRescan) : Prop :=
  w.calls i = .rested candidates last ∨ w.calls i = .vacant candidates last

theorem checked_setCall (i j : Nat) (c : Call) (candidates : List String) (last : Option LastRescan) :
    (w.setCall i c).Checked j candidates last ↔
      if j = i then c = .rested candidates last ∨ c = .vacant candidates last else w.Checked j candidates last := by
  by_cases hji : j = i
  · simp [Checked, setCall, hji]
  · simp [Checked, setCall, hji]

theorem handler_checked (configured : Option String) (i : Nat) (enumerated : List String) (j : Nat) (candidates : List String)
    (last : Option LastRescan) (hj : (w.handler configured i enumerated).Checked j candidates last) :
    w.Checked j candidates last ∨ cooldown last w.now candidates = none := by
  have hset : ∀ c, (∀ cs l, c = .rested cs l ∨ c = .vacant cs l → w.Checked i cs l ∨ cooldown l w.now cs = none) →
      (w.setCall i c).Checked j candidates last → w.Checked j candidates last ∨ cooldown last w.now candidates = none := by
    intro c hc hchecked
    rw [checked_setCall] at hchecked
    split at hchecked
    · next hji =>
      subst hji
      exact hc candidates last hchecked
    · exact .inl hchecked
  unfold handler at hj
  split at hj
  · refine hset _ (fun cs l hc => ?_) hj
    split at hc <;> simp at hc
  · split at hj <;> exact hset _ (by simp) hj
  · exact hset _ (by simp) hj
  · split at hj
    · exact hset _ (by simp) hj
    · next hcool =>
      refine hset _ (fun cs l hc => .inr ?_) hj
      obtain ⟨rfl, rfl⟩ : _ ∧ _ := by simpa using hc
      exact hcool
  · next cs' l' hcall =>
    split at hj
    · exact hset _ (by simp) hj
    · refine hset _ (fun cs l hc => .inl (.inl ?_)) hj
      obtain ⟨rfl, rfl⟩ : _ ∧ _ := by simpa using hc
      exact hcall
  · split at hj
    · exact hset _ (by simp) hj
    · refine hset .awaiting (by simp) ?_
      rw [checked_setCall] at hj ⊢
      exact hj
  · split at hj
    · exact hset _ (by simp) hj
    · exact .inl hj
  all_goals exact .inl hj

theorem step_now (configured : Option String) (e : Event) : w.now ≤ (w.step configured e).now := by
  cases e with
  | elapse d => exact Nat.le_add_right _ _
  | stop => exact le_rfl
  | call i =>
    unfold step
    dsimp only
    split <;> exact le_rfl
  | handler i enumerated => exact (w.handler_frame configured i enumerated).1.ge
  | drop i =>
    unfold step
    dsimp only
    split <;> exact le_rfl
  | task i probe => exact (w.task_frame i probe).1.ge
  | update r move => exact (w.update_frame r move).1.ge
  | publish link => exact (w.publish_frame link).1.ge
  | closeAndDrain => exact w.closeAndDrain_frame.1.ge

theorem step_checked (configured : Option String) (e : Event) (j : Nat) (candidates : List String) (last : Option LastRescan)
    (hj : (w.step configured e).Checked j candidates last) : w.Checked j candidates last ∨ cooldown last w.now candidates = none := by
  have hset : ∀ i c, (∀ cs l, c ≠ .rested cs l ∧ c ≠ .vacant cs l) → (w.setCall i c).Checked j candidates last →
      w.Checked j candidates last := by
    intro i c hc hchecked
    rw [checked_setCall] at hchecked
    split at hchecked
    · rcases hchecked with hr | hv
      · exact absurd hr (hc _ _).1
      · exact absurd hv (hc _ _).2
    · exact hchecked
  have hsame : ∀ w' : World, w'.calls = w.calls → w'.Checked j candidates last → w.Checked j candidates last := by
    intro w' hcalls hchecked
    unfold Checked at hchecked ⊢
    rwa [hcalls] at hchecked
  cases e with
  | elapse d => exact .inl hj
  | stop => exact .inl hj
  | call i =>
    unfold step at hj
    dsimp only at hj
    split at hj
    · exact .inl (hset _ _ (by simp) hj)
    · exact .inl hj
  | handler i enumerated => exact w.handler_checked configured i enumerated j candidates last hj
  | drop i =>
    unfold step at hj
    dsimp only at hj
    split at hj
    · exact .inl (hset _ _ (by simp) hj)
    · exact .inl hj
  | task i probe => exact .inl (hsame _ (w.task_frame i probe).2.1 hj)
  | update r move => exact .inl (hsame _ (w.update_frame r move).2.1 hj)
  | publish link => exact .inl (hsame _ (w.publish_frame link).2.1 hj)
  | closeAndDrain => exact .inl (hsame _ w.closeAndDrain_frame.2.1 hj)

theorem step_spawned (configured : Option String) (e : Event) (j : Nat) (candidates : List String)
    (hj : (w.step configured e).tasks j = .spawned candidates) : w.tasks j = .spawned candidates ∨
      ∃ enumerated, e = .handler j enumerated ∧ (∃ last, w.calls j = .vacant candidates last) ∧ w.openfanRescanning = false := by
  cases e with
  | elapse d => exact .inl hj
  | stop => exact .inl hj
  | call i =>
    unfold step at hj
    dsimp only at hj
    split at hj <;> exact .inl hj
  | handler i enumerated =>
    rcases w.handler_tasks configured i enumerated j candidates hj with hold | ⟨rfl, hcall, hfree⟩
    · exact .inl hold
    · exact .inr ⟨enumerated, rfl, hcall, hfree⟩
  | drop i =>
    unfold step at hj
    dsimp only at hj
    split at hj <;> exact .inl hj
  | task i probe => exact .inl ((w.task_frame i probe).2.2 j candidates hj)
  | update r move =>
    left
    rwa [← (w.update_frame r move).2.2]
  | publish link =>
    left
    rwa [← (w.publish_frame link).2.2.1]
  | closeAndDrain =>
    left
    rwa [← w.closeAndDrain_frame.2.2.1]

end Checks

/-! ## Probes that start -/

/-- No request takes the flag after a controller was installed since it found none, or after a probe over its
ports ended since it read the stamp, until the wait since is over. -/
def NotOvertaken (w : World) (e : Event) : Prop :=
  ∀ i enumerated, e = .handler i enumerated → w.openfanRescanning = false → ∀ candidates last,
    w.calls i = .vacant candidates last → w.fanController = none ∧
      (w.lastOpenfanRescan = last ∨ cooldown w.lastOpenfanRescan w.now candidates = none)

/-- A probe that starts finds no controller installed, and its ports rested since the last probe over them. -/
def ProbeAllowed (w : World) (e : Event) : Prop :=
  ∀ i probe, e = .task i probe → ∀ candidates, w.tasks i = .spawned candidates → w.fanController = none ∧
    ∀ last, w.lastOpenfanRescan = some last → samePortSet last.candidates candidates = true →
      last.endedAt + openfanRescanCooldown ≤ w.now

structure Cleared (w : World) : Prop where
  checked : ∀ i candidates last, w.Checked i candidates last → cooldown last w.now candidates = none
  clear : ∀ i candidates, w.tasks i = .spawned candidates →
    w.fanController = none ∧ cooldown w.lastOpenfanRescan w.now candidates = none

theorem start_cleared (now : Nat) (found : Bool) : (start now found).Cleared where
  checked i candidates last h := by
    rcases h with h | h <;> cases h
  clear i candidates h := by cases h

section Probes

variable {w : World}

theorem Cleared.probeAllowed (h : w.Cleared) (e : Event) : w.ProbeAllowed e := by
  rintro i probe rfl candidates htask
  obtain ⟨hslot, hcool⟩ := h.clear i candidates htask
  exact ⟨hslot, cooldown_eq_none.mp hcool⟩

/-- A task that has yet to probe is alone with the slot and the stamp. -/
theorem Writes.kept {w' : World} (h : Writes w w') (hinv : w.Inv) {i : Nat} {candidates : List String}
    (htask : w.tasks i = .spawned candidates) :
    w'.fanController = w.fanController ∧ w'.lastOpenfanRescan = w.lastOpenfanRescan := by
  have hholds : w.holds (.rescan i) = true := by simp [World.holds, htask, Task.holds]
  have hnot : ¬ w.InAdoption (.rescan i) := by simp [InAdoption, htask]
  cases h with
  | nothing hslot _ _ hlast => exact ⟨hslot, hlast⟩
  | installs p hlock => exact absurd hlock (hinv.not_adopting_of_holds hholds hnot p _)
  | spawns p hlock => exact absurd hlock (hinv.not_adopting_of_holds hholds hnot p _)
  | stamps j outcome cs hj =>
    have hsame := hinv.one (.rescan i) (.rescan j) hholds (by simp [World.holds, hj, Task.holds])
    obtain rfl := Party.rescan.inj hsame
    cases htask.symm.trans hj

theorem Cleared.step (h : w.Cleared) (hinv : w.Inv) (configured : Option String) (e : Event) (hnot : w.NotOvertaken e) :
    (w.step configured e).Cleared where
  checked i candidates last hchecked := by
    rcases w.step_checked configured e i candidates last hchecked with hold | hcool
    · exact cooldown_later (h.checked i candidates last hold) (w.step_now configured e)
    · exact cooldown_later hcool (w.step_now configured e)
  clear i candidates htask := by
    rcases w.step_spawned configured e i candidates htask with hold | ⟨enumerated, rfl, ⟨last, hcall⟩, hfree⟩
    · obtain ⟨hslot, hlast⟩ := (w.step_writes configured e).kept hinv hold
      rw [hslot, hlast]
      exact ⟨(h.clear i candidates hold).1, cooldown_later (h.clear i candidates hold).2 (w.step_now configured e)⟩
    · obtain ⟨hnow, hslot, -, -, hlast, -⟩ := w.handler_frame configured i enumerated
      obtain ⟨hempty, hstamp⟩ := hnot i enumerated rfl hfree candidates last hcall
      unfold World.step
      dsimp only
      rw [hslot, hlast, hnow]
      refine ⟨hempty, ?_⟩
      rcases hstamp with hsame | hcool
      · rw [hsame]
        exact h.checked i candidates last (.inr hcall)
      · exact hcool

/-- A request that takes the flag overtaken starts a probe it should not: its task's next step does. -/
theorem probeAllowed_of_overtaken (configured : Option String) (i : Nat) (enumerated : List String)
    (hnot : ¬ w.NotOvertaken (.handler i enumerated)) (probe : ProbeEnd) :
    ¬ (w.step configured (.handler i enumerated)).ProbeAllowed (.task i probe) := by
  intro hallowed
  refine hnot fun j en heq hfree candidates last hcall => ?_
  obtain ⟨rfl, rfl⟩ := Event.handler.inj heq
  have hspawned : (w.step configured (.handler i enumerated)).tasks i = .spawned candidates := by
    simp [World.step, World.handler, hcall, hfree, setCall, setTask]
  obtain ⟨hnow, hslot, -, -, hlast, -⟩ := w.handler_frame configured i enumerated
  obtain ⟨hempty, hrested⟩ := hallowed i probe rfl candidates hspawned
  refine ⟨hslot.symm.trans hempty, .inr (cooldown_eq_none.mpr ?_)⟩
  have hnow' : (w.step configured (.handler i enumerated)).now = w.now := hnow
  have hlast' : (w.step configured (.handler i enumerated)).lastOpenfanRescan = w.lastOpenfanRescan := hlast
  rwa [hnow', hlast'] at hrested

end Probes

/-! ## The flag is given back -/

/-- A step of a detached task or of an update's run. -/
def Event.Own : Event → Prop
  | .task _ _ | .update _ _ => True
  | .elapse _ | .stop | .call _ | .handler _ _ | .drop _ | .publish _ | .closeAndDrain => False

/-- Steps of their own free the flag. -/
def Frees (configured : Option String) (w : World) : Prop :=
  ∃ es, (∀ e ∈ es, e.Own) ∧ (Machine.run (step configured) w es).openfanRescanning = false

section Frees

variable {w : World} {configured : Option String}

attribute [local simp] World.step task update adopt setTask setUpdate

theorem Frees.of_step {e : Event} (he : e.Own) (h : Frees configured (w.step configured e)) : Frees configured w := by
  obtain ⟨es, hes, hfree⟩ := h
  exact ⟨e :: es, List.forall_mem_cons.mpr ⟨he, hes⟩, hfree⟩

theorem Frees.of_free (h : w.openfanRescanning = false) : Frees configured w := ⟨[], nofun, h⟩

theorem Frees.stamped (i : Nat) (outcome : RescanOutcome) (h : w.tasks i = .stamped outcome) : Frees configured w := by
  refine .of_step (e := .task i .panicked) trivial (.of_free ?_)
  simp [h]

theorem Frees.concluded (i : Nat) (outcome : RescanOutcome) (candidates : List String)
    (h : w.tasks i = .concluded outcome candidates) : Frees configured w := by
  refine .of_step (e := .task i .panicked) trivial (.stamped i outcome ?_)
  simp [h]

theorem Frees.probing (i : Nat) (candidates : List String) (h : w.tasks i = .probing candidates) : Frees configured w := by
  refine .of_step (e := .task i .panicked) trivial (.concluded i .probeFailed candidates ?_)
  simp [h]

theorem Frees.spawned {i : Nat} {candidates : List String} (h : w.tasks i = .spawned candidates) : Frees configured w := by
  refine .of_step (e := .task i .panicked) trivial (.probing i candidates ?_)
  simp [h]

theorem Frees.released {r : Nat} (h : w.updates r = .released true) : Frees configured w := by
  refine .of_step (e := .update r .dropGate) trivial (.of_free ?_)
  simp [h]

theorem Frees.gated {r : Nat} (h : w.updates r = .gated) : Frees configured w := by
  refine .of_step (e := .update r (.release none)) trivial (.released (r := r) ?_)
  simp [h]

/-- The party's next step in its adoption. -/
def advance : Party → Event
  | .rescan i => .task i .panicked
  | .run r => .update r .adopt

theorem advance_own (p : Party) : (advance p).Own := by
  cases p <;> trivial

/-- The step that ends an adoption leads on to the flag. -/
theorem Frees.of_outcome {p : Party} (hin : w.InAdoption p) (h : (w.adopt p).2.isSome = true) : Frees configured w := by
  obtain ⟨outcome, ho⟩ := Option.isSome_iff_exists.mp h
  have heq : w.adopt p = ((w.adopt p).1, some outcome) := Prod.ext rfl ho
  refine .of_step (advance_own p) ?_
  cases p with
  | rescan i =>
    obtain ⟨port, candidates, htask⟩ := hin
    refine .concluded i (outcome.concludes port) candidates ?_
    simp only [advance, World.step, task, htask]
    rw [heq]
    simp
  | run r =>
    have hr : w.updates r = .handing := hin
    refine .gated (r := r) ?_
    simp only [advance, World.step, update, hr]
    rw [heq]
    simp

/-- A step that does not end it leaves the party in it. -/
theorem Frees.of_passed {p : Party} (hin : w.InAdoption p) (ho : (w.adopt p).2 = none)
    (h : (w.adopt p).1.InAdoption p → Frees configured (w.adopt p).1) : Frees configured w := by
  have heq : w.adopt p = ((w.adopt p).1, none) := Prod.ext rfl ho
  have hframe := (adopt_adopts w p).frame
  refine .of_step (advance_own p) ?_
  cases p with
  | rescan i =>
    have hin' : (w.adopt (.rescan i)).1.InAdoption (.rescan i) := by rwa [InAdoption, hframe.2.2.2.2.2.2.1]
    obtain ⟨port, candidates, htask⟩ := hin
    have hstep : w.step configured (advance (.rescan i)) = (w.adopt (.rescan i)).1 := by
      simp only [advance, World.step, task, htask]
      rw [heq]
    rw [hstep]
    exact h hin'
  | run r =>
    have hin' : (w.adopt (.run r)).1.InAdoption (.run r) := by rwa [InAdoption, hframe.2.2.2.2.2.2.2]
    have hr : w.updates r = .handing := hin
    have hstep : w.step configured (advance (.run r)) = (w.adopt (.run r)).1 := by
      simp only [advance, World.step, update, hr]
      rw [heq]
    rw [hstep]
    exact h hin'

theorem Frees.spawning {p : Party} (hin : w.InAdoption p) (hlock : w.lock = some (.adopting p .spawning)) :
    Frees configured w := .of_outcome hin (by simp [hlock])

theorem Frees.installing {p : Party} (hin : w.InAdoption p) (hlock : w.lock = some (.adopting p .installing)) :
    Frees configured w := by
  cases hslot : w.fanController with
  | some c => exact .of_outcome hin (by simp [hlock, hslot])
  | none => exact .of_passed hin (by simp [hlock, hslot]) fun hin' => .spawning hin' (by simp [hlock, hslot])

theorem Frees.registering {p : Party} (hin : w.InAdoption p) (hlock : w.lock = some (.adopting p .registering)) :
    Frees configured w := by
  by_cases hheld : w.heldByAnother p = true
  · exact .of_outcome hin (by simp [hlock, hheld])
  · exact .of_passed hin (by simp [hlock, hheld]) fun hin' => .installing hin' (by simp [hlock, hheld])

theorem Frees.unlocked {p : Party} (hin : w.InAdoption p) (hlock : w.lock = none) : Frees configured w := by
  by_cases hclosed : w.adoptedPollTasks.closed = true
  · exact .of_outcome hin (by simp [hlock, hclosed])
  · exact .of_passed hin (by simp [hlock, hclosed]) fun hin' => .registering hin' (by simp [hlock, hclosed])

/-- A claim that holds the lock is soon done with it. -/
theorem Frees.claiming (hinv : w.Inv) {p : Party} (hin : w.InAdoption p) {r : Nat} {s : ClaimStep}
    (hlock : w.lock = some (.claiming r s)) : Frees configured w := by
  have hr := hinv.claiming r s hlock
  have hp : p ≠ .run r := by
    rintro rfl
    cases hr.symm.trans hin
  have hbegin : ∀ w : World, w.InAdoption p → w.updates r = .locked → w.lock = some (.claiming r .beginning) →
      Frees configured w := by
    intro w hin hr hlock
    refine .of_step (e := .update r (.beginSilent false)) trivial (.unlocked (p := p) ?_ ?_)
    · simp only [World.step, update, hr, hlock]
      simp only [ne_eq, not_true_eq_false, if_false, Bool.false_eq_true, and_false]
      rw [inAdoption_setUpdate _ hp]
      cases p <;> exact hin
    · simp [hr, hlock]
  cases s with
  | beginning => exact hbegin w hin hr hlock
  | asking =>
    refine .of_step (e := .update r .ask) trivial ?_
    by_cases hanswers : w.noControllerAnswers = true
    · refine hbegin _ ?_ ?_ ?_
      · simp only [World.step, update, hr, hlock, hanswers]
        simp only [ne_eq, not_true_eq_false, if_false, if_true]
        cases p <;> exact hin
      · simp [hr, hlock, hanswers]
      · simp [hr, hlock, hanswers]
    · refine .unlocked (p := p) ?_ ?_
      · simp only [World.step, update, hr, hlock, hanswers]
        simp only [ne_eq, not_true_eq_false, if_false, Bool.false_eq_true]
        rw [inAdoption_setUpdate _ hp]
        cases p <;> exact hin
      · simp [hr, hlock, hanswers]

theorem Frees.inAdoption (hinv : w.Inv) {p : Party} (hin : w.InAdoption p) : Frees configured w := by
  cases hlock : w.lock with
  | none => exact .unlocked hin hlock
  | some holder =>
    cases holder with
    | claiming r s => exact .claiming hinv hin hlock
    | adopting q s =>
      obtain rfl := hinv.one q p (hinv.adopting q s hlock).holds hin.holds
      cases s with
      | registering => exact .registering hin hlock
      | installing => exact .installing hin hlock
      | spawning => exact .spawning hin hlock

theorem Inv.frees (hinv : w.Inv) (configured : Option String) : Frees configured w := by
  cases hflag : w.openfanRescanning with
  | false => exact .of_free hflag
  | true =>
    obtain ⟨p, hp⟩ := hinv.held.mp hflag
    cases p with
    | rescan i =>
      cases htask : w.tasks i with
      | spawned candidates => exact .spawned htask
      | probing candidates => exact .probing _ _ htask
      | found port candidates => exact .inAdoption hinv (p := .rescan i) ⟨port, candidates, htask⟩
      | concluded outcome candidates => exact .concluded _ _ _ htask
      | stamped outcome => exact .stamped _ _ htask
      | _ => simp [World.holds, htask, Task.holds] at hp
    | run r =>
      cases hr : w.updates r with
      | gated => exact .gated hr
      | handing => exact .inAdoption hinv (p := .run r) hr
      | released gate =>
        cases gate with
        | true => exact .released hr
        | false => simp [World.holds, hr, Update.holds] at hp
      | _ => simp [World.holds, hr, Update.holds] at hp

end Frees

/-! ## Every run -/

/-- What holds in every state: at most one controller is adopted, with one poll loop that is registered until the
stop takes it; one probe runs, beside no update that has the flag; the flag is set while it has a holder, and
the holder's own steps give it back. -/
structure Safe (configured : Option String) (w : World) : Prop where
  oneController : w.installed.length ≤ 1
  oneLoop : (∀ p, w.lock ≠ some (.adopting p .spawning)) → w.spawned = w.installed
  spawning : ∀ p, w.lock = some (.adopting p .spawning) →
    w.installed = [p] ∧ w.spawned = [] ∧ w.adoptedPollTasks.closed = false
  registered : w.adoptedPollTasks.closed = false → w.adoptedPollTasks.handles = w.spawned
  drained : w.adoptedPollTasks.closed = true → w.drained = w.spawned ∧ w.spawned = w.installed
  oneProbe : ∀ i j cs cs', w.tasks i = .probing cs → w.tasks j = .probing cs' → i = j
  besideNoUpdate : ∀ i cs r, w.tasks i = .probing cs → (w.updates r).holds = false
  flag : w.openfanRescanning = true ↔ ∃ p, w.holds p = true
  frees : Frees configured w

/-- What a step may install: nothing once registration closed, and nothing while a run other than the one that
adopts holds the controller. -/
def InstallAllowed (configured : Option String) (w : World) (e : Event) : Prop :=
  ((w.step configured e).installed = w.installed ∨ ∃ p, (w.step configured e).installed = w.installed ++ [p] ∧
    w.adoptedPollTasks.closed = false ∧ ∀ r, w.openfanMaintenance = some (.running r) → p = .run r) ∧
  (w.adoptedPollTasks.closed = true →
    (w.step configured e).spawned = w.spawned ∧ (w.step configured e).adoptedPollTasks.closed = true)

section Runs

variable {w : World}

theorem Inv.safe (h : w.Inv) (configured : Option String) : w.Safe configured where
  oneController := by
    rcases h.books.only with hnone | ⟨p, hp, -⟩
    · simp [hnone]
    · simp [hp]
  oneLoop hno := (h.books.settled hno).symm
  spawning p hlock := ⟨(h.books.spawning p hlock).2, (h.books.spawning p hlock).1, h.books.registering p _ hlock⟩
  registered hopen := by
    have hlisted := h.books.listed
    rwa [h.books.undrained hopen, List.nil_append] at hlisted
  drained hclosed := by
    have hlisted := h.books.listed
    rw [h.books.taken hclosed, List.append_nil] at hlisted
    refine ⟨hlisted, (h.books.settled fun p hlock => ?_).symm⟩
    exact Bool.false_ne_true ((h.books.registering p _ hlock).symm.trans hclosed)
  oneProbe i j cs cs' hi hj := by
    have hsame := h.one (.rescan i) (.rescan j) (by simp [World.holds, hi, Task.holds]) (by simp [World.holds, hj, Task.holds])
    exact Party.rescan.inj hsame
  besideNoUpdate i cs r hi := by
    by_contra hholds
    rw [Bool.not_eq_false] at hholds
    cases h.one (.rescan i) (.run r) (by simp [World.holds, hi, Task.holds]) hholds
  flag := h.held
  frees := h.frees configured

theorem Inv.installAllowed (h : w.Inv) (configured : Option String) (e : Event) : w.InstallAllowed configured e := by
  have hwrites := w.step_writes configured e
  constructor
  · cases hwrites with
    | nothing _ hinstalled => exact .inl hinstalled
    | spawns p _ _ hinstalled => exact .inl hinstalled
    | stamps i o cs _ _ hinstalled => exact .inl hinstalled
    | installs p hlock hslot hinstalled =>
      refine .inr ⟨p, hinstalled, h.books.registering p _ hlock, fun r hr => ?_⟩
      rcases h.installing p hlock r hr with hown | hsome
      · exact hown
      · simp [hslot] at hsome
  · intro hclosed
    cases hwrites with
    | nothing _ _ hspawned _ hstays => exact ⟨hspawned, hstays hclosed⟩
    | installs p _ _ _ hspawned _ hstays => exact ⟨hspawned, hstays hclosed⟩
    | stamps i o cs _ _ _ hspawned hstays => exact ⟨hspawned, hstays hclosed⟩
    | spawns p hlock => exact absurd ((h.books.registering p _ hlock).symm.trans hclosed) Bool.false_ne_true

end Runs

/-- Every run is safe, and where no request takes the flag overtaken no probe starts that should not; one that
does take it overtaken goes on to start such a probe. -/
theorem rescans_fenced (configured : Option String) (now : Nat) (found : Bool) (es : List Event) :
    (Machine.run (step configured) (start now found) es).Safe configured ∧
      Machine.Along (step configured) (InstallAllowed configured) (start now found) es ∧
      (Machine.Along (step configured) NotOvertaken (start now found) es →
        Machine.Along (step configured) ProbeAllowed (start now found) es) ∧
      ∀ i enumerated probe, ¬ (Machine.run (step configured) (start now found) es).NotOvertaken (.handler i enumerated) →
        ¬ (Machine.run (step configured) (start now found) (es ++ [.handler i enumerated])).ProbeAllowed (.task i probe) := by
  refine ⟨(run_inv configured now found es).safe configured, ?_, ?_, ?_⟩
  · refine (Machine.along_of_inv (fun w e _ hw => ⟨?_, ?_⟩) _ (start_inv now found)).1
    · exact hw.installAllowed configured e
    · exact hw.step configured e
  · refine Machine.along_of_along (I := fun w => w.Inv ∧ w.Cleared) (fun w e _ hw hnot => ⟨?_, ?_, ?_⟩) _
      ⟨start_inv now found, start_cleared now found⟩
    · exact hw.2.probeAllowed e
    · exact hw.1.step configured e
    · exact hw.2.step hw.1 configured e hnot
  · intro i enumerated probe hnot
    rw [Machine.run_append]
    exact probeAllowed_of_overtaken configured i enumerated hnot probe

/-- Two requests pass their checks; the second probes, adopts and is done, and the first takes the flag. -/
def overtakenRun : List Event :=
  let ports := ["/dev/ttyACM0"]
  [.call 0, .handler 0 ports, .handler 0 ports, .handler 0 ports, .handler 0 ports, .handler 0 ports,
    .call 1, .handler 1 ports, .handler 1 ports, .handler 1 ports, .handler 1 ports, .handler 1 ports, .handler 1 ports] ++
    List.replicate 9 (.task 1 (.asked fun _ => true)) ++ [.handler 0 ports]

/-- It then probes the port of the controller that was adopted. -/
theorem probed_once_adopted : ¬ ∀ (configured : Option String) (now : Nat) (found : Bool) (es : List Event),
    Machine.Along (step configured) ProbeAllowed (start now found) es := by
  intro hclaim
  have hlast := ((Machine.along_append ..).mp (hclaim none 0 false (overtakenRun ++ [.task 0 .panicked]))).2.1
  have hspawned : (Machine.run (step none) (start 0 false) overtakenRun).tasks 0 = .spawned ["/dev/ttyACM0"] := by
    decide
  have hslot : (Machine.run (step none) (start 0 false) overtakenRun).fanController ≠ none := by decide
  exact hslot (hlast 0 .panicked rfl _ hspawned).1

end World

end ControlOfc.OpenFan.Rescan
