import ControlOfc.Diagnostics.RunSlot
/-! # Sweeps are fenced by their run

A sweep publishes only into its own run while that is installed; a cancel is accepted only for the run in the
slot, and the flag it sets is cleared by the install of the next.
-/
namespace ControlOfc.Diagnostics
open Sweep Health

/-! ## The invariant -/

/-- What the installed run shows of its own sweep. -/
def Holds (run : CharacterizationRun) (t : SweepTask) : Prop :=
  match run.state with
  | none => t.phase = .sweeping ∧ run.points = publishedPoints t.said
  | some state => t.phase ≠ .sweeping ∧ ∃ outcome restore, t.todo = [] ∧ t.ending = some (outcome, restore) ∧
      state = outcome.state ∧ run.points = outcome.points

namespace RunSlot

def current (s : RunSlot) : Option Nat := s.slot.map (·.runId)

structure Inv (s : RunSlot) : Prop where
  covers : ∀ id t, s.sweeps.get? id = some t → ∀ outcome restore, t.ending = some (outcome, restore) →
    Covers outcome (t.said ++ t.todo)
  known : ∀ id, id ∈ s.installed ↔ (s.sweeps.get? id).isSome = true
  below : ∀ id ∈ s.installed, id < s.nextRun
  once : s.installed.Nodup
  numbered : (s.numbered.map Prod.snd).Nodup
  fresh : ∀ n ∈ s.numbered, n.2 < s.nextRun ∧ n.2 ∉ s.installed
  last : s.current = s.installed.getLast?
  holds : ∀ run, s.slot = some run → ∃ t, s.sweeps.get? run.runId = some t ∧ Holds run t
  flag : s.cancel = true ↔ ∃ id, s.current = some id ∧ id ∈ s.accepted
  accepted : ∀ id ∈ s.accepted, id ∈ s.installed
  watches : ∀ k w, s.watches.get? k = some w → ∀ run,
    w.phase = .fallingThrough (some run) ∨ w.phase = .finished (some run) → w.runId = some run.runId ∧ run.isRunning = false

variable {s : RunSlot}

theorem start_inv (daemon : DaemonState) : (start daemon).Inv where
  covers := by
    intro id t ht
    simp [RunSlot.start] at ht
  known := by simp [RunSlot.start]
  below := by simp [RunSlot.start]
  once := List.nodup_nil
  numbered := List.nodup_nil
  fresh := by simp [RunSlot.start]
  last := rfl
  holds := by simp [RunSlot.start]
  flag := by simp [RunSlot.start]
  accepted := by simp [RunSlot.start]
  watches := by
    intro k w hw
    simp [RunSlot.start] at hw

/-- The pause slot and the requests that have no number yet are no part of it. -/
theorem Inv.daemon (h : s.Inv) (daemon : DaemonState) (paused leased : List Nat) :
    Inv { s with daemon := daemon, paused := paused, leased := leased } :=
  ⟨h.covers, h.known, h.below, h.once, h.numbered, h.fresh, h.last, h.holds, h.flag, h.accepted, h.watches⟩

theorem Inv.number (h : s.Inv) (epoch : Nat) (leased : List Nat) :
    Inv { s with leased := leased, numbered := (epoch, s.nextRun) :: s.numbered, nextRun := s.nextRun + 1 } where
  covers := h.covers
  known := h.known
  below id hid := Nat.lt_succ_of_lt (h.below id hid)
  once := h.once
  numbered := by
    rw [List.map_cons, List.nodup_cons]
    refine ⟨fun hmem => ?_, h.numbered⟩
    obtain ⟨n, hn, heq⟩ := List.mem_map.mp hmem
    have hless := (h.fresh n hn).1
    omega
  fresh := by
    refine List.forall_mem_cons.mpr ⟨⟨Nat.lt_succ_self _, fun hmem => ?_⟩, fun n hn => ?_⟩
    · exact lt_irrefl _ (h.below _ hmem)
    · exact ⟨Nat.lt_succ_of_lt (h.fresh n hn).1, (h.fresh n hn).2⟩
  last := h.last
  holds := h.holds
  flag := h.flag
  accepted := h.accepted
  watches := h.watches

theorem launch_covers (epoch : Nat) (args : SweepArgs) (fuel : Nat) (env : Surroundings) (outcome : SweepOutcome)
    (restore : RestoreOutcome) (h : (SweepTask.launch epoch args fuel env).ending = some (outcome, restore)) :
    Covers outcome ((SweepTask.launch epoch args fuel env).said ++ (SweepTask.launch epoch args fuel env).todo) := by
  have hcovers := runSweep_covers args fuel ⟨env, [], { vars := () }⟩ rfl
  unfold SweepTask.launch at h ⊢
  split at h
  · next o s hrun =>
    rw [hrun] at hcovers
    dsimp only at h hcovers ⊢
    obtain ⟨o', ho', heq⟩ := Option.map_eq_some_iff.mp h
    obtain ⟨rfl, -⟩ := Prod.mk.inj heq
    exact hcovers o' ho'
  · next e s hrun => exact e.elim

theorem launch_sweeping (epoch : Nat) (args : SweepArgs) (fuel : Nat) (env : Surroundings) :
    (SweepTask.launch epoch args fuel env).phase = .sweeping ∧ (SweepTask.launch epoch args fuel env).said = [] := by
  unfold SweepTask.launch
  split
  · exact ⟨rfl, rfl⟩
  · next e _ _ => exact e.elim

/-- A new run replaces the installed one, and its install clears the flag. -/
theorem Inv.install (h : s.Inv) {epoch runId : Nat} (hmem : (epoch, runId) ∈ s.numbered) (headerId : String)
    (args : SweepArgs) (fuel : Nat) (env : Surroundings) : (s.step (.install epoch runId headerId args fuel env)).Inv := by
  unfold RunSlot.step
  dsimp only
  rw [if_pos hmem]
  obtain ⟨hless, hnew⟩ := h.fresh _ hmem
  have hnodup : s.numbered.Nodup := h.numbered.of_map
  refine ⟨?_, ?_, ?_, ?_, ?_, ?_, ?_, ?_, ?_, ?_, h.watches⟩
  · intro id t ht outcome restore hending
    by_cases hid : id = runId
    · subst hid
      rw [KMap.get?_insert_self] at ht
      obtain rfl := Option.some.inj ht
      exact launch_covers epoch args fuel env outcome restore hending
    · rw [KMap.get?_insert_of_ne _ _ hid] at ht
      exact h.covers id t ht outcome restore hending
  · intro id
    by_cases hid : id = runId
    · simp [hid]
    · simp [hid, h.known id]
  · intro id hid
    rcases List.mem_append.mp hid with hid | hid
    · exact h.below id hid
    · rw [List.mem_singleton.mp hid]
      exact hless
  · rw [List.nodup_append]
    refine ⟨h.once, List.nodup_singleton _, ?_⟩
    rintro a ha b hb rfl
    rw [List.mem_singleton.mp hb] at ha
    exact hnew ha
  · exact h.numbered.sublist (List.erase_sublist.map _)
  · intro n hn
    have hold := (hnodup.mem_erase_iff.mp hn)
    refine ⟨(h.fresh n hold.2).1, fun hin => ?_⟩
    rcases List.mem_append.mp hin with hin | hin
    · exact (h.fresh n hold.2).2 hin
    · have heq := List.inj_on_of_nodup_map h.numbered hold.2 hmem (List.mem_singleton.mp hin)
      exact hold.1 heq
  · simp [current, CharacterizationRun.install]
  · intro run hrun
    obtain rfl := Option.some.inj hrun
    obtain ⟨hphase, hsaid⟩ := launch_sweeping epoch args fuel env
    refine ⟨_, KMap.get?_insert_self _ _ _, hphase, ?_⟩
    rw [hsaid]
    rfl
  · constructor
    · rintro ⟨⟩
    · rintro ⟨id, hid, hin⟩
      obtain rfl : runId = id := Option.some.inj hid
      exact absurd (h.accepted _ hin) hnew
  · exact fun id hid => List.mem_append_left _ (h.accepted id hid)

/-- A sweep went on, and perhaps changed its own run. -/
theorem Inv.sweep (h : s.Inv) {runId : Nat} {t : SweepTask} (ht : s.sweeps.get? runId = some t) (t' : SweepTask)
    (hcovers : ∀ outcome restore, t'.ending = some (outcome, restore) → Covers outcome (t'.said ++ t'.todo))
    {slot : Option CharacterizationRun} (hcurrent : slot.map (·.runId) = s.current)
    (hholds : ∀ run, slot = some run → if run.runId = runId then Holds run t' else s.slot = some run) (daemon : DaemonState) :
    Inv { s with daemon := daemon, slot := slot, sweeps := s.sweeps.insert runId t' } where
  covers := by
    intro id u hu
    by_cases hid : id = runId
    · subst hid
      rw [KMap.get?_insert_self] at hu
      obtain rfl := Option.some.inj hu
      exact hcovers
    · rw [KMap.get?_insert_of_ne _ _ hid] at hu
      exact h.covers id u hu
  known := by
    intro id
    by_cases hid : id = runId
    · simp [hid, h.known runId, ht]
    · simp [hid, h.known id]
  below := h.below
  once := h.once
  numbered := h.numbered
  fresh := h.fresh
  last := hcurrent.trans h.last
  holds := by
    intro run hrun
    have hown := hholds run hrun
    by_cases hid : run.runId = runId
    · rw [if_pos hid] at hown
      exact ⟨t', by simp [hid], hown⟩
    · rw [if_neg hid] at hown
      obtain ⟨u, hu, hold⟩ := h.holds run hown
      exact ⟨u, by simpa [hid] using hu, hold⟩
  flag := by
    rw [h.flag]
    show _ ↔ ∃ id, slot.map (·.runId) = some id ∧ _
    rw [hcurrent]
  accepted := h.accepted
  watches := h.watches

theorem Inv.accept (h : s.Inv) {run : CharacterizationRun} (hrun : s.slot = some run) : (s.accept run.runId).Inv where
  covers := h.covers
  known := h.known
  below := h.below
  once := h.once
  numbered := h.numbered
  fresh := h.fresh
  last := h.last
  holds := h.holds
  flag := by
    refine ⟨fun _ => ⟨run.runId, ?_, List.mem_append_right _ (List.mem_singleton_self _)⟩, fun _ => rfl⟩
    exact congrArg (Option.map _) hrun
  accepted := by
    intro id hid
    rcases List.mem_append.mp hid with hid | hid
    · exact h.accepted id hid
    · obtain ⟨t, ht, -⟩ := h.holds run hrun
      rw [List.mem_singleton.mp hid]
      exact (h.known _).mpr (by simp [ht])
  watches := h.watches

theorem Inv.setWatch (h : s.Inv) {k : Nat} {w : Watch} {phase : WatchPhase}
    (hphase : ∀ run, phase = .fallingThrough (some run) ∨ phase = .finished (some run) →
      w.runId = some run.runId ∧ run.isRunning = false) : (s.setWatch k w phase).Inv :=
  ⟨h.covers, h.known, h.below, h.once, h.numbered, h.fresh, h.last, h.holds, h.flag, h.accepted, by
    intro k' w' hw' run hrun
    by_cases hk : k' = k
    · subst hk
      obtain rfl := Option.some.inj ((KMap.get?_insert_self _ _ _).symm.trans hw')
      exact hphase run hrun
    · exact h.watches k' w' ((KMap.get?_insert_of_ne _ _ hk).symm.trans hw') run hrun⟩

theorem hear_runId (run : CharacterizationRun) (runId : Nat) (news : News) : (run.hear runId news).runId = run.runId := by
  unfold CharacterizationRun.hear
  split
  · split <;> rfl
  · rfl

/-- What a question of the sweep leaves in its own run. -/
theorem Holds.hear {run : CharacterizationRun} {t : SweepTask} {news : News} {rest : List SweepEvent} {a : Answer HwmonVerifyState (.publish news)}
    (h : Holds run t) (htodo : t.todo = ⟨.publish news, a⟩ :: rest) :
    Holds (run.hear run.runId news) { t with said := t.said ++ [⟨.publish news, a⟩], todo := rest } := by
  unfold Holds at h ⊢
  cases hs : run.state with
  | none =>
    rw [hs] at h
    obtain ⟨hphase, hpoints⟩ := h
    cases news with
    | point p =>
      simp only [CharacterizationRun.hear, CharacterizationRun.isRunning, hs, Option.isNone_none, and_self, if_true]
      refine ⟨hphase, ?_⟩
      rw [hpoints, publishedPoints_append]
      rfl
    | settle index dutyPct maxMs =>
      simp only [CharacterizationRun.hear, CharacterizationRun.isRunning, hs, Option.isNone_none, and_self, if_true]
      refine ⟨hphase, ?_⟩
      rw [hpoints, publishedPoints_append]
      exact (List.append_nil _).symm
    | dwell index dutyPct maxMs =>
      simp only [CharacterizationRun.hear, CharacterizationRun.isRunning, hs, Option.isNone_none, and_self, if_true]
      refine ⟨hphase, ?_⟩
      rw [hpoints, publishedPoints_append]
      exact (List.append_nil _).symm
  | some state =>
    rw [hs] at h
    obtain ⟨-, outcome, restore, hnil, -⟩ := h
    rw [htodo] at hnil
    cases hnil

/-- A question that publishes nothing leaves the run as it is. -/
theorem Holds.silent {run : CharacterizationRun} {t : SweepTask} {e : SweepEvent} {rest : List SweepEvent} (h : Holds run t)
    (htodo : t.todo = e :: rest) (he : publishedPoint e = none) :
    Holds run { t with said := t.said ++ [e], todo := rest } := by
  unfold Holds at h ⊢
  cases hs : run.state with
  | none =>
    rw [hs] at h
    refine ⟨h.1, ?_⟩
    rw [h.2, publishedPoints_append]
    simp [publishedPoints, he]
  | some state =>
    rw [hs] at h
    obtain ⟨-, outcome, restore, hnil, -⟩ := h
    rw [htodo] at hnil
    cases hnil

theorem Inv.sweepStep (h : s.Inv) (runId : Nat) : (s.sweepStep runId).Inv := by
  unfold RunSlot.sweepStep
  split
  · next t ht =>
    split
    · next e rest htodo =>
      split
      · have hcovers : ∀ outcome restore, t.ending = some (outcome, restore) → Covers outcome ((t.said ++ [e]) ++ rest) := by
          intro outcome restore hending
          have hold := h.covers runId t ht outcome restore hending
          rw [htodo] at hold
          rwa [List.append_assoc]
        have hown : ∀ run, s.slot = some run → run.runId = runId → Holds run t := by
          intro run hrun hid
          obtain ⟨u, hu, hholds⟩ := h.holds run hrun
          rw [hid, ht] at hu
          rwa [Option.some.inj hu]
        have hquiet : publishedPoint e = none → ∀ daemon,
            Inv { s with daemon := daemon, sweeps := s.sweeps.insert runId { t with said := t.said ++ [e], todo := rest } } := by
          intro he daemon
          refine h.sweep ht { t with said := t.said ++ [e], todo := rest } hcovers rfl (fun run hrun => ?_) daemon
          split
          · next hid => exact Holds.silent (hown run hrun hid) htodo he
          · exact hrun
        rcases e with ⟨q, a⟩
        cases q with
        | publish news =>
          refine h.sweep ht { t with said := t.said ++ [⟨.publish news, a⟩], todo := rest } hcovers ?_ (fun run hrun => ?_) s.daemon
          · show (s.slot.map (·.hear runId news)).map (·.runId) = s.current
            rw [Option.map_map]
            exact Option.map_congr fun run _ => hear_runId run runId news
          · obtain ⟨run', hrun', rfl⟩ := Option.map_eq_some_iff.mp hrun
            rw [hear_runId]
            split
            · next hid =>
              rw [← hid]
              exact Holds.hear (hown run' hrun' hid) htodo
            · next hid =>
              rw [hrun']
              simp [CharacterizationRun.hear, hid]
        | keepalive => exact hquiet rfl _
        | _ => exact hquiet rfl _
      · exact h
    · exact h
  · exact h

theorem finish_runId (run : CharacterizationRun) (runId : Nat) (outcome : SweepOutcome) (restore : RestoreOutcome) :
    (run.finish runId outcome restore).runId = run.runId := by
  unfold CharacterizationRun.finish
  split <;> rfl

theorem Inv.terminal (h : s.Inv) (runId : Nat) : (s.terminal runId).Inv := by
  unfold RunSlot.terminal
  split
  · next t ht =>
    split
    · next outcome restore hphase htodo hending =>
      refine h.sweep ht { t with phase := .published } (h.covers runId t ht) ?_ (fun run hrun => ?_) s.daemon
      · rw [Option.map_map]
        exact Option.map_congr fun run _ => finish_runId run runId outcome restore
      · obtain ⟨run', hrun', rfl⟩ := Option.map_eq_some_iff.mp hrun
        rw [finish_runId]
        split
        · next hid =>
          unfold CharacterizationRun.finish
          rw [if_pos hid]
          exact ⟨nofun, outcome, restore, htodo, hending, rfl, rfl⟩
        · next hid =>
          rw [hrun']
          simp [CharacterizationRun.finish, hid]
    · exact h
  · exact h

theorem Inv.release (h : s.Inv) (runId : Nat) : (s.release runId).Inv := by
  unfold RunSlot.release
  split
  · next t ht =>
    split
    · next hphase =>
      refine h.sweep ht { t with phase := .released } (h.covers runId t ht) rfl (fun run hrun => ?_) _
      split
      · next hid =>
        obtain ⟨u, hu, hholds⟩ := h.holds run hrun
        rw [hid, ht] at hu
        obtain rfl := Option.some.inj hu
        unfold Holds at hholds ⊢
        cases hs : run.state with
        | none =>
          rw [hs, hphase] at hholds
          cases hholds.1
        | some state =>
          rw [hs] at hholds
          exact ⟨(fun h => by cases h), hholds.2⟩
      · exact hrun
    · exact h
  · exact h

theorem Inv.delete (h : s.Inv) : s.delete.Inv := by
  unfold RunSlot.delete
  split
  · next run hrun =>
    split
    · exact h.accept hrun
    · exact h
  · exact h

theorem Inv.cancelRunFenced (h : s.Inv) (runId : Option Nat) : (s.cancelRunFenced runId).Inv := by
  unfold RunSlot.cancelRunFenced
  split
  · next runId run hrun =>
    split
    · next hfence =>
      rw [← hfence.2]
      exact h.accept hrun
    · exact h
  · exact h

theorem Inv.snapshot (h : s.Inv) (k : Nat) (w : Watch) : (s.snapshot k w).Inv := by
  unfold RunSlot.snapshot
  split
  · next run hrun =>
    split
    · next hid =>
      split
      · exact h.setWatch (by rintro run' (h | h) <;> cases h)
      · next hended =>
        refine h.setWatch ?_
        rintro run' (heq | heq)
        · obtain rfl : run = run' := Option.some.inj (WatchPhase.fallingThrough.inj heq)
          exact ⟨hid.symm, by simpa using hended⟩
        · cases heq
    · exact h.setWatch (by rintro run' (h | h) <;> cases h)
  · exact h.setWatch (by rintro run' (h | h) <;> cases h)

theorem Inv.watchStep (h : s.Inv) (k : Nat) {f : RunSlot → Watch → RunSlot}
    (hf : ∀ w, s.watches.get? k = some w → (f s w).Inv) : (s.watchStep k f).Inv := by
  unfold RunSlot.watchStep
  split
  · next w hw => exact hf w hw
  · exact h

theorem Inv.step (h : s.Inv) (e : Event) : (s.step e).Inv := by
  cases e with
  | cache op => exact h.daemon _ _ _
  | beginVerifyPause =>
    unfold RunSlot.step
    dsimp only
    split
    · exact h.daemon _ _ _
    · exact h
  | takeVerifyLease epoch taken =>
    unfold RunSlot.step
    dsimp only
    split
    · split <;> exact h.daemon _ _ _
    · exact h
  | dropRequest epoch =>
    unfold RunSlot.step
    dsimp only
    split
    · exact h.daemon _ _ _
    · exact h
  | number epoch =>
    unfold RunSlot.step
    dsimp only
    split
    · exact h.number epoch _
    · exact h
  | install epoch runId headerId args fuel env =>
    by_cases hmem : (epoch, runId) ∈ s.numbered
    · exact h.install hmem headerId args fuel env
    · unfold RunSlot.step
      dsimp only
      rw [if_neg hmem]
      exact h
  | sweepStep runId => exact h.sweepStep runId
  | terminal runId => exact h.terminal runId
  | release runId => exact h.release runId
  | delete => exact h.delete
  | watch k runId =>
    unfold RunSlot.step
    dsimp only
    split
    · have hwatch : (s.setWatch k ⟨runId, .polling⟩ .polling).Inv :=
        h.setWatch (by rintro run (h | h) <;> cases h)
      exact hwatch
    · exact h
  | deadline k =>
    unfold RunSlot.step
    refine h.watchStep k fun w hw => ?_
    split
    · exact h.setWatch (by rintro run (h | h) <;> cases h)
    · exact h
  | snapshot k =>
    unfold RunSlot.step
    refine h.watchStep k fun w hw => ?_
    split
    · exact h.snapshot k w
    · exact h
  | sessionLive k live =>
    unfold RunSlot.step
    refine h.watchStep k fun w hw => ?_
    split
    · split
      · exact h.setWatch (by rintro run (h | h) <;> cases h)
      · exact (h.cancelRunFenced w.runId).setWatch (by rintro run (h | h) <;> cases h)
    · exact h
  | fallThrough k =>
    unfold RunSlot.step
    refine h.watchStep k fun w hw => ?_
    split
    · next finalRun hphase =>
      refine (h.cancelRunFenced w.runId).setWatch ?_
      rintro run (heq | heq)
      · cases heq
      · obtain rfl := WatchPhase.finished.inj heq
        exact h.watches k w hw run (.inl hphase)
    · exact h

/-! ## One step -/

/-- What a step can do to the installed run. -/
inductive Changes (s : RunSlot) (e : Event) (run : CharacterizationRun) : Prop
  | same (h : (s.step e).slot = some run)
  | replaced (epoch runId : Nat) (headerId : String) (args : SweepArgs) (fuel : Nat) (env : Surroundings)
      (he : e = .install epoch runId headerId args fuel env) (hmem : (epoch, runId) ∈ s.numbered)
  | published (run' : CharacterizationRun) (he : e = .sweepStep run.runId) (h : (s.step e).slot = some run')
      (hid : run'.runId = run.runId) (hrun : run.isRunning = true) (hrun' : run'.isRunning = true)
  | ended (run' : CharacterizationRun) (he : e = .terminal run.runId) (h : (s.step e).slot = some run')
      (hid : run'.runId = run.runId) (hrun : run.isRunning = true) (hrun' : run'.isRunning = false)

def Event.session : Event → Option Nat
  | .deadline k | .snapshot k | .sessionLive k _ | .fallThrough k => some k
  | _ => none

/-- What a step can do to the accepted cancels. -/
def Accepts (s : RunSlot) (e : Event) : Prop :=
  (s.step e).accepted = s.accepted ∨ ∃ run, s.slot = some run ∧ run.isRunning = true ∧
    (s.step e).accepted = s.accepted ++ [run.runId] ∧
    (e = .delete ∨ ∃ k w, e.session = some k ∧ s.watches.get? k = some w ∧ w.runId = some run.runId)

theorem cancelRunFenced_slot (s : RunSlot) (runId : Option Nat) : (s.cancelRunFenced runId).slot = s.slot := by
  unfold RunSlot.cancelRunFenced
  split
  · split <;> rfl
  · rfl

theorem snapshot_same (s : RunSlot) (k : Nat) (w : Watch) :
    (s.snapshot k w).slot = s.slot ∧ (s.snapshot k w).accepted = s.accepted := by
  unfold RunSlot.snapshot
  repeat' split
  all_goals exact ⟨rfl, rfl⟩

theorem hear_running {run : CharacterizationRun} (runId : Nat) (news : News) (hrun : run.isRunning = true) :
    (run.hear runId news).isRunning = true := by
  unfold CharacterizationRun.hear
  split
  · split <;> exact hrun
  · exact hrun

/-- A watch changes no run. -/
theorem watchStep_slot (s : RunSlot) (k : Nat) {f : RunSlot → Watch → RunSlot} (hf : ∀ w, (f s w).slot = s.slot) :
    (s.watchStep k f).slot = s.slot := by
  unfold RunSlot.watchStep
  split
  · exact hf _
  · rfl

theorem changes (h : s.Inv) (e : Event) {run : CharacterizationRun} (hrun : s.slot = some run) : s.Changes e run := by
  have hsame : ∀ {s' : RunSlot}, s'.slot = s.slot → s'.slot = some run := fun hs => hs.trans hrun
  cases e with
  | cache op => exact .same hrun
  | beginVerifyPause =>
    refine .same (hsame ?_)
    unfold RunSlot.step
    dsimp only
    split <;> rfl
  | takeVerifyLease epoch taken =>
    refine .same (hsame ?_)
    unfold RunSlot.step
    dsimp only
    split
    · split <;> rfl
    · rfl
  | dropRequest epoch =>
    refine .same (hsame ?_)
    unfold RunSlot.step
    dsimp only
    split <;> rfl
  | number epoch =>
    refine .same (hsame ?_)
    unfold RunSlot.step
    dsimp only
    split <;> rfl
  | install epoch runId headerId args fuel env =>
    by_cases hmem : (epoch, runId) ∈ s.numbered
    · exact .replaced epoch runId headerId args fuel env rfl hmem
    · refine .same (hsame ?_)
      unfold RunSlot.step
      dsimp only
      rw [if_neg hmem]
  | sweepStep runId =>
    by_cases hpub : run.runId = runId ∧ run.isRunning = true
    · obtain ⟨rfl, hlive⟩ := hpub
      have hslot : (s.step (.sweepStep run.runId)).slot = some run ∨
          ∃ news, (s.step (.sweepStep run.runId)).slot = some (run.hear run.runId news) := by
        unfold RunSlot.step RunSlot.sweepStep
        dsimp only
        split
        · split
          · split
            · unfold RunSlot.heard
              split
              · exact .inl hrun
              · exact .inr ⟨_, congrArg (Option.map _) hrun⟩
              · exact .inl hrun
            · exact .inl hrun
          · exact .inl hrun
        · exact .inl hrun
      rcases hslot with hslot | ⟨news, hslot⟩
      · exact .same hslot
      · exact .published _ rfl hslot (hear_runId run run.runId news) hlive (hear_running _ news hlive)
    · refine .same (hsame ?_)
      unfold RunSlot.step RunSlot.sweepStep
      dsimp only
      split
      · split
        · split
          · unfold RunSlot.heard
            split
            · rfl
            · next news _ =>
              rw [hrun]
              simp [CharacterizationRun.hear, hpub]
            · rfl
          · rfl
        · rfl
      · rfl
  | terminal runId =>
    cases ht : s.sweeps.get? runId with
    | none =>
      refine .same (hsame ?_)
      simp [RunSlot.step, RunSlot.terminal, ht]
    | some t =>
      by_cases hend : t.phase = .sweeping ∧ t.todo = [] ∧ ∃ outcome restore, t.ending = some (outcome, restore)
      · obtain ⟨hphase, htodo, outcome, restore, hending⟩ := hend
        have hslot : (s.step (.terminal runId)).slot = some (run.finish runId outcome restore) := by
          simp [RunSlot.step, RunSlot.terminal, ht, hphase, htodo, hending, hrun]
        by_cases hid : run.runId = runId
        · subst hid
          refine .ended _ rfl hslot (finish_runId run _ outcome restore) ?_ (by simp [CharacterizationRun.finish, CharacterizationRun.isRunning])
          obtain ⟨u, hu, hholds⟩ := h.holds run hrun
          rw [ht] at hu
          obtain rfl := Option.some.inj hu
          unfold Holds at hholds
          cases hs : run.state with
          | none => simp [CharacterizationRun.isRunning, hs]
          | some state =>
            rw [hs] at hholds
            exact absurd hphase hholds.1
        · refine .same (hslot.trans ?_)
          simp [CharacterizationRun.finish, hid]
      · refine .same (hsame ?_)
        unfold RunSlot.step RunSlot.terminal
        dsimp only
        rw [ht]
        dsimp only
        split
        · next outcome restore hphase htodo hending => exact absurd ⟨hphase, htodo, outcome, restore, hending⟩ hend
        · rfl
  | release runId =>
    refine .same (hsame ?_)
    unfold RunSlot.step RunSlot.release
    dsimp only
    split
    · split <;> rfl
    · rfl
  | delete =>
    refine .same (hsame ?_)
    unfold RunSlot.step RunSlot.delete
    dsimp only
    split
    · split <;> rfl
    · rfl
  | watch k runId =>
    refine .same (hsame ?_)
    unfold RunSlot.step
    dsimp only
    split <;> rfl
  | deadline k =>
    refine .same (hsame (watchStep_slot s k fun w => ?_))
    split <;> rfl
  | snapshot k =>
    refine .same (hsame (watchStep_slot s k fun w => ?_))
    split
    · exact (snapshot_same s k w).1
    · rfl
  | sessionLive k live =>
    refine .same (hsame (watchStep_slot s k fun w => ?_))
    split
    · split
      · rfl
      · exact cancelRunFenced_slot s w.runId
    · rfl
  | fallThrough k =>
    refine .same (hsame (watchStep_slot s k fun w => ?_))
    split
    · exact cancelRunFenced_slot s w.runId
    · rfl

theorem cancelRunFenced_accepts (s : RunSlot) (runId : Option Nat) :
    (s.cancelRunFenced runId).accepted = s.accepted ∨ ∃ run, s.slot = some run ∧ run.isRunning = true ∧
      (s.cancelRunFenced runId).accepted = s.accepted ++ [run.runId] ∧ runId = some run.runId := by
  unfold RunSlot.cancelRunFenced
  split
  · next runId run hrun =>
    split
    · next hfence => exact .inr ⟨run, hrun, hfence.1, by rw [hfence.2]; rfl, congrArg some hfence.2.symm⟩
    · exact .inl rfl
  · exact .inl rfl

/-- A watch accepts a cancel only for its own run. -/
theorem watchStep_accepts (s : RunSlot) {e : Event} {k : Nat} (he : e.session = some k) {f : RunSlot → Watch → RunSlot}
    (hstep : s.step e = s.watchStep k f) (hf : ∀ w, (f s w).accepted = s.accepted ∨ (f s w).accepted = (s.cancelRunFenced w.runId).accepted) :
    s.Accepts e := by
  unfold Accepts
  rw [hstep]
  unfold RunSlot.watchStep
  split
  · next w hw =>
    rcases hf w with heq | heq
    · exact .inl heq
    · rw [heq]
      rcases s.cancelRunFenced_accepts w.runId with hsame | ⟨run, hrun, hlive, hnew, hid⟩
      · exact .inl hsame
      · exact .inr ⟨run, hrun, hlive, hnew, .inr ⟨k, w, he, hw, hid⟩⟩
  · exact .inl rfl

theorem accepts (s : RunSlot) (e : Event) : s.Accepts e := by
  cases e with
  | delete =>
    unfold Accepts RunSlot.step RunSlot.delete
    dsimp only
    split
    · next run hrun =>
      split
      · next hlive => exact .inr ⟨run, hrun, hlive, rfl, .inl rfl⟩
      · exact .inl rfl
    · exact .inl rfl
  | deadline k =>
    have hstep := RunSlot.step.eq_def s (.deadline k)
    refine s.watchStep_accepts rfl hstep fun w => .inl ?_
    split <;> rfl
  | snapshot k =>
    have hstep := RunSlot.step.eq_def s (.snapshot k)
    refine s.watchStep_accepts rfl hstep fun w => .inl ?_
    split
    · exact (snapshot_same s k w).2
    · rfl
  | sessionLive k live =>
    have hstep := RunSlot.step.eq_def s (.sessionLive k live)
    refine s.watchStep_accepts rfl hstep fun w => ?_
    split
    · split
      · exact .inl rfl
      · exact .inr rfl
    · exact .inl rfl
  | fallThrough k =>
    have hstep := RunSlot.step.eq_def s (.fallThrough k)
    refine s.watchStep_accepts rfl hstep fun w => ?_
    split
    · exact .inr rfl
    · exact .inl rfl
  | sweepStep runId =>
    left
    unfold RunSlot.step RunSlot.sweepStep RunSlot.heard
    repeat' split
    all_goals rfl
  | terminal runId =>
    left
    unfold RunSlot.step RunSlot.terminal
    repeat' split
    all_goals rfl
  | release runId =>
    left
    unfold RunSlot.step RunSlot.release
    repeat' split
    all_goals rfl
  | _ =>
    left
    unfold RunSlot.step
    repeat' split
    all_goals rfl

/-! ## Runs -/

/-- What the installed run shows: while it runs what its own sweep has published so far, after that what its
sweep measured, of which it may not have published the last. -/
def ShowsOwn (run : CharacterizationRun) (t : SweepTask) : Prop :=
  (run.isRunning = true → run.points = publishedPoints t.said) ∧
    (run.isRunning = false → ∃ outcome restore, t.todo = [] ∧ t.ending = some (outcome, restore) ∧
      run.state = some outcome.state ∧ run.points = outcome.points ∧ Covers outcome t.said)

/-- What holds of the slot and its flag in a state, and of every next step. -/
structure Fenced (s : RunSlot) : Prop where
  ownPoints : ∀ run, s.slot = some run → ∃ t, s.sweeps.get? run.runId = some t ∧ ShowsOwn run t
  changes : ∀ e run, s.slot = some run → s.Changes e run
  newest : s.current = s.installed.getLast? ∧ s.installed.Nodup
  seen : ∀ t b, s.agrees t ⟨.cancel, b⟩ = true ↔ (b = true ↔ ∃ run, s.slot = some run ∧ run.runId ∈ s.accepted)
  accepts : ∀ e, s.Accepts e
  results : ∀ k w, s.watches.get? k = some w → ∀ run, w.phase = .finished (some run) →
    w.runId = some run.runId ∧ run.isRunning = false

theorem Inv.fenced (h : s.Inv) : s.Fenced where
  ownPoints := by
    intro run hrun
    obtain ⟨t, ht, hholds⟩ := h.holds run hrun
    refine ⟨t, ht, ?_, ?_⟩
    · intro hlive
      unfold Holds at hholds
      rw [Option.isNone_iff_eq_none.mp hlive] at hholds
      exact hholds.2
    · intro hdone
      unfold Holds at hholds
      cases hs : run.state with
      | none => simp [CharacterizationRun.isRunning, hs] at hdone
      | some state =>
        rw [hs] at hholds
        obtain ⟨-, outcome, restore, htodo, hending, rfl, hpoints⟩ := hholds
        have hcovers := h.covers run.runId t ht outcome restore hending
        rw [htodo, List.append_nil] at hcovers
        exact ⟨outcome, restore, htodo, hending, rfl, hpoints, hcovers⟩
  changes e run hrun := changes h e hrun
  newest := ⟨h.last, h.once⟩
  seen := by
    intro t b
    have hflag : s.cancel = true ↔ ∃ run, s.slot = some run ∧ run.runId ∈ s.accepted := by
      rw [h.flag]
      constructor
      · rintro ⟨id, hid, hmem⟩
        obtain ⟨run, hrun, rfl⟩ := Option.map_eq_some_iff.mp hid
        exact ⟨run, hrun, hmem⟩
      · rintro ⟨run, hrun, hmem⟩
        exact ⟨run.runId, congrArg (Option.map _) hrun, hmem⟩
    rw [← hflag, ← Bool.eq_iff_iff]
    exact decide_eq_true_iff
  accepts := s.accepts
  results k w hw run hrun := h.watches k w hw run (.inr hrun)

end RunSlot

/-- Whatever the order of the starts, the sweeps, the cancels and the sessions. -/
theorem run_fenced (daemon : DaemonState) (es : List RunSlot.Event) :
    (Machine.run RunSlot.step (RunSlot.start daemon) es).Fenced := by
  have hinv := Machine.run_inv (fun s e (hs : s.Inv) => hs.step e) _ es (RunSlot.start_inv daemon)
  exact hinv.fenced

end ControlOfc.Diagnostics
