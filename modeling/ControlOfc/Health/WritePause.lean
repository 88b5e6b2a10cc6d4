import ControlOfc.Health.StateCache
/-! # One pause slot, one firmware claim

A diagnostic may steal the slot of one whose deadman elapsed; the epoch is what keeps the stale owner's calls
from touching the successor's pause. A firmware update is fenced by its `run_id` and shares the write guard
with the slot (`write_pause`).
-/
namespace ControlOfc.Health.DaemonState

variable {s : DaemonState}

/-! ## One step -/

/-- The epoch an operation claims. -/
def claimed (s : DaemonState) : CacheOp → Option Nat
  | .tryBeginVerify window => (s.tryBeginVerify window).2
  | _ => none

/-- The epoch of a renewal that is granted, and the deadman it gets. -/
def renewed (s : DaemonState) : CacheOp → Option (Nat × Nat)
  | .renewVerify epoch window => if (s.renewVerify epoch window).2 then some (epoch, s.now + window) else none
  | _ => none

/-- What a claim needs, and what it leaves. -/
theorem tryBeginVerify_eq_some {window epoch : Nat} (h : (s.tryBeginVerify window).2 = some epoch) :
    s.openfanMaintenanceRunning = false ∧ s.verifyActive = false ∧ epoch = nextEpoch s.verifyEpoch ∧
      (s.tryBeginVerify window).1 =
        { s with verifyEpoch := epoch, verifyInProgress := true, verifyActiveUntil := some (s.now + window) } := by
  unfold tryBeginVerify at h ⊢
  split at h
  · cases h
  · next hr =>
    split at h
    · cases h
    · next ha =>
      cases h
      rw [if_neg hr, if_neg ha]
      exact ⟨by simpa using hr, by simpa using ha, rfl, rfl⟩

theorem tryBeginVerify_eq_none {window : Nat} (h : (s.tryBeginVerify window).2 = none) :
    (s.tryBeginVerify window).1 = s := by
  unfold tryBeginVerify at h ⊢
  split at h
  · next hr => rw [if_pos hr]
  · next hr =>
    split at h
    · next ha => rw [if_neg hr, if_pos ha]
    · cases h

theorem onRun_eq (s : DaemonState) (runId : String) (f : String → Option Nat → Bool → Option OpenFanMaintenance) :
    (s.onRun runId f).1 = s ∨
      ∃ stage deadline suspended, s.openfanMaintenance = some (.running runId stage deadline suspended) ∧
        (s.onRun runId f).1 = { s with openfanMaintenance := f stage deadline suspended } := by
  unfold onRun
  split
  · next stage deadline suspended hm =>
    split
    · next hid =>
      subst hid
      exact .inr ⟨stage, deadline, suspended, hm, rfl⟩
    · exact .inl rfl
  · exact .inl rfl

/-- The clock and the pause slot are the same. -/
def SameSlot (s s' : DaemonState) : Prop :=
  s'.now = s.now ∧ s'.verifyInProgress = s.verifyInProgress ∧ s'.verifyActiveUntil = s.verifyActiveUntil ∧
    s'.verifyEpoch = s.verifyEpoch

theorem sameSlot_onRun (s : DaemonState) (runId : String)
    (f : String → Option Nat → Bool → Option OpenFanMaintenance) : SameSlot s (s.onRun runId f).1 := by
  rcases s.onRun_eq runId f with h | ⟨_, _, _, _, h⟩ <;> rw [h] <;> exact ⟨rfl, rfl, rfl, rfl⟩

/-- What a step can do to the clock and the slot. -/
theorem slot_step (s : DaemonState) (op : CacheOp) :
    (∃ d, op = .elapse d) ∨ (∃ w, op = .tryBeginVerify w) ∨ (∃ e, op = .endVerify e) ∨ (∃ e w, op = .renewVerify e w) ∨
      SameSlot s (s.step op) ∧ s.claimed op = none ∧ s.renewed op = none := by
  cases op with
  | elapse d => exact .inl ⟨d, rfl⟩
  | tryBeginVerify w => exact .inr (.inl ⟨w, rfl⟩)
  | endVerify e => exact .inr (.inr (.inl ⟨e, rfl⟩))
  | renewVerify e w => exact .inr (.inr (.inr (.inl ⟨e, w, rfl⟩)))
  | tryBeginOpenfanMaintenance runId firstStage =>
    iterate 4 right
    refine ⟨?_, rfl, rfl⟩
    simp only [step, tryBeginOpenfanMaintenance]
    repeat' split
    all_goals exact ⟨rfl, rfl, rfl, rfl⟩
  | tryBeginSilentOpenfanMaintenance runId firstStage =>
    iterate 4 right
    refine ⟨?_, rfl, rfl⟩
    simp only [step, tryBeginSilentOpenfanMaintenance]
    repeat' split
    all_goals exact ⟨rfl, rfl, rfl, rfl⟩
  | restoreOpenfanRecovery runId outcome =>
    iterate 4 right
    refine ⟨?_, rfl, rfl⟩
    simp only [step, restoreOpenfanRecovery]
    split <;> exact ⟨rfl, rfl, rfl, rfl⟩
  | setOpenfanLink link =>
    iterate 4 right
    exact ⟨⟨rfl, rfl, rfl, rfl⟩, rfl, rfl⟩
  | recordEngineSafety thermalState =>
    iterate 4 right
    exact ⟨⟨rfl, rfl, rfl, rfl⟩, rfl, rfl⟩
  | _ =>
    iterate 4 right
    exact ⟨sameSlot_onRun s _ _, rfl, rfl⟩

theorem running_eq_false_iff : s.openfanMaintenanceRunning = false ↔
    ∀ runId stage deadline suspended, s.openfanMaintenance ≠ some (.running runId stage deadline suspended) := by
  unfold openfanMaintenanceRunning
  split
  · next runId stage deadline suspended h =>
    simp only [Bool.true_eq_false, false_iff, not_forall, not_not]
    exact ⟨runId, stage, deadline, suspended, h⟩
  · next h =>
    simp only [true_iff]
    intro runId stage deadline suspended hm
    exact h runId stage deadline suspended hm

/-- What a step can do to the firmware claim: nothing, what its own run asks for, or, where no update runs, start
one with no diagnostic in the slot. -/
theorem maintenance_step (s : DaemonState) (op : CacheOp) :
    (s.step op).openfanMaintenance = s.openfanMaintenance ∨
      (∃ runId stage deadline suspended, s.openfanMaintenance = some (.running runId stage deadline suspended) ∧
        op.runId = some runId) ∨
      s.openfanMaintenanceRunning = false ∧
        ((s.step op).openfanMaintenanceRunning = true → s.verifyInProgress = false) := by
  have honRun : ∀ runId f, op.runId = some runId → s.step op = (s.onRun runId f).1 →
      (s.step op).openfanMaintenance = s.openfanMaintenance ∨
        ∃ runId stage deadline suspended, s.openfanMaintenance = some (.running runId stage deadline suspended) ∧
          op.runId = some runId := by
    intro runId f hid hstep
    rcases s.onRun_eq runId f with h | ⟨stage, deadline, suspended, hm, _⟩
    · exact .inl (by rw [hstep, h])
    · exact .inr ⟨runId, stage, deadline, suspended, hm, hid⟩
  cases op with
  | elapse d => exact .inl rfl
  | recordEngineSafety thermalState => exact .inl rfl
  | tryBeginVerify w =>
    left
    cases hc : (s.tryBeginVerify w).2 with
    | none => rw [step, tryBeginVerify_eq_none hc]
    | some epoch => rw [step, (tryBeginVerify_eq_some hc).2.2.2]
  | endVerify e =>
    left
    simp only [step, endVerify]
    split <;> rfl
  | renewVerify e w =>
    left
    simp only [step, renewVerify]
    split <;> rfl
  | setOpenfanLink link =>
    simp only [step, setOpenfanLink]
    split
    · next hm =>
      right; right
      refine ⟨running_eq_false_iff.mpr fun _ _ _ _ h => ?_, nofun⟩
      rw [h] at hm
      cases hm
    · exact .inl rfl
  | tryBeginOpenfanMaintenance runId firstStage =>
    simp only [step, tryBeginOpenfanMaintenance]
    split
    · exact .inl rfl
    · next hr =>
      split
      · exact .inl rfl
      · split
        · exact .inl rfl
        · split
          · exact .inl rfl
          · next hv =>
            split
            · exact .inl rfl
            · exact .inr (.inr ⟨by simpa using hr, fun _ => by simpa using hv⟩)
  | tryBeginSilentOpenfanMaintenance runId firstStage =>
    simp only [step, tryBeginSilentOpenfanMaintenance]
    split
    · exact .inl rfl
    · next hr =>
      split
      · exact .inl rfl
      · split
        · exact .inl rfl
        · next hv =>
          split
          · exact .inl rfl
          · exact .inr (.inr ⟨by simpa using hr, fun _ => by simpa using hv⟩)
  | restoreOpenfanRecovery runId outcome =>
    simp only [step, restoreOpenfanRecovery]
    split
    · next hm =>
      refine .inr (.inr ⟨running_eq_false_iff.mpr fun _ _ _ _ h => ?_, nofun⟩)
      simp [h] at hm
    · exact .inl rfl
  | suspendOpenfanWrites runId => exact (honRun runId _ rfl rfl).imp_right .inl
  | setOpenfanMaintenanceStage runId next deadline => exact (honRun runId _ rfl rfl).imp_right .inl
  | resumeOpenfanWrites runId => exact (honRun runId _ rfl rfl).imp_right .inl
  | endOpenfanMaintenance runId needsRecovery => exact (honRun runId _ rfl rfl).imp_right .inl
  | endOpenfanMaintenanceRestoring runId prior => exact (honRun runId _ rfl rfl).imp_right .inl

/-! ## (a) Never both -/

/-- An update runs only while the slot is free of any claim. -/
def Exclusive (s : DaemonState) : Prop := ¬(s.openfanMaintenanceRunning = true ∧ s.verifyInProgress = true)

theorem running_congr {s' : DaemonState} (h : s'.openfanMaintenance = s.openfanMaintenance) :
    s'.openfanMaintenanceRunning = s.openfanMaintenanceRunning := by
  unfold openfanMaintenanceRunning
  rw [h]

/-- A claim newly in the slot was made while no update ran. -/
theorem verifyInProgress_step {op : CacheOp} (h : (s.step op).verifyInProgress = true) :
    s.verifyInProgress = true ∨ (s.step op).openfanMaintenanceRunning = false := by
  rcases s.slot_step op with ⟨d, rfl⟩ | ⟨w, rfl⟩ | ⟨e, rfl⟩ | ⟨e, w, rfl⟩ | ⟨hsame, hclaim, hrenew⟩
  · exact .inl h
  · cases hc : (s.tryBeginVerify w).2 with
    | none =>
      rw [step, tryBeginVerify_eq_none hc] at h
      exact .inl h
    | some epoch =>
      obtain ⟨hrun, -, -, heq⟩ := tryBeginVerify_eq_some hc
      rw [step, heq]
      exact .inr hrun
  · left
    simp only [step, endVerify] at h
    split at h
    · exact h
    · cases h
  · left
    simp only [step, renewVerify] at h
    split at h <;> exact h
  · exact .inl (hsame.2.1.symm.trans h)

theorem Exclusive.step (h : s.Exclusive) (op : CacheOp) : (s.step op).Exclusive := by
  rintro ⟨hrun, hver⟩
  rcases verifyInProgress_step hver with hver' | hnot
  · have hold : s.openfanMaintenanceRunning = false := by
      by_contra hr
      exact h ⟨by simpa using hr, hver'⟩
    rcases s.maintenance_step op with hm | ⟨runId, stage, deadline, suspended, hm, -⟩ | ⟨-, hfree⟩
    · rw [running_congr hm, hold] at hrun
      cases hrun
    · exact running_eq_false_iff.mp hold _ _ _ _ hm
    · rw [hfree hrun] at hver'
      cases hver'
  · rw [hnot] at hrun
    cases hrun

/-! ## (b) The owner of the slot -/

/-- How often the slot is claimed along a run. -/
def claims (s : DaemonState) (ops : List CacheOp) : Nat := ((Machine.trace step claimed s ops).filterMap id).length

theorem claims_cons (s : DaemonState) (op : CacheOp) (ops : List CacheOp) :
    s.claims (op :: ops) = (if (s.claimed op).isSome then 1 else 0) + (s.step op).claims ops := by
  unfold claims
  rw [Machine.trace_cons]
  cases h : s.claimed op with
  | none => simp
  | some epoch => simp [Nat.add_comm]

theorem epoch_step (s : DaemonState) (op : CacheOp) :
    (s.step op).verifyEpoch = if (s.claimed op).isSome then nextEpoch s.verifyEpoch else s.verifyEpoch := by
  rcases s.slot_step op with ⟨d, rfl⟩ | ⟨w, rfl⟩ | ⟨e, rfl⟩ | ⟨e, w, rfl⟩ | ⟨hsame, hclaim, hrenew⟩
  · rfl
  · by_cases hc : (s.tryBeginVerify w).2 = none
    · rw [step, tryBeginVerify_eq_none hc, claimed, hc]
      rfl
    · obtain ⟨epoch, hc⟩ := Option.ne_none_iff_exists'.mp hc
      obtain ⟨-, -, hep, heq⟩ := tryBeginVerify_eq_some hc
      rw [step, heq, claimed, hc, hep]
      rfl
  · simp only [step, endVerify, claimed]
    split <;> rfl
  · simp only [step, renewVerify, claimed]
    split <;> rfl
  · rw [hsame.2.2.2, hclaim]
    rfl

/-- Each claim takes the next epoch. -/
theorem epoch_run (s : DaemonState) (ops : List CacheOp) (hs : s.verifyEpoch < 2 ^ 64) :
    (Machine.run step s ops).verifyEpoch = (s.verifyEpoch + s.claims ops) % 2 ^ 64 := by
  induction ops generalizing s with
  | nil => exact (Nat.mod_eq_of_lt hs).symm
  | cons op ops ih =>
    have hstep := s.epoch_step op
    have hlt : (s.step op).verifyEpoch < 2 ^ 64 := by
      rw [hstep]
      split
      · exact Nat.mod_lt _ (by decide)
      · exact hs
    rw [Machine.run_cons, ih _ hlt, claims_cons, hstep]
    split
    · rw [nextEpoch, Nat.mod_add_mod, Nat.add_assoc]
    · rw [Nat.zero_add]

/-- The deadman `d` of the claim `epoch` after one operation. -/
def deadmanStep (epoch : Nat) (s : DaemonState) (d : Nat) (op : CacheOp) : Nat :=
  match s.renewed op with
  | some (e, deadman) => if e = epoch then deadman else d
  | none => d

/-- The deadman of the claim `epoch` after a run: `d`, or what its last granted renewal made it. -/
def deadmanAfter (epoch : Nat) : DaemonState → Nat → List CacheOp → Nat
  | _, d, [] => d
  | s, d, op :: ops => deadmanAfter epoch (s.step op) (deadmanStep epoch s d op) ops

/-- How a claim stands after `n` later ones: still in the slot, or its deadman elapsed. -/
structure Stands (s : DaemonState) (epoch d n : Nat) : Prop where
  current : s.verifyEpoch = (epoch + n) % 2 ^ 64
  held : n = 0 → s.verifyInProgress = true ∧ s.verifyActiveUntil = some d
  lapsed : 0 < n → d ≤ s.now

theorem Stands.ne {epoch d n : Nat} (h : s.Stands epoch d n) (he : epoch < 2 ^ 64) (hn : 0 < n) (hlt : n < 2 ^ 64) :
    s.verifyEpoch ≠ epoch := by
  have hmod := Nat.mod_eq_of_lt he
  rw [h.current]
  omega

theorem Stands.eq {epoch d : Nat} (h : s.Stands epoch d 0) (he : epoch < 2 ^ 64) : s.verifyEpoch = epoch :=
  h.current.trans (Nat.mod_eq_of_lt he)

theorem Stands.step {epoch : Nat} (he : epoch < 2 ^ 64) {op : CacheOp} (hend : op ≠ .endVerify epoch) {d n : Nat}
    (h : s.Stands epoch d n) (hn : n < 2 ^ 64) :
    (s.step op).Stands epoch (deadmanStep epoch s d op) (n + if (s.claimed op).isSome then 1 else 0) := by
  rcases s.slot_step op with ⟨dt, rfl⟩ | ⟨w, rfl⟩ | ⟨e, rfl⟩ | ⟨e, w, rfl⟩ | ⟨hsame, hclaim, hrenew⟩
  · refine ⟨h.current, h.held, fun hpos => ?_⟩
    exact Nat.le_trans (h.lapsed hpos) (Nat.le_add_right _ _)
  · by_cases hc : (s.tryBeginVerify w).2 = none
    · have hs : s.step (.tryBeginVerify w) = s := tryBeginVerify_eq_none hc
      rw [hs, claimed, hc]
      exact h
    · obtain ⟨epoch', hc⟩ := Option.ne_none_iff_exists'.mp hc
      obtain ⟨-, hact, hep, heq⟩ := tryBeginVerify_eq_some hc
      rw [DaemonState.step, heq, claimed, hc, hep]
      refine ⟨?_, nofun, fun _ => ?_⟩
      · show nextEpoch s.verifyEpoch = _
        rw [nextEpoch, h.current]
        simp only [Option.isSome_some, if_true]
        omega
      · show d ≤ s.now
        rcases Nat.eq_zero_or_pos n with rfl | hpos
        · -- the slot was taken over, so its deadman had elapsed
          obtain ⟨hin, huntil⟩ := h.held rfl
          simpa [verifyActive, hin, huntil] using hact
        · exact h.lapsed hpos
  · simp only [DaemonState.step, endVerify, claimed]
    split
    · exact h
    · next heq =>
      rcases Nat.eq_zero_or_pos n with rfl | hpos
      · exact absurd ((not_not.mp heq).symm.trans (h.eq he)) fun hee => hend (by rw [hee])
      · exact ⟨h.current, fun h0 => absurd h0 (Nat.ne_of_gt hpos), fun _ => h.lapsed hpos⟩
  · by_cases heq : s.verifyEpoch = e
    · have hs : s.step (.renewVerify e w) = { s with verifyActiveUntil := some (s.now + w) } := by
        simp [DaemonState.step, renewVerify, heq]
      have hd : deadmanStep epoch s d (.renewVerify e w) = if e = epoch then s.now + w else d := by
        simp [deadmanStep, renewed, renewVerify, heq]
      have hc : s.claimed (.renewVerify e w) = none := rfl
      rw [hs, hd, hc]
      rcases Nat.eq_zero_or_pos n with rfl | hpos
      · rw [if_pos (heq.symm.trans (h.eq he))]
        exact ⟨h.current, fun _ => ⟨(h.held rfl).1, rfl⟩, nofun⟩
      · rw [if_neg fun hee => h.ne he hpos hn (heq.trans hee)]
        exact ⟨h.current, fun h0 => absurd h0 (Nat.ne_of_gt hpos), fun _ => h.lapsed hpos⟩
    · have hs : s.step (.renewVerify e w) = s := by simp [DaemonState.step, renewVerify, heq]
      have hd : deadmanStep epoch s d (.renewVerify e w) = d := by simp [deadmanStep, renewed, renewVerify, heq]
      rw [hs, hd]
      exact h
  · rw [hclaim]
    simp only [deadmanStep, hrenew]
    refine ⟨?_, ?_, ?_⟩
    · rw [hsame.2.2.2]
      exact h.current
    · rw [hsame.2.1, hsame.2.2.1]
      exact h.held
    · rw [hsame.1]
      exact h.lapsed

theorem Stands.run {epoch : Nat} (he : epoch < 2 ^ 64) {ops : List CacheOp} (hend : .endVerify epoch ∉ ops) {d n : Nat}
    (h : s.Stands epoch d n) (hn : n + s.claims ops < 2 ^ 64) :
    (Machine.run DaemonState.step s ops).Stands epoch (deadmanAfter epoch s d ops) (n + s.claims ops) := by
  induction ops generalizing s d n with
  | nil => exact h
  | cons op ops ih =>
    rw [claims_cons, ← Nat.add_assoc] at hn ⊢
    rw [List.mem_cons, not_or] at hend
    exact ih hend.2 (h.step he (Ne.symm hend.1) (by omega)) hn

/-! ## The slot and the claim over a run -/

/-- Nothing else starts while the claim stands: no second claim, no update of either kind. -/
structure Holds (s : DaemonState) : Prop where
  active : s.verifyActive = true
  verify : ∀ window, s.tryBeginVerify window = (s, none)
  update : ∀ runId stage, ∃ e, s.tryBeginOpenfanMaintenance runId stage = (s, .error e)
  silent : ∀ runId stage, ∃ e, s.tryBeginSilentOpenfanMaintenance runId stage = (s, .error e)

theorem Stands.holds {epoch d : Nat} (h : s.Stands epoch d 0) (hd : s.now < d) : s.Holds := by
  obtain ⟨hin, huntil⟩ := h.held rfl
  have hact : s.verifyActive = true := by simp [verifyActive, hin, huntil, hd]
  refine ⟨hact, fun window => ?_, fun runId stage => ?_, fun runId stage => ?_⟩
  · simp [tryBeginVerify, hact]
  · unfold tryBeginOpenfanMaintenance
    repeat' split
    all_goals exact ⟨_, rfl⟩
  · unfold tryBeginSilentOpenfanMaintenance
    repeat' split
    all_goals exact ⟨_, rfl⟩

/-- **The pause slot and the firmware claim.** After every run no update runs beside a claimed slot; an update is
changed by calls of its own run only; and a claim, as long as fewer than `2 ^ 64` others follow it, is void for
good once another follows it, and keeps everything else out until it is released or its deadman elapses. -/
theorem write_pause (ops : List CacheOp) :
    let s := Machine.run step default ops
    ¬(s.openfanMaintenanceRunning = true ∧ s.verifyInProgress = true) ∧
    (∀ runId stage deadline suspended, s.openfanMaintenance = some (.running runId stage deadline suspended) →
      ∀ op : CacheOp, op.runId ≠ some runId → (s.step op).openfanMaintenance = s.openfanMaintenance) ∧
    ∀ window epoch, (s.tryBeginVerify window).2 = some epoch →
      ∀ ops' : List CacheOp, (s.step (.tryBeginVerify window)).claims ops' < 2 ^ 64 →
        let s' := Machine.run step (s.step (.tryBeginVerify window)) ops'
        (0 < (s.step (.tryBeginVerify window)).claims ops' →
          (∀ window', (s'.renewVerify epoch window').1 = s') ∧ (s'.endVerify epoch).1 = s') ∧
        (.endVerify epoch ∉ ops' →
          s'.now < deadmanAfter epoch (s.step (.tryBeginVerify window)) (s.now + window) ops' → s'.Holds) := by
  intro s
  refine ⟨?_, ?_, ?_⟩
  · have hstart : default.Exclusive := fun h => Bool.false_ne_true h.2
    exact Machine.run_inv (I := Exclusive) (fun _ op h => Exclusive.step h op) default ops hstart
  · intro runId stage deadline suspended hm op hop
    rcases s.maintenance_step op with h | ⟨runId', _, _, _, hm', hid⟩ | ⟨hrun, -⟩
    · exact h
    · rw [hm] at hm'
      cases hm'
      exact absurd hid hop
    · exact absurd hm (running_eq_false_iff.mp hrun _ _ _ _)
  · intro window epoch hclaim ops' hlt s'
    obtain ⟨-, -, hep, heq⟩ := tryBeginVerify_eq_some hclaim
    have he : epoch < 2 ^ 64 := hep ▸ Nat.mod_lt _ (by decide)
    have hstands : (s.step (.tryBeginVerify window)).Stands epoch (s.now + window) 0 := by
      rw [step, heq]
      exact ⟨(Nat.mod_eq_of_lt he).symm, fun _ => ⟨rfl, rfl⟩, nofun⟩
    have hepoch : s'.verifyEpoch = (epoch + (s.step (.tryBeginVerify window)).claims ops') % 2 ^ 64 := by
      have hcur := hstands.eq he
      rw [epoch_run _ _ (by omega), hcur]
    constructor
    · intro hpos
      have hne : s'.verifyEpoch ≠ epoch := by omega
      exact ⟨fun window' => by simp [renewVerify, hne], by simp [endVerify, hne]⟩
    · intro hend hd
      have hrun := hstands.run he hend (by rwa [Nat.zero_add])
      rw [Nat.zero_add] at hrun
      rcases Nat.eq_zero_or_pos ((s.step (.tryBeginVerify window)).claims ops') with h0 | hpos
      · rw [h0] at hrun
        exact hrun.holds hd
      · exact absurd hd (Nat.not_lt.mpr (hrun.lapsed hpos))

/-! ### The epoch wraps

`2 ^ 64` claims later the epoch is the first claim's again, and its owner's late release ends another's pause. -/

/-- One slot stolen after the other, each after its deadman. -/
def steals (window n : Nat) : List CacheOp := (List.replicate n [.elapse window, .tryBeginVerify window]).flatten

theorem steals_succ (window n : Nat) :
    steals window (n + 1) = .elapse window :: .tryBeginVerify window :: steals window n := rfl

theorem run_steals {window : Nat} (n : Nat) (hm : s.openfanMaintenance = none)
    (hu : s.verifyActiveUntil = some (s.now + window)) (hs : s.verifyEpoch < 2 ^ 64) (hin : s.verifyInProgress = true) :
    s.claims (steals window n) = n ∧
      (Machine.run step s (steals window n)).verifyEpoch = (s.verifyEpoch + n) % 2 ^ 64 ∧
      (Machine.run step s (steals window n)).verifyInProgress = true := by
  induction n generalizing s with
  | zero => exact ⟨rfl, (Nat.mod_eq_of_lt hs).symm, hin⟩
  | succ n ih =>
    have hrun : (s.step (.elapse window)).openfanMaintenanceRunning = false := by
      simp [step, openfanMaintenanceRunning, hm]
    have hlapsed : (s.step (.elapse window)).verifyActive = false := by simp [step, verifyActive, hu]
    have hclaim : ((s.step (.elapse window)).tryBeginVerify window).2 = some (nextEpoch s.verifyEpoch) := by
      rw [tryBeginVerify, hrun, hlapsed]
      rfl
    have hstep : (s.step (.elapse window)).step (.tryBeginVerify window) = _ := (tryBeginVerify_eq_some hclaim).2.2.2
    obtain ⟨hn, hepoch, hin'⟩ := ih (s := (s.step (.elapse window)).step (.tryBeginVerify window))
      (by rw [hstep]; exact hm) (by rw [hstep]) (by rw [hstep]; exact Nat.mod_lt _ (by decide)) (by rw [hstep])
    rw [steals_succ, claims_cons, claims_cons, Machine.run_cons, Machine.run_cons, hn, hepoch]
    refine ⟨?_, ?_, hin'⟩
    · have hsome : (s.step (.elapse window)).claimed (.tryBeginVerify window) = some (nextEpoch s.verifyEpoch) := hclaim
      have hnone : s.claimed (.elapse window) = none := rfl
      rw [hsome, hnone, Option.isSome_some, Option.isSome_none, if_pos rfl, if_neg Bool.false_ne_true]
      omega
    · rw [hstep]
      show (nextEpoch s.verifyEpoch + n) % 2 ^ 64 = _
      rw [nextEpoch, Nat.mod_add_mod, Nat.add_assoc, Nat.add_comm 1]

/-- A claim of 30 s from the start is the first, and voided by any number of later ones but a multiple of `2 ^ 64`. -/
theorem endVerify_steals {window n : Nat} (hn : n % 2 ^ 64 = 0) :
    ((Machine.run step (default.step (.tryBeginVerify window)) (steals window n)).endVerify 1).1 ≠
      Machine.run step (default.step (.tryBeginVerify window)) (steals window n) := by
  have hlt : (default.step (.tryBeginVerify window)).verifyEpoch < 2 ^ 64 := Nat.mod_lt _ (by decide)
  obtain ⟨-, hepoch, hin⟩ := run_steals n (rfl : (default.step (.tryBeginVerify window)).openfanMaintenance = none) rfl hlt rfl
  intro h
  have hone : (Machine.run step (default.step (.tryBeginVerify window)) (steals window n)).verifyEpoch = 1 := by
    rw [hepoch]
    show (1 + n) % 2 ^ 64 = 1
    omega
  have hend : ((Machine.run step (default.step (.tryBeginVerify window)) (steals window n)).endVerify 1).1.verifyInProgress =
      false := by
    rw [endVerify, hone]
    rfl
  rw [h, hin] at hend
  cases hend

theorem endVerify_wraps :
    (default.tryBeginVerify 30000000000).2 = some 1 ∧
      (default.step (.tryBeginVerify 30000000000)).claims (steals 30000000000 (2 ^ 64)) = 2 ^ 64 ∧
      ((Machine.run step (default.step (.tryBeginVerify 30000000000)) (steals 30000000000 (2 ^ 64))).endVerify 1).1 ≠
        Machine.run step (default.step (.tryBeginVerify 30000000000)) (steals 30000000000 (2 ^ 64)) := by
  refine ⟨rfl, ?_, endVerify_steals (Nat.mod_self _)⟩
  exact (run_steals (2 ^ 64) rfl rfl (by decide) rfl).1

end ControlOfc.Health.DaemonState
