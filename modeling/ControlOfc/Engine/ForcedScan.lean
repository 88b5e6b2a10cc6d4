import ControlOfc.Engine.Force
import ControlOfc.OpenFan.Emergency
import ControlOfc.Lib.Machine
/-! # The forced scan of the OpenFan channels (profile_engine/backends.rs:1521-1627)

`force_all_with_floor` works out its targets and its floors, and hands them to a task that takes the controller's
lock once per channel. Between two locks anyone may call the controller, and the port may wait for a reply.
`left` is what the task has still to come to, so a step either calls the head of it or leaves it as it was.

Main theorem `scan_calls`.
-/
namespace ControlOfc.Engine
open OpenFan Machine

/-! ## The last command of an output -/

/-- What the last command that names the output asks. -/
def lastCommand (commands : List PwmCommand) (out : Output) : Option Nat :=
  ((commands.filter fun c => outputOf c.source c.memberId = some out).getLast?).map (·.pwmPercent)

theorem commandFloors_eq (commands : List PwmCommand) (out : Output) :
    (commandFloors commands).get? out = lastCommand commands out := by
  induction commands using List.reverseRecOn with
  | nil => rfl
  | append_singleton commands c ih =>
    rw [commandFloors_snoc, ih, lastCommand, lastCommand, List.filter_append]
    by_cases h : outputOf c.source c.memberId = some out
    · simp [h]
    · simp [h]

/-! ## What the OpenFan task is given -/

/-- The force that `force_all_with_floor` hands to its task (backends.rs:1527-1590). -/
def openfanForce (pct : Nat) (commands : List PwmCommand) (reach : ForceReach) : Force where
  pct
  floors := fun i => (commandFloors commands).get? (.openfan i)
  reach := match reach with
    | .all => .all
    | .profileMembers members giveBack held =>
      .profileMembers (fun i => members.contains (.openfan i)) giveBack (fun i => held.members.contains (.openfan i))

/-- It goes over the channels of its reach, in their order. -/
theorem openfanForce_targets (pct : Nat) (commands : List PwmCommand) (reach : ForceReach) :
    (openfanForce pct commands reach).targets =
      (List.finRange numChannels).filter fun i : Ch => reach.reaches (.openfan (i : Nat)) := by
  cases reach with
  | all => exact (List.filter_eq_self.mpr fun _ _ => rfl).symm
  | profileMembers members giveBack held => rfl

theorem openfanForce_held (pct : Nat) (commands : List PwmCommand) (reach : ForceReach) (i : Ch) :
    (openfanForce pct commands reach).held i = reach.holds (.openfan i) := by
  cases reach <;> rfl

/-- The duty of one forced output: the force, over its last command and, where it is held, the duty it held. -/
def forcedDuty (pct : Nat) (commands : List PwmCommand) (out : Output) (held : Bool) (known : Option Nat) : Nat :=
  max (max pct ((lastCommand commands out).getD 0)) ((if held then known else none).getD 0)

theorem openfanForce_duty (pct : Nat) (commands : List PwmCommand) (reach : ForceReach) (q : Port) (i : Ch) :
    (openfanForce pct commands reach).duty q i =
      forcedDuty pct commands (.openfan i) (reach.holds (.openfan i)) (q.lastKnownDuty i) := by
  unfold Force.duty forcedDuty
  rw [openfanForce_held]
  show max (max pct (((commandFloors commands).get? (.openfan i)).getD 0)) _ = _
  rw [commandFloors_eq]

theorem le_forcedDuty (pct : Nat) (commands : List PwmCommand) (out : Output) (held : Bool) (known : Option Nat) :
    pct ≤ forcedDuty pct commands out held known :=
  (le_max_left _ _).trans (le_max_left _ _)

/-- A held percentage makes no difference at full speed. -/
theorem forcedDuty_full {pct : Nat} (hpct : 100 ≤ pct) (commands : List PwmCommand) (out : Output) (held held' : Bool)
    {known : Option Nat} (hknown : ∀ d, known = some d → d ≤ 100) :
    forcedDuty pct commands out held known = forcedDuty pct commands out held' known := by
  have hle (b : Bool) : (if b then known else none).getD 0 ≤ max pct ((lastCommand commands out).getD 0) := by
    cases b with
    | false => exact Nat.zero_le _
    | true =>
      cases known with
      | none => exact Nat.zero_le _
      | some d => exact (hknown d rfl).trans (hpct.trans (le_max_left _ _))
  rw [forcedDuty, forcedDuty, max_eq_left (hle held), max_eq_left (hle held')]

end ControlOfc.Engine

namespace ControlOfc.OpenFan
open Machine

/-! ## The scan -/

/-- A `set_pwm` of a forced scan, and the port it finds. -/
structure ForcedCall where
  port : Port
  channel : Ch
  duty : Nat

/-- The scan of `f` is under way. -/
inductive Scanning (f : Force) : Stage → Prop where
  | checking : Scanning f (.checking f)
  | reading : Scanning f (.reading f)
  | forcing (rest : List Ch) : Scanning f (.forcing f rest)

/-- The channels that a scan has still to come to. -/
def Stage.left : Stage → List Ch
  | .checking f => f.targets
  | .reading f => f.targets
  | .forcing _ rest => rest
  | _ => []

namespace EmergencyBackend

/-- The calls of a scan that an event is. -/
def forcedCalls (s : EmergencyBackend) : EmergencyEvent → List ForcedCall
  | .turn =>
    match s.task with
    | .forcing f (i :: _) => if s.port.inFlight.isSome || s.suspended then [] else [⟨s.port, i, f.duty s.port i⟩]
    | _ => []
  | _ => []

theorem forcedCalls_port {s : EmergencyBackend} {e : EmergencyEvent} {c : ForcedCall} (hc : c ∈ s.forcedCalls e) :
    c.port = s.port ∧ (s.step e).port = s.port.call c.channel c.duty := by
  cases e with
  | turn =>
    unfold forcedCalls at hc
    dsimp only at hc
    split at hc
    · next f i rest ht =>
      split at hc
      · cases hc
      · next hfree =>
        rw [List.mem_singleton] at hc
        subst hc
        rw [Bool.or_eq_true, not_or] at hfree
        refine ⟨rfl, ?_⟩
        simp only [step, turn, ht, turnForcing, if_neg hfree.1, if_neg hfree.2]
    · cases hc
  | _ => cases hc

/-- A call of a scan is a `set_pwm` on the controller, as the run had left it. -/
theorem forcedCall_run {s : EmergencyBackend} {es : List EmergencyEvent} {c : ForcedCall}
    (hc : c ∈ (trace step forcedCalls s es).flatten) :
    ∃ pre e post, es = pre ++ e :: post ∧ c.port = (run step s pre).port ∧
      (run step s (pre ++ [e])).port = c.port.call c.channel c.duty := by
  obtain ⟨calls, hcalls, hmem⟩ := List.mem_flatten.mp hc
  obtain ⟨pre, e, post, hes, rfl⟩ := mem_trace_run hcalls
  obtain ⟨hport, hcall⟩ := forcedCalls_port hmem
  refine ⟨pre, e, post, hes, hport, ?_⟩
  rw [run_append, run_cons, run_nil, hport]
  exact hcall

variable {s : EmergencyBackend} {f : Force}

theorem scanning_start (f : Force) : Scanning f (Stage.start (.force f)) ∧ (Stage.start (.force f)).left = f.targets := by
  unfold Stage.start
  dsimp only
  split
  · exact ⟨.checking, rfl⟩
  · exact ⟨.forcing _, rfl⟩

theorem left_afterWrites (giveBack : Option Channels) : (Stage.afterWrites giveBack).left = [] := by
  cases giveBack <;> rfl

theorem enqueue_task (s : EmergencyBackend) (c : Closure) : (s.enqueue c).task = s.task := by
  unfold enqueue
  split <;> rfl

/-- Only a turn moves a scan on. -/
theorem step_task (hs : Scanning f s.task) {e : EmergencyEvent} (he : e ≠ .turn) : (s.step e).task = s.task := by
  cases e with
  | port e =>
    cases e with
    | reply sent =>
      show (s.reply sent).task = s.task
      unfold reply
      dsimp only
      split <;> rfl
    | _ => rfl
  | suspend on => rfl
  | exitFloor pct => rfl
  | tick w members =>
    show (s.tick w members).task = s.task
    unfold tick
    dsimp only
    rw [apply_ite EmergencyBackend.task, enqueue_task, ite_self]
  | force g =>
    show (s.force g).task = s.task
    unfold force
    rw [enqueue_task]
    split <;> rfl
  | issue =>
    show s.issue.task = s.task
    cases hs' : s.task with
    | idle =>
      rw [hs'] at hs
      cases hs
    | _ => simp [issue, hs']
  | drop => rfl
  | turn => exact absurd rfl he

/-- One step of a scan: what it calls is the head of what is left. -/
theorem scan_step (hs : Scanning f s.task) (hfree : s.suspended = false) (e : EmergencyEvent) :
    (s.forcedCalls e).map (·.channel) ++ (s.step e).task.left = s.task.left ∧
      (∀ c ∈ s.forcedCalls e, c.duty = f.duty c.port c.channel) ∧
      (Scanning f (s.step e).task ∨ (s.step e).task.left = []) := by
  by_cases he : e = .turn
  · subst he
    cases ht : s.task with
    | checking g =>
      rw [ht] at hs
      cases hs
      have hnone : s.forcedCalls .turn = [] := by simp [forcedCalls, ht]
      rw [hnone]
      simp only [step, turn, ht, turnChecking]
      split_ifs
      · exact ⟨rfl, nofun, .inl (.forcing _)⟩
      · exact ⟨rfl, nofun, .inl (.forcing _)⟩
      · exact ⟨rfl, nofun, .inl .reading⟩
    | reading g =>
      rw [ht] at hs
      cases hs
      have hnone : s.forcedCalls .turn = [] := by simp [forcedCalls, ht]
      rw [hnone]
      simp only [step, turn, ht, turnReading]
      split_ifs
      · rw [ht]
        exact ⟨rfl, nofun, .inl .reading⟩
      · split
        · exact ⟨rfl, nofun, .inl (.forcing _)⟩
        · exact ⟨rfl, nofun, .inl (.forcing _)⟩
    | forcing g rest =>
      rw [ht] at hs
      cases hs
      cases rest with
      | nil =>
        have hnone : s.forcedCalls .turn = [] := by simp [forcedCalls, ht]
        rw [hnone]
        simp only [step, turn, ht, turnForcing]
        exact ⟨left_afterWrites f.giveBack, nofun, .inr (left_afterWrites f.giveBack)⟩
      | cons i rest =>
        by_cases hbusy : s.port.inFlight.isSome = true
        · have hnone : s.forcedCalls .turn = [] := by simp [forcedCalls, ht, hbusy]
          rw [hnone]
          simp only [step, turn, ht, turnForcing, if_pos hbusy]
          exact ⟨rfl, nofun, .inl (.forcing _)⟩
        · have hone : s.forcedCalls .turn = [⟨s.port, i, f.duty s.port i⟩] := by simp [forcedCalls, ht, hbusy, hfree]
          rw [hone]
          simp only [step, turn, ht, turnForcing, if_neg hbusy, hfree]
          refine ⟨rfl, fun c hc => ?_, .inl (.forcing _)⟩
          rw [List.mem_singleton.mp hc]
    | _ =>
      rw [ht] at hs
      cases hs
  · have hnone : s.forcedCalls e = [] := by
      cases e with
      | turn => exact absurd rfl he
      | _ => rfl
    rw [hnone, step_task hs he]
    exact ⟨rfl, nofun, .inl hs⟩

/-- Over a run that the writes are not suspended in: what has been called, and what is left, are the targets; and
nothing is left of a scan that has ended. -/
theorem scan_calls {es : List EmergencyEvent} (hstart : s.task = .start (.force f))
    (h : Along step (fun s _ => Scanning f s.task ∧ s.suspended = false) s es) :
    let calls := (trace step forcedCalls s es).flatten
    calls.map (·.channel) ++ (run step s es).task.left = f.targets ∧
      (∀ c ∈ calls, c.duty = f.duty c.port c.channel) ∧
      (Scanning f (run step s es).task ∨ (run step s es).task.left = []) := by
  have hrun : ∀ (es : List EmergencyEvent) (s : EmergencyBackend), Scanning f s.task ∨ s.task.left = [] →
      Along step (fun s _ => Scanning f s.task ∧ s.suspended = false) s es →
        ((trace step forcedCalls s es).flatten.map (·.channel) ++ (run step s es).task.left = s.task.left ∧
          (∀ c ∈ (trace step forcedCalls s es).flatten, c.duty = f.duty c.port c.channel) ∧
          (Scanning f (run step s es).task ∨ (run step s es).task.left = [])) := by
    intro es
    induction es with
    | nil => exact fun s hs _ => ⟨rfl, nofun, hs⟩
    | cons e es ih =>
      intro s _ h
      obtain ⟨hhead, hduty, hnext⟩ := scan_step h.1.1 h.1.2 e
      obtain ⟨htail, hduties, hend⟩ := ih _ hnext h.2
      rw [trace_cons, List.flatten_cons, run_cons, List.map_append, List.append_assoc, htail]
      refine ⟨hhead, fun c hc => ?_, hend⟩
      rcases List.mem_append.mp hc with hc | hc
      · exact hduty c hc
      · exact hduties c hc
  have hscan : Scanning f s.task := hstart ▸ (scanning_start f).1
  obtain ⟨hcalls, hduties, hend⟩ := hrun es s (.inl hscan) h
  rw [hstart, (scanning_start f).2] at hcalls
  exact ⟨hcalls, hduties, hend⟩

end EmergencyBackend

end ControlOfc.OpenFan
