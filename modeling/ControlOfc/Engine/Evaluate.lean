import ControlOfc.Engine.CurveEval
import ControlOfc.Engine.Order
import ControlOfc.Engine.Tuning
import ControlOfc.Override.Table
import ControlOfc.Lib.Machine
/-! # One evaluation (profile_engine/mod.rs:496-780)

`evaluate_profile_with_overrides` is a loop over the cached order whose body is itself a loop over the
control's members. Both are runs of a step: `visitControl` of the engine state, `memberStep` of the
step-rate trackers. Each iteration leaves a `Visit`, from which the commands and the skip list are read
off.
-/
namespace ControlOfc.Engine
open Profile Override

/-- `ensure_static_cache` (mod.rs:496). -/
def ProfileEngineState.ensureStaticCache (s : ProfileEngineState) (p : DaemonProfile ℚ) : ProfileEngineState :=
  match s.staticCache with
  | some cache =>
    if cache.order.length = p.controls.length then s
    else { s with staticCache := some ⟨topologicalControlOrder p, curveIndex p⟩ }
  | none => { s with staticCache := some ⟨topologicalControlOrder p, curveIndex p⟩ }

/-- It touches nothing but the cache. -/
theorem ProfileEngineState.ensureStaticCache_eq (s : ProfileEngineState) (p : DaemonProfile ℚ) :
    ∃ cache, s.ensureStaticCache p = { s with staticCache := cache } := by
  unfold ensureStaticCache
  split
  · split
    · exact ⟨s.staticCache, rfl⟩
    · exact ⟨_, rfl⟩
  · exact ⟨_, rfl⟩

/-- `eval_order` (mod.rs:515). -/
def ProfileEngineState.evalOrder (s : ProfileEngineState) : List Nat :=
  match s.staticCache with
  | some cache => cache.order
  | none => []

/-- `curve_index_of(id).map(|ci| &profile.curves[ci])` (mod.rs:524, 635). -/
def ProfileEngineState.cachedCurve (s : ProfileEngineState) (p : DaemonProfile ℚ) (curveId : String) :
    Option (CurveConfig ℚ) := do
  let cache ← s.staticCache
  let ci ← cache.curveIndex.get? curveId
  p.curves[ci]?

/-! ## The member loop (mod.rs:693-756) -/

/-- What the loop over a control's members reads. -/
structure MemberLoop where
  control : LogicalControl ℚ
  rawOutput : ℚ
  pwmPercent : Nat
  protection : Protection

/-- Whether the member is tuned on its own, against its own tracker. -/
def MemberLoop.tracked (l : MemberLoop) (member : ControlMember) : Bool :=
  memberEffectiveFloor l.control member l.protection ≠ l.control.minimumPct || floorIsHard member l.protection

def MemberLoop.key (l : MemberLoop) (member : ControlMember) : String :=
  ProfileEngineState.memberKey l.control.id member.memberId

def MemberLoop.tuned (l : MemberLoop) (lastOutput : KMap String ℚ) (member : ControlMember) : ℚ :=
  applyTuningWithFloor l.control l.rawOutput (lastOutput.get? (l.key member))
    (memberEffectiveFloor l.control member l.protection) (floorIsHard member l.protection)

/-- The trackers after one member. -/
def MemberLoop.step (l : MemberLoop) (lastOutput : KMap String ℚ) (member : ControlMember) : KMap String ℚ :=
  if l.tracked member then lastOutput.insert (l.key member) (l.tuned lastOutput member) else lastOutput

/-- The command pushed for one member. -/
def MemberLoop.command (l : MemberLoop) (lastOutput : KMap String ℚ) (member : ControlMember) : PwmCommand where
  memberId := member.memberId
  source := member.source
  pwmPercent := if l.tracked member then roundPct (l.tuned lastOutput member) else l.pwmPercent
  gpuFanZeroRpm := member.source == .amdGpu && member.fanZeroRpm

/-- The command of a member whose control is pinned (mod.rs:597-613). -/
def overrideCommand (control : LogicalControl ℚ) (prot : Protection) (pct : Nat) (member : ControlMember) :
    PwmCommand where
  memberId := member.memberId
  source := member.source
  pwmPercent := roundPct (max (pct : ℚ) (memberEffectiveFloor control member prot))
  gpuFanZeroRpm := member.source == .amdGpu && member.fanZeroRpm

/-! ## The control loop (mod.rs:583-757) -/

/-- What became of a control this tick. -/
inductive Outcome where
  | overridden (pct : Nat)
  | skipped (reason : SkipReason)
  | evaluated (rawOutput tuned : ℚ)
  deriving DecidableEq, Repr

/-- What it publishes in `tick_outputs`. -/
def Outcome.output : Outcome → Option ℚ
  | overridden pct => some pct
  | skipped _ => none
  | evaluated _ tuned => some tuned

/-- One iteration of the loop: the control, what became of it, its commands, the mix warnings. -/
structure Visit where
  idx : Nat
  control : LogicalControl ℚ
  outcome : Outcome
  commands : List PwmCommand
  cuts : List MixCut
  deriving DecidableEq, Repr

def Visit.skipRecord (v : Visit) : Option SkipRecord :=
  match v.outcome with
  | .skipped reason => some ⟨v.control.id, v.control.name, reason⟩
  | _ => none

/-- The `raw_output` of a control that is not pinned (mod.rs:628-656). -/
structure RawOutput where
  state : ProfileEngineState
  value : Except SkipReason ℚ
  cuts : List MixCut

def rawOutput (p : DaemonProfile ℚ) (sensors : Sensors) (control : LogicalControl ℚ)
    (tickOutputs : KMap String ℚ) (s : ProfileEngineState) : RawOutput :=
  if control.mode = .manual then ⟨s, .ok control.manualOutputPct, []⟩
  else
    match s.cachedCurve p control.curveId with
    | none => ⟨s, .error .curveNotFound, []⟩
    | some curve =>
      let r := curveOutputForControl control curve p sensors tickOutputs s
      ⟨r.state, (r.value.map Except.ok).getD (.error (skipReason curve)), r.cuts⟩

/-- What one iteration does with its control. -/
structure ControlStep where
  state : ProfileEngineState
  outcome : Outcome
  commands : List PwmCommand
  cuts : List MixCut

/-- Tuning and commands of a control whose raw output is known (mod.rs:673-756). -/
def tuneControl (control : LogicalControl ℚ) (raw : ℚ) (s : ProfileEngineState) :
    ProfileEngineState × ℚ × List PwmCommand :=
  let tuned := applyTuning control raw (s.lastOutput.get? control.id)
  let lastOutput := s.lastOutput.insert control.id tuned
  let l : MemberLoop := ⟨control, raw, roundPct tuned, s.protection⟩
  ({ s with lastOutput := Machine.run l.step lastOutput control.members }, tuned,
    Machine.trace l.step l.command lastOutput control.members)

/-- The body of the loop. -/
def controlStep (p : DaemonProfile ℚ) (sensors : Sensors) (overrides : OverrideSnapshot)
    (control : LogicalControl ℚ) (tickOutputs : KMap String ℚ) (s : ProfileEngineState) : ControlStep :=
  match overrides.controls.get? control.id with
  | some pct => ⟨s, .overridden pct, control.members.map (overrideCommand control s.protection pct), []⟩
  | none =>
    let r := rawOutput p sensors control tickOutputs s
    match r.value with
    | .error reason => ⟨r.state, .skipped reason, [], r.cuts⟩
    | .ok raw =>
      let (s, tuned, commands) := tuneControl control raw r.state
      ⟨s, .evaluated raw tuned, commands, r.cuts⟩

/-- The locals of the loop. -/
structure TickAcc where
  state : ProfileEngineState
  tickOutputs : KMap String ℚ
  visits : List Visit

/-- One iteration, at an index of the cached order. -/
def visitControl (p : DaemonProfile ℚ) (sensors : Sensors) (overrides : OverrideSnapshot) (acc : TickAcc)
    (idx : Nat) : TickAcc :=
  match p.controls[idx]? with
  | none => acc
  | some control =>
    let c := controlStep p sensors overrides control acc.tickOutputs acc.state
    { state := c.state
      tickOutputs := match c.outcome.output with
        | some output => acc.tickOutputs.insert control.id output
        | none => acc.tickOutputs
      visits := acc.visits ++ [⟨idx, control, c.outcome, c.commands, c.cuts⟩] }

/-! ## The tick -/

/-- The identify pass (mod.rs:774-780). -/
def applyIdentify (overrides : OverrideSnapshot) (commands : List PwmCommand) : List PwmCommand :=
  commands.map fun cmd =>
    match overrides.identify.get? cmd.memberId with
    | some target => { cmd with pwmPercent := target }
    | none => cmd

/-- What an evaluation leaves: the state, the loop's visits, the commands. -/
structure Tick where
  state : ProfileEngineState
  visits : List Visit
  commands : List PwmCommand

/-- The state the loop starts from. -/
def ProfileEngineState.prepare (s : ProfileEngineState) (p : DaemonProfile ℚ) : ProfileEngineState :=
  (s.syncProfileId p.id).ensureStaticCache p

/-- `evaluate_profile_with_overrides` (mod.rs:549). -/
def evaluateProfileWithOverrides (p : DaemonProfile ℚ) (sensors : Sensors) (s : ProfileEngineState)
    (overrides : OverrideSnapshot) : Tick :=
  let s := s.prepare p
  let acc := Machine.run (visitControl p sensors overrides) ⟨s, .empty, []⟩ s.evalOrder
  { state := { acc.state with
      skippedThisTick := acc.visits.filterMap Visit.skipRecord
      tickOutputs := acc.tickOutputs }
    visits := acc.visits
    commands := applyIdentify overrides (acc.visits.flatMap (·.commands)) }

end ControlOfc.Engine
