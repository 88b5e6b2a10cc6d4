import ControlOfc.Hwmon.DriftEpisodes
import ControlOfc.Hwmon.BusClock
/-! # The controller runs its headers' episodes (hwmon/pwm_control.rs:1051-1240)

`stepEvents` reads off an operation what it is to one header. Each function of the controller says what it
leaves of the header's `Episode`, and a run is a history that `Episode.after` follows.

Main theorem `drift_episodes`.
-/
namespace ControlOfc.Hwmon
open Machine

/-- What the controller keeps of a header. -/
def HwmonPwmController.episode (c : HwmonPwmController) (id : String) : Episode where
  drift := ((c.writeState.get? id).map (·.drift)).getD .default
  command := c.lastCommandedPct id
  corrections := (c.dutyCorrections.get? id).getD 0

namespace HwmonRig

variable (env : Sysfs) (hs : Headers)

/-! ## What an operation is to a header -/

/-- A command past its checks: a tick where it coalesces, a write where it does not. -/
def commandEvent (r : HwmonRig) (h : PwmHeaderDescriptor) (pct : Nat) (reconciles : Bool) : DriftEvent :=
  let effectivePct := r.ctrl.raise h.id pct
  let watch := enableReclaimed env r h
  let booked := book watch.2 h reconciles watch.1
  let landed := (command env hs r h pct reconciles).2.isOk
  if coalescible booked h effectivePct reconciles then
    let expected := ((booked.ctrl.writeState.get? h.id).bind (·.heldPct)).getD effectivePct
    let readback := (booked.bus.read env h.pwmPath).1.map Pwm.rawToPercent
    .tick effectivePct expected readback (reconcileDecision expected readback (booked.ctrl.episode h.id).drift).1 landed
  else .write effectivePct reconciles landed

/-- The command of a `set_pwm` that passes its checks. -/
def accepted (r : HwmonRig) (id : String) (pct : Nat) (leaseId : String) : Option (HwmonRig × PwmHeaderDescriptor) :=
  match r.ctrl.leaseManager.validateLease r.now leaseId with
  | .error _ => none
  | .ok () =>
    match hs.get? id with
    | none => none
    | some h =>
      let mark := r.takeResumeFlag.bus.check env
      if h.ownedByHandBack && mark.1 then none
      else if 100 < pct then none
      else some ({ r.takeResumeFlag with bus := mark.2 }, h)

def setPwmEvents (r : HwmonRig) (id : String) (pct : Nat) (leaseId : String) : List DriftEvent :=
  ((accepted env hs r id pct leaseId).map fun (r', h) => commandEvent env hs r' h pct (r.reconciles leaseId)).toList

def handBackEvents (r : HwmonRig) (id leaseId : String) : List DriftEvent :=
  match (handBack env r id leaseId).2 with
  | .ok (some o) => if o.released then [.forgotten] else [.handBackFailed]
  | _ => []

def releaseEvents (r : HwmonRig) (id leaseId : String) : List DriftEvent :=
  match (releaseNoMode env hs r id leaseId).2 with
  | .ok none => []
  | .ok (some (.kept _)) => [.forgotten]
  | .ok (some (.raised _ target)) => setPwmEvents env hs r id target leaseId ++ [.forgotten]
  | .ok (some (.failed target _)) => setPwmEvents env hs r id target leaseId
  | .error _ =>
    -- a lease or the mark refuses it before its command
    setPwmEvents env hs r id (Pwm.exitDuty ((r.ctrl.exitRecord.get? id).join) r.cache.exitFloorPct) leaseId

/-- What an operation is to the header `id`. -/
def stepEvents (id : String) (r : HwmonRig) : Nat × HwmonOp → List DriftEvent
  | (dt, .setPwm id' pct leaseId) => if id' = id then setPwmEvents env hs (r.wait dt) id pct leaseId else []
  | (dt, .releaseNoMode id' leaseId) => if id' = id then releaseEvents env hs (r.wait dt) id leaseId else []
  | (dt, .handBack id' leaseId) => if id' = id then handBackEvents env (r.wait dt) id leaseId else []
  | (_, .onLeaseReleased) => [.forgotten]
  | _ => []

/-! ## What leaves an episode alone -/

variable {env hs}

theorem episode_congr {c c' : HwmonPwmController} (hw : c'.writeState = c.writeState)
    (hd : c'.dutyCorrections = c.dutyCorrections) (id : String) : c'.episode id = c.episode id := by
  simp [HwmonPwmController.episode, HwmonPwmController.lastCommandedPct, hw, hd]

/-- The write state and the counts of one controller are those of another. -/
def SameWrites (r r' : HwmonRig) : Prop :=
  r'.ctrl.writeState = r.ctrl.writeState ∧ r'.ctrl.dutyCorrections = r.ctrl.dutyCorrections

theorem SameWrites.trans {r r' r'' : HwmonRig} (h : SameWrites r r') (h' : SameWrites r' r'') : SameWrites r r'' :=
  ⟨h'.1.trans h.1, h'.2.trans h.2⟩

theorem SameWrites.episode {r r' : HwmonRig} (h : SameWrites r r') (id : String) :
    r'.ctrl.episode id = r.ctrl.episode id := episode_congr h.1 h.2 id

theorem primeEach_same (dir : String) (ss : List PwmHeaderDescriptor) (r : HwmonRig) :
    SameWrites r (primeEach env dir r ss) := by
  induction ss generalizing r with
  | nil => exact ⟨rfl, rfl⟩
  | cons s ss ih =>
    unfold primeEach
    dsimp only
    split_ifs
    · exact .trans ⟨rfl, rfl⟩ (ih _)
    · exact .trans ⟨rfl, rfl⟩ (ih _)
    · exact .trans ⟨rfl, rfl⟩ (ih _)
    · exact ⟨rfl, rfl⟩

theorem prime_same (r : HwmonRig) (h : PwmHeaderDescriptor) : SameWrites r (primeSharedReportSiblings env hs r h) := by
  unfold primeSharedReportSiblings
  split
  · exact primeEach_same _ _ r
  · exact ⟨rfl, rfl⟩

theorem resumePriming_same (r : HwmonRig) (h : PwmHeaderDescriptor) :
    SameWrites r (resumePrimingAfterSuccess env hs r h) := by
  unfold resumePrimingAfterSuccess
  split
  · exact .trans ⟨rfl, rfl⟩ (prime_same _ h)
  · exact ⟨rfl, rfl⟩

theorem enableReclaimed_ctrl (r : HwmonRig) (h : PwmHeaderDescriptor) : (enableReclaimed env r h).2.ctrl = r.ctrl := by
  unfold enableReclaimed
  split
  · split
    · rfl
    · dsimp only
      split
      · rfl
      · split <;> rfl
  · rfl

theorem takeUnheld_same (r : HwmonRig) (h : PwmHeaderDescriptor) : SameWrites r (takeUnheld env r h).2 := by
  unfold takeUnheld
  split
  · unfold takeMode
    split
    · exact ⟨rfl, rfl⟩
    · dsimp only
      split <;> exact ⟨rfl, rfl⟩
  · exact ⟨rfl, rfl⟩

theorem recordNoMode_same (c : HwmonPwmController) (h : PwmHeaderDescriptor) (d : Option Nat) :
    (c.recordNoMode h d).writeState = c.writeState ∧ (c.recordNoMode h d).dutyCorrections = c.dutyCorrections := by
  unfold HwmonPwmController.recordNoMode
  split <;> exact ⟨rfl, rfl⟩

/-- What does not look at the duty or the drift. -/
theorem episode_modifyWs (c : HwmonPwmController) (id id' : String) {f : HeaderWriteState → HeaderWriteState}
    (hf : ∀ ws, (f ws).lastCommandedPct = ws.lastCommandedPct) :
    (c.modifyWs id f).episode id' =
      if id' = id then { c.episode id with
        drift := ((c.writeState.get? id).map fun ws => (f ws).drift).getD .default }
      else c.episode id' := by
  unfold HwmonPwmController.modifyWs
  cases hw : c.writeState.get? id with
  | none =>
    by_cases hid : id' = id
    · subst hid
      simp [HwmonPwmController.episode, hw]
    · simp [hid]
  | some ws =>
    by_cases hid : id' = id
    · subst hid
      simp [HwmonPwmController.episode, HwmonPwmController.lastCommandedPct, hw, hf]
    · simp [HwmonPwmController.episode, HwmonPwmController.lastCommandedPct, hid]

theorem episode_entryWs (c : HwmonPwmController) (id id' : String) (f : HeaderWriteState → HeaderWriteState) :
    (c.entryWs id f).episode id' =
      if id' = id then
        ⟨(f ((c.writeState.get? id).getD .default)).drift, (f ((c.writeState.get? id).getD .default)).lastCommandedPct,
          (c.dutyCorrections.get? id).getD 0⟩
      else c.episode id' := by
  by_cases hid : id' = id
  · subst hid
    simp [HwmonPwmController.episode, HwmonPwmController.lastCommandedPct, HwmonPwmController.entryWs]
  · simp [HwmonPwmController.episode, HwmonPwmController.lastCommandedPct, HwmonPwmController.entryWs, hid]

theorem book_ctrl (r : HwmonRig) (h : PwmHeaderDescriptor) (reconciles reclaimed : Bool) :
    ∃ c : HwmonPwmController, c.writeState = r.ctrl.writeState ∧ c.dutyCorrections = r.ctrl.dutyCorrections ∧
      (book r h reconciles reclaimed).ctrl =
        c.entryWs h.id fun ws => if reclaimed then { ws with manualModeSet := false } else ws := by
  refine ⟨_, ?_, ?_, rfl⟩
  · cases reclaimed <;> cases h.supportsEnable <;> cases reconciles <;> rfl
  · cases reclaimed <;> cases h.supportsEnable <;> cases reconciles <;> rfl

theorem book_episode (r : HwmonRig) (h : PwmHeaderDescriptor) (reconciles reclaimed : Bool) (id : String) :
    (book r h reconciles reclaimed).ctrl.episode id = r.ctrl.episode id := by
  obtain ⟨c, hw, hd, hc⟩ := book_ctrl r h reconciles reclaimed
  rw [hc, episode_entryWs, hw, hd]
  by_cases hid : id = h.id
  · subst hid
    cases hws : r.ctrl.writeState.get? h.id <;>
      cases reclaimed <;>
      simp [HwmonPwmController.episode, HwmonPwmController.lastCommandedPct, hws, HeaderWriteState.default]
  · rw [if_neg hid]
    exact episode_congr hw hd id

theorem forgetManualMode_episode (c : HwmonPwmController) (id : String) : c.forgetManualMode.episode id = c.episode id := by
  unfold HwmonPwmController.forgetManualMode HwmonPwmController.episode HwmonPwmController.lastCommandedPct
  cases hws : c.writeState.get? id <;> simp [hws]

theorem takeResumeFlag_episode (r : HwmonRig) (id : String) : r.takeResumeFlag.ctrl.episode id = r.ctrl.episode id := by
  unfold takeResumeFlag
  dsimp only
  split
  · exact forgetManualMode_episode r.ctrl id
  · rfl

/-! ## What a write leaves -/

/-- What a duty write leaves of the episode. -/
def settled (s : Episode) (effectivePct : Nat) (reconciles correcting landed : Bool) : Episode :=
  if landed then
    ⟨if !correcting && reconciles then s.drift.afterPlainWrite else s.drift, some effectivePct,
      s.corrections + correcting.toNat⟩
  else if correcting then { s with drift := { s.drift with corrections := s.drift.corrections - 1 } } else s

theorem episode_countUp (c : HwmonPwmController) (id id' : String) :
    { c with dutyCorrections := countUp c.dutyCorrections id }.episode id' =
      if id' = id then { c.episode id with corrections := (c.episode id).corrections + 1 } else c.episode id' := by
  by_cases hid : id' = id
  · subst hid
    simp [HwmonPwmController.episode, HwmonPwmController.lastCommandedPct, countUp]
  · simp [HwmonPwmController.episode, HwmonPwmController.lastCommandedPct, countUp, hid]

theorem settle_ctrl (r : HwmonRig) (h : PwmHeaderDescriptor) (eff : Nat) (reconciles correcting : Bool) :
    ∃ c : HwmonPwmController, c.writeState = r.ctrl.writeState ∧ c.dutyCorrections = r.ctrl.dutyCorrections ∧ ∃ held,
      let c' := c.entryWs h.id fun ws =>
        { lastCommandedPct := some eff
          manualModeSet := true
          heldPct := held
          drift := if !correcting && reconciles then ws.drift.afterPlainWrite else ws.drift }
      (settle env r h eff reconciles correcting).ctrl =
        if correcting then { c' with dutyCorrections := countUp c'.dutyCorrections h.id } else c' := by
  refine ⟨_, ?_, ?_, _, rfl⟩ <;> split <;> rfl

theorem settle_episode (r : HwmonRig) (h : PwmHeaderDescriptor) (eff : Nat) (reconciles correcting : Bool) (id : String) :
    (settle env r h eff reconciles correcting).ctrl.episode id =
      if id = h.id then settled (r.ctrl.episode h.id) eff reconciles correcting true else r.ctrl.episode id := by
  obtain ⟨c, hw, hd, held, hc⟩ := @settle_ctrl env r h eff reconciles correcting
  rw [hc]
  by_cases hid : id = h.id
  · subst hid
    cases correcting with
    | true =>
      simp only [if_true, episode_countUp, episode_entryWs, hw, hd, settled]
      cases hws : r.ctrl.writeState.get? h.id <;>
        simp [HwmonPwmController.episode, hws, HeaderWriteState.default]
    | false =>
      simp only [if_true, episode_entryWs, hw, hd, settled, Bool.false_eq_true, if_false]
      cases hws : r.ctrl.writeState.get? h.id <;>
        simp [HwmonPwmController.episode, hws, HeaderWriteState.default]
  · cases correcting with
    | true =>
      simp only [if_true, episode_countUp, episode_entryWs, if_neg hid]
      exact episode_congr hw hd id
    | false =>
      simp only [episode_entryWs, if_neg hid, Bool.false_eq_true, if_false]
      exact episode_congr hw hd id

theorem uncount_episode (c : HwmonPwmController) (id id' : String) (correcting : Bool) {f : HeaderWriteState → HeaderWriteState}
    (hf : ∀ ws, (f ws).lastCommandedPct = ws.lastCommandedPct ∧ (f ws).drift = ws.drift) :
    (c.modifyWs id fun ws => uncount (f ws) correcting).episode id' =
      if id' = id then settled (c.episode id) 0 false correcting false else c.episode id' := by
  rw [episode_modifyWs]
  · by_cases hid : id' = id
    · rw [if_pos hid, if_pos hid]
      cases correcting <;>
        cases hws : c.writeState.get? id <;>
        simp [settled, uncount, HwmonPwmController.episode, hws, hf, DriftState.default]
    · rw [if_neg hid, if_neg hid]
  · intro ws
    cases correcting <;> simp [uncount, (hf ws).1]

theorem writeDuty_episode (r : HwmonRig) (h : PwmHeaderDescriptor) (eff : Nat) (reconciles correcting : Bool) (id : String) :
    (writeDuty env hs r h eff reconciles correcting).1.ctrl.episode id =
      if id = h.id then
        settled (r.ctrl.episode h.id) eff reconciles correcting (writeDuty env hs r h eff reconciles correcting).2.isOk
      else r.ctrl.episode id := by
  have hmark (b : Bus) : SameWrites r { r with ctrl := r.ctrl.recordNoMode h none, bus := b } := recordNoMode_same r.ctrl h none
  unfold writeDuty
  dsimp only
  split
  · show (HwmonPwmController.modifyWs _ _ _).episode id = _
    rw [uncount_episode _ _ _ _ fun _ => ⟨rfl, rfl⟩, (hmark (r.bus.check env).2).episode, (hmark (r.bus.check env).2).episode]
    rfl
  · have hprime := (hmark (r.bus.check env).2).trans (@prime_same env hs _ h)
    generalize hr : primeSharedReportSiblings env hs { r with ctrl := r.ctrl.recordNoMode h none, bus := (r.bus.check env).2 } h = r'
      at hprime ⊢
    split
    · show (HwmonPwmController.modifyWs _ _ _).episode id = _
      rw [uncount_episode r'.ctrl h.id id correcting (f := ({ · with manualModeSet := false })) fun _ => ⟨rfl, rfl⟩,
        hprime.episode, hprime.episode]
      rfl
    · have hwritten : SameWrites r' { r' with
          ctrl := r'.ctrl.recordNoMode h (some eff), bus := (r'.bus.write env h.id h.pwmPath .duty (Pwm.percentToRaw eff)).2 } :=
        recordNoMode_same r'.ctrl h (some eff)
      have hresumed := (hprime.trans hwritten).trans (@resumePriming_same env hs _ h)
      rw [settle_episode, hresumed.episode, hresumed.episode]
      rfl

theorem takeAndWrite_episode (r : HwmonRig) (h : PwmHeaderDescriptor) (eff : Nat) (reconciles correcting : Bool)
    (hc : correcting = true → r.ctrl.manualModeSet h.id = true) (id : String) :
    (takeAndWrite env hs r h eff reconciles correcting).1.ctrl.episode id =
      if id = h.id then
        settled (r.ctrl.episode h.id) eff reconciles correcting (takeAndWrite env hs r h eff reconciles correcting).2.isOk
      else r.ctrl.episode id := by
  have htake := @takeUnheld_same env r h
  unfold takeAndWrite
  dsimp only
  split
  · next e he =>
    -- a header that a correction writes is held, so it is not taken
    have hplain : correcting = false := by
      by_contra hne
      have hheld := hc (by simpa using hne)
      simp [takeUnheld, hheld] at he
    rw [htake.episode, hplain]
    by_cases hid : id = h.id
    · rw [if_pos hid, hid]
      rfl
    · rw [if_neg hid]
  · rw [writeDuty_episode, htake.episode, htake.episode]

/-! ## What a command leaves -/

variable (env hs) in
/-- The header's rig as the command finds it: watched and booked. -/
def booked (r : HwmonRig) (h : PwmHeaderDescriptor) (reconciles : Bool) : HwmonRig :=
  book (enableReclaimed env r h).2 h reconciles (enableReclaimed env r h).1

theorem booked_episode (r : HwmonRig) (h : PwmHeaderDescriptor) (reconciles : Bool) (id : String) :
    (booked env r h reconciles).ctrl.episode id = r.ctrl.episode id := by
  rw [booked, book_episode, enableReclaimed_ctrl]

variable (env) in
/-- What a coalescing command finds: the duty it expects, and what the header holds. -/
def driftExpected (b : HwmonRig) (h : PwmHeaderDescriptor) (eff : Nat) : Nat :=
  ((b.ctrl.writeState.get? h.id).bind (·.heldPct)).getD eff

variable (env) in
def driftReadback (b : HwmonRig) (h : PwmHeaderDescriptor) : Option Nat := (b.bus.read env h.pwmPath).1.map Pwm.rawToPercent

theorem dutyDriftRewrite_eq (b : HwmonRig) (h : PwmHeaderDescriptor) (eff : Nat) {ws : HeaderWriteState}
    (hws : b.ctrl.writeState.get? h.id = some ws) :
    dutyDriftRewrite env b h eff =
      let decision := reconcileDecision (driftExpected b h eff) (driftReadback env b h) (b.ctrl.episode h.id).drift
      (decision.1.rewrites,
        { b with
          ctrl := b.ctrl.modifyWs h.id ({ · with drift := decision.2 })
          bus := (b.bus.read env h.pwmPath).2 }) := by
  have hexpected : driftExpected b h eff = ws.heldPct.getD eff := by simp [driftExpected, hws]
  have hdrift : (b.ctrl.episode h.id).drift = ws.drift := by simp [HwmonPwmController.episode, hws]
  rw [hexpected, hdrift]
  unfold dutyDriftRewrite driftReadback
  simp only [hws]

theorem coalescible_iff {r : HwmonRig} {h : PwmHeaderDescriptor} {eff : Nat} {reconciles : Bool} :
    coalescible r h eff reconciles = true ↔
      reconciles = true ∧ r.ctrl.manualModeSet h.id = true ∧ r.ctrl.lastCommandedPct h.id = some eff := by
  simp [coalescible, and_assoc]

theorem exists_ws {c : HwmonPwmController} {id : String} (h : c.manualModeSet id = true) :
    ∃ ws, c.writeState.get? id = some ws := by
  cases hws : c.writeState.get? id with
  | none => simp [HwmonPwmController.manualModeSet, hws] at h
  | some ws => exact ⟨ws, rfl⟩

theorem command_coalesced {r : HwmonRig} {h : PwmHeaderDescriptor} {pct : Nat} {reconciles : Bool}
    (hc : coalescible (booked env r h reconciles) h (r.ctrl.raise h.id pct) reconciles = true) :
    command env hs r h pct reconciles =
      let drift := dutyDriftRewrite env (booked env r h reconciles) h (r.ctrl.raise h.id pct)
      if drift.1 then takeAndWrite env hs drift.2 h (r.ctrl.raise h.id pct) reconciles true
      else (drift.2, .ok ⟨h.id, r.ctrl.raise h.id pct, Pwm.percentToRaw (r.ctrl.raise h.id pct)⟩) := by
  unfold booked at hc
  unfold command booked
  dsimp only
  rw [if_pos hc]

theorem command_plain {r : HwmonRig} {h : PwmHeaderDescriptor} {pct : Nat} {reconciles : Bool}
    (hc : ¬coalescible (booked env r h reconciles) h (r.ctrl.raise h.id pct) reconciles = true) :
    command env hs r h pct reconciles =
      takeAndWrite env hs (booked env r h reconciles) h (r.ctrl.raise h.id pct) reconciles false := by
  unfold booked at hc
  unfold command booked
  dsimp only
  rw [if_neg hc]

theorem commandEvent_eq (r : HwmonRig) (h : PwmHeaderDescriptor) (pct : Nat) (reconciles : Bool) :
    commandEvent env hs r h pct reconciles =
      let eff := r.ctrl.raise h.id pct
      let b := booked env r h reconciles
      let landed := (command env hs r h pct reconciles).2.isOk
      if coalescible b h eff reconciles then
        .tick eff (driftExpected b h eff) (driftReadback env b h)
          (reconcileDecision (driftExpected b h eff) (driftReadback env b h) (r.ctrl.episode h.id).drift).1 landed
      else .write eff reconciles landed := by
  rw [← @booked_episode env r h reconciles h.id]
  rfl

/-- A command runs the event it is to its header, and no header's episode but that one. -/
theorem command_episode (r : HwmonRig) (h : PwmHeaderDescriptor) (pct : Nat) (reconciles : Bool) :
    (r.ctrl.episode h.id).Emits (commandEvent env hs r h pct reconciles) ∧
      ∀ id, (command env hs r h pct reconciles).1.ctrl.episode id =
        if id = h.id then (r.ctrl.episode h.id).after (commandEvent env hs r h pct reconciles) else r.ctrl.episode id := by
  rw [commandEvent_eq]
  dsimp only
  generalize heff : r.ctrl.raise h.id pct = eff
  by_cases hc : coalescible (booked env r h reconciles) h eff reconciles = true
  · rw [if_pos hc]
    obtain ⟨hr, hmanual, hlast⟩ := coalescible_iff.mp hc
    have hcommand : (r.ctrl.episode h.id).command = some eff := by
      rw [← @booked_episode env r h reconciles]
      exact hlast
    refine ⟨⟨hcommand, rfl⟩, fun id => ?_⟩
    obtain ⟨ws, hws⟩ := exists_ws hmanual
    rw [command_coalesced (heff ▸ hc), heff, dutyDriftRewrite_eq _ _ _ hws, booked_episode]
    dsimp only
    generalize hdecision :
      reconcileDecision (driftExpected (booked env r h reconciles) h eff) (driftReadback env (booked env r h reconciles) h)
        (r.ctrl.episode h.id).drift = decision
    have hdrifted : ∀ id, ((booked env r h reconciles).ctrl.modifyWs h.id ({ · with drift := decision.2 })).episode id =
        if id = h.id then { r.ctrl.episode h.id with drift := decision.2 } else r.ctrl.episode id := by
      intro id
      rw [episode_modifyWs _ _ _ (f := ({ · with drift := decision.2 })) fun _ => rfl, booked_episode, booked_episode, hws]
      rfl
    cases hrewrites : decision.1.rewrites with
    | false =>
      rw [if_neg Bool.false_ne_true, hdrifted]
      simp only [Episode.after, Episode.afterTick, hdecision, hrewrites, Bool.false_eq_true, if_false]
    | true =>
      rw [if_pos rfl, takeAndWrite_episode _ _ _ _ _ ?_, hdrifted, hdrifted, if_pos rfl]
      · generalize (takeAndWrite env hs _ h eff reconciles true).2.isOk = landed
        by_cases hid : id = h.id
        · rw [if_pos hid, if_pos hid]
          simp only [Episode.after, Episode.afterTick, hdecision, hrewrites, if_true, settled, hcommand]
          cases landed <;> rfl
        · rw [if_neg hid, if_neg hid, if_neg hid]
      · intro _
        simpa [HwmonPwmController.manualModeSet, HwmonPwmController.modifyWs, hws] using hmanual
  · rw [if_neg hc]
    refine ⟨trivial, fun id => ?_⟩
    rw [command_plain (heff ▸ hc), heff, takeAndWrite_episode _ _ _ _ false (fun h => by cases h), booked_episode, booked_episode]
    generalize (takeAndWrite env hs _ h eff reconciles false).2.isOk = landed
    by_cases hid : id = h.id
    · rw [if_pos hid, if_pos hid]
      cases landed <;> simp [Episode.after, settled]
    · rw [if_neg hid, if_neg hid]

/-! ## What an operation leaves -/

/-- What happened to the header `id` between two rigs. -/
structure Tells (id : String) (r : HwmonRig) (es : List DriftEvent) (r' : HwmonRig) : Prop where
  emitted : Along Episode.after Episode.Emits (r.ctrl.episode id) es
  left : r'.ctrl.episode id = run Episode.after (r.ctrl.episode id) es

theorem Tells.nothing {id : String} {r r' : HwmonRig} (h : r'.ctrl.episode id = r.ctrl.episode id) : Tells id r [] r' :=
  ⟨trivial, h⟩

theorem Tells.one {id : String} {r r' : HwmonRig} {e : DriftEvent} (he : (r.ctrl.episode id).Emits e)
    (h : r'.ctrl.episode id = (r.ctrl.episode id).after e) : Tells id r [e] r' :=
  ⟨⟨he, trivial⟩, h⟩

theorem Tells.append {id : String} {r r' r'' : HwmonRig} {es es' : List DriftEvent} (h : Tells id r es r')
    (h' : Tells id r' es' r'') : Tells id r (es ++ es') r'' := by
  have hemitted := h'.emitted
  have hleft := h'.left
  rw [h.left] at hemitted hleft
  refine ⟨?_, ?_⟩
  · rw [along_append]
    exact ⟨h.emitted, hemitted⟩
  · rw [hleft, run_append]

theorem accepted_header {r r' : HwmonRig} {id leaseId : String} {pct : Nat} {h : PwmHeaderDescriptor}
    (ha : accepted env hs r id pct leaseId = some (r', h)) : hs.get? id = some h := by
  unfold accepted at ha
  split at ha
  · cases ha
  · split at ha
    · cases ha
    · next h' hh =>
      dsimp only at ha
      split_ifs at ha
      rw [hh, (Prod.mk.inj (Option.some.inj ha)).2]

theorem setPwm_accepted {r r' : HwmonRig} {id leaseId : String} {pct : Nat} {h : PwmHeaderDescriptor}
    (ha : accepted env hs r id pct leaseId = some (r', h)) :
    setPwm env hs r id pct leaseId = command env hs r' h pct (r.reconciles leaseId) ∧ h.id = id ∧
      (∀ id', r'.ctrl.episode id' = r.ctrl.episode id') ∧ r'.bus = ⟨r.bus.tick + 1, r.bus.log⟩ ∧
      r'.ctrl.exitMin = r.ctrl.exitMin := by
  unfold accepted at ha
  unfold setPwm
  split at ha
  · cases ha
  · next hv =>
    split at ha
    · cases ha
    · next h' hh =>
      dsimp only at ha
      split_ifs at ha with hmark hpct
      obtain ⟨rfl, rfl⟩ := Prod.mk.inj (Option.some.inj ha)
      have hkept : Kept hs (fun _ => False) r r.takeResumeFlag := takeResumeFlag_kept r
      refine ⟨?_, Headers.id_of_get? hh, fun id' => takeResumeFlag_episode r id', rfl, hkept.exitMin⟩
      simp only [hv, hh, if_neg hmark, if_neg hpct]

theorem setPwm_unaccepted {r : HwmonRig} {id leaseId : String} {pct : Nat} (ha : accepted env hs r id pct leaseId = none) :
    (∀ id', (setPwm env hs r id pct leaseId).1.ctrl.episode id' = r.ctrl.episode id') ∧
      (setPwm env hs r id pct leaseId).1.bus.log = r.bus.log := by
  unfold accepted at ha
  unfold setPwm
  split
  · exact ⟨fun _ => rfl, rfl⟩
  · next hv =>
    simp only [hv] at ha
    dsimp only
    split
    · exact ⟨takeResumeFlag_episode r, rfl⟩
    · next h' hh =>
      simp only [hh] at ha
      split_ifs at ha ⊢ with hmark hpct
      · exact ⟨takeResumeFlag_episode r, rfl⟩
      · exact ⟨takeResumeFlag_episode r, rfl⟩

theorem setPwm_tells (r : HwmonRig) (id id' leaseId : String) (pct : Nat) :
    Tells id r (if id' = id then setPwmEvents env hs r id pct leaseId else []) (setPwm env hs r id' pct leaseId).1 := by
  cases ha : accepted env hs r id' pct leaseId with
  | none =>
    have hnone : (if id' = id then setPwmEvents env hs r id pct leaseId else []) = [] := by
      split
      · next heq =>
        subst heq
        simp [setPwmEvents, ha]
      · rfl
    rw [hnone]
    exact .nothing ((setPwm_unaccepted ha).1 id)
  | some found =>
    obtain ⟨r', h⟩ := found
    obtain ⟨hset, hid, hsame, -, -⟩ := setPwm_accepted ha
    obtain ⟨hemits, hleft⟩ := @command_episode env hs r' h pct (r.reconciles leaseId)
    rw [hset]
    split
    · next heq =>
      subst heq
      have hevents : setPwmEvents env hs r id' pct leaseId = [commandEvent env hs r' h pct (r.reconciles leaseId)] := by
        simp [setPwmEvents, ha]
      rw [hevents]
      rw [hsame, hid] at hemits hleft
      exact .one hemits (by rw [hleft, if_pos rfl])
    · next hne =>
      refine .nothing ?_
      rw [hleft, if_neg (by rw [hid]; exact Ne.symm hne), hsame]

theorem forgetWrites_episode (r : HwmonRig) (id id' : String) :
    (r.forgetWrites id).ctrl.episode id' =
      if id' = id then (r.ctrl.episode id).after .forgotten else r.ctrl.episode id' := by
  unfold forgetWrites HwmonPwmController.episode HwmonPwmController.lastCommandedPct
  by_cases hid : id' = id
  · subst hid
    simp [Episode.after]
  · simp [hid]

theorem forgetWrites_tells {r r' : HwmonRig} (hw : SameWrites r r') (id id' : String) :
    Tells id r (if id' = id then [.forgotten] else []) (r'.forgetWrites id') := by
  split
  · next heq =>
    subst heq
    exact .one trivial (by rw [forgetWrites_episode, if_pos rfl, hw.episode])
  · next hne =>
    exact .nothing (by rw [forgetWrites_episode, if_neg (Ne.symm hne), hw.episode])

theorem handBack_tells (r : HwmonRig) (id id' leaseId : String) :
    Tells id r (if id' = id then handBackEvents env r id leaseId else []) (handBack env r id' leaseId).1 := by
  have hevents : (if id' = id then handBackEvents env r id leaseId else []) =
      if id' = id then handBackEvents env r id' leaseId else [] := by
    split
    · next heq => rw [heq]
    · rfl
  rw [hevents]
  unfold handBackEvents handBack
  cases r.ctrl.leaseManager.validateLease r.now leaseId with
  | error e =>
    simp only [ite_self]
    exact .nothing rfl
  | ok _ =>
    cases r.ctrl.handback.takenHeader id' with
    | none =>
      simp only [ite_self]
      exact .nothing rfl
    | some taken =>
      obtain ⟨entry, action⟩ := taken
      dsimp only
      cases hreleased : (r.bus.handBack env id' entry action).1.released with
      | true =>
        simp only [hreleased, if_true]
        have hsame : SameWrites r { r with
            ctrl := { r.ctrl with handback := r.ctrl.handback.noteHandedBack id' }
            bus := (r.bus.handBack env id' entry action).2 } := ⟨rfl, rfl⟩
        exact forgetWrites_tells hsame id id'
      | false =>
        simp only [hreleased, Bool.false_eq_true, if_false]
        have hleft : (r.ctrl.modifyWs id' ({ · with drift := .default })).episode id =
            if id = id' then (r.ctrl.episode id').after .handBackFailed else r.ctrl.episode id := by
          rw [episode_modifyWs _ _ _ (f := ({ · with drift := .default })) fun _ => rfl]
          cases r.ctrl.writeState.get? id' <;> rfl
        split
        · next heq =>
          subst heq
          exact .one trivial (by rw [hleft, if_pos rfl])
        · next hne => exact .nothing (by rw [hleft, if_neg (Ne.symm hne)])

theorem released_tells (r : HwmonRig) (id id' : String) :
    Tells id r (if id' = id then [.forgotten] else []) (r.released id') := by
  have hsame : SameWrites r { r with
      ctrl := { r.ctrl with engineHeld := r.ctrl.engineHeld.filter (· ≠ id') }
      cache := { r.cache with abandonedByDiagnostic := r.cache.abandonedByDiagnostic.filter (· ≠ id') } } := ⟨rfl, rfl⟩
  exact forgetWrites_tells hsame id id'

theorem releaseNoMode_tells (r : HwmonRig) (id id' leaseId : String) :
    Tells id r (if id' = id then releaseEvents env hs r id leaseId else []) (releaseNoMode env hs r id' leaseId).1 := by
  have hevents : (if id' = id then releaseEvents env hs r id leaseId else []) =
      if id' = id then releaseEvents env hs r id' leaseId else [] := by
    split
    · next heq => rw [heq]
    · rfl
  have hset := @setPwm_tells env hs r id id' leaseId
    (Pwm.exitDuty ((r.ctrl.exitRecord.get? id').join) r.cache.exitFloorPct)
  have hwas : ∀ pct, (if id' = id then setPwmEvents env hs r id pct leaseId else []) =
      if id' = id then setPwmEvents env hs r id' pct leaseId else [] := by
    intro pct
    split
    · next heq => rw [heq]
    · rfl
  rw [hwas] at hset
  rw [hevents]
  unfold releaseEvents releaseNoMode
  cases hv : r.ctrl.leaseManager.validateLease r.now leaseId with
  | error e =>
    have hrefused : ∀ pct, setPwmEvents env hs r id' pct leaseId = [] := by
      intro pct
      simp [setPwmEvents, accepted, hv]
    simp only [hrefused, ite_self]
    exact .nothing rfl
  | ok _ =>
    dsimp only
    by_cases hheld : (!holdsNoMode hs r id' || r.cache.verifyActive) = true
    · simp only [if_pos hheld, ite_self]
      exact .nothing rfl
    · rw [if_neg hheld]
      generalize (r.ctrl.exitRecord.get? id').join = was at hset ⊢
      by_cases hfloor : r.cache.exitFloorPct = 0 ∨ some (Pwm.exitDuty was r.cache.exitFloorPct) = was
      · rw [if_pos hfloor]
        exact released_tells r id id'
      · rw [if_neg hfloor]
        generalize Pwm.exitDuty was r.cache.exitFloorPct = target at hset ⊢
        generalize setPwm env hs r id' target leaseId = set at hset ⊢
        obtain ⟨r', res⟩ := set
        cases res with
        | ok done =>
          have hall := hset.append (released_tells r' id id')
          by_cases hid : id' = id
          · simpa only [if_pos hid] using hall
          · simpa only [if_neg hid, List.append_nil] using hall
        | error e =>
          cases e with
          | hardware e => exact hset
          | lease e => exact hset
          | validation m => exact hset
          | shuttingDown m => exact hset

/-- A run tells each header its history. -/
theorem step_tells (r : HwmonRig) (id : String) (e : Nat × HwmonOp) :
    Tells id r (stepEvents env hs id r e) (step env hs r e) := by
  obtain ⟨dt, op⟩ := e
  have hwait : Tells id r [] (r.wait dt) := .nothing rfl
  cases op with
  | setPwm id' pct leaseId => exact hwait.append (setPwm_tells (r.wait dt) id id' leaseId pct)
  | releaseNoMode id' leaseId => exact hwait.append (releaseNoMode_tells (r.wait dt) id id' leaseId)
  | handBack id' leaseId => exact hwait.append (handBack_tells (r.wait dt) id id' leaseId)
  | forgetManualMode => exact .nothing (forgetManualMode_episode r.ctrl id)
  | onLeaseReleased => exact .one trivial rfl
  | lease op => exact .nothing rfl
  | resumeDetected => exact .nothing rfl
  | verifyActive on => exact .nothing rfl
  | abandoned id => exact .nothing rfl
  | setExitFloorPct pct => exact .nothing rfl

variable (env hs) in
/-- What a run was to the header `id`. -/
def history (id : String) (r : HwmonRig) (ops : List (Nat × HwmonOp)) : List DriftEvent :=
  (trace (step env hs) (stepEvents env hs id) r ops).flatten

theorem run_tells (r : HwmonRig) (id : String) (ops : List (Nat × HwmonOp)) :
    Tells id r (history env hs id r ops) (run (step env hs) r ops) := by
  induction ops generalizing r with
  | nil => exact .nothing rfl
  | cons e ops ih => exact (step_tells r id e).append (ih _)

/-! ## What reaches the header -/

/-- A tick that does not correct writes nothing. -/
theorem command_silent {r : HwmonRig} {h : PwmHeaderDescriptor} {pct p x : Nat} {reconciles landed : Bool} {read : Option Nat}
    {a : DriftAction} (he : commandEvent env hs r h pct reconciles = .tick p x read a landed) (ha : a.rewrites = false) :
    (command env hs r h pct reconciles).1.bus.log = r.bus.log := by
  rw [commandEvent_eq] at he
  dsimp only at he
  split at he
  · next hc =>
    injection he with _ _ _ haction _
    obtain ⟨ws, hws⟩ := exists_ws (coalescible_iff.mp hc).2.1
    have hwatch : Kept hs (fun _ => False) r (enableReclaimed env r h).2 := enableReclaimed_kept env r h
    obtain ⟨-, ws', hlog, hnone⟩ := hwatch.wrote
    rw [command_coalesced hc, dutyDriftRewrite_eq _ _ _ hws, booked_episode]
    dsimp only
    rw [haction, ha, if_neg Bool.false_ne_true]
    show (enableReclaimed env r h).2.bus.log = r.bus.log
    rw [hlog, List.eq_nil_iff_forall_not_mem.mpr hnone, List.append_nil]
  · cases he

/-- A tick that reads nothing leaves the episode as it was. -/
theorem command_unreadable {r : HwmonRig} {h : PwmHeaderDescriptor} {pct p x : Nat} {reconciles landed : Bool} {a : DriftAction}
    (he : commandEvent env hs r h pct reconciles = .tick p x none a landed) :
    (command env hs r h pct reconciles).1.bus.log = r.bus.log ∧
      (command env hs r h pct reconciles).1.ctrl.episode h.id = r.ctrl.episode h.id := by
  obtain ⟨hemits, hleft⟩ := @command_episode env hs r h pct reconciles
  rw [he] at hemits hleft
  refine ⟨command_silent he ?_, ?_⟩
  · rw [hemits.2]
    rfl
  · rw [hleft, if_pos rfl]
    rfl

variable (h : PwmHeaderDescriptor) (eff : Nat) in
/-- Between two rigs the header was told the duty. -/
def Told (r r' : HwmonRig) : Prop := ∃ t, r.bus.tick ≤ t ∧ ⟨t, h.id, .duty, Pwm.percentToRaw eff⟩ ∈ r'.bus.log

theorem writeDuty_told {r : HwmonRig} {h : PwmHeaderDescriptor} {eff : Nat} {reconciles correcting : Bool}
    (hok : (writeDuty env hs r h eff reconciles correcting).2.isOk = true) :
    Told h eff r (writeDuty env hs r h eff reconciles correcting).1 := by
  unfold writeDuty at hok ⊢
  dsimp only at hok ⊢
  split at hok
  · cases hok
  · next hmark =>
    rw [if_neg hmark]
    have hprime := (prime_later env hs { r with ctrl := r.ctrl.recordNoMode h none, bus := (r.bus.check env).2 } h).tick
    generalize primeSharedReportSiblings env hs { r with ctrl := r.ctrl.recordNoMode h none, bus := (r.bus.check env).2 } h = r'
      at hok hprime ⊢
    split at hok
    · cases hok
    · dsimp only
      generalize hr'' : ({ r' with
        ctrl := r'.ctrl.recordNoMode h (some eff)
        bus := (r'.bus.write env h.id h.pwmPath .duty (Pwm.percentToRaw eff)).2 } : HwmonRig) = r''
      have hrest : Later r'' (settle env (resumePrimingAfterSuccess env hs r'' h) h eff reconciles correcting) :=
        (resumePriming_later env hs r'' h).trans (.of_read env _ h.pwmPath)
      obtain ⟨-, ws, hlog, -⟩ := hrest
      refine ⟨r'.bus.tick, Nat.le_trans (Nat.le_succ _) hprime, ?_⟩
      rw [hlog, ← hr'']
      simp [Bus.write]

/-- A correction that lands tells the header its command. -/
theorem command_told {r : HwmonRig} {h : PwmHeaderDescriptor} {pct : Nat} {reconciles : Bool}
    (he : (commandEvent env hs r h pct reconciles).corrected = true) :
    Told h (r.ctrl.raise h.id pct) r (command env hs r h pct reconciles).1 := by
  rw [commandEvent_eq] at he
  dsimp only at he
  split at he
  · next hc =>
    obtain ⟨-, hmanual, -⟩ := coalescible_iff.mp hc
    obtain ⟨ws, hws⟩ := exists_ws hmanual
    have hwatch := (enableReclaimed_later env r h).tick
    rw [command_coalesced hc, dutyDriftRewrite_eq _ _ _ hws, booked_episode] at he ⊢
    dsimp only at he ⊢
    cases hrewrites : (reconcileDecision (driftExpected (booked env r h reconciles) h (r.ctrl.raise h.id pct))
        (driftReadback env (booked env r h reconciles) h) (r.ctrl.episode h.id).drift).1 with
    | correct first =>
      rw [hrewrites] at he
      have hheld (next : DriftState) :
          ((booked env r h reconciles).ctrl.modifyWs h.id ({ · with drift := next })).manualModeSet h.id = true := by
        simpa [HwmonPwmController.manualModeSet, HwmonPwmController.modifyWs, hws] using hmanual
      simp only [DriftEvent.corrected, DriftAction.rewrites, if_true, takeAndWrite, takeUnheld, hheld, Bool.not_true,
        Bool.false_and, Bool.false_eq_true, if_false] at he ⊢
      obtain ⟨t, ht, hmem⟩ := writeDuty_told he
      exact ⟨t, Nat.le_trans (Nat.le_succ_of_le hwatch) ht, hmem⟩
    | coalesce => simp [hrewrites, DriftEvent.corrected] at he
    | recovered b => simp [hrewrites, DriftEvent.corrected] at he
    | giveUp b => simp [hrewrites, DriftEvent.corrected] at he
    | hold => simp [hrewrites, DriftEvent.corrected] at he
  · cases he

theorem setPwm_unreadable {r : HwmonRig} {id leaseId : String} {pct p x : Nat} {a : DriftAction} {landed : Bool}
    (he : .tick p x none a landed ∈ setPwmEvents env hs r id pct leaseId) :
    (setPwm env hs r id pct leaseId).1.ctrl.episode id = r.ctrl.episode id ∧
      (setPwm env hs r id pct leaseId).1.bus.log = r.bus.log := by
  simp only [setPwmEvents, Option.mem_toList, Option.map_eq_some_iff] at he
  obtain ⟨⟨r', h⟩, ha, he⟩ := he
  obtain ⟨hset, hid, hsame, hbus, -⟩ := setPwm_accepted ha
  obtain ⟨hlog, hepisode⟩ := command_unreadable he
  rw [hid, hsame] at hepisode
  rw [hset]
  exact ⟨hepisode, hlog.trans (by rw [hbus])⟩

theorem setPwm_told {r : HwmonRig} {id leaseId : String} {pct : Nat} {e : DriftEvent}
    (he : e ∈ setPwmEvents env hs r id pct leaseId) (hcorrected : e.corrected = true) :
    ∃ t, r.bus.tick ≤ t ∧ ⟨t, id, .duty, Pwm.percentToRaw (r.ctrl.raise id pct)⟩ ∈ (setPwm env hs r id pct leaseId).1.bus.log := by
  simp only [setPwmEvents, Option.mem_toList, Option.map_eq_some_iff] at he
  obtain ⟨⟨r', h⟩, ha, rfl⟩ := he
  obtain ⟨hset, hid, -, hbus, hexit⟩ := setPwm_accepted ha
  obtain ⟨t, ht, hmem⟩ := command_told hcorrected
  rw [hid, HwmonPwmController.raise_congr hexit] at hmem
  rw [hset]
  rw [hbus] at ht
  exact ⟨t, Nat.le_of_succ_le ht, hmem⟩

/-! ## Over a run -/

def cpuFan : Headers :=
  ⟨[⟨"cpu", "nct6798", true, ⟨"hwmon0", "pwm1"⟩, some ⟨"hwmon0", "pwm1_enable"⟩, true, rfl⟩], by decide⟩

/-- A fan in manual mode that reads full speed at the accesses `off`, is unreadable else, and fails the writes `dead`. -/
def driftingFan (off dead : List Nat) : Sysfs :=
  ⟨fun t p => if p.file = "pwm1" then if t ∈ off then some 255 else none else some 1,
    fun t => if t ∈ dead then some "EIO" else none, none⟩

def cpuRig : HwmonRig := .start cpuFan (.withTtl defaultLeaseTtl) ⟨false, false, 0, []⟩ 0

/-- The engine takes the lease, repeats one command `n` times, and then `rest` happens. -/
def heldThen (n : Nat) (rest : List (Nat × HwmonOp)) : List (Nat × HwmonOp) :=
  (0, .lease (.take .engine)) :: List.replicate n (1, .setPwm "cpu" 40 "lease-1") ++ rest

end HwmonRig

end ControlOfc.Hwmon
