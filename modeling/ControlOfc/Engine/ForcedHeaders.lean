import ControlOfc.Engine.ForcedScan
import ControlOfc.Hwmon.ReportRuns
/-! # The forced scan of the hwmon headers (profile_engine/backends.rs:2700-2931, hwmon/pwm_control.rs:447)

The hwmon force takes the lease, goes over its targets one lock at a time, and gives back what nothing names. Before
each lock anyone may have done anything to the controller, a Verify that force-takes the lease among them; a header
whose lease is gone is tried once more under a new one.

Main theorem `forced_reach`.
-/
namespace ControlOfc.Hwmon
open Engine Bus Machine OpenFan

/-! ## The targets -/

/-- `header_order` (pwm_control.rs:440); the headers' `pwm_index` is a parameter. -/
def headerOrder (pwmIndex : PwmHeaderDescriptor → Nat) (a b : PwmHeaderDescriptor) : Prop :=
  a.chipName < b.chipName ∨ a.chipName = b.chipName ∧ pwmIndex a ≤ pwmIndex b

instance (pwmIndex : PwmHeaderDescriptor → Nat) : DecidableRel (headerOrder pwmIndex) := fun a b => by
  unfold headerOrder
  infer_instance

/-- `headers` (pwm_control.rs:793). -/
def Headers.inOrder (hs : Headers) (pwmIndex : PwmHeaderDescriptor → Nat) : List PwmHeaderDescriptor :=
  hs.list.insertionSort (headerOrder pwmIndex)

/-- A slow shared-report chip comes last. -/
def sharedLast (a b : PwmHeaderDescriptor) : Prop := isSharedReportChip a.chipName = true → isSharedReportChip b.chipName = true

instance : DecidableRel sharedLast := fun a b => by
  unfold sharedLast
  infer_instance

instance : Std.Total sharedLast := ⟨fun a b => by
  unfold sharedLast
  cases isSharedReportChip a.chipName <;> simp⟩

instance : IsTrans PwmHeaderDescriptor sharedLast := ⟨fun _ _ _ hab hbc ha => hbc (hab ha)⟩

/-- `forced_target_ids_of` (pwm_control.rs:447), before the ids are taken. -/
def forcedTargets (headers : List PwmHeaderDescriptor) : List PwmHeaderDescriptor :=
  (headers.filter (·.isWritable)).insertionSort sharedLast

/-- The headers of a reach, in the order that they are forced (backends.rs:2880-2883). -/
def Headers.forced (hs : Headers) (pwmIndex : PwmHeaderDescriptor → Nat) (reach : ForceReach) : List PwmHeaderDescriptor :=
  (forcedTargets (hs.inOrder pwmIndex)).filter fun h => reach.reaches (.hwmon h.id)

variable {hs : Headers} {pwmIndex : PwmHeaderDescriptor → Nat} {reach : ForceReach}

theorem mem_forced {h : PwmHeaderDescriptor} :
    h ∈ hs.forced pwmIndex reach ↔ h ∈ hs.list ∧ h.isWritable = true ∧ reach.reaches (.hwmon h.id) = true := by
  simp [Headers.forced, forcedTargets, Headers.inOrder, and_assoc]

theorem forced_nodup : ((hs.forced pwmIndex reach).map (·.id)).Nodup := by
  have hperm : (forcedTargets (hs.inOrder pwmIndex)).Perm (hs.list.filter (·.isWritable)) :=
    (List.perm_insertionSort _ _).trans ((List.perm_insertionSort _ _).filter _)
  have hsub : (hs.list.filter (·.isWritable)).map (·.id) |>.Nodup := hs.nodup.sublist (List.filter_sublist.map _)
  exact ((hperm.map (·.id)).nodup_iff.mpr hsub).sublist (List.filter_sublist.map _)

/-- The headers of a shared-report chip come after all others. -/
theorem forced_sharedLast : (hs.forced pwmIndex reach).Pairwise sharedLast :=
  (List.pairwise_insertionSort sharedLast _).sublist List.filter_sublist

namespace HwmonRig

/-! ## The scan -/

/-- A `set_pwm` of the forced scan, and the rig it finds. -/
structure Attempt where
  rig : HwmonRig
  id : String
  duty : Nat
  leaseId : String
  retry : Bool

/-- `force_take_lease` and `forget_manual_mode`, under one lock. -/
def forceTake (r : HwmonRig) : HwmonRig × String :=
  let taken := r.ctrl.leaseManager.forceTakeLease r.now .thermalSafety
  ({ r with ctrl := { r.ctrl with leaseManager := taken.1 }.forgetManualMode }, taken.2.leaseId)

section Scan

variable (env : Sysfs) (hs : Headers)

def Attempt.result (a : Attempt) : HwmonRig × Except HwmonControlError HwmonSetPwmResult :=
  setPwm env hs a.rig a.id a.duty a.leaseId

/-- One header (backends.rs:2888-2929): a lost lease is taken again, and the header tried once more. -/
def forceHeader (r : HwmonRig) (leaseId : String) (id : String) (duty : Nat) : HwmonRig × String × List Attempt :=
  let first : Attempt := ⟨r, id, duty, leaseId, false⟩
  match first.result env hs with
  | (r', .error (.lease _)) =>
    let taken := r'.forceTake
    let again : Attempt := ⟨taken.1, id, duty, taken.2, true⟩
    ((again.result env hs).1, taken.2, [first, again])
  | (r', _) => (r', leaseId, [first])

variable (others : Nat → HwmonRig → HwmonRig)

/-- The loop over the targets; `others k` is what everyone else has done before its `k`-th lock. -/
def forceScan (duty : String → Nat) : Nat → HwmonRig → String → List String → HwmonRig × String × List Attempt
  | _, r, leaseId, [] => (r, leaseId, [])
  | k, r, leaseId, id :: rest =>
    let one := forceHeader env hs (others k r) leaseId id (duty id)
    let more := forceScan duty (k + 1) one.1 one.2.1 rest
    (more.1, more.2.1, one.2.2 ++ more.2.2)

/-- `taken_ids` (handback.rs:451). -/
def takenIds (r : HwmonRig) : List String :=
  ((hs.list.map (·.id)).filter fun id => (r.ctrl.handback.takenHeader id).isSome).insertionSort (· ≤ ·)

/-- `releasable_no_mode` (pwm_control.rs:655). -/
def releasableNoMode (r : HwmonRig) : List String :=
  if r.cache.verifyActive then []
  else
    ((r.ctrl.engineHeld ++ r.cache.abandonedByDiagnostic.filter fun id => (hs.get? id).any (!·.supportsEnable)).dedup).insertionSort
      (· ≤ ·)

/-- `has_unheld` (backends.rs:2700). -/
def hasUnheld (r : HwmonRig) (members : List Output) : Bool :=
  (takenIds hs r ++ releasableNoMode hs r).any fun id => !members.contains (.hwmon id)

def giveBackEach (give : HwmonRig → String → HwmonRig) : Nat → HwmonRig → List String → HwmonRig
  | _, r, [] => r
  | k, r, id :: rest => giveBackEach give (k + 1) (give (others k r) id) rest

/-- `give_back_unheld` (backends.rs:2716). -/
def giveBackUnheld (k : Nat) (r : HwmonRig) (leaseId : String) (members : List Output) : HwmonRig :=
  let r := others k r
  let unnamed := fun ids : List String => ids.filter fun id => !members.contains (.hwmon id)
  let noMode := unnamed (releasableNoMode hs r)
  let taken := unnamed (takenIds hs r)
  let released := giveBackEach others (fun r id => (releaseNoMode env hs r id leaseId).1) (k + 1) r noMode
  giveBackEach others (fun r id => (handBack env r id leaseId).1) (k + 1 + noMode.length) released taken

/-- What is forced on a header (backends.rs:2892-2900): its held duty is the one before the lease is taken. -/
def headerDuty (r : HwmonRig) (pct : Nat) (commands : List PwmCommand) (reach : ForceReach) (id : String) : Nat :=
  (((commandFloors commands).get? (.hwmon id)).toList ++
    if reach.holds (.hwmon id) then (r.ctrl.lastCommandedPct id).toList else []).foldl max pct

/-- A force has nothing to do: members only, none of them a target, and nothing to give back (backends.rs:2884-2890). -/
def nothingForced (r : HwmonRig) (reach : ForceReach) (targets : List String) : Bool :=
  match reach with
  | .all => false
  | .profileMembers members giveBack _ => targets.isEmpty && !(giveBack && hasUnheld hs r members)

/-- The closure of `force_all_with_floor` (backends.rs:2850-2931). -/
def forceAllWithFloor (pwmIndex : PwmHeaderDescriptor → Nat) (pct : Nat) (commands : List PwmCommand) (reach : ForceReach)
    (r : HwmonRig) : HwmonRig × List Attempt :=
  let targets := (hs.forced pwmIndex reach).map (·.id)
  if nothingForced hs r reach targets then (r, [])
  else
    let taken := r.forceTake
    let scan := forceScan env hs others (headerDuty r pct commands reach) 0 taken.1 taken.2 targets
    (match reach with
      | .profileMembers members true _ => giveBackUnheld env hs others targets.length scan.1 scan.2.1 members
      | _ => scan.1,
      scan.2.2)

end Scan

/-! ## What it attempts -/

/-- Each header once, and at most once more, at the same duty. -/
inductive Attempted (duty : String → Nat) : List String → List Attempt → Prop where
  | nil : Attempted duty [] []
  | once {a : Attempt} {ids : List String} {rest : List Attempt} (hd : a.duty = duty a.id) (hr : a.retry = false)
    (h : Attempted duty ids rest) : Attempted duty (a.id :: ids) (a :: rest)
  | twice {a b : Attempt} {ids : List String} {rest : List Attempt} (hd : a.duty = duty a.id) (hr : a.retry = false)
    (hid : b.id = a.id) (hd' : b.duty = a.duty) (hr' : b.retry = true) (h : Attempted duty ids rest) :
    Attempted duty (a.id :: ids) (a :: b :: rest)

theorem Attempted.firsts {duty : String → Nat} {ids : List String} {as : List Attempt} (h : Attempted duty ids as) :
    (as.filter (!·.retry)).map (·.id) = ids := by
  induction h with
  | nil => rfl
  | once _ hr _ ih => simp [hr, ih]
  | twice _ hr _ _ hr' _ ih => simp [hr, hr', ih]

theorem Attempted.duty {duty : String → Nat} {ids : List String} {as : List Attempt} (h : Attempted duty ids as) :
    ∀ a ∈ as, a.id ∈ ids ∧ a.duty = duty a.id := by
  induction h with
  | nil => nofun
  | once hd _ _ ih =>
    intro a ha
    rcases List.mem_cons.mp ha with rfl | ha
    · exact ⟨List.mem_cons_self, hd⟩
    · exact ⟨List.mem_cons_of_mem _ (ih a ha).1, (ih a ha).2⟩
  | twice hd _ hid hd' _ _ ih =>
    intro a ha
    rcases List.mem_cons.mp ha with rfl | ha
    · exact ⟨List.mem_cons_self, hd⟩
    · rcases List.mem_cons.mp ha with rfl | ha
      · rw [hid, hd', hd]
        exact ⟨List.mem_cons_self, rfl⟩
      · exact ⟨List.mem_cons_of_mem _ (ih a ha).1, (ih a ha).2⟩

variable {env : Sysfs} {hs : Headers} {others : Nat → HwmonRig → HwmonRig}

theorem forceScan_attempted (duty : String → Nat) (ids : List String) (k : Nat) (r : HwmonRig) (leaseId : String) :
    Attempted duty ids (forceScan env hs others duty k r leaseId ids).2.2 := by
  induction ids generalizing k r leaseId with
  | nil => exact .nil
  | cons id rest ih =>
    unfold forceScan
    dsimp only
    generalize others k r = r'
    unfold forceHeader
    dsimp only
    split
    · exact .twice (a := ⟨r', id, duty id, leaseId, false⟩) rfl rfl rfl rfl rfl (ih _ _ _)
    · exact .once (a := ⟨r', id, duty id, leaseId, false⟩) rfl rfl (ih _ _ _)

theorem headerDuty_eq (r : HwmonRig) (pct : Nat) (commands : List PwmCommand) (reach : ForceReach) (id : String) :
    headerDuty r pct commands reach id =
      forcedDuty pct commands (.hwmon id) (reach.holds (.hwmon id)) (r.ctrl.lastCommandedPct id) := by
  unfold headerDuty forcedDuty
  rw [commandFloors_eq]
  cases lastCommand commands (.hwmon id) <;>
    cases reach.holds (.hwmon id) <;>
    cases r.ctrl.lastCommandedPct id <;>
    simp

theorem nothingForced_targets {r : HwmonRig} {reach : ForceReach} {targets : List String}
    (h : nothingForced hs r reach targets = true) : targets = [] := by
  cases reach with
  | all => cases h
  | profileMembers members giveBack held =>
    simp only [nothingForced, Bool.and_eq_true, List.isEmpty_iff] at h
    exact h.1

/-- The closure attempts its targets, each at the duty it worked out at the start. -/
theorem force_attempted (pwmIndex : PwmHeaderDescriptor → Nat) (pct : Nat) (commands : List PwmCommand) (reach : ForceReach)
    (r : HwmonRig) :
    Attempted (headerDuty r pct commands reach) ((hs.forced pwmIndex reach).map (·.id))
      (forceAllWithFloor env hs others pwmIndex pct commands reach r).2 := by
  unfold forceAllWithFloor
  dsimp only
  split
  · next hnothing =>
    rw [nothingForced_targets hnothing]
    exact .nil
  · exact forceScan_attempted _ _ _ _ _

/-! ## What an attempt writes -/

/-- A write of a `set_pwm` to a header: to the header itself, or to a sibling on its device that it primes. -/
def Reaches (hs : Headers) (h : PwmHeaderDescriptor) (w : SysfsWrite) : Prop := w.header = h.id ∨ Primes hs h w

variable {h : PwmHeaderDescriptor}

theorem wrote_of_primes {b b' : Bus} (hw : Wrote (Primes hs h) b b') : Wrote (Reaches hs h) b b' := hw.mono fun _ => .inr

theorem writeDuty_reaches (r : HwmonRig) (eff : Nat) (reconciles correcting : Bool) :
    Wrote (Reaches hs h) r.bus (writeDuty env hs r h eff reconciles correcting).1.bus := by
  have hmark : Wrote (Reaches hs h) r.bus (r.bus.check env).2 := wrote_check env _
  unfold writeDuty
  dsimp only
  split
  · exact hmark
  · have hprimed := hmark.trans (wrote_of_primes (prime_kept env { r with
      ctrl := r.ctrl.recordNoMode h none, bus := (r.bus.check env).2 } h).wrote)
    have hwritten := hprimed.trans (wrote_write env _ h.id h.pwmPath .duty (Pwm.percentToRaw eff) (.inl rfl))
    split
    · exact hwritten
    · have hresumed (r' : HwmonRig) : Wrote (Reaches hs h) r'.bus (resumePrimingAfterSuccess env hs r' h).bus :=
        wrote_of_primes (resumePriming_kept env r' h).wrote
      exact (hwritten.trans (hresumed ⟨_, _, _, _⟩)).trans (wrote_read env _ h.pwmPath)

theorem takeAndWrite_reaches (r : HwmonRig) (eff : Nat) (reconciles correcting : Bool) :
    Wrote (Reaches hs h) r.bus (takeAndWrite env hs r h eff reconciles correcting).1.bus := by
  have htake : Wrote (Reaches hs h) r.bus (takeUnheld env r h).2.bus := by
    unfold takeUnheld
    split
    · unfold takeMode
      split
      · exact .refl _
      · next ep _ =>
        have hmark := (readOriginal_wrote (P := Reaches hs h) env r h ep).trans (wrote_check env _)
        dsimp only
        split
        · exact hmark
        · exact hmark.trans (wrote_write env _ h.id ep .enable pwmEnableManual (.inl rfl))
    · exact .refl _
  unfold takeAndWrite
  dsimp only
  split
  · exact htake
  · exact htake.trans (writeDuty_reaches _ eff reconciles correcting)

theorem command_reaches (r : HwmonRig) (pct : Nat) (reconciles : Bool) :
    Wrote (Reaches hs h) r.bus (command env hs r h pct reconciles).1.bus := by
  have hwatch : Kept hs (Reaches hs h) r (enableReclaimed env r h).2 := enableReclaimed_kept env r h
  have hbook : Wrote (Reaches hs h) r.bus (booked env r h reconciles).bus := hwatch.wrote
  by_cases hc : coalescible (booked env r h reconciles) h (r.ctrl.raise h.id pct) reconciles = true
  · have hdrift : Kept hs (Reaches hs h) (booked env r h reconciles)
        (dutyDriftRewrite env (booked env r h reconciles) h (r.ctrl.raise h.id pct)).2 := dutyDriftRewrite_kept env _ h _
    rw [command_coalesced hc]
    dsimp only
    split
    · exact (hbook.trans hdrift.wrote).trans (takeAndWrite_reaches _ _ reconciles true)
    · exact hbook.trans hdrift.wrote
  · rw [command_plain hc]
    exact hbook.trans (takeAndWrite_reaches _ _ reconciles false)

/-- A `set_pwm` writes its own header, and what it primes. -/
theorem setPwm_wrote (env : Sysfs) (r : HwmonRig) (id leaseId : String) (pct : Nat) :
    Wrote (fun w => w.header = id ∨ ∃ h, hs.get? id = some h ∧ Primes hs h w) r.bus (setPwm env hs r id pct leaseId).1.bus := by
  cases ha : accepted env hs r id pct leaseId with
  | none =>
    exact ⟨(setPwm_later env hs r id pct leaseId).tick, [], by simp [(setPwm_unaccepted ha).2], nofun⟩
  | some found =>
    obtain ⟨r', h⟩ := found
    obtain ⟨hset, hid, -, hbus, -⟩ := setPwm_accepted ha
    have hmark : Wrote (Reaches hs h) r.bus r'.bus := hbus ▸ wrote_check env r.bus
    have hall := hmark.trans (@command_reaches env hs h r' pct (r.reconciles leaseId))
    rw [← hset] at hall
    refine hall.mono fun w hw => ?_
    rcases hw with hw | hw
    · exact .inl (hw.trans hid)
    · exact .inr ⟨h, accepted_header ha, hw⟩

/-- A write of a scan of `ids`, or of someone in between. -/
def ScanReaches (hs : Headers) (ids : List String) (w : SysfsWrite) : Prop :=
  ∃ id ∈ ids, w.header = id ∨ ∃ h, hs.get? id = some h ∧ Primes hs h w

theorem Attempt.wrote (a : Attempt) {ids : List String} (ha : a.id ∈ ids) :
    Wrote (ScanReaches hs ids) a.rig.bus (a.result env hs).1.bus :=
  (setPwm_wrote env a.rig a.id a.leaseId a.duty).mono fun _ hw => ⟨a.id, ha, hw⟩

/-- With nobody writing in between, a scan writes its own headers, and what they prime. -/
theorem forceScan_wrote (hquiet : ∀ k r, (others k r).bus = r.bus) (duty : String → Nat) (ids all : List String)
    (hall : ∀ id ∈ ids, id ∈ all) (k : Nat) (r : HwmonRig) (leaseId : String) :
    Wrote (ScanReaches hs all) r.bus (forceScan env hs others duty k r leaseId ids).1.bus := by
  induction ids generalizing k r leaseId with
  | nil => exact .refl _
  | cons id rest ih =>
    have hid : id ∈ all := hall id List.mem_cons_self
    have hone : Wrote (ScanReaches hs all) r.bus (forceHeader env hs (others k r) leaseId id (duty id)).1.bus := by
      rw [← hquiet k r]
      generalize others k r = r'
      let first : Attempt := ⟨r', id, duty id, leaseId, false⟩
      have hfirst := @Attempt.wrote env hs first all hid
      unfold forceHeader
      dsimp only
      split
      · next r'' e heq =>
        rw [show first.result env hs = _ from heq] at hfirst
        exact hfirst.trans (Attempt.wrote ⟨r''.forceTake.1, id, duty id, r''.forceTake.2, true⟩ hid)
      · next heq =>
        rw [show first.result env hs = _ from heq] at hfirst
        exact hfirst
    exact hone.trans (ih (fun id hid => hall id (List.mem_cons_of_mem _ hid)) _ _ _)

/-! ## The reach -/

theorem forDuty_reaches (pct : Nat) (members : ProfileMembers) (held : HeldMembers) (latched : Bool) (out : Output) :
    (ForceReach.forDuty pct members held latched).reaches out = (decide (100 ≤ pct) || members.contains out) := by
  unfold ForceReach.forDuty
  split
  · next hfull => simp [ForceReach.reaches, hfull]
  · next hbelow => simp [ForceReach.reaches, hbelow]

theorem forDuty_holds (pct : Nat) (members : ProfileMembers) (held : HeldMembers) (latched : Bool) (out : Output) :
    (ForceReach.forDuty pct members held latched).holds out = (decide (pct < 100) && held.members.contains out) := by
  unfold ForceReach.forDuty
  split
  · next hfull => simp [ForceReach.holds, Nat.not_lt_of_le hfull]
  · next hbelow => simp [ForceReach.holds, Nat.lt_of_not_le hbelow]

/-- Without a give-back, the closure is its scan. -/
theorem force_wrote (hquiet : ∀ k r, (others k r).bus = r.bus) (pwmIndex : PwmHeaderDescriptor → Nat) (pct : Nat)
    (commands : List PwmCommand) {reach : ForceReach} (hreach : ∀ members held, reach ≠ .profileMembers members true held)
    (r : HwmonRig) :
    Wrote (ScanReaches hs ((hs.forced pwmIndex reach).map (·.id))) r.bus
      (forceAllWithFloor env hs others pwmIndex pct commands reach r).1.bus := by
  unfold forceAllWithFloor
  dsimp only
  split
  · exact .refl _
  · split
    · exact absurd rfl (hreach _ _)
    · exact forceScan_wrote hquiet (headerDuty r pct commands reach) _ _ (fun _ hid => hid) 0 r.forceTake.1 r.forceTake.2

theorem forDuty_noGiveBack {pct : Nat} {members : ProfileMembers} {held : HeldMembers} {latched : Bool}
    (h : latched = true ∨ 100 ≤ pct) (members' : ProfileMembers) (held' : HeldMembers) :
    ForceReach.forDuty pct members held latched ≠ .profileMembers members' true held' := by
  unfold ForceReach.forDuty
  split
  · nofun
  · next hbelow =>
    have hlatched : latched = true := h.resolve_right hbelow
    simp [hlatched]

/-- A forced tick, at `pct` percent, over a profile with these members, some of them held. Its OpenFan scan calls each
channel of the reach once, in order; its hwmon scan attempts each writable header of the reach once, and at most once
more at the same duty. From 100 % the reach is every output; below, the members, and nothing else is written but the
siblings on a member's shared-report device, and what the give-back gives. -/
theorem forced_reach (pct : Nat) (commands : List PwmCommand) (members : ProfileMembers) (held : HeldMembers)
    (latched : Bool) :
    let reach := ForceReach.forDuty pct members held latched
    let reached := fun out : Output => decide (100 ≤ pct) || members.contains out
    let holds := fun out : Output => decide (pct < 100) && held.members.contains out
    (∀ (s : EmergencyBackend) (es : List EmergencyEvent),
      let f := openfanForce pct commands reach
      let channels := (List.finRange numChannels).filter fun i : Ch => reached (.openfan (i : Nat))
      let calls := (trace EmergencyBackend.step EmergencyBackend.forcedCalls s es).flatten
      s.task = .start (.force f) →
        Along EmergencyBackend.step (fun s _ => Scanning f s.task ∧ s.suspended = false) s es →
          calls.map (·.channel) <+: channels ∧
            (¬ Scanning f (run EmergencyBackend.step s es).task → calls.map (·.channel) = channels) ∧
            ∀ c ∈ calls, pct ≤ c.duty ∧
              c.duty = forcedDuty pct commands (.openfan c.channel) (holds (.openfan c.channel))
                (c.port.lastKnownDuty c.channel) ∧
              ∃ pre e post, es = pre ++ e :: post ∧ c.port = (run EmergencyBackend.step s pre).port ∧
                (run EmergencyBackend.step s (pre ++ [e])).port = c.port.call c.channel c.duty) ∧
      (∀ (env : Sysfs) (hs : Headers) (others : Nat → HwmonRig → HwmonRig) (pwmIndex : PwmHeaderDescriptor → Nat)
          (r : HwmonRig),
        let headers := hs.forced pwmIndex reach
        let force := forceAllWithFloor env hs others pwmIndex pct commands reach r
        (headers.map (·.id)).Nodup ∧
          (∀ h, h ∈ headers ↔ h ∈ hs.list ∧ h.isWritable = true ∧ reached (.hwmon h.id) = true) ∧
          headers.Pairwise sharedLast ∧
          Attempted
            (fun id => forcedDuty pct commands (.hwmon id) (holds (.hwmon id)) (r.ctrl.lastCommandedPct id))
            (headers.map (·.id)) force.2 ∧
          (force.2.filter (!·.retry)).map (·.id) = headers.map (·.id) ∧
          (∀ a ∈ force.2, pct ≤ a.duty ∧
            ∀ w ∈ a.rig.bus.since (a.result env hs).1.bus, ScanReaches hs (headers.map (·.id)) w) ∧
          (latched = true ∨ 100 ≤ pct → (∀ k r, (others k r).bus = r.bus) →
            ∀ w ∈ r.bus.since force.1.bus, ScanReaches hs (headers.map (·.id)) w)) ∧
      (∀ (out : Output) (known : Option Nat), 100 ≤ pct → (∀ d, known = some d → d ≤ 100) →
        forcedDuty pct commands out (holds out) known = forcedDuty pct commands out (held.members.contains out) known) := by
  intro reach reached holds
  have hreached : reach.reaches = reached := funext (forDuty_reaches pct members held latched)
  have hholds : reach.holds = holds := funext (forDuty_holds pct members held latched)
  refine ⟨?_, ?_, fun out known hfull hknown => forcedDuty_full hfull commands out _ _ hknown⟩
  · intro s es f channels calls hstart halong
    obtain ⟨hcalls, hduties, hend⟩ := EmergencyBackend.scan_calls hstart halong
    have hchannels : f.targets = channels := (openfanForce_targets pct commands reach).trans (by rw [hreached])
    rw [hchannels] at hcalls
    refine ⟨⟨_, hcalls⟩, fun hdone => ?_, fun c hc => ?_⟩
    · rw [hend.resolve_left hdone, List.append_nil] at hcalls
      exact hcalls
    · have hduty := (hduties c hc).trans (openfanForce_duty pct commands reach c.port c.channel)
      rw [hholds] at hduty
      exact ⟨hduty ▸ le_forcedDuty _ _ _ _ _, hduty, EmergencyBackend.forcedCall_run hc⟩
  · intro env hs others pwmIndex r headers force
    have hduty : headerDuty r pct commands reach =
        fun id => forcedDuty pct commands (.hwmon id) (holds (.hwmon id)) (r.ctrl.lastCommandedPct id) := by
      funext id
      rw [headerDuty_eq, hholds]
    have hattempted := @force_attempted env hs others pwmIndex pct commands reach r
    rw [hduty] at hattempted
    refine ⟨forced_nodup, fun h => ?_, forced_sharedLast, hattempted, hattempted.firsts, fun a ha => ?_, fun hgive hquiet => ?_⟩
    · rw [mem_forced, hreached]
    · obtain ⟨hid, hduty⟩ := hattempted.duty a ha
      exact ⟨hduty ▸ le_forcedDuty _ _ _ _ _, (Attempt.wrote a hid).since⟩
    · exact (force_wrote hquiet pwmIndex pct commands (forDuty_noGiveBack hgive) r).since

/-- A force behind a write in flight is dropped at the end of its budget; and a fan forced to 40 % primes the pump on its
device, which no profile names. -/
theorem forced_past_members :
    (let f := openfanForce 40 [] (ForceReach.forDuty 40 [.openfan 1] ⟨[]⟩ true)
      let q : Port := ⟨.new, ⟨0, .empty⟩, 0, false, none, []⟩
      let es := [.tick ⟨[(0, 40)], []⟩ fun _ => false, .issue, .force f, .drop]
      f.targets = [1] ∧ Along EmergencyBackend.step (fun s _ => s.suspended = false) (.start q 0) es ∧
        (trace EmergencyBackend.step EmergencyBackend.forcedCalls (.start q 0) es).flatten.length = 0 ∧
        (run EmergencyBackend.step (.start q 0) es).queued.isNone = true) ∧
      let rig : HwmonRig := .start arcticFans (.withTtl defaultLeaseTtl) ⟨false, false, 0, []⟩ 0
      let force := forceAllWithFloor (arcticFiles 0) arcticFans (fun _ r => r) (fun _ => 0) 40 []
        (ForceReach.forDuty 40 [.hwmon "rear"] ⟨[]⟩ true) rig
      ∃ w ∈ rig.bus.since force.1.bus, w.header = "pump" := by
  decide

end HwmonRig

end ControlOfc.Hwmon
