import ControlOfc.Engine.Run
import ControlOfc.Profile.Validate
/-! # The pump and CPU floor over runs

The floor is step 2 of the pipeline, the step rate is step 3 and runs against a tracker that outlives a
role change. `hardFloor_run`: the floor holds at every tick of a run iff at every tick each hard member's
tracker can reach it.
-/
namespace ControlOfc.Engine
open Profile Override

variable {p : DaemonProfile ℚ} {sensors : Sensors} {o : OverrideSnapshot} {prot : Protection}

/-- The command of a hard member not under identify is at least its rounded floor. -/
def FloorHeld (prot : Protection) (o : OverrideSnapshot) (control : LogicalControl ℚ) (member : ControlMember)
    (cmd : PwmCommand) : Prop :=
  o.identify.get? member.memberId = none → floorIsHard member prot = true →
    roundF64 (memberEffectiveFloor control member prot) ≤ cmd.pwmPercent

/-- The same of all commands of a visit, after the identify pass. -/
def FloorsHeldIn (prot : Protection) (o : OverrideSnapshot) (v : Visit) : Prop :=
  ∀ (k : Nat) member cmd, v.control.members[k]? = some member → (applyIdentify o v.commands)[k]? = some cmd →
    FloorHeld prot o v.control member cmd

/-- A hard member about to be tuned can reach its floor from its tracker. -/
def MemberReaches (prot : Protection) (o : OverrideSnapshot) (l : MemberLoop) (lastOutput : KMap String ℚ)
    (member : ControlMember) : Prop :=
  o.identify.get? member.memberId = none → floorIsHard member prot = true →
    FloorReached l.control (lastOutput.get? (l.key member)) (memberEffectiveFloor l.control member prot)

/-- The same of all members of a control about to be visited: none is tuned where the control is pinned or
skipped. -/
def ControlReaches (p : DaemonProfile ℚ) (sensors : Sensors) (prot : Protection) (o : OverrideSnapshot) (acc : TickAcc)
    (idx : Nat) : Prop :=
  ∀ control, p.controls[idx]? = some control → o.controls.get? control.id = none →
    ∀ raw, (rawOutput p sensors control acc.tickOutputs acc.state).value = .ok raw →
      let s := (rawOutput p sensors control acc.tickOutputs acc.state).state
      let tuned := applyTuning control raw (s.lastOutput.get? control.id)
      let l : MemberLoop := ⟨control, raw, roundPct tuned, prot⟩
      Machine.Along l.step (MemberReaches prot o l) (s.lastOutput.insert control.id tuned) control.members

/-! ## One member, one control -/

theorem identified_of_none {cmd : PwmCommand} (h : o.identify.get? cmd.memberId = none) : identified o cmd = cmd := by
  unfold identified
  rw [h]

theorem floorHeld_command {l : MemberLoop} (hl : l.protection = prot) (hrange : ControlRanges l.control)
    (lastOutput : KMap String ℚ) (member : ControlMember) :
    FloorHeld prot o l.control member (identified o (l.command lastOutput member)) ↔
      MemberReaches prot o l lastOutput member := by
  unfold FloorHeld MemberReaches
  refine imp_congr_right fun hid => imp_congr_right fun hhard => ?_
  have hmin := hard_le_effectiveFloor l.control hhard
  have hmax := effectiveFloor_le member prot hrange.minimum.2
  rw [identified_of_none (show o.identify.get? (l.command lastOutput member).memberId = none from hid)]
  rw [← hardFloor_tuned l.control l.rawOutput (lastOutput.get? (l.key member)) (by linarith)]
  rw [← roundPct_of_mem (by linarith) hmax]
  have htracked : l.tracked member = true := by
    unfold MemberLoop.tracked
    rw [hl, hhard, Bool.or_true]
  unfold MemberLoop.command MemberLoop.tuned
  dsimp only
  rw [if_pos htracked, hl, hhard]
  exact Int.ofNat_le

theorem floorsHeld_members {l : MemberLoop} (hl : l.protection = prot) (hrange : ControlRanges l.control)
    (lastOutput : KMap String ℚ) (members : List ControlMember) :
    (∀ (k : Nat) member cmd, members[k]? = some member →
        (applyIdentify o (Machine.trace l.step l.command lastOutput members))[k]? = some cmd →
        FloorHeld prot o l.control member cmd) ↔
      Machine.Along l.step (MemberReaches prot o l) lastOutput members := by
  rw [← Machine.along_congr fun s m => floorHeld_command (o := o) hl hrange s m]
  rw [← Machine.forall_trace_iff l.step l.command fun m cmd => FloorHeld prot o l.control m (identified o cmd)]
  rw [applyIdentify_eq]
  constructor
  · intro h k member cmd hk hcmd
    refine h k member (identified o cmd) hk ?_
    rw [List.getElem?_map, hcmd, Option.map_some]
  · intro h k member cmd hk hcmd
    rw [List.getElem?_map] at hcmd
    obtain ⟨cmd', hcmd', rfl⟩ := Option.map_eq_some_iff.mp hcmd
    exact h k member cmd' hk hcmd'

theorem floorHeld_override {control : LogicalControl ℚ} (hrange : ControlRanges control) (pct : Nat)
    (member : ControlMember) : FloorHeld prot o control member (identified o (overrideCommand control prot pct member)) := by
  intro hid hhard
  have hmin := hard_le_effectiveFloor control hhard
  have hmax := effectiveFloor_le member prot hrange.minimum.2
  rw [identified_of_none (show o.identify.get? (overrideCommand control prot pct member).memberId = none from hid)]
  rw [← roundPct_of_mem (by linarith) hmax]
  exact Int.ofNat_le.mpr (roundPct_mono (le_max_right _ _))

theorem floorsHeldIn_iff {acc : TickAcc} {v : Visit} (hfrom : VisitFrom p sensors o acc v)
    (hprot : acc.state.protection = prot) (hrange : ControlRanges v.control) :
    FloorsHeldIn prot o v ↔ ControlReaches p sensors prot o acc v.idx := by
  have hsetup := (rawOutput_frame p sensors v.control acc.tickOutputs acc.state).toSameSetup
  unfold FloorsHeldIn
  rw [hfrom.commands]
  unfold controlStep
  cases ho : o.controls.get? v.control.id with
  | some pct =>
    -- a pinned control takes the larger of the override and the floor
    constructor
    · intro _ control hcontrol hnone
      obtain rfl := Option.some.inj (hfrom.control.symm.trans hcontrol)
      rw [ho] at hnone
      cases hnone
    · intro _ k member cmd hk hcmd
      rw [applyIdentify_eq, List.getElem?_map, List.getElem?_map, hk] at hcmd
      obtain rfl := Option.some.inj hcmd
      rw [hprot]
      exact floorHeld_override hrange pct member
  | none =>
    dsimp only
    cases hraw : (rawOutput p sensors v.control acc.tickOutputs acc.state).value with
    | error reason =>
      constructor
      · intro _ control hcontrol _ raw hok
        obtain rfl := Option.some.inj (hfrom.control.symm.trans hcontrol)
        rw [hraw] at hok
        cases hok
      · intro _ k member cmd _ hcmd
        cases hcmd
    | ok raw =>
      have hl : (rawOutput p sensors v.control acc.tickOutputs acc.state).state.protection = prot := by
        rw [hsetup.protection, hprot]
      dsimp only [tuneControl]
      rw [floorsHeld_members hl hrange, hl]
      constructor
      · intro h control hcontrol _ raw' hok
        obtain rfl := Option.some.inj (hfrom.control.symm.trans hcontrol)
        rw [hraw] at hok
        cases hok
        exact h
      · intro h
        exact h v.control hfrom.control ho raw hraw

/-! ## One tick, one run -/

theorem floorsHeld_loop (sensors : Sensors) (o : OverrideSnapshot) (s : ProfileEngineState) (hranges : ∀ c ∈ p.controls, ControlRanges c) (order : List Nat) :
    (∀ v ∈ (loop p sensors o s order).visits, FloorsHeldIn s.protection o v) ↔
      Machine.Along (visitControl p sensors o) (ControlReaches p sensors s.protection o) ⟨s, .empty, []⟩ order := by
  induction order using List.reverseRecOn with
  | nil => simp
  | append_singleton order idx ih =>
    have hprot : (loop p sensors o s order).state.protection = s.protection := (loop_setup s order).protection
    rw [Machine.along_append, ← ih, loop_snoc, Machine.along_cons, and_iff_left (Machine.along_nil _ _ _)]
    change _ ↔ _ ∧ ControlReaches p sensors s.protection o (loop p sensors o s order) idx
    rcases visitControl_cases (p := p) (loop p sensors o s order) idx with ⟨hnone, h⟩ | ⟨v, rfl, hfrom, hvs, -, -⟩
    · rw [h]
      refine (and_iff_left fun control hcontrol => ?_).symm
      rw [hnone] at hcontrol
      cases hcontrol
    · rw [hvs, ← floorsHeldIn_iff hfrom hprot (hranges v.control (List.mem_of_getElem? hfrom.control))]
      simp only [List.mem_append, List.mem_singleton, or_imp, forall_and, forall_eq]

/-- At an evaluation, every command of a hard member not under identify is at least its rounded floor. -/
def FloorsHeld (p : DaemonProfile ℚ) (s : ProfileEngineState) : EngineEvent → Prop
  | .evaluate sensors o => ∀ v ∈ (evaluateProfileWithOverrides p sensors s o).visits, FloorsHeldIn s.protection o v
  | _ => True

/-- At an evaluation, every hard member that is tuned can reach its floor from its tracker. -/
def TrackersReach (p : DaemonProfile ℚ) (s : ProfileEngineState) : EngineEvent → Prop
  | .evaluate sensors o =>
    Machine.Along (visitControl p sensors o) (ControlReaches p sensors s.protection o) ⟨s.prepare p, .empty, []⟩
      (s.prepare p).evalOrder
  | _ => True

theorem floorsHeld_iff (hchecked : checkNumericRanges p = .ok ()) (s : ProfileEngineState) (e : EngineEvent) :
    FloorsHeld p s e ↔ TrackersReach p s e := by
  cases e with
  | evaluate sensors o =>
    have h := floorsHeld_loop sensors o (s.prepare p) (fun c hc => controlRanges_of_checked hchecked hc)
      (s.prepare p).evalOrder
    rw [prepare_protection] at h
    exact h
  | install _ _ _ => exact Iff.rfl
  | resetControl _ => exact Iff.rfl
  | resetForForcedTick => exact Iff.rfl
  | deactivate => exact Iff.rfl

/-! ## Trackers that no two members share

Where every tracker has its own key, an evaluation keeps "each tracker reaches its floor", whatever the
sensors, overrides and tuning fields are; only a change of roles or header facts can break it.
-/

/-- The members of a profile with their controls. -/
def boundMembers (p : DaemonProfile ℚ) : List (LogicalControl ℚ × ControlMember) :=
  p.controls.flatMap fun c => c.members.map fun m => (c, m)

def trackerKey (b : LogicalControl ℚ × ControlMember) : String := ProfileEngineState.memberKey b.1.id b.2.memberId

/-- No two members share a tracker, and none shares its key with a control. -/
structure SeparateKeys (p : DaemonProfile ℚ) : Prop where
  nodup : ((boundMembers p).map trackerKey).Nodup
  notControl : ∀ c ∈ p.controls, c.id ∉ (boundMembers p).map trackerKey

instance (p : DaemonProfile ℚ) : Decidable (SeparateKeys p) :=
  decidable_of_iff (((boundMembers p).map trackerKey).Nodup ∧ ∀ c ∈ p.controls, c.id ∉ (boundMembers p).map trackerKey)
    ⟨fun h => ⟨h.1, h.2⟩, fun h => ⟨h.1, h.2⟩⟩

/-- Every hard member's tracker, if it has one, reaches its floor. -/
def AllReach (p : DaemonProfile ℚ) (prot : Protection) (lastOutput : KMap String ℚ) : Prop :=
  ∀ b ∈ boundMembers p, floorIsHard b.2 prot = true →
    FloorReached b.1 (lastOutput.get? (trackerKey b)) (memberEffectiveFloor b.1 b.2 prot)

theorem mem_boundMembers {c : LogicalControl ℚ} {m : ControlMember} (hc : c ∈ p.controls) (hm : m ∈ c.members) :
    (c, m) ∈ boundMembers p :=
  List.mem_flatMap.mpr ⟨c, hc, List.mem_map.mpr ⟨m, hm, rfl⟩⟩

theorem allReach_empty (prot : Protection) : AllReach p prot .empty := fun _ _ _ => trivial

theorem AllReach.insert_control (hkeys : SeparateKeys p) {lastOutput : KMap String ℚ} (h : AllReach p prot lastOutput)
    {c : LogicalControl ℚ} (hc : c ∈ p.controls) (x : ℚ) : AllReach p prot (lastOutput.insert c.id x) := by
  intro b hb hhard
  have hne : trackerKey b ≠ c.id := by
    intro heq
    exact hkeys.notControl c hc (heq ▸ List.mem_map.mpr ⟨b, hb, rfl⟩)
  rw [KMap.get?_insert_of_ne _ _ hne]
  exact h b hb hhard

theorem floorReached_of_le {control : LogicalControl ℚ} {floor tuned : ℚ} (h : roundPct floor ≤ roundPct tuned) :
    FloorReached control (some tuned) floor :=
  .inl (h.trans (roundPct_mono (by linarith [le_max_right control.stepUpPct 0])))

/-- One member: its own tracker reaches its floor again, no other changes. -/
theorem AllReach.step (hkeys : SeparateKeys p) {l : MemberLoop} (hl : l.protection = prot) (hc : l.control ∈ p.controls)
    {lastOutput : KMap String ℚ} (h : AllReach p prot lastOutput) {member : ControlMember}
    (hm : member ∈ l.control.members) : AllReach p prot (l.step lastOutput member) := by
  unfold MemberLoop.step
  split
  · have hmem := mem_boundMembers hc hm
    intro b hb hhard
    by_cases hkey : trackerKey b = trackerKey (l.control, member)
    · obtain rfl := List.inj_on_of_nodup_map hkeys.nodup hb hmem hkey
      rw [show l.key member = trackerKey (l.control, member) from rfl, KMap.get?_insert_self]
      refine floorReached_of_le ?_
      have hfloor := hard_le_effectiveFloor l.control hhard
      unfold MemberLoop.tuned
      rw [hl, show floorIsHard member prot = true from hhard]
      exact (hardFloor_tuned _ _ _ (by linarith)).mpr (h _ hmem hhard)
    · rw [show l.key member = trackerKey (l.control, member) from rfl, KMap.get?_insert_of_ne _ _ hkey]
      exact h b hb hhard
  · exact h

theorem AllReach.members (hkeys : SeparateKeys p) {l : MemberLoop} (hl : l.protection = prot) (hc : l.control ∈ p.controls)
    {lastOutput : KMap String ℚ} (h : AllReach p prot lastOutput) :
    Machine.Along l.step (MemberReaches prot o l) lastOutput l.control.members ∧
      AllReach p prot (Machine.run l.step lastOutput l.control.members) := by
  refine Machine.along_of_inv (fun lastOutput member hm h => ⟨fun _ hhard => ?_, h.step hkeys hl hc hm⟩) lastOutput h
  exact h _ (mem_boundMembers hc hm) hhard

/-- One control: every member it tunes can reach its floor, and afterwards all still can. -/
theorem AllReach.control (sensors : Sensors) (o : OverrideSnapshot) (hkeys : SeparateKeys p) {acc : TickAcc} (hprot : acc.state.protection = prot)
    (h : AllReach p prot acc.state.lastOutput) (idx : Nat) :
    ControlReaches p sensors prot o acc idx ∧ AllReach p prot (visitControl p sensors o acc idx).state.lastOutput := by
  have hframe := fun control => rawOutput_frame p sensors control acc.tickOutputs acc.state
  constructor
  · intro control hcontrol _ raw _
    have hc := List.mem_of_getElem? hcontrol
    dsimp only
    rw [(hframe control).lastOutput]
    exact ((h.insert_control hkeys hc _).members hkeys rfl hc).1
  · rcases visitControl_cases (p := p) acc idx with ⟨-, heq⟩ | ⟨v, -, hfrom, -, hstate, -⟩
    · rw [heq]
      exact h
    · rw [hstate]
      have hc := List.mem_of_getElem? hfrom.control
      unfold controlStep
      cases o.controls.get? v.control.id with
      | some pct => exact h
      | none =>
        dsimp only
        cases (rawOutput p sensors v.control acc.tickOutputs acc.state).value with
        | error reason =>
          dsimp only
          rw [(hframe v.control).lastOutput]
          exact h
        | ok raw =>
          dsimp only [tuneControl]
          rw [(hframe v.control).protection, hprot, (hframe v.control).lastOutput]
          refine (AllReach.members (o := o) (l := ⟨v.control, raw, _, prot⟩) hkeys rfl hc ?_).2
          exact h.insert_control hkeys hc _

theorem AllReach.loop (sensors : Sensors) (o : OverrideSnapshot) (hkeys : SeparateKeys p) {s : ProfileEngineState} (h : AllReach p s.protection s.lastOutput)
    (order : List Nat) :
    Machine.Along (visitControl p sensors o) (ControlReaches p sensors s.protection o) ⟨s, .empty, []⟩ order ∧
      AllReach p s.protection (loop p sensors o s order).state.lastOutput := by
  induction order using List.reverseRecOn with
  | nil => exact ⟨trivial, h⟩
  | append_singleton order idx ih =>
    have hprot : (Engine.loop p sensors o s order).state.protection = s.protection := (loop_setup s order).protection
    obtain ⟨hcontrol, hafter⟩ := ih.2.control sensors o hkeys hprot idx
    rw [Machine.along_append, loop_snoc]
    exact ⟨⟨ih.1, hcontrol, trivial⟩, hafter⟩

/-- Dropping trackers breaks nothing. -/
theorem AllReach.drop {lastOutput lastOutput' : KMap String ℚ} (h : AllReach p prot lastOutput)
    (hsub : ∀ k, lastOutput'.get? k = none ∨ lastOutput'.get? k = lastOutput.get? k) : AllReach p prot lastOutput' := by
  intro b hb hhard
  rcases hsub (trackerKey b) with hnone | hsame
  · rw [hnone]
    trivial
  · rw [hsame]
    exact h b hb hhard

theorem prepare_lastOutput (s : ProfileEngineState) (p : DaemonProfile ℚ) (k : String) :
    (s.prepare p).lastOutput.get? k = none ∨ (s.prepare p).lastOutput.get? k = s.lastOutput.get? k := by
  obtain ⟨cache, hcache⟩ := (s.syncProfileId p.id).ensureStaticCache_eq p
  rw [ProfileEngineState.prepare, hcache]
  unfold ProfileEngineState.syncProfileId
  split
  · exact .inr rfl
  · exact .inl rfl

theorem resetControl_lastOutput (s : ProfileEngineState) (id k : String) :
    (s.resetControl id).lastOutput.get? k = none ∨ (s.resetControl id).lastOutput.get? k = s.lastOutput.get? k := by
  unfold ProfileEngineState.resetControl
  rw [KMap.get?_retain, KMap.get?_remove]
  split
  · exact .inl rfl
  · cases s.lastOutput.get? k with
    | none => exact .inl rfl
    | some v =>
      by_cases hkey : ProfileEngineState.isMemberKeyOf id k = true
      · exact .inl (by simp [hkey])
      · exact .inr (by simp [hkey])

/-- New roles and facts give no hard member a floor its tracker cannot reach. -/
def InstallReaches (p : DaemonProfile ℚ) (s : ProfileEngineState) : EngineEvent → Prop
  | .install _ roles facts => AllReach p ⟨roles, facts⟩ s.lastOutput
  | _ => True

theorem AllReach.event (hchecked : checkNumericRanges p = .ok ()) (hkeys : SeparateKeys p) {s : ProfileEngineState}
    (h : AllReach p s.protection s.lastOutput) {e : EngineEvent} (he : InstallReaches p s e) :
    FloorsHeld p s e ∧ AllReach p (engineStep p s e).protection (engineStep p s e).lastOutput := by
  cases e with
  | install quarantined roles facts => exact ⟨trivial, he⟩
  | resetControl id => exact ⟨trivial, h.drop (resetControl_lastOutput s id)⟩
  | resetForForcedTick => exact ⟨trivial, allReach_empty _⟩
  | deactivate => exact ⟨trivial, allReach_empty _⟩
  | evaluate sensors o =>
    have hstart : AllReach p (s.prepare p).protection (s.prepare p).lastOutput := by
      rw [prepare_protection]
      exact h.drop (prepare_lastOutput s p)
    obtain ⟨halong, hafter⟩ := hstart.loop sensors o hkeys (s.prepare p).evalOrder
    refine ⟨(floorsHeld_iff hchecked s _).mpr ?_, ?_⟩
    · rw [prepare_protection] at halong
      exact halong
    · have hprot : (engineStep p s (.evaluate sensors o)).protection = (s.prepare p).protection :=
        (loop_setup (s.prepare p) (s.prepare p).evalOrder).protection
      rw [hprot]
      exact hafter

/-! ## The result -/

/-- **The hard floor over runs.** From any state, under any sensors, overrides, resets, forced ticks and
changes of roles and header facts, the floors are held at every evaluation iff at every evaluation the
trackers reach them. Where no two members share a tracker, nothing but a change of roles or facts can
bring a tracker out of reach: from a state whose trackers all reach their floors, every run is good in
which no change gives a member a floor its tracker cannot reach. -/
theorem hardFloor_run (p : DaemonProfile ℚ) (hchecked : checkNumericRanges p = .ok ()) (s : ProfileEngineState)
    (es : List EngineEvent) :
    (Machine.Along (engineStep p) (FloorsHeld p) s es ↔ Machine.Along (engineStep p) (TrackersReach p) s es) ∧
      (SeparateKeys p → AllReach p s.protection s.lastOutput →
        Machine.Along (engineStep p) (InstallReaches p) s es → Machine.Along (engineStep p) (FloorsHeld p) s es) := by
  refine ⟨Machine.along_congr (floorsHeld_iff hchecked) s es, fun hkeys hs hinstall => ?_⟩
  induction es generalizing s with
  | nil => trivial
  | cons e es ih =>
    obtain ⟨hheld, hnext⟩ := hs.event hchecked hkeys hinstall.1
    exact ⟨hheld, ih _ hnext hinstall.2⟩

/-- A labelled pump under a manual 30 %, with a slow ramp. -/
def slowPump : ControlMember := ⟨.hwmon, "hwmon:nct6798:isa-0290:pwm2:PUMP", "Pump", false⟩

def slowPumpControl : LogicalControl ℚ where
  id := "loop"
  name := "Loop"
  mode := .manual
  curveId := ""
  manualOutputPct := 30
  members := [slowPump]
  stepUpPct := 10
  stepDownPct := 100
  offsetPct := 0
  minimumPct := 30
  startPct := 0
  stopPct := 0

def slowPumpProfile : DaemonProfile ℚ := ⟨"slow", [slowPumpControl], []⟩

/-- Discovery reports the pump's header as a DC one. -/
def dcFacts : KMap String HeaderFacts := KMap.empty.insert slowPump.memberId ⟨some pwmModeDc, (.unknown, .none)⟩

/-- The header facts arrive after the first tick: the floor is 70 %, the command 40 %. -/
theorem slowPump_below_floor :
    checkNumericRanges slowPumpProfile = .ok () ∧
      ¬ Machine.Along (engineStep slowPumpProfile) (FloorsHeld slowPumpProfile) .new
        [.evaluate [] ⟨.empty, .empty⟩, .install [] .empty dcFacts, .evaluate [] ⟨.empty, .empty⟩] := by
  refine ⟨by decide, ?_⟩
  rintro ⟨-, -, h, -⟩
  have hvisits : (evaluateProfileWithOverrides slowPumpProfile []
      (engineStep slowPumpProfile (engineStep slowPumpProfile .new (.evaluate [] ⟨.empty, .empty⟩))
        (.install [] .empty dcFacts)) ⟨.empty, .empty⟩).visits =
        [⟨0, slowPumpControl, .evaluated 30 30, [⟨slowPump.memberId, .hwmon, 40, false⟩], []⟩] := by
    decide +kernel
  have hheld := h _ (by rw [hvisits]; exact List.mem_cons_self) 0 slowPump ⟨slowPump.memberId, .hwmon, 40, false⟩ rfl rfl
    rfl (by decide)
  revert hheld
  decide +kernel

/-- With the facts there from the first tick the run is good. -/
theorem slowPump_on_floor :
    Machine.Along (engineStep slowPumpProfile) (FloorsHeld slowPumpProfile) .new
      [.install [] .empty dcFacts, .evaluate [] ⟨.empty, .empty⟩, .evaluate [] ⟨.empty, .empty⟩] := by
  refine (hardFloor_run slowPumpProfile (by decide) .new _).2 (by decide) (allReach_empty _) ?_
  exact ⟨allReach_empty _, trivial, trivial, trivial⟩

end ControlOfc.Engine
