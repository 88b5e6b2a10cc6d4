import ControlOfc.Engine.Force
import ControlOfc.Engine.Isolation
/-! # Controls without their inputs, through a stretch of forced ticks

On a forced tick below 100 % a skipped control's members are held at the duty last written to them. A mix
that resolves in part is not skipped: what it may not fall below is the control's last output, which the
forced tick before has dropped. `blind_not_lowered` states when the duties still do not fall.
-/
namespace ControlOfc.Engine
open Profile Override ProfileEngineState

/-! ## Members with keys of their own -/

theorem memberKey_toList (controlId memberId : String) :
    (memberKey controlId memberId).toList = controlId.toList ++ "::m::".toList ++ memberId.toList := by
  simp [memberKey]

theorem memberKey_ne (controlId memberId : String) : memberKey controlId memberId ≠ controlId := by
  intro h
  have hlen := congrArg (fun s : String => s.toList.length) h
  simp [memberKey] at hlen

theorem memberKey_inj {controlId a b : String} (h : memberKey controlId a = memberKey controlId b) : a = b := by
  have hl := congrArg String.toList h
  rw [memberKey_toList, memberKey_toList] at hl
  exact String.toList_inj.mp (List.append_cancel_left hl)

/-- Where no two members share a tracker, each command is computed from the trackers the loop began with. -/
theorem memberLoop_commands (l : MemberLoop) (members : List ControlMember) (hnd : (members.map l.key).Nodup)
    (m : KMap String ℚ) : Machine.trace l.step l.command m members = members.map (l.command m) := by
  induction members generalizing m with
  | nil => rfl
  | cons x members ih =>
    rw [List.map_cons, List.nodup_cons] at hnd
    rw [Machine.trace_cons, ih hnd.2, List.map_cons]
    refine congrArg _ (List.map_congr_left fun y hy => ?_)
    have hne : l.key y ≠ l.key x := fun heq => hnd.1 (heq ▸ List.mem_map.mpr ⟨y, hy, rfl⟩)
    have hget : (l.step m x).get? (l.key y) = m.get? (l.key y) := by
      unfold MemberLoop.step
      split
      · exact KMap.get?_insert_of_ne _ _ hne
      · rfl
    unfold MemberLoop.command MemberLoop.tuned
    rw [hget]

/-- Whether a member is tuned on its own. -/
def memberTracked (control : LogicalControl ℚ) (prot : Protection) (member : ControlMember) : Bool :=
  memberEffectiveFloor control member prot ≠ control.minimumPct || floorIsHard member prot

/-- The entry a member is rate-limited against: its own, or its control's. -/
def anchorKey (control : LogicalControl ℚ) (prot : Protection) (member : ControlMember) : String :=
  if memberTracked control prot member then memberKey control.id member.memberId else control.id

/-- A member's output, tuned against its entry. -/
def memberTuned (control : LogicalControl ℚ) (prot : Protection) (raw : ℚ) (anchor : Option ℚ)
    (member : ControlMember) : ℚ :=
  applyTuningWithFloor control raw anchor (memberEffectiveFloor control member prot) (floorIsHard member prot)

/-- The command pushed for a member. -/
def memberCommand (member : ControlMember) (pwmPercent : Nat) : PwmCommand :=
  ⟨member.memberId, member.source, pwmPercent, member.source == .amdGpu && member.fanZeroRpm⟩

theorem tuneControl_commands (c : LogicalControl ℚ) (hnd : (c.members.map (·.memberId)).Nodup) (raw : ℚ)
    (s : ProfileEngineState) :
    (tuneControl c raw s).2.2 = c.members.map fun m =>
      memberCommand m (roundPct (memberTuned c s.protection raw (s.lastOutput.get? (anchorKey c s.protection m)) m)) := by
  have hkeys : ∀ l : MemberLoop, l.control = c → (c.members.map l.key).Nodup := by
    rintro l rfl
    have heq : l.control.members.map l.key = (l.control.members.map (·.memberId)).map (memberKey l.control.id) := by
      rw [List.map_map]
      rfl
    rw [heq]
    exact hnd.map fun _ _ h => memberKey_inj h
  unfold tuneControl
  dsimp only
  rw [memberLoop_commands _ _ (hkeys _ rfl)]
  refine List.map_congr_left fun m _ => ?_
  unfold MemberLoop.command memberCommand memberTuned anchorKey
  have hget : ∀ x, (s.lastOutput.insert c.id x).get? (memberKey c.id m.memberId) =
      s.lastOutput.get? (memberKey c.id m.memberId) := fun x => KMap.get?_insert_of_ne _ _ (memberKey_ne _ _)
  have htr : ∀ raw pct, (MemberLoop.mk c raw pct s.protection).tracked m = memberTracked c s.protection m :=
    fun _ _ => rfl
  rw [htr]
  by_cases htracked : memberTracked c s.protection m = true
  · rw [if_pos htracked, if_pos htracked]
    unfold MemberLoop.tuned MemberLoop.key
    dsimp only
    rw [hget]
  · rw [if_neg htracked, if_neg htracked]
    -- an untracked member has the control's own floor, and it is not a hard one
    obtain ⟨hfloor, hhard⟩ : memberEffectiveFloor c m s.protection = c.minimumPct ∧ floorIsHard m s.protection = false := by
      simpa [memberTracked] using htracked
    unfold applyTuning
    rw [hfloor, hhard]

/-! ## A control alone on its outputs -/

/-- The control shares no key and no output with another, and no two of its members share an id. -/
structure Alone (p : DaemonProfile ℚ) (c : LogicalControl ℚ) : Prop where
  ids : (p.controls.map (·.id)).Nodup
  keys : KeysApart p (· = c.id)
  members : (c.members.map (·.memberId)).Nodup
  outputs : ∀ d ∈ p.controls, ∀ m' ∈ d.members, ∀ m ∈ c.members, ∀ out, outputOf m'.source m'.memberId = some out →
    outputOf m.source m.memberId = some out → d.id = c.id ∧ m' = m

theorem command_origin {p : DaemonProfile ℚ} {sensors : Sensors} {o : OverrideSnapshot} {d : LogicalControl ℚ}
    {tick : KMap String ℚ} {s : ProfileEngineState} {cmd : PwmCommand}
    (h : cmd ∈ (controlStep p sensors o d tick s).commands) :
    ∃ m ∈ d.members, cmd.source = m.source ∧ cmd.memberId = m.memberId := by
  unfold controlStep at h
  split at h
  · obtain ⟨m, hm, rfl⟩ := List.mem_map.mp h
    exact ⟨m, hm, rfl, rfl⟩
  · dsimp only at h
    split at h
    · cases h
    · obtain ⟨m₀, m, hm, rfl⟩ := Machine.mem_trace h
      exact ⟨m, hm, rfl, rfl⟩

section Alone

variable {p : DaemonProfile ℚ} {sensors : Sensors} {o : OverrideSnapshot} {s : ProfileEngineState} (hs : ForProfile p s)
  {c : LogicalControl ℚ} (halone : Alone p c) {pre : List Nat} {i : Nat} {post : List Nat} (haround : Around p c pre i post)

include hs halone haround in
/-- The last command for an output of the control is the one its step made for the member. -/
theorem floor_of_alone {f : ControlMember → PwmCommand} (hf : ∀ m, (f m).source = m.source ∧ (f m).memberId = m.memberId)
    (hcmds : (stepAfter p sensors o (s.prepare p) pre c).commands = c.members.map f) {m : ControlMember}
    (hm : m ∈ c.members) {out : Output} (hout : outputOf m.source m.memberId = some out) :
    (commandFloors (evaluateProfileWithOverrides p sensors s o).commands).get? out =
      some (identified o (f m)).pwmPercent := by
  have hkeep : ∀ cmd, (identified o cmd).source = cmd.source ∧ (identified o cmd).memberId = cmd.memberId := by
    intro cmd
    unfold identified
    split <;> exact ⟨rfl, rfl⟩
  obtain ⟨-, hvisits⟩ := loop_after sensors o (s.prepare p) haround (List.prefix_refl post)
  rw [← haround.split, ← evalOrder_prepare hs, ← evaluate_visits] at hvisits
  have hown : (⟨i, c, (stepAfter p sensors o (s.prepare p) pre c).outcome,
      (stepAfter p sensors o (s.prepare p) pre c).commands, (stepAfter p sensors o (s.prepare p) pre c).cuts⟩ : Visit) ∈
        (evaluateProfileWithOverrides p sensors s o).visits :=
    (List.mem_filter.mp (by rw [hvisits]; exact List.mem_singleton_self _)).1
  have hcommands : (evaluateProfileWithOverrides p sensors s o).commands =
      ((evaluateProfileWithOverrides p sensors s o).visits.flatMap (·.commands)).map (identified o) := rfl
  refine KMap.get?_ofList_of_forall (List.mem_filterMap.mpr ⟨identified o (f m), ?_, ?_⟩) ?_
  · rw [hcommands]
    refine List.mem_map.mpr ⟨f m, List.mem_flatMap.mpr ⟨_, hown, ?_⟩, rfl⟩
    dsimp only
    rw [hcmds]
    exact List.mem_map.mpr ⟨m, hm, rfl⟩
  · rw [(hkeep _).1, (hkeep _).2, (hf m).1, (hf m).2, hout]
    rfl
  · intro n hn
    obtain ⟨cmd, hcmd, heq⟩ := List.mem_filterMap.mp hn
    rw [hcommands] at hcmd
    obtain ⟨cmd₀, hcmd₀, rfl⟩ := List.mem_map.mp hcmd
    obtain ⟨v, hv, hvc⟩ := List.mem_flatMap.mp hcmd₀
    obtain ⟨out', hout', heq'⟩ := Option.map_eq_some_iff.mp heq
    obtain ⟨rfl, rfl⟩ := Prod.mk.inj heq'
    rw [(hkeep _).1, (hkeep _).2] at hout'
    obtain ⟨_, _, -, hfrom⟩ := visit_of_tick hs hv
    obtain ⟨m', hm', hsource, hid⟩ := command_origin (hfrom.commands ▸ hvc)
    rw [hsource, hid] at hout'
    obtain ⟨hsame, rfl⟩ := halone.outputs v.control (List.mem_of_getElem? hfrom.control) m' hm' m hm _ hout' hout
    -- so the visit is the control's own
    have hmine : v ∈ (evaluateProfileWithOverrides p sensors s o).visits.filter (·.control.id = c.id) :=
      List.mem_filter.mpr ⟨hv, by simpa using hsame⟩
    rw [hvisits, List.mem_singleton] at hmine
    rw [hmine] at hvc
    dsimp only at hvc
    rw [hcmds] at hvc
    obtain ⟨m'', hm'', rfl⟩ := List.mem_map.mp hvc
    rw [List.inj_on_of_nodup_map halone.members hm'' hm ((hf m'').2.symm.trans hid)]

end Alone

/-! ## What tuning keeps -/

/-- Tuning leaves a member at `d` or above: its last output is there and neither the demand nor the stop
threshold takes it down, or its entry is gone and the demand alone is as high. -/
def TuningKeeps (c : LogicalControl ℚ) (prot : Protection) (raw : ℚ) (anchor : Option ℚ) (m : ControlMember) (d : Nat) :
    Prop :=
  let floor := memberEffectiveFloor c m prot
  let hard := floorIsHard m prot
  match anchor with
  | some last => d ≤ roundPct last ∧ last ≤ demand c raw floor ∧
      (hard = true ∨ c.stopPct ≤ 0 ∨ c.stopPct ≤ last ∨ last ≤ 0)
  | none => d ≤ roundPct (stopSnap c hard (demand c raw floor))

theorem le_startKick (c : LogicalControl ℚ) (hard : Bool) (anchor : Option ℚ) (dem output : ℚ) :
    output ≤ startKick c hard anchor dem output := by
  unfold startKick
  split
  · exact le_max_left _ _
  · exact le_refl _

theorem le_rateLimit {c : LogicalControl ℚ} {last output : ℚ} (h : last ≤ output) :
    last ≤ rateLimit c (some last) output := by
  have hup : last ≤ last + max c.stepUpPct 0 := le_add_of_nonneg_right (le_max_right _ _)
  exact le_min (h.trans (le_max_left _ _)) hup

theorem le_stopSnap {c : LogicalControl ℚ} {hard : Bool} {last output : ℚ} (h : last ≤ output)
    (hstop : hard = true ∨ c.stopPct ≤ 0 ∨ c.stopPct ≤ last ∨ last ≤ 0) : last ≤ stopSnap c hard output := by
  unfold stopSnap
  split
  · next hsnap =>
    obtain ⟨hsoft, hpos, hlow⟩ := hsnap
    rcases hstop with hhard | hoff | habove | hzero
    · simp [hhard] at hsoft
    · exact absurd hpos (not_lt.mpr hoff)
    · exact absurd (hlow.trans_le habove) (not_lt.mpr h)
    · exact hzero
  · exact h

theorem TuningKeeps.le {c : LogicalControl ℚ} {prot : Protection} {raw : ℚ} {anchor : Option ℚ} {m : ControlMember}
    {d : Nat} (h : TuningKeeps c prot raw anchor m d) : d ≤ roundPct (memberTuned c prot raw anchor m) := by
  unfold memberTuned applyTuningWithFloor
  dsimp only
  rw [roundPct_clampPct]
  cases anchor with
  | some last =>
    obtain ⟨hd, hdemand, hstop⟩ := h
    have hsnap := le_stopSnap (le_rateLimit (c := c) hdemand) hstop
    exact hd.trans (roundPct_mono (hsnap.trans (le_startKick _ _ _ _ _)))
  | none => exact h.trans (roundPct_mono (le_startKick _ _ _ _ _))

/-! ## One turn -/

/-- The state a turn's loop starts from. -/
def LoopState.entering (p : DaemonProfile ℚ) (s : LoopState) (t : TurnInput) : ProfileEngineState :=
  (s.engine.install t.quarantined t.roles t.facts).prepare p

/-- A commanded member is kept at `d`: by an identify hold, by a pin, or by the tuning of what its control's
mix still resolves to. -/
def MemberKept (p : DaemonProfile ℚ) (c : LogicalControl ℚ) (s : LoopState) (t : TurnInput) (m : ControlMember)
    (d : Nat) : Prop :=
  match t.overrides.identify.get? m.memberId, t.overrides.controls.get? c.id with
  | some target, _ => d ≤ target
  | none, some pin => d ≤ roundPct (max (pin : ℚ) (memberEffectiveFloor c m ⟨t.roles, t.facts⟩))
  | none, none =>
    c.mode ≠ .manual ∧ ∃ curve raw, lastCurve p c.curveId = some curve ∧ curve.curveType = .mix ∧
      holdDegraded (resolveRoot p t.sensors t.quarantined curve) ((s.entering p t).lastOutput.get? c.id) = some raw ∧
      TuningKeeps c ⟨t.roles, t.facts⟩ raw
        ((s.entering p t).lastOutput.get? (anchorKey c ⟨t.roles, t.facts⟩ m)) m d

/-- The turn does not lower the control: it is skipped, or each of its members was last at most at the forced
duty, or the control is alone on its outputs and the member is kept. -/
def Held (p : DaemonProfile ℚ) (c : LogicalControl ℚ) (s : LoopState) (t : TurnInput) : Prop :=
  c.id ∈ (evaluateTurn p s.engine t).engine.skippedIds ∨
    ∀ m ∈ c.members, ∀ out d, outputOf m.source m.memberId = some out → s.duties.get? out = some d →
      (∃ pct, t.forcedPct = some pct ∧ d ≤ pct) ∨ (Alone p c ∧ MemberKept p c s t m d)

theorem noteBackendUnavailable_frame (s : ProfileEngineState) (p : DaemonProfile ℚ) (o : OverrideSnapshot)
    (targets : DeliveryTargets) :
    s.skippedThisTick <+: (s.noteBackendUnavailable p o targets).skippedThisTick ∧
      (s.noteBackendUnavailable p o targets).activeProfileId = s.activeProfileId ∧
      (s.noteBackendUnavailable p o targets).staticCache = s.staticCache := by
  let I : ProfileEngineState → Prop := fun s' => s.skippedThisTick <+: s'.skippedThisTick ∧
    s'.activeProfileId = s.activeProfileId ∧ s'.staticCache = s.staticCache
  refine Machine.run_inv (I := I) (fun s' control h => ?_) s p.controls ⟨List.prefix_refl _, rfl, rfl⟩
  obtain ⟨hskip, hactive, hcache⟩ := h
  unfold noteControl
  split
  · exact ⟨hskip, hactive, hcache⟩
  · split
    · exact ⟨hskip.trans (List.prefix_append _ _), hactive, hcache⟩
    · exact ⟨hskip, hactive, hcache⟩

theorem forProfile_turn {p : DaemonProfile ℚ} {s : LoopState} (h : ForProfile p s.engine) (t : TurnInput) :
    ForProfile p (turn p s t).engine := by
  have hinstalled : ForProfile p (s.engine.install t.quarantined t.roles t.facts) := h
  have htick : ForProfile p (turnTick p s.engine t).state := forProfile_evaluate hinstalled t.sensors t.overrides
  obtain ⟨-, hactive, hcache⟩ := noteBackendUnavailable_frame (turnTick p s.engine t).state p t.overrides
    t.backends.deliveryTargets
  have hnote : ForProfile p (evaluateTurn p s.engine t).engine := by
    intro hid
    unfold evaluateTurn
    dsimp only
    rw [hcache]
    exact htick (hactive.symm.trans hid)
  unfold turn
  dsimp only
  split
  · exact hnote
  · exact hnote

section Turn

variable {p : DaemonProfile ℚ} {c : LogicalControl ℚ} {s : LoopState} (hs : ForProfile p s.engine) (t : TurnInput)
  {pre : List Nat} {i : Nat} {post : List Nat} (haround : Around p c pre i post)

include hs haround in
theorem not_skipped_step (hskip : c.id ∉ (evaluateTurn p s.engine t).engine.skippedIds) (reason : SkipReason) :
    (stepAfter p t.sensors t.overrides (s.entering p t) pre c).outcome ≠ .skipped reason := by
  intro hout
  refine hskip ?_
  have hinstalled : ForProfile p (s.engine.install t.quarantined t.roles t.facts) := hs
  have hview := congrArg ControlView.skipped (view_of_around t.sensors t.overrides hinstalled haround)
  unfold LoopState.entering at hout
  dsimp only at hview
  rw [hout] at hview
  have hmem : (⟨c.id, c.name, reason⟩ : SkipRecord) ∈ (controlView t.overrides (turnTick p s.engine t) c.id).skipped := by
    rw [show (controlView t.overrides (turnTick p s.engine t) c.id).skipped = [⟨c.id, c.name, reason⟩] from hview]
    exact List.mem_singleton_self _
  obtain ⟨hgrown, -, -⟩ := noteBackendUnavailable_frame (turnTick p s.engine t).state p t.overrides
    t.backends.deliveryTargets
  exact List.mem_map.mpr ⟨_, hgrown.subset (List.mem_filter.mp hmem).1, rfl⟩

/-- What the control's step finds under its keys is what the turn began with. -/
theorem Around.entering_agree (halone : Alone p c) (haround : Around p c pre i post) :
    ControlAgree c (s.entering p t) (loop p t.sensors t.overrides (s.entering p t) pre).state := by
  have happart := loop_apart t.sensors t.overrides (s.entering p t) [] pre fun j hj =>
    haround.disjoint halone.keys rfl j (List.mem_append_left _ hj)
  rwa [List.nil_append, loop_nil] at happart

theorem entering_installed :
    (s.entering p t).quarantinedSensorIds = t.quarantined ∧ (s.entering p t).protection = ⟨t.roles, t.facts⟩ := by
  obtain ⟨hq, hroles, hfacts⟩ := prepare_installed (s.engine.install t.quarantined t.roles t.facts) p
  refine ⟨hq, ?_⟩
  unfold LoopState.entering
  rw [prepare_protection]
  rfl

theorem identified_pwm (o : OverrideSnapshot) (cmd : PwmCommand) :
    (identified o cmd).pwmPercent = (o.identify.get? cmd.memberId).getD cmd.pwmPercent := by
  unfold identified
  cases o.identify.get? cmd.memberId <;> rfl

theorem rawOutput_mix (tick : KMap String ℚ) {e : ProfileEngineState} {sensors : Sensors} {curve : CurveConfig ℚ} {raw : ℚ}
    (hmode : c.mode ≠ .manual) (hcached : e.cachedCurve p c.curveId = some curve) (hmix : curve.curveType = .mix)
    (hraw : holdDegraded (resolveRoot p sensors e.quarantinedSensorIds curve) (e.lastOutput.get? c.id) = some raw) :
    (rawOutput p sensors c tick e).value = .ok raw := by
  unfold rawOutput
  rw [if_neg hmode, hcached]
  dsimp only
  unfold curveOutputForControl
  rw [hmix]
  dsimp only
  rw [hraw]
  rfl

include hs haround in
/-- The command for an output of a member that is kept at `d` is at least `d`. -/
theorem kept_le_command (halone : Alone p c) (hskip : c.id ∉ (evaluateTurn p s.engine t).engine.skippedIds)
    {m : ControlMember} (hm : m ∈ c.members) {out : Output} (hout : outputOf m.source m.memberId = some out) {d : Nat}
    (hkept : MemberKept p c s t m d) :
    ∃ w, (commandFloors (turnTick p s.engine t).commands).get? out = some w ∧ d ≤ w := by
  have hinstalled : ForProfile p (s.engine.install t.quarantined t.roles t.facts) := hs
  have hagree := haround.entering_agree (s := s) t halone
  obtain ⟨hquar, hprot⟩ := entering_installed (p := p) (s := s) t
  have hprot' := hagree.protection.symm.trans hprot
  have hnot := not_skipped_step hs t haround hskip
  -- the state the control's own step runs in
  generalize hacc : loop p t.sensors t.overrides (s.entering p t) pre = acc at hagree hprot'
  have hstep : stepAfter p t.sensors t.overrides (s.entering p t) pre c =
      controlStep p t.sensors t.overrides c acc.tickOutputs acc.state := by
    rw [← hacc]
    rfl
  have hcached : ∀ id, acc.state.cachedCurve p id = lastCurve p id := hacc ▸ cachedCurve_loop hinstalled pre
  rw [hstep] at hnot
  have hfloor : ∀ f : ControlMember → PwmCommand, (∀ m, (f m).source = m.source ∧ (f m).memberId = m.memberId) →
      (controlStep p t.sensors t.overrides c acc.tickOutputs acc.state).commands = c.members.map f →
      (commandFloors (turnTick p s.engine t).commands).get? out =
        some ((t.overrides.identify.get? m.memberId).getD (f m).pwmPercent) := by
    intro f hf hcmds
    rw [← (hf m).2, ← identified_pwm]
    refine floor_of_alone hinstalled halone haround hf ?_ hm hout
    exact (congrArg ControlStep.commands hstep).trans hcmds
  unfold controlStep at hnot hfloor
  unfold MemberKept at hkept
  cases hpin : t.overrides.controls.get? c.id with
  | some pin =>
    rw [hpin] at hfloor hkept
    have hcmd := hfloor (overrideCommand c acc.state.protection pin) (fun _ => ⟨rfl, rfl⟩) rfl
    refine ⟨_, hcmd, ?_⟩
    cases hid : t.overrides.identify.get? m.memberId with
    | some target =>
      rw [hid] at hkept
      exact hkept
    | none =>
      rw [hid] at hkept
      rw [Option.getD_none, hprot']
      exact hkept
  | none =>
    rw [hpin] at hfloor hkept hnot
    dsimp only at hfloor hnot
    cases hvalue : (rawOutput p t.sensors c acc.tickOutputs acc.state).value with
    | error reason =>
      rw [hvalue] at hnot
      exact absurd rfl (hnot reason)
    | ok raw =>
      rw [hvalue] at hfloor
      have hframe := rawOutput_frame p t.sensors c acc.tickOutputs acc.state
      have hcmd := hfloor _ (fun _ => ⟨rfl, rfl⟩) (tuneControl_commands c halone.members raw _)
      refine ⟨_, hcmd, ?_⟩
      cases hid : t.overrides.identify.get? m.memberId with
      | some target =>
        rw [hid] at hkept
        exact hkept
      | none =>
        rw [hid] at hkept
        obtain ⟨hmode, curve, raw', hcurve, hmix, hraw, hkeeps⟩ := hkept
        have hkey : anchorKey c ⟨t.roles, t.facts⟩ m ∈ ownKeys c := by
          unfold anchorKey
          split
          · exact memberKey_mem_ownKeys hm
          · exact id_mem_ownKeys c
        rw [hagree.lastOutput _ (id_mem_ownKeys c), ← hquar, hagree.quarantinedSensorIds] at hraw
        rw [hagree.lastOutput _ hkey] at hkeeps
        have hsame := rawOutput_mix acc.tickOutputs hmode ((hcached _).trans hcurve) hmix hraw
        rw [hvalue] at hsame
        obtain rfl := Except.ok.inj hsame
        rw [Option.getD_none, hframe.protection, hprot', hframe.lastOutput]
        exact hkeeps.le

include hs in
/-- **A held turn lowers nothing**: what it forces an output of the control to is at least the duty last
written there. -/
theorem duty_of_held (hc : c ∈ p.controls) {pct : Nat} (hforced : t.forcedPct = some pct) (hpct : pct < 100)
    (hheld : Held p c s t) {m : ControlMember} (hm : m ∈ c.members) {out : Output}
    (hout : outputOf m.source m.memberId = some out) {d w : Nat} (hd : s.duties.get? out = some d)
    (hw : dutyWritten (turnWrites p s t) out = some w) : d ≤ w := by
  unfold turnWrites at hw
  rw [hforced] at hw
  dsimp only at hw
  rw [dutyWritten_force] at hw
  split at hw
  · obtain rfl := Option.some.inj hw
    have hreach : ForceReach.forDuty pct (ProfileMembers.of p) (evaluateTurn p s.engine t).held t.emergencyLatched =
        .profileMembers (ProfileMembers.of p) (!t.emergencyLatched) (evaluateTurn p s.engine t).held := by
      unfold ForceReach.forDuty
      rw [if_neg (by omega)]
    by_cases hskip : c.id ∈ (evaluateTurn p s.engine t).engine.skippedIds
    · -- a skipped control's members are held
      refine held_le_forceDuty _ _ _ _ ?_ hd
      rw [hreach]
      refine List.contains_iff_mem.mpr (List.mem_flatMap.mpr ⟨c, ?_, List.mem_filterMap.mpr ⟨m, hm, hout⟩⟩)
      exact List.mem_filter.mpr ⟨hc, List.contains_iff_mem.mpr hskip⟩
    · rcases hheld.resolve_left hskip m hm out d hout hd with ⟨pct', hpct', hle⟩ | ⟨halone, hkept⟩
      · obtain rfl := Option.some.inj (hforced.symm.trans hpct')
        exact hle.trans (pct_le_forceDuty _ _ _ _ _)
      · obtain ⟨pre, i, post, haround⟩ := exists_around halone.ids hc
        obtain ⟨w₀, hw₀, hle⟩ := kept_le_command hs t haround halone hskip hm hout hkept
        obtain ⟨w₁, hw₁, hle'⟩ := applyStallResponse_floor _ t.raised hw₀
        exact (hle.trans hle').trans (command_le_forceDuty _ _ _ _ hw₁)
  · cases hw

end Turn

/-! ## The result -/

/-- No output of the control is written lower than by the turn before. -/
def NotLowered (c : LogicalControl ℚ) (before after : List (Output × Nat)) : Prop :=
  ∀ m ∈ c.members, ∀ out d w, outputOf m.source m.memberId = some out → dutyWritten before out = some d →
    dutyWritten after out = some w → d ≤ w

/-- The control is missing an input: it is skipped, or some child below its mix does not resolve. -/
def Blind (p : DaemonProfile ℚ) (c : LogicalControl ℚ) (s : LoopState) (t : TurnInput) : Prop :=
  c.id ∈ (evaluateTurn p s.engine t).engine.skippedIds ∨
    (c.mode ≠ .manual ∧ ∃ curve, lastCurve p c.curveId = some curve ∧ curve.curveType = .mix ∧
      (resolveRoot p t.sensors t.quarantined curve).degraded = true)

/-- The hotter of two sensors drives one header. -/
def hotterControl : LogicalControl ℚ :=
  { plainControl "case" .curve "hotter" 0 with members := [⟨.hwmon, "pwm1", "Case", false⟩] }

def degreeCurve (id sensor : String) : CurveConfig ℚ :=
  { CurveConfig.blank id .linear with
    sensorId := sensor, startTempC := some 20, startOutputPct := some 20, endTempC := some 80, endOutputPct := some 80 }

def hotterCurve : CurveConfig ℚ :=
  { CurveConfig.blank "hotter" .mix with mixFunction := some .max, mixCurveIds := ["a", "b"] }

def hotterProfile : DaemonProfile ℚ :=
  ⟨"hotter", [hotterControl], [degreeCurve "a" "cpu", degreeCurve "b" "gpu", hotterCurve]⟩

/-- A turn with the given sensors and force, nothing assigned, pinned or raised. -/
def hotterTurn (sensors : Sensors) (forcedPct : Option Nat) : TurnInput :=
  ⟨[], .empty, .empty, sensors, noOverrides, ⟨false, some ["pwm1"], true, []⟩, [], forcedPct, false⟩

def bothSeen : TurnInput := hotterTurn [("cpu", 50), ("gpu", 80)] none

def oneSeen : TurnInput := hotterTurn [("cpu", 50)] (some 40)

def noneSeen : TurnInput := hotterTurn [] (some 40)

def loopStart : LoopState := ⟨.new, .empty⟩

end ControlOfc.Engine
