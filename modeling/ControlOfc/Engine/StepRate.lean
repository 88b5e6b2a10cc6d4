import ControlOfc.Engine.BlindMix
/-! # The step-rate law over runs (tuning.rs:36-121, mod.rs:671-756)

Six stages clamp in opposite directions. `StepLaw` is what comes out of them against the value tuned before;
over plain ticks that value is the one of the control's last evaluation, however many ticks skipped it in
between (`step_rate_law`). That needs each entry of `last_output` to have one owner: two member keys can
coincide though no control id holds a `::m::`.
-/
namespace ControlOfc.Engine
open Profile Override ProfileEngineState

/-! ## One tuning -/

/-- Step 5 applies. -/
def Kicks (c : LogicalControl ℚ) (floorIsHard : Bool) (lastOutput : Option ℚ) (demand : ℚ) : Prop :=
  (0 < demand ∧ (floorIsHard ∨ c.stopPct = 0 ∨ c.stopPct ≤ demand)) ∧ lastOutput = some 0 ∧ 0 < c.startPct

/-- How `tuned` stands to the value tuned before and to what the curve and the floor want. -/
structure StepLaw (c : LogicalControl ℚ) (rawOutput : ℚ) (lastOutput : Option ℚ) (floor : ℚ) (floorIsHard : Bool)
    (tuned : ℚ) : Prop where
  range : 0 ≤ tuned ∧ tuned ≤ 100
  /-- at most a step down, or the stop snap -/
  down : ∀ x, lastOutput = some x → x - c.stepDownPct ≤ tuned ∨
    tuned = 0 ∧ floorIsHard = false ∧ 0 < c.stopPct ∧ rateLimit c lastOutput (demand c rawOutput floor) < c.stopPct
  /-- at most a step up, or the start kick -/
  up : ∀ x, lastOutput = some x → tuned ≤ x + c.stepUpPct ∨
    x = 0 ∧ Kicks c floorIsHard lastOutput (demand c rawOutput floor) ∧
      tuned = max (rateLimit c lastOutput (demand c rawOutput floor)) c.startPct
  /-- off though wanted on: under the stop threshold, or not allowed up from zero -/
  off : tuned = 0 → demand c rawOutput floor ≠ 0 → ¬ Kicks c floorIsHard lastOutput (demand c rawOutput floor) ∧
    (floorIsHard = false ∧ rateLimit c lastOutput (demand c rawOutput floor) < c.stopPct ∨
      lastOutput = some 0 ∧ c.stepUpPct = 0)

section Tuning

variable {c : LogicalControl ℚ} {floorIsHard : Bool} {lastOutput : Option ℚ}

theorem le_clampPct {a x : ℚ} (ha : a ≤ 100) (h : a ≤ x) : a ≤ clampPct x := by
  unfold clampPct
  split
  · linarith
  · split
    · exact ha
    · exact h

theorem clampPct_le_of {b x : ℚ} (hb : 0 ≤ b) (h : x ≤ b) : clampPct x ≤ b := by
  unfold clampPct
  split
  · exact hb
  · split
    · linarith
    · exact h

theorem clampPct_pos {x : ℚ} (h : 0 < x) : 0 < clampPct x := by
  unfold clampPct
  split
  · linarith
  · split
    · norm_num
    · exact h

theorem stopSnap_cases (c : LogicalControl ℚ) (floorIsHard : Bool) (x : ℚ) :
    stopSnap c floorIsHard x = x ∨ stopSnap c floorIsHard x = 0 ∧ floorIsHard = false ∧ 0 < c.stopPct ∧ x < c.stopPct := by
  unfold stopSnap
  split
  · next h => exact .inr ⟨rfl, by simpa using h.1, h.2⟩
  · exact .inl rfl

theorem startKick_cases (c : LogicalControl ℚ) (floorIsHard : Bool) (lastOutput : Option ℚ) (demand x : ℚ) :
    ¬ Kicks c floorIsHard lastOutput demand ∧ startKick c floorIsHard lastOutput demand x = x ∨
      Kicks c floorIsHard lastOutput demand ∧ startKick c floorIsHard lastOutput demand x = max x c.startPct := by
  unfold startKick Kicks
  split
  · next h => exact .inr ⟨h, rfl⟩
  · next h => exact .inl ⟨h, rfl⟩

/-- The window step 3 keeps to. -/
theorem rateLimit_mem (hup : 0 ≤ c.stepUpPct) (hdown : 0 ≤ c.stepDownPct) (x y : ℚ) :
    x - c.stepDownPct ≤ rateLimit c (some x) y ∧ rateLimit c (some x) y ≤ x + c.stepUpPct := by
  unfold rateLimit
  dsimp only
  rw [max_eq_left hup, max_eq_left hdown]
  exact ⟨le_min (le_max_right _ _) (by linarith), min_le_right _ _⟩

/-- Where a positive demand is held at zero, the output may not move up from it. -/
theorem stepUp_zero_of_rateLimit (hup : 0 ≤ c.stepUpPct) {d : ℚ} (hd : 0 < d) (hlast : ∀ x, lastOutput = some x → 0 ≤ x)
    (h : rateLimit c lastOutput d ≤ 0) : lastOutput = some 0 ∧ c.stepUpPct = 0 := by
  unfold rateLimit at h
  cases lastOutput with
  | none =>
    dsimp only at h
    linarith
  | some x =>
    dsimp only at h
    rw [max_eq_left hup] at h
    have hx := hlast x rfl
    rcases min_le_iff.mp h with h | h
    · linarith [le_max_left d (x - max c.stepDownPct 0)]
    · obtain rfl : x = 0 := by linarith
      exact ⟨rfl, by linarith⟩

/-- **One tuning keeps the law**, whatever order the parameters stand in. -/
theorem applyTuning_law (hrange : ControlRanges c) {floor : ℚ} (hfloor : 0 ≤ floor)
    (hlast : ∀ x, lastOutput = some x → 0 ≤ x ∧ x ≤ 100) (rawOutput : ℚ) :
    StepLaw c rawOutput lastOutput floor floorIsHard (applyTuningWithFloor c rawOutput lastOutput floor floorIsHard) := by
  have hdemand := hfloor.trans (le_demand c rawOutput floor)
  unfold applyTuningWithFloor
  dsimp only
  have hsnap := stopSnap_cases c floorIsHard (rateLimit c lastOutput (demand c rawOutput floor))
  have hkick := startKick_cases c floorIsHard lastOutput (demand c rawOutput floor)
    (stopSnap c floorIsHard (rateLimit c lastOutput (demand c rawOutput floor)))
  generalize startKick c floorIsHard lastOutput (demand c rawOutput floor)
    (stopSnap c floorIsHard (rateLimit c lastOutput (demand c rawOutput floor))) = kicked at hkick ⊢
  generalize stopSnap c floorIsHard (rateLimit c lastOutput (demand c rawOutput floor)) = snapped at hsnap hkick
  refine ⟨⟨clampPct_nonneg _, clampPct_le _⟩, ?_, ?_, ?_⟩
  · rintro x rfl
    obtain ⟨hx, hx'⟩ := hlast x rfl
    have hstep := (rateLimit_mem hrange.stepUp.1 hrange.stepDown.1 x (demand c rawOutput floor)).1
    rcases hkick with ⟨-, rfl⟩ | ⟨⟨-, hzero, -⟩, -⟩
    · rcases hsnap with rfl | ⟨rfl, hsnapped⟩
      · exact .inl (le_clampPct (by linarith [hrange.stepDown.1]) hstep)
      · exact .inr ⟨by simp [clampPct], hsnapped⟩
    · obtain rfl := Option.some.inj hzero
      exact .inl (by linarith [hrange.stepDown.1, clampPct_nonneg kicked])
  · rintro x rfl
    obtain ⟨hx, -⟩ := hlast x rfl
    have hstep := (rateLimit_mem hrange.stepUp.1 hrange.stepDown.1 x (demand c rawOutput floor)).2
    have hwindow : 0 ≤ x + c.stepUpPct := by linarith [hrange.stepUp.1]
    have hsnapped : snapped ≤ x + c.stepUpPct := by
      rcases hsnap with rfl | ⟨rfl, -⟩
      · exact hstep
      · exact hwindow
    rcases hkick with ⟨-, rfl⟩ | ⟨hkicks, rfl⟩
    · exact .inl (clampPct_le_of hwindow hsnapped)
    · obtain rfl : x = 0 := Option.some.inj hkicks.2.1
      by_cases hstart : c.startPct ≤ 0 + c.stepUpPct
      · exact .inl (clampPct_le_of hwindow (max_le hsnapped hstart))
      · -- the kick stands above the whole window
        have habove := not_le.mp hstart
        refine .inr ⟨rfl, hkicks, ?_⟩
        rw [max_eq_right (hsnapped.trans habove.le), max_eq_right (hstep.trans habove.le)]
        unfold clampPct
        rw [if_neg (by linarith [hkicks.2.2]), if_neg (by linarith [hrange.start.2])]
  · intro hzero hwanted
    have hpos : 0 < demand c rawOutput floor := lt_of_le_of_ne hdemand (Ne.symm hwanted)
    rcases hkick with ⟨hnot, rfl⟩ | ⟨hkicks, rfl⟩
    · refine ⟨hnot, ?_⟩
      rcases hsnap with rfl | ⟨-, hhard, -, hbelow⟩
      · right
        refine stepUp_zero_of_rateLimit hrange.stepUp.1 hpos (fun x hx => (hlast x hx).1) ?_
        by_contra hup
        exact absurd hzero (clampPct_pos (not_le.mp hup)).ne'
      · exact .inl ⟨hhard, hbelow⟩
    · exact absurd hzero (clampPct_pos (lt_max_of_lt_right hkicks.2.2)).ne'

theorem effectiveFloor_nonneg (member : ControlMember) (prot : Protection) (h : 0 ≤ c.minimumPct) :
    0 ≤ memberEffectiveFloor c member prot := by
  unfold memberEffectiveFloor
  split
  · exact le_refl _
  · dsimp only
    have hbase : 0 ≤ (if memberNeedsHardFloor member || assignedRoleEarnsHardFloor member prot.assignedRoles then
        max c.minimumPct hardPumpCpuFloorPct else c.minimumPct) := by
      split
      · exact h.trans (le_max_left _ _)
      · exact h
    split
    · exact hbase.trans (le_max_left _ _)
    · exact hbase

end Tuning

/-! ## The entries a control is tuned against -/

/-- An entry of `last_output`, with what the tuning that keeps it is given. -/
structure Tracker where
  key : String
  floor : ℚ
  floorIsHard : Bool

/-- The control's own entry, and one for each member tuned on its own. -/
def trackersOf (c : LogicalControl ℚ) (prot : Protection) : List Tracker :=
  ⟨c.id, c.minimumPct, false⟩ :: (c.members.filter (memberTracked c prot)).map fun m =>
    ⟨memberKey c.id m.memberId, memberEffectiveFloor c m prot, floorIsHard m prot⟩

def Tracker.tuned (tr : Tracker) (c : LogicalControl ℚ) (raw : ℚ) (lastOutput : Option ℚ) : ℚ :=
  applyTuningWithFloor c raw lastOutput tr.floor tr.floorIsHard

section Entries

variable {c : LogicalControl ℚ} {prot : Protection} {tr : Tracker}

theorem key_mem_ownKeys (h : tr ∈ trackersOf c prot) : tr.key ∈ ownKeys c := by
  rcases List.mem_cons.mp h with rfl | h
  · exact id_mem_ownKeys c
  · obtain ⟨m, hm, rfl⟩ := List.mem_map.mp h
    exact memberKey_mem_ownKeys (List.mem_of_mem_filter hm)

theorem floor_nonneg (h : tr ∈ trackersOf c prot) (hmin : 0 ≤ c.minimumPct) : 0 ≤ tr.floor := by
  rcases List.mem_cons.mp h with rfl | h
  · exact hmin
  · obtain ⟨m, -, rfl⟩ := List.mem_map.mp h
    exact effectiveFloor_nonneg m prot hmin

/-- Of members with distinct keys, each tracked one leaves its own tuning under its key. -/
theorem memberLoop_own (l : MemberLoop) {members : List ControlMember} (hnd : (members.map l.key).Nodup) {m : ControlMember}
    (hm : m ∈ members) (htracked : l.tracked m = true) (lastOutput : KMap String ℚ) :
    (Machine.run l.step lastOutput members).get? (l.key m) = some (l.tuned lastOutput m) := by
  induction members generalizing lastOutput with
  | nil => cases hm
  | cons x members ih =>
    obtain ⟨hnew, hnd⟩ := List.nodup_cons.mp hnd
    rw [Machine.run_cons]
    rcases List.mem_cons.mp hm with rfl | hm
    · rw [memberLoop_other l members fun y hy heq => hnew (List.mem_map.mpr ⟨y, hy, heq.symm⟩)]
      unfold MemberLoop.step
      rw [if_pos htracked, KMap.get?_insert_self]
    · rw [ih hnd hm]
      have hne : l.key m ≠ l.key x := fun heq => hnew (List.mem_map.mpr ⟨m, hm, heq⟩)
      have hsame : (l.step lastOutput x).get? (l.key m) = lastOutput.get? (l.key m) := by
        unfold MemberLoop.step
        split
        · exact KMap.get?_insert_of_ne _ _ hne
        · rfl
      unfold MemberLoop.tuned
      rw [hsame]

theorem tuneControl_trackers (hmembers : (c.members.map (·.memberId)).Nodup) (raw : ℚ) {s : ProfileEngineState}
    (htr : tr ∈ trackersOf c s.protection) :
    (tuneControl c raw s).1.lastOutput.get? tr.key = some (tr.tuned c raw (s.lastOutput.get? tr.key)) := by
  rcases List.mem_cons.mp htr with rfl | htr
  · exact tuneControl_lastOutput c raw s
  · obtain ⟨m, hm, rfl⟩ := List.mem_map.mp htr
    obtain ⟨hm, htracked⟩ := List.mem_filter.mp hm
    unfold tuneControl
    dsimp only
    generalize roundPct (applyTuning c raw (s.lastOutput.get? c.id)) = pct
    have hnd : (c.members.map (MemberLoop.mk c raw pct s.protection).key).Nodup := by
      have heq : c.members.map (MemberLoop.mk c raw pct s.protection).key =
          (c.members.map (·.memberId)).map (memberKey c.id) := by
        rw [List.map_map]
        rfl
      rw [heq]
      exact hmembers.map fun _ _ h => memberKey_inj h
    refine (memberLoop_own ⟨c, raw, pct, s.protection⟩ hnd hm htracked _).trans ?_
    unfold MemberLoop.tuned MemberLoop.key
    dsimp only
    rw [KMap.get?_insert_of_ne _ _ (memberKey_ne _ _)]
    rfl

end Entries

/-! ## One tick -/

/-- The raw output of a control that was evaluated. -/
def Outcome.raw : Outcome → Option ℚ
  | evaluated rawOutput _ => some rawOutput
  | _ => none

/-- The raw output of a control on a tick that evaluates it. -/
def rawOn (p : DaemonProfile ℚ) (c : LogicalControl ℚ) (s : ProfileEngineState) (t : PlainTick) : Option ℚ :=
  ((engineTick p s t.input).visits.filter (·.control.id = c.id)).findSome? fun v => v.outcome.raw

section Tick

variable {p : DaemonProfile ℚ} {c : LogicalControl ℚ} {s : ProfileEngineState} {t : PlainTick}

/-- The control's own step, seen from one of its entries. -/
theorem tracker_of_controlStep (hmembers : (c.members.map (·.memberId)).Nodup) {tr : Tracker} (sensors : Sensors)
    (tick : KMap String ℚ) {s : ProfileEngineState} (htr : tr ∈ trackersOf c s.protection) :
    (controlStep p sensors noOverrides c tick s).state.lastOutput.get? tr.key =
      match (controlStep p sensors noOverrides c tick s).outcome.raw with
      | some raw => some (tr.tuned c raw (s.lastOutput.get? tr.key))
      | none => s.lastOutput.get? tr.key := by
  have hframe := rawOutput_frame p sensors c tick s
  have hlast := congrArg (fun m => m.get? tr.key) hframe.lastOutput
  have hfree : noOverrides.controls.get? c.id = none := rfl
  unfold controlStep
  rw [hfree]
  dsimp only at hlast ⊢
  cases (rawOutput p sensors c tick s).value with
  | error reason => exact hlast
  | ok raw =>
    dsimp only [Outcome.raw]
    rw [tuneControl_trackers hmembers raw (by rw [hframe.protection]; exact htr), hlast]

/-- **One tick**, seen from an entry of the control: tuned against what it was where the control is evaluated, and
left alone where it is not. -/
theorem tracker_of_tick (hs : ForProfile p s) (hc : c ∈ p.controls) (hown : Own p c) (hmembers : (c.members.map (·.memberId)).Nodup)
    {tr : Tracker} (htr : tr ∈ trackersOf c ⟨t.roles, t.facts⟩) :
    (plainStep p s t).lastOutput.get? tr.key =
      match rawOn p c s t with
      | some raw => some (tr.tuned c raw ((enteringPlain p s t).lastOutput.get? tr.key))
      | none => (enteringPlain p s t).lastOutput.get? tr.key := by
  obtain ⟨pre, i, post, haround⟩ := exists_around hown.ids hc
  have hentered : ForProfile p (s.enter t.input) := forProfile_enter hs t.input
  have hagree : ControlAgree c (enteringPlain p s t) (loop p t.sensors noOverrides (enteringPlain p s t) pre).state := by
    have happart := loop_apart t.sensors noOverrides (enteringPlain p s t) [] pre fun j hj =>
      haround.disjoint hown.keys rfl j (List.mem_append_left _ hj)
    rwa [List.nil_append, loop_nil] at happart
  have hprot : (enteringPlain p s t).protection = ⟨t.roles, t.facts⟩ := prepare_protection _ _
  have hkey := key_mem_ownKeys htr
  have hafter : (stepAfter p t.sensors noOverrides (enteringPlain p s t) pre c).state.lastOutput.get? tr.key =
      (plainStep p s t).lastOutput.get? tr.key :=
    (state_of_around t.sensors noOverrides hentered hown.keys rfl haround).lastOutput _ hkey
  have hraw : rawOn p c s t = (stepAfter p t.sensors noOverrides (enteringPlain p s t) pre c).outcome.raw := by
    have hvisits := (loop_after t.sensors noOverrides (enteringPlain p s t) haround (List.prefix_refl post)).2
    rw [← haround.split, ← evalOrder_prepare hentered] at hvisits
    exact (congrArg (List.findSome? fun v : Visit => v.outcome.raw) hvisits).trans (by simp)
  rw [← hafter, hraw, hagree.lastOutput _ hkey]
  exact tracker_of_controlStep hmembers t.sensors _ (by rw [← hagree.protection, hprot]; exact htr)

/-- Once the profile is entered a tick begins with the trackers the last one left. -/
structure Entered (p : DaemonProfile ℚ) (s : ProfileEngineState) : Prop where
  settled : Settled p s
  kept : s.activeProfileId = some p.id ∨ ∀ k, s.lastOutput.get? k = none

theorem Entered.lastOutput (h : Entered p s) (t : PlainTick) (k : String) :
    (enteringPlain p s t).lastOutput.get? k = s.lastOutput.get? k := by
  rcases h.kept with hactive | hempty
  · have hsync : (s.enter t.input).syncProfileId p.id = s.enter t.input := if_pos hactive
    obtain ⟨cache, hcache⟩ := (s.enter t.input).ensureStaticCache_eq p
    unfold enteringPlain ProfileEngineState.prepare
    rw [hsync, hcache]
    rfl
  · rcases prepare_lastOutput (s.enter t.input) p k with hnone | hsame
    · exact hnone.trans (hempty k).symm
    · exact hsame

theorem Entered.step (h : Entered p s) (t : PlainTick) : Entered p (plainStep p s t) where
  settled := h.settled.step t
  kept := .inl (evaluate_activeProfileId p t.sensors _ noOverrides)

theorem entered_new (p : DaemonProfile ℚ) : Entered p .new :=
  ⟨⟨forProfile_new p, nofun⟩, .inr fun _ => rfl⟩

end Tick

/-! ## Runs -/

/-- What an entry of the control held after the run's last evaluation of the control, `last` if there was none. -/
def lastTuned (p : DaemonProfile ℚ) (c : LogicalControl ℚ) (key : String) :
    ProfileEngineState → List PlainTick → Option ℚ → Option ℚ
  | _, [], last => last
  | s, t :: ts, last =>
    lastTuned p c key (plainStep p s t) ts (if (rawOn p c s t).isSome then (plainStep p s t).lastOutput.get? key else last)

section Run

variable {p : DaemonProfile ℚ} {c : LogicalControl ℚ} {prot : Protection}

/-- Ticks that skip the control in between do not move it. -/
theorem lastTuned_eq (hc : c ∈ p.controls) (hown : Own p c) (hmembers : (c.members.map (·.memberId)).Nodup) {tr : Tracker}
    (htr : tr ∈ trackersOf c prot) {ts : List PlainTick} (hsetup : ∀ t ∈ ts, (⟨t.roles, t.facts⟩ : Protection) = prot)
    {s : ProfileEngineState} (hs : Entered p s) :
    lastTuned p c tr.key s ts (s.lastOutput.get? tr.key) = (Machine.run (plainStep p) s ts).lastOutput.get? tr.key := by
  induction ts generalizing s with
  | nil => rfl
  | cons t ts ih =>
    obtain ⟨ht, hts⟩ := List.forall_mem_cons.mp hsetup
    rw [lastTuned, Machine.run_cons, ← ih hts (hs.step t)]
    congr 1
    split
    · rfl
    · next hskipped =>
      rw [tracker_of_tick hs.settled.plan hc hown hmembers (ht ▸ htr), Option.not_isSome_iff_eq_none.mp hskipped]
      exact (hs.lastOutput t tr.key).symm

theorem own_of_separateKeys (hids : (p.controls.map (·.id)).Nodup) (hkeys : SeparateKeys p) (c : LogicalControl ℚ) : Own p c := by
  refine ⟨hids, fun x hx _ d hd hne => ?_⟩
  have hkey : ∀ {x : LogicalControl ℚ} {k : String}, k ∈ ownKeys x → k = x.id ∨ ∃ m ∈ x.members, k = trackerKey (x, m) := by
    intro x k hk
    rcases List.mem_cons.mp hk with rfl | hk
    · exact .inl rfl
    · obtain ⟨m, hm, rfl⟩ := List.mem_map.mp hk
      exact .inr ⟨m, hm, rfl⟩
  have hmem : ∀ {x : LogicalControl ℚ} {m : ControlMember}, x ∈ p.controls → m ∈ x.members →
      trackerKey (x, m) ∈ (boundMembers p).map trackerKey :=
    fun hx hm => List.mem_map.mpr ⟨_, mem_boundMembers hx hm, rfl⟩
  intro k hk hk'
  rcases hkey hk with rfl | ⟨m, hm, rfl⟩
  · rcases hkey hk' with heq | ⟨m', hm', heq⟩
    · exact hne heq.symm
    · exact hkeys.notControl x hx (heq ▸ hmem hd hm')
  · rcases hkey hk' with heq | ⟨m', hm', heq⟩
    · exact hkeys.notControl d hd (heq ▸ hmem hx hm)
    · have hsame := List.inj_on_of_nodup_map hkeys.nodup (mem_boundMembers hx hm) (mem_boundMembers hd hm') heq
      exact hne (congrArg (fun b : LogicalControl ℚ × ControlMember => b.1.id) hsame).symm

theorem members_nodup (hkeys : SeparateKeys p) (hc : c ∈ p.controls) : (c.members.map (·.memberId)).Nodup := by
  have hsub : (c.members.map fun m => (c, m)).Sublist (boundMembers p) :=
    List.sublist_flatten_of_mem (List.mem_map.mpr ⟨c, hc, rfl⟩)
  have hnd := hkeys.nodup.sublist (hsub.map trackerKey)
  refine List.Nodup.of_map (memberKey c.id) ?_
  rw [List.map_map] at hnd ⊢
  exact hnd

/-- **Output range and step rate over runs.** Over plain ticks with constant roles and header facts every stored
output is a percentage, and whenever a control is evaluated, its entry and that of each member tuned on its own obey
the law against what they held after its evaluation before. -/
theorem step_rate_law (p : DaemonProfile ℚ) (hchecked : checkNumericRanges p = .ok ()) (hids : (p.controls.map (·.id)).Nodup)
    (hkeys : SeparateKeys p) (prot : Protection) (ts : List PlainTick)
    (hsetup : ∀ t ∈ ts, (⟨t.roles, t.facts⟩ : Protection) = prot) :
    TrackersInRange (Machine.run (plainStep p) .new ts) ∧
      ∀ pre t post, ts = pre ++ t :: post → ∀ c ∈ p.controls, ∀ raw,
        rawOn p c (Machine.run (plainStep p) .new pre) t = some raw → ∀ tr ∈ trackersOf c prot,
          ∃ tuned, (Machine.run (plainStep p) .new (pre ++ [t])).lastOutput.get? tr.key = some tuned ∧
            StepLaw c raw (lastTuned p c tr.key .new pre none) tr.floor tr.floorIsHard tuned := by
  have hentered : ∀ ts, Entered p (Machine.run (plainStep p) .new ts) :=
    fun ts => Machine.run_inv (I := Entered p) (fun _ t h => h.step t) .new ts (entered_new p)
  refine ⟨(hentered ts).settled.inRange, ?_⟩
  rintro pre t post rfl c hc raw hraw tr htr
  obtain ⟨hpre, hrest⟩ := List.forall_mem_append.mp hsetup
  obtain ⟨ht, -⟩ := List.forall_mem_cons.mp hrest
  have hown := own_of_separateKeys hids hkeys c
  have hmembers := members_nodup hkeys hc
  have hlast := lastTuned_eq hc hown hmembers htr hpre (entered_new p)
  have htick := tracker_of_tick (hentered pre).settled.plan hc hown hmembers (t := t) (ht ▸ htr)
  rw [hraw, (hentered pre).lastOutput, ← hlast] at htick
  have hrange := controlRanges_of_checked hchecked hc
  rw [Machine.run_append]
  refine ⟨_, htick, applyTuning_law hrange (floor_nonneg htr hrange.minimum.1) (fun x hx => ?_) raw⟩
  exact (hentered pre).settled.inRange tr.key x (hlast.symm.trans hx)

end Run

/-- Two controls with ids free of `::m::` whose members share a tracker. -/
def sharingControl : LogicalControl ℚ :=
  { plainControl "a" .manual "" 100 with
    members := [⟨.amdGpu, "m::x", "GPU", false⟩], minimumPct := 20, stepUpPct := 1, stepDownPct := 5 }

def sharingProfile : DaemonProfile ℚ :=
  ⟨"sharing", [sharingControl, { plainControl "a::m" .manual "" 0 with
    members := [⟨.amdGpu, "x", "GPU", false⟩], minimumPct := 20 }], []⟩

/-- A control that may not move up, on a ramp. -/
def frozenControl : LogicalControl ℚ := { plainControl "case" .curve "ramp" 0 with stepUpPct := 0 }

def frozenProfile : DaemonProfile ℚ := ⟨"frozen", [frozenControl],
  [{ degreeCurve "ramp" "cpu" with startOutputPct := some 0 }]⟩

/-- The ids are as they should be. -/
def CleanIds (p : DaemonProfile ℚ) : Prop :=
  (p.controls.map (·.id)).Nodup ∧ (∀ c ∈ p.controls, ¬ "::m::".toList <:+: c.id.toList) ∧
    ∀ c ∈ p.controls, (c.members.map (·.memberId)).Nodup

instance (p : DaemonProfile ℚ) : Decidable (CleanIds p) := by
  unfold CleanIds
  infer_instance

/-- **Where the law fails.** A member tuned to 100 % is at 1 % on the next tick, with a step down of 5: the other
control's member wrote the same entry. And a demand of 80 % is left at zero, with no stop threshold at all. -/
theorem step_rate_broken :
    (checkNumericRanges sharingProfile = .ok () ∧ CleanIds sharingProfile ∧
      (engineTick sharingProfile .new (plainTick []).input).visits.map (·.commands.map (·.pwmPercent)) = [[100], [0]] ∧
      (engineTick sharingProfile (plainStep sharingProfile .new (plainTick [])) (plainTick []).input).visits.map
        (·.commands.map (·.pwmPercent)) = [[1], [0]] ∧ ¬ 100 - sharingControl.stepDownPct ≤ 1) ∧
    (checkNumericRanges frozenProfile = .ok () ∧ CleanIds frozenProfile ∧
      rawOn frozenProfile frozenControl (plainStep frozenProfile .new (plainTick [("cpu", 0)])) (plainTick [("cpu", 80)]) =
        some 80 ∧
      (Machine.run (plainStep frozenProfile) .new [plainTick [("cpu", 0)], plainTick [("cpu", 80)]]).lastOutput.get? "case" =
        some 0 ∧
      ¬ (demand frozenControl 80 0 < frozenControl.stopPct ∨
        rateLimit frozenControl (some 0) (demand frozenControl 80 0) < frozenControl.stopPct)) := by
  refine ⟨⟨by decide +kernel, by decide +kernel, by decide +kernel, by decide +kernel, by decide +kernel⟩,
    ⟨by decide +kernel, by decide +kernel, by decide +kernel, by decide +kernel, by decide +kernel⟩⟩

/-- The frozen control obeys the law. -/
theorem frozen_step_rate :
    ∃ tuned, (Machine.run (plainStep frozenProfile) .new [plainTick [("cpu", 0)], plainTick [("cpu", 80)]]).lastOutput.get?
        "case" = some tuned ∧ StepLaw frozenControl 80 (some 0) 0 false tuned := by
  have hlaw := (step_rate_law frozenProfile (by decide) (by decide) (by decide) ⟨.empty, .empty⟩
    [plainTick [("cpu", 0)], plainTick [("cpu", 80)]]
    (by
      intro t ht
      simp only [List.mem_cons, List.not_mem_nil, or_false] at ht
      rcases ht with rfl | rfl <;> rfl)).2
    [plainTick [("cpu", 0)]] (plainTick [("cpu", 80)]) [] rfl frozenControl (List.mem_singleton_self _) 80 (by decide)
    ⟨"case", 0, false⟩ List.mem_cons_self
  have hlast : lastTuned frozenProfile frozenControl "case" .new [plainTick [("cpu", 0)]] none = some 0 := by decide +kernel
  rw [hlast] at hlaw
  exact hlaw

end ControlOfc.Engine
