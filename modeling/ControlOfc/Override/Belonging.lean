import ControlOfc.Override.HandlerSteps
/-! # Overrides belong to the active profile

A take checks its control against the profile and inserts under one guard, and both swaps clear the table
before they let go of it, so in every state the table's controls are those of the profile the guard shows
(`Named`). The engine's tick is outside that: it takes its overrides from the table first and reads the
profile later. An activation that comes between gives the tick the new profile with the old overrides;
`seesOwn_iff` says that nothing else does.
-/
namespace ControlOfc.Override
open Profile Config

namespace World

variable {F : Type} {inferred : String → HeaderRole × RoleSource} {w w' : World F} {m : Move F}

/-! ## Every override names a control of the active profile -/

/-- The active profile has a control of this id. -/
def Has (p : Option (DaemonProfile F)) (c : String) : Prop := ∃ q, p = some q ∧ hasControl q c

/-- The overrides are on controls of the active profile, and so is a take that has not inserted yet. -/
structure Named (w : World F) : Prop where
  table : ∀ c ov, w.table.controls.get? c = some ov → Has w.active c
  taking : ∀ c pct ttl o, w.guard = .taking c pct ttl o → Has w.profile c
  inserting : ∀ c pct ttl, w.guard = .inserting c pct ttl → Has w.profile c

theorem active_of_free (h : w.guard = .free) : w.active = w.profile := by simp [active, h]

theorem Named.did (hw : w.Named) (hdid : Did inferred w m w') : w'.Named := by
  cases hdid with
  | aside => exact ⟨hw.table, hw.taking, hw.inserting⟩
  | editing => exact ⟨hw.table, hw.taking, hw.inserting⟩
  | evaluate => exact ⟨hw.table, hw.taking, hw.inserting⟩
  | commits => exact ⟨hw.table, hw.taking, hw.inserting⟩
  | shrank _ table _ _ hs =>
    refine ⟨fun c ov h => ?_, hw.taking, hw.inserting⟩
    obtain ⟨ov', h', -⟩ := hs.controls c ov h
    exact hw.table c ov' h'
  | snapshot =>
    refine ⟨fun c ov h => ?_, hw.taking, hw.inserting⟩
    obtain ⟨ov', h', -⟩ := (Shrinks.sweep w.table w.now).controls c ov h
    exact hw.table c ov' h'
  | releases => exact ⟨hw.table, hw.taking, hw.inserting⟩
  | letGo _ _ hact =>
    refine ⟨fun c ov h => ?_, (fun _ _ _ _ h => by cases h), fun _ _ _ h => by cases h⟩
    have := hw.table c ov h
    rwa [hact] at this
  | take control pwmPercent ttl hfree hp hcontrol =>
    refine ⟨fun c ov h => ?_, fun c pct ttl' o hg => ?_, fun _ _ _ h => by cases h⟩
    · have := hw.table c ov h
      rwa [active_of_free hfree] at this
    · cases hg
      exact ⟨_, hp, hcontrol⟩
  | takeTable hg =>
    refine ⟨fun c ov h => ?_, (fun _ _ _ _ h => by cases h), fun c pct ttl hg' => ?_⟩
    · have := hw.table c ov h
      simpa [active, hg] using this
    · cases hg'
      exact hw.taking _ _ _ _ hg
  | @insert control pwmPercent ttl hg =>
    refine ⟨fun c ov h => ?_, (fun _ _ _ _ h => by cases h), fun _ _ _ h => by cases h⟩
    by_cases hc : c = control
    · subst hc
      exact hw.inserting _ _ _ hg
    · simp only [OverrideTable.takeOverride, KMap.get?_insert_of_ne _ _ hc] at h
      have := hw.table c ov h
      simpa [active, hg] using this
  | identify r hfree =>
    refine ⟨fun c ov h => ?_, (fun _ _ _ _ h => by cases h), fun _ _ _ h => by cases h⟩
    have := hw.table c ov h
    rwa [active_of_free hfree] at this
  | decided hg =>
    refine ⟨fun c ov h => ?_, (fun _ _ _ _ h => by cases h), fun _ _ _ h => by cases h⟩
    have := hw.table c ov h
    simpa [active, hg] using this
  | hold hg =>
    refine ⟨fun c ov h => ?_, (fun _ _ _ _ h => by cases h), fun _ _ _ h => by cases h⟩
    have := hw.table c ov h
    simpa [active, hg] using this
  | activate p hfree =>
    refine ⟨fun c ov h => ?_, (fun _ _ _ _ h => by cases h), fun _ _ _ h => by cases h⟩
    have := hw.table c ov h
    rwa [active_of_free hfree] at this
  | activateClear =>
    refine ⟨fun c ov h => ?_, (fun _ _ _ _ h => by cases h), fun _ _ _ h => by cases h⟩
    simp [OverrideTable.releaseIdentifyStops, OverrideTable.clearAllOverrides] at h
  | deactivate hfree =>
    refine ⟨fun c ov h => ?_, (fun _ _ _ _ h => by cases h), fun _ _ _ h => by cases h⟩
    have := hw.table c ov h
    rwa [active_of_free hfree] at this
  | deactivateClear =>
    refine ⟨fun c ov h => ?_, (fun _ _ _ _ h => by cases h), fun _ _ _ h => by cases h⟩
    simp [OverrideTable.clearAllOverrides] at h

theorem named_boot (profile : Option (DaemonProfile F)) (saved : SavedRoles) : (boot profile saved).Named :=
  ⟨by simp [boot, OverrideTable.new], nofun, nofun⟩

/-! ## When each override was taken -/

/-- The overrides of `t` were taken in epoch `e`, or before it where `older`. -/
def TakenIn (w : World F) (t : OverrideTable) (e : Nat) (older : Bool) : Prop :=
  ∀ c ov, t.controls.get? c = some ov →
    ov.token ≤ w.table.nextToken ∧ if older then w.takenAt ov.token < e else w.takenAt ov.token = e

/-- The table's overrides are of this epoch, but for an activation that has not cleared yet; the tick's are
of the epoch it took them in, but for the same. -/
structure Dated (w : World F) : Prop where
  table : w.TakenIn w.table w.epoch w.guard.midSwap
  seen : ∀ s, w.tick = some s → s.epoch ≤ w.epoch ∧ w.TakenIn s.table s.epoch s.midSwap

theorem TakenIn.shrinks {t t' : OverrideTable} {e : Nat} {older : Bool} (h : w.TakenIn t e older) (hs : Shrinks t t') :
    w.TakenIn t' e older := by
  intro c ov' hov'
  obtain ⟨ov, hov, htoken⟩ := hs.controls c ov' hov'
  rw [← htoken]
  exact h c ov hov

/-- Moves that issue no token date the overrides as before. -/
theorem TakenIn.of_eq {t : OverrideTable} {e : Nat} {older : Bool} (h : w.TakenIn t e older)
    (hcounter : w'.table.nextToken = w.table.nextToken) (htaken : w'.takenAt = w.takenAt) : w'.TakenIn t e older := by
  intro c ov hov
  rw [hcounter, htaken]
  exact h c ov hov

theorem Dated.seen_of_eq (hw : w.Dated) (htick : w'.tick = w.tick) (hepoch : w.epoch ≤ w'.epoch)
    (hcounter : w'.table.nextToken = w.table.nextToken) (htaken : w'.takenAt = w.takenAt) :
    ∀ s, w'.tick = some s → s.epoch ≤ w'.epoch ∧ w'.TakenIn s.table s.epoch s.midSwap := by
  intro s hs
  rw [htick] at hs
  obtain ⟨hle, htk⟩ := hw.seen s hs
  exact ⟨hle.trans hepoch, htk.of_eq hcounter htaken⟩

/-- A move that touches neither tokens nor epoch, and no guard on its way through an activation. -/
theorem Dated.of_shrinks (hw : w.Dated) (hs : Shrinks w.table w'.table) (htick : w'.tick = w.tick)
    (hepoch : w'.epoch = w.epoch) (htaken : w'.takenAt = w.takenAt) (hmid : w'.guard.midSwap = w.guard.midSwap) :
    w'.Dated := by
  constructor
  · rw [hepoch, hmid]
    exact (hw.table.shrinks hs).of_eq hs.counter htaken
  · exact hw.seen_of_eq htick hepoch.ge hs.counter htaken

theorem Dated.insert {control : String} {pwmPercent ttl : Nat} (hw : w.Dated) (hg : w.guard = .inserting control pwmPercent ttl) :
    Dated { w with
      guard := .free
      table := (w.table.takeOverride w.now control pwmPercent ttl).1
      takenAt := fun token => if token = w.table.nextToken + 1 then w.epoch else w.takenAt token } := by
  have hold : ∀ {t : OverrideTable} {e : Nat} {older : Bool}, w.TakenIn t e older → ∀ c ov, t.controls.get? c = some ov →
      ov.token ≤ w.table.nextToken + 1 ∧
        if older then (if ov.token = w.table.nextToken + 1 then w.epoch else w.takenAt ov.token) < e
        else (if ov.token = w.table.nextToken + 1 then w.epoch else w.takenAt ov.token) = e := by
    intro t e older h c ov hov
    obtain ⟨hle, hdate⟩ := h c ov hov
    rw [if_neg (show ov.token ≠ w.table.nextToken + 1 by omega)]
    exact ⟨by omega, hdate⟩
  constructor
  · intro c ov hov
    by_cases hc : c = control
    · subst hc
      simp only [OverrideTable.takeOverride, KMap.get?_insert_self, Option.some.injEq] at hov
      subst hov
      simp [OverrideTable.takeOverride, Guard.midSwap]
    · simp only [OverrideTable.takeOverride, KMap.get?_insert_of_ne _ _ hc] at hov
      have htable := hw.table
      rw [hg] at htable
      exact hold htable c ov hov
  · intro s hs
    obtain ⟨hle, htk⟩ := hw.seen s hs
    exact ⟨hle, hold htk⟩

theorem Dated.did (hw : w.Dated) (hdid : Did inferred w m w') : w'.Dated := by
  cases hdid with
  | aside => exact hw.of_shrinks (.refl _) rfl rfl rfl rfl
  | editing => exact hw.of_shrinks (.refl _) rfl rfl rfl rfl
  | commits => exact hw.of_shrinks (.refl _) rfl rfl rfl rfl
  | shrank _ _ _ _ hs => exact hw.of_shrinks hs rfl rfl rfl rfl
  | releases => exact hw.of_shrinks (.restore ..) rfl rfl rfl rfl
  | letGo _ hmid _ => exact hw.of_shrinks (.refl _) rfl rfl rfl hmid.symm
  | take _ _ _ hg => exact hw.of_shrinks (.refl _) rfl rfl rfl (by rw [hg]; rfl)
  | takeTable hg => exact hw.of_shrinks (.refl _) rfl rfl rfl (by rw [hg]; rfl)
  | identify _ hg => exact hw.of_shrinks (.refl _) rfl rfl rfl (by rw [hg]; rfl)
  | decided hg => exact hw.of_shrinks (.refl _) rfl rfl rfl (by rw [hg]; rfl)
  | hold hg =>
    have hmid : w.guard.midSwap = false := by rw [hg]; rfl
    have htable := hw.table
    rw [hmid] at htable
    exact ⟨htable, hw.seen⟩
  | insert hg => exact hw.insert hg
  | deactivate hg => exact hw.of_shrinks (.refl _) rfl rfl rfl (by rw [hg]; rfl)
  | deactivateClear hg => exact hw.of_shrinks (.clearAll _) rfl rfl rfl (by rw [hg]; rfl)
  | activate p hfree =>
    have htable := hw.table
    rw [hfree] at htable
    refine ⟨fun c ov hov => ?_, hw.seen_of_eq rfl (Nat.le_succ _) rfl rfl⟩
    obtain ⟨hle, hdate⟩ := htable c ov hov
    simp only [Guard.midSwap, Bool.false_eq_true, if_false, if_true] at hdate ⊢
    exact ⟨hle, by omega⟩
  | activateClear hg =>
    refine ⟨fun c ov hov => ?_, hw.seen_of_eq rfl le_rfl rfl rfl⟩
    simp [OverrideTable.releaseIdentifyStops, OverrideTable.clearAllOverrides] at hov
  | snapshot =>
    have hswept : w.TakenIn (w.table.sweep w.now).1 w.epoch w.guard.midSwap := hw.table.shrinks (.sweep ..)
    refine ⟨hswept, fun s hs => ?_⟩
    cases hs
    exact ⟨le_rfl, hswept⟩
  | evaluate => exact ⟨hw.table, fun _ h => by cases h⟩

theorem dated_boot (profile : Option (DaemonProfile F)) (saved : SavedRoles) : (boot profile saved).Dated :=
  ⟨by intro c ov h; simp [boot, OverrideTable.new] at h, nofun⟩

/-! ## What the first tick of a profile sees -/

/-- Every override the tick applies was taken since the activation it is the first to see. -/
def SeesOwn (w : World F) (s : Sight) : Prop :=
  ∀ c ov, s.table.controls.get? c = some ov → s.now < ov.expiresAt → w.takenAt ov.token = w.epoch

/-- No activation swapped the profile since the tick took its overrides, and none was between its swap and
its clear then; or the tick took no override. -/
def Undisturbed (w : World F) (s : Sight) : Prop :=
  (s.epoch = w.epoch ∧ s.midSwap = false) ∨ ∀ c, s.overrides.get? c = none

theorem seesOwn_iff {s : Sight} (hw : w.Dated) (hs : w.tick = some s) : w.SeesOwn s ↔ w.Undisturbed s := by
  obtain ⟨hle, htaken⟩ := hw.seen s hs
  constructor
  · intro hown
    by_cases hcalm : s.epoch = w.epoch ∧ s.midSwap = false
    · exact .inl hcalm
    · refine .inr fun c => Option.eq_none_iff_forall_ne_some.mpr fun pct hpct => hcalm ?_
      obtain ⟨ov, hov, hlive, -⟩ := (OverrideTable.snapshot_controls s.table s.now c pct).mp hpct
      have hnow := hown c ov hov hlive
      obtain ⟨-, hdate⟩ := htaken c ov hov
      cases hmid : s.midSwap with
      | true =>
        simp only [hmid, if_true] at hdate
        omega
      | false =>
        simp only [hmid, Bool.false_eq_true, if_false] at hdate
        exact ⟨hdate.symm.trans hnow, rfl⟩
  · rintro (⟨hepoch, hmid⟩ | hnone) c ov hov hlive
    · obtain ⟨-, hdate⟩ := htaken c ov hov
      simp only [hmid, Bool.false_eq_true, if_false] at hdate
      rw [hdate, hepoch]
    · have hsome := (OverrideTable.snapshot_controls s.table s.now c ov.pwmPercent).mpr ⟨ov, hov, hlive, rfl⟩
      have := hnone c
      simp [Sight.overrides, hsome] at this

/-- In every run each override names a control of the active profile, and the ticks that first see an
activated profile see none taken before it exactly when no activation comes between a tick's overrides and
its profile. -/
theorem overrides_belong (inferred : String → HeaderRole × RoleSource) (profile : Option (DaemonProfile F))
    (saved : SavedRoles) (ms : List (Move F)) :
    (∀ c ov, (Machine.run (step inferred) (boot profile saved) ms).table.controls.get? c = some ov →
      Has (Machine.run (step inferred) (boot profile saved) ms).active c) ∧
    (Machine.Along (step inferred) (fun w m => m = .evaluate → ∀ s, w.FirstSees s → w.SeesOwn s) (boot profile saved) ms ↔
      Machine.Along (step inferred) (fun w m => m = .evaluate → ∀ s, w.FirstSees s → w.Undisturbed s)
        (boot profile saved) ms) := by
  constructor
  · have hnamed : (Machine.run (step inferred) (boot profile saved) ms).Named :=
      Machine.run_inv (fun w m hw => hw.did (step_did inferred w m)) _ ms (named_boot profile saved)
    exact hnamed.table
  · refine Machine.along_congr_of_inv (I := Dated) (fun w m hw => hw.did (step_did inferred w m)) ?_ _
      (dated_boot profile saved) ms
    intro w m hw
    constructor
    · intro h hm s hs
      exact (seesOwn_iff hw hs.2.1).mp (h hm s hs)
    · intro h hm s hs
      exact (seesOwn_iff hw hs.2.1).mpr (h hm s hs)

/-- A profile with one control, on the chassis header. -/
def oneControl (id : String) : DaemonProfile ℚ :=
  ⟨id, [⟨"chassis", "Chassis", .curve, "curve", 0, [⟨.hwmon, "hwmon:nct6798:isa:pwm2", "Chassis", false⟩],
    100, 100, 0, 0, 0, 0⟩], []⟩

/-- A client pins the control of one profile at 20 %, the tick takes its overrides, and another profile with
a control of that id is activated before the tick reads it. -/
def lateActivation : List (Move ℚ) :=
  [.take "chassis" 20 none, .takeTable, .takeInsert, .snapshot, .activate (oneControl "performance"), .activateClear]

/-- The tick then evaluates the new profile for the first time with the duty pinned under the old one, in a
table that holds no override any more. -/
theorem old_override_on_new_profile :
    ∃ s : Sight,
      (Machine.run (step fun _ => (.unknown, .none)) (boot (some (oneControl "quiet")) []) lateActivation).FirstSees s ∧
      ¬ (Machine.run (step fun _ => (.unknown, .none)) (boot (some (oneControl "quiet")) []) lateActivation).SeesOwn s ∧
      s.overrides.get? "chassis" = some 20 ∧
      (Machine.run (step fun _ => (.unknown, .none)) (boot (some (oneControl "quiet")) [])
        lateActivation).table.controls.get? "chassis" = none := by
  have hlive : 0 < 0 + resolveTtl none := by simp [resolveTtl, overrideTtlSecs]
  refine ⟨_, ⟨rfl, rfl, rfl, nofun⟩, ?_, ?_, rfl⟩
  · intro h
    exact absurd (h "chassis" ⟨1, 20, 0 + resolveTtl none⟩ (by decide) hlive) (by decide)
  · exact (OverrideTable.snapshot_controls ..).mpr ⟨⟨1, 20, 0 + resolveTtl none⟩, by decide, hlive, rfl⟩

end World

end ControlOfc.Override
