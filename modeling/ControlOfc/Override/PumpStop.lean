import ControlOfc.Override.HandlerSteps
/-! # An identify stop never stays on a pump

Three facts can make a fan a pump: the role assigned to it, the role discovery inferred, a member of the
active profile. A stop is decided and inserted under both guards; an activation and a role edit swap first
and then release the stops on what they made a pump. So while a stop is on a pump, the handler that made it
one is between the two (`Pending`). A role edit releases its own header only, but it swaps in every role of
the file: `Stray` is the edit that brings another header's pump role from there.
-/
namespace ControlOfc.Override
open Profile Config

namespace World

variable {F : Type} {inferred : String → HeaderRole × RoleSource} {w w' : World F} {m : Move F}

/-- An identify stop is on the fan. -/
def StopOn (w : World F) (fan : String) : Prop := ∃ e, w.table.identify.get? fan = some e ∧ e.mode = .stop

/-- An identify has decided to stop the fan and is about to insert. -/
def StopComing (w : World F) (fan : String) : Prop := ∃ targetPct ttl, w.guard = .holding fan targetPct .stop ttl

/-- The handler that made the fan a pump has not released the stop on it yet. -/
def Pending (w : World F) (fan : String) : Prop :=
  (∃ replaced pumpIds, w.guard = .activating replaced pumpIds ∧ pumpIds fan = true) ∨ w.edit = .releasing fan

/-- No handler is between two of its steps. -/
def Quiet (w : World F) : Prop := w.guard = .free ∧ w.edit = .idle

theorem not_pending_of_quiet (h : w.Quiet) (fan : String) : ¬ w.Pending fan := by
  rintro (⟨_, _, hg, -⟩ | he)
  · rw [h.1] at hg
    cases hg
  · rw [h.2] at he
    cases he

/-! ## What protects a fan -/

/-- Some member of the profile in the guard names the fan a pump. -/
def profileNames (w : World F) (fan : String) : Bool := w.profile.any fun p => pumpHeaderIds p fan

theorem profileNames_congr (h : w'.profile = w.profile) : w'.profileNames = w.profileNames := by
  funext fan
  rw [profileNames, profileNames, h]

theorem pumpProtected_iff (w : World F) (inferred : String → HeaderRole × RoleSource) (fan : String) :
    w.pumpProtected inferred fan = true ↔
      w.profileNames fan = true ∨ (inferred fan).1 = .pump ∨ w.headerRoles.get? (roleKey fan) = some .pump := by
  cases h : w.headerRoles.get? (roleKey fan) <;>
    simp [pumpProtected, isPumpProtected, resolveRole, HeaderRole.isPump, h, profileNames, or_assoc]

/-- A stop is decided for an unprotected fan only. -/
theorem decide_stop {r : StopRequest} {names : Bool} (h : (w.decide inferred r names).2 = .stop) :
    isPumpProtected (w.headerRoles.get? (roleKey r.fan.id)) (inferred r.fan.id) names = false := by
  by_contra hp
  rw [Bool.not_eq_false] at hp
  simp [decide, hp, identifyTargetForRole, HeaderRole.isPump] at h

/-! ## The invariant -/

/-- Stops are on listed fans, and on a pump only while its release is pending; what a handler inside the
guard remembers of the profile is what the profile says. -/
structure Guarded (inferred : String → HeaderRole × RoleSource) (w : World F) : Prop where
  canonical : ∀ fan, w.StopOn fan ∨ w.StopComing fan → roleKey fan = fan
  pending : ∀ fan, w.StopOn fan ∨ w.StopComing fan → w.pumpProtected inferred fan = true → w.Pending fan
  names : ∀ r names, w.guard = .identifying r names → names = w.profileNames r.fan.id
  swapped : ∀ replaced pumpIds, w.guard = .activating replaced pumpIds → ∃ p, w.profile = some p ∧ pumpIds = pumpHeaderIds p
  own : w.edit.Own

/-- The edit about to commit brings a pump role from the file to another header that is stopped, or about
to be, and did not have one. -/
def Stray (w : World F) : Prop :=
  ∃ header role saved fan, w.edit = .saving header role saved true ∧ fan ≠ header ∧ (w.StopOn fan ∨ w.StopComing fan) ∧
    (headerRolesParsed saved).get? fan = some .pump ∧ w.headerRoles.get? fan ≠ some .pump

theorem guarded_boot (profile : Option (DaemonProfile F)) (saved : SavedRoles) : Guarded inferred (boot profile saved) := by
  have hno : ∀ fan, ¬ ((boot profile saved).StopOn fan ∨ (boot profile saved).StopComing fan) := by
    rintro fan (⟨e, he, -⟩ | ⟨_, _, hg⟩)
    · simp [boot, OverrideTable.new] at he
    · cases hg
  exact ⟨fun fan h => absurd h (hno fan), fun fan h => absurd h (hno fan), nofun, nofun, trivial⟩

/-- The stops are among the old ones, what is protected was, and what was pending for them still is. -/
theorem Guarded.of_stops (hw : Guarded inferred w)
    (hstop : ∀ fan, w'.StopOn fan ∨ w'.StopComing fan → w.StopOn fan ∨ w.StopComing fan)
    (hprot : ∀ fan, w'.pumpProtected inferred fan = true → w.pumpProtected inferred fan = true)
    (hpend : ∀ fan, w'.StopOn fan ∨ w'.StopComing fan → w.Pending fan → w'.Pending fan)
    (hnames : ∀ r names, w'.guard = .identifying r names → names = w'.profileNames r.fan.id)
    (hswapped : ∀ replaced pumpIds, w'.guard = .activating replaced pumpIds →
      ∃ p, w'.profile = some p ∧ pumpIds = pumpHeaderIds p)
    (hown : w'.edit.Own) : Guarded inferred w' where
  canonical := fun fan h => hw.canonical fan (hstop fan h)
  pending := fun fan h hp => hpend fan h (hw.pending fan (hstop fan h) (hprot fan hp))
  names := hnames
  swapped := hswapped
  own := hown

theorem StopOn.shrinks {fan : String} (hs : Shrinks w.table w'.table) (h : w'.StopOn fan) : w.StopOn fan := by
  obtain ⟨e, he, hmode⟩ := h
  exact ⟨e, hs.identify fan e he, hmode⟩

/-- Outside an activation only a role edit can have something pending. -/
theorem Pending.of_not_midSwap {fan : String} (h : w.Pending fan) (hmid : w.guard.midSwap = false) : w.edit = .releasing fan := by
  rcases h with ⟨_, _, hg, -⟩ | he
  · rw [hg] at hmid
    cases hmid
  · exact he

/-- The guard changes hands outside an activation, and nothing else of note changes. -/
theorem Guarded.passes (hw : Guarded inferred w) (guard : Guard F) (hmid : w.guard.midSwap = false)
    (hstop : ∀ fan targetPct ttl, guard ≠ .holding fan targetPct .stop ttl)
    (hnames : ∀ r names, guard = .identifying r names → names = w.profileNames r.fan.id)
    (hswapped : guard.midSwap = false) : Guarded inferred { w with guard } := by
  refine hw.of_stops ?_ (fun _ h => h) ?_ hnames ?_ hw.own
  · rintro fan (h | ⟨_, _, hg⟩)
    · exact .inl h
    · exact absurd hg (hstop _ _ _)
  · intro fan _ hp
    exact .inr (hp.of_not_midSwap hmid)
  · intro replaced pumpIds hg
    have hg' : guard = .activating replaced pumpIds := hg
    rw [hg'] at hswapped
    cases hswapped

/-- The table shrinks and nothing else of note changes. -/
theorem Guarded.thins (hw : Guarded inferred w) (hguard : w'.guard = w.guard) (hprofile : w'.profile = w.profile)
    (hroles : w'.headerRoles = w.headerRoles) (hedit : w'.edit = w.edit) (hs : Shrinks w.table w'.table) :
    Guarded inferred w' := by
  refine hw.of_stops ?_ ?_ ?_ ?_ ?_ ?_
  · rintro fan (h | ⟨targetPct, ttl, h⟩)
    · exact .inl (h.shrinks hs)
    · exact .inr ⟨targetPct, ttl, hguard ▸ h⟩
  · intro fan h
    rwa [pumpProtected, hroles, hprofile] at h
  · intro fan _ h
    rwa [Pending, hguard, hedit]
  · rw [hguard, profileNames_congr hprofile]
    exact hw.names
  · rw [hguard, hprofile]
    exact hw.swapped
  · rw [hedit]
    exact hw.own

theorem Guarded.decided {r : StopRequest} {names : Bool} (hw : Guarded inferred w) (hg : w.guard = .identifying r names)
    (ttl : Nat) :
    Guarded inferred { w with guard := .holding r.fan.id (w.decide inferred r names).1 (w.decide inferred r names).2 ttl } := by
  have hother : ∀ fan, w.StopOn fan → w.pumpProtected inferred fan = true → w.edit = .releasing fan := by
    intro fan h hp
    exact (hw.pending fan (.inl h) hp).of_not_midSwap (by rw [hg]; rfl)
  have hself : ∀ fan targetPct ttl',
      Guard.holding (F := F) r.fan.id (w.decide inferred r names).1 (w.decide inferred r names).2 ttl =
        .holding fan targetPct .stop ttl' → fan = r.fan.id ∧ w.pumpProtected inferred fan = false := by
    intro fan targetPct ttl' h
    simp only [Guard.holding.injEq] at h
    obtain ⟨rfl, -, hmode, -⟩ := h
    have hno := decide_stop hmode
    rw [hw.names r names hg] at hno
    exact ⟨rfl, hno⟩
  refine ⟨?_, ?_, nofun, nofun, hw.own⟩
  · rintro fan (h | ⟨targetPct, ttl', h⟩)
    · exact hw.canonical fan (.inl h)
    · rw [(hself fan targetPct ttl' h).1]
      exact r.fan.canonical
  · rintro fan (h | ⟨targetPct, ttl', h⟩) hp
    · exact .inr (hother fan h hp)
    · have hno : w.pumpProtected inferred fan = true := hp
      rw [(hself fan targetPct ttl' h).2] at hno
      cases hno

theorem Guarded.hold {fan : String} {targetPct : Nat} {mode : IdentifyMode} {ttl : Nat} (hw : Guarded inferred w)
    (hg : w.guard = .holding fan targetPct mode ttl) :
    Guarded inferred { w with guard := .free, table := w.table.identifyHold w.now fan targetPct mode ttl } := by
  refine hw.of_stops ?_ (fun _ h => h) ?_ nofun nofun hw.own
  · rintro f (⟨e, he, hmode⟩ | ⟨_, _, h⟩)
    · by_cases hf : f = fan
      · subst hf
        simp only [OverrideTable.identifyHold, KMap.get?_insert_self, Option.some.injEq] at he
        subst he
        cases hmode
        exact .inr ⟨_, _, hg⟩
      · simp only [OverrideTable.identifyHold, KMap.get?_insert_of_ne _ _ hf] at he
        exact .inl ⟨e, he, hmode⟩
    · cases h
  · intro f _ hp
    exact .inr (hp.of_not_midSwap (by rw [hg]; rfl))

theorem Guarded.activate (hw : Guarded inferred w) (p : DaemonProfile F) (hfree : w.guard = .free) :
    Guarded inferred { w with profile := some p, guard := .activating w.profile (pumpHeaderIds p), epoch := w.epoch + 1 } := by
  refine ⟨?_, ?_, nofun, ?_, hw.own⟩
  · rintro fan (h | ⟨_, _, h⟩)
    · exact hw.canonical fan (.inl h)
    · cases h
  · rintro fan (h | ⟨_, _, h⟩) hp
    · by_cases hnames : pumpHeaderIds p fan = true
      · exact .inl ⟨_, _, rfl, hnames⟩
      · have hbefore : w.pumpProtected inferred fan = true := by
          rw [pumpProtected_iff] at hp ⊢
          rcases hp with hp | hp
          · exact absurd (by simpa [profileNames] using hp) hnames
          · exact .inr hp
        exact .inr ((hw.pending fan (.inl h) hbefore).of_not_midSwap (by rw [hfree]; rfl))
    · cases h
  · rintro _ _ h
    cases h
    exact ⟨p, rfl, rfl⟩

theorem Guarded.activateClear {replaced : Option (DaemonProfile F)} {pumpIds : String → Bool} (hw : Guarded inferred w)
    (hg : w.guard = .activating replaced pumpIds) :
    Guarded inferred { w with guard := .free, table := (w.table.clearAllOverrides.releaseIdentifyStops pumpIds).1 } := by
  have hkept : ∀ fan e, (w.table.clearAllOverrides.releaseIdentifyStops pumpIds).1.identify.get? fan = some e →
      e.mode = .stop → pumpIds fan = false := by
    intro fan e he hmode
    simp only [OverrideTable.releaseIdentifyStops, KMap.get?_retain, Option.filter_eq_some_iff] at he
    simpa [hmode] using he.2
  refine hw.of_stops ?_ (fun _ h => h) ?_ (fun _ _ h => by cases h) (fun _ _ h => by cases h) hw.own
  · rintro fan (h | ⟨_, _, h⟩)
    · exact .inl (h.shrinks ((Shrinks.clearAll w.table).trans (.identifyStops ..)))
    · cases h
  · rintro fan (⟨e, he, hmode⟩ | ⟨_, _, h⟩) hp
    · rcases hp with ⟨_, pumpIds', hg', hids⟩ | hedit
      · rw [hg] at hg'
        cases hg'
        rw [hkept fan e he hmode] at hids
        cases hids
      · exact .inr hedit
    · cases h

theorem Guarded.commits {header : String} {role : Option HeaderRole} {saved : SavedRoles} (hw : Guarded inferred w)
    (hedit : w.edit = .saving header role saved true) (hstray : ¬ w.Stray) :
    Guarded inferred { w with
      headerRoles := headerRolesParsed saved
      edit := if role.any HeaderRole.isPump then .releasing header else .idle } := by
  have hown : (headerRolesParsed saved).get? header = role := by
    have := hw.own
    rwa [hedit] at this
  have hthrough : ∀ fan, w.Pending fan → ∃ replaced pumpIds, w.guard = .activating replaced pumpIds ∧ pumpIds fan = true := by
    rintro fan (h | h)
    · exact h
    · rw [hedit] at h
      cases h
  refine ⟨hw.canonical, ?_, hw.names, hw.swapped, ?_⟩
  · intro fan hstop hp
    have hcanonical : roleKey fan = fan := hw.canonical fan hstop
    have hold : w.pumpProtected inferred fan = true →
        ∃ replaced pumpIds, w.guard = .activating replaced pumpIds ∧ pumpIds fan = true :=
      fun h => hthrough fan (hw.pending fan hstop h)
    rw [pumpProtected_iff] at hp
    rcases hp with hp | hp | hp
    · exact .inl (hold ((pumpProtected_iff ..).mpr (.inl hp)))
    · exact .inl (hold ((pumpProtected_iff ..).mpr (.inr (.inl hp))))
    · dsimp only at hp
      rw [hcanonical] at hp
      by_cases hfan : fan = header
      · subst hfan
        rw [hown] at hp
        subst hp
        exact .inr rfl
      · by_cases hbefore : w.headerRoles.get? fan = some .pump
        · exact .inl (hold ((pumpProtected_iff ..).mpr (.inr (.inr (by rw [hcanonical]; exact hbefore)))))
        · exact absurd ⟨header, role, saved, fan, hedit, hfan, hstop, hp, hbefore⟩ hstray
  · dsimp only
    split <;> trivial

theorem Guarded.releases {header : String} (hw : Guarded inferred w) (hedit : w.edit = .releasing header)
    (htable : w.guard.holdsTable = false) :
    Guarded inferred { w with edit := .idle, table := w.table.identifyRestore header } := by
  refine hw.of_stops ?_ (fun _ h => h) ?_ hw.names hw.swapped trivial
  · rintro fan (h | h)
    · exact .inl (h.shrinks (.restore ..))
    · exact .inr h
  · rintro fan (⟨e, he, -⟩ | ⟨_, _, hg⟩) hp
    · rcases hp with h | h
      · exact .inl h
      · rw [hedit] at h
        cases h
        simp [OverrideTable.identifyRestore] at he
    · dsimp only at hg
      rw [hg] at htable
      cases htable

theorem Guarded.did (hw : Guarded inferred w) (hdid : Did inferred w m w') (hstray : m = .editCommits → ¬ w.Stray) :
    Guarded inferred w' := by
  cases hdid with
  | aside => exact ⟨hw.canonical, hw.pending, hw.names, hw.swapped, hw.own⟩
  | evaluate => exact ⟨hw.canonical, hw.pending, hw.names, hw.swapped, hw.own⟩
  | editing _ edit _ _ hbefore hafter hown =>
    refine hw.of_stops (fun _ h => h) (fun _ h => h) ?_ hw.names hw.swapped (hown hw.own)
    rintro fan - (h | h)
    · exact .inl h
    · rw [h] at hbefore
      cases hbefore
  | shrank _ _ _ _ hs => exact hw.thins rfl rfl rfl rfl hs
  | snapshot => exact hw.thins rfl rfl rfl rfl (.sweep w.table w.now)
  | letGo _ hmid _ => exact hw.passes .free hmid nofun nofun rfl
  | take _ _ _ hg => exact hw.passes _ (by rw [hg]; rfl) nofun nofun rfl
  | takeTable hg => exact hw.passes _ (by rw [hg]; rfl) nofun nofun rfl
  | insert hg =>
    have hfree := hw.passes .free (by rw [hg]; rfl) nofun nofun rfl
    exact ⟨hfree.canonical, hfree.pending, hfree.names, hfree.swapped, hfree.own⟩
  | identify r hg =>
    refine hw.passes _ (by rw [hg]; rfl) nofun (fun r' names h => ?_) rfl
    cases h
    rfl
  | decided hg => exact hw.decided hg _
  | hold hg => exact hw.hold hg
  | activate p hfree => exact hw.activate p hfree
  | activateClear hg => exact hw.activateClear hg
  | deactivate hfree =>
    have hpassed := hw.passes (.deactivating w.profile) (by rw [hfree]; rfl) nofun nofun rfl
    refine hpassed.of_stops (fun _ h => h) (fun fan h => ?_) (fun _ _ h => h) nofun nofun hw.own
    rw [pumpProtected_iff] at h ⊢
    rcases h with h | h
    · cases h
    · exact .inr h
  | deactivateClear hg =>
    have hpassed := hw.passes .free (by rw [hg]; rfl) nofun nofun rfl
    exact hpassed.thins rfl rfl rfl rfl (.clearAll w.table)
  | commits hedit => exact hw.commits hedit (hstray rfl)
  | releases hedit htable => exact hw.releases hedit htable

/-- In every run whose role edits bring no stray pump role onto a stopped fan: a stop is on a pump only
while the handler that made it one is unfinished, and never when no handler is between two of its steps. -/
theorem stop_never_on_pump (inferred : String → HeaderRole × RoleSource) (profile : Option (DaemonProfile F))
    (saved : SavedRoles) (ms : List (Move F))
    (hms : Machine.Along (step inferred) (fun w m => m = .editCommits → ¬ w.Stray) (boot profile saved) ms) :
    ∀ fan, (Machine.run (step inferred) (boot profile saved) ms).StopOn fan →
      (Machine.run (step inferred) (boot profile saved) ms).pumpProtected inferred fan = true →
      (Machine.run (step inferred) (boot profile saved) ms).Pending fan ∧
        ¬ (Machine.run (step inferred) (boot profile saved) ms).Quiet := by
  have hw : Guarded inferred (Machine.run (step inferred) (boot profile saved) ms) :=
    Machine.run_inv_of (fun w m hw hm => hw.did (step_did inferred w m) hm) _ ms (guarded_boot profile saved) hms
  intro fan hstop hp
  have hpending := hw.pending fan (.inl hstop) hp
  exact ⟨hpending, fun hquiet => not_pending_of_quiet hquiet fan hpending⟩

/-- Two OpenFan channels of the fan list. -/
def channel1 : ListedFan := ⟨"openfan:ch01", by decide⟩
def channel2 : ListedFan := ⟨"openfan:ch02", by decide⟩

/-- Nothing is inferred for an OpenFan channel. -/
def noEvidence : String → HeaderRole × RoleSource := fun _ => (.unknown, .none)

/-- An identify stop on a fan, which is then assigned `pump`. -/
def stopThenPump : List (Move ℚ) :=
  [.identifyStop ⟨channel1, none, 30, none⟩, .identifyTable, .identifyInsert,
    .editRole channel1.id (some .pump), .saveLands, .editCommits]

theorem stop_never_on_pump_releasing :
    (Machine.run (step noEvidence) (boot none []) stopThenPump).Pending channel1.id ∧
      ¬ (Machine.run (step noEvidence) (boot none []) stopThenPump).Quiet := by
  refine stop_never_on_pump noEvidence none [] stopThenPump ⟨nofun, nofun, nofun, nofun, nofun, fun _ => ?_, trivial⟩
    channel1.id ⟨_, rfl, rfl⟩ (by decide)
  rintro ⟨header, role, saved, fan, hedit, hfan, ⟨e, he, -⟩ | ⟨_, _, hg⟩, -, -⟩
  · cases hedit
    rw [channel1.canonical] at hfan
    change (KMap.insert .empty channel1.id (⟨0 + resolveTtl none, 0, .stop⟩ : IdentifyEntry)).get? fan = some e at he
    rw [KMap.get?_insert_of_ne _ _ hfan] at he
    cases he
  · cases hg

/-- A role edit that is dropped when its save has landed leaves its pump in the file only. The fan can be
stopped for identify, and the next edit, of another header, makes it a pump. -/
def droppedPumpEdit : List (Move ℚ) :=
  [.editRole channel1.id (some .pump), .saveLands, .editDropped,
    .identifyStop ⟨channel1, none, 30, none⟩, .identifyTable, .identifyInsert,
    .editRole channel2.id (some .chassisFan), .saveLands, .editCommits]

/-- Every handler has finished, and the stop holds the pump. -/
theorem stop_on_pump :
    (Machine.run (step noEvidence) (boot none []) droppedPumpEdit).Quiet ∧
      (Machine.run (step noEvidence) (boot none []) droppedPumpEdit).StopOn channel1.id ∧
      (Machine.run (step noEvidence) (boot none []) droppedPumpEdit).pumpProtected noEvidence channel1.id = true := by
  refine ⟨⟨rfl, rfl⟩, ⟨_, rfl, rfl⟩, ?_⟩
  decide

end World

end ControlOfc.Override
