import ControlOfc.Override.Handlers
import ControlOfc.Lib.Machine
/-! # What one move of a handler does

`Shrinks`: nothing in the table is new. Every table operation but a take's and an identify's insertion only
shrinks the table. `Did`: the moves by their effect on what the table's entries are judged by; the invariants
over it are case splits on `Did`, and never open `step`.
-/
namespace ControlOfc.Override
open Profile Config

/-- Every entry of `t'` is one of `t`: an override under its token, an identify hold as it was. -/
structure Shrinks (t t' : OverrideTable) : Prop where
  counter : t'.nextToken = t.nextToken
  controls : ∀ c ov', t'.controls.get? c = some ov' → ∃ ov, t.controls.get? c = some ov ∧ ov.token = ov'.token
  identify : ∀ f e, t'.identify.get? f = some e → t.identify.get? f = some e

namespace Shrinks

variable {t : OverrideTable}

theorem refl (t : OverrideTable) : Shrinks t t := ⟨rfl, fun _ ov' h => ⟨ov', h, rfl⟩, fun _ _ h => h⟩

theorem trans {t t' t'' : OverrideTable} (h : Shrinks t t') (h' : Shrinks t' t'') : Shrinks t t'' where
  counter := h'.counter.trans h.counter
  controls := by
    intro c ov'' hov
    obtain ⟨ov', hov', ht'⟩ := h'.controls c ov'' hov
    obtain ⟨ov, hov, ht⟩ := h.controls c ov' hov'
    exact ⟨ov, hov, ht.trans ht'⟩
  identify := fun f e he => h.identify f e (h'.identify f e he)

theorem renew (t : OverrideTable) (now : Nat) (c : String) (token ttl : Nat) :
    Shrinks t (t.renewOverride now c token ttl).1 := by
  by_cases h : t.Holds now c token
  · obtain ⟨ov, hov, rfl, hlive⟩ := h
    rw [OverrideTable.renewOverride_of_holds hov hlive]
    refine ⟨rfl, fun c' ov' h' => ?_, fun _ _ h => h⟩
    by_cases hc : c' = c
    · subst hc
      rw [KMap.get?_insert_self] at h'
      cases h'
      exact ⟨ov, hov, rfl⟩
    · rw [KMap.get?_insert_of_ne _ _ hc] at h'
      exact ⟨ov', h', rfl⟩
  · rw [OverrideTable.renewOverride_of_not_holds h]
    exact refl t

theorem release (t : OverrideTable) (now : Nat) (c : String) (token : Nat) :
    Shrinks t (t.releaseOverride now c token).1 := by
  by_cases h : t.Holds now c token
  · obtain ⟨ov, hov, rfl, hlive⟩ := h
    rw [OverrideTable.releaseOverride_of_holds hov hlive]
    refine ⟨rfl, fun c' ov' h' => ?_, fun _ _ h => h⟩
    simp only [KMap.get?_remove, Option.ite_none_left_eq_some] at h'
    exact ⟨ov', h'.2, rfl⟩
  · rw [OverrideTable.releaseOverride_of_not_holds h]
    exact refl t

theorem restore (t : OverrideTable) (fan : String) : Shrinks t (t.identifyRestore fan) := by
  refine ⟨rfl, fun _ ov' h => ⟨ov', h, rfl⟩, fun f e he => ?_⟩
  simp only [OverrideTable.identifyRestore, KMap.get?_remove, Option.ite_none_left_eq_some] at he
  exact he.2

theorem clearAll (t : OverrideTable) : Shrinks t t.clearAllOverrides := by
  refine ⟨rfl, fun c ov' h => ?_, fun _ _ h => h⟩
  simp [OverrideTable.clearAllOverrides] at h

theorem identifyStops (t : OverrideTable) (ids : String → Bool) : Shrinks t (t.releaseIdentifyStops ids).1 := by
  refine ⟨rfl, fun _ ov' h => ⟨ov', h, rfl⟩, fun f e he => ?_⟩
  simp only [OverrideTable.releaseIdentifyStops, KMap.get?_retain, Option.filter_eq_some_iff] at he
  exact he.1

theorem maintenance (t : OverrideTable) (ids fans : String → Bool) : Shrinks t (t.releaseForMaintenance ids fans).1 := by
  refine ⟨rfl, fun c ov' h => ⟨ov', ?_, rfl⟩, fun f e he => ?_⟩
  · simp only [OverrideTable.releaseForMaintenance, KMap.get?_retain, Option.filter_eq_some_iff] at h
    exact h.1
  · simp only [OverrideTable.releaseForMaintenance, KMap.get?_retain, Option.filter_eq_some_iff] at he
    exact he.1

theorem sweep (t : OverrideTable) (now : Nat) : Shrinks t (t.sweep now).1 := by
  refine ⟨rfl, fun c ov' h => ⟨ov', ?_, rfl⟩, fun f e he => ?_⟩
  · simp only [OverrideTable.sweep, KMap.get?_retain, Option.filter_eq_some_iff] at h
    exact h.1
  · simp only [OverrideTable.sweep, KMap.get?_retain, Option.filter_eq_some_iff] at he
    exact he.1

end Shrinks

/-! ## The moves by their effect -/

def RoleEdit.isReleasing : RoleEdit → Bool
  | .releasing _ => true
  | _ => false

/-- The file an edit is saving gives its header the role it was asked for. -/
def RoleEdit.Own : RoleEdit → Prop
  | .saving header role saved _ => (headerRolesParsed saved).get? header = role
  | _ => True

namespace World

variable {F : Type}

/-- What a move `m` can have made of `w`. -/
inductive Did (inferred : String → HeaderRole × RoleSource) (w : World F) : Move F → World F → Prop where
  | aside (m : Move F) (now : Nat) (maintenance : Maintenance) (file : SavedRoles) (late : List SavedRoles) :
      Did inferred w m { w with now, maintenance, file, late }
  | editing (m : Move F) (edit : RoleEdit) (file : SavedRoles) (late : List SavedRoles) :
      w.edit.isReleasing = false → edit.isReleasing = false → (w.edit.Own → edit.Own) →
      Did inferred w m { w with edit, file, late }
  | shrank (m : Move F) (table : OverrideTable) (maintenance : Maintenance) :
      w.guard.holdsTable = false → Shrinks w.table table → Did inferred w m { w with table, maintenance }
  | letGo (m : Move F) : w.guard.midSwap = false → w.active = w.profile → Did inferred w m { w with guard := .free }
  | take {p : DaemonProfile F} (control : String) (pwmPercent : Nat) (ttl : Option Nat) :
      w.guard = .free → w.profile = some p → hasControl p control →
      Did inferred w (.take control pwmPercent ttl)
        { w with guard := .taking control pwmPercent (resolveTtl ttl) (drivesOpenfan p control) }
  | takeTable {control : String} {pwmPercent ttl : Nat} {openfan : Bool} :
      w.guard = .taking control pwmPercent ttl openfan →
      Did inferred w .takeTable { w with guard := .inserting control pwmPercent ttl }
  | insert {control : String} {pwmPercent ttl : Nat} : w.guard = .inserting control pwmPercent ttl →
      Did inferred w .takeInsert
        { w with
          guard := .free
          table := (w.table.takeOverride w.now control pwmPercent ttl).1
          takenAt := fun token => if token = w.table.nextToken + 1 then w.epoch else w.takenAt token }
  | identify (r : StopRequest) : w.guard = .free →
      Did inferred w (.identifyStop r)
        { w with guard := .identifying r (w.profile.any fun p => pumpHeaderIds p r.fan.id) }
  | decided {r : StopRequest} {profileNamesPump : Bool} : w.guard = .identifying r profileNamesPump →
      Did inferred w .identifyTable
        { w with
          guard := .holding r.fan.id (w.decide inferred r profileNamesPump).1 (w.decide inferred r profileNamesPump).2
            (resolveTtl r.ttl) }
  | hold {fan : String} {targetPct : Nat} {mode : IdentifyMode} {ttl : Nat} : w.guard = .holding fan targetPct mode ttl →
      Did inferred w .identifyInsert
        { w with guard := .free, table := w.table.identifyHold w.now fan targetPct mode ttl }
  | activate (p : DaemonProfile F) : w.guard = .free →
      Did inferred w (.activate p)
        { w with profile := some p, guard := .activating w.profile (pumpHeaderIds p), epoch := w.epoch + 1 }
  | activateClear {replaced : Option (DaemonProfile F)} {pumpIds : String → Bool} :
      w.guard = .activating replaced pumpIds →
      Did inferred w .activateClear
        { w with guard := .free, table := (w.table.clearAllOverrides.releaseIdentifyStops pumpIds).1 }
  | deactivate : w.guard = .free →
      Did inferred w .deactivate { w with profile := none, guard := .deactivating w.profile }
  | deactivateClear {replaced : Option (DaemonProfile F)} : w.guard = .deactivating replaced →
      Did inferred w .deactivateClear { w with guard := .free, table := w.table.clearAllOverrides }
  | commits {header : String} {role : Option HeaderRole} {saved : SavedRoles} :
      w.edit = .saving header role saved true →
      Did inferred w .editCommits
        { w with
          headerRoles := headerRolesParsed saved
          edit := if role.any HeaderRole.isPump then .releasing header else .idle }
  | releases {header : String} : w.edit = .releasing header → w.guard.holdsTable = false →
      Did inferred w .editReleases { w with edit := .idle, table := w.table.identifyRestore header }
  | snapshot : w.guard.holdsTable = false → w.tick = none →
      Did inferred w .snapshot
        { w with
          table := (w.table.sweep w.now).1
          tick := some ⟨(w.table.sweep w.now).1, w.now, w.epoch, w.guard.midSwap⟩ }
  | evaluate {s : Sight} : w.guard = .free → w.tick = some s →
      Did inferred w .evaluate { w with tick := none, lastEpoch := some w.epoch }

theorem Did.stays (inferred : String → HeaderRole × RoleSource) (w : World F) (m : Move F) : Did inferred w m w :=
  .aside m w.now w.maintenance w.file w.late

theorem onTable_did {inferred : String → HeaderRole × RoleSource} {w : World F} {m : Move F}
    {f : OverrideTable → OverrideTable} (h : ∀ t, Shrinks t (f t)) : Did inferred w m (w.onTable f) := by
  unfold onTable
  split
  · exact .stays inferred w m
  · exact .shrank m _ _ (Bool.eq_false_iff.mpr ‹_›) (h w.table)

theorem step_did (inferred : String → HeaderRole × RoleSource) (w : World F) (m : Move F) :
    Did inferred w m (w.step inferred m) := by
  cases m with
  | elapse ns => exact .aside _ (w.now + ns) w.maintenance w.file w.late
  | take control pwmPercent ttl =>
    simp only [step]
    split
    · split
      · exact .take control pwmPercent ttl ‹_› ‹_› (‹_ ∧ _›).2
      · exact .stays ..
    · exact .stays ..
  | takeTable =>
    simp only [step]
    split
    · rename_i hg
      split
      · exact .letGo _ (by simp [hg, Guard.midSwap]) (by simp [hg, active])
      · exact .takeTable hg
    · exact .stays ..
  | takeInsert =>
    simp only [step]
    split
    · exact .insert ‹_›
    · exact .stays ..
  | renew control token => exact onTable_did fun t => .renew t w.now control token _
  | release control token => exact onTable_did fun t => .release t w.now control token
  | identifyStop r =>
    simp only [step]
    split
    · exact .identify r ‹_›
    · exact .stays ..
  | identifyTable =>
    simp only [step]
    split
    · rename_i hg
      split
      · exact .letGo _ (by simp [hg, Guard.midSwap]) (by simp [hg, active])
      · exact .decided hg
    · exact .stays ..
  | identifyInsert =>
    simp only [step]
    split
    · exact .hold ‹_›
    · exact .stays ..
  | identifyRestore fan => exact onTable_did fun t => .restore t fan
  | activate p =>
    simp only [step]
    split
    · exact .activate p ‹_›
    · exact .stays ..
  | activateClear =>
    simp only [step]
    split
    · exact .activateClear ‹_›
    · exact .stays ..
  | deactivate =>
    simp only [step]
    split
    · exact .deactivate ‹_›
    · exact .stays ..
  | deactivateClear =>
    simp only [step]
    split
    · exact .deactivateClear ‹_›
    · exact .stays ..
  | claim =>
    simp only [step]
    split
    · exact .aside _ w.now .claimed w.file w.late
    · exact .stays ..
  | collect =>
    simp only [step]
    split
    · exact .aside _ w.now _ w.file w.late
    · exact .stays ..
  | releaseOpenfan =>
    simp only [step]
    split
    · split
      · exact .stays ..
      · exact .shrank _ _ _ (Bool.eq_false_iff.mpr ‹_›) (.maintenance ..)
    · exact .stays ..
  | updateEnds => exact .aside _ w.now .idle w.file w.late
  | editRole header role =>
    simp only [step]
    split
    · refine .editing _ _ w.file w.late (by simp [*, RoleEdit.isReleasing]) rfl fun _ => ?_
      simp [RoleEdit.Own, get?_headerRolesParsed_setHeaderRole]
    · exact .stays ..
  | saveLands =>
    simp only [step]
    split
    · exact .editing _ _ _ w.late (by simp [*, RoleEdit.isReleasing]) rfl (by simp [*, RoleEdit.Own])
    · exact .stays ..
  | saveFails =>
    simp only [step]
    split
    · exact .editing _ _ w.file w.late (by simp [*, RoleEdit.isReleasing]) rfl fun _ => trivial
    · exact .stays ..
  | editDropped =>
    simp only [step]
    split
    · exact .editing _ _ w.file _ (by simp [*, RoleEdit.isReleasing]) rfl fun _ => trivial
    · exact .stays ..
  | editCommits =>
    simp only [step]
    split
    · exact .commits ‹_›
    · exact .stays ..
  | editReleases =>
    simp only [step]
    split
    · split
      · exact .stays ..
      · exact .releases ‹_› (Bool.eq_false_iff.mpr ‹_›)
    · exact .stays ..
  | lateSaveLands i =>
    simp only [step]
    split
    · exact .aside _ w.now w.maintenance _ _
    · exact .stays ..
  | lateSaveFails i => exact .aside _ w.now w.maintenance w.file _
  | fileBecomes saved => exact .aside _ w.now w.maintenance saved w.late
  | snapshot =>
    simp only [step]
    split
    · exact .stays ..
    · rename_i h
      simp only [not_or, Bool.not_eq_true, Option.isSome_eq_false_iff, Option.isNone_iff_eq_none] at h
      exact .snapshot h.1 h.2
  | evaluate =>
    simp only [step]
    split
    · exact .evaluate ‹_› ‹_›
    · exact .stays ..

end World

end ControlOfc.Override
