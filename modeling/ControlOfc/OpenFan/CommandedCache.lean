import ControlOfc.OpenFan.Controller
import Mathlib.Data.List.Induction
/-! # The published duty across an invalidation (health/cache.rs)

`invalidate_openfan_writes` bumps the generation and only then takes the guard of the cache to clear what it
published, while `set_openfan_commanded_pwm` compares and publishes under that guard. The guard keeps the clear out of
a publication, but not the bump, so a publication is two steps here, and any number of writers, invalidations and polls
go on between them.

| here | there |
| --- | --- |
| `OpenFanState` | state.rs:47 |
| `mergeFan`, `updateOpenfanFans` | cache.rs:482-507 |
| `forgetCommanded` | cache.rs:1312 |
| `publishCommanded`, `Event.compare`, `Event.publish` | cache.rs:1332-1365 |
| `clearCommanded`, `Event.bump`, `Event.clear` | cache.rs:1709-1715 |
-/
namespace ControlOfc.OpenFan

structure OpenFanState where
  channel : Nat
  rpm : Nat
  lastCommandedPwm : Option Nat
  updatedAt : Nat
  rpmPolled : Bool
  pollSeq : Nat
  deriving DecidableEq, Repr

/-- The fans of the cache, by channel. -/
abbrev OpenFans := KMap Nat OpenFanState

/-- What a poll has read: speeds, and no duty. -/
structure PollBatch where
  fans : List OpenFanState
  silent : ∀ f ∈ fans, f.lastCommandedPwm = none

namespace OpenFans

def commanded (fans : OpenFans) (channel : Nat) : Option Nat := (fans.get? channel).bind (·.lastCommandedPwm)

/-- One fan of a batch keeps the duty the cache has. -/
def mergeFan (fans : OpenFans) (fan : OpenFanState) : OpenFans :=
  let kept := fan.lastCommandedPwm.or (fans.commanded fan.channel)
  fans.insert fan.channel { fan with lastCommandedPwm := kept }

/-- `update_openfan_fans`. -/
def updateOpenfanFans (fans : OpenFans) (batch : List OpenFanState) : OpenFans := batch.foldl mergeFan fans

/-- `clear_openfan_commanded_pwm`. -/
def forgetCommanded (fans : OpenFans) (channel : Nat) : OpenFans :=
  match fans.get? channel with
  | some fan => fans.insert channel { fan with lastCommandedPwm := none }
  | none => fans

/-- What `set_openfan_commanded_pwm` does once the generations agree. -/
def publishCommanded (fans : OpenFans) (channel pwm now : Nat) : OpenFans :=
  match fans.get? channel with
  | some fan => fans.insert channel { fan with lastCommandedPwm := some pwm }
  | none => fans.insert channel ⟨channel, 0, some pwm, now, false, 0⟩

/-- What `invalidate_openfan_writes` does in the guard. -/
def clearCommanded (fans : OpenFans) : OpenFans := fans.filterMap fun _ fan => some { fan with lastCommandedPwm := none }

variable {fans : OpenFans}

theorem commanded_mergeFan {fan : OpenFanState} (h : fan.lastCommandedPwm = none) (ch : Nat) :
    (fans.mergeFan fan).commanded ch = fans.commanded ch := by
  unfold mergeFan commanded
  by_cases hch : ch = fan.channel
  · subst hch
    simp [h]
  · simp [hch]

/-- **A poll neither creates nor changes nor drops a duty.** -/
theorem commanded_updateOpenfanFans {batch : List OpenFanState} (h : ∀ f ∈ batch, f.lastCommandedPwm = none) (ch : Nat) :
    (fans.updateOpenfanFans batch).commanded ch = fans.commanded ch := by
  unfold updateOpenfanFans
  induction batch generalizing fans with
  | nil => rfl
  | cons fan batch ih =>
    rw [List.foldl_cons, ih fun f hf => h f (List.mem_cons_of_mem _ hf), commanded_mergeFan (h fan List.mem_cons_self)]

theorem commanded_forgetCommanded (channel ch : Nat) :
    (fans.forgetCommanded channel).commanded ch = if ch = channel then none else fans.commanded ch := by
  unfold forgetCommanded commanded
  cases hfan : fans.get? channel with
  | none => by_cases hch : ch = channel <;> simp [hch, hfan]
  | some fan => by_cases hch : ch = channel <;> simp [hch]

theorem commanded_publishCommanded (channel pwm now ch : Nat) :
    (fans.publishCommanded channel pwm now).commanded ch = if ch = channel then some pwm else fans.commanded ch := by
  unfold publishCommanded commanded
  cases fans.get? channel with
  | none => by_cases hch : ch = channel <;> simp [hch]
  | some fan => by_cases hch : ch = channel <;> simp [hch]

theorem commanded_clearCommanded (ch : Nat) : fans.clearCommanded.commanded ch = none := by
  unfold clearCommanded commanded
  cases hfan : fans.get? ch <;> simp [hfan]

/-! ### The share of the controller -/

/-- What the controller's model keeps of the fans. -/
def writeCache (fans : OpenFans) (generation : Nat) : WriteCache :=
  ⟨generation, fans.filterMap fun _ fan => some fan.lastCommandedPwm⟩

theorem writeCache_publishCommanded (channel pwm now generation : Nat) :
    (fans.publishCommanded channel pwm now).writeCache generation =
      (fans.writeCache generation).setCommanded channel pwm generation := by
  unfold publishCommanded writeCache WriteCache.setCommanded
  rw [if_neg (not_not.mpr rfl)]
  congr 1
  refine KMap.ext fun ch => ?_
  cases fans.get? channel with
  | none => by_cases hch : ch = channel <;> simp [hch]
  | some fan => by_cases hch : ch = channel <;> simp [hch]

theorem writeCache_forgetCommanded (channel generation : Nat) :
    (fans.forgetCommanded channel).writeCache generation = (fans.writeCache generation).clearCommanded channel := by
  unfold forgetCommanded writeCache WriteCache.clearCommanded
  cases hfan : fans.get? channel with
  | none => simp [hfan]
  | some fan =>
    simp only [KMap.get?_filterMap, hfan, Option.bind_some]
    congr 1
    refine KMap.ext fun ch => ?_
    by_cases hch : ch = channel <;> simp [hch]

theorem writeCache_clearCommanded (generation : Nat) :
    fans.clearCommanded.writeCache (generation + 1) = (fans.writeCache generation).invalidate := by
  unfold clearCommanded writeCache WriteCache.invalidate
  congr 1
  refine KMap.ext fun ch => ?_
  cases hfan : fans.get? ch <;> simp [hfan]

end OpenFans

/-! ## Writers, invalidations and polls -/

/-- A publication between its comparison and the end of its guard. -/
structure Publication where
  writer : Nat
  channel : Nat
  pwm : Nat
  generation : Nat
  deriving DecidableEq, Repr

structure FansRace where
  generation : Nat := 0
  fans : OpenFans := .empty
  /-- Bumps whose clear is still to come. -/
  halfDone : Nat := 0
  /-- What each writer observed before its wire write. -/
  observed : KMap Nat Nat := .empty
  guard : Option Publication := none

/-- One step of a party. -/
inductive FansEvent where
  | observe (writer : Nat)
  | compare (writer channel pwm : Nat)
  | publish (now : Nat)
  | forget (channel : Nat)
  | bump
  | clear
  | poll (batch : PollBatch)

/-- What a step did to the duties. -/
inductive FansEffect where
  | observed (writer generation : Nat)
  | wrote (p : Publication)
  | failed (channel : Nat)
  | bumped
  | cleared
  deriving DecidableEq, Repr

/-- The duty of `channel` is not what it was. -/
def FansEffect.touches (channel : Nat) : FansEffect → Prop
  | .observed _ _ => False
  | .wrote p => p.channel = channel
  | .failed ch => ch = channel
  | .bumped | .cleared => True

namespace FansRace

/-- A step that needs the guard waits for it. -/
def step (s : FansRace) : FansEvent → FansRace
  | .observe writer => { s with observed := s.observed.insert writer s.generation }
  | .compare writer channel pwm =>
    match s.guard, s.observed.get? writer with
    | none, some generation =>
      if s.generation ≠ generation then s else { s with guard := some ⟨writer, channel, pwm, generation⟩ }
    | _, _ => s
  | .publish now =>
    match s.guard with
    | some p => { s with fans := s.fans.publishCommanded p.channel p.pwm now, guard := none }
    | none => s
  | .forget channel => if s.guard.isSome then s else { s with fans := s.fans.forgetCommanded channel }
  | .bump => { s with generation := s.generation + 1, halfDone := s.halfDone + 1 }
  | .clear =>
    if s.guard.isSome || s.halfDone = 0 then s
    else { s with fans := s.fans.clearCommanded, halfDone := s.halfDone - 1 }
  | .poll batch => if s.guard.isSome then s else { s with fans := s.fans.updateOpenfanFans batch.fans }

def effect (s : FansRace) : FansEvent → Option FansEffect
  | .observe writer => some (.observed writer s.generation)
  | .compare _ _ _ | .poll _ => none
  | .publish _ => s.guard.map .wrote
  | .forget channel => if s.guard.isSome then none else some (.failed channel)
  | .bump => some .bumped
  | .clear => if s.guard.isSome || s.halfDone = 0 then none else some .cleared

/-- What a run did, in order. -/
def effects (es : List FansEvent) : List FansEffect := (Machine.trace step effect {} es).filterMap id

/-- `p` was made under a generation its writer observed, which is the current one unless a clear is still to come. -/
structure Sound (s : FansRace) (log : List FansEffect) (p : Publication) : Prop where
  observed : .observed p.writer p.generation ∈ log
  current : p.generation = s.generation ∨ 0 < s.halfDone

/-- The duty of a channel is that of its last publication, not cleared since. -/
def Published (s : FansRace) (log : List FansEffect) (channel pwm : Nat) : Prop :=
  ∃ before p after, log = before ++ .wrote p :: after ∧ p.channel = channel ∧ p.pwm = pwm ∧ Sound s before p ∧
    ∀ e ∈ after, e.touches channel → e = .bumped ∧ 0 < s.halfDone

structure Inv (s : FansRace) (log : List FansEffect) : Prop where
  observed : ∀ writer generation, s.observed.get? writer = some generation → .observed writer generation ∈ log
  guard : ∀ p, s.guard = some p → Sound s log p
  published : ∀ channel pwm, s.fans.commanded channel = some pwm → Published s log channel pwm

theorem inv_init : Inv {} [] := by
  refine ⟨nofun, nofun, fun channel pwm h => ?_⟩
  simp [OpenFans.commanded] at h

variable {s s' : FansRace} {log : List FansEffect} {p : Publication} {channel pwm : Nat}

theorem Sound.mono (h : Sound s log p) (more : List FansEffect)
    (hcurrent : s'.generation = s.generation ∧ s.halfDone ≤ s'.halfDone ∨ 0 < s'.halfDone) : Sound s' (log ++ more) p := by
  refine ⟨List.mem_append_left _ h.observed, ?_⟩
  rcases hcurrent with ⟨hgen, hhalf⟩ | hhalf
  · rcases h.current with heq | hlt
    · exact .inl (heq.trans hgen.symm)
    · exact .inr (Nat.lt_of_lt_of_le hlt hhalf)
  · exact .inr hhalf

/-- A step that leaves the duty of the channel alone. -/
theorem Published.mono (h : Published s log channel pwm) (more : List FansEffect)
    (hcurrent : s'.generation = s.generation ∧ s.halfDone ≤ s'.halfDone ∨ 0 < s'.halfDone)
    (hmore : ∀ e ∈ more, e.touches channel → e = .bumped ∧ 0 < s'.halfDone) : Published s' (log ++ more) channel pwm := by
  obtain ⟨before, p, after, rfl, hch, hpwm, hsound, hafter⟩ := h
  refine ⟨before, p, after ++ more, by simp, hch, hpwm, by simpa using hsound.mono [] hcurrent, fun e he ht => ?_⟩
  rcases List.mem_append.mp he with he | he
  · obtain ⟨hbump, hlt⟩ := hafter e he ht
    refine ⟨hbump, ?_⟩
    rcases hcurrent with ⟨-, hhalf⟩ | hhalf
    · exact Nat.lt_of_lt_of_le hlt hhalf
    · exact hhalf
  · exact hmore e he ht

theorem Inv.step (h : s.Inv log) (e : FansEvent) : (s.step e).Inv (log ++ (s.effect e).toList) := by
  obtain ⟨hobs, hguard, hpub⟩ := h
  cases e with
  | observe writer =>
    have hmore : ∀ channel, ∀ e ∈ [FansEffect.observed writer s.generation], e.touches channel → e = .bumped ∧ 0 < s.halfDone :=
      fun channel e he ht => by
        rw [List.mem_singleton.mp he] at ht
        exact ht.elim
    refine ⟨fun w g hw => ?_, fun p hp => (hguard p hp).mono _ (.inl ⟨rfl, le_rfl⟩),
      fun ch d hd => (hpub ch d hd).mono _ (.inl ⟨rfl, le_rfl⟩) (hmore ch)⟩
    by_cases heq : w = writer
    · subst heq
      obtain rfl : s.generation = g := by simpa [FansRace.step] using hw
      exact List.mem_append_right _ (List.mem_singleton_self _)
    · exact List.mem_append_left _ (hobs w g (by simpa [FansRace.step, heq] using hw))
  | compare writer channel pwm =>
    have hsame : s.Inv (log ++ []) := by simpa using (⟨hobs, hguard, hpub⟩ : s.Inv log)
    simp only [FansRace.step, effect, Option.toList_none]
    split
    · next generation hnone hw =>
      split
      · exact hsame
      · next hgen =>
        refine ⟨hsame.observed, fun p hp => ?_, fun ch d hd => (hpub ch d hd).mono [] (.inl ⟨rfl, le_rfl⟩) fun e he => absurd he List.not_mem_nil⟩
        obtain rfl := Option.some.inj hp
        exact ⟨by simpa using hobs writer generation hw, .inl (not_not.mp hgen).symm⟩
    · exact hsame
  | publish now =>
    cases hg : s.guard with
    | none => simpa [FansRace.step, effect, hg] using (⟨hobs, hguard, hpub⟩ : s.Inv log)
    | some p =>
      simp only [FansRace.step, effect, hg, Option.map_some, Option.toList_some]
      refine ⟨fun w g hw => List.mem_append_left _ (hobs w g hw), (fun p hp => by cases hp), fun ch d hd => ?_⟩
      rw [OpenFans.commanded_publishCommanded] at hd
      by_cases hch : ch = p.channel
      · rw [if_pos hch] at hd
        exact ⟨log, p, [], rfl, hch.symm, Option.some.inj hd, ⟨(hguard p hg).observed, (hguard p hg).current⟩, fun e he => absurd he List.not_mem_nil⟩
      · rw [if_neg hch] at hd
        refine (hpub ch d hd).mono _ (.inl ⟨rfl, le_rfl⟩) fun e he ht => ?_
        rw [List.mem_singleton.mp he] at ht
        exact absurd ht.symm hch
  | forget channel =>
    cases hg : s.guard with
    | some p => simpa [FansRace.step, effect, hg] using (⟨hobs, hguard, hpub⟩ : s.Inv log)
    | none =>
      simp only [FansRace.step, effect, hg, Option.isSome_none, Bool.false_eq_true, if_false, Option.toList_some]
      refine ⟨fun w g hw => List.mem_append_left _ (hobs w g hw), (fun p hp => by cases hp), fun ch d hd => ?_⟩
      rw [OpenFans.commanded_forgetCommanded] at hd
      by_cases hch : ch = channel
      · rw [if_pos hch] at hd
        cases hd
      · rw [if_neg hch] at hd
        refine (hpub ch d hd).mono _ (.inl ⟨rfl, le_rfl⟩) fun e he ht => ?_
        rw [List.mem_singleton.mp he] at ht
        exact absurd ht.symm hch
  | bump =>
    have hcurrent : 0 < (s.step .bump).halfDone := Nat.succ_pos _
    refine ⟨fun w g hw => List.mem_append_left _ (hobs w g hw), fun p hp => (hguard p hp).mono _ (.inr hcurrent),
      fun ch d hd => (hpub ch d hd).mono _ (.inr hcurrent) fun e he _ => ⟨List.mem_singleton.mp he, hcurrent⟩⟩
  | clear =>
    simp only [FansRace.step, effect]
    split
    · simpa using (⟨hobs, hguard, hpub⟩ : s.Inv log)
    · next hfree =>
      have hg : s.guard = none := by
        cases hg : s.guard with
        | none => rfl
        | some p => simp [hg] at hfree
      refine ⟨fun w g hw => List.mem_append_left _ (hobs w g hw), fun p hp => ?_, fun ch d hd => ?_⟩
      · rw [hg] at hp
        cases hp
      · rw [OpenFans.commanded_clearCommanded] at hd
        cases hd
  | poll batch =>
    have hsame : s.Inv (log ++ []) := by simpa using (⟨hobs, hguard, hpub⟩ : s.Inv log)
    simp only [FansRace.step, effect, Option.toList_none]
    split
    · exact hsame
    · refine ⟨hsame.observed, fun p hp => (hguard p hp).mono [] (.inl ⟨rfl, le_rfl⟩), fun ch d hd => ?_⟩
      rw [OpenFans.commanded_updateOpenfanFans batch.silent] at hd
      exact (hpub ch d hd).mono [] (.inl ⟨rfl, le_rfl⟩) fun e he => absurd he List.not_mem_nil

theorem effects_concat (es : List FansEvent) (e : FansEvent) :
    effects (es ++ [e]) = effects es ++ ((Machine.run step {} es).effect e).toList := by
  rw [effects, Machine.trace_append, List.filterMap_append]
  refine congrArg (effects es ++ ·) ?_
  cases heff : (Machine.run step {} es).effect e <;> simp [heff]

theorem run_inv (es : List FansEvent) : (Machine.run step {} es).Inv (effects es) := by
  induction es using List.reverseRecOn with
  | nil => exact inv_init
  | append_singleton es e ih =>
    rw [Machine.run_append, effects_concat]
    exact ih.step e

/-- **Outside an invalidation a published duty is that of the last word on its channel, written under the current
generation.** -/
theorem commanded_is_current (es : List FansEvent) :
    let s := Machine.run step {} es
    (s.halfDone = 0 → ∀ channel pwm, s.fans.commanded channel = some pwm →
      ∃ before p after, effects es = before ++ .wrote p :: after ∧ p.channel = channel ∧ p.pwm = pwm ∧
        p.generation = s.generation ∧ .observed p.writer p.generation ∈ before ∧ ∀ e ∈ after, ¬ e.touches channel) ∧
    ∀ (batch : PollBatch) (channel : Nat), (s.fans.updateOpenfanFans batch.fans).commanded channel = s.fans.commanded channel := by
  intro s
  refine ⟨fun hdone channel pwm hcommanded => ?_, fun batch => OpenFans.commanded_updateOpenfanFans batch.silent⟩
  obtain ⟨before, p, after, heq, hch, hpwm, hsound, hafter⟩ := (run_inv es).published channel pwm hcommanded
  have hnot : ¬ 0 < s.halfDone := by omega
  exact ⟨before, p, after, heq, hch, hpwm, hsound.current.resolve_right hnot, hsound.observed,
    fun e he ht => hnot (hafter e he ht).2⟩

/-- A late writer between the halves of an invalidation publishes nothing, and one after it does. -/
theorem commanded_is_current_late :
    let es : List FansEvent := [.observe 0, .bump, .compare 0 3 40, .publish 1, .clear, .observe 1, .compare 1 3 55, .publish 2]
    ∃ before p after, effects es = before ++ .wrote p :: after ∧ p.channel = 3 ∧ p.pwm = 55 ∧ p.generation = 1 ∧
      .observed p.writer p.generation ∈ before ∧ ∀ e ∈ after, ¬ e.touches 3 :=
  (commanded_is_current [.observe 0, .bump, .compare 0 3 40, .publish 1, .clear, .observe 1, .compare 1 3 55, .publish 2]).1
    rfl 3 55 rfl

end FansRace

end ControlOfc.OpenFan
