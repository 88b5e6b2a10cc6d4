import ControlOfc.Hwmon.BusClock
/-! # One device, one report (hwmon/pwm_control.rs:1302-1429)

The device caches a raw duty for each of its channels, and a write of one channel sends every cache, the written
channel's replaced, and commits that one when the device acknowledges it. A resume zeroes the caches. So whether a
write stops a fan is about the caches of all the others: `prime_shared_report_siblings` raises those that are 0
first, and stops at the first raise that fails.

Main theorem `primeEach_raised`.
-/
namespace ControlOfc.Hwmon
open Pwm Bus

/-! ## The device -/

/-- A device: its directory, what its caches held at the start, and the accesses that found them zeroed. -/
structure ReportDevice where
  dir : String
  initial : String → Nat
  resumed : Nat → Bool

namespace ReportDevice

variable (dev : ReportDevice) (env : Sysfs) (hs : Headers) (log : List SysfsWrite)

/-- The access `t` wrote the channel `file`, and the device acknowledged it. -/
def commits (t : Nat) (file : String) (w : SysfsWrite) : Bool :=
  w.tick == t && w.attr == .duty && (hs.get? w.header).any (·.pwmPath = ⟨dev.dir, file⟩) && (env.fails t).isNone

/-- The caches as the access `t` finds them. -/
def cached : Nat → String → Nat
  | 0, file => if dev.resumed 0 then 0 else dev.initial file
  | t + 1, file =>
    if dev.resumed (t + 1) then 0
    else ((log.find? (dev.commits env hs t file)).map (·.value)).getD (cached t file)

/-- What the write `w` tells the header `s`. -/
def report (w : SysfsWrite) (s : PwmHeaderDescriptor) : Nat :=
  if w.header = s.id then w.value else dev.cached env hs log w.tick s.pwmPath.file

/-- A read of a channel is its cache, or fails. -/
def Answers (b : Bus) : Prop :=
  ∀ t < b.tick, ∀ file v, env.read t ⟨dev.dir, file⟩ = some v → v = dev.cached env hs b.log t file

variable {dev env hs log}

/-- A cache that is not 0 stays so while nothing zeroes it and nothing writes a 0. -/
theorem cached_ne_zero {t t' : Nat} {file : String} (hle : t ≤ t') (h : dev.cached env hs log t file ≠ 0)
    (hno : ∀ k, t < k → k ≤ t' → dev.resumed k = false)
    (hw : ∀ w ∈ log, t ≤ w.tick → w.tick < t' → w.value ≠ 0) : dev.cached env hs log t' file ≠ 0 := by
  induction t', hle using Nat.le_induction with
  | base => exact h
  | succ t' hle ih =>
    have hprev := ih (fun k hk hk' => hno k hk (Nat.le_succ_of_le hk')) fun w hm ht ht' => hw w hm ht (Nat.lt_succ_of_lt ht')
    rw [cached, if_neg (by simp [hno (t' + 1) (Nat.lt_succ_of_le hle) (Nat.le_refl _)])]
    cases hfind : log.find? (dev.commits env hs t' file) with
    | none => exact hprev
    | some w =>
      have htick : w.tick = t' := by
        have hcommits := List.find?_some hfind
        simp only [commits, Bool.and_eq_true, beq_iff_eq] at hcommits
        exact hcommits.1.1.1
      exact hw w (List.mem_of_find?_eq_some hfind) (htick ▸ hle) (htick ▸ Nat.lt_succ_self _)

/-- A write that the device acknowledges is what its cache then holds. -/
theorem cached_committed {t : Nat} {file : String} {w : SysfsWrite} (hm : w ∈ log)
    (hc : dev.commits env hs t file w = true) (hno : dev.resumed (t + 1) = false)
    (hnz : ∀ w ∈ log, w.tick = t → w.value ≠ 0) : dev.cached env hs log (t + 1) file ≠ 0 := by
  rw [cached, if_neg (by simp [hno])]
  cases hfind : log.find? (dev.commits env hs t file) with
  | none => exact absurd hc (List.find?_eq_none.mp hfind w hm)
  | some w' =>
    have hcommits := List.find?_some hfind
    simp only [commits, Bool.and_eq_true, beq_iff_eq] at hcommits
    exact hnz w' (List.mem_of_find?_eq_some hfind) hcommits.1.1.1

end ReportDevice

/-! ## One pass over the siblings -/

namespace HwmonRig

variable (env : Sysfs) (hs : Headers)

/-- A sibling whose turn it is, and the rig it finds. -/
structure PrimeVisit where
  rig : HwmonRig
  sibling : PwmHeaderDescriptor

namespace PrimeVisit

variable (v : PrimeVisit)

def cached : Option Nat := (v.rig.bus.read env v.sibling.pwmPath).1

def chosenZero : Bool := v.rig.ctrl.chosenZero v.sibling.id

/-- It is at a 0 that nobody chose, and is raised. -/
def raises : Bool := v.cached env == some 0 && !v.chosenZero

def write : SysfsWrite := ⟨v.rig.bus.tick + 1, v.sibling.id, .duty, percentToRaw primePct⟩

def fails : Bool := v.raises env && (env.fails (v.rig.bus.tick + 1)).isSome

/-- The bus once it has been read, and raised if it is to be. -/
def spent : Bus :=
  let read := (v.rig.bus.read env v.sibling.pwmPath).2
  if v.raises env then (read.write env v.sibling.id v.sibling.pwmPath .duty (percentToRaw primePct)).2 else read

/-- The rig that the next sibling finds. -/
def next : HwmonRig :=
  { v.rig with
    ctrl := if v.raises env then v.rig.ctrl.record v.sibling.id (some primePct) else v.rig.ctrl
    bus := v.spent env }

end PrimeVisit

/-- The siblings that `primeEach` comes to. -/
def primeVisits : HwmonRig → List PwmHeaderDescriptor → List PrimeVisit
  | _, [] => []
  | r, s :: rest => ⟨r, s⟩ :: if PrimeVisit.fails env ⟨r, s⟩ then [] else primeVisits (PrimeVisit.next env ⟨r, s⟩) rest

variable {env hs}

/-- One turn of the loop. -/
theorem primeEach_cons (dir : String) (r : HwmonRig) (s : PwmHeaderDescriptor) (rest : List PwmHeaderDescriptor) :
    primeEach env dir r (s :: rest) =
      if PrimeVisit.fails env ⟨r, s⟩ then
        { r with
          ctrl := { r.ctrl.record s.id none with primingSuspended := dir :: r.ctrl.primingSuspended }
          bus := PrimeVisit.spent env ⟨r, s⟩ }
      else primeEach env dir (PrimeVisit.next env ⟨r, s⟩) rest := by
  rw [primeEach]
  dsimp only
  by_cases hread : (r.bus.read env s.pwmPath).1 = some 0
  · by_cases hchosen : r.ctrl.chosenZero s.id = true
    · have hno : PrimeVisit.raises env ⟨r, s⟩ = false := by simp [PrimeVisit.raises, PrimeVisit.chosenZero, hchosen]
      rw [if_neg (not_not_intro hread), if_pos hchosen]
      simp [PrimeVisit.fails, PrimeVisit.next, PrimeVisit.spent, hno]
    · have hraises : PrimeVisit.raises env ⟨r, s⟩ = true := by
        simp [PrimeVisit.raises, PrimeVisit.cached, PrimeVisit.chosenZero, hread, hchosen]
      rw [if_neg (not_not_intro hread), if_neg hchosen]
      cases hfails : env.fails (r.bus.tick + 1) with
      | none => simp [PrimeVisit.fails, PrimeVisit.next, PrimeVisit.spent, hraises, Bus.write, Bus.read, hfails]
      | some e => simp [PrimeVisit.fails, PrimeVisit.spent, hraises, Bus.write, Bus.read, hfails]
  · have hno : PrimeVisit.raises env ⟨r, s⟩ = false := by simp [PrimeVisit.raises, PrimeVisit.cached, hread]
    rw [if_pos hread]
    simp [PrimeVisit.fails, PrimeVisit.next, PrimeVisit.spent, hno]

theorem primeVisits_cons (r : HwmonRig) (s : PwmHeaderDescriptor) (rest : List PwmHeaderDescriptor) :
    primeVisits env r (s :: rest) =
      ⟨r, s⟩ :: if PrimeVisit.fails env ⟨r, s⟩ then [] else primeVisits env (PrimeVisit.next env ⟨r, s⟩) rest := rfl

namespace PrimeVisit

variable (v : PrimeVisit)

theorem spent_later : v.rig.bus.Later (v.spent env) := by
  have hread := Bus.Later.read env v.rig.bus v.sibling.pwmPath
  unfold spent
  dsimp only
  split
  · exact hread.trans (.write env _ v.sibling.id v.sibling.pwmPath .duty (percentToRaw primePct))
  · exact hread

theorem since_spent : v.rig.bus.since (v.spent env) = if v.raises env then [v.write] else [] := by
  unfold spent
  dsimp only
  split
  · exact Bus.since_of_append rfl
  · exact Bus.since_of_append (List.append_nil _).symm

theorem spent_tick : (v.spent env).tick = v.rig.bus.tick + 1 + (v.raises env).toNat := by
  unfold spent
  dsimp only
  split
  · next h =>
    rw [h]
    rfl
  · next h =>
    rw [Bool.eq_false_iff.mpr h]
    rfl

/-- What a visit does not touch. -/
theorem next_same :
    (v.next env).ctrl.primingSuspended = v.rig.ctrl.primingSuspended ∧
      (v.next env).ctrl.writeState = v.rig.ctrl.writeState ∧ (v.next env).ctrl.exitMin = v.rig.ctrl.exitMin := by
  unfold next
  dsimp only
  split <;> exact ⟨rfl, rfl, rfl⟩

end PrimeVisit

section Pass

variable (dir : String) (ss : List PwmHeaderDescriptor) (r : HwmonRig)

/-- The pass writes what its visits raise. -/
theorem primeEach_since :
    r.bus.since (primeEach env dir r ss).bus = ((primeVisits env r ss).filter (·.raises env)).map (·.write) := by
  induction ss generalizing r with
  | nil => exact Bus.since_of_append (List.append_nil _).symm
  | cons s rest ih =>
    rw [primeEach_cons, primeVisits_cons]
    by_cases hf : PrimeVisit.fails env ⟨r, s⟩ = true
    · have hraises : PrimeVisit.raises env ⟨r, s⟩ = true := (Bool.and_eq_true_iff.mp hf).1
      rw [if_pos hf, if_pos hf, List.filter_cons_of_pos hraises]
      have hspent := @PrimeVisit.since_spent env ⟨r, s⟩
      rw [if_pos hraises] at hspent
      exact hspent
    · have hnext : r.bus.since (PrimeVisit.next env ⟨r, s⟩).bus = _ := @PrimeVisit.since_spent env ⟨r, s⟩
      have hlater : r.bus.Later (PrimeVisit.next env ⟨r, s⟩).bus := @PrimeVisit.spent_later env ⟨r, s⟩
      rw [if_neg hf, if_neg hf, hlater.since_trans (primeEach_later env dir rest _), hnext, ih]
      by_cases hr : PrimeVisit.raises env ⟨r, s⟩ = true
      · rw [if_pos hr, List.filter_cons_of_pos hr]
        rfl
      · rw [if_neg hr, List.filter_cons_of_neg hr]
        rfl

/-- It suspends the device exactly where a raise fails. -/
theorem primeEach_suspended :
    (primeEach env dir r ss).ctrl.primingSuspended =
      if (primeVisits env r ss).any (·.fails env) then dir :: r.ctrl.primingSuspended else r.ctrl.primingSuspended := by
  induction ss generalizing r with
  | nil => rfl
  | cons s rest ih =>
    rw [primeEach_cons, primeVisits_cons]
    by_cases hf : PrimeVisit.fails env ⟨r, s⟩ = true
    · simp [hf]
    · have hsame := (@PrimeVisit.next_same env ⟨r, s⟩).1
      rw [if_neg hf, if_neg hf, ih, hsame, List.any_cons, Bool.eq_false_iff.mpr hf, Bool.false_or]

theorem primeVisits_same {v : PrimeVisit} (hv : v ∈ primeVisits env r ss) :
    v.rig.ctrl.primingSuspended = r.ctrl.primingSuspended ∧ v.rig.ctrl.writeState = r.ctrl.writeState ∧
      v.rig.ctrl.exitMin = r.ctrl.exitMin := by
  induction ss generalizing r with
  | nil => cases hv
  | cons s rest ih =>
    rw [primeVisits_cons, List.mem_cons] at hv
    rcases hv with rfl | hv
    · exact ⟨rfl, rfl, rfl⟩
    · split at hv
      · cases hv
      · have hsame := @PrimeVisit.next_same env ⟨r, s⟩
        have hrest := ih _ hv
        exact ⟨hrest.1.trans hsame.1, hrest.2.1.trans hsame.2.1, hrest.2.2.trans hsame.2.2⟩

theorem primeVisits_siblings : (primeVisits env r ss).map (·.sibling) <+: ss := by
  induction ss generalizing r with
  | nil => exact List.prefix_rfl
  | cons s rest ih =>
    rw [primeVisits_cons, List.map_cons, List.prefix_cons_inj]
    split
    · exact List.nil_prefix
    · exact ih _

/-- It comes to every sibling, unless a raise fails. -/
theorem primeVisits_complete (h : (primeVisits env r ss).any (·.fails env) = false) :
    (primeVisits env r ss).map (·.sibling) = ss := by
  induction ss generalizing r with
  | nil => rfl
  | cons s rest ih =>
    rw [primeVisits_cons, List.any_cons, Bool.or_eq_false_iff] at h
    have hf : ¬PrimeVisit.fails env ⟨r, s⟩ = true := by simp [h.1]
    rw [if_neg hf] at h
    rw [primeVisits_cons, if_neg hf, List.map_cons, ih _ h.2]

/-- One raise fails at most, since it is the last. -/
theorem countP_fails_le : (primeVisits env r ss).countP (·.fails env) ≤ 1 := by
  induction ss generalizing r with
  | nil => exact Nat.zero_le _
  | cons s rest ih =>
    rw [primeVisits_cons, List.countP_cons]
    by_cases hf : PrimeVisit.fails env ⟨r, s⟩ = true
    · simp [hf]
    · rw [if_neg hf, if_neg hf]
      exact ih _

/-- A visit lies within the pass. -/
theorem primeVisits_later {v : PrimeVisit} (hv : v ∈ primeVisits env r ss) :
    r.bus.Later v.rig.bus ∧ (v.spent env).Later (primeEach env dir r ss).bus := by
  induction ss generalizing r with
  | nil => cases hv
  | cons s rest ih =>
    rw [primeVisits_cons, List.mem_cons] at hv
    rw [primeEach_cons]
    rcases hv with rfl | hv
    · refine ⟨.refl _, ?_⟩
      split
      · exact .refl _
      · exact primeEach_later env dir rest (PrimeVisit.next env ⟨r, s⟩)
    · split at hv
      · cases hv
      · next hf =>
        obtain ⟨hfrom, hto⟩ := ih _ hv
        rw [if_neg hf]
        exact ⟨(@PrimeVisit.spent_later env ⟨r, s⟩).trans hfrom, hto⟩

/-- Everything that a pass writes is full speed. -/
theorem primeEach_full {w : SysfsWrite} (hw : w ∈ r.bus.since (primeEach env dir r ss).bus) :
    ∃ v ∈ primeVisits env r ss, v.raises env = true ∧ w = v.write := by
  rw [primeEach_since, List.mem_map] at hw
  obtain ⟨v, hv, rfl⟩ := hw
  exact ⟨v, (List.mem_filter.mp hv).1, (List.mem_filter.mp hv).2, rfl⟩

end Pass

/-- Why a sibling that a pass has come to is at 0 at the access `t`, if it is: its cache could not be read, its 0
was chosen, or the caches were zeroed since they were read. -/
def Excused (dev : ReportDevice) (env : Sysfs) (t : Nat) (v : PrimeVisit) : Prop :=
  v.cached env = none ∨ v.chosenZero = true ∨ ∃ k, v.rig.bus.tick < k ∧ k ≤ t ∧ dev.resumed k = true

/-- A pass that no raise stopped leaves no sibling at a 0 that nobody chose. -/
theorem primeEach_raised {dev : ReportDevice} {r : HwmonRig} {ss : List PwmHeaderDescriptor} {b : Bus}
    (hclock : r.bus.Clocked) (hlater : (primeEach env dev.dir r ss).bus.Later b) (hans : dev.Answers env hs b)
    (hss : ∀ s ∈ ss, hs.get? s.id = some s ∧ s.pwmPath.dir = dev.dir)
    (hcomplete : (primeVisits env r ss).any (·.fails env) = false) {s : PwmHeaderDescriptor} (hs' : s ∈ ss) :
    ∃ v ∈ primeVisits env r ss, v.sibling = s ∧ (Excused dev env (primeEach env dev.dir r ss).bus.tick v ∨
      dev.cached env hs b.log (primeEach env dev.dir r ss).bus.tick s.pwmPath.file ≠ 0) := by
  rw [← primeVisits_complete ss r hcomplete, List.mem_map] at hs'
  obtain ⟨v, hv, rfl⟩ := hs'
  refine ⟨v, hv, rfl, ?_⟩
  have hmem : v.sibling ∈ ss := (primeVisits_siblings ss r).subset (List.mem_map_of_mem hv)
  obtain ⟨hget, hdir⟩ := hss _ hmem
  have hpath : v.sibling.pwmPath = ⟨dev.dir, v.sibling.pwmPath.file⟩ := by rw [← hdir]
  have hvfails : v.fails env = false := by simpa using List.any_eq_false.mp hcomplete v hv
  obtain ⟨hfrom, hto⟩ := primeVisits_later dev.dir ss r hv
  have hpass := primeEach_later env dev.dir ss r
  -- every write of the pass is at full speed
  have hfull : ∀ w ∈ b.log, v.rig.bus.tick ≤ w.tick → w.tick < (primeEach env dev.dir r ss).bus.tick → w.value ≠ 0 := by
    intro w hm ht ht'
    have hsince := Later.mem_since hclock hpass hlater hm (Nat.le_trans hfrom.tick ht) ht'
    obtain ⟨v', -, -, rfl⟩ := primeEach_full dev.dir ss r hsince
    exact (by decide : percentToRaw primePct ≠ 0)
  by_cases hzeroed : ∃ k, v.rig.bus.tick < k ∧ k ≤ (primeEach env dev.dir r ss).bus.tick ∧ dev.resumed k = true
  · exact .inl (.inr (.inr hzeroed))
  · have hno : ∀ k, v.rig.bus.tick < k → k ≤ (primeEach env dev.dir r ss).bus.tick → dev.resumed k = false :=
      fun k hk hk' => Bool.eq_false_iff.mpr fun hr => hzeroed ⟨k, hk, hk', hr⟩
    have hend := hto.tick
    rw [PrimeVisit.spent_tick] at hend
    cases hread : v.cached env with
    | none => exact .inl (.inl hread)
    | some n =>
      have hanswer : n = dev.cached env hs b.log v.rig.bus.tick v.sibling.pwmPath.file :=
        hans v.rig.bus.tick (Nat.lt_of_lt_of_le (by omega) hlater.tick) _ _ (by rw [← hpath]; exact hread)
      by_cases hraises : v.raises env = true
      · -- raised, and acknowledged
        have hlanded : env.fails (v.rig.bus.tick + 1) = none := by
          simpa [PrimeVisit.fails, hraises] using hvfails
        have hwrite : v.write ∈ b.log := by
          rw [hlater.log_eq, hpass.log_eq, primeEach_since]
          exact List.mem_append_left _ (List.mem_append_right _ (List.mem_map_of_mem (List.mem_filter.mpr ⟨hv, hraises⟩)))
        rw [hraises, Bool.toNat_true] at hend
        have hcommitted : dev.cached env hs b.log (v.rig.bus.tick + 1 + 1) v.sibling.pwmPath.file ≠ 0 := by
          refine ReportDevice.cached_committed hwrite ?_ (hno _ (by omega) hend) fun w hm ht => ?_
          · simp [ReportDevice.commits, PrimeVisit.write, hget, hlanded, ← hpath]
          · exact hfull w hm (by omega) (by omega)
        exact .inr (ReportDevice.cached_ne_zero hend hcommitted (fun k hk hk' => hno k (by omega) hk')
          fun w hm ht ht' => hfull w hm (by omega) ht')
      · by_cases hchosen : v.chosenZero = true
        · exact .inl (.inr (.inl hchosen))
        · have hne : n ≠ 0 := by
            rintro rfl
            exact hraises (by simp [PrimeVisit.raises, hread, hchosen])
          rw [hanswer] at hne
          exact .inr (ReportDevice.cached_ne_zero (by omega) hne hno hfull)

/-- A raise lowers no channel: it raises the one it writes from 0, and sends the others what they hold. -/
theorem raise_report_le {dev : ReportDevice} {v : PrimeVisit} {b : Bus} (hclock : v.rig.bus.Clocked)
    (hlater : (v.spent env).Later b) (hans : dev.Answers env hs b) (hraises : v.raises env = true)
    (hdir : v.sibling.pwmPath.dir = dev.dir) (hget : hs.get? v.sibling.id = some v.sibling) {x : PwmHeaderDescriptor}
    (hx : hs.get? x.id = some x) :
    dev.cached env hs b.log v.write.tick x.pwmPath.file ≤ dev.report env hs b.log v.write x := by
  unfold ReportDevice.report
  split
  · next hid =>
    have hsame : x = v.sibling := by
      have hid' : v.sibling.id = x.id := hid
      rw [← hid', hget] at hx
      exact (Option.some.inj hx).symm
    have hpath : v.sibling.pwmPath = ⟨dev.dir, v.sibling.pwmPath.file⟩ := by rw [← hdir]
    have hread : v.cached env = some 0 := by
      simp only [PrimeVisit.raises, Bool.and_eq_true, beq_iff_eq] at hraises
      exact hraises.1
    have htick := hlater.tick
    rw [PrimeVisit.spent_tick, hraises, Bool.toNat_true] at htick
    have hzero := hans v.rig.bus.tick (by omega) _ _ (by rw [← hpath]; exact hread)
    -- the read itself commits nothing
    have hnone : b.log.find? (dev.commits env hs v.rig.bus.tick v.sibling.pwmPath.file) = none := by
      rw [List.find?_eq_none]
      intro w hm hc
      have hwtick : w.tick = v.rig.bus.tick := by
        simp only [ReportDevice.commits, Bool.and_eq_true, beq_iff_eq] at hc
        exact hc.1.1.1
      have hsince := Bus.Later.mem_since hclock v.spent_later hlater hm (Nat.le_of_eq hwtick.symm)
        (by rw [PrimeVisit.spent_tick, hraises, Bool.toNat_true]; omega)
      rw [PrimeVisit.since_spent, if_pos hraises, List.mem_singleton] at hsince
      rw [hsince] at hwtick
      exact absurd hwtick (Nat.succ_ne_self _)
    rw [hsame]
    show dev.cached env hs b.log (v.rig.bus.tick + 1) v.sibling.pwmPath.file ≤ _
    rw [ReportDevice.cached, hnone]
    split
    · exact Nat.zero_le _
    · exact hzero ▸ Nat.zero_le _
  · exact Nat.le_refl _

end HwmonRig

end ControlOfc.Hwmon
