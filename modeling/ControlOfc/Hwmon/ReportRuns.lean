import ControlOfc.Hwmon.DriftRig
import ControlOfc.Hwmon.SharedReport
/-! # What a run sends a shared report (hwmon/pwm_control.rs:529-569, :1132-1187)

`set_pwm` and the exit floor write a duty the same way: the siblings are primed, the header is written, and a device
that answers again is primed at once. That is a `Stroke`, and every duty that the two write belongs to one.

Main theorem `shared_report`.
-/
namespace ControlOfc.Hwmon
open Pwm Bus Machine

namespace HwmonRig

/-- A duty write, from where its priming starts. -/
structure Stroke where
  rig : HwmonRig
  header : PwmHeaderDescriptor
  pct : Nat
  /-- The exit floor notes the duty of any header, `set_pwm` of one without a mode switch only. -/
  always : Bool

namespace Stroke

variable (env : Sysfs) (hs : Headers) (s : Stroke)

/-- A pass over the siblings, from a rig. -/
def pass (r : HwmonRig) : List PrimeVisit :=
  if isSharedReportChip s.header.chipName && !r.ctrl.primingSuspended.contains s.header.pwmPath.dir then primeVisits env r (siblings hs s.header)
  else []

def primed : HwmonRig := primeSharedReportSiblings env hs s.rig s.header

/-- Priming of the device is suspended as the duty is written. -/
def suspended : Bool := (s.primed env hs).ctrl.primingSuspended.contains s.header.pwmPath.dir

def direct : SysfsWrite := ⟨(s.primed env hs).bus.tick, s.header.id, .duty, percentToRaw s.pct⟩

def landed : Bool := (env.fails (s.primed env hs).bus.tick).isNone

/-- The duty is written and noted. -/
def written : HwmonRig :=
  let r := s.primed env hs
  { r with
    ctrl := if s.always then r.ctrl.record s.header.id (some s.pct) else r.ctrl.recordNoMode s.header (some s.pct)
    bus := (r.bus.write env s.header.id s.header.pwmPath .duty (percentToRaw s.pct)).2 }

/-- The suspension is lifted. -/
def lifted : HwmonRig :=
  let r := s.written env hs
  { r with ctrl := { r.ctrl with primingSuspended := r.ctrl.primingSuspended.filter (· ≠ s.header.pwmPath.dir) } }

/-- The visits before the duty is written, and those that make up for a suspension after. -/
def before : List PrimeVisit := s.pass env hs s.rig

def after : List PrimeVisit := if s.landed env hs && s.suspended env hs then s.pass env hs (s.lifted env hs) else []

/-- The bus once it is all done. -/
def finished : Bus :=
  if s.landed env hs then (resumePrimingAfterSuccess env hs (s.written env hs) s.header).bus else (s.written env hs).bus

/-- The priming writes of some visits. -/
def raised (vs : List PrimeVisit) : List SysfsWrite := (vs.filter (·.raises env)).map (·.write)

def writes : List SysfsWrite := raised env (s.before env hs) ++ s.direct env hs :: raised env (s.after env hs)

variable {env hs}

theorem landed_eq : s.landed env hs =
    ((s.primed env hs).bus.write env s.header.id s.header.pwmPath .duty (percentToRaw s.pct)).1.isNone := by
  simp [landed, Bus.write]

theorem primed_later : s.rig.bus.Later (s.primed env hs).bus := prime_later env hs s.rig s.header

theorem since_prime (r : HwmonRig) :
    r.bus.since (primeSharedReportSiblings env hs r s.header).bus = raised env (s.pass env hs r) := by
  unfold primeSharedReportSiblings pass
  split
  · exact primeEach_since s.header.pwmPath.dir _ r
  · exact Bus.since_of_append (List.append_nil _).symm

theorem written_later : (s.primed env hs).bus.Later (s.written env hs).bus :=
  .write env _ s.header.id s.header.pwmPath .duty (percentToRaw s.pct)

theorem finished_later : (s.written env hs).bus.Later (s.finished env hs) := by
  unfold finished
  split
  · exact resumePriming_later env hs _ s.header
  · exact .refl _

/-- Noting a duty suspends nothing and lifts nothing. -/
theorem written_suspended : (s.written env hs).ctrl.primingSuspended = (s.primed env hs).ctrl.primingSuspended := by
  unfold written HwmonPwmController.recordNoMode
  dsimp only
  split_ifs <;> rfl

theorem finished_eq : s.finished env hs =
    if s.landed env hs && s.suspended env hs then (primeSharedReportSiblings env hs (s.lifted env hs) s.header).bus
    else (s.written env hs).bus := by
  have hsame : (s.written env hs).ctrl.primingSuspended.contains s.header.pwmPath.dir = s.suspended env hs := by
    rw [written_suspended]
    rfl
  unfold finished
  cases s.landed env hs with
  | false => rfl
  | true =>
    rw [if_pos rfl, Bool.true_and, resumePrimingAfterSuccess, hsame]
    cases s.suspended env hs with
    | false =>
      rw [Bool.and_false]
      rfl
    | true =>
      rw [Bool.and_true]
      split
      · rfl
      · next hchip =>
        rw [if_pos rfl, primeSharedReportSiblings, Bool.eq_false_iff.mpr hchip]
        rfl

theorem since_finished : s.rig.bus.since (s.finished env hs) = s.writes env hs := by
  rw [(s.primed_later).since_trans ((s.written_later).trans s.finished_later), (s.written_later).since_trans s.finished_later]
  have hbefore : s.rig.bus.since (s.primed env hs).bus = raised env (s.before env hs) := s.since_prime s.rig
  have hdirect : (s.primed env hs).bus.since (s.written env hs).bus = [s.direct env hs] := Bus.since_of_append rfl
  have hafter : (s.written env hs).bus.since (s.finished env hs) = raised env (s.after env hs) := by
    rw [finished_eq, after]
    split
    · exact s.since_prime (s.lifted env hs)
    · exact Bus.since_of_append (List.append_nil _).symm
  rw [hbefore, hdirect, hafter]
  rfl

variable {s} in
theorem finished_landed (h : s.landed env hs = true) :
    s.finished env hs = (resumePrimingAfterSuccess env hs (s.written env hs) s.header).bus := by
  rw [finished, if_pos h]

variable {s} in
theorem finished_lost (h : s.landed env hs = false) : s.finished env hs = (s.written env hs).bus := by
  rw [finished, h]
  rfl

theorem stroke_later : s.rig.bus.Later (s.finished env hs) := (s.primed_later.trans s.written_later).trans s.finished_later

/-! ## Which visits there are -/

/-- A visit of a pass is to a sibling, on a device whose priming is not suspended. -/
theorem pass_visit {r : HwmonRig} {v : PrimeVisit} (hv : v ∈ s.pass env hs r) :
    v ∈ primeVisits env r (siblings hs s.header) ∧ v.sibling ∈ siblings hs s.header ∧
      s.header.pwmPath.dir ∉ v.rig.ctrl.primingSuspended := by
  unfold pass at hv
  split at hv
  · next h =>
    rw [Bool.and_eq_true, Bool.not_eq_true'] at h
    refine ⟨hv, (primeVisits_siblings _ r).subset (List.mem_map_of_mem hv), ?_⟩
    rw [(primeVisits_same _ r hv).1]
    simpa using h.2
  · cases hv

theorem pass_counts (r : HwmonRig) :
    (raised env (s.pass env hs r)).length ≤ (siblings hs s.header).length ∧ (s.pass env hs r).countP (·.fails env) ≤ 1 := by
  unfold pass raised
  split
  · refine ⟨?_, countP_fails_le _ r⟩
    have hle := (@primeVisits_siblings env (siblings hs s.header) r).length_le
    rw [List.length_map] at hle ⊢
    exact Nat.le_trans (List.length_filter_le _ _) hle
  · exact ⟨Nat.zero_le _, Nat.zero_le _⟩

theorem pass_later {r : HwmonRig} {v : PrimeVisit} (hv : v ∈ s.pass env hs r) :
    r.bus.Later v.rig.bus ∧ (v.spent env).Later (primeSharedReportSiblings env hs r s.header).bus := by
  unfold pass at hv
  unfold primeSharedReportSiblings
  split at hv
  · next hpass =>
    rw [if_pos hpass]
    exact primeVisits_later s.header.pwmPath.dir _ r hv
  · cases hv

/-- A visit of a stroke starts and ends within it. -/
theorem visit_later {v : PrimeVisit} (hv : v ∈ s.before env hs ++ s.after env hs) :
    s.rig.bus.Later v.rig.bus ∧ (v.spent env).Later (s.finished env hs) := by
  rcases List.mem_append.mp hv with hv | hv
  · obtain ⟨hfrom, hto⟩ := s.pass_later hv
    exact ⟨hfrom, (hto.trans s.written_later).trans s.finished_later⟩
  · unfold after at hv
    split at hv
    · next hlanded =>
      obtain ⟨hfrom, hto⟩ := s.pass_later hv
      rw [finished_eq, if_pos hlanded]
      exact ⟨(s.primed_later.trans s.written_later).trans hfrom, hto⟩
    · cases hv

theorem visit {v : PrimeVisit} (hv : v ∈ s.before env hs ++ s.after env hs) :
    v.sibling ∈ siblings hs s.header ∧ s.header.pwmPath.dir ∉ v.rig.ctrl.primingSuspended := by
  rcases List.mem_append.mp hv with hv | hv
  · exact (s.pass_visit hv).2
  · unfold after at hv
    split at hv
    · exact (s.pass_visit hv).2
    · cases hv

theorem after_counts :
    (raised env (s.after env hs)).length ≤ (siblings hs s.header).length ∧ (s.after env hs).countP (·.fails env) ≤ 1 := by
  unfold after
  split
  · exact s.pass_counts (s.lifted env hs)
  · exact ⟨Nat.zero_le _, Nat.zero_le _⟩

/-- A device that is not suspended by the time its duty is written has had its pass, and no raise failed. -/
theorem unsuspended_pass (hchip : isSharedReportChip s.header.chipName = true) (h : s.suspended env hs = false) :
    s.before env hs = primeVisits env s.rig (siblings hs s.header) ∧
      (primeVisits env s.rig (siblings hs s.header)).any (·.fails env) = false ∧
      s.primed env hs = primeEach env s.header.pwmPath.dir s.rig (siblings hs s.header) := by
  unfold suspended primed primeSharedReportSiblings at h
  unfold before pass primed primeSharedReportSiblings
  split at h
  · next hpass =>
    rw [if_pos hpass, if_pos hpass]
    refine ⟨rfl, ?_, rfl⟩
    rw [primeEach_suspended] at h
    split at h
    · simp at h
    · next hfails => exact Bool.eq_false_iff.mpr hfails
  · next hpass =>
    simp [hchip] at hpass
    simp [hpass] at h

end Stroke

/-! ## What a stroke sends -/

/-- The channels of a device. -/
def channels (hs : Headers) (dir : String) : Nat := (hs.list.filter (·.pwmPath.dir = dir)).length

theorem siblings_lt {h : PwmHeaderDescriptor} (hh : h ∈ hs.list) : (siblings hs h).length < channels hs h.pwmPath.dir := by
  have hsub : (hs.list.filter fun s => s.id ≠ h.id && s.isWritable && s.pwmPath.dir = h.pwmPath.dir) =
      (hs.list.filter (·.pwmPath.dir = h.pwmPath.dir)).filter fun s => s.id ≠ h.id && s.isWritable := by
    rw [List.filter_filter]
  rw [siblings, List.length_insertionSort, hsub, channels, List.length_filter_lt_length_iff_exists]
  exact ⟨h, List.mem_filter.mpr ⟨hh, by simp⟩, by simp⟩

/-- What a stroke to the device sends and does not. -/
structure Stroke.Guarded (dev : ReportDevice) (env : Sysfs) (hs : Headers) (log : List SysfsWrite) (s : Stroke) : Prop where
  /-- The duty's own report sends a sibling a 0 only where the sibling is excused. -/
  guarded : s.suspended env hs = false → ∀ x ∈ siblings hs s.header, dev.report env hs log (s.direct env hs) x = 0 →
    ∃ v ∈ s.before env hs, v.sibling = x ∧ Excused dev env (s.direct env hs).tick v
  /-- Nothing is raised while the device is suspended. -/
  unsuspended : ∀ v ∈ s.before env hs ++ s.after env hs, s.header.pwmPath.dir ∉ v.rig.ctrl.primingSuspended
  /-- A write that lands on a suspended device is followed by a pass, at the next access. -/
  resumed : s.suspended env hs = true → s.landed env hs = true →
    s.after env hs = primeVisits env (s.lifted env hs) (siblings hs s.header) ∧
      (s.lifted env hs).bus.tick = (s.direct env hs).tick + 1 ∧
      ((s.after env hs).map (·.sibling) = siblings hs s.header ∨ (s.after env hs).any (·.fails env) = true)
  counts : (Stroke.raised env (s.before env hs)).length + (Stroke.raised env (s.after env hs)).length ≤
    2 * (channels hs s.header.pwmPath.dir - 1)
  failures : (s.before env hs ++ s.after env hs).countP (·.fails env) ≤ 2
  /-- A raise lowers no channel. -/
  rises : ∀ v ∈ s.before env hs ++ s.after env hs, v.raises env = true → ∀ x ∈ hs.list,
    dev.cached env hs log v.write.tick x.pwmPath.file ≤ dev.report env hs log v.write x

theorem stroke_guarded {dev : ReportDevice} {s : Stroke} {b : Bus} (hclock : s.rig.bus.Clocked)
    (hlater : (s.finished env hs).Later b) (hans : dev.Answers env hs b) (hdir : s.header.pwmPath.dir = dev.dir)
    (hchip : isSharedReportChip s.header.chipName = true) (hh : s.header ∈ hs.list) : s.Guarded dev env hs b.log := by
  have hsiblings : ∀ x ∈ siblings hs s.header, hs.get? x.id = some x ∧ x.pwmPath.dir = dev.dir := by
    intro x hx
    obtain ⟨hmem, -, -, hxdir⟩ := mem_siblings.mp hx
    exact ⟨hs.get?_of_mem hmem, hxdir.trans hdir⟩
  have hprimed : (s.primed env hs).bus.Later b := (s.written_later.trans s.finished_later).trans hlater
  refine ⟨?_, fun v hv => (s.visit hv).2, ?_, ?_, ?_, ?_⟩
  · intro hno x hx hzero
    obtain ⟨hbefore, hcomplete, hpass⟩ := s.unsuspended_pass hchip hno
    rw [hdir] at hpass
    have hother : s.header.id ≠ x.id := (mem_siblings.mp hx).2.1.symm
    have hcached : dev.cached env hs b.log (s.primed env hs).bus.tick x.pwmPath.file = 0 := by
      simpa [ReportDevice.report, Stroke.direct, hother] using hzero
    rw [hpass] at hcached hprimed
    obtain ⟨v, hv, hsibling, hexcused | hne⟩ := primeEach_raised hclock hprimed hans hsiblings hcomplete hx
    · refine ⟨v, hbefore ▸ hv, hsibling, ?_⟩
      rw [Stroke.direct, hpass]
      exact hexcused
    · exact absurd hcached hne
  · intro hsuspended hlanded
    have hpass : s.after env hs = primeVisits env (s.lifted env hs) (siblings hs s.header) := by
      have hlifted : (s.lifted env hs).ctrl.primingSuspended.contains s.header.pwmPath.dir = false := by
        simp [Stroke.lifted]
      rw [Stroke.after, hlanded, hsuspended, Stroke.pass, hchip, hlifted]
      rfl
    refine ⟨hpass, rfl, ?_⟩
    rw [hpass]
    cases hfails : (primeVisits env (s.lifted env hs) (siblings hs s.header)).any (·.fails env) with
    | true => exact .inr rfl
    | false => exact .inl (primeVisits_complete _ _ hfails)
  · have hbefore := (@Stroke.pass_counts env hs s s.rig).1
    have hafter := (@Stroke.after_counts env hs s).1
    have hlt := siblings_lt hh
    unfold Stroke.before
    omega
  · have hbefore := (@Stroke.pass_counts env hs s s.rig).2
    have hafter := (@Stroke.after_counts env hs s).2
    rw [List.countP_append]
    unfold Stroke.before
    omega
  · intro v hv hraises x hx
    obtain ⟨hfrom, hto⟩ := s.visit_later hv
    obtain ⟨hget, hvdir⟩ := hsiblings _ (s.visit hv).1
    exact raise_report_le (hfrom.clocked hclock) (hto.trans hlater) hans hraises hvdir hget (hs.get?_of_mem hx)

/-! ## The strokes of an operation -/

variable (env hs)

/-- The duty write that passes its mark (pwm_control.rs:1132-1150). -/
def writeStroke (r : HwmonRig) (h : PwmHeaderDescriptor) (eff : Nat) : Option Stroke :=
  let mark := r.bus.check env
  if h.ownedByHandBack && mark.1 then none
  else some ⟨{ r with ctrl := r.ctrl.recordNoMode h none, bus := mark.2 }, h, eff, false⟩

def takeStroke (r : HwmonRig) (h : PwmHeaderDescriptor) (eff : Nat) : Option Stroke :=
  let take := takeUnheld env r h
  match take.1 with
  | some _ => none
  | none => writeStroke env take.2 h eff

def commandStroke (r : HwmonRig) (h : PwmHeaderDescriptor) (pct : Nat) (reconciles : Bool) : Option Stroke :=
  let eff := r.ctrl.raise h.id pct
  let b := booked env r h reconciles
  if coalescible b h eff reconciles then
    let drift := dutyDriftRewrite env b h eff
    if drift.1 then takeStroke env drift.2 h eff else none
  else takeStroke env b h eff

def setPwmStrokes (r : HwmonRig) (id : String) (pct : Nat) (leaseId : String) : List Stroke :=
  ((accepted env hs r id pct leaseId).bind fun (r', h) => commandStroke env r' h pct (r.reconciles leaseId)).toList

def releaseStrokes (r : HwmonRig) (id leaseId : String) : List Stroke :=
  match r.ctrl.leaseManager.validateLease r.now leaseId with
  | .error _ => []
  | .ok () =>
    if !holdsNoMode hs r id || r.cache.verifyActive then []
    else
      let was := (r.ctrl.exitRecord.get? id).join
      let floor := r.cache.exitFloorPct
      if floor = 0 ∨ some (exitDuty was floor) = was then []
      else setPwmStrokes env hs r id (exitDuty was floor) leaseId

def exitStrokes (floorPct : Nat) : HwmonRig → List PwmHeaderDescriptor → List Stroke
  | _, [] => []
  | r, h :: rest =>
    let was := (r.ctrl.exitRecord.get? h.id).join
    let target := exitDuty was floorPct
    (if was = some target then [] else [⟨r, h, target, true⟩]) ++ exitStrokes floorPct (exitWrite env hs floorPct r h).1 rest

variable {env hs}

/-! ## Every duty belongs to a stroke -/

/-- No duty is written. -/
structure NoDuty (b b' : Bus) : Prop where
  later : b.Later b'
  quiet : ∀ w ∈ b.since b', w.attr ≠ .duty

namespace NoDuty

theorem refl (b : Bus) : NoDuty b b := ⟨.refl b, by simp [Bus.since]⟩

theorem trans {b b' b'' : Bus} (h : NoDuty b b') (h' : NoDuty b' b'') : NoDuty b b'' := by
  refine ⟨h.later.trans h'.later, fun w hw => ?_⟩
  rw [h.later.since_trans h'.later, List.mem_append] at hw
  rcases hw with hw | hw
  · exact h.quiet w hw
  · exact h'.quiet w hw

theorem of_wrote {b b' : Bus} (h : b.Later b') (hw : Wrote (·.attr = .enable) b b') : NoDuty b b' :=
  ⟨h, fun w hm => by simp [hw.since w hm]⟩

theorem of_log {b b' : Bus} (h : b.Later b') (hlog : b'.log = b.log) : NoDuty b b' :=
  ⟨h, by simp [Bus.since, hlog]⟩

variable (env) in
theorem read (b : Bus) (path : SysfsPath) : NoDuty b (b.read env path).2 := of_wrote (.read env b path) (wrote_read env b path)

variable (env) in
theorem check (b : Bus) : NoDuty b (b.check env).2 := of_wrote (.check env b) (wrote_check env b)

end NoDuty

variable (env hs) in
/-- From one bus to another, the duties written are those of the strokes. -/
inductive Spans : Bus → List Stroke → Bus → Prop where
  | quiet {b b' : Bus} (h : NoDuty b b') : Spans b [] b'
  | stroke {b b' : Bus} {s : Stroke} {ss : List Stroke} (h : NoDuty b s.rig.bus) (h' : Spans (s.finished env hs) ss b') :
    Spans b (s :: ss) b'

namespace Spans

variable {b b' b'' : Bus} {ss ss' : List Stroke}

theorem from_noDuty (h : NoDuty b b') (h' : Spans env hs b' ss b'') : Spans env hs b ss b'' := by
  cases h' with
  | quiet hq => exact .quiet (h.trans hq)
  | stroke hq hrest => exact .stroke (h.trans hq) hrest

theorem append (h : Spans env hs b ss b') (h' : Spans env hs b' ss' b'') : Spans env hs b (ss ++ ss') b'' := by
  induction h with
  | quiet hq => exact from_noDuty hq h'
  | stroke hq _ ih => exact .stroke hq (ih h')

theorem later (h : Spans env hs b ss b') : b.Later b' := by
  induction h with
  | quiet hq => exact hq.later
  | stroke hq _ ih => exact (hq.later.trans (Stroke.stroke_later _)).trans ih

/-- Where a stroke lies. -/
theorem stroke_mem (h : Spans env hs b ss b') {s : Stroke} (hs' : s ∈ ss) :
    b.Later s.rig.bus ∧ (s.finished env hs).Later b' := by
  induction h with
  | quiet hq => cases hs'
  | stroke hq hrest ih =>
    rcases List.mem_cons.mp hs' with rfl | hs'
    · exact ⟨hq.later, hrest.later⟩
    · obtain ⟨hfrom, hto⟩ := ih hs'
      exact ⟨(hq.later.trans (Stroke.stroke_later _)).trans hfrom, hto⟩

theorem duties (h : Spans env hs b ss b') :
    (b.since b').filter (·.attr = .duty) = ss.flatMap (·.writes env hs) := by
  induction h with
  | quiet hq => simpa using hq.quiet
  | @stroke b b' s ss hq hrest ih =>
    have hquiet : (b.since s.rig.bus).filter (·.attr = .duty) = [] := by simpa using hq.quiet
    have hall : (s.writes env hs).filter (·.attr = .duty) = s.writes env hs := by
      rw [List.filter_eq_self]
      intro w hw
      simp only [Stroke.writes, Stroke.raised, List.mem_append, List.mem_map, List.mem_cons] at hw
      rcases hw with ⟨v, -, rfl⟩ | rfl | ⟨v, -, rfl⟩ <;> rfl
    rw [hq.later.since_trans (s.stroke_later.trans hrest.later), s.stroke_later.since_trans hrest.later, List.filter_append,
      List.filter_append, hquiet, s.since_finished, hall, ih, List.nil_append, List.flatMap_cons]

end Spans

theorem takeUnheld_noDuty (r : HwmonRig) (h : PwmHeaderDescriptor) : NoDuty r.bus (takeUnheld env r h).2.bus := by
  refine .of_wrote (takeUnheld_later env r h) ?_
  unfold takeUnheld
  split
  · unfold takeMode
    split
    · exact .refl _
    · next ep _ =>
      have hmark := (readOriginal_wrote (P := (·.attr = .enable)) env r h ep).trans (wrote_check env _)
      dsimp only
      split
      · exact hmark
      · exact hmark.trans (wrote_write env _ h.id ep .enable pwmEnableManual rfl)
  · exact .refl _

theorem enableReclaimed_noDuty (r : HwmonRig) (h : PwmHeaderDescriptor) : NoDuty r.bus (enableReclaimed env r h).2.bus :=
  have hkept : Kept ⟨[], List.nodup_nil⟩ (·.attr = .enable) r (enableReclaimed env r h).2 := enableReclaimed_kept env r h
  .of_wrote (enableReclaimed_later env r h) hkept.wrote

theorem dutyDriftRewrite_noDuty (r : HwmonRig) (h : PwmHeaderDescriptor) (pct : Nat) :
    NoDuty r.bus (dutyDriftRewrite env r h pct).2.bus :=
  have hkept : Kept ⟨[], List.nodup_nil⟩ (·.attr = .enable) r (dutyDriftRewrite env r h pct).2 := dutyDriftRewrite_kept env r h pct
  .of_wrote (dutyDriftRewrite_later env r h pct) hkept.wrote

theorem writeDuty_spans (r : HwmonRig) (h : PwmHeaderDescriptor) (eff : Nat) (reconciles correcting : Bool) :
    Spans env hs r.bus (writeStroke env r h eff).toList (writeDuty env hs r h eff reconciles correcting).1.bus := by
  have hmark : NoDuty r.bus (r.bus.check env).2 := .check env r.bus
  unfold writeStroke writeDuty
  dsimp only
  split
  · exact .quiet hmark
  · next hmine =>
    let s : Stroke := ⟨{ r with ctrl := r.ctrl.recordNoMode h none, bus := (r.bus.check env).2 }, h, eff, false⟩
    refine .stroke (s := s) hmark (.quiet ?_)
    split
    · next e he =>
      have hlost : s.landed env hs = false := s.landed_eq.trans (congrArg Option.isNone he)
      rw [Stroke.finished_lost hlost]
      exact .refl _
    · next he =>
      have hlanded : s.landed env hs = true := s.landed_eq.trans (congrArg Option.isNone he)
      rw [Stroke.finished_landed hlanded]
      exact .read env _ h.pwmPath

theorem takeAndWrite_spans (r : HwmonRig) (h : PwmHeaderDescriptor) (eff : Nat) (reconciles correcting : Bool) :
    Spans env hs r.bus (takeStroke env r h eff).toList (takeAndWrite env hs r h eff reconciles correcting).1.bus := by
  have htake := @takeUnheld_noDuty env r h
  unfold takeStroke takeAndWrite
  dsimp only
  cases (takeUnheld env r h).1 with
  | some e => exact .quiet htake
  | none => exact .from_noDuty htake (writeDuty_spans _ h eff reconciles correcting)

theorem command_spans (r : HwmonRig) (h : PwmHeaderDescriptor) (pct : Nat) (reconciles : Bool) :
    Spans env hs r.bus (commandStroke env r h pct reconciles).toList (command env hs r h pct reconciles).1.bus := by
  have hbook : NoDuty r.bus (booked env r h reconciles).bus := enableReclaimed_noDuty r h
  unfold commandStroke
  dsimp only
  split
  · next hc =>
    rw [command_coalesced hc]
    have hdrift := hbook.trans (@dutyDriftRewrite_noDuty env (booked env r h reconciles) h (r.ctrl.raise h.id pct))
    dsimp only
    split
    · exact .from_noDuty hdrift (takeAndWrite_spans _ h _ reconciles true)
    · exact .quiet hdrift
  · next hc =>
    rw [command_plain hc]
    exact .from_noDuty hbook (takeAndWrite_spans _ h _ reconciles false)

theorem setPwm_spans (r : HwmonRig) (id : String) (pct : Nat) (leaseId : String) :
    Spans env hs r.bus (setPwmStrokes env hs r id pct leaseId) (setPwm env hs r id pct leaseId).1.bus := by
  unfold setPwmStrokes
  cases ha : accepted env hs r id pct leaseId with
  | none => exact .quiet (.of_log (setPwm_later env hs r id pct leaseId) (setPwm_unaccepted ha).2)
  | some found =>
    obtain ⟨r', h⟩ := found
    obtain ⟨hset, -, -, hbus, -⟩ := setPwm_accepted ha
    have hstart : NoDuty r.bus r'.bus := hbus ▸ .check env r.bus
    rw [hset]
    exact .from_noDuty hstart (command_spans r' h pct _)

theorem releaseNoMode_spans (r : HwmonRig) (id leaseId : String) :
    Spans env hs r.bus (releaseStrokes env hs r id leaseId) (releaseNoMode env hs r id leaseId).1.bus := by
  unfold releaseStrokes releaseNoMode
  cases r.ctrl.leaseManager.validateLease r.now leaseId with
  | error e => exact .quiet (.refl _)
  | ok _ =>
    dsimp only
    by_cases hheld : (!holdsNoMode hs r id || r.cache.verifyActive) = true
    · rw [if_pos hheld, if_pos hheld]
      exact .quiet (.refl _)
    · rw [if_neg hheld, if_neg hheld]
      split
      · exact .quiet (.refl _)
      · have hset := @setPwm_spans env hs r id (exitDuty (r.ctrl.exitRecord.get? id).join r.cache.exitFloorPct) leaseId
        generalize setPwm env hs r id (exitDuty (r.ctrl.exitRecord.get? id).join r.cache.exitFloorPct) leaseId = set at hset ⊢
        obtain ⟨r', res⟩ := set
        cases res with
        | ok done => exact hset
        | error e => cases e <;> exact hset

theorem exitRaise_spans (r : HwmonRig) (h : PwmHeaderDescriptor) (target : Nat) :
    Spans env hs r.bus [⟨r, h, target, true⟩] (exitRaise env hs r h target).2.bus := by
  let s : Stroke := ⟨r, h, target, true⟩
  refine .stroke (s := s) (.refl _) (.quiet ?_)
  unfold exitRaise
  dsimp only
  split
  · next he =>
    have hlanded : s.landed env hs = true := s.landed_eq.trans (congrArg Option.isNone he)
    rw [Stroke.finished_landed hlanded]
    exact .refl _
  · next e he =>
    have hlost : s.landed env hs = false := s.landed_eq.trans (congrArg Option.isNone he)
    rw [Stroke.finished_lost hlost]
    exact .refl _

theorem exitWrites_spans (floorPct : Nat) (targets : List PwmHeaderDescriptor) (r : HwmonRig) :
    Spans env hs r.bus (exitStrokes env hs floorPct r targets) (exitWrites env hs floorPct r targets).1.bus := by
  induction targets generalizing r with
  | nil => exact .quiet (.refl _)
  | cons h rest ih =>
    refine .append ?_ (ih _)
    unfold exitWrite
    dsimp only
    split
    · exact .quiet (.refl _)
    · exact exitRaise_spans r h _

/-! ## Over a run -/

/-- What can be asked of the controller, the exit floor with it. -/
inductive ReportOp where
  | hwmon (e : Nat × HwmonOp)
  | exitFloor (floorPct : Nat)

variable (env hs)

def reportStep (r : HwmonRig) : ReportOp → HwmonRig
  | .hwmon e => step env hs r e
  | .exitFloor floorPct => (applyExitFloor env hs r floorPct).1

/-- The duty writes of an operation, a hand-back's own apart. -/
def strokes (r : HwmonRig) : ReportOp → List Stroke
  | .hwmon (dt, .setPwm id pct leaseId) => setPwmStrokes env hs (r.wait dt) id pct leaseId
  | .hwmon (dt, .releaseNoMode id leaseId) => releaseStrokes env hs (r.wait dt) id leaseId
  | .exitFloor floorPct =>
    if floorPct = 0 then []
    else
      exitStrokes env hs floorPct { r with ctrl := { r.ctrl with exitMin := r.ctrl.latchExitMin hs floorPct } }
        (exitTargets hs r)
  | _ => []

variable {env hs}

theorem reportStep_spans (r : HwmonRig) (op : ReportOp) (hop : ∀ dt id leaseId, op ≠ .hwmon (dt, .handBack id leaseId)) :
    Spans env hs r.bus (strokes env hs r op) (reportStep env hs r op).bus := by
  have hnone : Spans env hs r.bus [] r.bus := .quiet (.refl _)
  cases op with
  | exitFloor floorPct =>
    unfold strokes reportStep applyExitFloor
    dsimp only
    split
    · exact hnone
    · exact exitWrites_spans floorPct _ { r with ctrl := { r.ctrl with exitMin := r.ctrl.latchExitMin hs floorPct } }
  | hwmon e =>
    obtain ⟨dt, op⟩ := e
    cases op with
    | setPwm id pct leaseId => exact setPwm_spans (r.wait dt) id pct leaseId
    | releaseNoMode id leaseId => exact releaseNoMode_spans (r.wait dt) id leaseId
    | handBack id leaseId => exact absurd rfl (hop dt id leaseId)
    | forgetManualMode => exact hnone
    | onLeaseReleased => exact hnone
    | lease op => exact hnone
    | resumeDetected => exact hnone
    | verifyActive on => exact hnone
    | abandoned id => exact hnone
    | setExitFloorPct pct => exact hnone

theorem reportStep_later (r : HwmonRig) (op : ReportOp) : r.bus.Later (reportStep env hs r op).bus := by
  cases op with
  | hwmon e => exact step_later env hs r e
  | exitFloor floorPct => exact applyExitFloor_later env hs r floorPct

theorem takeStroke_header {r : HwmonRig} {h : PwmHeaderDescriptor} {eff : Nat} {s : Stroke}
    (hs' : takeStroke env r h eff = some s) : s.header = h := by
  unfold takeStroke writeStroke at hs'
  dsimp only at hs'
  split at hs'
  · cases hs'
  · split at hs'
    · cases hs'
    · rw [← Option.some.inj hs']

theorem setPwmStrokes_header {r : HwmonRig} {id leaseId : String} {pct : Nat} {s : Stroke}
    (hs' : s ∈ setPwmStrokes env hs r id pct leaseId) : s.header ∈ hs.list := by
  simp only [setPwmStrokes, Option.mem_toList, Option.bind_eq_some_iff] at hs'
  obtain ⟨⟨r', h⟩, ha, hc⟩ := hs'
  have hheader : s.header = h := by
    unfold commandStroke at hc
    dsimp only at hc
    split at hc
    · split at hc
      · exact takeStroke_header hc
      · cases hc
    · exact takeStroke_header hc
  exact hheader ▸ Headers.mem_of_get? (accepted_header ha)

theorem exitStrokes_header {floorPct : Nat} {targets : List PwmHeaderDescriptor} {r : HwmonRig} {s : Stroke}
    (hs' : s ∈ exitStrokes env hs floorPct r targets) : s.header ∈ targets := by
  induction targets generalizing r with
  | nil => cases hs'
  | cons h rest ih =>
    unfold exitStrokes at hs'
    dsimp only at hs'
    rcases List.mem_append.mp hs' with hs' | hs'
    · split at hs'
      · cases hs'
      · rw [List.mem_singleton.mp hs']
        exact List.mem_cons_self
    · exact List.mem_cons_of_mem _ (ih hs')

theorem strokes_header {r : HwmonRig} {op : ReportOp} {s : Stroke} (hs' : s ∈ strokes env hs r op) : s.header ∈ hs.list := by
  unfold strokes at hs'
  split at hs'
  · exact setPwmStrokes_header hs'
  · unfold releaseStrokes at hs'
    split at hs'
    · cases hs'
    · dsimp only at hs'
      split_ifs at hs'
      · cases hs'
      · cases hs'
      · exact setPwmStrokes_header hs'
  · split at hs'
    · cases hs'
    · have htarget := exitStrokes_header hs'
      simp only [exitTargets, List.mem_insertionSort, List.mem_filter] at htarget
      exact htarget.1
  · cases hs'

/-- Of any run, and any device whose headers share a report: every duty that an operation writes belongs to a stroke,
and every stroke is guarded. -/
theorem shared_report (env : Sysfs) (hs : Headers) (dev : ReportDevice) (leases : LeaseManager) (cache : HwmonCache) (now : Nat)
    (ops : List ReportOp) (op : ReportOp)
    (hchip : ∀ h ∈ hs.list, h.pwmPath.dir = dev.dir → isSharedReportChip h.chipName = true)
    (hop : ∀ dt id leaseId, op ≠ .hwmon (dt, .handBack id leaseId))
    (hans : dev.Answers env hs (reportStep env hs (run (reportStep env hs) (.start hs leases cache now) ops) op).bus) :
    let r := run (reportStep env hs) (.start hs leases cache now) ops
    let r' := reportStep env hs r op
    (r.bus.since r'.bus).filter (·.attr = .duty) = (strokes env hs r op).flatMap (·.writes env hs) ∧
      (∀ dt id pct leaseId, op = .hwmon (dt, .setPwm id pct leaseId) → (strokes env hs r op).length ≤ 1) ∧
      ∀ s ∈ strokes env hs r op, s.header.pwmPath.dir = dev.dir → s.Guarded dev env hs r'.bus.log := by
  intro r r'
  have hclock : r.bus.Clocked :=
    run_inv (I := fun r => r.bus.Clocked) (fun r op hr => (reportStep_later r op).clocked hr) _ _
      fun w hw => nomatch hw
  have hspans : Spans env hs r.bus (strokes env hs r op) r'.bus := reportStep_spans r op hop
  refine ⟨hspans.duties, ?_, ?_⟩
  · rintro dt id pct leaseId rfl
    exact Option.length_toList_le
  · intro s hs' hdir
    obtain ⟨hfrom, hto⟩ := hspans.stroke_mem hs'
    have hheader := strokes_header hs'
    exact stroke_guarded (hfrom.clocked hclock) hto hans hdir (hchip _ hheader hdir) hheader

/-! ### A pump and a fan on one device -/

def arcticFans : Headers :=
  ⟨[⟨"pump", "arctic_fan", false, ⟨"hwmon3", "pwm1"⟩, none, true, rfl⟩,
    ⟨"rear", "arctic_fan", false, ⟨"hwmon3", "pwm2"⟩, none, true, rfl⟩], by decide⟩

/-- The engine holds the lease, and commands the fan. -/
def arcticRig (env : Sysfs) : HwmonRig :=
  run (reportStep env arcticFans) (.start arcticFans (.withTtl defaultLeaseTtl) ⟨false, false, 0, []⟩ 0)
    [.hwmon (0, .lease (.take .engine))]

def commandRear : ReportOp := .hwmon (1, .setPwm "rear" 50 "lease-1")

/-- Every cache reads `duty` at the first accesses, and nothing can be read after. -/
def arcticFiles (duty : Nat) : Sysfs := ⟨fun t _ => if t < 3 then some duty else none, fun _ => none, none⟩

theorem arctic_answers (duty : Nat) (resumed : Nat → Bool) (hno : ∀ t < 3, resumed t = false) (b : Bus)
    (hlog : ∀ w ∈ b.log, 3 ≤ w.tick) :
    ReportDevice.Answers ⟨"hwmon3", fun _ => duty, resumed⟩ (arcticFiles duty) arcticFans b := by
  intro t _ file v hv
  unfold arcticFiles at hv
  dsimp only at hv
  split at hv
  · next ht =>
    obtain rfl := Option.some.inj hv
    have hcached : ∀ t < 3, ReportDevice.cached ⟨"hwmon3", fun _ => duty, resumed⟩ (arcticFiles duty) arcticFans b.log t file = duty := by
      intro t ht
      induction t with
      | zero => simp [ReportDevice.cached, hno 0 ht]
      | succ t ih =>
        have hnone : b.log.find? (ReportDevice.commits ⟨"hwmon3", fun _ => duty, resumed⟩ (arcticFiles duty) arcticFans t file) =
            none := by
          rw [List.find?_eq_none]
          intro w hm hc
          have hwtick : w.tick = t := by
            simp only [ReportDevice.commits, Bool.and_eq_true, beq_iff_eq] at hc
            exact hc.1.1.1
          have := hlog w hm
          omega
        rw [ReportDevice.cached, if_neg (by simp [hno _ ht]), hnone]
        exact ih (by omega)
    exact (hcached t ht).symm
  · cases hv

/-- Out of a resume, the pump is raised before the fan is written. -/
theorem shared_report_cold :
    let env := arcticFiles 0
    let r' := reportStep env arcticFans (arcticRig env) commandRear
    r'.bus.log = [⟨3, "pump", .duty, 255⟩, ⟨4, "rear", .duty, 128⟩] ∧
      ∀ s ∈ strokes env arcticFans (arcticRig env) commandRear, s.header.pwmPath.dir = "hwmon3" →
        s.Guarded ⟨"hwmon3", fun _ => 0, fun _ => false⟩ env arcticFans r'.bus.log := by
  have hlog : (reportStep (arcticFiles 0) arcticFans (arcticRig (arcticFiles 0)) commandRear).bus.log =
      [⟨3, "pump", .duty, 255⟩, ⟨4, "rear", .duty, 128⟩] := by decide
  have hlate : ∀ w ∈ (reportStep (arcticFiles 0) arcticFans (arcticRig (arcticFiles 0)) commandRear).bus.log, 3 ≤ w.tick := by
    rw [hlog]
    decide
  exact ⟨hlog, (shared_report (arcticFiles 0) arcticFans ⟨"hwmon3", fun _ => 0, fun _ => false⟩ (.withTtl defaultLeaseTtl)
    ⟨false, false, 0, []⟩ 0 [.hwmon (0, .lease (.take .engine))] commandRear (by decide) nofun
    (arctic_answers 0 _ (fun _ _ => rfl) _ hlate)).2.2⟩

/-- A resume between the pass and the fan's write: the pump's cache read 50 %, and the write sends it a 0. -/
theorem resumed_in_between :
    ∃ dev env op, ReportDevice.Answers dev env arcticFans (reportStep env arcticFans (arcticRig env) op).bus ∧
      ∃ s ∈ strokes env arcticFans (arcticRig env) op, s.suspended env arcticFans = false ∧
        ∃ x ∈ siblings arcticFans s.header,
          dev.report env arcticFans (reportStep env arcticFans (arcticRig env) op).bus.log (s.direct env arcticFans) x = 0 ∧
          ∀ v ∈ s.before env arcticFans, v.cached env ≠ none ∧ v.chosenZero = false := by
  have hlog : (reportStep (arcticFiles 128) arcticFans (arcticRig (arcticFiles 128)) commandRear).bus.log =
      [⟨3, "rear", .duty, 128⟩] := by decide
  refine ⟨⟨"hwmon3", fun _ => 128, (· == 3)⟩, arcticFiles 128, commandRear, ?_, ?_⟩
  · refine arctic_answers 128 _ (fun t ht => by simp; omega) _ ?_
    rw [hlog]
    decide
  · decide

end HwmonRig

end ControlOfc.Hwmon
