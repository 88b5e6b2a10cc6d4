import ControlOfc.Diagnostics.CharSummary
import ControlOfc.Lib.KeyedList
import ControlOfc.Lib.SortedMap
import Mathlib.Data.List.Destutter
import Mathlib.Data.String.Basic
/-! # Learned response bands (pwm_baselines.rs:50-193, api/handlers/hwmon_ctl.rs:1424-1464)

A completed sweep's readings become one band for each duty, and a header's record widens with every sweep. A record
keeps the bands of its 20 lowest duties; what it keeps is never narrowed.

Main theorem `learned_bands_widen`.
-/
namespace ControlOfc.Diagnostics.Sweep
open Stats KeyedList

/-- `PWM_BASELINES_MAX_ENTRIES` (constants.rs:788). -/
def pwmBaselinesMaxEntries : Nat := 64

/-- `PWM_BASELINE_MAX_TEXT_BYTES` (constants.rs:789). -/
def pwmBaselineMaxTextBytes : Nat := 512

/-- `PWM_BASELINE_MAX_POINTS` (constants.rs:790). -/
def pwmBaselineMaxPoints : Nat := 20

/-- The characters that fit into so many bytes. -/
def takeBytes (maxBytes : Nat) : List Char → List Char
  | [] => []
  | c :: cs => if c.utf8Size ≤ maxBytes then c :: takeBytes (maxBytes - c.utf8Size) cs else []

/-- `text::truncate`. -/
def truncate (s : String) (maxBytes : Nat) : String :=
  if s.utf8ByteSize ≤ maxBytes then s else String.ofList (takeBytes maxBytes s.toList)

/-! ## Records -/

structure PwmBaselinePoint where
  dutyPct : Nat
  rpmMin : Nat
  rpmMax : Nat
  deriving DecidableEq, Repr

/-- One reading. -/
def PwmBaselinePoint.single (r : DutyRpm) : PwmBaselinePoint := ⟨r.dutyPct, r.rpm, r.rpm⟩

def PwmBaselinePoint.widen (existing p : PwmBaselinePoint) : PwmBaselinePoint :=
  { existing with rpmMin := min existing.rpmMin p.rpmMin, rpmMax := max existing.rpmMax p.rpmMax }

/-- A point into a list of points, one for each duty. -/
abbrev addPoint : List PwmBaselinePoint → PwmBaselinePoint → List PwmBaselinePoint :=
  upsert (·.dutyPct) PwmBaselinePoint.widen

def sortByDuty : List PwmBaselinePoint → List PwmBaselinePoint := sort (·.dutyPct)

structure PwmBaselineRecord where
  headerId : String
  points : List PwmBaselinePoint
  minRpm : Option Nat
  maxRpm : Option Nat
  worstCvPct : Option ℚ
  bidirectional : Bool
  runId : String
  validatedUnixMs : Nat
  runs : Nat

namespace PwmBaselineRecord

def clamp (r : PwmBaselineRecord) : PwmBaselineRecord :=
  { r with
    headerId := truncate r.headerId pwmBaselineMaxTextBytes
    runId := truncate r.runId pwmBaselineMaxTextBytes
    points := ((sortByDuty r.points).destutter fun p q => p.dutyPct ≠ q.dutyPct).take pwmBaselineMaxPoints }

def widenWith (r incoming : PwmBaselineRecord) : PwmBaselineRecord :=
  { r with
    points := (sortByDuty (incoming.points.foldl addPoint r.points)).take pwmBaselineMaxPoints
    minRpm := Option.merge min r.minRpm incoming.minRpm
    maxRpm := Option.merge max r.maxRpm incoming.maxRpm
    worstCvPct := Option.merge max r.worstCvPct incoming.worstCvPct
    bidirectional := r.bidirectional || incoming.bidirectional
    runId := incoming.runId
    validatedUnixMs := incoming.validatedUnixMs
    runs := min (r.runs + 1) 4294967295 }

def learned (r : PwmBaselineRecord) : List LearnedPoint := r.points.map fun p => ⟨p.dutyPct, p.rpmMin, p.rpmMax⟩

end PwmBaselineRecord

/-! ## The store -/

structure PwmBaselineStore where
  records : SortedMap String PwmBaselineRecord

namespace PwmBaselineStore

def get (s : PwmBaselineStore) (headerId : String) : Option PwmBaselineRecord := s.records.get? headerId

/-- The first of the least recently validated. -/
def oldest (s : PwmBaselineStore) : Option PwmBaselineRecord :=
  (s.records.entries.map (·.2)).foldl
    (fun best r => some (best.elim r fun b => if r.validatedUnixMs < b.validatedUnixMs then r else b)) none

def makeRoom (s : PwmBaselineStore) : PwmBaselineStore :=
  if s.records.entries.length < pwmBaselinesMaxEntries then s
  else
    match s.oldest with
    | none => s
    | some r => ⟨s.records.retain fun k _ => k ≠ r.headerId⟩

def merge (s : PwmBaselineStore) (incoming : PwmBaselineRecord) : PwmBaselineStore :=
  match s.get incoming.clamp.headerId with
  | some existing => ⟨s.records.insert incoming.clamp.headerId (existing.widenWith incoming.clamp)⟩
  | none => ⟨s.makeRoom.records.insert incoming.clamp.headerId { incoming.clamp with runs := 1 }⟩

end PwmBaselineStore

/-- What a baseline is made from. `nowUnixMs` is the time of the merge. -/
structure CompletedRun where
  runId : String
  headerId : String
  points : List SweptPoint
  summary : Option CharSummary
  bidirectional : Bool
  completedUnixMs : Option Nat
  nowUnixMs : Nat

def baselinePoints (readings : List DutyRpm) : List PwmBaselinePoint :=
  (readings.map PwmBaselinePoint.single).foldl addPoint []

def baselineRecordFor (run : CompletedRun) : Option PwmBaselineRecord :=
  let points := baselinePoints (rpmsOf run.points)
  if points = [] then none
  else some
    { headerId := run.headerId
      points := points
      minRpm := (points.map (·.rpmMin)).min?
      maxRpm := (points.map (·.rpmMax)).max?
      worstCvPct := run.summary.bind (·.worstCvPct)
      bidirectional := run.bidirectional
      runId := run.runId
      validatedUnixMs := run.completedUnixMs.getD run.nowUnixMs
      runs := 1 }

def PwmBaselineStore.absorb (s : PwmBaselineStore) (run : CompletedRun) : PwmBaselineStore :=
  match baselineRecordFor run with
  | none => s
  | some r => s.merge r

/-! ## Bands -/

theorem min?_append (l r : List Nat) : (l ++ r).min? = Option.merge min l.min? r.min? := by
  cases hl : l.min? with
  | none => rw [List.min?_eq_none_iff.mp hl, List.nil_append, Option.merge_none_left]
  | some a =>
    cases hr : r.min? with
    | none => rw [List.min?_eq_none_iff.mp hr, List.append_nil, Option.merge_none_right, hl]
    | some b =>
      obtain ⟨ha, hal⟩ := List.min?_eq_some_iff.mp hl
      obtain ⟨hb, hbr⟩ := List.min?_eq_some_iff.mp hr
      refine List.min?_eq_some_iff.mpr ⟨?_, fun c hc => ?_⟩
      · rcases Nat.le_total a b with h | h
        · rw [Nat.min_eq_left h]
          exact List.mem_append_left r ha
        · rw [Nat.min_eq_right h]
          exact List.mem_append_right l hb
      · rcases List.mem_append.mp hc with hc | hc
        · exact Nat.le_trans (Nat.min_le_left a b) (hal c hc)
        · exact Nat.le_trans (Nat.min_le_right a b) (hbr c hc)

theorem max?_append (l r : List Nat) : (l ++ r).max? = Option.merge max l.max? r.max? := by
  cases hl : l.max? with
  | none => rw [List.max?_eq_none_iff.mp hl, List.nil_append, Option.merge_none_left]
  | some a =>
    cases hr : r.max? with
    | none => rw [List.max?_eq_none_iff.mp hr, List.append_nil, Option.merge_none_right, hl]
    | some b =>
      obtain ⟨ha, hal⟩ := List.max?_eq_some_iff.mp hl
      obtain ⟨hb, hbr⟩ := List.max?_eq_some_iff.mp hr
      refine List.max?_eq_some_iff.mpr ⟨?_, fun c hc => ?_⟩
      · rcases Nat.le_total a b with h | h
        · rw [Nat.max_eq_right h]
          exact List.mem_append_right l hb
        · rw [Nat.max_eq_left h]
          exact List.mem_append_left r ha
      · rcases List.mem_append.mp hc with hc | hc
        · exact Nat.le_trans (hal c hc) (Nat.le_max_left a b)
        · exact Nat.le_trans (hbr c hc) (Nat.le_max_right a b)

def readingsAt (readings : List DutyRpm) (d : Nat) : List Nat := (readings.filter (·.dutyPct = d)).map (·.rpm)

/-- The band of a duty: its lowest and highest reading. -/
def bandAt (readings : List DutyRpm) (d : Nat) : Option PwmBaselinePoint :=
  match (readingsAt readings d).min?, (readingsAt readings d).max? with
  | some lo, some hi => some ⟨d, lo, hi⟩
  | _, _ => none

/-- All bands, by duty. -/
def bandsOf (readings : List DutyRpm) : List PwmBaselinePoint := sortByDuty (baselinePoints readings)

variable {R S : List DutyRpm} {x : DutyRpm} {p : PwmBaselinePoint} {d : Nat}

theorem dutyPct_widen (p q : PwmBaselinePoint) (h : p.dutyPct = q.dutyPct) : (p.widen q).dutyPct = q.dutyPct := h

theorem bandAt_append (R S : List DutyRpm) (d : Nat) :
    bandAt (R ++ S) d = Option.merge PwmBaselinePoint.widen (bandAt R d) (bandAt S d) := by
  have happend : readingsAt (R ++ S) d = readingsAt R d ++ readingsAt S d := by
    unfold readingsAt
    rw [List.filter_append, List.map_append]
  have hnone {l : List Nat} (h : l.min? = none) : l.max? = none := by rw [List.min?_eq_none_iff.mp h]; rfl
  have hsome {l : List Nat} {a : Nat} (h : l.min? = some a) : ∃ b, l.max? = some b := by
    obtain ⟨b, hb⟩ := Option.ne_none_iff_exists'.mp fun hn : l.max? = none => by
      rw [List.max?_eq_none_iff.mp hn] at h
      cases h
    exact ⟨b, hb⟩
  unfold bandAt
  rw [happend, min?_append, max?_append]
  cases hR : (readingsAt R d).min? with
  | none =>
    rw [hnone hR]
    cases hS : (readingsAt S d).min? with
    | none => rw [hnone hS]; rfl
    | some b =>
      obtain ⟨b', hb'⟩ := hsome hS
      rw [hb']
      rfl
  | some a =>
    obtain ⟨a', ha'⟩ := hsome hR
    rw [ha']
    cases hS : (readingsAt S d).min? with
    | none => rw [hnone hS]; rfl
    | some b =>
      obtain ⟨b', hb'⟩ := hsome hS
      rw [hb']
      rfl

theorem bandAt_single (x : DutyRpm) (d : Nat) : bandAt [x] d = if x.dutyPct = d then some (.single x) else none := by
  unfold bandAt readingsAt
  rw [List.filter_singleton]
  split_ifs with h
  · subst h
    rw [decide_eq_true rfl]
    rfl
  · rw [decide_eq_false h]
    rfl

theorem nodup_baselinePoints (R : List DutyRpm) : ((baselinePoints R).map (·.dutyPct)).Nodup :=
  nodup_foldl_upsert (l := []) dutyPct_widen List.nodup_nil _

theorem lookup_baselinePoints (R : List DutyRpm) (d : Nat) : lookup (·.dutyPct) (baselinePoints R) d = bandAt R d := by
  induction R using List.reverseRecOn with
  | nil => rfl
  | append_singleton R x ih =>
    have hstep : baselinePoints (R ++ [x]) = addPoint (baselinePoints R) (.single x) := by
      unfold baselinePoints
      rw [List.map_append, List.map_singleton, List.foldl_append]
      rfl
    rw [hstep, lookup_upsert dutyPct_widen, ih, bandAt_append, bandAt_single]
    have hduty : (PwmBaselinePoint.single x).dutyPct = x.dutyPct := rfl
    rw [hduty]
    split_ifs
    · cases bandAt R d <;> rfl
    · rw [Option.merge_none_right]

theorem ascending_bandsOf (R : List DutyRpm) : Ascending (·.dutyPct) (bandsOf R) := ascending_sort (nodup_baselinePoints R)

theorem lookup_bandsOf (R : List DutyRpm) (d : Nat) : lookup (·.dutyPct) (bandsOf R) d = bandAt R d :=
  (lookup_sort (nodup_baselinePoints R) d).trans (lookup_baselinePoints R d)

/-- The bands of two lots of readings, merged, are the bands of both. -/
theorem merge_bandsOf (R S : List DutyRpm) : merge (·.dutyPct) PwmBaselinePoint.widen (bandsOf R) (bandsOf S) = bandsOf (R ++ S) :=
  (ascending_merge dutyPct_widen (ascending_bandsOf R) (ascending_bandsOf S)).ext (ascending_bandsOf (R ++ S)) fun d => by
    rw [lookup_merge dutyPct_widen (ascending_bandsOf R) (ascending_bandsOf S), lookup_bandsOf, lookup_bandsOf, lookup_bandsOf,
      bandAt_append]

theorem bandsOf_perm (h : R.Perm S) : bandsOf R = bandsOf S := by
  refine (ascending_bandsOf R).ext (ascending_bandsOf S) fun d => ?_
  have hperm : (readingsAt R d).Perm (readingsAt S d) := (h.filter _).map _
  have hmin : (readingsAt R d).min? = (readingsAt S d).min? := Option.ext fun a => by
    simp only [List.min?_eq_some_iff, hperm.mem_iff]
  have hmax : (readingsAt R d).max? = (readingsAt S d).max? := Option.ext fun a => by
    simp only [List.max?_eq_some_iff, hperm.mem_iff]
  rw [lookup_bandsOf, lookup_bandsOf]
  unfold bandAt
  rw [hmin, hmax]

theorem mem_bandsOf : p ∈ bandsOf R ↔ bandAt R p.dutyPct = some p := by
  rw [mem_iff_lookup (ascending_bandsOf R).nodup, lookup_bandsOf]

theorem bandAt_eq_some_iff : bandAt R d = some p ↔ p.dutyPct = d ∧
    (p.rpmMin ∈ readingsAt R d ∧ ∀ v ∈ readingsAt R d, p.rpmMin ≤ v) ∧ p.rpmMax ∈ readingsAt R d ∧ ∀ v ∈ readingsAt R d, v ≤ p.rpmMax := by
  rw [← List.min?_eq_some_iff, ← List.max?_eq_some_iff]
  unfold bandAt
  obtain ⟨pd, plo, phi⟩ := p
  cases (readingsAt R d).min? <;> cases (readingsAt R d).max? <;> simp [eq_comm]

theorem mem_readingsAt {v : Nat} : v ∈ readingsAt R d ↔ ∃ x ∈ R, x.dutyPct = d ∧ x.rpm = v := by
  simp [readingsAt, and_assoc]

theorem exists_band (h : x ∈ R) : ∃ p, bandAt R x.dutyPct = some p ∧ p.rpmMin ≤ x.rpm ∧ x.rpm ≤ p.rpmMax := by
  have hx : x.rpm ∈ readingsAt R x.dutyPct := mem_readingsAt.mpr ⟨x, h, rfl, rfl⟩
  cases hp : bandAt R x.dutyPct with
  | none =>
    exfalso
    unfold bandAt at hp
    cases hmin : (readingsAt R x.dutyPct).min? with
    | none => rw [List.min?_eq_none_iff.mp hmin] at hx; cases hx
    | some lo =>
      cases hmax : (readingsAt R x.dutyPct).max? with
      | none => rw [List.max?_eq_none_iff.mp hmax] at hx; cases hx
      | some hi => rw [hmin, hmax] at hp; cases hp
  | some p =>
    obtain ⟨-, ⟨-, hlo⟩, -, hhi⟩ := bandAt_eq_some_iff.mp hp
    exact ⟨p, rfl, hlo _ hx, hhi _ hx⟩

/-- How many duties lower than `d` were read. -/
def lowerDuties (readings : List DutyRpm) (d : Nat) : Nat := ((readings.map (·.dutyPct)).dedup.filter (· < d)).length

theorem length_filter_bandsOf (R : List DutyRpm) (d : Nat) :
    ((bandsOf R).filter (·.dutyPct < d)).length = lowerDuties R d := by
  have hmem (k : Nat) : k ∈ (bandsOf R).map (·.dutyPct) ↔ k ∈ (R.map (·.dutyPct)).dedup := by
    rw [List.mem_dedup, List.mem_map, List.mem_map]
    constructor
    · rintro ⟨p, hp, rfl⟩
      obtain ⟨-, ⟨hlo, -⟩, -⟩ := bandAt_eq_some_iff.mp (mem_bandsOf.mp hp)
      obtain ⟨x, hx, hd, -⟩ := mem_readingsAt.mp hlo
      exact ⟨x, hx, hd⟩
    · rintro ⟨x, hx, rfl⟩
      obtain ⟨p, hp, -⟩ := exists_band hx
      have hd := (bandAt_eq_some_iff.mp hp).1
      exact ⟨p, mem_bandsOf.mpr (by rwa [hd]), hd⟩
  have hperm : ((bandsOf R).map (·.dutyPct)).Perm (R.map (·.dutyPct)).dedup :=
    (List.perm_ext_iff_of_nodup (ascending_bandsOf R).nodup (List.nodup_dedup _)).mpr hmem
  unfold lowerDuties
  rw [← (hperm.filter _).length_eq, List.filter_map, List.length_map]
  rfl

theorem minRpm_bandsOf (R : List DutyRpm) : ((baselinePoints R).map (·.rpmMin)).min? = (R.map (·.rpm)).min? := by
  have hmem (p : PwmBaselinePoint) : p ∈ baselinePoints R ↔ bandAt R p.dutyPct = some p := by
    rw [mem_iff_lookup (nodup_baselinePoints R), lookup_baselinePoints]
  refine Option.ext fun a => ?_
  rw [List.min?_eq_some_iff, List.min?_eq_some_iff]
  simp only [List.mem_map, forall_exists_index, and_imp, forall_apply_eq_imp_iff₂]
  constructor
  · rintro ⟨⟨p, hp, rfl⟩, hle⟩
    obtain ⟨-, ⟨hlo, -⟩, -⟩ := bandAt_eq_some_iff.mp ((hmem p).mp hp)
    obtain ⟨x, hx, -, hrpm⟩ := mem_readingsAt.mp hlo
    refine ⟨⟨x, hx, hrpm⟩, fun y hy => ?_⟩
    obtain ⟨q, hq, hqy, -⟩ := exists_band hy
    have hd := (bandAt_eq_some_iff.mp hq).1
    exact Nat.le_trans (hle q ((hmem q).mpr (by rwa [hd]))) hqy
  · rintro ⟨⟨x, hx, rfl⟩, hle⟩
    obtain ⟨p, hp, hpx, -⟩ := exists_band hx
    obtain ⟨hd, ⟨hlo, -⟩, -⟩ := bandAt_eq_some_iff.mp hp
    obtain ⟨y, hy, -, hrpm⟩ := mem_readingsAt.mp hlo
    refine ⟨⟨p, (hmem p).mpr (by rwa [hd]), Nat.le_antisymm hpx (hrpm ▸ hle y hy)⟩, fun q hq => ?_⟩
    obtain ⟨-, ⟨hqlo, -⟩, -⟩ := bandAt_eq_some_iff.mp ((hmem q).mp hq)
    obtain ⟨z, hz, -, hzrpm⟩ := mem_readingsAt.mp hqlo
    exact hzrpm ▸ hle z hz

theorem maxRpm_bandsOf (R : List DutyRpm) : ((baselinePoints R).map (·.rpmMax)).max? = (R.map (·.rpm)).max? := by
  have hmem (p : PwmBaselinePoint) : p ∈ baselinePoints R ↔ bandAt R p.dutyPct = some p := by
    rw [mem_iff_lookup (nodup_baselinePoints R), lookup_baselinePoints]
  refine Option.ext fun a => ?_
  rw [List.max?_eq_some_iff, List.max?_eq_some_iff]
  simp only [List.mem_map, forall_exists_index, and_imp, forall_apply_eq_imp_iff₂]
  constructor
  · rintro ⟨⟨p, hp, rfl⟩, hle⟩
    obtain ⟨-, -, hhi, -⟩ := bandAt_eq_some_iff.mp ((hmem p).mp hp)
    obtain ⟨x, hx, -, hrpm⟩ := mem_readingsAt.mp hhi
    refine ⟨⟨x, hx, hrpm⟩, fun y hy => ?_⟩
    obtain ⟨q, hq, -, hqy⟩ := exists_band hy
    have hd := (bandAt_eq_some_iff.mp hq).1
    exact Nat.le_trans hqy (hle q ((hmem q).mpr (by rwa [hd])))
  · rintro ⟨⟨x, hx, rfl⟩, hle⟩
    obtain ⟨p, hp, -, hpx⟩ := exists_band hx
    obtain ⟨hd, -, hhi, -⟩ := bandAt_eq_some_iff.mp hp
    obtain ⟨y, hy, -, hrpm⟩ := mem_readingsAt.mp hhi
    refine ⟨⟨p, (hmem p).mpr (by rwa [hd]), Nat.le_antisymm (hrpm ▸ hle y hy) hpx⟩, fun q hq => ?_⟩
    obtain ⟨-, -, hqhi, -⟩ := bandAt_eq_some_iff.mp ((hmem q).mp hq)
    obtain ⟨z, hz, -, hzrpm⟩ := mem_readingsAt.mp hqhi
    exact hzrpm ▸ hle z hz

/-! ## A header's record -/

/-- What a record holds of the readings merged into it. -/
structure PwmBaselineRecord.Learned (r : PwmBaselineRecord) (headerId : String) (readings : List DutyRpm) : Prop where
  headerId : r.headerId = headerId
  points : r.points = (bandsOf readings).take pwmBaselineMaxPoints
  minRpm : r.minRpm = (readings.map (·.rpm)).min?
  maxRpm : r.maxRpm = (readings.map (·.rpm)).max?

variable {run : CompletedRun} {r existing : PwmBaselineRecord} {headerId : String}

theorem baselineRecordFor_eq_none_iff : baselineRecordFor run = none ↔ rpmsOf run.points = [] := by
  unfold baselineRecordFor
  dsimp only
  have hnil : baselinePoints (rpmsOf run.points) = [] ↔ rpmsOf run.points = [] := by
    constructor
    · intro h
      by_contra hne
      obtain ⟨x, rest, hx⟩ := List.exists_cons_of_ne_nil hne
      obtain ⟨p, hp, -⟩ := exists_band (x := x) (R := rpmsOf run.points) (by rw [hx]; exact List.mem_cons_self)
      rw [← lookup_baselinePoints, h] at hp
      cases hp
    · intro h
      rw [h]
      rfl
  split_ifs with h
  · exact iff_of_true rfl (hnil.mp h)
  · exact iff_of_false nofun fun hr => h (hnil.mpr hr)

theorem clamp_learned (h : baselineRecordFor run = some r) (hid : run.headerId.utf8ByteSize ≤ pwmBaselineMaxTextBytes) :
    r.clamp.Learned run.headerId (rpmsOf run.points) := by
  unfold baselineRecordFor at h
  dsimp only at h
  split_ifs at h
  cases h
  refine ⟨if_pos hid, ?_, minRpm_bandsOf _, maxRpm_bandsOf _⟩
  have hasc := ascending_bandsOf (rpmsOf run.points)
  have hdestutter : (bandsOf (rpmsOf run.points)).destutter (fun p q => p.dutyPct ≠ q.dutyPct) = bandsOf (rpmsOf run.points) :=
    List.destutter_of_isChain _ _ (hasc.imp fun h => h.ne).isChain
  exact congrArg (List.take pwmBaselineMaxPoints) hdestutter

/-- Merging one more sweep. -/
theorem PwmBaselineRecord.Learned.widenWith {R S : List DutyRpm} (h : existing.Learned headerId R) {id : String}
    (hr : r.Learned id S) : (existing.widenWith r).Learned headerId (R ++ S) := by
  refine ⟨h.headerId, ?_, ?_, ?_⟩
  · have hasc (T : List DutyRpm) : Ascending (·.dutyPct) ((bandsOf T).take pwmBaselineMaxPoints) :=
      (ascending_bandsOf T).sublist (List.take_sublist _ _)
    unfold PwmBaselineRecord.widenWith sortByDuty addPoint
    dsimp only
    rw [h.points, hr.points, sort_foldl_upsert dutyPct_widen (hasc R) (hasc S), take_merge (Nat.le_refl _) (Nat.le_refl _),
      merge_bandsOf]
  · rw [List.map_append, min?_append, ← h.minRpm, ← hr.minRpm]
    rfl
  · rw [List.map_append, max?_append, ← h.maxRpm, ← hr.maxRpm]
    rfl

theorem PwmBaselineRecord.Learned.band (h : r.Learned headerId R) (hp : p ∈ r.points) : bandAt R p.dutyPct = some p := by
  rw [h.points] at hp
  exact mem_bandsOf.mp (List.mem_of_mem_take hp)

theorem PwmBaselineRecord.Learned.ascending (h : r.Learned headerId R) : r.points.Pairwise (·.dutyPct < ·.dutyPct) := by
  rw [h.points]
  exact (ascending_bandsOf R).sublist (List.take_sublist _ _)

/-- A reading at one of the lowest duties lies in its band. -/
theorem PwmBaselineRecord.Learned.covers (h : r.Learned headerId R) (hx : x ∈ R)
    (hlow : lowerDuties R x.dutyPct < pwmBaselineMaxPoints) :
    ∃ p ∈ r.points, p.dutyPct = x.dutyPct ∧ p.rpmMin ≤ x.rpm ∧ x.rpm ≤ p.rpmMax := by
  obtain ⟨p, hp, hlo, hhi⟩ := exists_band hx
  have hd := (bandAt_eq_some_iff.mp hp).1
  refine ⟨p, ?_, hd, hlo, hhi⟩
  rw [h.points]
  refine (ascending_bandsOf R).mem_take (mem_bandsOf.mpr (by rwa [hd])) ?_
  rwa [length_filter_bandsOf, hd]

/-- What was merged is not outside what was learned. -/
theorem PwmBaselineRecord.Learned.not_outside (h : r.Learned headerId R) {points : List SweptPoint}
    (hsub : ∀ x ∈ rpmsOf points, x ∈ R) : (compareToLearned points r.learned).outside ≠ some true := by
  have hinside : ∀ c ∈ comparedPoints (rpmsOf points) r.learned, isAbove c = false ∧ isBelow c = false := by
    intro c hc
    obtain ⟨x, hx, hfind⟩ := List.mem_filterMap.mp hc
    obtain ⟨band, hband, rfl⟩ := Option.map_eq_some_iff.mp hfind
    have hduty : band.dutyPct = x.dutyPct := by simpa using List.find?_some hband
    obtain ⟨p, hp, rfl⟩ := List.mem_map.mp (List.mem_of_find?_eq_some hband)
    obtain ⟨-, ⟨-, hlo⟩, -, hhi⟩ := bandAt_eq_some_iff.mp (h.band hp)
    have hmem : x.rpm ∈ readingsAt R p.dutyPct := mem_readingsAt.mpr ⟨x, hsub x hx, hduty.symm, rfl⟩
    have hlo := hlo _ hmem
    have hhi := hhi _ hmem
    unfold isAbove isBelow learnedRangeTolerancePct
    exact ⟨decide_eq_false (by dsimp only; omega), decide_eq_false (by dsimp only; omega)⟩
  have habove : (comparedPoints (rpmsOf points) r.learned).countP isAbove = 0 :=
    List.countP_eq_zero.mpr fun c hc => by rw [(hinside c hc).1]; exact nofun
  have hbelow : (comparedPoints (rpmsOf points) r.learned).countP (fun c => !isAbove c && isBelow c) = 0 :=
    List.countP_eq_zero.mpr fun c hc => by rw [(hinside c hc).2, Bool.and_false]; exact nofun
  unfold compareToLearned
  dsimp only
  split_ifs
  · exact nofun
  · rw [habove, hbelow]
    exact nofun

/-! ## Every sweep -/

def readingsOf (runs : List CompletedRun) : List DutyRpm := runs.flatMap fun run => rpmsOf run.points

/-- The store, and for each header the sweeps merged into its record since that was last made. -/
def follow (at_ : PwmBaselineStore × (String → List CompletedRun)) (run : CompletedRun) :
    PwmBaselineStore × (String → List CompletedRun) :=
  (at_.1.absorb run, fun h =>
    if ((at_.1.absorb run).get h).isNone then []
    else if h = run.headerId ∧ rpmsOf run.points ≠ [] then at_.2 h ++ [run]
    else at_.2 h)

def followAll (runs : List CompletedRun) : PwmBaselineStore × (String → List CompletedRun) :=
  runs.foldl follow (⟨SortedMap.empty⟩, fun _ => [])

/-- The store after these sweeps. -/
def storeAfter (runs : List CompletedRun) : PwmBaselineStore := (followAll runs).1

def mergedInto (runs : List CompletedRun) (headerId : String) : List CompletedRun := (followAll runs).2 headerId

structure Followed (at_ : PwmBaselineStore × (String → List CompletedRun)) : Prop where
  learned : ∀ h r, at_.1.get h = some r → r.Learned h (readingsOf (at_.2 h))
  absent : ∀ h, at_.1.get h = none → at_.2 h = []

namespace PwmBaselineStore

variable {s : PwmBaselineStore}

theorem oldest_spec {best : PwmBaselineRecord} (h : s.oldest = some best) :
    (∃ h, s.get h = some best) ∧ ∀ h r, s.get h = some r → best.validatedUnixMs ≤ r.validatedUnixMs := by
  have hfold : ∀ (l : List PwmBaselineRecord) (acc : Option PwmBaselineRecord), l.foldl (fun best r =>
      some (best.elim r fun b => if r.validatedUnixMs < b.validatedUnixMs then r else b)) acc = some best →
      (best ∈ l ∨ acc = some best) ∧ (∀ r ∈ l, best.validatedUnixMs ≤ r.validatedUnixMs) ∧
        ∀ b, acc = some b → best.validatedUnixMs ≤ b.validatedUnixMs := by
    intro l
    induction l with
    | nil =>
      intro acc h
      change acc = some best at h
      subst h
      exact ⟨Or.inr rfl, nofun, fun b hb => Nat.le_of_eq (congrArg _ (Option.some.inj hb))⟩
    | cons r l ih =>
      intro acc h
      obtain ⟨hmem, hall, hacc⟩ := ih _ h
      have hbest := hacc _ rfl
      cases acc with
      | none =>
        refine ⟨Or.inl ?_, List.forall_mem_cons.mpr ⟨hbest, hall⟩, nofun⟩
        rcases hmem with hmem | hmem
        · exact List.mem_cons_of_mem _ hmem
        · cases hmem
          exact List.mem_cons_self
      | some b =>
        dsimp only [Option.elim_some] at hmem hbest
        split_ifs at hmem hbest with hlt
        · refine ⟨Or.inl ?_, List.forall_mem_cons.mpr ⟨hbest, hall⟩, fun b' hb' => ?_⟩
          · rcases hmem with hmem | hmem
            · exact List.mem_cons_of_mem _ hmem
            · cases hmem
              exact List.mem_cons_self
          · cases hb'
            exact Nat.le_trans hbest hlt.le
        · exact ⟨hmem.imp_left (List.mem_cons_of_mem _), List.forall_mem_cons.mpr ⟨Nat.le_trans hbest (Nat.le_of_not_lt hlt), hall⟩,
            fun b' hb' => by cases hb'; exact hbest⟩
  obtain ⟨hmem, hall, -⟩ := hfold _ none h
  refine ⟨?_, fun h r hr => hall r (List.mem_map.mpr ⟨(h, r), SortedMap.mem_entries.mpr hr, rfl⟩)⟩
  obtain ⟨⟨k, r⟩, he, rfl⟩ := List.mem_map.mp (hmem.resolve_right nofun)
  exact ⟨k, SortedMap.mem_entries.mp he⟩

/-- What making room takes: nothing, or the record validated longest ago. -/
theorem makeRoom_spec (hkeys : ∀ h r, s.get h = some r → r.headerId = h) : s.makeRoom = s ∨
    pwmBaselinesMaxEntries ≤ s.records.entries.length ∧ ∃ gone r, s.get gone = some r ∧
      (∀ h' r', s.get h' = some r' → r.validatedUnixMs ≤ r'.validatedUnixMs) ∧
      ∀ h, s.makeRoom.get h = if h = gone then none else s.get h := by
  unfold makeRoom
  split_ifs with hroom
  · exact Or.inl rfl
  · cases hold : s.oldest with
    | none => exact Or.inl rfl
    | some r =>
      obtain ⟨⟨gone, hgone⟩, hleast⟩ := oldest_spec hold
      have hid := hkeys gone r hgone
      refine Or.inr ⟨Nat.le_of_not_lt hroom, gone, r, hgone, hleast, fun h => ?_⟩
      show (s.records.retain fun k _ => k ≠ r.headerId).get? h = _
      rw [SortedMap.get?_retain, hid]
      show Option.filter _ (s.get h) = _
      cases s.get h with
      | none => exact (ite_self none).symm
      | some r' =>
        rw [Option.filter_some]
        split_ifs with h₁ h₂ h₂
        · exact absurd h₂ (of_decide_eq_true h₁)
        · rfl
        · rfl
        · exact absurd (decide_eq_true h₂) h₁

/-- What one sweep does to the store. -/
theorem absorb_spec {run : CompletedRun}
    (hid : run.headerId.utf8ByteSize ≤ pwmBaselineMaxTextBytes) :
    (rpmsOf run.points = [] ∧ s.absorb run = s) ∨
    (∃ existing r, rpmsOf run.points ≠ [] ∧ s.get run.headerId = some existing ∧ r.Learned run.headerId (rpmsOf run.points) ∧
      ∀ h, (s.absorb run).get h = if h = run.headerId then some (existing.widenWith r) else s.get h) ∨
    (∃ r, rpmsOf run.points ≠ [] ∧ s.get run.headerId = none ∧ r.Learned run.headerId (rpmsOf run.points) ∧
      ∀ h, (s.absorb run).get h = if h = run.headerId then some r else s.makeRoom.get h) := by
  unfold absorb
  cases hrec : baselineRecordFor run with
  | none => exact Or.inl ⟨baselineRecordFor_eq_none_iff.mp hrec, rfl⟩
  | some r =>
    have hne : rpmsOf run.points ≠ [] := fun h => by
      rw [baselineRecordFor_eq_none_iff.mpr h] at hrec
      cases hrec
    have hlearned := clamp_learned hrec hid
    dsimp only
    unfold merge
    rw [hlearned.headerId]
    cases hget : s.get run.headerId with
    | some existing =>
      exact Or.inr (Or.inl ⟨existing, r.clamp, hne, rfl, hlearned, fun h => SortedMap.get?_insert ..⟩)
    | none =>
      refine Or.inr (Or.inr ⟨{ r.clamp with runs := 1 }, hne, rfl, ?_, fun h => SortedMap.get?_insert ..⟩)
      exact ⟨hlearned.headerId, hlearned.points, hlearned.minRpm, hlearned.maxRpm⟩

end PwmBaselineStore

theorem readingsOf_append_single (runs : List CompletedRun) (run : CompletedRun) :
    readingsOf (runs ++ [run]) = readingsOf runs ++ rpmsOf run.points := by
  unfold readingsOf
  rw [List.flatMap_append, List.flatMap_singleton]

theorem Followed.step {at_ : PwmBaselineStore × (String → List CompletedRun)} (hf : Followed at_)
    (hid : run.headerId.utf8ByteSize ≤ pwmBaselineMaxTextBytes) : Followed (follow at_ run) := by
  obtain ⟨s, merged⟩ := at_
  have hkeys : ∀ h r, s.get h = some r → r.headerId = h := fun h r hr => (hf.learned h r hr).headerId
  refine ⟨fun h r' hr' => ?_, fun h hnone => if_pos (by rw [show ((s.absorb run).get h) = none from hnone]; rfl)⟩
  have hmerged : (follow (s, merged) run).2 h =
      if h = run.headerId ∧ rpmsOf run.points ≠ [] then merged h ++ [run] else merged h := by
    unfold follow
    dsimp only
    rw [show (s.absorb run).get h = some r' from hr', if_neg nofun]
  rw [hmerged]
  change (s.absorb run).get h = some r' at hr'
  rcases PwmBaselineStore.absorb_spec hid with ⟨hnil, hsame⟩ | ⟨existing, r, hne, hget, hr, hafter⟩ | ⟨r, hne, hget, hr, hafter⟩
  · rw [if_neg fun h => h.2 hnil]
    rw [hsame] at hr'
    exact hf.learned h r' hr'
  · rw [hafter] at hr'
    by_cases hh : h = run.headerId
    · subst hh
      rw [if_pos rfl] at hr'
      cases hr'
      rw [if_pos ⟨rfl, hne⟩, readingsOf_append_single]
      exact (hf.learned _ _ hget).widenWith hr
    · rw [if_neg hh] at hr'
      rw [if_neg fun h => hh h.1]
      exact hf.learned h r' hr'
  · rw [hafter] at hr'
    by_cases hh : h = run.headerId
    · subst hh
      rw [if_pos rfl] at hr'
      cases hr'
      rw [if_pos ⟨rfl, hne⟩, readingsOf_append_single, show merged run.headerId = [] from hf.absent _ hget]
      exact hr
    · rw [if_neg hh] at hr'
      rw [if_neg fun h => hh h.1]
      rcases PwmBaselineStore.makeRoom_spec hkeys with hroom | ⟨-, gone, -, -, -, hroom⟩
      · rw [hroom] at hr'
        exact hf.learned h r' hr'
      · rw [hroom] at hr'
        split_ifs at hr'
        exact hf.learned h r' hr'

theorem followed (runs : List CompletedRun) (hids : ∀ run ∈ runs, run.headerId.utf8ByteSize ≤ pwmBaselineMaxTextBytes) :
    Followed (followAll runs) := by
  induction runs using List.reverseRecOn with
  | nil => exact ⟨nofun, fun _ _ => rfl⟩
  | append_singleton runs run ih =>
    have hfollow : followAll (runs ++ [run]) = follow (followAll runs) run := List.foldl_append
    rw [hfollow]
    exact (ih fun r hr => hids r (List.mem_append_left _ hr)).step (hids run (by simp))

/-- Over any sweeps, what a record keeps is never narrowed, and the lowest duties are never forgotten. -/
theorem learned_bands_widen (runs : List CompletedRun)
    (hids : ∀ run ∈ runs, run.headerId.utf8ByteSize ≤ pwmBaselineMaxTextBytes) :
    (∀ h r, (storeAfter runs).get h = some r →
      r.points.Pairwise (·.dutyPct < ·.dutyPct) ∧ (∀ p ∈ r.points, p.rpmMin ≤ p.rpmMax) ∧
      (∀ x ∈ readingsOf (mergedInto runs h), lowerDuties (readingsOf (mergedInto runs h)) x.dutyPct < pwmBaselineMaxPoints →
        ∃ p ∈ r.points, p.dutyPct = x.dutyPct ∧ p.rpmMin ≤ x.rpm ∧ x.rpm ≤ p.rpmMax) ∧
      (∀ p ∈ r.points, ∀ x ∈ readingsOf (mergedInto runs h), x.dutyPct = p.dutyPct → p.rpmMin ≤ x.rpm ∧ x.rpm ≤ p.rpmMax) ∧
      (∀ run ∈ mergedInto runs h, ∀ driverUpdateIntervalMs,
        (summarise run.points r.learned driverUpdateIntervalMs).outsideLearnedRange ≠ some true) ∧
      r.minRpm = ((readingsOf (mergedInto runs h)).map (·.rpm)).min? ∧
      r.maxRpm = ((readingsOf (mergedInto runs h)).map (·.rpm)).max?) ∧
    (∀ runs', (∀ run ∈ runs', run.headerId.utf8ByteSize ≤ pwmBaselineMaxTextBytes) → ∀ h r r',
      (storeAfter runs).get h = some r → (storeAfter runs').get h = some r' → (mergedInto runs h).Perm (mergedInto runs' h) →
      r.points = r'.points ∧ r.minRpm = r'.minRpm ∧ r.maxRpm = r'.maxRpm) ∧
    ∀ run : CompletedRun, run.headerId.utf8ByteSize ≤ pwmBaselineMaxTextBytes →
      (∀ h, h ≠ run.headerId → ((storeAfter runs).absorb run).get h = (storeAfter runs).get h) ∨
      pwmBaselinesMaxEntries ≤ (storeAfter runs).records.entries.length ∧ (storeAfter runs).get run.headerId = none ∧
        ∃ gone r, (storeAfter runs).get gone = some r ∧
          (∀ h' r', (storeAfter runs).get h' = some r' → r.validatedUnixMs ≤ r'.validatedUnixMs) ∧
          ∀ h, h ≠ run.headerId →
            ((storeAfter runs).absorb run).get h = if h = gone then none else (storeAfter runs).get h := by
  have hf := followed runs hids
  refine ⟨fun h r hr => ?_, fun runs' hids' h r r' hr hr' hperm => ?_, fun run hid => ?_⟩
  · have hl : r.Learned h (readingsOf (mergedInto runs h)) := hf.learned h r hr
    refine ⟨hl.ascending, fun p hp => ?_, fun x hx hlow => hl.covers hx hlow, fun p hp x hx hd => ?_,
      fun run hrun _ => hl.not_outside fun x hx => List.mem_flatMap.mpr ⟨run, hrun, hx⟩, hl.minRpm, hl.maxRpm⟩
    · obtain ⟨-, ⟨hmem, -⟩, -, hmax⟩ := bandAt_eq_some_iff.mp (hl.band hp)
      exact hmax _ hmem
    · obtain ⟨-, ⟨-, hmin⟩, -, hmax⟩ := bandAt_eq_some_iff.mp (hl.band hp)
      have hmem := mem_readingsAt.mpr ⟨x, hx, hd, rfl⟩
      exact ⟨hmin _ hmem, hmax _ hmem⟩
  · have hl : r.Learned h (readingsOf (mergedInto runs h)) := hf.learned h r hr
    have hl' : r'.Learned h (readingsOf (mergedInto runs' h)) := (followed runs' hids').learned h r' hr'
    have hreadings : (readingsOf (mergedInto runs h)).Perm (readingsOf (mergedInto runs' h)) := hperm.flatMap_right _
    have hbands := bandsOf_perm hreadings
    refine ⟨by rw [hl.points, hl'.points, hbands], ?_, ?_⟩
    · rw [hl.minRpm, hl'.minRpm]
      exact Option.ext fun a => by simp only [List.min?_eq_some_iff, (hreadings.map _).mem_iff]
    · rw [hl.maxRpm, hl'.maxRpm]
      exact Option.ext fun a => by simp only [List.max?_eq_some_iff, (hreadings.map _).mem_iff]
  · have hkeys : ∀ h r, (storeAfter runs).get h = some r → r.headerId = h := fun h r hr => (hf.learned h r hr).headerId
    rcases PwmBaselineStore.absorb_spec hid with ⟨-, hsame⟩ | ⟨existing, r, -, -, -, hafter⟩ | ⟨r, -, hnew, -, hafter⟩
    · exact Or.inl fun h _ => by rw [hsame]
    · exact Or.inl fun h hne => by rw [hafter, if_neg hne]
    · rcases PwmBaselineStore.makeRoom_spec hkeys with hroom | ⟨hfull, gone, r', hgone, hleast, hroom⟩
      · exact Or.inl fun h hne => by rw [hafter, if_neg hne, hroom]
      · exact Or.inr ⟨hfull, hnew, gone, r', hgone, hleast, fun h hne => by rw [hafter, if_neg hne, hroom]⟩

/-- A sweep of one header that reads one speed at each of these duties. -/
def sweepAt (duties : List Nat) (rpm : Nat) : CompletedRun where
  runId := "char-1"
  headerId := "h1"
  points := duties.map fun d =>
    { requestedPct := d, commandAccepted := true, rpmBefore := none, rpmAfter := some rpm, direction := .rising, stepIndex := 0,
      readbackVerdict := "match" }
  summary := none
  bidirectional := false
  completedUnixMs := some 0
  nowUnixMs := 0

def lowDuties : List Nat := [20, 21, 22, 23, 24, 25, 26, 27, 28, 29, 30, 31, 32, 33, 34, 35, 36, 37, 38, 39]

theorem learned_bands_widen_twice : ∃ r, (storeAfter [sweepAt [50] 900, sweepAt [50, 60] 1000]).get "h1" = some r ∧
    r.minRpm = ((readingsOf (mergedInto [sweepAt [50] 900, sweepAt [50, 60] 1000] "h1")).map (·.rpm)).min? := by
  obtain ⟨r, hr⟩ := Option.isSome_iff_exists.mp
    (by decide : ((storeAfter [sweepAt [50] 900, sweepAt [50, 60] 1000]).get "h1").isSome = true)
  have hids : ∀ run ∈ [sweepAt [50] 900, sweepAt [50, 60] 1000], run.headerId.utf8ByteSize ≤ pwmBaselineMaxTextBytes := by
    decide
  exact ⟨r, hr, ((learned_bands_widen _ hids).1 "h1" r hr).2.2.2.2.2.1⟩

/-- Twenty low duties take the band of 100 % away. -/
theorem highest_duty_forgotten : ∃ r, (storeAfter [sweepAt [100] 2000, sweepAt lowDuties 1000]).get "h1" = some r ∧
    ⟨100, 2000⟩ ∈ readingsOf (mergedInto [sweepAt [100] 2000, sweepAt lowDuties 1000] "h1") ∧
    ∀ p ∈ r.points, p.dutyPct ≠ 100 := by
  obtain ⟨r, hr, hpoints⟩ : ∃ r, (storeAfter [sweepAt [100] 2000, sweepAt lowDuties 1000]).get "h1" = some r ∧
      ∀ p ∈ r.points, p.dutyPct ≠ 100 := by
    have h : ((storeAfter [sweepAt [100] 2000, sweepAt lowDuties 1000]).get "h1").any
        (fun r => r.points.all fun p => p.dutyPct ≠ 100) = true := by decide
    obtain ⟨r, hr, hall⟩ := (Option.any_eq_true _ _).mp h
    exact ⟨r, hr, fun p hp => by simpa using List.all_eq_true.mp hall p hp⟩
  exact ⟨r, hr, by decide, hpoints⟩

end ControlOfc.Diagnostics.Sweep
