import ControlOfc.Lib.GreedyRuns
import Mathlib.Data.List.Pairwise
import Mathlib.Data.List.Sort
import Mathlib.Order.MinMax
/-! # Plateaus and the responsive band (api/stats.rs:475-616, 697-712)

A plateau is a run of points whose readings stay within 3 % of the sweep's span. The responsive band is what lies
between one at the bottom of the sweep and one at its top.

Main theorem `plateau_scan`.
-/
namespace ControlOfc.Diagnostics.Stats
open GreedyRuns

/-- `PLATEAU_MIN_POINTS` (constants.rs:777). -/
def plateauMinPoints : Nat := 3

/-- `PLATEAU_BAND_PCT` (constants.rs:778). -/
def plateauBandPct : Nat := 3

structure DutyRpm where
  dutyPct : Nat
  rpm : Nat
  deriving DecidableEq, Repr

structure Plateau where
  fromPct : Nat
  toPct : Nat
  rpmMin : Nat
  rpmMax : Nat
  deriving DecidableEq, Repr

/-- A run of one point. -/
def Plateau.single (p : DutyRpm) : Plateau := ⟨p.dutyPct, p.dutyPct, p.rpm, p.rpm⟩

/-- The next point, unless the spread would leave `band` percent of the span: both sides are a hundredfold. -/
def Plateau.extend (band : Nat) (run : Plateau) (next : DutyRpm) : Option Plateau :=
  let newMin := min run.rpmMin next.rpm
  let newMax := max run.rpmMax next.rpm
  if band < (newMax - newMin) * 100 then none
  else some { run with toPct := next.dutyPct, rpmMin := newMin, rpmMax := newMax }

def lowest (points : List DutyRpm) : Nat := (points.map (·.rpm)).min?.getD 0

def highest (points : List DutyRpm) : Nat := (points.map (·.rpm)).max?.getD 0

def plateaus (points : List DutyRpm) : List Plateau :=
  if points.length < plateauMinPoints then []
  else
    let span := highest points - lowest points
    if span = 0 then
      match points.head?, points.getLast? with
      | some first, some last => [⟨first.dutyPct, last.dutyPct, lowest points, highest points⟩]
      | _, _ => []
    else (scan Plateau.single (Plateau.extend (span * plateauBandPct)) plateauMinPoints 0 points).map (·.state)

structure EffectiveRange where
  minResponsivePct : Option Nat
  maxResponsivePct : Option Nat
  lowPlateauToPct : Option Nat
  saturationFromPct : Option Nat
  deriving DecidableEq, Repr

/-- The first duty above a plateau at the bottom. -/
def minResponsive (points : List DutyRpm) (found : List Plateau) (first : DutyRpm) : Option Nat :=
  match found.find? (·.fromPct = first.dutyPct) with
  | some p => (points.find? (p.toPct < ·.dutyPct)).map (·.dutyPct)
  | none => some first.dutyPct

/-- The last duty below a plateau at the top. -/
def maxResponsive (points : List DutyRpm) (found : List Plateau) (last : DutyRpm) : Option Nat :=
  match found.find? (·.toPct = last.dutyPct) with
  | some p => (points.reverse.find? (·.dutyPct < p.fromPct)).map (·.dutyPct)
  | none => some last.dutyPct

def inverted (lo hi : Option Nat) : Bool :=
  match lo, hi with
  | some lo, some hi => hi < lo
  | _, _ => false

def effectiveRange (points : List DutyRpm) : EffectiveRange :=
  match points.head?, points.getLast? with
  | some first, some last =>
    let found := plateaus points
    if found.any fun p => p.fromPct = first.dutyPct ∧ p.toPct = last.dutyPct then
      ⟨none, none, some last.dutyPct, some first.dutyPct⟩
    else
      let lo := minResponsive points found first
      let hi := maxResponsive points found last
      { minResponsivePct := if inverted lo hi then none else lo
        maxResponsivePct := if inverted lo hi then none else hi
        lowPlateauToPct := (found.find? (·.fromPct = first.dutyPct)).map (·.toPct)
        saturationFromPct := (found.find? (·.toPct = last.dutyPct)).map (·.fromPct) }
  | _, _ => ⟨none, none, none, none⟩

/-- One point of `fold_direction`: the last reading at a duty wins. -/
def foldPoint (out : List DutyRpm) (p : DutyRpm) : List DutyRpm :=
  if out.any (·.dutyPct = p.dutyPct) then out.map fun e => if e.dutyPct = p.dutyPct then p else e else out ++ [p]

/-- `fold_direction`. No duty is there twice, so the first entry at it is the only one. -/
def foldDirection (points : List DutyRpm) : List DutyRpm :=
  (points.foldl foldPoint []).insertionSort fun p q => p.dutyPct ≤ q.dutyPct

/-! ## Points by duty -/

/-- What the shape analyses want of their points. -/
def ByDuty (points : List DutyRpm) : Prop := points.Pairwise fun p q => p.dutyPct < q.dutyPct

theorem nodup_foldl_foldPoint (points out : List DutyRpm) (h : (out.map (·.dutyPct)).Nodup) :
    ((points.foldl foldPoint out).map (·.dutyPct)).Nodup := by
  induction points generalizing out with
  | nil => exact h
  | cons p points ih =>
    refine ih _ ?_
    unfold foldPoint
    split_ifs with hp
    · have hsame : (out.map fun e => if e.dutyPct = p.dutyPct then p else e).map (·.dutyPct) = out.map (·.dutyPct) := by
        rw [List.map_map]
        refine List.map_congr_left fun e _ => ?_
        dsimp only [Function.comp]
        split_ifs with he
        · exact he.symm
        · rfl
      rwa [hsame]
    · rw [List.map_append, List.map_singleton, ← List.concat_eq_append]
      refine List.Nodup.concat (fun hmem => hp ?_) h
      obtain ⟨e, he, heq⟩ := List.mem_map.mp hmem
      exact List.any_eq_true.mpr ⟨e, he, decide_eq_true heq⟩

/-- What is folded is by duty. -/
theorem byDuty_foldDirection (points : List DutyRpm) : ByDuty (foldDirection points) := by
  have hnodup := nodup_foldl_foldPoint points [] List.nodup_nil
  have hperm := List.perm_insertionSort (fun p q : DutyRpm => p.dutyPct ≤ q.dutyPct) (points.foldl foldPoint [])
  have hne := (hperm.map (·.dutyPct)).nodup_iff.mpr hnodup
  have htotal : Std.Total fun p q : DutyRpm => p.dutyPct ≤ q.dutyPct := ⟨fun p q => Nat.le_total p.dutyPct q.dutyPct⟩
  have htrans : IsTrans DutyRpm fun p q => p.dutyPct ≤ q.dutyPct := ⟨fun _ _ _ => Nat.le_trans⟩
  have hle := List.pairwise_insertionSort (fun p q : DutyRpm => p.dutyPct ≤ q.dutyPct) (points.foldl foldPoint [])
  exact List.Pairwise.imp₂ (fun _ _ => Nat.lt_of_le_of_ne) hle (List.pairwise_map.mp hne)

/-! ## A run of points -/

/-- No two readings are further apart than that, a hundredfold. -/
def Within (band : Nat) (run : List DutyRpm) : Prop := ∀ p ∈ run, ∀ q ∈ run, (p.rpm - q.rpm) * 100 ≤ band

/-- A plateau is drawn over a run: its ends and its extremes are the run's. -/
structure Describes (run : List DutyRpm) (pl : Plateau) : Prop where
  fromPct : run.head?.map (·.dutyPct) = some pl.fromPct
  toPct : run.getLast?.map (·.dutyPct) = some pl.toPct
  bounds : ∀ p ∈ run, pl.rpmMin ≤ p.rpm ∧ p.rpm ≤ pl.rpmMax
  least : ∃ p ∈ run, p.rpm = pl.rpmMin
  most : ∃ p ∈ run, p.rpm = pl.rpmMax

variable {band : Nat} {run rest points : List DutyRpm} {pl pl' : Plateau}

theorem describes_single (p : DutyRpm) : Describes [p] (.single p) where
  fromPct := rfl
  toPct := rfl
  bounds q hq := by
    rw [List.mem_singleton.mp hq]
    exact ⟨le_rfl, le_rfl⟩
  least := ⟨p, List.mem_singleton_self p, rfl⟩
  most := ⟨p, List.mem_singleton_self p, rfl⟩

theorem within_single (band : Nat) (p : DutyRpm) : Within band [p] := by
  intro q hq q' hq'
  rw [List.mem_singleton.mp hq, List.mem_singleton.mp hq', Nat.sub_self, Nat.zero_mul]
  exact Nat.zero_le _

/-- A run that is described is within a band when its extremes are. -/
theorem Describes.within (h : Describes run pl) (hband : (pl.rpmMax - pl.rpmMin) * 100 ≤ band) : Within band run := by
  intro p hp q hq
  have := h.bounds p hp
  have := h.bounds q hq
  omega

/-- The run with the next point. -/
def Plateau.with (pl : Plateau) (next : DutyRpm) : Plateau :=
  { pl with toPct := next.dutyPct, rpmMin := min pl.rpmMin next.rpm, rpmMax := max pl.rpmMax next.rpm }

theorem Describes.with (h : Describes run pl) (next : DutyRpm) : Describes (run ++ [next]) (pl.with next) where
  fromPct := by
    obtain ⟨p, hp, hfrom⟩ := Option.map_eq_some_iff.mp h.fromPct
    rw [List.head?_append, hp]
    exact congrArg some hfrom
  toPct := by simp [Plateau.with]
  bounds p hp := by
    rcases List.mem_append.mp hp with hp | hp
    · have := h.bounds p hp
      exact ⟨(min_le_left _ _).trans this.1, this.2.trans (le_max_left _ _)⟩
    · rw [List.mem_singleton.mp hp]
      exact ⟨min_le_right _ _, le_max_right _ _⟩
  least := by
    obtain ⟨p, hp, heq⟩ := h.least
    rcases min_choice pl.rpmMin next.rpm with hmin | hmin
    · exact ⟨p, List.mem_append_left _ hp, heq.trans hmin.symm⟩
    · exact ⟨next, List.mem_append_right _ (List.mem_singleton_self next), hmin.symm⟩
  most := by
    obtain ⟨p, hp, heq⟩ := h.most
    rcases max_choice pl.rpmMax next.rpm with hmax | hmax
    · exact ⟨p, List.mem_append_left _ hp, heq.trans hmax.symm⟩
    · exact ⟨next, List.mem_append_right _ (List.mem_singleton_self next), hmax.symm⟩

/-- A point goes on with a run exactly where the run with it stays within the band. -/
theorem extend_iff (h : Describes run pl) (next : DutyRpm) :
    (Within band (run ++ [next]) → pl.extend band next = some (pl.with next)) ∧
      (¬ Within band (run ++ [next]) → pl.extend band next = none) := by
  have hwith := h.with next
  unfold Plateau.extend
  dsimp only
  constructor
  · intro hband
    obtain ⟨p, hp, hmin⟩ := hwith.least
    obtain ⟨q, hq, hmax⟩ := hwith.most
    have hspread := hband q hq p hp
    rw [hmin, hmax] at hspread
    exact if_neg (Nat.not_lt.mpr hspread)
  · intro hband
    rw [if_pos]
    by_contra hle
    exact hband (hwith.within (Nat.not_lt.mp hle))

theorem Within.of_subset {run' : List DutyRpm} (h : Within band run) (hsub : run' ⊆ run) : Within band run' :=
  fun p hp q hq => h p (hsub hp) q (hsub hq)

theorem foldlM_extend (h : Describes run pl) (hrun : Within band run) : (∃ pl', rest.foldlM (Plateau.extend band) pl = some pl') ↔
    Within band (run ++ rest) := by
  induction rest generalizing run pl with
  | nil => simpa using hrun
  | cons p rest ih =>
    rw [List.foldlM_cons]
    by_cases hp : Within band (run ++ [p])
    · have := ih (h.with p) hp
      rw [List.append_assoc] at this
      rw [(extend_iff h p).1 hp]
      exact this
    · rw [(extend_iff h p).2 hp]
      refine iff_of_false (by simp) fun hall => hp (hall.of_subset fun q hq => ?_)
      rcases List.mem_append.mp hq with hq | hq
      · exact List.mem_append_left _ hq
      · rw [List.mem_singleton.mp hq]
        exact List.mem_append_right _ List.mem_cons_self

theorem foldlM_describes (h : Describes run pl) (hfold : rest.foldlM (Plateau.extend band) pl = some pl') :
    Describes (run ++ rest) pl' := by
  induction rest generalizing run pl with
  | nil =>
    cases hfold
    rwa [List.append_nil]
  | cons p rest ih =>
    rw [List.foldlM_cons] at hfold
    by_cases hp : Within band (run ++ [p])
    · rw [(extend_iff h p).1 hp] at hfold
      have := ih (h.with p) hfold
      rwa [List.append_assoc] at this
    · rw [(extend_iff h p).2 hp] at hfold
      cases hfold

/-- The points of a run. -/
def runOf (points : List DutyRpm) (i n : Nat) : List DutyRpm := (points.drop i).take n

theorem runOf_cons {i n : Nat} {p : DutyRpm} (hdrop : points.drop i = p :: rest) (hn : 1 ≤ n) :
    runOf points i n = [p] ++ rest.take (n - 1) := by
  obtain ⟨m, rfl⟩ := Nat.exists_eq_add_of_le' hn
  rw [runOf, hdrop, List.take_succ_cons]
  rfl

theorem runAt_iff {i n : Nat} (hn : 1 ≤ n) : (∃ pl, RunAt Plateau.single (Plateau.extend band) points i n pl) ↔
    i + n ≤ points.length ∧ Within band (runOf points i n) := by
  constructor
  · rintro ⟨pl, p, rest, hdrop, hlen, -, hfold⟩
    have hlength := congrArg List.length hdrop
    rw [List.length_drop, List.length_cons] at hlength
    rw [runOf_cons hdrop hn]
    exact ⟨by omega, (foldlM_extend (describes_single p) (within_single band p)).mp ⟨pl, hfold⟩⟩
  · rintro ⟨hle, hwithin⟩
    obtain ⟨p, rest, hdrop⟩ := List.exists_cons_of_ne_nil (l := points.drop i) (by rw [Ne, List.drop_eq_nil_iff]; omega)
    have hlength := congrArg List.length hdrop
    rw [List.length_drop, List.length_cons] at hlength
    rw [runOf_cons hdrop hn] at hwithin
    obtain ⟨pl, hfold⟩ := (foldlM_extend (describes_single p) (within_single band p)).mpr hwithin
    exact ⟨pl, p, rest, hdrop, by omega, hn, hfold⟩

theorem runAt_describes {i n : Nat} (h : RunAt Plateau.single (Plateau.extend band) points i n pl) :
    Describes (runOf points i n) pl := by
  obtain ⟨p, rest, hdrop, -, hn, hfold⟩ := h
  rw [runOf_cons hdrop hn]
  exact foldlM_describes (describes_single p) hfold

theorem runOf_succ {i n : Nat} {p : DutyRpm} (h : points[i + n]? = some p) :
    runOf points i (n + 1) = runOf points i n ++ [p] := by
  rw [runOf, List.take_add_one, List.getElem?_drop, h]
  rfl

/-! ## The scan -/

/-- The readings of a run stay within 3 % of the sweep's span. -/
def Flat (points run : List DutyRpm) : Prop := Within ((highest points - lowest points) * plateauBandPct) run

/-- A plateau of the sweep: the run it is drawn over, which the next point would not leave flat. -/
structure PlateauAt (points : List DutyRpm) (r : Run Plateau) : Prop where
  long : plateauMinPoints ≤ r.length
  inside : r.start + r.length ≤ points.length
  flat : Flat points (runOf points r.start r.length)
  described : Describes (runOf points r.start r.length) r.state
  maximal : r.start + r.length < points.length → ¬ Flat points (runOf points r.start (r.length + 1))

theorem spread_le {p q : DutyRpm} (hp : p ∈ points) (hq : q ∈ points) : p.rpm - q.rpm ≤ highest points - lowest points := by
  have hhi : p.rpm ≤ highest points := by
    have hmem := List.mem_map_of_mem (f := (·.rpm)) hp
    obtain ⟨hi, heq⟩ := Option.isSome_iff_exists.mp (List.isSome_max?_of_mem hmem)
    rw [highest, heq]
    exact (List.max?_eq_some_iff.mp heq).2 _ hmem
  have hlo : lowest points ≤ q.rpm := by
    have hmem := List.mem_map_of_mem (f := (·.rpm)) hq
    obtain ⟨lo, heq⟩ := Option.isSome_iff_exists.mp (List.isSome_min?_of_mem hmem)
    rw [lowest, heq]
    exact (List.min?_eq_some_iff.mp heq).2 _ hmem
  omega

theorem describes_all {first last : DutyRpm} (hfirst : points.head? = some first) (hlast : points.getLast? = some last) :
    Describes points ⟨first.dutyPct, last.dutyPct, lowest points, highest points⟩ := by
  have hne : points.map (·.rpm) ≠ [] := by
    rintro h
    rw [List.map_eq_nil_iff.mp h] at hfirst
    cases hfirst
  obtain ⟨lo, hlo⟩ := Option.isSome_iff_exists.mp (List.isSome_min?_of_ne_nil hne)
  obtain ⟨hi, hhi⟩ := Option.isSome_iff_exists.mp (List.isSome_max?_of_ne_nil hne)
  obtain ⟨hlomem, hloall⟩ := List.min?_eq_some_iff.mp hlo
  obtain ⟨himem, hhiall⟩ := List.max?_eq_some_iff.mp hhi
  rw [lowest, highest, hlo, hhi]
  exact
    { fromPct := by rw [hfirst]; rfl
      toPct := by rw [hlast]; rfl
      bounds := fun p hp => ⟨hloall _ (List.mem_map_of_mem hp), hhiall _ (List.mem_map_of_mem hp)⟩
      least := List.mem_map.mp hlomem
      most := List.mem_map.mp himem }

/-- The plateaus of a sweep and where they are: apart and in order, and no flat run of their length is missed. -/
theorem plateaus_spec (points : List DutyRpm) : ∃ found : List (Run Plateau), plateaus points = found.map (·.state) ∧
    (∀ r ∈ found, PlateauAt points r) ∧ found.Pairwise (fun r r' => r.start + r.length ≤ r'.start) ∧
    ∀ i n, plateauMinPoints ≤ n → i + n ≤ points.length → Flat points (runOf points i n) →
      ∃ r ∈ found, r.start < i + n ∧ i < r.start + r.length := by
  have hpos : 0 < plateauMinPoints := by decide
  unfold plateaus
  dsimp only
  split_ifs with hfew hspan
  · refine ⟨[], rfl, nofun, .nil, fun i n hn hle => ?_⟩
    omega
  · obtain ⟨first, rest, hcons⟩ := List.exists_cons_of_ne_nil (l := points) (by rintro rfl; exact hfew hpos)
    obtain ⟨last, hlast⟩ : ∃ last, points.getLast? = some last := by
      rw [hcons]
      exact ⟨_, List.getLast?_cons⟩
    have hfirst : points.head? = some first := by
      rw [hcons]
      rfl
    rw [hfirst, hlast]
    refine ⟨[⟨0, points.length, _⟩], rfl, fun r hr => ?_, List.pairwise_singleton _ _, fun i n hn hle _ =>
      ⟨_, List.mem_singleton_self _, ?_, ?_⟩⟩
    · obtain rfl := List.mem_singleton.mp hr
      have hall : runOf points 0 points.length = points := List.take_length
      refine
        { long := Nat.not_lt.mp hfew
          inside := (Nat.zero_add _).le
          flat := ?_
          described := hall.symm ▸ describes_all hfirst hlast
          maximal := fun h => absurd h (by dsimp only; omega) }
      intro p hp q hq
      dsimp only at hp hq
      rw [hall] at hp hq
      have := spread_le hp hq
      omega
    · dsimp only
      omega
    · dsimp only
      omega
  · refine ⟨_, rfl, fun r hr => ?_, scan_pairwise 0 points, fun i n hn hle hflat => ?_⟩
    · obtain ⟨-, hlong, hrun, hstop⟩ := scan_mem 0 points r hr
      rw [Nat.sub_zero] at hrun hstop
      obtain ⟨hinside, hflat⟩ := (runAt_iff (by omega)).mp ⟨_, hrun⟩
      have hdesc := runAt_describes hrun
      refine ⟨hlong, hinside, hflat, hdesc, fun hlt hmore => ?_⟩
      have hnext := List.getElem?_eq_getElem hlt
      rw [Flat, runOf_succ hnext] at hmore
      have hnone := hstop _ hnext
      rw [(extend_iff hdesc _).1 hmore] at hnone
      cases hnone
    · obtain ⟨pl, hrun⟩ := (runAt_iff (by omega)).mpr ⟨hle, hflat⟩
      obtain ⟨r, hr, h1, h2⟩ := scan_complete 0 points hn hrun
      exact ⟨r, hr, by omega, by omega⟩

/-! ## Plateaus by duty -/

section Duties

variable (hsorted : ByDuty points)
include hsorted

theorem duty_lt {i j : Nat} {p q : DutyRpm} (hij : i < j) (hp : points[i]? = some p) (hq : points[j]? = some q) :
    p.dutyPct < q.dutyPct := by
  obtain ⟨hi, rfl⟩ := List.getElem?_eq_some_iff.mp hp
  obtain ⟨hj, rfl⟩ := List.getElem?_eq_some_iff.mp hq
  exact List.pairwise_iff_getElem.mp hsorted i j hi hj hij

omit hsorted in
/-- The ends of a plateau are points of the sweep. -/
theorem PlateauAt.ends {r : Run Plateau} (h : PlateauAt points r) :
    (∃ p, points[r.start]? = some p ∧ p.dutyPct = r.state.fromPct) ∧
      ∃ p, points[r.start + (r.length - 1)]? = some p ∧ p.dutyPct = r.state.toPct := by
  have hlong : 3 ≤ r.length := h.long
  have hinside := h.inside
  obtain ⟨p, hp, hfrom⟩ := Option.map_eq_some_iff.mp h.described.fromPct
  obtain ⟨q, hq, hto⟩ := Option.map_eq_some_iff.mp h.described.toPct
  have hlen : (runOf points r.start r.length).length = r.length := by
    rw [runOf, List.length_take, List.length_drop]
    omega
  have hget {i : Nat} (hi : i < r.length) : (runOf points r.start r.length)[i]? = points[r.start + i]? := by
    rw [runOf, List.getElem?_take_of_lt hi, List.getElem?_drop]
  rw [List.head?_eq_getElem?, hget (by omega), Nat.add_zero] at hp
  rw [List.getLast?_eq_getElem?, hlen, hget (by omega)] at hq
  exact ⟨⟨p, hp, hfrom⟩, q, hq, hto⟩

theorem PlateauAt.from_lt_to {r : Run Plateau} (h : PlateauAt points r) : r.state.fromPct < r.state.toPct := by
  obtain ⟨⟨p, hp, hfrom⟩, q, hq, hto⟩ := h.ends
  have hlong : 3 ≤ r.length := h.long
  rw [← hfrom, ← hto]
  exact duty_lt hsorted (by omega) hp hq

theorem plateaus_pairwise : (plateaus points).Pairwise fun p q => p.toPct < q.fromPct := by
  obtain ⟨found, heq, hat, hpair, -⟩ := plateaus_spec points
  rw [heq, List.pairwise_map]
  refine hpair.imp_of_mem fun {r r'} hr hr' hlt => ?_
  obtain ⟨-, q, hq, hto⟩ := (hat r hr).ends
  obtain ⟨⟨p, hp, hfrom⟩, -⟩ := (hat r' hr').ends
  have hlong : 3 ≤ r.length := (hat r hr).long
  rw [← hfrom, ← hto]
  exact duty_lt hsorted (by omega) hq hp

theorem from_lt_to (hpl : pl ∈ plateaus points) : pl.fromPct < pl.toPct := by
  obtain ⟨found, heq, hat, -⟩ := plateaus_spec points
  rw [heq] at hpl
  obtain ⟨r, hr, rfl⟩ := List.mem_map.mp hpl
  exact (hat r hr).from_lt_to hsorted

/-- Plateaus that share a duty are one. -/
theorem plateau_unique (hpl : pl ∈ plateaus points) (hpl' : pl' ∈ plateaus points)
    (hmeet : pl.fromPct ≤ pl'.toPct) (hmeet' : pl'.fromPct ≤ pl.toPct) : pl = pl' := by
  have hsymm : Std.Symm fun p q : Plateau => p.toPct < q.fromPct ∨ q.toPct < p.fromPct := ⟨fun _ _ => Or.symm⟩
  have hapart : (plateaus points).Pairwise fun p q => p.toPct < q.fromPct ∨ q.toPct < p.fromPct :=
    (plateaus_pairwise hsorted).imp .inl
  by_contra hne
  have := hapart.forall hpl hpl' hne
  omega

end Duties

/-! ## The responsive band -/

section Range

variable {first last : DutyRpm} {lo hi : Nat}

/-- A responsive band is one of a sweep that is not a plateau from end to end. -/
theorem effectiveRange_some (hmin : (effectiveRange points).minResponsivePct = some lo ∨
    (effectiveRange points).maxResponsivePct = some hi) : ∃ first last, points.head? = some first ∧ points.getLast? = some last ∧
      (∀ p ∈ plateaus points, ¬ (p.fromPct = first.dutyPct ∧ p.toPct = last.dutyPct)) ∧
      inverted (minResponsive points (plateaus points) first) (maxResponsive points (plateaus points) last) = false ∧
      (effectiveRange points).minResponsivePct = minResponsive points (plateaus points) first ∧
      (effectiveRange points).maxResponsivePct = maxResponsive points (plateaus points) last := by
  unfold effectiveRange at hmin ⊢
  cases hfirst : points.head? with
  | none => simp [hfirst] at hmin
  | some first =>
    cases hlast : points.getLast? with
    | none => simp [hfirst, hlast] at hmin
    | some last =>
      simp only [hfirst, hlast] at hmin ⊢
      split_ifs at hmin ⊢ with hwhole hinv
      · simp at hmin
      · simp at hmin
      · refine ⟨first, last, rfl, rfl, fun p hp hends => hwhole (List.any_eq_true.mpr ⟨p, hp, decide_eq_true hends⟩), ?_, rfl, rfl⟩
        exact Bool.eq_false_iff.mpr hinv

theorem minResponsive_some (hfirst : points.head? = some first)
    (h : minResponsive points (plateaus points) first = some lo) : (∃ p ∈ points, p.dutyPct = lo) ∧
      (ByDuty points → ∀ pl ∈ plateaus points, pl.fromPct = first.dutyPct → pl.toPct < lo) := by
  unfold minResponsive at h
  cases hlow : (plateaus points).find? (·.fromPct = first.dutyPct) with
  | none =>
    rw [hlow] at h
    cases h
    refine ⟨⟨first, List.mem_of_head? hfirst, rfl⟩, fun _ pl hpl hfrom => ?_⟩
    exact absurd (decide_eq_true hfrom) (List.find?_eq_none.mp hlow pl hpl)
  | some low =>
    rw [hlow] at h
    obtain ⟨p, hp, rfl⟩ := Option.map_eq_some_iff.mp h
    refine ⟨⟨p, List.mem_of_find?_eq_some hp, rfl⟩, fun hsorted pl hpl hfrom => ?_⟩
    have hlowmem := List.mem_of_find?_eq_some hlow
    have hlowfrom : low.fromPct = first.dutyPct := by simpa using List.find?_some hlow
    have hwide := from_lt_to hsorted hpl
    have hwide' := from_lt_to hsorted hlowmem
    obtain rfl := plateau_unique hsorted hpl hlowmem (by omega) (by omega)
    simpa using List.find?_some hp

theorem maxResponsive_some (hlast : points.getLast? = some last)
    (h : maxResponsive points (plateaus points) last = some hi) : (∃ p ∈ points, p.dutyPct = hi) ∧
      (ByDuty points → ∀ pl ∈ plateaus points, pl.toPct = last.dutyPct → hi < pl.fromPct) := by
  unfold maxResponsive at h
  cases hhigh : (plateaus points).find? (·.toPct = last.dutyPct) with
  | none =>
    rw [hhigh] at h
    cases h
    refine ⟨⟨last, List.mem_of_getLast? hlast, rfl⟩, fun _ pl hpl hto => ?_⟩
    exact absurd (decide_eq_true hto) (List.find?_eq_none.mp hhigh pl hpl)
  | some high =>
    rw [hhigh] at h
    obtain ⟨p, hp, rfl⟩ := Option.map_eq_some_iff.mp h
    refine ⟨⟨p, List.mem_reverse.mp (List.mem_of_find?_eq_some hp), rfl⟩, fun hsorted pl hpl hto => ?_⟩
    have hhighmem := List.mem_of_find?_eq_some hhigh
    have hhighto : high.toPct = last.dutyPct := by simpa using List.find?_some hhigh
    have hwide := from_lt_to hsorted hpl
    have hwide' := from_lt_to hsorted hhighmem
    obtain rfl := plateau_unique hsorted hpl hhighmem (by omega) (by omega)
    simpa using List.find?_some hp

/-- A sweep that reads one value throughout has no responsive duty. -/
theorem effectiveRange_constant (hlen : plateauMinPoints ≤ points.length)
    (hsame : ∀ p ∈ points, ∀ q ∈ points, p.rpm = q.rpm) :
    (effectiveRange points).minResponsivePct = none ∧ (effectiveRange points).maxResponsivePct = none := by
  obtain ⟨first, rest, hcons⟩ := List.exists_cons_of_ne_nil (l := points) (by rintro rfl; exact absurd hlen (by decide))
  obtain ⟨last, hlast⟩ : ∃ last, points.getLast? = some last := by
    rw [hcons]
    exact ⟨_, List.getLast?_cons⟩
  have hfirst : points.head? = some first := by
    rw [hcons]
    rfl
  have hdesc := describes_all hfirst hlast
  obtain ⟨p, hp, hlo⟩ := hdesc.least
  obtain ⟨q, hq, hhi⟩ := hdesc.most
  have hspan : highest points - lowest points = 0 := by
    have := hsame p hp q hq
    dsimp only at hlo hhi
    omega
  have hwhole : plateaus points = [⟨first.dutyPct, last.dutyPct, lowest points, highest points⟩] := by
    unfold plateaus
    rw [if_neg (Nat.not_lt.mpr hlen)]
    dsimp only
    rw [if_pos hspan, hfirst, hlast]
  unfold effectiveRange
  simp [hfirst, hlast, hwhole]

end Range

/-- The plateaus of a sweep are apart, in order, as long as they go, and none is missed; so the responsive band is a
band between tested duties, clear of a plateau at either end of the sweep. -/
theorem plateau_scan {points : List DutyRpm} (hsorted : ByDuty points) :
    (∃ found : List (Run Plateau), plateaus points = found.map (·.state) ∧ (∀ r ∈ found, PlateauAt points r) ∧
      found.Pairwise (fun r r' => r.start + r.length ≤ r'.start) ∧
      ∀ i n, plateauMinPoints ≤ n → i + n ≤ points.length → Flat points (runOf points i n) →
        ∃ r ∈ found, r.start < i + n ∧ i < r.start + r.length) ∧
    (plateaus points).Pairwise (fun p q => p.toPct < q.fromPct) ∧
    (∀ lo, (effectiveRange points).minResponsivePct = some lo → ∃ p ∈ points, p.dutyPct = lo) ∧
    (∀ hi, (effectiveRange points).maxResponsivePct = some hi → ∃ p ∈ points, p.dutyPct = hi) ∧
    (∀ lo hi, (effectiveRange points).minResponsivePct = some lo → (effectiveRange points).maxResponsivePct = some hi →
      lo ≤ hi ∧ ∀ pl ∈ plateaus points, points.head?.map (·.dutyPct) = some pl.fromPct ∨
        points.getLast?.map (·.dutyPct) = some pl.toPct →
          ∀ p ∈ points, pl.fromPct ≤ p.dutyPct → p.dutyPct ≤ pl.toPct → ¬ (lo ≤ p.dutyPct ∧ p.dutyPct ≤ hi)) ∧
    (plateauMinPoints ≤ points.length → (∀ p ∈ points, ∀ q ∈ points, p.rpm = q.rpm) →
      (effectiveRange points).minResponsivePct = none ∧ (effectiveRange points).maxResponsivePct = none) := by
  refine ⟨plateaus_spec points, plateaus_pairwise hsorted, fun lo hlo => ?_, fun hi hhi => ?_, fun lo hi hlo hhi => ?_,
    effectiveRange_constant⟩
  · obtain ⟨first, last, hfirst, -, -, -, hmin, -⟩ := @effectiveRange_some points lo 0 (.inl hlo)
    exact (minResponsive_some hfirst (hmin.symm.trans hlo)).1
  · obtain ⟨first, last, -, hlast, -, -, -, hmax⟩ := @effectiveRange_some points 0 hi (.inr hhi)
    exact (maxResponsive_some hlast (hmax.symm.trans hhi)).1
  · obtain ⟨first, last, hfirst, hlast, -, hinv, hmin, hmax⟩ := @effectiveRange_some points lo hi (.inl hlo)
    have hlo' := hmin.symm.trans hlo
    have hhi' := hmax.symm.trans hhi
    rw [hlo', hhi'] at hinv
    refine ⟨Nat.not_lt.mp (of_decide_eq_false hinv), fun pl hpl hend p hp hfrom hto hin => ?_⟩
    rcases hend with hend | hend
    · rw [hfirst] at hend
      have := (minResponsive_some hfirst hlo').2 hsorted pl hpl (Option.some.inj hend).symm
      omega
    · rw [hlast] at hend
      have := (maxResponsive_some hlast hhi').2 hsorted pl hpl (Option.some.inj hend).symm
      omega

theorem plateau_scan_steady :
    (effectiveRange [⟨20, 800⟩, ⟨30, 800⟩, ⟨40, 800⟩]).minResponsivePct = none ∧
      (effectiveRange [⟨20, 800⟩, ⟨30, 800⟩, ⟨40, 800⟩]).maxResponsivePct = none :=
  (plateau_scan (show ByDuty [⟨20, 800⟩, ⟨30, 800⟩, ⟨40, 800⟩] by simp [ByDuty])).2.2.2.2.2 (by decide) (by simp)

end ControlOfc.Diagnostics.Stats
