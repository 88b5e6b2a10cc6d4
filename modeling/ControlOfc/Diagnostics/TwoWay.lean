import ControlOfc.Diagnostics.CharSummary
import ControlOfc.Diagnostics.SweepPlan
/-! # A fan swept one way and both ways (api/characterization.rs:722-1128, 1278-1323)

A fan without hysteresis reads the same at a duty whichever way the duty was reached, so what a summary folds by duty
comes out the same on both walks. The dead zone does not: it follows the walk, and the walk both ways starts at the top.

Main theorem `two_way_reports_alike`.
-/
namespace ControlOfc.Diagnostics.Sweep
open Stats List Thinning

/-! ## A fan without hysteresis -/

/-- What the fan reads at a duty. -/
def reading (fan : Nat → UInt16) (d : Nat) : DutyRpm := ⟨d, (fan d).toNat⟩

/-- A step whose command was taken and read back as written. -/
structure Reads (fan : Nat → UInt16) (step : SweepStep) (point : SweptPoint) : Prop where
  requested : point.requestedPct = step.pct
  direction : point.direction = step.direction
  accepted : point.commandAccepted = true
  as_written : point.readbackPct = some step.pct
  manual : ∀ en ∈ point.pwmEnable, en = 1
  judged : point.readbackVerdict = readbackVerdict point.requestedPct point.readbackPct point.pwmEnable
  read : point.rpmAfter = some (fan step.pct).toNat

def Measured (fan : Nat → UInt16) (steps : List SweepStep) (points : List SweptPoint) : Prop :=
  Forall₂ (Reads fan) steps points

section Measured

variable {fan : Nat → UInt16} {steps : List SweepStep} {points : List SweptPoint}

theorem Reads.verdict {step : SweepStep} {point : SweptPoint} (h : Reads fan step point) : point.readbackVerdict = "match" := by
  have hmanual : point.pwmEnable.any (· ≠ 1) = false := by
    cases hen : point.pwmEnable with
    | none => rfl
    | some en => simp [h.manual en hen]
  rw [h.judged, h.as_written, h.requested, readbackVerdict, hmanual, Bool.false_and, if_neg Bool.false_ne_true]
  simp [absDiff, readbackTolerancePct]

theorem Measured.map_requestedPct (h : Measured fan steps points) : points.map (·.requestedPct) = steps.map (·.pct) := by
  induction h with
  | nil => rfl
  | cons hread _ ih => rw [map_cons, map_cons, hread.requested, ih]

theorem Measured.rpmsOf (h : Measured fan steps points) : rpmsOf points = (steps.map (·.pct)).map (reading fan) := by
  induction h with
  | nil => rfl
  | @cons step point _ points hread _ ih =>
    have hpoint : (point.rpmAfter.map fun r => (⟨point.requestedPct, r⟩ : DutyRpm)) = some (reading fan step.pct) := by
      rw [hread.read, hread.requested]
      rfl
    calc Sweep.rpmsOf (point :: points) = reading fan step.pct :: Sweep.rpmsOf points := filterMap_cons_some hpoint
      _ = _ := congrArg _ ih

theorem Measured.filter (h : Measured fan steps points) (direction : Direction) :
    Measured fan (steps.filter (·.direction = direction)) (points.filter (·.direction = direction)) := by
  induction h with
  | nil => exact Forall₂.nil
  | @cons step point _ _ hread _ ih =>
    by_cases hdir : step.direction = direction
    · rw [filter_cons_of_pos (by simpa using hdir), filter_cons_of_pos (by simpa [hread.direction] using hdir)]
      exact Forall₂.cons hread ih
    · rwa [filter_cons_of_neg (by simpa using hdir), filter_cons_of_neg (by simpa [hread.direction] using hdir)]

theorem Measured.verdicts (h : Measured fan steps points) : ∀ p ∈ points, p.commandAccepted = true ∧ p.readbackVerdict = "match" := by
  induction h with
  | nil => exact fun p hp => absurd hp not_mem_nil
  | cons hread _ ih =>
    intro p hp
    rcases mem_cons.mp hp with rfl | hp
    · exact ⟨hread.accepted, hread.verdict⟩
    · exact ih p hp

theorem Measured.commandAcceptance (h : Measured fan steps points) (hne : points ≠ []) : commandAcceptance points = "pass" := by
  have hall : points.countP (·.commandAccepted) = points.length := countP_eq_length.mpr fun p hp => (h.verdicts p hp).1
  have hpos := length_pos_of_ne_nil hne
  unfold Sweep.commandAcceptance
  dsimp only
  rw [hall, if_neg (by rintro (h | h) <;> simp_all), if_pos rfl]

theorem Measured.pwmReadback (h : Measured fan steps points) (hne : points ≠ []) : pwmReadback points = "pass" := by
  have hnot (token : String) (htoken : "match" ≠ token) : points.any (·.readbackVerdict = token) = false := by
    rw [any_eq_false]
    intro p hp
    rw [(h.verdicts p hp).2]
    simpa using htoken
  have hsome : ¬ points.all (·.readbackVerdict = "unavailable") := by
    obtain ⟨p, hp⟩ := exists_mem_of_ne_nil points hne
    intro hall
    have := of_decide_eq_true (all_eq_true.mp hall p hp)
    rw [(h.verdicts p hp).2] at this
    exact absurd this (by decide)
  rw [Sweep.pwmReadback, hnot _ (by decide), hnot _ (by decide), if_neg Bool.false_ne_true,
    if_neg (by rintro (h | h); exacts [hne h, hsome h]), if_neg Bool.false_ne_true]

theorem Measured.isBidirectional (h : Measured fan steps points) :
    isBidirectional points = steps.any (·.direction = .falling) := by
  induction h with
  | nil => rfl
  | cons hread _ ih =>
    rw [Sweep.isBidirectional, any_cons, any_cons, hread.direction]
    exact congrArg _ ih

end Measured

/-! ## What does not depend on the walk -/

section SameMembers

theorem min?_congr {l l' : List Nat} (h : ∀ x, x ∈ l ↔ x ∈ l') : l.min? = l'.min? :=
  Option.ext fun x => by simp only [min?_eq_some_iff, h]

theorem max?_congr {l l' : List Nat} (h : ∀ x, x ∈ l ↔ x ∈ l') : l.max? = l'.max? :=
  Option.ext fun x => by simp only [max?_eq_some_iff, h]

variable {rpms rpms' : List DutyRpm}

theorem minRpm_congr (h : ∀ r, r ∈ rpms ↔ r ∈ rpms') : minRpm rpms = minRpm rpms' :=
  min?_congr fun x => by simp only [mem_map, h]

theorem maxRpm_congr (h : ∀ r, r ∈ rpms ↔ r ∈ rpms') : maxRpm rpms = maxRpm rpms' :=
  max?_congr fun x => by simp only [mem_map, h]

theorem rpmResponse_congr (h : ∀ r, r ∈ rpms ↔ r ∈ rpms') : rpmResponse rpms = rpmResponse rpms' := by
  rw [rpmResponse, rpmResponse, minRpm_congr h, maxRpm_congr h]

theorem mem_comparedPoints_congr (h : ∀ r, r ∈ rpms ↔ r ∈ rpms') (learned : List LearnedPoint) (c : DutyRpm × LearnedPoint) :
    c ∈ comparedPoints rpms learned ↔ c ∈ comparedPoints rpms' learned := by
  simp only [comparedPoints, mem_filterMap, h]

/-- Whether a reading lies outside its band is a matter of the readings, not of their order. -/
theorem outside_iff (points : List SweptPoint) (learned : List LearnedPoint) (b : Bool) :
    (compareToLearned points learned).outside = some b ↔ (∃ c, c ∈ comparedPoints (rpmsOf points) learned) ∧
      (b = true ↔ ∃ c ∈ comparedPoints (rpmsOf points) learned, isAbove c ∨ isBelow c) := by
  unfold compareToLearned
  dsimp only
  split_ifs with hnone
  · simp [hnone]
  · have hcount : 0 < (comparedPoints (rpmsOf points) learned).countP isAbove +
        (comparedPoints (rpmsOf points) learned).countP (fun c => !isAbove c && isBelow c) ↔
          ∃ c ∈ comparedPoints (rpmsOf points) learned, isAbove c ∨ isBelow c := by
      rw [Nat.add_pos_iff_pos_or_pos, countP_pos_iff, countP_pos_iff]
      constructor
      · rintro (⟨c, hc, habove⟩ | ⟨c, hc, hbelow⟩)
        · exact ⟨c, hc, .inl habove⟩
        · exact ⟨c, hc, .inr (Bool.and_eq_true_iff.mp hbelow).2⟩
      · rintro ⟨c, hc, hout⟩
        by_cases habove : isAbove c
        · exact .inl ⟨c, hc, habove⟩
        · exact .inr ⟨c, hc, by simp [habove, hout.resolve_left habove]⟩
    rw [← hcount]
    cases b <;> simp [exists_mem_of_ne_nil _ hnone]

theorem outside_congr {points points' : List SweptPoint} (h : ∀ r, r ∈ rpmsOf points ↔ r ∈ rpmsOf points')
    (learned : List LearnedPoint) : (compareToLearned points learned).outside = (compareToLearned points' learned).outside :=
  Option.ext fun b => by simp only [outside_iff, mem_comparedPoints_congr h]

end SameMembers

section Fold

variable {fan : Nat → UInt16} {out points : List DutyRpm}

/-- Every point is what the fan reads at its duty. -/
def Consistent (fan : Nat → UInt16) (points : List DutyRpm) : Prop := ∀ p ∈ points, p = reading fan p.dutyPct

theorem mem_foldPoint (hout : Consistent fan out) {p : DutyRpm} (hp : p = reading fan p.dutyPct) (q : DutyRpm) :
    q ∈ foldPoint out p ↔ q ∈ out ∨ q = p := by
  unfold foldPoint
  split_ifs with hany
  · obtain ⟨e, he, hduty⟩ := any_eq_true.mp hany
    have hep : e = p := by rw [hout e he, hp, of_decide_eq_true hduty]
    have hsame : (out.map fun e => if e.dutyPct = p.dutyPct then p else e) = out := by
      refine (map_congr_left fun e he => ?_).trans out.map_id
      split_ifs with hduty
      · rw [hp, ← hduty, ← hout e he, id]
      · rfl
    rw [hsame]
    exact ⟨.inl, fun h => h.elim id fun h => h ▸ hep ▸ he⟩
  · rw [mem_append, mem_singleton]

theorem mem_foldl_foldPoint (hout : Consistent fan out) (hpoints : Consistent fan points) (q : DutyRpm) :
    q ∈ points.foldl foldPoint out ↔ q ∈ out ∨ q ∈ points := by
  induction points generalizing out with
  | nil => simp
  | cons p points ih =>
    have hp : p = reading fan p.dutyPct := hpoints p mem_cons_self
    have hout' : Consistent fan (foldPoint out p) := fun e he =>
      ((mem_foldPoint hout hp e).mp he).elim (hout e) fun h => h ▸ hp
    rw [foldl_cons, ih hout' fun e he => hpoints e (mem_cons_of_mem p he), mem_foldPoint hout hp, mem_cons, or_assoc]

theorem byDuty_readings {duties : List Nat} (hsorted : duties.Pairwise (· < ·)) : ByDuty (duties.map (reading fan)) :=
  pairwise_map.mpr hsorted

/-- A walk over the duties, in any order and with any returns, folds to one reading for each duty. -/
theorem foldDirection_readings {walked duties : List Nat} (hsorted : duties.Pairwise (· < ·)) (hmem : ∀ d, d ∈ walked ↔ d ∈ duties) :
    foldDirection (walked.map (reading fan)) = duties.map (reading fan) := by
  have hconsistent : Consistent fan (walked.map (reading fan)) := by
    intro p hp
    obtain ⟨d, -, rfl⟩ := mem_map.mp hp
    rfl
  refine (byDuty_foldDirection _).eq_of_mem_iff (byDuty_readings hsorted) fun q => ?_
  rw [foldDirection, mem_insertionSort, mem_foldl_foldPoint (fun p hp => absurd hp not_mem_nil) hconsistent]
  simp only [not_mem_nil, false_or, mem_map, hmem]

end Fold

/-! ## The two walks -/

section Walks

variable {fan : Nat → UInt16} {duties walked : List Nat} {steps : List SweepStep} {points : List SweptPoint}

theorem length_baseOf_le (hsorted : duties.Pairwise (· < ·)) : (baseOf duties true).length ≤ characterizationMaxUniqueBidirectional :=
  length_thinTo_le hsorted (by decide)

theorem baseOf_pairwise (hsorted : duties.Pairwise (· < ·)) : (baseOf duties true).Pairwise (· < ·) :=
  hsorted.sublist (thinTo_sublist hsorted (by decide))

theorem baseOf_of_few (hsorted : duties.Pairwise (· < ·)) (hfew : duties.length ≤ characterizationMaxUniqueBidirectional) :
    baseOf duties true = duties := by
  rw [baseOf, if_pos rfl, thinTo_eq hsorted (by decide), if_pos hfew]

theorem three_le_length_baseOf (hsorted : duties.Pairwise (· < ·)) (hlen : 3 ≤ duties.length) : 3 ≤ (baseOf duties true).length := by
  rw [baseOf, if_pos rfl, thinTo_eq hsorted (by decide)]
  split_ifs
  · exact hlen
  · rw [length_pick]
    decide

/-- No walk is cut: one way for what its caller gives it, both ways for any duties. -/
theorem map_resolveSweepPlan {bidirectional : Bool} {dwell : Option Nat} {β : Type} {g : SweepStep → β}
    (hg : ∀ d s, g (setDwell d s) = g s) (hne : duties ≠ []) (hlen : (walkOf duties bidirectional).length ≤ characterizationMaxPoints) :
    (resolveSweepPlan duties bidirectional dwell).map g = (walkOf duties bidirectional).map g := by
  rw [resolveSweepPlan, if_neg hne, take_of_length_le hlen, map_assignDwells hg]

theorem length_walkOf_both (hsorted : duties.Pairwise (· < ·)) : (walkOf duties true).length ≤ characterizationMaxPoints := by
  have hbase := length_baseOf_le hsorted
  have hcap : 2 * characterizationMaxUniqueBidirectional - 1 ≤ characterizationMaxPoints := by decide
  rw [← length_map (·.pct), map_pct_walkOf, if_pos rfl, length_append, length_reverse, length_drop]
  omega

theorem length_walkOf_base (hsorted : duties.Pairwise (· < ·)) : (walkOf (baseOf duties true) false).length ≤ characterizationMaxPoints :=
  length_walkOf_le (baseOf_pairwise hsorted) ((length_baseOf_le hsorted).trans (by decide))

theorem filter_direction (steps : List SweepStep) (direction : Direction) :
    (steps.filter (·.direction = direction)).map (·.pct) =
      ((steps.map fun s => (s.pct, s.direction)).filter (·.2 = direction)).map (·.1) := by
  rw [filter_map, map_map]
  rfl

theorem filter_firstLeg {leg direction : Direction} (hdir : direction ≠ .ramp) (base : List Nat) :
    ((firstLeg leg base).filter (·.direction = direction)).map (·.pct) = if leg = direction then base.tail else [] := by
  cases base with
  | nil => split_ifs <;> rfl
  | cons pct rest =>
    rw [firstLeg, filter_cons_of_neg (by simp [push, hdir.symm])]
    split_ifs with hleg
    · rw [filter_eq_self.mpr (by simp [push, hleg]), map_pct_push]
      rfl
    · rw [filter_eq_nil_iff.mpr (by simp [push, hleg]), map_nil]

theorem filter_push {leg direction : Direction} (base : List Nat) :
    ((base.map (push leg)).filter (·.direction = direction)).map (·.pct) = if leg = direction then base else [] := by
  split_ifs with hleg
  · rw [filter_eq_self.mpr (by simp [push, hleg]), map_pct_push]
  · rw [filter_eq_nil_iff.mpr (by simp [push, hleg]), map_nil]

/-- The way down without the ramp, and the way up without the turn. -/
theorem legs_walkOf (duties : List Nat) :
    ((walkOf duties true).filter (·.direction = .falling)).map (·.pct) = (baseOf duties true).reverse.tail ∧
      ((walkOf duties true).filter (·.direction = .rising)).map (·.pct) = (baseOf duties true).tail := by
  have hwalk : walkOf duties true =
      firstLeg .falling (baseOf duties true).reverse ++ ((baseOf duties true).drop 1).map (push .rising) := rfl
  have hfalling : Direction.falling ≠ .ramp := nofun
  have hrising : Direction.rising ≠ .ramp := nofun
  rw [hwalk, filter_append, filter_append, map_append, map_append, filter_firstLeg hfalling, filter_firstLeg hrising,
    filter_push, filter_push, drop_one]
  exact ⟨append_nil _, rfl⟩

theorem any_falling (steps : List SweepStep) :
    steps.any (·.direction = .falling) = (steps.map (·.direction)).any (· = .falling) := by
  rw [any_map]
  rfl

theorem any_falling_oneWay (base : List Nat) : (walkOf base false).any (·.direction = .falling) = false := by
  have hleg := (filter_firstLeg (show Direction.falling ≠ .ramp by decide) base).trans (if_neg (show Direction.rising ≠ .falling by decide))
  rw [map_eq_nil_iff, filter_eq_nil_iff] at hleg
  exact any_eq_false.mpr hleg

theorem any_falling_bothWays (hlen : 2 ≤ (baseOf duties true).length) : (walkOf duties true).any (·.direction = .falling) = true := by
  have hleg := (legs_walkOf duties).1
  have hne : (baseOf duties true).reverse.tail ≠ [] := by
    rw [← length_pos_iff_ne_nil, length_tail, length_reverse]
    omega
  rw [← hleg, Ne, map_eq_nil_iff, filter_eq_nil_iff] at hne
  rw [any_eq_true]
  by_contra hnone
  exact hne fun s hs h => hnone ⟨s, hs, h⟩

/-- The points of the walk one way. -/
structure OneWay (fan : Nat → UInt16) (base : List Nat) (points : List SweptPoint) : Prop where
  ne_nil : points ≠ []
  requested : points.map (·.requestedPct) = base
  readings : rpmsOf points = base.map (reading fan)
  directed : isBidirectional points = false

/-- The points of the walk both ways. -/
structure BothWays (fan : Nat → UInt16) (base : List Nat) (points : List SweptPoint) : Prop where
  ne_nil : points ≠ []
  requested : points.map (·.requestedPct) = base.reverse ++ base.tail
  readings : rpmsOf points = (base.reverse ++ base.tail).map (reading fan)
  directed : isBidirectional points = true
  falling : series points .falling = base.dropLast.map (reading fan)
  rising : series points .rising = base.tail.map (reading fan)

theorem Measured.oneWay {dwell : Option Nat} (hsorted : duties.Pairwise (· < ·)) (hlen : 3 ≤ duties.length)
    (h : Measured fan (resolveSweepPlan (baseOf duties true) false dwell) points) : OneWay fan (baseOf duties true) points := by
  have hbase : baseOf duties true ≠ [] := ne_nil_of_length_pos (by have := three_le_length_baseOf hsorted hlen; omega)
  have hpct : (resolveSweepPlan (baseOf duties true) false dwell).map (·.pct) = baseOf duties true := by
    rw [map_resolveSweepPlan (fun _ _ => rfl) hbase (length_walkOf_base hsorted), map_pct_walkOf]
    rfl
  have hdir : (resolveSweepPlan (baseOf duties true) false dwell).map (·.direction) =
      (walkOf (baseOf duties true) false).map (·.direction) :=
    map_resolveSweepPlan (fun _ _ => rfl) hbase (length_walkOf_base hsorted)
  refine ⟨fun hnil => hbase ?_, h.map_requestedPct.trans hpct, h.rpmsOf.trans (congrArg _ hpct), ?_⟩
  · rw [← hpct, ← h.map_requestedPct, hnil, map_nil]
  · rw [h.isBidirectional, any_falling, hdir, ← any_falling, any_falling_oneWay]

theorem Measured.bothWays {dwell : Option Nat} (hsorted : duties.Pairwise (· < ·)) (hlen : 3 ≤ duties.length)
    (h : Measured fan (resolveSweepPlan duties true dwell) points) : BothWays fan (baseOf duties true) points := by
  have hthree := three_le_length_baseOf hsorted hlen
  have hduties : duties ≠ [] := ne_nil_of_length_pos (by omega)
  have hplan {β : Type} {g : SweepStep → β} (hg : ∀ d s, g (setDwell d s) = g s) :
      (resolveSweepPlan duties true dwell).map g = (walkOf duties true).map g :=
    map_resolveSweepPlan hg hduties (length_walkOf_both hsorted)
  have hpct : (resolveSweepPlan duties true dwell).map (·.pct) = (baseOf duties true).reverse ++ (baseOf duties true).tail := by
    rw [hplan fun _ _ => rfl, map_pct_walkOf, if_pos rfl, drop_one]
  have hdir : (resolveSweepPlan duties true dwell).map (·.direction) = (walkOf duties true).map (·.direction) := hplan fun _ _ => rfl
  have hleg (direction : Direction) : series points direction =
      foldDirection ((((walkOf duties true).filter (·.direction = direction)).map (·.pct)).map (reading fan)) := by
    rw [series, (h.filter direction).rpmsOf, filter_direction, hplan fun _ _ => rfl, ← filter_direction]
  have hbase := baseOf_pairwise hsorted
  refine ⟨fun hnil => ?_, h.map_requestedPct.trans hpct, h.rpmsOf.trans (congrArg _ hpct), ?_, ?_, ?_⟩
  · rw [← h.map_requestedPct, hnil, map_nil, eq_comm, append_eq_nil_iff, reverse_eq_nil_iff] at hpct
    rw [hpct.1] at hthree
    cases hthree
  · rw [h.isBidirectional, any_falling, hdir, ← any_falling, any_falling_bothWays (by omega)]
  · rw [hleg, (legs_walkOf duties).1]
    exact foldDirection_readings (hbase.sublist (dropLast_sublist _)) fun d => by rw [tail_reverse, mem_reverse]
  · rw [hleg, (legs_walkOf duties).2]
    exact foldDirection_readings (hbase.sublist (tail_sublist _)) fun d => Iff.rfl

end Walks

/-! ## The dead zone -/

/-- The duties start in a flat stretch of at least two, which ends at `d` with a higher one past it. -/
def LeavesFlat (flat : Nat → Prop) (duties : List Nat) (d : Nat) : Prop :=
  ∃ low q rest, duties = low ++ q :: rest ∧ 2 ≤ low.length ∧ (∀ x ∈ low, flat x) ∧ ¬ flat q ∧ low.getLast? = some d

section LeavesFlat

variable {flat : Nat → Prop} {walked base : List Nat} {d : Nat}

theorem LeavesFlat.exists_steep (h : LeavesFlat flat walked d) : ∃ q ∈ walked, ¬ flat q := by
  obtain ⟨low, q, rest, rfl, -, -, hq, -⟩ := h
  exact ⟨q, by simp, hq⟩

theorem exists_leavesFlat_iff (hlen : 2 ≤ walked.length) (hsteep : ∃ q ∈ walked, ¬ flat q) :
    (∃ d, LeavesFlat flat walked d) ↔ ∀ x ∈ walked.take 2, flat x := by
  classical
  constructor
  · rintro ⟨d, low, q, rest, rfl, htwo, hlow, -, -⟩ x hx
    rw [take_append_of_le_length htwo] at hx
    exact hlow x (mem_of_mem_take hx)
  · intro htake
    have hflat : ∀ x ∈ walked.takeWhile fun x => decide (flat x), flat x := fun x hx =>
      of_decide_eq_true (mem_takeWhile_imp (p := fun x => decide (flat x)) hx)
    obtain ⟨q, rest, hrest⟩ : ∃ q rest, walked.dropWhile (fun x => decide (flat x)) = q :: rest := by
      refine exists_cons_of_ne_nil fun hnil => ?_
      obtain ⟨q, hq, hsteep⟩ := hsteep
      exact hsteep (of_decide_eq_true (dropWhile_eq_nil_iff.mp hnil q hq))
    have hq : ¬ flat q := by
      have := head_dropWhile_not (fun x => decide (flat x)) (hrest ▸ cons_ne_nil q rest)
      simpa [hrest] using this
    have hwalked := takeWhile_append_dropWhile (p := fun x => decide (flat x)) (l := walked)
    rw [hrest] at hwalked
    have htwo : 2 ≤ (walked.takeWhile fun x => decide (flat x)).length := by
      by_contra hshort
      refine hq (htake q ?_)
      rw [← hwalked, take_append, mem_append]
      obtain ⟨k, hk⟩ : ∃ k, 2 - (walked.takeWhile fun x => decide (flat x)).length = k + 1 := ⟨_, (Nat.succ_pred_eq_of_pos (by omega)).symm⟩
      rw [hk]
      exact .inr mem_cons_self
    refine ⟨_, _, q, rest, hwalked.symm, htwo, hflat, hq, getLast?_eq_some_getLast (ne_nil_of_length_pos (by omega))⟩

/-- From the bottom and from the top, a flat stretch does not end at one duty. -/
theorem LeavesFlat.not_both (hsorted : base.Pairwise (· < ·)) (hup : LeavesFlat flat base d)
    (hdown : LeavesFlat flat (base.reverse ++ base.tail) d) : False := by
  obtain ⟨low, q, rest, rfl, -, -, hq, hlast⟩ := hup
  obtain ⟨high, q', rest', hwalk, -, hhigh, -, hlast'⟩ := hdown
  have hd : d ∈ low := mem_of_getLast? hlast
  have hd' : d ∈ high := mem_of_getLast? hlast'
  have hinit : high <+: rest.reverse := by
    rw [reverse_append, reverse_cons, append_assoc, append_assoc, singleton_append] at hwalk
    rcases append_eq_append_iff.mp hwalk with ⟨more, hmore, hrest⟩ | ⟨more, hmore, -⟩
    · cases more with
      | nil => exact ⟨[], by rw [hmore, append_nil, append_nil]⟩
      | cons x more =>
        -- the stretch from the top would have to pass `q`
        obtain rfl : q = x := (cons_eq_cons.mp hrest).1
        exact absurd (hhigh q (hmore ▸ mem_append_right _ mem_cons_self)) hq
    · exact ⟨more, hmore.symm⟩
  have hrest : d ∈ rest := mem_reverse.mp (hinit.subset hd')
  have := (pairwise_append.mp hsorted).2.2 d hd d (mem_cons_of_mem q hrest)
  omega

/-- Up and back from the top, the walk leaves a flat stretch where the climb does just when neither starts in one. -/
theorem leavesFlat_alike_iff (hsorted : base.Pairwise (· < ·)) (hlen : 2 ≤ base.length) :
    (∀ d, LeavesFlat flat (base.reverse ++ base.tail) d ↔ LeavesFlat flat base d) ↔
      (∀ x ∈ base, flat x) ∨ (¬ ∀ x ∈ base.take 2, flat x) ∧ ¬ ∀ x ∈ base.reverse.take 2, flat x := by
  have hmem (q : Nat) : q ∈ base.reverse ++ base.tail ↔ q ∈ base := by
    rw [mem_append, mem_reverse]
    exact ⟨fun h => h.elim id mem_of_mem_tail, .inl⟩
  by_cases hsteep : ∃ q ∈ base, ¬ flat q
  · have hup := exists_leavesFlat_iff hlen hsteep
    have hdown : (∃ d, LeavesFlat flat (base.reverse ++ base.tail) d) ↔ ∀ x ∈ base.reverse.take 2, flat x := by
      rw [exists_leavesFlat_iff (by rw [length_append, length_reverse]; omega) (by simpa only [hmem] using hsteep),
        take_append_of_le_length (by rwa [length_reverse])]
    have hnot : ¬ ∀ x ∈ base, flat x := fun hall => hsteep.elim fun q hq => hq.2 (hall q hq.1)
    rw [← hup, ← hdown, or_iff_right hnot]
    constructor
    · intro h
      exact ⟨fun ⟨d, hd⟩ => hd.not_both hsorted ((h d).mpr hd), fun ⟨d, hd⟩ => LeavesFlat.not_both hsorted ((h d).mp hd) hd⟩
    · rintro ⟨hup, hdown⟩ d
      exact ⟨fun hd => absurd ⟨d, hd⟩ hdown, fun hd => absurd ⟨d, hd⟩ hup⟩
  · have hall : ∀ x ∈ base, flat x := by
      by_contra hnot
      simp only [not_forall] at hnot
      obtain ⟨q, hq, hq'⟩ := hnot
      exact hsteep ⟨q, hq, hq'⟩
    have hnone {walked : List Nat} (hsame : ∀ q, q ∈ walked ↔ q ∈ base) (d : Nat) : ¬ LeavesFlat flat walked d := by
      intro h
      obtain ⟨q, hq, hq'⟩ := h.exists_steep
      exact hq' (hall q ((hsame q).mp hq))
    exact ⟨fun _ => .inl hall, fun _ d => iff_of_false (hnone hmem d) (hnone (fun _ => Iff.rfl) d)⟩

end LeavesFlat

section DeadZone

variable {fan : Nat → UInt16} {base walked : List Nat} {d : Nat}

/-- The slowest reading at any of the duties. -/
def slowest (fan : Nat → UInt16) (duties : List Nat) : Nat := (minRpm (duties.map (reading fan))).getD 0

/-- The fan reads within the tolerance of its slowest there. -/
def IsFlat (fan : Nat → UInt16) (duties : List Nat) (d : Nat) : Prop :=
  absDiff (fan d).toNat (slowest fan duties) ≤ rpmTolerance (slowest fan duties)

instance (fan : Nat → UInt16) (duties : List Nat) : DecidablePred (IsFlat fan duties) := fun _ => by
  unfold IsFlat; infer_instance

/-- The highest duty of the longest flat run of at least two lowest duties, with one above it that is not flat. -/
def IsDeadZone (fan : Nat → UInt16) (duties : List Nat) (d : Nat) : Prop := LeavesFlat (IsFlat fan duties) duties d

theorem minRpm_readings (hne : base ≠ []) : minRpm (base.map (reading fan)) = some (slowest fan base) := by
  obtain ⟨lo, hlo⟩ : ∃ lo, minRpm (base.map (reading fan)) = some lo :=
    Option.ne_none_iff_exists'.mp fun hnone => hne (by simpa [minRpm] using hnone)
  rw [slowest, hlo, Option.getD_some]

/-- The dead zone of readings in the order they were taken. -/
theorem deadZoneUpperPct_eq_some (hmin : minRpm (walked.map (reading fan)) = some (slowest fan base)) :
    deadZoneUpperPct (walked.map (reading fan)) = some d ↔ LeavesFlat (IsFlat fan base) walked d := by
  have hwalked := takeWhile_append_dropWhile (p := fun x => decide (IsFlat fan base x)) (l := walked)
  have hflat : (walked.map (reading fan)).takeWhile (fun r => absDiff r.rpm (slowest fan base) ≤ rpmTolerance (slowest fan base)) =
      (walked.takeWhile fun x => decide (IsFlat fan base x)).map (reading fan) := takeWhile_map ..
  have hlast : ((walked.takeWhile fun x => decide (IsFlat fan base x)).map (reading fan)).getLast?.map (·.dutyPct) =
      (walked.takeWhile fun x => decide (IsFlat fan base x)).getLast? := by
    rw [getLast?_map, Option.map_map]
    exact congrFun Option.map_id _
  unfold deadZoneUpperPct
  rw [hmin]
  dsimp only
  rw [hflat, hlast, length_map, length_map]
  constructor
  · intro h
    split_ifs at h with hshort hleft
    obtain ⟨htwo, hmore⟩ := hleft
    obtain ⟨q, rest, hrest⟩ : ∃ q rest, walked.dropWhile (fun x => decide (IsFlat fan base x)) = q :: rest := by
      refine exists_cons_of_ne_nil fun hnil => ?_
      rw [hnil, append_nil] at hwalked
      rw [hwalked] at hmore
      exact absurd hmore (lt_irrefl _)
    rw [hrest] at hwalked
    refine ⟨_, q, rest, hwalked.symm, htwo, fun x hx => ?_, ?_, h⟩
    · exact of_decide_eq_true (mem_takeWhile_imp (p := fun x => decide (IsFlat fan base x)) hx)
    · have := head_dropWhile_not (fun x => decide (IsFlat fan base x)) (hrest ▸ cons_ne_nil q rest)
      simpa [hrest] using this
  · rintro ⟨low, q, rest, rfl, htwo, hlow, hq, hd⟩
    have htake : (low ++ q :: rest).takeWhile (fun x => decide (IsFlat fan base x)) = low := by
      rw [takeWhile_append_of_pos (by simpa using hlow), takeWhile_cons_of_neg (by simpa using hq), append_nil]
    rw [htake, length_append, length_cons, if_neg (by omega), if_pos (by omega), hd]

end DeadZone

/-! ## Windows -/

section Windows

variable {seq : List Nat} {ws : List (Nat × Nat)}

theorem windows_tail (seq : List Nat) : windows seq.tail = (windows seq).tail := by
  cases seq with
  | nil => rfl
  | cons a seq => cases seq <;> rfl

theorem windows_dropLast (seq : List Nat) : windows seq.dropLast = (windows seq).dropLast := by
  induction seq with
  | nil => rfl
  | cons a seq ih =>
    match seq, ih with
    | [], _ => rfl
    | [_], _ => rfl
    | b :: c :: rest, ih =>
      show (a, b) :: windows (b :: c :: rest).dropLast = _
      rw [ih]
      rfl

theorem length_windows (seq : List Nat) : (windows seq).length = seq.length - 1 := by
  rw [windows, length_zip, length_tail]
  omega

theorem all_of_both_ends (p : Nat × Nat → Bool) (hlen : 2 ≤ ws.length) : (ws.dropLast.all p && ws.tail.all p) = ws.all p := by
  match ws, hlen with
  | w :: w' :: rest, _ =>
    rw [Bool.eq_iff_iff, Bool.and_eq_true_iff, all_eq_true, all_eq_true, all_eq_true]
    refine ⟨fun ⟨hfront, hback⟩ v hv => ?_, fun h => ⟨fun v hv => h v ((dropLast_sublist _).subset hv), fun v hv => h v (mem_of_mem_tail hv)⟩⟩
    rcases mem_cons.mp hv with rfl | hv
    · exact hfront v (by simp)
    · exact hback v hv

/-- The windows an addition in which overflows, up to the first fall. -/
def overflowsIn : List (Nat × Nat) → Bool
  | [] => false
  | w :: rest => 65536 ≤ w.2 + rpmTolerance w.1 || (w.1 ≤ w.2 + rpmTolerance w.1 && overflowsIn rest)

/-- Whether an addition of `summarise` overflows. -/
def overflows (points : List SweptPoint) : Bool :=
  if isBidirectional points then
    overflowsIn (windows ((series points .falling).map (·.rpm))) || overflowsIn (windows ((series points .rising).map (·.rpm)))
  else overflowsIn (windows ((rpmsOf points).map (·.rpm)))

/-- The reading leaves room for the tolerance of the one before it. -/
def Fits (w : Nat × Nat) : Prop := w.2 + rpmTolerance w.1 < 65536

def Holds (w : Nat × Nat) : Prop := w.1 ≤ w.2 + rpmTolerance w.1

theorem overflowsIn_eq_false : overflowsIn ws = false ↔
    ∀ (i : Nat) (w : Nat × Nat), ws[i]? = some w → (∀ j < i, ∀ v : Nat × Nat, ws[j]? = some v → Holds v) → Fits w := by
  induction ws with
  | nil => simp [overflowsIn]
  | cons w rest ih =>
    rw [overflowsIn, Bool.or_eq_false_iff, decide_eq_false_iff_not, not_le, Bool.and_eq_false_iff, decide_eq_false_iff_not, ih]
    constructor
    · rintro ⟨hfits, hrest⟩ i v hv hbefore
      cases i with
      | zero => exact Option.some.inj hv ▸ hfits
      | succ i =>
        have hholds : Holds w := hbefore 0 i.succ_pos w rfl
        refine (hrest.resolve_left fun h => h hholds) i v hv fun j hj u hu => ?_
        exact hbefore (j + 1) (Nat.succ_lt_succ hj) u hu
    · intro h
      refine ⟨h 0 w rfl fun j hj => absurd hj j.not_lt_zero, or_iff_not_imp_left.mpr fun hholds i v hv hbefore => ?_⟩
      refine h (i + 1) v hv fun j hj u hu => ?_
      cases j with
      | zero => exact Option.some.inj hu ▸ not_not.mp hholds
      | succ j => exact hbefore j (Nat.lt_of_succ_lt_succ hj) u hu

/-- From the second window on a fall ends the walk over the windows; the first may stand alone. -/
def RoomUpToFall (ws : List (Nat × Nat)) : Prop :=
  ∀ (i : Nat) (w : Nat × Nat), ws[i]? = some w → (∀ j < i, 0 < j → ∀ v : Nat × Nat, ws[j]? = some v → Holds v) → Fits w

theorem roomUpToFall_iff :
    overflowsIn ws = false ∧ overflowsIn ws.dropLast = false ∧ overflowsIn ws.tail = false ↔ RoomUpToFall ws := by
  rw [overflowsIn_eq_false, overflowsIn_eq_false, overflowsIn_eq_false]
  have hfront {i : Nat} {v : Nat × Nat} (hv : ws.dropLast[i]? = some v) : ws[i]? = some v := by
    rw [getElem?_dropLast] at hv
    split_ifs at hv
    exact hv
  constructor
  · rintro ⟨hall, -, hback⟩ i w hw hbefore
    cases i with
    | zero => exact hall 0 w hw fun j hj => absurd hj j.not_lt_zero
    | succ i =>
      refine hback i w (by rwa [getElem?_tail]) fun j hj v hv => ?_
      exact hbefore (j + 1) (Nat.succ_lt_succ hj) j.succ_pos v (by rwa [getElem?_tail] at hv)
  · intro h
    refine ⟨fun i w hw hbefore => h i w hw fun j hj _ => hbefore j hj, fun i w hw hbefore => ?_, fun i w hw hbefore => ?_⟩
    · refine h i w (hfront hw) fun j hj _ v hv => hbefore j hj v ?_
      have hi : i < ws.dropLast.length := (List.getElem?_eq_some_iff.mp hw).1
      rw [length_dropLast] at hi
      rwa [getElem?_dropLast, if_pos (hj.trans hi)]
    · rw [getElem?_tail] at hw
      refine h (i + 1) w hw fun j hj hpos v hv => ?_
      obtain ⟨j, rfl⟩ := Nat.exists_eq_succ_of_ne_zero hpos.ne'
      exact hbefore j (Nat.lt_of_succ_lt_succ hj) v (by rwa [getElem?_tail])

theorem nonDecreasing_of_two (hlen : 2 ≤ seq.length) :
    nonDecreasing seq = some ((windows seq).all fun w => w.1 ≤ addU16 w.2 (rpmTolerance w.1)) :=
  if_neg (by omega)

end Windows

/-! ## The two summaries -/

/-- The fields a fan without hysteresis has no reason to change, but for the dead zone. -/
structure AlikeButDeadZone (one both : CharSummary) : Prop where
  command_acceptance : one.commandAcceptance = both.commandAcceptance
  pwm_readback : one.pwmReadback = both.pwmReadback
  rpm_response : one.rpmResponse = both.rpmResponse
  min_rpm : one.minRpm = both.minRpm
  max_rpm : one.maxRpm = both.maxRpm
  min_tested_pct : one.minTestedPct = both.minTestedPct
  max_tested_pct : one.maxTestedPct = both.maxTestedPct
  monotonic : one.monotonic = both.monotonic
  min_responsive_pct : one.range.minResponsivePct = both.range.minResponsivePct
  max_responsive_pct : one.range.maxResponsivePct = both.range.maxResponsivePct
  low_plateau_to_pct : one.range.lowPlateauToPct = both.range.lowPlateauToPct
  saturation_from_pct : one.range.saturationFromPct = both.range.saturationFromPct
  plateaus : one.plateaus = both.plateaus
  outside_learned_range : one.outsideLearnedRange = both.outsideLearnedRange

structure ReportsAlike (one both : CharSummary) : Prop extends AlikeButDeadZone one both where
  dead_zone_upper_pct : one.deadZoneUpperPct = both.deadZoneUpperPct

section Summaries

variable {fan : Nat → UInt16} {base : List Nat} {one both : List SweptPoint}

theorem monotonic_alike (hone : OneWay fan base one) (hboth : BothWays fan base both) (hlen : 3 ≤ base.length) :
    (monotonicity one).1 = (monotonicity both).1 := by
  have hrpm (duties : List Nat) : (duties.map (reading fan)).map (·.rpm) = duties.map fun d => (fan d).toNat := map_map ..
  have hfalling : leg (series both .falling) = some ((windows (base.map fun d => (fan d).toNat)).dropLast.all
      fun w => w.1 ≤ addU16 w.2 (rpmTolerance w.1)) := by
    rw [leg, hboth.falling, hrpm, map_dropLast, nonDecreasing_of_two (by simp; omega), windows_dropLast]
  have hrising : leg (series both .rising) = some ((windows (base.map fun d => (fan d).toNat)).tail.all
      fun w => w.1 ≤ addU16 w.2 (rpmTolerance w.1)) := by
    rw [leg, hboth.rising, hrpm, map_tail, nonDecreasing_of_two (by simp; omega), windows_tail]
  have htwo : 2 ≤ (windows (base.map fun d => (fan d).toNat)).length := by
    rw [length_windows, length_map]
    omega
  have hall := all_of_both_ends (fun w => w.1 ≤ addU16 w.2 (rpmTolerance w.1)) htwo
  unfold monotonicity
  rw [hone.directed, hboth.directed, hone.readings, if_neg Bool.false_ne_true, if_pos rfl, hfalling, hrising, hrpm,
    nonDecreasing_of_two (by simp; omega), ← hall]
  cases (windows (base.map fun d => (fan d).toNat)).dropLast.all _ <;>
    cases (windows (base.map fun d => (fan d).toNat)).tail.all _ <;> rfl

theorem mem_worstDelta {deltas : List (Nat × Nat)} {d : Nat × Nat} (h : worstDelta deltas = some d) : d ∈ deltas := by
  have hfold (deltas : List (Nat × Nat)) (worst : Option (Nat × Nat)) :
      deltas.foldl (fun worst d => some (worst.elim d fun w => if w.2 < d.2 then d else w)) worst = some d →
        worst = some d ∨ d ∈ deltas := by
    induction deltas generalizing worst with
    | nil => exact .inl
    | cons e deltas ih =>
      intro h
      rcases ih _ h with hworst | hmem
      · cases worst with
        | none => exact .inr (Option.some.inj hworst ▸ mem_cons_self)
        | some w =>
          have hworst : (if w.2 < e.2 then e else w) = d := Option.some.inj hworst
          split_ifs at hworst
          · exact .inr (hworst ▸ mem_cons_self)
          · exact .inl (congrArg some hworst)
      · exact .inr (mem_cons_of_mem e hmem)
  exact (hfold deltas none h).resolve_left nofun

/-- Legs that read the same at every shared duty have no hysteresis. -/
theorem hysteresis_absent {rising falling : List DutyRpm} (bidirectional : Bool)
    (hsame : ∀ d ∈ sharedDeltas rising falling, d.2 = 0) :
    (hysteresis rising falling bidirectional).verdict ≠ hysteresisPresent := by
  have hnone : hysteresisNone ≠ hysteresisPresent := by decide
  unfold hysteresis
  split_ifs
  · dsimp only
    split
    · exact show hysteresisInsufficient ≠ hysteresisPresent by decide
    · rename_i duty delta hd
      obtain rfl : delta = 0 := hsame _ (mem_worstDelta hd)
      split_ifs with hspan hpct
      · exact hnone
      · rw [Nat.cast_zero, zero_div, zero_mul] at hpct
        exact absurd hpct (by decide)
      · exact hnone
  · exact show hysteresisNotTested ≠ hysteresisPresent by decide

theorem sharedDeltas_readings (up down : List Nat) :
    ∀ d ∈ sharedDeltas (up.map (reading fan)) (down.map (reading fan)), d.2 = 0 := by
  intro d hd
  obtain ⟨r, hr, hd⟩ := mem_filterMap.mp hd
  obtain ⟨f, hf, rfl⟩ := Option.map_eq_some_iff.mp hd
  obtain ⟨x, -, rfl⟩ := mem_map.mp hr
  obtain ⟨y, -, rfl⟩ := mem_map.mp (mem_of_find?_eq_some hf)
  have hduty := find?_some hf
  obtain rfl : y = x := of_decide_eq_true hduty
  exact show absDiff (fan y).toNat (fan y).toNat = 0 by simp [absDiff]

/-- Without hysteresis the walk both ways reports what the walk one way does, but for the dead zone. -/
theorem summarise_alike (hsorted : base.Pairwise (· < ·)) (hone : OneWay fan base one) (hboth : BothWays fan base both)
    (hlen : 3 ≤ base.length) (hacceptance : commandAcceptance one = commandAcceptance both)
    (hreadback : pwmReadback one = pwmReadback both) (learned : List LearnedPoint) (interval interval' : Option Nat) :
    AlikeButDeadZone (summarise one learned interval) (summarise both learned interval') := by
  have hmem (d : Nat) : d ∈ base.reverse ++ base.tail ↔ d ∈ base := by
    rw [mem_append, mem_reverse]
    exact ⟨fun h => h.elim id mem_of_mem_tail, .inl⟩
  have hreadings : ∀ r, r ∈ rpmsOf one ↔ r ∈ rpmsOf both := fun r => by
    rw [hone.readings, hboth.readings, mem_map, mem_map]
    simp only [hmem]
  have hrequested : ∀ d, d ∈ one.map (·.requestedPct) ↔ d ∈ both.map (·.requestedPct) := fun d => by
    rw [hone.requested, hboth.requested, hmem]
  have hfold : foldDirection (rpmsOf one) = foldDirection (rpmsOf both) := by
    rw [hone.readings, hboth.readings, foldDirection_readings hsorted fun _ => Iff.rfl, foldDirection_readings hsorted hmem]
  exact
    { command_acceptance := hacceptance
      pwm_readback := hreadback
      rpm_response := rpmResponse_congr hreadings
      min_rpm := minRpm_congr hreadings
      max_rpm := maxRpm_congr hreadings
      min_tested_pct := min?_congr hrequested
      max_tested_pct := max?_congr hrequested
      monotonic := monotonic_alike hone hboth hlen
      min_responsive_pct := congrArg (fun points => (effectiveRange points).minResponsivePct) hfold
      max_responsive_pct := congrArg (fun points => (effectiveRange points).maxResponsivePct) hfold
      low_plateau_to_pct := congrArg (fun points => (effectiveRange points).lowPlateauToPct) hfold
      saturation_from_pct := congrArg (fun points => (effectiveRange points).saturationFromPct) hfold
      plateaus := congrArg Stats.plateaus hfold
      outside_learned_range := outside_congr hreadings learned }

theorem overflows_iff (hone : OneWay fan base one) (hboth : BothWays fan base both) : overflows one = false ∧ overflows both = false ↔
    RoomUpToFall (windows (base.map fun d => (fan d).toNat)) := by
  have hrpm (duties : List Nat) : (duties.map (reading fan)).map (·.rpm) = duties.map fun d => (fan d).toNat := map_map ..
  rw [← roomUpToFall_iff, overflows, overflows, hone.directed, hboth.directed, if_neg Bool.false_ne_true, if_pos rfl,
    hone.readings, hboth.falling, hboth.rising, hrpm, hrpm, hrpm, Bool.or_eq_false_iff, map_dropLast, map_tail,
    windows_dropLast, windows_tail]

theorem deadZone_oneWay (hone : OneWay fan base one) (hlen : 3 ≤ base.length) (d : Nat) :
    deadZoneUpperPct (rpmsOf one) = some d ↔ IsDeadZone fan base d := by
  rw [hone.readings]
  exact deadZoneUpperPct_eq_some (minRpm_readings (ne_nil_of_length_pos (by omega)))

theorem deadZone_bothWays (hboth : BothWays fan base both) (hlen : 3 ≤ base.length) (d : Nat) :
    deadZoneUpperPct (rpmsOf both) = some d ↔ LeavesFlat (IsFlat fan base) (base.reverse ++ base.tail) d := by
  rw [hboth.readings]
  refine deadZoneUpperPct_eq_some ((minRpm_congr fun r => ?_).trans (minRpm_readings (ne_nil_of_length_pos (by omega))))
  simp only [mem_map, mem_append, mem_reverse]
  exact exists_congr fun d => and_congr_left fun _ => ⟨fun h => h.elim id mem_of_mem_tail, .inl⟩

end Summaries

/-- A step carried out as planned. -/
def carriedOut (fan : Nat → UInt16) (step : SweepStep) : SweptPoint where
  requestedPct := step.pct
  commandAccepted := true
  readbackPct := some step.pct
  rpmBefore := none
  rpmAfter := some (fan step.pct).toNat
  direction := step.direction
  stepIndex := 0
  readbackVerdict := readbackVerdict step.pct (some step.pct) none

theorem measured_carriedOut (fan : Nat → UInt16) (steps : List SweepStep) : Measured fan steps (steps.map (carriedOut fan)) := by
  refine forall₂_map_right_iff.mpr (forall₂_same.mpr fun step _ => ?_)
  exact ⟨rfl, rfl, rfl, rfl, fun _ h => absurd h (by nofun), rfl, rfl⟩

/-- A fan that starts to turn faster past 30%. -/
def stalledLow (d : Nat) : UInt16 := if d ≤ 30 then 500 else if d ≤ 40 then 1000 else 1500

end ControlOfc.Diagnostics.Sweep
