import ControlOfc.Diagnostics.Sweep
import ControlOfc.Lib.Thinning
import Mathlib.Data.List.Sort
/-! # The sweep plan (api/characterization.rs:630-815)

A request becomes an ascending list of duties (`resolvePoints`), and that a walk (`resolveSweepPlan`): upwards, or from
the top down and back. A long list is thinned, once to the step cap and for a walk both ways once more to half of it,
and both ends stay.

Main theorem `sweep_plan`.
-/
namespace ControlOfc.Diagnostics.Sweep
open Thinning List

/-- `CHARACTERIZATION_DEFAULT_POINTS` (constants.rs:568). -/
def characterizationDefaultPoints : List Nat := [30, 40, 50, 60, 70, 80, 90, 100]

/-- `CHARACTERIZATION_MIN_PCT` (constants.rs:593). -/
def characterizationMinPct : Nat := 20

/-- `CHARACTERIZATION_MAX_POINTS` (constants.rs:598). -/
def characterizationMaxPoints : Nat := 20

/-- `CHARACTERIZATION_MAX_UNIQUE_BIDIRECTIONAL` (constants.rs:683). -/
def characterizationMaxUniqueBidirectional : Nat := (characterizationMaxPoints + 1) / 2

/-- `STABILITY_MAX_POINTS` (constants.rs:713). -/
def stabilityMaxPoints : Nat := 3

/-! ## The duties -/

/-- `thin_to`. -/
def thinTo (points : List Nat) (max : Nat) : List Nat :=
  if points.length ≤ max ∨ max < 2 then points else (pick points max).destutter (· ≠ ·)

/-- The duties a request stands for, within the header's bounds. `clamp` wants its bounds in order: `floor ≤ 100`. -/
def clamped (requested : Option (List Nat)) (floor : Nat) : List Nat :=
  let effectiveFloor := max floor characterizationMinPct
  let source := match requested with
    | some v => if v = [] then characterizationDefaultPoints else v
    | none => characterizationDefaultPoints
  source.map fun p => max effectiveFloor (min p 100)

/-- The duties asked for, ascending and once each. -/
def wanted (requested : Option (List Nat)) (floor : Nat) : List Nat :=
  ((clamped requested floor).insertionSort (· ≤ ·)).destutter (· ≠ ·)

def resolvePoints (requested : Option (List Nat)) (floor : Nat) : List Nat :=
  thinTo (wanted requested floor) characterizationMaxPoints

/-! ## The walk -/

def push (direction : Direction) (pct : Nat) : SweepStep := ⟨pct, direction, none⟩

/-- A leg whose first step is entered from wherever the header was. -/
def firstLeg (direction : Direction) : List Nat → List SweepStep
  | [] => []
  | pct :: rest => push .ramp pct :: rest.map (push direction)

def baseOf (points : List Nat) (bidirectional : Bool) : List Nat :=
  if bidirectional then thinTo points characterizationMaxUniqueBidirectional else points

/-- The steps before the cap. -/
def walkOf (points : List Nat) (bidirectional : Bool) : List SweepStep :=
  let base := baseOf points bidirectional
  if bidirectional then firstLeg .falling base.reverse ++ (base.drop 1).map (push .rising) else firstLeg .rising base

def setDwell (d : Nat) (s : SweepStep) : SweepStep := { s with dwell := some d }

/-- The places of the leg that ends the walk, or of the whole walk if that leg is one step. -/
def finalLeg (steps : List SweepStep) (lastDir : Direction) : List Nat :=
  let leg := (steps.zipIdx.filter fun s => s.1.direction = lastDir).map (·.2)
  if leg.length < 2 then List.range steps.length else leg

/-- The places that carry a dwell. -/
def dwellPicks (leg : List Nat) : List Nat :=
  let n := leg.length
  let k := min stabilityMaxPoints n
  let picks := if k ≤ 1 then [leg[n - 1]!] else pick leg k
  (picks.insertionSort (· ≤ ·)).destutter (· ≠ ·)

/-- `assign_dwells`. -/
def assignDwells (steps : List SweepStep) (dwell : Option Nat) : List SweepStep :=
  match dwell, steps.getLast? with
  | some d, some last =>
    (dwellPicks (finalLeg steps last.direction)).foldl (fun steps i => steps.modify i (setDwell d)) steps
  | _, _ => steps

def resolveSweepPlan (points : List Nat) (bidirectional : Bool) (dwell : Option Nat) : List SweepStep :=
  if points = [] then [] else assignDwells ((walkOf points bidirectional).take characterizationMaxPoints) dwell

/-! ## Thinning the duties -/

section Thin

variable {points : List Nat} {max : Nat}

theorem thinTo_eq (hsorted : points.Pairwise (· < ·)) (hmax : 2 ≤ max) :
    thinTo points max = if points.length ≤ max then points else pick points max := by
  unfold thinTo
  by_cases hle : points.length ≤ max
  · rw [if_pos (.inl hle), if_pos hle]
  · rw [if_neg (by omega), if_neg hle]
    exact destutter_of_pairwise (hsorted.sublist (pick_sublist hmax (by omega)))

theorem thinTo_sublist (hsorted : points.Pairwise (· < ·)) (hmax : 2 ≤ max) : thinTo points max <+ points := by
  rw [thinTo_eq hsorted hmax]
  split_ifs with hle
  · exact Sublist.refl _
  · exact pick_sublist hmax (by omega)

theorem length_thinTo_le (hsorted : points.Pairwise (· < ·)) (hmax : 2 ≤ max) : (thinTo points max).length ≤ max := by
  rw [thinTo_eq hsorted hmax]
  split_ifs with hle
  · exact hle
  · exact le_of_eq length_pick

theorem head?_thinTo (hsorted : points.Pairwise (· < ·)) (hmax : 2 ≤ max) : (thinTo points max).head? = points.head? := by
  rw [thinTo_eq hsorted hmax]
  split_ifs with hle
  · rfl
  · exact head?_pick hmax (by omega)

theorem getLast?_thinTo (hsorted : points.Pairwise (· < ·)) (hmax : 2 ≤ max) :
    (thinTo points max).getLast? = points.getLast? := by
  rw [thinTo_eq hsorted hmax]
  split_ifs with hle
  · rfl
  · exact getLast?_pick hmax (by omega)

end Thin

section Points

variable {requested : Option (List Nat)} {floor : Nat}

theorem wanted_pairwise : (wanted requested floor).Pairwise (· < ·) :=
  pairwise_destutter (List.pairwise_insertionSort _ _)

theorem mem_wanted {d : Nat} : d ∈ wanted requested floor ↔ d ∈ clamped requested floor := by
  rw [wanted, mem_destutter, List.mem_insertionSort]

theorem clamped_ne_nil : clamped requested floor ≠ [] := by
  unfold clamped
  rw [Ne, List.map_eq_nil_iff]
  cases requested with
  | none => decide
  | some v =>
    dsimp only
    split_ifs with hv
    · decide
    · exact hv

theorem mem_clamped (hfloor : floor ≤ 100) {d : Nat} (h : d ∈ clamped requested floor) :
    max characterizationMinPct floor ≤ d ∧ d ≤ 100 := by
  obtain ⟨p, -, rfl⟩ := List.mem_map.mp h
  have hmin : characterizationMinPct ≤ 100 := by decide
  omega

theorem wanted_ne_nil : wanted requested floor ≠ [] := by
  obtain ⟨d, hd⟩ := List.exists_mem_of_ne_nil (clamped requested floor) clamped_ne_nil
  exact List.ne_nil_of_mem (mem_wanted.mpr hd)

end Points

/-! ## The dwells -/

section Dwells

variable {steps : List SweepStep} {last : SweepStep} {d : Nat}

theorem countP_modify_le {α : Type} (p : α → Bool) (f : α → α) (l : List α) (i : Nat) :
    (l.modify i f).countP p ≤ l.countP p + 1 := by
  induction l generalizing i with
  | nil => simp
  | cons a l ih =>
    cases i with
    | zero =>
      rw [List.modify_zero_cons, List.countP_cons, List.countP_cons]
      split_ifs <;> omega
    | succ i =>
      have := ih i
      rw [List.modify_succ_cons, List.countP_cons, List.countP_cons]
      omega

theorem countP_foldl_modify_le {α : Type} (p : α → Bool) (f : α → α) (picks : List Nat) (l : List α) :
    (picks.foldl (fun l i => l.modify i f) l).countP p ≤ l.countP p + picks.length := by
  induction picks generalizing l with
  | nil => simp
  | cons i picks ih =>
    have := ih (l.modify i f)
    have := countP_modify_le p f l i
    rw [List.foldl_cons, List.length_cons]
    omega

theorem getElem?_setDwells (picks : List Nat) (steps : List SweepStep) (j : Nat) :
    (picks.foldl (fun steps i => steps.modify i (setDwell d)) steps)[j]? =
      steps[j]?.map fun s => if j ∈ picks then setDwell d s else s := by
  induction picks generalizing steps with
  | nil => simp
  | cons i picks ih =>
    rw [List.foldl_cons, ih, List.getElem?_modify, Option.map_eq_map, Option.map_map]
    congr 1
    funext s
    by_cases hi : i = j
    · subst hi
      by_cases hj : i ∈ picks <;> simp [hj, setDwell]
    · have hne : j ≠ i := fun h => hi h.symm
      simp [hi, hne]

theorem mem_leg {dir : Direction} {i : Nat} :
    i ∈ (steps.zipIdx.filter fun s => s.1.direction = dir).map (·.2) ↔ ∃ s, steps[i]? = some s ∧ s.direction = dir := by
  constructor
  · intro h
    obtain ⟨⟨s, j⟩, hs, rfl⟩ := List.mem_map.mp h
    obtain ⟨hs, hdir⟩ := List.mem_filter.mp hs
    exact ⟨s, List.mem_zipIdx_iff_getElem?.mp hs, of_decide_eq_true hdir⟩
  · rintro ⟨s, hs, hdir⟩
    exact List.mem_map.mpr ⟨(s, i), List.mem_filter.mpr ⟨List.mem_zipIdx_iff_getElem?.mpr hs, decide_eq_true hdir⟩, rfl⟩

theorem length_leg (dir : Direction) : ((steps.zipIdx.filter fun s => s.1.direction = dir).map (·.2)).length =
    steps.countP fun s => s.direction = dir := by
  have hmap : steps = steps.zipIdx.map (·.1) := by simp
  rw [List.length_map, ← List.countP_eq_length_filter]
  conv_rhs => rw [hmap, List.countP_map]
  rfl

theorem getLast?_leg (hlast : steps.getLast? = some last) :
    ((steps.zipIdx.filter fun s => s.1.direction = last.direction).map (·.2)).getLast? = some (steps.length - 1) := by
  obtain ⟨front, rfl⟩ := List.getLast?_eq_some_iff.mp hlast
  rw [List.zipIdx_append, List.filter_append, List.map_append]
  simp

theorem getLast?_finalLeg (hlast : steps.getLast? = some last) :
    (finalLeg steps last.direction).getLast? = some (steps.length - 1) := by
  have hne : steps.length ≠ 0 := by
    intro h
    rw [List.eq_nil_of_length_eq_zero h] at hlast
    cases hlast
  unfold finalLeg
  dsimp only
  split_ifs
  · rw [List.getLast?_range, if_neg hne]
  · exact getLast?_leg hlast

theorem mem_finalLeg {dir : Direction} {i : Nat} (h : i ∈ finalLeg steps dir) :
    (∃ s, steps[i]? = some s ∧ s.direction = dir) ∨ (steps.countP fun s => s.direction = dir) < 2 := by
  unfold finalLeg at h
  dsimp only at h
  split_ifs at h with hlen
  · rw [length_leg] at hlen
    exact .inr hlen
  · exact .inl (mem_leg.mp h)

theorem dwellPicks_spec {leg : List Nat} {i : Nat} (hlast : leg.getLast? = some i) :
    i ∈ dwellPicks leg ∧ (∀ j ∈ dwellPicks leg, j ∈ leg) ∧ (dwellPicks leg).length ≤ stabilityMaxPoints := by
  have hne : leg ≠ [] := by
    rintro rfl
    cases hlast
  have hpos := List.length_pos_of_ne_nil hne
  have hget : leg[leg.length - 1]! = i := by
    rw [List.getLast?_eq_getElem?] at hlast
    simp [hlast]
  obtain ⟨picks, hpicks, hsub, hmem, hlen⟩ : ∃ picks : List Nat,
      dwellPicks leg = (picks.insertionSort (· ≤ ·)).destutter (· ≠ ·) ∧ (∀ j ∈ picks, j ∈ leg) ∧ i ∈ picks ∧ picks.length ≤ stabilityMaxPoints := by
    by_cases hk : min stabilityMaxPoints leg.length ≤ 1
    · refine ⟨[i], by rw [dwellPicks, if_pos hk, hget], fun j hj => ?_, List.mem_singleton_self i, show 1 ≤ stabilityMaxPoints by decide⟩
      rw [List.mem_singleton.mp hj]
      exact List.mem_of_getLast? hlast
    · have hle : min stabilityMaxPoints leg.length ≤ leg.length := min_le_right _ _
      refine ⟨_, by rw [dwellPicks, if_neg hk], fun j hj => (pick_sublist (by omega) hle).subset hj, ?_, ?_⟩
      · exact List.mem_of_getLast? ((getLast?_pick (by omega) hle).trans hlast)
      · rw [length_pick]
        exact min_le_left _ _
  rw [hpicks]
  refine ⟨mem_destutter.mpr ((List.mem_insertionSort _).mpr hmem), fun j hj => ?_, ?_⟩
  · exact hsub j ((List.mem_insertionSort _).mp (mem_destutter.mp hj))
  · have := (List.destutter_sublist (· ≠ ·) (picks.insertionSort (· ≤ ·))).length_le
    rw [List.length_insertionSort] at this
    exact this.trans hlen

/-- What the steps of a walk are once the dwells are set. -/
theorem assignDwells_spec (hlast : steps.getLast? = some last) (hplain : ∀ s ∈ steps, s.dwell = none) :
    ∃ picks : List Nat, (∀ j : Nat, (assignDwells steps (some d))[j]? =
        steps[j]?.map fun s => if j ∈ picks then setDwell d s else s) ∧
      steps.length - 1 ∈ picks ∧
      (∀ i ∈ picks, (∃ s, steps[i]? = some s ∧ s.direction = last.direction) ∨
        (steps.countP fun s => s.direction = last.direction) < 2) ∧
      (assignDwells steps (some d)).countP (·.dwell.isSome) ≤ stabilityMaxPoints := by
  obtain ⟨hmem, hleg, hlen⟩ := dwellPicks_spec (getLast?_finalLeg hlast)
  have hdef : assignDwells steps (some d) =
      (dwellPicks (finalLeg steps last.direction)).foldl (fun steps i => steps.modify i (setDwell d)) steps := by
    simp only [assignDwells, hlast]
  refine ⟨_, fun j => by rw [hdef, getElem?_setDwells], hmem, fun i hi => mem_finalLeg (hleg i hi), ?_⟩
  have hzero : steps.countP (·.dwell.isSome) = 0 := List.countP_eq_zero.mpr fun s hs => by simp [hplain s hs]
  have := countP_foldl_modify_le (·.dwell.isSome) (setDwell d) (dwellPicks (finalLeg steps last.direction)) steps
  rw [hdef]
  omega

theorem map_assignDwells {β : Type} {f : SweepStep → β} (hf : ∀ d s, f (setDwell d s) = f s) (steps : List SweepStep)
    (dwell : Option Nat) : (assignDwells steps dwell).map f = steps.map f := by
  unfold assignDwells
  split
  · refine List.ext_getElem? fun j => ?_
    rw [List.getElem?_map, getElem?_setDwells, List.getElem?_map, Option.map_map]
    congr 1
    funext s
    dsimp only [Function.comp]
    split_ifs
    · exact hf _ s
    · rfl
  · rfl

theorem length_assignDwells (steps : List SweepStep) (dwell : Option Nat) :
    (assignDwells steps dwell).length = steps.length := by
  rw [← List.length_map (·.pct), map_assignDwells (fun _ _ => rfl), List.length_map]

theorem assignDwells_mem {s : SweepStep} (hlast : steps.getLast? = some last) (hplain : ∀ s ∈ steps, s.dwell = none)
    (hs : s ∈ assignDwells steps (some d)) : (s.dwell = none ∨ s.dwell = some d) ∧
      (s.dwell ≠ none → s.direction = last.direction ∨ (steps.countP fun s => s.direction = last.direction) < 2) := by
  obtain ⟨picks, hget, -, hdir, -⟩ := assignDwells_spec (d := d) hlast hplain
  obtain ⟨j, hj⟩ := List.mem_iff_getElem?.mp hs
  rw [hget] at hj
  obtain ⟨s', hs', hj⟩ := Option.map_eq_some_iff.mp hj
  split_ifs at hj with hpick
  · subst hj
    refine ⟨.inr rfl, fun _ => ?_⟩
    rcases hdir j hpick with ⟨s'', hs'', hdir⟩ | hfew
    · obtain rfl : s' = s'' := Option.some.inj (hs'.symm.trans hs'')
      exact .inl hdir
    · exact .inr hfew
  · subst hj
    have hnone := hplain s' (List.mem_of_getElem? hs')
    exact ⟨.inl hnone, fun h => absurd hnone h⟩

theorem assignDwells_last (hlast : steps.getLast? = some last) (hplain : ∀ s ∈ steps, s.dwell = none) :
    (assignDwells steps (some d)).getLast? = some (setDwell d last) := by
  obtain ⟨picks, hget, hpick, -⟩ := assignDwells_spec (d := d) hlast hplain
  rw [List.getLast?_eq_getElem?, length_assignDwells, hget, ← List.getLast?_eq_getElem?, hlast,
    Option.map_some, if_pos hpick]

theorem countP_direction_assignDwells (steps : List SweepStep) (dwell : Option Nat) (dir : Direction) :
    (assignDwells steps dwell).countP (fun s => s.direction = dir) = steps.countP fun s => s.direction = dir := by
  have h := congrArg (List.countP (fun dir' => dir' = dir)) (map_assignDwells (f := (·.direction)) (fun _ _ => rfl) steps dwell)
  rwa [List.countP_map, List.countP_map] at h

/-- At most so many steps carry the dwell, the last among them, all on its leg unless it is alone there. -/
theorem assignDwells_dwells (dwell : Option Nat) (hlast : steps.getLast? = some last) (hplain : ∀ s ∈ steps, s.dwell = none) :
    (assignDwells steps dwell).countP (·.dwell.isSome) ≤ stabilityMaxPoints ∧
      (∀ s ∈ assignDwells steps dwell, s.dwell = none ∨ s.dwell = dwell) ∧
      ∃ last', (assignDwells steps dwell).getLast? = some last' ∧ last'.dwell = dwell ∧
        ((∀ s ∈ assignDwells steps dwell, s.dwell ≠ none → s.direction = last'.direction) ∨
          ((assignDwells steps dwell).countP fun s => s.direction = last'.direction) = 1) := by
  cases dwell with
  | none =>
    have hzero : steps.countP (·.dwell.isSome) = 0 := List.countP_eq_zero.mpr fun s hs => by simp [hplain s hs]
    refine ⟨hzero.trans_le (Nat.zero_le _), fun s hs => .inl (hplain s hs), last, hlast, ?_, .inl fun s hs h => ?_⟩
    · exact hplain last (List.mem_of_getLast? hlast)
    · exact absurd (hplain s hs) h
  | some d =>
    obtain ⟨-, -, -, -, hcount⟩ := assignDwells_spec (d := d) hlast hplain
    refine ⟨hcount, fun s hs => (assignDwells_mem hlast hplain hs).1, _, assignDwells_last hlast hplain, rfl, ?_⟩
    by_cases hfew : (steps.countP fun s => s.direction = last.direction) < 2
    · have hone : 0 < steps.countP fun s => s.direction = last.direction :=
        List.countP_pos_iff.mpr ⟨last, List.mem_of_getLast? hlast, decide_eq_true rfl⟩
      have hsame := countP_direction_assignDwells steps (some d) last.direction
      exact .inr (hsame.trans (by omega))
    · exact .inl fun s hs hd => ((assignDwells_mem hlast hplain hs).2 hd).resolve_right hfew

end Dwells

/-! ## The walk -/

section Walk

variable {base points : List Nat} {direction : Direction} {bidirectional : Bool}

@[simp] theorem map_pct_push (base : List Nat) : (base.map (push direction)).map (·.pct) = base := by
  simp [push, Function.comp_def]

@[simp] theorem map_pct_firstLeg (base : List Nat) : (firstLeg direction base).map (·.pct) = base := by
  cases base with
  | nil => rfl
  | cons pct rest => simp [firstLeg, push, Function.comp_def]

@[simp] theorem length_firstLeg (base : List Nat) : (firstLeg direction base).length = base.length := by
  rw [← List.length_map (·.pct), map_pct_firstLeg]

theorem map_pct_walkOf (points : List Nat) (bidirectional : Bool) : (walkOf points bidirectional).map (·.pct) =
    if bidirectional then (baseOf points true).reverse ++ (baseOf points true).drop 1 else points := by
  cases bidirectional with
  | false => exact map_pct_firstLeg points
  | true =>
    show ((firstLeg .falling (baseOf points true).reverse) ++ ((baseOf points true).drop 1).map (push .rising)).map (·.pct) = _
    rw [List.map_append, map_pct_firstLeg, map_pct_push, if_pos rfl]

theorem firstLeg_ramp (hne : base ≠ []) (hdir : direction ≠ .ramp) : ∃ first rest, firstLeg direction base = first :: rest ∧
    first.direction = .ramp ∧ ∀ s ∈ rest, s.direction ≠ .ramp := by
  obtain ⟨pct, rest, rfl⟩ := List.exists_cons_of_ne_nil hne
  refine ⟨_, _, rfl, rfl, fun s hs => ?_⟩
  obtain ⟨p, -, rfl⟩ := List.mem_map.mp hs
  exact hdir

theorem baseOf_ne_nil (hsorted : points.Pairwise (· < ·)) (hne : points ≠ []) : baseOf points bidirectional ≠ [] := by
  cases bidirectional with
  | false => exact hne
  | true =>
    have hhead : (baseOf points true).head? = points.head? := head?_thinTo hsorted (by decide)
    rintro h
    rw [h] at hhead
    exact hne (List.head?_eq_none_iff.mp hhead.symm)

theorem walkOf_ramp (bidirectional : Bool) (hsorted : points.Pairwise (· < ·)) (hne : points ≠ []) : ∃ first rest,
    walkOf points bidirectional = first :: rest ∧ first.direction = .ramp ∧ ∀ s ∈ rest, s.direction ≠ .ramp := by
  have hbase : baseOf points bidirectional ≠ [] := baseOf_ne_nil hsorted hne
  cases bidirectional with
  | false => exact firstLeg_ramp hbase nofun
  | true =>
    obtain ⟨first, rest, hleg, hramp, hrest⟩ :=
      firstLeg_ramp (fun h => hbase (List.reverse_eq_nil_iff.mp h)) (show Direction.falling ≠ .ramp by decide)
    refine ⟨first, rest ++ ((baseOf points true).drop 1).map (push .rising), ?_, hramp, fun s hs => ?_⟩
    · show firstLeg .falling (baseOf points true).reverse ++ _ = _
      rw [hleg]
      rfl
    · rcases List.mem_append.mp hs with hs | hs
      · exact hrest s hs
      · obtain ⟨p, -, rfl⟩ := List.mem_map.mp hs
        exact nofun

/-- Half the cap down, and up again without the turn. -/
theorem length_walkOf_le (hsorted : points.Pairwise (· < ·)) (hlen : points.length ≤ characterizationMaxPoints) :
    (walkOf points bidirectional).length ≤ characterizationMaxPoints := by
  rw [← List.length_map (·.pct), map_pct_walkOf]
  cases bidirectional with
  | false => exact hlen
  | true =>
    have hbase : (baseOf points true).length ≤ characterizationMaxUniqueBidirectional :=
      length_thinTo_le hsorted (by decide)
    have hcap : 2 * characterizationMaxUniqueBidirectional - 1 ≤ characterizationMaxPoints := by decide
    rw [if_pos rfl, List.length_append, List.length_reverse, List.length_drop]
    omega

theorem dwell_walkOf : ∀ s ∈ walkOf points bidirectional, s.dwell = none := by
  have hleg (direction : Direction) (base : List Nat) : ∀ s ∈ firstLeg direction base, s.dwell = none := by
    cases base with
    | nil => nofun
    | cons pct rest =>
      intro s hs
      rcases List.mem_cons.mp hs with rfl | hs
      · rfl
      · obtain ⟨p, -, rfl⟩ := List.mem_map.mp hs
        rfl
  intro s hs
  cases bidirectional with
  | false => exact hleg _ _ s hs
  | true =>
    rcases List.mem_append.mp hs with hs | hs
    · exact hleg _ _ s hs
    · obtain ⟨p, -, rfl⟩ := List.mem_map.mp hs
      rfl

/-- Down and back, every duty but the turn is passed twice. -/
theorem count_down_up (hnodup : base.Nodup) {d : Nat} (hd : d ∈ base) (hturn : base.head? ≠ some d) :
    (base.reverse ++ base.drop 1).count d = 2 := by
  obtain ⟨lo, rest, rfl⟩ := List.exists_cons_of_ne_nil (List.ne_nil_of_mem hd)
  have hrest : d ∈ rest := by
    rcases List.mem_cons.mp hd with rfl | hd
    · exact absurd rfl hturn
    · exact hd
  rw [List.count_append, List.count_reverse, List.count_eq_one_of_mem hnodup hd, List.drop_one, List.tail_cons,
    List.count_eq_one_of_mem (List.nodup_cons.mp hnodup).2 hrest]

theorem getLast?_down_up (hne : base ≠ []) : (base.reverse ++ base.drop 1).getLast? = base.getLast? := by
  obtain ⟨lo, rest, rfl⟩ := List.exists_cons_of_ne_nil hne
  cases rest with
  | nil => rfl
  | cons p rest => simp [List.getLast?_append, List.getLast?_cons]

end Walk

/-! ## The plan -/

/-- What the points of a request are. -/
structure Resolved (requested : Option (List Nat)) (floor : Nat) (points : List Nat) : Prop where
  ne_nil : points ≠ []
  ascending : points.Pairwise (· < ·)
  asked : ∀ p ∈ points, p ∈ clamped requested floor
  bounded : ∀ p ∈ points, max characterizationMinPct floor ≤ p ∧ p ≤ 100
  capped : points.length ≤ characterizationMaxPoints
  lowest : ∃ lo, points.head? = some lo ∧ ∀ d ∈ clamped requested floor, lo ≤ d
  highest : ∃ hi, points.getLast? = some hi ∧ ∀ d ∈ clamped requested floor, d ≤ hi
  all_that_fit : (clamped requested floor).dedup.length ≤ characterizationMaxPoints → ∀ d ∈ clamped requested floor, d ∈ points

/-- What a walk over those points is. -/
structure Walked (points : List Nat) (bidirectional : Bool) (dwell : Option Nat) (steps : List SweepStep) : Prop where
  untruncated : steps.map (fun s => (s.pct, s.direction)) = (walkOf points bidirectional).map fun s => (s.pct, s.direction)
  ramp_first : ∃ first rest, steps = first :: rest ∧ first.direction = .ramp ∧ ∀ s ∈ rest, s.direction ≠ .ramp
  one_way : bidirectional = false → steps.map (·.pct) = points
  both_ways : bidirectional = true → ∃ base, base <+ points ∧ base.head? = points.head? ∧
    base.getLast? = points.getLast? ∧ steps.map (·.pct) = base.reverse ++ base.drop 1 ∧
    (steps.map (·.pct)).getLast? = points.getLast? ∧
    ∀ d ∈ base, base.head? ≠ some d → (steps.map (·.pct)).count d = 2
  dwells : steps.countP (·.dwell.isSome) ≤ stabilityMaxPoints
  dwell_asked : ∀ s ∈ steps, s.dwell = none ∨ s.dwell = dwell
  dwell_last : ∃ last, steps.getLast? = some last ∧ last.dwell = dwell ∧
    ((∀ s ∈ steps, s.dwell ≠ none → s.direction = last.direction) ∨ (steps.countP fun s => s.direction = last.direction) = 1)

theorem resolvePoints_resolved (requested : Option (List Nat)) {floor : Nat} (hfloor : floor ≤ 100) :
    Resolved requested floor (resolvePoints requested floor) := by
  have hsorted : (wanted requested floor).Pairwise (· < ·) := wanted_pairwise
  have hsub : resolvePoints requested floor <+ wanted requested floor := thinTo_sublist hsorted (by decide)
  have hhead : (resolvePoints requested floor).head? = (wanted requested floor).head? := head?_thinTo hsorted (by decide)
  have hlast : (resolvePoints requested floor).getLast? = (wanted requested floor).getLast? :=
    getLast?_thinTo hsorted (by decide)
  refine
    { ne_nil := fun h => ?_
      ascending := hsorted.sublist hsub
      asked := fun p hp => mem_wanted.mp (hsub.subset hp)
      bounded := fun p hp => mem_clamped hfloor (mem_wanted.mp (hsub.subset hp))
      capped := length_thinTo_le hsorted (by decide)
      lowest := ?_
      highest := ?_
      all_that_fit := fun hfit d hd => ?_ }
  · rw [h] at hhead
    exact wanted_ne_nil (List.head?_eq_none_iff.mp hhead.symm)
  · obtain ⟨lo, rest, hcons⟩ := List.exists_cons_of_ne_nil (l := wanted requested floor) wanted_ne_nil
    refine ⟨lo, by rw [hhead, hcons]; rfl, fun d hd => ?_⟩
    rw [← mem_wanted, hcons] at hd
    rw [hcons] at hsorted
    rcases List.mem_cons.mp hd with rfl | hd
    · exact le_rfl
    · exact (List.rel_of_pairwise_cons hsorted hd).le
  · obtain ⟨front, hi, hcons⟩ := (List.eq_nil_or_concat' (wanted requested floor)).resolve_left wanted_ne_nil
    refine ⟨hi, by rw [hlast, hcons]; simp, fun d hd => ?_⟩
    rw [← mem_wanted, hcons] at hd
    rw [hcons] at hsorted
    rcases List.mem_append.mp hd with hd | hd
    · exact ((List.pairwise_append.mp hsorted).2.2 d hd hi (List.mem_singleton_self hi)).le
    · exact (List.mem_singleton.mp hd).le
  · have hperm : (wanted requested floor).Perm (clamped requested floor).dedup :=
      (List.perm_ext_iff_of_nodup (hsorted.imp ne_of_lt) (List.nodup_dedup _)).mpr fun d => by
        rw [mem_wanted, List.mem_dedup]
    have hall : resolvePoints requested floor = wanted requested floor := by
      rw [resolvePoints, thinTo_eq hsorted (by decide), if_pos (hperm.length_eq.trans_le hfit)]
    rw [hall]
    exact mem_wanted.mpr hd

theorem resolveSweepPlan_walked {points : List Nat} (hne : points ≠ []) (hsorted : points.Pairwise (· < ·))
    (hlen : points.length ≤ characterizationMaxPoints) (bidirectional : Bool) (dwell : Option Nat) :
    Walked points bidirectional dwell (resolveSweepPlan points bidirectional dwell) := by
  have hplan : resolveSweepPlan points bidirectional dwell = assignDwells (walkOf points bidirectional) dwell := by
    rw [resolveSweepPlan, if_neg hne, List.take_of_length_le (length_walkOf_le hsorted hlen)]
  rw [hplan]
  have hpct : (assignDwells (walkOf points bidirectional) dwell).map (·.pct) =
      if bidirectional then (baseOf points true).reverse ++ (baseOf points true).drop 1 else points :=
    (map_assignDwells (fun _ _ => rfl) _ dwell).trans (map_pct_walkOf points bidirectional)
  have hsame : (assignDwells (walkOf points bidirectional) dwell).map (·.direction) =
      (walkOf points bidirectional).map (·.direction) := map_assignDwells (fun _ _ => rfl) _ dwell
  obtain ⟨first, rest, hwalk, hramp, hrest⟩ := walkOf_ramp bidirectional hsorted hne
  obtain ⟨last, hlast⟩ : ∃ last, (walkOf points bidirectional).getLast? = some last := by
    rw [hwalk]
    exact ⟨_, List.getLast?_cons⟩
  obtain ⟨hcount, hasked, hend⟩ := assignDwells_dwells dwell hlast dwell_walkOf
  refine
    { untruncated := map_assignDwells (fun _ _ => rfl) _ dwell
      ramp_first := ?_
      one_way := fun h => by rw [hpct, h]; rfl
      both_ways := fun h => ?_
      dwells := hcount
      dwell_asked := hasked
      dwell_last := hend }
  · rw [hwalk] at hsame ⊢
    obtain ⟨first', rest', hcons, hfirst', hrest'⟩ := List.map_eq_cons_iff.mp hsame
    refine ⟨first', rest', hcons, hfirst'.trans hramp, fun s hs => ?_⟩
    obtain ⟨s', hs', heq⟩ := List.mem_map.mp (hrest' ▸ List.mem_map_of_mem hs)
    exact fun h => hrest s' hs' (heq.trans h)
  · subst h
    rw [hpct, if_pos rfl]
    have hsub : baseOf points true <+ points := thinTo_sublist hsorted (by decide)
    have hbase : baseOf points true ≠ [] := baseOf_ne_nil hsorted hne
    have htop : (baseOf points true).getLast? = points.getLast? := getLast?_thinTo hsorted (by decide)
    refine ⟨_, hsub, head?_thinTo hsorted (by decide), htop, rfl, (getLast?_down_up hbase).trans htop, fun d hd hturn => ?_⟩
    exact count_down_up ((hsorted.sublist hsub).imp ne_of_lt) hd hturn

/-- What a request becomes: duties within the header's bounds, ascending, with both ends, and the walk over them. -/
theorem sweep_plan (requested : Option (List Nat)) {floor : Nat} (hfloor : floor ≤ 100) (bidirectional : Bool)
    (dwell : Option Nat) :
    Resolved requested floor (resolvePoints requested floor) ∧ Walked (resolvePoints requested floor) bidirectional dwell
      (resolveSweepPlan (resolvePoints requested floor) bidirectional dwell) :=
  have h := resolvePoints_resolved requested hfloor
  ⟨h, resolveSweepPlan_walked h.ne_nil h.ascending h.capped bidirectional dwell⟩

theorem sweep_plan_pump : Resolved (some [10, 90, 50]) 30 (resolvePoints (some [10, 90, 50]) 30) ∧
    Walked (resolvePoints (some [10, 90, 50]) 30) true (some 5)
      (resolveSweepPlan (resolvePoints (some [10, 90, 50]) 30) true (some 5)) :=
  sweep_plan (some [10, 90, 50]) (by decide) true (some 5)

/-- A pump's floor lifts the lowest duty, and the rise carries the dwells. -/
example : (resolveSweepPlan (resolvePoints (some [10, 90, 50]) 30) true (some 5)).map (fun s => (s.pct, s.dwell)) =
    [(90, none), (50, none), (30, none), (50, some 5), (90, some 5)] := by
  decide

end ControlOfc.Diagnostics.Sweep
