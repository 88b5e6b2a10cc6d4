import Mathlib.Data.List.Sort
/-! # Settling and refresh of a tach (api/stats.rs)

Both are judged on register updates, the readings at which the value changed. The source compares an integer
with `med * 5.0 / 100.0` and `med * 2.5 / 100.0` in `f64`; rounding cannot carry such a quotient across an
integer, so the comparisons are the exact ones.

| here | there |
| --- | --- |
| `settlingMs`, `settledOnUpdates` | stats.rs:283-338 |
| `isRamp`, `registerUpdates` | stats.rs:354-396 |
| `updateIntervalMs` | stats.rs:406-435 |
-/
namespace ControlOfc.Diagnostics

structure RpmSample where
  atMs : Nat
  rpm : Option Nat
  deriving DecidableEq, Repr

namespace Stats

/-- `SETTLING_HOLD_SAMPLES`. -/
def settlingHoldSamples : Nat := 4

def medianOfSorted (sorted : List Nat) : Nat :=
  let n := sorted.length
  if n % 2 = 1 then sorted.getD (n / 2) 0 else (sorted.getD (n / 2 - 1) 0 + sorted.getD (n / 2) 0) / 2

/-- The readings that differ from the one before; the first from `reference`, or from nothing without one. -/
def registerUpdates (usable : List (Nat × Nat)) (reference : Option Nat) : List (Nat × Nat) :=
  match reference, usable with
  | none, [] => []
  | none, first :: rest => go first.2 rest
  | some r, usable => go r usable
where
  go (prev : Nat) : List (Nat × Nat) → List (Nat × Nat)
    | [] => []
    | (at_, v) :: rest => if v ≠ prev then (at_, v) :: go v rest else go prev rest

/-- Does the window move one way throughout, by more than 2.5 % of its median end to end? -/
def isRamp (window : List (Nat × Nat)) (median : Nat) : Bool :=
  let values := window.map (·.2)
  let steps := values.zip values.tail
  let oneWay := steps.all (fun (a, b) => a < b) || steps.all (fun (a, b) => b < a)
  match window.head?, window.getLast? with
  | some first, some last => oneWay && median < (max first.2 last.2 - min first.2 last.2) * 40
  | _, _ => false

def settledWindow (window : List (Nat × Nat)) : Bool :=
  let med := medianOfSorted ((window.map (·.2)).mergeSort (· ≤ ·))
  window.all (fun (_, v) => (max v med - min v med) * 20 ≤ med) && !isRamp window med

def usableOf (samples : List RpmSample) : List (Nat × Nat) := samples.filterMap fun s => s.rpm.map fun v => (s.atMs, v)

def settledOnUpdates (samples : List RpmSample) (reference : Option Nat) : Option Nat :=
  let updates := registerUpdates (usableOf samples) reference
  if updates.length < settlingHoldSamples then none
  else
    let windows := (List.range (updates.length - settlingHoldSamples + 1)).map fun start =>
      (updates.drop start).take settlingHoldSamples
    (windows.find? settledWindow).bind fun window => window.head?.map (·.1)

def settlingMs (samples : List RpmSample) (reference : Option Nat) : Option Nat :=
  let usable := usableOf samples
  if usable.length < settlingHoldSamples then none
  else
    match usable with
    | first :: rest => if rest.all (·.2 = first.2) then some first.1 else settledOnUpdates samples reference
    | [] => none

/-- The gaps between consecutive changes of value, from the first change on. -/
def changeGaps (lastValue prevChangeAt : Option Nat) : List (Nat × Option Nat) → List Nat
  | [] => []
  | (_, none) :: rest => changeGaps lastValue prevChangeAt rest
  | (atMs, some v) :: rest =>
    match lastValue with
    | none => changeGaps (some v) prevChangeAt rest
    | some prev =>
      if prev ≠ v then
        let gap := prevChangeAt.map fun prevMs => atMs - prevMs
        (gap.filter (0 < ·)).toList ++ changeGaps (some v) (some atMs) rest
      else changeGaps lastValue prevChangeAt rest

def updateIntervalMs (samples : List (Nat × Option Nat)) : Option Nat :=
  let gaps := (changeGaps none none samples).mergeSort (· ≤ ·)
  gaps[gaps.length / 2]?

end Stats

end ControlOfc.Diagnostics
