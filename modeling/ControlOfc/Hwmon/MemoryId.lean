import ControlOfc.Lib.Text
/-! # Memory-module sensor ids (hwmon/memory_id.rs:30-163)

A module's id is bus-numbered in its legacy form and bus-independent in its stable one. `resolve`
follows a saved id to the single live counterpart in the other form.
-/
namespace ControlOfc.Hwmon.MemoryId
open Text

/-- `MEMORY_MODULE_CHIPS` (hwmon/classify.rs:209). -/
def memoryModuleChips : List (List Char) := ["spd5118".toList, "jc42".toList]

/-- `MemorySensorId` (memory_id.rs:41). -/
structure MemorySensorId where
  chip : List Char
  legacy : Bool
  controller : List Char
  segments : List (List Char)
  address : Nat
  label : List Char
  deriving DecidableEq, Repr

/-- `is_addr4` (memory_id.rs:54). -/
def isAddr4 (s : List Char) : Bool :=
  s.length == 4 && s.all fun c => c.isDigit || ('a' ≤ c && c ≤ 'f')

/-- `is_segment` (memory_id.rs:65). -/
def isSegment (s : List Char) : Bool :=
  (((stripPrefix "ch".toList s).or (stripPrefix "p".toList s)).map isDigits).getD false

/-- The loop that peels `-p<N>` and `-ch<K>` tokens off the controller, innermost first
(memory_id.rs:98-107). It stops once it has peeled as often as there are characters. -/
def peelSegments : Nat → List Char → List (List Char) → List Char × List (List Char)
  | 0, controller, segments => (controller, segments)
  | n + 1, controller, segments =>
    match rsplitOnce '-' controller with
    | some (before, last) =>
      if before.isEmpty || !isSegment last then (controller, segments)
      else peelSegments n before (segments ++ [last])
    | none => (controller, segments)

/-- `parse` (memory_id.rs:75). -/
def parse (id : List Char) : Option MemorySensorId := do
  let rest ← stripPrefix "hwmon:".toList id
  let (chip, rest) ← splitOnce [':'] rest
  if !memoryModuleChips.contains chip then none
  let (device, label) ← rsplitOnce ':' rest
  if device.isEmpty || label.isEmpty then none
  let (head, addr) ← rsplitOnce '-' device
  if !isAddr4 addr || head.isEmpty then none
  let address := hexadecimal addr
  if isDigits head then
    return ⟨chip, true, [], [], address, label⟩
  let (controller, segments) := peelSegments head.length head []
  return ⟨chip, false, controller, segments.reverse, address, label⟩

/-- Whether `id` names the same module as `wanted`, and if so whether in the other form. -/
def twinOf (wanted : Option MemorySensorId) (id : String) : Option Bool :=
  match wanted, parse id.toList with
  | some w, some p =>
    if p.chip = w.chip ∧ p.address = w.address ∧ p.label = w.label then some (p.legacy != w.legacy) else none
  | _, _ => none

/-- What `resolve` has found after part of the lists. -/
structure Found where
  seen : List String
  twins : Nat
  liveTwin : Option String
  deriving DecidableEq, Repr

/-- One id of the `live` list (memory_id.rs:144-155), which is not the saved one. -/
def Found.live (wanted : Option MemorySensorId) (f : Found) (id : String) : Found :=
  if f.seen.contains id then f
  else
    let f := { f with seen := id :: f.seen }
    match twinOf wanted id with
    | some otherForm => { f with twins := f.twins + 1, liveTwin := if otherForm then some id else none }
    | none => f

/-- One id of the `unavailable` list (memory_id.rs:156-160). -/
def Found.unavailable (wanted : Option MemorySensorId) (saved : String) (f : Found) (id : String) : Found :=
  if id = saved ∨ f.seen.contains id then f
  else
    let f := { f with seen := id :: f.seen }
    if (twinOf wanted id).isSome then { f with twins := f.twins + 1 } else f

/-- `resolve` (memory_id.rs:126). -/
def resolve (saved : String) (live unavailable : List String) : Option String :=
  let wanted := parse saved.toList
  if live.contains saved then some saved
  else
    let f := live.foldl (Found.live wanted) ⟨[], 0, none⟩
    let f := unavailable.foldl (Found.unavailable wanted saved) f
    if f.twins = 1 then f.liveTwin else none

end ControlOfc.Hwmon.MemoryId
