import ControlOfc.Lib.Shell
import ControlOfc.Lib.KMap
import Mathlib.Data.List.Sort
/-! # Which PMFW cards the daemon drove (hwmon/gpu_fan.rs:783-927)

The list that the clean stop, the panic hook and, through its record on disk, `ExecStopPost` read. It is held
under a lock of its own, so each operation is one step; a card is named under its fan id.

* `PmfwState.Faithful.persist`, `.noteTake`, `.noteHandedBack` — a record that was written names the list.
* `record_lines` — the script reads back the lines that were written.
-/
namespace ControlOfc.Gpu

/-- The two files of a card, as the list keeps them. -/
structure CardPaths where
  fanCurve : String
  zeroRpm : Option String
  deriving DecidableEq, Repr

/-- `PmfwState` (gpu_fan.rs:803), the record on disk, and what became of the last attempt to write it. -/
structure PmfwState where
  /-- A `BTreeMap`: ascending ids. -/
  taken : List (String × CardPaths)
  /-- `record_path` is set. -/
  recordKept : Bool
  recordErrorLogged : Bool
  record : Option (List Char)
  lastRecord : Option Bool
  deriving DecidableEq, Repr

/-- `PMFW_RECORD_HEADER` (gpu_fan.rs:786). -/
def pmfwRecordHeader : List Char := '#' :: " control-ofc PMFW GPU hand-back record v1".toList

/-- `pmfw_record_line` (gpu_fan.rs:889). -/
def pmfwRecordLine (p : CardPaths) : Option (List Char) :=
  let line := p.fanCurve.toList ++ '\t' :: (p.zeroRpm.getD "-").toList
  if line.count '\t' = 1 ∧ '\n' ∉ line then some line else none

/-- The body `persist_pmfw` writes. -/
def pmfwRecord (taken : List (String × CardPaths)) : List Char :=
  pmfwRecordHeader ++ '\n' :: (taken.filterMap fun x => pmfwRecordLine x.2).flatMap (· ++ ['\n'])

namespace PmfwState

/-- `persist_pmfw` (gpu_fan.rs:895), whose `write_replacing` answers with `ok`; one that fails leaves the old
record or the new one. -/
def persist (s : PmfwState) (ok landed : Bool) : PmfwState :=
  if s.recordKept then
    { s with
      recordErrorLogged := !ok
      record := if ok || landed then some (pmfwRecord s.taken) else s.record
      lastRecord := some ok }
  else s

/-- `set_record_path` (gpu_fan.rs:812). -/
def setRecordPath (s : PmfwState) (ok landed : Bool) : PmfwState := { s with recordKept := true }.persist ok landed

def find? (s : PmfwState) (fanId : String) : Option CardPaths := (s.taken.find? (·.1 = fanId)).map Prod.snd

/-- `is_taken` (gpu_fan.rs:864). -/
def isTaken (s : PmfwState) (fanId : String) : Bool := (s.find? fanId).isSome

/-- `note_take` (gpu_fan.rs:829). -/
def noteTake (s : PmfwState) (fanId : String) (paths : CardPaths) (ok landed : Bool) : PmfwState :=
  if s.isTaken fanId then if s.recordErrorLogged then s.persist ok landed else s
  else
    { s with taken := s.taken.orderedInsert (fun a b => a.1 ≤ b.1) (fanId, paths) }.persist ok landed

/-- `note_handed_back` (gpu_fan.rs:855). -/
def noteHandedBack (s : PmfwState) (fanId : String) (ok landed : Bool) : PmfwState :=
  if s.isTaken fanId then { s with taken := s.taken.filter (·.1 ≠ fanId) }.persist ok landed else s

/-! ## What is on the list -/

@[simp] theorem persist_taken (s : PmfwState) (ok landed : Bool) : (s.persist ok landed).taken = s.taken := by
  unfold persist
  split <;> rfl

theorem find?_eq_some_of_mem {s : PmfwState} {x : String × CardPaths} (hx : x ∈ s.taken) :
    ∃ p, s.find? x.1 = some p := by
  have h : (s.taken.find? (·.1 = x.1)).isSome := by
    rw [List.find?_isSome]
    exact ⟨x, hx, by simp⟩
  obtain ⟨y, hy⟩ := Option.isSome_iff_exists.mp h
  exact ⟨y.2, by simp [find?, hy]⟩

theorem mem_of_find? {s : PmfwState} {fanId : String} {p : CardPaths} (h : s.find? fanId = some p) :
    (fanId, p) ∈ s.taken := by
  obtain ⟨⟨i, q⟩, hf, rfl⟩ := Option.map_eq_some_iff.mp h
  have hi : i = fanId := by simpa using List.find?_some hf
  subst hi
  exact List.mem_of_find?_eq_some hf

theorem isTaken_iff {s : PmfwState} {fanId : String} : s.isTaken fanId = true ↔ ∃ p, (fanId, p) ∈ s.taken := by
  constructor
  · intro h
    obtain ⟨p, hp⟩ := Option.isSome_iff_exists.mp h
    exact ⟨p, mem_of_find? hp⟩
  · rintro ⟨p, hp⟩
    obtain ⟨q, hq⟩ := find?_eq_some_of_mem hp
    exact Option.isSome_iff_exists.mpr ⟨q, hq⟩

theorem mem_noteTake {s : PmfwState} {fanId : String} {paths : CardPaths} {ok landed : Bool} {x : String × CardPaths} :
    x ∈ (s.noteTake fanId paths ok landed).taken ↔
      x ∈ s.taken ∨ (s.isTaken fanId = false ∧ x = (fanId, paths)) := by
  unfold noteTake
  by_cases ht : s.isTaken fanId = true
  · rw [if_pos ht]
    split <;> simp [ht]
  · simp [ht, List.mem_orderedInsert, or_comm]

theorem isTaken_noteTake {s : PmfwState} {fanId : String} {paths : CardPaths} {ok landed : Bool} (id : String) :
    (s.noteTake fanId paths ok landed).isTaken id = (s.isTaken id || id == fanId) := by
  rw [Bool.eq_iff_iff, Bool.or_eq_true, beq_iff_eq]
  simp only [isTaken_iff, mem_noteTake]
  constructor
  · rintro ⟨p, hp | ⟨-, hp⟩⟩
    · exact .inl ⟨p, hp⟩
    · exact .inr (Prod.mk.inj hp).1
  · rintro (⟨p, hp⟩ | rfl)
    · exact ⟨p, .inl hp⟩
    · by_cases ht : s.isTaken id = true
      · obtain ⟨p, hp⟩ := isTaken_iff.mp ht
        exact ⟨p, .inl hp⟩
      · exact ⟨paths, .inr ⟨by simpa using ht, rfl⟩⟩

theorem mem_noteHandedBack {s : PmfwState} {fanId : String} {ok landed : Bool} {x : String × CardPaths} :
    x ∈ (s.noteHandedBack fanId ok landed).taken ↔ x ∈ s.taken ∧ x.1 ≠ fanId := by
  unfold noteHandedBack
  split
  · simp
  · rename_i ht
    constructor
    · intro hx
      exact ⟨hx, fun he => ht (isTaken_iff.mpr ⟨x.2, he ▸ hx⟩)⟩
    · exact And.left

theorem isTaken_noteHandedBack {s : PmfwState} {fanId : String} {ok landed : Bool} (id : String) :
    (s.noteHandedBack fanId ok landed).isTaken id = (s.isTaken id && id != fanId) := by
  rw [Bool.eq_iff_iff, Bool.and_eq_true, bne_iff_ne]
  simp only [isTaken_iff, mem_noteHandedBack]
  constructor
  · rintro ⟨p, hp, hne⟩
    exact ⟨⟨p, hp⟩, hne⟩
  · rintro ⟨⟨p, hp⟩, hne⟩
    exact ⟨p, hp, hne⟩

/-! ## The record follows the list -/

/-- The last attempt to write the record is the one `record_error_logged` is about, and one that succeeded
wrote what the list holds. -/
structure Faithful (s : PmfwState) : Prop where
  kept : s.recordKept = true → s.lastRecord = some !s.recordErrorLogged
  unkept : s.recordKept = false → s.lastRecord = none
  names : s.lastRecord = some true → s.record = some (pmfwRecord s.taken)

theorem Faithful.persist {s : PmfwState} {taken : List (String × CardPaths)} (h : s.Faithful) (ok landed : Bool) :
    ({ s with taken := taken }.persist ok landed).Faithful := by
  unfold PmfwState.persist
  by_cases hk : s.recordKept = true
  · rw [if_pos hk]
    refine ⟨fun _ => by simp, fun h => absurd hk (by simpa using h), fun ho => ?_⟩
    have ho : ok = true := Option.some.inj ho
    simp [ho]
  · rw [if_neg hk]
    have hn := h.unkept (by simpa using hk)
    exact ⟨fun h => absurd h hk, fun _ => hn, fun ho => absurd (hn.symm.trans ho) (by simp)⟩

theorem Faithful.noteTake {s : PmfwState} (h : s.Faithful) (fanId : String) (paths : CardPaths) (ok landed : Bool) :
    (s.noteTake fanId paths ok landed).Faithful := by
  unfold PmfwState.noteTake
  split
  · split
    · exact h.persist ok landed
    · exact h
  · exact h.persist ok landed

theorem Faithful.noteHandedBack {s : PmfwState} (h : s.Faithful) (fanId : String) (ok landed : Bool) :
    (s.noteHandedBack fanId ok landed).Faithful := by
  unfold PmfwState.noteHandedBack
  split
  · exact h.persist ok landed
  · exact h

theorem Faithful.setRecordPath {s : PmfwState} (ok landed : Bool) : (s.setRecordPath ok landed).Faithful := by
  unfold PmfwState.setRecordPath PmfwState.persist
  rw [if_pos rfl]
  refine ⟨fun _ => by simp, fun h => Bool.noConfusion h, fun ho => ?_⟩
  have ho : ok = true := Option.some.inj ho
  simp [ho]

end PmfwState

/-! ## What the script reads back -/

/-- The lines of a record that was written: its header, and one for each card a line can name. -/
theorem record_lines (taken : List (String × CardPaths)) :
    Shell.lines (pmfwRecord taken) = pmfwRecordHeader :: taken.filterMap fun x => pmfwRecordLine x.2 := by
  have hheader : '\n' ∉ pmfwRecordHeader := by decide
  have hrows : ∀ l ∈ taken.filterMap (fun x => pmfwRecordLine x.2), '\n' ∉ l := by
    intro l hl
    obtain ⟨x, -, hx⟩ := List.mem_filterMap.mp hl
    unfold pmfwRecordLine at hx
    dsimp only at hx
    split at hx
    · rename_i hc
      exact Option.some.inj hx ▸ hc.2
    · cases hx
  unfold pmfwRecord
  rw [Shell.lines_line hheader]
  congr 1
  simpa using Shell.lines_table (fun l : List Char => l) _ hrows

end ControlOfc.Gpu
