import ControlOfc.Hwmon.RestoreAuto
import Mathlib.Data.List.Basic
/-! # The legacy GPU hand-back record (hwmon/gpu_fan.rs:621-776)

One line for each pre-RDNA3 fan a verify has put in manual mode and not given back. Each call reads the
whole file, filters its lines and replaces the file.

* `gpuRecordLines_render`: a record of plain lines is read back line by line.
* `standing_recordLine`: a line is read back as the original it was written for.
-/
namespace ControlOfc.Gpu
open Hwmon (digits trim)

/-- `u8`. -/
abbrev U8 := Fin 256

/-- `str::lines`: without the `\r` of a `\r\n`, and with what stands after the last newline. -/
def strLines : List Char → List (List Char) := go []
where
  go (line : List Char) : List Char → List (List Char)
    | [] => if line = [] then [] else [line]
    | c :: cs =>
      if c = '\n' then (if line.getLast? = some '\r' then line.dropLast else line) :: go [] cs else go (line ++ [c]) cs

/-- `Path::join` with a file name. -/
def join (dir name : List Char) : List Char :=
  if dir = [] then name else if dir.getLast? = some '/' then dir ++ name else dir ++ '/' :: name

def pwm1Enable (hwmonPath : List Char) : List Char := join hwmonPath "pwm1_enable".toList
def pwm1 (hwmonPath : List Char) : List Char := join hwmonPath "pwm1".toList

/-! ## What a take gives back -/

/-- `AMDGPU_PWM_ENABLE_AUTO` (gpu_fan.rs:638). -/
def amdgpuPwmEnableAuto : U8 := 2

/-- `LegacyOriginal` (gpu_fan.rs:644). -/
inductive LegacyOriginal where
  | mode (n : U8)
  | manual (raw : U8)
  deriving DecidableEq, Repr

namespace LegacyOriginal

/-- `from_read` (gpu_fan.rs:657). -/
def fromRead (enable rawPwm : Option U8) : LegacyOriginal :=
  match enable, rawPwm with
  | some 1, some raw => .manual raw
  | some 1, none => .mode amdgpuPwmEnableAuto
  | none, _ => .mode amdgpuPwmEnableAuto
  | some n, _ => .mode n

/-- `record_fields` (gpu_fan.rs:665). -/
def recordFields : LegacyOriginal → List Char × U8
  | .mode n => ("mode".toList, n)
  | .manual raw => ("manual".toList, raw)

/-- `from_record_fields` (gpu_fan.rs:672). -/
def fromRecordFields (kind value : List Char) : Option LegacyOriginal :=
  match Text.parseU8 (trim value) with
  | none => none
  | some n =>
    if kind = "mode".toList then some (.mode (Fin.ofNat 256 n))
    else if kind = "manual".toList then some (.manual (Fin.ofNat 256 n))
    else none

theorem fromRecordFields_recordFields (o : LegacyOriginal) :
    fromRecordFields o.recordFields.1 (digits o.recordFields.2) = some o := by
  have h : ∀ n : U8, Text.parseU8 (trim (digits n)) = some n.val := by decide +kernel
  cases o with
  | mode n =>
    show fromRecordFields "mode".toList (digits n) = _
    simp [fromRecordFields, h]
  | manual n =>
    show fromRecordFields "manual".toList (digits n) = _
    simp [fromRecordFields, h]

end LegacyOriginal

/-! ## The file -/

/-- `GPU_RECORD_HEADER` (gpu_fan.rs:633). -/
def gpuRecordHeader : List Char := "# control-ofc GPU hand-back record v1".toList

abbrev Line := List Char

/-- `gpu_record_lines` (gpu_fan.rs:746): of no file, none. -/
def gpuRecordLines (record : Option (List Char)) : List Line :=
  (strLines (record.getD [])).filter fun l => !l.isEmpty && decide (l.head? ≠ some '#')

/-- The line's first field is this fan's `pwm1_enable`. -/
def ofFan (enable : List Char) (l : Line) : Bool := (l.splitOn '\t').head? == some enable

/-- `other_gpu_lines` (gpu_fan.rs:756). -/
def otherGpuLines (record : Option (List Char)) (enable : List Char) : List Line :=
  (gpuRecordLines record).filter fun l => !ofFan enable l

/-- The body `write_gpu_record` writes (gpu_fan.rs:764). -/
def writeGpuRecord (lines : List Line) : List Char := gpuRecordHeader ++ '\n' :: lines.flatMap (· ++ ['\n'])

/-- What a line of this fan says of its original, if it can be read. -/
def standing (enable : List Char) (l : Line) : Option LegacyOriginal :=
  match l.splitOn '\t' with
  | path :: _pwm :: kind :: value :: _ => if path = enable then LegacyOriginal.fromRecordFields kind value else none
  | _ => none

/-- The line a take writes. -/
def recordLine (hwmonPath : List Char) (original : LegacyOriginal) : Line :=
  pwm1Enable hwmonPath ++ '\t' :: (pwm1 hwmonPath ++ '\t' :: (original.recordFields.1 ++ '\t' ::
    digits original.recordFields.2))

/-- `note_legacy_take` (gpu_fan.rs:693): the original that stands, and the record after it. -/
def noteLegacyTake (record : Option (List Char)) (hwmonPath : List Char) (original : LegacyOriginal) :
    LegacyOriginal × Option (List Char) :=
  match (gpuRecordLines record).findSome? (standing (pwm1Enable hwmonPath)) with
  | some standing => (standing, record)
  | none =>
    let line := recordLine hwmonPath original
    if line.count '\t' ≠ 3 ∨ '\n' ∈ line then (original, record)
    else if (gpuRecordLines record).length ≠ (otherGpuLines record (pwm1Enable hwmonPath)).length then
      (.mode amdgpuPwmEnableAuto, record)
    else (original, some (writeGpuRecord (otherGpuLines record (pwm1Enable hwmonPath) ++ [line])))

/-- `note_legacy_handed_back` (gpu_fan.rs:727): no line left is no file. -/
def noteLegacyHandedBack (record : Option (List Char)) (hwmonPath : List Char) : Option (List Char) :=
  let lines := otherGpuLines record (pwm1Enable hwmonPath)
  if lines.isEmpty then none else some (writeGpuRecord lines)

/-! ## Reading back what was written -/

/-- A line that survives being written and read. -/
structure PlainLine (l : Line) : Prop where
  nonempty : l ≠ []
  entry : l.head? ≠ some '#'
  newline : '\n' ∉ l
  ending : l.getLast? ≠ some '\r'

theorem go_plain {l : Line} (hn : '\n' ∉ l) (hr : l.getLast? ≠ some '\r') (hl : l ≠ []) (line rest : List Char) :
    strLines.go line (l ++ '\n' :: rest) = (line ++ l) :: strLines rest := by
  induction l generalizing line with
  | nil => exact absurd rfl hl
  | cons c l ih =>
    simp only [List.mem_cons, not_or] at hn
    have hc : c ≠ '\n' := Ne.symm hn.1
    rw [List.cons_append, strLines.go, if_neg hc]
    cases l with
    | nil =>
      have hlast : (line ++ [c]).getLast? ≠ some '\r' := by simpa using hr
      rw [List.nil_append, strLines.go, if_pos rfl, if_neg hlast]
      rfl
    | cons d l =>
      rw [ih hn.2 (by simpa using hr) (List.cons_ne_nil _ _), List.append_assoc, List.singleton_append]

theorem strLines_plain {ls : List Line} (h : ∀ l ∈ ls, PlainLine l) : strLines (ls.flatMap (· ++ ['\n'])) = ls := by
  induction ls with
  | nil => rfl
  | cons l ls ih =>
    have hl := h l List.mem_cons_self
    rw [List.flatMap_cons, List.append_assoc, List.singleton_append, strLines, go_plain hl.newline hl.ending hl.nonempty,
      ih fun l' hl' => h l' (List.mem_cons_of_mem _ hl')]
    rfl

theorem gpuRecordLines_render {ls : List Line} (h : ∀ l ∈ ls, PlainLine l) :
    gpuRecordLines (some (writeGpuRecord ls)) = ls := by
  have hsplit : strLines (writeGpuRecord ls) = gpuRecordHeader :: ls := by
    unfold writeGpuRecord strLines
    rw [go_plain (by decide) (by decide) (by decide), strLines_plain h]
    rfl
  have hheader : (!gpuRecordHeader.isEmpty && decide (gpuRecordHeader.head? ≠ some '#')) = false := by decide
  unfold gpuRecordLines
  rw [Option.getD_some, hsplit, List.filter_cons_of_neg (by rw [hheader]; simp), List.filter_eq_self]
  intro l hl
  have hplain := h l hl
  simp [hplain.nonempty, hplain.entry]

theorem newline_strLines {text : List Char} : ∀ l ∈ strLines text, '\n' ∉ l := by
  have hgo : ∀ line, '\n' ∉ line → ∀ l ∈ strLines.go line text, '\n' ∉ l := by
    induction text with
    | nil =>
      intro line hline l hl
      unfold strLines.go at hl
      split at hl
      · cases hl
      · cases List.mem_singleton.mp hl
        exact hline
    | cons c cs ih =>
      intro line hline l hl
      unfold strLines.go at hl
      split at hl
      · rcases List.mem_cons.mp hl with rfl | hl
        · split
          · exact fun hmem => hline (List.dropLast_subset _ hmem)
          · exact hline
        · exact ih [] List.not_mem_nil l hl
      · next hc => exact ih _ (by simp [hline, Ne.symm hc]) l hl
  exact hgo [] List.not_mem_nil

/-- No line of the record ends in a carriage return. -/
def Tidy (record : Option (List Char)) : Prop := ∀ l ∈ gpuRecordLines record, l.getLast? ≠ some '\r'

theorem Tidy.plain {record : Option (List Char)} (h : Tidy record) : ∀ l ∈ gpuRecordLines record, PlainLine l := by
  intro l hl
  have hkept := List.mem_filter.mp hl
  simp only [Bool.and_eq_true, Bool.not_eq_true', List.isEmpty_eq_false_iff, decide_eq_true_eq] at hkept
  exact ⟨hkept.2.1, hkept.2.2, newline_strLines l hkept.1, h l hl⟩

theorem tidy_render {ls : List Line} (h : ∀ l ∈ ls, PlainLine l) : Tidy (some (writeGpuRecord ls)) := by
  intro l hl
  rw [gpuRecordLines_render h] at hl
  exact (h l hl).ending

/-! ## The line of a card -/

/-- A card's hwmon directory, as a record can name it. -/
structure LegacyCard where
  hwmonPath : List Char
  plain : ∀ c ∈ hwmonPath, c ≠ '\t' ∧ c ≠ '\n'
  named : hwmonPath.head? ≠ some '#'

namespace LegacyCard

def enable (card : LegacyCard) : List Char := pwm1Enable card.hwmonPath

variable (card : LegacyCard) {name : List Char}

theorem join_plain (hname : ∀ c ∈ name, c ≠ '\t' ∧ c ≠ '\n') : ∀ c ∈ join card.hwmonPath name, c ≠ '\t' ∧ c ≠ '\n' := by
  intro c hc
  have hpath := card.plain c
  have hname := hname c
  unfold join at hc
  split at hc
  · exact hname hc
  · split at hc
    · exact (List.mem_append.mp hc).elim hpath hname
    · rcases List.mem_append.mp hc with hc | hc
      · exact hpath hc
      · rcases List.mem_cons.mp hc with rfl | hc
        · decide
        · exact hname hc

theorem enable_plain : ∀ c ∈ card.enable, c ≠ '\t' ∧ c ≠ '\n' := card.join_plain (by simp)

theorem pwm1_plain : ∀ c ∈ pwm1 card.hwmonPath, c ≠ '\t' ∧ c ≠ '\n' := card.join_plain (by simp)

theorem enable_head : card.enable ≠ [] ∧ card.enable.head? ≠ some '#' := by
  have hnamed := card.named
  unfold enable pwm1Enable join
  split
  · exact ⟨by decide, by decide⟩
  · next hne =>
    obtain ⟨c, rest, hpath⟩ := List.exists_cons_of_ne_nil hne
    rw [hpath] at hnamed ⊢
    split <;> exact ⟨by simp, by simpa using hnamed⟩

end LegacyCard

section Line

variable (card : LegacyCard) (o : LegacyOriginal)

theorem kind_plain : ∀ c ∈ o.recordFields.1, c ≠ '\t' ∧ c ≠ '\n' := by
  cases o with
  | mode n =>
    show ∀ c ∈ "mode".toList, c ≠ '\t' ∧ c ≠ '\n'
    simp
  | manual n =>
    show ∀ c ∈ "manual".toList, c ≠ '\t' ∧ c ≠ '\n'
    simp

theorem digits_plain (n : U8) : (∀ c ∈ digits n, c ≠ '\t' ∧ c ≠ '\n' ∧ c ≠ '\r') ∧ digits n ≠ [] := by
  have h : ∀ n : U8, ((digits n).all fun c => c ≠ '\t' ∧ c ≠ '\n' ∧ c ≠ '\r') = true ∧ digits n ≠ [] := by decide +kernel
  exact ⟨fun c hc => of_decide_eq_true (List.all_eq_true.mp (h n).1 c hc), (h n).2⟩

theorem recordLine_fields : (recordLine card.hwmonPath o).splitOn '\t' =
    [card.enable, pwm1 card.hwmonPath, o.recordFields.1, digits o.recordFields.2] := by
  have hline : recordLine card.hwmonPath o =
      ['\t'].intercalate [card.enable, pwm1 card.hwmonPath, o.recordFields.1, digits o.recordFields.2] := by
    simp [recordLine, LegacyCard.enable]
  rw [hline]
  refine List.splitOn_intercalate _ ?_ (List.cons_ne_nil _ _)
  intro field hfield htab
  simp only [List.mem_cons, List.not_mem_nil, or_false] at hfield
  rcases hfield with rfl | rfl | rfl | rfl
  · exact (card.enable_plain _ htab).1 rfl
  · exact (card.pwm1_plain _ htab).1 rfl
  · exact (kind_plain o _ htab).1 rfl
  · exact ((digits_plain _).1 _ htab).1 rfl

theorem recordLine_count : (recordLine card.hwmonPath o).count '\t' = 3 := by
  have hcount : ∀ {s : List Char}, (∀ c ∈ s, c ≠ '\t' ∧ c ≠ '\n') → s.count '\t' = 0 :=
    fun h => List.count_eq_zero.mpr fun htab => (h _ htab).1 rfl
  have henable := hcount card.enable_plain
  have hdigits : (digits o.recordFields.2).count '\t' = 0 :=
    List.count_eq_zero.mpr fun htab => ((digits_plain _).1 _ htab).1 rfl
  unfold LegacyCard.enable at henable
  simp [recordLine, List.count_append, henable, hcount card.pwm1_plain, hcount (kind_plain o), hdigits]

theorem recordLine_plain : PlainLine (recordLine card.hwmonPath o) := by
  have hhead := card.enable_head
  obtain ⟨c, rest, hc⟩ := List.exists_cons_of_ne_nil hhead.1
  have hshape : recordLine card.hwmonPath o = c :: (rest ++ '\t' :: (pwm1 card.hwmonPath ++ '\t' ::
      (o.recordFields.1 ++ '\t' :: digits o.recordFields.2))) := by
    unfold LegacyCard.enable at hc
    rw [recordLine, hc]
    rfl
  refine ⟨?_, ?_, ?_, ?_⟩
  · rw [hshape]
    exact List.cons_ne_nil _ _
  · rw [hshape]
    rw [hc] at hhead
    simpa using hhead.2
  · have henable := card.enable_plain '\n'
    have hpwm := card.pwm1_plain '\n'
    have hkind := kind_plain o '\n'
    have hdigits := (digits_plain o.recordFields.2).1 '\n'
    unfold LegacyCard.enable at henable
    simp only [recordLine, List.mem_append, List.mem_cons]
    grind
  · obtain ⟨hdigits, hne⟩ := digits_plain o.recordFields.2
    obtain ⟨last, hlast⟩ := List.getLast?_isSome.mpr hne |> Option.isSome_iff_exists.mp
    have hmem := List.mem_of_getLast? hlast
    have hline : (recordLine card.hwmonPath o).getLast? = some last := by
      simp [recordLine, List.getLast?_append, List.getLast?_cons, hlast]
    rw [hline]
    exact fun hr => (hdigits last hmem).2.2 (Option.some.inj hr)

theorem ofFan_recordLine (path : List Char) : ofFan path (recordLine card.hwmonPath o) = decide (card.enable = path) := by
  rw [Bool.eq_iff_iff]
  simp [ofFan, recordLine_fields]

theorem standing_recordLine : standing card.enable (recordLine card.hwmonPath o) = some o := by
  simp [standing, recordLine_fields, LegacyOriginal.fromRecordFields_recordFields]

end Line

/-! ## What the calls do to the record -/

/-- The record's lines of one fan. -/
def fanLines (record : Option (List Char)) (enable : List Char) : List Line := (gpuRecordLines record).filter (ofFan enable)

theorem ofFan_of_standing {enable : List Char} {l : Line} {o : LegacyOriginal} (h : standing enable l = some o) :
    ofFan enable l = true := by
  unfold standing at h
  split at h
  · next path pwm kind value rest hfields =>
    split at h
    · next hpath => simp [ofFan, hfields, hpath]
    · cases h
  · cases h

/-- A line of another fan says nothing. -/
theorem findSome?_standing (ls : List Line) (enable : List Char) :
    ls.findSome? (standing enable) = (ls.filter (ofFan enable)).findSome? (standing enable) := by
  induction ls with
  | nil => rfl
  | cons l ls ih =>
    by_cases hl : ofFan enable l = true
    · rw [List.filter_cons_of_pos hl, List.findSome?_cons, List.findSome?_cons, ih]
    · have hnone : standing enable l = none := by
        cases hs : standing enable l with
        | none => rfl
        | some o => exact absurd (ofFan_of_standing hs) hl
      rw [List.filter_cons_of_neg hl, List.findSome?_cons, hnone]
      exact ih

section Calls

variable {record : Option (List Char)} {card : LegacyCard} {o : LegacyOriginal}

/-- The first take appends its line. -/
theorem noteLegacyTake_first (htidy : Tidy record) (h : fanLines record card.enable = []) :
    (noteLegacyTake record card.hwmonPath o).1 = o ∧
    gpuRecordLines (noteLegacyTake record card.hwmonPath o).2 = gpuRecordLines record ++ [recordLine card.hwmonPath o] ∧
    Tidy (noteLegacyTake record card.hwmonPath o).2 := by
  have hnone : (gpuRecordLines record).findSome? (standing card.enable) = none := by
    rw [findSome?_standing, show (gpuRecordLines record).filter (ofFan card.enable) = [] from h]
    rfl
  have hothers : otherGpuLines record card.enable = gpuRecordLines record := by
    unfold otherGpuLines
    rw [List.filter_eq_self]
    intro l hl
    simpa using List.filter_eq_nil_iff.mp h l hl
  have hplain : ∀ l ∈ gpuRecordLines record ++ [recordLine card.hwmonPath o], PlainLine l := by
    intro l hl
    rcases List.mem_append.mp hl with hl | hl
    · exact htidy.plain l hl
    · cases List.mem_singleton.mp hl
      exact recordLine_plain card o
  have hline : ¬((recordLine card.hwmonPath o).count '\t' ≠ 3 ∨ '\n' ∈ recordLine card.hwmonPath o) := by
    rw [not_or]
    exact ⟨not_not.mpr (recordLine_count card o), (recordLine_plain card o).newline⟩
  have hresult : noteLegacyTake record card.hwmonPath o =
      (o, some (writeGpuRecord (gpuRecordLines record ++ [recordLine card.hwmonPath o]))) := by
    unfold LegacyCard.enable at hnone hothers
    simp only [noteLegacyTake, hnone, if_neg hline, hothers, ne_eq, not_true_eq_false, if_false]
  rw [hresult]
  exact ⟨rfl, gpuRecordLines_render hplain, tidy_render hplain⟩

/-- A later take leaves the record alone, and returns what it says: automatic, if it cannot be read. -/
theorem noteLegacyTake_later (h : fanLines record card.enable ≠ []) :
    noteLegacyTake record card.hwmonPath o =
      (((fanLines record card.enable).findSome? (standing card.enable)).getD (.mode amdgpuPwmEnableAuto), record) := by
  have hfind : (gpuRecordLines record).findSome? (standing card.enable) =
      (fanLines record card.enable).findSome? (standing card.enable) := findSome?_standing _ _
  have hlength : (gpuRecordLines record).length ≠ (otherGpuLines record card.enable).length := by
    obtain ⟨l, hl⟩ := List.exists_mem_of_ne_nil _ h
    obtain ⟨hl, hfan⟩ := List.mem_filter.mp hl
    have hlt : (otherGpuLines record card.enable).length < (gpuRecordLines record).length :=
      List.length_filter_lt_length_iff_exists.mpr ⟨l, hl, by simp [hfan]⟩
    omega
  have hline : ¬((recordLine card.hwmonPath o).count '\t' ≠ 3 ∨ '\n' ∈ recordLine card.hwmonPath o) := by
    rw [not_or]
    exact ⟨not_not.mpr (recordLine_count card o), (recordLine_plain card o).newline⟩
  unfold LegacyCard.enable at hfind hlength ⊢
  unfold noteLegacyTake
  rw [hfind]
  cases (fanLines record (pwm1Enable card.hwmonPath)).findSome? (standing (pwm1Enable card.hwmonPath)) with
  | some o' => rfl
  | none => simp only [if_neg hline, hlength, ne_eq, not_false_eq_true, if_true, Option.getD_none]

/-- The other lines stay, byte for byte. -/
theorem noteLegacyHandedBack_lines (htidy : Tidy record) :
    gpuRecordLines (noteLegacyHandedBack record card.hwmonPath) = otherGpuLines record card.enable ∧
    Tidy (noteLegacyHandedBack record card.hwmonPath) := by
  have hplain : ∀ l ∈ otherGpuLines record card.enable, PlainLine l :=
    fun l hl => htidy.plain l (List.mem_filter.mp hl).1
  unfold LegacyCard.enable at hplain ⊢
  unfold noteLegacyHandedBack
  dsimp only
  split
  · next hempty =>
    rw [List.isEmpty_iff.mp hempty]
    exact ⟨rfl, fun l hl => absurd hl List.not_mem_nil⟩
  · exact ⟨gpuRecordLines_render hplain, tidy_render hplain⟩

end Calls

end ControlOfc.Gpu
