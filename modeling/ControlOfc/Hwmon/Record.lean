import ControlOfc.Hwmon.HandBack
import Mathlib.Data.List.Sort
import Mathlib.Data.String.Basic
/-! # The hand-back record (hwmon/handback.rs, `render_record`)

One line for each header the daemon holds: its two files, and what gives it back. The record is replayed
by a script when the daemon is gone.
-/
namespace ControlOfc.Hwmon

/-- The path as the descriptor holds it. -/
def SysfsPath.text (p : SysfsPath) : List Char := p.dir.toList ++ '/' :: p.file.toList

/-- `to_string` of a `u8`. -/
def digits (n : Nat) : List Char := Nat.toDigits 10 n

/-- What a byte in plain decimal looks like, and that reading it back gives the byte. -/
theorem digits_spec {n : Nat} (hn : n ≤ 255) :
    Text.isDigits (digits n) = true ∧ Text.decimal (digits n) = n ∧ (digits n).length ≤ 3 := by
  have h : ∀ n < 256, Text.isDigits (digits n) = true ∧ Text.decimal (digits n) = n ∧ (digits n).length ≤ 3 := by
    decide +kernel
  exact h n (Nat.lt_succ_of_le hn)

theorem digits_inj {m n : Nat} (hm : m ≤ 255) (hn : n ≤ 255) : digits m = digits n ↔ m = n := by
  constructor
  · intro h
    rw [← (digits_spec hm).2.1, h, (digits_spec hn).2.1]
  · rintro rfl
    rfl

theorem digits_isDigit {n : Nat} (hn : n ≤ 255) : ∀ c ∈ digits n, c.isDigit = true := by
  have h := (digits_spec hn).1
  simp only [Text.isDigits, Text.isAsciiDigit, Bool.and_eq_true, List.all_eq_true] at h
  exact h.2

theorem digits_ne_nil {n : Nat} (hn : n ≤ 255) : digits n ≠ [] := by
  have h := (digits_spec hn).1
  simp only [Text.isDigits, Bool.and_eq_true, Bool.not_eq_true', List.isEmpty_eq_false_iff] at h
  exact h.1

/-- The record's kinds of line. -/
def kindMode : List Char := "mode".toList
def kindWriteOnly : List Char := "write-only".toList
def kindManual : List Char := "manual".toList
def kindFull : List Char := "full".toList

/-- `record_columns` (handback.rs:144). -/
def HandBack.recordColumns : HandBack → List Char × List Char
  | .mode value => (kindMode, digits value)
  | .writeOnlyMode value => (kindWriteOnly, digits value)
  | .manual raw => (kindManual, digits raw)
  | .fullSpeed => (kindFull, ['-'])

/-- What the entry's header gets back. -/
def LedgerEntry.action (e : LedgerEntry) : HandBack := e.original.getD .fullSpeed

/-- `RECORD_HEADER` (handback.rs:71). -/
def recordHeader : List Char :=
  '#' :: (" control-ofc hwmon hand-back record v1: headers the daemon has taken ".toList ++
    "from firmware. Written by control-ofc-daemon, replayed by control-ofc-restore-auto ".toList ++
    "(ExecStopPost). Do not edit.".toList)

/-- A separator inside a field could not be parsed back. -/
def hasSeparator (path : List Char) : Bool := path.any fun c => c == '\t' || c == '\n'

/-- One line of the record, without its newline. -/
def LedgerEntry.line (e : LedgerEntry) : List Char :=
  e.enablePath.text ++ '\t' :: (e.pwmPath.text ++ '\t' :: (e.action.recordColumns.1 ++ '\t' :: e.action.recordColumns.2))

/-- The entries that get a line, by their enable file. `entries` are the ledger's, in any order. -/
def recorded (entries : List LedgerEntry) : List LedgerEntry :=
  ((entries.filter (·.taken)).mergeSort fun a b => decide (a.enablePath.text ≤ b.enablePath.text)).filter fun e =>
    !(hasSeparator e.enablePath.text || hasSeparator e.pwmPath.text)

/-- `render_record` (handback.rs:559). -/
def renderRecord (entries : List LedgerEntry) : List Char :=
  recordHeader ++ '\n' :: (recorded entries).flatMap fun e => e.line ++ ['\n']

theorem mem_recorded {entries : List LedgerEntry} {e : LedgerEntry} :
    e ∈ recorded entries ↔ (e ∈ entries ∧ e.taken = true) ∧
      hasSeparator e.enablePath.text = false ∧ hasSeparator e.pwmPath.text = false := by
  simp [recorded, List.mem_mergeSort]

/-- Sorting and dropping lines leaves paths that were distinct distinct. -/
theorem nodup_recorded {entries : List LedgerEntry} (h : (entries.map (·.pwmPath.text)).Nodup) :
    ((recorded entries).map (·.pwmPath.text)).Nodup := by
  have hsub : ((entries.filter (·.taken)).map (·.pwmPath.text)).Nodup := h.sublist (List.filter_sublist.map _)
  have hsort := ((List.mergeSort_perm (entries.filter (·.taken)) fun a b =>
    decide (a.enablePath.text ≤ b.enablePath.text)).map (·.pwmPath.text)).nodup_iff.mpr hsub
  exact hsort.sublist (List.filter_sublist.map _)

end ControlOfc.Hwmon
