import ControlOfc.Hwmon.HeaderFiles
import ControlOfc.Hwmon.Record
import ControlOfc.Lib.Shell
import Mathlib.Logic.Function.Basic
/-! # The replay of the record (packaging/control-ofc-restore-auto.sh)

When the daemon has ended, a shell script gives the headers in the record back. It sees the sysfs files as
text under their paths; so does `Tree`, in which each header's files are a driver's, which stores what it
likes and shows a byte or nothing.

* `RestoreAuto.replay` — the script's loop over the record.
* `Tree.files` — the same files, as `hand_back` uses them.
-/
namespace ControlOfc.Hwmon

/-! ## The files of a driver -/

/-- What a file shows: a byte in plain decimal, with white space around it. -/
structure Reading where
  before : List Char
  value : Nat
  after : List Char
  byte : value ≤ 255
  blank : ∀ c ∈ before ++ after, Shell.isSpace c = true

def Reading.text (r : Reading) : List Char := r.before ++ (digits r.value ++ r.after)

/-- The files of one header: a write may fail, be stored, or be stored as something else. -/
structure Driver (δ : Type) where
  write : δ → Attr → List Char → Bool × δ
  read : δ → Attr → Option Reading
  /-- The mode switch is there. -/
  present : δ → Bool
  gone : ∀ s, present s = false → ∀ text, write s .enable text = (false, s)

/-- Every header's files, by the path of its duty file, and what has been written so far. -/
structure Tree (δ : Type) where
  state : List Char → δ
  log : List (List Char × List Char)

/-- The header a path belongs to, and which of its files it is. -/
def fileOf (path : List Char) : List Char × Attr :=
  if "_enable".toList.isSuffixOf path then (path.take (path.length - 7), .enable) else (path, .duty)

/-- A driver does not see the newline at the end of what is stored. -/
def stored (text : List Char) : List Char := if text.getLast? = some '\n' then text.dropLast else text

/-- `s.trim()`. -/
def trim (s : List Char) : List Char := (s.dropWhile Shell.isSpace).rdropWhile Shell.isSpace

namespace Tree

variable {δ : Type} (D : Driver δ)

def write (w : Tree δ) (path text : List Char) : Bool × Tree δ :=
  let d := D.write (w.state (fileOf path).1) (fileOf path).2 (stored text)
  (d.1, ⟨Function.update w.state (fileOf path).1 d.2, w.log ++ [(path, stored text)]⟩)

def read (w : Tree δ) (path : List Char) : Option (List Char) :=
  (D.read (w.state (fileOf path).1) (fileOf path).2).map Reading.text

/-- `[ -e path ]`, of an enable file. -/
def isPresent (w : Tree δ) (path : List Char) : Bool := D.present (w.state (fileOf path).1)

/-- The writes to one header's files. -/
def writesTo (w : Tree δ) (header : List Char) : List (List Char × List Char) :=
  w.log.filter fun x => (fileOf x.1).1 = header

/-- A ledger entry's files, as `hand_back` writes and reads them. -/
def files (e : LedgerEntry) : HeaderFiles (Tree δ) where
  write w attr value :=
    match attr with
    | .enable => w.write D e.enablePath.text (digits value)
    | .duty => w.write D e.pwmPath.text (digits value)
  read w attr :=
    match attr with
    | .enable => ((w.read D e.enablePath.text).bind fun s => Text.parseU8 (trim s), w)
    | .duty => ((w.read D e.pwmPath.text).bind fun s => Text.parseU8 (trim s), w)

end Tree

/-! ## The script -/

namespace RestoreAuto

variable {δ : Type} (D : Driver δ)

/-- `echo value > path`. -/
def echo (w : Tree δ) (value path : List Char) : Bool × Tree δ := w.write D path (value ++ ['\n'])

/-- `read_value` (control-ofc-restore-auto.sh:61), `none` where `cat` fails. -/
def readValue (w : Tree δ) (path : List Char) : Option (List Char) := (w.read D path).map Shell.strip

/-- `"$(read_value path)"`. -/
def shown (w : Tree δ) (path : List Char) : List Char := (readValue D w path).getD []

/-- The second attempt of `full_speed` (control-ofc-restore-auto.sh:74). -/
def manualFullSpeed (w : Tree δ) (enable pwm : List Char) : Bool × Tree δ :=
  let m := echo D w ['1'] enable
  if m.1 then
    let d := echo D m.2 ['2', '5', '5'] pwm
    if d.1 then ((readValue D d.2 pwm).any fun duty => Shell.ge duty 190, d.2) else (false, d.2)
  else (false, m.2)

/-- `full_speed` (control-ofc-restore-auto.sh:69). -/
def fullSpeed (w : Tree δ) (enable pwm : List Char) : Bool × Tree δ :=
  let m := echo D w ['0'] enable
  if m.1 && shown D m.2 enable == ['0'] then (true, m.2) else manualFullSpeed D m.2 enable pwm

/-- The arms of `hand_back` before its fallback (control-ofc-restore-auto.sh:83-108). -/
def restore (w : Tree δ) (enable pwm kind value : List Char) : Bool × Tree δ :=
  if kind = kindMode then
    let m := echo D w value enable
    (m.1 && shown D m.2 enable == value, m.2)
  else if kind = kindWriteOnly then echo D w value enable
  else if kind = kindManual then
    let m := echo D w ['1'] enable
    if m.1 then
      let d := echo D m.2 value pwm
      let mode := shown D d.2 enable
      (d.1 && (mode == ['1'] || (mode == ['0'] && Shell.ge value 254 && Shell.ge (shown D d.2 pwm) 254)), d.2)
    else (false, m.2)
  else (false, w)

/-- `hand_back` (control-ofc-restore-auto.sh:81). -/
def handBack (w : Tree δ) (enable pwm kind value : List Char) : Bool × Tree δ :=
  let r := restore D w enable pwm kind value
  if r.1 then r else fullSpeed D r.2 enable pwm

/-- `[[ "$pwm" =~ /pwm[0-9]+$ ]]`. -/
def isPwmFile (path : List Char) : Bool :=
  let stem := path.rdropWhile Char.isDigit
  stem.length < path.length && "/pwm".toList.isSuffixOf stem

/-- The kind a line is replayed as: a value that is no small integer makes it `full`. -/
def checkedKind (kind value : List Char) : Option (List Char) :=
  if kind = kindMode ∨ kind = kindWriteOnly ∨ kind = kindManual then
    if Text.isDigits value && decide (value.length ≤ 3) && Shell.le value 255 then some kind else some kindFull
  else if kind = kindFull then some kindFull
  else none

/-- What the loop has done: the files, and the enable files it could not give back. -/
structure Replayed (δ : Type) where
  tree : Tree δ
  reported : List (List Char)

/-- One `hand_back … || echo` of the loop. -/
def give (r : Replayed δ) (enable pwm kind value : List Char) : Replayed δ :=
  let h := handBack D r.tree enable pwm kind value
  ⟨h.2, if h.1 then r.reported else r.reported ++ [enable]⟩

/-- The body of the loop (control-ofc-restore-auto.sh:115-132). -/
def replayLine (root : List Char) (r : Replayed δ) (line : List Char) : Replayed δ :=
  let (enable, pwm, kind, value) := Shell.read4 '\t' line
  if enable = [] ∨ enable.head? = some '#' then r
  else if !(root ++ ['/']).isPrefixOf pwm then r
  else if enable ≠ pwm ++ "_enable".toList then r
  else if !isPwmFile pwm then r
  else
    match checkedKind kind value with
    | none => r
    | some kind => if r.tree.isPresent D enable then give D r enable pwm kind value else r

/-- The loop over one record. -/
def replay (root : List Char) (w : Tree δ) (record : List Char) : Replayed δ :=
  (Shell.lines record).foldl (replayLine D root) ⟨w, []⟩

end RestoreAuto

end ControlOfc.Hwmon
