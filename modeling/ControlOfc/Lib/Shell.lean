import ControlOfc.Lib.Text
import Mathlib.Data.List.DropRight
/-! # What a shell script does to text

Reading a table line by line and splitting each line at a white-space separator, stripping what `cat`
printed, and the numeric tests, each on `List Char`.

* `lines_line` — a line that ends in a newline comes back as it was written.
* `read4_join` — and so do its four fields.
-/
namespace Shell

/-- The lines that end in a newline; `while read` runs no body for what stands after the last one. -/
def lines : List Char → List (List Char) := go []
where
  go (line : List Char) : List Char → List (List Char)
    | [] => []
    | c :: cs => if c = '\n' then line :: go [] cs else go (line ++ [c]) cs

theorem go_line {l : List Char} (hl : '\n' ∉ l) (line rest : List Char) :
    lines.go line (l ++ '\n' :: rest) = (line ++ l) :: lines rest := by
  induction l generalizing line with
  | nil => simp [lines.go, lines]
  | cons c l ih =>
    simp only [List.mem_cons, not_or] at hl
    have hc : c ≠ '\n' := fun h => hl.1 h.symm
    simp [lines.go, hc, ih hl.2]

theorem lines_line {l : List Char} (hl : '\n' ∉ l) (rest : List Char) : lines (l ++ '\n' :: rest) = l :: lines rest :=
  go_line hl [] rest

/-- The lines of a table of which no row holds a newline. -/
theorem lines_table {α : Type*} (f : α → List Char) (rows : List α) (h : ∀ r ∈ rows, '\n' ∉ f r) :
    lines (rows.flatMap fun r => f r ++ ['\n']) = rows.map f := by
  induction rows with
  | nil => rfl
  | cons r rows ih =>
    rw [List.flatMap_cons, List.append_assoc, List.singleton_append, lines_line (h r List.mem_cons_self),
      ih fun r' hr' => h r' (List.mem_cons_of_mem _ hr')]
    rfl

/-! ## Fields -/

/-- The first field of a line, and what stands behind the separators after it. -/
def field (sep : Char) (s : List Char) : List Char × List Char :=
  (s.takeWhile (· ≠ sep), (s.dropWhile (· ≠ sep)).dropWhile (· = sep))

/-- `IFS=sep read -r a b c d`, for a separator that is white space: runs of it count as one, and the last
variable takes the rest of the line. -/
def read4 (sep : Char) (line : List Char) : List Char × List Char × List Char × List Char :=
  let a := field sep (line.dropWhile (· = sep))
  let b := field sep a.2
  let c := field sep b.2
  (a.1, b.1, c.1, c.2.rdropWhile (· = sep))

theorem dropWhile_of_not_mem {sep : Char} {s : List Char} (h : sep ∉ s) : s.dropWhile (· = sep) = s := by
  cases s with
  | nil => rfl
  | cons c s =>
    have hc : c ≠ sep := fun hc => h (hc ▸ List.mem_cons_self)
    simp [hc]

theorem field_join {sep : Char} {a b : List Char} (ha : sep ∉ a) (hb : b.dropWhile (· = sep) = b) :
    field sep (a ++ sep :: b) = (a, b) := by
  have hall : ∀ c ∈ a, decide (c ≠ sep) = true := by
    intro c hc
    simp only [ne_eq, decide_not, Bool.not_eq_true', decide_eq_false_iff_not]
    exact fun h => ha (h ▸ hc)
  unfold field
  rw [List.takeWhile_append_of_pos hall, List.dropWhile_append_of_pos hall]
  simp [hb]

/-- A field at the head of a line leaves no separator to drop. -/
theorem dropWhile_join {sep : Char} {a : List Char} (ha : sep ∉ a) (hne : a ≠ []) (b : List Char) :
    (a ++ b).dropWhile (· = sep) = a ++ b := by
  obtain ⟨c, a, rfl⟩ := List.exists_cons_of_ne_nil hne
  have hc : c ≠ sep := fun hc => ha (hc ▸ List.mem_cons_self)
  simp [hc]

theorem rdropWhile_of_not_mem {sep : Char} {s : List Char} (h : sep ∉ s) : s.rdropWhile (· = sep) = s := by
  unfold List.rdropWhile
  rw [dropWhile_of_not_mem (by simpa using h), List.reverse_reverse]

theorem read4_join {sep : Char} {a b c d : List Char} (ha : sep ∉ a) (hb : sep ∉ b) (hc : sep ∉ c) (hd : sep ∉ d)
    (hae : a ≠ []) (hbe : b ≠ []) (hce : c ≠ []) :
    read4 sep (a ++ sep :: (b ++ sep :: (c ++ sep :: d))) = (a, b, c, d) := by
  simp only [read4, dropWhile_join ha hae, field_join ha (dropWhile_join hb hbe _), field_join hb (dropWhile_join hc hce _),
    field_join hc (dropWhile_of_not_mem hd), rdropWhile_of_not_mem hd]

/-- `IFS=sep read -r a b`, as `read4`. -/
def read2 (sep : Char) (line : List Char) : List Char × List Char :=
  let a := field sep (line.dropWhile (· = sep))
  (a.1, a.2.rdropWhile (· = sep))

theorem read2_join {sep : Char} {a b : List Char} (ha : sep ∉ a) (hb : sep ∉ b) (hae : a ≠ []) :
    read2 sep (a ++ sep :: b) = (a, b) := by
  simp only [read2, dropWhile_join ha hae, field_join ha (dropWhile_of_not_mem hb), rdropWhile_of_not_mem hb]

/-- What a line begins with, its first field begins with. -/
theorem read4_head {sep c : Char} (hc : c ≠ sep) (s : List Char) : (read4 sep (c :: s)).1.head? = some c := by
  simp [read4, field, hc]

/-! ## Values -/

/-- `[[:space:]]`. -/
def isSpace (c : Char) : Bool := c == ' ' || ('\t' ≤ c && c ≤ '\r')

/-- `${v//[[:space:]]/}`. -/
def strip (s : List Char) : List Char := s.filter fun c => !isSpace c

/-- The number a test reads off its operand. -/
def number (s : List Char) : Option Nat := if Text.isDigits s then some (Text.decimal s) else none

/-- `[ s -ge n ]`. -/
def ge (s : List Char) (n : Nat) : Bool := (number s).any (n ≤ ·)

/-- `[ s -le n ]`. -/
def le (s : List Char) (n : Nat) : Bool := (number s).any (· ≤ n)

end Shell
