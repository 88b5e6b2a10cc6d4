import ControlOfc.Lib.Text
import Mathlib.Data.List.DropRight
/-! # Fields and numbers of a line of text

What a reader of a table of numbers does with a line, on `List Char`: trimming it, splitting it at a
separator or at white space, and reading a signed number off the front of a word.

* `splitWhitespace_two` — two words come back as they were written.
* `leadingI32_printInt` — so does a number with a unit behind it, and one that is too wide is none.
-/
namespace Text

/-! ## Splitting at a separator -/

theorem splitOnce_of_notMem {c : Char} {s : List Char} (h : c ∉ s) : splitOnce [c] s = none := by
  induction s with
  | nil => rfl
  | cons x s ih =>
    simp only [List.mem_cons, not_or] at h
    simp [splitOnce, h.1, ih h.2]

theorem splitOnce_append {c : Char} {a : List Char} (b : List Char) (h : c ∉ a) :
    splitOnce [c] (a ++ c :: b) = some (a, b) := by
  induction a with
  | nil => simp [splitOnce]
  | cons x a ih =>
    simp only [List.mem_cons, not_or] at h
    simp [splitOnce, h.1, ih h.2]

theorem secondField_append {c : Char} {a b : List Char} (ha : c ∉ a) (hb : c ∉ b) :
    secondField c (a ++ c :: b) = some b := by
  simp [secondField, splitOnce_append b ha, splitOnce_of_notMem hb]

theorem not_contains {s hint : List Char} {c : Char} (hc : c ∈ hint) (hs : c ∉ s) : contains s hint = false := by
  simp only [contains, decide_eq_false_iff_not]
  intro h
  exact hs (h.subset hc)

theorem contains_append (a hint b : List Char) : contains (a ++ hint ++ b) hint = true := by
  simp only [contains, decide_eq_true_eq]
  exact List.infix_append a hint b

/-! ## White space -/

/-- `char::is_whitespace`. -/
def isWhitespace (c : Char) : Bool :=
  let n := c.toNat
  (9 ≤ n && n ≤ 13) || n == 0x20 || n == 0x85 || n == 0xA0 || n == 0x1680 || (0x2000 ≤ n && n ≤ 0x200A) ||
    n == 0x2028 || n == 0x2029 || n == 0x202F || n == 0x205F || n == 0x3000

/-- `str::trim`. -/
def trim (s : List Char) : List Char := (s.dropWhile isWhitespace).rdropWhile isWhitespace

theorem trim_eq_self {s : List Char} (hne : s ≠ []) (hhead : isWhitespace (s.head hne) = false)
    (hlast : isWhitespace (s.getLast hne) = false) : trim s = s := by
  have hfront : s.dropWhile isWhitespace = s := by
    cases s with
    | nil => exact absurd rfl hne
    | cons c s => exact List.dropWhile_cons_of_neg (by simpa using hhead)
  rw [trim, hfront, List.rdropWhile_eq_self_iff]
  intro _
  simp [hlast]

/-- `str::split_whitespace`. -/
def splitWhitespace : List Char → List (List Char) := go []
where
  go (word : List Char) : List Char → List (List Char)
    | [] => if word = [] then [] else [word]
    | c :: cs =>
      if isWhitespace c then if word = [] then go [] cs else word :: go [] cs
      else go (word ++ [c]) cs

/-- A word: not empty, and without white space. -/
structure Word (w : List Char) : Prop where
  nonempty : w ≠ []
  solid : ∀ c ∈ w, isWhitespace c = false

theorem splitWhitespace.go_append {w : List Char} (hw : ∀ c ∈ w, isWhitespace c = false) (word rest : List Char) :
    go word (w ++ rest) = go (word ++ w) rest := by
  induction w generalizing word with
  | nil => simp
  | cons c w ih =>
    have hc := hw c List.mem_cons_self
    rw [List.cons_append, go, if_neg (by simp [hc]), ih (fun d hd => hw d (List.mem_cons_of_mem _ hd))]
    simp

theorem splitWhitespace_word {w : List Char} (hw : Word w) : splitWhitespace w = [w] := by
  have h := splitWhitespace.go_append hw.solid [] []
  simp only [List.append_nil, List.nil_append] at h
  rw [splitWhitespace, h]
  simp [splitWhitespace.go, hw.nonempty]

theorem splitWhitespace_cons {w : List Char} (hw : Word w) (rest : List Char) :
    splitWhitespace (w ++ ' ' :: rest) = w :: splitWhitespace rest := by
  have hspace : isWhitespace ' ' = true := rfl
  rw [splitWhitespace, splitWhitespace.go_append hw.solid, List.nil_append, splitWhitespace.go, if_pos hspace,
    if_neg hw.nonempty]

/-- Two words behind a blank come back as they were written. -/
theorem splitWhitespace_two {a b : List Char} (ha : Word a) (hb : Word b) :
    splitWhitespace (' ' :: (a ++ ' ' :: b)) = [a, b] := by
  have hskip : splitWhitespace (' ' :: (a ++ ' ' :: b)) = splitWhitespace (a ++ ' ' :: b) := rfl
  rw [hskip, splitWhitespace_cons ha, splitWhitespace_word hb]

/-! ## Numbers -/

/-- `i32::MIN`, `i32::MAX`. -/
def i32Min : Int := -2147483648
def i32Max : Int := 2147483647

/-- The value fits an `i32`. -/
def IsI32 (n : Int) : Prop := i32Min ≤ n ∧ n ≤ i32Max

instance (n : Int) : Decidable (IsI32 n) := inferInstanceAs (Decidable (_ ∧ _))

/-- The sign of a number, and what stands behind it. -/
def splitSign : List Char → Int × List Char
  | '+' :: rest => (1, rest)
  | '-' :: rest => (-1, rest)
  | s => (1, s)

/-- `s.parse::<i32>()`: an optional sign, then digits. -/
def parseI32 (s : List Char) : Option Int :=
  let (sign, digits) := splitSign s
  if isDigits digits ∧ IsI32 (sign * decimal digits) then some (sign * decimal digits) else none

theorem parseI32_isI32 {s : List Char} {n : Int} (h : parseI32 s = some n) : IsI32 n := by
  simp only [parseI32, Option.ite_none_right_eq_some, Option.some.injEq] at h
  obtain ⟨⟨-, hn⟩, rfl⟩ := h
  exact hn

/-- `{}` of an unsigned integer. -/
def printNat (n : Nat) : List Char := Nat.toDigits 10 n

/-- `{}` of a signed integer. -/
def printInt : Int → List Char
  | .ofNat n => printNat n
  | .negSucc n => '-' :: printNat (n + 1)

@[simp] theorem printInt_natCast (n : Nat) : printInt n = printNat n := rfl

theorem decimal_printNat (n : Nat) : decimal (printNat n) = n := by
  have h : decimal (printNat n) = Nat.ofDigitChars 10 (printNat n) 0 := Nat.ofDigitChars_eq_foldl.symm
  rw [h]
  exact Nat.ofDigitChars_ten_toDigits

theorem isDigit_printNat {n : Nat} {c : Char} (hc : c ∈ printNat n) : c.isDigit = true :=
  Nat.isDigit_of_mem_toDigits (by decide) (by decide) hc

theorem printNat_ne_nil (n : Nat) : printNat n ≠ [] := Nat.toDigits_ne_nil

theorem isDigits_printNat (n : Nat) : isDigits (printNat n) = true := by
  simp only [isDigits, Bool.and_eq_true, Bool.not_eq_true', List.isEmpty_eq_false_iff, List.all_eq_true]
  exact ⟨printNat_ne_nil n, fun c hc => isDigit_printNat hc⟩

/-- Every character of a number is a digit or a minus sign. -/
theorem mem_printInt {n : Int} {c : Char} (hc : c ∈ printInt n) : c.isDigit = true ∨ c = '-' := by
  cases n with
  | ofNat n => exact .inl (isDigit_printNat hc)
  | negSucc n =>
    rcases List.mem_cons.mp hc with rfl | hc
    · exact .inr rfl
    · exact .inl (isDigit_printNat hc)

theorem printInt_ne_nil (n : Int) : printInt n ≠ [] := by
  cases n with
  | ofNat n => exact printNat_ne_nil n
  | negSucc n => simp [printInt]

theorem splitSign_printNat (n : Nat) : splitSign (printNat n) = (1, printNat n) := by
  have hdigit : ∀ c ∈ printNat n, c.isDigit = true := fun c hc => isDigit_printNat hc
  unfold splitSign
  split
  · next h => simpa using hdigit '+' (h ▸ List.mem_cons_self)
  · next h => simpa using hdigit '-' (h ▸ List.mem_cons_self)
  · rfl

/-- A number is read back, or is none where it is too wide. -/
theorem parseI32_printInt (n : Int) : parseI32 (printInt n) = if IsI32 n then some n else none := by
  cases n with
  | ofNat n => simp [printInt, parseI32, splitSign_printNat, isDigits_printNat, decimal_printNat]
  | negSucc n =>
    have hval : (-1 : Int) * (n + 1 : Nat) = Int.negSucc n := by omega
    have hsign : splitSign (printInt (Int.negSucc n)) = (-1, printNat (n + 1)) := rfl
    simp only [parseI32, hsign, isDigits_printNat, decimal_printNat, hval, true_and]

/-- The number a word starts with: its leading digits and minus signs. -/
def leadingI32 (s : List Char) : Option Int := parseI32 (s.takeWhile fun c => isAsciiDigit c || c == '-')

/-- A number with a unit behind it. -/
theorem leadingI32_printInt (n : Int) {c : Char} (hc : c.isDigit = false) (hm : c ≠ '-') :
    leadingI32 (printInt n ++ [c]) = if IsI32 n then some n else none := by
  have htake : (printInt n ++ [c]).takeWhile (fun c => isAsciiDigit c || c == '-') = printInt n := by
    rw [List.takeWhile_append_of_pos]
    · simp [isAsciiDigit, hc, hm]
    · intro d hd
      rcases mem_printInt hd with h | rfl
      · simp [isAsciiDigit, h]
      · rfl
  rw [leadingI32, htake, parseI32_printInt]

theorem leadingI32_isI32 {s : List Char} {n : Int} (h : leadingI32 s = some n) : IsI32 n := parseI32_isI32 h

theorem isWhitespace_eq_false_of_isDigit {c : Char} (h : c.isDigit = true) : isWhitespace c = false := by
  simp only [Char.isDigit, Bool.and_eq_true, decide_eq_true_eq, UInt32.le_iff_toNat_le] at h
  have hlo : 48 ≤ c.toNat := h.1
  have hhi : c.toNat ≤ 57 := h.2
  simp only [isWhitespace, Bool.or_eq_false_iff, Bool.and_eq_false_iff, decide_eq_false_iff_not, beq_eq_false_iff_ne]
  omega

/-- A number with a unit behind it is one word. -/
theorem word_printInt (n : Int) {c : Char} (hc : isWhitespace c = false) : Word (printInt n ++ [c]) := by
  refine ⟨by simp, fun d hd => ?_⟩
  rcases List.mem_append.mp hd with hd | hd
  · rcases mem_printInt hd with h | rfl
    · exact isWhitespace_eq_false_of_isDigit h
    · rfl
  · rw [List.mem_singleton.mp hd]
    exact hc

end Text
