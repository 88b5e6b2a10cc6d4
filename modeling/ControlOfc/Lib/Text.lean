import Mathlib.Data.List.Infix
/-! # String operations on character lists

The handful of slice operations an identifier parser needs, on `List Char` so that they compute:
substring test, first and last split, prefix removal, decimal numbers and lower-casing.
-/
namespace Text

/-- `s.contains(hint)`. -/
def contains (s hint : List Char) : Bool := decide (hint <:+: s)

/-- `s.strip_prefix(p)`. -/
def stripPrefix (p s : List Char) : Option (List Char) :=
  if p.isPrefixOf s then some (s.drop p.length) else none

/-- `s.split_once(sep)`: around the first occurrence. -/
def splitOnce (sep : List Char) : List Char → Option (List Char × List Char)
  | [] => if sep.isEmpty then some ([], []) else none
  | c :: cs =>
    if sep.isPrefixOf (c :: cs) then some ([], (c :: cs).drop sep.length)
    else (splitOnce sep cs).map fun (a, b) => (c :: a, b)

/-- `s.rsplit_once(c)`: around the last occurrence. -/
def rsplitOnce (c : Char) (s : List Char) : Option (List Char × List Char) :=
  (splitOnce [c] s.reverse).map fun (b, a) => (a.reverse, b.reverse)

/-- `s.split(c).nth(1)`: the text between the first separator and the second. -/
def secondField (c : Char) (s : List Char) : Option (List Char) :=
  (splitOnce [c] s).map fun (_, rest) => ((splitOnce [c] rest).map Prod.fst).getD rest

/-- The lower case of one character, as far as it can yield an ASCII letter: the ASCII capitals, the
Kelvin sign and the dotted capital I. Every other character lower-cases outside ASCII. -/
def lowerChar (c : Char) : List Char :=
  if c = '\u212A' then ['k']
  else if c = '\u0130' then ['i', '\u0307']
  else [c.toLower]

/-- `s.to_lowercase()`. -/
def toLowercase (s : List Char) : List Char := s.flatMap lowerChar

def isAsciiDigit (c : Char) : Bool := c.isDigit

/-- A non-empty run of ASCII digits. -/
def isDigits (s : List Char) : Bool := !s.isEmpty && s.all isAsciiDigit

def decimal (s : List Char) : Nat := s.foldl (fun n c => 10 * n + (c.toNat - '0'.toNat)) 0

/-- `s.parse::<u8>()`: an optional plus sign, then digits, at most 255. -/
def parseU8 (s : List Char) : Option Nat :=
  let digits := match s with
    | '+' :: rest => rest
    | _ => s
  if isDigits digits && decimal digits ≤ 255 then some (decimal digits) else none

/-- The value of a lower-case hexadecimal digit. -/
def hexDigit (c : Char) : Nat :=
  if c.isDigit then c.toNat - '0'.toNat else c.toNat - 'a'.toNat + 10

def hexadecimal (s : List Char) : Nat := s.foldl (fun n c => 16 * n + hexDigit c) 0

/-! ## Hexadecimal numbers, of either case -/

/-- `char::to_digit(16)`. -/
def toHexDigit (c : Char) : Option Nat :=
  if c.isDigit then some (c.toNat - '0'.toNat)
  else if 'a' ≤ c ∧ c ≤ 'f' then some (c.toNat - 'a'.toNat + 10)
  else if 'A' ≤ c ∧ c ≤ 'F' then some (c.toNat - 'A'.toNat + 10)
  else none

/-- `from_str_radix(s, 16)` of an unsigned type with largest value `max`. -/
def parseHex (max : Nat) (s : List Char) : Option Nat :=
  let digits := match s with
    | '+' :: rest => rest
    | _ => s
  if digits.isEmpty then none
  else
    (digits.foldlM (fun n c => (toHexDigit c).map (16 * n + ·)) 0).bind fun n =>
      if n ≤ max then some n else none

/-- `{:02X}` of a byte. -/
def hexByte (n : Nat) : List Char := [hexUpper (n / 16), hexUpper (n % 16)]
where
  hexUpper (d : Nat) : Char := if d < 10 then Char.ofNat ('0'.toNat + d) else Char.ofNat ('A'.toNat + (d - 10))

end Text
