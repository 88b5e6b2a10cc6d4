import ControlOfc.Lib.Ieee
import Mathlib.Algebra.Order.Floor.Ring
import Mathlib.Data.Rat.Floor
/-! # Numbers with a fixed number of decimals

What a formatter prints of a number for `{:.0}` and `{:.1}`: the nearest one of that many decimals, a half to the
even one. Numbers below zero are not printed with decimals.
-/
namespace Text

/-- To the nearest integer, a half to the even one. -/
def roundHalfEven (q : ℚ) : Int :=
  let down := ⌊q⌋
  let rest := q - down
  if rest < 1 / 2 ∨ rest = 1 / 2 ∧ down % 2 = 0 then down else down + 1

/-- `{:.0}`. -/
def fixed0 (q : ℚ) : String := toString (roundHalfEven q)

/-- `{:.1}`. -/
def fixed1 (q : ℚ) : String :=
  let tenths := roundHalfEven (q * 10)
  s!"{tenths / 10}.{tenths % 10}"

/-- `{:.1}` of a floating-point number. -/
def ieeeFixed1 : Ieee → String
  | .nan => "NaN"
  | .negInf => "-inf"
  | .fin q => fixed1 q
  | .posInf => "inf"

end Text
