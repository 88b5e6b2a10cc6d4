import Mathlib.Data.Rat.Defs
import Mathlib.Algebra.Order.Ring.Rat
import Mathlib.Tactic.Cases
/-! # Floating-point numbers with exact finite part

A floating-point value is NaN, an infinity or a rational. Comparisons, `max`, `min` and the special
cases of addition and subtraction follow IEEE 754; a finite result is the exact rational, not its
rounding. NaN compares false with everything, so `≤` is transitive but not reflexive.
-/

/-- A floating-point value. -/
inductive Ieee where
  | nan
  | negInf
  | fin (q : ℚ)
  | posInf
  deriving DecidableEq, Repr

namespace Ieee

protected def le : Ieee → Ieee → Bool
  | nan, _ | _, nan => false
  | negInf, _ | _, posInf => true
  | fin p, fin q => decide (p ≤ q)
  | _, _ => false

protected def lt : Ieee → Ieee → Bool
  | nan, _ | _, nan => false
  | fin p, fin q => decide (p < q)
  | negInf, negInf | posInf, posInf => false
  | negInf, _ | _, posInf => true
  | _, _ => false

instance : LE Ieee := ⟨fun a b => a.le b = true⟩
instance : LT Ieee := ⟨fun a b => a.lt b = true⟩
instance (a b : Ieee) : Decidable (a ≤ b) := inferInstanceAs (Decidable (_ = _))
instance (a b : Ieee) : Decidable (a < b) := inferInstanceAs (Decidable (_ = _))

def isFinite : Ieee → Bool
  | fin _ => true
  | _ => false

/-- `fmax`: the other operand when one is NaN. -/
protected def max : Ieee → Ieee → Ieee
  | nan, b => b
  | a, nan => a
  | a, b => if a.le b then b else a

/-- `fmin`: the other operand when one is NaN. -/
protected def min : Ieee → Ieee → Ieee
  | nan, b => b
  | a, nan => a
  | a, b => if a.le b then a else b

protected def neg : Ieee → Ieee
  | nan => nan
  | negInf => posInf
  | fin q => fin (-q)
  | posInf => negInf

protected def add : Ieee → Ieee → Ieee
  | nan, _ | _, nan => nan
  | fin p, fin q => fin (p + q)
  | posInf, negInf | negInf, posInf => nan
  | posInf, _ | _, posInf => posInf
  | negInf, _ | _, negInf => negInf

protected def sub (a b : Ieee) : Ieee := a.add b.neg

instance : Add Ieee := ⟨Ieee.add⟩
instance : Sub Ieee := ⟨Ieee.sub⟩

@[simp] theorem fin_le_fin {p q : ℚ} : fin p ≤ fin q ↔ p ≤ q := decide_eq_true_iff
@[simp] theorem fin_add_fin (p q : ℚ) : fin p + fin q = fin (p + q) := rfl
@[simp] theorem fin_sub_fin (p q : ℚ) : fin p - fin q = fin (p - q) := by
  show fin (p + -q) = fin (p - q)
  rw [sub_eq_add_neg]

attribute [local simp] Ieee.max Ieee.le

theorem le_def {a b : Ieee} : a ≤ b ↔ a.le b = true := Iff.rfl

theorem le_trans' {a b c : Ieee} (hab : a ≤ b) (hbc : b ≤ c) : a ≤ c := by
  rw [le_def] at *
  cases a <;> cases b <;> cases c <;> simp_all only [Ieee.le, decide_eq_true_eq, Bool.false_eq_true]
  exact le_trans hab hbc

/-- A number is at most its maximum with anything, NaN included. -/
theorem fin_le_max_left {q : ℚ} {a : Ieee} (h : fin q ≤ a) (b : Ieee) : fin q ≤ a.max b := by
  cases a with
  | nan => cases h
  | negInf => cases h
  | posInf => cases b <;> exact h
  | fin p =>
    cases b with
    | nan => exact h
    | negInf => exact h
    | posInf => rfl
    | fin r =>
      show fin q ≤ (if (fin p).le (fin r) then fin r else fin p)
      split
      · next hpr => exact le_trans' h hpr
      · exact h

/-! ## The running maximum -/

theorem max_self (a : Ieee) : a.max a = a := by
  cases a <;> simp

/-- The maximum is one of the two. -/
theorem max_cases (a b : Ieee) : a.max b = a ∨ a.max b = b := by
  cases a with
  | nan => exact .inr rfl
  | negInf => cases b <;> simp
  | posInf => cases b <;> simp
  | fin p =>
    cases b with
    | fin q =>
      show (if (fin p).le (fin q) then fin q else fin p) = fin p ∨ _
      by_cases h : (fin p).le (fin q)
      · right
        exact if_pos h
      · left
        exact if_neg h
    | _ => simp

theorem max_eq_right_iff {a b : Ieee} : a.max b = b ↔ a = nan ∨ a ≤ b := by
  rw [le_def]
  cases a with
  | nan => simp
  | negInf => cases b <;> simp
  | posInf => cases b <;> simp
  | fin p =>
    cases b with
    | fin q =>
      simp only [Ieee.max, Ieee.le, decide_eq_true_eq]
      by_cases h : p ≤ q
      · simp [h]
      · simp only [h, if_false, fin.injEq, reduceCtorEq, or_self, iff_false]
        intro hpq
        exact h hpq.le
    | _ => simp

/-- "At most as hot" is transitive, NaN included. -/
theorem max_eq_right_trans {a b c : Ieee} (hab : a.max b = b) (hbc : b.max c = c) : a.max c = c := by
  rw [max_eq_right_iff] at *
  rcases hab with rfl | hab
  · exact .inl rfl
  · rcases hbc with rfl | hbc
    · cases a <;> cases hab
    · exact .inr (le_trans' hab hbc)

theorem max_eq_right_antisymm {a b : Ieee} (hab : a.max b = b) (hba : b.max a = a) : a = b := by
  rw [max_eq_right_iff, le_def] at *
  cases a <;> cases b <;> simp_all only [Ieee.le, decide_eq_true_eq, reduceCtorEq, false_or, Bool.false_eq_true]
  rw [le_antisymm hab hba]

theorem max_max_left (a b : Ieee) : a.max (a.max b) = a.max b := by
  rcases max_cases a b with h | h <;> rw [h]
  · exact max_self a
  · exact h

theorem max_max_right (a b : Ieee) : b.max (a.max b) = a.max b := by
  cases a with
  | nan => exact max_self b
  | negInf => cases b <;> simp
  | posInf => cases b <;> simp
  | fin p =>
    cases b with
    | fin q =>
      show (fin q).max (if (fin p).le (fin q) then fin q else fin p) = if (fin p).le (fin q) then fin q else fin p
      by_cases h : p ≤ q
      · simp [h]
      · simp [h, le_of_not_ge h]
    | _ => simp

end Ieee
