import Mathlib.Order.Basic
import Mathlib.Data.Nat.Basic
/-! # PWM units (pwm.rs)

Percent is what the profiles and the caches speak, the raw byte is what a device holds. All four
functions take and return a `u8`; the products stay below `2^16`, so only the final casts truncate.
-/
namespace ControlOfc.Pwm

/-- The bytes. -/
instance byteNeZero : @NeZero Nat Zero.ofOfNat0 256 := ⟨by decide⟩

/-- The 16-bit readings. -/
instance wordNeZero : @NeZero Nat Zero.ofOfNat0 65536 := ⟨by decide⟩

/-- `percent_to_raw` (pwm.rs:7). -/
def percentToRaw (percent : Nat) : Nat := (percent * 255 + 50) / 100 % 256

/-- `exit_duty` (pwm.rs:18). -/
def exitDuty (lastPct : Option Nat) (floorPct : Nat) : Nat :=
  match lastPct with
  | some d => min (max d floorPct) 100
  | none => 100

/-- `raw_to_percent` (pwm.rs:26). -/
def rawToPercent (raw : Nat) : Nat := (raw * 100 + 127) / 255 % 256

/-- `is_full_speed_alias` (pwm.rs:93). -/
def isFullSpeedAlias (requestedPct : Nat) (readbackPct pwmEnable : Option Nat) : Bool :=
  pwmEnable == some 0 && requestedPct == 100 && readbackPct == some 100

theorem exitDuty_le (lastPct : Option Nat) (floorPct : Nat) : exitDuty lastPct floorPct ≤ 100 := by
  cases lastPct with
  | none => exact Nat.le_refl _
  | some d => exact Nat.min_le_right _ _

/-- What an exit floor owes an output: never below the duty it was known to hold, nor below the floor; full
speed where it was written but its duty is not known. -/
def promised (written : Bool) (known : Option Nat) (floorPct : Nat) : Nat :=
  match known with
  | some d => max d floorPct
  | none => if written then 100 else floorPct

/-- The latch is the promise: on percentages `exit_duty` cuts nothing off. -/
theorem promised_of_written {known : Option Nat} {f : Nat} (hk : ∀ d, known = some d → d ≤ 100) (hf : f ≤ 100) :
    promised true known f = exitDuty known f := by
  cases known with
  | none => rfl
  | some d =>
    have hd := hk d rfl
    simp only [promised, exitDuty]
    omega

theorem promised_le {written : Bool} {known : Option Nat} {f : Nat} (hk : ∀ d, known = some d → d ≤ 100)
    (hf : f ≤ 100) : promised written known f ≤ 100 := by
  cases known with
  | none => cases written <;> simp [promised, hf]
  | some d => exact Nat.max_le.mpr ⟨hk d rfl, hf⟩

theorem le_promised {written : Bool} {known : Option Nat} {f : Nat} (hf : f ≤ 100) : f ≤ promised written known f := by
  cases known with
  | none => cases written <;> simp [promised, hf]
  | some d => exact Nat.le_max_right d f

/-- On a percentage the cast to `u8` truncates nothing. -/
theorem percentToRaw_of_le {p : Nat} (hp : p ≤ 100) : percentToRaw p = (p * 255 + 50) / 100 := by
  unfold percentToRaw
  rw [Nat.mod_eq_of_lt]
  omega

/-- Distinct percentages are distinct bytes, so a duty on the device is a duty in percent. -/
theorem percentToRaw_injOn {p q : Nat} (hp : p ≤ 100) (hq : q ≤ 100) (h : percentToRaw p = percentToRaw q) :
    p = q := by
  rw [percentToRaw_of_le hp, percentToRaw_of_le hq] at h
  omega

/-- Reading back what was written gives the percentage that was written. -/
theorem rawToPercent_percentToRaw {p : Nat} (hp : p ≤ 100) : rawToPercent (percentToRaw p) = p := by
  rw [percentToRaw_of_le hp]
  unfold rawToPercent
  rw [Nat.mod_eq_of_lt] <;> omega

end ControlOfc.Pwm
