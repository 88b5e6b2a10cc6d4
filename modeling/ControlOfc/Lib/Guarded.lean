import Mathlib.Logic.Basic
/-! # Chains of guards

A request passes a chain of guards, each of which lets it go on or answers it. `Except.Guards x C R`: `x` goes on just
where `C` holds, and answers with nothing but what `R` allows.

* `Except.Guards.bind` — a guard behind another one.
* `Except.Guards.refuses_iff` — where a chain answers.
-/
namespace Except

variable {ε α β : Type} {C D : Prop} {R : ε → Prop}

structure Guards (x : Except ε α) (C : Prop) (R : ε → Prop) : Prop where
  passes : (∃ a, x = .ok a) ↔ C
  answers : ∀ e, x = .error e → R e

namespace Guards

variable {x : Except ε α} {f : α → Except ε β}

theorem refuses_iff (h : x.Guards C R) : (∃ e, x = .error e) ↔ ¬ C := by
  rw [← h.passes]
  cases x with
  | error e => simp
  | ok a => simp

theorem ok (a : α) (hC : C) : (Except.ok a : Except ε α).Guards C R := ⟨iff_of_true ⟨a, rfl⟩ hC, nofun⟩

theorem error {e : ε} (hC : ¬ C) (hR : R e) : (Except.error e : Except ε α).Guards C R where
  passes := iff_of_false nofun hC
  answers := fun _ h => Except.error.inj h ▸ hR

theorem congr (h : x.Guards C R) (hCD : C ↔ D) : x.Guards D R := ⟨h.passes.trans hCD, h.answers⟩

/-- The second guard is asked where the first one lets go on. -/
theorem bind (hx : x.Guards C R) (hf : ∀ a, x = .ok a → (f a).Guards D R) : (x >>= f).Guards (C ∧ D) R := by
  cases x with
  | error e =>
    have hC : ¬ C := hx.refuses_iff.mp ⟨e, rfl⟩
    exact error (fun h => hC h.1) (hx.answers e rfl)
  | ok a =>
    have hC : C := hx.passes.mp ⟨a, rfl⟩
    exact (hf a rfl).congr (by simp [hC])

/-- A condition that is answered where it holds. -/
theorem throwIf {p : Prop} [Decidable p] {e : ε} {rest : Except ε β} (hR : p → R e) (hrest : ¬ p → rest.Guards D R) :
    (if p then Except.error e else rest).Guards (¬ p ∧ D) R := by
  by_cases hp : p
  · rw [if_pos hp]
    exact error (fun h => h.1 hp) (hR hp)
  · rw [if_neg hp]
    exact (hrest hp).congr (by simp [hp])

end Guards

end Except
