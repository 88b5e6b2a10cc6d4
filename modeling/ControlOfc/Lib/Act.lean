import Mathlib.Order.Basic
/-! # Programs with an early exit

A program over a state `σ` ends with a value or leaves early with an `ε`; either way it leaves a state.
The environment is part of the state, so a statement about every state is one about every behaviour.

* `Act.Triple P m Q E` — from `P`, `m` ends in `Q` or leaves in `E`.
* `Act.Within R m` — from any state, `m` ends in a state that `R` relates to it.
-/

/-- A program that may leave early. -/
def Act (σ ε α : Type) : Type := σ → Except ε α × σ

namespace Act

variable {σ ε ε' α β : Type}

protected def pure (a : α) : Act σ ε α := fun s => (.ok a, s)

protected def bind (m : Act σ ε α) (f : α → Act σ ε β) : Act σ ε β := fun s =>
  match m s with
  | (.ok a, s') => f a s'
  | (.error e, s') => (.error e, s')

instance : Monad (Act σ ε) where
  pure := Act.pure
  bind := Act.bind

def leave (e : ε) : Act σ ε α := fun s => (.error e, s)

/-- A step that cannot leave. -/
def lift (f : σ → α × σ) : Act σ ε α := fun s => (.ok (f s).1, (f s).2)

def modify (f : σ → σ) : Act σ ε Unit := fun s => (.ok (), f s)

/-- Runs `m` to an end of any kind, and goes on with what it ended in. -/
def attempt (m : Act σ ε α) : Act σ ε' (Except ε α) := fun s => (.ok (m s).1, (m s).2)

/-- Runs `fin` behind `m`, on whatever way `m` ends, and ends as `m` did. -/
def always (m : Act σ ε α) (fin : Act σ ε β) : Act σ ε α := fun s => ((m s).1, (fin (m s).2).2)

/-! ## Where a program ends -/

def Triple (P : σ → Prop) (m : Act σ ε α) (Q : α → σ → Prop) (E : ε → σ → Prop) : Prop :=
  ∀ s, P s → match m s with
    | (.ok a, s') => Q a s'
    | (.error e, s') => E e s'

namespace Triple

variable {P P' : σ → Prop} {Q Q' : α → σ → Prop} {R : β → σ → Prop} {E E' : ε → σ → Prop}

theorem pure {a : α} (h : ∀ s, P s → Q a s) : Triple P (Pure.pure a : Act σ ε α) Q E := h

theorem leave {e : ε} (h : ∀ s, P s → E e s) : Triple P (Act.leave e : Act σ ε α) Q E := h

theorem modify {f : σ → σ} {Q : Unit → σ → Prop} (h : ∀ s, P s → Q () (f s)) :
    Triple P (Act.modify f : Act σ ε Unit) Q E := h

theorem lift {f : σ → α × σ} (h : ∀ s, P s → Q (f s).1 (f s).2) : Triple P (Act.lift f : Act σ ε α) Q E := h

theorem bind {m : Act σ ε α} {f : α → Act σ ε β} (hm : Triple P m Q E) (hf : ∀ a, Triple (Q a) (f a) R E) :
    Triple P (m >>= f) R E := by
  intro s hs
  have h := hm s hs
  show match Act.bind m f s with | (.ok a, s') => R a s' | (.error e, s') => E e s'
  unfold Act.bind
  rcases hms : m s with ⟨e | a, s'⟩ <;> rw [hms] at h
  · exact h
  · exact hf a s' h

theorem conseq {m : Act σ ε α} (h : Triple P m Q E) (hP : ∀ s, P' s → P s) (hQ : ∀ a s, Q a s → Q' a s)
    (hE : ∀ e s, E e s → E' e s) : Triple P' m Q' E' := by
  intro s hs
  have hm := h s (hP s hs)
  rcases hms : m s with ⟨e | a, s'⟩ <;> rw [hms] at hm
  · exact hE e s' hm
  · exact hQ a s' hm

/-- Where only the state matters. -/
theorem of_state {m : Act σ ε α} {Q : σ → Prop} (h : ∀ s, P s → Q (m s).2) : Triple P m (fun _ => Q) fun _ => Q := by
  intro s hs
  have hm := h s hs
  rcases hms : m s with ⟨e | a, s'⟩ <;> rw [hms] at hm <;> exact hm

theorem attempt {m : Act σ ε' α} {Q : Except ε' α → σ → Prop} (h : Triple P m (fun a => Q (.ok a)) fun e => Q (.error e)) :
    Triple P (Act.attempt m : Act σ ε (Except ε' α)) Q E := by
  intro s hs
  have hm := h s hs
  show Q (m s).1 (m s).2
  rcases hms : m s with ⟨e | a, s'⟩ <;> rw [hms] at hm <;> exact hm

theorem and {m : Act σ ε α} {P₂ : σ → Prop} {Q₂ : α → σ → Prop} {E₂ : ε → σ → Prop} (h : Triple P m Q E)
    (h₂ : Triple P₂ m Q₂ E₂) :
    Triple (fun s => P s ∧ P₂ s) m (fun a s => Q a s ∧ Q₂ a s) fun e s => E e s ∧ E₂ e s := by
  intro s hs
  have hm := h s hs.1
  have hm₂ := h₂ s hs.2
  rcases hms : m s with ⟨e | a, s'⟩ <;> rw [hms] at hm hm₂ <;> exact ⟨hm, hm₂⟩

end Triple

/-! ## What a program may do to the state -/

def Within (R : σ → σ → Prop) (m : Act σ ε α) : Prop := ∀ s, R s (m s).2

namespace Within

variable {R : σ → σ → Prop}

theorem pure (hrefl : ∀ s, R s s) (a : α) : Within R (Pure.pure a : Act σ ε α) := hrefl

theorem leave (hrefl : ∀ s, R s s) (e : ε) : Within R (Act.leave e : Act σ ε α) := hrefl

theorem modify {f : σ → σ} (h : ∀ s, R s (f s)) : Within R (Act.modify f : Act σ ε Unit) := h

theorem lift {f : σ → α × σ} (h : ∀ s, R s (f s).2) : Within R (Act.lift f : Act σ ε α) := h

theorem attempt {m : Act σ ε' α} (h : Within R m) : Within R (Act.attempt m : Act σ ε (Except ε' α)) := h

theorem bind (htrans : ∀ s t u, R s t → R t u → R s u) {m : Act σ ε α} {f : α → Act σ ε β} (hm : Within R m)
    (hf : ∀ a, Within R (f a)) : Within R (m >>= f) := by
  intro s
  have h := hm s
  show R s (Act.bind m f s).2
  unfold Act.bind
  rcases hms : m s with ⟨e | a, s'⟩ <;> rw [hms] at h
  · exact h
  · exact htrans _ _ _ h (hf a s')

/-- What holds before a program that stays within `R`, and survives `R`, holds after it. -/
theorem triple {m : Act σ ε α} (h : Within R m) {P Q : σ → Prop} (hR : ∀ s t, R s t → P s → Q t) :
    Triple P m (fun _ => Q) fun _ => Q := by
  intro s hs
  have hm := hR s _ (h s) hs
  rcases hms : m s with ⟨e | a, s'⟩ <;> rw [hms] at hm <;> exact hm

end Within

end Act
