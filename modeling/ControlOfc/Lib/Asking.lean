import ControlOfc.Lib.Act
import ControlOfc.Lib.History
/-! # Programs that ask their surroundings

Such a program keeps variables of its own and puts questions to its surroundings, which answer from all that
was said before. The transcript keeps every question with its answer; a statement about every environment is
one about every sequence of answers.

* `Act.wp` — what has to hold for a program to end in `Q` or leave in `E`.
* `Asking.Triple.ask` — a rule for one question: every answer has to be met.
* `Asking.Says` — what a program says on its own, composed piece by piece.
* `Act.iterate` — a loop of which nothing bounds the number of passes, cut after `fuel` of them.
-/

namespace Act

variable {σ ε α β γ : Type}

/-- From `s`, `m` ends in `Q` or leaves in `E`. -/
def wp (m : Act σ ε α) (Q : α → σ → Prop) (E : ε → σ → Prop) (s : σ) : Prop :=
  match m s with
  | (.ok a, s') => Q a s'
  | (.error e, s') => E e s'

variable {m : Act σ ε α} {Q Q' : α → σ → Prop} {R : β → σ → Prop} {E E' : ε → σ → Prop} {P : σ → Prop} {s : σ}

theorem triple_iff {m : Act σ ε α} : Triple P m Q E ↔ ∀ s, P s → m.wp Q E s := Iff.rfl

@[simp] theorem wp_pure {a : α} : wp (Pure.pure a : Act σ ε α) Q E s ↔ Q a s := Iff.rfl

@[simp] theorem wp_leave {e : ε} : wp (leave e : Act σ ε α) Q E s ↔ E e s := Iff.rfl

@[simp] theorem wp_modify {f : σ → σ} {Q : Unit → σ → Prop} : wp (modify f : Act σ ε Unit) Q E s ↔ Q () (f s) := Iff.rfl

@[simp] theorem wp_lift {f : σ → α × σ} : wp (lift f : Act σ ε α) Q E s ↔ Q (f s).1 (f s).2 := Iff.rfl

@[simp] theorem wp_bind {m : Act σ ε α} {f : α → Act σ ε β} :
    wp (m >>= f) R E s ↔ m.wp (fun a => (f a).wp R E) E s := by
  show (match Act.bind m f s with | (.ok a, s') => R a s' | (.error e, s') => E e s') ↔ _
  unfold Act.bind wp
  rcases m s with ⟨e | a, s'⟩ <;> rfl

theorem wp.mono {m : Act σ ε α} (h : m.wp Q E s) (hQ : ∀ a s, Q a s → Q' a s) (hE : ∀ e s, E e s → E' e s) :
    m.wp Q' E' s := by
  unfold wp at h ⊢
  rcases hm : m s with ⟨e | a, s'⟩ <;> rw [hm] at h
  · exact hE e s' h
  · exact hQ a s' h

theorem Triple.wp {m : Act σ ε α} (h : Triple P m Q E) (hs : P s) (hQ : ∀ a s, Q a s → Q' a s)
    (hE : ∀ e s, E e s → E' e s) : m.wp Q' E' s := wp.mono (h s hs) hQ hE

/-- Where only the state matters. -/
theorem wp_state : m.wp (fun _ => P) (fun _ => P) s ↔ P (m s).2 := by
  unfold wp
  rcases m s with ⟨e | a, s'⟩ <;> rfl

theorem within_iff {R : σ → σ → Prop} : Within R m ↔ ∀ s, m.wp (fun _ => R s) (fun _ => R s) s :=
  forall_congr' fun _ => wp_state.symm

theorem wp.within {R : σ → σ → Prop} (h : m.wp Q E s) (hR : Within R m) :
    m.wp (fun a s' => Q a s' ∧ R s s') (fun e s' => E e s' ∧ R s s') s := by
  have hs := hR s
  unfold wp at h ⊢
  rcases hm : m s with ⟨e | a, s'⟩ <;> rw [hm] at h hs <;> exact ⟨h, hs⟩

theorem wp.and {m : Act σ ε α} (h : m.wp Q E s) (h' : m.wp Q' E' s) :
    m.wp (fun a t => Q a t ∧ Q' a t) (fun e t => E e t ∧ E' e t) s := by
  unfold wp at h h' ⊢
  rcases hm : m s with ⟨e | a, s'⟩ <;> rw [hm] at h h' <;> exact ⟨h, h'⟩

theorem wp_attempt {ε' : Type} {Q : Except ε α → σ → Prop} {E : ε' → σ → Prop} :
    (attempt m : Act σ ε' (Except ε α)).wp Q E s ↔ m.wp (fun a => Q (.ok a)) (fun e => Q (.error e)) s := by
  unfold wp attempt
  rcases m s with ⟨e | a, s'⟩ <;> rfl

/-- A loop: each pass goes on with another value, or ends. -/
def iterate (out : ε) (body : β → Act σ ε (β ⊕ α)) : Nat → β → Act σ ε α
  | 0, _ => leave out
  | fuel + 1, b => body b >>= Sum.elim (iterate out body fuel) pure

/-- What each pass keeps until it ends in `Q`, the loop ends in. -/
theorem Triple.iterate {out : ε} {body : β → Act σ ε (β ⊕ α)} {I : β → σ → Prop}
    (hbody : ∀ b, Triple (I b) (body b) (Sum.elim I Q) E) (hout : ∀ b s, I b s → E out s) (fuel : Nat) (b : β) :
    Triple (I b) (Act.iterate out body fuel b) Q E := by
  induction fuel generalizing b with
  | zero => exact leave (hout b)
  | succ fuel ih =>
    refine (hbody b).bind fun r => ?_
    cases r with
    | inl b => exact ih b
    | inr a => exact pure fun _ hs => hs

end Act

/-- The surroundings, what was said so far, and the variables of the program. -/
structure Asking (Q : Type) (A : Q → Type) (σ : Type) where
  env : List (Σ q, A q) → (q : Q) → A q
  said : List (Σ q, A q)
  mem : σ

namespace Asking

variable {Q : Type} {A : Q → Type} {σ ε α : Type}

/-- The question was answered. -/
def note (s : Asking Q A σ) (q : Q) (a : A q) : Asking Q A σ := { s with said := s.said ++ [⟨q, a⟩] }

@[simp] theorem note_said (s : Asking Q A σ) (q : Q) (a : A q) : (s.note q a).said = s.said ++ [⟨q, a⟩] := rfl

@[simp] theorem note_mem (s : Asking Q A σ) (q : Q) (a : A q) : (s.note q a).mem = s.mem := rfl

def ask (q : Q) : Act (Asking Q A σ) ε (A q) := .lift fun s => (s.env s.said q, s.note q (s.env s.said q))

def get : Act (Asking Q A σ) ε σ := .lift fun s => (s.mem, s)

def modify (f : σ → σ) : Act (Asking Q A σ) ε Unit := .modify fun s => { s with mem := f s.mem }

variable {P : Asking Q A σ → Prop} {E : ε → Asking Q A σ → Prop} {s : Asking Q A σ}

theorem wp_ask {q : Q} {T : A q → Asking Q A σ → Prop} (h : ∀ a, T a (s.note q a)) : (ask q).wp T E s := h _

theorem wp_ask_iff {q : Q} {T : A q → Asking Q A σ → Prop} :
    (ask q).wp T E s ↔ T (s.env s.said q) (s.note q (s.env s.said q)) := Iff.rfl

/-- One step of a symbolic execution: a question, whatever it is answered. -/
theorem wp_askBind {β : Type} {q : Q} {f : A q → Act (Asking Q A σ) ε β} {T : β → Asking Q A σ → Prop}
    (h : ∀ a, (f a).wp T E (s.note q a)) : (ask q >>= f).wp T E s := Act.wp_bind.mpr (wp_ask h)

@[simp] theorem wp_get {T : σ → Asking Q A σ → Prop} : (get : Act (Asking Q A σ) ε σ).wp T E s ↔ T s.mem s := Iff.rfl

@[simp] theorem wp_modify {f : σ → σ} {T : Unit → Asking Q A σ → Prop} :
    (modify f : Act (Asking Q A σ) ε Unit).wp T E s ↔ T () { s with mem := f s.mem } := Iff.rfl

theorem Triple.ask {q : Q} {T : A q → Asking Q A σ → Prop} (h : ∀ s a, P s → T a (s.note q a)) :
    Act.Triple P (ask q) T E := fun s hs => h s _ hs

theorem Triple.get {T : σ → Asking Q A σ → Prop} (h : ∀ s, P s → T s.mem s) : Act.Triple P get T E := h

theorem Triple.modify {f : σ → σ} {T : Unit → Asking Q A σ → Prop} (h : ∀ s, P s → T () { s with mem := f s.mem }) :
    Act.Triple P (modify f) T E := h

/-! ## What a program says -/

/-- `m` says a transcript of its own and ends with a result, as `R` relates the two. -/
def Says (m : Act (Asking Q A σ) ε α) (R : Except ε α → List (Σ q, A q) → Prop) : Prop :=
  ∀ s, ∃ t, (m s).2 = { s with said := s.said ++ t } ∧ R (m s).1 t

namespace Says

variable {β : Type} {m : Act (Asking Q A σ) ε α} {f : α → Act (Asking Q A σ) ε β}
  {R R' : Except ε α → List (Σ q, A q) → Prop} {T : α → Except ε β → List (Σ q, A q) → Prop}

theorem mono (h : Says m R) (hR : ∀ r t, R r t → R' r t) : Says m R' := fun s =>
  let ⟨t, ht, hr⟩ := h s
  ⟨t, ht, hR _ t hr⟩

theorem pure {a : α} (h : R (.ok a) []) : Says (Pure.pure a : Act (Asking Q A σ) ε α) R := fun s =>
  ⟨[], by rw [List.append_nil]; rfl, h⟩

theorem leave {e : ε} (h : R (.error e) []) : Says (Act.leave e : Act (Asking Q A σ) ε α) R := fun s =>
  ⟨[], by rw [List.append_nil]; rfl, h⟩

theorem ask {q : Q} {R : Except ε (A q) → List (Σ q, A q) → Prop} (h : ∀ a, R (.ok a) [⟨q, a⟩]) :
    Says (Asking.ask q : Act (Asking Q A σ) ε (A q)) R := fun s => ⟨[⟨q, s.env s.said q⟩], rfl, h _⟩

theorem bind (hm : Says m R) (hf : ∀ a, Says (f a) (T a)) : Says (m >>= f) fun r t =>
    (∃ e, r = .error e ∧ R (.error e) t) ∨ ∃ a t₁ t₂, t = t₁ ++ t₂ ∧ R (.ok a) t₁ ∧ T a r t₂ := by
  intro s
  obtain ⟨t₁, ht₁, hr₁⟩ := hm s
  have hbind : (m >>= f) s = Act.bind m f s := rfl
  rw [hbind]
  unfold Act.bind
  rcases hms : m s with ⟨e | a, s'⟩ <;> rw [hms] at ht₁ hr₁
  · exact ⟨t₁, ht₁, Or.inl ⟨e, rfl, hr₁⟩⟩
  · obtain ⟨t₂, ht₂, hr₂⟩ := hf a s'
    dsimp only at ht₁
    refine ⟨t₁ ++ t₂, ?_, Or.inr ⟨a, t₁, t₂, rfl, hr₁, hr₂⟩⟩
    rw [ht₂, ht₁, List.append_assoc]

theorem always {fin : Act (Asking Q A σ) ε β} {F : Except ε β → List (Σ q, A q) → Prop} (hm : Says m R)
    (hfin : Says fin F) : Says (m.always fin) fun r t => ∃ r' t₁ t₂, t = t₁ ++ t₂ ∧ R r t₁ ∧ F r' t₂ := by
  intro s
  obtain ⟨t₁, ht₁, hr₁⟩ := hm s
  obtain ⟨t₂, ht₂, hr₂⟩ := hfin (m s).2
  refine ⟨t₁ ++ t₂, ?_, _, t₁, t₂, rfl, hr₁, hr₂⟩
  show (fin (m s).2).2 = _
  rw [ht₂, ht₁, List.append_assoc]

end Says

end Asking
