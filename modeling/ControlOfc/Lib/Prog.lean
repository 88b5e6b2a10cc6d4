import ControlOfc.Lib.Machine
/-! # Programs that ask for one effect at a time

A program is the tree of the effects it asks for, with a branch for each answer, so it can be stopped
between any two of them. A world answers an effect, given what its environment chose for it; between two
effects the rest of the world may move as `env` allows.

* `Prog.Triple` — from `P`, every effect is asked for where `A` allows it, and the end satisfies `Q`.
* `Prog.Safe.run` — and so does the end of each single run.
* `Locked.Inv.step` — tasks that run one at a time behind a lock keep an invariant of the world that each
  allowed effect keeps.
-/

/-- A program over the effects `E`, of which `e` is answered by an `R e`. -/
inductive Prog (E : Type) (R : E → Type) (α : Type) where
  | ret (a : α)
  | eff (e : E) (k : R e → Prog E R α)

namespace Prog

variable {E : Type} {R : E → Type} {α β : Type}

protected def bind : Prog E R α → (α → Prog E R β) → Prog E R β
  | ret a, f => f a
  | eff e k, f => eff e fun r => (k r).bind f

instance : Monad (Prog E R) where
  pure := ret
  bind := Prog.bind

/-- The program that asks for one effect. -/
def ask (e : E) : Prog E R (R e) := eff e ret

/-- One program for each element, in order, until one answers that it failed. -/
def untilFailed (f : β → Prog E R Bool) : List β → Prog E R Bool
  | [] => ret true
  | b :: bs => do if ← f b then untilFailed f bs else return false

/-- One program for each element, in order. -/
def each (f : β → Prog E R α) : List β → Prog E R (List α)
  | [] => ret []
  | b :: bs => do return (← f b) :: (← each f bs)

/-! ## Runs -/

section Triple
variable {σ χ : Type} (exec : (e : E) → χ → σ → R e × σ) (env : σ → σ → Prop) (A : E → σ → Prop)

/-- From `s`, whatever the environment chooses and does between two effects, each effect of the program is
asked for in a state `A` allows it in, and the program ends in `Q`. -/
def Safe (Q : α → σ → Prop) : Prog E R α → σ → Prop
  | ret a, s => Q a s
  | eff e k, s => A e s ∧ ∀ c s', env (exec e c s).2 s' → Safe Q (k (exec e c s).1) s'

def Triple (P : σ → Prop) (p : Prog E R α) (Q : α → σ → Prop) : Prop := ∀ s, P s → Safe exec env A Q p s

/-- One run of a program with nothing moving beside it: what the environment chooses at each effect is given. -/
def run : Prog E R α → (Nat → χ) → σ → α × σ
  | ret a, _, s => (a, s)
  | eff e k, choices, s =>
    run (k (exec e (choices 0) s).1) (fun i => choices (i + 1)) (exec e (choices 0) s).2

variable {exec env A}
variable {P P' : σ → Prop} {Q Q' : α → σ → Prop} {T : β → σ → Prop}

theorem Safe.mono {p : Prog E R α} {s : σ} (h : Safe exec env A Q p s) (hQ : ∀ a s, Q a s → Q' a s) :
    Safe exec env A Q' p s := by
  induction p generalizing s with
  | ret a => exact hQ a s h
  | eff e k ih => exact ⟨h.1, fun c s' hs => ih _ (h.2 c s' hs)⟩

theorem Safe.and {A' : E → σ → Prop} {p : Prog E R α} {s : σ} (h : Safe exec env A Q p s)
    (h' : Safe exec env A' Q' p s) : Safe exec env A (fun a s => Q a s ∧ Q' a s) p s := by
  induction p generalizing s with
  | ret a => exact ⟨h, h'⟩
  | eff e k ih => exact ⟨h.1, fun c s' hs => ih _ (h.2 c s' hs) (h'.2 c s' hs)⟩

theorem Safe.bind {p : Prog E R α} {f : α → Prog E R β} {s : σ}
    (h : Safe exec env A (fun a => Safe exec env A T (f a)) p s) : Safe exec env A T (p >>= f) s := by
  induction p generalizing s with
  | ret a => exact h
  | eff e k ih => exact ⟨h.1, fun c s' hs => ih _ (h.2 c s' hs)⟩

namespace Triple

theorem ret {a : α} (h : ∀ s, P s → Q a s) : Triple exec env A P (Prog.ret a) Q := h

theorem pure {a : α} (h : ∀ s, P s → Q a s) : Triple exec env A P (Pure.pure a : Prog E R α) Q := h

theorem bind {p : Prog E R α} {f : α → Prog E R β} (hp : Triple exec env A P p Q)
    (hf : ∀ a, Triple exec env A (Q a) (f a) T) : Triple exec env A P (p >>= f) T :=
  fun s hs => ((hp s hs).mono hf).bind

theorem conseq {p : Prog E R α} (h : Triple exec env A P p Q) (hP : ∀ s, P' s → P s) (hQ : ∀ a s, Q a s → Q' a s) :
    Triple exec env A P' p Q' := fun s hs => (h s (hP s hs)).mono hQ

theorem ask {e : E} {Q : R e → σ → Prop} (hA : ∀ s, P s → A e s) (hQ : ∀ c s, P s → Q (exec e c s).1 (exec e c s).2)
    (henv : ∀ r s s', env s s' → Q r s → Q r s') : Triple exec env A P (Prog.ask e) Q :=
  fun s hs => ⟨hA s hs, fun c _ he => henv _ _ _ he (hQ c s hs)⟩

/-- A loop that stops at the first failure: what a success keeps, the whole keeps. -/
theorem untilFailed {f : β → Prog E R Bool} {F : σ → Prop} {I : List β → σ → Prop} (bs : List β)
    (hf : ∀ b bs, Triple exec env A (I (b :: bs)) (f b) fun ok s => if ok then I bs s else F s) :
    Triple exec env A (I bs) (Prog.untilFailed f bs) fun ok s => if ok then I [] s else F s := by
  induction bs with
  | nil => exact ret fun s hs => by simpa using hs
  | cons b bs ih =>
    refine bind (hf b bs) fun ok => ?_
    cases ok with
    | true => simpa using ih
    | false => exact pure fun s hs => by simpa using hs

/-- A loop through the whole list: an invariant each pass keeps. -/
theorem each {f : β → Prog E R α} {I : σ → Prop} {bs : List β} (hf : ∀ b ∈ bs, Triple exec env A I (f b) fun _ => I) :
    Triple exec env A I (Prog.each f bs) fun _ => I := by
  induction bs with
  | nil => exact ret fun _ hs => hs
  | cons b bs ih =>
    refine bind (hf b List.mem_cons_self) fun a => bind (ih fun b hb => hf b (List.mem_cons_of_mem _ hb)) fun as => ?_
    exact pure fun _ hs => hs

/-- A loop through the whole list: what a pass establishes for its element, and no later pass undoes. -/
theorem each_forall {f : β → Prog E R α} {I : σ → Prop} {G : β → σ → Prop} (bs : List β) (done : List β)
    (hf : ∀ b ∈ bs, ∀ done, Triple exec env A (fun s => I s ∧ ∀ b' ∈ done, G b' s) (f b) fun _ s =>
      I s ∧ ∀ b' ∈ b :: done, G b' s) :
    Triple exec env A (fun s => I s ∧ ∀ b' ∈ done, G b' s) (Prog.each f bs) fun _ s =>
      I s ∧ (∀ b ∈ bs, G b s) ∧ ∀ b' ∈ done, G b' s := by
  induction bs generalizing done with
  | nil => exact ret fun _ hs => ⟨hs.1, by simp, hs.2⟩
  | cons b bs ih =>
    refine bind (hf b List.mem_cons_self done) fun a =>
      bind (ih (b :: done) fun b hb => hf b (List.mem_cons_of_mem _ hb)) fun as => pure fun s hs => ?_
    obtain ⟨hI, hbs, hdone⟩ := hs
    simp only [List.mem_cons, forall_eq_or_imp] at hdone ⊢
    exact ⟨hI, ⟨hdone.1, hbs⟩, hdone.2⟩

end Triple

/-- A program that is safe ends every run where it should. -/
theorem Safe.run {p : Prog E R α} {s : σ} (h : Safe exec (· = ·) A Q p s) (choices : Nat → χ) :
    Q (Prog.run exec p choices s).1 (Prog.run exec p choices s).2 := by
  induction p generalizing s choices with
  | ret a => exact h
  | eff e k ih => exact ih _ (h.2 (choices 0) _ rfl) _

end Triple

end Prog

/-! ## Tasks behind a lock -/

/-- The world, and the task that holds the lock: which one, and what it has left to do. -/
structure Locked (σ J E : Type) (R : E → Type) (α : Type) where
  world : σ
  running : Option (J × Prog E R α)

namespace Locked
open Prog

/-- How a system of tasks works: what a task does once it has the lock, what its end leaves, and what
happens beside it. -/
structure Rules (σ J E : Type) (R : E → Type) (α μ χ : Type) where
  exec : (e : E) → χ → σ → R e × σ
  /-- The program of a task that can take the lock now, and the world it starts in. -/
  start : J → σ → Option (Prog E R α × σ)
  finish : J → α → σ → σ
  move : μ → σ → σ
  /-- A task dies between two effects. -/
  died : J → σ → σ

inductive Move (J μ χ : Type) where
  | start (j : J)
  | eff (c : χ)
  | finish
  | move (m : μ)
  | die

variable {σ J E α μ χ : Type} {R : E → Type}

/-- A move that cannot happen changes nothing. -/
def step (rules : Rules σ J E R α μ χ) (l : Locked σ J E R α) : Move J μ χ → Locked σ J E R α
  | .start j =>
    match l.running, rules.start j l.world with
    | none, some (p, w) => ⟨w, some (j, p)⟩
    | _, _ => l
  | .eff c =>
    match l.running with
    | some (j, .eff e k) => ⟨(rules.exec e c l.world).2, some (j, k (rules.exec e c l.world).1)⟩
    | _ => l
  | .finish =>
    match l.running with
    | some (j, .ret a) => ⟨rules.finish j a l.world, none⟩
    | _ => l
  | .move m => ⟨rules.move m l.world, l.running⟩
  | .die =>
    match l.running with
    | some (j, _) => ⟨rules.died j l.world, none⟩
    | none => l

/-- The invariant `I` of the world, `K` beside it while no task runs, and that the running task is safe
wherever the rest moves the world to. -/
structure Inv (rules : Rules σ J E R α μ χ) (env : σ → σ → Prop) (I K : σ → Prop) (A : J → E → σ → Prop)
    (Q : J → α → σ → Prop) (l : Locked σ J E R α) : Prop where
  world : I l.world
  idle : l.running = none → K l.world
  task : ∀ j p, l.running = some (j, p) → ∀ w, env l.world w → Safe rules.exec env (A j) (Q j) p w

/-- What is to be shown of the rules. -/
structure Sound (rules : Rules σ J E R α μ χ) (env : σ → σ → Prop) (I K : σ → Prop) (A : J → E → σ → Prop)
    (Q : J → α → σ → Prop) : Prop where
  refl : ∀ w, env w w
  trans : ∀ u v w, env u v → env v w → env u w
  start : ∀ j w p w', rules.start j w = some (p, w') → I w → K w →
    I w' ∧ ∀ v, env w' v → Safe rules.exec env (A j) (Q j) p v
  exec : ∀ j e c w, I w → A j e w → I (rules.exec e c w).2
  finish : ∀ j a w, I w → Q j a w → I (rules.finish j a w) ∧ K (rules.finish j a w)
  move : ∀ m w, I w → env w (rules.move m w) ∧ I (rules.move m w)
  moveIdle : ∀ m w, K w → K (rules.move m w)

variable {rules : Rules σ J E R α μ χ} {env : σ → σ → Prop} {I K : σ → Prop} {A : J → E → σ → Prop}
  {Q : J → α → σ → Prop}

/-- Where a step may take the world. -/
theorem step_world (rules : Rules σ J E R α μ χ) (l : Locked σ J E R α) (m : Move J μ χ) :
    (step rules l m).world = l.world ∨ (∃ j p, m = .start j ∧ rules.start j l.world = some (p, (step rules l m).world)) ∨
      (∃ c e, m = .eff c ∧ (step rules l m).world = (rules.exec e c l.world).2) ∨
      (∃ j a, m = .finish ∧ (step rules l m).world = rules.finish j a l.world) ∨
      (∃ mv, m = .move mv ∧ (step rules l m).world = rules.move mv l.world) ∨
      ∃ j, m = .die ∧ (step rules l m).world = rules.died j l.world := by
  cases m with
  | start j =>
    unfold Locked.step
    dsimp only
    split
    · next p w hr hst => exact .inr (.inl ⟨j, p, rfl, hst⟩)
    · exact .inl rfl
  | eff c =>
    unfold Locked.step
    dsimp only
    split
    · next j e k hr => exact .inr (.inr (.inl ⟨c, e, rfl, rfl⟩))
    · exact .inl rfl
  | finish =>
    unfold Locked.step
    dsimp only
    split
    · next j a hr => exact .inr (.inr (.inr (.inl ⟨j, a, rfl, rfl⟩)))
    · exact .inl rfl
  | move mv => exact .inr (.inr (.inr (.inr (.inl ⟨mv, rfl, rfl⟩))))
  | die =>
    unfold Locked.step
    dsimp only
    split
    · next j p hr => exact .inr (.inr (.inr (.inr (.inr ⟨j, rfl, rfl⟩))))
    · exact .inl rfl

/-- Where the running task stands, its next effect is allowed. -/
theorem Inv.allowed {l : Locked σ J E R α} (hs : Sound rules env I K A Q) (h : Inv rules env I K A Q l) {j : J} {e : E}
    {k : R e → Prog E R α} (hr : l.running = some (j, .eff e k)) : A j e l.world :=
  (h.task j _ hr _ (hs.refl _)).1

theorem Inv.step {l : Locked σ J E R α} (hs : Sound rules env I K A Q) (h : Inv rules env I K A Q l)
    (m : Move J μ χ) (hdied : m = .die → ∀ j w, I w → I (rules.died j w) ∧ K (rules.died j w)) :
    Inv rules env I K A Q (step rules l m) := by
  cases m with
  | start j =>
    unfold Locked.step
    dsimp only
    split
    · rename_i p w hr hst
      obtain ⟨hI, hsafe⟩ := hs.start j _ p w hst h.world (h.idle hr)
      refine ⟨hI, (by intro hn; cases hn), fun j' p' hr' v hv => ?_⟩
      obtain ⟨rfl, rfl⟩ := Prod.mk.inj (Option.some.inj hr')
      exact hsafe v hv
    · exact h
  | eff c =>
    unfold Locked.step
    dsimp only
    split
    · rename_i j e k hr
      have hsafe := h.task j _ hr _ (hs.refl _)
      refine ⟨hs.exec j e c _ h.world hsafe.1, (by intro hn; cases hn), fun j' p' hr' v hv => ?_⟩
      obtain ⟨rfl, rfl⟩ := Prod.mk.inj (Option.some.inj hr')
      exact hsafe.2 c v hv
    · exact h
  | finish =>
    unfold Locked.step
    dsimp only
    split
    · rename_i j a hr
      obtain ⟨hI, hK⟩ := hs.finish j a _ h.world (h.task j _ hr _ (hs.refl _))
      exact ⟨hI, fun _ => hK, by intro j' p' hr'; cases hr'⟩
    · exact h
  | move m =>
    obtain ⟨henv, hI⟩ := hs.move m _ h.world
    exact ⟨hI, fun hn => hs.moveIdle m _ (h.idle hn), fun j p hr v hv => h.task j p hr v (hs.trans _ _ _ henv hv)⟩
  | die =>
    unfold Locked.step
    dsimp only
    split
    · rename_i j p hr
      obtain ⟨hI, hK⟩ := hdied rfl j _ h.world
      exact ⟨hI, fun _ => hK, by intro j' p' hr'; cases hr'⟩
    · exact h

end Locked
