import Mathlib.Data.List.Basic
import Mathlib.Order.Basic
/-! # Runs of a deterministic machine

A machine is a function `step : σ → ε → σ`; everything its environment may choose (which call
comes next, how long the clock ran, whether a write landed) is part of the event `ε`, so a run is
the fold of `step` over a list of events and "for every interleaving" is "for every list".

* `run_inv` — an invariant every step keeps holds after every run.
* `run_inv_of` — the same where a step keeps it only under a guard that holds `Along` the run.
* `along_of_inv` — an invariant that implies a guard puts the guard `Along` the run.
* `forall_mem_trace` — what holds of every answer under an invariant holds of the trace.
* `exists_run_of_matched` — a machine that can answer each move of another with the same visible part
  can answer each run.
-/
namespace Machine

variable {σ ε ω : Type*}

/-- The state a run ends in. -/
def run (step : σ → ε → σ) (s : σ) (es : List ε) : σ := es.foldl step s

@[simp] theorem run_nil (step : σ → ε → σ) (s : σ) : run step s [] = s := rfl

@[simp] theorem run_cons (step : σ → ε → σ) (s : σ) (e : ε) (es : List ε) :
    run step s (e :: es) = run step (step s e) es := rfl

@[simp] theorem run_append (step : σ → ε → σ) (s : σ) (es es' : List ε) :
    run step s (es ++ es') = run step (run step s es) es' := List.foldl_append

/-- What each step of a run answers, in order. -/
def trace (step : σ → ε → σ) (out : σ → ε → ω) : σ → List ε → List ω
  | _, [] => []
  | s, e :: es => out s e :: trace step out (step s e) es

@[simp] theorem trace_nil (step : σ → ε → σ) (out : σ → ε → ω) (s : σ) : trace step out s [] = [] := rfl

@[simp] theorem trace_cons (step : σ → ε → σ) (out : σ → ε → ω) (s : σ) (e : ε) (es : List ε) :
    trace step out s (e :: es) = out s e :: trace step out (step s e) es := rfl

@[simp] theorem trace_append (step : σ → ε → σ) (out : σ → ε → ω) :
    ∀ (s : σ) (es es' : List ε),
      trace step out s (es ++ es') = trace step out s es ++ trace step out (run step s es) es'
  | _, [], _ => rfl
  | s, e :: es, es' => by simp [trace_append step out (step s e) es es']

@[simp] theorem trace_length (step : σ → ε → σ) (out : σ → ε → ω) :
    ∀ (s : σ) (es : List ε), (trace step out s es).length = es.length
  | _, [] => rfl
  | s, e :: es => by simp [trace_length step out (step s e) es]

theorem mem_trace {step : σ → ε → σ} {out : σ → ε → ω} {s : σ} {es : List ε} {w : ω} (h : w ∈ trace step out s es) :
    ∃ s', ∃ e ∈ es, w = out s' e := by
  induction es generalizing s with
  | nil => cases h
  | cons e es ih =>
    rcases List.mem_cons.mp h with rfl | h
    · exact ⟨s, e, List.mem_cons_self, rfl⟩
    · obtain ⟨s', e', he', rfl⟩ := ih h
      exact ⟨s', e', List.mem_cons_of_mem _ he', rfl⟩

/-- What a run answers, one of its steps answers. -/
theorem mem_trace_run {step : σ → ε → σ} {out : σ → ε → ω} {s : σ} {es : List ε} {w : ω} (h : w ∈ trace step out s es) :
    ∃ pre e post, es = pre ++ e :: post ∧ w = out (run step s pre) e := by
  induction es generalizing s with
  | nil => cases h
  | cons e es ih =>
    rcases List.mem_cons.mp h with rfl | h
    · exact ⟨[], e, es, rfl, rfl⟩
    · obtain ⟨pre, e', post, rfl, rfl⟩ := ih h
      exact ⟨e :: pre, e', post, rfl, rfl⟩

/-- Every step of the run is taken in a state and on an event that `G` relates. -/
def Along (step : σ → ε → σ) (G : σ → ε → Prop) : σ → List ε → Prop
  | _, [] => True
  | s, e :: es => G s e ∧ Along step G (step s e) es

@[simp] theorem along_nil (step : σ → ε → σ) (G : σ → ε → Prop) (s : σ) : Along step G s [] := trivial

@[simp] theorem along_cons (step : σ → ε → σ) (G : σ → ε → Prop) (s : σ) (e : ε) (es : List ε) :
    Along step G s (e :: es) ↔ G s e ∧ Along step G (step s e) es := Iff.rfl

theorem along_append (step : σ → ε → σ) (G : σ → ε → Prop) :
    ∀ (s : σ) (es es' : List ε),
      Along step G s (es ++ es') ↔ Along step G s es ∧ Along step G (run step s es) es'
  | _, [], _ => by simp
  | s, e :: es, es' => by simp [along_append step G (step s e) es es', and_assoc]

theorem along_congr {step : σ → ε → σ} {G G' : σ → ε → Prop} (h : ∀ s e, G s e ↔ G' s e) (s : σ) (es : List ε) :
    Along step G s es ↔ Along step G' s es := by
  induction es generalizing s with
  | nil => rfl
  | cons e es ih => rw [along_cons, along_cons, h, ih]

/-- The same where the two guards agree only under an invariant. -/
theorem along_congr_of_inv {step : σ → ε → σ} {G G' : σ → ε → Prop} {I : σ → Prop} (hI : ∀ s e, I s → I (step s e))
    (h : ∀ s e, I s → (G s e ↔ G' s e)) (s : σ) (hs : I s) (es : List ε) : Along step G s es ↔ Along step G' s es := by
  induction es generalizing s with
  | nil => rfl
  | cons e es ih => rw [along_cons, along_cons, h s e hs, ih _ (hI s e hs)]

instance Along.decidable (step : σ → ε → σ) (G : σ → ε → Prop) [∀ s e, Decidable (G s e)] :
    ∀ (s : σ) (es : List ε), Decidable (Along step G s es)
  | _, [] => isTrue trivial
  | s, e :: es =>
    have := Along.decidable step G (step s e) es
    inferInstanceAs (Decidable (G s e ∧ Along step G (step s e) es))

/-- A property of each event and its answer is a condition along the run. -/
theorem forall_trace_iff (step : σ → ε → σ) (out : σ → ε → ω) (R : ε → ω → Prop) (s : σ) (es : List ε) :
    (∀ (k : Nat) (e : ε) (w : ω), es[k]? = some e → (trace step out s es)[k]? = some w → R e w) ↔
      Along step (fun s e => R e (out s e)) s es := by
  induction es generalizing s with
  | nil => simp
  | cons e es ih =>
    rw [along_cons, ← ih]
    constructor
    · intro h
      exact ⟨h 0 e (out s e) rfl rfl, fun k => h (k + 1)⟩
    · rintro ⟨h0, h⟩ k e' w he hw
      cases k with
      | zero =>
        obtain rfl := Option.some.inj he
        obtain rfl := Option.some.inj hw
        exact h0
      | succ k => exact h k e' w he hw

/-! ## Induction rules -/

/-- A guarded invariant: `I` survives each step the guard `G` covers. -/
theorem run_inv_of {step : σ → ε → σ} {G : σ → ε → Prop} {I : σ → Prop}
    (h : ∀ s e, I s → G s e → I (step s e)) :
    ∀ (s : σ) (es : List ε), I s → Along step G s es → I (run step s es)
  | _, [], hs, _ => hs
  | s, e :: es, hs, hG => run_inv_of h (step s e) es (h s e hs hG.1) hG.2

/-- An invariant that implies a guard and survives each step puts the guard along the run. -/
theorem along_of_inv {step : σ → ε → σ} {G : σ → ε → Prop} {I : σ → Prop} {es : List ε}
    (h : ∀ s, ∀ e ∈ es, I s → G s e ∧ I (step s e)) (s : σ) (hs : I s) :
    Along step G s es ∧ I (run step s es) := by
  induction es generalizing s with
  | nil => exact ⟨trivial, hs⟩
  | cons e es ih =>
    obtain ⟨hG, hI⟩ := h s e List.mem_cons_self hs
    obtain ⟨hG', hI'⟩ := ih (fun s e he => h s e (List.mem_cons_of_mem _ he)) _ hI
    exact ⟨⟨hG, hG'⟩, hI'⟩

/-- A guard along the run that keeps an invariant, and under it implies another guard, puts that one along. -/
theorem along_of_along {step : σ → ε → σ} {G G' : σ → ε → Prop} {I : σ → Prop} {es : List ε}
    (h : ∀ s, ∀ e ∈ es, I s → G s e → G' s e ∧ I (step s e)) (s : σ) (hs : I s) (hG : Along step G s es) :
    Along step G' s es := by
  induction es generalizing s with
  | nil => trivial
  | cons e es ih =>
    obtain ⟨hG', hI⟩ := h s e List.mem_cons_self hs hG.1
    exact ⟨hG', ih (fun s e he => h s e (List.mem_cons_of_mem _ he)) _ hI hG.2⟩

theorem run_inv {step : σ → ε → σ} {I : σ → Prop} (h : ∀ s e, I s → I (step s e))
    (s : σ) (es : List ε) (hs : I s) : I (run step s es) := by
  induction es generalizing s with
  | nil => exact hs
  | cons e es ih => exact ih (step s e) (h s e hs)

/-- Under an invariant, what a run answers satisfies what each of its steps answers. -/
theorem forall_mem_trace {step : σ → ε → σ} {out : σ → ε → ω} {I : σ → Prop} {Q : ω → Prop} {es : List ε}
    (h : ∀ s, ∀ e ∈ es, I s → Q (out s e) ∧ I (step s e)) (s : σ) (hs : I s) : ∀ w ∈ trace step out s es, Q w := by
  induction es generalizing s with
  | nil => nofun
  | cons e es ih =>
    obtain ⟨hQ, hI⟩ := h s e List.mem_cons_self hs
    intro w hw
    rcases List.mem_cons.mp hw with rfl | hw
    · exact hQ
    · exact ih (fun s e he => h s e (List.mem_cons_of_mem _ he)) _ hI w hw

/-! ## Two machines under one environment

A move is the environment's (`inl`) or one of the machine's own (`inr`). -/

/-- What of a run its environment did. -/
def visible {α τ : Type*} (ms : List (α ⊕ τ)) : List α := ms.filterMap Sum.getLeft?

section Visible
variable {α τ : Type*}

@[simp] theorem visible_nil : visible ([] : List (α ⊕ τ)) = [] := rfl

@[simp] theorem visible_inl (a : α) (ms : List (α ⊕ τ)) : visible (.inl a :: ms) = a :: visible ms := rfl

@[simp] theorem visible_inr (t : τ) (ms : List (α ⊕ τ)) : visible (.inr t :: ms) = visible ms := rfl

theorem visible_cons (m : α ⊕ τ) (ms : List (α ⊕ τ)) : visible (m :: ms) = visible [m] ++ visible ms := by
  cases m <;> rfl

@[simp] theorem visible_append (ms ms' : List (α ⊕ τ)) : visible (ms ++ ms') = visible ms ++ visible ms' := by
  simp [visible]

theorem visible_map_inr (ts : List τ) : visible (ts.map Sum.inr : List (α ⊕ τ)) = [] := by
  induction ts with
  | nil => rfl
  | cons t ts ih => simpa using ih

/-- If every allowed move of the second machine can be matched by allowed moves of the first, so can
every run. -/
theorem exists_run_of_matched {step : σ → α ⊕ τ → σ} {G : σ → α ⊕ τ → Prop} {R : σ → σ → Prop}
    {ok : α ⊕ τ → Prop}
    (h : ∀ s p m, ok m → R s p → G p m →
      ∃ ms, visible ms = visible [m] ∧ Along step G s ms ∧ R (run step s ms) (step p m)) :
    ∀ (ms : List (α ⊕ τ)) (s p : σ), (∀ m ∈ ms, ok m) → R s p → Along step G p ms →
      ∃ ms', visible ms' = visible ms ∧ Along step G s ms' ∧ R (run step s ms') (run step p ms)
  | [], _, _, _, hR, _ => ⟨[], rfl, trivial, hR⟩
  | m :: ms, s, p, hok, hR, hG => by
    obtain ⟨ms₁, hv₁, hG₁, hR₁⟩ := h s p m (hok m List.mem_cons_self) hR hG.1
    obtain ⟨ms₂, hv₂, hG₂, hR₂⟩ :=
      exists_run_of_matched h ms _ _ (fun m hm => hok m (List.mem_cons_of_mem _ hm)) hR₁ hG.2
    refine ⟨ms₁ ++ ms₂, ?_, (along_append ..).mpr ⟨hG₁, hG₂⟩, ?_⟩
    · rw [visible_append, hv₁, hv₂, visible_cons m ms]
    · rw [run_append, run_cons]
      exact hR₂

end Visible

end Machine
