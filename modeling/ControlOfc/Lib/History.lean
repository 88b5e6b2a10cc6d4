import Mathlib.Data.List.DropRight
import Mathlib.Tactic.Cases
/-! # Reading a latch and a counter off a history

`Latched set reset h`: some event of `h` set the latch and none after it reset it. `trailing p h`:
how many events at the end of `h` satisfy `p` in a row. Both come with the rule for one more event,
which is what an implementation that keeps a bit and a counter has to match. `Legal ok h`: every event
of `h` was allowed by what came before it.
-/
namespace History

variable {α : Type*}

/-- Set by an event that no later event resets. -/
def Latched (set reset : α → Prop) (h : List α) : Prop :=
  ∃ (i : Nat) (e : α), h[i]? = some e ∧ set e ∧ ∀ (j : Nat) (e' : α), i < j → h[j]? = some e' → ¬ reset e'

theorem not_latched_nil (set reset : α → Prop) : ¬ Latched set reset [] := by
  rintro ⟨i, e, he, -⟩
  simp at he

theorem latched_concat (set reset : α → Prop) (h : List α) (a : α) :
    Latched set reset (h ++ [a]) ↔ set a ∨ (Latched set reset h ∧ ¬ reset a) := by
  constructor
  · rintro ⟨i, e, he, hset, hno⟩
    by_cases hi : i < h.length
    · refine .inr ⟨⟨i, e, ?_, hset, fun j e' hij hj => hno j e' hij ?_⟩, hno h.length a hi (by simp)⟩
      · rwa [List.getElem?_append_left hi] at he
      · rwa [List.getElem?_append_left (List.getElem?_eq_some_iff.mp hj).1]
    · have hlen : i < (h ++ [a]).length := (List.getElem?_eq_some_iff.mp he).1
      have hi' : i = h.length := by
        simp at hlen
        omega
      subst hi'
      simp at he
      exact .inl (he ▸ hset)
  · rintro (hset | ⟨⟨i, e, he, hset, hno⟩, hres⟩)
    · refine ⟨h.length, a, by simp, hset, fun j e' hij hj => ?_⟩
      have := (List.getElem?_eq_some_iff.mp hj).1
      simp at this
      omega
    · have hi : i < h.length := (List.getElem?_eq_some_iff.mp he).1
      refine ⟨i, e, by rwa [List.getElem?_append_left hi], hset, fun j e' hij hj => ?_⟩
      by_cases hj' : j < h.length
      · rw [List.getElem?_append_left hj'] at hj
        exact hno j e' hij hj
      · have hlen : j < (h ++ [a]).length := (List.getElem?_eq_some_iff.mp hj).1
        have hj'' : j = h.length := by
          simp at hlen
          omega
        subst hj''
        simp at hj
        exact hj ▸ hres

/-- The number of events at the end of the history that satisfy `p`, in a row. -/
def trailing (p : α → Bool) (h : List α) : Nat := (h.rtakeWhile p).length

@[simp] theorem trailing_nil (p : α → Bool) : trailing p [] = 0 := by
  simp [trailing]

theorem trailing_concat (p : α → Bool) (h : List α) (a : α) :
    trailing p (h ++ [a]) = if p a then trailing p h + 1 else 0 := by
  by_cases hp : p a <;> simp [trailing, hp]

/-- A trailing count of `n` is a suffix of length `n`. -/
theorem le_trailing_iff (p : α → Bool) (n : Nat) (h : List α) :
    n ≤ trailing p h ↔ ∃ suf, suf <:+ h ∧ suf.length = n ∧ ∀ a ∈ suf, p a := by
  constructor
  · intro hn
    refine ⟨(h.rtakeWhile p).drop (trailing p h - n), ?_, ?_, fun a ha => ?_⟩
    · exact (List.drop_suffix _ _).trans (List.rtakeWhile_suffix p h)
    · rw [List.length_drop]
      exact Nat.sub_sub_self hn
    · exact List.mem_rtakeWhile_imp (List.mem_of_mem_drop ha)
  · rintro ⟨suf, ⟨pre, rfl⟩, rfl, hall⟩
    have : (suf.reverse ++ pre.reverse).takeWhile p = suf.reverse ++ pre.reverse.takeWhile p :=
      List.takeWhile_append_of_pos (by simpa using hall)
    simp only [trailing, List.rtakeWhile, List.reverse_append, this, List.length_append, List.length_reverse]
    omega

/-! ## What came before an event -/

/-- The last event is the one in question, or comes after it. -/
theorem concat_eq_append_cons {l before after : List α} {x y : α} (h : l ++ [x] = before ++ y :: after) :
    (after = [] ∧ l = before ∧ x = y) ∨ ∃ after', after = after' ++ [x] ∧ l = before ++ y :: after' := by
  rcases List.eq_nil_or_concat after with rfl | ⟨after', z, rfl⟩
  · obtain ⟨hl, hx⟩ := List.append_inj' h rfl
    exact .inl ⟨rfl, hl, List.singleton_inj.mp hx⟩
  · rw [List.concat_eq_append, ← List.cons_append, ← List.append_assoc] at h
    obtain ⟨hl, hx⟩ := List.append_inj' h rfl
    exact .inr ⟨after', by rw [List.concat_eq_append, List.singleton_inj.mp hx], hl⟩

def Legal (ok : List α → α → Prop) (h : List α) : Prop :=
  ∀ before e after, h = before ++ e :: after → ok before e

theorem legal_nil (ok : List α → α → Prop) : Legal ok [] := by
  intro before e after h
  simp at h

theorem Legal.concat {ok : List α → α → Prop} {h : List α} {a : α} (hl : Legal ok h) (ha : ok h a) :
    Legal ok (h ++ [a]) := by
  intro before e after he
  rcases concat_eq_append_cons he with ⟨-, rfl, rfl⟩ | ⟨after', -, he⟩
  · exact ha
  · exact hl before e after' he

/-- Each event is allowed by what came before, which starts with `before`. -/
def LegalFrom (ok : List α → α → Prop) (before : List α) : List α → Prop
  | [] => True
  | e :: rest => ok before e ∧ LegalFrom ok (before ++ [e]) rest

theorem legalFrom_append {ok : List α → α → Prop} {before l r : List α} :
    LegalFrom ok before (l ++ r) ↔ LegalFrom ok before l ∧ LegalFrom ok (before ++ l) r := by
  induction l generalizing before with
  | nil => simp [LegalFrom]
  | cons e l ih =>
    rw [List.cons_append, LegalFrom, LegalFrom, ih, and_assoc, List.append_assoc, List.singleton_append]

theorem LegalFrom.legal {ok : List α → α → Prop} {h : List α} (hl : LegalFrom ok [] h) : Legal ok h := by
  rintro before e after rfl
  rw [legalFrom_append, List.nil_append] at hl
  exact hl.2.1

/-- Where what came before does not matter. -/
theorem legalFrom_of_forall {ok : List α → α → Prop} {before l : List α} (h : ∀ e ∈ l, ∀ before, ok before e) :
    LegalFrom ok before l := by
  induction l generalizing before with
  | nil => trivial
  | cons e l ih => exact ⟨h e List.mem_cons_self _, ih fun e he => h e (List.mem_cons_of_mem _ he)⟩

/-! ## At every point of a history -/

def Always (P : List α → Prop) (h : List α) : Prop := ∀ before, before <+: h → P before

theorem always_nil {P : List α → Prop} (hP : P []) : Always P [] := by
  intro before h
  rwa [List.prefix_nil.mp h]

theorem Always.concat {P : List α → Prop} {h : List α} {a : α} (hl : Always P h) (ha : P (h ++ [a])) :
    Always P (h ++ [a]) := by
  intro before hb
  rcases List.prefix_concat_iff.mp hb with rfl | hb
  · exact ha
  · exact hl before hb

theorem Always.now {P : List α → Prop} {h : List α} (hl : Always P h) : P h := hl h List.prefix_rfl

/-- What is latched was set at some point. -/
theorem Latched.exists_set {set reset : α → Prop} {h : List α} (hl : Latched set reset h) : ∃ a ∈ h, set a := by
  obtain ⟨i, e, he, hset, -⟩ := hl
  exact ⟨e, List.mem_of_getElem? he, hset⟩

end History
