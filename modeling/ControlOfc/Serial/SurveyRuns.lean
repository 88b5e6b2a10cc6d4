import ControlOfc.Serial.ReconnectSurvey
import Mathlib.Data.List.Induction
/-! # The reconnect survey, plan after plan (serial/adoption.rs:253-405)

A plan's entries are pushed by three rules: configured, adopted, new node. Whether the third opens a node is
read off the survey before the plan, and a node's record follows the times it was there at.

Main theorem `reconnect_survey`.
-/
namespace ControlOfc.Serial

/-! ## Finding a node -/

theorem findNode_filter (e : Entry) (obs : List Entry) (fresh : List FreshNode) :
    findNode e (fresh.filter (·.node ∈ obs)) = if e ∈ obs then findNode e fresh else none := by
  unfold findNode
  induction fresh with
  | nil => simp
  | cons f rest ih =>
    by_cases hf : f.node = e
    · subst hf
      by_cases ho : f.node ∈ obs
      · simp [ho]
      · simpa [ho] using ih
    · by_cases ho : f.node ∈ obs
      · simpa [ho, hf] using ih
      · simpa [ho, hf] using ih

theorem findNode_openNode (e e' : Entry) (now : Nat) (fresh : List FreshNode) :
    findNode e (openNode e' now fresh) =
      if e' = e then
        (findNode e fresh).map fun f => { f with opens := min (f.opens + 1) (2 ^ 32 - 1), lastOpen := now }
      else findNode e fresh := by
  unfold findNode
  induction fresh with
  | nil => simp [openNode]
  | cons f rest ih =>
    unfold openNode
    by_cases hf : f.node = e'
    · by_cases he : e' = e
      · subst he
        simp [hf]
      · have hne : ¬f.node = e := fun h => he (hf.symm.trans h)
        simp [hf, he]
    · by_cases he : e' = e
      · subst he
        simpa [hf] using ih
      · by_cases hfe : f.node = e
        · subst hfe
          simp [hf, he]
        · simpa [hf, he, hfe] using ih

namespace ReconnectSurvey

section Visit

variable (baseline : List Entry) (now : Nat)

/-- A visit opens the node. -/
def Opens (e : Entry) (o : Option FreshNode) : Prop :=
  match o with
  | none => e ∉ baseline
  | some f => f.opens = 0 ∨ f.due now

/-- What a visit leaves of a node's record. -/
def record (e : Entry) (o : Option FreshNode) : Option FreshNode :=
  match o with
  | none => if e ∈ baseline then none else some ⟨e, now, now, 1⟩
  | some f =>
    if f.opens = 0 ∨ f.due now then some { f with opens := min (f.opens + 1) (2 ^ 32 - 1), lastOpen := now } else some f

variable {baseline now}

theorem record_of_not_opens {e : Entry} {o : Option FreshNode} (h : ¬Opens baseline now e o) :
    record baseline now e o = o := by
  cases o with
  | none => simpa [record, Opens] using h
  | some f =>
    have h : ¬(f.opens = 0 ∨ f.due now) := h
    simp [record, h]

theorem findNode_notice (acc : List FreshNode) (e e' : Entry) :
    findNode e (notice baseline now acc e') =
      if e' = e then (findNode e acc).or (if e ∈ baseline then none else some ⟨e, now, now, 0⟩) else findNode e acc := by
  unfold notice
  by_cases he : e' = e
  · subst he
    cases hf : findNode e' acc with
    | none =>
      by_cases hb : e' ∈ baseline
      · simp [hb, hf]
      · have hnone : List.find? (fun f => decide (f.node = e')) acc = none := hf
        simp [hb, findNode, hnone]
    | some f => simp [hf]
  · split
    · simp [findNode, he]
    · rfl

/-- A visit is to one node. -/
theorem visit_fresh (acc : List FreshNode × List Entry) (e e' : Entry) :
    findNode e (visit baseline now acc e').1 =
      if e' = e then record baseline now e (findNode e acc.1) else findNode e acc.1 := by
  have hself : findNode e' (notice baseline now acc.1 e') = _ := findNode_notice acc.1 e' e'
  have hnotice : findNode e (notice baseline now acc.1 e') = _ := findNode_notice acc.1 e e'
  rw [if_pos rfl] at hself
  by_cases he : e' = e
  · subst he
    rw [if_pos rfl]
    unfold visit record
    cases hf : findNode e' acc.1 with
    | none =>
      by_cases hb : e' ∈ baseline
      · simp [hself, hf, hb]
      · simp [hself, hf, hb, findNode_openNode]
    | some f =>
      rw [hf, Option.some_or] at hself
      simp only [hself]
      split
      · simp [findNode_openNode, hself]
      · exact hself
  · rw [if_neg he] at hnotice ⊢
    unfold visit
    split
    · exact hnotice
    · split
      · rw [findNode_openNode, if_neg he, hnotice]
      · exact hnotice

theorem visit_out (acc : List FreshNode × List Entry) (e : Entry) :
    (Opens baseline now e (findNode e acc.1) → (visit baseline now acc e).2 = push acc.2 e) ∧
    (¬Opens baseline now e (findNode e acc.1) → (visit baseline now acc e).2 = acc.2) := by
  have hself : findNode e (notice baseline now acc.1 e) = _ := findNode_notice acc.1 e e
  rw [if_pos rfl] at hself
  unfold visit Opens
  cases hf : findNode e acc.1 with
  | none =>
    by_cases hb : e ∈ baseline
    · simp [hself, hf, hb]
    · simp [hself, hf, hb]
  | some f =>
    rw [hf, Option.some_or] at hself
    simp only [hself]
    constructor
    · intro h
      rw [if_pos h]
    · intro h
      rw [if_neg h]

/-! ## All the visits of a plan -/

theorem visits_other {l : List Entry} {e : Entry} (h : e ∉ l) (acc : List FreshNode × List Entry) :
    findNode e (l.foldl (visit baseline now) acc).1 = findNode e acc.1 := by
  induction l generalizing acc with
  | nil => rfl
  | cons e' rest ih =>
    rw [List.mem_cons, not_or] at h
    rw [List.foldl_cons, ih h.2, visit_fresh, if_neg (Ne.symm h.1)]

/-- A node listed once is visited once. -/
theorem visits_once {l : List Entry} (hl : l.Nodup) {e : Entry} (h : e ∈ l) (acc : List FreshNode × List Entry) :
    findNode e (l.foldl (visit baseline now) acc).1 = record baseline now e (findNode e acc.1) := by
  induction l generalizing acc with
  | nil => cases h
  | cons e' rest ih =>
    rw [List.nodup_cons] at hl
    rw [List.foldl_cons]
    rcases List.mem_cons.mp h with rfl | h
    · rw [visits_other hl.1, visit_fresh, if_pos rfl]
    · have hne : e' ≠ e := fun heq => hl.1 (heq ▸ h)
      rw [ih hl.2 h, visit_fresh, if_neg hne]

/-- A node that is not opened is not touched, however often it is listed. -/
theorem visits_not_opens (l : List Entry) {e : Entry} {acc : List FreshNode × List Entry}
    (h : ¬Opens baseline now e (findNode e acc.1)) :
    findNode e (l.foldl (visit baseline now) acc).1 = findNode e acc.1 := by
  induction l generalizing acc with
  | nil => rfl
  | cons e' rest ih =>
    have hstep : findNode e (visit baseline now acc e').1 = findNode e acc.1 := by
      rw [visit_fresh]
      split
      · exact record_of_not_opens h
      · rfl
    rw [List.foldl_cons, ih (by rwa [hstep]), hstep]

theorem visits_prefix (l : List Entry) (acc : List FreshNode × List Entry) :
    acc.2 <+: (l.foldl (visit baseline now) acc).2 := by
  induction l generalizing acc with
  | nil => exact List.prefix_refl _
  | cons e rest ih =>
    refine List.IsPrefix.trans ?_ (ih _)
    by_cases h : Opens baseline now e (findNode e acc.1)
    · rw [(visit_out acc e).1 h]
      exact push_grows _ _
    · have hsame : (visit baseline now acc e).2 = acc.2 := (visit_out acc e).2 h
      exact hsame ▸ List.prefix_refl acc.2

theorem mem_visit {acc : List FreshNode × List Entry} {e q : Entry} (h : q ∈ (visit baseline now acc e).2) :
    q ∈ acc.2 ∨ (q = e ∧ Opens baseline now e (findNode e acc.1)) := by
  by_cases he : Opens baseline now e (findNode e acc.1)
  · rw [(visit_out acc e).1 he] at h
    exact (mem_push h).imp id fun hq => ⟨hq, he⟩
  · rw [(visit_out acc e).2 he] at h
    exact .inl h

/-- What the visits add is a node that was to be opened before the first of them. -/
theorem visits_opens {l : List Entry} {acc : List FreshNode × List Entry} {q : Entry}
    (h : q ∈ (l.foldl (visit baseline now) acc).2) :
    q ∈ acc.2 ∨ (q ∈ l ∧ Opens baseline now q (findNode q acc.1)) := by
  induction l generalizing acc with
  | nil => exact .inl h
  | cons e rest ih =>
    rcases ih h with h | ⟨hmem, hopens⟩
    · rcases mem_visit h with h | ⟨rfl, ho⟩
      · exact .inl h
      · exact .inr ⟨List.mem_cons_self, ho⟩
    · refine .inr ⟨List.mem_cons_of_mem _ hmem, ?_⟩
      by_contra hq
      have hsame : findNode q (visit baseline now acc e).1 = findNode q acc.1 := visits_not_opens [e] hq
      exact hq (hsame ▸ hopens)

/-- A node that is opened is added, or one of its path or identity is there before it. -/
theorem visits_cover {l : List Entry} {acc : List FreshNode × List Entry} {e : Entry} (he : e ∈ l)
    (h : Opens baseline now e (findNode e acc.1)) :
    ∃ q ∈ (l.foldl (visit baseline now) acc).2, q.1 = e.1 ∨ q.2 = e.2 := by
  induction l generalizing acc with
  | nil => cases he
  | cons e' rest ih =>
    by_cases heq : e' = e
    · subst heq
      have hout := (visit_out acc e').1 h
      have hpre : _ <+: (rest.foldl (visit baseline now) (visit baseline now acc e')).2 := visits_prefix rest _
      rcases mem_push_self acc.2 e' with hself | ⟨q, hq, hsame⟩
      · exact ⟨e', hpre.subset (hout ▸ hself), .inl rfl⟩
      · exact ⟨q, hpre.subset (hout ▸ (push_grows _ _).subset hq), hsame⟩
    · rcases List.mem_cons.mp he with rfl | he
      · exact absurd rfl heq
      · exact ih he (by rwa [visit_fresh, if_neg heq])

theorem visits_well {observe : Observe} {l : List Entry} (hl : ∀ e ∈ l, observe e.1 = some e.2)
    {acc : List FreshNode × List Entry} (h : WellPlanned observe acc.2) :
    WellPlanned observe (l.foldl (visit baseline now) acc).2 := by
  induction l generalizing acc with
  | nil => exact h
  | cons e rest ih =>
    refine ih (fun e' he' => hl e' (List.mem_cons_of_mem _ he')) ?_
    by_cases he : Opens baseline now e (findNode e acc.1)
    · rw [(visit_out acc e).1 he]
      exact h.push (hl e List.mem_cons_self)
    · rw [(visit_out acc e).2 he]
      exact h

end Visit

/-! ## One plan -/

section Plan

variable (s : ReconnectSurvey) (c : Call)

/-- The pairs of a plan, of which it returns the paths. -/
def planned : List Entry :=
  (c.observed.foldl (visit s.baseline c.now)
    (s.fresh.filter (·.node ∈ c.observed), (s.planAdopted c.observe (s.planConfigured c.observe)).2)).2

theorem plan_out : (s.plan c).2 = (s.planned c).map Prod.fst := rfl

theorem plan_configured : (s.plan c).1.configured = s.configured := rfl

theorem plan_baseline : (s.plan c).1.baseline = c.observed := rfl

theorem plan_adopted : (s.plan c).1.adopted = s.adopted.filter fun e => c.observe e.1 = some e.2 := by
  show (s.planAdopted c.observe (s.planConfigured c.observe)).1 = _
  unfold planAdopted
  cases ha : s.adopted with
  | none => rfl
  | some e =>
    obtain ⟨path, id⟩ := e
    by_cases h : c.observe path = some id <;> simp [h, Option.filter]

variable {s c}

theorem planConfigured_well : WellPlanned c.observe (s.planConfigured c.observe) := by
  have hnil : WellPlanned c.observe [] := ⟨List.nodup_nil, List.nodup_nil, fun _ h => absurd h List.not_mem_nil⟩
  unfold planConfigured
  split
  · exact hnil
  · split
    · exact hnil
    · next h => exact hnil.push h

theorem mem_planConfigured {q : Entry} (h : q ∈ s.planConfigured c.observe) : s.configured = some q.1 := by
  unfold planConfigured at h
  split at h
  · cases h
  · next p hp =>
    split at h
    · cases h
    · rcases mem_push h with h | rfl
      · cases h
      · exact hp

theorem planAdopted_grows (out : List Entry) : out <+: (s.planAdopted c.observe out).2 := by
  unfold planAdopted
  split
  · exact List.prefix_refl _
  · split
    · exact push_grows _ _
    · exact List.prefix_refl _

theorem planAdopted_well {out : List Entry} (h : WellPlanned c.observe out) :
    WellPlanned c.observe (s.planAdopted c.observe out).2 := by
  unfold planAdopted
  split
  · exact h
  · split
    · next hid => exact h.push hid
    · exact h

theorem mem_planAdopted {out : List Entry} {q : Entry} (h : q ∈ (s.planAdopted c.observe out).2) :
    q ∈ out ∨ s.adopted = some q := by
  unfold planAdopted at h
  split at h
  · exact .inl h
  · next path id ha =>
    split at h
    · rcases mem_push h with h | rfl
      · exact .inl h
      · exact .inr ha
    · exact .inl h

theorem planned_prefix : (s.planAdopted c.observe (s.planConfigured c.observe)).2 <+: s.planned c := by
  unfold planned
  exact visits_prefix c.observed (_, _)

/-- Distinct paths with distinct nodes. -/
theorem planned_well : WellPlanned c.observe (s.planned c) :=
  visits_well (fun _ he => (mem_observed.mp he).2) (planAdopted_well planConfigured_well)

/-- Each is there by one of the three rules. -/
theorem mem_planned {q : Entry} (h : q ∈ s.planned c) :
    s.configured = some q.1 ∨ s.adopted = some q ∨ (q ∈ c.observed ∧ Opens s.baseline c.now q (findNode q s.fresh)) := by
  rcases visits_opens h with h | ⟨hq, h⟩
  · rcases mem_planAdopted h with h | h
    · exact .inl (mem_planConfigured h)
    · exact .inr (.inl h)
  · dsimp only at h
    rw [findNode_filter, if_pos hq] at h
    exact .inr (.inr ⟨hq, h⟩)

theorem planned_head {p : String} {id : NodeId} (hp : s.configured = some p) (hid : c.observe p = some id) :
    (s.planned c).head? = some (p, id) := by
  have hfirst : s.planConfigured c.observe = [(p, id)] := by simp [planConfigured, hp, hid, push]
  have hpre : [(p, id)] <+: s.planned c := by
    rw [← hfirst]
    exact (planAdopted_grows _).trans planned_prefix
  obtain ⟨rest, hrest⟩ := hpre
  rw [← hrest]
  rfl

theorem planned_adopted {e : Entry} (ha : s.adopted = some e) (he : c.observe e.1 = some e.2) :
    ∃ q ∈ s.planned c, q.1 = e.1 ∨ q.2 = e.2 := by
  have hout : (s.planAdopted c.observe (s.planConfigured c.observe)).2 = push (s.planConfigured c.observe) e := by
    simp [planAdopted, ha, he]
  have hpre : push (s.planConfigured c.observe) e <+: s.planned c := hout ▸ planned_prefix
  rcases mem_push_self (s.planConfigured c.observe) e with h | ⟨q, hq, hsame⟩
  · exact ⟨e, hpre.subset h, .inl rfl⟩
  · exact ⟨q, hpre.subset ((push_grows _ _).subset hq), hsame⟩

theorem planned_covers {e : Entry} (he : e ∈ c.observed) (h : Opens s.baseline c.now e (findNode e s.fresh)) :
    ∃ q ∈ s.planned c, q.1 = e.1 ∨ q.2 = e.2 := by
  refine visits_cover he ?_
  dsimp only
  rwa [findNode_filter, if_pos he]

/-! ### What it leaves of one node -/

theorem fresh_unobserved {e : Entry} (h : e ∉ c.observed) : findNode e (s.plan c).1.fresh = none := by
  show findNode e (c.observed.foldl (visit s.baseline c.now) _).1 = none
  rw [visits_other h, findNode_filter, if_neg h]

theorem fresh_observed (hc : c.candidates.Nodup) {e : Entry} (h : e ∈ c.observed) :
    findNode e (s.plan c).1.fresh = record s.baseline c.now e (findNode e s.fresh) := by
  have hnodup : c.observed.Nodup := nodup_observed hc c.observe
  show findNode e (c.observed.foldl (visit s.baseline c.now) _).1 = _
  rw [visits_once hnodup h, findNode_filter, if_pos h]

theorem fresh_not_opens {e : Entry} (h : e ∈ c.observed) (ho : ¬Opens s.baseline c.now e (findNode e s.fresh)) :
    findNode e (s.plan c).1.fresh = findNode e s.fresh := by
  show findNode e (c.observed.foldl (visit s.baseline c.now) _).1 = _
  have hkept := findNode_filter e c.observed s.fresh
  rw [if_pos h] at hkept
  rw [visits_not_opens _ (by rwa [hkept]), hkept]

end Plan

/-! ## Run after run -/

section Runs

variable {s : ReconnectSurvey}

theorem run_append (a b : List Call) : s.run (a ++ b) = (s.run a).run b := List.foldl_append

theorem run_concat (calls : List Call) (c : Call) : s.run (calls ++ [c]) = ((s.run calls).plan c).1 := by
  rw [run_append]
  rfl

theorem configured_run (calls : List Call) : (s.run calls).configured = s.configured := by
  induction calls generalizing s with
  | nil => rfl
  | cons c rest ih => exact ih.trans (plan_configured s c)

/-- What the last plan observed, or the seed. -/
def previous (s : ReconnectSurvey) (calls : List Call) : List Entry :=
  match calls.getLast? with
  | none => s.baseline
  | some c => c.observed

theorem baseline_run (calls : List Call) : (s.run calls).baseline = s.previous calls := by
  induction calls using List.reverseRecOn with
  | nil => rfl
  | append_singleton rest c _ =>
    rw [run_concat, plan_baseline, previous, List.getLast?_concat]

/-- The adopted rule outlives no plan that finds another node there. -/
theorem adopted_run {calls : List Call} {e : Entry} :
    (s.run calls).adopted = some e ↔ s.adopted = some e ∧ ∀ c ∈ calls, c.observe e.1 = some e.2 := by
  induction calls using List.reverseRecOn with
  | nil => simp [run]
  | append_singleton rest c ih =>
    rw [run_concat, plan_adopted, Option.filter_eq_some_iff, ih]
    simp only [List.mem_append, List.mem_singleton, decide_eq_true_eq]
    constructor
    · rintro ⟨⟨ha, hrest⟩, hc⟩
      refine ⟨ha, ?_⟩
      rintro c' (hc' | rfl)
      · exact hrest c' hc'
      · exact hc
    · rintro ⟨ha, hall⟩
      exact ⟨⟨ha, fun c' hc' => hall c' (.inl hc')⟩, hall c (.inr rfl)⟩

/-- A node the last plan did not observe has no record. -/
theorem fresh_unseen (hs : s.fresh = []) {calls : List Call} {e : Entry} (h : e ∉ s.previous calls) :
    findNode e (s.run calls).fresh = none := by
  induction calls using List.reverseRecOn with
  | nil =>
    show findNode e s.fresh = none
    rw [hs]
    rfl
  | append_singleton rest c _ =>
    rw [run_concat]
    refine fresh_unobserved ?_
    rwa [previous, List.getLast?_concat] at h

/-- A node that was always there is never noticed. -/
theorem fresh_known (hs : s.fresh = []) {calls : List Call} {e : Entry} (h : e ∈ s.baseline)
    (hall : ∀ c ∈ calls, e ∈ c.observed) : e ∈ (s.run calls).baseline ∧ findNode e (s.run calls).fresh = none := by
  induction calls using List.reverseRecOn with
  | nil =>
    refine ⟨h, ?_⟩
    show findNode e s.fresh = none
    rw [hs]
    rfl
  | append_singleton rest c ih =>
    obtain ⟨hbase, hnone⟩ := ih fun c' hc' => hall c' (List.mem_append_left _ hc')
    have hc := hall c (by simp)
    have hidle : ¬Opens (s.run rest).baseline c.now e (findNode e (s.run rest).fresh) := by
      rw [hnone]
      exact fun hnew => hnew hbase
    rw [run_concat]
    exact ⟨hc, (fresh_not_opens hc hidle).trans hnone⟩

end Runs

/-! ## The stay of a new node

From the first plan that observes it on, a new node is opened at the times that `opened` keeps. -/

/-- Due at a plan: too few opens yet, within the window, or long enough since the last. -/
def DueAfter (first : Nat) (opened : List Nat) (now : Nat) : Prop :=
  opened.length < newNodeMinOpens ∨ now - first < newNodeWindow ∨ ∀ last ∈ opened.head?, newNodeSlowRetry ≤ now - last

instance (first : Nat) (opened : List Nat) (now : Nat) : Decidable (DueAfter first opened now) :=
  inferInstanceAs (Decidable (_ ∨ _ ∨ _))

/-- The times it is opened at, of the times it is there at: the latest first. -/
def opened (first : Nat) : List Nat → List Nat
  | [] => []
  | now :: earlier =>
    if DueAfter first (opened first earlier) now then now :: opened first earlier else opened first earlier

theorem length_opened_le (first : Nat) (times : List Nat) : (opened first times).length ≤ times.length := by
  induction times with
  | nil => exact Nat.le_refl _
  | cons now earlier ih =>
    unfold opened
    split <;> simp only [List.length_cons] <;> omega

/-- At every plan it has been opened within the retry interval. -/
theorem opened_recent (first now : Nat) (earlier : List Nat) :
    ∃ last ∈ opened first (now :: earlier), now < last + newNodeSlowRetry := by
  unfold opened
  split
  · exact ⟨now, List.mem_cons_self, Nat.lt_add_of_pos_right (by decide)⟩
  · next h =>
    have hlast : ¬∀ last ∈ (opened first earlier).head?, newNodeSlowRetry ≤ now - last := fun hl => h (.inr (.inr hl))
    simp only [not_forall] at hlast
    obtain ⟨last, hmem, hlt⟩ := hlast
    exact ⟨last, List.mem_of_mem_head? hmem, by omega⟩

/-- The times of a stay, the latest first. -/
def times (stay : List Call) : List Nat := (stay.map Call.now).reverse

/-- The first plan of a stay that ends at `now`. -/
def firstTime (stay : List Call) (now : Nat) : Nat := (stay.head?.map Call.now).getD now

theorem times_concat (stay : List Call) (c : Call) : times (stay ++ [c]) = c.now :: times stay := by
  simp [times]

theorem firstTime_concat (stay : List Call) (c : Call) (now : Nat) :
    firstTime (stay ++ [c]) now = firstTime stay c.now := by
  cases stay <;> rfl

/-- The record of a node is what its stay makes of it. -/
def Followed (e : Entry) (s : ReconnectSurvey) (first : Nat) (opened : List Nat) : Prop :=
  ∃ f, findNode e s.fresh = some f ∧ f.firstSeen = first ∧ opened.head? = some f.lastOpen ∧
    f.opens = min opened.length (2 ^ 32 - 1)

theorem Followed.opens {e : Entry} {s : ReconnectSurvey} {first : Nat} {opened : List Nat}
    (h : Followed e s first opened) (now : Nat) :
    Opens s.baseline now e (findNode e s.fresh) ↔ DueAfter first opened now := by
  obtain ⟨f, hf, hfirst, hlast, hopens⟩ := h
  have hlen : 0 < opened.length := by
    cases opened with
    | nil => cases hlast
    | cons t ts => exact Nat.succ_pos _
  rw [hf]
  show (f.opens = 0 ∨ f.due now) ↔ _
  unfold FreshNode.due DueAfter
  rw [hopens, hfirst, hlast]
  simp only [Option.mem_some_iff, forall_eq', newNodeMinOpens]
  omega

section Stay

variable {s : ReconnectSurvey} {e : Entry} (hbase : e ∉ s.baseline) (hnone : findNode e s.fresh = none)
include hbase hnone

theorem stay_follows {stay : List Call} {c : Call}
    (h : ∀ c' ∈ stay ++ [c], e ∈ c'.observed ∧ c'.candidates.Nodup) :
    Followed e (s.run (stay ++ [c])) (firstTime stay c.now) (opened (firstTime stay c.now) (times (stay ++ [c]))) := by
  induction stay using List.reverseRecOn generalizing c with
  | nil =>
    obtain ⟨hc, hnodup⟩ := h c (by simp)
    refine ⟨⟨e, c.now, c.now, 1⟩, ?_, rfl, rfl, rfl⟩
    show findNode e (s.plan c).1.fresh = _
    rw [fresh_observed hnodup hc, hnone]
    simp [record, hbase]
  | append_singleton stay c' ih =>
    obtain ⟨hc, hnodup⟩ := h c (by simp)
    have hprev := ih fun c'' hc'' => h c'' (List.mem_append_left _ hc'')
    rw [run_concat, firstTime_concat, times_concat (stay ++ [c'])]
    have hdue := hprev.opens c.now
    obtain ⟨f, hf, hfirst, hlast, hopens⟩ := hprev
    have hrecord := fresh_observed (s := s.run (stay ++ [c'])) hnodup hc
    rw [hf] at hdue hrecord
    unfold opened
    by_cases hd : DueAfter (firstTime stay c'.now) (opened (firstTime stay c'.now) (times (stay ++ [c']))) c.now
    · have ho : f.opens = 0 ∨ f.due c.now := hdue.mpr hd
      rw [if_pos hd]
      refine ⟨{ f with opens := min (f.opens + 1) (2 ^ 32 - 1), lastOpen := c.now },
        hrecord.trans (by simp only [record, if_pos ho]), hfirst, rfl, ?_⟩
      simp only [hopens, List.length_cons]
      omega
    · have ho : ¬(f.opens = 0 ∨ f.due c.now) := fun ho => hd (hdue.mp ho)
      rw [if_neg hd]
      exact ⟨f, hrecord.trans (by simp only [record, if_neg ho]), hfirst, hlast, hopens⟩

/-- A new node is opened at a plan just where it is due. -/
theorem opens_stay {stay : List Call} (h : ∀ c ∈ stay, e ∈ c.observed ∧ c.candidates.Nodup) (now : Nat) :
    Opens (s.run stay).baseline now e (findNode e (s.run stay).fresh) ↔
      DueAfter (firstTime stay now) (opened (firstTime stay now) (times stay)) now := by
  induction stay using List.reverseRecOn with
  | nil =>
    show Opens s.baseline now e (findNode e s.fresh) ↔ _
    rw [hnone]
    exact ⟨fun _ => .inl (show 0 < newNodeMinOpens by decide), fun _ => hbase⟩
  | append_singleton stay c _ =>
    rw [firstTime_concat]
    exact (stay_follows hbase hnone h).opens now

end Stay

/-! ## Every plan of every run -/

/-- A survey is on its adopted node while every observation so far found it there. -/
def Held (adopted : String) (observe : Observe) (calls : List Call) : Prop :=
  ∃ id, observe adopted = some id ∧ ∀ c ∈ calls, c.observe adopted = some id

section New

variable {configured : Option String} {adopted : String} {seed : List String} {observe : Observe}

theorem new_adopted {e : Entry} :
    (new configured adopted seed observe).adopted = some e ↔ e.1 = adopted ∧ observe adopted = some e.2 := by
  obtain ⟨p, id⟩ := e
  show (observe adopted).map (adopted, ·) = some (p, id) ↔ _
  rw [Option.map_eq_some_iff]
  constructor
  · rintro ⟨id', hid, heq⟩
    cases heq
    exact ⟨rfl, hid⟩
  · rintro ⟨rfl, hid⟩
    exact ⟨id, hid, rfl⟩

theorem adopted_run_new {calls : List Call} :
    ((new configured adopted seed observe).run calls).adopted.isSome ↔ Held adopted observe calls := by
  rw [Option.isSome_iff_exists]
  constructor
  · rintro ⟨e, he⟩
    obtain ⟨hnew, hall⟩ := adopted_run.mp he
    obtain ⟨rfl, hid⟩ := new_adopted.mp hnew
    exact ⟨e.2, hid, hall⟩
  · rintro ⟨id, hid, hall⟩
    exact ⟨(adopted, id), adopted_run.mpr ⟨new_adopted.mpr ⟨rfl, hid⟩, hall⟩⟩

/-- A path that no new node brings in is the configured or the adopted one. -/
theorem configured_or_adopted {before : List Call} {c : Call} {p : String}
    (hp : p ∈ (((new configured adopted seed observe).run before).plan c).2)
    (hnew : ∀ id, (p, id) ∈ c.observed → ¬Opens ((new configured adopted seed observe).run before).baseline c.now (p, id)
      (findNode (p, id) ((new configured adopted seed observe).run before).fresh)) :
    configured = some p ∨ (p = adopted ∧ Held adopted observe (before ++ [c])) := by
  rw [plan_out, List.mem_map] at hp
  obtain ⟨⟨p', id⟩, hq, rfl⟩ := hp
  have hid := planned_well.resolve _ hq
  rcases mem_planned hq with h | h | ⟨hobs, hopens⟩
  · rw [configured_run] at h
    exact .inl h
  · have hafter : ((new configured adopted seed observe).run (before ++ [c])).adopted = some (p', id) := by
      rw [run_concat, plan_adopted, h]
      simp [Option.filter, hid]
    have hp' := (new_adopted.mp (adopted_run.mp hafter).1).1
    exact .inr ⟨hp', adopted_run_new.mp (by rw [hafter]; rfl)⟩
  · exact absurd hopens (hnew id hobs)

/-- What covers a pair is a path of the plan. -/
theorem out_of_planned {s : ReconnectSurvey} {c : Call} {e : Entry} (h : ∃ q ∈ s.planned c, q.1 = e.1 ∨ q.2 = e.2) :
    ∃ p ∈ (s.plan c).2, p = e.1 ∨ c.observe p = some e.2 := by
  obtain ⟨q, hq, hsame⟩ := h
  refine ⟨q.1, List.mem_map_of_mem hq, hsame.imp id ?_⟩
  intro hid
  exact hid ▸ planned_well.resolve q hq

end New

/-- **What a reconnect survey plans, in every run.** -/
theorem reconnect_survey (configured : Option String) (adopted : String) (seed : List String) (observe : Observe)
    (before : List Call) (c : Call) :
    let s := new configured adopted seed observe
    let out := ((s.run before).plan c).2
    let held := Held adopted observe (before ++ [c])
    -- distinct paths of distinct nodes, the configured port first
    (out.Nodup ∧ (∀ p ∈ out, ∃ id, c.observe p = some id) ∧
      (∀ p ∈ out, ∀ q ∈ out, c.observe p = c.observe q → p = q) ∧
      ∀ p, configured = some p → (c.observe p).isSome → out.head? = some p) ∧
    -- the adopted node, while it is the node it was
    ((((s.run before).plan c).1.adopted.isSome ↔ held) ∧ (held → ∃ p ∈ out, p = adopted ∨ c.observe p = c.observe adopted)) ∧
    -- a node that was there all along, or is no candidate, is left alone
    (∀ p ∈ out,
      (p ∉ c.candidates ∨ ∃ id, (p, id) ∈ observed seed observe ∧ ∀ c' ∈ before ++ [c], (p, id) ∈ c'.observed) →
      configured = some p ∨ (p = adopted ∧ held)) ∧
    -- a new node, `stay` being the plans that have observed it since it appeared
    ∀ (e : Entry) (old stay : List Call), before = old ++ stay → e ∉ s.previous old →
      (∀ c' ∈ stay, e ∈ c'.observed ∧ c'.candidates.Nodup) → e ∈ c.observed →
      let first := firstTime stay c.now
      let due := DueAfter first (opened first (times stay)) c.now
      (due → ∃ p ∈ out, p = e.1 ∨ c.observe p = some e.2) ∧
      (¬due → e.1 ∈ out → configured = some e.1 ∨ (e.1 = adopted ∧ held)) ∧
      (stay.length < newNodeMinOpens → due) ∧
      ∃ last ∈ opened first (times (stay ++ [c])), c.now < last + newNodeSlowRetry := by
  dsimp only
  set s := new configured adopted seed observe with hs
  have hwell : WellPlanned c.observe ((s.run before).planned c) := planned_well
  refine ⟨⟨hwell.paths, ?_, ?_, ?_⟩, ⟨?_, ?_⟩, ?_, ?_⟩
  · intro p hp
    obtain ⟨q, hq, rfl⟩ := List.mem_map.mp hp
    exact ⟨q.2, hwell.resolve q hq⟩
  · intro p hp q hq heq
    obtain ⟨a, ha, rfl⟩ := List.mem_map.mp hp
    obtain ⟨b, hb, rfl⟩ := List.mem_map.mp hq
    rw [hwell.resolve a ha, hwell.resolve b hb, Option.some.injEq] at heq
    rw [List.inj_on_of_nodup_map hwell.ids ha hb heq]
  · intro p hp hid
    obtain ⟨id, hid⟩ := Option.isSome_iff_exists.mp hid
    rw [plan_out, List.head?_map, planned_head (by rw [configured_run]; exact hp) hid]
    rfl
  · rw [← run_concat]
    exact adopted_run_new
  · rintro ⟨id, hid, hall⟩
    have ha : (s.run before).adopted = some (adopted, id) :=
      adopted_run.mpr ⟨new_adopted.mpr ⟨rfl, hid⟩, fun c' hc' => hall c' (List.mem_append_left _ hc')⟩
    have hc : c.observe adopted = some id := hall c (by simp)
    rw [hc]
    exact out_of_planned (planned_adopted ha hc)
  · intro p hp hleft
    refine configured_or_adopted hp ?_
    intro id hobs hopens
    rcases hleft with hout | ⟨id', hseed, hall⟩
    · exact hout (mem_observed.mp hobs).1
    · have hc := (mem_observed.mp (hall c (by simp))).2
      have hid : id' = id := Option.some.inj (hc.symm.trans (mem_observed.mp hobs).2)
      subst hid
      obtain ⟨hbase, hnone⟩ := fresh_known (s := s) rfl hseed fun c' hc' => hall c' (List.mem_append_left _ hc')
      rw [hnone] at hopens
      exact hopens hbase
  · intro e old stay hbefore hprev hstay hc
    have hopens := opens_stay (s := s.run old) (by rwa [baseline_run]) (fresh_unseen rfl hprev) hstay c.now
    rw [← run_append, ← hbefore] at hopens
    refine ⟨?_, ?_, ?_, ?_⟩
    · intro hdue
      exact out_of_planned (planned_covers hc (hopens.mpr hdue))
    · intro hdue hp
      refine configured_or_adopted hp ?_
      intro id hobs ho
      have hid : id = e.2 := Option.some.inj ((mem_observed.mp hobs).2.symm.trans (mem_observed.mp hc).2)
      subst hid
      exact hdue (hopens.mp ho)
    · intro hlen
      have hle := length_opened_le (firstTime stay c.now) (times stay)
      have htimes : (times stay).length = stay.length := by simp [times]
      exact .inl (by omega)
    · rw [times_concat]
      exact opened_recent _ _ _

/-- The controller comes back under another name, and a stranger has been there all along. -/
theorem reconnect_survey_renamed :
    ∃ p ∈ (((new none "/dev/ttyACM0" ["/dev/ttyACM0", "/dev/ttyUSB0"]
        fun p => if p = "/dev/ttyACM0" then some ⟨6, 1⟩ else some ⟨6, 2⟩).run
        [⟨["/dev/ttyUSB0"], fun p => if p = "/dev/ttyUSB0" then some ⟨6, 2⟩ else none, 0⟩]).plan
        ⟨["/dev/ttyACM1", "/dev/ttyUSB0"], fun p => if p = "/dev/ttyUSB0" then some ⟨6, 2⟩ else some ⟨6, 3⟩, 30⟩).2,
      p = "/dev/ttyACM1" ∨ (if p = "/dev/ttyUSB0" then some (⟨6, 2⟩ : NodeId) else some ⟨6, 3⟩) = some ⟨6, 3⟩ :=
  ((reconnect_survey none "/dev/ttyACM0" ["/dev/ttyACM0", "/dev/ttyUSB0"] _ [⟨["/dev/ttyUSB0"], _, 0⟩]
    ⟨["/dev/ttyACM1", "/dev/ttyUSB0"], _, 30⟩).2.2.2 ("/dev/ttyACM1", ⟨6, 3⟩) _ [] (List.append_nil _).symm
    (by decide) (fun _ h => absurd h List.not_mem_nil) (by decide)).1 (.inl (by decide))

/-- A candidate listed twice spends its four opens in two plans, and is not planned at the third. -/
theorem listed_twice :
    let twice (now : Nat) : Call := ⟨["/dev/ttyACM1", "/dev/ttyACM1"], fun _ => some ⟨6, 3⟩, now⟩
    (((new none "/dev/ttyACM0" [] fun _ => none).run [twice 0, twice (70 * 1000000000)]).plan
      (twice (140 * 1000000000))).2 = [] := by
  decide

end ReconnectSurvey

end ControlOfc.Serial
