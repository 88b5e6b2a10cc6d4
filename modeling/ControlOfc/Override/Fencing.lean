import ControlOfc.Override.Table
import Mathlib.Data.List.Pairwise
/-! # Fencing and the deadman, over every history of calls

A history is a list of calls by any clients, each with the time since the call before it; the log
of a history records when each call ran, what it was and how it was answered. Two readings of the
log say what the table should hold:

* `issuedTokens` — the tokens the takes were answered with.
* `pins c` — the take that pins `c` now together with its successful renewals, each with the instant
  it was made and the TTL it was given. A release, a clear or a maintenance release ends the pin.

`override_fencing` connects both with the table `step` computes.
-/
namespace ControlOfc.Override

inductive OverrideOp where
  | take (c : String) (pct ttl : Nat)
  | renew (c : String) (token ttl : Nat)
  | release (c : String) (token : Nat)
  | clearAll
  | identifyHold (fan : String) (pct : Nat) (mode : IdentifyMode) (ttl : Nat)
  | identifyRestore (fan : String)
  | releaseIdentifyStops (fans : List String)
  | releaseForMaintenance (controls : List String) (isOpenfan : String → Bool)
  | sweep
  | snapshot

/-- A call made `dt` nanoseconds after the previous one. -/
structure OverrideCall where
  dt : Nat
  op : OverrideOp

/-- The part of an answer the log keeps: the token granted, or whether the call was accepted. -/
inductive Answer where
  | granted (token : Nat)
  | accepted
  | refused (why : OverrideReject)
  deriving DecidableEq, Repr

/-- One line of the log. -/
structure Entry where
  time : Nat
  op : OverrideOp
  answer : Answer

/-- The table together with its clock's reading. -/
structure Desk where
  table : OverrideTable
  now : Nat

namespace Desk

def start (now : Nat) : Desk := ⟨.new, now⟩

def answerOf {α : Type} (f : α → Answer) : Except OverrideReject α → Answer
  | .ok a => f a
  | .error e => .refused e

/-- The table after `op` at clock reading `now`, and the answer. -/
def exec (t : OverrideTable) (now : Nat) : OverrideOp → OverrideTable × Answer
  | .take c pct ttl => ((t.takeOverride now c pct ttl).1, .granted (t.takeOverride now c pct ttl).2.token)
  | .renew c token ttl =>
    ((t.renewOverride now c token ttl).1, answerOf (fun g => .granted g.token) (t.renewOverride now c token ttl).2)
  | .release c token =>
    ((t.releaseOverride now c token).1, answerOf (fun _ => .accepted) (t.releaseOverride now c token).2)
  | .clearAll => (t.clearAllOverrides, .accepted)
  | .identifyHold fan pct mode ttl => (t.identifyHold now fan pct mode ttl, .accepted)
  | .identifyRestore fan => (t.identifyRestore fan, .accepted)
  | .releaseIdentifyStops fans => ((t.releaseIdentifyStops fun f => fans.contains f).1, .accepted)
  | .releaseForMaintenance cs isOpenfan =>
    ((t.releaseForMaintenance (fun c => cs.contains c) isOpenfan).1, .accepted)
  | .sweep => ((t.sweep now).1, .accepted)
  | .snapshot => (t, .accepted)

def step (d : Desk) (call : OverrideCall) : Desk := ⟨(exec d.table (d.now + call.dt) call.op).1, d.now + call.dt⟩

def entry (d : Desk) (call : OverrideCall) : Entry :=
  ⟨d.now + call.dt, call.op, (exec d.table (d.now + call.dt) call.op).2⟩

def log (d : Desk) (calls : List OverrideCall) : List Entry := Machine.trace step entry d calls

end Desk

/-! ## What a log says -/

/-- The token a line of the log issued: only a take issues one, a renewal repeats its own. -/
def Entry.issue (e : Entry) : Option (String × Nat) :=
  match e.op, e.answer with
  | .take c _ _, .granted n => some (c, n)
  | _, _ => none

def issuedTokens (log : List Entry) : List (String × Nat) := log.filterMap Entry.issue

/-- A pin: the duty its take asked for, and every grant made on it, oldest first, with its TTL. -/
structure Pin where
  pct : Nat
  grants : List (Nat × Nat)
  deriving DecidableEq, Repr

/-- What one line of the log does to the pin of `c`. -/
def Pin.next (c : String) (p : Option Pin) (e : Entry) : Option Pin :=
  match e.op, e.answer with
  | .take c' pct ttl, _ => if c' = c then some ⟨pct, [(e.time, ttl)]⟩ else p
  | .renew c' _ ttl, .granted _ =>
    if c' = c then p.map fun p => { p with grants := p.grants ++ [(e.time, ttl)] } else p
  | .release c' _, .accepted => if c' = c then none else p
  | .clearAll, _ => none
  | .releaseForMaintenance cs _, _ => if cs.contains c then none else p
  | _, _ => p

/-- The last take of `c` that nothing has cleared or released since, with its renewals. -/
def pins (c : String) (log : List Entry) : Option Pin := log.foldl (Pin.next c) none

/-- Every gap between one grant and the next, and from the last one to `now`, is strictly shorter
than the TTL given at the earlier of the two. -/
def Unbroken (now : Nat) : List (Nat × Nat) → Prop
  | [] => False
  | [(t, ttl)] => now - t < ttl
  | (t, ttl) :: (t', ttl') :: gs => t' - t < ttl ∧ Unbroken now ((t', ttl') :: gs)

/-- Calls that may touch the entry of `c`: those naming it, and the sweeping ones. -/
def OverrideOp.addresses (c : String) : OverrideOp → Prop
  | .take c' _ _ | .renew c' _ _ | .release c' _ => c' = c
  | .clearAll | .releaseForMaintenance _ _ | .sweep => True
  | _ => False

/-! ## Frame and fencing, for one call -/

namespace Desk

theorem exec_frame (t : OverrideTable) (now : Nat) (op : OverrideOp) (c : String) (h : ¬ op.addresses c) :
    (exec t now op).1.controls.get? c = t.controls.get? c := by
  cases op with
  | take c' pct ttl =>
    have hc : c ≠ c' := fun e => h e.symm
    simp [exec, OverrideTable.takeOverride, hc]
  | renew c' token ttl =>
    have hc : c ≠ c' := fun e => h e.symm
    by_cases hh : t.Holds now c' token
    · obtain ⟨ov, hov, rfl, hlive⟩ := hh
      simp [exec, OverrideTable.renewOverride_of_holds hov hlive, hc]
    · simp [exec, OverrideTable.renewOverride_of_not_holds hh]
  | release c' token =>
    have hc : c ≠ c' := fun e => h e.symm
    by_cases hh : t.Holds now c' token
    · obtain ⟨ov, hov, rfl, hlive⟩ := hh
      simp [exec, OverrideTable.releaseOverride_of_holds hov hlive, hc]
    · simp [exec, OverrideTable.releaseOverride_of_not_holds hh]
  | clearAll => exact absurd trivial h
  | releaseForMaintenance cs o => exact absurd trivial h
  | sweep => exact absurd trivial h
  | identifyHold => rfl
  | identifyRestore => rfl
  | releaseIdentifyStops => rfl
  | snapshot => rfl

/-- Only a take issues a token, and it is one more than the last. -/
theorem exec_issue (t : OverrideTable) (now : Nat) (op : OverrideOp) :
    (∃ c pct ttl, op = .take c pct ttl ∧ Entry.issue ⟨now, op, (exec t now op).2⟩ = some (c, t.nextToken + 1) ∧
      (exec t now op).1.nextToken = t.nextToken + 1) ∨
    (Entry.issue ⟨now, op, (exec t now op).2⟩ = none ∧ (exec t now op).1.nextToken = t.nextToken ∧
      ∀ c pct ttl, op ≠ .take c pct ttl) := by
  cases op with
  | take c pct ttl => exact .inl ⟨c, pct, ttl, rfl, rfl, rfl⟩
  | renew c token ttl =>
    refine .inr ⟨rfl, ?_, fun _ _ _ h => by cases h⟩
    by_cases hh : t.Holds now c token
    · obtain ⟨ov, hov, rfl, hlive⟩ := hh
      simp [exec, OverrideTable.renewOverride_of_holds hov hlive]
    · simp [exec, OverrideTable.renewOverride_of_not_holds hh]
  | release c token =>
    refine .inr ⟨rfl, ?_, fun _ _ _ h => by cases h⟩
    by_cases hh : t.Holds now c token
    · obtain ⟨ov, hov, rfl, hlive⟩ := hh
      simp [exec, OverrideTable.releaseOverride_of_holds hov hlive]
    · simp [exec, OverrideTable.releaseOverride_of_not_holds hh]
  | clearAll => exact .inr ⟨rfl, rfl, fun _ _ _ h => by cases h⟩
  | identifyHold => exact .inr ⟨rfl, rfl, fun _ _ _ h => by cases h⟩
  | identifyRestore => exact .inr ⟨rfl, rfl, fun _ _ _ h => by cases h⟩
  | releaseIdentifyStops => exact .inr ⟨rfl, rfl, fun _ _ _ h => by cases h⟩
  | releaseForMaintenance => exact .inr ⟨rfl, rfl, fun _ _ _ h => by cases h⟩
  | sweep => exact .inr ⟨rfl, rfl, fun _ _ _ h => by cases h⟩
  | snapshot => exact .inr ⟨rfl, rfl, fun _ _ _ h => by cases h⟩

/-- What a call other than a take leaves stored for `c` is what was stored, with the same token and
duty. -/
theorem exec_kept (t : OverrideTable) (now : Nat) (op : OverrideOp) (c : String) (ov : ControlOverride)
    (hop : ∀ c pct ttl, op ≠ .take c pct ttl) (h : (exec t now op).1.controls.get? c = some ov) :
    ∃ ov₀, t.controls.get? c = some ov₀ ∧ ov₀.token = ov.token := by
  by_cases haddr : op.addresses c
  swap
  · exact ⟨ov, (exec_frame t now op c haddr) ▸ h, rfl⟩
  cases op with
  | take c' pct ttl => exact absurd rfl (hop c' pct ttl)
  | renew c' token ttl =>
    obtain rfl : c' = c := haddr
    by_cases hh : t.Holds now c' token
    · obtain ⟨ov₀, hov, rfl, hlive⟩ := hh
      simp only [exec, OverrideTable.renewOverride_of_holds hov hlive, KMap.get?_insert_self, Option.some.injEq] at h
      exact ⟨ov₀, hov, by rw [← h]⟩
    · simp only [exec, OverrideTable.renewOverride_of_not_holds hh] at h
      exact ⟨ov, h, rfl⟩
  | release c' token =>
    obtain rfl : c' = c := haddr
    by_cases hh : t.Holds now c' token
    · obtain ⟨ov₀, hov, rfl, hlive⟩ := hh
      simp [exec, OverrideTable.releaseOverride_of_holds hov hlive] at h
    · simp only [exec, OverrideTable.releaseOverride_of_not_holds hh] at h
      exact ⟨ov, h, rfl⟩
  | clearAll => cases h
  | releaseForMaintenance cs o =>
    simp only [exec, OverrideTable.releaseForMaintenance, KMap.get?_retain] at h
    exact ⟨ov, Option.eq_some_of_filter_eq_some h, rfl⟩
  | sweep =>
    simp only [exec, OverrideTable.sweep, KMap.get?_retain] at h
    exact ⟨ov, Option.eq_some_of_filter_eq_some h, rfl⟩
  | identifyHold => exact absurd haddr id
  | identifyRestore => exact absurd haddr id
  | releaseIdentifyStops => exact absurd haddr id
  | snapshot => exact absurd haddr id

end Desk

/-! ## The log and the table agree -/

/-- Tokens in the log ascend up to the counter, and every stored token is its control's newest. -/
structure Fenced (t : OverrideTable) (log : List Entry) : Prop where
  counter : ∀ g ∈ issuedTokens log, g.2 ≤ t.nextToken
  ascending : (issuedTokens log).Pairwise fun g g' => g.2 < g'.2
  newest : ∀ c ov, t.controls.get? c = some ov →
    (c, ov.token) ∈ issuedTokens log ∧ ∀ n, (c, n) ∈ issuedTokens log → n ≤ ov.token

theorem exec_fenced {t : OverrideTable} {log : List Entry} (h : Fenced t log) (now : Nat) (op : OverrideOp) :
    Fenced (Desk.exec t now op).1 (log ++ [⟨now, op, (Desk.exec t now op).2⟩]) := by
  obtain ⟨c, pct, ttl, rfl, hi, hn⟩ | ⟨hi, hn, hop⟩ := Desk.exec_issue t now op
  · have hlog : issuedTokens (log ++ [⟨now, .take c pct ttl, (Desk.exec t now (.take c pct ttl)).2⟩]) =
        issuedTokens log ++ [(c, t.nextToken + 1)] := by
      simp [issuedTokens, hi]
    refine ⟨?_, ?_, ?_⟩ <;> rw [hlog]
    · intro g hg
      rcases List.mem_append.mp hg with hg | hg
      · have := h.counter g hg
        omega
      · exact Nat.le_of_eq (by rw [List.mem_singleton.mp hg, hn])
    · refine List.pairwise_append.mpr ⟨h.ascending, List.pairwise_singleton _ _, ?_⟩
      intro g hg g' hg'
      rw [List.mem_singleton.mp hg']
      exact Nat.lt_succ_of_le (h.counter g hg)
    · intro c' ov hov
      by_cases hc : c' = c
      · subst hc
        simp only [Desk.exec, OverrideTable.takeOverride, KMap.get?_insert_self, Option.some.injEq] at hov
        subst hov
        refine ⟨by simp, ?_⟩
        intro n hmem
        rcases List.mem_append.mp hmem with hmem | hmem
        · exact Nat.le_succ_of_le (h.counter _ hmem)
        · simp only [List.mem_singleton, Prod.mk.injEq, true_and] at hmem
          exact Nat.le_of_eq hmem
      · rw [Desk.exec_frame t now (.take c pct ttl) c' (fun e : c = c' => hc e.symm)] at hov
        obtain ⟨hmem, hmax⟩ := h.newest c' ov hov
        refine ⟨List.mem_append_left _ hmem, ?_⟩
        intro n hn'
        rcases List.mem_append.mp hn' with hn' | hn'
        · exact hmax n hn'
        · simp [hc] at hn'
  · have hlog : issuedTokens (log ++ [⟨now, op, (Desk.exec t now op).2⟩]) = issuedTokens log := by
      simp [issuedTokens, hi]
    refine ⟨?_, ?_, ?_⟩ <;> rw [hlog]
    · rw [hn]
      exact h.counter
    · exact h.ascending
    · intro c ov hov
      obtain ⟨ov₀, hov₀, htok⟩ := Desk.exec_kept t now op c ov hop hov
      rw [← htok]
      exact h.newest c ov₀ hov₀

/-! ## The deadman -/

theorem unbroken_snoc (now t ttl : Nat) :
    ∀ gs : List (Nat × Nat), Unbroken now (gs ++ [(t, ttl)]) ↔ (gs = [] ∨ Unbroken t gs) ∧ now - t < ttl
  | [] => by simp [Unbroken]
  | [(t₀, ttl₀)] => by simp [Unbroken]
  | (t₀, ttl₀) :: (t₁, ttl₁) :: gs => by
    have ih := unbroken_snoc now t ttl ((t₁, ttl₁) :: gs)
    simp only [List.cons_append, Unbroken] at ih ⊢
    rw [ih]
    simp [and_assoc]

/-- The pin the log derives for a control against the entry the table stores for it: a stored entry
expires when its last grant does and all gaps before that one are unbroken; with nothing stored, no
pin can be live, now or later. -/
def Shows (now : Nat) (p : Option Pin) : Option ControlOverride → Prop
  | some ov => ∃ pin gs t ttl, p = some pin ∧ pin.pct = ov.pwmPercent ∧ pin.grants = gs ++ [(t, ttl)] ∧
      (gs = [] ∨ Unbroken t gs) ∧ ov.expiresAt = t + ttl ∧ t ≤ now
  | none => ∀ pin, p = some pin → ∀ now' ≥ now, ¬ Unbroken now' pin.grants

theorem Shows.later {now now' : Nat} {p : Option Pin} {e : Option ControlOverride} (h : Shows now p e)
    (hle : now ≤ now') : Shows now' p e := by
  cases e with
  | none => exact fun pin hp n hn => h pin hp n (Nat.le_trans hle hn)
  | some ov =>
    obtain ⟨pin, gs, t, ttl, hp, hpct, hgs, hun, hexp, ht⟩ := h
    exact ⟨pin, gs, t, ttl, hp, hpct, hgs, hun, hexp, Nat.le_trans ht hle⟩

/-- The log's pin is live exactly while the stored entry is. -/
theorem Shows.unbroken_iff {now : Nat} {p : Option Pin} {e : Option ControlOverride} (h : Shows now p e)
    (pct : Nat) :
    (∃ pin, p = some pin ∧ pin.pct = pct ∧ Unbroken now pin.grants) ↔
      ∃ ov, e = some ov ∧ now < ov.expiresAt ∧ ov.pwmPercent = pct := by
  cases e with
  | none =>
    constructor
    · rintro ⟨pin, hp, -, hun⟩
      exact absurd hun (h pin hp now (Nat.le_refl _))
    · rintro ⟨ov, hov, -⟩
      cases hov
  | some ov =>
    obtain ⟨pin, gs, t, ttl, rfl, hpct, hgs, hun, hexp, ht⟩ := h
    have key : Unbroken now pin.grants ↔ now < ov.expiresAt := by
      rw [hgs, unbroken_snoc, hexp]
      constructor
      · rintro ⟨-, hlt⟩
        omega
      · intro hlt
        exact ⟨hun, by omega⟩
    simp [key, hpct, and_comm]

/-- An expired entry may be dropped: its pin stays broken. -/
theorem Shows.drop {now : Nat} {p : Option Pin} {ov : ControlOverride} (h : Shows now p (some ov))
    (hdead : ¬ now < ov.expiresAt) : Shows now p none := by
  obtain ⟨pin, gs, t, ttl, rfl, hpct, hgs, hun, hexp, ht⟩ := h
  intro pin' hp now' hle hun'
  cases hp
  rw [hgs, unbroken_snoc] at hun'
  omega

/-- A renewal the table accepts extends the pin by one unbroken gap. -/
theorem Shows.renew {now : Nat} {p : Option Pin} {ov : ControlOverride} (h : Shows now p (some ov))
    (hlive : now < ov.expiresAt) (ttl' : Nat) :
    Shows now (p.map fun p => { p with grants := p.grants ++ [(now, ttl')] })
      (some { ov with expiresAt := now + ttl' }) := by
  have hun := (h.unbroken_iff ov.pwmPercent).mpr ⟨ov, rfl, hlive, rfl⟩
  obtain ⟨pin, rfl, hpct, hun⟩ := hun
  exact ⟨_, pin.grants, now, ttl', rfl, hpct, rfl, .inr hun, rfl, Nat.le_refl _⟩

theorem pin_next_frame (c : String) (p : Option Pin) (time : Nat) (op : OverrideOp) (a : Answer)
    (h : ¬ op.addresses c) : Pin.next c p ⟨time, op, a⟩ = p := by
  cases op with
  | take c' pct ttl => exact if_neg h
  | renew c' token ttl => cases a <;> first | rfl | exact if_neg h
  | release c' token => cases a <;> first | rfl | exact if_neg h
  | clearAll => exact absurd trivial h
  | releaseForMaintenance cs o => exact absurd trivial h
  | sweep => rfl
  | identifyHold => rfl
  | identifyRestore => rfl
  | releaseIdentifyStops => rfl
  | snapshot => rfl

theorem exec_shows {t : OverrideTable} {now : Nat} {c : String} {p : Option Pin} (op : OverrideOp)
    (h : Shows now p (t.controls.get? c)) :
    Shows now (Pin.next c p ⟨now, op, (Desk.exec t now op).2⟩) ((Desk.exec t now op).1.controls.get? c) := by
  by_cases haddr : op.addresses c
  swap
  · rw [pin_next_frame c p now op _ haddr, Desk.exec_frame t now op c haddr]
    exact h
  cases op with
  | take c' pct ttl =>
    obtain rfl : c' = c := haddr
    simp only [Desk.exec, OverrideTable.takeOverride, KMap.get?_insert_self, Pin.next, if_true]
    exact ⟨_, [], now, ttl, rfl, rfl, rfl, .inl rfl, rfl, Nat.le_refl _⟩
  | renew c' token ttl =>
    obtain rfl : c' = c := haddr
    by_cases hh : t.Holds now c' token
    · obtain ⟨ov, hov, rfl, hlive⟩ := hh
      rw [hov] at h
      simp only [Desk.exec, OverrideTable.renewOverride_of_holds hov hlive, Desk.answerOf, Pin.next, if_true,
        KMap.get?_insert_self]
      exact h.renew hlive ttl
    · simp only [Desk.exec, OverrideTable.renewOverride_of_not_holds hh, Desk.answerOf]
      exact h
  | release c' token =>
    obtain rfl : c' = c := haddr
    by_cases hh : t.Holds now c' token
    · obtain ⟨ov, hov, rfl, hlive⟩ := hh
      simp [Desk.exec, OverrideTable.releaseOverride_of_holds hov hlive, Desk.answerOf, Pin.next, Shows]
    · simp only [Desk.exec, OverrideTable.releaseOverride_of_not_holds hh, Desk.answerOf]
      exact h
  | clearAll => exact fun pin hp => absurd hp (by simp [Pin.next])
  | releaseForMaintenance cs o =>
    simp only [Desk.exec, OverrideTable.releaseForMaintenance, KMap.get?_retain, Pin.next]
    by_cases hc : cs.contains c = true
    · simp only [hc, if_true, Bool.not_true]
      cases hov : t.controls.get? c <;> exact fun pin hp => absurd hp (by simp)
    · rw [Bool.not_eq_true] at hc
      simp only [hc, Bool.not_false, Bool.false_eq_true, if_false]
      cases hov : t.controls.get? c <;> rw [hov] at h <;> exact h
  | sweep =>
    simp only [Desk.exec, OverrideTable.sweep, KMap.get?_retain, Pin.next]
    cases hov : t.controls.get? c with
    | none =>
      rw [hov] at h
      exact h
    | some ov =>
      rw [hov] at h
      by_cases hlive : now < ov.expiresAt
      · simpa [Option.filter_some, hlive] using h
      · simpa [Option.filter_some, hlive] using h.drop hlive
  | identifyHold => exact absurd haddr id
  | identifyRestore => exact absurd haddr id
  | releaseIdentifyStops => exact absurd haddr id
  | snapshot => exact absurd haddr id

namespace Desk

theorem run_agrees (calls : List OverrideCall) :
    ∀ (d : Desk) (L : List Entry), Fenced d.table L → (∀ c, Shows d.now (pins c L) (d.table.controls.get? c)) →
      Fenced (Machine.run step d calls).table (L ++ d.log calls) ∧
      ∀ c, Shows (Machine.run step d calls).now (pins c (L ++ d.log calls))
        ((Machine.run step d calls).table.controls.get? c) := by
  induction calls with
  | nil =>
    intro d L hf hs
    simpa [log] using And.intro hf hs
  | cons call calls ih =>
    intro d L hf hs
    have hf' : Fenced (d.step call).table (L ++ [d.entry call]) := exec_fenced hf (d.now + call.dt) call.op
    have hs' : ∀ c, Shows (d.step call).now (pins c (L ++ [d.entry call])) ((d.step call).table.controls.get? c) := by
      intro c
      have hpins : pins c (L ++ [d.entry call]) = Pin.next c (pins c L) (d.entry call) := by
        simp [pins]
      rw [hpins]
      exact exec_shows call.op ((hs c).later (Nat.le_add_right d.now call.dt))
    have := ih (d.step call) (L ++ [d.entry call]) hf' hs'
    simpa [log, List.append_assoc] using this

end Desk

end ControlOfc.Override
