import ControlOfc.Lib.Machine
import Mathlib.Tactic.Cases
import Mathlib.Algebra.Group.Nat.Defs
/-! # The hwmon write arbiter (hwmon/lease.rs)

`LeaseManager` hands one write token at a time to three in-process writers. Every operation reads
the monotonic clock once; an `Instant` is a number of nanoseconds here, and a call carries the time
that passed since the call before it, so readings never decrease whatever the calls are.

* `next_id` is a `u64` that a release build wraps, so an id is fresh only for the first `2^64 - 1`
  grants (`LeaseManager.nextId`).
* `lease_id` is the source's own string, `format!("lease-{}", next_id)`.
-/
namespace ControlOfc.Hwmon

/-- `HwmonWriter` (lease.rs:31). -/
inductive HwmonWriter where
  | engine
  | verify
  | thermalSafety
  deriving DecidableEq, Repr

/-- `HwmonLease` (lease.rs:53). -/
structure HwmonLease where
  leaseId : String
  owner : HwmonWriter
  expiresAt : Nat
  deriving DecidableEq, Repr

/-- `LeaseError` (lease.rs:64). -/
inductive LeaseError where
  | alreadyHeld (owner : HwmonWriter) (ttlSeconds : Nat)
  | invalidLease
  | expired
  | noLease
  deriving DecidableEq, Repr

/-- `LeaseManager` (lease.rs:96), its clock apart. -/
structure LeaseManager where
  active : Option HwmonLease
  ttl : Nat
  nextId : Nat
  deriving DecidableEq, Repr

/-- `Duration::as_secs` of a span in nanoseconds. -/
def asSecs (ns : Nat) : Nat := ns / 1000000000

/-- `DEFAULT_LEASE_TTL` (lease.rs:17). -/
def defaultLeaseTtl : Nat := 60 * 1000000000

/-- `format!("lease-{}", n)`. -/
def leaseName (n : Nat) : String := "lease-" ++ toString n

/-- `next_id += 1` on a `u64`. -/
def bumpId (n : Nat) : Nat := (n + 1) % 2 ^ 64

namespace LeaseManager

/-- `with_clock` (lease.rs:117). -/
def withTtl (ttl : Nat) : LeaseManager := ⟨none, ttl, 1⟩

/-- The token a grant to `owner` issues. -/
def newLease (m : LeaseManager) (now : Nat) (owner : HwmonWriter) : HwmonLease :=
  ⟨leaseName m.nextId, owner, now + m.ttl⟩

/-- Storing a freshly issued token. -/
def grant (m : LeaseManager) (now : Nat) (owner : HwmonWriter) : LeaseManager :=
  { m with active := some (m.newLease now owner), nextId := bumpId m.nextId }

/-- `take_lease` (lease.rs:130). -/
def takeLease (m : LeaseManager) (now : Nat) (owner : HwmonWriter) :
    LeaseManager × Except LeaseError HwmonLease :=
  match m.active with
  | some lease =>
    if now < lease.expiresAt then
      (m, .error (.alreadyHeld lease.owner (asSecs (lease.expiresAt - now))))
    else (m.grant now owner, .ok (m.newLease now owner))
  | none => (m.grant now owner, .ok (m.newLease now owner))

/-- `release_lease` (lease.rs:158): the id alone decides, expired or not. -/
def releaseLease (m : LeaseManager) (leaseId : String) : LeaseManager × Except LeaseError Unit :=
  match m.active with
  | some lease =>
    if lease.leaseId = leaseId then ({ m with active := none }, .ok ()) else (m, .error .invalidLease)
  | none => (m, .error .noLease)

/-- `validate_lease` (lease.rs:170). -/
def validateLease (m : LeaseManager) (now : Nat) (leaseId : String) : Except LeaseError Unit :=
  match m.active with
  | some lease =>
    if lease.leaseId = leaseId ∧ now < lease.expiresAt then .ok ()
    else if lease.leaseId = leaseId then .error .expired
    else .error .invalidLease
  | none => .error .invalidLease

/-- `renew_lease` (lease.rs:180). -/
def renewLease (m : LeaseManager) (now : Nat) (leaseId : String) :
    LeaseManager × Except LeaseError HwmonLease :=
  match m.active with
  | some lease =>
    if lease.leaseId = leaseId ∧ now < lease.expiresAt then
      let lease' := { lease with expiresAt := now + m.ttl }
      ({ m with active := some lease' }, .ok lease')
    else if lease.leaseId = leaseId then (m, .error .expired)
    else (m, .error .invalidLease)
  | none => (m, .error .invalidLease)

/-- `force_take_lease` (lease.rs:202): evicts whatever is held. -/
def forceTakeLease (m : LeaseManager) (now : Nat) (owner : HwmonWriter) : LeaseManager × HwmonLease :=
  (m.grant now owner, m.newLease now owner)

/-- `active_lease` (lease.rs:227). -/
def activeLease (m : LeaseManager) (now : Nat) : Option HwmonLease :=
  m.active.filter fun lease => now < lease.expiresAt

end LeaseManager

/-! ## Histories of calls -/

inductive LeaseOp where
  | take (owner : HwmonWriter)
  | forceTake (owner : HwmonWriter)
  | renew (leaseId : String)
  | release (leaseId : String)
  | validate (leaseId : String)
  deriving DecidableEq, Repr

/-- A call made `dt` nanoseconds after the previous one. -/
structure LeaseCall where
  dt : Nat
  op : LeaseOp
  deriving DecidableEq, Repr

inductive LeaseReply where
  | token (r : Except LeaseError HwmonLease)
  | done (r : Except LeaseError Unit)

/-- The manager together with its clock's reading. -/
structure Arbiter where
  mgr : LeaseManager
  now : Nat
  deriving DecidableEq, Repr

namespace Arbiter

def start (ttl now : Nat) : Arbiter := ⟨.withTtl ttl, now⟩

def call (a : Arbiter) (c : LeaseCall) : Arbiter × LeaseReply :=
  let now := a.now + c.dt
  match c.op with
  | .take w => (⟨(a.mgr.takeLease now w).1, now⟩, .token (a.mgr.takeLease now w).2)
  | .forceTake w => (⟨(a.mgr.forceTakeLease now w).1, now⟩, .token (.ok (a.mgr.forceTakeLease now w).2))
  | .renew id => (⟨(a.mgr.renewLease now id).1, now⟩, .token (a.mgr.renewLease now id).2)
  | .release id => (⟨(a.mgr.releaseLease id).1, now⟩, .done (a.mgr.releaseLease id).2)
  | .validate id => (⟨a.mgr, now⟩, .done (a.mgr.validateLease now id))

def step (a : Arbiter) (c : LeaseCall) : Arbiter := (a.call c).1

/-- `validate_lease(id)` answered `dt` nanoseconds from now. -/
def validates (a : Arbiter) (dt : Nat) (id : String) : Prop := a.mgr.validateLease (a.now + dt) id = .ok ()

instance (a : Arbiter) (dt : Nat) (id : String) : Decidable (a.validates dt id) :=
  inferInstanceAs (Decidable (_ = _))

/-- What a call issued, and to whom: only the two takes issue, a renewal re-dates its own token. -/
def issue (a : Arbiter) (c : LeaseCall) : Option (HwmonWriter × HwmonLease) :=
  match c.op, (a.call c).2 with
  | .take w, .token (.ok l) => some (w, l)
  | .forceTake w, .token (.ok l) => some (w, l)
  | _, _ => none

/-- Every token a history issued, with the writer it was issued to, oldest first. -/
def issued (a : Arbiter) (cs : List LeaseCall) : List (HwmonWriter × HwmonLease) :=
  (Machine.trace step issue a cs).filterMap id

@[simp] theorem issued_nil (a : Arbiter) : a.issued [] = [] := rfl

@[simp] theorem issued_cons (a : Arbiter) (c : LeaseCall) (cs : List LeaseCall) :
    a.issued (c :: cs) = (a.issue c).toList ++ (a.step c).issued cs := by
  cases h : a.issue c <;> simp [issued, h]

@[simp] theorem issued_append (a : Arbiter) (cs cs' : List LeaseCall) :
    a.issued (cs ++ cs') = a.issued cs ++ (Machine.run step a cs).issued cs' := by
  simp [issued]

end Arbiter

/-! ## One call -/

theorem leaseName_injective : Function.Injective leaseName := by
  intro m n h
  have hd : (toString m).toList = (toString n).toList := by
    have := congrArg String.toList h
    simpa [leaseName] using this
  have hv := congrArg (Nat.ofDigitChars 10 · 0) hd
  simpa [Nat.toString_eq_ofList_toDigits, Nat.ofDigitChars_ten_toDigits] using hv

@[simp] theorem leaseName_inj {m n : Nat} : leaseName m = leaseName n ↔ m = n :=
  leaseName_injective.eq_iff

namespace Arbiter

@[simp] theorem step_now (a : Arbiter) (c : LeaseCall) : (a.step c).now = a.now + c.dt := by
  obtain ⟨dt, op⟩ := c
  cases op <;> rfl

/-- Everything a call can do: issue a fresh token, leave the manager alone, re-date the live token,
or drop it. -/
theorem step_cases (a : Arbiter) (c : LeaseCall) :
    (∃ w, a.issue c = some (w, a.mgr.newLease (a.now + c.dt) w) ∧
      (a.step c).mgr = a.mgr.grant (a.now + c.dt) w) ∨
    (a.issue c = none ∧ (a.step c).mgr = a.mgr) ∨
    (∃ l, a.issue c = none ∧ a.mgr.active = some l ∧ a.now + c.dt < l.expiresAt ∧
      (a.step c).mgr = { a.mgr with active := some { l with expiresAt := a.now + c.dt + a.mgr.ttl } }) ∨
    (a.issue c = none ∧ (a.step c).mgr = { a.mgr with active := none }) := by
  obtain ⟨⟨active, ttl, nextId⟩, now⟩ := a
  obtain ⟨dt, op⟩ := c
  cases op with
  | take w =>
    cases active with
    | none => exact .inl ⟨w, rfl, rfl⟩
    | some l =>
      by_cases h : now + dt < l.expiresAt
      · exact .inr (.inl ⟨by simp [issue, call, LeaseManager.takeLease, h],
          by simp [step, call, LeaseManager.takeLease, h]⟩)
      · exact .inl ⟨w, by simp [issue, call, LeaseManager.takeLease, h],
          by simp [step, call, LeaseManager.takeLease, h]⟩
  | forceTake w => exact .inl ⟨w, rfl, rfl⟩
  | renew id =>
    cases active with
    | none => exact .inr (.inl ⟨rfl, rfl⟩)
    | some l =>
      by_cases hid : l.leaseId = id <;> by_cases h : now + dt < l.expiresAt
      · exact .inr (.inr (.inl ⟨l, rfl, rfl, h, by simp [step, call, LeaseManager.renewLease, hid, h]⟩))
      all_goals exact .inr (.inl ⟨rfl, by simp [step, call, LeaseManager.renewLease, hid, h]⟩)
  | release id =>
    cases active with
    | none => exact .inr (.inl ⟨rfl, rfl⟩)
    | some l =>
      by_cases hid : l.leaseId = id
      · exact .inr (.inr (.inr ⟨rfl, by simp [step, call, LeaseManager.releaseLease, hid]⟩))
      · exact .inr (.inl ⟨rfl, by simp [step, call, LeaseManager.releaseLease, hid]⟩)
  | validate id => exact .inr (.inl ⟨rfl, rfl⟩)

theorem validates_iff (a : Arbiter) (dt : Nat) (id : String) :
    a.validates dt id ↔ ∃ l, a.mgr.active = some l ∧ l.leaseId = id ∧ a.now + dt < l.expiresAt := by
  unfold validates LeaseManager.validateLease
  cases a.mgr.active with
  | none => simp
  | some l => by_cases hid : l.leaseId = id <;> by_cases h : a.now + dt < l.expiresAt <;> simp [hid, h]

/-! ## Whole histories -/

/-- The counter, the issued ids and the holder agree with the list of grants so far. -/
structure Tracks (a : Arbiter) (gs : List (HwmonWriter × HwmonLease)) : Prop where
  counter : a.mgr.nextId = (gs.length + 1) % 2 ^ 64
  names : ∀ i g, gs[i]? = some g → g.2.leaseId = leaseName ((i + 1) % 2 ^ 64)
  holder : ∀ l, a.mgr.active = some l → ∃ g, gs.getLast? = some g ∧ g.1 = l.owner ∧ g.2.leaseId = l.leaseId

theorem tracks_start (ttl t₀ : Nat) : (start ttl t₀).Tracks [] := by
  refine ⟨rfl, by simp, ?_⟩
  intro l hl
  cases hl

theorem step_tracks {a : Arbiter} {gs} (h : a.Tracks gs) (c : LeaseCall) :
    (a.step c).Tracks (gs ++ (a.issue c).toList) := by
  obtain ⟨w, hi, hm⟩ | ⟨hi, hm⟩ | ⟨l, hi, ha, -, hm⟩ | ⟨hi, hm⟩ := a.step_cases c
  · refine ⟨?_, ?_, ?_⟩
    · simp [hm, hi, LeaseManager.grant, bumpId, h.counter]
    · intro i g hg
      rcases Nat.lt_trichotomy i gs.length with hlt | heq | hgt
      · rw [List.getElem?_append_left hlt] at hg
        exact h.names i g hg
      · subst heq
        simp only [hi, Option.toList_some, List.getElem?_concat_length, Option.some.injEq] at hg
        simp [← hg, LeaseManager.newLease, h.counter]
      · simp [hi, List.getElem?_append_right (Nat.le_of_lt hgt), List.getElem?_singleton] at hg
        omega
    · intro l hl
      refine ⟨(w, a.mgr.newLease (a.now + c.dt) w), by simp [hi], ?_⟩
      simp only [hm, LeaseManager.grant, Option.some.injEq] at hl
      simp [← hl, LeaseManager.newLease]
  · simp only [hi, Option.toList_none, List.append_nil]
    exact ⟨by rw [hm]; exact h.counter, h.names, by rw [hm]; exact h.holder⟩
  · simp only [hi, Option.toList_none, List.append_nil]
    refine ⟨by rw [hm]; exact h.counter, h.names, ?_⟩
    intro l' hl'
    simp only [hm, Option.some.injEq] at hl'
    subst hl'
    exact h.holder l ha
  · simp only [hi, Option.toList_none, List.append_nil]
    exact ⟨by rw [hm]; exact h.counter, h.names, by rw [hm]; simp⟩

theorem run_tracks (cs : List LeaseCall) :
    ∀ (a : Arbiter) (gs), a.Tracks gs → (Machine.run step a cs).Tracks (gs ++ a.issued cs) := by
  induction cs with
  | nil => intro a gs h; simpa using h
  | cons c cs ih =>
    intro a gs h
    have := ih _ _ (step_tracks h c)
    simpa [List.append_assoc] using this

/-- The ids a history of fewer than `2^64` grants issued are pairwise distinct. -/
theorem Tracks.eq_of_leaseId {a : Arbiter} {gs} (h : a.Tracks gs) (hlen : gs.length < 2 ^ 64) {i j : Nat} {g g'}
    (hi : gs[i]? = some g) (hj : gs[j]? = some g') (hid : g.2.leaseId = g'.2.leaseId) : i = j := by
  have hi' : i < gs.length := (List.getElem?_eq_some_iff.mp hi).1
  have hj' : j < gs.length := (List.getElem?_eq_some_iff.mp hj).1
  rw [h.names i g hi, h.names j g' hj, leaseName_inj] at hid
  omega

/-- No live token carries the id `leaseName k`. -/
def Dead (a : Arbiter) (k : Nat) : Prop :=
  ∀ l, a.mgr.active = some l → l.leaseId = leaseName k → l.expiresAt ≤ a.now

/-- An id already issued stays dead: a grant uses a later number, a renewal needs a live token. -/
theorem step_dead {a : Arbiter} {gs} (h : a.Tracks gs) (c : LeaseCall) {k : Nat}
    (hk : 0 < k ∧ k ≤ gs.length) (hlen : (gs ++ (a.issue c).toList).length < 2 ^ 64) (hd : a.Dead k) :
    (a.step c).Dead k := by
  intro l hl hid
  rw [step_now]
  obtain ⟨w, hi, hm⟩ | ⟨hi, hm⟩ | ⟨l₀, hi, ha, hlive, hm⟩ | ⟨hi, hm⟩ := a.step_cases c
  · simp only [hm, LeaseManager.grant, Option.some.injEq] at hl
    simp only [← hl, LeaseManager.newLease, h.counter, leaseName_inj] at hid
    simp only [hi, Option.toList_some, List.length_append, List.length_singleton] at hlen
    omega
  · rw [hm] at hl
    have := hd l hl hid
    omega
  · simp only [hm, Option.some.injEq] at hl
    subst hl
    have := hd l₀ ha hid
    omega
  · simp [hm] at hl

theorem run_dead {k : Nat} (cs : List LeaseCall) :
    ∀ (a : Arbiter) (gs), a.Tracks gs → 0 < k ∧ k ≤ gs.length → (gs ++ a.issued cs).length < 2 ^ 64 →
      a.Dead k → (Machine.run step a cs).Dead k := by
  induction cs with
  | nil => intro a gs _ _ _ hd; exact hd
  | cons c cs ih =>
    intro a gs h hk hlen hd
    rw [issued_cons, ← List.append_assoc] at hlen
    have hlen' : (gs ++ (a.issue c).toList).length < 2 ^ 64 :=
      Nat.lt_of_le_of_lt (by simp) hlen
    exact ih _ _ (step_tracks h c) ⟨hk.1, by simp; omega⟩ hlen (step_dead h c hk hlen' hd)

/-- **The write arbiter.** Over every history of calls with fewer than `2^64` grants: an id that
validates is the newest one issued, was issued to the writer that holds it and to no other, and no
second id validates at that instant; an issued id that once fails to validate never does again. -/
theorem write_arbiter (ttl t₀ : Nat) (cs : List LeaseCall) (dt : Nat) (id : String) (cs' : List LeaseCall)
    (hgrants : ((start ttl t₀).issued (cs ++ ⟨dt, .validate id⟩ :: cs')).length < 2 ^ 64) :
    let a := Machine.run step (start ttl t₀) cs
    let gs := (start ttl t₀).issued cs
    (a.validates dt id →
      (∃ w l, gs.getLast? = some (w, l) ∧ l.leaseId = id ∧
        (∃ held, a.mgr.activeLease (a.now + dt) = some held ∧ held.leaseId = id ∧ held.owner = w) ∧
        ∀ w' l', (w', l') ∈ gs → l'.leaseId = id → (w', l') = (w, l)) ∧
      ∀ id', a.validates dt id' → id' = id) ∧
    ((∃ w l, (w, l) ∈ gs ∧ l.leaseId = id) → ¬ a.validates dt id →
      ∀ dt', ¬ (Machine.run step (a.step ⟨dt, .validate id⟩) cs').validates dt' id) := by
  intro a gs
  have ht : a.Tracks gs := by simpa using run_tracks cs _ [] (tracks_start ttl t₀)
  have hissue : a.issue ⟨dt, .validate id⟩ = none := rfl
  rw [issued_append, issued_cons, hissue, Option.toList_none, List.nil_append, List.length_append] at hgrants
  have hlen : gs.length < 2 ^ 64 := Nat.lt_of_le_of_lt (Nat.le_add_right _ _) hgrants
  refine ⟨fun hv => ⟨?_, ?_⟩, ?_⟩
  · obtain ⟨held, hact, hid, hlive⟩ := (a.validates_iff dt id).mp hv
    obtain ⟨⟨w, l⟩, hlast, hw, hl⟩ := ht.holder held hact
    refine ⟨w, l, hlast, hl.trans hid, ⟨held, by simp [LeaseManager.activeLease, hact, hlive], hid, hw.symm⟩, ?_⟩
    intro w' l' hmem hl'
    obtain ⟨i, hi⟩ := List.mem_iff_getElem?.mp hmem
    rw [List.getLast?_eq_getElem?] at hlast
    have hij := ht.eq_of_leaseId hlen hi hlast (hl'.trans (hl.trans hid).symm)
    rw [hij, hlast] at hi
    exact (Option.some.inj hi).symm
  · intro id' hv'
    obtain ⟨l, hact, hid, -⟩ := (a.validates_iff dt id).mp hv
    obtain ⟨l', hact', hid', -⟩ := (a.validates_iff dt id').mp hv'
    rw [hact] at hact'
    cases hact'
    exact hid'.symm.trans hid
  · rintro ⟨w, l, hmem, hid⟩ hfail dt' hv
    obtain ⟨i, hi⟩ := List.mem_iff_getElem?.mp hmem
    have hi' : i < gs.length := (List.getElem?_eq_some_iff.mp hi).1
    have hname : leaseName (i + 1) = id := by
      have := ht.names i _ hi
      rw [Nat.mod_eq_of_lt (by omega)] at this
      exact this.symm.trans hid
    have hdead : (a.step ⟨dt, .validate id⟩).Dead (i + 1) := by
      intro l' hl' hid'
      by_contra hlive
      exact hfail ((a.validates_iff dt id).mpr ⟨l', hl', hid'.trans hname, by simpa using hlive⟩)
    have ht' := step_tracks ht ⟨dt, .validate id⟩
    simp only [hissue, Option.toList_none, List.append_nil] at ht'
    have hrun := run_dead cs' _ gs ht' ⟨Nat.succ_pos i, hi'⟩ (by rw [List.length_append]; exact hgrants) hdead
    obtain ⟨l', hact', hid', hlive'⟩ := (validates_iff _ dt' id).mp hv
    have := hrun l' hact' (hid'.trans hname.symm)
    omega

/-- An engine token evicted by the thermal force stays dead, whatever is tried with it next. -/
theorem write_arbiter_evicted :
    ¬ (Machine.run step (start defaultLeaseTtl 0)
      [⟨0, .take .engine⟩, ⟨5, .forceTake .thermalSafety⟩, ⟨1, .validate "lease-1"⟩,
        ⟨1, .renew "lease-1"⟩, ⟨1, .release "lease-1"⟩]).validates 3 "lease-1" :=
  (write_arbiter defaultLeaseTtl 0 [⟨0, .take .engine⟩, ⟨5, .forceTake .thermalSafety⟩] 1 "lease-1"
    [⟨1, .renew "lease-1"⟩, ⟨1, .release "lease-1"⟩] (by decide)).2
    ⟨.engine, ⟨"lease-1", .engine, defaultLeaseTtl⟩, by decide, rfl⟩ (by decide) 3

end Arbiter

end ControlOfc.Hwmon
