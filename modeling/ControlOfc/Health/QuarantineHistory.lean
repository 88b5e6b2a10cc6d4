import ControlOfc.Health.SensorFailure
import ControlOfc.Lib.History
/-! # What a quarantine says of the past

A tracker keeps a streak and a quarantine entry for each id it was told of. Both are read off the history of the
calls: how often an id has failed in a row while it was there decides them, and nothing of an id survives a call
without it.
-/
namespace ControlOfc.Health
open Hwmon History

/-- One call of `record_tick`. -/
structure Tick where
  descriptors : List SensorDescriptor
  failures : List SensorReadFailure
  now : Nat
  distinct : (descriptors.map (·.id)).Nodup

namespace Tick

def present (c : Tick) (id : String) : Bool := c.descriptors.any (·.id = id)

def failure (c : Tick) (id : String) : Option SensorReadFailure := c.failures.reverse.find? (·.id = id)

/-- It is there, and its read failed. -/
def fails (id : String) (c : Tick) : Bool := c.present id && (c.failure id).isSome

/-- The quarantine entry of a failure of this call. -/
def entry (c : Tick) (id : String) (f : SensorReadFailure) : UnavailableSensor := ⟨id, f.label, f.reason, c.now⟩

end Tick

/-- The tracker after these calls. -/
def track (threshold : Nat) (h : List Tick) : SensorFailureTracker :=
  Machine.run (fun t (c : Tick) => t.recordTick c.descriptors c.failures c.now) (.new threshold) h

/-- `u` was written by the call in which its id had failed `threshold` times in a row and failed again; it has
failed in every call since. -/
def Entered (threshold : Nat) (h : List Tick) (u : UnavailableSensor) : Prop :=
  ∃ before c after f, h = before ++ c :: after ∧ trailing (Tick.fails u.id) before = threshold ∧
    (c.present u.id ∧ c.failure u.id = some f ∧ u = c.entry u.id f) ∧ ∀ c' ∈ after, c'.fails u.id

variable {threshold : Nat} {h : List Tick} {c : Tick} {x : String}

theorem fails_eq {f : SensorReadFailure} (hp : c.present x) (hf : c.failure x = some f) : c.fails x := by
  simp [Tick.fails, hp, hf]

theorem entered_concat {u : UnavailableSensor} :
    Entered threshold (h ++ [c]) u ↔
      c.fails u.id ∧ (Entered threshold h u ∨
        trailing (Tick.fails u.id) h = threshold ∧ ∃ f, c.failure u.id = some f ∧ u = c.entry u.id f) := by
  constructor
  · rintro ⟨before, c', after, f, heq, htrail, ⟨hp, hf, hu⟩, hafter⟩
    rcases concat_eq_append_cons heq with ⟨rfl, rfl, rfl⟩ | ⟨after', rfl, rfl⟩
    · exact ⟨fails_eq hp hf, .inr ⟨htrail, f, hf, hu⟩⟩
    · have hc := hafter c (List.mem_append_right _ (List.mem_singleton_self c))
      exact ⟨hc, .inl ⟨before, c', after', f, rfl, htrail, ⟨hp, hf, hu⟩,
        fun c'' hc'' => hafter c'' (List.mem_append_left _ hc'')⟩⟩
  · rintro ⟨hfails, ⟨before, c', after, f, rfl, htrail, hu, hafter⟩ | ⟨htrail, f, hf, hu⟩⟩
    · refine ⟨before, c', after ++ [c], f, by simp, htrail, hu, fun c'' hc'' => ?_⟩
      rcases List.mem_append.mp hc'' with hc'' | hc''
      · exact hafter c'' hc''
      · rwa [List.mem_singleton.mp hc'']
    · refine ⟨h, c, [], f, rfl, htrail, ⟨?_, hf, hu⟩, nofun⟩
      exact (Bool.and_eq_true_iff.mp hfails).1

/-- There is an entry as long as the id has failed more than `threshold` times in a row. -/
theorem exists_entered_iff : (∃ u, u.id = x ∧ Entered threshold h u) ↔ threshold < trailing (Tick.fails x) h := by
  induction h using List.reverseRecOn with
  | nil =>
    rw [trailing_nil]
    refine iff_of_false ?_ (Nat.not_lt_zero _)
    rintro ⟨u, -, before, c, after, f, heq, -⟩
    simp at heq
  | append_singleton h c ih =>
    rw [trailing_concat]
    constructor
    · rintro ⟨u, rfl, hu⟩
      obtain ⟨hfails, hold | ⟨htrail, -⟩⟩ := entered_concat.mp hu
      · rw [if_pos hfails]
        exact Nat.lt_succ_of_lt (ih.mp ⟨u, rfl, hold⟩)
      · rw [if_pos hfails, htrail]
        exact Nat.lt_succ_self _
    · intro hlt
      split at hlt
      · next hfails =>
        rcases Nat.lt_succ_iff_lt_or_eq.mp hlt with hlt | heq
        · obtain ⟨u, rfl, hu⟩ := ih.mpr hlt
          exact ⟨u, rfl, entered_concat.mpr ⟨hfails, .inl hu⟩⟩
        · obtain ⟨f, hf⟩ := Option.isSome_iff_exists.mp (Bool.and_eq_true_iff.mp hfails).2
          exact ⟨c.entry x f, rfl, entered_concat.mpr ⟨hfails, .inr ⟨heq.symm, f, hf, rfl⟩⟩⟩
      · exact absurd hlt (Nat.not_lt_zero _)

namespace SensorFailureTracker

/-- What the tracker keeps of `x` is what the history says. -/
structure Mirrors (threshold : Nat) (h : List Tick) (x : String) (t : SensorFailureTracker) : Prop where
  bound : t.threshold = threshold
  streak : ∀ m, (x, m) ∈ t.streak ↔
    0 < trailing (Tick.fails x) h ∧ m = min (trailing (Tick.fails x) h) (threshold + 1)
  quarantined : ∀ u, u.id = x → (u ∈ t.quarantined ↔ Entered threshold h u)

namespace Mirrors

variable {t : SensorFailureTracker}

theorem new : Mirrors threshold [] x (.new threshold) := by
  refine ⟨rfl, fun m => ?_, fun u _ => ?_⟩
  · simp [SensorFailureTracker.new]
  · refine iff_of_false (by simp [SensorFailureTracker.new]) ?_
    rintro ⟨before, c, after, f, heq, -⟩
    simp at heq

theorem isQuarantined_iff (hm : Mirrors threshold h x t) : t.isQuarantined x ↔ threshold < trailing (Tick.fails x) h := by
  rw [← exists_entered_iff]
  simp only [isQuarantined, List.any_eq_true, decide_eq_true_eq]
  constructor
  · rintro ⟨u, hu, hid⟩
    exact ⟨u, hid, (hm.quarantined u hid).mp hu⟩
  · rintro ⟨u, hid, hu⟩
    exact ⟨u, (hm.quarantined u hid).mpr hu, hid⟩

theorem streakOf_eq (hm : Mirrors threshold h x t) : t.streakOf x = min (trailing (Tick.fails x) h) (threshold + 1) := by
  unfold streakOf
  cases hfind : t.streak.find? (·.1 = x) with
  | none =>
    rcases Nat.eq_zero_or_pos (trailing (Tick.fails x) h) with hzero | hpos
    · simp [hzero]
    · have hin := (hm.streak _).mpr ⟨hpos, rfl⟩
      simpa using List.find?_eq_none.mp hfind _ hin
  | some e =>
    obtain ⟨y, m⟩ := e
    obtain rfl : y = x := by simpa using List.find?_some hfind
    exact ((hm.streak m).mp (List.mem_of_find?_eq_some hfind)).2

/-- What is not there is forgotten, and its next streak starts at zero. -/
theorem gone (hm : Mirrors threshold h x t) (hx : c.present x = false) :
    Mirrors threshold (h ++ [c]) x (t.forgetGone c.descriptors) := by
  have hfails : c.fails x = false := by simp [Tick.fails, hx]
  refine ⟨hm.bound, fun m => ?_, fun u hu => ?_⟩
  · rw [trailing_concat, hfails]
    refine iff_of_false (fun hin => ?_) (by simp)
    rw [Tick.present] at hx
    have := (List.mem_filter.mp hin).2
    rw [hx] at this
    cases this
  · subst hu
    refine iff_of_false (fun hin => ?_) fun he => ?_
    · rw [Tick.present] at hx
      have := (List.mem_filter.mp hin).2
      rw [hx] at this
      cases this
    · rw [(entered_concat.mp he).1] at hfails
      cases hfails

theorem kept (hm : Mirrors threshold h x t) (hx : c.present x = true) :
    Mirrors threshold h x (t.forgetGone c.descriptors) := by
  refine ⟨hm.bound, fun m => ?_, fun u hu => ?_⟩
  · rw [← hm.streak m]
    exact ⟨fun hin => (List.mem_filter.mp hin).1, fun hin => List.mem_filter.mpr ⟨hin, hx⟩⟩
  · rw [← hm.quarantined u hu]
    exact ⟨fun hin => (List.mem_filter.mp hin).1, fun hin => List.mem_filter.mpr ⟨hin, by subst hu; exact hx⟩⟩

/-- Another descriptor leaves it alone. -/
theorem other (hm : Mirrors threshold h x t) {d : SensorDescriptor} (hd : d.id ≠ x) (failures : List SensorReadFailure)
    (now : Nat) : Mirrors threshold h x (recordOne failures now t d) := by
  have hstreak : ∀ m n, (x, m) ∈ t.streak.filter (·.1 ≠ d.id) ++ [(d.id, n)] ↔ (x, m) ∈ t.streak := by
    intro m n
    simp [hd.symm]
  unfold recordOne
  split
  · split
    · exact hm
    · dsimp only
      split
      · refine ⟨hm.bound, fun m => (hstreak m _).trans (hm.streak m), fun u hu => ?_⟩
        rw [← hm.quarantined u hu, List.mem_append, List.mem_singleton]
        refine ⟨fun hin => hin.resolve_right fun heq => hd ?_, .inl⟩
        rw [← hu, heq]
      · exact ⟨hm.bound, fun m => (hstreak m _).trans (hm.streak m), hm.quarantined⟩
  · refine ⟨hm.bound, fun m => ?_, fun u hu => ?_⟩
    · rw [← hm.streak m]
      simp [hd.symm]
    · rw [← hm.quarantined u hu]
      simp [hu, hd.symm]

/-- Its own descriptor brings the entries up to the call. -/
theorem own (hm : Mirrors threshold h x t) {d : SensorDescriptor} (hd : d.id = x) (hx : c.present x = true) :
    Mirrors threshold (h ++ [c]) x (recordOne c.failures c.now t d) := by
  have hq := hm.isQuarantined_iff
  have hs := hm.streakOf_eq
  subst hd
  unfold recordOne
  cases hf : c.failures.reverse.find? (·.id = d.id) with
  | some f =>
    have hfails : c.fails d.id = true := fails_eq hx hf
    have htrail : trailing (Tick.fails d.id) (h ++ [c]) = trailing (Tick.fails d.id) h + 1 := by
      rw [trailing_concat, if_pos hfails]
    have hentered : ∀ u : UnavailableSensor, u.id = d.id → (Entered threshold (h ++ [c]) u ↔
        Entered threshold h u ∨ trailing (Tick.fails d.id) h = threshold ∧ u = c.entry d.id f) := by
      intro u hu
      rw [entered_concat, hu]
      constructor
      · rintro ⟨-, hold | ⟨htr, f', hf', rfl⟩⟩
        · exact .inl hold
        · obtain rfl := Option.some.inj (hf.symm.trans hf')
          exact .inr ⟨htr, rfl⟩
      · rintro (hold | ⟨htr, rfl⟩)
        · exact ⟨hfails, .inl hold⟩
        · exact ⟨hfails, .inr ⟨htr, f, hf, rfl⟩⟩
    dsimp only
    split
    · next hyes =>
      have hlt := hq.mp hyes
      refine ⟨hm.bound, fun m => ?_, fun u hu => ?_⟩
      · rw [hm.streak m, htrail]
        omega
      · rw [hm.quarantined u hu, hentered u hu]
        exact ⟨.inl, fun he => he.resolve_right fun he => absurd he.1 (Nat.ne_of_gt hlt)⟩
    · next hno =>
      have hle : trailing (Tick.fails d.id) h ≤ threshold := Nat.le_of_not_lt fun hlt => hno (hq.mpr hlt)
      have hn : t.streakOf d.id = trailing (Tick.fails d.id) h := hs.trans (Nat.min_eq_left (Nat.le_succ_of_le hle))
      have hstreak : ∀ m, (d.id, m) ∈ t.streak.filter (·.1 ≠ d.id) ++ [(d.id, t.streakOf d.id + 1)] ↔
          0 < trailing (Tick.fails d.id) (h ++ [c]) ∧ m = min (trailing (Tick.fails d.id) (h ++ [c])) (threshold + 1) := by
        intro m
        rw [htrail, hn, Nat.min_eq_left (Nat.succ_le_succ hle)]
        simp
      rw [hm.bound]
      split
      · next hlt =>
        have heq : trailing (Tick.fails d.id) h = threshold := by omega
        refine ⟨rfl, hstreak, fun u hu => ?_⟩
        rw [hentered u hu, List.mem_append, List.mem_singleton, hm.quarantined u hu]
        exact or_congr Iff.rfl ⟨fun h => ⟨heq, h⟩, fun h => h.2⟩
      · next hnlt =>
        refine ⟨rfl, hstreak, fun u hu => ?_⟩
        rw [hentered u hu, hm.quarantined u hu]
        exact ⟨.inl, fun he => he.resolve_right fun he => by omega⟩
  | none =>
    have hfails : c.fails d.id = false := by
      have hnone : c.failure d.id = none := hf
      simp [Tick.fails, hnone]
    refine ⟨hm.bound, fun m => ?_, fun u hu => ?_⟩
    · rw [trailing_concat, hfails]
      simp
    · rw [entered_concat, hu, hfails]
      simp [hu]

/-! ## A whole call -/

theorem run_other (hm : Mirrors threshold h x t) (failures : List SensorReadFailure) (now : Nat)
    (ds : List SensorDescriptor) (hx : ∀ d ∈ ds, d.id ≠ x) :
    Mirrors threshold h x (Machine.run (recordOne failures now) t ds) := by
  induction ds generalizing t with
  | nil => exact hm
  | cons d ds ih =>
    exact ih (hm.other (hx d List.mem_cons_self) failures now) fun d' hd' => hx d' (List.mem_cons_of_mem _ hd')

theorem ne_of_absent {ds : List SensorDescriptor} (hx : ds.any (·.id = x) = false) : ∀ d ∈ ds, d.id ≠ x := by
  intro d hd heq
  have := List.any_eq_false.mp hx d hd
  simp [heq] at this

/-- The one descriptor of an id that is there. -/
theorem exists_split (hx : c.present x = true) :
    ∃ before d after, c.descriptors = before ++ d :: after ∧ d.id = x ∧ (∀ d' ∈ before, d'.id ≠ x) ∧
      ∀ d' ∈ after, d'.id ≠ x := by
  obtain ⟨d, hd, hid⟩ := List.any_eq_true.mp hx
  obtain ⟨before, after, heq⟩ := List.append_of_mem hd
  have hid : d.id = x := by simpa using hid
  have hnodup := c.distinct
  rw [heq, List.map_append, List.map_cons, List.nodup_append] at hnodup
  obtain ⟨-, hcons, hne⟩ := hnodup
  refine ⟨before, d, after, heq, hid, fun d' hd' h => ?_, fun d' hd' h => ?_⟩
  · exact hne d'.id (List.mem_map_of_mem hd') d.id List.mem_cons_self (h.trans hid.symm)
  · exact (List.nodup_cons.mp hcons).1 (by rw [hid, ← h]; exact List.mem_map_of_mem hd')

theorem call (hm : Mirrors threshold h x t) :
    Mirrors threshold (h ++ [c]) x (t.recordTick c.descriptors c.failures c.now) := by
  rw [recordTick_eq]
  cases hx : c.present x with
  | false => exact (hm.gone hx).run_other _ _ _ (ne_of_absent hx)
  | true =>
    obtain ⟨before, d, after, heq, hid, hbefore, hafter⟩ := exists_split hx
    have hk := hm.kept hx
    rw [heq] at hk ⊢
    rw [Machine.run_append, Machine.run_cons]
    exact ((hk.run_other c.failures c.now before hbefore).own hid hx).run_other _ _ _ hafter

/-! ## Its events -/

end Mirrors

theorem eventOf_id {failures : List SensorReadFailure} {t : SensorFailureTracker} {d : SensorDescriptor} {e : TrackerEvent}
    (he : eventOf failures t d = some e) : e.id = d.id := by
  unfold eventOf at he
  split at he <;> split at he <;> first | cases he; rfl | cases he

/-- The event of an id in a call, by the history before it. -/
def expected (threshold : Nat) (h : List Tick) (x : String) (c : Tick) : Option TrackerEvent :=
  if c.present x then
    match c.failure x with
    | some f => if trailing (Tick.fails x) h = threshold then some (.quarantined x f.reason) else none
    | none => if threshold < trailing (Tick.fails x) h then some (.recovered x) else none
  else none

namespace Mirrors

variable {t : SensorFailureTracker}

theorem eventOf_eq (hm : Mirrors threshold h x t) {d : SensorDescriptor} (hd : d.id = x) (hx : c.present x = true) :
    eventOf c.failures t d = expected threshold h x c := by
  have hq := hm.isQuarantined_iff
  have hs := hm.streakOf_eq
  subst hd
  unfold eventOf expected
  rw [if_pos hx]
  show _ = match c.failures.reverse.find? (·.id = d.id) with
    | some f => if trailing (Tick.fails d.id) h = threshold then some (TrackerEvent.quarantined d.id f.reason) else none
    | none => if threshold < trailing (Tick.fails d.id) h then some (TrackerEvent.recovered d.id) else none
  cases c.failures.reverse.find? (·.id = d.id) with
  | none =>
    dsimp only
    simp only [hq]
  | some f =>
    dsimp only
    refine if_congr ?_ rfl rfl
    rw [Bool.and_eq_true_iff, Bool.not_eq_true', ← Bool.not_eq_true, hq, hm.bound, hs, decide_eq_true_eq]
    omega

/-- The events of a call for one id. -/
theorem events_eq (hm : Mirrors threshold h x t) :
    (t.tickEvents c.descriptors c.failures c.now).filter (·.id = x) = (expected threshold h x c).toList := by
  have hquiet : ∀ (t : SensorFailureTracker) (ds : List SensorDescriptor), (∀ d ∈ ds, d.id ≠ x) →
      ((Machine.trace (recordOne c.failures c.now) (eventOf c.failures) t ds).filterMap id).filter (·.id = x) = [] := by
    intro t ds hds
    refine List.filter_eq_nil_iff.mpr fun e he => ?_
    obtain ⟨o, ho, rfl⟩ := List.mem_filterMap.mp he
    obtain ⟨t', d, hd, hev⟩ := Machine.mem_trace ho
    simpa [eventOf_id hev.symm] using hds d hd
  unfold tickEvents
  cases hx : c.present x with
  | false =>
    rw [hquiet _ _ (ne_of_absent hx)]
    simp [expected, hx]
  | true =>
    obtain ⟨before, d, after, heq, hid, hbefore, hafter⟩ := exists_split hx
    have hk := hm.kept hx
    rw [heq] at hk ⊢
    have hev := (hk.run_other c.failures c.now before hbefore).eventOf_eq hid hx
    rw [Machine.trace_append, List.filterMap_append, List.filter_append, hquiet _ _ hbefore, List.nil_append,
      Machine.trace_cons, hev]
    have hnone := hquiet (recordOne c.failures c.now
      (Machine.run (recordOne c.failures c.now) (t.forgetGone (before ++ d :: after)) before) d) after hafter
    cases he : expected threshold h x c with
    | none => simpa using hnone
    | some e =>
      have hex : e.id = x := (eventOf_id (hev.trans he)).trans hid
      have hcons : ∀ l : List (Option TrackerEvent), (some e :: l).filterMap id = e :: l.filterMap id := fun _ => rfl
      rw [hcons, List.filter_cons_of_pos (by simpa using hex), hnone]
      rfl

end Mirrors

end SensorFailureTracker

open SensorFailureTracker

theorem track_concat : track threshold (h ++ [c]) = (track threshold h).recordTick c.descriptors c.failures c.now := by
  simp [track]

theorem track_mirrors (threshold : Nat) (h : List Tick) (x : String) : Mirrors threshold h x (track threshold h) := by
  induction h using List.reverseRecOn with
  | nil => exact .new
  | append_singleton h c ih =>
    rw [track_concat]
    exact ih.call

/-! ## The story of one id -/

/-- What a call says of an id: its events, or that it is not there. -/
inductive Mark where
  | event (e : TrackerEvent)
  | gone
  deriving DecidableEq, Repr

def marksOf (x : String) (t : SensorFailureTracker) (c : Tick) : List Mark :=
  if c.present x then ((t.tickEvents c.descriptors c.failures c.now).filter (·.id = x)).map .event else [.gone]

/-- The story of `x` over these calls. -/
def marks (threshold : Nat) (x : String) (h : List Tick) : List Mark :=
  (Machine.trace (fun t (c : Tick) => t.recordTick c.descriptors c.failures c.now) (marksOf x) (.new threshold) h).flatten

/-- Quarantined and recovered by turns; `inside` is whether a quarantine is open. It closes when the id is gone. -/
def Alternates : Bool → List Mark → Prop
  | _, [] => True
  | false, .event (.quarantined _ _) :: l => Alternates true l
  | true, .event (.recovered _) :: l => Alternates false l
  | _, .gone :: l => Alternates false l
  | _, _ => False

/-- One call moves the story on by the state it leaves. -/
theorem alternates_marksOf {t : SensorFailureTracker} (hm : Mirrors threshold h x t) {rest : List Mark}
    (hrest : Alternates (decide (threshold < trailing (Tick.fails x) (h ++ [c]))) rest) :
    Alternates (decide (threshold < trailing (Tick.fails x) h)) (marksOf x t c ++ rest) := by
  rw [trailing_concat] at hrest
  unfold marksOf
  cases hx : c.present x with
  | false =>
    have hfails : c.fails x = false := by simp [Tick.fails, hx]
    rw [hfails] at hrest
    simpa [Alternates] using hrest
  | true =>
    rw [if_pos rfl, hm.events_eq, expected, if_pos hx]
    cases hf : c.failure x with
    | some f =>
      rw [fails_eq hx hf] at hrest
      dsimp only
      by_cases heq : trailing (Tick.fails x) h = threshold
      · simpa [heq, Alternates] using hrest
      · have hsame : threshold < trailing (Tick.fails x) h + 1 ↔ threshold < trailing (Tick.fails x) h := by omega
        simpa [heq, hsame] using hrest
    | none =>
      have hfails : c.fails x = false := by simp [Tick.fails, hf]
      rw [hfails] at hrest
      dsimp only
      by_cases hlt : threshold < trailing (Tick.fails x) h
      · simpa [hlt, Alternates] using hrest
      · simpa [hlt] using hrest

theorem alternates_from {t : SensorFailureTracker} (hm : Mirrors threshold h x t) (cs : List Tick) :
    Alternates (decide (threshold < trailing (Tick.fails x) h))
      (Machine.trace (fun t (c : Tick) => t.recordTick c.descriptors c.failures c.now) (marksOf x) t cs).flatten := by
  induction cs generalizing h t with
  | nil => trivial
  | cons c cs ih => exact alternates_marksOf hm (ih hm.call)

/-! ## The quarantine and the probe -/

theorem isQuarantined_iff_failed :
    (track threshold h).isQuarantined x ↔ ∃ calls, calls <:+ h ∧ threshold < calls.length ∧ ∀ c ∈ calls, c.fails x := by
  rw [(track_mirrors threshold h x).isQuarantined_iff, ← Nat.succ_le_iff, le_trailing_iff]
  constructor
  · rintro ⟨calls, hsuf, hlen, hall⟩
    exact ⟨calls, hsuf, by omega, hall⟩
  · rintro ⟨calls, hsuf, hlen, hall⟩
    refine ⟨calls.drop (calls.length - (threshold + 1)), (List.drop_suffix _ _).trans hsuf, ?_,
      fun c hc => hall c (List.mem_of_mem_drop hc)⟩
    rw [List.length_drop]
    omega

/-- An id has one entry. -/
theorem entered_unique {u u' : UnavailableSensor} (hu : Entered threshold h u) (hu' : Entered threshold h u')
    (hid : u.id = u'.id) : u = u' := by
  induction h using List.reverseRecOn with
  | nil =>
    obtain ⟨before, c, after, f, heq, -⟩ := hu
    simp at heq
  | append_singleton h c ih =>
    obtain ⟨-, hu⟩ := entered_concat.mp hu
    obtain ⟨-, hu'⟩ := entered_concat.mp hu'
    rw [← hid] at hu'
    rcases hu with hold | ⟨htrail, f, hf, heq⟩ <;> rcases hu' with hold' | ⟨htrail', f', hf', heq'⟩
    · exact ih hold hold'
    · exact absurd (exists_entered_iff.mp ⟨u, rfl, hold⟩) (by omega)
    · exact absurd (exists_entered_iff.mp ⟨u', hid.symm, hold'⟩) (by omega)
    · obtain rfl := Option.some.inj (hf.symm.trans hf')
      exact heq.trans heq'.symm

theorem mem_rediscoveryIds (hpos : 0 < threshold) :
    x ∈ (track threshold h).rediscoveryIds ↔ trailing (Tick.fails x) h = threshold := by
  have hm := track_mirrors threshold h x
  have hq := hm.isQuarantined_iff
  unfold rediscoveryIds
  rw [(List.perm_insertionSort _ _).mem_iff, List.mem_map]
  constructor
  · rintro ⟨⟨y, m⟩, hin, rfl⟩
    obtain ⟨hin, hasks⟩ := List.mem_filter.mp hin
    rw [Bool.and_eq_true_iff, decide_eq_true_eq, Bool.not_eq_true', ← Bool.not_eq_true, hq, hm.bound] at hasks
    have := ((hm.streak m).mp hin).2
    omega
  · intro htrail
    refine ⟨(x, threshold), List.mem_filter.mpr ⟨(hm.streak _).mpr (by omega), ?_⟩, rfl⟩
    rw [Bool.and_eq_true_iff, decide_eq_true_eq, Bool.not_eq_true', ← Bool.not_eq_true, hq, hm.bound]
    omega

theorem wantsRediscovery_iff_mem {t : SensorFailureTracker} : t.wantsRediscovery ↔ ∃ x, x ∈ t.rediscoveryIds := by
  unfold wantsRediscovery rediscoveryIds
  simp only [List.any_eq_true, (List.perm_insertionSort _ _).mem_iff, List.mem_map, List.mem_filter, Prod.exists]
  constructor
  · rintro ⟨x, n, hin, hasks⟩
    exact ⟨x, x, n, ⟨hin, hasks⟩, rfl⟩
  · rintro ⟨_, x, n, ⟨hin, hasks⟩, -⟩
    exact ⟨x, n, hin, hasks⟩

/-- With a threshold of zero the first failure quarantines, and nothing is probed. -/
theorem wantsRediscovery_zero : (track 0 h).wantsRediscovery = false := by
  rw [← Bool.not_eq_true, wantsRediscovery, List.any_eq_true]
  rintro ⟨⟨x, n⟩, hin, hasks⟩
  have hm := track_mirrors 0 h x
  rw [Bool.and_eq_true_iff, Bool.not_eq_true', ← Bool.not_eq_true, hm.isQuarantined_iff] at hasks
  exact hasks.2 ((hm.streak n).mp hin).1

/-- Over a run of failures the count at each point is how many there were. -/
theorem trailing_append_fails (p : Tick → Bool) (hzero : trailing p h = 0) {calls : List Tick} (hall : ∀ c ∈ calls, p c) :
    trailing p (h ++ calls) = calls.length := by
  induction calls using List.reverseRecOn with
  | nil => simpa using hzero
  | append_singleton calls c ih =>
    rw [← List.append_assoc, trailing_concat, if_pos (hall c (by simp)),
      ih fun c' hc' => hall c' (List.mem_append_left _ hc'), List.length_append, List.length_singleton]

def radio : SensorDescriptor :=
  { id := "hwmon:ath12k_hwmon:temp1", kind := .mbTemp, label := "temp1", inputPath := ⟨"hwmon6", "temp1_input"⟩
    chipName := "ath12k_hwmon" }

def radioDown (now : Nat) : Tick where
  descriptors := [radio]
  failures := [⟨radio.id, radio.label, .read "Network is down"⟩]
  now := now
  distinct := List.nodup_singleton _

end ControlOfc.Health
