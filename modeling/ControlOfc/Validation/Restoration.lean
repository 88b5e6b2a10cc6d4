import ControlOfc.Pwm
import ControlOfc.Validation.Recorder
import Mathlib.Algebra.BigOperators.Group.Finset.Basic
import Mathlib.Algebra.BigOperators.Ring.Finset
import Mathlib.Algebra.BigOperators.Group.Finset.Piecewise
import Mathlib.Data.Finset.Card
import Mathlib.Data.List.Zip
/-! # Control restoration (validation/recorder.rs:981-1056, validation/summary.rs:983-1009)

A tick compares each member with what the watch last held of it, and pushes an event for a mode that left or came back
to manual and one for a revert count that rose. The report counts the events of the whole session.

Main theorem `restoration_verdict`: what the counts come to in terms of what was observed, and so when they are right.
-/
namespace ControlOfc.Validation

def evControlReclaimed : String := "control_reclaimed"

def evControlRestored : String := "control_restored"

/-! ## A tick -/

/-- What the poll snapshot holds of a member. -/
structure FanReading where
  pwmEnableMode : Option Nat
  pwmReadbackPct : Option Nat

/-- What a tick reads of the members, and the events it finds in other ways or that others pushed since the last. -/
structure TickInput (K : Kinds) where
  now : Nat
  reading : K.Reading
  fans : String → Option FanReading
  commanded : String → Option Nat
  reverts : String → Option Nat
  before : List Note
  after : List Note
  others : ∀ n ∈ before ++ after, n.kind ≠ evControlReclaimed ∧ n.kind ≠ evControlRestored

/-- What a session compares with: the maps of `Watch`. -/
structure Watch where
  enableModes : String → Option Nat
  enableReverts : String → Option Nat

variable {K : Kinds}

namespace TickInput

/-- The mode of a member that counts: one that is not our own full speed read back. -/
def mode (i : TickInput K) (id : String) : Option Nat :=
  let fan := i.fans id
  let nowMode := fan.bind (·.pwmEnableMode)
  let alias_ := Pwm.isFullSpeedAlias ((i.commanded id).getD 0) (fan.bind (·.pwmReadbackPct)) nowMode
  if alias_ then none else nowMode

def revertCount (i : TickInput K) (id : String) : Nat := (i.reverts id).getD 0

end TickInput

/-- The event of a mode after another. -/
def modeNotes (id : String) (wasMode nowMode : Option Nat) : List Note :=
  match nowMode with
  | none => []
  | some mode =>
    if wasMode = some 1 ∧ mode ≠ 1 then [⟨evControlReclaimed, some s!"pwm_enable {mode}", some id⟩]
    else if wasMode.any (· ≠ 1) ∧ mode = 1 then [⟨evControlRestored, none, some id⟩]
    else []

/-- The event of a revert count after another. -/
def revertNotes (id : String) (was now : Nat) : List Note :=
  if was < now then [⟨evControlReclaimed, some s!"{now - was} watchdog revert(s)", some id⟩] else []

/-- One member's turn of the loop. -/
def watchMember (i : TickInput K) (w : Watch) (id : String) : List Note × Watch :=
  (modeNotes id (w.enableModes id) (i.mode id) ++ revertNotes id ((w.enableReverts id).getD 0) (i.revertCount id),
    { enableModes := Function.update w.enableModes id ((i.mode id).or (w.enableModes id))
      enableReverts := Function.update w.enableReverts id (some (i.revertCount id)) })

def watchMembers (i : TickInput K) (w : Watch) : List String → List Note × Watch
  | [] => ([], w)
  | id :: rest =>
    let (notes, w') := watchMember i w id
    let (notes', w'') := watchMembers i w' rest
    (notes ++ notes', w'')

/-- `ValidationEngine::tick` on the session and the watch. -/
def recordTick (members : List String) (at_ : Watch × ValidationSession K) (i : TickInput K) : Watch × ValidationSession K :=
  let (notes, w) := watchMembers i at_.1 members
  (w, at_.2.sampled i.now i.reading (i.before ++ notes ++ i.after))

def recordRun (members : List String) (at_ : Watch × ValidationSession K) (inputs : List (TickInput K)) :
    Watch × ValidationSession K :=
  inputs.foldl (recordTick members) at_

/-! ## The finding -/

structure ValidationFinding where
  id : String
  state : String
  detail : Option String
  memberId : Option String
  evidenceKind : Option String
  deriving DecidableEq, Repr

/-- `finding` (summary.rs:60). -/
def finding (id state : String) : ValidationFinding := ⟨id, state, none, none, none⟩

/-- `with_detail` (summary.rs:70). -/
def withDetail (f : ValidationFinding) (detail : String) : ValidationFinding := { f with detail := some detail }

/-- `control_restoration` (summary.rs:983). -/
def controlRestoration (session : ValidationSession K) : ValidationFinding :=
  let reclaimed := session.events.countP (·.kind = evControlReclaimed)
  let restored := session.events.countP (·.kind = evControlRestored)
  if reclaimed = 0 then finding "control_restoration" "not_tested"
  else if reclaimed ≤ restored then
    withDetail (finding "control_restoration" "pass") s!"{restored} restore(s) after {reclaimed} reclaim(s)"
  else withDetail (finding "control_restoration" "fail") s!"only {restored} restore(s) after {reclaimed} reclaim(s)"

/-! ## What was observed -/

/-- The entries of a list next to each other. -/
def pairs {α : Type} (l : List α) : List (α × α) := l.zip l.tail

section Observed

variable (w : Watch) (inputs : List (TickInput K)) (id : String)

/-- The modes of a member that count, with the one the session began on. -/
def modesSeen : List Nat := (w.enableModes id).toList ++ inputs.filterMap (·.mode id)

/-- The revert counts of a member, with the one the session began on. -/
def revertsSeen : List Nat := (w.enableReverts id).getD 0 :: inputs.map (·.revertCount id)

/-- How often a member's revert count rose from one tick to the next. -/
def rises : Nat := (pairs (revertsSeen w inputs id)).countP fun p => p.1 < p.2

/-- A member was taken: its mode left manual, or its revert count rose. -/
def Reclaimed : Prop := (∃ p ∈ pairs (modesSeen w inputs id), p.1 = 1 ∧ p.2 ≠ 1) ∨ ∃ p ∈ pairs (revertsSeen w inputs id), p.1 < p.2

/-- The member's last mode that counts is manual. -/
def Manual : Prop := (modesSeen w inputs id).getLast? = some 1

instance : Decidable (Manual w inputs id) := inferInstanceAs (Decidable (_ = _))

/-- The member's first mode that counts is manual. -/
def BeganManual : Prop := (modesSeen w inputs id).head? = some 1

instance : Decidable (BeganManual w inputs id) := inferInstanceAs (Decidable (_ = _))

end Observed

/-! ## Room for the events -/

section Room

variable {s : ValidationSession K} {now : Nat}

theorem length_pushAll_ge (notes : List Note) (s : ValidationSession K) :
    s.events.length ≤ (notes.foldl (fun s note => s.pushEvent now note) s).events.length := by
  induction notes generalizing s with
  | nil => exact Nat.le_refl _
  | cons note notes ih =>
    refine Nat.le_trans ?_ (ih _)
    dsimp only [ValidationSession.pushEvent]
    split_ifs <;> simp

/-- A session that still has room has dropped nothing. -/
theorem kinds_pushAll (notes : List Note) (s : ValidationSession K)
    (h : (notes.foldl (fun s note => s.pushEvent now note) s).events.length < maxEvents) :
    (notes.foldl (fun s note => s.pushEvent now note) s).events.map (fun e => (e.kind, e.memberId)) =
      s.events.map (fun e => (e.kind, e.memberId)) ++ notes.map fun n => (n.kind, n.memberId) := by
  induction notes generalizing s with
  | nil => simp
  | cons note notes ih =>
    rw [List.foldl_cons] at h ⊢
    have hroom := Nat.lt_of_le_of_lt (length_pushAll_ge notes (s.pushEvent now note)) h
    rw [ih _ h]
    unfold ValidationSession.pushEvent at hroom ⊢
    split_ifs at hroom ⊢ with hfull
    · omega
    · simp [ValidationSession.event]

theorem length_sampled_ge (s : ValidationSession K) (now : Nat) (reading : K.Reading) (notes : List Note) :
    s.events.length ≤ (s.sampled now reading notes).events.length :=
  length_pushAll_ge notes { s with samples := s.samples ++ [⟨now - s.startedUnixMs, now, reading⟩] }

theorem kinds_sampled (s : ValidationSession K) (now : Nat) (reading : K.Reading) (notes : List Note)
    (h : (s.sampled now reading notes).events.length < maxEvents) :
    (s.sampled now reading notes).events.map (fun e => (e.kind, e.memberId)) =
      s.events.map (fun e => (e.kind, e.memberId)) ++ notes.map fun n => (n.kind, n.memberId) :=
  kinds_pushAll notes { s with samples := s.samples ++ [⟨now - s.startedUnixMs, now, reading⟩] } h

end Room

/-! ## The events of a run -/

/-- All that a run says, were there room. -/
def runNotes (members : List String) (w : Watch) : List (TickInput K) → List Note
  | [] => []
  | i :: rest =>
    i.before ++ (watchMembers i w members).1 ++ i.after ++ runNotes members (watchMembers i w members).2 rest

theorem length_recordRun_ge (members : List String) (inputs : List (TickInput K)) (at_ : Watch × ValidationSession K) :
    at_.2.events.length ≤ (recordRun members at_ inputs).2.events.length := by
  induction inputs generalizing at_ with
  | nil => exact Nat.le_refl _
  | cons i inputs ih => exact Nat.le_trans (length_sampled_ge ..) (ih (recordTick members at_ i))

theorem kinds_recordRun (members : List String) (inputs : List (TickInput K)) (w : Watch) (s : ValidationSession K)
    (h : (recordRun members (w, s) inputs).2.events.length < maxEvents) :
    (recordRun members (w, s) inputs).2.events.map (fun e => (e.kind, e.memberId)) =
      s.events.map (fun e => (e.kind, e.memberId)) ++ (runNotes members w inputs).map fun n => (n.kind, n.memberId) := by
  induction inputs generalizing w s with
  | nil => simp [recordRun, runNotes]
  | cons i inputs ih =>
    have htick := Nat.lt_of_le_of_lt (length_recordRun_ge members inputs (recordTick members (w, s) i)) h
    have hrun := ih _ _ h
    have hpush := kinds_sampled _ _ _ _ htick
    refine hrun.trans ?_
    rw [runNotes, List.map_append, ← List.append_assoc]
    exact congrArg (· ++ _) hpush

/-- How many of some notes are of a kind. -/
def kindCount (k : String) (notes : List Note) : Nat := notes.countP (·.kind = k)

@[simp] theorem kindCount_append (k : String) (l r : List Note) : kindCount k (l ++ r) = kindCount k l + kindCount k r :=
  List.countP_append

section Member

variable {i : TickInput K} {w : Watch} {id : String}

/-- A member's notes are about what the watch held of it. -/
theorem watchMember_congr {w' : Watch} (hmodes : w'.enableModes id = w.enableModes id)
    (hreverts : w'.enableReverts id = w.enableReverts id) : (watchMember i w' id).1 = (watchMember i w id).1 := by
  unfold watchMember
  rw [hmodes, hreverts]

theorem modeNotes_self (m : Option Nat) (o : Option Nat) : modeNotes id (m.or o) m = [] := by
  cases m with
  | none => rfl
  | some mode =>
    unfold modeNotes
    by_cases h : mode = 1 <;> simp [h]

/-- A member listed twice is news once. -/
theorem watchMember_again : (watchMember i (watchMember i w id).2 id).1 = [] := by
  simp [watchMember, modeNotes_self, revertNotes]

theorem kindCount_watchMembers (k : String) (members : List String) : kindCount k (watchMembers i w members).1 =
    ∑ id ∈ members.toFinset, kindCount k (watchMember i w id).1 := by
  induction members generalizing w with
  | nil => rfl
  | cons id rest ih =>
    have hcongr {x : String} (hx : x ≠ id) : (watchMember i (watchMember i w id).2 x).1 = (watchMember i w x).1 :=
      watchMember_congr (Function.update_of_ne hx _ _) (Function.update_of_ne hx _ _)
    show kindCount k ((watchMember i w id).1 ++ (watchMembers i (watchMember i w id).2 rest).1) = _
    rw [kindCount_append, ih, List.toFinset_cons, ← Finset.add_sum_erase _ _ (Finset.mem_insert_self id rest.toFinset),
      Finset.erase_insert_eq_erase, ← Finset.sum_erase rest.toFinset (a := id) (by rw [watchMember_again]; rfl)]
    exact congrArg _ (Finset.sum_congr rfl fun x hx => by rw [hcongr (Finset.ne_of_mem_erase hx)])

theorem watchMembers_of_mem {members : List String} (hid : id ∈ members) :
    (watchMembers i w members).2.enableModes id = (i.mode id).or (w.enableModes id) ∧
      (watchMembers i w members).2.enableReverts id = some (i.revertCount id) := by
  have hor (m o : Option Nat) : m.or (m.or o) = m.or o := by cases m <;> rfl
  have hrest (members : List String) (w : Watch) (hw : w.enableReverts id = some (i.revertCount id))
      (hm : w.enableModes id = (i.mode id).or (w.enableModes id)) :
      (watchMembers i w members).2.enableModes id = w.enableModes id ∧
        (watchMembers i w members).2.enableReverts id = some (i.revertCount id) := by
    induction members generalizing w with
    | nil => exact ⟨rfl, hw⟩
    | cons x rest ih =>
      by_cases hx : id = x
      · subst hx
        have := ih (watchMember i w id).2 (by simp [watchMember]) (by simp [watchMember, hor])
        refine ⟨this.1.trans ?_, this.2⟩
        rw [hm]
        simp [watchMember]
      · have hmodes : (watchMember i w x).2.enableModes id = w.enableModes id := Function.update_of_ne hx _ _
        have hreverts : (watchMember i w x).2.enableReverts id = w.enableReverts id := Function.update_of_ne hx _ _
        have := ih (watchMember i w x).2 (hreverts.trans hw) (by rw [hmodes]; exact hm)
        exact ⟨this.1.trans hmodes, this.2⟩
  induction members generalizing w with
  | nil => cases hid
  | cons x rest ih =>
    by_cases hx : id = x
    · subst hx
      have := hrest rest (watchMember i w id).2 (by simp [watchMember]) (by simp [watchMember, hor])
      refine ⟨this.1.trans ?_, this.2⟩
      simp [watchMember]
    · have hmodes : (watchMember i w x).2.enableModes id = w.enableModes id := Function.update_of_ne hx _ _
      have := ih (w := (watchMember i w x).2) (List.mem_of_ne_of_mem hx hid)
      rw [hmodes] at this
      exact this

end Member

/-! ## Counting by member -/

def left (p : Nat × Nat) : Bool := p.1 = 1 ∧ p.2 ≠ 1

def back (p : Nat × Nat) : Bool := p.1 ≠ 1 ∧ p.2 = 1

/-- Out of manual and back again alternate. -/
theorem left_back (l : List Nat) : (pairs l).countP left + (if l.getLast? = some 1 then 1 else 0) =
    (pairs l).countP back + if l.head? = some 1 then 1 else 0 := by
  induction l with
  | nil => rfl
  | cons a l ih =>
    cases l with
    | nil => simp [pairs]
    | cons b l =>
      have hpairs : pairs (a :: b :: l) = (a, b) :: pairs (b :: l) := rfl
      rw [hpairs, List.countP_cons, List.countP_cons, List.getLast?_cons_cons]
      simp only [List.head?_cons, Option.some.injEq] at ih ⊢
      by_cases ha : a = 1 <;> by_cases hb : b = 1 <;> simp [left, back, ha, hb] at ih ⊢ <;> omega

section Count

variable {i : TickInput K} {w w' : Watch} {id : String} {inputs : List (TickInput K)}

theorem modesSeen_cons (hw' : w'.enableModes id = (i.mode id).or (w.enableModes id)) (p : Nat × Nat → Bool) :
    (pairs (modesSeen w (i :: inputs) id)).countP p = (pairs (modesSeen w' inputs id)).countP p +
      match w.enableModes id, i.mode id with
      | some was, some now => if p (was, now) then 1 else 0
      | _, _ => 0 := by
  unfold modesSeen
  rw [hw']
  cases hm : i.mode id with
  | none => cases w.enableModes id <;> simp [hm]
  | some now =>
    cases w.enableModes id with
    | none => simp [hm]
    | some was =>
      have hcons : (some was).toList ++ List.filterMap (·.mode id) (i :: inputs) =
          was :: now :: List.filterMap (·.mode id) inputs := by simp [hm]
      rw [hcons]
      show List.countP p ((was, now) :: pairs (now :: List.filterMap (·.mode id) inputs)) = _
      rw [List.countP_cons]
      rfl

theorem rises_cons (hw' : w'.enableReverts id = some (i.revertCount id)) :
    rises w (i :: inputs) id = rises w' inputs id +
      if (w.enableReverts id).getD 0 < i.revertCount id then 1 else 0 := by
  have hcons : revertsSeen w (i :: inputs) id = (w.enableReverts id).getD 0 :: revertsSeen w' inputs id := by
    simp [revertsSeen, hw']
  have hpairs : pairs (revertsSeen w (i :: inputs) id) =
      ((w.enableReverts id).getD 0, i.revertCount id) :: pairs (revertsSeen w' inputs id) := by
    rw [hcons]
    simp [pairs, revertsSeen, hw']
  rw [rises, hpairs, List.countP_cons]
  simp [rises]

theorem kindCount_modeNotes_reclaimed (was now : Option Nat) : kindCount evControlReclaimed (modeNotes id was now) =
    match was, now with
    | some was, some now => if left (was, now) then 1 else 0
    | _, _ => 0 := by
  have hne : evControlRestored ≠ evControlReclaimed := by decide
  cases now with
  | none => cases was <;> rfl
  | some now =>
    cases was with
    | none => simp [modeNotes, kindCount]
    | some was => by_cases h : was = 1 <;> by_cases h' : now = 1 <;> simp [modeNotes, kindCount, left, h, h', hne]

theorem kindCount_modeNotes_restored (was now : Option Nat) : kindCount evControlRestored (modeNotes id was now) =
    match was, now with
    | some was, some now => if back (was, now) then 1 else 0
    | _, _ => 0 := by
  have hne : evControlReclaimed ≠ evControlRestored := by decide
  cases now with
  | none => cases was <;> rfl
  | some now =>
    cases was with
    | none => simp [modeNotes, kindCount]
    | some was => by_cases h : was = 1 <;> by_cases h' : now = 1 <;> simp [modeNotes, kindCount, back, h, h', hne]

theorem kindCount_others (i : TickInput K) : kindCount evControlReclaimed i.before = 0 ∧ kindCount evControlReclaimed i.after = 0 ∧
    kindCount evControlRestored i.before = 0 ∧ kindCount evControlRestored i.after = 0 := by
  have h := i.others
  refine ⟨?_, ?_, ?_, ?_⟩ <;> refine List.countP_eq_zero.mpr fun n hn => by simp [h n (by simp [hn])]

/-- The reclaims of a run are its members' ways out of manual and the rises of their revert counts. -/
theorem kindCount_reclaimed (members : List String) (w : Watch) (inputs : List (TickInput K)) :
    kindCount evControlReclaimed (runNotes members w inputs) =
      ∑ id ∈ members.toFinset, ((pairs (modesSeen w inputs id)).countP left + rises w inputs id) := by
  induction inputs generalizing w with
  | nil =>
    refine (Finset.sum_eq_zero fun id _ => ?_).symm
    cases h : w.enableModes id <;> simp [modesSeen, rises, revertsSeen, pairs, h]
  | cons i inputs ih =>
    obtain ⟨hbefore, hafter, -⟩ := kindCount_others i
    rw [runNotes, kindCount_append, kindCount_append, kindCount_append, hbefore, hafter, ih, kindCount_watchMembers,
      Nat.zero_add, Nat.add_zero, ← Finset.sum_add_distrib]
    refine Finset.sum_congr rfl fun id hid => ?_
    obtain ⟨hmodes, hreverts⟩ := watchMembers_of_mem (i := i) (w := w) (List.mem_toFinset.mp hid)
    have hrevert : kindCount evControlReclaimed (revertNotes id ((w.enableReverts id).getD 0) (i.revertCount id)) =
        if (w.enableReverts id).getD 0 < i.revertCount id then 1 else 0 := by
      unfold revertNotes
      split_ifs <;> simp [kindCount]
    rw [modesSeen_cons hmodes, rises_cons hreverts]
    simp only [watchMember, kindCount_append, kindCount_modeNotes_reclaimed, hrevert]
    omega

/-- The restores of a run are its members' ways back to manual. -/
theorem kindCount_restored (members : List String) (w : Watch) (inputs : List (TickInput K)) :
    kindCount evControlRestored (runNotes members w inputs) =
      ∑ id ∈ members.toFinset, (pairs (modesSeen w inputs id)).countP back := by
  induction inputs generalizing w with
  | nil =>
    refine (Finset.sum_eq_zero fun id _ => ?_).symm
    cases h : w.enableModes id <;> simp [modesSeen, pairs, h]
  | cons i inputs ih =>
    obtain ⟨-, -, hbefore, hafter⟩ := kindCount_others i
    have hne : evControlReclaimed ≠ evControlRestored := by decide
    rw [runNotes, kindCount_append, kindCount_append, kindCount_append, hbefore, hafter, ih, kindCount_watchMembers,
      Nat.zero_add, Nat.add_zero, ← Finset.sum_add_distrib]
    refine Finset.sum_congr rfl fun id hid => ?_
    obtain ⟨hmodes, -⟩ := watchMembers_of_mem (i := i) (w := w) (List.mem_toFinset.mp hid)
    have hrevert : kindCount evControlRestored (revertNotes id ((w.enableReverts id).getD 0) (i.revertCount id)) = 0 := by
      unfold revertNotes
      split_ifs <;> simp [kindCount, hne]
    rw [modesSeen_cons hmodes]
    simp only [watchMember, kindCount_append, kindCount_modeNotes_restored, hrevert]
    omega

end Count

/-! ## The verdict -/

section Verdict

variable (members : List String) (w : Watch) (inputs : List (TickInput K))

/-- What the report should say of a run: whether a member was taken, and whether each that was ended in manual. -/
def VerdictMatches (f : ValidationFinding) : Prop :=
  (f.state = "not_tested" ↔ ∀ id ∈ members, ¬ Reclaimed w inputs id) ∧
    (f.state = "pass" ↔ (∃ id ∈ members, Reclaimed w inputs id) ∧ ∀ id ∈ members, Reclaimed w inputs id → Manual w inputs id) ∧
    (f.state = "fail" ↔ ∃ id ∈ members, Reclaimed w inputs id ∧ ¬ Manual w inputs id)

/-- The rises of the revert counts, and the members that began in manual, are no more than those that ended in it. -/
def Balanced : Prop :=
  ∑ id ∈ members.toFinset, rises w inputs id + (members.toFinset.filter (BeganManual w inputs)).card ≤
    (members.toFinset.filter (Manual w inputs)).card

instance : Decidable (Balanced members w inputs) := inferInstanceAs (Decidable (_ ≤ _))

variable {members w inputs}

theorem reclaimed_iff {id : String} : Reclaimed w inputs id ↔
    0 < (pairs (modesSeen w inputs id)).countP left + rises w inputs id := by
  rw [Nat.add_pos_iff_pos_or_pos, rises, List.countP_pos_iff, List.countP_pos_iff]
  simp [Reclaimed, left]

/-- The events balance exactly when the observations do. -/
theorem balanced_iff : ∑ id ∈ members.toFinset, ((pairs (modesSeen w inputs id)).countP left + rises w inputs id) ≤
    ∑ id ∈ members.toFinset, (pairs (modesSeen w inputs id)).countP back ↔ Balanced members w inputs := by
  have hsum : ∑ id ∈ members.toFinset, (pairs (modesSeen w inputs id)).countP left +
      (members.toFinset.filter (Manual w inputs)).card =
        ∑ id ∈ members.toFinset, (pairs (modesSeen w inputs id)).countP back +
          (members.toFinset.filter (BeganManual w inputs)).card := by
    rw [Finset.card_filter, Finset.card_filter, ← Finset.sum_add_distrib, ← Finset.sum_add_distrib]
    exact Finset.sum_congr rfl fun id _ => left_back (modesSeen w inputs id)
  rw [Finset.sum_add_distrib, Balanced]
  omega

theorem countP_events {events : List ValidationEvent} {notes : List Note} {k : String}
    (h : events.map (fun e => (e.kind, e.memberId)) = notes.map fun n => (n.kind, n.memberId)) :
    events.countP (·.kind = k) = kindCount k notes := by
  have := congrArg (List.countP fun p => p.1 = k) h
  rwa [List.countP_map, List.countP_map] at this

/-- The report is right exactly where the observations balance just when every member that was taken ended in manual. -/
theorem restoration_verdict (sessionId started : Nat) (autoStarted : Bool) (metadata : K.Metadata) (members : List String)
    (w : Watch) (inputs : List (TickInput K)) (now : Nat) (state : SessionState) (reason : Option String)
    (hroom : (recordRun members (w, (ValidationSession.new sessionId autoStarted metadata started).opened) inputs).2.events.length <
      maxEvents) :
    VerdictMatches members w inputs (controlRestoration
        ((recordRun members (w, (ValidationSession.new sessionId autoStarted metadata started).opened) inputs).2.finalise
          now state reason)) ↔
      (Balanced members w inputs ↔ ∀ id ∈ members, Reclaimed w inputs id → Manual w inputs id) := by
  have hkinds := kinds_recordRun members inputs w _ hroom
  generalize recordRun members (w, (ValidationSession.new sessionId autoStarted metadata started).opened) inputs = run at hkinds ⊢
  have hevents {k : String} (hstarted : "session_started" ≠ k) (hstopped : "session_stopped" ≠ k) :
      (run.2.finalise now state reason).events.countP (·.kind = k) = kindCount k (runNotes members w inputs) := by
    have hcons : run.2.events.map (fun e => (e.kind, e.memberId)) =
        (⟨"session_started", none, none⟩ :: runNotes members w inputs).map fun n => (n.kind, n.memberId) := hkinds
    show (run.2.events ++ [run.2.event now ⟨"session_stopped", reason, none⟩]).countP (·.kind = k) = _
    rw [List.countP_append, countP_events hcons]
    simp [kindCount, ValidationSession.event, hstarted, hstopped]
  have hreclaimed := hevents (k := evControlReclaimed) (by decide) (by decide)
  have hrestored := hevents (k := evControlRestored) (by decide) (by decide)
  rw [kindCount_reclaimed] at hreclaimed
  rw [kindCount_restored] at hrestored
  have hany : 0 < ∑ id ∈ members.toFinset, ((pairs (modesSeen w inputs id)).countP left + rises w inputs id) ↔
      ∃ id ∈ members, Reclaimed w inputs id := by
    simp only [Nat.pos_iff_ne_zero, Ne, Finset.sum_eq_zero_iff, List.mem_toFinset, not_forall, exists_prop, reclaimed_iff]
  have hstate : (controlRestoration (run.2.finalise now state reason)).state =
      if ∑ id ∈ members.toFinset, ((pairs (modesSeen w inputs id)).countP left + rises w inputs id) = 0 then "not_tested"
      else if Balanced members w inputs then "pass" else "fail" := by
    unfold controlRestoration
    dsimp only
    rw [hreclaimed, hrestored, if_congr balanced_iff rfl rfl]
    split_ifs <;> rfl
  unfold VerdictMatches
  rw [hstate]
  split_ifs with hzero hbalanced
  · have hnone : ∀ id ∈ members, ¬ Reclaimed w inputs id := fun id hid h => absurd (hany.mpr ⟨id, hid, h⟩) (by omega)
    have hbalanced : Balanced members w inputs := balanced_iff.mp (by omega)
    refine iff_of_true ⟨iff_of_true rfl hnone, iff_of_false (by decide) ?_, iff_of_false (by decide) ?_⟩
      (iff_of_true hbalanced fun id hid h => absurd h (hnone id hid))
    · rintro ⟨⟨id, hid, h⟩, -⟩
      exact hnone id hid h
    · rintro ⟨id, hid, h, -⟩
      exact hnone id hid h
  · obtain ⟨id, hid, h⟩ := hany.mp (by omega)
    have hnot : ¬ ∀ id ∈ members, ¬ Reclaimed w inputs id := fun hall => hall id hid h
    constructor
    · rintro ⟨-, hpass, -⟩
      exact iff_of_true hbalanced (hpass.mp rfl).2
    · intro hiff
      have hall := hiff.mp hbalanced
      refine ⟨iff_of_false (by decide) hnot, iff_of_true rfl ⟨⟨id, hid, h⟩, hall⟩, iff_of_false (by decide) ?_⟩
      rintro ⟨id', hid', h', hbad⟩
      exact hbad (hall id' hid' h')
  · obtain ⟨id, hid, h⟩ := hany.mp (by omega)
    have hnot : ¬ ∀ id ∈ members, ¬ Reclaimed w inputs id := fun hall => hall id hid h
    constructor
    · rintro ⟨-, -, hfail⟩
      obtain ⟨id', hid', h', hbad⟩ := hfail.mp rfl
      exact iff_of_false hbalanced fun hall => hbad (hall id' hid' h')
    · intro hiff
      have hbad : ¬ ∀ id ∈ members, Reclaimed w inputs id → Manual w inputs id := fun hall => hbalanced (hiff.mpr hall)
      refine ⟨iff_of_false (by decide) hnot, iff_of_false (by decide) fun hpass => hbad hpass.2, iff_of_true rfl ?_⟩
      push Not at hbad
      exact hbad

end Verdict

/-! ## One reclaim, two detectors -/

def plainKinds : Kinds := ⟨Unit, Unit, Unit, fun _ => 7200, id⟩

/-- A tick that reads one mode and one revert count of every member it knows. -/
def tickOf (now : Nat) (modes reverts : String → Option Nat) : TickInput plainKinds where
  now := now
  reading := ()
  fans id := (modes id).map fun mode => ⟨some mode, none⟩
  commanded _ := none
  reverts := reverts
  before := []
  after := []
  others := nofun

/-- The firmware takes a header once, the watchdog counts it, and the header is taken back. -/
def takenAndRestored : List (TickInput plainKinds) :=
  [tickOf 1 (fun _ => some 2) fun _ => some 1, tickOf 2 (fun _ => some 1) fun _ => some 1]

/-- A header that was never ours comes to manual while another is taken and kept. -/
def anothersRestore : List (TickInput plainKinds) := [tickOf 1 (fun id => if id = "ours" then some 2 else some 1) fun _ => none]

def seededWatch (modes : String → Option Nat) : Watch := ⟨modes, fun _ => none⟩

/-- The report of a session over one header. -/
def reportOf (members : List String) (w : Watch) (inputs : List (TickInput plainKinds)) : ValidationFinding :=
  controlRestoration ((recordRun members (w, (ValidationSession.new 1 false () 0).opened) inputs).2.finalise 3 .completed none)

/-- A header taken once and restored is a fail, and one that was taken and never restored passes on another's restore. -/
theorem reclaim_counted_twice :
    ((reportOf ["pump"] (seededWatch fun _ => some 1) takenAndRestored).state = "fail" ∧
      ¬ VerdictMatches ["pump"] (seededWatch fun _ => some 1) takenAndRestored
        (reportOf ["pump"] (seededWatch fun _ => some 1) takenAndRestored)) ∧
    (reportOf ["ours", "other"] (seededWatch fun id => if id = "ours" then some 1 else some 5) anothersRestore).state = "pass" ∧
      ¬ VerdictMatches ["ours", "other"] (seededWatch fun id => if id = "ours" then some 1 else some 5) anothersRestore
        (reportOf ["ours", "other"] (seededWatch fun id => if id = "ours" then some 1 else some 5) anothersRestore) := by
  have hfail : (reportOf ["pump"] (seededWatch fun _ => some 1) takenAndRestored).state = "fail" := by decide
  have hpass : (reportOf ["ours", "other"] (seededWatch fun id => if id = "ours" then some 1 else some 5) anothersRestore).state =
      "pass" := by decide
  refine ⟨⟨hfail, fun h => ?_⟩, hpass, fun h => ?_⟩
  · obtain ⟨id, hid, -, hbad⟩ := h.2.2.mp hfail
    obtain rfl := List.mem_singleton.mp hid
    exact hbad rfl
  · have hmanual := (h.2.1.mp hpass).2 "ours" (by simp) (.inl ⟨(1, 2), by decide, rfl, by decide⟩)
    exact absurd hmanual (by decide)

theorem restoration_verdict_quiet :
    VerdictMatches ["pump"] (seededWatch fun _ => some 1) [tickOf 1 (fun _ => some 1) fun _ => some 0]
        (reportOf ["pump"] (seededWatch fun _ => some 1) [tickOf 1 (fun _ => some 1) fun _ => some 0]) ↔
      (Balanced ["pump"] (seededWatch fun _ => some 1) [tickOf 1 (fun _ => some 1) fun _ => some 0] ↔
        ∀ id ∈ ["pump"], Reclaimed (seededWatch fun _ => some 1) [tickOf 1 (fun _ => some 1) fun _ => some 0] id →
          Manual (seededWatch fun _ => some 1) [tickOf 1 (fun _ => some 1) fun _ => some 0] id) :=
  restoration_verdict 1 0 false () ["pump"] (seededWatch fun _ => some 1) [tickOf 1 (fun _ => some 1) fun _ => some 0] 3
    .completed none (by decide)

end ControlOfc.Validation
