import ControlOfc.Diagnostics.Walks
/-! # What a run writes and what its restore reports

A run has three parts: the walk, the return of a finished discovery to its baseline, and the restore, which
writes at most once. `restored` is meant to say that the pre-run duty was written back. After a write that did
not return on a header without a mode switch, the restore queues one behind it, and where the original duty is
unknown that is the floor of a known pump; its acknowledgement is reported as `restored` all the same
(characterization.rs:1660), unlike the raise of `withoutOriginal`.
-/
namespace ControlOfc.Diagnostics
open Asking Question

variable {Sample Pub V ε : Type}

/-- A write that returned without an error. -/
def acknowledged : Event Sample Pub → Bool
  | ⟨.write _, .ok _⟩ => true
  | _ => false

theorem acknowledged_of_written {e : Event Sample Pub} (h : written e = none) : acknowledged e = false := by
  rcases e with ⟨q, a⟩
  cases q <;> first | rfl | cases h

/-- What a run is started with. -/
structure Course where
  /-- The duties of the walk. -/
  walk : List Nat
  /-- The baseline a finished walk returns to. -/
  back : Option Nat
  watch : PumpWatch
  restoreFloor : Nat
  hasModeSwitch : Bool

namespace Course

/-- The header is known as a pump: from the start, or from an answer of the union. -/
def seesPump (c : Course) (said : List (Event Sample Pub)) : Bool := c.watch.atStart || said.any sawPump

/-- The lowest duty to restore to. -/
def floor (c : Course) (said : List (Event Sample Pub)) : Nat :=
  if c.seesPump said then max c.restoreFloor c.watch.pumpFloor else c.restoreFloor

/-- A finished walk goes back to its baseline, or to the pump floor where that is above it and the union has just
answered yes. -/
def Returns (c : Course) (walked returned : List (Event Sample Pub)) : Prop :=
  writes walked = c.walk ∧ (∀ e ∈ walked, refuses e = false ∧ isStuck e = false) ∧
    ∃ baseline asked a, c.back = some baseline ∧ (∀ e ∈ asked, written e = none ∧ (refuses e → sawPump e)) ∧
      returned = asked ++ [⟨write (if asked.any sawPump then max baseline c.watch.pumpFloor else baseline), a⟩]

/-- Before its restore. -/
def Planned (c : Course) (walked returned : List (Event Sample Pub)) : Prop :=
  writes walked <+: c.walk ∧ Orderly walked ∧ (writes returned = [] ∨ c.Returns walked returned)

/-- At most one write, and none below the floor of what is known as a pump. -/
def Restores (c : Course) (said restored : List (Event Sample Pub)) : Prop :=
  writes restored = [] ∨
    ∃ asked d a, restored = asked ++ [⟨write d, a⟩] ∧ writes asked = [] ∧ (c.seesPump said → c.watch.pumpFloor ≤ d)

/-- A header with a mode switch is not written behind a write that did not return. -/
def LeavesStuck (c : Course) (said : List (Event Sample Pub)) : Prop :=
  c.hasModeSwitch → said.Pairwise fun x e => isStuck x → written e = none

/-- The writes of a run stay in its plan. -/
def Stays (c : Course) (said : List (Event Sample Pub)) : Prop :=
  (∃ walked returned restored, said = walked ++ returned ++ restored ∧ c.Planned walked returned ∧
    c.Restores said restored) ∧ c.LeavesStuck said

/-- `restored` means that nothing was written, or that the last write put the original duty back. -/
def Truthful (c : Course) (original : Option Nat) (s : Run Sample Pub V) : Prop :=
  s.mem.report = .restored →
    writes s.said = [] ∨ ∃ duty before, original = some duty ∧
      s.said = before ++ [⟨write (max duty (c.floor s.said)), .ok ()⟩]

/-- The original duty is known, the header has a mode switch, or nothing behind a write that did not return was
acknowledged. -/
def Recoverable (c : Course) (original : Option Nat) (said : List (Event Sample Pub)) : Prop :=
  original.isSome ∨ c.hasModeSwitch ∨ said.Pairwise fun x e => isStuck x → acknowledged e = false

/-- `RestoreGuard` as a run arms it. -/
def guard (c : Course) (original : Option Nat) (bounded : Bool) : RestoreGuard where
  originalPct := original
  restoreFloor := c.restoreFloor
  pumpWatch := some c.watch
  unresponsive := bounded
  afterStuckWrite := .forHeader c.hasModeSwitch .queueRestore

/-- Where the restore of a run begins. -/
structure Done (c : Course) (s : Run Sample Pub V) : Prop where
  ledger : Ledger s
  planned : ∃ walked returned, s.said = walked ++ returned ∧ c.Planned walked returned
  behind : s.said.Pairwise fun x e => isStuck x → written e = none

variable {c : Course} {original : Option Nat} {bounded : Bool} {s s' : Run Sample Pub V}

theorem floorAsSeen_eq {m : RunMem V} {said : List (Event Sample Pub)} (h : m.seen = said.any sawPump) :
    (c.guard original bounded).floorAsSeen m = c.floor said := by
  unfold floor seesPump
  rw [← h]
  rfl

theorem le_floor {said : List (Event Sample Pub)} (h : c.seesPump said) : c.watch.pumpFloor ≤ c.floor said := by
  rw [floor, if_pos h]
  exact Nat.le_max_right ..

/-! ## Before the restore -/

theorem Orderly.behind {said : List (Event Sample Pub)} (h : Orderly said) :
    said.Pairwise fun x e => isStuck x → written e = none := by
  refine h.imp fun {x e} hxe hstuck => ?_
  by_contra hne
  have := (hxe (Option.isSome_iff_ne_none.mpr hne)).2
  rw [hstuck] at this
  cases this

theorem done_of_cut (h : Cut c.walk s) : c.Done s := by
  obtain ⟨W, hpre, hs⟩ := h
  exact ⟨hs.ledger, ⟨s.said, [], by simp, hs.writes ▸ hpre, hs.orderly, .inl rfl⟩, Orderly.behind hs.orderly⟩

/-- Where nothing was stuck before its last words. -/
theorem behind_of_clear {said : List (Event Sample Pub)} (h : said.any isStuck = false) (e : Event Sample Pub)
    {p : Event Sample Pub → Prop} : (said ++ [e]).Pairwise fun x e => isStuck x → p e := by
  rw [List.any_eq_false] at h
  refine List.pairwise_append.mpr ⟨?_, List.pairwise_singleton .., fun x hx _ _ hstuck => absurd hstuck (h x hx)⟩
  exact List.pairwise_of_forall_mem_list fun x hx _ _ hstuck => absurd hstuck (h x hx)

/-- The return of a finished walk, from `u` on, where `asked` was said since the walk. -/
theorem done_of_returned {u : Run Sample Pub V} {asked : List (Event Sample Pub)} {baseline pct : Nat}
    (h : Going c.walk s) (hback : c.back = some baseline) (hu : Ledger u) (hsaid : u.said = s.said ++ asked)
    (hcalm : ∀ e ∈ asked, written e = none ∧ (refuses e → sawPump e))
    (hpct : pct = if asked.any sawPump then max baseline c.watch.pumpFloor else baseline) (a : Except WriteFailure Unit)
    {m : RunMem V} (hwrote : m.wroteAny = true) (hstuck : m.writeStuck = isStuck (⟨write pct, a⟩ : Event Sample Pub))
    (hseen : m.seen = u.mem.seen) (hlast : m.lastWritten = some pct) (hreport : m.report = u.mem.report) :
    c.Done { u.note (write pct) a with mem := m } := by
  have hnone : u.said.any isStuck = false := by
    rw [hsaid, List.any_append, ← h.ledger.stuck, h.not_stuck, Bool.false_or, List.any_eq_false]
    intro e he
    simp [isStuck_of_written (hcalm e he).1]
  refine ⟨hu.of_write (hu.stuck.trans hnone) pct a hwrote hstuck hseen hlast hreport,
    ⟨s.said, asked ++ [⟨write pct, a⟩], by simp [hsaid], ⟨[], by simp [h.writes]⟩, h.orderly, .inr ?_⟩,
    behind_of_clear hnone _⟩
  exact ⟨h.writes, h.clear, baseline, asked, a, hback, hcalm, by rw [hpct]⟩

/-! ## The restore -/

theorem kept_seen :
    Kept fun s t : Run Sample Pub V => s.mem.seen = s.said.any sawPump → t.mem.seen = t.said.any sawPump where
  refl _ h := h
  trans _ _ _ h h' hs := h' (h hs)
  noted s m hm h := hm.trans h
  shuttingDown s b h := by simp [h, sawPump]
  thermalForceState s o h := by simp [h, sawPump]
  write s pct a h := by simp [h, sawPump]
  heard s b h := by cases b <;> simp [heardPump, h, sawPump]

/-- A restore that wrote nothing, or a run that has none yet. -/
theorem Done.quiet {asked : List (Event Sample Pub)} (h : c.Done s) (hsaid : s'.said = s.said ++ asked)
    (hasked : writes asked = []) (hreport : s'.mem.report = .restored → s.mem.wroteAny = false) :
    c.Stays s'.said ∧ (c.Truthful original s' ↔ c.Recoverable original s'.said) := by
  obtain ⟨walked, returned, hs, hplanned⟩ := h.planned
  have hnone : ∀ e ∈ asked, written e = none := List.filterMap_eq_nil_iff.mp hasked
  have hbehind : s'.said.Pairwise fun x e => isStuck x → written e = none := by
    rw [hsaid]
    refine List.pairwise_append.mpr ⟨h.behind, ?_, fun x _ e he _ => hnone e he⟩
    exact List.pairwise_of_forall_mem_list fun x _ e he _ => hnone e he
  refine ⟨⟨⟨walked, returned, asked, by rw [hsaid, hs], hplanned, .inl hasked⟩, fun _ => hbehind⟩, ?_⟩
  refine iff_of_true (fun hr => .inl ?_) (.inr (.inr (hbehind.imp fun hxe hx => acknowledged_of_written (hxe hx))))
  have hwrote := h.ledger.wrote.symm.trans (hreport hr)
  rw [hsaid, writes_append, hasked, List.append_nil]
  simpa using hwrote

/-- What is queued behind a write that did not return: the restore, or the floor of a known pump. -/
theorem queued_cases {m : RunMem V} {said : List (Event Sample Pub)} {d : Nat} (hseen : m.seen = said.any sawPump)
    (h : (c.guard original bounded).queued m = some d) :
    c.hasModeSwitch = false ∧
      ((∃ duty, original = some duty ∧ d = max duty (c.floor said)) ∨ original = none ∧ c.watch.pumpFloor ≤ d) := by
  have hfloor : (c.guard original bounded).floorAsSeen m = c.floor said := floorAsSeen_eq hseen
  cases hmode : c.hasModeSwitch with
  | true => simp [RestoreGuard.queued, guard, AfterStuckWrite.forHeader, hmode] at h
  | false =>
    refine ⟨rfl, ?_⟩
    cases original with
    | some duty =>
      refine .inl ⟨duty, rfl, ?_⟩
      rw [← hfloor]
      simpa [RestoreGuard.queued, guard, AfterStuckWrite.forHeader, hmode] using h.symm
    | none =>
      have hd : c.watch.flooredFallbackAsSeen m = some d := by
        simpa [RestoreGuard.queued, guard, AfterStuckWrite.forHeader, hmode] using h
      unfold PumpWatch.flooredFallbackAsSeen PumpWatch.flooredFallbackIf at hd
      split at hd
      · obtain ⟨last, -, rfl⟩ := Option.map_eq_some_iff.mp hd
        exact .inr ⟨rfl, Nat.le_max_right ..⟩
      · cases hd

/-- A restore that wrote. -/
theorem Done.wrote {asked : List (Event Sample Pub)} {d : Nat} {a : Except WriteFailure Unit} (h : c.Done s)
    (hsaid : s'.said = s.said ++ asked ++ [⟨write d, a⟩]) (hasked : ∀ e ∈ asked, Calm e)
    (hseen : s'.mem.seen = s'.said.any sawPump) (why : LastWrite (c.guard original bounded) s.mem s'.mem d a) :
    c.Stays s'.said ∧ (c.Truthful original s' ↔ c.Recoverable original s'.said) := by
  obtain ⟨walked, returned, hs, hplanned⟩ := h.planned
  have hquiet := writes_of_calm hasked
  have hnone : ∀ e ∈ asked, written e = none := fun e he => (hasked e he).written
  have hany : (s.said ++ asked).any isStuck = s.mem.writeStuck := by
    rw [List.any_append, ← h.ledger.stuck, Bool.or_eq_left_iff_imp]
    intro hstuck
    obtain ⟨e, he, hstuck⟩ := List.any_eq_true.mp hstuck
    rw [isStuck_of_written (hnone e he)] at hstuck
    cases hstuck
  have hfloor : (c.guard original bounded).floorAsSeen s'.mem = c.floor s'.said := floorAsSeen_eq hseen
  have hstays : (c.seesPump s'.said → c.watch.pumpFloor ≤ d) → c.LeavesStuck s'.said → c.Stays s'.said :=
    fun hd hleaves => ⟨⟨walked, returned, asked ++ [⟨write d, a⟩], by rw [hsaid, hs]; simp, hplanned,
      .inr ⟨asked, d, a, rfl, hquiet, hd⟩⟩, hleaves⟩
  cases why with
  | putBack duty horiginal hstuck hd hreport hpending =>
    rw [hfloor] at hd
    refine ⟨hstays (fun hp => hd ▸ (le_floor hp).trans (Nat.le_max_right ..)) fun _ => ?_, ?_⟩
    · rw [hsaid]
      exact behind_of_clear (hany.trans hstuck) _
    · refine iff_of_true (fun hr => .inr ⟨duty, s.said ++ asked, horiginal, ?_⟩) (.inl (Option.isSome_iff_exists.mpr ⟨duty, horiginal⟩))
      rw [← hd, ← hreport.mp hr]
      exact hsaid
  | raised w last horiginal hstuck hwatch hlast hd hreport =>
    obtain rfl : c.watch = w := Option.some.inj hwatch
    refine ⟨hstays (fun _ => hd ▸ Nat.le_max_right ..) fun _ => ?_, ?_⟩
    · rw [hsaid]
      exact behind_of_clear (hany.trans hstuck) _
    · refine iff_of_true (fun hr => ?_) (.inr (.inr ?_))
      · rw [hreport] at hr
        cases hr
      · rw [hsaid]
        exact behind_of_clear (hany.trans hstuck) _
  | queued hstuck hseen' hd hreport hpending =>
    obtain ⟨hmode, hduty⟩ := queued_cases (hseen'.symm.trans hseen) hd
    have hafter : (c.guard original bounded).afterStuckWrite = .queueRestore := by simp [guard, AfterStuckWrite.forHeader, hmode]
    have hleaves : c.LeavesStuck s'.said := fun htrue => by
      rw [hmode] at htrue
      cases htrue
    rcases hduty with ⟨duty, horiginal, hduty⟩ | ⟨horiginal, hle⟩
    · refine ⟨hstays (fun hp => hduty ▸ (le_floor hp).trans (Nat.le_max_right ..)) hleaves, ?_⟩
      refine iff_of_true (fun hr => .inr ⟨duty, s.said ++ asked, horiginal, ?_⟩) (.inl (Option.isSome_iff_exists.mpr ⟨duty, horiginal⟩))
      rw [← hduty, ← (hreport.mp hr).1]
      exact hsaid
    · refine ⟨hstays (fun _ => hle) hleaves, ?_⟩
      -- the defect: what is queued is the floor of a pump, and its acknowledgement is reported as `restored`
      have htruth : c.Truthful original s' ↔ a ≠ .ok () := by
        refine ⟨fun htrue ha => ?_, fun ha hr => absurd (hreport.mp hr).1 ha⟩
        rcases htrue (hreport.mpr ⟨ha, hafter⟩) with hempty | ⟨duty, _, hsome, _⟩
        · simp [hsaid, written] at hempty
        · rw [horiginal] at hsome
          cases hsome
      rw [htruth]
      constructor
      · intro ha
        refine .inr (.inr ?_)
        rw [hsaid]
        refine List.pairwise_append.mpr ⟨?_, List.pairwise_singleton .., fun x _ e he _ => ?_⟩
        · refine List.pairwise_append.mpr ⟨h.behind.imp fun hxe hx => acknowledged_of_written (hxe hx), ?_, ?_⟩
          · exact List.pairwise_of_forall_mem_list fun x _ e he _ => acknowledged_of_written (hnone e he)
          · exact fun x _ e he _ => acknowledged_of_written (hnone e he)
        · obtain rfl := List.mem_singleton.mp he
          rcases a with _ | _
          · rfl
          · exact absurd rfl ha
      · rintro (hsome | htrue | hbehind) rfl
        · rw [horiginal] at hsome
          cases hsome
        · rw [hmode] at htrue
          cases htrue
        · rw [hsaid] at hbehind
          obtain ⟨x, hx, hxstuck⟩ := List.any_eq_true.mp (hany.trans hstuck)
          have := (List.pairwise_append.mp hbehind).2.2 x hx _ (List.mem_singleton_self _) hxstuck
          cases this

end Course

/-! ## Whole runs -/

/-- What a run keeps to, and when its report is true. -/
def Course.Followed (c : Course) (original : Option Nat) (s : Run Sample Pub V) : Prop :=
  c.Stays s.said ∧ (c.Truthful original s ↔ c.Recoverable original s.said)

namespace Course.Done

variable {c : Course} {original : Option Nat} {bounded : Bool} {s : Run Sample Pub V} {E : ε → Run Sample Pub V → Prop}

theorem unended (h : c.Done s) : c.Followed original s :=
  h.quiet (List.append_nil _).symm rfl fun hr => by
    rw [h.ledger.pending] at hr
    cases hr

theorem restore (h : c.Done s) : (c.guard original bounded).restoreBody.wp (fun _ => c.Followed original) E s := by
  have hending := (c.guard original bounded).restoreBody_ending (E := E) s
  refine (hending.within kept_seen.restoreBody).mono (fun _ s' hs' => ?_) fun _ _ h => h.1
  obtain ⟨hend, hseen⟩ := hs'
  cases hend with
  | quiet asked said hasked hreport _ => exact h.quiet said hasked hreport
  | wrote asked d a said hasked why => exact h.wrote said hasked (hseen h.ledger.seen) why

end Course.Done

theorem Going.start (env : List (Event Sample Pub) → (q : Question Pub) → Answer Sample q) (vars : V) :
    Going [] (⟨env, [], { vars := vars }⟩ : Run Sample Pub V) :=
  ⟨⟨⟨rfl, rfl, rfl, rfl, rfl⟩, rfl, List.Pairwise.nil⟩, nofun⟩

def Sweep.SweepArgs.course (args : SweepArgs) : Course where
  walk := args.plan.map (·.pct)
  back := none
  watch := args.pumpWatch
  restoreFloor := args.restoreFloor
  hasModeSwitch := args.hasModeSwitch

def Discovery.DiscoveryArgs.course (args : DiscoveryArgs) : Course where
  walk := cycleDuties args args.cycleCount
  back := some args.baselinePct
  watch := args.pumpWatch
  restoreFloor := args.restoreFloor
  hasModeSwitch := args.hasModeSwitch

namespace Sweep

theorem runSweep_followed (args : SweepArgs) (fuel : Nat) (env : List (Event HwmonVerifyState News) → (q : Question News) → Answer HwmonVerifyState q) :
    args.course.Followed ((env [] .read).bind (·.pwmPercent)) (runSweep args fuel ⟨env, [], { vars := () }⟩).2 := by
  refine (Act.wp_state (m := runSweep args fuel) (P := args.course.Followed _)).mp ?_
  unfold runSweep
  refine Act.wp_bind.mpr (wp_ask_iff.mpr ?_)
  have hgo := (Going.start env ()).note (q := read) (a := env [] .read) rfl rfl
  have hend : ∀ (o : SweepOutcome) (t : SweepRun), Cut (args.plan.map (·.pct)) t →
      ((guard args ((env [] .read).bind (·.pwmPercent))).restoreBody >>= fun _ => Pure.pure (some o)).wp
        (fun _ => args.course.Followed ((env [] .read).bind (·.pwmPercent)))
        (fun (_ : Empty) => args.course.Followed ((env [] .read).bind (·.pwmPercent))) t := fun o t h =>
    Act.wp_bind.mpr (Course.done_of_cut (c := args.course) h).restore
  refine Act.wp_bind.mpr (Act.wp_attempt.mpr ((going_sweepWalk fuel _ hgo).mono (fun o t h => hend o t h) fun e t h => ?_))
  cases e with
  | unended => exact (Course.done_of_cut (c := args.course) h).unended
  | returned o => exact hend o t h

end Sweep

namespace Discovery

variable {args : DiscoveryArgs} {at_ : Setting} {s u : DiscoveryRun} {E : Left DiscoveryOutcome → DiscoveryRun → Prop}

/-- The write of the return. -/
theorem wp_returned {asked : List (Event DiscoverySample News)} {pct : Nat} (h : Going args.course.walk s) (hwalk : 0 < args.cycleCount)
    (hu : Ledger u) (hsaid : u.said = s.said ++ asked) (hcalm : ∀ e ∈ asked, written e = none ∧ (refuses e → sawPump e))
    (hpct : pct = if asked.any sawPump then max args.baselinePct args.pumpWatch.pumpFloor else args.baselinePct) :
    (do
      PumpWatch.noteWrite pct
      match ← ask (write pct) with
      | .error .unresponsive => modify fun m => { m with writeStuck := true }
      | _ => pure () : Walk Unit).wp (fun _ => args.course.Done) E u := by
  have hne : writes u.said ≠ [] := by
    rw [hsaid, writes_append, h.writes]
    obtain ⟨left, hleft⟩ := Nat.exists_eq_add_of_lt hwalk
    simp [DiscoveryArgs.course, hleft, cycleDuties_succ]
  have hwrote : u.mem.wroteAny = true := by
    rw [hu.wrote, List.isEmpty_eq_false_iff.mpr hne]
    rfl
  have hnone : u.mem.writeStuck = false := by
    rw [hu.stuck, hsaid, List.any_append, ← h.ledger.stuck, h.not_stuck, Bool.false_or, List.any_eq_false]
    intro e he
    simp [isStuck_of_written (hcalm e he).1]
  have hdone := fun a m => Course.done_of_returned (c := args.course) (m := m) h rfl hu hsaid hcalm hpct a
  unfold PumpWatch.noteWrite
  refine Act.wp_bind.mpr (wp_modify.mpr (wp_askBind fun a => ?_))
  rcases a with (e | _) | _
  · exact hdone (.error (.error e)) { u.mem with lastWritten := some pct } hwrote hnone rfl rfl rfl
  · exact hdone (.error .unresponsive) { u.mem with lastWritten := some pct, writeStuck := true } hwrote rfl rfl rfl rfl
  · exact hdone (.ok ()) { u.mem with lastWritten := some pct } hwrote hnone rfl rfl rfl

theorem returnToBaseline_done (hwalk : 0 < args.cycleCount) (h : Going args.course.walk s) :
    (returnToBaseline args).wp (fun _ => args.course.Done) E s := by
  unfold returnToBaseline
  refine wp_askBind fun down => ?_
  cases down with
  | true => exact Course.done_of_cut ((h.toStopped.note rfl rfl).cut List.prefix_rfl)
  | false =>
    have hdown := h.note (q := shuttingDown) (a := false) rfl rfl
    refine wp_askBind fun force => ?_
    cases force with
    | some state => exact Course.done_of_cut ((hdown.toStopped.note rfl rfl).cut List.prefix_rfl)
    | none =>
      have hforce := hdown.note (q := thermalForceState) (a := none) rfl rfl
      have hcalm : ∀ e ∈ ([⟨.shuttingDown, false⟩, ⟨.thermalForceState, none⟩] : List (Event DiscoverySample News)),
          written e = none ∧ (refuses e → sawPump e) := by
        intro e he
        rcases List.mem_pair.mp he with rfl | rfl <;> exact ⟨rfl, nofun⟩
      refine Act.wp_bind.mpr (PumpWatch.wp_becameProtected (fun _ => ?_) (fun _ hseen => ?_) fun _ _ b => ?_)
      · exact wp_returned h hwalk hforce.ledger (List.append_assoc ..) hcalm rfl
      · rw [hforce.ledger.seen] at hseen
        obtain ⟨e, he, hpump⟩ := List.any_eq_true.mp hseen
        rw [sawPump_of_refuses (hforce.clear e he).1] at hpump
        cases hpump
      · have hsaid : (heardPump ((s.note shuttingDown false).note thermalForceState none) b).said =
            s.said ++ [⟨.shuttingDown, false⟩, ⟨.thermalForceState, none⟩, ⟨.pumpProtected, b⟩] := by simp [heardPump]
        refine wp_returned h hwalk (hforce.ledger.heard b) hsaid (fun e he => ?_) ?_
        · rcases List.mem_append.mp (show e ∈ [_, _] ++ [_] from he) with he | he
          · exact hcalm e he
          · obtain rfl := List.mem_singleton.mp he
            cases b <;> exact ⟨rfl, fun h => h⟩
        · cases b <;> rfl

theorem discoveryWalk_done (hwalk : 0 < args.cycleCount) (fuel : Nat) (first : DiscoverySample) (h : Going [] s) :
    (discoveryWalk args at_ fuel first).wp (fun _ => args.course.Done) (fun _ => args.course.Done) s := by
  have hcut : ∀ (e : Left DiscoveryOutcome) (t : DiscoveryRun), Cut args.course.walk t → args.course.Done t :=
    fun _ _ => Course.done_of_cut
  unfold discoveryWalk
  refine Act.wp_bind.mpr (Act.wp.mono (going_cyclesFrom (T := fun _ => Going args.course.walk) fuel 1 args.cycleCount _ h
    (List.nil_append _) fun _ _ h => h) (fun c s h => ?_) hcut)
  refine Act.wp_bind.mpr (Act.wp.mono (going_thermalOr (T := fun _ => Going args.course.walk) List.prefix_rfl h
    fun _ h => h) (fun _ s h => ?_) hcut)
  refine Act.wp_bind.mpr ((returnToBaseline_done hwalk h).mono (fun _ s h => ?_) fun _ _ h => h)
  exact h

theorem runDiscovery_followed (args : DiscoveryArgs) (hwalk : 0 < args.cycleCount) (fuel : Nat) (vars : Counters)
    (env : List (Event DiscoverySample News) → (q : Question News) → Answer DiscoverySample q) :
    args.course.Followed ((env [] .read).bind (·.header.pwmPercent)) (runDiscovery args fuel ⟨env, [], { vars }⟩).2 := by
  refine (Act.wp_state (m := runDiscovery args fuel) (P := args.course.Followed _)).mp ?_
  unfold runDiscovery
  refine Act.wp_bind.mpr (wp_ask_iff.mpr ?_)
  have hgo := (Going.start env vars).note (q := read) (a := env [] .read) rfl rfl
  dsimp only at hgo ⊢
  generalize env [] .read = first at hgo ⊢
  cases first with
  | none => exact (Course.done_of_cut (c := args.course) (hgo.toStopped.cut List.nil_prefix)).unended
  | some first =>
    refine wp_askBind fun t => ?_
    have hgo := hgo.note (q := now) (a := t) rfl rfl
    refine Act.wp_bind.mpr (Act.wp_attempt.mpr ((discoveryWalk_done hwalk fuel first hgo).mono (fun o t h => ?_) fun e t h => ?_))
    · exact Act.wp_bind.mpr h.restore
    · cases e with
      | unended => exact h.unended
      | returned o => exact Act.wp_bind.mpr h.restore

end Discovery

/-- A run's writes stay in its plan, and its report is true exactly where the original duty is known, the header has a
mode switch, or nothing behind a write that did not return was acknowledged. -/
theorem followed_and_truthful_iff (fuel : Nat) :
    (∀ (args : Sweep.SweepArgs)
      (env : List (Event HwmonVerifyState Sweep.News) → (q : Question Sweep.News) → Answer HwmonVerifyState q),
      let s := (runSweep args fuel ⟨env, [], { vars := () }⟩).2
      let original := (env [] .read).bind (·.pwmPercent)
      args.course.Stays s.said ∧ (args.course.Truthful original s ↔ args.course.Recoverable original s.said)) ∧
    ∀ (args : Discovery.DiscoveryArgs), 0 < args.cycleCount → ∀ (vars : Discovery.Counters)
      (env : List (Event Discovery.DiscoverySample Discovery.News) → (q : Question Discovery.News) →
        Answer Discovery.DiscoverySample q),
      let s := (runDiscovery args fuel ⟨env, [], { vars }⟩).2
      let original := (env [] .read).bind (·.header.pwmPercent)
      args.course.Stays s.said ∧ (args.course.Truthful original s ↔ args.course.Recoverable original s.said) :=
  ⟨fun args env => Sweep.runSweep_followed args fuel env,
    fun args hwalk vars env => Discovery.runDiscovery_followed args hwalk fuel vars env⟩

/-- A discovery during which the daemon shuts down. -/
def closing (said : List (Event Discovery.DiscoverySample Discovery.News)) :
    (q : Question Discovery.News) → Answer Discovery.DiscoverySample q
  | .read => some ⟨⟨some 1, some 102, some 40, some 900⟩, [some 900]⟩
  | .write _ => .ok ()
  | .keepalive => true
  | .shuttingDown => !(writes said).isEmpty
  | .cancel | .pumpProtected => false
  | .checkThermalSafety | .thermalForceState | .staleTemperature => none
  | .eligible => ⟨none, false⟩
  | .hottestFreshCpu => none
  | .now => 0
  | .sleep _ | .publish _ => ()

def closingArgs : Discovery.DiscoveryArgs where
  channels := [⟨"fan1", true⟩]
  baselinePct := 40
  perturbedPct := 60
  direction := "up"
  cycleCount := 2
  restoreFloor := 20
  hasModeSwitch := true
  pumpProtected := false
  pumpWatch := .new false 30
  window := 6000000000
  settleWaitMax := 15000000000

theorem followed_and_truthful_iff_closing :
    let s := (runDiscovery closingArgs 1 ⟨closing, [], { vars := ⟨0, [[]]⟩ }⟩).2
    writes s.said = [40] ∧ closingArgs.course.Stays s.said ∧
      (closingArgs.course.Truthful (some 40) s ↔ closingArgs.course.Recoverable (some 40) s.said) :=
  ⟨rfl, (followed_and_truthful_iff 1).2 closingArgs (by decide) ⟨0, [[]]⟩ closing⟩

/-! A pump without a mode switch, whose duty is not readable: the driver is silent during the first write. -/

/-- Writes after the first return. -/
def silentOnce (said : List (Event HwmonVerifyState Sweep.News)) : (q : Question Sweep.News) → Answer HwmonVerifyState q
  | .read => some ⟨none, none, none, some 1200⟩
  | .write _ => if (writes said).isEmpty then .error .unresponsive else .ok ()
  | .keepalive => true
  | .shuttingDown | .cancel | .pumpProtected => false
  | .checkThermalSafety | .thermalForceState | .staleTemperature => none
  | .eligible => ⟨none, false⟩
  | .hottestFreshCpu => none
  | .now => 0
  | .sleep _ | .publish _ => ()

def silentPump : Sweep.SweepArgs where
  plan := [⟨50, .falling, none⟩, ⟨40, .falling, none⟩]
  restoreFloor := 30
  hasModeSwitch := false
  pumpWatch := .new true 30
  settle := 6000000000

/-- The floor that was queued behind it is reported as the pre-sweep duty. -/
theorem queued_floor_reported_restored :
    ¬ ∀ (args : Sweep.SweepArgs) (fuel : Nat)
      (env : List (Event HwmonVerifyState Sweep.News) → (q : Question Sweep.News) → Answer HwmonVerifyState q),
      args.course.Truthful ((env [] .read).bind (·.pwmPercent)) (runSweep args fuel ⟨env, [], { vars := () }⟩).2 := by
  intro h
  rcases h silentPump 1 silentOnce rfl with hempty | ⟨duty, _, hduty, _⟩
  · have hwrites : writes (runSweep silentPump 1 ⟨silentOnce, [], { vars := () }⟩).2.said = [50, 50] := rfl
    rw [hwrites] at hempty
    cases hempty
  · cases hduty

end ControlOfc.Diagnostics
