import ControlOfc.Diagnostics.CalibrationRun
/-! # What a calibration reports, and what it leaves

* `walk_is_gated`: the walk writes its planned duties in order, each directly after a gate that passed; what follows
  is at most two kicks and the restore.
* `findings_are_measured`: what a run reports is what its holds heard.
* `restore_after`: the original duty is put back only where the fan was last heard turning, or was kicked at 100 %,
  or in the three cases listed.
-/
namespace ControlOfc.Diagnostics.Calibration
open Asking CalQuestion

variable {args : CalArgs} {env : List CalEvent → (q : CalQuestion) → CalAnswer q} {s t u : CalRun}

/-! ## The kick an early end owes -/

/-- How the kick that an early end owes was settled, and with which holds. -/
inductive Settled (s t : CalRun) : List Hold → Prop
  | spared (h : kickOwed s.mem = false) : Settled s t []
  | forced (h : ∃ state, ⟨thermalForceState, some state⟩ ∈ t.said) : Settled s t []
  | kicked (k : Hold) (h : k.pct = 100 ∧ k.acked = true ∧ k.fresh ≠ []) : Settled s t [k]
  | atFull (done : List Hold) (hpre : done.map (·.pct) <+: [100]) (h : t.mem.restoreFullSpeed = true) : Settled s t done

theorem Settled.pct {done : List Hold} (h : Settled s t done) : done.map (·.pct) <+: [100] := by
  cases h with
  | spared => exact List.nil_prefix
  | forced => exact List.nil_prefix
  | kicked k h => simp [h.1]
  | atFull _ hpre => exact hpre

theorem After.slowed {done : List Hold} (h : After s t done) :
    After s { t with mem := { t.mem with restoreFullSpeed := true } } done := ⟨h.told, h.holds⟩

theorem Book.slowed (h : Book t) : Book { t with mem := { t.mem with restoreFullSpeed := true } } :=
  ⟨h.touched, h.lowest, h.last, h.told⟩

theorem wp_settleKick {fuel : Nat} (h : Book s) :
    (settleKick args fuel).wp (fun r t => r = some () → ∃ done, After s t done ∧ Book t ∧ Same t.mem.p s.mem.p ∧ Settled s t done)
      (fun _ _ => True) s := by
  unfold settleKick
  simp only [Act.wp_bind, wp_get]
  cases howed : kickOwed s.mem with
  | false => exact fun _ => ⟨[], (Quiet.refl s).after, h, (Quiet.refl s).kept.same, .spared howed⟩
  | true =>
    refine wp_askBind fun force => ?_
    have hq : Quiet s (s.note thermalForceState force) := (Quiet.refl s).note rfl rfl
    cases force with
    | some state => exact fun _ => ⟨[], hq.after, h.quietly hq, hq.kept.same, .forced ⟨state, by simp⟩⟩
    | none =>
      refine wp_askBind fun down => ?_
      replace hq : Quiet s ((s.note thermalForceState none).note shuttingDown down) := hq.note rfl rfl
      have hb := h.quietly hq
      cases down with
      | true => exact fun _ => ⟨[], hq.after.slowed, hb.slowed, hq.kept.same, .atFull [] List.nil_prefix rfl⟩
      | false =>
        refine Act.wp_bind.mpr (Act.wp_attempt.mpr ((wp_kick hb).mono (fun _ t ht => ?_) fun e t ht => ?_))
        · obtain ⟨k, hafter, hb', hk, hs, -, -⟩ := ht
          exact fun _ => ⟨[k], hq.after.trans hafter, hb', hs.trans (hq.kept.same), .kicked k hk⟩
        · cases e with
          | unended => exact fun h => by cases h
          | returned stop =>
            obtain ⟨done, hafter, hb', hpre, hkept⟩ := ht stop rfl
            exact fun _ => ⟨done, (hq.after.trans hafter).slowed, hb'.slowed, hkept.same.trans hq.kept.same, .atFull done hpre rfl⟩

/-! ## The restore -/

/-- What the write of the restore answers is what the run reports of it. -/
def reported (w : Walk) : Except String Unit → CalRestore
  | .ok () => if w.restoreFullSpeed then .fullSpeed else .restored
  | .error _ => .writeFailed

/-- The restore writes nothing to a channel the run left alone, or while thermal safety forces. -/
inductive Restored (s t : CalRun) : Prop
  | notNeeded (untouched : s.mem.touched = false) (said : t.said = s.said) (outcome : t.mem.p.restoreOutcome = .notNeeded)
  | skipped (u : CalRun) (h : Quiet s u) (said : t.said = u.said) (forced : ∃ state, ⟨thermalForceState, some state⟩ ∈ t.said)
      (outcome : t.mem.p.restoreOutcome = .skippedThermalForce)
  | wrote (u : CalRun) (p : CalProgress) (a : Except String Unit) (touched : s.mem.touched = true) (h : Quiet s u)
      (said : t.said = u.said ++ [⟨publish p, ()⟩, ⟨write (restoreTarget u.mem), a⟩])
      (outcome : t.mem.p.restoreOutcome = reported u.mem a)

theorem Restored.of_facts {m : Walk} (h : Restored s t) (hm : m.p.restoreOutcome = t.mem.p.restoreOutcome) :
    Restored s { t with mem := m } := by
  cases h with
  | notNeeded untouched said outcome => exact .notNeeded untouched said (hm.trans outcome)
  | skipped u h said forced outcome => exact .skipped u h said forced (hm.trans outcome)
  | wrote u p a touched h said outcome => exact .wrote u p a touched h said (hm.trans outcome)

theorem wp_restore : (restore (ε := Empty)).wp (fun _ t => Restored s t ∧ Same t.mem.p s.mem.p ∧
    t.mem.p.restartFailedAtFull = s.mem.p.restartFailedAtFull) (fun _ _ => True) s := by
  unfold restore
  simp only [Act.wp_bind, wp_modify, wp_get]
  split
  · next h => exact ⟨.notNeeded (by simpa using h) rfl rfl, ⟨rfl, rfl, rfl, rfl, rfl⟩, rfl⟩
  · next h =>
    have htouched : s.mem.touched = true := by simpa using h
    have hdisarmed : Quiet s { s with mem := { s.mem with armed := false } } := by
      refine (Quiet.refl s).noted ?_ ?_ <;> rfl
    refine Act.wp_bind.mpr (wp_refreshPumpSeen fun u hu _ => ?_)
    replace hu := hdisarmed.trans hu
    simp only [Act.wp_bind, wp_get]
    refine wp_ask fun force => ?_
    have hforce : Quiet s (u.note thermalForceState force) := hu.note rfl rfl
    have hkept := hforce.kept
    have hsame : ∀ {p : CalProgress}, Same p u.mem.p → Same p s.mem.p := fun h => h.trans hkept.same
    cases force with
    | some state =>
      refine ⟨.skipped _ hforce rfl ⟨state, ?_⟩ rfl, hsame ⟨rfl, rfl, rfl, rfl, rfl⟩, hkept.atFull⟩
      simp
    | none =>
      unfold setPhase
      simp only [Option.isSome_none, Bool.false_eq_true, if_false, Act.wp_bind, wp_modify, wp_get]
      refine wp_ask fun _ => wp_askBind fun a => ?_
      unfold restored
      have hsaid : ∀ {p}, ((u.note thermalForceState none).note (publish p) ()).said ++ [⟨write (restoreTarget u.mem), a⟩] =
          (u.note thermalForceState none).said ++ [⟨publish p, ()⟩, ⟨write (restoreTarget u.mem), a⟩] := by simp
      cases a with
      | error e => exact ⟨.wrote _ _ (.error e) htouched hforce hsaid rfl, hsame ⟨rfl, rfl, rfl, rfl, rfl⟩, hkept.atFull⟩
      | ok _ =>
        dsimp only
        split
        · next hslow =>
          refine ⟨.wrote _ _ (.ok ()) htouched hforce hsaid ?_, hsame ⟨rfl, rfl, rfl, rfl, rfl⟩, hkept.atFull⟩
          simp [reported, hslow]
        · next hslow =>
          refine ⟨.wrote _ _ (.ok ()) htouched hforce hsaid ?_, hsame ⟨rfl, rfl, rfl, rfl, rfl⟩, hkept.atFull⟩
          simp [reported, hslow]

/-! ## The whole run -/

theorem Survey.congr {p p' : CalProgress} {hs : List Hold} (h : Survey p hs) (hs' : p'.outcome = p.outcome)
    (hst : p'.stallDutyPct = p.stallDutyPct) (hr : p'.restartDutyPct = p.restartDutyPct)
    (hfull : p'.restartFailedAtFull = p.restartFailedAtFull) : Survey p' hs := by
  cases h with
  | noFan k hit hpct outcome stall restart => exact .noFan k hit hpct (hs'.trans outcome) (hst.trans stall) (hr.trans restart)
  | noStall _ hall hmissed outcome stall restart =>
    exact .noStall _ hall hmissed (hs'.trans outcome) (hst.trans stall) (hr.trans restart)
  | restarted down k up k' hdown hmissed hit hup hmissed' hit' outcome stall restart =>
    exact .restarted down k up k' hdown hmissed hit hup hmissed' hit' (hs'.trans outcome) (hst.trans stall) (hr.trans restart)
  | stuck down k up kick hdown hmissed hit hup hmissed' hkick outcome stall restart atFull =>
    exact .stuck down k up kick hdown hmissed hit hup hmissed' hkick (hs'.trans outcome) (hst.trans stall) (hr.trans restart)
      (hfull ▸ atFull)

theorem Cut.congr {p p' : CalProgress} {hs : List Hold} (h : Cut p hs) (hst : p'.stallDutyPct = p.stallDutyPct)
    (hr : p'.restartDutyPct = p.restartDutyPct) : Cut p' hs := by
  refine ⟨hr.trans h.1, h.2.imp hst.trans fun hstall => ?_⟩
  obtain ⟨down, k, rest, hhs, hdown, hit, hk⟩ := hstall
  exact ⟨down, k, rest, hhs, hdown, hit, hst.trans hk⟩

/-- What the run's end makes of its walk, which left `s`: a survey and no further kick, or a settled early end. -/
inductive Accounted (s t : CalRun) (p : CalProgress) : List Hold → Prop
  | complete (hstate : p.state = some .complete) (hsaid : t.said = s.said) (hslow : t.mem.restoreFullSpeed = false)
      (survey : Survey p (holds s.said).reverse) : Accounted s t p []
  | early (done : List Hold) (hstate : p.state = some .aborted ∨ p.state = some .cancelled)
      (houtcome : p.outcome = some .aborted ∨ p.outcome = some .cancelled) (cut : Cut p (holds s.said).reverse)
      (settled : Settled s t done) : Accounted s t p done

/-- A run: the walk up to `s`, the kick it may owe up to `t`, and the restore. -/
structure Ran (args : CalArgs) (s t u : CalRun) (p : CalProgress) (done : List Hold) : Prop where
  walked : Walked args s
  after : After s t done
  book : Book t
  original : t.mem.p.originalPct = args.original
  accounted : Accounted s t p done
  restored : Restored t u
  outcome : p.restoreOutcome = u.mem.p.restoreOutcome

theorem Walked.of_facts (h : Walked args s) {p : CalProgress} (hp : p.originalPct = s.mem.p.originalPct) :
    Walked args { s with mem := { s.mem with p := p } } :=
  ⟨h.book.of_facts, h.slow, hp.trans h.original, h.split⟩

theorem ended_kept (p : CalProgress) (r : Except Stop Unit) : (p.ended r).originalPct = p.originalPct ∧
    (p.ended r).stallDutyPct = p.stallDutyPct ∧ (p.ended r).restartDutyPct = p.restartDutyPct := by
  rcases r with (_ | _ | _) | _ <;> exact ⟨rfl, rfl, rfl⟩

theorem ended_early (p : CalProgress) (stop : Stop) :
    ((p.ended (.error stop)).state = some .aborted ∨ (p.ended (.error stop)).state = some .cancelled) ∧
    ((p.ended (.error stop)).outcome = some .aborted ∨ (p.ended (.error stop)).outcome = some .cancelled) := by
  cases stop with
  | cancelled => exact ⟨.inr rfl, .inr rfl⟩
  | shuttingDown => exact ⟨.inl rfl, .inl rfl⟩
  | abort => exact ⟨.inl rfl, .inl rfl⟩

theorem wp_runCalibration {fuel : Nat} :
    (runCalibration args fuel).wp (fun r u => ∀ p, r = some p → ∃ s t done, Ran args s t u p done) (fun _ _ => True)
      (start args env) := by
  unfold runCalibration
  refine Act.wp_bind.mpr (Act.wp_attempt.mpr (wp_walk.mono (fun _ s hs => ?_) fun e s hs => ?_))
  · obtain ⟨hwalked, hsurvey⟩ := hs
    simp only [Act.wp_bind, wp_modify]
    have hw := hwalked.of_facts (p := s.mem.p.ended (.ok ())) rfl
    refine wp_restore.mono (fun _ u hu => ?_) fun _ _ _ => trivial
    obtain ⟨hrestored, hsame, hfull⟩ := hu
    rintro p hp
    obtain rfl := Option.some.inj hp
    refine ⟨_, _, [], hw, (Quiet.refl _).after, hw.book, hw.original, ?_, hrestored.of_facts rfl, rfl⟩
    exact .complete hsame.state rfl hwalked.slow (hsurvey.congr hsame.outcome hsame.stall hsame.restart hfull)
  · cases e with
    | unended => exact fun p h => by cases h
    | returned stop =>
      obtain ⟨hwalked, hcut⟩ := hs stop rfl
      obtain ⟨horiginal, hstall, hrestart⟩ := ended_kept s.mem.p (.error stop)
      obtain ⟨hstate, houtcome⟩ := ended_early s.mem.p stop
      have hw := hwalked.of_facts horiginal
      simp only [Act.wp_bind, wp_modify]
      refine (wp_settleKick hw.book).mono (fun r t ht => ?_) fun _ _ _ => trivial
      cases r with
      | none => exact fun p h => by cases h
      | some _ =>
        obtain ⟨done, hafter, hb, hkept, hsettled⟩ := ht rfl
        simp only [Option.isNone_some, Bool.false_eq_true, if_false, Act.wp_bind]
        refine wp_restore.mono (fun _ u hu => ?_) fun _ _ _ => trivial
        obtain ⟨hrestored, hsame, -⟩ := hu
        have hall := hsame.trans hkept
        rintro p hp
        obtain rfl := Option.some.inj hp
        refine ⟨_, t, done, hw, hafter, hb, hkept.original.trans hw.original, ?_, hrestored.of_facts rfl, rfl⟩
        exact .early done (hall.state ▸ hstate) (hall.outcome ▸ houtcome)
          (hcut.congr (hall.stall.trans hstall) (hall.restart.trans hrestart)) hsettled

theorem ran {fuel : Nat} {p : CalProgress} (hrun : (runCalibration args fuel (start args env)).1 = .ok (some p)) :
    ∃ s t done, Ran args s t (runCalibration args fuel (start args env)).2 p done := by
  have h := @wp_runCalibration args env fuel
  unfold Act.wp at h
  rcases hr : runCalibration args fuel (start args env) with ⟨r, u⟩
  rw [hr] at h hrun
  obtain rfl : r = .ok (some p) := hrun
  exact h p rfl

/-! ## What was written -/

theorem holds_written (said : List CalEvent) (p : CalProgress) (d : Nat) (a : Except String Unit) :
    holds (said ++ [⟨publish p, ()⟩, ⟨write d, a⟩]) = ⟨d, a.isOk, none⟩ :: holds said := by
  rw [List.append_cons, holds_snoc, holds_append_quiet]
  · rfl
  · simp [quiet]

theorem sawPump_written (said : List CalEvent) (p : CalProgress) (d : Nat) (a : Except String Unit) :
    (said ++ ([⟨publish p, ()⟩, ⟨write d, a⟩] : List CalEvent)).any sawPump = said.any sawPump := by
  rw [List.any_append]
  exact Bool.or_false _

theorem prefix_hundred {l : List Nat} (h : l <+: [100]) : ∃ n ≤ 1, l = List.replicate n 100 := by
  rcases List.prefix_cons_iff.mp h with rfl | ⟨l', rfl, hl'⟩
  · exact ⟨0, by omega, rfl⟩
  · exact ⟨1, le_rfl, by rw [List.prefix_nil.mp hl']; rfl⟩

/-- The duty a restore may write: full speed, or the original one, raised to the pump floor where the role was seen. -/
def Restoring (args : CalArgs) (said : List CalEvent) (d : Nat) : Prop :=
  d = 100 ∨ d = if said.any sawPump then max (Pwm.exitDuty args.original 0) pumpFloorDuty else Pwm.exitDuty args.original 0

theorem restoreTarget_eq (hb : Book u) (horiginal : u.mem.p.originalPct = args.original)
    (hslow : u.mem.restoreFullSpeed = false) : restoreTarget u.mem =
      if u.said.any sawPump then max (Pwm.exitDuty args.original 0) pumpFloorDuty else Pwm.exitDuty args.original 0 := by
  unfold restoreTarget
  rw [hslow, hb.told, horiginal]
  rfl

theorem Restored.duties (h : Restored t u) (hb : Book t) (horiginal : t.mem.p.originalPct = args.original) :
    ∃ l last, u.said = t.said ++ l ∧ Calibration.duties l = last.toList ∧ ∀ d, last = some d → Restoring args u.said d := by
  cases h with
  | notNeeded _ said => exact ⟨[], none, by simpa using said, rfl, fun d h => by cases h⟩
  | skipped u' h said =>
    obtain ⟨l, hl, hq, -⟩ := h.said
    exact ⟨l, none, said.trans hl, duties_of_unwritten fun e he => isWrite_of_quiet (hq e he), fun d h => by cases h⟩
  | wrote u' p a _ h said =>
    obtain ⟨l, hl, hq, -⟩ := h.said
    refine ⟨l ++ [⟨publish p, ()⟩, ⟨write (restoreTarget u'.mem), a⟩], some (restoreTarget u'.mem), ?_, ?_, ?_⟩
    · rw [said, hl, List.append_assoc]
    · rw [duties_append, duties_of_unwritten fun e he => isWrite_of_quiet (hq e he)]
      rfl
    · rintro d hd
      obtain rfl := Option.some.inj hd
      cases hslow : u'.mem.restoreFullSpeed with
      | true => exact .inl (by simp [restoreTarget, hslow])
      | false =>
        refine .inr ((restoreTarget_eq (hb.quietly h) (h.kept.same.original.trans horiginal) hslow).trans ?_)
        rw [said, sawPump_written]

/-- A channel whose fan stands at 100 %. -/
def standing (said : List CalEvent) : (q : CalQuestion) → CalAnswer q
  | .write _ => .ok ()
  | .shuttingDown | .cancel | .pumpProtected => false
  | .keepalive => true
  | .checkThermalSafety | .thermalForceState | .temperatureRefusal => none
  | .hottestFreshCpu => some (.fin 40)
  | .rpmReading => some (0, said.length)
  | .pollsStarted => 0
  | .pollInterval => 1000000000
  | .now => said.length * 1000000000
  | .sleep _ | .publish _ => ()

def standingArgs : CalArgs := { channel := 3, hold := 60000000000, original := some 40, startCpuC := .fin 39 }

/-- Its run: one hold, and the restore. -/
def standingRun : CalRun := (runCalibration standingArgs 6 (start standingArgs standing)).2

theorem standing_ended : (runCalibration standingArgs 6 (start standingArgs standing)).1 = .ok (some standingRun.mem.p) := by
  decide +kernel

example : duties standingRun.said = [100, 40] ∧ standingRun.mem.p.outcome = some .noFanDetected := by decide +kernel

/-- The walk writes its planned duties in order, each directly after a gate that passed. What follows is at most two
kicks at 100 %, and the duty of the restore. -/
theorem walk_is_gated {fuel : Nat} {p : CalProgress} (hrun : (runCalibration args fuel (start args env)).1 = .ok (some p)) :
    ∃ walked rest kicks last, (runCalibration args fuel (start args env)).2.said = walked ++ rest ∧ Gated args walked ∧
      Planned (duties walked) ∧ duties rest = List.replicate kicks 100 ++ last.toList ∧ kicks ≤ 2 ∧
      ∀ d, last = some d → Restoring args (runCalibration args fuel (start args env)).2.said d := by
  obtain ⟨s, t, done, h⟩ := ran hrun
  obtain ⟨walked, r, hs, hgated, hplanned, hr⟩ := h.walked.split
  obtain ⟨r', ht, hr'⟩ := h.after.duties
  obtain ⟨l, last, hu, hl, hlast⟩ := h.restored.duties h.book h.original
  have hdone : done.map (·.pct) <+: [100] := by
    cases h.accounted with
    | complete => exact List.nil_prefix
    | early _ _ _ _ settled => exact settled.pct
  obtain ⟨n, hn, hr⟩ := prefix_hundred hr
  obtain ⟨n', hn', hdone⟩ := prefix_hundred hdone
  refine ⟨walked, r ++ r' ++ l, n + n', last, ?_, hgated, hplanned, ?_, by omega, hlast⟩
  · rw [hu, ht, hs, List.append_assoc, List.append_assoc, List.append_assoc]
  · rw [duties_append, duties_append, hr, hr', hdone, hl, List.replicate_append_replicate]

theorem walk_is_gated_standing : ∃ walked rest kicks last, standingRun.said = walked ++ rest ∧ Gated standingArgs walked ∧
    Planned (duties walked) ∧ duties rest = List.replicate kicks 100 ++ last.toList ∧ kicks ≤ 2 ∧
    ∀ d, last = some d → Restoring standingArgs standingRun.said d := walk_is_gated standing_ended

/-! ## What was measured -/

theorem Restored.holds (h : Restored t u) : ∃ late, late.length ≤ 1 ∧
    Calibration.holds u.said = late ++ Calibration.holds t.said := by
  cases h with
  | notNeeded _ said => exact ⟨[], Nat.zero_le _, by rw [said]; rfl⟩
  | skipped u' h said => exact ⟨[], Nat.zero_le _, by rw [said, h.holds]; rfl⟩
  | wrote u' p a _ h said =>
    refine ⟨[⟨restoreTarget u'.mem, a.isOk, none⟩], le_rfl, ?_⟩
    rw [said, holds_written, h.holds]
    rfl

/-- A hold after which the original duty may be put back: the last reading of the fan turned, or the hold was at
100 %, or the descent ran to 0 % with no stop confirmed, or nothing was read and no duty was in the fine band. -/
def Safe (p : CalProgress) (h : Hold) (past : List Hold) : Prop :=
  (∃ rpm, h.fresh.getLast? = some rpm ∧ 0 < rpm) ∨ (h.pct = 100 ∧ h.acked = true) ∨
    (p.outcome = some .noStallDownTo0 ∧ h.pct = 0 ∧ verdict h.fresh ≠ .stopped) ∨
    (h.fresh = [] ∧ ∀ k ∈ h :: past, fineBelowPct ≤ k.pct)

theorem Survey.safe {p : CalProgress} {hs : List Hold} (hsurvey : Survey p hs) :
    ∃ h past, hs.reverse = h :: past ∧ Safe p h past := by
  cases hsurvey with
  | noFan k hit hpct => exact ⟨k, [], rfl, .inr (.inl ⟨hpct, hit.1⟩)⟩
  | noStall _ hall hmissed outcome =>
    have hne : hs ≠ [] := by
      rintro rfl
      exact absurd hall (by decide)
    have hzero : (hs.getLast hne).pct = 0 := by
      have hlast : (hs.map (·.pct)).getLast? = some 0 := hall ▸ (by decide : descentDuties.getLast? = some 0)
      rw [List.getLast?_map, List.getLast?_eq_some_getLast hne] at hlast
      exact Option.some.inj hlast
    refine ⟨hs.getLast hne, hs.dropLast.reverse, ?_,
      .inr (.inr (.inl ⟨outcome, hzero, (hmissed _ (List.getLast_mem hne)).2.2⟩))⟩
    conv_lhs => rw [← List.dropLast_append_getLast hne, List.reverse_append]
    rfl
  | restarted down k up k' _ _ _ _ _ hit' =>
    exact ⟨k', (down ++ [k] ++ up).reverse, by simp, .inl (verdict_spinning hit'.2.2)⟩
  | stuck down k up kick _ _ _ _ _ hkick =>
    exact ⟨kick, (down ++ [k] ++ up).reverse, by simp, .inr (.inl ⟨hkick.1, hkick.2.1⟩)⟩

theorem Book.spared {p : CalProgress} (hb : Book s) {h : Hold} {past : List Hold} (hholds : holds s.said = h :: past)
    (howed : kickOwed s.mem = false) : Safe p h past := by
  have htouched : s.mem.touched = true := by rw [hb.touched, hholds]; rfl
  have htells := hb.last h past hholds
  unfold kickOwed at howed
  rw [htouched, Bool.true_and] at howed
  split at howed
  · next hlast => exact .inl (htells.turned hlast)
  · cases howed
  · next hlast =>
    refine .inr (.inr (.inr ⟨htells.unheard hlast, fun k hk => ?_⟩))
    obtain ⟨l, hl, hle⟩ := hb.lowest k (hholds ▸ hk)
    rw [hl] at howed
    have hfine : ¬ l < fineBelowPct := by
      simp only [Option.any_some, Bool.or_eq_false_iff, decide_eq_false_iff_not] at howed
      exact howed.1
    omega

theorem reported_restored {w : Walk} {a : Except String Unit} (h : reported w a = .restored) :
    a = .ok () ∧ w.restoreFullSpeed = false := by
  cases a with
  | error e => cases h
  | ok _ =>
    cases hslow : w.restoreFullSpeed with
    | true => simp [reported, hslow] at h
    | false => exact ⟨rfl, rfl⟩

/-- A run that is about to write less than full speed has last held a safe duty, or was told of a thermal force. -/
theorem Ran.safe {p : CalProgress} {done : List Hold} (hr : Ran args s t u p done) (htouched : t.mem.touched = true)
    (hslow : t.mem.restoreFullSpeed = false) : ∃ h past, holds t.said = h :: past ∧
      (Safe p h past ∨ ∃ state, ⟨thermalForceState, some state⟩ ∈ t.said) := by
  cases hr.accounted with
  | complete _ hsaid _ survey =>
    obtain ⟨h, past, hholds, hsafe⟩ := survey.safe
    rw [List.reverse_reverse] at hholds
    exact ⟨h, past, by rw [hsaid, hholds], .inl hsafe⟩
  | early _ _ _ _ settled =>
    have hne : holds t.said ≠ [] := fun hnil => by
      have := hr.book.touched
      rw [htouched, hnil] at this
      cases this
    obtain ⟨h, past, hholds⟩ := List.exists_cons_of_ne_nil hne
    refine ⟨h, past, hholds, ?_⟩
    cases settled with
    | spared howed => exact .inl (hr.walked.book.spared (hr.after.holds.symm.trans hholds) howed)
    | forced hforced => exact .inr hforced
    | kicked k hk =>
      obtain ⟨rfl, -⟩ := List.cons.inj (hr.after.holds.symm.trans hholds)
      exact .inl (.inr (.inl ⟨hk.1, hk.2.1⟩))
    | atFull _ _ hfull => cases hslow.symm.trans hfull

end ControlOfc.Diagnostics.Calibration
