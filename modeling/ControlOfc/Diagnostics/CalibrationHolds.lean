import ControlOfc.Diagnostics.Calibration
import Mathlib.Tactic.Common
/-! # What one step of a calibration measures

The transcript alone tells which duties were written and what each hold heard: the RPM of every poll that was
numbered after the write, once. `Stepped` lists the ways a step can end, of the transcript and of what the walk keeps
for its kick.
-/
namespace ControlOfc.Diagnostics.Calibration
open Asking CalQuestion

/-! ## The transcript -/

/-- A duty that was written, and what was heard of it once its write had returned. -/
structure Hold where
  pct : Nat
  acked : Bool
  heard : Option Held
  deriving DecidableEq, Repr

def Hold.fresh (h : Hold) : List Nat := (h.heard.map (·.fresh)).getD []

def hear : List Hold → CalEvent → List Hold
  | hs, ⟨.write pct, a⟩ => ⟨pct, a.isOk, none⟩ :: hs
  | h :: hs, ⟨.pollsStarted, n⟩ => { h with heard := some ⟨[], n⟩ } :: hs
  | h :: hs, ⟨.rpmReading, r⟩ => { h with heard := h.heard.map (·.sample r) } :: hs
  | hs, _ => hs

/-- The duties that were written, the latest first. -/
def holds (said : List CalEvent) : List Hold := said.foldl hear []

def sawPump : CalEvent → Bool
  | ⟨.pumpProtected, b⟩ => b
  | _ => false

/-- Neither writes a duty nor measures one. -/
def quiet : CalEvent → Bool
  | ⟨.write _, _⟩ | ⟨.pollsStarted, _⟩ | ⟨.rpmReading, _⟩ => false
  | _ => true

theorem hear_of_quiet {hs : List Hold} {e : CalEvent} (h : quiet e = true) : hear hs e = hs := by
  obtain ⟨q, a⟩ := e
  cases q <;> first | (cases h; done) | (cases hs <;> rfl)

theorem holds_snoc (said : List CalEvent) (e : CalEvent) : holds (said ++ [e]) = hear (holds said) e := by
  rw [holds, List.foldl_append]
  rfl

theorem holds_append_quiet {said l : List CalEvent} (h : ∀ e ∈ l, quiet e = true) : holds (said ++ l) = holds said := by
  induction l using List.reverseRecOn with
  | nil => rw [List.append_nil]
  | append_singleton l e ih =>
    rw [← List.append_assoc, holds_snoc, hear_of_quiet (h e (by simp)), ih fun e he => h e (List.mem_append_left _ he)]

/-! ## Steps that measure nothing -/

/-- What the walk keeps for its kick and its findings. -/
def Walk.core (w : Walk) : Walk :=
  { w with pumpSeen := false, target := 0, armed := false
           p := { w.p with phase := none, currentPct := none, maxCpuTempC := none, points := [] } }

/-- Between `s` and `t` only such events were said as `ok` allows, and the pump watch has learnt what was answered. -/
structure Since (ok : CalEvent → Bool) (s t : CalRun) : Prop where
  said : ∃ l, t.said = s.said ++ l ∧ (∀ e ∈ l, ok e = true) ∧ t.mem.pumpSeen = (s.mem.pumpSeen || l.any sawPump)
  core : t.mem.core = s.mem.core

/-- No duty was written or measured. -/
abbrev Quiet := Since quiet

def isWrite : CalEvent → Bool
  | ⟨.write _, _⟩ => true
  | _ => false

theorem not_isWrite_of_quiet {e : CalEvent} (h : quiet e = true) : (!isWrite e) = true := by
  obtain ⟨q, a⟩ := e
  cases q <;> first | rfl | cases h

namespace Since

variable {ok : CalEvent → Bool} {s t u : CalRun}

theorem refl (s : CalRun) : Since ok s s := ⟨⟨[], by simp, by simp, by simp⟩, rfl⟩

theorem trans (h : Since ok s t) (h' : Since ok t u) : Since ok s u := by
  obtain ⟨l, hl, hq, hp⟩ := h.said
  obtain ⟨l', hl', hq', hp'⟩ := h'.said
  refine ⟨⟨l ++ l', by rw [hl', hl, List.append_assoc], fun e he => ?_, ?_⟩, h'.core.trans h.core⟩
  · exact (List.mem_append.mp he).elim (hq e) (hq' e)
  · rw [hp', hp, List.any_append, Bool.or_assoc]

theorem note (h : Since ok s t) {q : CalQuestion} {a : CalAnswer q} (hq : ok ⟨q, a⟩ = true) (hp : sawPump ⟨q, a⟩ = false) :
    Since ok s (t.note q a) :=
  h.trans ⟨⟨[⟨q, a⟩], rfl, by simpa using hq, by simp [hp]⟩, rfl⟩

theorem noted (h : Since ok s t) {m : Walk} (hcore : m.core = t.mem.core) (hp : m.pumpSeen = t.mem.pumpSeen) :
    Since ok s { t with mem := m } :=
  h.trans ⟨⟨[], by simp, by simp, by simp [hp]⟩, hcore⟩

theorem unwritten (h : Quiet s t) : Since (fun e => !isWrite e) s t := by
  obtain ⟨l, hl, hq, hp⟩ := h.said
  exact ⟨⟨l, hl, fun e he => not_isWrite_of_quiet (hq e he), hp⟩, h.core⟩

theorem holds (h : Quiet s t) : Calibration.holds t.said = Calibration.holds s.said := by
  obtain ⟨l, hl, hq, -⟩ := h.said
  rw [hl, holds_append_quiet hq]

end Since

theorem Quiet.refl (s : CalRun) : Quiet s s := Since.refl s

/-! ## The gate -/

variable {args : CalArgs} {s t : CalRun} {ε : Type} {E : ε → CalRun → Prop}

/-- What the gate asks of the pump union: nothing once the daemon is shutting down. -/
def PumpAsked (l : List CalEvent) : Prop := l = [⟨.shuttingDown, true⟩] ∨ l = [⟨.shuttingDown, false⟩, ⟨.pumpProtected, false⟩]

/-- An evaluation of the gate that passes. -/
def Passing (args : CalArgs) (l : List CalEvent) : Prop :=
  ∃ pump nowC, PumpAsked pump ∧ ¬ args.startCpuC + riseLimitC < nowC ∧
    l = [⟨.shuttingDown, false⟩, ⟨.cancel, false⟩] ++ pump ++ [⟨.checkThermalSafety, none⟩, ⟨.thermalForceState, none⟩,
      ⟨.temperatureRefusal, none⟩, ⟨.hottestFreshCpu, some nowC⟩, ⟨.keepalive, true⟩]

theorem wp_floorBackstop {T : Bool → CalRun → Prop} (hT : ∀ u, Quiet t u → u.said = t.said → u.mem.pumpSeen = t.mem.pumpSeen →
    T t.mem.pumpSeen u) : (floorBackstop (ε := ε)).wp T E t := by
  unfold floorBackstop
  simp only [Act.wp_bind, wp_modify, wp_get, Act.wp_pure]
  split
  · refine hT _ ((Quiet.refl t).noted ?_ ?_) ?_ ?_ <;> rfl
  · exact hT _ (.refl t) rfl rfl

theorem wp_refreshPumpSeen {T : Bool → CalRun → Prop} (hT : ∀ t, Quiet s t →
    (t.mem.pumpSeen = false → ∃ l, t.said = s.said ++ l ∧ PumpAsked l) → T t.mem.pumpSeen t) :
    (refreshPumpSeen (ε := ε)).wp T E s := by
  have hfloor : ∀ t, Quiet s t → (t.mem.pumpSeen = false → ∃ l, t.said = s.said ++ l ∧ PumpAsked l) →
      (floorBackstop (ε := ε)).wp T E t := fun t h hasked =>
    wp_floorBackstop fun u hu hsaid hp => hp ▸ hT u (h.trans hu) fun hu' => by
      rw [hsaid]
      exact hasked (hp ▸ hu')
  unfold refreshPumpSeen
  simp only [Act.wp_bind, wp_get]
  cases hseen : s.mem.pumpSeen with
  | true => exact hfloor s (.refl s) fun h => absurd (hseen.symm.trans h) Bool.noConfusion
  | false =>
    simp only [Bool.not_false, if_true]
    refine wp_askBind fun down => ?_
    cases down with
    | true => exact hfloor _ ((Quiet.refl s).note rfl rfl) fun _ => ⟨_, rfl, .inl rfl⟩
    | false =>
      simp only [Bool.not_false, if_true]
      refine wp_askBind fun pump => ?_
      have hdown : Quiet s (s.note shuttingDown false) := (Quiet.refl s).note rfl rfl
      cases pump with
      | true =>
        refine hfloor _ ?_ fun h => by cases h
        refine hdown.trans ⟨⟨[⟨pumpProtected, true⟩], rfl, by simp [quiet], ?_⟩, rfl⟩
        simp [sawPump]
      | false => exact hfloor _ (hdown.note rfl rfl) fun _ => ⟨[_, _], List.append_assoc .., .inr rfl⟩

theorem wp_gate {T : Except Stop Unit → CalRun → Prop}
    (hpass : ∀ t, Quiet s t → (∃ l, t.said = s.said ++ l ∧ Passing args l) → T (.ok ()) t)
    (hstop : ∀ stop t, Quiet s t → T (.error stop) t) : (gate (ε := ε) args).wp T E s := by
  unfold gate
  refine wp_askBind fun down => ?_
  have h := (Quiet.refl s).note (q := shuttingDown) (a := down) rfl rfl
  cases down with
  | true => exact hstop _ _ h
  | false =>
    refine wp_askBind fun cancelled => ?_
    replace h := h.note (q := cancel) (a := cancelled) rfl rfl
    cases cancelled with
    | true => exact hstop _ _ h
    | false =>
      refine Act.wp_bind.mpr (wp_refreshPumpSeen fun t ht hasked => ?_)
      replace h := h.trans ht
      cases hp : t.mem.pumpSeen with
      | true => exact hstop _ _ h
      | false =>
        obtain ⟨pump, hsaid, hpump⟩ := hasked hp
        refine wp_askBind fun hot => ?_
        replace h := h.note (q := checkThermalSafety) (a := hot) rfl rfl
        cases hot with
        | some e => exact hstop _ _ h
        | none =>
          refine wp_askBind fun force => ?_
          replace h := h.note (q := thermalForceState) (a := force) rfl rfl
          cases force with
          | some state => exact hstop _ _ h
          | none =>
            refine wp_askBind fun stale => ?_
            replace h := h.note (q := temperatureRefusal) (a := stale) rfl rfl
            cases stale with
            | some reason => exact hstop _ _ h
            | none =>
              refine wp_askBind fun cpu => ?_
              replace h := h.note (q := hottestFreshCpu) (a := cpu) rfl rfl
              cases cpu with
              | none => exact hstop _ _ h
              | some nowC =>
                simp only [Act.wp_bind, wp_modify]
                split
                · exact hstop _ _ (h.noted rfl rfl)
                · next hrise =>
                  refine wp_askBind fun alive => ?_
                  cases alive with
                  | false => refine hstop _ _ (Since.note (q := keepalive) (a := false) (h.noted ?_ ?_) rfl rfl) <;> rfl
                  | true =>
                    refine hpass _ (Since.note (q := keepalive) (a := true) (h.noted ?_ ?_) rfl rfl)
                      ⟨_, ?_, pump, nowC, hpump, hrise, rfl⟩
                    · rfl
                    · rfl
                    · simp [note, hsaid]

/-! ## One step -/

/-- The watch has learnt what was answered. -/
def Told (s t : CalRun) : Prop := ∃ l, t.said = s.said ++ l ∧ t.mem.pumpSeen = (s.mem.pumpSeen || l.any sawPump)

theorem Told.trans {u : CalRun} (h : Told s t) (h' : Told t u) : Told s u := by
  obtain ⟨l, hl, hp⟩ := h
  obtain ⟨l', hl', hp'⟩ := h'
  exact ⟨l ++ l', by rw [hl', hl, List.append_assoc], by rw [hp', hp, List.any_append, Bool.or_assoc]⟩

theorem Since.told {ok : CalEvent → Bool} (h : Since ok s t) : Told s t := by
  obtain ⟨l, hl, -, hp⟩ := h.said
  exact ⟨l, hl, hp⟩

/-- The walk after a write, as far as the kick will ask for it. -/
def Walk.wrote (w : Walk) (pct : Nat) (v : Option Verdict) : Walk :=
  { w with touched := true, lowest := some (w.lowest.elim pct (min · pct)), lastVerdict := v }

/-- A duty was written between `s` and `t`, where the walk is gated directly after a gate that passed. -/
structure Wrote (args : CalArgs) (s t : CalRun) (pct : Nat) (gated : Bool) : Prop where
  told : Told s t
  said : ∃ l p a post, t.said = s.said ++ l ++ ⟨publish p, ()⟩ :: ⟨write pct, a⟩ :: post ∧ (∀ e ∈ l, quiet e = true) ∧
    (gated = true → Passing args l) ∧ ∀ e ∈ post, isWrite e = false
  core : t.mem.core = s.mem.core.wrote pct t.mem.lastVerdict

/-- What an interrupted hold is taken for. -/
def turning (rpm : Nat) : Verdict := if 0 < rpm then .spinning else .stopped

/-- How a step ends. -/
inductive Stepped (args : CalArgs) (s t : CalRun) (pct : Nat) (gated : Bool) : Except Stop Verdict → Prop
  | refused (stop : Stop) (h : Quiet s t) : Stepped args s t pct gated (.error stop)
  | failed (stop : Stop) (wrote : Wrote args s t pct gated) (hholds : holds t.said = ⟨pct, false, none⟩ :: holds s.said)
      (last : t.mem.lastVerdict = none) : Stepped args s t pct gated (.error stop)
  | interrupted (stop : Stop) (h : Held) (wrote : Wrote args s t pct gated)
      (hholds : holds t.said = ⟨pct, true, some h⟩ :: holds s.said)
      (last : t.mem.lastVerdict = h.fresh.getLast?.map turning) : Stepped args s t pct gated (.error stop)
  | held (h : Held) (wrote : Wrote args s t pct gated) (hholds : holds t.said = ⟨pct, true, some h⟩ :: holds s.said)
      (hne : h.fresh ≠ []) (last : t.mem.lastVerdict = some (verdict h.fresh)) :
      Stepped args s t pct gated (.ok (verdict h.fresh))

/-- During a hold, since its write. -/
structure Holding (u t : CalRun) (pct : Nat) (past : List Hold) (h : Held) : Prop where
  since : Since (fun e => !isWrite e) u t
  holds : holds t.said = ⟨pct, true, some h⟩ :: past

section Hold

variable {u : CalRun} {pct : Nat} {past : List Hold} {h : Held}

theorem Holding.quietly (hold : Holding u s pct past h) (hq : Quiet s t) : Holding u t pct past h :=
  ⟨hold.since.trans hq.unwritten, hq.holds.trans hold.holds⟩

theorem Holding.sampled (hold : Holding u s pct past h) (r : Option (Nat × Nat)) :
    Holding u (s.note rpmReading r) pct past (h.sample r) := by
  refine ⟨hold.since.note rfl rfl, ?_⟩
  rw [note_said, holds_snoc, hold.holds]
  rfl

theorem wp_checked {T : Except Stop Unit → CalRun → Prop} {gated : Bool} (hT : ∀ r t, Quiet s t → T r t) :
    (checked (ε := ε) args gated).wp T E s := by
  unfold checked
  cases gated with
  | true => exact wp_gate (fun t h _ => hT _ _ h) fun _ t h => hT _ _ h
  | false =>
    simp only [Bool.false_eq_true, if_false]
    refine wp_askBind fun down => ?_
    have h := (Quiet.refl s).note (q := shuttingDown) (a := down) rfl rfl
    cases down with
    | true => exact hT _ _ h
    | false => exact wp_askBind fun alive => hT _ _ (h.note rfl rfl)

theorem wp_holdPass {gated untilSpinning : Bool} {deadline : Nat} {E : Left Stop → CalRun → Prop}
    (hold : Holding u s pct past h) :
    (holdPass args gated untilSpinning deadline h).wp
      (Sum.elim (fun h t => Holding u t pct past h) fun r t => Holding u t pct past r.1) E s := by
  unfold holdPass
  refine wp_askBind fun t => ?_
  replace hold := hold.quietly ((Quiet.refl s).note (q := now) (a := t) rfl rfl)
  split
  · exact hold
  · refine wp_askBind fun u' => ?_
    replace hold := hold.quietly ((Quiet.refl _).note (q := sleep _) (a := u') rfl rfl)
    refine Act.wp_bind.mpr (wp_checked fun r v hv => ?_)
    replace hold := hold.quietly hv
    cases r with
    | error stop => exact hold
    | ok _ =>
      refine wp_askBind fun r => ?_
      replace hold := hold.sampled r
      dsimp only
      split <;> exact hold

/-- A hold that ended with the verdict `v`, since its write. -/
structure Concluded (u t : CalRun) (pct : Nat) (past : List Hold) (h : Held) (v : Option Verdict) : Prop where
  since : Since (fun e => !isWrite e) { u with mem := { u.mem with lastVerdict := v } } t
  holds : holds t.said = ⟨pct, true, some h⟩ :: past

theorem Concluded.verdict {v : Option Verdict} (hc : Concluded u t pct past h v) : t.mem.lastVerdict = v :=
  congrArg Walk.lastVerdict hc.since.core

theorem Holding.concluded (hold : Holding u s pct past h) (v : Option Verdict) :
    Concluded u { s with mem := { s.mem with lastVerdict := v } } pct past h v :=
  ⟨⟨hold.since.said, congrArg (fun w : Walk => { w with lastVerdict := v }) hold.since.core⟩, hold.holds⟩

theorem Concluded.quietly {v : Option Verdict} (hc : Concluded u s pct past h v) (hq : Quiet s t) :
    Concluded u t pct past h v := ⟨hc.since.trans hq.unwritten, hq.holds.trans hc.holds⟩

theorem wp_push {T : Unit → CalRun → Prop} (point : CalPoint) (hT : ∀ t, Quiet s t → T () t) :
    (push (ε := ε) point).wp T E s := by
  unfold push
  simp only [Act.wp_bind, wp_modify, wp_get]
  refine wp_ask fun _ => hT _ (Since.note (Since.noted (Quiet.refl s) ?_ ?_) rfl rfl) <;> rfl

/-- A hold ends with its verdict; what interrupted it leaves by its last sample. -/
theorem wp_concludeHold {phase : CalPhase} {hold : Nat} {stopped : Option Stop} (hh : Holding u s pct past h) :
    (concludeHold args pct phase hold h stopped).wp
      (fun v t => v = verdict h.fresh ∧ h.fresh ≠ [] ∧ Concluded u t pct past h (some (verdict h.fresh)))
      (fun e t => ∃ stop, e = .returned stop ∧ Concluded u t pct past h (h.fresh.getLast?.map turning)) s := by
  unfold concludeHold
  cases stopped with
  | some stop =>
    cases hlast : h.fresh.getLast? with
    | none => exact ⟨stop, rfl, hh.concluded _⟩
    | some rpm =>
      refine Act.wp_bind.mpr (wp_push _ fun t hq => ?_)
      exact ⟨stop, rfl, (hh.quietly hq).concluded _⟩
  | none =>
    cases hlast : h.fresh.getLast? with
    | none => exact ⟨_, rfl, hh.concluded _⟩
    | some rpm =>
      dsimp only
      simp only [Act.wp_bind, wp_modify]
      refine wp_push _ fun t hq => ⟨rfl, fun hnil => ?_, (hh.concluded _).quietly hq⟩
      rw [hnil] at hlast
      cases hlast

end Hold

theorem wp_entryCheck {T : Except Stop Unit → CalRun → Prop} {gated : Bool}
    (hpass : ∀ t, Quiet s t → (∃ l, t.said = s.said ++ l ∧ (∀ e ∈ l, quiet e = true) ∧ (gated = true → Passing args l)) →
      T (.ok ()) t) (hstop : ∀ stop t, Quiet s t → T (.error stop) t) : (entryCheck (ε := ε) args gated).wp T E s := by
  unfold entryCheck
  cases gated with
  | true =>
    refine wp_gate (fun t h hp => hpass t h ?_) hstop
    obtain ⟨l, hl, hp⟩ := hp
    obtain ⟨l', hl', hq, -⟩ := h.said
    obtain rfl := List.append_cancel_left (hl.symm.trans hl')
    exact ⟨l, hl, hq, fun _ => hp⟩
  | false =>
    simp only [Bool.false_eq_true, if_false]
    refine wp_askBind fun down => ?_
    have h := (Quiet.refl s).note (q := shuttingDown) (a := down) rfl rfl
    cases down with
    | true => exact hstop _ _ h
    | false =>
      refine hpass _ h ⟨[⟨shuttingDown, false⟩], rfl, ?_, fun h => by cases h⟩
      intro e he
      rw [List.mem_singleton.mp he]
      rfl

theorem wp_setPhase {T : Unit → CalRun → Prop} (phase : CalPhase) (pct : Option Nat)
    (hT : ∀ t p, Quiet s t → t.said = s.said ++ [⟨publish p, ()⟩] → T () t) : (setPhase (ε := ε) phase pct).wp T E s := by
  unfold setPhase
  simp only [Act.wp_bind, wp_modify, wp_get]
  refine wp_ask fun _ => hT _ _ (Since.note (Since.noted (Quiet.refl s) ?_ ?_) rfl rfl) rfl <;> rfl

/-- The hold of a duty hears the polls numbered from here on. -/
theorem wp_holdDuty {fuel pct hold : Nat} {phase : CalPhase} {gated untilSpinning : Bool} {past : List Hold}
    (hwritten : holds s.said = ⟨pct, true, none⟩ :: past) :
    (holdDuty args fuel pct phase hold gated untilSpinning).wp
      (fun v t => ∃ h, v = verdict h.fresh ∧ h.fresh ≠ [] ∧ Concluded s t pct past h (some (verdict h.fresh)))
      (fun e t => ∀ stop, e = .returned stop → ∃ h, Concluded s t pct past h (h.fresh.getLast?.map turning)) s := by
  unfold holdDuty
  refine wp_askBind fun n => wp_askBind fun t => ?_
  have hold₀ : Holding s ((s.note pollsStarted n).note now t) pct past ⟨[], n⟩ := by
    refine Holding.quietly ⟨(Since.refl s).note rfl rfl, ?_⟩ ((Quiet.refl _).note rfl rfl)
    rw [note_said, holds_snoc, hwritten]
    rfl
  refine Act.wp_bind.mpr ((Act.Triple.iterate (I := fun h t => Holding s t pct past h)
    (Q := fun r t => Holding s t pct past r.1) (E := fun e _ => e = .unended) (fun h t ht => wp_holdPass ht)
    (fun _ _ _ => rfl) fuel _).wp hold₀ (fun r t ht => ?_) fun e t he stop hstop => ?_)
  · refine (wp_concludeHold ht).mono (fun v t h => ⟨_, h⟩) fun e t h stop hstop => ?_
    obtain ⟨_, -, hc⟩ := h
    exact ⟨_, hc⟩
  · rw [he] at hstop
    cases hstop

/-- Whatever is said behind a write but another write. -/
theorem Wrote.of_since {gated : Bool} {pct : Nat} {u : CalRun} {l : List CalEvent} {p : CalProgress} {a : Except String Unit}
    {m : Walk} {v : Option Verdict} (hq : Quiet s u) (hsaid : u.said = s.said ++ l ++ [⟨publish p, ()⟩])
    (hquiet : ∀ e ∈ l, quiet e = true) (hpassing : gated = true → Passing args l)
    (h : Since (fun e => !isWrite e) { u.note (write pct) a with mem := m } t) (hcore : m.core = u.mem.core.wrote pct v)
    (hpump : m.pumpSeen = u.mem.pumpSeen) : Wrote args s t pct gated where
  told := by
    refine hq.told.trans (Told.trans ⟨[⟨write pct, a⟩], rfl, ?_⟩ h.told)
    simp [hpump, sawPump]
  said := by
    obtain ⟨post, hpost, hnone, -⟩ := h.said
    refine ⟨l, p, a, post, ?_, hquiet, hpassing, fun e he => by simpa using hnone e he⟩
    rw [hpost, note_said, hsaid]
    simp
  core := by
    have hverdict : t.mem.lastVerdict = v := congrArg Walk.lastVerdict (h.core.trans hcore)
    rw [h.core, hcore, hverdict, hq.core]

/-- A step ends in one of these ways, whatever it is answered. -/
theorem wp_step {fuel pct hold : Nat} {phase : CalPhase} {gated untilSpinning : Bool} :
    (step args fuel pct phase hold gated untilSpinning).wp (fun v t => Stepped args s t pct gated (.ok v))
      (fun e t => ∀ stop, e = .returned stop → Stepped args s t pct gated (.error stop)) s := by
  unfold step
  refine Act.wp_bind.mpr (wp_entryCheck (fun u hq hadmit => ?_) fun stop t hq => ?_)
  · obtain ⟨l, hl, hquiet, hpassing⟩ := hadmit
    refine Act.wp_bind.mpr (wp_setPhase _ _ fun u p hq' hsaid => ?_)
    replace hq := hq.trans hq'
    rw [hl] at hsaid
    unfold writeDuty
    simp only [Act.wp_bind, wp_modify]
    refine wp_ask fun a => ?_
    have hpast : holds (u.said ++ [⟨write pct, a⟩]) = ⟨pct, a.isOk, none⟩ :: holds s.said := by
      rw [holds_snoc, hq.holds]
      rfl
    cases a with
    | error e =>
      rintro _ ⟨⟩
      exact .failed _ (.of_since hq hsaid hquiet hpassing (Since.refl _) rfl rfl) hpast rfl
    | ok _ =>
      refine (wp_holdDuty hpast).mono (fun v t hheld => ?_) fun e t hend stop hstop => ?_
      · obtain ⟨h, rfl, hne, hc⟩ := hheld
        exact .held h (.of_since hq hsaid hquiet hpassing hc.since rfl rfl) hc.holds hne hc.verdict
      · obtain ⟨h, hc⟩ := hend stop hstop
        exact .interrupted stop h (.of_since hq hsaid hquiet hpassing hc.since rfl rfl) hc.holds hc.verdict
  · rintro _ ⟨⟩
    exact .refused stop hq

end ControlOfc.Diagnostics.Calibration
