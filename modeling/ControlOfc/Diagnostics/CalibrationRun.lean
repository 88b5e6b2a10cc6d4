import ControlOfc.Diagnostics.CalibrationHolds
/-! # The walk of a calibration

The walk writes its planned duties in order, each directly after a gate that passed (`Walked`), and a walk that ran to
its end has found what its holds heard (`Survey`). Its own record for the kick agrees with the transcript (`Book`).
-/
namespace ControlOfc.Diagnostics.Calibration
open Asking CalQuestion

/-! ## Duties and gates on the transcript -/

def written : CalEvent → Option Nat
  | ⟨.write pct, _⟩ => some pct
  | _ => none

/-- The duties that were written, in order. -/
def duties (said : List CalEvent) : List Nat := said.filterMap written

theorem duties_append (l l' : List CalEvent) : duties (l ++ l') = duties l ++ duties l' := List.filterMap_append

theorem written_of_not_isWrite {e : CalEvent} (h : isWrite e = false) : written e = none := by
  obtain ⟨q, a⟩ := e
  cases q <;> first | rfl | cases h

theorem duties_of_unwritten {l : List CalEvent} (h : ∀ e ∈ l, isWrite e = false) : duties l = [] :=
  List.filterMap_eq_nil_iff.mpr fun e he => written_of_not_isWrite (h e he)

theorem isWrite_of_quiet {e : CalEvent} (h : quiet e = true) : isWrite e = false := by
  simpa using not_isWrite_of_quiet h

theorem map_pct_hear (hs : List Hold) (e : CalEvent) : (hear hs e).map (·.pct) = (written e).toList ++ hs.map (·.pct) := by
  obtain ⟨q, a⟩ := e
  cases q <;> cases hs <;> rfl

/-- The holds are the duties, the latest first. -/
theorem map_pct_holds (said : List CalEvent) : ((holds said).map (·.pct)).reverse = duties said := by
  induction said using List.reverseRecOn with
  | nil => rfl
  | append_singleton l e ih =>
    rw [holds_snoc, map_pct_hear, List.reverse_append, ih, duties_append]
    cases h : written e <;> simp [duties, h]

/-- Every duty was written directly after a gate that passed and its announcement. -/
def Gated (args : CalArgs) (said : List CalEvent) : Prop :=
  ∀ pre pct a post, said = pre ++ ⟨write pct, a⟩ :: post → ∃ before l p, pre = before ++ l ++ [⟨publish p, ()⟩] ∧ Passing args l

namespace Gated

variable {args : CalArgs} {l : List CalEvent}

theorem nil : Gated args [] := fun pre _ _ _ h => by cases pre <;> cases h

theorem snoc {e : CalEvent} (h : Gated args l) (he : ∀ pct a, e = ⟨write pct, a⟩ →
    ∃ before g p, l = before ++ g ++ [⟨publish p, ()⟩] ∧ Passing args g) : Gated args (l ++ [e]) := by
  intro pre pct a post hsplit
  rcases List.eq_nil_or_concat post with rfl | ⟨post, e', rfl⟩
  · obtain ⟨rfl, hlast⟩ := List.append_inj' hsplit rfl
    exact he pct a (List.singleton_inj.mp hlast)
  · rw [List.concat_eq_append, ← List.cons_append, ← List.append_assoc] at hsplit
    obtain ⟨rfl, -⟩ := List.append_inj' hsplit rfl
    exact h pre pct a post rfl

theorem append {l' : List CalEvent} (h : Gated args l) (hl' : ∀ e ∈ l', isWrite e = false) : Gated args (l ++ l') := by
  induction l' using List.reverseRecOn with
  | nil => rwa [List.append_nil]
  | append_singleton l' e ih =>
    rw [← List.append_assoc]
    refine (ih fun e he => hl' e (List.mem_append_left _ he)).snoc fun pct a heq => ?_
    have := hl' e (by simp)
    rw [heq] at this
    cases this

variable {s t : CalRun}

theorem quietly (h : Gated args s.said) (hq : Quiet s t) : Gated args t.said := by
  obtain ⟨l, hl, hquiet, -⟩ := hq.said
  rw [hl]
  exact h.append fun e he => isWrite_of_quiet (hquiet e he)

theorem wrote {pct : Nat} (h : Gated args s.said) (hw : Wrote args s t pct true) : Gated args t.said := by
  obtain ⟨l, p, a, post, hsaid, hquiet, hpassing, hpost⟩ := hw.said
  have hannounced : Gated args (s.said ++ l ++ [⟨publish p, ()⟩]) :=
    (h.append fun e he => isWrite_of_quiet (hquiet e he)).append fun e he => by rw [List.mem_singleton.mp he]; rfl
  have hwrite := hannounced.snoc (e := ⟨write pct, a⟩) fun _ _ _ => ⟨s.said, l, p, rfl, hpassing rfl⟩
  rw [hsaid]
  have := hwrite.append hpost
  simpa using this

end Gated

theorem Wrote.duties {args : CalArgs} {s t : CalRun} {pct : Nat} {gated : Bool} (hw : Wrote args s t pct gated) :
    ∃ rest, t.said = s.said ++ rest ∧ Calibration.duties rest = [pct] := by
  obtain ⟨l, p, a, post, hsaid, hquiet, -, hpost⟩ := hw.said
  refine ⟨l ++ ⟨publish p, ()⟩ :: ⟨write pct, a⟩ :: post, by rw [hsaid, List.append_assoc], ?_⟩
  rw [duties_append, duties_of_unwritten fun e he => isWrite_of_quiet (hquiet e he)]
  have : Calibration.duties (⟨publish p, ()⟩ :: ⟨write pct, a⟩ :: post) = pct :: Calibration.duties post := rfl
  rw [List.nil_append, this, duties_of_unwritten hpost]

/-! ## What the walk keeps for the kick -/

/-- What the last verdict tells of the last hold. -/
structure Tells (v : Option Verdict) (h : Hold) : Prop where
  turned : v = some .spinning → ∃ rpm, h.fresh.getLast? = some rpm ∧ 0 < rpm
  unheard : v = none → h.fresh = []

/-- The walk's own record agrees with the transcript. -/
structure Book (s : CalRun) : Prop where
  touched : s.mem.touched = !(holds s.said).isEmpty
  lowest : ∀ h ∈ holds s.said, ∃ l, s.mem.lowest = some l ∧ l ≤ h.pct
  last : ∀ h rest, holds s.said = h :: rest → Tells s.mem.lastVerdict h
  told : s.mem.pumpSeen = s.said.any sawPump

namespace Book

variable {args : CalArgs} {s t : CalRun} {pct : Nat} {gated : Bool}

theorem told_of (h : Book s) (ht : Told s t) : t.mem.pumpSeen = t.said.any sawPump := by
  obtain ⟨l, hl, hp⟩ := ht
  rw [hp, hl, List.any_append, h.told]

theorem quietly (h : Book s) (hq : Quiet s t) : Book t := by
  have htouched : t.mem.core.touched = s.mem.core.touched := congrArg Walk.touched hq.core
  have hlowest : t.mem.core.lowest = s.mem.core.lowest := congrArg Walk.lowest hq.core
  have hlast : t.mem.core.lastVerdict = s.mem.core.lastVerdict := congrArg Walk.lastVerdict hq.core
  refine ⟨?_, ?_, ?_, h.told_of hq.told⟩
  · rw [hq.holds, ← h.touched]
    exact htouched
  · rw [hq.holds]
    exact fun k hk => (h.lowest k hk).imp fun l hl => ⟨hlowest.trans hl.1, hl.2⟩
  · rw [hq.holds]
    exact fun k rest hk => hlast ▸ h.last k rest hk

theorem wrote (h : Book s) (hw : Wrote args s t pct gated) {hold : Hold} (hpct : hold.pct = pct)
    (hholds : holds t.said = hold :: holds s.said) (htells : Tells t.mem.lastVerdict hold) : Book t := by
  have hlow : t.mem.lowest = some (s.mem.lowest.elim pct (min · pct)) := congrArg Walk.lowest hw.core
  refine ⟨?_, fun k hk => ⟨_, hlow, ?_⟩, ?_, h.told_of hw.told⟩
  · rw [hholds]
    exact congrArg Walk.touched hw.core
  · rw [hholds] at hk
    rcases List.mem_cons.mp hk with rfl | hk
    · cases s.mem.lowest <;> simp [hpct]
    · obtain ⟨l, hl, hle⟩ := h.lowest k hk
      rw [hl]
      exact (min_le_left _ _).trans hle
  · intro k rest hk
    obtain ⟨rfl, -⟩ := List.cons.inj (hholds.symm.trans hk)
    exact htells

end Book

theorem turning_spinning {rpm : Nat} (h : turning rpm = .spinning) : 0 < rpm := by
  unfold turning at h
  split at h
  · assumption
  · cases h

theorem verdict_spinning {fresh : List Nat} (h : verdict fresh = .spinning) : ∃ rpm, fresh.getLast? = some rpm ∧ 0 < rpm := by
  unfold verdict at h
  dsimp only at h
  split at h
  · cases h
  · next hlen =>
    split at h
    · cases h
    · split at h
      · next hall =>
        have hne : fresh.drop (fresh.length - confirmSamples) ≠ [] := by
          rw [Ne, List.drop_eq_nil_iff]
          unfold confirmSamples at hlen ⊢
          omega
        have hlast := List.getLast_mem hne
        rw [List.all_eq_true] at hall
        refine ⟨_, ?_, of_decide_eq_true (hall _ hlast)⟩
        rw [List.getLast_drop hne]
        exact List.getLast?_eq_some_getLast _
      · cases h

theorem Stepped.tells {args : CalArgs} {s t : CalRun} {pct : Nat} {gated : Bool} {r : Except Stop Verdict}
    (h : Stepped args s t pct gated r) : Quiet s t ∨ ∃ hold, hold.pct = pct ∧ Wrote args s t pct gated ∧
      holds t.said = hold :: holds s.said ∧ Tells t.mem.lastVerdict hold := by
  cases h with
  | refused _ hq => exact .inl hq
  | failed _ hw hholds hlast => exact .inr ⟨_, rfl, hw, hholds, (fun h => by rw [hlast] at h; cases h), fun _ => rfl⟩
  | interrupted _ h hw hholds hlast =>
    refine .inr ⟨_, rfl, hw, hholds, fun hv => ?_, fun hv => ?_⟩
    · obtain ⟨rpm, hrpm, hturn⟩ := Option.map_eq_some_iff.mp (hlast ▸ hv)
      exact ⟨rpm, hrpm, turning_spinning hturn⟩
    · exact List.getLast?_eq_none_iff.mp (Option.map_eq_none_iff.mp (hlast ▸ hv))
  | held h hw hholds _ hlast =>
    refine .inr ⟨_, rfl, hw, hholds, fun hv => ?_, fun hv => ?_⟩
    · exact verdict_spinning (Option.some.inj (hlast ▸ hv))
    · rw [hlast] at hv
      cases hv

/-! ## The walk -/

/-- The findings agree, but for the kick's. -/
structure Same (p p' : CalProgress) : Prop where
  outcome : p.outcome = p'.outcome
  stall : p.stallDutyPct = p'.stallDutyPct
  restart : p.restartDutyPct = p'.restartDutyPct
  original : p.originalPct = p'.originalPct
  state : p.state = p'.state

theorem Same.trans {p p' p'' : CalProgress} (h : Same p p') (h' : Same p' p'') : Same p p'' :=
  ⟨h.outcome.trans h'.outcome, h.stall.trans h'.stall, h.restart.trans h'.restart, h.original.trans h'.original,
    h.state.trans h'.state⟩

/-- The findings agree. -/
structure Kept (w w' : Walk) : Prop where
  same : Same w.p w'.p
  atFull : w.p.restartFailedAtFull = w'.p.restartFailedAtFull
  slow : w.restoreFullSpeed = w'.restoreFullSpeed

theorem Kept.trans {w w' w'' : Walk} (h : Kept w w') (h' : Kept w' w'') : Kept w w'' :=
  ⟨h.same.trans h'.same, h.atFull.trans h'.atFull, h.slow.trans h'.slow⟩

theorem Kept.of_core {w w' : Walk} (hp : w.core.p = w'.core.p) (hslow : w.core.restoreFullSpeed = w'.core.restoreFullSpeed) :
    Kept w w' := by
  have houtcome : w.core.p.outcome = w'.core.p.outcome := congrArg CalProgress.outcome hp
  have hstall : w.core.p.stallDutyPct = w'.core.p.stallDutyPct := congrArg CalProgress.stallDutyPct hp
  have hrestart : w.core.p.restartDutyPct = w'.core.p.restartDutyPct := congrArg CalProgress.restartDutyPct hp
  have horiginal : w.core.p.originalPct = w'.core.p.originalPct := congrArg CalProgress.originalPct hp
  have hstate : w.core.p.state = w'.core.p.state := congrArg CalProgress.state hp
  have hfull : w.core.p.restartFailedAtFull = w'.core.p.restartFailedAtFull := congrArg CalProgress.restartFailedAtFull hp
  exact ⟨⟨houtcome, hstall, hrestart, horiginal, hstate⟩, hfull, hslow⟩

theorem Since.kept {ok : CalEvent → Bool} {s t : CalRun} (h : Since ok s t) : Kept t.mem s.mem :=
  .of_core (congrArg Walk.p h.core) (congrArg Walk.restoreFullSpeed h.core)

theorem Wrote.kept {args : CalArgs} {s t : CalRun} {pct : Nat} {gated : Bool} (hw : Wrote args s t pct gated) :
    Kept t.mem s.mem := by
  have hp : t.mem.core.p = (s.mem.core.wrote pct t.mem.lastVerdict).p := congrArg Walk.p hw.core
  have hslow : t.mem.core.restoreFullSpeed = (s.mem.core.wrote pct t.mem.lastVerdict).restoreFullSpeed :=
    congrArg Walk.restoreFullSpeed hw.core
  exact .of_core hp hslow

/-- A walk under way: every duty gated, and the record in order. -/
structure Under (args : CalArgs) (s : CalRun) : Prop where
  gated : Gated args s.said
  book : Book s
  slow : s.mem.restoreFullSpeed = false

/-- A hold that ended, with a verdict other than the one sought. -/
def Missed (sought : Verdict) (h : Hold) : Prop := h.acked = true ∧ h.fresh ≠ [] ∧ verdict h.fresh ≠ sought

def Hit (sought : Verdict) (h : Hold) : Prop := h.acked = true ∧ h.fresh ≠ [] ∧ verdict h.fresh = sought

/-- Between `s` and `t` the duties of `done` were tried, in order. -/
structure Tried (args : CalArgs) (s t : CalRun) (done : List Hold) : Prop where
  under : Under args t
  holds : holds t.said = done.reverse ++ holds s.said
  kept : Kept t.mem s.mem

section Walk

variable {args : CalArgs} {s t u : CalRun} {pct : Nat}

theorem Under.quietly (h : Under args s) (hq : Quiet s t) : Tried args s t [] := by
  exact ⟨⟨h.gated.quietly hq, h.book.quietly hq, hq.kept.slow.trans h.slow⟩, hq.holds, hq.kept⟩

theorem Under.wrote (h : Under args s) (hw : Wrote args s t pct true) {hold : Hold} (hpct : hold.pct = pct)
    (hholds : Calibration.holds t.said = hold :: Calibration.holds s.said) (htells : Tells t.mem.lastVerdict hold) :
    Tried args s t [hold] :=
  ⟨⟨h.gated.wrote hw, h.book.wrote hw hpct hholds htells, hw.kept.slow.trans h.slow⟩, hholds, hw.kept⟩

theorem Tried.trans {done done' : List Hold} (h : Tried args s t done) (h' : Tried args t u done') :
    Tried args s u (done ++ done') :=
  ⟨h'.under, by rw [h'.holds, h.holds, List.reverse_append, List.append_assoc], h'.kept.trans h.kept⟩

/-- A gated step tries its duty, or stops before it. -/
theorem Under.step {fuel hold : Nat} {phase : CalPhase} (h : Under args s) :
    (step args fuel pct phase hold true false).wp
      (fun v t => ∃ k, Tried args s t [k] ∧ k.pct = pct ∧ k.acked = true ∧ k.fresh ≠ [] ∧ verdict k.fresh = v)
      (fun e t => ∀ stop, e = .returned stop → ∃ done, Tried args s t done ∧ done.map (·.pct) <+: [pct]) s := by
  refine wp_step.mono (fun v t hstep => ?_) fun e t hstep stop hstop => ?_
  · cases hstep with
    | held k hw hholds hne hlast =>
      obtain hq | ⟨hold, hpct, hw, hholds', htells⟩ := (Stepped.held k hw hholds hne hlast).tells
      · exact absurd (hq.holds.symm.trans hholds) (by simp)
      · obtain ⟨rfl, -⟩ := List.cons.inj (hholds'.symm.trans hholds)
        exact ⟨_, h.wrote hw rfl hholds htells, rfl, rfl, hne, rfl⟩
  · rcases (hstep stop hstop).tells with hq | ⟨hold, hpct, hw, hholds, htells⟩
    · exact ⟨[], h.quietly hq, List.nil_prefix⟩
    · exact ⟨[hold], h.wrote hw hpct hholds htells, by simp [hpct]⟩

/-- What a search leaves: each duty missed, or all but the last. -/
def Searched (args : CalArgs) (s t : CalRun) (ds : List Nat) (sought : Verdict) : Option Nat → Prop
  | none => ∃ done, Tried args s t done ∧ done.map (·.pct) = ds ∧ ∀ k ∈ done, Missed sought k
  | some pct => ∃ done k, Tried args s t (done ++ [k]) ∧ k.pct = pct ∧ (done ++ [k]).map (·.pct) <+: ds ∧
      (∀ k ∈ done, Missed sought k) ∧ Hit sought k

theorem Under.search {fuel : Nat} {phase : CalPhase} {sought : Verdict} {ds : List Nat} (h : Under args s) :
    (search args fuel phase sought ds).wp (fun r t => Searched args s t ds sought r)
      (fun e t => ∀ stop, e = .returned stop → ∃ done, Tried args s t done ∧ done.map (·.pct) <+: ds) s := by
  induction ds generalizing s with
  | nil => exact ⟨[], h.quietly (Quiet.refl s), rfl, fun k hk => absurd hk List.not_mem_nil⟩
  | cons pct rest ih =>
    unfold Calibration.search
    refine Act.wp_bind.mpr (h.step.mono (fun v t hstep => ?_) fun e t hstop stop heq => ?_)
    · obtain ⟨k, htried, hpct, hacked, hne, rfl⟩ := hstep
      split
      · next hit => exact ⟨[], k, htried, hpct, by simp [hpct], fun k hk => absurd hk List.not_mem_nil, hacked, hne, hit⟩
      · next hmiss =>
        refine (ih htried.under).mono (fun r u hr => ?_) fun e u hstop stop heq => ?_
        · cases r with
          | none =>
            obtain ⟨done, hdone, hall, hmissed⟩ := hr
            refine ⟨[k] ++ done, htried.trans hdone, by simp [hpct, hall], fun k' hk' => ?_⟩
            rcases List.mem_append.mp hk' with hk' | hk'
            · rw [List.mem_singleton.mp hk']
              exact ⟨hacked, hne, hmiss⟩
            · exact hmissed k' hk'
          | some d =>
            obtain ⟨done, last, hdone, hlast, hpre, hmissed, hhit⟩ := hr
            refine ⟨[k] ++ done, last, ?_, hlast, ?_, fun k' hk' => ?_, hhit⟩
            · rw [List.append_assoc]
              exact htried.trans hdone
            · rw [List.append_assoc, List.map_append]
              simpa [hpct] using hpre
            · rcases List.mem_append.mp hk' with hk' | hk'
              · rw [List.mem_singleton.mp hk']
                exact ⟨hacked, hne, hmiss⟩
              · exact hmissed k' hk'
        · obtain ⟨done, hdone, hpre⟩ := hstop stop heq
          exact ⟨[k] ++ done, htried.trans hdone, by simpa [hpct] using hpre⟩
    · obtain ⟨done, hdone, hpre⟩ := hstop stop heq
      exact ⟨done, hdone, hpre.trans (by simp)⟩

/-- Between `s` and `t` the duties of `done` were tried, gated or not. -/
structure After (s t : CalRun) (done : List Hold) : Prop where
  told : Told s t
  holds : Calibration.holds t.said = done.reverse ++ Calibration.holds s.said

theorem After.trans {done done' : List Hold} (h : After s t done) (h' : After t u done') : After s u (done ++ done') :=
  ⟨h.told.trans h'.told, by rw [h'.holds, h.holds, List.reverse_append, List.append_assoc]⟩

theorem Since.after (h : Quiet s t) : After s t [] := ⟨h.told, h.holds⟩

/-- What was said between the two wrote the duties of `done`. -/
theorem After.duties {done : List Hold} (h : After s t done) :
    ∃ rest, t.said = s.said ++ rest ∧ Calibration.duties rest = done.map (·.pct) := by
  obtain ⟨rest, hrest, -⟩ := h.told
  refine ⟨rest, hrest, ?_⟩
  have hall : Calibration.duties t.said = Calibration.duties s.said ++ done.map (·.pct) := by
    rw [← map_pct_holds, ← map_pct_holds, h.holds, List.map_append, List.reverse_append, List.map_reverse, List.reverse_reverse]
  rw [hrest, duties_append] at hall
  exact List.append_cancel_left hall

/-- The kick writes 100 % or nothing; run to its end it heard the fan. -/
theorem wp_kick {fuel : Nat} (h : Book s) :
    (kick args fuel).wp
      (fun _ t => ∃ k, After s t [k] ∧ Book t ∧ (k.pct = 100 ∧ k.acked = true ∧ k.fresh ≠ []) ∧ Same t.mem.p s.mem.p ∧
        t.mem.restoreFullSpeed = s.mem.restoreFullSpeed ∧
        (t.mem.p.restartFailedAtFull = true ↔ verdict k.fresh ≠ .spinning))
      (fun e t => ∀ stop, e = .returned stop → ∃ done, After s t done ∧ Book t ∧ done.map (·.pct) <+: [100] ∧
        Kept t.mem s.mem) s := by
  unfold kick
  rw [Act.wp_bind, wp_modify]
  refine wp_askBind fun interval => ?_
  have hq : Quiet s (note { s with mem := { s.mem with target := 100 } } pollInterval interval) := by
    refine Since.note (Since.noted (Quiet.refl s) ?_ ?_) rfl rfl <;> rfl
  have hbook := h.quietly hq
  refine Act.wp_bind.mpr (wp_step.mono (fun v t hstep => ?_) fun e t hstep stop hstop => ?_)
  · cases hstep with
    | held k hw hholds hne hlast =>
      obtain hq' | ⟨hold, hpct, hw, hholds', htells⟩ := (Stepped.held k hw hholds hne hlast).tells
      · exact absurd (hq'.holds.symm.trans hholds) (by simp)
      · obtain ⟨rfl, -⟩ := List.cons.inj (hholds'.symm.trans hholds)
        have hb := hbook.wrote hw rfl hholds htells
        have hkept := hw.kept.trans hq.kept
        refine ⟨_, hq.after.trans ⟨hw.told, hholds⟩, ⟨hb.touched, hb.lowest, hb.last, hb.told⟩, ⟨rfl, rfl, hne⟩,
          ⟨hkept.same.outcome, hkept.same.stall, hkept.same.restart, hkept.same.original, hkept.same.state⟩, hkept.slow, ?_⟩
        exact bne_iff_ne
  · rcases (hstep stop hstop).tells with hq' | ⟨hold, hpct, hw, hholds, htells⟩
    · exact ⟨[], hq.after.trans hq'.after, hbook.quietly hq', List.nil_prefix, (hq.trans hq').kept⟩
    · exact ⟨[hold], hq.after.trans ⟨hw.told, hholds⟩, hbook.wrote hw hpct hholds htells, by simp [hpct],
        hw.kept.trans hq.kept⟩

end Walk

/-! ## The whole walk -/

/-- The walk's plan: down the descent, then up from the stall. -/
def Planned (l : List Nat) : Prop :=
  l <+: descentDuties ∨ ∃ down stall up, l = down ++ [stall] ++ up ∧ down ++ [stall] <+: descentDuties ∧ up <+: ascentDuties stall

/-- What a completed walk found, of its holds in order. -/
inductive Survey (p : CalProgress) : List Hold → Prop
  | noFan (k : Hold) (hit : Hit .stopped k) (hpct : k.pct = 100) (outcome : p.outcome = some .noFanDetected)
      (stall : p.stallDutyPct = none) (restart : p.restartDutyPct = none) : Survey p [k]
  | noStall (down : List Hold) (hall : down.map (·.pct) = descentDuties) (hmissed : ∀ k ∈ down, Missed .stopped k)
      (outcome : p.outcome = some .noStallDownTo0) (stall : p.stallDutyPct = none) (restart : p.restartDutyPct = none) :
      Survey p down
  | restarted (down : List Hold) (k : Hold) (up : List Hold) (k' : Hold)
      (hdown : (down ++ [k]).map (·.pct) <+: descentDuties) (hmissed : ∀ k ∈ down, Missed .stopped k) (hit : Hit .stopped k)
      (hup : (up ++ [k']).map (·.pct) <+: ascentDuties k.pct) (hmissed' : ∀ k ∈ up, Missed .spinning k)
      (hit' : Hit .spinning k') (outcome : p.outcome = some .stallAndRestartFound)
      (stall : p.stallDutyPct = some k.pct) (restart : p.restartDutyPct = some k'.pct) :
      Survey p (down ++ [k] ++ (up ++ [k']))
  | stuck (down : List Hold) (k : Hold) (up : List Hold) (kick : Hold)
      (hdown : (down ++ [k]).map (·.pct) <+: descentDuties) (hmissed : ∀ k ∈ down, Missed .stopped k) (hit : Hit .stopped k)
      (hup : up.map (·.pct) = ascentDuties k.pct) (hmissed' : ∀ k ∈ up, Missed .spinning k)
      (hkick : kick.pct = 100 ∧ kick.acked = true ∧ kick.fresh ≠ []) (outcome : p.outcome = some .didNotRestart)
      (stall : p.stallDutyPct = some k.pct) (restart : p.restartDutyPct = none)
      (atFull : p.restartFailedAtFull = true ↔ verdict kick.fresh ≠ .spinning) : Survey p (down ++ [k] ++ up ++ [kick])

/-- What an early end leaves of the findings. -/
def Cut (p : CalProgress) (hs : List Hold) : Prop :=
  p.restartDutyPct = none ∧ (p.stallDutyPct = none ∨ ∃ down k rest, hs = down ++ [k] ++ rest ∧
    (down ++ [k]).map (·.pct) <+: descentDuties ∧ Hit .stopped k ∧ p.stallDutyPct = some k.pct)

/-- A gated walk, and at most one kick of its own. -/
structure Walked (args : CalArgs) (t : CalRun) : Prop where
  book : Book t
  slow : t.mem.restoreFullSpeed = false
  original : t.mem.p.originalPct = args.original
  split : ∃ walked rest, t.said = walked ++ rest ∧ Gated args walked ∧ Planned (duties walked) ∧ duties rest <+: [100]

section Whole

variable {args : CalArgs} {env : List CalEvent → (q : CalQuestion) → CalAnswer q} {s t u : CalRun}

theorem under_start : Under args (start args env) :=
  ⟨Gated.nil, ⟨rfl, fun h hh => absurd hh List.not_mem_nil, (fun h rest hh => by cases hh), rfl⟩, rfl⟩

/-- The facts are set apart from what a walk keeps. -/
theorem Under.of_facts (h : Under args s) {p : CalProgress} : Under args { s with mem := { s.mem with p := p } } :=
  ⟨h.gated, ⟨h.book.touched, h.book.lowest, h.book.last, h.book.told⟩, h.slow⟩

theorem Book.of_facts (h : Book s) {p : CalProgress} : Book { s with mem := { s.mem with p := p } } :=
  ⟨h.touched, h.lowest, h.last, h.told⟩

theorem duties_eq (s : CalRun) : duties s.said = (holds s.said).reverse.map (·.pct) := by
  rw [← map_pct_holds, List.map_reverse]

theorem Under.walked (h : Under args t) (horiginal : t.mem.p.originalPct = args.original) (hplan : Planned (duties t.said)) :
    Walked args t := ⟨h.book, h.slow, horiginal, t.said, [], by simp, h.gated, hplan, List.nil_prefix⟩

/-- What the walk's end tells. -/
def Surveyed (args : CalArgs) (t : CalRun) : Prop := Walked args t ∧ Survey t.mem.p (holds t.said).reverse

def CutShort (args : CalArgs) (t : CalRun) : Prop := Walked args t ∧ Cut t.mem.p (holds t.said).reverse

section Stall

variable {down up : List Hold} {k : Hold} (hdown : (down ++ [k]).map (·.pct) <+: descentDuties)
  (hmissed : ∀ k ∈ down, Missed .stopped k) (hit : Hit .stopped k)
include hdown

theorem planned_up (hup : up.map (·.pct) <+: ascentDuties k.pct) : Planned ((down ++ [k] ++ up).map (·.pct)) := by
  refine .inr ⟨down.map (·.pct), k.pct, up.map (·.pct), ?_, ?_, hup⟩
  · simp
  · simpa using hdown

include hmissed hit

/-- The ascent, from the stall on. -/
theorem wp_fromStall {fuel : Nat} (h : Under args s) (hholds : holds s.said = (down ++ [k]).reverse)
    (hstall : s.mem.p.stallDutyPct = some k.pct) (hrestart : s.mem.p.restartDutyPct = none)
    (horiginal : s.mem.p.originalPct = args.original) :
    (fromStall args fuel k.pct).wp (fun _ => Surveyed args)
      (fun e t => ∀ stop, e = .returned stop → CutShort args t) s := by
  have hchain : ∀ {t : CalRun} {done}, Tried args s t done → (holds t.said).reverse = down ++ [k] ++ done := fun ht => by
    rw [ht.holds, hholds, ← List.reverse_append, List.reverse_reverse]
  have hplan : ∀ {t : CalRun} {done}, Tried args s t done → done.map (·.pct) <+: ascentDuties k.pct →
      Planned (duties t.said) := fun ht hup => by
    rw [duties_eq, hchain ht]
    exact planned_up hdown hup
  have hcut : ∀ {p : CalProgress} {hs rest}, p.restartDutyPct = s.mem.p.restartDutyPct →
      p.stallDutyPct = s.mem.p.stallDutyPct → hs = down ++ [k] ++ rest → Cut p hs := fun hr hs hhs =>
    ⟨hr.trans hrestart, .inr ⟨down, k, _, hhs, hdown, hit, hs.trans hstall⟩⟩
  unfold fromStall
  refine Act.wp_bind.mpr (h.search.mono (fun r t hr => ?_) fun e t hstop stop heq => ?_)
  · cases r with
    | none =>
      obtain ⟨up, hup, hall, hmissed'⟩ := hr
      have hplan := hplan hup (hall ▸ List.prefix_rfl)
      have hsame := hup.kept.same
      have hchain := hchain hup
      unfold found
      rw [Act.wp_bind, Asking.wp_modify]
      refine (wp_kick hup.under.book.of_facts).mono (fun _ u hu => ?_) fun e u hstop stop heq => ?_
      · obtain ⟨kick, hafter, hb, hkick, hs, hslow, hfull⟩ := hu
        obtain ⟨rest, hrest, hduties⟩ := hafter.duties
        refine ⟨⟨hb, hslow.trans hup.under.slow, hs.original.trans (hsame.original.trans horiginal), t.said, rest, hrest,
          hup.under.gated, hplan, by simp [hduties, hkick.1]⟩, ?_⟩
        have hall' : (holds u.said).reverse = down ++ [k] ++ up ++ [kick] := by
          rw [hafter.holds, List.reverse_append, List.reverse_reverse]
          exact congrArg (· ++ [kick]) hchain
        rw [hall']
        exact .stuck down k up kick hdown hmissed hit hall hmissed' hkick hs.outcome (hs.stall.trans (hsame.stall.trans hstall))
          (hs.restart.trans (hsame.restart.trans hrestart)) hfull
      · obtain ⟨done, hafter, hb, hpre, hkept⟩ := hstop stop heq
        obtain ⟨rest, hrest, hduties⟩ := hafter.duties
        refine ⟨⟨hb, hkept.slow.trans hup.under.slow, hkept.same.original.trans (hsame.original.trans horiginal), t.said, rest,
          hrest, hup.under.gated, hplan, hduties ▸ hpre⟩, ?_⟩
        refine hcut (hkept.same.restart.trans hsame.restart) (hkept.same.stall.trans hsame.stall) (?_ : _ = _ ++ (up ++ done))
        rw [hafter.holds, List.reverse_append, List.reverse_reverse, ← List.append_assoc]
        exact congrArg (· ++ done) hchain
    | some d =>
      obtain ⟨up, last, hup, rfl, hpre, hmissed', hhit⟩ := hr
      have hsame := hup.kept.same
      have hplan := hplan hup hpre
      refine ⟨hup.under.of_facts.walked (hsame.original.trans horiginal) hplan, ?_⟩
      show Survey _ (holds t.said).reverse
      rw [hchain hup]
      exact .restarted down k up last hdown hmissed hit hpre hmissed' hhit rfl (hsame.stall.trans hstall) rfl
  · obtain ⟨done, hdone, hpre⟩ := hstop stop heq
    exact ⟨hdone.under.walked (hdone.kept.same.original.trans horiginal) (hplan hdone hpre),
      hcut hdone.kept.same.restart hdone.kept.same.stall (hchain hdone)⟩

end Stall

/-- A walk ends with a survey, or is cut short. -/
theorem wp_walk {fuel : Nat} : (walk args fuel).wp (fun _ => Surveyed args)
    (fun e t => ∀ stop, e = .returned stop → CutShort args t) (start args env) := by
  unfold walk
  have hdone : ∀ {t : CalRun} {done}, Tried args (start args env) t done → (holds t.said).reverse = done := fun ht => by
    rw [ht.holds, List.reverse_append, List.reverse_reverse]
    rfl
  have hplan : ∀ {t : CalRun} {done}, Tried args (start args env) t done → done.map (·.pct) <+: descentDuties →
      Planned (duties t.said) := fun ht hpre => by
    rw [duties_eq, hdone ht]
    exact .inl hpre
  refine Act.wp_bind.mpr (under_start.search.mono (fun r t hr => ?_) fun e t hstop stop heq => ?_)
  · cases r with
    | none =>
      obtain ⟨down, hdown, hall, hmissed⟩ := hr
      have hsame := hdown.kept.same
      have hplan := hplan hdown (hall ▸ List.prefix_rfl)
      refine ⟨hdown.under.of_facts.walked hsame.original hplan, ?_⟩
      show Survey _ (holds t.said).reverse
      rw [hdone hdown]
      exact .noStall down hall hmissed rfl hsame.stall hsame.restart
    | some d =>
      obtain ⟨down, k, hdown, rfl, hpre, hmissed, hhit⟩ := hr
      have hsame := hdown.kept.same
      split
      · next h => cases h
      · next h =>
        have hplan := hplan hdown hpre
        have hfull : k.pct = 100 := Option.some.inj h
        obtain rfl : down = [] := by
          cases down with
          | nil => rfl
          | cons a down =>
            obtain ⟨rest, hrest⟩ := hpre
            have hagain : 100 ∈ descentDuties.tail := by
              rw [← hrest]
              simp [hfull]
            exact absurd hagain (by decide)
        refine ⟨hdown.under.of_facts.walked hsame.original hplan, ?_⟩
        show Survey _ (holds t.said).reverse
        rw [hdone hdown]
        exact .noFan k hhit hfull rfl hsame.stall hsame.restart
      · next stall _ h =>
        obtain rfl : k.pct = stall := Option.some.inj h
        rw [Act.wp_bind, Asking.wp_modify]
        refine Act.wp_bind.mpr (wp_get.mpr (wp_askBind fun _ => ?_))
        have hlast := hdone hdown
        have hnote : Quiet { t with mem := { t.mem with p := { t.mem.p with stallDutyPct := some k.pct } } }
            (note { t with mem := { t.mem with p := { t.mem.p with stallDutyPct := some k.pct } } }
              (publish { t.mem.p with stallDutyPct := some k.pct }) ()) := (Quiet.refl _).note rfl rfl
        have hunder := (hdown.under.of_facts (p := { t.mem.p with stallDutyPct := some k.pct })).quietly hnote
        refine wp_fromStall hpre hmissed hhit hunder.under ?_ rfl hsame.restart hsame.original
        rw [hnote.holds, ← hlast, List.reverse_reverse]
  · obtain ⟨done, htried, hpre⟩ := hstop stop heq
    exact ⟨htried.under.walked htried.kept.same.original (hplan htried hpre), htried.kept.same.restart, .inl htried.kept.same.stall⟩

end Whole

end ControlOfc.Diagnostics.Calibration
