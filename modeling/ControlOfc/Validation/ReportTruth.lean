import ControlOfc.Validation.SweepReport
/-! # Whether a session's report says what its sweeps measured (validation/summary.rs:123-518)

A member's findings depend on nothing but its own evidence, and come from its first run with a summary. The token
of its response is matched against `pass` and `fail`, where `characterization::summarise` writes `responsive` and
`no_response`.

* `perMember_of`: the findings of one member.
* `summarise_of`: the report, one finding and one member at a time.

Main theorem `sweep_report_iff`: the report is right just where no run it rests on has a tach reading.
-/
namespace ControlOfc.Validation
open Diagnostics.Sweep (CharSummary SweptPoint LearnedPoint rpmsOf minRpm maxRpm responseThreshold)
open SweepFinding (headerControl readback response hysteresis stability effectiveRange learnedRange override)

/-! ## One member -/

/-- The findings of one member. -/
def ofMember (member : String) (fs : List ValidationFinding) : List ValidationFinding :=
  fs.filter fun f => f.memberId = some member

/-- A finding with its member. -/
def stamped (derive : EvidenceRef → Option ValidationFinding) (ev : EvidenceRef) : Option ValidationFinding :=
  (derive ev).map fun f => { f with memberId := some ev.memberId }

section PerMember

variable {derive : EvidenceRef → Option ValidationFinding}

theorem perMember_of_done {member : String} {done : List String} (hdone : member ∈ done) (evidence : List EvidenceRef) :
    ofMember member (perMember derive done evidence) = [] := by
  induction evidence generalizing done with
  | nil => rfl
  | cons ev evidence ih =>
    unfold perMember
    split
    · exact ih hdone
    · next hev =>
      have hne : ev.memberId ≠ member := fun h => hev (h ▸ hdone)
      split
      · simpa [ofMember, hne] using ih (List.mem_cons_of_mem _ hdone)
      · exact ih hdone

/-- A member has the finding of the first of its runs that leads to one. -/
theorem perMember_of {member : String} {done : List String} (hdone : member ∉ done) (evidence : List EvidenceRef) :
    ofMember member (perMember derive done evidence) =
      ((evidence.filter (·.memberId = member)).findSome? (stamped derive)).toList := by
  induction evidence generalizing done with
  | nil => rfl
  | cons ev evidence ih =>
    unfold perMember
    by_cases hmember : ev.memberId = member
    · subst hmember
      rw [if_neg hdone, List.filter_cons_of_pos (by simp), List.findSome?_cons]
      cases hf : derive ev with
      | some f =>
        have hrest : ofMember ev.memberId (perMember derive (ev.memberId :: done) evidence) = [] :=
          perMember_of_done List.mem_cons_self evidence
        unfold ofMember at hrest ⊢
        rw [List.filter_cons_of_pos (by simp), hrest]
        simp [stamped, hf]
      | none => simpa [stamped, hf] using ih hdone
    · rw [List.filter_cons_of_neg (by simpa using hmember)]
      split
      · exact ih hdone
      · split
        · have hdone' : member ∉ ev.memberId :: done := by
            simp only [List.mem_cons, not_or]
            exact ⟨Ne.symm hmember, hdone⟩
          simpa [ofMember, hmember] using ih hdone'
        · exact ih hdone

/-- A finding comes from a run that leads to it. -/
theorem perMember_mem {f : ValidationFinding} {done : List String} {evidence : List EvidenceRef}
    (hf : f ∈ perMember derive done evidence) : ∃ ev ∈ evidence, stamped derive ev = some f := by
  induction evidence generalizing done with
  | nil => simp [perMember] at hf
  | cons ev evidence ih =>
    unfold perMember at hf
    split at hf
    · obtain ⟨ev', hev', h⟩ := ih hf
      exact ⟨ev', List.mem_cons_of_mem _ hev', h⟩
    · split at hf
      · next g hg =>
        rcases List.mem_cons.mp hf with rfl | hf
        · exact ⟨ev, List.mem_cons_self, by simp [stamped, hg]⟩
        · obtain ⟨ev', hev', h⟩ := ih hf
          exact ⟨ev', List.mem_cons_of_mem _ hev', h⟩
      · obtain ⟨ev', hev', h⟩ := ih hf
        exact ⟨ev', List.mem_cons_of_mem _ hev', h⟩

end PerMember

/-! ## A member's first summarised run -/

/-- The first run of a member that has a summary. -/
def firstSummarised (session : Session) (member : String) : Option EvidenceRef :=
  (characterizations session).find? fun ev => ev.memberId = member ∧ (summaryOf ev).isSome

theorem findSome_stamped {derive : EvidenceRef → Option ValidationFinding}
    (h : ∀ ev, (derive ev).isSome = (summaryOf ev).isSome) (session : Session) (member : String) :
    ((characterizations session).filter (·.memberId = member)).findSome? (stamped derive) =
      (firstSummarised session member).bind (stamped derive) := by
  unfold firstSummarised
  induction characterizations session with
  | nil => rfl
  | cons ev evidence ih =>
    by_cases hmember : ev.memberId = member
    · rw [List.filter_cons_of_pos (by simpa using hmember), List.findSome?_cons, List.find?_cons]
      have hev := h ev
      cases hd : derive ev with
      | some f =>
        rw [hd] at hev
        simp [stamped, hd, hmember, ← hev]
      | none =>
        rw [hd] at hev
        simpa [stamped, hd, hmember, ← hev] using ih
    · rw [List.filter_cons_of_neg (by simpa using hmember), List.find?_cons_of_neg (by simp [hmember])]
      exact ih

theorem fromSummary_isSome (id : String) (outcome : CharSummary → String × String) (ev : EvidenceRef) :
    (fromSummary id outcome ev).isSome = (summaryOf ev).isSome := by
  simp [fromSummary]

/-- The verdict of `summarise` on stability is a token, never empty. -/
theorem stabilityVerdict_ne {ev : EvidenceRef} {sum : CharSummary} (h : summaryOf ev = some sum) :
    sum.stabilityVerdict ≠ "" := by
  obtain ⟨run, -, hrun⟩ := Option.bind_eq_some_iff.mp h
  obtain ⟨learned, driver, rfl⟩ := run.derived sum hrun
  have htoken : ∀ s : Diagnostics.Sweep.Stability, s.token ≠ "" := by
    intro s
    cases s <;> decide
  exact htoken _

/-- So no run with a summary is passed over. -/
theorem stability_derive (ev : EvidenceRef) :
    (if (summaryOf ev).any (·.stabilityVerdict = "") then none else fromSummary stability.id stabilityOutcome ev) =
      fromSummary stability.id stabilityOutcome ev := by
  cases h : summaryOf ev with
  | none => simp
  | some sum => simp [stabilityVerdict_ne h]

/-- The finding a run leads to. -/
def findingOf (s : SweepFinding) (ev : EvidenceRef) : Option ValidationFinding := stamped (fromSummary s.id s.outcome) ev

theorem perMember_finding (s : SweepFinding) (session : Session) (member : String) :
    ofMember member (perMember (fromSummary s.id s.outcome) [] (characterizations session)) =
      ((firstSummarised session member).bind (findingOf s)).toList := by
  rw [perMember_of (by simp), findSome_stamped (fromSummary_isSome _ _)]
  rfl

/-! ## The report, one finding at a time -/

/-- The findings of the report under one id. -/
def block (session : Session) (interrupted : Bool) : SweepFinding → List ValidationFinding
  | headerControl => pwmHeaderControl session interrupted
  | readback => pwmReadback session interrupted
  | response => pwmResponse session interrupted
  | hysteresis => hysteresisFinding session interrupted
  | stability => stabilityFinding session interrupted
  | effectiveRange => effectiveRangeFinding session interrupted
  | learnedRange => learnedRangeFinding session interrupted
  | override => deviceOverride session interrupted

theorem orAbsent_ids {id : String} {out : List ValidationFinding} {interrupted : Bool} (h : ∀ f ∈ out, f.id = id) :
    ∀ f ∈ orAbsent out id interrupted, f.id = id := by
  intro f hf
  unfold orAbsent at hf
  split at hf
  · rw [List.mem_singleton.mp hf]
    rfl
  · exact h f hf

theorem perMember_ids {id : String} {derive : EvidenceRef → Option ValidationFinding}
    (h : ∀ ev f, derive ev = some f → f.id = id) (done : List String) (evidence : List EvidenceRef) :
    ∀ f ∈ perMember derive done evidence, f.id = id := by
  intro f hf
  obtain ⟨ev, -, hev⟩ := perMember_mem hf
  obtain ⟨g, hg, rfl⟩ := Option.map_eq_some_iff.mp hev
  exact h ev g hg

theorem fromSummary_id {id : String} {outcome : CharSummary → String × String} {ev : EvidenceRef} {f : ValidationFinding}
    (h : fromSummary id outcome ev = some f) : f.id = id := by
  obtain ⟨sum, -, rfl⟩ := Option.map_eq_some_iff.mp h
  rfl

theorem sweptFinding_ids (s : SweepFinding) (session : Session) (interrupted : Bool) :
    ∀ f ∈ sweptFinding s session interrupted, f.id = s.id :=
  orAbsent_ids (perMember_ids (fun _ _ => fromSummary_id) _ _)

theorem block_ids (session : Session) (interrupted : Bool) (s : SweepFinding) :
    ∀ f ∈ block session interrupted s, f.id = s.id := by
  cases s with
  | headerControl =>
    refine orAbsent_ids fun f hf => ?_
    rcases List.mem_append.mp hf with hf | hf
    · exact perMember_ids (fun _ _ => fromSummary_id) _ _ f hf
    · refine perMember_ids (fun ev g hg => ?_) _ _ f hf
      obtain ⟨v, -, rfl⟩ := Option.map_eq_some_iff.mp hg
      rfl
  | readback =>
    intro f hf
    simp only [block, pwmReadback] at hf
    split at hf
    · exact perMember_ids (fun _ _ => fromSummary_id) _ _ f hf
    · rw [List.mem_singleton.mp hf]
      split
      · rfl
      · split <;> rfl
  | response => exact sweptFinding_ids response session interrupted
  | hysteresis => exact sweptFinding_ids hysteresis session interrupted
  | stability =>
    refine orAbsent_ids (perMember_ids (fun ev f hf => ?_) _ _)
    rw [stability_derive] at hf
    exact fromSummary_id hf
  | effectiveRange => exact sweptFinding_ids effectiveRange session interrupted
  | learnedRange => exact sweptFinding_ids learnedRange session interrupted
  | override => exact sweptFinding_ids override session interrupted

/-- The findings of a report under the id of `s`. -/
def under (s : SweepFinding) (fs : List ValidationFinding) : List ValidationFinding := fs.filter (·.id = s.id)

theorem under_append (s : SweepFinding) (a b : List ValidationFinding) : under s (a ++ b) = under s a ++ under s b :=
  List.filter_append ..

theorem id_inj {s t : SweepFinding} (h : s.id = t.id) : s = t := by
  revert h
  cases s <;> cases t <;> decide

theorem under_block (session : Session) (interrupted : Bool) (s t : SweepFinding) :
    under s (block session interrupted t) = if t = s then block session interrupted t else [] := by
  split
  · next h =>
    subst h
    exact List.filter_eq_self.mpr fun f hf => by simpa using block_ids session interrupted t f hf
  · next h =>
    refine List.filter_eq_nil_iff.mpr fun f hf => ?_
    have hid := block_ids session interrupted t f hf
    simp only [decide_eq_true_eq]
    exact fun hs => h (id_inj (hid.symm.trans hs))

theorem OtherFindings.under_eq {others : OtherFindings} (s : SweepFinding) {fs : List ValidationFinding}
    (h : ∀ f ∈ fs, f ∈ others.rpmTelemetry ++ others.responseLatency ++ others.startupAndSteadyState ++
      others.divergence ++ others.afterOverride) : under s fs = [] := by
  refine List.filter_eq_nil_iff.mpr fun f hf => ?_
  simpa using others.own_ids f (h f hf) s

/-- The report under one id is what that finding's function said. -/
theorem summarise_of (session : Session) (others : OtherFindings) (s : SweepFinding) :
    under s (summarise session others) = block session (isInterrupted session) s := by
  have hsplit : summarise session others =
      block session (isInterrupted session) headerControl ++ block session (isInterrupted session) readback ++
        others.rpmTelemetry ++ block session (isInterrupted session) response ++ others.responseLatency ++
        block session (isInterrupted session) hysteresis ++ block session (isInterrupted session) stability ++
        block session (isInterrupted session) effectiveRange ++ block session (isInterrupted session) learnedRange ++
        others.startupAndSteadyState ++ others.divergence ++ block session (isInterrupted session) override ++
        others.afterOverride := rfl
  have h₁ : under s others.rpmTelemetry = [] := others.under_eq s (by simp +contextual)
  have h₂ : under s others.responseLatency = [] := others.under_eq s (by simp +contextual)
  have h₃ : under s others.startupAndSteadyState = [] := others.under_eq s (by simp +contextual)
  have h₄ : under s others.divergence = [] := others.under_eq s (by simp +contextual)
  have h₅ : under s others.afterOverride = [] := others.under_eq s (by simp +contextual)
  rw [hsplit]
  simp only [under_append, under_block, h₁, h₂, h₃, h₄, h₅]
  cases s <;> simp

/-! ## The report, one member at a time -/

theorem ofMember_append (member : String) (a b : List ValidationFinding) :
    ofMember member (a ++ b) = ofMember member a ++ ofMember member b := List.filter_append ..

theorem ofMember_orAbsent {member : String} {out : List ValidationFinding} (h : ofMember member out ≠ []) (id : String)
    (interrupted : Bool) : ofMember member (orAbsent out id interrupted) = ofMember member out := by
  have hout : out ≠ [] := by
    rintro rfl
    exact h rfl
  rw [orAbsent, if_neg (by simpa using hout)]

/-- A run with a summary leads to every finding. -/
theorem findingOf_some {session : Session} {member : String} {ev : EvidenceRef}
    (hev : firstSummarised session member = some ev) (s : SweepFinding) :
    ∃ g, findingOf s ev = some g ∧ g.memberId = some member := by
  have hfound := List.find?_some hev
  simp only [decide_eq_true_eq] at hfound
  obtain ⟨sum, hsum⟩ := Option.isSome_iff_exists.mp hfound.2
  simp [findingOf, stamped, fromSummary, hsum, hfound.1]

/-- Of each member with a summarised run, each finding is there once, and is that run's. -/
theorem block_of {session : Session} {member : String} {ev : EvidenceRef}
    (hev : firstSummarised session member = some ev) (interrupted : Bool) (s : SweepFinding) :
    ofMember member (block session interrupted s) = (findingOf s ev).toList := by
  have hout : ∀ s : SweepFinding,
      ofMember member (perMember (fromSummary s.id s.outcome) [] (characterizations session)) = (findingOf s ev).toList := by
    intro s
    rw [perMember_finding, hev]
    rfl
  have hne : ∀ s : SweepFinding, (findingOf s ev).toList ≠ [] := by
    intro s
    obtain ⟨g, hg, -⟩ := findingOf_some hev s
    simp [hg]
  have hswept : ∀ s : SweepFinding, ofMember member (sweptFinding s session interrupted) = (findingOf s ev).toList := by
    intro s
    rw [sweptFinding, ofMember_orAbsent (by rw [hout]; exact hne s), hout]
  cases s with
  | headerControl =>
    have hmember : member ∈ (perMember (fromSummary headerControl.id headerControlOutcome) []
        (characterizations session)).filterMap (·.memberId) := by
      obtain ⟨g, hg, hgm⟩ := findingOf_some hev headerControl
      have hmem : g ∈ ofMember member (perMember (fromSummary headerControl.id headerControlOutcome) []
          (characterizations session)) := by
        rw [show headerControlOutcome = headerControl.outcome from rfl, hout headerControl, hg]
        simp
      exact List.mem_filterMap.mpr ⟨g, (List.mem_filter.mp hmem).1, hgm⟩
    have hverified : ∀ derive (swept : List String), member ∈ swept →
        ofMember member (perMember derive [] ((verifies session).filter fun ev => decide (ev.memberId ∉ swept))) = [] := by
      intro derive swept hin
      rw [perMember_of (by simp), List.filter_filter]
      have hnone : (verifies session).filter (fun ev => decide (ev.memberId = member) && decide (ev.memberId ∉ swept)) = [] := by
        refine List.filter_eq_nil_iff.mpr fun ev _ => ?_
        simp only [Bool.and_eq_true, decide_eq_true_eq, not_and, not_not]
        rintro rfl
        exact hin
      rw [hnone]
      rfl
    have hall : ∀ verified, ofMember member verified = [] →
        ofMember member (orAbsent (perMember (fromSummary headerControl.id headerControlOutcome) []
          (characterizations session) ++ verified) headerControl.id interrupted) = (findingOf headerControl ev).toList := by
      intro verified hv
      have happ : ofMember member (perMember (fromSummary headerControl.id headerControlOutcome) []
          (characterizations session) ++ verified) = (findingOf headerControl ev).toList := by
        rw [ofMember_append, hv, List.append_nil]
        exact hout headerControl
      rw [ofMember_orAbsent (by rw [happ]; exact hne headerControl), happ]
    exact hall _ (hverified _ _ hmember)
  | readback =>
    have hread : ofMember member (perMember (fromSummary readback.id readbackOutcome) [] (characterizations session)) =
        (findingOf readback ev).toList := hout readback
    have hfull : (perMember (fromSummary readback.id readbackOutcome) [] (characterizations session)).isEmpty = false := by
      cases hp : perMember (fromSummary readback.id readbackOutcome) [] (characterizations session) with
      | nil =>
        rw [hp] at hread
        exact absurd hread.symm (hne readback)
      | cons f fs => rfl
    simp only [block, pwmReadback, hfull, Bool.not_false, if_true]
    exact hread
  | response => exact hswept response
  | hysteresis => exact hswept hysteresis
  | stability =>
    have hderive : (fun ev => if (summaryOf ev).any (·.stabilityVerdict = "") then none
        else fromSummary stability.id stabilityOutcome ev) = fromSummary stability.id stabilityOutcome :=
      funext stability_derive
    have hblock : block session interrupted stability = sweptFinding stability session interrupted := by
      simp only [block, stabilityFinding, hderive]
      rfl
    rw [hblock]
    exact hswept stability
  | effectiveRange => exact hswept effectiveRange
  | learnedRange => exact hswept learnedRange
  | override => exact hswept override

/-- A member's first summarised run depends on its own evidence only. -/
theorem firstSummarised_congr {session session' : Session} {member : String}
    (h : session'.evidence.filter (·.memberId = member) = session.evidence.filter (·.memberId = member)) :
    firstSummarised session' member = firstSummarised session member := by
  have hfind : ∀ evidence : List EvidenceRef,
      (evidence.filter fun ev => decide (ev.kind = .characterization ∨ ev.kind = .behaviour)).find?
          (fun ev => decide (ev.memberId = member ∧ (summaryOf ev).isSome)) =
        (evidence.filter (·.memberId = member)).find?
          fun ev => decide ((ev.kind = .characterization ∨ ev.kind = .behaviour) ∧ (summaryOf ev).isSome) := by
    intro evidence
    rw [List.find?_filter, List.find?_filter]
    congr 1
    funext ev
    by_cases hm : ev.memberId = member <;> simp [hm]
  exact (hfind session'.evidence).trans ((congrArg _ h).trans (hfind session.evidence).symm)

theorem perMember_nil {derive : EvidenceRef → Option ValidationFinding} {evidence : List EvidenceRef}
    (h : ∀ ev ∈ evidence, derive ev = none) (done : List String) : perMember derive done evidence = [] := by
  induction evidence with
  | nil => rfl
  | cons ev evidence ih =>
    have hrest := ih fun ev' hev' => h ev' (List.mem_cons_of_mem _ hev')
    simp [perMember, h ev List.mem_cons_self, hrest]

/-- Without a summarised run, a finding says that nothing was tested, unless other evidence stands in for it. -/
theorem block_absent {session : Session} (h : ∀ ev ∈ characterizations session, summaryOf ev = none) (interrupted : Bool)
    (s : SweepFinding) (hverify : s = headerControl → verifies session = [])
    (hsamples : s = readback → session.samples = []) :
    block session interrupted s = [finding s.id (absentState interrupted)] := by
  have hnone : ∀ id outcome, perMember (fromSummary id outcome) [] (characterizations session) = [] := fun id outcome =>
    perMember_nil (fun ev hev => by simp [fromSummary, h ev hev]) []
  have hswept : ∀ s : SweepFinding, sweptFinding s session interrupted = [finding s.id (absentState interrupted)] := by
    intro s
    rw [sweptFinding, hnone]
    rfl
  cases s with
  | headerControl => simp [block, pwmHeaderControl, hnone, hverify rfl, perMember, orAbsent]
  | readback => simp [block, pwmReadback, hnone, hsamples rfl]
  | response => exact hswept response
  | hysteresis => exact hswept hysteresis
  | stability =>
    simp only [block, stabilityFinding]
    rw [perMember_nil (fun ev hev => by simp [fromSummary, h ev hev]) []]
    rfl
  | effectiveRange => exact hswept effectiveRange
  | learnedRange => exact hswept learnedRange
  | override => exact hswept override

/-! ## What the tokens come to -/

def pointsOf (ev : EvidenceRef) : List SweptPoint := (ev.characterization.map (·.points)).getD []

/-- The readings of a run are further apart than what counts as a response. -/
def Responded (points : List SweptPoint) : Prop :=
  ∃ lo hi, minRpm (rpmsOf points) = some lo ∧ maxRpm (rpmsOf points) = some hi ∧ responseThreshold lo < hi - lo

theorem rpmsOf_eq_nil {points : List SweptPoint} : rpmsOf points = [] ↔ ∀ p ∈ points, p.rpmAfter = none := by
  simp [rpmsOf, List.filterMap_eq_nil_iff]

/-- The summary of a run is the one of its points. -/
theorem summaryOf_derived {ev : EvidenceRef} {sum : CharSummary} (h : summaryOf ev = some sum) :
    sum.rpmResponse = Diagnostics.Sweep.rpmResponse (rpmsOf (pointsOf ev)) ∧
      sum.commandAcceptance = Diagnostics.Sweep.commandAcceptance (pointsOf ev) := by
  obtain ⟨run, hrun, hsum⟩ := Option.bind_eq_some_iff.mp h
  obtain ⟨learned, driver, rfl⟩ := run.derived sum hsum
  simp [pointsOf, hrun, Diagnostics.Sweep.summarise]

/-- The state of a finding of a run. -/
theorem findingOf_state {s : SweepFinding} {ev : EvidenceRef} {g : ValidationFinding} (h : findingOf s ev = some g) :
    ∃ sum, summaryOf ev = some sum ∧ g.state = (s.outcome sum).1 := by
  obtain ⟨f, hf, rfl⟩ := Option.map_eq_some_iff.mp h
  obtain ⟨sum, hsum, rfl⟩ := Option.map_eq_some_iff.mp hf
  exact ⟨sum, hsum, rfl⟩

/-- A run with a reading is reported as unknown, whatever its fan did. -/
theorem response_state {ev : EvidenceRef} {g : ValidationFinding} (h : findingOf response ev = some g) :
    g.state = if rpmsOf (pointsOf ev) = [] then "unavailable" else "unknown" := by
  obtain ⟨sum, hsum, hstate⟩ := findingOf_state h
  have htoken := (summaryOf_derived hsum).1
  rw [hstate]
  simp only [SweepFinding.outcome, responseOutcome, htoken]
  cases hr : rpmsOf (pointsOf ev) with
  | nil => simp [Diagnostics.Sweep.rpmResponse, minRpm, maxRpm]
  | cons r rs =>
    have hlo : ∃ lo, minRpm (r :: rs) = some lo := ⟨_, List.min?_cons'⟩
    have hhi : ∃ hi, maxRpm (r :: rs) = some hi := ⟨_, List.max?_cons'⟩
    obtain ⟨lo, hlo⟩ := hlo
    obtain ⟨hi, hhi⟩ := hhi
    have htok : Diagnostics.Sweep.rpmResponse (r :: rs) = "responsive" ∨ Diagnostics.Sweep.rpmResponse (r :: rs) = "no_response" := by
      unfold Diagnostics.Sweep.rpmResponse
      rw [hlo, hhi]
      dsimp only
      split
      · exact .inl rfl
      · exact .inr rfl
    rcases htok with htok | htok <;> simp [htok]

theorem responded_nil {points : List SweptPoint} (h : rpmsOf points = []) : ¬ Responded points := by
  rintro ⟨lo, hi, hlo, -⟩
  simp [h, minRpm] at hlo

/-- A header is reported by how many of its commands were accepted. -/
theorem control_state {ev : EvidenceRef} {g : ValidationFinding} (h : findingOf headerControl ev = some g) :
    (g.state = "pass" ↔ pointsOf ev ≠ [] ∧ ∀ p ∈ pointsOf ev, p.commandAccepted = true) ∧
      (g.state = "fail" ↔ ∀ p ∈ pointsOf ev, p.commandAccepted = false) := by
  obtain ⟨sum, hsum, hstate⟩ := findingOf_state h
  have htoken := (summaryOf_derived hsum).2
  have hzero : (pointsOf ev).countP (·.commandAccepted) = 0 ↔ ∀ p ∈ pointsOf ev, p.commandAccepted = false := by
    simp [List.countP_eq_zero]
  have hall : (pointsOf ev).countP (·.commandAccepted) = (pointsOf ev).length ↔
      ∀ p ∈ pointsOf ev, p.commandAccepted = true := List.countP_eq_length
  rw [hstate]
  by_cases hnone : pointsOf ev = [] ∨ (pointsOf ev).countP (·.commandAccepted) = 0
  · have htok : Diagnostics.Sweep.commandAcceptance (pointsOf ev) = "fail" := if_pos hnone
    have hno : ∀ p ∈ pointsOf ev, p.commandAccepted = false := by
      rcases hnone with hnil | h0
      · simp [hnil]
      · exact hzero.mp h0
    have hfail : (SweepFinding.outcome headerControl sum).1 = "fail" := by
      simp only [SweepFinding.outcome, headerControlOutcome, htoken, htok]
      decide
    rw [hfail]
    refine ⟨⟨fun h => absurd h (by decide), fun ⟨hne, hyes⟩ => ?_⟩, ⟨fun _ => hno, fun _ => rfl⟩⟩
    obtain ⟨p, hp⟩ := List.exists_mem_of_ne_nil _ hne
    exact absurd ((hno p hp).symm.trans (hyes p hp)) (by decide)
  · obtain ⟨hnil, h0⟩ := not_or.mp hnone
    have hsome := mt hzero.mpr h0
    by_cases hlen : (pointsOf ev).countP (·.commandAccepted) = (pointsOf ev).length
    · have htok : Diagnostics.Sweep.commandAcceptance (pointsOf ev) = "pass" := (if_neg hnone).trans (if_pos hlen)
      have hpass : (SweepFinding.outcome headerControl sum).1 = "pass" := by
        simp only [SweepFinding.outcome, headerControlOutcome, htoken, htok]
        decide
      rw [hpass]
      exact ⟨⟨fun _ => ⟨hnil, hall.mp hlen⟩, fun _ => rfl⟩, ⟨fun h => absurd h (by decide), fun h => absurd h hsome⟩⟩
    · have htok : Diagnostics.Sweep.commandAcceptance (pointsOf ev) = "partial" := (if_neg hnone).trans (if_neg hlen)
      have hunknown : (SweepFinding.outcome headerControl sum).1 = "unknown" := by
        simp only [SweepFinding.outcome, headerControlOutcome, htoken, htok]
        decide
      rw [hunknown]
      exact ⟨⟨fun h => absurd h (by decide), fun h => absurd (hall.mpr h.2) hlen⟩,
        ⟨fun h => absurd h (by decide), fun h => absurd h hsome⟩⟩

/-! ## Whether the report is right -/

/-- The findings of a report under the id of `s` for one member. -/
def reported (session : Session) (others : OtherFindings) (s : SweepFinding) (member : String) : List ValidationFinding :=
  ofMember member (under s (summarise session others))

/-- What a report promises of the sweeps of its session. -/
structure SaysWhatWasMeasured (session : Session) (others : OtherFindings) : Prop where
  once : ∀ member ev, firstSummarised session member = some ev → ∀ s, ∃ g, findingOf s ev = some g ∧
    reported session others s member = [g]
  own : ∀ member ev, firstSummarised session member = some ev → ∀ (session' : Session) (others' : OtherFindings),
    session'.evidence.filter (·.memberId = member) = session.evidence.filter (·.memberId = member) →
    ∀ s, reported session' others' s member = reported session others s member
  response : ∀ member ev, firstSummarised session member = some ev → ∀ f ∈ reported session others response member,
    (f.state = "pass" ↔ Responded (pointsOf ev)) ∧
      (f.state = "unavailable" ↔ ∀ p ∈ pointsOf ev, p.rpmAfter = none) ∧ f.state ≠ "unknown"
  control : ∀ member ev, firstSummarised session member = some ev → ∀ f ∈ reported session others headerControl member,
    (f.state = "pass" ↔ pointsOf ev ≠ [] ∧ ∀ p ∈ pointsOf ev, p.commandAccepted = true) ∧
      (f.state = "fail" ↔ ∀ p ∈ pointsOf ev, p.commandAccepted = false)
  absent : (∀ ev ∈ characterizations session, summaryOf ev = none) → ∀ s, (s = headerControl → verifies session = []) →
    (s = readback → session.samples = []) →
    under s (summarise session others) = [finding s.id (absentState (isInterrupted session))]

section Right

variable {session : Session} {others : OtherFindings}

theorem reported_of {member : String} {ev : EvidenceRef} (hev : firstSummarised session member = some ev)
    (s : SweepFinding) : reported session others s member = (findingOf s ev).toList := by
  rw [reported, summarise_of, block_of hev]

/-- The report is right just where no run it rests on has a reading. -/
theorem saysWhatWasMeasured_iff : SaysWhatWasMeasured session others ↔
    ∀ member ev, firstSummarised session member = some ev → ∀ p ∈ pointsOf ev, p.rpmAfter = none := by
  constructor
  · intro h member ev hev
    by_contra hread
    obtain ⟨g, hg, hreported⟩ := h.once member ev hev response
    obtain ⟨-, -, hknown⟩ := h.response member ev hev g (by rw [hreported]; simp)
    rw [response_state hg, if_neg (mt rpmsOf_eq_nil.mp hread)] at hknown
    exact hknown rfl
  · intro hsilent
    refine ⟨?_, ?_, ?_, ?_, ?_⟩
    · intro member ev hev s
      obtain ⟨g, hg, -⟩ := findingOf_some hev s
      exact ⟨g, hg, by rw [reported_of hev, hg]; rfl⟩
    · intro member ev hev session' others' hown s
      rw [reported_of hev, reported_of ((firstSummarised_congr hown).trans hev)]
    · intro member ev hev f hf
      rw [reported_of hev, Option.mem_toList] at hf
      have hnil := rpmsOf_eq_nil.mpr (hsilent member ev hev)
      have hstate : f.state = "unavailable" := by rw [response_state hf, if_pos hnil]
      rw [hstate]
      exact ⟨⟨fun h => absurd h (by decide), fun h => absurd h (responded_nil hnil)⟩,
        ⟨fun _ => hsilent member ev hev, fun _ => rfl⟩, by decide⟩
    · intro member ev hev f hf
      rw [reported_of hev, Option.mem_toList] at hf
      exact control_state hf
    · intro habsent s hverify hsamples
      rw [summarise_of, block_absent habsent _ s hverify hsamples]

end Right

/-- A session's report says what its sweeps measured (one finding of each kind for each member with a summarised
run, from the first of them and whatever the others' runs; the response passed just where it was one, and never
unknown; the header control by the accepted commands; nothing tested where nothing was summarised) just where no
first summarised run of a member has a tach reading. -/
theorem sweep_report_iff (session : Session) (others : OtherFindings) : SaysWhatWasMeasured session others ↔
    ∀ member ev, firstSummarised session member = some ev → ∀ p ∈ pointsOf ev, p.rpmAfter = none :=
  saysWhatWasMeasured_iff

/-- A sweep of a fan that follows its header, and the session that recorded it. -/
def followingRun : CharacterizationRun :=
  let points : List SweptPoint :=
    [{ requestedPct := 30, commandAccepted := true, rpmBefore := some 600, rpmAfter := some 600, direction := .rising,
       stepIndex := 0, readbackVerdict := "pass" },
     { requestedPct := 100, commandAccepted := true, rpmBefore := some 600, rpmAfter := some 1800, direction := .rising,
       stepIndex := 1, readbackVerdict := "pass" }]
  { points := points
    summary := some (Diagnostics.Sweep.summarise points [] none)
    derived := fun _ h => ⟨[], none, (Option.some.inj h).symm⟩ }

def followingSession : Session :=
  { ValidationSession.new (K := reportKinds) 1 true () 0 with
    state := .completed
    evidence := [⟨.characterization, "cpu_fan", some followingRun, none⟩] }

theorem following_sweep_is_not_reported_as_response :
    ¬ SaysWhatWasMeasured followingSession ⟨[], [], [], [], [], by simp⟩ := by
  rw [saysWhatWasMeasured_iff]
  intro h
  exact absurd (h "cpu_fan" ⟨.characterization, "cpu_fan", some followingRun, none⟩ rfl _ List.mem_cons_self) (by decide)

end ControlOfc.Validation
