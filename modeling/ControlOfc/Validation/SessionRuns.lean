import ControlOfc.Validation.SessionLife
/-! # Who ends a session, and what its document holds

Two steps go wrong. A tick that reached its session's cap lets go of the slot and then finishes whatever is
there; and a start saves its own first copy behind no lock, whatever was saved of that session meanwhile.
-/
namespace ControlOfc.Validation

variable {K : Kinds}

namespace Engine

/-! ## What a step may do to the session in the slot -/

/-- The session is still there: as it was once it is finalised, else still recording. -/
def Stays (s : ValidationSession K) (w' : Engine K) : Prop :=
  ∃ s', w'.slot = some s' ∧ s'.sessionId = s.sessionId ∧ s'.isRecording = s.isRecording ∧ (s.isRecording = false → s' = s)

/-- What may end the session in the slot, or take its place there. -/
def EndsBy (w : Engine K) (s : ValidationSession K) : Event K → Prop
  | .stop _ _ | .cancel _ _ => s.isRecording = true
  | .stopIf _ sessionId _ => sessionId = s.sessionId ∧ s.isRecording = true
  | .finishCapped _ => w.pcs .recorder = .capped s.sessionId ∧ K.maxSamplesFor s.metadata ≤ s.samples.length ∧ s.isRecording = true
  | .startLocked _ _ _ => s.isRecording = true → s.autoStarted = true
  | .advance c _ => w.pcs c = .rollingBack s.sessionId
  | .reboot _ _ => True
  | .start _ _ _ _ _ | .pushEvent _ _ _ | .pushEventFor _ _ _ _ | .attachEvidenceFor _ _ _ | .flushRecording _
  | .tick _ _ _ => False

/-- A session stays unless its own end comes. -/
def EndAllowed (w : Engine K) (e : Event K) : Prop := ∀ s, w.slot = some s → Stays s (w.step e) ∨ EndsBy w s e

/-- No tick that reached its session's cap finishes while another session records. -/
def CapInTime (w : Engine K) (e : Event K) : Prop :=
  ∀ now, e = .finishCapped now → ∀ id, w.pcs .recorder = .capped id → ∀ s, w.slot = some s → s.isRecording = true →
    s.sessionId = id

/-- A document that is terminal stays. -/
def DocumentKept (w : Engine K) (e : Event K) : Prop :=
  ∀ id d, w.documents id = some d → d.isTerminal = true → (w.step e).documents id = some d

/-- No start's own save lands after the finalised document of its session did. -/
def SaveInTime (w : Engine K) (e : Event K) : Prop :=
  ∀ c, e = .advance c true → ∀ started, w.pcs c = .saving started → ∀ d, w.documents started.sessionId = some d →
    d.isTerminal = false

/-- An entry for a session goes to that session, while it records. -/
def NamedOnly (w : Engine K) (e : Event K) : Prop :=
  (∀ c id now note, e = .pushEventFor c id now note → (w.step e).documents = w.documents ∧ ((w.step e).slot = w.slot ∨
    ∃ s, w.slot = some s ∧ s.sessionId = id ∧ s.isRecording = true ∧ (w.step e).slot = some (s.pushEvent now note))) ∧
  ∀ c id ev, e = .attachEvidenceFor c id ev → (w.step e).documents = w.documents ∧ ((w.step e).slot = w.slot ∨
    ∃ s, w.slot = some s ∧ s.sessionId = id ∧ s.isRecording = true ∧ (w.step e).slot = some (s.attach ev))

section Slot

variable {w : Engine K} {s : ValidationSession K}

theorem Stays.of_slot {w' : Engine K} (h : w'.slot = some s) : Stays s w' := ⟨s, h, rfl, rfl, fun _ => rfl⟩

theorem Stays.of_grows {w' : Engine K} {s' : ValidationSession K} (h : w'.slot = some s') (hrec : s.isRecording = true)
    (hgrows : s.Grows s') : Stays s w' :=
  ⟨s', h, hgrows.sessionId, hgrows.isRecording, fun hnot => absurd (hnot.symm.trans hrec) Bool.false_ne_true⟩

/-- A `finish` changes the slot only where it records. -/
theorem finish_slot (hslot : w.slot = some s) (c : Caller) (now : Nat) (state : SessionState) (how : End)
    (answers : Option (ValidationSession K) → Answer K) :
    (w.finish c now state how answers).slot = if s.isRecording then some (s.finalise now state none) else some s := by
  unfold Engine.finish
  rw [hslot]
  dsimp only
  split
  · rfl
  · exact hslot

theorem finish_stays (hslot : w.slot = some s) (c : Caller) (now : Nat) (state : SessionState) (how : End)
    (answers : Option (ValidationSession K) → Answer K) :
    Stays s (w.finish c now state how answers) ∨ s.isRecording = true := by
  cases hrec : s.isRecording with
  | true => exact .inr rfl
  | false =>
    left
    refine .of_slot ?_
    rw [finish_slot hslot, hrec]
    rfl

theorem stopIf_stays (hslot : w.slot = some s) (c : Caller) (sessionId now : Nat) :
    Stays s (w.stopIf c sessionId now) ∨ sessionId = s.sessionId ∧ s.isRecording = true := by
  unfold Engine.stopIf
  rw [hslot]
  dsimp only
  split
  · exact .inl (.of_slot hslot)
  · next hours =>
    rw [not_or, not_not, Bool.not_eq_false] at hours
    exact .inr ⟨hours.1.symm, hours.2⟩

theorem startLocked_stays (hslot : w.slot = some s) (c : Caller) (session : ValidationSession K) (updating : Bool) (now : Nat) :
    Stays s (w.startLocked c session updating now) ∨ (s.isRecording = true → s.autoStarted = true) := by
  unfold Engine.startLocked
  split
  · exact .inl (.of_slot hslot)
  · rw [hslot]
    dsimp only
    split
    · split
      · exact .inl (.of_slot hslot)
      · next hauto => exact .inr fun _ => by simpa using hauto
    · next hrec => exact .inr fun htrue => absurd htrue hrec

theorem pushEvent_stays (hslot : w.slot = some s) (c : Caller) (now : Nat) (note : Note) :
    Stays s (w.pushEvent c now note) := by
  unfold Engine.pushEvent
  rw [hslot]
  dsimp only
  split
  · exact .of_slot hslot
  · next hrec =>
    split
    · exact .of_slot hslot
    · exact .of_grows rfl (by simpa using hrec) (s.pushEvent_grows now note)

theorem pushEventFor_slot (w : Engine K) (c : Caller) (sessionId now : Nat) (note : Note) :
    (w.pushEventFor c sessionId now note).documents = w.documents ∧ ((w.pushEventFor c sessionId now note).slot = w.slot ∨
      ∃ s, w.slot = some s ∧ s.sessionId = sessionId ∧ s.isRecording = true ∧
        (w.pushEventFor c sessionId now note).slot = some (s.pushEvent now note)) := by
  unfold Engine.pushEventFor
  split
  · exact ⟨rfl, .inl rfl⟩
  · next s hslot =>
    split
    · exact ⟨rfl, .inl rfl⟩
    · next hours =>
      rw [not_or, not_not, Bool.not_eq_false] at hours
      exact ⟨rfl, .inr ⟨s, hslot, hours.1, hours.2, rfl⟩⟩

theorem attachEvidenceFor_slot (w : Engine K) (c : Caller) (sessionId : Nat) (ev : K.Evidence) :
    (w.attachEvidenceFor c sessionId ev).documents = w.documents ∧ ((w.attachEvidenceFor c sessionId ev).slot = w.slot ∨
      ∃ s, w.slot = some s ∧ s.sessionId = sessionId ∧ s.isRecording = true ∧
        (w.attachEvidenceFor c sessionId ev).slot = some (s.attach ev)) := by
  unfold Engine.attachEvidenceFor
  split
  · exact ⟨rfl, .inl rfl⟩
  · next s hslot =>
    split
    · exact ⟨rfl, .inl rfl⟩
    · next hours =>
      rw [not_or, not_not, Bool.not_eq_false] at hours
      exact ⟨rfl, .inr ⟨s, hslot, hours.1, hours.2, rfl⟩⟩

theorem flushRecording_slot (w : Engine K) (c : Caller) : (w.flushRecording c).slot = w.slot := by
  unfold Engine.flushRecording
  split
  · rfl
  · split <;> rfl

theorem tick_stays (hslot : w.slot = some s) (now : Nat) (reading : K.Reading) (notes : List Note) :
    Stays s (w.tick now reading notes) := by
  unfold Engine.tick
  rw [hslot]
  dsimp only
  split
  · exact .of_slot hslot
  · next hrec =>
    rw [Bool.not_eq_false] at hrec
    obtain ⟨hgrows, -⟩ := s.sampled_grows now reading notes
    split
    · exact .of_grows rfl hrec (hgrows.trans ((s.sampled now reading notes).capped_grows now).1)
    · split <;> exact .of_grows rfl hrec hgrows

theorem proceed_frame (w : Engine K) (c : Caller) (next : Next K) :
    (w.proceed c next).slot = w.slot ∧ (w.proceed c next).documents = w.documents := by
  cases next <;> exact ⟨rfl, rfl⟩

theorem rollback_frame (w : Engine K) (c : Caller) (sessionId : Nat) : (w.rollback c sessionId).documents = w.documents ∧
    ∀ s, w.slot = some s → (w.rollback c sessionId).slot = some s ∨ s.sessionId = sessionId := by
  unfold Engine.rollback
  split
  · next hslot => exact ⟨rfl, fun s hs => by cases hslot.symm.trans hs⟩
  · next s' hslot =>
    split
    · next hid =>
      refine ⟨rfl, fun s hs => .inr ?_⟩
      obtain rfl := Option.some.inj (hslot.symm.trans hs)
      exact hid
    · exact ⟨rfl, fun s hs => .inl hs⟩

theorem advance_stays (hslot : w.slot = some s) (c : Caller) (landed : Bool) :
    Stays s (w.advance c landed) ∨ w.pcs c = .rollingBack s.sessionId := by
  unfold Engine.advance
  split
  · split <;> exact .inl (.of_slot hslot)
  · split
    · exact .inl (.of_slot hslot)
    · exact .inl (.of_slot ((proceed_frame _ c _).1.trans hslot))
  · exact .inl (.of_slot ((proceed_frame _ c _).1.trans hslot))
  · split <;> exact .inl (.of_slot hslot)
  · next sessionId hpc =>
    rcases (rollback_frame w c sessionId).2 s hslot with hkept | rfl
    · exact .inl (.of_slot hkept)
    · exact .inr hpc
  · exact .inl (.of_slot hslot)
  · exact .inl (.of_slot hslot)
  · exact .inl (.of_slot hslot)

end Slot

section Ends

variable {w : Engine K}

/-- Under the invariant, a session ends out of turn exactly by a late finish of another's cap. -/
theorem Inv.endAllowed_iff (h : w.Inv) (e : Event K) : w.EndAllowed e ↔ w.CapInTime e := by
  constructor
  · rintro hallowed now rfl id hpc s hslot hrec
    have hgone : ¬ Stays s (w.step (.finishCapped now)) := by
      rintro ⟨s', hs', -, hsame, -⟩
      have hstep : (w.step (.finishCapped now)).slot = some (s.finalise now .completed none) := by
        simp only [Engine.step, hpc]
        rw [finish_slot hslot, hrec]
        rfl
      obtain rfl := Option.some.inj (hstep.symm.trans hs')
      exact Bool.false_ne_true (hsame.trans hrec)
    rcases hallowed s hslot with hstays | hends
    · exact absurd hstays hgone
    · exact (Pc.capped.inj (hpc.symm.trans hends.1)).symm
  · intro hintime s hslot
    have hkeeps : ∀ w' : Engine K, w'.slot = w.slot → Stays s w' := fun w' hw' => .of_slot (hw'.trans hslot)
    cases e with
    | start c sessionId autoStarted metadata startedUnixMs =>
      left
      simp only [Engine.step]
      split <;> exact hkeeps _ rfl
    | startLocked c updating now =>
      simp only [Engine.step]
      split
      · next session _ => exact startLocked_stays hslot c session updating now
      · exact .inl (hkeeps _ rfl)
    | stop c now =>
      simp only [Engine.step]
      split
      · exact finish_stays hslot c now _ _ _
      · exact .inl (hkeeps _ rfl)
    | cancel c now =>
      simp only [Engine.step]
      split
      · exact finish_stays hslot c now _ _ _
      · exact .inl (hkeeps _ rfl)
    | stopIf c sessionId now =>
      simp only [Engine.step]
      split
      · exact stopIf_stays hslot c sessionId now
      · exact .inl (hkeeps _ rfl)
    | pushEvent c now note =>
      left
      simp only [Engine.step]
      split
      · exact pushEvent_stays hslot c now note
      · exact hkeeps _ rfl
    | pushEventFor c sessionId now note =>
      left
      simp only [Engine.step]
      split
      · rcases (pushEventFor_slot w c sessionId now note).2 with hsame | ⟨x, hx, -, hrec, hnew⟩
        · exact hkeeps _ hsame
        · obtain rfl := Option.some.inj (hslot.symm.trans hx)
          exact .of_grows hnew hrec (s.pushEvent_grows now note)
      · exact hkeeps _ rfl
    | attachEvidenceFor c sessionId ev =>
      left
      simp only [Engine.step]
      split
      · rcases (attachEvidenceFor_slot w c sessionId ev).2 with hsame | ⟨x, hx, -, hrec, hnew⟩
        · exact hkeeps _ hsame
        · obtain rfl := Option.some.inj (hslot.symm.trans hx)
          exact .of_grows hnew hrec (s.attach_grows ev)
      · exact hkeeps _ rfl
    | flushRecording c =>
      left
      simp only [Engine.step]
      split
      · exact hkeeps _ (flushRecording_slot w c)
      · exact hkeeps _ rfl
    | tick now reading notes =>
      left
      simp only [Engine.step]
      split
      · exact tick_stays hslot now reading notes
      · exact hkeeps _ rfl
    | finishCapped now =>
      simp only [Engine.step]
      split
      · next id hpc =>
        rcases finish_stays hslot .recorder now .completed .atCap fun _ => .ticked true with hstays | hrec
        · exact .inl hstays
        · obtain rfl := hintime now rfl id hpc s hslot hrec
          have hsound := h.pcs .recorder
          rw [hpc] at hsound
          exact .inr ⟨hpc, hsound.2 s hslot rfl, hrec⟩
      · exact .inl (hkeeps _ rfl)
    | advance c landed => exact advance_stays hslot c landed
    | reboot repaired now => exact .inr trivial

/-! ## Documents -/

/-- Only a save that lands writes a document, until the next boot. -/
theorem step_documents (w : Engine K) (e : Event K) (id : Nat) (d : ValidationSession K) (hd : w.documents id = some d)
    (hterminal : d.isTerminal = true) : (w.step e).documents id = some d ∨ ∃ c document, e = .advance c true ∧
      document.sessionId = id ∧ (w.step e).documents id = some document ∧
      ((∃ next, w.pcs c = .persisting document .writing next) ∨ w.pcs c = .saving document) := by
  have hfinish : ∀ c now state how answers, (w.finish c now state how answers).documents = w.documents := by
    intro c now state how answers
    unfold Engine.finish
    split
    · rfl
    · split <;> rfl
  cases e with
  | start c sessionId autoStarted metadata startedUnixMs =>
    left
    simp only [Engine.step]
    split <;> exact hd
  | startLocked c updating now =>
    left
    simp only [Engine.step]
    split
    · unfold Engine.startLocked
      split
      · exact hd
      · split
        · exact hd
        · split
          · split <;> exact hd
          · exact hd
    · exact hd
  | stop c now =>
    left
    simp only [Engine.step]
    split
    · rw [hfinish]
      exact hd
    · exact hd
  | cancel c now =>
    left
    simp only [Engine.step]
    split
    · rw [hfinish]
      exact hd
    · exact hd
  | stopIf c sessionId now =>
    left
    simp only [Engine.step]
    split
    · unfold Engine.stopIf
      split
      · exact hd
      · split <;> exact hd
    · exact hd
  | pushEvent c now note =>
    left
    simp only [Engine.step]
    split
    · unfold Engine.pushEvent
      split
      · exact hd
      · split
        · exact hd
        · split <;> exact hd
    · exact hd
  | pushEventFor c sessionId now note =>
    left
    simp only [Engine.step]
    split
    · rw [(pushEventFor_slot w c sessionId now note).1]
      exact hd
    · exact hd
  | attachEvidenceFor c sessionId ev =>
    left
    simp only [Engine.step]
    split
    · rw [(attachEvidenceFor_slot w c sessionId ev).1]
      exact hd
    · exact hd
  | flushRecording c =>
    left
    simp only [Engine.step]
    split
    · unfold Engine.flushRecording
      split
      · exact hd
      · split <;> exact hd
    · exact hd
  | tick now reading notes =>
    left
    simp only [Engine.step]
    split
    · unfold Engine.tick
      split
      · exact hd
      · split
        · exact hd
        · dsimp only
          split
          · exact hd
          · split <;> exact hd
    · exact hd
  | finishCapped now =>
    left
    simp only [Engine.step]
    split
    · rw [hfinish]
      exact hd
    · exact hd
  | advance c landed =>
    simp only [Engine.step]
    unfold Engine.advance
    split
    · left
      split <;> exact hd
    · left
      split
      · exact hd
      · rw [(proceed_frame _ c _).2]
        exact hd
    · next document next hpc =>
      rw [(proceed_frame _ c _).2]
      cases landed with
      | false => exact .inl hd
      | true =>
        by_cases hid : document.sessionId = id
        · exact .inr ⟨c, document, rfl, hid, by simp [hid], .inl ⟨next, hpc⟩⟩
        · left
          simpa [Ne.symm hid] using hd
    · next started hpc =>
      cases landed with
      | false => exact .inl hd
      | true =>
        by_cases hid : started.sessionId = id
        · exact .inr ⟨c, started, rfl, hid, by simp [answer, Engine.setPc, hid], .inr hpc⟩
        · left
          simpa [answer, Engine.setPc, Ne.symm hid] using hd
    · next sessionId hpc =>
      left
      rw [(rollback_frame w c sessionId).1]
      exact hd
    · exact .inl hd
    · exact .inl hd
    · exact .inl hd
  | reboot repaired now =>
    left
    simp [Engine.step, Engine.reboot, sweepInterrupted, hd, ValidationSession.not_isRecording_of_isTerminal hterminal]

/-- Under the invariant, a terminal document is lost exactly to a late first save. -/
theorem Inv.documentKept_iff (h : w.Inv) (e : Event K) : w.DocumentKept e ↔ w.SaveInTime e := by
  constructor
  · rintro hkept c rfl started hpc d hd
    by_contra hterminal
    rw [Bool.not_eq_false] at hterminal
    have hsame := hkept _ d hd hterminal
    have hstarted : (w.step (.advance c true)).documents started.sessionId = some started := by
      simp [Engine.step, Engine.advance, hpc, Engine.answer, Engine.setPc]
    have hsound := h.pcs c
    rw [hpc] at hsound
    obtain rfl := Option.some.inj (hstarted.symm.trans hsame)
    exact Bool.false_ne_true ((ValidationSession.not_isRecording_of_isTerminal hterminal).symm.trans hsound)
  · intro hintime id d hd hterminal
    rcases step_documents w e id d hd hterminal with hkept | ⟨c, document, rfl, hid, hnew, ⟨next, hpc⟩ | hpc⟩
    · exact hkept
    · have hsound := h.pcs c
      rw [hpc] at hsound
      rw [hnew]
      subst hid
      cases hrec : document.isRecording with
      | true =>
        have hopen := hsound.2.1 rfl hrec d hd
        exact absurd ((ValidationSession.not_isRecording_of_isTerminal hterminal).symm.trans hopen) Bool.false_ne_true
      | false =>
        refine congrArg some (h.copies.same document d ?_ (.document hd) (h.copies.filed _ d hd).symm ?_ hterminal)
        · exact .carried (c := c) (by rw [hpc]; exact .inl rfl)
        · exact ValidationSession.isTerminal_of_not_isRecording hrec
    · subst hid
      exact absurd (hterminal.symm.trans (hintime c rfl document hpc d hd)) (fun h => by cases h)

end Ends

theorem namedOnly (w : Engine K) (e : Event K) : w.NamedOnly e := by
  constructor
  · rintro c id now note rfl
    simp only [Engine.step]
    split
    · exact pushEventFor_slot w c id now note
    · exact ⟨rfl, .inl rfl⟩
  · rintro c id ev rfl
    simp only [Engine.step]
    split
    · exact attachEvidenceFor_slot w c id ev
    · exact ⟨rfl, .inl rfl⟩

/-! ## Every run -/

/-- What holds in every state: one session is open at most, each ended at most once, and every copy has of its
session's entries those that name it: the slot's all of them, a finalised one all there ever are. -/
structure Safe (w : Engine K) : Prop where
  oneOpen : ∀ id ∈ w.installed, ∀ id' ∈ w.installed, id ∉ w.ended.map Prod.fst → id' ∉ w.ended.map Prod.fst → id = id'
  openRecords : ∀ id ∈ w.installed, id ∉ w.ended.map Prod.fst ↔ w.Records id
  endedOnce : (w.ended.map Prod.fst).Nodup
  slot : ∀ s, w.slot = some s →
    s.evidence = entriesOf w.attached s.sessionId ∧ List.Sublist (entriesOf w.pushed s.sessionId) s.events
  entries : ∀ s, w.Holds s → w.Entries s
  finalisedOnce : ∀ s s', w.Holds s → w.Holds s' → s.sessionId = s'.sessionId → s.isTerminal = true → s'.isTerminal = true → s = s'

theorem Inv.safe {w : Engine K} (h : w.Inv) : w.Safe where
  oneOpen id hid id' hid' hopen hopen' := by
    obtain ⟨s, hs, rfl, -⟩ := (h.ids.open_ id hid).mp hopen
    obtain ⟨s', hs', rfl, -⟩ := (h.ids.open_ id' hid').mp hopen'
    rw [Option.some.inj (hs.symm.trans hs')]
  openRecords := h.ids.open_
  endedOnce := h.ids.endedOnce
  slot := h.copies.slot
  entries := h.copies.entries
  finalisedOnce := h.copies.same

/-- Every run is safe; a session ends by its own end and a finalised document stays, in exactly the runs where no
tick finishes its cap over another session and no start's save lands late. -/
theorem sessions_end_once (es : List (Event K)) :
    (Machine.run step (new : Engine K) es).Safe ∧ Machine.Along step NamedOnly (new : Engine K) es ∧
      (Machine.Along step (fun w e => EndAllowed w e ∧ DocumentKept w e) (new : Engine K) es ↔
        Machine.Along step (fun w e => CapInTime w e ∧ SaveInTime w e) (new : Engine K) es) := by
  refine ⟨(run_inv es).safe, ?_, ?_⟩
  · exact (Machine.along_of_inv (fun w e _ (hw : w.Inv) => ⟨w.namedOnly e, hw.step e⟩) _ new_inv).1
  · refine Machine.along_congr_of_inv (fun w e (hw : w.Inv) => hw.step e) (fun w e hw => ?_) _ new_inv es
    rw [hw.endAllowed_iff e, hw.documentKept_iff e]

/-- Sessions that are at their cap with their first sample. -/
def oneSample : Kinds where
  Metadata := Unit
  Reading := Unit
  Evidence := Unit
  maxSamplesFor _ := 1
  clampDetail := id

/-- A session reaches its cap and is stopped, and another starts before the tick finishes. -/
def cappedRun : List (Event oneSample) :=
  [.start (.client 0) 0 false () 0, .startLocked (.client 0) false 0, .tick 1 () [], .stop (.client 1) 2,
    .start (.client 2) 1 false () 3, .startLocked (.client 2) false 3]

/-- A session is stopped, and that saved, while its start's own save is under way. -/
def savedLateRun : List (Event oneSample) :=
  [.start (.client 0) 0 false () 0, .startLocked (.client 0) false 0, .stop (.client 1) 1, .advance (.client 1) true,
    .advance (.client 1) true, .advance (.client 1) true]

/-- The other session is finished as it starts; and the document records again. -/
theorem ends_out_of_turn : (¬ ∀ (K : Kinds) (es : List (Event K)), Machine.Along step EndAllowed (new : Engine K) es) ∧
    ¬ ∀ (K : Kinds) (es : List (Event K)), Machine.Along step DocumentKept (new : Engine K) es := by
  constructor
  · intro hclaim
    have hlast := ((Machine.along_append ..).mp (hclaim oneSample (cappedRun ++ [.finishCapped 4]))).2.1
    rw [(run_inv cappedRun).endAllowed_iff] at hlast
    have hid := hlast 4 rfl 0 rfl (ValidationSession.new 1 false () 3 : ValidationSession oneSample).opened rfl rfl
    cases hid
  · intro hclaim
    have hlast := ((Machine.along_append ..).mp (hclaim oneSample (savedLateRun ++ [.advance (.client 0) true]))).2.1
    rw [(run_inv savedLateRun).documentKept_iff] at hlast
    have hopen := hlast (.client 0) rfl (ValidationSession.new 0 false () 0 : ValidationSession oneSample).opened rfl
      ((ValidationSession.new 0 false () 0 : ValidationSession oneSample).opened.finalise 1 .completed none) rfl
    cases hopen

end Engine

end ControlOfc.Validation
