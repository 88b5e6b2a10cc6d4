import ControlOfc.Validation.Recorder
import Mathlib.Data.List.Nodup
import Mathlib.Data.List.Sublists
/-! # A session is finalised once

Every copy of a session that is held anywhere (the slot, the documents, a call under way) is of an installed
session; once one of its copies is terminal the slot no longer records it, and all its terminal copies are one.
-/
namespace ControlOfc.Validation

variable {K : Kinds}

/-! ## Sessions -/

namespace ValidationSession

theorem isRecording_eq_not_isTerminal (s : ValidationSession K) : s.isRecording = !s.isTerminal := by
  unfold isRecording isTerminal SessionState.isTerminal
  cases s.state <;> rfl

theorem isTerminal_of_not_isRecording {s : ValidationSession K} (h : s.isRecording = false) : s.isTerminal = true := by
  rw [isRecording_eq_not_isTerminal] at h
  simpa using h

theorem not_isRecording_of_isTerminal {s : ValidationSession K} (h : s.isTerminal = true) : s.isRecording = false := by
  rw [isRecording_eq_not_isTerminal, h]
  rfl

/-- What a session that goes on recording keeps. -/
structure Grows (s s' : ValidationSession K) : Prop where
  sessionId : s'.sessionId = s.sessionId
  autoStarted : s'.autoStarted = s.autoStarted
  metadata : s'.metadata = s.metadata
  state : s'.state = s.state
  samples : s.samples.length ≤ s'.samples.length
  events : List.Sublist s.events s'.events

theorem Grows.refl (s : ValidationSession K) : Grows s s := ⟨rfl, rfl, rfl, rfl, le_rfl, List.Sublist.refl _⟩

theorem Grows.trans {s s' s'' : ValidationSession K} (h : Grows s s') (h' : Grows s' s'') : Grows s s'' :=
  ⟨h'.sessionId.trans h.sessionId, h'.autoStarted.trans h.autoStarted, h'.metadata.trans h.metadata,
    h'.state.trans h.state, h.samples.trans h'.samples, h.events.trans h'.events⟩

theorem Grows.isRecording {s s' : ValidationSession K} (h : Grows s s') : s'.isRecording = s.isRecording := by
  simp [ValidationSession.isRecording, h.state]

theorem pushEvent_grows (s : ValidationSession K) (now : Nat) (note : Note) : Grows s (s.pushEvent now note) := by
  unfold pushEvent
  split
  · exact .refl s
  · exact ⟨rfl, rfl, rfl, rfl, le_rfl, List.sublist_append_left _ _⟩

@[simp] theorem pushEvent_evidence (s : ValidationSession K) (now : Nat) (note : Note) :
    (s.pushEvent now note).evidence = s.evidence := by
  unfold pushEvent
  split <;> rfl

theorem attach_grows (s : ValidationSession K) (ev : K.Evidence) : Grows s (s.attach ev) :=
  ⟨rfl, rfl, rfl, rfl, le_rfl, List.Sublist.refl _⟩

theorem sampled_grows (s : ValidationSession K) (now : Nat) (reading : K.Reading) (notes : List Note) :
    Grows s (s.sampled now reading notes) ∧ (s.sampled now reading notes).evidence = s.evidence := by
  have hnotes : ∀ (notes : List Note) (s' : ValidationSession K), Grows s s' ∧ s'.evidence = s.evidence →
      Grows s (notes.foldl (fun s note => s.pushEvent now note) s') ∧
        (notes.foldl (fun s note => s.pushEvent now note) s').evidence = s.evidence := by
    intro notes
    induction notes with
    | nil => exact fun s' h => h
    | cons note notes ih =>
      intro s' h
      exact ih _ ⟨h.1.trans (pushEvent_grows s' now note), (pushEvent_evidence s' now note).trans h.2⟩
  refine hnotes notes _ ⟨⟨rfl, rfl, rfl, rfl, ?_, List.Sublist.refl _⟩, rfl⟩
  simp

theorem capped_grows (s : ValidationSession K) (now : Nat) :
    Grows s (s.capped now) ∧ (s.capped now).evidence = s.evidence := by
  unfold capped
  have hmark : Grows s { s with sampleLimitReached := true } := ⟨rfl, rfl, rfl, rfl, le_rfl, List.Sublist.refl _⟩
  exact ⟨hmark.trans (pushEvent_grows _ now _), by simp⟩

end ValidationSession

/-! ## Entries by the session they name -/

/-- What the history gave this session, in order. -/
def entriesOf {α : Type} (l : List (Nat × α)) (id : Nat) : List α := (l.filter fun x => x.1 == id).map Prod.snd

theorem entriesOf_append_self {α : Type} (l : List (Nat × α)) (id : Nat) (x : α) :
    entriesOf (l ++ [(id, x)]) id = entriesOf l id ++ [x] := by
  simp [entriesOf]

theorem entriesOf_append_of_ne {α : Type} (l : List (Nat × α)) {id id' : Nat} (h : id' ≠ id) (x : α) :
    entriesOf (l ++ [(id', x)]) id = entriesOf l id := by
  simp [entriesOf, h]

theorem entriesOf_eq_nil {α : Type} {l : List (Nat × α)} {id : Nat} (h : ∀ x ∈ l, x.1 ≠ id) : entriesOf l id = [] := by
  unfold entriesOf
  rw [List.filter_eq_nil_iff.mpr, List.map_nil]
  intro x hx
  simpa using h x hx

/-! ## Copies -/

def Next.carries : Next K → ValidationSession K → Prop
  | .answer _, _ => False
  | .save started, s => s = started

/-- The call under way holds this copy. -/
def Pc.carries : Pc K → ValidationSession K → Prop
  | .persisting document _ next, s => s = document ∨ next.carries s
  | .saving started, s => s = started
  | .idle _, _ | .seeded _, _ | .rollingBack _, _ | .capped _, _ => False

namespace Engine

/-- A copy of a session that the slot, a document or a call has. -/
def Holds (w : Engine K) (s : ValidationSession K) : Prop :=
  w.slot = some s ∨ (∃ id, w.documents id = some s) ∨ ∃ c, (w.pcs c).carries s

/-- The slot records this session. -/
def Records (w : Engine K) (id : Nat) : Prop := ∃ s, w.slot = some s ∧ s.sessionId = id ∧ s.isRecording = true

/-! ## The invariant -/

/-- Ids are given and installed once, and each installed session ended once or is the one recording. -/
structure Ids (w : Engine K) : Prop where
  issued : ∀ id ∈ w.installed, id ∈ w.issued
  installedOnce : w.installed.Nodup
  endedOnce : (w.ended.map Prod.fst).Nodup
  endedIn : ∀ id ∈ w.ended.map Prod.fst, id ∈ w.installed
  open_ : ∀ id ∈ w.installed, id ∉ w.ended.map Prod.fst ↔ w.Records id
  attachedIn : ∀ x ∈ w.attached, x.1 ∈ w.installed
  pushedIn : ∀ x ∈ w.pushed, x.1 ∈ w.installed
  seededOnce : ∀ c c' s s', w.pcs c = .seeded s → w.pcs c' = .seeded s' → s.sessionId = s'.sessionId → c = c'

/-- The evidence of a copy is what was attached to its session, as far as it goes; a copy that was finalised has
it all, but not one that a boot made of what was saved last. -/
structure Entries (w : Engine K) (s : ValidationSession K) : Prop where
  evidence : s.evidence <+: entriesOf w.attached s.sessionId
  full : s.isTerminal = true → s.state ≠ .interrupted →
    s.evidence = entriesOf w.attached s.sessionId ∧ List.Sublist (entriesOf w.pushed s.sessionId) s.events

structure Copies (w : Engine K) : Prop where
  installed : ∀ s, w.Holds s → s.sessionId ∈ w.installed
  ended : ∀ s, w.Holds s → s.isTerminal = true → ¬ w.Records s.sessionId
  same : ∀ s s', w.Holds s → w.Holds s' → s.sessionId = s'.sessionId → s.isTerminal = true → s'.isTerminal = true → s = s'
  entries : ∀ s, w.Holds s → w.Entries s
  slot : ∀ s, w.slot = some s →
    s.evidence = entriesOf w.attached s.sessionId ∧ List.Sublist (entriesOf w.pushed s.sessionId) s.events
  filed : ∀ id s, w.documents id = some s → s.sessionId = id

/-- What a call under way may rely on. -/
def PcSound (w : Engine K) (c : Caller) : Pc K → Prop
  | .idle _ | .rollingBack _ => True
  | .seeded s => s.sessionId ∈ w.issued ∧ s.sessionId ∉ w.installed ∧ s.isRecording = true ∧ s.evidence = []
  | .persisting document phase next =>
    (phase ≠ .waiting → w.saveLock = some c) ∧
      (phase = .writing → document.isRecording = true → ∀ d, w.documents document.sessionId = some d → d.isRecording = true) ∧
      ∀ s, next.carries s → s.isRecording = true
  | .saving started => started.isRecording = true
  | .capped id => id ∈ w.installed ∧ ∀ s, w.slot = some s → s.sessionId = id → K.maxSamplesFor s.metadata ≤ s.samples.length

structure Inv (w : Engine K) : Prop where
  ids : w.Ids
  copies : w.Copies
  cap : ∀ s, w.slot = some s → w.maxSamples = K.maxSamplesFor s.metadata
  pcs : ∀ c, w.PcSound c (w.pcs c)

theorem Holds.slot {w : Engine K} {s : ValidationSession K} (h : w.slot = some s) : w.Holds s := .inl h

theorem Holds.document {w : Engine K} {id : Nat} {s : ValidationSession K} (h : w.documents id = some s) : w.Holds s :=
  .inr (.inl ⟨id, h⟩)

theorem Holds.carried {w : Engine K} {c : Caller} {s : ValidationSession K} (h : (w.pcs c).carries s) : w.Holds s :=
  .inr (.inr ⟨c, h⟩)

theorem new_ids : (new : Engine K).Ids where
  issued := List.forall_mem_nil _
  installedOnce := List.nodup_nil
  endedOnce := List.nodup_nil
  endedIn := List.forall_mem_nil _
  open_ := List.forall_mem_nil _
  attachedIn := List.forall_mem_nil _
  pushedIn := List.forall_mem_nil _
  seededOnce := by
    intro c c' s s' h
    cases h

theorem not_holds_new (s : ValidationSession K) : ¬ (new : Engine K).Holds s := by
  rintro (h | ⟨id, h⟩ | ⟨c, h⟩)
  · cases h
  · cases h
  · exact h

theorem new_inv : (new : Engine K).Inv where
  ids := new_ids
  copies :=
    { installed := fun s h => absurd h (not_holds_new s)
      ended := fun s h => absurd h (not_holds_new s)
      same := fun s _ h => absurd h (not_holds_new s)
      entries := fun s h => absurd h (not_holds_new s)
      slot := fun s h => by cases h
      filed := fun id s h => by cases h }
  cap s h := by cases h
  pcs c := trivial

section Steps

variable {w : Engine K}

/-! ## A call goes on -/

theorem setPc_pcs (w : Engine K) (c : Caller) (pc : Pc K) (c' : Caller) :
    (w.setPc c pc).pcs c' = if c' = c then pc else w.pcs c' := by
  unfold setPc
  by_cases h : c' = c
  · simp [h]
  · simp [h]

theorem ne_seeded {pc : Pc K} (h : match pc with | .seeded _ => False | _ => True) (s : ValidationSession K) :
    pc ≠ .seeded s := by
  rintro rfl
  exact h

/-- The step changes one call, and maybe frees or takes the save lock for it; what it carries was held. -/
theorem Inv.goOn (h : w.Inv) {c : Caller} (pc : Pc K) {lock : Option Caller} (hcarries : ∀ s, pc.carries s → w.Holds s)
    (hsound : PcSound { w with saveLock := lock } c pc) (hseeded : ∀ s, pc ≠ .seeded s)
    (hlock : ∀ c', c' ≠ c → w.saveLock = some c' → lock = some c') : ({ w with saveLock := lock }.setPc c pc).Inv := by
  have hholds : ∀ s, ({ w with saveLock := lock }.setPc c pc).Holds s → w.Holds s := by
    rintro s (hs | ⟨id, hs⟩ | ⟨c', hs⟩)
    · exact .slot hs
    · exact .document hs
    · rw [setPc_pcs] at hs
      split at hs
      · exact hcarries s hs
      · exact .carried hs
  refine ⟨⟨h.ids.issued, h.ids.installedOnce, h.ids.endedOnce, h.ids.endedIn, h.ids.open_, h.ids.attachedIn, h.ids.pushedIn, ?_⟩,
    ⟨fun s hs => h.copies.installed s (hholds s hs), fun s hs => h.copies.ended s (hholds s hs),
      fun s s' hs hs' => h.copies.same s s' (hholds s hs) (hholds s' hs'), fun s hs => ?_, h.copies.slot, h.copies.filed⟩,
    h.cap, fun c' => ?_⟩
  · intro c₁ c₂ s₁ s₂ h₁ h₂
    rw [setPc_pcs] at h₁ h₂
    split at h₁
    · exact absurd h₁ (hseeded s₁)
    · split at h₂
      · exact absurd h₂ (hseeded s₂)
      · exact h.ids.seededOnce c₁ c₂ s₁ s₂ h₁ h₂
  · have hold := h.copies.entries s (hholds s hs)
    exact ⟨hold.evidence, hold.full⟩
  · rw [setPc_pcs]
    split
    · next hc =>
      subst hc
      cases pc <;> exact hsound
    · next hc =>
      have hold := h.pcs c'
      cases hpc : w.pcs c' with
      | persisting document phase next =>
        rw [hpc] at hold
        exact ⟨fun hphase => hlock c' hc (hold.1 hphase), hold.2⟩
      | _ => rw [hpc] at hold; exact hold

theorem Inv.setPc (h : w.Inv) {c : Caller} (pc : Pc K) (hcarries : ∀ s, pc.carries s → w.Holds s)
    (hsound : w.PcSound c pc) (hseeded : ∀ s, pc ≠ .seeded s) : (w.setPc c pc).Inv :=
  h.goOn pc hcarries hsound hseeded fun _ _ hc => hc

theorem Inv.answer (h : w.Inv) (c : Caller) (a : Answer K) : (w.answer c a).Inv := by
  exact h.setPc (.idle (some a)) nofun trivial (ne_seeded trivial)

/-! ## The slot changes -/

/-- The session in the slot goes on recording, with what it was given. -/
theorem Inv.grow (h : w.Inv) {s s' : ValidationSession K} (hslot : w.slot = some s) (hrecording : s.isRecording = true)
    (hgrows : s.Grows s') {attached : List (Nat × K.Evidence)} {pushed : List (Nat × ValidationEvent)} (ticks : Nat)
    (hattachedIn : ∀ x ∈ attached, x.1 ∈ w.installed) (hpushedIn : ∀ x ∈ pushed, x.1 ∈ w.installed)
    (hattached : ∀ id, id ≠ s.sessionId → entriesOf attached id = entriesOf w.attached id)
    (hpushed : ∀ id, id ≠ s.sessionId → entriesOf pushed id = entriesOf w.pushed id)
    (hmore : entriesOf w.attached s.sessionId <+: entriesOf attached s.sessionId)
    (hevidence : s'.evidence = entriesOf attached s.sessionId)
    (hevents : List.Sublist (entriesOf pushed s.sessionId) s'.events) :
    Inv { w with slot := some s', ticksSinceFlush := ticks, attached := attached, pushed := pushed } := by
  have hrecording' : s'.isRecording = true := hgrows.isRecording.trans hrecording
  have hnot : s'.isTerminal ≠ true := by
    intro hterminal
    rw [ValidationSession.not_isRecording_of_isTerminal hterminal] at hrecording'
    cases hrecording'
  have hrecords : ∀ id, Records { w with slot := some s', ticksSinceFlush := ticks, attached := attached, pushed := pushed } id ↔
      w.Records id := by
    intro id
    constructor
    · rintro ⟨x, hx, hid, -⟩
      obtain rfl := Option.some.inj hx
      exact ⟨s, hslot, hgrows.sessionId.symm.trans hid, hrecording⟩
    · rintro ⟨x, hx, hid, -⟩
      obtain rfl := Option.some.inj (hslot.symm.trans hx)
      exact ⟨s', rfl, hgrows.sessionId.trans hid, hrecording'⟩
  have hself : w.Records s.sessionId := ⟨s, hslot, rfl, hrecording⟩
  have hholds : ∀ x, Holds { w with slot := some s', ticksSinceFlush := ticks, attached := attached, pushed := pushed } x →
      x = s' ∨ w.Holds x := by
    rintro x (hx | ⟨id, hx⟩ | ⟨c, hx⟩)
    · exact .inl (Option.some.inj hx).symm
    · exact .inr (.document hx)
    · exact .inr (.carried hx)
  refine ⟨⟨h.ids.issued, h.ids.installedOnce, h.ids.endedOnce, h.ids.endedIn,
      fun id hid => (h.ids.open_ id hid).trans (hrecords id).symm, hattachedIn, hpushedIn, h.ids.seededOnce⟩,
    ⟨?_, ?_, ?_, ?_, ?_, h.copies.filed⟩, ?_, fun c => ?_⟩
  · intro x hx
    rcases hholds x hx with rfl | hx
    · rw [hgrows.sessionId]
      exact h.copies.installed s (.slot hslot)
    · exact h.copies.installed x hx
  · intro x hx hterminal
    rw [hrecords]
    rcases hholds x hx with rfl | hx
    · exact absurd hterminal hnot
    · exact h.copies.ended x hx hterminal
  · intro x y hx hy hsame hxt hyt
    rcases hholds x hx with rfl | hx
    · exact absurd hxt hnot
    · rcases hholds y hy with rfl | hy
      · exact absurd hyt hnot
      · exact h.copies.same x y hx hy hsame hxt hyt
  · intro x hx
    rcases hholds x hx with rfl | hx
    · refine ⟨?_, fun hterminal => absurd hterminal hnot⟩
      have hsame : x.evidence = entriesOf attached x.sessionId := by rw [hgrows.sessionId, hevidence]
      exact hsame ▸ List.prefix_refl _
    · have hold := h.copies.entries x hx
      by_cases hid : x.sessionId = s.sessionId
      · refine ⟨?_, fun hterminal => absurd (hid ▸ hself) (h.copies.ended x hx hterminal)⟩
        have hbefore := hold.evidence
        rw [hid] at hbefore ⊢
        exact hbefore.trans hmore
      · exact ⟨by rw [hattached _ hid]; exact hold.evidence, by rw [hattached _ hid, hpushed _ hid]; exact hold.full⟩
  · intro x hx
    obtain rfl := Option.some.inj hx
    rw [hgrows.sessionId]
    exact ⟨hevidence, hevents⟩
  · intro x hx
    obtain rfl := Option.some.inj hx
    rw [hgrows.metadata]
    exact h.cap s hslot
  · have hold := h.pcs c
    show PcSound _ c (w.pcs c)
    cases hpc : w.pcs c with
    | capped id =>
      rw [hpc] at hold
      refine ⟨hold.1, fun x hx hid => ?_⟩
      obtain rfl := Option.some.inj hx
      rw [hgrows.metadata]
      exact (hold.2 s hslot (hgrows.sessionId.symm.trans hid)).trans hgrows.samples
    | _ => rw [hpc] at hold; exact hold

/-- The same where the history has nothing of it. -/
theorem Inv.grow_quiet (h : w.Inv) {s s' : ValidationSession K} (hslot : w.slot = some s) (hrecording : s.isRecording = true)
    (hgrows : s.Grows s') (hevidence : s'.evidence = s.evidence) (ticks : Nat) :
    Inv { w with slot := some s', ticksSinceFlush := ticks } := by
  obtain ⟨hentries, hevents⟩ := h.copies.slot s hslot
  exact h.grow hslot hrecording hgrows ticks h.ids.attachedIn h.ids.pushedIn (fun _ _ => rfl) (fun _ _ => rfl)
    (List.prefix_refl _) (hevidence.trans hentries) (hevents.trans hgrows.events)

/-- The session recording is finalised in the slot. -/
theorem Inv.finalise (h : w.Inv) {s : ValidationSession K} (hslot : w.slot = some s) (hrecording : s.isRecording = true)
    (now : Nat) {state : SessionState} (hstate : state.isTerminal = true) (reason : Option String) (how : End) :
    Inv { w with slot := some (s.finalise now state reason), ended := w.ended ++ [(s.sessionId, how)] } := by
  have hself : w.Records s.sessionId := ⟨s, hslot, rfl, hrecording⟩
  have hterminal : (s.finalise now state reason).isTerminal = true := hstate
  have hin := h.copies.installed s (.slot hslot)
  have hnew : s.sessionId ∉ w.ended.map Prod.fst := (h.ids.open_ _ hin).mpr hself
  have hnone : ∀ id, ¬ Records { w with slot := some (s.finalise now state reason), ended := w.ended ++ [(s.sessionId, how)] } id := by
    rintro id ⟨x, hx, -, hrec⟩
    obtain rfl := Option.some.inj hx
    rw [ValidationSession.not_isRecording_of_isTerminal hterminal] at hrec
    cases hrec
  have hholds : ∀ x, Holds { w with slot := some (s.finalise now state reason), ended := w.ended ++ [(s.sessionId, how)] } x →
      x = s.finalise now state reason ∨ w.Holds x := by
    rintro x (hx | ⟨id, hx⟩ | ⟨c, hx⟩)
    · exact .inl (Option.some.inj hx).symm
    · exact .inr (.document hx)
    · exact .inr (.carried hx)
  obtain ⟨hentries, hevents⟩ := h.copies.slot s hslot
  have hfull : (s.finalise now state reason).evidence = entriesOf w.attached s.sessionId ∧
      List.Sublist (entriesOf w.pushed s.sessionId) (s.finalise now state reason).events :=
    ⟨hentries, hevents.trans (List.sublist_append_left _ _)⟩
  refine ⟨⟨h.ids.issued, h.ids.installedOnce, ?_, ?_, ?_, h.ids.attachedIn, h.ids.pushedIn, h.ids.seededOnce⟩,
    ⟨?_, fun x _ _ => hnone _, ?_, ?_, ?_, h.copies.filed⟩, ?_, fun c => ?_⟩
  · rw [List.map_append, List.nodup_append]
    refine ⟨h.ids.endedOnce, List.nodup_singleton _, ?_⟩
    rintro a ha b hb rfl
    rw [List.mem_singleton.mp hb] at ha
    exact hnew ha
  · intro id hid
    rw [List.map_append, List.mem_append] at hid
    rcases hid with hid | hid
    · exact h.ids.endedIn id hid
    · rw [List.mem_singleton.mp hid]
      exact hin
  · intro id hid
    refine ⟨fun hopen => ?_, fun hrec => absurd hrec (hnone id)⟩
    rw [List.map_append, List.mem_append, not_or] at hopen
    obtain ⟨x, hx, hxid, -⟩ := (h.ids.open_ id hid).mp hopen.1
    obtain rfl := Option.some.inj (hslot.symm.trans hx)
    exact absurd (List.mem_singleton.mpr hxid.symm) hopen.2
  · intro x hx
    rcases hholds x hx with rfl | hx
    · exact hin
    · exact h.copies.installed x hx
  · intro x y hx hy hsame hxt hyt
    rcases hholds x hx with rfl | hx
    · rcases hholds y hy with rfl | hy
      · rfl
      · exact absurd (hsame ▸ hself) (h.copies.ended y hy hyt)
    · rcases hholds y hy with rfl | hy
      · exact absurd (hsame ▸ hself) (h.copies.ended x hx hxt)
      · exact h.copies.same x y hx hy hsame hxt hyt
  · intro x hx
    rcases hholds x hx with rfl | hx
    · exact ⟨by rw [hfull.1]; exact List.prefix_refl _, fun _ _ => hfull⟩
    · have hold := h.copies.entries x hx
      exact ⟨hold.evidence, hold.full⟩
  · intro x hx
    obtain rfl := Option.some.inj hx
    exact hfull
  · intro x hx
    obtain rfl := Option.some.inj hx
    exact h.cap s hslot
  · have hold := h.pcs c
    show PcSound _ c (w.pcs c)
    cases hpc : w.pcs c with
    | capped id =>
      rw [hpc] at hold
      refine ⟨hold.1, fun x hx hid => ?_⟩
      obtain rfl := Option.some.inj hx
      exact hold.2 s hslot hid
    | _ => rw [hpc] at hold; exact hold

/-- A start's session goes into a slot that records none; its call takes up a copy of it. -/
theorem Inv.install (h : w.Inv) {c : Caller} {s : ValidationSession K} (hpc : w.pcs c = .seeded s)
    (hslot : ∀ x, w.slot = some x → x.isRecording = false) (pc : Pc K)
    (hcarries : ∀ x, pc.carries x → x = s.opened ∨ w.Holds x) (hseeded : ∀ x, pc ≠ .seeded x)
    (hsound : ∀ w' : Engine K, w'.PcSound c pc) : ((w.install s).setPc c pc).Inv := by
  obtain ⟨hissued, hnew, hstate, hevidence⟩ : w.PcSound c (.seeded s) := hpc ▸ h.pcs c
  have hnot : s.opened.isTerminal ≠ true := by
    intro hterminal
    have hclosed := ValidationSession.not_isRecording_of_isTerminal hterminal
    exact Bool.false_ne_true (hclosed.symm.trans hstate)
  have hnone : ∀ id, ¬ w.Records id := by
    rintro id ⟨x, hx, -, hrec⟩
    rw [hslot x hx] at hrec
    cases hrec
  have hholds : ∀ x, ((w.install s).setPc c pc).Holds x → x = s.opened ∨ w.Holds x := by
    rintro x (hx | ⟨id, hx⟩ | ⟨c', hx⟩)
    · exact .inl (Option.some.inj hx).symm
    · exact .inr (.document hx)
    · rw [setPc_pcs] at hx
      split at hx
      · exact hcarries x hx
      · exact .inr (.carried hx)
  have hne : ∀ x, w.Holds x → x.sessionId ≠ s.sessionId := by
    intro x hx heq
    exact hnew (heq ▸ h.copies.installed x hx)
  have hattached : entriesOf w.attached s.sessionId = [] :=
    entriesOf_eq_nil fun x hx heq => hnew (heq ▸ h.ids.attachedIn x hx)
  have hpushed : entriesOf w.pushed s.sessionId = [] :=
    entriesOf_eq_nil fun x hx heq => hnew (heq ▸ h.ids.pushedIn x hx)
  have hsub : ∀ {id}, id ∈ w.installed → id ∈ w.installed ++ [s.sessionId] := fun hin => List.mem_append_left _ hin
  refine ⟨⟨?_, ?_, h.ids.endedOnce, fun id hid => hsub (h.ids.endedIn id hid), ?_, fun x hx => hsub (h.ids.attachedIn x hx),
      fun x hx => hsub (h.ids.pushedIn x hx), ?_⟩, ⟨?_, ?_, ?_, ?_, ?_, h.copies.filed⟩, ?_, fun c' => ?_⟩
  · intro id hid
    rcases List.mem_append.mp hid with hid | hid
    · exact h.ids.issued id hid
    · rw [List.mem_singleton.mp hid]
      exact hissued
  · show (w.installed ++ [s.sessionId]).Nodup
    rw [List.nodup_append]
    refine ⟨h.ids.installedOnce, List.nodup_singleton _, ?_⟩
    rintro a ha b hb rfl
    rw [List.mem_singleton.mp hb] at ha
    exact hnew ha
  · intro id hin
    rcases List.mem_append.mp hin with hin | hin
    · refine ⟨fun hopen => absurd ((h.ids.open_ id hin).mp hopen) (hnone id), ?_⟩
      rintro ⟨x, hx, hxid, -⟩
      obtain rfl := Option.some.inj hx
      exact absurd (hxid ▸ hin) hnew
    · rw [List.mem_singleton.mp hin]
      exact ⟨fun _ => ⟨s.opened, rfl, rfl, hstate⟩, fun _ hended => hnew (h.ids.endedIn _ hended)⟩
  · intro c₁ c₂ s₁ s₂ h₁ h₂
    rw [setPc_pcs] at h₁ h₂
    split at h₁
    · exact absurd h₁ (hseeded s₁)
    · split at h₂
      · exact absurd h₂ (hseeded s₂)
      · exact h.ids.seededOnce c₁ c₂ s₁ s₂ h₁ h₂
  · intro x hx
    rcases hholds x hx with rfl | hx
    · exact List.mem_append_right _ (List.mem_singleton_self _)
    · exact hsub (h.copies.installed x hx)
  · rintro x hx hterminal ⟨y, hy, hyid, -⟩
    obtain rfl := Option.some.inj hy
    rcases hholds x hx with rfl | hx
    · exact hnot hterminal
    · exact hne x hx hyid.symm
  · intro x y hx hy hsame hxt hyt
    rcases hholds x hx with rfl | hx
    · exact absurd hxt hnot
    · rcases hholds y hy with rfl | hy
      · exact absurd hyt hnot
      · exact h.copies.same x y hx hy hsame hxt hyt
  · intro x hx
    rcases hholds x hx with rfl | hx
    · refine ⟨?_, fun hterminal => absurd hterminal hnot⟩
      rw [show s.opened.evidence = [] from hevidence]
      exact List.nil_prefix
    · have hold := h.copies.entries x hx
      exact ⟨hold.evidence, hold.full⟩
  · intro x hx
    obtain rfl := Option.some.inj hx
    refine ⟨hevidence.trans hattached.symm, ?_⟩
    show List.Sublist (entriesOf w.pushed s.sessionId) s.opened.events
    rw [hpushed]
    exact List.nil_sublist _
  · intro x hx
    obtain rfl := Option.some.inj hx
    rfl
  · rw [setPc_pcs]
    split
    · next hc =>
      subst hc
      exact hsound _
    · next hc =>
      have hold := h.pcs c'
      show PcSound _ c' (w.pcs c')
      cases hpc' : w.pcs c' with
      | seeded s' =>
        rw [hpc'] at hold
        refine ⟨hold.1, fun hin => ?_, hold.2.2⟩
        rcases List.mem_append.mp hin with hin | hin
        · exact hold.2.1 hin
        · exact hc (h.ids.seededOnce c' c s' s hpc' hpc (List.mem_singleton.mp hin))
      | capped id =>
        rw [hpc'] at hold
        refine ⟨hsub hold.1, fun x hx hxid => ?_⟩
        obtain rfl := Option.some.inj hx
        exact absurd (hxid ▸ hold.1) hnew
      | _ => rw [hpc'] at hold; exact hold

/-- The slot is emptied; a session recording there ends so. -/
theorem Inv.clear (h : w.Inv) {s : ValidationSession K} (hslot : w.slot = some s) (how : End) :
    Inv { w with slot := none, ended := if s.isRecording then w.ended ++ [(s.sessionId, how)] else w.ended } := by
  have hin := h.copies.installed s (.slot hslot)
  have hholds : ∀ x, Holds { w with slot := none, ended := if s.isRecording then w.ended ++ [(s.sessionId, how)] else w.ended } x →
      w.Holds x := by
    rintro x (hx | ⟨id, hx⟩ | ⟨c, hx⟩)
    · cases hx
    · exact .document hx
    · exact .carried hx
  have hnone : ∀ id, ¬ Records { w with slot := none, ended := if s.isRecording then w.ended ++ [(s.sessionId, how)] else w.ended } id := by
    rintro id ⟨x, hx, -⟩
    cases hx
  refine ⟨⟨h.ids.issued, h.ids.installedOnce, ?_, ?_, ?_, h.ids.attachedIn, h.ids.pushedIn, h.ids.seededOnce⟩,
    ⟨fun x hx => h.copies.installed x (hholds x hx), fun x _ _ => hnone _,
      fun x y hx hy => h.copies.same x y (hholds x hx) (hholds y hy), fun x hx => ?_, (by intro x hx; cases hx), h.copies.filed⟩,
    (by intro x hx; cases hx), fun c => ?_⟩
  · dsimp only
    split
    · next hrec =>
      rw [List.map_append, List.nodup_append]
      refine ⟨h.ids.endedOnce, List.nodup_singleton _, ?_⟩
      rintro a ha b hb rfl
      rw [List.mem_singleton.mp hb] at ha
      exact (h.ids.open_ _ hin).mpr ⟨s, hslot, rfl, hrec⟩ ha
    · exact h.ids.endedOnce
  · intro id hid
    dsimp only at hid
    split at hid
    · rw [List.map_append, List.mem_append] at hid
      rcases hid with hid | hid
      · exact h.ids.endedIn id hid
      · rw [List.mem_singleton.mp hid]
        exact hin
    · exact h.ids.endedIn id hid
  · intro id hid
    refine ⟨fun hopen => ?_, fun hrec => absurd hrec (hnone id)⟩
    have hold : id ∉ w.ended.map Prod.fst ∧ (s.isRecording = true → id ≠ s.sessionId) := by
      dsimp only at hopen
      split at hopen
      · rw [List.map_append, List.mem_append, not_or] at hopen
        exact ⟨hopen.1, fun _ heq => hopen.2 (List.mem_singleton.mpr heq)⟩
      · next hrec => exact ⟨hopen, fun htrue => absurd htrue hrec⟩
    obtain ⟨x, hx, hxid, hrec⟩ := (h.ids.open_ id hid).mp hold.1
    obtain rfl := Option.some.inj (hslot.symm.trans hx)
    exact absurd hxid.symm (hold.2 hrec)
  · have hold := h.copies.entries x (hholds x hx)
    exact ⟨hold.evidence, hold.full⟩
  · have hold := h.pcs c
    show PcSound _ c (w.pcs c)
    cases hpc : w.pcs c with
    | capped id =>
      rw [hpc] at hold
      exact ⟨hold.1, by intro x hx; cases hx⟩
    | _ => rw [hpc] at hold; exact hold

/-! ## Documents change -/

/-- A copy lands, over no other that a writer who still records counts on. -/
theorem Inv.land (h : w.Inv) {document : ValidationSession K} (hheld : w.Holds document)
    (hwriting : ∀ c d next, w.pcs c = .persisting d .writing next → d.isRecording = true →
      d.sessionId = document.sessionId → document.isRecording = true) :
    Inv { w with documents := Function.update w.documents document.sessionId (some document) } := by
  have hfile : ∀ id x, Function.update w.documents document.sessionId (some document) id = some x →
      (id = document.sessionId ∧ x = document) ∨ w.documents id = some x := by
    intro id x hx
    by_cases hid : id = document.sessionId
    · rw [hid, Function.update_self] at hx
      exact .inl ⟨hid, (Option.some.inj hx).symm⟩
    · rw [Function.update_of_ne hid] at hx
      exact .inr hx
  have hholds : ∀ x, Holds { w with documents := Function.update w.documents document.sessionId (some document) } x →
      w.Holds x := by
    rintro x (hx | ⟨id, hx⟩ | ⟨c, hx⟩)
    · exact .slot hx
    · rcases hfile id x hx with ⟨-, rfl⟩ | hx
      · exact hheld
      · exact .document hx
    · exact .carried hx
  refine ⟨⟨h.ids.issued, h.ids.installedOnce, h.ids.endedOnce, h.ids.endedIn, h.ids.open_, h.ids.attachedIn, h.ids.pushedIn,
      h.ids.seededOnce⟩, ⟨fun x hx => h.copies.installed x (hholds x hx), fun x hx => h.copies.ended x (hholds x hx),
    fun x y hx hy => h.copies.same x y (hholds x hx) (hholds y hy), fun x hx => ?_, h.copies.slot, ?_⟩, h.cap, fun c => ?_⟩
  · have hold := h.copies.entries x (hholds x hx)
    exact ⟨hold.evidence, hold.full⟩
  · intro id x hx
    rcases hfile id x hx with ⟨rfl, rfl⟩ | hx
    · rfl
    · exact h.copies.filed id x hx
  · have hold := h.pcs c
    show PcSound _ c (w.pcs c)
    cases hpc : w.pcs c with
    | persisting d phase next =>
      rw [hpc] at hold
      refine ⟨hold.1, fun hphase hrec x hx => ?_, hold.2.2⟩
      rcases hfile _ x hx with ⟨hid, rfl⟩ | hx
      · subst hphase
        exact hwriting c d next hpc hrec hid
      · exact hold.2.1 hphase hrec x hx
    | _ => rw [hpc] at hold; exact hold

/-! ## Every step -/

theorem Inv.close (h : w.Inv) (c : Caller) {s : ValidationSession K} (hslot : w.slot = some s) (hrecording : s.isRecording = true)
    (now : Nat) {state : SessionState} (hstate : state.isTerminal = true) (how : End) {next : ValidationSession K → Next K}
    (hnext : ∀ x, ¬ (next (s.finalise now state none)).carries x) : (w.close c s now state how next).Inv := by
  refine (h.finalise hslot hrecording now hstate none how).setPc _ ?_ ⟨nofun, nofun, fun x hx => absurd hx (hnext x)⟩ (ne_seeded trivial)
  rintro x (rfl | hx)
  · exact .slot rfl
  · exact absurd hx (hnext x)

theorem Inv.finish (h : w.Inv) (c : Caller) (now : Nat) {state : SessionState} (hstate : state.isTerminal = true) (how : End)
    (answers : Option (ValidationSession K) → Answer K) : (w.finish c now state how answers).Inv := by
  unfold Engine.finish
  split
  · exact h.answer c _
  · next s hslot =>
    split
    · next hrec => exact h.close c hslot hrec now hstate how fun x hx => hx
    · exact h.answer c _

theorem Inv.stopIf (h : w.Inv) (c : Caller) (sessionId now : Nat) : (w.stopIf c sessionId now).Inv := by
  unfold Engine.stopIf
  split
  · exact h.answer c _
  · next s hslot =>
    split
    · exact h.answer c _
    · next hours =>
      rw [not_or, Bool.not_eq_false] at hours
      exact h.close c hslot hours.2 now rfl _ fun x hx => hx

theorem Inv.start (h : w.Inv) (c : Caller) {sessionId : Nat} (hnew : sessionId ∉ w.issued) (autoStarted : Bool)
    (metadata : K.Metadata) (startedUnixMs : Nat) :
    Inv ({ w with issued := w.issued ++ [sessionId] }.setPc c (.seeded (.new sessionId autoStarted metadata startedUnixMs))) := by
  have hholds : ∀ x, Holds ({ w with issued := w.issued ++ [sessionId] }.setPc c
      (.seeded (.new sessionId autoStarted metadata startedUnixMs))) x → w.Holds x := by
    rintro x (hx | ⟨id, hx⟩ | ⟨c', hx⟩)
    · exact .slot hx
    · exact .document hx
    · rw [setPc_pcs] at hx
      split at hx
      · exact hx.elim
      · exact .carried hx
  have hsub : ∀ {id}, id ∈ w.issued → id ∈ w.issued ++ [sessionId] := fun hin => List.mem_append_left _ hin
  have hseeded : ∀ c' s, w.pcs c' = .seeded s → s.sessionId ≠ sessionId := by
    intro c' s hpc heq
    have hsound := h.pcs c'
    rw [hpc] at hsound
    exact hnew (heq ▸ hsound.1)
  refine ⟨⟨fun id hid => hsub (h.ids.issued id hid), h.ids.installedOnce, h.ids.endedOnce, h.ids.endedIn, h.ids.open_,
      h.ids.attachedIn, h.ids.pushedIn, ?_⟩, ⟨fun x hx => h.copies.installed x (hholds x hx),
      fun x hx => h.copies.ended x (hholds x hx), fun x y hx hy => h.copies.same x y (hholds x hx) (hholds y hy),
      fun x hx => ?_, h.copies.slot, h.copies.filed⟩, h.cap, fun c' => ?_⟩
  · intro c₁ c₂ s₁ s₂ h₁ h₂ hsame
    rw [setPc_pcs] at h₁ h₂
    split at h₁
    · next hc₁ =>
      split at h₂
      · next hc₂ => exact hc₁.trans hc₂.symm
      · obtain rfl := Pc.seeded.inj h₁
        exact absurd hsame.symm (hseeded c₂ s₂ h₂)
    · split at h₂
      · obtain rfl := Pc.seeded.inj h₂
        exact absurd hsame (hseeded c₁ s₁ h₁)
      · exact h.ids.seededOnce c₁ c₂ s₁ s₂ h₁ h₂ hsame
  · have hold := h.copies.entries x (hholds x hx)
    exact ⟨hold.evidence, hold.full⟩
  · rw [setPc_pcs]
    split
    · exact ⟨List.mem_append_right _ (List.mem_singleton_self _), fun hin => hnew (h.ids.issued _ hin), rfl, rfl⟩
    · have hold := h.pcs c'
      cases hpc : w.pcs c' with
      | seeded s =>
        rw [hpc] at hold
        exact ⟨hsub hold.1, hold.2⟩
      | _ => rw [hpc] at hold; exact hold

theorem Inv.startLocked (h : w.Inv) {c : Caller} {s : ValidationSession K} (hpc : w.pcs c = .seeded s) (updating : Bool)
    (now : Nat) : (w.startLocked c s updating now).Inv := by
  obtain ⟨-, -, hrec, -⟩ : w.PcSound c (.seeded s) := hpc ▸ h.pcs c
  have hinstall : (∀ x, w.slot = some x → x.isRecording = false) → ((w.install s).setPc c (.saving s.opened)).Inv := by
    intro hslot
    exact h.install hpc hslot _ (fun x hx => .inl hx) (ne_seeded trivial) fun w' => hrec
  unfold Engine.startLocked
  split
  · exact h.answer c _
  · split
    · next hempty => exact hinstall fun x hx => by cases hempty.symm.trans hx
    · next current hslot =>
      split
      · next hcur =>
        split
        · exact h.answer c _
        · have hdone := h.finalise hslot hcur now (show SessionState.completed.isTerminal = true from rfl) (some "superseded by an operator-started session") .superseded
          refine hdone.install hpc ?_ (.persisting _ .waiting (.save s.opened)) ?_ (ne_seeded trivial) fun w' => ⟨nofun, nofun, fun x hx => hx ▸ hrec⟩
          · intro x hx
            obtain rfl := Option.some.inj hx
            rfl
          · rintro x (rfl | hx)
            · exact .inr (.slot rfl)
            · exact .inl hx
      · next hcur =>
        refine hinstall fun x hx => ?_
        obtain rfl := Option.some.inj (hslot.symm.trans hx)
        simpa using hcur

theorem Inv.pushEvent (h : w.Inv) (c : Caller) (now : Nat) (note : Note) : (w.pushEvent c now note).Inv := by
  unfold Engine.pushEvent
  split
  · exact h.answer c _
  · next s hslot =>
    split
    · exact h.answer c _
    · next hrec =>
      rw [Bool.not_eq_false] at hrec
      split
      · exact h.answer c _
      · refine Inv.answer ?_ c _
        exact h.grow_quiet hslot hrec (s.pushEvent_grows now note) (by simp) w.ticksSinceFlush

theorem Inv.pushEventFor (h : w.Inv) (c : Caller) (sessionId now : Nat) (note : Note) :
    (w.pushEventFor c sessionId now note).Inv := by
  unfold Engine.pushEventFor
  split
  · exact h.answer c _
  · next s hslot =>
    split
    · exact h.answer c _
    · next hours =>
      rw [not_or, not_not, Bool.not_eq_false] at hours
      obtain ⟨rfl, hrec⟩ := hours
      obtain ⟨hentries, hevents⟩ := h.copies.slot s hslot
      have hin := h.copies.installed s (.slot hslot)
      refine Inv.answer ?_ c _
      by_cases hfull : s.events.length ≥ maxEvents
      · rw [if_pos hfull]
        exact h.grow_quiet hslot hrec (s.pushEvent_grows now note) (by simp) w.ticksSinceFlush
      · rw [if_neg hfull]
        refine h.grow hslot hrec (s.pushEvent_grows now note) w.ticksSinceFlush h.ids.attachedIn ?_ (fun _ _ => rfl) ?_
          (List.prefix_refl _) (by simpa using hentries) ?_
        · refine List.forall_mem_append.mpr ⟨h.ids.pushedIn, ?_⟩
          simpa using hin
        · intro id hid
          exact entriesOf_append_of_ne _ (Ne.symm hid) _
        · rw [entriesOf_append_self]
          unfold ValidationSession.pushEvent
          rw [if_neg hfull]
          exact hevents.append (List.Sublist.refl _)

theorem Inv.attachEvidenceFor (h : w.Inv) (c : Caller) (sessionId : Nat) (ev : K.Evidence) :
    (w.attachEvidenceFor c sessionId ev).Inv := by
  unfold Engine.attachEvidenceFor
  split
  · exact h.answer c _
  · next s hslot =>
    split
    · exact h.answer c _
    · next hours =>
      rw [not_or, not_not, Bool.not_eq_false] at hours
      obtain ⟨rfl, hrec⟩ := hours
      obtain ⟨hentries, hevents⟩ := h.copies.slot s hslot
      have hin := h.copies.installed s (.slot hslot)
      refine Inv.answer ?_ c _
      refine h.grow hslot hrec (s.attach_grows ev) w.ticksSinceFlush ?_ h.ids.pushedIn ?_ (fun _ _ => rfl) ?_ ?_ hevents
      · refine List.forall_mem_append.mpr ⟨h.ids.attachedIn, ?_⟩
        simpa using hin
      · intro id hid
        exact entriesOf_append_of_ne _ (Ne.symm hid) _
      · rw [entriesOf_append_self]
        exact List.prefix_append _ _
      · rw [entriesOf_append_self, ← hentries]
        rfl

theorem Inv.flushRecording (h : w.Inv) (c : Caller) : (w.flushRecording c).Inv := by
  unfold Engine.flushRecording
  split
  · exact h.answer c _
  · next s hslot =>
    split
    · refine h.setPc _ ?_ ⟨nofun, nofun, nofun⟩ (ne_seeded trivial)
      rintro x (rfl | hx)
      · exact .slot hslot
      · exact hx.elim
    · exact h.answer c _

theorem Inv.tick (h : w.Inv) (now : Nat) (reading : K.Reading) (notes : List Note) : (w.tick now reading notes).Inv := by
  unfold Engine.tick
  split
  · exact h.answer _ _
  · next s hslot =>
    split
    · exact h.answer _ _
    · next hrec =>
      rw [Bool.not_eq_false] at hrec
      obtain ⟨hgrows, hevidence⟩ := s.sampled_grows now reading notes
      have hin := h.copies.installed s (.slot hslot)
      dsimp only
      generalize (if w.ticksSinceFlush + 1 ≥ flushEveryTicks then 0 else w.ticksSinceFlush + 1) = ticks
      have hquiet := h.grow_quiet hslot hrec hgrows hevidence ticks
      split
      · next hcap =>
        obtain ⟨hmark, hsame⟩ := (s.sampled now reading notes).capped_grows now
        refine (h.grow_quiet hslot hrec (hgrows.trans hmark) (hsame.trans hevidence) ticks).setPc _ nofun ⟨?_, ?_⟩ (ne_seeded trivial)
        · rw [hgrows.sessionId]
          exact hin
        · intro x hx _
          obtain rfl := Option.some.inj hx
          rw [hmark.metadata, hgrows.metadata, ← h.cap s hslot]
          exact le_trans hcap hmark.samples
      · split
        · refine hquiet.setPc _ ?_ ⟨nofun, nofun, nofun⟩ (ne_seeded trivial)
          rintro x (rfl | hx)
          · exact .slot rfl
          · exact hx.elim
        · exact hquiet.answer _ _

theorem Inv.rollback (h : w.Inv) (c : Caller) (sessionId : Nat) : (w.rollback c sessionId).Inv := by
  unfold Engine.rollback
  split
  · exact h.answer c _
  · next s hslot =>
    split
    · next hid =>
      subst hid
      exact (h.clear hslot .rolledBack).answer c _
    · exact h.answer c _

/-- What a `persist` goes on to, once it let go of the save lock. -/
theorem Inv.proceed (h : w.Inv) {c : Caller} {next : Next K} (hcarries : ∀ x, next.carries x → w.Holds x)
    (hnext : ∀ x, next.carries x → x.isRecording = true) (hlock : w.saveLock = some c) :
    (proceed { w with saveLock := none } c next).Inv := by
  have hfree : ∀ c', c' ≠ c → w.saveLock = some c' → none = some c' := by
    intro c' hc hc'
    exact absurd (Option.some.inj (hlock.symm.trans hc')).symm hc
  cases next with
  | answer a => exact h.goOn (.idle (some a)) nofun trivial (ne_seeded trivial) hfree
  | save started => exact h.goOn (.saving started) hcarries (hnext started rfl) (ne_seeded trivial) hfree

theorem Inv.advance (h : w.Inv) (c : Caller) (landed : Bool) : (w.advance c landed).Inv := by
  unfold Engine.advance
  have hsound := h.pcs c
  have hheld : ∀ x, (w.pcs c).carries x → w.Holds x := fun x hx => .carried hx
  split
  · next document next hpc =>
    rw [hpc] at hsound hheld
    split
    · next hfree =>
      refine h.goOn _ hheld ⟨fun _ => rfl, nofun, hsound.2.2⟩ (ne_seeded trivial) ?_
      intro c' _ hc'
      cases hfree.symm.trans hc'
    · exact h
  · next document next hpc =>
    rw [hpc] at hsound hheld
    have hlock := hsound.1 nofun
    split
    · next hours =>
      refine h.setPc _ hheld ⟨fun _ => hlock, fun _ hrec d hd => ?_, hsound.2.2⟩ (ne_seeded trivial)
      have hstill : w.stillOurs document = true := by
        rw [ValidationSession.isRecording_eq_not_isTerminal] at hrec
        have hterm : document.isTerminal = false := by simpa using hrec
        simpa [hterm] using hours
      by_contra hd'
      rw [Bool.not_eq_true] at hd'
      refine h.copies.ended d (.document hd) (ValidationSession.isTerminal_of_not_isRecording hd') ?_
      rw [h.copies.filed _ d hd]
      unfold stillOurs at hstill
      split at hstill
      · cases hstill
      · next current hslot =>
        rw [Bool.and_eq_true, decide_eq_true_eq] at hstill
        refine ⟨current, hslot, hstill.1, ?_⟩
        rw [ValidationSession.isRecording_eq_not_isTerminal]
        exact hstill.2
    · exact h.proceed (fun x hx => hheld x (.inr hx)) hsound.2.2 hlock
  · next document next hpc =>
    rw [hpc] at hsound hheld
    have hlock := hsound.1 nofun
    cases landed with
    | false => exact h.proceed (fun x hx => hheld x (.inr hx)) hsound.2.2 hlock
    | true =>
      have hland := h.land (hheld document (.inl rfl)) ?_
      · refine hland.proceed (fun x hx => ?_) hsound.2.2 hlock
        exact .carried (c := c) (by show (w.pcs c).carries x; rw [hpc]; exact .inr hx)
      · intro c' d next' hpc' hrec hid
        have hsound' := h.pcs c'
        rw [hpc'] at hsound'
        obtain rfl := Option.some.inj (hlock.symm.trans (hsound'.1 nofun))
        obtain ⟨rfl, -, -⟩ := Pc.persisting.inj (hpc.symm.trans hpc')
        exact hrec
  · next started hpc =>
    rw [hpc] at hsound hheld
    cases landed with
    | true => exact (h.land (hheld started rfl) fun _ _ _ _ _ _ => hsound).answer c _
    | false => exact h.setPc _ nofun trivial (ne_seeded trivial)
  · exact h.rollback c _
  · exact h
  · exact h
  · exact h

/-- A boot, once what the daemon had in memory is gone. -/
theorem Inv.swept (h : w.Inv) (hslot : w.slot = none) (repaired : Nat → Bool) (now : Nat) :
    Inv { (new : Engine K) with
      documents := sweepInterrupted w.documents repaired now "daemon_restart"
      issued := w.issued, installed := w.installed, ended := w.ended, attached := w.attached, pushed := w.pushed } := by
  have hfile : ∀ id x, sweepInterrupted w.documents repaired now "daemon_restart" id = some x →
      ∃ d, w.documents id = some d ∧ (x = d ∨ d.isRecording = true ∧ x = d.interrupted now "daemon_restart") := by
    intro id x hx
    obtain ⟨d, hd, rfl⟩ := Option.map_eq_some_iff.mp hx
    refine ⟨d, hd, ?_⟩
    split
    · next hrec => exact .inr ⟨(Bool.and_eq_true_iff.mp hrec).1, rfl⟩
    · exact .inl rfl
  have hid : ∀ id x, sweepInterrupted w.documents repaired now "daemon_restart" id = some x → x.sessionId = id := by
    intro id x hx
    obtain ⟨d, hd, rfl | ⟨-, rfl⟩⟩ := hfile id x hx
    · exact h.copies.filed id _ hd
    · exact h.copies.filed id d hd
  have hholds : ∀ x, Holds { (new : Engine K) with
      documents := sweepInterrupted w.documents repaired now "daemon_restart"
      issued := w.issued, installed := w.installed, ended := w.ended, attached := w.attached, pushed := w.pushed } x →
      sweepInterrupted w.documents repaired now "daemon_restart" x.sessionId = some x := by
    rintro x (hx | ⟨id, hx⟩ | ⟨c, hx⟩)
    · cases hx
    · rwa [hid id x hx]
    · exact hx.elim
  have hnone : ∀ id, ¬ Records { (new : Engine K) with
      documents := sweepInterrupted w.documents repaired now "daemon_restart"
      issued := w.issued, installed := w.installed, ended := w.ended, attached := w.attached, pushed := w.pushed } id := by
    rintro id ⟨x, hx, -⟩
    cases hx
  refine ⟨⟨h.ids.issued, h.ids.installedOnce, h.ids.endedOnce, h.ids.endedIn, fun id hin => ?_, h.ids.attachedIn, h.ids.pushedIn,
      (by intro c c' s s' hs; cases hs)⟩,
    ⟨?_, fun x _ _ => hnone _, ?_, ?_, (by intro s hs; cases hs), hid⟩, (by intro s hs; cases hs), fun _ => trivial⟩
  · refine ⟨fun hopen => ?_, fun hrec => absurd hrec (hnone id)⟩
    obtain ⟨x, hx, -⟩ := (h.ids.open_ id hin).mp hopen
    cases hslot.symm.trans hx
  · intro x hx
    obtain ⟨d, hd, -⟩ := hfile _ x (hholds x hx)
    rw [← h.copies.filed _ d hd]
    exact h.copies.installed d (.document hd)
  · intro x y hx hy hsame _ _
    have hx' := hholds x hx
    rw [hsame] at hx'
    exact Option.some.inj (hx'.symm.trans (hholds y hy))
  · intro x hx
    obtain ⟨d, hd, rfl | ⟨-, rfl⟩⟩ := hfile _ x (hholds x hx)
    · have hold := h.copies.entries _ (.document hd)
      exact ⟨hold.evidence, hold.full⟩
    · exact ⟨(h.copies.entries d (.document hd)).evidence, fun _ hstate => absurd rfl hstate⟩

theorem Inv.reboot (h : w.Inv) (repaired : Nat → Bool) (now : Nat) : (w.reboot repaired now).Inv := by
  unfold Engine.reboot
  split
  · next s hslot => exact (h.clear hslot .died).swept rfl repaired now
  · next hslot => exact h.swept hslot repaired now

theorem Inv.step (h : w.Inv) (e : Event K) : (w.step e).Inv := by
  cases e with
  | start c sessionId autoStarted metadata startedUnixMs =>
    simp only [Engine.step]
    split
    · next hnew => exact h.start c hnew.2 autoStarted metadata startedUnixMs
    · exact h
  | startLocked c updating now =>
    simp only [Engine.step]
    split
    · next s hpc => exact h.startLocked hpc updating now
    · exact h
  | stop c now =>
    simp only [Engine.step]
    split
    · exact h.finish c now rfl _ _
    · exact h
  | cancel c now =>
    simp only [Engine.step]
    split
    · exact h.finish c now rfl _ _
    · exact h
  | stopIf c sessionId now =>
    simp only [Engine.step]
    split
    · exact h.stopIf c sessionId now
    · exact h
  | pushEvent c now note =>
    simp only [Engine.step]
    split
    · exact h.pushEvent c now note
    · exact h
  | pushEventFor c sessionId now note =>
    simp only [Engine.step]
    split
    · exact h.pushEventFor c sessionId now note
    · exact h
  | attachEvidenceFor c sessionId ev =>
    simp only [Engine.step]
    split
    · exact h.attachEvidenceFor c sessionId ev
    · exact h
  | flushRecording c =>
    simp only [Engine.step]
    split
    · exact h.flushRecording c
    · exact h
  | tick now reading notes =>
    simp only [Engine.step]
    split
    · exact h.tick now reading notes
    · exact h
  | finishCapped now =>
    simp only [Engine.step]
    split
    · exact h.finish _ now rfl _ _
    · exact h
  | advance c landed => exact h.advance c landed
  | reboot repaired now => exact h.reboot repaired now

end Steps

theorem run_inv (es : List (Event K)) : (Machine.run step (new : Engine K) es).Inv :=
  Machine.run_inv (fun _ e hw => hw.step e) _ es new_inv

end Engine

end ControlOfc.Validation
