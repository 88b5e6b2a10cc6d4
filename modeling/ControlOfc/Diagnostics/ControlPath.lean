import ControlOfc.Diagnostics.DiscoverySummary
import ControlOfc.Diagnostics.Walks
/-! # What a discovery reports of a rig (api/discovery.rs:246-331, 396-611, 1000-1135)

A channel of a rig reads one RPM at each duty, within its noise. The candidates of a run that completes are the channels
that differ enough between the two duties. Their direction is the sign of the change from the baseline to the perturbed
duty, whichever of them is the higher.

Main theorem `discovery_reports_rig`.
-/
namespace ControlOfc.Diagnostics.Discovery
open KeyedList

/-! ## Rigs -/

/-- What channel `i` reads at a duty, and how far its readings lie apart there. -/
structure Rig where
  rpm : Nat → Nat → Option Nat
  noise : Nat → Nat

namespace Rig

variable (rig : Rig) (base pert : Nat) (i : Nat)

/-- `DISCOVERY_RESPONSE_MIN_PCT` (constants.rs:1294). -/
def responseMinPct : Nat := 10

/-- The channel reads at both duties, and differs by its noise and by the share of its baseline. -/
def Answers : Prop :=
  ∃ b p, rig.rpm i base = some b ∧ rig.rpm i pert = some p ∧
    max (rig.noise i) minNoiseFloorRpm ≤ max b p - min b p ∧ b * responseMinPct / 100 ≤ max b p - min b p

/-- How far the channel moved, where it read at both duties. -/
def moved : Nat :=
  match rig.rpm i base, rig.rpm i pert with
  | some b, some p => max b p - min b p
  | _, _ => 0

def delta : Option Int := (rig.rpm i base).bind fun b => (rig.rpm i pert).map fun p : Nat => (p : Int) - b

/-- The channel reads more at the higher of the two duties. -/
def Follows : Prop :=
  ∃ lo hi, rig.rpm i (min base pert) = some lo ∧ rig.rpm i (max base pert) = some hi ∧ lo < hi

variable {rig base pert i}

theorem responded_iff : responded (rig.rpm i base) (rig.rpm i pert) (max (rig.noise i) minNoiseFloorRpm) = true ↔
    rig.Answers base pert i := by
  unfold responded Answers
  cases rig.rpm i base <;> cases rig.rpm i pert <;> simp [responseMinPct]

theorem delta_of {b p : Nat} (hb : rig.rpm i base = some b) (hp : rig.rpm i pert = some p) :
    rig.delta base pert i = some ((p : Int) - b) := by
  rw [delta, hb, hp]
  rfl

theorem moved_of {b p : Nat} (hb : rig.rpm i base = some b) (hp : rig.rpm i pert = some p) :
    rig.moved base pert i = max b p - min b p := by
  rw [moved, hb, hp]

theorem natAbs_delta {d : Int} (h : rig.delta base pert i = some d) : d.natAbs = rig.moved base pert i := by
  obtain ⟨b, hb, h'⟩ := Option.bind_eq_some_iff.mp h
  obtain ⟨p, hp, rfl⟩ := Option.map_eq_some_iff.mp h'
  rw [moved_of hb hp]
  omega

theorem moved_of_delta_none (h : rig.delta base pert i = none) : rig.moved base pert i = 0 := by
  unfold moved
  split
  · rename_i b p hb hp
    rw [delta_of hb hp] at h
    cases h
  · rfl

/-- The sign of the change is the way the channel follows the duty only where the perturbed duty is the higher. -/
theorem rises_iff (h : rig.Answers base pert i) (hne : base ≠ pert) :
    ((rig.delta base pert i).any (· < 0) = false ↔ rig.Follows base pert i) ↔ base < pert := by
  obtain ⟨b, p, hb, hp, hnoise, -⟩ := h
  have hfar : b ≠ p := by
    have hfloor : 50 ≤ max (rig.noise i) minNoiseFloorRpm := Nat.le_max_right ..
    rintro rfl
    rw [max_self, min_self, Nat.sub_self] at hnoise
    omega
  have hsign : (rig.delta base pert i).any (· < 0) = false ↔ b < p := by
    rw [delta_of hb hp, Option.any_some, decide_eq_false_iff_not]
    omega
  rw [hsign]
  rcases Nat.lt_or_gt_of_ne hne with hlt | hgt
  · have : rig.Follows base pert i ↔ b < p := by simp [Follows, min_eq_left hlt.le, max_eq_right hlt.le, hb, hp]
    simp [this, hlt]
  · have : rig.Follows base pert i ↔ p < b := by simp [Follows, min_eq_right hgt.le, max_eq_left hgt.le, hb, hp]
    rw [this]
    omega

end Rig

/-! ## Candidates -/

/-- A cycle that saw the rig. -/
structure Saw (rig : Rig) (base pert : Nat) (channels : List LabelledChannel) (cycle : DiscoveryCycle) : Prop where
  ids : cycle.observations.map (·.tachId) = channels.map (·.tachId)
  seen : ∀ i o, cycle.observations[i]? = some o → o.baselineRpm = rig.rpm i base ∧ o.perturbedRpm = rig.rpm i pert ∧
    o.deltaRpm = rig.delta base pert i ∧ (o.responded = true ↔ rig.Answers base pert i)

section Summary

variable {rig : Rig} {base pert : Nat} {channels : List LabelledChannel} {cycles : List DiscoveryCycle}
  {ch : LabelledChannel} {i : Nat}

theorem Saw.lookup {c : DiscoveryCycle} (h : Saw rig base pert channels c) (hdistinct : (channels.map (·.tachId)).Nodup)
    (hch : channels[i]? = some ch) : ∃ o, c.observations[i]? = some o ∧
      lookup (·.tachId) c.observations ch.tachId = some o := by
  have hid : (c.observations.map (·.tachId))[i]? = some ch.tachId := by
    rw [h.ids, List.getElem?_map, hch, Option.map_some]
  rw [List.getElem?_map] at hid
  obtain ⟨o, ho, hid⟩ := Option.map_eq_some_iff.mp hid
  refine ⟨o, ho, ?_⟩
  rw [← hid]
  exact lookup_of_mem (h.ids ▸ hdistinct) (List.mem_of_getElem? ho)

/-- Every cycle has one observation of the channel. -/
theorem observationsOf_spec (hsaw : ∀ c ∈ cycles, Saw rig base pert channels c) (hdistinct : (channels.map (·.tachId)).Nodup)
    (hch : channels[i]? = some ch) : (observationsOf cycles ch.tachId).length = cycles.length ∧
      ∀ o ∈ observationsOf cycles ch.tachId, ∃ c ∈ cycles, c.observations[i]? = some o := by
  induction cycles with
  | nil => exact ⟨rfl, fun o ho => absurd ho List.not_mem_nil⟩
  | cons c cycles ih =>
    obtain ⟨hlen, hobs⟩ := ih fun c hc => hsaw c (List.mem_cons_of_mem _ hc)
    obtain ⟨o, ho, hlookup⟩ := (hsaw c List.mem_cons_self).lookup hdistinct hch
    have hcons : observationsOf (c :: cycles) ch.tachId = o :: observationsOf cycles ch.tachId := by
      rw [observationsOf, List.filterMap_cons, hlookup]
      rfl
    rw [hcons]
    refine ⟨by rw [List.length_cons, hlen, List.length_cons], fun o' ho' => ?_⟩
    rcases List.mem_cons.mp ho' with rfl | ho'
    · exact ⟨c, List.mem_cons_self, ho⟩
    · obtain ⟨c', hc', ho'⟩ := hobs o' ho'
      exact ⟨c', List.mem_cons_of_mem _ hc', ho'⟩

/-- A candidate for channel `i`, before it is graded. -/
structure CandidateFor (rig : Rig) (base pert n i : Nat) (ch : LabelledChannel) (c : ControlPathCandidate) : Prop where
  tachId : c.tachId = ch.tachId
  label : c.label = ch.label
  baselineRpm : c.baselineRpm = rig.rpm i base
  perturbedRpm : c.perturbedRpm = rig.rpm i pert
  direction : c.direction = if (rig.delta base pert i).any (· < 0) then "negative" else "positive"
  cyclesResponded : c.cyclesResponded = n
  cyclesTotal : c.cyclesTotal = n

theorem candidateOf_spec (hsaw : ∀ c ∈ cycles, Saw rig base pert channels c) (hdistinct : (channels.map (·.tachId)).Nodup)
    (hpos : 0 < cycles.length) (hfew : cycles.length < 256) (hch : channels[i]? = some ch) :
    (rig.Answers base pert i → ∃ c, candidateOf cycles ch = some c ∧ CandidateFor rig base pert cycles.length i ch c) ∧
      (¬ rig.Answers base pert i → candidateOf cycles ch = none) := by
  obtain ⟨hlen, hobs⟩ := observationsOf_spec hsaw hdistinct hch
  have hseen : ∀ o ∈ observationsOf cycles ch.tachId, o.baselineRpm = rig.rpm i base ∧ o.perturbedRpm = rig.rpm i pert ∧
      o.deltaRpm = rig.delta base pert i ∧ (o.responded = true ↔ rig.Answers base pert i) := fun o ho => by
    obtain ⟨c, hc, ho⟩ := hobs o ho
    exact (hsaw c hc).seen i o ho
  constructor
  · intro hanswers
    have hcount : (observationsOf cycles ch.tachId).countP (·.responded) % 256 = cycles.length := by
      rw [List.countP_eq_length.mpr fun o ho => (hseen o ho).2.2.2.mpr hanswers, hlen, Nat.mod_eq_of_lt hfew]
    obtain ⟨first, rest, hcons⟩ := List.exists_cons_of_length_pos (hlen.symm ▸ hpos)
    obtain ⟨hbase, hpert, hdelta, hresponded⟩ := hseen first (hcons ▸ List.mem_cons_self)
    have hfind : (observationsOf cycles ch.tachId).find? (·.responded) = some first := by
      rw [hcons, List.find?_cons_of_pos (hresponded.mpr hanswers)]
    have hcandidate : candidateOf cycles ch = some
        { tachId := ch.tachId, label := ch.label, monitorOnly := ch.monitorOnly, confidence := .low
          direction := directionOf first, baselineRpm := first.baselineRpm, perturbedRpm := first.perturbedRpm
          changePct := changePct first, cyclesResponded := cycles.length, cyclesTotal := cycles.length } := by
      unfold candidateOf
      dsimp only
      rw [hfind, Option.bind_some, hcount, if_neg hpos.ne', Nat.mod_eq_of_lt hfew]
    refine ⟨_, hcandidate, rfl, rfl, hbase, hpert, ?_, rfl, rfl⟩
    rw [← hdelta]
    rfl
  · intro hsilent
    have hfind : (observationsOf cycles ch.tachId).find? (·.responded) = none :=
      List.find?_eq_none.mpr fun o ho h => hsilent ((hseen o ho).2.2.2.mp h)
    unfold candidateOf
    dsimp only
    rw [hfind, Option.bind_none]

theorem tachId_candidateOf {c : ControlPathCandidate} (h : candidateOf cycles ch = some c) : c.tachId = ch.tachId := by
  unfold candidateOf at h
  obtain ⟨first, -, h⟩ := Option.bind_eq_some_iff.mp h
  split_ifs at h
  rw [← Option.some.inj h]

theorem map_tachId_candidates (channels : List LabelledChannel) (cycles : List DiscoveryCycle) :
    ((channels.filterMap (candidateOf cycles)).map (·.tachId)).Sublist (channels.map (·.tachId)) := by
  induction channels with
  | nil => exact List.Sublist.refl _
  | cons ch channels ih =>
    rw [List.filterMap_cons]
    cases hc : candidateOf cycles ch with
    | none => exact ih.cons _
    | some c =>
      dsimp only
      rw [List.map_cons, List.map_cons, tachId_candidateOf hc]
      exact ih.cons_cons _

theorem mem_candidatesOf {c : ControlPathCandidate} : c ∈ candidatesOf channels cycles ↔ ∃ ch ∈ channels, ∃ c',
    candidateOf cycles ch = some c' ∧ graded (quietestMargin cycles) (cycles.length % 256) c' = c := by
  rw [candidatesOf, List.mem_insertionSort, List.mem_map]
  simp only [List.mem_filterMap]
  constructor
  · rintro ⟨c', ⟨ch, hch, hc'⟩, rfl⟩
    exact ⟨ch, hch, c', hc', rfl⟩
  · rintro ⟨ch, hch, c', hc', rfl⟩
    exact ⟨c', ⟨ch, hch, hc'⟩, rfl⟩

theorem nodup_candidatesOf (hdistinct : (channels.map (·.tachId)).Nodup) :
    ((candidatesOf channels cycles).map (·.tachId)).Nodup := by
  have hperm := (List.perm_insertionSort stronger
    ((channels.filterMap (candidateOf cycles)).map (graded (quietestMargin cycles) (cycles.length % 256)))).map (·.tachId)
  rw [candidatesOf, hperm.nodup_iff, List.map_map]
  exact (map_tachId_candidates channels cycles).nodup hdistinct

/-- No other channel moved by a comparable amount without answering. -/
def StandsClear (rig : Rig) (base pert n i : Nat) : Prop :=
  ∀ j < n, ¬ rig.Answers base pert j → rig.moved base pert j * targetOverNoise ≤ rig.moved base pert i

theorem margin_iff (hsaw : ∀ c ∈ cycles, Saw rig base pert channels c) (hpos : 0 < cycles.length) :
    (quietestMargin cycles = 0 ∨ quietestMargin cycles * targetOverNoise ≤ rig.moved base pert i) ↔
      StandsClear rig base pert channels.length i := by
  have hmem (m : Nat) : m ∈ ((cycles.flatMap (·.observations)).filter (!·.responded)).filterMap (fun o => o.deltaRpm.map Int.natAbs) ↔
      ∃ j < channels.length, ¬ rig.Answers base pert j ∧ ∃ d, rig.delta base pert j = some d ∧ d.natAbs = m := by
    rw [List.mem_filterMap]
    constructor
    · rintro ⟨o, ho, hm⟩
      obtain ⟨ho, hsilent⟩ := List.mem_filter.mp ho
      obtain ⟨c, hc, ho⟩ := List.mem_flatMap.mp ho
      obtain ⟨j, hj⟩ := List.mem_iff_getElem?.mp ho
      obtain ⟨-, -, hdelta, hresponded⟩ := (hsaw c hc).seen j o hj
      have hlen : c.observations.length = channels.length := by simpa using congrArg List.length (hsaw c hc).ids
      refine ⟨j, hlen ▸ (List.getElem?_eq_some_iff.mp hj).1, fun h => ?_, ?_⟩
      · rw [hresponded.mpr h] at hsilent
        cases hsilent
      · rw [hdelta] at hm
        exact Option.map_eq_some_iff.mp hm
    · rintro ⟨j, hj, hsilent, d, hd, rfl⟩
      obtain ⟨c, hc⟩ := List.exists_mem_of_length_pos hpos
      have hlen : c.observations.length = channels.length := by simpa using congrArg List.length (hsaw c hc).ids
      obtain ⟨-, -, hdelta, hresponded⟩ := (hsaw c hc).seen j _ (List.getElem?_eq_getElem (hlen.symm ▸ hj))
      refine ⟨_, List.mem_filter.mpr ⟨List.mem_flatMap.mpr ⟨c, hc, List.getElem_mem _⟩, ?_⟩, by rw [hdelta, hd]; rfl⟩
      rw [Bool.not_eq_true', Bool.eq_false_iff]
      exact fun h => hsilent (hresponded.mp h)
  have hclear : StandsClear rig base pert channels.length i ↔
      ∀ m ∈ ((cycles.flatMap (·.observations)).filter (!·.responded)).filterMap (fun o => o.deltaRpm.map Int.natAbs),
        m * targetOverNoise ≤ rig.moved base pert i := by
    simp only [hmem]
    constructor
    · rintro h m ⟨j, hj, hsilent, d, hd, rfl⟩
      rw [Rig.natAbs_delta hd]
      exact h j hj hsilent
    · intro h j hj hsilent
      cases hd : rig.delta base pert j with
      | none => rw [Rig.moved_of_delta_none hd, Nat.zero_mul]; exact Nat.zero_le _
      | some d => exact Rig.natAbs_delta hd ▸ h _ ⟨j, hj, hsilent, d, hd, rfl⟩
  rw [hclear, quietestMargin]
  generalize ((cycles.flatMap (·.observations)).filter (!·.responded)).filterMap (fun o => o.deltaRpm.map Int.natAbs) = moves
  cases hmax : moves.max? with
  | none =>
    rw [List.max?_eq_none_iff.mp hmax]
    simp
  | some m =>
    obtain ⟨hm, hle⟩ := List.max?_eq_some_iff.mp hmax
    rw [Option.getD_some]
    constructor
    · rintro (rfl | h) m' hm'
      · have := hle m' hm'
        simp [Nat.le_zero.mp this]
      · exact (Nat.mul_le_mul_right _ (hle m' hm')).trans h
    · exact fun h => .inr (h m hm)

/-- What the summary of a rig's cycles says. -/
structure Reported (rig : Rig) (base pert n : Nat) (channels : List LabelledChannel) (summary : DiscoverySummary) : Prop where
  exactly : ∀ i ch, channels[i]? = some ch → (ch.tachId ∈ summary.candidates.map (·.tachId) ↔ rig.Answers base pert i)
  known : ∀ c ∈ summary.candidates, ∃ i ch, channels[i]? = some ch ∧ rig.Answers base pert i ∧ CandidateFor rig base pert n i ch c
  once : (summary.candidates.map (·.tachId)).Nodup
  no_response : summary.relationship = .noTachResponse ↔ summary.candidates = []
  several : summary.relationship = .multipleResponses ↔ 2 ≤ summary.candidates.length
  confirmed : summary.relationship = .confirmed ↔ ∃ c i ch, summary.candidates = [c] ∧ channels[i]? = some ch ∧
    c.tachId = ch.tachId ∧ StandsClear rig base pert channels.length i
  probable : summary.relationship = .probable ↔ ∃ c i ch, summary.candidates = [c] ∧ channels[i]? = some ch ∧
    c.tachId = ch.tachId ∧ ¬ StandsClear rig base pert channels.length i

/-- Every candidate's direction says whether the channel follows the duty. -/
def Directed (rig : Rig) (base pert : Nat) (channels : List LabelledChannel) (summary : DiscoverySummary) : Prop :=
  ∀ c ∈ summary.candidates, ∀ i ch, channels[i]? = some ch → c.tachId = ch.tachId →
    (c.direction = "positive" ↔ rig.Follows base pert i)

theorem index_of_tachId (hdistinct : (channels.map (·.tachId)).Nodup) {j : Nat} {ch' : LabelledChannel}
    (hi : channels[i]? = some ch) (hj : channels[j]? = some ch') (h : ch.tachId = ch'.tachId) : i = j := by
  have hi' : (channels.map (·.tachId))[i]? = some ch.tachId := by rw [List.getElem?_map, hi, Option.map_some]
  have hj' : (channels.map (·.tachId))[j]? = some ch.tachId := by rw [List.getElem?_map, hj, Option.map_some, h]
  exact (List.getElem?_inj (List.getElem?_eq_some_iff.mp hi').1 hdistinct).mp (hi'.trans hj'.symm)

section Rules

variable (hsaw : ∀ c ∈ cycles, Saw rig base pert channels c) (hdistinct : (channels.map (·.tachId)).Nodup)
  (hpos : 0 < cycles.length) (hfew : cycles.length < 256)
include hsaw hdistinct hpos hfew

theorem candidate_spec {c : ControlPathCandidate} (hc : c ∈ candidatesOf channels cycles) :
    ∃ i ch, channels[i]? = some ch ∧ rig.Answers base pert i ∧ CandidateFor rig base pert cycles.length i ch c ∧
      c.confidence = if quietestMargin cycles = 0 ∨ quietestMargin cycles * targetOverNoise ≤ rig.moved base pert i then .high
        else .medium := by
  obtain ⟨ch, hch, c', hc', rfl⟩ := mem_candidatesOf.mp hc
  obtain ⟨i, hi⟩ := List.mem_iff_getElem?.mp hch
  obtain ⟨hcandidate, hnone⟩ := candidateOf_spec hsaw hdistinct hpos hfew hi
  have hanswers : rig.Answers base pert i := by
    by_contra hsilent
    rw [hnone hsilent] at hc'
    cases hc'
  obtain ⟨c'', hc'', hspec⟩ := hcandidate hanswers
  obtain rfl : c' = c'' := Option.some.inj (hc'.symm.trans hc'')
  have hown : ownDelta c' = rig.moved base pert i := by
    rw [ownDelta, hspec.baselineRpm, hspec.perturbedRpm]
    rfl
  have hconsistent : c'.cyclesResponded = cycles.length % 256 ∧ 0 < cycles.length % 256 := by
    rw [hspec.cyclesResponded, Nat.mod_eq_of_lt hfew]
    exact ⟨rfl, hpos⟩
  refine ⟨i, ch, hi, hanswers, ⟨hspec.tachId, hspec.label, hspec.baselineRpm, hspec.perturbedRpm, hspec.direction,
    hspec.cyclesResponded, hspec.cyclesTotal⟩, ?_⟩
  unfold graded
  dsimp only
  rw [if_pos hconsistent, hown]

theorem mem_tachIds_iff (hi : channels[i]? = some ch) :
    ch.tachId ∈ (candidatesOf channels cycles).map (·.tachId) ↔ rig.Answers base pert i := by
  constructor
  · intro hmem
    obtain ⟨c, hc, hid⟩ := List.mem_map.mp hmem
    obtain ⟨j, ch', hj, hanswers, hspec, -⟩ := candidate_spec hsaw hdistinct hpos hfew hc
    obtain rfl := index_of_tachId hdistinct hi hj (hid.symm.trans hspec.tachId)
    exact hanswers
  · intro hanswers
    obtain ⟨c, hc, hspec⟩ := (candidateOf_spec hsaw hdistinct hpos hfew hi).1 hanswers
    have hmem := mem_candidatesOf.mpr ⟨ch, List.mem_of_getElem? hi, c, hc, rfl⟩
    exact List.mem_map.mpr ⟨_, hmem, hspec.tachId⟩

theorem readable_of_candidates (hne : candidatesOf channels cycles ≠ []) : anyReadable cycles = true := by
  obtain ⟨c, hc⟩ := List.exists_mem_of_ne_nil _ hne
  obtain ⟨i, ch, hi, ⟨b, p, hb, -⟩, -⟩ := candidate_spec hsaw hdistinct hpos hfew hc
  obtain ⟨cycle, hcycle⟩ := List.exists_mem_of_length_pos hpos
  obtain ⟨o, ho, -⟩ := (hsaw cycle hcycle).lookup hdistinct hi
  refine List.any_eq_true.mpr ⟨o, List.mem_flatMap.mpr ⟨cycle, hcycle, List.mem_of_getElem? ho⟩, ?_⟩
  rw [((hsaw cycle hcycle).seen i o ho).1, hb]
  rfl

/-- Every candidate answered in every cycle, so none is ambiguous. -/
theorem relationship_eq : (relationshipOf (anyReadable cycles) (candidatesOf channels cycles)).1 =
    match candidatesOf channels cycles with
    | [] => .noTachResponse
    | [only] => if only.confidence = .high then .confirmed else .probable
    | _ => .multipleResponses := by
  have hgrade : ∀ c ∈ candidatesOf channels cycles, c.confidence = .high ∨ c.confidence = .medium := fun c hc => by
    obtain ⟨_, _, _, _, _, hconfidence⟩ := candidate_spec hsaw hdistinct hpos hfew hc
    rw [hconfidence]
    split_ifs
    · exact .inl rfl
    · exact .inr rfl
  have hreadable := readable_of_candidates hsaw hdistinct hpos hfew
  unfold relationshipOf
  cases hcandidates : candidatesOf channels cycles with
  | nil => split_ifs <;> rfl
  | cons only rest =>
    rw [hcandidates] at hgrade hreadable
    rw [hreadable (List.cons_ne_nil _ _), if_pos rfl]
    cases rest with
    | nil => rcases hgrade only List.mem_cons_self with h | h <;> simp [h]
    | cons => rfl

theorem clear_iff {c : ControlPathCandidate} (hc : candidatesOf channels cycles = [c]) :
    ∃ i ch, channels[i]? = some ch ∧ c.tachId = ch.tachId ∧
      (c.confidence = .high ↔ StandsClear rig base pert channels.length i) := by
  obtain ⟨i, ch, hi, -, hspec, hconfidence⟩ := candidate_spec hsaw hdistinct hpos hfew (hc ▸ List.mem_singleton_self c)
  refine ⟨i, ch, hi, hspec.tachId, ?_⟩
  rw [hconfidence, ← margin_iff hsaw hpos]
  split_ifs with h <;> simp [h]

theorem reported (driverUpdateIntervalMs observedResolutionMs : Option Nat) (sampleCount : Nat) :
    Reported rig base pert cycles.length channels
      (summarise channels cycles driverUpdateIntervalMs observedResolutionMs sampleCount) := by
  have hclear {c : ControlPathCandidate} (hc : candidatesOf channels cycles = [c]) {i : Nat} {ch : LabelledChannel}
      (hi : channels[i]? = some ch) (hid : c.tachId = ch.tachId) :
      (c.confidence = .high ↔ StandsClear rig base pert channels.length i) := by
    obtain ⟨j, ch', hj, hid', h⟩ := clear_iff hsaw hdistinct hpos hfew hc
    obtain rfl := index_of_tachId hdistinct hi hj (hid.symm.trans hid')
    exact h
  have hone {c : ControlPathCandidate} (hc : candidatesOf channels cycles = [c]) :
      ∃ (i : Nat) (ch : LabelledChannel), channels[i]? = some ch ∧ c.tachId = ch.tachId := by
    obtain ⟨i, ch, hi, hid, -⟩ := clear_iff hsaw hdistinct hpos hfew hc
    exact ⟨i, ch, hi, hid⟩
  have hrelationship := relationship_eq hsaw hdistinct hpos hfew
  have hknown : ∀ c ∈ candidatesOf channels cycles, ∃ i ch, channels[i]? = some ch ∧ rig.Answers base pert i ∧
      CandidateFor rig base pert cycles.length i ch c := fun c hc => by
    obtain ⟨i, ch, hi, hanswers, hspec, -⟩ := candidate_spec hsaw hdistinct hpos hfew hc
    exact ⟨i, ch, hi, hanswers, hspec⟩
  have hexactly (i : Nat) (ch : LabelledChannel) (hi : channels[i]? = some ch) :=
    mem_tachIds_iff hsaw hdistinct hpos hfew hi
  have honce : ((candidatesOf channels cycles).map (·.tachId)).Nodup := nodup_candidatesOf hdistinct
  unfold summarise
  dsimp only
  generalize candidatesOf channels cycles = candidates at hrelationship hclear hone hknown hexactly honce
  match candidates with
  | [] => exact ⟨hexactly, hknown, honce, by simp [hrelationship], by simp [hrelationship], by simp [hrelationship], by simp [hrelationship]⟩
  | [c] =>
    obtain ⟨i, ch, hi, hid⟩ := hone rfl
    have hgrade := hclear rfl hi hid
    refine ⟨hexactly, hknown, honce, ?_, ?_, ?_, ?_⟩
    · simp only [hrelationship]
      split_ifs <;> simp
    · simp only [hrelationship]
      split_ifs <;> simp
    · constructor
      · intro h
        have hhigh : c.confidence = .high := by
          by_contra hlow
          cases h.symm.trans (hrelationship.trans (if_neg hlow))
        exact ⟨c, i, ch, rfl, hi, hid, hgrade.mp hhigh⟩
      · rintro ⟨c', j, ch', hc', hj, hid', hstands⟩
        obtain rfl := List.singleton_inj.mp hc'
        exact hrelationship.trans (if_pos ((hclear rfl hj hid').mpr hstands))
    · constructor
      · intro h
        have hlow : ¬ c.confidence = .high := by
          intro hhigh
          cases h.symm.trans (hrelationship.trans (if_pos hhigh))
        exact ⟨c, i, ch, rfl, hi, hid, fun hstands => hlow (hgrade.mpr hstands)⟩
      · rintro ⟨c', j, ch', hc', hj, hid', hstands⟩
        obtain rfl := List.singleton_inj.mp hc'
        exact hrelationship.trans (if_neg fun hhigh => hstands ((hclear rfl hj hid').mp hhigh))
  | c :: c' :: rest => exact ⟨hexactly, hknown, honce, by simp [hrelationship], by simp [hrelationship], by simp [hrelationship], by simp [hrelationship]⟩

/-- The directions are right just where the perturbed duty is the higher, or nothing answered. -/
theorem directed_iff (hne : base ≠ pert) (driverUpdateIntervalMs observedResolutionMs : Option Nat) (sampleCount : Nat) :
    Directed rig base pert channels (summarise channels cycles driverUpdateIntervalMs observedResolutionMs sampleCount) ↔
      base < pert ∨ ∀ i < channels.length, ¬ rig.Answers base pert i := by
  have hreported := reported hsaw hdistinct hpos hfew driverUpdateIntervalMs observedResolutionMs sampleCount
  have hpositive {c : ControlPathCandidate} {i : Nat} {ch : LabelledChannel} (h : CandidateFor rig base pert cycles.length i ch c) :
      c.direction = "positive" ↔ (rig.delta base pert i).any (· < 0) = false := by
    rw [h.direction]
    split_ifs with hneg <;> simp [hneg]
  constructor
  · intro hdirected
    by_contra hnot
    obtain ⟨hdown, hanswers⟩ := not_or.mp hnot
    simp only [not_forall, not_not] at hanswers
    obtain ⟨i, hi, hanswers⟩ := hanswers
    obtain ⟨c, hc, hid⟩ := List.mem_map.mp ((hreported.exactly i _ (List.getElem?_eq_getElem hi)).mpr hanswers)
    obtain ⟨j, ch, hj, -, hspec⟩ := hreported.known c hc
    obtain rfl := index_of_tachId hdistinct (List.getElem?_eq_getElem hi) hj (hid.symm.trans hspec.tachId)
    exact hdown ((Rig.rises_iff hanswers hne).mp ((hpositive hspec).symm.trans (hdirected c hc i ch hj hspec.tachId)))
  · rintro (hup | hsilent) c hc i ch hi hid
    · obtain ⟨j, ch', hj, hanswers, hspec⟩ := hreported.known c hc
      obtain rfl := index_of_tachId hdistinct hi hj (hid.symm.trans hspec.tachId)
      exact (hpositive hspec).trans ((Rig.rises_iff hanswers hne).mpr hup)
    · obtain ⟨j, ch', hj, hanswers, -⟩ := hreported.known c hc
      exact absurd hanswers (hsilent j (List.getElem?_eq_some_iff.mp hj).1)

end Rules

end Summary

end ControlOfc.Diagnostics.Discovery
