import ControlOfc.Gpu.LegacyRecord
import Mathlib.Data.List.Induction
/-! # The legacy GPU verify (api/handlers/gpu.rs:647-792)

| here | there |
| --- | --- |
| `LegacyMove.read`     | `pwm1` and `pwm1_enable`, read before the first write (gpu.rs:657-676) |
| `LegacyMove.take`     | `note_legacy_take` (gpu.rs:684) |
| `LegacyMove.send`     | `set_legacy_pwm`, whether or not it fails (gpu.rs:690) |
| `LegacyMove.restore`  | `restore_legacy` (gpu.rs:691, :731), a failed one ending the verify |
| `LegacyMove.handBack` | `note_legacy_handed_back` (gpu.rs:782) |
| `LegacyMove.crash`    | the daemon gone between two of them, the record left as it stands |

Verifies hold the GPU write lock, so one runs at a time. The replacing of the record succeeds.

Main theorem `legacy_given_back`.
-/
namespace ControlOfc.Gpu

/-- A verify between two of its steps. -/
inductive LegacyStage where
  | idle
  | read (card : LegacyCard) (enable raw : Option U8)
  | taken (card : LegacyCard) (original : LegacyOriginal)
  | sent (card : LegacyCard) (original : LegacyOriginal)
  | restored (card : LegacyCard)

structure LegacyHost where
  record : Option (List Char)
  stage : LegacyStage

inductive LegacyMove where
  | read (card : LegacyCard) (enable raw : Option U8)
  | take (card : LegacyCard) (enable raw : Option U8)
  | send (card : LegacyCard) (ok : Bool)
  | restore (card : LegacyCard) (original : LegacyOriginal) (ok : Bool)
  | handBack (card : LegacyCard)
  | crash

/-- `legacy_verify_sequence`, step by step. -/
inductive LegacyHost.Step : LegacyHost → LegacyMove → LegacyHost → Prop where
  | read (record : Option (List Char)) (card : LegacyCard) (enable raw : Option U8) :
    Step ⟨record, .idle⟩ (.read card enable raw) ⟨record, .read card enable raw⟩
  | take (record : Option (List Char)) (card : LegacyCard) (enable raw : Option U8) :
    Step ⟨record, .read card enable raw⟩ (.take card enable raw)
      ⟨(noteLegacyTake record card.hwmonPath (.fromRead enable raw)).2,
        .taken card (noteLegacyTake record card.hwmonPath (.fromRead enable raw)).1⟩
  | send (record : Option (List Char)) (card : LegacyCard) (original : LegacyOriginal) (ok : Bool) :
    Step ⟨record, .taken card original⟩ (.send card ok) ⟨record, .sent card original⟩
  | restore (record : Option (List Char)) (card : LegacyCard) (original : LegacyOriginal) (ok : Bool) :
    Step ⟨record, .sent card original⟩ (.restore card original ok) ⟨record, if ok then .restored card else .idle⟩
  | handBack (record : Option (List Char)) (card : LegacyCard) :
    Step ⟨record, .restored card⟩ (.handBack card) ⟨noteLegacyHandedBack record card.hwmonPath, .idle⟩
  | crash (record : Option (List Char)) (stage : LegacyStage) : Step ⟨record, stage⟩ .crash ⟨record, .idle⟩

/-- Any number of verifies and crashes over the record that was found. -/
inductive LegacyHost.Run (found : Option (List Char)) : List LegacyMove → LegacyHost → Prop where
  | start : Run found [] ⟨found, .idle⟩
  | step {moves : List LegacyMove} {s s' : LegacyHost} {m : LegacyMove} (h : Run found moves s) (hs : s.Step m s') :
    Run found (moves ++ [m]) s'

/-! ## What the moves say of one fan -/

section History

variable (enable : List Char)

/-- The first take since the fan's line was last dropped, and what was read before it. -/
def firstTake (moves : List LegacyMove) : Option (LegacyCard × Option U8 × Option U8) :=
  moves.foldl (fun first m => match m with
    | .take card e raw => if card.enable = enable then first.or (some (card, e, raw)) else first
    | .handBack card => if card.enable = enable then none else first
    | _ => first) none

/-- A test write was sent to the fan, and no restore has succeeded since. -/
def unrestored (moves : List LegacyMove) : Bool :=
  moves.foldl (fun sent m => match m with
    | .send card _ => if card.enable = enable then true else sent
    | .restore card _ ok => if card.enable = enable ∧ ok then false else sent
    | _ => sent) false

/-- A line of the fan was dropped. -/
def dropped (moves : List LegacyMove) : Bool :=
  moves.foldl (fun gone m => match m with
    | .handBack card => if card.enable = enable then true else gone
    | _ => gone) false

/-- The fan's lines: those that were found until they are dropped, then one for the first take. -/
def owedLines (found : List Line) (moves : List LegacyMove) : List Line :=
  if found ≠ [] ∧ dropped enable moves = false then found
  else ((firstTake enable moves).map fun (card, e, raw) => recordLine card.hwmonPath (.fromRead e raw)).toList

variable {enable}

theorem firstTake_concat (moves : List LegacyMove) (m : LegacyMove) :
    firstTake enable (moves ++ [m]) = match m with
      | .take card e raw => if card.enable = enable then (firstTake enable moves).or (some (card, e, raw))
        else firstTake enable moves
      | .handBack card => if card.enable = enable then none else firstTake enable moves
      | _ => firstTake enable moves := by
  rw [firstTake, List.foldl_append]
  rfl

theorem unrestored_concat (moves : List LegacyMove) (m : LegacyMove) :
    unrestored enable (moves ++ [m]) = match m with
      | .send card _ => if card.enable = enable then true else unrestored enable moves
      | .restore card _ ok => if card.enable = enable ∧ ok then false else unrestored enable moves
      | _ => unrestored enable moves := by
  rw [unrestored, List.foldl_append]
  rfl

theorem dropped_concat (moves : List LegacyMove) (m : LegacyMove) :
    dropped enable (moves ++ [m]) = match m with
      | .handBack card => if card.enable = enable then true else dropped enable moves
      | _ => dropped enable moves := by
  rw [dropped, List.foldl_append]
  rfl

/-- A take and a hand-back are what changes them. -/
theorem owedLines_concat (found : List Line) (moves : List LegacyMove) (m : LegacyMove) :
    owedLines enable found (moves ++ [m]) = match m with
      | .take card e raw =>
        if card.enable = enable ∧ owedLines enable found moves = [] then [recordLine card.hwmonPath (.fromRead e raw)]
        else owedLines enable found moves
      | .handBack card => if card.enable = enable then [] else owedLines enable found moves
      | _ => owedLines enable found moves := by
  unfold owedLines
  rw [firstTake_concat, dropped_concat]
  cases m with
  | take card e raw =>
    by_cases hc : card.enable = enable
    · by_cases hf : found ≠ [] ∧ dropped enable moves = false
      · simp [hf]
      · cases firstTake enable moves <;> simp [hc, hf]
    · simp [hc]
  | handBack card =>
    by_cases hc : card.enable = enable <;> simp [hc]
  | _ => rfl

/-- The fan of a first take. -/
theorem firstTake_enable {moves : List LegacyMove} {card : LegacyCard} {e raw : Option U8}
    (h : firstTake enable moves = some (card, e, raw)) : card.enable = enable := by
  induction moves using List.reverseRecOn with
  | nil => cases h
  | append_singleton rest m ih =>
    rw [firstTake_concat] at h
    cases m with
    | take card' e' raw' =>
      dsimp only at h
      split at h
      · next hc =>
        cases hfirst : firstTake enable rest with
        | none =>
          rw [hfirst] at h
          cases h
          exact hc
        | some first =>
          rw [hfirst, Option.some_or] at h
          exact ih (hfirst.trans h)
      · exact ih h
    | handBack card' =>
      dsimp only at h
      split at h
      · cases h
      · exact ih h
    | _ => exact ih h

end History

/-! ## The run -/

/-- A line is of one fan. -/
theorem ofFan_inj {enable enable' : List Char} {l : Line} (h : ofFan enable l = true) (h' : ofFan enable' l = true) :
    enable = enable' := by
  unfold ofFan at h h'
  rw [beq_iff_eq] at h h'
  exact Option.some.inj (h.symm.trans h')

/-- What the record says a fan is given back. -/
def originalOf (enable : List Char) (lines : List Line) : LegacyOriginal :=
  (lines.findSome? (standing enable)).getD (.mode amdgpuPwmEnableAuto)

/-- After `moves` from the record `found`. -/
structure LegacyInv (found : Option (List Char)) (moves : List LegacyMove) (s : LegacyHost) : Prop where
  tidy : Tidy s.record
  lines : ∀ enable, fanLines s.record enable = owedLines enable (fanLines found enable) moves
  stage : match s.stage with
    | .idle | .read .. => True
    | .taken card o | .sent card o =>
      fanLines s.record card.enable ≠ [] ∧ o = originalOf card.enable (fanLines s.record card.enable)
    | .restored card => fanLines s.record card.enable ≠ [] ∧ unrestored card.enable moves = false
  sent : ∀ enable, unrestored enable moves = true → fanLines s.record enable ≠ []

namespace LegacyInv

variable {found : Option (List Char)} {moves : List LegacyMove}

theorem start (h : Tidy found) : LegacyInv found [] ⟨found, .idle⟩ where
  tidy := h
  lines enable := by
    cases hf : fanLines found enable <;> simp [owedLines, dropped, firstTake]
  stage := trivial
  sent enable h := by cases h

/-- A take: the fan's first line, or the record as it was. -/
theorem fanLines_take {record : Option (List Char)} (htidy : Tidy record) (card : LegacyCard) (o : LegacyOriginal)
    (enable : List Char) :
    fanLines (noteLegacyTake record card.hwmonPath o).2 enable =
      (if card.enable = enable ∧ fanLines record enable = [] then [recordLine card.hwmonPath o] else fanLines record enable) ∧
    Tidy (noteLegacyTake record card.hwmonPath o).2 ∧
    (noteLegacyTake record card.hwmonPath o).1 =
      originalOf card.enable (fanLines (noteLegacyTake record card.hwmonPath o).2 card.enable) := by
  by_cases h : fanLines record card.enable = []
  · obtain ⟨ho, hlines, htidy'⟩ := noteLegacyTake_first (o := o) htidy h
    have hfan : ∀ enable, fanLines (noteLegacyTake record card.hwmonPath o).2 enable =
        fanLines record enable ++ if card.enable = enable then [recordLine card.hwmonPath o] else [] := by
      intro enable
      unfold fanLines
      rw [hlines, List.filter_append]
      by_cases hc : card.enable = enable <;> simp [List.filter, ofFan_recordLine, hc]
    refine ⟨?_, htidy', ?_⟩
    · rw [hfan]
      by_cases hc : card.enable = enable
      · subst hc
        simp [h]
      · simp [hc]
    · rw [ho, hfan, h, if_pos rfl]
      simp [originalOf, standing_recordLine]
  · rw [noteLegacyTake_later h]
    refine ⟨?_, htidy, rfl⟩
    by_cases hc : card.enable = enable
    · subst hc
      simp [h]
    · simp [hc]

theorem step {s s' : LegacyHost} {m : LegacyMove} (h : LegacyInv found moves s) (hs : s.Step m s') :
    LegacyInv found (moves ++ [m]) s' := by
  cases hs with
  | read record card enable raw =>
    exact ⟨h.tidy, fun p => (h.lines p).trans (by rw [owedLines_concat]), trivial,
      fun p hp => h.sent p (by rwa [unrestored_concat] at hp)⟩
  | take record card enable raw =>
    have hfan := fun p => fanLines_take h.tidy card (.fromRead enable raw) p
    refine ⟨(hfan []).2.1, ?_, ⟨?_, (hfan []).2.2⟩, ?_⟩
    · intro p
      rw [(hfan p).1, owedLines_concat, ← h.lines p]
    · rw [(hfan card.enable).1]
      split
      · exact List.cons_ne_nil _ _
      · next hne => exact fun hnil => hne ⟨rfl, hnil⟩
    · intro p hp
      rw [unrestored_concat] at hp
      rw [(hfan p).1, if_neg fun hc => h.sent p hp hc.2]
      exact h.sent p hp
  | send record card original ok =>
    refine ⟨h.tidy, fun p => (h.lines p).trans (by rw [owedLines_concat]), h.stage, ?_⟩
    intro p hp
    rw [unrestored_concat] at hp
    dsimp only at hp
    split at hp
    · next hc => exact hc ▸ h.stage.1
    · exact h.sent p hp
  | restore record card original ok =>
    refine ⟨h.tidy, fun p => (h.lines p).trans (by rw [owedLines_concat]), ?_, ?_⟩
    · cases ok with
      | false => trivial
      | true => exact ⟨h.stage.1, by rw [unrestored_concat]; simp⟩
    · intro p hp
      rw [unrestored_concat] at hp
      dsimp only at hp
      split at hp
      · cases hp
      · exact h.sent p hp
  | handBack record card =>
    obtain ⟨hlines, htidy⟩ : gpuRecordLines (noteLegacyHandedBack record card.hwmonPath) = otherGpuLines record card.enable ∧
      Tidy (noteLegacyHandedBack record card.hwmonPath) := noteLegacyHandedBack_lines h.tidy
    have hfan : ∀ p, fanLines (noteLegacyHandedBack record card.hwmonPath) p =
        if card.enable = p then [] else fanLines record p := by
      intro p
      unfold fanLines
      rw [hlines, otherGpuLines, List.filter_filter]
      by_cases hc : card.enable = p
      · subst hc
        simp
      · rw [if_neg hc]
        refine List.filter_congr fun l _ => ?_
        by_cases hp : ofFan p l = true
        · have hother : ofFan card.enable l = false := by
            by_contra hfan
            exact hc (ofFan_inj (by simpa using hfan) hp)
          simp [hp, hother]
        · simp [hp]
    refine ⟨htidy, ?_, trivial, ?_⟩
    · intro p
      rw [hfan, owedLines_concat, ← h.lines p]
    · intro p hp
      rw [unrestored_concat] at hp
      have hne : card.enable ≠ p := by
        rintro rfl
        rw [h.stage.2] at hp
        cases hp
      rw [hfan, if_neg hne]
      exact h.sent p hp
  | crash record stage =>
    exact ⟨h.tidy, fun p => (h.lines p).trans (by rw [owedLines_concat]), trivial,
      fun p hp => h.sent p (by rwa [unrestored_concat] at hp)⟩

theorem run {s : LegacyHost} (hfound : Tidy found) (h : LegacyHost.Run found moves s) : LegacyInv found moves s := by
  induction h with
  | start => exact .start hfound
  | step _ hs ih => exact ih.step hs

end LegacyInv

/-- **A legacy fan is given back what it was first found with.** After any number of verifies and crashes,
`card` is one whose line the first take since it was last dropped wrote, or one with lines that were found. -/
theorem legacy_given_back {found : Option (List Char)} {moves : List LegacyMove} {s : LegacyHost} (hfound : Tidy found)
    (hrun : LegacyHost.Run found moves s) (card : LegacyCard) :
    ((fanLines found card.enable = [] ∨ dropped card.enable moves = true) →
      (unrestored card.enable moves = true → ∃ first e raw, firstTake card.enable moves = some (first, e, raw) ∧
        fanLines s.record card.enable = [recordLine first.hwmonPath (.fromRead e raw)]) ∧
      (fanLines s.record card.enable).length ≤ 1 ∧
      ∀ o ok s', s.Step (.restore card o ok) s' →
        ∃ first e raw, firstTake card.enable moves = some (first, e, raw) ∧ o = .fromRead e raw) ∧
    (fanLines found card.enable ≠ [] → dropped card.enable moves = false →
      fanLines s.record card.enable = fanLines found card.enable ∧
      ∀ o ok s', s.Step (.restore card o ok) s' → o = originalOf card.enable (fanLines found card.enable) ∧
        ((∀ l ∈ fanLines found card.enable, standing card.enable l = none) → o = .mode amdgpuPwmEnableAuto)) ∧
    ∀ s', s.Step (.handBack card) s' → fanLines s.record card.enable ≠ [] ∧
      gpuRecordLines s'.record = (gpuRecordLines s.record).filter fun l => !ofFan card.enable l := by
  have hinv := LegacyInv.run hfound hrun
  have hlines := hinv.lines card.enable
  have hrestore : ∀ {o ok s'}, s.Step (.restore card o ok) s' →
      fanLines s.record card.enable ≠ [] ∧ o = originalOf card.enable (fanLines s.record card.enable) := by
    intro o ok s' hs
    cases hs
    exact hinv.stage
  refine ⟨?_, ?_, ?_⟩
  · intro hfirst
    have howed : ¬(fanLines found card.enable ≠ [] ∧ dropped card.enable moves = false) := by
      rintro ⟨hne, hkept⟩
      rcases hfirst with hnil | hgone
      · exact hne hnil
      · rw [hkept] at hgone
        cases hgone
    rw [owedLines, if_neg howed] at hlines
    have htake : fanLines s.record card.enable ≠ [] → ∃ first e raw,
        firstTake card.enable moves = some (first, e, raw) ∧
        fanLines s.record card.enable = [recordLine first.hwmonPath (.fromRead e raw)] := by
      intro hne
      cases hf : firstTake card.enable moves with
      | none =>
        rw [hf] at hlines
        exact absurd hlines hne
      | some first =>
        rw [hf] at hlines
        exact ⟨first.1, first.2.1, first.2.2, rfl, hlines⟩
    refine ⟨fun hsent => htake (hinv.sent _ hsent), ?_, ?_⟩
    · rw [hlines]
      cases firstTake card.enable moves <;> simp
    · intro o ok s' hs
      obtain ⟨hne, ho⟩ := hrestore hs
      obtain ⟨first, e, raw, hf, hl⟩ := htake hne
      have henable := firstTake_enable hf
      refine ⟨first, e, raw, hf, ho.trans ?_⟩
      rw [hl, ← henable]
      simp [originalOf, standing_recordLine]
  · intro hne hkept
    rw [owedLines, if_pos ⟨hne, hkept⟩] at hlines
    refine ⟨hlines, ?_⟩
    intro o ok s' hs
    have ho := (hrestore hs).2
    rw [hlines] at ho
    refine ⟨ho, fun hunread => ho.trans ?_⟩
    have hnone : (fanLines found card.enable).findSome? (standing card.enable) = none :=
      List.findSome?_eq_none_iff.mpr hunread
    rw [originalOf, hnone]
    rfl
  · intro s' hs
    cases hs
    exact ⟨hinv.stage.1, (noteLegacyHandedBack_lines hinv.tidy).1⟩

/-- A card that was on automatic. -/
def legacyCard : LegacyCard := ⟨"/sys/class/hwmon/hwmon3".toList, by simp, by decide⟩

theorem legacy_given_back_sent :
    ∃ s, LegacyHost.Run none [.read legacyCard (some 2) (some 60), .take legacyCard (some 2) (some 60), .send legacyCard false] s ∧
      ∃ first e raw, firstTake legacyCard.enable
        [.read legacyCard (some 2) (some 60), .take legacyCard (some 2) (some 60), .send legacyCard false] = some (first, e, raw) ∧
        fanLines s.record legacyCard.enable = [recordLine first.hwmonPath (.fromRead e raw)] := by
  have hrun := ((LegacyHost.Run.start : LegacyHost.Run none [] _).step (.read none legacyCard (some 2) (some 60))).step (.take ..)
    |>.step (.send _ _ _ false)
  exact ⟨_, hrun, ((legacy_given_back (fun l hl => absurd hl List.not_mem_nil) hrun legacyCard).1 (.inl rfl)).1 (by decide)⟩

/-- A crash between the record and the test write leaves a line of what was read then, not of what is read before
the first write; and a path that starts like a comment has no line. -/
theorem line_of_an_earlier_take :
    (∃ s, LegacyHost.Run none [.read legacyCard (some 2) (some 60), .take legacyCard (some 2) (some 60), .crash,
        .read legacyCard (some 1) (some 191), .take legacyCard (some 1) (some 191), .send legacyCard true] s ∧
      unrestored legacyCard.enable [.read legacyCard (some 2) (some 60), .take legacyCard (some 2) (some 60), .crash,
        .read legacyCard (some 1) (some 191), .take legacyCard (some 1) (some 191), .send legacyCard true] = true ∧
      fanLines s.record legacyCard.enable = [recordLine legacyCard.hwmonPath (.mode 2)] ∧
      LegacyOriginal.fromRead (some 1) (some 191) = .manual 191) ∧
    (noteLegacyTake (noteLegacyTake none "#card".toList (.mode 2)).2 "#card".toList (.manual 191)).1 = .manual 191 := by
  refine ⟨?_, by decide⟩
  have hrun := ((LegacyHost.Run.start : LegacyHost.Run none [] _).step (.read none legacyCard (some 2) (some 60))).step (.take ..)
    |>.step (.crash ..) |>.step (.read _ legacyCard (some 1) (some 191)) |>.step (.take ..) |>.step (.send _ _ _ true)
  exact ⟨_, hrun, by decide, by decide, rfl⟩

end ControlOfc.Gpu
