import ControlOfc.Lib.History
import ControlOfc.Lib.Machine
import ControlOfc.OpenFan.Emergency
/-! # Pre-emergency duties come back

What the log of a run may look like is an abstract machine of three phases: nothing owed, the duties of
one emergency owed, a give-back of them under way. `Story` is its language; every run of the backend
tells a story whose phase is read off the slot and the task.

The pause is looked at before the controller is locked, so a pause that begins in between finds the
duties recorded all the same. The result is about the runs in which none does.
-/
namespace ControlOfc.OpenFan
open ControlOfc.Pwm

/-! ## The abstract machine -/

/-- What an emergency owes: nothing where its snapshot was taken under a pause. -/
def owed (paused : Bool) (known : Duties) : Duties := fun i => if paused then none else known i

/-- The commands of a give-back over these channels, in channel order. -/
def givesOver (duties : Duties) (members : Channels) (floorPct : Nat) (is : List Ch) : List (Ch × Nat) :=
  is.filterMap fun i => (returnable duties members floorPct i).map (i, ·)

def gives (duties : Duties) (members : Channels) (floorPct : Nat) : List (Ch × Nat) :=
  givesOver duties members floorPct (List.finRange numChannels)

theorem mem_gives {duties : Duties} {members : Channels} {floorPct : Nat} {i : Ch} {pct : Nat} :
    (i, pct) ∈ gives duties members floorPct ↔
      members i = false ∧ ∃ d, duties i = some d ∧ pct = exitDuty (some d) floorPct := by
  unfold gives givesOver returnable
  simp only [List.mem_filterMap, List.mem_finRange, true_and]
  constructor
  · rintro ⟨j, hj⟩
    cases hm : members j with
    | true => simp [hm] at hj
    | false =>
      simp only [hm, Bool.false_eq_true, if_false, Option.map_map, Option.map_eq_some_iff] at hj
      obtain ⟨d, hd, he⟩ := hj
      obtain ⟨rfl, rfl⟩ := Prod.mk.inj he
      exact ⟨hm, d, hd, rfl⟩
  · rintro ⟨hm, d, hd, rfl⟩
    exact ⟨i, by simp [hm, hd]⟩

inductive Phase where
  | calm
  | owing (duties : Duties)
  | returning (duties : Duties) (members : Channels) (floorPct : Nat) (given left : List (Ch × Nat))

def Phase.duties : Phase → Option Duties
  | .calm => none
  | .owing d => some d
  | .returning d _ _ _ _ => some d

def toHappening (c : Ch × Nat) : Happening := .returned c.1 c.2

/-- The logs of the abstract machine, each with the phase it ends in. -/
inductive Story : List Happening → Phase → Prop where
  | nil : Story [] .calm
  | snapshot {l} (paused : Bool) (known : Duties) :
      Story l .calm → Story (l ++ [.snapshot paused known]) (.owing (owed paused known))
  | began {l d} (members : Channels) (floorPct : Nat) :
      Story l (.owing d) → Story (l ++ [.began members floorPct]) (.returning d members floorPct [] (gives d members floorPct))
  | returned {l d m f given i pct left} :
      Story l (.returning d m f given ((i, pct) :: left)) →
      Story (l ++ [.returned i pct]) (.returning d m f (given ++ [(i, pct)]) left)
  | interrupted {l d m f given left} : Story l (.returning d m f given left) → Story (l ++ [.interrupted]) (.owing d)
  | finished {l d m f given} : Story l (.returning d m f given []) → Story (l ++ [.finished]) .calm

namespace Story

theorem prefix_closed {l : List Happening} {ph : Phase} (h : Story l ph) :
    ∀ {before after : List Happening}, l = before ++ after → ∃ ph', Story before ph' := by
  have hstep : ∀ {l : List Happening} {x : Happening} {ph : Phase}, Story (l ++ [x]) ph →
      (∀ {before after : List Happening}, l = before ++ after → ∃ ph', Story before ph') →
      ∀ {before after : List Happening}, l ++ [x] = before ++ after → ∃ ph', Story before ph' := by
    intro l x ph h ih before after he
    rcases List.eq_nil_or_concat after with rfl | ⟨after', z, rfl⟩
    · rw [List.append_nil] at he
      exact ⟨ph, he ▸ h⟩
    · rw [List.concat_eq_append, ← List.append_assoc] at he
      exact ih (List.append_inj' he rfl).1
  induction h with
  | nil =>
    intro before after he
    obtain ⟨rfl, -⟩ := List.append_eq_nil_iff.mp he.symm
    exact ⟨.calm, .nil⟩
  | snapshot p k h ih => exact hstep (.snapshot p k h) ih
  | began m f h ih => exact hstep (.began m f h) ih
  | returned h ih => exact hstep (.returned h) ih
  | interrupted h ih => exact hstep (.interrupted h) ih
  | finished h ih => exact hstep (.finished h) ih

/-- Until the give-back has run to its end, the duties of the last snapshot are the ones owed, and no
other is taken. -/
theorem since_snapshot {l : List Happening} {ph : Phase} (h : Story l ph) {p : Bool} {k : Duties} {before : List Happening} :
    ∀ {after : List Happening}, l = before ++ .snapshot p k :: after → .finished ∉ after →
      ph.duties = some (owed p k) ∧ ∀ p' k', .snapshot p' k' ∉ after := by
  have hold : ∀ {l after : List Happening} {x : Happening}, l ++ [x] = before ++ .snapshot p k :: after →
      (∀ p k, x ≠ .snapshot p k) →
      ∃ after', after = after' ++ [x] ∧ l = before ++ .snapshot p k :: after' := by
    intro l after x he hx
    rcases History.concat_eq_append_cons he with ⟨-, -, hx'⟩ | h
    · exact absurd hx' (hx p k)
    · exact h
  induction h with
  | nil =>
    intro after he
    simp at he
  | snapshot p' k' h ih =>
    intro after he hf
    rcases History.concat_eq_append_cons he with ⟨rfl, -, hx⟩ | ⟨after', rfl, hl⟩
    · obtain ⟨rfl, rfl⟩ := Happening.snapshot.inj hx
      exact ⟨rfl, fun _ _ => List.not_mem_nil⟩
    · cases (ih hl fun hm => hf (List.mem_append_left _ hm)).1
  | began m f h ih =>
    intro after he hf
    obtain ⟨after', rfl, hl⟩ := hold he (fun _ _ => nofun)
    obtain ⟨hd, hs⟩ := ih hl fun hm => hf (List.mem_append_left _ hm)
    exact ⟨hd, fun p' k' hm => by simp [hs p' k'] at hm⟩
  | returned h ih =>
    intro after he hf
    obtain ⟨after', rfl, hl⟩ := hold he (fun _ _ => nofun)
    obtain ⟨hd, hs⟩ := ih hl fun hm => hf (List.mem_append_left _ hm)
    exact ⟨hd, fun p' k' hm => by simp [hs p' k'] at hm⟩
  | interrupted h ih =>
    intro after he hf
    obtain ⟨after', rfl, hl⟩ := hold he (fun _ _ => nofun)
    obtain ⟨hd, hs⟩ := ih hl fun hm => hf (List.mem_append_left _ hm)
    exact ⟨hd, fun p' k' hm => by simp [hs p' k'] at hm⟩
  | finished h ih =>
    intro after he hf
    obtain ⟨after', rfl, -⟩ := hold he (fun _ _ => nofun)
    exact absurd (List.mem_append_right _ List.mem_cons_self) hf

/-- What a give-back has commanded and what it has left are its commands. -/
theorem given_append_left {l : List Happening} {ph : Phase} (h : Story l ph) :
    ∀ {d m f given left}, ph = .returning d m f given left → given ++ left = gives d m f := by
  induction h with
  | began m f h ih =>
    rintro d' m' f' given' left' ⟨⟩
    rfl
  | returned h ih =>
    rintro d' m' f' given' left' ⟨⟩
    rw [List.append_assoc]
    exact ih rfl
  | _ => nofun

/-- The entries since a give-back began are its commands. -/
theorem since_began {l : List Happening} {ph : Phase} (h : Story l ph) {m : Channels} {f : Nat} {before : List Happening} :
    ∀ {cs : List (Ch × Nat)}, l = before ++ .began m f :: cs.map toHappening →
      ∃ d left, ph = .returning d m f cs left := by
  have hend : ∀ {l : List Happening} {x : Happening} {cs : List (Ch × Nat)},
      l ++ [x] = before ++ .began m f :: cs.map toHappening → (∀ m f, x ≠ .began m f) →
      ∃ cs' c, cs = cs' ++ [c] ∧ x = toHappening c ∧ l = before ++ .began m f :: cs'.map toHappening := by
    intro l x cs he hx
    rcases History.concat_eq_append_cons he with ⟨-, -, hx'⟩ | ⟨after', hcs, hl⟩
    · exact absurd hx' (hx m f)
    · obtain ⟨cs', c, rfl, rfl, hc⟩ := List.map_eq_append_iff.mp hcs
      obtain ⟨c, rfl, rfl⟩ := List.map_eq_singleton_iff.mp hc
      exact ⟨cs', c, rfl, rfl, hl⟩
  induction h with
  | nil =>
    intro cs he
    simp at he
  | snapshot p k h ih =>
    intro cs he
    obtain ⟨-, c, -, hx, -⟩ := hend he (fun _ _ => nofun)
    cases hx
  | began m' f' h ih =>
    intro cs he
    rcases History.concat_eq_append_cons he with ⟨hcs, -, hx⟩ | ⟨after', hcs, -⟩
    · obtain ⟨rfl, rfl⟩ := Happening.began.inj hx
      obtain rfl : cs = [] := List.map_eq_nil_iff.mp hcs
      exact ⟨_, _, rfl⟩
    · obtain ⟨cs', c, -, -, hc⟩ := List.map_eq_append_iff.mp hcs
      obtain ⟨c, -, hx⟩ := List.map_eq_singleton_iff.mp hc
      cases hx
  | returned h ih =>
    intro cs he
    obtain ⟨cs', c, rfl, hx, hl⟩ := hend he (fun _ _ => nofun)
    obtain ⟨d, left, hph⟩ := ih hl
    obtain ⟨i, pct⟩ := c
    obtain ⟨rfl, rfl⟩ := Happening.returned.inj hx
    cases hph
    exact ⟨_, _, rfl⟩
  | interrupted h ih =>
    intro cs he
    obtain ⟨-, c, -, hx, -⟩ := hend he (fun _ _ => nofun)
    cases hx
  | finished h ih =>
    intro cs he
    obtain ⟨-, c, -, hx, -⟩ := hend he (fun _ _ => nofun)
    cases hx

/-- A give-back ends with nothing left to command. -/
theorem of_finished {l : List Happening} {ph : Phase} (h : Story (l ++ [.finished]) ph) :
    ∃ d m f given, Story l (.returning d m f given []) := by
  generalize hl : l ++ [.finished] = l' at h
  cases h with
  | nil => simp at hl
  | finished h =>
    obtain ⟨rfl, -⟩ := List.append_inj' hl rfl
    exact ⟨_, _, _, _, h⟩
  | _ =>
    have := List.singleton_inj.mp (List.append_inj' hl rfl).2
    cases this

/-- A channel is commanded in its turn. -/
theorem of_returned {l : List Happening} {ph : Phase} {i : Ch} {pct : Nat} (h : Story (l ++ [.returned i pct]) ph) :
    ∃ d m f given left, Story l (.returning d m f given ((i, pct) :: left)) := by
  generalize hl : l ++ [.returned i pct] = l' at h
  cases h with
  | nil => simp at hl
  | returned h =>
    obtain ⟨rfl, hx⟩ := List.append_inj' hl rfl
    obtain ⟨rfl, rfl⟩ := Happening.returned.inj (List.singleton_inj.mp hx)
    exact ⟨_, _, _, _, _, h⟩
  | _ =>
    have := List.singleton_inj.mp (List.append_inj' hl rfl).2
    cases this

/-- Something is owed only since a snapshot, and only a give-back commands. -/
theorem of_owing {l : List Happening} {ph : Phase} (h : Story l ph) : ∀ {d : Duties}, ph.duties = some d →
    ∃ before p k after, l = before ++ .snapshot p k :: after ∧ .finished ∉ after ∧
      ∀ {m f given left}, ph = .returning d m f given left → ∃ mid, after = mid ++ .began m f :: given.map toHappening := by
  induction h with
  | nil => nofun
  | snapshot p k h ih =>
    intro d hd
    exact ⟨_, p, k, [], rfl, List.not_mem_nil, nofun⟩
  | began m f h ih =>
    intro d hd
    obtain ⟨before, p, k, after, rfl, hf, -⟩ := ih hd
    refine ⟨before, p, k, after ++ [.began m f], by simp, by simpa using hf, ?_⟩
    rintro m' f' given left ⟨⟩
    exact ⟨after, rfl⟩
  | @returned l d' m f given i pct left h ih =>
    intro d hd
    obtain ⟨before, p, k, after, rfl, hf, hb⟩ := ih hd
    refine ⟨before, p, k, after ++ [.returned i pct], by simp, by simpa using hf, ?_⟩
    rintro m' f' given' left' ⟨⟩
    obtain ⟨mid, rfl⟩ := hb rfl
    exact ⟨mid, by simp [toHappening]⟩
  | interrupted h ih =>
    intro d hd
    obtain ⟨before, p, k, after, rfl, hf, -⟩ := ih hd
    exact ⟨before, p, k, after ++ [.interrupted], by simp, by simpa using hf, nofun⟩
  | finished h ih => nofun

end Story

/-! ## The backend tells a story -/

def Stage.isReturning : Stage → Bool
  | .returning .. => true
  | _ => false

@[simp] theorem Stage.afterWrites_isReturning (giveBack : Option Channels) :
    (Stage.afterWrites giveBack).isReturning = false := by
  cases giveBack <;> rfl

@[simp] theorem Stage.start_isReturning (c : Closure) : (Stage.start c).isReturning = false := by
  cases c with
  | write w giveBack => rfl
  | force f => by_cases h : f.recordSnapshot = true <;> simp [Stage.start, h, isReturning]

/-- The phase of a slot no give-back has taken. -/
def resting : Option Duties → Phase
  | none => .calm
  | some d => .owing d

namespace EmergencyBackend

inductive Tells (s : EmergencyBackend) : Prop where
  | resting : s.task.isReturning = false → Story s.log (resting s.preEmergency) → Tells s
  | returning {d m f rest given} : s.task = .returning d m f rest → s.preEmergency = none →
      Story s.log (.returning d m f given (givesOver d m f rest)) → Tells s

/-- The slot, the log and the task stay. -/
structure Keeps (s s' : EmergencyBackend) : Prop where
  task : s'.task = s.task
  preEmergency : s'.preEmergency = s.preEmergency
  log : s'.log = s.log

theorem Tells.of_keeps {s s' : EmergencyBackend} (h : s.Tells) (hk : Keeps s s') : s'.Tells := by
  cases h with
  | resting ht hs => exact .resting (hk.task ▸ ht) (by rw [hk.log, hk.preEmergency]; exact hs)
  | returning ht hn hs => exact .returning (hk.task.trans ht) (hk.preEmergency.trans hn) (by rw [hk.log]; exact hs)

/-- A turn of a task that is not giving back, and does not record. -/
structure Rests (s s' : EmergencyBackend) : Prop where
  task : s'.task.isReturning = false
  preEmergency : s'.preEmergency = s.preEmergency
  log : s'.log = s.log

theorem Rests.tells {s s' : EmergencyBackend} (hk : Rests s s') (hs : Story s.log (OpenFan.resting s.preEmergency)) :
    s'.Tells :=
  .resting hk.task (by rw [hk.log, hk.preEmergency]; exact hs)

theorem enqueue_keeps (s : EmergencyBackend) (c : Closure) : Keeps s (s.enqueue c) := by
  unfold enqueue
  split <;> exact ⟨rfl, rfl, rfl⟩

theorem tick_keeps (s : EmergencyBackend) (w : Work) (members : Channels) : Keeps s (s.tick w members) := by
  have hite : ∀ (c : Bool) (x : Closure), Keeps s (if c then s else s.enqueue x) := by
    intro c x
    cases c
    · exact s.enqueue_keeps x
    · exact ⟨rfl, rfl, rfl⟩
  exact hite _ _

theorem force_keeps (s : EmergencyBackend) (f : Force) : Keeps s (s.force f) := by
  unfold force
  by_cases h : f.recordSnapshot = true
  · rw [if_pos h]
    exact s.enqueue_keeps _
  · rw [if_neg h]
    obtain ⟨ht, hp, hl⟩ := (s.hold fun i => f.targets.contains i).enqueue_keeps (.force f)
    exact ⟨ht, hp, hl⟩

theorem reply_keeps (s : EmergencyBackend) (sent : Option SerialError) : Keeps s (s.reply sent) := by
  unfold reply
  dsimp only
  split <;> exact ⟨rfl, rfl, rfl⟩

theorem issue_cases (s : EmergencyBackend) : Keeps s s.issue ∨ s.task = .idle ∧ Rests s s.issue := by
  unfold issue
  split
  · next c ht hq =>
    refine .inr ⟨ht, ?_⟩
    cases c with
    | write w giveBack => exact ⟨Stage.start_isReturning (.write w giveBack), rfl, rfl⟩
    | force f => exact ⟨Stage.start_isReturning (.force f), rfl, rfl⟩
  · exact .inl ⟨rfl, rfl, rfl⟩

theorem turnWriting_rests (s : EmergencyBackend) (t : Task) (giveBack : Option Channels) :
    Rests s (s.turnWriting t giveBack) := by
  simp only [turnWriting]
  refine ⟨?_, ?_, ?_⟩
  · dsimp only
    split
    · exact Stage.afterWrites_isReturning giveBack
    · rfl
  · split
    · split <;> rfl
    · rfl
  · split
    · split <;> rfl
    · rfl

theorem turnForcing_rests (s : EmergencyBackend) (f : Force) (rest : List Ch) (ht : s.task = .forcing f rest) :
    Rests s (s.turnForcing f rest) := by
  cases rest with
  | nil => exact ⟨Stage.afterWrites_isReturning _, rfl, rfl⟩
  | cons i rest =>
    simp only [turnForcing]
    split
    · exact ⟨by rw [ht]; rfl, rfl, rfl⟩
    · split
      · exact ⟨Stage.afterWrites_isReturning _, rfl, rfl⟩
      · exact ⟨rfl, rfl, rfl⟩

theorem turnReleasing_rests (s : EmergencyBackend) (members : Channels) (floorPct : Nat) (rest : List Ch)
    (ht : s.task = .releasing members floorPct rest) : Rests s (s.turnReleasing members floorPct rest) := by
  cases rest with
  | nil => exact ⟨rfl, rfl, rfl⟩
  | cons i rest =>
    simp only [turnReleasing]
    split
    · exact ⟨by rw [ht]; rfl, rfl, rfl⟩
    · split
      · exact ⟨rfl, rfl, rfl⟩
      · split
        · split <;> exact ⟨rfl, rfl, rfl⟩
        · exact ⟨rfl, rfl, rfl⟩

/-- The read of a snapshot does not fall into a pause its check has missed. -/
def ReadsUnpaused (s : EmergencyBackend) : EmergencyEvent → Prop
  | .turn =>
    match s.task with
    | .reading _ => s.port.inFlight.isSome ∨ s.port.paused = false
    | _ => True
  | _ => True

instance (s : EmergencyBackend) (e : EmergencyEvent) : Decidable (s.ReadsUnpaused e) :=
  match e with
  | .turn =>
    match h : s.task with
    | .reading _ => decidable_of_iff (s.port.inFlight.isSome ∨ s.port.paused = false) (by simp [ReadsUnpaused, h])
    | .idle | .writing .. | .checking _ | .forcing .. | .release _ | .releasing .. | .taking _ | .returning .. =>
      isTrue (by simp [ReadsUnpaused, h])
  | .port _ | .suspend _ | .exitFloor _ | .tick .. | .force _ | .issue | .drop => isTrue trivial

theorem turnChecking_tells {s : EmergencyBackend} {f : Force} (hs : Story s.log (OpenFan.resting s.preEmergency)) :
    (s.turnChecking f).Tells := by
  unfold turnChecking
  split
  · exact .resting rfl hs
  · next hn =>
    obtain hn : s.preEmergency = none := by simpa using hn
    rw [hn] at hs
    split
    · exact .resting rfl (Story.snapshot true s.port.lastKnownDuty hs)
    · exact .resting rfl (hn ▸ hs)

theorem turnReading_tells {s : EmergencyBackend} {f : Force} (ht : s.task = .reading f)
    (hs : Story s.log (OpenFan.resting s.preEmergency)) (hg : s.port.inFlight.isSome ∨ s.port.paused = false) :
    (s.turnReading f).Tells := by
  unfold turnReading
  split
  · exact .resting (by rw [ht]; rfl) hs
  · next hf =>
    split
    · next d hd => exact .resting rfl hs
    · next hn =>
      rw [hn] at hs
      have hst := Story.snapshot s.port.paused s.port.lastKnownDuty hs
      have howed : owed s.port.paused s.port.lastKnownDuty = s.port.lastKnownDuty := by
        rw [hg.resolve_left hf]
        rfl
      rw [howed] at hst
      exact .resting rfl hst

theorem turnReturning_tells {s : EmergencyBackend} {d : Duties} {m : Channels} {f : Nat} {rest : List Ch}
    {given : List (Ch × Nat)} (ht : s.task = .returning d m f rest) (hn : s.preEmergency = none)
    (hs : Story s.log (.returning d m f given (givesOver d m f rest))) : (s.turnReturning d m f rest).Tells := by
  cases rest with
  | nil =>
    refine .resting rfl ?_
    show Story _ (OpenFan.resting s.preEmergency)
    rw [hn]
    exact Story.finished hs
  | cons i rest =>
    simp only [turnReturning]
    cases hr : returnable d m f i with
    | none =>
      have hleft : givesOver d m f (i :: rest) = givesOver d m f rest := by simp [givesOver, hr]
      exact .returning rfl hn (hleft ▸ hs)
    | some duty =>
      have hleft : givesOver d m f (i :: rest) = (i, duty) :: givesOver d m f rest := by simp [givesOver, hr]
      rw [hleft] at hs
      dsimp only
      split
      · exact .returning ht hn (hleft ▸ hs)
      · split
        · refine .resting rfl ?_
          show Story _ (OpenFan.resting (s.preEmergency.or (some d)))
          rw [hn]
          exact Story.interrupted hs
        · exact .returning rfl hn (Story.returned hs)

theorem Tells.turn {s : EmergencyBackend} (h : s.Tells) (hg : s.ReadsUnpaused .turn) : s.turn.Tells := by
  cases h with
  | returning ht hn hs =>
    unfold EmergencyBackend.turn
    rw [ht]
    exact turnReturning_tells ht hn hs
  | resting ht hs =>
    cases htask : s.task with
    | idle =>
      simp only [EmergencyBackend.turn, htask]
      exact .resting ht hs
    | writing t giveBack =>
      simp only [EmergencyBackend.turn, htask]
      exact (s.turnWriting_rests t giveBack).tells hs
    | checking f =>
      simp only [EmergencyBackend.turn, htask]
      exact turnChecking_tells hs
    | reading f =>
      simp only [ReadsUnpaused, htask] at hg
      simp only [EmergencyBackend.turn, htask]
      exact turnReading_tells htask hs hg
    | forcing f rest =>
      simp only [EmergencyBackend.turn, htask]
      exact (s.turnForcing_rests f rest htask).tells hs
    | release members =>
      simp only [EmergencyBackend.turn, htask]
      exact .resting rfl hs
    | releasing members floorPct rest =>
      simp only [EmergencyBackend.turn, htask]
      exact (s.turnReleasing_rests members floorPct rest htask).tells hs
    | taking members =>
      simp only [EmergencyBackend.turn, htask]
      split
      · exact .resting rfl hs
      · split
        · exact .resting rfl hs
        · next d hp =>
          rw [hp] at hs
          exact .returning rfl rfl (Story.began members s.exitFloor hs)
    | returning d m f rest =>
      rw [htask] at ht
      cases ht

theorem Tells.step {s : EmergencyBackend} {e : EmergencyEvent} (h : s.Tells) (hg : s.ReadsUnpaused e) :
    (s.step e).Tells := by
  cases e with
  | port e => cases e <;> first | exact h.of_keeps (s.reply_keeps _) | exact h.of_keeps ⟨rfl, rfl, rfl⟩
  | tick w members => exact h.of_keeps (s.tick_keeps w members)
  | force f => exact h.of_keeps (s.force_keeps f)
  | issue =>
    rcases s.issue_cases with hk | ⟨hi, hk⟩
    · exact h.of_keeps hk
    · cases h with
      | resting ht hs => exact hk.tells hs
      | returning ht hn hs =>
        rw [hi] at ht
        cases ht
  | turn => exact h.turn hg
  | _ => exact h.of_keeps ⟨rfl, rfl, rfl⟩

/-- Channel 0 holds 40 % and an emergency forces every channel; `late` falls between the look at the pause
and the read of the duties, `after` stands for the rest. -/
def emergencyRun (late after : List EmergencyEvent) : List EmergencyEvent :=
  [.port (.call 0 40), .port (.reply none), .force ⟨100, fun _ => none, .all⟩, .issue, .turn] ++ late ++
    .turn :: (List.replicate 10 [.turn, .port (.reply none)]).flatten ++ .turn :: after

def freshBackend : EmergencyBackend := start ⟨.new, ⟨0, .empty⟩, 0, false, none, []⟩ 0

/-- The next tick of a profile with no members, up to the give-back's first command. -/
def nextTick : List EmergencyEvent := [.tick ⟨[], []⟩ fun _ => false, .issue, .turn, .turn, .turn, .turn, .turn]

end EmergencyBackend

end ControlOfc.OpenFan
