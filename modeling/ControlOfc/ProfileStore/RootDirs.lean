import ControlOfc.ProfileStore.SearchDirs
import Mathlib.Tactic.Cases
/-! # Root's search directories

Between the claim of a directory and its release one walk is in it, and a walk waits for another no longer than
its own deadline. A walk goes past one of root's directories only where the holder's open has not returned for
`hung_after`, so that the claim is not marked; a listing that answers has read to its end each of root's
directories it has come to.
-/
namespace ControlOfc.ProfileStore.Search

/-! ## The names of a directory -/

/-- The names a directory is listed by, of those it has been seen to hold. -/
def firstNames (seen : List String) : List String := (seen.insertionSort (· ≤ ·)).take maxProfilesListedPerDir

theorem take_orderedInsert_take (x : String) :
    ∀ (k : Nat) (l : List String), ((l.take k).orderedInsert (· ≤ ·) x).take k = (l.orderedInsert (· ≤ ·) x).take k
  | 0, _ => rfl
  | _ + 1, [] => rfl
  | k + 1, y :: l => by
    simp only [List.take_succ_cons, List.orderedInsert_cons]
    split
    · cases k with
      | zero => rfl
      | succ k => simp [List.take_take]
    · rw [List.take_succ_cons, List.take_succ_cons, take_orderedInsert_take x k l]

/-- The heap of the smallest names holds the first of all names given. -/
theorem keepSmallest_firstNames (seen : List String) (name : String) :
    Dirs.keepSmallest (firstNames seen) name = firstNames (name :: seen) :=
  take_orderedInsert_take name _ _

/-! ## What a walk keeps -/

/-- Between the claim of the directory ahead and its release. -/
def Phase.inside : Phase → Bool
  | .entering | .claiming | .waiting _ | .done _ => false
  | _ => true

/-- The claim of a directory of root's is marked. -/
def Phase.marked : Phase → Bool
  | .entering | .claiming | .waiting _ | .done _ | .opening | .marking => false
  | _ => true

theorem Phase.at_open {p : Phase} (hin : p.inside = true) (hm : p.marked = false) : p = .opening ∨ p = .marking := by
  cases p <;> simp [Phase.inside, Phase.marked] at hin hm ⊢

/-- What a walk may find of a directory of root's that is there, and go on. -/
def Visit.Complete (want : Want) : Visit → Prop
  | .noCopy => want = .byId
  | .readToEnd seen tried => want = .list ∧ tried = firstNames seen
  | .hung => True
  | _ => False

section
variable (root there : Dir → Bool) (dirs : List Dir) (now : Nat)

def Looked (want : Want) (v : Dir × Visit) : Prop := root v.1 = true → there v.1 = true → v.2.Complete want

/-- What stands behind a result. -/
def Call.Ends (c : Call) : Result → Prop
  | .found d _ =>
    c.want = .byId ∧ ∃ before, c.visited = before ++ [(d, .found)] ∧ ∀ v ∈ before, Looked root there c.want v
  | .nothing => c.want = .byId ∧ c.ahead = [] ∧ ∀ v ∈ c.visited, Looked root there c.want v
  | .listed _ => c.want = .list ∧ (c.ahead = [] ∨ c.deadline ≤ now) ∧ ∀ v ∈ c.visited, Looked root there c.want v
  | .outOfTime => True

/-- The directories behind are looked at as a walk must; of the one it leaves, that is so once it has left. -/
def Call.Behind (c : Call) : Prop :=
  match c.phase with
  | .leaving visit none => ∀ v ∈ (c.passed visit none).visited, Looked root there c.want v
  | .leaving visit (some r) => (c.passed visit (some r)).Ends root there now r
  | .done r => c.Ends root there now r
  | _ => ∀ v ∈ c.visited, Looked root there c.want v

/-- What the phase says of the directory ahead. -/
def Call.Within (c : Call) : Prop :=
  match c.phase with
  | .waiting limit => limit ≤ c.deadline
  | .reading => c.want = .byId
  | .scanning => c.want = .list
  | .enumerating names => c.want = .list ∧ c.tried = [] ∧ names = firstNames c.seen
  | .listing names outOfTime | .fetching names outOfTime =>
    c.want = .list ∧ (outOfTime = false → c.tried ++ names = firstNames c.seen) ∧
      (outOfTime = true → c.deadline ≤ now ∧ ∀ d ∈ c.ahead.head?, root d = false)
  | .leaving visit result =>
    visit ≠ .hung ∧ (visit = .cut → c.deadline ≤ now) ∧
      ∀ out, result = some (.listed out) → visit = .cut ∧ ∀ d ∈ c.ahead.head?, root d = false
  | _ => True

structure Call.Fair (c : Call) : Prop where
  walk : c.visited.map Prod.fst ++ c.ahead = dirs
  behind : c.Behind root there now
  within : c.Within root now

end

section
variable {root there : Dir → Bool} {dirs : List Dir} {now : Nat}

theorem Call.Ends.later {c : Call} {r : Result} (h : c.Ends root there now r) {now' : Nat} (hle : now ≤ now') :
    c.Ends root there now' r := by
  cases r with
  | listed out => exact ⟨h.1, h.2.1.imp_right fun hd => Nat.le_trans hd hle, h.2.2⟩
  | found d text => exact h
  | nothing => exact h
  | outOfTime => trivial

theorem Call.Fair.later {c : Call} (h : c.Fair root there dirs now) {now' : Nat} (hle : now ≤ now') :
    c.Fair root there dirs now' := by
  obtain ⟨hwalk, hb, hw⟩ := h
  refine ⟨hwalk, ?_, ?_⟩
  · unfold Call.Behind at hb ⊢
    cases hp : c.phase with
    | leaving visit result =>
      simp only [hp] at hb
      cases result with
      | none => exact hb
      | some r => exact Call.Ends.later hb hle
    | done r =>
      simp only [hp] at hb
      exact Call.Ends.later hb hle
    | _ =>
      simp only [hp] at hb
      exact hb
  · have hlate : ∀ {P : Prop} {b : Bool}, (b = true → c.deadline ≤ now ∧ P) → b = true → c.deadline ≤ now' ∧ P :=
      fun h hb => ⟨Nat.le_trans (h hb).1 hle, (h hb).2⟩
    unfold Call.Within at hw ⊢
    cases hp : c.phase with
    | listing names outOfTime =>
      simp only [hp] at hw
      exact ⟨hw.1, hw.2.1, hlate hw.2.2⟩
    | fetching names outOfTime =>
      simp only [hp] at hw
      exact ⟨hw.1, hw.2.1, hlate hw.2.2⟩
    | leaving visit result =>
      simp only [hp] at hw
      exact ⟨hw.1, fun hc => Nat.le_trans (hw.2.1 hc) hle, hw.2.2⟩
    | _ =>
      simp only [hp] at hw
      exact hw

theorem Call.fair_new (want : Want) (deadline : Nat) : (Call.new want deadline dirs).Fair root there dirs now :=
  ⟨rfl, nofun, trivial⟩

theorem Call.passed_eq {c : Call} {d : Dir} {rest : List Dir} (hd : c.ahead = d :: rest) (visit : Visit)
    (result : Option Result) :
    c.passed visit result =
      { c with
        visited := c.visited ++ [(d, visit)], ahead := rest,
        phase := match result with
          | none => .entering
          | some r => .done r } := by
  cases result <;> simp only [Call.passed, hd]

theorem Call.passed_phase {c : Call} {d : Dir} {rest : List Dir} (hd : c.ahead = d :: rest) (p : Phase) (visit : Visit)
    (result : Option Result) : ({ c with phase := p } : Call).passed visit result = c.passed visit result := by
  rw [Call.passed_eq hd, Call.passed_eq (c := { c with phase := p }) hd]

theorem Looked.append {want : Want} {visited : List (Dir × Visit)} (h : ∀ v ∈ visited, Looked root there want v)
    {v : Dir × Visit} (hv : Looked root there want v) : ∀ u ∈ visited ++ [v], Looked root there want u := by
  intro u hu
  rcases List.mem_append.mp hu with hu | hu
  · exact h u hu
  · obtain rfl := List.mem_singleton.mp hu
    exact hv

theorem Call.byId_or_list (c : Call) : c.want = .byId ∨ c.want = .list := by
  cases c.want <;> simp

theorem Call.Fair.opened {c : Call} (hc : c.Fair root there dirs now) (hb : ∀ v ∈ c.visited, Looked root there c.want v) :
    ({ c with phase := Dirs.afterOpen c } : Call).Fair root there dirs now := by
  rcases c.byId_or_list with hw | hw
  · rw [show Dirs.afterOpen c = .reading by simp only [Dirs.afterOpen, hw]]
    exact ⟨hc.walk, hb, hw⟩
  · rw [show Dirs.afterOpen c = .scanning by simp only [Dirs.afterOpen, hw]]
    exact ⟨hc.walk, hb, hw⟩

/-- A walk that leaves a directory to go on. -/
theorem Call.Fair.leave {c : Call} (hc : c.Fair root there dirs now) (hb : ∀ v ∈ c.visited, Looked root there c.want v)
    {d : Dir} {rest : List Dir} (hd : c.ahead = d :: rest) {visit : Visit} (hv : Looked root there c.want (d, visit))
    (hhung : visit ≠ .hung) (hcut : visit ≠ .cut) :
    ({ c with phase := .leaving visit none } : Call).Fair root there dirs now := by
  refine ⟨hc.walk, ?_, hhung, fun h => absurd h hcut, nofun⟩
  show ∀ v ∈ (({ c with phase := .leaving visit none } : Call).passed visit none).visited, _
  rw [Call.passed_phase hd, Call.passed_eq hd]
  exact Looked.append hb hv

/-- A walk that leaves a directory to return. -/
theorem Call.Fair.leave_done {c : Call} (hc : c.Fair root there dirs now) {d : Dir} {rest : List Dir}
    (hd : c.ahead = d :: rest) {visit : Visit} {r : Result} (hr : (c.passed visit (some r)).Ends root there now r)
    (hhung : visit ≠ .hung) (hcut : visit = .cut → c.deadline ≤ now)
    (hlisted : ∀ out, r = .listed out → visit = .cut ∧ root d = false) :
    ({ c with phase := .leaving visit (some r) } : Call).Fair root there dirs now := by
  refine ⟨hc.walk, ?_, hhung, hcut, fun out h => ?_⟩
  · show (({ c with phase := .leaving visit (some r) } : Call).passed visit (some r)).Ends root there now r
    rw [Call.passed_phase hd]
    exact hr
  · obtain ⟨hv, hroot⟩ := hlisted out (Option.some.inj h)
    exact ⟨hv, by simpa [hd] using hroot⟩

/-- Once it has left, what it found is behind it. -/
theorem Call.Fair.passed {c : Call} (hc : c.Fair root there dirs now) {d : Dir} {rest : List Dir}
    (hd : c.ahead = d :: rest) {visit : Visit} {result : Option Result} (hp : c.phase = .leaving visit result) :
    (c.passed visit result).Fair root there dirs now := by
  have hb := hc.behind
  simp only [Call.Behind, hp] at hb
  have hwalk : (c.passed visit result).visited.map Prod.fst ++ (c.passed visit result).ahead = dirs := by
    rw [← hc.walk, Call.passed_eq hd, hd]
    simp
  refine ⟨hwalk, ?_, ?_⟩
  · cases result with
    | none =>
      dsimp only at hb
      rw [Call.passed_eq hd] at hb ⊢
      exact hb
    | some r =>
      dsimp only at hb
      rw [Call.passed_eq hd] at hb ⊢
      exact hb
  · rw [Call.passed_eq hd]
    cases result <;> exact trivial

theorem Call.expired_byId {c : Call} (h : c.want = .byId) (strict : Bool) : c.expired strict = .outOfTime := by
  simp only [Call.expired, h]

theorem Call.expired_listed {c : Call} {strict : Bool} {out : List ProfileSummary} (h : c.expired strict = .listed out) :
    c.want = .list ∧ strict = false := by
  unfold Call.expired at h
  split at h
  · cases h
  · next hw =>
    cases strict with
    | true => cases h
    | false => exact ⟨hw, rfl⟩

theorem Call.expired_list {c : Call} (h : c.want = .list) : c.expired false = .listed c.out ∧ c.expired true = .outOfTime := by
  simp [Call.expired, h]

/-- A listing whose time ran out in a user's directory, or a walk in one it must not go past. -/
theorem Call.ends_expired {c : Call} {d : Dir} {rest : List Dir} (hd : c.ahead = d :: rest)
    (hb : ∀ v ∈ c.visited, Looked root there c.want v) (hdead : c.deadline ≤ now) :
    (c.passed .cut (some (c.expired (root d)))).Ends root there now (c.expired (root d)) := by
  rcases c.byId_or_list with hw | hw
  · rw [Call.expired_byId hw]
    exact trivial
  · cases hr : root d with
    | true =>
      rw [(Call.expired_list hw).2]
      exact trivial
    | false =>
      rw [(Call.expired_list hw).1, Call.passed_eq hd]
      refine ⟨hw, .inr hdead, Looked.append hb ?_⟩
      intro hroot
      rw [hr] at hroot
      cases hroot

/-- A walk whose time ran out with no claim. -/
theorem Call.fair_expired {c : Call} (hc : c.Fair root there dirs now) (hb : ∀ v ∈ c.visited, Looked root there c.want v)
    (strict : Bool) (hdead : c.deadline ≤ now) :
    ({ c with phase := .done (c.expired strict) } : Call).Fair root there dirs now := by
  refine ⟨hc.walk, ?_, trivial⟩
  show ({ c with phase := .done (c.expired strict) } : Call).Ends root there now (c.expired strict)
  rcases c.byId_or_list with hw | hw
  · rw [Call.expired_byId hw]
    exact trivial
  · cases strict with
    | true =>
      rw [(Call.expired_list hw).2]
      exact trivial
    | false =>
      rw [(Call.expired_list hw).1]
      exact ⟨hw, .inr hdead, hb⟩

theorem Call.Fair.finished {c : Call} {now : Nat} (hc : c.Fair root there dirs now) (hd : c.ahead = [])
    (hp : c.phase = .entering) : ({ c with phase := .done c.finished } : Call).Fair root there dirs now := by
  have hb := hc.behind
  simp only [Call.Behind, hp] at hb
  refine ⟨hc.walk, ?_, trivial⟩
  show ({ c with phase := .done c.finished } : Call).Ends root there now c.finished
  rcases c.byId_or_list with hw | hw
  · rw [show c.finished = .nothing by simp only [Call.finished, hw]]
    exact ⟨hw, hd, hb⟩
  · rw [show c.finished = .listed c.out by simp only [Call.finished, hw]]
    exact ⟨hw, .inl hd, hb⟩

end

/-! ## One step of a walk -/

namespace Dirs

section
variable {root there : Dir → Bool} {dirs : List Dir}

@[simp] theorem setCall_self (w : Dirs) (i : Nat) (c : Call) : (w.setCall i c).calls i = some c := by
  simp [setCall]

theorem setCall_of_ne (w : Dirs) {i j : Nat} (h : j ≠ i) (c : Call) : (w.setCall i c).calls j = w.calls j := by
  simp [setCall, h]

/-- A walk is as it should be after its step. -/
def FairAt (root there : Dir → Bool) (dirs : List Dir) (now : Nat) (i : Nat) (w : Dirs) : Prop :=
  ∃ c, w.calls i = some c ∧ c.Fair root there dirs now

theorem fairAt_setCall {w : Dirs} {i : Nat} {c : Call} {now : Nat} (h : c.Fair root there dirs now) :
    FairAt root there dirs now i (w.setCall i c) :=
  ⟨c, w.setCall_self i c, h⟩

theorem look_fair {w : Dirs} {i : Nat} {c : Call} {d : Dir} {rest : List Dir} (hc : c.Fair root there dirs w.now)
    (hd : c.ahead = d :: rest) (hb : ∀ v ∈ c.visited, Looked root there c.want v) :
    FairAt root there dirs w.now i (w.look i c d) := by
  unfold look
  split
  · exact fairAt_setCall ⟨hc.walk, hb, trivial⟩
  · next h hh =>
    dsimp only
    split
    · refine fairAt_setCall ?_
      rw [Call.passed_eq hd]
      refine ⟨?_, Looked.append hb fun _ _ => trivial, trivial⟩
      rw [← hc.walk, hd]
      simp
    · split
      · next hdead => exact fairAt_setCall (Call.fair_expired hc hb _ hdead)
      · refine fairAt_setCall ⟨hc.walk, hb, ?_⟩
        show (if h.strict then c.deadline else min (h.since + profileDirHungAfter) c.deadline) ≤ c.deadline
        split
        · exact Nat.le_refl _
        · exact Nat.min_le_right _ _

theorem advance_fair {w : Dirs} {i : Nat} {c : Call} {d : Dir} {rest : List Dir} (hi : w.calls i = some c)
    (hc : c.Fair root there dirs w.now) (hd : c.ahead = d :: rest) {a : Answer}
    (ha : there d = true → c.phase = .opening ∨ c.phase = .scanning → a = .opened) :
    FairAt root there dirs w.now i (w.advance root i c d a) := by
  have hbehind := hc.behind
  have hwithin := hc.within
  have habsent : ∀ {visit : Visit}, c.phase = .opening ∨ c.phase = .scanning → a ≠ .opened →
      Looked root there c.want (d, visit) := fun hp hne _ ht => absurd (ha ht hp) hne
  cases hp : c.phase with
  | entering =>
    simp only [Call.Behind, hp] at hbehind
    unfold advance
    simp only [hp]
    split
    · next hdead => exact fairAt_setCall (Call.fair_expired hc hbehind false hdead)
    · exact fairAt_setCall ⟨hc.walk, hbehind, trivial⟩
  | claiming =>
    simp only [Call.Behind, hp] at hbehind
    unfold advance
    simp only [hp]
    exact look_fair hc hd hbehind
  | waiting limit =>
    simp only [Call.Behind, hp] at hbehind
    unfold advance
    simp only [hp]
    exact look_fair hc hd hbehind
  | opening =>
    simp only [Call.Behind, hp] at hbehind
    unfold advance
    simp only [hp]
    split
    · refine fairAt_setCall ?_
      split
      · exact ⟨hc.walk, hbehind, trivial⟩
      · exact hc.opened hbehind
    · exact fairAt_setCall (hc.leave hbehind hd (habsent (.inl hp) nofun) nofun nofun)
    · next hne _ => exact fairAt_setCall (hc.leave hbehind hd (habsent (.inl hp) hne) nofun nofun)
  | marking =>
    simp only [Call.Behind, hp] at hbehind
    unfold advance
    simp only [hp]
    exact fairAt_setCall (hc.opened hbehind)
  | reading =>
    simp only [Call.Behind, hp] at hbehind
    simp only [Call.Within, hp] at hwithin
    unfold advance
    simp only [hp]
    split
    · refine fairAt_setCall (hc.leave_done hd ?_ nofun nofun nofun)
      rw [Call.passed_eq hd]
      exact ⟨hwithin, c.visited, rfl, hbehind⟩
    · exact fairAt_setCall (hc.leave hbehind hd (fun _ _ => hwithin) nofun nofun)
  | scanning =>
    simp only [Call.Behind, hp] at hbehind
    simp only [Call.Within, hp] at hwithin
    unfold advance
    simp only [hp]
    split
    · exact fairAt_setCall ⟨hc.walk, hbehind, hwithin, rfl, rfl⟩
    · next hne => exact fairAt_setCall (hc.leave hbehind hd (habsent (.inr hp) hne) nofun nofun)
  | enumerating names =>
    simp only [Call.Behind, hp] at hbehind
    simp only [Call.Within, hp] at hwithin
    obtain ⟨hw, htried, hnames⟩ := hwithin
    unfold advance
    simp only [hp]
    split
    · exact fairAt_setCall ⟨hc.walk, hbehind, hw, fun _ => by simp [htried, hnames], nofun⟩
    · split
      · next hdead =>
        split
        · exact fairAt_setCall (hc.leave_done hd trivial nofun (fun _ => hdead) nofun)
        · next hr =>
          refine fairAt_setCall ⟨hc.walk, hbehind, hw, nofun, fun _ => ⟨hdead, ?_⟩⟩
          simpa [hd] using hr
      · split
        · exact fairAt_setCall ⟨hc.walk, hbehind, hw, htried, by rw [hnames, keepSmallest_firstNames]⟩
        · exact ⟨c, hi, hc⟩
    · exact ⟨c, hi, hc⟩
  | listing names outOfTime =>
    simp only [Call.Behind, hp] at hbehind
    simp only [Call.Within, hp] at hwithin
    obtain ⟨hw, hnames, hlate⟩ := hwithin
    cases names with
    | nil =>
      unfold advance
      simp only [hp]
      split
      · next ho =>
        obtain ⟨hdead, hroot⟩ := hlate ho
        have hr : root d = false := hroot d (by simp [hd])
        have hexp : (c.passed .cut (some (c.expired (root d)))).Ends root there w.now (c.expired (root d)) :=
          Call.ends_expired hd hbehind hdead
        simp only [Call.expired, hw, hr] at hexp
        exact fairAt_setCall (hc.leave_done hd hexp nofun (fun _ => hdead) fun _ _ => ⟨rfl, hr⟩)
      · next ho =>
        have htried : c.tried = firstNames c.seen := by simpa using hnames (by simpa using ho)
        exact fairAt_setCall (hc.leave hbehind hd (fun _ _ => ⟨hw, htried⟩) nofun nofun)
    | cons name names =>
      unfold advance
      simp only [hp]
      split
      · next hdead =>
        exact fairAt_setCall (hc.leave_done hd (Call.ends_expired hd hbehind hdead) nofun (fun _ => hdead)
          fun _ h => ⟨rfl, (Call.expired_listed h).2⟩)
      · exact fairAt_setCall ⟨hc.walk, hbehind, hw, hnames, hlate⟩
  | fetching names outOfTime =>
    simp only [Call.Behind, hp] at hbehind
    simp only [Call.Within, hp] at hwithin
    obtain ⟨hw, hnames, hlate⟩ := hwithin
    have hnames' : outOfTime = false → (c.tried ++ names.take 1) ++ names.tail = firstNames c.seen := by
      intro ho
      rw [List.append_assoc, ← List.drop_one, List.take_append_drop]
      exact hnames ho
    unfold advance
    simp only [hp]
    split <;> exact fairAt_setCall ⟨hc.walk, hbehind, hw, hnames', hlate⟩
  | leaving visit result =>
    unfold advance
    simp only [hp]
    exact fairAt_setCall (hc.passed hd hp)
  | done r =>
    unfold advance
    simp only [hp]
    exact ⟨c, hi, hc⟩

end

end Dirs

/-! ## The gate -/

namespace Dirs

section
variable {root there : Dir → Bool} {dirs : List Dir}

/-- One step of call `i`, as the gate sees it. -/
inductive Move (root there : Dir → Bool) (w : Dirs) (i : Nat) (c : Call) (d : Dir) : Dirs → Prop where
  | outside (c' : Call) : c.phase.inside = false → c'.phase.inside = false → Move root there w i c d (w.setCall i c')
  | claim : c.phase.inside = false → w.held d = none →
      Move root there w i c d ((w.setHeld d (some ⟨w.now, false, i⟩)).setCall i { c with phase := .opening })
  | inside (c' : Call) : c.phase.inside = true → c'.phase.inside = true → c'.ahead = c.ahead →
      (root d = true → there d = true → c'.phase.marked = true → c.phase.marked = true) →
      Move root there w i c d (w.setCall i c')
  | mark (c' : Call) : c.phase.inside = true → c'.phase.inside = true → c'.ahead = c.ahead →
      Move root there w i c d ((w.makeStrict d).setCall i c')
  | leave (c' : Call) : c.phase.inside = true → c'.phase.inside = false →
      Move root there w i c d ((w.setHeld d none).setCall i c')

theorem setCall_eq_self {w : Dirs} {i : Nat} {c : Call} (h : w.calls i = some c) : w.setCall i c = w := by
  unfold setCall
  rw [← h, Function.update_eq_self]

theorem move_self {w : Dirs} {i : Nat} {c : Call} {d : Dir} (hi : w.calls i = some c) : Move root there w i c d w := by
  have hself : Move root there w i c d (w.setCall i c) := by
    cases hin : c.phase.inside with
    | true => exact .inside c hin hin rfl fun _ _ h => h
    | false => exact .outside c hin hin
  rwa [setCall_eq_self hi] at hself

theorem afterOpen_inside (c : Call) : (afterOpen c).inside = true := by
  rcases c.byId_or_list with h | h <;> simp [afterOpen, h, Phase.inside]

theorem look_move {w : Dirs} {i : Nat} {c : Call} {d : Dir} {rest : List Dir} (hd : c.ahead = d :: rest)
    (hp : c.phase.inside = false) : Move root there w i c d (w.look i c d) := by
  unfold look
  split
  · next h => exact .claim hp h
  · dsimp only
    split
    · refine .outside _ hp ?_
      rw [Call.passed_eq hd]
      rfl
    · split
      · exact .outside _ hp rfl
      · exact .outside _ hp rfl

theorem advance_move (root : Dir → Bool) {w : Dirs} {i : Nat} {c : Call} {d : Dir} {rest : List Dir} (hi : w.calls i = some c)
    (hd : c.ahead = d :: rest) {a : Answer} (ha : there d = true → c.phase = .opening ∨ c.phase = .scanning → a = .opened) :
    Move root there w i c d (w.advance root i c d a) := by
  have hin : ∀ {p : Phase}, c.phase.marked = true → p.inside = true → c.phase.inside = true →
      Move root there w i c d (w.setCall i { c with phase := p }) :=
    fun hm hp hc => .inside _ hc hp rfl fun _ _ _ => hm
  cases hp : c.phase with
  | entering =>
    unfold advance
    simp only [hp]
    split <;> exact .outside _ (by rw [hp]; rfl) rfl
  | claiming =>
    unfold advance
    simp only [hp]
    exact look_move hd (by rw [hp]; rfl)
  | waiting limit =>
    unfold advance
    simp only [hp]
    exact look_move hd (by rw [hp]; rfl)
  | opening =>
    have hpin : c.phase.inside = true := by rw [hp]; rfl
    have hne : a ≠ .opened → ∀ p : Phase, p.inside = true → Move root there w i c d (w.setCall i { c with phase := p }) :=
      fun h p hin => .inside _ hpin hin rfl fun _ ht _ => absurd (ha ht (.inl hp)) h
    unfold advance
    simp only [hp]
    split
    · cases hr : root d with
      | true => exact .inside _ hpin rfl rfl nofun
      | false => exact .inside _ hpin (afterOpen_inside c) rfl fun h => by simp [hr] at h
    · exact hne nofun _ rfl
    · next h _ => exact hne h _ rfl
  | marking =>
    unfold advance
    simp only [hp]
    exact .mark _ (by rw [hp]; rfl) (afterOpen_inside c) rfl
  | reading =>
    unfold advance
    simp only [hp]
    split <;> exact hin (by rw [hp]; rfl) rfl (by rw [hp]; rfl)
  | scanning =>
    unfold advance
    simp only [hp]
    split <;> exact .inside _ (by rw [hp]; rfl) rfl rfl fun _ _ _ => by rw [hp]; rfl
  | enumerating names =>
    have hm : c.phase.marked = true := by rw [hp]; rfl
    have hpin : c.phase.inside = true := by rw [hp]; rfl
    unfold advance
    simp only [hp]
    split
    · exact hin hm rfl hpin
    · split
      · split <;> exact hin hm rfl hpin
      · split
        · exact .inside _ hpin rfl rfl fun _ _ _ => hm
        · exact move_self hi
    · exact move_self hi
  | listing names outOfTime =>
    have hm : c.phase.marked = true := by rw [hp]; rfl
    have hpin : c.phase.inside = true := by rw [hp]; rfl
    cases names with
    | nil =>
      unfold advance
      simp only [hp]
      split <;> exact hin hm rfl hpin
    | cons name names =>
      unfold advance
      simp only [hp]
      split <;> exact hin hm rfl hpin
  | fetching names outOfTime =>
    unfold advance
    simp only [hp]
    split <;> exact .inside _ (by rw [hp]; rfl) rfl rfl fun _ _ _ => by rw [hp]; rfl
  | leaving visit result =>
    unfold advance
    simp only [hp]
    refine .leave _ (by rw [hp]; rfl) ?_
    rw [Call.passed_eq hd]
    cases result <;> rfl
  | done r =>
    unfold advance
    simp only [hp]
    exact move_self hi

/-- Who is in a directory holds it, and who holds one is in it; until an open of root's has returned and the
claim is marked, the holder is at its open. -/
structure Gate (root there : Dir → Bool) (w : Dirs) : Prop where
  owner : ∀ {i c d rest}, w.calls i = some c → c.ahead = d :: rest → c.phase.inside = true →
    ∃ h, w.held d = some h ∧ h.call = i
  holder : ∀ {d h}, w.held d = some h → ∃ c rest, w.calls h.call = some c ∧ c.ahead = d :: rest ∧
    c.phase.inside = true ∧ (h.strict = false → root d = true → there d = true → c.phase.marked = false)

theorem Gate.alone {w : Dirs} (h : Gate root there w) {i j : Nat} {c c' : Call} {d : Dir} {rest rest' : List Dir}
    (hi : w.calls i = some c) (hd : c.ahead = d :: rest) (hin : c.phase.inside = true) (hj : w.calls j = some c')
    (hd' : c'.ahead = d :: rest') (hin' : c'.phase.inside = true) : i = j := by
  obtain ⟨hd₁, hheld, rfl⟩ := h.owner hi hd hin
  obtain ⟨hd₂, hheld', rfl⟩ := h.owner hj hd' hin'
  rw [hheld] at hheld'
  rw [Option.some.inj hheld']

theorem makeStrict_held (w : Dirs) (d : Dir) : (w.makeStrict d).held d = (w.held d).map fun h => { h with strict := true } := by
  unfold makeStrict
  cases h : w.held d with
  | none => simp [h]
  | some holder => simp [setHeld]

theorem makeStrict_held_of_ne (w : Dirs) {d e : Dir} (h : e ≠ d) : (w.makeStrict d).held e = w.held e := by
  unfold makeStrict
  split
  · rfl
  · simp [setHeld, h]

theorem makeStrict_calls (w : Dirs) (d : Dir) : (w.makeStrict d).calls = w.calls := by
  unfold makeStrict
  split <;> rfl

/-- A call outside every directory moves on to another place outside. -/
theorem Gate.outside {w : Dirs} (h : Gate root there w) {i : Nat} {c' : Call} (hout' : c'.phase.inside = false)
    (hnot : ∀ {c d rest}, w.calls i = some c → c.ahead = d :: rest → c.phase.inside = false) :
    Gate root there (w.setCall i c') := by
  constructor
  · intro j c₀ e rest₀ hj he hin
    by_cases hji : j = i
    · subst hji
      obtain rfl := Option.some.inj ((w.setCall_self j c').symm.trans hj)
      rw [hout'] at hin
      cases hin
    · rw [w.setCall_of_ne hji] at hj
      exact h.owner hj he hin
  · intro e hold he
    obtain ⟨c₀, rest₀, hc, hae, hin, hmark⟩ := h.holder he
    have hci : hold.call ≠ i := by
      intro hci
      rw [hci] at hc
      rw [hnot hc hae] at hin
      cases hin
    exact ⟨c₀, rest₀, (w.setCall_of_ne hci c').trans hc, hae, hin, hmark⟩

theorem Gate.move {w w' : Dirs} (h : Gate root there w) {i : Nat} {c : Call} {d : Dir} {rest : List Dir}
    (hi : w.calls i = some c) (hd : c.ahead = d :: rest) (hm : Move root there w i c d w') : Gate root there w' := by
  have hmine : ∀ {c₀ : Call} {e : Dir} {rest₀ : List Dir}, w.calls i = some c₀ → c₀.ahead = e :: rest₀ → c₀ = c ∧ e = d := by
    intro c₀ e rest₀ hc he
    obtain rfl := Option.some.inj (hc.symm.trans hi)
    rw [hd] at he
    exact ⟨rfl, (List.cons.inj he).1.symm⟩
  cases hm with
  | outside c' hout hout' =>
    refine h.outside hout' fun hc he => ?_
    obtain ⟨rfl, -⟩ := hmine hc he
    exact hout
  | claim hout hfree =>
    constructor
    · intro j c₀ e rest₀ hj he hin
      by_cases hji : j = i
      · subst hji
        obtain rfl := Option.some.inj ((setCall_self _ j _).symm.trans hj)
        obtain rfl : d = e := (List.cons.inj (hd.symm.trans he)).1
        exact ⟨⟨w.now, false, j⟩, Function.update_self .., rfl⟩
      · rw [setCall_of_ne _ hji] at hj
        obtain ⟨hold, hheld, hcall⟩ := h.owner hj he hin
        have hne : e ≠ d := by
          rintro rfl
          rw [hfree] at hheld
          cases hheld
        exact ⟨hold, by simpa [setCall, setHeld, hne] using hheld, hcall⟩
    · intro e hold he
      by_cases hed : e = d
      · subst hed
        obtain rfl : (⟨w.now, false, i⟩ : Holder) = hold := by simpa [setCall, setHeld] using he
        exact ⟨_, rest, setCall_self _ i _, hd, rfl, fun _ _ _ => rfl⟩
      · have he' : w.held e = some hold := by simpa [setCall, setHeld, hed] using he
        obtain ⟨c₀, rest₀, hc, hae, hin, hmark⟩ := h.holder he'
        by_cases hci : hold.call = i
        · rw [hci] at hc
          exact absurd (hmine hc hae).2 hed
        · exact ⟨c₀, rest₀, (setCall_of_ne _ hci _).trans hc, hae, hin, hmark⟩
  | inside c' hin hin' hahead hmarked =>
    constructor
    · intro j c₀ e rest₀ hj he hin₀
      by_cases hji : j = i
      · subst hji
        obtain rfl := Option.some.inj ((w.setCall_self j c').symm.trans hj)
        exact h.owner hi (hahead ▸ he) hin
      · rw [w.setCall_of_ne hji] at hj
        exact h.owner hj he hin₀
    · intro e hold he
      obtain ⟨c₀, rest₀, hc, hae, hin₀, hmark⟩ := h.holder he
      by_cases hci : hold.call = i
      · rw [hci] at hc
        obtain ⟨rfl, rfl⟩ := hmine hc hae
        refine ⟨c', rest₀, by rw [hci]; exact w.setCall_self i c', hahead ▸ hae, hin', fun hs hr ht => ?_⟩
        cases hm' : c'.phase.marked with
        | false => rfl
        | true =>
          have hunmarked := hmark hs hr ht
          rw [hmarked hr ht hm'] at hunmarked
          cases hunmarked
      · exact ⟨c₀, rest₀, (w.setCall_of_ne hci c').trans hc, hae, hin₀, hmark⟩
  | mark c' hin hin' hahead =>
    constructor
    · intro j c₀ e rest₀ hj he hin₀
      have hown : ∃ hold, w.held e = some hold ∧ hold.call = j := by
        by_cases hji : j = i
        · subst hji
          obtain rfl := Option.some.inj ((setCall_self _ j c').symm.trans hj)
          exact h.owner hi (hahead ▸ he) hin
        · rw [setCall_of_ne _ hji, makeStrict_calls] at hj
          exact h.owner hj he hin₀
      obtain ⟨hold, hheld, hcall⟩ := hown
      by_cases hed : e = d
      · subst hed
        exact ⟨{ hold with strict := true }, by simp [setCall, makeStrict_held, hheld], hcall⟩
      · exact ⟨hold, by simpa [setCall, makeStrict_held_of_ne _ hed] using hheld, hcall⟩
    · intro e hold he
      have hsame : ∃ hold₀, w.held e = some hold₀ ∧ hold₀.call = hold.call ∧ (e ≠ d → hold₀ = hold) := by
        by_cases hed : e = d
        · subst hed
          have he' : (w.held e).map (fun h => { h with strict := true }) = some hold := by
            rw [← makeStrict_held]
            exact he
          obtain ⟨hold₀, hheld, rfl⟩ := Option.map_eq_some_iff.mp he'
          exact ⟨hold₀, hheld, rfl, fun hne => absurd rfl hne⟩
        · have he' : w.held e = some hold := by
            rw [← makeStrict_held_of_ne w hed]
            exact he
          exact ⟨hold, he', rfl, fun _ => rfl⟩
      obtain ⟨hold₀, hheld, hcall, hkeep⟩ := hsame
      obtain ⟨c₀, rest₀, hc, hae, hin₀, hmark⟩ := h.holder hheld
      rw [hcall] at hc
      by_cases hed : e = d
      · subst hed
        obtain ⟨hold₁, hheld₁, hcall₁⟩ := h.owner hi hd hin
        obtain rfl := Option.some.inj (hheld₁.symm.trans hheld)
        have hci : hold.call = i := hcall.symm.trans hcall₁
        refine ⟨c', rest, by rw [hci]; exact setCall_self _ i c', hahead ▸ hd, hin', fun hs => ?_⟩
        have hstrict : hold.strict = true := by
          have he' : (w.held e).map (fun h => { h with strict := true }) = some hold := by
            rw [← makeStrict_held]
            exact he
          obtain ⟨_, -, rfl⟩ := Option.map_eq_some_iff.mp he'
          rfl
        rw [hstrict] at hs
        cases hs
      · have hci : hold.call ≠ i := by
          intro hci
          rw [hci] at hc
          exact hed (hmine hc hae).2
        obtain rfl := hkeep hed
        refine ⟨c₀, rest₀, ?_, hae, hin₀, hmark⟩
        rw [setCall_of_ne _ hci, makeStrict_calls]
        exact hc
  | leave c' hin hout' =>
    constructor
    · intro j c₀ e rest₀ hj he hin₀
      by_cases hji : j = i
      · subst hji
        obtain rfl := Option.some.inj ((setCall_self _ j c').symm.trans hj)
        rw [hout'] at hin₀
        cases hin₀
      · rw [setCall_of_ne _ hji] at hj
        have hne : e ≠ d := by
          rintro rfl
          exact hji (h.alone hj he hin₀ hi hd hin)
        obtain ⟨hold, hheld, hcall⟩ := h.owner hj he hin₀
        exact ⟨hold, by simpa [setCall, setHeld, hne] using hheld, hcall⟩
    · intro e hold he
      have hne : e ≠ d := by
        rintro rfl
        simp [setCall, setHeld] at he
      have he' : w.held e = some hold := by simpa [setCall, setHeld, hne] using he
      obtain ⟨c₀, rest₀, hc, hae, hin₀, hmark⟩ := h.holder he'
      by_cases hci : hold.call = i
      · rw [hci] at hc
        exact absurd (hmine hc hae).2 hne
      · exact ⟨c₀, rest₀, (setCall_of_ne _ hci c').trans hc, hae, hin₀, hmark⟩

/-! ## What a step makes of a call -/

theorem setCall_on {u : Dirs} {i : Nat} {c c₀ c' : Call} (h : (u.setCall i c₀).calls i = some c')
    (hv : c₀.visited = c.visited) (hp : ∀ r, c₀.phase ≠ .done r) : c'.visited = c.visited ∧ ∀ r, c'.phase ≠ .done r := by
  obtain rfl := Option.some.inj ((u.setCall_self i c₀).symm.trans h)
  exact ⟨hv, hp⟩

theorem look_call {w : Dirs} {i : Nat} {c c' : Call} {d : Dir} (h : (w.look i c d).calls i = some c') :
    (c'.visited = c.visited ∧ ∀ r, c'.phase ≠ .done r) ∨
    (∃ holder, w.held d = some holder ∧ c' = { c with phase := .done (c.expired holder.strict) } ∧ c.deadline ≤ w.now) ∨
    (c' = c.passed .hung none ∧ ∃ h, w.held d = some h ∧ h.strict = false ∧ h.since + profileDirHungAfter ≤ w.now) := by
  unfold look at h
  split at h
  · exact .inl (setCall_on h rfl nofun)
  · next holder hh =>
    dsimp only at h
    split at h
    · next hhung =>
      obtain rfl := Option.some.inj ((w.setCall_self i _).symm.trans h)
      exact .inr (.inr ⟨rfl, holder, hh, hhung⟩)
    · split at h
      · next hdead =>
        obtain rfl := Option.some.inj ((w.setCall_self i _).symm.trans h)
        exact .inr (.inl ⟨holder, hh, rfl, hdead⟩)
      · exact .inl (setCall_on h rfl nofun)

/-- A step of a walk: on its way, unchanged, out of time with no claim, past a directory as hung, or out of the one it
was in. -/
theorem advance_call {w : Dirs} {i : Nat} {c c' : Call} {d : Dir} (hi : w.calls i = some c) {a : Answer}
    (h : (w.advance root i c d a).calls i = some c') :
    (c'.visited = c.visited ∧ ∀ r, c'.phase ≠ .done r) ∨ c' = c ∨
    (∃ strict, c' = { c with phase := .done (c.expired strict) } ∧ c.deadline ≤ w.now ∧
      (c.phase = .entering ∨ c.phase.inside = false ∧ ∃ h, w.held d = some h ∧ h.strict = strict)) ∨
    (c' = c.passed .hung none ∧ ∃ h, w.held d = some h ∧ h.strict = false ∧ h.since + profileDirHungAfter ≤ w.now) ∨
    ∃ visit result, c.phase = .leaving visit result ∧ c' = c.passed visit result := by
  have hon : ∀ {u : Dirs} {c₀ : Call}, (u.setCall i c₀).calls i = some c' → c₀.visited = c.visited →
      (∀ r, c₀.phase ≠ .done r) → c'.visited = c.visited ∧ ∀ r, c'.phase ≠ .done r :=
    fun hc hv hp => setCall_on hc hv hp
  unfold advance at h
  cases hp : c.phase with
  | entering =>
    simp only [hp] at h
    split at h
    · next hdead =>
      obtain rfl := Option.some.inj ((w.setCall_self i _).symm.trans h)
      exact .inr (.inr (.inl ⟨false, rfl, hdead, .inl rfl⟩))
    · exact .inl (hon h rfl nofun)
  | claiming =>
    simp only [hp] at h
    rcases look_call h with h | ⟨holder, hh, rfl, hdead⟩ | h
    · exact .inl h
    · exact .inr (.inr (.inl ⟨holder.strict, rfl, hdead, .inr ⟨rfl, holder, hh, rfl⟩⟩))
    · exact .inr (.inr (.inr (.inl h)))
  | waiting limit =>
    simp only [hp] at h
    rcases look_call h with h | ⟨holder, hh, rfl, hdead⟩ | h
    · exact .inl h
    · exact .inr (.inr (.inl ⟨holder.strict, rfl, hdead, .inr ⟨rfl, holder, hh, rfl⟩⟩))
    · exact .inr (.inr (.inr (.inl h)))
  | opening =>
    simp only [hp] at h
    left
    split at h
    · refine hon h rfl ?_
      rcases c.byId_or_list with hw | hw <;> cases root d <;> simp [afterOpen, hw]
    · exact hon h rfl nofun
    · exact hon h rfl nofun
  | marking =>
    simp only [hp] at h
    refine .inl (hon h rfl ?_)
    rcases c.byId_or_list with hw | hw <;> simp [afterOpen, hw]
  | reading =>
    simp only [hp] at h
    split at h <;> exact .inl (hon h rfl nofun)
  | scanning =>
    simp only [hp] at h
    split at h <;> exact .inl (hon h rfl nofun)
  | enumerating names =>
    simp only [hp] at h
    split at h
    · exact .inl (hon h rfl nofun)
    · split at h
      · split at h <;> exact .inl (hon h rfl nofun)
      · split at h
        · exact .inl (hon h rfl nofun)
        · exact .inr (.inl (Option.some.inj (h.symm.trans hi)))
    · exact .inr (.inl (Option.some.inj (h.symm.trans hi)))
  | listing names outOfTime =>
    cases names with
    | nil =>
      simp only [hp] at h
      split at h <;> exact .inl (hon h rfl nofun)
    | cons name names =>
      simp only [hp] at h
      split at h <;> exact .inl (hon h rfl nofun)
  | fetching names outOfTime =>
    simp only [hp] at h
    split at h <;> exact .inl (hon h rfl nofun)
  | leaving visit result =>
    simp only [hp] at h
    obtain rfl := Option.some.inj ((setCall_self _ i _).symm.trans h)
    exact .inr (.inr (.inr (.inr ⟨visit, result, rfl, rfl⟩)))
  | done r =>
    simp only [hp] at h
    exact .inr (.inl (Option.some.inj (h.symm.trans hi)))

end

/-! ## Every run -/

/-- A directory that is there, registered by its real path, opens, and can be enumerated. -/
def Answers (there : Dir → Bool) (w : Dirs) : Event → Prop
  | .advance i a => ∀ c ∈ w.calls i, ∀ d ∈ c.ahead.head?, there d = true → c.phase = .opening ∨ c.phase = .scanning → a = .opened
  | _ => True

instance (there : Dir → Bool) (w : Dirs) (e : Event) : Decidable (Answers there w e) := by
  cases e <;> unfold Answers <;> infer_instance

structure Sound (root there : Dir → Bool) (dirs : List Dir) (w : Dirs) : Prop where
  gate : Gate root there w
  calls : ∀ {i c}, w.calls i = some c → c.Fair root there dirs w.now

section
variable {root there : Dir → Bool} {dirs : List Dir}

theorem sound_start (now : Nat) : (start now).Sound root there dirs := ⟨⟨nofun, nofun⟩, nofun⟩

theorem Sound.setCall {w : Dirs} (h : w.Sound root there dirs) {i : Nat} {c' : Call} (hg : Gate root there (w.setCall i c'))
    (hc : c'.Fair root there dirs w.now) : (w.setCall i c').Sound root there dirs := by
  refine ⟨hg, fun {j c} hj => ?_⟩
  by_cases hji : j = i
  · subst hji
    obtain rfl := Option.some.inj ((w.setCall_self j c').symm.trans hj)
    exact hc
  · rw [w.setCall_of_ne hji] at hj
    exact h.calls hj

/-- A step moves the call it is of, and no clock. -/
theorem Move.frame {w w' : Dirs} {i : Nat} {c : Call} {d : Dir} (h : Move root there w i c d w') :
    w'.now = w.now ∧ ∀ j, j ≠ i → w'.calls j = w.calls j := by
  have hnow : ∀ e, (w.makeStrict e).now = w.now := by
    intro e
    unfold makeStrict
    split <;> rfl
  cases h with
  | outside c' => exact ⟨rfl, fun j hj => w.setCall_of_ne hj c'⟩
  | claim => exact ⟨rfl, fun j hj => setCall_of_ne _ hj _⟩
  | inside c' => exact ⟨rfl, fun j hj => w.setCall_of_ne hj c'⟩
  | mark c' => exact ⟨hnow d, fun j hj => (setCall_of_ne _ hj c').trans (congrFun (w.makeStrict_calls d) j)⟩
  | leave c' => exact ⟨rfl, fun j hj => setCall_of_ne _ hj c'⟩

theorem step_none {w : Dirs} {i : Nat} (hi : w.calls i = none) (a : Answer) :
    Dirs.step root dirs w (.advance i a) = w := by
  simp only [Dirs.step, hi]

theorem step_cons {w : Dirs} {i : Nat} {c : Call} (hi : w.calls i = some c) {d : Dir} {rest : List Dir}
    (hd : c.ahead = d :: rest) (a : Answer) : Dirs.step root dirs w (.advance i a) = w.advance root i c d a := by
  simp only [Dirs.step, hi, hd]

theorem step_nil (root : Dir → Bool) (dirs : List Dir) {w : Dirs} {i : Nat} {c : Call} (hi : w.calls i = some c) (hd : c.ahead = []) (a : Answer) :
    (c.phase = .entering ∧
      Dirs.step root dirs w (.advance i a) = w.setCall i { c with phase := .done c.finished }) ∨
    Dirs.step root dirs w (.advance i a) = w := by
  cases hp : c.phase with
  | entering => exact .inl ⟨rfl, by simp only [Dirs.step, hi, hd, hp]⟩
  | _ => exact .inr (by simp only [Dirs.step, hi, hd, hp])

theorem ahead_cases (c : Call) : c.ahead = [] ∨ ∃ d rest, c.ahead = d :: rest := by
  cases c.ahead <;> simp

theorem Answers.at {w : Dirs} {i : Nat} {a : Answer} (h : w.Answers there (.advance i a)) {c : Call} (hi : w.calls i = some c)
    {d : Dir} {rest : List Dir} (hd : c.ahead = d :: rest) :
    there d = true → c.phase = .opening ∨ c.phase = .scanning → a = .opened :=
  h c hi d (by simp [hd])

theorem Sound.step {w : Dirs} (h : w.Sound root there dirs) {e : Event} (ha : w.Answers there e) :
    (Dirs.step root dirs w e).Sound root there dirs := by
  cases e with
  | elapse dt => exact ⟨⟨h.gate.owner, h.gate.holder⟩, fun hc => (h.calls hc).later (Nat.le_add_right ..)⟩
  | call i want deadline =>
    simp only [Dirs.step]
    split
    · next hi =>
      refine h.setCall (h.gate.outside rfl fun hc => ?_) (Call.fair_new want deadline)
      rw [hi] at hc
      cases hc
    · exact h
  | advance i a =>
    cases hi : w.calls i with
    | none => exact (step_none hi a).symm ▸ h
    | some c =>
      rcases ahead_cases c with hd | ⟨d, rest, hd⟩
      · rcases step_nil root dirs hi hd a with ⟨hp, hs⟩ | hs <;> rw [hs]
        · refine h.setCall (h.gate.outside rfl fun hc he => ?_) ((h.calls hi).finished hd hp)
          obtain rfl := Option.some.inj (hi.symm.trans hc)
          rw [hd] at he
          cases he
        · exact h
      · rw [step_cons hi hd]
        have hmove := advance_move root hi hd (ha.at hi hd)
        obtain ⟨hnow, hframe⟩ := hmove.frame
        refine ⟨h.gate.move hi hd hmove, fun {j c'} hj => ?_⟩
        rw [hnow]
        by_cases hji : j = i
        · subst hji
          obtain ⟨c₁, hc₁, hfair⟩ := advance_fair hi (h.calls hi) hd (ha.at hi hd)
          obtain rfl := Option.some.inj (hc₁.symm.trans hj)
          exact hfair
        · rw [hframe j hji] at hj
          exact h.calls hj

/-- A call changes at its own steps only. -/
theorem step_call {w : Dirs} {i : Nat} {c c' : Call} (hi : w.calls i = some c) {e : Event} (ha : w.Answers there e)
    (h : (Dirs.step root dirs w e).calls i = some c') (hne : c' ≠ c) :
    (c.ahead = [] ∧ c' = { c with phase := .done c.finished }) ∨
    ∃ d rest a, c.ahead = d :: rest ∧ (w.advance root i c d a).calls i = some c' := by
  have hstay : (Dirs.step root dirs w e).calls i ≠ w.calls i := fun hs => hne (Option.some.inj ((h.symm.trans hs).trans hi))
  cases e with
  | elapse dt => exact absurd rfl hstay
  | call j want deadline =>
    simp only [Dirs.step] at hstay
    split at hstay
    · next hj =>
      refine absurd (w.setCall_of_ne ?_ _) hstay
      rintro rfl
      rw [hj] at hi
      cases hi
    · exact absurd rfl hstay
  | advance j a =>
    cases hj : w.calls j with
    | none =>
      rw [step_none hj] at hstay
      exact absurd rfl hstay
    | some k =>
      rcases ahead_cases k with hd | ⟨d, rest, hd⟩
      · rcases step_nil root dirs hj hd a with ⟨hp, hs⟩ | hs <;> rw [hs] at h hstay
        · by_cases hij : i = j
          · subst hij
            obtain rfl := Option.some.inj (hi.symm.trans hj)
            obtain rfl := Option.some.inj ((w.setCall_self i _).symm.trans h)
            exact .inl ⟨hd, rfl⟩
          · exact absurd (w.setCall_of_ne hij _) hstay
        · exact absurd rfl hstay
      · rw [step_cons hj hd] at h hstay
        have hframe := (advance_move root hj hd (ha.at hj hd)).frame.2
        by_cases hij : i = j
        · subst hij
          obtain rfl := Option.some.inj (hi.symm.trans hj)
          exact .inr ⟨d, rest, a, hd, h⟩
        · exact absurd (hframe i hij) hstay

/-- How a listing that has answered short of a directory ran out of time: outside every directory, or in a user's. -/
def Stopped (root : Dir → Bool) (w : Dirs) (c : Call) : Prop :=
  c.ahead = [] ∨ ∃ d rest, c.ahead = d :: rest ∧ c.deadline ≤ w.now ∧
    (c.phase = .entering ∨ (c.phase.inside = false ∧ ∃ h, w.held d = some h ∧ h.strict = false) ∨
      (root d = false ∧ ∃ result, c.phase = .leaving .cut result))

theorem look_not_waiting {w : Dirs} {i : Nat} {c c' : Call} {d : Dir} {rest : List Dir} (hd : c.ahead = d :: rest)
    (hdead : c.deadline ≤ w.now) (h : (w.look i c d).calls i = some c') (limit : Nat) : c'.phase ≠ .waiting limit := by
  unfold look at h
  split at h
  · obtain rfl := Option.some.inj ((setCall_self _ i _).symm.trans h)
    nofun
  · dsimp only at h
    split at h
    · obtain rfl := Option.some.inj ((w.setCall_self i _).symm.trans h)
      rw [Call.passed_eq hd]
      nofun
    · obtain rfl := Option.some.inj ((w.setCall_self i _).symm.trans h)
      nofun

/-- A walk goes past a directory of root's as hung only while the holder's open has not returned, or its mark is
not set. -/
theorem Sound.hung {w : Dirs} (h : w.Sound root there dirs) {i : Nat} {c c' : Call} (hi : w.calls i = some c) {e : Event}
    (ha : w.Answers there e) (hc' : (Dirs.step root dirs w e).calls i = some c') {d : Dir}
    (hv : c'.visited = c.visited ++ [(d, .hung)]) (hr : root d = true) (ht : there d = true) :
    ∃ holder k rest, w.held d = some holder ∧ holder.since + profileDirHungAfter ≤ w.now ∧
      w.calls holder.call = some k ∧ k.ahead = d :: rest ∧ (k.phase = .opening ∨ k.phase = .marking) := by
  have hlonger : c'.visited ≠ c.visited := by simp [hv]
  have hne : c' ≠ c := fun he => hlonger (by rw [he])
  rcases step_call hi ha hc' hne with ⟨-, rfl⟩ | ⟨d', rest, a, hd, hadv⟩
  · exact absurd rfl hlonger
  · rcases advance_call hi hadv with ⟨hsame, -⟩ | rfl | ⟨strict, rfl, -⟩ | ⟨rfl, holder, hheld, hs, hold⟩ | ⟨visit, result, hp, rfl⟩
    · exact absurd hsame hlonger
    · exact absurd rfl hne
    · exact absurd rfl hlonger
    · rw [Call.passed_eq hd] at hv
      obtain rfl : d' = d := by simpa using hv
      obtain ⟨k, rest', hk, hka, hin, hmark⟩ := h.gate.holder hheld
      exact ⟨holder, k, rest', hheld, hold, hk, hka, Phase.at_open hin (hmark hs hr ht)⟩
    · have hw := (h.calls hi).within
      simp only [Call.Within, hp] at hw
      rw [Call.passed_eq hd] at hv
      obtain ⟨-, rfl⟩ : d' = d ∧ visit = .hung := by simpa using hv
      exact absurd rfl hw.1

/-- A listing that answers has come to its end, or ran out of time where it may. -/
theorem Sound.stopped {w : Dirs} (h : w.Sound root there dirs) {i : Nat} {c c' : Call} (hi : w.calls i = some c) {e : Event}
    (ha : w.Answers there e) (hc' : (Dirs.step root dirs w e).calls i = some c') (hne : c' ≠ c)
    {out : List ProfileSummary} (hl : c'.phase = .done (.listed out)) : Stopped root w c := by
  rcases step_call hi ha hc' hne with ⟨hd, -⟩ | ⟨d, rest, a, hd, hadv⟩
  · exact .inl hd
  · right
    rcases advance_call hi hadv with ⟨-, hno⟩ | rfl | ⟨strict, rfl, hdead, hwhere⟩ | ⟨rfl, -⟩ | ⟨visit, result, hp, rfl⟩
    · exact absurd hl (hno _)
    · exact absurd rfl hne
    · obtain ⟨-, rfl⟩ := Call.expired_listed (Phase.done.inj hl)
      exact ⟨d, rest, hd, hdead, hwhere.imp_right .inl⟩
    · rw [Call.passed_eq hd] at hl
      cases hl
    · have hw := (h.calls hi).within
      simp only [Call.Within, hp] at hw
      rw [Call.passed_eq hd] at hl
      cases result with
      | none => cases hl
      | some r =>
        obtain rfl := Phase.done.inj hl
        obtain ⟨rfl, hroot⟩ := hw.2.2 out rfl
        exact ⟨d, rest, hd, hw.2.1 rfl, .inr (.inr ⟨hroot d (by simp [hd]), _, hp⟩)⟩

/-- **Root's directories.** In every state of every interleaving of walks over one list, where `there` are
directories that open and can be enumerated:
* one walk at a time is in a directory, and none waits past its deadline, nor at all once that has passed;
* of each directory of root's before the one it found its document in, a walk found that it holds no readable copy,
  and of each it has come to, a listing that answers read the first names to the end; or it went past as hung;
* it goes past one of root's only where another walk has been at its open for `hung_after`;
* a listing answers short only where its time ran out outside every directory, or in a user's. -/
theorem root_dirs_looked_in (root there : Dir → Bool) (dirs : List Dir) (now : Nat) (es : List Event)
    (hes : Machine.Along (Dirs.step root dirs) (Answers there) (start now) es) :
    let w := Machine.run (Dirs.step root dirs) (start now) es
    (∀ i j c c' d rest rest', w.calls i = some c → c.ahead = d :: rest → c.phase.inside = true →
      w.calls j = some c' → c'.ahead = d :: rest' → c'.phase.inside = true → i = j) ∧
    (∀ i c limit, w.calls i = some c → c.phase = .waiting limit → limit ≤ c.deadline) ∧
    (∀ i c c' d rest limit, w.calls i = some c → c.ahead = d :: rest → c.deadline ≤ w.now →
      (w.look i c d).calls i = some c' → c'.phase ≠ .waiting limit) ∧
    (∀ i c d text, w.calls i = some c → c.phase = .done (.found d text) →
      ∃ before, c.visited = before ++ [(d, .found)] ∧ before.map Prod.fst ++ d :: c.ahead = dirs ∧
        ∀ v ∈ before, root v.1 = true → there v.1 = true → v.2 = .noCopy ∨ v.2 = .hung) ∧
    (∀ i c out, w.calls i = some c → c.phase = .done (.listed out) →
      c.visited.map Prod.fst ++ c.ahead = dirs ∧
        ∀ v ∈ c.visited, root v.1 = true → there v.1 = true →
          (∃ seen, v.2 = .readToEnd seen (firstNames seen)) ∨ v.2 = .hung) ∧
    (∀ i c c' e d, w.calls i = some c → w.Answers there e → (Dirs.step root dirs w e).calls i = some c' →
      c'.visited = c.visited ++ [(d, .hung)] → root d = true → there d = true →
      ∃ holder k rest, w.held d = some holder ∧ holder.since + profileDirHungAfter ≤ w.now ∧
        w.calls holder.call = some k ∧ k.ahead = d :: rest ∧ (k.phase = .opening ∨ k.phase = .marking)) ∧
    (∀ i c c' e out, w.calls i = some c → w.Answers there e → (Dirs.step root dirs w e).calls i = some c' → c' ≠ c →
      c'.phase = .done (.listed out) → Stopped root w c) := by
  intro w
  have h : w.Sound root there dirs := Machine.run_inv_of (fun _ _ hs ha => hs.step ha) _ es (sound_start now) hes
  refine ⟨fun i j c c' d rest rest' hi hd hin hj hd' hin' => h.gate.alone hi hd hin hj hd' hin', fun i c limit hi hp => ?_,
    fun i c c' d rest limit _ hd hdead hl => look_not_waiting hd hdead hl limit, fun i c d text hi hp => ?_,
    fun i c out hi hp => ?_, fun i c c' e d hi ha hc' hv hr ht => h.hung hi ha hc' hv hr ht,
    fun i c c' e out hi ha hc' hne hl => h.stopped hi ha hc' hne hl⟩
  · have hw := (h.calls hi).within
    simp only [Call.Within, hp] at hw
    exact hw
  · have hb := (h.calls hi).behind
    simp only [Call.Behind, hp] at hb
    obtain ⟨hw, before, hv, hl⟩ := hb
    refine ⟨before, hv, ?_, fun v hvm hr ht => ?_⟩
    · rw [← (h.calls hi).walk, hv]
      simp
    · have hc := hl v hvm hr ht
      cases hvisit : v.2 with
      | noCopy => exact .inl rfl
      | hung => exact .inr rfl
      | readToEnd seen tried =>
        rw [hvisit, hw] at hc
        cases hc.1
      | _ =>
        rw [hvisit] at hc
        cases hc
  · have hb := (h.calls hi).behind
    simp only [Call.Behind, hp] at hb
    obtain ⟨hw, -, hl⟩ := hb
    refine ⟨(h.calls hi).walk, fun v hvm hr ht => ?_⟩
    have hc := hl v hvm hr ht
    cases hvisit : v.2 with
    | readToEnd seen tried =>
      rw [hvisit] at hc
      exact .inl ⟨seen, by rw [hc.2]⟩
    | hung => exact .inr rfl
    | noCopy =>
      rw [hvisit, hw] at hc
      cases hc
    | _ =>
      rw [hvisit] at hc
      cases hc

/-- Root's directory 0 holds no copy of the document the user's directory 1 holds. -/
def copyRun : List Event :=
  [.call 0 .byId 3000, .advance 0 .ended, .advance 0 .ended, .advance 0 .opened, .advance 0 .ended, .advance 0 .noCopy,
    .advance 0 .ended, .advance 0 .ended, .advance 0 .ended, .advance 0 .opened, .advance 0 (.content "user"),
    .advance 0 .ended]

theorem root_dirs_looked_in_copyRun :
    ∃ c before, (Machine.run (Dirs.step (· == 0) [0, 1]) (start 0) copyRun).calls 0 = some c ∧
      c.visited = before ++ [(1, .found)] ∧ before.map Prod.fst ++ 1 :: c.ahead = [0, 1] :=
  have h := (root_dirs_looked_in (· == 0) (fun _ => true) [0, 1] 0 copyRun (by decide)).2.2.2.1 0 _ 1 "user" rfl rfl
  ⟨_, h.choose, rfl, h.choose_spec.1, h.choose_spec.2.1⟩

/-- Time runs out in the user's directory 1, listed before root's directory 0. -/
def shortListing : List Event :=
  [.call 0 .list 100, .advance 0 .ended, .advance 0 .ended, .advance 0 .opened, .advance 0 .opened, .elapse 100,
    .advance 0 (.entry none), .advance 0 .ended, .advance 0 .ended]

/-- A listing can answer with a directory of root's unread. -/
theorem listing_answers_short :
    ¬ ∀ (root there : Dir → Bool) (dirs : List Dir) (now : Nat) (es : List Event),
      Machine.Along (Dirs.step root dirs) (Answers there) (start now) es →
      ∀ i c out, (Machine.run (Dirs.step root dirs) (start now) es).calls i = some c → c.phase = .done (.listed out) →
        ∀ d ∈ dirs, root d = true → there d = true → ∃ seen, (d, .readToEnd seen (firstNames seen)) ∈ c.visited := by
  intro h
  obtain ⟨seen, hseen⟩ :=
    h (· == 0) (fun _ => true) [1, 0] 0 shortListing (by decide) 0 _ _ rfl rfl 0 (by simp) rfl rfl
  cases List.mem_singleton.mp hseen

end

end Dirs

end ControlOfc.ProfileStore.Search
