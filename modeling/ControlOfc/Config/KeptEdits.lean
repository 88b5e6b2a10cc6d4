import ControlOfc.Config.EditRun
/-! # No edit is lost while its request lives

As long as no request is dropped under the lock, one edit at a time is between the file and the daemon, and
each step of it is judged against the config it loaded: what an answered edit asked for stays in force until
the next edit of its key, and stays in the file until then or until the file breaks. Roles and devices come
back to a broken file with the next load, from the daemon's own copies.
-/
namespace ControlOfc.Config
open Profile

namespace Daemon

variable {d : Daemon}

/-- The config shows the last value of every save that landed since the file broke. -/
def ShowsLanded (d : Daemon) (cfg : RuntimeConfig) : Prop := ∀ k v, lastOf d.landed k = some v → cfg.valueAt k = v

/-- What is known of the edit under way. -/
def TurnOk (d : Daemon) : Prop :=
  match d.turn with
  | .free | .reading _ => True
  | .replacing _ cfg => cfg = carrying d.live ∧ d.landed = [] ∧ ∃ f, d.outside = .faulty f
  | .loaded _ cfg => Agrees cfg d.live ∧ d.ShowsLanded cfg
  | .saving e cfg' => ∃ cfg, e.apply d.live cfg = .ok cfg' ∧ Agrees cfg d.live ∧ d.ShowsLanded cfg
  | .saved e cfg' => ∃ cfg, e.apply d.live cfg = .ok cfg' ∧ Agrees cfg d.live ∧ ∀ c, d.file = .holds c → c = cfg'

def isSaved : Turn → Bool
  | .saved .. => true
  | _ => false

/-- The edit under way has not reached the file. -/
def Unsaved (d : Daemon) : Prop := isSaved d.turn = false

/-- The file as the others left it, or what the daemon runs on in place of a broken one. -/
def AsLeft (d : Daemon) : Prop :=
  d.file = d.outside ∨ ∃ f, d.outside = .faulty f ∧ d.file = .holds (carrying d.live)

structure Sound (d : Daemon) : Prop where
  noLate : d.late = []
  inForce : ∀ k v v', lastOf d.answered k = some v → d.live.valueAt k = some v' → v' = v
  agrees : d.Unsaved → ∀ cfg, d.file = .holds cfg → Agrees cfg d.live
  landed : ∀ cfg, d.file = .holds cfg → d.ShowsLanded cfg
  broken : ∀ f, d.file = .faulty f → d.landed = []
  turn : d.TurnOk
  before : d.turn ≠ .free → d.before = d.live
  asLeft : d.turn ≠ .free → d.Unsaved → d.AsLeft

theorem showsLanded_nil (h : d.landed = []) (cfg : RuntimeConfig) : d.ShowsLanded cfg := by
  intro k v hv
  rw [h] at hv
  cases hv

theorem sound_boot (file : FileState) (searchDirs : List String) (exitFloorPct coolantLimitC : Nat) :
    (boot file searchDirs exitFloorPct coolantLimitC).Sound where
  noLate := rfl
  inForce := by
    intro k v v' h
    simp [boot, lastOf, KMap.ofList] at h
  agrees := by
    intro _ cfg h
    have hfile : file = .holds cfg := h
    subst hfile
    exact ⟨(HeaderRoles.toMap_ofSaved cfg.headerRoles).symm, rfl⟩
  landed := fun cfg _ => showsLanded_nil (d := boot file searchDirs exitFloorPct coolantLimitC) rfl cfg
  broken := fun _ _ => rfl
  turn := trivial
  before := fun h => absurd rfl h
  asLeft := fun h => absurd rfl h

/-- The turn passes on to an edit that has not saved; nothing else changes. -/
theorem Sound.passes (hd : d.Sound) (turn : Turn) (hnow : d.Unsaved)
    (hok : TurnOk { d with turn }) (hbusy : d.turn ≠ .free) : Sound { d with turn } where
  noLate := hd.noLate
  inForce := hd.inForce
  agrees := fun _ => hd.agrees hnow
  landed := hd.landed
  broken := hd.broken
  turn := hok
  before := fun _ => hd.before hbusy
  asLeft := fun _ _ => hd.asLeft hbusy hnow

theorem Sound.request (hd : d.Sound) (e : Edit) (hfree : d.turn = .free) :
    Sound { d with turn := .reading e, outside := d.file, before := d.live } where
  noLate := hd.noLate
  inForce := hd.inForce
  agrees := fun _ => hd.agrees (by rw [Unsaved, hfree]; rfl)
  landed := hd.landed
  broken := hd.broken
  turn := trivial
  before := fun _ => rfl
  asLeft := fun _ _ => .inl rfl

theorem Sound.replaces {e : Edit} {cfg : RuntimeConfig} (hd : d.Sound) (hturn : d.turn = .replacing e cfg) :
    Sound { d with file := .holds cfg, turn := .loaded e cfg } := by
  have hok := hd.turn
  simp only [TurnOk, hturn] at hok
  obtain ⟨rfl, hnil, hout⟩ := hok
  have hbusy : d.turn ≠ .free := by rw [hturn]; nofun
  refine ⟨hd.noLate, hd.inForce, ?_, fun c _ => showsLanded_nil hnil c, nofun, ?_, fun _ => hd.before hbusy, ?_⟩
  · intro _ c h
    cases h
    exact agrees_carrying d.live
  · exact ⟨agrees_carrying d.live, showsLanded_nil hnil _⟩
  · intro _ _
    obtain ⟨f, hf⟩ := hout
    exact .inr ⟨f, hf, rfl⟩

theorem Sound.saves {e : Edit} {cfg' : RuntimeConfig} (hd : d.Sound) (hturn : d.turn = .saving e cfg') :
    Sound { d with
      file := .holds cfg', turn := .saved e cfg', landed := d.landed ++ [(e.key, e.asks d.live)] } := by
  have hok := hd.turn
  simp only [TurnOk, hturn] at hok
  obtain ⟨cfg, happly, hagree, hlanded⟩ := hok
  have hbusy : d.turn ≠ .free := by rw [hturn]; nofun
  refine ⟨hd.noLate, hd.inForce, ?_, ?_, nofun, ?_, fun _ => hd.before hbusy, ?_⟩
  · intro hno
    cases hno
  · intro c h k v hv
    cases h
    rw [lastOf_concat] at hv
    rw [valueAt_apply happly]
    split at hv
    · rw [if_pos ‹_›]
      exact Option.some.inj hv
    · rw [if_neg ‹_›]
      exact hlanded k v hv
  · refine ⟨cfg, happly, hagree, fun c h => ?_⟩
    cases h
    rfl
  · intro _ hno
    cases hno

theorem Sound.commits {e : Edit} {cfg' : RuntimeConfig} (hd : d.Sound) (hturn : d.turn = .saved e cfg') :
    Sound { d with
      live := e.commit cfg' d.live, turn := .free, answered := d.answered ++ [(e.key, e.asks d.live)] } := by
  have hok := hd.turn
  simp only [TurnOk, hturn] at hok
  obtain ⟨cfg, happly, hagree, hfile⟩ := hok
  refine ⟨hd.noLate, ?_, ?_, hd.landed, hd.broken, trivial, fun h => absurd rfl h, fun h => absurd rfl h⟩
  · intro k v v' hv hv'
    rw [lastOf_concat] at hv
    have hcommit := valueAt_commit hagree happly hv'
    split at hv
    · rw [if_pos ‹_›] at hcommit
      rw [hcommit, Option.some.inj hv]
    · rw [if_neg ‹_›] at hcommit
      exact hd.inForce k v v' hv hcommit
  · intro _ c h
    rw [hfile c h]
    exact hagree.commit happly

/-- The file breaks, whatever is under way. -/
theorem Sound.breaks (hd : d.Sound) (f : Fault) :
    Sound { d with file := .faulty f, outside := .faulty f, landed := [] } := by
  have hnil : ∀ cfg, ShowsLanded { d with file := .faulty f, outside := .faulty f, landed := [] } cfg :=
    fun cfg => showsLanded_nil rfl cfg
  refine ⟨hd.noLate, hd.inForce, ?_, fun cfg _ => hnil cfg, fun _ _ => rfl, ?_, hd.before, fun _ _ => .inl rfl⟩
  · intro _ cfg h
    cases h
  have hok := hd.turn
  unfold TurnOk at hok ⊢
  dsimp only
  cases hturn : d.turn with
  | free => trivial
  | reading e => trivial
  | replacing e cfg =>
    rw [hturn] at hok
    exact ⟨hok.1, rfl, f, rfl⟩
  | loaded e cfg =>
    rw [hturn] at hok
    exact ⟨hok.1, hnil cfg⟩
  | saving e cfg' =>
    rw [hturn] at hok
    obtain ⟨cfg, happly, hagree, -⟩ := hok
    exact ⟨cfg, happly, hagree, hnil cfg⟩
  | saved e cfg' =>
    rw [hturn] at hok
    obtain ⟨cfg, happly, hagree, -⟩ := hok
    exact ⟨cfg, happly, hagree, fun c h => by cases h⟩

theorem Sound.reads {e : Edit} (hd : d.Sound) (linked : Bool) (hturn : d.turn = .reading e) :
    Sound (d.step (.reads linked)) := by
  have hbusy : d.turn ≠ .free := by rw [hturn]; nofun
  have hunsaved : d.Unsaved := by rw [Unsaved, hturn]; rfl
  simp only [step, hturn]
  split
  · rename_i cfg hfile
    exact hd.passes _ hunsaved ⟨hd.agrees hunsaved cfg hfile, hd.landed cfg hfile⟩ hbusy
  · rename_i hfile
    exact hd.passes _ hunsaved ⟨agrees_carrying d.live, showsLanded_nil (hd.broken _ hfile) _⟩ hbusy
  · rename_i f _ hfile
    split
    · refine hd.passes _ hunsaved ⟨rfl, hd.broken f hfile, f, ?_⟩ hbusy
      rcases hd.asLeft hbusy hunsaved with h | ⟨_, _, h⟩
      · rw [← h]
        exact hfile
      · rw [hfile] at h
        cases h
    · exact hd.passes .free hunsaved trivial hbusy

theorem Sound.changes {e : Edit} {cfg : RuntimeConfig} (hd : d.Sound) (hturn : d.turn = .loaded e cfg) :
    Sound (d.step .changes) := by
  have hbusy : d.turn ≠ .free := by rw [hturn]; nofun
  have hunsaved : d.Unsaved := by rw [Unsaved, hturn]; rfl
  have hok := hd.turn
  simp only [TurnOk, hturn] at hok
  simp only [step, hturn]
  split
  · exact hd.passes _ hunsaved ⟨cfg, ‹_›, hok.1, hok.2⟩ hbusy
  · exact hd.passes .free hunsaved trivial hbusy

/-- Every move keeps it, as long as no request is dropped under the lock. -/
theorem Sound.step (hd : d.Sound) (m : Move) (hm : m = .dropped → d.turn = .free) : (d.step m).Sound := by
  cases m with
  | request e =>
    simp only [Daemon.step]
    split
    · exact hd.request e ‹_›
    · exact hd
  | reads linked =>
    cases hturn : d.turn with
    | reading e => exact hd.reads linked hturn
    | _ => simpa only [Daemon.step, hturn] using hd
  | replaces ok =>
    simp only [Daemon.step]
    split
    · rename_i e cfg hturn
      split
      · exact hd.replaces hturn
      · exact hd.passes .free (by rw [Unsaved, hturn]; rfl) trivial (by rw [hturn]; nofun)
    · exact hd
  | changes =>
    cases hturn : d.turn with
    | loaded e cfg => exact hd.changes hturn
    | _ => simpa only [Daemon.step, hturn] using hd
  | saves ok =>
    simp only [Daemon.step]
    split
    · rename_i e cfg hturn
      split
      · exact hd.saves hturn
      · exact hd.passes .free (by rw [Unsaved, hturn]; rfl) trivial (by rw [hturn]; nofun)
    · exact hd
  | commits =>
    simp only [Daemon.step]
    split
    · exact hd.commits ‹_›
    · exact hd
  | dropped => simpa only [Daemon.step, hm rfl] using hd
  | lateRuns i ok => simpa [Daemon.step, lateStep, hd.noLate] using hd
  | breaks f => exact hd.breaks f

theorem lateStep_turn (d : Daemon) (i : Nat) (ok : Bool) : (d.lateStep i ok).turn = d.turn := by
  unfold lateStep
  repeat' split
  all_goals rfl

/-- Where an edit fails it has not saved, and the move itself touches neither the file nor the daemon. -/
theorem Fails.same {m : Move} (hm : d.Fails m) : d.Unsaved ∧ (d.step m).live = d.live ∧ (d.step m).file = d.file := by
  obtain ⟨hbusy, hfree, hcommit, hdrop⟩ := hm
  cases m with
  | commits => exact absurd rfl hcommit
  | dropped => exact absurd rfl hdrop
  | breaks f => exact absurd hfree hbusy
  | lateRuns i ok => exact absurd (by rwa [step, lateStep_turn] at hfree) hbusy
  | request e => cases hturn : d.turn <;> simp_all [step]
  | reads linked =>
    cases hturn : d.turn with
    | reading e =>
      simp only [step, hturn] at hfree ⊢
      refine ⟨by rw [Unsaved, hturn]; rfl, ?_⟩
      split at hfree
      · cases hfree
      · cases hfree
      · split at hfree
        · cases hfree
        · rename_i hlinked
          simp [*]
    | _ => simp_all [step]
  | replaces ok =>
    cases hturn : d.turn with
    | replacing e cfg =>
      cases ok with
      | true => simp [step, hturn] at hfree
      | false => exact ⟨by rw [Unsaved, hturn]; rfl, by simp [step, hturn], by simp [step, hturn]⟩
    | _ => simp_all [step]
  | changes =>
    cases hturn : d.turn with
    | loaded e cfg =>
      cases happly : e.apply d.live cfg with
      | ok cfg' => simp [step, hturn, happly] at hfree
      | error r => exact ⟨by rw [Unsaved, hturn]; rfl, by simp [step, hturn, happly], by simp [step, hturn, happly]⟩
    | _ => simp_all [step]
  | saves ok =>
    cases hturn : d.turn with
    | saving e cfg =>
      cases ok with
      | true => simp [step, hturn] at hfree
      | false => exact ⟨by rw [Unsaved, hturn]; rfl, by simp [step, hturn], by simp [step, hturn]⟩
    | _ => simp_all [step]

/-- What an edit that fails leaves behind. -/
theorem Sound.fails (hd : d.Sound) {m : Move} (hm : d.Fails m) :
    (d.step m).live = d.before ∧
      ((d.step m).file = d.outside ∨ ∃ f, d.outside = .faulty f ∧ (d.step m).file = .holds (carrying d.before)) := by
  obtain ⟨hunsaved, hlive, hfile⟩ := hm.same
  rw [hlive, hfile, hd.before hm.1]
  exact ⟨rfl, hd.asLeft hm.1 hunsaved⟩

/-- The role last assigned to a header is in the file whenever the file can be read, but for an edit of
that header that is just being answered. -/
theorem Sound.role_kept (hd : d.Sound) {id : String} {r : Option HeaderRole}
    (h : lastOf d.answered (.headerRole id) = some (.role r)) {cfg : RuntimeConfig} (hfile : d.file = .holds cfg)
    (hother : ∀ e c, d.turn = .saved e c → e.key ≠ .headerRole id) : (headerRolesParsed cfg.headerRoles).get? id = r := by
  have hlive : d.live.headerRoles.toMap.get? id = r := by
    have := hd.inForce _ _ _ h rfl
    simpa using this
  by_cases hunsaved : d.Unsaved
  · rw [(hd.agrees hunsaved cfg hfile).roles, hlive]
  · obtain ⟨e, cfg', hturn⟩ : ∃ e cfg', d.turn = .saved e cfg' := by
      cases hturn : d.turn with
      | saved e cfg' => exact ⟨e, cfg', rfl⟩
      | _ => exact absurd (by rw [Unsaved, hturn]; rfl) hunsaved
    have hok := hd.turn
    simp only [TurnOk, hturn] at hok
    obtain ⟨base, happly, hagree, hsame⟩ := hok
    have hvalue := valueAt_apply happly (.headerRole id)
    rw [if_neg (Ne.symm (hother e cfg' hturn)), ← hsame cfg hfile] at hvalue
    simp only [RuntimeConfig.valueAt, Value.role.injEq] at hvalue
    rw [hvalue, hagree.roles, hlive]

/-- Edits of `runtime.toml`, in any order, none of whose requests is dropped while it holds `config_write`,
with a file that may break at any time. -/
theorem edits_kept (file : FileState) (searchDirs : List String) (exitFloorPct coolantLimitC : Nat) (ms : List Move)
    (hms : Machine.Along step (fun d m => m = .dropped → d.turn = .free)
      (boot file searchDirs exitFloorPct coolantLimitC) ms) :
    -- what was last asked for successfully is in force, where the key applies to the running daemon
    (∀ k v v', lastOf (Machine.run step (boot file searchDirs exitFloorPct coolantLimitC) ms).answered k = some v →
      (Machine.run step (boot file searchDirs exitFloorPct coolantLimitC) ms).live.valueAt k = some v' → v' = v) ∧
    -- and in the file, from the save until the file breaks
    (∀ cfg, (Machine.run step (boot file searchDirs exitFloorPct coolantLimitC) ms).file = .holds cfg →
      ∀ k v, lastOf (Machine.run step (boot file searchDirs exitFloorPct coolantLimitC) ms).landed k = some v →
        cfg.valueAt k = v) ∧
    -- outside the moment between a save and its commit the roles and devices are the daemon's own
    ((Machine.run step (boot file searchDirs exitFloorPct coolantLimitC) ms).Unsaved →
      ∀ cfg, (Machine.run step (boot file searchDirs exitFloorPct coolantLimitC) ms).file = .holds cfg →
        Agrees cfg (Machine.run step (boot file searchDirs exitFloorPct coolantLimitC) ms).live) ∧
    -- so that a role outlives a broken file
    (∀ id r, lastOf (Machine.run step (boot file searchDirs exitFloorPct coolantLimitC) ms).answered (.headerRole id) =
        some (.role r) →
      ∀ cfg, (Machine.run step (boot file searchDirs exitFloorPct coolantLimitC) ms).file = .holds cfg →
        (∀ e c, (Machine.run step (boot file searchDirs exitFloorPct coolantLimitC) ms).turn = .saved e c →
          e.key ≠ .headerRole id) →
        (headerRolesParsed cfg.headerRoles).get? id = r) ∧
    -- an edit that fails leaves the daemon as it found it, and the file unless that was broken
    (∀ m, (Machine.run step (boot file searchDirs exitFloorPct coolantLimitC) ms).Fails m →
      ((Machine.run step (boot file searchDirs exitFloorPct coolantLimitC) ms).step m).live =
          (Machine.run step (boot file searchDirs exitFloorPct coolantLimitC) ms).before ∧
        (((Machine.run step (boot file searchDirs exitFloorPct coolantLimitC) ms).step m).file =
            (Machine.run step (boot file searchDirs exitFloorPct coolantLimitC) ms).outside ∨
          ∃ f, (Machine.run step (boot file searchDirs exitFloorPct coolantLimitC) ms).outside = .faulty f ∧
            ((Machine.run step (boot file searchDirs exitFloorPct coolantLimitC) ms).step m).file =
              .holds (carrying (Machine.run step (boot file searchDirs exitFloorPct coolantLimitC) ms).before))) := by
  have hd : (Machine.run step (boot file searchDirs exitFloorPct coolantLimitC) ms).Sound :=
    Machine.run_inv_of (fun d m hd hm => hd.step m hm) _ ms (sound_boot ..) hms
  refine ⟨hd.inForce, hd.landed, hd.agrees, ?_, fun m hm => hd.fails hm⟩
  intro id r h cfg hfile hother
  exact hd.role_kept h hfile hother

/-- One edit from the request to the answer, with a file system that does its part. -/
def whole (e : Edit) : List Move := [.request e, .reads true, .replaces true, .changes, .saves true, .commits]

/-- The daemon's first boot: no file yet. -/
def firstBoot : Daemon := boot (.faulty .missing) [systemProfileDir] 0 50

/-- A pump assigned before the file was found malformed is in the file that replaces it. -/
theorem edits_kept_pump :
    ∃ cfg, (Machine.run step firstBoot (whole (.headerRole "openfan:ch01" (some .pump)) ++
        .breaks .malformed :: whole (.exitFloor 40))).file = .holds cfg ∧
      (headerRolesParsed cfg.headerRoles).get? "openfan:ch01" = some .pump := by
  refine ⟨_, rfl, ?_⟩
  have hkept := edits_kept (.faulty .missing) [systemProfileDir] 0 50
    (whole (.headerRole "openfan:ch01" (some .pump)) ++ .breaks .malformed :: whole (.exitFloor 40))
    (by simp [whole])
  exact hkept.2.2.2.1 "openfan:ch01" (some .pump) (by decide) _ rfl (by intro e c he; cases he)

/-- A refused edit replaces a malformed file; an exit floor that was answered with success is gone from the
file that replaces the malformed one; and a pump answered with success is gone when the save of a request
that was dropped before it lands after it. -/
theorem edits_not_kept :
    (∃ cfg, (Machine.run step (boot (.faulty .malformed) [systemProfileDir] 0 50)
        [.request (.removeDevice "aio"), .reads true, .replaces true, .changes]).file = .holds cfg) ∧
    (∃ cfg, (Machine.run step firstBoot (whole (.exitFloor 40) ++
          .breaks .malformed :: whole (.headerRole "openfan:ch01" (some .pump)))).file = .holds cfg ∧
      lastOf (Machine.run step firstBoot (whole (.exitFloor 40) ++
          .breaks .malformed :: whole (.headerRole "openfan:ch01" (some .pump)))).answered .exitFloor =
        some (.number (some 40)) ∧
      cfg.valueAt .exitFloor = .number none) ∧
    (∃ cfg, (Machine.run step firstBoot ([.request (.exitFloor 40), .reads true, .changes, .dropped] ++
          whole (.headerRole "openfan:ch01" (some .pump)) ++ [.lateRuns 0 true])).file = .holds cfg ∧
      lastOf (Machine.run step firstBoot ([.request (.exitFloor 40), .reads true, .changes, .dropped] ++
          whole (.headerRole "openfan:ch01" (some .pump)) ++ [.lateRuns 0 true])).answered (.headerRole "openfan:ch01") =
        some (.role (some .pump)) ∧
      cfg.valueAt (.headerRole "openfan:ch01") = .role none) := by
  refine ⟨⟨_, rfl⟩, ⟨_, rfl, rfl, rfl⟩, ⟨_, rfl, ?_, rfl⟩⟩
  decide

end Daemon

end ControlOfc.Config
