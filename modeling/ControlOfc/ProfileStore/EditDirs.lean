import ControlOfc.Lib.UnixPath
import Mathlib.Tactic.Common
/-! # Edits of the profile search path (api/handlers/config.rs:54-219, path_confine.rs:87-259)

A client asks for directories to be added and removed. A caller other than root is confined to its home, by its raw
and by its real spelling: an addition is stored as the real path it resolved to, and a removal matches as it was sent
and by its real path where that too is the caller's. Two spellings are one directory when their normal forms agree.

Main theorem `search_dir_edit`.
-/
namespace ControlOfc.ProfileStore.EditDirs
open UnixPath

/-! ## The bounds -/

/-- `SYSTEM_PROFILE_DIR` (config.rs:149). -/
def systemProfileDir : String := "/etc/control-ofc/profiles"

/-- `MAX_PROFILE_SEARCH_DIRS` (constants.rs:1590). -/
def maxProfileSearchDirs : Nat := 32

/-- `MAX_PROFILE_SEARCH_DIRS_PER_USER` (constants.rs:1597). -/
def maxProfileSearchDirsPerUser : Nat := 4

/-- `MAX_PROFILE_SEARCH_DIR_BYTES` (constants.rs:1601). -/
def maxProfileSearchDirBytes : Nat := 4096

/-- `dir_key` (config.rs:89), as the text it displays. -/
def dirKey (dir : String) : String := String.ofList (normalize dir.toList)

/-- `is_system_dir`. -/
def isSystemDir (dir : String) : Bool := dirKey dir = systemProfileDir

/-- `system_dir_protected`. -/
def systemDirProtected : String := "the system profile directory cannot be removed: " ++ systemProfileDir

/-- `validate_search_dir_edit` (config.rs:54). -/
def validateSearchDirEdit (add remove : List String) : Except String Unit :=
  if maxProfileSearchDirs < add.length ∨ maxProfileSearchDirs < remove.length then
    .error s!"at most {maxProfileSearchDirs} profile search directories can be added or removed at once"
  else
    let fault (d : String) : Option String :=
      if maxProfileSearchDirBytes < d.utf8ByteSize then
        some s!"search dir path is {d.utf8ByteSize} bytes; the limit is {maxProfileSearchDirBytes}"
      else if d.toList.head? ≠ some '/' then some s!"search dir must be absolute: {d}"
      else if ['.', '.'] <:+: d.toList then some s!"search dir must not contain path traversal (..): {d}"
      else none
    match (add ++ remove).findSome? fault with
    | some msg => .error msg
    | none => if remove.any isSystemDir then .error systemDirProtected else .ok ()

/-! ## Confinement -/

/-- `Confinement` (path_confine.rs:112). -/
inductive Confinement where
  | unconfined
  | home (home : String) (roots : List String)

namespace Confinement

/-- `permits` (path_confine.rs:158). -/
def permits : Confinement → String → Bool
  | .unconfined, _ => true
  | .home _ roots, path => roots.any fun root => startsWith path.toList root.toList

/-- `outside_home`. -/
def outsideHome (who : Confinement) (dir : String) : String :=
  let root := match who with
    | .unconfined => "/"
    | .home root _ => root
  s!"profile search directory must be within your home directory ({root}): {dir}"

end Confinement

section Caller

variable (who : Confinement)

/-- One directory of `confine_adds` (path_confine.rs:199), and what it resolves to. -/
def confineAdd (realOf : String → Option String) (dir : String) : Except String String :=
  match realOf dir, who with
  | some real, who => if who.permits real then .ok real else .error (who.outsideHome dir)
  | none, .unconfined => .ok (dirKey dir)
  | none, .home .. => .error s!"profile search directory must exist and be readable: {dir}"

def confineAdds (realOf : String → Option String) (dirs : List String) : Except String (List String) :=
  dirs.mapM (confineAdd who realOf)

/-- The spellings that one removal may match (path_confine.rs:248-256). -/
def spellingsOf (realPathOf : String → Option String) (dir : String) : List String :=
  dir :: ((realPathOf dir).filter who.permits).toList

/-- `confine_removals` (path_confine.rs:241). -/
def confineRemovals (realPathOf : String → Option String) : List String → Except String (List String)
  | [] => .ok []
  | dir :: rest =>
    if !who.permits dir && ((realPathOf dir).filter who.permits).isNone then .error (who.outsideHome dir)
    else (confineRemovals realPathOf rest).map (spellingsOf who realPathOf dir ++ ·)

/-! ## The merge -/

/-- The loop over the current entries (config.rs:184-194). -/
def keepDirs (removed : List String) : List String → Except String (List String)
  | [] => .ok []
  | d :: rest =>
    if removed.contains (dirKey d) then
      if isSystemDir d then .error systemDirProtected else keepDirs removed rest
    else (keepDirs removed rest).map (d :: ·)

/-- The loop over the additions (config.rs:195-200). -/
def addDirs (merged : List String) (add : List String) : List String :=
  add.foldl (fun merged d => if merged.any fun m => dirKey m = dirKey d then merged else merged ++ [dirKey d]) merged

/-- `merge_search_dirs` (config.rs:176). -/
def mergeSearchDirs (current add remove : List String) (storeDir : Option String) : Except String (List String) := do
  let kept ← keepDirs (remove.map dirKey) current
  let merged := addDirs kept add
  if maxProfileSearchDirs < merged.length ∧ current.length < merged.length then
    .error s!"at most {maxProfileSearchDirs} profile search directories can be registered; remove one first"
  else if merged = [] then
    .error "at least one profile search directory must remain; refusing an edit that would empty the search path"
  else
    match storeDir with
    | none => .ok merged
    | some store =>
      if merged.head? ≠ some store then
        .error ("the daemon's profile store directory must remain first in the search path and cannot be removed or " ++
          s!"displaced: {store}")
      else .ok merged

/-- How many entries are the caller's. -/
def mine (dirs : List String) : Nat := dirs.countP who.permits

/-- `within_user_share` (config.rs:109). -/
def withinUserShare (current merged : List String) : Except String (List String) :=
  match who with
  | .unconfined => .ok merged
  | .home .. =>
    if maxProfileSearchDirsPerUser < mine who merged ∧ mine who current < mine who merged then
      .error (s!"at most {maxProfileSearchDirsPerUser} profile search directories inside your home can be registered; " ++
        "remove one first")
    else .ok merged

variable (realOf realPathOf : String → Option String)

/-- What `update_profile_search_dirs_handler` (config.rs:235) makes of an edit; the first entry is the profile store. -/
def editSearchDirs (current add remove : List String) : Except String (List String) := do
  validateSearchDirEdit add remove
  let added ← confineAdds who realOf add
  let removed ← confineRemovals who realPathOf remove
  let merged ← mergeSearchDirs current added removed current.head?
  withinUserShare who current merged

/-- The list after a request. -/
def searchDirsAfter (current add remove : List String) : List String :=
  match editSearchDirs who realOf realPathOf current add remove with
  | .ok merged => merged
  | .error _ => current

end Caller

/-! ## Keys -/

@[simp] theorem dirKey_dirKey (d : String) : dirKey (dirKey d) = dirKey d := by
  simp [dirKey]

@[simp] theorem permits_dirKey (who : Confinement) (d : String) : who.permits (dirKey d) = who.permits d := by
  cases who with
  | unconfined => rfl
  | home home roots => simp [Confinement.permits, dirKey]

theorem permits_of_key {who : Confinement} {d d' : String} (h : dirKey d = dirKey d') : who.permits d = who.permits d' := by
  rw [← permits_dirKey, h, permits_dirKey]

variable {who : Confinement} {realOf realPathOf : String → Option String} {current add remove merged : List String}

/-! ## The parts of an edit -/

theorem confineRemovals_ok {removed : List String} (h : confineRemovals who realPathOf remove = .ok removed) :
    removed = remove.flatMap (spellingsOf who realPathOf) ∧
      ∀ dir ∈ remove, who.permits dir = true ∨ ∃ real, realPathOf dir = some real ∧ who.permits real = true := by
  induction remove generalizing removed with
  | nil =>
    cases h
    exact ⟨rfl, nofun⟩
  | cons dir rest ih =>
    unfold confineRemovals at h
    split_ifs at h with hno
    cases hrest : confineRemovals who realPathOf rest with
    | error e =>
      rw [hrest] at h
      cases h
    | ok spellings =>
      rw [hrest] at h
      cases h
      obtain ⟨rfl, hall⟩ := ih hrest
      refine ⟨rfl, fun d hd => ?_⟩
      rcases List.mem_cons.mp hd with rfl | hd
      · rw [Bool.and_eq_true, Bool.not_eq_true', Option.isNone_iff_eq_none, not_and] at hno
        by_cases hp : who.permits d = true
        · exact .inl hp
        · obtain ⟨real, hreal⟩ := Option.ne_none_iff_exists'.mp (hno (Bool.eq_false_iff.mpr hp))
          exact .inr ⟨real, Option.filter_eq_some_iff.mp hreal⟩
      · exact hall d hd

theorem keepDirs_ok {removed kept : List String} (h : keepDirs removed current = .ok kept) :
    kept = current.filter (fun d => !removed.contains (dirKey d)) ∧
      ∀ d ∈ current, isSystemDir d = true → removed.contains (dirKey d) = false := by
  induction current generalizing kept with
  | nil =>
    cases h
    exact ⟨rfl, nofun⟩
  | cons d rest ih =>
    unfold keepDirs at h
    split_ifs at h with hd hsys
    · obtain ⟨rfl, hall⟩ := ih h
      refine ⟨by simp only [List.filter_cons, hd]; rfl, fun x hx hs => ?_⟩
      rcases List.mem_cons.mp hx with rfl | hx
      · exact absurd hs hsys
      · exact hall x hx hs
    · cases hrest : keepDirs removed rest with
      | error e =>
        rw [hrest] at h
        cases h
      | ok kept' =>
        rw [hrest] at h
        cases h
        obtain ⟨rfl, hall⟩ := ih hrest
        refine ⟨by simp only [List.filter_cons, hd]; rfl, fun x hx hs => ?_⟩
        rcases List.mem_cons.mp hx with rfl | hx
        · exact Bool.eq_false_iff.mpr hd
        · exact hall x hx hs

theorem keepDirs_of_none {removed : List String} (h : ∀ d ∈ current, removed.contains (dirKey d) = false) :
    keepDirs removed current = .ok current := by
  induction current with
  | nil => rfl
  | cons d rest ih =>
    unfold keepDirs
    rw [if_neg (by rw [h d List.mem_cons_self]; exact Bool.false_ne_true), ih fun d hd => h d (List.mem_cons_of_mem _ hd)]
    rfl

/-- What the additions leave: every directory is there, and what was not has been appended under its normal form. -/
theorem addDirs_spec (kept add : List String) :
    ∃ news, addDirs kept add = kept ++ news ∧ (news.map dirKey).Nodup ∧
      (∀ e ∈ news, (∃ d ∈ add, e = dirKey d) ∧ ∀ m ∈ kept, dirKey m ≠ dirKey e) ∧
      ∀ d ∈ add, ∃ m ∈ kept ++ news, dirKey m = dirKey d := by
  induction add using List.reverseRecOn with
  | nil => exact ⟨[], by simp [addDirs], List.nodup_nil, nofun, nofun⟩
  | append_singleton add d ih =>
    obtain ⟨news, heq, hnodup, hnews, hall⟩ := ih
    have hstep : addDirs kept (add ++ [d]) =
        if (kept ++ news).any (fun m => dirKey m = dirKey d) then kept ++ news else kept ++ news ++ [dirKey d] := by
      unfold addDirs at heq ⊢
      rw [List.foldl_append, heq]
      rfl
    by_cases hthere : (kept ++ news).any (fun m => dirKey m = dirKey d) = true
    · refine ⟨news, by rw [hstep, if_pos hthere], hnodup, fun e he => ?_, fun d' hd' => ?_⟩
      · obtain ⟨⟨d', hd', hkey⟩, hnew⟩ := hnews e he
        exact ⟨⟨d', List.mem_append_left _ hd', hkey⟩, hnew⟩
      · rcases List.mem_append.mp hd' with hd' | hd'
        · exact hall d' hd'
        · obtain rfl := List.mem_singleton.mp hd'
          obtain ⟨m, hm, hkey⟩ := List.any_eq_true.mp hthere
          exact ⟨m, hm, of_decide_eq_true hkey⟩
    · have hno : ∀ m ∈ kept ++ news, dirKey m ≠ dirKey d :=
        fun m hm hkey => hthere (List.any_eq_true.mpr ⟨m, hm, decide_eq_true hkey⟩)
      refine ⟨news ++ [dirKey d], by rw [hstep, if_neg hthere, List.append_assoc], ?_, fun e he => ?_, fun d' hd' => ?_⟩
      · rw [List.map_append, List.nodup_append]
        refine ⟨hnodup, List.pairwise_singleton _ _, fun x hx y hy => ?_⟩
        obtain ⟨e, he, rfl⟩ := List.mem_map.mp hx
        obtain rfl : y = dirKey (dirKey d) := by simpa using hy
        rw [dirKey_dirKey]
        exact hno e (List.mem_append_right _ he)
      · rcases List.mem_append.mp he with he | he
        · obtain ⟨⟨d', hd', hkey⟩, hnew⟩ := hnews e he
          exact ⟨⟨d', List.mem_append_left _ hd', hkey⟩, hnew⟩
        · obtain rfl := List.mem_singleton.mp he
          refine ⟨⟨d, by simp, rfl⟩, fun m hm => ?_⟩
          rw [dirKey_dirKey]
          exact hno m (List.mem_append_left _ hm)
      · rw [← List.append_assoc]
        rcases List.mem_append.mp hd' with hd' | hd'
        · obtain ⟨m, hm, hkey⟩ := hall d' hd'
          exact ⟨m, List.mem_append_left _ hm, hkey⟩
        · obtain rfl := List.mem_singleton.mp hd'
          exact ⟨dirKey d', by simp, dirKey_dirKey d'⟩

theorem addDirs_of_all {dirs : List String} (h : ∀ d ∈ add, ∃ m ∈ dirs, dirKey m = dirKey d) : addDirs dirs add = dirs := by
  induction add with
  | nil => rfl
  | cons d add ih =>
    have hthere : dirs.any (fun m => dirKey m = dirKey d) = true := by simpa using h d List.mem_cons_self
    unfold addDirs
    rw [List.foldl_cons, if_pos hthere]
    exact ih fun d' hd' => h d' (List.mem_cons_of_mem _ hd')

theorem mergeSearchDirs_ok {store : Option String} (h : mergeSearchDirs current add remove store = .ok merged) :
    keepDirs (remove.map dirKey) current = .ok (current.filter fun d => !(remove.map dirKey).contains (dirKey d)) ∧
      merged = addDirs (current.filter fun d => !(remove.map dirKey).contains (dirKey d)) add ∧
      (maxProfileSearchDirs < merged.length → merged.length ≤ current.length) ∧ merged ≠ [] ∧
      (∀ s, store = some s → merged.head? = some s) := by
  unfold mergeSearchDirs at h
  cases hkept : keepDirs (remove.map dirKey) current with
  | error e =>
    rw [hkept] at h
    cases h
  | ok kept =>
    rw [hkept] at h
    obtain ⟨rfl, -⟩ := keepDirs_ok hkept
    dsimp only [bind, Except.bind] at h
    split_ifs at h with hcap hempty
    rw [not_and, not_lt] at hcap
    cases store with
    | none =>
      cases h
      exact ⟨rfl, rfl, hcap, hempty, nofun⟩
    | some s =>
      dsimp only at h
      split_ifs at h with hfirst
      cases h
      exact ⟨rfl, rfl, hcap, hempty, fun s' hs' => Option.some.inj hs' ▸ not_not.mp hfirst⟩

theorem withinUserShare_ok (h : withinUserShare who current merged = .ok add) :
    add = merged ∧ ∀ home roots, who = .home home roots →
      maxProfileSearchDirsPerUser < mine who merged → mine who merged ≤ mine who current := by
  unfold withinUserShare at h
  cases who with
  | unconfined =>
    cases h
    exact ⟨rfl, nofun⟩
  | home home roots =>
    dsimp only at h
    split_ifs at h with hshare
    cases h
    rw [not_and, not_lt] at hshare
    exact ⟨rfl, fun _ _ _ => hshare⟩

/-- An accepted edit, by its parts. -/
theorem editSearchDirs_ok (h : editSearchDirs who realOf realPathOf current add remove = .ok merged) :
    ∃ added removed, validateSearchDirEdit add remove = .ok () ∧ confineAdds who realOf add = .ok added ∧
      confineRemovals who realPathOf remove = .ok removed ∧
      mergeSearchDirs current added removed current.head? = .ok merged ∧ withinUserShare who current merged = .ok merged := by
  unfold editSearchDirs at h
  cases hvalid : validateSearchDirEdit add remove with
  | error e => simp [hvalid, bind, Except.bind] at h
  | ok u =>
    cases hadd : confineAdds who realOf add with
    | error e => simp [hvalid, hadd, bind, Except.bind] at h
    | ok added =>
      cases hrem : confineRemovals who realPathOf remove with
      | error e => simp [hvalid, hadd, hrem, bind, Except.bind] at h
      | ok removed =>
        cases hmerge : mergeSearchDirs current added removed current.head? with
        | error e => simp [hvalid, hadd, hrem, hmerge, bind, Except.bind] at h
        | ok m =>
          simp only [hvalid, hadd, hrem, hmerge, bind, Except.bind] at h
          obtain ⟨rfl, -⟩ := withinUserShare_ok h
          exact ⟨added, removed, rfl, rfl, rfl, hmerge, h⟩

theorem confineAdds_mem {added : List String} (h : confineAdds who realOf add = .ok added) :
    ∀ e ∈ added, ∃ d ∈ add, confineAdd who realOf d = .ok e := by
  unfold confineAdds at h
  induction add generalizing added with
  | nil =>
    cases h
    exact nofun
  | cons d add ih =>
    rw [List.mapM_cons] at h
    cases hd : confineAdd who realOf d with
    | error e => simp [hd, bind, Except.bind] at h
    | ok e =>
      cases hrest : add.mapM (confineAdd who realOf) with
      | error e' => simp [hd, hrest, bind, Except.bind] at h
      | ok rest =>
        simp only [hd, hrest, bind, Except.bind, pure, Except.pure, Except.ok.injEq] at h
        subst h
        intro x hx
        rcases List.mem_cons.mp hx with rfl | hx
        · exact ⟨d, List.mem_cons_self, hd⟩
        · obtain ⟨d', hd', hx'⟩ := ih hrest x hx
          exact ⟨d', List.mem_cons_of_mem _ hd', hx'⟩

theorem confineAdd_home {home : String} {roots : List String} {d e : String}
    (h : confineAdd (.home home roots) realOf d = .ok e) :
    realOf d = some e ∧ (Confinement.home home roots).permits e = true := by
  unfold confineAdd at h
  cases hr : realOf d with
  | none => simp [hr] at h
  | some real =>
    simp only [hr] at h
    split_ifs at h with hp
    cases h
    exact ⟨rfl, hp⟩

/-! ## An edit -/

/-- A removal takes an entry: it is the caller's as it was sent or by its real path, and so matches it. -/
def Removes (who : Confinement) (realPathOf : String → Option String) (remove : List String) (d : String) : Prop :=
  ∃ sent ∈ remove, (who.permits sent = true ∨ ∃ real, realPathOf sent = some real ∧ who.permits real = true) ∧
    (dirKey d = dirKey sent ∨ ∃ real, realPathOf sent = some real ∧ who.permits real = true ∧ dirKey d = dirKey real)

theorem removes_iff {removed : List String} (h : confineRemovals who realPathOf remove = .ok removed) {d : String} :
    (removed.map dirKey).contains (dirKey d) = true ↔ Removes who realPathOf remove d := by
  obtain ⟨rfl, hall⟩ := confineRemovals_ok h
  rw [List.contains_iff_mem, List.mem_map]
  constructor
  · rintro ⟨s, hs, hkey⟩
    obtain ⟨sent, hsent, hs⟩ := List.mem_flatMap.mp hs
    refine ⟨sent, hsent, hall sent hsent, ?_⟩
    rcases List.mem_cons.mp hs with rfl | hs
    · exact .inl hkey.symm
    · obtain ⟨hreal, hp⟩ := Option.filter_eq_some_iff.mp (Option.mem_toList.mp hs)
      exact .inr ⟨s, hreal, hp, hkey.symm⟩
  · rintro ⟨sent, hsent, -, hkey | ⟨real, hreal, hp, hkey⟩⟩
    · exact ⟨sent, List.mem_flatMap.mpr ⟨sent, hsent, List.mem_cons_self⟩, hkey.symm⟩
    · refine ⟨real, List.mem_flatMap.mpr ⟨sent, hsent, List.mem_cons_of_mem _ ?_⟩, hkey.symm⟩
      exact Option.mem_toList.mpr (Option.filter_eq_some_iff.mpr ⟨hreal, hp⟩)

/-- An addition is one that the same edit removes. -/
def Moves (who : Confinement) (realOf realPathOf : String → Option String) (add remove : List String) : Prop :=
  ∃ sent ∈ add, ∃ e, confineAdd who realOf sent = .ok e ∧ Removes who realPathOf remove e

/-- The entries of an accepted edit: those it takes nothing of, as they were, and the new ones. -/
theorem editSearchDirs_entries (h : editSearchDirs who realOf realPathOf current add remove = .ok merged) :
    ∃ stays : String → Bool, ∃ news, merged = current.filter stays ++ news ∧
      (∀ d, stays d = false ↔ Removes who realPathOf remove d) ∧ (news.map dirKey).Nodup ∧
      (∀ e ∈ news, ∀ d ∈ current.filter stays, dirKey d ≠ dirKey e) ∧
      ∀ e ∈ news, ∃ sent ∈ add, ∃ real, confineAdd who realOf sent = .ok real ∧ e = dirKey real := by
  obtain ⟨added, removed, -, hadd, hrem, hmerge, -⟩ := editSearchDirs_ok h
  obtain ⟨-, hmerged, -⟩ := mergeSearchDirs_ok hmerge
  obtain ⟨news, hnews, hnodup, hnew, -⟩ :=
    addDirs_spec (current.filter fun d => !(removed.map dirKey).contains (dirKey d)) added
  refine ⟨_, news, hmerged.trans hnews, fun d => ?_, hnodup, fun e he => (hnew e he).2, fun e he => ?_⟩
  · rw [← removes_iff hrem, Bool.not_eq_false']
  · obtain ⟨real, hreal, rfl⟩ := (hnew e he).1
    obtain ⟨sent, hsent, hreal⟩ := confineAdds_mem hadd real hreal
    exact ⟨sent, hsent, real, hreal, rfl⟩

theorem system_dir_stays (h : editSearchDirs who realOf realPathOf current add remove = .ok merged) {d : String}
    (hd : d ∈ current) (hsys : isSystemDir d = true) : d ∈ merged := by
  obtain ⟨added, removed, -, -, -, hmerge, -⟩ := editSearchDirs_ok h
  obtain ⟨hkeep, hmerged, -⟩ := mergeSearchDirs_ok hmerge
  obtain ⟨news, hnews, -⟩ := addDirs_spec (current.filter fun d => !(removed.map dirKey).contains (dirKey d)) added
  rw [hmerged, hnews]
  refine List.mem_append_left _ (List.mem_filter.mpr ⟨hd, ?_⟩)
  rw [(keepDirs_ok hkeep).2 d hd hsys]
  rfl

/-- An entry of the caller's goes for each one that comes, so no part of the list makes up for another. -/
theorem length_le_of_share {stays : String → Bool} {news : List String} (hnews : ∀ e ∈ news, who.permits e = true)
    (hmine : mine who (current.filter stays ++ news) ≤ mine who current) :
    (current.filter stays ++ news).length ≤ current.length := by
  have hall : mine who news = news.length := List.countP_eq_length.mpr hnews
  have hsplit : mine who current = mine who (current.filter stays) + mine who (current.filter fun d => !stays d) :=
    List.countP_eq_countP_filter_add _ _ _
  have hgone : mine who (current.filter fun d => !stays d) ≤ (current.filter fun d => !stays d).length :=
    List.countP_le_length
  have hlength : current.length = (current.filter stays).length + (current.filter fun d => !stays d).length := by
    rw [← List.countP_eq_length_filter, ← List.countP_eq_length_filter]
    simpa using List.length_eq_countP_add_countP stays (l := current)
  unfold mine at *
  rw [List.countP_append] at hmine
  rw [List.length_append]
  omega

theorem mergeSearchDirs_self {dirs : List String} (hne : dirs ≠ []) (hkeep : keepDirs (remove.map dirKey) dirs = .ok dirs)
    (hadd : addDirs dirs add = dirs) : mergeSearchDirs dirs add remove dirs.head? = .ok dirs := by
  obtain ⟨d, rest, rfl⟩ := List.exists_cons_of_ne_nil hne
  unfold mergeSearchDirs
  rw [hkeep]
  dsimp only [bind, Except.bind]
  rw [hadd, if_neg (fun h => lt_irrefl _ h.2), if_neg hne]
  simp

theorem withinUserShare_self (dirs : List String) : withinUserShare who dirs dirs = .ok dirs := by
  unfold withinUserShare
  cases who with
  | unconfined => rfl
  | home home roots => exact if_neg fun h => lt_irrefl _ h.2

/-- An edit that moves nothing is done once. -/
theorem editSearchDirs_again (h : editSearchDirs who realOf realPathOf current add remove = .ok merged)
    (hmoves : ¬ Moves who realOf realPathOf add remove) :
    editSearchDirs who realOf realPathOf merged add remove = .ok merged := by
  obtain ⟨added, removed, hvalid, hadd, hrem, hmerge, -⟩ := editSearchDirs_ok h
  obtain ⟨-, hmerged, -, hne, -⟩ := mergeSearchDirs_ok hmerge
  obtain ⟨news, hnews, -, hnew, hthere⟩ :=
    addDirs_spec (current.filter fun d => !(removed.map dirKey).contains (dirKey d)) added
  have heq := hmerged.trans hnews
  have hkeep : keepDirs (removed.map dirKey) merged = .ok merged := by
    refine keepDirs_of_none fun d hd => ?_
    rcases List.mem_append.mp (heq ▸ hd) with hd | hd
    · simpa using (List.mem_filter.mp hd).2
    · obtain ⟨real, hreal, rfl⟩ := (hnew d hd).1
      obtain ⟨sent, hsent, hok⟩ := confineAdds_mem hadd real hreal
      rw [dirKey_dirKey]
      exact Bool.eq_false_iff.mpr fun hc => hmoves ⟨sent, hsent, real, hok, (removes_iff hrem).mp hc⟩
  have hagain : addDirs merged added = merged := addDirs_of_all fun d hd => by
    rw [heq]
    exact hthere d hd
  unfold editSearchDirs
  rw [hvalid, hadd, hrem]
  dsimp only [bind, Except.bind]
  rw [mergeSearchDirs_self hne hkeep hagain]
  exact withinUserShare_self merged

/-- What an accepted edit makes of the search path: the store stays first and the system directory in it, exactly what
the caller could remove goes, what comes is new and the caller's, and a list over a bound does not grow. Sent again,
an edit that does not remove what it adds changes nothing. -/
theorem search_dir_edit (who : Confinement) (realOf realPathOf : String → Option String)
    (current add remove : List String) :
    (∀ merged, editSearchDirs who realOf realPathOf current add remove = .ok merged →
      (∀ store, current.head? = some store → merged.head? = some store) ∧
      (∀ d ∈ current, isSystemDir d = true → d ∈ merged) ∧
      (∃ stays : String → Bool, ∃ news, merged = current.filter stays ++ news ∧
        (∀ d, stays d = false ↔ Removes who realPathOf remove d) ∧ (news.map dirKey).Nodup ∧
        (∀ e ∈ news, ∀ d ∈ current.filter stays, dirKey d ≠ dirKey e) ∧
        ∀ home roots, who = .home home roots → ∀ e ∈ news, who.permits e = true ∧
          ∃ sent ∈ add, ∃ real, realOf sent = some real ∧ who.permits real = true ∧ e = dirKey real) ∧
      (maxProfileSearchDirs < current.length → merged.length ≤ current.length) ∧
      (∀ home roots, who = .home home roots → maxProfileSearchDirsPerUser < mine who current →
        mine who merged ≤ mine who current ∧ merged.length ≤ current.length) ∧
      (¬ Moves who realOf realPathOf add remove →
        editSearchDirs who realOf realPathOf merged add remove = .ok merged)) ∧
    ∀ e, editSearchDirs who realOf realPathOf current add remove = .error e →
      searchDirsAfter who realOf realPathOf current add remove = current := by
  refine ⟨fun merged h => ?_, fun e h => by rw [searchDirsAfter, h]⟩
  obtain ⟨added, removed, -, -, -, hmerge, hshare⟩ := editSearchDirs_ok h
  obtain ⟨-, -, hcap, -, hfirst⟩ := mergeSearchDirs_ok hmerge
  obtain ⟨stays, news, rfl, hstays, hnodup, hnew, hfrom⟩ := editSearchDirs_entries h
  have hmine : ∀ home roots, who = .home home roots → ∀ e ∈ news, who.permits e = true ∧
      ∃ sent ∈ add, ∃ real, realOf sent = some real ∧ who.permits real = true ∧ e = dirKey real := by
    rintro home roots rfl e he
    obtain ⟨sent, hsent, real, hok, rfl⟩ := hfrom e he
    obtain ⟨hreal, hp⟩ := confineAdd_home hok
    exact ⟨(permits_dirKey _ _).trans hp, sent, hsent, real, hreal, hp, rfl⟩
  refine ⟨hfirst, fun d => system_dir_stays h, ⟨stays, news, rfl, hstays, hnodup, hnew, hmine⟩, fun hover => ?_,
    fun home roots hwho hover => ?_, editSearchDirs_again h⟩
  · by_cases hstill : maxProfileSearchDirs < (current.filter stays ++ news).length
    · exact hcap hstill
    · omega
  · have hle : mine who (current.filter stays ++ news) ≤ mine who current := by
      by_cases hstill : maxProfileSearchDirsPerUser < mine who (current.filter stays ++ news)
      · exact (withinUserShare_ok hshare).2 home roots hwho hstill
      · omega
    exact ⟨hle, length_le_of_share (fun e he => (hmine home roots hwho e he).1) hle⟩

/-- A directory both added and removed ends up last each time. -/
theorem edit_that_moves :
    editSearchDirs .unconfined (fun _ => none) (fun _ => none) ["/store"] ["/x", "/y"] ["/x"] = .ok ["/store", "/x", "/y"] ∧
      editSearchDirs .unconfined (fun _ => none) (fun _ => none) ["/store", "/x", "/y"] ["/x", "/y"] ["/x"] =
        .ok ["/store", "/y", "/x"] := by
  decide

end ControlOfc.ProfileStore.EditDirs
