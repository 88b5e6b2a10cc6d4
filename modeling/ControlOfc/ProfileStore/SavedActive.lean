import ControlOfc.ProfileStore.StoreLock
import Mathlib.Algebra.Order.BigOperators.Group.List
import Mathlib.Algebra.Order.Ring.Nat
import Mathlib.Data.List.Induction
/-! # The saved active profile is the running one, and has a file behind it

Every swap is followed by its save in one critical section, a stored profile is swapped in only while its file is
there, and a delete refuses the active id. The store's limits and the refusal of a second create hold as far as
its directory could be read.
-/
namespace ControlOfc.ProfileStore
open Prog

/-! ## Files -/

namespace Files

variable {files : Files} {name name' : FileName} {document : Document}

theorem has_iff : files.has name = true ↔ ∃ d, (name, d) ∈ files := by
  simp [has]

@[simp] theorem has_put : (files.put name document).has name' = (decide (name = name') || files.has name') := by
  by_cases h : name = name'
  · simp [has, put, h]
  · simp only [has, put, drop, List.any_cons, h, decide_false, Bool.false_or]
    rw [Bool.eq_iff_iff]
    simp only [List.any_filter, List.any_eq_true]
    constructor
    · rintro ⟨f, hf, hn⟩
      simp only [Bool.and_eq_true] at hn
      exact ⟨f, hf, hn.2⟩
    · rintro ⟨f, hf, hn⟩
      refine ⟨f, hf, ?_⟩
      have hname : f.1 = name' := of_decide_eq_true hn
      simp [hname, Ne.symm h]

@[simp] theorem has_drop : (files.drop name).has name' = (decide (name ≠ name') && files.has name') := by
  rw [Bool.eq_iff_iff]
  simp only [has, drop, List.any_filter, List.any_eq_true, Bool.and_eq_true, decide_eq_true_eq]
  constructor
  · rintro ⟨f, hf, hne, rfl⟩
    exact ⟨fun h => hne h.symm, f, hf, rfl⟩
  · rintro ⟨hne, f, hf, rfl⟩
    exact ⟨f, hf, fun h => hne h.symm, rfl⟩

theorem mem_drop {f : FileName × Document} (h : f ∈ files.drop name) : f ∈ files := (List.mem_filter.mp h).1

theorem mem_put {f : FileName × Document} (h : f ∈ files.put name document) : f = (name, document) ∨ f ∈ files :=
  (List.mem_cons.mp h).imp_right mem_drop

theorem drop_profiles (files : Files) (name : FileName) : (files.drop name).profiles = files.profiles.drop name :=
  List.filter_comm _ _ _

@[simp] theorem drop_scratch_profiles (files : Files) (id : String) (n : Nat) :
    (files.drop (.scratch id n)).profiles = files.profiles := by
  rw [drop_profiles]
  refine List.filter_eq_self.mpr fun f hf => ?_
  have hp := (List.mem_filter.mp hf).2
  cases hn : f.1 with
  | profile i => simp
  | scratch i k => simp [hn] at hp

@[simp] theorem put_scratch_profiles (files : Files) (id : String) (n : Nat) (document : Document) :
    (files.put (.scratch id n) document).profiles = files.profiles := by
  rw [← drop_scratch_profiles files id n]
  simp [put, profiles]

theorem put_profile_profiles (files : Files) (id : String) (document : Document) :
    (files.put (.profile id) document).profiles = (.profile id, document) :: files.profiles.drop (.profile id) := by
  rw [← drop_profiles]
  simp [put, profiles]

theorem length_drop_le (files : Files) (name : FileName) : (files.drop name).length ≤ files.length :=
  List.length_filter_le _ _

theorem length_drop_lt (h : files.has name = true) : (files.drop name).length < files.length := by
  obtain ⟨d, hd⟩ := has_iff.mp h
  refine Nat.lt_of_le_of_ne (length_drop_le _ _) fun heq => ?_
  have hall := List.filter_eq_self.mp (List.filter_sublist.eq_of_length heq)
  simpa using hall _ hd

theorem has_profiles (id : String) : files.profiles.has (.profile id) = files.has (.profile id) := by
  rw [Bool.eq_iff_iff, has_iff, has_iff]
  simp [profiles]

theorem bytes_drop_le (files : Files) (name : FileName) : (files.drop name).bytes ≤ files.bytes :=
  (List.filter_sublist.map _).sum_le_sum fun _ _ => Nat.zero_le _

end Files

@[simp] theorem storeUsage_whole (files : Files) (id : String) :
    storeUsage files id [] [] = (files.profiles.length, (files.profiles.drop (.profile id)).bytes) := by
  simp [storeUsage]

/-! ## Creates and deletes -/

/-- Whether `id` was created and not deleted since. -/
def live (history : List Done) (id : String) : Bool :=
  history.foldl (fun live d =>
    match d with
    | .created i => live || decide (i = id)
    | .replaced _ => live
    | .deleted i => live && decide (i ≠ id)) false

theorem live_append (history : List Done) (d : Done) (id : String) :
    live (history ++ [d]) id =
      match d with
      | .created i => live history id || decide (i = id)
      | .replaced _ => live history id
      | .deleted i => live history id && decide (i ≠ id) := by
  unfold live
  rw [List.foldl_append]
  rfl

theorem live_of_created {history : List Done} {id : String} (later : List Done) (h : .deleted id ∉ later) :
    live (history ++ .created id :: later) id = true := by
  induction later using List.reverseRecOn with
  | nil => simp [live_append]
  | append_singleton later d ih =>
    have hd : .deleted id ≠ d := fun heq => h (List.mem_append_right _ (List.mem_singleton.mpr heq))
    have hlive := ih fun hmem => h (List.mem_append_left _ hmem)
    rw [← List.cons_append, ← List.append_assoc, live_append]
    cases d with
    | created i => simp [hlive]
    | replaced i => exact hlive
    | deleted i =>
      have hne : i ≠ id := fun heq => hd (by rw [heq])
      simp [hlive, hne]

/-- No create of an id succeeded while an earlier one's file stood. -/
def CreatedOnce (history : List Done) : Prop :=
  ∀ before id later, history = before ++ .created id :: later → live before id = false

theorem CreatedOnce.append {history : List Done} (h : CreatedOnce history) {d : Done}
    (hd : ∀ id, d = .created id → live history id = false) : CreatedOnce (history ++ [d]) := by
  intro before id later heq
  cases later using List.reverseRecOn with
  | nil =>
    obtain ⟨rfl, hlast⟩ := List.append_inj' heq rfl
    exact hd id (List.singleton_inj.mp hlast)
  | append_singleton later e =>
    rw [← List.cons_append, ← List.append_assoc] at heq
    exact h before id later (List.append_inj' heq rfl).1

/-! ## The invariant -/

structure Inv (boot : Boot) (w : World) : Prop where
  named : ∀ f ∈ w.files, ∀ id, f.1 = .profile id → f.2.id = id
  fresh : ∀ f ∈ w.files, ∀ id n, f.1 = .scratch id n → n < w.scratches
  found : ∀ found ∈ w.pending, ∀ id, found.place = .store (.profile id) → found.document.id = id
  kept : ∀ name, w.activeFrom = some (.store name) → w.files.has name = true
  activeId : ∀ id, w.activeFrom = some (.store (.profile id)) → w.active.map (·.id) = some id
  live : ∀ id, live w.history id = true → w.files.has (.profile id) = true
  once : w.misread = false → CreatedOnce w.history
  count : w.misread = false → w.files.profiles.length ≤ max maxStoredProfiles boot.files.profiles.length
  bytes : w.misread = false → w.files.profiles.bytes ≤ max maxStoreBytes boot.files.profiles.bytes

/-- The saved state names the profile in memory once the latest swap's save succeeded. -/
def Consistent (w : World) : Prop := w.swapSaved = true → w.saved = w.naming

/-- What requests do without the lock leaves all but the reads as it is. -/
def SameStore (w w' : World) : Prop := ∃ reads, w' = { w with pending := reads }

/-- A scratch file that is still the writer's own: no active profile was read from it. -/
def Private (w : World) (id : String) (n : Nat) : Prop := w.activeFrom ≠ some (.store (.scratch id n))

/-- The checks of `store` on a write of `id`, as far as the directory could be read. -/
structure MayStore (files : Files) (id : String) (document : Document) (overwrite : Bool) : Prop where
  absent : overwrite = false → files.has (.profile id) = false
  room : files.has (.profile id) = false → files.profiles.length < maxStoredProfiles
  fits : (files.profiles.drop (.profile id)).bytes + document.length ≤ maxStoreBytes

/-- What a task may ask for, and when. -/
def Allowed (_ : Task) (e : Effect) (w : World) : Prop :=
  match e with
  | .swap (some found) => ∀ name, found.place = .store name →
      w.files.has name = true ∧ ∀ id, name = .profile id → found.document.id = id
  | .rename id n document overwrite =>
    document.id = id ∧ Private w id n ∧ (w.misread = false → MayStore w.files id document overwrite)
  | .removeFile id => w.active.map (·.id) ≠ some id
  | _ => True

section Effects

variable {boot : Boot} {w : World}

theorem Inv.writeScratch (h : Inv boot w) (id : String) (document : Document) :
    Inv boot { w with scratches := w.scratches + 1, files := w.files.put (.scratch id w.scratches) document } where
  named := by
    intro f hf i hi
    rcases Files.mem_put hf with rfl | hf
    · cases hi
    · exact h.named f hf i hi
  fresh := by
    intro f hf i n hi
    rcases Files.mem_put hf with rfl | hf
    · obtain ⟨-, rfl⟩ := FileName.scratch.inj hi
      exact Nat.lt_succ_self _
    · exact Nat.lt_succ_of_lt (h.fresh f hf i n hi)
  found := h.found
  kept name hfrom := by simp [h.kept name hfrom]
  activeId := h.activeId
  live i hlive := by simp [h.live i hlive]
  once := h.once
  count hread := by simpa using h.count hread
  bytes hread := by simpa using h.bytes hread

theorem Inv.dropScratch (h : Inv boot w) {id : String} {n : Nat} (hprivate : Private w id n) :
    Inv boot { w with files := w.files.drop (.scratch id n) } where
  named f hf := h.named f (Files.mem_drop hf)
  fresh f hf := h.fresh f (Files.mem_drop hf)
  found := h.found
  kept name hfrom := by
    have hne : .scratch id n ≠ name := by
      rintro rfl
      exact hprivate hfrom
    simp [hne, h.kept name hfrom]
  activeId := h.activeId
  live i hlive := by simp [h.live i hlive]
  once := h.once
  count hread := by simpa using h.count hread
  bytes hread := by simpa using h.bytes hread

/-- A profile's file put in place. -/
theorem Inv.stored (h : Inv boot w) {id : String} {document : Document} {overwrite : Bool} (hid : document.id = id)
    (hmay : w.misread = false → MayStore w.files id document overwrite) :
    Inv boot { w with
      files := w.files.put (.profile id) document
      history := w.history ++ [if overwrite then .replaced id else .created id] } where
  named := by
    intro f hf i hi
    rcases Files.mem_put hf with rfl | hf
    · exact hid.trans (FileName.profile.inj hi)
    · exact h.named f hf i hi
  fresh := by
    intro f hf i n hi
    rcases Files.mem_put hf with rfl | hf
    · cases hi
    · exact h.fresh f hf i n hi
  found := h.found
  kept name hfrom := by simp [h.kept name hfrom]
  activeId := h.activeId
  live := by
    intro i hlive
    rw [live_append] at hlive
    cases overwrite with
    | true => simp [h.live i hlive]
    | false =>
      rcases Bool.or_eq_true _ _ |>.mp hlive with hlive | hlive
      · simp [h.live i hlive]
      · simp [of_decide_eq_true hlive]
  once := by
    intro hread
    refine (h.once hread).append fun i hi => ?_
    cases overwrite with
    | true => cases hi
    | false =>
      obtain rfl := Done.created.inj hi
      have habsent := (hmay hread).absent rfl
      by_contra hlive
      rw [h.live id (by simpa using hlive)] at habsent
      cases habsent
  count := by
    intro hread
    have hold := h.count hread
    rw [Files.put_profile_profiles, List.length_cons]
    by_cases hhas : w.files.has (.profile id) = true
    · have hless := Files.length_drop_lt ((Files.has_profiles id).trans hhas)
      omega
    · have hroom := (hmay hread).room (by simpa using hhas)
      have hle := Files.length_drop_le w.files.profiles (.profile id)
      omega
  bytes := by
    intro hread
    have hfits := (hmay hread).fits
    rw [Files.put_profile_profiles]
    simp only [Files.bytes, List.map_cons, List.sum_cons] at hfits ⊢
    omega

theorem Inv.removeFile (h : Inv boot w) {id : String} (hinactive : w.active.map (·.id) ≠ some id) :
    Inv boot { w with files := w.files.drop (.profile id), history := w.history ++ [.deleted id] } where
  named f hf := h.named f (Files.mem_drop hf)
  fresh f hf := h.fresh f (Files.mem_drop hf)
  found := h.found
  kept name hfrom := by
    have hne : .profile id ≠ name := by
      rintro rfl
      exact hinactive (h.activeId id hfrom)
    simp [hne, h.kept name hfrom]
  activeId := h.activeId
  live i hlive := by
    rw [live_append] at hlive
    obtain ⟨hlive, hne⟩ := Bool.and_eq_true _ _ |>.mp hlive
    have hne' : id ≠ i := of_decide_eq_true hne
    simp [hne', h.live i hlive]
  once hread := (h.once hread).append nofun
  count hread := by
    rw [Files.drop_profiles]
    exact (Files.length_drop_le _ _).trans (h.count hread)
  bytes hread := by
    rw [Files.drop_profiles]
    exact (Files.bytes_drop_le _ _).trans (h.bytes hread)

end Effects

theorem Inv.misread {boot : Boot} {w : World} (h : Inv boot w) : Inv boot { w with misread := true } :=
  ⟨h.named, h.fresh, h.found, h.kept, h.activeId, h.live, nofun, nofun, nofun⟩

theorem Inv.exec {boot : Boot} {w : World} (h : Inv boot w) {j : Task} {e : Effect} (ha : Allowed j e w) (c : Chance) :
    Inv boot (w.exec e c).2 := by
  cases e with
  | stillThere name => exact h
  | swap found =>
    cases found with
    | none => exact ⟨h.named, h.fresh, h.found, nofun, nofun, h.live, h.once, h.count, h.bytes⟩
    | some found =>
      refine ⟨h.named, h.fresh, h.found, ?_, ?_, h.live, h.once, h.count, h.bytes⟩
      · exact fun name hfrom => (ha name (Option.some.inj hfrom)).1
      · exact fun id hfrom => congrArg some ((ha _ (Option.some.inj hfrom)).2 id rfl)
  | saveState state =>
    cases c with
    | fine => exact ⟨h.named, h.fresh, h.found, h.kept, h.activeId, h.live, h.once, h.count, h.bytes⟩
    | _ => exact h
  | existsInStore id =>
    cases c with
    | fine => exact h
    | _ => exact h.misread
  | storeUsage id =>
    cases c with
    | fine => exact h
    | _ => exact h.misread
  | writeScratch id document =>
    have hwritten := h.writeScratch id document
    have hnot : Inv boot { w with scratches := w.scratches + 1 } :=
      ⟨h.named, fun f hf i n hi => Nat.lt_succ_of_lt (h.fresh f hf i n hi), h.found, h.kept, h.activeId, h.live, h.once,
        h.count, h.bytes⟩
    cases c with
    | fine => exact hwritten
    | fails left =>
      cases left with
      | true => exact hwritten
      | false => exact hnot
    | misses unlisted unsized => exact hnot
  | rename id n document overwrite =>
    obtain ⟨hid, hprivate, hmay⟩ := ha
    have hdropped := h.dropScratch hprivate
    cases c with
    | fine =>
      refine hdropped.stored (w := { w with files := w.files.drop (.scratch id n) }) hid fun hread => ?_
      obtain ⟨habsent, hroom, hfits⟩ := hmay hread
      exact ⟨by simpa using habsent, by simpa using hroom, by simpa using hfits⟩
    | fails left =>
      cases left with
      | true => exact h
      | false => exact hdropped
    | misses unlisted unsized => exact hdropped
  | isActive id => exact h
  | removeFile id =>
    cases c with
    | fine =>
      unfold World.exec
      dsimp only
      split
      · exact h.removeFile ha
      · exact h
    | _ => exact h

theorem Inv.beside {boot : Boot} {w : World} (h : Inv boot w) (m : Beside) : Inv boot (w.beside m) := by
  cases m with
  | read found =>
    unfold World.beside
    dsimp only
    split
    · next hfinds =>
      refine ⟨h.named, h.fresh, ?_, h.kept, h.activeId, h.live, h.once, h.count, h.bytes⟩
      refine List.forall_mem_cons.mpr ⟨fun id hplace => ?_, h.found⟩
      unfold World.finds at hfinds
      rw [hplace] at hfinds
      exact h.named _ (of_decide_eq_true hfinds) id rfl
    · exact h
  | dropped found =>
    exact ⟨h.named, h.fresh, fun f hf => h.found f (List.mem_of_mem_erase hf), h.kept, h.activeId, h.live, h.once, h.count,
      h.bytes⟩

theorem sameStore_beside (w : World) (m : Beside) : SameStore w (w.beside m) := by
  cases m with
  | read found =>
    unfold World.beside
    dsimp only
    split
    · exact ⟨_, rfl⟩
    · exact ⟨w.pending, rfl⟩
  | dropped found => exact ⟨_, rfl⟩

/-! ## The critical sections -/

section Calls

variable {j : Task}

/-- An effect whose end does not look at the reads. -/
theorem perform_spec {e : Effect} {P : World → Prop} {Q : Answer e → World → Prop} (hA : ∀ w, P w → Allowed j e w)
    (hQ : ∀ c w, P w → Q (w.exec e c).1 (w.exec e c).2) (hkeep : ∀ r w reads, Q r w → Q r { w with pending := reads }) :
    Triple World.exec SameStore (Allowed j) P (perform e) Q := by
  refine .ask hA hQ ?_
  rintro r w _ ⟨reads, rfl⟩ hw
  exact hkeep r w reads hw

/-- A swap, then the save of what it left. -/
theorem swap_spec (found : Option Found) (outcome : Outcome) :
    Triple World.exec SameStore (Allowed j) (Allowed j (.swap found))
      (do
        perform (.swap found)
        let _ ← perform (.saveState ⟨1, found.map (·.document.id), found.map (·.place)⟩)
        return outcome)
      fun (_ : Outcome) w => Consistent w := by
  refine .bind (Q := fun _ w => w.swapSaved = false ∧ w.naming = ⟨1, found.map (·.document.id), found.map (·.place)⟩) ?_ fun _ =>
    .bind (Q := fun _ w => Consistent w) ?_ fun _ => .pure fun _ hw => hw
  · refine perform_spec (fun _ hw => hw) (fun c w _ => ⟨rfl, ?_⟩) fun _ _ _ hw => hw
    cases found <;> rfl
  · refine perform_spec (fun _ _ => trivial) (fun c w hw => ?_) fun _ _ _ hw => hw
    intro hsaved
    cases c with
    | fine => exact hw.2.symm
    | _ =>
      rw [show w.swapSaved = true from hsaved] at hw
      cases hw.1

theorem activate_spec (found : Found) :
    Triple World.exec SameStore (Allowed j) (fun w => Consistent w ∧ ∀ id, found.place = .store (.profile id) → found.document.id = id)
      (activate found) fun (_ : Outcome) w => Consistent w := by
  unfold activate
  split
  · next name hplace =>
    refine .bind (Q := fun there w => Consistent w ∧ (there = true → Allowed j (.swap (some found)) w)) ?_ fun there => ?_
    · refine perform_spec (fun _ _ => trivial) (fun c w hw => ⟨hw.1, fun hthere name' hname' => ?_⟩) fun _ _ _ hw => hw
      rw [hplace] at hname'
      obtain rfl := Place.store.inj hname'
      refine ⟨(Bool.and_eq_true _ _ |>.mp hthere).1, fun id hid => hw.2 id ?_⟩
      rw [hplace, hid]
    · cases there with
      | false => exact .pure fun _ hw => hw.1
      | true => exact (swap_spec (some found) .activated).conseq (fun _ hw => hw.2 rfl) fun _ _ hw => hw
  · next path hplace =>
    refine (swap_spec (some found) .activated).conseq (fun w _ name hname => ?_) fun _ _ hw => hw
    rw [hplace] at hname
    cases hname

theorem delete_spec (id : String) :
    Triple World.exec SameStore (Allowed j) Consistent (delete id) fun (_ : Outcome) w => Consistent w := by
  refine .bind (Q := fun active w => Consistent w ∧ (active = false → Allowed j (.removeFile id) w)) ?_ fun active => ?_
  · exact perform_spec (fun _ _ => trivial) (fun c w hw => ⟨hw, of_decide_eq_false⟩) fun _ _ _ hw => hw
  · cases active with
    | true => exact .pure fun _ hw => hw.1
    | false =>
      refine .bind (Q := fun _ w => Consistent w) (perform_spec (fun _ hw => hw.2 rfl) (fun c w hw => ?_) fun _ _ _ hw => hw)
        fun answer => ?_
      · cases c with
        | fine =>
          unfold World.exec
          dsimp only
          split <;> exact hw.1
        | _ => exact hw.1
      · cases answer <;> exact .pure fun _ hw => hw

/-- No active profile was read from a scratch file yet to be named. -/
def Fresh (w : World) : Prop :=
  Consistent w ∧ ∀ id n, w.activeFrom = some (.store (.scratch id n)) → n < w.scratches

theorem saveRaw_spec (id : String) (document : Document) (overwrite : Bool) (hid : document.id = id) :
    Triple World.exec SameStore (Allowed j) (fun w => Fresh w ∧ (w.misread = false → MayStore w.files id document overwrite))
      (saveRaw id document overwrite) fun (_ : Outcome) w => Consistent w := by
  refine .bind (Q := fun written w => Consistent w ∧ ∀ n, written = some n → Allowed j (.rename id n document overwrite) w) ?_
    fun written => ?_
  · refine perform_spec (fun _ _ => trivial) (fun c w hw => ?_) fun _ _ _ hw => hw
    obtain ⟨⟨hconsistent, hfresh⟩, hmay⟩ := hw
    cases c with
    | fine =>
      refine ⟨hconsistent, fun n hn => ⟨hid, ?_, fun hread => ?_⟩⟩
      · obtain rfl := Option.some.inj hn
        exact fun hfrom => lt_irrefl _ (hfresh id w.scratches hfrom)
      · obtain ⟨habsent, hroom, hfits⟩ := hmay hread
        exact ⟨by simpa [World.exec] using habsent, by simpa [World.exec] using hroom, by simpa [World.exec] using hfits⟩
    | fails left =>
      cases left with
      | true => exact ⟨hconsistent, nofun⟩
      | false => exact ⟨hconsistent, nofun⟩
    | misses unlisted unsized => exact ⟨hconsistent, nofun⟩
  · cases written with
    | none => exact .pure fun _ hw => hw.1
    | some n =>
      refine .bind (Q := fun _ w => Consistent w) (perform_spec (fun _ hw => hw.2 n rfl) (fun c w hw => ?_) fun _ _ _ hw => hw)
        fun renamed => ?_
      · cases c with
        | fine => exact hw.1
        | fails left => cases left <;> exact hw.1
        | misses unlisted unsized => exact hw.1
      · cases renamed <;> exact .pure fun _ hw => hw

theorem store_spec (id : String) (document : Document) (overwrite : Bool) (hid : document.id = id) :
    Triple World.exec SameStore (Allowed j) Fresh (store id document overwrite) fun (_ : Outcome) w => Consistent w := by
  refine .bind (Q := fun present w => Fresh w ∧ (w.misread = false → present = w.files.has (.profile id))) ?_ fun present => ?_
  · refine perform_spec (fun _ _ => trivial) (fun c w hw => ?_) fun _ _ _ hw => hw
    cases c with
    | fine => exact ⟨hw, fun _ => rfl⟩
    | _ => exact ⟨hw, nofun⟩
  · split
    · exact .pure fun _ hw => hw.1.1
    · next hproceed =>
      refine .bind (Q := fun usage w => Fresh w ∧ (w.misread = false → present = w.files.has (.profile id) ∧
        usage = (w.files.profiles.length, (w.files.profiles.drop (.profile id)).bytes))) ?_ fun usage => ?_
      · refine perform_spec (fun _ _ => trivial) (fun c w hw => ?_) fun _ _ _ hw => hw
        cases c with
        | fine => exact ⟨hw.1, fun hread => ⟨hw.2 hread, storeUsage_whole _ _⟩⟩
        | _ => exact ⟨hw.1, nofun⟩
      · split
        · exact .pure fun _ hw => hw.1.1
        · next hroom =>
          split
          · exact .pure fun _ hw => hw.1.1
          · next hfits =>
            refine (saveRaw_spec id document overwrite hid).conseq (fun w hw => ⟨hw.1, fun hread => ?_⟩) fun _ _ hw => hw
            obtain ⟨rfl, rfl⟩ := hw.2 hread
            refine ⟨fun hover => ?_, fun habsent => ?_, Nat.le_of_not_lt hfits⟩
            · simpa [hover] using hproceed
            · simpa [habsent] using hroom

end Calls

/-! ## Runs -/

theorem rules_sound (boot : Boot) :
    Locked.Sound rules SameStore (Inv boot) Consistent Allowed (fun _ (_ : Outcome) w => Consistent w) where
  refl w := ⟨w.pending, rfl⟩
  trans := by
    rintro u _ _ ⟨reads, rfl⟩ ⟨reads', rfl⟩
    exact ⟨reads', rfl⟩
  start := by
    intro j w p w' hstart hI hK
    cases j with
    | activate found =>
      have hstart' : (if found ∈ w.pending then some (activate found, { w with pending := w.pending.erase found }) else none) =
        some (p, w') := hstart
      split at hstart'
      · next hmem =>
        obtain ⟨rfl, rfl⟩ := Prod.mk.inj (Option.some.inj hstart')
        refine ⟨⟨hI.named, hI.fresh, fun f hf => hI.found f (List.mem_of_mem_erase hf), hI.kept, hI.activeId, hI.live, hI.once,
          hI.count, hI.bytes⟩, ?_⟩
        rintro _ ⟨reads, rfl⟩
        exact activate_spec found _ ⟨hK, hI.found found hmem⟩
      · cases hstart'
    | deactivate =>
      obtain ⟨rfl, rfl⟩ := Prod.mk.inj (Option.some.inj hstart)
      exact ⟨hI, fun v _ => swap_spec none .deactivated v trivial⟩
    | store id document overwrite =>
      have hstart' : (if document.id = id ∧ document.length ≤ maxConfigBytes then some (store id document overwrite, w) else none) =
        some (p, w') := hstart
      split at hstart'
      · next hid =>
        obtain ⟨rfl, rfl⟩ := Prod.mk.inj (Option.some.inj hstart')
        refine ⟨hI, ?_⟩
        rintro _ ⟨reads, rfl⟩
        refine store_spec id document overwrite hid.1 _ ⟨hK, fun id' n hfrom => ?_⟩
        obtain ⟨d, hd⟩ := Files.has_iff.mp (hI.kept _ hfrom)
        exact hI.fresh _ hd id' n rfl
      · cases hstart'
    | delete id =>
      obtain ⟨rfl, rfl⟩ := Prod.mk.inj (Option.some.inj hstart)
      refine ⟨hI, ?_⟩
      rintro _ ⟨reads, rfl⟩
      exact delete_spec id _ hK
  exec _ _ c _ hI hA := hI.exec hA c
  finish _ _ _ hI hQ := ⟨hI, hQ⟩
  move m w hI := ⟨sameStore_beside w m, hI.beside m⟩
  moveIdle m w hK := by
    obtain ⟨reads, hreads⟩ := sameStore_beside w m
    rw [show rules.move m w = w.beside m from rfl, hreads]
    exact hK

theorem boot_inv (boot : Boot) :
    Locked.Inv rules SameStore (Inv boot) Consistent Allowed (fun _ (_ : Outcome) w => Consistent w) boot.start where
  world :=
    { named := by
        intro f hf id hid
        exact FileName.profile.inj ((boot.named f hf).symm.trans hid)
      fresh := by
        intro f hf id n hname
        rw [boot.named f hf] at hname
        cases hname
      found := nofun
      kept := fun name hfrom => (boot.resumed name hfrom).1
      activeId := by
        intro id hfrom
        obtain ⟨document, hactive, hid⟩ := Option.map_eq_some_iff.mp (boot.resumed _ hfrom).2
        obtain rfl := FileName.profile.inj hid
        exact Option.map_eq_some_iff.mpr ⟨document, hactive, rfl⟩
      live := nofun
      once := by
        intro _ before id later heq
        cases List.append_eq_nil_iff.mp heq.symm |>.2
      count := fun _ => le_max_right _ _
      bytes := fun _ => le_max_right _ _ }
  idle _ := nofun
  task := nofun

/-- What holds of the saved profile and of the store in a state. -/
structure StoreHeld (boot : Boot) (s : System) : Prop where
  saved : s.running = none → s.world.swapSaved = true → s.world.saved = s.world.naming
  kept : ∀ name, s.world.activeFrom = some (.store name) → s.world.files.has name = true
  once : s.world.misread = false → ∀ before id between later,
    s.world.history = before ++ .created id :: (between ++ .created id :: later) → .deleted id ∈ between
  count : s.world.misread = false → s.world.files.profiles.length ≤ max maxStoredProfiles boot.files.profiles.length
  bytes : s.world.misread = false → s.world.files.profiles.bytes ≤ max maxStoreBytes boot.files.profiles.bytes

/-- Whatever the order of the requests, the reads and the drops, and whatever fails. -/
theorem store_held (boot : Boot) (es : List Event) : StoreHeld boot (Machine.run step boot.start es) := by
  have hstep : ∀ s e, Locked.Inv rules SameStore (Inv boot) Consistent Allowed (fun _ (_ : Outcome) w => Consistent w) s →
      Locked.Inv rules SameStore (Inv boot) Consistent Allowed (fun _ (_ : Outcome) w => Consistent w) (step s e) := by
    intro s e hs
    refine hs.step (rules_sound boot) e.move ?_
    cases e <;> nofun
  have hinv := Machine.run_inv hstep _ es (boot_inv boot)
  refine ⟨hinv.idle, hinv.world.kept, ?_, hinv.world.count, hinv.world.bytes⟩
  intro hread before id between later heq
  by_contra hnot
  rw [← List.cons_append, ← List.append_assoc] at heq
  have hlive := hinv.world.once hread _ id later heq
  rw [live_of_created between hnot] at hlive
  cases hlive

def emptyStore : Boot where
  files := []
  named := nofun
  active := none
  activeFrom := none
  resumed := nofun
  saved := ⟨1, none, none⟩

/-- A profile deleted in between may be created again. -/
theorem created_twice : ¬ ∀ (boot : Boot) (es : List Event) (before : List Done) (id : String) (between later : List Done),
    (Machine.run step boot.start es).world.history ≠ before ++ .created id :: (between ++ .created id :: later) := by
  intro hclaim
  exact hclaim emptyStore
    [.start (.store "quiet" ⟨"quiet", 100⟩ false), .eff .fine, .eff .fine, .eff .fine, .eff .fine, .finish,
      .start (.delete "quiet"), .eff .fine, .eff .fine, .finish,
      .start (.store "quiet" ⟨"quiet", 100⟩ false), .eff .fine, .eff .fine, .eff .fine, .eff .fine, .finish]
    [] "quiet" [.deleted "quiet"] [] rfl

end ControlOfc.ProfileStore
