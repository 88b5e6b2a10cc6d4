import ControlOfc.Hwmon.MemoryId
import Mathlib.Data.List.Nodup
/-! # Where a saved memory-module id leads

`resolve` scans both lists once, keeping the last new twin of the live one and counting the twins of both, each id
once. What comes out depends on the two lists as sets alone, and leads back to the saved id.
-/
namespace ControlOfc.Hwmon.MemoryId

/-- The same module by chip, SPD address and label, in either form. -/
def Twin (saved id : String) : Prop :=
  ∃ w p, parse saved.toList = some w ∧ parse id.toList = some p ∧
    p.chip = w.chip ∧ p.address = w.address ∧ p.label = w.label

/-- One is bus-numbered and the other is not. -/
def OtherForm (saved id : String) : Prop :=
  ∃ w p, parse saved.toList = some w ∧ parse id.toList = some p ∧ p.legacy = !w.legacy

section Pairs

variable {saved id : String}

theorem Twin.symm (h : Twin saved id) : Twin id saved := by
  obtain ⟨w, p, hw, hp, hchip, haddress, hlabel⟩ := h
  exact ⟨p, w, hp, hw, hchip.symm, haddress.symm, hlabel.symm⟩

theorem Twin.trans {other : String} (h : Twin saved id) (h' : Twin id other) : Twin saved other := by
  obtain ⟨w, p, hw, hp, hchip, haddress, hlabel⟩ := h
  obtain ⟨p', q, hp', hq, hchip', haddress', hlabel'⟩ := h'
  obtain rfl := Option.some.inj (hp.symm.trans hp')
  exact ⟨w, q, hw, hq, hchip'.trans hchip, haddress'.trans haddress, hlabel'.trans hlabel⟩

theorem OtherForm.symm (h : OtherForm saved id) : OtherForm id saved := by
  obtain ⟨w, p, hw, hp, hlegacy⟩ := h
  exact ⟨p, w, hp, hw, by rw [hlegacy, Bool.not_not]⟩

theorem OtherForm.ne (h : OtherForm saved id) : id ≠ saved := by
  rintro rfl
  obtain ⟨w, p, hw, hp, hlegacy⟩ := h
  obtain rfl := Option.some.inj (hw.symm.trans hp)
  cases hw : w.legacy <;> rw [hw] at hlegacy <;> cases hlegacy

theorem twinOf_isSome : (twinOf (parse saved.toList) id).isSome ↔ Twin saved id := by
  unfold twinOf Twin
  cases parse saved.toList <;> cases parse id.toList <;> simp

theorem twinOf_eq_true : twinOf (parse saved.toList) id = some true ↔ Twin saved id ∧ OtherForm saved id := by
  unfold twinOf Twin OtherForm
  cases parse saved.toList with
  | none => simp
  | some w =>
    cases parse id.toList with
    | none => simp
    | some p =>
      have hform : (p.legacy != w.legacy) = true ↔ p.legacy = !w.legacy := by cases p.legacy <;> cases w.legacy <;> simp
      simp [hform]

end Pairs

/-! ## The scan -/

variable {wanted : Option MemorySensorId} {saved : String} {ids : List String} {f : Found}

/-- Each of `ids` was counted once. -/
structure Tally (wanted : Option MemorySensorId) (ids : List String) (f : Found) : Prop where
  seen : ∀ x, x ∈ f.seen ↔ x ∈ ids
  nodup : f.seen.Nodup
  twins : f.twins = (f.seen.filter fun x => (twinOf wanted x).isSome).length

/-- The live twin is one of the other form, and it is there when there is no other twin. -/
structure Leads (wanted : Option MemorySensorId) (f : Found) : Prop where
  sound : ∀ r, f.liveTwin = some r → r ∈ f.seen ∧ twinOf wanted r = some true
  complete : f.twins = 1 → ∀ r ∈ f.seen, twinOf wanted r = some true → f.liveTwin = some r

namespace Tally

theorem empty : Tally wanted [] ⟨[], 0, none⟩ := ⟨fun _ => Iff.rfl, List.nodup_nil, rfl⟩

theorem mem_filter (h : Tally wanted ids f) (x : String) :
    x ∈ (f.seen.filter fun x => (twinOf wanted x).isSome) ↔ x ∈ ids ∧ (twinOf wanted x).isSome := by
  rw [List.mem_filter, h.seen]

/-- The count is one where there is one twin. -/
theorem eq_one_iff (h : Tally wanted ids f) :
    f.twins = 1 ↔ ∃ r ∈ ids, (twinOf wanted r).isSome ∧ ∀ x ∈ ids, (twinOf wanted x).isSome → x = r := by
  rw [h.twins, List.length_eq_one_iff]
  constructor
  · rintro ⟨r, hr⟩
    have hmem : ∀ x, x ∈ ids ∧ (twinOf wanted x).isSome ↔ x = r := fun x => by
      rw [← h.mem_filter, hr, List.mem_singleton]
    obtain ⟨hin, htwin⟩ := (hmem r).mpr rfl
    exact ⟨r, hin, htwin, fun x hx ht => (hmem x).mp ⟨hx, ht⟩⟩
  · rintro ⟨r, hin, htwin, honly⟩
    refine ⟨r, List.perm_singleton.mp ?_⟩
    refine (List.perm_ext_iff_of_nodup (h.nodup.filter _) (List.nodup_singleton r)).mpr fun x => ?_
    rw [h.mem_filter, List.mem_singleton]
    exact ⟨fun hx => honly x hx.1 hx.2, fun hx => hx ▸ ⟨hin, htwin⟩⟩

/-- An id that was already there. -/
theorem again (h : Tally wanted ids f) {id : String} (hid : id ∈ f.seen) : Tally wanted (ids ++ [id]) f := by
  refine ⟨fun x => ?_, h.nodup, h.twins⟩
  rw [List.mem_append, List.mem_singleton, ← h.seen]
  exact ⟨.inl, fun hx => hx.elim (fun hx => hx) fun hx => hx ▸ hid⟩

theorem add (h : Tally wanted ids f) {id : String} (hid : id ∉ f.seen) (liveTwin : Option String) :
    Tally wanted (ids ++ [id]) ⟨id :: f.seen, f.twins + if (twinOf wanted id).isSome then 1 else 0, liveTwin⟩ := by
  refine ⟨fun x => ?_, h.nodup.cons hid, ?_⟩
  · rw [List.mem_cons, List.mem_append, List.mem_singleton, h.seen, or_comm]
  · cases htwin : (twinOf wanted id).isSome <;> simp [htwin, h.twins]

end Tally

/-- One id of the live list. -/
theorem live_step (h : Tally wanted ids f) (hl : Leads wanted f) (id : String) :
    Tally wanted (ids ++ [id]) (Found.live wanted f id) ∧ Leads wanted (Found.live wanted f id) := by
  unfold Found.live
  by_cases hid : id ∈ f.seen
  · simpa [hid] using ⟨h.again hid, hl⟩
  · rw [if_neg (by simpa using hid)]
    cases htwin : twinOf wanted id with
    | none =>
      refine ⟨by simpa [htwin] using h.add hid f.liveTwin, fun r hr => ?_, fun hone r hr ht => ?_⟩
      · exact ⟨List.mem_cons_of_mem _ (hl.sound r hr).1, (hl.sound r hr).2⟩
      · rcases List.mem_cons.mp hr with rfl | hr
        · rw [htwin] at ht
          cases ht
        · exact hl.complete hone r hr ht
    | some otherForm =>
      refine ⟨by simpa [htwin] using h.add hid (if otherForm then some id else none), fun r hr => ?_,
        fun hone r hr ht => ?_⟩
      · cases otherForm with
        | false => cases hr
        | true =>
          obtain rfl := Option.some.inj hr
          exact ⟨List.mem_cons_self, htwin⟩
      · -- no twin was counted before, so `r` is the new one
        have hnone : (f.seen.filter fun x => (twinOf wanted x).isSome) = [] :=
          List.length_eq_zero_iff.mp (h.twins.symm.trans (Nat.succ.inj hone))
        rcases List.mem_cons.mp hr with rfl | hr
        · rw [htwin] at ht
          obtain rfl := Option.some.inj ht
          rfl
        · have hin : r ∈ (f.seen.filter fun x => (twinOf wanted x).isSome) := List.mem_filter.mpr ⟨hr, by simp [ht]⟩
          rw [hnone] at hin
          cases hin

theorem live_scan (live : List String) (h : Tally wanted ids f) (hl : Leads wanted f) :
    Tally wanted (ids ++ live) (live.foldl (Found.live wanted) f) ∧ Leads wanted (live.foldl (Found.live wanted) f) := by
  induction live generalizing ids f with
  | nil => simpa using ⟨h, hl⟩
  | cons id live ih =>
    obtain ⟨h, hl⟩ := live_step h hl id
    simpa using ih h hl

variable (saved) in
/-- One id of the unavailable list: the saved one is passed over. -/
theorem unavailable_step (h : Tally wanted ids f) (id : String) :
    Tally wanted (ids ++ [id].filter (· ≠ saved)) (Found.unavailable wanted saved f id) ∧
      (Found.unavailable wanted saved f id).liveTwin = f.liveTwin := by
  unfold Found.unavailable
  by_cases hs : id = saved
  · simpa [hs] using h
  · have hone : [id].filter (· ≠ saved) = [id] := by simp [hs]
    rw [hone]
    by_cases hid : id ∈ f.seen
    · simpa [hid] using h.again hid
    · rw [if_neg (by simpa [hs] using hid)]
      have hadd := h.add hid f.liveTwin
      cases htwin : (twinOf wanted id).isSome <;> simpa [htwin] using hadd

variable (saved) in
theorem unavailable_scan (unavailable : List String) (h : Tally wanted ids f) :
    Tally wanted (ids ++ unavailable.filter (· ≠ saved)) (unavailable.foldl (Found.unavailable wanted saved) f) ∧
      (unavailable.foldl (Found.unavailable wanted saved) f).liveTwin = f.liveTwin := by
  induction unavailable generalizing ids f with
  | nil => simpa using h
  | cons id unavailable ih =>
    obtain ⟨h, hlive⟩ := unavailable_step saved h id
    obtain ⟨h', hlive'⟩ := ih h
    refine ⟨?_, hlive'.trans hlive⟩
    rwa [List.append_assoc, ← List.filter_append, List.singleton_append] at h'

/-! ## What it finds -/

variable {live unavailable : List String}

theorem resolve_of_mem (h : saved ∈ live) : resolve saved live unavailable = some saved := by
  unfold resolve
  rw [if_pos (by simpa using h)]

/-- **The only other id of the module, where it is live and in the other form.** -/
theorem resolve_eq_some_iff {r : String} (h : saved ∉ live) :
    resolve saved live unavailable = some r ↔
      r ∈ live ∧ Twin saved r ∧ OtherForm saved r ∧
        ∀ x, x ∈ live ∨ x ∈ unavailable → x ≠ saved → Twin saved x → x = r := by
  obtain ⟨htally, hleads⟩ := live_scan live (.empty : Tally (parse saved.toList) [] ⟨[], 0, none⟩) ⟨nofun, nofun⟩
  obtain ⟨hboth, hkeep⟩ := unavailable_scan saved unavailable htally
  rw [List.nil_append] at htally hboth
  have hmem : ∀ x, x ∈ live ++ unavailable.filter (· ≠ saved) ↔ (x ∈ live ∨ x ∈ unavailable) ∧ x ≠ saved := by
    intro x
    have hlive : x ∈ live → x ≠ saved := fun hx heq => h (heq ▸ hx)
    simp only [List.mem_append, List.mem_filter, decide_eq_true_eq]
    tauto
  unfold resolve
  rw [if_neg (by simpa using h)]
  dsimp only
  rw [hkeep, ← and_assoc (a := Twin saved r), ← twinOf_eq_true]
  constructor
  · intro hr
    split at hr
    · next hone =>
      obtain ⟨hin, htwin⟩ := hleads.sound r hr
      rw [htally.seen] at hin
      obtain ⟨r', -, -, honly⟩ := hboth.eq_one_iff.mp hone
      have hr' : r = r' := honly r (List.mem_append_left _ hin) (by simp [htwin])
      refine ⟨hin, htwin, fun x hx hne ht => ?_⟩
      rw [hr']
      exact honly x ((hmem x).mpr ⟨hx, hne⟩) (twinOf_isSome.mpr ht)
    · cases hr
  · rintro ⟨hin, htwin, honly⟩
    have hone : ∀ x ∈ live ++ unavailable.filter (· ≠ saved), (twinOf (parse saved.toList) x).isSome → x = r :=
      fun x hx ht => honly x ((hmem x).mp hx).1 ((hmem x).mp hx).2 (twinOf_isSome.mp ht)
    rw [if_pos (hboth.eq_one_iff.mpr ⟨r, List.mem_append_left _ hin, by simp [htwin], hone⟩)]
    refine hleads.complete (htally.eq_one_iff.mpr ⟨r, hin, by simp [htwin], fun x hx => ?_⟩) r ((htally.seen r).mpr hin) htwin
    exact hone x (List.mem_append_left _ hx)

/-- Only which ids are there matters, not in what order nor how often. -/
theorem resolve_congr {live' unavailable' : List String} (hlive : ∀ x, x ∈ live ↔ x ∈ live')
    (hunavailable : ∀ x, x ∈ unavailable ↔ x ∈ unavailable') :
    resolve saved live unavailable = resolve saved live' unavailable' := by
  by_cases h : saved ∈ live
  · rw [resolve_of_mem h, resolve_of_mem ((hlive saved).mp h)]
  · have h' : saved ∉ live' := fun hin => h ((hlive saved).mpr hin)
    refine Option.ext fun r => ?_
    rw [resolve_eq_some_iff h, resolve_eq_some_iff h']
    simp only [hlive, hunavailable]

/-- From where it leads, the saved id is the only other one. -/
theorem resolve_back {r : String} {rest : List String} (h : saved ∉ live) (hr : resolve saved live unavailable = some r)
    (hrest : ∀ x, x ∈ rest ↔ x = saved ∨ x ∈ live ∧ x ≠ r) : resolve r rest unavailable = some saved := by
  obtain ⟨hin, htwin, hform, honly⟩ := (resolve_eq_some_iff h).mp hr
  have hnot : r ∉ rest := fun hmem => by
    rcases (hrest r).mp hmem with heq | ⟨-, hne⟩
    · exact hform.ne heq
    · exact hne rfl
  refine (resolve_eq_some_iff hnot).mpr ⟨(hrest saved).mpr (.inl rfl), htwin.symm, hform.symm, fun x hx hne ht => ?_⟩
  by_contra hsaved
  refine hne (honly x ?_ hsaved (htwin.trans ht))
  rcases hx with hx | hx
  · exact .inl (((hrest x).mp hx).resolve_left hsaved).1
  · exact .inr hx

/-- **A saved id is followed to one module's other id, and back.** -/
theorem resolve_follows (saved : String) :
    (∀ live live' unavailable unavailable' : List String, (∀ x, x ∈ live ↔ x ∈ live') →
      (∀ x, x ∈ unavailable ↔ x ∈ unavailable') → resolve saved live unavailable = resolve saved live' unavailable') ∧
    (∀ live unavailable, saved ∈ live → resolve saved live unavailable = some saved) ∧
    (∀ live unavailable r, saved ∉ live → resolve saved live unavailable = some r →
      r ∈ live ∧ Twin saved r ∧ OtherForm saved r ∧
        (∀ x, x ∈ live ∨ x ∈ unavailable → x ≠ saved → Twin saved x → x = r) ∧
        ∀ rest, (∀ x, x ∈ rest ↔ x = saved ∨ x ∈ live ∧ x ≠ r) → resolve r rest unavailable = some saved) ∧
    ∀ live unavailable r, resolve saved live unavailable = some r →
      (parse saved.toList = none → r = saved) ∧
        ∀ w p, parse saved.toList = some w → parse r.toList = some p → p.legacy = w.legacy → r = saved := by
  refine ⟨fun _ _ _ _ => resolve_congr, fun _ _ => resolve_of_mem, fun live unavailable r h hr => ?_,
    fun live unavailable r hr => ?_⟩
  · obtain ⟨hin, htwin, hform, honly⟩ := (resolve_eq_some_iff h).mp hr
    exact ⟨hin, htwin, hform, honly, fun rest => resolve_back h hr⟩
  · by_cases h : saved ∈ live
    · obtain rfl := Option.some.inj ((resolve_of_mem h).symm.trans hr)
      exact ⟨fun _ => rfl, fun _ _ _ _ _ => rfl⟩
    · obtain ⟨-, -, ⟨w, p, hw, hp, hlegacy⟩, -⟩ := (resolve_eq_some_iff h).mp hr
      refine ⟨fun hnone => ?_, fun w' p' hw' hp' heq => ?_⟩
      · rw [hw] at hnone
        cases hnone
      · obtain rfl := Option.some.inj (hw.symm.trans hw')
        obtain rfl := Option.some.inj (hp.symm.trans hp')
        rw [heq] at hlegacy
        cases hbit : w.legacy <;> rw [hbit] at hlegacy <;> cases hlegacy

theorem resolve_follows_renumbered :
    "hwmon:spd5118:21-0051:temp1" ∉ ["hwmon:spd5118:0000:00:14.0-p0-0051:temp1", "hwmon:spd5118:0000:00:14.0-p0-0053:temp1"] ∧
      resolve "hwmon:spd5118:0000:00:14.0-p0-0051:temp1"
        ["hwmon:spd5118:21-0051:temp1", "hwmon:spd5118:0000:00:14.0-p0-0053:temp1"] [] =
        some "hwmon:spd5118:21-0051:temp1" :=
  ⟨by decide, ((resolve_follows "hwmon:spd5118:21-0051:temp1").2.2.1
    ["hwmon:spd5118:0000:00:14.0-p0-0051:temp1", "hwmon:spd5118:0000:00:14.0-p0-0053:temp1"] []
    "hwmon:spd5118:0000:00:14.0-p0-0051:temp1" (by decide) (by decide)).2.2.2.2 _ fun x => by
      by_cases hx : x = "hwmon:spd5118:0000:00:14.0-p0-0051:temp1" <;> simp [hx]⟩

end ControlOfc.Hwmon.MemoryId
