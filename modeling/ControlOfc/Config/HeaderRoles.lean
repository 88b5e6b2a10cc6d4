import ControlOfc.Lib.Fields
import ControlOfc.Profile.Roles
import Mathlib.Data.List.Sort
/-! # Saved header roles (runtime_config.rs:698-822, hwmon/roles.rs:85-110)

`runtime.toml` keeps a role token per header id. The file may hold any token under any spelling of an id;
what the daemon runs on is the parsed map, one role per canonical id. `setHeaderRole` and `headerRolesParsed`
are inverse on the header that was set and leave every other header's role alone.
-/
namespace ControlOfc.Profile
open Text

/-! ## One key per header -/

/-- What the parser accepts behind the prefix is a byte. -/
theorem parseU8_le {s : List Char} {n : Nat} (h : parseU8 s = some n) : n ≤ 255 := by
  simp only [parseU8, Option.ite_none_right_eq_some, Bool.and_eq_true, decide_eq_true_eq, Option.some.injEq] at h
  obtain ⟨⟨-, hle⟩, rfl⟩ := h
  exact hle

theorem parseU8_toString {n : Nat} (hn : n ≤ 255) :
    parseU8 (if n < 10 then '0' :: Nat.toDigits 10 n else Nat.toDigits 10 n) = some n := by
  have h : ∀ n < 256, parseU8 (if n < 10 then '0' :: Nat.toDigits 10 n else Nat.toDigits 10 n) = some n := by
    decide +kernel
  exact h n (Nat.lt_succ_of_le hn)

theorem toList_openfanMemberId (n : Nat) :
    (openfanMemberId n).toList =
      "openfan:ch".toList ++ (if n < 10 then '0' :: Nat.toDigits 10 n else Nat.toDigits 10 n) := by
  by_cases h : n < 10 <;> simp [openfanMemberId, h]

theorem openfanChannelOf_openfanMemberId {n : Nat} (hn : n ≤ 255) : openfanChannelOf (openfanMemberId n) = .ok n := by
  have hstrip : ∀ s, stripPrefix "openfan:ch".toList ("openfan:ch".toList ++ s) = some s := by
    intro s
    simp [stripPrefix]
  rw [openfanChannelOf, toList_openfanMemberId, hstrip]
  simp only [parseU8_toString hn]

theorem openfanChannelOf_le {id : String} {n : Nat} (h : openfanChannelOf id = .ok n) : n ≤ 255 := by
  unfold openfanChannelOf at h
  split at h
  · cases h
  · split at h
    · rename_i ch hch
      cases h
      exact parseU8_le hch
    · cases h

/-- The chip's base name has neither of the separators. -/
theorem splitIt87Suffix_base {raw base : List Char} (h : splitIt87Suffix raw = some base) : '_' ∉ base ∧ ':' ∉ base := by
  simp only [splitIt87Suffix, Option.bind_eq_bind, Option.bind_eq_some_iff] at h
  obtain ⟨⟨b, suffix⟩, -, digits, hdigits, h⟩ := h
  by_cases hd : isDigits digits
  · have hb : b = "it".toList ++ digits := by
      simp only [stripPrefix, Option.ite_none_right_eq_some, Option.some.injEq] at hdigits
      obtain ⟨hpre, rfl⟩ := hdigits
      exact (List.prefix_append_drop (List.isPrefixOf_iff_prefix.mp hpre))
    have hbase : base = b := by
      simp only [hd, Bool.not_true, Bool.false_eq_true, if_false] at h
      split at h
      · simp at h
      · simpa using h.symm
    have hall : ∀ c ∈ digits, c.isDigit = true := by
      simp only [isDigits, isAsciiDigit, Bool.and_eq_true, List.all_eq_true] at hd
      exact hd.2
    have hno : ∀ c : Char, c.isDigit = false → c ∉ digits := by
      intro c hc hmem
      simp [hall c hmem] at hc
    rw [hbase, hb]
    simp [hno '_' rfl, hno ':' rfl]
  · simp [hd] at h

theorem canonicalHwmonId_cases (id : String) :
    canonicalHwmonId id = id ∨
      ∃ base rest : List Char, '_' ∉ base ∧ ':' ∉ base ∧
        canonicalHwmonId id = "hwmon:" ++ String.ofList base ++ ":" ++ String.ofList rest := by
  unfold canonicalHwmonId
  split
  · exact .inl rfl
  · split
    · exact .inl rfl
    · rename_i chip rest _
      split
      · rename_i base hbase
        exact .inr ⟨base, rest, (splitIt87Suffix_base hbase).1, (splitIt87Suffix_base hbase).2, rfl⟩
      · exact .inl rfl

/-- A canonical hwmon id is no OpenFan id, and it is its own canonical form. -/
theorem canonical_id {base : List Char} (rest : List Char) (h : '_' ∉ base) (hcolon : ':' ∉ base) :
    openfanChannelOf ("hwmon:" ++ String.ofList base ++ ":" ++ String.ofList rest) = .error .notOpenFan ∧
      canonicalHwmonId ("hwmon:" ++ String.ofList base ++ ":" ++ String.ofList rest) =
        "hwmon:" ++ String.ofList base ++ ":" ++ String.ofList rest := by
  have hlist : ("hwmon:" ++ String.ofList base ++ ":" ++ String.ofList rest).toList =
      "hwmon:".toList ++ (base ++ ':' :: rest) := by simp
  have hstrip : stripPrefix "hwmon:".toList ("hwmon:".toList ++ (base ++ ':' :: rest)) = some (base ++ ':' :: rest) := by
    simp [stripPrefix]
  have hsuffix : splitIt87Suffix base = none := by
    simp [splitIt87Suffix, splitOnce_of_notMem h]
  constructor
  · rw [openfanChannelOf, hlist]
    simp [stripPrefix]
  · rw [canonicalHwmonId, hlist, hstrip]
    simp only [splitOnce_append rest hcolon, hsuffix]

@[simp] theorem canonicalHwmonId_canonicalHwmonId (id : String) :
    canonicalHwmonId (canonicalHwmonId id) = canonicalHwmonId id := by
  rcases canonicalHwmonId_cases id with hid | ⟨base, rest, hbase, hcolon, hid⟩
  · rw [hid, hid]
  · rw [hid, (canonical_id rest hbase hcolon).2]

@[simp] theorem roleKey_roleKey (id : String) : roleKey (roleKey id) = roleKey id := by
  unfold roleKey
  cases h : openfanChannelOf id with
  | ok channel => simp only [openfanChannelOf_openfanMemberId (openfanChannelOf_le h)]
  | error e =>
    rcases canonicalHwmonId_cases id with hid | ⟨base, rest, hbase, hcolon, hid⟩
    · simp only [hid, h]
    · obtain ⟨hnot, hcanon⟩ := canonical_id rest hbase hcolon
      simp only [hid, hnot, hcanon]

end ControlOfc.Profile

namespace ControlOfc.Config
open Profile
open scoped List

/-- `HeaderRole::as_str` (hwmon/roles.rs:85). -/
def asStr : HeaderRole → String
  | .unknown => "unknown"
  | .cpuFan => "cpu_fan"
  | .pump => "pump"
  | .radiatorFan => "radiator_fan"
  | .chassisFan => "chassis_fan"
  | .noFan => "no_fan"

/-- `HeaderRole::from_token` (hwmon/roles.rs:100). -/
def fromToken (token : String) : Option HeaderRole :=
  match token with
  | "unknown" => some .unknown
  | "cpu_fan" => some .cpuFan
  | "pump" => some .pump
  | "radiator_fan" => some .radiatorFan
  | "chassis_fan" => some .chassisFan
  | "no_fan" => some .noFan
  | _ => none

@[simp] theorem fromToken_asStr (r : HeaderRole) : fromToken (asStr r) = some r := by
  cases r <;> rfl

/-- `role_protection_rank` (runtime_config.rs:890). -/
def roleProtectionRank : HeaderRole → Nat
  | .pump => 2
  | .cpuFan => 1
  | .unknown | .radiatorFan | .chassisFan | .noFan => 0

/-- `header_roles` of the `[hardware]` section: a `BTreeMap` from ids to role tokens, as its entries in
key order. -/
abbrev SavedRoles := List (String × String)

/-- `BTreeMap::insert` of a key that is not there. -/
def SavedRoles.insert (saved : SavedRoles) (id token : String) : SavedRoles :=
  saved.orderedInsert (fun a b => a.1 ≤ b.1) (id, token)

/-- `set_header_role` (runtime_config.rs:805): every spelling of the header goes, the canonical one comes. -/
def setHeaderRole (saved : SavedRoles) (headerId : String) (role : Option HeaderRole) : SavedRoles :=
  let canonical := roleKey headerId
  let kept := saved.filter fun e => roleKey e.1 ≠ canonical
  match role with
  | some r => SavedRoles.insert kept canonical (asStr r)
  | none => kept

/-- One entry of the loop in `header_roles_parsed`: the more protective role wins, on a tie the one
saved under another spelling. -/
def foldRole (out : KMap String (HeaderRole × Bool)) (e : String × String) : KMap String (HeaderRole × Bool) :=
  match fromToken e.2 with
  | none => out
  | some role =>
    let canonical := roleKey e.1
    let suffixed := decide (canonical ≠ e.1)
    match out.get? canonical with
    | none => out.insert canonical (role, suffixed)
    | some (kept, keptSuffixed) =>
      if roleProtectionRank role > roleProtectionRank kept ∨
          (roleProtectionRank role = roleProtectionRank kept ∧ suffixed ∧ !keptSuffixed) then
        out.insert canonical (role, suffixed)
      else out

/-- `header_roles_parsed` (runtime_config.rs:698). -/
def headerRolesParsed (saved : SavedRoles) : KMap String HeaderRole :=
  (saved.foldl foldRole .empty).filterMap fun _ r => some r.1

/-! ## What one header reads -/

theorem get?_foldRole_of_ne {out : KMap String (HeaderRole × Bool)} {e : String × String} {k : String}
    (h : roleKey e.1 ≠ k) : (foldRole out e).get? k = out.get? k := by
  unfold foldRole
  split
  · rfl
  · dsimp only
    split
    · exact KMap.get?_insert_of_ne _ _ (Ne.symm h)
    · split
      · exact KMap.get?_insert_of_ne _ _ (Ne.symm h)
      · rfl

theorem get?_foldRole_congr {out out' : KMap String (HeaderRole × Bool)} {e : String × String} {k : String}
    (hk : roleKey e.1 = k) (h : out.get? k = out'.get? k) : (foldRole out e).get? k = (foldRole out' e).get? k := by
  subst hk
  unfold foldRole
  split
  · exact h
  · dsimp only
    rw [h]
    split
    · simp
    · split
      · simp
      · exact h

/-- The other headers' entries do not matter to a header. -/
theorem get?_foldl_foldRole (saved : SavedRoles) (k : String) (out out' : KMap String (HeaderRole × Bool))
    (h : out.get? k = out'.get? k) :
    (saved.foldl foldRole out).get? k = ((saved.filter fun e => roleKey e.1 = k).foldl foldRole out').get? k := by
  induction saved generalizing out out' with
  | nil => exact h
  | cons e saved ih =>
    by_cases hk : roleKey e.1 = k
    · simp only [List.foldl_cons, List.filter_cons, hk, decide_true, if_true]
      exact ih _ _ (get?_foldRole_congr hk h)
    · simp only [List.foldl_cons, List.filter_cons, hk, decide_false, Bool.false_eq_true, if_false]
      exact ih _ _ ((get?_foldRole_of_ne hk).trans h)

theorem get?_headerRolesParsed (saved : SavedRoles) (k : String) :
    (headerRolesParsed saved).get? k = (headerRolesParsed (saved.filter fun e => roleKey e.1 = k)).get? k := by
  simp only [headerRolesParsed, KMap.get?_filterMap]
  rw [get?_foldl_foldRole saved k .empty .empty rfl]

theorem filter_insert (saved : SavedRoles) (id token : String) (p : String × String → Bool) (h : p (id, token) = false) :
    (SavedRoles.insert saved id token).filter p = saved.filter p := by
  rw [SavedRoles.insert, List.orderedInsert_eq_take_drop, List.filter_append, List.filter_cons_of_neg (by simp [h]),
    ← List.filter_append, List.takeWhile_append_dropWhile]

theorem filter_insert_self {saved : SavedRoles} {id token : String} {p : String × String → Bool} (h : p (id, token))
    (hno : saved.filter p = []) : (SavedRoles.insert saved id token).filter p = [(id, token)] := by
  have hperm : (SavedRoles.insert saved id token).filter p ~ ((id, token) :: saved).filter p :=
    (List.perm_orderedInsert _ _ saved).filter p
  rw [List.filter_cons_of_pos h, hno] at hperm
  exact List.perm_singleton.mp hperm

theorem headerRolesParsed_singleton (id : String) (r : HeaderRole) :
    (headerRolesParsed [(id, asStr r)]).get? (roleKey id) = some r := by
  simp [headerRolesParsed, foldRole]

theorem headerRolesParsed_nil (k : String) : (headerRolesParsed []).get? k = none := rfl

/-- An edit sets the header's role and no other's. -/
theorem get?_headerRolesParsed_setHeaderRole (saved : SavedRoles) (headerId : String) (role : Option HeaderRole)
    (k : String) :
    (headerRolesParsed (setHeaderRole saved headerId role)).get? k =
      if k = roleKey headerId then role else (headerRolesParsed saved).get? k := by
  have hkept : ∀ k, (saved.filter fun e => roleKey e.1 ≠ roleKey headerId).filter (fun e => roleKey e.1 = k) =
      if k = roleKey headerId then [] else saved.filter fun e => roleKey e.1 = k := by
    intro k
    rw [List.filter_filter]
    by_cases hk : k = roleKey headerId
    · subst hk
      rw [if_pos rfl, List.filter_eq_nil_iff]
      intro e _
      simp
    · rw [if_neg hk]
      refine List.filter_congr fun e _ => ?_
      by_cases he : roleKey e.1 = k
      · simp [he, hk]
      · simp [he]
  rw [get?_headerRolesParsed]
  cases role with
  | none =>
    simp only [setHeaderRole, hkept]
    by_cases hk : k = roleKey headerId
    · rw [if_pos hk, if_pos hk, headerRolesParsed_nil]
    · rw [if_neg hk, if_neg hk, ← get?_headerRolesParsed]
  | some r =>
    simp only [setHeaderRole]
    by_cases hk : k = roleKey headerId
    · subst hk
      have hone := @filter_insert_self (saved.filter fun e => roleKey e.1 ≠ roleKey headerId) (roleKey headerId) (asStr r)
        (fun e => roleKey e.1 = roleKey headerId) (by simp) (by rw [hkept, if_pos rfl])
      rw [hone, if_pos rfl]
      simpa using headerRolesParsed_singleton (roleKey headerId) r
    · have hother := filter_insert (saved.filter fun e => roleKey e.1 ≠ roleKey headerId) (roleKey headerId) (asStr r)
        (fun e => roleKey e.1 = k) (by simp [Ne.symm hk])
      rw [hother, hkept, if_neg hk, if_neg hk, ← get?_headerRolesParsed]

end ControlOfc.Config
