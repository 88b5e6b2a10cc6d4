import ControlOfc.Hwmon.RecordedRig
import ControlOfc.Lib.History
/-! # The record is ahead of the hardware

`Ahead` is what a crash must find: if the last replace took, every header the daemon drives is in the
record with its original. It is kept at every point of every run, as `Kept` says of one step of the ledger
and of the effects together.
-/
namespace ControlOfc.Hwmon
open History Pwm

/-! ## What the effects say -/

namespace Effect

/-- The header's mode switch was written to manual. -/
def takes (id : String) : Effect → Prop
  | .write w => w.header = id ∧ w.attr = .enable ∧ w.value = pwmEnableManual
  | _ => False

/-- It was written to anything else, or given back. -/
def frees (id : String) : Effect → Prop
  | .write w => w.header = id ∧ w.attr = .enable ∧ w.value ≠ pwmEnableManual
  | .released id' => id' = id
  | .replace .. => False

end Effect

/-- The daemon last wrote the header's mode switch to manual, and has not given it back since. -/
def Driven (id : String) (l : List Effect) : Prop := Latched (Effect.takes id) (Effect.frees id) l

/-- What the record holds. -/
def onDisk (l : List Effect) : List (String × LedgerEntry) :=
  l.foldl (fun disk e => match e with | .replace held true => held | _ => disk) []

/-- The last replace took. -/
def replacedOk (l : List Effect) : Bool :=
  l.foldl (fun ok e => match e with | .replace _ ok' => ok' | _ => ok) true

/-- The access that first wrote the header's mode switch. -/
def firstTake (id : String) (l : List Effect) : Option Nat :=
  (l.filterMap fun
    | .write w => if w.header = id ∧ w.attr = .enable then some w.tick else none
    | _ => none).head?

/-- The action is what `from_reading` makes of the two reads before the header's first take. -/
def FirstRead (env : Sysfs) (h : PwmHeaderDescriptor) (l : List Effect) (action : HandBack) : Prop :=
  ∃ ep t, h.enablePath = some ep ∧ firstTake h.id l = some (t + 3) ∧
    action = HandBack.fromReading h.chipName (env.read t ep) (env.read (t + 1) h.pwmPath)

/-- What a crash must find in the record. -/
def Ahead (env : Sysfs) (hs : Headers) (l : List Effect) : Prop :=
  replacedOk l = true → ∀ h ∈ hs.list, Driven h.id l →
    ∃ e action, (h.id, e) ∈ onDisk l ∧ h.enablePath = some e.enablePath ∧ e.pwmPath = h.pwmPath ∧ e.taken = true ∧
      e.original = some action ∧ FirstRead env h l action

@[simp] theorem onDisk_concat (l : List Effect) (e : Effect) :
    onDisk (l ++ [e]) = match e with | .replace held true => held | _ => onDisk l := by
  rw [onDisk, List.foldl_append]
  rfl

@[simp] theorem replacedOk_concat (l : List Effect) (e : Effect) :
    replacedOk (l ++ [e]) = match e with | .replace _ ok => ok | _ => replacedOk l := by
  rw [replacedOk, List.foldl_append]
  rfl

theorem driven_concat (id : String) (l : List Effect) (e : Effect) :
    Driven id (l ++ [e]) ↔ e.takes id ∨ (Driven id l ∧ ¬ e.frees id) := latched_concat ..

@[simp] theorem driven_concat_replace (id : String) (l : List Effect) (held : List (String × LedgerEntry)) (ok : Bool) :
    Driven id (l ++ [.replace held ok]) ↔ Driven id l := by
  simp [driven_concat, Effect.takes, Effect.frees]

theorem firstTake_concat (id : String) (l : List Effect) (e : Effect) :
    firstTake id (l ++ [e]) = (firstTake id l).or
      (match e with
        | .write w => if w.header = id ∧ w.attr = .enable then some w.tick else none
        | _ => none) := by
  unfold firstTake
  rw [List.filterMap_append, List.head?_append]
  cases e with
  | write w => by_cases hw : w.header = id ∧ w.attr = .enable <;> simp [hw]
  | _ => simp

/-- A first take stays the first. -/
theorem firstTake_mono {id : String} {l : List Effect} {t : Nat} (h : firstTake id l = some t) (e : Effect) :
    firstTake id (l ++ [e]) = some t := by
  rw [firstTake_concat, h]
  rfl

theorem FirstRead.concat {env : Sysfs} {h : PwmHeaderDescriptor} {l : List Effect} {action : HandBack}
    (hr : FirstRead env h l action) (e : Effect) : FirstRead env h (l ++ [e]) action := by
  obtain ⟨ep, t, hep, ht, ha⟩ := hr
  exact ⟨ep, t, hep, firstTake_mono ht e, ha⟩

theorem Driven.firstTake_ne_none {id : String} {l : List Effect} (h : Driven id l) : firstTake id l ≠ none := by
  obtain ⟨e, he, ht⟩ := h.exists_set
  cases e with
  | write w =>
    simp only [firstTake, ne_eq, List.head?_eq_none_iff, List.filterMap_eq_nil_iff, not_forall]
    refine ⟨.write w, he, ?_⟩
    simp [ht.1, ht.2.1]
  | _ => exact ht.elim

/-! ## The ledger and the effects -/

theorem HandBackLedger.mem_held {hs : Headers} {l : HandBackLedger} {x : String × LedgerEntry} :
    x ∈ l.held hs ↔ ∃ h ∈ hs.list, h.id = x.1 ∧ l.get? x.1 = some x.2 ∧ x.2.taken = true := by
  obtain ⟨id, e⟩ := x
  simp only [held, List.mem_filter, List.mem_filterMap, Option.map_eq_some_iff, Prod.mk.injEq]
  constructor
  · rintro ⟨⟨h, hh, e', he', rfl, rfl⟩, ht⟩
    exact ⟨h, hh, rfl, he', ht⟩
  · rintro ⟨h, hh, rfl, he, ht⟩
    exact ⟨⟨h, hh, e, he, rfl, rfl⟩, ht⟩

/-- A line of a replace: a header with a mode switch, its files, and the original the ledger still has. -/
structure LineOf (hs : Headers) (ledger : HandBackLedger) (x : String × LedgerEntry) : Prop where
  header : ∃ h ∈ hs.list, h.id = x.1 ∧ h.supportsEnable = true ∧ h.enablePath = some x.2.enablePath ∧ x.2.pwmPath = h.pwmPath
  original : ∃ e action, ledger.get? x.1 = some e ∧ e.original = some action ∧ x.2.original = some action

/-- The ledger and the effects of a run. -/
structure Tracked (env : Sysfs) (hs : Headers) (ledger : HandBackLedger) (l : List Effect) : Prop where
  ahead : Always (Ahead env hs) l
  disk : replacedOk l = true → onDisk l = ledger.held hs
  entry : ∀ id e, ledger.get? id = some e →
    ∃ h ∈ hs.list, h.id = id ∧ h.supportsEnable = true ∧ h.enablePath = some e.enablePath ∧ e.pwmPath = h.pwmPath
  tracks : ∀ h ∈ hs.list, h.supportsEnable = true → ledger.Tracks h.id
  driven : ∀ id, Driven id l → ∃ e, ledger.get? id = some e ∧ e.taken = true
  original : ∀ id e, ledger.get? id = some e → e.taken = true → e.original ≠ none
  reads : ∀ h ∈ hs.list, ∀ e action, ledger.get? h.id = some e → e.original = some action → FirstRead env h l action
  untouched : ∀ id e, ledger.get? id = some e → e.original = none → firstTake id l = none
  lines : ∀ held ok, .replace held ok ∈ l → ∀ x ∈ held, LineOf hs ledger x

/-- What the ledger and the record say of a header, put together. -/
theorem ahead_of {env : Sysfs} {hs : Headers} {ledger : HandBackLedger} {l : List Effect}
    (disk : replacedOk l = true → onDisk l = ledger.held hs)
    (entry : ∀ id e, ledger.get? id = some e →
      ∃ h ∈ hs.list, h.id = id ∧ h.supportsEnable = true ∧ h.enablePath = some e.enablePath ∧ e.pwmPath = h.pwmPath)
    (driven : ∀ id, Driven id l → ∃ e, ledger.get? id = some e ∧ e.taken = true)
    (original : ∀ id e, ledger.get? id = some e → e.taken = true → e.original ≠ none)
    (reads : ∀ h ∈ hs.list, ∀ e action, Driven h.id l → ledger.get? h.id = some e → e.original = some action →
      FirstRead env h l action) : Ahead env hs l := by
  intro hok h hh hdriven
  obtain ⟨e, he, ht⟩ := driven h.id hdriven
  obtain ⟨action, ha⟩ := Option.ne_none_iff_exists'.mp (original h.id e he ht)
  obtain ⟨h', hh', hid, -, hep, hpwm⟩ := entry h.id e he
  obtain rfl : h' = h := List.inj_on_of_nodup_map hs.nodup hh' hh hid
  refine ⟨e, action, ?_, hep, hpwm, ht, ha, reads h' hh e action hdriven he ha⟩
  rw [disk hok]
  exact HandBackLedger.mem_held.mpr ⟨h', hh, rfl, he, ht⟩

namespace Tracked

variable {env : Sysfs} {hs : Headers} {ledger ledger' : HandBackLedger} {l : List Effect}

/-- A write to a mode switch is one of a header the daemon has taken. -/
theorem write (h : Tracked env hs ledger l) {w : SysfsWrite}
    (hw : w.attr = .enable → ∃ e, ledger.get? w.header = some e ∧ e.taken = true) :
    Tracked env hs ledger (l ++ [.write w]) := by
  have hdisk : replacedOk (l ++ [.write w]) = true → onDisk (l ++ [.write w]) = ledger.held hs := by
    simpa using h.disk
  have hdriven : ∀ id, Driven id (l ++ [.write w]) → ∃ e, ledger.get? id = some e ∧ e.taken = true := by
    intro id hd
    rcases (driven_concat id l _).mp hd with ⟨rfl, hattr, -⟩ | ⟨hd, -⟩
    · exact hw hattr
    · exact h.driven id hd
  have hreads : ∀ hd ∈ hs.list, ∀ e action, ledger.get? hd.id = some e → e.original = some action →
      FirstRead env hd (l ++ [.write w]) action := fun hd hh e a he ha => (h.reads hd hh e a he ha).concat _
  refine ⟨h.ahead.concat (ahead_of hdisk h.entry hdriven h.original fun hd hh e a _ => hreads hd hh e a), hdisk, h.entry,
    h.tracks, hdriven, h.original, hreads, fun id e he hnone => ?_, fun held ok hm x hx => ?_⟩
  · rw [firstTake_concat, h.untouched id e he hnone]
    have hother : ¬ (w.header = id ∧ w.attr = .enable) := by
      rintro ⟨rfl, hattr⟩
      obtain ⟨e', he', ht⟩ := hw hattr
      rw [he] at he'
      exact h.original _ e he (Option.some.inj he' ▸ ht) hnone
    simp [hother]
  · have hm' : .replace held ok ∈ l := by simpa using hm
    exact h.lines held ok hm' x hx

theorem writes (h : Tracked env hs ledger l) {ws : List SysfsWrite}
    (hws : ∀ w ∈ ws, w.attr = .enable → ∃ e, ledger.get? w.header = some e ∧ e.taken = true) :
    Tracked env hs ledger (l ++ ws.map .write) := by
  induction ws using List.reverseRecOn with
  | nil => simpa using h
  | append_singleton ws w ih =>
    rw [List.map_append, ← List.append_assoc]
    exact (ih fun w' hw' => hws w' (List.mem_append_left _ hw')).write (hws w (by simp))

theorem release (h : Tracked env hs ledger l) (id : String) : Tracked env hs ledger (l ++ [.released id]) := by
  have hdisk : replacedOk (l ++ [.released id]) = true → onDisk (l ++ [.released id]) = ledger.held hs := by
    simpa using h.disk
  have hsub : ∀ id', Driven id' (l ++ [.released id]) → Driven id' l := by
    intro id' hd
    rcases (driven_concat id' l _).mp hd with ht | ⟨hd, -⟩
    · exact ht.elim
    · exact hd
  have hreads : ∀ hd ∈ hs.list, ∀ e action, ledger.get? hd.id = some e → e.original = some action →
      FirstRead env hd (l ++ [.released id]) action := fun hd hh e a he ha => (h.reads hd hh e a he ha).concat _
  refine ⟨h.ahead.concat (ahead_of hdisk h.entry (fun id' hd => h.driven id' (hsub id' hd)) h.original
    fun hd hh e a _ => hreads hd hh e a), hdisk, h.entry, h.tracks, fun id' hd => h.driven id' (hsub id' hd), h.original,
    hreads, fun id' e he hnone => ?_, fun held ok hm x hx => ?_⟩
  · rw [firstTake_concat, h.untouched id' e he hnone]
    rfl
  · have hm' : .replace held ok ∈ l := by simpa using hm
    exact h.lines held ok hm' x hx

/-- A ledger in which nothing but the `taken` marks has changed, and what has just been replaced by it. -/
theorem persist (h : Tracked env hs ledger l)
    (hsame : ∀ id, (ledger'.get? id).map ({ · with taken := false }) = (ledger.get? id).map ({ · with taken := false }))
    (hdriven : ∀ id, Driven id l → ∃ e, ledger'.get? id = some e ∧ e.taken = true)
    (horiginal : ∀ id e, ledger'.get? id = some e → e.taken = true → e.original ≠ none) (ok : Bool) :
    Tracked env hs ledger' (l ++ [.replace (ledger'.held hs) ok]) := by
  have hold : ∀ id e', ledger'.get? id = some e' → ∃ e, ledger.get? id = some e ∧ e.enablePath = e'.enablePath ∧
      e.pwmPath = e'.pwmPath ∧ e.original = e'.original := by
    intro id e' he'
    have hs := hsame id
    rw [he', Option.map_some] at hs
    obtain ⟨e, he, heq⟩ := Option.map_eq_some_iff.mp hs.symm
    simp only [LedgerEntry.mk.injEq, and_true] at heq
    exact ⟨e, he, heq.1, heq.2.1, heq.2.2⟩
  have hnew : ∀ id e, ledger.get? id = some e → ∃ e', ledger'.get? id = some e' ∧ e'.original = e.original := by
    intro id e he
    have hs := hsame id
    rw [he, Option.map_some] at hs
    obtain ⟨e', he', heq⟩ := Option.map_eq_some_iff.mp hs
    simp only [LedgerEntry.mk.injEq, and_true] at heq
    exact ⟨e', he', heq.2.2⟩
  have hentry : ∀ id e, ledger'.get? id = some e →
      ∃ hd ∈ hs.list, hd.id = id ∧ hd.supportsEnable = true ∧ hd.enablePath = some e.enablePath ∧ e.pwmPath = hd.pwmPath := by
    intro id e' he'
    obtain ⟨e, he, hep, hpwm, -⟩ := hold id e' he'
    rw [← hep, ← hpwm]
    exact h.entry id e he
  have hdisk : replacedOk (l ++ [.replace (ledger'.held hs) ok]) = true →
      onDisk (l ++ [.replace (ledger'.held hs) ok]) = ledger'.held hs := by
    intro hok
    rw [replacedOk_concat] at hok
    obtain rfl : ok = true := hok
    simp
  have hreads : ∀ hd ∈ hs.list, ∀ e action, ledger'.get? hd.id = some e → e.original = some action →
      FirstRead env hd (l ++ [.replace (ledger'.held hs) ok]) action := by
    intro hd hh e' a he' ha
    obtain ⟨e, he, -, -, ho⟩ := hold hd.id e' he'
    exact (h.reads hd hh e a he (ho.trans ha)).concat _
  have hdriven' : ∀ id, Driven id (l ++ [.replace (ledger'.held hs) ok]) → ∃ e, ledger'.get? id = some e ∧ e.taken = true :=
    fun id hd => hdriven id ((driven_concat_replace ..).mp hd)
  refine ⟨h.ahead.concat (ahead_of hdisk hentry hdriven' horiginal fun hd hh e a _ => hreads hd hh e a), hdisk, hentry,
    fun hd hh hen => ?_, hdriven', horiginal, hreads, fun id e' he' hnone => ?_, fun held ok' hm x hx => ?_⟩
  · obtain ⟨e, he⟩ := Option.isSome_iff_exists.mp (h.tracks hd hh hen)
    obtain ⟨e', he', -⟩ := hnew hd.id e he
    exact Option.isSome_iff_exists.mpr ⟨e', he'⟩
  · obtain ⟨e, he, -, -, ho⟩ := hold id e' he'
    rw [firstTake_concat, h.untouched id e he (ho.trans hnone)]
    rfl
  · rcases List.mem_append.mp hm with hm | hm
    · obtain ⟨hd, e, a, he, hea, hxa⟩ := h.lines held ok' hm x hx
      obtain ⟨e', he', ho⟩ := hnew x.1 e he
      exact ⟨hd, e', a, he', ho.trans hea, hxa⟩
    · obtain ⟨rfl, -⟩ : held = ledger'.held hs ∧ ok' = ok := by simpa using hm
      obtain ⟨-, -, -, he', ht⟩ := HandBackLedger.mem_held.mp hx
      obtain ⟨a, ha⟩ := Option.ne_none_iff_exists'.mp (horiginal x.1 x.2 he' ht)
      exact ⟨hentry x.1 x.2 he', x.2, a, he', ha, ha⟩

/-- The first take of a header: what was read is recorded, and only then the mode switch written. -/
theorem firstTake (h : Tracked env hs ledger l) {hd : PwmHeaderDescriptor} (hh : hd ∈ hs.list) {ep : SysfsPath}
    (hep : hd.enablePath = some ep) {e : LedgerEntry} (he : ledger.get? hd.id = some e) (hnone : e.original = none)
    {action : HandBack} {t : Nat}
    (haction : action = HandBack.fromReading hd.chipName (env.read t ep) (env.read (t + 1) hd.pwmPath)) (ok : Bool) :
    Tracked env hs (ledger.noteTake hd.id (some action))
      (l ++ [.replace ((ledger.noteTake hd.id (some action)).held hs) ok] ++
        [.write ⟨t + 3, hd.id, .enable, pwmEnableManual⟩]) := by
  have hget : ∀ id, (ledger.noteTake hd.id (some action)).get? id =
      if id = hd.id then some { e with original := some action, taken := true } else ledger.get? id := by
    intro id
    unfold HandBackLedger.noteTake
    rw [he]
    simp [KMap.get?_insert, hnone]
  generalize ledger.noteTake hd.id (some action) = ledger' at hget ⊢
  have hself := hget hd.id
  rw [if_pos rfl] at hself
  have hother : ∀ id, id ≠ hd.id → ledger'.get? id = ledger.get? id := fun id hne => by rw [hget, if_neg hne]
  have hnot : ¬ Driven hd.id l := fun hdr => hdr.firstTake_ne_none (h.untouched hd.id e he hnone)
  have hentry : ∀ id e', ledger'.get? id = some e' →
      ∃ h' ∈ hs.list, h'.id = id ∧ h'.supportsEnable = true ∧ h'.enablePath = some e'.enablePath ∧ e'.pwmPath = h'.pwmPath := by
    intro id e' he'
    by_cases hid : id = hd.id
    · subst hid
      rw [hself] at he'
      obtain rfl := Option.some.inj he'
      exact h.entry hd.id e he
    · rw [hother id hid] at he'
      exact h.entry id e' he'
  have horiginal : ∀ id e', ledger'.get? id = some e' → e'.taken = true → e'.original ≠ none := by
    intro id e' he' ht
    by_cases hid : id = hd.id
    · subst hid
      rw [hself] at he'
      obtain rfl := Option.some.inj he'
      exact Option.some_ne_none action
    · rw [hother id hid] at he'
      exact h.original id e' he' ht
  -- after the replace: the header itself has not been taken yet
  set l₁ := l ++ [.replace (ledger'.held hs) ok] with hl₁
  have hdisk₁ : replacedOk l₁ = true → onDisk l₁ = ledger'.held hs := by
    intro hok
    rw [hl₁, replacedOk_concat] at hok
    obtain rfl : ok = true := hok
    simp [hl₁]
  have hdriven₁ : ∀ id, Driven id l₁ → ∃ e', ledger'.get? id = some e' ∧ e'.taken = true := by
    intro id hdr
    have hdr' := (driven_concat_replace ..).mp hdr
    rw [hother id fun hid => hnot (hid ▸ hdr')]
    exact h.driven id hdr'
  have hreads₁ : ∀ h' ∈ hs.list, h'.id ≠ hd.id → ∀ e' a, ledger'.get? h'.id = some e' → e'.original = some a →
      FirstRead env h' l₁ a := by
    intro h' hh' hne e' a he' ha
    rw [hother _ hne] at he'
    exact (h.reads h' hh' e' a he' ha).concat _
  have hahead₁ : Ahead env hs l₁ := by
    refine ahead_of hdisk₁ hentry hdriven₁ horiginal fun h' hh' e' a hdr he' ha => hreads₁ h' hh' (fun hid => ?_) e' a he' ha
    exact hnot (hid ▸ (driven_concat_replace ..).mp hdr)
  -- after the write
  have htake : Hwmon.firstTake hd.id (l₁ ++ [.write ⟨t + 3, hd.id, .enable, pwmEnableManual⟩]) = some (t + 3) := by
    rw [firstTake_concat, hl₁, firstTake_concat, h.untouched hd.id e he hnone]
    simp
  have hdisk₂ : replacedOk (l₁ ++ [.write ⟨t + 3, hd.id, .enable, pwmEnableManual⟩]) = true →
      onDisk (l₁ ++ [.write ⟨t + 3, hd.id, .enable, pwmEnableManual⟩]) = ledger'.held hs := by
    simpa using hdisk₁
  have hdriven₂ : ∀ id, Driven id (l₁ ++ [.write ⟨t + 3, hd.id, .enable, pwmEnableManual⟩]) →
      ∃ e', ledger'.get? id = some e' ∧ e'.taken = true := by
    intro id hdr
    rcases (driven_concat id l₁ _).mp hdr with ⟨rfl, -, -⟩ | ⟨hdr, -⟩
    · exact ⟨_, hself, rfl⟩
    · exact hdriven₁ id hdr
  have hreads₂ : ∀ h' ∈ hs.list, ∀ e' a, ledger'.get? h'.id = some e' → e'.original = some a →
      FirstRead env h' (l₁ ++ [.write ⟨t + 3, hd.id, .enable, pwmEnableManual⟩]) a := by
    intro h' hh' e' a he' ha
    by_cases hid : h'.id = hd.id
    · obtain rfl : h' = hd := List.inj_on_of_nodup_map hs.nodup hh' hh hid
      rw [hself] at he'
      obtain rfl := Option.some.inj he'
      exact ⟨ep, t, hep, htake, (Option.some.inj ha).symm.trans haction⟩
    · exact (hreads₁ h' hh' hid e' a he' ha).concat _
  refine ⟨(h.ahead.concat hahead₁).concat (ahead_of hdisk₂ hentry hdriven₂ horiginal fun h' hh' e' a _ => hreads₂ h' hh' e' a),
    hdisk₂, hentry, fun h' hh' hen => ?_, hdriven₂, horiginal, hreads₂, fun id e' he' hnone' => ?_, fun held ok' hm x hx => ?_⟩
  · by_cases hid : h'.id = hd.id
    · rw [hid]
      exact Option.isSome_iff_exists.mpr ⟨_, hself⟩
    · have htr := h.tracks h' hh' hen
      unfold HandBackLedger.Tracks at htr ⊢
      rwa [hother _ hid]
  · by_cases hid : id = hd.id
    · subst hid
      rw [hself] at he'
      obtain rfl := Option.some.inj he'
      cases hnone'
    · rw [hother id hid] at he'
      rw [firstTake_concat, hl₁, firstTake_concat, h.untouched id e' he' hnone']
      simp [Ne.symm hid]
  · have hm₁ : .replace held ok' ∈ l₁ := by simpa using hm
    rcases List.mem_append.mp hm₁ with hm | hm
    · obtain ⟨hhd, e', a, he', hea, hxa⟩ := h.lines held ok' hm x hx
      by_cases hid : x.1 = hd.id
      · rw [hid, he] at he'
        rw [← Option.some.inj he', hnone] at hea
        cases hea
      · exact ⟨hhd, e', a, (hother _ hid).trans he', hea, hxa⟩
    · obtain ⟨rfl, -⟩ : held = ledger'.held hs ∧ ok' = ok := by simpa using hm
      obtain ⟨-, -, -, he', ht⟩ := HandBackLedger.mem_held.mp hx
      obtain ⟨a, ha⟩ := Option.ne_none_iff_exists'.mp (horiginal x.1 x.2 he' ht)
      exact ⟨hentry x.1 x.2 he', x.2, a, he', ha, ha⟩

end Tracked

/-! ## What the ledger's own steps change -/

namespace HandBackLedger

theorem noteTake_same {l : HandBackLedger} {id : String} (h : ∀ e, l.get? id = some e → e.original ≠ none) (id' : String) :
    ((l.noteTake id none).get? id').map ({ · with taken := false }) = (l.get? id').map ({ · with taken := false }) := by
  unfold noteTake
  cases he : l.get? id with
  | none => rfl
  | some e =>
    by_cases hid : id' = id
    · subst hid
      simp [he]
    · simp [hid]

theorem noteTake_eq_self {l : HandBackLedger} {id : String} {e : LedgerEntry} (he : l.get? id = some e)
    (ht : e.taken = true) : l.noteTake id none = l := by
  apply KMap.ext
  intro id'
  unfold noteTake
  rw [he]
  by_cases hid : id' = id
  · subst hid
    obtain ⟨ep, pp, o, tk⟩ := e
    obtain rfl : tk = true := ht
    simp [he]
  · simp [hid]

theorem noteHandedBack_get? {l : HandBackLedger} {id : String} {e : LedgerEntry} (he : l.get? id = some e)
    (ht : e.taken = true) (id' : String) :
    (l.noteHandedBack id).get? id' = if id' = id then some { e with taken := false } else l.get? id' := by
  unfold noteHandedBack
  rw [he]
  simp only [ht, if_true]
  exact KMap.get?_insert ..

end HandBackLedger

/-! ## What the rig does between two changes of the ledger -/

namespace HwmonRig

variable {env : Sysfs} {hs : Headers}

/-- Only duties are written, and the ledger is left alone. -/
structure Quiet (r r' : HwmonRig) : Prop where
  wrote : Bus.Wrote (·.attr = .duty) r.bus r'.bus
  ledger : r'.ctrl.handback = r.ctrl.handback

namespace Quiet

variable {r r' r'' : HwmonRig}

theorem refl (r : HwmonRig) : Quiet r r := ⟨.refl _, rfl⟩

theorem trans (h : Quiet r r') (h' : Quiet r' r'') : Quiet r r'' :=
  ⟨h.wrote.trans h'.wrote, h'.ledger.trans h.ledger⟩

/-- What changes neither the files nor the ledger. -/
theorem of_bus (hb : r'.bus = r.bus) (hl : r'.ctrl.handback = r.ctrl.handback) : Quiet r r' :=
  ⟨hb ▸ .refl _, hl⟩

theorem of_read (r : HwmonRig) (path : SysfsPath) : Quiet r { r with bus := (r.bus.read env path).2 } :=
  ⟨Bus.wrote_read env _ path, rfl⟩

end Quiet

theorem enableReclaimed_quiet (r : HwmonRig) (h : PwmHeaderDescriptor) : Quiet r (enableReclaimed env r h).2 := by
  unfold enableReclaimed
  split
  · split
    · exact .refl r
    · next ep _ =>
      have hmode : Quiet r { r with bus := (r.bus.read env ep).2 } := .of_read r ep
      dsimp only
      split
      · exact hmode
      · split
        · exact hmode
        · exact hmode.trans (.of_read _ h.pwmPath)
  · exact .refl r

theorem book_quiet (r : HwmonRig) (h : PwmHeaderDescriptor) (reconciles reclaimed : Bool) :
    Quiet r (book r h reconciles reclaimed) := by
  refine .of_bus rfl ?_
  unfold book
  dsimp only
  split <;> split <;> rfl

theorem dutyDriftRewrite_quiet (r : HwmonRig) (h : PwmHeaderDescriptor) (pct : Nat) :
    Quiet r (dutyDriftRewrite env r h pct).2 := by
  unfold dutyDriftRewrite
  dsimp only
  split
  · exact .of_read r h.pwmPath
  · exact ⟨Bus.wrote_read env _ h.pwmPath, by simp⟩

theorem primeEach_quiet (dir : String) :
    ∀ (ss : List PwmHeaderDescriptor) (r : HwmonRig), Quiet r (primeEach env dir r ss)
  | [], r => .refl r
  | s :: ss, r => by
    have hread : Quiet r { r with bus := (r.bus.read env s.pwmPath).2 } := .of_read r s.pwmPath
    have hwrite (b : Bus) : Bus.Wrote (·.attr = .duty) b (b.write env s.id s.pwmPath .duty (percentToRaw primePct)).2 :=
      Bus.wrote_write env b _ _ _ _ rfl
    unfold primeEach
    dsimp only
    split
    · exact hread.trans (primeEach_quiet dir ss _)
    · split
      · exact hread.trans (primeEach_quiet dir ss _)
      · split
        · have hprimed : Quiet { r with bus := (r.bus.read env s.pwmPath).2 } { r with
              ctrl := r.ctrl.record s.id (some primePct)
              bus := ((r.bus.read env s.pwmPath).2.write env s.id s.pwmPath .duty (percentToRaw primePct)).2 } :=
            ⟨hwrite _, rfl⟩
          exact (hread.trans hprimed).trans (primeEach_quiet dir ss _)
        · exact hread.trans ⟨hwrite _, rfl⟩

theorem prime_quiet (r : HwmonRig) (h : PwmHeaderDescriptor) : Quiet r (primeSharedReportSiblings env hs r h) := by
  unfold primeSharedReportSiblings
  split
  · exact primeEach_quiet _ _ r
  · exact .refl r

theorem resumePriming_quiet (r : HwmonRig) (h : PwmHeaderDescriptor) : Quiet r (resumePrimingAfterSuccess env hs r h) := by
  unfold resumePrimingAfterSuccess
  split
  · exact (Quiet.of_bus rfl rfl : Quiet r { r with
      ctrl := { r.ctrl with primingSuspended := r.ctrl.primingSuspended.filter (· ≠ h.pwmPath.dir) } }).trans
        (prime_quiet _ h)
  · exact .refl r

theorem settle_quiet (r : HwmonRig) (h : PwmHeaderDescriptor) (eff : Nat) (reconciles correcting : Bool) :
    Quiet r (settle env r h eff reconciles correcting) := by
  refine ⟨Bus.wrote_read env _ h.pwmPath, ?_⟩
  unfold settle
  dsimp only
  split <;> split <;> rfl

theorem writeDuty_quiet (r : HwmonRig) (h : PwmHeaderDescriptor) (eff : Nat) (reconciles correcting : Bool) :
    Quiet r (writeDuty env hs r h eff reconciles correcting).1 := by
  have hmark : Quiet r { r with ctrl := r.ctrl.recordNoMode h none, bus := (r.bus.check env).2 } :=
    ⟨Bus.wrote_check env _, by simp⟩
  have hprime := hmark.trans (@prime_quiet env hs _ h)
  have hwrite (b : Bus) : Bus.Wrote (·.attr = .duty) b (b.write env h.id h.pwmPath .duty (percentToRaw eff)).2 :=
    Bus.wrote_write env b _ _ _ _ rfl
  unfold writeDuty
  dsimp only
  split
  · exact hmark.trans (.of_bus rfl (by simp))
  · split
    · exact hprime.trans ⟨hwrite _, by simp⟩
    · exact ((hprime.trans ⟨hwrite _, by simp⟩).trans (resumePriming_quiet _ h)).trans (settle_quiet _ h eff _ _)

theorem takeResumeFlag_quiet (r : HwmonRig) : Quiet r r.takeResumeFlag := by
  refine .of_bus rfl ?_
  unfold takeResumeFlag
  dsimp only
  split <;> rfl

end HwmonRig

/-! ## The record keeps up -/

namespace RecordedRig

variable {env : Sysfs} {hs : Headers} {disk : Nat → Bool} {d : RecordedRig}

/-- The ledger, the effects and the mark of a failed replace belong together. -/
structure InStep (env : Sysfs) (hs : Headers) (d : RecordedRig) : Prop where
  tracked : Tracked env hs d.rig.ctrl.handback d.effects
  stale : d.stale = !replacedOk d.effects

theorem replacedOk_writes (l : List Effect) (ws : List SysfsWrite) : replacedOk (l ++ ws.map .write) = replacedOk l := by
  induction ws using List.reverseRecOn with
  | nil => simp
  | append_singleton ws w ih => simp [← List.append_assoc, ih]

/-- Writes to the mode switches of taken headers, and to duties. -/
theorem InStep.move (h : InStep env hs d) {r : HwmonRig} (hl : r.ctrl.handback = d.rig.ctrl.handback)
    (hw : ∀ w ∈ d.rig.bus.since r.bus, w.attr = .enable → ∃ e, d.rig.ctrl.handback.get? w.header = some e ∧ e.taken = true) :
    InStep env hs (d.move r) := by
  refine ⟨?_, ?_⟩
  · show Tracked env hs r.ctrl.handback _
    rw [hl]
    exact h.tracked.writes hw
  · show d.stale = !replacedOk (d.effects ++ _)
    rw [replacedOk_writes]
    exact h.stale

theorem InStep.quiet (h : InStep env hs d) {r : HwmonRig} (hq : HwmonRig.Quiet d.rig r) : InStep env hs (d.move r) :=
  h.move hq.ledger fun w hw hattr => by
    rw [hq.wrote.since w hw] at hattr
    cases hattr

theorem InStep.persist (h : InStep env hs d) : InStep env hs (persist hs disk d) := by
  refine ⟨h.tracked.persist (fun _ => rfl) h.tracked.driven h.tracked.original _, ?_⟩
  show (!disk d.replaces) = !replacedOk (d.effects ++ _)
  simp

theorem InStep.retry (h : InStep env hs d) : InStep env hs (retryRecordIfFailed hs disk d) := by
  unfold retryRecordIfFailed
  split
  · exact h.persist
  · exact h

theorem since_write (b : Bus) (id : String) (ep : SysfsPath) (attr : Attr) (value : Nat) :
    b.since (b.write env id ep attr value).2 = [⟨b.tick, id, attr, value⟩] := Bus.since_of_append rfl

/-- The first take: what was read goes into the record before the switch is written. -/
theorem InStep.firstTake (h : InStep env hs d) {hd : PwmHeaderDescriptor} (hh : hd ∈ hs.list) {ep : SysfsPath}
    (hep : hd.enablePath = some ep) {e : LedgerEntry} (he : d.rig.ctrl.handback.get? hd.id = some e)
    (hnone : e.original = none) {t : Nat} (ht : d.rig.bus.tick = t + 3) {action : HandBack}
    (ha : action = HandBack.fromReading hd.chipName (env.read t ep) (env.read (t + 1) hd.pwmPath)) :
    InStep env hs ((noteTake hs disk d hd.id (some action)).move
      { (noteTake hs disk d hd.id (some action)).rig with
        bus := ((noteTake hs disk d hd.id (some action)).rig.bus.write env hd.id ep .enable pwmEnableManual).2 }) := by
  have hsince := @since_write env d.rig.bus hd.id ep .enable pwmEnableManual
  rw [ht] at hsince
  have hchanges : d.rig.ctrl.handback.takeChanges hd.id (some action) = true := by
    simp [HandBackLedger.takeChanges, he, hnone]
  have htracked := h.tracked.firstTake hh hep he hnone ha (disk d.replaces)
  have hnote : RecordedRig.noteTake hs disk d hd.id (some action) = RecordedRig.persist hs disk { d with rig := { d.rig with
      ctrl := { d.rig.ctrl with handback := d.rig.ctrl.handback.noteTake hd.id (some action) } } } := if_pos hchanges
  rw [hnote]
  refine ⟨?_, ?_⟩
  · show Tracked env hs _ (_ ++ List.map _ (d.rig.bus.since (d.rig.bus.write env hd.id ep .enable pwmEnableManual).2))
    rw [hsince]
    exact htracked
  · show (!disk d.replaces) = !replacedOk (_ ++ List.map _ _)
    rw [replacedOk_writes]
    simp [RecordedRig.persist]

/-- A header taken again keeps its original. -/
theorem InStep.noteTake (h : InStep env hs d) {id : String} {e : LedgerEntry} (he : d.rig.ctrl.handback.get? id = some e)
    (hsome : e.original ≠ none) :
    InStep env hs (noteTake hs disk d id none) ∧
      ∃ e', (noteTake hs disk d id none).rig.ctrl.handback.get? id = some e' ∧ e'.taken = true := by
  have hget : ∀ id', (d.rig.ctrl.handback.noteTake id none).get? id' =
      if id' = id then some { e with taken := true } else d.rig.ctrl.handback.get? id' := by
    intro id'
    unfold HandBackLedger.noteTake
    rw [he]
    simp [KMap.get?_insert]
  refine ⟨?_, { e with taken := true }, by simp [hget], rfl⟩
  unfold RecordedRig.noteTake
  dsimp only
  split
  · refine ⟨h.tracked.persist (HandBackLedger.noteTake_same fun e' he' => ?_) (fun id' hdr => ?_) (fun id' e' he' hte => ?_) _, ?_⟩
    · rw [he] at he'
      exact Option.some.inj he' ▸ hsome
    · obtain ⟨e', he', hte⟩ := h.tracked.driven id' hdr
      by_cases hid : id' = id
      · exact ⟨{ e with taken := true }, by simp [hget, hid], rfl⟩
      · exact ⟨e', by simp [hget, hid, he'], hte⟩
    · rw [hget] at he'
      split at he'
      · obtain rfl := Option.some.inj he'
        exact hsome
      · exact h.tracked.original id' e' he' hte
    · show (!disk d.replaces) = !replacedOk (d.effects ++ _)
      simp
  · next hno =>
    have hte : e.taken = true := by simpa [HandBackLedger.takeChanges, he, hsome] using hno
    rw [HandBackLedger.noteTake_eq_self he hte]
    exact h

theorem InStep.takeUnheld (h : InStep env hs d) {hd : PwmHeaderDescriptor} (hh : hd ∈ hs.list) :
    InStep env hs (takeUnheld env hs disk d hd).2 := by
  unfold RecordedRig.takeUnheld
  split
  · next hc =>
    have hen : hd.supportsEnable = true := (Bool.and_eq_true_iff.mp hc).2
    obtain ⟨e, he⟩ := Option.isSome_iff_exists.mp (h.tracked.tracks hd hh hen)
    unfold takeMode
    split
    · exact h
    · next ep hep =>
      have hmark : InStep env hs (d.move { d.rig with bus := ((HwmonRig.readOriginal env d.rig hd ep).2.check env).2 }) :=
        h.quiet ⟨(HwmonRig.readOriginal_wrote env d.rig hd ep).trans (Bus.wrote_check env _), rfl⟩
      dsimp only
      split
      · exact hmark
      · by_cases hnone : e.original = none
        · have hread : HwmonRig.readOriginal env d.rig hd ep =
              (some (HandBack.fromReading hd.chipName (env.read d.rig.bus.tick ep) (env.read (d.rig.bus.tick + 1) hd.pwmPath)),
                { d.rig.bus with tick := d.rig.bus.tick + 2 }) := by
            simp [HwmonRig.readOriginal, HandBackLedger.needsOriginal, he, hnone, Bus.read]
          rw [hread] at hmark ⊢
          exact hmark.firstTake hh hep he hnone rfl rfl
        · have hread : HwmonRig.readOriginal env d.rig hd ep = (none, d.rig.bus) := by
            simp [HwmonRig.readOriginal, HandBackLedger.needsOriginal, he, hnone]
          rw [hread] at hmark ⊢
          obtain ⟨hnote, htaken⟩ := @InStep.noteTake env hs disk _ hmark _ _ he hnone
          refine hnote.move rfl fun w hw _ => ?_
          rw [since_write] at hw
          obtain rfl := List.mem_singleton.mp hw
          exact htaken
  · exact h

end RecordedRig

end ControlOfc.Hwmon
