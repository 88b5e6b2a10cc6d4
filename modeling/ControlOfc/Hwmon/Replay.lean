import ControlOfc.Hwmon.RestoreAuto
/-! # The replay gives back what the daemon would have given back

The script and `hand_back` compare what a file shows in two ways, as text and as a byte; on what a driver
shows they agree (`shown_eq_digits`, `ge_shown`). So the script's hand-back of a line is `hand_back` of the
entry the line is about (`RestoreAuto.handBack_eq`), and a header's files do not see what is done to the
others'.
-/
namespace ControlOfc.Hwmon
open Pwm

/-! ## What a file shows -/

theorem isSpace_of_isDigit {c : Char} (h : c.isDigit = true) : Shell.isSpace c = false := by
  simp only [Char.isDigit, Bool.and_eq_true, decide_eq_true_eq, ge_iff_le, UInt32.le_iff_toNat_le] at h
  have hsp : c ≠ ' ' := by
    rintro rfl
    simp at h
  have htab : ¬ c ≤ '\r' := by
    have hzero : '0'.val.toNat = 48 := rfl
    have hcr : '\r'.val.toNat = 13 := rfl
    simp only [Char.le_def, UInt32.le_iff_toNat_le]
    omega
  simp [Shell.isSpace, hsp, htab]

namespace Reading

variable (r : Reading)

theorem strip_text : Shell.strip r.text = digits r.value := by
  have hblank : ∀ s : List Char, (∀ c ∈ s, Shell.isSpace c = true) → s.filter (fun c => !Shell.isSpace c) = [] := by
    intro s hs
    simpa [List.filter_eq_nil_iff] using hs
  have hdigits : (digits r.value).filter (fun c => !Shell.isSpace c) = digits r.value := by
    simp only [List.filter_eq_self, Bool.not_eq_true']
    exact fun c hc => isSpace_of_isDigit (digits_isDigit r.byte c hc)
  unfold Shell.strip text
  rw [List.filter_append, List.filter_append, hblank _ fun c hc => r.blank c (List.mem_append_left _ hc),
    hblank _ fun c hc => r.blank c (List.mem_append_right _ hc), hdigits]
  simp

theorem dropWhile_blank {s t : List Char} (hs : ∀ c ∈ s, Shell.isSpace c = true) (ht : ∀ c ∈ t, Shell.isSpace c = false) :
    (s ++ t).dropWhile Shell.isSpace = t := by
  rw [List.dropWhile_append_of_pos hs]
  cases t with
  | nil => rfl
  | cons c t => simp [ht c List.mem_cons_self]

theorem trim_text : trim r.text = digits r.value := by
  have hd : ∀ c ∈ digits r.value, Shell.isSpace c = false := fun c hc => isSpace_of_isDigit (digits_isDigit r.byte c hc)
  have hleft : r.text.dropWhile Shell.isSpace = digits r.value ++ r.after := by
    unfold text
    rw [List.dropWhile_append_of_pos fun c hc => r.blank c (List.mem_append_left _ hc)]
    obtain ⟨c, s, hc⟩ := List.exists_cons_of_ne_nil (digits_ne_nil r.byte)
    simp [hc, hd c (hc ▸ List.mem_cons_self)]
  unfold trim List.rdropWhile
  rw [hleft, List.reverse_append, dropWhile_blank (by simpa using fun c hc => r.blank c (List.mem_append_right _ hc))
    (by simpa using hd), List.reverse_reverse]

end Reading

theorem parseU8_digits {n : Nat} (hn : n ≤ 255) : Text.parseU8 (digits n) = some n := by
  obtain ⟨c, s, hc⟩ := List.exists_cons_of_ne_nil (digits_ne_nil hn)
  have hplus : c ≠ '+' := by
    rintro rfl
    have := digits_isDigit hn '+' (hc ▸ List.mem_cons_self)
    simp at this
  have hspec := digits_spec hn
  rw [hc] at hspec
  simp only [Text.parseU8, hc]
  split
  · next heq =>
    exact absurd (List.cons.inj heq).1 hplus
  · simp [hspec.1, hspec.2.1, hn]

theorem number_digits {n : Nat} (hn : n ≤ 255) : Shell.number (digits n) = some n := by
  simp [Shell.number, digits_spec hn]

/-- A raw duty is full scale in percent just from 254 on. -/
theorem rawToPercent_eq_100 {raw : Nat} (h : raw ≤ 255) : rawToPercent raw = 100 ↔ 254 ≤ raw := by
  have hlt : (raw * 100 + 127) / 255 < 256 := by omega
  unfold rawToPercent
  rw [Nat.mod_eq_of_lt hlt]
  omega

namespace Tree

variable {δ : Type} (D : Driver δ)

/-- The byte a file shows. -/
def shows (w : Tree δ) (path : List Char) : Option Nat :=
  (D.read (w.state (fileOf path).1) (fileOf path).2).map Reading.value

theorem shows_le {D : Driver δ} {w : Tree δ} {path : List Char} {n : Nat} (h : w.shows D path = some n) : n ≤ 255 := by
  obtain ⟨r, -, rfl⟩ := Option.map_eq_some_iff.mp h
  exact r.byte

theorem files_read (e : LedgerEntry) (w : Tree δ) :
    (files D e).read w .enable = (w.shows D e.enablePath.text, w) ∧
    (files D e).read w .duty = (w.shows D e.pwmPath.text, w) := by
  have h : ∀ path, ((w.read D path).bind fun s => Text.parseU8 (trim s)) = w.shows D path := by
    intro path
    unfold read shows
    cases D.read (w.state (fileOf path).1) (fileOf path).2 with
    | none => rfl
    | some r => simp [Reading.trim_text, parseU8_digits r.byte]
  simp [files, h]

end Tree

namespace RestoreAuto

variable {δ : Type} (D : Driver δ)

theorem readValue_eq (w : Tree δ) (path : List Char) : readValue D w path = (w.shows D path).map digits := by
  unfold readValue Tree.read Tree.shows
  cases D.read (w.state (fileOf path).1) (fileOf path).2 with
  | none => rfl
  | some r => simp [Reading.strip_text]

/-- The script's comparison of a file with a byte is the daemon's. -/
theorem shown_eq_digits (w : Tree δ) (path : List Char) {n : Nat} (hn : n ≤ 255) :
    (shown D w path == digits n) = decide (w.shows D path = some n) := by
  unfold shown
  rw [readValue_eq]
  cases h : w.shows D path with
  | none =>
    have hne := digits_ne_nil hn
    simpa using hne.symm
  | some m => exact Bool.eq_iff_iff.mpr (by simp [digits_inj (Tree.shows_le h) hn])

theorem ge_shown (w : Tree δ) (path : List Char) (n : Nat) :
    Shell.ge (shown D w path) n = (w.shows D path).any (n ≤ ·) := by
  unfold shown
  rw [readValue_eq]
  cases h : w.shows D path with
  | none => rfl
  | some m => simp [Shell.ge, number_digits (Tree.shows_le h)]

/-- What `echo` stores is what the daemon writes. -/
theorem echo_digits (w : Tree δ) {n : Nat} (hn : n ≤ 255) (path : List Char) :
    echo D w (digits n) path = w.write D path (digits n) := by
  have hlast : (digits n).getLast? ≠ some '\n' := by
    intro h
    have := digits_isDigit hn _ (List.mem_of_getLast? h)
    simp at this
  have h₁ : stored (digits n ++ ['\n']) = digits n := by simp [stored]
  have h₂ : stored (digits n) = digits n := by simp [stored, hlast]
  simp only [echo, Tree.write, h₁, h₂]

end RestoreAuto

/-! ## Entries the script acts on -/

/-- The bytes of an action are `u8`. -/
def HandBack.IsByte : HandBack → Prop
  | .mode n | .writeOnlyMode n | .manual n => n ≤ 255
  | .fullSpeed => True

/-- What discovery makes of a header: an absolute path below the sysfs root that ends in `/pwmN`, and the
enable file next to it. -/
structure Replayable (root : List Char) (e : LedgerEntry) : Prop where
  absolute : e.pwmPath.text.head? = some '/'
  under : root ++ ['/'] <+: e.pwmPath.text
  pwmFile : ∃ stem n, e.pwmPath.text = stem ++ ("/pwm".toList ++ n) ∧ Text.isDigits n = true
  enable : e.enablePath.text = e.pwmPath.text ++ "_enable".toList
  clean : hasSeparator e.pwmPath.text = false
  byte : e.action.IsByte

namespace Replayable

variable {root : List Char} {e : LedgerEntry}

theorem fileOf_enable (h : Replayable root e) : fileOf e.enablePath.text = (e.pwmPath.text, .enable) := by
  have hsuf : "_enable".toList.isSuffixOf e.enablePath.text = true := by
    rw [List.isSuffixOf_iff_suffix, h.enable]
    exact List.suffix_append ..
  have hlen : e.enablePath.text.length - 7 = e.pwmPath.text.length := by simp [h.enable]
  simp only [fileOf, hsuf, if_true, hlen]
  rw [h.enable, List.take_left]

/-- The name of a duty file ends in a digit. -/
theorem getLast_isDigit (h : Replayable root e) : ∃ c, e.pwmPath.text.getLast? = some c ∧ c.isDigit = true := by
  obtain ⟨stem, n, hpath, hn⟩ := h.pwmFile
  simp only [Text.isDigits, Bool.and_eq_true, Bool.not_eq_true', List.isEmpty_eq_false_iff, List.all_eq_true] at hn
  refine ⟨n.getLast hn.1, ?_, hn.2 _ (List.getLast_mem hn.1)⟩
  rw [hpath, ← List.append_assoc, List.getLast?_append_of_ne_nil _ hn.1, List.getLast?_eq_getLast_of_ne_nil hn.1]

theorem fileOf_pwm (h : Replayable root e) : fileOf e.pwmPath.text = (e.pwmPath.text, .duty) := by
  obtain ⟨c, hc, hd⟩ := h.getLast_isDigit
  have hsuf : "_enable".toList.isSuffixOf e.pwmPath.text = false := by
    rw [← Bool.not_eq_true, List.isSuffixOf_iff_suffix]
    rintro ⟨s, hs⟩
    rw [← hs] at hc
    simp at hc
    subst hc
    simp at hd
  simp only [fileOf, hsuf, Bool.false_eq_true, if_false]

theorem isPwmFile (h : Replayable root e) : RestoreAuto.isPwmFile e.pwmPath.text = true := by
  obtain ⟨stem, n, hpath, hn⟩ := h.pwmFile
  simp only [Text.isDigits, Bool.and_eq_true, Bool.not_eq_true', List.isEmpty_eq_false_iff, List.all_eq_true] at hn
  have hstem : e.pwmPath.text.rdropWhile Char.isDigit = stem ++ "/pwm".toList := by
    unfold List.rdropWhile
    rw [hpath, ← List.append_assoc, List.reverse_append, List.dropWhile_append_of_pos (by simpa [Text.isAsciiDigit] using hn.2)]
    simp
  have hlen := List.length_pos_of_ne_nil hn.1
  unfold RestoreAuto.isPwmFile
  simp only [hstem, Bool.and_eq_true, decide_eq_true_eq, List.isSuffixOf_iff_suffix]
  refine ⟨?_, List.suffix_append ..⟩
  rw [hpath]
  simp
  omega

end Replayable

/-! ## One hand-back -/

namespace RestoreAuto

variable {δ : Type} (D : Driver δ) {root : List Char} {e : LedgerEntry}

theorem files_write (w : Tree δ) {n : Nat} (hn : n ≤ 255) :
    (Tree.files D e).write w .enable n = echo D w (digits n) e.enablePath.text ∧
    (Tree.files D e).write w .duty n = echo D w (digits n) e.pwmPath.text :=
  ⟨(echo_digits D w hn _).symm, (echo_digits D w hn _).symm⟩

theorem manualFullSpeed_eq (w : Tree δ) :
    manualFullSpeed D w e.enablePath.text e.pwmPath.text =
      (((Tree.files D e).manualFullSpeed w).1.released, ((Tree.files D e).manualFullSpeed w).2) := by
  have h1 : ['1'] = digits 1 := rfl
  have h255 : ['2', '5', '5'] = digits 255 := rfl
  unfold manualFullSpeed HeaderFiles.manualFullSpeed
  simp only [h1, h255, (files_write D (e := e) _ (by decide : 1 ≤ 255)).1, (files_write D (e := e) _ (by decide : 255 ≤ 255)).2,
    (Tree.files_read D e _).2]
  split
  · split
    · rw [readValue_eq]
      cases hs : Tree.shows D (echo D (echo D w (digits 1) e.enablePath.text).2 (digits 255) e.pwmPath.text).2 e.pwmPath.text with
      | none => rfl
      | some n =>
        have hge : Shell.ge (digits n) 190 = decide (190 ≤ n) := by simp [Shell.ge, number_digits (Tree.shows_le hs)]
        by_cases hn : 190 ≤ n <;> simp [hge, hn, fullSpeedMinRaw, HandBackOutcome.released]
    · rfl
  · rfl

theorem fullSpeed_eq (w : Tree δ) :
    fullSpeed D w e.enablePath.text e.pwmPath.text =
      (((Tree.files D e).fullSpeed w).1.released, ((Tree.files D e).fullSpeed w).2) := by
  have h0 : ['0'] = digits 0 := rfl
  unfold fullSpeed HeaderFiles.fullSpeed
  simp only [h0, (files_write D (e := e) _ (by decide : 0 ≤ 255)).1, shown_eq_digits D _ _ (by decide : 0 ≤ 255),
    (Tree.files_read D e _).1, manualFullSpeed_eq D (e := e)]
  cases (echo D w (digits 0) e.enablePath.text).1 with
  | false => rfl
  | true =>
    by_cases hz : Tree.shows D (echo D w (digits 0) e.enablePath.text).2 e.enablePath.text = some 0
    · simp [hz, HandBackOutcome.released]
    · simp [hz]

theorem manual_eq (w : Tree δ) {raw : Nat} (hraw : raw ≤ 255) :
    (shown D w e.enablePath.text == ['1'] ||
        (shown D w e.enablePath.text == ['0'] && Shell.ge (digits raw) 254 && Shell.ge (shown D w e.pwmPath.text) 254), w) =
      (Tree.files D e).manualConfirmed w raw := by
  have h0 : ['0'] = digits 0 := rfl
  have h1 : ['1'] = digits 1 := rfl
  have hge : Shell.ge (digits raw) 254 = decide (254 ≤ raw) := by simp [Shell.ge, number_digits hraw]
  unfold HeaderFiles.manualConfirmed
  simp only [h0, h1, shown_eq_digits D w _ (by decide : 0 ≤ 255), shown_eq_digits D w _ (by decide : 1 ≤ 255), hge, ge_shown,
    (Tree.files_read D e _).1, (Tree.files_read D e _).2]
  by_cases hone : w.shows D e.enablePath.text = some 1
  · simp [hone]
  · by_cases hzero : w.shows D e.enablePath.text = some 0
    · cases hd : w.shows D e.pwmPath.text with
      | none => simp [hzero, isFullSpeedAlias]
      | some d =>
        have hd255 := Tree.shows_le hd
        simp [hzero, isFullSpeedAlias, ← rawToPercent_eq_100 hraw, ← rawToPercent_eq_100 hd255]
        rfl
    · simp [hone, hzero]

theorem restore_eq (w : Tree δ) (hb : e.action.IsByte) :
    restore D w e.enablePath.text e.pwmPath.text e.action.recordColumns.1 e.action.recordColumns.2 =
      (Tree.files D e).restore w e.action := by
  have hwm : kindWriteOnly ≠ kindMode := by decide
  have hmm : kindManual ≠ kindMode := by decide
  have hmw : kindManual ≠ kindWriteOnly := by decide
  have hfull : kindFull ≠ kindMode ∧ kindFull ≠ kindWriteOnly ∧ kindFull ≠ kindManual := by decide
  unfold restore HeaderFiles.restore
  cases ha : e.action with
  | mode value =>
    rw [ha] at hb
    have hv : value ≤ 255 := hb
    simp only [HandBack.recordColumns, if_true, (files_write D (e := e) _ hv).1, shown_eq_digits D _ _ hv,
      (Tree.files_read D e _).1]
    cases (echo D w (digits value) e.enablePath.text).1 <;> simp
  | writeOnlyMode value =>
    rw [ha] at hb
    have hv : value ≤ 255 := hb
    simp only [HandBack.recordColumns, if_true, hwm, if_false, (files_write D (e := e) _ hv).1]
  | manual raw =>
    rw [ha] at hb
    have hv : raw ≤ 255 := hb
    have h1 : ['1'] = digits 1 := rfl
    simp only [HandBack.recordColumns, if_true, hmm, hmw, if_false, (files_write D (e := e) _ hv).2,
      (files_write D (e := e) _ (by decide : 1 ≤ 255)).1, ← manual_eq D _ hv, ← h1]
    split
    · cases (echo D (echo D w ['1'] e.enablePath.text).2 (digits raw) e.pwmPath.text).1 <;> rfl
    · rfl
  | fullSpeed =>
    simp only [HandBack.recordColumns, hfull, if_false]

/-- The script's hand-back of an entry's line is the daemon's of the entry. -/
theorem handBack_eq (w : Tree δ) (hb : e.action.IsByte) :
    handBack D w e.enablePath.text e.pwmPath.text e.action.recordColumns.1 e.action.recordColumns.2 =
      (((Tree.files D e).handBack w e.action).1.released, ((Tree.files D e).handBack w e.action).2) := by
  unfold handBack HeaderFiles.handBack
  simp only [restore_eq D w hb, fullSpeed_eq]
  cases h : ((Tree.files D e).restore w e.action).1 with
  | true => exact Prod.ext h rfl
  | false => rfl

end RestoreAuto

/-! ## Headers apart -/

/-- The two trees hold the same in one header's files, and have had the same written to them. -/
def Agree {δ : Type} (header : List Char) (w v : Tree δ) : Prop :=
  w.state header = v.state header ∧ w.writesTo header = v.writesTo header

namespace Agree

variable {δ : Type} {D : Driver δ} {root : List Char} {e : LedgerEntry} {header path : List Char} {w v u : Tree δ}

theorem refl (header : List Char) (w : Tree δ) : Agree header w w := ⟨rfl, rfl⟩

theorem symm (h : Agree header w v) : Agree header v w := ⟨h.1.symm, h.2.symm⟩

theorem trans (h : Agree header w v) (h' : Agree header v u) : Agree header w u := ⟨h.1.trans h'.1, h.2.trans h'.2⟩

/-- A write to the header's own file, on both. -/
theorem write (h : Agree header w v) (hp : (fileOf path).1 = header) (text : List Char) :
    (w.write D path text).1 = (v.write D path text).1 ∧ Agree header (w.write D path text).2 (v.write D path text).2 := by
  have hs : w.state (fileOf path).1 = v.state (fileOf path).1 := by
    rw [hp]
    exact h.1
  unfold Tree.write
  dsimp only
  rw [hs]
  refine ⟨rfl, ?_, ?_⟩
  · simp [hp]
  · have hl := h.2
    simp only [Tree.writesTo] at hl
    simp [Tree.writesTo, hl]

/-- A write to another header's file. -/
theorem write_other (hp : (fileOf path).1 ≠ header) (text : List Char) : Agree header (w.write D path text).2 w := by
  constructor
  · exact Function.update_of_ne hp.symm _ _
  · simp [Tree.write, Tree.writesTo, hp]

theorem sim (h : Replayable root e) :
    HeaderFiles.Sim (Tree.files D e) (Tree.files D e) (Agree (δ := δ) e.pwmPath.text) := by
  have henable := congrArg Prod.fst h.fileOf_enable
  have hpwm := congrArg Prod.fst h.fileOf_pwm
  constructor
  · intro w v hwv attr value
    cases attr with
    | enable => exact hwv.write henable _
    | duty => exact hwv.write hpwm _
  · intro w v hwv attr
    have hshow : ∀ path, (fileOf path).1 = e.pwmPath.text → w.shows D path = v.shows D path := by
      intro path hp
      unfold Tree.shows
      rw [hp, hwv.1]
    cases attr with
    | enable =>
      rw [(Tree.files_read D e w).1, (Tree.files_read D e v).1, hshow _ henable]
      exact ⟨rfl, hwv⟩
    | duty =>
      rw [(Tree.files_read D e w).2, (Tree.files_read D e v).2, hshow _ hpwm]
      exact ⟨rfl, hwv⟩

/-- A hand-back does not reach another header's files. -/
theorem handBack_other (h : Replayable root e) (hne : e.pwmPath.text ≠ header) (w : Tree δ) (action : HandBack) :
    Agree header ((Tree.files D e).handBack w action).2 w := by
  have henable := congrArg Prod.fst h.fileOf_enable
  have hpwm := congrArg Prod.fst h.fileOf_pwm
  refine HeaderFiles.handBack_keeps (P := fun v => Agree header v w) (fun v hv attr value => ?_) (fun v hv attr => ?_)
    (refl header w) action
  · cases attr with
    | enable => exact (write_other (by rw [henable]; exact hne) _).trans hv
    | duty => exact (write_other (by rw [hpwm]; exact hne) _).trans hv
  · cases attr <;> exact hv

theorem isPresent (h : Replayable root e) (hwv : Agree e.pwmPath.text w v) :
    w.isPresent D e.enablePath.text = v.isPresent D e.enablePath.text := by
  unfold Tree.isPresent
  rw [congrArg Prod.fst h.fileOf_enable, hwv.1]

end Agree

/-! ## The loop -/

namespace RestoreAuto

variable {δ : Type} {D : Driver δ} {root : List Char} {e : LedgerEntry}

/-- A kind with a byte in plain decimal is replayed as it is. -/
theorem byte_columns {kind : List Char} {n : Nat} (hk : kind = kindMode ∨ kind = kindWriteOnly ∨ kind = kindManual)
    (hn : n ≤ 255) :
    checkedKind kind (digits n) = some kind ∧ kind ≠ [] ∧ '\t' ∉ kind ∧ '\n' ∉ kind ∧ '\t' ∉ digits n ∧ '\n' ∉ digits n := by
  obtain ⟨hd, -, hlen⟩ := digits_spec hn
  have hchecked : checkedKind kind (digits n) = some kind := by
    simp [checkedKind, hk, hd, hlen, Shell.le, number_digits hn, hn]
  have hkind : kind ≠ [] ∧ '\t' ∉ kind ∧ '\n' ∉ kind := by
    rcases hk with rfl | rfl | rfl <;> decide
  refine ⟨hchecked, hkind.1, hkind.2.1, hkind.2.2, fun hc => ?_, fun hc => ?_⟩
  · simpa using digits_isDigit hn _ hc
  · simpa using digits_isDigit hn _ hc

/-- What the columns of an action are: no separators, and a kind the script knows. -/
theorem columns_spec {a : HandBack} (h : a.IsByte) :
    checkedKind a.recordColumns.1 a.recordColumns.2 = some a.recordColumns.1 ∧ a.recordColumns.1 ≠ [] ∧
      '\t' ∉ a.recordColumns.1 ∧ '\n' ∉ a.recordColumns.1 ∧ '\t' ∉ a.recordColumns.2 ∧ '\n' ∉ a.recordColumns.2 := by
  cases a with
  | mode n => exact byte_columns (.inl rfl) h
  | writeOnlyMode n => exact byte_columns (.inr (.inl rfl)) h
  | manual n => exact byte_columns (.inr (.inr rfl)) h
  | fullSpeed => decide

theorem not_mem_of_clean {path : List Char} (h : hasSeparator path = false) : '\t' ∉ path ∧ '\n' ∉ path := by
  simp only [hasSeparator, List.any_eq_false, Bool.or_eq_true, beq_iff_eq, not_or] at h
  exact ⟨fun hc => (h _ hc).1 rfl, fun hc => (h _ hc).2 rfl⟩

theorem clean_enable (h : Replayable root e) : hasSeparator e.enablePath.text = false := by
  have hsuf : hasSeparator "_enable".toList = false := by decide
  have hc := h.clean
  unfold hasSeparator at hc hsuf ⊢
  rw [h.enable, List.any_append, hc, hsuf]
  rfl

theorem newline_not_mem_line (h : Replayable root e) : '\n' ∉ e.line := by
  obtain ⟨-, -, -, hk, -, hv⟩ := columns_spec h.byte
  simp [LedgerEntry.line, (not_mem_of_clean h.clean).2, (not_mem_of_clean (clean_enable h)).2, hk, hv]

/-- The script splits a line into the entry it was written for. -/
theorem read4_line (h : Replayable root e) :
    Shell.read4 '\t' e.line =
      (e.enablePath.text, e.pwmPath.text, e.action.recordColumns.1, e.action.recordColumns.2) := by
  obtain ⟨-, hne, ht, -, hv, -⟩ := columns_spec h.byte
  have hpwm : e.pwmPath.text ≠ [] := by
    intro hnil
    simpa [hnil] using h.absolute
  have henable : e.enablePath.text ≠ [] := by
    rw [h.enable]
    simp [hpwm]
  exact Shell.read4_join (not_mem_of_clean (clean_enable h)).1 (not_mem_of_clean h.clean).1 ht hv henable hpwm hne

/-- The loop's body on a line of the record. -/
theorem replayLine_line (h : Replayable root e) (r : Replayed δ) :
    replayLine D root r e.line =
      if r.tree.isPresent D e.enablePath.text then
        ⟨((Tree.files D e).handBack r.tree e.action).2,
          if ((Tree.files D e).handBack r.tree e.action).1.released then r.reported
          else r.reported ++ [e.enablePath.text]⟩
      else r := by
  have hhead : e.enablePath.text.head? = some '/' := by
    rw [h.enable, List.head?_append, h.absolute]
    rfl
  have hcomment : ¬ (e.enablePath.text = [] ∨ e.enablePath.text.head? = some '#') := by
    rw [hhead]
    rintro (hnil | hhash)
    · simp [hnil] at hhead
    · cases hhash
  have hunder : (root ++ ['/']).isPrefixOf e.pwmPath.text = true := List.isPrefixOf_iff_prefix.mpr h.under
  unfold replayLine
  simp only [read4_line h, hcomment, hunder, h.isPwmFile, (columns_spec h.byte).1, if_false, Bool.not_true, Bool.false_eq_true,
    h.enable.symm, ne_eq, not_true_eq_false, give, handBack_eq D r.tree h.byte]

/-- What the loop has done after the lines of some entries. -/
structure GivenBack (D : Driver δ) (es : List LedgerEntry) (r out : Replayed δ) : Prop where
  others : ∀ k, (∀ e ∈ es, e.pwmPath.text ≠ k) → Agree k out.tree r.tree
  given : ∀ e ∈ es, r.tree.isPresent D e.enablePath.text = true →
    Agree e.pwmPath.text out.tree ((Tree.files D e).handBack r.tree e.action).2
  missing : ∀ e ∈ es, r.tree.isPresent D e.enablePath.text = false → Agree e.pwmPath.text out.tree r.tree
  reported : ∃ more, out.reported = r.reported ++ more ∧ ∀ p, p ∈ more ↔
    ∃ e ∈ es, p = e.enablePath.text ∧ r.tree.isPresent D e.enablePath.text = true ∧
      ((Tree.files D e).handBack r.tree e.action).1.released = false

theorem givenBack_lines :
    ∀ (es : List LedgerEntry), (∀ e ∈ es, Replayable root e) → (es.map (·.pwmPath.text)).Nodup →
      ∀ r : Replayed δ, GivenBack D es r ((es.map LedgerEntry.line).foldl (replayLine D root) r) := by
  intro es
  induction es with
  | nil => exact fun _ _ r => ⟨fun k _ => .refl k _, nofun, nofun, [], by simp, by simp⟩
  | cons e es ih =>
    intro hall hnd r
    obtain ⟨hnot, hnd⟩ := List.nodup_cons.mp hnd
    have he := hall e List.mem_cons_self
    have hes : ∀ e' ∈ es, Replayable root e' := fun e' he' => hall e' (List.mem_cons_of_mem _ he')
    have hne : ∀ e' ∈ es, e.pwmPath.text ≠ e'.pwmPath.text := fun e' he' hk => hnot (List.mem_map.mpr ⟨e', he', hk.symm⟩)
    have hline := replayLine_line (D := D) he r
    rw [List.map_cons, List.foldl_cons]
    generalize replayLine D root r e.line = first at hline ⊢
    have hpresent : r.tree.isPresent D e.enablePath.text = true →
        first.tree = ((Tree.files D e).handBack r.tree e.action).2 ∧
        first.reported = if ((Tree.files D e).handBack r.tree e.action).1.released then r.reported
          else r.reported ++ [e.enablePath.text] := by
      intro hp
      rw [hline, if_pos hp]
      exact ⟨rfl, rfl⟩
    have habsent : r.tree.isPresent D e.enablePath.text = false → first = r := by
      intro hp
      rw [hline, hp]
      rfl
    obtain ⟨hothers, hgiven, hmissing, more, hrep, hmore⟩ := ih hes hnd first
    have hrest := hothers e.pwmPath.text fun e' he' hk => hne e' he' hk.symm
    have hapart : ∀ k, e.pwmPath.text ≠ k → Agree k first.tree r.tree := by
      intro k hk
      cases hp : r.tree.isPresent D e.enablePath.text with
      | true =>
        rw [(hpresent hp).1]
        exact Agree.handBack_other he hk _ _
      | false =>
        rw [habsent hp]
        exact .refl k _
    have hsame : ∀ e' ∈ es, first.tree.isPresent D e'.enablePath.text = r.tree.isPresent D e'.enablePath.text ∧
        ((Tree.files D e').handBack first.tree e'.action).1 = ((Tree.files D e').handBack r.tree e'.action).1 ∧
        Agree e'.pwmPath.text ((Tree.files D e').handBack first.tree e'.action).2
          ((Tree.files D e').handBack r.tree e'.action).2 := by
      intro e' he'
      have hag := hapart _ (hne e' he')
      exact ⟨hag.isPresent (hes e' he'), (Agree.sim (hes e' he')).handBack hag e'.action⟩
    refine ⟨fun k hk => ?_, fun e' he' hp => ?_, fun e' he' hp => ?_, ?_⟩
    · exact (hothers k fun e' he' => hk e' (List.mem_cons_of_mem _ he')).trans (hapart k (hk e List.mem_cons_self))
    · rcases List.mem_cons.mp he' with rfl | he'
      · rwa [(hpresent hp).1] at hrest
      · exact (hgiven e' he' ((hsame e' he').1.trans hp)).trans (hsame e' he').2.2
    · rcases List.mem_cons.mp he' with rfl | he'
      · rwa [habsent hp] at hrest ⊢
      · exact (hmissing e' he' ((hsame e' he').1.trans hp)).trans (hapart _ (hne e' he'))
    · have hmore' : ∀ p, p ∈ more ↔ ∃ e' ∈ es, p = e'.enablePath.text ∧ r.tree.isPresent D e'.enablePath.text = true ∧
          ((Tree.files D e').handBack r.tree e'.action).1.released = false := by
        intro p
        rw [hmore p]
        refine exists_congr fun e' => and_congr_right fun he' => ?_
        rw [(hsame e' he').1, (hsame e' he').2.1]
      by_cases hf : r.tree.isPresent D e.enablePath.text = true ∧
          ((Tree.files D e).handBack r.tree e.action).1.released = false
      · refine ⟨e.enablePath.text :: more, ?_, fun p => ?_⟩
        · rw [hrep, (hpresent hf.1).2, hf.2]
          simp
        · simp [hmore' p, hf]
      · have hkeep : first.reported = r.reported := by
          cases hp : r.tree.isPresent D e.enablePath.text with
          | true =>
            have hrel : ((Tree.files D e).handBack r.tree e.action).1.released = true := by
              cases hr : ((Tree.files D e).handBack r.tree e.action).1.released with
              | true => rfl
              | false => exact absurd ⟨hp, hr⟩ hf
            rw [(hpresent hp).2, hrel]
            rfl
          | false => rw [habsent hp]
        refine ⟨more, by rw [hrep, hkeep], fun p => ?_⟩
        rw [hmore' p]
        constructor
        · rintro ⟨e', he', h⟩
          exact ⟨e', List.mem_cons_of_mem _ he', h⟩
        · rintro ⟨e', he', rfl, h⟩
          rcases List.mem_cons.mp he' with rfl | he'
          · exact absurd h hf
          · exact ⟨e', he', rfl, h⟩

/-! ## The whole record -/

/-- A comment is skipped. -/
theorem replayLine_comment (r : Replayed δ) (text : List Char) : replayLine D root r ('#' :: text) = r := by
  have hhead : (Shell.read4 '\t' ('#' :: text)).1.head? = some '#' := Shell.read4_head (by decide) text
  unfold replayLine
  simp only [hhead, or_true, if_true]

theorem replay_record {entries : List LedgerEntry} (hall : ∀ e ∈ entries, Replayable root e) (w : Tree δ) :
    replay D root w (renderRecord entries) = ((recorded entries).map LedgerEntry.line).foldl (replayLine D root) ⟨w, []⟩ := by
  have hheader : '\n' ∉ recordHeader := by decide
  have hrows : ∀ e ∈ recorded entries, '\n' ∉ LedgerEntry.line e :=
    fun e he => newline_not_mem_line (hall e (mem_recorded.mp he).1.1)
  unfold replay renderRecord
  rw [Shell.lines_line hheader, Shell.lines_table _ _ hrows, List.foldl_cons]
  rw [recordHeader, replayLine_comment]

/-- A header whose mode switch has gone takes no write of a hand-back. -/
theorem handBack_missing (h : Replayable root e) {w : Tree δ} (hp : w.isPresent D e.enablePath.text = false) :
    ((Tree.files D e).handBack w e.action).1 = .failed := by
  have hgone : ∀ v : Tree δ, v.isPresent D e.enablePath.text = false → ∀ n,
      ((Tree.files D e).write v .enable n).1 = false ∧
      ((Tree.files D e).write v .enable n).2.isPresent D e.enablePath.text = false := by
    intro v hv n
    have hwrite := D.gone _ hv
    unfold Tree.isPresent at hv ⊢
    simp only [Tree.files, Tree.write]
    rw [h.fileOf_enable] at hv hwrite ⊢
    simp [hwrite, hv]
  have hfull : ∀ v : Tree δ, v.isPresent D e.enablePath.text = false → ((Tree.files D e).fullSpeed v).1 = .failed := by
    intro v hv
    obtain ⟨h0, hv0⟩ := hgone v hv 0
    obtain ⟨h1, -⟩ := hgone _ hv0 1
    simp [HeaderFiles.fullSpeed, HeaderFiles.manualFullSpeed, h0, h1]
  unfold HeaderFiles.handBack HeaderFiles.restore
  cases e.action with
  | mode value => simp [hgone w hp value, hfull]
  | writeOnlyMode value => simp [hgone w hp value, hfull]
  | manual raw => simp [hgone w hp 1, hfull]
  | fullSpeed => simp [hfull w hp]

theorem released_eq_false (o : HandBackOutcome) : o.released = false ↔ o = .failed := by
  cases o <;> simp [HandBackOutcome.released]

end RestoreAuto

open RestoreAuto in
/-- Rendering a ledger and replaying the record gives each taken header with its mode switch exactly what
`hand_back` would, and reports it exactly if that fails; a taken header whose mode switch has gone is left
alone and not reported, where `hand_back` fails; and nothing else is touched or reported. -/
theorem replay_refines {δ : Type} (D : Driver δ) (root : List Char) (entries : List LedgerEntry) (w : Tree δ)
    (hall : ∀ e ∈ entries, Replayable root e) (hdistinct : (entries.map (·.pwmPath.text)).Nodup) :
    let out := replay D root w (renderRecord entries)
    (∀ e ∈ entries, e.taken = true → w.isPresent D e.enablePath.text = true →
      out.tree.writesTo e.pwmPath.text = ((Tree.files D e).handBack w e.action).2.writesTo e.pwmPath.text ∧
      out.tree.state e.pwmPath.text = ((Tree.files D e).handBack w e.action).2.state e.pwmPath.text ∧
      (e.enablePath.text ∈ out.reported ↔ ((Tree.files D e).handBack w e.action).1 = .failed)) ∧
    (∀ e ∈ entries, e.taken = true → w.isPresent D e.enablePath.text = false →
      out.tree.writesTo e.pwmPath.text = w.writesTo e.pwmPath.text ∧ out.tree.state e.pwmPath.text = w.state e.pwmPath.text ∧
      e.enablePath.text ∉ out.reported ∧ ((Tree.files D e).handBack w e.action).1 = .failed) ∧
    (∀ k, (∀ e ∈ entries, e.taken = true → e.pwmPath.text ≠ k) →
      out.tree.writesTo k = w.writesTo k ∧ out.tree.state k = w.state k) ∧
    ∀ p ∈ out.reported, ∃ e ∈ entries, e.taken = true ∧ p = e.enablePath.text := by
  intro out
  have hrecorded : ∀ e, e ∈ recorded entries ↔ e ∈ entries ∧ e.taken = true := by
    intro e
    rw [mem_recorded]
    exact and_iff_left_of_imp fun h => ⟨clean_enable (hall e h.1), (hall e h.1).clean⟩
  have hgb : GivenBack D (recorded entries) ⟨w, []⟩ out := by
    have hout : out = ((recorded entries).map LedgerEntry.line).foldl (replayLine D root) ⟨w, []⟩ := replay_record hall w
    rw [hout]
    exact givenBack_lines _ (fun e he => hall e ((hrecorded e).mp he).1) (nodup_recorded hdistinct) _
  obtain ⟨hothers, hgiven, hmissing, more, hrep, hmore⟩ := hgb
  rw [List.nil_append] at hrep
  -- distinct headers have distinct enable files
  have hsame : ∀ e ∈ recorded entries, ∀ e' ∈ recorded entries, e.enablePath.text = e'.enablePath.text → e = e' := by
    intro e he e' he' heq
    rw [(hall e ((hrecorded e).mp he).1).enable, (hall e' ((hrecorded e').mp he').1).enable, List.append_left_inj] at heq
    exact List.inj_on_of_nodup_map (nodup_recorded hdistinct) he he' heq
  refine ⟨fun e he ht hp => ?_, fun e he ht hp => ?_, fun k hk => ?_, fun p hp => ?_⟩
  · have hmem := (hrecorded e).mpr ⟨he, ht⟩
    obtain ⟨hs, hw⟩ := hgiven e hmem hp
    refine ⟨hw, hs, ?_⟩
    rw [hrep, hmore, ← released_eq_false]
    constructor
    · rintro ⟨e', he', heq, -, hf⟩
      rwa [hsame e hmem e' he' heq]
    · exact fun hf => ⟨e, hmem, rfl, hp, hf⟩
  · have hmem := (hrecorded e).mpr ⟨he, ht⟩
    obtain ⟨hs, hw⟩ := hmissing e hmem hp
    refine ⟨hw, hs, ?_, handBack_missing (hall e he) hp⟩
    rw [hrep, hmore]
    rintro ⟨e', he', heq, hp', -⟩
    obtain rfl := hsame e hmem e' he' heq
    exact absurd (hp.symm.trans hp') (by decide)
  · obtain ⟨hs, hw⟩ := hothers k fun e he => hk e ((hrecorded e).mp he).1 ((hrecorded e).mp he).2
    exact ⟨hw, hs⟩
  · rw [hrep, hmore] at hp
    obtain ⟨e, he, rfl, -⟩ := hp
    exact ⟨e, ((hrecorded e).mp he).1, ((hrecorded e).mp he).2, rfl⟩

/-! ## A header on files that store what they are given -/

/-- Files that hold a mode and a duty, or none at all. -/
def storing : Driver (Option (Fin 256 × Fin 256)) where
  write s attr text :=
    match s, Text.parseU8 text with
    | some (mode, duty), some n =>
      (true, some (match attr with | .enable => (Fin.ofNat 256 n, duty) | .duty => (mode, Fin.ofNat 256 n)))
    | _, _ => (false, s)
  read s attr := s.map fun (mode, duty) =>
    let value : Fin 256 := match attr with | .enable => mode | .duty => duty
    ⟨[], value, ['\n'], Nat.le_of_lt_succ value.isLt, by simp [Shell.isSpace]⟩
  present := Option.isSome
  gone := by
    intro s hs text
    cases s with
    | none => rfl
    | some _ => simp at hs

/-- A header the daemon took from mode 2. -/
def heldHeader : LedgerEntry :=
  ⟨⟨"/sys/class/hwmon/hwmon0", "pwm1_enable"⟩, ⟨"/sys/class/hwmon/hwmon0", "pwm1"⟩, some (.mode 2), true⟩

theorem heldHeader_replayable : Replayable "/sys".toList heldHeader where
  absolute := by decide
  under := by decide
  pwmFile := ⟨"/sys/class/hwmon/hwmon0".toList, ['1'], by decide⟩
  enable := by decide
  clean := by decide
  byte := show 2 ≤ 255 by decide

theorem replay_refines_heldHeader :
    (RestoreAuto.replay storing "/sys".toList ⟨fun _ => some (1, 100), []⟩ (renderRecord [heldHeader])).tree.state
        heldHeader.pwmPath.text =
      ((Tree.files storing heldHeader).handBack ⟨fun _ => some (1, 100), []⟩ heldHeader.action).2.state
        heldHeader.pwmPath.text :=
  ((replay_refines storing "/sys".toList [heldHeader] ⟨fun _ => some (1, 100), []⟩
    (by simpa using heldHeader_replayable) (List.nodup_singleton _)).1 heldHeader List.mem_cons_self rfl rfl).2.1

def noFiles : Tree (Option (Fin 256 × Fin 256)) := ⟨fun _ => none, []⟩

/-- Where the mode switch has gone, the script neither writes what `hand_back` writes nor reports what it
reports. -/
theorem missing_unreported :
    ((Tree.files storing heldHeader).handBack noFiles heldHeader.action).1 = .failed ∧
    ((Tree.files storing heldHeader).handBack noFiles heldHeader.action).2.writesTo heldHeader.pwmPath.text ≠ [] ∧
    (RestoreAuto.replay storing "/sys".toList noFiles (renderRecord [heldHeader])).tree.log = [] ∧
    (RestoreAuto.replay storing "/sys".toList noFiles (renderRecord [heldHeader])).reported = [] := by
  have hclean : hasSeparator heldHeader.enablePath.text = false ∧ hasSeparator heldHeader.pwmPath.text = false := by decide
  have hone : recorded [heldHeader] = [heldHeader] := by
    have htaken : heldHeader.taken = true := rfl
    simp [recorded, htaken, hclean]
  have hreplay : RestoreAuto.replay storing "/sys".toList noFiles (renderRecord [heldHeader]) = ⟨noFiles, []⟩ := by
    rw [RestoreAuto.replay_record (by simpa using heldHeader_replayable), hone, List.map_singleton, List.foldl_cons,
      List.foldl_nil, RestoreAuto.replayLine_line heldHeader_replayable]
    rfl
  rw [hreplay]
  decide

end ControlOfc.Hwmon
