import ControlOfc.Firmware.Maintenance
import Mathlib.Tactic.Common
/-! # What holds while a firmware update runs

* `Honest`: what a crash at one point of the transcript leaves in the journal.
* `Inv`: the invariant, for each phase of a run; one lemma for each kind of question.
* `Earned`: what an end must have been, to be left by.
* The rules: how a stage asks, records and leaves.
-/
namespace ControlOfc.Firmware.Maintenance
open Asking Ask

/-! ## The transcript -/

/-- The board was sent a request for its bootloader. -/
def triggers : Event → Bool
  | ⟨.jump, _⟩ | ⟨.touch1200, _⟩ => true
  | _ => false

def isJump : Event → Bool
  | ⟨.jump, _⟩ => true
  | _ => false

def isTouch : Event → Bool
  | ⟨.touch1200, _⟩ => true
  | _ => false

/-- A journal that could not be written. -/
def unsaved : Event → Bool
  | ⟨.save _, false⟩ => true
  | _ => false

/-- The board that came back passed the identity handshake. -/
def shook : Event → Bool
  | ⟨.handshake _, some (.ok ())⟩ => true
  | _ => false

def lent : Event → Bool
  | ⟨.borrow _, .ok ()⟩ => true
  | _ => false

def gaveBack : Event → Bool
  | ⟨.giveBack _, _⟩ => true
  | _ => false

def wentBack : Event → Bool
  | ⟨.watchBack, .found .bootloader⟩ => true
  | _ => false

def wrote : Event → Bool
  | ⟨.writeFirmware .., _⟩ => true
  | _ => false

def released : Event → Bool
  | ⟨.release _, _⟩ | ⟨.releaseUnchanged, _⟩ => true
  | _ => false

/-- The poll loop, or an adoption, took a port that answers. -/
def took : Event → Bool
  | ⟨.giveBack (some _), b⟩ | ⟨.adopt _, b⟩ => b
  | _ => false

/-- The silent board was asked once more, and did not answer. -/
def heardNothing : Event → Bool
  | ⟨.askOnce .., some (.ok (.silent _))⟩ => true
  | _ => false

/-- The silent board was asked once more, and answered. -/
def heardBoard : Event → Bool
  | ⟨.askOnce .., some (.ok .answers)⟩ => true
  | _ => false

/-- Writes are suspended, every channel is at 100 %, and no cancel was taken. -/
def Parked (l : List Event) : Prop :=
  ⟨suspendWrites, true⟩ ∈ l ∧ (∀ ch < OpenFan.numChannels, ⟨Ask.park ch, some (.ok ())⟩ ∈ l) ∧
    ⟨closeCancelWindow, false⟩ ∈ l

/-- What the journal tells `recover` of how far the run got. -/
def flags (r : Option Record) : Bool × Bool := (r.any (·.bootloaderRequested), r.any (·.boardAnswered))

/-- What a crash at this point leaves. -/
structure Honest (l : List Event) : Prop where
  asked : l.any unsaved = false → l.any triggers = true → (flags (journal l)).1 = true
  answered : l.any unsaved = false → (flags (journal l)).2 = true → l.any shook = true
  parked : l.any isJump = true → Parked l
  silent : l.any isTouch = true → l.any isJump = true ∨ l.any heardNothing = true

/-! ## How far a run is -/

inductive Phase where
  /-- Nothing was borrowed yet. -/
  | fresh
  | before
  | asked
  | seen
  | answered
  deriving DecidableEq

namespace Phase

def requested : Phase → Bool
  | .fresh | .before => false
  | _ => true

def sawBootloader : Phase → Bool
  | .fresh | .before | .asked => false
  | _ => true

def boardAnswered : Phase → Bool
  | .answered => true
  | _ => false

end Phase

/-- A run under way: it is in `ph`, the board went back to its bootloader `n` times, and `C` has become so. -/
structure Inv (ph : Phase) (n : Nat) (C : List Event → Prop) (s : UpdateRun) : Prop where
  honest : ∀ pre, pre <+: s.said → Honest pre
  journaled : s.said.any unsaved = false →
    flags (journal s.said) = (s.mem.record.bootloaderRequested, s.mem.record.boardAnswered)
  requested : s.mem.record.bootloaderRequested = ph.requested
  seen : s.mem.record.bootloaderSeen = ph.sawBootloader
  answered : s.mem.record.boardAnswered = ph.boardAnswered
  triggered : s.said.any triggers = true → ph.requested = true
  shaken : ph.boardAnswered = true → s.said.any shook = true
  written : ph.sawBootloader = false → s.said.any wrote = false
  loans : s.said.countP lent = s.said.countP gaveBack + s.mem.handle.toNat
  unlent : ph = .fresh → s.mem.handle = false
  returns : s.said.countP wentBack = n
  handed : s.mem.handedOver = true → s.said.any took = true
  held : s.said.any released = false
  sure : C s.said
  lasting : ∀ l e, C l → C (l ++ [e])

/-- A question that no part of the invariant is about. -/
def neutral : Ask → Bool
  | .save _ | .jump | .touch1200 | .borrow _ | .giveBack _ | .watchBack | .writeFirmware .. | .release _ | .releaseUnchanged =>
    false
  | _ => true

theorem journal_snoc (l : List Event) (e : Event) : journal (l ++ [e]) = journal l ∨ ∃ r, e = ⟨save r, true⟩ ∧
    journal (l ++ [e]) = some r := by
  unfold journal
  rw [List.foldl_append]
  obtain ⟨q, a⟩ := e
  cases q
  case save r =>
    cases a with
    | true => exact .inr ⟨r, rfl, rfl⟩
    | false => exact .inl rfl
  all_goals exact .inl rfl

theorem any_snoc (p : Event → Bool) (l : List Event) (e : Event) : (l ++ [e]).any p = (l.any p || p e) := by
  rw [List.any_append, List.any_cons, List.any_nil, Bool.or_false]

theorem countP_snoc (p : Event → Bool) (l : List Event) (e : Event) (h : p e = false) : (l ++ [e]).countP p = l.countP p := by
  rw [List.countP_append, List.countP_singleton, h]
  rfl

theorem Parked.lasting {l : List Event} (h : Parked l) (e : Event) : Parked (l ++ [e]) :=
  ⟨List.mem_append_left _ h.1, fun ch hch => List.mem_append_left _ (h.2.1 ch hch), List.mem_append_left _ h.2.2⟩

/-- The facts about `l ++ [e]` where `e` is no trigger, and the journal still tells the truth after it. -/
theorem Honest.snoc {l : List Event} {e : Event} (h : Honest l) (ht : triggers e = false)
    (hj : unsaved e = false → l.any unsaved = false → flags (journal (l ++ [e])) = flags (journal l) ∨
      ((l.any triggers = true → (flags (journal (l ++ [e]))).1 = true) ∧
        ((flags (journal (l ++ [e]))).2 = true → l.any shook = true))) : Honest (l ++ [e]) := by
  have hnot : isJump e = false ∧ isTouch e = false := by
    obtain ⟨q, a⟩ := e
    cases q <;> first | exact ⟨rfl, rfl⟩ | cases ht
  refine ⟨fun hsaved htrig => ?_, fun hsaved hans => ?_, fun hjump => ?_, fun htouch => ?_⟩
  · rw [any_snoc, Bool.or_eq_false_iff] at hsaved
    rw [any_snoc, ht, Bool.or_false] at htrig
    rcases hj hsaved.2 hsaved.1 with heq | hnew
    · rw [heq]
      exact h.asked hsaved.1 htrig
    · exact hnew.1 htrig
  · rw [any_snoc, Bool.or_eq_false_iff] at hsaved
    rw [any_snoc, Bool.or_eq_true]
    rcases hj hsaved.2 hsaved.1 with heq | hnew
    · exact .inl (h.answered hsaved.1 (heq ▸ hans))
    · exact .inl (hnew.2 hans)
  · rw [any_snoc, hnot.1, Bool.or_false] at hjump
    exact (h.parked hjump).lasting e
  · rw [any_snoc, hnot.2, Bool.or_false] at htouch
    refine (h.silent htouch).imp (fun h => ?_) fun h => ?_ <;> rw [any_snoc, h, Bool.true_or]

theorem honest_snoc {l : List Event} {e : Event} (h : ∀ pre, pre <+: l → Honest pre) (he : Honest (l ++ [e])) :
    ∀ pre, pre <+: l ++ [e] → Honest pre := by
  intro pre hpre
  rcases List.prefix_concat_iff.mp hpre with rfl | hpre
  · exact he
  · exact h pre hpre

namespace Inv

variable {ph : Phase} {n : Nat} {C C' : List Event → Prop} {s : UpdateRun}

theorem all (h : Inv ph n C s) : Honest s.said := h.honest _ List.prefix_rfl

/-- Any event that neither triggers the bootloader nor changes the journal. -/
theorem noted (h : Inv ph n C s) {q : Ask} {a : Answered q} {m : Update} {ph' : Phase} {n' : Nat}
    (ht : triggers ⟨q, a⟩ = false) (hj : ∀ r, q ≠ save r)
    (hm : m.record.bootloaderRequested = s.mem.record.bootloaderRequested ∧
      m.record.bootloaderSeen = s.mem.record.bootloaderSeen ∧ m.record.boardAnswered = s.mem.record.boardAnswered)
    (hph : ph'.requested = ph.requested ∧ ph'.sawBootloader = ph.sawBootloader ∧ ph'.boardAnswered = ph.boardAnswered)
    (hwrote : wrote ⟨q, a⟩ = true → ph.sawBootloader = true)
    (hloans : (lent ⟨q, a⟩).toNat + s.mem.handle.toNat = (gaveBack ⟨q, a⟩).toNat + m.handle.toNat)
    (hunlent : ph' = .fresh → m.handle = false) (hreturns : n' = n + (wentBack ⟨q, a⟩).toNat)
    (hhanded : m.handedOver = true → s.mem.handedOver = true ∨ took ⟨q, a⟩ = true) (hrel : released ⟨q, a⟩ = false) :
    Inv ph' n' C { s.note q a with mem := m } := by
  have hjournal : journal (s.said ++ [⟨q, a⟩]) = journal s.said := by
    rcases journal_snoc s.said ⟨q, a⟩ with h | ⟨r, he, -⟩
    · exact h
    · cases he
      exact absurd rfl (hj r)
  have hu : unsaved ⟨q, a⟩ = false := by cases q <;> first | rfl | exact absurd rfl (hj _)
  obtain ⟨hph₁, hph₂, hph₃⟩ := hph
  refine ⟨honest_snoc h.honest (h.all.snoc ht fun _ _ => .inl (by rw [hjournal])), fun hsaved => ?_,
    hm.1.trans (h.requested.trans hph₁.symm), hm.2.1.trans (h.seen.trans hph₂.symm), hm.2.2.trans (h.answered.trans hph₃.symm),
    fun htrig => ?_, fun hans => ?_, fun hseen => ?_, ?_, hunlent, ?_, fun hh => ?_, ?_, h.lasting _ _ h.sure, h.lasting⟩
  · rw [note_said, any_snoc, hu, Bool.or_false] at hsaved
    rw [note_said, hjournal, h.journaled hsaved, hm.1, hm.2.2]
  · rw [note_said, any_snoc, ht, Bool.or_false] at htrig
    exact hph₁.trans (h.triggered htrig)
  · rw [note_said, any_snoc, h.shaken (hph₃.symm.trans hans), Bool.true_or]
  · have hunseen := hph₂.symm.trans hseen
    have hnot : wrote ⟨q, a⟩ = false := Bool.eq_false_iff.mpr fun hw => absurd (hwrote hw) (by rw [hunseen]; exact Bool.false_ne_true)
    rw [note_said, any_snoc, h.written hunseen, hnot, Bool.or_false]
  · have := h.loans
    rw [note_said, List.countP_append, List.countP_append, List.countP_singleton, List.countP_singleton]
    cases hl : lent ⟨q, a⟩ <;> cases hg : gaveBack ⟨q, a⟩ <;> simp only [hl, hg, Bool.toNat_true, Bool.toNat_false, if_true,
      Bool.false_eq_true, if_false] at hloans ⊢ <;> omega
  · rw [note_said, List.countP_append, List.countP_singleton, h.returns, hreturns]
    cases wentBack ⟨q, a⟩ <;> rfl
  · rw [note_said, any_snoc, Bool.or_eq_true]
    exact (hhanded hh).imp_left h.handed
  · rw [note_said, any_snoc, h.held, hrel, Bool.or_false]

theorem note (h : Inv ph n C s) {q : Ask} (hq : neutral q = true) (a : Answered q) : Inv ph n C (s.note q a) := by
  have hplain : triggers ⟨q, a⟩ = false ∧ lent ⟨q, a⟩ = false ∧ gaveBack ⟨q, a⟩ = false ∧ wentBack ⟨q, a⟩ = false ∧
      wrote ⟨q, a⟩ = false ∧ released ⟨q, a⟩ = false := by
    cases q <;> first | exact ⟨rfl, rfl, rfl, rfl, rfl, rfl⟩ | cases hq
  obtain ⟨ht, hl, hg, hw, hwr, hr⟩ := hplain
  exact h.noted (m := s.mem) ht (fun r hr => by rw [hr] at hq; cases hq) ⟨rfl, rfl, rfl⟩ ⟨rfl, rfl, rfl⟩
    (fun h => by rw [hwr] at h; cases h) (by rw [hl, hg]) h.unlent (by rw [hw]; rfl) .inl hr

theorem borrowed (h : Inv .fresh n C s) (any : Bool) {m : Update} (hm : m.record = s.mem.record) (hh : m.handle = true)
    (hd : m.handedOver = s.mem.handedOver) : Inv .before n C { s.note (borrow any) (.ok ()) with mem := m } :=
  h.noted rfl (fun r hr => by cases hr) (by rw [hm]; exact ⟨rfl, rfl, rfl⟩) ⟨rfl, rfl, rfl⟩ (fun h => by cases h)
    (by rw [h.unlent rfl, hh]; rfl) (fun h => by cases h) rfl (fun h => .inl (hd ▸ h)) rfl

theorem unborrowed (h : Inv ph n C s) (any : Bool) (why : String) : Inv ph n C (s.note (borrow any) (.error why)) :=
  h.noted (m := s.mem) rfl (fun r hr => by cases hr) ⟨rfl, rfl, rfl⟩ ⟨rfl, rfl, rfl⟩ (fun h => by cases h) rfl h.unlent rfl .inl rfl

theorem settled (h : Inv ph n C s) (hh : s.mem.handle = true) (path : Option String) (b : Bool) :
    Inv ph n C (Asking.note { s with mem := { s.mem with handle := false } } (giveBack path) b) :=
  h.noted (m := { s.mem with handle := false }) rfl (fun r hr => by cases hr) ⟨rfl, rfl, rfl⟩ ⟨rfl, rfl, rfl⟩
    (fun h => by cases h) (by rw [hh]; rfl) (fun _ => rfl) rfl .inl rfl

theorem looked (h : Inv ph n C s) (a : Watch Back) :
    Inv ph (n + (wentBack ⟨watchBack, a⟩).toNat) C (s.note watchBack a) :=
  h.noted (m := s.mem) rfl (fun r hr => by cases hr) ⟨rfl, rfl, rfl⟩ ⟨rfl, rfl, rfl⟩ (fun h => by cases h) rfl h.unlent rfl .inl rfl

theorem wroteFirmware (h : Inv ph n C s) (hseen : ph.sawBootloader = true) (port serial : String) (a : Written × MaintenanceRecord) :
    Inv ph n C (s.note (writeFirmware port serial) a) :=
  h.noted (m := s.mem) rfl (fun r hr => by cases hr) ⟨rfl, rfl, rfl⟩ ⟨rfl, rfl, rfl⟩ (fun _ => hseen) rfl h.unlent rfl .inl rfl

/-- A change of what the run holds. -/
theorem of_mem (h : Inv ph n C s) {m : Update} (hr : m.record.bootloaderRequested = s.mem.record.bootloaderRequested)
    (hs : m.record.bootloaderSeen = s.mem.record.bootloaderSeen) (ha : m.record.boardAnswered = s.mem.record.boardAnswered)
    (hh : m.handle = s.mem.handle) (hd : m.handedOver = true → s.said.any took = true) : Inv ph n C { s with mem := m } :=
  ⟨h.honest, fun hsaved => by rw [hr, ha]; exact h.journaled hsaved, hr.trans h.requested, hs.trans h.seen, ha.trans h.answered,
    h.triggered, h.shaken, h.written, by rw [hh]; exact h.loans, fun hf => hh.trans (h.unlent hf), h.returns, hd, h.held, h.sure,
    h.lasting⟩

theorem port (h : Inv ph n C s) (b : Bool) : Inv ph n C { s with mem := { s.mem with port := b } } :=
  h.of_mem rfl rfl rfl rfl h.handed

/-- Something else has become so. -/
theorem restate (h : Inv ph n C s) (hC : C' s.said) (hlasting : ∀ l e, C' l → C' (l ++ [e])) : Inv ph n C' s :=
  ⟨h.honest, h.journaled, h.requested, h.seen, h.answered, h.triggered, h.shaken, h.written, h.loans, h.unlent, h.returns, h.handed,
    h.held, hC, hlasting⟩

theorem become (h : Inv ph n C s) (hC : C' s.said) (hlasting : ∀ l e, C' l → C' (l ++ [e])) :
    Inv ph n (fun l => C l ∧ C' l) s :=
  h.restate ⟨h.sure, hC⟩ fun l e hl => ⟨h.lasting l e hl.1, hlasting l e hl.2⟩

/-- The record was changed and handed to the journal. -/
theorem saved (h : Inv ph n C s) {ph' : Phase} {r : Record} (hreq : r.bootloaderRequested = ph'.requested)
    (hseen : r.bootloaderSeen = ph'.sawBootloader) (hans : r.boardAnswered = ph'.boardAnswered)
    (hle : ph.requested = true → ph'.requested = true) (hshook : ph'.boardAnswered = true → s.said.any shook = true)
    (hwrote : ph'.sawBootloader = false → ph.sawBootloader = false) (hfresh : ph' = .fresh → ph = .fresh) (b : Bool) :
    Inv ph' n C (Asking.note { s with mem := { s.mem with record := r } } (save r) b) := by
  have hj : b = true → flags (journal (s.said ++ [⟨save r, b⟩])) = (r.bootloaderRequested, r.boardAnswered) := by
    rintro rfl
    unfold journal flags
    rw [List.foldl_append]
    rfl
  have hb : unsaved ⟨save r, b⟩ = false → b = true := fun hu => by cases b <;> first | rfl | cases hu
  refine ⟨honest_snoc h.honest (h.all.snoc rfl fun hu _ => .inr ⟨fun htrig => ?_, fun hflag => ?_⟩), fun hsaved => ?_, hreq, hseen,
    hans, fun htrig => ?_, fun hph => ?_, fun hph => ?_, ?_, fun hf => h.unlent (hfresh hf), ?_, fun hhanded => ?_, ?_,
    h.lasting _ _ h.sure, h.lasting⟩
  · rw [hj (hb hu)]
    exact hreq.trans (hle (h.triggered htrig))
  · rw [hj (hb hu)] at hflag
    exact hshook (hans.symm.trans hflag)
  · rw [note_said, any_snoc, Bool.or_eq_false_iff] at hsaved
    exact hj (hb hsaved.2)
  · rw [note_said, any_snoc] at htrig
    exact hle (h.triggered (by simpa [triggers] using htrig))
  · rw [note_said, any_snoc, hshook hph, Bool.true_or]
  · rw [note_said, any_snoc, h.written (hwrote hph)]
    rfl
  · rw [note_said, List.countP_append, List.countP_append]
    simpa [lent, gaveBack] using h.loans
  · rw [note_said, List.countP_append]
    simpa [wentBack] using h.returns
  · rw [note_said, any_snoc, h.handed hhanded, Bool.true_or]
  · rw [note_said, any_snoc, h.held]
    rfl

/-- The bootloader was asked for, and the journal knows. -/
theorem trigger (h : Inv ph n C s) {q : Ask} (a : Answered q) (ht : triggers ⟨q, a⟩ = true) (hreq : ph.requested = true)
    (hparked : isJump ⟨q, a⟩ = true → Parked s.said)
    (hsilent : isTouch ⟨q, a⟩ = true → s.said.any isJump = true ∨ s.said.any heardNothing = true) :
    Inv ph n C (s.note q a) := by
  have hj : journal (s.said ++ [⟨q, a⟩]) = journal s.said := by
    rcases journal_snoc s.said ⟨q, a⟩ with h | ⟨r, he, -⟩
    · exact h
    · cases he
      cases ht
  have hplain : unsaved ⟨q, a⟩ = false ∧ lent ⟨q, a⟩ = false ∧ gaveBack ⟨q, a⟩ = false ∧ wentBack ⟨q, a⟩ = false ∧
      wrote ⟨q, a⟩ = false ∧ released ⟨q, a⟩ = false := by
    cases q <;> first | exact ⟨rfl, rfl, rfl, rfl, rfl, rfl⟩ | cases ht
  obtain ⟨hu, hl, hg, hw, hwr, hr⟩ := hplain
  have hhonest : Honest (s.said ++ [⟨q, a⟩]) := by
    refine ⟨fun hsaved _ => ?_, fun hsaved hans => ?_, fun hjump => ?_, fun htouch => ?_⟩
    · rw [any_snoc, hu, Bool.or_false] at hsaved
      rw [hj, h.journaled hsaved]
      exact h.requested.trans hreq
    · rw [any_snoc, hu, Bool.or_false] at hsaved
      rw [any_snoc, h.all.answered hsaved (hj ▸ hans), Bool.true_or]
    · rw [any_snoc, Bool.or_eq_true] at hjump
      exact (hjump.elim h.all.parked hparked).lasting _
    · rw [any_snoc, Bool.or_eq_true] at htouch
      refine (htouch.elim h.all.silent hsilent).imp (fun h => ?_) fun h => ?_ <;> rw [any_snoc, h, Bool.true_or]
  refine ⟨honest_snoc h.honest hhonest, fun hsaved => ?_, h.requested, h.seen, h.answered, fun _ => hreq, fun hans => ?_,
    fun hseen => ?_, ?_, h.unlent, ?_, fun hhanded => ?_, ?_, h.lasting _ _ h.sure, h.lasting⟩
  · rw [note_said, any_snoc, hu, Bool.or_false] at hsaved
    rw [note_said, hj]
    exact h.journaled hsaved
  · rw [note_said, any_snoc, h.shaken hans, Bool.true_or]
  · rw [note_said, any_snoc, h.written hseen, hwr, Bool.or_false]
  · rw [note_said, List.countP_append, List.countP_append]
    simp [hl, hg, h.loans]
  · rw [note_said, List.countP_append]
    simp [hw, h.returns]
  · rw [note_said, any_snoc, h.handed hhanded, Bool.true_or]
  · rw [note_said, any_snoc, h.held, hr, Bool.or_false]

theorem lent_before (h : Inv .fresh n C s) : Inv .before n C s :=
  ⟨h.honest, h.journaled, h.requested, h.seen, h.answered, h.triggered, h.shaken, h.written, h.loans,
    (fun hph => by cases hph), h.returns, h.handed, h.held, h.sure, h.lasting⟩

end Inv

/-! ## What an end must have been -/

/-- Every expected channel was seen with its setting. -/
def SettingsLanded (l : List Event) : Prop :=
  ∃ expected fans, ⟨expectedChannels, expected⟩ ∈ l ∧ ⟨openfanFans, fans⟩ ∈ l ∧
    ∀ ch ∈ expected, ∃ f ∈ fans, f.channel = ch ∧ f.lastCommandedPwm.isSome = true

/-- The daemon's own write was done. -/
def wroteAll : Event → Bool
  | ⟨.writeFirmware .., (.done, _)⟩ => true
  | _ => false

/-- The reports of the board that came back were judged `v`. -/
def Judged (v : Verdict) (l : List Event) : Prop := ∃ r b ev, (⟨save r, b⟩ : Event) ∈ l ∧ r.evidence = some ev ∧ ev.verdict = v

theorem any_append {l : List Event} {p : Event → Bool} {more : List Event} (h : l.any p = true) : (l ++ more).any p = true := by
  rw [List.any_append, h, Bool.true_or]

theorem Judged.append {v : Verdict} {l more : List Event} (h : Judged v l) : Judged v (l ++ more) := by
  obtain ⟨r, b, ev, hmem, hev⟩ := h
  exact ⟨r, b, ev, List.mem_append_left _ hmem, hev⟩

theorem SettingsLanded.append {l more : List Event} (h : SettingsLanded l) : SettingsLanded (l ++ more) := by
  obtain ⟨expected, fans, hexpected, hfans, hall⟩ := h
  exact ⟨expected, fans, List.mem_append_left _ hexpected, List.mem_append_left _ hfans, hall⟩

/-- Control is restored, as far as the run knows. -/
def Outcome.restoredControl : Outcome → Bool
  | .completedBuildNotConfirmed | .exactBuildVerified | .backOnPreviousFirmware => true
  | _ => false

/-- What an end tells of the run it ends. -/
structure Earned (e : End) (ph : Phase) (n : Nat) (t : UpdateRun) : Prop where
  unchanged : e.outcome = .noFirmwareChange → ph.sawBootloader = false
  outside : e.outcome.leavesOutside = true → ph.requested = true
  recovery : e.outcome = .needsRecovery → ph.boardAnswered = false
  notRestored : e.outcome = .boardBackControlNotRestored → t.said.any shook = true ∨ t.said.any heardBoard = true
  restored : e.outcome.restoredControl = true →
    t.said.any shook = true ∧ t.said.any took = true ∧ SettingsLanded t.said
  previous : e.outcome = .backOnPreviousFirmware → Judged .previousFirmware t.said
  exact : e.outcome = .exactBuildVerified → n = 0 ∧ t.said.any wroteAll = true ∧ ∃ v, v ≠ .previousFirmware ∧ Judged v t.said

/-- The run is left with its invariant, by an end it has earned or by a loop that was cut. -/
def Ends (l : Left) (t : UpdateRun) : Prop := ∃ ph n C, Inv ph n C t ∧ ∀ e, l = .ended e → Earned e ph n t

namespace Earned

variable {e : End} {ph : Phase} {n : Nat} {t : UpdateRun}

theorem of_unchanged (ho : e.outcome = .noFirmwareChange) (hph : ph.sawBootloader = false) : Earned e ph n t := by
  refine ⟨fun _ => hph, ?_, ?_, ?_, ?_, ?_, ?_⟩ <;> rw [ho] <;> intro h <;> cases h

theorem of_recovery (ho : e.outcome = .needsRecovery) (hreq : ph.requested = true) (hans : ph.boardAnswered = false) :
    Earned e ph n t := by
  refine ⟨?_, fun _ => hreq, fun _ => hans, ?_, ?_, ?_, ?_⟩ <;> rw [ho] <;> intro h <;> cases h

theorem of_notBack (ho : e.outcome = .firmwareCopiedBoardNotBack) (hreq : ph.requested = true) : Earned e ph n t := by
  refine ⟨?_, fun _ => hreq, ?_, ?_, ?_, ?_, ?_⟩ <;> rw [ho] <;> intro h <;> cases h

theorem of_notRestored (ho : e.outcome = .boardBackControlNotRestored)
    (hheard : t.said.any shook = true ∨ t.said.any heardBoard = true) : Earned e ph n t := by
  refine ⟨?_, ?_, ?_, fun _ => hheard, ?_, ?_, ?_⟩ <;> rw [ho] <;> intro h <;> cases h

theorem of_restored (ho : e.outcome.restoredControl = true)
    (hr : t.said.any shook = true ∧ t.said.any took = true ∧ SettingsLanded t.said)
    (hprevious : e.outcome = .backOnPreviousFirmware → Judged .previousFirmware t.said)
    (hexact : e.outcome = .exactBuildVerified →
      n = 0 ∧ t.said.any wroteAll = true ∧ ∃ v, v ≠ .previousFirmware ∧ Judged v t.said) : Earned e ph n t := by
  refine ⟨fun h => ?_, fun h => ?_, fun h => ?_, fun h => ?_, fun _ => hr, hprevious, hexact⟩
  · rw [h] at ho; cases ho
  · cases hout : e.outcome <;> rw [hout] at h ho <;> first | (cases ho; done) | cases h
  · rw [h] at ho; cases ho
  · rw [h] at ho; cases ho

end Earned

/-! ## The rules -/

section Rules

variable {ph : Phase} {n : Nat} {C : List Event → Prop} {s : UpdateRun} {α : Type} {Q : α → UpdateRun → Prop}
  {T : Unit → UpdateRun → Prop} {ε : Type} {E : ε → UpdateRun → Prop} {L : Left → UpdateRun → Prop}

theorem Inv.wp_ask (h : Inv ph n C s) {q : Ask} (hq : neutral q = true) {f : Answered q → Act UpdateRun ε α}
    (hf : ∀ a, Inv ph n C (s.note q a) → (f a).wp Q E (s.note q a)) : (ask q >>= f).wp Q E s :=
  wp_askBind fun a => hf a (h.note hq a)

theorem Inv.wp_last (h : Inv ph n C s) {q : Ask} (hq : neutral q = true) {R : Answered q → UpdateRun → Prop}
    (hR : ∀ a, Inv ph n C (s.note q a) → R a (s.note q a)) : (ask q : Act UpdateRun ε (Answered q)).wp R E s :=
  Asking.wp_ask fun a => hR a (h.note hq a)

/-- The record changes, and the journal with it. -/
theorem Inv.wp_advance (h : Inv ph n C s) {f : Record → Record} (ph' : Phase)
    (hreq : (f s.mem.record).bootloaderRequested = ph'.requested) (hseen : (f s.mem.record).bootloaderSeen = ph'.sawBootloader)
    (hans : (f s.mem.record).boardAnswered = ph'.boardAnswered) (hle : ph.requested = true → ph'.requested = true)
    (hshook : ph'.boardAnswered = true → s.said.any shook = true) (hwrote : ph'.sawBootloader = false → ph.sawBootloader = false)
    (hfresh : ph' = .fresh → ph = .fresh)
    (hT : ∀ b, Inv ph' n C (Asking.note { s with mem := { s.mem with record := f s.mem.record } } (save (f s.mem.record)) b) →
      T () (Asking.note { s with mem := { s.mem with record := f s.mem.record } } (save (f s.mem.record)) b)) :
    (record f).wp T E s := by
  unfold record
  simp only [Act.wp_bind, wp_modify, wp_get]
  exact Asking.wp_ask fun b => hT b (h.saved hreq hseen hans hle hshook hwrote hfresh b)

/-- The record changes, but not in how far the run got. -/
theorem Inv.wp_record (h : Inv ph n C s) {f : Record → Record}
    (hf : (f s.mem.record).bootloaderRequested = s.mem.record.bootloaderRequested ∧
      (f s.mem.record).bootloaderSeen = s.mem.record.bootloaderSeen ∧
      (f s.mem.record).boardAnswered = s.mem.record.boardAnswered)
    (hT : ∀ b, Inv ph n C (Asking.note { s with mem := { s.mem with record := f s.mem.record } } (save (f s.mem.record)) b) →
      T () (Asking.note { s with mem := { s.mem with record := f s.mem.record } } (save (f s.mem.record)) b)) :
    (record f).wp T E s :=
  h.wp_advance ph (hf.1.trans h.requested) (hf.2.1.trans h.seen) (hf.2.2.trans h.answered) id h.shaken id id hT

/-- The journal learns that the bootloader is about to be asked for. -/
theorem Inv.wp_request (h : Inv ph n C s) (hseen : ph.sawBootloader = false) (hans : ph.boardAnswered = false) {trigger : Trigger}
    (hT : ∀ t, Inv .asked n C t → T () t) :
    (record (ε := ε) fun r => { r with bootloaderRequested := true, bootloaderTrigger := some trigger }).wp T E s :=
  h.wp_advance .asked rfl (h.seen.trans hseen) (h.answered.trans hans) (fun _ => rfl) (fun h => by cases h) (fun _ => hseen)
    (fun h => by cases h) fun _ => hT _

theorem Inv.wp_note (h : Inv ph n C s) {text : String} (hT : ∀ t, Inv ph n C t → T () t) : (Maintenance.note text).wp T L s :=
  h.wp_record ⟨rfl, rfl, rfl⟩ fun _ => hT _

theorem Inv.wp_enter (h : Inv ph n C s) {next : String} (hT : ∀ t, Inv ph n C t → T () t) : (enter next).wp T L s := by
  unfold enter
  exact Act.wp_bind.mpr (h.wp_record ⟨rfl, rfl, rfl⟩ fun b h => h.wp_last rfl fun _ h => hT _ h)

/-- At most, the port was closed. -/
def Dropped (s t : UpdateRun) : Prop :=
  (∃ l, t.said = s.said ++ l ∧ ∀ e ∈ l, e = ⟨discardPort, ()⟩) ∧ t.mem = { s.mem with port := t.mem.port }

theorem Inv.wp_dropPort (h : Inv ph n C s) (hT : ∀ t, Inv ph n C t → Dropped s t → T () t) :
    (dropPort : Act UpdateRun ε Unit).wp T E s := by
  unfold dropPort
  simp only [Act.wp_bind, wp_get]
  split
  · rw [Act.wp_bind, wp_modify]
    exact (h.port false).wp_last rfl fun _ h => hT _ h ⟨⟨[_], rfl, fun e he => List.mem_singleton.mp he⟩, rfl⟩
  · exact hT _ h ⟨⟨[], by simp, fun e he => by cases he⟩, rfl⟩

theorem Inv.wp_stop (h : Inv ph n C s) {e : End} (he : Earned e ph n s) : (stop e : Runner α).wp Q Ends s :=
  ⟨ph, n, C, h, fun e' heq => by cases heq; exact he⟩

theorem Inv.wp_unchanged (h : Inv ph n C s) {detail : String} (hph : ph.sawBootloader = false) :
    (unchanged detail : Runner α).wp Q Ends s := h.wp_stop (.of_unchanged rfl hph)

theorem Inv.wp_interrupted (h : Inv ph n C s) : (interrupted : Runner α).wp Q Ends s := by
  unfold interrupted
  rw [Act.wp_bind, wp_get]
  refine h.wp_stop ?_
  rw [h.requested, h.answered]
  cases ph with
  | fresh => exact .of_unchanged rfl rfl
  | before => exact .of_unchanged rfl rfl
  | asked => exact .of_recovery rfl rfl rfl
  | seen => exact .of_recovery rfl rfl rfl
  | answered => exact .of_notRestored rfl (.inl (h.shaken rfl))

theorem Inv.unended (h : Inv ph n C s) : Ends .unended s := ⟨ph, n, C, h, fun e heq => by cases heq⟩

end Rules

end ControlOfc.Firmware.Maintenance
