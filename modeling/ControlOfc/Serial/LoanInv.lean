import ControlOfc.Serial.LoanRequest
import Mathlib.Data.Fintype.Perm
/-! # The loop, its slot and every request

`Boxes` says that no box is in two places: each move sends what is anywhere from a place of its own. `Inv`
is the invariant of a run, with one lemma for each thing the loop does.
-/
namespace ControlOfc.PortLoan

/-! ## No box is in two places -/

namespace World

variable {w w' : World} {b : Nat} {x : Exchange}

@[simp] theorem update_ex (w : World) (b b' : Nat) (x : Exchange) :
    (w.update b x).ex b' = if b' = b then x else w.ex b' := by
  simp [update, ex, Function.update_apply]

@[simp] theorem update_slot (w : World) (b : Nat) (x : Exchange) : (w.update b x).slot = w.slot := rfl
@[simp] theorem update_loop (w : World) (b : Nat) (x : Exchange) : (w.update b x).loop = w.loop := rfl
@[simp] theorem update_queue (w : World) (b : Nat) (x : Exchange) : (w.update b x).queue = w.queue := rfl
@[simp] theorem update_next (w : World) (b : Nat) (x : Exchange) : (w.update b x).next = w.next := rfl

/-- What is anywhere after an update that brings no port into the request. -/
theorem holds_of_update {p : Place} {t : Transport} (ht : (w.update b x).holds p = some t)
    (hr : ∀ t, x.replyPort = some t → (w.ex b).replyPort = some t) (hh : ∀ t, x.held = some t → (w.ex b).held = some t)
    (hb : ∀ t, x.backPort = some t → (w.ex b).backPort = some t) : w.holds p = some t := by
  cases p with
  | slot => exact ht
  | hand => exact ht
  | reply b' =>
    simp only [holds, update_ex] at ht ⊢
    split at ht
    · next hbb => exact hbb ▸ hr t ht
    · exact ht
  | borrower b' =>
    simp only [holds, update_ex] at ht ⊢
    split at ht
    · next hbb => exact hbb ▸ hh t ht
    · exact ht
  | back b' =>
    simp only [holds, update_ex] at ht ⊢
    split at ht
    · next hbb => exact hbb ▸ hb t ht
    · exact ht

structure Boxes (w : World) : Prop where
  fresh : ∀ x t, w.holds x = some t → t.tag < w.next
  apart : ∀ x y t t', w.holds x = some t → w.holds y = some t' → t.tag = t'.tag → x = y

/-- What is anywhere was somewhere, no two from one place, or is the one new box. -/
theorem Boxes.moved (h : Boxes w) (f : Equiv.Perm Place) (new : Option Place) (hn : w.next ≤ w'.next)
    (hsrc : ∀ x t, w'.holds x = some t →
      w.holds (f x) = some t ∨ (new = some x ∧ t.tag = w.next ∧ w.next < w'.next)) : Boxes w' := by
  refine ⟨fun x t ht => ?_, fun x y t t' ht ht' htag => ?_⟩
  · rcases hsrc x t ht with hx | ⟨-, htag, hlt⟩
    · exact Nat.lt_of_lt_of_le (h.fresh _ t hx) hn
    · omega
  · rcases hsrc x t ht with hx | ⟨hnew, hx, -⟩
    · rcases hsrc y t' ht' with hy | ⟨-, hy, -⟩
      · exact f.injective (h.apart _ _ t t' hx hy htag)
      · have := h.fresh _ t hx
        omega
    · rcases hsrc y t' ht' with hy | ⟨hnew', -, -⟩
      · have := h.fresh _ t' hy
        omega
      · exact Option.some.inj (hnew.symm.trans hnew')

end World

/-! ## The whole world -/

/-- The slot holds the loop's placeholder. -/
def LoopState.Away : LoopState → Prop
  | .handing .. | .waiting _ | .stopped => True
  | _ => False

structure Inv (w : World) : Prop where
  ok : ∀ b, Ok (w.loop.phase b) (w.ex b)
  queued : ∀ b, w.queue = some b → (w.ex b).stage = .unserved ∧ (w.ex b).asker ≠ .absent ∧ (w.ex b).asker ≠ .sending
  called : ∀ b o, (w.ex b).stage = .called o → w.slot = o
  boxes : w.Boxes
  clean : ∀ x t, w.holds x = some t → t.kind = .maintenance → x = .slot ∧ w.loop.Away

namespace Inv

variable {w : World}

/-- A borrower's move. -/
theorem acts (h : Inv w) {b n : Nat} {q : Option Nat} {new : Option Transport} {x' : Exchange} (ha : Acts new (w.ex b) x')
    (hnew : ∀ p, new = some p → p = w.fresh .port ∧ w.next < n) (hn : w.next ≤ n)
    (hq : ∀ b', q = some b' → w.queue = some b' ∨
      (b' = b ∧ (w.ex b).stage = .unserved ∧ x'.asker ≠ .absent ∧ x'.asker ≠ .sending)) :
    Inv ({ w with next := n, queue := q }.update b x') := by
  have hsrc : ∃ f : Equiv.Perm Place, f .slot = .slot ∧ ∀ x t,
      ({ w with next := n, queue := q }.update b x').holds x = some t →
        w.holds (f x) = some t ∨ (x = .borrower b ∧ new = some t) := by
    cases ha.shift with
    | keep hr hh hb =>
      refine ⟨1, rfl, fun x t ht => ?_⟩
      cases x with
      | slot => exact .inl ht
      | hand => exact .inl ht
      | reply b' =>
        by_cases hbb : b' = b
        · subst hbb
          exact .inl (hr t (by simpa [World.holds, World.ex, World.update, Function.update_apply] using ht))
        · exact .inl (by simpa [World.holds, World.ex, World.update, Function.update_apply, hbb] using ht)
      | borrower b' =>
        by_cases hbb : b' = b
        · subst hbb
          exact (hh t (by simpa [World.holds, World.ex, World.update, Function.update_apply] using ht)).imp_right fun hnew => ⟨rfl, hnew⟩
        · exact .inl (by simpa [World.holds, World.ex, World.update, Function.update_apply, hbb] using ht)
      | back b' =>
        by_cases hbb : b' = b
        · subst hbb
          exact .inl (hb t (by simpa [World.holds, World.ex, World.update, Function.update_apply] using ht))
        · exact .inl (by simpa [World.holds, World.ex, World.update, Function.update_apply, hbb] using ht)
    | took hr hh hb =>
      refine ⟨Equiv.swap (.reply b) (.borrower b), by simp [Equiv.swap_apply_of_ne_of_ne], fun x t ht => .inl ?_⟩
      cases x with
      | slot => exact ht
      | hand => exact ht
      | reply b' =>
        by_cases hbb : b' = b
        · subst hbb
          simp [World.holds, World.ex, World.update, hr] at ht
        · rw [Equiv.swap_apply_of_ne_of_ne (by simp [hbb]) (by simp)]
          simpa [World.holds, World.ex, World.update, Function.update_apply, hbb] using ht
      | borrower b' =>
        by_cases hbb : b' = b
        · subst hbb
          rw [Equiv.swap_apply_right]
          simpa [World.holds, World.ex, World.update, Function.update_apply, hh] using ht
        · rw [Equiv.swap_apply_of_ne_of_ne (by simp) (by simp [hbb])]
          simpa [World.holds, World.ex, World.update, Function.update_apply, hbb] using ht
      | back b' =>
        rw [Equiv.swap_apply_of_ne_of_ne (by simp) (by simp)]
        by_cases hbb : b' = b
        · subst hbb
          simpa [World.holds, World.ex, World.update, Function.update_apply, hb] using ht
        · simpa [World.holds, World.ex, World.update, Function.update_apply, hbb] using ht
    | gave hr hh hb =>
      refine ⟨Equiv.swap (.borrower b) (.back b), by simp [Equiv.swap_apply_of_ne_of_ne], fun x t ht => .inl ?_⟩
      cases x with
      | slot => exact ht
      | hand => exact ht
      | reply b' =>
        rw [Equiv.swap_apply_of_ne_of_ne (by simp) (by simp)]
        by_cases hbb : b' = b
        · subst hbb
          simpa [World.holds, World.ex, World.update, Function.update_apply, hr] using ht
        · simpa [World.holds, World.ex, World.update, Function.update_apply, hbb] using ht
      | borrower b' =>
        by_cases hbb : b' = b
        · subst hbb
          simp [World.holds, World.ex, World.update, hh] at ht
        · rw [Equiv.swap_apply_of_ne_of_ne (by simp [hbb]) (by simp)]
          simpa [World.holds, World.ex, World.update, Function.update_apply, hbb] using ht
      | back b' =>
        by_cases hbb : b' = b
        · subst hbb
          rw [Equiv.swap_apply_right]
          exact hb t (by simpa [World.holds, World.ex, World.update, Function.update_apply] using ht)
        · rw [Equiv.swap_apply_of_ne_of_ne (by simp) (by simp [hbb])]
          simpa [World.holds, World.ex, World.update, Function.update_apply, hbb] using ht
  obtain ⟨f, hslot, hsrc⟩ := hsrc
  have hold : ∀ b', (({ w with next := n, queue := q } : World).update b x').ex b' = if b' = b then x' else w.ex b' := by
    intro b'
    simp [World.ex, World.update, Function.update_apply]
  refine ⟨fun b' => ?_, fun b' hb' => ?_, fun b' o ho => ?_, ?_, fun x t ht hk => ?_⟩
  · rw [hold]
    split
    · next hbb => subst hbb; exact ha.ok (h.ok b')
    · exact h.ok b'
  · rw [hold]
    split
    · next hbb =>
      subst hbb
      rcases hq b' hb' with hb' | ⟨-, hst, hasked⟩
      · obtain ⟨hst, hasked⟩ := h.queued b' hb'
        exact ⟨ha.stage.trans hst, ha.asked hasked⟩
      · exact ⟨ha.stage.trans hst, hasked⟩
    · next hbb =>
      rcases hq b' hb' with hb' | ⟨hbb', -⟩
      · exact h.queued b' hb'
      · exact absurd hbb' hbb
  · rw [hold] at ho
    split at ho
    · next hbb =>
      subst hbb
      exact h.called b' o (ha.stage ▸ ho)
    · exact h.called b' o ho
  · refine h.boxes.moved f (some (.borrower b)) hn fun x t ht => ?_
    rcases hsrc x t ht with ht | ⟨rfl, hnew'⟩
    · exact .inl ht
    · obtain ⟨rfl, hlt⟩ := hnew t hnew'
      exact .inr ⟨rfl, rfl, hlt⟩
  · rcases hsrc x t ht with ht | ⟨rfl, hnew'⟩
    · obtain ⟨hx, haway⟩ := h.clean _ t ht hk
      exact ⟨f.injective (hx.trans hslot.symm), haway⟩
    · obtain ⟨rfl, -⟩ := hnew t hnew'
      cases hk

variable {w' : World}

theorem ok_stopped {x : Exchange} (h : Ok .away x) : Ok .stopped x := by
  obtain ⟨hasked, hstage⟩ := h
  refine ⟨hasked, ?_⟩
  cases hst : x.stage with
  | unserved =>
    rw [hst] at hstage
    exact ⟨.inr rfl, hstage.2⟩
  | called o =>
    rw [hst] at hstage
    exact nomatch hstage.1
  | taken p =>
    rw [hst] at hstage
    rcases hstage with ⟨hph, -⟩ | ⟨hph, -⟩ | ⟨hph, -⟩ <;> cases hph
  | ended o e =>
    rw [hst] at hstage
    exact ⟨.inr (.inl rfl), hstage.2⟩

/-- A move of the loop, which changes the request it serves and no other. -/
theorem serve (h : Inv w) (b : Nat) (hex : ∀ b', b' ≠ b → w'.ex b' = w.ex b')
    (hok : Ok (w'.loop.phase b) (w'.ex b))
    (hph : ∀ b', b' ≠ b → w.loop.phase b' = .away ∧ (w'.loop.phase b' = .away ∨ w'.loop.phase b' = .stopped))
    (hq : ∀ b', w'.queue = some b' → w.queue = some b' ∧ w'.ex b' = w.ex b')
    (hcalled : ∀ o, (w'.ex b).stage = .called o → w'.slot = o)
    (f : Equiv.Perm Place) (new : Option Place) (hn : w.next ≤ w'.next)
    (hsrc : ∀ x t, w'.holds x = some t → w.holds (f x) = some t ∨ (new = some x ∧ t.tag = w.next ∧ w.next < w'.next))
    (hclean : ∀ x t, w'.holds x = some t → t.kind = .maintenance → x = .slot ∧ w'.loop.Away) : Inv w' := by
  have hother : ∀ b', b' ≠ b → Ok (w'.loop.phase b') (w'.ex b') := by
    intro b' hbb
    obtain ⟨haway, hto⟩ := hph b' hbb
    have hold := h.ok b'
    rw [haway] at hold
    rw [hex b' hbb]
    rcases hto with hto | hto
    · exact hto ▸ hold
    · exact hto ▸ ok_stopped hold
  refine ⟨fun b' => ?_, fun b' hb' => ?_, fun b' o ho => ?_, h.boxes.moved f new hn hsrc, hclean⟩
  · by_cases hbb : b' = b
    · exact hbb ▸ hok
    · exact hother b' hbb
  · obtain ⟨hb', heq⟩ := hq b' hb'
    rw [heq]
    exact h.queued b' hb'
  · by_cases hbb : b' = b
    · exact hcalled o (hbb ▸ ho)
    · have hb := (h.ok b').stage
      rw [(hph b' hbb).1, ← hex b' hbb, ho] at hb
      exact nomatch hb.1

theorem phase_lending {l : LoopState} {b : Nat} (h : l = .lending b) :
    l.phase b = .lending ∧ ∀ b', b' ≠ b → l.phase b' = .away := by
  subst h
  exact ⟨if_pos rfl, fun b' hbb => if_neg (Ne.symm hbb)⟩

theorem phase_handing {l : LoopState} {b : Nat} {port : Transport} (h : l = .handing b port) :
    l.phase b = .handing port ∧ ∀ b', b' ≠ b → l.phase b' = .away := by
  subst h
  exact ⟨if_pos rfl, fun b' hbb => if_neg (Ne.symm hbb)⟩

theorem phase_waiting {l : LoopState} {b : Nat} (h : l = .waiting b) :
    l.phase b = .waiting ∧ ∀ b', b' ≠ b → l.phase b' = .away := by
  subst h
  exact ⟨if_pos rfl, fun b' hbb => if_neg (Ne.symm hbb)⟩

theorem phase_settling {l : LoopState} {b : Nat} (h : l = .settling b) :
    l.phase b = .settling ∧ ∀ b', b' ≠ b → l.phase b' = .away := by
  subst h
  exact ⟨if_pos rfl, fun b' hbb => if_neg (Ne.symm hbb)⟩

/-- A queued request is not the one being served. -/
theorem queued_other (h : Inv w) {b b' : Nat} (hst : (w.ex b).stage ≠ .unserved) (hb' : w.queue = some b') : b' ≠ b := by
  rintro rfl
  exact hst (h.queued b' hb').1

theorem closeQueue (h : Inv w) : Inv w.closeQueue := by
  unfold World.closeQueue
  split
  · exact @Inv.acts w h _ _ _ none _ (.unheard _) nofun (Nat.le_refl _) nofun
  · exact h

/-- Nothing but the slot, and the slot gets a new box, or the loop stops. -/
theorem slotOnly (h : Inv w) (hidle : w.loop = .idle) (hloop : w'.loop = .idle ∨ w'.loop = .stopped)
    (hex : w'.exchanges = w.exchanges) (hqueue : w'.queue = w.queue)
    (hslot : (w'.slot = w.slot ∧ w'.next = w.next) ∨
      (w'.slot.tag = w.next ∧ w'.slot.kind ≠ .maintenance ∧ w'.next = w.next + 1)) : Inv w' := by
  have hex' : ∀ b, w'.ex b = w.ex b := fun b => congrFun hex b
  have haway : ∀ b, w.loop.phase b = .away := fun b => by rw [hidle]; rfl
  have haway' : ∀ b, w'.loop.phase b = .away ∨ w'.loop.phase b = .stopped := fun b => by
    rcases hloop with hl | hl <;> rw [hl]
    · exact .inl rfl
    · exact .inr rfl
  have hno : ∀ x t, w.holds x = some t → t.kind ≠ .maintenance := by
    intro x t ht hk
    have := (h.clean x t ht hk).2
    rw [hidle] at this
    exact this
  have hplaces : ∀ x t, w'.holds x = some t → w.holds x = some t ∨ (x = .slot ∧ t = w'.slot) := by
    intro x t ht
    cases x with
    | slot => exact .inr ⟨rfl, (Option.some.inj ht).symm⟩
    | hand => rcases hloop with hl | hl <;> simp [World.holds, hl] at ht
    | reply b => exact .inl (by simpa [World.holds, hex'] using ht)
    | borrower b => exact .inl (by simpa [World.holds, hex'] using ht)
    | back b => exact .inl (by simpa [World.holds, hex'] using ht)
  have hok : Ok (w'.loop.phase 0) (w'.ex 0) := by
    have hold := h.ok 0
    rw [haway] at hold
    rw [hex' 0]
    rcases haway' 0 with hl | hl <;> rw [hl]
    · exact hold
    · exact ok_stopped hold
  refine h.serve 0 (fun b _ => hex' b) hok (fun b _ => ⟨haway b, haway' b⟩)
    (fun b hb => ⟨hqueue ▸ hb, hex' b⟩) (fun o ho => ?_) 1 (some .slot) (by omega) (fun x t ht => ?_) (fun x t ht hk => ?_)
  · have hst := (h.ok 0).stage
    rw [haway, ← hex' 0, ho] at hst
    exact nomatch hst.1
  · rcases hplaces x t ht with ht | ⟨rfl, rfl⟩
    · exact .inl ht
    · rcases hslot with ⟨hs, -⟩ | ⟨htag, -, hnext⟩
      · exact .inl (by rw [hs]; rfl)
      · exact .inr ⟨rfl, htag, by omega⟩
  · rcases hplaces x t ht with ht | ⟨rfl, rfl⟩
    · exact absurd hk (hno x t ht)
    · rcases hslot with ⟨hs, -⟩ | ⟨-, hkind, -⟩
      · exact absurd hk (hno .slot _ (by rw [hs]; rfl))
      · exact absurd hk hkind

theorem recv (h : Inv w) (hidle : w.loop = .idle) : Inv w.recv := by
  unfold World.recv
  split
  · next b hb =>
    obtain ⟨hst, hasked⟩ := h.queued b hb
    have hok := (h.ok b).stage
    rw [hst, hidle] at hok
    obtain ⟨-, hq⟩ := hok
    have hno : ∀ x t, w.holds x = some t → t.kind ≠ .maintenance := by
      intro x t ht hk
      have := (h.clean x t ht hk).2
      rw [hidle] at this
      exact this
    have hsrc : ∀ x t, ({ w with queue := none, loop := .lending b }.update b { w.ex b with
        stage := .called w.slot }).holds x = some t → w.holds x = some t := by
      intro x t ht
      have ht := World.holds_of_update ht (fun _ => id) (fun _ => id) (fun _ => id)
      cases x with
      | hand => cases ht
      | _ => exact ht
    refine h.serve b (fun b' hbb => by simp [hbb]; rfl) ?_ (fun b' hbb => ?_) nofun (fun o ho => ?_) 1 none (Nat.le_refl _)
      (fun x t ht => .inl (hsrc x t ht)) (fun x t ht hk => absurd hk (hno x t (hsrc x t ht)))
    · rw [World.update_loop, (phase_lending rfl).1, World.update_ex, if_pos rfl]
      exact ⟨.inr hasked, rfl, hq.reply, hq.asker, hq.hears, hq.back, hq.receiver, hq.sender, hq.settled⟩
    · rw [hidle]
      exact ⟨rfl, .inl ((phase_lending rfl).2 b' hbb)⟩
    · simp at ho
      simpa using ho
  · exact h

/-- Where the loop holds no port and the slot no placeholder, none is anywhere. -/
theorem no_maintenance (h : Inv w) (hhome : ¬ w.loop.Away) {x : Place} {t : Transport} (ht : w.holds x = some t) :
    t.kind ≠ .maintenance := fun hk => hhome (h.clean x t ht hk).2

theorem refuse (h : Inv w) {b : Nat} (hl : w.loop = .lending b) (e : LoanRefusal) : Inv (w.refuse b e) := by
  have hok := h.ok b
  rw [(phase_lending hl).1] at hok
  obtain ⟨o, hst, hasked, hq⟩ : ∃ o, (w.ex b).stage = .called o ∧
      ((w.ex b).asker ≠ .absent ∧ (w.ex b).asker ≠ .sending) ∧ Quiet (w.ex b) := by
    obtain ⟨hasked, hstage⟩ := hok
    cases hst : (w.ex b).stage <;> simp [hst] at hstage hasked
    exact ⟨_, rfl, hasked, hstage⟩
  have hhome : ¬ w.loop.Away := by simp [hl, LoopState.Away]
  have hreply : ∀ t, ((w.ex b).reply.send (.error e)).value ≠ some (.ok t) := by
    intro t
    simp only [OneShot.value_send, hq.reply]
    split <;> simp
  have hsrc : ∀ x t, (w.refuse b e).holds x = some t → w.holds x = some t := by
    intro x t ht
    have ht := World.holds_of_update ht (fun t ht => ?_) (fun _ => id) (fun _ => id)
    · cases x with
      | hand => cases ht
      | _ => exact ht
    · simp only [Exchange.replyPort, OneShot.value_send, hq.reply] at ht
      split at ht <;> cases ht
  refine h.serve b (fun b' hbb => by simp [World.refuse, hbb]; rfl) ?_ (fun b' hbb => ?_) (fun b' hb' => ?_) (fun o ho => ?_) 1 none
    (Nat.le_refl _) (fun x t ht => .inl (hsrc x t ht)) (fun x t ht hk => absurd hk (h.no_maintenance hhome (hsrc x t ht)))
  · simp only [World.refuse, World.update_ex, if_pos]
    exact ⟨.inr hasked, .inl rfl, hq.over _ hreply _⟩
  · exact ⟨(phase_lending hl).2 b' hbb, .inl rfl⟩
  · have hbb := h.queued_other (by rw [hst]; simp) hb'
    exact ⟨hb', by simp [World.refuse, hbb]; rfl⟩
  · simp [World.refuse] at ho

theorem swap (h : Inv w) {b : Nat} (hl : w.loop = .lending b) : Inv (w.swap b) := by
  have hok := h.ok b
  rw [(phase_lending hl).1] at hok
  obtain ⟨o, hst, hasked, hq⟩ : ∃ o, (w.ex b).stage = .called o ∧
      ((w.ex b).asker ≠ .absent ∧ (w.ex b).asker ≠ .sending) ∧ Quiet (w.ex b) := by
    obtain ⟨hasked, hstage⟩ := hok
    cases hst : (w.ex b).stage <;> simp [hst] at hstage hasked
    exact ⟨_, rfl, hasked, hstage⟩
  have hhome : ¬ w.loop.Away := by simp [hl, LoopState.Away]
  have hsrc : ∀ x t, (w.swap b).holds x = some t →
      w.holds (Equiv.swap .slot .hand x) = some t ∨ (some Place.slot = some x ∧ t = w.fresh .maintenance) := by
    intro x t ht
    have ht := World.holds_of_update ht (fun _ => id) (fun _ => id) (fun _ => id)
    cases x with
    | slot => exact .inr ⟨rfl, (Option.some.inj ht).symm⟩
    | hand =>
      rw [Equiv.swap_apply_right]
      exact .inl ht
    | _ =>
      rw [Equiv.swap_apply_of_ne_of_ne (by simp) (by simp)]
      exact .inl ht
  refine h.serve b (fun b' hbb => by simp [World.swap, hbb]; rfl) ?_ (fun b' hbb => ?_) (fun b' hb' => ?_) (fun o ho => ?_)
    (Equiv.swap .slot .hand) (some .slot) (Nat.le_succ _) (fun x t ht => ?_) (fun x t ht hk => ?_)
  · have hph : (w.swap b).loop.phase b = .handing w.slot := (phase_handing rfl).1
    rw [hph]
    simp only [World.swap, World.update_ex, if_pos]
    exact ⟨.inr hasked, .inl ⟨rfl, hq.reply, hq.asker, hq.hears, hq.back, hq.receiver, hq.sender, hq.settled⟩⟩
  · exact ⟨(phase_lending hl).2 b' hbb, .inl ((phase_handing rfl).2 b' hbb)⟩
  · have hbb := h.queued_other (by rw [hst]; simp) hb'
    exact ⟨hb', by simp [World.swap, hbb]; rfl⟩
  · simp [World.swap] at ho
  · rcases hsrc x t ht with ht | ⟨hx, rfl⟩
    · exact .inl ht
    · exact .inr ⟨hx, rfl, Nat.lt_succ_self _⟩
  · rcases hsrc x t ht with ht | ⟨hx, -⟩
    · exact absurd hk (h.no_maintenance hhome ht)
    · exact ⟨(Option.some.inj hx).symm, trivial⟩

theorem answer (h : Inv w) {b : Nat} {port : Transport} (hl : w.loop = .handing b port) : Inv (w.answer b port) := by
  have hok := h.ok b
  rw [(phase_handing hl).1] at hok
  obtain ⟨hst, hasked, hq⟩ : (w.ex b).stage = .taken port ∧
      ((w.ex b).asker ≠ .absent ∧ (w.ex b).asker ≠ .sending) ∧ Quiet (w.ex b) := by
    obtain ⟨hasked, hstage⟩ := hok
    cases hst : (w.ex b).stage <;> simp [hst] at hstage hasked
    exact ⟨by rw [hstage.1], hasked, hstage.2⟩
  have hother : ∀ b', w.queue = some b' → b' ≠ b := fun b' hb' => h.queued_other (by rw [hst]; simp) hb'
  have hhand : w.holds .hand = some port := by simp [World.holds, hl]
  have hnoreply : (w.ex b).replyPort = none := by simp [Exchange.replyPort, hq.reply]
  unfold World.answer
  split
  · next hrc =>
    have hsrc : ∀ x t, ({ w with loop := .waiting b }.update b { w.ex b with
        reply := (w.ex b).reply.send (.ok port) }).holds x = some t → w.holds (Equiv.swap .hand (.reply b) x) = some t := by
      intro x t ht
      cases x with
      | hand => cases ht
      | reply b' =>
        by_cases hbb : b' = b
        · subst hbb
          rw [Equiv.swap_apply_right, hhand]
          simpa [World.holds, Exchange.replyPort, hrc, Except.toOption] using ht
        · rw [Equiv.swap_apply_of_ne_of_ne (by simp) (by simp [hbb])]
          simp only [World.holds, World.update_ex, if_neg hbb] at ht
          exact ht
      | slot =>
        rw [Equiv.swap_apply_of_ne_of_ne (by simp) (by simp)]
        exact ht
      | borrower b' | back b' =>
        rw [Equiv.swap_apply_of_ne_of_ne (by simp) (by simp)]
        simp only [World.holds, World.update_ex] at ht
        split at ht
        · next hbb => exact hbb ▸ ht
        · exact ht
    refine h.serve b (fun b' hbb => by simp [hbb]; rfl) ?_ (fun b' hbb => ?_) (fun b' hb' => ?_) (fun o ho => ?_)
      (Equiv.swap .hand (.reply b)) none (Nat.le_refl _) (fun x t ht => .inl (hsrc x t ht)) (fun x t ht hk => ?_)
    · rw [World.update_loop, (phase_waiting rfl).1, World.update_ex, if_pos rfl]
      have hears := hq.hears hrc
      have hawaits : (w.ex b).asker.Awaits := by
        cases ha : (w.ex b).asker <;> simp [ha, Asker.Hears] at hears hasked ⊢ <;> trivial
      have hsender : (w.ex b).back.sender = true := by
        refine hq.sender.resolve_right fun hg => ?_
        rw [hg] at hawaits
        exact hawaits
      refine ⟨.inr hasked, ?_⟩
      dsimp only
      rw [hst]
      exact .inr (.inl ⟨rfl, .reply hawaits (by simp [hrc]) hq.back hsender, fun _ => hq.receiver, hq.settled⟩)
    · exact ⟨(phase_handing hl).2 b' hbb, .inl ((phase_waiting rfl).2 b' hbb)⟩
    · exact ⟨hb', by simp [hother b' hb']; rfl⟩
    · simp [hst] at ho
    · have hx := (h.clean _ t (hsrc x t ht) hk).1
      rw [Equiv.swap_apply_eq_iff] at hx
      rw [Equiv.swap_apply_of_ne_of_ne (by simp) (by simp)] at hx
      exact ⟨hx, trivial⟩
  · have hsrc : ∀ x t, ({ w with slot := port, loop := .idle }.update b { w.ex b with
        reply := (w.ex b).reply.dropSender, stage := .ended port .abandoned }).holds x = some t →
          w.holds (Equiv.swap .slot .hand x) = some t := by
      intro x t ht
      have ht := World.holds_of_update ht (fun _ => id) (fun _ => id) (fun _ => id)
      cases x with
      | slot =>
        rw [Equiv.swap_apply_left, hhand]
        exact ht
      | hand => cases ht
      | _ =>
        rw [Equiv.swap_apply_of_ne_of_ne (by simp) (by simp)]
        exact ht
    refine h.serve b (fun b' hbb => by simp [hbb]; rfl) ?_ (fun b' hbb => ?_) (fun b' hb' => ?_) (fun o ho => ?_)
      (Equiv.swap .slot .hand) none (Nat.le_refl _) (fun x t ht => .inl (hsrc x t ht)) (fun x t ht hk => ?_)
    · rw [World.update_ex, if_pos rfl]
      exact ⟨.inr hasked, .inl rfl, hq.over _ (by simp [hq.reply]) _⟩
    · exact ⟨(phase_handing hl).2 b' hbb, .inl rfl⟩
    · exact ⟨hb', by simp [hother b' hb']; rfl⟩
    · simp at ho
    · have hx := (h.clean _ t (hsrc x t ht) hk).1
      obtain rfl : x = .hand := by
        rw [Equiv.swap_apply_eq_iff, Equiv.swap_apply_left] at hx
        exact hx
      cases ht

/-- What came back, or a new placeholder, goes into the slot. -/
theorem install (h : Inv w) {b : Nat} {port slot : Transport} {n : Nat} (hl : w.loop = .waiting b)
    (hst : (w.ex b).stage = .taken port) (hok : Ok .waiting (w.ex b)) {e : LoanEnd} (he : ∃ ret, e.Answers ret)
    (hv : ∀ ret, (w.ex b).back.value = some ret → ∀ ret', ret' = ret → e.Answers ret')
    (hn : (w.ex b).back.value = none → (w.ex b).back.sender = false) {back : OneShot LoanReturn} (hb : back.value = none)
    (hslot : ((w.ex b).backPort = some slot ∧ n = w.next) ∨
      (slot.tag = w.next ∧ slot.kind ≠ .maintenance ∧ n = w.next + 1)) :
    Inv ({ w with slot := slot, next := n, loop := .settling b }.update b { w.ex b with
      back := back, stage := .ended port e }) := by
  obtain ⟨hasked, hstage⟩ := hok
  rw [hst] at hasked hstage
  have hlent : Lent true port (w.ex b) := by simpa using hstage
  have hplaces : ∀ x t, ({ w with slot := slot, next := n, loop := .settling b }.update b { w.ex b with
      back := back, stage := .ended port e }).holds x = some t →
        (x = .slot ∧ t = slot) ∨ (x ≠ .slot ∧ x ≠ .back b ∧ w.holds x = some t) := by
    intro x t ht
    cases x with
    | slot => exact .inl ⟨rfl, (Option.some.inj ht).symm⟩
    | hand => cases ht
    | reply b' | borrower b' =>
      simp only [World.holds, World.update_ex] at ht
      refine .inr ⟨by simp, by simp, ?_⟩
      split at ht
      · next hbb => exact hbb ▸ ht
      · exact ht
    | back b' =>
      simp only [World.holds, World.update_ex] at ht
      split at ht
      · simp [Exchange.backPort, hb] at ht
      · next hbb => exact .inr ⟨by simp, by simp [hbb], ht⟩
  have hother : ∀ b', w.queue = some b' → b' ≠ b := fun b' hb' => h.queued_other (by rw [hst]; simp) hb'
  have hinv (f : Equiv.Perm Place) (new : Option Place) (hf : ∀ x, x ≠ .slot → x ≠ .back b → f x = x)
      (hto : w.holds (f .slot) = some slot ∨ (new = some .slot ∧ slot.tag = w.next ∧ w.next < n)) (hle : w.next ≤ n)
      (hkind : slot.kind ≠ .maintenance) :
      Inv ({ w with slot := slot, next := n, loop := .settling b }.update b { w.ex b with
        back := back, stage := .ended port e }) := by
    refine h.serve b (fun b' hbb => by simp [hbb]; rfl) ?_ (fun b' hbb => ?_) (fun b' hb' => ?_) (fun o ho => ?_)
      f new hle (fun x t ht => ?_) (fun x t ht hk => ?_)
    · rw [World.update_loop, (phase_settling rfl).1, World.update_ex, if_pos rfl]
      exact ⟨.inr (hasked.resolve_left (by simp)), .inr (.inr ⟨rfl, he⟩), hlent.over hv hn hb _⟩
    · exact ⟨(phase_waiting hl).2 b' hbb, .inl ((phase_settling rfl).2 b' hbb)⟩
    · exact ⟨hb', by simp [hother b' hb']; rfl⟩
    · simp at ho
    · rcases hplaces x t ht with ⟨rfl, rfl⟩ | ⟨hx, hx', ht⟩
      · exact hto
      · exact .inl (by rw [hf x hx hx']; exact ht)
    · rcases hplaces x t ht with ⟨rfl, rfl⟩ | ⟨hx, hx', ht⟩
      · exact absurd hk hkind
      · exact absurd (h.clean x t ht hk).1 hx
  rcases hslot with ⟨hback, rfl⟩ | ⟨htag, hkind, rfl⟩
  · have hfrom : w.holds (.back b) = some slot := hback
    refine hinv (Equiv.swap .slot (.back b)) none (fun x hx hx' => Equiv.swap_apply_of_ne_of_ne hx hx')
      (.inl (by rw [Equiv.swap_apply_left]; exact hfrom)) (Nat.le_refl _) fun hk => ?_
    exact absurd (h.clean _ slot hfrom hk).1 (by simp)
  · exact hinv 1 (some .slot) (fun _ _ _ => rfl) (.inr ⟨rfl, htag, Nat.lt_succ_self _⟩) (Nat.le_succ _) hkind

/-- The loop stops with the port out. -/
theorem stopWaiting (h : Inv w) {b : Nat} {port : Transport} (hl : w.loop = .waiting b)
    (hst : (w.ex b).stage = .taken port) :
    Inv ({ w with loop := .stopped }.update b { w.ex b with
      back := (w.ex b).back.dropReceiver, settled := (w.ex b).settled.dropSender
      unread := (w.ex b).unread || (w.ex b).back.value.isSome }) := by
  obtain ⟨hasked, hstage⟩ := h.ok b
  rw [hst, (phase_waiting hl).1] at hstage
  rw [hst] at hasked
  obtain ⟨hout, -, hset⟩ : Lent true port (w.ex b) := by simpa using hstage
  have hsrc : ∀ x t, ({ w with loop := .stopped }.update b { w.ex b with
      back := (w.ex b).back.dropReceiver, settled := (w.ex b).settled.dropSender
      unread := (w.ex b).unread || (w.ex b).back.value.isSome }).holds x = some t → w.holds x = some t := by
    intro x t ht
    have ht := World.holds_of_update ht (fun _ => id) (fun _ => id) (fun t ht => by simp [Exchange.backPort] at ht)
    cases x with
    | hand => cases ht
    | _ => exact ht
  have hleft : (w.ex b).letGo = true ∨ (w.ex b).unread = true ∨ (∃ path, (w.ex b).back.value = some (.port port path)) →
      (w.ex b).letGo = true ∨ ((w.ex b).unread || (w.ex b).back.value.isSome) = true ∨
        ∃ path, (w.ex b).back.dropReceiver.value = some (.port port path) := by
    rintro (hp | hp | ⟨path, hp⟩)
    · exact .inl hp
    · exact .inr (.inl (by simp [hp]))
    · exact .inr (.inl (by simp [hp]))
  refine h.serve b (fun b' hbb => by simp [hbb]; rfl) ?_ (fun b' hbb => ?_) (fun b' hb' => ?_) (fun o ho => ?_)
    1 none (Nat.le_refl _) (fun x t ht => .inl (hsrc x t ht)) (fun x t ht hk => ?_)
  · rw [World.update_ex, if_pos rfl]
    refine ⟨.inr (hasked.resolve_left (by simp)), ?_⟩
    dsimp only
    rw [hst]
    refine .inr (.inr ⟨rfl, ?_, (fun h => by cases h), by simpa using hset⟩)
    cases hout with
    | reply ha hr hb hs => exact .reply ha hr (by simp) hs
    | held t ha hr hb hs hp => exact .held t ha hr (by simp) hs hp
    | back ret ha hr hb hp => exact .back ret ha hr (.inr ⟨by simp, by simp⟩) (hleft hp)
    | gone ha hr hp => exact .gone ha hr (hleft hp)
  · exact ⟨(phase_waiting hl).2 b' hbb, .inr rfl⟩
  · have hbb := h.queued_other (by rw [hst]; simp) hb'
    exact ⟨hb', by simp [hbb]; rfl⟩
  · simp [hst] at ho
  · exact ⟨(h.clean x t (hsrc x t ht) hk).1, trivial⟩

theorem wake (h : Inv w) {b : Nat} {port : Transport} (hl : w.loop = .waiting b) (hst : (w.ex b).stage = .taken port) :
    Inv (w.wake b port) := by
  have hok := h.ok b
  rw [(phase_waiting hl).1] at hok
  unfold World.wake
  dsimp only
  split
  · exact (h.stopWaiting hl hst).closeQueue
  · split
    · next t path hv =>
      exact h.install hl hst hok (by exact ⟨.port t path, rfl⟩) (fun ret hr ret' heq => by rw [hv] at hr; rw [heq, ← Option.some.inj hr]; rfl)
        (by simp [hv]) (by simp) (.inl ⟨by simp [Exchange.backPort, hv], rfl⟩)
    · next hv =>
      exact h.install hl hst hok (by exact ⟨.nothing, rfl⟩) (fun ret hr ret' heq => by rw [hv] at hr; rw [heq, ← Option.some.inj hr]; rfl)
        (by simp [hv]) (by simp) (.inr ⟨rfl, by simp [World.fresh], rfl⟩)
    · next hv =>
      split
      · exact h
      · next hs =>
        exact h.install hl hst hok (by exact ⟨.nothing, rfl⟩) (by simp [hv]) (fun _ => by simpa using hs) (by simp)
          (.inr ⟨rfl, by simp [World.fresh], rfl⟩)

theorem finish (h : Inv w) {b : Nat} (hl : w.loop = .settling b) : Inv (w.finish b) := by
  obtain ⟨hasked, hstage⟩ := h.ok b
  rw [(phase_settling hl).1] at hstage
  obtain ⟨o, e, hst, he, hover⟩ : ∃ o e, (w.ex b).stage = .ended o e ∧ (∃ ret, e.Answers ret) ∧ Over e (w.ex b) := by
    cases hst : (w.ex b).stage <;> simp [hst] at hstage
    exact ⟨_, _, rfl, hstage⟩
  rw [hst] at hasked
  have hhome : ¬ w.loop.Away := by simp [hl, LoopState.Away]
  have hsrc : ∀ x t, (w.finish b).holds x = some t → w.holds x = some t := by
    intro x t ht
    have ht := World.holds_of_update ht (fun _ => id) (fun _ => id) (fun _ => id)
    cases x with
    | hand => cases ht
    | _ => exact ht
  refine h.serve b (fun b' hbb => by simp [World.finish, hbb]; rfl) ?_ (fun b' hbb => ?_) (fun b' hb' => ?_) (fun o ho => ?_)
    1 none (Nat.le_refl _) (fun x t ht => .inl (hsrc x t ht)) (fun x t ht hk => absurd hk (h.no_maintenance hhome (hsrc x t ht)))
  · simp only [World.finish, World.update_ex, if_pos]
    refine ⟨.inr (hasked.resolve_left (by simp)), ?_⟩
    dsimp only
    rw [hst]
    refine ⟨.inl rfl, hover.reply, hover.holding, hover.back, hover.returning, fun _ => he, fun ret hret => ?_⟩
    have hs := hover.signalled ret hret
    simp only [OneShot.value_send]
    split
    · rfl
    · exact hs
  · exact ⟨(phase_settling hl).2 b' hbb, .inl rfl⟩
  · have hbb := h.queued_other (by rw [hst]; simp) hb'
    exact ⟨hb', by simp [World.finish, hbb]; rfl⟩
  · simp [World.finish, hst] at ho

end Inv

end ControlOfc.PortLoan
