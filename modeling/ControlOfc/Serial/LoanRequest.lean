import ControlOfc.Serial.PortLoan
import Mathlib.Tactic.Cases
/-! # One request for the port

`Ok` says of one request how its stage, its borrower and its channels belong together, whatever the loop is
doing with it; a borrower's move keeps it so.
-/
namespace ControlOfc.PortLoan

/-- What the loop is doing with a request. -/
inductive Phase where
  | away
  | lending
  | handing (port : Transport)
  | waiting
  | settling
  | stopped

def LoopState.phase (l : LoopState) (b : Nat) : Phase :=
  match l with
  | .idle => .away
  | .lending b' => if b' = b then .lending else .away
  | .handing b' port => if b' = b then .handing port else .away
  | .waiting b' => if b' = b then .waiting else .away
  | .settling b' => if b' = b then .settling else .away
  | .stopped => .stopped

/-- The borrower may still hear the answer. -/
def Asker.Awaits : Asker → Prop
  | .waiting | .late | .closed => True
  | _ => False

/-- It never had the loan. -/
def Asker.Without : Asker → Prop
  | .holding _ | .returning _ | .gaveBack .. => False
  | _ => True

/-- Its answer can still be sent. -/
def Asker.Hears : Asker → Prop
  | .absent | .sending | .waiting | .late => True
  | _ => False

def LoanEnd.Answers : LoanEnd → LoanReturn → Prop
  | .returned t path, ret => ret = .port t path
  | .lost, ret => ret = .nothing
  | _, _ => False

/-- Nothing has been answered. -/
structure Quiet (x : Exchange) : Prop where
  reply : x.reply.value = none
  asker : x.asker.Without
  hears : x.reply.receiver = true → x.asker.Hears
  back : x.back.value = none
  receiver : x.back.receiver = true
  sender : x.back.sender = true ∨ x.asker = .gone
  settled : x.settled.value = none

/-- Where the port is that was lent, or how it left. -/
inductive Out (port : Transport) (x : Exchange) : Prop where
  | reply (ha : x.asker.Awaits) (hr : x.reply.value = some (.ok port)) (hb : x.back.value = none) (hs : x.back.sender = true)
  | held (t : Option Transport) (ha : x.asker = .holding t) (hr : x.reply.value = none) (hb : x.back.value = none)
      (hs : x.back.sender = true) (hp : x.letGo = true ∨ t = some port)
  | back (ret : LoanReturn) (ha : x.asker = .returning ret ∨ x.asker = .gaveBack ret false) (hr : x.reply.value = none)
      (hb : x.back.value = some ret ∨ (x.back.value = none ∧ x.back.receiver = false))
      (hp : x.letGo = true ∨ x.unread = true ∨ ∃ path, x.back.value = some (.port port path))
  | gone (ha : x.asker = .gone) (hr : x.reply.value = none)
      (hp : x.letGo = true ∨ x.unread = true ∨ ∃ path, x.back.value = some (.port port path))

/-- The port was lent and the loop waits for it, or has stopped. -/
structure Lent (open_ : Bool) (port : Transport) (x : Exchange) : Prop where
  out : Out port x
  receiver : open_ = true → x.back.receiver = true
  settled : x.settled.value = none

/-- The loop is done with the request. -/
structure Over (e : LoanEnd) (x : Exchange) : Prop where
  reply : ∀ t, x.reply.value ≠ some (.ok t)
  holding : ∀ t, x.asker ≠ .holding t
  back : x.back.value = none
  returning : ∀ ret, x.asker = .returning ret ∨ x.asker = .gaveBack ret true → e.Answers ret
  settled : x.settled.value.isSome → ∃ ret, e.Answers ret
  signalled : ∀ ret, x.asker = .gaveBack ret true → x.settled.value.isSome

structure Ok (ph : Phase) (x : Exchange) : Prop where
  asked : x.stage = .unserved ∨ (x.asker ≠ .absent ∧ x.asker ≠ .sending)
  stage : match x.stage with
    | .unserved => (ph = .away ∨ ph = .stopped) ∧ Quiet x
    | .called _ => ph = .lending ∧ Quiet x
    | .taken port => (ph = .handing port ∧ Quiet x) ∨ (ph = .waiting ∧ Lent true port x) ∨ (ph = .stopped ∧ Lent false port x)
    | .ended _ e => (ph = .away ∨ ph = .stopped ∨ (ph = .settling ∧ ∃ ret, e.Answers ret)) ∧ Over e x

/-- A request that ends without a loan. -/
theorem Quiet.over {x : Exchange} (h : Quiet x) (e : LoanEnd) {reply : OneShot (Except LoanRefusal Transport)}
    (hr : ∀ t, reply.value ≠ some (.ok t)) (st : Stage) : Over e { x with reply := reply, stage := st } := by
  have ha := h.asker
  refine ⟨hr, fun t ht => ?_, h.back, fun ret hret => ?_, fun hs => ?_, fun ret hret => ?_⟩
  · rw [show x.asker = .holding t from ht] at ha
    exact ha
  · rcases hret with hret | hret
    · rw [show x.asker = .returning ret from hret] at ha
      exact ha.elim
    · rw [show x.asker = .gaveBack ret true from hret] at ha
      exact ha.elim
  · rw [show x.settled.value = none from h.settled] at hs
    cases hs
  · rw [show x.asker = .gaveBack ret true from hret] at ha
    exact ha.elim

/-- A request that ends with the hand-back. -/
theorem Lent.over {port : Transport} {x : Exchange} (h : Lent true port x) {e : LoanEnd}
    (hv : ∀ ret, x.back.value = some ret → ∀ ret', ret' = ret → e.Answers ret')
    (hn : x.back.value = none → x.back.sender = false) {back : OneShot LoanReturn} (hb : back.value = none) (st : Stage) :
    Over e { x with back := back, stage := st } := by
  obtain ⟨hout, hrc, hset⟩ := h
  have hsettled : x.settled.value.isSome → ∃ ret, e.Answers ret := by simp [hset]
  cases hout with
  | reply ha hr hb' hs =>
    rw [hn hb'] at hs
    cases hs
  | held t ha hr hb' hs hp =>
    rw [hn hb'] at hs
    cases hs
  | back ret ha hr hb' hp =>
    rcases hb' with hb' | ⟨-, hb'⟩
    · refine ⟨by simp [hr], fun t ht => ?_, hb, fun ret' hret => ?_, hsettled, fun ret' hret => ?_⟩
      · rcases ha with ha | ha <;> rw [show x.asker = .holding t from ht] at ha <;> cases ha
      · refine hv ret hb' ret' ?_
        rcases ha with ha | ha <;> rcases hret with hret | hret <;> simp [ha] at hret
        exact hret.symm
      · rcases ha with ha | ha <;> simp [ha] at hret
    · rw [hrc rfl] at hb'
      cases hb'
  | gone ha hr hp =>
    refine ⟨by simp [hr], fun t ht => ?_, hb, fun ret' hret => ?_, hsettled, fun ret' hret => by simp [ha] at hret⟩
    · rw [show x.asker = .holding t from ht] at ha
      cases ha
    · rcases hret with hret | hret <;> simp [ha] at hret

/-! ## What a borrower does to its request -/

/-- A borrower's move, where it can make one, or the drop of its unread request. `new` is what it can open. -/
inductive Acts (new : Option Transport) : Exchange → Exchange → Prop where
  | ask (x : Exchange) (accept : Bool) (h : x.asker = .absent) :
      Acts new x { x with acceptDisconnected := accept, asker := .sending }
  | sent (x : Exchange) (h : x.asker = .sending) : Acts new x { x with asker := .waiting }
  | unsent (x : Exchange) (e : LoanRefusal) (h : x.asker = .sending) :
      Acts new x { x with asker := .refused e, reply := x.reply.dropReceiver }
  | look (x : Exchange) (h : x.asker = .waiting) : Acts new x x.look
  | late (x : Exchange) (h : x.asker = .waiting) : Acts new x { x with asker := .late }
  | close (x : Exchange) (h : x.asker = .late) : Acts new x { x with asker := .closed, reply := x.reply.close }
  | lateLook (x : Exchange) (h : x.asker = .closed) : Acts new x x.lateLook
  | dropPort (x : Exchange) (t : Transport) (h : x.asker = .holding (some t)) :
      Acts new x { x with asker := .holding none, letGo := true }
  | openPort (x : Exchange) (t : Option Transport) (port : Transport) (hnew : new = some port) (h : x.asker = .holding t) :
      Acts new x { x with asker := .holding (some port), letGo := x.letGo || t.isSome }
  | giveBack (x : Exchange) (t : Option Transport) (path : Option String) (h : x.asker = .holding t) :
      Acts new x (x.giveBack t path)
  | settled (x : Exchange) (ret : LoanReturn) (h : x.asker = .returning ret) : Acts new x (x.settle ret)
  | settleTimeout (x : Exchange) (ret : LoanReturn) (h : x.asker = .returning ret) : Acts new x (x.settleTimeout ret)
  | drop (x : Exchange) : Acts new x x.drop
  | unheard (x : Exchange) : Acts new x { x with reply := x.reply.dropSender }

namespace Acts

variable {new : Option Transport} {x x' : Exchange}

theorem stage (h : Acts new x x') : x'.stage = x.stage := by
  cases h with
  | look h => unfold Exchange.look; split <;> first | rfl | (split <;> rfl)
  | lateLook h => unfold Exchange.lateLook; split <;> rfl
  | settled ret h => unfold Exchange.settle; split <;> first | rfl | (split <;> rfl)
  | _ => rfl

theorem quiet (h : Acts new x x') (hq : Quiet x) : Quiet x' := by
  obtain ⟨hr, ha, hh, hb, hrc, hs, hset⟩ := hq
  cases h with
  | look h =>
    simp only [Exchange.look, hr]
    split
    · exact ⟨hr, ha, hh, hb, hrc, hs, hset⟩
    · exact ⟨by simp, trivial, by simp, hb, hrc, by simpa [h] using hs, hset⟩
  | lateLook h =>
    simp only [Exchange.lateLook, hr]
    exact ⟨by simp, trivial, by simp, hb, hrc, by simpa [h] using hs, hset⟩
  | dropPort t h => simp [h, Asker.Without] at ha
  | openPort t port hnew h => simp [h, Asker.Without] at ha
  | giveBack t path h => simp [h, Asker.Without] at ha
  | settled ret h => simp [h, Asker.Without] at ha
  | settleTimeout ret h => simp [h, Asker.Without] at ha
  | drop => exact ⟨by simp [Exchange.drop], trivial, by simp [Exchange.drop], hb, hrc, .inr rfl, hset⟩
  | unheard => exact ⟨by simpa using hr, ha, by simpa using hh, hb, hrc, hs, hset⟩
  | ask accept h => exact ⟨hr, trivial, fun _ => trivial, hb, hrc, by simpa [h] using hs, hset⟩
  | sent h => exact ⟨hr, trivial, fun _ => trivial, hb, hrc, by simpa [h] using hs, hset⟩
  | unsent e h => exact ⟨by simp, trivial, by simp, hb, hrc, by simpa [h] using hs, hset⟩
  | late h => exact ⟨hr, trivial, fun _ => trivial, hb, hrc, by simpa [h] using hs, hset⟩
  | close h => exact ⟨by simpa using hr, trivial, by simp, hb, hrc, by simpa [h] using hs, hset⟩

/-- The answer, or what became of the port since, goes on as `Out` says. -/
theorem lent (h : Acts new x x') {open_ : Bool} {p : Transport} (hl : Lent open_ p x) : Lent open_ p x' := by
  obtain ⟨hout, hrc, hset⟩ := hl
  cases h with
  | ask accept h => cases hout <;> simp_all [Asker.Awaits]
  | sent h => cases hout <;> simp_all [Asker.Awaits]
  | unsent e h => cases hout <;> simp_all [Asker.Awaits]
  | look h =>
    cases hout with
    | reply ha hr hb hs =>
      simp only [Exchange.look, hr]
      exact ⟨.held _ rfl (by simp) hb hs (.inr rfl), hrc, hset⟩
    | _ => simp_all
  | late h =>
    cases hout with
    | reply ha hr hb hs => exact ⟨.reply trivial hr hb hs, hrc, hset⟩
    | _ => simp_all
  | close h =>
    cases hout with
    | reply ha hr hb hs => exact ⟨.reply trivial (by simpa using hr) hb hs, hrc, hset⟩
    | _ => simp_all
  | lateLook h =>
    cases hout with
    | reply ha hr hb hs =>
      simp only [Exchange.lateLook, hr]
      exact ⟨.held _ rfl (by simp) hb hs (.inr rfl), hrc, hset⟩
    | _ => simp_all
  | dropPort t h =>
    cases hout with
    | held t' ha hr hb hs hp => exact ⟨.held none rfl hr hb hs (.inl rfl), hrc, hset⟩
    | _ => simp_all [Asker.Awaits]
  | openPort t port hnew h =>
    cases hout with
    | held t' ha hr hb hs hp =>
      have hgone : (x.letGo || t.isSome) = true := by
        rcases hp with hp | rfl
        · simp [hp]
        · obtain rfl : t = some p := by simpa [h] using ha
          simp
      exact ⟨.held _ rfl hr hb hs (.inl hgone), hrc, hset⟩
    | _ => simp_all [Asker.Awaits]
  | giveBack t path h =>
    cases hout with
    | held t' ha hr hb hs hp =>
      obtain rfl : t = t' := by simpa [h] using ha
      refine ⟨?_, by simpa [Exchange.giveBack] using hrc, hset⟩
      cases hopen : x.back.receiver with
      | true =>
        refine .back (.of t path) (.inl (by simp [Exchange.giveBack, hopen])) hr (.inl (by simp [Exchange.giveBack, hopen])) ?_
        rcases hp with hp | rfl
        · exact .inl (by simp [Exchange.giveBack, hp])
        · cases path with
          | none => exact .inl (by simp [Exchange.giveBack])
          | some path => exact .inr (.inr ⟨path, by simp [Exchange.giveBack, hopen, LoanReturn.of]⟩)
      | false =>
        refine .back (.of t path) (.inr (by simp [Exchange.giveBack, hopen])) hr
          (.inr ⟨by simp [Exchange.giveBack, hopen, hb], by simp [Exchange.giveBack, hopen]⟩) (.inl ?_)
        rcases hp with hp | rfl
        · simp [Exchange.giveBack, hp]
        · simp [Exchange.giveBack, hopen]
    | _ => simp_all [Asker.Awaits]
  | settled ret h =>
    cases hout with
    | back ret' ha hr hb hp =>
      obtain rfl : ret = ret' := by simpa [h] using ha
      simp only [Exchange.settle, hset, Option.isSome_none, Bool.false_eq_true, if_false]
      split
      · exact ⟨.back ret ha hr hb hp, hrc, hset⟩
      · exact ⟨.back ret (.inr rfl) hr hb hp, hrc, hset⟩
    | _ => simp_all [Asker.Awaits]
  | settleTimeout ret h =>
    cases hout with
    | back ret' ha hr hb hp =>
      obtain rfl : ret = ret' := by simpa [h] using ha
      exact ⟨.back ret (.inr (by simp [Exchange.settleTimeout, hset])) hr hb hp, hrc, hset⟩
    | _ => simp_all [Asker.Awaits]
  | drop =>
    refine ⟨.gone rfl (by simp [Exchange.drop]) ?_, hrc, hset⟩
    cases hout with
    | reply ha hr hb hs => exact .inl (by simp [Exchange.drop, hr, Except.isOk, Except.toBool])
    | held t ha hr hb hs hp =>
      left
      rcases hp with hp | rfl
      · simp [Exchange.drop, hp]
      · simp [Exchange.drop, Exchange.held, ha]
    | back ret ha hr hb hp | gone ha hr hp =>
      rcases hp with hp | hp | hp
      · exact .inl (by simp [Exchange.drop, hp])
      · exact .inr (.inl hp)
      · exact .inr (.inr hp)
  | unheard =>
    refine ⟨?_, hrc, hset⟩
    cases hout with
    | reply ha hr hb hs => exact .reply ha (by simpa using hr) hb hs
    | held t ha hr hb hs hp => exact .held t ha (by simpa using hr) hb hs hp
    | back ret ha hr hb hp => exact .back ret ha (by simpa using hr) hb hp
    | gone ha hr hp => exact .gone ha (by simpa using hr) hp

/-- A request the loop is done with stays so. -/
theorem keep_over (h : Acts new x x') {e : LoanEnd} (ho : Over e x) (hasked : x.asker ≠ .absent ∧ x.asker ≠ .sending) :
    Over e x' := by
  obtain ⟨hr, hhold, hb, hret, hset, hsig⟩ := ho
  cases h with
  | ask accept h => exact absurd h hasked.1
  | sent h => exact absurd h hasked.2
  | unsent e h => exact absurd h hasked.2
  | look h =>
    unfold Exchange.look
    split
    · next port hv => exact absurd hv (hr port)
    · exact ⟨by simp, by simp, hb, by simp, hset, by simp⟩
    · split
      · exact ⟨hr, hhold, hb, hret, hset, hsig⟩
      · exact ⟨by simp, by simp, hb, by simp, hset, by simp⟩
  | late h => exact ⟨hr, by simp, hb, by simp, hset, by simp⟩
  | close h => exact ⟨by simpa using hr, by simp, hb, by simp, hset, by simp⟩
  | lateLook h =>
    unfold Exchange.lateLook
    split
    · next port hv => exact absurd hv (hr port)
    · exact ⟨by simp, by simp, hb, by simp, hset, by simp⟩
    · exact ⟨by simp, by simp, hb, by simp, hset, by simp⟩
  | dropPort t h => exact absurd h (hhold _)
  | openPort t port hnew h => exact absurd h (hhold _)
  | giveBack t path h => exact absurd h (hhold _)
  | settled ret h =>
    unfold Exchange.settle
    split
    · next hs => exact ⟨hr, by simp, hb, by simpa using hret ret (.inl h), hset, fun _ _ => hs⟩
    · split
      · exact ⟨hr, hhold, hb, hret, hset, hsig⟩
      · exact ⟨hr, by simp, hb, by simp, hset, by simp⟩
  | settleTimeout ret h =>
    refine ⟨hr, by simp [Exchange.settleTimeout], hb, fun ret' h' => ?_, hset, fun ret' h' => ?_⟩
    · obtain ⟨rfl, -⟩ : ret = ret' ∧ x.settled.value.isSome = true := by simpa [Exchange.settleTimeout] using h'
      exact hret ret (.inl h)
    · obtain ⟨-, hs⟩ : ret = ret' ∧ x.settled.value.isSome = true := by simpa [Exchange.settleTimeout] using h'
      exact hs
  | drop => exact ⟨by simp [Exchange.drop], by simp [Exchange.drop], hb, by simp [Exchange.drop], hset, by simp [Exchange.drop]⟩
  | unheard => exact ⟨by simpa using hr, hhold, hb, hret, hset, hsig⟩

theorem asked (h : Acts new x x') (ha : x.asker ≠ .absent ∧ x.asker ≠ .sending) :
    x'.asker ≠ .absent ∧ x'.asker ≠ .sending := by
  cases h with
  | ask accept h => exact absurd h ha.1
  | look h =>
    unfold Exchange.look
    split
    · simp
    · simp
    · split
      · exact ha
      · simp
  | lateLook h =>
    unfold Exchange.lateLook
    split <;> simp
  | settled ret h =>
    unfold Exchange.settle
    split
    · simp
    · split
      · exact ha
      · simp
  | giveBack t path h =>
    simp only [Exchange.giveBack]
    split <;> simp
  | unheard => exact ha
  | _ => simp [Exchange.settleTimeout, Exchange.drop]

/-- A borrower's move keeps its request as the loop left it. -/
theorem ok (h : Acts new x x') {ph : Phase} (hx : Ok ph x) : Ok ph x' := by
  obtain ⟨hasked, hstage⟩ := hx
  have hs := h.stage
  refine ⟨?_, ?_⟩
  · rw [hs]
    exact hasked.imp_right h.asked
  · rw [hs]
    cases hst : x.stage with
    | unserved =>
      rw [hst] at hstage
      exact ⟨hstage.1, h.quiet hstage.2⟩
    | called o =>
      rw [hst] at hstage
      exact ⟨hstage.1, h.quiet hstage.2⟩
    | taken p =>
      rw [hst] at hstage
      exact hstage.imp (.imp_right h.quiet) (.imp (.imp_right h.lent) (.imp_right h.lent))
    | ended o e =>
      rw [hst] at hstage hasked
      exact ⟨hstage.1, h.keep_over hstage.2 (hasked.resolve_left (by simp))⟩

end Acts

/-- Where the ports of a request go in one borrower's move. -/
inductive Shift (new : Option Transport) (x x' : Exchange) : Prop where
  | keep (hr : ∀ t, x'.replyPort = some t → x.replyPort = some t)
      (hh : ∀ t, x'.held = some t → x.held = some t ∨ new = some t)
      (hb : ∀ t, x'.backPort = some t → x.backPort = some t)
  | took (hr : x'.replyPort = none) (hh : x'.held = x.replyPort) (hb : x'.backPort = x.backPort)
  | gave (hr : x'.replyPort = x.replyPort) (hh : x'.held = none) (hb : ∀ t, x'.backPort = some t → x.held = some t)

theorem Acts.shift {new : Option Transport} {x x' : Exchange} (h : Acts new x x') : Shift new x x' := by
  cases h with
  | ask accept h => exact .keep (fun _ => id) (by simp [Exchange.held]) fun _ => id
  | sent h => exact .keep (fun _ => id) (by simp [Exchange.held]) fun _ => id
  | unsent e h => exact .keep (by simp [Exchange.replyPort]) (by simp [Exchange.held]) fun _ => id
  | look h =>
    unfold Exchange.look
    split
    · next port hv => exact .took (by simp [Exchange.replyPort]) (by simp [Exchange.held, Exchange.replyPort, hv]; rfl) rfl
    · exact .keep (by simp [Exchange.replyPort]) (by simp [Exchange.held]) fun _ => id
    · split
      · exact .keep (fun _ => id) (fun _ => .inl) fun _ => id
      · exact .keep (by simp [Exchange.replyPort]) (by simp [Exchange.held]) fun _ => id
  | late h => exact .keep (fun _ => id) (by simp [Exchange.held]) fun _ => id
  | close h => exact .keep (fun _ => id) (by simp [Exchange.held]) fun _ => id
  | lateLook h =>
    unfold Exchange.lateLook
    split
    · next port hv => exact .took (by simp [Exchange.replyPort]) (by simp [Exchange.held, Exchange.replyPort, hv]; rfl) rfl
    · exact .keep (by simp [Exchange.replyPort]) (by simp [Exchange.held]) fun _ => id
    · exact .keep (by simp [Exchange.replyPort]) (by simp [Exchange.held]) fun _ => id
  | dropPort t h => exact .keep (fun _ => id) (by simp [Exchange.held]) fun _ => id
  | openPort t port hnew h => exact .keep (fun _ => id) (by simp [Exchange.held, hnew]) fun _ => id
  | giveBack t path h =>
    cases hopen : x.back.receiver with
    | true =>
      refine .gave rfl (by simp [Exchange.giveBack, Exchange.held, hopen]) fun t' ht => ?_
      cases t <;> cases path <;> simp_all [Exchange.giveBack, Exchange.backPort, Exchange.held, LoanReturn.of]
    | false =>
      refine .keep (fun _ => id) (by simp [Exchange.giveBack, Exchange.held, hopen]) fun t' ht => ?_
      simpa [Exchange.giveBack, Exchange.backPort, hopen] using ht
  | settled ret h =>
    unfold Exchange.settle
    split
    · exact .keep (fun _ => id) (by simp [Exchange.held]) fun _ => id
    · split
      · exact .keep (fun _ => id) (fun _ => .inl) fun _ => id
      · exact .keep (fun _ => id) (by simp [Exchange.held]) fun _ => id
  | settleTimeout ret h => exact .keep (fun _ => id) (by simp [Exchange.held, Exchange.settleTimeout]) fun _ => id
  | drop => exact .keep (by simp [Exchange.drop, Exchange.replyPort]) (by simp [Exchange.drop, Exchange.held]) fun _ => id
  | unheard => exact .keep (fun _ => id) (fun _ => .inl) fun _ => id

end ControlOfc.PortLoan
