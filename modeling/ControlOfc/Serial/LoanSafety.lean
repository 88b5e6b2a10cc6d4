import ControlOfc.Serial.LoanInv
/-! # The lent port is never lost

* `step_did` — what one move does to the world.
* `port_loan_safe` — the four things a run keeps.
* `unread_hand_back` — the one way a port leaves without its borrower.
-/
namespace ControlOfc.PortLoan

/-! ## Runs -/

/-- What one move does to the world. -/
inductive Did (w : World) : World → Prop where
  | flags (w' : World) (hslot : w'.slot = w.slot) (hloop : w'.loop = w.loop) (hex : w'.exchanges = w.exchanges)
      (hqueue : w'.queue = w.queue) (hnext : w'.next = w.next) : Did w w'
  | slotOnly (w' : World) (hidle : w.loop = .idle) (hloop : w'.loop = .idle ∨ w'.loop = .stopped)
      (hex : w'.exchanges = w.exchanges) (hqueue : w'.queue = w.queue)
      (hslot : (w'.slot = w.slot ∧ w'.next = w.next) ∨
        (w'.slot.tag = w.next ∧ w'.slot.kind ≠ .maintenance ∧ w'.next = w.next + 1)) : Did w w'
  | exit (hidle : w.loop = .idle) : Did w w.exit
  | recv (hidle : w.loop = .idle) : Did w w.recv
  | refuse (b : Nat) (hl : w.loop = .lending b) (e : LoanRefusal) : Did w (w.refuse b e)
  | swap (b : Nat) (hl : w.loop = .lending b) : Did w (w.swap b)
  | answer (b : Nat) (port : Transport) (hl : w.loop = .handing b port) : Did w (w.answer b port)
  | wake (b : Nat) (port : Transport) (hl : w.loop = .waiting b) (hst : (w.ex b).stage = .taken port) : Did w (w.wake b port)
  | finish (b : Nat) (hl : w.loop = .settling b) : Did w (w.finish b)
  | acts (b n : Nat) (q : Option Nat) (new : Option Transport) (x' : Exchange) (ha : Acts new (w.ex b) x')
      (hnew : ∀ p, new = some p → p = w.fresh .port ∧ w.next < n) (hn : w.next ≤ n)
      (hq : ∀ b', q = some b' → w.queue = some b' ∨ (b' = b ∧ (w.ex b).asker = .sending ∧
        x'.asker ≠ .absent ∧ x'.asker ≠ .sending)) :
      Did w ({ w with next := n, queue := q }.update b x')

theorem Did.refl (w : World) : Did w w := .flags w rfl rfl rfl rfl rfl

/-- A borrower's move that leaves the queue alone. -/
theorem Did.of_acts {w : World} {b : Nat} {x' : Exchange} (ha : Acts none (w.ex b) x') : Did w (w.update b x') :=
  .acts b w.next w.queue none x' ha nofun (Nat.le_refl _) fun _ => .inl

theorem step_did (w : World) (m : Move) : Did w (w.step m) := by
  cases m <;> dsimp only [World.step]
  case stop => exact .flags _ rfl rfl rfl rfl rfl
  case poll ok =>
    split
    · exact .flags _ rfl rfl rfl rfl rfl
    · exact .refl w
  case release =>
    split
    · next hc => exact .slotOnly _ hc.1 (.inl hc.1) rfl rfl (.inr ⟨rfl, by simp [World.fresh], rfl⟩)
    · exact .refl w
  case adopt =>
    split
    · next hc => exact .slotOnly _ hc.1 (.inl hc.1) rfl rfl (.inr ⟨rfl, by simp [World.fresh], rfl⟩)
    · exact .refl w
  case exit =>
    split
    · next hc => exact .exit hc.1
    · exact .refl w
  case recv =>
    split
    · next hc => exact .recv hc.1
    · exact .refl w
  case refuse =>
    split
    · next b hl =>
      split
      · exact .refuse b hl _
      · exact .refl w
    · exact .refl w
  case swap =>
    split
    · next b hl =>
      split
      · exact .swap b hl
      · exact .refl w
    · exact .refl w
  case swapFails =>
    split
    · next b hl =>
      split
      · exact .refuse b hl _
      · exact .refl w
    · exact .refl w
  case answer =>
    split
    · next b port hl => exact .answer b port hl
    · exact .refl w
  case wake =>
    split
    · next b hl =>
      split
      · next port hst => exact .wake b port hl hst
      · exact .refl w
    · exact .refl w
  case finish =>
    split
    · next b hl => exact .finish b hl
    · exact .refl w
  case ask b accept =>
    split
    · next ha => exact .of_acts (.ask _ accept ha)
    · exact .refl w
  case send b =>
    split
    · next ha =>
      unfold World.send
      split
      · exact .of_acts (.unsent _ _ ha)
      · split
        · exact .acts b w.next (some b) none _ (.sent _ ha) (fun _ h => by cases h) (Nat.le_refl _)
            fun b' hb' => .inr ⟨(Option.some.inj hb').symm, ha, by simp, by simp⟩
        · exact .refl w
    · exact .refl w
  case sendTimeout b =>
    split
    · next ha => exact .of_acts (.unsent _ _ ha)
    · exact .refl w
  case look b =>
    split
    · next ha => exact .of_acts (.look _ ha)
    · exact .refl w
  case timeUp b =>
    split
    · next ha =>
      unfold Exchange.timeUp
      split
      · exact .of_acts (.late _ ha)
      · exact .of_acts (.look _ ha)
    · exact .refl w
  case close b =>
    split
    · next ha => exact .of_acts (.close _ ha)
    · exact .refl w
  case lateLook b =>
    split
    · next ha => exact .of_acts (.lateLook _ ha)
    · exact .refl w
  case dropPort b =>
    split
    · next t ha => exact .of_acts (.dropPort _ t ha)
    · exact .refl w
  case openPort b =>
    split
    · next t ha =>
      exact .acts b (w.next + 1) w.queue (some (w.fresh .port)) _ (.openPort _ t _ rfl ha)
        (fun p hp => ⟨(Option.some.inj hp).symm, Nat.lt_succ_self _⟩) (Nat.le_succ _) fun _ => .inl
    · exact .refl w
  case giveBack b path =>
    split
    · next t ha => exact .of_acts (.giveBack _ t path ha)
    · exact .refl w
  case settled b =>
    split
    · next ret ha => exact .of_acts (.settled _ ret ha)
    · exact .refl w
  case settleTimeout b =>
    split
    · next ret ha => exact .of_acts (.settleTimeout _ ret ha)
    · exact .refl w
  case drop b => exact .of_acts (.drop _)

/-- The step lemma. -/
theorem Inv.step {w : World} (h : Inv w) (m : Move) : Inv (w.step m) := by
  have hdid := step_did w m
  generalize w.step m = w' at hdid ⊢
  cases hdid with
  | flags _ hslot hloop hex hqueue hnext =>
    obtain ⟨slot, connected, stop, queue, loop, exchanges, next⟩ := w'
    subst hslot hloop hex hqueue hnext
    exact ⟨h.ok, h.queued, h.called, ⟨h.boxes.fresh, h.boxes.apart⟩, h.clean⟩
  | slotOnly _ hidle hloop hex hqueue hslot => exact h.slotOnly hidle hloop hex hqueue hslot
  | exit hidle =>
    have hstop : Inv { w with loop := .stopped } := h.slotOnly hidle (.inr rfl) rfl rfl (.inl ⟨rfl, rfl⟩)
    exact hstop.closeQueue
  | recv hidle => exact h.recv hidle
  | refuse b hl e => exact h.refuse hl e
  | swap b hl => exact h.swap hl
  | answer b port hl => exact h.answer hl
  | wake b port hl hst => exact h.wake hl hst
  | finish b hl => exact h.finish hl
  | acts b n q new x' ha hnew hn hq =>
    refine h.acts ha hnew hn fun b' hb' => (hq b' hb').imp_right ?_
    rintro ⟨hbb, hs, hasked⟩
    refine ⟨hbb, ?_, hasked⟩
    exact (h.ok b).asked.resolve_right fun hno => hno.2 hs

theorem inv_start (slot : Transport) (hs : slot.kind ≠ .maintenance) : Inv (World.start slot) := by
  have hplaces : ∀ x t, (World.start slot).holds x = some t → x = .slot ∧ t = slot := by
    intro x t ht
    cases x with
    | slot => exact ⟨rfl, (Option.some.inj ht).symm⟩
    | _ => cases ht
  refine ⟨fun b => ⟨.inl rfl, .inl rfl, rfl, trivial, fun _ => trivial, rfl, rfl, .inl rfl, rfl⟩, nofun, nofun,
    ⟨fun x t ht => ?_, fun x y t t' ht ht' _ => ?_⟩, fun x t ht hk => ?_⟩
  · obtain ⟨-, rfl⟩ := hplaces x t ht
    exact Nat.lt_succ_self _
  · rw [(hplaces x t ht).1, (hplaces y t' ht').1]
  · obtain ⟨-, rfl⟩ := hplaces x t ht
    exact absurd hk hs

theorem inv_run (slot : Transport) (hs : slot.kind ≠ .maintenance) (ms : List Move) :
    Inv (Machine.run World.step (World.start slot) ms) :=
  Machine.run_inv (fun _ m h => h.step m) _ ms (inv_start slot hs)

/-! ## What a run says -/

variable {w w' : World}

/-- A port is handed to `b` by a loop that hands it. -/
theorem loop_handing {l : LoopState} {b : Nat} {port : Transport} (h : l.phase b = .handing port) :
    l = .handing b port := by
  cases l with
  | idle => cases h
  | stopped => cases h
  | handing b' port' =>
    by_cases hb : b' = b
    · subst hb
      simpa [LoopState.phase] using h
    · simp [LoopState.phase, hb] at h
  | lending b' => by_cases hb : b' = b <;> simp [LoopState.phase, hb] at h
  | waiting b' => by_cases hb : b' = b <;> simp [LoopState.phase, hb] at h
  | settling b' => by_cases hb : b' = b <;> simp [LoopState.phase, hb] at h

/-- A port that was lent is in one place, until its borrower lets it go or the loop stops over it. -/
theorem Inv.one_place (h : Inv w) {b : Nat} {port : Transport} (hst : (w.ex b).stage = .taken port)
    (hgo : (w.ex b).letGo = false) (hun : (w.ex b).unread = false) :
    ∃ x, (x = .hand ∨ x = .reply b ∨ x = .borrower b ∨ x = .back b) ∧ w.holds x = some port ∧
      ∀ y, w.holds y = some port → y = x := by
  have hone {x : Place} (hx : x = .hand ∨ x = .reply b ∨ x = .borrower b ∨ x = .back b) (hp : w.holds x = some port) :
      ∃ x, (x = .hand ∨ x = .reply b ∨ x = .borrower b ∨ x = .back b) ∧ w.holds x = some port ∧
        ∀ y, w.holds y = some port → y = x :=
    ⟨x, hx, hp, fun y hy => h.boxes.apart y x port port hy hp rfl⟩
  have hout (hout : Out port (w.ex b)) : ∃ x, (x = .hand ∨ x = .reply b ∨ x = .borrower b ∨ x = .back b) ∧
      w.holds x = some port ∧ ∀ y, w.holds y = some port → y = x := by
    have hleft (hp : (w.ex b).letGo = true ∨ (w.ex b).unread = true ∨ ∃ path, (w.ex b).back.value = some (.port port path)) :
        ∃ path, (w.ex b).back.value = some (.port port path) := by
      simpa [hgo, hun] using hp
    cases hout with
    | reply ha hr hb hs => exact hone (.inr (.inl rfl)) (by simp [World.holds, Exchange.replyPort, hr, Except.toOption])
    | held t ha hr hb hs hp =>
      obtain rfl : t = some port := by simpa [hgo] using hp
      exact hone (.inr (.inr (.inl rfl))) (by simp [World.holds, Exchange.held, ha])
    | back ret ha hr hb hp =>
      obtain ⟨path, hv⟩ := hleft hp
      exact hone (.inr (.inr (.inr rfl))) (by simp [World.holds, Exchange.backPort, hv])
    | gone ha hr hp =>
      obtain ⟨path, hv⟩ := hleft hp
      exact hone (.inr (.inr (.inr rfl))) (by simp [World.holds, Exchange.backPort, hv])
  have hok := (h.ok b).stage
  rw [hst] at hok
  rcases hok with ⟨hph, -⟩ | ⟨-, hl⟩ | ⟨-, hl⟩
  · have hloop : w.loop = .handing b port := loop_handing hph
    exact hone (.inl rfl) (by simp [World.holds, hloop])
  · exact hout hl.out
  · exact hout hl.out

/-- A borrower whose request was refused lost nothing: if the loop has taken the port for it, the loop's
next step puts it back. -/
theorem Inv.refused_back (h : Inv w) {b : Nat} {port : Transport} {e : LoanRefusal} (ha : (w.ex b).asker = .refused e)
    (hst : (w.ex b).stage = .taken port) :
    w.loop = .handing b port ∧ (w.step .answer).slot = port ∧
      ((w.step .answer).ex b).stage = .ended port .abandoned := by
  have hok := (h.ok b).stage
  have hno {open_ : Bool} (hl : Lent open_ port (w.ex b)) : False := by
    cases hl.out <;> simp_all [Asker.Awaits]
  rw [hst] at hok
  rcases hok with ⟨hph, hq⟩ | ⟨-, hl⟩ | ⟨-, hl⟩
  · have hloop : w.loop = .handing b port := loop_handing hph
    have hrc : (w.ex b).reply.receiver = false := by
      by_contra hrc
      have hears := hq.hears (by simpa using hrc)
      rw [ha] at hears
      exact hears
    refine ⟨hloop, ?_, ?_⟩ <;> simp [World.step, hloop, World.answer, hrc]
  · exact (hno hl).elim
  · exact (hno hl).elim

/-- How `lend` left the slot. -/
def EndsWell (o : Transport) (e : LoanEnd) (slot : Transport) : Prop :=
  slot.kind ≠ .maintenance ∧
    match e with
    | .refused | .abandoned => slot = o
    | .returned t _ => slot = t
    | .lost => slot.kind = .disconnected

theorem update_stage (w : World) (b b' : Nat) (x : Exchange) :
    ((w.update b' x).ex b).stage = if b = b' then x.stage else (w.ex b).stage := by
  rw [World.update_ex]
  split <;> rfl

theorem closeQueue_stage (w : World) (b : Nat) : (w.closeQueue.ex b).stage = (w.ex b).stage := by
  unfold World.closeQueue
  split
  · rw [update_stage]
    split
    · next hbb => exact hbb ▸ rfl
    · rfl
  · rfl

/-- A move that ends a request leaves the slot as its end says. -/
theorem Inv.ends_well (h : Inv w) (m : Move) {b : Nat} {o : Transport} {e : LoanEnd}
    (hst : ((w.step m).ex b).stage = .ended o e) (hnew : ∀ o' e', (w.ex b).stage ≠ .ended o' e') :
    ((w.ex b).stage = .called o ∨ (w.ex b).stage = .taken o) ∧ EndsWell o e (w.step m).slot := by
  have hinv := h.step m
  have hdid := step_did w m
  generalize w.step m = w' at hdid hst hinv ⊢
  have hhome (hw : ¬ w'.loop.Away) : w'.slot.kind ≠ .maintenance := hinv.no_maintenance hw (x := .slot) rfl
  have hkept (hw : (w'.ex b).stage = (w.ex b).stage) : False := hnew o e (hw.symm.trans hst)
  cases hdid with
  | flags _ hslot hloop hex hqueue hnext => exact (hkept (by rw [show w'.ex b = w.ex b from congrFun hex b])).elim
  | slotOnly _ hidle hloop hex hqueue hslot => exact (hkept (by rw [show w'.ex b = w.ex b from congrFun hex b])).elim
  | exit hidle => exact (hkept (closeQueue_stage _ b)).elim
  | recv hidle =>
    unfold World.recv at hst
    split at hst
    · rw [update_stage] at hst
      split at hst
      · cases hst
      · exact absurd hst (hnew o e)
    · exact absurd hst (hnew o e)
  | refuse b' hl e' =>
    have hkind := hhome (by simp [World.refuse, LoopState.Away])
    rw [World.refuse, update_stage] at hst
    split at hst
    · next hbb =>
      subst hbb
      cases hst
      have hok := (h.ok b).stage
      rw [(Inv.phase_lending hl).1] at hok
      cases hs : (w.ex b).stage <;> simp [hs] at hok
      exact ⟨.inl (by rw [h.called b _ hs]), hkind, rfl⟩
    · exact absurd hst (hnew o e)
  | swap b' hl =>
    rw [World.swap, update_stage] at hst
    split at hst
    · cases hst
    · exact absurd hst (hnew o e)
  | answer b' port hl =>
    cases hrc : (w.ex b').reply.receiver with
    | true =>
      rw [World.answer, if_pos hrc, update_stage] at hst
      split at hst
      · next hbb => exact absurd (hbb ▸ hst) (hnew o e)
      · exact absurd hst (hnew o e)
    | false =>
      have hw : w.answer b' port = { w with slot := port, loop := .idle }.update b' { w.ex b' with
          reply := (w.ex b').reply.dropSender, stage := .ended port .abandoned } := by simp [World.answer, hrc]
      rw [hw] at hst hhome ⊢
      have hkind := hhome (by simp [LoopState.Away])
      rw [update_stage] at hst
      split at hst
      · next hbb =>
        subst hbb
        cases hst
        have hok := (h.ok b).stage
        rw [(Inv.phase_handing hl).1] at hok
        cases hs : (w.ex b).stage <;> simp [hs] at hok
        exact ⟨.inr (by rw [hok.1]), hkind, rfl⟩
      · exact absurd hst (hnew o e)
  | finish b' hl =>
    rw [World.finish, update_stage] at hst
    split at hst
    · next hbb => exact absurd (hbb ▸ hst) (hnew o e)
    · exact absurd hst (hnew o e)
  | acts b' n q new x' ha hnew' hn hq =>
    rw [update_stage, ha.stage] at hst
    split at hst
    · next hbb => exact absurd (hbb ▸ hst) (hnew o e)
    · exact absurd hst (hnew o e)
  | wake b' port hl hs =>
    -- Every end of the wait that is not a stop installs something in the slot.
    have hinstalled {slot : Transport} {n : Nat} {back : OneShot LoanReturn} {e' : LoanEnd}
        (hw : w.wake b' port = { w with slot := slot, next := n, loop := .settling b' }.update b' { w.ex b' with
          back := back, stage := .ended port e' }) (hslot : EndsWell port e' slot ∨ slot.kind = .maintenance) :
        ((w.ex b).stage = .called o ∨ (w.ex b).stage = .taken o) ∧ EndsWell o e (w.wake b' port).slot := by
      rw [hw] at hst hhome ⊢
      have hkind := hhome (by simp [LoopState.Away])
      rw [update_stage] at hst
      split at hst
      · next hbb =>
        subst hbb
        cases hst
        exact ⟨.inr hs, hslot.resolve_right hkind⟩
      · exact absurd hst (hnew o e)
    cases hstop : w.stop with
    | true =>
      have hw : ((w.wake b' port).ex b).stage = (w.ex b).stage := by
        rw [World.wake]
        simp only [hstop, if_true]
        rw [closeQueue_stage, update_stage]
        split
        · next hbb => exact hbb ▸ rfl
        · rfl
      exact (hkept hw).elim
    | false =>
      cases hv : (w.ex b').back.value with
      | some ret =>
        cases ret with
        | port t path =>
          refine hinstalled (by simp [World.wake, hstop, hv]; rfl) ?_
          by_cases hk : t.kind = .maintenance
          · exact .inr hk
          · exact .inl ⟨hk, rfl⟩
        | nothing => exact hinstalled (by simp [World.wake, hstop, hv]; rfl) (.inl ⟨by simp [World.fresh], rfl⟩)
      | none =>
        cases hsender : (w.ex b').back.sender with
        | true => exact (hkept (by simp [World.wake, hstop, hv, hsender])).elim
        | false => exact hinstalled (by simp [World.wake, hstop, hv, hsender]; rfl) (.inl ⟨by simp [World.fresh], rfl⟩)

/-- A borrower told that its hand-back settled: the loop installed just what it gave, and signalled it. -/
theorem Inv.settled (h : Inv w) {b : Nat} {ret : LoanReturn} (ha : (w.ex b).asker = .gaveBack ret true) :
    (w.ex b).settled.value = some () ∧ ∃ o e, (w.ex b).stage = .ended o e ∧ e.Answers ret := by
  have hok := (h.ok b).stage
  have hquiet (hq : Quiet (w.ex b)) : False := by
    have := hq.asker
    rw [ha] at this
    exact this
  have hlent {open_ : Bool} {port : Transport} (hl : Lent open_ port (w.ex b)) : False := by
    cases hl.out <;> simp_all [Asker.Awaits]
  cases hst : (w.ex b).stage with
  | ended o e =>
    rw [hst] at hok
    obtain ⟨⟨⟩, hv⟩ := Option.isSome_iff_exists.mp (hok.2.signalled ret ha)
    exact ⟨hv, o, e, rfl, hok.2.returning ret (.inr ha)⟩
  | unserved =>
    rw [hst] at hok
    exact (hquiet hok.2).elim
  | called o =>
    rw [hst] at hok
    exact (hquiet hok.2).elim
  | taken port =>
    rw [hst] at hok
    rcases hok with ⟨-, hq⟩ | ⟨-, hl⟩ | ⟨-, hl⟩
    · exact (hquiet hq).elim
    · exact (hlent hl).elim
    · exact (hlent hl).elim

/-- Over every interleaving: a lent port is in one place until its borrower lets it go or the loop stops over
its unread hand-back; a request refused for any reason loses nothing; every end of a request but a stop leaves
the slot as it should be; and a hand-back reported settled was installed and signalled. -/
theorem port_loan_safe (slot : Transport) (hs : slot.kind ≠ .maintenance) (ms : List Move) :
    let w := Machine.run World.step (World.start slot) ms
    (∀ b port, (w.ex b).stage = .taken port → (w.ex b).letGo = false → (w.ex b).unread = false →
      ∃ x, (x = .hand ∨ x = .reply b ∨ x = .borrower b ∨ x = .back b) ∧ w.holds x = some port ∧
        ∀ y, w.holds y = some port → y = x) ∧
    (∀ b port e, (w.ex b).asker = .refused e → (w.ex b).stage = .taken port →
      w.loop = .handing b port ∧ (w.step .answer).slot = port ∧ ((w.step .answer).ex b).stage = .ended port .abandoned) ∧
    (∀ m b o e, ((w.step m).ex b).stage = .ended o e → (∀ o' e', (w.ex b).stage ≠ .ended o' e') →
      ((w.ex b).stage = .called o ∨ (w.ex b).stage = .taken o) ∧ EndsWell o e (w.step m).slot) ∧
    (∀ b ret, (w.ex b).asker = .gaveBack ret true →
      (w.ex b).settled.value = some () ∧ ∃ o e, (w.ex b).stage = .ended o e ∧ e.Answers ret) := by
  intro w
  have hw : Inv w := inv_run slot hs ms
  exact ⟨fun b port => hw.one_place, fun b port e => hw.refused_back, fun m b o e => hw.ends_well m, fun b ret => hw.settled⟩

/-- Two borrowers in turn: the first leaves its request behind, the second gets the port and gives it back. -/
theorem port_loan_safe_stale :
    let w := Machine.run World.step (World.start ⟨.port, 0⟩)
      [.ask 0 false, .send 0, .timeUp 0, .close 0, .lateLook 0, .recv, .swap, .answer, .ask 1 false, .send 1, .recv,
        .swap, .answer, .look 1]
    ∀ b port, (w.ex b).stage = .taken port → (w.ex b).letGo = false → (w.ex b).unread = false →
      ∃ x, (x = .hand ∨ x = .reply b ∨ x = .borrower b ∨ x = .back b) ∧ w.holds x = some port ∧
        ∀ y, w.holds y = some port → y = x :=
  (port_loan_safe ⟨.port, 0⟩ (by decide) _).1

/-- A port given back as the daemon stops is nowhere, though its borrower neither dropped nor replaced it. -/
theorem unread_hand_back :
    let w := Machine.run World.step (World.start ⟨.port, 0⟩)
      [.ask 0 false, .send 0, .recv, .swap, .answer, .look 0, .giveBack 0 (some "/dev/ttyACM0"), .stop, .wake]
    (w.ex 0).stage = .taken ⟨.port, 0⟩ ∧ (w.ex 0).letGo = false ∧
      w.holds .slot ≠ some ⟨.port, 0⟩ ∧ w.holds .hand ≠ some ⟨.port, 0⟩ ∧ w.holds (.reply 0) ≠ some ⟨.port, 0⟩ ∧
      w.holds (.borrower 0) ≠ some ⟨.port, 0⟩ := by
  decide

end ControlOfc.PortLoan
