import ControlOfc.Firmware.MaintenanceInv
/-! # What a firmware update's journal and outcome are worth

* `wp_prepare` to `wp_onward`: each stage keeps the invariant, and leaves by an end it has earned.
* `asked_only_when_safe`: what was done and written down before the board is asked for its bootloader.
* `journal_is_ahead`: what is recovered from the journal after a crash at any point is so.
* `outcome_is_earned`: what each outcome says of the run.
* `loan_is_settled`: the port comes back once for every time it was borrowed, then the claim goes.
-/
namespace ControlOfc.Firmware.Maintenance
open Asking Ask

/-! ## The stages of a board that answers -/

section Stages

variable {ph : Phase} {n : Nat} {C : List Event → Prop} {s u : UpdateRun}

theorem Inv.once (h : Inv ph n C s) {p : Event → Bool} (hp : s.said.any p = true) : Inv ph n (fun l => C l ∧ l.any p = true) s :=
  h.become hp fun _ _ => any_append

theorem Inv.remember (h : Inv ph n C s) {e : Event} (he : e ∈ s.said) : Inv ph n (fun l => C l ∧ e ∈ l) s :=
  h.become he fun _ _ => List.mem_append_left _

theorem wp_prepare {serial : String} (h : Inv .fresh n C s) : (prepare serial).wp (fun _ => Inv .fresh n C) Ends s := by
  unfold prepare
  refine Act.wp_bind.mpr (h.wp_enter fun t h => h.wp_ask rfl fun port h => ?_)
  cases port with
  | none => exact h.wp_unchanged rfl
  | some adopted =>
    refine h.wp_ask rfl fun identity h => ?_
    cases identity with
    | none => exact h.wp_unchanged rfl
    | some identity =>
      dsimp only
      split
      · exact h.wp_unchanged rfl
      · refine h.wp_ask rfl fun infos h => ?_
        refine Act.wp_bind.mpr (h.wp_record ⟨rfl, rfl, rfl⟩ fun _ h => h.wp_ask rfl fun cancelled h => ?_)
        split
        · exact Act.wp_bind.mpr (h.wp_stop (.of_unchanged rfl rfl))
        · refine h.wp_ask rfl fun down h => ?_
          split
          · exact Act.wp_bind.mpr h.wp_interrupted
          · exact h

/-- Each channel was parked. -/
theorem wp_parkFrom {chs : List Nat} (h : Inv .fresh n C s) :
    (parkFrom chs).wp (fun _ => Inv .fresh n fun l => C l ∧ ∀ ch ∈ chs, ⟨Ask.park ch, some (.ok ())⟩ ∈ l) Ends s := by
  induction chs generalizing C s with
  | nil =>
    refine h.become (fun ch hch => by cases hch) fun _ _ hl ch hch => List.mem_append_left _ (hl ch hch)
  | cons ch rest ih =>
    unfold parkFrom
    refine h.wp_ask rfl fun cancelled h => ?_
    split
    · exact Act.wp_bind.mpr (h.wp_stop (.of_unchanged rfl rfl))
    · refine h.wp_ask rfl fun parked h => ?_
      rcases parked with _ | (_ | _)
      · exact h.wp_unchanged rfl
      · exact h.wp_unchanged rfl
      · have hdone := h.remember (e := ⟨Ask.park ch, some (.ok ())⟩) (by simp)
        refine (ih hdone).mono (fun _ t ht => ?_) fun l t ht => ht
        refine ht.restate ⟨ht.sure.1.1, fun c hc => ?_⟩ fun l e hl => ⟨h.lasting l e hl.1, fun c hc => ?_⟩
        · rcases List.mem_cons.mp hc with rfl | hc
          · exact ht.sure.1.2
          · exact ht.sure.2 c hc
        · exact List.mem_append_left _ (hl.2 c hc)

theorem wp_closeWindow {Q : Bool → UpdateRun → Prop} (h : Inv ph n C s)
    (hQ : ∀ b t, Inv ph n C t → ⟨closeCancelWindow, b⟩ ∈ t.said → Q b t) : closeWindow.wp Q Ends s := by
  unfold closeWindow
  rw [Act.wp_bind, wp_modify]
  have h' := h.of_mem (m := { s.mem with record := { s.mem.record with cancellable := false } }) rfl rfl rfl rfl h.handed
  exact h'.wp_last rfl fun b h => hQ b _ h (by simp)

theorem wp_park (h : Inv .fresh n C s) : park.wp (fun _ => Inv .fresh n fun l => C l ∧ Parked l) Ends s := by
  unfold park
  refine Act.wp_bind.mpr (h.wp_enter fun t h => h.wp_ask rfl fun suspended h => ?_)
  cases suspended with
  | false => exact Act.wp_bind.mpr (h.wp_unchanged rfl)
  | true =>
    have hheld := h.remember (e := ⟨suspendWrites, true⟩) (by simp)
    refine Act.wp_bind.mpr ((wp_parkFrom hheld).mono (fun _ t ht => ?_) fun l t ht => ht)
    refine Act.wp_bind.mpr (wp_closeWindow ht fun cancelled u hu hclosed => ?_)
    dsimp only
    split
    · exact Act.wp_bind.mpr (hu.wp_stop (.of_unchanged rfl rfl))
    · next hopen =>
      obtain rfl : cancelled = false := by simpa using hopen
      have hparked : Inv .fresh n (fun l => C l ∧ Parked l) u := hu.restate
        ⟨hu.sure.1.1, hu.sure.1.2, fun ch hch => hu.sure.2 ch (List.mem_range.mpr hch), hclosed⟩
        fun l e hl => ⟨h.lasting l e hl.1, hl.2.lasting e⟩
      refine hparked.wp_ask rfl fun down h => ?_
      split
      · exact h.wp_interrupted
      · exact h

theorem wp_awaitLeft (h : Inv ph n C s) : awaitLeft.wp (fun _ => Inv ph n C) Ends s := by
  unfold awaitLeft
  refine h.wp_ask rfl fun left h => ?_
  cases left with
  | found => exact h
  | deadline => exact h
  | shutdown => exact h.wp_interrupted

theorem wp_touch (h : Inv ph n C s) (hreq : ph.requested = true)
    (hC : ∀ l, C l → l.any isJump = true ∨ l.any heardNothing = true) : touch.wp (fun _ => Inv ph n C) Ends s := by
  unfold touch
  refine wp_askBind fun sent => ?_
  have h' := h.trigger (q := touch1200) sent rfl hreq (fun h => by cases h) fun _ => hC _ h.sure
  split
  · exact h'
  · exact h'.wp_note fun t h => h
  · exact h'.wp_note fun t h => h

theorem wp_sendJump (h : Inv ph n C s) (hreq : ph.requested = true) (hC : ∀ l, C l → Parked l) :
    sendJump.wp (fun _ => Inv ph n fun l => C l ∧ l.any isJump = true) Ends s := by
  unfold sendJump
  refine wp_askBind fun sent => ?_
  have h := h.trigger (q := jump) sent rfl hreq (fun _ => hC _ h.sure) fun h => by cases h
  have h := h.once (p := isJump) (by rw [note_said, any_snoc]; exact Bool.or_true _)
  cases sent with
  | none => exact h.wp_note fun t h => h
  | some sent =>
    dsimp only
    rw [Act.wp_bind, wp_modify]
    have h := h.port true
    split
    · exact h.wp_note fun t h => h
    · exact h

theorem wp_leaveNormalMode (h : Inv ph n C s) (hreq : ph.requested = true) (hC : ∀ l, C l → l.any isJump = true) :
    leaveNormalMode.wp (fun _ => Inv ph n C) Ends s := by
  unfold leaveNormalMode
  refine Act.wp_bind.mpr ((wp_awaitLeft h).mono (fun gone t h => ?_) fun l t h => h)
  split
  · exact h
  · refine Act.wp_bind.mpr (h.wp_record ⟨rfl, rfl, rfl⟩ fun b h => ?_)
    rw [Act.wp_bind, wp_get]
    dsimp only
    split
    · rw [Act.wp_bind, wp_modify]
      have h := h.port false
      exact Act.wp_bind.mpr ((wp_touch h hreq fun l hl => .inl (hC l hl)).mono (fun _ u h => wp_awaitLeft h) fun l t h => h)
    · exact wp_awaitLeft h

/-- The bootloader is asked for only once every channel is parked. -/
theorem wp_requestBootloader (h : Inv .fresh n (fun l => C l ∧ Parked l) s) :
    requestBootloader.wp (fun _ => Inv .asked n fun l => (C l ∧ Parked l) ∧ l.any isJump = true) Ends s := by
  unfold requestBootloader
  refine Act.wp_bind.mpr (h.wp_enter fun t h => wp_askBind fun borrowed => ?_)
  rcases borrowed with why | _
  · exact (h.unborrowed false why).wp_unchanged rfl
  · dsimp only
    rw [Act.wp_bind, wp_modify]
    have h := h.borrowed false (m := { t.mem with handle := true }) rfl rfl rfl
    refine Act.wp_bind.mpr (h.wp_request rfl rfl fun u h => ?_)
    refine Act.wp_bind.mpr ((wp_sendJump h rfl fun l hl => hl.2).mono (fun _ u h => ?_) fun l t h => h)
    exact wp_leaveNormalMode h rfl fun l hl => hl.2

theorem wp_inFirmware {α : Type} {Q : α → UpdateRun → Prop} (h : Inv ph n C s) (hseen : ph.sawBootloader = false)
    {tty what : String} :
    (inFirmware tty what).wp Q Ends s := by
  unfold inFirmware
  simp only [Act.wp_bind, wp_get, wp_modify]
  refine (h.port false).wp_last rfl fun answers h => ?_
  rw [Act.wp_bind, wp_get]
  dsimp only
  split
  · exact Act.wp_bind.mpr (h.wp_unchanged hseen)
  · next hhandle =>
    have hhandle : s.mem.handle = true := by simpa using hhandle
    rw [Act.wp_bind, wp_modify]
    exact wp_askBind fun b => (h.settled hhandle _ b).wp_unchanged hseen

theorem wp_awaitBootloader {identity : TtyIdentity} {gone : Bool} (h : Inv .asked n C s) :
    (awaitBootloader identity gone).wp (fun _ => Inv .asked n C) Ends s := by
  unfold awaitBootloader
  split
  · exact Act.wp_bind.mpr (wp_inFirmware h rfl)
  · refine h.wp_ask rfl fun landed h => ?_
    split
    · exact h
    · exact Act.wp_bind.mpr (h.wp_dropPort fun t h _ => wp_inFirmware h rfl)
    · exact h.wp_stop (.of_recovery rfl rfl rfl)
    · exact h.wp_interrupted

/-- Stages 1 to 3 of a board that answers. -/
theorem wp_enterConnected {serial : String} (h : Inv .fresh n C s) :
    (enterConnected serial).wp (fun _ => Inv .asked n fun l => (C l ∧ Parked l) ∧ l.any isJump = true) Ends s := by
  unfold enterConnected
  refine Act.wp_bind.mpr ((wp_prepare h).mono (fun identity t h => ?_) fun l t h => h)
  refine Act.wp_bind.mpr ((wp_park h).mono (fun _ u h => ?_) fun l t h => h)
  exact Act.wp_bind.mpr ((wp_requestBootloader h).mono (fun gone v h => wp_awaitBootloader h) fun l t h => h)

/-! ## The stages of a silent board -/

/-- A board that was handed over answered before. -/
theorem wp_handOver {target : Target} {path : String} (h : Inv ph n C s)
    (hheard : ∀ l, C l → l.any shook = true ∨ l.any heardBoard = true) :
    (handOver target path).wp (fun _ => Inv ph n fun l => C l ∧ l.any took = true) Ends s := by
  have hoffer : (offer target path).wp (fun r t => Inv ph n C t ∧ (r.1 = true → t.said.any took = true)) Ends s := by
    unfold offer
    rw [Act.wp_bind, wp_get]
    split
    · next hhandle =>
      rw [Act.wp_bind, wp_modify]
      exact wp_askBind fun b => ⟨h.settled hhandle _ b, fun hb => by rw [note_said, any_snoc, Bool.or_eq_true]; exact .inr hb⟩
    · cases target with
      | connected => exact h.wp_stop (.of_notRestored rfl (hheard _ h.sure))
      | silent => exact h.wp_ask rfl fun b h => ⟨h, fun hb => by rw [note_said, any_snoc, Bool.or_eq_true]; exact .inr hb⟩
  unfold handOver
  refine Act.wp_bind.mpr (hoffer.mono (fun r t ht => ?_) fun l t h => h)
  obtain ⟨h, htook⟩ := ht
  dsimp only
  split
  · refine h.wp_ask rfl fun down h => ?_
    split
    · exact Act.wp_bind.mpr h.wp_interrupted
    · exact Act.wp_bind.mpr (h.wp_stop (.of_notRestored rfl (hheard _ h.sure)))
  · next htaken =>
    have hsaid := htook (by simpa using htaken)
    rw [wp_modify]
    exact (h.of_mem (m := { t.mem with handedOver := true }) rfl rfl rfl rfl fun _ => hsaid).once hsaid

theorem gatePass_triple : Act.Triple (Inv .fresh n C) (gatePass ()) (Sum.elim (fun _ => Inv .fresh n C) fun _ => Inv .fresh n C) Ends := by
  intro s h
  show (gatePass ()).wp _ Ends s
  unfold gatePass
  refine h.wp_ask rfl fun claimed h => ?_
  split
  · rw [Act.wp_bind, wp_modify]
    exact h.of_mem (m := { s.mem with gate := true }) rfl rfl rfl rfl h.handed
  · refine h.wp_ask rfl fun cancelled h => ?_
    split
    · exact Act.wp_bind.mpr (h.wp_stop (.of_unchanged rfl rfl))
    · refine h.wp_ask rfl fun late h => ?_
      split
      · exact Act.wp_bind.mpr (h.wp_unchanged rfl)
      · refine h.wp_ask rfl fun on h => ?_
        split
        · exact Act.wp_bind.mpr h.wp_interrupted
        · exact h

theorem wp_prepareSilent {serial port : String} {ifnum fuel : Nat} {lender : Bool} (h : Inv .fresh n C s) :
    (prepareSilent serial port ifnum lender fuel).wp (fun _ => Inv .before n C) Ends s := by
  have hready : ∀ {tty : String} {t : UpdateRun}, Inv .before n C t →
      (do
        if ← ask cancelRequested then
          stop (.cancelledAt "cancelled before the board was signalled")
        if ← ask shuttingDown then
          interrupted
        return tty : Runner String).wp (fun _ => Inv .before n C) Ends t := fun h => by
    refine h.wp_ask rfl fun cancelled h => ?_
    split
    · exact Act.wp_bind.mpr (h.wp_stop (.of_unchanged rfl rfl))
    · refine h.wp_ask rfl fun down h => ?_
      split
      · exact Act.wp_bind.mpr h.wp_interrupted
      · exact h
  unfold prepareSilent
  refine Act.wp_bind.mpr (h.wp_enter fun t h => h.wp_ask rfl fun device h => h.wp_ask rfl fun tty h => ?_)
  split
  · refine Act.wp_bind.mpr (h.wp_record ⟨rfl, rfl, rfl⟩ fun _ h => ?_)
    refine Act.wp_bind.mpr (((Act.Triple.iterate (I := fun _ => Inv .fresh n C) (fun _ => gatePass_triple)
      (fun _ _ h => h.unended) fuel ()).wp h (fun _ u h => ?_) fun _ _ h => h))
    split
    · refine wp_askBind fun borrowed => ?_
      rcases borrowed with why | _
      · exact Act.wp_bind.mpr ((h.unborrowed true why).wp_unchanged rfl)
      · dsimp only
        rw [Act.wp_bind, wp_modify]
        exact hready (h.borrowed true (m := { u.mem with handle := true, port := true }) rfl rfl rfl)
    · exact hready h.lent_before
  · exact h.wp_unchanged rfl

/-- A signal is sent only to a board that did not answer when it was asked. -/
theorem wp_signal {target : Target} {tty : String} (h : Inv .before n C s) :
    (signal target tty).wp (fun sent t => if sent then Inv .asked n C t else Inv .before n C t) Ends s := by
  unfold signal
  refine Act.wp_bind.mpr (h.wp_enter fun t h => h.wp_ask rfl fun node h => ?_)
  simp only [Act.wp_bind, wp_get, wp_modify]
  refine (h.port false).wp_last rfl fun asked h => ?_
  rcases asked with _ | (e | _ | why)
  · exact Act.wp_bind.mpr (h.wp_note fun t h => h)
  · exact Act.wp_bind.mpr (h.wp_note fun t h => h)
  · have hheard := h.once (p := heardBoard) (by simp [heardBoard])
    exact Act.wp_bind.mpr ((wp_handOver hheard fun l hl => .inr hl.2).mono (fun _ t h => h.wp_unchanged rfl) fun l t h => h)
  · have hlasting := h.lasting
    have hheard := h.once (p := heardNothing) (by simp [heardNothing])
    refine Act.wp_bind.mpr (hheard.wp_note fun t h => Act.wp_bind.mpr (h.wp_request rfl rfl fun t h => ?_))
    exact Act.wp_bind.mpr ((wp_touch h rfl fun l hl => .inr hl.2).mono (fun _ t h => h.restate h.sure.1 hlasting) fun l t h => h)

theorem wp_awaitSignalled (h : Inv ph n C s) : awaitSignalled.wp (fun _ => Inv ph n C) Ends s := by
  unfold awaitSignalled
  refine Act.wp_bind.mpr ((wp_awaitLeft h).mono (fun gone t h => ?_) fun l t h => h)
  split
  · exact h
  · refine h.wp_ask rfl fun there h => ?_
    split
    · exact h
    · exact h
    · exact h.wp_interrupted

/-- What the wait for the BOOT button may end with. -/
def Waiting (n : Nat) (C : List Event → Prop) (ending : Option End) (s : UpdateRun) : Prop :=
  Inv .asked n C s ∧ ∀ e, ending = some e → e.outcome = .noFirmwareChange

theorem wp_confirmEnding {ending : Option End} (h : Waiting n C ending s) :
    (confirmEnding ending).wp (fun next t => Waiting n C next t) Ends s := by
  obtain ⟨h, hending⟩ := h
  unfold confirmEnding
  cases ending with
  | some e => exact Act.wp_bind.mpr (h.wp_stop (.of_unchanged (hending e rfl) rfl))
  | none =>
    refine h.wp_ask rfl fun cancelled h => ?_
    split
    · exact ⟨h, fun e he => by cases he; rfl⟩
    · refine h.wp_ask rfl fun late h => ?_
      split
      · exact ⟨h, fun e he => by cases he; rfl⟩
      · exact ⟨h, fun e he => by cases he⟩

theorem bootButtonPass_triple {port serial : String} (ending : Option End) : Act.Triple (Waiting n C ending)
    (bootButtonPass port serial ending) (Sum.elim (Waiting n C) fun _ => Inv .asked n C) Ends := by
  intro s hs
  obtain ⟨h, hending⟩ := hs
  show (bootButtonPass port serial ending).wp _ Ends s
  unfold bootButtonPass
  refine h.wp_ask rfl fun device h => ?_
  dsimp only
  split
  · exact h
  · have hstill : (stillSettling (portHolds device serial)).wp (fun _ => Inv .asked n C) Ends (Asking.note s (deviceAt port) device) := by
      unfold stillSettling
      split
      · exact h.wp_last rfl fun _ h => h
      · exact h
    refine Act.wp_bind.mpr (hstill.mono (fun still t h => ?_) fun l t h => h)
    have hnext : (confirmUnless still ending).wp (fun next t => Waiting n C next t) Ends t := by
      unfold confirmUnless
      split
      · exact ⟨h, fun e he => by cases he⟩
      · exact wp_confirmEnding ⟨h, hending⟩
    refine Act.wp_bind.mpr (hnext.mono (fun next u hu => hu.1.wp_ask rfl fun on h => ?_) fun l t h => h)
    split
    · exact Act.wp_bind.mpr h.wp_interrupted
    · exact ⟨h, hu.2⟩

theorem wp_waitForBootButton {port serial : String} {fuel : Nat} (h : Inv ph n C s) (hseen : ph.sawBootloader = false)
    (hans : ph.boardAnswered = false) : (waitForBootButton port serial fuel).wp (fun _ => Inv .asked n C) Ends s := by
  unfold waitForBootButton
  refine Act.wp_bind.mpr (h.wp_request hseen hans fun t h => Act.wp_bind.mpr (h.wp_enter fun t h =>
    Act.wp_bind.mpr (h.wp_note fun t h => ?_)))
  exact (Act.Triple.iterate bootButtonPass_triple (fun _ _ h => h.1.unended) fuel none).wp ⟨h, fun e he => by cases he⟩
    (fun _ _ h => h) fun _ _ h => h

/-- Stages 1 to 3 of a silent board. -/
theorem wp_enterSilent {target : Target} {serial port : String} {ifnum fuel : Nat} {lender : Bool} (h : Inv .fresh n C s) :
    (enterSilent target serial port ifnum lender fuel).wp (fun _ => Inv .asked n C) Ends s := by
  have hentered : ∀ {t : UpdateRun}, Inv .asked n C t →
      (do
        if ← closeWindow then
          note
            "a cancel arrived as the board entered its bootloader — the update goes on, since stopping now would leave the board there"
        return ⟨port, ifnum⟩ : Runner Entered).wp (fun _ => Inv .asked n C) Ends t := fun h =>
    Act.wp_bind.mpr (wp_closeWindow h fun late u h _ => by
      dsimp only
      split
      · exact Act.wp_bind.mpr (h.wp_note fun t h => h)
      · exact h)
  unfold enterSilent
  refine Act.wp_bind.mpr ((wp_prepareSilent h).mono (fun tty t h => ?_) fun l t h => h)
  refine Act.wp_bind.mpr ((wp_signal h).mono (fun sent t h => ?_) fun l t h => h)
  dsimp only
  cases sent with
  | true =>
    refine Act.wp_bind.mpr ((wp_awaitSignalled h).mono (fun landed t h => ?_) fun l t h => h)
    split
    · exact Act.wp_bind.mpr ((wp_waitForBootButton h rfl rfl).mono (fun _ t h => hentered h) fun l t h => h)
    · exact hentered h
  | false => exact Act.wp_bind.mpr ((wp_waitForBootButton h rfl rfl).mono (fun _ t h => hentered h) fun l t h => h)

/-! ## From the bootloader on -/

theorem wp_ownWrite {write : Bool} {port serial : String} (h : Inv .seen n C s) :
    (ownWrite write port serial).wp (fun w => Inv .seen n fun l => C l ∧ (w = true → l.any wroteAll = true)) Ends s := by
  have hplain : ∀ {t : UpdateRun}, Inv .seen n C t → Inv .seen n (fun l => C l ∧ (false = true → l.any wroteAll = true)) t :=
    fun h => h.become (fun hw => by cases hw) fun _ _ _ hw => by cases hw
  unfold ownWrite
  split
  · exact hplain h
  · refine wp_askBind fun answer => ?_
    have h := h.wroteFirmware rfl port serial answer
    obtain ⟨written, left⟩ := answer
    simp only [Act.wp_bind, wp_modify]
    have h := h.of_mem (m := { s.mem with record := { s.mem.record with
      stage := left.stage, firmwareWrite := left.firmwareWrite, notes := left.notes } }) rfl rfl rfl rfl h.handed
    cases written with
    | done => exact h.become (fun _ => by simp [wroteAll]) fun l e hl hw => any_append (hl hw)
    | fellBack => exact hplain h
    | stopped => exact h.wp_interrupted

theorem filePass_triple (seen : Option Drives) :
    Act.Triple (Inv .seen n C) (filePass seen) (Sum.elim (fun _ => Inv .seen n C) fun _ => Inv .seen n C) Ends := by
  intro s h
  show (filePass seen).wp _ Ends s
  have hlate : ∀ {now : Drives} {t : UpdateRun}, Inv .seen n C t →
      (do
        if ← ask deadlinePassed then
          stop (.new .needsRecovery noFileInTime)
        return .inl (some now) : Runner (Option Drives ⊕ Unit)).wp
          (Sum.elim (fun _ => Inv .seen n C) fun _ => Inv .seen n C) Ends t := fun h => by
    refine h.wp_ask rfl fun late h => ?_
    split
    · exact Act.wp_bind.mpr (h.wp_stop (.of_recovery rfl rfl rfl))
    · exact h
  unfold filePass
  refine h.wp_ask rfl fun event h => ?_
  split
  · exact h
  · dsimp only
    split
    · exact Act.wp_bind.mpr (h.wp_record ⟨rfl, rfl, rfl⟩ fun _ h => hlate h)
    · exact hlate h
  · exact h.wp_stop (.of_recovery rfl rfl rfl)
  · exact h.wp_interrupted

/-- The wait knows how often the board went back. -/
theorem wp_awaitReturn {st : Return} (h : Inv .seen st.returns C s) :
    (awaitReturn st).wp (Sum.elim (fun st => Inv .seen st.returns C) fun r => Inv .seen r.2 C) Ends s := by
  unfold awaitReturn
  refine Act.wp_bind.mpr (h.wp_enter fun t h => wp_askBind fun back => ?_)
  have h := h.looked back
  rcases back with (tty | _) | _ | _
  · exact h
  · dsimp only
    split
    · exact Act.wp_bind.mpr (h.wp_stop (.of_recovery rfl rfl rfl))
    · exact Act.wp_bind.mpr (h.wp_note fun t h => h)
  · exact h.wp_stop (.of_notBack rfl rfl)
  · exact h.wp_interrupted

theorem returnPass_triple {fuel : Nat} (st : Return) : Act.Triple (Inv .seen st.returns C) (returnPass fuel st)
    (Sum.elim (fun st => Inv .seen st.returns C) fun r => Inv .seen r.2 C) Ends := by
  intro s h
  show (returnPass fuel st).wp _ Ends s
  unfold returnPass
  split
  · refine Act.wp_bind.mpr (h.wp_enter fun t h => Act.wp_bind.mpr ?_)
    exact (Act.Triple.iterate filePass_triple (fun _ _ h => h.unended) fuel none).wp h (fun _ u h => wp_awaitReturn h) fun _ _ h => h
  · exact wp_awaitReturn h

theorem handshakePass_triple {tty : String} (u : Unit) : Act.Triple (Inv .seen n C) (handshakePass tty u)
    (Sum.elim (fun _ => Inv .seen n C) fun _ => Inv .seen n fun l => C l ∧ l.any shook = true) Ends := by
  intro s h
  show (handshakePass tty u).wp _ Ends s
  unfold handshakePass
  refine h.wp_ask rfl fun answer h => ?_
  split
  · exact h.once (by simp [shook])
  · refine h.wp_ask rfl fun late h => ?_
    split
    · exact Act.wp_bind.mpr (h.wp_stop (.of_notBack rfl rfl))
    · refine h.wp_ask rfl fun on h => ?_
      split
      · exact Act.wp_bind.mpr h.wp_interrupted
      · exact h

theorem wp_check {fuel : Nat} {port tty : String} (h : Inv .seen n C s) :
    (check fuel port tty).wp (fun v => Inv .answered n fun l => C l ∧ Judged v l) Ends s := by
  have hlasting := h.lasting
  unfold check
  refine Act.wp_bind.mpr (h.wp_enter fun t h => h.wp_ask rfl fun usb h => ?_)
  refine Act.wp_bind.mpr (h.wp_record ⟨rfl, rfl, rfl⟩ fun _ h => Act.wp_bind.mpr ?_)
  refine (Act.Triple.iterate handshakePass_triple (fun _ _ h => h.unended) fuel ()).wp h (fun _ t h => ?_) fun _ _ h => h
  refine Act.wp_bind.mpr (h.wp_advance .answered h.requested h.seen rfl (fun _ => rfl) (fun _ => h.sure.2) (fun h => by cases h)
    (fun h => by cases h) fun _ h => ?_)
  have h := h.restate h.sure.1 hlasting
  refine h.wp_ask rfl fun board h => ?_
  rcases board with _ | ⟨hw, fw⟩
  · exact h.wp_stop (.of_notBack rfl rfl)
  · refine Act.wp_bind.mpr (h.wp_record ⟨rfl, rfl, rfl⟩ fun b h => ?_)
    rw [Act.wp_bind, wp_get]
    refine h.become ⟨_, b, _, ?_, rfl, rfl⟩ fun _ _ hj => hj.append
    rw [note_said]
    exact List.mem_append_right _ (List.mem_singleton.mpr rfl)

theorem settingsLanded_of_landed {expected known : List Nat} {pollsBefore : Nat} {fans : List OpenFanChannel} {l : List Event}
    (h : landed expected known pollsBefore fans = true) (hexpected : ⟨expectedChannels, expected⟩ ∈ l)
    (hfans : ⟨openfanFans, fans⟩ ∈ l) : SettingsLanded l := by
  unfold landed at h
  rw [Bool.and_eq_true, List.all_eq_true] at h
  refine ⟨expected, fans, hexpected, hfans, fun ch hch => ?_⟩
  obtain ⟨f, hf, hsame⟩ := List.any_eq_true.mp (h.1 ch hch)
  rw [Bool.and_eq_true, beq_iff_eq] at hsame
  exact ⟨f, hf, hsame⟩

theorem landedPass_triple {expected known : List Nat} {pollsBefore : Nat} (hC : ∀ l, C l → ⟨expectedChannels, expected⟩ ∈ l)
    (u : Unit) : Act.Triple (Inv .answered n C) (landedPass expected known pollsBefore u)
      (Sum.elim (fun _ => Inv .answered n C) fun _ => Inv .answered n fun l => C l ∧ SettingsLanded l) Ends := by
  intro s h
  show (landedPass expected known pollsBefore u).wp _ Ends s
  unfold landedPass
  refine h.wp_ask rfl fun fans h => ?_
  split
  · next hlanded => exact h.become (settingsLanded_of_landed hlanded (hC _ h.sure) (by simp)) fun _ _ hl => hl.append
  · refine h.wp_ask rfl fun late h => ?_
    split
    · exact Act.wp_bind.mpr (h.wp_stop (.of_notRestored rfl (.inl (h.shaken rfl))))
    · refine h.wp_ask rfl fun on h => ?_
      split
      · exact Act.wp_bind.mpr h.wp_interrupted
      · exact h

theorem wp_restoreControl {target : Target} {fuel : Nat} {tty : String} (h : Inv .answered n C s) :
    (restoreControl target fuel tty).wp (fun _ => Inv .answered n fun l => (C l ∧ l.any took = true) ∧ SettingsLanded l) Ends s := by
  unfold restoreControl
  have hlasting := h.lasting
  refine Act.wp_bind.mpr (h.wp_enter fun t h => h.wp_ask rfl fun _ h => h.wp_ask rfl fun fans h => h.wp_ask rfl fun polls h => ?_)
  have hshook := h.once (h.shaken rfl)
  refine Act.wp_bind.mpr ((wp_handOver hshook fun l hl => .inl hl.2).mono (fun _ t h => ?_) fun l t h => h)
  have h : Inv .answered n (fun l => C l ∧ l.any took = true) t := h.restate ⟨h.sure.1.1, h.sure.2⟩
    fun l e hl => ⟨hlasting l e hl.1, any_append hl.2⟩
  refine h.wp_ask rfl fun _ h => h.wp_ask rfl fun expected h => ?_
  have hlasting' := h.lasting
  have h := h.remember (e := ⟨expectedChannels, expected⟩) (by simp)
  refine (Act.Triple.iterate (landedPass_triple fun l hl => hl.2) (fun _ _ h => h.unended) fuel ()).wp h (fun _ t h => ?_) fun _ _ h => h
  exact h.restate ⟨h.sure.1.1, h.sure.2⟩ fun l e hl => ⟨hlasting' l e hl.1, hl.2.append⟩

theorem wp_onward {target : Target} {write : Bool} {fuel : Nat} {entered : Entered} {serial : String} (h : Inv .asked 0 C s) :
    (onward target write fuel entered serial).wp (fun _ _ => False) Ends s := by
  unfold onward
  refine h.wp_ask rfl fun _ h => ?_
  refine Act.wp_bind.mpr (h.wp_advance .seen h.requested rfl h.answered (fun _ => rfl) (fun h => by cases h) (fun h => by cases h)
    (fun h => by cases h) fun _ h => Act.wp_bind.mpr (h.wp_dropPort fun t h _ => ?_))
  refine Act.wp_bind.mpr ((wp_ownWrite h).mono (fun written t h => Act.wp_bind.mpr ?_) fun l t h => h)
  refine (Act.Triple.iterate returnPass_triple (fun _ _ h => h.unended) fuel _).wp h (fun back t h => ?_) fun _ _ h => h
  refine Act.wp_bind.mpr ((wp_check h).mono (fun v t h => Act.wp_bind.mpr ?_) fun l t h => h)
  refine (wp_restoreControl h).mono (fun _ t h => h.wp_stop ?_) fun l t h => h
  obtain ⟨⟨⟨⟨-, hwrote⟩, hjudged⟩, htook⟩, hlanded⟩ := h.sure
  have hrestored : t.said.any shook = true ∧ t.said.any took = true ∧ SettingsLanded t.said := ⟨h.shaken rfl, htook, hlanded⟩
  cases hverified : (written && back.2 == 0) <;> cases hprevious : (v == .previousFirmware)
  · exact .of_restored rfl hrestored (fun h => by cases h) fun h => by cases h
  · exact .of_restored rfl hrestored (fun _ => eq_of_beq hprevious ▸ hjudged) fun h => by cases h
  · rw [Bool.and_eq_true, beq_iff_eq] at hverified
    exact .of_restored rfl hrestored (fun h => by cases h) fun _ =>
      ⟨hverified.2, hwrote hverified.1, v, ne_of_beq_false hprevious, hjudged⟩
  · exact .of_restored rfl hrestored (fun h => by cases h) fun h => by cases h

/-! ## The whole run -/

theorem inv_start {serial : String} {firmware : FirmwareClaim} {write : Option FirmwareWrite}
    {env : List Event → (q : Ask) → Answered q} : Inv .fresh 0 (fun _ => True) (start serial firmware write env) := by
  refine ⟨fun pre hpre => ?_, fun _ => rfl, rfl, rfl, rfl, (fun h => by cases h), (fun h => by cases h), fun _ => rfl, rfl, fun _ => rfl,
    rfl, (fun h => by cases h), rfl, trivial, fun _ _ _ => trivial⟩
  rw [List.prefix_nil.mp hpre]
  exact ⟨(fun _ h => by cases h), (fun _ h => by cases h), (fun h => by cases h), fun h => by cases h⟩

theorem wp_drive {target : Target} {write : Bool} {fuel : Nat} (h : Inv .fresh 0 C s) :
    (drive target write fuel).wp (fun _ _ => False) Ends s := by
  unfold drive
  rw [Act.wp_bind, wp_get]
  cases target with
  | connected => exact Act.wp_bind.mpr ((wp_enterConnected h).mono (fun entered t h => wp_onward h) fun l t h => h)
  | silent port ifnum lender => exact Act.wp_bind.mpr ((wp_enterSilent h).mono (fun entered t h => wp_onward h) fun l t h => h)

/-- How the claim goes. -/
def Released (e : End) (event : Event) : Prop :=
  (event = ⟨releaseUnchanged, ()⟩ ∧ e.outcome = .noFirmwareChange) ∨
    event = ⟨release (if e.outcome.leavesOutside then some e.outcome else none), ()⟩

/-- The end of a run, from where its last stage left it: the journal, then the port, then the claim, then the flag. -/
structure Closed (e : End) (s t : UpdateRun) : Prop where
  honest : ∀ pre, pre <+: t.said → Honest pre
  loans : t.said.countP lent = t.said.countP gaveBack
  order : ∃ b giving event after, t.said = s.said ++ ⟨save (s.mem.record.finish e), b⟩ :: (giving ++ event :: after) ∧
    (∀ ev ∈ giving, ev = ⟨discardPort, ()⟩ ∨ ∃ b, ev = ⟨giveBack none, b⟩) ∧ Released e event ∧
    ∀ ev ∈ after, ev = ⟨freeGate, ()⟩

/-- The claim is let go, and then the probes' flag. -/
theorem Inv.release (h : Inv ph n C s) {q : Ask} {a : Answered q} (hq : released ⟨q, a⟩ = true) {l : List Event}
    (hl : ∀ ev ∈ l, ev = ⟨freeGate, ()⟩) (hhandle : s.mem.handle = false) :
    (∀ pre, pre <+: s.said ++ ⟨q, a⟩ :: l → Honest pre) ∧
      (s.said ++ ⟨q, a⟩ :: l).countP lent = (s.said ++ ⟨q, a⟩ :: l).countP gaveBack := by
  have hplain : triggers ⟨q, a⟩ = false ∧ lent ⟨q, a⟩ = false ∧ gaveBack ⟨q, a⟩ = false ∧ ∀ r, q ≠ save r := by
    cases q <;> first | (cases hq; done) | exact ⟨rfl, rfl, rfl, fun r hr => by cases hr⟩
  obtain ⟨ht, hlent, hgave, hsave⟩ := hplain
  have hloans : s.said.countP lent = s.said.countP gaveBack := by rw [h.loans, hhandle]; rfl
  have hj : ∀ m : List Event, ∀ e' : Event, (∀ r, e'.1 ≠ save r) → journal (m ++ [e']) = journal m := fun m e' he' => by
    rcases journal_snoc m e' with hsame | ⟨r, he, -⟩
    · exact hsame
    · exact absurd (by rw [he]) (he' r)
  rw [List.append_cons]
  have hbase : ∀ pre, pre <+: s.said ++ [⟨q, a⟩] → Honest pre :=
    honest_snoc h.honest (h.all.snoc ht fun _ _ => .inl (by rw [hj _ ⟨q, a⟩ hsave]))
  have hcount : (s.said ++ [(⟨q, a⟩ : Event)]).countP lent = (s.said ++ [(⟨q, a⟩ : Event)]).countP gaveBack := by
    rw [countP_snoc lent _ _ hlent, countP_snoc gaveBack _ _ hgave, hloans]
  induction l using List.reverseRecOn with
  | nil => exact ⟨by simpa using hbase, by simpa using hcount⟩
  | append_singleton l ev ih =>
    obtain ⟨hhonest, hcounted⟩ := ih fun ev hev => hl ev (List.mem_append_left _ hev)
    obtain rfl : ev = ⟨freeGate, ()⟩ := hl ev (List.mem_append_right _ (List.mem_singleton.mpr rfl))
    rw [← List.append_assoc]
    refine ⟨honest_snoc hhonest ((hhonest _ List.prefix_rfl).snoc rfl fun _ _ => .inl ?_), ?_⟩
    · rw [hj _ ⟨freeGate, ()⟩ fun r hr => by cases hr]
    · rw [countP_snoc lent _ _ rfl, countP_snoc gaveBack _ _ rfl, hcounted]

/-- From the port given back to the claim let go. -/
theorem Inv.closed {e : End} (h : Inv ph n C u) (hhandle : u.mem.handle = false) {b : Bool} {giving : List Event}
    (hsaid : u.said = s.said ++ ⟨save (s.mem.record.finish e), b⟩ :: giving)
    (hgiving : ∀ ev ∈ giving, ev = ⟨discardPort, ()⟩ ∨ ∃ b, ev = ⟨giveBack none, b⟩) :
    (do
      if e.outcome = .noFirmwareChange ∧ !(← get).handedOver then
        ask releaseUnchanged
      else
        ask (Ask.release (if e.outcome.leavesOutside then some e.outcome else none))
      if (← get).gate then
        modify fun u => { u with gate := false }
        ask freeGate : Act UpdateRun Empty Unit).wp (fun _ => Closed e s) (fun _ _ => True) u := by
  have hclosed : ∀ {t : UpdateRun} {event : Event} (after : List Event), t.said = u.said ++ event :: after →
      released event = true → Released e event → (∀ ev ∈ after, ev = ⟨freeGate, ()⟩) → Closed e s t :=
    fun {t event after} ht hrel hreleased hafter => by
      obtain ⟨hhonest, hloans⟩ := h.release (q := event.1) (a := event.2) hrel hafter hhandle
      refine ⟨fun pre hpre => hhonest pre (ht ▸ hpre), by rw [ht]; exact hloans, b, giving, event, after, ?_, hgiving,
        hreleased, hafter⟩
      rw [ht, hsaid]
      simp
  have hgate : ∀ {t : UpdateRun} {event : Event}, t.said = u.said ++ [event] → released event = true → Released e event →
      (do
        if (← get).gate then
          modify fun u => { u with gate := false }
          ask freeGate : Act UpdateRun Empty Unit).wp (fun _ => Closed e s) (fun _ _ => True) t := fun {t event} ht hrel hreleased => by
    rw [Act.wp_bind, wp_get]
    split
    · rw [Act.wp_bind, wp_modify]
      refine Asking.wp_ask fun _ => hclosed [⟨freeGate, ()⟩] ?_ hrel hreleased fun ev hev => List.mem_singleton.mp hev
      rw [note_said, ht, List.append_assoc]
      rfl
    · exact hclosed [] ht hrel hreleased fun ev hev => by cases hev
  rw [Act.wp_bind, wp_get]
  split
  · next hsame => exact wp_askBind fun _ => hgate rfl rfl (.inl ⟨rfl, hsame.1⟩)
  · exact wp_askBind fun _ => hgate rfl rfl (.inr rfl)

theorem wp_conclude {e : End} (h : Inv ph n C s) : (conclude e).wp (fun _ => Closed e s) (fun _ _ => True) s := by
  unfold conclude
  refine Act.wp_bind.mpr (h.wp_record ⟨rfl, rfl, rfl⟩ fun b h => ?_)
  rw [Act.wp_bind, wp_get]
  dsimp only
  split
  · next hhandle =>
    refine Act.wp_bind.mpr (h.wp_dropPort fun t h hdropped => ?_)
    obtain ⟨⟨l, hsaid, hl⟩, hmem⟩ := hdropped
    rw [Act.wp_bind, wp_modify]
    refine wp_askBind fun given => ?_
    have hheld : t.mem.handle = true := by rw [hmem]; exact hhandle
    have hgave : (Asking.note { t with mem := { t.mem with handle := false } } (giveBack none) given).said =
        s.said ++ ⟨save (s.mem.record.finish e), b⟩ :: (l ++ [⟨giveBack none, given⟩]) := by
      rw [note_said, hsaid, note_said]
      simp
    refine (h.settled hheld none given).closed rfl hgave fun ev hev => ?_
    rcases List.mem_append.mp hev with hev | hev
    · exact .inl (hl ev hev)
    · exact .inr ⟨given, List.mem_singleton.mp hev⟩
  · next hhandle =>
    have hfree : s.mem.handle = false := by simpa using hhandle
    have hsaid : (Asking.note { s with mem := { s.mem with record := s.mem.record.finish e } } (save (s.mem.record.finish e)) b).said =
        s.said ++ ⟨save (s.mem.record.finish e), b⟩ :: [] := note_said ..
    exact h.closed hfree hsaid fun ev hev => by cases hev

/-- Every point of the run is honest, and where it ends, it was closed from an end it had earned. -/
def Ran (result : Option End) (t : UpdateRun) : Prop :=
  (∀ pre, pre <+: t.said → Honest pre) ∧ ∀ e, result = some e → ∃ ph n C u, Inv ph n C u ∧ Earned e ph n u ∧ Closed e u t

theorem wp_run {target : Target} {write : Bool} {fuel : Nat} (h : Inv .fresh 0 C s) :
    (run target write fuel).wp Ran (fun _ _ => True) s := by
  unfold run
  refine Act.wp_bind.mpr (Act.wp_attempt.mpr ((wp_drive h).mono (fun _ _ h => h.elim) fun l u hu => ?_))
  obtain ⟨ph, n, C, h, hearned⟩ := hu
  cases l with
  | unended => exact ⟨h.honest, fun e he => by cases he⟩
  | ended e =>
    refine Act.wp_bind.mpr ((wp_conclude h).mono (fun _ t hclosed => ?_) fun _ _ h => h)
    refine ⟨hclosed.honest, fun e' he' => ?_⟩
    cases he'
    exact ⟨ph, n, C, u, h, hearned e rfl, hclosed⟩

theorem ran {target : Target} {write : Bool} {fuel : Nat} {serial : String} {firmware : FirmwareClaim}
    {firmwareWrite : Option FirmwareWrite} {env : List Event → (q : Ask) → Answered q} {result : Except Empty (Option End)}
    {t : UpdateRun} (hrun : run target write fuel (start serial firmware firmwareWrite env) = (result, t)) :
    ∃ r, result = .ok r ∧ Ran r t := by
  have h : (run target write fuel).wp Ran (fun _ _ => True) (start serial firmware firmwareWrite env) := wp_run inv_start
  unfold Act.wp at h
  rw [hrun] at h
  cases result with
  | ok r => exact ⟨r, rfl, h⟩
  | error e => exact e.elim

end Stages

/-! ## What the transcript of a run shows -/

/-- Every channel has its setting, and was polled since. -/
def benchFans : List OpenFanChannel := [⟨0, true, some 40, 7⟩]

/-- A board that goes to its bootloader and comes back from it with its identity, and a poll loop that takes it. -/
def bench (_ : List Event) : (q : Ask) → Answered q
  | .save _ | .suspendWrites | .pause | .claimGate | .checkFirmware .. | .giveBack _ | .adopt _ => true
  | .shuttingDown | .deadlinePassed | .cancelRequested | .closeCancelWindow | .settling => false
  | .publishStage _ | .resumeWrites | .invalidateWrites | .freeGate | .discardPort | .releaseUnchanged | .release _ => ()
  | .openfanPort => some "/dev/ttyACM0"
  | .ttyFor .. => some "ttyACM0"
  | .ttyIdentity _ => some ⟨⟨"1-4", "2e8a", "000a", none, none, some "E66138528361AB32", none⟩, 0, "ttyACM0"⟩
  | .readInfo => (none, none)
  | .park _ | .jump | .touch1200 | .handshake _ => some (.ok ())
  | .borrow _ => .ok ()
  | .watchLeft | .watchBootloader => .found ()
  | .watchLanded => .found .bootloader
  | .watchFile _ => .found .left
  | .watchBack => .found (.board "/dev/ttyACM0")
  | .deviceAt _ => none
  | .askOnce .. => some (.ok .answers)
  | .writeFirmware .. => (.fellBack, ⟨"waiting_for_file", none, []⟩)
  | .readBoard => some (none, none)
  | .openfanFans => benchFans
  | .pollsStarted => 3
  | .expectedChannels => [0]

def benchRun : Except Empty (Option End) × UpdateRun :=
  run .connected false 8 (start "E66138528361AB32" ⟨"ab", 512, none, none⟩ none bench)

/-- It ended, the jump went out, every record was saved, and the jump is in its first forty answers. -/
theorem bench_facts : benchRun.1 = .ok (some (finished false false)) ∧ benchRun.2.said.any isJump = true ∧
    benchRun.2.said.any unsaved = false ∧ (benchRun.2.said.take 40).any triggers = true := by
  decide +kernel

theorem eq_of_fst {α β : Type} {p : α × β} {a : α} (h : p.1 = a) : p = (a, p.2) := by rw [← h]

theorem bench_ran : benchRun = (.ok (some (finished false false)), benchRun.2) := eq_of_fst bench_facts.1

theorem triggers_of_isJump {event : Event} (h : isJump event = true) : triggers event = true := by
  obtain ⟨q, a⟩ := event
  cases q <;> first | rfl | cases h

section Results

variable {target : Target} {write : Bool} {fuel : Nat} {serial : String} {firmware : FirmwareClaim}
  {firmwareWrite : Option FirmwareWrite} {env : List Event → (q : Ask) → Answered q} {e : End} {l : List Event} {t u : UpdateRun}

theorem Honest.before {before : List Event} {e : Event} (h : Honest (before ++ [e])) (he : triggers e = true) :
    (before.any unsaved = false → ∃ r, journal before = some r ∧ r.bootloaderRequested = true) ∧
      (isJump e = true → Parked before) ∧ (isTouch e = true → before.any isJump = true ∨ before.any heardNothing = true) := by
  obtain ⟨q, a⟩ := e
  have hplain : unsaved ⟨q, a⟩ = false ∧ heardNothing ⟨q, a⟩ = false ∧ (∀ r b, (⟨q, a⟩ : Event) ≠ ⟨save r, b⟩) ∧
      (∀ b, (⟨q, a⟩ : Event) ≠ ⟨suspendWrites, b⟩) ∧ (∀ ch b, (⟨q, a⟩ : Event) ≠ ⟨Ask.park ch, b⟩) ∧
      ∀ b, (⟨q, a⟩ : Event) ≠ ⟨closeCancelWindow, b⟩ := by
    cases q <;> first
      | (cases he; done)
      | exact ⟨rfl, rfl, (fun _ _ h => by cases h), (fun _ h => by cases h), (fun _ _ h => by cases h), fun _ h => by cases h⟩
  obtain ⟨hu, hn, hsave, hsuspend, hpark, hclose⟩ := hplain
  have hin : ∀ {event : Event}, event ∈ before ++ [⟨q, a⟩] → ⟨q, a⟩ ≠ event → event ∈ before := by
    intro event hmem hne
    rcases List.mem_append.mp hmem with hmem | hmem
    · exact hmem
    · exact absurd (List.mem_singleton.mp hmem).symm hne
  refine ⟨fun hsaved => ?_, fun hjump => ?_, fun htouch => ?_⟩
  · have hflag := h.asked (by rw [any_snoc, hsaved, hu, Bool.or_false]) (by rw [any_snoc, he, Bool.or_true])
    have hj : journal (before ++ [⟨q, a⟩]) = journal before := by
      rcases journal_snoc before ⟨q, a⟩ with hj | ⟨r, hr, -⟩
      · exact hj
      · exact absurd hr (hsave r true)
    rw [hj] at hflag
    exact (Option.any_eq_true _ _).mp hflag
  · obtain ⟨hs, hp, hc⟩ := h.parked (by rw [any_snoc, hjump, Bool.or_true])
    exact ⟨hin hs (hsuspend _), fun ch hch => hin (hp ch hch) (hpark ch _), hin hc (hclose _)⟩
  · have hnot : isJump ⟨q, a⟩ = false := by
      cases q <;> first | rfl | cases htouch
    have hbefore := h.silent (by rw [any_snoc, htouch, Bool.or_true])
    rwa [any_snoc, any_snoc, hnot, hn, Bool.or_false, Bool.or_false] at hbefore

/-- Before the board is asked for its bootloader, the journal says that it may be, if it could be written; `>07` waits for
every channel to be parked, and the 1200-baud signal for `>07` or for a board that does not answer. -/
theorem asked_only_when_safe {result : Except Empty (Option End)} {before after : List Event} {event : Event}
    (hrun : run target write fuel (start serial firmware firmwareWrite env) = (result, t))
    (hsaid : t.said = before ++ event :: after) (hevent : triggers event = true) :
    (before.any unsaved = false → ∃ r, journal before = some r ∧ r.bootloaderRequested = true) ∧
      (isJump event = true → Parked before) ∧
      (isTouch event = true → before.any isJump = true ∨ before.any heardNothing = true) := by
  obtain ⟨r, -, hran⟩ := ran hrun
  refine (hran.1 (before ++ [event]) ⟨after, ?_⟩).before hevent
  rw [hsaid, List.append_assoc]
  rfl

theorem asked_only_when_safe_bench : ∃ before event after, benchRun.2.said = before ++ event :: after ∧ isJump event = true ∧
    Parked before ∧ ∃ r, journal before = some r ∧ r.bootloaderRequested = true := by
  obtain ⟨event, hmem, hjump⟩ := List.any_eq_true.mp bench_facts.2.1
  obtain ⟨before, after, hsaid⟩ := List.append_of_mem hmem
  have hsaved := bench_facts.2.2.1
  rw [hsaid, List.any_append, Bool.or_eq_false_iff] at hsaved
  have hsafe := asked_only_when_safe bench_ran hsaid (triggers_of_isJump hjump)
  exact ⟨before, event, after, hsaid, hjump, hsafe.2.1 hjump, hsafe.1 hsaved.1⟩

/-- Wherever the daemon is killed, what is recovered from the journal is so: no change of the firmware means that the board was
never asked for its bootloader, and a board that is said to be back has passed the handshake. -/
theorem journal_is_ahead {result : Except Empty (Option End)} {pre : List Event}
    (hrun : run target write fuel (start serial firmware firmwareWrite env) = (result, t)) (hpre : pre <+: t.said)
    (hsaved : pre.any unsaved = false) :
    (journal pre = none → pre.any triggers = false) ∧
      ∀ r, journal pre = some r → r.running = true →
        ((recover r).outcome = some .noFirmwareChange → pre.any triggers = false) ∧
          ((recover r).outcome = some .boardBackControlNotRestored → pre.any shook = true) := by
  obtain ⟨_, -, hran⟩ := ran hrun
  have h := hran.1 pre hpre
  refine ⟨fun hnone => Bool.eq_false_iff.mpr fun htrig => ?_, fun r hr hrunning => ⟨fun hout => ?_, fun hout => ?_⟩⟩
  · have hflag := h.asked hsaved htrig
    rw [hnone] at hflag
    cases hflag
  · refine Bool.eq_false_iff.mpr fun htrig => ?_
    have hflag : r.bootloaderRequested = true := by simpa [flags, hr] using h.asked hsaved htrig
    simp only [recover, hrunning, whenInterrupted, hflag] at hout
    cases hans : r.boardAnswered <;> simp [hans] at hout
  · refine h.answered hsaved ?_
    simp only [recover, hrunning, whenInterrupted] at hout
    rw [hr]
    cases hreq : r.bootloaderRequested <;> cases hans : r.boardAnswered <;> simp [hreq, hans, flags] at hout ⊢

theorem journal_is_ahead_bench : ∃ pre, pre <+: benchRun.2.said ∧ pre.any triggers = true ∧
    ∀ r, journal pre = some r → r.running = true → (recover r).outcome ≠ some .noFirmwareChange := by
  obtain ⟨-, -, hsaved, hasked⟩ := bench_facts
  have hpre : benchRun.2.said.take 40 <+: benchRun.2.said := List.take_prefix ..
  refine ⟨_, hpre, hasked, fun r hr hrunning hout => ?_⟩
  have hsavedPre : (benchRun.2.said.take 40).any unsaved = false :=
    List.any_eq_false.mpr fun e he => List.any_eq_false.mp hsaved e (hpre.subset he)
  have hnot := ((journal_is_ahead bench_ran hpre hsavedPre).2 r hr hrunning).1 hout
  exact Bool.false_ne_true (hnot.symm.trans hasked)

/-- What an end tells, of the record it leaves and of all that was said. -/
structure Told (e : End) (r : Record) (l : List Event) : Prop where
  unchanged : e.outcome = .noFirmwareChange → r.bootloaderSeen = false ∧ l.any wrote = false
  outside : e.outcome.leavesOutside = true → r.bootloaderRequested = true
  recovery : e.outcome = .needsRecovery → r.boardAnswered = false
  notRestored : e.outcome = .boardBackControlNotRestored → l.any shook = true ∨ l.any heardBoard = true
  restored : e.outcome.restoredControl = true → l.any shook = true ∧ l.any took = true ∧ SettingsLanded l
  previous : e.outcome = .backOnPreviousFirmware → Judged .previousFirmware l
  exact : e.outcome = .exactBuildVerified →
    l.any wentBack = false ∧ l.any wroteAll = true ∧ ∃ v, v ≠ .previousFirmware ∧ Judged v l

/-- The closing of a run writes nothing to the board, and sees nothing of it. -/
theorem Closed.rest (h : Closed e u t) : ∃ more, t.said = u.said ++ more ∧ more.any wrote = false ∧ more.any wentBack = false := by
  obtain ⟨b, giving, event, after, hsaid, hgiving, hreleased, hafter⟩ := h.order
  refine ⟨_, hsaid, ?_⟩
  have hquiet : ∀ ev ∈ (⟨save (u.mem.record.finish e), b⟩ : Event) :: (giving ++ event :: after),
      wrote ev = false ∧ wentBack ev = false := by
    intro ev hev
    simp only [List.mem_cons, List.mem_append] at hev
    rcases hev with rfl | hev | rfl | hev
    · exact ⟨rfl, rfl⟩
    · rcases hgiving ev hev with rfl | ⟨_, rfl⟩ <;> exact ⟨rfl, rfl⟩
    · rcases hreleased with ⟨rfl, -⟩ | rfl <;> exact ⟨rfl, rfl⟩
    · obtain rfl := hafter ev hev
      exact ⟨rfl, rfl⟩
  exact ⟨List.any_eq_false.mpr fun ev hev => by simp [hquiet ev hev], List.any_eq_false.mpr fun ev hev => by simp [hquiet ev hev]⟩

theorem Earned.told {ph : Phase} {n : Nat} {C : List Event → Prop} (hearned : Earned e ph n u) (h : Inv ph n C u)
    (hclosed : Closed e u t) : Told e (u.mem.record.finish e) t.said := by
  obtain ⟨more, hsaid, hwrote, hback⟩ := hclosed.rest
  rw [hsaid]
  refine ⟨fun ho => ?_, fun ho => h.requested.trans (hearned.outside ho), fun ho => h.answered.trans (hearned.recovery ho),
    fun ho => (hearned.notRestored ho).imp any_append any_append, fun ho => ?_, fun ho => (hearned.previous ho).append, fun ho => ?_⟩
  · have hph := hearned.unchanged ho
    exact ⟨h.seen.trans hph, by rw [List.any_append, h.written hph, hwrote, Bool.or_false]⟩
  · obtain ⟨hshook, htook, hlanded⟩ := hearned.restored ho
    exact ⟨any_append hshook, any_append htook, hlanded.append⟩
  · obtain ⟨hn, hall, v, hv, hjudged⟩ := hearned.exact ho
    have hnever : u.said.any wentBack = false := by
      rw [List.any_eq_false]
      exact List.countP_eq_zero.mp (h.returns.trans hn)
    exact ⟨by rw [List.any_append, hnever, hback, Bool.or_false], any_append hall, v, hv, hjudged.append⟩

/-- What the end of an update says is so, whatever was answered on the way. -/
theorem outcome_is_earned (hrun : run target write fuel (start serial firmware firmwareWrite env) = (.ok (some e), t)) :
    ∃ r b, ⟨save r, b⟩ ∈ t.said ∧ r.running = false ∧ r.outcome = some e.outcome ∧ Told e r t.said := by
  obtain ⟨r, hr, hran⟩ := ran hrun
  cases hr
  obtain ⟨ph, n, C, u, h, hearned, hclosed⟩ := hran.2 e rfl
  have htold := hearned.told h hclosed
  obtain ⟨b, giving, event, after, hsaid, -⟩ := hclosed.order
  refine ⟨u.mem.record.finish e, b, ?_, rfl, rfl, htold⟩
  rw [hsaid]
  exact List.mem_append_right _ List.mem_cons_self

theorem outcome_is_earned_bench : ∃ r b, ⟨save r, b⟩ ∈ benchRun.2.said ∧ r.running = false ∧
    r.outcome = some .completedBuildNotConfirmed ∧ Told (finished false false) r benchRun.2.said := outcome_is_earned bench_ran

/-- However an update ends, its port came back once for each time it was lent, and it ends in this order: the journal, then the port,
then the claim, which goes once, then the flag of the probes. -/
theorem loan_is_settled (hrun : run target write fuel (start serial firmware firmwareWrite env) = (.ok (some e), t)) :
    t.said.countP lent = t.said.countP gaveBack ∧
      ∃ work r b giving event after, t.said = work ++ ⟨save r, b⟩ :: (giving ++ event :: after) ∧
        r.running = false ∧ r.outcome = some e.outcome ∧
        (∀ ev ∈ giving, ev = ⟨discardPort, ()⟩ ∨ ∃ b, ev = ⟨giveBack none, b⟩) ∧
        Released e event ∧ (∀ ev ∈ after, ev = ⟨freeGate, ()⟩) ∧ work.any released = false := by
  obtain ⟨r, hr, hran⟩ := ran hrun
  cases hr
  obtain ⟨ph, n, C, u, h, -, hclosed⟩ := hran.2 e rfl
  obtain ⟨b, giving, event, after, hsaid, hgiving, hreleased, hafter⟩ := hclosed.order
  exact ⟨hclosed.loans, u.said, u.mem.record.finish e, b, giving, event, after, hsaid, rfl, rfl, hgiving, hreleased, hafter, h.held⟩

theorem loan_is_settled_bench : benchRun.2.said.countP lent = benchRun.2.said.countP gaveBack := (loan_is_settled bench_ran).1

end Results

end ControlOfc.Firmware.Maintenance
