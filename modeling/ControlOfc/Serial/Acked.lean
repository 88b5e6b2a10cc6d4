import ControlOfc.Serial.Link
/-! # When an `Ok` means that the device took the duty

A write matches the reply to any write of its channel, whatever duty that one carried. So a write whose
predecessor on the channel timed out may be confirmed by the predecessor's late reply, and this is the only
way it can be confirmed by anything but its own (`run_acked_iff`).
-/
namespace ControlOfc.Serial
open OpenFan (Ch SerialError FanController FanControlError WriteCache)

/-! ## The link -/

namespace Link

/-- Numbers are given out in order; a reply reads as the reply to its frame, and nothing else starts with `<`. -/
structure Ordered (l : Link) : Prop where
  inbox : ∀ f ∈ l.inbox, f.id < l.written
  reply : ∀ line ∈ l.unread, ∀ f ∈ line.answers, f.id < l.written ∧ ∃ payload, line.text = replyLine f.command payload
  debug : ∀ line ∈ l.unread, line.answers = none → line.text.head? ≠ some '<'

/-- The newest frame: last in the inbox and unanswered, or gone from it, its duty set if it is answered. -/
def Newest (l : Link) (f : Frame) : Prop :=
  (∃ older, l.inbox = older ++ [f] ∧ (∀ g ∈ older, g.id ≠ f.id) ∧ ∀ line ∈ l.unread, line.answers ≠ some f) ∨
    (l.inbox = [] ∧ ∀ ch raw, f.command = .setPwm ch raw → (∃ line ∈ l.unread, line.answers = some f) → l.duty ch = raw)

/-- Of the writes to `ch` only `f` is still on its way, or its reply. -/
structure OnlyWrite (l : Link) (ch : Ch) (f : Frame) : Prop where
  inbox : ∀ g ∈ l.inbox, g.command.writes ch → g = f
  reply : ∀ line ∈ l.unread, ∀ g ∈ line.answers, g.command.writes ch → g = f

variable {l l' : Link}

/-- Nothing but reading and emitting: no new replies, nothing taken. -/
structure Passes (l l' : Link) : Prop where
  written : l'.written = l.written
  inbox : l'.inbox = l.inbox
  duty : l'.duty = l.duty
  unread : ∀ line ∈ l'.unread, line ∈ l.unread ∨ line.answers = none ∧ line.text.head? ≠ some '<'

theorem Passes.ordered (h : Passes l l') (hl : l.Ordered) : l'.Ordered := by
  refine ⟨?_, ?_, ?_⟩
  · rw [h.inbox, h.written]
    exact hl.inbox
  · intro line hline f hf
    rw [h.written]
    rcases h.unread line hline with hold | ⟨hnone, -⟩
    · exact hl.reply line hold f hf
    · rw [hnone] at hf
      cases hf
  · intro line hline hnone
    rcases h.unread line hline with hold | ⟨-, htext⟩
    · exact hl.debug line hold hnone
    · exact htext

/-- A reply that is there was there before. -/
theorem Passes.answers (h : Passes l l') {line : Line} (hline : line ∈ l'.unread) {f : Frame}
    (hf : line.answers = some f) : line ∈ l.unread := by
  rcases h.unread line hline with hold | ⟨hnone, -⟩
  · exact hold
  · rw [hnone] at hf
    cases hf

theorem Passes.newest (h : Passes l l') {f : Frame} (hl : l.Newest f) : l'.Newest f := by
  rcases hl with ⟨older, hin, hid, hno⟩ | ⟨hin, hduty⟩
  · refine .inl ⟨older, h.inbox.trans hin, hid, fun line hline hf => ?_⟩
    exact hno line (h.answers hline hf) hf
  · refine .inr ⟨h.inbox.trans hin, fun ch raw hc ⟨line, hline, hf⟩ => ?_⟩
    rw [h.duty]
    exact hduty ch raw hc ⟨line, h.answers hline hf, hf⟩

theorem Passes.onlyWrite (h : Passes l l') {ch : Ch} {f : Frame} (hl : l.OnlyWrite ch f) : l'.OnlyWrite ch f := by
  refine ⟨?_, fun line hline g hg => ?_⟩
  · rw [h.inbox]
    exact hl.inbox
  · exact hl.reply line (h.answers hline hg) g hg

theorem passes_emit (l : Link) (n : Nat) : Passes l (l.emit n) := by
  unfold emit
  split
  · exact ⟨rfl, rfl, rfl, fun _ h => .inl h⟩
  · next line hline =>
    refine ⟨rfl, rfl, rfl, fun line' h => .inl ?_⟩
    simp only [unread, List.mem_append, List.mem_singleton] at h ⊢
    rcases h with h | h | rfl
    · exact .inl (List.mem_of_mem_eraseIdx h)
    · exact .inr h
    · exact .inl (List.mem_of_getElem? hline)

theorem passes_debugLine (l : Link) (text : List Char) : Passes l (l.debugLine text) := by
  unfold debugLine
  split
  · exact ⟨rfl, rfl, rfl, fun _ h => .inl h⟩
  · next htext =>
    refine ⟨rfl, rfl, rfl, fun line h => ?_⟩
    simp only [unread, List.mem_append, List.mem_singleton] at h
    rcases h with h | h | rfl
    · exact .inl (List.mem_append_left _ h)
    · exact .inl (List.mem_append_right _ h)
    · exact .inr ⟨rfl, htext⟩

/-- An exchange reads the oldest line. -/
theorem passes_read {line : Line} {lines : List Line} (h : l.lines = line :: lines) :
    Passes l { l with lines := lines } := by
  refine ⟨rfl, rfl, rfl, fun line' h' => .inl ?_⟩
  rcases List.mem_append.mp h' with h' | h'
  · exact List.mem_append_left _ h'
  · refine List.mem_append_right _ ?_
    rw [h]
    exact List.mem_cons_of_mem _ h'

/-- What is unread after the device took a frame: what was, and the reply to the frame it applied. -/
theorem mem_unread_take {drop : Bool} {payload : List Char} {line : Line} (h : line ∈ (l.take drop payload).unread) :
    line ∈ l.unread ∨ drop = false ∧ ∃ f inbox, l.inbox = f :: inbox ∧ line = ⟨replyLine f.command payload, some f⟩ := by
  unfold take at h
  split at h
  · exact .inl h
  · next f inbox hin =>
    split at h
    · exact .inl h
    · next hdrop =>
      simp only [unread, List.mem_append, List.mem_singleton] at h
      rcases h with (h | rfl) | h
      · exact .inl (List.mem_append_left _ h)
      · exact .inr ⟨by simpa using hdrop, f, inbox, hin, rfl⟩
      · exact .inl (List.mem_append_right _ h)

theorem take_inbox (l : Link) (drop : Bool) (payload : List Char) : (l.take drop payload).inbox = l.inbox.tail := by
  unfold take
  split
  · next h => simp [h]
  · next h => split <;> simp [h]

@[simp] theorem take_written (l : Link) (drop : Bool) (payload : List Char) :
    (l.take drop payload).written = l.written := by
  unfold take
  split
  · rfl
  · split <;> rfl

theorem Ordered.take (h : l.Ordered) (drop : Bool) (payload : List Char) : (l.take drop payload).Ordered := by
  refine ⟨?_, ?_, ?_⟩
  · rw [take_inbox, take_written]
    exact fun f hf => h.inbox f (List.mem_of_mem_tail hf)
  · intro line hline f hf
    rw [take_written]
    rcases mem_unread_take hline with hold | ⟨-, g, inbox, hin, rfl⟩
    · exact h.reply line hold f hf
    · obtain rfl := Option.some.inj hf
      exact ⟨h.inbox g (hin ▸ List.mem_cons_self), payload, rfl⟩
  · intro line hline hnone
    rcases mem_unread_take hline with hold | ⟨-, g, inbox, hin, rfl⟩
    · exact h.debug line hold hnone
    · cases hnone

theorem Newest.take {f : Frame} (h : l.Newest f) (drop : Bool) (payload : List Char) : (l.take drop payload).Newest f := by
  rcases h with ⟨older, hin, hid, hno⟩ | ⟨hin, hduty⟩
  · cases older with
    | nil =>
      -- the frame itself is taken
      refine .inr ⟨by rw [take_inbox, hin]; rfl, fun ch raw hc ⟨line, hline, hf⟩ => ?_⟩
      rcases mem_unread_take hline with hold | ⟨hdrop, g, inbox, hin', rfl⟩
      · exact absurd hf (hno line hold)
      · simp only [List.nil_append] at hin
        simp [Link.take, hin, hdrop, hc, apply]
    | cons g older =>
      refine .inl ⟨older, by rw [take_inbox, hin]; rfl, fun g' hg' => hid g' (List.mem_cons_of_mem _ hg'), ?_⟩
      intro line hline hf
      rcases mem_unread_take hline with hold | ⟨-, g', inbox, hin', rfl⟩
      · exact hno line hold hf
      · rw [hin, List.cons_append, List.cons.injEq] at hin'
        obtain rfl := Option.some.inj hf
        exact hid g List.mem_cons_self (by rw [hin'.1])
  · have htake : l.take drop payload = l := by simp [Link.take, hin]
    rw [htake]
    exact .inr ⟨hin, hduty⟩

theorem OnlyWrite.take {ch : Ch} {f : Frame} (h : l.OnlyWrite ch f) (drop : Bool) (payload : List Char) :
    (l.take drop payload).OnlyWrite ch f := by
  refine ⟨fun g hg => ?_, fun line hline g hg => ?_⟩
  · rw [take_inbox] at hg
    exact h.inbox g (List.mem_of_mem_tail hg)
  · rcases mem_unread_take hline with hold | ⟨-, g', inbox, hin, rfl⟩
    · exact h.reply line hold g hg
    · obtain rfl := Option.some.inj hg
      exact h.inbox g' (hin ▸ List.mem_cons_self)

theorem Ordered.write (h : l.Ordered) (command : Command) : (l.write command).Ordered := by
  refine ⟨fun f hf => ?_, fun line hline f hf => ?_, h.debug⟩
  · rcases List.mem_append.mp hf with hf | hf
    · exact Nat.lt_succ_of_lt (h.inbox f hf)
    · rw [List.mem_singleton.mp hf]
      exact Nat.lt_succ_self _
  · obtain ⟨hid, htext⟩ := h.reply line hline f hf
    exact ⟨Nat.lt_succ_of_lt hid, htext⟩

theorem Ordered.newest_write (h : l.Ordered) (command : Command) : (l.write command).Newest ⟨l.written, command⟩ := by
  refine .inl ⟨l.inbox, rfl, fun g hg => (h.inbox g hg).ne, fun line hline hf => ?_⟩
  exact (h.reply line hline _ hf).1.ne rfl

theorem Settled.onlyWrite {ch : Ch} (h : l.Settled ch) (command : Command) :
    (l.write command).OnlyWrite ch ⟨l.written, command⟩ := by
  refine ⟨fun g hg hw => ?_, fun line hline g hg hw => ?_⟩
  · rcases List.mem_append.mp hg with hg | hg
    · exact absurd hw (h.1 g hg)
    · exact List.mem_singleton.mp hg
  · exact absurd hw (h.2 line hline g hg)

end Link

/-! ## The host -/

namespace Host

variable {s : Host}

@[simp] theorem finish_link (s : Host) (owner : Owner) (sent : Option SerialError) : (s.finish owner sent).link = s.link := by
  cases owner <;> rfl

@[simp] theorem finish_port (s : Host) (owner : Owner) (sent : Option SerialError) : (s.finish owner sent).port = none := by
  cases owner <;> rfl

/-- What holds of the link under the exchange `x`, if there is one. -/
def Under (P : Link → Exchange → Prop) (s : Host) : Prop := ∀ x, s.port = some x → P s.link x

/-- The link is in order, and the exchange under way wrote the newest frame. -/
structure Sound (s : Host) : Prop where
  link : s.link.Ordered
  port : s.Under fun l x => x.frame.command = x.owner.command ∧ x.await.command = x.owner.command ∧ l.Newest x.frame

/-- The exchange under way, if a write, is the only write of its channel that can still be answered. -/
def Quiet : Host → Prop :=
  Under fun l x => ∀ ch raw, x.owner.command = .setPwm ch raw → l.OnlyWrite ch x.frame

theorem sound_start (timeoutMs : Nat) (cache : WriteCache) (duty : Ch → U8) : (start timeoutMs cache duty).Sound :=
  ⟨⟨nofun, nofun, nofun⟩, nofun⟩

theorem quiet_start (timeoutMs : Nat) (cache : WriteCache) (duty : Ch → U8) : (start timeoutMs cache duty).Quiet := nofun

theorem Sound.passes (h : s.Sound) {l : Link} (hl : s.link.Passes l) : ({ s with link := l } : Host).Sound := by
  refine ⟨hl.ordered h.link, fun x hx => ?_⟩
  obtain ⟨hframe, hawait, hnew⟩ := h.port x hx
  exact ⟨hframe, hawait, hl.newest hnew⟩

theorem Quiet.passes (h : s.Quiet) {l : Link} (hl : s.link.Passes l) : Quiet { s with link := l } :=
  fun x hx ch raw hc => hl.onlyWrite (h x hx ch raw hc)

theorem Sound.write (h : s.Sound) (owner : Owner) (w : Written) : (s.write owner w).Sound := by
  cases w with
  | ok =>
    refine ⟨h.link.write owner.command, ?_⟩
    rintro _ ⟨⟩
    exact ⟨rfl, rfl, h.link.newest_write owner.command⟩
  | failed e landed =>
    refine ⟨?_, fun x hx => ?_⟩
    · simp only [Host.write, finish_link]
      cases landed
      · exact h.link
      · exact h.link.write owner.command
    · simp [Host.write] at hx

theorem quiet_write (owner : Owner) (w : Written)
    (h : ∀ ch raw, owner.command = .setPwm ch raw → s.link.Settled ch) : (s.write owner w).Quiet := by
  cases w with
  | ok =>
    rintro _ ⟨⟩ ch raw hc
    exact (h ch raw hc).onlyWrite owner.command
  | failed e landed =>
    intro x hx
    simp [Host.write] at hx

theorem Sound.round (h : s.Sound) {x : Exchange} (hx : s.port = some x) (err : Option SerialError) :
    (s.round x err).Sound := by
  have hfin : ∀ {t : Host} (_ : t.Sound) (sent : Option SerialError), (t.finish x.owner sent).Sound := by
    intro t ht sent
    refine ⟨?_, fun y hy => ?_⟩
    · rw [finish_link]
      exact ht.link
    · simp at hy
  unfold Host.round
  split
  · exact hfin h _
  · split
    · exact hfin h _
    · exact h
    · next line lines _ _ hlines =>
      have hs := h.passes (Link.passes_read hlines)
      dsimp only
      split
      · next a ha =>
        refine ⟨hs.link, ?_⟩
        rintro _ ⟨⟩
        obtain ⟨hframe, hawait, hnew⟩ := hs.port x hx
        exact ⟨hframe, (Await.command_onLine ha).trans hawait, hnew⟩
      · exact hfin hs _
      · exact hfin hs _

theorem Quiet.round (h : s.Quiet) {x : Exchange} (hx : s.port = some x) (err : Option SerialError) :
    (s.round x err).Quiet := by
  have hfin : ∀ (t : Host) (sent : Option SerialError), (t.finish x.owner sent).Quiet := by
    intro t sent y hy
    simp at hy
  unfold Host.round
  split
  · exact hfin _ _
  · split
    · exact hfin _ _
    · exact h
    · next line lines _ _ hlines =>
      have hs := h.passes (Link.passes_read hlines)
      dsimp only
      split
      · rintro _ ⟨⟩
        exact hs x hx
      · exact hfin _ _
      · exact hfin _ _

theorem Sound.step (h : s.Sound) (e : HostEvent) : (s.step e).Sound := by
  cases e with
  | elapse d => exact ⟨h.link, h.port⟩
  | bump => exact ⟨h.link, h.port⟩
  | setPwm channel pwmPercent =>
    simp only [Host.step]
    split
    · exact h
    · split <;> exact ⟨h.link, h.port⟩
  | sendFrame w =>
    simp only [Host.step]
    split
    · exact Sound.write (s := { s with waiting := none }) ⟨h.link, h.port⟩ _ w
    · exact h
  | pollRpm w =>
    simp only [Host.step]
    split
    · exact h.write _ w
    · exact h
  | round err =>
    simp only [Host.step]
    split
    · next x hx => exact h.round hx err
    · exact h
  | take drop payload =>
    refine ⟨h.link.take drop payload, fun x hx => ?_⟩
    obtain ⟨hframe, hawait, hnew⟩ := h.port x hx
    exact ⟨hframe, hawait, hnew.take drop payload⟩
  | emit n => exact h.passes (Link.passes_emit s.link n)
  | debugLine text => exact h.passes (Link.passes_debugLine s.link text)

/-- A write goes out only where no earlier write of its channel can still be answered. -/
def SettledWrite (s : Host) : HostEvent → Prop
  | .sendFrame _ => ∀ w ∈ s.waiting, s.port = none → s.link.Settled w.1
  | _ => True

theorem Quiet.step (h : s.Quiet) {e : HostEvent} (he : s.SettledWrite e) : (s.step e).Quiet := by
  cases e with
  | elapse d => exact h
  | bump => exact h
  | setPwm channel pwmPercent =>
    simp only [Host.step]
    split
    · exact h
    · split <;> exact h
  | sendFrame w =>
    simp only [Host.step]
    split
    · next i effective hwait hport =>
      refine quiet_write _ w ?_
      rintro ch raw ⟨⟩
      exact he (i, effective) hwait hport
    · exact h
  | pollRpm w =>
    simp only [Host.step]
    split
    · exact quiet_write _ w nofun
    · exact h
  | round err =>
    simp only [Host.step]
    split
    · next x hx => exact h.round hx err
    · exact h
  | take drop payload => exact fun x hx ch raw hc => (h x hx ch raw hc).take drop payload
  | emit n => exact h.passes (Link.passes_emit s.link n)
  | debugLine text => exact h.passes (Link.passes_debugLine s.link text)

/-! ## What an accepted line answers -/

theorem reads_eq_some {e : HostEvent} {x : Exchange} {line : Line} (h : s.reads e = some (x, line)) :
    s.port = some x ∧ line ∈ s.link.unread ∧ x.await.guards s.now = none ∧ e = .round none ∧ s.link.lines.head? = some line := by
  unfold reads at h
  split at h
  · split at h
    · next x' line' lines hx hlines =>
      split at h
      · next hguard =>
        cases h
        refine ⟨hx, List.mem_append_right _ (hlines ▸ List.mem_cons_self), hguard, rfl, by rw [hlines]; rfl⟩
      · cases h
    · cases h
  · cases h

theorem accepts_eq_some {e : HostEvent} {x : Exchange} {line : Line} :
    s.accepts e = some (x, line) ↔ s.reads e = some (x, line) ∧ ∃ r, x.await.onLine line.text = .done (.ok r) := by
  unfold accepts
  rw [Option.filter_eq_some_iff]
  refine and_congr_right fun _ => ?_
  dsimp only
  split <;> simp_all

/-- **What a write takes for its reply is the reply to some write of its channel.** -/
theorem Sound.accepts_iff (h : s.Sound) {e : HostEvent} {x : Exchange} {line : Line} (hr : s.reads e = some (x, line))
    {ch : Ch} {raw : U8} (hc : x.owner.command = .setPwm ch raw) :
    s.accepts e = some (x, line) ↔ ∃ f, line.answers = some f ∧ f.command.writes ch := by
  obtain ⟨hx, hline, -⟩ := reads_eq_some hr
  obtain ⟨-, hawait, -⟩ := h.port x hx
  rw [accepts_eq_some, and_iff_right hr]
  constructor
  · rintro ⟨r, hok⟩
    obtain ⟨hdec, hm⟩ := Await.onLine_eq_ok.mp hok
    rw [hawait, hc] at hm
    cases hf : line.answers with
    | none =>
      rw [decodeLine_debug (h.link.debug line hline hf)] at hdec
      cases hdec
    | some f =>
      obtain ⟨-, payload, htext⟩ := h.link.reply line hline f hf
      rw [htext] at hdec
      exact ⟨f, rfl, (matchesReply_replyLine hdec).mp hm⟩
  · rintro ⟨f, hf, hw⟩
    obtain ⟨-, payload, htext⟩ := h.link.reply line hline f hf
    obtain ⟨r, hdec⟩ : ∃ r, decodeLine line.text = .ok (.response r) := by
      rw [htext]
      cases hcf : f.command with
      | setPwm ch' raw' => exact ⟨_, decodeLine_setPwm ch' raw' payload⟩
      | readAllRpm => simp [hcf, Command.writes] at hw
      | readRpm ch' => simp [hcf, Command.writes] at hw
    refine ⟨r, Await.onLine_eq_ok.mpr ⟨hdec, ?_⟩⟩
    rw [htext] at hdec
    rw [hawait, hc]
    exact (matchesReply_replyLine hdec).mpr hw

/-- Once the newest frame is answered, the device holds its duty. -/
theorem Sound.duty (h : s.Sound) {x : Exchange} (hx : s.port = some x) {line : Line} (hline : line ∈ s.link.unread)
    (hf : line.answers = some x.frame) {ch : Ch} {raw : U8} (hc : x.owner.command = .setPwm ch raw) :
    s.link.duty ch = raw := by
  obtain ⟨hframe, -, hnew⟩ := h.port x hx
  rcases hnew with ⟨_, _, _, hno⟩ | ⟨_, hduty⟩
  · exact absurd hf (hno line hline)
  · exact hduty ch raw (hframe.trans hc) ⟨line, hline, hf⟩

/-! ## What the controller records -/

theorem lastCommandedPct_observe {c : FanController} {g : Nat} {i : Ch} {p : Nat}
    (h : ((c.observeWriteGeneration g).channels i).lastCommandedPct = some p) :
    (c.channels i).lastCommandedPct = some p := by
  unfold FanController.observeWriteGeneration at h
  split at h
  · cases h
  · exact h

theorem lastCommandedPct_begin {c : FanController} {g now channel pct : Nat} {i : Ch} {p : Nat}
    (h : ((c.beginSetPwm g now channel pct).1.channels i).lastCommandedPct = some p) :
    (c.channels i).lastCommandedPct = some p := by
  unfold FanController.beginSetPwm at h
  split at h
  · split at h
    · exact h
    · dsimp only at h
      split at h
      · exact lastCommandedPct_observe h
      · split at h
        · exact lastCommandedPct_observe h
        · next hch _ _ _ _ _ =>
          refine lastCommandedPct_observe (g := g) ?_
          simp only [FanController.modify] at h
          by_cases hi : i = ⟨channel, hch⟩
          · subst hi
            simpa using h
          · simpa [Function.update_of_ne hi] using h
  · exact h

theorem lastCommandedPct_finish {c : FanController} {k : WriteCache} {now : Nat} {i j : Ch} {eff p : Nat}
    {sent : Option SerialError} (h : ((c.finishSetPwm k now i eff sent).1.channels j).lastCommandedPct = some p) :
    (c.channels j).lastCommandedPct = some p ∨ sent = none ∧ j = i ∧ p = eff := by
  unfold FanController.finishSetPwm at h
  by_cases hj : j = i
  · subst hj
    cases sent with
    | none =>
      simp [FanController.modify, OpenFan.ChannelControl.landed] at h
      exact .inr ⟨rfl, rfl, h.symm⟩
    | some e => simp [FanController.modify, OpenFan.ChannelControl.failed] at h
  · left
    cases sent <;> simpa [FanController.modify, Function.update_of_ne hj] using h

theorem recorded_finish {owner : Owner} {sent : Option SerialError} {i : Ch} {p : Nat}
    (h : ((s.finish owner sent).ctrl.channels i).lastCommandedPct = some p) :
    (s.ctrl.channels i).lastCommandedPct = some p ∨ sent = none ∧ owner = .setPwm i p := by
  cases owner with
  | poll => exact .inl h
  | setPwm j eff =>
    rcases lastCommandedPct_finish h with h | ⟨hsent, rfl, rfl⟩
    · exact .inl h
    · exact .inr ⟨hsent, rfl⟩

theorem recorded_write {owner : Owner} {w : Written} {i : Ch} {p : Nat}
    (h : ((s.write owner w).ctrl.channels i).lastCommandedPct = some p) :
    (s.ctrl.channels i).lastCommandedPct = some p := by
  cases w with
  | ok => exact h
  | failed e landed =>
    rcases recorded_finish h with h | ⟨hsent, -⟩
    · exact h
    · cases hsent

/-- A duty is newly recorded only by the write whose reply this step accepts. -/
theorem recorded_step {e : HostEvent} {i : Ch} {p : Nat} (h : ((s.step e).ctrl.channels i).lastCommandedPct = some p) :
    (s.ctrl.channels i).lastCommandedPct = some p ∨
      ∃ x line, s.accepts e = some (x, line) ∧ x.owner = .setPwm i p := by
  cases e with
  | elapse d => exact .inl h
  | bump => exact .inl h
  | take drop payload => exact .inl h
  | emit n => exact .inl h
  | debugLine text => exact .inl h
  | setPwm channel pwmPercent =>
    left
    simp only [step] at h
    split at h
    · exact h
    · split at h
      · next ctrl _ hb => exact lastCommandedPct_begin (by rw [hb]; exact h)
      · next ctrl _ _ hb => exact lastCommandedPct_begin (by rw [hb]; exact h)
  | sendFrame w =>
    left
    simp only [step] at h
    split at h
    · exact recorded_write (s := { s with waiting := none }) h
    · exact h
  | pollRpm w =>
    left
    simp only [step] at h
    split at h
    · exact recorded_write h
    · exact h
  | round err =>
    simp only [step] at h
    split at h
    case h_2 => exact .inl h
    case h_1 x hx =>
    unfold round at h
    split at h
    case h_1 e hguard => exact .inl ((recorded_finish h).resolve_right (by simp))
    case h_2 hguard =>
    split at h
    case h_1 e _ => exact .inl ((recorded_finish h).resolve_right (by simp))
    case h_2 => exact .inl h
    case h_3 line lines hlines =>
    dsimp only at h
    split at h
    case h_1 => exact .inl h
    case h_2 => exact .inl ((recorded_finish h).resolve_right (by simp))
    case h_3 r hok =>
    rcases recorded_finish h with h | ⟨-, howner⟩
    · exact .inl h
    · have hreads : s.reads (.round none) = some (x, line) := by simp [reads, hx, hlines, hguard]
      exact .inr ⟨x, line, accepts_eq_some.mpr ⟨hreads, r, hok⟩, howner⟩

/-! ## The claim along a run -/

/-- The line is the reply to the frame of the exchange, and the device holds its duty. -/
def AckedBy (s : Host) (x : Exchange) (line : Line) (ch : Ch) (raw : U8) : Prop :=
  line.answers = some x.frame ∧ s.link.duty ch = raw

/-- A write that returns `Ok` was acknowledged, and a duty newly recorded is one the device acknowledged. -/
structure Acked (s : Host) (e : HostEvent) : Prop where
  ok : ∀ x line, s.accepts e = some (x, line) → ∀ ch raw, x.owner.command = .setPwm ch raw → s.AckedBy x line ch raw
  recorded : ∀ i p, ((s.step e).ctrl.channels i).lastCommandedPct = some p →
    (s.ctrl.channels i).lastCommandedPct = some p ∨ ∃ x line, s.accepts e = some (x, line) ∧
      x.owner.command = .setPwm i (rawOf p) ∧ s.AckedBy x line i (rawOf p)

/-- No write reads the reply to an earlier write of its channel. -/
def NoLateReply (s : Host) (e : HostEvent) : Prop :=
  ∀ x line, s.reads e = some (x, line) → ∀ ch raw, x.owner.command = .setPwm ch raw →
    ∀ f ∈ line.answers, f.command.writes ch → f = x.frame

theorem Sound.acked_iff (h : s.Sound) (e : HostEvent) : s.Acked e ↔ s.NoLateReply e := by
  constructor
  · intro hacked x line hr ch raw hc f hf hw
    have hacc := (h.accepts_iff hr hc).mpr ⟨f, hf, hw⟩
    exact Option.some.inj (hf.symm.trans (hacked.ok x line hacc ch raw hc).1)
  · intro hlate
    have hok : ∀ x line, s.accepts e = some (x, line) → ∀ ch raw, x.owner.command = .setPwm ch raw →
        s.AckedBy x line ch raw := by
      intro x line hacc ch raw hc
      have hr := (accepts_eq_some.mp hacc).1
      obtain ⟨hx, hline, -⟩ := reads_eq_some hr
      obtain ⟨f, hf, hw⟩ := (h.accepts_iff hr hc).mp hacc
      obtain rfl := hlate x line hr ch raw hc f hf hw
      exact ⟨hf, h.duty hx hline hf hc⟩
    refine ⟨hok, fun i p hp => ?_⟩
    rcases recorded_step hp with hold | ⟨x, line, hacc, howner⟩
    · exact .inl hold
    · have hc : x.owner.command = .setPwm i (rawOf p) := by rw [howner]; rfl
      exact .inr ⟨x, line, hacc, hc, hok x line hacc i _ hc⟩

/-- Where every write went out settled, no late reply is there to be read. -/
theorem Quiet.noLateReply (h : s.Quiet) (e : HostEvent) : s.NoLateReply e := by
  intro x line hr ch raw hc f hf hw
  obtain ⟨hx, hline, -⟩ := reads_eq_some hr
  exact (h x hx ch raw hc).reply line hline f hf hw

/-- **A write reported `Ok` was acknowledged, except where it read the late reply to an earlier write of its
channel; and none does where every write goes out with no such reply still to come.** -/
theorem run_acked_iff (timeoutMs : Nat) (cache : WriteCache) (duty : Ch → U8) (es : List HostEvent) :
    (Machine.Along step Acked (start timeoutMs cache duty) es ↔
      Machine.Along step NoLateReply (start timeoutMs cache duty) es) ∧
    (Machine.Along step SettledWrite (start timeoutMs cache duty) es →
      Machine.Along step Acked (start timeoutMs cache duty) es) := by
  have hiff : Machine.Along step Acked (start timeoutMs cache duty) es ↔
      Machine.Along step NoLateReply (start timeoutMs cache duty) es :=
    Machine.along_congr_of_inv (I := Sound) (fun _ e h => h.step e) (fun _ e h => h.acked_iff e) _
      (sound_start timeoutMs cache duty) es
  refine ⟨hiff, fun hset => hiff.mpr ?_⟩
  refine Machine.along_of_along (I := fun s => s.Sound ∧ s.Quiet) ?_ _
    ⟨sound_start timeoutMs cache duty, quiet_start timeoutMs cache duty⟩ hset
  rintro s e - ⟨hs, hq⟩ he
  exact ⟨hq.noLateReply e, hs.step e, hq.step he⟩

/-! Channel 3 is sent 40 %, whose reply is late. The exchange times out; the next command, 100 %, is lost on the
way, reads the late reply and returns `Ok`. The device stays at 40 %. -/

def lateReply : List HostEvent :=
  [.setPwm 3 40, .sendFrame .ok, .take false [], .elapse 500000000, .round none, .setPwm 3 100, .sendFrame .ok,
    .take true [], .emit 0]

theorem lateReply_not_acked :
    ¬Machine.Along step Acked (start 500 ⟨0, .empty⟩ fun _ => 0) (lateReply ++ [.round none]) := by
  intro h
  rw [Machine.along_append, Machine.along_cons] at h
  have hlate : ∃ a ∈ (Machine.run step (start 500 ⟨0, .empty⟩ fun _ => 0) lateReply).accepts (.round none),
      a.1.owner.command = .setPwm 3 255 ∧ a.2.answers ≠ some a.1.frame := by decide
  obtain ⟨⟨x, line⟩, hacc, hc, hne⟩ := hlate
  exact hne (h.2.1.ok x line hacc 3 255 hc).1

end Host

end ControlOfc.Serial
