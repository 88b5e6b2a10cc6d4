import ControlOfc.Serial.Rendering
import ControlOfc.Serial.Transport
import Mathlib.Data.Nat.Count
/-! # The link resynchronises (serial/transport.rs:194-269)

`send_command` over whatever its transport returns, read by read. A read settles the exchange where it
fails, where its line is rejected and where it is the reply; any other is a debug line or a stale frame, and
there are caps for both. Each round adds to one of the two counts, so the loop ends.

Main theorem `sendCommand_resynchronises`.
-/
namespace ControlOfc.Serial
open OpenFan (Ch SerialError)

/-- What `read_line` returns, call by call. -/
abbrev Reads := Nat → Except SerialError (List Char)

namespace Await

/-- The lines the loop may still skip. -/
def roundsLeft (a : Await) : Nat := (maxDebugLines - a.debugLinesSkipped) + (maxStaleFrames - a.staleFramesDrained)

theorem guards_eq_none {a : Await} {now : Nat} :
    a.guards now = none ↔
      now < a.deadline ∧ a.debugLinesSkipped < maxDebugLines ∧ a.staleFramesDrained < maxStaleFrames := by
  unfold guards
  split
  · next h => simp [h]
  · next hd =>
    split
    · next h => simp [h]
    · next hdebug =>
      split
      · next h => simp [h]
      · next hstale => simp [Nat.lt_of_not_le hd, Nat.lt_of_not_le hdebug, Nat.lt_of_not_le hstale]

/-- Going on is having skipped one line. -/
theorem onLine_eq_again {a a' : Await} {line : List Char} (h : a.onLine line = .again a') :
    (a' = { a with staleFramesDrained := a.staleFramesDrained + 1 } ∧
      ∃ r, decodeLine line = .ok (.response r) ∧ a.command.matchesReply r = false) ∨
    (a' = { a with debugLinesSkipped := a.debugLinesSkipped + 1 } ∧ ∃ text, decodeLine line = .ok (.debugOutput text)) := by
  unfold onLine at h
  split at h
  · cases h
  · next r hr =>
    split at h
    · cases h
    · next hm =>
      cases h
      exact .inl ⟨rfl, r, hr, by simpa using hm⟩
  · next text ht =>
    cases h
    exact .inr ⟨rfl, text, ht⟩

/-- The loop, `consumed` lines in: what it returns and how many lines it has read by then. -/
def run (a : Await) (clock : Nat → Nat) (x : Reads) (consumed : Nat) : Except SerialError Response × Nat :=
  match _hg : a.guards (clock consumed) with
  | some e => (.error e, consumed)
  | none =>
    match x consumed with
    | .error e => (.error e, consumed)
    | .ok line =>
      match hl : a.onLine line with
      | .done result => (result, consumed + 1)
      | .again a' => a'.run clock x (consumed + 1)
termination_by a.roundsLeft
decreasing_by
  have hcaps := (guards_eq_none.mp _hg).2
  rcases onLine_eq_again hl with ⟨rfl, -⟩ | ⟨rfl, -⟩ <;> simp only [roundsLeft] <;> omega

end Await

/-- `send_command` (transport.rs:194), from what `write_line` returned. -/
def sendCommand (command : Command) (timeoutMs now : Nat) (written : Except SerialError Unit) (clock : Nat → Nat)
    (x : Reads) : Except SerialError Response × Nat :=
  match written with
  | .error e => (.error e, 0)
  | .ok () => (Await.start command timeoutMs now).run clock x 0

/-! ## What a read comes to -/

section Reads

variable (command : Command) (x : Reads)

/-- What the exchange ends with on a read. -/
def settles (read : Except SerialError (List Char)) : Option (Except SerialError Response) :=
  match read.bind decodeLine with
  | .error e => some (.error e)
  | .ok (.response r) => if command.matchesReply r then some (.ok r) else none
  | .ok (.debugOutput _) => none

def isDebug (read : Except SerialError (List Char)) : Bool :=
  match read.bind decodeLine with
  | .ok (.debugOutput _) => true
  | _ => false

/-- A frame that is not the reply. -/
def isStale (read : Except SerialError (List Char)) : Bool :=
  match read.bind decodeLine with
  | .ok (.response r) => !command.matchesReply r
  | _ => false

/-- Among the first `k` reads. -/
def debugs (k : Nat) : Nat := Nat.count (fun i => isDebug (x i) = true) k

def stales (k : Nat) : Nat := Nat.count (fun i => isStale command (x i) = true) k

/-- A cap is reached after `k` reads. -/
def Capped (k : Nat) : Prop := maxDebugLines ≤ debugs x k ∨ maxStaleFrames ≤ stales command x k

instance (k : Nat) : Decidable (Capped command x k) := inferInstanceAs (Decidable (_ ∨ _))

/-- The read that settles the exchange: the first, with no cap reached before it. -/
structure Settling (k : Nat) (result : Except SerialError Response) : Prop where
  here : settles command (x k) = some result
  first : ∀ i < k, settles command (x i) = none
  uncapped : ¬Capped command x k

/-- The shortest prefix that reaches a cap, with nothing in it that settles. -/
structure Spent (k : Nat) : Prop where
  capped : Capped command x k
  shortest : ∀ i < k, ¬Capped command x i
  unsettled : ∀ i < k, settles command (x i) = none

variable {command x}

/-- A read that settles nothing is a line to skip, of one kind. -/
theorem skipped {read : Except SerialError (List Char)} (h : settles command read = none) :
    ∃ line, read = .ok line ∧
      ((isDebug read = true ∧ isStale command read = false ∧ ∃ text, decodeLine line = .ok (.debugOutput text)) ∨
       (isDebug read = false ∧ isStale command read = true ∧
        ∃ r, decodeLine line = .ok (.response r) ∧ command.matchesReply r = false)) := by
  cases read with
  | error e => cases h
  | ok line =>
    refine ⟨line, rfl, ?_⟩
    unfold settles isDebug isStale at *
    simp only [Except.bind] at *
    cases hd : decodeLine line with
    | error e => simp [hd] at h
    | ok d =>
      cases d with
      | debugOutput text => exact .inl ⟨rfl, rfl, text, rfl⟩
      | response r =>
        have hm : command.matchesReply r = false := by simpa [hd] using h
        exact .inr ⟨rfl, by simp [hm], r, rfl, hm⟩

theorem debugs_succ (k : Nat) : debugs x (k + 1) = debugs x k + if isDebug (x k) then 1 else 0 := Nat.count_succ _ k

theorem stales_succ (k : Nat) : stales command x (k + 1) = stales command x k + if isStale command (x k) then 1 else 0 :=
  Nat.count_succ _ k

theorem debugs_mono {i k : Nat} (h : i ≤ k) : debugs x i ≤ debugs x k := Nat.count_monotone _ h

theorem stales_mono {i k : Nat} (h : i ≤ k) : stales command x i ≤ stales command x k := Nat.count_monotone _ h

theorem Capped.mono {i k : Nat} (hc : Capped command x i) (h : i ≤ k) : Capped command x k :=
  hc.imp (·.trans (debugs_mono h)) (·.trans (stales_mono h))

/-- Reads that settle nothing are all counted. -/
theorem debugs_add_stales {k : Nat} (h : ∀ i < k, settles command (x i) = none) :
    debugs x k + stales command x k = k := by
  induction k with
  | zero => rfl
  | succ k ih =>
    have hprev := ih fun i hi => h i (hi.trans (Nat.lt_succ_self k))
    obtain ⟨line, -, ⟨hd, hs, -⟩ | ⟨hd, hs, -⟩⟩ := skipped (h k (Nat.lt_succ_self k)) <;>
      simp only [debugs_succ, stales_succ, hd, hs, if_true] <;> simp <;> omega

/-! ## The loop follows its reads -/

/-- The loop after `k` reads it has skipped. -/
def Await.after (a : Await) (x : Reads) (k : Nat) : Await :=
  { a with
    debugLinesSkipped := a.debugLinesSkipped + debugs x k
    staleFramesDrained := a.staleFramesDrained + stales a.command x k }

section Loop

variable {timeoutMs now : Nat} {clock : Nat → Nat}

theorem guards_after {k : Nat} (hclock : clock k < now + timeoutMs * 1000000) :
    (Capped command x k → ∃ msg, ((Await.start command timeoutMs now).after x k).guards (clock k) = some (.protocol msg)) ∧
    (¬Capped command x k → ((Await.start command timeoutMs now).after x k).guards (clock k) = none) := by
  constructor
  · intro hc
    have hdeadline : ¬now + timeoutMs * 1000000 ≤ clock k := by omega
    unfold Await.guards
    simp only [Await.after, Await.start, hdeadline, if_false, Nat.zero_add]
    split
    · exact ⟨_, rfl⟩
    · next hdebug =>
      rw [if_pos (hc.resolve_left hdebug)]
      exact ⟨_, rfl⟩
  · intro hc
    rw [Await.guards_eq_none]
    simpa [Capped, Await.after, Await.start, not_or, hclock] using hc

/-- One round that skips its line. -/
theorem run_after {k : Nat} (hclock : clock k < now + timeoutMs * 1000000) (hs : settles command (x k) = none)
    (hc : ¬Capped command x k) :
    ((Await.start command timeoutMs now).after x k).run clock x k =
      ((Await.start command timeoutMs now).after x (k + 1)).run clock x (k + 1) := by
  obtain ⟨line, hline, hkind⟩ := skipped hs
  have hagain : ((Await.start command timeoutMs now).after x k).onLine line =
      .again ((Await.start command timeoutMs now).after x (k + 1)) := by
    unfold Await.onLine
    rcases hkind with ⟨hd, hst, text, htext⟩ | ⟨hd, hst, r, hr, hm⟩
    · simp [htext, Await.after, Await.start, debugs_succ, stales_succ, hd, hst]
    · simp [hr, hm, Await.after, Await.start, debugs_succ, stales_succ, hd, hst]
  rw [Await.run]
  split
  · next e he => simp [(guards_after hclock).2 hc] at he
  · rw [hline]
    dsimp only
    split
    · next result hdone => simp [hagain] at hdone
    · next a' ha =>
      rw [hagain] at ha
      cases ha
      rfl

/-- The loop gets as far as its reads let it. -/
theorem run_reaches (hclock : ∀ i, clock i < now + timeoutMs * 1000000) {k : Nat}
    (hs : ∀ i < k, settles command (x i) = none) (hc : ∀ i < k, ¬Capped command x i) :
    (Await.start command timeoutMs now).run clock x 0 = ((Await.start command timeoutMs now).after x k).run clock x k := by
  induction k with
  | zero => simp [Await.after, debugs, stales]
  | succ k ih =>
    have hk := Nat.lt_succ_self k
    rw [ih (fun i hi => hs i (hi.trans hk)) (fun i hi => hc i (hi.trans hk))]
    exact run_after (hclock k) (hs k hk) (hc k hk)

/-- The lines among the first `k + 1` reads, where only the last may have failed. -/
def linesTo (x : Reads) (k : Nat) : Nat := if (x k).isOk then k + 1 else k

theorem run_settling (hclock : ∀ i, clock i < now + timeoutMs * 1000000) {k : Nat} {result : Except SerialError Response}
    (h : Settling command x k result) :
    sendCommand command timeoutMs now (.ok ()) clock x = (result, linesTo x k) := by
  have hbefore : ∀ i < k, ¬Capped command x i := fun i hi hc => h.uncapped (hc.mono hi.le)
  have hhere := h.here
  unfold sendCommand
  dsimp only
  rw [run_reaches hclock h.first hbefore, Await.run]
  split
  · next e he => simp [(guards_after (hclock k)).2 h.uncapped] at he
  · cases hx : x k with
    | error e => simp_all [settles, linesTo, Except.bind, Except.isOk, Except.toBool]
    | ok line =>
      have hdone : ((Await.start command timeoutMs now).after x k).onLine line = .done result := by
        unfold settles at hhere
        unfold Await.onLine
        simp only [hx, Except.bind] at hhere
        cases hd : decodeLine line with
        | error e => simp_all
        | ok d =>
          cases d with
          | debugOutput text => simp [hd] at hhere
          | response r => simp_all [Await.after, Await.start]
      dsimp only
      split
      · next r hr =>
        rw [hdone] at hr
        cases hr
        simp [linesTo, hx, Except.isOk, Except.toBool]
      · next a' ha => simp [hdone] at ha

theorem run_spent (hclock : ∀ i, clock i < now + timeoutMs * 1000000) {k : Nat} (h : Spent command x k) :
    ∃ msg, sendCommand command timeoutMs now (.ok ()) clock x = (.error (.protocol msg), k) := by
  obtain ⟨msg, hmsg⟩ := (guards_after (hclock k)).1 h.capped
  unfold sendCommand
  dsimp only
  rw [run_reaches hclock h.unsettled h.shortest, Await.run]
  split
  · next e he =>
    rw [hmsg] at he
    cases he
    exact ⟨msg, rfl⟩
  · next hnone => simp [hmsg] at hnone

end Loop

/-! ## One of the two happens -/

variable (command x) in
theorem settling_or_spent : (∃ k result, Settling command x k result) ∨ ∃ k, Spent command x k := by
  by_contra h
  rw [not_or] at h
  obtain ⟨hsettling, hspent⟩ := h
  have hgo : ∀ k, ∀ i < k, settles command (x i) = none ∧ ¬Capped command x i := by
    intro k
    induction k with
    | zero => exact fun i hi => absurd hi (Nat.not_lt_zero i)
    | succ k ih =>
      intro i hi
      rcases Nat.lt_succ_iff_lt_or_eq.mp hi with hi | rfl
      · exact ih i hi
      · have hcap : ¬Capped command x i := fun hc => hspent ⟨i, hc, fun j hj => (ih j hj).2, fun j hj => (ih j hj).1⟩
        refine ⟨?_, hcap⟩
        cases hs : settles command (x i) with
        | none => rfl
        | some result => exact absurd ⟨i, result, hs, fun j hj => (ih j hj).1, hcap⟩ hsettling
  have hall := hgo (maxDebugLines + maxStaleFrames + 1)
  have hcount := debugs_add_stales (k := maxDebugLines + maxStaleFrames) fun i hi => (hall i (by omega)).1
  refine (hall _ (Nat.lt_succ_self _)).2 ?_
  unfold Capped
  omega

/-- Short of a cap there is room for that many lines and no more. -/
theorem le_of_not_capped {k : Nat} (h : ¬Capped command x k) (hs : ∀ i < k, settles command (x i) = none) :
    k + 2 ≤ maxDebugLines + maxStaleFrames := by
  have hcount := debugs_add_stales hs
  unfold Capped at h
  omega

theorem matchesReply_of_settles {read : Except SerialError (List Char)} {r : Response}
    (h : settles command read = some (.ok r)) : command.matchesReply r = true := by
  unfold settles at h
  split at h
  · cases h
  · split at h
    · next hm =>
      cases h
      exact hm
    · cases h
  · cases h

end Reads

/-- **`send_command` resynchronises exactly.** With the deadline not reached, the first read that settles the
exchange before a cap is what it returns, and where there is none it gives up on the shortest prefix that
reaches a cap. -/
theorem sendCommand_resynchronises (command : Command) (timeoutMs now : Nat) (clock : Nat → Nat) (x : Reads)
    (hclock : ∀ i, clock i < now + timeoutMs * 1000000) :
    (∀ k result, Settling command x k result →
      sendCommand command timeoutMs now (.ok ()) clock x = (result, linesTo x k)) ∧
    ((¬∃ k result, Settling command x k result) →
      ∃ k msg, Spent command x k ∧ sendCommand command timeoutMs now (.ok ()) clock x = (.error (.protocol msg), k)) ∧
    (sendCommand command timeoutMs now (.ok ()) clock x).2 + 1 ≤ maxDebugLines + maxStaleFrames ∧
    (∀ r, (sendCommand command timeoutMs now (.ok ()) clock x).1 = .ok r → command.matchesReply r = true) ∧
    (∀ (code : U8) (readings : List (Ch × U16)) (t : Tail), readings ≠ [] →
      decodeLine (frame code (readings.map rpmPair) t) =
        .ok (.response ⟨code, readings.map fun r => ⟨r.1, r.2⟩⟩)) ∧
    ∀ (ch : Ch) (pwm : U8) (t : Tail),
      decodeLine (frame 2 [ackPair ch pwm] t) = .ok (.response ⟨2, [⟨ch, pwm⟩]⟩) := by
  have hsettled : ∀ k result, Settling command x k result →
      sendCommand command timeoutMs now (.ok ()) clock x = (result, linesTo x k) := fun k result h => run_settling hclock h
  have hspent : (¬∃ k result, Settling command x k result) →
      ∃ k msg, Spent command x k ∧ sendCommand command timeoutMs now (.ok ()) clock x = (.error (.protocol msg), k) := by
    intro hnone
    obtain ⟨k, hk⟩ := (settling_or_spent command x).resolve_left hnone
    obtain ⟨msg, hmsg⟩ := run_spent hclock hk
    exact ⟨k, msg, hk, hmsg⟩
  refine ⟨hsettled, hspent, ?_, ?_, ?_, ?_⟩
  · by_cases hs : ∃ k result, Settling command x k result
    · obtain ⟨k, result, h⟩ := hs
      have hroom := le_of_not_capped h.uncapped h.first
      rw [hsettled k result h]
      unfold linesTo
      split <;> dsimp only <;> omega
    · obtain ⟨k, msg, hk, hout⟩ := hspent hs
      rw [hout]
      cases k with
      | zero => exact absurd hk.capped (by simp [Capped, debugs, stales, maxDebugLines, maxStaleFrames])
      | succ k =>
        have hroom := le_of_not_capped (hk.shortest k (Nat.lt_succ_self k)) fun i hi => hk.unsettled i (by omega)
        dsimp only
        omega
  · intro r hr
    by_cases hs : ∃ k result, Settling command x k result
    · obtain ⟨k, result, h⟩ := hs
      rw [hsettled k result h] at hr
      have hhere := h.here
      rw [show result = .ok r from hr] at hhere
      exact matchesReply_of_settles hhere
    · obtain ⟨k, msg, -, hout⟩ := hspent hs
      rw [hout] at hr
      cases hr
  · intro code readings t h
    rw [decodeLine_frame code (by simpa using h) t, List.map_map]
    rfl
  · intro ch pwm t
    exact decodeLine_frame 2 (List.cons_ne_nil _ _) t

/-- One frame behind: the ack of a write left in the pipeline, a log line, then the reply. -/
def oneBehind : Reads
  | 0 => .ok "<02|03:59\r\n".toList
  | 1 => .ok "fan 3 at 35 %\r\n".toList
  | _ => .ok "<00|00:04B0;01:0000;>\r\n".toList

theorem sendCommand_resynchronises_oneBehind :
    sendCommand .readAllRpm 500 0 (.ok ()) (fun _ => 0) oneBehind = (.ok ⟨0, [⟨0, 1200⟩, ⟨1, 0⟩]⟩, 3) :=
  (sendCommand_resynchronises .readAllRpm 500 0 (fun _ => 0) oneBehind (fun _ => by decide)).1 2 _
    ⟨by decide, by decide, by decide⟩

/-- A reply with no reading in it is rejected, and a transport with nothing more to say ends the exchange. -/
theorem empty_reply_rejected :
    (∃ msg, decodeLine (frame 0 (([] : List (Ch × U16)).map rpmPair) ⟨false, false, [], by simp⟩) = .error (.protocol msg)) ∧
    sendCommand .readAllRpm 500 0 (.ok ()) (fun _ => 0) (fun _ => .error (.timeout 500)) = (.error (.timeout 500), 0) := by
  refine ⟨⟨_, rfl⟩, ?_⟩
  exact run_settling (fun _ => by decide) (k := 0) ⟨rfl, fun i hi => absurd hi (Nat.not_lt_zero i), by decide⟩

end ControlOfc.Serial
