import ControlOfc.Serial.Protocol
import Mathlib.Data.List.DropRight
/-! # One exchange over the port (serial/transport.rs:166-269)

`send_command` writes its frame and then reads lines until one is the reply to it. Its loop is a machine of
one round: the three guards, then one line.
-/
namespace ControlOfc.Serial
open OpenFan (Ch SerialError)

/-- `MAX_DEBUG_LINES` (transport.rs:145). -/
def maxDebugLines : Nat := 50

/-- `MAX_STALE_FRAMES` (transport.rs:163). -/
def maxStaleFrames : Nat := 16

/-- `send_command` between two rounds of its loop. -/
structure Await where
  command : Command
  timeoutMs : Nat
  deadline : Nat
  debugLinesSkipped : Nat
  staleFramesDrained : Nat
  deriving DecidableEq, Repr

/-- How a round ends. -/
inductive Round where
  | again (a : Await)
  | done (result : Except SerialError Response)
  deriving DecidableEq

namespace Await

/-- The frame has just been written. -/
def start (command : Command) (timeoutMs now : Nat) : Await := ⟨command, timeoutMs, now + timeoutMs * 1000000, 0, 0⟩

/-- The guards at the top of the loop (transport.rs:212-235). -/
def guards (a : Await) (now : Nat) : Option SerialError :=
  if a.deadline ≤ now then some (.timeout a.timeoutMs)
  else if maxDebugLines ≤ a.debugLinesSkipped then
    some (.protocol ("no response after " ++ toString a.debugLinesSkipped ++
      " debug lines — firmware may be in an error loop"))
  else if maxStaleFrames ≤ a.staleFramesDrained then
    some (.protocol ("no reply to " ++ a.command.debug ++ " (opcode 0x" ++ str (Text.hexByte a.command.opcode) ++
      ") after draining " ++ toString a.staleFramesDrained ++
      " frames for other commands or channels — the link did not resynchronise"))
  else none

/-- One line (transport.rs:245-267). -/
def onLine (a : Await) (line : List Char) : Round :=
  match decodeLine line with
  | .error e => .done (.error e)
  | .ok (.response r) =>
    if a.command.matchesReply r then .done (.ok r)
    else .again { a with staleFramesDrained := a.staleFramesDrained + 1 }
  | .ok (.debugOutput _) => .again { a with debugLinesSkipped := a.debugLinesSkipped + 1 }

/-- An exchange ends well on a line that decodes to a reply to its command. -/
theorem onLine_eq_ok {a : Await} {line : List Char} {r : Response} :
    a.onLine line = .done (.ok r) ↔ decodeLine line = .ok (.response r) ∧ a.command.matchesReply r = true := by
  unfold onLine
  split
  · next h => simp [h]
  · next r' h =>
    split
    · next hm =>
      simp only [h, Round.done.injEq, Except.ok.injEq, DecodedLine.response.injEq]
      constructor
      · rintro rfl
        exact ⟨rfl, hm⟩
      · exact And.left
    · next hm =>
      simp only [h, reduceCtorEq, Except.ok.injEq, DecodedLine.response.injEq, false_iff, not_and]
      rintro rfl
      exact hm
  · next h => simp [h]

theorem command_onLine {a a' : Await} {line : List Char} (h : a.onLine line = .again a') : a'.command = a.command := by
  unfold onLine at h
  split at h
  · cases h
  · split at h <;> cases h
    rfl
  · cases h
    rfl

end Await

/-! ## Which replies a write accepts -/

/-- A write to `ch`. -/
def Command.writes (ch : Ch) : Command → Prop
  | .setPwm ch' _ => ch' = ch
  | _ => False

instance (ch : Ch) (c : Command) : Decidable (c.writes ch) := by
  cases c <;> unfold Command.writes <;> infer_instance

/-- A write takes the reply to any write of its channel, whatever duty that one carried, and no other. -/
theorem matchesReply_replyLine {ch : Ch} {pwm : U8} {c : Command} {payload : List Char} {r : Response}
    (hr : decodeLine (replyLine c payload) = .ok (.response r)) :
    (Command.setPwm ch pwm).matchesReply r = true ↔ c.writes ch := by
  cases c with
  | readAllRpm =>
    have hcode : r.commandCode = (0 : U8) := commandCode_of_decodeLine (n := 0) hr
    simp [Command.matchesReply, Command.writes, hcode, Command.opcode]
  | readRpm ch' =>
    have hcode : r.commandCode = (1 : U8) := commandCode_of_decodeLine (n := 1) hr
    simp [Command.matchesReply, Command.writes, hcode, Command.opcode]
  | setPwm ch' pwm' =>
    rw [decodeLine_setPwm] at hr
    cases hr
    simp [Command.matchesReply, Command.writes, Command.opcode, Response.mentionsChannel, Fin.ext_iff]

/-- Debug output is no reply. -/
theorem decodeLine_debug {line : List Char} (h : line.head? ≠ some '<') :
    decodeLine line = .ok (.debugOutput (trimEol line)) := by
  have hsub : trimEol line <+: line := List.rdropWhile_prefix _ _
  unfold decodeLine
  split
  · next afterPrefix ht =>
    obtain ⟨rest, hrest⟩ := ht ▸ hsub
    rw [← hrest] at h
    exact absurd rfl h
  · rfl

end ControlOfc.Serial
