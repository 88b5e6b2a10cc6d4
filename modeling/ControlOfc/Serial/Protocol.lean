import ControlOfc.OpenFan.Controller
import ControlOfc.Lib.Text
/-! # The OpenFan wire protocol (serial/protocol.rs)

Commands are `>CCPPQQ\n` in hexadecimal byte pairs; a reply is `<CC|NN:HHHH;NN:HHHH;...;>` with or without
its closing `>`; a line that does not start with `<` is debug output. `decodeLine` keeps every error path
with its text. `replyLine` is what the firmware answers.
-/
namespace ControlOfc.Serial
open OpenFan (Ch numChannels SerialError)

/-- `u8`. -/
abbrev U8 := Fin 256

/-- `Command` (protocol.rs:42). -/
inductive Command where
  | readAllRpm
  | readRpm (ch : Ch)
  | setPwm (ch : Ch) (pwm : U8)
  deriving DecidableEq, Repr

namespace Command

/-- `opcode` (protocol.rs:60). -/
def opcode : Command → Nat
  | .readAllRpm => 0x00
  | .readRpm _ => 0x01
  | .setPwm _ _ => 0x02

/-- `encode` (protocol.rs:89). -/
def encode (c : Command) : List Char :=
  match c with
  | .readAllRpm => '>' :: Text.hexByte c.opcode ++ ['\n']
  | .readRpm ch => '>' :: Text.hexByte c.opcode ++ Text.hexByte ch ++ ['\n']
  | .setPwm ch pwm => '>' :: Text.hexByte c.opcode ++ Text.hexByte ch ++ Text.hexByte pwm ++ ['\n']

/-- `{:?}`. -/
def debug : Command → String
  | .readAllRpm => "ReadAllRpm"
  | .readRpm ch => "ReadRpm(Channel(" ++ toString ch.val ++ "))"
  | .setPwm ch pwm => "SetPwm(Channel(" ++ toString ch.val ++ "), " ++ toString pwm.val ++ ")"

end Command

/-- `ChannelRpm` (protocol.rs:122). -/
structure ChannelRpm where
  channel : Nat
  rpm : Nat
  deriving DecidableEq, Repr

/-- `Response` (protocol.rs:129). -/
structure Response where
  commandCode : Nat
  readings : List ChannelRpm
  deriving DecidableEq, Repr

/-- `mentions_channel` (protocol.rs:157). -/
def Response.mentionsChannel (r : Response) (channel : Nat) : Bool := r.readings.any (·.channel == channel)

/-- `matches_reply` (protocol.rs:78): the opcode, and for a command to one channel the channel. -/
def Command.matchesReply (c : Command) (r : Response) : Bool :=
  if r.commandCode ≠ c.opcode then false
  else
    match c with
    | .readAllRpm => true
    | .readRpm ch | .setPwm ch _ => r.mentionsChannel ch

/-- `DecodedLine` (protocol.rs:196). -/
inductive DecodedLine where
  | response (r : Response)
  | debugOutput (line : List Char)
  deriving DecidableEq, Repr

/-! ## Decoding -/

def str (s : List Char) : String := .ofList s

/-- One `NN:HHHH` of `parse_rpm_pairs`. -/
def parsePair (segment originalLine : List Char) : Except SerialError ChannelRpm :=
  match Text.splitOnce [':'] segment with
  | none =>
    .error (.protocol ("invalid channel:rpm pair '" ++ str segment ++ "' in response: " ++ str originalLine))
  | some (chStr, rpmStr) =>
    match Text.parseU8 chStr with
    | none => .error (.protocol ("invalid channel number '" ++ str chStr ++ "' in response: " ++ str originalLine))
    | some channel =>
      match Text.parseHex 65535 rpmStr with
      | none => .error (.protocol ("invalid hex RPM '" ++ str rpmStr ++ "' in response: " ++ str originalLine))
      | some rpm => .ok ⟨channel, rpm⟩

/-- `parse_rpm_pairs` (protocol.rs:243). -/
def parseRpmPairs (data originalLine : List Char) : Except SerialError (List ChannelRpm) := do
  let readings ← ((data.splitOn ';').filter (!·.isEmpty)).mapM (parsePair · originalLine)
  if readings.isEmpty then .error (.protocol ("response contains no readings: " ++ str originalLine))
  else .ok readings

/-- `trim_end_matches(['\r', '\n'])`. -/
def trimEol (line : List Char) : List Char := (line.reverse.dropWhile fun c => c = '\r' ∨ c = '\n').reverse

/-- `strip_suffix('>').unwrap_or(s)`. -/
def stripClosing (s : List Char) : List Char := if s.getLast? = some '>' then s.dropLast else s

/-- `decode_line` past the opening `<`. -/
def decodeResponse (afterPrefix line : List Char) : Except SerialError DecodedLine :=
  match Text.splitOnce ['|'] (stripClosing afterPrefix) with
  | none => .error (.protocol ("response missing '|' separator: " ++ str line))
  | some (codeStr, dataStr) =>
    match Text.parseHex 255 codeStr with
    | none => .error (.protocol ("invalid command code '" ++ str codeStr ++ "' in response: " ++ str line))
    | some commandCode => do
      let readings ← parseRpmPairs dataStr line
      .ok (.response ⟨commandCode, readings⟩)

/-- `decode_line` (protocol.rs:207). -/
def decodeLine (line : List Char) : Except SerialError DecodedLine :=
  match trimEol line with
  | '<' :: afterPrefix => decodeResponse afterPrefix (trimEol line)
  | other => .ok (.debugOutput other)

/-! ## What the firmware answers

The `payload` is what the reply to a read carries after its `|`: anything at all. -/

/-- The reply to one command frame. -/
def replyLine (c : Command) (payload : List Char) : List Char :=
  match c with
  | .readAllRpm | .readRpm _ => '<' :: Text.hexByte c.opcode ++ '|' :: payload ++ ['\r', '\n']
  | .setPwm ch pwm =>
    '<' :: Text.hexByte c.opcode ++ '|' :: Text.hexByte ch ++ ':' :: Text.hexByte pwm ++ ['\r', '\n']

/-! ### It is read back as the answer to its command -/

/-- The two digits of a byte are no separator of the protocol, and are read back as the byte. -/
theorem hexByte_spec : ∀ n : U8, (Text.hexByte n).all (fun c => !(['\r', '\n', '>', '|', ';', ':'].contains c)) = true ∧
    Text.parseHex 255 (Text.hexByte n) = some n.val ∧ Text.parseHex 65535 (Text.hexByte n) = some n.val := by
  decide +kernel

theorem hexByte_ne (n : U8) : ∀ c ∈ Text.hexByte n, c ∉ ['\r', '\n', '>', '|', ';', ':'] := by
  intro c hc
  simpa using List.all_eq_true.mp (hexByte_spec n).1 c hc

theorem parseHex_hexByte (n : U8) : Text.parseHex 255 (Text.hexByte n) = some n.val := (hexByte_spec n).2.1

theorem parseHex_hexByte_u16 (n : U8) : Text.parseHex 65535 (Text.hexByte n) = some n.val := (hexByte_spec n).2.2

/-- The channel goes out in hexadecimal and is read in decimal: one digit either way. -/
theorem parseU8_hexByte : ∀ ch : Ch, Text.parseU8 (Text.hexByte ch) = some ch.val := by decide

theorem hexByte_eq (n : U8) : ∃ a b, Text.hexByte n = [a, b] ∧ a ∉ ['\r', '\n', '>', '|', ';', ':'] ∧
    b ∉ ['\r', '\n', '>', '|', ';', ':'] :=
  ⟨_, _, rfl, hexByte_ne n _ List.mem_cons_self, hexByte_ne n _ (List.mem_cons_of_mem _ List.mem_cons_self)⟩

theorem trimEol_append {a : List Char} {c : Char} (hc : ¬(c = '\r' ∨ c = '\n')) (b : List Char) :
    trimEol (a ++ c :: b) = a ++ c :: trimEol b := by
  unfold trimEol
  rw [List.reverse_append, List.reverse_cons, List.append_assoc, List.dropWhile_append, List.singleton_append]
  split
  · next h =>
    rw [List.isEmpty_iff.mp h, List.dropWhile_cons_of_neg (by simpa using hc)]
    simp
  · simp

theorem stripClosing_append {a : List Char} {c : Char} (hc : c ≠ '>') (b : List Char) :
    stripClosing (a ++ c :: b) = a ++ c :: stripClosing b := by
  cases b with
  | nil => simp [stripClosing, hc]
  | cons d b =>
    have h : (a ++ c :: d :: b).getLast? = (d :: b).getLast? := by
      rw [List.getLast?_append, List.getLast?_cons_cons, List.getLast?_cons]
      rfl
    simp only [stripClosing, h]
    split
    · simp
    · rfl

/-- The line is taken apart at its `|`. -/
theorem decodeLine_reply (n : U8) (rest : List Char) :
    decodeLine ('<' :: Text.hexByte n ++ '|' :: rest) =
      (parseRpmPairs (stripClosing (trimEol rest)) ('<' :: Text.hexByte n ++ '|' :: trimEol rest)).bind
        fun readings => .ok (.response ⟨n, readings⟩) := by
  obtain ⟨a, b, hab, ha, hb⟩ := hexByte_eq n
  have htrim := trimEol_append (a := '<' :: Text.hexByte n) (c := '|') (by decide) rest
  have hstrip := stripClosing_append (a := Text.hexByte n) (c := '|') (by decide) (trimEol rest)
  have hsplit : Text.splitOnce ['|'] (Text.hexByte n ++ '|' :: stripClosing (trimEol rest)) =
      some (Text.hexByte n, stripClosing (trimEol rest)) := by
    simp only [List.mem_cons, not_or] at ha hb
    simp [hab, Text.splitOnce, List.isPrefixOf, Ne.symm ha.2.2.2.1, Ne.symm hb.2.2.2.1]
  unfold decodeLine
  rw [htrim]
  show decodeResponse (Text.hexByte n ++ '|' :: trimEol rest) _ = _
  unfold decodeResponse
  rw [hstrip, hsplit]
  dsimp only
  rw [parseHex_hexByte]
  rfl

/-- A decoded reply carries the opcode it was sent with. -/
theorem commandCode_of_decodeLine {n : U8} {rest : List Char} {r : Response}
    (h : decodeLine ('<' :: Text.hexByte n ++ '|' :: rest) = .ok (.response r)) : r.commandCode = n := by
  rw [decodeLine_reply] at h
  generalize parseRpmPairs (stripClosing (trimEol rest)) _ = pairs at h
  cases pairs with
  | error e => cases h
  | ok readings =>
    cases h
    rfl

/-- The reply to a write is read as its channel and its raw duty. -/
theorem decodeLine_setPwm (ch : Ch) (pwm : U8) (payload : List Char) :
    decodeLine (replyLine (.setPwm ch pwm) payload) = .ok (.response ⟨2, [⟨ch, pwm⟩]⟩) := by
  obtain ⟨a, b, hab, ha, hb⟩ := hexByte_eq pwm
  have hchan : ∃ c d, Text.hexByte ch = [c, d] ∧ c ∉ ['\r', '\n', '>', '|', ';', ':'] ∧
      d ∉ ['\r', '\n', '>', '|', ';', ':'] := hexByte_eq ⟨ch, ch.isLt.trans (by decide)⟩
  obtain ⟨c, d, hcd, hc, hd⟩ := hchan
  simp only [List.mem_cons, not_or] at ha hb hc hd
  have hreply : replyLine (.setPwm ch pwm) payload =
      '<' :: Text.hexByte (2 : U8) ++ '|' :: [c, d, ':', a, b, '\r', '\n'] := by
    simp [replyLine, hab, hcd, Command.opcode]
  have htrim : trimEol [c, d, ':', a, b, '\r', '\n'] = [c, d, ':', a, b] := by
    simp [trimEol, hb]
  have hstrip : stripClosing [c, d, ':', a, b] = [c, d, ':', a, b] := by
    simp [stripClosing, hb]
  have hpairs : ∀ line, parseRpmPairs [c, d, ':', a, b] line = .ok [⟨ch, pwm⟩] := by
    intro line
    have hsplit : [c, d, ':', a, b].splitOn ';' = [[c, d, ':', a, b]] := by
      simp [List.splitOn, List.splitOnP, List.splitOnPPrepend, ha, hb, hc, hd]
    have hpair : parsePair [c, d, ':', a, b] line = .ok ⟨ch, pwm⟩ := by
      have honce : Text.splitOnce [':'] [c, d, ':', a, b] = some ([c, d], [a, b]) := by
        simp [Text.splitOnce, List.isPrefixOf, Ne.symm hc.2.2.2.2.2.1, Ne.symm hd.2.2.2.2.2.1]
      unfold parsePair
      rw [honce]
      dsimp only
      rw [← hcd, ← hab, parseU8_hexByte, parseHex_hexByte_u16]
    unfold parseRpmPairs
    rw [hsplit]
    simp [hpair]
    rfl
  rw [hreply, decodeLine_reply, htrim, hstrip, hpairs]
  rfl

example : decodeLine "<00|00:0400;01:0500;>\r\n".toList = .ok (.response ⟨0, [⟨0, 1024⟩, ⟨1, 1280⟩]⟩) := by decide

end ControlOfc.Serial
