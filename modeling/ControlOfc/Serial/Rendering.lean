import ControlOfc.Serial.Protocol
import Mathlib.Data.List.TakeWhile
/-! # The firmware's frames read back (serial/protocol.rs:9, :207-275)

A reply is its command code and its pairs, `NN:HHHH` for a tachometer reading and `NN:PP` for the echo of a
write. The firmware leaves out the closing `>` that the fixtures have, and some replies close with a `;`.

Main theorem `decodeLine_frame`: whatever a frame ends with, it decodes to its code and its pairs.
-/
namespace ControlOfc.Serial
open OpenFan (Ch SerialError)

/-- `u16`. -/
abbrev U16 := Fin 65536

/-- What may follow the last pair: a `;`, a `>`, an end of line. -/
structure Tail where
  semicolon : Bool
  closing : Bool
  eol : List Char
  eol_only : ∀ c ∈ eol, c = '\r' ∨ c = '\n'

def Tail.text (t : Tail) : List Char :=
  (if t.semicolon then [';'] else []) ++ (if t.closing then ['>'] else []) ++ t.eol

/-- `NN:` and the digits after it. -/
structure Pair where
  channel : Ch
  digits : List Char
  value : Nat
  plain : ∀ c ∈ digits, c ∉ ['\r', '\n', '>', '|', ';', ':']
  reads : Text.parseHex 65535 digits = some value

namespace Pair

def text (p : Pair) : List Char := Text.hexByte p.channel ++ ':' :: p.digits

def reading (p : Pair) : ChannelRpm := ⟨p.channel, p.value⟩

end Pair

/-- `<CC|` and the pairs, a `;` between two. -/
def frame (code : U8) (pairs : List Pair) (t : Tail) : List Char :=
  '<' :: Text.hexByte code ++ '|' :: ([';'].intercalate (pairs.map Pair.text) ++ t.text)

/-! ## One pair -/

theorem hexByte_channel (ch : Ch) : ∃ a b, Text.hexByte ch = [a, b] ∧ a ∉ ['\r', '\n', '>', '|', ';', ':'] ∧
    b ∉ ['\r', '\n', '>', '|', ';', ':'] :=
  hexByte_eq ⟨ch, ch.isLt.trans (by decide)⟩

theorem plain_text {p : Pair} {c : Char} (h : c ∈ p.text) : c ∉ ['\r', '\n', '>', '|', ';'] := by
  obtain ⟨a, b, hab, ha, hb⟩ := hexByte_channel p.channel
  have hplain := p.plain c
  simp only [Pair.text, hab, List.mem_append, List.mem_cons, List.not_mem_nil, or_false] at h
  rcases h with (rfl | rfl) | rfl | h
  · simp_all
  · simp_all
  · decide
  · simp_all

theorem text_ne_nil (p : Pair) : p.text ≠ [] := by simp [Pair.text]

theorem parsePair_text (p : Pair) (line : List Char) : parsePair p.text line = .ok p.reading := by
  obtain ⟨a, b, hab, ha, hb⟩ := hexByte_channel p.channel
  simp only [List.mem_cons, not_or] at ha hb
  have hsplit : Text.splitOnce [':'] p.text = some (Text.hexByte p.channel, p.digits) := by
    simp [Pair.text, hab, Text.splitOnce, List.isPrefixOf, Ne.symm ha.2.2.2.2.2.1, Ne.symm hb.2.2.2.2.2.1]
  unfold parsePair
  rw [hsplit]
  dsimp only
  rw [parseU8_hexByte, p.reads]
  rfl

/-! ## The payload -/

theorem trimEol_eol {s eol : List Char} (hs : ∀ c ∈ s, c ≠ '\r' ∧ c ≠ '\n') (heol : ∀ c ∈ eol, c = '\r' ∨ c = '\n') :
    trimEol (s ++ eol) = s := by
  unfold trimEol
  rw [List.reverse_append, List.dropWhile_append_of_pos (by simpa using heol)]
  have hkeep : s.reverse.dropWhile (fun c => decide (c = '\r' ∨ c = '\n')) = s.reverse := by
    rw [List.dropWhile_eq_self_iff]
    intro hlen
    have hmem := hs _ (List.mem_reverse.mp (List.getElem_mem hlen))
    simpa only [decide_eq_true_eq, not_or] using hmem
  rw [hkeep, List.reverse_reverse]

theorem stripClosing_closing {s : List Char} (hs : '>' ∉ s) (closing : Bool) :
    stripClosing (s ++ if closing then ['>'] else []) = s := by
  cases closing with
  | true => simp [stripClosing]
  | false =>
    have hlast : s.getLast? ≠ some '>' := fun h => hs (List.mem_of_getLast? h)
    simp [stripClosing, hlast]

/-- The pairs with a `;` after the last are the pairs and one empty segment. -/
theorem intercalate_semicolon {pairs : List (List Char)} (h : pairs ≠ []) (semicolon : Bool) :
    [';'].intercalate pairs ++ (if semicolon then [';'] else []) =
      [';'].intercalate (pairs ++ if semicolon then [[]] else []) := by
  cases semicolon with
  | false => simp
  | true =>
    induction pairs with
    | nil => exact absurd rfl h
    | cons p rest ih =>
      cases rest with
      | nil => simp [List.intercalate]
      | cons q rest =>
        have ih := ih (List.cons_ne_nil q rest)
        simp only [List.intercalate_cons_cons, List.cons_append, List.append_assoc, if_true] at ih ⊢
        rw [ih]

theorem parseRpmPairs_pairs {pairs : List Pair} (h : pairs ≠ []) (semicolon : Bool) (line : List Char) :
    parseRpmPairs ([';'].intercalate (pairs.map Pair.text) ++ if semicolon then [';'] else []) line =
      .ok (pairs.map Pair.reading) := by
  have hsegments : (([';'].intercalate (pairs.map Pair.text) ++ if semicolon then [';'] else []).splitOn ';').filter
      (!·.isEmpty) = pairs.map Pair.text := by
    rw [intercalate_semicolon (by simpa using h), List.splitOn_intercalate]
    · have hfull : (pairs.map Pair.text).filter (!·.isEmpty) = pairs.map Pair.text := by
        simp [List.filter_eq_self, text_ne_nil]
      rw [List.filter_append, hfull]
      cases semicolon <;> simp
    · intro s hs
      rw [List.mem_append, List.mem_map] at hs
      rcases hs with ⟨p, -, rfl⟩ | hs
      · exact fun hc => plain_text hc (by simp)
      · cases semicolon <;> simp_all
    · simp [h]
  have hread : (pairs.map Pair.text).mapM (parsePair · line) = .ok (pairs.map Pair.reading) := by
    clear h hsegments
    induction pairs with
    | nil => rfl
    | cons p rest ih =>
      rw [List.map_cons, List.mapM_cons, parsePair_text, ih]
      rfl
  unfold parseRpmPairs
  rw [hsegments, hread]
  simp [bind, Except.bind, h]

theorem mem_intercalate {α : Type} {sep : List α} {ls : List (List α)} {c : α} (h : c ∈ sep.intercalate ls) :
    c ∈ sep ∨ ∃ l ∈ ls, c ∈ l := by
  induction ls with
  | nil => cases h
  | cons l rest ih =>
    cases rest with
    | nil => exact .inr ⟨l, List.mem_cons_self, by simpa [List.intercalate] using h⟩
    | cons l' rest =>
      rw [List.intercalate_cons_cons, List.append_assoc, List.mem_append, List.mem_append] at h
      rcases h with h | h | h
      · exact .inr ⟨l, List.mem_cons_self, h⟩
      · exact .inl h
      · exact (ih h).imp id fun ⟨x, hx, hc⟩ => ⟨x, List.mem_cons_of_mem _ hx, hc⟩

theorem mem_body {pairs : List Pair} {semicolon : Bool} {c : Char}
    (h : c ∈ [';'].intercalate (pairs.map Pair.text) ++ if semicolon then [';'] else []) :
    c ∉ ['\r', '\n', '>', '|'] := by
  rw [List.mem_append] at h
  rcases h with h | h
  · rcases mem_intercalate h with h | ⟨l, hl, hc⟩
    · simp_all
    · obtain ⟨p, -, rfl⟩ := List.mem_map.mp hl
      have := plain_text hc
      simp_all
  · cases semicolon <;> simp_all

/-- **What the firmware sends back is read as it was meant.** -/
theorem decodeLine_frame (code : U8) {pairs : List Pair} (h : pairs ≠ []) (t : Tail) :
    decodeLine (frame code pairs t) = .ok (.response ⟨code, pairs.map Pair.reading⟩) := by
  set body := [';'].intercalate (pairs.map Pair.text) ++ (if t.semicolon then [';'] else []) with hbody
  have htrim : trimEol ([';'].intercalate (pairs.map Pair.text) ++ t.text) =
      body ++ if t.closing then ['>'] else [] := by
    have hshape : [';'].intercalate (pairs.map Pair.text) ++ t.text =
        (body ++ if t.closing then ['>'] else []) ++ t.eol := by
      simp [hbody, Tail.text]
    rw [hshape, trimEol_eol _ t.eol_only]
    intro c hc
    rw [List.mem_append] at hc
    rcases hc with hc | hc
    · have := mem_body hc
      simp_all
    · cases hclosing : t.closing <;> simp_all
  have hstrip : stripClosing (body ++ if t.closing then ['>'] else []) = body :=
    stripClosing_closing (fun hc => mem_body hc (by simp)) t.closing
  rw [frame, decodeLine_reply, htrim, hstrip, parseRpmPairs_pairs h]
  rfl

/-! ## The two kinds of reply -/

/-- `{:04X}`. -/
def hexWord (n : U16) : List Char := Text.hexByte (n.val / 256) ++ Text.hexByte (n.val % 256)

theorem toHexDigit_hexUpper : ∀ d < 16, Text.toHexDigit (Text.hexByte.hexUpper d) = some d := by decide

theorem hexUpper_ne_plus : ∀ d < 16, Text.hexByte.hexUpper d ≠ '+' := by decide

/-- Digits are no sign, so all of them are read. -/
theorem parseHex_digits {max : Nat} {c : Char} {cs : List Char} (hc : c ≠ '+') :
    Text.parseHex max (c :: cs) =
      ((c :: cs).foldlM (fun n c => (Text.toHexDigit c).map (16 * n + ·)) 0).bind fun n =>
        if n ≤ max then some n else none := by
  unfold Text.parseHex
  split
  · next h => exact absurd (List.cons.inj h).1 hc
  · simp

theorem parseHex_hexWord (n : U16) : Text.parseHex 65535 (hexWord n) = some n.val := by
  have hn := n.isLt
  have h1 : n.val / 256 / 16 < 16 := by omega
  have h2 : n.val / 256 % 16 < 16 := Nat.mod_lt _ (by decide)
  have h3 : n.val % 256 / 16 < 16 := by omega
  have h4 : n.val % 256 % 16 < 16 := Nat.mod_lt _ (by decide)
  have hval : 16 * (16 * (16 * (n.val / 256 / 16) + n.val / 256 % 16) + n.val % 256 / 16) + n.val % 256 % 16 = n.val := by
    omega
  have hmax : n.val ≤ 65535 := by omega
  unfold hexWord Text.hexByte
  rw [List.cons_append, parseHex_digits (hexUpper_ne_plus _ h1)]
  simp only [List.cons_append, List.nil_append, List.foldlM_cons, List.foldlM_nil, toHexDigit_hexUpper _ h1,
    toHexDigit_hexUpper _ h2, toHexDigit_hexUpper _ h3, toHexDigit_hexUpper _ h4, Option.map_some, Option.bind_eq_bind,
    Option.bind_some, Nat.mul_zero, Nat.zero_add, Option.pure_def, hval, if_pos hmax]

theorem hexWord_plain (n : U16) : ∀ c ∈ hexWord n, c ∉ ['\r', '\n', '>', '|', ';', ':'] := by
  intro c hc
  have hn := n.isLt
  rcases List.mem_append.mp hc with h | h
  · exact hexByte_ne ⟨n.val / 256, by omega⟩ c h
  · exact hexByte_ne ⟨n.val % 256, by omega⟩ c h

/-- A tachometer reading. -/
def rpmPair (r : Ch × U16) : Pair := ⟨r.1, hexWord r.2, r.2, hexWord_plain r.2, parseHex_hexWord r.2⟩

/-- The echo of a write: the channel and the raw duty. -/
def ackPair (ch : Ch) (pwm : U8) : Pair := ⟨ch, Text.hexByte pwm, pwm, hexByte_ne pwm, parseHex_hexByte_u16 pwm⟩

example : String.ofList (frame 0 ([(0, 1200), (9, 44)].map rpmPair) ⟨true, true, ['\r', '\n'], by simp⟩) =
    "<00|00:04B0;09:002C;>\r\n" := by decide

end ControlOfc.Serial
