import ControlOfc.Engine.Loop
/-! # The deadband over a run (profile_engine/curve_eval.rs:32-97)

A call either holds the previous output, which then is no lower than what the curve asks for and is
counted, or it answers the curve and clears the count. Everything follows from that inversion
(`evaluateCurveWithDeadband_cases`): the calls may be for any controls in any order, and the state they
start from may be any.
-/
namespace ControlOfc.Engine
open Profile

/-- One call of `evaluate_curve_with_deadband`. -/
structure DeadbandCall where
  controlId : String
  curve : CurveConfig ℚ
  temp : ℚ

namespace DeadbandCall

/-- What the curve asks for: `evaluate_curve(..).clamp(0.0, 100.0)`. -/
def wanted (call : DeadbandCall) : ℚ := clampPct (evaluateCurve call.curve call.temp)

def after (s : ProfileEngineState) (call : DeadbandCall) : ProfileEngineState :=
  (evaluateCurveWithDeadband call.controlId call.curve call.temp s).1

def answer (call : DeadbandCall) (s : ProfileEngineState) : ℚ :=
  (evaluateCurveWithDeadband call.controlId call.curve call.temp s).2

end DeadbandCall

/-- The state after a sequence of calls. -/
def feed (s : ProfileEngineState) (calls : List DeadbandCall) : ProfileEngineState := calls.foldl DeadbandCall.after s

@[simp] theorem feed_nil (s : ProfileEngineState) : feed s [] = s := rfl

@[simp] theorem feed_cons (s : ProfileEngineState) (call : DeadbandCall) (calls : List DeadbandCall) :
    feed s (call :: calls) = feed (call.after s) calls := rfl

/-- How many calls in a row a control's output has been held. -/
def holdCycles (s : ProfileEngineState) (id : String) : Nat := (s.deadbandHoldCycles.get? id).getD 0

/-- A call that holds: the reading lies in the band below the anchor, and the curve asks for no more. -/
structure Holds (call : DeadbandCall) (s : ProfileEngineState) : Prop where
  above : call.wanted ≤ call.answer s
  counted : holdCycles (call.after s) call.controlId = holdCycles s call.controlId + 1
  short : holdCycles s call.controlId + 1 < deadbandMaxHoldCycles
  inBand : ∀ anchor, s.lastTransitionTemp.get? call.controlId = some anchor →
    call.temp ≤ anchor ∧ anchor - call.curve.effectiveHysteresisC ≤ call.temp

variable {s : ProfileEngineState}

@[simp] theorem holdCycles_reanchor (id : String) (curveOutput t : ℚ) : holdCycles (reanchor s id curveOutput t) id = 0 := by
  simp [holdCycles, reanchor]

/-- The state in which a hold has been counted. -/
def countHold (s : ProfileEngineState) (id : String) : ProfileEngineState :=
  { s with deadbandHoldCycles := s.deadbandHoldCycles.insert id (holdCycles s id + 1) }

/-- A call for a control that has an output and an anchor. -/
theorem evaluate_anchored (call : DeadbandCall) {prevOut anchor : ℚ}
    (hout : s.lastCurveOutput.get? call.controlId = some prevOut)
    (hanchor : s.lastTransitionTemp.get? call.controlId = some anchor) :
    evaluateCurveWithDeadband call.controlId call.curve call.temp s =
      if 0 < call.curve.effectiveHysteresisC ∧ call.temp ≤ anchor ∧
          anchor - call.curve.effectiveHysteresisC ≤ call.temp ∧ call.wanted ≤ prevOut then
        if holdCycles s call.controlId + 1 < deadbandMaxHoldCycles then (countHold s call.controlId, prevOut)
        else (reanchor (countHold s call.controlId) call.controlId call.wanted call.temp, call.wanted)
      else (reanchor s call.controlId call.wanted call.temp, call.wanted) := by
  unfold evaluateCurveWithDeadband
  rw [hout, hanchor]
  rfl

/-- **A call holds, or it answers the curve** and starts counting anew. -/
theorem evaluateCurveWithDeadband_cases (call : DeadbandCall) (s : ProfileEngineState) :
    Holds call s ∨ call.answer s = call.wanted ∧ holdCycles (call.after s) call.controlId = 0 := by
  have hreanchor : ∀ s' : ProfileEngineState,
      evaluateCurveWithDeadband call.controlId call.curve call.temp s =
        (reanchor s' call.controlId call.wanted call.temp, call.wanted) →
      Holds call s ∨ call.answer s = call.wanted ∧ holdCycles (call.after s) call.controlId = 0 := by
    intro s' h
    right
    rw [DeadbandCall.answer, DeadbandCall.after, h]
    exact ⟨rfl, holdCycles_reanchor _ _ _⟩
  cases hout : s.lastCurveOutput.get? call.controlId with
  | none => exact hreanchor s (by simp only [evaluateCurveWithDeadband, hout, DeadbandCall.wanted])
  | some prevOut =>
    cases hanchor : s.lastTransitionTemp.get? call.controlId with
    | none => exact hreanchor s (by simp only [evaluateCurveWithDeadband, hout, hanchor, DeadbandCall.wanted])
    | some anchor =>
      have heq := evaluate_anchored call hout hanchor
      by_cases hband : 0 < call.curve.effectiveHysteresisC ∧ call.temp ≤ anchor ∧
          anchor - call.curve.effectiveHysteresisC ≤ call.temp ∧ call.wanted ≤ prevOut
      · rw [if_pos hband] at heq
        by_cases hshort : holdCycles s call.controlId + 1 < deadbandMaxHoldCycles
        · rw [if_pos hshort] at heq
          left
          refine ⟨?_, ?_, hshort, ?_⟩
          · rw [DeadbandCall.answer, heq]
            exact hband.2.2.2
          · rw [DeadbandCall.after, heq]
            simp [holdCycles, countHold]
          · intro anchor' hanchor'
            obtain rfl := Option.some.inj (hanchor.symm.trans hanchor')
            exact ⟨hband.2.1, hband.2.2.1⟩
        · -- the valve: thirty calls in a row would have been held
          rw [if_neg hshort] at heq
          exact hreanchor _ heq
      · rw [if_neg hband] at heq
        exact hreanchor s heq

/-- The counters stay below the cap, as far as they began there. -/
theorem holdCycles_lt {id : String} (h : holdCycles s id < deadbandMaxHoldCycles) (calls : List DeadbandCall) :
    holdCycles (feed s calls) id < deadbandMaxHoldCycles := by
  induction calls generalizing s with
  | nil => exact h
  | cons call calls ih =>
    refine ih ?_
    by_cases hid : id = call.controlId
    · subst hid
      rcases evaluateCurveWithDeadband_cases call s with hholds | ⟨-, hzero⟩
      · rw [hholds.counted]
        exact hholds.short
      · rw [hzero]
        decide
    · rw [holdCycles, DeadbandCall.after, (evaluateCurveWithDeadband_frame _ _ _ _).deadbandHoldCycles id hid]
      exact h

/-- Holding calls of one control count up together, and the count stays below the cap. -/
theorem count_lt_of_never {id : String} {calls : List DeadbandCall}
    (hnever : ∀ pre call post, calls = pre ++ call :: post → call.controlId = id → call.answer (feed s pre) ≠ call.wanted) :
    (calls.filter fun call => call.controlId = id) = [] ∨
      holdCycles s id + (calls.filter fun call => call.controlId = id).length < deadbandMaxHoldCycles := by
  induction calls generalizing s with
  | nil => exact .inl rfl
  | cons call calls ih =>
    have hrest := ih (s := call.after s) fun pre call' post hsplit hid => by
      have hlater := hnever (call :: pre) call' post (by rw [hsplit]; rfl) hid
      rwa [feed_cons] at hlater
    by_cases hid : call.controlId = id
    · subst hid
      rw [List.filter_cons_of_pos (by simp)]
      right
      have hholds := (evaluateCurveWithDeadband_cases call s).resolve_right fun h =>
        hnever [] call calls rfl rfl h.1
      rw [hholds.counted] at hrest
      have hshort := hholds.short
      rcases hrest with hnil | hlt
      · rw [hnil]
        exact hshort
      · rw [List.length_cons]
        omega
    · rw [List.filter_cons_of_neg (by simpa using hid)]
      rwa [holdCycles, DeadbandCall.after,
        (evaluateCurveWithDeadband_frame _ _ _ _).deadbandHoldCycles id (Ne.symm hid)] at hrest

/-- **The deadband over any run**: no answer is below the curve, one outside the band is the curve's, one
control's calls touch no other's state, and of `DEADBAND_MAX_HOLD_CYCLES` calls in a row for one control
one answers the curve. -/
theorem deadband_sound (s : ProfileEngineState) (calls : List DeadbandCall) :
    (∀ pre call post, calls = pre ++ call :: post →
      call.wanted ≤ call.answer (feed s pre) ∧
        (∀ anchor, (feed s pre).lastTransitionTemp.get? call.controlId = some anchor →
          anchor < call.temp ∨ call.temp < anchor - call.curve.effectiveHysteresisC →
          call.answer (feed s pre) = call.wanted) ∧
        CurveFrame call.controlId (feed s pre) (call.after (feed s pre))) ∧
      ∀ id, deadbandMaxHoldCycles ≤ (calls.filter fun call => call.controlId = id).length →
        ∃ pre call post, calls = pre ++ call :: post ∧ call.controlId = id ∧ call.answer (feed s pre) = call.wanted := by
  constructor
  · intro pre call post _
    refine ⟨?_, ?_, evaluateCurveWithDeadband_frame _ _ _ _⟩
    · rcases evaluateCurveWithDeadband_cases call (feed s pre) with h | ⟨h, -⟩
      · exact h.above
      · exact h.ge
    · intro anchor hanchor houtside
      rcases evaluateCurveWithDeadband_cases call (feed s pre) with h | ⟨h, -⟩
      · obtain ⟨hle, hge⟩ := h.inBand anchor hanchor
        rcases houtside with hlt | hlt
        · exact absurd hle (not_le.mpr hlt)
        · exact absurd hge (not_le.mpr hlt)
      · exact h
  · intro id hlong
    by_contra hnone
    have hnever : ∀ pre call post, calls = pre ++ call :: post → call.controlId = id →
        call.answer (feed s pre) ≠ call.wanted := fun pre call post hsplit hid heq =>
      hnone ⟨pre, call, post, hsplit, hid, heq⟩
    rcases count_lt_of_never hnever with hnil | hlt
    · rw [hnil] at hlong
      exact absurd hlong (by decide)
    · omega

/-- A reading that has settled. -/
def settled : DeadbandCall := ⟨"case fans", CurveConfig.blank "case" .linear, 45⟩

theorem deadband_sound_settled :
    30 < settled.answer (feed .new [settled]) ∧
      ∃ pre call post, List.replicate 30 settled = pre ++ call :: post ∧ call.answer (feed .new pre) = call.wanted := by
  obtain ⟨hcalls, hvalve⟩ := deadband_sound .new (List.replicate 30 settled)
  constructor
  · have hwanted : settled.wanted = 44 := by decide +kernel
    have habove := (hcalls [settled] settled (List.replicate 28 settled) rfl).1
    rw [hwanted] at habove
    linarith
  · obtain ⟨pre, call, post, hsplit, -, hanswer⟩ := hvalve "case fans" (by simp [settled, deadbandMaxHoldCycles])
    exact ⟨pre, call, post, hsplit, hanswer⟩

end ControlOfc.Engine
