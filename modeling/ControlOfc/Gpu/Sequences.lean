import ControlOfc.Gpu.Producers
/-! # What a static speed and a reset leave on a card

One spec for each of the two sequences, for every choice the environment makes at each write: what the answer
says of the curve file, and that the rest of the world stays as it was (`FrameOf`).

* `setStaticSpeed_spec`, `resetToAuto_spec`
-/
namespace ControlOfc.Gpu
open Prog

/-- The effects of a sequence on one card, with or without the points of a curve. -/
def Effect.OnCard (path : String) (points : Bool) : Effect → Prop
  | .readFanCurve _ | .readZeroRpm _ | .writeZero _ _ | .called _ _ => True
  | .writeCurve p (.point _) => p = path ∧ points = true
  | .writeCurve p _ => p = path
  | _ => False

/-- `F` says nothing of the card's curve file, of zero-RPM, and of what may change beside a task. -/
structure FrameOf (path : String) (F : World → Prop) : Prop where
  beside : ∀ w w', Beside w w' → F w → F w'
  curve : ∀ w f, F w → F { w with curve := Function.update w.curve path f }
  zero : ∀ w z, F w → F { w with zero := z }
  preserve : ∀ w p, F w → F { w with lastPreserve := Function.update w.lastPreserve path p }

/-- What a read of the card may have shown: its own range, or nothing. -/
def World.MayShow (w : World) (path : String) (curve : Option FanCurve) : Prop :=
  ∀ c, curve = some c → c.speedRange = (w.od path).speed

/-- The card's committed curve is flat at the duty, within a range a read of the card shows. -/
def World.FlatFor (w : World) (path : String) (pct : Nat) : Prop :=
  ∃ curve, w.MayShow path curve ∧ (w.curve path).committed.FlatAt (clampedSpeed curve pct)

variable {A : Effect → World → Prop} {F : World → Prop} {paths : CardPaths} {preserve : Bool}

/-- `P` survives what happens beside a task, and the zero-RPM file. -/
structure ZeroFrame (P : World → Prop) : Prop where
  beside : ∀ w w', Beside w w' → P w → P w'
  zero : ∀ w z, P w → P { w with zero := z }

theorem FrameOf.zeroFrame {path : String} (hF : FrameOf path F) : ZeroFrame F := ⟨hF.beside, hF.zero⟩

/-- `P` survives what happens beside a task, and the card's curve file. -/
structure CurveFrame (path : String) (P : World → Prop) : Prop where
  beside : ∀ w w', Beside w w' → P w → P w'
  curve : ∀ w f, P w → P { w with curve := Function.update w.curve path f }

theorem FrameOf.curveFrame {path : String} (hF : FrameOf path F) : CurveFrame path F := ⟨hF.beside, hF.curve⟩

theorem ZeroFrame.and_file {path : String} {P : World → Prop} {G : CurveFile → Prop} (hP : ZeroFrame P) :
    ZeroFrame fun w => P w ∧ G (w.curve path) where
  beside w w' hb h := ⟨hP.beside w w' hb h.1, hb.curve ▸ h.2⟩
  zero w z h := ⟨hP.zero w z h.1, h.2⟩

/-! ## Zero-RPM -/

section Zero
variable {P : World → Prop} (hP : ZeroFrame P) (hread : ∀ path w, A (.readZeroRpm path) w)
  (hwrite : ∀ path c w, A (.writeZero path c) w)
include hP

include hwrite in
theorem writeZero_keeps (path : String) (c : ZeroCommand) :
    Triple World.exec Beside A P (perform (.writeZero path c)) fun _ => P :=
  .ask (fun w _ => hwrite path c w) (fun _ w h => hP.zero w _ h) fun _ w w' hb h => hP.beside w w' hb h

include hwrite in
theorem enableIfPresent_keeps (paths : CardPaths) :
    Triple World.exec Beside A P (enableIfPresent paths) fun _ => P := by
  unfold enableIfPresent enableZeroRpm
  cases paths.zeroRpm with
  | none => exact .pure fun _ h => h
  | some path =>
    refine .bind (.bind (writeZero_keeps hP hwrite path _) fun ok => ?_) fun _ => .pure fun _ h => h
    cases ok with
    | true => exact writeZero_keeps hP hwrite path _
    | false => exact .pure fun _ h => h

include hread hwrite in
theorem disableUnlessPreserved_keeps (paths : CardPaths) (preserve : Bool) :
    Triple World.exec Beside A P (disableUnlessPreserved paths preserve) fun _ => P := by
  unfold disableUnlessPreserved disableZeroRpm
  split
  · rename_i path _
    refine .bind (.bind (.ask (fun w _ => hread path w) (Q := fun _ => P) (fun _ w h => h)
      fun _ w w' hb h => hP.beside w w' hb h) fun shown => ?_) fun _ => .pure fun _ h => h
    split
    · exact .pure fun _ h => h
    · refine .bind (writeZero_keeps hP hwrite path _) fun ok => ?_
      cases ok with
      | true => exact writeZero_keeps hP hwrite path _
      | false => exact .pure fun _ h => h
  · exact .pure fun _ h => h

end Zero

/-! ## The curve file -/

/-- A write to the card's curve file: what is known of the file before and after it. -/
theorem writeCurve_spec {path : String} (hF : CurveFrame path F) {c : CurveCommand} {G : CurveFile → Prop}
    {H : Bool → CurveFile → Prop} (hA : ∀ w, F w → A (.writeCurve path c) w)
    (hG : ∀ f ok landed, G f → H ok (f.write c ok landed)) :
    Triple World.exec Beside A (fun w => F w ∧ G (w.curve path)) (perform (.writeCurve path c)) fun ok w =>
      F w ∧ H ok (w.curve path) := by
  refine .ask (fun w h => hA w h.1) (fun choice w h => ⟨hF.curve w _ h.1, ?_⟩)
    fun ok w w' hb h => ⟨hF.beside w w' hb h.1, hb.curve ▸ h.2⟩
  simpa [World.exec] using hG (w.curve path) choice.ok choice.landed h.2

/-- After the curve half of a reset: whether the last write went through, and if so nothing of ours is left. -/
theorem resetCurve_spec {path : String} (hF : CurveFrame path F)
    (hA : ∀ e w, F w → e.OnCard path false → A e w) :
    Triple World.exec Beside A F (resetCurve path) fun ok w =>
      F w ∧ (w.curve path).lastOk = ok ∧ (ok = true → (w.curve path).Back) := by
  have hfirst : Triple World.exec Beside A F (perform (.writeCurve path .reset)) fun ok w =>
      F w ∧ (w.curve path).lastOk = ok ∧ (ok = true → (w.curve path).staged = []) := by
    refine (writeCurve_spec hF (c := .reset) (G := fun _ => True) (H := fun ok f => f.lastOk = ok ∧ (ok = true → f.staged = []))
      (fun w h => hA _ w h rfl) fun f ok landed _ => ⟨by simp, ?_⟩).conseq (fun w h => ⟨h, trivial⟩) fun _ _ h => h
    rintro rfl
    exact f.write_reset_staged landed
  refine .bind hfirst fun ok => ?_
  cases ok with
  | false => exact .pure fun w h => ⟨h.1, h.2.1, by simp⟩
  | true =>
    refine (writeCurve_spec hF (c := .commit) (G := fun f => f.staged = [])
      (H := fun ok f => f.lastOk = ok ∧ (ok = true → f.Back))
      (fun w h => hA _ w h rfl) fun f ok landed hs => ⟨by simp, ?_⟩).conseq (fun w h => ⟨h.1, h.2.2 rfl⟩) fun _ _ h => h
    rintro rfl
    exact CurveFile.write_commit_back hs landed

/-- A reset answers whether its last write to the curve file went through; then the card has nothing of ours. -/
theorem resetToAuto_spec (hF : FrameOf paths.fanCurve F)
    (hA : ∀ e w, F w → e.OnCard paths.fanCurve false → A e w)
    (hzero : ∀ path c w, A (.writeZero path c) w) :
    Triple World.exec Beside A F (resetToAuto paths) fun ok w =>
      F w ∧ (w.curve paths.fanCurve).lastOk = ok ∧ (ok = true → (w.curve paths.fanCurve).Back) := by
  refine .bind (resetCurve_spec hF.curveFrame hA) fun ok => ?_
  refine .bind (enableIfPresent_keeps (hF.zeroFrame.and_file (G := fun f => f.lastOk = ok ∧ (ok = true → f.Back)))
    hzero paths) fun _ => ?_
  exact .pure fun w h => h

/-- The points of a curve: either all of them are staged, or the last write failed. -/
theorem points_spec {path : String} (hF : CurveFrame path F)
    (hA : ∀ p w, F w → A (.writeCurve path (.point p)) w) (points : List FanCurvePoint) :
    Triple World.exec Beside A F (untilFailed (fun p => perform (.writeCurve path (.point p))) points) fun ok w =>
      if ok then F w ∧ ∃ rest, (w.curve path).staged = points.reverse ++ rest
      else F w ∧ (w.curve path).lastOk = false := by
  refine (Triple.untilFailed (F := fun w => F w ∧ (w.curve path).lastOk = false)
    (I := fun left w => F w ∧ ∃ sent rest, points = sent ++ left ∧ (w.curve path).staged = sent.reverse ++ rest)
    points fun p left => ?_).conseq (fun w h => ⟨h, [], (w.curve path).staged, rfl, rfl⟩) fun ok w h => ?_
  rotate_left
  · cases ok with
    | false => simpa using h
    | true =>
      obtain ⟨hf, sent, rest, hp, hs⟩ := h
      rw [List.append_nil] at hp
      exact ⟨hf, rest, hp ▸ hs⟩
  · refine (writeCurve_spec hF
      (G := fun f => ∃ sent rest, points = sent ++ p :: left ∧ f.staged = sent.reverse ++ rest)
      (H := fun ok f => if ok then ∃ sent rest, points = sent ++ left ∧ f.staged = sent.reverse ++ rest
        else f.lastOk = false) (hA p) ?_).conseq (fun w h => h) fun ok w h => ?_
    · rintro f ok landed ⟨sent, rest, hp, hs⟩
      cases ok with
      | false => simp
      | true => exact ⟨sent ++ [p], rest, by simp [hp], by simp [CurveFile.write_point_staged, hs]⟩
    · cases ok <;> exact h

/-- `write_fan_curve` answers whether its last write went through; then what is committed are the points. -/
theorem writeFanCurve_spec {path : String} (hF : CurveFrame path F) (hA : ∀ e w, F w → e.OnCard path true → A e w)
    (points : List FanCurvePoint) :
    Triple World.exec Beside A F (writeFanCurve path points) fun ok w =>
      F w ∧ (w.curve path).lastOk = ok ∧
        (ok = true → ∃ rest, (w.curve path).committed = points.reverse ++ rest) := by
  refine .bind (points_spec hF (fun p w h => hA _ w h ⟨rfl, rfl⟩) points) fun ok => ?_
  cases ok with
  | false => exact .pure fun w h => ⟨h.1, h.2, by simp⟩
  | true =>
    refine (writeCurve_spec hF (c := .commit) (G := fun f => ∃ rest, f.staged = points.reverse ++ rest)
      (H := fun ok f => f.lastOk = ok ∧ (ok = true → ∃ rest, f.committed = points.reverse ++ rest))
      (fun w h => hA _ w h rfl) fun f ok landed hs => ⟨by simp, ?_⟩).conseq (fun w h => h) fun _ _ h => h
    rintro rfl
    obtain ⟨rest, hs⟩ := hs
    exact ⟨rest, by rw [CurveFile.write_commit_committed, hs]⟩

/-- What is known of a card between the start of a static speed and its last write. -/
theorem called_spec {path : String} (hF : FrameOf path F) (hA : ∀ w, F w → A (.called path preserve) w) :
    Triple World.exec Beside A F (perform (.called path preserve)) fun _ w =>
      F w ∧ w.lastPreserve path = some preserve :=
  .ask hA (fun _ w h => ⟨hF.preserve w _ h, by simp [World.exec]⟩)
    fun _ w w' hb h => ⟨hF.beside w w' hb h.1, hb.preserve ▸ h.2⟩

/-- A static speed answers whether its last write went through; then the card is flat at the speed. -/
theorem setStaticSpeed_spec (hF : FrameOf paths.fanCurve F)
    (hA : ∀ e w, F w → e.OnCard paths.fanCurve true → A e w) (hread : ∀ path w, A (.readZeroRpm path) w)
    (hzero : ∀ path c w, A (.writeZero path c) w) (speedPct : Nat) (preserve : Bool) :
    Triple World.exec Beside A F
      (setStaticSpeedWithZeroRpm paths speedPct gpuPmfwNumCurvePoints preserve) fun ok w =>
        F w ∧ w.lastPreserve paths.fanCurve = some preserve ∧ (w.curve paths.fanCurve).lastOk = ok ∧
          (ok = true → w.FlatFor paths.fanCurve speedPct) := by
  -- from here on the frame also holds what was asked for
  let F' := fun w : World => F w ∧ w.lastPreserve paths.fanCurve = some preserve
  have hz : ZeroFrame F' := ⟨fun w w' hb h => ⟨hF.beside w w' hb h.1, hb.preserve ▸ h.2⟩,
    fun w z h => ⟨hF.zero w z h.1, h.2⟩⟩
  refine .bind (called_spec hF fun w h => hA _ w h trivial) fun _ => ?_
  refine .bind (disableUnlessPreserved_keeps hz hread hzero paths preserve) fun _ => ?_
  refine .bind (.ask (fun w h => hA _ w h.1 trivial) (Q := fun curve w => F' w ∧ w.MayShow paths.fanCurve curve)
    (fun c w h => ⟨h, ?_⟩) fun curve w w' hb h => ⟨hz.beside w w' hb h.1, fun c hc => hb.od ▸ h.2 c hc⟩) fun curve => ?_
  · intro shown hs
    simp only [World.exec, World.shown] at hs
    split at hs
    · exact Option.some.inj hs ▸ rfl
    · cases hs
  · have hc : CurveFrame paths.fanCurve fun w => F' w ∧ w.MayShow paths.fanCurve curve :=
      ⟨fun w w' hb h => ⟨hz.beside w w' hb h.1, fun c hc => hb.od ▸ h.2 c hc⟩, fun w f h => ⟨⟨hF.curve w f h.1.1, h.1.2⟩, h.2⟩⟩
    refine (writeFanCurve_spec hc (fun e w h he => hA e w h.1.1 he) _).conseq (fun w h => h) ?_
    rintro ok w ⟨⟨⟨hf, hp⟩, hshow⟩, hlast, hpoints⟩
    refine ⟨hf, hp, hlast, fun ho => ⟨curve, hshow, ?_⟩⟩
    obtain ⟨rest, hcommitted⟩ := hpoints ho
    rw [hcommitted]
    exact Table.flatAt_of_points curve speedPct rest

end ControlOfc.Gpu
