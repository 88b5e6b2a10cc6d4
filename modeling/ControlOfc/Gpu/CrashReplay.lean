import ControlOfc.Gpu.Covered
/-! # What a stop or a crash gives back (packaging/control-ofc-restore-auto.sh:165-207)

When the daemon is gone a script resets the cards its record names. `replay_spec` says what a record that was
written makes it do; with `covered_run` this is what any crash finds.
-/
namespace ControlOfc.Gpu
open Prog

/-! ## The script -/

/-- The `case` of a line's first field: a curve file under the sysfs root, with no `..` in its path. -/
def isFanCurve (root path : List Char) : Bool :=
  !Text.contains path "..".toList && (root ++ ['/']).isPrefixOf path && fanCurveSuffix.isSuffixOf path &&
    decide (root.length + 1 + fanCurveSuffix.length ≤ path.length)

/-- The card a line has reset, if its fields pass the script's checks. -/
def lineTarget (root line : List Char) : Option (String × String) :=
  let (fanCurve, zeroRpm) := Shell.read2 '\t' line
  if fanCurve = [] ∨ fanCurve.head? = some '#' then none
  else if isFanCurve root fanCurve then some (String.ofList fanCurve, String.ofList zeroRpm) else none

/-- The zero-RPM file that stands beside a curve file. -/
def zeroRpmBeside (fanCurve : String) : String :=
  String.ofList (fanCurve.toList.take (fanCurve.toList.length - "/fan_curve".toList.length) ++
    "/fan_zero_rpm_enable".toList)

/-- `[ -w fan_curve ] && { echo r && echo c; }`. -/
def replayCurve (fanCurve : String) : Program Unit := do
  if ← perform (.isWritable fanCurve) then let _ ← resetCurve fanCurve else return ()

/-- The same of the card's own zero-RPM file, whatever became of the curve. -/
def replayZeroRpm (fanCurve zeroRpm : String) : Program Unit :=
  if zeroRpm = zeroRpmBeside fanCurve then do
    if ← perform (.isWritable zeroRpm) then let _ ← enableZeroRpm zeroRpm else return ()
  else return ()

/-- The body of the loop over the record. -/
def replayLine (root line : List Char) : Program Unit :=
  match lineTarget root line with
  | none => return ()
  | some (fanCurve, zeroRpm) => do
    replayCurve fanCurve
    replayZeroRpm fanCurve zeroRpm

def replay (root record : List Char) : Program (List Unit) := each (replayLine root) (Shell.lines record)

/-! ## What a record makes it do -/

theorem AmdGpus.fanCurve_ne_nil {gpus : AmdGpus} {fanId : String} {p : CardPaths} (h : gpus.card? fanId = some p) :
    p.fanCurve.toList ≠ [] := by
  obtain ⟨bdf, -, h⟩ := Option.bind_eq_some_iff.mp h
  obtain ⟨g, hg, h⟩ := Option.bind_eq_some_iff.mp h
  obtain ⟨curve, hcurve, rfl⟩ := Option.map_eq_some_iff.mp h
  have hsuffix := gpus.curve_file g (List.mem_of_find?_eq_some hg) curve hcurve
  intro hn
  simp only [hn, List.suffix_nil] at hsuffix
  exact absurd hsuffix (by decide)

/-- The script acts on a line that names the file. -/
def Replayable (root : List Char) (p : CardPaths) : Prop :=
  p.fanCurve.toList.head? ≠ some '#' ∧ isFanCurve root p.fanCurve.toList = true

instance (root : List Char) (p : CardPaths) : Decidable (Replayable root p) := inferInstanceAs (Decidable (_ ∧ _))

/-- The line of a card is read back as the card. -/
theorem lineTarget_recordLine {root line : List Char} {p : CardPaths} (hl : pmfwRecordLine p = some line)
    (hne : p.fanCurve.toList ≠ []) :
    lineTarget root line = if Replayable root p then some (p.fanCurve, p.zeroRpm.getD "-") else none := by
  unfold pmfwRecordLine at hl
  dsimp only at hl
  split at hl
  · rename_i hc
    obtain rfl := Option.some.inj hl
    have hcount := hc.1
    simp only [List.count_append, List.count_cons_self] at hcount
    have hcurve : '\t' ∉ p.fanCurve.toList := List.count_eq_zero.mp (by omega)
    have hzero : '\t' ∉ (p.zeroRpm.getD "-").toList := List.count_eq_zero.mp (by omega)
    by_cases hhead : p.fanCurve.toList.head? = some '#'
    · simp [lineTarget, Shell.read2_join hcurve hzero hne, Replayable, hhead]
    · simp [lineTarget, Shell.read2_join hcurve hzero hne, Replayable, hhead, hne]
  · cases hl

/-- The header of a record names no card. -/
theorem lineTarget_header (root : List Char) : lineTarget root pmfwRecordHeader = none := by
  have h : (Shell.read2 '\t' pmfwRecordHeader).1.head? = some '#' := by decide
  simp [lineTarget, h]

/-- What the script has reset is back on the firmware's curve, unless a write of the reset failed. -/
def WentBack (path : String) (w : World) : Prop := (w.curve path).lastOk = true → (w.curve path).committed = []

/-- What a replay leaves alone of `w₀`: the files of no target. -/
structure OnlyTargets (targets : List (String × String)) (w₀ w : World) : Prop where
  writable : w.writable = w₀.writable
  curve : ∀ path, path ∉ targets.map Prod.fst → w.curve path = w₀.curve path
  zero : ∀ path, path ∉ targets.map Prod.snd → w.zero path = w₀.zero path

theorem OnlyTargets.beside {targets : List (String × String)} {w₀ w w' : World} (hb : Beside w w')
    (h : OnlyTargets targets w₀ w) : OnlyTargets targets w₀ w' :=
  ⟨hb.writable.trans h.writable, fun path hp => hb.curve ▸ h.curve path hp, fun path hp => hb.zero ▸ h.zero path hp⟩

section Replay
variable {root : List Char} {targets : List (String × String)} {w₀ : World} {t : String × String}

/-- One pass: its card goes back, those before it stay back, and no other file is touched. -/
theorem replayCurve_spec (ht : t ∈ targets) (done : List (String × String)) :
    Triple World.exec Beside (fun _ _ => True)
      (fun w => OnlyTargets targets w₀ w ∧ ∀ t' ∈ done, w₀.writable t'.1 = true → WentBack t'.1 w) (replayCurve t.1)
      fun _ w => OnlyTargets targets w₀ w ∧ ∀ t' ∈ t :: done, w₀.writable t'.1 = true → WentBack t'.1 w := by
  let F := fun w => OnlyTargets targets w₀ w ∧ ∀ t' ∈ done, t'.1 ≠ t.1 → w₀.writable t'.1 = true → WentBack t'.1 w
  have hframe : CurveFrame t.1 F := by
    refine ⟨fun w w' hb h => ⟨h.1.beside hb, fun t' ht' hne hw => ?_⟩, fun w f h => ⟨⟨h.1.writable, fun path hp => ?_, h.1.zero⟩,
      fun t' ht' hne hw => ?_⟩⟩
    · unfold WentBack
      rw [hb.curve]
      exact h.2 t' ht' hne hw
    · have hne : path ≠ t.1 := fun he => hp (he ▸ List.mem_map_of_mem ht)
      simpa [hne] using h.1.curve path hp
    · simpa [WentBack, hne] using h.2 t' ht' hne hw
  refine .bind (.ask (fun _ _ => trivial)
    (Q := fun writable w => (OnlyTargets targets w₀ w ∧ ∀ t' ∈ done, w₀.writable t'.1 = true → WentBack t'.1 w) ∧
      writable = w₀.writable t.1) (fun c w h => ⟨h, congrFun h.1.writable t.1⟩) ?_) fun writable => ?_
  · intro writable w w' hb h
    refine ⟨⟨h.1.1.beside hb, fun t' ht' hw => ?_⟩, h.2⟩
    unfold WentBack
    rw [hb.curve]
    exact h.1.2 t' ht' hw
  cases writable with
  | false =>
    refine .pure fun w h => ⟨h.1.1, fun t' ht' hw => ?_⟩
    rcases List.mem_cons.mp ht' with rfl | ht'
    · exact absurd hw (by simp [← h.2])
    · exact h.1.2 t' ht' hw
  | true =>
    refine .bind ((resetCurve_spec hframe fun _ _ _ _ => trivial).conseq
      (fun w h => ⟨h.1.1, fun t' ht' _ hw => h.1.2 t' ht' hw⟩) fun _ _ h => h) fun ok => .pure fun w h => ⟨h.1.1, fun t' ht' hw => ?_⟩
    by_cases hsame : t'.1 = t.1
    · intro hlast
      rw [hsame] at hlast ⊢
      exact (h.2.2 (h.2.1.symm.trans hlast)).2
    · rcases List.mem_cons.mp ht' with rfl | ht'
      · exact absurd rfl hsame
      · exact h.1.2 t' ht' hsame hw

theorem replayZeroRpm_spec (ht : t ∈ targets) {P : World → Prop}
    (hP : ∀ w w', Beside w w' → P w → P w') (hzero : ∀ w z, P w → P { w with zero := z }) :
    Triple World.exec Beside (fun _ _ => True) (fun w => OnlyTargets targets w₀ w ∧ P w) (replayZeroRpm t.1 t.2)
      fun _ w => OnlyTargets targets w₀ w ∧ P w := by
  have hmem : t.2 ∈ targets.map Prod.snd := List.mem_map_of_mem ht
  have hwrite : ∀ c, Triple World.exec Beside (fun _ _ => True) (fun w => OnlyTargets targets w₀ w ∧ P w)
      (perform (.writeZero t.2 c)) fun _ w => OnlyTargets targets w₀ w ∧ P w := by
    intro c
    refine .ask (fun _ _ => trivial) (fun choice w h => ⟨⟨h.1.writable, h.1.curve, fun path hp => ?_⟩, hzero w _ h.2⟩)
      fun _ w w' hb h => ⟨h.1.beside hb, hP w w' hb h.2⟩
    have hne : path ≠ t.2 := fun he => hp (he ▸ hmem)
    simpa [World.exec, hne] using h.1.zero path hp
  unfold replayZeroRpm
  split
  · refine .bind (perform_keeps (fun w w' hb h => ⟨h.1.beside hb, hP w w' hb h.2⟩) (fun _ _ => trivial) fun _ _ h => h)
      fun writable => ?_
    cases writable with
    | false => exact .pure fun _ h => h
    | true =>
      refine .bind (.bind (hwrite _) fun ok => ?_) fun _ => .pure fun _ h => h
      cases ok with
      | true => exact hwrite _
      | false => exact .pure fun _ h => h
  · exact .pure fun _ h => h

/-- What has been reset stays so while nothing moves but zero-RPM and what is beside a task. -/
def AllBack (w₀ : World) (done : List (String × String)) (w : World) : Prop :=
  ∀ t ∈ done, w₀.writable t.1 = true → WentBack t.1 w

theorem AllBack.beside {done : List (String × String)} {w w' : World} (hb : Beside w w') (h : AllBack w₀ done w) :
    AllBack w₀ done w' := by
  intro t ht hw
  unfold WentBack
  rw [hb.curve]
  exact h t ht hw

/-- One line of the record. -/
theorem replayLine_spec {line : List Char} (hline : ∀ t, lineTarget root line = some t → t ∈ targets)
    (done : List (String × String)) :
    Triple World.exec Beside (fun _ _ => True) (fun w => OnlyTargets targets w₀ w ∧ AllBack w₀ done w)
      (replayLine root line) fun _ w => OnlyTargets targets w₀ w ∧ AllBack w₀ ((lineTarget root line).toList ++ done) w := by
  unfold replayLine
  cases hl : lineTarget root line with
  | none => exact .pure fun _ h => h
  | some t =>
    have ht := hline t hl
    refine .bind (replayCurve_spec ht done) fun _ => ?_
    exact replayZeroRpm_spec ht (P := AllBack w₀ (t :: done)) (fun _ _ hb h => h.beside hb) fun _ _ h => h

/-- The whole record: every card a line names goes back, and no other file is touched. -/
theorem replayLines_spec (lines : List (List Char)) (w₀ : World) :
    Triple World.exec Beside (fun _ _ => True) (· = w₀) (each (replayLine root) lines) fun _ w =>
      OnlyTargets (lines.filterMap (lineTarget root)) w₀ w ∧ AllBack w₀ (lines.filterMap (lineTarget root)) w := by
  have hloop : Triple World.exec Beside (fun _ _ => True)
      (fun w => OnlyTargets (lines.filterMap (lineTarget root)) w₀ w ∧ ∀ line ∈ ([] : List (List Char)),
        AllBack w₀ (lineTarget root line).toList w) (each (replayLine root) lines) fun _ w =>
      OnlyTargets (lines.filterMap (lineTarget root)) w₀ w ∧
        (∀ line ∈ lines, AllBack w₀ (lineTarget root line).toList w) ∧ ∀ line ∈ ([] : List (List Char)),
        AllBack w₀ (lineTarget root line).toList w := by
    refine .each_forall lines [] fun line hline done => ?_
    refine (replayLine_spec (fun t ht => List.mem_filterMap.mpr ⟨line, hline, ht⟩)
      (done.flatMap fun line => (lineTarget root line).toList)).conseq (fun w h => ⟨h.1, fun t ht hw => ?_⟩)
      fun _ w h => ⟨h.1, fun line' hline' t ht hw => ?_⟩
    · obtain ⟨line', hline', ht⟩ := List.mem_flatMap.mp ht
      exact h.2 line' hline' t ht hw
    · refine h.2 t ?_ hw
      rcases List.mem_cons.mp hline' with rfl | hline'
      · exact List.mem_append_left _ ht
      · exact List.mem_append_right _ (List.mem_flatMap.mpr ⟨line', hline', ht⟩)
  refine hloop.conseq ?_ fun _ w h => ⟨h.1, fun t ht hw => ?_⟩
  · rintro w rfl
    exact ⟨⟨rfl, fun _ _ => rfl, fun _ _ => rfl⟩, by simp⟩
  · obtain ⟨line, hline, ht⟩ := List.mem_filterMap.mp ht
    exact h.2.1 line hline t (by simp [ht]) hw

end Replay

/-- What the script makes of a record that was written: each card it can name is back on the firmware's curve,
unless a write of its reset failed, and no file of a card that is not on the list is touched. -/
theorem replay_spec {gpus : AmdGpus} {w₀ : World} (hknown : ∀ x ∈ w₀.handback.taken, gpus.card? x.1 = some x.2)
    (root : List Char) :
    Triple World.exec Beside (fun _ _ => True) (· = w₀) (replay root (pmfwRecord w₀.handback.taken)) fun _ w =>
      (∀ x ∈ w₀.handback.taken, (pmfwRecordLine x.2).isSome = true → Replayable root x.2 →
        w₀.writable x.2.fanCurve = true → WentBack x.2.fanCurve w) ∧
      (∀ path, (∀ x ∈ w₀.handback.taken, x.2.fanCurve ≠ path) → w.curve path = w₀.curve path) ∧
      ∀ path, (∀ x ∈ w₀.handback.taken, x.2.zeroRpm.getD "-" ≠ path) → w.zero path = w₀.zero path := by
  have htargets : ∀ t, t ∈ (Shell.lines (pmfwRecord w₀.handback.taken)).filterMap (lineTarget root) ↔
      ∃ x ∈ w₀.handback.taken, (pmfwRecordLine x.2).isSome = true ∧ Replayable root x.2 ∧
        t = (x.2.fanCurve, x.2.zeroRpm.getD "-") := by
    intro t
    rw [record_lines, List.filterMap_cons, lineTarget_header]
    simp only [List.mem_filterMap]
    constructor
    · rintro ⟨line, ⟨x, hx, hl⟩, ht⟩
      rw [lineTarget_recordLine hl (AmdGpus.fanCurve_ne_nil (hknown x hx))] at ht
      split at ht
      · rename_i hr
        exact ⟨x, hx, by simp [hl], hr, (Option.some.inj ht).symm⟩
      · cases ht
    · rintro ⟨x, hx, hl, hr, rfl⟩
      obtain ⟨line, hl⟩ := Option.isSome_iff_exists.mp hl
      exact ⟨line, ⟨x, hx, hl⟩, by rw [lineTarget_recordLine hl (AmdGpus.fanCurve_ne_nil (hknown x hx)), if_pos hr]⟩
  refine (replayLines_spec _ w₀).conseq (fun _ h => h) fun _ w h => ⟨fun x hx hl hr hw => ?_, fun path hp => ?_, fun path hp => ?_⟩
  · exact h.2 _ ((htargets _).mpr ⟨x, hx, hl, hr, rfl⟩) hw
  · refine h.1.curve path fun hm => ?_
    obtain ⟨t, ht, rfl⟩ := List.mem_map.mp hm
    obtain ⟨x, hx, -, -, rfl⟩ := (htargets t).mp ht
    exact hp x hx rfl
  · refine h.1.zero path fun hm => ?_
    obtain ⟨t, ht, rfl⟩ := List.mem_map.mp hm
    obtain ⟨x, hx, -, -, rfl⟩ := (htargets t).mp ht
    exact hp x hx rfl

/-! ## Every run, every crash -/

/-- The curve file the engine's task is about to send a point to. -/
def enginePoint (s : State) : Option String :=
  match s.running with
  | some (.engine, .eff (.writeCurve path (.point _)) _) => some path
  | _ => none

/-- In every reachable state, whatever each write answered and whichever tasks died between two effects:

* a card the daemon has committed a curve to, or sent a point of one, is on the hand-back list until a reset
  of it has gone through;
* if the last attempt to write the record succeeded, the record names the listed cards, and the script it is
  replayed by gives those back and touches no other;
* the engine sends no point to a card that a reset has given back, until the relinquished set is cleared after
  that reset claimed the card. -/
theorem handback_covers (gpus : AmdGpus) (s₀ : State) (hs : Started s₀) (moves : List Move) :
    let w := (Machine.run (Locked.step (rules gpus)) s₀ moves).world
    (∀ fanId paths, gpus.card? fanId = some paths →
      ((w.curve paths.fanCurve).driven = true ∨ (w.curve paths.fanCurve).sent = true) →
      w.handback.isTaken fanId = true) ∧
    (w.handback.lastRecord = some true → ∃ record, w.handback.record = some record ∧
      (∀ line, line ∈ Shell.lines record ↔
        line = pmfwRecordHeader ∨ ∃ x ∈ w.handback.taken, pmfwRecordLine x.2 = some line) ∧
      ∀ root, Triple World.exec Beside (fun _ _ => True) (· = w) (replay root record) fun _ w' =>
        (∀ x ∈ w.handback.taken, (pmfwRecordLine x.2).isSome = true → Replayable root x.2 →
          w.writable x.2.fanCurve = true → WentBack x.2.fanCurve w') ∧
        (∀ path, (∀ x ∈ w.handback.taken, x.2.fanCurve ≠ path) → w'.curve path = w.curve path) ∧
        ∀ path, (∀ x ∈ w.handback.taken, x.2.zeroRpm.getD "-" ≠ path) → w'.zero path = w.zero path) ∧
    (∀ fanId paths, gpus.card? fanId = some paths →
      enginePoint (Machine.run (Locked.step (rules gpus)) s₀ moves) = some paths.fanCurve →
      w.givenBack fanId = false) := by
  intro w
  have hinv := @covered_run gpus s₀ hs moves
  refine ⟨fun fanId paths hcard hw => hinv.world.sent fanId paths hcard ?_, fun hlast => ?_, fun fanId paths hcard hp => ?_⟩
  · exact hw.elim (hinv.world.sane _).1 id
  · refine ⟨_, hinv.world.faithful.names hlast, fun line => ?_, fun root => replay_spec hinv.world.known root⟩
    rw [record_lines, List.mem_cons, List.mem_filterMap]
  · unfold enginePoint at hp
    split at hp
    · rename_i path p k hr
      obtain ⟨fanId', paths', hcard', hpath, -, hfree⟩ := hinv.allowed (tasks_sound gpus) hr
      obtain rfl := Option.some.inj hp
      rw [AmdGpus.card_inj hcard hcard' hpath.symm]
      exact hfree rfl
    · cases hp

/-! ## One card -/

/-- One card. -/
def oneCard : AmdGpus where
  list := [⟨"0000:03:00.0", some "/sys/devices/0000:03:00.0/gpu_od/fan_ctrl/fan_curve",
    some "/sys/devices/0000:03:00.0/gpu_od/fan_ctrl/fan_zero_rpm_enable"⟩]
  curve_file := by
    intro g hg path hp
    obtain rfl := List.mem_singleton.mp hg
    obtain rfl := Option.some.inj hp
    decide
  own_curve := by
    intro g hg g' hg' _ _
    rw [List.mem_singleton.mp hg, List.mem_singleton.mp hg']

/-- The daemon at its start, its record just written. -/
def freshDaemon : State where
  world := {
    curve := fun _ => ⟨[], [], true, false, false⟩
    zero := fun _ => ⟨true, true⟩
    od := fun _ => ⟨none, none⟩
    writable := fun _ => true
    lastCommandedPct := .empty
    relinquishedGpuFans := fun _ => false
    verifyActive := false
    handback := (⟨[], false, false, none, none⟩ : PmfwState).setRecordPath true true
    now := 0
    failCache := .empty
    giveBackFailed := .empty
    outstandingBatch := []
    waiting := none
    finished := []
    lastPreserve := fun _ => none
    epoch := 0
    claimedAt := fun _ => none
    givenBack := fun _ => false
    resetOk := fun _ => false }
  running := none

theorem freshDaemon_started : Started freshDaemon :=
  ⟨rfl, rfl, .setRecordPath true true, fun _ => rfl, fun _ => rfl, fun _ => rfl, fun _ => rfl, fun _ => rfl,
    fun _ => rfl, fun _ => rfl, rfl⟩

/-- A tick that commands the card. -/
def tickCard (pct : Nat) (preserve : Bool) : Move :=
  .move (.tick [⟨"amd_gpu:0000:03:00.0", .amdGpu, pct, preserve⟩] ["amd_gpu:0000:03:00.0"] true)

/-- Effects that each succeed. -/
def works (n : Nat) : List Move := List.replicate n (.eff ⟨true, true, []⟩)

/-- A task that is cut off once it has sent its first point. -/
theorem handback_covers_cut :
    (Machine.run (Locked.step (rules oneCard)) freshDaemon
      (tickCard 40 false :: .start .engine :: works 9)).world.handback.isTaken "amd_gpu:0000:03:00.0" = true :=
  (handback_covers oneCard freshDaemon freshDaemon_started (tickCard 40 false :: .start .engine :: works 9)).1
    "amd_gpu:0000:03:00.0" _ rfl
    (.inr (by decide))

/-- An activation between a reset's claim and its answer: the engine writes the card after the `Ok`, though no
activation came after it. -/
theorem activated_during_reset :
    let s := Machine.run (Locked.step (rules oneCard)) freshDaemon
      (.start (.reset "amd_gpu:0000:03:00.0") :: works 1 ++ .move .activate :: works 6 ++
        [.finish, tickCard 40 false, .start .engine] ++ works 8)
    enginePoint s = some "/sys/devices/0000:03:00.0/gpu_od/fan_ctrl/fan_curve" ∧
      s.world.resetOk "amd_gpu:0000:03:00.0" = true := by
  decide

end ControlOfc.Gpu
