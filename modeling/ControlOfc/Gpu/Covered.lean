import ControlOfc.Gpu.Sequences
/-! # The hand-back list covers every card the daemon drives

`Covered` is kept by every effect a task asks for where `Allowed` lets it; each task asks for its effects only
there. So a card is on the list before a point is sent to it, whoever sends it and whatever fails.

* `tasks_sound` — the four producers, interleaved with the rest of the daemon, keep `Covered`.
-/
namespace ControlOfc.Gpu
open Prog

variable {gpus : AmdGpus} {w : World} {j : Job}

/-! ## Cards and their files -/

theorem bdfOf_inj {a b x : String} (ha : bdfOf a = some x) (hb : bdfOf b = some x) : a = b := by
  have hsplit : ∀ s, bdfOf s = some x → s.toList = "amd_gpu:".toList ++ x.toList := by
    intro s hs
    obtain ⟨l, hl, rfl⟩ := Option.map_eq_some_iff.mp hs
    unfold Text.stripPrefix at hl
    split at hl
    · rename_i hp
      obtain ⟨t, ht⟩ := List.isPrefixOf_iff_prefix.mp hp
      have hl := Option.some.inj hl
      rw [← ht] at hl
      rw [← ht, ← hl, String.toList_ofList]
      simp
    · cases hl
  exact String.toList_injective ((hsplit a ha).trans (hsplit b hb).symm)

/-- A card's files belong to no other fan id. -/
theorem AmdGpus.card_inj {a b : String} {p q : CardPaths} (ha : gpus.card? a = some p) (hb : gpus.card? b = some q)
    (h : p.fanCurve = q.fanCurve) : a = b := by
  obtain ⟨bdf, hbdf, ha⟩ := Option.bind_eq_some_iff.mp ha
  obtain ⟨g, hg, ha⟩ := Option.bind_eq_some_iff.mp ha
  obtain ⟨curve, hcurve, rfl⟩ := Option.map_eq_some_iff.mp ha
  obtain ⟨bdf', hbdf', hb⟩ := Option.bind_eq_some_iff.mp hb
  obtain ⟨g', hg', hb⟩ := Option.bind_eq_some_iff.mp hb
  obtain ⟨curve', hcurve', rfl⟩ := Option.map_eq_some_iff.mp hb
  obtain rfl : curve = curve' := h
  have hsame := gpus.own_curve g (List.mem_of_find?_eq_some hg) g' (List.mem_of_find?_eq_some hg')
    (by simp [hcurve]) (hcurve.trans hcurve'.symm)
  have hb : g.pciBdf = bdf := by simpa using List.find?_some hg
  have hb' : g'.pciBdf = bdf' := by simpa using List.find?_some hg'
  exact bdfOf_inj hbdf (by rw [hbdf', ← hb', ← hsame, hb])

/-! ## The invariant -/

structure Covered (gpus : AmdGpus) (w : World) : Prop where
  sane : ∀ path, (w.curve path).Sane
  sent : ∀ fanId paths, gpus.card? fanId = some paths → (w.curve paths.fanCurve).sent = true →
    w.handback.isTaken fanId = true
  known : ∀ x ∈ w.handback.taken, gpus.card? x.1 = some x.2
  faithful : w.handback.Faithful
  given : ∀ fanId, w.givenBack fanId = true → w.relinquishedGpuFans fanId = true
  claimed : ∀ fanId e, w.claimedAt fanId = some e → e ≤ w.epoch
  waiting : ∀ b, w.waiting = some b → ∀ x ∈ b.1, gpus.card? x.fanId = some x.paths

/-- Where a task may ask for an effect. -/
def Allowed (gpus : AmdGpus) (j : Job) (e : Effect) (w : World) : Prop :=
  match e with
  | .writeCurve path (.point _) => ∃ fanId paths, gpus.card? fanId = some paths ∧ paths.fanCurve = path ∧
    w.handback.isTaken fanId = true ∧ (j = .engine → w.givenBack fanId = false)
  | .noteTake fanId paths => gpus.card? fanId = some paths
  | .noteHandedBack fanId => ∀ paths, gpus.card? fanId = some paths → (w.curve paths.fanCurve).sent = false
  | .unrelinquishGpuFan fanId => w.givenBack fanId = false
  | _ => True

theorem CurveFile.write_sent {f : CurveFile} {c : CurveCommand} {ok landed : Bool}
    (h : (f.write c ok landed).sent = true) : f.sent = true ∨ ∃ p, c = .point p := by
  cases c with
  | point p => exact .inr ⟨p, rfl⟩
  | commit =>
    by_cases he : f.staged = []
    · cases ok <;> cases landed <;> simp_all [CurveFile.write, CurveFile.land]
    · cases ok <;> cases landed <;> simp_all [CurveFile.write, CurveFile.land]
  | reset => cases ok <;> cases landed <;> simp_all [CurveFile.write, CurveFile.land]

/-- A write to one curve file, of which a point goes only to a card on the list. -/
theorem Covered.writeCurve (h : Covered gpus w) (path : String) (cmd : CurveCommand) (c : Luck)
    (ha : Allowed gpus j (.writeCurve path cmd) w) : Covered gpus (w.exec (.writeCurve path cmd) c).2 := by
  refine { h with sane := fun path' => ?_, sent := fun fanId paths hcard hs => ?_ }
  · by_cases hp : path' = path
    · subst hp
      simpa [World.exec] using (h.sane path').write cmd c.ok c.landed
    · simpa [World.exec, hp] using h.sane path'
  · by_cases hp : paths.fanCurve = path
    · subst hp
      rcases CurveFile.write_sent (by simpa [World.exec] using hs) with hs | ⟨p, rfl⟩
      · exact h.sent fanId paths hcard hs
      · obtain ⟨fanId', paths', hcard', hp', ht, -⟩ := ha
        rw [AmdGpus.card_inj hcard hcard' hp'.symm]
        exact ht
    · exact h.sent fanId paths hcard (by simpa [World.exec, hp] using hs)

theorem Covered.exec {e : Effect} (h : Covered gpus w) (c : Luck) (ha : Allowed gpus j e w) :
    Covered gpus (w.exec e c).2 := by
  cases e with
  | writeCurve path cmd => exact h.writeCurve path cmd c ha
  | relinquishGpuFan fanId =>
    refine { h with given := fun id hg => ?_, claimed := fun id e he => ?_ }
    · by_cases hid : id = fanId
      · subst hid
        simp [World.exec]
      · simpa [World.exec, hid] using h.given id hg
    · by_cases hid : id = fanId
      · subst hid
        have he : w.epoch = e := by simpa [World.exec] using he
        exact he ▸ Nat.le_refl _
      · exact h.claimed id e (by simpa [World.exec, hid] using he)
  | unrelinquishGpuFan fanId =>
    have hfree : w.givenBack fanId = false := ha
    refine { h with given := fun id hg => ?_ }
    by_cases hid : id = fanId
    · have hg : w.givenBack id = true := hg
      rw [hid, hfree] at hg
      cases hg
    · simpa [World.exec, hid] using h.given id hg
  | noteTake fanId paths =>
    have hcard : gpus.card? fanId = some paths := ha
    refine { h with sent := fun id p hc hs => ?_, known := fun x hx => ?_, faithful := h.faithful.noteTake .. }
    · have ht := h.sent id p hc hs
      simp [World.exec, PmfwState.isTaken_noteTake, ht]
    · rcases PmfwState.mem_noteTake.mp hx with hx | ⟨-, rfl⟩
      · exact h.known x hx
      · exact hcard
  | noteHandedBack fanId =>
    have hfree : ∀ paths, gpus.card? fanId = some paths → (w.curve paths.fanCurve).sent = false := ha
    refine { h with sent := fun id p hc hs => ?_, known := fun x hx => ?_, faithful := h.faithful.noteHandedBack .. }
    · have hne : id ≠ fanId := by
        rintro rfl
        exact Bool.noConfusion ((hfree p hc).symm.trans hs)
      simp [World.exec, PmfwState.isTaken_noteHandedBack, h.sent id p hc hs, hne]
    · exact h.known x (PmfwState.mem_noteHandedBack.mp hx).1
  | readFanCurve _ | readZeroRpm _ | writeZero _ _ | isWritable _ | called _ _ | verifyActive
  | isGpuFanRelinquished _ | takenPaths _ | lastCommandedPct _ | setGpuFanCommandedPct _ _
  | clearGpuFanCommandedPct _ => exact { h with }

/-- What the list and the flags say, whatever is sent to the cards. -/
structure Settled (gpus : AmdGpus) (w : World) : Prop where
  known : ∀ x ∈ w.handback.taken, gpus.card? x.1 = some x.2
  given : ∀ fanId, w.givenBack fanId = true → w.relinquishedGpuFans fanId = true

theorem Covered.settled (h : Covered gpus w) : Settled gpus w := ⟨h.known, h.given⟩

theorem Settled.beside {w' : World} (hb : Beside w w') (h : Settled gpus w) : Settled gpus w' where
  known x hx := h.known x (hb.handback ▸ hx)
  given fanId hg := by
    by_cases he : w'.epoch = w.epoch
    · rw [hb.uncleared he]
      exact h.given fanId (hb.given fanId hg)
    · exact absurd hg (by simp [hb.cleared he fanId])

theorem World.pendingWrite_card {cmd : Engine.PwmCommand} {x : GpuFanWrite} (h : w.pendingWrite gpus cmd = some x) :
    gpus.card? x.fanId = some x.paths := by
  unfold World.pendingWrite at h
  split at h; · cases h
  split at h; · cases h
  split at h; · cases h
  split at h; · cases h
  split at h; · cases h
  obtain ⟨paths, hp, rfl⟩ := Option.map_eq_some_iff.mp h
  exact hp

/-- Whatever waits for the lock is a write to a card. -/
theorem waiting_move (h : ∀ b, w.waiting = some b → ∀ x ∈ b.1, gpus.card? x.fanId = some x.paths) (e : Event) :
    ∀ b, (e.move gpus w).waiting = some b → ∀ x ∈ b.1, gpus.card? x.fanId = some x.paths := by
  intro b hb
  cases e with
  | tick commands members peek =>
    cases hw : w.waiting with
    | some b' =>
      simp only [Event.move, World.tick, hw] at hb
      exact h b (hw.trans hb)
    | none =>
      have hkeep : (w.giveBackCandidates members peek).2.waiting = none := by
        cases peek <;> exact hw
      simp only [Event.move, World.tick, hw] at hb
      split at hb
      · rw [hkeep] at hb
        cases hb
      · obtain rfl := Option.some.inj hb
        intro x hx
        obtain ⟨cmd, -, hcmd⟩ := List.mem_filterMap.mp hx
        exact World.pendingWrite_card hcmd
  | giveUp => cases hb
  | harvest => exact h b (World.harvest_waiting w ▸ hb)
  | activate | pause _ | advance _ => exact h b hb

theorem Covered.move (h : Covered gpus w) (e : Event) : Covered gpus (e.move gpus w) := by
  have hb := Beside.move gpus e w
  have hsettled := h.settled.beside hb
  refine ⟨fun path => hb.curve ▸ h.sane path, fun fanId paths hc hs => ?_, hsettled.known, hb.handback ▸ h.faithful,
    hsettled.given, fun fanId e he => (h.claimed fanId e (hb.claimed ▸ he)).trans hb.epoch, ?_⟩
  · rw [hb.handback]
    exact h.sent fanId paths hc (hb.curve ▸ hs)
  · exact fun b hw => waiting_move h.waiting e b hw

/-! ## Each task asks only for what is allowed -/

theorem allowed_of_onCard {e : Effect} {path : String} (h : e.OnCard path false) : Allowed gpus j e w := by
  cases e with
  | writeCurve p c =>
    cases c with
    | point q => exact absurd h.2 (by simp)
    | commit | reset => trivial
  | readFanCurve _ | readZeroRpm _ | writeZero _ _ | called _ _ => trivial
  | _ => exact h.elim

/-- The card is on the list, and an engine may write it. -/
structure Mine (gpus : AmdGpus) (j : Job) (fanId : String) (w : World) : Prop where
  settled : Settled gpus w
  taken : w.handback.isTaken fanId = true
  free : j = .engine → w.givenBack fanId = false

theorem Mine.allowed {fanId : String} {paths : CardPaths} (hcard : gpus.card? fanId = some paths) {e : Effect}
    (hm : Mine gpus j fanId w) (h : e.OnCard paths.fanCurve true) : Allowed gpus j e w := by
  cases e with
  | writeCurve p c =>
    cases c with
    | point q => exact ⟨fanId, paths, hcard, h.1.symm, hm.taken, hm.free⟩
    | commit | reset => trivial
  | readFanCurve _ | readZeroRpm _ | writeZero _ _ | called _ _ => trivial
  | _ => exact h.elim

theorem settled_frame (path : String) : FrameOf path (Settled gpus) :=
  ⟨fun _ _ hb h => h.beside hb, fun _ _ h => ⟨h.known, h.given⟩, fun _ _ h => ⟨h.known, h.given⟩,
    fun _ _ h => ⟨h.known, h.given⟩⟩

theorem Mine.beside {fanId : String} {w' : World} (hb : Beside w w') (h : Mine gpus j fanId w) : Mine gpus j fanId w' where
  settled := h.settled.beside hb
  taken := hb.handback ▸ h.taken
  free hj := by
    cases hg : w'.givenBack fanId with
    | false => rfl
    | true => exact absurd (hb.given fanId hg) (by simp [h.free hj])

theorem mine_frame (j : Job) (fanId path : String) : FrameOf path (Mine gpus j fanId) :=
  ⟨fun _ _ hb h => h.beside hb, fun _ _ h => ⟨⟨h.1.1, h.1.2⟩, h.2, h.3⟩, fun _ _ h => ⟨⟨h.1.1, h.1.2⟩, h.2, h.3⟩,
    fun _ _ h => ⟨⟨h.1.1, h.1.2⟩, h.2, h.3⟩⟩

section Tasks
variable {fanId : String} {paths : CardPaths}

/-- An effect that touches nothing `P` speaks of. -/
theorem perform_keeps {P : World → Prop} {A : Effect → World → Prop} (hP : ∀ w w', Beside w w' → P w → P w') {e : Effect}
    (hA : ∀ w, P w → A e w) (hexec : ∀ c w, P w → P (w.exec e c).2) :
    Triple World.exec Beside A P (perform e) fun _ => P :=
  .ask hA (fun c w h => hexec c w h) fun _ w w' hb h => hP w w' hb h

theorem setPct_keeps {P : World → Prop} (hP : ∀ w w', Beside w w' → P w → P w')
    (hset : ∀ w m, P w → P { w with lastCommandedPct := m }) (pct : Nat) :
    Triple World.exec Beside (Allowed gpus j) P (perform (.setGpuFanCommandedPct fanId pct)) fun _ => P :=
  perform_keeps hP (fun _ _ => trivial) fun _ w h => hset w _ h

theorem Settled.noteTake {c : Luck} (h : Settled gpus w) (hcard : gpus.card? fanId = some paths) :
    Settled gpus (w.exec (.noteTake fanId paths) c).2 := by
  refine ⟨fun x hx => ?_, h.given⟩
  rcases PmfwState.mem_noteTake.mp hx with hx | ⟨-, rfl⟩
  · exact h.known x hx
  · exact hcard

theorem Settled.noteHandedBack {c : Luck} (h : Settled gpus w) : Settled gpus (w.exec (.noteHandedBack fanId) c).2 :=
  ⟨fun x hx => h.known x (PmfwState.mem_noteHandedBack.mp hx).1, h.given⟩

/-- A card is named before anything is sent to it. -/
theorem noteTake_spec (hcard : gpus.card? fanId = some paths) :
    Triple World.exec Beside (Allowed gpus j) (fun w => Settled gpus w ∧ (j = .engine → w.givenBack fanId = false))
      (perform (.noteTake fanId paths)) fun _ => Mine gpus j fanId := by
  refine .ask (fun w _ => hcard) (fun c w h => ⟨h.1.noteTake hcard, ?_, h.2⟩) fun _ w w' hb h => h.beside hb
  simp [World.exec, PmfwState.isTaken_noteTake]

/-- `gpu_blocking_write` sends a speed only to a card it has named, and to none a reset gave back. -/
theorem gpuBlockingWrite_spec {write : GpuFanWrite} (hcard : gpus.card? write.fanId = some write.paths) :
    Triple World.exec Beside (Allowed gpus .engine) (Settled gpus) (gpuBlockingWrite write) fun _ => Settled gpus := by
  refine .bind (perform_keeps (fun _ _ hb h => h.beside hb) (fun _ _ => trivial) fun _ _ h => h) fun paused => ?_
  cases paused with
  | true => exact .pure fun _ h => h
  | false =>
    refine .bind (.ask (fun _ _ => trivial)
      (Q := fun given w => Settled gpus w ∧ (given = false → w.givenBack write.fanId = false)) (fun c w h => ⟨h, ?_⟩) ?_) ?_
    · intro hr
      cases hg : w.givenBack write.fanId with
      | false => exact hg
      | true => exact absurd (h.given _ hg) (by simpa [World.exec] using hr)
    · intro given w w' hb h
      refine ⟨h.1.beside hb, fun hr => ?_⟩
      cases hg : w'.givenBack write.fanId with
      | false => rfl
      | true => exact absurd (hb.given _ hg) (by simp [h.2 hr])
    · intro given
      cases given with
      | true => exact .pure fun _ h => h.1
      | false =>
        refine .bind ((noteTake_spec (j := .engine) hcard).conseq (fun w h => ⟨h.1, fun _ => h.2 rfl⟩) fun _ _ h => h) fun _ => ?_
        refine .bind (setStaticSpeed_spec (mine_frame .engine write.fanId _) (fun e w h he => h.allowed hcard he)
          (fun _ _ => trivial) (fun _ _ _ => trivial) write.pct write.preserveZeroRpm) fun ok => ?_
        cases ok with
        | true =>
          refine .bind ((setPct_keeps (fun _ _ hb h => h.beside hb) (fun _ _ h => ⟨h.known, h.given⟩) _).conseq
            (fun _ h => h.1.settled) fun _ _ h => h) fun _ => ?_
          exact .pure fun _ h => h
        | false => exact .pure fun _ h => h.1.settled

/-- What else is known of a reset's claim: the flag stands unless the set was cleared since. -/
structure ClaimStands (fanId : String) (newlyClaimed : Bool) (w : World) : Prop where
  free : newlyClaimed = true → w.givenBack fanId = false
  stands : ∃ e, w.claimedAt fanId = some e ∧ e ≤ w.epoch ∧ (e = w.epoch → w.relinquishedGpuFans fanId = true)

theorem ClaimStands.beside {newly : Bool} {w' : World} (hb : Beside w w') (h : ClaimStands fanId newly w) :
    ClaimStands fanId newly w' where
  free hn := by
    cases hg : w'.givenBack fanId with
    | false => rfl
    | true => exact absurd (hb.given fanId hg) (by simp [h.free hn])
  stands := by
    obtain ⟨e, hc, hle, hr⟩ := h.stands
    refine ⟨e, hb.claimed ▸ hc, hle.trans hb.epoch, fun he => ?_⟩
    have hsame : w'.epoch = w.epoch := Nat.le_antisymm (he ▸ hle) hb.epoch
    rw [hb.uncleared hsame]
    exact hr (he.trans hsame)

/-- The two notes after a reset that went through, and what follows them. `P` is what else is known. -/
theorem noteReset_spec {α : Type} {P : World → Prop} {T : α → World → Prop} {k : Program α}
    (hP : ∀ w w', Beside w w' → P w → P w') (hclear : ∀ w m, P w → P { w with lastCommandedPct := m })
    (hnote : ∀ w h, P w → P { w with handback := h }) (hcard : gpus.card? fanId = some paths)
    (hk : Triple World.exec Beside (Allowed gpus j) (fun w => Settled gpus w ∧ P w) k T) :
    Triple World.exec Beside (Allowed gpus j)
      (fun w => (Settled gpus w ∧ P w) ∧ (w.curve paths.fanCurve).sent = false)
      (do perform (.clearGpuFanCommandedPct fanId); perform (.noteHandedBack fanId); k) T := by
  refine .bind (perform_keeps (fun w w' hb h => ⟨⟨h.1.1.beside hb, hP w w' hb h.1.2⟩, hb.curve ▸ h.2⟩) (fun _ _ => trivial)
    fun _ w h => ⟨⟨⟨h.1.1.known, h.1.1.given⟩, hclear w _ h.1.2⟩, h.2⟩) fun _ => ?_
  refine .bind (.ask (fun w h p hp => ?_) (fun c w h => ⟨h.1.1.noteHandedBack, hnote w _ h.1.2⟩)
    fun _ w w' hb h => ⟨h.1.beside hb, hP w w' hb h.2⟩) fun _ => hk
  obtain rfl := Option.some.inj (hcard.symm.trans hp)
  exact h.2

theorem gpuGiveBack_spec (fanId : String) :
    Triple World.exec Beside (Allowed gpus j) (Settled gpus) (gpuGiveBack fanId) fun _ => Settled gpus := by
  refine .bind (perform_keeps (fun _ _ hb h => h.beside hb) (fun _ _ => trivial) fun _ _ h => h) fun paused => ?_
  cases paused with
  | true => exact .pure fun _ h => h
  | false =>
    refine .bind (.ask (fun _ _ => trivial)
      (Q := fun (p : Option CardPaths) w => Settled gpus w ∧ ∀ paths, p = some paths → gpus.card? fanId = some paths)
      (fun c w h => ⟨h, fun paths hp => h.known (fanId, paths) (PmfwState.mem_of_find? hp)⟩)
      fun p w w' hb h => ⟨h.1.beside hb, h.2⟩) fun p => ?_
    cases p with
    | none => exact .pure fun _ h => h.1
    | some paths =>
      intro w₀ h₀
      have hcard := h₀.2 paths rfl
      refine Triple.bind (P := Settled gpus) ((resetToAuto_spec (settled_frame _) (fun e w _ he => allowed_of_onCard he)
        fun _ _ _ => trivial)) (fun ok => ?_) w₀ h₀.1
      cases ok with
      | true =>
        exact (noteReset_spec (P := fun _ => True) (fun _ _ _ _ => trivial) (fun _ _ _ => trivial) (fun _ _ _ => trivial)
          hcard (.pure fun _ h => h.1)).conseq (fun _ h => ⟨⟨h.1, trivial⟩, (h.2.2 rfl).1⟩) fun _ _ h => h
      | false => exact .pure fun _ h => h.1

/-- What a reset answers `Ok` on it has claimed, and its claim stands. -/
theorem resetTask_spec (hcard : gpus.card? fanId = some paths) :
    Triple World.exec Beside (Allowed gpus j) (Settled gpus) (resetTask fanId paths) fun ok w =>
      Settled gpus w ∧ (ok = true → w.claimedAt fanId = some w.epoch → w.relinquishedGpuFans fanId = true) := by
  refine .bind (Q := fun newly w => Settled gpus w ∧ ClaimStands fanId newly w)
    (.ask (fun _ _ => trivial) (fun c w h => ⟨⟨h.known, fun id hg => ?_⟩, fun hn => ?_, w.epoch, ?_⟩)
      fun newly w w' hb h => ⟨h.1.beside hb, h.2.beside hb⟩) fun newly => ?_
  · by_cases hid : id = fanId
    · simp [World.exec, hid]
    · simpa [World.exec, hid] using h.given id hg
  · have hn : w.relinquishedGpuFans fanId = false := by simpa [World.exec] using hn
    cases hg : w.givenBack fanId with
    | false => exact hg
    | true => exact absurd (h.given fanId hg) (by simp [hn])
  · simp [World.exec]
  · have hframe : FrameOf paths.fanCurve fun w => Settled gpus w ∧ ClaimStands fanId newly w :=
      ⟨fun _ _ hb h => ⟨h.1.beside hb, h.2.beside hb⟩, fun _ _ h => ⟨⟨h.1.1, h.1.2⟩, h.2.1, h.2.2⟩,
        fun _ _ h => ⟨⟨h.1.1, h.1.2⟩, h.2.1, h.2.2⟩, fun _ _ h => ⟨⟨h.1.1, h.1.2⟩, h.2.1, h.2.2⟩⟩
    refine .bind (resetToAuto_spec hframe (fun e w _ he => allowed_of_onCard he) fun _ _ _ => trivial) fun ok => ?_
    cases ok with
    | true =>
      refine (noteReset_spec (P := ClaimStands fanId newly) (fun _ _ hb h => h.beside hb) (fun _ _ h => ⟨h.1, h.2⟩)
        (fun _ _ h => ⟨h.1, h.2⟩) hcard (.pure fun w h => ⟨h.1, fun _ hc => ?_⟩)).conseq (fun _ h => ⟨h.1, (h.2.2 rfl).1⟩)
          fun _ _ h => h
      obtain ⟨e, he, -, hr⟩ := h.2.stands
      exact hr (Option.some.inj (he.symm.trans hc))
    | false =>
      refine .bind (Q := fun _ => Settled gpus) ?_ fun _ => .pure fun w h => ⟨h, by simp⟩
      unfold rollBack
      cases newly with
      | false => exact .pure fun w h => h.1.1
      | true =>
        refine .ask (fun w h => h.1.2.free rfl) (fun c w h => ⟨h.1.1.known, fun id hg => ?_⟩) fun _ w w' hb h => h.beside hb
        by_cases hid : id = fanId
        · exact absurd (hid ▸ hg) (by simp [World.exec, h.1.2.free rfl])
        · simpa [World.exec, hid] using h.1.1.given id hg

/-- Where a verify ends: the card is on the list, or it went back to firmware auto. -/
theorem restoreAndNote_spec (hcard : gpus.card? fanId = some paths) (priorPct : Option Nat) :
    Triple World.exec Beside (Allowed gpus (.verify fanId)) (Mine gpus (.verify fanId) fanId)
      (restoreAndNote fanId priorPct paths) fun _ => Settled gpus := by
  unfold restoreAndNote restorePmfw stampRestoredPct notePmfwRestored
  cases drivenAt priorPct with
  | some p =>
    refine .bind (Q := fun _ => Mine gpus (.verify fanId) fanId) (.bind (setStaticSpeed_spec
      (mine_frame (.verify fanId) fanId _) (fun e w h he => h.allowed hcard he) (fun _ _ => trivial) (fun _ _ _ => trivial) p false)
      fun ok => .pure fun _ h => h.1) fun restoreFailed => ?_
    refine .bind (Q := fun _ => Settled gpus) ?_ fun _ => .bind (Q := fun _ => Settled gpus) ?_ fun _ => .pure fun _ h => h
    · cases restoreFailed with
      | true => exact .pure fun _ h => h.settled
      | false =>
        exact (setPct_keeps (fun _ _ hb h => h.beside hb) (fun _ _ h => ⟨h.known, h.given⟩) _).conseq
          (fun _ h => h.settled) fun _ _ h => h
    · cases restoreFailed <;> exact .pure fun _ h => h
  | none =>
    refine .conseq (P := Settled gpus) (.bind
      (Q := fun failed w => Settled gpus w ∧ (failed = false → (w.curve paths.fanCurve).sent = false))
      (.bind (resetToAuto_spec (settled_frame _) (fun e w _ he => allowed_of_onCard he) fun _ _ _ => trivial)
        fun ok => .pure fun _ h => ⟨h.1, fun ho => (h.2.2 (by simpa using ho)).1⟩) fun restoreFailed => ?_)
      (fun _ h => h.settled) fun _ _ h => h
    cases restoreFailed with
    | true => exact .bind (.pure fun _ h => h.1) fun _ => .bind (.pure fun _ h => h) fun _ => .pure fun _ h => h
    | false =>
      exact (noteReset_spec (P := fun _ => True) (fun _ _ _ _ => trivial) (fun _ _ _ => trivial) (fun _ _ _ => trivial)
        hcard (.pure fun _ h => h.1)).conseq (fun _ h => ⟨⟨h.1, trivial⟩, h.2 rfl⟩) fun _ _ h => h

theorem pmfwVerifySequence_spec (hcard : gpus.card? fanId = some paths) :
    Triple World.exec Beside (Allowed gpus (.verify fanId)) (Settled gpus) (pmfwVerifySequence fanId paths)
      fun _ => Settled gpus := by
  refine .bind (perform_keeps (fun _ _ hb h => h.beside hb) (fun _ _ => trivial) fun _ _ h => h) fun priorPct => ?_
  refine .bind (perform_keeps (fun _ _ hb h => h.beside hb) (fun _ _ => trivial) fun _ _ h => h) fun initialCurve => ?_
  refine .bind ((noteTake_spec (j := .verify fanId) hcard).conseq (fun w h => ⟨h, by simp⟩) fun _ _ h => h) fun _ => ?_
  refine .bind (setStaticSpeed_spec (mine_frame (.verify fanId) fanId _) (fun e w h he => h.allowed hcard he)
    (fun _ _ => trivial) (fun _ _ _ => trivial) _ false) fun ok => ?_
  cases ok with
  | true =>
    refine .bind ((setPct_keeps (P := Mine gpus (.verify fanId) fanId) (fun _ _ hb h => h.beside hb)
      (fun _ _ h => ⟨⟨h.1.1, h.1.2⟩, h.2, h.3⟩) _).conseq (fun _ h => h.1) fun _ _ h => h) fun _ => ?_
    exact .bind (restoreAndNote_spec hcard priorPct) fun _ => .pure fun _ h => h
  | false => exact .bind ((restoreAndNote_spec hcard priorPct).conseq (fun _ h => h.1) fun _ _ h => h) fun _ => .pure fun _ h => h

theorem engineTask_spec {batch : List GpuFanWrite} (giveBack : List String)
    (hcards : ∀ x ∈ batch, gpus.card? x.fanId = some x.paths) :
    Triple World.exec Beside (Allowed gpus .engine) (Settled gpus) (engineTask batch giveBack) fun _ => Settled gpus := by
  refine .bind (.each fun x hx => .bind (gpuBlockingWrite_spec (hcards x hx)) fun _ => .pure fun _ h => h) fun writes => ?_
  refine .bind (.each fun id _ => .bind (gpuGiveBack_spec id) fun _ => .pure fun _ h => h) fun handedBack => ?_
  exact .pure fun _ h => h

end Tasks

/-! ## The system of tasks -/

/-- A reset that reports `Ok` has left its flag standing, unless the set was cleared since it claimed it. -/
def Ended (_ : Job) (o : Outcome) (w : World) : Prop :=
  ∀ fanId, o = .reset fanId true → w.claimedAt fanId = some w.epoch → w.relinquishedGpuFans fanId = true

theorem Covered.started {s : State} (h : Started s) : Covered gpus s.world where
  sane path := ⟨by simp [h.driven path], by simp [h.staged path]⟩
  sent fanId paths _ hs := absurd hs (by simp [h.sent])
  known := by simp [h.taken]
  faithful := h.faithful
  given fanId hg := absurd hg (by simp [h.given fanId])
  claimed fanId e he := absurd he (by simp [h.unclaimed fanId])
  waiting b hb := absurd hb (by simp [h.waiting])

theorem Covered.finish (h : Covered gpus w) {o : Outcome} (he : Ended j o w) : Covered gpus (j.finish o w) := by
  cases o with
  | reset fanId ok =>
    cases ok with
    | true =>
      refine { h with given := fun id hg => ?_ }
      by_cases hid : id = fanId
      · subst hid
        exact he id rfl (by simpa [Job.finish] using hg)
      · exact h.given id (by simpa [Job.finish, hid] using hg)
    | false => exact h
  | engine o => exact { h with }
  | verify => exact h

theorem tasks_sound (gpus : AmdGpus) :
    Locked.Sound (rules gpus) Beside (Covered gpus) (fun _ => True) (Allowed gpus) Ended where
  refl := Beside.refl
  trans _ _ _ h h' := h.trans h'
  start j w p w' hst h _ := by
    cases j with
    | engine =>
      obtain ⟨⟨batch, giveBack⟩, hw, hp⟩ := Option.map_eq_some_iff.mp hst
      obtain ⟨rfl, rfl⟩ := Prod.mk.inj hp
      have hcards := h.waiting _ hw
      refine ⟨{ h with waiting := by simp }, fun v hv => ?_⟩
      have hsettled : Settled gpus v := Settled.beside hv ⟨h.known, h.given⟩
      exact Triple.bind (engineTask_spec giveBack hcards) (fun o => .pure fun _ _ fanId ho => by cases ho) v hsettled
    | reset fanId =>
      obtain ⟨paths, hcard, hp⟩ := Option.map_eq_some_iff.mp hst
      obtain ⟨rfl, rfl⟩ := Prod.mk.inj hp
      refine ⟨h, fun v hv => ?_⟩
      refine Triple.bind (resetTask_spec hcard) (fun ok => .pure fun w hw id ho => ?_) v (h.settled.beside hv)
      cases ho
      exact hw.2 rfl
    | verify fanId =>
      obtain ⟨paths, hcard, hp⟩ := Option.map_eq_some_iff.mp hst
      obtain ⟨rfl, rfl⟩ := Prod.mk.inj hp
      exact ⟨h, fun v hv => Triple.bind (pmfwVerifySequence_spec hcard) (fun _ => .pure fun _ _ id ho => by cases ho)
        v (h.settled.beside hv)⟩
  exec _ _ c _ h ha := h.exec c ha
  finish _ _ _ h he := ⟨h.finish he, trivial⟩
  move e w h := ⟨Beside.move gpus e w, h.move e⟩
  moveIdle _ _ _ := trivial

/-- In every reachable state, whatever failed and whichever task died, `Covered` holds, and the running task's
next effect is allowed. -/
theorem covered_run {s : State} (hs : Started s) (moves : List Move) :
    Locked.Inv (rules gpus) Beside (Covered gpus) (fun _ => True) (Allowed gpus) Ended
      (Machine.run (Locked.step (rules gpus)) s moves) := by
  refine Machine.run_inv (fun s m h => h.step (tasks_sound gpus) m fun _ j w hw => ⟨?_, trivial⟩) s moves
    ⟨Covered.started hs, fun _ => trivial, by simp [hs.idle]⟩
  cases j with
  | engine => exact { hw with }
  | reset _ | verify _ => exact hw

end ControlOfc.Gpu
