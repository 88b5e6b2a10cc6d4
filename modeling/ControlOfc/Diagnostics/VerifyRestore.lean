import ControlOfc.Diagnostics.HeaderVerify
/-! # What a header verify puts back (api/handlers/hwmon_ctl.rs:544-768)

`verifyTask` is a straight line but for the settle, so a run is one of a few transcripts. The test duty goes out
whatever the shutdown flag said before it, a test write that fails ends the task without a restore, and an
unreadable duty is restored as 50 %.

* `settle_eq`: what is heard during the settle.
* `verifyTask_eq`: the run, as its result and what it heard and did.
-/
namespace ControlOfc.Diagnostics.Verify

/-! ## Running a task -/

section Running

variable {α β : Type}

theorem run_bind (m : Task α) (f : α → Task β) (s : Mem) : (m >>= f) s =
    match m s with
    | (.ok a, s') => f a s'
    | (.error e, s') => (.error e, s') := by
  show Act.bind m f s = _
  unfold Act.bind
  rcases m s with ⟨e | a, s'⟩ <;> rfl

/-- A step that ends goes on with what it ended in. -/
theorem run_bind_ok {m : Task α} {s s' : Mem} {a : α} (h : m s = (.ok a, s')) (f : α → Task β) :
    (m >>= f) s = f a s' := by
  rw [run_bind, h]

theorem run_pure (a : α) (s : Mem) : (pure a : Task α) s = (.ok a, s) := rfl

theorem run_leave (e : String) (s : Mem) : (Act.leave e : Task α) s = (.error e, s) := rfl

theorem run_say (e : Event) (s : Mem) : say e s = (.ok (), { s with said := s.said ++ [e] }) := rfl

theorem run_shuttingDown (raised : Bool) (s : Mem) :
    shuttingDown raised s = (.ok raised, { s with said := s.said ++ [.shutdown raised] }) := rfl

theorem run_renew (kept : Bool) (s : Mem) :
    renew kept s = (.ok kept, { s with said := s.said ++ [.renew kept] }) := rfl

theorem run_setPwm (pct : Nat) (answer : SetPwm) (s : Mem) :
    setPwm pct answer s = (.ok answer.error?, { s with said := s.said ++ [.write pct answer] }) := rfl

/-- What the watch hears where it has not seen a pump: nothing of one protected at entry. -/
def heard (atStart isPump : Bool) : List Event := if atStart then [] else [.pump isPump]

theorem run_becameProtected (watch : PumpWatch) (isPump : Bool) {s : Mem} (hs : s.seen = false) :
    becameProtected watch isPump s =
      (.ok (!watch.atStart && isPump),
        { s with seen := !watch.atStart && isPump, said := s.said ++ heard watch.atStart isPump }) := by
  obtain ⟨seen, said⟩ := s
  obtain rfl : seen = false := hs
  unfold becameProtected heard
  cases watch.atStart <;> cases isPump <;> simp [run_bind, run_pure, run_say, Act.lift, Act.modify]

/-- One evaluation of `stop`. -/
theorem run_stopOn (watch : PumpWatch) (raised isPump : Bool) {s : Mem} (hs : s.seen = false) :
    stopOn watch raised isPump s =
      (.ok (!raised && !watch.atStart && isPump),
        { s with
          seen := !raised && !watch.atStart && isPump
          said := s.said ++ .shutdown raised :: (if raised then [] else heard watch.atStart isPump) }) := by
  unfold stopOn
  rw [run_bind, run_shuttingDown]
  cases raised with
  | true => simp [run_pure, hs]
  | false => simp [run_becameProtected watch isPump (s := { s with said := s.said ++ [.shutdown false] }) hs]

end Running

/-! ## The settle -/

/-- What is heard during a settle, and whether a pump ends it. -/
def settle (atStart : Bool) : List Pass → Bool × List Event
  | [] => (false, [])
  | p :: ps =>
    if p.before < verifyWait then
      let slept := Event.sleep (min (verifyWait - p.before) verifyPumpRecheckInterval)
      if p.after < verifyWait then
        let said := slept :: .shutdown p.shutdown :: (if p.shutdown then [] else heard atStart p.pump)
        if !p.shutdown && !atStart && p.pump then (true, said)
        else ((settle atStart ps).1, said ++ (settle atStart ps).2)
      else ((settle atStart ps).1, slept :: (settle atStart ps).2)
    else (false, [])

theorem settle_eq (watch : PumpWatch) (passes : List Pass) {s : Mem} (hs : s.seen = false) :
    holdVerifySettle verifyWait verifyPumpRecheckInterval (fun p => stopOn watch p.shutdown p.pump) passes s =
      (.ok (settle watch.atStart passes).1,
        { seen := (settle watch.atStart passes).1, said := s.said ++ (settle watch.atStart passes).2 }) := by
  induction passes generalizing s with
  | nil =>
    obtain ⟨seen, said⟩ := s
    obtain rfl : seen = false := hs
    simp [holdVerifySettle, settle, run_pure]
  | cons p ps ih =>
    obtain ⟨seen, said⟩ := s
    obtain rfl : seen = false := hs
    unfold holdVerifySettle settle
    by_cases hb : p.before < verifyWait
    · by_cases ha : p.after < verifyWait
      · simp only [hb, ha, if_true, run_bind, run_say]
        rw [run_stopOn watch p.shutdown p.pump rfl]
        cases hstop : !p.shutdown && !watch.atStart && p.pump with
        | true => simp [run_pure]
        | false =>
          simp only [Bool.false_eq_true, if_false]
          rw [ih rfl]
          simp
      · simp only [hb, ha, if_true, if_false, run_bind, run_say]
        rw [ih rfl]
        simp
    · simp [hb, run_pure]

/-! ## The run -/

namespace Surroundings

variable (w : Surroundings)

/-- The captured duty, or the 50 % that stand for an unreadable one. -/
def currentPct : Nat := (readHeaderState w.initial).pwmPercent.getD 50

def testPct : Nat := verifyTestDuty w.isPump w.pumpFloor w.currentPct

/-- The floor of the pump watch. -/
def watchFloor : Nat := max w.pumpFloor hardPumpFloor

/-- The header became a pump before anything was written. -/
def stoppedBefore : Bool := !w.shutdownBefore && !w.isPump && w.pumpBefore

/-- A pump ended the settle. -/
def midRun : Bool := (settle w.isPump w.passes).1

/-- The restore is floored. -/
def restoreFloored : Bool := w.isPump || w.midRun || w.pumpAfter

def restorePct : Nat := restoreDuty w.restoreFloored w.watchFloor w.currentPct

/-- What is heard before the test write. -/
def saidBefore : List Event :=
  .shutdown w.shutdownBefore :: (if w.shutdownBefore then [] else heard w.isPump w.pumpBefore)

/-- What is heard and done behind the settle. -/
def saidAfter : List Event :=
  .renew w.renewed ::
    if w.renewed then
      .shutdown w.shutdownAfter ::
        if w.shutdownAfter then []
        else (if w.midRun then [] else heard w.isPump w.pumpAfter) ++ [.write w.restorePct w.restoreWrite]
    else []

def said : List Event :=
  w.saidBefore ++
    if w.stoppedBefore then []
    else .write w.testPct w.testWrite ::
      if w.testWrite.error?.isSome then [] else (settle w.isPump w.passes).2 ++ w.saidAfter

def result : Except String VerifyRun :=
  if w.stoppedBefore then .ok ⟨readHeaderState w.initial, readHeaderState w.initial, w.testPct, false, true⟩
  else
    match w.testWrite.error? with
    | some e => .error e
    | none => .ok ⟨readHeaderState w.initial, readHeaderState w.final, w.testPct,
        !w.renewed || w.shutdownAfter || w.restoreWrite.error?.isSome, w.midRun⟩

/-- A settle that a pump ended is of a header that was none at entry. -/
theorem settle_of_atStart (passes : List Pass) : (settle true passes).1 = false := by
  induction passes with
  | nil => rfl
  | cons p ps ih =>
    unfold settle
    split
    · split <;> simp [ih]
    · rfl

/-- The restore, whose floor is looked up once more unless the settle has seen a pump. -/
theorem run_restoreIsPump (s : Mem) (hs : s.seen = w.midRun) :
    restoreIsPump (PumpWatch.new w.isPump w.pumpFloor) w.pumpAfter s =
      (.ok w.restoreFloored,
        { seen := !w.isPump && (w.midRun || w.pumpAfter)
          said := s.said ++ if w.midRun then [] else heard w.isPump w.pumpAfter }) := by
  obtain ⟨seen, said⟩ := s
  obtain rfl : seen = w.midRun := hs
  have hstart : (PumpWatch.new w.isPump w.pumpFloor).atStart = w.isPump := rfl
  unfold restoreIsPump restoreFloored becameProtected heard
  rw [hstart]
  cases hp : w.isPump with
  | true =>
    have hmid : w.midRun = false := by
      unfold midRun
      rw [hp]
      exact settle_of_atStart w.passes
    simp [hmid, run_pure]
  | false =>
    cases hm : w.midRun <;> cases hafter : w.pumpAfter <;> simp [run_bind, run_pure, run_say, Act.lift, Act.modify]

/-- The restore, and what is heard before it. -/
theorem run_putBack (s : Mem) (hs : s.seen = w.midRun) :
    ∃ seen, putBack w (PumpWatch.new w.isPump w.pumpFloor) w.currentPct s =
      (.ok (!w.renewed || w.shutdownAfter || w.restoreWrite.error?.isSome), ⟨seen, s.said ++ w.saidAfter⟩) := by
  unfold putBack saidAfter
  rw [run_bind_ok (run_renew _ _)]
  cases hr : w.renewed with
  | false => exact ⟨s.seen, rfl⟩
  | true =>
    simp only [Bool.not_true, Bool.false_eq_true, if_false, if_true]
    rw [run_bind_ok (run_shuttingDown _ _)]
    cases hd : w.shutdownAfter with
    | true => exact ⟨s.seen, by simp [run_pure]⟩
    | false =>
      simp only [Bool.false_eq_true, if_false]
      have hpump := w.run_restoreIsPump ⟨s.seen, s.said ++ [.renew true] ++ [.shutdown false]⟩ hs
      rw [run_bind_ok hpump, run_bind_ok (run_setPwm _ _ _), run_pure]
      refine ⟨!w.isPump && (w.midRun || w.pumpAfter), ?_⟩
      simp only [Bool.false_or, List.append_assoc, List.cons_append, List.nil_append]
      rfl

theorem verifyTask_eq : (verifyTask w {}).1 = w.result ∧ (verifyTask w {}).2.said = w.said := by
  have hstop := run_stopOn (PumpWatch.new w.isPump w.pumpFloor) w.shutdownBefore w.pumpBefore (s := {}) rfl
  unfold verifyTask
  rw [run_bind_ok hstop]
  unfold result said
  cases hb : w.stoppedBefore with
  | true =>
    have hb' : (!w.shutdownBefore && !(PumpWatch.new w.isPump w.pumpFloor).atStart && w.pumpBefore) = true := hb
    rw [hb', if_pos rfl, if_pos rfl, if_pos rfl, run_pure, List.append_nil]
    exact ⟨rfl, rfl⟩
  | false =>
    have hb' : (!w.shutdownBefore && !(PumpWatch.new w.isPump w.pumpFloor).atStart && w.pumpBefore) = false := hb
    simp only [hb', Bool.false_eq_true, if_false]
    rw [run_bind_ok (run_setPwm _ _ _)]
    cases he : w.testWrite.error? with
    | some e => exact ⟨rfl, by simp [run_leave, saidBefore, testPct, currentPct, PumpWatch.new]⟩
    | none =>
      dsimp only
      rw [run_bind_ok (settle_eq _ _ rfl)]
      obtain ⟨seen, hput⟩ := w.run_putBack ⟨w.midRun, [] ++ Event.shutdown w.shutdownBefore ::
        (if w.shutdownBefore then [] else heard w.isPump w.pumpBefore) ++ [.write w.testPct w.testWrite] ++
          (settle w.isPump w.passes).2⟩ rfl
      have hbind := run_bind_ok hput (fun restoreFailed => (pure ⟨readHeaderState w.initial, readHeaderState w.final,
        w.testPct, restoreFailed, w.midRun⟩ : Task VerifyRun))
      refine ⟨congrArg Prod.fst hbind, (congrArg (fun r => r.2.said) hbind).trans ?_⟩
      simp [run_pure, saidBefore]

end Surroundings

/-! ## What a verify promises -/

def written : Event → Option Nat
  | .write pct _ => some pct
  | _ => none

/-- The duties that were written, whatever came of them. -/
def writes (said : List Event) : List Nat := said.filterMap written

@[simp] theorem writes_nil : writes [] = [] := rfl

@[simp] theorem writes_append (a b : List Event) : writes (a ++ b) = writes a ++ writes b := List.filterMap_append

@[simp] theorem writes_cons (e : Event) (said : List Event) : writes (e :: said) = (written e).toList ++ writes said := by
  unfold writes
  cases h : written e <;> simp [h]

/-- The task has seen the shutdown, or that its slot is another run's. -/
def isEnd : Event → Bool
  | .shutdown raised => raised
  | .renew kept => !kept
  | _ => false

/-- The pump union has answered yes. -/
def isPumpSeen : Event → Bool
  | .pump isPump => isPump
  | _ => false

/-- What follows the first such event. -/
def after (p : Event → Bool) (said : List Event) : List Event := (said.dropWhile fun e => !p e).drop 1

theorem after_append_of_not {p : Event → Bool} {a : List Event} (h : ∀ e ∈ a, p e = false) (b : List Event) :
    after p (a ++ b) = after p b := by
  unfold after
  rw [List.dropWhile_append_of_pos fun e he => by simp [h e he]]

theorem after_append_of_exists {p : Event → Bool} {a : List Event} (h : ∃ e ∈ a, p e = true) (b : List Event) :
    after p (a ++ b) = after p a ++ b := by
  unfold after
  induction a with
  | nil => simp at h
  | cons e a ih =>
    cases he : p e with
    | true => simp [he]
    | false =>
      obtain ⟨e', hmem, he'⟩ := h
      have htail : e' ∈ a := by
        rcases List.mem_cons.mp hmem with rfl | hmem
        · simp [he] at he'
        · exact hmem
      simpa [he] using ih ⟨e', htail, he'⟩

theorem writes_after (p : Event → Bool) {said : List Event} (h : writes said = []) : writes (after p said) = [] := by
  rw [writes, List.filterMap_eq_nil_iff] at h ⊢
  intro e he
  exact h e ((List.dropWhile_sublist _).subset (List.mem_of_mem_drop he))

/-- The last write, with its answer. -/
def lastWrite (said : List Event) : Option (Nat × SetPwm) :=
  (said.filterMap fun e => match e with
    | .write pct answer => some (pct, answer)
    | _ => none).getLast?

/-- What a verify promises of a run that heard and did `said`, ended in `result` and left `record`. -/
structure PutsBack (w : Surroundings) (said : List Event) (result : Except String VerifyRun)
    (record : Option (VerifiedState × String)) : Prop where
  twoWrites : writes said = [] ∨ writes said = [w.testPct] ∨ ∃ restore, writes said = [w.testPct, restore]
  silent : writes (after isEnd said) = []
  floored : w.isPump = true → ∀ pct ∈ writes said, w.watchFloor ≤ pct
  pumpSeen : .pump true ∈ said → writes (after isPumpSeen said) = [] ∨
    ∃ restore, writes said = [w.testPct, restore] ∧ writes (after isPumpSeen said) = [restore] ∧ w.watchFloor ≤ restore
  restored : writes said ≠ [] → (∀ e ∈ said, isEnd e = false) → ∃ restore, writes said = [w.testPct, restore]
  truthful : ∀ run, result = .ok run → run.restoreFailed = false → writes said = [] ∨
    ∃ captured, run.initial.pwmPercent = some captured ∧
      lastWrite said = some (restoreDuty (w.isPump || said.any isPumpSeen) w.watchFloor captured, .ok)
  recorded : ∀ r, record = some r → ∃ run, result = .ok run ∧ run.restoreFailed = false ∧
    run.pumpProtectedMidRun = false ∧ verdictForVerify (verdict w.pumpFloor run).1 = some r.1

/-! ## When it is kept -/

namespace Surroundings

variable (w : Surroundings)

/-- The test duty went out. -/
def Tested : Prop := w.stoppedBefore = false

/-- The task came to its restore. -/
def Restores : Prop := w.Tested ∧ w.renewed = true ∧ w.shutdownAfter = false

/-- No shutdown before the test write, which succeeds; none during the settle that is taken back before the restore;
and a readable duty to put back. -/
structure Kept : Prop where
  running : w.shutdownBefore = false
  tested : w.Tested → w.testWrite = .ok
  steady : w.Restores → .shutdown true ∉ (settle w.isPump w.passes).2
  readable : w.Restores → w.restoreWrite = .ok → w.initial.pwm.isSome = true

end Surroundings

section Settle

variable {atStart : Bool} {passes : List Pass}

theorem heard_mem {isPump : Bool} {e : Event} (he : e ∈ heard atStart isPump) : atStart = false ∧ e = .pump isPump := by
  unfold heard at he
  cases atStart with
  | true => simp at he
  | false => exact ⟨rfl, by simpa using he⟩

/-- A settle writes nothing and asks for no slot. -/
theorem settle_mem {e : Event} (he : e ∈ (settle atStart passes).2) :
    (∃ d, e = .sleep d) ∨ (∃ b, e = .shutdown b) ∨ ∃ b, e = .pump b := by
  induction passes with
  | nil => simp [settle] at he
  | cons p ps ih =>
    unfold settle at he
    split at he
    · dsimp only at he
      split at he
      · have hhead : e ∈ Event.sleep (min (verifyWait - p.before) verifyPumpRecheckInterval) :: .shutdown p.shutdown ::
            (if p.shutdown then [] else heard atStart p.pump) →
            (∃ d, e = .sleep d) ∨ (∃ b, e = .shutdown b) ∨ ∃ b, e = .pump b := by
          intro h
          simp only [List.mem_cons] at h
          rcases h with h | h | h
          · exact .inl ⟨_, h⟩
          · exact .inr (.inl ⟨_, h⟩)
          · split at h
            · simp at h
            · exact .inr (.inr ⟨_, (heard_mem h).2⟩)
        split at he
        · exact hhead he
        · rcases List.mem_append.mp he with he | he
          · exact hhead he
          · exact ih he
      · rcases List.mem_cons.mp he with he | he
        · exact .inl ⟨_, he⟩
        · exact ih he
    · simp at he

theorem settle_writes : writes (settle atStart passes).2 = [] := by
  rw [writes, List.filterMap_eq_nil_iff]
  intro e he
  rcases settle_mem he with ⟨d, rfl⟩ | ⟨b, rfl⟩ | ⟨b, rfl⟩ <;> rfl

/-- The settle ends early just where it hears of a pump. -/
theorem settle_pump : .pump true ∈ (settle atStart passes).2 ↔ (settle atStart passes).1 = true := by
  induction passes with
  | nil => simp [settle]
  | cons p ps ih =>
    unfold settle
    by_cases hb : p.before < verifyWait
    · by_cases ha : p.after < verifyWait
      · cases p.shutdown <;> cases atStart <;> cases p.pump <;> simp [hb, ha, heard, ih]
      · simp [hb, ha, ih]
    · simp [hb]

end Settle

namespace Surroundings

variable {w : Surroundings}

/-- What was heard before a test write that no shutdown came before. -/
theorem saidBefore_quiet (hrun : w.shutdownBefore = false) (htested : w.Tested) :
    ∀ e ∈ w.saidBefore, written e = none ∧ isEnd e = false ∧ isPumpSeen e = false := by
  intro e he
  unfold saidBefore at he
  rw [hrun] at he
  rcases List.mem_cons.mp he with rfl | he
  · exact ⟨rfl, rfl, rfl⟩
  · obtain ⟨hstart, rfl⟩ := heard_mem he
    have hpump : w.pumpBefore = false := by
      simpa [Tested, stoppedBefore, hrun, hstart] using htested
    simp [written, isEnd, isPumpSeen, hpump]

/-- Up to its test write the task has seen no end, and heard of no pump. -/
theorem tested_quiet (hrun : w.shutdownBefore = false) (htested : w.Tested) (r : SetPwm) :
    ∀ e ∈ w.saidBefore ++ [.write w.testPct r], isEnd e = false ∧ isPumpSeen e = false := by
  intro e he
  rcases List.mem_append.mp he with he | he
  · exact (saidBefore_quiet hrun htested e he).2
  · rw [List.mem_singleton.mp he]
    exact ⟨rfl, rfl⟩

theorem said_tested (htested : w.Tested) (hok : w.testWrite = .ok) :
    w.said = w.saidBefore ++ .write w.testPct .ok :: ((settle w.isPump w.passes).2 ++ w.saidAfter) := by
  unfold said
  rw [show w.stoppedBefore = false from htested, hok]
  rfl

/-- What is heard behind the settle, where the task comes to its restore. -/
theorem saidAfter_restores (h : w.Restores) : w.saidAfter =
    .renew true :: .shutdown false ::
      ((if w.midRun then [] else heard w.isPump w.pumpAfter) ++ [.write w.restorePct w.restoreWrite]) := by
  unfold saidAfter
  simp [h.2.1, h.2.2]

theorem saidAfter_of_not (htested : w.Tested) (h : ¬ w.Restores) : writes w.saidAfter = [] := by
  unfold saidAfter
  cases hr : w.renewed with
  | false => simp [written]
  | true =>
    cases hd : w.shutdownAfter with
    | true => simp [written]
    | false => exact absurd ⟨htested, hr, hd⟩ h

theorem writes_heard (atStart isPump : Bool) : writes (heard atStart isPump) = [] := by
  unfold heard
  cases atStart <;> simp [written]

theorem writes_saidAfter (h : w.Restores) : writes w.saidAfter = [w.restorePct] := by
  rw [saidAfter_restores h]
  cases w.midRun <;> simp [written, writes_heard]

theorem writes_saidBefore : writes w.saidBefore = [] := by
  unfold saidBefore
  cases w.shutdownBefore <;> simp [written, writes_heard]

/-- The record says what a run found whose restore landed. -/
theorem recorded (r : VerifiedState × String) (hr : verifyRecord w.pumpFloor w.result = some r) :
    ∃ run, w.result = .ok run ∧ run.restoreFailed = false ∧ run.pumpProtectedMidRun = false ∧
      verdictForVerify (verdict w.pumpFloor run).1 = some r.1 := by
  cases hres : w.result with
  | error e => simp [hres, verifyRecord] at hr
  | ok run =>
    simp only [hres, verifyRecord] at hr
    cases hf : run.restoreFailed with
    | true => simp [hf] at hr
    | false =>
      simp only [hf, Bool.false_eq_true, if_false, Option.map_eq_some_iff] at hr
      obtain ⟨state, hstate, rfl⟩ := hr
      refine ⟨run, rfl, hf, ?_, hstate⟩
      cases hmid : run.pumpProtectedMidRun with
      | false => rfl
      | true => simp [verdict, hmid, pumpProtectedMidRunVerdict, pumpProtectedMidRunToken, verdictForVerify] at hstate

/-! ### Where it is kept -/

theorem settle_noEnd (h : .shutdown true ∉ (settle w.isPump w.passes).2) :
    ∀ e ∈ (settle w.isPump w.passes).2, isEnd e = false := by
  intro e he
  rcases settle_mem he with ⟨d, rfl⟩ | ⟨b, rfl⟩ | ⟨b, rfl⟩
  · rfl
  · cases b with
    | true => exact absurd he h
    | false => rfl
  · rfl

theorem heard_noEnd (atStart isPump : Bool) : ∀ e ∈ heard atStart isPump, isEnd e = false := by
  intro e he
  rw [(heard_mem he).2]
  rfl

/-- The restore of what is a pump by now is floored. -/
theorem le_restorePct (h : w.restoreFloored = true) : w.watchFloor ≤ w.restorePct := by
  unfold restorePct restoreDuty
  rw [h, if_pos rfl]
  exact Nat.le_max_right _ _

theorem le_testPct (h : w.isPump = true) : w.watchFloor ≤ w.testPct := by
  unfold testPct
  rw [h]
  exact le_verifyTestDuty _ _

/-- The union that is looked up for the restore. -/
theorem midRun_of_isPump (h : w.isPump = true) : w.midRun = false := by
  unfold midRun
  rw [h]
  exact settle_of_atStart w.passes

/-- Where a pump has been heard of, the restore is floored. -/
theorem restoreFloored_iff (hrest : w.Restores) :
    w.restoreFloored = (w.isPump || ((settle w.isPump w.passes).2 ++ w.saidAfter).any isPumpSeen) := by
  have hsettle : (settle w.isPump w.passes).2.any isPumpSeen = w.midRun := by
    rw [Bool.eq_iff_iff, List.any_eq_true]
    constructor
    · rintro ⟨e, he, hp⟩
      have hpump : e = .pump true := by
        rcases settle_mem he with ⟨d, rfl⟩ | ⟨b, rfl⟩ | ⟨b, rfl⟩
        · simp [isPumpSeen] at hp
        · simp [isPumpSeen] at hp
        · simpa [isPumpSeen] using hp
      exact settle_pump.mp (hpump ▸ he)
    · intro hm
      exact ⟨_, settle_pump.mpr hm, rfl⟩
  rw [List.any_append, hsettle, saidAfter_restores hrest]
  unfold restoreFloored heard
  cases w.isPump <;> cases w.midRun <;> cases w.pumpAfter <;> simp [isPumpSeen]

/-- A task that stopped before its test write has heard of a pump, and done nothing. -/
theorem said_stopped (h : w.stoppedBefore = true) :
    w.isPump = false ∧ w.said = [.shutdown false, .pump true] := by
  have hall : w.shutdownBefore = false ∧ w.isPump = false ∧ w.pumpBefore = true := by
    simpa [stoppedBefore, and_assoc] using h
  refine ⟨hall.2.1, ?_⟩
  simp [said, h, saidBefore, heard, hall]

theorem Kept.putsBack_stopped (h : w.stoppedBefore = true) :
    PutsBack w w.said w.result (verifyRecord w.pumpFloor w.result) := by
  obtain ⟨hpump, hsaid⟩ := said_stopped h
  have hwrites : writes w.said = [] := by simp [hsaid, written]
  exact
    { twoWrites := .inl hwrites
      silent := by simp [hsaid, after, isEnd]
      floored := by simp [hwrites]
      pumpSeen := fun _ => .inl (by simp [hsaid, after, isPumpSeen])
      restored := fun hne => absurd hwrites hne
      truthful := fun _ _ _ => .inl hwrites
      recorded := recorded }

section Tested

variable (hk : w.Kept) (ht : w.Tested)
include hk ht

theorem Kept.said_eq : w.said =
    (w.saidBefore ++ [.write w.testPct .ok]) ++ ((settle w.isPump w.passes).2 ++ w.saidAfter) := by
  rw [said_tested ht (hk.tested ht), List.append_assoc]
  rfl

theorem Kept.writes_eq : writes w.said = w.testPct :: writes w.saidAfter := by
  rw [hk.said_eq ht, writes_append, writes_append, writes_append, writes_saidBefore, settle_writes]
  rfl

/-- Nothing is written behind an end the task has seen. -/
theorem Kept.silent : writes (after isEnd w.said) = [] := by
  have hfront : ∀ e ∈ w.saidBefore ++ [.write w.testPct .ok], isEnd e = false := fun e he =>
    (tested_quiet hk.running ht .ok e he).1
  rw [hk.said_eq ht, after_append_of_not hfront]
  by_cases hrest : w.Restores
  · rw [after_append_of_not (settle_noEnd (hk.steady hrest)), saidAfter_restores hrest]
    have hquiet : ∀ e ∈ Event.renew true :: .shutdown false ::
        ((if w.midRun then [] else heard w.isPump w.pumpAfter) ++ [.write w.restorePct w.restoreWrite]), isEnd e = false := by
      intro e he
      simp only [List.mem_cons, List.mem_append, List.not_mem_nil, or_false] at he
      rcases he with rfl | rfl | he | rfl
      · rfl
      · rfl
      · split at he
        · simp at he
        · exact heard_noEnd _ _ e he
      · rfl
    have hnone := after_append_of_not hquiet []
    rw [List.append_nil] at hnone
    rw [hnone]
    rfl
  · refine writes_after _ ?_
    rw [writes_append, settle_writes, saidAfter_of_not ht hrest]
    rfl

theorem Kept.floored (hpump : w.isPump = true) : ∀ pct ∈ writes w.said, w.watchFloor ≤ pct := by
  intro pct hpct
  rw [hk.writes_eq ht] at hpct
  rcases List.mem_cons.mp hpct with rfl | hpct
  · exact le_testPct hpump
  · by_cases hrest : w.Restores
    · rw [writes_saidAfter hrest] at hpct
      rw [List.mem_singleton.mp hpct]
      exact le_restorePct (by simp [restoreFloored, hpump])
    · simp [saidAfter_of_not ht hrest] at hpct

/-- Behind an answer of the union that the header is a pump, only a floored restore is written. -/
theorem Kept.pumpSeen (hseen : .pump true ∈ w.said) : writes (after isPumpSeen w.said) = [] ∨
    ∃ restore, writes w.said = [w.testPct, restore] ∧ writes (after isPumpSeen w.said) = [restore] ∧
      w.watchFloor ≤ restore := by
  have hquiet : ∀ e ∈ w.saidBefore ++ [.write w.testPct .ok], isPumpSeen e = false := fun e he =>
    (tested_quiet hk.running ht .ok e he).2
  rw [hk.writes_eq ht]
  rw [hk.said_eq ht] at hseen ⊢
  rw [after_append_of_not hquiet]
  have hmem : .pump true ∈ (settle w.isPump w.passes).2 ++ w.saidAfter := by
    rcases List.mem_append.mp hseen with h | h
    · exact absurd (hquiet _ h) (by decide)
    · exact h
  by_cases hrest : w.Restores
  · have hfloored : w.restoreFloored = true := by
      rw [restoreFloored_iff hrest, List.any_eq_true.mpr ⟨_, hmem, rfl⟩, Bool.or_true]
    refine .inr ⟨w.restorePct, by rw [writes_saidAfter hrest], ?_, le_restorePct hfloored⟩
    by_cases hsettle : .pump true ∈ (settle w.isPump w.passes).2
    · rw [after_append_of_exists ⟨_, hsettle, rfl⟩, writes_append, writes_after _ settle_writes,
        writes_saidAfter hrest]
      rfl
    · have hnone : ∀ e ∈ (settle w.isPump w.passes).2, isPumpSeen e = false := by
        intro e he
        rcases settle_mem he with ⟨d, rfl⟩ | ⟨b, rfl⟩ | ⟨b, rfl⟩
        · rfl
        · rfl
        · cases b with
          | true => exact absurd he hsettle
          | false => rfl
      have hlater : .pump true ∈ w.saidAfter := (List.mem_append.mp hmem).resolve_left hsettle
      rw [after_append_of_not hnone]
      rw [saidAfter_restores hrest] at hlater ⊢
      unfold heard at hlater ⊢
      cases hm : w.midRun <;> cases hp : w.isPump <;> cases ha : w.pumpAfter <;>
        simp_all [after, isPumpSeen, written]
  · refine .inl (writes_after _ ?_)
    rw [writes_append, settle_writes, saidAfter_of_not ht hrest]
    rfl

theorem Kept.restored (hnoEnd : ∀ e ∈ w.said, isEnd e = false) : ∃ restore, writes w.said = [w.testPct, restore] := by
  rw [hk.said_eq ht] at hnoEnd
  have hafter : ∀ e ∈ w.saidAfter, isEnd e = false := fun e he =>
    hnoEnd e (List.mem_append_right _ (List.mem_append_right _ he))
  have hrest : w.Restores := by
    have hrenew : w.renewed = true := by
      simpa [isEnd] using hafter (.renew w.renewed) (by simp [saidAfter])
    have hdown : w.shutdownAfter = false := by
      simpa [isEnd] using hafter (.shutdown w.shutdownAfter) (by simp [saidAfter, hrenew])
    exact ⟨ht, hrenew, hdown⟩
  exact ⟨w.restorePct, by rw [hk.writes_eq ht, writes_saidAfter hrest]⟩

theorem Kept.truthful {run : VerifyRun} (hrun : w.result = .ok run) (hok : run.restoreFailed = false) :
    ∃ captured, run.initial.pwmPercent = some captured ∧
      lastWrite w.said = some (restoreDuty (w.isPump || w.said.any isPumpSeen) w.watchFloor captured, .ok) := by
  have hresult : w.result = .ok ⟨readHeaderState w.initial, readHeaderState w.final, w.testPct,
      !w.renewed || w.shutdownAfter || w.restoreWrite.error?.isSome, w.midRun⟩ := by
    unfold result
    rw [show w.stoppedBefore = false from ht, hk.tested ht]
    rfl
  rw [hresult] at hrun
  obtain rfl := Except.ok.inj hrun
  obtain ⟨⟨hrenew, hdown⟩, herr⟩ : (w.renewed = true ∧ w.shutdownAfter = false) ∧ w.restoreWrite.error? = none := by
    simpa using hok
  have hrest : w.Restores := ⟨ht, hrenew, hdown⟩
  have hwrite : w.restoreWrite = .ok := by
    cases hr : w.restoreWrite with
    | ok => rfl
    | refused e => simp [hr, SetPwm.error?] at herr
    | failed e landed => simp [hr, SetPwm.error?] at herr
  obtain ⟨raw, hraw⟩ := Option.isSome_iff_exists.mp (hk.readable hrest hwrite)
  have hcaptured : (readHeaderState w.initial).pwmPercent = some w.currentPct := by
    simp [currentPct, readHeaderState, hraw]
  have hquiet : (w.saidBefore ++ [Event.write w.testPct .ok]).any isPumpSeen = false := by
    rw [List.any_eq_false]
    intro e he
    simp [(tested_quiet hk.running ht .ok e he).2]
  have hfloored : w.restoreFloored = (w.isPump || w.said.any isPumpSeen) := by
    rw [hk.said_eq ht, List.any_append, hquiet, Bool.false_or]
    exact restoreFloored_iff hrest
  refine ⟨w.currentPct, hcaptured, ?_⟩
  rw [← hfloored]
  have hsplit : ∃ front, w.said = front ++ [.write w.restorePct .ok] := by
    rw [hk.said_eq ht, saidAfter_restores hrest, hwrite]
    exact ⟨(w.saidBefore ++ [.write w.testPct .ok]) ++ ((settle w.isPump w.passes).2 ++
      (.renew true :: .shutdown false :: (if w.midRun then [] else heard w.isPump w.pumpAfter))), by simp⟩
  obtain ⟨front, hfront⟩ := hsplit
  rw [hfront, lastWrite, List.filterMap_append]
  simp [restorePct]

theorem Kept.putsBack_tested : PutsBack w w.said w.result (verifyRecord w.pumpFloor w.result) where
  twoWrites := by
    rw [hk.writes_eq ht]
    by_cases hrest : w.Restores
    · exact .inr (.inr ⟨w.restorePct, by rw [writes_saidAfter hrest]⟩)
    · exact .inr (.inl (by rw [saidAfter_of_not ht hrest]))
  silent := hk.silent ht
  floored := hk.floored ht
  pumpSeen := hk.pumpSeen ht
  restored := fun _ => hk.restored ht
  truthful := fun _ hrun hok => .inr (hk.truthful ht hrun hok)
  recorded := recorded

end Tested

/-! ### And nowhere else -/

section Conversely

variable (h : PutsBack w w.said w.result (verifyRecord w.pumpFloor w.result))
include h

/-- A shutdown seen before the test write does not keep it from going out. -/
theorem running_of_putsBack : w.shutdownBefore = false := by
  by_contra hdown
  rw [Bool.not_eq_false] at hdown
  have hsilent := h.silent
  have htested : w.stoppedBefore = false := by simp [stoppedBefore, hdown]
  unfold said at hsilent
  rw [htested] at hsilent
  simp [saidBefore, hdown, after, isEnd, written] at hsilent

/-- A test write that fails is not put back. -/
theorem tested_of_putsBack (ht : w.Tested) : w.testWrite = .ok := by
  have hrun := running_of_putsBack h
  by_contra hne
  have herr : w.testWrite.error?.isSome = true := by
    cases hw : w.testWrite with
    | ok => exact absurd hw hne
    | refused e => rfl
    | failed e landed => rfl
  have hsaid : w.said = w.saidBefore ++ [.write w.testPct w.testWrite] := by
    unfold said
    rw [show w.stoppedBefore = false from ht, herr]
    rfl
  have hwrites : writes w.said = [w.testPct] := by
    rw [hsaid, writes_append, writes_saidBefore]
    rfl
  have hnoEnd : ∀ e ∈ w.said, isEnd e = false := by
    intro e he
    rw [hsaid] at he
    exact (tested_quiet hrun ht w.testWrite e he).1
  obtain ⟨restore, hrestore⟩ := h.restored (by simp [hwrites]) hnoEnd
  rw [hwrites] at hrestore
  simp at hrestore

/-- A shutdown seen during the settle and taken back does not keep the restore from going out. -/
theorem steady_of_putsBack (hrest : w.Restores) : .shutdown true ∉ (settle w.isPump w.passes).2 := by
  intro hdown
  have hrun := running_of_putsBack h
  have hsilent := h.silent
  have hfront : ∀ e ∈ w.saidBefore ++ [.write w.testPct .ok], isEnd e = false := fun e he =>
    (tested_quiet hrun hrest.1 .ok e he).1
  have hsaid : w.said = (w.saidBefore ++ [.write w.testPct .ok]) ++ ((settle w.isPump w.passes).2 ++ w.saidAfter) := by
    rw [said_tested hrest.1 (tested_of_putsBack h hrest.1), List.append_assoc]
    rfl
  rw [hsaid, after_append_of_not hfront, after_append_of_exists ⟨_, hdown, rfl⟩, writes_append,
    writes_saidAfter hrest] at hsilent
  simp at hsilent

/-- What was unreadable is restored as 50 %, and reported as restored. -/
theorem readable_of_putsBack (hrest : w.Restores) (hok : w.restoreWrite = .ok) : w.initial.pwm.isSome = true := by
  have htest := tested_of_putsBack h hrest.1
  have hresult : w.result = .ok ⟨readHeaderState w.initial, readHeaderState w.final, w.testPct, false, w.midRun⟩ := by
    unfold result
    rw [show w.stoppedBefore = false from hrest.1, htest, hrest.2.1, hrest.2.2, hok]
    rfl
  have hwrites : writes w.said ≠ [] := by
    rw [said_tested hrest.1 htest, writes_append, writes_cons]
    simp [written]
  rcases h.truthful _ hresult rfl with hnone | ⟨captured, hcaptured, -⟩
  · exact absurd hnone hwrites
  · cases hraw : w.initial.pwm with
    | none => simp [readHeaderState, hraw] at hcaptured
    | some raw => rfl

end Conversely

/-- A verify keeps its promises just where none of the four ways to break them is open. -/
theorem putsBack_iff : PutsBack w w.said w.result (verifyRecord w.pumpFloor w.result) ↔ w.Kept := by
  constructor
  · intro h
    exact
      { running := running_of_putsBack h
        tested := tested_of_putsBack h
        steady := steady_of_putsBack h
        readable := readable_of_putsBack h }
  · intro hk
    cases hb : w.stoppedBefore with
    | true => exact Kept.putsBack_stopped hb
    | false => exact hk.putsBack_tested hb

end Surroundings

/-- A header verify writes at most its test duty and one restore, nothing behind a shutdown or a lost slot it has
seen, nothing below the floor of a pump, puts the header back wherever the test write was issued, and reports
truly whether it did, just where no shutdown was seen before the test write, that write succeeded, no shutdown
seen during the settle was taken back, and the captured duty is readable if it is restored. -/
theorem verify_puts_back_iff (w : Surroundings) :
    PutsBack w (verifyTask w {}).2.said (verifyTask w {}).1 (verifyRecord w.pumpFloor (verifyTask w {}).1) ↔ w.Kept := by
  rw [w.verifyTask_eq.1, w.verifyTask_eq.2]
  exact Surroundings.putsBack_iff

/-- A header that runs at a readable 60 %, of which nothing goes wrong but that the test write reports an error. -/
def failedTestWrite : Surroundings where
  isPump := false
  pumpFloor := 30
  initial := ⟨some 153, some 1, some 1200⟩
  shutdownBefore := false
  pumpBefore := false
  testWrite := .failed "verification readback failed" true
  passes := []
  final := ⟨some 51, some 1, some 600⟩
  renewed := true
  shutdownAfter := false
  pumpAfter := false
  restoreWrite := .ok

/-- The test duty of 20 % went out, and nothing was written behind it. -/
theorem failed_test_write_is_not_put_back :
    writes (verifyTask failedTestWrite {}).2.said = [20] ∧
      ¬ PutsBack failedTestWrite (verifyTask failedTestWrite {}).2.said (verifyTask failedTestWrite {}).1
        (verifyRecord failedTestWrite.pumpFloor (verifyTask failedTestWrite {}).1) := by
  have hwrites : writes (verifyTask failedTestWrite {}).2.said = [20] := by decide
  refine ⟨hwrites, fun h => ?_⟩
  obtain ⟨restore, hrestore⟩ := h.restored (by simp [hwrites]) (by decide)
  rw [hwrites] at hrestore
  simp at hrestore

end ControlOfc.Diagnostics.Verify
