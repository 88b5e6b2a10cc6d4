import Mathlib.Data.List.AList
import Mathlib.Algebra.Group.Nat.Defs
/-! # The pump stall watch (profile_engine/pump_stall.rs)

The watch keeps one `HeaderWatch` for every header it has seen and advances them once a tick. Headers do
not meet: with distinct ids in a call, what a tick leaves of one header depends on that header's own watch
and input alone (`watchOf_tick`, `stalled_tick`), so the statements about runs are about one header.

A time is in nanoseconds. `stalls` is a `u32` incremented with `+=`, which wraps in a release build.
-/
namespace ControlOfc.PumpStall

/-- `PUMP_STALL_DETECT` (constants.rs:486). -/
def pumpStallDetect : Nat := 10 * 1000000000

/-- `PUMP_STALL_KICK` (constants.rs:490). -/
def pumpStallKick : Nat := 30 * 1000000000

/-- `HARD_PUMP_CPU_FLOOR_PCT as u8`. -/
def pumpFloor : Nat := 30

/-- `Tach` (pump_stall.rs:54). -/
inductive Tach where
  | fresh (rpm : Nat)
  | stale
  deriving DecidableEq, Repr

/-- `PumpInput` (pump_stall.rs:63). -/
structure PumpInput where
  headerId : String
  tach : Tach
  commandedPct : Option Nat
  deriving DecidableEq, Repr

/-- `input.commanded_pct.is_some_and(|p| p >= pump_floor)`. -/
def PumpInput.commanded (input : PumpInput) : Bool :=
  match input.commandedPct with
  | some p => decide (pumpFloor ≤ p)
  | none => false

/-- `StallEvent` (pump_stall.rs:73). -/
inductive StallEvent where
  | stalled (headerId : String) (held : Bool)
  | notTurning (headerId : String)
  | recovered (headerId : String)
  | released (headerId : String)
  deriving DecidableEq, Repr

def StallEvent.headerId : StallEvent → String
  | .stalled id _ => id
  | .notTurning id => id
  | .recovered id => id
  | .released id => id

/-- `Phase` (pump_stall.rs:85). -/
inductive Phase where
  | monitoring (zeroSince : Option Nat)
  | kick (since : Nat) (turning : Bool)
  | notTurning (since : Nat)
  | held (since : Nat) (turning : Bool)
  deriving DecidableEq, Repr

def Phase.isMonitoring : Phase → Bool
  | .monitoring _ => true
  | _ => false

def Phase.isHeld : Phase → Bool
  | .held _ _ => true
  | _ => false

/-- `HeaderWatch` (pump_stall.rs:93). -/
structure HeaderWatch where
  seenSpinning : Bool
  stalls : Nat
  phase : Phase
  deriving DecidableEq, Repr

instance : Inhabited HeaderWatch := ⟨⟨false, 0, .monitoring none⟩⟩

/-- `PumpStallWatch` (pump_stall.rs:112). -/
structure PumpStallWatch where
  headers : AList fun _ : String => HeaderWatch

instance : Inhabited PumpStallWatch := ⟨⟨∅⟩⟩

/-! ## One header -/

namespace HeaderWatch

/-- The loop over the watched headers (pump_stall.rs:137-142). -/
def enter (w : HeaderWatch) (watched paused : Bool) : HeaderWatch :=
  if !watched || (paused && w.phase.isMonitoring) then { w with phase := .monitoring none } else w

/-- `turning`, as the tach has it. -/
def turningNow (turning : Bool) : Tach → Bool
  | .fresh rpm => decide (0 < rpm)
  | .stale => turning

/-- A fresh zero while monitoring (pump_stall.rs:158-190). -/
def zeroSample (w : HeaderWatch) (input : PumpInput) (zeroSince : Option Nat) (now : Nat) : HeaderWatch × List StallEvent :=
  if !(w.seenSpinning && input.commanded) then ({ w with phase := .monitoring none }, [])
  else
    let since := zeroSince.getD now
    if pumpStallDetect ≤ now - since then
      let stalls := (w.stalls + 1) % 2 ^ 32
      let held := decide (2 ≤ stalls)
      ({ w with stalls := stalls, phase := if held then .held now false else .kick now false },
        [.stalled input.headerId held])
    else ({ w with phase := .monitoring (some since) }, [])

/-- `seen_spinning`, with this tick's tach (pump_stall.rs:149-153). -/
def noteSpin (w : HeaderWatch) : Tach → HeaderWatch
  | .fresh rpm => { w with seenSpinning := w.seenSpinning || decide (0 < rpm) }
  | .stale => w

/-- The body of the loop over the inputs (pump_stall.rs:147-228). -/
def observe (w : HeaderWatch) (input : PumpInput) (now : Nat) : HeaderWatch × List StallEvent :=
  let w := w.noteSpin input.tach
  match w.phase with
  | .monitoring zeroSince =>
    match input.tach with
    | .fresh (_ + 1) => ({ w with phase := .monitoring none }, [])
    | .fresh 0 => w.zeroSample input zeroSince now
    | .stale => ({ w with phase := .monitoring none }, [])
  | .kick since turning =>
    let turning := turningNow turning input.tach
    if now - since < pumpStallKick then ({ w with phase := .kick since turning }, [])
    else if turning then ({ w with phase := .monitoring none }, [.recovered input.headerId])
    else ({ w with phase := .notTurning now }, [.notTurning input.headerId])
  | .notTurning since =>
    match input.tach with
    | .fresh (_ + 1) => ({ w with phase := .monitoring none }, [.recovered input.headerId])
    | _ => ({ w with phase := .notTurning since }, [])
  | .held since turning => ({ w with phase := .held since (turningNow turning input.tach) }, [])

/-- `release_holds`, of one header. -/
def releaseHold (w : HeaderWatch) : HeaderWatch := if w.phase.isHeld then { w with phase := .monitoring none } else w

end HeaderWatch

/-! ## The watch -/

namespace PumpStallWatch

/-- `headers.iter_mut()`. -/
def mapHeaders (s : PumpStallWatch) (f : String → HeaderWatch → HeaderWatch) : PumpStallWatch :=
  ⟨⟨s.headers.entries.map fun e => ⟨e.1, f e.1 e.2⟩, by
    have hkeys : (s.headers.entries.map fun e => (⟨e.1, f e.1 e.2⟩ : Sigma fun _ : String => HeaderWatch)).keys =
        s.headers.entries.keys := by simp [List.keys, Function.comp_def]
    rw [List.NodupKeys, hkeys]
    exact s.headers.nodupKeys⟩⟩

/-- The watch of a header, as `entry(..).or_default()` finds it. -/
def watchOf (s : PumpStallWatch) (id : String) : HeaderWatch := (s.headers.lookup id).getD default

def observeInput (now : Nat) (acc : PumpStallWatch × List StallEvent) (input : PumpInput) :
    PumpStallWatch × List StallEvent :=
  let (w, events) := (acc.1.watchOf input.headerId).observe input now
  (⟨acc.1.headers.insert input.headerId w⟩, acc.2 ++ events)

/-- `tick` (pump_stall.rs:130). -/
def tick (s : PumpStallWatch) (inputs : List PumpInput) (now : Nat) (paused : Bool) : PumpStallWatch × List StallEvent :=
  let s := s.mapHeaders fun id w => w.enter (inputs.any (·.headerId = id)) paused
  if paused then (s, []) else inputs.foldl (observeInput now) (s, [])

/-- `release_holds` (pump_stall.rs:236). -/
def releaseHolds (s : PumpStallWatch) : PumpStallWatch × List StallEvent :=
  (s.mapHeaders fun _ w => w.releaseHold,
    s.headers.entries.filterMap fun e => if e.2.phase.isHeld then some (.released e.1) else none)

/-- `raised_headers` (pump_stall.rs:251). -/
def raisedHeaders (s : PumpStallWatch) : List String :=
  ((s.headers.entries.filter fun e => !e.2.phase.isMonitoring).map (·.1)).mergeSort (fun a b => decide (a ≤ b))

variable {s : PumpStallWatch} {id : String}

theorem lookup_mapHeaders (f : String → HeaderWatch → HeaderWatch) :
    (s.mapHeaders f).headers.lookup id = (s.headers.lookup id).map (f id) := by
  ext w
  rw [← Option.mem_def, AList.mem_lookup_iff]
  simp only [mapHeaders, List.mem_map, Option.map_eq_some_iff]
  constructor
  · rintro ⟨⟨id', w'⟩, hmem, heq⟩
    obtain ⟨rfl, rfl⟩ := Sigma.mk.inj_iff.mp heq |>.imp_right eq_of_heq
    exact ⟨w', AList.mem_lookup_iff.mpr hmem, rfl⟩
  · rintro ⟨w', hlookup, rfl⟩
    exact ⟨⟨id, w'⟩, AList.mem_lookup_iff.mp hlookup, rfl⟩

/-- A step that leaves the default watch as it is reaches every header, seen or not. -/
theorem watchOf_mapHeaders {f : String → HeaderWatch → HeaderWatch} (hdefault : f id default = default) :
    (s.mapHeaders f).watchOf id = f id (s.watchOf id) := by
  unfold watchOf
  rw [lookup_mapHeaders]
  cases s.headers.lookup id with
  | none => exact hdefault.symm
  | some w => rfl

theorem mem_raisedHeaders : id ∈ s.raisedHeaders ↔ (s.watchOf id).phase.isMonitoring = false := by
  unfold raisedHeaders watchOf
  rw [List.mem_mergeSort, List.mem_map]
  constructor
  · rintro ⟨⟨id', w⟩, hmem, rfl⟩
    obtain ⟨hmem, hraised⟩ := List.mem_filter.mp hmem
    rw [AList.mem_lookup_iff.mpr hmem]
    simpa using hraised
  · intro h
    cases hw : s.headers.lookup id with
    | none =>
      rw [hw] at h
      cases h
    | some w =>
      rw [hw] at h
      exact ⟨⟨id, w⟩, List.mem_filter.mpr ⟨AList.mem_lookup_iff.mp hw, by simpa using h⟩, rfl⟩

end PumpStallWatch

/-! ## A tick, seen from one header -/

/-- What a tick makes of one header, given the header's input if it has one. -/
def HeaderWatch.afterTick (w : HeaderWatch) (input : Option PumpInput) (now : Nat) (paused : Bool) :
    HeaderWatch × List StallEvent :=
  let w := w.enter input.isSome paused
  if paused then (w, [])
  else
    match input with
    | some i => w.observe i now
    | none => (w, [])

/-- The input of a header, among those of a call. -/
def inputOf (id : String) (inputs : List PumpInput) : Option PumpInput := inputs.find? fun i => i.headerId = id

/-- The events of a call that are about one header. -/
def eventsOf (id : String) (events : List StallEvent) : List StallEvent := events.filter fun e => e.headerId = id

@[simp] theorem eventsOf_append (id : String) (es es' : List StallEvent) :
    eventsOf id (es ++ es') = eventsOf id es ++ eventsOf id es' := List.filter_append _ _

theorem inputOf_isSome {id : String} {inputs : List PumpInput} :
    (inputOf id inputs).isSome = inputs.any (·.headerId = id) := by
  unfold inputOf
  rw [Bool.eq_iff_iff, List.find?_isSome, List.any_eq_true]

theorem inputOf_some {id : String} {inputs : List PumpInput} {i : PumpInput} (h : inputOf id inputs = some i) :
    i ∈ inputs ∧ i.headerId = id :=
  ⟨List.mem_of_find?_eq_some h, by simpa using List.find?_some h⟩

namespace HeaderWatch

theorem enter_default (watched paused : Bool) : (default : HeaderWatch).enter watched paused = default := by
  cases watched <;> cases paused <;> rfl

theorem headerId_of_zeroSample {w : HeaderWatch} {input : PumpInput} {zeroSince : Option Nat} {now : Nat} {e : StallEvent}
    (h : e ∈ (w.zeroSample input zeroSince now).2) : e.headerId = input.headerId := by
  unfold zeroSample at h
  dsimp only at h
  split at h
  · cases h
  · split at h
    · rw [List.mem_singleton.mp h]
      rfl
    · cases h

/-- Each event of an input is about its header. -/
theorem headerId_of_observe {w : HeaderWatch} {input : PumpInput} {now : Nat} {e : StallEvent}
    (h : e ∈ (w.observe input now).2) : e.headerId = input.headerId := by
  unfold observe at h
  dsimp only at h
  split at h
  · split at h
    · cases h
    · exact headerId_of_zeroSample h
    · cases h
  · split at h
    · cases h
    · split at h
      · rw [List.mem_singleton.mp h]
        rfl
      · rw [List.mem_singleton.mp h]
        rfl
  · split at h
    · rw [List.mem_singleton.mp h]
      rfl
    · cases h
  · cases h

theorem eventsOf_observe {w : HeaderWatch} {input : PumpInput} {now : Nat} (id : String) :
    eventsOf id (w.observe input now).2 = if input.headerId = id then (w.observe input now).2 else [] := by
  unfold eventsOf
  split
  · next hid => exact List.filter_eq_self.mpr fun e he => by simpa [headerId_of_observe he] using hid
  · next hid => exact List.filter_eq_nil_iff.mpr fun e he => by simpa [headerId_of_observe he] using hid

end HeaderWatch

namespace PumpStallWatch

variable {s : PumpStallWatch} {id : String}

theorem watchOf_insert (k : String) (w : HeaderWatch) :
    (PumpStallWatch.mk (s.headers.insert k w)).watchOf id = if id = k then w else s.watchOf id := by
  unfold watchOf
  split
  · next h =>
    rw [h, AList.lookup_insert]
    rfl
  · next h => rw [AList.lookup_insert_ne h]

/-- The loop over the inputs reaches each header once. -/
theorem foldl_observe {inputs : List PumpInput} (hids : (inputs.map (·.headerId)).Nodup) (now : Nat)
    (s : PumpStallWatch) (es : List StallEvent) (id : String) :
    (inputs.foldl (observeInput now) (s, es)).1.watchOf id =
        (match inputOf id inputs with
          | some i => ((s.watchOf id).observe i now).1
          | none => s.watchOf id) ∧
      eventsOf id (inputs.foldl (observeInput now) (s, es)).2 =
        eventsOf id es ++
          (match inputOf id inputs with
            | some i => ((s.watchOf id).observe i now).2
            | none => []) := by
  induction inputs generalizing s es with
  | nil => exact ⟨rfl, (List.append_nil _).symm⟩
  | cons i inputs ih =>
    obtain ⟨hnew, hids⟩ := List.nodup_cons.mp hids
    rw [List.foldl_cons]
    have hih := ih hids (observeInput now (s, es) i).1 (observeInput now (s, es) i).2
    have hwatch : (observeInput now (s, es) i).1.watchOf id =
        if id = i.headerId then ((s.watchOf i.headerId).observe i now).1 else s.watchOf id := watchOf_insert _ _
    have hevents : eventsOf id (observeInput now (s, es) i).2 =
        eventsOf id es ++ if i.headerId = id then ((s.watchOf i.headerId).observe i now).2 else [] := by
      rw [← HeaderWatch.eventsOf_observe, ← eventsOf_append]
      rfl
    rw [hwatch, hevents] at hih
    by_cases hid : i.headerId = id
    · subst hid
      have hlater : inputOf i.headerId inputs = none :=
        List.find?_eq_none.mpr fun j hj heq => hnew (List.mem_map.mpr ⟨j, hj, by simpa using heq⟩)
      have hhere : inputOf i.headerId (i :: inputs) = some i := List.find?_cons_of_pos (by simp)
      rw [hlater, if_pos rfl, if_pos rfl, List.append_nil] at hih
      rw [hhere]
      exact hih
    · have hlater : inputOf id (i :: inputs) = inputOf id inputs := List.find?_cons_of_neg (by simpa using hid)
      rw [if_neg (Ne.symm hid), if_neg hid, List.append_nil] at hih
      rw [hlater]
      exact hih

/-- **A tick, seen from one header.** -/
theorem watchOf_tick {inputs : List PumpInput} (hids : (inputs.map (·.headerId)).Nodup) (now : Nat) (paused : Bool) :
    (s.tick inputs now paused).1.watchOf id = ((s.watchOf id).afterTick (inputOf id inputs) now paused).1 ∧
      eventsOf id (s.tick inputs now paused).2 = ((s.watchOf id).afterTick (inputOf id inputs) now paused).2 := by
  unfold tick HeaderWatch.afterTick
  have henter : (s.mapHeaders fun id w => w.enter (inputs.any (·.headerId = id)) paused).watchOf id =
      (s.watchOf id).enter (inputOf id inputs).isSome paused := by
    rw [watchOf_mapHeaders (HeaderWatch.enter_default _ _), inputOf_isSome]
  cases paused with
  | true => exact ⟨henter, rfl⟩
  | false =>
    obtain ⟨hwatch, hevents⟩ := foldl_observe hids now
      (s.mapHeaders fun id w => w.enter (inputs.any (·.headerId = id)) false) [] id
    rw [henter] at hwatch hevents
    dsimp only
    rw [if_neg Bool.false_ne_true, if_neg Bool.false_ne_true, hwatch, hevents]
    cases inputOf id inputs <;> exact ⟨rfl, rfl⟩

theorem watchOf_releaseHolds : s.releaseHolds.1.watchOf id = (s.watchOf id).releaseHold :=
  watchOf_mapHeaders rfl

end PumpStallWatch

end ControlOfc.PumpStall
