import ControlOfc.Lib.Machine
import Mathlib.Logic.Function.Basic
/-! # The validation recorder (validation/recorder.rs, validation/store.rs)

`ValidationEngine` holds at most one session, behind the slot's lock. Whoever ends it clones it there, lets go,
and saves the clone behind the save lock, where a copy that still records is saved only if the slot still
has that session recording. A start saves its own first copy behind no lock.

* One event is one critical section of the slot, or one step of a save; a save lands, or fails, when its
  environment lets it.
* What a session only carries (its metadata, what a tick samples, the summary) is a parameter or left out.
-/
namespace ControlOfc.Validation

/-- `FLUSH_EVERY_TICKS` (recorder.rs:156). -/
def flushEveryTicks : Nat := 30

/-- `VALIDATION_MAX_EVENTS` (constants.rs:1171). -/
def maxEvents : Nat := 4096

/-- What a session carries that the recorder does not look into. -/
structure Kinds where
  Metadata : Type
  Reading : Type
  Evidence : Type
  /-- `max_samples_for`, of the session as it starts. -/
  maxSamplesFor : Metadata → Nat
  clampDetail : Evidence → Evidence

inductive SessionState where
  | recording | completed | cancelled | interrupted | error
  deriving DecidableEq, Repr

/-- `ValidationSession::is_terminal`. -/
def SessionState.isTerminal : SessionState → Bool
  | .completed | .cancelled | .interrupted | .error => true
  | .recording => false

structure ValidationEvent where
  elapsedMs : Nat
  unixMs : Nat
  kind : String
  detail : Option String
  memberId : Option String
  deriving DecidableEq, Repr

structure ValidationSample (K : Kinds) where
  elapsedMs : Nat
  unixMs : Nat
  reading : K.Reading

structure ValidationSession (K : Kinds) where
  sessionId : Nat
  autoStarted : Bool
  metadata : K.Metadata
  startedUnixMs : Nat
  state : SessionState
  samples : List (ValidationSample K)
  events : List ValidationEvent
  evidence : List K.Evidence
  sampleLimitReached : Bool
  completedUnixMs : Option Nat
  interruptedReason : Option String
  truncatedAtUnixMs : Option Nat

/-- What is said of something that happened: its kind, detail and member. -/
structure Note where
  kind : String
  detail : Option String
  memberId : Option String
  deriving DecidableEq, Repr

namespace ValidationSession

variable {K : Kinds}

/-- A session as the start handler builds it. -/
def new (sessionId : Nat) (autoStarted : Bool) (metadata : K.Metadata) (startedUnixMs : Nat) : ValidationSession K where
  sessionId := sessionId
  autoStarted := autoStarted
  metadata := metadata
  startedUnixMs := startedUnixMs
  state := .recording
  samples := []
  events := []
  evidence := []
  sampleLimitReached := false
  completedUnixMs := none
  interruptedReason := none
  truncatedAtUnixMs := none

/-- The session with its opening event, as `start` puts it in the slot. -/
def opened (s : ValidationSession K) : ValidationSession K :=
  { s with events := s.events ++ [⟨0, s.startedUnixMs, "session_started", none, none⟩] }

def isRecording (s : ValidationSession K) : Bool := s.state == .recording

def isTerminal (s : ValidationSession K) : Bool := s.state.isTerminal

def event (s : ValidationSession K) (now : Nat) (note : Note) : ValidationEvent :=
  ⟨now - s.startedUnixMs, now, note.kind, note.detail, note.memberId⟩

/-- `push_event_locked`: nothing is appended to a session that is full. -/
def pushEvent (s : ValidationSession K) (now : Nat) (note : Note) : ValidationSession K :=
  if s.events.length ≥ maxEvents then s else { s with events := s.events ++ [s.event now note] }

def attach (s : ValidationSession K) (ev : K.Evidence) : ValidationSession K :=
  { s with evidence := s.evidence ++ [K.clampDetail ev] }

/-- `finalise_in_place`; the analysis and the findings it derives are left out. -/
def finalise (s : ValidationSession K) (now : Nat) (state : SessionState) (reason : Option String) : ValidationSession K :=
  { s with
    events := s.events ++ [s.event now ⟨"session_stopped", reason, none⟩]
    state := state
    completedUnixMs := some now
    interruptedReason := reason }

/-- What a tick appends: its sample, and the events it found by comparing. -/
def sampled (s : ValidationSession K) (now : Nat) (reading : K.Reading) (notes : List Note) : ValidationSession K :=
  notes.foldl (fun s note => s.pushEvent now note)
    { s with samples := s.samples ++ [⟨now - s.startedUnixMs, now, reading⟩] }

/-- The cap's mark on a session that reached it. -/
def capped (s : ValidationSession K) (now : Nat) : ValidationSession K :=
  { s with sampleLimitReached := true }.pushEvent now ⟨"sample_limit_reached", none, none⟩

/-- What `sweep_interrupted` makes of a session left recording. -/
def interrupted (s : ValidationSession K) (now : Nat) (reason : String) : ValidationSession K :=
  { s with
    state := .interrupted
    interruptedReason := some reason
    truncatedAtUnixMs := (s.samples.getLast?.map (·.unixMs)).or (some s.startedUnixMs)
    completedUnixMs := some now }

end ValidationSession

/-! ## Callers -/

/-- Who calls the engine: a client, or the recorder's one task. -/
inductive Caller where
  | client (i : Nat)
  | recorder
  deriving DecidableEq, Repr

inductive StartError where
  | alreadyRecording | openFanMaintenance | persistence
  deriving DecidableEq, Repr

inductive AppendOutcome where
  | recorded | notRecording
  | full (limit : Nat)
  deriving DecidableEq, Repr

/-- What a call answered. -/
inductive Answer (K : Kinds) where
  | started (session : ValidationSession K)
  | refused (error : StartError)
  | finished (session : Option (ValidationSession K))
  | appended (outcome : AppendOutcome)
  | attached (yes : Bool)
  | flushed (yes : Bool)
  | ticked (yes : Bool)

/-- How far `persist` is. -/
inductive PersistPhase where
  | waiting
  /-- It holds the save lock and has yet to look at the slot. -/
  | holding
  | writing
  deriving DecidableEq, Repr

/-- What follows a `persist`. -/
inductive Next (K : Kinds) where
  | answer (a : Answer K)
  /-- `start` goes on to save the session it installed. -/
  | save (started : ValidationSession K)

/-- How far a call is. -/
inductive Pc (K : Kinds) where
  | idle (last : Option (Answer K))
  /-- `start` has seeded its baselines. -/
  | seeded (session : ValidationSession K)
  | persisting (document : ValidationSession K) (phase : PersistPhase) (next : Next K)
  | saving (started : ValidationSession K)
  | rollingBack (sessionId : Nat)
  /-- The tick let go of the slot with this session at its cap. -/
  | capped (sessionId : Nat)

/-- How a session left the recording state. -/
inductive End where
  | stopped | cancelled | stoppedIf | superseded | atCap | rolledBack | died
  deriving DecidableEq, Repr

structure Engine (K : Kinds) where
  slot : Option (ValidationSession K)
  maxSamples : Nat
  ticksSinceFlush : Nat
  saveLock : Option Caller
  documents : Nat → Option (ValidationSession K)
  pcs : Caller → Pc K
  /-- History: the ids given to a start, those installed, how each ended, and what was attached to whom. -/
  issued : List Nat
  installed : List Nat
  ended : List (Nat × End)
  attached : List (Nat × K.Evidence)
  pushed : List (Nat × ValidationEvent)

namespace Engine

variable {K : Kinds}

/-- `ValidationEngine::new`, over an empty directory. -/
def new : Engine K where
  slot := none
  maxSamples := 7200
  ticksSinceFlush := 0
  saveLock := none
  documents := fun _ => none
  pcs := fun _ => .idle none
  issued := []
  installed := []
  ended := []
  attached := []
  pushed := []

def setPc (w : Engine K) (c : Caller) (pc : Pc K) : Engine K := { w with pcs := Function.update w.pcs c pc }

def isIdle (w : Engine K) (c : Caller) : Bool :=
  match w.pcs c with
  | .idle _ => true
  | _ => false

def answer (w : Engine K) (c : Caller) (a : Answer K) : Engine K := w.setPc c (.idle (some a))

/-! ## The slot's critical sections -/

/-- The slot's session is finalised there and its copy is to be saved. -/
def close (w : Engine K) (c : Caller) (session : ValidationSession K) (now : Nat) (state : SessionState) (how : End)
    (next : ValidationSession K → Next K) : Engine K :=
  let done := session.finalise now state none
  { w with slot := some done, ended := w.ended ++ [(session.sessionId, how)] }.setPc c (.persisting done .waiting (next done))

/-- `finish`, for `stop`, `cancel` and the tick at its cap. -/
def finish (w : Engine K) (c : Caller) (now : Nat) (state : SessionState) (how : End)
    (answers : Option (ValidationSession K) → Answer K) : Engine K :=
  match w.slot with
  | none => w.answer c (answers none)
  | some session =>
    if session.isRecording then w.close c session now state how fun done => .answer (answers (some done))
    else w.answer c (answers (some session))

def stopIf (w : Engine K) (c : Caller) (sessionId now : Nat) : Engine K :=
  match w.slot with
  | none => w.answer c (.finished none)
  | some session =>
    if session.sessionId ≠ sessionId ∨ session.isRecording = false then w.answer c (.finished none)
    else w.close c session now .completed .stoppedIf fun done => .answer (.finished (some done))

/-- `start` puts its session in the slot. -/
def install (w : Engine K) (session : ValidationSession K) : Engine K :=
  { w with
    slot := some session.opened
    maxSamples := K.maxSamplesFor session.metadata
    ticksSinceFlush := 0
    installed := w.installed ++ [session.sessionId] }

/-- `start` in the slot; `updating` is whether a firmware update owns the OpenFan controller. -/
def startLocked (w : Engine K) (c : Caller) (session : ValidationSession K) (updating : Bool) (now : Nat) : Engine K :=
  if updating then w.answer c (.refused .openFanMaintenance)
  else
    match w.slot with
    | none => (w.install session).setPc c (.saving session.opened)
    | some current =>
      if current.isRecording then
        if current.autoStarted = false then w.answer c (.refused .alreadyRecording)
        else
          -- The one it supersedes is saved first, out of the slot.
          let superseded := current.finalise now .completed (some "superseded by an operator-started session")
          { w.install session with ended := w.ended ++ [(current.sessionId, End.superseded)] }.setPc c
            (.persisting superseded .waiting (.save session.opened))
      else (w.install session).setPc c (.saving session.opened)

/-- `push_event`. -/
def pushEvent (w : Engine K) (c : Caller) (now : Nat) (note : Note) : Engine K :=
  match w.slot with
  | none => w.answer c (.appended .notRecording)
  | some session =>
    if session.isRecording = false then w.answer c (.appended .notRecording)
    else if session.events.length ≥ maxEvents then w.answer c (.appended (.full maxEvents))
    else { w with slot := some (session.pushEvent now note) }.answer c (.appended .recorded)

/-- `push_event_for`: it answers `true` for a full session too. -/
def pushEventFor (w : Engine K) (c : Caller) (sessionId now : Nat) (note : Note) : Engine K :=
  match w.slot with
  | none => w.answer c (.attached false)
  | some session =>
    if session.sessionId ≠ sessionId ∨ session.isRecording = false then w.answer c (.attached false)
    else
      { w with
        slot := some (session.pushEvent now note)
        pushed := if session.events.length ≥ maxEvents then w.pushed else w.pushed ++ [(sessionId, session.event now note)]
      }.answer c (.attached true)

/-- `attach_evidence_for`. -/
def attachEvidenceFor (w : Engine K) (c : Caller) (sessionId : Nat) (ev : K.Evidence) : Engine K :=
  match w.slot with
  | none => w.answer c (.attached false)
  | some session =>
    if session.sessionId ≠ sessionId ∨ session.isRecording = false then w.answer c (.attached false)
    else
      { w with
        slot := some (session.attach ev), attached := w.attached ++ [(sessionId, K.clampDetail ev)]
      }.answer c (.attached true)

/-- `flush_recording`. -/
def flushRecording (w : Engine K) (c : Caller) : Engine K :=
  match w.slot with
  | none => w.answer c (.flushed false)
  | some session =>
    if session.isRecording then w.setPc c (.persisting session .waiting (.answer (.flushed true)))
    else w.answer c (.flushed false)

/-- A tick in the slot, its observations taken before. -/
def tick (w : Engine K) (now : Nat) (reading : K.Reading) (notes : List Note) : Engine K :=
  match w.slot with
  | none => w.answer .recorder (.ticked false)
  | some session =>
    if session.isRecording = false then w.answer .recorder (.ticked false)
    else
      let session := session.sampled now reading notes
      let flushes := w.ticksSinceFlush + 1 ≥ flushEveryTicks
      let w := { w with ticksSinceFlush := if flushes then 0 else w.ticksSinceFlush + 1 }
      if session.samples.length ≥ w.maxSamples then
        { w with slot := some (session.capped now) }.setPc .recorder (.capped session.sessionId)
      else if flushes then
        { w with slot := some session }.setPc .recorder (.persisting session .waiting (.answer (.ticked true)))
      else { w with slot := some session }.answer .recorder (.ticked true)

/-- `rollback`. -/
def rollback (w : Engine K) (c : Caller) (sessionId : Nat) : Engine K :=
  match w.slot with
  | none => w.answer c (.refused .persistence)
  | some session =>
    if session.sessionId = sessionId then
      { w with
        slot := none
        ended := if session.isRecording then w.ended ++ [(sessionId, End.rolledBack)] else w.ended
      }.answer c (.refused .persistence)
    else w.answer c (.refused .persistence)

/-! ## Saves -/

/-- What a `persist` that is done goes on to. -/
def proceed (w : Engine K) (c : Caller) : Next K → Engine K
  | .answer a => w.answer c a
  | .save started => w.setPc c (.saving started)

/-- The slot still holds this session, and it is not finalised. -/
def stillOurs (w : Engine K) (document : ValidationSession K) : Bool :=
  match w.slot with
  | none => false
  | some current => decide (current.sessionId = document.sessionId) && !current.isTerminal

/-- The next step of a call outside the slot; `landed` is what becomes of a write. -/
def advance (w : Engine K) (c : Caller) (landed : Bool) : Engine K :=
  match w.pcs c with
  | .persisting document .waiting next =>
    match w.saveLock with
    | none => { w with saveLock := some c }.setPc c (.persisting document .holding next)
    | some _ => w
  | .persisting document .holding next =>
    if document.isTerminal || w.stillOurs document then w.setPc c (.persisting document .writing next)
    else { w with saveLock := none }.proceed c next
  | .persisting document .writing next =>
    { w with
      documents := if landed then Function.update w.documents document.sessionId (some document) else w.documents
      saveLock := none
    }.proceed c next
  | .saving started =>
    if landed then
      { w with documents := Function.update w.documents started.sessionId (some started) }.answer c (.started started)
    else w.setPc c (.rollingBack started.sessionId)
  | .rollingBack sessionId => w.rollback c sessionId
  | .idle _ | .seeded _ | .capped _ => w

/-! ## The daemon -/

/-- `sweep_interrupted`, over the documents `repaired` can read and rewrite. -/
def sweepInterrupted (documents : Nat → Option (ValidationSession K)) (repaired : Nat → Bool) (now : Nat) (reason : String) :
    Nat → Option (ValidationSession K) := fun id =>
  (documents id).map fun session => if session.isRecording && repaired id then session.interrupted now reason else session

/-- The daemon dies, whatever was under way, and boots. -/
def reboot (w : Engine K) (repaired : Nat → Bool) (now : Nat) : Engine K :=
  { new with
    documents := sweepInterrupted w.documents repaired now "daemon_restart"
    issued := w.issued
    installed := w.installed
    ended := match w.slot with
      | some session => if session.isRecording then w.ended ++ [(session.sessionId, End.died)] else w.ended
      | none => w.ended
    attached := w.attached
    pushed := w.pushed }

inductive Event (K : Kinds) where
  /-- A client calls `start` with a session id of its own. -/
  | start (c : Caller) (sessionId : Nat) (autoStarted : Bool) (metadata : K.Metadata) (startedUnixMs : Nat)
  | startLocked (c : Caller) (updating : Bool) (now : Nat)
  | stop (c : Caller) (now : Nat)
  | cancel (c : Caller) (now : Nat)
  | stopIf (c : Caller) (sessionId now : Nat)
  | pushEvent (c : Caller) (now : Nat) (note : Note)
  | pushEventFor (c : Caller) (sessionId now : Nat) (note : Note)
  | attachEvidenceFor (c : Caller) (sessionId : Nat) (ev : K.Evidence)
  | flushRecording (c : Caller)
  | tick (now : Nat) (reading : K.Reading) (notes : List Note)
  /-- The tick that reached the cap finishes. -/
  | finishCapped (now : Nat)
  | advance (c : Caller) (landed : Bool)
  | reboot (repaired : Nat → Bool) (now : Nat)

def step (w : Engine K) : Event K → Engine K
  | .start c sessionId autoStarted metadata startedUnixMs =>
    if w.isIdle c = true ∧ sessionId ∉ w.issued then
      { w with issued := w.issued ++ [sessionId] }.setPc c (.seeded (.new sessionId autoStarted metadata startedUnixMs))
    else w
  | .startLocked c updating now =>
    match w.pcs c with
    | .seeded session => w.startLocked c session updating now
    | _ => w
  | .stop c now => if w.isIdle c then w.finish c now .completed .stopped .finished else w
  | .cancel c now => if w.isIdle c then w.finish c now .cancelled .cancelled .finished else w
  | .stopIf c sessionId now => if w.isIdle c then w.stopIf c sessionId now else w
  | .pushEvent c now note => if w.isIdle c then w.pushEvent c now note else w
  | .pushEventFor c sessionId now note => if w.isIdle c then w.pushEventFor c sessionId now note else w
  | .attachEvidenceFor c sessionId ev => if w.isIdle c then w.attachEvidenceFor c sessionId ev else w
  | .flushRecording c => if w.isIdle c then w.flushRecording c else w
  | .tick now reading notes => if w.isIdle .recorder then w.tick now reading notes else w
  | .finishCapped now =>
    match w.pcs .recorder with
    | .capped _ => w.finish .recorder now .completed .atCap fun _ => .ticked true
    | _ => w
  | .advance c landed => w.advance c landed
  | .reboot repaired now => w.reboot repaired now

end Engine

end ControlOfc.Validation
