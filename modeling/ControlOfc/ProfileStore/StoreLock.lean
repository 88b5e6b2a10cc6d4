import ControlOfc.Lib.Prog
import Mathlib.Algebra.GroupWithZero.Nat
/-! # The profile store under its lock (api/handlers/profile.rs, profile_store.rs:390-460)

Activation, deactivation, create, replace and delete each run their checks and their writes in a task of its
own that holds the store lock (`under_store_lock`), so a dropped request leaves no step half done. A profile is
read for activation before the lock is taken.

An id is one `is_safe_profile_id` accepts, and its file is `{id}.json`. A write goes through a scratch file in
the same directory, which an activation by path can name too.
-/
namespace ControlOfc.ProfileStore
open Prog

/-- A name in the store directory: `{id}.json`, or `.{id}.json.tmp.{pid}.{n}` (atomic_io.rs:185). -/
inductive FileName where
  | profile (id : String)
  | scratch (id : String) (n : Nat)
  deriving DecidableEq, Repr

/-- What the store's code uses of a document. -/
structure Document where
  id : String
  length : Nat
  deriving DecidableEq, Repr

/-- Where a profile was read from. -/
inductive Place where
  | store (name : FileName)
  | elsewhere (path : String)
  deriving DecidableEq, Repr

/-- What the unlocked read of an activation found. -/
structure Found where
  place : Place
  document : Document
  deriving DecidableEq, Repr

/-- `DaemonState` (daemon_state.rs:38). -/
structure DaemonState where
  version : Nat
  activeProfileId : Option String
  activeProfilePath : Option Place
  deriving DecidableEq, Repr

/-- `MAX_STORED_PROFILES` (constants.rs:1605). -/
def maxStoredProfiles : Nat := 256

/-- `MAX_STORE_BYTES` (constants.rs:1611). -/
def maxStoreBytes : Nat := 64 * 1024 * 1024

/-- `MAX_CONFIG_BYTES` (atomic_io.rs:210). -/
def maxConfigBytes : Nat := 4 * 1024 * 1024

/-! ## The directory -/

abbrev Files := List (FileName × Document)

namespace Files

def has (files : Files) (name : FileName) : Bool := files.any (·.1 = name)

def drop (files : Files) (name : FileName) : Files := files.filter (·.1 ≠ name)

def put (files : Files) (name : FileName) (document : Document) : Files := (name, document) :: files.drop name

/-- The `*.json` entries. -/
def profiles (files : Files) : Files := files.filter fun f =>
  match f.1 with
  | .profile _ => true
  | .scratch _ _ => false

def bytes (files : Files) : Nat := (files.map (·.2.length)).sum

end Files

/-- `store_usage` (profile_store.rs:411) of the entries it could list, less the sizes it could not read. -/
def storeUsage (files : Files) (id : String) (unlisted unsized : List FileName) : Nat × Nat :=
  let entries := files.profiles.filter (·.1 ∉ unlisted)
  (entries.length, Files.bytes ((Files.drop entries (.profile id)).filter (·.1 ∉ unsized)))

/-! ## The world -/

/-- A create, a replace or a delete that succeeded. -/
inductive Done where
  | created (id : String)
  | replaced (id : String)
  | deleted (id : String)
  deriving DecidableEq, Repr

structure World where
  files : Files
  /-- The next number of `tmp_path_for`. -/
  scratches : Nat
  active : Option Document
  /-- Where the active profile was read from. -/
  activeFrom : Option Place
  saved : DaemonState
  /-- Whether the save of the latest swap succeeded. -/
  swapSaved : Bool
  history : List Done
  /-- A create or a replace could not read the whole store directory. -/
  misread : Bool
  /-- What activations waiting for the lock have read. -/
  pending : List Found
  deriving DecidableEq, Repr

/-- The state that names the profile in memory. -/
def World.naming (w : World) : DaemonState := ⟨1, w.active.map (·.id), w.activeFrom⟩

/-! ## The critical sections -/

inductive Removed where
  | removed
  | notFound
  | failed
  deriving DecidableEq, Repr

inductive Effect where
  | stillThere (name : FileName)
  | swap (found : Option Found)
  | saveState (state : DaemonState)
  | existsInStore (id : String)
  | storeUsage (id : String)
  /-- The steps of `write_via_tmp` before the rename, and the rename. -/
  | writeScratch (id : String) (document : Document)
  | rename (id : String) (n : Nat) (document : Document) (overwrite : Bool)
  | isActive (id : String)
  | removeFile (id : String)
  deriving DecidableEq, Repr

abbrev Answer : Effect → Type
  | .stillThere _ | .saveState _ | .existsInStore _ | .rename _ _ _ _ | .isActive _ => Bool
  | .swap _ => Unit
  | .storeUsage _ => Nat × Nat
  | .writeScratch _ _ => Option Nat
  | .removeFile _ => Removed

/-- How a task's critical section ends. -/
inductive Outcome where
  | activated
  | gone
  | deactivated
  | stored
  | alreadyExists
  | full
  | tooLarge
  | inUse
  | deleted
  | notFound
  | io
  deriving DecidableEq, Repr

abbrev Call := Prog Effect Answer Outcome

def perform (e : Effect) : Prog Effect Answer (Answer e) := ask e

/-- `commit_activation` (profile.rs:248). -/
def commitActivation (found : Found) : Call := do
  perform (.swap (some found))
  let _ ← perform (.saveState ⟨1, some found.document.id, some found.place⟩)
  return .activated

/-- The locked part of `activate_profile_handler` (profile.rs:200-213). -/
def activate (found : Found) : Call :=
  match found.place with
  | .store name => do
    if ← perform (.stillThere name) then commitActivation found else return .gone
  | .elsewhere _ => commitActivation found

/-- `deactivate_and_persist` (profile.rs:358). -/
def deactivateAndPersist : Call := do
  perform (.swap none)
  let _ ← perform (.saveState ⟨1, none, none⟩)
  return .deactivated

/-- `save_raw` (profile_store.rs:371). -/
def saveRaw (id : String) (document : Document) (overwrite : Bool) : Call := do
  match ← perform (.writeScratch id document) with
  | none => return .io
  | some n => if ← perform (.rename id n document overwrite) then return .stored else return .io

/-- `store` (profile_store.rs:393). -/
def store (id : String) (document : Document) (overwrite : Bool) : Call := do
  let present ← perform (.existsInStore id)
  if present && !overwrite then return .alreadyExists
  let usage ← perform (.storeUsage id)
  if !present && decide (maxStoredProfiles ≤ usage.1) then return .full
  if maxStoreBytes < usage.2 + document.length then return .tooLarge
  saveRaw id document overwrite

/-- The locked part of `delete_profile_handler`, with `delete` (profile.rs:809, profile_store.rs:442). -/
def delete (id : String) : Call := do
  if ← perform (.isActive id) then return .inUse
  match ← perform (.removeFile id) with
  | .removed => return .deleted
  | .notFound => return .notFound
  | .failed => return .io

/-- What the filesystem does with a step: a failed write may leave its scratch file, a listing may miss entries
and sizes. -/
inductive Chance where
  | fine
  | fails (left : Bool)
  | misses (unlisted unsized : List FileName)
  deriving DecidableEq, Repr

namespace World

def exec : (e : Effect) → Chance → World → Answer e × World
  | .stillThere name, c, w => (w.files.has name && decide (c = .fine), w)
  | .swap found, _, w =>
    ((), { w with active := found.map (·.document), activeFrom := found.map (·.place), swapSaved := false })
  | .saveState state, c, w =>
    match c with
    | .fine => (true, { w with saved := state, swapSaved := true })
    | _ => (false, w)
  | .existsInStore id, c, w =>
    match c with
    | .fine => (w.files.has (.profile id), w)
    | _ => (false, { w with misread := true })
  | .storeUsage id, c, w =>
    match c with
    | .fine => (ProfileStore.storeUsage w.files id [] [], w)
    | .misses unlisted unsized => (ProfileStore.storeUsage w.files id unlisted unsized, { w with misread := true })
    | .fails _ => ((0, 0), { w with misread := true })
  | .writeScratch id document, c, w =>
    let written := { w with scratches := w.scratches + 1, files := w.files.put (.scratch id w.scratches) document }
    match c with
    | .fine => (some w.scratches, written)
    | .fails true => (none, written)
    | _ => (none, { w with scratches := w.scratches + 1 })
  | .rename id n document overwrite, c, w =>
    match c with
    | .fine =>
      (true, { w with
        files := (w.files.drop (.scratch id n)).put (.profile id) document
        history := w.history ++ [if overwrite then .replaced id else .created id] })
    | .fails true => (false, w)
    | _ => (false, { w with files := w.files.drop (.scratch id n) })
  | .isActive id, _, w => (decide (w.active.map (·.id) = some id), w)
  | .removeFile id, c, w =>
    match c with
    | .fine =>
      if w.files.has (.profile id) then
        (.removed, { w with files := w.files.drop (.profile id), history := w.history ++ [.deleted id] })
      else (.notFound, w)
    | _ => (.failed, w)

end World

/-! ## The system -/

inductive Task where
  | activate (found : Found)
  | deactivate
  | store (id : String) (document : Document) (overwrite : Bool)
  | delete (id : String)
  deriving DecidableEq, Repr

/-- What requests do without the lock: read a profile to activate, or be dropped. -/
inductive Beside where
  | read (found : Found)
  | dropped (found : Found)
  deriving DecidableEq, Repr

/-- Whether a read may find this: in the store, what its file holds. -/
def World.finds (w : World) (found : Found) : Bool :=
  match found.place with
  | .store name => decide ((name, found.document) ∈ w.files)
  | .elsewhere _ => true

def World.beside (w : World) : Beside → World
  | .read found => if w.finds found then { w with pending := found :: w.pending } else w
  | .dropped found => { w with pending := w.pending.erase found }

/-- A document is stored under its own id and within the read cap (profile.rs:563-671). -/
def rules : Locked.Rules World Task Effect Answer Outcome Beside Chance where
  exec := World.exec
  start
    | .activate found, w =>
      if found ∈ w.pending then some (activate found, { w with pending := w.pending.erase found }) else none
    | .deactivate, w => some (deactivateAndPersist, w)
    | .store id document overwrite, w =>
      if document.id = id ∧ document.length ≤ maxConfigBytes then some (store id document overwrite, w) else none
    | .delete id, w => some (delete id, w)
  finish _ _ w := w
  move m w := w.beside m
  died _ w := w

abbrev System := Locked World Task Effect Answer Outcome

inductive Event where
  | start (j : Task)
  | eff (c : Chance)
  | finish
  | beside (m : Beside)
  deriving DecidableEq, Repr

def Event.move : Event → Locked.Move Task Beside Chance
  | .start j => .start j
  | .eff c => .eff c
  | .finish => .finish
  | .beside m => .move m

def step (s : System) (e : Event) : System := Locked.step rules s e.move

/-- What the daemon finds at boot: every stored document under its own id, and a resumed profile's file. -/
structure Boot where
  files : Files
  named : ∀ f ∈ files, f.1 = .profile f.2.id
  active : Option Document
  activeFrom : Option Place
  resumed : ∀ name, activeFrom = some (.store name) →
    files.has name = true ∧ active.map (FileName.profile ·.id) = some name
  saved : DaemonState

def Boot.start (boot : Boot) : System where
  running := none
  world :=
    { files := boot.files, scratches := 0, active := boot.active, activeFrom := boot.activeFrom, saved := boot.saved
      swapSaved := false, history := [], misread := false, pending := [] }

end ControlOfc.ProfileStore
