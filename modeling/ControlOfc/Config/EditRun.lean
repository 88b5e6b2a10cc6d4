import ControlOfc.Config.Runtime
import ControlOfc.Lib.Machine
/-! # Edits of runtime.toml under `config_write` (api/handlers/config.rs:1116-1158, runtime_config.rs:484-590)

`runtime_for_update` takes `config_write` and loads the file in a blocking task; the setter changes the
config, saves it in another blocking task, puts it in force and lets go of the lock. A request that is
dropped lets go at once, and the blocking task it had started runs on (`late`). The file is replaced by one
rename, so a save either lands whole or changes nothing. Another program may break the file at any time.

A load that finds the file missing starts from what the daemon runs on; one that finds it unreadable or
malformed links it aside and first writes that in its place. The copies set aside are not in the state.
-/
namespace ControlOfc.Config

/-- Why the file gives no config. -/
inductive Fault where
  | missing
  | unreadable
  | malformed
  deriving DecidableEq, Repr

/-- `runtime.toml`. -/
inductive FileState where
  | faulty (f : Fault)
  | holds (cfg : RuntimeConfig)

/-- How far the edit that holds `config_write` is. -/
inductive Turn where
  | free
  /-- `load_for_update` is in its task. -/
  | reading (e : Edit)
  /-- The same; the broken file is linked aside, its replacement is being written. -/
  | replacing (e : Edit) (cfg : RuntimeConfig)
  /-- The load is done and the handler has not gone on yet. -/
  | loaded (e : Edit) (cfg : RuntimeConfig)
  /-- `save_to` is in its task. -/
  | saving (e : Edit) (cfg : RuntimeConfig)
  /-- The save has landed and the handler has not gone on yet. -/
  | saved (e : Edit) (cfg : RuntimeConfig)

/-- A blocking task whose request was dropped. -/
inductive Task where
  | reading (live : Live)
  | replacing (cfg : RuntimeConfig)
  | saving (cfg : RuntimeConfig)

/-- The file and the daemon. For the statements: `answered`, what each successful edit asked for, in order;
`landed`, the same of the saves that reached the file since it last broke; and what the file and the live
copies would be without the edit under way. -/
structure Daemon where
  file : FileState
  live : Live
  turn : Turn
  late : List Task
  answered : List (Key × Value)
  landed : List (Key × Value)
  outside : FileState
  before : Live

/-- What can happen next; a `Bool` says whether the file system did its part. -/
inductive Move where
  | request (e : Edit)
  | reads (linked : Bool)
  | replaces (ok : Bool)
  | changes
  | saves (ok : Bool)
  | commits
  | dropped
  | lateRuns (i : Nat) (ok : Bool)
  | breaks (f : Fault)

namespace Daemon

/-- The roles and devices are the file's at start; the other settings are overlaid on the admin's. -/
def boot (file : FileState) (searchDirs : List String) (exitFloorPct coolantLimitC : Nat) : Daemon :=
  let cfg := match file with
    | .holds cfg => cfg
    | .faulty _ => .default
  let live := ⟨searchDirs, .ofSaved cfg.headerRoles, coolingDevices cfg.coolingDevices, exitFloorPct, coolantLimitC⟩
  ⟨file, live, .free, [], [], [], file, live⟩

/-- One task whose request is gone takes its next step. -/
def lateStep (d : Daemon) (i : Nat) (ok : Bool) : Daemon :=
  match d.late[i]? with
  | none => d
  | some (.reading live) =>
    match d.file with
    | .holds _ | .faulty .missing => { d with late := d.late.eraseIdx i }
    | .faulty _ =>
      if ok then { d with late := d.late.set i (.replacing (carrying live)) } else { d with late := d.late.eraseIdx i }
  | some (.replacing cfg) | some (.saving cfg) =>
    if ok then { d with file := .holds cfg, late := d.late.eraseIdx i } else { d with late := d.late.eraseIdx i }

def step (d : Daemon) : Move → Daemon
  | .request e =>
    match d.turn with
    | .free => { d with turn := .reading e, outside := d.file, before := d.live }
    | _ => d
  | .reads linked =>
    match d.turn with
    | .reading e =>
      match d.file with
      | .holds cfg => { d with turn := .loaded e cfg }
      | .faulty .missing => { d with turn := .loaded e (carrying d.live) }
      | .faulty _ => if linked then { d with turn := .replacing e (carrying d.live) } else { d with turn := .free }
    | _ => d
  | .replaces ok =>
    match d.turn with
    | .replacing e cfg =>
      if ok then { d with file := .holds cfg, turn := .loaded e cfg } else { d with turn := .free }
    | _ => d
  | .changes =>
    match d.turn with
    | .loaded e cfg =>
      match e.apply d.live cfg with
      | .ok cfg' => { d with turn := .saving e cfg' }
      | .error _ => { d with turn := .free }
    | _ => d
  | .saves ok =>
    match d.turn with
    | .saving e cfg =>
      if ok then
        { d with file := .holds cfg, turn := .saved e cfg, landed := d.landed ++ [(e.key, e.asks d.live)] }
      else { d with turn := .free }
    | _ => d
  | .commits =>
    match d.turn with
    | .saved e cfg =>
      { d with live := e.commit cfg d.live, turn := .free, answered := d.answered ++ [(e.key, e.asks d.live)] }
    | _ => d
  | .dropped =>
    match d.turn with
    | .free => d
    | .reading _ => { d with turn := .free, late := d.late ++ [.reading d.live] }
    | .replacing _ cfg => { d with turn := .free, late := d.late ++ [.replacing cfg] }
    | .saving _ cfg => { d with turn := .free, late := d.late ++ [.saving cfg] }
    | .loaded .. | .saved .. => { d with turn := .free }
  | .lateRuns i ok => d.lateStep i ok
  | .breaks f => { d with file := .faulty f, outside := .faulty f, landed := [] }

/-- The last value logged under a key. -/
def lastOf (log : List (Key × Value)) (k : Key) : Option Value := (KMap.ofList log).get? k

theorem lastOf_concat (log : List (Key × Value)) (k k' : Key) (v : Value) :
    lastOf (log ++ [(k, v)]) k' = if k' = k then some v else lastOf log k' := by
  rw [lastOf, KMap.ofList, List.foldl_append]
  exact KMap.get?_insert _ k k' v

/-- The move ends the edit under way without success: it is refused, or its load or save fails. -/
def Fails (d : Daemon) (m : Move) : Prop :=
  d.turn ≠ .free ∧ (d.step m).turn = .free ∧ m ≠ .commits ∧ m ≠ .dropped

end Daemon

end ControlOfc.Config
