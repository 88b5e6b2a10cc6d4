import ControlOfc.Lib.Machine
import Mathlib.Data.List.Sort
import Mathlib.Logic.Function.Basic
/-! # Walks of the search directories (io_gate.rs, profile_store.rs)

One operation at a time is in a search directory. A walk that finds one there waits for it, never past its own
deadline, and goes past the directory once the holder is `hung_after` old, unless the holder marked its claim
strict; it does so for root's directories, once its open has returned.

* `Dirs.look` — one look of `Gate::claim` at the holder.
* `Dirs.advance` — the next step of `read_by_id_until` or `list_until`; what a filesystem step answers, and when,
  is its environment's.
-/
namespace ControlOfc.ProfileStore.Search

/-- `PROFILE_DIR_HUNG_AFTER` (constants.rs:1571), in milliseconds. -/
def profileDirHungAfter : Nat := 1000

/-- `MAX_PROFILES_LISTED_PER_DIR` (constants.rs:1583). -/
def maxProfilesListedPerDir : Nat := 256

abbrev Dir := Nat

structure ProfileSummary where
  id : String
  name : String
  description : String
  deriving DecidableEq, Repr

/-- `Holder` (io_gate.rs:28), and whose claim it is. -/
structure Holder where
  since : Nat
  strict : Bool
  call : Nat
  deriving DecidableEq, Repr

/-- What became of a directory in a walk. -/
inductive Visit where
  /-- It was not there. -/
  | absent
  /-- It is no directory registered by its real path. -/
  | refused
  /-- The walk went past it: an earlier operation had it too long. -/
  | hung
  /-- It was opened, and holds no readable copy. -/
  | noCopy
  | found
  /-- It was opened and could not be enumerated any more. -/
  | vanished
  /-- Its enumeration ended, having given `seen`, last first; the files of `tried` were read, in order. -/
  | readToEnd (seen tried : List String)
  /-- Time ran out in it. -/
  | cut
  deriving DecidableEq, Repr

/-- What a walk returns. -/
inductive Result where
  | found (dir : Dir) (content : String)
  | nothing
  | listed (profiles : List ProfileSummary)
  | outOfTime
  deriving DecidableEq, Repr

inductive Want where
  | byId
  | list
  deriving DecidableEq, Repr

/-- How far a walk is with the directory ahead. -/
inductive Phase where
  | entering
  | claiming
  | waiting (limit : Nat)
  | opening
  /-- Its open returned, and it is root's: the claim is marked next. -/
  | marking
  | reading
  | scanning
  | enumerating (names : List String)
  | listing (names : List String) (outOfTime : Bool)
  | fetching (names : List String) (outOfTime : Bool)
  /-- The claim is dropped next; then the walk goes on, or returns. -/
  | leaving (visit : Visit) (result : Option Result)
  | done (result : Result)
  deriving DecidableEq, Repr

/-- One call of `read_by_id_until` or `list_until`. -/
structure Call where
  want : Want
  deadline : Nat
  dirs : List Dir
  visited : List (Dir × Visit)
  ahead : List Dir
  phase : Phase
  out : List ProfileSummary
  /-- The names the enumeration of the directory ahead has given, last first. -/
  seen : List String
  /-- Those whose files have been read. -/
  tried : List String
  deriving DecidableEq, Repr

namespace Call

def new (want : Want) (deadline : Nat) (dirs : List Dir) : Call := ⟨want, deadline, dirs, [], dirs, .entering, [], [], []⟩

/-- The directory ahead is done with, and the walk goes on or returns. -/
def passed (c : Call) (visit : Visit) (result : Option Result) : Call :=
  match c.ahead with
  | [] => c
  | d :: rest =>
    { c with
      visited := c.visited ++ [(d, visit)], ahead := rest,
      phase := match result with
        | none => .entering
        | some r => .done r }

/-- What a walk with nothing ahead returns. -/
def finished (c : Call) : Result :=
  match c.want with
  | .byId => .nothing
  | .list => .listed c.out

/-- Time ran out: `list_until` answers what it has, unless it must not go past the directory. -/
def expired (c : Call) (strict : Bool) : Result :=
  match c.want with
  | .byId => .outOfTime
  | .list => if strict then .outOfTime else .listed c.out

end Call

/-- What a filesystem step answers. -/
inductive Answer where
  | opened | notFound | refused
  | content (text : String)
  | noCopy
  | entry (name : Option String)
  | ended
  | profile (summary : ProfileSummary)
  deriving DecidableEq, Repr

structure Dirs where
  now : Nat
  held : Dir → Option Holder
  calls : Nat → Option Call

namespace Dirs

def start (now : Nat) : Dirs := ⟨now, fun _ => none, fun _ => none⟩

def setCall (w : Dirs) (i : Nat) (c : Call) : Dirs := { w with calls := Function.update w.calls i (some c) }

def setHeld (w : Dirs) (d : Dir) (h : Option Holder) : Dirs := { w with held := Function.update w.held d h }

/-- One look of `Gate::claim` at the holder of `d`. -/
def look (w : Dirs) (i : Nat) (c : Call) (d : Dir) : Dirs :=
  match w.held d with
  | none => (w.setHeld d (some ⟨w.now, false, i⟩)).setCall i { c with phase := .opening }
  | some holder =>
    let hungAt := holder.since + profileDirHungAfter
    if holder.strict = false ∧ hungAt ≤ w.now then w.setCall i (c.passed .hung none)
    else if c.deadline ≤ w.now then w.setCall i { c with phase := .done (c.expired holder.strict) }
    else w.setCall i { c with phase := .waiting (if holder.strict then c.deadline else min hungAt c.deadline) }

/-- `make_strict`. -/
def makeStrict (w : Dirs) (d : Dir) : Dirs :=
  match w.held d with
  | none => w
  | some holder => w.setHeld d (some { holder with strict := true })

/-- The first names in sorted order, with one more. -/
def keepSmallest (names : List String) (name : String) : List String :=
  (names.orderedInsert (· ≤ ·) name).take maxProfilesListedPerDir

/-- What follows the open of a directory. -/
def afterOpen (c : Call) : Phase :=
  match c.want with
  | .byId => .reading
  | .list => .scanning

/-- The next step of call `i`, with the directory `d` ahead; `root` says whose a directory is. -/
def advance (root : Dir → Bool) (w : Dirs) (i : Nat) (c : Call) (d : Dir) (a : Answer) : Dirs :=
  let leave (visit : Visit) (result : Option Result) := w.setCall i { c with phase := .leaving visit result }
  match c.phase with
  | .entering =>
    if c.deadline ≤ w.now then w.setCall i { c with phase := .done (c.expired false) }
    else w.setCall i { c with phase := .claiming }
  -- A woken waiter looks again.
  | .claiming | .waiting _ => w.look i c d
  | .opening =>
    match a with
    | .opened => w.setCall i { c with phase := if root d then .marking else afterOpen c }
    | .notFound => leave .absent none
    | _ => leave .refused none
  | .marking => (w.makeStrict d).setCall i { c with phase := afterOpen c }
  | .reading =>
    match a with
    | .content text => leave .found (some (.found d text))
    | _ => leave .noCopy none
  | .scanning =>
    match a with
    | .opened => w.setCall i { c with phase := .enumerating [], seen := [], tried := [] }
    | _ => leave .vanished none
  | .enumerating names =>
    match a with
    | .ended => w.setCall i { c with phase := .listing names false }
    | .entry name =>
      if c.deadline ≤ w.now then
        if root d then leave .cut (some .outOfTime) else w.setCall i { c with phase := .listing names true }
      else
        match name with
        | some name => w.setCall i { c with phase := .enumerating (keepSmallest names name), seen := name :: c.seen }
        | none => w
    | _ => w
  | .listing [] outOfTime =>
    if outOfTime then leave .cut (some (.listed c.out)) else leave (.readToEnd c.seen c.tried) none
  | .listing (name :: names) outOfTime =>
    if c.deadline ≤ w.now then leave .cut (some (c.expired (root d)))
    else w.setCall i { c with phase := .fetching (name :: names) outOfTime }
  | .fetching names outOfTime =>
    let c := { c with phase := .listing names.tail outOfTime, tried := c.tried ++ names.take 1 }
    match a with
    | .profile summary =>
      w.setCall i { c with out := if summary.id ∈ c.out.map (·.id) then c.out else c.out ++ [summary] }
    | _ => w.setCall i c
  | .leaving visit result => (w.setHeld d none).setCall i (c.passed visit result)
  | .done _ => w

inductive Event where
  | elapse (by_ : Nat)
  /-- A call of its own number starts. -/
  | call (i : Nat) (want : Want) (deadline : Nat)
  | advance (i : Nat) (a : Answer)
  deriving DecidableEq, Repr

/-- All calls walk the one list `dirs`. -/
def step (root : Dir → Bool) (dirs : List Dir) (w : Dirs) : Event → Dirs
  | .elapse d => { w with now := w.now + d }
  | .call i want deadline =>
    match w.calls i with
    | none => w.setCall i (.new want deadline dirs)
    | some _ => w
  | .advance i a =>
    match w.calls i with
    | none => w
    | some c =>
      match c.ahead, c.phase with
      | d :: _, _ => w.advance root i c d a
      | [], .entering => w.setCall i { c with phase := .done c.finished }
      | [], _ => w

end Dirs

end ControlOfc.ProfileStore.Search
