import Mathlib.Data.List.Nodup
import Mathlib.Tactic.Common
import Mathlib.Algebra.Group.Nat.Defs
/-! # What a reconnect attempt may open (serial/adoption.rs:200-405)

A survey holds the node the controller was adopted on, the nodes of the previous observation and the nodes
that have appeared since, each with its probe history. `plan` reads one observation and advances all three.
-/
namespace ControlOfc.Serial

/-- `RECONNECT_NEW_NODE_WINDOW` (adoption.rs:237), in nanoseconds. -/
def newNodeWindow : Nat := 60 * 1000000000

/-- `RECONNECT_NEW_NODE_MIN_OPENS` (adoption.rs:242). -/
def newNodeMinOpens : Nat := 4

/-- `RECONNECT_NEW_NODE_SLOW_RETRY` (adoption.rs:251), in nanoseconds. -/
def newNodeSlowRetry : Nat := 300 * 1000000000

/-- `NodeId` (adoption.rs:224). -/
structure NodeId where
  dev : Nat
  ino : Nat
  deriving DecidableEq, Repr

/-- A path and the node behind it. -/
abbrev Entry := String × NodeId

instance entry_lawful : LawfulBEq Entry := inferInstance

/-- What `stat` makes of a path. -/
abbrev Observe := String → Option NodeId

/-- `FreshNode` (adoption.rs:299). -/
structure FreshNode where
  node : Entry
  firstSeen : Nat
  lastOpen : Nat
  opens : Nat
  deriving DecidableEq, Repr

/-- `due` (adoption.rs:307). -/
def FreshNode.due (f : FreshNode) (now : Nat) : Prop :=
  f.opens < newNodeMinOpens ∨ now - f.firstSeen < newNodeWindow ∨ newNodeSlowRetry ≤ now - f.lastOpen

instance (f : FreshNode) (now : Nat) : Decidable (f.due now) := inferInstanceAs (Decidable (_ ∨ _))

/-- `ReconnectSurvey` (adoption.rs:288). -/
structure ReconnectSurvey where
  configured : Option String
  /-- `none` once the adopted node has been seen missing or re-created. -/
  adopted : Option Entry
  baseline : List Entry
  fresh : List FreshNode
  deriving DecidableEq, Repr

/-- `observed` (adoption.rs:400). -/
def observed (paths : List String) (observe : Observe) : List Entry :=
  paths.filterMap fun p => (observe p).map (p, ·)

/-- One `plan` call. -/
structure Call where
  candidates : List String
  observe : Observe
  now : Nat

/-- The candidates that resolve. -/
def Call.observed (c : Call) : List Entry := Serial.observed c.candidates c.observe

/-- `push`: `out` and `ids` together (adoption.rs:346). -/
def push (out : List Entry) (e : Entry) : List Entry :=
  if (∀ q ∈ out, q.1 ≠ e.1) ∧ ∀ q ∈ out, q.2 ≠ e.2 then out ++ [e] else out

/-- `fresh.iter().find`. -/
def findNode (e : Entry) (fresh : List FreshNode) : Option FreshNode := fresh.find? (·.node = e)

/-- The node `find` finds is opened: `opens` saturates. -/
def openNode (e : Entry) (now : Nat) : List FreshNode → List FreshNode
  | [] => []
  | f :: rest =>
    if f.node = e then { f with opens := min (f.opens + 1) (2 ^ 32 - 1), lastOpen := now } :: rest
    else f :: openNode e now rest

namespace ReconnectSurvey

/-- `new` (adoption.rs:320). -/
def new (configured : Option String) (adopted : String) (seed : List String) (observe : Observe) : ReconnectSurvey where
  configured := configured
  adopted := (observe adopted).map (adopted, ·)
  baseline := Serial.observed seed observe
  fresh := []

/-- A new node joins `fresh` (adoption.rs:380-387). -/
def notice (baseline : List Entry) (now : Nat) (fresh : List FreshNode) (e : Entry) : List FreshNode :=
  if e ∉ baseline ∧ findNode e fresh = none then fresh ++ [⟨e, now, now, 0⟩] else fresh

/-- One entry of the observation (adoption.rs:379-395). -/
def visit (baseline : List Entry) (now : Nat) (acc : List FreshNode × List Entry) (e : Entry) :
    List FreshNode × List Entry :=
  match findNode e (notice baseline now acc.1 e) with
  | none => (notice baseline now acc.1 e, acc.2)
  | some f =>
    if f.opens = 0 ∨ f.due now then (openNode e now (notice baseline now acc.1 e), push acc.2 e)
    else (notice baseline now acc.1 e, acc.2)

/-- The configured port, when it resolves. -/
def planConfigured (s : ReconnectSurvey) (observe : Observe) : List Entry :=
  match s.configured with
  | none => []
  | some c => match observe c with
    | none => []
    | some id => push [] (c, id)

/-- The adopted node, while it is the node it was. -/
def planAdopted (s : ReconnectSurvey) (observe : Observe) (out : List Entry) : Option Entry × List Entry :=
  match s.adopted with
  | none => (none, out)
  | some (path, id) => if observe path = some id then (some (path, id), push out (path, id)) else (none, out)

/-- `plan` (adoption.rs:339). -/
def plan (s : ReconnectSurvey) (c : Call) : ReconnectSurvey × List String :=
  let adopted := s.planAdopted c.observe (s.planConfigured c.observe)
  -- a node that left, or came back as a different device, is forgotten
  let kept := s.fresh.filter (·.node ∈ c.observed)
  let visited := c.observed.foldl (visit s.baseline c.now) (kept, adopted.2)
  (⟨s.configured, adopted.1, c.observed, visited.1⟩, visited.2.map Prod.fst)

/-- Plan after plan. -/
def run (s : ReconnectSurvey) (calls : List Call) : ReconnectSurvey := calls.foldl (fun s c => (s.plan c).1) s

end ReconnectSurvey

/-! ## The lists of a plan -/

@[simp] theorem mem_observed {paths : List String} {observe : Observe} {e : Entry} :
    e ∈ observed paths observe ↔ e.1 ∈ paths ∧ observe e.1 = some e.2 := by
  obtain ⟨p, id⟩ := e
  unfold observed
  rw [List.mem_filterMap]
  constructor
  · rintro ⟨q, hq, h⟩
    obtain ⟨id', hid, heq⟩ := Option.map_eq_some_iff.mp h
    cases heq
    exact ⟨hq, hid⟩
  · rintro ⟨hp, hid⟩
    exact ⟨p, hp, by rw [hid]; rfl⟩

theorem nodup_observed {paths : List String} (h : paths.Nodup) (observe : Observe) : (observed paths observe).Nodup := by
  refine h.filterMap ?_
  intro p q e hp hq
  obtain ⟨a, -, rfl⟩ := Option.map_eq_some_iff.mp hp
  obtain ⟨b, -, hb⟩ := Option.map_eq_some_iff.mp hq
  exact (congrArg Prod.fst hb).symm

/-- Distinct paths of distinct nodes, each resolving to its own. -/
structure WellPlanned (observe : Observe) (out : List Entry) : Prop where
  paths : (out.map Prod.fst).Nodup
  ids : (out.map Prod.snd).Nodup
  resolve : ∀ e ∈ out, observe e.1 = some e.2

theorem mem_push {out : List Entry} {e q : Entry} (h : q ∈ push out e) : q ∈ out ∨ q = e := by
  unfold push at h
  split at h
  · simpa using h
  · exact .inl h

theorem push_grows (out : List Entry) (e : Entry) : out <+: push out e := by
  unfold push
  split
  · exact List.prefix_append _ _
  · exact List.prefix_refl _

/-- A pair is left out for another of its path or node only. -/
theorem mem_push_self (out : List Entry) (e : Entry) : e ∈ push out e ∨ ∃ q ∈ out, q.1 = e.1 ∨ q.2 = e.2 := by
  unfold push
  split
  · exact .inl (by simp)
  · next h =>
    right
    by_contra hnone
    refine h ⟨fun q hq heq => hnone ⟨q, hq, .inl heq⟩, fun q hq heq => hnone ⟨q, hq, .inr heq⟩⟩

theorem WellPlanned.push {observe : Observe} {out : List Entry} (h : WellPlanned observe out) {e : Entry}
    (he : observe e.1 = some e.2) : WellPlanned observe (Serial.push out e) := by
  unfold Serial.push
  split
  · next hnew =>
    refine ⟨?_, ?_, ?_⟩
    · rw [List.map_append, List.nodup_append]
      refine ⟨h.paths, List.nodup_singleton _, ?_⟩
      intro p hp q hq
      obtain ⟨a, ha, rfl⟩ := List.mem_map.mp hp
      cases List.mem_singleton.mp hq
      exact hnew.1 a ha
    · rw [List.map_append, List.nodup_append]
      refine ⟨h.ids, List.nodup_singleton _, ?_⟩
      intro p hp q hq
      obtain ⟨a, ha, rfl⟩ := List.mem_map.mp hp
      cases List.mem_singleton.mp hq
      exact hnew.2 a ha
    · intro q hq
      rcases List.mem_append.mp hq with hq | hq
      · exact h.resolve q hq
      · cases List.mem_singleton.mp hq
        exact he
  · exact h

end ControlOfc.Serial
