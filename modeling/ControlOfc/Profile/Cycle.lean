import ControlOfc.Lib.Digraph
import ControlOfc.Lib.KMap
import ControlOfc.Profile.Model
import Mathlib.Algebra.BigOperators.Group.Finset.Basic
import Mathlib.Algebra.Order.BigOperators.Group.Finset
import Mathlib.Algebra.GroupWithZero.Nat
/-! # The cycle search (profile.rs:1355-1388)

`graph_first_cycle` keeps its own stack, so the model is the same frame machine run on fuel.
`graphFirstCycle_none` is what its callers rely on: when it reports nothing, every key of the map has
been finished in an order that puts each node after its successors, hence lies on no cycle. The fuel
never runs out (`graphSearch_ne_unfinished`), and a node it reports lies on a cycle
(`graphFirstCycle_some`).
-/
namespace ControlOfc.Profile
open Digraph

/-- `adj.get(&node).unwrap_or(&[])`. -/
def neighbors (adj : KMap String (List String)) (node : String) : List String := (adj.get? node).getD []

/-- The locals of `graph_first_cycle` during one search; the stack's top is its head. -/
structure Dfs where
  done : List String
  onPath : List String
  stack : List (String × Nat)
  deriving DecidableEq, Repr

inductive Search where
  | cycle (node : String)
  | finished (done : List String)
  | unfinished
  deriving DecidableEq, Repr

/-- The `while let` loop (profile.rs:1367-1385). -/
def graphSearch (adj : KMap String (List String)) : Nat → Dfs → Search
  | _, ⟨done, _, []⟩ => .finished done
  | 0, _ => .unfinished
  | fuel + 1, ⟨done, onPath, (node, idx) :: rest⟩ =>
    match (neighbors adj node)[idx]? with
    | some next =>
      if onPath.contains next then .cycle next
      else if done.contains next then graphSearch adj fuel ⟨done, onPath, (node, idx + 1) :: rest⟩
      else graphSearch adj fuel ⟨done, next :: onPath, (next, 0) :: (node, idx + 1) :: rest⟩
    | none => graphSearch adj fuel ⟨node :: done, onPath.erase node, rest⟩

/-- The `for start in adj.keys()` loop. -/
def searchKeys (adj : KMap String (List String)) (fuel : Nat) : List String → List String → Search
  | [], done => .finished done
  | start :: keys, done =>
    if done.contains start then searchKeys adj fuel keys done
    else
      match graphSearch adj fuel ⟨done, [start], [(start, 0)]⟩ with
      | .finished done => searchKeys adj fuel keys done
      | r => r

/-- Every node of the graph: the keys and what they point to. -/
def graphNodes (keys : List String) (adj : KMap String (List String)) : List String :=
  (keys ++ keys.flatMap (neighbors adj)).dedup

/-- One iteration to enter each node, and one for each of its neighbours. -/
def searchFuel (keys : List String) (adj : KMap String (List String)) : Nat :=
  ((graphNodes keys adj).map fun n => (neighbors adj n).length + 1).sum

/-- `graph_first_cycle` (profile.rs:1358). -/
def graphFirstCycle (keys : List String) (adj : KMap String (List String)) : Option String :=
  match searchKeys adj (searchFuel keys adj) keys [] with
  | .cycle node => some node
  | .finished _ | .unfinished => none

/-! ## What a finished search has established -/

/-- Each frame has scanned its neighbours up to its index: they are done, or the frame above. -/
def Scanned (adj : KMap String (List String)) (done : List String) : Option String → List (String × Nat) → Prop
  | _, [] => True
  | above, (node, idx) :: rest =>
    (∀ b ∈ (neighbors adj node).take idx, b ∈ done ∨ above = some b) ∧ Scanned adj done (some node) rest

structure Dfs.Inv (adj : KMap String (List String)) (s : Dfs) : Prop where
  onPath : s.onPath = s.stack.map Prod.fst
  nodup : s.onPath.Nodup
  fresh : ∀ n ∈ s.onPath, n ∉ s.done
  finished : Finished (neighbors adj) s.done
  scanned : Scanned adj s.done none s.stack

variable {adj : KMap String (List String)}

theorem Scanned.mono {done done' : List String} {above above' : Option String}
    (h : ∀ b, b ∈ done ∨ above = some b → b ∈ done' ∨ above' = some b) (hd : done ⊆ done') :
    ∀ {stack : List (String × Nat)}, Scanned adj done above stack → Scanned adj done' above' stack
  | [], _ => trivial
  | (_, _) :: _, hs => ⟨fun b hb => h b (hs.1 b hb), hs.2.mono (fun _ => Or.imp_left fun hb => hd hb) hd⟩

/-- Scanning one more neighbour of the top frame. -/
theorem Scanned.advance {done : List String} {above : Option String} {node next : String} {idx : Nat}
    {rest : List (String × Nat)} (hs : Scanned adj done none ((node, idx) :: rest))
    (hn : (neighbors adj node)[idx]? = some next) (hnext : next ∈ done ∨ above = some next) :
    Scanned adj done above ((node, idx + 1) :: rest) := by
  refine ⟨fun b hb => ?_, hs.2⟩
  rw [List.take_add_one, hn] at hb
  rcases List.mem_append.mp hb with hb | hb
  · exact .inl ((hs.1 b hb).resolve_right (by simp))
  · rw [List.mem_singleton.mp hb]
    exact hnext

/-- A popped node is done: the stack below it has lost the frame it waited for. -/
theorem Dfs.Inv.pop {done onPath : List String} {node : String} {idx : Nat} {rest : List (String × Nat)}
    (hI : Dfs.Inv adj ⟨done, onPath, (node, idx) :: rest⟩) (hn : (neighbors adj node)[idx]? = none) :
    Dfs.Inv adj ⟨node :: done, onPath.erase node, rest⟩ := by
  obtain ⟨honPath, hnodup, hfresh, hfin, hscan⟩ := hI
  dsimp only [List.map_cons] at honPath hnodup hfresh hfin hscan
  subst honPath
  have hnode : node ∉ rest.map Prod.fst := (List.nodup_cons.mp hnodup).1
  have hall : ∀ b ∈ neighbors adj node, b ∈ done := by
    intro b hb
    rw [← List.take_of_length_le (List.getElem?_eq_none_iff.mp hn)] at hb
    exact (hscan.1 b hb).resolve_right (by simp)
  refine ⟨by simp, ?_, ?_, ⟨hall, hfresh node (by simp), hfin⟩, ?_⟩
  · simpa using (List.nodup_cons.mp hnodup).2
  · intro n hmem
    have hmem' : n ∈ rest.map Prod.fst := by simpa using hmem
    refine List.not_mem_cons_of_ne_of_not_mem ?_ (hfresh n (List.mem_cons_of_mem _ hmem'))
    rintro rfl
    exact hnode hmem'
  · refine hscan.2.mono (fun b hb => .inl ?_) (List.subset_cons_self _ _)
    rcases hb with hb | hb
    · exact List.mem_cons_of_mem _ hb
    · rw [Option.some.inj hb]
      exact List.mem_cons_self

theorem Dfs.Inv.push {done onPath : List String} {node next : String} {idx : Nat} {rest : List (String × Nat)}
    (hI : Dfs.Inv adj ⟨done, onPath, (node, idx) :: rest⟩) (hn : (neighbors adj node)[idx]? = some next)
    (hpath : next ∉ onPath) (hdone : next ∉ done) :
    Dfs.Inv adj ⟨done, next :: onPath, (next, 0) :: (node, idx + 1) :: rest⟩ := by
  obtain ⟨honPath, hnodup, hfresh, hfin, hscan⟩ := hI
  refine ⟨by simpa using honPath, List.nodup_cons.mpr ⟨hpath, hnodup⟩, ?_, hfin, ?_⟩
  · intro n hmem
    rcases List.mem_cons.mp hmem with rfl | hmem
    · exact hdone
    · exact hfresh n hmem
  · exact ⟨by simp, hscan.advance hn (.inr rfl)⟩

/-- The search ends with every node of its path done, and the done nodes in finishing order. -/
theorem graphSearch_finished {done' : List String} :
    ∀ (fuel : Nat) (s : Dfs), s.Inv adj → graphSearch adj fuel s = .finished done' →
      Finished (neighbors adj) done' ∧ s.done ⊆ done' ∧ s.onPath ⊆ done'
  | fuel, ⟨done, onPath, []⟩, hI, h => by
    unfold graphSearch at h
    cases h
    refine ⟨hI.finished, List.Subset.refl _, ?_⟩
    rw [show onPath = [] from hI.onPath]
    exact List.nil_subset _
  | 0, ⟨_, _, _ :: _⟩, _, h => by
    unfold graphSearch at h
    cases h
  | fuel + 1, ⟨done, onPath, (node, idx) :: rest⟩, hI, h => by
    unfold graphSearch at h
    cases hn : (neighbors adj node)[idx]? with
    | none =>
      rw [hn] at h
      obtain ⟨hf, hd, hp⟩ := graphSearch_finished fuel _ (hI.pop hn) h
      refine ⟨hf, fun x hx => hd (List.mem_cons_of_mem _ hx), fun x hx => ?_⟩
      by_cases hxn : x = node
      · rw [hxn]
        exact hd List.mem_cons_self
      · exact hp ((List.mem_erase_of_ne hxn).mpr hx)
    | some next =>
      rw [hn] at h
      dsimp only at h
      split at h
      · cases h
      · next hpath =>
        rw [List.contains_iff_mem] at hpath
        split at h
        · next hdone =>
          rw [List.contains_iff_mem] at hdone
          exact graphSearch_finished fuel ⟨done, onPath, (node, idx + 1) :: rest⟩
            ⟨hI.onPath, hI.nodup, hI.fresh, hI.finished, hI.scanned.advance hn (.inl hdone)⟩ h
        · next hdone =>
          rw [List.contains_iff_mem] at hdone
          obtain ⟨hf, hd, hp⟩ := graphSearch_finished fuel _ (hI.push hn hpath hdone) h
          exact ⟨hf, hd, fun x hx => hp (List.mem_cons_of_mem _ hx)⟩

theorem Dfs.inv_start {done : List String} {start : String} (hf : Finished (neighbors adj) done)
    (hs : start ∉ done) : Dfs.Inv adj ⟨done, [start], [(start, 0)]⟩ :=
  ⟨rfl, List.nodup_singleton _, by simpa using hs, hf, by simp [Scanned]⟩

theorem searchKeys_finished {fuel : Nat} {done' : List String} (keys done : List String)
    (hf : Finished (neighbors adj) done) (h : searchKeys adj fuel keys done = .finished done') :
    Finished (neighbors adj) done' ∧ done ⊆ done' ∧ keys ⊆ done' := by
  induction keys generalizing done with
  | nil =>
    unfold searchKeys at h
    cases h
    exact ⟨hf, List.Subset.refl _, List.nil_subset _⟩
  | cons start keys ih =>
    unfold searchKeys at h
    split at h
    · next hs =>
      obtain ⟨hf', hd, hk⟩ := ih done hf h
      exact ⟨hf', hd, List.cons_subset.mpr ⟨hd (List.contains_iff_mem.mp hs), hk⟩⟩
    · next hs =>
      rw [List.contains_iff_mem] at hs
      split at h
      · next done₁ h₁ =>
        obtain ⟨hf₁, hd₁, hp₁⟩ := graphSearch_finished _ _ (Dfs.inv_start hf hs) h₁
        obtain ⟨hf', hd, hk⟩ := ih done₁ hf₁ h
        exact ⟨hf', fun x hx => hd (hd₁ hx), List.cons_subset.mpr ⟨hd (hp₁ (by simp)), hk⟩⟩
      · next hne => exact absurd h (hne done')

/-! ## The fuel suffices

What is left to do: the unscanned neighbours on the stack, and every node not yet entered.
-/

def frameWork (adj : KMap String (List String)) (frame : String × Nat) : Nat :=
  (neighbors adj frame.1).length - frame.2 + 1

def unentered (nodes : Finset String) (done onPath : List String) : Finset String :=
  nodes.filter fun n => n ∉ done ∧ n ∉ onPath

def Dfs.work (adj : KMap String (List String)) (nodes : Finset String) (s : Dfs) : Nat :=
  ∑ n ∈ unentered nodes s.done s.onPath, frameWork adj (n, 0) + (s.stack.map (frameWork adj)).sum

theorem unentered_push {nodes : Finset String} {done onPath : List String} {next : String} :
    unentered nodes done (next :: onPath) = (unentered nodes done onPath).erase next := by
  ext n
  simp only [unentered, Finset.mem_filter, Finset.mem_erase, List.mem_cons, not_or]
  constructor
  · rintro ⟨hn, hd, hne, hp⟩
    exact ⟨hne, hn, hd, hp⟩
  · rintro ⟨hne, hn, hd, hp⟩
    exact ⟨hn, hd, hne, hp⟩

theorem unentered_pop {nodes : Finset String} {done onPath : List String} {node : String} :
    unentered nodes (node :: done) (onPath.erase node) ⊆ unentered nodes done onPath := by
  intro n hn
  simp only [unentered, Finset.mem_filter, List.mem_cons, not_or] at hn ⊢
  obtain ⟨hn, ⟨hne, hd⟩, hp⟩ := hn
  exact ⟨hn, hd, fun h => hp ((List.mem_erase_of_ne hne).mpr h)⟩

theorem graphSearch_ne_unfinished {nodes : Finset String}
    (hclosed : ∀ n ∈ nodes, ∀ b ∈ neighbors adj n, b ∈ nodes) :
    ∀ (fuel : Nat) (s : Dfs), (∀ f ∈ s.stack, f.1 ∈ nodes) → s.work adj nodes ≤ fuel →
      graphSearch adj fuel s ≠ .unfinished
  | fuel, ⟨_, _, []⟩, _, _ => by
    unfold graphSearch
    exact Search.noConfusion
  | 0, ⟨_, _, f :: rest⟩, _, hw => by
    have hpos : 0 < frameWork adj f := Nat.succ_pos _
    simp only [Dfs.work, List.map_cons, List.sum_cons] at hw
    omega
  | fuel + 1, ⟨done, onPath, (node, idx) :: rest⟩, hs, hw => by
    have hrest : ∀ f ∈ rest, f.1 ∈ nodes := fun f hf => hs f (List.mem_cons_of_mem _ hf)
    have hnode : node ∈ nodes := hs (node, idx) List.mem_cons_self
    unfold graphSearch
    cases hn : (neighbors adj node)[idx]? with
    | none =>
      have hsub : ∑ n ∈ unentered nodes (node :: done) (onPath.erase node), frameWork adj (n, 0) ≤
          ∑ n ∈ unentered nodes done onPath, frameWork adj (n, 0) :=
        Finset.sum_le_sum_of_subset unentered_pop
      refine graphSearch_ne_unfinished hclosed fuel _ hrest ?_
      simp only [Dfs.work, List.map_cons, List.sum_cons, frameWork] at hw hsub ⊢
      omega
    | some next =>
      have hidx : idx < (neighbors adj node).length := (List.getElem?_eq_some_iff.mp hn).1
      dsimp only
      split
      · exact Search.noConfusion
      · next hpath =>
        rw [List.contains_iff_mem] at hpath
        split
        · refine graphSearch_ne_unfinished hclosed fuel _ (List.forall_mem_cons.mpr ⟨hnode, hrest⟩) ?_
          simp only [Dfs.work, unentered, List.map_cons, List.sum_cons, frameWork] at hw ⊢
          omega
        · next hdone =>
          rw [List.contains_iff_mem] at hdone
          have hnext : next ∈ nodes := hclosed node hnode next (List.mem_of_getElem? hn)
          have hmem : next ∈ unentered nodes done onPath :=
            Finset.mem_filter.mpr ⟨hnext, hdone, hpath⟩
          have hsum := Finset.add_sum_erase _ (fun n => frameWork adj (n, 0)) hmem
          refine graphSearch_ne_unfinished hclosed fuel _
            (List.forall_mem_cons.mpr ⟨hnext, List.forall_mem_cons.mpr ⟨hnode, hrest⟩⟩) ?_
          simp only [Dfs.work, unentered_push, List.map_cons, List.sum_cons,
            frameWork] at hw hsum ⊢
          omega

theorem neighbors_mem_graphNodes {keys : List String} (hkeys : ∀ n, (adj.get? n).isSome → n ∈ keys) :
    ∀ n ∈ (graphNodes keys adj).toFinset, ∀ b ∈ neighbors adj n, b ∈ (graphNodes keys adj).toFinset := by
  intro n _ b hb
  have hn : n ∈ keys := by
    refine hkeys n ?_
    cases h : adj.get? n with
    | none => simp [neighbors, h] at hb
    | some _ => rfl
  rw [List.mem_toFinset, graphNodes, List.mem_dedup]
  exact List.mem_append_right _ (List.mem_flatMap.mpr ⟨n, hn, hb⟩)

/-- A search from a fresh start has at most `searchFuel` to do. -/
theorem work_start_le {keys done : List String} {start : String} (hstart : start ∈ keys) (hs : start ∉ done) :
    Dfs.work adj (graphNodes keys adj).toFinset ⟨done, [start], [(start, 0)]⟩ ≤ searchFuel keys adj := by
  have hnodup : (graphNodes keys adj).Nodup := List.nodup_dedup _
  have hfuel : searchFuel keys adj = ∑ n ∈ (graphNodes keys adj).toFinset, frameWork adj (n, 0) := by
    rw [List.sum_toFinset _ hnodup]
    rfl
  have hmem : start ∈ unentered (graphNodes keys adj).toFinset done [] := by
    refine Finset.mem_filter.mpr ⟨?_, hs, List.not_mem_nil⟩
    rw [List.mem_toFinset, graphNodes, List.mem_dedup]
    exact List.mem_append_left _ hstart
  have hsum := Finset.add_sum_erase _ (fun n => frameWork adj (n, 0)) hmem
  have hle : ∑ n ∈ unentered (graphNodes keys adj).toFinset done [], frameWork adj (n, 0) ≤
      ∑ n ∈ (graphNodes keys adj).toFinset, frameWork adj (n, 0) :=
    Finset.sum_le_sum_of_subset (Finset.filter_subset _ _)
  simp only [Dfs.work, unentered_push, List.map_cons, List.map_nil, List.sum_cons, List.sum_nil]
  omega

theorem searchKeys_ne_unfinished {all : List String} (hkeys : ∀ n, (adj.get? n).isSome → n ∈ all)
    (keys done : List String) (hsub : keys ⊆ all) : searchKeys adj (searchFuel all adj) keys done ≠ .unfinished := by
  induction keys generalizing done with
  | nil => exact Search.noConfusion
  | cons start keys ih =>
    obtain ⟨hstart, hrest⟩ := List.cons_subset.mp hsub
    unfold searchKeys
    split
    · exact ih done hrest
    · next hs =>
      rw [List.contains_iff_mem] at hs
      have hne := graphSearch_ne_unfinished (neighbors_mem_graphNodes hkeys) (searchFuel all adj)
        ⟨done, [start], [(start, 0)]⟩
        (by
          intro f hf
          rw [List.mem_singleton.mp hf, List.mem_toFinset, graphNodes, List.mem_dedup]
          exact List.mem_append_left _ hstart)
        (work_start_le hstart hs)
      split
      · next done₁ _ => exact ih done₁ hrest
      · next hr => exact hne

/-- **No report means no cycle**: the keys have all been finished, each after all it points to. -/
theorem graphFirstCycle_none {keys : List String} (hkeys : ∀ n, (adj.get? n).isSome → n ∈ keys)
    (h : graphFirstCycle keys adj = none) : ∃ done, Finished (neighbors adj) done ∧ keys ⊆ done := by
  unfold graphFirstCycle at h
  cases hk : searchKeys adj (searchFuel keys adj) keys [] with
  | cycle node => simp [hk] at h
  | unfinished => exact absurd hk (searchKeys_ne_unfinished hkeys keys [] (List.Subset.refl _))
  | finished done =>
    obtain ⟨hf, -, hsub⟩ := searchKeys_finished keys [] trivial hk
    exact ⟨done, hf, hsub⟩

/-! ## What a reported node is

The path is one of the graph's, so a neighbour found on it closes a cycle.
-/

/-- `b` is listed as a neighbour of `a`. -/
abbrev Edge (adj : KMap String (List String)) (a b : String) : Prop := b ∈ neighbors adj a

theorem graphSearch_cycle {found : String} :
    ∀ (fuel : Nat) (s : Dfs), s.Inv adj → s.onPath.IsChain (fun x y => Edge adj y x) →
      graphSearch adj fuel s = .cycle found → Relation.TransGen (Edge adj) found found
  | fuel, ⟨done, onPath, []⟩, _, _, h => by
    unfold graphSearch at h
    cases h
  | 0, ⟨_, _, _ :: _⟩, _, _, h => by
    unfold graphSearch at h
    cases h
  | fuel + 1, ⟨done, onPath, (node, idx) :: rest⟩, hI, hpath, h => by
    have honPath : onPath = node :: rest.map Prod.fst := hI.onPath
    unfold graphSearch at h
    cases hn : (neighbors adj node)[idx]? with
    | none =>
      rw [hn] at h
      refine graphSearch_cycle fuel _ (hI.pop hn) ?_ h
      dsimp only at hpath ⊢
      rw [honPath] at hpath ⊢
      rw [List.erase_cons_head]
      exact hpath.tail
    | some next =>
      rw [hn] at h
      have hedge : Edge adj node next := List.mem_of_getElem? hn
      dsimp only at h hpath
      split at h
      · next hon =>
        obtain rfl := Search.cycle.inj h
        rw [List.contains_iff_mem, honPath] at hon
        rw [honPath] at hpath
        exact Relation.TransGen.tail' (reaches_head hpath hon) hedge
      · next hon =>
        rw [List.contains_iff_mem] at hon
        split at h
        · next hdone =>
          rw [List.contains_iff_mem] at hdone
          exact graphSearch_cycle fuel ⟨done, onPath, (node, idx + 1) :: rest⟩
            ⟨hI.onPath, hI.nodup, hI.fresh, hI.finished, hI.scanned.advance hn (.inl hdone)⟩ hpath h
        · next hdone =>
          rw [List.contains_iff_mem] at hdone
          refine graphSearch_cycle fuel _ (hI.push hn hon hdone) ?_ h
          rw [honPath] at hpath ⊢
          exact List.isChain_cons_cons.mpr ⟨hedge, hpath⟩

theorem searchKeys_cycle {fuel : Nat} {found : String} (keys done : List String) (hf : Finished (neighbors adj) done)
    (h : searchKeys adj fuel keys done = .cycle found) : Relation.TransGen (Edge adj) found found := by
  induction keys generalizing done with
  | nil => cases h
  | cons start keys ih =>
    unfold searchKeys at h
    split at h
    · exact ih done hf h
    · next hs =>
      rw [List.contains_iff_mem] at hs
      split at h
      · next done₁ h₁ => exact ih done₁ (graphSearch_finished _ _ (Dfs.inv_start hf hs) h₁).1 h
      · exact graphSearch_cycle _ _ (Dfs.inv_start hf hs) (List.isChain_singleton _) h

/-- **A reported node lies on a cycle.** -/
theorem graphFirstCycle_some {keys : List String} {found : String} (h : graphFirstCycle keys adj = some found) :
    Relation.TransGen (Edge adj) found found := by
  unfold graphFirstCycle at h
  cases hk : searchKeys adj (searchFuel keys adj) keys [] with
  | cycle node =>
    rw [hk] at h
    obtain rfl := Option.some.inj h
    exact searchKeys_cycle keys [] trivial hk
  | finished _ => simp [hk] at h
  | unfinished => simp [hk] at h

/-- A node with a neighbour is a key. -/
theorem isSome_of_edge {a b : String} (h : Edge adj a b) : (adj.get? a).isSome := by
  cases hget : adj.get? a with
  | none => simp [Edge, neighbors, hget] at h
  | some _ => rfl

theorem graphFirstCycle_eq_none_iff {keys : List String} (hkeys : ∀ n, (adj.get? n).isSome → n ∈ keys) :
    graphFirstCycle keys adj = none ↔ ∀ n, ¬ Relation.TransGen (Edge adj) n n := by
  constructor
  · intro h n hcycle
    obtain ⟨done, hf, hdone⟩ := graphFirstCycle_none hkeys h
    obtain ⟨next, hedge, -⟩ := Relation.TransGen.head'_iff.mp hcycle
    exact hf.acyclic (hdone (hkeys n (isSome_of_edge hedge))) hcycle
  · intro hacyclic
    cases h : graphFirstCycle keys adj with
    | none => rfl
    | some found => exact absurd (graphFirstCycle_some h) (hacyclic found)

end ControlOfc.Profile
