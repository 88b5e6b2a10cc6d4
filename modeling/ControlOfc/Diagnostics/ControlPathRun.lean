import ControlOfc.Diagnostics.ControlPath
import ControlOfc.Diagnostics.RestoreTruth
/-! # A discovery on a rig (api/discovery.rs:641-1228)

The windows of a run are read off its transcript: what was read between the announcement of a window, at the duty last
written, and the next write or announcement. Every observation of a cycle comes from such windows.

Main theorem `discovery_reports_rig`.
-/
namespace ControlOfc.Diagnostics.Discovery
open Asking Question

/-! ## Windows of a transcript -/

abbrev DiscoveryEvent := Event DiscoverySample News

/-- Ends a window. -/
def marks : DiscoveryEvent → Bool
  | ⟨.write _, _⟩ => true
  | ⟨.publish _, _⟩ => true
  | _ => false

def sampled : DiscoveryEvent → Option DiscoverySample
  | ⟨.read, answer⟩ => answer
  | _ => none

def quiet (e : DiscoveryEvent) : Prop := marks e = false ∧ sampled e = none

/-- Announced at the duty last written, and not ended yet. -/
def OpenWindow (phase : Phase) (pct : Nat) (samples : List DiscoverySample) (said : List DiscoveryEvent) : Prop :=
  ∃ before cycle maxMs during, said = before ++ ⟨publish (.step phase cycle pct maxMs), ()⟩ :: during ∧
    (writes before).getLast? = some pct ∧ (∀ e ∈ during, marks e = false) ∧ during.filterMap sampled = samples

def IsWindow (phase : Phase) (pct : Nat) (samples : List DiscoverySample) (said : List DiscoveryEvent) : Prop :=
  ∃ upto e, OpenWindow phase pct samples upto ∧ marks e = true ∧ upto ++ [e] <+: said

section Windows

variable {phase : Phase} {pct : Nat} {samples : List DiscoverySample} {said said' : List DiscoveryEvent}

theorem OpenWindow.announced (hlast : (writes said).getLast? = some pct) (cycle maxMs : Nat) :
    OpenWindow phase pct [] (said ++ [⟨publish (.step phase cycle pct maxMs), ()⟩]) :=
  ⟨said, cycle, maxMs, [], rfl, hlast, fun _ he => absurd he List.not_mem_nil, rfl⟩

theorem OpenWindow.adds (h : OpenWindow phase pct samples said) {l : List DiscoveryEvent} (hl : ∀ e ∈ l, marks e = false) :
    OpenWindow phase pct (samples ++ l.filterMap sampled) (said ++ l) := by
  obtain ⟨before, cycle, maxMs, during, rfl, hlast, hduring, rfl⟩ := h
  refine ⟨before, cycle, maxMs, during ++ l, by simp, hlast, fun e he => ?_, List.filterMap_append⟩
  exact (List.mem_append.mp he).elim (hduring e) (hl e)

theorem OpenWindow.still (h : OpenWindow phase pct samples said) {l : List DiscoveryEvent} (hl : ∀ e ∈ l, quiet e) :
    OpenWindow phase pct samples (said ++ l) := by
  have hnone : l.filterMap sampled = [] := List.filterMap_eq_nil_iff.mpr fun e he => (hl e he).2
  simpa [hnone] using h.adds fun e he => (hl e he).1

theorem OpenWindow.closed (h : OpenWindow phase pct samples said) {e : DiscoveryEvent} (he : marks e = true) :
    IsWindow phase pct samples (said ++ [e]) :=
  ⟨said, e, h, he, List.prefix_rfl⟩

theorem IsWindow.mono (h : IsWindow phase pct samples said) (hsaid : said <+: said') : IsWindow phase pct samples said' :=
  let ⟨upto, e, hopen, he, hpre⟩ := h
  ⟨upto, e, hopen, he, hpre.trans hsaid⟩

/-- The window announced by event `k`. -/
def announcedAt (said : List DiscoveryEvent) (k : Nat) : Option (Phase × Nat × List DiscoverySample) :=
  match said[k]? with
  | some ⟨publish (.step phase _ pct _), _⟩ => some (phase, pct, ((said.drop (k + 1)).takeWhile (!marks ·)).filterMap sampled)
  | _ => none

theorem IsWindow.announcedAt (h : IsWindow phase pct samples said) :
    ∃ k < said.length, announcedAt said k = some (phase, pct, samples) := by
  obtain ⟨upto, e, ⟨before, cycle, maxMs, during, rfl, -, hduring, rfl⟩, he, after, rfl⟩ := h
  refine ⟨before.length, by simp, ?_⟩
  have hget : (before ++ ⟨publish (.step phase cycle pct maxMs), ()⟩ :: during ++ [e] ++ after)[before.length]? =
      some ⟨publish (.step phase cycle pct maxMs), ()⟩ := by simp
  have hdrop : (before ++ ⟨publish (.step phase cycle pct maxMs), ()⟩ :: during ++ [e] ++ after).drop (before.length + 1) =
      during ++ e :: after := by simp
  rw [Discovery.announcedAt, hget, hdrop, List.takeWhile_append_of_pos (by simpa using hduring),
    List.takeWhile_cons_of_neg (by simp [he]), List.append_nil]

end Windows

/-! ## What a piece of the walk says -/

/-- What was said went on, by events that are `ok`. -/
def Adds (ok : DiscoveryEvent → Prop) (s t : DiscoveryRun) : Prop := ∃ l, t.said = s.said ++ l ∧ ∀ e ∈ l, ok e

/-- The walk was left, and not because it was through. -/
def Unfinished (e : Left DiscoveryOutcome) : Prop := ∀ o, e = .returned o → o.state ≠ .complete

/-- Goes on with events that are `ok`, or leaves the walk unfinished. -/
def Passes {α : Type} (ok : DiscoveryEvent → Prop) (m : Walk α) : Prop :=
  ∀ s, m.wp (fun _ => Adds ok s) (fun e _ => Unfinished e) s

section Passes

variable {α β : Type} {ok ok' : DiscoveryEvent → Prop} {m : Walk α} {f : α → Walk β} {s t u : DiscoveryRun}

theorem Adds.refl (s : DiscoveryRun) : Adds ok s s := ⟨[], (List.append_nil _).symm, fun _ he => absurd he List.not_mem_nil⟩

theorem Adds.trans (h : Adds ok s t) (h' : Adds ok t u) : Adds ok s u := by
  obtain ⟨l, hl, hok⟩ := h
  obtain ⟨l', hl', hok'⟩ := h'
  refine ⟨l ++ l', by rw [hl', hl, List.append_assoc], fun e he => ?_⟩
  exact (List.mem_append.mp he).elim (hok e) (hok' e)

theorem Adds.grows (h : Adds ok s t) : s.said <+: t.said :=
  let ⟨l, hl, _⟩ := h
  ⟨l, hl.symm⟩

theorem Adds.one {q : Question News} {a : Answer DiscoverySample q} (h : ok ⟨q, a⟩) : Adds ok s (s.note q a) :=
  ⟨[⟨q, a⟩], rfl, fun _ he => (List.mem_singleton.mp he) ▸ h⟩

namespace Passes

theorem pure (a : α) : Passes ok (Pure.pure a : Walk α) := fun s => Adds.refl s

theorem bind (hm : Passes ok m) (hf : ∀ a, Passes ok (f a)) : Passes ok (m >>= f) := fun s =>
  Act.wp_bind.mpr ((hm s).mono (fun a t ht => (hf a t).mono (fun _ _ hu => ht.trans hu) fun _ _ h => h) fun _ _ h => h)

theorem ask {q : Question News} (h : ∀ a, ok ⟨q, a⟩) : Passes ok (Asking.ask q : Walk _) := fun _ => wp_ask fun a => Adds.one (h a)

theorem modify (g : RunMem Counters → RunMem Counters) : Passes ok (Asking.modify g : Walk Unit) := fun s => Adds.refl s

theorem get : Passes ok (Asking.get : Walk (RunMem Counters)) := fun s => Adds.refl s

theorem leave {e : Left DiscoveryOutcome} (h : Unfinished e) : Passes ok (Act.leave e : Walk α) := fun _ => h

theorem mono (hm : Passes ok m) (h : ∀ e, ok e → ok' e) : Passes ok' m := fun s =>
  (hm s).mono (fun _ _ ⟨l, hl, hok⟩ => ⟨l, hl, fun e he => h e (hok e he)⟩) fun _ _ h => h

theorem iterate {out : Left DiscoveryOutcome} {body : β → Walk (β ⊕ α)} (hout : Unfinished out) (hbody : ∀ b, Passes ok (body b))
    (fuel : Nat) (b : β) : Passes ok (Act.iterate out body fuel b) := by
  induction fuel generalizing b with
  | zero => exact leave hout
  | succ fuel ih =>
    refine (hbody b).bind fun r => ?_
    cases r with
    | inl b => exact ih b
    | inr a => exact pure a

/-- A piece that passes goes on from where it was. -/
theorem wp {T : α → DiscoveryRun → Prop} (hm : Passes ok m) (hgo : ∀ a t, Adds ok s t → T a t) :
    m.wp T (fun e _ => Unfinished e) s :=
  (hm s).mono hgo fun _ _ h => h

end Passes

end Passes

/-! ## The pieces -/

section Pieces

variable {args : DiscoveryArgs} {at_ : Setting} {measured : List DiscoveryCycle}

theorem unfinished_unended : Unfinished .unended := nofun

theorem passes_becameProtected (w : PumpWatch) : Passes quiet (w.becameProtected : Walk Bool) := fun s =>
  PumpWatch.wp_becameProtected (fun _ => Adds.refl s) (fun _ _ => Adds.refl s) fun _ _ b =>
    ⟨[⟨pumpProtected, b⟩], rfl, fun _ he => (List.mem_singleton.mp he) ▸ ⟨rfl, rfl⟩⟩

theorem passes_bail {α : Type} {state : EndState} (hstate : state ≠ .complete) (detail : String) :
    Passes quiet (bail at_ state detail measured : Walk α) :=
  Passes.get.bind fun _ => Passes.leave fun _ h => by
    cases h
    exact hstate

theorem passes_bailWindow {α : Type} (stop : WindowStop) : Passes quiet (bailWindow args at_ stop measured : Walk α) :=
  passes_bail (by decide) _

theorem wp_bailWindow {α : Type} {T : α → DiscoveryRun → Prop} {s : DiscoveryRun} (stop : WindowStop) :
    (bailWindow args at_ stop measured).wp T (fun e _ => Unfinished e) s := by
  intro o h
  cases h
  exact show EndState.aborted ≠ .complete by decide

theorem passes_windowStop (isOpen : Bool) : Passes quiet (windowStop args isOpen) := by
  unfold windowStop
  refine (Passes.ask fun _ => ⟨rfl, rfl⟩).bind fun down => ?_
  cases down with
  | true => exact Passes.pure _
  | false =>
    cases isOpen with
    | false => exact Passes.pure _
    | true =>
      refine (passes_becameProtected _).bind fun became => ?_
      cases became <;> exact Passes.pure _

theorem passes_thermalOr : Passes quiet (thermalOr at_ measured) := by
  unfold thermalOr thermalRefused
  refine Passes.bind ?_ fun refused => ?_
  · refine (Passes.ask fun _ => ⟨rfl, rfl⟩).bind fun hot => ?_
    cases hot with
    | some e => exact Passes.pure _
    | none =>
      refine (Passes.ask fun _ => ⟨rfl, rfl⟩).bind fun force => ?_
      cases force with
      | some state => exact Passes.pure _
      | none => exact Passes.ask fun _ => ⟨rfl, rfl⟩
  · cases refused with
    | some reason => exact passes_bail (by decide) _
    | none => exact Passes.pure _

theorem passes_shutdownOr : Passes quiet (shutdownOr at_ measured) := by
  unfold shutdownOr
  refine (Passes.ask fun _ => ⟨rfl, rfl⟩).bind fun down => ?_
  cases down with
  | true => exact passes_bail (by decide) _
  | false => exact Passes.pure _

theorem passes_cancelOr (cycle : Nat) : Passes quiet (cancelOr args at_ cycle measured) := by
  unfold cancelOr
  refine (Passes.ask fun _ => ⟨rfl, rfl⟩).bind fun cancelled => ?_
  cases cancelled with
  | true => exact passes_bail (by decide) _
  | false => exact Passes.pure _

theorem passes_keepaliveOr : Passes quiet (keepaliveOr at_ measured) := by
  unfold keepaliveOr
  refine (Passes.ask fun _ => ⟨rfl, rfl⟩).bind fun alive => ?_
  cases alive with
  | true => exact Passes.pure _
  | false => exact passes_bail (by decide) _

theorem passes_protectedOr : Passes quiet (protectedOr args at_ measured) := by
  unfold protectedOr
  refine (passes_becameProtected _).bind fun became => ?_
  cases became with
  | true => exact passes_bailWindow _
  | false => exact Passes.pure _

theorem passes_accepted (pct : Nat) (a : Except WriteFailure Unit) : Passes quiet (accepted at_ pct measured a) := by
  rcases a with (e | _) | _
  · exact passes_bail (by decide) _
  · exact ((Passes.modify _).bind fun _ => Passes.pure _).bind fun _ => passes_bail (by decide) _
  · exact Passes.pure _

theorem passes_checkLast (last : DiscoverySample) (pct : Nat) : Passes quiet (checkLast args at_ last pct measured) := by
  unfold checkLast
  split
  · exact passes_bail (by decide) _
  · exact Passes.pure _

theorem passes_elapsed {ok : DiscoveryEvent → Prop} (started : Nat) (hok : ∀ a, ok ⟨now, a⟩) :
    Passes ok (elapsed started : Walk Nat) :=
  (Passes.ask hok).bind fun _ => Passes.pure _

/-- Whatever is said. -/
abbrev anything : DiscoveryEvent → Prop := fun _ => True

theorem Passes.any {α : Type} {ok : DiscoveryEvent → Prop} {m : Walk α} (h : Passes ok m) : Passes anything m :=
  h.mono fun _ _ => trivial

theorem passes_sampleOnce (runStarted : Nat) : Passes anything (sampleOnce runStarted) := by
  unfold sampleOnce
  refine (Passes.ask fun _ => trivial).bind fun answer => ?_
  cases answer with
  | none => exact Passes.leave unfinished_unended
  | some sample => exact (passes_elapsed _ fun _ => trivial).bind fun _ => (Passes.modify _).bind fun _ => Passes.pure _

theorem passes_settleWaitPass (reference : List (Option Nat)) (runStarted started : Nat) (perChannel : List (List RpmSample)) :
    Passes anything (settleWaitPass args reference runStarted started perChannel) := by
  unfold settleWaitPass
  refine (passes_windowStop true).any.bind fun stop => ?_
  cases stop with
  | some stop => exact Passes.pure _
  | none =>
    refine (passes_sampleOnce _).bind fun sample => (passes_elapsed _ fun _ => trivial).bind fun _ => Passes.get.bind fun _ => ?_
    refine Passes.bind ?_ fun ended => ?_
    · unfold waitOver
      split
      · exact Passes.pure _
      · exact (passes_elapsed _ fun _ => trivial).bind fun _ => Passes.pure _
    · cases ended with
      | true => exact (passes_elapsed _ fun _ => trivial).bind fun _ => Passes.pure _
      | false => exact (passes_elapsed _ fun _ => trivial).bind fun _ => (Passes.ask fun _ => trivial).bind fun _ => Passes.pure _

theorem passes_settleWait (fuel : Nat) (reference : List (Option Nat)) (runStarted : Nat) :
    Passes anything (settleWait args fuel reference runStarted) :=
  (Passes.ask fun _ => trivial).bind fun _ =>
    Passes.iterate unfinished_unended (fun _ => passes_settleWaitPass _ _ _ _) fuel _

theorem passes_toBaseline (fuel cycle : Nat) (c : Carry) : Passes anything (toBaseline args at_ fuel cycle c) := by
  unfold toBaseline PumpWatch.noteWrite
  refine passes_shutdownOr.any.bind fun _ => (passes_cancelOr cycle).any.bind fun _ => passes_thermalOr.any.bind fun _ => ?_
  refine passes_keepaliveOr.any.bind fun _ => passes_shutdownOr.any.bind fun _ => passes_protectedOr.any.bind fun _ => ?_
  refine (Passes.modify _).bind fun _ => (Passes.modify _).bind fun _ => (Passes.ask fun _ => trivial).bind fun a => ?_
  refine (passes_accepted _ a).any.bind fun _ => ?_
  split
  · refine (Passes.ask fun _ => trivial).bind fun _ => (passes_settleWait _ _ _).bind fun waited => ?_
    cases waited with
    | error stop => exact (passes_bailWindow _).any
    | ok waited =>
      refine (passes_checkLast _ _).any.bind fun _ => (passes_cancelOr cycle).any.bind fun _ => ?_
      exact passes_thermalOr.any.bind fun _ => passes_keepaliveOr.any.bind fun _ => Passes.pure _
  · exact Passes.pure _

end Pieces

/-! ## Windows and cycles -/

section Cycles

variable {args : DiscoveryArgs} {at_ : Setting} {measured : List DiscoveryCycle} {phase : Phase} {pct : Nat}
  {samples : List DiscoverySample} {s t : DiscoveryRun} {α : Type}

theorem OpenWindow.passes {ok : DiscoveryEvent → Prop} {m : Walk α} (h : OpenWindow phase pct samples s.said) (hm : Passes ok m)
    (hok : ∀ e, ok e → quiet e) : m.wp (fun _ t => OpenWindow phase pct samples t.said) (fun e _ => Unfinished e) s :=
  (hm.mono hok).wp fun _ _ ⟨_, hl, hquiet⟩ => hl ▸ h.still hquiet

theorem wp_sampleOnce (runStarted : Nat) (h : OpenWindow phase pct samples s.said) :
    (sampleOnce runStarted).wp (fun sample t => OpenWindow phase pct (samples ++ [sample]) t.said) (fun e _ => Unfinished e) s := by
  unfold sampleOnce
  refine wp_askBind fun answer => ?_
  cases answer with
  | none => exact unfinished_unended
  | some sample =>
    have hopen : OpenWindow phase pct (samples ++ [sample]) (s.note read (some sample)).said :=
      h.adds (l := [⟨read, some sample⟩]) fun e he => (List.mem_singleton.mp he) ▸ rfl
    refine Act.wp_bind.mpr ((hopen.passes (passes_elapsed runStarted fun _ => ⟨rfl, rfl⟩) fun _ h => h).mono (fun _ t ht => ?_) fun _ _ h => h)
    exact ht

/-- Each channel's readings, out of the samples. -/
def Collected (n : Nat) (perChannel : List (List (Option Nat))) (samples : List DiscoverySample) : Prop :=
  ∀ i < n, perChannel[i]? = some (samples.map (·.tach i))

theorem Collected.next {n : Nat} {perChannel : List (List (Option Nat))} (h : Collected n perChannel samples) (sample : DiscoverySample) :
    Collected n (perChannel.mapIdx fun i slot => slot ++ [sample.tach i]) (samples ++ [sample]) := fun i hi => by
  rw [List.getElem?_mapIdx, h i hi, Option.map_some, List.map_append, List.map_singleton]

/-- The window was seen to its end. -/
def Seen (n : Nat) (phase : Phase) (pct : Nat) (seen : Observed) (t : DiscoveryRun) : Prop :=
  ∃ samples, OpenWindow phase pct samples t.said ∧ Collected n seen.perChannel samples ∧ samples.getLast? = some seen.last

def Watched (n : Nat) (phase : Phase) (pct : Nat) : Except WindowStop Observed → DiscoveryRun → Prop
  | .ok seen => Seen n phase pct seen
  | .error _ => fun _ => True

theorem wp_observePass (runStarted started n : Nat) (perChannel : List (List (Option Nat)))
    (h : OpenWindow phase pct samples s.said) (hcollected : Collected n perChannel samples) :
    (observePass args runStarted started perChannel).wp
      (Sum.elim (fun perChannel t => ∃ samples, OpenWindow phase pct samples t.said ∧ Collected n perChannel samples) (Watched n phase pct))
      (fun e _ => Unfinished e) s := by
  have helapsed : Passes quiet (elapsed started : Walk Nat) := passes_elapsed started fun _ => ⟨rfl, rfl⟩
  unfold observePass
  refine Act.wp_bind.mpr ((h.passes helapsed fun _ h => h).mono (fun _ s h => ?_) fun _ _ h => h)
  refine Act.wp_bind.mpr ((h.passes (passes_windowStop _) fun _ h => h).mono (fun stop s h => ?_) fun _ _ h => h)
  cases stop with
  | some stop => exact show Watched n phase pct (.error stop) s from trivial
  | none =>
    refine Act.wp_bind.mpr ((wp_sampleOnce runStarted h).mono (fun sample s h => ?_) fun _ _ h => h)
    have hnext := hcollected.next sample
    refine Act.wp_bind.mpr ((h.passes helapsed fun _ h => h).mono (fun now s h => ?_) fun _ _ h => h)
    dsimp only
    split
    · exact ⟨_, h, hnext, List.getLast?_concat⟩
    · refine Act.wp_bind.mpr ((h.passes helapsed fun _ h => h).mono (fun now s h => ?_) fun _ _ h => h)
      refine Act.wp_bind.mpr ((h.passes (Passes.ask fun _ => ⟨rfl, rfl⟩) fun _ h => h).mono (fun _ s h => ?_) fun _ _ h => h)
      exact ⟨_, h, hnext⟩

theorem wp_observe (fuel runStarted : Nat) (h : OpenWindow phase pct [] s.said) :
    (observe args fuel runStarted).wp (Watched args.channels.length phase pct) (fun e _ => Unfinished e) s := by
  unfold observe
  refine wp_askBind fun started => ?_
  refine Act.Triple.iterate
    (I := fun perChannel t => ∃ samples, OpenWindow phase pct samples t.said ∧ Collected args.channels.length perChannel samples)
    (fun perChannel s ⟨samples, hopen, hcollected⟩ => wp_observePass runStarted started _ perChannel hopen hcollected)
    (fun _ _ _ => unfinished_unended) fuel _ _ ⟨[], ?_, fun i hi => ?_⟩
  · exact h.still (l := [⟨now, started⟩]) fun _ he => (List.mem_singleton.mp he) ▸ ⟨rfl, rfl⟩
  · rw [List.getElem?_map, List.getElem?_eq_getElem hi]
    rfl

theorem wp_windowAt (fuel cycle : Nat) (hlast : (writes s.said).getLast? = some pct) :
    (windowAt args at_ fuel phase cycle pct measured).wp (Seen args.channels.length phase pct) (fun e _ => Unfinished e) s := by
  unfold windowAt
  refine wp_askBind fun _ => ?_
  have hopen : OpenWindow phase pct [] (s.note (publish (.step phase cycle pct (millis args.window))) ()).said :=
    OpenWindow.announced hlast cycle _
  refine Act.wp_bind.mpr ((wp_observe fuel at_.runStarted hopen).mono (fun r s h => ?_) fun _ _ h => h)
  cases r with
  | error stop => exact wp_bailWindow stop
  | ok seen =>
    obtain ⟨samples, hopen, hcollected, hlast⟩ := h
    refine Act.wp_bind.mpr ((hopen.passes (passes_checkLast _ _) fun _ h => h).mono (fun _ s h => ?_) fun _ _ h => h)
    exact ⟨samples, h, hcollected, hlast⟩

theorem passes_observe (fuel runStarted : Nat) : Passes anything (observe args fuel runStarted) := by
  refine (Passes.ask fun _ => trivial).bind fun started => Passes.iterate unfinished_unended (fun perChannel => ?_) fuel _
  unfold observePass
  refine (passes_elapsed _ fun _ => trivial).bind fun _ => (passes_windowStop _).any.bind fun stop => ?_
  cases stop with
  | some stop => exact Passes.pure _
  | none =>
    refine (passes_sampleOnce _).bind fun sample => (passes_elapsed _ fun _ => trivial).bind fun _ => ?_
    dsimp only
    split
    · exact Passes.pure _
    · exact (passes_elapsed _ fun _ => trivial).bind fun _ => (Passes.ask fun _ => trivial).bind fun _ => Passes.pure _

theorem passes_windowAt (fuel cycle pct : Nat) : Passes anything (windowAt args at_ fuel phase cycle pct measured) := by
  refine (Passes.ask fun _ => trivial).bind fun _ => (passes_observe _ _).bind fun r => ?_
  cases r with
  | error stop => exact (passes_bailWindow stop).any
  | ok seen => exact (passes_checkLast _ _).any.bind fun _ => Passes.pure _

theorem passes_toPerturbed (cycle : Nat) (c : Carry) : Passes anything (toPerturbed args at_ cycle c) := by
  refine (passes_cancelOr cycle).any.bind fun _ => passes_thermalOr.any.bind fun _ => passes_keepaliveOr.any.bind fun _ => ?_
  refine passes_shutdownOr.any.bind fun _ => passes_protectedOr.any.bind fun _ => ?_
  exact (Passes.modify _).bind fun _ => (Passes.ask fun _ => trivial).bind fun a => (passes_accepted _ a).any

/-- The write of the perturbed duty ends the baseline window. -/
theorem wp_toPerturbed (cycle : Nat) (c : Carry) (h : OpenWindow phase pct samples s.said) :
    (toPerturbed args at_ cycle c).wp (fun _ t => IsWindow phase pct samples t.said) (fun e _ => Unfinished e) s := by
  unfold toPerturbed PumpWatch.noteWrite
  refine Act.wp_bind.mpr ((h.passes (passes_cancelOr cycle) fun _ h => h).mono (fun _ s h => ?_) fun _ _ h => h)
  refine Act.wp_bind.mpr ((h.passes passes_thermalOr fun _ h => h).mono (fun _ s h => ?_) fun _ _ h => h)
  refine Act.wp_bind.mpr ((h.passes passes_keepaliveOr fun _ h => h).mono (fun _ s h => ?_) fun _ _ h => h)
  refine Act.wp_bind.mpr ((h.passes passes_shutdownOr fun _ h => h).mono (fun _ s h => ?_) fun _ _ h => h)
  refine Act.wp_bind.mpr ((h.passes passes_protectedOr fun _ h => h).mono (fun _ s h => ?_) fun _ _ h => h)
  refine Act.wp_bind.mpr (wp_modify.mpr (wp_askBind fun a => ?_))
  exact (passes_accepted _ a).wp fun _ t ht => (h.closed rfl).mono ht.grows

/-- What channel `i` read last. -/
def lastTach (samples : List DiscoverySample) (i : Nat) : Option Nat := samples.getLast?.bind (·.tach i)

/-- The noise of channel `i` comes from some baseline window. -/
def NoiseFrom (args : DiscoveryArgs) (said : List DiscoveryEvent) (i noise : Nat) : Prop :=
  ∃ samples, IsWindow .baseline args.baselinePct samples said ∧ noise = noiseFloor (samples.map (·.tach i))

/-- The observations of a cycle come from windows. -/
def Backed (args : DiscoveryArgs) (said : List DiscoveryEvent) (done : DiscoveryCycle) : Prop :=
  ∃ base pert, IsWindow .baseline args.baselinePct base said ∧ IsWindow .perturbed args.perturbedPct pert said ∧
    done.observations.map (·.tachId) = args.channels.map (·.tachId) ∧
    ∀ i o, done.observations[i]? = some o → ∃ noise, NoiseFrom args said i noise ∧ o.baselineRpm = lastTach base i ∧
      o.perturbedRpm = lastTach pert i ∧ o.responded = responded (lastTach base i) (lastTach pert i) noise ∧
      o.deltaRpm = (lastTach base i).bind fun b => (lastTach pert i).map fun p : Nat => (p : Int) - b

structure Told (args : DiscoveryArgs) (said : List DiscoveryEvent) (c : Carry) : Prop where
  backed : ∀ done ∈ c.measured, Backed args said done
  borrowed : ∀ i < args.channels.length, ∀ noise, c.cycle1Noise[i]?.join = some noise → NoiseFrom args said i noise

theorem NoiseFrom.mono {said said' : List DiscoveryEvent} {i noise : Nat} (h : NoiseFrom args said i noise) (hsaid : said <+: said') :
    NoiseFrom args said' i noise :=
  let ⟨samples, hwindow, hnoise⟩ := h
  ⟨samples, hwindow.mono hsaid, hnoise⟩

theorem Backed.mono {said said' : List DiscoveryEvent} {done : DiscoveryCycle} (h : Backed args said done) (hsaid : said <+: said') :
    Backed args said' done := by
  obtain ⟨base, pert, hbase, hpert, hids, hobs⟩ := h
  refine ⟨base, pert, hbase.mono hsaid, hpert.mono hsaid, hids, fun i o ho => ?_⟩
  obtain ⟨noise, hnoise, h⟩ := hobs i o ho
  exact ⟨noise, hnoise.mono hsaid, h⟩

theorem Told.mono {said said' : List DiscoveryEvent} {c : Carry} (h : Told args said c) (hsaid : said <+: said') : Told args said' c :=
  ⟨fun done hdone => (h.backed done hdone).mono hsaid, fun i hi noise hnoise => (h.borrowed i hi noise hnoise).mono hsaid⟩

theorem tach_last {seen : Observed} (hlast : samples.getLast? = some seen.last) (i : Nat) : seen.last.tach i = lastTach samples i := by
  rw [lastTach, hlast, Option.bind_some]

theorem Collected.getD {n i : Nat} {perChannel : List (List (Option Nat))} (h : Collected n perChannel samples) (hi : i < n) :
    perChannel.getD i [] = samples.map (·.tach i) := by
  rw [List.getD_eq_getElem?_getD, h i hi, Option.getD_some]

/-- What a cycle adds to what was told. -/
theorem Told.cycle {c : Carry} {said : List DiscoveryEvent} (h : Told args said c) {base pert : Observed}
    {baseSamples pertSamples : List DiscoverySample} (hbase : IsWindow .baseline args.baselinePct baseSamples said)
    (hcollected : Collected args.channels.length base.perChannel baseSamples) (hbaseLast : baseSamples.getLast? = some base.last)
    (hpert : IsWindow .perturbed args.perturbedPct pertSamples said) (hpertLast : pertSamples.getLast? = some pert.last)
    (cycle : Nat) (settled : List Bool) (baselineSettled : Option Bool) (settleWaitMs : Nat) (previousTachs : List (Option Nat)) :
    Told args said
      ⟨c.measured ++ [⟨cycle, args.baselinePct, args.perturbedPct, args.direction,
          args.channels.mapIdx (observation settled c.cycle1Noise base pert), baselineSettled, settleWaitMs⟩],
        previousTachs, nextNoise cycle settled c.cycle1Noise base⟩ where
  backed done hdone := by
    rcases List.mem_append.mp hdone with hdone | hdone
    · exact h.backed done hdone
    · rw [List.mem_singleton.mp hdone]
      refine ⟨baseSamples, pertSamples, hbase, hpert, ?_, fun i o ho => ?_⟩
      · refine List.ext_getElem? fun i => ?_
        rw [List.getElem?_map, List.getElem?_mapIdx, Option.map_map, List.getElem?_map]
        rfl
      · rw [List.getElem?_mapIdx] at ho
        obtain ⟨ch, hch, rfl⟩ := Option.map_eq_some_iff.mp ho
        have hi : i < args.channels.length := (List.getElem?_eq_some_iff.mp hch).1
        have hown : NoiseFrom args said i (noiseFloor (base.perChannel.getD i [])) := ⟨baseSamples, hbase, by rw [hcollected.getD hi]⟩
        unfold observation
        dsimp only
        rw [tach_last hbaseLast, tach_last hpertLast]
        refine ⟨_, ?_, rfl, rfl, rfl, ?_⟩
        · split
          · exact hown
          · cases hfallback : c.cycle1Noise[i]?.join with
            | none => exact hown
            | some noise => exact h.borrowed i hi noise hfallback
        · cases lastTach baseSamples i <;> cases lastTach pertSamples i <;> rfl
  borrowed i hi noise hnoise := by
    unfold nextNoise at hnoise
    split at hnoise
    · rw [List.getElem?_mapIdx, Option.join_eq_some_iff, Option.map_eq_some_iff] at hnoise
      obtain ⟨_, -, hnoise⟩ := hnoise
      split at hnoise
      · rw [← Option.some.inj hnoise, hcollected.getD hi]
        exact ⟨baseSamples, hbase, rfl⟩
      · cases hnoise
    · exact h.borrowed i hi noise hnoise

theorem wp_runCycle {W walk : List Nat} (fuel cycle : Nat) (c : Carry) (hpre : W ++ [args.baselinePct, args.perturbedPct] <+: walk)
    (hgoing : Going W s) (h : Told args s.said c) :
    (runCycle args at_ fuel cycle c).wp
      (fun c' t => Going (W ++ [args.baselinePct, args.perturbedPct]) t ∧ Told args t.said c' ∧
        c'.measured.length = c.measured.length + 1) (fun e _ => Unfinished e) s := by
  have htwo : W ++ [args.baselinePct] ++ [args.perturbedPct] = W ++ [args.baselinePct, args.perturbedPct] := by simp
  have hpreB : W ++ [args.baselinePct] <+: walk := (List.prefix_append _ [args.perturbedPct]).trans (htwo ▸ hpre)
  unfold runCycle
  refine Act.wp_bind.mpr (((going_toBaseline (T := fun _ => Going (W ++ [args.baselinePct])) fuel cycle c hpreB hgoing
    fun _ _ h => h).and (passes_toBaseline fuel cycle c s)).mono (fun start s₁ ⟨hgoing, hadds⟩ => ?_) fun _ _ h => h.2)
  have htold := h.mono hadds.grows
  have hlast : (writes s₁.said).getLast? = some args.baselinePct := by rw [hgoing.writes, List.getLast?_concat]
  refine Act.wp_bind.mpr (((going_windowAt (T := fun _ => Going (W ++ [args.baselinePct])) fuel .baseline cycle _ hpreB hgoing
    fun _ _ h => h).and ((wp_windowAt fuel cycle hlast).and (passes_windowAt fuel cycle args.baselinePct s₁))).mono
    (fun base s₂ ⟨hgoing, ⟨baseSamples, hopen, hcollected, hbaseLast⟩, hadds⟩ => ?_) fun _ _ h => h.2.1)
  have htold := htold.mono hadds.grows
  refine Act.wp_bind.mpr (((going_toPerturbed (T := fun _ => Going (W ++ [args.baselinePct] ++ [args.perturbedPct])) cycle c (by simp)
    (htwo ▸ hpre) hgoing fun _ h => h).and ((wp_toPerturbed cycle c hopen).and (passes_toPerturbed cycle c s₂))).mono
    (fun _ s₃ ⟨hgoing, hbase, hadds⟩ => ?_) fun _ _ h => h.2.1)
  have htold := htold.mono hadds.grows
  rw [htwo] at hgoing
  have hlast : (writes s₃.said).getLast? = some args.perturbedPct := by
    rw [hgoing.writes, ← htwo, List.getLast?_concat]
  refine Act.wp_bind.mpr (((going_windowAt (T := fun _ => Going (W ++ [args.baselinePct, args.perturbedPct])) fuel .perturbed cycle _
    hpre hgoing fun _ _ h => h).and ((wp_windowAt fuel cycle hlast).and (passes_windowAt fuel cycle args.perturbedPct s₃))).mono
    (fun pert s₄ ⟨hgoing, ⟨pertSamples, hpert, _, hpertLast⟩, hadds⟩ => ?_) fun _ _ h => h.2.1)
  have hbase := hbase.mono hadds.grows
  have htold := htold.mono hadds.grows
  refine wp_askBind fun _ => ?_
  refine ⟨hgoing.note rfl rfl, ?_, List.length_append⟩
  rw [note_said]
  exact (htold.mono (List.prefix_append _ _)).cycle (hbase.mono (List.prefix_append _ _)) hcollected hbaseLast
    (hpert.closed rfl) hpertLast cycle _ _ _ _

theorem wp_cyclesFrom {W walk : List Nat} (fuel cycle left : Nat) (c : Carry) (hplan : W ++ cycleDuties args left = walk)
    (hgoing : Going W s) (h : Told args s.said c) :
    (cyclesFrom args at_ fuel cycle left c).wp
      (fun c' t => Told args t.said c' ∧ c'.measured.length = c.measured.length + left) (fun e _ => Unfinished e) s := by
  induction left generalizing cycle c s W with
  | zero => exact ⟨h, rfl⟩
  | succ left ih =>
    have hnext : W ++ [args.baselinePct, args.perturbedPct] ++ cycleDuties args left = walk := by
      rw [← hplan, cycleDuties_succ, List.append_assoc]
    unfold cyclesFrom
    refine Act.wp_bind.mpr ((wp_runCycle fuel cycle c ⟨_, hnext⟩ hgoing h).mono (fun c' t hcycle => ?_) fun _ _ h => h)
    obtain ⟨hgoing, h, hlen⟩ := hcycle
    refine (ih (cycle + 1) c' hnext hgoing h).mono (fun c'' u hrest => ⟨hrest.1, ?_⟩) fun _ _ h => h
    rw [hrest.2, hlen]
    omega


end Cycles

/-! ## Whole runs -/

section Runs

variable {args : DiscoveryArgs} {at_ : Setting} {s : DiscoveryRun}

/-- How far the readable readings lie apart. -/
def peakToPeak (readings : List (Option Nat)) : Nat :=
  ((readings.filterMap id).max?.getD 0) - ((readings.filterMap id).min?.getD 0)

/-- Every window ends on what the rig reads at its duty, and where the rig reads, its readings spread by its noise. -/
def Rig.Behind (rig : Rig) (n : Nat) (said : List DiscoveryEvent) : Prop :=
  ∀ phase pct samples, phase ≠ .settleWait → IsWindow phase pct samples said → ∀ i < n,
    (samples.map (·.tach i)).getLast? = some (rig.rpm i pct) ∧
      ((rig.rpm i pct).isSome → peakToPeak (samples.map (·.tach i)) = rig.noise i)

theorem Rig.behind_of_announced {rig : Rig} {n : Nat} {said : List DiscoveryEvent}
    (h : ∀ k < said.length, ∀ w ∈ announcedAt said k, w.1 = .settleWait ∨ ∀ i < n,
      (w.2.2.map (·.tach i)).getLast? = some (rig.rpm i w.2.1) ∧
        ((rig.rpm i w.2.1).isSome → peakToPeak (w.2.2.map (·.tach i)) = rig.noise i)) : rig.Behind n said :=
  fun phase pct samples hphase hwindow i hi => by
    obtain ⟨k, hk, hw⟩ := hwindow.announcedAt
    exact (h k hk (phase, pct, samples) hw).resolve_left hphase i hi

theorem noiseFloor_eq (readings : List (Option Nat)) : noiseFloor readings = max (peakToPeak readings) minNoiseFloorRpm := by
  unfold noiseFloor peakToPeak
  cases hmin : (readings.filterMap id).min? with
  | none =>
    rw [List.min?_eq_none_iff.mp hmin]
    rfl
  | some lo =>
    cases hmax : (readings.filterMap id).max? with
    | none =>
      rw [List.max?_eq_none_iff.mp hmax] at hmin
      cases hmin
    | some hi =>
      dsimp only
      rw [hmin, hmax]
      rfl

theorem Rig.Behind.last {rig : Rig} {n : Nat} {said : List DiscoveryEvent} (h : rig.Behind n said) {phase : Phase} {pct : Nat}
    {samples : List DiscoverySample} (hphase : phase ≠ .settleWait) (hwindow : IsWindow phase pct samples said) {i : Nat}
    (hi : i < n) : lastTach samples i = rig.rpm i pct := by
  have hlast := (h phase pct samples hphase hwindow i hi).1
  rw [List.getLast?_map] at hlast
  obtain ⟨last, hlast, hrpm⟩ := Option.map_eq_some_iff.mp hlast
  rw [lastTach, hlast, Option.bind_some, hrpm]

/-- Cycles that come from windows of a rig saw the rig. -/
theorem Backed.saw {rig : Rig} {said : List DiscoveryEvent} {done : DiscoveryCycle} {channels : List LabelledChannel}
    (h : Backed args said done) (hchannels : args.channels = channels.map (·.toTachChannel))
    (hrig : rig.Behind channels.length said) : Saw rig args.baselinePct args.perturbedPct channels done := by
  obtain ⟨base, pert, hbase, hpert, hids, hobs⟩ := h
  have hids : done.observations.map (·.tachId) = channels.map (·.tachId) := by
    rw [hids, hchannels, List.map_map]
    rfl
  refine ⟨hids, fun i o ho => ?_⟩
  have hi : i < channels.length := by
    have := (List.getElem?_eq_some_iff.mp ho).1
    have hlen := congrArg List.length hids
    rw [List.length_map, List.length_map] at hlen
    omega
  obtain ⟨noise, ⟨quiet, hquiet, rfl⟩, hb, hp, hresponded, hdelta⟩ := hobs i o ho
  have hbaseline := hrig.last (by decide) hbase hi
  have hperturbed := hrig.last (by decide) hpert hi
  rw [hbaseline] at hb hresponded hdelta
  rw [hperturbed] at hp hresponded hdelta
  refine ⟨hb, hp, hdelta, ?_⟩
  rw [hresponded]
  cases hreads : rig.rpm i args.baselinePct with
  | none => simp [responded, Rig.Answers, hreads]
  | some b =>
    have hnoise := (hrig .baseline args.baselinePct quiet (by decide) hquiet i hi).2 (by rw [hreads]; rfl)
    rw [noiseFloor_eq, hnoise, ← hreads]
    exact Rig.responded_iff

theorem passes_returnToBaseline : Passes anything (returnToBaseline args) := by
  unfold returnToBaseline PumpWatch.noteWrite
  refine (Passes.ask fun _ => trivial).bind fun down => ?_
  cases down with
  | true => exact Passes.pure _
  | false =>
    refine (Passes.ask fun _ => trivial).bind fun force => ?_
    cases force with
    | some state => exact Passes.pure _
    | none =>
      refine (passes_becameProtected _).any.bind fun became => ?_
      cases became <;>
        exact (Passes.modify _).bind fun _ => (Passes.ask fun _ => trivial).bind fun a => by
          rcases a with (e | _) | _ <;> first | exact Passes.pure _ | exact Passes.modify _

theorem wp_discoveryWalk (fuel : Nat) (first : DiscoverySample) (hgoing : Going [] s) :
    (discoveryWalk args at_ fuel first).wp
      (fun o t => (∀ done ∈ o.cycles, Backed args t.said done) ∧ o.cycles.length = args.cycleCount) (fun e _ => Unfinished e) s := by
  unfold discoveryWalk
  have htold : Told args s.said ⟨[], first.tachs, args.channels.map fun _ => none⟩ :=
    ⟨fun _ h => absurd h List.not_mem_nil, fun i hi noise hnoise => by simp [hi] at hnoise⟩
  refine Act.wp_bind.mpr ((wp_cyclesFrom fuel 1 args.cycleCount _ (List.nil_append _) hgoing htold).mono
    (fun c t ⟨htold, hlen⟩ => ?_) fun _ _ h => h)
  refine Act.wp_bind.mpr (passes_thermalOr.wp fun _ t hadds => ?_)
  have htold := htold.mono hadds.grows
  refine Act.wp_bind.mpr (passes_returnToBaseline.wp fun _ t hadds => ?_)
  have htold := htold.mono hadds.grows
  exact ⟨htold.backed, by rw [hlen]; simp⟩

theorem kept_said : Kept fun s t : DiscoveryRun => s.said <+: t.said where
  refl _ := List.prefix_rfl
  trans _ _ _ := List.IsPrefix.trans
  noted _ _ _ := List.prefix_rfl
  shuttingDown _ _ := List.prefix_append _ _
  thermalForceState _ _ := List.prefix_append _ _
  write _ _ _ := List.prefix_append _ _
  heard _ _ := List.prefix_append _ _

theorem wp_runDiscovery (args : DiscoveryArgs) (fuel : Nat) (vars : Counters)
    (env : List DiscoveryEvent → (q : Question News) → Answer DiscoverySample q) :
    (runDiscovery args fuel).wp (fun r t => ∀ o, r = some o → o.state = .complete →
      (∀ done ∈ o.cycles, Backed args t.said done) ∧ o.cycles.length = args.cycleCount) (fun _ _ => True)
      ⟨env, [], { vars }⟩ := by
  unfold runDiscovery
  refine Act.wp_bind.mpr (wp_ask_iff.mpr ?_)
  have hgoing := (Going.start env vars).note (q := read) (a := env [] .read) rfl rfl
  dsimp only at hgoing ⊢
  generalize env [] .read = first at hgoing ⊢
  cases first with
  | none => exact fun o h => by cases h
  | some first =>
    refine wp_askBind fun t => ?_
    have hgoing := hgoing.note (q := now) (a := t) rfl rfl
    have hrestore (o : DiscoveryOutcome) (s : DiscoveryRun) (h : o.state = .complete →
        (∀ done ∈ o.cycles, Backed args s.said done) ∧ o.cycles.length = args.cycleCount) :
        (do (guard args first.header.pwmPercent).restoreBody; return some o : Act DiscoveryRun Empty (Option DiscoveryOutcome)).wp
          (fun r t => ∀ o, r = some o → o.state = .complete → (∀ done ∈ o.cycles, Backed args t.said done) ∧
            o.cycles.length = args.cycleCount) (fun _ _ => True) s := by
      refine Act.wp_bind.mpr (((Act.within_iff.mp kept_said.restoreBody) s).mono (fun _ t hsaid => ?_) fun _ _ _ => trivial)
      rintro o' ⟨⟩ hcomplete
      obtain ⟨hbacked, hlen⟩ := h hcomplete
      exact ⟨fun done hdone => (hbacked done hdone).mono hsaid, hlen⟩
    refine Act.wp_bind.mpr (Act.wp_attempt.mpr ((wp_discoveryWalk fuel first hgoing).mono (fun o t h => ?_) fun e t h => ?_))
    · exact hrestore o t fun _ => h
    · cases e with
      | unended => exact fun o h => by cases h
      | returned o => exact hrestore o t fun hcomplete => absurd hcomplete (h o rfl)

end Runs

/-! ## The duties -/

/-- Where a duty of a discovery lies. -/
def InRange (floor pct : Nat) : Prop := max floor discoveryMinPct ≤ pct ∧ pct ≤ 100

/-- The readback, brought into its range, lies no nearer to full speed than to the bottom. -/
def NearerBottom (readbackPct : Option Nat) (floor : Nat) : Prop :=
  2 * max (max floor discoveryMinPct) (min (readbackPct.getD identifyPumpBaselineFallbackPct) 100) ≤ 100 + max floor discoveryMinPct

theorem duties_spec {readbackPct delta : Option Nat} {floor baseline perturbed : Nat} {direction : String}
    (hbaseline : resolveBaseline readbackPct floor = some baseline)
    (htarget : perturbationTarget baseline (resolveDelta delta) floor = some (perturbed, direction)) :
    InRange floor baseline ∧ InRange floor perturbed ∧ (baseline ≠ perturbed ↔ floor < 100) ∧
      (floor < 100 → (baseline < perturbed ↔ NearerBottom readbackPct floor)) := by
  have hmin : discoveryMinPct = 20 := rfl
  have hdelta : 10 ≤ resolveDelta delta ∧ resolveDelta delta ≤ 40 := by
    have hlo : discoveryDeltaMinPct = 10 := rfl
    have hhi : discoveryDeltaMaxPct = 40 := rfl
    unfold resolveDelta
    omega
  unfold resolveBaseline clamp at hbaseline
  split_ifs at hbaseline with hfloor
  have hbaseline := Option.some.inj hbaseline
  have hpct : perturbed = if max (max floor discoveryMinPct) (min baseline 100) - max floor discoveryMinPct ≤
      100 - max (max floor discoveryMinPct) (min baseline 100)
      then min (max (max floor discoveryMinPct) (min baseline 100) + resolveDelta delta) 100
      else max (max (max floor discoveryMinPct) (min baseline 100) - resolveDelta delta) (max floor discoveryMinPct) := by
    simp only [perturbationTarget, clamp, if_pos hfloor, Option.bind_eq_bind, Option.bind_some, Option.pure_def] at htarget
    have := congrArg Prod.fst (Option.some.inj htarget)
    split_ifs at this ⊢ <;> exact this.symm
  unfold InRange NearerBottom
  generalize readbackPct.getD identifyPumpBaselineFallbackPct = readback at hbaseline ⊢
  split_ifs at hpct <;> omega

/-- The candidates and the relationship are the rig's; the directions, and with them the record's, are right just where
the discovery went upwards or nothing answered, and the duties differ just where the floor leaves room for two. -/
theorem discovery_reports_rig (rig : Rig) {readbackPct delta cycles : Option Nat} {floor baseline perturbed : Nat}
    {direction : String} (hbaseline : resolveBaseline readbackPct floor = some baseline)
    (htarget : perturbationTarget baseline (resolveDelta delta) floor = some (perturbed, direction))
    {args : DiscoveryArgs} {channels : List LabelledChannel}
    (hargs : args.baselinePct = baseline ∧ args.perturbedPct = perturbed ∧ args.direction = direction ∧
      args.cycleCount = resolveCycles cycles ∧ args.channels = channels.map (·.toTachChannel))
    (hdistinct : (channels.map (·.tachId)).Nodup) (fuel : Nat) (vars : Counters)
    (env : List DiscoveryEvent → (q : Question News) → Answer DiscoverySample q) {o : DiscoveryOutcome}
    (hrun : (runDiscovery args fuel ⟨env, [], { vars }⟩).1 = .ok (some o)) (hcomplete : o.state = .complete)
    (hrig : rig.Behind channels.length (runDiscovery args fuel ⟨env, [], { vars }⟩).2.said)
    (driverUpdateIntervalMs : Option Nat) (headerId runId : String) (completedUnixMs : Nat) {summary : DiscoverySummary}
    (hsummary : summary = summarise channels o.cycles driverUpdateIntervalMs o.observedResolutionMs o.sampleCount) :
    InRange floor baseline ∧ InRange floor perturbed ∧ baseline ≠ 0 ∧ perturbed ≠ 0 ∧
      Reported rig baseline perturbed (resolveCycles cycles) channels summary ∧
      ((baseline ≠ perturbed ∧ Directed rig baseline perturbed channels summary ∧
          ∀ c ∈ summary.candidates.head?, ∀ i ch, channels[i]? = some ch → c.tachId = ch.tachId →
            ((recordFor headerId runId summary completedUnixMs).direction = "positive" ↔ rig.Follows baseline perturbed i)) ↔
        floor < 100 ∧ (NearerBottom readbackPct floor ∨ ∀ i < channels.length, ¬ rig.Answers baseline perturbed i)) := by
  obtain ⟨rfl, rfl, -, hcount, hchannels⟩ := hargs
  obtain ⟨hbase, hpert, hdiffer, hup⟩ := duties_spec hbaseline htarget
  have hmin : 0 < discoveryMinPct := by decide
  have hcycles : 0 < resolveCycles cycles ∧ resolveCycles cycles < 256 := by
    have hlo : discoveryDefaultCycles = 2 := rfl
    have hhi : discoveryMaxCycles = 3 := rfl
    unfold resolveCycles
    omega
  have hended := wp_runDiscovery args fuel vars env
  unfold Act.wp at hended
  obtain ⟨hbacked, hlen⟩ : (∀ done ∈ o.cycles, Backed args (runDiscovery args fuel ⟨env, [], { vars }⟩).2.said done) ∧
      o.cycles.length = args.cycleCount := by
    rcases hran : runDiscovery args fuel ⟨env, [], { vars }⟩ with ⟨e | r, t⟩
    · exact e.elim
    · rw [hran] at hended hrun
      exact hended o (Except.ok.inj hrun) hcomplete
  rw [hcount] at hlen
  have hsaw : ∀ done ∈ o.cycles, Saw rig args.baselinePct args.perturbedPct channels done := fun done hdone =>
    (hbacked done hdone).saw hchannels hrig
  have hpos : 0 < o.cycles.length := hlen ▸ hcycles.1
  have hfew : o.cycles.length < 256 := hlen ▸ hcycles.2
  subst hsummary
  refine ⟨hbase, hpert, by have := hbase.1; omega, by have := hpert.1; omega, ?_, ?_⟩
  · exact hlen ▸ reported hsaw hdistinct hpos hfew _ _ _
  · rw [hdiffer]
    constructor
    · rintro ⟨hfloor, hdirected, -⟩
      have := (directed_iff hsaw hdistinct hpos hfew (hdiffer.mpr hfloor) _ _ _).mp hdirected
      exact ⟨hfloor, this.imp_left (hup hfloor).mp⟩
    · rintro ⟨hfloor, h⟩
      have hdirected := (directed_iff hsaw hdistinct hpos hfew (hdiffer.mpr hfloor) driverUpdateIntervalMs o.observedResolutionMs
        o.sampleCount).mpr (h.imp_left (hup hfloor).mpr)
      refine ⟨hfloor, hdirected, fun c hc i ch hi hid => ?_⟩
      have hbest : (recordFor headerId runId (summarise channels o.cycles driverUpdateIntervalMs o.observedResolutionMs o.sampleCount)
          completedUnixMs).direction = c.direction := by
        unfold recordFor
        dsimp only
        rw [hc]
        rfl
      rw [hbest]
      exact hdirected c (List.mem_of_mem_head? hc) i ch hi hid

/-- A fan of 20 RPM for each percent, behind a header that sits at 70%. -/
def fastFan : Rig := ⟨fun _ d => some (20 * d), fun _ => 0⟩

def fastSurroundings (said : List DiscoveryEvent) : (q : Question News) → Answer DiscoverySample q
  | .read =>
    let duty := (writes said).getLast?.getD 70
    some ⟨⟨some 1, none, some duty, some (20 * duty)⟩, [some (20 * duty)]⟩
  | .write _ => .ok ()
  | .shuttingDown | .cancel | .pumpProtected => false
  | .keepalive => true
  | .checkThermalSafety | .thermalForceState | .staleTemperature => none
  | .eligible => ⟨none, false⟩
  | .hottestFreshCpu => none
  | .now => 0
  | .sleep _ | .publish _ => ()

def fastChannels : List LabelledChannel := [⟨⟨"header-1", true⟩, "Fan 1", false⟩]

def fastArgs : DiscoveryArgs where
  channels := fastChannels.map (·.toTachChannel)
  baselinePct := 70
  perturbedPct := 45
  direction := "down"
  cycleCount := 2
  restoreFloor := 0
  hasModeSwitch := true
  pumpProtected := false
  pumpWatch := PumpWatch.new false 0
  window := 0
  settleWaitMax := 0

def fastRun : Except Empty (Option DiscoveryOutcome) × DiscoveryRun :=
  runDiscovery fastArgs 1 ⟨fastSurroundings, [], { vars := ⟨0, []⟩ }⟩

def fastOutcome : DiscoveryOutcome := (fastRun.1.toOption.join).getD ⟨.failed, none, [], 0, none⟩

theorem fastRun_completes : fastRun.1 = .ok (some fastOutcome) ∧ fastOutcome.state = .complete ∧
    fastFan.Behind fastChannels.length fastRun.2.said := by
  refine ⟨by decide +kernel, by decide +kernel, Rig.behind_of_announced ?_⟩
  decide +kernel

/-- The fan turns faster at the higher duty, and is said to oppose it: it was perturbed downwards. -/
theorem faster_fan_called_negative :
    resolveBaseline (some 70) 0 = some 70 ∧ perturbationTarget 70 (resolveDelta none) 0 = some (45, "down") ∧
      fastRun.1 = .ok (some fastOutcome) ∧ fastOutcome.state = .complete ∧ fastFan.Behind fastChannels.length fastRun.2.said ∧
      (summarise fastChannels fastOutcome.cycles none none 0).candidates.map (fun c => (c.tachId, c.direction)) =
        [("header-1", "negative")] ∧
      fastFan.Follows 70 45 0 :=
  ⟨rfl, rfl, fastRun_completes.1, fastRun_completes.2.1, fastRun_completes.2.2, by decide +kernel, 900, 1400, rfl, rfl, by decide⟩

theorem discovery_reports_rig_fast :
    Reported fastFan 70 45 (resolveCycles none) fastChannels
      (summarise fastChannels fastOutcome.cycles none fastOutcome.observedResolutionMs fastOutcome.sampleCount) := by
  have hbaseline : resolveBaseline (some 70) 0 = some 70 := rfl
  have htarget : perturbationTarget 70 (resolveDelta none) 0 = some (45, "down") := rfl
  have hargs : fastArgs.baselinePct = 70 ∧ fastArgs.perturbedPct = 45 ∧ fastArgs.direction = "down" ∧
      fastArgs.cycleCount = resolveCycles none ∧ fastArgs.channels = fastChannels.map (·.toTachChannel) :=
    ⟨rfl, rfl, rfl, rfl, rfl⟩
  obtain ⟨hrun, hcomplete, hrig⟩ := fastRun_completes
  unfold fastRun at hrun hrig
  exact (discovery_reports_rig fastFan hbaseline htarget hargs (by decide) 1 ⟨0, []⟩ fastSurroundings hrun hcomplete
    hrig none "" "" 0 rfl).2.2.2.2.1

end ControlOfc.Diagnostics.Discovery
