import ControlOfc.OpenFan.LostDuties
/-! # The tick that goes by the mask and the tick that asks

Two backends, one that was given every skipped channel and one that was given those of the mask, under
the same events at the port. As long as the generation stays where the tick read it, the channels
between have nothing to put back: the second answers the first's turns at them with none of its own,
and the first answers the second's turn at a channel of the mask by going through those before it.
-/
namespace ControlOfc.OpenFan
open ControlOfc.Pwm

namespace Backend

/-- What of the tick's work would still write: the commands, and the put-backs of channels that have
a lost duty. -/
def left (s : Backend) : Work :=
  let w := s.task.work
  let q := s.queued.getD .none
  ⟨w.chans ++ q.chans, (w.putBack ++ q.putBack).filter fun i => (s.port.dutyBeforeLoss i).isSome⟩

/-- Under the port events `w`, the backend can come to this port with this much left to do. -/
def Reaches (s : Backend) (w : List PortEvent) (q : Port) (left : Work) : Prop :=
  ∃ ms, Machine.visible ms = w ∧ Machine.Along move Allowed s ms ∧ (Machine.run move s ms).port = q ∧
    (Machine.run move s ms).left = left

end Backend

/-! ## Work with channels left out -/

/-- `a` is `b` without the put-backs of the channels outside the mask. -/
structure Thins (mask : BitVec 16) (a b : Work) : Prop where
  chans : a.chans = b.chans
  putBack : a.putBack = b.putBack.filter (inMask mask)

namespace Thins

theorem none (mask : BitVec 16) : Thins mask .none .none := ⟨rfl, rfl⟩

theorem none_left {mask : BitVec 16} {a : Work} (h : Thins mask a .none) : a = .none := by
  obtain ⟨chans, putBack⟩ := a
  obtain ⟨rfl, rfl⟩ := h
  rfl

end Thins

theorem Task.eq_writing {t : Task} (h : t.work ≠ .none) : ∃ checks, t = .writing t.work.chans t.work.putBack checks := by
  cases t with
  | writing chans putBack checks => exact ⟨checks, rfl⟩
  | _ => exact absurd rfl h

namespace Port

/-- A turn with nothing left to write is about the record only. -/
theorem turn_of_none {t : Task} (q : Port) (h : t.work = .none) : (q.turn t).1 = q ∧ (q.turn t).2.work = .none := by
  cases t with
  | writing chans putBack checks =>
    obtain ⟨rfl, rfl⟩ := Work.mk.inj h
    cases checks <;> exact ⟨rfl, rfl⟩
  | recording g =>
    simp only [turn]
    split <;> exact ⟨rfl, rfl⟩
  | scanning g mask rest => cases rest <;> exact ⟨rfl, rfl⟩
  | _ => exact ⟨rfl, rfl⟩

/-- While an exchange is on the wire, work waits. -/
theorem turn_of_inFlight {t : Task} {q : Port} (h : t.work ≠ .none) (hf : q.inFlight.isSome) : q.turn t = (q, t) := by
  obtain ⟨checks, ht⟩ := Task.eq_writing h
  generalize t.work = w at h ht
  subst ht
  obtain ⟨chans, putBack⟩ := w
  cases chans with
  | cons c chans => simp [turn, hf]
  | nil =>
    cases putBack with
    | cons ch putBack => simp [turn, hf]
    | nil => exact absurd rfl h

/-- A turn at a channel that has nothing to put back. -/
theorem turn_of_clear {t : Task} {q : Port} {ch : Ch} {rest : List Ch} (hw : t.work = ⟨[], ch :: rest⟩)
    (hd : q.dutyBeforeLoss ch = none) :
    (q.turn t).1 = q ∧
      ((q.turn t).2 = t ∨
        (¬ q.inFlight.isSome ∧ q.paused = true ∧ (q.turn t).2.work = .none) ∨
        (q.turn t).2.work = ⟨[], rest⟩) := by
  obtain ⟨checks, ht⟩ := Task.eq_writing (t := t) (by rw [hw]; exact nofun)
  rw [hw] at ht
  subst ht
  simp only [turn]
  by_cases hf : q.inFlight.isSome
  · rw [if_pos hf]
    exact ⟨rfl, .inl rfl⟩
  · rw [if_neg hf]
    by_cases hp : q.paused = true
    · rw [if_pos hp]
      exact ⟨rfl, .inr (.inl ⟨hf, hp, rfl⟩)⟩
    · rw [if_neg hp, hd]
      exact ⟨rfl, .inr (.inr rfl)⟩

/-- A turn both tasks take at the same command or channel. -/
theorem turn_thins {mask : BitVec 16} {ts tp : Task} (q : Port) (h : Thins mask ts.work tp.work)
    (hhead : tp.work.chans ≠ [] ∨ ∃ ch rest, tp.work.putBack = ch :: rest ∧ inMask mask ch = true) :
    (q.turn ts).1 = (q.turn tp).1 ∧ Thins mask (q.turn ts).2.work (q.turn tp).2.work ∧
      (q.turn ts).2.isScanning = false ∧ (q.turn tp).2.isScanning = false := by
  obtain ⟨hc, hp⟩ := h
  have hwp : tp.work ≠ .none := by
    intro hn
    rw [hn] at hhead
    rcases hhead with hh | ⟨ch, rest, hh, -⟩
    · exact hh rfl
    · cases hh
  have hws : ts.work ≠ .none := by
    intro hn
    rw [hn] at hc hp
    rcases hhead with hh | ⟨ch, rest, hh, hm⟩
    · exact hh hc.symm
    · rw [hh, List.filter_cons_of_pos hm] at hp
      cases hp
  obtain ⟨ks, hts⟩ := Task.eq_writing hws
  obtain ⟨kp, htp⟩ := Task.eq_writing hwp
  generalize ts.work = ws at *
  generalize tp.work = wp at *
  subst hts htp
  obtain ⟨cs, bs⟩ := ws
  obtain ⟨cp, bp⟩ := wp
  obtain rfl : cs = cp := hc
  obtain rfl : bs = bp.filter (inMask mask) := hp
  cases cs with
  | cons c cs =>
    obtain ⟨ch, pct⟩ := c
    simp only [turn]
    by_cases hf : q.inFlight.isSome
    · rw [if_pos hf, if_pos hf]
      exact ⟨rfl, ⟨rfl, rfl⟩, rfl, rfl⟩
    · by_cases hpa : q.paused
      · simp only [hf, hpa]
        exact ⟨rfl, ⟨rfl, rfl⟩, rfl, rfl⟩
      · simp only [hf, hpa]
        exact ⟨rfl, ⟨rfl, rfl⟩, rfl, rfl⟩
  | nil =>
    rcases hhead with hh | ⟨ch, rest, hh, hm⟩
    · exact absurd rfl hh
    · obtain rfl : bp = ch :: rest := hh
      simp only [List.filter_cons_of_pos hm, turn]
      by_cases hf : q.inFlight.isSome
      · rw [if_pos hf, if_pos hf]
        exact ⟨rfl, ⟨rfl, (List.filter_cons_of_pos hm).symm⟩, rfl, rfl⟩
      · by_cases hpa : q.paused
        · simp only [hf, hpa]
          exact ⟨rfl, ⟨rfl, rfl⟩, rfl, rfl⟩
        · simp only [hf, hpa]
          cases q.dutyBeforeLoss ch with
          | none => exact ⟨rfl, ⟨rfl, rfl⟩, rfl, rfl⟩
          | some duty => exact ⟨rfl, ⟨rfl, rfl⟩, rfl, rfl⟩

/-- A pause ends the put-backs, whichever channel is next. -/
theorem turn_of_paused {t : Task} {q : Port} (hc : t.work.chans = []) (hb : t.work.putBack ≠ [])
    (hf : ¬ q.inFlight.isSome) (hp : q.paused = true) :
    (q.turn t).1 = q ∧ (q.turn t).2.work = .none ∧ (q.turn t).2.isScanning = false := by
  have hw : t.work ≠ .none := by
    intro hn
    rw [hn] at hb
    exact hb rfl
  obtain ⟨checks, ht⟩ := Task.eq_writing hw
  generalize t.work = w at *
  subst ht
  obtain ⟨chans, putBack⟩ := w
  subst hc
  cases putBack with
  | nil => exact absurd rfl hb
  | cons ch putBack => simp [turn, hf, hp, Task.work, Work.none, Task.isScanning]

end Port

namespace Backend

/-- Turns at channels that have nothing to put back. -/
theorem run_turns {s : Backend} {rest : List Ch} {checks : Bool} (hf : ¬ s.port.inFlight.isSome)
    (hp : s.port.paused = false) :
    ∀ {clear : List Ch}, (∀ i ∈ clear, s.port.dutyBeforeLoss i = none) →
      s.task = .writing [] (clear ++ rest) checks →
      Machine.run move s (clear.map fun _ => .inr .turn) = { s with task := .writing [] rest checks }
  | [], _, ht => by
    simp only [List.nil_append] at ht
    simp [← ht]
  | i :: clear, hc, ht => by
    have hturn : s.move (.inr .turn) = { s with task := .writing [] (clear ++ rest) checks } := by
      simp [move, ht, Port.turn, hf, hp, hc i List.mem_cons_self]
    rw [List.map_cons, Machine.run_cons, hturn]
    exact run_turns (s := { s with task := .writing [] (clear ++ rest) checks }) hf hp
      (fun j hj => hc j (List.mem_cons_of_mem _ hj)) rfl

/-! ## The two backends -/

/-- `s` was given the channels of the mask, `p` all of them. Until the closure is issued they have the
same task. -/
structure Matched (mask : BitVec 16) (s p : Backend) : Prop where
  port : s.port = p.port
  clear : p.port.Clear fun i => inMask mask i = false
  work : (s.task = p.task ∧ Thins mask (s.queued.getD .none) (p.queued.getD .none)) ∨
    (s.task ≠ p.task ∧ s.queued = none ∧ p.queued = none ∧ Thins mask s.task.work p.task.work)

namespace Matched

variable {mask : BitVec 16} {s p : Backend}

/-- After the closures are issued, whatever the two tasks are. -/
theorem of_apart (hport : s.port = p.port) (hclear : p.port.Clear fun i => inMask mask i = false)
    (hs : s.queued = none) (hp : p.queued = none) (hw : Thins mask s.task.work p.task.work) : Matched mask s p := by
  refine ⟨hport, hclear, ?_⟩
  by_cases ht : s.task = p.task
  · exact .inl ⟨ht, by rw [hs, hp]; exact Thins.none mask⟩
  · exact .inr ⟨ht, hs, hp, hw⟩

theorem left_eq (h : Matched mask s p) : s.left = p.left := by
  have hfilter : ∀ l : List Ch, (l.filter (inMask mask)).filter (fun i => (p.port.dutyBeforeLoss i).isSome) =
      l.filter fun i => (p.port.dutyBeforeLoss i).isSome := by
    intro l
    rw [List.filter_filter]
    refine List.filter_congr fun i _ => ?_
    cases hm : inMask mask i with
    | true => simp
    | false => simp [h.clear.clear i hm]
  unfold left
  rw [h.port]
  rcases h.work with ⟨ht, hq⟩ | ⟨-, hs, hp, hw⟩
  · rw [ht]
    simp only [List.filter_append, hq.chans, hq.putBack, hfilter]
  · rw [hs, hp]
    simp only [List.filter_append, hw.chans, hw.putBack, hfilter]

theorem env (h : Matched mask s p) {e : PortEvent} (he : e ≠ .bump) :
    Matched mask (s.move (.inl e)) (p.move (.inl e)) := by
  refine ⟨?_, h.clear.step he, h.work⟩
  show s.port.step e = p.port.step e
  rw [h.port]

theorem drop (h : Matched mask s p) : Matched mask (s.move (.inr .drop)) (p.move (.inr .drop)) := by
  refine ⟨h.port, h.clear, ?_⟩
  rcases h.work with ⟨ht, -⟩ | ⟨ht, -, -, hw⟩
  · exact .inl ⟨ht, Thins.none mask⟩
  · exact .inr ⟨ht, rfl, rfl, hw⟩

theorem move_issue (s : Backend) :
    (s.move (.inr .issue)).port = s.port ∧
      (s.task = .done → (s.move (.inr .issue)).task.work = s.queued.getD .none ∧
        (s.move (.inr .issue)).queued = none ∧ (s.move (.inr .issue)).task.isScanning = false) ∧
      (s.task ≠ .done → s.move (.inr .issue) = s) := by
  obtain ⟨port, lost, ticking, queued, task⟩ := s
  cases queued <;> cases task <;> simp [move, Task.start, Task.work, Task.isScanning, Work.none]

/-- Where both tasks are the same, the backends make the same moves. -/
theorem same_task (h : Matched mask s p) (ht : s.task = p.task) (own : OwnMove) :
    Matched mask (s.move (.inr own)) (p.move (.inr own)) ∧
      ((s.move (.inr own)).task = (p.move (.inr own)).task ∨
        (s.move (.inr own)).task.isScanning = false ∧ (p.move (.inr own)).task.isScanning = false) := by
  have hq : Thins mask (s.queued.getD .none) (p.queued.getD .none) := by
    rcases h.work with ⟨-, hq⟩ | ⟨hne, -⟩
    · exact hq
    · exact absurd ht hne
  cases own with
  | issue =>
    obtain ⟨hsp, hsd, hsn⟩ := move_issue s
    obtain ⟨hpp, hpd, hpn⟩ := move_issue p
    by_cases hd : s.task = .done
    · obtain ⟨hsw, hsq, hss⟩ := hsd hd
      obtain ⟨hpw, hpq, hps⟩ := hpd (ht ▸ hd)
      refine ⟨of_apart ?_ ?_ hsq hpq ?_, .inr ⟨hss, hps⟩⟩
      · rw [hsp, hpp, h.port]
      · rw [hpp]
        exact h.clear
      · rw [hsw, hpw]
        exact hq
    · rw [hsn hd, hpn (ht ▸ hd)]
      exact ⟨h, .inl ht⟩
  | drop => exact ⟨h.drop, .inl ht⟩
  | turn =>
    have hturn : s.port.turn s.task = p.port.turn p.task := by rw [h.port, ht]
    refine ⟨⟨congrArg Prod.fst hturn, ?_, .inl ⟨congrArg Prod.snd hturn, hq⟩⟩, .inl (congrArg Prod.snd hturn)⟩
    exact h.clear.turn p.task

/-- Where the tasks differ, a closure that is issued or dropped is not there. -/
theorem no_closure {t : Backend} (h : t.queued = none) {own : OwnMove} (hown : own ≠ .turn) : t.move (.inr own) = t := by
  obtain ⟨port, lost, ticking, queued, task⟩ := t
  obtain rfl : queued = none := h
  cases own with
  | issue => cases task <;> rfl
  | drop => rfl
  | turn => exact absurd rfl hown

/-- A turn at the same command or channel. -/
theorem both_turn (h : Matched mask s p) (hs : s.queued = none) (hp : p.queued = none)
    (hw : Thins mask s.task.work p.task.work)
    (hhead : p.task.work.chans ≠ [] ∨ ∃ ch rest, p.task.work.putBack = ch :: rest ∧ inMask mask ch = true) :
    Matched mask (s.move (.inr .turn)) (p.move (.inr .turn)) ∧ (s.move (.inr .turn)).task.isScanning = false ∧
      (p.move (.inr .turn)).task.isScanning = false := by
  obtain ⟨hport, hwork, hss, hsp⟩ := p.port.turn_thins hw hhead
  rw [← h.port] at hport hwork hss
  refine ⟨of_apart ?_ (h.clear.turn p.task) hs hp ?_, hss, hsp⟩
  · show (s.port.turn s.task).1 = (p.port.turn p.task).1
    rw [hport, h.port]
  · show Thins mask (s.port.turn s.task).2.work (p.port.turn p.task).2.work
    rw [← h.port]
    exact hwork

theorem locked_eq (h : Matched mask s p) (hs : s.task.isScanning → s.task = p.task) (hp : p.locked = false) :
    s.locked = false := by
  unfold locked at hp ⊢
  rw [Bool.or_eq_false_iff] at hp ⊢
  refine ⟨h.port ▸ hp.1, ?_⟩
  cases hsc : s.task.isScanning with
  | false => rfl
  | true => rw [← hp.2, ← hs hsc, hsc]

/-- The same the other way round. -/
theorem locked_eq' (h : Matched mask s p) (hp : p.task.isScanning → s.task = p.task) (hs : s.locked = false) :
    p.locked = false := by
  unfold locked at hs ⊢
  rw [Bool.or_eq_false_iff] at hs ⊢
  refine ⟨h.port ▸ hs.1, ?_⟩
  cases hsc : p.task.isScanning with
  | false => rfl
  | true => rw [← hs.2, hp hsc, hsc]

theorem allowed_of_port {e : PortEvent} (hport : s.port = p.port) (hl : p.locked = false → s.locked = false)
    (h : p.Allowed (.inl e)) : s.Allowed (.inl e) := by
  cases e with
  | call channel pct => exact hl h
  | latch f => exact hl h
  | reply sent =>
    show s.port.inFlight.isSome = true
    rw [hport]
    exact h
  | _ => trivial

/-! ### The plain backend's moves, answered by the other -/

theorem along_own (s : Backend) (ms : List OwnMove) : Machine.Along move Allowed s (ms.map Sum.inr) := by
  induction ms generalizing s with
  | nil => trivial
  | cons m ms ih => exact ⟨by cases m <;> trivial, ih _⟩

/-- A turn at a channel the mask leaves out has nothing to put back; only a pause, which ends the
whole list, is answered by a turn. -/
theorem thin_turn_of_clear (h : Matched mask s p) (hns : s.task.isScanning = false) (hsq : s.queued = none)
    (hpq : p.queued = none) (hw : Thins mask s.task.work p.task.work) {ch : Ch} {rest : List Ch}
    (hb : p.task.work = ⟨[], ch :: rest⟩) (hmask : inMask mask ch = false) :
    ∃ ms : List OwnMove, Matched mask (Machine.run move s (ms.map Sum.inr)) (p.move (.inr .turn)) ∧
      (Machine.run move s (ms.map Sum.inr)).task.isScanning = false := by
  have hw' : Thins mask s.task.work ⟨[], rest⟩ := by
    rw [hb] at hw
    exact ⟨hw.chans, hw.putBack.trans (List.filter_cons_of_neg (by simp [hmask]))⟩
  obtain ⟨hport, hcase⟩ := Port.turn_of_clear hb (h.clear.clear ch hmask)
  have hclear := h.clear.turn p.task
  have hstay : Thins mask s.task.work (p.port.turn p.task).2.work → Matched mask s (p.move (.inr .turn)) :=
    fun ht => of_apart (h.port.trans hport.symm) hclear hsq hpq ht
  rcases hcase with htask | ⟨hf, hpause, hnone⟩ | hrest
  · exact ⟨[], hstay (by rw [htask]; exact hw), hns⟩
  · have hthin : Thins mask .none (p.port.turn p.task).2.work := by
      rw [hnone]
      exact Thins.none mask
    by_cases hsw : s.task.work.putBack = []
    · have hsn : s.task.work = .none := by
        generalize s.task.work = w at hsw hw'
        obtain ⟨chans, putBack⟩ := w
        obtain rfl : chans = [] := hw'.chans
        obtain rfl : putBack = [] := hsw
        rfl
      exact ⟨[], hstay (hsn ▸ hthin), hns⟩
    · rw [← h.port] at hf hpause
      obtain ⟨hsp, hsn, hss⟩ := Port.turn_of_paused hw'.chans hsw hf hpause
      refine ⟨[.turn], of_apart (hsp.trans (h.port.trans hport.symm)) hclear hsq hpq ?_, hss⟩
      show Thins mask (s.port.turn s.task).2.work _
      rw [hsn]
      exact hthin
  · exact ⟨[], hstay (hrest ▸ hw'), hns⟩

theorem thin_turn (h : Matched mask s p) (hns : s.task.isScanning = false) (hsq : s.queued = none)
    (hpq : p.queued = none) (hw : Thins mask s.task.work p.task.work) :
    ∃ ms : List OwnMove, Matched mask (Machine.run move s (ms.map Sum.inr)) (p.move (.inr .turn)) ∧
      (Machine.run move s (ms.map Sum.inr)).task.isScanning = false := by
  by_cases hpw : p.task.work = .none
  · obtain ⟨hport, hwork⟩ := p.port.turn_of_none hpw
    refine ⟨[], of_apart (h.port.trans hport.symm) (h.clear.turn p.task) hsq hpq ?_, hns⟩
    rw [hpw] at hw
    show Thins mask s.task.work (p.port.turn p.task).2.work
    rw [hwork, hw.none_left]
    exact Thins.none mask
  by_cases hhead : p.task.work.chans ≠ [] ∨ ∃ ch rest, p.task.work.putBack = ch :: rest ∧ inMask mask ch = true
  · obtain ⟨hmat, hss, -⟩ := h.both_turn hsq hpq hw hhead
    exact ⟨[.turn], hmat, hss⟩
  obtain ⟨hc, hnone⟩ := not_or.mp hhead
  obtain ⟨ch, rest, hb⟩ : ∃ ch rest, p.task.work = ⟨[], ch :: rest⟩ := by
    generalize p.task.work = w at hpw hc
    obtain ⟨chans, putBack⟩ := w
    obtain rfl : chans = [] := not_not.mp hc
    cases putBack with
    | nil => exact absurd rfl hpw
    | cons ch rest => exact ⟨ch, rest, rfl⟩
  have hmask : inMask mask ch = false := by
    cases hm : inMask mask ch with
    | false => rfl
    | true => exact absurd ⟨ch, rest, by rw [hb], hm⟩ hnone
  exact h.thin_turn_of_clear hns hsq hpq hw hb hmask

theorem thin_move (h : Matched mask s p) (hs : s.task.isScanning → s.task = p.task) {m : PortEvent ⊕ OwnMove}
    (hm : m ≠ .inl .bump) (ha : p.Allowed m) :
    ∃ ms, Machine.visible ms = Machine.visible [m] ∧ Machine.Along move Allowed s ms ∧
      Matched mask (Machine.run move s ms) (p.move m) ∧
      ((Machine.run move s ms).task.isScanning → (Machine.run move s ms).task = (p.move m).task) := by
  rcases m with e | own
  · have he : e ≠ .bump := fun h => hm (congrArg Sum.inl h)
    exact ⟨[.inl e], rfl, ⟨allowed_of_port h.port (h.locked_eq hs) ha, trivial⟩, h.env he, hs⟩
  by_cases ht : s.task = p.task
  · obtain ⟨hmat, he | ⟨hn, -⟩⟩ := h.same_task ht own
    · exact ⟨[.inr own], rfl, along_own s [own], hmat, fun _ => he⟩
    · exact ⟨[.inr own], rfl, along_own s [own], hmat, fun hsc => absurd (hn.symm.trans hsc) (by decide)⟩
  obtain ⟨-, hsq, hpq, hw⟩ := h.work.resolve_left fun hl => ht hl.1
  have hns : s.task.isScanning = false := Bool.eq_false_iff.mpr fun hsc => ht (hs hsc)
  by_cases hown : own = .turn
  · subst hown
    obtain ⟨ms, hmat, hss⟩ := h.thin_turn hns hsq hpq hw
    exact ⟨ms.map Sum.inr, Machine.visible_map_inr ms, along_own s ms, hmat,
      fun hsc => absurd (hss.symm.trans hsc) (by decide)⟩
  · rw [no_closure hpq hown]
    exact ⟨[], rfl, trivial, h, hs⟩

/-! ### The other's moves, answered by the plain backend -/

theorem full_turn (h : Matched mask s p) (hnp : p.task.isScanning = false) (hsq : s.queued = none)
    (hpq : p.queued = none) (hw : Thins mask s.task.work p.task.work) :
    ∃ ms : List OwnMove, Matched mask (s.move (.inr .turn)) (Machine.run move p (ms.map Sum.inr)) ∧
      (Machine.run move p (ms.map Sum.inr)).task.isScanning = false := by
  have hstay : (s.port.turn s.task).1 = s.port → Thins mask (s.port.turn s.task).2.work p.task.work →
      Matched mask (s.move (.inr .turn)) p := fun hport ht => of_apart (hport.trans h.port) h.clear hsq hpq ht
  by_cases hsw : s.task.work = .none
  · obtain ⟨hport, hwork⟩ := s.port.turn_of_none hsw
    exact ⟨[], hstay hport (by rw [hwork, ← hsw]; exact hw), hnp⟩
  by_cases hf : s.port.inFlight.isSome
  · have hturn := Port.turn_of_inFlight hsw hf
    exact ⟨[], hstay (congrArg Prod.fst hturn) (by rw [hturn]; exact hw), hnp⟩
  by_cases hc : p.task.work.chans ≠ []
  · obtain ⟨hmat, -, hps⟩ := h.both_turn hsq hpq hw (.inl hc)
    exact ⟨[.turn], hmat, hps⟩
  have hc : p.task.work.chans = [] := not_not.mp hc
  obtain ⟨ch, rest, hb⟩ : ∃ ch rest, s.task.work.putBack = ch :: rest := by
    have hsc := hw.chans.trans hc
    generalize s.task.work = w at hsw hsc
    obtain ⟨chans, putBack⟩ := w
    obtain rfl : chans = [] := hsc
    cases putBack with
    | nil => exact absurd rfl hsw
    | cons ch rest => exact ⟨ch, rest, rfl⟩
  obtain ⟨clear, rest', hpb, hclear, hmask, hrest⟩ := List.filter_eq_cons_iff.mp (hw.putBack.symm.trans hb)
  have hfp : ¬ p.port.inFlight.isSome := h.port ▸ hf
  have hpw : p.task.work ≠ .none := by
    intro hn
    rw [hn] at hpb
    simp [Work.none] at hpb
  cases hpause : p.port.paused with
  | true =>
    have hsp : s.port.paused = true := by rw [h.port, hpause]
    obtain ⟨hsport, hsn, -⟩ := Port.turn_of_paused (hw.chans.trans hc) (by rw [hb]; simp) hf hsp
    obtain ⟨hpport, hpn, hps⟩ := Port.turn_of_paused hc (by rw [hpb]; simp) hfp hpause
    refine ⟨[.turn], of_apart ?_ (h.clear.turn p.task) hsq hpq ?_, hps⟩
    · exact hsport.trans (h.port.trans hpport.symm)
    · show Thins mask (s.port.turn s.task).2.work (p.port.turn p.task).2.work
      rw [hsn, hpn]
      exact Thins.none mask
  | false =>
    obtain ⟨checks, htask⟩ := Task.eq_writing hpw
    rw [hc, hpb] at htask
    have hskip := run_turns hfp hpause (fun i hi => h.clear.clear i (by simpa using hclear i hi)) htask
    have hthin : Thins mask s.task.work (Task.writing [] (ch :: rest') checks).work := by
      refine ⟨hw.chans.trans hc, hb.trans ?_⟩
      rw [← hrest]
      exact (List.filter_cons_of_pos hmask).symm
    have hmid : Matched mask s { p with task := .writing [] (ch :: rest') checks } :=
      of_apart h.port h.clear hsq hpq hthin
    obtain ⟨hmat, -, hps⟩ := hmid.both_turn hsq hpq hthin (.inr ⟨ch, rest', rfl, hmask⟩)
    refine ⟨clear.map (fun _ => OwnMove.turn) ++ [.turn], ?_⟩
    have hrun : Machine.run move p ((clear.map (fun _ => OwnMove.turn) ++ [OwnMove.turn]).map Sum.inr) =
        { p with task := .writing [] (ch :: rest') checks }.move (.inr .turn) := by
      rw [List.map_append, List.map_map, Machine.run_append]
      exact congrArg (move · (.inr .turn)) hskip
    rw [hrun]
    exact ⟨hmat, hps⟩

theorem full_move (h : Matched mask s p) (hp : p.task.isScanning → s.task = p.task) {m : PortEvent ⊕ OwnMove}
    (hm : m ≠ .inl .bump) (ha : s.Allowed m) :
    ∃ ms, Machine.visible ms = Machine.visible [m] ∧ Machine.Along move Allowed p ms ∧
      Matched mask (s.move m) (Machine.run move p ms) ∧
      ((Machine.run move p ms).task.isScanning → (s.move m).task = (Machine.run move p ms).task) := by
  rcases m with e | own
  · have he : e ≠ .bump := fun h => hm (congrArg Sum.inl h)
    exact ⟨[.inl e], rfl, ⟨allowed_of_port h.port.symm (h.locked_eq' hp) ha, trivial⟩, h.env he, hp⟩
  by_cases ht : s.task = p.task
  · obtain ⟨hmat, he | ⟨-, hn⟩⟩ := h.same_task ht own
    · exact ⟨[.inr own], rfl, along_own p [own], hmat, fun _ => he⟩
    · exact ⟨[.inr own], rfl, along_own p [own], hmat, fun hsc => absurd (hn.symm.trans hsc) (by decide)⟩
  obtain ⟨-, hsq, hpq, hw⟩ := h.work.resolve_left fun hl => ht hl.1
  have hnp : p.task.isScanning = false := Bool.eq_false_iff.mpr fun hsc => ht (hp hsc)
  by_cases hown : own = .turn
  · subst hown
    obtain ⟨ms, hmat, hps⟩ := h.full_turn hnp hsq hpq hw
    exact ⟨ms.map Sum.inr, Machine.visible_map_inr ms, along_own p ms, hmat,
      fun hsc => absurd (hps.symm.trans hsc) (by decide)⟩
  · rw [no_closure hsq hown]
    exact ⟨[], rfl, trivial, h, hp⟩

end Matched

/-! ## The tick -/

theorem lostMask_of_ne {s : Backend} {g : Nat} (h : ∀ mask, s.lostDuties ≠ some (g, mask)) :
    s.lostMask g = BitVec.allOnes 16 := by
  unfold lostMask
  split
  · next g' mask hl =>
    rw [if_neg]
    rintro rfl
    exact h mask hl
  · rfl

/-- A tick whose generation no task has looked at asks for every skipped channel. -/
theorem decide_eq_plain {s : Backend} {g : Nat} (h : s.lostMask g = BitVec.allOnes 16) (chans : List (Nat × Nat))
    (skipped : Ch → Bool) (wanted : Bool) : s.decide g chans skipped wanted = s.decidePlain chans skipped wanted := by
  unfold Backend.decide decidePlain
  rw [h, List.filter_eq_self.mpr fun i _ => inMask_allOnes i]

theorem enqueue_queued {s : Backend} (hq : s.queued = none) (w : Work) (wanted : Bool) :
    (s.enqueue w wanted).queued.getD .none = w := by
  unfold enqueue
  split
  · next h =>
    obtain ⟨chans, putBack⟩ := w
    simp only [Bool.and_eq_true, List.isEmpty_iff] at h
    rw [hq, show chans = [] from h.1.1, show putBack = [] from h.1.2]
    rfl
  · rfl

theorem enqueue_task (s : Backend) (w : Work) (wanted : Bool) : (s.enqueue w wanted).task = s.task := by
  unfold enqueue
  split <;> rfl

theorem enqueue_port (s : Backend) (w : Work) (wanted : Bool) : (s.enqueue w wanted).port = s.port := by
  unfold enqueue
  split <;> rfl

theorem matched_decide {s : Backend} {g : Nat} (hq : s.queued = none)
    (hc : s.port.Clear fun i => inMask (s.lostMask g) i = false) (chans : List (Nat × Nat)) (skipped : Ch → Bool)
    (wanted : Bool) :
    Matched (s.lostMask g) (s.decide g chans skipped wanted) (s.decidePlain chans skipped wanted) := by
  have hqueue := enqueue_queued (s := { s with ticking := none }) hq
  unfold Backend.decide decidePlain
  refine ⟨?_, ?_, .inl ⟨?_, ?_⟩⟩
  · rw [enqueue_port, enqueue_port]
  · rw [enqueue_port]
    exact hc
  · rw [enqueue_task, enqueue_task]
  · rw [hqueue, hqueue]
    exact ⟨rfl, rfl⟩

/-- Matched backends come to the same ports, with the same work left, under the same port events. -/
theorem Matched.reaches_iff {mask : BitVec 16} {s p : Backend} (h : Matched mask s p) (ht : s.task = p.task)
    {w : List PortEvent} (hw : .bump ∉ w) (q : Port) (left : Work) : p.Reaches w q left ↔ s.Reaches w q left := by
  have hok : ∀ ms : List (PortEvent ⊕ OwnMove), Machine.visible ms = w → ∀ m ∈ ms, m ≠ .inl .bump := by
    rintro ms rfl m hm rfl
    exact hw (List.mem_filterMap.mpr ⟨_, hm, rfl⟩)
  constructor
  · rintro ⟨ms, hv, ha, hport, hleft⟩
    obtain ⟨ms', hv', ha', hmat, -⟩ := Machine.exists_run_of_matched
      (fun s p m hm (hR : Matched mask s p ∧ (s.task.isScanning → s.task = p.task)) hG => hR.1.thin_move hR.2 hm hG)
      ms s p (hok ms hv) ⟨h, fun _ => ht⟩ ha
    exact ⟨ms', hv'.trans hv, ha', hmat.port.trans hport, hmat.left_eq.trans hleft⟩
  · rintro ⟨ms, hv, ha, hport, hleft⟩
    obtain ⟨ms', hv', ha', hmat, -⟩ := Machine.exists_run_of_matched
      (fun p s m hm (hR : Matched mask s p ∧ (p.task.isScanning → s.task = p.task)) hG => hR.1.full_move hR.2 hm hG)
      ms p s (hok ms hv) ⟨h, fun _ => ht⟩ ha
    exact ⟨ms', hv'.trans hv, ha', hmat.port.symm.trans hport, hmat.left_eq.symm.trans hleft⟩

/-- **The mask hides nothing.** In every state a run reaches: a channel whose bit is clear in a mask of
the current generation has no lost duty; a tick whose generation has not moved since it was read comes
to the same ports, with the same put-backs and the same left to do, as the tick that asks for every
skipped channel, until the generation moves; and a tick that reads a generation no task has recorded
a mask for is that tick. -/
theorem lost_mask_sound (q₀ : Port) (es : List BackendEvent) :
    let s := Machine.run step (start q₀) es
    (∀ g mask, s.lostDuties = some (g, mask) → g = s.port.generation →
      ∀ i, inMask mask i = false → s.port.dutyBeforeLoss i = none) ∧
    (∀ g, s.ticking = some g → g = s.port.generation → ∀ chans skipped wanted w, PortEvent.bump ∉ w → ∀ q left,
      (s.decidePlain chans skipped wanted).Reaches w q left ↔ (s.decide g chans skipped wanted).Reaches w q left) ∧
    (∀ g, (∀ mask, s.lostDuties ≠ some (g, mask)) → ∀ chans skipped wanted,
      s.decide g chans skipped wanted = s.decidePlain chans skipped wanted) := by
  intro s
  have hinv : s.Inv := run_inv q₀ es
  refine ⟨fun g mask hl hg i hi => ((hinv.stored g mask hl).clear hg).clear i hi, ?_, ?_⟩
  · rintro g hg rfl chans skipped wanted w hw q left
    have hq : s.queued = none := hinv.awaited (by simp [hg])
    rcases hinv.clear with hm | hc
    · rw [decide_eq_plain hm]
    · have hmat := matched_decide hq hc chans skipped wanted
      refine hmat.reaches_iff ?_ hw q left
      unfold Backend.decide decidePlain
      rw [enqueue_task, enqueue_task]
  · intro g hg chans skipped wanted
    exact decide_eq_plain (lostMask_of_ne hg) chans skipped wanted

/-! ### A generation that moves after the decision -/

/-- Channel 0 was commanded, a tick that skips it has found it clear, and the next tick has read the
generation. -/
def settled : Backend :=
  Machine.run step (start ⟨.new, ⟨0, .empty⟩, 0, false, none, []⟩)
    ([.move (.inl (.call 0 50)), .move (.inl (.reply none)), .readGeneration, .decide [] (· == 0) false,
      .move (.inr .issue)] ++ List.replicate 15 (.move (.inr .turn)) ++ [.readGeneration])

theorem putBacks_of_idle {s : Backend} (hq : s.queued = none) (hw : s.task.work = .none)
    (ms : List (PortEvent ⊕ OwnMove)) : (Machine.run move s ms).port.putBacks = s.port.putBacks := by
  have hidle : ∀ (t : Backend) (m : PortEvent ⊕ OwnMove),
      (t.queued = none ∧ t.task.work = .none ∧ t.port.putBacks = s.port.putBacks) →
      ((t.move m).queued = none ∧ (t.move m).task.work = .none ∧ (t.move m).port.putBacks = s.port.putBacks) := by
    rintro t m ⟨hq, hw, hl⟩
    rcases m with e | own
    · exact ⟨hq, hw, (t.port.step_putBacks e).trans hl⟩
    · by_cases hown : own = .turn
      · subst hown
        obtain ⟨hport, hwork⟩ := t.port.turn_of_none hw
        exact ⟨hq, hwork, (congrArg Port.putBacks hport).trans hl⟩
      · rw [Matched.no_closure hq hown]
        exact ⟨hq, hw, hl⟩
  exact (Machine.run_inv hidle s ms ⟨hq, hw, rfl⟩).2.2

/-- A reconnect between the tick's decision and its task: the tick that asks puts the channel back, the
other has started no task. -/
theorem bumped_tick_differs :
    settled.ticking = some settled.port.generation ∧
    (∃ q left, (settled.decidePlain [] (· == 0) false).Reaches [.bump] q left ∧ q.putBacks = [(0, 50)]) ∧
    ¬ ∃ q left, (settled.decide settled.port.generation [] (· == 0) false).Reaches [.bump] q left ∧
      q.putBacks = [(0, 50)] := by
  refine ⟨by decide, ⟨_, _, ⟨[.inl .bump, .inr .issue, .inr .turn], rfl, ?_, rfl, rfl⟩, by decide⟩, ?_⟩
  · exact ⟨trivial, trivial, trivial, trivial⟩
  · rintro ⟨q, left, ⟨ms, -, -, rfl, -⟩, hlog⟩
    rw [putBacks_of_idle (by decide) (by decide)] at hlog
    revert hlog
    decide

end Backend

end ControlOfc.OpenFan
