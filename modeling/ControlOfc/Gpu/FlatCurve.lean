import ControlOfc.Gpu.CardText
import ControlOfc.Gpu.World
/-! # A static speed on a PMFW card (hwmon/gpu_fan.rs:289-327, 449-505)

A card takes a point that its indexes and its ranges allow, and works with what is staged from the next commit
on. A static speed writes five points: a card with fewer refuses the first too many, and one with more keeps
what is staged behind them.

* `writeFanCurve_bench`: what is sent, and what the card has from it.
* `staged_foldl`: where a staged point comes from.
-/
namespace ControlOfc.Gpu
open Prog Text

/-! ## The card as a device -/

namespace PmfwCard

/-- The points the card takes. -/
def Accepts (card : PmfwCard) (p : FanCurvePoint) : Prop :=
  p.index < card.points.length ∧ (card.tempRange.1 ≤ p.tempC ∧ p.tempC ≤ card.tempRange.2) ∧
    card.speedRange.1 ≤ p.speedPct ∧ p.speedPct ≤ card.speedRange.2

instance (card : PmfwCard) (p : FanCurvePoint) : Decidable (card.Accepts p) := inferInstanceAs (Decidable (_ ∧ _))

def stage (card : PmfwCard) (p : FanCurvePoint) : PmfwCard :=
  { card with
    staged := card.staged.set p.index (p.tempC, p.speedPct)
    staged_length := by simp [card.staged_length] }

def commit (card : PmfwCard) : PmfwCard :=
  { card with
    points := card.staged
    staged_length := rfl
    nonempty := card.staged_length ▸ card.nonempty
    le_255 := card.staged_length ▸ card.le_255 }

/-- The speed, clamped into what the card allows. -/
def clamp (card : PmfwCard) (speedPct : Nat) : Nat := min (max speedPct card.speedRange.1) card.speedRange.2

end PmfwCard

/-- A card, and the points that were sent to it. -/
structure Bench where
  card : PmfwCard
  sent : List FanCurvePoint

/-- How the files answer: the card's curve file as the card does, every other one as `others` says. -/
def Bench.exec (path : String) (e : Effect) (others : (e : Effect) → Answer e) (b : Bench) : Answer e × Bench :=
  match e with
  | .readFanCurve p => (if p = path then (parseFanCurve b.card.text).toOption else others (.readFanCurve p), b)
  | .writeCurve p (.point q) =>
    if p = path then
      if b.card.Accepts q then (true, ⟨b.card.stage q, b.sent ++ [q]⟩) else (false, ⟨b.card, b.sent ++ [q]⟩)
    else (others (.writeCurve p (.point q)), b)
  | .writeCurve p .commit => if p = path then (true, ⟨b.card.commit, b.sent⟩) else (others (.writeCurve p .commit), b)
  | e => (others e, b)

/-! ## What is sent -/

section Sending

variable {path : String} {card : PmfwCard}

/-- A write of zero-RPM, or a reading of it, is none of the card's curve file. -/
theorem disableUnlessPreserved_bench (paths : CardPaths) (preserve : Bool) (b : Bench) :
    Triple (Bench.exec path) (· = ·) (fun _ _ => True) (· = b) (disableUnlessPreserved paths preserve) fun _ => (· = b) := by
  have hread : ∀ p, Triple (Bench.exec path) (· = ·) (fun _ _ => True) (· = b) (perform (.readZeroRpm p)) fun _ => (· = b) :=
    fun p => .ask (fun _ _ => trivial) (fun _ _ h => h) fun _ _ _ he h => he ▸ h
  have hwrite : ∀ p c, Triple (Bench.exec path) (· = ·) (fun _ _ => True) (· = b) (perform (.writeZero p c)) fun _ => (· = b) :=
    fun p c => .ask (fun _ _ => trivial) (fun _ _ h => h) fun _ _ _ he h => he ▸ h
  unfold disableUnlessPreserved disableZeroRpm
  split
  · refine .bind (.bind (hread _) fun shown => ?_) fun _ => .pure fun _ h => h
    split
    · exact .pure fun _ h => h
    · refine .bind (hwrite _ _) fun ok => ?_
      cases ok with
      | true => exact hwrite _ _
      | false => exact .pure fun _ h => h
  · exact .pure fun _ h => h

@[simp] theorem PmfwCard.accepts_stage (p q : FanCurvePoint) : (card.stage q).Accepts p ↔ card.Accepts p := Iff.rfl

theorem PmfwCard.accepts_foldl (ps : List FanCurvePoint) (p : FanCurvePoint) :
    (ps.foldl stage card).Accepts p ↔ card.Accepts p := by
  induction ps generalizing card with
  | nil => rfl
  | cons q ps ih => exact ih.trans (accepts_stage p q)

/-- A point is answered as the card takes it. -/
theorem writePoint_bench (p : FanCurvePoint) (b : Bench) :
    Triple (Bench.exec path) (· = ·) (fun _ _ => True) (· = b) (perform (.writeCurve path (.point p))) fun ok b' =>
      if ok then b.card.Accepts p ∧ b' = ⟨b.card.stage p, b.sent ++ [p]⟩
      else ¬ b.card.Accepts p ∧ b'.sent = b.sent ++ [p] := by
  refine .ask (fun _ _ => trivial) (fun others b' hb => ?_) fun _ _ _ he h => he ▸ h
  subst hb
  by_cases hp : b'.card.Accepts p <;> simp [Bench.exec, hp]

/-- The points of a curve go out in order until the card refuses one. -/
theorem sendPoints_bench (done ps : List FanCurvePoint) :
    Triple (Bench.exec path) (· = ·) (fun _ _ => True)
      (fun b => b = ⟨done.foldl PmfwCard.stage card, done⟩ ∧ ∀ p ∈ done, card.Accepts p)
      (untilFailed (fun p => perform (.writeCurve path (.point p))) ps) fun ok b =>
        if ok then b = ⟨(done ++ ps).foldl PmfwCard.stage card, done ++ ps⟩ ∧ ∀ p ∈ done ++ ps, card.Accepts p
        else ∃ p ∈ done ++ ps, p ∈ b.sent ∧ ¬ card.Accepts p := by
  induction ps generalizing done with
  | nil => exact .ret fun b h => by simpa using h
  | cons p ps ih =>
    have hpoint : Triple (Bench.exec path) (· = ·) (fun _ _ => True)
        (fun b => b = ⟨done.foldl PmfwCard.stage card, done⟩ ∧ ∀ q ∈ done, card.Accepts q)
        (perform (.writeCurve path (.point p))) fun ok b =>
          if ok then b = ⟨(done ++ [p]).foldl PmfwCard.stage card, done ++ [p]⟩ ∧ ∀ q ∈ done ++ [p], card.Accepts q
          else ∃ q ∈ done ++ p :: ps, q ∈ b.sent ∧ ¬ card.Accepts q := by
      rintro b ⟨rfl, hdone⟩
      refine (writePoint_bench p _ _ rfl).mono fun ok b hb => ?_
      cases ok with
      | true =>
        obtain ⟨hp, rfl⟩ := hb
        refine ⟨by simp, fun q hq => ?_⟩
        rcases List.mem_append.mp hq with hq | hq
        · exact hdone q hq
        · rw [List.mem_singleton.mp hq]
          exact (PmfwCard.accepts_foldl done p).mp hp
      | false =>
        obtain ⟨hp, hsent⟩ := hb
        exact ⟨p, by simp, by simp [hsent], fun h => hp ((PmfwCard.accepts_foldl done p).mpr h)⟩
    refine .bind hpoint fun ok => ?_
    cases ok with
    | true => simpa using ih (done ++ [p])
    | false => exact .pure fun b h => h

/-- What a curve leaves: every point of it, or a point that the card refused. -/
theorem writeFanCurve_bench (ps : List FanCurvePoint) :
    Triple (Bench.exec path) (· = ·) (fun _ _ => True) (· = ⟨card, []⟩) (writeFanCurve path ps) fun ok b =>
      if ok then b = ⟨(ps.foldl PmfwCard.stage card).commit, ps⟩ ∧ ∀ p ∈ ps, card.Accepts p
      else ∃ p ∈ ps, p ∈ b.sent ∧ ¬ card.Accepts p := by
  refine .bind ((sendPoints_bench [] ps).conseq (fun b hb => ⟨hb, by simp⟩) fun _ _ h => h) fun ok => ?_
  cases ok with
  | true =>
    refine .ask (fun _ _ => trivial) (fun others b hb => ?_) fun _ _ _ he h => he ▸ h
    obtain ⟨rfl, hall⟩ := hb
    simpa [Bench.exec] using hall
  | false => exact .pure fun b h => h

/-- What a static speed leaves, from what was read of the card. -/
theorem setStaticSpeed_bench (paths : CardPaths) (speedPct numPoints : Nat) (preserve : Bool) :
    Triple (Bench.exec paths.fanCurve) (· = ·) (fun _ _ => True) (· = ⟨card, []⟩)
      (setStaticSpeedWithZeroRpm paths speedPct numPoints preserve) fun ok b =>
        let ps := staticPoints (parseFanCurve card.text).toOption speedPct numPoints
        if ok then b = ⟨(ps.foldl PmfwCard.stage card).commit, ps⟩ ∧ ∀ p ∈ ps, card.Accepts p
        else ∃ p ∈ ps, p ∈ b.sent ∧ ¬ card.Accepts p := by
  have hcalled : Triple (Bench.exec paths.fanCurve) (· = ·) (fun _ _ => True) (· = ⟨card, []⟩)
      (perform (.called paths.fanCurve preserve)) fun _ => (· = ⟨card, []⟩) :=
    .ask (fun _ _ => trivial) (fun _ _ h => h) fun _ _ _ he h => he ▸ h
  have hread : Triple (Bench.exec paths.fanCurve) (· = ·) (fun _ _ => True) (· = ⟨card, []⟩)
      (perform (.readFanCurve paths.fanCurve)) fun curve b =>
        curve = (parseFanCurve card.text).toOption ∧ b = ⟨card, []⟩ := by
    refine .ask (fun _ _ => trivial) (fun others b hb => ?_) fun _ _ _ he h => he ▸ h
    subst hb
    simp [Bench.exec]
  refine .bind hcalled fun _ => .bind (disableUnlessPreserved_bench paths preserve _) fun _ => .bind hread fun curve => ?_
  rintro b ⟨rfl, rfl⟩
  exact writeFanCurve_bench _ _ rfl

end Sending

/-! ## What is staged by it -/

/-- A staged point is the last one sent at its index, or what was there. -/
theorem staged_foldl (ps : List FanCurvePoint) (card : PmfwCard) (i : Nat) :
    (i ∉ ps.map (·.index) → (ps.foldl PmfwCard.stage card).staged[i]? = card.staged[i]?) ∧
      (i ∈ ps.map (·.index) → i < card.staged.length →
        ∃ p ∈ ps, p.index = i ∧ (ps.foldl PmfwCard.stage card).staged[i]? = some (p.tempC, p.speedPct)) := by
  induction ps generalizing card with
  | nil => simp
  | cons p ps ih =>
    obtain ⟨ihkeep, ihset⟩ := ih (card.stage p)
    refine ⟨fun hi => ?_, fun hi hlen => ?_⟩
    · simp only [List.map_cons, List.mem_cons, not_or] at hi
      rw [List.foldl_cons, ihkeep hi.2]
      exact List.getElem?_set_ne (Ne.symm hi.1)
    · have hlen' : i < (card.stage p).staged.length := by simpa [PmfwCard.stage] using hlen
      by_cases hrest : i ∈ ps.map (·.index)
      · obtain ⟨q, hq, hqi, hval⟩ := ihset hrest hlen'
        exact ⟨q, List.mem_cons_of_mem _ hq, hqi, hval⟩
      · have hpi : p.index = i := by
          rcases List.mem_cons.mp hi with h | h
          · exact h.symm
          · exact absurd h hrest
        refine ⟨p, List.mem_cons_self, hpi, ?_⟩
        rw [List.foldl_cons, ihkeep hrest, ← hpi]
        exact List.getElem?_set_self (hpi ▸ hlen)

theorem staged_foldl_length (ps : List FanCurvePoint) (card : PmfwCard) :
    (ps.foldl PmfwCard.stage card).staged.length = card.staged.length := by
  induction ps generalizing card with
  | nil => rfl
  | cons p ps ih => exact (ih _).trans (by simp [PmfwCard.stage])

theorem foldl_stage_frame (ps : List FanCurvePoint) (card : PmfwCard) :
    (ps.foldl PmfwCard.stage card).tempRange = card.tempRange ∧
      (ps.foldl PmfwCard.stage card).speedRange = card.speedRange := by
  induction ps generalizing card with
  | nil => exact ⟨rfl, rfl⟩
  | cons p ps ih => exact ih (card.stage p)

/-! ## The points of a static speed -/

theorem clamp_mono {a b lo hi : Int} (h : a ≤ b) : min (max a lo) hi ≤ min (max b lo) hi := by omega

/-- No temperature falls as the index rises. -/
theorem staticPoints_rising {curve : Option FanCurve} (h : ∀ c, curve = some c → c.Sane) {speedPct n : Nat}
    {p q : FanCurvePoint} (hp : p ∈ staticPoints curve speedPct n) (hq : q ∈ staticPoints curve speedPct n)
    (hpq : p.index ≤ q.index) : p.tempC ≤ q.tempC := by
  obtain ⟨i, -, rfl⟩ := List.mem_map.mp hp
  obtain ⟨j, -, rfl⟩ := List.mem_map.mp hq
  have hij : (i : Int) ≤ j := by exact_mod_cast hpq
  have hwidth : 0 ≤ (tempBounds curve).2 - (tempBounds curve).1 := by
    have := (tempBounds_sane h).1
    omega
  have hscaled := Int.mul_le_mul_of_nonneg_right hij hwidth
  have hpos : 0 ≤ (i : Int) * ((tempBounds curve).2 - (tempBounds curve).1) := Int.mul_nonneg (by omega) hwidth
  have hstep : ((i : Int) * ((tempBounds curve).2 - (tempBounds curve).1)).tdiv (max ((max n 1 : Nat) - 1 : Int) 1) ≤
      ((j : Int) * ((tempBounds curve).2 - (tempBounds curve).1)).tdiv (max ((max n 1 : Nat) - 1 : Int) 1) := by
    rw [Int.tdiv_eq_ediv_of_nonneg hpos, Int.tdiv_eq_ediv_of_nonneg (hpos.trans hscaled)]
    exact Int.ediv_le_ediv (by omega) hscaled
  exact clamp_mono (Int.add_le_add_left hstep _)

/-- The temperatures sent are plausible. -/
theorem staticPoints_temp {curve : Option FanCurve} (h : ∀ c, curve = some c → c.Sane) {speedPct n : Nat}
    {p : FanCurvePoint} (hp : p ∈ staticPoints curve speedPct n) : TempSane p.tempC := by
  obtain ⟨i, -, rfl⟩ := List.mem_map.mp hp
  obtain ⟨hle, ⟨hlo, -⟩, ⟨-, hhi⟩⟩ := tempBounds_sane h
  have hmid : ∀ x : Int, TempSane (min (max x (tempBounds curve).1) (tempBounds curve).2) := by
    intro x
    unfold TempSane
    omega
  exact hmid _

namespace PmfwCard

variable {card : PmfwCard}

/-- The points written to a card that was read whole lie in its ranges. -/
theorem accepts_staticPoints (h : card.Readable) {speedPct n : Nat} {p : FanCurvePoint}
    (hp : p ∈ staticPoints (some card.curve) speedPct n) : card.Accepts p ↔ p.index < card.points.length := by
  have htemp := h.temp.1
  have hspeed := h.speed.1
  obtain ⟨i, -, rfl⟩ := List.mem_map.mp hp
  refine ⟨fun hacc => hacc.1, fun hi => ⟨hi, ?_, ?_⟩⟩
  · simp only [curve, Option.bind_some]
    omega
  · simp only [clampedSpeed, speedBounds, curve, Option.bind_some, Option.getD_some]
    omega

theorem Readable.curve_sane (h : card.Readable) : ∀ c, some card.curve = some c → c.Sane := by
  rintro c hc
  obtain rfl := Option.some.inj hc
  exact parseFanCurve_sane (card.parseFanCurve_text_iff.mpr h)

/-- A card all of whose points run the fan at one speed is read back so. -/
theorem flatSpeedPct_text {v : Nat} (hflat : ∀ p ∈ card.points, p.2 = v) (hv : v ≤ 100)
    (hfirst : ∃ p ∈ card.readPoints, True) : (parseFanCurve card.text).toOption.bind flatSpeedPct = some v := by
  have hall : ∀ p ∈ card.readPoints, p.speedPct = v := by
    intro p hp
    obtain ⟨q, hq, hqp⟩ := List.mem_filterMap.mp hp
    have hqv : q.speedPct = v := hflat _ (List.mem_of_getElem? (mem_indexed.mp hq))
    unfold readPoint at hqp
    split at hqp
    · obtain rfl := Option.some.inj hqp
      dsimp only
      omega
    · exact absurd hqp (by simp)
  obtain ⟨p, hp, -⟩ := hfirst
  obtain ⟨first, rest, hread⟩ := List.exists_cons_of_ne_nil (List.ne_nil_of_mem hp)
  rw [hread] at hall
  have hfirst := hall first List.mem_cons_self
  rw [parseFanCurve_text, hread]
  simp only [List.isEmpty_cons, Bool.false_eq_true, if_false, Except.toOption, Option.bind_some, flatSpeedPct,
    List.head?_cons]
  rw [if_pos, hfirst]
  rw [List.all_eq_true]
  intro q hq
  simp [hall q hq, hfirst]

/-- The first point of a card is read where its temperature fits. -/
theorem exists_readPoints {t : Int} {s : Nat} (hfirst : card.points[0]? = some (t, s)) (ht : IsI32 t) (hs : s ≤ 100) :
    ∃ p ∈ card.readPoints, True := by
  refine ⟨⟨0, t, s⟩, List.mem_filterMap.mpr ⟨⟨0, t, s⟩, mem_indexed.mpr hfirst, ?_⟩, trivial⟩
  exact readPoint_eq_self.mpr ⟨Nat.zero_lt_succ 9, ht, hs⟩

end PmfwCard

/-! ## A static speed flattens the whole curve -/

/-- What a static speed should have done to a card that was sent points. -/
structure Flattened (card : PmfwCard) (speedPct : Nat) (ok : Bool) (after : Bench) : Prop where
  accepted : ∀ p ∈ after.sent, card.Accepts p
  rising : ∀ p ∈ after.sent, ∀ q ∈ after.sent, p.index ≤ q.index → p.tempC ≤ q.tempC
  whole : ok = true → ∀ p ∈ after.card.points, p.2 = card.clamp speedPct
  readBack : ok = true → (parseFanCurve after.card.text).toOption.bind flatSpeedPct = some (card.clamp speedPct)

/-- The points behind those a static speed writes are staged at its speed already. -/
def PmfwCard.FlatBeyond (card : PmfwCard) (speedPct : Nat) : Prop :=
  ∀ i p, gpuPmfwNumCurvePoints ≤ i → card.staged[i]? = some p → p.2 = card.clamp speedPct

section Flat

variable {card : PmfwCard} {speedPct : Nat}

/-- The card after a static speed all of whose points it took. -/
def PmfwCard.flattened (card : PmfwCard) (speedPct : Nat) : PmfwCard :=
  ((staticPoints (some card.curve) speedPct gpuPmfwNumCurvePoints).foldl PmfwCard.stage card).commit

theorem mem_indexes {i : Nat} : i ∈ (staticPoints (some card.curve) speedPct gpuPmfwNumCurvePoints).map (·.index) ↔
    i < gpuPmfwNumCurvePoints := by
  rw [staticPoints_index, List.mem_range]

theorem PmfwCard.clampedSpeed_curve : clampedSpeed (some card.curve) speedPct = card.clamp speedPct := rfl

/-- A point of the five is one that was sent. -/
theorem PmfwCard.flattened_point {i : Nat} (hi : i < gpuPmfwNumCurvePoints) (hlen : i < card.points.length) :
    ∃ p ∈ staticPoints (some card.curve) speedPct gpuPmfwNumCurvePoints,
      (card.flattened speedPct).points[i]? = some (p.tempC, card.clamp speedPct) := by
  have hmem : i ∈ (staticPoints (some card.curve) speedPct gpuPmfwNumCurvePoints).map (·.index) := mem_indexes.mpr hi
  obtain ⟨p, hp, -, hval⟩ := (staged_foldl _ card i).2 hmem (card.staged_length ▸ hlen)
  rw [staticPoints_speed hp, PmfwCard.clampedSpeed_curve] at hval
  exact ⟨p, hp, hval⟩

/-- Every point is at the speed just if those behind the five were. -/
theorem PmfwCard.flattened_iff :
    (∀ p ∈ (card.flattened speedPct).points, p.2 = card.clamp speedPct) ↔ card.FlatBeyond speedPct := by
  constructor
  · intro h i p hi hp
    have hkeep := (staged_foldl (staticPoints (some card.curve) speedPct gpuPmfwNumCurvePoints) card i).1
      (fun hm => absurd (mem_indexes.mp hm) (by omega))
    exact h p (List.mem_of_getElem? (hkeep.trans hp))
  · intro h p hp
    obtain ⟨i, hi⟩ := List.mem_iff_getElem?.mp hp
    by_cases hfive : i < gpuPmfwNumCurvePoints
    · have hlen : i < card.points.length := by
        obtain ⟨hlt, -⟩ := List.getElem?_eq_some_iff.mp hi
        have hl := staged_foldl_length (staticPoints (some card.curve) speedPct gpuPmfwNumCurvePoints) card
        rw [card.staged_length] at hl
        exact hl ▸ hlt
      obtain ⟨q, -, hq⟩ := @PmfwCard.flattened_point card speedPct i hfive hlen
      rw [hi] at hq
      rw [Option.some.inj hq]
    · have hkeep := (staged_foldl (staticPoints (some card.curve) speedPct gpuPmfwNumCurvePoints) card i).1
        (fun hm => hfive (mem_indexes.mp hm))
      exact h i p (by omega) (hkeep.symm.trans hi)

theorem PmfwCard.Readable.clamp_le (h : card.Readable) : card.clamp speedPct ≤ 100 :=
  (min_le_right _ _).trans h.speed.2

/-- A flat card reads back flat. -/
theorem PmfwCard.flattened_text (h : card.Readable)
    (hflat : ∀ p ∈ (card.flattened speedPct).points, p.2 = card.clamp speedPct) :
    (parseFanCurve (card.flattened speedPct).text).toOption.bind flatSpeedPct = some (card.clamp speedPct) := by
  obtain ⟨p, hp, hval⟩ := @PmfwCard.flattened_point card speedPct 0 (by decide) card.nonempty
  have htemp : IsI32 p.tempC := by
    obtain ⟨hlo, hhi⟩ := staticPoints_temp h.curve_sane hp
    unfold IsI32 i32Min i32Max
    omega
  exact PmfwCard.flatSpeedPct_text hflat h.clamp_le (PmfwCard.exists_readPoints hval htemp h.clamp_le)

/-- A static speed flattens a card that is read whole just if the card has the points it writes, and no others
that are not at the speed already. -/
theorem flattened_run (h : card.Readable) {ok : Bool} {after : Bench}
    (hspec : if ok then after = ⟨card.flattened speedPct, staticPoints (some card.curve) speedPct gpuPmfwNumCurvePoints⟩ ∧
        ∀ p ∈ staticPoints (some card.curve) speedPct gpuPmfwNumCurvePoints, card.Accepts p
      else ∃ p ∈ staticPoints (some card.curve) speedPct gpuPmfwNumCurvePoints, p ∈ after.sent ∧ ¬ card.Accepts p) :
    Flattened card speedPct ok after ↔ ok = true ∧ card.FlatBeyond speedPct := by
  cases ok with
  | true =>
    obtain ⟨rfl, hall⟩ := hspec
    refine ⟨fun hf => ⟨rfl, PmfwCard.flattened_iff.mp (hf.whole rfl)⟩, fun hf => ?_⟩
    have hflat := PmfwCard.flattened_iff.mpr hf.2
    exact
      { accepted := hall
        rising := fun p hp q hq hpq => @staticPoints_rising (some card.curve) h.curve_sane _ _ _ _ hp hq hpq
        whole := fun _ => hflat
        readBack := fun _ => PmfwCard.flattened_text h hflat }
  | false =>
    obtain ⟨p, -, hp, hrefused⟩ := hspec
    exact ⟨fun hf => absurd (hf.accepted p hp) hrefused, fun hf => absurd hf.1 (by decide)⟩

/-- A static speed as the engine sets it flattens a card just if the card is read whole, has the five points that
are written, and no other that is not at the speed already. -/
theorem flattens_iff (paths : CardPaths) (preserve : Bool) (others : Nat → (e : Effect) → Answer e) :
    (parseFanCurve card.text = .ok card.curve ∧
        Flattened card speedPct
          (run (Bench.exec paths.fanCurve)
            (setStaticSpeedWithZeroRpm paths speedPct gpuPmfwNumCurvePoints preserve) others ⟨card, []⟩).1
          (run (Bench.exec paths.fanCurve)
            (setStaticSpeedWithZeroRpm paths speedPct gpuPmfwNumCurvePoints preserve) others ⟨card, []⟩).2) ↔
      card.Readable ∧ gpuPmfwNumCurvePoints ≤ card.points.length ∧ card.FlatBeyond speedPct := by
  rw [PmfwCard.parseFanCurve_text_iff]
  refine and_congr_right fun h => ?_
  have hread : (parseFanCurve card.text).toOption = some card.curve := by
    rw [card.parseFanCurve_text_iff.mpr h]
    rfl
  have hspec := Safe.run (@setStaticSpeed_bench card paths speedPct gpuPmfwNumCurvePoints preserve ⟨card, []⟩ rfl) others
  simp only [hread] at hspec
  rw [flattened_run h hspec]
  refine and_congr_left fun _ => ⟨fun hok => ?_, fun hlen => ?_⟩
  · rw [hok, if_pos rfl] at hspec
    obtain ⟨p, hp, hlast⟩ := List.mem_map.mp ((@mem_indexes card speedPct 4).mpr (by decide))
    have hlt := (PmfwCard.accepts_staticPoints h hp).mp (hspec.2 p hp)
    unfold gpuPmfwNumCurvePoints
    omega
  · by_contra hok
    rw [if_neg hok] at hspec
    obtain ⟨p, hp, -, hrefused⟩ := hspec
    have hindex := mem_indexes.mp (List.mem_map_of_mem (f := (·.index)) hp)
    exact hrefused ((PmfwCard.accepts_staticPoints h hp).mpr (hindex.trans_le hlen))

end Flat

/-- A static speed of the engine reads a card whole, sends it points it takes with temperatures that do not fall,
and leaves its whole curve at the speed, just on a card whose values are plausible, which has between five and
ten points, and whose points behind the fifth are staged at the speed already. Whatever text the file holds, what
is read of it is in bounds, and the points built from it neither panic nor overflow nor ask for more than full
speed. -/
theorem static_speed_flattens_whole_curve (card : PmfwCard) (speedPct : Nat) (paths : CardPaths) (preserve : Bool)
    (others : Nat → (e : Effect) → Answer e) :
    ((parseFanCurve card.text = .ok card.curve ∧
        Flattened card speedPct
          (run (Bench.exec paths.fanCurve)
            (setStaticSpeedWithZeroRpm paths speedPct gpuPmfwNumCurvePoints preserve) others ⟨card, []⟩).1
          (run (Bench.exec paths.fanCurve)
            (setStaticSpeedWithZeroRpm paths speedPct gpuPmfwNumCurvePoints preserve) others ⟨card, []⟩).2) ↔
      card.Readable ∧ gpuPmfwNumCurvePoints ≤ card.points.length ∧ card.FlatBeyond speedPct) ∧
    ∀ (text : List Char) (numPoints : U8),
      (∀ curve, parseFanCurve text = .ok curve → curve.Sane) ∧
      points? (parseFanCurve text).toOption speedPct numPoints =
        some (staticPoints (parseFanCurve text).toOption speedPct numPoints) ∧
      ∀ p ∈ staticPoints (parseFanCurve text).toOption speedPct numPoints, p.speedPct ≤ 100 := by
  refine ⟨flattens_iff paths preserve others, fun text numPoints => ⟨fun _ h => parseFanCurve_sane h, ?_, ?_⟩⟩
  · exact points?_eq parseFanCurve_toOption_sane speedPct (Nat.le_of_lt_succ numPoints.isLt)
  · exact fun p hp => staticPoints_le parseFanCurve_toOption_sane hp

/-- A card of six points on its factory curve. -/
def sixPoints : PmfwCard where
  points := [(25, 15), (40, 20), (55, 30), (70, 45), (85, 65), (100, 100)]
  staged := [(25, 15), (40, 20), (55, 30), (70, 45), (85, 65), (100, 100)]
  tempRange := (25, 100)
  speedRange := (15, 100)
  staged_length := rfl
  nonempty := by decide
  le_255 := by decide

/-- Files that cannot be read or written. -/
def unreadable : (e : Effect) → Answer e
  | .readFanCurve _ => none
  | .readZeroRpm _ => none
  | .writeCurve _ _ => false
  | .writeZero _ _ => false
  | .isWritable _ => false
  | .verifyActive => false
  | .isGpuFanRelinquished _ => false
  | .relinquishGpuFan _ => false
  | .takenPaths _ => none
  | .lastCommandedPct _ => none
  | .called _ _ => ()
  | .unrelinquishGpuFan _ => ()
  | .noteTake _ _ => ()
  | .noteHandedBack _ => ()
  | .setGpuFanCommandedPct _ _ => ()
  | .clearGpuFanCommandedPct _ => ()

/-- A static 40 % answers `Ok` on a card of six points and leaves the hottest of them at full speed. -/
theorem sixth_point_keeps_its_speed :
    (run (Bench.exec "fan_curve") (setStaticSpeedWithZeroRpm ⟨"fan_curve", none⟩ 40 gpuPmfwNumCurvePoints false)
        (fun _ => unreadable) ⟨sixPoints, []⟩).1 = true ∧
      ¬ (parseFanCurve sixPoints.text = .ok sixPoints.curve ∧
        Flattened sixPoints 40
          (run (Bench.exec "fan_curve")
            (setStaticSpeedWithZeroRpm ⟨"fan_curve", none⟩ 40 gpuPmfwNumCurvePoints false)
            (fun _ => unreadable) ⟨sixPoints, []⟩).1
          (run (Bench.exec "fan_curve")
            (setStaticSpeedWithZeroRpm ⟨"fan_curve", none⟩ 40 gpuPmfwNumCurvePoints false)
            (fun _ => unreadable) ⟨sixPoints, []⟩).2) := by
  refine ⟨by decide, fun h => ?_⟩
  have hbeyond := ((flattens_iff ⟨"fan_curve", none⟩ false fun _ => unreadable).mp h).2.2
  exact absurd (hbeyond 5 (100, 100) (by decide) rfl) (by decide)

end ControlOfc.Gpu
