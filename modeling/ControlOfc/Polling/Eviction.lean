import ControlOfc.Polling.Freshness
import ControlOfc.Polling.SensorLeg
/-! # Evictions and the evidence for them

A pass that finds a chip unreadable exempts the ids the descriptor set before it lists under that directory.
The set it leaves behind has none of them, so the next pass that finds the chip unreadable exempts nothing.
`evictions_iff` states when each eviction has its evidence.
-/
namespace ControlOfc.Polling
open Hwmon Health
open Thermal (CpuReading)

/-! ## What a pass finds of a directory -/

inductive Verdict where
  | gone
  | unreadable
  | readable (ids : List String)
  deriving DecidableEq, Repr

def verdict (boardVendor : String) (tree : HwmonTree) (dirName : String) : Verdict :=
  match (hwmonDirs tree.dirs).find? (·.dirName = dirName) with
  | none => .gone
  | some dir =>
    match discoverDeviceSensors boardVendor dir with
    | .ok sensors => .readable (sensors.map (·.id))
    | .error _ => if dir.exists_ then .unreadable else .gone

section Verdict

variable {boardVendor : String} {tree : HwmonTree}

theorem find_dir {dir : HwmonDir} (h : dir ∈ hwmonDirs tree.dirs) :
    (hwmonDirs tree.dirs).find? (·.dirName = dir.dirName) = some dir := by
  cases hfind : (hwmonDirs tree.dirs).find? (·.dirName = dir.dirName) with
  | none =>
    have hnone := List.find?_eq_none.mp hfind dir h
    simp at hnone
  | some found =>
    have hname : found.dirName = dir.dirName := by simpa using List.find?_some hfind
    rw [List.inj_on_of_nodup_map (hwmonDirs_nodup tree) (List.mem_of_find?_eq_some hfind) h hname]

/-- The directories a pass reports are those it finds unreadable. -/
theorem mem_unreadableDirs {dirName : String} :
    dirName ∈ (discoverSensorsReportingSkips boardVendor tree).unreadableDirs ↔
      verdict boardVendor tree dirName = .unreadable := by
  unfold discoverSensorsReportingSkips
  constructor
  · intro h
    obtain ⟨dir, hdir, rfl⟩ := List.mem_map.mp h
    obtain ⟨hmem, hun⟩ := List.mem_filter.mp hdir
    unfold verdict
    rw [find_dir hmem]
    unfold isUnreadable at hun
    dsimp only
    cases heq : discoverDeviceSensors boardVendor dir with
    | ok sensors =>
      rw [heq] at hun
      cases hun
    | error e =>
      rw [heq] at hun
      exact if_pos hun
  · intro h
    unfold verdict at h
    split at h
    · cases h
    · next dir hfind =>
      have hname : dir.dirName = dirName := by simpa using List.find?_some hfind
      split at h
      · cases h
      · next heq =>
        refine List.mem_map.mpr ⟨dir, List.mem_filter.mpr ⟨List.mem_of_find?_eq_some hfind, ?_⟩, hname⟩
        unfold isUnreadable
        rw [heq]
        dsimp only
        by_contra hne
        rw [if_neg hne] at h
        cases h

/-- What a readable directory lists is described. -/
theorem described_of_readable {dirName : String} {ids : List String} {id : String}
    (h : verdict boardVendor tree dirName = .readable ids) (hid : id ∈ ids) :
    ∃ d ∈ (discoverSensorsReportingSkips boardVendor tree).descriptors, d.id = id := by
  unfold verdict at h
  split at h
  · cases h
  · next dir hfind =>
    split at h
    · next sensors heq =>
      obtain rfl := Verdict.readable.inj h
      obtain ⟨d, hd, rfl⟩ := List.mem_map.mp hid
      refine ⟨d, mem_descriptors.mpr ⟨dir, List.mem_of_find?_eq_some hfind, ?_⟩, rfl⟩
      unfold sensorsOf
      rw [heq]
      exact hd
    · split at h <;> cases h

end Verdict

/-! ## The property and its condition -/

/-- The event joins a read that discovered over `tree`. -/
def JoinsPass (s : SensorLoop) (e : LoopEvent) (tree : HwmonTree) : Prop :=
  ∃ now found outcome, e = .join now ∧ s.pending = some (.ok ⟨some (tree, found), outcome⟩)

/-- The pass over `tree` lists a sensor of the id. -/
def Lists (boardVendor : String) (tree : HwmonTree) (id : String) : Prop :=
  ∃ d ∈ (discoverSensorsReportingSkips boardVendor tree).descriptors, d.id = id

/-- A reading of a hwmon file leaves the cache on evidence only, and does leave it when its chip is gone. -/
structure EvictsOnEvidence (boardVendor : String) (s : SensorLoop) (e : LoopEvent) : Prop where
  dropped : ∀ x ∈ s.sensors, ∀ path, x.reading.path = some path → ¬ (s.step boardVendor e).Caches x.reading.id →
    (s.step boardVendor e).Quarantines x.reading.id ∨
      ∃ tree, (s.step boardVendor e).lastPass = some tree ∧
        (verdict boardVendor tree path.dir = .gone ∨
          ∃ ids, verdict boardVendor tree path.dir = .readable ids ∧ x.reading.id ∉ ids)
  neverAbsent : ∀ x ∈ s.sensors, ∀ path, x.reading.path = some path → x.reading.kind = .cpuTemp →
    ∀ tree, (s.step boardVendor e).lastPass = some tree → verdict boardVendor tree path.dir = .unreadable →
      ¬ (s.step boardVendor e).Quarantines x.reading.id →
      (∀ y ∈ (s.step boardVendor e).sensors, y.reading.id = x.reading.id → y = x) →
      ∀ now staleAfter, hottestCpuReading ((s.step boardVendor e).sensors.map (·.forThermal)) now staleAfter ≠ .absent
  gone : ∀ tree, JoinsPass s e tree → ∀ x ∈ s.sensors, ∀ path, x.reading.path = some path →
    verdict boardVendor tree path.dir = .gone → ¬ Lists boardVendor tree x.reading.id →
      ¬ (s.step boardVendor e).Caches x.reading.id

/-- The descriptor set lists the id under a directory the pass finds unreadable. -/
def Shielded (boardVendor : String) (s : SensorLoop) (tree : HwmonTree) (id : String) : Prop :=
  ∃ d ∈ s.descriptors, d.id = id ∧ verdict boardVendor tree d.inputPath.dir = .unreadable

/-- On a pass that does not list a cached id: it is shielded if its chip is unreadable, and not if it is gone. -/
def ShieldsRight (boardVendor : String) (s : SensorLoop) (e : LoopEvent) : Prop :=
  ∀ tree, JoinsPass s e tree → ∀ x ∈ s.sensors, ∀ path, x.reading.path = some path →
    ¬ Lists boardVendor tree x.reading.id →
      (verdict boardVendor tree path.dir = .unreadable → Shielded boardVendor s tree x.reading.id) ∧
        (verdict boardVendor tree path.dir = .gone → ¬ Shielded boardVendor s tree x.reading.id)

/-! ## What holds of the loop at every event -/

/-- The readings of a read come from the descriptors it read, or have no file and no hwmon id. -/
def ReadFrom (descriptors : List SensorDescriptor) (outcome : SensorReadOutcome) : Prop :=
  ∀ r ∈ outcome.readings, (∃ d ∈ descriptors, r.id = d.id ∧ r.path = some d.inputPath) ∨
    (r.path = none ∧ ¬ IsHwmonId r.id)

/-- A read under way is of the descriptors there are, or of those it found. -/
def LegSound (boardVendor : String) (s : SensorLoop) (result : LegResult) : Prop :=
  match result.found with
  | none => ReadFrom s.descriptors result.outcome
  | some (tree, found) =>
    found = discoverSensorsReportingSkips boardVendor tree ∧ ReadFrom found.descriptors result.outcome

structure LoopInv (boardVendor : String) (s : SensorLoop) : Prop where
  named : ∀ d ∈ s.descriptors, IsHwmonId d.id
  covered : ∀ x ∈ s.sensors, ∀ path, x.reading.path = some path →
    IsHwmonId x.reading.id ∧ (s.Describes x.reading.id ∨ x.reading.id ∈ s.protectedIds)
  pending : ∀ result, s.pending = some (.ok result) → LegSound boardVendor s result

section Inv

variable {boardVendor : String} {s : SensorLoop}

theorem readFrom_readLeg (files : InputPath → TempFile) (nvml : List NvmlTemp) (descriptors : List SensorDescriptor) :
    ReadFrom descriptors (readLeg files nvml descriptors) := by
  intro r hr
  rcases List.mem_append.mp hr with hr | hr
  · obtain ⟨d, hd, hread⟩ := mem_readings.mp hr
    obtain ⟨hid, -, hpath⟩ := readTemp_ok hread
    exact .inl ⟨d, hd, hid, hpath⟩
  · obtain ⟨n, -, rfl⟩ := List.mem_map.mp hr
    exact .inr ⟨rfl, by simp [IsHwmonId]⟩

theorem readFrom_credible {descriptors : List SensorDescriptor} {outcome : SensorReadOutcome}
    (h : ReadFrom descriptors outcome) : ReadFrom descriptors (credible outcome) :=
  fun r hr => h r (List.mem_filter.mp hr).1

theorem named_discovered (tree : HwmonTree) :
    ∀ d ∈ (discoverSensorsReportingSkips boardVendor tree).descriptors, IsHwmonId d.id := by
  intro d hd
  obtain ⟨dir, -, hfound⟩ := mem_descriptors.mp hd
  exact (sensorsOf_spec hfound).2.1

theorem start_inv (boardVendor : String) : LoopInv boardVendor .start := ⟨nofun, nofun, nofun⟩

/-- A read of the loop's own descriptors caches nothing they do not cover. -/
theorem covered_record {outcome : SensorReadOutcome} {now : Nat} (hread : ReadFrom s.descriptors outcome)
    (hnamed : ∀ d ∈ s.descriptors, IsHwmonId d.id)
    (hold : ∀ x ∈ s.sensors, ∀ path, x.reading.path = some path → IsHwmonId x.reading.id) :
    ∀ x ∈ (s.record outcome now).sensors, ∀ path, x.reading.path = some path →
      IsHwmonId x.reading.id ∧ (s.Describes x.reading.id ∨ x.reading.id ∈ s.protectedIds) := by
  intro x hx path hpath
  obtain ⟨-, hlive⟩ := caches_record.mp ⟨x, hx, rfl⟩
  have hhwmon : IsHwmonId x.reading.id := by
    rcases mem_record hx with ⟨r, hr, rfl⟩ | ⟨hmem, -⟩
    · rcases hread r hr with ⟨d, hd, hid, -⟩ | ⟨hnone, -⟩
      · rw [hid]
        exact hnamed d hd
      · rw [hnone] at hpath
        cases hpath
    · exact hold x hmem path hpath
  refine ⟨hhwmon, ?_⟩
  rcases hlive with h | ⟨r, hr, hid⟩ | h
  · exact .inl h
  · rcases hread r hr with ⟨d, hd, hid', -⟩ | ⟨-, hno⟩
    · exact .inl ⟨d, hd, hid'.symm.trans hid⟩
    · rw [hid] at hno
      exact absurd hhwmon hno
  · exact .inr h

/-- What `apply` leaves is what `record` makes of the adopted state. -/
theorem adopt_reads {result : LegResult} (h : LoopInv boardVendor s) (hleg : LegSound boardVendor s result) :
    ReadFrom (s.adopt result.found).descriptors (credible result.outcome) ∧
      (∀ d ∈ (s.adopt result.found).descriptors, IsHwmonId d.id) ∧ (s.adopt result.found).sensors = s.sensors := by
  unfold LegSound at hleg
  obtain ⟨found, outcome⟩ := result
  cases found with
  | none => exact ⟨readFrom_credible hleg, h.named, rfl⟩
  | some pass =>
    obtain ⟨tree, found⟩ := pass
    obtain ⟨rfl, hread⟩ := hleg
    exact ⟨readFrom_credible hread, named_discovered tree, rfl⟩

theorem apply_inv {result : LegResult} (h : LoopInv boardVendor s) (hleg : LegSound boardVendor s result) (now : Nat) :
    LoopInv boardVendor { s.apply result now with pending := none } := by
  obtain ⟨hread, hnamed, hsame⟩ := adopt_reads h hleg
  refine ⟨hnamed, ?_, nofun⟩
  refine covered_record hread hnamed ?_
  rw [hsame]
  exact fun x hx path hpath => (h.covered x hx path hpath).1

theorem step_inv (h : LoopInv boardVendor s) (e : LoopEvent) : LoopInv boardVendor (s.step boardVendor e) := by
  cases e with
  | rescan => exact ⟨h.named, h.covered, h.pending⟩
  | tick root files nvml =>
    unfold SensorLoop.step
    dsimp only
    cases hp : s.pending with
    | some result => exact h
    | none =>
      refine ⟨h.named, h.covered, ?_⟩
      intro result hresult
      have hleg := Option.some.inj hresult
      unfold SensorLoop.leg at hleg
      split at hleg
      · cases hroot : root with
        | error e =>
          rw [hroot] at hleg
          cases hleg
        | ok tree =>
          rw [hroot] at hleg
          obtain rfl := Except.ok.inj hleg
          exact ⟨rfl, readFrom_readLeg _ _ _⟩
      · obtain rfl := Except.ok.inj hleg
        exact readFrom_readLeg _ _ _
  | join now =>
    unfold SensorLoop.step
    dsimp only
    cases hp : s.pending with
    | none => exact h
    | some read =>
      cases read with
      | error e => exact ⟨h.named, h.covered, nofun⟩
      | ok result => exact apply_inv h (h.pending result hp) now
  | lost => exact ⟨h.named, h.covered, nofun⟩

end Inv

/-! ## One joined read -/

section Join

variable {boardVendor : String} {s : SensorLoop}

theorem mem_newlyProtected {tree : HwmonTree} {id : String} :
    id ∈ newlyProtected s.descriptors (discoverSensorsReportingSkips boardVendor tree).unreadableDirs ↔
      Shielded boardVendor s tree id := by
  unfold newlyProtected Shielded
  constructor
  · intro h
    obtain ⟨d, hd, rfl⟩ := List.mem_map.mp h
    obtain ⟨hmem, hdir⟩ := List.mem_filter.mp hd
    exact ⟨d, hmem, rfl, mem_unreadableDirs.mp (List.contains_iff_mem.mp hdir)⟩
  · rintro ⟨d, hd, rfl, hv⟩
    exact List.mem_map.mpr ⟨d, List.mem_filter.mpr ⟨hd, List.contains_iff_mem.mpr (mem_unreadableDirs.mpr hv)⟩, rfl⟩

/-- **A cached id that a pass does not list** is cached after it exactly when it is shielded. -/
theorem caches_pass {tree : HwmonTree} {outcome : SensorReadOutcome} {now : Nat} {id : String} (hcached : s.Caches id)
    (hid : IsHwmonId id) (hread : ReadFrom (discoverSensorsReportingSkips boardVendor tree).descriptors outcome)
    (hlists : ¬ Lists boardVendor tree id) :
    (s.apply ⟨some (tree, discoverSensorsReportingSkips boardVendor tree), outcome⟩ now).Caches id ↔
      Shielded boardVendor s tree id := by
  have hunread : ¬ ∃ r ∈ (credible outcome).readings, r.id = id := by
    rintro ⟨r, hr, rfl⟩
    rcases readFrom_credible hread r hr with ⟨d, hd, heq, -⟩ | ⟨-, hno⟩
    · exact hlists ⟨d, hd, heq.symm⟩
    · exact hno hid
  unfold SensorLoop.apply
  rw [caches_record]
  constructor
  · rintro ⟨-, hdesc | hr | hprot⟩
    · exact absurd hdesc hlists
    · exact absurd hr hunread
    · exact mem_newlyProtected.mp hprot
  · intro hshield
    refine ⟨⟨.inl hcached, ?_⟩, .inr (.inr (mem_newlyProtected.mpr hshield))⟩
    intro hq
    exact hlists (quarantines_record hq).1

/-- With a CPU entry in the cache the CPU reading is not absent. -/
theorem hottestCpuReading_ne_absent {sensors : List CachedSensorReading} {x : CachedSensorReading} (h : x ∈ sensors)
    (hcpu : isCpu x = true) (now staleAfter : Nat) : hottestCpuReading sensors now staleAfter ≠ .absent := by
  have hkept : x ∈ sensors.filter isCpu := List.mem_filter.mpr ⟨h, hcpu⟩
  unfold hottestCpuReading hottestReadingWhere
  dsimp only
  intro habsent
  split at habsent
  · cases habsent
  · cases habsent
  · next hfresh hstale =>
    rw [hottest_eq_none, List.filter_eq_nil_iff] at hfresh hstale
    exact hstale x hkept (by simpa using hfresh x hkept)

variable (h : LoopInv boardVendor s)

include h in
theorem shieldsRight_of_evidence {e : LoopEvent} (hev : EvictsOnEvidence boardVendor s e) :
    ShieldsRight boardVendor s e := by
  rintro tree ⟨now, found, outcome, rfl, hp⟩ x hx path hpath hlists
  obtain ⟨rfl, hread⟩ := h.pending _ hp
  have hjoins : JoinsPass s (.join now) tree := ⟨now, _, outcome, rfl, hp⟩
  have hstep : s.step boardVendor (.join now) =
      { s.apply ⟨some (tree, discoverSensorsReportingSkips boardVendor tree), outcome⟩ now with pending := none } := by
    unfold SensorLoop.step
    rw [hp]
  have hcaches : (s.step boardVendor (.join now)).Caches x.reading.id ↔ Shielded boardVendor s tree x.reading.id := by
    rw [hstep]
    exact caches_pass ⟨x, hx, rfl⟩ (h.covered x hx path hpath).1 hread hlists
  constructor
  · intro hv
    by_contra hshield
    rcases hev.dropped x hx path hpath (mt hcaches.mp hshield) with hq | ⟨tree', htree, hverdict⟩
    · rw [hstep] at hq
      exact hlists (quarantines_record hq).1
    · rw [hstep] at htree
      obtain rfl := Option.some.inj htree
      rcases hverdict with hgone | ⟨ids, hreadable, -⟩
      · rw [hv] at hgone
        cases hgone
      · rw [hv] at hreadable
        cases hreadable
  · intro hv hshield
    exact hev.gone tree hjoins x hx path hpath hv hlists (hcaches.mpr hshield)

include h in
/-- What a step drops it drops on evidence, where the passes shield right. -/
theorem dropped_of_shieldsRight {e : LoopEvent} (hright : ShieldsRight boardVendor s e) {x : CacheEntry}
    (hx : x ∈ s.sensors) {path : InputPath} (hpath : x.reading.path = some path)
    (hdrop : ¬ (s.step boardVendor e).Caches x.reading.id) :
    (s.step boardVendor e).Quarantines x.reading.id ∨
      ∃ tree, (s.step boardVendor e).lastPass = some tree ∧
        (verdict boardVendor tree path.dir = .gone ∨
          ∃ ids, verdict boardVendor tree path.dir = .readable ids ∧ x.reading.id ∉ ids) := by
  have hcached : s.Caches x.reading.id := ⟨x, hx, rfl⟩
  cases e with
  | rescan => exact absurd hcached hdrop
  | lost => exact absurd hcached hdrop
  | tick root files nvml =>
    refine absurd ?_ hdrop
    unfold SensorLoop.step
    dsimp only
    split <;> exact hcached
  | join now =>
    unfold SensorLoop.step at hdrop ⊢
    dsimp only at hdrop ⊢
    cases hp : s.pending with
    | none =>
      rw [hp] at hdrop
      exact absurd hcached hdrop
    | some read =>
      cases read with
      | error e =>
        rw [hp] at hdrop
        exact absurd hcached hdrop
      | ok result =>
        rw [hp] at hdrop
        obtain ⟨hhwmon, hcover⟩ := h.covered x hx path hpath
        obtain ⟨found, outcome⟩ := result
        have hrecord : ((s.adopt found).record (credible outcome) now).Caches x.reading.id ↔ _ := caches_record
        have hlive := mt hrecord.mpr hdrop
        cases found with
        | none =>
          -- nothing but the quarantine takes a covered entry
          refine .inl (by_contra fun hq => hlive ⟨⟨.inl hcached, hq⟩, ?_⟩)
          exact hcover.imp_right .inr
        | some pass =>
          obtain ⟨tree, found⟩ := pass
          obtain ⟨rfl, hread⟩ := h.pending _ hp
          by_cases hlists : Lists boardVendor tree x.reading.id
          · exact .inl (by_contra fun hq => hlive ⟨⟨.inl hcached, hq⟩, .inl hlists⟩)
          · have hshield := mt (caches_pass hcached hhwmon hread hlists).mpr hdrop
            obtain ⟨hunreadable, -⟩ := hright tree ⟨now, _, outcome, rfl, hp⟩ x hx path hpath hlists
            refine .inr ⟨tree, rfl, ?_⟩
            cases hv : verdict boardVendor tree path.dir with
            | gone => exact .inl rfl
            | unreadable => exact absurd (hunreadable hv) hshield
            | readable ids => exact .inr ⟨ids, rfl, fun hid => hlists (described_of_readable hv hid)⟩

include h in
theorem evidence_of_shieldsRight {e : LoopEvent} (hright : ShieldsRight boardVendor s e) :
    EvictsOnEvidence boardVendor s e where
  dropped x hx path hpath hdrop := dropped_of_shieldsRight h hright hx hpath hdrop
  neverAbsent := by
    intro x hx path hpath hcpu tree hlast hv hq hnewer now staleAfter
    have hkept : (s.step boardVendor e).Caches x.reading.id := by
      by_contra hdrop
      rcases dropped_of_shieldsRight h hright hx hpath hdrop with hq' | ⟨tree', htree, hverdict⟩
      · exact hq hq'
      · obtain rfl := Option.some.inj (hlast.symm.trans htree)
        rw [hv] at hverdict
        rcases hverdict with hgone | ⟨ids, hreadable, -⟩
        · cases hgone
        · cases hreadable
    obtain ⟨y, hy, hid⟩ := hkept
    have hsame := hnewer y hy hid
    subst hsame
    refine hottestCpuReading_ne_absent (List.mem_map.mpr ⟨y, hy, rfl⟩) ?_ now staleAfter
    simpa [isCpu, CacheEntry.forThermal] using hcpu
  gone := by
    rintro tree ⟨now, found, outcome, rfl, hp⟩ x hx path hpath hv hlists
    obtain ⟨rfl, hread⟩ := h.pending _ hp
    obtain ⟨-, hgone⟩ := hright tree ⟨now, _, outcome, rfl, hp⟩ x hx path hpath hlists
    unfold SensorLoop.step
    rw [hp]
    exact mt (caches_pass ⟨x, hx, rfl⟩ (h.covered x hx path hpath).1 hread hlists).mp (hgone hv)

end Join

/-! ## Runs -/

/-- **Evictions have their evidence exactly when the passes shield right.** For every board vendor and every
run of the loop: each reading that leaves the cache leaves on evidence, no CPU reading of an unreadable chip
turns absent and those of a gone chip leave, if and only if every pass shields what it cannot read. -/
theorem evictions_iff (boardVendor : String) (es : List LoopEvent) :
    Machine.Along (SensorLoop.step boardVendor) (EvictsOnEvidence boardVendor) .start es ↔
      Machine.Along (SensorLoop.step boardVendor) (ShieldsRight boardVendor) .start es :=
  Machine.along_congr_of_inv (I := LoopInv boardVendor) (fun _ e h => step_inv h e)
    (fun _ _ h => ⟨shieldsRight_of_evidence h, evidence_of_shieldsRight h⟩) .start (start_inv boardVendor) es

/-- One CPU chip, whose `name` reads as given. -/
def lonelyTree (name : Except String String) : HwmonTree where
  dirs := [⟨"hwmon0", name, .absent, none, .ok [⟨"temp1_input", none⟩], true⟩]
  dirs_nodup := List.nodup_singleton _
  files_nodup := by
    intro d hd l hl
    rw [List.mem_singleton.mp hd] at hl
    obtain rfl := Except.ok.inj hl
    exact List.nodup_singleton _

def warmFiles : InputPath → TempFile := fun _ => ⟨.ok 90000, none⟩

def readableTick : LoopEvent := .tick (.ok (lonelyTree (.ok "k10temp"))) warmFiles []

def unreadableTick : LoopEvent := .tick (.ok (lonelyTree (.error "Input/output error"))) warmFiles []

/-- The CPU chip is read, then a rescan finds it unreadable, then the next tick does. -/
def lonelyRun : List LoopEvent :=
  [readableTick, .join 0, .rescan, unreadableTick, .join 1, unreadableTick, .join 2]

/-- The first unreadable pass keeps the CPU reading, the second one drops it. -/
theorem lonely_dropped : ¬ Machine.Along (SensorLoop.step "") (EvictsOnEvidence "") .start lonelyRun := by
  rintro ⟨-, -, -, -, -, -, hev, -⟩
  let x : CacheEntry := ⟨⟨"hwmon:k10temp:nodev:temp1", .cpuTemp, "temp1", 90, some ⟨"hwmon0", "temp1_input"⟩⟩, 0⟩
  have hbefore : (Machine.run (SensorLoop.step "") .start (lonelyRun.take 6)).sensors = [x] := by decide +kernel
  have hafter : (Machine.run (SensorLoop.step "") .start lonelyRun).sensors = [] := by decide +kernel
  have hquar : (Machine.run (SensorLoop.step "") .start lonelyRun).failureTracker.quarantined = [] := by decide +kernel
  have hverdict : (Machine.run (SensorLoop.step "") .start lonelyRun).lastPass.map (verdict "" · "hwmon0") =
      some .unreadable := by
    decide +kernel
  have hx : x ∈ (Machine.run (SensorLoop.step "") .start (lonelyRun.take 6)).sensors := hbefore ▸ List.mem_singleton_self x
  have hdrop : ¬ (Machine.run (SensorLoop.step "") .start lonelyRun).Caches x.reading.id := by
    rintro ⟨y, hy, -⟩
    exact List.not_mem_nil (hafter ▸ hy)
  rcases hev.dropped x hx ⟨"hwmon0", "temp1_input"⟩ rfl hdrop with ⟨u, hu, -⟩ | ⟨tree, htree, hgone⟩
  · exact List.not_mem_nil (hquar ▸ hu)
  · have hseen : verdict "" tree "hwmon0" = .unreadable :=
      Option.some.inj ((congrArg (Option.map (verdict "" · "hwmon0")) htree).symm.trans hverdict)
    rw [hseen] at hgone
    rcases hgone with h | ⟨ids, h, -⟩ <;> cases h

end ControlOfc.Polling
