import ControlOfc.Polling.Freshness
import ControlOfc.Polling.SensorLeg
/-! # What the thermal rule sees of the CPU inputs

Everything after discovery is keyed by the id, and an id is the chip name, the device and the label joined
with colons: two inputs may get one. `cpu_covered_iff` states that a tick hides no input exactly when none do.
-/
namespace ControlOfc.Polling
open Hwmon Health
open Thermal (CpuReading)

/-- The reading is a CPU's and implausibly low beside the hottest board sensor. -/
def ImplausiblyLow (readings : List Hwmon.SensorReading) (r : Hwmon.SensorReading) : Prop :=
  r.kind = .cpuTemp ∧ ∃ mbC, hottestMbC readings = some mbC ∧ isImplausiblyLowCpu r.valueC mbC = true

theorem mem_implausiblyLow {readings : List Hwmon.SensorReading} {f : SensorReadFailure} :
    f ∈ implausiblyLowCpuReadings readings → ∃ r ∈ readings, r.id = f.id ∧ ImplausiblyLow readings r := by
  intro h
  unfold implausiblyLowCpuReadings at h
  split at h
  · cases h
  · next mbC hmb =>
    obtain ⟨r, hr, rfl⟩ := List.mem_map.mp h
    obtain ⟨hr, hlow⟩ := List.mem_filter.mp hr
    obtain ⟨hr, hcpu⟩ := List.mem_filter.mp hr
    exact ⟨r, hr, rfl, by simpa using hcpu, mbC, hmb, hlow⟩

/-! ## A tick -/

section Tick

variable (boardVendor : String) (s : SensorLoop) (tree : HwmonTree) (files : InputPath → TempFile)
  (nvml : List NvmlTemp) (result : LegResult) (now : Nat)

/-- The tick's read discovered over the tree, or read what an earlier discovery over it left. -/
def TickOver : Prop :=
  result = discoverLeg boardVendor tree files nvml ∨
    (s.descriptors = (discoverSensorsReportingSkips boardVendor tree).descriptors ∧
      result = ⟨none, readLeg files nvml s.descriptors⟩)

/-- What it read, before the plausibility check. -/
def tickReadings : List Hwmon.SensorReading :=
  (readLeg files nvml (discoverSensorsReportingSkips boardVendor tree).descriptors).readings

/-- The read of the input failed, or its reading was rejected. -/
def ReadFails (d : SensorDescriptor) : Prop :=
  (∃ reason, readTemp files d = .error reason) ∨
    ∃ r, readTemp files d = .ok r ∧ ImplausiblyLow (tickReadings boardVendor tree files nvml) r

/-- No input of the tree is hidden: each has an entry of its own, the CPU reading is fresh and at least as hot
as each CPU input read, and an input leaves the cache or is quarantined by its own failure alone. -/
structure CpuCovered : Prop where
  apart : ∀ d ∈ (discoverSensorsReportingSkips boardVendor tree).descriptors,
    ∀ d' ∈ (discoverSensorsReportingSkips boardVendor tree).descriptors, d.inputPath ≠ d'.inputPath → d.id ≠ d'.id
  hottest : ∀ d ∈ (discoverSensorsReportingSkips boardVendor tree).descriptors, d.kind = .cpuTemp →
    ∀ r, readTemp files d = .ok r → ¬ ImplausiblyLow (tickReadings boardVendor tree files nvml) r →
      ∀ later staleAfter, later ≤ now + staleAfter →
        ∃ v, hottestCpuReading ((s.apply result now).sensors.map (·.forThermal)) later
          staleAfter = .fresh v ∧ Ieee.fin r.valueC ≤ v
  cached : ∀ d ∈ (discoverSensorsReportingSkips boardVendor tree).descriptors, ∀ r, readTemp files d = .ok r →
    ¬ ImplausiblyLow (tickReadings boardVendor tree files nvml) r →
      (⟨r, now⟩ : CacheEntry) ∈ (s.apply result now).sensors
  own : ∀ d ∈ (discoverSensorsReportingSkips boardVendor tree).descriptors,
    (s.apply result now).Quarantines d.id ∨
      (s.Caches d.id ∧ ¬ (s.apply result now).Caches d.id) →
      ReadFails boardVendor tree files nvml d

end Tick

/-! ## Names -/

/-- The device part of the ids of a directory's sensors. -/
def deviceSegment (dir : HwmonDir) (chipName : String) : String :=
  (deviceIdForMemoryChip chipName dir).getD (deviceIdForHwmonDir dir)

/-- What the id of a sensor says beside `hwmon:`. -/
def sensorName (dir : HwmonDir) (d : SensorDescriptor) : String :=
  d.chipName ++ ":" ++ deviceSegment dir d.chipName ++ ":" ++ d.label

/-- The inputs of one directory have different labels, and those of two directories different names. -/
structure SeparateNames (boardVendor : String) (tree : HwmonTree) : Prop where
  labels : ∀ dir ∈ hwmonDirs tree.dirs, ∀ d ∈ sensorsOf boardVendor dir, ∀ d' ∈ sensorsOf boardVendor dir,
    d.inputPath.file ≠ d'.inputPath.file → d.label ≠ d'.label
  names : ∀ dir ∈ hwmonDirs tree.dirs, ∀ dir' ∈ hwmonDirs tree.dirs, dir.dirName ≠ dir'.dirName →
    ∀ d ∈ sensorsOf boardVendor dir, ∀ d' ∈ sensorsOf boardVendor dir', sensorName dir d ≠ sensorName dir' d'

section Names

variable {boardVendor : String} {tree : HwmonTree}

theorem sensorsOf_described {dir : HwmonDir} {d : SensorDescriptor} (h : d ∈ sensorsOf boardVendor dir) :
    ∃ name input label, dir.name = .ok name ∧ d = describe boardVendor dir (canonicalChipName name) input label := by
  obtain ⟨-, -, sensors, hfound, hd⟩ := sensorsOf_spec h
  unfold discoverDeviceSensors at hfound
  cases hname : dir.name with
  | error e =>
    rw [hname] at hfound
    cases hfound
  | ok name =>
    rw [hname] at hfound
    cases hinputs : dir.inputs with
    | error e =>
      rw [hinputs] at hfound
      cases hfound
    | ok inputs =>
      rw [hinputs] at hfound
      obtain ⟨-, hall⟩ := describeAll_spec hfound
      obtain ⟨input, label, rfl⟩ := hall d hd
      exact ⟨name, input, label, rfl, rfl⟩

theorem id_eq_sensorName {dir : HwmonDir} {d : SensorDescriptor} (h : d ∈ sensorsOf boardVendor dir) :
    d.id = "hwmon:" ++ sensorName dir d := by
  obtain ⟨name, input, label, -, rfl⟩ := sensorsOf_described h
  simp [describe, buildStableId, sensorName, deviceSegment, String.append_assoc]

theorem sensorName_inj {dir dir' : HwmonDir} {d d' : SensorDescriptor} (hd : d ∈ sensorsOf boardVendor dir)
    (hd' : d' ∈ sensorsOf boardVendor dir') : d.id = d'.id ↔ sensorName dir d = sensorName dir' d' := by
  rw [id_eq_sensorName hd, id_eq_sensorName hd', String.append_right_inj]

/-- Within a directory two names are equal when the labels are. -/
theorem label_inj {dir : HwmonDir} {d d' : SensorDescriptor} (hd : d ∈ sensorsOf boardVendor dir)
    (hd' : d' ∈ sensorsOf boardVendor dir) : d.id = d'.id ↔ d.label = d'.label := by
  rw [sensorName_inj hd hd']
  obtain ⟨name, input, label, hname, rfl⟩ := sensorsOf_described hd
  obtain ⟨name', input', label', hname', rfl⟩ := sensorsOf_described hd'
  obtain rfl := Except.ok.inj (hname.symm.trans hname')
  unfold sensorName describe
  dsimp only
  rw [String.append_right_inj]

theorem apart_iff :
    (∀ d ∈ (discoverSensorsReportingSkips boardVendor tree).descriptors,
      ∀ d' ∈ (discoverSensorsReportingSkips boardVendor tree).descriptors, d.inputPath ≠ d'.inputPath → d.id ≠ d'.id) ↔
        SeparateNames boardVendor tree := by
  constructor
  · intro h
    constructor
    · intro dir hdir d hd d' hd' hfile hlabel
      refine h d (mem_descriptors.mpr ⟨dir, hdir, hd⟩) d' (mem_descriptors.mpr ⟨dir, hdir, hd'⟩) ?_
        ((label_inj hd hd').mpr hlabel)
      exact fun heq => hfile (congrArg InputPath.file heq)
    · intro dir hdir dir' hdir' hne d hd d' hd' hname
      refine h d (mem_descriptors.mpr ⟨dir, hdir, hd⟩) d' (mem_descriptors.mpr ⟨dir', hdir', hd'⟩) ?_
        ((sensorName_inj hd hd').mpr hname)
      intro heq
      have hdirs := congrArg InputPath.dir heq
      rw [(sensorsOf_spec hd).1, (sensorsOf_spec hd').1] at hdirs
      exact hne hdirs
  · rintro ⟨hlabels, hnames⟩ d hd d' hd' hpath hid
    obtain ⟨dir, hdir, hd⟩ := mem_descriptors.mp hd
    obtain ⟨dir', hdir', hd'⟩ := mem_descriptors.mp hd'
    by_cases hsame : dir.dirName = dir'.dirName
    · obtain rfl := List.inj_on_of_nodup_map (hwmonDirs_nodup tree) hdir hdir' hsame
      refine hlabels dir hdir d hd d' hd' ?_ ((label_inj hd hd').mp hid)
      intro hfile
      refine hpath ?_
      have hdirs : d.inputPath.dir = d'.inputPath.dir := (sensorsOf_spec hd).1.trans (sensorsOf_spec hd').1.symm
      exact InputPath.ext hdirs hfile
    · exact hnames dir hdir dir' hdir' hsame d hd d' hd' ((sensorName_inj hd hd').mp hid)

end Names

/-! ## The tick, where names are separate -/

section Separate

variable {boardVendor : String} {s : SensorLoop} {tree : HwmonTree} {files : InputPath → TempFile}
  {nvml : List NvmlTemp} {result : LegResult} {now : Nat} (hnames : SeparateNames boardVendor tree)
  (htick : TickOver boardVendor s tree files nvml result)

theorem TickOver.spec (htick : TickOver boardVendor s tree files nvml result) :
    (s.adopt result.found).descriptors = (discoverSensorsReportingSkips boardVendor tree).descriptors ∧
      (s.adopt result.found).sensors = s.sensors ∧
      result.outcome = readLeg files nvml (discoverSensorsReportingSkips boardVendor tree).descriptors := by
  rcases htick with rfl | ⟨hdesc, rfl⟩
  · exact ⟨rfl, rfl, rfl⟩
  · exact ⟨hdesc, rfl, by rw [hdesc]⟩

/-- A reading of the tick that has a described id is that input's. -/
theorem reading_of_id {d : SensorDescriptor} (hnames : SeparateNames boardVendor tree)
    (hd : d ∈ (discoverSensorsReportingSkips boardVendor tree).descriptors) {r : Hwmon.SensorReading}
    (hr : r ∈ tickReadings boardVendor tree files nvml) (hid : r.id = d.id) : readTemp files d = .ok r := by
  rcases List.mem_append.mp hr with hr | hr
  · obtain ⟨d', hd', hread⟩ := mem_readings.mp hr
    have hsame : d'.id = d.id := (readTemp_ok hread).1.symm.trans hid
    have hpath : d'.inputPath = d.inputPath := by
      by_contra hne
      exact apart_iff.mpr hnames d' hd' d hd hne hsame
    rwa [eq_of_inputPath hd' hd hpath] at hread
  · -- NVML's ids are no hwmon ids
    obtain ⟨n, -, rfl⟩ := List.mem_map.mp hr
    obtain ⟨dir, -, hfound⟩ := mem_descriptors.mp hd
    have hhwmon := (sensorsOf_spec hfound).2.1
    rw [← hid] at hhwmon
    simp [IsHwmonId] at hhwmon

include hnames in
theorem fails_of_failure {d : SensorDescriptor}
    (hd : d ∈ (discoverSensorsReportingSkips boardVendor tree).descriptors) {f : SensorReadFailure}
    (hf : f ∈ (credible (readLeg files nvml (discoverSensorsReportingSkips boardVendor tree).descriptors)).failures)
    (hid : f.id = d.id) : ReadFails boardVendor tree files nvml d := by
  rcases List.mem_append.mp hf with hf | hf
  · obtain ⟨d', hd', hfid, reason, hread⟩ := mem_failures hf
    have hpath : d'.inputPath = d.inputPath := by
      by_contra hne
      exact apart_iff.mpr hnames d' hd' d hd hne (hfid.symm.trans hid)
    rw [eq_of_inputPath hd' hd hpath] at hread
    exact .inl ⟨reason, hread⟩
  · obtain ⟨r, hr, hrid, hlow⟩ := mem_implausiblyLow hf
    exact .inr ⟨r, reading_of_id hnames hd hr (hrid.trans hid), hlow⟩

include hnames htick in
/-- An input whose read did not fail is quarantined by no other. -/
theorem not_quarantined {d : SensorDescriptor} (hd : d ∈ (discoverSensorsReportingSkips boardVendor tree).descriptors)
    (hok : ¬ ReadFails boardVendor tree files nvml d) :
    ¬ (s.apply result now).Quarantines d.id := by
  intro hq
  obtain ⟨-, f, hf, hid⟩ := quarantines_record hq
  rw [htick.spec.2.2] at hf
  exact hok (fails_of_failure hnames hd hf hid)

include hnames htick in
theorem entry_of_reading {d : SensorDescriptor} (hd : d ∈ (discoverSensorsReportingSkips boardVendor tree).descriptors)
    {r : Hwmon.SensorReading} (hread : readTemp files d = .ok r)
    (hcredible : ¬ ImplausiblyLow (tickReadings boardVendor tree files nvml) r) :
    (⟨r, now⟩ : CacheEntry) ∈ (s.apply result now).sensors := by
  have hid : r.id = d.id := (readTemp_ok hread).1
  have hmem : r ∈ tickReadings boardVendor tree files nvml :=
    List.mem_append_left _ (mem_readings.mpr ⟨d, hd, hread⟩)
  obtain ⟨-, -, houtcome⟩ := htick.spec
  have hkept : r ∈ (credible result.outcome).readings := by
    rw [houtcome]
    refine List.mem_filter.mpr ⟨hmem, ?_⟩
    rw [Bool.not_eq_true', List.any_eq_false]
    intro f hf heq
    obtain ⟨r', hr', hrid, hlow⟩ := mem_implausiblyLow hf
    have hown := reading_of_id hnames hd hr' (hrid.trans ((decide_eq_true_eq.mp heq).trans hid))
    obtain rfl := Except.ok.inj (hread.symm.trans hown)
    exact hcredible hlow
  have hok : ¬ ReadFails boardVendor tree files nvml d := by
    rintro (⟨reason, herror⟩ | ⟨r', hr', hlow⟩)
    · rw [hread] at herror
      cases herror
    · obtain rfl := Except.ok.inj (hread.symm.trans hr')
      exact hcredible hlow
  have hcaches : (s.apply result now).Caches r.id := by
    refine caches_record.mpr ⟨⟨.inr ⟨r, hkept, rfl⟩, ?_⟩, .inr (.inl ⟨r, hkept, rfl⟩)⟩
    rw [hid]
    exact not_quarantined hnames htick hd hok
  obtain ⟨e, he, heid⟩ := hcaches
  rcases mem_record he with ⟨r', hr', rfl⟩ | ⟨-, hne⟩
  · rw [houtcome] at hr'
    have hown := reading_of_id hnames hd (List.mem_filter.mp hr').1 (heid.trans hid)
    obtain rfl := Except.ok.inj (hread.symm.trans hown)
    exact he
  · exact absurd heid.symm (hne r hkept)

include hnames htick in
theorem covered_of_separate : CpuCovered boardVendor s tree files nvml result now where
  apart := apart_iff.mpr hnames
  cached _ hd _ hread hcredible := entry_of_reading hnames htick hd hread hcredible
  hottest := by
    intro d hd hcpu r hread hcredible later staleAfter hlater
    have hentry : (⟨r, now⟩ : CacheEntry) ∈ (s.apply result now).sensors := entry_of_reading hnames htick hd hread hcredible
    have hthere : (⟨r, now⟩ : CacheEntry).forThermal ∈
        (s.apply result now).sensors.map (·.forThermal) := List.mem_map.mpr ⟨_, hentry, rfl⟩
    have hkind : isCpu (⟨r, now⟩ : CacheEntry).forThermal = true := by
      simpa [isCpu, CacheEntry.forThermal] using (readTemp_ok hread).2.1.trans hcpu
    obtain ⟨v, hv⟩ := hottestReadingWhere_of_fresh hthere hkind hlater
    refine ⟨v, hv, ?_⟩
    have hmax := (hottestReadingWhere_fresh hv).2 _ hthere hkind hlater
    rcases Ieee.max_eq_right_iff.mp hmax with hnan | hle
    · cases hnan
    · exact hle
  own := by
    rintro d hd (hq | ⟨hcached, hdrop⟩)
    · by_contra hok
      exact not_quarantined hnames htick hd hok hq
    · by_contra hok
      obtain ⟨hdesc, hsame, -⟩ := htick.spec
      refine hdrop (caches_record.mpr ⟨⟨.inl ?_, not_quarantined hnames htick hd hok⟩, .inl ⟨d, hdesc ▸ hd, rfl⟩⟩)
      obtain ⟨x, hx, hid⟩ := hcached
      exact ⟨x, hsame ▸ hx, hid⟩

end Separate

/-- **No CPU input is hidden exactly when names are separate.** For every board vendor, tree, state of the
loop, and whatever the files and NVML answer on the tick. -/
theorem cpu_covered_iff (boardVendor : String) (s : SensorLoop) (tree : HwmonTree) (files : InputPath → TempFile)
    (nvml : List NvmlTemp) (result : LegResult) (htick : TickOver boardVendor s tree files nvml result) (now : Nat) :
    CpuCovered boardVendor s tree files nvml result now ↔ SeparateNames boardVendor tree :=
  ⟨fun h => apart_iff.mp h.apart, fun h => covered_of_separate h htick⟩

/-- A laptop chip with two inputs, the first labelled CPU by its driver. -/
def laptopTree (second : String) : HwmonTree where
  dirs := [⟨"hwmon0", .ok "dell_smm", .resolved ["..", "..", "..", "dell_smm_hwmon"], none,
    .ok [⟨"temp1_input", some (.ok "CPU")⟩, ⟨"temp2_input", some (.ok second)⟩], true⟩]
  dirs_nodup := List.nodup_singleton _
  files_nodup := by
    intro d hd l hl
    rw [List.mem_singleton.mp hd] at hl
    obtain rfl := Except.ok.inj hl
    exact (by decide : ["temp1_input", "temp2_input"].Nodup)

/-- 95 degrees on the first, 40 on the second. -/
def laptopFiles (path : InputPath) : TempFile := ⟨.ok (if path.file = "temp1_input" then 95000 else 40000), none⟩

/-- With labels of their own both are seen. -/
theorem laptop_covered :
    CpuCovered "" .start (laptopTree "Ambient") laptopFiles [] (discoverLeg "" (laptopTree "Ambient") laptopFiles []) 0 := by
  refine (cpu_covered_iff "" .start (laptopTree "Ambient") laptopFiles [] _ (.inl rfl) 0).mpr ⟨?_, ?_⟩
  · decide
  · decide

/-- With the same label the thermal rule sees the 40 degrees. -/
theorem laptop_hidden :
    hottestCpuReading ((SensorLoop.start.apply (discoverLeg "" (laptopTree "CPU") laptopFiles []) 0).sensors.map
        (·.forThermal)) 0 0 = .fresh (.fin 40) ∧
      ¬ CpuCovered "" .start (laptopTree "CPU") laptopFiles [] (discoverLeg "" (laptopTree "CPU") laptopFiles []) 0 := by
  have hread : hottestCpuReading ((SensorLoop.start.apply (discoverLeg "" (laptopTree "CPU") laptopFiles []) 0).sensors.map
      (·.forThermal)) 0 0 = .fresh (.fin 40) := by
    decide +kernel
  refine ⟨hread, fun h => ?_⟩
  let d : SensorDescriptor :=
    ⟨"hwmon:dell_smm:dell_smm_hwmon:CPU", .cpuTemp, "CPU", ⟨"hwmon0", "temp1_input"⟩, "dell_smm"⟩
  have hd : d ∈ (discoverSensorsReportingSkips "" (laptopTree "CPU")).descriptors := by decide
  have hmb : hottestMbC (tickReadings "" (laptopTree "CPU") laptopFiles []) = none := by decide +kernel
  obtain ⟨v, hv, hle⟩ := h.hottest d hd rfl ⟨d.id, .cpuTemp, "CPU", 95, some d.inputPath⟩ (by decide +kernel)
    (fun ⟨_, mbC, hmb', _⟩ => by rw [hmb] at hmb'; cases hmb') 0 0 (le_refl _)
  obtain rfl := CpuReading.fresh.inj (hv.symm.trans hread)
  exact absurd (Ieee.fin_le_fin.mp hle) (by decide)

end ControlOfc.Polling
