import ControlOfc.Hwmon.MemoryId
import ControlOfc.Profile.Roles
import ControlOfc.Thermal.SafetyTick
import Mathlib.Data.List.Nodup
import Mathlib.Data.List.Sort
/-! # Temperature sensors of a hwmon tree (hwmon/discovery.rs, reader.rs, plausibility.rs)

A pass lists the chip directories, classifies each `tempN_input` and gives it the id everything after it is
keyed by. Attributes are given trimmed. The temperature type, the thresholds and the source of a sensor are
left out: nothing modelled reads them.
-/
namespace ControlOfc.Hwmon
open Text Profile
open Thermal (SensorKind)

/-! ## The tree -/

/-- The `device` entry of a chip directory. -/
inductive DeviceLink where
  | absent
  /-- There, but neither `read_link` nor `canonicalize` answers. -/
  | unresolved
  | resolved (components : List String)
  deriving DecidableEq, Repr

/-- A `tempN_input` file with the label beside it: none, or one that reads or does not. -/
structure TempInput where
  fileName : String
  label : Option (Except String String)

/-- A chip directory as a pass finds it. -/
structure HwmonDir where
  dirName : String
  name : Except String String
  device : DeviceLink
  /-- What `stable_device_id` (memory_id.rs:230) makes of its SMBus topology. -/
  memoryDevice : Option String
  inputs : Except String (List TempInput)
  /-- Whether it still exists when its sensors cannot be discovered. -/
  exists_ : Bool

/-- A listing names each directory once, and each directory each of its files. -/
structure HwmonTree where
  dirs : List HwmonDir
  dirs_nodup : (dirs.map (·.dirName)).Nodup
  files_nodup : ∀ d ∈ dirs, ∀ l, d.inputs = .ok l → (l.map (·.fileName)).Nodup

/-- `<root>/<dir>/<file>`. -/
@[ext] structure InputPath where
  dir : String
  file : String
  deriving DecidableEq, Repr

/-- `SensorDescriptor` (hwmon/types.rs:150). -/
structure SensorDescriptor where
  id : String
  kind : SensorKind
  label : String
  inputPath : InputPath
  chipName : String
  deriving DecidableEq, Repr

/-! ## Classification -/

/-- `COOLANT_TEMP_CHIPS` (hwmon/aio.rs:68). -/
def coolantTempChips : List (List Char) :=
  ["x53", "z53", "kraken2023", "kraken2023elite", "kraken2024elite", "kraken2"].map String.toList

/-- `COOLANT_LABEL_HINTS` (hwmon/aio.rs:107). -/
def coolantLabelHints : List (List Char) := ["coolant", "water", "liquid"].map String.toList

/-- `is_coolant_sensor` (hwmon/aio.rs:121). -/
def isCoolantSensor (chipName label : String) : Bool :=
  coolantTempChips.contains (toLowercase chipName.toList) || labelHints coolantLabelHints label.toList

/-- `ASUS_CPUTIN_BOGUS_CHIPS` (discovery.rs:182). -/
def asusCputinBogusChips : List String :=
  ["nct6775", "nct6776", "nct6779", "nct6791", "nct6792", "nct6793", "nct6795", "nct6796", "nct6797", "nct6798",
    "nct6799"]

/-- `NUVOTON_PECI_TSI_CHIPS` (discovery.rs:203). -/
def nuvotonPeciTsiChips : List String := asusCputinBogusChips ++ ["nct6683", "nct6686", "nct6687"]

/-- `is_known_bogus_cpu_sensor` (discovery.rs:215). -/
def isKnownBogusCpuSensor (chipName : String) (lowerLabel : List Char) (boardVendor : String) : Bool :=
  asusCputinBogusChips.contains chipName && contains (toLowercase boardVendor.toList) "asus".toList &&
    lowerLabel == "cputin".toList

/-- `classify_chip` (discovery.rs:229). -/
def classifyChip (chipName label boardVendor : String) : SensorKind :=
  let lower := toLowercase label.toList
  let hints (hint : String) : Bool := contains lower hint.toList
  if isCoolantSensor chipName label then .coolantTemp
  else if isKnownBogusCpuSensor chipName lower boardVendor then .mbTemp
  else if chipName == "k10temp" || chipName == "coretemp" then .cpuTemp
  else if chipName == "amdgpu" || chipName == "xe" || chipName == "i915" || chipName == "nouveau" then .gpuTemp
  else if chipName == "nvme" then .diskTemp
  else if chipName == "sbtsi" || chipName == "sbtsi_temp" then .cpuTemp
  else if "it87".toList.isPrefixOf chipName.toList then .mbTemp
  else if nuvotonPeciTsiChips.contains chipName then
    if hints "dimm" then .mbTemp
    else if hints "amd tsi" || hints "tsi" || hints "peci" || hints "cpu" then .cpuTemp
    else .mbTemp
  else if chipName == "asusec" || chipName == "asus_ec_sensors" || chipName == "asus_wmi_sensors" then
    if hints "cpu" then .cpuTemp else if hints "gpu" then .gpuTemp else .mbTemp
  else if chipName == "gigabyte_wmi" then .mbTemp
  else if hints "cpu" || hints "tctl" || hints "tccd" then .cpuTemp
  else if hints "gpu" || hints "edge" || hints "junction" then .gpuTemp
  else .mbTemp

/-! ## Ids -/

/-- A path component that names a device: a PCI address, or one of three platform prefixes. -/
def isDeviceComponent (s : String) : Bool :=
  (12 ≤ s.utf8ByteSize && s.toList[4]? == some ':' && s.toList[7]? == some ':' && s.toList[10]? == some '.') ||
    ["it87", "isa", "nct"].any fun p => p.toList.isPrefixOf s.toList

/-- `Path::file_name`, of a path given by its components. -/
def pathFileName (components : List String) : Option String :=
  components.getLast?.filter fun s => s != ".." && s != "/"

/-- `device_id_from_path` (hwmon/util.rs:13). -/
def deviceIdFromPath (components : List String) : String :=
  (components.reverse.find? isDeviceComponent).getD ((pathFileName components).getD "unknown")

/-- `device_id_for_hwmon_dir` (discovery.rs:456). -/
def deviceIdForHwmonDir (dir : HwmonDir) : String :=
  match dir.device with
  | .absent => "nodev"
  | .unresolved => deviceIdFromPath ["unknown"]
  | .resolved components => deviceIdFromPath components

/-- `device_id_for_memory_chip` (memory_id.rs:265). -/
def deviceIdForMemoryChip (chipName : String) (dir : HwmonDir) : Option String :=
  if MemoryId.memoryModuleChips.contains chipName.toList then dir.memoryDevice else none

/-- `build_stable_id` (discovery.rs:333). -/
def buildStableId (chipName deviceId label : String) : String :=
  "hwmon:" ++ chipName ++ ":" ++ deviceId ++ ":" ++ label

/-! ## Discovery -/

/-- `canonical_chip_name` (hwmon/chip_name.rs:51). -/
def canonicalChipName (raw : String) : String := ((splitIt87Suffix raw.toList).map String.ofList).getD raw

/-- The files a chip's pass takes, in path order. -/
def tempInputs (inputs : List TempInput) : List TempInput :=
  (inputs.filter fun i => "temp".toList.isPrefixOf i.fileName.toList && "_input".toList.isSuffixOf i.fileName.toList)
    |>.insertionSort fun a b => a.fileName ≤ b.fileName

/-- The `N` of `tempN_input`. -/
def tempIndex (fileName : String) : String :=
  String.ofList ((fileName.toList.drop 4).take (fileName.toList.length - 10))

/-- The label an id is built from; one that is there and does not read fails the chip. -/
def inputLabel (input : TempInput) : Except String String :=
  match input.label with
  | some label => label
  | none => .ok ("temp" ++ tempIndex input.fileName)

/-- One sensor of a chip. -/
def describe (boardVendor : String) (dir : HwmonDir) (chipName : String) (input : TempInput) (label : String) :
    SensorDescriptor where
  id := buildStableId chipName ((deviceIdForMemoryChip chipName dir).getD (deviceIdForHwmonDir dir)) label
  kind := classifyChip chipName label boardVendor
  label := label
  inputPath := ⟨dir.dirName, input.fileName⟩
  chipName := chipName

/-- The loop over a chip's inputs (discovery.rs:507-588). -/
def describeAll (boardVendor : String) (dir : HwmonDir) (chipName : String) :
    List TempInput → Except String (List SensorDescriptor)
  | [] => .ok []
  | input :: inputs => do
    let label ← inputLabel input
    let sensors ← describeAll boardVendor dir chipName inputs
    return describe boardVendor dir chipName input label :: sensors

/-- `discover_device_sensors` (discovery.rs:476). -/
def discoverDeviceSensors (boardVendor : String) (dir : HwmonDir) : Except String (List SensorDescriptor) := do
  let name ← dir.name
  let inputs ← dir.inputs
  describeAll boardVendor dir (canonicalChipName name) (tempInputs inputs)

/-- The directories a pass goes through, in path order. -/
def hwmonDirs (dirs : List HwmonDir) : List HwmonDir :=
  (dirs.filter fun d => "hwmon".toList.isPrefixOf d.dirName.toList).insertionSort fun a b => a.dirName ≤ b.dirName

/-- `SensorDiscovery` (discovery.rs:355). -/
structure SensorDiscovery where
  descriptors : List SensorDescriptor
  unreadableDirs : List String

/-- The sensors of a directory, none where they cannot be discovered. -/
def sensorsOf (boardVendor : String) (dir : HwmonDir) : List SensorDescriptor :=
  match discoverDeviceSensors boardVendor dir with
  | .ok sensors => sensors
  | .error _ => []

/-- Present but unreadable. -/
def isUnreadable (boardVendor : String) (dir : HwmonDir) : Bool :=
  match discoverDeviceSensors boardVendor dir with
  | .ok _ => false
  | .error _ => dir.exists_

/-- `discover_sensors_reporting_skips` (discovery.rs:400), of a root that lists. -/
def discoverSensorsReportingSkips (boardVendor : String) (tree : HwmonTree) : SensorDiscovery where
  descriptors := (hwmonDirs tree.dirs).flatMap (sensorsOf boardVendor)
  unreadableDirs := ((hwmonDirs tree.dirs).filter (isUnreadable boardVendor)).map (·.dirName)

/-! ## Reading -/

/-- Why a sensor has no reading this tick. -/
inductive FailureReason where
  | disabled
  | read ( message : String)
  | implausibleValue (valueC : ℚ)
  | implausiblyLow (valueC hottestMbC : ℚ)
  deriving DecidableEq, Repr

/-- `SensorReadFailure` (hwmon/mod.rs:70). -/
structure SensorReadFailure where
  id : String
  label : String
  reason : FailureReason
  deriving DecidableEq, Repr

/-- `SensorReading` (hwmon/types.rs:126). `path` is carried along: the file it was read from, none for NVML's. -/
structure SensorReading where
  id : String
  kind : SensorKind
  label : String
  valueC : ℚ
  path : Option InputPath
  deriving DecidableEq, Repr

/-- What the files of one sensor answer: the millidegrees or an error, and its `tempN_enable`. -/
structure TempFile where
  millidegrees : Except String Int
  enable : Option String

def plausibleMinC : ℚ := -50
def plausibleMaxC : ℚ := 250

/-- `ENABLE_UNCHECKED_CHIPS` (reader.rs:145). -/
def enableUncheckedChips : List String := ["spd5118"]

/-- `read_temp` (reader.rs:60). -/
def readTemp (files : InputPath → TempFile) (d : SensorDescriptor) : Except FailureReason SensorReading :=
  if enableUncheckedChips.contains d.chipName && (files d.inputPath).enable == some "0" then .error .disabled
  else
    match (files d.inputPath).millidegrees with
    | .error message => .error (.read message)
    | .ok millidegrees =>
      let valueC : ℚ := millidegrees / 1000
      if plausibleMinC ≤ valueC ∧ valueC ≤ plausibleMaxC then .ok ⟨d.id, d.kind, d.label, valueC, some d.inputPath⟩
      else .error (.implausibleValue valueC)

/-- `SensorReadOutcome` (hwmon/mod.rs:59). -/
structure SensorReadOutcome where
  readings : List SensorReading
  failures : List SensorReadFailure

/-- The reading of one sensor, if any. -/
def readingOf (files : InputPath → TempFile) (d : SensorDescriptor) : Option SensorReading := (readTemp files d).toOption

/-- Its failure, if any. -/
def failureOf (files : InputPath → TempFile) (d : SensorDescriptor) : Option SensorReadFailure :=
  match readTemp files d with
  | .ok _ => none
  | .error reason => some ⟨d.id, d.label, reason⟩

/-- `read_sensor_values` (hwmon/mod.rs:87). -/
def readSensorValues (files : InputPath → TempFile) (descriptors : List SensorDescriptor) : SensorReadOutcome where
  readings := descriptors.filterMap (readingOf files)
  failures := descriptors.filterMap (failureOf files)

/-! ## Plausibility -/

def cpuBelowMbMarginC : ℚ := 15
def cpuAbsoluteMinC : ℚ := 10

/-- `hottest_mb_c` (plausibility.rs:64). -/
def hottestMbC (readings : List SensorReading) : Option ℚ :=
  (readings.filter (·.kind = .mbTemp)).foldl (fun acc r => some (acc.elim r.valueC fun a => max a r.valueC)) none

/-- `is_implausibly_low_cpu` (plausibility.rs:78). -/
def isImplausiblyLowCpu (cpuC mbC : ℚ) : Bool := cpuC < mbC - cpuBelowMbMarginC && cpuC < cpuAbsoluteMinC

/-- `implausibly_low_cpu_readings` (plausibility.rs:90). -/
def implausiblyLowCpuReadings (readings : List SensorReading) : List SensorReadFailure :=
  match hottestMbC readings with
  | none => []
  | some mbC =>
    ((readings.filter (·.kind = .cpuTemp)).filter fun r => isImplausiblyLowCpu r.valueC mbC).map fun r =>
      ⟨r.id, r.label, .implausiblyLow r.valueC mbC⟩

/-! ## What a pass finds -/

section Pass

variable {boardVendor : String}

theorem describeAll_spec {dir : HwmonDir} {chipName : String} {inputs : List TempInput} {sensors : List SensorDescriptor}
    (h : describeAll boardVendor dir chipName inputs = .ok sensors) :
    sensors.map (·.inputPath) = inputs.map (fun i => ⟨dir.dirName, i.fileName⟩) ∧
      ∀ d ∈ sensors, ∃ input label, d = describe boardVendor dir chipName input label := by
  induction inputs generalizing sensors with
  | nil =>
    obtain rfl := Except.ok.inj h
    exact ⟨rfl, nofun⟩
  | cons input inputs ih =>
    unfold describeAll at h
    cases hlabel : inputLabel input with
    | error e =>
      rw [hlabel] at h
      cases h
    | ok label =>
      rw [hlabel] at h
      cases hrest : describeAll boardVendor dir chipName inputs with
      | error e =>
        rw [hrest] at h
        cases h
      | ok rest =>
        rw [hrest] at h
        obtain rfl := Except.ok.inj h
        obtain ⟨hpaths, hall⟩ := ih hrest
        constructor
        · rw [List.map_cons, List.map_cons, hpaths]
          rfl
        · intro d hd
          rcases List.mem_cons.mp hd with rfl | hd
          · exact ⟨input, label, rfl⟩
          · exact hall d hd

theorem tempInputs_perm (inputs : List TempInput) :
    (tempInputs inputs).Perm (inputs.filter fun i =>
      "temp".toList.isPrefixOf i.fileName.toList && "_input".toList.isSuffixOf i.fileName.toList) :=
  List.perm_insertionSort _ _

theorem hwmonDirs_perm (dirs : List HwmonDir) :
    (hwmonDirs dirs).Perm (dirs.filter fun d => "hwmon".toList.isPrefixOf d.dirName.toList) :=
  List.perm_insertionSort _ _

theorem hwmonDirs_subset {dirs : List HwmonDir} {dir : HwmonDir} (h : dir ∈ hwmonDirs dirs) : dir ∈ dirs :=
  (List.mem_filter.mp ((hwmonDirs_perm dirs).mem_iff.mp h)).1

theorem hwmonDirs_nodup (tree : HwmonTree) : ((hwmonDirs tree.dirs).map (·.dirName)).Nodup :=
  ((hwmonDirs_perm tree.dirs).map _).nodup_iff.mpr (tree.dirs_nodup.sublist (List.filter_sublist.map _))

/-- Every id a pass builds begins so. -/
def IsHwmonId (id : String) : Prop := id.toList.head? = some 'h'

theorem isHwmonId_stableId (chipName deviceId label : String) : IsHwmonId (buildStableId chipName deviceId label) := by
  simp [IsHwmonId, buildStableId]

theorem sensorsOf_spec {dir : HwmonDir} {d : SensorDescriptor} (h : d ∈ sensorsOf boardVendor dir) :
    d.inputPath.dir = dir.dirName ∧ IsHwmonId d.id ∧
      ∃ sensors, discoverDeviceSensors boardVendor dir = .ok sensors ∧ d ∈ sensors := by
  unfold sensorsOf at h
  cases hfound : discoverDeviceSensors boardVendor dir with
  | error e =>
    rw [hfound] at h
    cases h
  | ok sensors =>
    rw [hfound] at h
    dsimp only at h
    unfold discoverDeviceSensors at hfound
    cases hname : dir.name with
    | error e =>
      rw [hname] at hfound
      cases hfound
    | ok name =>
      rw [hname] at hfound
      cases hinputs : dir.inputs with
      | error e =>
        rw [hinputs] at hfound
        cases hfound
      | ok inputs =>
        rw [hinputs] at hfound
        obtain ⟨-, hall⟩ := describeAll_spec hfound
        obtain ⟨input, label, rfl⟩ := hall d h
        exact ⟨rfl, isHwmonId_stableId _ _ _, sensors, rfl, h⟩

theorem sensorsOf_files_nodup {tree : HwmonTree} {dir : HwmonDir} (hdir : dir ∈ tree.dirs) :
    ((sensorsOf boardVendor dir).map (·.inputPath)).Nodup := by
  unfold sensorsOf
  cases hfound : discoverDeviceSensors boardVendor dir with
  | error e => exact List.nodup_nil
  | ok sensors =>
    dsimp only
    unfold discoverDeviceSensors at hfound
    cases hname : dir.name with
    | error e =>
      rw [hname] at hfound
      cases hfound
    | ok name =>
      rw [hname] at hfound
      cases hinputs : dir.inputs with
      | error e =>
        rw [hinputs] at hfound
        cases hfound
      | ok inputs =>
        rw [hinputs] at hfound
        obtain ⟨hpaths, -⟩ := describeAll_spec hfound
        have hfiles : ((tempInputs inputs).map (·.fileName)).Nodup :=
          ((tempInputs_perm inputs).map _).nodup_iff.mpr
            ((tree.files_nodup dir hdir inputs hinputs).sublist (List.filter_sublist.map _))
        rw [hpaths, show (fun i : TempInput => InputPath.mk dir.dirName i.fileName) =
          InputPath.mk dir.dirName ∘ (·.fileName) from rfl, ← List.map_map]
        exact hfiles.map fun a b heq => congrArg InputPath.file heq

theorem mem_descriptors {tree : HwmonTree} {d : SensorDescriptor} :
    d ∈ (discoverSensorsReportingSkips boardVendor tree).descriptors ↔
      ∃ dir ∈ hwmonDirs tree.dirs, d ∈ sensorsOf boardVendor dir := List.mem_flatMap

/-- **A pass finds each file once.** -/
theorem descriptors_nodup (tree : HwmonTree) :
    ((discoverSensorsReportingSkips boardVendor tree).descriptors.map (·.inputPath)).Nodup := by
  unfold discoverSensorsReportingSkips
  dsimp only
  have hnodup := hwmonDirs_nodup tree
  have hsub : ∀ dir ∈ hwmonDirs tree.dirs, dir ∈ tree.dirs := fun dir => hwmonDirs_subset
  generalize hwmonDirs tree.dirs = dirs at hnodup hsub
  induction dirs with
  | nil => exact List.nodup_nil
  | cons dir dirs ih =>
    rw [List.map_cons, List.nodup_cons] at hnodup
    rw [List.flatMap_cons, List.map_append]
    refine List.Nodup.append (sensorsOf_files_nodup (hsub dir List.mem_cons_self))
      (ih hnodup.2 fun d hd => hsub d (List.mem_cons_of_mem _ hd)) ?_
    intro path hpath hpath'
    obtain ⟨d, hd, rfl⟩ := List.mem_map.mp hpath
    obtain ⟨d', hd', heq⟩ := List.mem_map.mp hpath'
    obtain ⟨dir', hdir', hfound⟩ := List.mem_flatMap.mp hd'
    refine hnodup.1 (List.mem_map.mpr ⟨dir', hdir', ?_⟩)
    rw [← (sensorsOf_spec hfound).1, heq, (sensorsOf_spec hd).1]

theorem eq_of_inputPath {tree : HwmonTree} {d d' : SensorDescriptor}
    (hd : d ∈ (discoverSensorsReportingSkips boardVendor tree).descriptors)
    (hd' : d' ∈ (discoverSensorsReportingSkips boardVendor tree).descriptors) (h : d.inputPath = d'.inputPath) : d = d' :=
  List.inj_on_of_nodup_map (descriptors_nodup tree) hd hd' h

end Pass

section Reading

variable {files : InputPath → TempFile} {d : SensorDescriptor} {r : SensorReading}

theorem readTemp_ok (h : readTemp files d = .ok r) :
    r.id = d.id ∧ r.kind = d.kind ∧ r.path = some d.inputPath := by
  unfold readTemp at h
  split at h
  · cases h
  · split at h
    · cases h
    · dsimp only at h
      split at h
      · obtain rfl := Except.ok.inj h
        exact ⟨rfl, rfl, rfl⟩
      · cases h

theorem mem_readings {descriptors : List SensorDescriptor} :
    r ∈ (readSensorValues files descriptors).readings ↔ ∃ d ∈ descriptors, readTemp files d = .ok r := by
  have hone : ∀ d, readingOf files d = some r ↔ readTemp files d = .ok r := by
    intro d
    unfold readingOf Except.toOption
    cases readTemp files d <;> simp
  simp [readSensorValues, List.mem_filterMap, hone]

theorem mem_failures {descriptors : List SensorDescriptor} {f : SensorReadFailure}
    (h : f ∈ (readSensorValues files descriptors).failures) :
    ∃ d ∈ descriptors, f.id = d.id ∧ ∃ reason, readTemp files d = .error reason := by
  obtain ⟨d, hd, hf⟩ := List.mem_filterMap.mp h
  unfold failureOf at hf
  cases hread : readTemp files d with
  | ok r =>
    rw [hread] at hf
    cases hf
  | error reason =>
    rw [hread] at hf
    obtain rfl := Option.some.inj hf
    exact ⟨d, hd, rfl, reason, hread⟩

end Reading

end ControlOfc.Hwmon
