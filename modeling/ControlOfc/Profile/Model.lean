import Mathlib.Data.Rat.Defs
/-! # The profile document (profile.rs:20-175)

The document is generic in its number type `F`: a parsed file may hold any `f64` (`Ieee`), what the
load-time net lets through is finite, and the engine computes on rationals. The source's free-form
type strings are enumerations with one constructor for every other string.
-/
namespace ControlOfc.Profile

/-- `curve_type`. -/
inductive CurveType where
  | graph
  | stepped
  | linear
  | flat
  | trigger
  | mix
  | sync
  | unknown (s : String)
  deriving DecidableEq, Repr

/-- `mode`: the engine tests for `"manual"`, the sorter and `validate` for `"curve"`. -/
inductive Mode where
  | curve
  | manual
  | other (s : String)
  deriving DecidableEq, Repr

/-- A member's `source`. -/
inductive Source where
  | openfan
  | hwmon
  | amdGpu
  | intelGpu
  | nvidiaGpu
  | other (s : String)
  deriving DecidableEq, Repr

/-- `mix_function`. -/
inductive MixFunction where
  | max
  | min
  | average
  | sum
  | subtract
  | unknown (s : String)
  deriving DecidableEq, Repr

/-- `CurvePoint` (profile.rs:172). -/
structure CurvePoint (F : Type) where
  tempC : F
  outputPct : F
  deriving DecidableEq, Repr

/-- `CurveConfig` (profile.rs:93). -/
structure CurveConfig (F : Type) where
  id : String
  name : String
  curveType : CurveType
  sensorId : String
  points : List (CurvePoint F)
  startTempC : Option F
  startOutputPct : Option F
  endTempC : Option F
  endOutputPct : Option F
  flatOutputPct : Option F
  triggerIdleTempC : Option F
  triggerLoadTempC : Option F
  triggerIdlePct : Option F
  triggerLoadPct : Option F
  mixFunction : Option MixFunction
  mixCurveIds : List String
  syncControlId : String
  syncOffsetPct : Option F
  hysteresisC : Option F
  deriving DecidableEq, Repr

/-- `ControlMember` (profile.rs:75). -/
structure ControlMember where
  source : Source
  memberId : String
  memberLabel : String
  fanZeroRpm : Bool
  deriving DecidableEq, Repr

/-- `LogicalControl` (profile.rs:38). -/
structure LogicalControl (F : Type) where
  id : String
  name : String
  mode : Mode
  curveId : String
  manualOutputPct : F
  members : List ControlMember
  stepUpPct : F
  stepDownPct : F
  offsetPct : F
  minimumPct : F
  startPct : F
  stopPct : F
  deriving DecidableEq, Repr

/-- `DaemonProfile` (profile.rs:22), its version and description apart. -/
structure DaemonProfile (F : Type) where
  id : String
  controls : List (LogicalControl F)
  curves : List (CurveConfig F)
  deriving DecidableEq, Repr

/-- `MAX_PROFILE_CURVES` (profile.rs:634). -/
def maxProfileCurves : Nat := 256

/-- `MAX_PROFILE_CONTROLS` (profile.rs:643). -/
def maxProfileControls : Nat := 256

/-- `MAX_CURVE_POINTS` (profile.rs:616). -/
def maxCurvePoints : Nat := 256

/-- `HYSTERESIS_DEADBAND_C` (constants.rs). -/
def hysteresisDeadbandC : ℚ := 2

/-- `HYSTERESIS_DEADBAND_MAX_C` (constants.rs). -/
def hysteresisDeadbandMaxC : ℚ := 10

/-- `CurveConfig::default` under a given id and type (serde's defaults for every other field). -/
def CurveConfig.blank {F : Type} (id : String) (curveType : CurveType) : CurveConfig F :=
  ⟨id, "", curveType, "", [], none, none, none, none, none, none, none, none, none, none, [], "", none, none⟩

/-- The first curve with an id: `profile.curves.iter().find(|c| c.id == id)`. -/
def DaemonProfile.findCurve {F : Type} (p : DaemonProfile F) (id : String) : Option (CurveConfig F) :=
  p.curves.find? fun c => c.id == id

end ControlOfc.Profile
