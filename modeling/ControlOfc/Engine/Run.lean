import ControlOfc.Engine.Loop
/-! # Runs of the engine state

The calls the engine loop makes on its state between two evaluations (mod.rs:1480-1860), as one event
type. The environment chooses them: a run is any list of them.
-/
namespace ControlOfc.Engine
open Profile Override

inductive EngineEvent where
  | install (quarantined : List String) (roles : KMap String HeaderRole) (facts : KMap String HeaderFacts)
  | resetControl (controlId : String)
  | evaluate (sensors : Sensors) (overrides : OverrideSnapshot)
  | resetForForcedTick
  | deactivate

/-- One call, under the profile `p`. -/
def engineStep (p : DaemonProfile ℚ) (s : ProfileEngineState) : EngineEvent → ProfileEngineState
  | .install quarantined roles facts => s.install quarantined roles facts
  | .resetControl controlId => s.resetControl controlId
  | .evaluate sensors overrides => (evaluateProfileWithOverrides p sensors s overrides).state
  | .resetForForcedTick => s.resetForForcedTick
  | .deactivate => s.deactivate

end ControlOfc.Engine
