import ControlOfc.Hwmon.Lease
import ControlOfc.Override.Table
import ControlOfc.Override.Fencing
import ControlOfc.OpenFan.Controller
import ControlOfc.OpenFan.CommandedCache
import ControlOfc.Lib.GreedyRuns
import ControlOfc.Lib.History
import ControlOfc.Lib.Ieee
import ControlOfc.OpenFan.Coalesce
import ControlOfc.Thermal.SafetyTick
import ControlOfc.Thermal.Ladder
import ControlOfc.Hwmon.MemoryId
import ControlOfc.Hwmon.MemoryTwin
import ControlOfc.Profile.Curve
import ControlOfc.Profile.CurveShape
import ControlOfc.Profile.Roles
import ControlOfc.Lib.Digraph
import ControlOfc.Profile.Cycle
import ControlOfc.Profile.MixCycle
import ControlOfc.Profile.NumericNet
import ControlOfc.Profile.Validate
import ControlOfc.Engine.CurveEval
import ControlOfc.Engine.Order
import ControlOfc.Engine.Evaluate
import ControlOfc.Engine.MixCost
import ControlOfc.Engine.Loop
import ControlOfc.Engine.Deadband
import ControlOfc.Engine.Views
import ControlOfc.Engine.AsWritten
import ControlOfc.Engine.HardFloor
import ControlOfc.Engine.Agree
import ControlOfc.Engine.Delivery
import ControlOfc.Engine.Force
import ControlOfc.Engine.BoundedWrite
import ControlOfc.Engine.OneControl
import ControlOfc.Engine.Isolation
import ControlOfc.Engine.BlindHold
import ControlOfc.Engine.BlindMix
import ControlOfc.Hwmon.HandBack
import ControlOfc.Hwmon.PwmControl
import ControlOfc.Hwmon.DriftEpisodes
import ControlOfc.Hwmon.ExitLatch
import ControlOfc.Hwmon.BusClock
import ControlOfc.Hwmon.DriftRig
import ControlOfc.Hwmon.SharedReport
import ControlOfc.Hwmon.ReportRuns
import ControlOfc.Engine.ForcedScan
import ControlOfc.Engine.ForcedHeaders
import ControlOfc.Hwmon.LateWrites
import ControlOfc.Hwmon.ExitFloor
import ControlOfc.OpenFan.ExitLatch
import ControlOfc.ExitFloor
import ControlOfc.Polling.Loop
import ControlOfc.Polling.Freshness
import ControlOfc.Polling.SensorLeg
import ControlOfc.Polling.Eviction
import ControlOfc.Polling.CpuCover
import ControlOfc.Serial.Protocol
import ControlOfc.Serial.Transport
import ControlOfc.Serial.Rendering
import ControlOfc.Serial.Resync
import ControlOfc.Serial.ReconnectSurvey
import ControlOfc.Serial.SurveyRuns
import ControlOfc.Serial.Link
import ControlOfc.Serial.Acked
import ControlOfc.Health.Staleness
import ControlOfc.Health.StateCache
import ControlOfc.Health.WritePause
import ControlOfc.OpenFan.PutBack
import ControlOfc.OpenFan.LostDuties
import ControlOfc.OpenFan.PlainTick
import ControlOfc.OpenFan.Emergency
import ControlOfc.OpenFan.GiveBack
import ControlOfc.OpenFan.HeldChannels
import ControlOfc.Firmware.Uf2Parse
import ControlOfc.Firmware.Uf2Layout
import ControlOfc.Firmware.Picoboot
import ControlOfc.Firmware.Write
import ControlOfc.Firmware.Safety
import ControlOfc.Firmware.WriteRun
import ControlOfc.Firmware.Restart
import ControlOfc.Firmware.Maintenance
import ControlOfc.Firmware.MaintenanceInv
import ControlOfc.Firmware.MaintenanceRun
import ControlOfc.Hwmon.HeaderFiles
import ControlOfc.Hwmon.Record
import ControlOfc.Hwmon.SensorDiscovery
import ControlOfc.Health.SensorFailure
import ControlOfc.Health.QuarantineHistory
import ControlOfc.Hwmon.RestoreAuto
import ControlOfc.Hwmon.Replay
import ControlOfc.Hwmon.RecordedRig
import ControlOfc.Hwmon.CrashPoints
import ControlOfc.Lib.OneShot
import ControlOfc.Serial.PortLoan
import ControlOfc.Serial.LoanSafety
import ControlOfc.Config.HeaderRoles
import ControlOfc.Override.Handlers
import ControlOfc.Override.HandlerSteps
import ControlOfc.Override.Belonging
import ControlOfc.Override.PumpStop
import ControlOfc.Config.CoolingDevice
import ControlOfc.Config.Runtime
import ControlOfc.Config.EditRun
import ControlOfc.Config.KeptEdits
import ControlOfc.Gpu.FanCurve
import ControlOfc.Gpu.PmfwHandBack
import ControlOfc.Gpu.Producers
import ControlOfc.Gpu.Covered
import ControlOfc.Gpu.CrashReplay
import ControlOfc.Gpu.Suppression
import ControlOfc.Gpu.LegacyRecord
import ControlOfc.Gpu.LegacyVerify
import ControlOfc.Gpu.CurveText
import ControlOfc.Gpu.CardText
import ControlOfc.Gpu.FlatCurve
import ControlOfc.SdNotify.Notifier
import ControlOfc.SdNotify.Watchdog
import ControlOfc.ProfileStore.SavedActive
import ControlOfc.Diagnostics.Gates
import ControlOfc.Diagnostics.Restore
import ControlOfc.Diagnostics.RpmStats
import ControlOfc.Diagnostics.Settling
import ControlOfc.Diagnostics.Stats
import ControlOfc.Diagnostics.Sweep
import ControlOfc.Diagnostics.SweepPlan
import ControlOfc.Diagnostics.Plateaus
import ControlOfc.Diagnostics.Published
import ControlOfc.Diagnostics.RunFence
import ControlOfc.Diagnostics.Discovery
import ControlOfc.Diagnostics.InPlan
import ControlOfc.Diagnostics.Walks
import ControlOfc.Diagnostics.RestoreTruth
import ControlOfc.OpenFan.Rescan
import ControlOfc.OpenFan.RescanSafety
import ControlOfc.Validation.Recorder
import ControlOfc.Validation.Restoration
import ControlOfc.Validation.SweepReport
import ControlOfc.Validation.ReportTruth
import ControlOfc.Validation.SessionLife
import ControlOfc.Validation.SessionRuns
import ControlOfc.ProfileStore.SearchDirs
import ControlOfc.ProfileStore.RootDirs
import ControlOfc.Lib.Json
import ControlOfc.Profile.Canonicalize
import ControlOfc.Engine.StepRate
import ControlOfc.Engine.PumpStall
import ControlOfc.Engine.PumpStallRuns
import ControlOfc.Lib.SortedMap
import ControlOfc.Hwmon.ChipRecords
import ControlOfc.Lib.Thinning
import ControlOfc.Lib.UnixPath
import ControlOfc.ProfileStore.EditDirs
import ControlOfc.Lib.WindowRuns
import ControlOfc.Diagnostics.SteadyState
import ControlOfc.Hwmon.SuperIoProbe
import ControlOfc.Diagnostics.CharSummary
import ControlOfc.Lib.KeyedList
import ControlOfc.Diagnostics.Baselines
import ControlOfc.Diagnostics.TwoWay
import ControlOfc.Diagnostics.HeaderVerify
import ControlOfc.Diagnostics.VerifyRestore
import ControlOfc.Diagnostics.DiscoverySummary
import ControlOfc.Diagnostics.ControlPath
import ControlOfc.Diagnostics.ControlPathRun
import ControlOfc.Diagnostics.Preflight
import ControlOfc.Diagnostics.Entry
import ControlOfc.Lib.Guarded
import ControlOfc.Diagnostics.PreflightTruth
import ControlOfc.Diagnostics.CalibrationRun
import ControlOfc.Diagnostics.CalibrationEnd
