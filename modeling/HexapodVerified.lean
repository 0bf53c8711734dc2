import HexapodVerified.App.Proofs.ArmingProofs
import HexapodVerified.App.Proofs.CalibratedFeetProofs
import HexapodVerified.App.Proofs.CalibrationProofs
import HexapodVerified.App.Proofs.FeatureIntentProofs
import HexapodVerified.App.Proofs.GaitSaveProofs
import HexapodVerified.App.Proofs.GoalHandoffProofs
import HexapodVerified.App.Proofs.HandoffProofs
import HexapodVerified.App.Proofs.LockExpiryProofs
import HexapodVerified.App.Proofs.LockProofs
import HexapodVerified.App.Proofs.TargetWindowProofs
import HexapodVerified.App.Proofs.ThresholdProofs
import HexapodVerified.App.Proofs.TrickPulseProofs
import HexapodVerified.Companion.Proofs.ActivateProofs
import HexapodVerified.Companion.Proofs.CorrelationProofs
import HexapodVerified.Companion.Proofs.InlineReadProofs
import HexapodVerified.Companion.Proofs.PoseProofs
import HexapodVerified.Config.Proofs.BlockProofs
import HexapodVerified.Config.Proofs.OpenLogCursorProofs
import HexapodVerified.Config.Proofs.SlidingScanProofs
import HexapodVerified.Controller.Proofs.BaselineProofs
import HexapodVerified.Controller.Proofs.KillProofs
import HexapodVerified.Gait.Proofs.RampConvergenceProofs
import HexapodVerified.Gait.Proofs.TrickScheduleProofs
import HexapodVerified.Gait.Proofs.WorkspaceProofs
import HexapodVerified.Hil.Proofs.AcceptanceProofs
import HexapodVerified.Hil.Proofs.CompletionProofs
import HexapodVerified.Hil.Proofs.ObserverProofs
import HexapodVerified.Host.Proofs.HilRecoveryProofs
import HexapodVerified.Host.Proofs.JointAngleProofs
import HexapodVerified.Input.Proofs.ArmRequestProofs
import HexapodVerified.Input.Proofs.CalibratedReadProofs
import HexapodVerified.Input.Proofs.EncoderProofs
import HexapodVerified.Input.Proofs.KeyOwnerProofs
import HexapodVerified.Input.Proofs.ResyncProofs
import HexapodVerified.Input.Proofs.SwitchDebounceProofs
import HexapodVerified.Jetson.Proofs.MotionCommandProofs
import HexapodVerified.Jetson.Proofs.TcpRelayProofs
import HexapodVerified.Protocol.Proofs.ControllerApiProofs
import HexapodVerified.Protocol.Proofs.DispatchProofs
import HexapodVerified.Protocol.Proofs.JobHandoffProofs
import HexapodVerified.Protocol.Proofs.StreamSlotProofs
import HexapodVerified.Protocol.Proofs.TargetAtomicityProofs
import HexapodVerified.Safety.FaultCapture
import HexapodVerified.Safety.Proofs.DrainProofs
import HexapodVerified.Safety.Proofs.EventLogProofs
import HexapodVerified.Safety.Proofs.IdleProofs
import HexapodVerified.Safety.Proofs.RecyclingProofs
import HexapodVerified.Safety.Proofs.SoftFaultProofs
import HexapodVerified.Safety.Proofs.WatchdogProofs
import HexapodVerified.Sensors.Proofs.ContactDebounceProofs
import HexapodVerified.Sensors.Proofs.PressureRangeProofs
import HexapodVerified.Simulation.Proofs.ExtractFramesProofs
import HexapodVerified.Simulation.Proofs.SilAdapterProofs
import HexapodVerified.Simulation.Proofs.TwinProofs
