import HexapodVerified.Gait.GaitPipeline
import HexapodVerified.Gait.TrickEngine
import HexapodVerified.Safety.CommandArbiter

/-!
# Snapshots

The value snapshots of `controller/controller_contract.h` that one controller step reads and the
command it produces, with the parts of the snapshots it is made of. Fields that no step reads are
left out.
-/

namespace HexapodVerified.Controller

open HexapodVerified.Config HexapodVerified.Gait HexapodVerified.Safety FloatArith

variable {F : Type} [FloatArith F]

structure ControllerTime where
  now_ms : UInt32 := 0
  dt_ms : UInt32 := 0
  valid : Bool := false
  deriving DecidableEq, Repr

structure BatterySnapshot where
  millivolts : UInt16 := 0
  valid : Bool := false
  deriving DecidableEq, Repr

structure ServoStatus where
  id : UInt8 := 0
  present_position : Int32 := 0
  ok : Bool := false
  deriving DecidableEq, Repr

/-- `DxlSnapshot`; the list is the filled part of the `servos` array. -/
structure DxlSnapshot where
  servos : List ServoStatus := []
  configured_servo_coverage : Bool := false
  pose_known_mask : UInt32 := 0
  config_revision : UInt32 := 0
  arming_ready : Bool := false
  torque_off : Bool := true
  hard_fault : Bool := false
  deriving DecidableEq, Repr

structure LegContactState where
  confidence : UInt8 := 0
  stale : Bool := false
  fault : Bool := false
  deriving DecidableEq, Repr

structure ContactSnapshot where
  feet : Vector LegContactState kNumFootSensors := .replicate _ {}
  deriving DecidableEq, Repr

/-- `RobotState`: the physical and health snapshot. -/
structure RobotState where
  battery : BatterySnapshot := {}
  dxl : DxlSnapshot := {}
  contact : ContactSnapshot := {}
  config_ready : Bool := false
  watchdog_fault : Bool := false
  deriving DecidableEq, Repr

/-- `GaitTuneParam`, as its wire value. -/
abbrev GaitTuneParam := UInt8

/-- `ControllerCommand`: the decoded RC command. -/
structure ControllerCommand (F : Type) where
  valid : Bool
  ever_seen : Bool
  gait_index : UInt8
  twist_vx : F
  twist_vy : F
  twist_wz : F
  pose_x_mm : F
  pose_y_mm : F
  pose_z_mm : F
  pose_roll : F
  pose_pitch : F
  pose_yaw : F
  trim_roll : F
  trim_pitch : F
  speed : F
  body_height : F
  stride : F
  step_height : F
  duty : F
  gait_tune_active : Bool
  gait_tune_param : GaitTuneParam
  gait_tune_save_seq : UInt32
  trick : TrickId

/-- `ControllerCommand{}`. -/
def ControllerCommand.default : ControllerCommand F where
  valid := false
  ever_seen := false
  gait_index := 0
  twist_vx := lit 0
  twist_vy := lit 0
  twist_wz := lit 0
  pose_x_mm := lit 0
  pose_y_mm := lit 0
  pose_z_mm := lit 0
  pose_roll := lit 0
  pose_pitch := lit 0
  pose_yaw := lit 0
  trim_roll := lit 0
  trim_pitch := lit 0
  speed := lit 0
  body_height := lit 0
  stride := lit 0
  step_height := lit 0
  duty := lit 0
  gait_tune_active := false
  gait_tune_param := 0
  gait_tune_save_seq := 0
  trick := .none

structure RcIntent (F : Type) where
  command : ControllerCommand F
  ever_seen : Bool := false
  kill : Bool := true
  armed : Bool := false
  failsafe : Bool := true
  autonomy_enabled : Bool := false

structure MotionIntent (F : Type) where
  seq : UInt32
  gait : UInt8
  body_height_mm : UInt16
  stride_len_mm : UInt16
  step_height_mm : UInt16
  duty_x255 : UInt8
  speed_x255 : UInt8
  twist_vx : F
  twist_vy : F
  twist_wz : F
  pose_x_mm : F
  pose_y_mm : F
  pose_z_mm : F
  pose_roll : F
  pose_pitch : F
  pose_yaw : F

/-- `MotionIntent{}`. -/
def MotionIntent.default : MotionIntent F where
  seq := 0
  gait := 0
  body_height_mm := 0
  stride_len_mm := 0
  step_height_mm := 0
  duty_x255 := 128
  speed_x255 := 128
  twist_vx := lit 0
  twist_vy := lit 0
  twist_wz := lit 0
  pose_x_mm := lit 0
  pose_y_mm := lit 0
  pose_z_mm := lit 0
  pose_roll := lit 0
  pose_pitch := lit 0
  pose_yaw := lit 0

inductive MaintControlMode where
  | jointTargets | gaitPipeline
  deriving DecidableEq, Repr

/-- What `protocol::MaintTargetSet` stores of one joint. -/
structure MaintTarget where
  tick : UInt16 := 0
  set : Bool := false
  clamped : Bool := false
  deriving DecidableEq, Repr

structure MaintenanceIntent where
  lock_held : Bool := false
  recovery_lock : Bool := false
  lock_token : UInt32 := 0
  control_mode : MaintControlMode := .jointTargets
  targets : Vector (Vector MaintTarget kJointsPerLeg) kNumLegs := .replicate _ (.replicate _ {})
  deriving DecidableEq, Repr

structure FeatureSnapshot where
  foot_contact_enabled : Bool := false
  jetson_control_enabled : Bool := false
  deriving DecidableEq, Repr

structure ControllerIntent (F : Type) where
  rc : RcIntent F
  motion : MotionIntent F
  maintenance : MaintenanceIntent := {}
  features : FeatureSnapshot := {}
  host_estop : Bool := false
  host_disarm : Bool := false
  clear_fault_requested : Bool := false
  passive_requested : Bool := false
  jetson_heartbeat_received : Bool := false

structure ControllerConfigSnapshot where
  robot : RobotConfig := {}
  revision : UInt32 := 0
  valid : Bool := false
  persistent : Bool := false
  deriving DecidableEq, Repr

structure ControllerStepInput (F : Type) where
  state : RobotState := {}
  intent : ControllerIntent F
  config : ControllerConfigSnapshot := {}
  time : ControllerTime := {}

structure ControllerDiagnostics where
  config_revision : UInt32 := 0
  intent_sequence : UInt32 := 0
  confident_contact_feet : UInt8 := 0
  applied_body_height_mm : UInt16 := 0
  applied_stride_mm : UInt16 := 0
  applied_step_height_mm : UInt16 := 0
  applied_duty_x255 : UInt8 := 0
  applied_speed_x255 : UInt8 := 0
  gait_tune_param : GaitTuneParam := 0
  gait_tune_active : Bool := false
  gait_tune_preview : Bool := false
  gait_save_requested : Bool := false
  gait_save_seq : UInt32 := 0
  motion_gate_rising : Bool := false
  motion_gate_falling : Bool := false
  config_reapplied : Bool := false
  maintenance_session_started : Bool := false
  clear_maintenance_targets : Bool := false
  clear_maintenance_lock : Bool := false
  clear_passive_request : Bool := false
  any_goal_clamped : Bool := false
  any_goal_unreachable : Bool := false
  any_goal_reach_limited : Bool := false
  deriving DecidableEq, Repr

/-- `RobotCommand`: the controller's decision for one step. -/
structure RobotCommand where
  safety_state : State := .boot
  fault_reason : FaultReason := .none
  command_source : CommandSource := .none
  motion_authorized : Bool := false
  motion_gate : Bool := false
  allow_dxl_power : Bool := false
  allow_torque : Bool := false
  goal_valid : Bool := false
  goals : PipelineOutput := {}
  diagnostics : ControllerDiagnostics := {}
  deriving DecidableEq, Repr

/-!
## The configuration snapshots of the controller

`controller/controller_config.cpp`: the snapshot the adapter hands to the controller, and
`ConfigSnapshotCache`. The source keeps the cached snapshot known good by construction; here the cache
carries that as a field.
-/

/-- `makeControllerConfigSnapshot`; nothing for a configuration that is not valid. -/
def makeControllerConfigSnapshot (robot : RobotConfig) (revision : UInt32) (persistent : Bool) :
    Option ControllerConfigSnapshot :=
  if !validateRobotConfig robot then none else some { robot, revision, valid := true, persistent }

inductive ConfigSnapshotUpdate where
  | rejected | unchanged | updated
  deriving DecidableEq, Repr

structure ConfigSnapshotCache where
  snapshot : ControllerConfigSnapshot
  /-- Only validated configurations are adopted. -/
  known_good : snapshot.valid = true ∧ validateRobotConfig snapshot.robot = true

namespace ConfigSnapshotCache

/-- The constructor: the compiled fallback. -/
def new : ConfigSnapshotCache where
  snapshot := { robot := defaultRobotConfig, revision := 0, valid := true, persistent := false }
  known_good := ⟨rfl, validate_defaultRobotConfig⟩

def apply (cache : ConfigSnapshotCache) (robot : RobotConfig) (revision : UInt32)
    (persistent : Bool) : ConfigSnapshotCache × ConfigSnapshotUpdate :=
  if h : validateRobotConfig robot = true then
    if cache.snapshot.valid && revision == cache.snapshot.revision then (cache, .unchanged)
    else
      ({ snapshot := { robot, revision, valid := true, persistent }, known_good := ⟨rfl, h⟩ },
        .updated)
  else (cache, .rejected)

end ConfigSnapshotCache

end HexapodVerified.Controller
