import HexapodVerified.Config.ConfigCodec
import HexapodVerified.Dxl.DxlBus
import HexapodVerified.Input.ControllerBridge
import HexapodVerified.Protocol.Framing
import HexapodVerified.Protocol.MaintenanceTargetApi
import HexapodVerified.Sensors.ContactEstimator

/-!
# What the trace recorder writes of a step

The records of `hil/trace_recorder.cpp` about the inputs of a controller step: the `Config` record, and the
`Step` record up to the command. The snapshots of `controller/controller_contract.h` are here with all
their fields, also those that the controller does not read; `toStepInput` is what it reads of them. A
`float` is its 32 bits, as the recorder copies it, and `ofBits` is the value they stand for.
-/

namespace HexapodVerified.Hil

open HexapodVerified.Config Codec

/-! ## The snapshots -/

inductive SnapshotValidity where
  | unknown | fresh | stale | fault
  deriving DecidableEq, Repr

def SnapshotValidity.all : List SnapshotValidity := [.unknown, .fresh, .stale, .fault]

structure ControllerTime extends Controller.ControllerTime where
  overrun : Bool := false

structure BatterySnapshot extends Controller.BatterySnapshot where
  validity : SnapshotValidity := .unknown

structure DxlSnapshot where
  servos : Vector Dxl.ServoStatus kNumServos := .replicate _ {}
  /-- How many entries of the array are filled. -/
  servo_count : Fin (kNumServos + 1) := 0
  validity : SnapshotValidity := .unknown
  configured_servo_coverage : Bool := false
  pose_known_mask : UInt32 := 0
  config_revision : UInt32 := 0
  arming_ready : Bool := false
  torque_off : Bool := true
  hard_fault : Bool := false

structure ContactSnapshot where
  feet : Vector Sensors.LegContactState Sensors.kNumFeet := .replicate _ {}
  present_mask : UInt8 := 0
  validity : SnapshotValidity := .unknown

structure RobotState where
  battery : BatterySnapshot := {}
  dxl : DxlSnapshot := {}
  contact : ContactSnapshot := {}
  config_ready : Bool := false
  watchdog_fault : Bool := false

/-- `RcIntent`; the floats of the command are their bits. -/
structure RcIntent where
  command : Input.ControllerCommand UInt32
  ever_seen : Bool := false
  kill : Bool := true
  armed : Bool := false
  failsafe : Bool := true
  autonomy_enabled : Bool := false

structure FeatureSnapshot where
  foot_contact_enabled : Bool := false
  terrain_leveling_enabled : Bool := false
  sensor_polling_enabled : Bool := false
  jetson_control_enabled : Bool := false
  passive_pose_enabled : Bool := false

structure MaintenanceIntent where
  lock_held : Bool := false
  recovery_lock : Bool := false
  lock_token : UInt32 := 0
  control_mode : Controller.MaintControlMode := .jointTargets
  targets : Protocol.MaintTargetSet := {}

structure ControllerIntent where
  rc : RcIntent
  motion : Controller.MotionIntent UInt32
  maintenance : MaintenanceIntent := {}
  features : FeatureSnapshot := {}
  host_estop : Bool := false
  host_disarm : Bool := false
  clear_fault_requested : Bool := false
  passive_requested : Bool := false
  jetson_heartbeat_received : Bool := false

/-- `ControllerStepInput`. -/
structure ControllerStepInput where
  state : RobotState := {}
  intent : ControllerIntent
  config : Controller.ControllerConfigSnapshot := {}
  time : ControllerTime := {}

/-! ## What the controller reads -/

section Read

variable {F : Type} (ofBits : UInt32 → F)

def commandValue (command : Input.ControllerCommand UInt32) : Controller.ControllerCommand F where
  valid := command.valid
  ever_seen := command.ever_seen
  gait_index := command.gait_index
  twist_vx := ofBits command.twist_vx
  twist_vy := ofBits command.twist_vy
  twist_wz := ofBits command.twist_wz
  pose_x_mm := ofBits command.pose_x_mm
  pose_y_mm := ofBits command.pose_y_mm
  pose_z_mm := ofBits command.pose_z_mm
  pose_roll := ofBits command.pose_roll
  pose_pitch := ofBits command.pose_pitch
  pose_yaw := ofBits command.pose_yaw
  trim_roll := ofBits command.trim_roll
  trim_pitch := ofBits command.trim_pitch
  speed := ofBits command.speed
  body_height := ofBits command.body_height
  stride := ofBits command.stride
  step_height := ofBits command.step_height
  duty := ofBits command.duty
  gait_tune_active := command.gait_tune_active
  gait_tune_param := command.gait_tune_param
  gait_tune_save_seq := command.gait_tune_save_seq
  trick := command.trick

def motionValue (motion : Controller.MotionIntent UInt32) : Controller.MotionIntent F where
  seq := motion.seq
  gait := motion.gait
  body_height_mm := motion.body_height_mm
  stride_len_mm := motion.stride_len_mm
  step_height_mm := motion.step_height_mm
  duty_x255 := motion.duty_x255
  speed_x255 := motion.speed_x255
  twist_vx := ofBits motion.twist_vx
  twist_vy := ofBits motion.twist_vy
  twist_wz := ofBits motion.twist_wz
  pose_x_mm := ofBits motion.pose_x_mm
  pose_y_mm := ofBits motion.pose_y_mm
  pose_z_mm := ofBits motion.pose_z_mm
  pose_roll := ofBits motion.pose_roll
  pose_pitch := ofBits motion.pose_pitch
  pose_yaw := ofBits motion.pose_yaw

/-- The filled part of the array, as far as the controller reads the entries. -/
def DxlSnapshot.toController (dxl : DxlSnapshot) : Controller.DxlSnapshot where
  servos := (dxl.servos.toList.take dxl.servo_count).map fun servo =>
    { id := servo.id, present_position := servo.present_position, ok := servo.ok }
  configured_servo_coverage := dxl.configured_servo_coverage
  pose_known_mask := dxl.pose_known_mask
  config_revision := dxl.config_revision
  arming_ready := dxl.arming_ready
  torque_off := dxl.torque_off
  hard_fault := dxl.hard_fault

def RobotState.toController (state : RobotState) : Controller.RobotState where
  battery := state.battery.toBatterySnapshot
  dxl := state.dxl.toController
  contact := { feet := state.contact.feet.map fun foot =>
    { confidence := foot.confidence, stale := foot.stale, fault := foot.fault } }
  config_ready := state.config_ready
  watchdog_fault := state.watchdog_fault

def ControllerIntent.toController (intent : ControllerIntent) : Controller.ControllerIntent F where
  rc :=
    { command := commandValue ofBits intent.rc.command
      ever_seen := intent.rc.ever_seen
      kill := intent.rc.kill
      armed := intent.rc.armed
      failsafe := intent.rc.failsafe
      autonomy_enabled := intent.rc.autonomy_enabled }
  motion := motionValue ofBits intent.motion
  maintenance :=
    { lock_held := intent.maintenance.lock_held
      recovery_lock := intent.maintenance.recovery_lock
      lock_token := intent.maintenance.lock_token
      control_mode := intent.maintenance.control_mode
      targets := intent.maintenance.targets.joints }
  features :=
    { foot_contact_enabled := intent.features.foot_contact_enabled
      jetson_control_enabled := intent.features.jetson_control_enabled }
  host_estop := intent.host_estop
  host_disarm := intent.host_disarm
  clear_fault_requested := intent.clear_fault_requested
  passive_requested := intent.passive_requested
  jetson_heartbeat_received := intent.jetson_heartbeat_received

def ControllerStepInput.toStepInput (inp : ControllerStepInput) : Controller.ControllerStepInput F where
  state := inp.state.toController
  intent := inp.intent.toController ofBits
  config := inp.config
  time := inp.time.toControllerTime

end Read

/-! ## The records -/

abbrev kMaxLogicalRecordBytes : Nat := 960

def allControlModes : List Input.ControlMode := [.yaw, .translateBody, .rotateBody]

def allMaintControlModes : List Controller.MaintControlMode := [.jointTargets, .gaitPipeline]

def writeControllerCommand (command : Input.ControllerCommand UInt32) : List UInt8 :=
  putBool command.valid ++ (putBool command.failsafe ++ (putBool command.ever_seen ++
  (Bytes.putU32 command.frame_ms ++ (putBool command.arm_request ++ (putBool command.estop ++
  (putBool command.host_authority ++ (putEnum allControlModes command.mode ++
  (putU8 command.gait_index ++
  (Bytes.putU32 command.twist_vx ++ (Bytes.putU32 command.twist_vy ++
  (Bytes.putU32 command.twist_wz ++
  (Bytes.putU32 command.pose_x_mm ++ (Bytes.putU32 command.pose_y_mm ++
  (Bytes.putU32 command.pose_z_mm ++
  (Bytes.putU32 command.pose_roll ++ (Bytes.putU32 command.pose_pitch ++
  (Bytes.putU32 command.pose_yaw ++
  (Bytes.putU32 command.trim_roll ++ (Bytes.putU32 command.trim_pitch ++
  (Bytes.putU32 command.speed ++ (Bytes.putU32 command.body_height ++
  (Bytes.putU32 command.stride ++ (Bytes.putU32 command.step_height ++
  (putBool command.feat_foot_contact ++ (putBool command.feat_terrain_leveling ++
  (putBool command.feat_passive_pose ++
  putEnum Input.allTricks command.trick))))))))))))))))))))))))))

def writeServo (servo : Dxl.ServoStatus) : List UInt8 :=
  putU8 servo.id ++ (putI32 servo.present_position ++ (putI32 servo.present_velocity ++
  (putI32 servo.present_load ++ (Bytes.putU16 servo.present_voltage_mv ++
  (putI8 servo.present_temperature_c ++ (putU8 servo.hardware_error ++
  (putBool servo.torque_enabled ++ putBool servo.ok)))))))

def writeFoot (foot : Sensors.LegContactState) : List UInt8 :=
  Bytes.putU32 foot.timestamp_ms ++ (Bytes.putU16 foot.proximity_raw ++
  (putI32 foot.pressure_raw ++ (putI32 foot.pressure_baseline ++ (putI32 foot.pressure_delta ++
  (putEnum Sensors.ContactState.all foot.state ++ (putU8 foot.confidence ++
  (putBool foot.near_surface ++ (putBool foot.touch ++ (putBool foot.loaded ++
  (putBool foot.release ++ (putBool foot.stale ++ putBool foot.fault)))))))))))

def writeRobotState (state : RobotState) : List UInt8 :=
  Bytes.putU16 state.battery.millivolts ++ (putBool state.battery.valid ++
  (putEnum SnapshotValidity.all state.battery.validity ++
  (putU8 (UInt8.ofNat state.dxl.servo_count) ++
  (putEnum SnapshotValidity.all state.dxl.validity ++
  (putBool state.dxl.configured_servo_coverage ++ (Bytes.putU32 state.dxl.pose_known_mask ++
  (Bytes.putU32 state.dxl.config_revision ++ (putBool state.dxl.torque_off ++
  (putBool state.dxl.hard_fault ++ (putVector writeServo state.dxl.servos ++
  (putU8 state.contact.present_mask ++ (putEnum SnapshotValidity.all state.contact.validity ++
  (putVector writeFoot state.contact.feet ++
  (putBool state.config_ready ++ putBool state.watchdog_fault))))))))))))))

def writeMotionIntent (intent : Controller.MotionIntent UInt32) : List UInt8 :=
  Bytes.putU32 intent.seq ++ (putU8 intent.gait ++ (Bytes.putU16 intent.body_height_mm ++
  (Bytes.putU16 intent.stride_len_mm ++ (Bytes.putU16 intent.step_height_mm ++
  (putU8 intent.duty_x255 ++ (putU8 intent.speed_x255 ++
  (Bytes.putU32 intent.twist_vx ++ (Bytes.putU32 intent.twist_vy ++
  (Bytes.putU32 intent.twist_wz ++
  (Bytes.putU32 intent.pose_x_mm ++ (Bytes.putU32 intent.pose_y_mm ++
  (Bytes.putU32 intent.pose_z_mm ++
  (Bytes.putU32 intent.pose_roll ++ (Bytes.putU32 intent.pose_pitch ++
  Bytes.putU32 intent.pose_yaw))))))))))))))

/-- One of the tables `tick`, `set` and `clamped` of the maintenance targets. -/
def writeJoints {α : Type} (put : α → List UInt8) (field : Controller.MaintTarget → α)
    (joints : Protocol.JointTable) : List UInt8 :=
  putVector (putVector fun target => put (field target)) joints

def writeFootTarget (foot : Protocol.FootTarget) : List UInt8 :=
  putI16 foot.foot_x_mm ++ (putI16 foot.foot_y_mm ++ (putI16 foot.foot_z_mm ++
  (putBool foot.leg_target_set ++ (putBool foot.leg_reachable ++ putBool foot.leg_clamped))))

def writeMaintenanceIntent (intent : MaintenanceIntent) : List UInt8 :=
  putBool intent.lock_held ++ (Bytes.putU32 intent.lock_token ++
  (putEnum allMaintControlModes intent.control_mode ++ (Bytes.putU32 intent.targets.seq ++
  (writeJoints Bytes.putU16 (·.tick) intent.targets.joints ++
  (writeJoints putBool (·.set) intent.targets.joints ++
  (writeJoints putBool (·.clamped) intent.targets.joints ++
  putVector writeFootTarget intent.targets.feet))))))

def writeControllerIntent (intent : ControllerIntent) : List UInt8 :=
  writeControllerCommand intent.rc.command ++ (putBool intent.rc.ever_seen ++
  (putBool intent.rc.kill ++ (putBool intent.rc.armed ++ (putBool intent.rc.failsafe ++
  (putBool intent.rc.autonomy_enabled ++ (writeMotionIntent intent.motion ++
  (writeMaintenanceIntent intent.maintenance ++
  (putBool intent.features.foot_contact_enabled ++
  (putBool intent.features.terrain_leveling_enabled ++
  (putBool intent.features.sensor_polling_enabled ++
  (putBool intent.features.jetson_control_enabled ++
  (putBool intent.features.passive_pose_enabled ++
  (putBool intent.host_estop ++ (putBool intent.host_disarm ++
  (putBool intent.clear_fault_requested ++ (putBool intent.passive_requested ++
  putBool intent.jetson_heartbeat_received))))))))))))))))

/-- The bytes of `publishConfig`. The payload is serialized behind a header of ten bytes; a snapshot
that is not valid has none. -/
def configRecord (config : Controller.ControllerConfigSnapshot) : List UInt8 :=
  let payload :=
    if config.valid then serializeRobotConfig config.robot (kMaxLogicalRecordBytes - 10) else []
  let payload_crc := if config.valid then Protocol.crc16 payload else 0
  Bytes.putU32 config.revision ++ (putBool config.valid ++ (putBool config.persistent ++
  (Bytes.putU16 (UInt16.ofNat payload.length) ++ (Bytes.putU16 payload_crc ++ payload))))

/-- The bytes of `publishStep` before the command. -/
def stepInputRecord (step_sequence : UInt32) (inp : ControllerStepInput) : List UInt8 :=
  Bytes.putU32 step_sequence ++ (Bytes.putU32 inp.time.now_ms ++ (Bytes.putU32 inp.time.dt_ms ++
  (putBool inp.time.valid ++ (writeRobotState inp.state ++ (writeControllerIntent inp.intent ++
  (Bytes.putU32 inp.config.revision ++ (putBool inp.config.valid ++
  putBool inp.config.persistent)))))))

end HexapodVerified.Hil
