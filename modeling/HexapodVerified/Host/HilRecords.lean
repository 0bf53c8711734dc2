import HexapodVerified.Host.Framing
import HexapodVerified.Lib.Readers

/-!
# Logical trace records on the host

The first half of `hexapod_protocol/hil.py`: the values that a trace consists of, and `parse_record`,
which reads one of them from the bytes of a logical record. The text of an error is the one of the
`TraceDecodeError`. A `float` is the number that its 32 bits are. Of the robot configuration in a
`ConfigSnapshot` only what `decode_robot_config` refuses is here.
-/

namespace HexapodVerified.Host

open Readers

abbrev NUM_LEGS : Nat := 6
abbrev NUM_SERVOS : Nat := 18
abbrev NUM_FOOT_SENSORS : Nat := 6
abbrev TRACE_SCHEMA_VERSION : Nat := 1
abbrev MAX_LOGICAL_RECORD_BYTES : Nat := 960

inductive RecordType where
  | begin | config | step | marker | outputBlocked | «end»
  deriving DecidableEq, Repr

def RecordType.all : List RecordType := [.begin, .config, .step, .marker, .outputBlocked, .end]

inductive TraceOrigin where
  | atsamd21OutputDisabled
  deriving DecidableEq, Repr

def TraceOrigin.ofNumber (n : Nat) : Option TraceOrigin :=
  if n = 1 then some .atsamd21OutputDisabled else none

inductive CaptureEndReason where
  | complete | hostHeartbeatExpired | transportOverflow | transportTimeout | hostAborted
  | sessionClosed
  deriving DecidableEq, Repr

def CaptureEndReason.all : List CaptureEndReason :=
  [.complete, .hostHeartbeatExpired, .transportOverflow, .transportTimeout, .hostAborted,
    .sessionClosed]

structure FragmentHeader where
  schema_version : Nat
  session_id : Nat
  capture_id : Nat
  record_seq : Nat
  record_type : RecordType
  fragment_index : Nat
  fragment_count : Nat
  logical_length : Nat
  logical_crc16 : Nat
  deriving DecidableEq, Repr

structure TraceRecord where
  header : FragmentHeader
  payload : List UInt8
  deriving DecidableEq, Repr

/-! ## Values -/

structure OutputGuardStatus where
  output_disabled : Bool
  power_guard_active : Bool
  torque_guard_active : Bool
  goal_guard_active : Bool
  write_guard_active : Bool
  blocked_power_enable : Nat
  blocked_torque_enable : Nat
  blocked_goal_write : Nat
  blocked_dxl_write : Nat
  last_goal_sequence : Nat
  last_goal_count : Nat

structure TraceBegin where
  schema_version : Nat
  origin : TraceOrigin
  protocol_major : Nat
  protocol_minor : Nat
  session_id : Nat
  capture_id : Nat
  config_revision : Nat
  config_payload_crc16 : Nat
  requested_steps : Nat
  initial_guard : OutputGuardStatus

structure ConfigSnapshot where
  revision : Nat
  valid : Bool
  persistent : Bool
  payload_crc16 : Nat
  payload : List UInt8

structure TraceMarker where
  marker_id : Nat
  now_ms : Nat
  safety_state : Nat
  step_sequence : Nat

structure OutputBlocked where
  step_sequence : Nat
  guard : OutputGuardStatus

structure TraceEnd where
  reason : CaptureEndReason
  requested_steps : Nat
  recorded_steps : Nat
  queue_high_water : Nat
  emitted_record_count : Nat
  emitted_fragment_count : Nat
  final_guard : OutputGuardStatus

structure ControllerTime where
  now_ms : Nat
  dt_ms : Nat
  valid : Bool

structure BatterySnapshot where
  millivolts : Nat
  valid : Bool
  validity : Nat

structure DxlServoStatus where
  id : Nat
  present_position : Int
  present_velocity : Int
  present_load : Int
  present_voltage_mv : Nat
  present_temperature_c : Int
  hardware_error : Nat
  torque_enabled : Bool
  ok : Bool

structure DxlSnapshot where
  servo_count : Nat
  validity : Nat
  configured_servo_coverage : Bool
  pose_known_mask : Nat
  config_revision : Nat
  torque_off : Bool
  hard_fault : Bool
  servos : List DxlServoStatus

structure FootContactState where
  timestamp_ms : Nat
  proximity_raw : Nat
  pressure_raw : Int
  pressure_baseline : Int
  pressure_delta : Int
  state : Nat
  confidence : Nat
  near_surface : Bool
  touch : Bool
  loaded : Bool
  release : Bool
  stale : Bool
  fault : Bool

structure ContactSnapshot where
  present_mask : Nat
  validity : Nat
  feet : List FootContactState

structure RobotState where
  battery : BatterySnapshot
  dxl : DxlSnapshot
  contact : ContactSnapshot
  config_ready : Bool
  watchdog_fault : Bool

structure ControllerCommand where
  valid : Bool
  failsafe : Bool
  ever_seen : Bool
  frame_ms : Nat
  arm_request : Bool
  estop : Bool
  host_authority : Bool
  mode : Nat
  gait_index : Nat
  twist_vx : Nat
  twist_vy : Nat
  twist_wz : Nat
  pose_x_mm : Nat
  pose_y_mm : Nat
  pose_z_mm : Nat
  pose_roll : Nat
  pose_pitch : Nat
  pose_yaw : Nat
  trim_roll : Nat
  trim_pitch : Nat
  speed : Nat
  body_height : Nat
  stride : Nat
  step_height : Nat
  feat_foot_contact : Bool
  feat_terrain_leveling : Bool
  feat_passive_pose : Bool
  trick : Nat

structure RcIntent where
  command : ControllerCommand
  ever_seen : Bool
  kill : Bool
  armed : Bool
  failsafe : Bool
  autonomy_enabled : Bool

structure MotionIntent where
  seq : Nat
  gait : Nat
  body_height_mm : Nat
  stride_len_mm : Nat
  step_height_mm : Nat
  duty_x255 : Nat
  speed_x255 : Nat
  twist_vx : Nat
  twist_vy : Nat
  twist_wz : Nat
  pose_x_mm : Nat
  pose_y_mm : Nat
  pose_z_mm : Nat
  pose_roll : Nat
  pose_pitch : Nat
  pose_yaw : Nat

structure MaintenanceLegTarget where
  foot_x_mm : Int
  foot_y_mm : Int
  foot_z_mm : Int
  target_set : Bool
  reachable : Bool
  clamped : Bool

structure MaintenanceTargets where
  seq : Nat
  tick : List Nat
  set : List Bool
  clamped : List Bool
  legs : List MaintenanceLegTarget

structure MaintenanceIntent where
  lock_held : Bool
  lock_token : Nat
  control_mode : Nat
  targets : MaintenanceTargets

structure FeatureSnapshot where
  foot_contact_enabled : Bool
  terrain_leveling_enabled : Bool
  sensor_polling_enabled : Bool
  jetson_control_enabled : Bool
  passive_pose_enabled : Bool

structure ControllerIntent where
  rc : RcIntent
  motion : MotionIntent
  maintenance : MaintenanceIntent
  features : FeatureSnapshot
  host_estop : Bool
  host_disarm : Bool
  clear_fault_requested : Bool
  passive_requested : Bool
  jetson_heartbeat_received : Bool

structure ControllerConfigSnapshot where
  revision : Nat
  valid : Bool
  persistent : Bool

structure ControllerDiagnostics where
  config_revision : Nat
  intent_sequence : Nat
  confident_contact_feet : Nat
  motion_gate_rising : Bool
  motion_gate_falling : Bool
  config_reapplied : Bool
  maintenance_session_started : Bool
  clear_maintenance_targets : Bool
  clear_maintenance_lock : Bool
  clear_passive_request : Bool
  any_goal_clamped : Bool
  any_goal_unreachable : Bool
  any_goal_reach_limited : Bool

structure PipelineJoint where
  id : Nat
  tick : Nat
  leg : Nat
  joint : Nat
  clamped : Bool

structure CommandObservation where
  safety_state : Nat
  fault_reason : Nat
  command_source : Nat
  motion_authorized : Bool
  motion_gate : Bool
  allow_dxl_power : Bool
  allow_torque : Bool
  goal_valid : Bool
  diagnostics : ControllerDiagnostics
  goals : List PipelineJoint
  any_unreachable : Bool
  any_reach_limited : Bool

structure ControllerStep where
  step_sequence : Nat
  time : ControllerTime
  state : RobotState
  intent : ControllerIntent
  config : ControllerConfigSnapshot
  observed : CommandObservation

inductive ParsedRecord where
  | begin (parsed : TraceBegin)
  | config (parsed : ConfigSnapshot)
  | step (parsed : ControllerStep)
  | marker (parsed : TraceMarker)
  | outputBlocked (parsed : OutputBlocked)
  | «end» (parsed : TraceEnd)

/-! ## The reader -/

/-- `_Reader`: what is left of the record. -/
abbrev Reader (α : Type) : Type := StateT (List UInt8) (Except String) α

namespace Reader

/-- `_take`. -/
def take (size : Nat) : Reader (List UInt8) := fun data =>
  if size > data.length then .error "logical record is truncated"
  else .ok (data.take size, data.drop size)

/-- An unsigned integer of `size` bytes. -/
def unsigned (size : Nat) : Reader Nat := do return ofLittleEndian (← take size)

/-- A signed integer of `size` bytes. -/
def signed (size : Nat) : Reader Int := do
  let value ← unsigned size
  return if 2 * value < 256 ^ size then (value : Int) else (value : Int) - (256 ^ size : Nat)

def u8 : Reader Nat := unsigned 1

def boolean : Reader Bool := do
  let value ← u8
  if value ≠ 0 ∧ value ≠ 1 then throw "canonical boolean is not 0 or 1"
  return value == 1

def u16 : Reader Nat := unsigned 2

def i8 : Reader Int := signed 1

def i16 : Reader Int := signed 2

def u32 : Reader Nat := unsigned 4

def i32 : Reader Int := signed 4

def f32 : Reader Nat := unsigned 4

def bytes (length : Nat) : Reader (List UInt8) := take length

def finish : Reader Unit := do
  if (← get) ≠ [] then throw "logical record has trailing bytes"

end Reader

open Reader

def readGuard : Reader OutputGuardStatus := do
  let output_disabled ← boolean
  let power_guard_active ← boolean
  let torque_guard_active ← boolean
  let goal_guard_active ← boolean
  let write_guard_active ← boolean
  let blocked_power_enable ← u32
  let blocked_torque_enable ← u32
  let blocked_goal_write ← u32
  let blocked_dxl_write ← u32
  let last_goal_sequence ← u32
  let last_goal_count ← u8
  return { output_disabled, power_guard_active, torque_guard_active, goal_guard_active,
           write_guard_active, blocked_power_enable, blocked_torque_enable, blocked_goal_write,
           blocked_dxl_write, last_goal_sequence, last_goal_count }

def readControllerCommand : Reader ControllerCommand := do
  let valid ← boolean
  let failsafe ← boolean
  let ever_seen ← boolean
  let frame_ms ← u32
  let arm_request ← boolean
  let estop ← boolean
  let host_authority ← boolean
  let mode ← u8
  let gait_index ← u8
  let twist_vx ← f32
  let twist_vy ← f32
  let twist_wz ← f32
  let pose_x_mm ← f32
  let pose_y_mm ← f32
  let pose_z_mm ← f32
  let pose_roll ← f32
  let pose_pitch ← f32
  let pose_yaw ← f32
  let trim_roll ← f32
  let trim_pitch ← f32
  let speed ← f32
  let body_height ← f32
  let stride ← f32
  let step_height ← f32
  let feat_foot_contact ← boolean
  let feat_terrain_leveling ← boolean
  let feat_passive_pose ← boolean
  let trick ← u8
  return { valid, failsafe, ever_seen, frame_ms, arm_request, estop, host_authority, mode,
           gait_index, twist_vx, twist_vy, twist_wz, pose_x_mm, pose_y_mm, pose_z_mm, pose_roll,
           pose_pitch, pose_yaw, trim_roll, trim_pitch, speed, body_height, stride, step_height,
           feat_foot_contact, feat_terrain_leveling, feat_passive_pose, trick }

/-- One entry of `servos` in `_read_robot_state`. -/
def readServo : Reader DxlServoStatus := do
  let id ← u8
  let present_position ← i32
  let present_velocity ← i32
  let present_load ← i32
  let present_voltage_mv ← u16
  let present_temperature_c ← i8
  let hardware_error ← u8
  let torque_enabled ← boolean
  let ok ← boolean
  return { id, present_position, present_velocity, present_load, present_voltage_mv,
           present_temperature_c, hardware_error, torque_enabled, ok }

/-- One entry of `feet` in `_read_robot_state`. -/
def readFoot : Reader FootContactState := do
  let timestamp_ms ← u32
  let proximity_raw ← u16
  let pressure_raw ← i32
  let pressure_baseline ← i32
  let pressure_delta ← i32
  let state ← u8
  let confidence ← u8
  let near_surface ← boolean
  let touch ← boolean
  let loaded ← boolean
  let release ← boolean
  let stale ← boolean
  let fault ← boolean
  return { timestamp_ms, proximity_raw, pressure_raw, pressure_baseline, pressure_delta, state,
           confidence, near_surface, touch, loaded, release, stale, fault }

def readRobotState : Reader RobotState := do
  let millivolts ← u16
  let valid ← boolean
  let validity ← u8
  let battery : BatterySnapshot := { millivolts, valid, validity }
  let servo_count ← u8
  if servo_count > NUM_SERVOS then throw "DXL servo count exceeds the portable contract"
  let validity ← u8
  let configured_servo_coverage ← boolean
  let pose_known_mask ← u32
  let config_revision ← u32
  let torque_off ← boolean
  let hard_fault ← boolean
  let servos ← many readServo NUM_SERVOS
  let dxl : DxlSnapshot :=
    { servo_count, validity, configured_servo_coverage, pose_known_mask, config_revision,
      torque_off, hard_fault, servos }
  let present_mask ← u8
  let validity ← u8
  let feet ← many readFoot NUM_FOOT_SENSORS
  let contact : ContactSnapshot := { present_mask, validity, feet }
  let config_ready ← boolean
  let watchdog_fault ← boolean
  return { battery, dxl, contact, config_ready, watchdog_fault }

def readMotionIntent : Reader MotionIntent := do
  let seq ← u32
  let gait ← u8
  let body_height_mm ← u16
  let stride_len_mm ← u16
  let step_height_mm ← u16
  let duty_x255 ← u8
  let speed_x255 ← u8
  let twist_vx ← f32
  let twist_vy ← f32
  let twist_wz ← f32
  let pose_x_mm ← f32
  let pose_y_mm ← f32
  let pose_z_mm ← f32
  let pose_roll ← f32
  let pose_pitch ← f32
  let pose_yaw ← f32
  return { seq, gait, body_height_mm, stride_len_mm, step_height_mm, duty_x255, speed_x255,
           twist_vx, twist_vy, twist_wz, pose_x_mm, pose_y_mm, pose_z_mm, pose_roll, pose_pitch,
           pose_yaw }

/-- One entry of `legs` in `_read_maintenance_intent`. -/
def readLegTarget : Reader MaintenanceLegTarget := do
  let foot_x_mm ← i16
  let foot_y_mm ← i16
  let foot_z_mm ← i16
  let target_set ← boolean
  let reachable ← boolean
  let clamped ← boolean
  return { foot_x_mm, foot_y_mm, foot_z_mm, target_set, reachable, clamped }

def readMaintenanceIntent : Reader MaintenanceIntent := do
  let lock_held ← boolean
  let lock_token ← u32
  let control_mode ← u8
  let seq ← u32
  let tick ← many u16 NUM_SERVOS
  let set ← many boolean NUM_SERVOS
  let clamped ← many boolean NUM_SERVOS
  let legs ← many readLegTarget NUM_LEGS
  let targets : MaintenanceTargets := { seq, tick, set, clamped, legs }
  return { lock_held, lock_token, control_mode, targets }

def readControllerIntent : Reader ControllerIntent := do
  let command ← readControllerCommand
  let ever_seen ← boolean
  let kill ← boolean
  let armed ← boolean
  let failsafe ← boolean
  let autonomy_enabled ← boolean
  let rc : RcIntent := { command, ever_seen, kill, armed, failsafe, autonomy_enabled }
  let motion ← readMotionIntent
  let maintenance ← readMaintenanceIntent
  let foot_contact_enabled ← boolean
  let terrain_leveling_enabled ← boolean
  let sensor_polling_enabled ← boolean
  let jetson_control_enabled ← boolean
  let passive_pose_enabled ← boolean
  let features : FeatureSnapshot :=
    { foot_contact_enabled, terrain_leveling_enabled, sensor_polling_enabled,
      jetson_control_enabled, passive_pose_enabled }
  let host_estop ← boolean
  let host_disarm ← boolean
  let clear_fault_requested ← boolean
  let passive_requested ← boolean
  let jetson_heartbeat_received ← boolean
  return { rc, motion, maintenance, features, host_estop, host_disarm, clear_fault_requested,
           passive_requested, jetson_heartbeat_received }

/-- `diagnostics` in `_read_command_observation`. -/
def readDiagnostics : Reader ControllerDiagnostics := do
  let config_revision ← u32
  let intent_sequence ← u32
  let confident_contact_feet ← u8
  let motion_gate_rising ← boolean
  let motion_gate_falling ← boolean
  let config_reapplied ← boolean
  let maintenance_session_started ← boolean
  let clear_maintenance_targets ← boolean
  let clear_maintenance_lock ← boolean
  let clear_passive_request ← boolean
  let any_goal_clamped ← boolean
  let any_goal_unreachable ← boolean
  let any_goal_reach_limited ← boolean
  return { config_revision, intent_sequence, confident_contact_feet, motion_gate_rising,
           motion_gate_falling, config_reapplied, maintenance_session_started,
           clear_maintenance_targets, clear_maintenance_lock, clear_passive_request,
           any_goal_clamped, any_goal_unreachable, any_goal_reach_limited }

/-- One entry of `goals` in `_read_command_observation`. -/
def readGoal : Reader PipelineJoint := do
  let id ← u8
  let tick ← u16
  let leg ← u8
  let joint ← u8
  let clamped ← boolean
  return { id, tick, leg, joint, clamped }

def readCommandObservation : Reader CommandObservation := do
  let safety_state ← u8
  let fault_reason ← u8
  let command_source ← u8
  let motion_authorized ← boolean
  let motion_gate ← boolean
  let allow_dxl_power ← boolean
  let allow_torque ← boolean
  let goal_valid ← boolean
  let diagnostics ← readDiagnostics
  let goal_count ← u8
  let any_unreachable ← boolean
  let any_reach_limited ← boolean
  if goal_count > NUM_SERVOS then
    throw "ControllerStep goal count exceeds the portable contract"
  let goals ← many readGoal goal_count
  return { safety_state, fault_reason, command_source, motion_authorized, motion_gate,
           allow_dxl_power, allow_torque, goal_valid, diagnostics, goals, any_unreachable,
           any_reach_limited }

def readControllerStep : Reader ControllerStep := do
  let step_sequence ← u32
  let now_ms ← u32
  let dt_ms ← u32
  let valid ← boolean
  let time : ControllerTime := { now_ms, dt_ms, valid }
  let state ← readRobotState
  let intent ← readControllerIntent
  let revision ← u32
  let valid ← boolean
  let persistent ← boolean
  let config : ControllerConfigSnapshot := { revision, valid, persistent }
  let observed ← readCommandObservation
  return { step_sequence, time, state, intent, config, observed }

/-! ## `parse_record` -/

abbrev CONFIG_PAYLOAD_SIZE : Nat := 485
abbrev LEGACY_CONFIG_PAYLOAD_SIZE_V3 : Nat := 337
abbrev LEGACY_CONFIG_PAYLOAD_SIZE_V4 : Nat := 457

/-- The versions that `decode_robot_config` knows, each with its payload size. -/
def configVersions : List (Nat × Nat) :=
  [(3, LEGACY_CONFIG_PAYLOAD_SIZE_V3), (4, LEGACY_CONFIG_PAYLOAD_SIZE_V4), (5, CONFIG_PAYLOAD_SIZE),
    (6, CONFIG_PAYLOAD_SIZE), (7, CONFIG_PAYLOAD_SIZE), (8, CONFIG_PAYLOAD_SIZE),
    (9, CONFIG_PAYLOAD_SIZE)]

/-- The checks of `decode_robot_config`; the text is the one of the `ConfigDecodeError`. -/
def checkRobotConfig (payload : List UInt8) : Except String Unit :=
  if payload.length ≠ CONFIG_PAYLOAD_SIZE ∧ payload.length ≠ LEGACY_CONFIG_PAYLOAD_SIZE_V4 ∧
      payload.length ≠ LEGACY_CONFIG_PAYLOAD_SIZE_V3 then
    .error ("config payload is " ++ toString payload.length ++ " bytes, expected " ++
      toString CONFIG_PAYLOAD_SIZE)
  else
    let schema_version := ofLittleEndian (payload.take 2)
    if (schema_version, payload.length) ∉ configVersions then
      .error ("unsupported config schema version " ++ toString schema_version ++ " (expected 9)")
    else .ok ()

def parseBegin (header : FragmentHeader) : Reader TraceBegin := do
  let schema_version ← u16
  if schema_version ≠ TRACE_SCHEMA_VERSION then
    throw "TraceBegin has an unsupported schema version"
  let origin ← u8
  let some origin := TraceOrigin.ofNumber origin | throw "TraceBegin has an unknown capture origin"
  let protocol_major ← u8
  let protocol_minor ← u8
  let session_id ← u32
  let capture_id ← u32
  let config_revision ← u32
  let config_payload_crc16 ← u16
  let requested_steps ← u8
  let initial_guard ← readGuard
  if session_id ≠ header.session_id then throw "TraceBegin session ID does not match envelope"
  if capture_id ≠ header.capture_id then throw "TraceBegin capture ID does not match envelope"
  if requested_steps < 1 ∨ 32 < requested_steps then
    throw "TraceBegin requested step count is invalid"
  return { schema_version, origin, protocol_major, protocol_minor, session_id, capture_id,
           config_revision, config_payload_crc16, requested_steps, initial_guard }

def parseConfig : Reader ConfigSnapshot := do
  let revision ← u32
  let valid ← boolean
  let persistent ← boolean
  let payload_length ← u16
  let payload_crc16 ← u16
  let payload ← bytes payload_length
  if payload_length > MAX_LOGICAL_RECORD_BYTES - 10 then
    throw "ConfigSnapshot payload is too large"
  if valid then
    if crc16 payload ≠ payload_crc16 then throw "ConfigSnapshot payload CRC mismatch"
    if let .error exc := checkRobotConfig payload then throw ("ConfigSnapshot is invalid: " ++ exc)
  else if payload ≠ [] ∨ payload_crc16 ≠ 0 then
    throw "invalid ConfigSnapshot must have an empty payload"
  return { revision, valid, persistent, payload_crc16, payload }

def parseMarker : Reader TraceMarker := do
  let marker_id ← u32
  let now_ms ← u32
  let safety_state ← u8
  let step_sequence ← u32
  return { marker_id, now_ms, safety_state, step_sequence }

def parseOutputBlocked : Reader OutputBlocked := do
  let step_sequence ← u32
  let guard ← readGuard
  return { step_sequence, guard }

def parseEnd : Reader TraceEnd := do
  let reason ← u8
  let some reason := CaptureEndReason.all[reason]? | throw "TraceEnd has an unknown reason"
  let requested_steps ← u8
  let recorded_steps ← u8
  let queue_high_water ← u8
  let emitted_record_count ← u32
  let emitted_fragment_count ← u32
  let final_guard ← readGuard
  if recorded_steps > requested_steps then
    throw "TraceEnd recorded step count exceeds requested count"
  return { reason, requested_steps, recorded_steps, queue_high_water, emitted_record_count,
           emitted_fragment_count, final_guard }

/-- The branches of `parse_record`. -/
def parseBody (header : FragmentHeader) : Reader ParsedRecord := do
  match header.record_type with
  | .begin => return .begin (← parseBegin header)
  | .config => return .config (← parseConfig)
  | .marker => return .marker (← parseMarker)
  | .outputBlocked => return .outputBlocked (← parseOutputBlocked)
  | .end => return .end (← parseEnd)
  | .step => return .step (← readControllerStep)

def parseRecord (record : TraceRecord) : Except String ParsedRecord := do
  if crc16 record.payload ≠ record.header.logical_crc16 then throw "logical record CRC mismatch"
  let read : Reader ParsedRecord := do
    let parsed ← parseBody record.header
    finish
    return parsed
  return (← read record.payload).1

end HexapodVerified.Host
