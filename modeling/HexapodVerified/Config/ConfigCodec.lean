import HexapodVerified.Config.ConfigSchema
import HexapodVerified.Lib.Codec

/-!
# The serialized configuration

`serializeRobotConfig` and `deserializeRobotConfig` of `config/config_schema.cpp`: the field list of the
writer, the field list of the reader, and the migration of older schemas. The blocks of the source's
two functions are definitions of their own.
-/

namespace HexapodVerified.Config

open Codec

abbrev kLegacySchemaVersionV8 : UInt16 := 8
abbrev kLegacySchemaVersionV7 : UInt16 := 7
abbrev kLegacySchemaVersionV6 : UInt16 := 6
abbrev kLegacySchemaVersionV5 : UInt16 := 5
abbrev kLegacySchemaVersionV4 : UInt16 := 4
abbrev kLegacySchemaVersionV3 : UInt16 := 3

/-- The payload before the RC input calibration was added. -/
abbrev kLegacyConfigPayloadSizeV3 : Nat :=
  2 + kRobotNameLen + 3 * 2 + (2 + 2 + 2) + kNumLegs * (4 * 2) +
    kNumServos * (1 + 1 + 1 + 1 + 2 + 2 + 2) + (2 + 2 + 2 + 1 + 1 + 1) +
    kNumFootSensors * (4 + 2 + 2 + 2 + 1) + 4

/-- The payload before the body-command limits were added. -/
abbrev kLegacyConfigPayloadSizeV4 : Nat :=
  kLegacyConfigPayloadSizeV3 + kNumRcAnalogInputs * (1 + 1 + 2 + 2 + 2 + 1 + 1 + 1 + 2 + 2)

/-! ## Writing -/

def putName (robot_name : Vector UInt8 kRobotNameLen) : List UInt8 := putVector putU8 robot_name

def putLinks (links : LinkLengths) : List UInt8 :=
  Bytes.putU16 links.coxa_cmm ++ (Bytes.putU16 links.femur_cmm ++ Bytes.putU16 links.tibia_cmm)

def putGeometry (geometry : BodyGeometry) : List UInt8 :=
  Bytes.putU16 geometry.home_radius_cmm ++ (putI16 geometry.home_foot_z_cmm ++
    Bytes.putU16 geometry.coxa_lift_cmm)

def putLeg (leg : LegGeometry) : List UInt8 :=
  putI16 leg.mount_x_dmm ++ (putI16 leg.mount_y_dmm ++ (putI16 leg.mount_z_dmm ++
    putI16 leg.mount_yaw_cdeg))

def putServo (s : ServoConfig) : List UInt8 :=
  putU8 s.id ++ (putU8 s.leg ++ (putU8 s.joint ++ (putI8 s.sign ++ (putI16 s.trim_ticks ++
    (Bytes.putU16 s.min_tick ++ Bytes.putU16 s.max_tick)))))

def putGait (gait : GaitDefaults) : List UInt8 :=
  Bytes.putU16 gait.body_height_mm ++ (Bytes.putU16 gait.stride_len_mm ++
    (Bytes.putU16 gait.step_height_mm ++ (putU8 gait.duty_x255 ++ (putU8 gait.speed_x255 ++
      putU8 gait.gait))))

def putRcChannel (c : RcChannelCalibration) : List UInt8 :=
  putU8 c.source ++ (putU8 c.type ++ (putI16 c.min_raw ++ (putI16 c.center_raw ++
    (putI16 c.max_raw ++ (putU8 c.reversed ++ (putU8 c.deadband_x255 ++ (putU8 c.expo_x255 ++
      (Bytes.putU16 c.filter_tau_ms ++ Bytes.putU16 c.switch_debounce_ms))))))))

def putRcInput (calibration : RcInputCalibration) : List UInt8 :=
  putVector putRcChannel calibration.channels

def putBodyCommand (body : BodyCommandLimits) : List UInt8 :=
  Bytes.putU16 body.max_forward_milli ++ (Bytes.putU16 body.max_reverse_milli ++
    (Bytes.putU16 body.max_lateral_milli ++ (Bytes.putU16 body.max_yaw_milli ++
    (Bytes.putU16 body.forward_accel_milli_per_s ++ (Bytes.putU16 body.forward_decel_milli_per_s ++
    (Bytes.putU16 body.lateral_accel_milli_per_s ++ (Bytes.putU16 body.lateral_decel_milli_per_s ++
    (Bytes.putU16 body.yaw_accel_milli_per_s ++ (Bytes.putU16 body.yaw_decel_milli_per_s ++
    (Bytes.putU16 body.height_rise_mm_per_s ++ (Bytes.putU16 body.height_lower_mm_per_s ++
    (Bytes.putU16 body.pose_translation_rate_mm_per_s ++
      Bytes.putU16 body.pose_rotation_rate_millirad_per_s))))))))))))

def putFoot (foot : FootSensorCal) : List UInt8 :=
  putI32 foot.pressure_baseline ++ (Bytes.putU16 foot.near_thresh ++
    (Bytes.putU16 foot.touch_thresh ++ (Bytes.putU16 foot.load_thresh ++ putU8 foot.enabled)))

/-- The bytes `serializeRobotConfig` writes when they fit. -/
def payloadOf (cfg : RobotConfig) : List UInt8 :=
  Bytes.putU16 cfg.schema_version ++ (putName cfg.robot_name ++ (putLinks cfg.links ++
    (putGeometry cfg.geometry ++ (putVector putLeg cfg.legs ++ (putVector putServo cfg.servos ++
      (putGait cfg.gait ++ (putRcInput cfg.rc_input ++ (putBodyCommand cfg.body_command ++
        (putVector putFoot cfg.feet ++ Bytes.putU32 cfg.feature_defaults)))))))))

/-- `serializeRobotConfig`: nothing when the buffer is too small. -/
def serializeRobotConfig (cfg : RobotConfig) (max_len : Nat) : List UInt8 :=
  if max_len < kConfigPayloadSize then [] else payloadOf cfg

/-! ## Reading -/

def getName : Reader (Vector UInt8 kRobotNameLen) := getVector getU8 kRobotNameLen

def getLinks : Reader LinkLengths := do
  let coxa_cmm ← getU16
  let femur_cmm ← getU16
  let tibia_cmm ← getU16
  return { coxa_cmm, femur_cmm, tibia_cmm }

def getGeometry : Reader BodyGeometry := do
  let home_radius_cmm ← getU16
  let home_foot_z_cmm ← getI16
  let coxa_lift_cmm ← getU16
  return { home_radius_cmm, home_foot_z_cmm, coxa_lift_cmm }

def getLeg : Reader LegGeometry := do
  let mount_x_dmm ← getI16
  let mount_y_dmm ← getI16
  let mount_z_dmm ← getI16
  let mount_yaw_cdeg ← getI16
  return { mount_x_dmm, mount_y_dmm, mount_z_dmm, mount_yaw_cdeg }

def getServo : Reader ServoConfig := do
  let id ← getU8
  let leg ← getU8
  let joint ← getU8
  let sign ← getI8
  let trim_ticks ← getI16
  let min_tick ← getU16
  let max_tick ← getU16
  return { id, leg, joint, sign, trim_ticks, min_tick, max_tick }

def getGait : Reader GaitDefaults := do
  let body_height_mm ← getU16
  let stride_len_mm ← getU16
  let step_height_mm ← getU16
  let duty_x255 ← getU8
  let speed_x255 ← getU8
  let gait ← getU8
  return { body_height_mm, stride_len_mm, step_height_mm, duty_x255, speed_x255, gait }

def getRcChannel : Reader RcChannelCalibration := do
  let source ← getU8
  let type ← getU8
  let min_raw ← getI16
  let center_raw ← getI16
  let max_raw ← getI16
  let reversed ← getU8
  let deadband_x255 ← getU8
  let expo_x255 ← getU8
  let filter_tau_ms ← getU16
  let switch_debounce_ms ← getU16
  return { source, type, min_raw, center_raw, max_raw, reversed, deadband_x255, expo_x255,
           filter_tau_ms, switch_debounce_ms }

def getRcInput : Reader RcInputCalibration := do
  let channels ← getVector getRcChannel kNumRcAnalogInputs
  return { channels }

def getBodyCommand : Reader BodyCommandLimits := do
  let max_forward_milli ← getU16
  let max_reverse_milli ← getU16
  let max_lateral_milli ← getU16
  let max_yaw_milli ← getU16
  let forward_accel_milli_per_s ← getU16
  let forward_decel_milli_per_s ← getU16
  let lateral_accel_milli_per_s ← getU16
  let lateral_decel_milli_per_s ← getU16
  let yaw_accel_milli_per_s ← getU16
  let yaw_decel_milli_per_s ← getU16
  let height_rise_mm_per_s ← getU16
  let height_lower_mm_per_s ← getU16
  let pose_translation_rate_mm_per_s ← getU16
  let pose_rotation_rate_millirad_per_s ← getU16
  return { max_forward_milli, max_reverse_milli, max_lateral_milli, max_yaw_milli,
           forward_accel_milli_per_s, forward_decel_milli_per_s, lateral_accel_milli_per_s,
           lateral_decel_milli_per_s, yaw_accel_milli_per_s, yaw_decel_milli_per_s,
           height_rise_mm_per_s, height_lower_mm_per_s, pose_translation_rate_mm_per_s,
           pose_rotation_rate_millirad_per_s }

def getFoot : Reader FootSensorCal := do
  let pressure_baseline ← getI32
  let near_thresh ← getU16
  let touch_thresh ← getU16
  let load_thresh ← getU16
  let enabled ← getU8
  return { pressure_baseline, near_thresh, touch_thresh, load_thresh, enabled }

/-- The RC block, which a v3 payload does not have. -/
def getRcInputUnless (legacy_v3 : Bool) : Reader RcInputCalibration :=
  if legacy_v3 then return defaultRcInputCalibration else getRcInput

/-- The body-command block, which a v3 or v4 payload does not have. -/
def getBodyCommandUnless (legacy : Bool) : Reader BodyCommandLimits :=
  if legacy then return defaultBodyCommandLimits else getBodyCommand

/-- Everything behind the robot name, in the order of `deserializeRobotConfig`. -/
def getBlocks (schema_version : UInt16) (robot_name : Vector UInt8 kRobotNameLen)
    (legacy_v3 legacy_v4 : Bool) : Reader RobotConfig := do
  let links ← getLinks
  let geometry ← getGeometry
  let legs ← getVector getLeg kNumLegs
  let servos ← getVector getServo kNumServos
  let gait ← getGait
  let rc_input ← getRcInputUnless legacy_v3
  let body_command ← getBodyCommandUnless (legacy_v3 || legacy_v4)
  let feet ← getVector getFoot kNumFootSensors
  let feature_defaults ← getU32
  return { schema_version, robot_name, links, geometry, legs, servos, gait, rc_input, body_command,
           feet, feature_defaults }

/-- The name with the terminator that is forced into its last byte. -/
def terminated (robot_name : Vector UInt8 kRobotNameLen) : Vector UInt8 kRobotNameLen :=
  robot_name.setIfInBounds (kRobotNameLen - 1) 0

def getFields (schema_version : UInt16) (legacy_v3 legacy_v4 : Bool) : Reader RobotConfig := do
  let robot_name ← getName
  getBlocks schema_version (terminated robot_name) legacy_v3 legacy_v4

def deserializeRobotConfig (input : List UInt8) : Option RobotConfig :=
  let len := input.length
  if len < 2 then none
  else
    match getU16 input with
    | none => none
    | some (schema_version, rest) =>
      let legacy_v3 := schema_version == kLegacySchemaVersionV3 && len == kLegacyConfigPayloadSizeV3
      let legacy_v4 := schema_version == kLegacySchemaVersionV4 && len == kLegacyConfigPayloadSizeV4
      let legacy_v5 := schema_version == kLegacySchemaVersionV5 && len == kConfigPayloadSize
      let legacy_v6 := schema_version == kLegacySchemaVersionV6 && len == kConfigPayloadSize
      let legacy_v7 := schema_version == kLegacySchemaVersionV7 && len == kConfigPayloadSize
      let legacy_v8 := schema_version == kLegacySchemaVersionV8 && len == kConfigPayloadSize
      if !legacy_v3 && !legacy_v4 && !legacy_v5 && !legacy_v6 && !legacy_v7 && !legacy_v8 &&
          (schema_version != kSchemaVersion || len != kConfigPayloadSize) then none
      else
        match getFields schema_version legacy_v3 legacy_v4 rest with
        | none => none
        | some (out, rest) =>
          -- The source compares its running offset with the length.
          if rest.length != 0 then none
          else
            let out :=
              if legacy_v6 || legacy_v7 then applyRobotMotionProfile out
              else if legacy_v3 || legacy_v4 || legacy_v5 || legacy_v8 then
                applyRobotKinematicsProfile out
              else out
            some { out with schema_version := kSchemaVersion }

end HexapodVerified.Config
