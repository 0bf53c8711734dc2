import HexapodVerified.Host.HilRecords
import HexapodVerified.Lib.Struct

/-!
# The robot configuration on the host

`hexapod_protocol/config.py`: the configuration as an object of the host, whose integers are unbounded and
whose lists have any length, how it is decoded from a payload of the controller, and how it is encoded.
-/

namespace HexapodVerified.Host

open Codec Struct

abbrev JOINTS_PER_LEG : Nat := 3
abbrev NUM_RC_ANALOG_INPUTS : Nat := 8
abbrev ROBOT_NAME_LEN : Nat := 16
abbrev SCHEMA_VERSION : Int := 9
abbrev SERVO_MAX_TICK : Int := 4095
abbrev RC_CENTERED_ANALOG : Int := 0
abbrev RC_UNIPOLAR_ANALOG : Int := 1
abbrev RC_RELATIVE_ENCODER : Int := 2

structure LinkLengths where
  coxa_cmm : Int := 0
  femur_cmm : Int := 0
  tibia_cmm : Int := 0
  deriving DecidableEq, Repr

structure BodyGeometry where
  home_radius_cmm : Int := 0
  home_foot_z_cmm : Int := 0
  coxa_lift_cmm : Int := 0
  deriving DecidableEq, Repr

structure LegGeometry where
  mount_x_dmm : Int := 0
  mount_y_dmm : Int := 0
  mount_z_dmm : Int := 0
  mount_yaw_cdeg : Int := 0
  deriving DecidableEq, Repr

structure ServoConfig where
  id : Int := 0
  leg : Int := 0
  joint : Int := 0
  sign : Int := 1
  trim_ticks : Int := 0
  min_tick : Int := 0
  max_tick : Int := SERVO_MAX_TICK
  deriving DecidableEq, Repr

structure GaitDefaults where
  body_height_mm : Int := 0
  stride_len_mm : Int := 0
  step_height_mm : Int := 0
  duty_x255 : Int := 0
  speed_x255 : Int := 0
  gait : Int := 0
  deriving DecidableEq, Repr

structure RcChannelCalibration where
  source : Int := 0
  type : Int := RC_CENTERED_ANALOG
  min_raw : Int := 0
  center_raw : Int := 0
  max_raw : Int := 0
  reversed : Int := 0
  deadband_x255 : Int := 0
  expo_x255 : Int := 0
  filter_tau_ms : Int := 0
  switch_debounce_ms : Int := 0
  deriving DecidableEq, Repr

structure RcInputCalibration where
  channels : List RcChannelCalibration := []
  deriving DecidableEq, Repr

structure BodyCommandLimits where
  max_forward_milli : Int := 1000
  max_reverse_milli : Int := 1000
  max_lateral_milli : Int := 1000
  max_yaw_milli : Int := 1000
  forward_accel_milli_per_s : Int := 1200
  forward_decel_milli_per_s : Int := 1800
  lateral_accel_milli_per_s : Int := 1000
  lateral_decel_milli_per_s : Int := 1500
  yaw_accel_milli_per_s : Int := 1500
  yaw_decel_milli_per_s : Int := 2000
  height_rise_mm_per_s : Int := 20
  height_lower_mm_per_s : Int := 30
  pose_translation_rate_mm_per_s : Int := 60
  pose_rotation_rate_millirad_per_s : Int := 500
  deriving DecidableEq, Repr

structure FootSensorCal where
  pressure_baseline : Int := 0
  near_thresh : Int := 0
  touch_thresh : Int := 0
  load_thresh : Int := 0
  enabled : Int := 0
  deriving DecidableEq, Repr

/-! ## Profiles -/

/-- One turn of the loop of `default_rc_input_calibration`. -/
def defaultRcChannel (index : Nat) : RcChannelCalibration :=
  if index < 4 then
    { source := index + 1, type := RC_CENTERED_ANALOG, min_raw := -1000, center_raw := 0
      max_raw := 1000, deadband_x255 := 13, filter_tau_ms := 60 }
  else if index < 6 then
    { source := index + 1, type := RC_UNIPOLAR_ANALOG, min_raw := 0, center_raw := 0
      max_raw := 1000, deadband_x255 := 0, filter_tau_ms := 120 }
  else
    { source := index + 1, type := RC_RELATIVE_ENCODER, min_raw := 0, center_raw := 0
      max_raw := 2047, deadband_x255 := 0, filter_tau_ms := 0 }

def defaultRcInputCalibration : RcInputCalibration where
  channels := (List.range NUM_RC_ANALOG_INPUTS).map defaultRcChannel

structure RobotConfig where
  schema_version : Int := SCHEMA_VERSION
  robot_name : String := ""
  links : LinkLengths := {}
  geometry : BodyGeometry := {}
  legs : List LegGeometry := []
  servos : List ServoConfig := []
  gait : GaitDefaults := {}
  rc_input : RcInputCalibration := defaultRcInputCalibration
  body_command : BodyCommandLimits := {}
  feet : List FootSensorCal := []
  feature_defaults : Int := 0
  deriving DecidableEq, Repr

/-- `_LEG_SEEDS`. -/
def legSeeds : List LegGeometry := [
  ⟨-656, -1156, 0, 13500⟩,
  ⟨656, -1156, 0, -13500⟩,
  ⟨698, 0, 0, -9000⟩,
  ⟨656, 1156, 0, -4500⟩,
  ⟨-656, 1156, 0, 4500⟩,
  ⟨-698, 0, 0, 9000⟩]

def applyRobotKinematicsProfile (cfg : RobotConfig) : RobotConfig :=
  { cfg with
    links := { coxa_cmm := 5200, femur_cmm := 6651, tibia_cmm := 11716 }
    geometry := { home_radius_cmm := 12675, home_foot_z_cmm := -13173, coxa_lift_cmm := 0 }
    legs := legSeeds
    gait := { body_height_mm := 132, stride_len_mm := 60, step_height_mm := 30, duty_x255 := 159
              speed_x255 := 128, gait := 0 } }

/-- The servo that `_apply_robot_motion_profile` appends for a joint. -/
def profileServo (leg joint : Nat) : ServoConfig where
  id := leg * JOINTS_PER_LEG + joint + 1
  leg
  joint
  sign := 1
  trim_ticks := 0
  min_tick := 1024
  max_tick := 3072

def applyRobotMotionProfile (cfg : RobotConfig) : RobotConfig :=
  { applyRobotKinematicsProfile cfg with
    servos := (List.range NUM_LEGS).flatMap fun leg =>
      (List.range JOINTS_PER_LEG).map fun joint => profileServo leg joint }

/-! ## Decoding -/

/-- `bytes.decode("ascii", errors="replace")`. -/
def decodeAscii (raw : List UInt8) : String :=
  String.ofList (raw.map fun b => if b < 128 then Char.ofNat b.toNat else Char.ofNat 0xFFFD)

/-- `_trim_name`. -/
def trimName (raw : List UInt8) : String := decodeAscii (raw.takeWhile (· != 0))

/-- `payload[o : o + n]`. -/
def slice (n : Nat) : Codec.Reader (List UInt8) := fun payload => some (payload.take n, payload.drop n)

def unpackLinks : Codec.Reader LinkLengths := do
  let coxa_cmm ← unpack .H
  let femur_cmm ← unpack .H
  let tibia_cmm ← unpack .H
  return { coxa_cmm, femur_cmm, tibia_cmm }

def unpackGeometry : Codec.Reader BodyGeometry := do
  let home_radius_cmm ← unpack .H
  let home_foot_z_cmm ← unpack .h
  let coxa_lift_cmm ← unpack .H
  return { home_radius_cmm, home_foot_z_cmm, coxa_lift_cmm }

def unpackLeg : Codec.Reader LegGeometry := do
  let mount_x_dmm ← unpack .h
  let mount_y_dmm ← unpack .h
  let mount_z_dmm ← unpack .h
  let mount_yaw_cdeg ← unpack .h
  return { mount_x_dmm, mount_y_dmm, mount_z_dmm, mount_yaw_cdeg }

def unpackServo : Codec.Reader ServoConfig := do
  let sid ← unpack .B
  let leg ← unpack .B
  let joint ← unpack .B
  let sign ← unpack .b
  let trim ← unpack .h
  let mn ← unpack .H
  let mx ← unpack .H
  return { id := sid, leg, joint, sign, trim_ticks := trim, min_tick := mn, max_tick := mx }

def unpackGait : Codec.Reader GaitDefaults := do
  let body_h ← unpack .H
  let stride ← unpack .H
  let step_h ← unpack .H
  let duty ← unpack .B
  let speed ← unpack .B
  let gait ← unpack .B
  return { body_height_mm := body_h, stride_len_mm := stride, step_height_mm := step_h
           duty_x255 := duty, speed_x255 := speed, gait }

def unpackRcChannel : Codec.Reader RcChannelCalibration := do
  let source ← unpack .B
  let channel_type ← unpack .B
  let minimum ← unpack .h
  let center ← unpack .h
  let maximum ← unpack .h
  let reverse ← unpack .B
  let deadband ← unpack .B
  let expo ← unpack .B
  let tau ← unpack .H
  let debounce ← unpack .H
  return { source, type := channel_type, min_raw := minimum, center_raw := center
           max_raw := maximum, reversed := reverse, deadband_x255 := deadband, expo_x255 := expo
           filter_tau_ms := tau, switch_debounce_ms := debounce }

def unpackRcInput : Codec.Reader RcInputCalibration := do
  let channels ← unpackList unpackRcChannel NUM_RC_ANALOG_INPUTS
  return { channels }

def unpackBodyCommand : Codec.Reader BodyCommandLimits := do
  let max_forward_milli ← unpack .H
  let max_reverse_milli ← unpack .H
  let max_lateral_milli ← unpack .H
  let max_yaw_milli ← unpack .H
  let forward_accel_milli_per_s ← unpack .H
  let forward_decel_milli_per_s ← unpack .H
  let lateral_accel_milli_per_s ← unpack .H
  let lateral_decel_milli_per_s ← unpack .H
  let yaw_accel_milli_per_s ← unpack .H
  let yaw_decel_milli_per_s ← unpack .H
  let height_rise_mm_per_s ← unpack .H
  let height_lower_mm_per_s ← unpack .H
  let pose_translation_rate_mm_per_s ← unpack .H
  let pose_rotation_rate_millirad_per_s ← unpack .H
  return { max_forward_milli, max_reverse_milli, max_lateral_milli, max_yaw_milli,
           forward_accel_milli_per_s, forward_decel_milli_per_s, lateral_accel_milli_per_s,
           lateral_decel_milli_per_s, yaw_accel_milli_per_s, yaw_decel_milli_per_s,
           height_rise_mm_per_s, height_lower_mm_per_s, pose_translation_rate_mm_per_s,
           pose_rotation_rate_millirad_per_s }

def unpackFoot : Codec.Reader FootSensorCal := do
  let baseline ← unpack .i
  let near ← unpack .H
  let touch ← unpack .H
  let load ← unpack .H
  let enabled ← unpack .B
  return { pressure_baseline := baseline, near_thresh := near, touch_thresh := touch
           load_thresh := load, enabled }

/-- The RC block, which a v3 payload does not have. -/
def unpackRcInputUnless (legacy_v3 : Bool) : Codec.Reader RcInputCalibration :=
  if legacy_v3 then return defaultRcInputCalibration else unpackRcInput

/-- The body-command block, which a v3 or v4 payload does not have. -/
def unpackBodyCommandUnless (legacy : Bool) : Codec.Reader BodyCommandLimits :=
  if legacy then return {} else unpackBodyCommand

def unpackBlocks (schema_version : Int) (robot_name : String) (legacy_v3 legacy_v4 : Bool) :
    Codec.Reader RobotConfig := do
  let links ← unpackLinks
  let geometry ← unpackGeometry
  let legs ← unpackList unpackLeg NUM_LEGS
  let servos ← unpackList unpackServo NUM_SERVOS
  let gait ← unpackGait
  let rc_input ← unpackRcInputUnless legacy_v3
  let body_command ← unpackBodyCommandUnless (legacy_v3 || legacy_v4)
  let feet ← unpackList unpackFoot NUM_FOOT_SENSORS
  let feature_defaults ← unpack .I
  return { schema_version, robot_name, links, geometry, legs, servos, gait, rc_input, body_command,
           feet, feature_defaults }

def unpackConfig (schema_version : Int) (legacy_v3 legacy_v4 : Bool) : Codec.Reader RobotConfig := do
  let name ← slice ROBOT_NAME_LEN
  unpackBlocks schema_version (trimName name) legacy_v3 legacy_v4

/-- `decode_robot_config`. A payload that passes the checks is long enough for the fields of its
version. -/
def decodeRobotConfig (payload : List UInt8) : Except String RobotConfig :=
  match checkRobotConfig payload with
  | .error exc => .error exc
  | .ok () =>
    let schema_version := ofLittleEndian (payload.take 2)
    let legacy (version size : Nat) : Bool := schema_version == version && payload.length == size
    let legacy_v3 := legacy 3 LEGACY_CONFIG_PAYLOAD_SIZE_V3
    let legacy_v4 := legacy 4 LEGACY_CONFIG_PAYLOAD_SIZE_V4
    let legacy_v5 := legacy 5 CONFIG_PAYLOAD_SIZE
    let legacy_v6 := legacy 6 CONFIG_PAYLOAD_SIZE
    let legacy_v7 := legacy 7 CONFIG_PAYLOAD_SIZE
    let legacy_v8 := legacy 8 CONFIG_PAYLOAD_SIZE
    let any_legacy := legacy_v3 || legacy_v4 || legacy_v5 || legacy_v6 || legacy_v7 || legacy_v8
    let version : Int := if any_legacy then SCHEMA_VERSION else schema_version
    match unpackConfig version legacy_v3 legacy_v4 (payload.drop 2) with
    | none => .error "unpack_from requires a larger buffer"
    | some (config, _) =>
      if legacy_v6 || legacy_v7 then .ok (applyRobotMotionProfile config)
      else if legacy_v3 || legacy_v4 || legacy_v5 || legacy_v8 then
        .ok (applyRobotKinematicsProfile config)
      else .ok config

/-! ## Encoding -/

/-- The exceptions of `encode_robot_config`: an integer that its format cannot carry, a character that
is not ASCII, a wrong number of RC records. -/
inductive ConfigEncodeError where
  | structError | unicodeError | valueError
  deriving DecidableEq, Repr

/-- `struct.pack`, which raises. -/
def packOrRaise (packed : Option (List UInt8)) : Except ConfigEncodeError (List UInt8) :=
  match packed with
  | some bytes => .ok bytes
  | none => .error .structError

/-- `str.encode("ascii")`. -/
def encodeAscii (s : String) : Except ConfigEncodeError (List UInt8) :=
  if s.toList.all fun c => c.toNat < 128 then .ok (s.toList.map fun c => UInt8.ofNat c.toNat)
  else .error .unicodeError

def encodeName (robot_name : String) : Except ConfigEncodeError (List UInt8) := do
  let encoded ← encodeAscii robot_name
  let name := encoded.take (ROBOT_NAME_LEN - 1)
  return name ++ List.replicate (ROBOT_NAME_LEN - name.length) 0

def packLinks (links : LinkLengths) : Option (List UInt8) :=
  packFields [(.H, links.coxa_cmm), (.H, links.femur_cmm), (.H, links.tibia_cmm)]

def packGeometry (geometry : BodyGeometry) : Option (List UInt8) :=
  packFields [(.H, geometry.home_radius_cmm), (.h, geometry.home_foot_z_cmm),
    (.H, geometry.coxa_lift_cmm)]

def packLeg (leg : LegGeometry) : Option (List UInt8) :=
  packFields [(.h, leg.mount_x_dmm), (.h, leg.mount_y_dmm), (.h, leg.mount_z_dmm),
    (.h, leg.mount_yaw_cdeg)]

def packServo (s : ServoConfig) : Option (List UInt8) :=
  packFields [(.B, s.id), (.B, s.leg), (.B, s.joint), (.b, s.sign), (.h, s.trim_ticks),
    (.H, s.min_tick), (.H, s.max_tick)]

def packGait (g : GaitDefaults) : Option (List UInt8) :=
  packFields [(.H, g.body_height_mm), (.H, g.stride_len_mm), (.H, g.step_height_mm),
    (.B, g.duty_x255), (.B, g.speed_x255), (.B, g.gait)]

def packRcChannel (channel : RcChannelCalibration) : Option (List UInt8) :=
  packFields [(.B, channel.source), (.B, channel.type), (.h, channel.min_raw),
    (.h, channel.center_raw), (.h, channel.max_raw), (.B, channel.reversed),
    (.B, channel.deadband_x255), (.B, channel.expo_x255), (.H, channel.filter_tau_ms),
    (.H, channel.switch_debounce_ms)]

def packBodyCommand (body : BodyCommandLimits) : Option (List UInt8) :=
  packFields [(.H, body.max_forward_milli), (.H, body.max_reverse_milli),
    (.H, body.max_lateral_milli), (.H, body.max_yaw_milli), (.H, body.forward_accel_milli_per_s),
    (.H, body.forward_decel_milli_per_s), (.H, body.lateral_accel_milli_per_s),
    (.H, body.lateral_decel_milli_per_s), (.H, body.yaw_accel_milli_per_s),
    (.H, body.yaw_decel_milli_per_s), (.H, body.height_rise_mm_per_s),
    (.H, body.height_lower_mm_per_s), (.H, body.pose_translation_rate_mm_per_s),
    (.H, body.pose_rotation_rate_millirad_per_s)]

def packFoot (foot : FootSensorCal) : Option (List UInt8) :=
  packFields [(.i, foot.pressure_baseline), (.H, foot.near_thresh), (.H, foot.touch_thresh),
    (.H, foot.load_thresh), (.B, foot.enabled)]

def encodeRobotConfig (cfg : RobotConfig) : Except ConfigEncodeError (List UInt8) := do
  let version ← packOrRaise (Struct.pack .H cfg.schema_version)
  let name ← encodeName cfg.robot_name
  let links ← packOrRaise (packLinks cfg.links)
  let geometry ← packOrRaise (packGeometry cfg.geometry)
  let legs ← packOrRaise (packList packLeg cfg.legs)
  let servos ← packOrRaise (packList packServo cfg.servos)
  let gait ← packOrRaise (packGait cfg.gait)
  if cfg.rc_input.channels.length ≠ NUM_RC_ANALOG_INPUTS then throw .valueError
  let channels ← packOrRaise (packList packRcChannel cfg.rc_input.channels)
  let body ← packOrRaise (packBodyCommand cfg.body_command)
  let feet ← packOrRaise (packList packFoot cfg.feet)
  let feature_defaults ← packOrRaise (Struct.pack .I cfg.feature_defaults)
  return version ++ (name ++ (links ++ (geometry ++ (legs ++ (servos ++ (gait ++ (channels ++ (body ++
    (feet ++ feature_defaults)))))))))

end HexapodVerified.Host
