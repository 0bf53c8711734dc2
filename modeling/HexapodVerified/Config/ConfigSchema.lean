import Mathlib.Data.List.FinRange

/-!
# The persistent robot configuration

`config/config_schema.h` and the defaults and validation of `config/config_schema.cpp`. The C arrays
of the schema have compile-time sizes, which the vectors here keep.
-/

namespace HexapodVerified.Config

abbrev kNumLegs : Nat := 6
abbrev kJointsPerLeg : Nat := 3
abbrev kNumServos : Nat := 18
abbrev kNumFootSensors : Nat := 6
abbrev kNumRcAnalogInputs : Nat := 8
abbrev kRobotNameLen : Nat := 16
abbrev kConfigPayloadSize : Nat :=
  2 + kRobotNameLen + 3 * 2 + (2 + 2 + 2) + kNumLegs * (4 * 2) +
    kNumServos * (1 + 1 + 1 + 1 + 2 + 2 + 2) + (2 + 2 + 2 + 1 + 1 + 1) +
    kNumRcAnalogInputs * (1 + 1 + 2 + 2 + 2 + 1 + 1 + 1 + 2 + 2) + 14 * 2 +
    kNumFootSensors * (4 + 2 + 2 + 2 + 1) + 4
abbrev kSchemaVersion : UInt16 := 9
abbrev kServoCenterTick : UInt16 := 2048
abbrev kServoMaxTick : UInt16 := 4095

abbrev kMaxGaitStrideMm : UInt16 := 80
abbrev kMaxGaitStepMm : UInt16 := 50
abbrev kMinGaitBodyHeightMm : UInt16 := 40
abbrev kMaxGaitBodyHeightMm : UInt16 := 160
abbrev kRcFilterTauMaxMs : UInt16 := 1000
abbrev kRcSwitchDebounceMaxMs : UInt16 := 2000
abbrev kBodyCommandMaxScaleMilli : UInt16 := 1000
abbrev kBodyCommandMaxAccelMilliPerS : UInt16 := 5000
abbrev kBodyHeightRateMaxMmPerS : UInt16 := 200
abbrev kBodyPoseTranslationRateMaxMmPerS : UInt16 := 200
abbrev kBodyPoseRotationRateMaxMilliRadPerS : UInt16 := 2000

abbrev kFeatFootContact : UInt32 := (1 : UInt32) <<< 0
abbrev kFeatTerrainLeveling : UInt32 := (1 : UInt32) <<< 1
abbrev kFeatSensorPolling : UInt32 := (1 : UInt32) <<< 2
abbrev kFeatPassivePoseStream : UInt32 := (1 : UInt32) <<< 3
abbrev kFeatJetsonControl : UInt32 := (1 : UInt32) <<< 4

/-- `kKnownFeatureBits`: the five feature bits. -/
abbrev kKnownFeatureBits : UInt32 := 0x1F
/-- `kFeatureDefaultMask`: sensor polling. -/
abbrev kFeatureDefaultMask : UInt32 := 0x04

inductive GaitId where
  | stand | sit | tripod | ripple | wave | crawl
  deriving DecidableEq, Repr

def GaitId.wire : GaitId → UInt8
  | .stand => 0
  | .sit => 1
  | .tripod => 2
  | .ripple => 3
  | .wave => 4
  | .crawl => 5

/-- `RcChannelType`, as the wire values the schema stores. -/
abbrev rcCenteredAnalog : UInt8 := 0
abbrev rcUnipolarAnalog : UInt8 := 1
abbrev rcRelativeEncoder : UInt8 := 2

structure LegGeometry where
  mount_x_dmm : Int16 := 0
  mount_y_dmm : Int16 := 0
  mount_z_dmm : Int16 := 0
  mount_yaw_cdeg : Int16 := 0
  deriving DecidableEq, Repr

structure LinkLengths where
  coxa_cmm : UInt16 := 0
  femur_cmm : UInt16 := 0
  tibia_cmm : UInt16 := 0
  deriving DecidableEq, Repr

structure BodyGeometry where
  home_radius_cmm : UInt16 := 0
  home_foot_z_cmm : Int16 := 0
  coxa_lift_cmm : UInt16 := 0
  deriving DecidableEq, Repr

/-- `ServoConfig`: one servo's slot, direction, trim and travel window. -/
structure ServoConfig where
  id : UInt8 := 0
  leg : UInt8 := 0
  joint : UInt8 := 0
  sign : Int8 := 1
  trim_ticks : Int16 := 0
  min_tick : UInt16 := 0
  max_tick : UInt16 := kServoMaxTick
  deriving DecidableEq, Repr

structure GaitDefaults where
  body_height_mm : UInt16 := 0
  stride_len_mm : UInt16 := 0
  step_height_mm : UInt16 := 0
  duty_x255 : UInt8 := 0
  speed_x255 : UInt8 := 0
  gait : UInt8 := 0
  deriving DecidableEq, Repr

structure RcChannelCalibration where
  source : UInt8 := 0
  type : UInt8 := rcCenteredAnalog
  min_raw : Int16 := 0
  center_raw : Int16 := 0
  max_raw : Int16 := 0
  reversed : UInt8 := 0
  deadband_x255 : UInt8 := 0
  expo_x255 : UInt8 := 0
  filter_tau_ms : UInt16 := 0
  switch_debounce_ms : UInt16 := 0
  deriving DecidableEq, Repr

structure RcInputCalibration where
  channels : Vector RcChannelCalibration kNumRcAnalogInputs := .replicate _ {}
  deriving DecidableEq, Repr

structure BodyCommandLimits where
  max_forward_milli : UInt16 := 1000
  max_reverse_milli : UInt16 := 1000
  max_lateral_milli : UInt16 := 1000
  max_yaw_milli : UInt16 := 1000
  forward_accel_milli_per_s : UInt16 := 1200
  forward_decel_milli_per_s : UInt16 := 1800
  lateral_accel_milli_per_s : UInt16 := 1000
  lateral_decel_milli_per_s : UInt16 := 1500
  yaw_accel_milli_per_s : UInt16 := 1500
  yaw_decel_milli_per_s : UInt16 := 2000
  height_rise_mm_per_s : UInt16 := 20
  height_lower_mm_per_s : UInt16 := 30
  pose_translation_rate_mm_per_s : UInt16 := 60
  pose_rotation_rate_millirad_per_s : UInt16 := 500
  deriving DecidableEq, Repr

structure FootSensorCal where
  pressure_baseline : Int32 := 0
  near_thresh : UInt16 := 0
  touch_thresh : UInt16 := 0
  load_thresh : UInt16 := 0
  enabled : UInt8 := 0
  deriving DecidableEq, Repr

/-- `RobotConfig`: the configuration the firmware keeps in RAM. -/
structure RobotConfig where
  schema_version : UInt16 := kSchemaVersion
  robot_name : Vector UInt8 kRobotNameLen := .replicate _ 0
  links : LinkLengths := {}
  geometry : BodyGeometry := {}
  legs : Vector LegGeometry kNumLegs := .replicate _ {}
  servos : Vector ServoConfig kNumServos := .replicate _ {}
  gait : GaitDefaults := {}
  rc_input : RcInputCalibration := {}
  body_command : BodyCommandLimits := {}
  feet : Vector FootSensorCal kNumFootSensors := .replicate _ {}
  feature_defaults : UInt32 := 0
  deriving DecidableEq, Repr

/-! ## Defaults -/

/-- `kLegSeeds`: the coxa mounts measured on the CAD model. -/
def kLegSeeds : Vector LegGeometry kNumLegs := #v[
  { mount_x_dmm := -656, mount_y_dmm := -1156, mount_z_dmm := 0, mount_yaw_cdeg := 13500 },
  { mount_x_dmm := 656, mount_y_dmm := -1156, mount_z_dmm := 0, mount_yaw_cdeg := -13500 },
  { mount_x_dmm := 698, mount_y_dmm := 0, mount_z_dmm := 0, mount_yaw_cdeg := -9000 },
  { mount_x_dmm := 656, mount_y_dmm := 1156, mount_z_dmm := 0, mount_yaw_cdeg := -4500 },
  { mount_x_dmm := -656, mount_y_dmm := 1156, mount_z_dmm := 0, mount_yaw_cdeg := 4500 },
  { mount_x_dmm := -698, mount_y_dmm := 0, mount_z_dmm := 0, mount_yaw_cdeg := 9000 }]

def applyRobotKinematicsProfile (cfg : RobotConfig) : RobotConfig :=
  { cfg with
    links := { coxa_cmm := 5200, femur_cmm := 6651, tibia_cmm := 11716 }
    geometry := { home_radius_cmm := 12675, home_foot_z_cmm := -13173, coxa_lift_cmm := 0 }
    legs := kLegSeeds
    gait := { body_height_mm := 132, stride_len_mm := 60, step_height_mm := 30, duty_x255 := 159,
              speed_x255 := 128, gait := GaitId.stand.wire } }

/-- `applyRobotMotionProfile`: the kinematics and the sequential servo map. -/
def applyRobotMotionProfile (cfg : RobotConfig) : RobotConfig :=
  { applyRobotKinematicsProfile cfg with
    servos := .ofFn fun slot =>
      { id := UInt8.ofNat (slot + 1), leg := UInt8.ofNat (slot / kJointsPerLeg),
        joint := UInt8.ofNat (slot % kJointsPerLeg), sign := 1, trim_ticks := 0,
        min_tick := 1024, max_tick := 3072 } }

def defaultRcInputCalibration : RcInputCalibration where
  channels := .ofFn fun index =>
    let source := UInt8.ofNat (index + 1)
    if index.val < 4 then
      { source, type := rcCenteredAnalog, min_raw := -1000, center_raw := 0, max_raw := 1000,
        deadband_x255 := 13, filter_tau_ms := 60 }
    else if index.val < 6 then
      { source, type := rcUnipolarAnalog, min_raw := 0, center_raw := 0, max_raw := 1000,
        filter_tau_ms := 120 }
    else { source, type := rcRelativeEncoder, min_raw := 0, center_raw := 0, max_raw := 2047 }

def defaultBodyCommandLimits : BodyCommandLimits := {}

/-- The compiled robot name, `"HexNav"` padded with zeros. -/
def defaultRobotName : Vector UInt8 kRobotNameLen :=
  #v[72, 101, 120, 78, 97, 118, 0, 0, 0, 0, 0, 0, 0, 0, 0, 0]

/-- `defaultRobotConfig`: the compiled safe fallback. -/
def defaultRobotConfig : RobotConfig :=
  { applyRobotMotionProfile { robot_name := defaultRobotName } with
    rc_input := defaultRcInputCalibration
    body_command := defaultBodyCommandLimits
    feature_defaults := kFeatureDefaultMask }

/-! ## Validation -/

/-- One channel's checks in `validateRcInputCalibration`, after its source was looked at. -/
def validateRcChannel (c : RcChannelCalibration) : Bool :=
  let source_index := c.source - 1
  if c.type > rcRelativeEncoder || c.reversed > 1 || c.deadband_x255 > 128 ||
      c.filter_tau_ms > kRcFilterTauMaxMs || c.switch_debounce_ms > kRcSwitchDebounceMaxMs ||
      c.min_raw ≥ c.max_raw || c.center_raw < c.min_raw || c.center_raw > c.max_raw then false
  else if source_index < 4 && c.type != rcCenteredAnalog then false
  else if source_index ≥ 4 && source_index < 6 && c.type != rcUnipolarAnalog then false
  else if source_index ≥ 6 && c.type != rcRelativeEncoder then false
  else if c.type == rcCenteredAnalog && (c.center_raw == c.min_raw || c.center_raw == c.max_raw)
  then false
  else true

/-- The loop of `validateRcInputCalibration`; `source_seen` are the sources met so far. -/
def validateRcChannels : List UInt8 → List RcChannelCalibration → Bool
  | _, [] => true
  | source_seen, c :: rest =>
    if c.source == 0 || c.source > 8 then false
    else if source_seen.contains c.source then false
    else validateRcChannel c && validateRcChannels (c.source :: source_seen) rest

def validateRcInputCalibration (calibration : RcInputCalibration) : Bool :=
  validateRcChannels [] calibration.channels.toList

def validateBodyCommandLimits (limits : BodyCommandLimits) : Bool :=
  let scales := [limits.max_forward_milli, limits.max_reverse_milli, limits.max_lateral_milli,
    limits.max_yaw_milli]
  let accel_limits := [limits.forward_accel_milli_per_s, limits.forward_decel_milli_per_s,
    limits.lateral_accel_milli_per_s, limits.lateral_decel_milli_per_s,
    limits.yaw_accel_milli_per_s, limits.yaw_decel_milli_per_s]
  scales.all (fun v => 0 < v && v ≤ kBodyCommandMaxScaleMilli) &&
    accel_limits.all (fun v => 0 < v && v ≤ kBodyCommandMaxAccelMilliPerS) &&
    0 < limits.height_rise_mm_per_s && limits.height_rise_mm_per_s ≤ kBodyHeightRateMaxMmPerS &&
    0 < limits.height_lower_mm_per_s && limits.height_lower_mm_per_s ≤ kBodyHeightRateMaxMmPerS &&
    0 < limits.pose_translation_rate_mm_per_s &&
    limits.pose_translation_rate_mm_per_s ≤ kBodyPoseTranslationRateMaxMmPerS &&
    0 < limits.pose_rotation_rate_millirad_per_s &&
    limits.pose_rotation_rate_millirad_per_s ≤ kBodyPoseRotationRateMaxMilliRadPerS

/-- The home stance lies in the annulus the femur and tibia can reach. The source computes in
`int64_t`, where nothing overflows. -/
def homeReachable (cfg : RobotConfig) : Bool :=
  let home_planar_cmm : Int := cfg.geometry.home_radius_cmm.toNat - cfg.links.coxa_cmm.toNat
  let home_z_cmm : Int := cfg.geometry.home_foot_z_cmm.toInt
  let home_distance_sq := home_planar_cmm * home_planar_cmm + home_z_cmm * home_z_cmm
  let reach_min_cmm : Int := (cfg.links.femur_cmm.toNat - cfg.links.tibia_cmm.toNat : Int).natAbs
  let reach_max_cmm : Int := cfg.links.femur_cmm.toNat + cfg.links.tibia_cmm.toNat
  !(home_distance_sq < reach_min_cmm * reach_min_cmm ||
    home_distance_sq > reach_max_cmm * reach_max_cmm)

/-- One servo's own checks in `validateRobotConfig`. -/
def validateServo (s : ServoConfig) : Bool :=
  !(s.id == 0 || s.id > 253 || s.leg ≥ 6 || s.joint ≥ 3 || (s.sign != 1 && s.sign != -1) ||
    s.min_tick ≥ s.max_tick || s.max_tick > kServoMaxTick)

/-- The servo loop of `validateRobotConfig`; `seen` are the servos met so far. It ends with the
check that every slot has been covered. -/
def validateServos : List ServoConfig → List ServoConfig → Bool
  | seen, [] => (List.range kNumLegs).all fun leg => (List.range kJointsPerLeg).all fun joint =>
      seen.any fun s => s.leg.toNat == leg && s.joint.toNat == joint
  | seen, s :: rest =>
    if !validateServo s then false
    else if seen.any (fun t => t.leg == s.leg && t.joint == s.joint) then false
    else if seen.any (fun t => t.id == s.id) then false
    else validateServos (s :: seen) rest

/-- One foot's checks in `validateRobotConfig`. -/
def validateFoot (c : FootSensorCal) : Bool :=
  if c.enabled == 0 then true
  else if c.near_thresh == 0 || c.touch_thresh == 0 || c.load_thresh == 0 then false
  else !(c.load_thresh < c.touch_thresh)

def validateRobotConfig (cfg : RobotConfig) : Bool :=
  if cfg.schema_version != kSchemaVersion then false
  else if cfg.links.coxa_cmm == 0 || cfg.links.femur_cmm == 0 || cfg.links.tibia_cmm == 0 then false
  else if cfg.geometry.home_radius_cmm == 0 then false
  else if !homeReachable cfg then false
  else if cfg.gait.gait > GaitId.crawl.wire then false
  else if cfg.gait.body_height_mm < kMinGaitBodyHeightMm ||
      cfg.gait.body_height_mm > kMaxGaitBodyHeightMm then false
  else if cfg.gait.stride_len_mm > kMaxGaitStrideMm then false
  else if cfg.gait.step_height_mm > kMaxGaitStepMm then false
  else if !validateRcInputCalibration cfg.rc_input then false
  else if !validateBodyCommandLimits cfg.body_command then false
  else if cfg.feature_defaults &&& ~~~kKnownFeatureBits != 0 then false
  else if !validateServos [] cfg.servos.toList then false
  else cfg.feet.toList.all validateFoot

theorem validate_defaultRobotConfig : validateRobotConfig defaultRobotConfig = true := by
  decide

end HexapodVerified.Config
