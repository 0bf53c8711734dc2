import Mathlib.Analysis.Real.Sqrt
import HexapodVerified.Host.RobotConfig
import HexapodVerified.Lib.Checks

/-!
# Validation on the host

`validate_robot_config` of `hexapod_protocol/config.py`: the messages about a configuration that a
calibration tool is about to stage. The reach test is computed in exact arithmetic.
-/

namespace HexapodVerified.Host

open Checks

abbrev RC_FILTER_TAU_MAX_MS : Int := 1000
abbrev RC_SWITCH_DEBOUNCE_MAX_MS : Int := 2000
abbrev BODY_COMMAND_MAX_SCALE_MILLI : Int := 1000
abbrev BODY_COMMAND_MAX_ACCEL_MILLI_PER_S : Int := 5000
abbrev BODY_HEIGHT_RATE_MAX_MM_PER_S : Int := 200
abbrev BODY_POSE_TRANSLATION_RATE_MAX_MM_PER_S : Int := 200
abbrev BODY_POSE_ROTATION_RATE_MAX_MILLIRAD_PER_S : Int := 2000

/-- The keys of `GAIT_NAMES`. -/
def gaitIds : List Int := [0, 1, 2, 3, 4, 5]

/-- The feature bits that the validator knows: foot contact, terrain leveling, sensor polling, the passive
pose stream and Jetson control. -/
def knownFeatures : Nat := 1 <<< 0 ||| 1 <<< 1 ||| 1 <<< 2 ||| 1 <<< 3 ||| 1 <<< 4

/-- `len(robot_name.encode("ascii", errors="ignore"))`. -/
def asciiLength (robot_name : String) : Nat := (robot_name.toList.filter fun c => c.toNat < 128).length

/-! ## Reach -/

/-- The home stance lies between the shortest and the longest reach of femur and tibia; the lengths are
exact, and `math.hypot` is the real square root. -/
def HomeReachable (links : LinkLengths) (geometry : BodyGeometry) : Prop :=
  let coxa_mm : ℚ := links.coxa_cmm / 100
  let femur_mm : ℚ := links.femur_cmm / 100
  let tibia_mm : ℚ := links.tibia_cmm / 100
  let home_radius_mm : ℚ := geometry.home_radius_cmm / 100
  let home_z_mm : ℚ := geometry.home_foot_z_cmm / 100
  let home_distance_mm : ℝ := √((home_radius_mm - coxa_mm) ^ 2 + home_z_mm ^ 2 : ℚ)
  (|femur_mm - tibia_mm| : ℚ) ≤ home_distance_mm ∧ home_distance_mm ≤ (femur_mm + tibia_mm : ℚ)

theorem homeReachable_iff (links : LinkLengths) (geometry : BodyGeometry) :
    HomeReachable links geometry ↔
      (links.femur_cmm - links.tibia_cmm) ^ 2 ≤
          (geometry.home_radius_cmm - links.coxa_cmm) ^ 2 + geometry.home_foot_z_cmm ^ 2 ∧
        0 ≤ links.femur_cmm + links.tibia_cmm ∧
        (geometry.home_radius_cmm - links.coxa_cmm) ^ 2 + geometry.home_foot_z_cmm ^ 2 ≤
          (links.femur_cmm + links.tibia_cmm) ^ 2 := by
  have hsq (x y : Int) : ((x : ℚ) / 100 - (y : ℚ) / 100) ^ 2 = ((x - y) ^ 2 : Int) / 10000 := by
    push_cast
    ring
  have hz (x : Int) : ((x : ℚ) / 100) ^ 2 = (x ^ 2 : Int) / 10000 := by
    push_cast
    ring
  have hadd (x y : Int) : (x : ℚ) / 100 + (y : ℚ) / 100 = (x + y : Int) / 100 := by
    push_cast
    ring
  unfold HomeReachable
  dsimp only
  rw [Real.le_sqrt (Rat.cast_nonneg.mpr (abs_nonneg _)), Real.sqrt_le_iff, ← Rat.cast_pow, ← Rat.cast_pow,
    Rat.cast_le, Rat.cast_le, Rat.cast_nonneg, sq_abs, hsq, hsq, hz, hadd, hz, ← add_div,
    div_le_div_iff_of_pos_right (by norm_num), div_le_div_iff_of_pos_right (by norm_num),
    le_div_iff₀ (by norm_num : (0 : ℚ) < 100), zero_mul]
  · norm_cast
  · exact Rat.cast_nonneg.mpr (add_nonneg (sq_nonneg _) (sq_nonneg _))

instance (links : LinkLengths) (geometry : BodyGeometry) : Decidable (HomeReachable links geometry) :=
  decidable_of_iff' _ (homeReachable_iff links geometry)

/-! ## The checks, block by block -/

def linkErrors (links : LinkLengths) : List String :=
  rangeErrors 1 0xFFFF (fun name => s!"{name} must be within 1..65535 centi-mm")
    [("coxa link", links.coxa_cmm), ("femur link", links.femur_cmm), ("tibia link", links.tibia_cmm)]

def geometryErrors (links : LinkLengths) (geometry : BodyGeometry) : List String :=
  errorIf (¬ (1 ≤ geometry.home_radius_cmm ∧ geometry.home_radius_cmm ≤ 0xFFFF))
      "home radius must be within 1..65535 centi-mm" ++
    errorIf (¬ (-0x8000 ≤ geometry.home_foot_z_cmm ∧ geometry.home_foot_z_cmm ≤ 0x7FFF))
      "home foot z is outside the signed centi-mm range" ++
    errorIf (¬ (0 ≤ geometry.coxa_lift_cmm ∧ geometry.coxa_lift_cmm ≤ 0xFFFF))
      "coxa lift is outside the unsigned centi-mm range" ++
    errorIf ((∀ value ∈ [links.coxa_cmm, links.femur_cmm, links.tibia_cmm, geometry.home_radius_cmm],
        0 < value ∧ value ≤ 0xFFFF) ∧ ¬ HomeReachable links geometry)
      "home stance is outside the two-link reach envelope"

def legErrors (index : Nat) (leg : LegGeometry) : List String :=
  rangeErrors (-0x8000) 0x7FFF (fun name => s!"leg {index} {name} is outside the signed range")
    [("mount x", leg.mount_x_dmm), ("mount y", leg.mount_y_dmm), ("mount z", leg.mount_z_dmm),
     ("mount yaw", leg.mount_yaw_cdeg)]

def gaitErrors (gait : GaitDefaults) : List String :=
  errorIf (gait.gait ∉ gaitIds) s!"gait {gait.gait} is unknown" ++
    errorIf (¬ (40 ≤ gait.body_height_mm ∧ gait.body_height_mm ≤ 160))
      "body height must be within 40..160 mm" ++
    errorIf (¬ (0 ≤ gait.stride_len_mm ∧ gait.stride_len_mm ≤ 80))
      "stride length must be within 0..80 mm" ++
    errorIf (¬ (0 ≤ gait.step_height_mm ∧ gait.step_height_mm ≤ 50))
      "step height must be within 0..50 mm"

def featureErrors (feature_defaults : Int) : List String :=
  if ¬ (0 ≤ feature_defaults ∧ feature_defaults ≤ 0xFFFFFFFF) then
    ["feature defaults are outside the unsigned 32-bit range"]
  else errorIf (feature_defaults.toNat.ldiff knownFeatures ≠ 0) "feature defaults include unknown bits"

def expectedRcType (source : Int) : Int :=
  if source - 1 < 4 then RC_CENTERED_ANALOG
  else if source - 1 < 6 then RC_UNIPOLAR_ANALOG
  else RC_RELATIVE_ENCODER

def rcChannelErrors (index : Nat) (channel : RcChannelCalibration) : List String :=
  errorIf (channel.type ≠ expectedRcType channel.source)
      s!"RC channel {index} has an incompatible type" ++
    errorIf (channel.min_raw ≥ channel.max_raw) s!"RC channel {index} minimum must be below maximum" ++
    errorIf (¬ (channel.min_raw ≤ channel.center_raw ∧ channel.center_raw ≤ channel.max_raw))
      s!"RC channel {index} center is outside its range" ++
    errorIf (channel.type = RC_CENTERED_ANALOG ∧
        channel.center_raw ∈ [channel.min_raw, channel.max_raw])
      s!"RC channel {index} centered range is degenerate" ++
    errorIf (channel.reversed ∉ [0, 1]) s!"RC channel {index} reverse must be 0 or 1" ++
    errorIf (¬ (0 ≤ channel.deadband_x255 ∧ channel.deadband_x255 ≤ 128))
      s!"RC channel {index} deadband exceeds the safe range" ++
    errorIf (¬ (0 ≤ channel.expo_x255 ∧ channel.expo_x255 ≤ 255))
      s!"RC channel {index} expo is outside 0..255" ++
    errorIf (¬ (0 ≤ channel.filter_tau_ms ∧ channel.filter_tau_ms ≤ RC_FILTER_TAU_MAX_MS))
      s!"RC channel {index} filter tau exceeds the safe range" ++
    errorIf (¬ (0 ≤ channel.switch_debounce_ms ∧
        channel.switch_debounce_ms ≤ RC_SWITCH_DEBOUNCE_MAX_MS))
      s!"RC channel {index} switch debounce exceeds the safe range"

def expectedSources : Finset Int :=
  (Finset.range NUM_RC_ANALOG_INPUTS).image fun index : Nat => (index : Int) + 1

/-- The loop over the RC channels; `sources` are those met so far. -/
def rcInputErrors : Finset Int → Nat → List RcChannelCalibration → List String
  | sources, _, [] => errorIf (sources ≠ expectedSources)
      "RC calibration must cover each logical source exactly once"
  | sources, index, channel :: rest =>
    (if ¬ (1 ≤ channel.source ∧ channel.source ≤ NUM_RC_ANALOG_INPUTS) then
        [s!"RC channel {index} source is outside 1..{NUM_RC_ANALOG_INPUTS}"]
      else errorIf (channel.source ∈ sources) s!"RC source {channel.source} is duplicated") ++
      rcChannelErrors index channel ++
      rcInputErrors (insert channel.source sources) (index + 1) rest

def bodyCommandErrors (body : BodyCommandLimits) : List String :=
  rangeErrors 1 BODY_COMMAND_MAX_SCALE_MILLI
      (fun name => s!"{name} must be within 1..{BODY_COMMAND_MAX_SCALE_MILLI}")
      [("max forward", body.max_forward_milli), ("max reverse", body.max_reverse_milli),
       ("max lateral", body.max_lateral_milli), ("max yaw", body.max_yaw_milli)] ++
    rangeErrors 1 BODY_COMMAND_MAX_ACCEL_MILLI_PER_S
      (fun name => s!"{name} must be within 1..{BODY_COMMAND_MAX_ACCEL_MILLI_PER_S}")
      [("forward acceleration", body.forward_accel_milli_per_s),
       ("forward deceleration", body.forward_decel_milli_per_s),
       ("lateral acceleration", body.lateral_accel_milli_per_s),
       ("lateral deceleration", body.lateral_decel_milli_per_s),
       ("yaw acceleration", body.yaw_accel_milli_per_s),
       ("yaw deceleration", body.yaw_decel_milli_per_s)] ++
    errorIf (¬ (1 ≤ body.height_rise_mm_per_s ∧
        body.height_rise_mm_per_s ≤ BODY_HEIGHT_RATE_MAX_MM_PER_S))
      "height rise rate is outside the safe range" ++
    errorIf (¬ (1 ≤ body.height_lower_mm_per_s ∧
        body.height_lower_mm_per_s ≤ BODY_HEIGHT_RATE_MAX_MM_PER_S))
      "height lower rate is outside the safe range" ++
    errorIf (¬ (1 ≤ body.pose_translation_rate_mm_per_s ∧
        body.pose_translation_rate_mm_per_s ≤ BODY_POSE_TRANSLATION_RATE_MAX_MM_PER_S))
      "pose translation rate is outside the safe range" ++
    errorIf (¬ (1 ≤ body.pose_rotation_rate_millirad_per_s ∧
        body.pose_rotation_rate_millirad_per_s ≤ BODY_POSE_ROTATION_RATE_MAX_MILLIRAD_PER_S))
      "pose rotation rate is outside the safe range"

/-- The checks on one servo, with the ids and the slots met so far. -/
def servoErrors (servo_ids : Finset Int) (joint_slots : Finset (Int × Int)) (index : Nat)
    (servo : ServoConfig) : List String :=
  (if ¬ (1 ≤ servo.id ∧ servo.id ≤ 253) then [s!"servo {index} id must be within 1..253"]
    else errorIf (servo.id ∈ servo_ids) s!"servo id {servo.id} is duplicated") ++
    errorIf (¬ (0 ≤ servo.leg ∧ servo.leg < NUM_LEGS))
      s!"servo {index} leg must be within 0..{NUM_LEGS - 1}" ++
    errorIf (¬ (0 ≤ servo.joint ∧ servo.joint < JOINTS_PER_LEG))
      s!"servo {index} joint must be within 0..{JOINTS_PER_LEG - 1}" ++
    errorIf ((servo.leg, servo.joint) ∈ joint_slots)
      s!"servo slot leg {servo.leg}, joint {servo.joint} is duplicated" ++
    errorIf (servo.sign ∉ [-1, 1]) s!"servo {index} sign must be +1 or -1" ++
    errorIf (¬ (-0x8000 ≤ servo.trim_ticks ∧ servo.trim_ticks ≤ 0x7FFF))
      s!"servo {index} trim is outside the signed tick range" ++
    errorIf (¬ (0 ≤ servo.min_tick ∧ servo.min_tick ≤ SERVO_MAX_TICK))
      s!"servo {index} min tick is outside 0..{SERVO_MAX_TICK}" ++
    errorIf (¬ (0 ≤ servo.max_tick ∧ servo.max_tick ≤ SERVO_MAX_TICK))
      s!"servo {index} max tick is outside 0..{SERVO_MAX_TICK}" ++
    errorIf (servo.min_tick ≥ servo.max_tick) s!"servo {index} min tick must be less than max tick"

def expectedSlots : Finset (Int × Int) :=
  (Finset.range NUM_LEGS ×ˢ Finset.range JOINTS_PER_LEG).image fun slot : Nat × Nat =>
    ((slot.1 : Int), (slot.2 : Int))

def servoMapErrors : Finset Int → Finset (Int × Int) → Nat → List ServoConfig → List String
  | _, joint_slots, _, [] => errorIf (joint_slots ≠ expectedSlots)
      "servo map must cover every leg and joint exactly once"
  | servo_ids, joint_slots, index, servo :: rest =>
    servoErrors servo_ids joint_slots index servo ++
      servoMapErrors (insert servo.id servo_ids) (insert (servo.leg, servo.joint) joint_slots)
        (index + 1) rest

def footErrors (index : Nat) (foot : FootSensorCal) : List String :=
  errorIf (¬ (-0x80000000 ≤ foot.pressure_baseline ∧ foot.pressure_baseline ≤ 0x7FFFFFFF))
      s!"foot {index} baseline is outside the signed 32-bit range" ++
    rangeErrors 0 0xFFFF (fun name => s!"foot {index} {name} is outside the unsigned range")
      [("near threshold", foot.near_thresh), ("touch threshold", foot.touch_thresh),
       ("load threshold", foot.load_thresh)] ++
    if foot.enabled ≠ 0 then
      errorIf (foot.near_thresh = 0 ∨ foot.touch_thresh = 0 ∨ foot.load_thresh = 0)
          s!"foot {index} enabled calibration needs nonzero thresholds" ++
        errorIf (foot.load_thresh < foot.touch_thresh)
          s!"foot {index} load threshold must be at least touch"
    else []

/-- `validate_robot_config`. -/
def validateRobotConfig (config : RobotConfig) : List String :=
  errorIf (config.schema_version ≠ SCHEMA_VERSION)
      s!"schema version {config.schema_version} is not {SCHEMA_VERSION}" ++
    errorIf (asciiLength config.robot_name ≥ ROBOT_NAME_LEN)
      s!"robot name must fit within {ROBOT_NAME_LEN - 1} ASCII bytes" ++
    linkErrors config.links ++
    geometryErrors config.links config.geometry ++
    errorIf (config.legs.length ≠ NUM_LEGS) s!"expected {NUM_LEGS} leg geometry records" ++
    enumErrors legErrors 0 config.legs ++
    gaitErrors config.gait ++
    featureErrors config.feature_defaults ++
    errorIf (config.rc_input.channels.length ≠ NUM_RC_ANALOG_INPUTS)
      s!"expected {NUM_RC_ANALOG_INPUTS} RC calibration records" ++
    rcInputErrors ∅ 0 config.rc_input.channels ++
    bodyCommandErrors config.body_command ++
    errorIf (config.servos.length ≠ NUM_SERVOS)
      s!"expected {NUM_SERVOS} servo calibration records" ++
    servoMapErrors ∅ ∅ 0 config.servos ++
    errorIf (config.feet.length ≠ NUM_FOOT_SENSORS)
      s!"expected {NUM_FOOT_SENSORS} foot sensor calibration records" ++
    enumErrors footErrors 0 config.feet

end HexapodVerified.Host
