import HexapodVerified.Config.ConfigCodec

/-!
# The payload and its older versions

The field list of the writer and the field list of the reader agree, block by block. The law of the whole
payload says which bytes a version of the schema is made of and what is read from them; both round
trips and the migration follow from it.
-/

namespace HexapodVerified.Config

open Codec

section

variable {bytes rest : List UInt8} {cfg out : RobotConfig} {v3 v4 : Bool}

theorem law_name : Law (fun _ => True) (kRobotNameLen * 1) putName getName :=
  law_u8.vector kRobotNameLen

theorem law_links : Law (fun _ => True) (3 * 2) putLinks getLinks :=
  law_u16.bind LinkLengths.coxa_cmm fun coxa =>
    law_u16.bind LinkLengths.femur_cmm fun femur =>
    law_u16.last LinkLengths.tibia_cmm fun tibia links => by
      cases links
      simp only [LinkLengths.mk.injEq, true_and, and_assoc]

theorem law_geometry : Law (fun _ => True) (2 + 2 + 2) putGeometry getGeometry :=
  law_u16.bind BodyGeometry.home_radius_cmm fun radius =>
    law_i16.bind BodyGeometry.home_foot_z_cmm fun foot_z =>
    law_u16.last BodyGeometry.coxa_lift_cmm fun lift geometry => by
      cases geometry
      simp only [BodyGeometry.mk.injEq, true_and, and_assoc]

theorem law_leg : Law (fun _ => True) (4 * 2) putLeg getLeg :=
  law_i16.bind LegGeometry.mount_x_dmm fun x =>
    law_i16.bind LegGeometry.mount_y_dmm fun y =>
    law_i16.bind LegGeometry.mount_z_dmm fun z =>
    law_i16.last LegGeometry.mount_yaw_cdeg fun yaw leg => by
      cases leg
      simp only [LegGeometry.mk.injEq, true_and, and_assoc]

theorem law_servo : Law (fun _ => True) (1 + 1 + 1 + 1 + 2 + 2 + 2) putServo getServo :=
  law_u8.bind ServoConfig.id fun id =>
    law_u8.bind ServoConfig.leg fun leg =>
    law_u8.bind ServoConfig.joint fun joint =>
    law_i8.bind ServoConfig.sign fun sign =>
    law_i16.bind ServoConfig.trim_ticks fun trim =>
    law_u16.bind ServoConfig.min_tick fun min =>
    law_u16.last ServoConfig.max_tick fun max s => by
      cases s
      simp only [ServoConfig.mk.injEq, true_and, and_assoc]

theorem law_gait : Law (fun _ => True) (2 + 2 + 2 + 1 + 1 + 1) putGait getGait :=
  law_u16.bind GaitDefaults.body_height_mm fun height =>
    law_u16.bind GaitDefaults.stride_len_mm fun stride =>
    law_u16.bind GaitDefaults.step_height_mm fun step =>
    law_u8.bind GaitDefaults.duty_x255 fun duty =>
    law_u8.bind GaitDefaults.speed_x255 fun speed =>
    law_u8.last GaitDefaults.gait fun id gait => by
      cases gait
      simp only [GaitDefaults.mk.injEq, true_and, and_assoc]

theorem law_rcChannel :
    Law (fun _ => True) (1 + 1 + 2 + 2 + 2 + 1 + 1 + 1 + 2 + 2) putRcChannel getRcChannel :=
  law_u8.bind RcChannelCalibration.source fun source =>
    law_u8.bind RcChannelCalibration.type fun type =>
    law_i16.bind RcChannelCalibration.min_raw fun min =>
    law_i16.bind RcChannelCalibration.center_raw fun center =>
    law_i16.bind RcChannelCalibration.max_raw fun max =>
    law_u8.bind RcChannelCalibration.reversed fun reversed =>
    law_u8.bind RcChannelCalibration.deadband_x255 fun deadband =>
    law_u8.bind RcChannelCalibration.expo_x255 fun expo =>
    law_u16.bind RcChannelCalibration.filter_tau_ms fun tau =>
    law_u16.last RcChannelCalibration.switch_debounce_ms fun debounce c => by
      cases c
      simp only [RcChannelCalibration.mk.injEq, true_and, and_assoc]

theorem law_rcInput :
    Law (fun _ => True) (kNumRcAnalogInputs * (1 + 1 + 2 + 2 + 2 + 1 + 1 + 1 + 2 + 2)) putRcInput
      getRcInput :=
  (law_rcChannel.vector kNumRcAnalogInputs).last RcInputCalibration.channels
    fun channels calibration => by
      cases calibration
      simp only [RcInputCalibration.mk.injEq, true_and]

theorem law_bodyCommand : Law (fun _ => True) (14 * 2) putBodyCommand getBodyCommand :=
  law_u16.bind BodyCommandLimits.max_forward_milli fun forward =>
    law_u16.bind BodyCommandLimits.max_reverse_milli fun reverse =>
    law_u16.bind BodyCommandLimits.max_lateral_milli fun lateral =>
    law_u16.bind BodyCommandLimits.max_yaw_milli fun yaw =>
    law_u16.bind BodyCommandLimits.forward_accel_milli_per_s fun forward_accel =>
    law_u16.bind BodyCommandLimits.forward_decel_milli_per_s fun forward_decel =>
    law_u16.bind BodyCommandLimits.lateral_accel_milli_per_s fun lateral_accel =>
    law_u16.bind BodyCommandLimits.lateral_decel_milli_per_s fun lateral_decel =>
    law_u16.bind BodyCommandLimits.yaw_accel_milli_per_s fun yaw_accel =>
    law_u16.bind BodyCommandLimits.yaw_decel_milli_per_s fun yaw_decel =>
    law_u16.bind BodyCommandLimits.height_rise_mm_per_s fun rise =>
    law_u16.bind BodyCommandLimits.height_lower_mm_per_s fun lower =>
    law_u16.bind BodyCommandLimits.pose_translation_rate_mm_per_s fun translation =>
    law_u16.last BodyCommandLimits.pose_rotation_rate_millirad_per_s
      fun rotation body => by
        cases body
        simp only [BodyCommandLimits.mk.injEq, true_and, and_assoc]

theorem law_foot : Law (fun _ => True) (4 + 2 + 2 + 2 + 1) putFoot getFoot :=
  law_i32.bind FootSensorCal.pressure_baseline fun baseline =>
    law_u16.bind FootSensorCal.near_thresh fun near =>
    law_u16.bind FootSensorCal.touch_thresh fun touch =>
    law_u16.bind FootSensorCal.load_thresh fun load =>
    law_u8.last FootSensorCal.enabled fun enabled foot => by
      cases foot
      simp only [FootSensorCal.mk.injEq, true_and, and_assoc]

/-- A block that a version of the schema does not have: nothing is read, the default stands. -/
theorem law_unless {α : Type} {n : Nat} {put : α → List UInt8} {get : Reader α} (default : α)
    (law : Law (fun _ => True) n put get) (absent : Bool) :
    Law (fun a => absent = true → a = default) (if absent then 0 else n)
      (fun a => if absent then [] else put a) (if absent then pure default else get) := by
  cases absent with
  | false =>
    refine ⟨fun {bytes a rest} => ?_, fun _ => law.length trivial, law.total⟩
    exact law.get_eq.trans (and_congr_left' ⟨nofun, fun _ => trivial⟩)
  | true => exact Law.pure fun a => ⟨fun h => h rfl, fun h _ => h⟩

/-- The bytes behind the robot name, in a schema that may lack the RC and the body-command block. -/
def putBlocks (v3 v4 : Bool) (cfg : RobotConfig) : List UInt8 :=
  putLinks cfg.links ++ (putGeometry cfg.geometry ++ (putVector putLeg cfg.legs ++
    (putVector putServo cfg.servos ++ (putGait cfg.gait ++
      ((if v3 then [] else putRcInput cfg.rc_input) ++
        ((if v3 || v4 then [] else putBodyCommand cfg.body_command) ++
          (putVector putFoot cfg.feet ++ Bytes.putU32 cfg.feature_defaults)))))))

def blocksSize (v3 v4 : Bool) : Nat :=
  3 * 2 + ((2 + 2 + 2) + (kNumLegs * (4 * 2) + (kNumServos * (1 + 1 + 1 + 1 + 2 + 2 + 2) +
    ((2 + 2 + 2 + 1 + 1 + 1) +
      ((if v3 then 0 else kNumRcAnalogInputs * (1 + 1 + 2 + 2 + 2 + 1 + 1 + 1 + 2 + 2)) +
        ((if v3 || v4 then 0 else 14 * 2) + (kNumFootSensors * (4 + 2 + 2 + 2 + 1) + 4)))))))

/-- What is known of a configuration before its blocks are read. -/
structure Expected (schema_version : UInt16) (robot_name : Vector UInt8 kRobotNameLen)
    (v3 v4 : Bool) (cfg : RobotConfig) : Prop where
  schema_version : cfg.schema_version = schema_version
  robot_name : cfg.robot_name = robot_name
  rc_input : v3 = true → cfg.rc_input = defaultRcInputCalibration
  body_command : (v3 || v4) = true → cfg.body_command = defaultBodyCommandLimits

theorem law_blocks (schema_version : UInt16) (robot_name : Vector UInt8 kRobotNameLen)
    (v3 v4 : Bool) :
    Law (Expected schema_version robot_name v3 v4) (blocksSize v3 v4) (putBlocks v3 v4)
      (getBlocks schema_version robot_name v3 v4) := by
  refine law_links.bind RobotConfig.links fun links =>
    law_geometry.bind RobotConfig.geometry fun geometry =>
    (law_leg.vector kNumLegs).bind RobotConfig.legs fun legs =>
    (law_servo.vector kNumServos).bind RobotConfig.servos fun servos =>
    law_gait.bind RobotConfig.gait fun gait =>
    (law_unless defaultRcInputCalibration law_rcInput v3).bind_of RobotConfig.rc_input
      (fun cfg hcfg => hcfg.1.1.1.1.1.rc_input) fun rc_input hrc =>
    (law_unless defaultBodyCommandLimits law_bodyCommand (v3 || v4)).bind_of
      RobotConfig.body_command (fun cfg hcfg => hcfg.1.1.1.1.1.1.body_command)
      fun body_command hbody =>
    (law_foot.vector kNumFootSensors).bind RobotConfig.feet fun feet =>
    law_u32.last RobotConfig.feature_defaults fun feature_defaults cfg => ?_
  constructor
  · rintro ⟨⟨⟨⟨⟨⟨⟨⟨⟨hexpected, rfl⟩, rfl⟩, rfl⟩, rfl⟩, rfl⟩, rfl⟩, rfl⟩, rfl⟩, rfl⟩
    rw [← hexpected.schema_version, ← hexpected.robot_name]
  · rintro rfl
    exact ⟨⟨⟨⟨⟨⟨⟨⟨⟨⟨rfl, rfl, hrc, hbody⟩, rfl⟩, rfl⟩, rfl⟩, rfl⟩, rfl⟩, rfl⟩, rfl⟩, rfl⟩, rfl⟩

/-- The versions `deserializeRobotConfig` knows, with the length of their payloads. -/
def schemaSize (version : UInt16) : Option Nat :=
  if version = kLegacySchemaVersionV3 then some kLegacyConfigPayloadSizeV3
  else if version = kLegacySchemaVersionV4 then some kLegacyConfigPayloadSizeV4
  else if version = kLegacySchemaVersionV5 ∨ version = kLegacySchemaVersionV6 ∨
      version = kLegacySchemaVersionV7 ∨ version = kLegacySchemaVersionV8 ∨
      version = kSchemaVersion then some kConfigPayloadSize
  else none

def hasNoRc (version : UInt16) : Bool := version == kLegacySchemaVersionV3

def hasNoBody (version : UInt16) : Bool :=
  version == kLegacySchemaVersionV3 || version == kLegacySchemaVersionV4

/-- A configuration in the layout of a version: today's payload without the blocks that the version does
not have. -/
def schemaPayload (version : UInt16) (cfg : RobotConfig) : List UInt8 :=
  Bytes.putU16 version ++ (putName cfg.robot_name ++
    putBlocks (hasNoRc version) (version == kLegacySchemaVersionV4) cfg)

def readBack (version : UInt16) (cfg : RobotConfig) : RobotConfig :=
  { cfg with
    schema_version := version
    robot_name := terminated cfg.robot_name
    rc_input := if hasNoRc version then defaultRcInputCalibration else cfg.rc_input
    body_command := if hasNoBody version then defaultBodyCommandLimits else cfg.body_command }

def migrate (version : UInt16) (cfg : RobotConfig) : RobotConfig :=
  let cfg :=
    if version = kLegacySchemaVersionV6 ∨ version = kLegacySchemaVersionV7 then
      applyRobotMotionProfile cfg
    else if version = kLegacySchemaVersionV3 ∨ version = kLegacySchemaVersionV4 ∨
        version = kLegacySchemaVersionV5 ∨ version = kLegacySchemaVersionV8 then
      applyRobotKinematicsProfile cfg
    else cfg
  { cfg with schema_version := kSchemaVersion }

theorem migrate_robot_name (version : UInt16) (cfg : RobotConfig) :
    (migrate version cfg).robot_name = cfg.robot_name := by
  unfold migrate
  split_ifs <;> rfl

theorem schemaSize_cases {version : UInt16} {size : Nat} (hsize : schemaSize version = some size) :
    (version = 3 ∧ size = 337) ∨ (version = 4 ∧ size = 457) ∨
      ((version = 5 ∨ version = 6 ∨ version = 7 ∨ version = 8 ∨ version = 9) ∧ size = 485) := by
  unfold schemaSize at hsize
  split_ifs at hsize with h3 h4 h5
  · exact .inl ⟨h3, (Option.some.inj hsize).symm⟩
  · exact .inr (.inl ⟨h4, (Option.some.inj hsize).symm⟩)
  · exact .inr (.inr ⟨h5, (Option.some.inj hsize).symm⟩)

variable {input : List UInt8} {version : UInt16} {size : Nat}

theorem deserialize_eq (hsize : schemaSize version = some size) (hlen : input.length = size)
    (hversion : getU16 input = some (version, rest)) :
    deserializeRobotConfig input =
      match getFields version (hasNoRc version) (version == kLegacySchemaVersionV4) rest with
      | none => none
      | some (out, rest) => if rest.length != 0 then none else some (migrate version out) := by
  have htwo : ¬ input.length < 2 := by
    obtain ⟨-, hsize⟩ | ⟨-, hsize⟩ | ⟨-, hsize⟩ := schemaSize_cases hsize <;> omega
  unfold deserializeRobotConfig
  rw [if_neg htwo, hversion]
  obtain ⟨rfl, rfl⟩ | ⟨rfl, rfl⟩ | ⟨rfl | rfl | rfl | rfl | rfl, rfl⟩ := schemaSize_cases hsize
  all_goals
    rw [hlen]
    rfl

theorem schema_ne {v : UInt16} {n : Nat} (hn : schemaSize v = some n)
    (hsize : schemaSize version ≠ some input.length) :
    (version == v && input.length == n) = false := by
  refine eq_false_of_ne_true fun heq => hsize ?_
  rw [Bool.and_eq_true, beq_iff_eq, beq_iff_eq] at heq
  rw [heq.1, heq.2, hn]

theorem deserialize_none (hversion : getU16 input = some (version, rest))
    (hsize : schemaSize version ≠ some input.length) : deserializeRobotConfig input = none := by
  have hcurrent : (version != kSchemaVersion || input.length != kConfigPayloadSize) = true := by
    rw [bne, bne, ← Bool.not_and, schema_ne rfl hsize, Bool.not_false]
  unfold deserializeRobotConfig
  dsimp only
  split_ifs with hshort
  · rfl
  · rw [hversion]
    dsimp only
    rw [schema_ne (v := kLegacySchemaVersionV3) rfl hsize,
      schema_ne (v := kLegacySchemaVersionV4) rfl hsize,
      schema_ne (v := kLegacySchemaVersionV5) rfl hsize,
      schema_ne (v := kLegacySchemaVersionV6) rfl hsize,
      schema_ne (v := kLegacySchemaVersionV7) rfl hsize,
      schema_ne (v := kLegacySchemaVersionV8) rfl hsize, hcurrent]
    rfl

theorem blocksSize_eq (hsize : schemaSize version = some size) :
    2 + (kRobotNameLen * 1 + blocksSize (hasNoRc version) (version == kLegacySchemaVersionV4)) =
      size := by
  obtain ⟨rfl, rfl⟩ | ⟨rfl, rfl⟩ | ⟨rfl | rfl | rfl | rfl | rfl, rfl⟩ := schemaSize_cases hsize <;> rfl

theorem expected_readBack (cfg : RobotConfig) :
    Expected version (terminated cfg.robot_name) (hasNoRc version)
      (version == kLegacySchemaVersionV4) (readBack version cfg) where
  schema_version := rfl
  robot_name := rfl
  rc_input := fun hrc => if_pos hrc
  body_command := fun hbody => if_pos hbody

theorem putBlocks_readBack (cfg : RobotConfig) :
    putBlocks (hasNoRc version) (version == kLegacySchemaVersionV4) (readBack version cfg) =
      putBlocks (hasNoRc version) (version == kLegacySchemaVersionV4) cfg := by
  have hbody : (hasNoRc version || version == kLegacySchemaVersionV4) = hasNoBody version := rfl
  unfold putBlocks readBack
  rw [hbody]
  cases hasNoRc version <;> cases hasNoBody version <;> rfl

theorem length_schemaPayload (hsize : schemaSize version = some size) (cfg : RobotConfig) :
    (schemaPayload version cfg).length = size := by
  rw [schemaPayload, List.length_append, List.length_append, law_u16.length trivial,
    law_name.length trivial, ← putBlocks_readBack cfg,
    (law_blocks _ _ _ _).length (expected_readBack cfg)]
  exact blocksSize_eq hsize

theorem deserialize_schemaPayload (hsize : schemaSize version = some size) (cfg : RobotConfig) :
    deserializeRobotConfig (schemaPayload version cfg) = some (migrate version (readBack version cfg)) := by
  have hfields : getFields version (hasNoRc version) (version == kLegacySchemaVersionV4)
      (putName cfg.robot_name ++ putBlocks (hasNoRc version) (version == kLegacySchemaVersionV4) cfg) =
      some (readBack version cfg, []) := by
    refine bind_eq_some.mpr ⟨cfg.robot_name, _, law_name.get_put trivial _, ?_⟩
    have hexpected : Expected version (terminated cfg.robot_name) (hasNoRc version)
        (version == kLegacySchemaVersionV4) (readBack version cfg) := expected_readBack cfg
    have hblocks := (law_blocks _ _ _ _).get_put hexpected []
    rwa [List.append_nil, putBlocks_readBack] at hblocks
  rw [deserialize_eq hsize (length_schemaPayload hsize cfg) (law_u16.get_put trivial _), hfields]
  rfl

theorem exists_schemaPayload (hsize : schemaSize version = some size) (hlen : input.length = size)
    (hversion : getU16 input = some (version, rest)) :
    ∃ cfg, input = schemaPayload version cfg ∧ cfg.schema_version = version := by
  obtain ⟨-, rfl⟩ := law_u16.get_eq.mp hversion
  rw [List.length_append, law_u16.length trivial, ← blocksSize_eq hsize] at hlen
  obtain ⟨name, mid, hname⟩ := law_name.total rest (by omega)
  obtain ⟨-, rfl⟩ := law_name.get_eq.mp hname
  rw [List.length_append, law_name.length trivial] at hlen
  obtain ⟨cfg, tail, hblocks⟩ :=
    (law_blocks version name (hasNoRc version) (version == kLegacySchemaVersionV4)).total
      mid (by omega)
  obtain ⟨hexpected, rfl⟩ := (law_blocks _ _ _ _).get_eq.mp hblocks
  rw [List.length_append, (law_blocks _ _ _ _).length hexpected] at hlen
  obtain rfl : tail = [] := List.eq_nil_of_length_eq_zero (by omega)
  refine ⟨cfg, ?_, hexpected.schema_version⟩
  rw [schemaPayload, hexpected.robot_name, List.append_nil]

theorem of_deserialize_eq_some (hout : deserializeRobotConfig input = some out) :
    ∃ version size cfg, schemaSize version = some size ∧ input = schemaPayload version cfg ∧
      cfg.schema_version = version ∧ out = migrate version (readBack version cfg) := by
  have hshort : ¬ input.length < 2 := by
    intro hshort
    unfold deserializeRobotConfig at hout
    rw [if_pos hshort] at hout
    cases hout
  obtain ⟨version, rest, hversion⟩ := law_u16.total input (by omega)
  by_cases hsize : schemaSize version = some input.length
  · obtain ⟨cfg, hinput, hcfg⟩ := exists_schemaPayload hsize rfl hversion
    refine ⟨version, input.length, cfg, hsize, hinput, hcfg, ?_⟩
    have hread := deserialize_schemaPayload hsize cfg
    rw [← hinput, hout] at hread
    exact Option.some.inj hread
  · rw [deserialize_none hversion hsize] at hout
    cases hout

/-- The last byte of the robot name is its terminator. -/
def NameTerminated (cfg : RobotConfig) : Prop := cfg.robot_name.get 15 = 0

instance (cfg : RobotConfig) : Decidable (NameTerminated cfg) :=
  inferInstanceAs (Decidable (_ = _))

theorem get_terminated (robot_name : Vector UInt8 kRobotNameLen) :
    (terminated robot_name).get 15 = 0 :=
  Vector.getElem_setIfInBounds_self (by decide)

theorem terminated_of_get {robot_name : Vector UInt8 kRobotNameLen} (h : robot_name.get 15 = 0) :
    terminated robot_name = robot_name := by
  refine Vector.ext fun i hi => ?_
  by_cases hlast : 15 = i
  · subst hlast
    exact (Vector.getElem_setIfInBounds_self hi).trans h.symm
  · exact Vector.getElem_setIfInBounds_ne hi hlast

theorem payloadOf_eq (hschema : cfg.schema_version = kSchemaVersion) :
    payloadOf cfg = schemaPayload kSchemaVersion cfg := by
  rw [payloadOf, hschema]
  rfl

theorem readBack_current (hschema : cfg.schema_version = kSchemaVersion)
    (hname : NameTerminated cfg) : migrate kSchemaVersion (readBack kSchemaVersion cfg) = cfg := by
  have hread : readBack kSchemaVersion cfg = cfg := by
    obtain ⟨schema_version, robot_name⟩ := cfg
    obtain rfl : schema_version = kSchemaVersion := hschema
    have hterminated : terminated robot_name = robot_name := terminated_of_get hname
    unfold readBack
    rw [hterminated]
    rfl
  rw [hread]
  obtain ⟨schema_version⟩ := cfg
  obtain rfl : schema_version = kSchemaVersion := hschema
  rfl

theorem deserialize_payloadOf (hschema : cfg.schema_version = kSchemaVersion)
    (hname : NameTerminated cfg) : deserializeRobotConfig (payloadOf cfg) = some cfg := by
  rw [payloadOf_eq hschema, deserialize_schemaPayload rfl, readBack_current hschema hname]

/-- The compiled configuration as the store keeps it. -/
abbrev defaultPayload : List UInt8 := payloadOf defaultRobotConfig

theorem serialize_of_le {max_len : Nat} (hcapacity : kConfigPayloadSize ≤ max_len) :
    serializeRobotConfig cfg max_len = payloadOf cfg := if_neg (Nat.not_lt.mpr hcapacity)

theorem getU16_of_length (hlen : 2 ≤ input.length) :
    getU16 input = some (Bytes.getU16 input, input.drop 2) := by
  obtain ⟨lo, hi, rest, rfl⟩ : ∃ lo hi rest, input = lo :: hi :: rest := by
    obtain _ | ⟨lo, _ | ⟨hi, rest⟩⟩ := input
    · exact absurd hlen (Nat.not_succ_le_zero 1)
    · exact absurd hlen (Nat.not_succ_le_self 1)
    · exact ⟨lo, hi, rest, rfl⟩
  rfl

theorem putName_eq (name : Vector UInt8 kRobotNameLen) : putName name = name.toList :=
  List.flatMap_pure_eq_map id _ |>.trans (List.map_id _)

theorem getD_schemaPayload (version : UInt16) (cfg : RobotConfig) :
    (schemaPayload version cfg).getD 17 1 = cfg.robot_name.get 15 := by
  have hlength : (putName cfg.robot_name).length = 16 := law_name.length trivial
  have htwo : (Bytes.putU16 version).length = 2 := Bytes.putU16_length version
  rw [schemaPayload, List.getD_eq_getElem?_getD, List.getElem?_append_right (by omega), htwo,
    List.getElem?_append_left (by omega), putName_eq, Vector.getElem?_toList,
    Vector.getElem?_eq_getElem (by decide)]
  rfl

theorem payloadOf_deserialize {bytes : List UInt8} (hlen : bytes.length = kConfigPayloadSize)
    (hschema : Bytes.getU16 bytes = kSchemaVersion) (hname : bytes.getD 17 1 = 0) :
    ∃ cfg, deserializeRobotConfig bytes = some cfg ∧ payloadOf cfg = bytes := by
  have htwo : 2 ≤ bytes.length := by
    rw [hlen]
    decide
  have hversion := getU16_of_length htwo
  rw [hschema] at hversion
  obtain ⟨cfg, rfl, hcfg⟩ := exists_schemaPayload rfl hlen hversion
  have hterminated : NameTerminated cfg := by
    rwa [getD_schemaPayload] at hname
  rw [← payloadOf_eq hcfg]
  exact ⟨cfg, deserialize_payloadOf hcfg hterminated, rfl⟩

/-- Reading what was written gives the configuration back, and writing what was read gives the bytes
back, for everything that carries the current version and a terminated name. -/
theorem payload_round_trip :
    (∀ (cfg : RobotConfig) (max_len : Nat), cfg.schema_version = kSchemaVersion →
      NameTerminated cfg → kConfigPayloadSize ≤ max_len →
      deserializeRobotConfig (serializeRobotConfig cfg max_len) = some cfg) ∧
    (∀ (bytes : List UInt8) (max_len : Nat), bytes.length = kConfigPayloadSize →
      Bytes.getU16 bytes = kSchemaVersion → bytes.getD 17 1 = 0 → kConfigPayloadSize ≤ max_len →
      ∃ cfg, deserializeRobotConfig bytes = some cfg ∧ serializeRobotConfig cfg max_len = bytes) := by
  constructor
  · intro cfg max_len hschema hname hcapacity
    rw [serialize_of_le hcapacity, deserialize_payloadOf hschema hname]
  · intro bytes max_len hlen hschema hname hcapacity
    obtain ⟨cfg, hread, hbytes⟩ := payloadOf_deserialize hlen hschema hname
    exact ⟨cfg, hread, by rw [serialize_of_le hcapacity, hbytes]⟩

theorem payload_round_trip_default :
    deserializeRobotConfig (serializeRobotConfig defaultRobotConfig kConfigPayloadSize) =
      some defaultRobotConfig :=
  payload_round_trip.1 defaultRobotConfig kConfigPayloadSize rfl (by decide) (Nat.le_refl _)

end

/-!
## Migration of the schemas with a verified servo map

The schemas v3, v4, v5 and v8 carried measured servo calibration and an outdated kinematic model. Their
payloads are read with the calibration kept and the kinematics and gait replaced, so that the old
kinematic and gait bytes do not matter any more.
-/

section

variable {version : UInt16} {size : Nat} {input : List UInt8} {old old' out : RobotConfig}

/-- The schemas whose servo calibration is kept and whose kinematics are replaced. -/
def KeepsServos (version : UInt16) : Prop :=
  version = kLegacySchemaVersionV3 ∨ version = kLegacySchemaVersionV4 ∨
    version = kLegacySchemaVersionV5 ∨ version = kLegacySchemaVersionV8

def migrated (version : UInt16) (old : RobotConfig) : RobotConfig :=
  { applyRobotKinematicsProfile old with
    schema_version := kSchemaVersion
    robot_name := terminated old.robot_name
    rc_input := if hasNoRc version then defaultRcInputCalibration else old.rc_input
    body_command := if hasNoBody version then defaultBodyCommandLimits else old.body_command }

theorem KeepsServos.exists_size (hkeeps : KeepsServos version) :
    ∃ size, schemaSize version = some size := by
  obtain rfl | rfl | rfl | rfl := hkeeps
  · exact ⟨kLegacyConfigPayloadSizeV3, rfl⟩
  · exact ⟨kLegacyConfigPayloadSizeV4, rfl⟩
  · exact ⟨kConfigPayloadSize, rfl⟩
  · exact ⟨kConfigPayloadSize, rfl⟩

theorem deserialize_legacy (hkeeps : KeepsServos version) (old : RobotConfig) :
    deserializeRobotConfig (schemaPayload version old) = some (migrated version old) := by
  obtain ⟨size, hsize⟩ := hkeeps.exists_size
  rw [deserialize_schemaPayload hsize]
  obtain rfl | rfl | rfl | rfl := hkeeps <;> rfl

def preservedValid (version : UInt16) (old : RobotConfig) : Bool :=
  (hasNoRc version || validateRcInputCalibration old.rc_input) &&
    (hasNoBody version || validateBodyCommandLimits old.body_command) &&
    (old.feature_defaults &&& ~~~kKnownFeatureBits == 0) &&
    validateServos [] old.servos.toList && old.feet.toList.all validateFoot

theorem validate_rc_migrated (version : UInt16) (old : RobotConfig) :
    validateRcInputCalibration (migrated version old).rc_input =
      (hasNoRc version || validateRcInputCalibration old.rc_input) := by
  have hdefault : validateRcInputCalibration defaultRcInputCalibration = true := by decide
  unfold migrated
  cases hasNoRc version with
  | false => rfl
  | true => exact hdefault

theorem validate_body_migrated (version : UInt16) (old : RobotConfig) :
    validateBodyCommandLimits (migrated version old).body_command =
      (hasNoBody version || validateBodyCommandLimits old.body_command) := by
  have hdefault : validateBodyCommandLimits defaultBodyCommandLimits = true := by decide
  unfold migrated
  cases hasNoBody version with
  | false => rfl
  | true => exact hdefault

theorem validate_migrated (version : UInt16) (old : RobotConfig) :
    validateRobotConfig (migrated version old) = preservedValid version old := by
  have hschema : (migrated version old).schema_version = defaultRobotConfig.schema_version := rfl
  have hlinks : (migrated version old).links = defaultRobotConfig.links := rfl
  have hgeometry : (migrated version old).geometry = defaultRobotConfig.geometry := rfl
  have hgait : (migrated version old).gait = defaultRobotConfig.gait := rfl
  have hhome : homeReachable (migrated version old) = homeReachable defaultRobotConfig := rfl
  have hkept : (migrated version old).feature_defaults = old.feature_defaults ∧
    (migrated version old).servos = old.servos ∧ (migrated version old).feet = old.feet :=
    ⟨rfl, rfl, rfl⟩
  unfold validateRobotConfig preservedValid
  rw [hschema, hlinks, hgeometry, hgait, hhome, if_neg (by decide),
    if_neg (by decide), if_neg (by decide), if_neg (by decide),
    if_neg (by decide), if_neg (by decide), if_neg (by decide),
    if_neg (by decide), validate_rc_migrated, validate_body_migrated, hkept.1, hkept.2.1,
    hkept.2.2, bne]
  cases hasNoRc version || validateRcInputCalibration old.rc_input <;>
    cases hasNoBody version || validateBodyCommandLimits old.body_command <;>
    cases old.feature_defaults &&& ~~~kKnownFeatureBits == 0 <;>
    cases validateServos [] old.servos.toList <;> rfl

/-- Two payloads agree on what the migration keeps. -/
structure SamePreserved (version : UInt16) (old old' : RobotConfig) : Prop where
  servos : old'.servos = old.servos
  robot_name : old'.robot_name = old.robot_name
  feet : old'.feet = old.feet
  feature_defaults : old'.feature_defaults = old.feature_defaults
  rc_input : hasNoRc version = false → old'.rc_input = old.rc_input
  body_command : hasNoBody version = false → old'.body_command = old.body_command

theorem migrated_eq (hsame : SamePreserved version old old') :
    migrated version old' = migrated version old := by
  have hrc : (migrated version old').rc_input = (migrated version old).rc_input := by
    unfold migrated
    cases hno : hasNoRc version with
    | false => exact hsame.rc_input hno
    | true => rfl
  have hbody : (migrated version old').body_command = (migrated version old).body_command := by
    unfold migrated
    cases hno : hasNoBody version with
    | false => exact hsame.body_command hno
    | true => rfl
  unfold migrated at hrc hbody ⊢
  dsimp only at hrc hbody
  rw [hrc, hbody, hsame.robot_name]
  unfold applyRobotKinematicsProfile
  rw [hsame.servos, hsame.feet, hsame.feature_defaults]

theorem terminated_get_of_ne {robot_name : Vector UInt8 kRobotNameLen} {i : Fin kRobotNameLen}
    (hi : i ≠ 15) : (terminated robot_name).get i = robot_name.get i :=
  Vector.getElem_setIfInBounds_ne i.isLt fun heq => hi (Fin.ext heq.symm)

/-- Every payload of a schema with verified servos and of its length is accepted. The calibration in it is
kept, but for the terminator of the name; kinematics and gait are the current profile, whatever the
payload says about them; the result is valid when the parts that were kept are, and it survives
being written and read again. -/
theorem migration_preserves (hkeeps : KeepsServos version) :
    (∀ input : List UInt8, schemaSize version = some input.length →
      Bytes.getU16 input = version → ∃ old, input = schemaPayload version old) ∧
    ∀ old, ∃ out, deserializeRobotConfig (schemaPayload version old) = some out ∧
      (out.servos = old.servos ∧ out.feet = old.feet ∧
        out.feature_defaults = old.feature_defaults) ∧
      (out.robot_name.get 15 = 0 ∧ ∀ i, i ≠ 15 → out.robot_name.get i = old.robot_name.get i) ∧
      (version ≠ kLegacySchemaVersionV3 → out.rc_input = old.rc_input) ∧
      (version ≠ kLegacySchemaVersionV3 → version ≠ kLegacySchemaVersionV4 →
        out.body_command = old.body_command) ∧
      (out.links = (applyRobotKinematicsProfile old).links ∧
        out.geometry = (applyRobotKinematicsProfile old).geometry ∧
        out.legs = (applyRobotKinematicsProfile old).legs ∧
        out.gait = (applyRobotKinematicsProfile old).gait) ∧
      (∀ old', SamePreserved version old old' →
        deserializeRobotConfig (schemaPayload version old') = some out) ∧
      validateRobotConfig out = preservedValid version old ∧
      deserializeRobotConfig (serializeRobotConfig out kConfigPayloadSize) = some out := by
  constructor
  · intro input hsize hversion
    have htwo : 2 ≤ input.length := by
      obtain ⟨-, hlen⟩ | ⟨-, hlen⟩ | ⟨-, hlen⟩ := schemaSize_cases hsize <;> omega
    have hget := getU16_of_length htwo
    rw [hversion] at hget
    obtain ⟨old, hinput, -⟩ := exists_schemaPayload hsize rfl hget
    exact ⟨old, hinput⟩
  · intro old
    refine ⟨migrated version old, deserialize_legacy hkeeps old, ⟨rfl, rfl, rfl⟩,
      ⟨get_terminated _, fun i hi => terminated_get_of_ne hi⟩, fun h3 => ?_, fun h3 h4 => ?_,
      ⟨rfl, rfl, rfl, rfl⟩, fun old' hsame => ?_, validate_migrated version old, ?_⟩
    · exact if_neg (ne_true_of_eq_false (beq_false_of_ne h3))
    · refine if_neg (ne_true_of_eq_false ?_)
      rw [hasNoBody, beq_false_of_ne h3, beq_false_of_ne h4, Bool.or_false]
    · rw [deserialize_legacy hkeeps, migrated_eq hsame]
    · rw [serialize_of_le (Nat.le_refl _)]
      exact deserialize_payloadOf rfl (get_terminated _)

/-- A v8 payload with one trim calibrated. -/
def calibratedConfig : RobotConfig :=
  { defaultRobotConfig with
    servos := defaultRobotConfig.servos.setIfInBounds 6 { id := 7, leg := 2, trim_ticks := -27 } }

theorem migration_preserves_v8 :
    ∃ out, deserializeRobotConfig (schemaPayload 8 calibratedConfig) = some out ∧
      out.servos = calibratedConfig.servos := by
  have hkeeps : KeepsServos 8 := .inr (.inr (.inr rfl))
  obtain ⟨out, hout, ⟨hservos, -⟩, -⟩ := (migration_preserves hkeeps).2 calibratedConfig
  exact ⟨out, hout, hservos⟩

/-- The last byte of the name is not kept. -/
theorem migration_terminates_name : ¬ ∀ (version : UInt16) (old out : RobotConfig),
    KeepsServos version → deserializeRobotConfig (schemaPayload version old) = some out →
      out.robot_name = old.robot_name := by
  intro hkept
  have hname := hkept 8 { robot_name := .replicate _ 65 } _ (.inr (.inr (.inr rfl)))
    (deserialize_legacy (.inr (.inr (.inr rfl))) _)
  cases hname

end

end HexapodVerified.Config
