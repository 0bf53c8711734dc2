import Mathlib.Data.List.TakeWhile
import HexapodVerified.Host.Proofs.HilRecordsProofs
import HexapodVerified.Host.RobotConfig

/-!
# Host and controller read the same configuration

The field lists of the two languages mirror each other: the same bytes are taken, field by field, and each
field of the host is the number that the controller has in its machine integer. The migrations of older
schemas agree as well, and what the host encodes is what the controller serializes.
-/

namespace HexapodVerified.Host

open Codec Struct

variable {version : UInt16} {size : Nat} {v3 v4 : Bool}

def hostLinks (links : Config.LinkLengths) : LinkLengths where
  coxa_cmm := links.coxa_cmm.toNat
  femur_cmm := links.femur_cmm.toNat
  tibia_cmm := links.tibia_cmm.toNat

def hostGeometry (geometry : Config.BodyGeometry) : BodyGeometry where
  home_radius_cmm := geometry.home_radius_cmm.toNat
  home_foot_z_cmm := geometry.home_foot_z_cmm.toInt
  coxa_lift_cmm := geometry.coxa_lift_cmm.toNat

def hostLeg (leg : Config.LegGeometry) : LegGeometry where
  mount_x_dmm := leg.mount_x_dmm.toInt
  mount_y_dmm := leg.mount_y_dmm.toInt
  mount_z_dmm := leg.mount_z_dmm.toInt
  mount_yaw_cdeg := leg.mount_yaw_cdeg.toInt

def hostServo (s : Config.ServoConfig) : ServoConfig where
  id := s.id.toNat
  leg := s.leg.toNat
  joint := s.joint.toNat
  sign := s.sign.toInt
  trim_ticks := s.trim_ticks.toInt
  min_tick := s.min_tick.toNat
  max_tick := s.max_tick.toNat

def hostGait (gait : Config.GaitDefaults) : GaitDefaults where
  body_height_mm := gait.body_height_mm.toNat
  stride_len_mm := gait.stride_len_mm.toNat
  step_height_mm := gait.step_height_mm.toNat
  duty_x255 := gait.duty_x255.toNat
  speed_x255 := gait.speed_x255.toNat
  gait := gait.gait.toNat

def hostRcChannel (c : Config.RcChannelCalibration) : RcChannelCalibration where
  source := c.source.toNat
  type := c.type.toNat
  min_raw := c.min_raw.toInt
  center_raw := c.center_raw.toInt
  max_raw := c.max_raw.toInt
  reversed := c.reversed.toNat
  deadband_x255 := c.deadband_x255.toNat
  expo_x255 := c.expo_x255.toNat
  filter_tau_ms := c.filter_tau_ms.toNat
  switch_debounce_ms := c.switch_debounce_ms.toNat

def hostRcInput (calibration : Config.RcInputCalibration) : RcInputCalibration where
  channels := calibration.channels.toList.map hostRcChannel

def hostBodyCommand (body : Config.BodyCommandLimits) : BodyCommandLimits where
  max_forward_milli := body.max_forward_milli.toNat
  max_reverse_milli := body.max_reverse_milli.toNat
  max_lateral_milli := body.max_lateral_milli.toNat
  max_yaw_milli := body.max_yaw_milli.toNat
  forward_accel_milli_per_s := body.forward_accel_milli_per_s.toNat
  forward_decel_milli_per_s := body.forward_decel_milli_per_s.toNat
  lateral_accel_milli_per_s := body.lateral_accel_milli_per_s.toNat
  lateral_decel_milli_per_s := body.lateral_decel_milli_per_s.toNat
  yaw_accel_milli_per_s := body.yaw_accel_milli_per_s.toNat
  yaw_decel_milli_per_s := body.yaw_decel_milli_per_s.toNat
  height_rise_mm_per_s := body.height_rise_mm_per_s.toNat
  height_lower_mm_per_s := body.height_lower_mm_per_s.toNat
  pose_translation_rate_mm_per_s := body.pose_translation_rate_mm_per_s.toNat
  pose_rotation_rate_millirad_per_s := body.pose_rotation_rate_millirad_per_s.toNat

def hostFoot (foot : Config.FootSensorCal) : FootSensorCal where
  pressure_baseline := foot.pressure_baseline.toInt
  near_thresh := foot.near_thresh.toNat
  touch_thresh := foot.touch_thresh.toNat
  load_thresh := foot.load_thresh.toNat
  enabled := foot.enabled.toNat

def hostConfig (robot_name : String) (cfg : Config.RobotConfig) : RobotConfig where
  schema_version := cfg.schema_version.toNat
  robot_name
  links := hostLinks cfg.links
  geometry := hostGeometry cfg.geometry
  legs := cfg.legs.toList.map hostLeg
  servos := cfg.servos.toList.map hostServo
  gait := hostGait cfg.gait
  rc_input := hostRcInput cfg.rc_input
  body_command := hostBodyCommand cfg.body_command
  feet := cfg.feet.toList.map hostFoot
  feature_defaults := cfg.feature_defaults.toNat

theorem mirrors_links : Mirrors unpackLinks Config.getLinks hostLinks :=
  mirrors_H.bind fun _ => mirrors_H.bind fun _ => mirrors_H.bind fun _ => .pure rfl

theorem mirrors_geometry : Mirrors unpackGeometry Config.getGeometry hostGeometry :=
  mirrors_H.bind fun _ => mirrors_h.bind fun _ => mirrors_H.bind fun _ => .pure rfl

theorem mirrors_leg : Mirrors unpackLeg Config.getLeg hostLeg :=
  mirrors_h.bind fun _ => mirrors_h.bind fun _ => mirrors_h.bind fun _ => mirrors_h.bind fun _ =>
    .pure rfl

theorem mirrors_servo : Mirrors unpackServo Config.getServo hostServo :=
  mirrors_B.bind fun _ => mirrors_B.bind fun _ => mirrors_B.bind fun _ => mirrors_b.bind fun _ =>
    mirrors_h.bind fun _ => mirrors_H.bind fun _ => mirrors_H.bind fun _ => .pure rfl

theorem mirrors_gait : Mirrors unpackGait Config.getGait hostGait :=
  mirrors_H.bind fun _ => mirrors_H.bind fun _ => mirrors_H.bind fun _ => mirrors_B.bind fun _ =>
    mirrors_B.bind fun _ => mirrors_B.bind fun _ => .pure rfl

theorem mirrors_rcChannel : Mirrors unpackRcChannel Config.getRcChannel hostRcChannel :=
  mirrors_B.bind fun _ => mirrors_B.bind fun _ => mirrors_h.bind fun _ => mirrors_h.bind fun _ =>
    mirrors_h.bind fun _ => mirrors_B.bind fun _ => mirrors_B.bind fun _ => mirrors_B.bind fun _ =>
    mirrors_H.bind fun _ => mirrors_H.bind fun _ => .pure rfl

theorem mirrors_rcInput : Mirrors unpackRcInput Config.getRcInput hostRcInput :=
  mirrors_rcChannel.vector.bind fun _ => .pure rfl

theorem mirrors_bodyCommand : Mirrors unpackBodyCommand Config.getBodyCommand hostBodyCommand :=
  mirrors_H.bind fun _ => mirrors_H.bind fun _ => mirrors_H.bind fun _ => mirrors_H.bind fun _ =>
    mirrors_H.bind fun _ => mirrors_H.bind fun _ => mirrors_H.bind fun _ => mirrors_H.bind fun _ =>
    mirrors_H.bind fun _ => mirrors_H.bind fun _ => mirrors_H.bind fun _ => mirrors_H.bind fun _ =>
    mirrors_H.bind fun _ => mirrors_H.bind fun _ => .pure rfl

theorem mirrors_foot : Mirrors unpackFoot Config.getFoot hostFoot :=
  mirrors_i.bind fun _ => mirrors_H.bind fun _ => mirrors_H.bind fun _ => mirrors_H.bind fun _ =>
    mirrors_B.bind fun _ => .pure rfl

theorem mirrors_rcInputUnless :
    Mirrors (unpackRcInputUnless v3) (Config.getRcInputUnless v3) hostRcInput := by
  cases v3 with
  | false => exact mirrors_rcInput
  | true => exact .pure rfl

theorem mirrors_bodyCommandUnless :
    Mirrors (unpackBodyCommandUnless v3) (Config.getBodyCommandUnless v3) hostBodyCommand := by
  cases v3 with
  | false => exact mirrors_bodyCommand
  | true => exact .pure rfl

theorem mirrors_blocks {schema_version : Int} {robot_name : String}
    {name : Vector UInt8 Config.kRobotNameLen} :
    Mirrors (unpackBlocks schema_version robot_name v3 v4) (Config.getBlocks version name v3 v4)
      fun cfg => { hostConfig robot_name cfg with schema_version } :=
  mirrors_links.bind fun _ => mirrors_geometry.bind fun _ => mirrors_leg.vector.bind fun _ =>
    mirrors_servo.vector.bind fun _ => mirrors_gait.bind fun _ => mirrors_rcInputUnless.bind fun _ =>
    mirrors_bodyCommandUnless.bind fun _ => mirrors_foot.vector.bind fun _ => mirrors_I.bind fun _ =>
    .pure rfl

theorem legSeeds_eq : legSeeds = Config.kLegSeeds.toList.map hostLeg := by
  decide

theorem applyRobotKinematicsProfile_hostConfig {name : String} (cfg : Config.RobotConfig) :
    applyRobotKinematicsProfile (hostConfig name cfg) =
      hostConfig name (Config.applyRobotKinematicsProfile cfg) := by
  unfold applyRobotKinematicsProfile
  rw [legSeeds_eq]
  rfl

theorem profileServos_eq :
    ((List.range NUM_LEGS).flatMap fun leg =>
      (List.range JOINTS_PER_LEG).map fun joint => profileServo leg joint) =
      (Config.applyRobotMotionProfile {}).servos.toList.map hostServo := by
  decide

theorem applyRobotMotionProfile_hostConfig {name : String} (cfg : Config.RobotConfig) :
    applyRobotMotionProfile (hostConfig name cfg) =
      hostConfig name (Config.applyRobotMotionProfile cfg) := by
  unfold applyRobotMotionProfile
  rw [profileServos_eq]
  rfl

theorem configVersions_mem {n size : Nat} : (n, size) ∈ configVersions ↔
    (n = 3 ∧ size = 337) ∨ (n = 4 ∧ size = 457) ∨
      ((n = 5 ∨ n = 6 ∨ n = 7 ∨ n = 8 ∨ n = 9) ∧ size = 485) := by
  unfold configVersions
  simp only [List.mem_cons, Prod.mk.injEq, List.not_mem_nil, or_false, CONFIG_PAYLOAD_SIZE,
    LEGACY_CONFIG_PAYLOAD_SIZE_V3, LEGACY_CONFIG_PAYLOAD_SIZE_V4]
  omega

theorem configVersions_iff : (version.toNat, size) ∈ configVersions ↔
    Config.schemaSize version = some size := by
  constructor
  · intro hmem
    obtain ⟨hv, rfl⟩ | ⟨hv, rfl⟩ | ⟨hv | hv | hv | hv | hv, rfl⟩ := configVersions_mem.mp hmem
    · rw [show version = 3 from UInt16.toNat_inj.mp hv]
      rfl
    · rw [show version = 4 from UInt16.toNat_inj.mp hv]
      rfl
    · rw [show version = 5 from UInt16.toNat_inj.mp hv]
      rfl
    · rw [show version = 6 from UInt16.toNat_inj.mp hv]
      rfl
    · rw [show version = 7 from UInt16.toNat_inj.mp hv]
      rfl
    · rw [show version = 8 from UInt16.toNat_inj.mp hv]
      rfl
    · rw [show version = 9 from UInt16.toNat_inj.mp hv]
      rfl
  · intro hsize
    obtain ⟨rfl, rfl⟩ | ⟨rfl, rfl⟩ | ⟨rfl | rfl | rfl | rfl | rfl, rfl⟩ :=
      Config.schemaSize_cases hsize <;> decide

theorem checkRobotConfig_ok {input rest : List UInt8} (hversion : getU16 input = some (version, rest)) :
    checkRobotConfig input = .ok () ↔ Config.schemaSize version = some input.length := by
  obtain ⟨-, rfl⟩ := law_u16.get_eq.mp hversion
  have hnumber : ofLittleEndian ((Bytes.putU16 version ++ rest).take 2) = version.toNat :=
    ofLittleEndian_putU16 version
  rw [← configVersions_iff]
  unfold checkRobotConfig
  dsimp only
  rw [hnumber]
  constructor
  · intro hok
    split_ifs at hok with hsize hmem
    exact hmem
  · intro hmem
    have hsize := configVersions_mem.mp hmem
    rw [if_neg (by dsimp only [CONFIG_PAYLOAD_SIZE, LEGACY_CONFIG_PAYLOAD_SIZE_V4,
      LEGACY_CONFIG_PAYLOAD_SIZE_V3]; omega), if_neg (not_not.mpr hmem)]

theorem unpackConfig_schemaPayload {schema_version : Int} (cfg : Config.RobotConfig) :
    unpackConfig schema_version (Config.hasNoRc version)
      (version == Config.kLegacySchemaVersionV4) ((Config.schemaPayload version cfg).drop 2) =
    some ({ hostConfig (trimName cfg.robot_name.toList) (Config.readBack version cfg) with
      schema_version }, []) := by
  have hname : (Config.putName cfg.robot_name).length = 16 := Config.law_name.length trivial
  have hblocks := (Config.law_blocks version (Config.terminated cfg.robot_name)
    (Config.hasNoRc version) (version == Config.kLegacySchemaVersionV4)).get_put
    (Config.expected_readBack cfg) []
  rw [List.append_nil, Config.putBlocks_readBack] at hblocks
  have hslice : slice ROBOT_NAME_LEN ((Config.schemaPayload version cfg).drop 2) =
      some (cfg.robot_name.toList,
        Config.putBlocks (Config.hasNoRc version) (version == Config.kLegacySchemaVersionV4) cfg) := by
    unfold Config.schemaPayload slice
    rw [List.drop_left' (Bytes.putU16_length version), List.take_left' hname, List.drop_left' hname,
      Config.putName_eq]
  refine bind_eq_some.mpr ⟨_, _, hslice, ?_⟩
  rw [mirrors_blocks, hblocks]
  rfl

def hostMigrate (version : UInt16) (config : RobotConfig) : RobotConfig :=
  if version = Config.kLegacySchemaVersionV6 ∨ version = Config.kLegacySchemaVersionV7 then
    applyRobotMotionProfile config
  else if version = Config.kLegacySchemaVersionV3 ∨ version = Config.kLegacySchemaVersionV4 ∨
      version = Config.kLegacySchemaVersionV5 ∨ version = Config.kLegacySchemaVersionV8 then
    applyRobotKinematicsProfile config
  else config

theorem hostMigrate_hostConfig {name : String} (cfg : Config.RobotConfig) :
    hostMigrate version { hostConfig name cfg with schema_version := SCHEMA_VERSION } =
      hostConfig name (Config.migrate version cfg) := by
  have hcurrent : { hostConfig name cfg with schema_version := SCHEMA_VERSION } =
      hostConfig name { cfg with schema_version := Config.kSchemaVersion } := rfl
  rw [hcurrent]
  unfold hostMigrate Config.migrate
  split_ifs with hmotion hkinematics
  · rw [applyRobotMotionProfile_hostConfig]
    rfl
  · rw [applyRobotKinematicsProfile_hostConfig]
    rfl
  · rfl

theorem decodeRobotConfig_eq {input rest : List UInt8}
    (hsize : Config.schemaSize version = some size) (hlen : input.length = size)
    (hversion : getU16 input = some (version, rest)) :
    decodeRobotConfig input =
      match unpackConfig SCHEMA_VERSION (Config.hasNoRc version)
        (version == Config.kLegacySchemaVersionV4) (input.drop 2) with
      | none => .error "unpack_from requires a larger buffer"
      | some (config, _) => .ok (hostMigrate version config) := by
  have hcheck := (checkRobotConfig_ok hversion).mpr (by rw [hlen]; exact hsize)
  obtain ⟨-, hinput⟩ := law_u16.get_eq.mp hversion
  have hnumber : ofLittleEndian (input.take 2) = version.toNat := by
    rw [hinput]
    exact ofLittleEndian_putU16 version
  unfold decodeRobotConfig
  rw [hcheck]
  rw [hnumber, hlen]
  obtain ⟨rfl, rfl⟩ | ⟨rfl, rfl⟩ | ⟨rfl | rfl | rfl | rfl | rfl, rfl⟩ := Config.schemaSize_cases hsize
  all_goals rfl

theorem decodeRobotConfig_schemaPayload (hsize : Config.schemaSize version = some size)
    (cfg : Config.RobotConfig) : decodeRobotConfig (Config.schemaPayload version cfg) =
      .ok (hostConfig (trimName cfg.robot_name.toList)
        (Config.migrate version (Config.readBack version cfg))) := by
  rw [decodeRobotConfig_eq hsize (Config.length_schemaPayload hsize cfg) (law_u16.get_put trivial _),
    unpackConfig_schemaPayload]
  dsimp only
  rw [hostMigrate_hostConfig]

theorem decodeRobotConfig_of_none {input : List UInt8}
    (hnone : Config.deserializeRobotConfig input = none) :
    ∃ exc, decodeRobotConfig input = .error exc := by
  have hcheck : checkRobotConfig input ≠ .ok () := by
    by_cases hshort : input.length < 2
    · unfold checkRobotConfig
      rw [if_pos (by dsimp only [CONFIG_PAYLOAD_SIZE, LEGACY_CONFIG_PAYLOAD_SIZE_V4,
        LEGACY_CONFIG_PAYLOAD_SIZE_V3]; omega)]
      exact nofun
    · obtain ⟨version, rest, hversion⟩ := law_u16.total input (by omega)
      intro hok
      have hsize := (checkRobotConfig_ok hversion).mp hok
      obtain ⟨cfg, rfl, -⟩ := Config.exists_schemaPayload hsize rfl hversion
      rw [Config.deserialize_schemaPayload hsize] at hnone
      cases hnone
  unfold decodeRobotConfig
  cases hresult : checkRobotConfig input with
  | error exc => exact ⟨exc, rfl⟩
  | ok => exact absurd hresult hcheck

/-- The bytes of a C string. -/
def cString (name : Vector UInt8 Config.kRobotNameLen) : List UInt8 := name.toList.takeWhile (· != 0)

def nameField (payload : List UInt8) : List UInt8 := Bytes.window payload 2 ROBOT_NAME_LEN

theorem nameField_schemaPayload (cfg : Config.RobotConfig) :
    nameField (Config.schemaPayload version cfg) = cfg.robot_name.toList := by
  have hname : (Config.putName cfg.robot_name).length = 16 := Config.law_name.length trivial
  unfold nameField Bytes.window Config.schemaPayload
  rw [List.drop_left' (Bytes.putU16_length version), List.take_left' hname, Config.putName_eq]

theorem takeWhile_set {l : List UInt8} {i : Nat} (hzero : 0 ∈ l) (hi : i + 1 = l.length) :
    (l.set i 0).takeWhile (· != 0) = l.takeWhile (· != 0) := by
  induction l generalizing i with
  | nil => cases hzero
  | cons x l ih =>
    by_cases hx : x = 0
    · subst hx
      cases i <;> rfl
    · have hmem : 0 ∈ l := (List.mem_cons.mp hzero).resolve_left fun h => hx h.symm
      cases i with
      | zero =>
        have hnil : l = [] := List.eq_nil_of_length_eq_zero (by simpa using hi.symm)
        rw [hnil] at hmem
        cases hmem
      | succ i =>
        have hne (l : List UInt8) : (x :: l).takeWhile (· != 0) = x :: l.takeWhile (· != 0) :=
          List.takeWhile_cons_of_pos (p := (· != 0)) (bne_iff_ne.mpr hx)
        rw [List.set_cons_succ, hne, hne, ih hmem (Nat.succ.inj hi)]

theorem cString_terminated {name : Vector UInt8 Config.kRobotNameLen} (hzero : 0 ∈ name.toList) :
    cString (Config.terminated name) = cString name := by
  unfold cString Config.terminated
  rw [Vector.toList_setIfInBounds]
  exact takeWhile_set hzero (by rw [Vector.length_toList]; rfl)

theorem toNat_ofNat_ascii {n : Nat} (hn : n < 128) : (Char.ofNat n).toNat = n := by
  unfold Char.ofNat
  rw [dif_pos (.inl (by omega))]
  rfl

theorem decodeAscii_codes {raw : List UInt8} (hascii : ∀ x ∈ raw, x < 128) :
    (decodeAscii raw).toList.map Char.toNat = raw.map UInt8.toNat := by
  unfold decodeAscii
  rw [String.toList_ofList, List.map_map]
  refine List.map_congr_left fun x hx => ?_
  have hlt := hascii x hx
  show (if x < 128 then Char.ofNat x.toNat else Char.ofNat 0xFFFD).toNat = x.toNat
  rw [if_pos hlt]
  exact toNat_ofNat_ascii (UInt8.lt_iff_toNat_lt.mp hlt)

theorem encodeAscii_decodeAscii {raw : List UInt8} (hascii : ∀ x ∈ raw, x < 128) :
    encodeAscii (decodeAscii raw) = .ok raw := by
  have hcodes := decodeAscii_codes hascii
  have hall : (decodeAscii raw).toList.all (fun c => c.toNat < 128) = true := by
    rw [List.all_eq_true]
    intro c hc
    have hmem : c.toNat ∈ raw.map UInt8.toNat := by
      rw [← hcodes]
      exact List.mem_map_of_mem hc
    obtain ⟨x, hx, hxc⟩ := List.mem_map.mp hmem
    rw [← hxc]
    exact decide_eq_true (UInt8.lt_iff_toNat_lt.mp (hascii x hx))
  have hbytes : (decodeAscii raw).toList.map (fun c => UInt8.ofNat c.toNat) = raw := by
    have hmap := congrArg (List.map UInt8.ofNat) hcodes
    rw [List.map_map, List.map_map] at hmap
    refine Eq.trans hmap ?_
    refine Eq.trans (List.map_congr_left fun x _ => ?_) (List.map_id raw)
    exact UInt8.ofNat_toNat
  unfold encodeAscii
  rw [if_pos hall, hbytes]

/-- Behind its string, the field holds zeros only. -/
def ZeroPadded (raw : List UInt8) : Prop :=
  raw = raw.takeWhile (· != 0) ++ List.replicate (raw.length - (raw.takeWhile (· != 0)).length) 0

instance (raw : List UInt8) : Decidable (ZeroPadded raw) := inferInstanceAs (Decidable (_ = _))

theorem takeWhile_length_lt {raw : List UInt8} (hzero : 0 ∈ raw) :
    (raw.takeWhile (· != 0)).length < raw.length := by
  have hpre : raw.takeWhile (· != 0) <+: raw := List.takeWhile_prefix _
  refine Nat.lt_of_le_of_ne hpre.length_le fun heq => ?_
  rw [← hpre.eq_of_length heq] at hzero
  exact Bool.false_ne_true (List.mem_takeWhile_imp hzero)

theorem encodeName_trimName {raw : List UInt8} (hlen : raw.length = ROBOT_NAME_LEN)
    (hascii : ∀ x ∈ raw, x < 128) (hzero : 0 ∈ raw) (hpadded : ZeroPadded raw) :
    encodeName (trimName raw) = .ok raw := by
  have htake : ∀ x ∈ raw.takeWhile (· != 0), x < 128 := fun x hx =>
    hascii x ((List.takeWhile_sublist _).subset hx)
  have hshort : (raw.takeWhile (· != 0)).length ≤ ROBOT_NAME_LEN - 1 := by
    have hlt := takeWhile_length_lt hzero
    rw [hlen] at hlt
    exact Nat.le_sub_one_of_lt hlt
  unfold encodeName trimName
  rw [encodeAscii_decodeAscii htake]
  show Except.ok ((raw.takeWhile (· != 0)).take (ROBOT_NAME_LEN - 1) ++ List.replicate
    (ROBOT_NAME_LEN - ((raw.takeWhile (· != 0)).take (ROBOT_NAME_LEN - 1)).length) 0) = _
  rw [List.take_of_length_le hshort, ← hlen]
  exact congrArg Except.ok hpadded.symm

theorem packLinks_hostLinks (links : Config.LinkLengths) :
    packLinks (hostLinks links) = some (Config.putLinks links) :=
  packFields_cons (pack_H _) <| packFields_cons (pack_H _) <| packFields_last (pack_H _)

theorem packGeometry_hostGeometry (geometry : Config.BodyGeometry) :
    packGeometry (hostGeometry geometry) = some (Config.putGeometry geometry) :=
  packFields_cons (pack_H _) <| packFields_cons (pack_h _) <| packFields_last (pack_H _)

theorem packLeg_hostLeg (leg : Config.LegGeometry) :
    packLeg (hostLeg leg) = some (Config.putLeg leg) :=
  packFields_cons (pack_h _) <| packFields_cons (pack_h _) <| packFields_cons (pack_h _) <|
    packFields_last (pack_h _)

theorem packServo_hostServo (s : Config.ServoConfig) :
    packServo (hostServo s) = some (Config.putServo s) :=
  packFields_cons (pack_B _) <| packFields_cons (pack_B _) <| packFields_cons (pack_B _) <|
    packFields_cons (pack_b _) <| packFields_cons (pack_h _) <| packFields_cons (pack_H _) <|
    packFields_last (pack_H _)

theorem packGait_hostGait (gait : Config.GaitDefaults) :
    packGait (hostGait gait) = some (Config.putGait gait) :=
  packFields_cons (pack_H _) <| packFields_cons (pack_H _) <| packFields_cons (pack_H _) <|
    packFields_cons (pack_B _) <| packFields_cons (pack_B _) <| packFields_last (pack_B _)

theorem packRcChannel_hostRcChannel (c : Config.RcChannelCalibration) :
    packRcChannel (hostRcChannel c) = some (Config.putRcChannel c) :=
  packFields_cons (pack_B _) <| packFields_cons (pack_B _) <| packFields_cons (pack_h _) <|
    packFields_cons (pack_h _) <| packFields_cons (pack_h _) <| packFields_cons (pack_B _) <|
    packFields_cons (pack_B _) <| packFields_cons (pack_B _) <| packFields_cons (pack_H _) <|
    packFields_last (pack_H _)

theorem packBodyCommand_hostBodyCommand (body : Config.BodyCommandLimits) :
    packBodyCommand (hostBodyCommand body) = some (Config.putBodyCommand body) :=
  packFields_cons (pack_H _) <| packFields_cons (pack_H _) <| packFields_cons (pack_H _) <|
    packFields_cons (pack_H _) <| packFields_cons (pack_H _) <| packFields_cons (pack_H _) <|
    packFields_cons (pack_H _) <| packFields_cons (pack_H _) <| packFields_cons (pack_H _) <|
    packFields_cons (pack_H _) <| packFields_cons (pack_H _) <| packFields_cons (pack_H _) <|
    packFields_cons (pack_H _) <| packFields_last (pack_H _)

theorem packFoot_hostFoot (foot : Config.FootSensorCal) :
    packFoot (hostFoot foot) = some (Config.putFoot foot) :=
  packFields_cons (pack_i _) <| packFields_cons (pack_H _) <| packFields_cons (pack_H _) <|
    packFields_cons (pack_H _) <| packFields_last (pack_B _)

theorem length_hostList {α β : Type} {n : Nat} (v : Vector α n) (f : α → β) :
    (v.toList.map f).length = n := by
  rw [List.length_map, Vector.length_toList]

/-- A configuration of the controller is encoded as the controller serializes it, if its name field
can be written back. -/
theorem encodeRobotConfig_hostConfig {name : String} (cfg : Config.RobotConfig)
    (hname : encodeName name = .ok cfg.robot_name.toList) :
    encodeRobotConfig (hostConfig name cfg) = .ok (Config.payloadOf cfg) := by
  have hchannels : (hostConfig name cfg).rc_input.channels.length = NUM_RC_ANALOG_INPUTS :=
    length_hostList cfg.rc_input.channels hostRcChannel
  unfold encodeRobotConfig
  simp only [hchannels, ne_eq, not_true_eq_false, if_false]
  dsimp only [hostConfig, hostRcInput]
  rw [pack_H, hname, packLinks_hostLinks, packGeometry_hostGeometry, packList_map packLeg_hostLeg,
    packList_map packServo_hostServo, packGait_hostGait, packList_map packRcChannel_hostRcChannel,
    packBodyCommand_hostBodyCommand, packList_map packFoot_hostFoot, pack_I]
  unfold Config.payloadOf
  rw [Config.putName_eq]
  rfl

/-- The object of the host holds the configuration of the controller, field by field: the characters of
its name are the bytes of the C string, and every other field is the number in the machine integer. -/
structure SameConfig (c : RobotConfig) (cfg : Config.RobotConfig) : Prop where
  schema_version : c.schema_version = cfg.schema_version.toNat
  robot_name : c.robot_name.toList.map Char.toNat = (cString cfg.robot_name).map UInt8.toNat
  links : c.links = hostLinks cfg.links
  geometry : c.geometry = hostGeometry cfg.geometry
  legs : c.legs = cfg.legs.toList.map hostLeg
  servos : c.servos = cfg.servos.toList.map hostServo
  gait : c.gait = hostGait cfg.gait
  rc_input : c.rc_input = hostRcInput cfg.rc_input
  body_command : c.body_command = hostBodyCommand cfg.body_command
  feet : c.feet = cfg.feet.toList.map hostFoot
  feature_defaults : c.feature_defaults = cfg.feature_defaults.toNat

theorem sameConfig_hostConfig {cfg : Config.RobotConfig} {raw : List UInt8}
    (hascii : ∀ x ∈ raw, x < 128) (hname : raw.takeWhile (· != 0) = cString cfg.robot_name) :
    SameConfig (hostConfig (trimName raw) cfg) cfg where
  schema_version := rfl
  robot_name := by
    rw [← hname]
    exact decodeAscii_codes fun x hx => hascii x ((List.takeWhile_sublist _).subset hx)
  links := rfl
  geometry := rfl
  legs := rfl
  servos := rfl
  gait := rfl
  rc_input := rfl
  body_command := rfl
  feet := rfl
  feature_defaults := rfl

theorem get_last_of_zeroPadded {name : Vector UInt8 Config.kRobotNameLen} (hzero : 0 ∈ name.toList)
    (hpadded : ZeroPadded name.toList) : name.get 15 = 0 := by
  have hshort : (name.toList.takeWhile (· != 0)).length < 16 := by
    have hlt := takeWhile_length_lt hzero
    rwa [Vector.length_toList] at hlt
  have hlast : name.toList[15]? = some 0 := by
    rw [hpadded, List.getElem?_append_right (by omega), List.getElem?_replicate,
      if_pos (by rw [Vector.length_toList]; dsimp only [Config.kRobotNameLen]; omega)]
  rw [Vector.getElem?_toList, Vector.getElem?_eq_getElem (by decide)] at hlast
  exact Option.some.inj hlast

theorem version_of_schemaPayload {cfg : Config.RobotConfig} :
    Bytes.getU16 (Config.schemaPayload version cfg) = version := by
  have hlen : 2 ≤ (Config.schemaPayload version cfg).length := by
    rw [Config.schemaPayload, List.length_append, Bytes.putU16_length]
    omega
  have hread := Config.getU16_of_length hlen
  rw [Config.schemaPayload, law_u16.get_put trivial] at hread
  exact (Prod.mk.inj (Option.some.inj hread)).1.symm

/-- For every byte string whose name field is ASCII and has a terminator, the host decodes it if and only
if the controller does, and to the same configuration; a payload of the current schema whose name is
padded with zeros is what both write for it. -/
theorem config_decoders_agree (b : List UInt8) (hascii : ∀ x ∈ nameField b, x < 128)
    (hzero : 0 ∈ nameField b) :
    ((∃ c, decodeRobotConfig b = .ok c) ↔ ∃ cfg, Config.deserializeRobotConfig b = some cfg) ∧
    ∀ c cfg, decodeRobotConfig b = .ok c → Config.deserializeRobotConfig b = some cfg →
      SameConfig c cfg ∧
      (Bytes.getU16 b = Config.kSchemaVersion → ZeroPadded (nameField b) →
        encodeRobotConfig c = .ok b ∧
        Config.serializeRobotConfig cfg Config.kConfigPayloadSize = b) := by
  cases hout : Config.deserializeRobotConfig b with
  | none =>
    obtain ⟨exc, hexc⟩ := decodeRobotConfig_of_none hout
    rw [hexc]
    refine ⟨⟨?_, ?_⟩, ?_⟩
    · rintro ⟨c, hc⟩
      cases hc
    · rintro ⟨cfg, hcfg⟩
      cases hcfg
    · intro c cfg hc
      cases hc
  | some out =>
    obtain ⟨version, size, cfg, hsize, rfl, hversion, rfl⟩ := Config.of_deserialize_eq_some hout
    rw [nameField_schemaPayload] at hascii hzero
    rw [decodeRobotConfig_schemaPayload hsize, nameField_schemaPayload, version_of_schemaPayload]
    refine ⟨iff_of_true ⟨_, rfl⟩ ⟨_, rfl⟩, ?_⟩
    rintro c out ⟨⟩ ⟨⟩
    constructor
    · refine sameConfig_hostConfig hascii ?_
      rw [Config.migrate_robot_name]
      exact (cString_terminated hzero).symm
    · rintro rfl hpadded
      have hname : Config.NameTerminated cfg := get_last_of_zeroPadded hzero hpadded
      rw [Config.readBack_current hversion hname, Config.serialize_of_le le_rfl,
        ← Config.payloadOf_eq hversion]
      have hlen : cfg.robot_name.toList.length = ROBOT_NAME_LEN := Vector.length_toList
      exact ⟨encodeRobotConfig_hostConfig cfg (encodeName_trimName hlen hascii hzero hpadded), rfl⟩

theorem nameField_default : (∀ x ∈ nameField Config.defaultPayload, x < 128) ∧
    0 ∈ nameField Config.defaultPayload ∧ Bytes.getU16 Config.defaultPayload = Config.kSchemaVersion ∧
    ZeroPadded (nameField Config.defaultPayload) := by
  decide +kernel

/-- Both read the compiled configuration from what either writes for it, and neither reads the half of it. -/
theorem config_decoders_agree_default :
    (∃ c cfg, decodeRobotConfig Config.defaultPayload = .ok c ∧ SameConfig c cfg ∧
      encodeRobotConfig c = .ok Config.defaultPayload ∧
      Config.serializeRobotConfig cfg Config.kConfigPayloadSize = Config.defaultPayload) ∧
    ¬ ∃ c, decodeRobotConfig (Config.defaultPayload.take 200) = .ok c := by
  have hread : Config.deserializeRobotConfig Config.defaultPayload = some _ :=
    Config.deserialize_payloadOf (Config.schema_of_valid Config.validate_defaultRobotConfig) (by decide)
  obtain ⟨hascii, hzero, hversion, hpadded⟩ := nameField_default
  obtain ⟨hascii', hzero', hrefused⟩ : (∀ x ∈ nameField (Config.defaultPayload.take 200), x < 128) ∧
      0 ∈ nameField (Config.defaultPayload.take 200) ∧
      (Config.deserializeRobotConfig (Config.defaultPayload.take 200)).isNone := by
    decide +kernel
  obtain ⟨haccepts, hagree⟩ := config_decoders_agree Config.defaultPayload hascii hzero
  obtain ⟨c, hc⟩ := haccepts.mpr ⟨_, hread⟩
  obtain ⟨hsame, hencode⟩ := hagree c _ hc hread
  refine ⟨⟨c, _, hc, hsame, hencode hversion hpadded⟩, ?_⟩
  rw [(config_decoders_agree _ hascii' hzero').1, Option.isNone_iff_eq_none.mp hrefused]
  rintro ⟨cfg, ⟨⟩⟩

end HexapodVerified.Host
