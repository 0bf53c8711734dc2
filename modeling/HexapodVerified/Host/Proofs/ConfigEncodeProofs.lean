import HexapodVerified.Host.Proofs.ConfigValidationProofs

/-!
# What the host validates can be sent

An object without messages holds a configuration of the controller if its integers have the width of
their fields. The validator checks the width of every field but the duty and the speed of the gait, the
raw limits of the RC channels and the enable flag of a foot.
-/

namespace HexapodVerified.Host

open Checks Struct

/-- The fields whose width `validate_robot_config` does not check have it. -/
structure UncheckedWidthsFit (config : RobotConfig) : Prop where
  duty_x255 : 0 ≤ config.gait.duty_x255 ∧ config.gait.duty_x255 ≤ 255
  speed_x255 : 0 ≤ config.gait.speed_x255 ∧ config.gait.speed_x255 ≤ 255
  raw : ∀ channel ∈ config.rc_input.channels, -0x8000 ≤ channel.min_raw ∧ channel.max_raw ≤ 0x7FFF
  enabled : ∀ foot ∈ config.feet, 0 ≤ foot.enabled ∧ foot.enabled ≤ 255

theorem exists_hostLinks {links : LinkLengths} (h : linkErrors links = []) :
    ∃ old, hostLinks old = links := by
  obtain ⟨hcoxa, hfemur, htibia⟩ := linkErrors_eq_nil.mp h
  obtain ⟨coxa_cmm, femur_cmm, tibia_cmm⟩ := links
  obtain ⟨coxa, rfl⟩ := exists_u16 ⟨Int.le_of_lt hcoxa.1, hcoxa.2⟩
  obtain ⟨femur, rfl⟩ := exists_u16 ⟨Int.le_of_lt hfemur.1, hfemur.2⟩
  obtain ⟨tibia, rfl⟩ := exists_u16 ⟨Int.le_of_lt htibia.1, htibia.2⟩
  exact ⟨⟨coxa, femur, tibia⟩, rfl⟩

theorem exists_hostGeometry {links : LinkLengths} {geometry : BodyGeometry}
    (hlinks : linkErrors links = []) (h : geometryErrors links geometry = []) :
    ∃ old, hostGeometry old = geometry := by
  obtain ⟨hradius, hz, hlift, -⟩ := (geometryErrors_eq_nil hlinks).mp h
  obtain ⟨home_radius_cmm, home_foot_z_cmm, coxa_lift_cmm⟩ := geometry
  obtain ⟨radius, rfl⟩ := exists_u16 ⟨Int.le_of_lt hradius.1, hradius.2⟩
  obtain ⟨z, rfl⟩ := exists_i16 hz
  obtain ⟨lift, rfl⟩ := exists_u16 hlift
  exact ⟨⟨radius, z, lift⟩, rfl⟩

theorem exists_hostLeg {index : Nat} {leg : LegGeometry} (h : legErrors index leg = []) :
    ∃ old, hostLeg old = leg := by
  obtain ⟨hx, hy, hz, hyaw⟩ := legErrors_eq_nil.mp h
  obtain ⟨mount_x_dmm, mount_y_dmm, mount_z_dmm, mount_yaw_cdeg⟩ := leg
  obtain ⟨x, rfl⟩ := exists_i16 hx
  obtain ⟨y, rfl⟩ := exists_i16 hy
  obtain ⟨z, rfl⟩ := exists_i16 hz
  obtain ⟨yaw, rfl⟩ := exists_i16 hyaw
  exact ⟨⟨x, y, z, yaw⟩, rfl⟩

theorem exists_hostServo {servo : ServoConfig} (h : ServoInRange servo) :
    ∃ old, hostServo old = servo := by
  obtain ⟨⟨hid, hid'⟩, ⟨hleg, hleg'⟩, ⟨hjoint, hjoint'⟩, hsign, htrim, hmin, hmax, hwindow⟩ := h
  dsimp only [NUM_LEGS, JOINTS_PER_LEG, SERVO_MAX_TICK] at *
  obtain ⟨sid, leg, joint, sign, trim_ticks, min_tick, max_tick⟩ := servo
  dsimp only at *
  obtain ⟨sid, rfl⟩ := exists_u8 (v := sid) ⟨by omega, by omega⟩
  obtain ⟨leg, rfl⟩ := exists_u8 (v := leg) ⟨by omega, by omega⟩
  obtain ⟨joint, rfl⟩ := exists_u8 (v := joint) ⟨by omega, by omega⟩
  obtain ⟨sign, rfl⟩ := exists_i8 (v := sign) ⟨by omega, by omega⟩
  obtain ⟨trim, rfl⟩ := exists_i16 htrim
  obtain ⟨min, rfl⟩ := exists_u16 (v := min_tick) ⟨by omega, by omega⟩
  obtain ⟨max, rfl⟩ := exists_u16 (v := max_tick) ⟨by omega, by omega⟩
  exact ⟨⟨sid, leg, joint, sign, trim, min, max⟩, rfl⟩

theorem exists_hostGait {gait : GaitDefaults} (h : gaitErrors gait = [])
    (hduty : 0 ≤ gait.duty_x255 ∧ gait.duty_x255 ≤ 255)
    (hspeed : 0 ≤ gait.speed_x255 ∧ gait.speed_x255 ≤ 255) : ∃ old, hostGait old = gait := by
  obtain ⟨hgait, hheight, hstride, hstep⟩ := gaitErrors_eq_nil.mp h
  obtain ⟨body_height_mm, stride_len_mm, step_height_mm, duty_x255, speed_x255, gait⟩ := gait
  dsimp only at *
  obtain ⟨height, rfl⟩ := exists_u16 (v := body_height_mm) ⟨by omega, by omega⟩
  obtain ⟨stride, rfl⟩ := exists_u16 (v := stride_len_mm) ⟨by omega, by omega⟩
  obtain ⟨step, rfl⟩ := exists_u16 (v := step_height_mm) ⟨by omega, by omega⟩
  obtain ⟨duty, rfl⟩ := exists_u8 hduty
  obtain ⟨speed, rfl⟩ := exists_u8 hspeed
  obtain ⟨gait, rfl⟩ := exists_u8 (v := gait) ⟨by omega, by omega⟩
  exact ⟨⟨height, stride, step, duty, speed, gait⟩, rfl⟩

theorem expectedRcType_range (source : Int) :
    0 ≤ expectedRcType source ∧ expectedRcType source ≤ 2 := by
  unfold expectedRcType
  split_ifs <;> decide

theorem exists_hostRcChannel {index : Nat} {channel : RcChannelCalibration}
    (hsource : 1 ≤ channel.source ∧ channel.source ≤ 8) (h : rcChannelErrors index channel = [])
    (hraw : -0x8000 ≤ channel.min_raw ∧ channel.max_raw ≤ 0x7FFF) :
    ∃ old, hostRcChannel old = channel := by
  obtain ⟨htype, hrange, hcenter, -, hreversed, hdeadband, hexpo, htau, hdebounce⟩ :=
    rcChannelErrors_eq_nil.mp h
  have htypes := expectedRcType_range channel.source
  rw [← htype] at htypes
  dsimp only [RC_FILTER_TAU_MAX_MS, RC_SWITCH_DEBOUNCE_MAX_MS] at htau hdebounce
  clear htype
  obtain ⟨source, type, min_raw, center_raw, max_raw, reversed, deadband_x255, expo_x255, filter_tau_ms,
    switch_debounce_ms⟩ := channel
  dsimp only at *
  obtain ⟨source, rfl⟩ := exists_u8 (v := source) ⟨by omega, by omega⟩
  obtain ⟨type, rfl⟩ := exists_u8 (v := type) ⟨by omega, by omega⟩
  obtain ⟨min, rfl⟩ := exists_i16 (v := min_raw) ⟨by omega, by omega⟩
  obtain ⟨center, rfl⟩ := exists_i16 (v := center_raw) ⟨by omega, by omega⟩
  obtain ⟨max, rfl⟩ := exists_i16 (v := max_raw) ⟨by omega, by omega⟩
  obtain ⟨reversed, rfl⟩ := exists_u8 (v := reversed) ⟨by omega, by omega⟩
  obtain ⟨deadband, rfl⟩ := exists_u8 (v := deadband_x255) ⟨by omega, by omega⟩
  obtain ⟨expo, rfl⟩ := exists_u8 hexpo
  obtain ⟨tau, rfl⟩ := exists_u16 (v := filter_tau_ms) ⟨by omega, by omega⟩
  obtain ⟨debounce, rfl⟩ := exists_u16 (v := switch_debounce_ms) ⟨by omega, by omega⟩
  exact ⟨⟨source, type, min, center, max, reversed, deadband, expo, tau, debounce⟩, rfl⟩

theorem exists_hostBodyCommand {body : BodyCommandLimits} (h : bodyCommandErrors body = []) :
    ∃ old, hostBodyCommand old = body := by
  have hu16 {v : Int} (h : 1 ≤ v ∧ v ≤ 5000) : ∃ x : UInt16, (x.toNat : Int) = v :=
    exists_u16 ⟨by omega, by omega⟩
  obtain ⟨h1, h2, h3, h4, h5, h6, h7, h8, h9, h10, h11, h12, h13, h14⟩ := bodyCommandErrors_eq_nil.mp h
  obtain ⟨f1, f2, f3, f4, f5, f6, f7, f8, f9, f10, f11, f12, f13, f14⟩ := body
  dsimp only at *
  obtain ⟨x1, rfl⟩ := hu16 (v := f1) ⟨by omega, by omega⟩
  obtain ⟨x2, rfl⟩ := hu16 (v := f2) ⟨by omega, by omega⟩
  obtain ⟨x3, rfl⟩ := hu16 (v := f3) ⟨by omega, by omega⟩
  obtain ⟨x4, rfl⟩ := hu16 (v := f4) ⟨by omega, by omega⟩
  obtain ⟨x5, rfl⟩ := hu16 h5
  obtain ⟨x6, rfl⟩ := hu16 h6
  obtain ⟨x7, rfl⟩ := hu16 h7
  obtain ⟨x8, rfl⟩ := hu16 h8
  obtain ⟨x9, rfl⟩ := hu16 h9
  obtain ⟨x10, rfl⟩ := hu16 h10
  obtain ⟨x11, rfl⟩ := hu16 (v := f11) ⟨by omega, by omega⟩
  obtain ⟨x12, rfl⟩ := hu16 (v := f12) ⟨by omega, by omega⟩
  obtain ⟨x13, rfl⟩ := hu16 (v := f13) ⟨by omega, by omega⟩
  obtain ⟨x14, rfl⟩ := hu16 (v := f14) ⟨by omega, by omega⟩
  exact ⟨⟨x1, x2, x3, x4, x5, x6, x7, x8, x9, x10, x11, x12, x13, x14⟩, rfl⟩

theorem exists_hostFoot {index : Nat} {foot : FootSensorCal} (h : footErrors index foot = [])
    (henabled : 0 ≤ foot.enabled ∧ foot.enabled ≤ 255) : ∃ old, hostFoot old = foot := by
  obtain ⟨hbaseline, hnear, htouch, hload, -⟩ := footErrors_eq_nil.mp h
  obtain ⟨pressure_baseline, near_thresh, touch_thresh, load_thresh, enabled⟩ := foot
  obtain ⟨baseline, rfl⟩ := exists_i32 hbaseline
  obtain ⟨near, rfl⟩ := exists_u16 hnear
  obtain ⟨touch, rfl⟩ := exists_u16 htouch
  obtain ⟨load, rfl⟩ := exists_u16 hload
  obtain ⟨enabled, rfl⟩ := exists_u8 henabled
  exact ⟨⟨baseline, near, touch, load, enabled⟩, rfl⟩

/-- An ASCII name that is short enough is written as a terminated name field. -/
theorem exists_encodeName {robot_name : String} (hascii : ∀ c ∈ robot_name.toList, c.toNat < 128)
    (hshort : asciiLength robot_name < ROBOT_NAME_LEN) :
    ∃ name : Vector UInt8 Config.kRobotNameLen,
      encodeName robot_name = .ok name.toList ∧ name.get 15 = 0 := by
  have hlen : robot_name.toList.length < ROBOT_NAME_LEN := by
    have hfilter : robot_name.toList.filter (fun c => c.toNat < 128) = robot_name.toList :=
      List.filter_eq_self.mpr fun c hc => decide_eq_true (hascii c hc)
    rwa [asciiLength, hfilter] at hshort
  have hall : (robot_name.toList.all fun c => c.toNat < 128) = true :=
    List.all_eq_true.mpr fun c hc => decide_eq_true (hascii c hc)
  set codes := robot_name.toList.map fun c => UInt8.ofNat c.toNat with hcodes
  have hcodesLen : codes.length ≤ ROBOT_NAME_LEN - 1 := by
    rw [hcodes, List.length_map]
    exact Nat.le_sub_one_of_lt hlen
  have hencode : encodeName robot_name =
      .ok (codes ++ List.replicate (ROBOT_NAME_LEN - codes.length) 0) := by
    unfold encodeName encodeAscii
    rw [if_pos hall]
    show Except.ok (codes.take (ROBOT_NAME_LEN - 1) ++ List.replicate
      (ROBOT_NAME_LEN - (codes.take (ROBOT_NAME_LEN - 1)).length) 0) = _
    rw [List.take_of_length_le hcodesLen]
  have hsize : (codes ++ List.replicate (ROBOT_NAME_LEN - codes.length) 0).toArray.size =
      Config.kRobotNameLen := by
    rw [List.size_toArray, List.length_append, List.length_replicate]
    exact Nat.add_sub_of_le (Nat.le_trans hcodesLen (Nat.sub_le ..))
  set name : Vector UInt8 Config.kRobotNameLen := ⟨_, hsize⟩
  have hname : name.toList = codes ++ List.replicate (ROBOT_NAME_LEN - codes.length) 0 := rfl
  have hlast : name.toList[15]? = some 0 := by
    rw [hname, List.getElem?_append_right (show codes.length ≤ 15 from hcodesLen),
      List.getElem?_replicate, if_pos (by dsimp only [ROBOT_NAME_LEN] at *; omega)]
  rw [Vector.getElem?_toList, Vector.getElem?_eq_getElem (by decide)] at hlast
  exact ⟨name, hencode, Option.some.inj hlast⟩

/-- An object without messages whose integers have the width of their fields holds a configuration of the
controller with a terminated name. -/
theorem exists_hostConfig {config : RobotConfig}
    (hascii : ∀ c ∈ config.robot_name.toList, c.toNat < 128) (hvalid : validateRobotConfig config = [])
    (hfit : UncheckedWidthsFit config) :
    ∃ cfg, hostConfig config.robot_name cfg = config ∧
      encodeName config.robot_name = .ok cfg.robot_name.toList ∧ Config.NameTerminated cfg := by
  simp only [validateRobotConfig, List.append_eq_nil_iff, errorIf_eq_nil, not_not, ge_iff_le, not_le,
    ne_eq, and_assoc] at hvalid
  obtain ⟨hschema, hname, hlinks, hgeometry, hlegsLen, hlegs, hgait, hfeatures, hrcLen, hrc, hbody,
    hservosLen, hservos, hfeetLen, hfeet⟩ := hvalid
  rw [enumErrors_eq_nil legErrors_index] at hlegs
  rw [enumErrors_eq_nil footErrors_index] at hfeet
  obtain ⟨schema_version, robot_name, links, geometry, legs, servos, gait, ⟨channels⟩, body_command, feet,
    feature_defaults⟩ := config
  dsimp only at *
  obtain ⟨name, hencode, hterminated⟩ := exists_encodeName hascii hname
  obtain ⟨links, rfl⟩ := exists_hostLinks hlinks
  obtain ⟨geometry, rfl⟩ := exists_hostGeometry hlinks hgeometry
  obtain ⟨legs, rfl⟩ := exists_vector_map hlegsLen fun leg hleg => exists_hostLeg (hlegs leg hleg)
  obtain ⟨servos, rfl⟩ := exists_vector_map hservosLen fun servo hservo =>
    exists_hostServo ((servoMapErrors_eq_nil.mp hservos).1 servo hservo)
  obtain ⟨gait, rfl⟩ := exists_hostGait hgait hfit.duty_x255 hfit.speed_x255
  obtain ⟨channels, rfl⟩ := exists_vector_map hrcLen fun channel hchannel =>
    have hok := (rcInputErrors_eq_nil.mp hrc).1 channel hchannel
    exists_hostRcChannel hok.1 hok.2 (hfit.raw channel hchannel)
  obtain ⟨body, rfl⟩ := exists_hostBodyCommand hbody
  obtain ⟨feet, rfl⟩ := exists_vector_map hfeetLen fun foot hfoot =>
    exists_hostFoot (hfeet foot hfoot) (hfit.enabled foot hfoot)
  obtain ⟨features, rfl⟩ := exists_u32 (featureErrors_eq_nil.mp hfeatures).1
  exact ⟨⟨Config.kSchemaVersion, name, links, geometry, legs, servos, gait, ⟨channels⟩, body, feet,
    features⟩, by rw [hschema]; rfl, hencode, hterminated⟩

/-- The controller accepts a payload: it can be read and is valid. -/
def Accepted (payload : List UInt8) : Prop :=
  ∃ cfg, Config.deserializeRobotConfig payload = some cfg ∧ Config.validateRobotConfig cfg = true

theorem bind_eq_ok {α β ε : Type} {x : Except ε α} {f : α → Except ε β} {b : β}
    (h : (x >>= f) = .ok b) : ∃ a, x = .ok a ∧ f a = .ok b := by
  cases x with
  | error e => cases h
  | ok a => exact ⟨a, rfl, h⟩

theorem eq_some_of_packOrRaise {packed : Option (List UInt8)} {bytes : List UInt8}
    (h : packOrRaise packed = .ok bytes) : packed = some bytes := by
  cases packed with
  | none => cases h
  | some bytes' =>
    cases h
    rfl

theorem fits_of_encode {config : RobotConfig} {bytes : List UInt8}
    (h : encodeRobotConfig config = .ok bytes) : UncheckedWidthsFit config := by
  iterate 6 obtain ⟨_, -, h⟩ := bind_eq_ok h
  obtain ⟨_, hgait, h⟩ := bind_eq_ok h
  have hlen : config.rc_input.channels.length = NUM_RC_ANALOG_INPUTS := by
    by_contra hlen
    rw [if_pos hlen] at h
    cases h
  rw [if_neg (not_not.mpr hlen)] at h
  obtain ⟨_, hchannels, h⟩ := bind_eq_ok h
  obtain ⟨_, -, h⟩ := bind_eq_ok h
  obtain ⟨_, hfeet, -⟩ := bind_eq_ok h
  have hgait := holds_of_packFields (eq_some_of_packOrRaise hgait)
  refine ⟨hgait (.B, config.gait.duty_x255) (by simp), hgait (.B, config.gait.speed_x255) (by simp),
    fun channel hchannel => ?_, fun foot hfoot => ?_⟩
  · obtain ⟨bytes, hbytes⟩ := exists_of_packList (eq_some_of_packOrRaise hchannels) channel hchannel
    have hfields := holds_of_packFields hbytes
    have hmin : Code.h.Holds channel.min_raw := hfields (.h, channel.min_raw) (by simp)
    have hmax : Code.h.Holds channel.max_raw := hfields (.h, channel.max_raw) (by simp)
    exact ⟨hmin.1, hmax.2⟩
  · obtain ⟨bytes, hbytes⟩ := exists_of_packList (eq_some_of_packOrRaise hfeet) foot hfoot
    exact holds_of_packFields hbytes (.B, foot.enabled) (by simp)

theorem accepted_of_fits {config : RobotConfig}
    (hascii : ∀ c ∈ config.robot_name.toList, c.toNat < 128) (hvalid : validateRobotConfig config = [])
    (hfit : UncheckedWidthsFit config) :
    ∃ bytes, encodeRobotConfig config = .ok bytes ∧ Accepted bytes := by
  obtain ⟨cfg, hconfig, hname, hterminated⟩ := exists_hostConfig hascii hvalid hfit
  have hvalid' : Config.validateRobotConfig cfg = true := by
    rw [← hconfig] at hvalid
    exact ((validateRobotConfig_hostConfig cfg).mp hvalid).2
  have hread := Config.deserialize_payloadOf (Config.schema_of_valid hvalid') hterminated
  refine ⟨Config.payloadOf cfg, ?_, cfg, hread, hvalid'⟩
  rw [← hconfig]
  exact encodeRobotConfig_hostConfig cfg hname

theorem valid_of_accepted {payload : List UInt8} (hzero : 0 ∈ nameField payload)
    (haccepted : Accepted payload) :
    ∃ config, decodeRobotConfig payload = .ok config ∧ validateRobotConfig config = [] := by
  obtain ⟨out, hread, hvalid⟩ := haccepted
  obtain ⟨version, size, cfg, hsize, rfl, -, rfl⟩ := Config.of_deserialize_eq_some hread
  rw [nameField_schemaPayload] at hzero
  refine ⟨_, decodeRobotConfig_schemaPayload hsize cfg, ?_⟩
  refine (validateRobotConfig_hostConfig _).mpr ⟨?_, hvalid⟩
  have hlt := takeWhile_length_lt hzero
  rw [Vector.length_toList] at hlt
  refine Nat.lt_of_le_of_lt (List.length_filter_le _ _) ?_
  rwa [trimName, decodeAscii, String.toList_ofList, List.length_map]

/-- An object that passes the validation of the host is encoded and accepted by the controller exactly when
the fields whose width was not checked fit; and what the controller accepts passes the validation. -/
theorem validateRobotConfig_exact (config : RobotConfig) (payload : List UInt8) :
    ((∀ c ∈ config.robot_name.toList, c.toNat < 128) → validateRobotConfig config = [] →
      ((∃ bytes, encodeRobotConfig config = .ok bytes ∧ Accepted bytes) ↔
        UncheckedWidthsFit config)) ∧
    (0 ∈ nameField payload → Accepted payload →
      ∃ config, decodeRobotConfig payload = .ok config ∧ validateRobotConfig config = []) := by
  constructor
  · intro hascii hvalid
    constructor
    · rintro ⟨bytes, hencode, -⟩
      exact fits_of_encode hencode
    · exact accepted_of_fits hascii hvalid
  · intro hzero haccepted
    exact valid_of_accepted hzero haccepted

def stagedConfig : RobotConfig :=
  hostConfig (String.ofList ['H', 'e', 'x', 'N', 'a', 'v']) Config.defaultRobotConfig

theorem stagedConfig_ascii : ∀ c ∈ stagedConfig.robot_name.toList, c.toNat < 128 := by
  show ∀ c ∈ (String.ofList ['H', 'e', 'x', 'N', 'a', 'v']).toList, c.toNat < 128
  simp

theorem stagedConfig_valid : validateRobotConfig stagedConfig = [] := by
  refine (validateRobotConfig_hostConfig _).mpr ⟨?_, Config.validate_defaultRobotConfig⟩
  rw [asciiLength, String.toList_ofList]
  decide

theorem validateRobotConfig_exact_staged :
    ((∃ bytes, encodeRobotConfig stagedConfig = .ok bytes ∧ Accepted bytes) ↔
      UncheckedWidthsFit stagedConfig) ∧
    ∃ config, decodeRobotConfig Config.defaultPayload = .ok config ∧
      validateRobotConfig config = [] :=
  have h := validateRobotConfig_exact stagedConfig Config.defaultPayload
  ⟨h.1 stagedConfig_ascii stagedConfig_valid, h.2 (by decide)
    ⟨Config.defaultRobotConfig, Config.deserialize_payloadOf rfl (by decide),
      Config.validate_defaultRobotConfig⟩⟩

/-- A duty of 256 passes the validation and cannot be packed in its byte. -/
theorem validateRobotConfig_misses_width :
    ¬ ∀ config : RobotConfig, (∀ c ∈ config.robot_name.toList, c.toNat < 128) →
      validateRobotConfig config = [] →
      ∃ bytes, encodeRobotConfig config = .ok bytes ∧ Accepted bytes := by
  intro h
  -- no check of the validator reads the duty
  obtain ⟨bytes, hencode, -⟩ := h { stagedConfig with gait := { stagedConfig.gait with duty_x255 := 256 } }
    stagedConfig_ascii stagedConfig_valid
  have hduty := (fits_of_encode hencode).duty_x255
  nomatch hduty.2

end HexapodVerified.Host
