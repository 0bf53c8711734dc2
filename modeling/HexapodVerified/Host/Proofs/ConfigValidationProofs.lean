import Mathlib.Data.Nat.Bitwise
import HexapodVerified.Config.Proofs.ValidateProofs
import HexapodVerified.Host.ConfigValidation
import HexapodVerified.Host.Proofs.RobotConfigProofs

/-!
# Host and controller validate the same configurations

Block by block, the host has no message about the object that holds a configuration of the controller
exactly when the controller accepts the block. What remains is the width of the integers: an object of the
host that it accepts holds a configuration of the controller unless one of the fields without a width check
is too large.
-/

namespace HexapodVerified.Host

open Checks

theorem ite_eq_nil {p q : Prop} [Decidable p] [Decidable q] {message again : String} :
    (if ¬ p then [message] else errorIf q again) = [] ↔ p ∧ ¬ q := by
  by_cases hp : p
  · rw [if_neg (not_not.mpr hp), errorIf_eq_nil, and_iff_right hp]
  · rw [if_pos hp]
    exact iff_of_false (List.cons_ne_nil _ _) fun h => hp h.1

theorem linkErrors_eq_nil {links : LinkLengths} :
    linkErrors links = [] ↔ (1 ≤ links.coxa_cmm ∧ links.coxa_cmm ≤ 0xFFFF) ∧
      (1 ≤ links.femur_cmm ∧ links.femur_cmm ≤ 0xFFFF) ∧
      (1 ≤ links.tibia_cmm ∧ links.tibia_cmm ≤ 0xFFFF) := by
  simp only [linkErrors, rangeErrors_eq_nil, List.forall_mem_cons, List.not_mem_nil, false_imp_iff,
    implies_true, and_true]

theorem geometryErrors_eq_nil {links : LinkLengths} {geometry : BodyGeometry}
    (hlinks : linkErrors links = []) :
    geometryErrors links geometry = [] ↔
      (1 ≤ geometry.home_radius_cmm ∧ geometry.home_radius_cmm ≤ 0xFFFF) ∧
      (-0x8000 ≤ geometry.home_foot_z_cmm ∧ geometry.home_foot_z_cmm ≤ 0x7FFF) ∧
      (0 ≤ geometry.coxa_lift_cmm ∧ geometry.coxa_lift_cmm ≤ 0xFFFF) ∧
      HomeReachable links geometry := by
  obtain ⟨hcoxa, hfemur, htibia⟩ := linkErrors_eq_nil.mp hlinks
  simp only [geometryErrors, List.append_eq_nil_iff, errorIf_eq_nil, not_not, not_and_not_right,
    and_assoc]
  refine and_congr_right fun hradius => and_congr_right fun hradius' => and_congr_right fun hz =>
    and_congr_right fun hz' => and_congr_right fun hlift => and_congr_right fun hlift' => ?_
  refine ⟨fun h => h ?_, fun h _ => h⟩
  simp only [List.forall_mem_cons, List.not_mem_nil, false_imp_iff, implies_true, and_true]
  omega

theorem legErrors_eq_nil {index : Nat} {leg : LegGeometry} :
    legErrors index leg = [] ↔ (-0x8000 ≤ leg.mount_x_dmm ∧ leg.mount_x_dmm ≤ 0x7FFF) ∧
      (-0x8000 ≤ leg.mount_y_dmm ∧ leg.mount_y_dmm ≤ 0x7FFF) ∧
      (-0x8000 ≤ leg.mount_z_dmm ∧ leg.mount_z_dmm ≤ 0x7FFF) ∧
      (-0x8000 ≤ leg.mount_yaw_cdeg ∧ leg.mount_yaw_cdeg ≤ 0x7FFF) := by
  simp only [legErrors, rangeErrors_eq_nil, List.forall_mem_cons, List.not_mem_nil, false_imp_iff,
    implies_true, and_true]

theorem legErrors_index (index : Nat) (leg : LegGeometry) :
    legErrors index leg = [] ↔ legErrors 0 leg = [] := by
  rw [legErrors_eq_nil, legErrors_eq_nil]

theorem gaitErrors_eq_nil {gait : GaitDefaults} :
    gaitErrors gait = [] ↔ (0 ≤ gait.gait ∧ gait.gait ≤ 5) ∧
      (40 ≤ gait.body_height_mm ∧ gait.body_height_mm ≤ 160) ∧
      (0 ≤ gait.stride_len_mm ∧ gait.stride_len_mm ≤ 80) ∧
      (0 ≤ gait.step_height_mm ∧ gait.step_height_mm ≤ 50) := by
  simp only [gaitErrors, List.append_eq_nil_iff, errorIf_eq_nil, not_not, gaitIds, List.mem_cons,
    List.not_mem_nil, or_false, and_assoc]
  omega

theorem featureErrors_eq_nil {feature_defaults : Int} :
    featureErrors feature_defaults = [] ↔
      (0 ≤ feature_defaults ∧ feature_defaults ≤ 0xFFFFFFFF) ∧
        feature_defaults.toNat.ldiff knownFeatures = 0 := by
  unfold featureErrors
  rw [ite_eq_nil, not_not]

theorem rcChannelErrors_eq_nil {index : Nat} {channel : RcChannelCalibration} :
    rcChannelErrors index channel = [] ↔ channel.type = expectedRcType channel.source ∧
      channel.min_raw < channel.max_raw ∧
      (channel.min_raw ≤ channel.center_raw ∧ channel.center_raw ≤ channel.max_raw) ∧
      (channel.type = RC_CENTERED_ANALOG →
        channel.center_raw ≠ channel.min_raw ∧ channel.center_raw ≠ channel.max_raw) ∧
      (channel.reversed = 0 ∨ channel.reversed = 1) ∧
      (0 ≤ channel.deadband_x255 ∧ channel.deadband_x255 ≤ 128) ∧
      (0 ≤ channel.expo_x255 ∧ channel.expo_x255 ≤ 255) ∧
      (0 ≤ channel.filter_tau_ms ∧ channel.filter_tau_ms ≤ RC_FILTER_TAU_MAX_MS) ∧
      (0 ≤ channel.switch_debounce_ms ∧
        channel.switch_debounce_ms ≤ RC_SWITCH_DEBOUNCE_MAX_MS) := by
  simp only [rcChannelErrors, List.append_eq_nil_iff, errorIf_eq_nil, not_not, List.mem_cons,
    List.not_mem_nil, or_false, and_assoc, ge_iff_le, not_le]
  simp only [not_and, not_or, ne_eq]

theorem bodyCommandErrors_eq_nil {body : BodyCommandLimits} :
    bodyCommandErrors body = [] ↔
      (1 ≤ body.max_forward_milli ∧ body.max_forward_milli ≤ 1000) ∧
      (1 ≤ body.max_reverse_milli ∧ body.max_reverse_milli ≤ 1000) ∧
      (1 ≤ body.max_lateral_milli ∧ body.max_lateral_milli ≤ 1000) ∧
      (1 ≤ body.max_yaw_milli ∧ body.max_yaw_milli ≤ 1000) ∧
      (1 ≤ body.forward_accel_milli_per_s ∧ body.forward_accel_milli_per_s ≤ 5000) ∧
      (1 ≤ body.forward_decel_milli_per_s ∧ body.forward_decel_milli_per_s ≤ 5000) ∧
      (1 ≤ body.lateral_accel_milli_per_s ∧ body.lateral_accel_milli_per_s ≤ 5000) ∧
      (1 ≤ body.lateral_decel_milli_per_s ∧ body.lateral_decel_milli_per_s ≤ 5000) ∧
      (1 ≤ body.yaw_accel_milli_per_s ∧ body.yaw_accel_milli_per_s ≤ 5000) ∧
      (1 ≤ body.yaw_decel_milli_per_s ∧ body.yaw_decel_milli_per_s ≤ 5000) ∧
      (1 ≤ body.height_rise_mm_per_s ∧ body.height_rise_mm_per_s ≤ 200) ∧
      (1 ≤ body.height_lower_mm_per_s ∧ body.height_lower_mm_per_s ≤ 200) ∧
      (1 ≤ body.pose_translation_rate_mm_per_s ∧ body.pose_translation_rate_mm_per_s ≤ 200) ∧
      (1 ≤ body.pose_rotation_rate_millirad_per_s ∧
        body.pose_rotation_rate_millirad_per_s ≤ 2000) := by
  simp only [bodyCommandErrors, List.append_eq_nil_iff, errorIf_eq_nil, rangeErrors_eq_nil, not_not,
    List.forall_mem_cons, List.not_mem_nil, false_imp_iff, implies_true, and_true, and_assoc]

theorem footErrors_eq_nil {index : Nat} {foot : FootSensorCal} :
    footErrors index foot = [] ↔
      (-0x80000000 ≤ foot.pressure_baseline ∧ foot.pressure_baseline ≤ 0x7FFFFFFF) ∧
      (0 ≤ foot.near_thresh ∧ foot.near_thresh ≤ 0xFFFF) ∧
      (0 ≤ foot.touch_thresh ∧ foot.touch_thresh ≤ 0xFFFF) ∧
      (0 ≤ foot.load_thresh ∧ foot.load_thresh ≤ 0xFFFF) ∧
      (foot.enabled ≠ 0 → foot.near_thresh ≠ 0 ∧ foot.touch_thresh ≠ 0 ∧ foot.load_thresh ≠ 0 ∧
        foot.touch_thresh ≤ foot.load_thresh) := by
  have hite (p : Prop) [Decidable p] (l : List String) :
      (if p then l else []) = [] ↔ (p → l = []) := by
    by_cases hp : p <;> simp only [hp, if_true, if_false, true_imp_iff, false_imp_iff]
  simp only [footErrors, List.append_eq_nil_iff, errorIf_eq_nil, rangeErrors_eq_nil, not_not,
    List.forall_mem_cons, List.not_mem_nil, false_imp_iff, implies_true, and_true, and_assoc, hite,
    not_or, not_lt, ne_eq]

theorem footErrors_index (index : Nat) (foot : FootSensorCal) :
    footErrors index foot = [] ↔ footErrors 0 foot = [] := by
  rw [footErrors_eq_nil, footErrors_eq_nil]

structure ServoInRange (servo : ServoConfig) : Prop where
  id : 1 ≤ servo.id ∧ servo.id ≤ 253
  leg : 0 ≤ servo.leg ∧ servo.leg < NUM_LEGS
  joint : 0 ≤ servo.joint ∧ servo.joint < JOINTS_PER_LEG
  sign : servo.sign = -1 ∨ servo.sign = 1
  trim_ticks : -0x8000 ≤ servo.trim_ticks ∧ servo.trim_ticks ≤ 0x7FFF
  min_tick : 0 ≤ servo.min_tick
  max_tick : servo.max_tick ≤ SERVO_MAX_TICK
  window : servo.min_tick < servo.max_tick

theorem servoErrors_eq_nil {servo_ids : Finset Int} {joint_slots : Finset (Int × Int)} {index : Nat}
    {servo : ServoConfig} :
    servoErrors servo_ids joint_slots index servo = [] ↔
      ServoInRange servo ∧ servo.id ∉ servo_ids ∧ (servo.leg, servo.joint) ∉ joint_slots := by
  simp only [servoErrors, List.append_eq_nil_iff, ite_eq_nil, errorIf_eq_nil, not_not, List.mem_cons,
    List.not_mem_nil, or_false, ge_iff_le, not_le]
  constructor
  · rintro ⟨⟨⟨⟨⟨⟨⟨⟨⟨hid, hfresh⟩, hleg⟩, hjoint⟩, hslot⟩, hsign⟩, htrim⟩, hmin⟩, hmax⟩, hwindow⟩
    exact ⟨⟨hid, hleg, hjoint, hsign, htrim, hmin.1, hmax.2, hwindow⟩, hfresh, hslot⟩
  · rintro ⟨⟨hid, hleg, hjoint, hsign, htrim, hmin, hmax, hwindow⟩, hfresh, hslot⟩
    exact ⟨⟨⟨⟨⟨⟨⟨⟨⟨hid, hfresh⟩, hleg⟩, hjoint⟩, hslot⟩, hsign⟩, htrim⟩, ⟨hmin, by omega⟩⟩,
      ⟨by omega, hmax⟩⟩, hwindow⟩

/-- The loop has no message if each servo is in range, no id and no slot comes twice, and the slots are all
the expected ones. -/
theorem servoMapErrors_eq_nil {servo_ids : Finset Int} {joint_slots : Finset (Int × Int)}
    {index : Nat} {servos : List ServoConfig} :
    servoMapErrors servo_ids joint_slots index servos = [] ↔
      (∀ servo ∈ servos, ServoInRange servo) ∧ Fresh (·.id) servo_ids servos ∧
        Fresh (fun servo => (servo.leg, servo.joint)) joint_slots servos ∧
        joint_slots ∪ (servos.map fun servo => (servo.leg, servo.joint)).toFinset = expectedSlots := by
  induction servos generalizing servo_ids joint_slots index with
  | nil =>
    rw [servoMapErrors, errorIf_eq_nil, not_not, List.map_nil, List.toFinset_nil, Finset.union_empty]
    exact ⟨fun h => ⟨nofun, fresh_nil, fresh_nil, h⟩,
      fun h => h.2.2.2⟩
  | cons servo rest ih =>
    rw [servoMapErrors, List.append_eq_nil_iff, servoErrors_eq_nil, ih, List.forall_mem_cons, fresh_cons,
      fresh_cons, List.map_cons, List.toFinset_cons, Finset.union_insert, Finset.insert_union]
    tauto

theorem rcInputErrors_eq_nil {sources : Finset Int} {index : Nat}
    {channels : List RcChannelCalibration} :
    rcInputErrors sources index channels = [] ↔
      (∀ channel ∈ channels, (1 ≤ channel.source ∧ channel.source ≤ 8) ∧
        rcChannelErrors 0 channel = []) ∧ Fresh (·.source) sources channels ∧
        sources ∪ (channels.map (·.source)).toFinset = expectedSources := by
  induction channels generalizing sources index with
  | nil =>
    rw [rcInputErrors, errorIf_eq_nil, not_not, List.map_nil, List.toFinset_nil, Finset.union_empty]
    exact ⟨fun h => ⟨List.forall_mem_nil _, fresh_nil, h⟩, fun h => h.2.2⟩
  | cons channel rest ih =>
    rw [rcInputErrors, List.append_eq_nil_iff, List.append_eq_nil_iff, ite_eq_nil, rcChannelErrors_eq_nil,
      ← @rcChannelErrors_eq_nil 0, ih, List.forall_mem_cons, fresh_cons, List.map_cons,
      List.toFinset_cons, Finset.union_insert, Finset.insert_union]
    tauto

theorem one_le_u16_iff {x : UInt16} : (1 ≤ (x.toNat : Int) ∧ (x.toNat : Int) ≤ 0xFFFF) ↔ x ≠ 0 := by
  have hx := x.toNat_lt
  rw [Ne, ← UInt16.toNat_inj]
  show _ ↔ ¬ x.toNat = 0
  omega

theorem int16_bounds (x : Int16) : -0x8000 ≤ x.toInt ∧ x.toInt ≤ 0x7FFF :=
  ⟨x.le_toInt, Int.le_of_lt_add_one x.toInt_lt⟩

theorem linkErrors_hostLinks (links : Config.LinkLengths) :
    linkErrors (hostLinks links) = [] ↔
      links.coxa_cmm ≠ 0 ∧ links.femur_cmm ≠ 0 ∧ links.tibia_cmm ≠ 0 := by
  rw [linkErrors_eq_nil]
  exact and_congr one_le_u16_iff (and_congr one_le_u16_iff one_le_u16_iff)

theorem homeReachable_host (cfg : Config.RobotConfig) :
    HomeReachable (hostLinks cfg.links) (hostGeometry cfg.geometry) ↔
      Config.homeReachable cfg = true := by
  rw [homeReachable_iff]
  unfold Config.homeReachable
  dsimp only [hostLinks, hostGeometry]
  have habs := Int.natAbs_mul_self' (cfg.links.femur_cmm.toNat - cfg.links.tibia_cmm.toNat : Int)
  simp only [habs, Bool.not_eq_true', Bool.or_eq_false_iff, decide_eq_false_iff_not, gt_iff_lt,
    not_lt, sq]
  have hnonneg : (0 : Int) ≤ cfg.links.femur_cmm.toNat + cfg.links.tibia_cmm.toNat := by omega
  exact and_congr_right fun _ => and_iff_right hnonneg

theorem geometryErrors_host {cfg : Config.RobotConfig}
    (hlinks : linkErrors (hostLinks cfg.links) = []) :
    geometryErrors (hostLinks cfg.links) (hostGeometry cfg.geometry) = [] ↔
      cfg.geometry.home_radius_cmm ≠ 0 ∧ Config.homeReachable cfg = true := by
  have hlift := cfg.geometry.coxa_lift_cmm.toNat_lt
  rw [geometryErrors_eq_nil hlinks, homeReachable_host]
  refine and_congr one_le_u16_iff ((and_iff_right (int16_bounds _)).trans (and_iff_right ?_))
  exact ⟨Int.natCast_nonneg _, Int.ofNat_le.mpr (Nat.le_of_lt_succ hlift)⟩

theorem legErrors_hostLeg (index : Nat) (leg : Config.LegGeometry) :
    legErrors index (hostLeg leg) = [] :=
  legErrors_eq_nil.mpr ⟨int16_bounds _, int16_bounds _, int16_bounds _, int16_bounds _⟩

theorem gaitErrors_hostGait (gait : Config.GaitDefaults) :
    gaitErrors (hostGait gait) = [] ↔
      ¬ gait.gait > Config.GaitId.crawl.wire ∧
      ¬ (gait.body_height_mm < Config.kMinGaitBodyHeightMm ∨
        gait.body_height_mm > Config.kMaxGaitBodyHeightMm) ∧
      ¬ gait.stride_len_mm > Config.kMaxGaitStrideMm ∧
      ¬ gait.step_height_mm > Config.kMaxGaitStepMm := by
  have h5 : Config.GaitId.crawl.wire.toNat = 5 := rfl
  have h40 : Config.kMinGaitBodyHeightMm.toNat = 40 := rfl
  have h160 : Config.kMaxGaitBodyHeightMm.toNat = 160 := rfl
  have h80 : Config.kMaxGaitStrideMm.toNat = 80 := rfl
  have h50 : Config.kMaxGaitStepMm.toNat = 50 := rfl
  rw [gaitErrors_eq_nil]
  dsimp only [hostGait]
  simp only [UInt8.lt_iff_toNat_lt, UInt16.lt_iff_toNat_lt, gt_iff_lt, h5, h40, h160, h80, h50]
  omega

theorem toNat_and_not (x m : UInt32) : (x &&& ~~~m).toNat = x.toNat.ldiff m.toNat := by
  refine Nat.eq_of_testBit_eq fun i => ?_
  rw [Nat.testBit_ldiff, ← UInt32.toNat_toBitVec, ← UInt32.toNat_toBitVec, ← UInt32.toNat_toBitVec,
    BitVec.testBit_toNat, BitVec.testBit_toNat, BitVec.testBit_toNat, UInt32.toBitVec_and,
    UInt32.toBitVec_not, BitVec.getLsbD_and, BitVec.getLsbD_not]
  by_cases hi : i < 32
  · rw [decide_eq_true hi, Bool.true_and]
  · rw [BitVec.getLsbD_of_ge _ _ (Nat.not_lt.mp hi), Bool.false_and, Bool.false_and]

theorem featureErrors_host (features : UInt32) :
    featureErrors features.toNat = [] ↔ features &&& ~~~Config.kKnownFeatureBits = 0 := by
  have hbound := features.toNat_lt
  have hknown : Config.kKnownFeatureBits.toNat = knownFeatures := by decide
  rw [featureErrors_eq_nil, ← UInt32.toNat_inj, toNat_and_not, hknown, Int.toNat_natCast]
  exact and_iff_right ⟨by omega, by omega⟩

theorem bodyCommandErrors_host (body : Config.BodyCommandLimits) :
    bodyCommandErrors (hostBodyCommand body) = [] ↔ Config.validateBodyCommandLimits body = true := by
  have h1000 : Config.kBodyCommandMaxScaleMilli.toNat = 1000 := rfl
  have h5000 : Config.kBodyCommandMaxAccelMilliPerS.toNat = 5000 := rfl
  have h200 : Config.kBodyHeightRateMaxMmPerS.toNat = 200 := rfl
  have h2000 : Config.kBodyPoseRotationRateMaxMilliRadPerS.toNat = 2000 := rfl
  have h0 : (0 : UInt16).toNat = 0 := rfl
  rw [bodyCommandErrors_eq_nil]
  dsimp only [hostBodyCommand]
  simp only [Config.validateBodyCommandLimits, Bool.and_eq_true, List.all_cons, List.all_nil,
    decide_eq_true_eq, UInt16.lt_iff_toNat_lt, UInt16.le_iff_toNat_le, and_true, h0, h1000, h5000,
    h200, h2000]
  omega

theorem footErrors_hostFoot (index : Nat) (foot : Config.FootSensorCal) :
    footErrors index (hostFoot foot) = [] ↔ Config.validateFoot foot = true := by
  have hbaseline := foot.pressure_baseline.toInt_lt
  have hbaseline' := foot.pressure_baseline.le_toInt
  have hnear := foot.near_thresh.toNat_lt
  have htouch := foot.touch_thresh.toNat_lt
  have hload := foot.load_thresh.toNat_lt
  have h0 : (0 : UInt16).toNat = 0 := rfl
  have h0' : (0 : UInt8).toNat = 0 := rfl
  rw [footErrors_eq_nil]
  dsimp only [hostFoot]
  unfold Config.validateFoot
  simp only [Bool.if_true_left, Bool.if_false_left, Bool.or_eq_true, Bool.and_eq_true,
    Bool.not_eq_true', decide_eq_true_eq, beq_iff_eq, decide_eq_false_iff_not, ← UInt8.toNat_inj,
    ← UInt16.toNat_inj, UInt16.lt_iff_toNat_lt, h0, h0', ne_eq]
  omega

theorem rcChannelErrors_host (index : Nat) {c : Config.RcChannelCalibration}
    (hsource : 1 ≤ c.source.toNat ∧ c.source.toNat ≤ 8) :
    rcChannelErrors index (hostRcChannel c) = [] ↔ Config.validateRcChannel c = true := by
  have hindex : (c.source - 1).toNat = c.source.toNat - 1 :=
    UInt8.toNat_sub_of_le _ _ (UInt8.le_iff_toNat_le.mpr hsource.1)
  have hexpo := c.expo_x255.toNat_lt
  have h4 : (4 : UInt8).toNat = 4 := rfl
  have h6 : (6 : UInt8).toNat = 6 := rfl
  have h1 : (1 : UInt8).toNat = 1 := rfl
  have h128 : (128 : UInt8).toNat = 128 := rfl
  have hcentered : Config.rcCenteredAnalog.toNat = 0 := rfl
  have hrelative : Config.rcRelativeEncoder.toNat = 2 := rfl
  have htau : Config.kRcFilterTauMaxMs.toNat = 1000 := rfl
  have hdebounce : Config.kRcSwitchDebounceMaxMs.toNat = 2000 := rfl
  rw [rcChannelErrors_eq_nil]
  unfold Config.validateRcChannel expectedRcType
  dsimp only [hostRcChannel, RC_CENTERED_ANALOG, RC_UNIPOLAR_ANALOG, RC_RELATIVE_ENCODER,
    RC_FILTER_TAU_MAX_MS, RC_SWITCH_DEBOUNCE_MAX_MS]
  simp only [Bool.if_true_right, Bool.if_false_left, Bool.or_eq_true, Bool.and_eq_true,
    Bool.not_eq_true', Bool.false_eq_true, or_false, decide_eq_true_eq, beq_iff_eq, bne_iff_ne,
    decide_eq_false_iff_not, ← UInt8.toNat_inj, ← Int16.toInt_inj, UInt8.lt_iff_toNat_lt,
    UInt8.le_iff_toNat_le, UInt16.lt_iff_toNat_lt, Int16.lt_iff_toInt_lt, Int16.le_iff_toInt_le,
    gt_iff_lt, ge_iff_le, hindex, h4, h6, h1, h128, hcentered, hrelative, htau, hdebounce, ne_eq]
  split_ifs <;> omega

theorem toNat_cast_injective : Function.Injective fun x : UInt8 => (x.toNat : Int) :=
  fun _ _ h => UInt8.toNat_inj.mp (Int.ofNat_inj.mp h)

theorem rcInputErrors_host (calibration : Config.RcInputCalibration) :
    rcInputErrors ∅ 0 (hostRcInput calibration).channels = [] ↔
      Config.validateRcInputCalibration calibration = true := by
  set channels := calibration.channels.toList with hchannels
  have hsources : ((hostRcInput calibration).channels.map (·.source)) =
      channels.map fun c => (c.source.toNat : Int) := List.map_map ..
  have hnodup : Fresh (·.source) ∅ (hostRcInput calibration).channels ↔
      Fresh (·.source) (∅ : Finset UInt8) channels := by
    rw [fresh_empty, fresh_empty, hsources]
    exact nodup_map_comp toNat_cast_injective
  have hchannel : (∀ channel ∈ (hostRcInput calibration).channels,
      (1 ≤ channel.source ∧ channel.source ≤ 8) ∧ rcChannelErrors 0 channel = []) ↔
      ∀ c ∈ channels, (1 ≤ c.source.toNat ∧ c.source.toNat ≤ 8) ∧
        Config.validateRcChannel c = true := by
    show (∀ channel ∈ channels.map hostRcChannel, _) ↔ _
    rw [List.forall_mem_map]
    refine forall₂_congr fun c _ => ?_
    have hrange : (1 ≤ (hostRcChannel c).source ∧ (hostRcChannel c).source ≤ 8) ↔
        (1 ≤ c.source.toNat ∧ c.source.toNat ≤ 8) := by
      dsimp only [hostRcChannel]
      omega
    rw [hrange]
    exact and_congr_right fun h => rcChannelErrors_host 0 h
  rw [rcInputErrors_eq_nil, hchannel, hnodup, Config.validateRcInputCalibration,
    Config.validateRcChannels_iff, List.toFinset_nil, Finset.empty_union, hsources]
  refine and_congr_right fun hrange => and_iff_left_of_imp fun hfresh => ?_
  refine toFinset_eq_of_nodup ((nodup_map_comp toNat_cast_injective).mpr (fresh_empty.mp hfresh)) ?_ ?_
  · intro source hsource
    obtain ⟨c, hc, rfl⟩ := List.mem_map.mp hsource
    have hc := (hrange c hc).1
    refine Finset.mem_image.mpr ⟨c.source.toNat - 1, Finset.mem_range.mpr ?_, ?_⟩
    · dsimp only [NUM_RC_ANALOG_INPUTS]
      omega
    · omega
  · rw [List.length_map, hchannels, Vector.length_toList]
    exact Finset.card_image_le

theorem servoInRange_hostServo (s : Config.ServoConfig) :
    ServoInRange (hostServo s) ↔ Config.validateServo s = true := by
  have htrim := int16_bounds s.trim_ticks
  have h0 : (0 : UInt8).toNat = 0 := rfl
  have h253 : (253 : UInt8).toNat = 253 := rfl
  have h6 : (6 : UInt8).toNat = 6 := rfl
  have h3 : (3 : UInt8).toNat = 3 := rfl
  have h1 : (1 : Int8).toInt = 1 := rfl
  have hneg : (-1 : Int8).toInt = -1 := rfl
  have hmax : Config.kServoMaxTick.toNat = 4095 := rfl
  have hfirmware : Config.validateServo s = true ↔ ¬ (s.id.toNat = 0) ∧ s.id.toNat ≤ 253 ∧
      s.leg.toNat < 6 ∧ s.joint.toNat < 3 ∧ (s.sign.toInt = 1 ∨ s.sign.toInt = -1) ∧
      s.min_tick.toNat < s.max_tick.toNat ∧ s.max_tick.toNat ≤ 4095 := by
    unfold Config.validateServo
    simp only [Bool.not_eq_true', Bool.or_eq_false_iff, Bool.and_eq_false_iff, bne_eq_false_iff_eq,
      beq_eq_false_iff_ne, decide_eq_false_iff_not, ← UInt8.toNat_inj, ← Int8.toInt_inj, gt_iff_lt,
      ge_iff_le, UInt8.lt_iff_toNat_lt, UInt8.le_iff_toNat_le, UInt16.lt_iff_toNat_lt,
      UInt16.le_iff_toNat_le, h0, h253, h6, h3, h1, hneg, hmax, not_lt, not_le, ne_eq, and_assoc]
  rw [hfirmware]
  constructor
  · rintro ⟨hid, hleg, hjoint, hsign, -, -, hmax, hwindow⟩
    dsimp only [hostServo, NUM_LEGS, JOINTS_PER_LEG, SERVO_MAX_TICK] at *
    omega
  · intro h
    constructor <;> dsimp only [hostServo, NUM_LEGS, JOINTS_PER_LEG, SERVO_MAX_TICK] <;> omega

def slot (s : Config.ServoConfig) : UInt8 × UInt8 := (s.leg, s.joint)

theorem validateServos_iff {seen servos : List Config.ServoConfig} :
    Config.validateServos seen servos = true ↔
      (∀ s ∈ servos, Config.validateServo s = true) ∧
        Fresh (·.id) (seen.map (·.id)).toFinset servos ∧
        Fresh slot (seen.map slot).toFinset servos ∧
        ∀ leg < Config.kNumLegs, ∀ joint < Config.kJointsPerLeg, ∃ s, (s ∈ servos ∨ s ∈ seen) ∧
          s.leg.toNat = leg ∧ s.joint.toNat = joint := by
  constructor
  · intro hv
    obtain ⟨hok, hpair, hseen, hcover⟩ := Config.validateServos_spec hv
    refine ⟨hok, ⟨?_, fun s hs hmem => ?_⟩, ⟨?_, fun s hs hmem => ?_⟩, hcover⟩
    · exact List.pairwise_map.mpr (hpair.imp fun h hid => h.2 hid)
    · obtain ⟨t, ht, hid⟩ := List.mem_map.mp (List.mem_toFinset.mp hmem)
      exact (hseen s hs t ht).2 hid
    · exact List.pairwise_map.mpr (hpair.imp fun h hslot => h.1 (Prod.mk.inj hslot))
    · obtain ⟨t, ht, hslot⟩ := List.mem_map.mp (List.mem_toFinset.mp hmem)
      exact (hseen s hs t ht).1 (Prod.mk.inj hslot)
  · induction servos generalizing seen with
    | nil =>
      rintro ⟨-, -, -, hcover⟩
      refine List.all_eq_true.mpr fun leg hleg => List.all_eq_true.mpr fun joint hjoint => ?_
      obtain ⟨s, hs | hs, hat⟩ :=
        hcover leg (List.mem_range.mp hleg) joint (List.mem_range.mp hjoint)
      · cases hs
      · exact List.any_eq_true.mpr ⟨s, hs, by rw [hat.1, hat.2, beq_self_eq_true, beq_self_eq_true]; rfl⟩
    | cons s rest ih =>
      rintro ⟨hok, hids, hslots, hcover⟩
      rw [List.forall_mem_cons] at hok
      rw [fresh_cons, ← List.toFinset_cons, ← List.map_cons] at hids hslots
      have hslot : seen.any (fun t => t.leg == s.leg && t.joint == s.joint) = false := by
        rw [List.any_eq_false]
        intro t ht heq
        rw [Bool.and_eq_true, beq_iff_eq, beq_iff_eq] at heq
        exact hslots.1 (List.mem_toFinset.mpr (List.mem_map.mpr ⟨t, ht, Prod.ext heq.1 heq.2⟩))
      have hid : seen.any (fun t => t.id == s.id) = false := by
        rw [List.any_eq_false]
        intro t ht heq
        exact hids.1 (List.mem_toFinset.mpr (List.mem_map.mpr ⟨t, ht, beq_iff_eq.mp heq⟩))
      have hrest : Config.validateServos (s :: seen) rest = true := by
        refine ih ⟨hok.2, hids.2, hslots.2, fun leg hleg joint hjoint => ?_⟩
        obtain ⟨t, ht, hat⟩ := hcover leg hleg joint hjoint
        refine ⟨t, ?_, hat⟩
        rw [List.mem_cons] at ht ⊢
        tauto
      rw [Config.validateServos, hok.1, hslot, hid, hrest]
      rfl

theorem servoMapErrors_host (cfg : Config.RobotConfig) :
    servoMapErrors ∅ ∅ 0 (cfg.servos.toList.map hostServo) = [] ↔
      Config.validateServos [] cfg.servos.toList = true := by
  set servos := cfg.servos.toList
  have hids : Fresh (·.id) ∅ (servos.map hostServo) ↔ Fresh (·.id) (∅ : Finset UInt8) servos := by
    rw [fresh_empty, fresh_empty, List.map_map]
    exact nodup_map_comp toNat_cast_injective
  have hslotsEq : ((servos.map hostServo).map fun servo => (servo.leg, servo.joint)) =
      servos.map fun s => ((s.leg.toNat : Int), (s.joint.toNat : Int)) := List.map_map ..
  have hinjective : Function.Injective fun x : UInt8 × UInt8 => ((x.1.toNat : Int), (x.2.toNat : Int)) :=
    fun x y h => Prod.ext (toNat_cast_injective (Prod.mk.inj h).1) (toNat_cast_injective (Prod.mk.inj h).2)
  have hslots : Fresh (fun servo => (servo.leg, servo.joint)) ∅ (servos.map hostServo) ↔
      Fresh slot (∅ : Finset (UInt8 × UInt8)) servos := by
    rw [fresh_empty, fresh_empty, hslotsEq]
    exact @nodup_map_comp _ _ slot servos _ _ hinjective
  rw [servoMapErrors_eq_nil, validateServos_iff, List.forall_mem_map, hids, hslots, List.map_nil,
    List.map_nil, List.toFinset_nil, List.toFinset_nil, Finset.empty_union, hslotsEq]
  simp only [servoInRange_hostServo]
  refine and_congr_right fun hok => and_congr_right fun _ => and_congr_right fun _ => ?_
  constructor
  · intro heq leg hleg joint hjoint
    have hmem : ((leg : Int), (joint : Int)) ∈ expectedSlots :=
      Finset.mem_image.mpr ⟨(leg, joint), Finset.mem_product.mpr
        ⟨Finset.mem_range.mpr hleg, Finset.mem_range.mpr hjoint⟩, rfl⟩
    rw [← heq, List.mem_toFinset] at hmem
    obtain ⟨s, hs, hat⟩ := List.mem_map.mp hmem
    exact ⟨s, .inl hs, Int.ofNat_inj.mp (Prod.mk.inj hat).1, Int.ofNat_inj.mp (Prod.mk.inj hat).2⟩
  · intro hcover
    ext ⟨leg, joint⟩
    rw [List.mem_toFinset, List.mem_map]
    constructor
    · rintro ⟨s, hs, hat⟩
      have hbounds := Config.validateServo_bounds (hok s hs)
      exact Finset.mem_image.mpr ⟨(s.leg.toNat, s.joint.toNat), Finset.mem_product.mpr
        ⟨Finset.mem_range.mpr hbounds.1, Finset.mem_range.mpr hbounds.2.1⟩, hat⟩
    · intro hmem
      obtain ⟨⟨l, j⟩, hlj, hat⟩ := Finset.mem_image.mp hmem
      rw [Finset.mem_product, Finset.mem_range, Finset.mem_range] at hlj
      obtain ⟨s, hs | hs, hleg, hjoint⟩ := hcover l hlj.1 j hlj.2
      · exact ⟨s, hs, by rw [hleg, hjoint]; exact hat⟩
      · cases hs

/-- A configuration of the controller is valid for the host exactly when it is for the controller. -/
theorem validateRobotConfig_hostConfig {name : String} (cfg : Config.RobotConfig) :
    validateRobotConfig (hostConfig name cfg) = [] ↔
      asciiLength name < ROBOT_NAME_LEN ∧ Config.validateRobotConfig cfg = true := by
  have hschema : (hostConfig name cfg).schema_version = SCHEMA_VERSION ↔
      ¬ (cfg.schema_version != Config.kSchemaVersion) = true := by
    rw [bne_iff_ne, not_not, ← UInt16.toNat_inj]
    exact Int.ofNat_inj
  have hlegs : enumErrors legErrors 0 (hostConfig name cfg).legs = [] := by
    refine (enumErrors_eq_nil legErrors_index).mpr fun leg hleg => ?_
    obtain ⟨leg, -, rfl⟩ := List.mem_map.mp hleg
    exact legErrors_hostLeg 0 leg
  have hfeet : enumErrors footErrors 0 (hostConfig name cfg).feet = [] ↔
      cfg.feet.toList.all Config.validateFoot = true := by
    rw [enumErrors_eq_nil footErrors_index, List.all_eq_true]
    show (∀ foot ∈ cfg.feet.toList.map hostFoot, _) ↔ _
    rw [List.forall_mem_map]
    exact forall₂_congr fun foot _ => footErrors_hostFoot 0 foot
  have hlegsLen : (hostConfig name cfg).legs.length = NUM_LEGS := length_hostList cfg.legs hostLeg
  have hservosLen : (hostConfig name cfg).servos.length = NUM_SERVOS :=
    length_hostList cfg.servos hostServo
  have hfeetLen : (hostConfig name cfg).feet.length = NUM_FOOT_SENSORS :=
    length_hostList cfg.feet hostFoot
  have hrcLen : (hostConfig name cfg).rc_input.channels.length = NUM_RC_ANALOG_INPUTS :=
    length_hostList cfg.rc_input.channels hostRcChannel
  simp only [validateRobotConfig, List.append_eq_nil_iff, errorIf_eq_nil, not_not, ge_iff_le, not_le,
    hschema, hlegs, hfeet, hlegsLen, hservosLen, hfeetLen, hrcLen, ne_eq, and_true]
  simp only [Config.validateRobotConfig, Bool.if_false_left, Bool.and_eq_true, Bool.not_eq_true',
    decide_eq_false_iff_not]
  dsimp only [hostConfig]
  have hgeometry : (linkErrors (hostLinks cfg.links) = [] ∧
      geometryErrors (hostLinks cfg.links) (hostGeometry cfg.geometry) = []) ↔
      (cfg.links.coxa_cmm ≠ 0 ∧ cfg.links.femur_cmm ≠ 0 ∧ cfg.links.tibia_cmm ≠ 0) ∧
        cfg.geometry.home_radius_cmm ≠ 0 ∧ Config.homeReachable cfg = true := by
    rw [← linkErrors_hostLinks]
    exact and_congr_right fun hlinks => geometryErrors_host hlinks
  rw [gaitErrors_hostGait, featureErrors_host, rcInputErrors_host, bodyCommandErrors_host,
    servoMapErrors_host]
  simp only [and_assoc, Bool.or_eq_true, beq_iff_eq, decide_eq_true_eq, bne_iff_ne, Bool.not_eq_false,
    not_or, ne_eq, not_not] at hgeometry ⊢
  -- The host looks at the features before the RC input, the controller after the body command.
  constructor
  · rintro ⟨hschema, hname, hlinks, hgeom, hgait, hlow, hhigh, hstride, hstep, hfeatures, hrc, hbody,
      hrest⟩
    obtain ⟨hcoxa, hfemur, htibia, hradius, hreach⟩ := hgeometry.mp ⟨hlinks, hgeom⟩
    exact ⟨hname, hschema, hcoxa, hfemur, htibia, hradius, hreach, hgait, hlow, hhigh, hstride, hstep,
      hrc, hbody, hfeatures, hrest⟩
  · rintro ⟨hname, hschema, hcoxa, hfemur, htibia, hradius, hreach, hgait, hlow, hhigh, hstride, hstep,
      hrc, hbody, hfeatures, hrest⟩
    obtain ⟨hlinks, hgeom⟩ := hgeometry.mpr ⟨hcoxa, hfemur, htibia, hradius, hreach⟩
    exact ⟨hschema, hname, hlinks, hgeom, hgait, hlow, hhigh, hstride, hstep, hfeatures, hrc, hbody,
      hrest⟩

end HexapodVerified.Host
