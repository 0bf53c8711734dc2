import HexapodVerified.Controller.ControllerContract
import HexapodVerified.Input.Bindings
import HexapodVerified.Input.RcInputConditioner

/-!
# The controller bridge

`input/controller_bridge.cpp`: from the channels of the hand controller to one command. The source
writes one long-lived command in place; here each part of `update` maps the bridge to the bridge after
it. The build that skips the detection of the input profile is left out.
-/

namespace HexapodVerified.Input

open HexapodVerified.Config FloatArith

variable {F : Type} [FloatExp F]

/-! ## The bridge -/

inductive InputProfile where
  | unknown | customControllerChannelPack | tx16sMk3Direct
  deriving DecidableEq, Repr

/-- `ControlMode`: what the right gimbal does. -/
inductive ControlMode where
  | yaw | translateBody | rotateBody
  deriving DecidableEq, Repr

/-- `ControllerCommand`, with the part that the controller core reads. -/
structure ControllerCommand (F : Type) extends Controller.ControllerCommand F where
  failsafe : Bool
  frame_ms : UInt32
  arm_request : Bool
  estop : Bool
  host_authority : Bool
  mode : ControlMode
  gait_tune_edit_seq : UInt32
  gait_tune_last_edit_ms : UInt32
  capture_toggle_seq : UInt32
  capture_start_seq : UInt32
  feat_foot_contact : Bool
  feat_terrain_leveling : Bool
  feat_passive_pose : Bool

/-- `ControllerCommand{}`. -/
def ControllerCommand.default : ControllerCommand F where
  toControllerCommand := .default
  failsafe := true
  frame_ms := 0
  arm_request := false
  estop := true
  host_authority := false
  mode := .yaw
  gait_tune_edit_seq := 0
  gait_tune_last_edit_ms := 0
  capture_toggle_seq := 0
  capture_start_seq := 0
  feat_foot_contact := false
  feat_terrain_leveling := false
  feat_passive_pose := false

abbrev kProfileDetectFrames : UInt8 := 3
abbrev kEdgeRefractoryMs : UInt32 := 150
abbrev kTrickRepeatMs : UInt32 := 2000
abbrev kCaptureStartHoldMs : UInt32 := 3000
abbrev kArmReleaseDebounceMs : UInt32 := 150
abbrev kModeSwitchDebounceMs : UInt16 := 40
abbrev kCalibrationOutOfRangeTolerance : Int := 64
abbrev kDefaultFailsafeMs : UInt32 := 250

def kEncoderCountsFullScale : F := lit 128
def kGaitTuneStepFrac : F := lit 0.05
def kTrimStepRad : F := lit 0.0174533
def kMaxTransMm : F := lit 50
def kMaxRotRad : F := lit 0.4363
def kTrimMaxRad : F := kMaxRotRad

/-- The slots of the edge detectors: the tricks, the trim, the gait editor, the capture button. -/
abbrev kTrimEdgeBase : Nat := kMaxTrickBindings
abbrev kGaitTuneEdgeBase : Nat := kTrimEdgeBase + 5
abbrev kCaptureEdge : Nat := kGaitTuneEdgeBase + 6
abbrev kNumEdgeSlots : Nat := kCaptureEdge + 1

/-- `ControllerBridge`. -/
structure ControllerBridge (F : Type) where
  cfg : BindingConfig F
  calibration : RcInputCalibration
  conditioner : RcInputConditioner F
  cmd : ControllerCommand F
  raw : ChannelPackInputs
  conditioned_gimbal : Vector F 4
  conditioned_pot : Vector F 2
  conditioned_encoder : Vector F 2
  conditioned_toggles : Vector UInt8 2
  sw_e_debounce : RcTriSwitchDebouncer
  sw_f_debounce : RcTriSwitchDebouncer
  last_condition_ms : UInt32
  condition_time_seen : Bool
  detected_profile : InputProfile
  profile_locked : Bool
  custom_layout_streak : UInt8
  tx_direct_layout_streak : UInt8
  enc_last : Vector Int32 2
  enc_seen : Vector Bool 2
  enc_accum : Vector F 2
  arm_release_pending : Bool
  arm_release_since_ms : UInt32
  capture_start_hold_active : Bool
  capture_start_hold_fired : Bool
  capture_start_hold_since_ms : UInt32
  gait_tune_frac : Vector F 3
  edge_prev : Vector Bool kNumEdgeSlots
  edge_last_ms : Vector UInt32 kNumEdgeSlots

namespace ControllerBridge

variable (b : ControllerBridge F)

/-- `reset`. -/
def reset : ControllerBridge F :=
  { b with
    cmd := .default
    raw := {}
    detected_profile := .unknown
    profile_locked := false
    custom_layout_streak := 0
    tx_direct_layout_streak := 0
    arm_release_pending := false
    arm_release_since_ms := 0
    capture_start_hold_active := false
    capture_start_hold_fired := false
    capture_start_hold_since_ms := 0
    conditioner := b.conditioner.reset
    conditioned_gimbal := .replicate _ (lit 0)
    conditioned_pot := .replicate _ (lit 0)
    conditioned_encoder := .replicate _ (lit 0.5)
    conditioned_toggles := .replicate _ 1
    sw_e_debounce := b.sw_e_debounce.reset
    sw_f_debounce := b.sw_f_debounce.reset
    last_condition_ms := 0
    condition_time_seen := false
    enc_last := .replicate _ 0
    enc_seen := .replicate _ false
    enc_accum := #v[lit 1, lit 0.5]
    gait_tune_frac := #v[lit 0.6, lit 0.75, lit 0.625]
    edge_prev := .replicate _ false
    edge_last_ms := .replicate _ (0 - kEdgeRefractoryMs) }

/-- The constructor: the members that `reset` leaves alone have their defaults. -/
def construct : ControllerBridge F :=
  reset
    { cfg := defaultBindings
      calibration := defaultRcInputCalibration
      conditioner := RcInputConditioner.default.configure defaultRcInputCalibration
      cmd := .default
      raw := {}
      conditioned_gimbal := .replicate _ (lit 0)
      conditioned_pot := .replicate _ (lit 0)
      conditioned_encoder := .replicate _ (lit 0)
      conditioned_toggles := .replicate _ 1
      sw_e_debounce := {}
      sw_f_debounce := {}
      last_condition_ms := 0
      condition_time_seen := false
      detected_profile := .unknown
      profile_locked := false
      custom_layout_streak := 0
      tx_direct_layout_streak := 0
      enc_last := .replicate _ 0
      enc_seen := .replicate _ false
      enc_accum := .replicate _ (lit 0)
      arm_release_pending := false
      arm_release_since_ms := 0
      capture_start_hold_active := false
      capture_start_hold_fired := false
      capture_start_hold_since_ms := 0
      gait_tune_frac := .replicate _ (lit 0)
      edge_prev := .replicate _ false
      edge_last_ms := .replicate _ 0 }

def setBindings (cfg : BindingConfig F) : ControllerBridge F := { b with cfg }

def setCalibration (calibration : RcInputCalibration) : ControllerBridge F :=
  if validateRcInputCalibration calibration then
    { b with calibration, conditioner := b.conditioner.configure calibration }
  else b

def setInputFilterMode (mode : InputFilterMode) (diagnostic_mode_allowed : Bool) :
    Bool × ControllerBridge F :=
  let (ok, conditioner) := b.conditioner.setMode mode diagnostic_mode_allowed
  (ok, { b with conditioner })

def setGaitTuneFractions (step_height stride duty : F) : ControllerBridge F :=
  if b.cmd.gait_tune_active then b
  else
    { b with
      gait_tune_frac := #v[clampf step_height (lit 0) (lit 1), clampf stride (lit 0) (lit 1),
        clampf duty (lit 0) (lit 1)] }

/-! ## The input profile -/

def nearCrsfMid (v : UInt16) : Bool := ((v.toNat : Int) - CPACK_CRSF_MID).natAbs ≤ 16

def looksLikeCustomChannelPack (ch : Channels) : Bool :=
  let switches_ok := ChannelPack.crsfToDiscrete (ch.get 8) CPACK_SWITCH_FIELD_MAX < 32
  let btn_toggle_ok := ChannelPack.crsfToDiscrete (ch.get 9) CPACK_BTN_TOGGLE_FIELD_MAX / 16 < 9
  let nav_ok := ChannelPack.crsfToDiscrete (ch.get 10) CPACK_NAV_FIELD_MAX < 1024
  let reserved_ok := (ch.toList.drop 11).all nearCrsfMid
  switches_ok && btn_toggle_ok && nav_ok && reserved_ok

def classifyFirstFrame (ch : Channels) : InputProfile :=
  if looksLikeCustomChannelPack ch then .customControllerChannelPack else .tx16sMk3Direct

/-- One frame of a layout more, up to the number that is needed. -/
def longerStreak (streak : UInt8) : UInt8 :=
  if streak < kProfileDetectFrames then streak + 1 else streak

def attemptProfileDetection (ch : Channels) : ControllerBridge F :=
  if b.profile_locked then b
  else if looksLikeCustomChannelPack ch then
    let b :=
      { b with
        custom_layout_streak := longerStreak b.custom_layout_streak
        tx_direct_layout_streak := 0 }
    if b.custom_layout_streak ≥ kProfileDetectFrames then
      { b with detected_profile := .customControllerChannelPack, profile_locked := true }
    else b
  else
    let b :=
      { b with
        tx_direct_layout_streak := longerStreak b.tx_direct_layout_streak
        custom_layout_streak := 0 }
    if b.tx_direct_layout_streak ≥ kProfileDetectFrames then
      { b with detected_profile := .tx16sMk3Direct, profile_locked := true }
    else b

/-! ## The raw inputs -/

/-- A conventional channel value as 0 to 1. -/
def crsfUnit01 (v : UInt16) : F :=
  ofInt ((ChannelPack.clampChannel v - CPACK_CRSF_MIN : Nat) : Int) / ofInt (ChannelPack.span : Int)

def crsfToGimbalSafe (F : Type) [FloatExp F] (v : UInt16) : Int16 :=
  Int16.ofInt (trunc (crsfUnit01 v * lit 2000 - lit 1000 : F))

def crsfToPotSafe (F : Type) [FloatExp F] (v : UInt16) : Int16 :=
  Int16.ofInt (trunc (crsfUnit01 v * lit 1000 : F))

def crsfToTri (F : Type) [FloatExp F] (v : UInt16) : UInt8 :=
  let u : F := crsfUnit01 v
  if lt u (lit 0.3333) then 0 else if lt u (lit 0.6666) then 1 else 2

def crsfToBoolHigh (F : Type) [FloatExp F] (v : UInt16) : Bool := lt (lit 0.5) (crsfUnit01 v : F)

def crsfToBins (F : Type) [FloatExp F] (v : UInt16) (bins : Nat) : Nat :=
  if bins == 0 then 0
  else min (trunc (crsfUnit01 v * ofInt (bins : Int) : F)).toNat (bins - 1)

/-- The direction of a cluster that the action selects; the other inputs of the cluster are off. -/
def navAction (fire : Bool) (action : Nat) (actions : List (Option Nat)) : Vector Bool 5 :=
  .ofFn fun i => fire && (actions.getD i.val none).any (· == action)

/-- `unpackTx16sMk3DirectChannels`. The encoders are filled in afterwards. -/
def unpackTx16sMk3DirectChannels (F : Type) [FloatExp F] (ch : Channels) : ChannelPackInputs :=
  let safety_mask := crsfToBins F (ch.get 10) 4
  let feature_mask := crsfToBins F (ch.get 11) 16
  let action := crsfToBins F (ch.get 12) 13
  let fire := crsfToBoolHigh F (ch.get 13)
  { gimbal := #v[crsfToGimbalSafe F (ch.get 0), crsfToGimbalSafe F (ch.get 1),
      crsfToGimbalSafe F (ch.get 2), crsfToGimbalSafe F (ch.get 3)]
    pot := #v[crsfToPotSafe F (ch.get 4), crsfToPotSafe F (ch.get 5)]
    switches := #v[safety_mask.testBit 0, safety_mask.testBit 1, feature_mask.testBit 0,
      feature_mask.testBit 1, feature_mask.testBit 2, feature_mask.testBit 3, false, false]
    buttons := .ofFn fun i => fire && action == i.val + 5
    toggles := #v[crsfToTri F (ch.get 8), crsfToTri F (ch.get 9)]
    nav := #v[navAction fire action [some 0, some 1, some 2, some 3, some 4],
      navAction fire action [some 9, some 10, some 11, none, some 12]] }

/-- `integrateEncoders` for one encoder: the shortest way round from the last position. -/
def integrateEncoder (i : Fin 2) : ControllerBridge F :=
  let enc := b.raw.encoder.get i
  if !b.enc_seen.get i then
    { b with
      enc_last := b.enc_last.setIfInBounds i enc
      enc_seen := b.enc_seen.setIfInBounds i true }
  else
    let d := enc - b.enc_last.get i
    let d := if d > 1024 then d - 2048 else d
    let d := if d < -1024 then d + 2048 else d
    { b with
      enc_last := b.enc_last.setIfInBounds i enc
      enc_accum := b.enc_accum.setIfInBounds i
        (clampf (b.enc_accum.get i + ofInt d.toInt / kEncoderCountsFullScale) (lit 0) (lit 1)) }

def integrateEncoders : ControllerBridge F := (b.integrateEncoder 0).integrateEncoder 1

def updateTx16sDirectVirtualEncoders (ch : Channels) : ControllerBridge F :=
  let enc0 : F := crsfUnit01 (ch.get 6)
  let enc1 : F := crsfUnit01 (ch.get 7)
  let encoder : Vector Int32 2 :=
    #v[Int32.ofInt (trunc (enc0 * lit 2047)), Int32.ofInt (trunc (enc1 * lit 2047))]
  let accum0 := clampf enc0 (lit 0) (lit 1)
  let accum1 := clampf enc1 (lit 0) (lit 1)
  { b with
    raw := { b.raw with encoder }
    enc_accum := #v[accum0, accum1]
    enc_seen := .replicate _ true
    enc_last := encoder
    gait_tune_frac :=
      if b.cmd.gait_tune_active then b.gait_tune_frac
      else #v[accum1, accum0, b.gait_tune_frac.get 2] }

/-! ## Conditioned inputs -/

def AxisSource.wire : AxisSource → UInt8
  | .none => 0
  | .gimbalLX => 1
  | .gimbalLY => 2
  | .gimbalRX => 3
  | .gimbalRY => 4
  | .pot1 => 5
  | .pot2 => 6
  | .enc1 => 7
  | .enc2 => 8

def rawWithinCalibrationWindow (raw : Int16) (c : RcChannelCalibration) : Bool :=
  raw.toInt ≥ c.min_raw.toInt - kCalibrationOutOfRangeTolerance &&
    raw.toInt ≤ c.max_raw.toInt + kCalibrationOutOfRangeTolerance

def calibrationFor (source : UInt8) : Option RcChannelCalibration :=
  if source == 0 || source.toNat > kNumRcAnalogInputs then none
  else b.calibration.channels.toList.find? (·.source == source)

def clampRaw (c : RcChannelCalibration) (raw : Int16) : Int16 :=
  if raw < c.min_raw then c.min_raw else if raw > c.max_raw then c.max_raw else raw

def readCalibratedBipolar (source : UInt8) (raw : Int16) : Option F :=
  match b.calibrationFor source with
  | none => none
  | some c =>
    if c.type != rcCenteredAnalog || !rawWithinCalibrationWindow raw c then none
    else
      let clamped_raw := (clampRaw c raw).toInt
      let center := c.center_raw.toInt
      let out : F :=
        if clamped_raw ≥ center then ofInt (clamped_raw - center) / ofInt (c.max_raw.toInt - center)
        else ofInt (clamped_raw - center) / ofInt (center - c.min_raw.toInt)
      let out := if c.reversed != 0 then -out else out
      some (clampf out (lit (-1)) (lit 1))

def readCalibratedUnipolar (source : UInt8) (raw : Int16) : Option F :=
  match b.calibrationFor source with
  | none => none
  | some c =>
    if c.type != rcUnipolarAnalog || !rawWithinCalibrationWindow raw c then none
    else
      let out : F := ofInt ((clampRaw c raw).toInt - c.min_raw.toInt) /
        ofInt (c.max_raw.toInt - c.min_raw.toInt)
      let out := if c.reversed != 0 then lit 1 - out else out
      some (clampf out (lit 0) (lit 1))

def conditionGimbal (dt_ms : UInt32) (b : ControllerBridge F) (index : Fin 4) : ControllerBridge F :=
  let source := UInt8.ofNat (index + 1)
  let value := (b.readCalibratedBipolar source (b.raw.gimbal.get index)).getD (lit 0)
  let (out, conditioner) := b.conditioner.update source value dt_ms
  { b with conditioner, conditioned_gimbal := b.conditioned_gimbal.setIfInBounds index out }

def conditionPot (dt_ms : UInt32) (b : ControllerBridge F) (index : Fin 2) : ControllerBridge F :=
  let source := UInt8.ofNat (index + 5)
  let value := (b.readCalibratedUnipolar source (b.raw.pot.get index)).getD (lit 0)
  let (out, conditioner) := b.conditioner.update source value dt_ms
  { b with conditioner, conditioned_pot := b.conditioned_pot.setIfInBounds index out }

def conditionEncoder (dt_ms : UInt32) (b : ControllerBridge F) (index : Fin 2) : ControllerBridge F :=
  let source := UInt8.ofNat (index + 7)
  let (out, conditioner) := b.conditioner.update source (b.enc_accum.get index) dt_ms
  { b with conditioner, conditioned_encoder := b.conditioned_encoder.setIfInBounds index out }

def updateConditionedInputs (now_ms : UInt32) : ControllerBridge F :=
  let dt_ms := if b.condition_time_seen then now_ms - b.last_condition_ms else 0
  let b := { b with condition_time_seen := true, last_condition_ms := now_ms }
  let b := (List.finRange 4).foldl (conditionGimbal dt_ms) b
  let b := (List.finRange 2).foldl (conditionPot dt_ms) b
  (List.finRange 2).foldl (conditionEncoder dt_ms) b

def updateConditionedToggles (now_ms : UInt32) : ControllerBridge F :=
  let sw_e := b.sw_e_debounce.update (b.raw.toggles.get 0) now_ms kModeSwitchDebounceMs
  let sw_f := b.sw_f_debounce.update (b.raw.toggles.get 1) now_ms kModeSwitchDebounceMs
  { b with
    sw_e_debounce := sw_e, sw_f_debounce := sw_f
    conditioned_toggles := #v[sw_e.stable, sw_f.stable] }

/-! ## Reading through the bindings -/

/-- The conditioned value of a source: bipolar for a gimbal, unipolar for a knob or an encoder. -/
def conditioned : AxisSource → F
  | .none => lit 0
  | .gimbalLX => b.conditioned_gimbal.get 0
  | .gimbalLY => b.conditioned_gimbal.get 1
  | .gimbalRX => b.conditioned_gimbal.get 2
  | .gimbalRY => b.conditioned_gimbal.get 3
  | .pot1 => b.conditioned_pot.get 0
  | .pot2 => b.conditioned_pot.get 1
  | .enc1 => b.conditioned_encoder.get 0
  | .enc2 => b.conditioned_encoder.get 1

def isGimbal : AxisSource → Bool
  | .gimbalLX | .gimbalLY | .gimbalRX | .gimbalRY => true
  | _ => false

def applyBindingResponse (binding : AxisBinding F) (value : F) : F :=
  let source := AxisSource.wire binding.source
  if !b.conditioner.isCentered source then value
  else
    let deadband := if lt (lit 0) binding.deadband then binding.deadband
      else b.conditioner.deadband source
    RcInputConditioner.applyExpo (RcInputConditioner.applyDeadband value deadband)
      (b.conditioner.expo source)

def readAxisBipolar (binding : AxisBinding F) : F :=
  if binding.source == .none then lit 0
  else
    let v := if isGimbal binding.source then b.conditioned binding.source
      else b.conditioned binding.source * lit 2 - lit 1
    let v := b.applyBindingResponse binding v
    clampf (if binding.invert then -v else v) (lit (-1)) (lit 1)

def readAxisUnipolar (binding : AxisBinding F) : F :=
  if binding.source == .none then lit 0
  else
    let v := if isGimbal binding.source then
      (b.applyBindingResponse binding (b.conditioned binding.source) + lit 1) * lit 0.5
      else b.conditioned binding.source
    clampf (if binding.invert then lit 1 - v else v) (lit 0) (lit 1)

def readBool : BoolSource → Bool
  | .none => false
  | .swA => b.raw.switches.get 0
  | .swB => b.raw.switches.get 1
  | .swC => b.raw.switches.get 2
  | .swD => b.raw.switches.get 3
  | .swG => b.raw.switches.get 4
  | .swH => b.raw.switches.get 5
  | .btn1 => b.raw.buttons.get 0
  | .btn2 => b.raw.buttons.get 1
  | .btn3 => b.raw.buttons.get 2
  | .btn4 => b.raw.buttons.get 3
  | .nav1Up => (b.raw.nav.get 0).get 0
  | .nav1Down => (b.raw.nav.get 0).get 1
  | .nav1Left => (b.raw.nav.get 0).get 2
  | .nav1Right => (b.raw.nav.get 0).get 3
  | .nav1Center => (b.raw.nav.get 0).get 4
  | .nav2Up => (b.raw.nav.get 1).get 0
  | .nav2Down => (b.raw.nav.get 1).get 1
  | .nav2Left => (b.raw.nav.get 1).get 2
  | .nav2Right => (b.raw.nav.get 1).get 3
  | .nav2Center => (b.raw.nav.get 1).get 4

def readTri : TriSource → UInt8
  | .none => 1
  | .swE => b.conditioned_toggles.get 0
  | .swF => b.conditioned_toggles.get 1

def modeOf (mode_v : UInt8) : ControlMode :=
  if mode_v == 1 then .translateBody else if mode_v == 2 then .rotateBody else .yaw

/-! ## Edges -/

def setEdge (slot : Nat) (level : Bool) : ControllerBridge F :=
  { b with edge_prev := b.edge_prev.setIfInBounds slot level }

def markEdge (slot : Nat) (now_ms : UInt32) : ControllerBridge F :=
  { b with edge_last_ms := b.edge_last_ms.setIfInBounds slot now_ms }

def risingEdge (slot : Nat) (level : Bool) (now_ms : UInt32) : Bool × ControllerBridge F :=
  let fired := level && !b.edge_prev.getD slot false &&
    now_ms - b.edge_last_ms.getD slot 0 ≥ kEdgeRefractoryMs
  (fired, (if fired then b.markEdge slot now_ms else b).setEdge slot level)

def repeatingTrickTrigger (slot : Nat) (level : Bool) (now_ms : UInt32) : Bool × ControllerBridge F :=
  if !level then (false, b.setEdge slot false)
  else
    let interval := if b.edge_prev.getD slot false then kTrickRepeatMs else kEdgeRefractoryMs
    let fired := now_ms - b.edge_last_ms.getD slot 0 ≥ interval
    (fired, (if fired then b.markEdge slot now_ms else b).setEdge slot true)

/-- Runs `act` on a rising edge. -/
def onEdge (slot : Nat) (level : Bool) (now_ms : UInt32)
    (act : ControllerBridge F → ControllerBridge F) : ControllerBridge F :=
  let (fired, b) := b.risingEdge slot level now_ms
  if fired then act b else b

/-! ## Trim and gait editor -/

def nudgePitch (step : F) (b : ControllerBridge F) : ControllerBridge F :=
  { b with cmd.trim_pitch := clampf (b.cmd.trim_pitch + step) (-kTrimMaxRad) kTrimMaxRad }

def nudgeRoll (step : F) (b : ControllerBridge F) : ControllerBridge F :=
  { b with cmd.trim_roll := clampf (b.cmd.trim_roll + step) (-kTrimMaxRad) kTrimMaxRad }

def clearTrim (b : ControllerBridge F) : ControllerBridge F :=
  { b with cmd.trim_roll := lit 0, cmd.trim_pitch := lit 0 }

def updatePoseTrim (now_ms : UInt32) : ControllerBridge F :=
  let b := b.onEdge (kTrimEdgeBase + 4) (b.readBool b.cfg.trim_reset) now_ms clearTrim
  let b := b.onEdge kTrimEdgeBase (b.readBool b.cfg.trim_pitch_up) now_ms (nudgePitch kTrimStepRad)
  let b := b.onEdge (kTrimEdgeBase + 1) (b.readBool b.cfg.trim_pitch_down) now_ms
    (nudgePitch (-kTrimStepRad))
  let b := b.onEdge (kTrimEdgeBase + 2) (b.readBool b.cfg.trim_roll_left) now_ms
    (nudgeRoll (-kTrimStepRad))
  b.onEdge (kTrimEdgeBase + 3) (b.readBool b.cfg.trim_roll_right) now_ms (nudgeRoll kTrimStepRad)

def noteEdit (now_ms : UInt32) (b : ControllerBridge F) : ControllerBridge F :=
  { b with
    cmd.gait_tune_edit_seq := b.cmd.gait_tune_edit_seq + 1
    cmd.gait_tune_last_edit_ms := now_ms }

/-- The first part of `updateGaitTune`: the editor is switched on or off. -/
def toggleGaitTune (now_ms : UInt32) : ControllerBridge F :=
  let tune_switch := b.readBool b.cfg.gait_tune_toggle
  let (changed, b) :=
    if b.cfg.gait_tune_toggle == .swG then (tune_switch != b.cmd.gait_tune_active, b)
    else b.risingEdge kGaitTuneEdgeBase tune_switch now_ms
  if changed then
    let active := if b.cfg.gait_tune_toggle == .swG then tune_switch else !b.cmd.gait_tune_active
    { b with cmd.gait_tune_active := active, cmd.gait_tune_param := 0 }.noteEdit now_ms
  else b

def followGaitTuneEdges : ControllerBridge F :=
  let b := b.setEdge (kGaitTuneEdgeBase + 1) (b.readBool b.cfg.gait_tune_next)
  let b := b.setEdge (kGaitTuneEdgeBase + 2) (b.readBool b.cfg.gait_tune_prev)
  let b := b.setEdge (kGaitTuneEdgeBase + 3) (b.readBool b.cfg.gait_tune_increase)
  let b := b.setEdge (kGaitTuneEdgeBase + 4) (b.readBool b.cfg.gait_tune_decrease)
  b.setEdge (kGaitTuneEdgeBase + 5) (b.readBool b.cfg.gait_tune_save)

def followTrimEdges : ControllerBridge F :=
  let b := b.setEdge kTrimEdgeBase (b.readBool b.cfg.trim_pitch_up)
  let b := b.setEdge (kTrimEdgeBase + 1) (b.readBool b.cfg.trim_pitch_down)
  let b := b.setEdge (kTrimEdgeBase + 2) (b.readBool b.cfg.trim_roll_left)
  let b := b.setEdge (kTrimEdgeBase + 3) (b.readBool b.cfg.trim_roll_right)
  b.setEdge (kTrimEdgeBase + 4) (b.readBool b.cfg.trim_reset)

def moveParam (step : UInt8) (b : ControllerBridge F) : ControllerBridge F :=
  { b with cmd.gait_tune_param := (b.cmd.gait_tune_param + step) % 3 }

def nudgeParam (step : F) (b : ControllerBridge F) : ControllerBridge F :=
  let index := b.cmd.gait_tune_param.toNat
  { b with
    gait_tune_frac := b.gait_tune_frac.setIfInBounds index
      (clampf (b.gait_tune_frac.getD index (lit 0) + step) (lit 0) (lit 1)) }

def requestSave (b : ControllerBridge F) : ControllerBridge F :=
  { b with cmd.gait_tune_save_seq := b.cmd.gait_tune_save_seq + 1 }

/-- One key of the editor; whether there was an edit so far. -/
def editKey (slot : Nat) (level : Bool) (now_ms : UInt32)
    (act : ControllerBridge F → ControllerBridge F) (edited : Bool × ControllerBridge F) :
    Bool × ControllerBridge F :=
  let (fired, b) := edited.2.risingEdge slot level now_ms
  (edited.1 || fired, if fired then act b else b)

/-- `updateGaitTune`. -/
def updateGaitTune (now_ms : UInt32) : ControllerBridge F :=
  let b := b.toggleGaitTune now_ms
  if !b.cmd.gait_tune_active then b.followGaitTuneEdges
  else
    let key (slot : Nat) (source : BoolSource) (act : ControllerBridge F → ControllerBridge F) :=
      editKey (kGaitTuneEdgeBase + slot) (b.readBool source) now_ms act
    let edited := (false, b.followTrimEdges)
    let edited := key 1 b.cfg.gait_tune_next (moveParam 1) edited
    let edited := key 2 b.cfg.gait_tune_prev (moveParam 2) edited
    let edited := key 3 b.cfg.gait_tune_increase (nudgeParam kGaitTuneStepFrac) edited
    let edited := key 4 b.cfg.gait_tune_decrease (nudgeParam (-kGaitTuneStepFrac)) edited
    let edited := key 5 b.cfg.gait_tune_save requestSave edited
    if edited.1 then edited.2.noteEdit now_ms else edited.2

/-! ## Update -/

/-- `enterFailsafe`. -/
def enterFailsafe : ControllerBridge F :=
  { b with
    cmd.valid := false
    cmd.failsafe := true
    cmd.arm_request := false
    arm_release_pending := false
    cmd.estop := true
    cmd.twist_vx := lit 0, cmd.twist_vy := lit 0, cmd.twist_wz := lit 0
    cmd.pose_x_mm := lit 0, cmd.pose_y_mm := lit 0, cmd.pose_z_mm := lit 0
    cmd.pose_roll := lit 0, cmd.pose_pitch := lit 0, cmd.pose_yaw := lit 0
    cmd.trick := .none }

def acceptFrame (now_ms : UInt32) : ControllerBridge F :=
  let gait_v := b.readTri b.cfg.gait_select
  { b with
    cmd.valid := true
    cmd.failsafe := false
    cmd.ever_seen := true
    cmd.frame_ms := now_ms
    cmd.gait_index := if gait_v < 3 then gait_v else 0
    cmd.mode := modeOf (b.readTri b.cfg.mode_select) }

/-- The kill switch and the arm switch, of which only a release is debounced. -/
def readSafety (now_ms : UInt32) : ControllerBridge F :=
  let kill := b.readBool b.cfg.estop
  let arm_level := b.readBool b.cfg.arm
  let b := { b with cmd.estop := kill }
  if kill then { b with cmd.arm_request := false, arm_release_pending := false }
  else if arm_level then { b with cmd.arm_request := true, arm_release_pending := false }
  else if b.cmd.arm_request then
    if !b.arm_release_pending then { b with arm_release_pending := true, arm_release_since_ms := now_ms }
    else if now_ms - b.arm_release_since_ms ≥ kArmReleaseDebounceMs then
      { b with cmd.arm_request := false, arm_release_pending := false }
    else b
  else { b with arm_release_pending := false }

def readSwitches : ControllerBridge F :=
  { b with
    cmd.host_authority := b.readBool b.cfg.host_authority
    cmd.feat_foot_contact := b.readBool b.cfg.feat_foot_contact
    cmd.feat_terrain_leveling := b.readBool b.cfg.feat_terrain_leveling
    cmd.feat_passive_pose := b.readBool b.cfg.feat_passive_pose
    cmd.speed := b.readAxisUnipolar b.cfg.speed
    cmd.body_height := b.readAxisUnipolar b.cfg.body_height }

/-- A shape parameter: its axis when there is one, else the value of the editor. -/
def shapeParam (binding : AxisBinding F) (index : Fin 3) : F :=
  if binding.source != .none then b.readAxisUnipolar binding else b.gait_tune_frac.get index

def readShape : ControllerBridge F :=
  { b with
    cmd.step_height := b.shapeParam b.cfg.step_height 0
    cmd.stride := b.shapeParam b.cfg.stride 1
    cmd.duty := b.shapeParam b.cfg.duty 2 }

/-- The motion: the right gimbal does what the mode says. -/
def readMotion : ControllerBridge F :=
  let mode := b.cmd.mode
  let when (m : ControlMode) (v : F) : F := if mode == m then v else lit 0
  { b with
    cmd.twist_vx := b.readAxisBipolar b.cfg.walk_forward
    cmd.twist_vy := b.readAxisBipolar b.cfg.walk_strafe
    cmd.twist_wz := when .yaw (b.readAxisBipolar b.cfg.walk_yaw)
    cmd.pose_x_mm := when .translateBody (b.readAxisBipolar b.cfg.body_x * kMaxTransMm)
    cmd.pose_y_mm := when .translateBody (b.readAxisBipolar b.cfg.body_y * kMaxTransMm)
    cmd.pose_z_mm := when .translateBody (b.readAxisBipolar b.cfg.body_z * kMaxTransMm)
    cmd.pose_roll := when .rotateBody (b.readAxisBipolar b.cfg.body_roll * kMaxRotRad)
    cmd.pose_pitch := when .rotateBody (b.readAxisBipolar b.cfg.body_pitch * kMaxRotRad)
    cmd.pose_yaw := when .rotateBody (b.readAxisBipolar b.cfg.body_yaw * kMaxRotRad) }

def toggleCapture (b : ControllerBridge F) : ControllerBridge F :=
  { b with cmd.capture_toggle_seq := b.cmd.capture_toggle_seq + 1 }

def captureStartHold : Bool := b.readBool .btn1 && b.readBool .btn2

def updateCaptureStart (now_ms : UInt32) : ControllerBridge F :=
  if !b.captureStartHold then
    { b with capture_start_hold_active := false, capture_start_hold_fired := false }
  else if !b.capture_start_hold_active then
    { b with capture_start_hold_active := true, capture_start_hold_since_ms := now_ms }
  else if !b.capture_start_hold_fired &&
      now_ms - b.capture_start_hold_since_ms ≥ kCaptureStartHoldMs then
    { b with
      cmd.capture_start_seq := b.cmd.capture_start_seq + 1
      capture_start_hold_fired := true }
  else b

def updateTrick (now_ms : UInt32) (b : ControllerBridge F) (i : Fin kMaxTrickBindings) :
    ControllerBridge F :=
  let tb := b.cfg.tricks.get i
  if tb.source == .none || tb.trick == .none then b.setEdge i false
  else if b.captureStartHold && (tb.source == .btn1 || tb.source == .btn2) then b.setEdge i true
  else
    let (fired, b) := b.repeatingTrickTrigger i (b.readBool tb.source) now_ms
    if fired && b.cmd.trick == .none then { b with cmd.trick := tb.trick } else b

def updateTricks (now_ms : UInt32) : ControllerBridge F :=
  (List.finRange kMaxTrickBindings).foldl (updateTrick now_ms) { b with cmd.trick := .none }

/-- The part of `update` after the raw inputs were read. -/
def decode (now_ms : UInt32) : ControllerBridge F :=
  let b := ((b.updateConditionedInputs now_ms).updateConditionedToggles now_ms).acceptFrame now_ms
  let b := (b.readSafety now_ms).readSwitches
  let b := ((b.updateGaitTune now_ms).readShape).readMotion
  let b := if b.cmd.gait_tune_active then b else b.updatePoseTrim now_ms
  let b := b.onEdge kCaptureEdge (b.readBool .btn4) now_ms toggleCapture
  (b.updateCaptureStart now_ms).updateTricks now_ms

/-- The detection starts over while there is no link. -/
def dropStreaks : ControllerBridge F :=
  if b.profile_locked then b
  else
    { b with detected_profile := .unknown, custom_layout_streak := 0, tx_direct_layout_streak := 0 }

/-- `update`. -/
def update (ch : Channels) (link_up : Bool) (now_ms : UInt32) : ControllerBridge F :=
  if !link_up then b.dropStreaks.enterFailsafe
  else
    let b := b.attemptProfileDetection ch
    if !b.profile_locked then b.enterFailsafe
    else
      match b.detected_profile with
      | .customControllerChannelPack =>
        { b with raw := ChannelPack.unpackChannels ch }.integrateEncoders.decode now_ms
      | .tx16sMk3Direct =>
        ({ b with raw := unpackTx16sMk3DirectChannels F ch
         }.updateTx16sDirectVirtualEncoders ch).decode now_ms
      | .unknown => b.enterFailsafe

/-- `evaluateFailsafe`. -/
def evaluateFailsafe (now_ms timeout_ms : UInt32) : ControllerBridge F :=
  if !b.cmd.ever_seen then b.enterFailsafe
  else if now_ms - b.cmd.frame_ms > timeout_ms then b.enterFailsafe
  else b

end ControllerBridge

end HexapodVerified.Input
