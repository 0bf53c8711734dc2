import HexapodVerified.Controller.BodyCommandShaper
import HexapodVerified.Controller.ControllerContract

/-!
# The controller core

`ControllerCore::step` of `controller/controller_core.cpp`. The members are grouped by what may change
them: `Authority` decides who drives and whether motion is allowed, `Motion` turns a command into
goals. The sections of the source's function are definitions of their own, in its order; `command`,
which the source fills in place, is passed from one to the next.
-/

namespace HexapodVerified.Controller

open HexapodVerified.Config HexapodVerified.Dxl HexapodVerified.Gait HexapodVerified.Safety
open FloatArith Transition

variable {F : Type} [FloatArith F]

/-- The members of `ControllerCore` that decide about authority. -/
structure Authority where
  config_cache : ConfigSnapshotCache
  arbiter : CommandArbiter
  state_machine : StateMachine
  idle_seen_intent_sequence : UInt32

/-- The members of `ControllerCore` that make motion. -/
structure Motion (F : Type) where
  pipeline : GaitPipeline F
  trick_engine : TrickEngine F
  body_command_shaper : BodyCommandShaper F
  applied_intent_sequence : UInt32
  applied_gait : UInt8
  previous_rc_trick : TrickId

structure ControllerCore (F : Type) extends Authority, Motion F where
  previous_motion_gate : Bool
  previous_maintenance_authority : Bool

/-! ## Constants and conversions -/

/-- `kAllServoPosesKnown`: a bit for each of the eighteen servos. -/
def kAllServoPosesKnown : UInt32 := 0x3FFFF
def kContactConfidenceMinimum : UInt8 := 128
def kMinimumConfidentFeet : UInt8 := 4
def kGaitTunePreviewLeg : Int8 := 0
/-- The sequence and gait values that stand for "nothing applied yet". -/
def kNoSequence : UInt32 := 0xFFFFFFFF
def kNoGait : UInt8 := 0xFF

def gaitFromWire (gait : UInt8) : GaitId :=
  if gait > GaitId.crawl.wire then .stand else gaitOfStored gait

def rcGaitFromIndex (gait_index : UInt8) : GaitId :=
  if gait_index = 0 then .wave else if gait_index = 1 then .ripple else .tripod

def rcCommandIsActive (command : ControllerCommand F) : Bool :=
  command.valid &&
    (lt (lit 0.05) (fabs command.twist_vx) || lt (lit 0.05) (fabs command.twist_vy) ||
      lt (lit 0.05) (fabs command.twist_wz) || lt (lit 2) (fabs command.pose_x_mm) ||
      lt (lit 2) (fabs command.pose_y_mm) || lt (lit 2) (fabs command.pose_z_mm) ||
      lt (lit 0.02) (fabs command.pose_roll) || lt (lit 0.02) (fabs command.pose_pitch) ||
      lt (lit 0.02) (fabs command.pose_yaw) || command.trick != .none)

def sticksAreActive (command : ControllerCommand F) : Bool :=
  lt (lit 0.12) (fabs command.twist_vx) || lt (lit 0.12) (fabs command.twist_vy) ||
    lt (lit 0.12) (fabs command.twist_wz) || lt (lit 5) (fabs command.pose_x_mm) ||
    lt (lit 5) (fabs command.pose_y_mm) || lt (lit 5) (fabs command.pose_z_mm) ||
    lt (lit 0.05) (fabs command.pose_roll) || lt (lit 0.05) (fabs command.pose_pitch) ||
    lt (lit 0.05) (fabs command.pose_yaw)

def poseFromMotion (motion : MotionIntent F) : BodyPose F :=
  ⟨motion.pose_x_mm, motion.pose_y_mm, motion.pose_z_mm, motion.pose_roll, motion.pose_pitch,
    motion.pose_yaw⟩

/-- `commandPlanarToBody` (`command_frame.h`): the body vector of a (forward, left) command. -/
def commandPlanarToBody (forward left : F) : F × F := (-left, forward)

/-- `commandAttitudeToBody` (`command_frame.h`): the body roll and pitch of a command attitude. -/
def commandAttitudeToBody (roll_about_forward pitch_about_left : F) : F × F :=
  (-pitch_about_left, roll_about_forward)

def commandPoseToBody (command : BodyPose F) : BodyPose F :=
  let (x_mm, y_mm) := commandPlanarToBody command.x_mm command.y_mm
  let (roll, pitch) := commandAttitudeToBody command.roll command.pitch
  { command with x_mm, y_mm, roll, pitch }

/-! ## Authority -/

def maintenanceFailsafeRecovery (state : RobotState) (intent : ControllerIntent F)
    (config_usable : Bool) : Bool :=
  intent.maintenance.lock_held && intent.maintenance.recovery_lock && intent.rc.ever_seen &&
    intent.rc.kill && intent.rc.failsafe && !intent.rc.armed && !intent.host_estop &&
    config_usable && state.battery.valid && decide (state.battery.millivolts ≥ 10000) &&
    !state.watchdog_fault && !state.dxl.hard_fault

def rcInputs (rc : RcIntent F) : RcInputs where
  ever_seen := rc.ever_seen
  kill := rc.kill
  failsafe := rc.failsafe
  armed := rc.armed
  autonomy_enabled := rc.autonomy_enabled

def confidentFeet (contact : ContactSnapshot) : UInt8 :=
  UInt8.ofNat (contact.feet.toList.countP fun foot =>
    !foot.stale && !foot.fault && decide (foot.confidence ≥ kContactConfidenceMinimum))

namespace Authority

variable (authority : Authority) (state : RobotState) (intent : ControllerIntent F) (now_ms : UInt32)

/-- The arbitration section: heartbeat, host E-stop and maintenance lock are handed to the arbiter,
then it picks the source. -/
def arbitrate (recovery : Bool) : Authority :=
  let arbiter := authority.arbiter
  let arbiter :=
    if intent.jetson_heartbeat_received && intent.features.jetson_control_enabled then
      arbiter.jetsonHeartbeat now_ms
    else arbiter
  let arbiter := arbiter.setHostEstop intent.host_estop
  let arbiter := arbiter.setExternalMacLock intent.maintenance.lock_held
    intent.maintenance.lock_token recovery
  { authority with arbiter := arbiter.update (rcInputs intent.rc) now_ms }

/-- `safety_inputs`, after the arbitration. -/
def safetyInputs (config_usable recovery motion_active : Bool) : StateInputs :=
  let readiness_current :=
    state.dxl.config_revision == authority.config_cache.snapshot.revision
  let servo_coverage := readiness_current && state.dxl.configured_servo_coverage
  let pose_known := readiness_current && state.dxl.pose_known_mask == kAllServoPosesKnown
  { config_loaded := config_usable
    battery_mv := state.battery.millivolts
    battery_valid := state.battery.valid
    watchdog_fault := state.watchdog_fault
    dxl_hard_fault := state.dxl.hard_fault
    host_estop := intent.host_estop
    rc_kill := intent.rc.kill
    rc_failsafe := intent.rc.failsafe
    rc_ever_seen := intent.rc.ever_seen
    rc_armed := intent.rc.armed
    arming_checks_pass := config_usable && state.battery.valid && servo_coverage && pose_known &&
      state.dxl.arming_ready && !state.dxl.hard_fault
    host_disarm := intent.host_disarm
    command_source := authority.arbiter.out.source.wire
    jetson_fresh := authority.arbiter.jetsonFresh now_ms
    rc_autonomy := intent.rc.autonomy_enabled
    mac_lock_held := authority.arbiter.macLockHeld now_ms || intent.maintenance.lock_held
    maintenance_request := intent.maintenance.lock_held
    maintenance_failsafe_recovery := recovery
    passive_request := intent.passive_requested
    torque_off := state.dxl.torque_off
    contact_enabled := intent.features.foot_contact_enabled
    contact_confident := intent.features.foot_contact_enabled &&
      decide (confidentFeet state.contact ≥ kMinimumConfidentFeet)
    motion_active }

/-- The safety section: the idle sequence, the clear request and the update of the state machine. -/
def supervise (config_usable recovery motion_active : Bool) : Authority :=
  let safety_inputs :=
    authority.safetyInputs state intent now_ms config_usable recovery motion_active
  let state_machine :=
    if intent.clear_fault_requested then authority.state_machine.requestClearFault
    else authority.state_machine
  { authority with
    idle_seen_intent_sequence := intent.motion.seq
    state_machine := state_machine.update safety_inputs now_ms }

/-- `motion_active`: `trick_active` says whether the trick engine is. -/
def motionActive (trick_active : Bool) : Bool :=
  rcCommandIsActive intent.rc.command ||
    intent.motion.seq != authority.idle_seen_intent_sequence || trick_active

def authorize (config_usable trick_active : Bool) : Authority :=
  let recovery := maintenanceFailsafeRecovery state intent config_usable
  let motion_active := authority.motionActive intent trick_active
  (authority.arbitrate intent now_ms recovery).supervise state intent now_ms config_usable recovery
    motion_active

def report (config_usable previous_motion_gate trick_active : Bool) (command : RobotCommand) :
    RobotCommand :=
  let safety_state := authority.state_machine.state
  let arbiter := authority.arbiter.out
  let motion_gate := config_usable && stateAllowsMotion safety_state && arbiter.motion_authorized
  let rc_cmd := intent.rc.command
  let rc_authority := arbiter.source == .rc
  let clear := intent.host_disarm || decide (safety_state.wire ≥ State.faultSoft.wire)
  { command with
    safety_state
    fault_reason := authority.state_machine.reason
    command_source := arbiter.source
    motion_authorized := arbiter.motion_authorized
    allow_dxl_power := config_usable && stateAllowsDxlPower safety_state
    allow_torque := config_usable && stateAllowsTorque safety_state
    motion_gate
    diagnostics := { command.diagnostics with
      confident_contact_feet := confidentFeet state.contact
      motion_gate_rising := motion_gate && !previous_motion_gate
      motion_gate_falling := !motion_gate && previous_motion_gate
      gait_tune_active := rc_authority && rc_cmd.gait_tune_active
      gait_tune_param := rc_cmd.gait_tune_param
      gait_save_seq := rc_cmd.gait_tune_save_seq
      gait_save_requested := rc_authority && !rcCommandIsActive rc_cmd && !trick_active
      clear_maintenance_lock := clear
      clear_passive_request := clear } }

end Authority

/-! ## Motion -/

/-- The values `effective_…` and `requested_…` of the motion branch. -/
structure DesiredMotion (F : Type) where
  gait : UInt8
  vx : F
  vy : F
  wz : F
  pose : BodyPose F
  body_height : UInt16
  stride : UInt16
  step_height : UInt16
  speed : UInt8
  duty : UInt8
  height_rate_override_mm_per_s : F

def hostDesired (motion : MotionIntent F) : DesiredMotion F where
  gait := motion.gait
  vx := motion.twist_vx
  vy := motion.twist_vy
  wz := motion.twist_wz
  pose := poseFromMotion motion
  body_height := motion.body_height_mm
  stride := motion.stride_len_mm
  step_height := motion.step_height_mm
  speed := motion.speed_x255
  duty := motion.duty_x255
  height_rate_override_mm_per_s := lit 0

def rcHeight (height_fraction : F) : UInt16 := toUInt16 (rcBodyHeightMm height_fraction + lit 0.5)

def rcShape (rc : ControllerCommand F) (height_fraction : F) (d : DesiredMotion F) :
    DesiredMotion F :=
  { d with
    body_height := rcHeight height_fraction
    stride := toUInt16 (rc.stride * ofUInt16 kMaxGaitStrideMm)
    step_height := toUInt16 (rc.step_height * ofUInt16 kMaxGaitStepMm)
    speed := toUInt8 (rc.speed * lit 255)
    duty := toUInt8 (rc.duty * lit 255) }

/-- What RC asks for: a running trick shapes the motion, otherwise the sticks do. The RC shape is
written last, also over the one a trick has set. -/
def rcDesired (rc : ControllerCommand F) (trick : TrickOutput F) (host : DesiredMotion F) :
    DesiredMotion F :=
  if trick.active then
    let d := { host with
      gait := trick.gait.wire
      vx := trick.twist_vx
      vy := trick.twist_vy
      wz := trick.twist_wz
      pose := trick.pose
      height_rate_override_mm_per_s := trick.height_rate_mm_per_s }
    let d := if trick.override_gait_shape then
        { d with
          stride := trick.stride_mm
          step_height := trick.step_height_mm
          speed := trick.speed_x255 }
      else d
    rcShape rc (if trick.override_height then trick.body_height_frac else rc.body_height) d
  else
    rcShape rc rc.body_height
      { host with
        gait := (rcGaitFromIndex rc.gait_index).wire
        vx := rc.twist_vx
        vy := rc.twist_vy
        wz := rc.twist_wz
        pose := ⟨rc.pose_x_mm, rc.pose_y_mm, rc.pose_z_mm, rc.pose_roll + rc.trim_roll,
          rc.pose_pitch + rc.trim_pitch, rc.pose_yaw⟩ }

/-- The statuses the seeding loop skips: a failed read, or a position off the device range. -/
def ServoStatus.skipped (servo : ServoStatus) : Bool :=
  !servo.ok || servo.present_position < 0 ||
    decide (servo.present_position.toInt > kServoMaxTick.toNat)

def seedGoals (cfg : RobotConfig) : List ServoStatus → GaitPipeline F → GaitPipeline F
  | [], pipeline => pipeline
  | servo :: rest, pipeline =>
    if servo.skipped then seedGoals cfg rest pipeline
    else
      seedGoals cfg rest
        (pipeline.seedGoal cfg servo.id (UInt16.ofInt servo.present_position.toInt))

omit [FloatArith F] in
theorem seedGoals_frame (cfg : RobotConfig) (servos : List ServoStatus) (g : GaitPipeline F) :
    ∃ r : Ramp, seedGoals cfg servos g = { g with toRamp := r } := by
  induction servos generalizing g with
  | nil => exact ⟨g.toRamp, rfl⟩
  | cons servo servos ih =>
    unfold seedGoals
    split
    · exact ih g
    · obtain ⟨r, hseed⟩ := g.seedGoal_frame cfg servo.id (UInt16.ofInt servo.present_position.toInt)
      rw [hseed]
      exact ih _

namespace Motion

variable (motion : Motion F)

def reconfigure (cfg : RobotConfig) : Motion F :=
  { motion with
    pipeline := motion.pipeline.reconfigure cfg
    body_command_shaper :=
      (motion.body_command_shaper.configure cfg.body_command).reset (ofUInt16 cfg.gait.body_height_mm)
    applied_intent_sequence := kNoSequence
    applied_gait := kNoGait }

/-- Tricks are cancelled and nothing counts as applied. -/
def forget : Motion F :=
  { motion with
    trick_engine := motion.trick_engine.cancel
    applied_intent_sequence := kNoSequence
    applied_gait := kNoGait }

/-- The step that starts a maintenance session asks the adapter to clear the stored targets. -/
def startMaintenanceSession (command : RobotCommand) : Motion F × RobotCommand :=
  (motion.forget,
    { command with
      diagnostics := { command.diagnostics with
        maintenance_session_started := true
        clear_maintenance_targets := true } })

def maintenanceGoals (cfg : RobotConfig)
    (targets : Vector (Vector MaintTarget kJointsPerLeg) kNumLegs) : List PipelineJoint :=
  (List.finRange kNumLegs).flatMap fun leg =>
    (List.finRange kJointsPerLeg).filterMap fun joint =>
      let target := (targets.get leg).get joint
      if !target.set then none
      else
        (servoFor cfg (UInt8.ofNat leg.val) (UInt8.ofNat joint.val)).map fun servo =>
          { id := servo.id, tick := target.tick, leg := UInt8.ofNat leg.val,
            joint := UInt8.ofNat joint.val, clamped := target.clamped }

def emitMaintenanceTargets (cfg : RobotConfig) (maintenance : MaintenanceIntent)
    (command : RobotCommand) : Motion F × RobotCommand :=
  let joints := maintenanceGoals cfg maintenance.targets
  (motion.forget,
    { command with
      goals := { command.goals with joints }
      goal_valid := !joints.isEmpty
      diagnostics := { command.diagnostics with any_goal_clamped := joints.any (·.clamped) } })

/-- Tricks and the source of the command: the motion asked for this step. -/
def desire (intent : ControllerIntent F) (rc_drives : Bool) (dt_ms : UInt32) :
    Motion F × DesiredMotion F :=
  let host := hostDesired intent.motion
  if rc_drives then
    let rc := intent.rc.command
    let trick_engine :=
      if rc.trick ≠ .none ∧ motion.previous_rc_trick = .none then
        motion.trick_engine.trigger rc.trick rc.body_height
      else motion.trick_engine
    let trick_engine := trick_engine.update dt_ms (sticksAreActive rc)
    ({ motion with
        trick_engine
        previous_rc_trick := rc.trick
        applied_intent_sequence := kNoSequence },
      rcDesired rc trick_engine.out host)
  else
    ({ motion with
        trick_engine := motion.trick_engine.cancel
        previous_rc_trick := .none
        applied_intent_sequence := intent.motion.seq }, host)

def shaperInput (d : DesiredMotion F) : BodyCommand F where
  vx := d.vx
  vy := d.vy
  wz := d.wz
  body_height_mm := ofUInt16 d.body_height
  height_rate_override_mm_per_s := d.height_rate_override_mm_per_s
  pose := d.pose

/-- The pipeline's settings for this step, from the desired motion and the shaped command. -/
def steer (cfg : RobotConfig) (d : DesiredMotion F) (dt_ms : UInt32) (preview : Bool) : Motion F :=
  let body_command_shaper := motion.body_command_shaper.update (shaperInput d) dt_ms
  let shaped := body_command_shaper.current
  let pipeline := motion.pipeline.setParams cfg (toUInt16 (shaped.body_height_mm + lit 0.5)) d.stride
    d.step_height d.duty d.speed
  let pipeline := pipeline.setBodyPose (commandPoseToBody shaped.pose)
  let pipeline :=
    if d.gait ≠ motion.applied_gait then pipeline.setGait (gaitFromWire d.gait) else pipeline
  let (body_vx, body_vy) := commandPlanarToBody shaped.vx shaped.vy
  let pipeline := pipeline.setTwist body_vx body_vy shaped.wz
  { motion with
    body_command_shaper
    pipeline := pipeline.setPreviewLeg (if preview then kGaitTunePreviewLeg else -1)
    applied_gait := d.gait }

def seed (cfg : RobotConfig) (servos : List ServoStatus) (previous_motion_gate : Bool) : Motion F :=
  if !previous_motion_gate then
    { motion with pipeline := seedGoals cfg servos motion.pipeline.resetPhase }
  else motion

def emit (cfg : RobotConfig) (dt_ms : UInt32) (command : RobotCommand) : Motion F × RobotCommand :=
  let (pipeline, goals) := motion.pipeline.update cfg dt_ms
  ({ motion with pipeline },
    { command with
      goals
      goal_valid := true
      diagnostics := { command.diagnostics with
        any_goal_clamped := goals.joints.any (·.clamped)
        any_goal_unreachable := goals.any_unreachable
        any_goal_reach_limited := goals.any_reach_limited } })

def drive (cfg : RobotConfig) (inp : ControllerStepInput F) (previous_motion_gate : Bool)
    (command : RobotCommand) : Motion F × RobotCommand :=
  let rc_drives := command.command_source == .rc
  let (motion, d) := motion.desire inp.intent rc_drives inp.time.dt_ms
  let preview := rc_drives && inp.intent.rc.command.gait_tune_active &&
    !motion.trick_engine.active && !sticksAreActive inp.intent.rc.command
  let motion := motion.steer cfg d inp.time.dt_ms preview
  let motion := motion.seed cfg inp.state.dxl.servos previous_motion_gate
  motion.emit cfg inp.time.dt_ms
    { command with
      diagnostics := { command.diagnostics with
        applied_body_height_mm :=
          toUInt16 (motion.body_command_shaper.current.body_height_mm + lit 0.5)
        applied_stride_mm := d.stride
        applied_step_height_mm := d.step_height
        applied_duty_x255 := d.duty
        applied_speed_x255 := d.speed
        gait_tune_preview := preview } }

def hold (cfg : RobotConfig) (rc_cmd : ControllerCommand F) (command : RobotCommand) :
    Motion F × RobotCommand :=
  let rc_shape := command.command_source == .rc && rc_cmd.ever_seen
  let shape := rcShape rc_cmd rc_cmd.body_height
    ⟨0, lit 0, lit 0, lit 0, .neutral, 0, 0, 0, 0, 0, lit 0⟩
  ({ motion.forget with
      body_command_shaper := motion.body_command_shaper.reset (ofUInt16 cfg.gait.body_height_mm)
      previous_rc_trick := .none
      pipeline := motion.pipeline.setPreviewLeg (-1) },
    { command with
      diagnostics := { command.diagnostics with
        applied_body_height_mm :=
          if rc_shape then shape.body_height else cfg.gait.body_height_mm
        applied_stride_mm := if rc_shape then shape.stride else cfg.gait.stride_len_mm
        applied_step_height_mm := if rc_shape then shape.step_height else cfg.gait.step_height_mm
        applied_duty_x255 := if rc_shape then shape.duty else cfg.gait.duty_x255
        applied_speed_x255 := if rc_shape then shape.speed else cfg.gait.speed_x255 } })

def act (cfg : RobotConfig) (inp : ControllerStepInput F) (previous_motion_gate
    previous_maintenance_authority : Bool) (command : RobotCommand) : Motion F × RobotCommand :=
  let maintenance_authority := command.motion_gate && command.command_source == .macMaintenance
  if maintenance_authority && !previous_maintenance_authority then
    motion.startMaintenanceSession command
  else if maintenance_authority && inp.intent.maintenance.control_mode == .jointTargets then
    motion.emitMaintenanceTargets cfg inp.intent.maintenance command
  else if command.motion_gate then motion.drive cfg inp previous_motion_gate command
  else motion.hold cfg inp.intent.rc.command command

end Motion

/-! ## The step -/

namespace ControllerCore

def reset (core : ControllerCore F) : ControllerCore F :=
  let cfg := core.config_cache.snapshot.robot
  { core with
    state_machine := core.state_machine.reset
    arbiter := core.arbiter.reset
    trick_engine := .reset
    pipeline := (core.pipeline.reconfigure cfg).resetPhase
    body_command_shaper :=
      (core.body_command_shaper.configure cfg.body_command).reset (ofUInt16 cfg.gait.body_height_mm)
    applied_intent_sequence := kNoSequence
    applied_gait := kNoGait
    idle_seen_intent_sequence := kNoSequence
    previous_rc_trick := .none
    previous_motion_gate := false
    previous_maintenance_authority := false }

def new : ControllerCore F :=
  let cache := ConfigSnapshotCache.new
  reset
    { config_cache := cache
      arbiter := {}
      state_machine := {}
      idle_seen_intent_sequence := kNoSequence
      pipeline := .new cache.snapshot.robot
      trick_engine := .reset
      body_command_shaper := BodyCommandShaper.new.configure cache.snapshot.robot.body_command
      applied_intent_sequence := kNoSequence
      applied_gait := kNoGait
      previous_rc_trick := .none
      previous_motion_gate := false
      previous_maintenance_authority := false }

def configureSafety (core : ControllerCore F) (params : StateParams) : ControllerCore F :=
  { core with state_machine := { core.state_machine with params } }

/-- The configuration section: the core with an updated snapshot applied, and what became of the
snapshot of this step. A snapshot that is not valid is not looked at. -/
def applyConfig (core : ControllerCore F) (config : ControllerConfigSnapshot) :
    ControllerCore F × ConfigSnapshotUpdate :=
  if !config.valid then (core, .rejected)
  else
    let (config_cache, update) :=
      core.config_cache.apply config.robot config.revision config.persistent
    if update = .updated then
      ({ core with
          config_cache
          toMotion := core.toMotion.reconfigure config_cache.snapshot.robot }, update)
    else (core, update)

def step (core : ControllerCore F) (inp : ControllerStepInput F) : ControllerCore F × RobotCommand :=
  let command : RobotCommand := { diagnostics := {
    intent_sequence := inp.intent.motion.seq
    config_revision := core.config_cache.snapshot.revision } }
  if !inp.time.valid then
    (core, { command with
      safety_state := core.state_machine.state
      fault_reason := core.state_machine.reason })
  else
    let (core, update) := core.applyConfig inp.config
    let config_usable := update != .rejected && inp.state.config_ready
    let cfg := core.config_cache.snapshot.robot
    let trick_active := core.trick_engine.active
    let command := { command with diagnostics := { command.diagnostics with
      config_reapplied := update == .updated
      config_revision := core.config_cache.snapshot.revision } }
    let authority :=
      core.toAuthority.authorize inp.state inp.intent inp.time.now_ms config_usable trick_active
    let command := authority.report inp.state inp.intent config_usable core.previous_motion_gate
      trick_active command
    let (motion, command) := core.toMotion.act cfg inp core.previous_motion_gate
      core.previous_maintenance_authority command
    ({ toAuthority := authority
       toMotion := motion
       previous_motion_gate := command.motion_gate
       previous_maintenance_authority :=
        command.motion_gate && command.command_source == .macMaintenance }, command)

end ControllerCore

/-- A step of a controller run: the input is recorded with the command it led to. -/
abbrev ControllerEvent (F : Type) := Event (ControllerCore F) (ControllerStepInput F × RobotCommand)

/-- From the reset of `core₀`, the steps recorded in `h` lead to `core`. -/
abbrev ControllerRun (core₀ : ControllerCore F) : List (ControllerEvent F) → ControllerCore F →
    Prop :=
  Run (WithOutput ControllerCore.step) core₀.reset

end HexapodVerified.Controller
