import HexapodVerified.Controller.ControllerCore
import HexapodVerified.Lib.PastTime
import HexapodVerified.Lib.Tables
import HexapodVerified.Protocol.MotionApi

/-!
# The simulation node

`robot_ros_simulation/hexapod_controller_ros`: the node that steps a controller core in the simulation, and
the adapter between the core and the messages. A time is in nanoseconds since the adapter was made, and `F`
stands for `float` and `double`.
-/

namespace HexapodVerified.Simulation

open HexapodVerified.Config HexapodVerified.Controller HexapodVerified.Gait HexapodVerified.Protocol
open HexapodVerified.Safety FloatArith Tables Transition

variable {F : Type} [FloatArith F]

/-! ## The messages -/

namespace Msg

structure JointState (F : Type) where
  name : List String
  position : List F

structure MotionCommand (F : Type) where
  sequence : UInt32
  valid_for_sec : Int32
  valid_for_nanosec : UInt32
  gait : UInt8
  body_height_m : F
  stride_length_m : F
  step_height_m : F
  duty_factor : F
  speed_scale : F
  normalized_vx : F
  normalized_vy : F
  normalized_wz : F
  body_translation_x_m : F
  body_translation_y_m : F
  body_translation_z_m : F
  body_roll_rad : F
  body_pitch_rad : F
  body_yaw_rad : F

/-- `SilSafetyInput`, and with the defaults of its members the `SilSafetyState` of the adapter. -/
structure SilSafetyInput where
  rc_seen : Bool := false
  rc_kill : Bool := true
  rc_armed : Bool := false
  rc_autonomy_enabled : Bool := false
  host_estop : Bool := false
  battery_valid : Bool := true
  battery_millivolts : UInt16 := 12000
  watchdog_fault : Bool := false
  dxl_hard_fault : Bool := false
  foot_contact_enabled : Bool := false
  deriving DecidableEq, Repr

abbrev STATE_STALE : UInt8 := 5
abbrev STATE_FAULT : UInt8 := 6

structure FootContact where
  leg_index : UInt8
  state : UInt8
  confidence : UInt8
  deriving DecidableEq, Repr

abbrev VALIDITY_FRESH : UInt8 := 1
abbrev VALIDITY_FAULT : UInt8 := 3

structure FootContactArray where
  validity : UInt8
  present_mask : UInt8
  feet : Vector FootContact kNumFootSensors
  deriving DecidableEq, Repr

/-- An entry of the arrays of a `JointCommand`. -/
structure JointGoal (F : Type) where
  name : String
  goal_tick : UInt16
  position_rad : F
  clamped : Bool

structure JointCommand (F : Type) where
  source_time_ms : UInt32
  config_revision : UInt32
  safety_state : State
  fault_reason : FaultReason
  command_source : CommandSource
  motion_gate : Bool
  goal_valid : Bool
  goals : List (JointGoal F)

structure ControllerStatus where
  source_time_ms : UInt32
  config_revision : UInt32
  safety_state : State
  fault_reason : FaultReason
  command_source : CommandSource
  motion_authorized : Bool
  motion_gate : Bool
  allow_dxl_power : Bool
  allow_torque : Bool
  goal_valid : Bool
  simulation_output_published : Bool
  deriving DecidableEq, Repr

end Msg

/-! ## Conversions -/

abbrev kConfigRevision : UInt32 := 1
abbrev kMaximumMotionValidityMs : Int := 1000
/-- The bits of `present_mask` that belong to no foot. -/
abbrev kNoFeetMask : UInt8 := 0xC0

def kJointNames : Vector String kNumServos := #v[
  "leg_1_coxa_joint", "leg_1_femur_joint", "leg_1_tibia_joint",
  "leg_2_coxa_joint", "leg_2_femur_joint", "leg_2_tibia_joint",
  "leg_3_coxa_joint", "leg_3_femur_joint", "leg_3_tibia_joint",
  "leg_4_coxa_joint", "leg_4_femur_joint", "leg_4_tibia_joint",
  "leg_5_coxa_joint", "leg_5_femur_joint", "leg_5_tibia_joint",
  "leg_6_coxa_joint", "leg_6_femur_joint", "leg_6_tibia_joint"]

/-- `jointIndexForName`; nothing for `-1`. -/
def jointIndexForName (name : String) : Option (Fin kNumServos) :=
  (List.finRange kNumServos).find? fun index => name == kJointNames.get index

/-- `std::isfinite`: the difference of a value and itself is zero unless it is infinite or no number. -/
def isfinite (value : F) : Bool := feq (value - value) (lit 0)

def metersToMillimeters (value : F) (maximum : UInt16) : UInt16 :=
  UInt16.ofInt (lround (clampf (value * lit 1000) (lit 0) (ofUInt16 maximum)))

def metersToBoundedMillimeters (value maximum : F) : F := clampf (value * lit 1000) (-maximum) maximum

def boundedRadians (value : F) : F := clampf value (-Motionlim.kMaxPoseRotRad) Motionlim.kMaxPoseRotRad

def clampSignedUnit (value : F) : F := clampf value (lit (-1)) (lit 1)

def unitToX255 (value : F) : UInt8 := UInt8.ofInt (lround (clampf value (lit 0) (lit 1) * lit 255))

namespace Msg

/-- `Ros2ControlSilAdapter::isFinite`. -/
def MotionCommand.isFinite (message : MotionCommand F) : Bool :=
  [message.body_height_m, message.stride_length_m, message.step_height_m, message.duty_factor,
    message.speed_scale, message.normalized_vx, message.normalized_vy, message.normalized_wz,
    message.body_translation_x_m, message.body_translation_y_m, message.body_translation_z_m,
    message.body_roll_rad, message.body_pitch_rad, message.body_yaw_rad].all isfinite

def MotionCommand.requestedMs (message : MotionCommand F) : Int :=
  message.valid_for_sec.toInt * 1000 + (message.valid_for_nanosec / 1000000).toNat

/-- `convertMotionCommand`: the intent, and for how many milliseconds it is valid. -/
def MotionCommand.convert (message : MotionCommand F) : Option (MotionIntent F × Nat) :=
  if message.gait ≥ Motiongait.kCount || !message.isFinite then none
  else if message.requestedMs ≤ 0 then none
  else some
    ({ seq := message.sequence
       gait := message.gait
       body_height_mm := metersToMillimeters message.body_height_m Motionlim.kMaxBodyHeightMm
       stride_len_mm := metersToMillimeters message.stride_length_m Motionlim.kMaxStrideMm
       step_height_mm := metersToMillimeters message.step_height_m Motionlim.kMaxStepMm
       duty_x255 := unitToX255 message.duty_factor
       speed_x255 := unitToX255 message.speed_scale
       twist_vx := clampSignedUnit message.normalized_vx
       twist_vy := clampSignedUnit message.normalized_vy
       twist_wz := clampSignedUnit message.normalized_wz
       pose_x_mm := metersToBoundedMillimeters message.body_translation_x_m Motionlim.kMaxPoseTransMm
       pose_y_mm := metersToBoundedMillimeters message.body_translation_y_m Motionlim.kMaxPoseTransMm
       pose_z_mm := metersToBoundedMillimeters message.body_translation_z_m Motionlim.kMaxPoseTransMm
       pose_roll := boundedRadians message.body_roll_rad
       pose_pitch := boundedRadians message.body_pitch_rad
       pose_yaw := boundedRadians message.body_yaw_rad },
      (min message.requestedMs kMaximumMotionValidityMs).toNat)

end Msg

def setContactState (destination : LegContactState) (state : UInt8) : LegContactState :=
  let stale := state == Msg.STATE_STALE
  let fault := state == Msg.STATE_FAULT
  { stale, fault, confidence := if stale || fault then 0 else destination.confidence }

def markContactUnavailable (destination : LegContactState) (fault : Bool) : LegContactState :=
  { setContactState destination (if fault then Msg.STATE_FAULT else Msg.STATE_STALE) with confidence := 0 }

/-- `invalidateContacts`; all that it does not do alike for every validity is to tell a fault apart. -/
def invalidateContacts (snapshot : ContactSnapshot) (fault : Bool) : ContactSnapshot :=
  { snapshot with feet := snapshot.feet.map (markContactUnavailable · fault) }

namespace Msg

/-- The slot of an entry, and what it puts there. -/
def FootContact.slot (source : FootContact) : Option (Fin kNumFootSensors × LegContactState) :=
  if h : source.leg_index.toNat < kNumFootSensors then
    if source.state ≤ STATE_FAULT then
      some (⟨source.leg_index.toNat, h⟩, setContactState { confidence := source.confidence } source.state)
    else none
  else none

/-- `convertFootContacts`. -/
def FootContactArray.convert (message : FootContactArray) : Option ContactSnapshot :=
  if message.validity > VALIDITY_FAULT || message.present_mask &&& kNoFeetMask != 0 then none
  else
    match fill (message.feet.toList.map FootContact.slot) (.replicate _ none) with
    | none => none
    | some found =>
      if !found.all Option.isSome then none
      else
        let snapshot : ContactSnapshot := { feet := found.map (·.getD {}) }
        if message.validity ≠ VALIDITY_FRESH then
          some (invalidateContacts snapshot (message.validity == VALIDITY_FAULT))
        else
          some { feet := .ofFn fun leg =>
            if message.present_mask &&& (1 <<< UInt8.ofNat leg.val) = 0 then
              markContactUnavailable (snapshot.feet.get leg) false
            else snapshot.feet.get leg }

/-- The slot of an entry of `acceptJointState`. -/
def JointState.slot (joint : String × F) : Option (Fin kNumServos × F) :=
  match jointIndexForName joint.1 with
  | none => none
  | some joint_index => if isfinite joint.2 then some (joint_index, joint.2) else none

/-- The check of `acceptJointState`: the position of every joint. -/
def JointState.convert (message : JointState F) : Option (Vector F kNumServos) :=
  if message.name.length ≠ message.position.length then none
  else
    match fill ((message.name.zip message.position).map JointState.slot) (.replicate _ none) with
    | none => none
    | some found => if !found.all Option.isSome then none else some (found.map (·.getD (lit 0)))

end Msg

/-! ## The adapter -/

structure ContactMailbox where
  snapshot : ContactSnapshot := {}
  received : Nat := 0
  received_valid : Bool := false

structure Ros2ControlSilAdapter (F : Type) where
  config : RobotConfig
  config_valid : Bool
  feedback_positions_rad : Vector F kNumServos
  feedback_valid : Bool
  feedback_received : Nat
  motion : MotionIntent F
  motion_valid : Bool
  motion_expires : Nat
  safety : Msg.SilSafetyInput
  contacts : ContactMailbox
  last_sample_ms : UInt32
  sampled_once : Bool
  feedback_timeout_ms : UInt32
  contact_timeout_ms : UInt32
  simulation_output_count : UInt32
  last_simulation_command : Vector F kNumServos

/-- What a publish sends. -/
structure Published (F : Type) where
  joint_command : Msg.JointCommand F
  simulation_command : Option (Vector F kNumServos)
  status : Msg.ControllerStatus

/-- The whole milliseconds between two times. -/
def millisecondsSince (now received : Nat) : Nat := (now - received) / 1000000

def elapsedMilliseconds (now : Nat) : UInt32 := UInt32.ofNat (millisecondsSince now 0)

/-- A timeout parameter; one that is not positive leaves the default. -/
def timeoutParameter (timeout_ms : Int) : UInt32 := if timeout_ms > 0 then UInt32.ofInt timeout_ms else 250

/-- The joint a goal is for. -/
def goalIndex (goal : PipelineJoint) : Option (Fin kNumServos) :=
  if h : goal.leg.toNat < kNumLegs ∧ goal.joint.toNat < kJointsPerLeg then
    some ⟨goal.leg.toNat * kJointsPerLeg + goal.joint.toNat, by
      unfold kNumLegs kJointsPerLeg at h
      unfold kJointsPerLeg kNumServos
      omega⟩
  else none

/-- The status of one servo of a sample; nothing when the map has no servo for it. -/
def servoStatus (config : RobotConfig) (positions_rad : Vector F kNumServos) (servo : ServoConfig) :
    Option ServoStatus :=
  let joint_index := servo.leg.toNat * kJointsPerLeg + servo.joint.toNat
  let converted := Dxl.angleToTick config servo.leg servo.joint (positions_rad.getD joint_index (lit 0))
  if converted.unmapped then none
  else some { id := servo.id, present_position := Int32.ofNat converted.tick.toNat, ok := true }

namespace Ros2ControlSilAdapter

/-- The constructor, with the values of the two timeout parameters. -/
def new (feedback_timeout_ms contact_timeout_ms : Int) : Ros2ControlSilAdapter F where
  config := defaultRobotConfig
  config_valid := validateRobotConfig defaultRobotConfig
  feedback_positions_rad := .replicate _ (lit 0)
  feedback_valid := false
  feedback_received := 0
  motion := .default
  motion_valid := false
  motion_expires := 0
  safety := {}
  contacts := {}
  last_sample_ms := 0
  sampled_once := false
  feedback_timeout_ms := timeoutParameter feedback_timeout_ms
  contact_timeout_ms := timeoutParameter contact_timeout_ms
  simulation_output_count := 0
  last_simulation_command := .replicate _ (lit 0)

variable (adapter : Ros2ControlSilAdapter F) (now : Nat)

def acceptJointState (message : Msg.JointState F) : Ros2ControlSilAdapter F × Bool :=
  match message.convert with
  | none => (adapter, false)
  | some positions =>
    ({ adapter with feedback_positions_rad := positions, feedback_received := now, feedback_valid := true },
      true)

def acceptMotionCommand (message : Msg.MotionCommand F) : Ros2ControlSilAdapter F × Bool :=
  match message.convert with
  | none => (adapter, false)
  | some (motion, validity) =>
    ({ adapter with motion, motion_expires := now + validity * 1000000, motion_valid := true }, true)

def acceptSafetyInput (message : Msg.SilSafetyInput) : Ros2ControlSilAdapter F :=
  { adapter with safety := message }

def acceptFootContacts (message : Msg.FootContactArray) : Ros2ControlSilAdapter F × Bool :=
  match message.convert with
  | none => (adapter, false)
  | some snapshot => ({ adapter with contacts := { snapshot, received := now, received_valid := true } }, true)

def sampledContact : ContactSnapshot :=
  if !adapter.contacts.received_valid then invalidateContacts {} false
  else if millisecondsSince now adapter.contacts.received > adapter.contact_timeout_ms.toNat then
    invalidateContacts adapter.contacts.snapshot false
  else adapter.contacts.snapshot

/-- The input of a sample. What the source does not set has its default. -/
def sampledInput (servos : List ServoStatus) (now_ms dt_ms : UInt32) : ControllerStepInput F where
  state :=
    { battery := { millivolts := adapter.safety.battery_millivolts, valid := adapter.safety.battery_valid }
      dxl :=
        { servos
          configured_servo_coverage := true
          pose_known_mask := kAllServoPosesKnown
          config_revision := kConfigRevision
          torque_off := !adapter.safety.rc_armed
          hard_fault := adapter.safety.dxl_hard_fault }
      contact := adapter.sampledContact now
      config_ready := adapter.config_valid
      watchdog_fault := adapter.safety.watchdog_fault }
  intent :=
    { rc :=
        { command := .default
          ever_seen := adapter.safety.rc_seen
          kill := adapter.safety.rc_kill
          armed := adapter.safety.rc_armed
          failsafe := adapter.safety.rc_seen && adapter.safety.rc_kill
          autonomy_enabled := adapter.safety.rc_autonomy_enabled }
      motion := if adapter.motion_valid && now ≤ adapter.motion_expires then adapter.motion else .default
      features :=
        { foot_contact_enabled := adapter.safety.foot_contact_enabled, jetson_control_enabled := true }
      host_estop := adapter.safety.host_estop
      jetson_heartbeat_received := adapter.motion_valid && now ≤ adapter.motion_expires }
  config :=
    { robot := adapter.config, revision := kConfigRevision, valid := adapter.config_valid, persistent := false }
  time := { now_ms, dt_ms, valid := true }

def sample : Ros2ControlSilAdapter F × Option (ControllerStepInput F) :=
  if !adapter.feedback_valid ||
      millisecondsSince now adapter.feedback_received > adapter.feedback_timeout_ms.toNat then
    (adapter, none)
  else
    let now_ms := elapsedMilliseconds now
    if adapter.sampled_once && now_ms - adapter.last_sample_ms > 1000 then
      ({ adapter with sampled_once := false }, none)
    else
      let dt_ms := if adapter.sampled_once then max 1 (now_ms - adapter.last_sample_ms) else 10
      let adapter := { adapter with last_sample_ms := now_ms, sampled_once := true }
      match adapter.config.servos.toList.mapM (servoStatus adapter.config adapter.feedback_positions_rad) with
      | none => (adapter, none)
      | some servos => (adapter, some (adapter.sampledInput now servos now_ms dt_ms))

/-- What the goal loop of `publish` notes for one goal. -/
def goalSlot (robot : RobotConfig) (goal : PipelineJoint) : Option (Fin kNumServos × UInt16 × F × Bool) :=
  (goalIndex goal).map fun joint_index =>
    (joint_index, goal.tick, Dxl.tickToAngle robot goal.leg goal.joint goal.tick, goal.clamped)

/-- `publish`, without the odometry that is only shown. -/
def publish (inp : ControllerStepInput F) (command : RobotCommand) : Ros2ControlSilAdapter F × Published F :=
  let goals_are_complete := command.goal_valid && command.goals.joints.length == kNumServos
  let (goals_are_complete, found) := place (command.goals.joints.map (goalSlot inp.config.robot))
    (goals_are_complete, .replicate kNumServos none)
  let goals_are_complete := goals_are_complete && found.all Option.isSome
  let positions_rad := found.map fun goal => (goal.map fun g => g.2.1).getD (lit 0)
  let goals := (List.finRange kNumServos).filterMap fun index => (found.get index).map fun g =>
    { name := kJointNames.get index, goal_tick := g.1, position_rad := g.2.1, clamped := g.2.2 }
  let send_simulation_command := command.motion_gate && command.goal_valid && goals_are_complete
  (if send_simulation_command then
      { adapter with
        last_simulation_command := positions_rad
        simulation_output_count := adapter.simulation_output_count + 1 }
    else adapter,
    { joint_command :=
        { source_time_ms := inp.time.now_ms
          config_revision := inp.config.revision
          safety_state := command.safety_state
          fault_reason := command.fault_reason
          command_source := command.command_source
          motion_gate := command.motion_gate
          goal_valid := command.goal_valid
          goals }
      simulation_command := if send_simulation_command then some positions_rad else none
      status :=
        { source_time_ms := inp.time.now_ms
          config_revision := inp.config.revision
          safety_state := command.safety_state
          fault_reason := command.fault_reason
          command_source := command.command_source
          motion_authorized := command.motion_authorized
          motion_gate := command.motion_gate
          allow_dxl_power := command.allow_dxl_power
          allow_torque := command.allow_torque
          goal_valid := command.goal_valid
          simulation_output_published := send_simulation_command } })

end Ros2ControlSilAdapter

/-! ## The node -/

/-- `ControllerCoreNode` with the adapter that `main` installs. -/
structure ControllerCoreNode (F : Type) where
  adapter : Ros2ControlSilAdapter F
  core : ControllerCore F
  active : Bool := false
  /-- There is a cycle timer. -/
  cycle_timer : Bool := false

/-- What the executor can call, with the parameters or the time of the call. -/
inductive NodeCall (F : Type) where
  | configure (period_ms idle_disarm_ms : Int)
  | activate
  | deactivate
  | cleanup
  | jointState (now : Nat) (message : Msg.JointState F)
  | motionCommand (now : Nat) (message : Msg.MotionCommand F)
  | safetyInput (message : Msg.SilSafetyInput)
  | footContacts (now : Nat) (message : Msg.FootContactArray)
  | stepOnce (now : Nat)

inductive NodeReply (F : Type) where
  | returned (success : Bool)
  | stepped (input : ControllerStepInput F) (published : Published F)

namespace ControllerCoreNode

def new (feedback_timeout_ms contact_timeout_ms : Int) : ControllerCoreNode F where
  adapter := .new feedback_timeout_ms contact_timeout_ms
  core := .new

variable (node : ControllerCoreNode F)

def onConfigure (period_ms idle_disarm_ms : Int) : ControllerCoreNode F × Bool :=
  if period_ms ≤ 0 then (node, false)
  else if idle_disarm_ms < 0 then (node, false)
  else
    ({ node with
        core := node.core.reset.configureSafety { idle_disarm_ms := UInt32.ofInt idle_disarm_ms }
        active := false
        cycle_timer := true }, true)

def onActivate : ControllerCoreNode F × Bool :=
  if !node.cycle_timer then (node, false) else ({ node with active := true }, true)

def onDeactivate : ControllerCoreNode F := { node with active := false }

def onCleanup : ControllerCoreNode F :=
  { node with active := false, cycle_timer := false, core := node.core.reset }

/-- `stepOnce`: the input that was sampled, and what was published. -/
def stepOnce (now : Nat) : ControllerCoreNode F × Option (ControllerStepInput F × Published F) :=
  if !node.active then (node, none)
  else
    match node.adapter.sample now with
    | (adapter, none) => ({ node with adapter }, none)
    | (adapter, some inp) =>
      let (core, command) := node.core.step inp
      let (adapter, published) := adapter.publish inp command
      ({ node with adapter, core }, some (inp, published))

def call : NodeCall F → ControllerCoreNode F × NodeReply F
  | .configure period_ms idle_disarm_ms => (node.onConfigure period_ms idle_disarm_ms).map id .returned
  | .activate => node.onActivate.map id .returned
  | .deactivate => (node.onDeactivate, .returned true)
  | .cleanup => (node.onCleanup, .returned true)
  | .jointState now message =>
    (node.adapter.acceptJointState now message).map (fun adapter => { node with adapter }) .returned
  | .motionCommand now message =>
    (node.adapter.acceptMotionCommand now message).map (fun adapter => { node with adapter }) .returned
  | .safetyInput message => ({ node with adapter := node.adapter.acceptSafetyInput message }, .returned true)
  | .footContacts now message =>
    (node.adapter.acceptFootContacts now message).map (fun adapter => { node with adapter }) .returned
  | .stepOnce now =>
    match node.stepOnce now with
    | (node, none) => (node, .returned false)
    | (node, some (inp, published)) => (node, .stepped inp published)

end ControllerCoreNode

/-- A call of a run, with its reply. -/
abbrev NodeEvent (F : Type) := Event (ControllerCoreNode F) (NodeCall F × NodeReply F)

/-- From the start of the process, the calls recorded in `h` lead to `node`. -/
abbrev NodeRun (feedback_timeout_ms contact_timeout_ms : Int) :
    List (NodeEvent F) → ControllerCoreNode F → Prop :=
  Run (WithOutput ControllerCoreNode.call) (.new feedback_timeout_ms contact_timeout_ms)

end HexapodVerified.Simulation
