import HexapodVerified.Protocol.Framing
import HexapodVerified.Protocol.MotionApi
import Mathlib.Data.List.TakeWhile
import Mathlib.Data.UInt

/-!
# The simulated firmware

`scripts/companion_sim_protocol.py`: how `SimulatedFirmwareServer` cuts what it receives into frames, and the
control and the motion commands as `SimulatedFirmware` handles them, in metres and factors where the firmware has
millimetres and bytes. The other commands are left out.
-/

namespace HexapodVerified.Simulation

open HexapodVerified.Protocol Bytes FloatArith

/-- What `buffer.find(b"\x00")` has behind it and what is deleted before. -/
def fromZero (buffer : List UInt8) : List UInt8 := buffer.dropWhile (· != 0)

/-- `_extract_frames`: the frames, and what stays in the buffer. -/
def extractFrames (buffer : List UInt8) : List (List UInt8) × List UInt8 :=
  match _hstart : fromZero buffer with
  | [] => ([], [])
  | zero :: rest =>
    if 0 ∈ rest then
      let body := rest.takeWhile (· != 0)
      let (frames, left) := extractFrames (rest.drop (body.length + 1))
      ((zero :: body ++ [0]) :: frames, left)
    else ([], zero :: rest)
termination_by buffer.length
decreasing_by
  have hle : (fromZero buffer).length ≤ buffer.length := (List.dropWhile_suffix _).length_le
  rw [_hstart, List.length_cons] at hle
  rw [List.length_drop]
  omega

/-- `_serve_connection`: the buffer is cut, and then extended with the next chunk. -/
def serveFrames (buffer : List UInt8) : List (List UInt8) → List (List UInt8) × List UInt8
  | [] => extractFrames buffer
  | chunk :: chunks =>
    let (frames, left) := extractFrames buffer
    let (later, last) := serveFrames (left ++ chunk) chunks
    (frames ++ later, last)

variable {F : Type} [FloatArith F]

namespace SafetyState

abbrev DISARMED : UInt8 := 2
abbrev RC_MANUAL : UInt8 := 5
abbrev ESTOP : UInt8 := 12

end SafetyState

structure SimulatedMotionCommand (F : Type) where
  sequence : UInt32
  gait : UInt8
  body_height_m : F
  stride_length_m : F
  step_height_m : F
  duty_factor : F
  speed_scale : F
  normalized_vx : F
  normalized_vy : F
  normalized_wz : F
  body_x_m : F
  body_y_m : F
  body_z_m : F
  roll_rad : F
  pitch_rad : F
  yaw_rad : F

/-- `SimulatedMotionCommand()`. -/
def SimulatedMotionCommand.default : SimulatedMotionCommand F where
  sequence := 0
  gait := 0
  body_height_m := lit 0.040
  stride_length_m := lit 0.060
  step_height_m := lit 0.030
  duty_factor := lit 128 / lit 255
  speed_scale := lit 128 / lit 255
  normalized_vx := lit 0
  normalized_vy := lit 0
  normalized_wz := lit 0
  body_x_m := lit 0
  body_y_m := lit 0
  body_z_m := lit 0
  roll_rad := lit 0
  pitch_rad := lit 0
  yaw_rad := lit 0

/-- `_clamp`. -/
def clamp (value low high : F) : F := fmax low (fmin high value)

/-- `math.radians`, with the number `pi`. -/
def radians (pi degrees : F) : F := degrees * (pi / lit 180)

structure SimulatedFirmware (F : Type) where
  motion : SimulatedMotionCommand F
  state : UInt8

namespace SimulatedFirmware

def new : SimulatedFirmware F := { motion := .default, state := SafetyState.DISARMED }

variable (sim : SimulatedFirmware F)

/-- What `safety_state` reports. -/
def armed : Bool := sim.state == SafetyState.RC_MANUAL

def host_estop : Bool := sim.state == SafetyState.ESTOP

/-- `_handle_control`: the result, and the state afterwards. -/
def controlResult (msg_id : UInt8) (payload : List UInt8) : CtrlResult × UInt8 :=
  if msg_id = Ctrlmsg.kEstop then (.ok, SafetyState.ESTOP)
  else if msg_id = Ctrlmsg.kClearFault then (.ok, SafetyState.DISARMED)
  else if msg_id = Ctrlmsg.kSetArming then
    if payload.length ≠ 1 ∨ ¬ (payload.getD 0 0 = 0 ∨ payload.getD 0 0 = 1) then (.badRequest, sim.state)
    else (.ok, if payload.getD 0 0 = 1 then SafetyState.RC_MANUAL else SafetyState.DISARMED)
  else if msg_id = Ctrlmsg.kSetMode then
    if payload.length ≠ 1 then (.badRequest, sim.state)
    else if payload.getD 0 0 = SafetyState.DISARMED then (.ok, SafetyState.DISARMED)
    else if payload.getD 0 0 = SafetyState.ESTOP then (.ok, SafetyState.ESTOP)
    else (.rejected, sim.state)
  else (.ok, sim.state)

def handleControl (msg_id : UInt8) (payload : List UInt8) : SimulatedFirmware F × Reply :=
  let (result, state) := sim.controlResult msg_id payload
  ({ sim with state },
    { out := [result.wire, state, if state = SafetyState.ESTOP then 2 else 0] })

/-- The motion that a command asks for, or why it is not taken; `pi` is the one of `math`. -/
def motionResult (pi : F) (msg_id : UInt8) (payload : List UInt8) :
    Except MotionResult (SimulatedMotionCommand F) :=
  if msg_id = Motionmsg.kSetGait then
    if payload.length < 1 then .error .badRequest
    else if payload.getD 0 0 ≥ 5 + 1 then .error .rejected
    else .ok { sim.motion with gait := payload.getD 0 0 }
  else if msg_id = Motionmsg.kSetGaitParams then
    if payload.length < 8 then .error .badRequest
    else
      .ok
        { sim.motion with
          body_height_m := ofUInt16 (min (getU16 payload) 120) / lit 1000
          stride_length_m := ofUInt16 (min (getU16 (payload.drop 2)) 80) / lit 1000
          step_height_m := ofUInt16 (min (getU16 (payload.drop 4)) 50) / lit 1000
          duty_factor := ofUInt8 (payload.getD 6 0) / lit 255
          speed_scale := ofUInt8 (payload.getD 7 0) / lit 255 }
  else if msg_id = Motionmsg.kSetBodyTwist then
    if payload.length < 6 then .error .badRequest
    else
      let component (p : List UInt8) : F :=
        clamp (ofInt16 (getU16 p).toInt16 / lit 1000) (-lit 1) (lit 1)
      .ok
        { sim.motion with
          normalized_vx := component payload
          normalized_vy := component (payload.drop 2)
          normalized_wz := component (payload.drop 4) }
  else if msg_id = Motionmsg.kSetBodyPose then
    if payload.length < 12 then .error .badRequest
    else
      let offset (p : List UInt8) : F :=
        clamp (ofInt16 (getU16 p).toInt16) (-lit 50) (lit 50) / lit 1000
      let rotation (p : List UInt8) : F :=
        clamp (radians pi (ofInt16 (getU16 p).toInt16 / lit 1000)) (-lit 0.4363) (lit 0.4363)
      .ok
        { sim.motion with
          body_x_m := offset payload
          body_y_m := offset (payload.drop 2)
          body_z_m := offset (payload.drop 4)
          roll_rad := rotation (payload.drop 6)
          pitch_rad := rotation (payload.drop 8)
          yaw_rad := rotation (payload.drop 10) }
  else if msg_id = Motionmsg.kStopMotion then
    .ok
      { sim.motion with
        gait := 0
        normalized_vx := lit 0
        normalized_vy := lit 0
        normalized_wz := lit 0 }
  else .ok sim.motion

/-- `_handle_motion`; the command that is published is the new motion. -/
def handleMotion (pi : F) (msg_id : UInt8) (payload : List UInt8) :
    SimulatedFirmware F × Reply × Option (SimulatedMotionCommand F) :=
  let status (result : MotionResult) : List UInt8 := [result.wire, sim.state, if sim.armed then 1 else 0]
  match sim.motionResult pi msg_id payload with
  | .error result =>
    (sim, { out := status result, out_flags := if result = .badRequest then 0x02 else 0 }, none)
  | .ok motion =>
    let motion := { motion with sequence := motion.sequence + 1 }
    ({ sim with motion }, { out := status .ok }, some motion)

/-- The dispatch of `_handle_command` for the two groups. -/
def handleCommand (pi : F) (msg_id : UInt8) (payload : List UInt8) : SimulatedFirmware F :=
  if Ctrlmsg.isControlMsg msg_id then (sim.handleControl msg_id payload).1
  else if Motionmsg.isMotionMsg msg_id then (sim.handleMotion pi msg_id payload).1
  else sim

end SimulatedFirmware

/-! ## Both at once -/

structure Twins (F : Type) [FloatArith F] where
  sim : SimulatedFirmware F
  control : ControlApi
  motion : MotionApi F

def documentedLength (msg_id : UInt8) : Option Nat :=
  if msg_id = Ctrlmsg.kEstop ∨ msg_id = Ctrlmsg.kClearFault ∨ msg_id = Motionmsg.kStopMotion then some 0
  else if msg_id = Ctrlmsg.kSetArming ∨ msg_id = Ctrlmsg.kSetMode ∨ msg_id = Motionmsg.kSetGait then some 1
  else if msg_id = Motionmsg.kSetGaitParams then some 8
  else if msg_id = Motionmsg.kSetBodyTwist then some 6
  else if msg_id = Motionmsg.kSetBodyPose then some 12
  else none

inductive TwinAction where
  /-- The same command is fed to both. -/
  | command (msg_id : UInt8) (payload : List UInt8)
  /-- The tasks of the firmware publish its live state. -/
  | publish (state fault : UInt8) (motion_allowed : Bool)
  | consumeClearFault
  | consumeJetsonHeartbeat
  deriving DecidableEq, Repr

/-- The firmware never reports passive mode. -/
inductive TwinStep (pi : F) : Twins F → TwinAction → Twins F → Prop where
  | command {t : Twins F} {msg_id : UInt8} {payload : List UInt8}
      (hlength : documentedLength msg_id = some payload.length) :
      TwinStep pi t (.command msg_id payload)
        { sim := t.sim.handleCommand pi msg_id payload
          control := (t.control.handle msg_id payload kMaxPayload).1
          motion := (t.motion.handle msg_id payload kMaxPayload).1 }
  | publish {t : Twins F} {state fault : UInt8} {motion_allowed : Bool}
      (hpassive : state ≠ Motionstate.kPassivePoseStream) :
      TwinStep pi t (.publish state fault motion_allowed)
        { t with
          control := t.control.setLiveState state fault
          motion := t.motion.setLiveState state motion_allowed }
  | consumeClearFault {t : Twins F} :
      TwinStep pi t .consumeClearFault { t with control := t.control.consumeClearFault.1 }
  | consumeJetsonHeartbeat {t : Twins F} :
      TwinStep pi t .consumeJetsonHeartbeat { t with control := t.control.consumeJetsonHeartbeat.1 }

end HexapodVerified.Simulation
