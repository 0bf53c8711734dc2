import HexapodVerified.Controller.ControllerContract
import HexapodVerified.Protocol.ControlApi

/-!
# The motion commands

`protocol/motion_api.cpp`: gait, gait parameters, body twist and body pose that a host asks for. What is
accepted is clamped and kept as the intent that the control task reads; the defaults come from the
configuration.
-/

namespace HexapodVerified.Protocol

open HexapodVerified.Controller Bytes FloatArith

namespace Motionmsg

abbrev kSetGait : UInt8 := 0x34
abbrev kSetGaitParams : UInt8 := 0x35
abbrev kSetBodyTwist : UInt8 := 0x36
abbrev kSetBodyPose : UInt8 := 0x37
abbrev kStopMotion : UInt8 := 0x38
abbrev kFirst : UInt8 := kSetGait
abbrev kLast : UInt8 := kStopMotion

def isMotionMsg (id : UInt8) : Bool := id ≥ kFirst && id ≤ kLast

end Motionmsg

inductive MotionResult where
  | ok | rejected | badRequest
  deriving DecidableEq, Repr

def MotionResult.wire : MotionResult → UInt8
  | .ok => 0
  | .rejected => 1
  | .badRequest => 2

namespace Motionlim

abbrev kMaxStrideMm : UInt16 := 80
abbrev kMaxStepMm : UInt16 := 50
abbrev kMaxBodyHeightMm : UInt16 := 120

variable {F : Type} [FloatArith F]

def kMaxTwist : F := lit 1
def kMaxPoseTransMm : F := lit 50
def kMaxPoseRotRad : F := lit 0.4363

end Motionlim

namespace Motiongait

abbrev kStand : UInt8 := 0
abbrev kCount : UInt8 := 6

end Motiongait

namespace Motionstate

abbrev kPassivePoseStream : UInt8 := 9

end Motionstate

variable {F : Type} [FloatArith F]

def clampU16 (v hi : UInt16) : UInt16 := if v > hi then hi else v

/-- A signed 16-bit integer, low byte first. -/
def readMotionI16 (p : List UInt8) : Int16 := (getU16 p).toInt16

def twistFromMilli (milli : Int16) : F :=
  clampf (ofInt16 milli / lit 1000) (-Motionlim.kMaxTwist) Motionlim.kMaxTwist

def poseTrans (p : List UInt8) : F :=
  clampf (ofInt16 (readMotionI16 p)) (-Motionlim.kMaxPoseTransMm) Motionlim.kMaxPoseTransMm

def poseRot (p : List UInt8) : F :=
  let kMdegToRad : F := lit 3.14159265358979 / lit 180000
  clampf (ofInt16 (readMotionI16 p) * kMdegToRad) (-Motionlim.kMaxPoseRotRad)
    Motionlim.kMaxPoseRotRad

structure MotionApi (F : Type) [FloatArith F] where
  intent : MotionIntent F := .default
  live_state : UInt8 := 0
  motion_allowed : Bool := false

namespace MotionApi

def setDefaults (api : MotionApi F) (gait : UInt8) (body_height_mm stride_mm step_mm : UInt16)
    (duty_x255 speed_x255 : UInt8) : MotionApi F :=
  { api with
    intent :=
      { api.intent with
        gait := if gait < Motiongait.kCount then gait else Motiongait.kStand
        body_height_mm := clampU16 body_height_mm Motionlim.kMaxBodyHeightMm
        stride_len_mm := clampU16 stride_mm Motionlim.kMaxStrideMm
        step_height_mm := clampU16 step_mm Motionlim.kMaxStepMm
        duty_x255
        speed_x255 } }

def setLiveState (api : MotionApi F) (live_state : UInt8) (motion_allowed : Bool) : MotionApi F :=
  { api with live_state, motion_allowed }

def writeResult (api : MotionApi F) (r : MotionResult) (out_cap : Nat) : Reply :=
  if out_cap < 3 then { out := [MotionResult.badRequest.wire], out_flags := 0x02 }
  else
    { out := [r.wire, api.live_state, if api.motion_allowed then 1 else 0]
      out_flags := if r = .badRequest then 0x02 else 0x00 }

/-- The intent is replaced, with the next sequence number. -/
def accept (api : MotionApi F) (intent : MotionIntent F) : MotionApi F :=
  { api with intent := { intent with seq := api.intent.seq + 1 } }

/-- `case kSetGait`. -/
def handleSetGait (api : MotionApi F) (req : List UInt8) (out_cap : Nat) : MotionApi F × Reply :=
  if req.length < 1 then (api, api.writeResult .badRequest out_cap)
  else
    let g := req.getD 0 0
    if g ≥ Motiongait.kCount then (api, api.writeResult .rejected out_cap)
    else (api.accept { api.intent with gait := g }, api.writeResult .ok out_cap)

/-- `case kSetGaitParams`. -/
def handleSetGaitParams (api : MotionApi F) (req : List UInt8) (out_cap : Nat) :
    MotionApi F × Reply :=
  if req.length < 8 then (api, api.writeResult .badRequest out_cap)
  else
    (api.accept
      { api.intent with
        body_height_mm := clampU16 (getU16 req) Motionlim.kMaxBodyHeightMm
        stride_len_mm := clampU16 (getU16 (req.drop 2)) Motionlim.kMaxStrideMm
        step_height_mm := clampU16 (getU16 (req.drop 4)) Motionlim.kMaxStepMm
        duty_x255 := req.getD 6 0
        speed_x255 := req.getD 7 0 },
      api.writeResult .ok out_cap)

/-- `case kSetBodyTwist`. -/
def handleSetBodyTwist (api : MotionApi F) (req : List UInt8) (out_cap : Nat) :
    MotionApi F × Reply :=
  if req.length < 6 then (api, api.writeResult .badRequest out_cap)
  else
    (api.accept
      { api.intent with
        twist_vx := twistFromMilli (readMotionI16 req)
        twist_vy := twistFromMilli (readMotionI16 (req.drop 2))
        twist_wz := twistFromMilli (readMotionI16 (req.drop 4)) },
      api.writeResult .ok out_cap)

/-- `case kSetBodyPose`. -/
def handleSetBodyPose (api : MotionApi F) (req : List UInt8) (out_cap : Nat) :
    MotionApi F × Reply :=
  if req.length < 12 then (api, api.writeResult .badRequest out_cap)
  else
    (api.accept
      { api.intent with
        pose_x_mm := poseTrans req
        pose_y_mm := poseTrans (req.drop 2)
        pose_z_mm := poseTrans (req.drop 4)
        pose_roll := poseRot (req.drop 6)
        pose_pitch := poseRot (req.drop 8)
        pose_yaw := poseRot (req.drop 10) },
      api.writeResult .ok out_cap)

/-- `case kStopMotion`, which is always honoured. -/
def handleStopMotion (api : MotionApi F) (out_cap : Nat) : MotionApi F × Reply :=
  (api.accept
    { api.intent with
      twist_vx := lit 0
      twist_vy := lit 0
      twist_wz := lit 0
      gait := Motiongait.kStand },
    api.writeResult .ok out_cap)

/-- `handle`; no reply when it returns false. -/
def handle (api : MotionApi F) (msg_id : UInt8) (req : List UInt8) (out_cap : Nat) :
    MotionApi F × Option Reply :=
  if !Motionmsg.isMotionMsg msg_id then (api, none)
  else if api.live_state = Motionstate.kPassivePoseStream ∧ msg_id ≠ Motionmsg.kStopMotion then
    (api, some (api.writeResult .rejected out_cap))
  else if msg_id = Motionmsg.kSetGait then (api.handleSetGait req out_cap).map id some
  else if msg_id = Motionmsg.kSetGaitParams then (api.handleSetGaitParams req out_cap).map id some
  else if msg_id = Motionmsg.kSetBodyTwist then (api.handleSetBodyTwist req out_cap).map id some
  else if msg_id = Motionmsg.kSetBodyPose then (api.handleSetBodyPose req out_cap).map id some
  else if msg_id = Motionmsg.kStopMotion then (api.handleStopMotion out_cap).map id some
  else (api, none)

end MotionApi

/-! ## Calls -/

inductive MotionCall where
  | setLiveState (live_state : UInt8) (motion_allowed : Bool)
  | handle (msg_id : UInt8) (req : List UInt8) (out_cap : Nat)
  deriving DecidableEq, Repr

def MotionApi.call (api : MotionApi F) : MotionCall → MotionApi F × Option Reply
  | .setLiveState live_state motion_allowed => (api.setLiveState live_state motion_allowed, none)
  | .handle msg_id req out_cap => api.handle msg_id req out_cap

end HexapodVerified.Protocol
