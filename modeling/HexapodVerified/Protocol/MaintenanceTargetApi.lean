import HexapodVerified.Controller.ControllerContract
import HexapodVerified.Lib.Bytes

/-!
# The maintenance target commands

`protocol/maintenance_target_api.cpp`: foot and joint targets that a USB client sets while it holds
the maintenance lock. A command is validated, solved and clamped under the bound configuration; what
is stored are goal ticks. The gate, the configuration and the clearing of the targets come from the
tasks around it.
-/

namespace HexapodVerified.Protocol

open HexapodVerified.Config HexapodVerified.Controller HexapodVerified.Dxl HexapodVerified.Gait
open Bytes FloatArith Transition

namespace Mainttargetmsg

abbrev kSetLegTarget : UInt8 := 0x53
abbrev kSetJointTarget : UInt8 := 0x54
abbrev kSetAllJoints : UInt8 := 0x55
abbrev kSetControlMode : UInt8 := 0x56
abbrev kFirst : UInt8 := kSetLegTarget
abbrev kLast : UInt8 := kSetControlMode

def isMaintTargetMsg (id : UInt8) : Bool := id ≥ kFirst && id ≤ kLast

end Mainttargetmsg

inductive MaintTargetResult where
  | ok | rejected | badRequest | unreachable
  deriving DecidableEq, Repr

def MaintTargetResult.wire : MaintTargetResult → UInt8
  | .ok => 0
  | .rejected => 1
  | .badRequest => 2
  | .unreachable => 3

namespace Mainttargetstate

abbrev kMacMaintenance : UInt8 := 8

end Mainttargetstate

def controlModeWire : MaintControlMode → UInt8
  | .jointTargets => 0
  | .gaitPipeline => 1

/-- A joint of the robot: leg and joint index. -/
abbrev Slot : Type := Fin kNumLegs × Fin kJointsPerLeg

def allSlots : List Slot :=
  (List.finRange kNumLegs).flatMap fun leg =>
    (List.finRange kJointsPerLeg).map fun joint => (leg, joint)

abbrev JointTable : Type := Vector (Vector MaintTarget kJointsPerLeg) kNumLegs

namespace JointTable

def read (joints : JointTable) (slot : Slot) : MaintTarget := (joints.get slot.1).get slot.2

def write (joints : JointTable) (slot : Slot) (target : MaintTarget) : JointTable :=
  joints.setIfInBounds slot.1 ((joints.get slot.1).setIfInBounds slot.2 target)

end JointTable

structure FootTarget where
  foot_x_mm : Int16 := 0
  foot_y_mm : Int16 := 0
  foot_z_mm : Int16 := 0
  leg_target_set : Bool := false
  leg_reachable : Bool := false
  leg_clamped : Bool := false
  deriving DecidableEq, Repr

structure MaintTargetSet where
  seq : UInt32 := 0
  joints : JointTable := .replicate _ (.replicate _ {})
  feet : Vector FootTarget kNumLegs := .replicate _ {}
  deriving DecidableEq, Repr

def storedTarget (jc : JointCommand) : MaintTarget :=
  { tick := jc.tick, set := true, clamped := jc.clamped_low || jc.clamped_high }

structure MaintTargetReply where
  out : List UInt8
  out_flags : UInt8 := 0
  deriving DecidableEq, Repr

structure MaintTargetApi where
  cfg : Option RobotConfig := none
  live_state : UInt8 := 0
  lock_held : Bool := false
  control_mode : MaintControlMode := .jointTargets
  target : MaintTargetSet := {}
  deriving DecidableEq, Repr

namespace MaintTargetApi

variable {F : Type} [FloatArith F]

def kCentiDegToRad : F := lit 3.14159265358979323846 / lit 180 / lit 100

/-- A signed 16-bit integer, low byte first. -/
def readI16 (p : List UInt8) : Int16 := (getU16 p).toInt16

def setConfig (api : MaintTargetApi) (cfg : Option RobotConfig) : MaintTargetApi := { api with cfg }

def setLiveState (api : MaintTargetApi) (live_state : UInt8) (lock_held : Bool) : MaintTargetApi :=
  { api with live_state, lock_held }

def resetControlMode (api : MaintTargetApi) : MaintTargetApi :=
  { api with control_mode := .jointTargets }

def clearTargets (api : MaintTargetApi) : MaintTargetApi :=
  { api with
    target :=
      { seq := 0
        joints := .replicate _ (.replicate _ { tick := kServoCenterTick })
        feet := .replicate _ {} } }

def new : MaintTargetApi := clearTargets {}

def gateOpen (api : MaintTargetApi) : Bool :=
  api.cfg.isSome && api.lock_held && api.live_state == Mainttargetstate.kMacMaintenance

def writeStatus (api : MaintTargetApi) (r : MaintTargetResult) (out_cap : Nat) : MaintTargetReply :=
  if out_cap < 2 then { out := [MaintTargetResult.badRequest.wire], out_flags := 0x02 }
  else
    { out := [r.wire, api.live_state]
      out_flags := if r = .badRequest then 0x02 else 0x00 }

/-- The mask of the joints of a leg that `flag` picks. -/
def jointMask (jc : Fin kJointsPerLeg → JointCommand) (flag : JointCommand → Bool) : UInt8 :=
  (List.finRange kJointsPerLeg).foldl
    (fun mask j => if flag (jc j) then mask ||| ((1 : UInt8) <<< UInt8.ofNat j.val) else mask) 0

def storeLeg (joints : JointTable) (leg : Fin kNumLegs) (jc : Fin kJointsPerLeg → JointCommand) :
    JointTable :=
  (List.finRange kJointsPerLeg).foldl
    (fun joints j => joints.write (leg, j) (storedTarget (jc j))) joints

/-- Leg kinematics and servo map for a foot target: whether it is reachable, and the joint
commands. -/
def solveLeg (F : Type) [FloatArith F] (cfg : RobotConfig) (leg : Fin kNumLegs) (x y z : Int16) :
    Bool × (Fin kJointsPerLeg → JointCommand) :=
  let ik : IkResult F :=
    (BodyKinematics.new cfg).solveBody leg ⟨ofInt16 x, ofInt16 y, ofInt16 z⟩
  let ang : Vector F kJointsPerLeg := #v[ik.coxa, ik.femur, ik.tibia]
  (ik.reachable, fun j => angleToTick cfg (UInt8.ofNat leg.val) (UInt8.ofNat j.val) (ang.get j))

/-- The attempt is always noted; the joints are stored only if the foot target is reachable. -/
def storeFoot (target : MaintTargetSet) (leg : Fin kNumLegs) (foot : FootTarget) (reachable : Bool)
    (jc : Fin kJointsPerLeg → JointCommand) : MaintTargetSet :=
  let target := { target with feet := target.feet.setIfInBounds leg foot }
  if reachable then
    { target with joints := storeLeg target.joints leg jc, seq := target.seq + 1 }
  else target

/-- `case kSetLegTarget`, for a leg that exists. -/
def setLegTarget (F : Type) [FloatArith F] (api : MaintTargetApi) (cfg : RobotConfig)
    (leg : Fin kNumLegs) (req : List UInt8) (out_cap : Nat) : MaintTargetApi × MaintTargetReply :=
  let api := { api with control_mode := .jointTargets }
  let x := readI16 (req.drop 1)
  let y := readI16 (req.drop 3)
  let z := readI16 (req.drop 5)
  let (reachable, jc) := solveLeg F cfg leg x y z
  let clamp_low := jointMask jc (·.clamped_low)
  let clamp_high := jointMask jc (·.clamped_high)
  let foot : FootTarget :=
    { foot_x_mm := x, foot_y_mm := y, foot_z_mm := z, leg_target_set := true
      leg_reachable := reachable, leg_clamped := clamp_low ||| clamp_high != 0 }
  let api := { api with target := storeFoot api.target leg foot reachable jc }
  if out_cap < 11 then (api, api.writeStatus .badRequest out_cap)
  else
    let result := if reachable then MaintTargetResult.ok else MaintTargetResult.unreachable
    (api,
      { out := [result.wire, api.live_state, if reachable then 1 else 0, clamp_low, clamp_high] ++
          (putU16 (jc 0).tick ++ (putU16 (jc 1).tick ++ putU16 (jc 2).tick)) })

def handleSetLegTarget (F : Type) [FloatArith F] (api : MaintTargetApi) (cfg : RobotConfig)
    (req : List UInt8) (out_cap : Nat) : MaintTargetApi × MaintTargetReply :=
  if req.length < 7 then (api, api.writeStatus .badRequest out_cap)
  else
    let leg := req.getD 0 0
    if hleg : leg.toNat < kNumLegs then api.setLegTarget F cfg ⟨leg.toNat, hleg⟩ req out_cap
    else (api, api.writeStatus .badRequest out_cap)

def angleCommand (F : Type) [FloatArith F] (cfg : RobotConfig) (slot : Slot) (angle : List UInt8) :
    JointCommand :=
  angleToTick cfg (UInt8.ofNat slot.1.val) (UInt8.ofNat slot.2.val)
    (ofInt16 (readI16 angle) * kCentiDegToRad : F)

/-- `case kSetJointTarget`, for a joint that exists. -/
def setJointTarget (F : Type) [FloatArith F] (api : MaintTargetApi) (cfg : RobotConfig)
    (slot : Slot) (req : List UInt8) (out_cap : Nat) : MaintTargetApi × MaintTargetReply :=
  let api := { api with control_mode := .jointTargets }
  let jc := angleCommand F cfg slot (req.drop 2)
  if jc.unmapped then (api, api.writeStatus .badRequest out_cap)
  else
    let api :=
      { api with
        target :=
          { api.target with
            joints := api.target.joints.write slot (storedTarget jc)
            seq := api.target.seq + 1 } }
    if out_cap < 6 then (api, api.writeStatus .badRequest out_cap)
    else
      (api,
        { out := [MaintTargetResult.ok.wire, api.live_state, if jc.clamped_low then 1 else 0,
            if jc.clamped_high then 1 else 0] ++ putU16 jc.tick })

def handleSetJointTarget (F : Type) [FloatArith F] (api : MaintTargetApi) (cfg : RobotConfig)
    (req : List UInt8) (out_cap : Nat) : MaintTargetApi × MaintTargetReply :=
  if req.length < 4 then (api, api.writeStatus .badRequest out_cap)
  else
    let leg := req.getD 0 0
    let joint := req.getD 1 0
    if hslot : leg.toNat < kNumLegs ∧ joint.toNat < kJointsPerLeg then
      api.setJointTarget F cfg (⟨leg.toNat, hslot.1⟩, ⟨joint.toNat, hslot.2⟩) req out_cap
    else (api, api.writeStatus .badRequest out_cap)

/-- `case kSetControlMode`. -/
def handleSetControlMode (api : MaintTargetApi) (req : List UInt8) (out_cap : Nat) :
    MaintTargetApi × MaintTargetReply :=
  if req.length < 1 ∨ req.getD 0 0 > controlModeWire .gaitPipeline then
    (api, api.writeStatus .badRequest out_cap)
  else
    let mode := if req.getD 0 0 = 0 then MaintControlMode.jointTargets else .gaitPipeline
    let api := { api with control_mode := mode }
    if out_cap < 3 then (api, api.writeStatus .badRequest out_cap)
    else (api, { out := [MaintTargetResult.ok.wire, api.live_state, controlModeWire mode] })

/-- `leg * config::kJointsPerLeg + joint`. -/
def slotIndex (slot : Slot) : Nat := slot.1.val * kJointsPerLeg + slot.2.val

/-- What the loop of `case kSetAllJoints` has collected. -/
structure AllJoints where
  joints : JointTable
  stored : UInt8 := 0
  clamp_mask : Vector UInt8 3 := .replicate _ 0

def AllJoints.add (F : Type) [FloatArith F] (cfg : RobotConfig) (req : List UInt8) (acc : AllJoints)
    (slot : Slot) : AllJoints :=
  let idx := slotIndex slot
  let jc := angleCommand F cfg slot (req.drop (idx * 2))
  if jc.unmapped then acc
  else
    let clamped := jc.clamped_low || jc.clamped_high
    { joints := acc.joints.write slot (storedTarget jc)
      stored := acc.stored + 1
      clamp_mask :=
        if clamped then
          acc.clamp_mask.setIfInBounds (idx / 8)
            (acc.clamp_mask.toList.getD (idx / 8) 0 ||| ((1 : UInt8) <<< UInt8.ofNat (idx % 8)))
        else acc.clamp_mask }

/-- `case kSetAllJoints`. -/
def handleSetAllJoints (F : Type) [FloatArith F] (api : MaintTargetApi) (cfg : RobotConfig)
    (req : List UInt8) (out_cap : Nat) : MaintTargetApi × MaintTargetReply :=
  if req.length < kNumLegs * kJointsPerLeg * 2 then (api, api.writeStatus .badRequest out_cap)
  else
    let api := { api with control_mode := .jointTargets }
    let all := allSlots.foldl (AllJoints.add F cfg req) { joints := api.target.joints }
    let api :=
      { api with target := { api.target with joints := all.joints, seq := api.target.seq + 1 } }
    if out_cap < 6 then (api, api.writeStatus .badRequest out_cap)
    else
      (api,
        { out := MaintTargetResult.ok.wire :: api.live_state :: all.stored ::
            all.clamp_mask.toList })

/-- `handle`; no reply when it returns false. -/
def handle (F : Type) [FloatArith F] (api : MaintTargetApi) (msg_id : UInt8) (req : List UInt8)
    (out_cap : Nat) : MaintTargetApi × Option MaintTargetReply :=
  if !Mainttargetmsg.isMaintTargetMsg msg_id then (api, none)
  else
    match api.gateOpen, api.cfg with
    | true, some cfg =>
      if msg_id = Mainttargetmsg.kSetLegTarget then
        (api.handleSetLegTarget F cfg req out_cap).map id some
      else if msg_id = Mainttargetmsg.kSetJointTarget then
        (api.handleSetJointTarget F cfg req out_cap).map id some
      else if msg_id = Mainttargetmsg.kSetControlMode then
        (api.handleSetControlMode req out_cap).map id some
      else if msg_id = Mainttargetmsg.kSetAllJoints then
        (api.handleSetAllJoints F cfg req out_cap).map id some
      else (api, none)
    | _, _ => (api, some (api.writeStatus .rejected out_cap))

end MaintTargetApi

inductive MaintTargetCall where
  | setConfig (cfg : Option RobotConfig)
  | setLiveState (state : UInt8) (lock_held : Bool)
  | resetControlMode
  | clearTargets
  | handle (msg_id : UInt8) (req : List UInt8) (out_cap : Nat)
  deriving DecidableEq, Repr

def MaintTargetApi.call (F : Type) [FloatArith F] (api : MaintTargetApi) :
    MaintTargetCall → MaintTargetApi
  | .setConfig cfg => api.setConfig cfg
  | .setLiveState state lock_held => api.setLiveState state lock_held
  | .resetControlMode => api.resetControlMode
  | .clearTargets => api.clearTargets
  | .handle msg_id req out_cap => (api.handle F msg_id req out_cap).1

abbrev MaintTargetEvent : Type := Event MaintTargetApi MaintTargetCall

/-- From the constructor on, the calls recorded in `h` lead to `api`. -/
abbrev MaintTargetRun (F : Type) [FloatArith F] :
    List MaintTargetEvent → MaintTargetApi → Prop :=
  Run (Deterministic (MaintTargetApi.call F)) MaintTargetApi.new

/-- No configuration but `cfg` is ever bound. -/
def OnlyConfig (cfg : RobotConfig) (h : List MaintTargetEvent) : Prop :=
  ∀ e ∈ h, ∀ c, e.label = .setConfig (some c) → c = cfg

end HexapodVerified.Protocol
