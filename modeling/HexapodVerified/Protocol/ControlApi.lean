import HexapodVerified.Lib.Bytes

/-!
# The control commands

`protocol/control_api.cpp`: E-stop, clearing a fault, arming and mode. A command records what the host
wants; the control task reads it in its cycle and publishes the state and the fault that the responses
echo.
-/

namespace HexapodVerified.Protocol

open Bytes

/-- The response bytes and flags of a handled command. -/
structure Reply where
  out : List UInt8
  out_flags : UInt8 := 0
  deriving DecidableEq, Repr

namespace Ctrlmsg

abbrev kEstop : UInt8 := 0x30
abbrev kClearFault : UInt8 := 0x31
abbrev kSetArming : UInt8 := 0x32
abbrev kSetMode : UInt8 := 0x33
abbrev kFirst : UInt8 := kEstop
abbrev kLast : UInt8 := kSetMode

def isControlMsg (msg_id : UInt8) : Bool := msg_id ≥ kFirst && msg_id ≤ kLast

end Ctrlmsg

inductive CtrlResult where
  | ok | rejected | badRequest
  deriving DecidableEq, Repr

def CtrlResult.wire : CtrlResult → UInt8
  | .ok => 0
  | .rejected => 1
  | .badRequest => 2

structure ControlApi where
  estop : Bool := false
  disarm : Bool := false
  clear_fault : Bool := false
  jetson_hb : Bool := false
  live_state : UInt8 := 0
  live_fault : UInt8 := 0
  deriving DecidableEq, Repr

namespace ControlApi

def setLiveState (api : ControlApi) (state fault : UInt8) : ControlApi :=
  { api with live_state := state, live_fault := fault }

def consumeClearFault (api : ControlApi) : ControlApi × Bool :=
  ({ api with clear_fault := false }, api.clear_fault)

def consumeJetsonHeartbeat (api : ControlApi) : ControlApi × Bool :=
  ({ api with jetson_hb := false }, api.jetson_hb)

def noteJetsonHeartbeat (api : ControlApi) : ControlApi := { api with jetson_hb := true }

def writeStatus (api : ControlApi) (result : CtrlResult) : Reply :=
  { out := [result.wire, api.live_state, api.live_fault] }

def badRequest : Reply := { out := [CtrlResult.badRequest.wire], out_flags := 0x02 }

/-- `case kSetArming`: the host can force a disarm and give it up again, but not arm. -/
def handleSetArming (api : ControlApi) (req : List UInt8) : ControlApi × Reply :=
  if req.length < 1 then (api, badRequest)
  else if req.getD 0 0 = 0 then ({ api with disarm := true }, api.writeStatus .ok)
  else ({ api with disarm := false }, api.writeStatus .ok)

/-- `case kSetMode`: only the modes that stop the robot are honoured. -/
def handleSetMode (api : ControlApi) (req : List UInt8) : ControlApi × Reply :=
  if req.length < 1 then (api, badRequest)
  else
    let mode := req.getD 0 0
    if mode = 12 then ({ api with estop := true }, api.writeStatus .ok)
    else if mode = 2 then ({ api with disarm := true }, api.writeStatus .ok)
    else (api, api.writeStatus .rejected)

/-- `handle`; no reply when it returns false. -/
def handle (api : ControlApi) (msg_id : UInt8) (req : List UInt8) (out_cap : Nat) :
    ControlApi × Option Reply :=
  if !Ctrlmsg.isControlMsg msg_id then (api, none)
  else if out_cap < 3 then (api, some badRequest)
  else if msg_id = Ctrlmsg.kEstop then
    ({ api with estop := true }, some (api.writeStatus .ok))
  else if msg_id = Ctrlmsg.kClearFault then
    ({ api with estop := false, clear_fault := true }, some (api.writeStatus .ok))
  else if msg_id = Ctrlmsg.kSetArming then (api.handleSetArming req).map id some
  else if msg_id = Ctrlmsg.kSetMode then (api.handleSetMode req).map id some
  else (api, none)

end ControlApi

/-!
## The passive pose commands

`protocol/passive_api.cpp`: entering and leaving the torque-off streaming of the pose, its rate, and the
request for a new zero reference.
-/

namespace Passivemsg

abbrev kEnter : UInt8 := 0x80
abbrev kExit : UInt8 := 0x81
abbrev kSetStreamRate : UInt8 := 0x82
abbrev kZeroReference : UInt8 := 0x83
abbrev kFirst : UInt8 := kEnter
abbrev kLast : UInt8 := kZeroReference

def isPassiveMsg (id : UInt8) : Bool := id ≥ kFirst && id ≤ kLast

end Passivemsg

inductive PassiveResult where
  | ok | rejected | badRequest
  deriving DecidableEq, Repr

def PassiveResult.wire : PassiveResult → UInt8
  | .ok => 0
  | .rejected => 1
  | .badRequest => 2

namespace Passivestate

abbrev kDisarmed : UInt8 := 2
abbrev kMacMaintenance : UInt8 := 8
abbrev kPassivePoseStream : UInt8 := 9

end Passivestate

namespace Passiverate

abbrev kDefaultHz : UInt16 := 50
abbrev kMinHz : UInt16 := 1
abbrev kMaxHz : UInt16 := 200

end Passiverate

structure PassiveApi where
  requested : Bool := false
  rate_hz : UInt16 := Passiverate.kDefaultHz
  zero_seq : UInt32 := 0
  live_state : UInt8 := 0
  deriving DecidableEq, Repr

namespace PassiveApi

def canEnter (api : PassiveApi) : Bool :=
  api.live_state == Passivestate.kDisarmed || api.live_state == Passivestate.kMacMaintenance ||
    api.live_state == Passivestate.kPassivePoseStream

def writeResult (api : PassiveApi) (r : PassiveResult) (out_cap : Nat) (extra : List UInt8) : Reply :=
  if out_cap < 2 + extra.length then { out := [PassiveResult.badRequest.wire], out_flags := 0x02 }
  else
    { out := r.wire :: api.live_state :: extra
      out_flags := if r = .badRequest then 0x02 else 0x00 }

/-- `case kSetStreamRate`. -/
def handleSetStreamRate (api : PassiveApi) (req : List UInt8) (out_cap : Nat) : PassiveApi × Reply :=
  if req.length < 2 then (api, api.writeResult .badRequest out_cap [])
  else if !api.requested then (api, api.writeResult .rejected out_cap [])
  else
    let rate := getU16 req
    if rate < Passiverate.kMinHz || rate > Passiverate.kMaxHz then
      (api, api.writeResult .badRequest out_cap [])
    else ({ api with rate_hz := rate }, api.writeResult .ok out_cap (putU16 rate))

/-- `handle`; no reply when it returns false. -/
def handle (api : PassiveApi) (msg_id : UInt8) (req : List UInt8) (out_cap : Nat) :
    PassiveApi × Option Reply :=
  if !Passivemsg.isPassiveMsg msg_id then (api, none)
  else if msg_id = Passivemsg.kEnter then
    if !api.canEnter then (api, some (api.writeResult .rejected out_cap []))
    else ({ api with requested := true }, some (api.writeResult .ok out_cap []))
  else if msg_id = Passivemsg.kExit then
    ({ api with requested := false }, some (api.writeResult .ok out_cap []))
  else if msg_id = Passivemsg.kSetStreamRate then (api.handleSetStreamRate req out_cap).map id some
  else if msg_id = Passivemsg.kZeroReference then
    if !api.requested then (api, some (api.writeResult .rejected out_cap []))
    else ({ api with zero_seq := api.zero_seq + 1 }, some (api.writeResult .ok out_cap []))
  else (api, none)

end PassiveApi

end HexapodVerified.Protocol
