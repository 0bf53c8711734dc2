import HexapodVerified.Lib.Bytes

/-!
# The maintenance lock

`protocol/maintenance_api.cpp`: a lock with a token and a time to live that a USB client takes, keeps
alive and gives back. Times are uptimes in milliseconds and are compared by unsigned subtraction.
-/

namespace HexapodVerified.Protocol

open Bytes

namespace Maintmsg

abbrev kEnter : UInt8 := 0x50
abbrev kExit : UInt8 := 0x51
abbrev kHeartbeat : UInt8 := 0x52
abbrev kFirst : UInt8 := 0x50
abbrev kLast : UInt8 := 0x5F

def isMaintMsg (id : UInt8) : Bool := id ≥ kFirst && id ≤ kLast

end Maintmsg

inductive MaintResult where
  | ok | rejected | badRequest | busy | badToken
  deriving DecidableEq, Repr

def MaintResult.wire : MaintResult → UInt8
  | .ok => 0
  | .rejected => 1
  | .badRequest => 2
  | .busy => 3
  | .badToken => 4

namespace Maintstate

abbrev kDisarmed : UInt8 := 2
abbrev kMacMaintenance : UInt8 := 8
abbrev kEstop : UInt8 := 12

end Maintstate

abbrev kDefaultTtlMs : UInt32 := 2000

structure MaintenanceApi where
  locked : Bool := false
  token : UInt32 := 0
  next_token : UInt32 := 1
  last_hb_ms : UInt32 := 0
  ttl_ms : UInt32 := kDefaultTtlMs
  now_ms : UInt32 := 0
  live_state : UInt8 := 0
  failsafe_recovery_allowed : Bool := false
  recovery_lock : Bool := false
  deriving DecidableEq, Repr

/-- The response bytes and flags of a handled command. -/
structure MaintReply where
  out : List UInt8
  out_flags : UInt8 := 0
  deriving DecidableEq, Repr

namespace MaintenanceApi

def setNow (api : MaintenanceApi) (now_ms : UInt32) : MaintenanceApi := { api with now_ms }

def setLiveState (api : MaintenanceApi) (live_state : UInt8) : MaintenanceApi :=
  { api with live_state }

def setFailsafeRecoveryAllowed (api : MaintenanceApi) (allowed : Bool) : MaintenanceApi :=
  { api with failsafe_recovery_allowed := allowed }

def lockHeld (api : MaintenanceApi) (now_ms : UInt32) : Bool :=
  api.locked && decide (now_ms - api.last_hb_ms ≤ api.ttl_ms)

def recoveryLockHeld (api : MaintenanceApi) (now_ms : UInt32) : Bool :=
  api.lockHeld now_ms && api.recovery_lock

def feedTtl (api : MaintenanceApi) (now_ms : UInt32) : MaintenanceApi :=
  if api.lockHeld now_ms then { api with last_hb_ms := now_ms } else api

def revoke (api : MaintenanceApi) : MaintenanceApi :=
  { api with locked := false, token := 0, recovery_lock := false }

def canEnter (api : MaintenanceApi) : Bool :=
  api.live_state == Maintstate.kDisarmed || api.live_state == Maintstate.kMacMaintenance ||
    (api.failsafe_recovery_allowed && api.live_state == Maintstate.kEstop)

def writeResult (api : MaintenanceApi) (r : MaintResult) (out_cap : Nat) : MaintReply :=
  if out_cap < 2 then { out := [MaintResult.badRequest.wire], out_flags := 0x02 }
  else
    { out := [r.wire, api.live_state]
      out_flags := if r = .badRequest then 0x02 else 0x00 }

/-- A lock whose time is over is dropped before a command is looked at. -/
def dropStale (api : MaintenanceApi) : MaintenanceApi :=
  if api.locked && decide (api.now_ms - api.last_hb_ms > api.ttl_ms) then api.revoke else api

def grant (api : MaintenanceApi) : MaintenanceApi :=
  { api with
    token := api.next_token
    next_token := if api.next_token + 1 = 0 then 1 else api.next_token + 1
    locked := true
    recovery_lock := api.live_state == Maintstate.kEstop
    last_hb_ms := api.now_ms }

/-- `case kEnter`. -/
def handleEnter (api : MaintenanceApi) (out_cap : Nat) : MaintenanceApi × MaintReply :=
  if !api.canEnter then (api, api.writeResult .rejected out_cap)
  else if api.locked then (api, api.writeResult .busy out_cap)
  else
    let api := api.grant
    if out_cap < 6 then (api, api.writeResult .badRequest out_cap)
    else (api, { out := MaintResult.ok.wire :: api.live_state :: putU32 api.token })

/-- `case kExit`. -/
def handleExit (api : MaintenanceApi) (req : List UInt8) (out_cap : Nat) :
    MaintenanceApi × MaintReply :=
  if req.length < 4 then (api, api.writeResult .badRequest out_cap)
  else if !api.locked || getU32 req != api.token then (api, api.writeResult .badToken out_cap)
  else (api.revoke, api.revoke.writeResult .ok out_cap)

/-- `case kHeartbeat`. -/
def handleHeartbeat (api : MaintenanceApi) (req : List UInt8) (out_cap : Nat) :
    MaintenanceApi × MaintReply :=
  if req.length < 4 then (api, api.writeResult .badRequest out_cap)
  else if !api.locked || getU32 req != api.token then (api, api.writeResult .badToken out_cap)
  else
    let api := { api with last_hb_ms := api.now_ms }
    (api, api.writeResult .ok out_cap)

/-- `handle`; no reply when it returns false. -/
def handle (api : MaintenanceApi) (msg_id : UInt8) (req : List UInt8) (out_cap : Nat) :
    MaintenanceApi × Option MaintReply :=
  if !Maintmsg.isMaintMsg msg_id then (api, none)
  else
    let api := api.dropStale
    if msg_id = Maintmsg.kEnter then (api.handleEnter out_cap).map id some
    else if msg_id = Maintmsg.kExit then (api.handleExit req out_cap).map id some
    else if msg_id = Maintmsg.kHeartbeat then (api.handleHeartbeat req out_cap).map id some
    else (api, none)

end MaintenanceApi

end HexapodVerified.Protocol
