import HexapodVerified.Lib.Bytes
import HexapodVerified.Lib.Runs

/-!
# The observer commands

`hil/observer_api.cpp`: the sessions of a host that only watches, and the captures it asks for. The task
adapter sets the live snapshots before a command and takes the requests that a command has left.
-/

namespace HexapodVerified.Hil

open Bytes Transition

/-- `OutputGuardStatus` of `output_guard.h`. -/
structure OutputGuardStatus where
  output_disabled : Bool := false
  power_guard_active : Bool := false
  torque_guard_active : Bool := false
  goal_guard_active : Bool := false
  write_guard_active : Bool := false
  blocked_power_enable : UInt32 := 0
  blocked_torque_enable : UInt32 := 0
  blocked_goal_write : UInt32 := 0
  blocked_dxl_write : UInt32 := 0
  last_goal_sequence : UInt32 := 0
  last_goal_count : UInt8 := 0
  deriving DecidableEq, Repr

namespace Observermsg

abbrev kGetCapability : UInt8 := 0x14
abbrev kOpenSession : UInt8 := 0x15
abbrev kCloseSession : UInt8 := 0x16
abbrev kHeartbeat : UInt8 := 0x17
abbrev kCapture : UInt8 := 0x18
abbrev kAbortCapture : UInt8 := 0x19
abbrev kMark : UInt8 := 0x1A
abbrev kGetSessionStatus : UInt8 := 0x1B
abbrev kFirst : UInt8 := kGetCapability
abbrev kLast : UInt8 := kGetSessionStatus

def isObserverMsg (id : UInt8) : Bool := id ≥ kFirst && id ≤ kLast

end Observermsg

inductive ObserverResult where
  | ok | notAvailable | badRequest | rejected | badToken | busy | rateLimited | noCapture
  deriving DecidableEq, Repr

def ObserverResult.wire : ObserverResult → UInt8
  | .ok => 0
  | .notAvailable => 1
  | .badRequest => 2
  | .rejected => 3
  | .badToken => 4
  | .busy => 5
  | .rateLimited => 6
  | .noCapture => 7

inductive CaptureEndReason where
  | complete | hostHeartbeatExpired | transportOverflow | transportTimeout | hostAborted
  | sessionClosed
  deriving DecidableEq, Repr

def CaptureEndReason.wire : CaptureEndReason → UInt8
  | .complete => 0
  | .hostHeartbeatExpired => 1
  | .transportOverflow => 2
  | .transportTimeout => 3
  | .hostAborted => 4
  | .sessionClosed => 5

structure CaptureRequest where
  session_id : UInt32 := 0
  capture_id : UInt32 := 0
  step_count : UInt8 := 0
  deriving DecidableEq, Repr

structure CaptureAbortRequest where
  session_id : UInt32 := 0
  capture_id : UInt32 := 0
  reason : CaptureEndReason := .hostAborted
  deriving DecidableEq, Repr

structure MarkerRequest where
  capture_id : UInt32 := 0
  marker_id : UInt32 := 0
  deriving DecidableEq, Repr

/-- What a command writes back: the response and its flags. -/
structure ObserverReply where
  response : List UInt8
  response_flags : UInt8 := 0
  deriving DecidableEq, Repr

structure ObserverApi where
  build_available : Bool := false
  guard : OutputGuardStatus := {}
  now_ms : UInt32 := 0
  live_state : UInt8 := 0
  maintenance_token : UInt32 := 0
  maintenance_held : Bool := false
  task_request_capacity : Bool := true
  next_session_id : UInt32 := 1
  next_session_token : UInt32 := 1
  next_capture_id : UInt32 := 1
  session_id : UInt32 := 0
  session_token : UInt32 := 0
  last_heartbeat_ms : UInt32 := 0
  last_capture_start_ms : UInt32 := 0
  have_capture_start : Bool := false
  session_open : Bool := false
  capture_active : Bool := false
  capture_pending : Bool := false
  abort_pending : Bool := false
  marker_pending : Bool := false
  capture_request : CaptureRequest := {}
  abort_request : CaptureAbortRequest := {}
  marker_request : MarkerRequest := {}
  deriving DecidableEq, Repr

namespace ObserverApi

abbrev kTraceSchemaVersion : UInt16 := 1
abbrev kSessionTtlMs : UInt32 := 1000
abbrev kCaptureStartIntervalMs : UInt32 := 1000
abbrev kMinCaptureSteps : UInt8 := 1
abbrev kMaxCaptureSteps : UInt8 := 32
abbrev kDisarmedState : UInt8 := 2
abbrev kMacMaintenanceState : UInt8 := 8

abbrev kErrorFlag : UInt8 := 0x02

/-! ## The gates -/

def available (api : ObserverApi) : Bool :=
  api.build_available && api.guard.output_disabled && api.guard.power_guard_active &&
    api.guard.torque_guard_active && api.guard.goal_guard_active

def hasSessionToken (api : ObserverApi) (request : List UInt8) : Bool :=
  decide (request.length ≥ 4) && api.session_open && getU32 request == api.session_token

def canOpen (api : ObserverApi) (maintenance_token : UInt32) : Bool :=
  api.available && (api.live_state == kDisarmedState || api.live_state == kMacMaintenanceState) &&
    api.maintenance_held && maintenance_token != 0 && maintenance_token == api.maintenance_token

/-! ## The session -/

def closeSession (api : ObserverApi) (reason : CaptureEndReason) : ObserverApi :=
  let api :=
    if api.capture_active then
      { api with
        abort_request :=
          { session_id := api.session_id, capture_id := api.capture_request.capture_id, reason }
        abort_pending := true }
    else api
  { api with
    session_open := false
    session_id := 0
    session_token := 0
    marker_pending := false }

/-- The test of `tick`: the host has not been heard of for too long. -/
def expired (api : ObserverApi) : Bool :=
  api.session_open && decide (api.now_ms - api.last_heartbeat_ms > kSessionTtlMs)

def tick (api : ObserverApi) : ObserverApi :=
  if api.expired then api.closeSession .hostHeartbeatExpired else api

def writeResult (result : ObserverResult) (response_cap : UInt16) : Option ObserverReply :=
  if response_cap < 1 then none
  else
    some
      { response := [result.wire]
        response_flags := if result = .badRequest then kErrorFlag else 0 }

def flag (b : Bool) : UInt8 := if b then 1 else 0

def writeStatus (api : ObserverApi) (result : ObserverResult) (response_cap : UInt16) :
    Option ObserverReply :=
  if response_cap < 19 then none
  else
    some
      { response :=
          [result.wire, flag api.session_open, flag api.capture_active, flag api.available] ++
            (putU32 api.session_id ++ (putU32 api.capture_request.capture_id ++
              (putU32 api.last_heartbeat_ms ++ (putU16 kTraceSchemaVersion ++
                [flag api.guard.output_disabled]))))
        response_flags := if result = .badRequest then kErrorFlag else 0 }

/-! ## The commands -/

/-- A number that is given out once, and the next one; zero is skipped. -/
def successor (next : UInt32) : UInt32 := if next + 1 = 0 then 1 else next + 1

/-- The open session of `case kOpenSession`. -/
def openSession (api : ObserverApi) : ObserverApi :=
  { api with
    session_id := api.next_session_id
    next_session_id := successor api.next_session_id
    session_token := api.next_session_token
    next_session_token := successor api.next_session_token
    session_open := true
    last_heartbeat_ms := api.now_ms }

/-- `case kOpenSession`. -/
def handleOpenSession (api : ObserverApi) (request : List UInt8) (response_cap : UInt16) :
    ObserverApi × Option ObserverReply :=
  if request.length ≠ 4 then (api, writeResult .badRequest response_cap)
  else if api.session_open then (api, writeResult .busy response_cap)
  else if !api.canOpen (getU32 request) then (api, writeResult .rejected response_cap)
  else
    let api := api.openSession
    if response_cap < 12 then
      (api.closeSession .sessionClosed, writeResult .badRequest response_cap)
    else
      (api, some
        { response :=
            ObserverResult.ok.wire :: (putU32 api.session_id ++ (putU32 api.session_token ++
              (putU16 kTraceSchemaVersion ++ [0x0F]))) })

/-- `case kCloseSession`. -/
def handleCloseSession (api : ObserverApi) (request : List UInt8) (response_cap : UInt16) :
    ObserverApi × Option ObserverReply :=
  if !api.hasSessionToken request then (api, writeResult .badToken response_cap)
  else (api.closeSession .sessionClosed, writeResult .ok response_cap)

/-- `case kHeartbeat`. -/
def handleHeartbeat (api : ObserverApi) (request : List UInt8) (response_cap : UInt16) :
    ObserverApi × Option ObserverReply :=
  if !api.hasSessionToken request then (api, writeResult .badToken response_cap)
  else ({ api with last_heartbeat_ms := api.now_ms }, writeResult .ok response_cap)

/-- The capture of `case kCapture` is on its way. -/
def startCapture (api : ObserverApi) (step_count : UInt8) : ObserverApi :=
  { api with
    capture_request := { session_id := api.session_id, capture_id := api.next_capture_id, step_count }
    next_capture_id := successor api.next_capture_id
    capture_active := true
    capture_pending := true
    last_capture_start_ms := api.now_ms
    have_capture_start := true }

/-- `case kCapture`. -/
def handleCapture (api : ObserverApi) (request : List UInt8) (response_cap : UInt16) :
    ObserverApi × Option ObserverReply :=
  if request.length ≠ 5 then (api, writeResult .badRequest response_cap)
  else if !api.hasSessionToken request then (api, writeResult .badToken response_cap)
  else
    let step_count := request.getD 4 0
    if step_count < kMinCaptureSteps || step_count > kMaxCaptureSteps then
      (api, writeResult .badRequest response_cap)
    else if api.capture_active then (api, writeResult .busy response_cap)
    else if !api.task_request_capacity then (api, writeResult .busy response_cap)
    else if api.have_capture_start &&
        decide (api.now_ms - api.last_capture_start_ms < kCaptureStartIntervalMs) then
      (api, writeResult .rateLimited response_cap)
    else
      let api := api.startCapture step_count
      if response_cap < 5 then
        ({ api with capture_active := false, capture_pending := false },
          writeResult .badRequest response_cap)
      else
        (api, some
          { response := ObserverResult.ok.wire :: putU32 api.capture_request.capture_id })

/-- `case kAbortCapture`. -/
def handleAbortCapture (api : ObserverApi) (request : List UInt8) (response_cap : UInt16) :
    ObserverApi × Option ObserverReply :=
  if !api.hasSessionToken request then (api, writeResult .badToken response_cap)
  else if !api.capture_active then (api, writeResult .noCapture response_cap)
  else if api.abort_pending || !api.task_request_capacity then (api, writeResult .busy response_cap)
  else
    ({ api with
        abort_request :=
          { session_id := api.session_id
            capture_id := api.capture_request.capture_id
            reason := .hostAborted }
        abort_pending := true },
      writeResult .ok response_cap)

/-- `case kMark`. -/
def handleMark (api : ObserverApi) (request : List UInt8) (response_cap : UInt16) :
    ObserverApi × Option ObserverReply :=
  if request.length ≠ 8 then (api, writeResult .badRequest response_cap)
  else if !api.hasSessionToken request then (api, writeResult .badToken response_cap)
  else if !api.capture_active then (api, writeResult .noCapture response_cap)
  else if api.marker_pending || !api.task_request_capacity then
    (api, writeResult .busy response_cap)
  else
    ({ api with
        marker_request :=
          { capture_id := api.capture_request.capture_id, marker_id := getU32 (request.drop 4) }
        marker_pending := true },
      writeResult .ok response_cap)

/-- `case kGetSessionStatus`. -/
def handleGetSessionStatus (api : ObserverApi) (request : List UInt8) (response_cap : UInt16) :
    ObserverApi × Option ObserverReply :=
  if !api.hasSessionToken request then (api, writeResult .badToken response_cap)
  else (api, api.writeStatus .ok response_cap)

/-- `handle`; no reply when it returns false. -/
def handle (api : ObserverApi) (msg_id : UInt8) (request : List UInt8) (response_cap : UInt16) :
    ObserverApi × Option ObserverReply :=
  if !Observermsg.isObserverMsg msg_id then (api, none)
  else
    let api := api.tick
    if msg_id = Observermsg.kGetCapability then
      (api, api.writeStatus (if api.available then .ok else .notAvailable) response_cap)
    else if !api.available then (api, writeResult .notAvailable response_cap)
    else if msg_id = Observermsg.kOpenSession then api.handleOpenSession request response_cap
    else if msg_id = Observermsg.kCloseSession then api.handleCloseSession request response_cap
    else if msg_id = Observermsg.kHeartbeat then api.handleHeartbeat request response_cap
    else if msg_id = Observermsg.kCapture then api.handleCapture request response_cap
    else if msg_id = Observermsg.kAbortCapture then api.handleAbortCapture request response_cap
    else if msg_id = Observermsg.kMark then api.handleMark request response_cap
    else if msg_id = Observermsg.kGetSessionStatus then
      api.handleGetSessionStatus request response_cap
    else (api, none)

/-! ## The task adapter -/

def takeCaptureRequest (api : ObserverApi) : ObserverApi × Option CaptureRequest :=
  if !api.capture_pending then (api, none)
  else ({ api with capture_pending := false }, some api.capture_request)

def takeAbortRequest (api : ObserverApi) : ObserverApi × Option CaptureAbortRequest :=
  if !api.abort_pending then (api, none)
  else ({ api with abort_pending := false }, some api.abort_request)

def takeMarkerRequest (api : ObserverApi) : ObserverApi × Option MarkerRequest :=
  if !api.marker_pending then (api, none)
  else ({ api with marker_pending := false }, some api.marker_request)

def noteCaptureFinished (api : ObserverApi) (capture_id : UInt32) : ObserverApi :=
  if api.capture_active && api.capture_request.capture_id == capture_id then
    { api with capture_active := false, capture_pending := false, marker_pending := false }
  else api

end ObserverApi

inductive ObserverCall where
  | setNow (now_ms : UInt32)
  | setLiveState (state : UInt8)
  | setMaintenanceLock (token : UInt32) (held : Bool)
  | setOutputGuard (status : OutputGuardStatus)
  | setTaskRequestCapacity (available : Bool)
  | tick
  | handle (msg_id : UInt8) (request : List UInt8) (response_cap : UInt16)
  | takeCaptureRequest
  | takeAbortRequest
  | takeMarkerRequest
  | noteCaptureFinished (capture_id : UInt32)
  deriving DecidableEq, Repr

inductive ObserverAnswer where
  | done
  | reply (reply : Option ObserverReply)
  | capture (request : Option CaptureRequest)
  | abort (request : Option CaptureAbortRequest)
  | marker (request : Option MarkerRequest)
  deriving DecidableEq, Repr

def ObserverApi.call (api : ObserverApi) : ObserverCall → ObserverApi × ObserverAnswer
  | .setNow now_ms => ({ api with now_ms }, .done)
  | .setLiveState state => ({ api with live_state := state }, .done)
  | .setMaintenanceLock token held =>
    ({ api with maintenance_token := token, maintenance_held := held }, .done)
  | .setOutputGuard status => ({ api with guard := status }, .done)
  | .setTaskRequestCapacity available => ({ api with task_request_capacity := available }, .done)
  | .tick => (api.tick, .done)
  | .handle msg_id request response_cap => (api.handle msg_id request response_cap).map id .reply
  | .takeCaptureRequest => api.takeCaptureRequest.map id .capture
  | .takeAbortRequest => api.takeAbortRequest.map id .abort
  | .takeMarkerRequest => api.takeMarkerRequest.map id .marker
  | .noteCaptureFinished capture_id => (api.noteCaptureFinished capture_id, .done)

def ObserverApi.new (build_available : Bool) : ObserverApi := { build_available }

abbrev ObserverEvent : Type := Event ObserverApi (ObserverCall × ObserverAnswer)

/-- A run of the observer commands from power-up, its history latest first. -/
abbrev ObserverRun (build_available : Bool) (h : List ObserverEvent) (api : ObserverApi) : Prop :=
  Run (WithOutput ObserverApi.call) (ObserverApi.new build_available) h api

end HexapodVerified.Hil
