import HexapodVerified.Config.ConfigApi
import HexapodVerified.Hil.ObserverApi
import HexapodVerified.Lib.Dispatch
import HexapodVerified.Protocol.ControllerApi
import HexapodVerified.Protocol.DxlJobApi
import HexapodVerified.Protocol.Framing
import HexapodVerified.Protocol.MaintenanceApi
import HexapodVerified.Protocol.MaintenanceTargetApi
import HexapodVerified.Protocol.MotionApi
import HexapodVerified.Protocol.SensorApi
import HexapodVerified.Protocol.Telemetry

/-!
# The dispatcher of the USB commands

`protocol/api.cpp`: a request frame is decoded, the session messages are answered at once, every other
message is offered to the handler groups in turn, and the answer goes out as one response frame. A handler
writes its answer into the payload buffer of the dispatcher from the start; `out` of a reply are the bytes
that it has written.
-/

namespace HexapodVerified.Protocol

open HexapodVerified.Config HexapodVerified.Hil Bytes Dispatch

namespace Msg

abbrev kHello : UInt8 := 0x01
abbrev kHeartbeat : UInt8 := 0x02
abbrev kGetStatus : UInt8 := 0x03
abbrev kGetCapabilities : UInt8 := 0x04
abbrev kJetsonHeartbeat : UInt8 := 0x05

end Msg

inductive MsgType where
  | command | response | telemetry | event
  deriving DecidableEq, Repr

def MsgType.wire : MsgType → UInt8
  | .command => 0
  | .response => 1
  | .telemetry => 2
  | .event => 3

/-- `Error::UnknownMsg`. -/
abbrev kUnknownMsg : UInt8 := 1
/-- `flag::kError`. -/
abbrev kFrameError : UInt8 := 0x02

namespace Statusflag

abbrev kDxlPower : UInt8 := 0x01
abbrev kDxlPowerControl : UInt8 := 0x02
abbrev kHilOutputDisabled : UInt8 := 0x04

end Statusflag

/-- `hilflag::kOutputDisabled`. -/
abbrev kOutputDisabled : UInt8 := 0x01

abbrev kDeviceNameLen : Nat := 16

structure DeviceInfo where
  fw_major : UInt8 := 0
  fw_minor : UInt8 := 0
  fw_patch : UInt8 := 0
  feature_bits : UInt32 := 0
  device_name : Vector UInt8 kDeviceNameLen := .replicate _ 0
  build_flags : UInt8 := 0
  deriving DecidableEq, Repr

structure StatusSnapshot where
  uptime_ms : UInt32 := 0
  state : UInt8 := 0
  dxl_power : Bool := false
  dxl_power_control : Bool := false
  battery_mv : UInt16 := 0
  watchdog_missed : UInt32 := 0
  reset_cause : UInt8 := 0
  last_reset_watchdog_missed : UInt32 := 0
  last_reset_progress_marker : UInt8 := 0
  control_stack_free_words : UInt16 := 0
  dxl_stack_free_words : UInt16 := 0
  last_reset_control_progress : UInt8 := 0
  last_reset_safety_state : UInt8 := 0
  dxl_power_transitions : UInt32 := 0
  hil_flags : UInt8 := 0
  blocked_power_enable : UInt32 := 0
  blocked_torque_enable : UInt32 := 0
  blocked_goal_write : UInt32 := 0
  blocked_dxl_write : UInt32 := 0
  last_goal_sequence : UInt32 := 0
  last_goal_count : UInt8 := 0
  last_fault_reason : UInt8 := 0
  last_fault_timestamp_ms : UInt32 := 0
  last_fatal_reason : UInt8 := 0
  last_fatal_stage : UInt8 := 0
  last_fatal_task_name : Vector UInt8 16 := .replicate _ 0
  last_fault_stack_pointer : UInt32 := 0
  last_fault_exception_return : UInt32 := 0
  last_fault_registers : Vector UInt32 8 := .replicate _ 0
  deriving DecidableEq, Repr

/-! ## The handlers -/

/-- The feature store that the sensor group has been given. -/
inductive StoreLink where
  | unset
  /-- The one that the dispatcher also serves. -/
  | shared
  | own (api : FeatureApi)
  deriving DecidableEq, Repr

structure Handlers (F : Type) [FloatArith F] where
  cfg : Option ConfigApi := none
  tel : Option SubscriptionManager := none
  ctrl : Option ControlApi := none
  motion : Option (MotionApi F) := none
  maint : Option MaintenanceApi := none
  maint_target : Option MaintTargetApi := none
  dxl_jobs : Option DxlJobApi := none
  features : Option FeatureApi := none
  sensors : Option SensorGroup := none
  sensor_store : StoreLink := .unset
  passive : Option PassiveApi := none
  controller : Option (ControllerApi F) := none
  hil_observer : Option ObserverApi := none

inductive Group where
  | config | telemetry | hilObserver | control | motion | feature | maintenance | maintTarget | dxl
  | sensor | passive | controller
  deriving DecidableEq, Repr

namespace Group

/-- `kConfigMsgFirst` and so on. -/
def first : Group → UInt8
  | .config => 0x20
  | .telemetry => 0x10
  | .hilObserver => 0x14
  | .control => 0x30
  | .motion => 0x34
  | .feature => 0x39
  | .maintenance => 0x50
  | .maintTarget => 0x53
  | .dxl => 0x60
  | .sensor => 0x70
  | .passive => 0x80
  | .controller => 0x90

/-- `kConfigMsgLast` and so on. -/
def last : Group → UInt8
  | .config => 0x25
  | .telemetry => 0x13
  | .hilObserver => 0x1B
  | .control => 0x33
  | .motion => 0x38
  | .feature => 0x3C
  | .maintenance => 0x5F
  | .maintTarget => 0x56
  | .dxl => 0x6F
  | .sensor => 0x7F
  | .passive => 0x83
  | .controller => 0x9F

def owns (g : Group) (msg_id : UInt8) : Bool := msg_id ≥ g.first && msg_id ≤ g.last

end Group

variable {F : Type} [FloatArith F]

namespace Handlers

def store (hs : Handlers F) : Option FeatureApi :=
  match hs.sensor_store with
  | .unset => none
  | .shared => hs.features
  | .own api => some api

def setStore (hs : Handlers F) (store : Option FeatureApi) : Handlers F :=
  match hs.sensor_store, store with
  | .shared, store => { hs with features := store }
  | .own _, some api => { hs with sensor_store := .own api }
  | _, _ => hs

/-- The sensor group, which also reaches its feature store. -/
def sensorStage (msg_id : UInt8) (req : List UInt8) : Stage (Handlers F) Reply := fun hs =>
  match hs.sensors with
  | none => (hs, none)
  | some api =>
    if Group.sensor.owns msg_id then
      let (api, store, reply) := api.handle hs.store msg_id req kMaxPayload
      ({ hs.setStore store with sensors := some api }, reply.map fun r => ⟨r.out, r.out_flags⟩)
    else (hs, none)

def observerStage (msg_id : UInt8) (req : List UInt8) : Stage (Handlers F) Reply := fun hs =>
  match hs.hil_observer with
  | none =>
    if Group.hilObserver.owns msg_id then
      (hs, some { out := [ObserverResult.notAvailable.wire] })
    else (hs, none)
  | some api =>
    if Group.hilObserver.owns msg_id then
      let (api, reply) := api.handle msg_id req (UInt16.ofNat kMaxPayload)
      ({ hs with hil_observer := some api },
        reply.map fun r => ⟨r.response, r.response_flags⟩)
    else (hs, none)

/-- `cfg->handle`; no reply when it returns false. -/
def handleConfig (persist : Persistence) (msg_id : UInt8) (req : List UInt8) (api : ConfigApi) :
    ConfigApi × Option Reply :=
  let (api, reply) := api.handle persist msg_id req kMaxPayload
  (api, if reply.handled then some ⟨reply.out, reply.flags⟩ else none)

/-- `maint->handle`. -/
def handleMaintenance (msg_id : UInt8) (req : List UInt8) (api : MaintenanceApi) :
    MaintenanceApi × Option Reply :=
  let (api, reply) := api.handle msg_id req kMaxPayload
  (api, reply.map fun r => ⟨r.out, r.out_flags⟩)

/-- `maint_target->handle`. -/
def handleMaintTarget (F : Type) [FloatArith F] (msg_id : UInt8) (req : List UInt8)
    (api : MaintTargetApi) : MaintTargetApi × Option Reply :=
  let (api, reply) := api.handle F msg_id req kMaxPayload
  (api, reply.map fun r => ⟨r.out, r.out_flags⟩)

/-- One of the delegations of `handleRequest`. -/
def stage (persist : Persistence) (msg_id : UInt8) (req : List UInt8) (g : Group) :
    Stage (Handlers F) Reply :=
  let mine := g.owns msg_id
  match g with
  | .config =>
    delegate (·.cfg) (fun hs cfg => { hs with cfg }) mine (handleConfig persist msg_id req)
  | .telemetry =>
    delegate (·.tel) (fun hs tel => { hs with tel }) mine (·.handle msg_id req kMaxPayload)
  | .hilObserver => observerStage msg_id req
  | .control =>
    delegate (·.ctrl) (fun hs ctrl => { hs with ctrl }) mine (·.handle msg_id req kMaxPayload)
  | .motion =>
    delegate (·.motion) (fun hs motion => { hs with motion }) mine (·.handle msg_id req kMaxPayload)
  | .feature =>
    delegate (·.features) (fun hs features => { hs with features }) mine
      (·.handle msg_id req kMaxPayload)
  | .maintenance =>
    delegate (·.maint) (fun hs maint => { hs with maint }) mine (handleMaintenance msg_id req)
  | .maintTarget =>
    delegate (·.maint_target) (fun hs maint_target => { hs with maint_target }) mine
      (handleMaintTarget F msg_id req)
  | .dxl =>
    delegate (·.dxl_jobs) (fun hs dxl_jobs => { hs with dxl_jobs }) mine
      (·.handle msg_id req kMaxPayload)
  | .sensor => sensorStage msg_id req
  | .passive =>
    delegate (·.passive) (fun hs passive => { hs with passive }) mine
      (·.handle msg_id req kMaxPayload)
  | .controller =>
    delegate (·.controller) (fun hs controller => { hs with controller }) mine
      (·.handle msg_id req kMaxPayload)

end Handlers

def allGroups : List Group :=
  [.config, .telemetry, .hilObserver, .control, .motion, .feature, .maintenance, .maintTarget, .dxl,
    .sensor, .passive, .controller]

/-! ## The session messages -/

def buildStatusFlags (s : StatusSnapshot) : UInt8 :=
  (if s.dxl_power then Statusflag.kDxlPower else 0) |||
    (if s.dxl_power_control then Statusflag.kDxlPowerControl else 0) |||
    (if s.hil_flags &&& kOutputDisabled != 0 then Statusflag.kHilOutputDisabled else 0)

def versionBytes (info : DeviceInfo) : List UInt8 :=
  [kVersionMajor, kVersionMinor, info.fw_major, info.fw_minor, info.fw_patch]

/-- `case msg::kHello`. -/
def helloPayload (info : DeviceInfo) : List UInt8 := versionBytes info ++ info.device_name.toList

/-- `case msg::kHeartbeat` and `case msg::kJetsonHeartbeat`. -/
def heartbeatPayload (status : StatusSnapshot) : List UInt8 := putU32 status.uptime_ms ++ [status.state]

/-- `case msg::kGetStatus`. -/
def statusPayload (status : StatusSnapshot) : List UInt8 :=
  putU32 status.uptime_ms ++
  [status.state, buildStatusFlags status] ++
  putU16 status.battery_mv ++
  putU32 status.watchdog_missed ++
  [status.reset_cause] ++
  putU32 status.last_reset_watchdog_missed ++
  [status.last_reset_progress_marker] ++
  putU16 status.control_stack_free_words ++
  putU16 status.dxl_stack_free_words ++
  [status.last_reset_control_progress, status.last_reset_safety_state] ++
  putU32 status.dxl_power_transitions ++
  [status.hil_flags] ++
  putU32 status.blocked_power_enable ++
  putU32 status.blocked_torque_enable ++
  putU32 status.blocked_goal_write ++
  putU32 status.blocked_dxl_write ++
  putU32 status.last_goal_sequence ++
  [status.last_goal_count, status.last_fault_reason] ++
  putU32 status.last_fault_timestamp_ms ++
  [status.last_fatal_reason, status.last_fatal_stage] ++
  status.last_fatal_task_name.toList ++
  putU32 status.last_fault_stack_pointer ++
  putU32 status.last_fault_exception_return ++
  status.last_fault_registers.toList.flatMap putU32

/-- `case msg::kGetCapabilities`. -/
def capabilitiesPayload (info : DeviceInfo) : List UInt8 :=
  versionBytes info ++ putU32 info.feature_bits ++ info.device_name.toList ++ [info.build_flags]

/-! ## Requests -/

/-- The switch over the message: the handlers afterwards, and the payload and flags of the answer. -/
def answer (hs : Handlers F) (persist : Persistence) (msg_id : UInt8) (req : List UInt8)
    (info : DeviceInfo) (status : StatusSnapshot) : Handlers F × Reply :=
  if msg_id = Msg.kHello then
    ({ hs with tel := hs.tel.map (·.reset) }, { out := helloPayload info })
  else if msg_id = Msg.kHeartbeat then (hs, { out := heartbeatPayload status })
  else if msg_id = Msg.kJetsonHeartbeat then
    ({ hs with ctrl := hs.ctrl.map (·.noteJetsonHeartbeat) }, { out := heartbeatPayload status })
  else if msg_id = Msg.kGetStatus then (hs, { out := statusPayload status })
  else if msg_id = Msg.kGetCapabilities then (hs, { out := capabilitiesPayload info })
  else
    let (hs, reply) := firstAnswer (allGroups.map (Handlers.stage persist msg_id req)) hs
    (hs, reply.getD { out := [kUnknownMsg], out_flags := kFrameError })

/-- What `handleRequest` leaves behind: the handlers, the decode status and the bytes written to
`out`. -/
structure Handled (F : Type) [FloatArith F] where
  handlers : Handlers F
  decode_status : DecodeStatus
  out : List UInt8 := []

end HexapodVerified.Protocol
