import HexapodVerified.Dxl.DxlBus
import HexapodVerified.Dxl.ServoMap
import HexapodVerified.Lib.Runs
import HexapodVerified.Lib.WrappedTime
import HexapodVerified.Protocol.ControlApi

/-!
# The telemetry subscriptions

`protocol/telemetry.cpp`: the streams that a host has subscribed to, each with a rate that is clamped to
what the link can carry, and the commands that change them.
-/

namespace HexapodVerified.Protocol

open Bytes Transition

abbrev kNumStreams : Nat := 14

namespace Telemsg

abbrev kSubscribe : UInt8 := 0x10
abbrev kUnsubscribe : UInt8 := 0x11
abbrev kSetStreamRate : UInt8 := 0x12
abbrev kGetStreamStats : UInt8 := 0x13
abbrev kFirst : UInt8 := kSubscribe
abbrev kLast : UInt8 := kGetStreamStats

def isTelemetryMsg (msg_id : UInt8) : Bool := msg_id ≥ kFirst && msg_id ≤ kLast

end Telemsg

inductive SubResult where
  | ok | badStream | badRequest
  deriving DecidableEq, Repr

def SubResult.wire : SubResult → UInt8
  | .ok => 0
  | .badStream => 1
  | .badRequest => 2

abbrev kMinRateHz : UInt16 := 1

/-- The largest rate of each stream, in the order of `StreamId`. -/
def kMaxRate : Vector UInt16 kNumStreams :=
  #v[10, 100, 50, 100, 100, 50, 10, 50, 50, 50, 50, 50, 10, 10]

structure StreamState where
  enabled : Bool := false
  primed : Bool := false
  rate_hz : UInt16 := 0
  interval_ms : UInt16 := 0
  last_emit_ms : UInt32 := 0
  emitted : UInt32 := 0
  dropped : UInt32 := 0
  deriving DecidableEq, Repr

/-- The defaults are those of `reset`. -/
structure SubscriptionManager where
  streams : Vector StreamState kNumStreams := .replicate _ {}
  tx_backlog : UInt32 := 0
  deriving DecidableEq, Repr

namespace SubscriptionManager

def reset (_ : SubscriptionManager) : SubscriptionManager := {}

def maxRateHz (s : Fin kNumStreams) : UInt16 := kMaxRate.get s

def clampRate (s : Fin kNumStreams) (rate_hz : UInt16) : UInt16 :=
  if rate_hz < kMinRateHz then kMinRateHz
  else if rate_hz > maxRateHz s then maxRateHz s
  else rate_hz

/-- The time between two frames, which is never zero. -/
def intervalMs (eff : UInt16) : UInt16 := if 1000 / eff = 0 then 1 else 1000 / eff

def setStream (tel : SubscriptionManager) (s : Fin kNumStreams) (st : StreamState) :
    SubscriptionManager :=
  { tel with streams := tel.streams.setIfInBounds s.val st }

def retimed (st : StreamState) (eff : UInt16) : StreamState :=
  { st with primed := false, rate_hz := eff, interval_ms := intervalMs eff }

def subscribe (tel : SubscriptionManager) (s : Fin kNumStreams) (rate_hz : UInt16) :
    SubscriptionManager × UInt16 :=
  let eff := clampRate s rate_hz
  (tel.setStream s { retimed (tel.streams.get s) eff with enabled := true }, eff)

def setRate (tel : SubscriptionManager) (s : Fin kNumStreams) (rate_hz : UInt16) :
    SubscriptionManager × UInt16 :=
  let eff := clampRate s rate_hz
  (tel.setStream s (retimed (tel.streams.get s) eff), eff)

def unsubscribe (tel : SubscriptionManager) (s : Fin kNumStreams) : SubscriptionManager :=
  tel.setStream s { tel.streams.get s with enabled := false, primed := false }

/-- The body of `shouldEmit`. The phase is advanced by whole intervals. -/
def emitStep (st : StreamState) (now_ms : UInt32) : StreamState × Bool :=
  if !st.enabled ∨ st.interval_ms = 0 then (st, false)
  else if !st.primed then
    ({ st with primed := true, last_emit_ms := now_ms, emitted := st.emitted + 1 }, true)
  else
    let elapsed := now_ms - st.last_emit_ms
    if elapsed < st.interval_ms.toUInt32 then (st, false)
    else
      let slots := elapsed / st.interval_ms.toUInt32
      ({ st with
          dropped := if slots > 1 then st.dropped + (slots - 1) else st.dropped
          last_emit_ms := st.last_emit_ms + slots * st.interval_ms.toUInt32
          emitted := st.emitted + 1 }, true)

def shouldEmit (tel : SubscriptionManager) (s : Fin kNumStreams) (now_ms : UInt32) :
    SubscriptionManager × Bool :=
  let (st, emits) := emitStep (tel.streams.get s) now_ms
  (tel.setStream s st, emits)

def noteTxBacklog (tel : SubscriptionManager) : SubscriptionManager :=
  { tel with tx_backlog := tel.tx_backlog + 1 }

def badRequest : Reply := { out := [SubResult.badRequest.wire], out_flags := 0x02 }

def badStream (sid : UInt8) : Reply := { out := [SubResult.badStream.wire, sid], out_flags := 0x02 }

/-- `case kSubscribe` and `case kSetStreamRate`, which share their body. -/
def handleRate (tel : SubscriptionManager) (msg_id : UInt8) (req : List UInt8) (out_cap : Nat) :
    SubscriptionManager × Reply :=
  if req.length < 3 ∨ out_cap < 4 then (tel, badRequest)
  else
    let sid := req.getD 0 0
    let rate := getU16 (req.drop 1)
    if hsid : sid.toNat < kNumStreams then
      let s : Fin kNumStreams := ⟨sid.toNat, hsid⟩
      let (tel, eff) :=
        if msg_id = Telemsg.kSubscribe then tel.subscribe s rate else tel.setRate s rate
      (tel, { out := SubResult.ok.wire :: sid :: putU16 eff })
    else (tel, badStream sid)

/-- `case kUnsubscribe`. -/
def handleUnsubscribe (tel : SubscriptionManager) (req : List UInt8) (out_cap : Nat) :
    SubscriptionManager × Reply :=
  if req.length < 1 ∨ out_cap < 2 then (tel, badRequest)
  else
    let sid := req.getD 0 0
    if hsid : sid.toNat < kNumStreams then
      (tel.unsubscribe ⟨sid.toNat, hsid⟩, { out := [SubResult.ok.wire, sid] })
    else (tel, badStream sid)

def streamStats (i : Fin kNumStreams) (st : StreamState) : List UInt8 :=
  UInt8.ofNat i.val :: (if st.enabled then 1 else 0) ::
    (putU16 st.rate_hz ++ (putU32 st.emitted ++ putU32 st.dropped))

/-- `case kGetStreamStats`. -/
def handleGetStreamStats (tel : SubscriptionManager) (out_cap : Nat) : Reply :=
  if out_cap < 1 + 4 + kNumStreams * 12 then badRequest
  else
    { out := UInt8.ofNat kNumStreams :: (putU32 tel.tx_backlog ++
        (List.finRange kNumStreams).flatMap fun i => streamStats i (tel.streams.get i)) }

/-- `handle`; no reply when it returns false. -/
def handle (tel : SubscriptionManager) (msg_id : UInt8) (req : List UInt8) (out_cap : Nat) :
    SubscriptionManager × Option Reply :=
  if !Telemsg.isTelemetryMsg msg_id then (tel, none)
  else if msg_id = Telemsg.kSubscribe ∨ msg_id = Telemsg.kSetStreamRate then
    (tel.handleRate msg_id req out_cap).map id some
  else if msg_id = Telemsg.kUnsubscribe then (tel.handleUnsubscribe req out_cap).map id some
  else if msg_id = Telemsg.kGetStreamStats then (tel, some (tel.handleGetStreamStats out_cap))
  else (tel, none)

end SubscriptionManager

/-! ## Runs

`shouldEmit` is called with the time on a clock that does not wrap: the manager is given its low 32
bits. -/

inductive StreamCall where
  | subscribe (s : Fin kNumStreams) (rate_hz : UInt16)
  | setRate (s : Fin kNumStreams) (rate_hz : UInt16)
  | unsubscribe (s : Fin kNumStreams)
  | handle (msg_id : UInt8) (req : List UInt8) (out_cap : Nat)
  | noteTxBacklog
  | reset
  | shouldEmit (s : Fin kNumStreams) (now : Nat)
  deriving DecidableEq, Repr

def SubscriptionManager.step (tel : SubscriptionManager) : StreamCall → SubscriptionManager × Bool
  | .subscribe s rate_hz => ((tel.subscribe s rate_hz).1, false)
  | .setRate s rate_hz => ((tel.setRate s rate_hz).1, false)
  | .unsubscribe s => (tel.unsubscribe s, false)
  | .handle msg_id req out_cap => ((tel.handle msg_id req out_cap).1, false)
  | .noteTxBacklog => (tel.noteTxBacklog, false)
  | .reset => (tel.reset, false)
  | .shouldEmit s now => tel.shouldEmit s (UInt32.ofNat now)

abbrev StreamEvent := Event SubscriptionManager (StreamCall × Bool)

/-- From the manager as `reset` leaves it, the calls recorded in `h` lead to `tel`. -/
abbrev StreamRun : List StreamEvent → SubscriptionManager → Prop :=
  Run (WithOutput SubscriptionManager.step) {}

/-- The time of a `shouldEmit` call for the stream. -/
def callTime (s : Fin kNumStreams) (e : StreamEvent) : Option Nat :=
  match e.label.1 with
  | .shouldEmit r now => if r = s then some now else none
  | _ => none

/-- The time of a `shouldEmit` call that lets a frame of the stream out. -/
def emissionTime (s : Fin kNumStreams) (e : StreamEvent) : Option Nat :=
  if e.label.2 then callTime s e else none

def callTimes (s : Fin kNumStreams) (h : List StreamEvent) : List Nat := h.filterMap (callTime s)

def emissionTimes (s : Fin kNumStreams) (h : List StreamEvent) : List Nat :=
  h.filterMap (emissionTime s)

structure Primes (s : Fin kNumStreams) (first : Nat) (e : StreamEvent) : Prop where
  call : callTime s e = some first
  enabled : (e.pre.streams.get s).enabled = true
  interval : (e.pre.streams.get s).interval_ms ≠ 0
  unprimed : (e.pre.streams.get s).primed = false

section Encode

/-! `protocol/telemetry_encode.cpp`: the payloads with the raw status of the servos and with the angles of their
joints. The other streams are left out. -/

open HexapodVerified.Config HexapodVerified.Dxl FloatArith

/-- `angleCentideg`. -/
def angleCentideg {F : Type} [FloatArith F] (rad : F) : UInt16 :=
  let centideg := lround (rad * kRadToDeg * lit 100)
  let centideg := if centideg > 32767 then 32767 else centideg
  let centideg := if centideg < -32768 then -32768 else centideg
  (Int16.ofInt centideg).toUInt16

/-- One turn of the loop of `encodeServoStatus`. -/
def putServoStatus (s : ServoStatus) : List UInt8 :=
  s.id :: (putU32 s.present_position.toUInt32 ++ (putU16 s.present_velocity.toUInt32.toUInt16 ++
    (putU16 s.present_load.toUInt32.toUInt16 ++ (putU16 s.present_voltage_mv ++
      [s.present_temperature_c.toUInt8, s.hardware_error, if s.torque_enabled then 1 else 0]))))

def encodeServoStatus (servos : List ServoStatus) : List UInt8 :=
  UInt8.ofNat servos.length :: servos.flatMap putServoStatus

def deviceTick (position : Int32) : UInt16 :=
  let raw := position.toInt
  let raw := if raw < 0 then 0 else raw
  let raw := if raw > kServoMaxTick.toNat then (kServoMaxTick.toNat : Int) else raw
  UInt16.ofInt raw

/-- One turn of the loop of `encodeJointState`, where a servo that is not in the map is passed over. -/
def jointState (F : Type) [FloatArith F] (map : RobotConfig) (s : ServoStatus) : Option (UInt8 × UInt8 × UInt16) :=
  match servoForId map s.id with
  | none => none
  | some sc =>
    let rad : F := tickToAngle map sc.leg sc.joint (deviceTick s.present_position)
    some (sc.leg, sc.joint, angleCentideg rad)

def putJointState : UInt8 × UInt8 × UInt16 → List UInt8
  | (leg, joint, angle) => leg :: joint :: putU16 angle

def encodeJointState (F : Type) [FloatArith F] (map : RobotConfig) (servos : List ServoStatus) : List UInt8 :=
  let emitted := servos.filterMap (jointState F map)
  UInt8.ofNat emitted.length :: emitted.flatMap putJointState

end Encode

end HexapodVerified.Protocol
