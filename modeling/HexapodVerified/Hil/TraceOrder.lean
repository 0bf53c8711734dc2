import HexapodVerified.Hil.TraceCapture
import HexapodVerified.Host.HilTrace

/-!
# The records of a trace

What a capture is for the one who reads it: a log of entries that follow one another by a rule. `Begin`
comes first and `Config` second, the steps count from one, what belongs to a step comes right behind it, and
nothing comes behind `End`. An entry is told by its bytes; the records add the envelope.
-/

namespace HexapodVerified.Hil

open HexapodVerified.Config Codec Growth

inductive Entry where
  | begin (config_revision : UInt32) (config_payload_crc16 : UInt16) (guard : OutputGuardStatus)
  | config (snapshot : Controller.ControllerConfigSnapshot)
  | step (step_sequence : UInt32) (input : ControllerStepInput) (command : Controller.RobotCommand)
  | marker (marker_id now_ms : UInt32) (safety_state : UInt8) (step_sequence : UInt32)
  | outputBlocked (step_sequence : UInt32) (guard : OutputGuardStatus)
  | «end» (reason : CaptureEndReason) (recorded_steps queue_high_water : UInt8)
      (record_count fragment_count : UInt32) (guard : OutputGuardStatus)

namespace Entry

def type : Entry → RecordType
  | .begin .. => .begin
  | .config _ => .config
  | .step .. => .step
  | .marker .. => .marker
  | .outputBlocked .. => .outputBlocked
  | .end .. => .end

/-- The logical record of an entry in the capture that was asked for. -/
def bytes (request : CaptureRequest) : Entry → List UInt8
  | .begin config_revision config_payload_crc16 guard =>
    Bytes.putU16 kSchemaVersion ++ (putU8 1 ++ (putU8 Protocol.kVersionMajor ++
    (putU8 Protocol.kVersionMinor ++ (Bytes.putU32 request.session_id ++
    (Bytes.putU32 request.capture_id ++ (Bytes.putU32 config_revision ++
    (Bytes.putU16 config_payload_crc16 ++ (putU8 request.step_count ++ writeGuard guard))))))))
  | .config snapshot => configRecord snapshot
  | .step step_sequence input command => stepRecord step_sequence input command
  | .marker marker_id now_ms safety_state step_sequence =>
    markerRecord marker_id now_ms safety_state step_sequence
  | .outputBlocked step_sequence guard => outputRecord step_sequence guard
  | .end reason recorded_steps queue_high_water record_count fragment_count guard =>
    putU8 reason.wire ++ (putU8 request.step_count ++ (putU8 recorded_steps ++
    (putU8 queue_high_water ++ (Bytes.putU32 record_count ++ (Bytes.putU32 fragment_count ++
    writeGuard guard)))))

/-- The step that `OutputBlocked` may follow as its own: it was the last entry, or its marker was. -/
def stepBefore : Entry → Option UInt32
  | .step step_sequence _ _ => some step_sequence
  | .marker _ _ _ step_sequence => some step_sequence
  | _ => none

end Entry

/-- A published record: its envelope and its bytes. -/
structure Record where
  view : RecordView
  bytes : List UInt8
  deriving DecidableEq

/-- The record of an entry that comes after `count` others. -/
def Entry.record (request : CaptureRequest) (count : Nat) (entry : Entry) : Record where
  view :=
    { type := entry.type
      session_id := request.session_id
      capture_id := request.capture_id
      record_seq := UInt32.ofNat (count + 1)
      logical_length := UInt16.ofNat (entry.bytes request).length
      logical_crc16 := Protocol.crc16 (entry.bytes request) }
  bytes := entry.bytes request

def recordsOf (request : CaptureRequest) (log : List Entry) : List Record :=
  log.mapIdx fun count entry => entry.record request count

def configPayload (config : Controller.ControllerConfigSnapshot) : List UInt8 :=
  if config.valid then payloadOf config.robot else []

/-- The checksum of the payload that a `Config` record has, and zero if it has none. -/
def snapshotCrc (config : Controller.ControllerConfigSnapshot) : UInt16 :=
  if config.valid then Protocol.crc16 (configPayload config) else 0

def stepCount (log : List Entry) : Nat := log.countP fun entry => entry.type == .step

def Follows (request : CaptureRequest) (log : List Entry) : Entry → Prop
  | .begin .. => log = []
  | .config _ => ∃ revision crc guard, log = [.begin revision crc guard]
  | .step step_sequence _ command =>
    (∃ last, log.getLast? = some last ∧ last.type ≠ .begin ∧ last.type ≠ .end) ∧
      step_sequence.toNat = stepCount log + 1 ∧ stepCount log < request.step_count.toNat ∧
      command.goals.joints.length ≤ kNumServos
  | .marker _ _ _ step_sequence => ∃ input command, log.getLast? = some (.step step_sequence input command)
  | .outputBlocked step_sequence _ =>
    ∃ last, log.getLast? = some last ∧ last.stepBefore = some step_sequence
  | .end _ recorded_steps _ record_count _ _ =>
    (∃ last, log.getLast? = some last ∧ last.type ≠ .end) ∧
      recorded_steps.toNat = stepCount log ∧ record_count.toNat = log.length

abbrev TraceLog (request : CaptureRequest) (log : List Entry) : Prop := Grown (Follows request) log

/-- The `End` record has come. -/
def Ended (log : List Entry) : Prop := ∃ last, log.getLast? = some last ∧ last.type = .end

def Record.stepSequence (record : Record) : UInt32 :=
  match record.view.type with
  | .marker => Bytes.getU32 (record.bytes.drop 9)
  | _ => Bytes.getU32 record.bytes

def recordedSteps (records : List Record) : Nat := records.countP fun record => record.view.type == .step

/-- The record may come after these ones. -/
structure InOrder (request : CaptureRequest) (earlier : List Record) (record : Record) : Prop where
  session : record.view.session_id = request.session_id
  capture : record.view.capture_id = request.capture_id
  sequence : record.view.record_seq.toNat = earlier.length + 1
  begin : record.view.type = .begin ↔ earlier = []
  step : record.view.type = .step → (∃ x ∈ earlier, x.view.type = .config) ∧
    record.stepSequence.toNat = recordedSteps earlier + 1 ∧
    recordedSteps earlier < request.step_count.toNat
  deferred : record.view.type = .marker ∨ record.view.type = .outputBlocked →
    0 < recordedSteps earlier ∧ record.stepSequence.toNat = recordedSteps earlier
  ended : ∀ x ∈ earlier, x.view.type ≠ .end

/-! ### What is sent of a record

The loop of `emitHilTraceRecord` in `app/tasks.cpp`: a record goes out as events, one for each fragment.
Between the first fragment and the last one the record stays in the slot, so that the slices are slices of
its bytes. For every fragment the recorder is told that it was sent, and for the record that it is
acknowledged. -/

abbrev kTraceFragmentEvent : UInt8 := 0xA0
abbrev kOutputBlockedEvent : UInt8 := 0xA1

abbrev kMaxEventPayload : UInt16 := UInt16.ofNat Protocol.kMaxPayload

/-- `fragment_count`. -/
def fragmentCount (logical_length : UInt16) : UInt8 :=
  ((logical_length.toUInt32 + (maxFragmentData kMaxEventPayload).toUInt32 - 1) /
    (maxFragmentData kMaxEventPayload).toUInt32).toUInt8

def fragmentEvent (record : Record) (fragment_index : UInt8) : Option (UInt8 × List UInt8) :=
  let offset := (fragment_index.toUInt32 * (maxFragmentData kMaxEventPayload).toUInt32).toUInt16
  let remaining := record.view.logical_length - offset
  let fragment_length :=
    if remaining < maxFragmentData kMaxEventPayload then remaining else maxFragmentData kMaxEventPayload
  let header : FragmentHeader :=
    { session_id := record.view.session_id
      capture_id := record.view.capture_id
      record_seq := record.view.record_seq
      record_type := record.view.type
      fragment_index
      fragment_count := fragmentCount record.view.logical_length
      logical_length := record.view.logical_length
      logical_crc16 := record.view.logical_crc16 }
  let msg_id :=
    if record.view.type = .outputBlocked then kOutputBlockedEvent else kTraceFragmentEvent
  (encodeFragmentSlice header
    ((record.bytes.drop offset.toNat).take fragment_length.toNat) kMaxEventPayload).map fun payload =>
      (msg_id, payload)

/-- The events of a record; `none` if one of them cannot be encoded. -/
def recordEvents (record : Record) : Option (List (UInt8 × List UInt8)) :=
  (List.range (fragmentCount record.view.logical_length).toNat).mapM fun fragment_index =>
    fragmentEvent record (UInt8.ofNat fragment_index)

/-!
## What a reader asks of a trace beyond its order

The records of a trace refer to each other: the configuration to what `Begin` announces, a step to the
configuration, `End` to everything that was sent before it. The order of `TraceOrder` says nothing of
that. A log in which also these references hold is one that the host takes.
-/

def Entry.fragments (request : CaptureRequest) (entry : Entry) : Nat :=
  (fragmentCount (UInt16.ofNat (entry.bytes request).length)).toNat

def fragmentTotal (request : CaptureRequest) (log : List Entry) : Nat :=
  (log.map fun entry => entry.fragments request).sum

def KnownVersion (config : Controller.ControllerConfigSnapshot) : Prop :=
  config.valid = true →
    (config.robot.schema_version.toNat, Host.CONFIG_PAYLOAD_SIZE) ∈ Host.configVersions

structure SameConfig (snapshot config : Controller.ControllerConfigSnapshot) : Prop where
  revision : config.revision = snapshot.revision
  valid : config.valid = snapshot.valid
  persistent : config.persistent = snapshot.persistent

def Agrees (request : CaptureRequest) (log : List Entry) : Entry → Prop
  | .config snapshot => KnownVersion snapshot ∧
    ∃ guard, log.head? = some (.begin snapshot.revision (snapshotCrc snapshot) guard)
  | .step _ input _ => ∃ snapshot, .config snapshot ∈ log ∧ SameConfig snapshot input.config
  | .end reason recorded_steps _ _ fragment_count _ =>
    (∃ snapshot, .config snapshot ∈ log) ∧ fragment_count.toNat = fragmentTotal request log ∧
      (reason = .complete → recorded_steps = request.step_count)
  | _ => True

/-- An entry that the host takes behind these ones. -/
structure Taken (request : CaptureRequest) (log : List Entry) (entry : Entry) : Prop where
  follows : Follows request log entry
  agrees : Agrees request log entry

/-- What the host gets of a list of records: the message ids and the payloads. -/
def hostEvents (records : List Record) : Option (List (Nat × List UInt8)) :=
  (records.mapM recordEvents).map fun events =>
    events.flatten.map fun event => (event.1.toNat, event.2)

def HostAssembles (expected_session_id : Option Nat) (records : List Record) (trace : Host.HILTrace) :
    Prop :=
  ∃ events a a', hostEvents records = some events ∧
    Host.TraceAssembler.new expected_session_id = .ok a ∧ a.acceptEvents events = .ok a' ∧
    a'.finalize = .ok trace

end HexapodVerified.Hil
