import HexapodVerified.Hil.ObserverApi
import HexapodVerified.Hil.TraceCodec
import HexapodVerified.Hil.TraceRecorder

/-!
# The trace recorder

The class of `hil/trace_recorder.cpp`. Its one slot is a buffer of 960 bytes that each record overwrites from
the start; the view says how many bytes of it the record has. `captureStep` and `abort` come from the
control task, `peek`, `copySlice` and `acknowledge` from the one that sends the records.
-/

namespace HexapodVerified.Hil

open HexapodVerified.Config Codec Transition

abbrev kMaxCaptureSteps : UInt8 := 32

structure RecordView where
  type : RecordType := .begin
  session_id : UInt32 := 0
  capture_id : UInt32 := 0
  record_seq : UInt32 := 0
  logical_length : UInt16 := 0
  logical_crc16 : UInt16 := 0
  deriving DecidableEq, Repr

structure CaptureSummary where
  session_id : UInt32 := 0
  capture_id : UInt32 := 0
  requested_steps : UInt8 := 0
  recorded_steps : UInt8 := 0
  queue_high_water : UInt8 := 0
  end_reason : CaptureEndReason := .complete
  active : Bool := false
  terminal_pending : Bool := false
  deriving DecidableEq, Repr

/-! ## The bytes of the records -/

def allFaultReasons : List Safety.FaultReason :=
  [.none, .rcKill, .hostEstop, .rcLinkLost, .batteryLow, .watchdog, .dxlHardware, .armingTimeout]

def writeGuard (guard : OutputGuardStatus) : List UInt8 :=
  putBool guard.output_disabled ++ (putBool guard.power_guard_active ++
  (putBool guard.torque_guard_active ++ (putBool guard.goal_guard_active ++
  (putBool guard.write_guard_active ++ (Bytes.putU32 guard.blocked_power_enable ++
  (Bytes.putU32 guard.blocked_torque_enable ++ (Bytes.putU32 guard.blocked_goal_write ++
  (Bytes.putU32 guard.blocked_dxl_write ++ (Bytes.putU32 guard.last_goal_sequence ++
  putU8 guard.last_goal_count)))))))))

def writeDiagnostics (diagnostics : Controller.ControllerDiagnostics) : List UInt8 :=
  Bytes.putU32 diagnostics.config_revision ++ (Bytes.putU32 diagnostics.intent_sequence ++
  (putU8 diagnostics.confident_contact_feet ++ (putBool diagnostics.motion_gate_rising ++
  (putBool diagnostics.motion_gate_falling ++ (putBool diagnostics.config_reapplied ++
  (putBool diagnostics.maintenance_session_started ++
  (putBool diagnostics.clear_maintenance_targets ++
  (putBool diagnostics.clear_maintenance_lock ++ (putBool diagnostics.clear_passive_request ++
  (putBool diagnostics.any_goal_clamped ++ (putBool diagnostics.any_goal_unreachable ++
  putBool diagnostics.any_goal_reach_limited)))))))))))

def writeGoal (goal : Gait.PipelineJoint) : List UInt8 :=
  putU8 goal.id ++ (Bytes.putU16 goal.tick ++ (putU8 goal.leg ++ (putU8 goal.joint ++
  putBool goal.clamped)))

def writeCommand (command : Controller.RobotCommand) : List UInt8 :=
  putU8 command.safety_state.wire ++ (putEnum allFaultReasons command.fault_reason ++
  (putU8 command.command_source.wire ++ (putBool command.motion_authorized ++
  (putBool command.motion_gate ++ (putBool command.allow_dxl_power ++
  (putBool command.allow_torque ++ (putBool command.goal_valid ++
  (writeDiagnostics command.diagnostics ++
  (putU8 (UInt8.ofNat command.goals.joints.length) ++ (putBool command.goals.any_unreachable ++
  (putBool command.goals.any_reach_limited ++
  (command.goals.joints.take kNumServos).flatMap writeGoal)))))))))))

/-- The bytes of `publishStep`. -/
def stepRecord (step_sequence : UInt32) (input : ControllerStepInput)
    (command : Controller.RobotCommand) : List UInt8 :=
  stepInputRecord step_sequence input ++ writeCommand command

/-- The bytes of `publishMarker`. -/
def markerRecord (marker_id now_ms : UInt32) (safety_state : UInt8) (step_sequence : UInt32) :
    List UInt8 :=
  Bytes.putU32 marker_id ++ (Bytes.putU32 now_ms ++ (putU8 safety_state ++
    Bytes.putU32 step_sequence))

/-- The bytes of `publishOutputBlocked`. -/
def outputRecord (step_sequence : UInt32) (guard : OutputGuardStatus) : List UInt8 :=
  Bytes.putU32 step_sequence ++ writeGuard guard

def guardChanged (previous current : OutputGuardStatus) : Bool :=
  previous.blocked_power_enable != current.blocked_power_enable ||
    previous.blocked_torque_enable != current.blocked_torque_enable ||
    previous.blocked_goal_write != current.blocked_goal_write ||
    previous.blocked_dxl_write != current.blocked_dxl_write ||
    previous.last_goal_sequence != current.last_goal_sequence

/-! ## The recorder -/

/-- `TraceRecorder`; of `config_source_` only whether it is null is looked at. -/
structure TraceRecorder where
  summary : CaptureSummary := {}
  initial_guard : OutputGuardStatus := {}
  final_guard : OutputGuardStatus := {}
  last_guard : OutputGuardStatus := {}
  deferred_output_guard : OutputGuardStatus := {}
  config_source_set : Bool := false
  next_step_sequence : UInt32 := 1
  next_record_sequence : UInt32 := 1
  emitted_record_count : UInt32 := 0
  emitted_fragment_count : UInt32 := 0
  config_revision : UInt32 := 0
  deferred_marker_id : UInt32 := 0
  deferred_marker_time_ms : UInt32 := 0
  deferred_marker_step_sequence : UInt32 := 0
  deferred_output_step_sequence : UInt32 := 0
  config_payload_crc16 : UInt16 := 0
  deferred_marker_safety_state : UInt8 := 0
  config_pending : Bool := false
  marker_for_next_step : Bool := false
  next_marker_id : UInt32 := 0
  deferred_marker_pending : Bool := false
  deferred_output_pending : Bool := false
  completion_pending : Bool := false
  slot_ready : Bool := false
  slot_view : RecordView := {}
  slot : List UInt8 := .replicate kMaxLogicalRecordBytes 0
  deriving DecidableEq, Repr

namespace TraceRecorder

/-- `reset`. -/
def reset : TraceRecorder := {}

def publish (r : TraceRecorder) (type : RecordType) (length : UInt16) : TraceRecorder × Bool :=
  if length = 0 || length.toNat > kMaxLogicalRecordBytes then (r, false)
  else
    ({ r with
        slot_view :=
          { type
            session_id := r.summary.session_id
            capture_id := r.summary.capture_id
            record_seq := r.next_record_sequence
            logical_length := length
            logical_crc16 := Protocol.crc16 (r.slot.take length.toNat) }
        next_record_sequence := r.next_record_sequence + 1
        slot_ready := true }, true)

/-- The writer stops at the end of the buffer; a record that fits is published. -/
def write (r : TraceRecorder) (type : RecordType) (bytes : List UInt8) : TraceRecorder × Bool :=
  let r := { r with slot := overwrite r.slot 0 (bytes.take kMaxLogicalRecordBytes) }
  if bytes.length > kMaxLogicalRecordBytes then (r, false)
  else r.publish type (UInt16.ofNat bytes.length)

/-- The bytes of `publishBegin`. -/
def beginRecord (r : TraceRecorder) : List UInt8 :=
  Bytes.putU16 kSchemaVersion ++ (putU8 1 ++ (putU8 Protocol.kVersionMajor ++
  (putU8 Protocol.kVersionMinor ++ (Bytes.putU32 r.summary.session_id ++
  (Bytes.putU32 r.summary.capture_id ++ (Bytes.putU32 r.config_revision ++
  (Bytes.putU16 r.config_payload_crc16 ++ (putU8 r.summary.requested_steps ++
  writeGuard r.initial_guard))))))))

/-- The bytes of `publishEnd`. -/
def endRecord (r : TraceRecorder) : List UInt8 :=
  putU8 r.summary.end_reason.wire ++ (putU8 r.summary.requested_steps ++
  (putU8 r.summary.recorded_steps ++ (putU8 r.summary.queue_high_water ++
  (Bytes.putU32 r.emitted_record_count ++ (Bytes.putU32 r.emitted_fragment_count ++
  writeGuard r.final_guard)))))

def publishBegin (r : TraceRecorder) : TraceRecorder × Bool := r.write .begin r.beginRecord

/-- The payload is serialized into the slot behind the header, which is written before it afterwards. -/
def publishConfig (r : TraceRecorder) (config : Controller.ControllerConfigSnapshot) :
    TraceRecorder × Bool :=
  let payload :=
    if config.valid then serializeRobotConfig config.robot (kMaxLogicalRecordBytes - 10) else []
  let r := { r with slot := overwrite r.slot 10 payload }
  if config.valid && (payload.length == 0 || Protocol.crc16 payload != r.config_payload_crc16) then
    (r, false)
  else r.write .config (configRecord config)

def publishMarker (r : TraceRecorder) (marker_id now_ms : UInt32) (safety_state : UInt8)
    (step_sequence : UInt32) : TraceRecorder × Bool :=
  r.write .marker (markerRecord marker_id now_ms safety_state step_sequence)

def publishOutputBlocked (r : TraceRecorder) (step_sequence : UInt32) (guard : OutputGuardStatus) :
    TraceRecorder × Bool :=
  r.write .outputBlocked (outputRecord step_sequence guard)

def publishStep (r : TraceRecorder) (input : ControllerStepInput) (step_sequence : UInt32)
    (command : Controller.RobotCommand) : TraceRecorder × Bool :=
  r.write .step (stepRecord step_sequence input command)

def publishEnd (r : TraceRecorder) : TraceRecorder × Bool := r.write .end r.endRecord

def publishDeferred (r : TraceRecorder) : TraceRecorder × Bool :=
  if r.deferred_marker_pending then
    publishMarker { r with deferred_marker_pending := false } r.deferred_marker_id
      r.deferred_marker_time_ms r.deferred_marker_safety_state r.deferred_marker_step_sequence
  else if r.deferred_output_pending then
    publishOutputBlocked { r with deferred_output_pending := false } r.deferred_output_step_sequence
      r.deferred_output_guard
  else (r, false)

def begin (r : TraceRecorder) (request : CaptureRequest) (initial_guard : OutputGuardStatus)
    (config : Option Controller.ControllerConfigSnapshot) : TraceRecorder × Bool :=
  if r.summary.active || r.summary.terminal_pending || request.session_id == 0 ||
      request.capture_id == 0 || decide (request.step_count < 1) ||
      decide (request.step_count > kMaxCaptureSteps) then (r, false)
  else
    let r : TraceRecorder :=
      { summary :=
          { session_id := request.session_id
            capture_id := request.capture_id
            requested_steps := request.step_count
            active := true }
        initial_guard
        final_guard := initial_guard
        last_guard := initial_guard
        config_source_set := config.isSome }
    match config with
    | none => publishBegin { r with config_pending := true }
    | some config =>
      let r := { r with config_revision := config.revision }
      if config.valid then
        let payload := serializeRobotConfig config.robot kMaxLogicalRecordBytes
        if payload.length = 0 then (reset, false)
        else
          publishBegin
            { r with
              slot := overwrite r.slot 0 payload
              config_payload_crc16 := Protocol.crc16 payload
              config_pending := true }
      else publishBegin { r with config_pending := true }

def finishCapture (r : TraceRecorder) (reason : CaptureEndReason) (guard : OutputGuardStatus) :
    TraceRecorder :=
  { r with
    summary :=
      { r.summary with
        active := false
        terminal_pending := true
        end_reason := reason }
    final_guard := guard }

/-- A capture that was begun without a configuration takes the one of its first step; `none` when it
cannot be serialized. -/
def adoptConfig (r : TraceRecorder) (config : Controller.ControllerConfigSnapshot) :
    Option TraceRecorder :=
  if r.config_source_set then some r
  else
    let r := { r with config_source_set := true, config_revision := config.revision }
    if config.valid then
      let payload := serializeRobotConfig config.robot kMaxLogicalRecordBytes
      if payload.length = 0 then none
      else
        some
          { r with
            slot := overwrite r.slot 0 payload
            config_payload_crc16 := Protocol.crc16 payload }
    else some r

def deferMarker (r : TraceRecorder) (step_sequence : UInt32) (time : ControllerTime)
    (command : Controller.RobotCommand) : TraceRecorder :=
  if r.marker_for_next_step then
    { r with
      deferred_marker_pending := true
      deferred_marker_id := r.next_marker_id
      deferred_marker_time_ms := time.now_ms
      deferred_marker_safety_state := command.safety_state.wire
      deferred_marker_step_sequence := step_sequence
      marker_for_next_step := false
      next_marker_id := 0 }
  else r

def deferOutput (r : TraceRecorder) (step_sequence : UInt32) (guard : OutputGuardStatus) :
    TraceRecorder :=
  if guardChanged r.last_guard guard then
    { r with
      deferred_output_pending := true
      deferred_output_guard := guard
      deferred_output_step_sequence := step_sequence }
  else r

/-- `captureStep` once the configuration is published. -/
def recordStep (r : TraceRecorder) (input : ControllerStepInput) (command : Controller.RobotCommand)
    (guard : OutputGuardStatus) : TraceRecorder × Bool :=
  let step_sequence := r.next_step_sequence
  let r := { r with next_step_sequence := r.next_step_sequence + 1 }
  let r := r.deferMarker step_sequence input.time command
  let r := r.deferOutput step_sequence guard
  match r.publishStep input step_sequence command with
  | (r, false) => (r.finishCapture .transportOverflow guard, false)
  | (r, true) =>
    let r :=
      { r with
        last_guard := guard
        summary :=
          { r.summary with
            recorded_steps := r.summary.recorded_steps + 1
            queue_high_water := 1 } }
    if r.summary.recorded_steps ≥ r.summary.requested_steps then
      (r.finishCapture .complete guard, true)
    else (r, true)

def captureStep (r : TraceRecorder) (input : ControllerStepInput)
    (command : Controller.RobotCommand) (guard : OutputGuardStatus) : TraceRecorder × Bool :=
  if !r.summary.active then (r, false)
  else if r.slot_ready then
    if r.summary.recorded_steps = 0 then (r, false)
    else (r.finishCapture .transportOverflow guard, false)
  else if command.goals.joints.length > kNumServos then
    (r.finishCapture .transportOverflow guard, false)
  else
    match r.adoptConfig input.config with
    | none =>
      ({ r with
          config_source_set := true
          config_revision := input.config.revision }.finishCapture .transportOverflow guard, false)
    | some r =>
      if input.config.revision != r.config_revision then
        (r.finishCapture .transportOverflow guard, false)
      else if r.config_pending then
        match publishConfig { r with config_pending := false } input.config with
        | (r, false) => (r.finishCapture .transportOverflow guard, false)
        | (r, true) => (r, true)
      else r.recordStep input command guard

def markNext (r : TraceRecorder) (marker_id : UInt32) : TraceRecorder × Bool :=
  if !r.summary.active || r.marker_for_next_step then (r, false)
  else ({ r with marker_for_next_step := true, next_marker_id := marker_id }, true)

def abort (r : TraceRecorder) (reason : CaptureEndReason) (guard : OutputGuardStatus) :
    TraceRecorder :=
  if !r.summary.active && !r.summary.terminal_pending then r else r.finishCapture reason guard

def peek (r : TraceRecorder) : TraceRecorder × Option RecordView :=
  if !r.slot_ready && r.summary.terminal_pending then
    match r.publishEnd with
    | (r, false) => (r, none)
    | (r, true) => (r, if r.slot_ready then some r.slot_view else none)
  else (r, if r.slot_ready then some r.slot_view else none)

def copySlice (r : TraceRecorder) (view : RecordView) (offset out_cap length : UInt16) :
    Option (List UInt8) :=
  if !r.slot_ready || view.record_seq != r.slot_view.record_seq ||
      view.logical_length != r.slot_view.logical_length || decide (offset > view.logical_length) ||
      decide (length > view.logical_length - offset) || decide (out_cap < length) then none
  else some ((r.slot.drop offset.toNat).take length.toNat)

def acknowledge (r : TraceRecorder) (view : RecordView) : TraceRecorder :=
  if !r.slot_ready || view.record_seq != r.slot_view.record_seq then r
  else
    let type := r.slot_view.type
    let r := { r with emitted_record_count := r.emitted_record_count + 1 }
    if type = .end then
      { r with
        slot_ready := false
        summary := { r.summary with terminal_pending := false }
        completion_pending := true }
    else
      match r.publishDeferred with
      | (r, true) => r
      | (r, false) =>
        let r := { r with slot_ready := false }
        if r.summary.terminal_pending then r.publishEnd.1 else r

def abandonCurrent (r : TraceRecorder) (reason : CaptureEndReason) (guard : OutputGuardStatus) :
    TraceRecorder :=
  { r with
    slot_ready := false
    deferred_marker_pending := false
    deferred_output_pending := false }.finishCapture reason guard

def noteFragmentsSent (r : TraceRecorder) (count : UInt8) : TraceRecorder :=
  { r with emitted_fragment_count := r.emitted_fragment_count + count.toUInt32 }

structure Completion where
  session_id : UInt32
  capture_id : UInt32
  reason : CaptureEndReason
  deriving DecidableEq, Repr

def takeCompletion (r : TraceRecorder) : TraceRecorder × Option Completion :=
  if !r.completion_pending then (r, none)
  else
    ({ r with completion_pending := false },
      some
        { session_id := r.summary.session_id
          capture_id := r.summary.capture_id
          reason := r.summary.end_reason })

end TraceRecorder

inductive RecorderCall where
  | reset
  | begin (request : CaptureRequest) (initial_guard : OutputGuardStatus)
      (config : Option Controller.ControllerConfigSnapshot)
  | captureStep (input : ControllerStepInput) (command : Controller.RobotCommand)
      (guard : OutputGuardStatus)
  | markNext (marker_id : UInt32)
  | abort (reason : CaptureEndReason) (guard : OutputGuardStatus)
  | peek
  | copySlice (view : RecordView) (offset out_cap length : UInt16)
  | acknowledge (view : RecordView)
  | abandonCurrent (reason : CaptureEndReason) (guard : OutputGuardStatus)
  | noteFragmentsSent (count : UInt8)
  | takeCompletion

inductive RecorderAnswer where
  | done
  | accepted (ok : Bool)
  | view (view : Option RecordView)
  | bytes (bytes : Option (List UInt8))
  | completion (completion : Option TraceRecorder.Completion)
  deriving DecidableEq, Repr

def TraceRecorder.call (r : TraceRecorder) : RecorderCall → TraceRecorder × RecorderAnswer
  | .reset => (.reset, .done)
  | .begin request initial_guard config => (r.begin request initial_guard config).map id .accepted
  | .captureStep input command guard => (r.captureStep input command guard).map id .accepted
  | .markNext marker_id => (r.markNext marker_id).map id .accepted
  | .abort reason guard => (r.abort reason guard, .done)
  | .peek => r.peek.map id .view
  | .copySlice view offset out_cap length => (r, .bytes (r.copySlice view offset out_cap length))
  | .acknowledge view => (r.acknowledge view, .done)
  | .abandonCurrent reason guard => (r.abandonCurrent reason guard, .done)
  | .noteFragmentsSent count => (r.noteFragmentsSent count, .done)
  | .takeCompletion => r.takeCompletion.map id .completion

abbrev RecorderEvent : Type := Event TraceRecorder (RecorderCall × RecorderAnswer)

/-- A run of one recorder from power-up, its history latest first. -/
abbrev RecorderRun (h : List RecorderEvent) (r : TraceRecorder) : Prop :=
  Run (WithOutput TraceRecorder.call) {} h r

end HexapodVerified.Hil
