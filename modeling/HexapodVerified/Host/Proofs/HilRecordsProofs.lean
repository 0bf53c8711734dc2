import HexapodVerified.Hil.Proofs.TraceCodecProofs
import HexapodVerified.Hil.Proofs.TraceOrderProofs
import HexapodVerified.Host.Proofs.FramingProofs

/-!
# The records of the recorder on the host

The host reads the bytes of every entry to the end, and what it has read says about the entry what the
assembler wants to know of it.
-/

namespace HexapodVerified.Host

open HexapodVerified.Config Codec Readers
open Hil (LogicalRecord)

theorem ofLittleEndian_putU16 (v : UInt16) : ofLittleEndian (Bytes.putU16 v) = v.toNat := by
  have hvalue : ofLittleEndian (Bytes.putU16 v) = (Bytes.getU16 (Bytes.putU16 v)).toNat :=
    ofLittleEndian_two
  rwa [Bytes.getU16_putU16_self] at hvalue

theorem ofLittleEndian_putU32 (v : UInt32) : ofLittleEndian (Bytes.putU32 v) = v.toNat := by
  have hvalue : ofLittleEndian (Bytes.putU32 v) = (Bytes.getU32 (Bytes.putU32 v)).toNat :=
    ofLittleEndian_four
  rwa [Bytes.getU32_putU32_self] at hvalue

theorem reads_take (data : List UInt8) : Reads (Reader.take data.length) data (· = data) := by
  intro rest
  refine ⟨data, rfl, ?_⟩
  unfold Reader.take
  rw [if_neg (by rw [List.length_append]; omega), List.take_left, List.drop_left]

theorem reads_unsigned (size : Nat) (data : List UInt8) (hsize : data.length = size) :
    Reads (Reader.unsigned size) data (· = ofLittleEndian data) := by
  subst hsize
  refine (reads_take data).last fun bytes hbytes => .pure ?_
  rw [hbytes]

theorem reads_signed (size : Nat) (data : List UInt8) (hsize : data.length = size) :
    Reads (Reader.signed size) data fun _ => True :=
  (reads_unsigned size data hsize).last fun _ _ => .pure trivial

theorem reads_u8 (v : UInt8) : Reads Reader.u8 (putU8 v) (· = v.toNat) := reads_unsigned 1 _ rfl

theorem reads_u16 (v : UInt16) : Reads Reader.u16 (Bytes.putU16 v) (· = v.toNat) :=
  (reads_unsigned 2 (Bytes.putU16 v) rfl).imp fun _ h => h.trans (ofLittleEndian_putU16 v)

theorem reads_u32 (v : UInt32) : Reads Reader.u32 (Bytes.putU32 v) (· = v.toNat) :=
  (reads_unsigned 4 (Bytes.putU32 v) rfl).imp fun _ h => h.trans (ofLittleEndian_putU32 v)

theorem reads_f32 (v : UInt32) : Reads Reader.f32 (Bytes.putU32 v) (· = v.toNat) := reads_u32 v

theorem reads_i8 (v : Int8) : Reads Reader.i8 (putI8 v) fun _ => True := reads_signed 1 _ rfl

theorem reads_i16 (v : Int16) : Reads Reader.i16 (putI16 v) fun _ => True := reads_signed 2 _ rfl

theorem reads_i32 (v : Int32) : Reads Reader.i32 (putI32 v) fun _ => True := reads_signed 4 _ rfl

theorem reads_boolean (b : Bool) : Reads Reader.boolean (putBool b) (· = b) := by
  refine (reads_u8 (if b then 1 else 0)).last fun value hvalue => ?_
  subst hvalue
  cases b with
  | false => exact .unless (by decide) (.pure rfl)
  | true => exact .unless (by decide) (.pure rfl)

theorem reads_enum {α : Type} [DecidableEq α] (all : List α) (a : α) :
    Reads Reader.u8 (putEnum all a) fun _ => True :=
  (reads_u8 (UInt8.ofNat (all.idxOf a))).imp fun _ _ => trivial

theorem reads_vector {α β : Type} {n : Nat} {read : Reader β} {put : α → List UInt8}
    (h : ∀ a, Reads read (put a) fun _ => True) (entries : Vector α n) :
    Reads (many read n) (putVector put entries) fun _ => True := by
  have hmany := reads_many entries.toList fun a _ => h a
  rwa [Vector.length_toList] at hmany

theorem reads_guard (guard : Hil.OutputGuardStatus) :
    Reads readGuard (Hil.writeGuard guard) fun _ => True := by
  iterate 5 refine (reads_boolean _).bind fun _ _ => ?_
  iterate 5 refine (reads_u32 _).bind fun _ _ => ?_
  exact (reads_u8 _).last fun _ _ => .pure trivial

theorem reads_controllerCommand (command : Input.ControllerCommand UInt32) :
    Reads readControllerCommand (Hil.writeControllerCommand command) fun _ => True := by
  iterate 3 refine (reads_boolean _).bind fun _ _ => ?_
  refine (reads_u32 _).bind fun _ _ => ?_
  iterate 3 refine (reads_boolean _).bind fun _ _ => ?_
  refine (reads_enum _ _).bind fun _ _ => (reads_u8 _).bind fun _ _ => ?_
  iterate 15 refine (reads_f32 _).bind fun _ _ => ?_
  iterate 3 refine (reads_boolean _).bind fun _ _ => ?_
  exact (reads_enum _ _).last fun _ _ => .pure trivial

theorem reads_servo (servo : Dxl.ServoStatus) :
    Reads readServo (Hil.writeServo servo) fun _ => True := by
  refine (reads_u8 _).bind fun _ _ => ?_
  iterate 3 refine (reads_i32 _).bind fun _ _ => ?_
  refine (reads_u16 _).bind fun _ _ => (reads_i8 _).bind fun _ _ => (reads_u8 _).bind fun _ _ => ?_
  refine (reads_boolean _).bind fun _ _ => ?_
  exact (reads_boolean _).last fun _ _ => .pure trivial

theorem reads_foot (foot : Sensors.LegContactState) :
    Reads readFoot (Hil.writeFoot foot) fun _ => True := by
  refine (reads_u32 _).bind fun _ _ => (reads_u16 _).bind fun _ _ => ?_
  iterate 3 refine (reads_i32 _).bind fun _ _ => ?_
  refine (reads_enum _ _).bind fun _ _ => (reads_u8 _).bind fun _ _ => ?_
  iterate 5 refine (reads_boolean _).bind fun _ _ => ?_
  exact (reads_boolean _).last fun _ _ => .pure trivial

theorem reads_motionIntent (intent : Controller.MotionIntent UInt32) :
    Reads readMotionIntent (Hil.writeMotionIntent intent) fun _ => True := by
  refine (reads_u32 _).bind fun _ _ => (reads_u8 _).bind fun _ _ => ?_
  iterate 3 refine (reads_u16 _).bind fun _ _ => ?_
  refine (reads_u8 _).bind fun _ _ => (reads_u8 _).bind fun _ _ => ?_
  iterate 8 refine (reads_f32 _).bind fun _ _ => ?_
  exact (reads_f32 _).last fun _ _ => .pure trivial

theorem reads_legTarget (foot : Protocol.FootTarget) :
    Reads readLegTarget (Hil.writeFootTarget foot) fun _ => True := by
  iterate 3 refine (reads_i16 _).bind fun _ _ => ?_
  refine (reads_boolean _).bind fun _ _ => (reads_boolean _).bind fun _ _ => ?_
  exact (reads_boolean _).last fun _ _ => .pure trivial

theorem reads_diagnostics (diagnostics : Controller.ControllerDiagnostics) :
    Reads readDiagnostics (Hil.writeDiagnostics diagnostics) fun _ => True := by
  refine (reads_u32 _).bind fun _ _ => (reads_u32 _).bind fun _ _ => (reads_u8 _).bind fun _ _ => ?_
  iterate 9 refine (reads_boolean _).bind fun _ _ => ?_
  exact (reads_boolean _).last fun _ _ => .pure trivial

theorem reads_goal (goal : Gait.PipelineJoint) :
    Reads readGoal (Hil.writeGoal goal) fun _ => True := by
  refine (reads_u8 _).bind fun _ _ => (reads_u16 _).bind fun _ _ => (reads_u8 _).bind fun _ _ => ?_
  refine (reads_u8 _).bind fun _ _ => ?_
  exact (reads_boolean _).last fun _ _ => .pure trivial

theorem reads_robotState (state : Hil.RobotState) :
    Reads readRobotState (Hil.writeRobotState state) fun _ => True := by
  refine (reads_u16 _).bind fun _ _ => (reads_boolean _).bind fun _ _ => ?_
  refine (reads_enum _ _).bind fun _ _ => (reads_u8 _).bind fun servo_count hcount => ?_
  have hsmall : ¬ servo_count > NUM_SERVOS := by
    have hlt : state.dxl.servo_count.val < 19 := state.dxl.servo_count.isLt
    rw [hcount, UInt8.toNat_ofNat']
    show ¬ _ > 18
    omega
  refine .unless hsmall ?_
  refine (reads_enum _ _).bind fun _ _ => (reads_boolean _).bind fun _ _ => ?_
  refine (reads_u32 _).bind fun _ _ => (reads_u32 _).bind fun _ _ => ?_
  refine (reads_boolean _).bind fun _ _ => (reads_boolean _).bind fun _ _ => ?_
  refine (reads_vector reads_servo _).bind fun _ _ => (reads_u8 _).bind fun _ _ => ?_
  refine (reads_enum _ _).bind fun _ _ => (reads_vector reads_foot _).bind fun _ _ => ?_
  exact (reads_boolean _).bind fun _ _ => (reads_boolean _).last fun _ _ => .pure trivial

theorem reads_joints {α β : Type} {read : Reader β} {put : α → List UInt8}
    (h : ∀ a, Reads read (put a) fun _ => True) (field : Controller.MaintTarget → α)
    (joints : Protocol.JointTable) :
    Reads (many read NUM_SERVOS) (Hil.writeJoints put field joints) fun _ => True := by
  have hflat : Hil.writeJoints put field joints =
      (joints.toList.flatMap Vector.toList).flatMap fun target => put (field target) := by
    rw [List.flatMap_assoc]
    rfl
  have hlen : (joints.toList.flatMap Vector.toList).length = NUM_SERVOS := by
    have hrow (row : Vector Controller.MaintTarget kJointsPerLeg) : row.toList.length = 3 :=
      Vector.length_toList
    rw [Hil.length_flatMap hrow, Vector.length_toList]
    rfl
  have hmany := reads_many (joints.toList.flatMap Vector.toList) fun target _ => h (field target)
  rwa [hlen, ← hflat] at hmany

theorem reads_maintenanceIntent (intent : Hil.MaintenanceIntent) :
    Reads readMaintenanceIntent (Hil.writeMaintenanceIntent intent) fun _ => True := by
  refine (reads_boolean _).bind fun _ _ => (reads_u32 _).bind fun _ _ => ?_
  refine (reads_enum _ _).bind fun _ _ => (reads_u32 _).bind fun _ _ => ?_
  refine (reads_joints (fun v => (reads_u16 v).imp fun _ _ => trivial) _ _).bind fun _ _ => ?_
  refine (reads_joints (fun b => (reads_boolean b).imp fun _ _ => trivial) _ _).bind fun _ _ => ?_
  refine (reads_joints (fun b => (reads_boolean b).imp fun _ _ => trivial) _ _).bind fun _ _ => ?_
  exact (reads_vector reads_legTarget _).last fun _ _ => .pure trivial

theorem reads_controllerIntent (intent : Hil.ControllerIntent) :
    Reads readControllerIntent (Hil.writeControllerIntent intent) fun _ => True := by
  refine (reads_controllerCommand _).bind fun _ _ => ?_
  iterate 5 refine (reads_boolean _).bind fun _ _ => ?_
  refine (reads_motionIntent _).bind fun _ _ => (reads_maintenanceIntent _).bind fun _ _ => ?_
  iterate 8 refine (reads_boolean _).bind fun _ _ => ?_
  exact (reads_boolean _).bind fun _ _ => (reads_boolean _).last fun _ _ => .pure trivial

theorem reads_commandObservation (command : Controller.RobotCommand)
    (hgoals : command.goals.joints.length ≤ kNumServos) :
    Reads readCommandObservation (Hil.writeCommand command) fun _ => True := by
  refine (reads_u8 _).bind fun _ _ => (reads_enum _ _).bind fun _ _ => ?_
  refine (reads_u8 _).bind fun _ _ => ?_
  iterate 5 refine (reads_boolean _).bind fun _ _ => ?_
  refine (reads_diagnostics _).bind fun _ _ => (reads_u8 _).bind fun goal_count hcount => ?_
  refine (reads_boolean _).bind fun _ _ => (reads_boolean _).bind fun _ _ => ?_
  have hgoals' : command.goals.joints.length ≤ 18 := hgoals
  have hcount' : goal_count = command.goals.joints.length := by
    rw [hcount, UInt8.toNat_ofNat', Nat.mod_eq_of_lt (by omega)]
  have hsmall : ¬ goal_count > NUM_SERVOS := by
    rw [hcount']
    exact Nat.not_lt.mpr hgoals'
  refine .unless hsmall ?_
  rw [hcount', List.take_of_length_le hgoals]
  exact (reads_many _ fun goal _ => reads_goal goal).last fun _ _ => .pure trivial

theorem reads_controllerStep (step_sequence : UInt32) (input : Hil.ControllerStepInput)
    (command : Controller.RobotCommand) (hgoals : command.goals.joints.length ≤ kNumServos) :
    Reads readControllerStep (Hil.stepRecord step_sequence input command) fun parsed =>
      parsed.step_sequence = step_sequence.toNat ∧
        parsed.config.revision = input.config.revision.toNat ∧
        parsed.config.valid = input.config.valid ∧
        parsed.config.persistent = input.config.persistent := by
  unfold readControllerStep Hil.stepRecord Hil.stepInputRecord
  simp only [List.append_assoc]
  refine (reads_u32 _).bind fun sequence hsequence => (reads_u32 _).bind fun _ _ => ?_
  refine (reads_u32 _).bind fun _ _ => (reads_boolean _).bind fun _ _ => ?_
  refine (reads_robotState _).bind fun _ _ => (reads_controllerIntent _).bind fun _ _ => ?_
  refine (reads_u32 _).bind fun revision hrevision => (reads_boolean _).bind fun valid hvalid => ?_
  refine (reads_boolean _).bind fun persistent hpersistent => ?_
  refine (reads_commandObservation command hgoals).last fun _ _ => .pure ?_
  exact ⟨hsequence, hrevision, hvalid, hpersistent⟩

def hostType : Hil.RecordType → RecordType
  | .begin => .begin
  | .config => .config
  | .step => .step
  | .marker => .marker
  | .outputBlocked => .outputBlocked
  | .end => .end

def hostReason : Hil.CaptureEndReason → CaptureEndReason
  | .complete => .complete
  | .hostHeartbeatExpired => .hostHeartbeatExpired
  | .transportOverflow => .transportOverflow
  | .transportTimeout => .transportTimeout
  | .hostAborted => .hostAborted
  | .sessionClosed => .sessionClosed

/-- What the host wants to know of an entry is in what it has read. -/
def Describes (request : Hil.CaptureRequest) : Hil.Entry → ParsedRecord → Prop
  | .begin revision crc _, .begin parsed =>
    parsed.session_id = request.session_id.toNat ∧ parsed.capture_id = request.capture_id.toNat ∧
      parsed.config_revision = revision.toNat ∧ parsed.config_payload_crc16 = crc.toNat ∧
      parsed.requested_steps = request.step_count.toNat
  | .config snapshot, .config parsed =>
    parsed.revision = snapshot.revision.toNat ∧ parsed.valid = snapshot.valid ∧
      parsed.persistent = snapshot.persistent ∧
      parsed.payload_crc16 = (Hil.snapshotCrc snapshot).toNat
  | .step step_sequence input _, .step parsed =>
    parsed.step_sequence = step_sequence.toNat ∧
      parsed.config.revision = input.config.revision.toNat ∧
      parsed.config.valid = input.config.valid ∧ parsed.config.persistent = input.config.persistent
  | .marker _ _ _ step_sequence, .marker parsed => parsed.step_sequence = step_sequence.toNat
  | .outputBlocked step_sequence _, .outputBlocked parsed =>
    parsed.step_sequence = step_sequence.toNat
  | .end reason recorded_steps _ record_count fragment_count _, .end parsed =>
    parsed.reason = hostReason reason ∧ parsed.requested_steps = request.step_count.toNat ∧
      parsed.recorded_steps = recorded_steps.toNat ∧
      parsed.emitted_record_count = record_count.toNat ∧
      parsed.emitted_fragment_count = fragment_count.toNat
  | _, _ => False

/-- The bytes of the entry make a value that the host accepts. -/
def Legible (request : Hil.CaptureRequest) : Hil.Entry → Prop
  | .begin .. => 1 ≤ request.step_count.toNat ∧ request.step_count.toNat ≤ 32
  | .config snapshot => snapshot.valid = true →
    (snapshot.robot.schema_version.toNat, CONFIG_PAYLOAD_SIZE) ∈ configVersions
  | .step _ _ command => command.goals.joints.length ≤ kNumServos
  | .end _ recorded_steps _ _ _ _ => recorded_steps.toNat ≤ request.step_count.toNat
  | _ => True

variable {request : Hil.CaptureRequest} {header : FragmentHeader}

theorem reads_begin (hsession : header.session_id = request.session_id.toNat)
    (hcapture : header.capture_id = request.capture_id.toNat) (revision : UInt32) (crc : UInt16)
    (guard : Hil.OutputGuardStatus) (hlegible : Legible request (.begin revision crc guard)) :
    Reads (parseBegin header) (Hil.Entry.bytes request (.begin revision crc guard)) fun parsed =>
      Describes request (.begin revision crc guard) (.begin parsed) := by
  obtain ⟨hpos, hle⟩ := hlegible
  refine (reads_u16 _).bind fun schema_version hschema => .unless (not_not.mpr hschema) ?_
  refine (reads_u8 _).bind fun origin horigin => ?_
  subst horigin
  refine (reads_u8 _).bind fun _ _ => (reads_u8 _).bind fun _ _ => ?_
  refine (reads_u32 _).bind fun session_id hid => (reads_u32 _).bind fun capture_id hid' => ?_
  refine (reads_u32 _).bind fun config_revision hrevision => ?_
  refine (reads_u16 _).bind fun config_payload_crc16 hcrc => ?_
  refine (reads_u8 _).bind fun requested_steps hsteps => (reads_guard guard).last fun _ _ => ?_
  refine .unless (not_not.mpr (hid.trans hsession.symm)) ?_
  refine .unless (not_not.mpr (hid'.trans hcapture.symm)) (.unless (by omega) (.pure ?_))
  exact ⟨hid, hid', hrevision, hcrc, hsteps⟩

theorem checkRobotConfig_payloadOf {robot : Config.RobotConfig}
    (hversion : (robot.schema_version.toNat, CONFIG_PAYLOAD_SIZE) ∈ configVersions) :
    checkRobotConfig (Config.payloadOf robot) = .ok () := by
  have hlen : (Config.payloadOf robot).length = CONFIG_PAYLOAD_SIZE := length_payloadOf robot
  have htake : (Config.payloadOf robot).take 2 = Bytes.putU16 robot.schema_version := by
    exact List.take_left' rfl
  unfold checkRobotConfig
  rw [hlen, htake, ofLittleEndian_putU16, if_neg (by simp), if_neg (not_not.mpr hversion)]

theorem reads_config (snapshot : Controller.ControllerConfigSnapshot)
    (hlegible : Legible request (.config snapshot)) :
    Reads parseConfig (Hil.Entry.bytes request (.config snapshot)) fun parsed =>
      Describes request (.config snapshot) (.config parsed) := by
  have hle : (Hil.configPayload snapshot).length ≤ 485 := Hil.length_configPayload_le snapshot
  have hsize : (UInt16.ofNat (Hil.configPayload snapshot).length).toNat =
      (Hil.configPayload snapshot).length := by
    rw [UInt16.toNat_ofNat', Nat.mod_eq_of_lt (by omega)]
  have hbytes : Hil.Entry.bytes request (.config snapshot) = Hil.configRecord snapshot := rfl
  rw [hbytes, Hil.configRecord_eq]
  refine (reads_u32 _).bind fun revision hrevision => (reads_boolean _).bind fun valid hvalid => ?_
  refine (reads_boolean _).bind fun persistent hpersistent => ?_
  refine (reads_u16 _).bind fun payload_length hlength => ?_
  refine (reads_u16 _).bind fun payload_crc16 hcrc => ?_
  rw [hlength, hsize]
  refine (reads_take (Hil.configPayload snapshot)).last fun payload hpayload => ?_
  subst hvalid hpayload
  have hsmall : ¬ (Hil.configPayload snapshot).length > MAX_LOGICAL_RECORD_BYTES - 10 := by
    show ¬ _ > 950
    omega
  refine .unless hsmall ?_
  cases hvalid' : snapshot.valid with
  | false =>
    have hempty : Hil.configPayload snapshot = [] := by
      unfold Hil.configPayload
      rw [hvalid']
      rfl
    have hzero : payload_crc16 = 0 := by
      rw [hcrc, hvalid']
      rfl
    rw [if_neg Bool.false_ne_true]
    refine .unless (by rw [hempty, hzero]; simp) (.pure ?_)
    refine ⟨hrevision, hvalid'.symm, hpersistent, ?_⟩
    unfold Hil.snapshotCrc
    rw [hcrc]
  | true =>
    have hpayload : Hil.configPayload snapshot = Config.payloadOf snapshot.robot := by
      unfold Hil.configPayload
      rw [hvalid']
      rfl
    have hcrc' : crc16 (Hil.configPayload snapshot) = payload_crc16 := by
      rw [hcrc, hvalid', crc16_eq]
      rfl
    rw [if_pos rfl]
    refine .unless (not_not.mpr hcrc') ?_
    rw [hpayload, checkRobotConfig_payloadOf (hlegible hvalid')]
    refine .pure ⟨hrevision, hvalid'.symm, hpersistent, ?_⟩
    unfold Hil.snapshotCrc
    rw [hcrc]

theorem reads_end (reason : Hil.CaptureEndReason) (recorded_steps queue_high_water : UInt8)
    (record_count fragment_count : UInt32) (guard : Hil.OutputGuardStatus)
    (hlegible : Legible request
      (.end reason recorded_steps queue_high_water record_count fragment_count guard)) :
    Reads parseEnd (Hil.Entry.bytes request
      (.end reason recorded_steps queue_high_water record_count fragment_count guard)) fun parsed =>
        Describes request
          (.end reason recorded_steps queue_high_water record_count fragment_count guard)
          (.end parsed) := by
  have hreason : CaptureEndReason.all[reason.wire.toNat]? = some (hostReason reason) := by
    cases reason <;> rfl
  have hlegible' : recorded_steps.toNat ≤ request.step_count.toNat := hlegible
  refine (reads_u8 _).bind fun number hnumber => ?_
  rw [hnumber, hreason]
  refine (reads_u8 _).bind fun requested hrequested => (reads_u8 _).bind fun recorded hrecorded => ?_
  refine (reads_u8 _).bind fun _ _ => (reads_u32 _).bind fun records hrecords => ?_
  refine (reads_u32 _).bind fun fragments hfragments => (reads_guard guard).last fun _ _ => ?_
  refine .unless (by omega) (.pure ?_)
  exact ⟨rfl, hrequested, hrecorded, hrecords, hfragments⟩

theorem reads_body (hsession : header.session_id = request.session_id.toNat)
    (hcapture : header.capture_id = request.capture_id.toNat) (entry : Hil.Entry)
    (htype : header.record_type = hostType entry.type) (hlegible : Legible request entry) :
    Reads (parseBody header) (entry.bytes request) (Describes request entry) := by
  unfold parseBody
  rw [htype]
  cases entry with
  | begin revision crc guard =>
    exact (reads_begin hsession hcapture revision crc guard hlegible).last fun _ h => .pure h
  | config snapshot => exact (reads_config snapshot hlegible).last fun _ h => .pure h
  | step step_sequence input command =>
    exact (reads_controllerStep step_sequence input command hlegible).last fun _ h => .pure h
  | marker marker_id now_ms safety_state step_sequence =>
    have hmarker : Reads parseMarker
        (Hil.Entry.bytes request (.marker marker_id now_ms safety_state step_sequence))
        (·.step_sequence = step_sequence.toNat) := by
      refine (reads_u32 _).bind fun _ _ => (reads_u32 _).bind fun _ _ => ?_
      exact (reads_u8 _).bind fun _ _ => (reads_u32 _).last fun _ hsequence => .pure hsequence
    exact hmarker.last fun _ hsequence => .pure hsequence
  | outputBlocked step_sequence guard =>
    have houtput : Reads parseOutputBlocked
        (Hil.Entry.bytes request (.outputBlocked step_sequence guard))
        (·.step_sequence = step_sequence.toNat) :=
      (reads_u32 _).bind fun _ hsequence => (reads_guard guard).last fun _ _ => .pure hsequence
    exact houtput.last fun _ hsequence => .pure hsequence
  | «end» reason recorded_steps queue_high_water record_count fragment_count guard =>
    exact (reads_end reason recorded_steps queue_high_water record_count fragment_count guard
      hlegible).last fun _ h => .pure h

theorem parseRecord_entry (hsession : header.session_id = request.session_id.toNat)
    (hcapture : header.capture_id = request.capture_id.toNat) (entry : Hil.Entry)
    (htype : header.record_type = hostType entry.type) (hlegible : Legible request entry)
    (hcrc : header.logical_crc16 = (Protocol.crc16 (entry.bytes request)).toNat) :
    ∃ parsed, Describes request entry parsed ∧
      parseRecord { header, payload := entry.bytes request } = .ok parsed := by
  obtain ⟨parsed, hparsed, hread⟩ := (reads_body hsession hcapture entry htype hlegible).run
  refine ⟨parsed, hparsed, ?_⟩
  have hfinish : (parseBody header >>= fun parsed => Reader.finish >>= fun _ => pure parsed)
      (entry.bytes request) = .ok (parsed, []) := bind_of_ok hread
  unfold parseRecord
  dsimp only
  rw [if_neg (not_not.mpr (by rw [crc16_eq, hcrc])), hfinish]
  rfl

/-!
## The fragments of a record are put together on the host

The host decodes every event of a record to its slice, and a reassembler that waits for a record takes the
slices one after the other and gives the record back with the last one.
-/

variable {r : LogicalRecord} {index : Nat}

def eventCount (r : LogicalRecord) : Nat := r.countFor Hil.kMaxEventPayload

def sliceOf (r : LogicalRecord) (index : Nat) : List UInt8 := r.sliceAt Hil.kMaxEventPayload index

def payloadAt (r : LogicalRecord) (index : Nat) : List UInt8 :=
  r.fragment (eventCount r) index (sliceOf r index)

def headerOf (r : LogicalRecord) (index : Nat) : FragmentHeader where
  schema_version := TRACE_SCHEMA_VERSION
  session_id := r.session_id.toNat
  capture_id := r.capture_id.toNat
  record_seq := r.record_seq.toNat
  record_type := hostType r.record_type
  fragment_index := index
  fragment_count := eventCount r
  logical_length := r.logical.length
  logical_crc16 := (Protocol.crc16 r.logical).toNat

theorem eventCount_eq (r : LogicalRecord) : eventCount r = (r.logical.length + 234) / 235 := by
  unfold eventCount LogicalRecord.countFor
  rw [Hil.eventCapacity]
  rfl

theorem sliceOf_length (r : LogicalRecord) (index : Nat) :
    (sliceOf r index).length = min (r.logical.length - index * 235) 235 := by
  unfold sliceOf
  rw [LogicalRecord.sliceAt_length, Hil.eventCapacity]

theorem slice_lt (hindex : index < eventCount r) : index * 235 < r.logical.length := by
  rw [eventCount_eq, Nat.lt_div_iff_mul_lt (by omega)] at hindex
  omega

theorem take_slice (r : LogicalRecord) (index : Nat) :
    r.logical.take (index * 235) ++ sliceOf r index = r.logical.take ((index + 1) * 235) := by
  unfold sliceOf LogicalRecord.sliceAt Bytes.window
  rw [Hil.eventCapacity, Nat.succ_mul, List.take_add]

theorem take_all (r : LogicalRecord) : r.logical.take (eventCount r * 235) = r.logical := by
  refine List.take_of_length_le ?_
  rw [eventCount_eq]
  omega

theorem unpackHeader_payloadAt (hlen : r.logical.length ≤ Hil.kMaxLogicalRecordBytes)
    (hindex : index < eventCount r) :
    unpackHeader (payloadAt r index) (hostType r.record_type) = headerOf r index := by
  have hfive : eventCount r ≤ 5 := Hil.countFor_event hlen
  have hschema : ofLittleEndian ((payloadAt r index).take 2) = TRACE_SCHEMA_VERSION :=
    ofLittleEndian_putU16 Hil.kSchemaVersion
  have hsession : ofLittleEndian (((payloadAt r index).drop 2).take 4) = r.session_id.toNat :=
    ofLittleEndian_putU32 r.session_id
  have hcapture : ofLittleEndian (((payloadAt r index).drop 6).take 4) = r.capture_id.toNat :=
    ofLittleEndian_putU32 r.capture_id
  have hseq : ofLittleEndian (((payloadAt r index).drop 10).take 4) = r.record_seq.toNat :=
    ofLittleEndian_putU32 r.record_seq
  have hposition : ofLittleEndian (((payloadAt r index).drop 15).take 1) = index :=
    @LogicalRecord.fragment_index_toNat r (eventCount r) index (by omega)
  have hcount : ofLittleEndian (((payloadAt r index).drop 16).take 1) = eventCount r :=
    @LogicalRecord.fragment_count_toNat r (eventCount r) index (by omega)
  have hlength : ofLittleEndian (((payloadAt r index).drop 17).take 2) = r.logical.length :=
    (ofLittleEndian_putU16 _).trans (@LogicalRecord.logical_length_toNat r (eventCount r) index)
  have hcrc : ofLittleEndian (((payloadAt r index).drop 19).take 2) =
      (Protocol.crc16 r.logical).toNat := ofLittleEndian_putU16 _
  unfold unpackHeader headerOf
  rw [hschema, hsession, hcapture, hseq, hposition, hcount, hlength, hcrc]

theorem validateHeader_headerOf (hlen : r.logical.length ≤ Hil.kMaxLogicalRecordBytes)
    (hindex : index < eventCount r) : validateHeader (headerOf r index) = .ok () := by
  have hsession : r.session_id.toNat ≠ 0 := fun h => r.session_id_ne (UInt32.toNat_inj.mp h)
  have hcapture : r.capture_id.toNat ≠ 0 := fun h => r.capture_id_ne (UInt32.toNat_inj.mp h)
  have hpos := List.length_pos_of_ne_nil r.logical_ne
  have hlen' : r.logical.length ≤ 960 := hlen
  unfold validateHeader headerOf
  dsimp only
  rw [if_neg (not_not.mpr rfl), if_neg (not_or.mpr ⟨hsession, hcapture⟩), if_neg (by omega),
    if_neg (by show ¬ (_ ∨ _ > 960); omega)]
  exact if_neg (not_not.mpr (eventCount_eq r))

theorem decodeFragment_payloadAt (hlen : r.logical.length ≤ Hil.kMaxLogicalRecordBytes)
    (hindex : index < eventCount r) :
    decodeFragment (payloadAt r index) = .ok { header := headerOf r index, data := sliceOf r index } := by
  have hsize : (payloadAt r index).length = 21 + (sliceOf r index).length := by
    unfold payloadAt LogicalRecord.fragment
    rw [List.length_append]
    rfl
  have hbefore := slice_lt hindex
  have hslice := sliceOf_length r index
  have htype : RecordType.all[ofLittleEndian (((payloadAt r index).drop 14).take 1)]? =
      some (hostType r.record_type) := by
    have hnumber : ofLittleEndian (((payloadAt r index).drop 14).take 1) =
        r.record_type.number.toNat := rfl
    rw [hnumber]
    cases r.record_type <;> rfl
  have hdata : (payloadAt r index).drop FRAGMENT_PREFIX_BYTES = sliceOf r index := rfl
  have hne : sliceOf r index ≠ [] := by
    intro hnil
    rw [hnil, List.length_nil] at hslice
    omega
  unfold decodeFragment
  dsimp only
  rw [if_neg (by rw [hsize]; show ¬ _ < 21; omega), if_neg (by rw [hsize]; show ¬ _ > 256; omega),
    htype]
  dsimp only
  rw [unpackHeader_payloadAt hlen hindex, validateHeader_headerOf hlen hindex]
  rw [hdata, if_neg hne, if_neg]
  rw [hslice, Nat.min_comm]
  exact not_not.mpr rfl

/-- The reassembler has taken the first `index` fragments of the record. -/
def partly (expected : Option Nat) (r : LogicalRecord) (index : Nat) : TraceReassembler where
  expected_session_id := expected
  header := if index = 0 then none else some (headerOf r 0)
  next_fragment := index
  record := r.logical.take (index * 235)

def fragmentAt (r : LogicalRecord) (index : Nat) : TraceFragment where
  header := headerOf r index
  data := sliceOf r index

def hostRecord (r : LogicalRecord) : TraceRecord where
  header := headerOf r 0
  payload := r.logical

variable {expected : Option Nat}

def opened (expected : Option Nat) (r : LogicalRecord) (index : Nat) : TraceReassembler :=
  { partly expected r index with header := some (headerOf r 0) }

theorem append_fragmentAt (hindex : index < eventCount r) :
    (opened expected r index).append (fragmentAt r index) =
      (opened expected r (index + 1),
        .ok (if index + 1 < eventCount r then none else some (hostRecord r))) := by
  have hlen : (r.logical.take (index * 235)).length + (sliceOf r index).length =
      (r.logical.take ((index + 1) * 235)).length := by
    rw [← take_slice, List.length_append]
  have hroom : ¬ (r.logical.take (index * 235)).length + (sliceOf r index).length >
      (headerOf r index).logical_length := by
    show ¬ _ > r.logical.length
    rw [hlen, List.length_take]
    omega
  have hnext : ¬ (headerOf r index).fragment_index ≠ index := not_not.mpr rfl
  unfold TraceReassembler.append opened partly fragmentAt
  dsimp only
  rw [if_neg hnext, if_neg hroom, take_slice]
  by_cases hmore : index + 1 < eventCount r
  · rw [if_pos hmore]
    exact if_pos hmore
  · have hall : r.logical.take ((index + 1) * 235) = r.logical := by
      rw [show index + 1 = eventCount r by omega, take_all]
    have hcomplete : ¬ r.logical.length ≠ (headerOf r index).logical_length := not_not.mpr rfl
    have hcrc : ¬ crc16 r.logical ≠ (headerOf r index).logical_crc16 :=
      not_not.mpr (crc16_eq r.logical)
    rw [if_neg hmore, hall, if_neg hcomplete, if_neg hcrc]
    exact if_neg hmore

theorem tryAccept_fragmentAt (hexpected : ∀ session ∈ expected, session = r.session_id.toNat)
    (hindex : index < eventCount r) :
    (partly expected r index).tryAccept (fragmentAt r index) =
      (opened expected r (index + 1),
        .ok (if index + 1 < eventCount r then none else some (hostRecord r))) := by
  have hsession : ¬ (expected.any fun session => decide (r.session_id.toNat ≠ session)) := by
    cases expected with
    | none => exact Bool.false_ne_true
    | some session =>
      rw [Option.any_some, decide_eq_true_eq, hexpected session rfl]
      exact not_not.mpr rfl
  rw [← append_fragmentAt hindex]
  unfold TraceReassembler.tryAccept
  rw [show (partly expected r index).expected_session_id = expected from rfl]
  cases index with
  | zero => exact if_neg hsession
  | succ index =>
    have hsame : TraceReassembler.sameRecord (headerOf r 0) (headerOf r (index + 1)) :=
      ⟨rfl, rfl, rfl, rfl, rfl, rfl, rfl, rfl⟩
    exact (if_neg hsession).trans (if_neg (not_not.mpr hsame))

/-- The reassembler waits for the first fragment of a record. -/
def idle (expected : Option Nat) : TraceReassembler where
  expected_session_id := expected

theorem partly_zero : partly expected r 0 = idle expected := rfl

theorem accept_fragmentAt (hexpected : ∀ session ∈ expected, session = r.session_id.toNat)
    (hmore : index + 1 < eventCount r) :
    (partly expected r index).accept (fragmentAt r index) = (partly expected r (index + 1), .ok none) := by
  unfold TraceReassembler.accept
  rw [tryAccept_fragmentAt hexpected (by omega), if_pos hmore]
  refine if_neg ?_
  rintro ⟨-, hcount⟩
  exact absurd hcount (Nat.ne_of_lt hmore)

theorem accept_last (hexpected : ∀ session ∈ expected, session = r.session_id.toNat)
    (hlast : index + 1 = eventCount r) :
    (partly expected r index).accept (fragmentAt r index) = (idle expected, .ok (some (hostRecord r))) := by
  have hmore : ¬ index + 1 < eventCount r := by omega
  have hcomplete : (opened expected r (index + 1)).header.isSome ∧
      (opened expected r (index + 1)).next_fragment = (fragmentAt r index).header.fragment_count :=
    ⟨rfl, hlast⟩
  unfold TraceReassembler.accept
  rw [tryAccept_fragmentAt hexpected (by omega), if_neg hmore]
  exact if_pos hcomplete

def hostEventId (r : LogicalRecord) : Nat := (Hil.eventId r.record_type).toNat

variable {a a' : TraceAssembler} {parsed : ParsedRecord}

theorem acceptEvent_payloadAt (hlen : r.logical.length ≤ Hil.kMaxLogicalRecordBytes)
    (hindex : index < eventCount r) (hopen : a.end = none) {s : TraceReassembler}
    {record : Option TraceRecord} :
    a.reassembler.accept (fragmentAt r index) = (s, .ok record) → a.acceptEvent (hostEventId r) (payloadAt r index) =
      match record with
      | none => ({ a with reassembler := s }, .ok none)
      | some record =>
        match parseRecord record with
        | .error text => ({ a with reassembler := s }, .error text)
        | .ok parsed =>
          match TraceAssembler.acceptRecord { a with reassembler := s } record parsed with
          | (a, .error text) => (a, .error text)
          | (a, .ok ()) => (a, .ok (some parsed)) := by
  intro hout
  have hid : ¬ (hostEventId r ≠ TRACE_FRAGMENT_EVENT ∧ hostEventId r ≠ OUTPUT_BLOCKED_EVENT) := by
    unfold hostEventId
    cases r.record_type <;> decide
  have hblocked : ¬ (hostType r.record_type = .outputBlocked ∧ hostEventId r ≠ OUTPUT_BLOCKED_EVENT) := by
    unfold hostEventId
    cases r.record_type <;> decide
  have hother : ¬ (hostType r.record_type ≠ .outputBlocked ∧ hostEventId r ≠ TRACE_FRAGMENT_EVENT) := by
    unfold hostEventId
    cases r.record_type <;> decide
  unfold TraceAssembler.acceptEvent
  rw [hopen, if_neg (by decide), if_neg hid, decodeFragment_payloadAt hlen hindex]
  dsimp only
  rw [show (headerOf r index).record_type = hostType r.record_type from rfl, if_neg hblocked,
    if_neg hother, show ({ header := headerOf r index, data := sliceOf r index } : TraceFragment) =
      fragmentAt r index from rfl, hout]
  cases record <;> rfl

def eventsOf (r : LogicalRecord) : List (Nat × List UInt8) :=
  (List.range (eventCount r)).map fun index => (hostEventId r, payloadAt r index)

theorem acceptEvents_from (hlen : r.logical.length ≤ Hil.kMaxLogicalRecordBytes)
    (hopen : a.end = none) (hexpected : ∀ session ∈ expected, session = r.session_id.toNat)
    (hparse : parseRecord (hostRecord r) = .ok parsed)
    (haccept : TraceAssembler.acceptRecord { a with reassembler := idle expected } (hostRecord r)
      parsed = (a', .ok ()))
    (events : List (Nat × List UInt8)) (k : Nat) (hk : index + (k + 1) = eventCount r) :
    TraceAssembler.acceptEvents { a with reassembler := partly expected r index }
        (((List.range' index (k + 1)).map fun index => (hostEventId r, payloadAt r index)) ++ events) =
      a'.acceptEvents events := by
  induction k generalizing index with
  | zero =>
    rw [List.range'_one, List.map_singleton, List.singleton_append, TraceAssembler.acceptEvents]
    have hevent := @acceptEvent_payloadAt r index { a with reassembler := partly expected r index } hlen
      (by omega) hopen _ _ (accept_last hexpected hk)
    rw [hevent]
    dsimp only
    rw [hparse]
    dsimp only
    rw [haccept]
  | succ k ih =>
    rw [List.range'_succ, List.map_cons, List.cons_append, TraceAssembler.acceptEvents]
    have hevent := @acceptEvent_payloadAt r index { a with reassembler := partly expected r index } hlen
      (by omega) hopen _ _ (accept_fragmentAt hexpected (by omega))
    rw [hevent]
    exact ih (by omega)

theorem acceptEvents_eventsOf (hlen : r.logical.length ≤ Hil.kMaxLogicalRecordBytes)
    (hopen : a.end = none) (hidle : a.reassembler = idle expected)
    (hexpected : ∀ session ∈ expected, session = r.session_id.toNat)
    (hparse : parseRecord (hostRecord r) = .ok parsed)
    (haccept : a.acceptRecord (hostRecord r) parsed = (a', .ok ()))
    (events : List (Nat × List UInt8)) :
    a.acceptEvents (eventsOf r ++ events) = a'.acceptEvents events := by
  obtain ⟨count, hcount⟩ : ∃ count, eventCount r = count + 1 := by
    have hpos := List.length_pos_of_ne_nil r.logical_ne
    refine ⟨eventCount r - 1, ?_⟩
    have := eventCount_eq r
    omega
  have hsame : { a with reassembler := idle expected } = a := by rw [← hidle]
  have hfrom := @acceptEvents_from r 0 expected a a' parsed hlen hopen hexpected hparse
    (hsame ▸ haccept) events count (by omega)
  rw [partly_zero, hsame, ← hcount] at hfrom
  unfold eventsOf
  rw [List.range_eq_range', hfrom]

end HexapodVerified.Host
