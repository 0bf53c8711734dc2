import HexapodVerified.Config.Proofs.ConfigApiProofs
import HexapodVerified.Hil.TraceOrder

/-!
# Logs and their records

A log is short, its records fit the slot, and they come in the order that the rule says.
-/

namespace HexapodVerified.Hil

open HexapodVerified.Config Codec Growth

variable {request : CaptureRequest} {log : List Entry} {entry last : Entry}

/-! ## Lengths -/

@[simp] theorem length_putU8 (v : UInt8) : (putU8 v).length = 1 := rfl

@[simp] theorem length_putBool (v : Bool) : (putBool v).length = 1 := rfl

@[simp] theorem length_putI8 (v : Int8) : (putI8 v).length = 1 := rfl

@[simp] theorem length_putI16 (v : Int16) : (putI16 v).length = 2 := rfl

@[simp] theorem length_putI32 (v : Int32) : (putI32 v).length = 4 := rfl

@[simp] theorem length_putEnum {α : Type} [DecidableEq α] (all : List α) (v : α) :
    (putEnum all v).length = 1 := rfl

theorem length_flatMap {α β : Type} {put : α → List β} {n : Nat} (hput : ∀ a, (put a).length = n)
    (l : List α) : (l.flatMap put).length = l.length * n := by
  rw [List.length_flatMap, List.map_congr_left fun a _ => hput a, List.map_const',
    List.sum_replicate_nat]

theorem length_putVector {α : Type} {put : α → List UInt8} {n m : Nat}
    (hput : ∀ a, (put a).length = n) (entries : Vector α m) :
    (putVector put entries).length = m * n := by
  unfold putVector
  rw [length_flatMap hput, Vector.length_toList]

@[simp] theorem length_writeGuard (guard : OutputGuardStatus) : (writeGuard guard).length = 26 := rfl

theorem length_writeServo (servo : Dxl.ServoStatus) : (writeServo servo).length = 19 := rfl

theorem length_writeFoot (foot : Sensors.LegContactState) : (writeFoot foot).length = 26 := rfl

theorem length_writeFootTarget (foot : Protocol.FootTarget) : (writeFootTarget foot).length = 9 := rfl

theorem length_writeGoal (goal : Gait.PipelineJoint) : (writeGoal goal).length = 6 := rfl

@[simp] theorem length_writeControllerCommand (command : Input.ControllerCommand UInt32) :
    (writeControllerCommand command).length = 76 := rfl

@[simp] theorem length_writeMotionIntent (intent : Controller.MotionIntent UInt32) :
    (writeMotionIntent intent).length = 49 := rfl

@[simp] theorem length_writeDiagnostics (diagnostics : Controller.ControllerDiagnostics) :
    (writeDiagnostics diagnostics).length = 19 := rfl

theorem length_writeJoints {α : Type} {put : α → List UInt8} {n : Nat} (hput : ∀ a, (put a).length = n)
    (field : Controller.MaintTarget → α) (joints : Protocol.JointTable) :
    (writeJoints put field joints).length = kNumLegs * (kJointsPerLeg * n) := by
  exact length_putVector (fun leg => length_putVector (fun target => hput (field target)) leg) joints

@[simp] theorem length_writeMaintenanceIntent (intent : MaintenanceIntent) :
    (writeMaintenanceIntent intent).length = 136 := by
  unfold writeMaintenanceIntent
  simp only [List.length_append, Bytes.putU32_length, length_putBool, length_putEnum,
    length_writeJoints Bytes.putU16_length, length_writeJoints length_putBool,
    length_putVector length_writeFootTarget]
  rfl

@[simp] theorem length_writeControllerIntent (intent : ControllerIntent) :
    (writeControllerIntent intent).length = 276 := by
  unfold writeControllerIntent
  simp only [List.length_append, length_putBool, length_writeControllerCommand,
    length_writeMotionIntent, length_writeMaintenanceIntent]

@[simp] theorem length_writeRobotState (state : RobotState) : (writeRobotState state).length = 519 := by
  unfold writeRobotState
  simp only [List.length_append, Bytes.putU16_length, Bytes.putU32_length, length_putBool,
    length_putEnum, length_putU8, length_putVector length_writeServo,
    length_putVector length_writeFoot]
  rfl

theorem length_stepInputRecord (step_sequence : UInt32) (input : ControllerStepInput) :
    (stepInputRecord step_sequence input).length = 814 := by
  unfold stepInputRecord
  simp only [List.length_append, Bytes.putU32_length, length_putBool, length_writeRobotState,
    length_writeControllerIntent]

theorem length_writeCommand (command : Controller.RobotCommand) :
    (writeCommand command).length = 30 + min kNumServos command.goals.joints.length * 6 := by
  unfold writeCommand
  simp only [List.length_append, length_putU8, length_putBool, length_putEnum,
    length_writeDiagnostics, length_flatMap length_writeGoal, List.length_take]
  omega

theorem length_stepRecord_le (step_sequence : UInt32) (input : ControllerStepInput)
    (command : Controller.RobotCommand) : (stepRecord step_sequence input command).length ≤ 952 := by
  unfold stepRecord
  rw [List.length_append, length_stepInputRecord, length_writeCommand]
  have hmin : min kNumServos command.goals.joints.length ≤ 18 := Nat.min_le_left ..
  omega

/-- The room of the slot is enough for any configuration. -/
theorem serialize_eq {max_len : Nat} (hcapacity : kConfigPayloadSize ≤ max_len) (robot : RobotConfig) :
    serializeRobotConfig robot max_len = payloadOf robot := serialize_of_le hcapacity

theorem configRecord_eq (config : Controller.ControllerConfigSnapshot) :
    configRecord config =
      Bytes.putU32 config.revision ++ (putBool config.valid ++ (putBool config.persistent ++
        (Bytes.putU16 (UInt16.ofNat (configPayload config).length) ++
          (Bytes.putU16 (if config.valid then Protocol.crc16 (configPayload config) else 0) ++
            configPayload config)))) := by
  have hcapacity : kConfigPayloadSize ≤ kMaxLogicalRecordBytes - 10 := by decide
  unfold configRecord configPayload
  rw [serialize_eq hcapacity]

theorem length_configPayload_le (config : Controller.ControllerConfigSnapshot) :
    (configPayload config).length ≤ kConfigPayloadSize := by
  unfold configPayload
  split
  · rw [length_payloadOf]
  · exact Nat.zero_le _

theorem length_configRecord (config : Controller.ControllerConfigSnapshot) :
    (configRecord config).length = 10 + (configPayload config).length := by
  rw [configRecord_eq]
  simp only [List.length_append, Bytes.putU32_length, Bytes.putU16_length, length_putBool]
  omega

theorem length_entry (request : CaptureRequest) (entry : Entry) :
    0 < (entry.bytes request).length ∧ (entry.bytes request).length ≤ kMaxLogicalRecordBytes := by
  cases entry with
  | begin revision crc guard =>
    show 0 < 46 ∧ 46 ≤ 960
    decide
  | config snapshot =>
    have hpayload := length_configPayload_le snapshot
    have hsize : kConfigPayloadSize ≤ 950 := by decide
    show 0 < (configRecord snapshot).length ∧ (configRecord snapshot).length ≤ 960
    rw [length_configRecord]
    omega
  | step step_sequence input command =>
    have hle := length_stepRecord_le step_sequence input command
    have hpos : 0 < (stepRecord step_sequence input command).length := by
      unfold stepRecord
      rw [List.length_append, length_stepInputRecord]
      omega
    exact ⟨hpos, Nat.le_trans hle (by decide)⟩
  | marker marker_id now_ms safety_state step_sequence =>
    show 0 < 13 ∧ 13 ≤ 960
    decide
  | outputBlocked step_sequence guard =>
    show 0 < 30 ∧ 30 ≤ 960
    decide
  | «end» reason recorded_steps high_water records fragments guard =>
    show 0 < 38 ∧ 38 ≤ 960
    decide

theorem stepCount_concat (log : List Entry) (entry : Entry) :
    stepCount (log ++ [entry]) = stepCount log + if entry.type = .step then 1 else 0 := by
  unfold stepCount
  rw [List.countP_append, List.countP_singleton]
  cases entry <;> rfl

theorem ended_concat : Ended (log ++ [entry]) ↔ entry.type = .end := by
  unfold Ended
  rw [List.getLast?_concat]
  simp

theorem not_ended_nil : ¬ Ended [] := by
  rintro ⟨last, hlast, -⟩
  cases hlast

/-- Nothing follows `End`. -/
theorem not_ended_of_follows (hfollows : Follows request log entry) : ¬ Ended log := by
  rintro ⟨last, hlast, hend⟩
  cases entry with
  | begin revision crc guard =>
    obtain rfl : log = [] := hfollows
    cases hlast
  | config snapshot =>
    obtain ⟨revision, crc, guard, rfl⟩ := hfollows
    cases hlast
    cases hend
  | step step_sequence input command =>
    obtain ⟨⟨before, hbefore, -, hnot⟩, -⟩ := hfollows
    rw [hlast, Option.some.injEq] at hbefore
    exact hnot (hbefore ▸ hend)
  | marker marker_id now_ms safety_state step_sequence =>
    obtain ⟨input, command, hbefore⟩ := hfollows
    rw [hlast, Option.some.injEq] at hbefore
    rw [hbefore] at hend
    cases hend
  | outputBlocked step_sequence guard =>
    obtain ⟨before, hbefore, hstep⟩ := hfollows
    rw [hlast, Option.some.injEq] at hbefore
    subst hbefore
    cases last <;> simp_all [Entry.type, Entry.stepBefore]
  | «end» reason recorded_steps high_water records fragments guard =>
    obtain ⟨⟨before, hbefore, hnot⟩, -⟩ := hfollows
    rw [hlast, Option.some.injEq] at hbefore
    exact hnot (hbefore ▸ hend)

/-- How many entries of a log can stand behind its last step, up to the last entry. -/
def Entry.rank : Entry → Nat
  | .begin .. => 1
  | .config _ => 2
  | .step .. => 0
  | .marker .. => 1
  | .outputBlocked .. => 2
  | .end .. => 3

theorem length_log_le (htrace : TraceLog request log) :
    ∀ last, log.getLast? = some last → log.length ≤ 3 * stepCount log + last.rank := by
  refine htrace.rec_on ?_ fun log entry _ hfollows ih last hlast => ?_
  · intro last hlast
    cases hlast
  rw [List.getLast?_concat, Option.some.injEq] at hlast
  subst hlast
  rw [List.length_append, List.length_singleton, stepCount_concat]
  cases entry with
  | begin revision crc guard =>
    obtain rfl : log = [] := hfollows
    exact Nat.le_refl 1
  | config snapshot =>
    obtain ⟨revision, crc, guard, rfl⟩ := hfollows
    exact Nat.le_refl 2
  | step step_sequence input command =>
    obtain ⟨⟨last, hlast, -, hend⟩, -⟩ := hfollows
    have hle := ih last hlast
    have hrank : last.rank ≤ 2 := by cases last <;> simp_all [Entry.rank, Entry.type]
    simp only [Entry.type, Entry.rank, if_true]
    omega
  | marker marker_id now_ms safety_state step_sequence =>
    obtain ⟨input, command, hlast⟩ := hfollows
    have hle := ih _ hlast
    simp only [Entry.type, Entry.rank, reduceCtorEq, if_false] at hle ⊢
    omega
  | outputBlocked step_sequence guard =>
    obtain ⟨last, hlast, hstep⟩ := hfollows
    have hle := ih last hlast
    have hrank : last.rank ≤ 1 := by cases last <;> simp_all [Entry.rank, Entry.stepBefore]
    simp only [Entry.type, Entry.rank, reduceCtorEq, if_false]
    omega
  | «end» reason recorded_steps high_water records fragments guard =>
    obtain ⟨⟨last, hlast, hend⟩, -⟩ := hfollows
    have hle := ih last hlast
    have hrank : last.rank ≤ 2 := by cases last <;> simp_all [Entry.rank, Entry.type]
    simp only [Entry.type, Entry.rank, reduceCtorEq, if_false]
    omega

theorem stepCount_le (htrace : TraceLog request log) : stepCount log ≤ request.step_count.toNat := by
  refine htrace.rec_on (Nat.zero_le _) fun log entry _ hfollows ih => ?_
  rw [stepCount_concat]
  cases entry with
  | step step_sequence input command =>
    obtain ⟨-, -, hroom, -⟩ := hfollows
    exact hroom
  | begin revision crc guard => exact ih
  | config snapshot => exact ih
  | marker marker_id now_ms safety_state step_sequence => exact ih
  | outputBlocked step_sequence guard => exact ih
  | «end» reason recorded_steps high_water records fragments guard => exact ih

theorem length_log_lt (htrace : TraceLog request log) (hbound : request.step_count ≤ kMaxCaptureSteps) :
    log.length ≤ 99 := by
  cases hlast : log.getLast? with
  | none =>
    rw [List.getLast?_eq_none_iff.mp hlast]
    exact Nat.zero_le _
  | some last =>
    have hle := length_log_le htrace last hlast
    have hsteps := stepCount_le htrace
    have hcount : request.step_count.toNat ≤ 32 := UInt8.le_iff_toNat_le.mp hbound
    have hrank : last.rank ≤ 3 := by cases last <;> simp [Entry.rank]
    omega

/-- The configuration is known once something other than `Begin` and `End` has come. -/
theorem config_mem (htrace : TraceLog request log) :
    ∀ last, log.getLast? = some last → last.type ≠ .begin → last.type ≠ .end →
      ∃ entry ∈ log, entry.type = .config := by
  refine htrace.rec_on ?_ fun log entry _ hfollows ih last hlast hbegin hend => ?_
  · intro last hlast
    cases hlast
  rw [List.getLast?_concat, Option.some.injEq] at hlast
  subst hlast
  have hbefore (last : Entry) (hlast : log.getLast? = some last) (hbegin : last.type ≠ .begin)
      (hend : last.type ≠ .end) : ∃ x ∈ log ++ [entry], x.type = .config := by
    obtain ⟨x, hx, htype⟩ := ih last hlast hbegin hend
    exact ⟨x, List.mem_append_left _ hx, htype⟩
  cases entry with
  | begin revision crc guard => exact absurd rfl hbegin
  | config snapshot => exact ⟨_, List.mem_append_right _ (List.mem_singleton_self _), rfl⟩
  | step step_sequence input command =>
    obtain ⟨⟨last, hlast, hlater, hopen⟩, -⟩ := hfollows
    exact hbefore last hlast hlater hopen
  | marker marker_id now_ms safety_state step_sequence =>
    obtain ⟨input, command, hlast⟩ := hfollows
    exact hbefore _ hlast nofun nofun
  | outputBlocked step_sequence guard =>
    obtain ⟨last, hlast, hstep⟩ := hfollows
    exact hbefore last hlast (by cases last <;> simp_all [Entry.type, Entry.stepBefore])
      (by cases last <;> simp_all [Entry.type, Entry.stepBefore])
  | «end» reason recorded_steps high_water records fragments guard => exact absurd rfl hend

theorem stepBefore_eq (htrace : TraceLog request log) :
    ∀ last step_sequence, log.getLast? = some last → last.stepBefore = some step_sequence →
      0 < stepCount log ∧ step_sequence.toNat = stepCount log := by
  refine htrace.rec_on ?_ fun log entry _ hfollows ih last step_sequence hlast hstep => ?_
  · intro last step_sequence hlast
    cases hlast
  rw [List.getLast?_concat, Option.some.injEq] at hlast
  subst hlast
  rw [stepCount_concat]
  cases entry with
  | begin revision crc guard => cases hstep
  | config snapshot => cases hstep
  | step n input command =>
    obtain ⟨-, hseq, -⟩ := hfollows
    cases hstep
    exact ⟨Nat.succ_pos _, hseq⟩
  | marker marker_id now_ms safety_state n =>
    obtain ⟨input, command, hlast⟩ := hfollows
    cases hstep
    exact ih _ _ hlast rfl
  | outputBlocked n guard => cases hstep
  | «end» reason recorded_steps high_water records fragments guard => cases hstep

theorem recordsOf_concat (request : CaptureRequest) (log : List Entry) (entry : Entry) :
    recordsOf request (log ++ [entry]) = recordsOf request log ++ [entry.record request log.length] := by
  unfold recordsOf
  rw [List.mapIdx_append, List.mapIdx_singleton, Nat.zero_add]

theorem length_recordsOf (request : CaptureRequest) (log : List Entry) :
    (recordsOf request log).length = log.length := List.length_mapIdx

theorem recordedSteps_recordsOf (request : CaptureRequest) (log : List Entry) :
    recordedSteps (recordsOf request log) = stepCount log := by
  induction log using List.reverseRecOn with
  | nil => rfl
  | append_singleton log entry ih =>
    unfold recordedSteps stepCount at ih ⊢
    rw [recordsOf_concat, List.countP_append, List.countP_append, ih]
    rfl

/-- A type is among the records exactly when it is in the log. -/
theorem mem_recordsOf {type : RecordType} :
    (∃ x ∈ recordsOf request log, x.view.type = type) ↔ ∃ x ∈ log, x.type = type := by
  constructor
  · rintro ⟨record, hrecord, htype⟩
    obtain ⟨count, hcount, rfl⟩ := List.mem_mapIdx.mp hrecord
    exact ⟨_, List.getElem_mem hcount, htype⟩
  · rintro ⟨entry, hentry, htype⟩
    obtain ⟨count, hcount, rfl⟩ := List.getElem_of_mem hentry
    exact ⟨_, List.mem_mapIdx.mpr ⟨count, hcount, rfl⟩, htype⟩

theorem not_mem_end (htrace : TraceLog request log) (hopen : ¬ Ended log) :
    ∀ entry ∈ log, entry.type ≠ .end := by
  intro entry hentry hend
  obtain ⟨earlier, later, rfl⟩ := List.append_of_mem hentry
  cases later with
  | nil => exact hopen (ended_concat.mpr hend)
  | cons next later =>
    have hprefix : TraceLog request (earlier ++ [entry] ++ next :: later) := by
      rw [List.append_assoc, List.singleton_append]
      exact htrace
    exact not_ended_of_follows hprefix.admitted (ended_concat.mpr hend)

theorem stepSequence_eq {n : UInt32} (count : Nat)
    (hentry : entry.stepBefore = some n ∨ ∃ guard, entry = .outputBlocked n guard) :
    (entry.record request count).stepSequence = n := by
  cases entry with
  | begin revision crc guard => simp [Entry.stepBefore] at hentry
  | config snapshot => simp [Entry.stepBefore] at hentry
  | step m input command =>
    obtain rfl : m = n := by simpa [Entry.stepBefore] using hentry
    exact Bytes.getU32_putU32 ..
  | marker marker_id now_ms safety_state m =>
    obtain rfl : m = n := by simpa [Entry.stepBefore] using hentry
    exact Bytes.getU32_putU32_self m
  | outputBlocked m guard =>
    obtain rfl : m = n := by simpa [Entry.stepBefore] using hentry
    exact Bytes.getU32_putU32 ..
  | «end» reason recorded_steps high_water records fragments guard =>
    simp [Entry.stepBefore] at hentry

theorem inOrder_recordsOf (hbound : request.step_count ≤ kMaxCaptureSteps)
    (htrace : TraceLog request log) : Grown (InOrder request) (recordsOf request log) := by
  refine htrace.rec_on grown_nil fun log entry htrace hfollows ih => ?_
  rw [recordsOf_concat]
  have hlength : log.length ≤ 99 := length_log_lt htrace hbound
  have hopen := not_ended_of_follows hfollows
  refine ih.concat ⟨rfl, rfl, ?_, ?_, ?_, ?_, ?_⟩
  · show (UInt32.ofNat (log.length + 1)).toNat = _
    rw [length_recordsOf, UInt32.toNat_ofNat', Nat.mod_eq_of_lt (by omega)]
  · show entry.type = .begin ↔ _
    rw [← List.length_eq_zero_iff, length_recordsOf, List.length_eq_zero_iff]
    constructor
    · intro hbegin
      cases entry <;> first | exact hfollows | cases hbegin
    · rintro rfl
      cases entry <;> simp_all [Follows, Entry.type]
  · intro hstep
    rw [recordedSteps_recordsOf, mem_recordsOf]
    cases entry with
    | step n input command =>
      obtain ⟨⟨last, hlast, hbegin, hend⟩, hseq, hroom, -⟩ := hfollows
      rw [stepSequence_eq log.length (.inl rfl)]
      exact ⟨config_mem htrace last hlast hbegin hend, hseq, hroom⟩
    | _ => cases hstep
  · intro hdeferred
    rw [recordedSteps_recordsOf]
    cases entry with
    | marker marker_id now_ms safety_state n =>
      obtain ⟨input, command, hlast⟩ := hfollows
      rw [stepSequence_eq log.length (.inl rfl)]
      exact stepBefore_eq htrace _ n hlast rfl
    | outputBlocked n guard =>
      obtain ⟨last, hlast, hstep⟩ := hfollows
      rw [stepSequence_eq log.length (.inr ⟨guard, rfl⟩)]
      exact stepBefore_eq htrace last n hlast hstep
    | _ => rcases hdeferred with h | h <;> cases h
  · intro record hrecord hend
    obtain ⟨entry, hentry, htype⟩ := mem_recordsOf.mp ⟨record, hrecord, hend⟩
    exact not_mem_end htrace hopen entry hentry htype

end HexapodVerified.Hil
