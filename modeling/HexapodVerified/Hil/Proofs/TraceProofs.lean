import HexapodVerified.Controller.Proofs.ReplayProofs
import HexapodVerified.Hil.Proofs.CaptureProofs
import HexapodVerified.Hil.Proofs.RecordProofs

/-!
# The records of a step

Two inputs with the same records can lead to different steps: the recorder leaves out fields that the
controller reads. They lead to the same step exactly when they agree on those of these fields that the
step looks at.
-/

namespace HexapodVerified.Hil

open HexapodVerified.Config HexapodVerified.Controller HexapodVerified.Safety Transition

section

variable {F : Type} [FloatArith F] {core : ControllerCore F} {ofBits : UInt32 → F}
  {inp inp' : ControllerStepInput} {n m : UInt32}

omit [FloatArith F] in
/-- With the same `Step` record, the controller reads the same input but for the six unrecorded fields and
the configuration. -/
theorem toStepInput_of_record (hrecord : stepInputRecord n inp = stepInputRecord m inp') :
    inp'.toStepInput ofBits =
      { (inp.toStepInput ofBits).withUnrecorded (inp'.toStepInput ofBits).unrecorded with
        config := inp'.config } := by
  obtain ⟨htime, hstate, hintent⟩ := stepInputRecord_inj hrecord
  unfold ControllerStepInput.toStepInput
  rw [htime, hstate, hintent]
  rfl

/-- **Completeness of the trace.** Two inputs with the same records lead to the same step exactly when
they agree on the unrecorded fields that the step looks at. -/
theorem replay_iff (hconfig : configRecord inp.config = configRecord inp'.config)
    (hrecord : stepInputRecord n inp = stepInputRecord m inp') :
    core.step (inp'.toStepInput ofBits) = core.step (inp.toStepInput ofBits) ↔
      (inp.time.valid = true →
        core.AgreeWhereRead (inp.toStepInput ofBits) (inp'.toStepInput ofBits)) := by
  obtain ⟨hrevision, hvalid, hpersistent, hrobot⟩ := configRecord_inj hconfig
  have happly : core.applyConfig inp'.config = core.applyConfig inp.config :=
    core.applyConfig_congr hrevision hvalid hpersistent hrobot
  rw [toStepInput_of_record hrecord, core.step_of_applyConfig _ happly,
    core.agree_of_applyConfig happly]
  exact core.step_eq_iff (inp.toStepInput ofBits)

/-- The value of the bits of a finite `float`. -/
def binary32Value (bits : UInt32) : ℚ :=
  let sign : ℚ := if bits.toNat.testBit 31 then -1 else 1
  let exponent : Nat := bits.toNat / 0x800000 % 0x100
  let fraction : Nat := bits.toNat % 0x800000
  if exponent = 0 then sign * fraction * 2 ^ (-149 : ℤ)
  else sign * (0x800000 + fraction : Nat) * 2 ^ ((exponent : ℤ) - 150)

noncomputable def binary32 (bits : UInt32) : ℝ := binary32Value bits

/-- `ControllerCommand{}` with another duty; the bits of `0.0F` are zero. -/
def restingCommand (duty : UInt32) : Input.ControllerCommand UInt32 where
  valid := false
  ever_seen := false
  gait_index := 0
  twist_vx := 0
  twist_vy := 0
  twist_wz := 0
  pose_x_mm := 0
  pose_y_mm := 0
  pose_z_mm := 0
  pose_roll := 0
  pose_pitch := 0
  pose_yaw := 0
  trim_roll := 0
  trim_pitch := 0
  speed := 0
  body_height := 0
  stride := 0
  step_height := 0
  duty
  gait_tune_active := false
  gait_tune_param := 0
  gait_tune_save_seq := 0
  trick := .none
  failsafe := true
  frame_ms := 0
  arm_request := false
  estop := true
  host_authority := false
  mode := .yaw
  gait_tune_edit_seq := 0
  gait_tune_last_edit_ms := 0
  capture_toggle_seq := 0
  capture_start_seq := 0
  feat_foot_contact := false
  feat_terrain_leveling := false
  feat_passive_pose := false

/-- `MotionIntent{}`. -/
def restingMotion : Controller.MotionIntent UInt32 where
  seq := 0
  gait := 0
  body_height_mm := 0
  stride_len_mm := 0
  step_height_mm := 0
  duty_x255 := 128
  speed_x255 := 128
  twist_vx := 0
  twist_vy := 0
  twist_wz := 0
  pose_x_mm := 0
  pose_y_mm := 0
  pose_z_mm := 0
  pose_roll := 0
  pose_pitch := 0
  pose_yaw := 0

/-- An armed robot with every servo covered, under the compiled configuration. -/
def checkedInput (arming_ready : Bool) (duty : UInt32) : ControllerStepInput where
  state :=
    { battery := { millivolts := 12000, valid := true, validity := .fresh }
      dxl :=
        { validity := .fresh
          configured_servo_coverage := true
          pose_known_mask := kAllServoPosesKnown
          arming_ready }
      config_ready := true }
  intent :=
    { rc := { command := restingCommand duty, ever_seen := true, kill := false, armed := true,
              failsafe := false }
      motion := restingMotion
      features := { jetson_control_enabled := true } }
  config := { robot := defaultRobotConfig, valid := true }
  time := { now_ms := 50, dt_ms := 10, valid := true }

/-- Boot, release of the arm switch and arming: the checks are pending. -/
noncomputable def checkingCore : ControllerCore ℝ :=
  (record ControllerCore.step ControllerCore.new.reset [] (armingSteps.take 4)).1

/-- The records of `checkedInput` do not tell the evidence or the duty. -/
theorem checkedInput_records (n : UInt32) (ready ready' : Bool) (duty duty' : UInt32) :
    configRecord (checkedInput ready duty).config = configRecord (checkedInput ready' duty').config ∧
      stepInputRecord n (checkedInput ready duty) = stepInputRecord n (checkedInput ready' duty') :=
  ⟨rfl, rfl⟩

/-- While the checks are pending nobody looks at the duty. -/
theorem replay_checking : checkingCore.step ((checkedInput true 0x3F000000).toStepInput binary32) =
    checkingCore.step ((checkedInput true 0).toStepInput binary32) := by
  obtain ⟨hconfig, hrecord⟩ := checkedInput_records 4 true true 0 0x3F000000
  refine (replay_iff hconfig hrecord).mpr fun _ => ⟨rfl, rfl, rfl, fun _ => rfl, fun _ => rfl, ?_⟩
  rintro - (hseen | hmoves)
  · exact nomatch hseen
  · have hstate : checkingCore.state_machine.state ∉ StateMachine.rcStates := by decide
    exact absurd hmoves.state hstate

/-- The evidence alone lets the robot stand up or keeps it in the checks, and the records are the
same. -/
theorem evidence_not_recorded : ∃ (h : List (ControllerEvent ℝ)) (core : ControllerCore ℝ)
    (inp inp' : ControllerStepInput), ControllerRun ControllerCore.new h core ∧
      configRecord inp.config = configRecord inp'.config ∧
      stepInputRecord 4 inp = stepInputRecord 4 inp' ∧
      (core.step (inp.toStepInput binary32)).2.safety_state = .armingChecks ∧
      (core.step (inp'.toStepInput binary32)).2.safety_state = .standReady := by
  have run : ControllerRun ControllerCore.new _ checkingCore :=
    run_record ControllerCore.step (armingSteps.take 4) .nil
  obtain ⟨hconfig, hrecord⟩ := checkedInput_records 4 false true 0 0
  refine ⟨_, checkingCore, checkedInput false 0, checkedInput true 0, run, hconfig, hrecord, ?_, ?_⟩
  · decide
  · decide

end

/-!
## A step fits the slot

The record of a step is as long as its goals are many, whatever else it holds, and the longest one is
shorter than the slot of the recorder. A step therefore never fails because its record is too large: a
capture that it ends too early finds the slot taken or a configuration that has changed.
-/

section

variable {r : TraceRecorder} {input : ControllerStepInput} {command : Controller.RobotCommand}
  {guard : OutputGuardStatus}

theorem length_stepRecord (step_sequence : UInt32) (input : ControllerStepInput)
    (hgoals : command.goals.joints.length ≤ kNumServos) :
    (stepRecord step_sequence input command).length = 844 + 6 * command.goals.joints.length := by
  unfold stepRecord
  rw [List.length_append, length_stepInputRecord, length_writeCommand, Nat.min_eq_right hgoals]
  omega

theorem publishStep_eq (r : TraceRecorder) (input : ControllerStepInput) (step_sequence : UInt32)
    (command : Controller.RobotCommand) : r.publishStep input step_sequence command =
      (filled .step (stepRecord step_sequence input command) r, true) := by
  have hle := length_stepRecord_le step_sequence input command
  refine write_of_fits r .step ?_ (hle.trans (by decide))
  unfold stepRecord
  rw [List.length_append, length_stepInputRecord]
  omega

theorem recordStep_end (r : TraceRecorder) (input : ControllerStepInput)
    (command : Controller.RobotCommand) (guard : OutputGuardStatus) :
    (r.recordStep input command guard).2 = true ∧
      ((r.recordStep input command guard).1.summary.active = r.summary.active ∨
        (r.recordStep input command guard).1.summary.end_reason = .complete) := by
  have hactive : (Hil.deferred r input command guard).summary.active = r.summary.active :=
    congrArg CaptureSummary.active (defers_deferred r input command guard).summary
  unfold TraceRecorder.recordStep
  dsimp only
  rw [publishStep_eq]
  dsimp only
  split
  · exact ⟨rfl, .inr rfl⟩
  · exact ⟨rfl, .inl hactive⟩

/-- What a capture ends too early for: the record before has not been fetched, the revision of the
configuration is another, or its payload is. -/
inductive Disturbed (r : TraceRecorder) (config : Controller.ControllerConfigSnapshot) : Prop where
  | occupied (hready : r.slot_ready = true) (hrecorded : r.summary.recorded_steps ≠ 0)
  | revision (hrevision : config.revision ≠ (adopted r config).config_revision)
  | payload (hvalid : config.valid = true)
      (hcrc : Protocol.crc16 (configPayload config) ≠ (adopted r config).config_payload_crc16)

theorem disturbed_of_overflow (hactive : r.summary.active = true)
    (hgoals : command.goals.joints.length ≤ kNumServos)
    (hended : (r.captureStep input command guard).1.summary.active = false)
    (hreason : (r.captureStep input command guard).1.summary.end_reason = .transportOverflow) :
    Disturbed r input.config := by
  revert hended hreason
  unfold TraceRecorder.captureStep
  rw [hactive, Bool.not_true, if_neg Bool.false_ne_true]
  by_cases hready : r.slot_ready = true
  · rw [if_pos hready]
    by_cases hfirst : r.summary.recorded_steps = 0
    · rw [if_pos hfirst]
      intro hended
      cases hactive.symm.trans hended
    · exact fun _ _ => .occupied hready hfirst
  rw [if_neg hready, if_neg (Nat.not_lt.mpr hgoals), adoptConfig_eq]
  have hsummary : (adopted r input.config).summary = r.summary := by
    unfold adopted
    split <;> rfl
  dsimp only
  by_cases hrevision : (input.config.revision != (adopted r input.config).config_revision) = true
  · exact fun _ _ => .revision (bne_iff_ne.mp hrevision)
  rw [if_neg hrevision]
  by_cases hpending : (adopted r input.config).config_pending = true
  · rw [if_pos hpending, publishConfig_eq]
    by_cases hmismatch : input.config.valid = true ∧
        Protocol.crc16 (configPayload input.config) ≠ (adopted r input.config).config_payload_crc16
    · exact fun _ _ => .payload hmismatch.1 hmismatch.2
    · obtain ⟨hpos, hle⟩ := length_entry {} (.config input.config)
      have hwrite : ∀ r' : TraceRecorder, r'.write .config (configRecord input.config) =
          (filled .config (configRecord input.config) r', true) := fun r' =>
        write_of_fits r' .config hpos hle
      rw [if_neg hmismatch, hwrite]
      intro hended
      have hsame : (adopted r input.config).summary.active = false := hended
      rw [hsummary, hactive] at hsame
      cases hsame
  · rw [if_neg hpending]
    obtain ⟨-, hsame | hcomplete⟩ := recordStep_end (adopted r input.config) input command guard
    · intro hended
      rw [hsame, hsummary] at hended
      cases hactive.symm.trans hended
    · intro _ hreason
      cases hcomplete.symm.trans hreason

/-- The record of a step is published whole, with a length that its goals determine, and a step does not
end a capture with an overflow unless the capture has been disturbed. -/
structure StepFits (r : TraceRecorder) (input : ControllerStepInput)
    (command : Controller.RobotCommand) (guard : OutputGuardStatus) : Prop where
  length : ∀ n, (stepRecord n input command).length = 844 + 6 * command.goals.joints.length
  fits : 844 + 6 * command.goals.joints.length ≤ kMaxLogicalRecordBytes
  published : ∀ n, (r.publishStep input n command).2 = true
  type : ∀ n, (r.publishStep input n command).1.slot_view.type = .step
  view : ∀ n, (r.publishStep input n command).1.slot_view.logical_length.toNat =
    844 + 6 * command.goals.joints.length
  whole : ∀ n, (r.publishStep input n command).1.slot.take
    (844 + 6 * command.goals.joints.length) = stepRecord n input command
  overflow : r.summary.active = true →
    (r.captureStep input command guard).1.summary.active = false →
    (r.captureStep input command guard).1.summary.end_reason = .transportOverflow →
    Disturbed r input.config

theorem step_fits_slot (r : TraceRecorder) (input : ControllerStepInput)
    {command : Controller.RobotCommand} (guard : OutputGuardStatus)
    (hgoals : command.goals.joints.length ≤ kNumServos) : StepFits r input command guard := by
  have hlength : ∀ n, (stepRecord n input command).length = 844 + 6 * command.goals.joints.length :=
    fun n => length_stepRecord n input hgoals
  have hgoals' : command.goals.joints.length ≤ 18 := hgoals
  have hfits : 844 + 6 * command.goals.joints.length ≤ 960 := by omega
  refine ⟨hlength, hfits, fun n => ?_, fun n => ?_, fun n => ?_, fun n => ?_,
    fun hactive => disturbed_of_overflow hactive hgoals⟩
  · rw [publishStep_eq]
  · rw [publishStep_eq]
    rfl
  · rw [publishStep_eq]
    show (UInt16.ofNat (stepRecord n input command).length).toNat = _
    rw [hlength, UInt16.toNat_ofNat', Nat.mod_eq_of_lt (by omega)]
  · rw [publishStep_eq, ← hlength n]
    exact take_overwrite_zero _ _

def allGoals : Controller.RobotCommand :=
  { goals := { joints := .replicate kNumServos {} } }

/-- The first step of a capture. -/
theorem step_fits_slot_first :
    StepFits (TraceRecorder.begin {} { session_id := 1, capture_id := 1, step_count := 1 } {} none).1
      (checkedInput true 0) allGoals {} :=
  step_fits_slot _ _ {} (by decide)

end

end HexapodVerified.Hil
