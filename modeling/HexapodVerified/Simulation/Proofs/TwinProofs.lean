import HexapodVerified.Lib.PastTime
import HexapodVerified.Simulation.SimulatedFirmware

/-!
# The simulation and the firmware

The motion commands leave the same request in both. The simulation has one variable where the firmware has several
latches: a command for arming or for the mode releases its emergency stop, and that of the firmware it does not.
-/

namespace HexapodVerified.Simulation

open HexapodVerified.Protocol Bytes FloatArith PastTime Transition

noncomputable def firmwarePi : ℝ := lit 3.14159265358979

def EstopAgrees (t : Twins ℝ) : Prop := t.sim.host_estop = t.control.estop

inductive MotionField where
  | gait | shape | twist | pose
  deriving DecidableEq, Repr

def Corresponds (motion : SimulatedMotionCommand ℝ) (intent : Controller.MotionIntent ℝ) : MotionField → Prop
  | .gait => motion.gait = intent.gait
  | .shape =>
    motion.body_height_m = ofUInt16 intent.body_height_mm / lit 1000 ∧
      motion.stride_length_m = ofUInt16 intent.stride_len_mm / lit 1000 ∧
      motion.step_height_m = ofUInt16 intent.step_height_mm / lit 1000 ∧
      motion.duty_factor = ofUInt8 intent.duty_x255 / lit 255 ∧
      motion.speed_scale = ofUInt8 intent.speed_x255 / lit 255
  | .twist =>
    motion.normalized_vx = intent.twist_vx ∧
      motion.normalized_vy = intent.twist_vy ∧
      motion.normalized_wz = intent.twist_wz
  | .pose =>
    motion.body_x_m = intent.pose_x_mm / lit 1000 ∧
      motion.body_y_m = intent.pose_y_mm / lit 1000 ∧
      motion.body_z_m = intent.pose_z_mm / lit 1000 ∧
      motion.roll_rad = intent.pose_roll ∧
      motion.pitch_rad = intent.pose_pitch ∧
      motion.yaw_rad = intent.pose_yaw

def Agrees (field : MotionField) (t : Twins ℝ) : Prop := Corresponds t.sim.motion t.motion.intent field

def fieldsOf (msg_id : UInt8) : List MotionField :=
  if msg_id = Motionmsg.kSetGait then [.gait]
  else if msg_id = Motionmsg.kSetGaitParams then [.shape]
  else if msg_id = Motionmsg.kSetBodyTwist then [.twist]
  else if msg_id = Motionmsg.kSetBodyPose then [.pose]
  else if msg_id = Motionmsg.kStopMotion then [.gait, .twist]
  else []

/-- The command sets the field; one for a gait does if there is that gait. -/
def Sets (field : MotionField) : TwinAction → Prop
  | .command msg_id payload =>
    field ∈ fieldsOf msg_id ∧ (msg_id = Motionmsg.kSetGait → payload.getD 0 0 < Motiongait.kCount)
  | _ => False

def Overwrites : TwinAction → Prop
  | .command msg_id payload =>
    msg_id = Ctrlmsg.kSetArming ∧ (payload.getD 0 0 = 0 ∨ payload.getD 0 0 = 1) ∨
      msg_id = Ctrlmsg.kSetMode ∧ payload.getD 0 0 = SafetyState.DISARMED
  | _ => False

theorem command_cases {msg_id : UInt8} {n : Nat} (hlength : documentedLength msg_id = some n) :
    (msg_id = Ctrlmsg.kEstop ∨ msg_id = Ctrlmsg.kClearFault ∨
      msg_id = Ctrlmsg.kSetArming ∧ n = 1 ∨ msg_id = Ctrlmsg.kSetMode ∧ n = 1) ∨
    (msg_id = Motionmsg.kSetGait ∧ n = 1 ∨ msg_id = Motionmsg.kSetGaitParams ∧ n = 8 ∨
      msg_id = Motionmsg.kSetBodyTwist ∧ n = 6 ∨ msg_id = Motionmsg.kSetBodyPose ∧ n = 12 ∨
      msg_id = Motionmsg.kStopMotion) := by
  unfold documentedLength at hlength
  split_ifs at hlength with h₀ h₁ h₈ h₆ h₁₂ <;> cases hlength
  · rcases h₀ with h | h | h
    · exact .inl (.inl h)
    · exact .inl (.inr (.inl h))
    · exact .inr (.inr (.inr (.inr (.inr h))))
  · rcases h₁ with h | h | h
    · exact .inl (.inr (.inr (.inl ⟨h, rfl⟩)))
    · exact .inl (.inr (.inr (.inr ⟨h, rfl⟩)))
    · exact .inr (.inl ⟨h, rfl⟩)
  · exact .inr (.inr (.inl ⟨h₈, rfl⟩))
  · exact .inr (.inr (.inr (.inl ⟨h₆, rfl⟩)))
  · exact .inr (.inr (.inr (.inr (.inl ⟨h₁₂, rfl⟩))))

section Commands

variable (pi : ℝ) {msg_id : UInt8} {payload : List UInt8} (sim : SimulatedFirmware ℝ) (control : ControlApi)

theorem handleMotion_state : (sim.handleMotion pi msg_id payload).1.state = sim.state := by
  unfold SimulatedFirmware.handleMotion
  dsimp only
  split <;> rfl

theorem handleCommand_of_control (hcontrol : Ctrlmsg.isControlMsg msg_id = true) :
    sim.handleCommand pi msg_id payload = (sim.handleControl msg_id payload).1 := if_pos hcontrol

theorem handleCommand_of_motion (hcontrol : Ctrlmsg.isControlMsg msg_id = false)
    (hmotion : Motionmsg.isMotionMsg msg_id = true) :
    sim.handleCommand pi msg_id payload = (sim.handleMotion pi msg_id payload).1 := by
  unfold SimulatedFirmware.handleCommand
  rw [hcontrol, if_neg Bool.false_ne_true, if_pos hmotion]

/-- Only the four control commands concern the emergency stops. -/
theorem not_overwrites_of_ne (harming : msg_id ≠ Ctrlmsg.kSetArming) (hmode : msg_id ≠ Ctrlmsg.kSetMode) :
    ¬ Overwrites (.command msg_id payload) := by
  rintro (⟨h, -⟩ | ⟨h, -⟩)
  · exact harming h
  · exact hmode h

theorem setArming_estops (hlength : payload.length = 1) :
    (sim.handleCommand pi Ctrlmsg.kSetArming payload).host_estop =
        (if payload.getD 0 0 = 0 ∨ payload.getD 0 0 = 1 then false else sim.host_estop) ∧
      (control.handle Ctrlmsg.kSetArming payload kMaxPayload).1.estop = control.estop := by
  constructor
  · rw [handleCommand_of_control pi sim rfl]
    show ((sim.controlResult Ctrlmsg.kSetArming payload).2 == SafetyState.ESTOP) = _
    have hresult : sim.controlResult Ctrlmsg.kSetArming payload =
        if payload.length ≠ 1 ∨ ¬ (payload.getD 0 0 = 0 ∨ payload.getD 0 0 = 1) then (.badRequest, sim.state)
        else (.ok, if payload.getD 0 0 = 1 then SafetyState.RC_MANUAL else SafetyState.DISARMED) := rfl
    rw [hresult]
    by_cases hknown : payload.getD 0 0 = 0 ∨ payload.getD 0 0 = 1
    · have htaken : ¬ (payload.length ≠ 1 ∨ ¬ (payload.getD 0 0 = 0 ∨ payload.getD 0 0 = 1)) :=
        not_or.mpr ⟨not_not.mpr hlength, not_not.mpr hknown⟩
      rw [if_pos hknown, if_neg htaken]
      split_ifs <;> rfl
    · rw [if_neg hknown, if_pos (.inr hknown)]
      rfl
  · show (control.handleSetArming payload).1.estop = _
    unfold ControlApi.handleSetArming
    split_ifs <;> rfl

theorem setMode_estops (hlength : payload.length = 1) :
    (sim.handleCommand pi Ctrlmsg.kSetMode payload).host_estop =
        (if payload.getD 0 0 = SafetyState.DISARMED then false
        else if payload.getD 0 0 = SafetyState.ESTOP then true else sim.host_estop) ∧
      (control.handle Ctrlmsg.kSetMode payload kMaxPayload).1.estop =
        (if payload.getD 0 0 = SafetyState.ESTOP then true else control.estop) := by
  constructor
  · rw [handleCommand_of_control pi sim rfl]
    show ((sim.controlResult Ctrlmsg.kSetMode payload).2 == SafetyState.ESTOP) = _
    have hresult : sim.controlResult Ctrlmsg.kSetMode payload =
        if payload.length ≠ 1 then (.badRequest, sim.state)
        else if payload.getD 0 0 = SafetyState.DISARMED then (.ok, SafetyState.DISARMED)
        else if payload.getD 0 0 = SafetyState.ESTOP then (.ok, SafetyState.ESTOP)
        else (.rejected, sim.state) := rfl
    rw [hresult, if_neg (not_not.mpr hlength)]
    split_ifs <;> rfl
  · have hlong : ¬ payload.length < 1 := by omega
    show (control.handleSetMode payload).1.estop = _
    unfold ControlApi.handleSetMode
    rw [if_neg hlong]
    dsimp only
    split_ifs <;> rfl

theorem motion_estops (hcontrol : Ctrlmsg.isControlMsg msg_id = false) (hmotion : Motionmsg.isMotionMsg msg_id = true) :
    (sim.handleCommand pi msg_id payload).host_estop = sim.host_estop ∧
      (control.handle msg_id payload kMaxPayload).1.estop = control.estop := by
  constructor
  · rw [handleCommand_of_motion pi sim hcontrol hmotion]
    unfold SimulatedFirmware.host_estop
    rw [handleMotion_state]
  · unfold ControlApi.handle
    rw [hcontrol]
    rfl

end Commands

/-- A step keeps the emergency stops alike, unless it arms or disarms while that of the firmware is latched. -/
theorem estopAgrees_step {pi : ℝ} {s t : Twins ℝ} {action : TwinAction} (hstep : TwinStep pi s action t)
    (hagrees : EstopAgrees s) : EstopAgrees t ↔ ¬ (s.control.estop = true ∧ Overwrites action) := by
  unfold EstopAgrees at hagrees ⊢
  cases hstep with
  | @command msg_id payload hlength =>
    rcases command_cases hlength with (rfl | rfl | ⟨rfl, hone⟩ | ⟨rfl, hone⟩) | hmotion
    · exact iff_of_true rfl fun h => not_overwrites_of_ne (by decide) (by decide) h.2
    · exact iff_of_true rfl fun h => not_overwrites_of_ne (by decide) (by decide) h.2
    · obtain ⟨hsim, hcontrol⟩ := setArming_estops pi s.sim s.control hone
      rw [hsim, hcontrol]
      by_cases hknown : payload.getD 0 0 = 0 ∨ payload.getD 0 0 = 1
      · have hover : Overwrites (.command Ctrlmsg.kSetArming payload) := .inl ⟨rfl, hknown⟩
        rw [if_pos hknown]
        cases s.control.estop <;> simp [hover]
      · rw [if_neg hknown]
        refine iff_of_true hagrees ?_
        rintro ⟨-, ⟨-, hover⟩ | ⟨hmode, -⟩⟩
        · exact hknown hover
        · cases hmode
    · obtain ⟨hsim, hcontrol⟩ := setMode_estops pi s.sim s.control hone
      rw [hsim, hcontrol]
      by_cases hdisarmed : payload.getD 0 0 = SafetyState.DISARMED
      · have hover : Overwrites (.command Ctrlmsg.kSetMode payload) := .inr ⟨rfl, hdisarmed⟩
        have hestop : payload.getD 0 0 ≠ SafetyState.ESTOP := by
          rw [hdisarmed]
          decide
        rw [if_pos hdisarmed, if_neg hestop]
        cases s.control.estop <;> simp [hover]
      · rw [if_neg hdisarmed]
        refine iff_of_true (by rw [hagrees]) ?_
        rintro ⟨-, ⟨harming, -⟩ | ⟨-, hover⟩⟩
        · cases harming
        · exact hdisarmed hover
    · have hids : Ctrlmsg.isControlMsg msg_id = false ∧ Motionmsg.isMotionMsg msg_id = true ∧
          msg_id ≠ Ctrlmsg.kSetArming ∧ msg_id ≠ Ctrlmsg.kSetMode := by
        rcases hmotion with ⟨rfl, -⟩ | ⟨rfl, -⟩ | ⟨rfl, -⟩ | ⟨rfl, -⟩ | rfl <;> decide
      obtain ⟨hsim, hcontrol⟩ := motion_estops pi s.sim s.control hids.1 hids.2.1
      rw [hsim, hcontrol]
      exact iff_of_true hagrees fun h => not_overwrites_of_ne hids.2.2.1 hids.2.2.2 h.2
  | publish hpassive => exact iff_of_true hagrees fun h => h.2
  | consumeClearFault | consumeJetsonHeartbeat => exact iff_of_true hagrees fun h => h.2

/-! ## The motion -/

theorem clamp_exact {x lo hi : ℝ} (hle : lo ≤ hi) : clamp x lo hi = clampf x lo hi := by
  rw [clampf_exact hle]
  unfold clamp fmax fmin
  simp only [lt_exact]
  rcases lt_or_ge x hi with hlow | hhigh
  · rw [if_pos hlow, min_eq_right hlow.le]
    split_ifs with hin
    · exact (max_eq_right hin.le).symm
    · exact (max_eq_left (not_lt.mp hin)).symm
  · rw [if_neg (not_lt.mpr hhigh), min_eq_left hhigh, max_eq_right hle]
    split_ifs with hin
    · rfl
    · exact le_antisymm hle (not_lt.mp hin)

theorem min_eq_clampU16 (v hi : UInt16) : min v hi = clampU16 v hi := by
  show (if v ≤ hi then v else hi) = if v > hi then hi else v
  by_cases hover : v > hi
  · rw [if_pos hover, if_neg (UInt16.not_le.mpr hover)]
  · rw [if_neg hover, if_pos (UInt16.not_lt.mp hover)]

theorem component_eq (p : List UInt8) : clamp (ofInt16 (getU16 p).toInt16 / lit 1000) (-lit 1) (lit 1) =
    (twistFromMilli (readMotionI16 p) : ℝ) := by
  refine clamp_exact ?_
  simp only [lit_exact]
  norm_num

theorem offset_eq (p : List UInt8) : clamp (ofInt16 (getU16 p).toInt16) (-lit 50) (lit 50) = (poseTrans p : ℝ) := by
  refine clamp_exact ?_
  simp only [lit_exact]
  norm_num

theorem rotation_eq (p : List UInt8) : clamp (radians firmwarePi (ofInt16 (getU16 p).toInt16 / lit 1000))
    (-lit 0.4363) (lit 0.4363) = (poseRot p : ℝ) := by
  have hangle (v : ℝ) : radians firmwarePi (v / lit 1000) = v * (lit 3.14159265358979 / lit 180000) := by
    unfold radians firmwarePi
    simp only [lit_exact]
    ring
  rw [clamp_exact (by simp only [lit_exact]; norm_num), hangle]
  rfl

section Motion

variable {pi : ℝ} {msg_id : UInt8} {payload : List UInt8} {sim : SimulatedFirmware ℝ} {api : MotionApi ℝ}

theorem motion_of_ok {motion : SimulatedMotionCommand ℝ} (hcontrol : Ctrlmsg.isControlMsg msg_id = false)
    (hmotion : Motionmsg.isMotionMsg msg_id = true) (hok : sim.motionResult pi msg_id payload = .ok motion) :
    (sim.handleCommand pi msg_id payload).motion = { motion with sequence := motion.sequence + 1 } := by
  rw [handleCommand_of_motion pi sim hcontrol hmotion]
  unfold SimulatedFirmware.handleMotion
  rw [hok]

theorem motion_of_error {result : MotionResult} (hcontrol : Ctrlmsg.isControlMsg msg_id = false)
    (hmotion : Motionmsg.isMotionMsg msg_id = true) (herror : sim.motionResult pi msg_id payload = .error result) :
    (sim.handleCommand pi msg_id payload).motion = sim.motion := by
  rw [handleCommand_of_motion pi sim hcontrol hmotion]
  unfold SimulatedFirmware.handleMotion
  rw [herror]

theorem motion_of_control (hcontrol : Ctrlmsg.isControlMsg msg_id = true)
    (hmotion : Motionmsg.isMotionMsg msg_id = false) :
    (sim.handleCommand pi msg_id payload).motion = sim.motion ∧ (api.handle msg_id payload kMaxPayload).1 = api := by
  constructor
  · rw [handleCommand_of_control pi sim hcontrol]
    rfl
  · unfold MotionApi.handle
    rw [hmotion]
    rfl

theorem handle_active (hmotion : Motionmsg.isMotionMsg msg_id = true)
    (hactive : api.live_state ≠ Motionstate.kPassivePoseStream) : api.handle msg_id payload kMaxPayload =
      if msg_id = Motionmsg.kSetGait then (api.handleSetGait payload kMaxPayload).map id some
      else if msg_id = Motionmsg.kSetGaitParams then (api.handleSetGaitParams payload kMaxPayload).map id some
      else if msg_id = Motionmsg.kSetBodyTwist then (api.handleSetBodyTwist payload kMaxPayload).map id some
      else if msg_id = Motionmsg.kSetBodyPose then (api.handleSetBodyPose payload kMaxPayload).map id some
      else if msg_id = Motionmsg.kStopMotion then (api.handleStopMotion kMaxPayload).map id some
      else (api, none) := by
  unfold MotionApi.handle
  rw [hmotion, if_neg (by decide), if_neg fun h => hactive h.1]

theorem setGait_effect (hactive : api.live_state ≠ Motionstate.kPassivePoseStream) (hlength : payload.length = 1) :
    (payload.getD 0 0 < Motiongait.kCount ∧
      (sim.handleCommand pi Motionmsg.kSetGait payload).motion =
        { sim.motion with gait := payload.getD 0 0, sequence := sim.motion.sequence + 1 } ∧
      (api.handle Motionmsg.kSetGait payload kMaxPayload).1.intent =
        { api.intent with gait := payload.getD 0 0, seq := api.intent.seq + 1 }) ∨
    (¬ payload.getD 0 0 < Motiongait.kCount ∧
      (sim.handleCommand pi Motionmsg.kSetGait payload).motion = sim.motion ∧
      (api.handle Motionmsg.kSetGait payload kMaxPayload).1.intent = api.intent) := by
  have hshort : ¬ payload.length < 1 := by omega
  have hresult : sim.motionResult pi Motionmsg.kSetGait payload =
      if payload.length < 1 then .error .badRequest
      else if payload.getD 0 0 ≥ Motiongait.kCount then .error .rejected
      else .ok { sim.motion with gait := payload.getD 0 0 } := rfl
  have hhandle : (api.handle Motionmsg.kSetGait payload kMaxPayload).1 = (api.handleSetGait payload kMaxPayload).1 := by
    rw [handle_active rfl hactive]
    rfl
  rw [hhandle]
  unfold MotionApi.handleSetGait
  rw [if_neg hshort] at hresult ⊢
  by_cases hunknown : payload.getD 0 0 ≥ Motiongait.kCount
  · refine .inr ⟨UInt8.not_lt.mpr hunknown, ?_, ?_⟩
    · rw [if_pos hunknown] at hresult
      exact motion_of_error rfl rfl hresult
    · rw [if_pos hunknown]
  · refine .inl ⟨UInt8.not_le.mp hunknown, ?_, ?_⟩
    · rw [if_neg hunknown] at hresult
      exact motion_of_ok rfl rfl hresult
    · rw [if_neg hunknown]
      rfl

theorem setGaitParams_effect (hactive : api.live_state ≠ Motionstate.kPassivePoseStream)
    (hlength : payload.length = 8) :
    (sim.handleCommand pi Motionmsg.kSetGaitParams payload).motion =
        { sim.motion with
          sequence := sim.motion.sequence + 1
          body_height_m := ofUInt16 (clampU16 (getU16 payload) Motionlim.kMaxBodyHeightMm) / lit 1000
          stride_length_m := ofUInt16 (clampU16 (getU16 (payload.drop 2)) Motionlim.kMaxStrideMm) / lit 1000
          step_height_m := ofUInt16 (clampU16 (getU16 (payload.drop 4)) Motionlim.kMaxStepMm) / lit 1000
          duty_factor := ofUInt8 (payload.getD 6 0) / lit 255
          speed_scale := ofUInt8 (payload.getD 7 0) / lit 255 } ∧
      (api.handle Motionmsg.kSetGaitParams payload kMaxPayload).1.intent =
        { api.intent with
          seq := api.intent.seq + 1
          body_height_mm := clampU16 (getU16 payload) Motionlim.kMaxBodyHeightMm
          stride_len_mm := clampU16 (getU16 (payload.drop 2)) Motionlim.kMaxStrideMm
          step_height_mm := clampU16 (getU16 (payload.drop 4)) Motionlim.kMaxStepMm
          duty_x255 := payload.getD 6 0
          speed_x255 := payload.getD 7 0 } := by
  have hshort : ¬ payload.length < 8 := by omega
  constructor
  · have hok : sim.motionResult pi Motionmsg.kSetGaitParams payload = .ok _ := if_neg hshort
    rw [motion_of_ok rfl rfl hok, min_eq_clampU16, min_eq_clampU16, min_eq_clampU16]
  · rw [handle_active rfl hactive]
    show (api.handleSetGaitParams payload kMaxPayload).1.intent = _
    unfold MotionApi.handleSetGaitParams
    rw [if_neg hshort]
    rfl

theorem setBodyTwist_effect (hactive : api.live_state ≠ Motionstate.kPassivePoseStream) (hlength : payload.length = 6) :
    (sim.handleCommand pi Motionmsg.kSetBodyTwist payload).motion =
        { sim.motion with
          sequence := sim.motion.sequence + 1
          normalized_vx := twistFromMilli (readMotionI16 payload)
          normalized_vy := twistFromMilli (readMotionI16 (payload.drop 2))
          normalized_wz := twistFromMilli (readMotionI16 (payload.drop 4)) } ∧
      (api.handle Motionmsg.kSetBodyTwist payload kMaxPayload).1.intent =
        { api.intent with
          seq := api.intent.seq + 1
          twist_vx := twistFromMilli (readMotionI16 payload)
          twist_vy := twistFromMilli (readMotionI16 (payload.drop 2))
          twist_wz := twistFromMilli (readMotionI16 (payload.drop 4)) } := by
  have hshort : ¬ payload.length < 6 := by omega
  constructor
  · have hok : sim.motionResult pi Motionmsg.kSetBodyTwist payload = .ok _ := if_neg hshort
    rw [motion_of_ok rfl rfl hok]
    simp only [component_eq]
  · rw [handle_active rfl hactive]
    show (api.handleSetBodyTwist payload kMaxPayload).1.intent = _
    unfold MotionApi.handleSetBodyTwist
    rw [if_neg hshort]
    rfl

theorem setBodyPose_effect (hactive : api.live_state ≠ Motionstate.kPassivePoseStream) (hlength : payload.length = 12) :
    (sim.handleCommand firmwarePi Motionmsg.kSetBodyPose payload).motion =
        { sim.motion with
          sequence := sim.motion.sequence + 1
          body_x_m := poseTrans payload / lit 1000
          body_y_m := poseTrans (payload.drop 2) / lit 1000
          body_z_m := poseTrans (payload.drop 4) / lit 1000
          roll_rad := poseRot (payload.drop 6)
          pitch_rad := poseRot (payload.drop 8)
          yaw_rad := poseRot (payload.drop 10) } ∧
      (api.handle Motionmsg.kSetBodyPose payload kMaxPayload).1.intent =
        { api.intent with
          seq := api.intent.seq + 1
          pose_x_mm := poseTrans payload
          pose_y_mm := poseTrans (payload.drop 2)
          pose_z_mm := poseTrans (payload.drop 4)
          pose_roll := poseRot (payload.drop 6)
          pose_pitch := poseRot (payload.drop 8)
          pose_yaw := poseRot (payload.drop 10) } := by
  have hshort : ¬ payload.length < 12 := by omega
  constructor
  · have hok : sim.motionResult firmwarePi Motionmsg.kSetBodyPose payload = .ok _ := if_neg hshort
    rw [motion_of_ok rfl rfl hok]
    simp only [offset_eq, rotation_eq]
  · rw [handle_active rfl hactive]
    show (api.handleSetBodyPose payload kMaxPayload).1.intent = _
    unfold MotionApi.handleSetBodyPose
    rw [if_neg hshort]
    rfl

theorem stopMotion_effect (hactive : api.live_state ≠ Motionstate.kPassivePoseStream) :
    (sim.handleCommand pi Motionmsg.kStopMotion payload).motion =
        { sim.motion with
          sequence := sim.motion.sequence + 1
          gait := Motiongait.kStand
          normalized_vx := lit 0
          normalized_vy := lit 0
          normalized_wz := lit 0 } ∧
      (api.handle Motionmsg.kStopMotion payload kMaxPayload).1.intent =
        { api.intent with
          seq := api.intent.seq + 1
          gait := Motiongait.kStand
          twist_vx := lit 0
          twist_vy := lit 0
          twist_wz := lit 0 } := by
  constructor
  · exact motion_of_ok rfl rfl (rfl : sim.motionResult pi Motionmsg.kStopMotion payload = .ok _)
  · rw [handle_active rfl hactive]
    rfl

end Motion

section Fields

variable {field : MotionField} {msg_id : UInt8} {payload : List UInt8} {sim : SimulatedFirmware ℝ} {api : MotionApi ℝ}

theorem handle_live_state (out_cap : Nat) : (api.handle msg_id payload out_cap).1.live_state = api.live_state := by
  unfold MotionApi.handle MotionApi.handleSetGait MotionApi.handleSetGaitParams MotionApi.handleSetBodyTwist
    MotionApi.handleSetBodyPose MotionApi.handleStopMotion
  dsimp only
  split_ifs <;> rfl

theorem corresponds_handle
    (hmotion : msg_id = Motionmsg.kSetGait ∧ payload.length = 1 ∨
      msg_id = Motionmsg.kSetGaitParams ∧ payload.length = 8 ∨
      msg_id = Motionmsg.kSetBodyTwist ∧ payload.length = 6 ∨
      msg_id = Motionmsg.kSetBodyPose ∧ payload.length = 12 ∨ msg_id = Motionmsg.kStopMotion)
    (hactive : api.live_state ≠ Motionstate.kPassivePoseStream)
    (hfield : Sets field (.command msg_id payload) ∨ Corresponds sim.motion api.intent field) :
    Corresponds (sim.handleCommand firmwarePi msg_id payload).motion (api.handle msg_id payload kMaxPayload).1.intent
      field := by
  rcases hmotion with ⟨rfl, hone⟩ | ⟨rfl, height⟩ | ⟨rfl, hsix⟩ | ⟨rfl, htwelve⟩ | rfl
  · rcases setGait_effect hactive hone with ⟨-, hsim, hintent⟩ | ⟨hunknown, hsim, hintent⟩
    · rw [hsim, hintent]
      cases field with
      | gait => rfl
      | shape | twist | pose => exact hfield.resolve_left fun h => nomatch h.1
    · rw [hsim, hintent]
      refine hfield.resolve_left fun hsets => ?_
      cases field with
      | gait => exact hunknown (hsets.2 rfl)
      | shape | twist | pose => nomatch hsets.1
  · obtain ⟨hsim, hintent⟩ := setGaitParams_effect hactive height
    rw [hsim, hintent]
    cases field with
    | shape => exact ⟨rfl, rfl, rfl, rfl, rfl⟩
    | gait => exact hfield.resolve_left fun h => nomatch h.1
    | twist | pose => exact hfield.resolve_left fun h => nomatch h.1
  · obtain ⟨hsim, hintent⟩ := setBodyTwist_effect hactive hsix
    rw [hsim, hintent]
    cases field with
    | twist => exact ⟨rfl, rfl, rfl⟩
    | gait | shape | pose => exact hfield.resolve_left fun h => nomatch h.1
  · obtain ⟨hsim, hintent⟩ := setBodyPose_effect hactive htwelve
    rw [hsim, hintent]
    cases field with
    | pose => exact ⟨rfl, rfl, rfl, rfl, rfl, rfl⟩
    | gait | shape | twist => exact hfield.resolve_left fun h => nomatch h.1
  · obtain ⟨hsim, hintent⟩ := stopMotion_effect hactive
    rw [hsim, hintent]
    cases field with
    | gait => rfl
    | twist => exact ⟨rfl, rfl, rfl⟩
    | shape | pose => exact hfield.resolve_left fun h => nomatch h.1

end Fields

/-- Both after their construction; the interface of the firmware has some intent. -/
noncomputable def start (motion : MotionApi ℝ) : Twins ℝ := { sim := .new, control := {}, motion }

abbrev TwinEvent := Event (Twins ℝ) TwinAction

section Runs

variable {s t : Twins ℝ} {action : TwinAction} {motion : MotionApi ℝ} {h : List TwinEvent}

theorem agrees_step {field : MotionField} (hstep : TwinStep firmwarePi s action t)
    (hactive : s.motion.live_state ≠ Motionstate.kPassivePoseStream)
    (hfield : Sets field action ∨ Agrees field s) : Agrees field t := by
  cases hstep with
  | @command msg_id payload hlength =>
    rcases command_cases hlength with hcontrol | hmotion
    · have hids : Ctrlmsg.isControlMsg msg_id = true ∧ Motionmsg.isMotionMsg msg_id = false ∧ fieldsOf msg_id = [] := by
        rcases hcontrol with rfl | rfl | ⟨rfl, -⟩ | ⟨rfl, -⟩ <;> decide
      obtain ⟨hsim, hintent⟩ := @motion_of_control firmwarePi msg_id payload s.sim s.motion hids.1 hids.2.1
      have hunset : ¬ Sets field (.command msg_id payload) := fun hsets => by
        rw [Sets, hids.2.2] at hsets
        nomatch hsets.1
      unfold Agrees
      rw [hsim, hintent]
      exact hfield.resolve_left hunset
    · exact corresponds_handle hmotion hactive hfield
  | publish hpassive => exact hfield.resolve_left id
  | consumeClearFault | consumeJetsonHeartbeat => exact hfield.resolve_left id

/-- Only the command that clears a fault releases the emergency stop of the firmware. -/
theorem released_by_clearFault {pi : ℝ} (hstep : TwinStep pi s action t) (hlatched : s.control.estop = true)
    (hreleased : t.control.estop = false) : ∃ payload, action = .command Ctrlmsg.kClearFault payload := by
  cases hstep with
  | @command msg_id payload hlength =>
    rcases command_cases hlength with (rfl | rfl | ⟨rfl, hone⟩ | ⟨rfl, hone⟩) | hmotion
    · exact nomatch hreleased
    · exact ⟨payload, rfl⟩
    · have hkept := (setArming_estops pi s.sim s.control hone).2
      exact absurd (hreleased.symm.trans (hkept.trans hlatched)) Bool.false_ne_true
    · have hkept := (setMode_estops pi s.sim s.control hone).2
      rw [hlatched, ite_self] at hkept
      exact nomatch hreleased.symm.trans hkept
    · have hids : Ctrlmsg.isControlMsg msg_id = false ∧ Motionmsg.isMotionMsg msg_id = true := by
        rcases hmotion with ⟨rfl, -⟩ | ⟨rfl, -⟩ | ⟨rfl, -⟩ | ⟨rfl, -⟩ | rfl <;> decide
      have hkept := (@motion_estops pi msg_id payload s.sim s.control hids.1 hids.2).2
      exact absurd (hreleased.symm.trans (hkept.trans hlatched)) Bool.false_ne_true
  | publish hpassive => exact nomatch hreleased.symm.trans hlatched
  | consumeClearFault | consumeJetsonHeartbeat => exact nomatch hreleased.symm.trans hlatched

theorem run_active (hactive : motion.live_state ≠ Motionstate.kPassivePoseStream)
    (run : Run (TwinStep firmwarePi) (start motion) h t) : t.motion.live_state ≠ Motionstate.kPassivePoseStream := by
  refine run.invariant (fun t => t.motion.live_state ≠ Motionstate.kPassivePoseStream) hactive ?_
  intro s action t hs hstep
  cases hstep with
  | command hlength =>
    rw [handle_live_state]
    exact hs
  | publish hpassive => exact hpassive
  | consumeClearFault | consumeJetsonHeartbeat => exact hs

theorem run_agrees (field : MotionField) (hactive : motion.live_state ≠ Motionstate.kPassivePoseStream)
    (run : Run (TwinStep firmwarePi) (start motion) h t) : Once (fun e => Sets field e.label) h → Agrees field t := by
  refine run.history_invariant (fun h t => Once (fun e => Sets field e.label) h → Agrees field t)
    (fun hset => ?_) ?_
  · obtain ⟨e, he, -⟩ := hset
    cases he
  · intro h s action t hrun ih hstep hset
    refine agrees_step hstep (run_active hactive hrun) ?_
    exact (once_cons.mp hset).imp_right ih

theorem run_estop_iff (run : Run (TwinStep firmwarePi) (start motion) h t) :
    Throughout EstopAgrees h t ↔ ∀ e ∈ h, ¬ (e.pre.control.estop = true ∧ Overwrites e.label) :=
  run.throughout_iff (show EstopAgrees (start motion) from rfl) fun _ _ _ hstep hagrees =>
    estopAgrees_step hstep hagrees

end Runs

/-- What was set is alike after every command. The simulation reports the emergency stop that is latched, and only
clearing the fault releases it, exactly when no command overwrites its state while the firmware is stopped. -/
theorem simulator_mirrors_iff (motion : MotionApi ℝ) (hactive : motion.live_state ≠ Motionstate.kPassivePoseStream)
    (h : List TwinEvent) (t : Twins ℝ) (run : Run (TwinStep firmwarePi) (start motion) h t) :
    (Throughout EstopAgrees h t ∧
        (∀ e ∈ h, e.pre.sim.host_estop = true → e.post.sim.host_estop = false →
          ∃ payload, e.label = .command Ctrlmsg.kClearFault payload) ∧
        ∀ field, Once (fun e => Sets field e.label) h → Agrees field t) ↔
      ∀ e ∈ h, ¬ (e.pre.control.estop = true ∧ Overwrites e.label) := by
  constructor
  · rintro ⟨hestop, -, -⟩
    exact (run_estop_iff run).mp hestop
  · intro hquiet
    have hestop := (run_estop_iff run).mpr hquiet
    refine ⟨hestop, fun e he hstopped hreleased => ?_, fun field => run_agrees field hactive run⟩
    have hstep := (run.of_mem he).1
    have hpre : EstopAgrees e.pre := hestop.2 e he
    have hpost : EstopAgrees e.post := (estopAgrees_step hstep hpre).mpr (hquiet e he)
    exact released_by_clearFault hstep (hpre.symm.trans hstopped) (hpost.symm.trans hreleased)

/-- A stop and its release, then a gait. -/
theorem gait_mirrored : ∃ h t, Run (TwinStep firmwarePi) (start {}) h t ∧ h ≠ [] ∧ Throughout EstopAgrees h t ∧
    Agrees .gait t := by
  have hstop : Run (TwinStep firmwarePi) (start {}) _ _ :=
    Run.nil.step (@TwinStep.command ℝ _ _ _ Ctrlmsg.kEstop [] rfl)
  have hclear := hstop.step (@TwinStep.command ℝ _ _ _ Ctrlmsg.kClearFault [] rfl)
  have hgait := hclear.step (@TwinStep.command ℝ _ _ _ Motionmsg.kSetGait [1] rfl)
  have hmirror := (simulator_mirrors_iff {} (by decide) _ _ hgait).mpr fun e he => by
    rcases he with _ | ⟨_, _ | ⟨_, _ | ⟨_, ⟨⟩⟩⟩⟩
    · exact fun h => nomatch h.1
    all_goals exact fun h => not_overwrites_of_ne (by decide) (by decide) h.2
  exact ⟨_, _, hgait, List.cons_ne_nil _ _, hmirror.1, hmirror.2.2 .gait (.now ⟨by decide, by decide⟩)⟩

/-- Arming releases the emergency stop of the simulation, and not that of the firmware. -/
theorem arming_releases_simulator : ¬ ∀ (motion : MotionApi ℝ) (h : List TwinEvent) (t : Twins ℝ),
    motion.live_state ≠ Motionstate.kPassivePoseStream → Run (TwinStep firmwarePi) (start motion) h t →
      Throughout EstopAgrees h t ∧
        (∀ e ∈ h, e.pre.sim.host_estop = true → e.post.sim.host_estop = false →
          ∃ payload, e.label = .command Ctrlmsg.kClearFault payload) ∧
        ∀ field, Once (fun e => Sets field e.label) h → Agrees field t := by
  intro hclaim
  have hstop : Run (TwinStep firmwarePi) (start {}) _ _ :=
    Run.nil.step (@TwinStep.command ℝ _ _ _ Ctrlmsg.kEstop [] rfl)
  have harming := hstop.step (@TwinStep.command ℝ _ _ _ Ctrlmsg.kSetArming [1] rfl)
  have hagrees := (hclaim {} _ _ (by decide) harming).1.1
  exact nomatch show false = true from hagrees

end HexapodVerified.Simulation
