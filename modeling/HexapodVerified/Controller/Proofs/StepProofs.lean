import HexapodVerified.Controller.ControllerCore

/-!
# One controller step

`ControllerCore::step` taken apart: what it decides, what it reports of the decision and which branch
acts on it. The later developments use these facts and never unfold the step.
-/

namespace HexapodVerified.Controller

open HexapodVerified.Config HexapodVerified.Safety

variable {F : Type} [FloatArith F]

namespace Motion

variable (motion : Motion F) (cfg : RobotConfig) (inp : ControllerStepInput F)
  (previous_motion_gate previous_maintenance_authority : Bool) (command : RobotCommand)

/-- The parts of a command that say who drives and whether the gate is open. -/
def SameDecision (c c' : RobotCommand) : Prop :=
  c'.safety_state = c.safety_state ∧ c'.fault_reason = c.fault_reason ∧
    c'.command_source = c.command_source ∧ c'.motion_authorized = c.motion_authorized ∧
    c'.motion_gate = c.motion_gate ∧ c'.allow_dxl_power = c.allow_dxl_power ∧
    c'.allow_torque = c.allow_torque

theorem act_sameDecision : SameDecision command
    (motion.act cfg inp previous_motion_gate previous_maintenance_authority command).2 := by
  unfold act
  dsimp only
  split_ifs <;> exact ⟨rfl, rfl, rfl, rfl, rfl, rfl, rfl⟩

theorem act_of_not_maintenance (hsource : command.command_source ≠ .macMaintenance) :
    motion.act cfg inp previous_motion_gate previous_maintenance_authority command =
      if command.motion_gate then motion.drive cfg inp previous_motion_gate command
      else motion.hold cfg inp.intent.rc.command command := by
  unfold act
  rw [beq_false_of_ne hsource, Bool.and_false]
  rfl

theorem act_of_closed (hgate : command.motion_gate = false) :
    motion.act cfg inp previous_motion_gate previous_maintenance_authority command =
      motion.hold cfg inp.intent.rc.command command := by
  unfold act
  rw [hgate]
  rfl

end Motion

namespace ControllerCore

variable (core : ControllerCore F) (inp : ControllerStepInput F)

/-- The core once the configuration section has run. -/
def configured : ControllerCore F := (core.applyConfig inp.config).1

def configUsable : Bool :=
  (core.applyConfig inp.config).2 != .rejected && inp.state.config_ready

def decided : Authority :=
  (core.configured inp).toAuthority.authorize inp.state inp.intent inp.time.now_ms
    (core.configUsable inp) (core.configured inp).trick_engine.active

def safetyInputs : StateInputs :=
  ((core.configured inp).toAuthority.arbitrate inp.intent inp.time.now_ms
    (maintenanceFailsafeRecovery inp.state inp.intent (core.configUsable inp))).safetyInputs
    inp.state inp.intent inp.time.now_ms (core.configUsable inp)
    (maintenanceFailsafeRecovery inp.state inp.intent (core.configUsable inp))
    ((core.configured inp).toAuthority.motionActive inp.intent
      (core.configured inp).trick_engine.active)

def reported : RobotCommand :=
  (core.decided inp).report inp.state inp.intent (core.configUsable inp) core.previous_motion_gate
    (core.configured inp).trick_engine.active
    { diagnostics :=
      { intent_sequence := inp.intent.motion.seq
        config_reapplied := (core.applyConfig inp.config).2 == .updated
        config_revision := (core.configured inp).config_cache.snapshot.revision } }

/-- The branch of the step: the members that make motion and the finished command. -/
def acted : Motion F × RobotCommand :=
  (core.configured inp).toMotion.act (core.configured inp).config_cache.snapshot.robot inp
    core.previous_motion_gate core.previous_maintenance_authority (core.reported inp)

theorem applyConfig_frame (config : ControllerConfigSnapshot) :
    (core.applyConfig config).1.arbiter = core.arbiter ∧
    (core.applyConfig config).1.state_machine = core.state_machine ∧
    (core.applyConfig config).1.previous_motion_gate = core.previous_motion_gate ∧
    (core.applyConfig config).1.previous_maintenance_authority =
      core.previous_maintenance_authority := by
  unfold applyConfig
  dsimp only
  split_ifs <;> exact ⟨rfl, rfl, rfl, rfl⟩

theorem step_of_invalid (hv : inp.time.valid = false) : (core.step inp).1 = core ∧
    (core.step inp).2.motion_gate = false ∧ (core.step inp).2.goal_valid = false := by
  unfold step
  rw [hv]
  exact ⟨rfl, rfl, rfl⟩

theorem step_command_of_invalid (hv : inp.time.valid = false) :
    (core.step inp).2 =
      { safety_state := core.state_machine.state
        fault_reason := core.state_machine.reason
        diagnostics :=
          { intent_sequence := inp.intent.motion.seq
            config_revision := core.config_cache.snapshot.revision } } := by
  unfold step
  rw [hv]
  rfl

theorem step_of_valid (hv : inp.time.valid = true) :
    core.step inp =
      ({ toAuthority := core.decided inp
         toMotion := (core.acted inp).1
         previous_motion_gate := (core.acted inp).2.motion_gate
         previous_maintenance_authority := (core.acted inp).2.motion_gate &&
          (core.acted inp).2.command_source == .macMaintenance }, (core.acted inp).2) := by
  have hframe := core.applyConfig_frame inp.config
  unfold step acted reported decided configured configUsable
  dsimp only
  rw [hv, hframe.2.2.1, hframe.2.2.2]
  rfl

theorem step_of_open (hgate : (core.step inp).2.motion_gate = true)
    (hsource : (core.step inp).2.command_source ≠ .macMaintenance) :
    (core.reported inp).command_source = (core.step inp).2.command_source ∧
      (core.step inp).1.toMotion = ((core.configured inp).toMotion.drive
        (core.configured inp).config_cache.snapshot.robot inp core.previous_motion_gate (core.reported inp)).1 ∧
      (core.step inp).2 = ((core.configured inp).toMotion.drive
        (core.configured inp).config_cache.snapshot.robot inp core.previous_motion_gate (core.reported inp)).2 := by
  have hv : inp.time.valid = true := by
    by_contra hinvalid
    rw [(core.step_of_invalid inp (eq_false_of_ne_true hinvalid)).2.1] at hgate
    cases hgate
  rw [core.step_of_valid inp hv] at hgate hsource ⊢
  obtain ⟨-, -, hsource', -, hgate', -⟩ := (core.configured inp).toMotion.act_sameDecision
    (core.configured inp).config_cache.snapshot.robot inp core.previous_motion_gate
    core.previous_maintenance_authority (core.reported inp)
  have hacted : core.acted inp = (core.configured inp).toMotion.drive
      (core.configured inp).config_cache.snapshot.robot inp core.previous_motion_gate
      (core.reported inp) := by
    unfold acted
    rw [Motion.act_of_not_maintenance _ _ _ _ _ _ fun h => hsource (hsource'.trans h),
      if_pos (hgate'.symm.trans hgate)]
  exact ⟨hsource'.symm, congrArg Prod.fst hacted, congrArg Prod.snd hacted⟩

end ControllerCore

end HexapodVerified.Controller
