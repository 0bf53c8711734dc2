import HexapodVerified.Controller.Proofs.AuthorityProofs
import HexapodVerified.Gait.Proofs.RampProofs

/-!
# The first goals after a stop

The joints are seeded with their present positions when the motion gate rises. A step that starts the
gait pipeline while the gate was already open emits goals that know nothing of where the joints are.
-/

namespace HexapodVerified.Controller

open HexapodVerified.Config HexapodVerified.Dxl HexapodVerified.Gait
open FloatArith Transition

variable {F : Type} [FloatArith F] {cfg : RobotConfig}

/-- The present position reported for a servo: that of its last status in range. -/
def presentPosition (servos : List ServoStatus) (id : UInt8) : Option Int :=
  (servos.reverse.find? fun servo => !servo.skipped && servo.id == id).map
    fun servo => servo.present_position.toInt

/-- The step emits goals of the gait pipeline. The only other goals are the joint targets of a
maintenance session. -/
def EmitsPipelineGoals (inp : ControllerStepInput F) (command : RobotCommand) : Prop :=
  command.goal_valid = true ∧ ¬ (command.command_source = .macMaintenance ∧
    inp.intent.maintenance.control_mode = .jointTargets)

/-- The step `e`, taken after the history `h`, emits goals of the gait pipeline and the step before it
emitted none. -/
def StartsPipelineGoals (h : List (ControllerEvent F)) (e : ControllerEvent F) : Prop :=
  EmitsPipelineGoals e.label.1 e.label.2 ∧
    ∀ e' ∈ h.head?, ¬ EmitsPipelineGoals e'.label.1 e'.label.2

/-- Every goal is within one slew increment of the present position of its servo, where that was
reported. -/
def NoJump (e : ControllerEvent F) : Prop :=
  ∀ goal ∈ e.label.2.goals.joints, ∀ position,
    presentPosition e.label.1.state.dxl.servos goal.id = some position →
      |(goal.tick.toNat : Int) - position| ≤
        GaitPipeline.slewLimit e.post.pipeline.goal_slew_ticks_per_s e.label.1.time.dt_ms

theorem presentPosition_cons (servo : ServoStatus) (servos : List ServoStatus) (id : UInt8) :
    presentPosition (servo :: servos) id = (presentPosition servos id).or
      (if !servo.skipped && servo.id == id then some servo.present_position.toInt else none) := by
  unfold presentPosition
  rw [List.reverse_cons, List.find?_append, Option.map_or]
  congr 1
  cases h : !servo.skipped && servo.id == id <;> simp [h]

omit [FloatArith F] in
/-- After the seeding loop a joint whose position was reported ramps from there. -/
theorem seedGoals_slot (hv : ServoMapValid cfg) {s : ServoConfig} (hs : s ∈ cfg.servos.toList)
    (servos : List ServoStatus) (g : GaitPipeline F) :
    (∀ position, presentPosition servos s.id = some position →
      ((seedGoals cfg servos g).last_tick (slotOf s.leg s.joint)).toNat = position ∧
        (seedGoals cfg servos g).ramping (slotOf s.leg s.joint) = true) ∧
    (presentPosition servos s.id = none →
      (seedGoals cfg servos g).last_tick (slotOf s.leg s.joint) =
          g.last_tick (slotOf s.leg s.joint) ∧
        (seedGoals cfg servos g).ramping (slotOf s.leg s.joint) =
          g.ramping (slotOf s.leg s.joint)) := by
  induction servos generalizing g with
  | nil => exact ⟨fun position h => absurd h (Option.some_ne_none position).symm,
      fun _ => ⟨rfl, rfl⟩⟩
  | cons servo servos ih =>
    rw [presentPosition_cons]
    unfold seedGoals
    cases hskip : servo.skipped with
    | true =>
      simp only [Bool.not_true, Bool.false_and, Bool.false_eq_true, if_false, Option.or_none,
        if_true]
      exact ih g
    | false =>
      simp only [Bool.not_false, Bool.true_and, beq_iff_eq, Bool.false_eq_true, if_false]
      have hrange : 0 ≤ servo.present_position.toInt ∧ servo.present_position.toInt ≤ 4095 := by
        simp only [ServoStatus.skipped, Bool.or_eq_false_iff, decide_eq_false_iff_not,
          Int32.lt_iff_toInt_lt, Int32.toInt_zero, not_lt] at hskip
        exact ⟨hskip.1.2, hskip.2⟩
      obtain ⟨hsome, hnone⟩ :=
        ih (g.seedGoal cfg servo.id (UInt16.ofInt servo.present_position.toInt))
      obtain ⟨htick, hramp⟩ := GaitPipeline.seedGoal_slot hv hs g servo.id
        (UInt16.ofInt servo.present_position.toInt)
      cases hlater : presentPosition servos s.id with
      | some position =>
        rw [hlater] at hsome
        refine ⟨fun position' h => ?_, fun h => absurd h (Option.some_ne_none position)⟩
        obtain rfl : position = position' := Option.some.inj h
        exact hsome position rfl
      | none =>
        obtain ⟨htick', hramp'⟩ := hnone hlater
        rw [htick', hramp', htick, hramp, Option.none_or]
        by_cases hid : s.id = servo.id
        · rw [if_pos hid.symm, if_pos hid, if_pos hid]
          refine ⟨fun position h => ?_, fun h => absurd h (Option.some_ne_none _)⟩
          obtain rfl : servo.present_position.toInt = position := Option.some.inj h
          exact ⟨toNat_ofInt hrange.1 (by omega), rfl⟩
        · rw [if_neg (Ne.symm hid), if_neg hid, if_neg hid]
          exact ⟨fun position h => absurd h (Option.some_ne_none position).symm,
            fun _ => ⟨rfl, rfl⟩⟩

theorem update_near (hv : ServoMapValid cfg) (servos : List ServoStatus) (g : GaitPipeline F)
    (dt_ms : UInt32) {goal : PipelineJoint}
    (hgoal : goal ∈ ((seedGoals cfg servos g).update cfg dt_ms).2.joints) {position : Int}
    (hpos : presentPosition servos goal.id = some position) :
    |(goal.tick.toNat : Int) - position| ≤
      GaitPipeline.slewLimit (seedGoals cfg servos g).goal_slew_ticks_per_s dt_ms := by
  obtain ⟨hgoals, -⟩ := GaitPipeline.update_spec hv (seedGoals cfg servos g) dt_ms
  obtain ⟨s, want, hs, hid, -, htick, -⟩ := hgoals goal hgoal
  obtain ⟨hmem, hleg, hjoint⟩ := mem_of_servoFor hs
  rw [hid] at hpos
  obtain ⟨hlast, hramp⟩ := (seedGoals_slot hv hmem servos g).1 position hpos
  rw [← hleg, ← hjoint, hramp] at htick
  have htick' : goal.tick = _ := congrArg Prod.fst htick
  rw [htick', ← hlast]
  exact GaitPipeline.rampTick_near (GaitPipeline.slewLimit_nonneg _ _)

namespace Motion

variable (cfg : RobotConfig) (motion : Motion F) (inp : ControllerStepInput F)
  (previous_motion_gate previous_maintenance_authority : Bool) (command : RobotCommand)

theorem act_of_emits (hfresh : command.goal_valid = false)
    (hemits : EmitsPipelineGoals inp
      (motion.act cfg inp previous_motion_gate previous_maintenance_authority command).2) :
    motion.act cfg inp previous_motion_gate previous_maintenance_authority command =
      motion.drive cfg inp previous_motion_gate command := by
  obtain ⟨hvalid, hnot⟩ := hemits
  have hsource := (motion.act_sameDecision cfg inp previous_motion_gate
    previous_maintenance_authority command).2.2.1
  rw [hsource] at hnot
  unfold act at hvalid ⊢
  dsimp only at hvalid ⊢
  split_ifs at hvalid ⊢ with hstart hjoint hgate
  · rw [startMaintenanceSession, hfresh] at hvalid
    exact nomatch hvalid
  · rw [Bool.and_eq_true, Bool.and_eq_true, beq_iff_eq, beq_iff_eq] at hjoint
    exact absurd ⟨hjoint.1.2, hjoint.2⟩ hnot
  · rfl
  · rw [hold, hfresh] at hvalid
    exact nomatch hvalid

theorem steer_ramp (d : DesiredMotion F) (dt_ms : UInt32) (preview : Bool) :
    (motion.steer cfg d dt_ms preview).pipeline.toRamp = motion.pipeline.toRamp := by
  unfold steer GaitPipeline.setPreviewLeg
  split_ifs <;> rfl

theorem desire_pipeline (intent : ControllerIntent F) (rc_drives : Bool) (dt_ms : UInt32) :
    (motion.desire intent rc_drives dt_ms).1.pipeline = motion.pipeline := by
  unfold desire
  split_ifs <;> rfl

theorem drive_emit : ∃ (m : Motion F) (c : RobotCommand),
    m.pipeline.toRamp = motion.pipeline.toRamp ∧
    motion.drive cfg inp previous_motion_gate command =
      (m.seed cfg inp.state.dxl.servos previous_motion_gate).emit cfg inp.time.dt_ms c := by
  have hramp (preview : Bool) : ((motion.desire inp.intent (command.command_source == .rc)
      inp.time.dt_ms).1.steer cfg (motion.desire inp.intent (command.command_source == .rc)
        inp.time.dt_ms).2 inp.time.dt_ms preview).pipeline.toRamp = motion.pipeline.toRamp := by
    rw [steer_ramp, desire_pipeline]
  unfold drive
  exact ⟨_, _, hramp _, rfl⟩

theorem emit_goals (dt_ms : UInt32) :
    (motion.emit cfg dt_ms command).2.goals = (motion.pipeline.update cfg dt_ms).2 := rfl

theorem emit_pipeline (dt_ms : UInt32) :
    (motion.emit cfg dt_ms command).1.pipeline = (motion.pipeline.update cfg dt_ms).1 := rfl

theorem seed_pipeline (servos : List ServoStatus) : ∃ g : GaitPipeline F,
    g.toRamp = motion.pipeline.toRamp ∧ (motion.seed cfg servos previous_motion_gate).pipeline =
      if previous_motion_gate then g else seedGoals cfg servos g := by
  cases previous_motion_gate with
  | true => exact ⟨motion.pipeline, rfl, rfl⟩
  | false => exact ⟨motion.pipeline.resetPhase, rfl, rfl⟩

end Motion

namespace ControllerCore

/-- The goals of a step that emits goals of the pipeline: those of one update of a pipeline with the
ramp memory the core had, seeded when the gate was closed before the step. -/
theorem step_goals (core : ControllerCore F) (inp : ControllerStepInput F)
    (hemits : EmitsPipelineGoals inp (core.step inp).2) :
    ∃ (cfg : RobotConfig) (g g' : GaitPipeline F), ServoMapValid cfg ∧
      cfg = (core.configured inp).config_cache.snapshot.robot ∧
      g.toRamp = (core.configured inp).pipeline.toRamp ∧
      g' = (if core.previous_motion_gate then g else seedGoals cfg inp.state.dxl.servos g) ∧
      (core.step inp).2.goals = (g'.update cfg inp.time.dt_ms).2 ∧
      (core.step inp).1.pipeline.goal_slew_ticks_per_s = g'.goal_slew_ticks_per_s := by
  by_cases hv : inp.time.valid = true
  · have hcfg := (core.configured inp).config_cache.known_good.2
    rw [core.step_of_valid inp hv] at hemits ⊢
    unfold acted at hemits ⊢
    rw [Motion.act_of_emits _ _ _ _ _ _ rfl hemits]
    obtain ⟨m, c, hramp, hdrive⟩ := Motion.drive_emit
      (core.configured inp).config_cache.snapshot.robot (core.configured inp).toMotion inp
      core.previous_motion_gate (core.reported inp)
    obtain ⟨g, hg, hseed⟩ := Motion.seed_pipeline
      (core.configured inp).config_cache.snapshot.robot m core.previous_motion_gate
      inp.state.dxl.servos
    refine ⟨_, g, _, servoMapValid_of_validate hcfg, rfl, hg.trans hramp, rfl, ?_, ?_⟩
    · rw [hdrive, Motion.emit_goals, hseed]
    · dsimp only
      rw [hdrive, Motion.emit_pipeline, GaitPipeline.update_slew, hseed]
  · have hinvalid := (core.step_of_invalid inp (eq_false_of_ne_true hv)).2.2
    exact nomatch hinvalid.symm.trans hemits.1

end ControllerCore

variable {core₀ core : ControllerCore F} {later earlier : List (ControllerEvent F)}
  {e : ControllerEvent F}

/-- **Motion start.** In every run, a step that starts the gait pipeline sends no joint further than one
slew increment from its present position, if the motion gate was closed before the step. -/
theorem no_jump_of_gate_rise (run : ControllerRun core₀ (later ++ e :: earlier) core)
    (hstart : StartsPipelineGoals earlier e) (hgate : e.pre.previous_motion_gate = false) :
    NoJump e := by
  obtain ⟨hstep, -⟩ := run.of_mem (List.mem_append_right later (List.mem_cons_self ..))
  have hcommand : (e.pre.step e.label.1).2 = e.label.2 := congrArg Prod.snd hstep
  have hpost : (e.pre.step e.label.1).1 = e.post := congrArg Prod.fst hstep
  have hemits := hstart.1
  rw [← hcommand] at hemits
  obtain ⟨cfg, g, g', hv, -, -, hseed, hgoals, hslew⟩ := e.pre.step_goals e.label.1 hemits
  rw [hgate, if_neg Bool.false_ne_true] at hseed
  intro goal hgoal position hpos
  rw [← hcommand, hgoals, hseed] at hgoal
  rw [← hpost, hslew, hseed]
  exact update_near hv _ g _ hgoal hpos

def withServos (inp : ControllerStepInput F) (servos : List ServoStatus) (dt_ms : UInt32) :
    ControllerStepInput F :=
  { inp with
    state := { inp.state with dxl := { inp.state.dxl with servos } }
    time := { inp.time with dt_ms } }

noncomputable def rcStartStep : ControllerStepInput ℝ :=
  withServos (readyStep 60 true false {}) [{ id := 1, present_position := 2500, ok := true }] 10

theorem no_jump_on_rc_start : NoJump
    ⟨armedCore, (rcStartStep, (armedCore.step rcStartStep).2), (armedCore.step rcStartStep).1⟩ := by
  have run : ControllerRun ControllerCore.new
      (record ControllerCore.step ControllerCore.new.reset [] armingSteps).2 armedCore :=
    run_record ControllerCore.step armingSteps .nil
  have run' : ControllerRun ControllerCore.new ([] ++ _ :: _) _ := run.input rcStartStep
  have hemits : EmitsPipelineGoals rcStartStep (armedCore.step rcStartStep).2 := by
    unfold EmitsPipelineGoals
    decide
  have hbefore : (record ControllerCore.step ControllerCore.new.reset []
      armingSteps).2.head?.all (fun e => !e.label.2.goal_valid) = true := by decide
  have hgate : armedCore.previous_motion_gate = false := by decide
  refine no_jump_of_gate_rise run' ⟨hemits, ?_⟩ hgate
  rintro e' he' ⟨hvalid, -⟩
  have hnone := (Option.all_eq_true _ _).mp hbefore e' he'
  rw [hvalid] at hnone
  exact nomatch hnone

/-- Boot, release of the arm switch, and the step that starts a maintenance session. -/
noncomputable def sessionSteps : List (ControllerStepInput ℝ) :=
  [readyStep 10 false false {}, readyStep 20 false false {},
    readyStep 30 false false { lock_held := true, lock_token := 1, control_mode := .gaitPipeline }]

noncomputable def sessionCore : ControllerCore ℝ :=
  (record ControllerCore.step ControllerCore.new.reset [] sessionSteps).1

/-- The next step of the session, in the gait-pipeline mode, with the first joint at tick 0. -/
noncomputable def sessionStep : ControllerStepInput ℝ :=
  withServos
    (readyStep 40 false false { lock_held := true, lock_token := 1, control_mode := .gaitPipeline })
    [{ id := 1, present_position := 0, ok := true }] 0

/-- The first goals of a maintenance session in the gait-pipeline mode jump: the gate opened a step
earlier, so no joint is seeded. -/
theorem jump_on_session_start : ∃ (core : ControllerCore ℝ) (e : ControllerEvent ℝ)
    (earlier : List (ControllerEvent ℝ)), ControllerRun ControllerCore.new (e :: earlier) core ∧
      e.label.1 = sessionStep ∧ StartsPipelineGoals earlier e ∧ ¬ NoJump e := by
  have run : ControllerRun ControllerCore.new
      (record ControllerCore.step ControllerCore.new.reset [] sessionSteps).2 sessionCore :=
    run_record ControllerCore.step sessionSteps .nil
  have hemits : EmitsPipelineGoals sessionStep (sessionCore.step sessionStep).2 := by
    unfold EmitsPipelineGoals
    decide
  have hbefore : (record ControllerCore.step ControllerCore.new.reset []
      sessionSteps).2.head?.all (fun e => !e.label.2.goal_valid) = true := by decide
  refine ⟨_, _, _, run.input sessionStep, rfl, ⟨hemits, ?_⟩, ?_⟩
  · rintro e' he' ⟨hvalid, -⟩
    have hnone := (Option.all_eq_true _ _).mp hbefore e' he'
    rw [hvalid] at hnone
    exact nomatch hnone
  · intro hnear
    have hgate : sessionCore.previous_motion_gate = true := by decide
    have hramping : (sessionCore.configured sessionStep).pipeline.ramping 0 = false := by
      decide
    have hcfg : (sessionCore.configured sessionStep).config_cache.snapshot.robot =
      defaultRobotConfig := by decide
    obtain ⟨cfg, g, g', hv, rfl, hramp, hseed, hgoals, -⟩ :=
      sessionCore.step_goals sessionStep hemits
    rw [hgate, if_pos rfl] at hseed
    rw [hseed] at hgoals
    -- the first joint is not ramping, so its goal lies in its travel window
    obtain ⟨hspec, htotal⟩ := GaitPipeline.update_spec hv g sessionStep.time.dt_ms
    rw [hcfg] at hspec htotal hgoals
    obtain ⟨goal, hgoal, hleg, hjoint⟩ := htotal 0 0 _ servoFor_default
    obtain ⟨s, want, hs, hid, hwant, htick, -⟩ := hspec goal hgoal
    rw [hleg, hjoint, servoFor_default] at hs
    obtain rfl := Option.some.inj hs
    have hslot : g.ramping (slotOf goal.leg goal.joint) = false := by
      rw [hleg, hjoint, hramp]
      exact hramping
    rw [hslot, GaitPipeline.rampTick_of_not_ramping] at htick
    have htick' : goal.tick = want := congrArg Prod.fst htick
    have hlow : 1024 ≤ goal.tick.toNat := by
      rw [htick']
      exact hwant.1
    have hlimit : GaitPipeline.slewLimit
        (sessionCore.step sessionStep).1.pipeline.goal_slew_ticks_per_s 0 = 1 := by
      simp [GaitPipeline.slewLimit, FloatArith.lt, FloatArith.lit, ofUInt32, FloatArith.ofInt]
    have hfar := hnear goal (by rw [hgoals]; exact hgoal) 0 (by rw [hid]; decide)
    have hfar' : |(goal.tick.toNat : Int) - 0| ≤ 1 := hlimit ▸ hfar
    rw [sub_zero, abs_le] at hfar'
    omega

end HexapodVerified.Controller
