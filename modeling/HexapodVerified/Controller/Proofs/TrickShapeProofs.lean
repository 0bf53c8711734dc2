import HexapodVerified.Controller.Proofs.ReplayProofs
import HexapodVerified.Gait.Proofs.RampProofs

/-!
# The gait shape of a trick

A segment of a trick may bring its own stride, step height and speed. When RC drives, the pipeline gets
the values of the knobs all the same, because they are written last: a trick has its shape exactly when
the knobs happen to stand there.
-/

namespace HexapodVerified.Gait

open HexapodVerified.Config FloatArith

variable {F : Type} [FloatArith F]

/-! ## The shape in the pipeline -/

/-- The part of the gait parameters that a trick can set. -/
structure GaitShape where
  stride_mm : UInt16
  step_height_mm : UInt16
  speed_x255 : UInt8
  deriving DecidableEq, Repr

def TrickOutput.shape (trick : TrickOutput F) : GaitShape :=
  ⟨trick.stride_mm, trick.step_height_mm, trick.speed_x255⟩

structure GaitPipeline.HeadsFor (g : GaitPipeline F) (shape : GaitShape) : Prop where
  stride : g.engine.stride_target = clampf (ofUInt16 shape.stride_mm) (lit 0) kMaxStrideMm
  step : g.engine.step_target = clampf (ofUInt16 shape.step_height_mm) (lit 0) kMaxStepMm
  speed : g.engine.speed_target = clampf (ofUInt8 shape.speed_x255 / lit 255) (lit 0) (lit 1)
  slew : g.goal_slew_ticks_per_s = kMinGoalSlewTicksPerSec +
    (kMaxGoalSlewTicksPerSec - kMinGoalSlewTicksPerSec) * (ofUInt8 shape.speed_x255 / lit 255)

def GaitEngine.targets (e : GaitEngine F) : F × F × F :=
  (e.stride_target, e.step_target, e.speed_target)

theorem GaitEngine.update_targets (e : GaitEngine F) (dt_ms : UInt32) :
    (e.update dt_ms).1.targets = e.targets := by
  obtain ⟨_, _, _, _, _, _, _, hframe⟩ := e.update_frame dt_ms
  rw [hframe]
  rfl

namespace GaitPipeline

variable {cfg : RobotConfig} {g g' : GaitPipeline F} {shape : GaitShape}

theorem setParams_headsFor (g : GaitPipeline F) (body_height_mm stride_len_mm step_height_mm : UInt16)
    (duty_x255 speed_x255 : UInt8) :
    (g.setParams cfg body_height_mm stride_len_mm step_height_mm duty_x255 speed_x255).HeadsFor
      ⟨stride_len_mm, step_height_mm, speed_x255⟩ := by
  unfold setParams GaitEngine.configure
  dsimp only
  split_ifs <;> exact ⟨rfl, rfl, rfl, rfl⟩

theorem HeadsFor.of_targets (hg : g.HeadsFor shape) (htargets : g'.engine.targets = g.engine.targets)
    (hslew : g'.goal_slew_ticks_per_s = g.goal_slew_ticks_per_s) : g'.HeadsFor shape := by
  obtain ⟨hstride, hrest⟩ := Prod.mk.inj htargets
  obtain ⟨hstep, hspeed⟩ := Prod.mk.inj hrest
  exact ⟨hstride.trans hg.stride, hstep.trans hg.step, hspeed.trans hg.speed,
    hslew.trans hg.slew⟩

theorem HeadsFor.setPreviewLeg (hg : g.HeadsFor shape) (leg : Int8) :
    (g.setPreviewLeg leg).HeadsFor shape := by
  obtain ⟨_, _, hframe⟩ := g.setPreviewLeg_frame leg
  rw [hframe]
  exact hg.of_targets rfl rfl

theorem HeadsFor.setGait (hg : g.HeadsFor shape) (id : GaitId) : (g.setGait id).HeadsFor shape :=
  hg.of_targets rfl rfl

theorem HeadsFor.setTwist (hg : g.HeadsFor shape) (vx vy wz : F) :
    (g.setTwist vx vy wz).HeadsFor shape :=
  hg.of_targets rfl rfl

theorem HeadsFor.update (hg : g.HeadsFor shape) (dt_ms : UInt32) :
    (g.update cfg dt_ms).1.HeadsFor shape := by
  obtain ⟨_, _, _, _, hframe⟩ := g.update_frame cfg dt_ms
  rw [hframe]
  exact hg.of_targets (GaitEngine.update_targets _ _) rfl

end GaitPipeline

end HexapodVerified.Gait

namespace HexapodVerified.Controller

open HexapodVerified.Config HexapodVerified.Gait FloatArith

variable {F : Type} [FloatArith F] {cfg : RobotConfig}

theorem seedGoals_headsFor {g : GaitPipeline F} {shape : GaitShape} (hg : g.HeadsFor shape)
    (servos : List ServoStatus) : (seedGoals cfg servos g).HeadsFor shape := by
  obtain ⟨_, hframe⟩ := seedGoals_frame cfg servos g
  rw [hframe]
  exact hg.of_targets rfl rfl

def knobShape (rc : ControllerCommand F) : GaitShape where
  stride_mm := toUInt16 (rc.stride * ofUInt16 kMaxGaitStrideMm)
  step_height_mm := toUInt16 (rc.step_height * ofUInt16 kMaxGaitStepMm)
  speed_x255 := toUInt8 (rc.speed * lit 255)

/-- A step applies a shape: the command reports it and the pipeline is heading for it. -/
structure AppliesShape (shape : GaitShape) (core : ControllerCore F) (command : RobotCommand) :
    Prop where
  stride : command.diagnostics.applied_stride_mm = shape.stride_mm
  step : command.diagnostics.applied_step_height_mm = shape.step_height_mm
  speed : command.diagnostics.applied_speed_x255 = shape.speed_x255
  pipeline : core.pipeline.HeadsFor shape

theorem AppliesShape.unique {shape shape' : GaitShape} {core : ControllerCore F}
    {command : RobotCommand} (h : AppliesShape shape core command)
    (h' : AppliesShape shape' core command) : shape = shape' := by
  have hstride := h.stride.symm.trans h'.stride
  have hstep := h.step.symm.trans h'.step
  have hspeed := h.speed.symm.trans h'.speed
  cases shape
  cases shape'
  dsimp only at hstride hstep hspeed
  rw [hstride, hstep, hspeed]

/-- Whatever the trick and the host ask for, the shape is that of the knobs. -/
theorem rcDesired_shape (rc : ControllerCommand F) (trick : TrickOutput F) (host : DesiredMotion F) :
    (⟨(rcDesired rc trick host).stride, (rcDesired rc trick host).step_height,
      (rcDesired rc trick host).speed⟩ : GaitShape) = knobShape rc := by
  unfold rcDesired
  split_ifs <;> rfl

namespace Motion

variable (motion : Motion F) (cfg : RobotConfig) (inp : ControllerStepInput F)
  (previous_motion_gate : Bool) {command : RobotCommand} {shape : GaitShape}

theorem steer_headsFor (d : DesiredMotion F) (dt_ms : UInt32) (preview : Bool) :
    (motion.steer cfg d dt_ms preview).pipeline.HeadsFor ⟨d.stride, d.step_height, d.speed⟩ := by
  have hparams (height : UInt16) (pose : BodyPose F) :
      ((motion.pipeline.setParams cfg height d.stride d.step_height d.duty
        d.speed).setBodyPose pose).HeadsFor ⟨d.stride, d.step_height, d.speed⟩ :=
    (GaitPipeline.setParams_headsFor motion.pipeline _ _ _ _ _).of_targets rfl rfl
  unfold steer
  refine GaitPipeline.HeadsFor.setPreviewLeg (GaitPipeline.HeadsFor.setTwist ?_ _ _ _) _
  split_ifs
  · exact (hparams _ _).setGait _
  · exact hparams _ _

theorem seed_headsFor {motion : Motion F} (hm : motion.pipeline.HeadsFor shape)
    (servos : List ServoStatus) :
    (motion.seed cfg servos previous_motion_gate).pipeline.HeadsFor shape := by
  unfold seed
  split_ifs
  · have hreset : motion.pipeline.resetPhase.HeadsFor shape := hm.of_targets rfl rfl
    exact seedGoals_headsFor hreset servos
  · exact hm

def trickStep (rc : ControllerCommand F) (dt_ms : UInt32) : TrickEngine F :=
  (if rc.trick ≠ .none ∧ motion.previous_rc_trick = .none then
      motion.trick_engine.trigger rc.trick rc.body_height
    else motion.trick_engine).update dt_ms (sticksAreActive rc)

theorem desire_of_rc (intent : ControllerIntent F) (dt_ms : UInt32) :
    motion.desire intent true dt_ms =
      ({ motion with
          trick_engine := motion.trickStep intent.rc.command dt_ms
          previous_rc_trick := intent.rc.command.trick
          applied_intent_sequence := kNoSequence },
        rcDesired intent.rc.command (motion.trickStep intent.rc.command dt_ms).out
          (hostDesired intent.motion)) := rfl

theorem drive_of_rc (hsource : command.command_source = .rc) :
    (motion.drive cfg inp previous_motion_gate command).1.trick_engine =
        motion.trickStep inp.intent.rc.command inp.time.dt_ms ∧
      (motion.drive cfg inp previous_motion_gate command).1.pipeline.HeadsFor
        (knobShape inp.intent.rc.command) ∧
      (motion.drive cfg inp previous_motion_gate command).2.diagnostics.applied_stride_mm =
        (knobShape inp.intent.rc.command).stride_mm ∧
      (motion.drive cfg inp previous_motion_gate command).2.diagnostics.applied_step_height_mm =
        (knobShape inp.intent.rc.command).step_height_mm ∧
      (motion.drive cfg inp previous_motion_gate command).2.diagnostics.applied_speed_x255 =
        (knobShape inp.intent.rc.command).speed_x255 := by
  have hrc : (command.command_source == .rc) = true := beq_iff_eq.mpr hsource
  have hshape := rcDesired_shape inp.intent.rc.command
    (motion.trickStep inp.intent.rc.command inp.time.dt_ms).out (hostDesired inp.intent.motion)
  unfold drive
  dsimp only
  rw [hrc, desire_of_rc]
  refine ⟨?_, ?_, congrArg GaitShape.stride_mm hshape, congrArg GaitShape.step_height_mm hshape,
    congrArg GaitShape.speed_x255 hshape⟩
  · unfold emit seed
    split_ifs <;> rfl
  · refine GaitPipeline.HeadsFor.update (seed_headsFor cfg _ ?_ _) _
    rw [← hshape]
    exact steer_headsFor _ cfg _ _ _

end Motion

namespace ControllerCore

variable (core : ControllerCore F) (inp : ControllerStepInput F)

structure RcDrives : Prop where
  gate : (core.step inp).2.motion_gate = true
  source : (core.step inp).2.command_source = .rc

structure TrickHasItsShape : Prop where
  trick : (core.step inp).1.trick_engine.out.active = true →
    (core.step inp).1.trick_engine.out.override_gait_shape = true →
    AppliesShape (core.step inp).1.trick_engine.out.shape (core.step inp).1 (core.step inp).2
  knobs : (core.step inp).1.trick_engine.out.active = false →
    AppliesShape (knobShape inp.intent.rc.command) (core.step inp).1 (core.step inp).2

/-- The trick a step under RC comes to, from the core before it. -/
def trickOutput : TrickOutput F :=
  (core.toMotion.trickStep inp.intent.rc.command inp.time.dt_ms).out

variable {core inp}

/-- The configuration section leaves the tricks alone. -/
theorem configured_trickStep (core : ControllerCore F) (inp : ControllerStepInput F)
    (rc : ControllerCommand F) (dt_ms : UInt32) :
    (core.configured inp).toMotion.trickStep rc dt_ms = core.toMotion.trickStep rc dt_ms := by
  unfold configured applyConfig
  dsimp only
  split_ifs <;> rfl

theorem step_of_rcDrives (hdrives : core.RcDrives inp) :
    (core.step inp).1.trick_engine.out = core.trickOutput inp ∧
      AppliesShape (knobShape inp.intent.rc.command) (core.step inp).1 (core.step inp).2 := by
  obtain ⟨hrc, hmotion, hcommand⟩ := step_of_open core inp hdrives.gate (by rw [hdrives.source]; decide)
  obtain ⟨htrick, hheads, hstride, hstep, hspeed⟩ := (core.configured inp).toMotion.drive_of_rc
    (core.configured inp).config_cache.snapshot.robot inp core.previous_motion_gate (hrc.trans hdrives.source)
  rw [← hmotion] at htrick hheads
  rw [← hcommand] at hstride hstep hspeed
  rw [configured_trickStep] at htrick
  exact ⟨congrArg TrickEngine.out htrick, hstride, hstep, hspeed, hheads⟩

/-- In every step in which RC drives, the shape is as expected exactly when the knobs stand at the
values of the trick, where it has some. -/
theorem trick_shape_iff (hdrives : core.RcDrives inp) : core.TrickHasItsShape inp ↔
    ((core.trickOutput inp).active = true → (core.trickOutput inp).override_gait_shape = true →
      (core.trickOutput inp).shape = knobShape inp.intent.rc.command) := by
  obtain ⟨htrick, happlies⟩ := step_of_rcDrives hdrives
  constructor
  · intro hexpected hactive hoverride
    have hshape := hexpected.trick
    rw [htrick] at hshape
    exact (hshape hactive hoverride).unique happlies
  · intro hknobs
    refine ⟨fun hactive hoverride => ?_, fun _ => happlies⟩
    rw [htrick] at hactive hoverride ⊢
    rw [hknobs hactive hoverride]
    exact happlies

end ControllerCore

def frameShape (kf : TrickKeyframe F) : GaitShape := ⟨kf.stride_mm, kf.step_height_mm, kf.speed_x255⟩

theorem update_of_inSegment {e : TrickEngine F} {p : TrickPosition F} {dt_ms : UInt32}
    (hrunning : e.running = some p) (hheld : p.held = false)
    (hdt : dt_ms ≤ TrickEngine.kMaxAdvanceMs)
    (hsegment : p.seg_elapsed_ms + dt_ms < TrickEngine.segmentMs (p.prog.frames.get p.seg)) :
    (e.update dt_ms false).out.active = true ∧
      (e.update dt_ms false).out.override_gait_shape =
        ((p.prog.frames.get p.seg).stride_mm > 0 || (p.prog.frames.get p.seg).step_height_mm > 0 ||
          (p.prog.frames.get p.seg).speed_x255 > 0) ∧
      (e.update dt_ms false).out.shape = frameShape (p.prog.frames.get p.seg) := by
  have hupdate : e.update dt_ms false = e.advance p.prog p.seg (p.seg_elapsed_ms + dt_ms) := by
    unfold TrickEngine.update
    rw [hrunning]
    dsimp only
    rw [if_neg Bool.false_ne_true, hheld, if_neg Bool.false_ne_true, if_neg (UInt32.not_lt.mpr hdt)]
  rw [hupdate, TrickEngine.advance, dif_pos hsegment]
  exact ⟨rfl, rfl, rfl⟩

/-- The first step of a jump kick, with the sticks at rest: its first segment has a shape. -/
theorem trickStep_jumpKick {motion : Motion F} {rc : ControllerCommand F} {dt_ms : UInt32}
    (htrick : rc.trick = .jumpKick) (hbefore : motion.previous_rc_trick = .none)
    (hrest : sticksAreActive rc = false) (hdt : dt_ms < 900) :
    (motion.trickStep rc dt_ms).out.active = true ∧
      (motion.trickStep rc dt_ms).out.override_gait_shape = true ∧
      (motion.trickStep rc dt_ms).out.shape = ⟨35, 40, 255⟩ := by
  have hlimit : (900 : UInt32) ≤ TrickEngine.kMaxAdvanceMs := by decide
  have hrunning : (motion.trick_engine.trigger .jumpKick rc.body_height).running =
      some ⟨kJumpKickProg, ⟨0, Nat.zero_lt_succ 2⟩, 0, false⟩ := rfl
  unfold Motion.trickStep
  rw [htrick, hbefore, hrest, if_pos ⟨by decide, rfl⟩]
  refine update_of_inSegment hrunning rfl (UInt32.le_trans (UInt32.le_of_lt hdt) hlimit) ?_
  rw [UInt32.zero_add]
  exact hdt

/-- Armed RC asks for a jump kick, with its sticks and its knobs at rest. -/
noncomputable def jumpStep : ControllerStepInput ℝ :=
  let inp := readyStep 60 true false {}
  { inp with
    intent := { inp.intent with
      rc := { inp.intent.rc with
        command := { ControllerCommand.default with
          valid := true
          ever_seen := true
          trick := .jumpKick } } } }

theorem jump_active : rcCommandIsActive jumpStep.intent.rc.command = true := by
  unfold rcCommandIsActive jumpStep
  simp

theorem jump_rest : sticksAreActive jumpStep.intent.rc.command = false := by
  refine eq_false_of_ne_true fun hactive => ?_
  unfold sticksAreActive jumpStep ControllerCommand.default at hactive
  simp only [Bool.or_eq_true, lt_exact, fabs_exact, lit_exact] at hactive
  norm_num at hactive

theorem jump_rcMoves : armedCore.RcMoves jumpStep := by
  have hstop : armedCore.stopInputs jumpStep =
      { armedCore.stopInputs jumpStep with motion_active := true } := by
    unfold ControllerCore.stopInputs Authority.motionActive
    rw [jump_active]
    rfl
  refine ⟨by decide, by decide, ?_⟩
  rw [hstop]
  exact ⟨by decide, by decide, by decide⟩

theorem jump_rcDrives : armedCore.RcDrives jumpStep := by
  have howns : armedCore.RcOwns jumpStep :=
    ⟨rfl, rfl, rfl, rfl, by decide, by decide⟩
  have hgate := (armedCore.reported_gate_iff jumpStep howns).mpr jump_rcMoves
  have hsource := (armedCore.source_rc_iff jumpStep).mpr howns
  obtain ⟨-, -, hsource', -, hgate', -⟩ := (armedCore.configured jumpStep).toMotion.act_sameDecision
    (armedCore.configured jumpStep).config_cache.snapshot.robot jumpStep
    armedCore.previous_motion_gate armedCore.previous_maintenance_authority
    (armedCore.reported jumpStep)
  constructor
  · rw [armedCore.step_of_valid jumpStep rfl]
    exact hgate'.trans hgate
  · rw [armedCore.step_of_valid jumpStep rfl]
    exact hsource'.trans hsource

theorem trick_shape_iff_jump : armedCore.TrickHasItsShape jumpStep ↔
    ((armedCore.trickOutput jumpStep).active = true →
      (armedCore.trickOutput jumpStep).override_gait_shape = true →
        (armedCore.trickOutput jumpStep).shape = knobShape jumpStep.intent.rc.command) :=
  ControllerCore.trick_shape_iff jump_rcDrives

/-- The knobs decide over the jump kick. -/
theorem not_trick_shape :
    ¬ ∀ (core : ControllerCore ℝ) inp, core.RcDrives inp → core.TrickHasItsShape inp := by
  intro hall
  obtain ⟨hactive, hoverride, hshape⟩ := @trickStep_jumpKick ℝ _ armedCore.toMotion
    jumpStep.intent.rc.command jumpStep.time.dt_ms rfl (by decide) jump_rest (by decide)
  have hexpected := hall armedCore jumpStep jump_rcDrives
  obtain ⟨htrick, happlies⟩ := ControllerCore.step_of_rcDrives jump_rcDrives
  have happlied := hexpected.trick
  rw [htrick] at happlied
  have hspeed := (happlied hactive hoverride).speed.symm.trans happlies.speed
  have hkick : (armedCore.trickOutput jumpStep).shape.speed_x255 = 255 :=
    congrArg GaitShape.speed_x255 hshape
  rw [hkick] at hspeed
  have hknob : (knobShape jumpStep.intent.rc.command).speed_x255 = 0 := by
    have hzero : (lit 0 : ℝ) * lit 255 = (0 : ℤ) := by norm_num
    show UInt8.ofInt (trunc ((lit 0 : ℝ) * lit 255)) = 0
    rw [hzero, trunc_intCast]
    rfl
  rw [hknob] at hspeed
  cases hspeed

end HexapodVerified.Controller
