import HexapodVerified.Dxl.ServoMap
import HexapodVerified.Gait.GaitEngine

/-!
# The gait pipeline

`gait/gait_pipeline.cpp`: from the gait engine's foot targets to goal ticks, with the ramp that takes
each joint from its present position onto the trajectory. The source keeps a reference to the active
configuration; here the configuration is an argument of every function that reads it.
-/

namespace HexapodVerified.Gait

open HexapodVerified.Config HexapodVerified.Dxl FloatArith Transition

variable {F : Type} [FloatArith F]

def kMinGoalSlewTicksPerSec : F := lit 600
def kMaxGoalSlewTicksPerSec : F := lit 4500
def kPoseFilterTau : F := lit 0.12
def kPoseSnapMm : F := lit 0.5
def kPoseSnapRad : F := lit 0.005
def kPreviewCycleSeconds : F := lit 2

/-- `PipelineJoint`: one resolved goal. -/
structure PipelineJoint where
  id : UInt8 := 0
  tick : UInt16 := kServoCenterTick
  leg : UInt8 := 0
  joint : UInt8 := 0
  clamped : Bool := false
  deriving DecidableEq, Repr

structure PipelineLegTarget where
  foot_x_mm : Int16 := 0
  foot_y_mm : Int16 := 0
  foot_z_mm : Int16 := 0
  flags : UInt8 := 0
  deriving DecidableEq, Repr

/-- `PipelineOutput`; the filled part of the source's `joints` array is the list. -/
structure PipelineOutput where
  joints : List PipelineJoint := []
  legs : List PipelineLegTarget := []
  any_unreachable : Bool := false
  any_reach_limited : Bool := false
  deriving DecidableEq, Repr

abbrev kPipelineLegFlagSwing : UInt8 := 1
abbrev kPipelineLegFlagReachable : UInt8 := 2
abbrev kPipelineLegFlagClamped : UInt8 := 4

/-- The ramp memory: for every slot the last tick sent and whether the slot is ramping. -/
structure Ramp where
  last_tick : Nat → UInt16 := fun _ => 0
  ramping : Nat → Bool := fun _ => false

structure GaitPipeline (F : Type) extends Ramp where
  engine : GaitEngine F
  body : BodyKinematics F
  pose_target : BodyPose F
  pose : BodyPose F
  apply_pose : Bool
  preview_leg : Int8
  preview_phase : F
  goal_slew_ticks_per_s : F

def slotOf (leg joint : UInt8) : Nat := leg.toNat * kJointsPerLeg + joint.toNat

namespace GaitPipeline

def new (cfg : RobotConfig) : GaitPipeline F where
  engine := GaitEngine.new.configure cfg.gait
  body := .new cfg
  pose_target := .neutral
  pose := .neutral
  apply_pose := false
  preview_leg := -1
  preview_phase := lit 0
  goal_slew_ticks_per_s := kMinGoalSlewTicksPerSec

def reconfigure (g : GaitPipeline F) (cfg : RobotConfig) : GaitPipeline F :=
  { g with body := .new cfg, engine := g.engine.configure cfg.gait }

def setGait (g : GaitPipeline F) (id : GaitId) : GaitPipeline F :=
  { g with engine := g.engine.setGait id }

def setParams (g : GaitPipeline F) (cfg : RobotConfig) (body_height_mm stride_len_mm
    step_height_mm : UInt16) (duty_x255 speed_x255 : UInt8) : GaitPipeline F :=
  let d := { cfg.gait with body_height_mm, stride_len_mm, step_height_mm, duty_x255, speed_x255 }
  let s := ofUInt8 speed_x255 / lit 255
  { g with
    engine := (g.engine.configure d).setGait g.engine.gait
    goal_slew_ticks_per_s :=
      kMinGoalSlewTicksPerSec + (kMaxGoalSlewTicksPerSec - kMinGoalSlewTicksPerSec) * s }

def setTwist (g : GaitPipeline F) (vx vy wz : F) : GaitPipeline F :=
  { g with engine := g.engine.setTwist ⟨vx, vy, wz⟩ }

def setBodyPose (g : GaitPipeline F) (pose : BodyPose F) : GaitPipeline F :=
  { g with pose_target := pose }

def resetPhase (g : GaitPipeline F) : GaitPipeline F := { g with engine := g.engine.reset }

def setPreviewLeg (g : GaitPipeline F) (leg : Int8) : GaitPipeline F :=
  if leg < 0 || leg ≥ 6 then { g with preview_leg := -1, preview_phase := lit 0 }
  else
    { g with
      preview_phase := if g.preview_leg ≠ leg then lit 0 else g.preview_phase
      preview_leg := leg }

def seedGoal (g : GaitPipeline F) (cfg : RobotConfig) (id : UInt8) (present_tick : UInt16) :
    GaitPipeline F :=
  match servoForId cfg id with
  | none => g
  | some sc =>
    let slot := slotOf sc.leg sc.joint
    if slot ≥ kNumServos then g
    else
      { g with
        last_tick := Function.update g.last_tick slot present_tick
        ramping := Function.update g.ramping slot true }

/-! ## The stages of `GaitPipeline::update` -/

def filterPose (g : GaitPipeline F) (dt_ms : UInt32) : GaitPipeline F :=
  let dt_s := ofUInt32 dt_ms / lit 1000
  let k := if le kPoseFilterTau dt_s then lit 1 else dt_s / kPoseFilterTau
  let t := g.pose_target
  let p := g.pose
  let p : BodyPose F :=
    { x_mm := p.x_mm + (t.x_mm - p.x_mm) * k
      y_mm := p.y_mm + (t.y_mm - p.y_mm) * k
      z_mm := p.z_mm + (t.z_mm - p.z_mm) * k
      roll := p.roll + (t.roll - p.roll) * k
      pitch := p.pitch + (t.pitch - p.pitch) * k
      yaw := p.yaw + (t.yaw - p.yaw) * k }
  let zero (v : F) : Bool := feq v (lit 0)
  let target_neutral := zero t.x_mm && zero t.y_mm && zero t.z_mm && zero t.roll && zero t.pitch &&
    zero t.yaw
  let p := if target_neutral && lt (fabs p.x_mm) kPoseSnapMm && lt (fabs p.y_mm) kPoseSnapMm &&
      lt (fabs p.z_mm) kPoseSnapMm && lt (fabs p.roll) kPoseSnapRad &&
      lt (fabs p.pitch) kPoseSnapRad && lt (fabs p.yaw) kPoseSnapRad then .neutral else p
  { g with
    pose := p
    apply_pose := !(zero p.x_mm && zero p.y_mm && zero p.z_mm && zero p.roll && zero p.pitch &&
      zero p.yaw) }

def kEnvelope : List (F × F) :=
  [(-kStrokeEnvelopeFrac, lit 0), (kStrokeEnvelopeFrac, lit 0), (-kStrokeEnvelopeFrac, lit 0.5),
    (kStrokeEnvelopeFrac, lit 0.5), (lit 0, lit 1)]

def pathScale (g : GaitPipeline F) : F :=
  (List.finRange kNumLegs).foldl (fun scale leg =>
    let anchor := g.engine.homeFoot leg
    kEnvelope.foldl (fun scale (longitudinal, lift) =>
      let target := g.engine.footAt leg longitudinal lift
      let leg_scale :=
        g.body.bodyTargetPathScale leg ⟨anchor.x, anchor.y, target.z⟩ target
      if lt leg_scale scale then leg_scale else scale) scale) (lit 1)

def scaleTravel (anchor : Point F) (scale : F) (target : FootTarget F) : FootTarget F :=
  { target with
    x_mm := anchor.x + (target.x_mm - anchor.x) * scale
    y_mm := anchor.y + (target.y_mm - anchor.y) * scale }

/-- The stride limiter, skipped while a body pose is applied: the limited targets and
`any_reach_limited`. -/
def limitStride (g : GaitPipeline F) (feet : Fin kNumLegs → FootTarget F) :
    (Fin kNumLegs → FootTarget F) × Bool :=
  if g.apply_pose then (feet, false)
  else
    let path_scale := g.pathScale
    if lt path_scale (lit 1) then
      (fun leg => scaleTravel (g.engine.homeFoot leg) path_scale (feet leg), true)
    else (feet, false)

/-- The gait-tune preview replaces one leg's target. -/
def applyPreview (g : GaitPipeline F) (dt_ms : UInt32) (feet : Fin kNumLegs → FootTarget F)
    (any_reach_limited : Bool) :
    GaitPipeline F × (Fin kNumLegs → FootTarget F) × Bool :=
  if h : 0 ≤ g.preview_leg.toInt ∧ g.preview_leg.toInt.toNat < kNumLegs then
    let leg : Fin kNumLegs := ⟨g.preview_leg.toInt.toNat, h.2⟩
    let phase := g.preview_phase + ofUInt32 dt_ms / lit 1000 / kPreviewCycleSeconds
    let phase := phase - FloatArith.floor phase
    let preview := g.engine.previewFoot leg phase
    let anchor := g.engine.homeFoot leg
    let scale := g.body.bodyTargetPathScale leg ⟨anchor.x, anchor.y, preview.z⟩ preview
    let scale := if lt (lit 1) scale then lit 1 else scale
    let target : FootTarget F :=
      { x_mm := anchor.x + (preview.x - anchor.x) * scale
        y_mm := anchor.y + (preview.y - anchor.y) * scale
        z_mm := preview.z
        swing := lt (anchor.z + lit 0.5) preview.z }
    ({ g with preview_phase := phase }, Function.update feet leg target,
      any_reach_limited || lt scale (lit 1))
  else (g, feet, any_reach_limited)

/-- A leg's IK solution and whether its target had to be pulled in. -/
def solveLeg (g : GaitPipeline F) (leg : Fin kNumLegs) (f : FootTarget F) : IkResult F × Bool :=
  if g.apply_pose then g.body.solveBodyPoseLimited leg g.pose ⟨f.x_mm, f.y_mm, f.z_mm⟩
  else (g.body.solveBody leg ⟨f.x_mm, f.y_mm, f.z_mm⟩, false)

/-- `limit`: the ticks one update may ramp. -/
def slewLimit (goal_slew_ticks_per_s : F) (dt_ms : UInt32) : Int :=
  let max_step := goal_slew_ticks_per_s * ofUInt32 dt_ms / lit 1000
  if lt max_step (lit 1) then 1 else trunc max_step

/-- The ramp of one joint: the tick to send instead of `want`, and whether the joint goes on
ramping. -/
def rampTick (limit : Int) (ramping : Bool) (last_tick want : UInt16) : UInt16 × Bool :=
  let prev : Int := last_tick.toNat
  if ramping then
    if want.toNat > prev + limit then (UInt16.ofInt (prev + limit), true)
    else if want.toNat < prev - limit then (UInt16.ofInt (prev - limit), true)
    else (want, false)
  else (want, false)

/-- The body of the joint loop: the ramp memory and, for a mapped joint, its goal. -/
def emitJoint (cfg : RobotConfig) (limit : Int) (leg joint : UInt8) (angle : F) (r : Ramp) :
    Ramp × Option PipelineJoint :=
  match servoFor cfg leg joint with
  | none => (r, none)
  | some sc =>
    let jc := angleToTick cfg leg joint angle
    let slot := slotOf leg joint
    let (tick, ramping) := rampTick limit (r.ramping slot) (r.last_tick slot) jc.tick
    ({ last_tick := Function.update r.last_tick slot tick
       ramping := Function.update r.ramping slot ramping },
      some { id := sc.id, tick, leg, joint, clamped := jc.clamped_low || jc.clamped_high })

/-- The joint loop of a leg: the goals are added to `joints` in order. -/
def emitJoints (cfg : RobotConfig) (limit : Int) (leg : UInt8) :
    List (UInt8 × F) → Ramp → List PipelineJoint → Ramp × List PipelineJoint
  | [], r, joints => (r, joints)
  | (joint, angle) :: rest, r, joints =>
    let (r, goal) := emitJoint cfg limit leg joint angle r
    emitJoints cfg limit leg rest r (joints ++ goal.toList)

/-- What a leg's IK solution asks of its three joints. -/
def legAngles (ik : IkResult F) : List (UInt8 × F) := [(0, ik.coxa), (1, ik.femur), (2, ik.tibia)]

def captureLeg (f : FootTarget F) (ik : IkResult F) (goals : List PipelineJoint) :
    PipelineLegTarget :=
  { foot_x_mm := Int16.ofInt (lround f.x_mm)
    foot_y_mm := Int16.ofInt (lround f.y_mm)
    foot_z_mm := Int16.ofInt (lround f.z_mm)
    flags := (if f.swing then kPipelineLegFlagSwing else 0) |||
      (if ik.reachable then kPipelineLegFlagReachable else 0) |||
      (if goals.any (·.clamped) then kPipelineLegFlagClamped else 0) }

def emitLegs (g : GaitPipeline F) (cfg : RobotConfig) (limit : Int)
    (feet : Fin kNumLegs → FootTarget F) :
    List (Fin kNumLegs) → Ramp → PipelineOutput → Ramp × PipelineOutput
  | [], r, out => (r, out)
  | leg :: rest, r, out =>
    let f := feet leg
    let (ik, reach_limited) := g.solveLeg leg f
    let (r, goals) := emitJoints cfg limit (UInt8.ofNat leg) (legAngles ik) r []
    emitLegs g cfg limit feet rest r
      { joints := out.joints ++ goals
        legs := out.legs ++ [captureLeg f ik goals]
        any_unreachable := out.any_unreachable || !ik.reachable
        any_reach_limited := out.any_reach_limited || reach_limited }

/-- The part of `GaitPipeline::update` before the leg loop: the pipeline with its filters and its
engine advanced, the final foot targets and `any_reach_limited`. -/
def advanceFeet (g : GaitPipeline F) (dt_ms : UInt32) :
    GaitPipeline F × (Fin kNumLegs → FootTarget F) × Bool :=
  let g := g.filterPose dt_ms
  let (engine, feet) := g.engine.update dt_ms
  let g := { g with engine }
  let (feet, any_reach_limited) := g.limitStride feet
  g.applyPreview dt_ms feet any_reach_limited

def update (g : GaitPipeline F) (cfg : RobotConfig) (dt_ms : UInt32) :
    GaitPipeline F × PipelineOutput :=
  let (g, feet, any_reach_limited) := g.advanceFeet dt_ms
  let limit := slewLimit g.goal_slew_ticks_per_s dt_ms
  let (r, out) := g.emitLegs cfg limit feet (List.finRange kNumLegs) g.toRamp { any_reach_limited }
  ({ g with toRamp := r }, out)

/-! What the calls leave alone. -/

theorem setPreviewLeg_frame (g : GaitPipeline F) (leg : Int8) :
    ∃ preview_leg preview_phase, g.setPreviewLeg leg = { g with preview_leg, preview_phase } := by
  unfold setPreviewLeg
  split_ifs <;> exact ⟨_, _, rfl⟩

omit [FloatArith F] in
theorem seedGoal_frame (g : GaitPipeline F) (cfg : RobotConfig) (id : UInt8) (present_tick : UInt16) :
    ∃ r : Ramp, g.seedGoal cfg id present_tick = { g with toRamp := r } := by
  unfold seedGoal
  split
  · exact ⟨_, rfl⟩
  · dsimp only
    split_ifs <;> exact ⟨_, rfl⟩

theorem applyPreview_frame (g : GaitPipeline F) (dt_ms : UInt32) (feet : Fin kNumLegs → FootTarget F)
    (any_reach_limited : Bool) :
    ∃ preview_phase, (g.applyPreview dt_ms feet any_reach_limited).1 = { g with preview_phase } := by
  unfold applyPreview
  split_ifs <;> exact ⟨_, rfl⟩

theorem advanceFeet_frame (g : GaitPipeline F) (dt_ms : UInt32) :
    ∃ pose apply_pose preview_phase, (g.advanceFeet dt_ms).1 =
      { g with pose, apply_pose, preview_phase, engine := (g.engine.update dt_ms).1 } := by
  unfold advanceFeet
  obtain ⟨preview_phase, hpreview⟩ := applyPreview_frame { g.filterPose dt_ms with
    engine := (g.engine.update dt_ms).1 } dt_ms _ _
  exact ⟨_, _, _, hpreview⟩

theorem update_frame (g : GaitPipeline F) (cfg : RobotConfig) (dt_ms : UInt32) :
    ∃ pose apply_pose preview_phase, ∃ r : Ramp, (g.update cfg dt_ms).1 =
      { g with pose, apply_pose, preview_phase, engine := (g.engine.update dt_ms).1, toRamp := r } := by
  obtain ⟨pose, apply_pose, preview_phase, hadvance⟩ := advanceFeet_frame g dt_ms
  refine ⟨pose, apply_pose, preview_phase, (g.update cfg dt_ms).1.toRamp, ?_⟩
  show { (g.advanceFeet dt_ms).1 with toRamp := (g.update cfg dt_ms).1.toRamp } = _
  rw [hadvance]

end GaitPipeline

/-! ## Runs: the calls under one configuration, in any order -/

/-- A call on a `GaitPipeline`. -/
inductive PipelineCall (F : Type) where
  | setGait (id : GaitId)
  | setParams (body_height_mm stride_len_mm step_height_mm : UInt16) (duty_x255 speed_x255 : UInt8)
  | setTwist (vx vy wz : F)
  | setBodyPose (pose : BodyPose F)
  | setPreviewLeg (leg : Int8)
  | resetPhase
  | seedGoal (id : UInt8) (present_tick : UInt16)
  | update (dt_ms : UInt32)

def GaitPipeline.call (cfg : RobotConfig) (g : GaitPipeline F) :
    PipelineCall F → GaitPipeline F × List PipelineJoint
  | .setGait id => (g.setGait id, [])
  | .setParams body_height_mm stride_len_mm step_height_mm duty_x255 speed_x255 =>
    (g.setParams cfg body_height_mm stride_len_mm step_height_mm duty_x255 speed_x255, [])
  | .setTwist vx vy wz => (g.setTwist vx vy wz, [])
  | .setBodyPose pose => (g.setBodyPose pose, [])
  | .setPreviewLeg leg => (g.setPreviewLeg leg, [])
  | .resetPhase => (g.resetPhase, [])
  | .seedGoal id present_tick => (g.seedGoal cfg id present_tick, [])
  | .update dt_ms => ((g.update cfg dt_ms).1, (g.update cfg dt_ms).2.joints)

/-- An event of a pipeline run: the call is recorded with the goals it emitted. -/
abbrev PipelineEvent (F : Type) := Event (GaitPipeline F) (PipelineCall F × List PipelineJoint)

/-- From construction over `cfg`, the calls recorded in `h` lead to the pipeline `g`. -/
abbrev PipelineRun (cfg : RobotConfig) : List (PipelineEvent F) → GaitPipeline F → Prop :=
  Run (WithOutput (GaitPipeline.call cfg)) (GaitPipeline.new cfg)

end HexapodVerified.Gait
