import HexapodVerified.Gait.BodyIk
import HexapodVerified.Lib.Runs

/-!
# The gait engine

`gait/gait_engine.cpp`: foot targets in the body frame for the six gaits. `update` advances the
parameter filters and the gait phase and returns the targets of the legs.
-/

namespace HexapodVerified.Gait

open HexapodVerified.Config FloatArith Transition

variable {F : Type} [FloatArith F]

/-- A `GaitId` stored as a number. The schema admits no number above `Crawl`; the switches of the
engine treat one as they treat `Crawl`. -/
def gaitOfStored : UInt8 → GaitId
  | 0 => .stand
  | 1 => .sit
  | 2 => .tripod
  | 3 => .ripple
  | 4 => .wave
  | _ => .crawl

structure MarkIiiGait where
  steps : Nat
  travel_divisor : Nat
  origin : Vector Nat kNumLegs

def kTripod : MarkIiiGait := ⟨8, 4, #v[5, 1, 5, 1, 5, 1]⟩
def kRipple : MarkIiiGait := ⟨12, 8, #v[1, 7, 11, 3, 9, 5]⟩
def kWave : MarkIiiGait := ⟨24, 20, #v[1, 13, 17, 21, 9, 5]⟩

def gaitDefinition : GaitId → MarkIiiGait
  | .tripod => kTripod
  | .ripple => kRipple
  | _ => kWave

/-- `keyframe`: the longitudinal position and the lift of a leg at a gait step. -/
def keyframe (gait : MarkIiiGait) (leg : Fin kNumLegs) (gait_step : Nat) : F × F :=
  let relative := (gait_step + gait.steps - gait.origin.get leg) % gait.steps
  if relative = 0 then (lit 0, lit 1)
  else if relative = 1 then (lit 0.5, lit 0.5)
  else if relative = 2 then (lit 0.5, lit 0)
  else if relative = gait.steps - 1 then (lit (-0.5), lit 0.5)
  else (lit 0.5 - ofInt (relative - 2) / ofInt gait.travel_divisor, lit 0)

/-- `kHomeFootXy`: the measured home feet. -/
def kHomeFootXy : Fin kNumLegs → F × F
  | 0 => (lit (-155.2), lit (-205.2))
  | 1 => (lit 155.2, lit (-205.2))
  | 2 => (lit 196.5, lit 0)
  | 3 => (lit 155.2, lit 205.2)
  | 4 => (lit (-155.2), lit 205.2)
  | 5 => (lit (-196.5), lit 0)

def kMaxStrideMm : F := lit 80
def kMaxStepMm : F := lit 50
def kMinFootZMm : F := lit (-158)
def kMaxFootZMm : F := lit (-15)
def kSitFootZMm : F := lit (-60)
def kStrokeEnvelopeFrac : F := lit 0.5
def kMaxLegRadiusMm : F := lit 257.3
def kMinStepPeriodMs : F := lit 60
def kNeutralStepPeriodMs : F := lit 80
def kMaxStepPeriodMs : F := lit 120
def kTwistParkPos : F := lit 0.03
def kParamFilterTau : F := lit 0.25
def kMotionDeadband : F := lit 0.03

/-- `rcBodyHeightMm`: the height the Pot2 fraction asks for. -/
def rcBodyHeightMm (frac : F) : F :=
  let frac := clampf frac (lit 0) (lit 1)
  if lt frac (lit 0.5) then lit 132 - (lit 0.5 - frac) * lit 2 * (lit 132 - lit 65)
  else lit 132 + (frac - lit 0.5) * lit 2 * (lit 150 - lit 132)

structure BodyTwist (F : Type) where
  vx : F
  vy : F
  wz : F

structure FootTarget (F : Type) where
  x_mm : F
  y_mm : F
  z_mm : F
  swing : Bool

structure GaitEngine (F : Type) where
  gait : GaitId
  phase : F
  gait_step_phase : F
  stride_mm : F
  step_mm : F
  body_height_mm : F
  speed : F
  stride_target : F
  step_target : F
  height_target : F
  speed_target : F
  params_seeded : Bool
  twist : BodyTwist F

namespace GaitEngine

/-- The constructor: the members' initializers. -/
def new : GaitEngine F where
  gait := .stand
  phase := lit 0
  gait_step_phase := lit 0
  stride_mm := lit 60
  step_mm := lit 30
  body_height_mm := lit 132
  speed := lit 0.5
  stride_target := lit 60
  step_target := lit 30
  height_target := lit 132
  speed_target := lit 0.5
  params_seeded := false
  twist := ⟨lit 0, lit 0, lit 0⟩

def configure (e : GaitEngine F) (d : GaitDefaults) : GaitEngine F :=
  let stride_target := clampf (ofUInt16 d.stride_len_mm) (lit 0) kMaxStrideMm
  let step_target := clampf (ofUInt16 d.step_height_mm) (lit 0) kMaxStepMm
  let height_target := ofUInt16 d.body_height_mm
  let speed_target := clampf (ofUInt8 d.speed_x255 / lit 255) (lit 0) (lit 1)
  let e := { e with gait := gaitOfStored d.gait, stride_target, step_target, height_target,
                    speed_target }
  if e.params_seeded then e
  else { e with stride_mm := stride_target, step_mm := step_target,
                body_height_mm := height_target, speed := speed_target, params_seeded := true }

def setGait (e : GaitEngine F) (g : GaitId) : GaitEngine F := { e with gait := g }

def setTwist (e : GaitEngine F) (t : BodyTwist F) : GaitEngine F :=
  let axis (v : F) : F :=
    let v := clampf v (lit (-1)) (lit 1)
    if le (fabs v) kMotionDeadband then lit 0 else v
  { e with twist := ⟨axis t.vx, axis t.vy, axis t.wz⟩ }

def reset (e : GaitEngine F) : GaitEngine F := { e with phase := lit 0, gait_step_phase := lit 0 }

/-- `GaitEngine::homeFoot`, also called `nominalFoot`. -/
def homeFoot (e : GaitEngine F) (leg : Fin kNumLegs) : Point F :=
  ⟨(kHomeFootXy leg).1, (kHomeFootXy leg).2, -e.body_height_mm⟩

/-- `GaitEngine::footAt`, also called `motionEnvelopeFoot`. -/
def footAt (e : GaitEngine F) (leg : Fin kNumLegs) (longitudinal lift_fraction : F) : Point F :=
  let home := e.homeFoot leg
  let yaw_ratio := clampf (e.stride_mm / (lit 2 * kMaxLegRadiusMm)) (lit 0) (lit 1)
  let yaw_travel := lit 2 * FloatArith.asin yaw_ratio
  let yaw := e.twist.wz * yaw_travel * longitudinal
  let cosine := FloatArith.cos yaw
  let sine := FloatArith.sin yaw
  ⟨home.x * cosine - home.y * sine + e.twist.vx * e.stride_mm * longitudinal,
    home.x * sine + home.y * cosine + e.twist.vy * e.stride_mm * longitudinal,
    clampf (home.z + e.step_mm * clampf lift_fraction (lit 0) (lit 1)) kMinFootZMm kMaxFootZMm⟩

def previewFoot (e : GaitEngine F) (leg : Fin kNumLegs) (phase : F) : Point F :=
  let home := e.homeFoot leg
  let phase := phase - FloatArith.floor phase
  let (longitudinal, lift) :=
    if lt phase (lit 0.5) then
      let u := phase * lit 2
      (lit (-0.5) + u, FloatArith.sin (lit 3.14159265 * u))
    else
      let u := (phase - lit 0.5) * lit 2
      (lit 0.5 - u, lit 0)
  ⟨home.x, home.y + e.stride_mm * longitudinal,
    clampf (home.z + e.step_mm * lift) kMinFootZMm kMaxFootZMm⟩

def stepPeriodMs (e : GaitEngine F) : F :=
  let kNeutralSpeed : F := lit 128 / lit 255
  if le e.speed kNeutralSpeed then
    kMaxStepPeriodMs - (kMaxStepPeriodMs - kNeutralStepPeriodMs) * (e.speed / kNeutralSpeed)
  else
    kNeutralStepPeriodMs - (kNeutralStepPeriodMs - kMinStepPeriodMs) *
      ((e.speed - kNeutralSpeed) / (lit 1 - kNeutralSpeed))

/-- The `while` loop that wraps the gait phase. The first argument bounds its iterations. -/
def wrapPhase (steps : F) : Nat → F → F
  | 0, phase => phase
  | fuel + 1, phase => if le steps phase then wrapPhase steps fuel (phase - steps) else phase

/-- The filters of `GaitEngine::update`. -/
def advanceFilters (e : GaitEngine F) (dt_ms : UInt32) : GaitEngine F :=
  let dt_s := ofUInt32 dt_ms / lit 1000
  let pk := if le kParamFilterTau dt_s then lit 1 else dt_s / kParamFilterTau
  { e with
    stride_mm := e.stride_mm + (e.stride_target - e.stride_mm) * pk
    step_mm := e.step_mm + (e.step_target - e.step_mm) * pk
    body_height_mm := e.body_height_mm + (e.height_target - e.body_height_mm) * pk
    speed := e.speed + (e.speed_target - e.speed) * pk }

/-- The twist `GaitEngine::update` parks when every axis is near zero. -/
def parkTwist (t : BodyTwist F) : BodyTwist F :=
  if lt (fabs t.vx) kTwistParkPos && lt (fabs t.vy) kTwistParkPos && lt (fabs t.wz) kTwistParkPos
  then ⟨lit 0, lit 0, lit 0⟩ else t

/-- The stepping part of `GaitEngine::update`. The phase advances by at most one step every 60 ms
and the loop takes off at least eight, so `dt_ms + 4` iterations are enough. -/
def stepFeet (e : GaitEngine F) (dt_ms : UInt32) : GaitEngine F × (Fin kNumLegs → FootTarget F) :=
  let gait := gaitDefinition e.gait
  let steps : F := ofInt gait.steps
  let gait_step_phase := wrapPhase steps (dt_ms.toNat + 4)
    (e.gait_step_phase + ofUInt32 dt_ms / e.stepPeriodMs)
  let e := { e with gait_step_phase, phase := gait_step_phase / steps }
  let current_step := (trunc (FloatArith.floor gait_step_phase)).toNat % 256 + 1
  let next_step := if current_step = gait.steps then 1 else current_step + 1
  let interpolation := gait_step_phase - FloatArith.floor gait_step_phase
  (e, fun leg =>
    let current : F × F := keyframe gait leg current_step
    let next : F × F := keyframe gait leg next_step
    let longitudinal := current.1 + (next.1 - current.1) * interpolation
    let lift := current.2 + (next.2 - current.2) * interpolation
    let foot := e.footAt leg longitudinal lift
    { x_mm := foot.x, y_mm := foot.y, z_mm := foot.z, swing := lt (lit 0.0001) lift })

def heldFoot (e : GaitEngine F) (leg : Fin kNumLegs) : FootTarget F :=
  let home := e.homeFoot leg
  { x_mm := home.x, y_mm := home.y, z_mm := home.z, swing := false }

def update (e : GaitEngine F) (dt_ms : UInt32) : GaitEngine F × (Fin kNumLegs → FootTarget F) :=
  let e := e.advanceFilters dt_ms
  match e.gait with
  | .stand => (e, e.heldFoot)
  | .sit => (e, fun leg => { e.heldFoot leg with z_mm := kSitFootZMm })
  | _ =>
    let e := { e with twist := parkTwist e.twist }
    let command_scale := fmax (fabs e.twist.vx) (fmax (fabs e.twist.vy) (fabs e.twist.wz))
    if le command_scale (lit 0) then (e, e.heldFoot) else e.stepFeet dt_ms

/-- What the filters head for stays. -/
theorem update_frame (e : GaitEngine F) (dt_ms : UInt32) :
    ∃ stride_mm step_mm body_height_mm speed twist gait_step_phase phase, (e.update dt_ms).1 =
      { e with stride_mm, step_mm, body_height_mm, speed, twist, gait_step_phase, phase } := by
  unfold update
  dsimp only
  split
  · exact ⟨_, _, _, _, _, _, _, rfl⟩
  · exact ⟨_, _, _, _, _, _, _, rfl⟩
  · split_ifs <;> exact ⟨_, _, _, _, _, _, _, rfl⟩

end GaitEngine

/-! ## Runs: the calls of an engine, in any order -/

/-- A call on a `GaitEngine`. -/
inductive EngineCall (F : Type) where
  | configure (d : GaitDefaults)
  | setGait (id : GaitId)
  | setTwist (t : BodyTwist F)
  | reset
  | update (dt_ms : UInt32)

def GaitEngine.after (e : GaitEngine F) : EngineCall F → GaitEngine F
  | .configure d => e.configure d
  | .setGait id => e.setGait id
  | .setTwist t => e.setTwist t
  | .reset => e.reset
  | .update dt_ms => (e.update dt_ms).1

/-- From construction, the calls recorded in `h` lead to the engine `e`. -/
abbrev EngineRun : List (Event (GaitEngine F) (EngineCall F)) → GaitEngine F → Prop :=
  Run (Deterministic GaitEngine.after) GaitEngine.new

end HexapodVerified.Gait
