import HexapodVerified.Gait.BodyIk

/-!
# The body command shaper

`controller/body_command_shaper.cpp`: rate limits on the body command. The diagnostic mode, which the
controller never selects, is modelled with the rest of the class.
-/

namespace HexapodVerified.Controller

open HexapodVerified.Config HexapodVerified.Gait FloatArith

variable {F : Type} [FloatArith F]

inductive CommandShaperMode where
  | accelLimited | directDiagnostic
  deriving DecidableEq, Repr

def kMaxBodyCommandIntegrationMs : UInt32 := 50

structure BodyCommand (F : Type) where
  vx : F
  vy : F
  wz : F
  body_height_mm : F
  height_rate_override_mm_per_s : F
  pose : BodyPose F

/-- `BodyCommand{}`. -/
def BodyCommand.default : BodyCommand F := ⟨lit 0, lit 0, lit 0, lit 132, lit 0, .neutral⟩

structure BodyCommandShaper (F : Type) where
  limits : BodyCommandLimits
  current : BodyCommand F
  mode : CommandShaperMode

def kMilliScale : F := lit 1 / lit 1000

namespace BodyCommandShaper

/-- The constructor: the members' initializers. -/
def new : BodyCommandShaper F where
  limits := {}
  current := .default
  mode := .accelLimited

def configure (b : BodyCommandShaper F) (limits : BodyCommandLimits) : BodyCommandShaper F :=
  if validateBodyCommandLimits limits then { b with limits } else b

def reset (b : BodyCommandShaper F) (body_height_mm : F) : BodyCommandShaper F :=
  { b with current := { BodyCommand.default with body_height_mm }, mode := .accelLimited }

def setMode (b : BodyCommandShaper F) (mode : CommandShaperMode) (diagnostic_mode_allowed : Bool) :
    BodyCommandShaper F × Bool :=
  if mode = .directDiagnostic ∧ !diagnostic_mode_allowed then (b, false) else ({ b with mode }, true)

def moveToward (current target max_delta : F) : F :=
  if le max_delta (lit 0) then current
  else
    let delta := target - current
    if lt max_delta delta then current + max_delta
    else if lt delta (-max_delta) then current - max_delta
    else target

def shapeTwist (current target positive_max negative_max accel decel dt_s : F) : F :=
  let target := clampf target (-negative_max) positive_max
  let accelerating := feq current (lit 0) ||
    (lt (lit 0) (current * target) && lt (fabs current) (fabs target))
  moveToward current target ((if accelerating then accel else decel) * dt_s)

def milli (v : UInt16) : F := ofUInt16 v * kMilliScale

def clampDesired (b : BodyCommandShaper F) (desired : BodyCommand F) : BodyCommand F :=
  { desired with
    vx := clampf desired.vx (-milli b.limits.max_reverse_milli) (milli b.limits.max_forward_milli)
    vy := clampf desired.vy (-milli b.limits.max_lateral_milli) (milli b.limits.max_lateral_milli)
    wz := clampf desired.wz (-milli b.limits.max_yaw_milli) (milli b.limits.max_yaw_milli) }

def heightRate (b : BodyCommandShaper F) (target : BodyCommand F) : F :=
  let height_rate : F :=
    if le b.current.body_height_mm target.body_height_mm then ofUInt16 b.limits.height_rise_mm_per_s
    else ofUInt16 b.limits.height_lower_mm_per_s
  if lt (lit 0) target.height_rate_override_mm_per_s then
    if lt (ofUInt16 kBodyHeightRateMaxMmPerS) target.height_rate_override_mm_per_s then
      ofUInt16 kBodyHeightRateMaxMmPerS
    else target.height_rate_override_mm_per_s
  else height_rate

/-- `BodyCommandShaper::update`; the result is the `current` of the shaper afterwards. -/
def update (b : BodyCommandShaper F) (desired : BodyCommand F) (dt_ms : UInt32) :
    BodyCommandShaper F :=
  let target := b.clampDesired desired
  match b.mode with
  | .directDiagnostic => { b with current := target }
  | .accelLimited =>
    let bounded_dt_ms :=
      if dt_ms > kMaxBodyCommandIntegrationMs then kMaxBodyCommandIntegrationMs else dt_ms
    let dt_s := ofUInt32 bounded_dt_ms / lit 1000
    if le dt_s (lit 0) then b
    else
      let l := b.limits
      let c := b.current
      let translation_delta := ofUInt16 l.pose_translation_rate_mm_per_s * dt_s
      let rotation_delta := ofUInt16 l.pose_rotation_rate_millirad_per_s * kMilliScale * dt_s
      { b with
        current :=
          { c with
            vx := shapeTwist c.vx target.vx (milli l.max_forward_milli) (milli l.max_reverse_milli)
              (milli l.forward_accel_milli_per_s) (milli l.forward_decel_milli_per_s) dt_s
            vy := shapeTwist c.vy target.vy (milli l.max_lateral_milli) (milli l.max_lateral_milli)
              (milli l.lateral_accel_milli_per_s) (milli l.lateral_decel_milli_per_s) dt_s
            wz := shapeTwist c.wz target.wz (milli l.max_yaw_milli) (milli l.max_yaw_milli)
              (milli l.yaw_accel_milli_per_s) (milli l.yaw_decel_milli_per_s) dt_s
            body_height_mm :=
              moveToward c.body_height_mm target.body_height_mm (b.heightRate target * dt_s)
            pose :=
              { x_mm := moveToward c.pose.x_mm target.pose.x_mm translation_delta
                y_mm := moveToward c.pose.y_mm target.pose.y_mm translation_delta
                z_mm := moveToward c.pose.z_mm target.pose.z_mm translation_delta
                roll := moveToward c.pose.roll target.pose.roll rotation_delta
                pitch := moveToward c.pose.pitch target.pose.pitch rotation_delta
                yaw := moveToward c.pose.yaw target.pose.yaw rotation_delta } } }

theorem update_frame (b : BodyCommandShaper F) (desired : BodyCommand F) (dt_ms : UInt32) :
    (b.update desired dt_ms).limits = b.limits ∧ (b.update desired dt_ms).mode = b.mode := by
  rcases b with ⟨limits, current, mode⟩
  unfold update
  cases mode with
  | directDiagnostic => exact ⟨rfl, rfl⟩
  | accelLimited =>
    dsimp only
    split <;> split <;> exact ⟨rfl, rfl⟩

end BodyCommandShaper

end HexapodVerified.Controller
