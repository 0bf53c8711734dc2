import HexapodVerified.Config.ConfigSchema
import HexapodVerified.Lib.FloatArith

/-!
# Inverse kinematics

`gait/leg_ik.cpp`: a foot target in the coxa frame to joint angles, and the two reach-margin helpers.
Out-parameters become results.
-/

namespace HexapodVerified.Gait

open HexapodVerified.Config FloatArith

variable {F : Type} [FloatArith F]

structure Point (F : Type) where
  x : F
  y : F
  z : F

structure IkResult (F : Type) where
  coxa : F
  femur : F
  tibia : F
  reachable : Bool

/-- `LegIk`: link lengths and the raw angles of the home foot. -/
structure LegIk (F : Type) where
  l1 : F
  l2 : F
  l3 : F
  femur_rest : F
  tibia_rest : F

def kReachMarginFrac : F := lit 0.95

namespace LegIk

/-- `LegIk::solveRaw`; it reads the link lengths only. -/
def solveRaw (l1 l2 l3 : F) (p : Point F) : IkResult F :=
  let coxa := atan2 p.y p.x
  let horiz := FloatArith.sqrt (p.x * p.x + p.y * p.y)
  let planar_r := horiz - l1
  let dz := p.z
  let d := FloatArith.sqrt (planar_r * planar_r + dz * dz)
  let kReachEpsMm : F := lit 0.01
  let reach_max := l2 + l3
  let reach_min := fabs (l2 - l3)
  let reachable := le d (reach_max + kReachEpsMm) && le (reach_min - kReachEpsMm) d
  let cos_k := (d * d - l2 * l2 - l3 * l3) / (lit 2 * l2 * l3)
  let cos_k := clampf cos_k (lit (-1)) (lit 1)
  -- the knee-out branch
  let beta := -FloatArith.acos cos_k
  let a := atan2 dz planar_r
  let b := atan2 (l3 * FloatArith.sin beta) (l2 + l3 * FloatArith.cos beta)
  { coxa, femur := a - b, tibia := beta, reachable }

/-- The constructor: the rest angles are the raw angles at the home foot. -/
def new (l1_mm l2_mm l3_mm home_radius_mm home_foot_z_mm : F) : LegIk F :=
  let home := solveRaw l1_mm l2_mm l3_mm ⟨home_radius_mm, lit 0, home_foot_z_mm⟩
  { l1 := l1_mm, l2 := l2_mm, l3 := l3_mm, femur_rest := home.femur, tibia_rest := home.tibia }

def solve (ik : LegIk F) (p : Point F) : IkResult F :=
  let r := solveRaw ik.l1 ik.l2 ik.l3 p
  { r with femur := r.femur - ik.femur_rest, tibia := r.tibia - ik.tibia_rest }

def dMax (ik : LegIk F) : F := kReachMarginFrac * (ik.l2 + ik.l3)

def dMin (ik : LegIk F) : F :=
  fabs (ik.l2 - ik.l3) + (lit 1 - kReachMarginFrac) * (ik.l2 + ik.l3)

def withinReachMargin (ik : LegIk F) (p : Point F) : Bool :=
  let horiz := FloatArith.sqrt (p.x * p.x + p.y * p.y)
  let planar_r := horiz - ik.l1
  let d := FloatArith.sqrt (planar_r * planar_r + p.z * p.z)
  le ik.dMin d && le d ik.dMax

/-- `LegIk::clampToReach`: the adjusted target and whether it was modified. -/
def clampToReach (ik : LegIk F) (p : Point F) : Point F × Bool :=
  let horiz := FloatArith.sqrt (p.x * p.x + p.y * p.y)
  let planar_r := horiz - ik.l1
  let dz := p.z
  let d := FloatArith.sqrt (planar_r * planar_r + dz * dz)
  if le ik.dMin d && le d ik.dMax then (p, false)
  else
    let target_d := if lt ik.dMax d then ik.dMax else ik.dMin
    let (planar_r_new, dz_new) :=
      if lt (fabs dz) target_d then
        let r := FloatArith.sqrt (target_d * target_d - dz * dz)
        (if lt planar_r (lit 0) then -r else r, dz)
      else
        let s := target_d / d
        (planar_r * s, dz * s)
    let horiz_new := planar_r_new + ik.l1
    if lt (lit 0.000001) horiz then
      let k := horiz_new / horiz
      (⟨p.x * k, p.y * k, dz_new⟩, true)
    else (⟨horiz_new, lit 0, dz_new⟩, true)

end LegIk

/-!
## Body pose transform

`gait/body_ik.cpp`: from the body frame into a leg's coxa frame, with or without a body pose, and on
to the leg solver.
-/

structure BodyPose (F : Type) where
  x_mm : F
  y_mm : F
  z_mm : F
  roll : F
  pitch : F
  yaw : F

/-- `BodyPose{}`. -/
def BodyPose.neutral : BodyPose F := ⟨lit 0, lit 0, lit 0, lit 0, lit 0, lit 0⟩

structure LegXform (F : Type) where
  hip_x_mm : F
  hip_y_mm : F
  z_off_mm : F
  cos_a : F
  sin_a : F

structure BodyKinematics (F : Type) where
  legs : Fin kNumLegs → LegXform F
  ik : LegIk F

namespace BodyKinematics

def legXform (g : LegGeometry) (coxa_lift_mm : F) : LegXform F :=
  let kPi : F := lit 3.14159265358979323846
  let yaw_rad := ofInt16 g.mount_yaw_cdeg * (kPi / lit 180 / lit 100)
  let a := -(yaw_rad + kPi / lit 2)
  { hip_x_mm := ofInt16 g.mount_x_dmm / lit 10
    hip_y_mm := ofInt16 g.mount_y_dmm / lit 10
    z_off_mm := ofInt16 g.mount_z_dmm / lit 10 + coxa_lift_mm
    cos_a := FloatArith.cos a
    sin_a := FloatArith.sin a }

def new (cfg : RobotConfig) : BodyKinematics F :=
  let coxa_lift_mm : F := ofUInt16 cfg.geometry.coxa_lift_cmm / lit 100
  { legs := fun leg => legXform (cfg.legs.get leg) coxa_lift_mm
    ik := LegIk.new (ofUInt16 cfg.links.coxa_cmm / lit 100) (ofUInt16 cfg.links.femur_cmm / lit 100)
      (ofUInt16 cfg.links.tibia_cmm / lit 100) (ofUInt16 cfg.geometry.home_radius_cmm / lit 100)
      (ofInt16 cfg.geometry.home_foot_z_cmm / lit 100) }

variable (body : BodyKinematics F) (leg : Fin kNumLegs)

/-- `BodyKinematics::footBodyToCoxa`, for a leg that exists. -/
def footBodyToCoxa (p : Point F) : Point F :=
  let x := body.legs leg
  let dx := p.x - x.hip_x_mm
  let dy := p.y - x.hip_y_mm
  ⟨x.cos_a * dx - x.sin_a * dy, x.sin_a * dx + x.cos_a * dy, p.z - x.z_off_mm⟩

def applyBodyPose (pose : BodyPose F) (w : Point F) : Point F :=
  let cy := FloatArith.cos pose.yaw
  let sy := FloatArith.sin pose.yaw
  let cp := FloatArith.cos pose.pitch
  let sp := FloatArith.sin pose.pitch
  let cr := FloatArith.cos pose.roll
  let sr := FloatArith.sin pose.roll
  let r00 := cy * cp
  let r01 := cy * sp * sr - sy * cr
  let r02 := cy * sp * cr + sy * sr
  let r10 := sy * cp
  let r11 := sy * sp * sr + cy * cr
  let r12 := sy * sp * cr - cy * sr
  let r20 := -sp
  let r21 := cp * sr
  let r22 := cp * cr
  let vx := w.x - pose.x_mm
  let vy := w.y - pose.y_mm
  let vz := w.z - pose.z_mm
  ⟨r00 * vx + r10 * vy + r20 * vz, r01 * vx + r11 * vy + r21 * vz, r02 * vx + r12 * vy + r22 * vz⟩

def solveBody (p : Point F) : IkResult F := body.ik.solve (body.footBodyToCoxa leg p)

def solveBodyPose (pose : BodyPose F) (w : Point F) : IkResult F :=
  body.solveBody leg (applyBodyPose pose w)

/-- `BodyKinematics::solveBodyLimited`: the solution and `reach_limited`. -/
def solveBodyLimited (p : Point F) : IkResult F × Bool :=
  let (q, reach_limited) := body.ik.clampToReach (body.footBodyToCoxa leg p)
  (body.ik.solve q, reach_limited)

def solveBodyPoseLimited (pose : BodyPose F) (w : Point F) : IkResult F × Bool :=
  body.solveBodyLimited leg (applyBodyPose pose w)

/-- The bisection of `bodyTargetPathScale`. -/
def bisectScale (anchor target : Point F) : Nat → F → F → F
  | 0, reachable, _ => reachable
  | iteration + 1, reachable, unreachable =>
    let scale := lit 0.5 * (reachable + unreachable)
    let q : Point F := ⟨anchor.x + (target.x - anchor.x) * scale,
      anchor.y + (target.y - anchor.y) * scale, anchor.z + (target.z - anchor.z) * scale⟩
    if body.ik.withinReachMargin q then bisectScale anchor target iteration scale unreachable
    else bisectScale anchor target iteration reachable scale

/-- `BodyKinematics::bodyTargetPathScale`, for a leg that exists. -/
def bodyTargetPathScale (anchor target : Point F) : F :=
  let t := body.footBodyToCoxa leg target
  if body.ik.withinReachMargin t then lit 1
  else
    let a := body.footBodyToCoxa leg anchor
    if !body.ik.withinReachMargin a then lit 0
    else body.bisectScale a t 8 (lit 0) (lit 1)

end BodyKinematics

end HexapodVerified.Gait
