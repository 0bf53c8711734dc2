import HexapodVerified.Gait.BodyIk
import HexapodVerified.Host.RobotConfig

/-!
# The pose model of the companion

`companion/src/models/pose_model.py`: the forward kinematics of the companion, which draws the legs from the
joint angles that the robot reports. `math.hypot` is the square root of the sum of the squares.
-/

namespace HexapodVerified.Companion

open FloatArith Gait

variable {F : Type} [FloatArith F]

/-- `math.pi`, the double next to this constant. -/
def pi : F := lit 3.14159265358979323846

def COXA_LIFT_MM : F := lit 0
def HOME_RADIUS_MM : F := lit 126.75
def HOME_FOOT_Z_MM : F := lit (-131.73)
def HALF_PI : F := pi / lit 2

abbrev Point3 (F : Type) : Type := Point F

def hypot (x y : F) : F := FloatArith.sqrt (x * x + y * y)

/-- `LegPose`: the chain of a leg in the body frame and its angles. -/
structure LegPose (F : Type) where
  leg : Nat
  coxa_rad : F
  femur_rad : F
  tibia_rad : F
  hip : Point3 F
  femur_base : Point3 F
  knee : Point3 F
  foot : Point3 F

/-! ## `_LegFk` -/

structure LegFk (F : Type) where
  l1 : F
  l2 : F
  l3 : F
  femur_rest : F
  tibia_rest : F

namespace LegFk

/-- `_solve_raw_planar`; it reads the link lengths only. -/
def solveRawPlanar (l1 l2 l3 horiz dz : F) : F × F :=
  let planar_r := horiz - l1
  let d := hypot planar_r dz
  let cos_k := (d * d - l2 * l2 - l3 * l3) / (lit 2 * l2 * l3)
  let cos_k := fmax (lit (-1)) (fmin (lit 1) cos_k)
  -- the knee-out branch
  let beta := -FloatArith.acos cos_k
  let a := atan2 dz planar_r
  let b := atan2 (l3 * FloatArith.sin beta) (l2 + l3 * FloatArith.cos beta)
  (a - b, beta)

def new (l1_mm l2_mm l3_mm home_radius_mm home_foot_z_mm : F) : LegFk F :=
  let (femur_rest, tibia_rest) := solveRawPlanar l1_mm l2_mm l3_mm home_radius_mm home_foot_z_mm
  { l1 := l1_mm, l2 := l2_mm, l3 := l3_mm, femur_rest, tibia_rest }

/-- The hip, the base of the femur, the knee and the foot in the coxa frame. -/
def chain (fk : LegFk F) (coxa femur tibia : F) : Point3 F × Point3 F × Point3 F × Point3 F :=
  let alpha := femur + fk.femur_rest
  let beta := tibia + fk.tibia_rest
  let c := FloatArith.cos coxa
  let s := FloatArith.sin coxa
  let r_hip := lit 0
  let r_femur := fk.l1
  let r_knee := fk.l1 + fk.l2 * FloatArith.cos alpha
  let z_knee := fk.l2 * FloatArith.sin alpha
  let r_foot := r_knee + fk.l3 * FloatArith.cos (alpha + beta)
  let z_foot := z_knee + fk.l3 * FloatArith.sin (alpha + beta)
  (⟨r_hip * c, r_hip * s, lit 0⟩, ⟨r_femur * c, r_femur * s, lit 0⟩, ⟨r_knee * c, r_knee * s, z_knee⟩,
    ⟨r_foot * c, r_foot * s, z_foot⟩)

end LegFk

/-! ## `_LegXform` -/

structure LegXform (F : Type) where
  hip_x_mm : F
  hip_y_mm : F
  z_off_mm : F
  cos_a : F
  sin_a : F

namespace LegXform

def toBody (xf : LegXform F) (p : Point3 F) : Point3 F :=
  let dx := xf.cos_a * p.x + xf.sin_a * p.y
  let dy := -xf.sin_a * p.x + xf.cos_a * p.y
  ⟨xf.hip_x_mm + dx, xf.hip_y_mm + dy, xf.z_off_mm + p.z⟩

/-- `from_body`, which mirrors `footBodyToCoxa`. -/
def fromBody (xf : LegXform F) (p : Point3 F) : Point3 F :=
  let dx := p.x - xf.hip_x_mm
  let dy := p.y - xf.hip_y_mm
  ⟨xf.cos_a * dx - xf.sin_a * dy, xf.sin_a * dx + xf.cos_a * dy, p.z - xf.z_off_mm⟩

def ofLeg (coxa_lift_mm : F) (leg : Host.LegGeometry) : LegXform F :=
  let yaw := ofInt leg.mount_yaw_cdeg * (pi / lit 180) / lit 100
  let a := -(yaw + HALF_PI)
  { hip_x_mm := ofInt leg.mount_x_dmm / lit 10
    hip_y_mm := ofInt leg.mount_y_dmm / lit 10
    z_off_mm := ofInt leg.mount_z_dmm / lit 10 + coxa_lift_mm
    cos_a := FloatArith.cos a
    sin_a := FloatArith.sin a }

end LegXform

/-! ## `HexapodPoseModel` -/

/-- `LegReachAssessment`: what the reach of a leg says of a target. -/
structure LegReachAssessment (F : Type) where
  reachable : Bool
  inside_safe_margin : Bool
  distance_mm : F
  minimum_mm : F
  maximum_mm : F
  safe_minimum_mm : F
  safe_maximum_mm : F

structure HexapodPoseModel (F : Type) where
  fk : LegFk F
  xforms : List (LegXform F)
  angles : List (Vector F 3)
  legs : List (LegPose F)

namespace HexapodPoseModel

def numLegs (model : HexapodPoseModel F) : Nat := model.xforms.length

/-- The pose that `_recompute` stores. -/
def legPose (fk : LegFk F) (xf : LegXform F) (leg : Nat) (angles : Vector F 3) : LegPose F :=
  let (hip, femur_base, knee, foot) := fk.chain angles[0] angles[1] angles[2]
  { leg, coxa_rad := angles[0], femur_rad := angles[1], tibia_rad := angles[2]
    hip := xf.toBody hip, femur_base := xf.toBody femur_base, knee := xf.toBody knee
    foot := xf.toBody foot }

/-- `_recompute`, for a leg that exists. -/
def recompute (model : HexapodPoseModel F) (leg : Nat) : HexapodPoseModel F :=
  match model.angles[leg]?, model.xforms[leg]? with
  | some angles, some xf => { model with legs := model.legs.set leg (legPose model.fk xf leg angles) }
  | _, _ => model

/-- `set_joint_angle`. -/
def setJointAngle (model : HexapodPoseModel F) (leg joint : Int) (angle_rad : F) : HexapodPoseModel F :=
  if 0 ≤ leg ∧ leg < model.numLegs ∧ 0 ≤ joint ∧ joint < Host.JOINTS_PER_LEG then
    recompute { model with
      angles := model.angles.modify leg.toNat fun angles =>
        angles.setIfInBounds joint.toNat angle_rad } leg.toNat
  else model

/-- `leg(index).foot`. -/
def foot? (model : HexapodPoseModel F) (index : Nat) : Option (Point3 F) :=
  (model.legs[index]?).map LegPose.foot

/-- `assess_foot_target`, for a leg that exists. The link lengths that the constructor keeps for it are those
of the chain. -/
def assessFootTarget (model : HexapodPoseModel F) (leg : Nat) (x_mm y_mm z_mm : F) :
    Option (LegReachAssessment F) := do
  let xf ← model.xforms[leg]?
  let coxa := xf.fromBody ⟨x_mm, y_mm, z_mm⟩
  let planar_r := hypot coxa.x coxa.y - model.fk.l1
  let distance := hypot planar_r coxa.z
  let minimum := fabs (model.fk.l2 - model.fk.l3)
  let maximum := model.fk.l2 + model.fk.l3
  let margin := lit 0.01 * maximum
  let safe_minimum := minimum + margin
  let safe_maximum := lit 0.99 * maximum
  return {
    reachable := le minimum distance && le distance maximum
    inside_safe_margin := le safe_minimum distance && le distance safe_maximum
    distance_mm := distance
    minimum_mm := minimum
    maximum_mm := maximum
    safe_minimum_mm := safe_minimum
    safe_maximum_mm := safe_maximum }

/-- The home radius, the height of the home foot and the coxa lift that the constructor takes. A
configuration without a home radius is drawn with the reference stance. -/
def stance (geom : Host.BodyGeometry) : F × F × F :=
  if geom.home_radius_cmm ≠ 0 then
    (ofInt geom.home_radius_cmm / lit 100, ofInt geom.home_foot_z_cmm / lit 100,
      ofInt geom.coxa_lift_cmm / lit 100)
  else (HOME_RADIUS_MM, HOME_FOOT_Z_MM, COXA_LIFT_MM)

def new (config : Host.RobotConfig) : HexapodPoseModel F :=
  let (home_radius_mm, home_foot_z_mm, coxa_lift_mm) : F × F × F := stance config.geometry
  let fk := LegFk.new (ofInt config.links.coxa_cmm / lit 100) (ofInt config.links.femur_cmm / lit 100)
    (ofInt config.links.tibia_cmm / lit 100) home_radius_mm home_foot_z_mm
  let xforms := config.legs.map (LegXform.ofLeg coxa_lift_mm)
  let angles := config.legs.map fun _ => Vector.replicate 3 (lit 0)
  let legs := xforms.zipIdx.map fun (xf, leg) => legPose fk xf leg (Vector.replicate 3 (lit 0))
  { fk, xforms, angles, legs }

end HexapodPoseModel

end HexapodVerified.Companion
