import HexapodVerified.Companion.PoseModel
import HexapodVerified.Gait.Proofs.KinematicsProofs
import HexapodVerified.Host.Proofs.RobotConfigProofs

/-!
# The pose model in exact arithmetic

In exact arithmetic the pose model of the companion has the geometry of the controller: the same rest angles
and the same placement of the legs. Its forward kinematics is the planar arm that the leg solver of the
controller inverts.
-/

namespace HexapodVerified.Companion

open Config Gait Host PlanarArm

/-- The model is one of the configuration: its geometry is, and every leg has its lists. -/
structure Built {F : Type} [FloatArith F] (config : Host.RobotConfig) (model : HexapodPoseModel F) :
    Prop where
  fk : model.fk = (HexapodPoseModel.new config).fk
  xforms : model.xforms = (HexapodPoseModel.new config).xforms
  angles : model.angles.length = model.xforms.length
  legs : model.legs.length = model.xforms.length

section

variable {F : Type} [FloatArith F] {config : Host.RobotConfig} {model : HexapodPoseModel F}

theorem built_new (config : Host.RobotConfig) :
    Built config (HexapodPoseModel.new config : HexapodPoseModel F) where
  fk := rfl
  xforms := rfl
  angles := by simp [HexapodPoseModel.new]
  legs := by simp [HexapodPoseModel.new]

theorem Built.recompute (h : Built config model) (leg : Nat) : Built config (model.recompute leg) := by
  unfold HexapodPoseModel.recompute
  split
  · exact ⟨h.fk, h.xforms, h.angles, by rw [List.length_set]; exact h.legs⟩
  · exact h

theorem Built.setJointAngle (h : Built config model) (leg joint : Int) (angle_rad : F) :
    Built config (model.setJointAngle leg joint angle_rad) := by
  unfold HexapodPoseModel.setJointAngle
  split
  · apply Built.recompute
    exact ⟨h.fk, h.xforms, by rw [List.length_modify]; exact h.angles, h.legs⟩
  · exact h

/-- One call of `set_joint_angle`: the leg, the joint and the angle. -/
abbrev Feed (F : Type) : Type := Int × Int × F

def HexapodPoseModel.feedAll (model : HexapodPoseModel F) (feeds : List (Feed F)) :
    HexapodPoseModel F :=
  feeds.foldl (fun model feed => model.setJointAngle feed.1 feed.2.1 feed.2.2) model

theorem Built.feedAll (h : Built config model) (feeds : List (Feed F)) :
    Built config (model.feedAll feeds) := by
  induction feeds generalizing model with
  | nil => exact h
  | cons feed feeds ih => exact ih (h.setJointAngle _ _ _)

def HexapodPoseModel.setLeg (model : HexapodPoseModel F) (leg : Int) (coxa femur tibia : F) :
    HexapodPoseModel F :=
  ((model.setJointAngle leg 0 coxa).setJointAngle leg 1 femur).setJointAngle leg 2 tibia

theorem setJointAngle_eq (h : Built config model) {leg joint : Nat} (hjoint : joint < 3) (angle_rad : F)
    {angles : Vector F 3} {xf : LegXform F} (hangles : model.angles[leg]? = some angles)
    (hxf : model.xforms[leg]? = some xf) :
    (model.setJointAngle leg joint angle_rad).angles[leg]? =
        some (angles.setIfInBounds joint angle_rad) ∧
      (model.setJointAngle leg joint angle_rad).xforms[leg]? = some xf ∧
      (model.setJointAngle leg joint angle_rad).fk = model.fk ∧
      (model.setJointAngle leg joint angle_rad).legs[leg]? =
        some (HexapodPoseModel.legPose model.fk xf leg (angles.setIfInBounds joint angle_rad)) := by
  have hleg : leg < model.xforms.length := (List.getElem?_eq_some_iff.mp hxf).1
  have hlegs : leg < model.legs.length := by
    rw [h.legs]
    exact hleg
  have hguard : 0 ≤ (leg : Int) ∧ (leg : Int) < model.numLegs ∧ 0 ≤ (joint : Int) ∧
      (joint : Int) < JOINTS_PER_LEG :=
    ⟨Int.natCast_nonneg _, Int.ofNat_lt.mpr hleg, Int.natCast_nonneg _, Int.ofNat_lt.mpr hjoint⟩
  have hset : (model.angles.modify leg fun angles => angles.setIfInBounds joint angle_rad)[leg]? =
      some (angles.setIfInBounds joint angle_rad) := by
    rw [List.getElem?_modify_eq, hangles]
    rfl
  unfold HexapodPoseModel.setJointAngle HexapodPoseModel.recompute
  rw [if_pos hguard, Int.toNat_natCast, Int.toNat_natCast]
  simp only [hset, hxf]
  exact ⟨trivial, trivial, trivial, List.getElem?_set_self hlegs⟩

theorem foot_setLeg (h : Built config model) {leg : Nat} {xf : LegXform F}
    (hxf : model.xforms[leg]? = some xf) (coxa femur tibia : F) :
    (model.setLeg leg coxa femur tibia).foot? leg =
      some (xf.toBody (model.fk.chain coxa femur tibia).2.2.2) := by
  have hleg : leg < model.angles.length := by
    rw [h.angles]
    exact (List.getElem?_eq_some_iff.mp hxf).1
  have hangles : model.angles[leg]? = some model.angles[leg] := List.getElem?_eq_getElem hleg
  have h0 : 0 < 3 := by decide
  have h1 : 1 < 3 := by decide
  have h2 : 2 < 3 := by decide
  obtain ⟨hangles, hxf, hfk, -⟩ := setJointAngle_eq h h0 coxa hangles hxf
  obtain ⟨hangles, hxf, hfk', -⟩ :=
    setJointAngle_eq (h.setJointAngle _ _ _) h1 femur hangles hxf
  obtain ⟨-, -, -, hlegs⟩ :=
    setJointAngle_eq ((h.setJointAngle _ _ _).setJointAngle _ _ _) h2 tibia hangles hxf
  unfold HexapodPoseModel.foot? HexapodPoseModel.setLeg
  rw [show ((1 : Int)) = ((1 : Nat) : Int) from rfl, show ((2 : Int)) = ((2 : Nat) : Int) from rfl,
    show ((0 : Int)) = ((0 : Nat) : Int) from rfl, hlegs, hfk', hfk]
  simp [HexapodPoseModel.legPose]

end

variable {cfg : Config.RobotConfig} {name : String}

theorem clamp_eq (c : ℝ) : FloatArith.fmax (FloatArith.lit (-1)) (FloatArith.fmin (FloatArith.lit 1) c) =
    FloatArith.clampf c (FloatArith.lit (-1)) (FloatArith.lit 1) := by
  have hlit : ((-1 : ℚ) : ℝ) = -1 := by norm_num
  have hlit' : ((1 : ℚ) : ℝ) = 1 := by norm_num
  show (if decide (((-1 : ℚ) : ℝ) < if decide (c < ((1 : ℚ) : ℝ)) = true then c else ((1 : ℚ) : ℝ)) = true
      then if decide (c < ((1 : ℚ) : ℝ)) = true then c else ((1 : ℚ) : ℝ) else ((-1 : ℚ) : ℝ)) =
    if decide (c < ((-1 : ℚ) : ℝ)) = true then ((-1 : ℚ) : ℝ)
      else if decide (((1 : ℚ) : ℝ) < c) = true then ((1 : ℚ) : ℝ) else c
  simp only [hlit, hlit', decide_eq_true_eq]
  split_ifs <;> linarith

theorem solveRawPlanar_eq (l1 l2 l3 : ℝ) {horiz : ℝ} (hhoriz : 0 ≤ horiz) (dz : ℝ) :
    LegFk.solveRawPlanar l1 l2 l3 horiz dz =
      ((LegIk.solveRaw l1 l2 l3 ⟨horiz, FloatArith.lit 0, dz⟩).femur,
        (LegIk.solveRaw l1 l2 l3 ⟨horiz, FloatArith.lit 0, dz⟩).tibia) := by
  have hsqrt : FloatArith.sqrt (horiz * horiz + FloatArith.lit 0 * FloatArith.lit 0) = horiz := by
    show √(horiz * horiz + ((0 : ℚ) : ℝ) * ((0 : ℚ) : ℝ)) = horiz
    rw [Rat.cast_zero, mul_zero, add_zero, Real.sqrt_mul_self hhoriz]
  unfold LegFk.solveRawPlanar LegIk.solveRaw hypot
  simp only [clamp_eq, hsqrt]

theorem chain_foot (fk : LegFk ℝ) (coxa femur tibia : ℝ) : (fk.chain coxa femur tibia).2.2.2 =
    let end_ := hand fk.l2 fk.l3 (femur + fk.femur_rest) (tibia + fk.tibia_rest)
    ⟨(fk.l1 + end_.re) * Real.cos coxa, (fk.l1 + end_.re) * Real.sin coxa, end_.im⟩ := by
  have hchain : (fk.chain coxa femur tibia).2.2.2 =
      ⟨(fk.l1 + fk.l2 * Real.cos (femur + fk.femur_rest) + fk.l3 * Real.cos (femur + fk.femur_rest +
          (tibia + fk.tibia_rest))) * Real.cos coxa,
        (fk.l1 + fk.l2 * Real.cos (femur + fk.femur_rest) + fk.l3 * Real.cos (femur + fk.femur_rest +
          (tibia + fk.tibia_rest))) * Real.sin coxa,
        fk.l2 * Real.sin (femur + fk.femur_rest) + fk.l3 * Real.sin (femur + fk.femur_rest +
          (tibia + fk.tibia_rest))⟩ := rfl
  rw [hchain, hand_eq]
  simp only [add_assoc]

theorem stance_host (hradius : cfg.geometry.home_radius_cmm ≠ 0) :
    (HexapodPoseModel.stance (hostConfig name cfg).geometry : ℝ × ℝ × ℝ) =
      (FloatArith.ofUInt16 cfg.geometry.home_radius_cmm / FloatArith.lit 100,
        FloatArith.ofInt16 cfg.geometry.home_foot_z_cmm / FloatArith.lit 100,
        FloatArith.ofUInt16 cfg.geometry.coxa_lift_cmm / FloatArith.lit 100) := by
  have hne : (hostConfig name cfg).geometry.home_radius_cmm ≠ 0 := fun h =>
    hradius (UInt16.toNat_inj.mp (Int.ofNat_inj.mp h))
  rw [HexapodPoseModel.stance, if_pos hne]
  rfl

theorem fk_eq (hradius : cfg.geometry.home_radius_cmm ≠ 0) :
    (HexapodPoseModel.new (hostConfig name cfg)).fk =
      let ik := (BodyKinematics.new cfg : BodyKinematics ℝ).ik
      { l1 := ik.l1, l2 := ik.l2, l3 := ik.l3, femur_rest := ik.femur_rest, tibia_rest := ik.tibia_rest } := by
  have hnonneg : (0 : ℝ) ≤ FloatArith.ofUInt16 cfg.geometry.home_radius_cmm / FloatArith.lit 100 := by
    show (0 : ℝ) ≤ ((cfg.geometry.home_radius_cmm.toNat : Int) : ℝ) / ((100 : ℚ) : ℝ)
    positivity
  unfold HexapodPoseModel.new
  rw [stance_host hradius]
  dsimp only
  unfold LegFk.new
  rw [solveRawPlanar_eq _ _ _ hnonneg]
  rfl

def placement {F : Type} (x : Gait.LegXform F) : LegXform F :=
  { hip_x_mm := x.hip_x_mm, hip_y_mm := x.hip_y_mm, z_off_mm := x.z_off_mm, cos_a := x.cos_a
    sin_a := x.sin_a }

theorem ofLeg_hostLeg (g : Config.LegGeometry) (coxa_lift_mm : ℝ) :
    LegXform.ofLeg coxa_lift_mm (hostLeg g) = placement (BodyKinematics.legXform g coxa_lift_mm) := by
  have hyaw : (FloatArith.ofInt g.mount_yaw_cdeg.toInt * (pi / FloatArith.lit 180) / FloatArith.lit 100 : ℝ) =
      FloatArith.ofInt16 g.mount_yaw_cdeg *
        (FloatArith.lit 3.14159265358979323846 / FloatArith.lit 180 / FloatArith.lit 100) := by
    show ((g.mount_yaw_cdeg.toInt : ℝ) * (((3.14159265358979323846 : ℚ) : ℝ) / ((180 : ℚ) : ℝ)) /
      ((100 : ℚ) : ℝ)) = _ * (((3.14159265358979323846 : ℚ) : ℝ) / ((180 : ℚ) : ℝ) / ((100 : ℚ) : ℝ))
    rw [mul_div_assoc]
    rfl
  unfold LegXform.ofLeg
  dsimp only [hostLeg]
  rw [hyaw]
  rfl

theorem xforms_eq (hradius : cfg.geometry.home_radius_cmm ≠ 0) (leg : Fin kNumLegs) :
    (HexapodPoseModel.new (hostConfig name cfg)).xforms[leg.val]? =
      some (placement ((BodyKinematics.new cfg : BodyKinematics ℝ).legs leg)) := by
  unfold HexapodPoseModel.new
  rw [stance_host hradius]
  dsimp only [hostConfig]
  rw [List.getElem?_map, List.getElem?_map, Vector.getElem?_toList, Vector.getElem?_eq_getElem leg.isLt]
  exact congrArg some (ofLeg_hostLeg _ _)

variable {body : BodyKinematics ℝ} {leg : Fin kNumLegs}

theorem toBody_footBodyToCoxa (hunit : (body.legs leg).cos_a ^ 2 + (body.legs leg).sin_a ^ 2 = 1)
    (p : Point ℝ) : (placement (body.legs leg)).toBody (body.footBodyToCoxa leg p) = p := by
  obtain ⟨px, py, pz⟩ := p
  generalize hx : body.legs leg = x at hunit
  obtain ⟨hip_x, hip_y, z_off, c, s⟩ := x
  unfold LegXform.toBody placement BodyKinematics.footBodyToCoxa
  rw [hx]
  dsimp only at hunit ⊢
  congr 1
  · show hip_x + (c * (c * (px - hip_x) - s * (py - hip_y)) + s * (s * (px - hip_x) + c * (py - hip_y))) = px
    linear_combination (px - hip_x) * hunit
  · show hip_y + (-s * (c * (px - hip_x) - s * (py - hip_y)) + c * (s * (px - hip_x) + c * (py - hip_y))) = py
    linear_combination (py - hip_y) * hunit
  · show z_off + (pz - z_off) = pz
    ring

theorem footBodyToCoxa_toBody (hunit : (body.legs leg).cos_a ^ 2 + (body.legs leg).sin_a ^ 2 = 1)
    (p : Point ℝ) : body.footBodyToCoxa leg ((placement (body.legs leg)).toBody p) = p := by
  obtain ⟨px, py, pz⟩ := p
  generalize hx : body.legs leg = x at hunit
  obtain ⟨hip_x, hip_y, z_off, c, s⟩ := x
  unfold BodyKinematics.footBodyToCoxa LegXform.toBody placement
  rw [hx]
  dsimp only at hunit ⊢
  congr 1
  · show c * (hip_x + (c * px + s * py) - hip_x) - s * (hip_y + (-s * px + c * py) - hip_y) = px
    linear_combination px * hunit
  · show s * (hip_x + (c * px + s * py) - hip_x) + c * (hip_y + (-s * px + c * py) - hip_y) = py
    linear_combination py * hunit
  · show z_off + pz - z_off = pz
    ring

/-- The joint angles of a leg as the solver reports them. -/
def HexapodPoseModel.feedResult {F : Type} [FloatArith F] (model : HexapodPoseModel F)
    (leg : Fin kNumLegs) (r : IkResult F) : HexapodPoseModel F :=
  model.setLeg leg.val r.coxa r.femur r.tibia

theorem length_pos {n : UInt16} (h : n ≠ 0) : (0 : ℝ) < FloatArith.ofUInt16 n / FloatArith.lit 100 := by
  have hn : 0 < n.toNat := Nat.pos_of_ne_zero fun h0 => h (UInt16.toNat_inj.mp h0)
  show (0 : ℝ) < ((n.toNat : Int) : ℝ) / ((100 : ℚ) : ℝ)
  positivity

section

variable {model : HexapodPoseModel ℝ} (hvalid : validateRobotConfig cfg = true)
  (hbody : body = BodyKinematics.new cfg) (hmodel : Built (hostConfig name cfg) model)

include hvalid hbody

theorem links_pos : 0 < body.ik.l2 ∧ 0 < body.ik.l3 := by
  obtain ⟨hfemur, htibia, -⟩ := lengths_of_validate hvalid
  rw [hbody]
  exact ⟨length_pos hfemur, length_pos htibia⟩

include hmodel

theorem foot_feedResult (leg : Fin kNumLegs) (r : IkResult ℝ) :
    let end_ := hand body.ik.l2 body.ik.l3 (r.femur + body.ik.femur_rest) (r.tibia + body.ik.tibia_rest)
    (model.feedResult leg r).foot? leg.val = some ((placement (body.legs leg)).toBody
      ⟨(body.ik.l1 + end_.re) * Real.cos r.coxa, (body.ik.l1 + end_.re) * Real.sin r.coxa, end_.im⟩) := by
  obtain ⟨-, -, hradius⟩ := lengths_of_validate hvalid
  have hxf := @xforms_eq _ name hradius leg
  rw [← hmodel.xforms] at hxf
  have hfoot := foot_setLeg hmodel hxf r.coxa r.femur r.tibia
  rw [chain_foot, hmodel.fk, fk_eq hradius] at hfoot
  rw [hbody]
  exact hfoot

theorem foot_of_solveBody (leg : Fin kNumLegs) (p : Point ℝ)
    (hmin : |body.ik.l2 - body.ik.l3| ≤ ‖legPlane body.ik.l1 (body.footBodyToCoxa leg p)‖)
    (hmax : ‖legPlane body.ik.l1 (body.footBodyToCoxa leg p)‖ ≤ body.ik.l2 + body.ik.l3) :
    (body.solveBody leg p).reachable = true ∧
      (model.feedResult leg (body.solveBody leg p)).foot? leg.val = some p := by
  obtain ⟨h2, h3⟩ := links_pos hvalid hbody
  refine ⟨solveRaw_reachable hmin hmax, ?_⟩
  have hunit := unit_new cfg leg
  rw [← hbody] at hunit
  set q := body.footBodyToCoxa leg p with hq
  have hfemur : (body.solveBody leg p).femur + body.ik.femur_rest =
      (LegIk.solveRaw body.ik.l1 body.ik.l2 body.ik.l3 q).femur := sub_add_cancel _ _
  have htibia : (body.solveBody leg p).tibia + body.ik.tibia_rest =
      (LegIk.solveRaw body.ik.l1 body.ik.l2 body.ik.l3 q).tibia := sub_add_cancel _ _
  have hcoxa : (body.solveBody leg p).coxa = Complex.arg ⟨q.x, q.y⟩ := rfl
  have hreach : body.ik.l1 + (legPlane body.ik.l1 q).re = √(q.x * q.x + q.y * q.y) :=
    add_sub_cancel _ _
  obtain ⟨hx, hy⟩ := polar_coxa q
  rw [foot_feedResult hvalid hbody hmodel, hfemur, htibia, hand_solveRaw h2 h3 hmin hmax, hcoxa, hreach,
    hx, hy]
  exact congrArg some (toBody_footBodyToCoxa hunit p)

/-- A foot that the companion draws is solved to its angles, if the knee is on the side of the solver and
the foot is in front of the coxa. -/
theorem solveBody_of_foot (leg : Fin kNumLegs) {coxa femur tibia : ℝ}
    (hcoxa : -Real.pi < coxa ∧ coxa ≤ Real.pi)
    (hknee : -Real.pi ≤ tibia + body.ik.tibia_rest ∧ tibia + body.ik.tibia_rest ≤ 0)
    (hfront : 0 < body.ik.l1 +
      (hand body.ik.l2 body.ik.l3 (femur + body.ik.femur_rest) (tibia + body.ik.tibia_rest)).re)
    (hne : hand body.ik.l2 body.ik.l3 (femur + body.ik.femur_rest) (tibia + body.ik.tibia_rest) ≠ 0) :
    ∃ b, (model.setLeg leg.val coxa femur tibia).foot? leg.val = some b ∧
      (body.solveBody leg b).coxa = coxa ∧ (body.solveBody leg b).tibia = tibia ∧
      ∃ k : ℤ, (body.solveBody leg b).femur = femur + 2 * Real.pi * k := by
  obtain ⟨h2, h3⟩ := links_pos hvalid hbody
  have hunit := unit_new cfg leg
  rw [← hbody] at hunit
  refine ⟨_, foot_feedResult hvalid hbody hmodel leg ⟨coxa, femur, tibia, true⟩, ?_⟩
  set end_ := hand body.ik.l2 body.ik.l3 (femur + body.ik.femur_rest) (tibia + body.ik.tibia_rest)
    with hend
  set horiz := body.ik.l1 + end_.re
  have hframe := footBodyToCoxa_toBody hunit ⟨horiz * Real.cos coxa, horiz * Real.sin coxa, end_.im⟩
  unfold BodyKinematics.solveBody LegIk.solve
  dsimp only
  rw [hframe]
  have hhoriz : √(horiz * Real.cos coxa * (horiz * Real.cos coxa) +
      horiz * Real.sin coxa * (horiz * Real.sin coxa)) = horiz := by
    have hsq : horiz * Real.cos coxa * (horiz * Real.cos coxa) +
        horiz * Real.sin coxa * (horiz * Real.sin coxa) = horiz * horiz := by
      linear_combination horiz * horiz * Real.sin_sq_add_cos_sq coxa
    rw [hsq, Real.sqrt_mul_self hfront.le]
  have hplane : legPlane body.ik.l1 ⟨horiz * Real.cos coxa, horiz * Real.sin coxa, end_.im⟩ = end_ := by
    apply Complex.ext
    · show √_ - body.ik.l1 = end_.re
      rw [hhoriz]
      exact add_sub_cancel_left _ _
    · rfl
  obtain ⟨htibia, k, hfemur⟩ := solveRaw_hand h2 h3 hknee hplane hne
  refine ⟨?_, ?_, k, ?_⟩
  · rw [solveRaw_coxa]
    have hpolar : (⟨horiz * Real.cos coxa, horiz * Real.sin coxa⟩ : ℂ) =
        horiz * (Complex.cos coxa + Complex.sin coxa * Complex.I) := by
      apply Complex.ext <;> simp [Complex.cos_ofReal_re, Complex.sin_ofReal_re]
    rw [hpolar]
    exact Complex.arg_mul_cos_add_sin_mul_I hfront hcoxa
  · rw [htibia]
    exact add_sub_cancel_right _ _
  · rw [hfemur]
    show femur + body.ik.femur_rest + 2 * Real.pi * k - body.ik.femur_rest = _
    ring

end

/-- Inverse and forward kinematics agree across the controller and the companion, whatever the companion
was fed before: a target in reach is drawn where it is, and angles with the knee on the solver's side are
found again from the foot that is drawn for them. -/
theorem kinematics_agree (hvalid : validateRobotConfig cfg = true) (name : String)
    (feeds : List (Feed ℝ)) (leg : Fin kNumLegs) :
    let body : BodyKinematics ℝ := .new cfg
    let model := (HexapodPoseModel.new (hostConfig name cfg)).feedAll feeds
    (∀ (pose : BodyPose ℝ) (w : Point ℝ),
      let q := body.footBodyToCoxa leg (BodyKinematics.applyBodyPose pose w)
      |body.ik.l2 - body.ik.l3| ≤ planarDistance body.ik.l1 q →
      planarDistance body.ik.l1 q ≤ body.ik.l2 + body.ik.l3 →
      (body.solveBodyPose leg pose w).reachable = true ∧
        ∃ b, (model.feedResult leg (body.solveBodyPose leg pose w)).foot? leg.val = some b ∧
          pose.attitude.mulVec (vec b) + pose.translation = vec w) ∧
    (∀ coxa femur tibia : ℝ,
      let end_ := hand body.ik.l2 body.ik.l3 (femur + body.ik.femur_rest) (tibia + body.ik.tibia_rest);
      -Real.pi < coxa ∧ coxa ≤ Real.pi →
      -Real.pi ≤ tibia + body.ik.tibia_rest ∧ tibia + body.ik.tibia_rest ≤ 0 →
      0 < body.ik.l1 + end_.re → end_ ≠ 0 →
      ∃ b, (model.setLeg leg.val coxa femur tibia).foot? leg.val = some b ∧
        (body.solveBody leg b).coxa = coxa ∧ (body.solveBody leg b).tibia = tibia ∧
        ∃ k : ℤ, (body.solveBody leg b).femur = femur + 2 * Real.pi * k) := by
  intro body model
  have hmodel : Built (hostConfig name cfg) model := (built_new _).feedAll feeds
  constructor
  · intro pose w q hmin hmax
    rw [planarDistance_eq] at hmin hmax
    obtain ⟨hreachable, hfoot⟩ := foot_of_solveBody hvalid rfl hmodel leg _ hmin hmax
    exact ⟨hreachable, _, hfoot, attitude_applyBodyPose pose w⟩
  · intro coxa femur tibia end_ hcoxa hknee hfront hne
    exact solveBody_of_foot hvalid rfl hmodel leg hcoxa hknee hfront hne

theorem planarDistance_thirdLeg {r : ℝ} (hr : 0 ≤ r) :
    planarDistance (BodyKinematics.new (F := ℝ) defaultRobotConfig).ik.l1
      ((BodyKinematics.new defaultRobotConfig).footBodyToCoxa 2 ⟨69.8 + r, 0, 0⟩) = |r - 52| := by
  obtain ⟨hx, hy, hz⟩ := thirdLeg_hip
  have hl1 : (BodyKinematics.new (F := ℝ) defaultRobotConfig).ik.l1 = 52 := defaultIk_links.1
  have hhorizontal : horizontal ((BodyKinematics.new (F := ℝ) defaultRobotConfig).footBodyToCoxa 2
      ⟨69.8 + r, 0, 0⟩) = r := by
    rw [horizontal_footBodyToCoxa (unit_new _ _), hx, hy, ← Real.sqrt_sq hr]
    congr 1
    rw [Real.sqrt_sq hr]
    ring
  have hheight : ((BodyKinematics.new (F := ℝ) defaultRobotConfig).footBodyToCoxa 2
      ⟨69.8 + r, 0, 0⟩).z = 0 := by
    show 0 - _ = (0 : ℝ)
    rw [hz, sub_zero]
  have hsq := planarDistance_sq (BodyKinematics.new (F := ℝ) defaultRobotConfig).ik.l1
    ((BodyKinematics.new defaultRobotConfig).footBodyToCoxa 2 ⟨69.8 + r, 0, 0⟩)
  rw [hhorizontal, hheight, hl1] at hsq
  rw [hl1, ← Real.sqrt_sq (planarDistance_nonneg 52 _), hsq, ← Real.sqrt_sq_eq_abs]
  congr 1
  ring

/-- The body stands 10 mm ahead and is turned round. -/
noncomputable def turnedPose : BodyPose ℝ := ⟨10, 0, 0, 0, 0, Real.pi⟩

theorem applyBodyPose_turned (x : ℝ) : BodyKinematics.applyBodyPose turnedPose ⟨10 - x, 0, 0⟩ = ⟨x, 0, 0⟩ := by
  simp [BodyKinematics.applyBodyPose, turnedPose, FloatArith.cos, FloatArith.sin]

/-- A foot behind a body that is turned round, and a leg stretched ahead with the knee bent down by a right
angle; the companion has been fed a joint angle before. -/
theorem kinematics_agree_default :
    let body : BodyKinematics ℝ := .new defaultRobotConfig
    let model := (HexapodPoseModel.new (hostConfig "HexNav" defaultRobotConfig)).feedAll [(2, 1, 1 / 2)]
    let r := body.solveBodyPose 2 turnedPose ⟨10 - (69.8 + 152), 0, 0⟩
    (r.reachable = true ∧ ∃ b, (model.feedResult 2 r).foot? 2 = some b ∧
      turnedPose.attitude.mulVec (vec b) + turnedPose.translation = vec ⟨10 - (69.8 + 152), 0, 0⟩) ∧
    ∃ b, (model.setLeg 0 0 (0 - body.ik.femur_rest) (-(Real.pi / 2) - body.ik.tibia_rest)).foot? 0 =
        some b ∧
      (body.solveBody 0 b).coxa = 0 ∧ (body.solveBody 0 b).tibia = -(Real.pi / 2) - body.ik.tibia_rest := by
  intro body model r
  obtain ⟨hl1, hl2, hl3⟩ := defaultIk_links
  have hdistance : planarDistance body.ik.l1 (body.footBodyToCoxa 2
      (BodyKinematics.applyBodyPose turnedPose ⟨10 - (69.8 + 152), 0, 0⟩)) = 100 := by
    rw [applyBodyPose_turned, planarDistance_thirdLeg (by norm_num)]
    norm_num
  have hnear : |body.ik.l2 - body.ik.l3| ≤ 100 := by
    rw [show body.ik.l2 = 66.51 from hl2, show body.ik.l3 = 117.16 from hl3]
    norm_num [abs_le]
  have hfar : 100 ≤ body.ik.l2 + body.ik.l3 := by
    rw [show body.ik.l2 = 66.51 from hl2, show body.ik.l3 = 117.16 from hl3]
    norm_num
  have hpi := Real.pi_pos
  have hend : hand body.ik.l2 body.ik.l3 (0 - body.ik.femur_rest + body.ik.femur_rest)
      (-(Real.pi / 2) - body.ik.tibia_rest + body.ik.tibia_rest) = ⟨body.ik.l2, -body.ik.l3⟩ := by
    rw [sub_add_cancel, sub_add_cancel, hand_eq]
    simp [Real.cos_neg, Real.sin_neg]
  have hl2pos : 0 < body.ik.l2 := (links_pos validate_defaultRobotConfig rfl).1
  have hagree := kinematics_agree validate_defaultRobotConfig "HexNav" [(2, 1, 1 / 2)]
  refine ⟨(hagree 2).1 turnedPose _ (hnear.trans_eq hdistance.symm) (hdistance.trans_le hfar), ?_⟩
  obtain ⟨b, hfoot, hcoxa, htibia, -⟩ := (hagree 0).2 0
    (0 - body.ik.femur_rest) (-(Real.pi / 2) - body.ik.tibia_rest) ⟨by linarith, by linarith⟩
    ⟨by linarith, by linarith⟩ (by rw [hend, show body.ik.l1 = 52 from hl1]; exact add_pos (by norm_num) hl2pos) (by
      rw [hend]
      exact fun h => hl2pos.ne' (congrArg Complex.re h))
  exact ⟨b, hfoot, hcoxa, htibia⟩

/-!
## The reach verdict of the companion

The companion measures the distance of a target from the axis of the femur as the controller does. It keeps one
hundredth of the extension of the leg clear of both bounds, where the controller keeps five hundredths.
-/

variable {cfg : Config.RobotConfig} {name : String} {model : HexapodPoseModel ℝ} {leg : Fin kNumLegs}
  {p : Point ℝ}

theorem fromBody_placement (body : BodyKinematics ℝ) (leg : Fin kNumLegs) (p : Point ℝ) :
    (placement (body.legs leg)).fromBody p = body.footBodyToCoxa leg p := rfl

theorem assessFootTarget_eq (hradius : cfg.geometry.home_radius_cmm ≠ 0)
    (hmodel : Built (hostConfig name cfg) model) (leg : Fin kNumLegs) (p : Point ℝ) :
    let ik := (BodyKinematics.new (F := ℝ) cfg).ik
    let d := planarDistance ik.l1 ((BodyKinematics.new cfg).footBodyToCoxa leg p)
    ∃ reach, model.assessFootTarget leg.val p.x p.y p.z = some reach ∧
      (reach.reachable = true ↔ |ik.l2 - ik.l3| ≤ d ∧ d ≤ ik.l2 + ik.l3) ∧
      (reach.inside_safe_margin = true ↔ |ik.l2 - ik.l3| + 1 / 100 * (ik.l2 + ik.l3) ≤ d ∧
        d ≤ 99 / 100 * (ik.l2 + ik.l3)) := by
  intro ik d
  have hxf := @xforms_eq _ name hradius leg
  rw [← hmodel.xforms] at hxf
  have hmargin : (FloatArith.lit 0.01 : ℝ) = 1 / 100 := by
    rw [FloatArith.lit_exact]
    norm_num
  have hsafe : (FloatArith.lit 0.99 : ℝ) = 99 / 100 := by
    rw [FloatArith.lit_exact]
    norm_num
  unfold HexapodPoseModel.assessFootTarget
  rw [hxf, hmodel.fk, fk_eq hradius]
  dsimp only [Option.bind_eq_bind, Option.bind_some]
  rw [fromBody_placement, hmargin, hsafe, FloatArith.fabs_exact]
  refine ⟨_, rfl, ?_, ?_⟩
  · rw [Bool.and_eq_true, FloatArith.le_exact, FloatArith.le_exact]
    rfl
  · rw [Bool.and_eq_true, FloatArith.le_exact, FloatArith.le_exact]
    rfl

def VerdictAgrees (cfg : Config.RobotConfig) (model : HexapodPoseModel ℝ) (leg : Fin kNumLegs) (p : Point ℝ) :
    Prop :=
  ∃ reach, model.assessFootTarget leg.val p.x p.y p.z = some reach ∧
    (reach.inside_safe_margin = true ↔ (BodyKinematics.new (F := ℝ) cfg).ik.withinReachMargin
      ((BodyKinematics.new cfg).footBodyToCoxa leg p) = true) ∧
    (reach.reachable = true → ((BodyKinematics.new (F := ℝ) cfg).solveBody leg p).reachable = true)

/-- The target is safe for the companion, and within five hundredths of the extension from a bound. -/
def BetweenMargins (ik : LegIk ℝ) (q : Point ℝ) : Prop :=
  |ik.l2 - ik.l3| + 1 / 100 * (ik.l2 + ik.l3) ≤ planarDistance ik.l1 q ∧
    planarDistance ik.l1 q ≤ 99 / 100 * (ik.l2 + ik.l3) ∧
    (planarDistance ik.l1 q < |ik.l2 - ik.l3| + 5 / 100 * (ik.l2 + ik.l3) ∨
      95 / 100 * (ik.l2 + ik.l3) < planarDistance ik.l1 q)

theorem solveBody_reachable (body : BodyKinematics ℝ)
    (hmin : |body.ik.l2 - body.ik.l3| ≤ planarDistance body.ik.l1 (body.footBodyToCoxa leg p))
    (hmax : planarDistance body.ik.l1 (body.footBodyToCoxa leg p) ≤ body.ik.l2 + body.ik.l3) :
    (body.solveBody leg p).reachable = true :=
  solveRaw_reachable hmin hmax

/-- **When the two verdicts agree.** For every validated configuration, whatever the pose model was fed, and
every leg and target: the companion calls the target safe exactly when the controller's margin test accepts it,
and reachable only if the controller does, exactly when the target is not between the two margins. -/
theorem reach_verdict_iff (hvalid : validateRobotConfig cfg = true) (name : String) (feeds : List (Feed ℝ))
    (leg : Fin kNumLegs) (p : Point ℝ) :
    VerdictAgrees cfg ((HexapodPoseModel.new (hostConfig name cfg)).feedAll feeds) leg p ↔
      ¬ BetweenMargins (BodyKinematics.new cfg).ik ((BodyKinematics.new cfg).footBodyToCoxa leg p) := by
  obtain ⟨hfemur, htibia, hradius⟩ := lengths_of_validate hvalid
  have h2 : 0 < (BodyKinematics.new (F := ℝ) cfg).ik.l2 := length_pos hfemur
  have h3 : 0 < (BodyKinematics.new (F := ℝ) cfg).ik.l3 := length_pos htibia
  obtain ⟨reach, hreach, hreachable, hsafe⟩ :=
    assessFootTarget_eq hradius ((built_new (hostConfig name cfg)).feedAll feeds) leg p
  unfold VerdictAgrees BetweenMargins
  rw [hreach]
  constructor
  · rintro ⟨reach', heq, hverdict, -⟩ ⟨hlow, hhigh, hbetween⟩
    cases heq
    rw [hsafe, withinReachMargin_iff, dMin_exact, dMax_exact] at hverdict
    obtain ⟨hmin, hmax⟩ := hverdict.mp ⟨hlow, hhigh⟩
    rcases hbetween with hnear | hfar
    · exact absurd hmin (not_le.mpr hnear)
    · exact absurd hmax (not_le.mpr hfar)
  · intro hnot
    refine ⟨reach, rfl, ?_, fun hreach => ?_⟩
    · rw [hsafe, withinReachMargin_iff, dMin_exact, dMax_exact]
      constructor
      · rintro ⟨hlow, hhigh⟩
        refine ⟨not_lt.mp fun hnear => hnot ⟨hlow, hhigh, .inl hnear⟩,
          not_lt.mp fun hfar => hnot ⟨hlow, hhigh, .inr hfar⟩⟩
      · rintro ⟨hmin, hmax⟩
        constructor <;> linarith
    · obtain ⟨hmin, hmax⟩ := hreachable.mp hreach
      exact solveBody_reachable _ hmin hmax

theorem reach_verdict_iff_near :
    VerdictAgrees defaultRobotConfig ((HexapodPoseModel.new (hostConfig "HexNav" defaultRobotConfig)).feedAll [])
        2 ⟨69.8 + 152, 0, 0⟩ ↔
      ¬ BetweenMargins (BodyKinematics.new defaultRobotConfig).ik
        ((BodyKinematics.new defaultRobotConfig).footBodyToCoxa 2 ⟨69.8 + 152, 0, 0⟩) :=
  reach_verdict_iff validate_defaultRobotConfig "HexNav" [] 2 ⟨69.8 + 152, 0, 0⟩

/-- A target at 178 mm from the femur axis of the third leg: safe for the companion, outside the margin of the
controller. -/
theorem reach_verdict_differs : ¬ ∀ cfg : Config.RobotConfig, validateRobotConfig cfg = true →
    ∀ (name : String) (feeds : List (Feed ℝ)) (leg : Fin kNumLegs) (p : Point ℝ),
      VerdictAgrees cfg ((HexapodPoseModel.new (hostConfig name cfg)).feedAll feeds) leg p := by
  intro hall
  obtain ⟨reach, hreach, hverdict, -⟩ := hall defaultRobotConfig validate_defaultRobotConfig "HexNav" [] 2
    ⟨69.8 + 230, 0, 0⟩
  obtain ⟨-, -, hradius⟩ := lengths_of_validate validate_defaultRobotConfig
  obtain ⟨reach', hreach', -, hsafe⟩ := assessFootTarget_eq hradius
    ((built_new (hostConfig "HexNav" defaultRobotConfig)).feedAll []) 2 ⟨69.8 + 230, 0, 0⟩
  obtain ⟨-, hl2, hl3⟩ := defaultIk_links
  unfold defaultIk at hl2 hl3
  rw [hreach] at hreach'
  cases hreach'
  have hdistance := planarDistance_thirdLeg (show (0 : ℝ) ≤ 230 by norm_num)
  rw [hsafe, withinReachMargin_iff, dMin_exact, dMax_exact, hdistance, hl2, hl3] at hverdict
  norm_num [abs_of_neg, abs_of_pos] at hverdict

end HexapodVerified.Companion
