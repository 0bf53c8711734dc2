import HexapodVerified.Config.Proofs.ValidateProofs
import HexapodVerified.Gait.BodyIk
import HexapodVerified.Lib.PlanarArm

/-!
# The leg in exact arithmetic

Over the real numbers `LegIk::solveRaw` inverts the planar arm: the foot lies in the plane of the leg, and the
angles put the hand of the arm there. The body pose is undone by the transpose of its attitude.
-/

namespace HexapodVerified.Gait

open Config PlanarArm FloatArith

section

variable {l1 l2 l3 : ℝ} {p : Point ℝ}

noncomputable def legPlane (l1 : ℝ) (p : Point ℝ) : ℂ := ⟨√(p.x * p.x + p.y * p.y) - l1, p.z⟩

noncomputable def kneeCos (l1 l2 l3 : ℝ) (p : Point ℝ) : ℝ :=
  (‖legPlane l1 p‖ * ‖legPlane l1 p‖ - l2 * l2 - l3 * l3) * (((2 : ℚ) : ℝ) * l2 * l3)⁻¹

noncomputable def planarDistance (l1 : ℝ) (p : Point ℝ) : ℝ :=
  √((√(p.x * p.x + p.y * p.y) - l1) * (√(p.x * p.x + p.y * p.y) - l1) + p.z * p.z)

theorem planarDistance_eq (l1 : ℝ) (p : Point ℝ) : planarDistance l1 p = ‖legPlane l1 p‖ := rfl

theorem solveRaw_coxa : (LegIk.solveRaw l1 l2 l3 p).coxa = Complex.arg ⟨p.x, p.y⟩ := rfl

theorem solveRaw_femur : (LegIk.solveRaw l1 l2 l3 p).femur =
    Complex.arg (legPlane l1 p) - Complex.arg (forearm l2 l3 (LegIk.solveRaw l1 l2 l3 p).tibia) := by
  rw [forearm_eq]
  rfl

theorem solveRaw_tibia (hge : -1 ≤ kneeCos l1 l2 l3 p) (hle : kneeCos l1 l2 l3 p ≤ 1) :
    (LegIk.solveRaw l1 l2 l3 p).tibia = -Real.arccos (kneeCos l1 l2 l3 p) := by
  have hcos : kneeCos l1 l2 l3 p = (‖legPlane l1 p‖ * ‖legPlane l1 p‖ - l2 * l2 - l3 * l3) /
      (((2 : ℚ) : ℝ) * l2 * l3) := by
    rw [kneeCos, ← div_eq_mul_inv]
  have hclamp : FloatArith.clampf (kneeCos l1 l2 l3 p) (FloatArith.lit (-1)) (FloatArith.lit 1) =
      kneeCos l1 l2 l3 p :=
    FloatArith.clampf_of_mem (by simpa using hge) (by simpa using hle)
  rw [hcos] at hclamp ⊢
  exact congrArg (fun c => -Real.arccos c) hclamp

theorem mul_kneeCos (h2 : 0 < l2) (h3 : 0 < l3) :
    2 * l2 * l3 * kneeCos l1 l2 l3 p = ‖legPlane l1 p‖ ^ 2 - l2 ^ 2 - l3 ^ 2 := by
  have hne : 2 * l2 * l3 ≠ 0 := by positivity
  rw [kneeCos, Rat.cast_ofNat, mul_left_comm, mul_inv_cancel₀ hne, mul_one]
  ring

theorem solveRaw_reachable (hmin : |l2 - l3| ≤ ‖legPlane l1 p‖) (hmax : ‖legPlane l1 p‖ ≤ l2 + l3) :
    (LegIk.solveRaw l1 l2 l3 p).reachable = true := by
  show (decide (‖legPlane l1 p‖ ≤ l2 + l3 + ((0.01 : ℚ) : ℝ)) &&
    decide (FloatArith.fabs (l2 - l3) - ((0.01 : ℚ) : ℝ) ≤ ‖legPlane l1 p‖)) = true
  rw [FloatArith.fabs_exact, Bool.and_eq_true, decide_eq_true_eq, decide_eq_true_eq]
  exact ⟨by linarith, by linarith⟩

theorem hand_solveRaw (h2 : 0 < l2) (h3 : 0 < l3) (hmin : |l2 - l3| ≤ ‖legPlane l1 p‖)
    (hmax : ‖legPlane l1 p‖ ≤ l2 + l3) :
    hand l2 l3 (LegIk.solveRaw l1 l2 l3 p).femur (LegIk.solveRaw l1 l2 l3 p).tibia = legPlane l1 p := by
  obtain ⟨hge, hle⟩ := knee_cos_bounds h2 h3 hmin hmax (mul_kneeCos h2 h3)
  rw [solveRaw_femur]
  exact reaches h2 h3 hmin hmax (mul_kneeCos h2 h3) (solveRaw_tibia hge hle)

theorem solveRaw_hand {α β : ℝ} (h2 : 0 < l2) (h3 : 0 < l3) (hβ : -Real.pi ≤ β ∧ β ≤ 0)
    (hp : legPlane l1 p = hand l2 l3 α β) (hne : hand l2 l3 α β ≠ 0) :
    (LegIk.solveRaw l1 l2 l3 p).tibia = β ∧
      ∃ k : ℤ, (LegIk.solveRaw l1 l2 l3 p).femur = α + 2 * Real.pi * k := by
  have hmul : 2 * l2 * l3 * kneeCos l1 l2 l3 p = ‖hand l2 l3 α β‖ ^ 2 - l2 ^ 2 - l3 ^ 2 := by
    rw [← hp]
    exact mul_kneeCos h2 h3
  have hcos : kneeCos l1 l2 l3 p = Real.cos β := knee_cos α h2 h3 hmul
  have htibia : (LegIk.solveRaw l1 l2 l3 p).tibia = β := by
    rw [solveRaw_tibia (by rw [hcos]; exact Real.neg_one_le_cos β) (by rw [hcos]; exact Real.cos_le_one β),
      hcos, ← Real.cos_neg, Real.arccos_cos (by linarith [hβ.2]) (by linarith [hβ.1]), neg_neg]
  refine ⟨htibia, ?_⟩
  rw [solveRaw_femur, htibia, hp]
  exact arg_hand_sub hne

theorem polar_coxa (p : Point ℝ) :
    √(p.x * p.x + p.y * p.y) * Real.cos (Complex.arg ⟨p.x, p.y⟩) = p.x ∧
      √(p.x * p.x + p.y * p.y) * Real.sin (Complex.arg ⟨p.x, p.y⟩) = p.y :=
  ⟨Complex.norm_mul_cos_arg ⟨p.x, p.y⟩, Complex.norm_mul_sin_arg ⟨p.x, p.y⟩⟩

theorem unit_new (cfg : Config.RobotConfig) (leg : Fin kNumLegs) :
    ((BodyKinematics.new cfg : BodyKinematics ℝ).legs leg).cos_a ^ 2 +
      ((BodyKinematics.new cfg : BodyKinematics ℝ).legs leg).sin_a ^ 2 = 1 :=
  Real.cos_sq_add_sin_sq _

def vec (p : Point ℝ) : Fin 3 → ℝ := ![p.x, p.y, p.z]

def BodyPose.translation (pose : BodyPose ℝ) : Fin 3 → ℝ := ![pose.x_mm, pose.y_mm, pose.z_mm]

/-- `R = Rz(yaw) * Ry(pitch) * Rx(roll)`. -/
noncomputable def BodyPose.attitude (pose : BodyPose ℝ) : Matrix (Fin 3) (Fin 3) ℝ :=
  Rotation.attitude pose.roll pose.pitch pose.yaw

open Matrix in
theorem vec_applyBodyPose (pose : BodyPose ℝ) (w : Point ℝ) :
    vec (BodyKinematics.applyBodyPose pose w) = pose.attitudeᵀ *ᵥ (vec w - pose.translation) := by
  have hx : (BodyKinematics.applyBodyPose pose w).x =
      Real.cos pose.yaw * Real.cos pose.pitch * (w.x - pose.x_mm) +
        Real.sin pose.yaw * Real.cos pose.pitch * (w.y - pose.y_mm) +
        -Real.sin pose.pitch * (w.z - pose.z_mm) := rfl
  have hy : (BodyKinematics.applyBodyPose pose w).y =
      (Real.cos pose.yaw * Real.sin pose.pitch * Real.sin pose.roll -
          Real.sin pose.yaw * Real.cos pose.roll) * (w.x - pose.x_mm) +
        (Real.sin pose.yaw * Real.sin pose.pitch * Real.sin pose.roll +
          Real.cos pose.yaw * Real.cos pose.roll) * (w.y - pose.y_mm) +
        Real.cos pose.pitch * Real.sin pose.roll * (w.z - pose.z_mm) := rfl
  have hz : (BodyKinematics.applyBodyPose pose w).z =
      (Real.cos pose.yaw * Real.sin pose.pitch * Real.cos pose.roll +
          Real.sin pose.yaw * Real.sin pose.roll) * (w.x - pose.x_mm) +
        (Real.sin pose.yaw * Real.sin pose.pitch * Real.cos pose.roll -
          Real.cos pose.yaw * Real.sin pose.roll) * (w.y - pose.y_mm) +
        Real.cos pose.pitch * Real.cos pose.roll * (w.z - pose.z_mm) := rfl
  unfold vec BodyPose.translation BodyPose.attitude Rotation.attitude Rotation.rotX Rotation.rotY
    Rotation.rotZ
  rw [hx, hy, hz]
  ext i
  fin_cases i
  · simp [Fin.sum_univ_three, Matrix.mulVec, dotProduct]
  · simp [Fin.sum_univ_three, Matrix.mulVec, dotProduct]
    ring
  · simp [Fin.sum_univ_three, Matrix.mulVec, dotProduct]
    ring

theorem attitude_applyBodyPose (pose : BodyPose ℝ) (w : Point ℝ) :
    pose.attitude.mulVec (vec (BodyKinematics.applyBodyPose pose w)) + pose.translation = vec w := by
  rw [vec_applyBodyPose, BodyPose.attitude,
    Rotation.mulVec_transpose_mulVec (Rotation.attitude_mem _ _ _), sub_add_cancel]

end

/-!
## The reach clamp in exact arithmetic

A target outside the safe annulus is moved in the plane of the leg onto its nearer bound, and put back at the
yaw it had. As long as it stays in front of the hip axis it is then accepted, and the yaw is kept. A target
that is too close and on the body side of the femur axis is pushed towards the body, and may come out behind
the hip axis; nothing is said about those.
-/

section

variable {ik : LegIk ℝ} {p : Point ℝ}

noncomputable def horizontal (p : Point ℝ) : ℝ := √(p.x * p.x + p.y * p.y)

structure Linked (ik : LegIk ℝ) : Prop where
  coxa : 0 < ik.l1
  femur : 0 < ik.l2
  tibia : 0 < ik.l3

theorem horizontal_nonneg (p : Point ℝ) : 0 ≤ horizontal p := Real.sqrt_nonneg _

theorem planarDistance_nonneg (l1 : ℝ) (p : Point ℝ) : 0 ≤ planarDistance l1 p := Real.sqrt_nonneg _

theorem planarDistance_sq (l1 : ℝ) (p : Point ℝ) :
    planarDistance l1 p ^ 2 = (horizontal p - l1) ^ 2 + p.z ^ 2 := by
  have hpos : 0 ≤ (horizontal p - l1) * (horizontal p - l1) + p.z * p.z :=
    add_nonneg (mul_self_nonneg _) (mul_self_nonneg _)
  show √((horizontal p - l1) * (horizontal p - l1) + p.z * p.z) ^ 2 = _
  rw [Real.sq_sqrt hpos]
  ring

theorem dMax_exact (ik : LegIk ℝ) : ik.dMax = 95 / 100 * (ik.l2 + ik.l3) := by
  unfold LegIk.dMax kReachMarginFrac
  rw [lit_exact]
  norm_num

theorem dMin_exact (ik : LegIk ℝ) : ik.dMin = |ik.l2 - ik.l3| + 5 / 100 * (ik.l2 + ik.l3) := by
  unfold LegIk.dMin kReachMarginFrac
  rw [lit_exact, lit_exact, fabs_exact]
  norm_num

theorem Linked.dMin_pos (h : Linked ik) : 0 < ik.dMin := by
  have hsum := add_pos h.femur h.tibia
  have habs := abs_nonneg (ik.l2 - ik.l3)
  rw [dMin_exact]
  linarith

theorem Linked.dMax_pos (h : Linked ik) : 0 < ik.dMax := by
  have hsum := add_pos h.femur h.tibia
  rw [dMax_exact]
  linarith

theorem withinReachMargin_iff : ik.withinReachMargin p = true ↔
    ik.dMin ≤ planarDistance ik.l1 p ∧ planarDistance ik.l1 p ≤ ik.dMax := by
  unfold LegIk.withinReachMargin
  rw [Bool.and_eq_true, le_exact, le_exact]
  rfl

theorem horizontal_footBodyToCoxa
    {body : BodyKinematics ℝ} {leg : Fin kNumLegs}
    (hunit : (body.legs leg).cos_a ^ 2 + (body.legs leg).sin_a ^ 2 = 1) (p : Point ℝ) :
    horizontal (body.footBodyToCoxa leg p) =
      √((p.x - (body.legs leg).hip_x_mm) ^ 2 + (p.y - (body.legs leg).hip_y_mm) ^ 2) := by
  unfold horizontal BodyKinematics.footBodyToCoxa
  congr 1
  linear_combination ((p.x - (body.legs leg).hip_x_mm) ^ 2 + (p.y - (body.legs leg).hip_y_mm) ^ 2) * hunit

noncomputable def pulled (bound radius z d : ℝ) : ℝ × ℝ :=
  if |z| < bound then
    (if radius < 0 then -√(bound * bound - z * z) else √(bound * bound - z * z), z)
  else (radius * (bound / d), z * (bound / d))

/-- The target at another horizontal distance and height, at its yaw. -/
noncomputable def placed (p : Point ℝ) (distance z : ℝ) : Point ℝ :=
  if 1 / 1000000 < horizontal p then
    ⟨p.x * (distance / horizontal p), p.y * (distance / horizontal p), z⟩
  else ⟨distance, 0, z⟩

noncomputable def boundOf (ik : LegIk ℝ) (p : Point ℝ) : ℝ :=
  if ik.dMax < planarDistance ik.l1 p then ik.dMax else ik.dMin

noncomputable def pulledOf (ik : LegIk ℝ) (p : Point ℝ) : ℝ × ℝ :=
  pulled (boundOf ik p) (horizontal p - ik.l1) p.z (planarDistance ik.l1 p)

theorem clampToReach_inside (h : ik.withinReachMargin p = true) : ik.clampToReach p = (p, false) :=
  if_pos h

theorem clampToReach_outside (h : ik.withinReachMargin p = false) :
    ik.clampToReach p =
      (placed p ((pulledOf ik p).1 + ik.l1) (pulledOf ik p).2, true) := by
  have heps : (lit 0.000001 : ℝ) = 1 / 1000000 := by
    rw [lit_exact]
    norm_num
  have hzero : (lit 0 : ℝ) = 0 := Rat.cast_zero
  unfold LegIk.withinReachMargin at h
  unfold LegIk.clampToReach
  dsimp only at h ⊢
  rw [if_neg (Bool.eq_false_iff.mp h)]
  simp only [lt_exact, fabs_exact, heps, hzero]
  by_cases haxis : 1 / 1000000 < horizontal p
  · rw [if_pos (show 1 / 1000000 < FloatArith.sqrt (p.x * p.x + p.y * p.y) from haxis), placed, if_pos haxis]
    rfl
  · rw [if_neg (show ¬ 1 / 1000000 < FloatArith.sqrt (p.x * p.x + p.y * p.y) from haxis), placed, if_neg haxis]
    rfl

section Pulled

variable {bound radius z d l1 : ℝ}

theorem sq_lt_of_abs_lt (hlow : |z| < bound) : z * z < bound * bound := by
  have hle := abs_nonneg z
  rw [← abs_mul_abs_self z]
  exact mul_self_lt_mul_self hle hlow

theorem pulled_sq (hbound : 0 < bound) (hd : d ^ 2 = radius ^ 2 + z ^ 2) :
    (pulled bound radius z d).1 ^ 2 + (pulled bound radius z d).2 ^ 2 = bound ^ 2 := by
  unfold pulled
  by_cases hlow : |z| < bound
  · have hroom : 0 ≤ bound * bound - z * z := sub_nonneg.mpr (sq_lt_of_abs_lt hlow).le
    have hsq := Real.sq_sqrt hroom
    rw [if_pos hlow]
    split_ifs
    · rw [neg_sq, hsq]
      ring
    · rw [hsq]
      ring
  · have hz : 0 < z ^ 2 := by
      rw [← sq_abs]
      exact pow_pos (hbound.trans_le (not_lt.mp hlow)) 2
    have hdsq : d ^ 2 ≠ 0 := by
      rw [hd]
      have hradius := sq_nonneg radius
      linarith
    rw [if_neg hlow]
    rw [mul_pow, mul_pow, ← add_mul, ← hd, div_pow, mul_div_cancel₀ _ hdsq]

theorem pulled_front_of_far (hl1 : 0 < l1) (hradius : -l1 ≤ radius) (hd : d ^ 2 = radius ^ 2 + z ^ 2)
    (hbound : 0 < bound) (hfar : bound < d) : 0 < (pulled bound radius z d).1 + l1 := by
  unfold pulled
  by_cases hlow : |z| < bound
  · rw [if_pos hlow]
    split_ifs with hside
    · have hless : bound * bound < d ^ 2 := by
        rw [sq]
        exact mul_self_lt_mul_self hbound.le hfar
      have hradius_sq : radius ^ 2 ≤ l1 ^ 2 := sq_le_sq' hradius (hside.le.trans hl1.le)
      have hroot : √(bound * bound - z * z) < l1 := by
        rw [Real.sqrt_lt' hl1]
        linarith
      linarith
    · have hroot := Real.sqrt_nonneg (bound * bound - z * z)
      linarith
  · rw [if_neg hlow]
    have hdpos : 0 < d := hbound.trans hfar
    have hscale : bound / d < 1 := (div_lt_one hdpos).mpr hfar
    have hscale_pos : 0 < bound / d := div_pos hbound hdpos
    have hless : l1 * (bound / d) < l1 := mul_lt_of_lt_one_right hl1 hscale
    have hmore : -l1 * (bound / d) ≤ radius * (bound / d) :=
      mul_le_mul_of_nonneg_right hradius hscale_pos.le
    linarith

/-- A target that was too close stays in front of the hip axis, unless it is on the body side and the bound reaches
behind the axis. -/
theorem pulled_front_of_near (hl1 : 0 < l1) (hd : d ^ 2 = radius ^ 2 + z ^ 2) (hd_nonneg : 0 ≤ d)
    (hnear : d < bound) (hside : radius < 0 → bound ^ 2 - z ^ 2 < l1 ^ 2) :
    0 < (pulled bound radius z d).1 + l1 := by
  have hlow : |z| < bound := by
    refine lt_of_le_of_lt (abs_le_of_sq_le_sq ?_ hd_nonneg) hnear
    have hradius := sq_nonneg radius
    linarith
  unfold pulled
  rw [if_pos hlow]
  split_ifs with hbody
  · have hroot : √(bound * bound - z * z) < l1 := by
      have hless := hside hbody
      rw [Real.sqrt_lt' hl1]
      linarith
    linarith
  · have hroot := Real.sqrt_nonneg (bound * bound - z * z)
    linarith

end Pulled

section Placed

variable {distance z : ℝ}

theorem horizontal_placed (hdistance : 0 ≤ distance) : horizontal (placed p distance z) = distance := by
  unfold placed
  by_cases haxis : 1 / 1000000 < horizontal p
  · have hpos : 0 < horizontal p := lt_trans (by norm_num) haxis
    have hscale : 0 ≤ distance / horizontal p := div_nonneg hdistance hpos.le
    rw [if_pos haxis]
    show √(p.x * (distance / horizontal p) * (p.x * (distance / horizontal p)) +
      p.y * (distance / horizontal p) * (p.y * (distance / horizontal p))) = distance
    rw [show p.x * (distance / horizontal p) * (p.x * (distance / horizontal p)) +
        p.y * (distance / horizontal p) * (p.y * (distance / horizontal p)) =
        (distance / horizontal p) ^ 2 * (p.x * p.x + p.y * p.y) by ring,
      Real.sqrt_mul (sq_nonneg _), Real.sqrt_sq hscale]
    exact div_mul_cancel₀ distance hpos.ne'
  · rw [if_neg haxis]
    show √(distance * distance + 0 * 0) = distance
    rw [mul_zero, add_zero, Real.sqrt_mul_self hdistance]

theorem placed_z : (placed p distance z).z = z := by
  unfold placed
  split_ifs
  · rfl
  · rfl

theorem atan2_placed (hdistance : 0 < distance) (haxis : 1 / 1000000 < horizontal p) :
    atan2 (placed p distance z).y (placed p distance z).x = atan2 p.y p.x := by
  have hpos : 0 < horizontal p := lt_trans (by norm_num) haxis
  have hscale : 0 < distance / horizontal p := div_pos hdistance hpos
  unfold placed
  rw [if_pos haxis]
  show Complex.arg ⟨p.x * (distance / horizontal p), p.y * (distance / horizontal p)⟩ =
    Complex.arg ⟨p.x, p.y⟩
  rw [← Complex.arg_real_mul ⟨p.x, p.y⟩ hscale]
  congr 1
  apply Complex.ext
  · simp [mul_comm]
  · simp [mul_comm]

theorem placed_of_le (haxis : horizontal p ≤ 1 / 1000000) : placed p distance z = ⟨distance, 0, z⟩ :=
  if_neg (not_lt.mpr haxis)

end Placed

/-- The target is too close, on the body side of the femur axis, and the bound at its height lies behind the
hip axis. -/
def PushedBehind (ik : LegIk ℝ) (p : Point ℝ) : Prop :=
  planarDistance ik.l1 p < ik.dMin ∧ horizontal p < ik.l1 ∧ ik.l1 ^ 2 ≤ ik.dMin ^ 2 - p.z ^ 2

/-- Outside the annulus, the clamp moves the target to the bound, in front of the hip axis. -/
theorem pulledOf_spec (hik : Linked ik) (hout : ik.withinReachMargin p = false)
    (hfront : ¬ PushedBehind ik p) :
    0 < (pulledOf ik p).1 + ik.l1 ∧
      (pulledOf ik p).1 ^ 2 + (pulledOf ik p).2 ^ 2 = boundOf ik p ^ 2 := by
  have hd := planarDistance_sq ik.l1 p
  have hbound : 0 < boundOf ik p := by
    unfold boundOf
    split_ifs
    · exact hik.dMax_pos
    · exact hik.dMin_pos
  refine ⟨?_, pulled_sq hbound hd⟩
  unfold pulledOf
  by_cases hfar : ik.dMax < planarDistance ik.l1 p
  · have hradius : -ik.l1 ≤ horizontal p - ik.l1 := by
      have hnonneg := horizontal_nonneg p
      linarith
    rw [show boundOf ik p = ik.dMax from if_pos hfar] at hbound ⊢
    exact pulled_front_of_far hik.coxa hradius hd hbound hfar
  · have hnear : planarDistance ik.l1 p < ik.dMin := by
      by_contra hge
      rw [withinReachMargin_iff.mpr ⟨not_lt.mp hge, not_lt.mp hfar⟩] at hout
      cases hout
    rw [show boundOf ik p = ik.dMin from if_neg hfar]
    refine pulled_front_of_near hik.coxa hd (planarDistance_nonneg _ _) hnear fun hbody => ?_
    by_contra hbehind
    exact hfront ⟨hnear, by linarith, not_lt.mp hbehind⟩

structure Clamped (ik : LegIk ℝ) (p q : Point ℝ) : Prop where
  accepted : ik.withinReachMargin q = true
  yaw : 1 / 1000000 < horizontal p → atan2 q.y q.x = atan2 p.y p.x
  ahead : horizontal p ≤ 1 / 1000000 → q.y = 0 ∧ 0 < q.x

theorem clamped_of_outside (hik : Linked ik) (hannulus : ik.dMin ≤ ik.dMax)
    (hout : ik.withinReachMargin p = false) (hfront : ¬ PushedBehind ik p) :
    (ik.clampToReach p).2 = true ∧ Clamped ik p (ik.clampToReach p).1 := by
  rcases pulledOf_spec hik hout hfront with ⟨hpos, hsq⟩
  rw [clampToReach_outside hout]
  refine ⟨rfl, ?_, fun haxis => atan2_placed hpos haxis, fun haxis => ?_⟩
  · have hdistance : planarDistance ik.l1
        (placed p ((pulledOf ik p).1 + ik.l1) (pulledOf ik p).2) = boundOf ik p := by
      have hbound : 0 ≤ boundOf ik p := by
        unfold boundOf
        split_ifs
        · exact hik.dMax_pos.le
        · exact hik.dMin_pos.le
      have hplane := planarDistance_sq ik.l1 (placed p ((pulledOf ik p).1 + ik.l1) (pulledOf ik p).2)
      rw [horizontal_placed hpos.le, placed_z, add_sub_cancel_right, hsq] at hplane
      exact (sq_eq_sq₀ (planarDistance_nonneg _ _) hbound).mp hplane
    rw [withinReachMargin_iff, hdistance]
    unfold boundOf
    split_ifs
    · exact ⟨hannulus, le_rfl⟩
    · exact ⟨le_rfl, hannulus⟩
  · rw [placed_of_le haxis]
    exact ⟨rfl, hpos⟩

theorem linked_of_validate {cfg : RobotConfig} (hvalid : validateRobotConfig cfg = true) :
    Linked (BodyKinematics.new (F := ℝ) cfg).ik := by
  have hpos : ∀ n : UInt16, n ≠ 0 → (0 : ℝ) < ofUInt16 n / lit 100 := by
    intro n hn
    have hnat : 0 < n.toNat := Nat.pos_of_ne_zero fun hzero => hn (UInt16.toNat_inj.mp hzero)
    have hcast : (0 : ℝ) < ((n.toNat : ℤ) : ℝ) := by exact_mod_cast hnat
    have hlit : (lit 100 : ℝ) = 100 := Rat.cast_ofNat 100
    rw [hlit]
    exact div_pos hcast (by norm_num)
  have hcoxa : cfg.links.coxa_cmm ≠ 0 := by
    intro hzero
    unfold validateRobotConfig at hvalid
    simp only [hzero, beq_self_eq_true, Bool.true_or, if_true, ite_self, Bool.false_eq_true] at hvalid
  rcases lengths_of_validate hvalid with ⟨hfemur, htibia, -⟩
  exact ⟨hpos _ hcoxa, hpos _ hfemur, hpos _ htibia⟩

/-- **The reach clamp is sound.** For the links of a validated configuration with a safe annulus that is not
empty, and every target that is not pushed behind the hip axis: either the clamp reports no change, leaves the
target alone, and the margin test accepts it; or it reports a change, the margin test accepts the new target,
and the new target has the yaw of the old one, unless that was within 1e-6 mm of the hip axis: then it is
straight ahead. -/
theorem clamp_sound {cfg : RobotConfig} (hvalid : validateRobotConfig cfg = true)
    (hannulus : (BodyKinematics.new (F := ℝ) cfg).ik.dMin ≤ (BodyKinematics.new cfg).ik.dMax)
    (hfront : ¬ PushedBehind (BodyKinematics.new cfg).ik p) :
    (BodyKinematics.new cfg).ik.clampToReach p = (p, false) ∧
        (BodyKinematics.new cfg).ik.withinReachMargin p = true ∨
      ((BodyKinematics.new cfg).ik.clampToReach p).2 = true ∧
        Clamped (BodyKinematics.new cfg).ik p ((BodyKinematics.new cfg).ik.clampToReach p).1 := by
  cases hwithin : (BodyKinematics.new (F := ℝ) cfg).ik.withinReachMargin p with
  | true => exact .inl ⟨clampToReach_inside hwithin, rfl⟩
  | false => exact .inr (clamped_of_outside (linked_of_validate hvalid) hannulus hwithin hfront)

noncomputable def defaultIk : LegIk ℝ := (BodyKinematics.new defaultRobotConfig).ik

theorem centi (n : UInt16) : (ofUInt16 n / lit 100 : ℝ) = n.toNat / 100 := by
  rw [lit_exact]
  norm_num [ofUInt16]

theorem defaultIk_links : defaultIk.l1 = 52 ∧ defaultIk.l2 = 66.51 ∧ defaultIk.l3 = 117.16 := by
  refine ⟨(centi 5200).trans ?_, (centi 6651).trans ?_, (centi 11716).trans ?_⟩
  · norm_num [show (5200 : UInt16).toNat = 5200 from rfl]
  · norm_num [show (6651 : UInt16).toNat = 6651 from rfl]
  · norm_num [show (11716 : UInt16).toNat = 11716 from rfl]

theorem defaultIk_annulus : defaultIk.dMin = 59.8335 ∧ defaultIk.dMax = 174.4865 := by
  rcases defaultIk_links with ⟨-, hl2, hl3⟩
  rw [dMin_exact, dMax_exact, hl2, hl3]
  constructor
  · rw [abs_of_neg (by norm_num)]
    norm_num
  · norm_num

theorem thirdLeg_hip : ((BodyKinematics.new defaultRobotConfig : BodyKinematics ℝ).legs 2).hip_x_mm = 69.8 ∧
    ((BodyKinematics.new defaultRobotConfig : BodyKinematics ℝ).legs 2).hip_y_mm = 0 ∧
    ((BodyKinematics.new defaultRobotConfig : BodyKinematics ℝ).legs 2).z_off_mm = 0 := by
  refine ⟨?_, ?_, ?_⟩
  · show (((698 : Int16).toInt : ℝ) / ((10 : ℚ) : ℝ)) = 69.8
    rw [show (698 : Int16).toInt = 698 from rfl]
    norm_num
  · show (((0 : Int16).toInt : ℝ) / ((10 : ℚ) : ℝ)) = 0
    rw [show (0 : Int16).toInt = 0 from rfl]
    norm_num
  · show (((0 : Int16).toInt : ℝ) / ((10 : ℚ) : ℝ) + (((0 : UInt16).toNat : ℤ) : ℝ) / ((100 : ℚ) : ℝ)) = 0
    rw [show (0 : Int16).toInt = 0 from rfl, show (0 : UInt16).toNat = 0 from rfl]
    norm_num

def farAhead : Point ℝ := ⟨300, 0, 0⟩

theorem horizontal_straight {x z : ℝ} (hx : 0 ≤ x) : horizontal ⟨x, 0, z⟩ = x := by
  show √(x * x + 0 * 0) = x
  rw [mul_zero, add_zero, Real.sqrt_mul_self hx]

theorem clamp_sound_farAhead :
    defaultIk.clampToReach farAhead = (farAhead, false) ∧
        defaultIk.withinReachMargin farAhead = true ∨
      (defaultIk.clampToReach farAhead).2 = true ∧
        Clamped defaultIk farAhead (defaultIk.clampToReach farAhead).1 := by
  refine clamp_sound validate_defaultRobotConfig ?_ ?_
  · rcases defaultIk_annulus with ⟨hmin, hmax⟩
    show defaultIk.dMin ≤ defaultIk.dMax
    rw [hmin, hmax]
    norm_num
  · rintro ⟨-, hbody, -⟩
    have hlt : horizontal farAhead < defaultIk.l1 := hbody
    rw [farAhead, horizontal_straight (by norm_num), defaultIk_links.1] at hlt
    norm_num at hlt

/-- The clamp at a target, with the yaw kept at every positive horizontal distance. -/
def ClampSound (ik : LegIk ℝ) (p : Point ℝ) : Prop :=
  (ik.clampToReach p).2 = false ∧ ik.withinReachMargin (ik.clampToReach p).1 = true ∨
    (ik.clampToReach p).2 = true ∧ ik.withinReachMargin (ik.clampToReach p).1 = true ∧
      (0 < horizontal p → atan2 (ik.clampToReach p).1.y (ik.clampToReach p).1.x = atan2 p.y p.x)

/-- A low target to the left, at a distance of 1e-7 mm from the hip axis. -/
noncomputable def nearAxis : Point ℝ := ⟨0, 1 / 10000000, -500⟩

theorem nearAxis_not_sound : ¬ ClampSound defaultIk nearAxis := by
  have hh : horizontal nearAxis = 1 / 10000000 := by
    show √(0 * 0 + 1 / 10000000 * (1 / 10000000)) = 1 / 10000000
    rw [mul_zero, zero_add, Real.sqrt_mul_self (by norm_num)]
  rcases defaultIk_annulus with ⟨hmin, hmax⟩
  have hfar : defaultIk.dMax < planarDistance defaultIk.l1 nearAxis := by
    have hsq := planarDistance_sq defaultIk.l1 nearAxis
    have hnonneg := planarDistance_nonneg defaultIk.l1 nearAxis
    have hradius := sq_nonneg (horizontal nearAxis - defaultIk.l1)
    have hz : nearAxis.z ^ 2 = 250000 := by norm_num [nearAxis]
    rw [hmax]
    by_contra hle
    have hbelow := pow_le_pow_left₀ hnonneg (not_lt.mp hle) 2
    linarith
  have hout : defaultIk.withinReachMargin nearAxis = false := by
    rw [Bool.eq_false_iff, Ne, withinReachMargin_iff]
    exact fun hin => absurd hfar (not_lt.mpr hin.2)
  have hfront : ¬ PushedBehind defaultIk nearAxis := by
    rintro ⟨hnear, -⟩
    linarith
  have hlinked : Linked defaultIk := linked_of_validate validate_defaultRobotConfig
  rcases clamped_of_outside hlinked (by rw [hmin, hmax]; norm_num) hout hfront with ⟨hflag, hclamped⟩
  rcases hclamped.ahead (by rw [hh]; norm_num) with ⟨hy, hx⟩
  rintro (⟨hunchanged, -⟩ | ⟨-, -, hyaw⟩)
  · rw [hflag] at hunchanged
    cases hunchanged
  · have hsame := hyaw (by rw [hh]; norm_num)
    have hahead : atan2 (defaultIk.clampToReach nearAxis).1.y (defaultIk.clampToReach nearAxis).1.x =
        0 := by
      rw [hy]
      exact Complex.arg_ofReal_of_nonneg hx.le
    have hleft : atan2 nearAxis.y nearAxis.x = Real.pi / 2 := by
      show Complex.arg ⟨0, 1 / 10000000⟩ = Real.pi / 2
      rw [← Complex.arg_I, ← Complex.arg_real_mul Complex.I (r := 1 / 10000000) (by norm_num)]
      congr 1
      apply Complex.ext
      · simp
      · simp
    have hpi := Real.pi_pos
    linarith

/-- A target between the hip axis and the femur axis. -/
def underBody : Point ℝ := ⟨26, 0, 0⟩

theorem underBody_not_sound : ¬ ClampSound defaultIk underBody := by
  have hh : horizontal underBody = 26 := horizontal_straight (by norm_num)
  rcases defaultIk_annulus with ⟨hmin, hmax⟩
  have hl1 := defaultIk_links.1
  have hd : planarDistance defaultIk.l1 underBody = 26 := by
    have hsq := planarDistance_sq defaultIk.l1 underBody
    rw [hh, hl1, show underBody.z = 0 from rfl] at hsq
    rw [hl1]
    refine (sq_eq_sq₀ (planarDistance_nonneg _ _) (by norm_num)).mp ?_
    rw [hsq]
    norm_num
  have hout : defaultIk.withinReachMargin underBody = false := by
    rw [Bool.eq_false_iff, Ne, withinReachMargin_iff, hd, hmin]
    norm_num
  have hbound : boundOf defaultIk underBody = 59.8335 := by
    unfold boundOf
    rw [hd, hmax, hmin]
    norm_num
  have hpulled : pulledOf defaultIk underBody = (-59.8335, 0) := by
    unfold pulledOf pulled
    rw [hbound, hh, hl1, show underBody.z = 0 from rfl, abs_zero, if_pos (by norm_num),
      if_pos (by norm_num), mul_zero, sub_zero, Real.sqrt_mul_self (by norm_num)]
  have hclamp : (defaultIk.clampToReach underBody).1 = ⟨-7.8335, 0, 0⟩ := by
    rw [clampToReach_outside hout, hpulled, hl1, placed, hh, if_pos (by norm_num)]
    norm_num [underBody]
  have hrejected : defaultIk.withinReachMargin ⟨-7.8335, 0, 0⟩ = false := by
    have hback : horizontal ⟨-7.8335, 0, 0⟩ = 7.8335 := by
      show √(-7.8335 * -7.8335 + 0 * 0) = 7.8335
      rw [show (-7.8335 * -7.8335 + 0 * 0 : ℝ) = 7.8335 * 7.8335 by norm_num,
        Real.sqrt_mul_self (by norm_num)]
    rw [Bool.eq_false_iff, Ne, withinReachMargin_iff]
    rintro ⟨hfar, -⟩
    have hsq := planarDistance_sq defaultIk.l1 ⟨-7.8335, 0, 0⟩
    rw [hback, hl1] at hsq
    rw [hmin] at hfar
    have hbelow := pow_le_pow_left₀ (by norm_num) hfar 2
    rw [hl1, hsq] at hbelow
    norm_num at hbelow
  rintro (⟨-, haccepted⟩ | ⟨-, haccepted, -⟩)
  · rw [hclamp, hrejected] at haccepted
    cases haccepted
  · rw [hclamp, hrejected] at haccepted
    cases haccepted

def stubbyConfig : RobotConfig :=
  { defaultRobotConfig with
    links := { coxa_cmm := 5200, femur_cmm := 10000, tibia_cmm := 100 }
    geometry := { home_radius_cmm := 15200, home_foot_z_cmm := 0, coxa_lift_cmm := 0 } }

theorem validate_stubbyConfig : validateRobotConfig stubbyConfig = true := by decide

theorem stubby_not_sound (p : Point ℝ) :
    ¬ ClampSound (BodyKinematics.new (F := ℝ) stubbyConfig).ik p := by
  have hl2 : (BodyKinematics.new (F := ℝ) stubbyConfig).ik.l2 = 100 :=
    (centi 10000).trans (by norm_num [show (10000 : UInt16).toNat = 10000 from rfl])
  have hl3 : (BodyKinematics.new (F := ℝ) stubbyConfig).ik.l3 = 1 :=
    (centi 100).trans (by norm_num [show (100 : UInt16).toNat = 100 from rfl])
  have hempty : ∀ q, (BodyKinematics.new (F := ℝ) stubbyConfig).ik.withinReachMargin q = false := by
    intro q
    rw [Bool.eq_false_iff, Ne, withinReachMargin_iff, dMin_exact, dMax_exact, hl2, hl3,
      abs_of_pos (by norm_num)]
    rintro ⟨hmin, hmax⟩
    linarith
  rintro (⟨-, haccepted⟩ | ⟨-, haccepted, -⟩)
  · rw [hempty] at haccepted
    cases haccepted
  · rw [hempty] at haccepted
    cases haccepted

/-- The clamp loses the yaw of a target at the hip axis, pushes a target under the body behind that axis, and
has nowhere to go when the annulus is empty. -/
theorem clamp_not_sound :
    (validateRobotConfig defaultRobotConfig = true ∧ ¬ ClampSound defaultIk nearAxis) ∧
      ¬ ClampSound defaultIk underBody ∧
      validateRobotConfig stubbyConfig = true ∧
      ¬ ClampSound (BodyKinematics.new (F := ℝ) stubbyConfig).ik farAhead :=
  ⟨⟨validate_defaultRobotConfig, nearAxis_not_sound⟩, underBody_not_sound, validate_stubbyConfig,
    stubby_not_sound farAhead⟩

end

end HexapodVerified.Gait
