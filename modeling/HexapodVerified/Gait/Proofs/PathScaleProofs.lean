import HexapodVerified.Gait.Proofs.KinematicsProofs
import HexapodVerified.Lib.Bisection

/-!
# The scale of a path in exact arithmetic

`bodyTargetPathScale` tests the target, the anchor and the middles of a bisection. What it returns is always a
point of the path that passes the reach margin; whether the path is safe up to there depends on whether a
tested point lies behind a gap.
-/

namespace HexapodVerified.Gait

open Config FloatArith Bisection

variable {body : BodyKinematics ℝ} {leg : Fin kNumLegs} {anchor target : Point ℝ}

/-- The point of the segment between two points at this scale. -/
noncomputable def along (anchor target : Point ℝ) (u : ℝ) : Point ℝ :=
  ⟨anchor.x + (target.x - anchor.x) * u, anchor.y + (target.y - anchor.y) * u,
    anchor.z + (target.z - anchor.z) * u⟩

/-- The point of the path at this scale is inside the reach margin of the leg. -/
noncomputable def pathInside (body : BodyKinematics ℝ) (leg : Fin kNumLegs) (anchor target : Point ℝ)
    (u : ℝ) : Bool :=
  body.ik.withinReachMargin (body.footBodyToCoxa leg (along anchor target u))

/-- The path is inside the reach margin up to this scale. -/
def PathSafe (body : BodyKinematics ℝ) (leg : Fin kNumLegs) (anchor target : Point ℝ) (s : ℝ) : Prop :=
  0 ≤ s ∧ s ≤ 1 ∧ ∀ u, 0 ≤ u → u ≤ s → pathInside body leg anchor target u = true

theorem footBodyToCoxa_along (u : ℝ) : body.footBodyToCoxa leg (along anchor target u) =
    along (body.footBodyToCoxa leg anchor) (body.footBodyToCoxa leg target) u := by
  unfold BodyKinematics.footBodyToCoxa along
  dsimp only
  congr 1
  · ring
  · ring
  · ring

theorem along_zero (anchor target : Point ℝ) : along anchor target 0 = anchor := by
  unfold along
  simp

theorem along_one (anchor target : Point ℝ) : along anchor target 1 = target := by
  unfold along
  simp

theorem bisectScale_eq (n : ℕ) (lower upper : ℝ) :
    body.bisectScale (body.footBodyToCoxa leg anchor) (body.footBodyToCoxa leg target) n lower upper =
      bisect (pathInside body leg anchor target) n lower upper := by
  induction n generalizing lower upper with
  | zero => rfl
  | succ n ih =>
    have hmiddle : (lit 0.5 : ℝ) * (lower + upper) = middle lower upper := by
      rw [lit_exact, middle_eq]
      ring
    unfold BodyKinematics.bisectScale bisect
    rw [hmiddle]
    dsimp only
    rw [ih, ih]
    unfold pathInside
    rw [footBodyToCoxa_along]
    rfl

theorem pathInside_one : pathInside body leg anchor target 1 =
    body.ik.withinReachMargin (body.footBodyToCoxa leg target) := by
  unfold pathInside
  rw [along_one]

theorem pathInside_zero : pathInside body leg anchor target 0 =
    body.ik.withinReachMargin (body.footBodyToCoxa leg anchor) := by
  unfold pathInside
  rw [along_zero]

theorem bodyTargetPathScale_eq : body.bodyTargetPathScale leg anchor target =
    if pathInside body leg anchor target 1 = true then 1
    else if pathInside body leg anchor target 0 = true then
      bisect (pathInside body leg anchor target) 8 0 1
    else 0 := by
  have hone : (lit 1 : ℝ) = 1 := Rat.cast_one
  have hzero : (lit 0 : ℝ) = 0 := Rat.cast_zero
  unfold BodyKinematics.bodyTargetPathScale
  dsimp only
  rw [bisectScale_eq, hone, hzero, ← @pathInside_one body leg anchor target,
    ← @pathInside_zero body leg anchor target]
  cases pathInside body leg anchor target 0 with
  | true => rfl
  | false => rfl

theorem bodyTargetPathScale_spec : 0 ≤ body.bodyTargetPathScale leg anchor target ∧
    body.bodyTargetPathScale leg anchor target ≤ 1 ∧
    (body.bodyTargetPathScale leg anchor target = 0 ∨
      pathInside body leg anchor target (body.bodyTargetPathScale leg anchor target) = true) := by
  rw [bodyTargetPathScale_eq]
  split_ifs with htarget hanchor
  · exact ⟨zero_le_one, le_rfl, .inr htarget⟩
  · obtain ⟨hlow, hhigh⟩ := @bisect_mem ℝ _ _ _ (pathInside body leg anchor target) 0 1 8 zero_le_one
    exact ⟨hlow, hhigh, .inr (accept_bisect 8 hanchor)⟩
  · exact ⟨le_rfl, zero_le_one, .inl rfl⟩

theorem continuous_pathDistance (body : BodyKinematics ℝ) (leg : Fin kNumLegs) (anchor target : Point ℝ) :
    Continuous fun u =>
      planarDistance body.ik.l1 (body.footBodyToCoxa leg (along anchor target u)) := by
  unfold planarDistance BodyKinematics.footBodyToCoxa along
  dsimp only
  fun_prop

theorem isClosed_pathInside (body : BodyKinematics ℝ) (leg : Fin kNumLegs) (anchor target : Point ℝ) :
    IsClosed {u | pathInside body leg anchor target u = true} := by
  have hcont := continuous_pathDistance body leg anchor target
  have hset : {u | pathInside body leg anchor target u = true} =
      {u | body.ik.dMin ≤ planarDistance body.ik.l1 (body.footBodyToCoxa leg (along anchor target u))} ∩
      {u | planarDistance body.ik.l1 (body.footBodyToCoxa leg (along anchor target u)) ≤ body.ik.dMax} := by
    ext u
    exact withinReachMargin_iff
  rw [hset]
  exact (isClosed_le continuous_const hcont).inter (isClosed_le hcont continuous_const)

theorem exists_largest (hanchor : pathInside body leg anchor target 0 = true) :
    ∃ largest, IsGreatest {s | PathSafe body leg anchor target s} largest := by
  set safe := {s | PathSafe body leg anchor target s}
  have hzero : (0 : ℝ) ∈ safe := by
    refine ⟨le_rfl, zero_le_one, fun u hlow hhigh => ?_⟩
    rw [le_antisymm hhigh hlow]
    exact hanchor
  have hbdd : BddAbove safe := ⟨1, fun s hs => hs.2.1⟩
  have hle : ∀ s ∈ safe, s ≤ sSup safe := fun s hs => le_csSup hbdd hs
  have hbelow : ∀ u, 0 ≤ u → u < sSup safe → pathInside body leg anchor target u = true := by
    intro u hlow hlt
    obtain ⟨s, hs, hus⟩ := exists_lt_of_lt_csSup ⟨0, hzero⟩ hlt
    exact hs.2.2 u hlow hus.le
  refine ⟨sSup safe, ⟨hle 0 hzero, csSup_le ⟨0, hzero⟩ fun s hs => hs.2.1, fun u hlow hhigh => ?_⟩, hle⟩
  rcases hhigh.lt_or_eq with hlt | rfl
  · exact hbelow u hlow hlt
  · rcases hlow.lt_or_eq with hpos | hzero'
    · -- the end is a limit of safe scales
      have hsub : Set.Ico 0 (sSup safe) ⊆ {u | pathInside body leg anchor target u = true} :=
        fun v hv => hbelow v hv.1 hv.2
      have hmem : sSup safe ∈ closure (Set.Ico 0 (sSup safe)) := by
        rw [closure_Ico hpos.ne]
        exact Set.right_mem_Icc.mpr hlow
      exact (isClosed_pathInside body leg anchor target).closure_subset (closure_mono hsub hmem)
    · rw [← hzero']
      exact hanchor

theorem PathSafe.mono {s r : ℝ} (hs : PathSafe body leg anchor target s) (hr : 0 ≤ r) (hle : r ≤ s) :
    PathSafe body leg anchor target r :=
  ⟨hr, hle.trans hs.2.1, fun u hlow hhigh => hs.2.2 u hlow (hhigh.trans hle)⟩

theorem PathSafe.inside {s : ℝ} (hs : PathSafe body leg anchor target s) :
    pathInside body leg anchor target s = true :=
  hs.2.2 s hs.1 le_rfl

theorem pathSafe_zero (hanchor : pathInside body leg anchor target 0 = true) :
    PathSafe body leg anchor target 0 := by
  refine ⟨le_rfl, zero_le_one, fun u hlow hhigh => ?_⟩
  rw [le_antisymm hhigh hlow]
  exact hanchor

structure ScaleSound (body : BodyKinematics ℝ) (leg : Fin kNumLegs) (anchor target : Point ℝ) (s : ℝ) :
    Prop where
  nonneg : 0 ≤ s
  le_one : s ≤ 1
  safe : pathInside body leg anchor target 0 = true → PathSafe body leg anchor target s
  largest : pathInside body leg anchor target 0 = true →
    ∃ largest, IsGreatest {r | PathSafe body leg anchor target r} largest ∧ largest < s + 1 / 256
  whole : PathSafe body leg anchor target 1 → s = 1

/-- What the eight rounds return is less than their last interval below the largest safe scale. -/
theorem largest_lt_bisect (htarget : ¬ pathInside body leg anchor target 1 = true) {largest : ℝ}
    (hlargest : IsGreatest {r | PathSafe body leg anchor target r} largest) :
    largest < bisect (pathInside body leg anchor target) 8 0 1 + 1 / 256 := by
  obtain ⟨hlow, -⟩ := @bisect_mem ℝ _ _ _ (pathInside body leg anchor target) 0 1 8 zero_le_one
  have hrefused := @not_accept_bisect ℝ _ _ _ _ 0 _ 8 (Bool.eq_false_of_not_eq_true htarget)
  have hwidth : ((1 : ℝ) - 0) / 2 ^ 8 = 1 / 256 := by norm_num
  rw [hwidth] at hrefused
  by_contra hge
  have hinside := hlargest.1.2.2 _ (by linarith) (not_lt.mp hge)
  rw [hrefused] at hinside
  cases hinside

/-- **When the scale of a path is safe.** For every configuration, leg, anchor and target: what
`bodyTargetPathScale` returns is what the header promises exactly when the anchor is outside the reach margin, or
else the target is inside only if the whole path is, and in each of the eight rounds the middle of the part in
which the path leaves the margin for the first time is inside only if the path up to there is. -/
theorem path_scale_sound_iff (cfg : RobotConfig) (leg : Fin kNumLegs) (anchor target : Point ℝ) :
    ScaleSound (BodyKinematics.new cfg) leg anchor target
        ((BodyKinematics.new cfg).bodyTargetPathScale leg anchor target) ↔
      (pathInside (BodyKinematics.new cfg) leg anchor target 0 = true →
        (pathInside (BodyKinematics.new cfg) leg anchor target 1 = true →
          PathSafe (BodyKinematics.new cfg) leg anchor target 1) ∧
        Honest (pathInside (BodyKinematics.new cfg) leg anchor target)
          (PathSafe (BodyKinematics.new cfg) leg anchor target) 8 0 1) := by
  set body : BodyKinematics ℝ := BodyKinematics.new cfg
  have hdown : ∀ x y, 0 ≤ x → x ≤ y → PathSafe body leg anchor target y →
      PathSafe body leg anchor target x := fun x y hx hle hy => hy.mono hx hle
  have hinside : ∀ x, 0 ≤ x → PathSafe body leg anchor target x →
      pathInside body leg anchor target x = true := fun x _ hx => hx.inside
  obtain ⟨hnonneg, hle, -⟩ := @bodyTargetPathScale_spec body leg anchor target
  rw [bodyTargetPathScale_eq] at hnonneg hle ⊢
  by_cases hanchor : pathInside body leg anchor target 0 = true
  · obtain ⟨largest, hlargest⟩ := exists_largest hanchor
    by_cases htarget : pathInside body leg anchor target 1 = true
    · rw [if_pos htarget]
      constructor
      · intro hsound _
        have hwhole := hsound.safe hanchor
        refine ⟨fun _ => hwhole, fun j hj k hk hsafe hnot => absurd ?_ hnot⟩
        obtain ⟨hlow, hhigh⟩ := cut_mem (zero_le_one (α := ℝ)) (Nat.succ_le_of_lt hk)
        exact hwhole.mono hlow hhigh
      · intro hcond
        have hwhole := (hcond hanchor).1 htarget
        refine ⟨zero_le_one, le_rfl, fun _ => hwhole, fun _ => ⟨largest, hlargest, ?_⟩, fun _ => rfl⟩
        have hle := hlargest.1.2.1
        linarith
    · have hupper : ¬ PathSafe body leg anchor target 1 := fun hsafe => htarget hsafe.inside
      have hiff := safe_bisect_iff hdown hinside 8 le_rfl zero_le_one (pathSafe_zero hanchor) hupper
      rw [if_neg htarget, if_pos hanchor] at hnonneg hle ⊢
      constructor
      · intro hsound _
        exact ⟨fun hin => absurd hin htarget, hiff.mp (hsound.safe hanchor)⟩
      · intro hcond
        refine ⟨hnonneg, hle, fun _ => hiff.mpr (hcond hanchor).2, fun _ => ?_, fun hsafe => absurd hsafe hupper⟩
        exact ⟨largest, hlargest, largest_lt_bisect htarget hlargest⟩
  · refine iff_of_true ?_ fun hin => absurd hin hanchor
    refine ⟨hnonneg, hle, fun hin => absurd hin hanchor, fun hin => absurd hin hanchor, fun hsafe => ?_⟩
    exact absurd (hsafe.2.2 0 le_rfl zero_le_one) hanchor

/-- The squared distance along a path of the third leg under the axis of its femur. -/
theorem holePath_sq {u : ℝ} (hu : u ≤ 1) : planarDistance (BodyKinematics.new defaultRobotConfig).ik.l1
    ((BodyKinematics.new defaultRobotConfig).footBodyToCoxa 2 (along ⟨195.8, 0, -55⟩ ⟨69.8, 0, -55⟩ u)) ^ 2 =
      (126 * (1 - u) - 52) ^ 2 + 55 ^ 2 := by
  set body : BodyKinematics ℝ := BodyKinematics.new defaultRobotConfig with hbody
  have hhip := thirdLeg_hip
  rw [← hbody] at hhip
  have hlinks : body.ik.l1 = 52 := defaultIk_links.1
  have hreach : 0 ≤ 126 * (1 - u) := by linarith
  have hz : (body.footBodyToCoxa 2 (along ⟨195.8, 0, -55⟩ ⟨69.8, 0, -55⟩ u)).z = -55 := by
    show -55 + (-55 - -55) * u - (body.legs 2).z_off_mm = -55
    rw [hhip.2.2]
    ring
  have hhorizontal : horizontal (body.footBodyToCoxa 2 (along ⟨195.8, 0, -55⟩ ⟨69.8, 0, -55⟩ u)) =
      126 * (1 - u) := by
    rw [horizontal_footBodyToCoxa (unit_new _ _), hhip.1, hhip.2.1]
    unfold along
    rw [← Real.sqrt_sq hreach]
    congr 1
    ring
  rw [planarDistance_sq, hhorizontal, hz, hlinks]
  ring

theorem holePath_inside_iff {u : ℝ} (hu : u ≤ 1) :
    pathInside (BodyKinematics.new defaultRobotConfig) 2 ⟨195.8, 0, -55⟩ ⟨69.8, 0, -55⟩ u = true ↔
      59.8335 ^ 2 ≤ (126 * (1 - u) - 52) ^ 2 + 55 ^ 2 ∧ (126 * (1 - u) - 52) ^ 2 + 55 ^ 2 ≤ 174.4865 ^ 2 := by
  set body : BodyKinematics ℝ := BodyKinematics.new defaultRobotConfig
  have hnonneg := planarDistance_nonneg body.ik.l1
    (body.footBodyToCoxa 2 (along ⟨195.8, 0, -55⟩ ⟨69.8, 0, -55⟩ u))
  have hbounds : body.ik.dMin = 59.8335 ∧ body.ik.dMax = 174.4865 := defaultIk_annulus
  unfold pathInside
  rw [withinReachMargin_iff, hbounds.1, hbounds.2, ← holePath_sq hu, sq_le_sq₀ (by norm_num) hnonneg,
    sq_le_sq₀ hnonneg (by norm_num)]

/-- A path of the third leg that passes under the axis of its femur. Both ends are inside the reach margin, and
the function returns the whole path. -/
theorem path_scale_hole : ¬ ∀ cfg : RobotConfig, validateRobotConfig cfg = true →
    ∀ (leg : Fin kNumLegs) (anchor target : Point ℝ),
      ScaleSound (BodyKinematics.new cfg) leg anchor target
        ((BodyKinematics.new cfg).bodyTargetPathScale leg anchor target) := by
  intro hall
  have hsound := hall defaultRobotConfig validate_defaultRobotConfig 2 ⟨195.8, 0, -55⟩ ⟨69.8, 0, -55⟩
  have hanchor := (holePath_inside_iff zero_le_one).mpr (by norm_num)
  have htarget := (holePath_inside_iff le_rfl).mpr (by norm_num)
  have hsafe := hsound.safe hanchor
  rw [bodyTargetPathScale_eq, if_pos htarget] at hsafe
  have hhole := (holePath_inside_iff (by norm_num)).mp (hsafe.2.2 (74 / 126) (by norm_num) (by norm_num))
  norm_num at hhole

end HexapodVerified.Gait
