import HexapodVerified.Gait.Proofs.RampConvergenceProofs
import HexapodVerified.Gait.Proofs.StrokeReachProofs

/-!
# Walking inside the workspace

With the measured geometry, an accepted body height and a neutral body pose, no update of the pipeline finds a
foot out of reach, and the limiter changes no height.
-/

namespace HexapodVerified.Gait

open Config Dxl FloatArith Transition PlanarPath

section Foot

variable {e : GaitEngine ℝ} {κ t lift lift' : ℝ}

noncomputable def turnOf (e : GaitEngine ℝ) (κ : ℝ) : ℝ :=
  κ * (e.twist.wz * Real.arcsin (clampf (e.stride_mm / (lit 2 * kMaxLegRadiusMm)) (lit 0) (lit 1)))

noncomputable def moveOf (e : GaitEngine ℝ) (κ : ℝ) : ℂ :=
  ⟨κ * (e.stride_mm / lit 2 * e.twist.vx), κ * (e.stride_mm / lit 2 * e.twist.vy)⟩

theorem half_stride (e : GaitEngine ℝ) : e.stride_mm / lit 2 = e.stride_mm / 2 := by
  rw [lit_exact]
  norm_num

noncomputable def footZ (e : GaitEngine ℝ) (lift : ℝ) : ℝ :=
  clampf (-e.body_height_mm + e.step_mm * clampf lift (lit 0) (lit 1)) kMinFootZMm kMaxFootZMm

theorem footAt_eq (e : GaitEngine ℝ) (leg : Fin kNumLegs) (κ t lift : ℝ) :
    e.footAt leg (κ * t / 2) lift =
      ⟨(homeOf leg + halfStroke (homeOf leg) (turnOf e κ) (moveOf e κ) t).re,
        (homeOf leg + halfStroke (homeOf leg) (turnOf e κ) (moveOf e κ) t).im, footZ e lift⟩ := by
  have hyaw : e.twist.wz * (lit 2 * FloatArith.asin (clampf (e.stride_mm / (lit 2 * kMaxLegRadiusMm)) (lit 0)
      (lit 1))) * (κ * t / 2) = t * turnOf e κ := by
    unfold turnOf
    show e.twist.wz * (((2 : ℚ) : ℝ) * Real.arcsin _) * (κ * t / 2) = _
    ring
  unfold GaitEngine.footAt
  dsimp only
  rw [hyaw]
  unfold halfStroke
  rw [Complex.add_re, Complex.add_re, Complex.add_im, Complex.add_im, Complex.mul_re, Complex.mul_im, arc_re, arc_im,
    Complex.real_smul, Complex.re_ofReal_mul, Complex.im_ofReal_mul]
  congr 1
  · show (kHomeFootXy leg).1 * Real.cos (t * turnOf e κ) - (kHomeFootXy leg).2 * Real.sin (t * turnOf e κ) +
      e.twist.vx * e.stride_mm * (κ * t / 2) = (kHomeFootXy leg).1 +
        ((kHomeFootXy leg).1 * (Real.cos (t * turnOf e κ) - 1) - (kHomeFootXy leg).2 * Real.sin (t * turnOf e κ) +
          t * (κ * (e.stride_mm / lit 2 * e.twist.vx)))
    rw [half_stride]
    ring
  · show (kHomeFootXy leg).1 * Real.sin (t * turnOf e κ) + (kHomeFootXy leg).2 * Real.cos (t * turnOf e κ) +
      e.twist.vy * e.stride_mm * (κ * t / 2) = (kHomeFootXy leg).2 +
        ((kHomeFootXy leg).1 * Real.sin (t * turnOf e κ) + (kHomeFootXy leg).2 * (Real.cos (t * turnOf e κ) - 1) +
          t * (κ * (e.stride_mm / lit 2 * e.twist.vy)))
    rw [half_stride]
    ring

theorem EngineOk.short (h : EngineOk e) (hκ : |κ| ≤ 1) : Short (turnOf e κ) (moveOf e κ) := by
  have hone : (lit 1 : ℝ) = 1 := Rat.cast_one
  have hzero : (lit 0 : ℝ) = 0 := Rat.cast_zero
  have hradius : (lit 2 * kMaxLegRadiusMm : ℝ) = 514.6 := by norm_num [kMaxLegRadiusMm]
  have hunit {x : ℝ} (hx : |x| ≤ 1) : |e.stride_mm / lit 2 * x| ≤ 40 := by
    rw [half_stride, abs_mul, abs_of_nonneg (by linarith [h.stride.1])]
    calc e.stride_mm / 2 * |x| ≤ 40 * 1 :=
          mul_le_mul (by linarith [h.stride.2]) hx (abs_nonneg x) (by norm_num)
      _ = 40 := mul_one 40
  have hside {x c : ℝ} (hx : |x| ≤ c) : |κ * x| ≤ c := by
    rw [abs_mul]
    calc |κ| * |x| ≤ 1 * c := mul_le_mul hκ hx (abs_nonneg x) zero_le_one
      _ = c := one_mul c
  refine ⟨hside ?_, hside (hunit h.vx), hside (hunit h.vy)⟩
  have hlow : 0 ≤ e.stride_mm / 514.6 := div_nonneg h.stride.1 (by norm_num)
  have hhigh : e.stride_mm / 514.6 ≤ 80 / 514.6 := by
    have hstride := h.stride.2
    gcongr
  have hasin : Real.arcsin (e.stride_mm / 514.6) ≤ 0.157 := by
    have hpi := Real.two_le_pi
    rw [Real.arcsin_le_iff_le_sin ⟨by linarith, hhigh.trans (by norm_num)⟩ ⟨by linarith, by linarith⟩]
    have hsin := Real.sin_gt_sub_cube (x := 0.157) (by norm_num)
    refine hhigh.trans (le_trans ?_ hsin.le)
    norm_num
  rw [hradius, hone, hzero, clampf_of_mem hlow (hhigh.trans (by norm_num)), abs_mul,
    abs_of_nonneg (Real.arcsin_nonneg.mpr hlow)]
  calc |e.twist.wz| * Real.arcsin (e.stride_mm / 514.6) ≤ 1 * 0.157 :=
        mul_le_mul h.wz hasin (Real.arcsin_nonneg.mpr hlow) zero_le_one
    _ = 0.157 := one_mul _

theorem footZ_eq (e : GaitEngine ℝ) (lift : ℝ) :
    footZ e lift = max (-158) (min (-15) (-e.body_height_mm + e.step_mm * max 0 (min 1 lift))) := by
  have hlow : (kMinFootZMm : ℝ) = -158 := by norm_num [kMinFootZMm]
  have hhigh : (kMaxFootZMm : ℝ) = -15 := by norm_num [kMaxFootZMm]
  have hone : (lit 1 : ℝ) = 1 := Rat.cast_one
  have hzero : (lit 0 : ℝ) = 0 := Rat.cast_zero
  unfold footZ
  rw [hlow, hhigh, hone, hzero, clampf_exact zero_le_one, clampf_exact (by norm_num)]

theorem footZ_mem (e : GaitEngine ℝ) (lift : ℝ) : -158 ≤ footZ e lift ∧ footZ e lift ≤ -15 := by
  rw [footZ_eq]
  exact ⟨le_max_left _ _, max_le (by norm_num) (min_le_left _ _)⟩

theorem footZ_mono (hstep : 0 ≤ e.step_mm) (hle : lift ≤ lift') : footZ e lift ≤ footZ e lift' := by
  rw [footZ_eq, footZ_eq]
  gcongr

theorem footZ_sub_le (hstep : 0 ≤ e.step_mm ∧ e.step_mm ≤ 50) (hle : lift ≤ lift') :
    footZ e lift' ≤ footZ e lift + 50 * (lift' - lift) := by
  have hdiff : 0 ≤ lift' - lift := sub_nonneg.mpr hle
  have hclamp : max 0 (min 1 lift') ≤ max 0 (min 1 lift) + (lift' - lift) := by
    refine max_le (by linarith [le_max_left 0 (min 1 lift)]) ?_
    rcases min_choice 1 lift with hone | hlift
    · rw [hone]
      linarith [min_le_left 1 lift', le_max_right (0 : ℝ) 1]
    · rw [hlift]
      linarith [min_le_right 1 lift', le_max_right 0 lift]
  have hrise : e.step_mm * max 0 (min 1 lift') ≤ e.step_mm * max 0 (min 1 lift) + 50 * (lift' - lift) := by
    calc e.step_mm * max 0 (min 1 lift') ≤ e.step_mm * (max 0 (min 1 lift) + (lift' - lift)) :=
          mul_le_mul_of_nonneg_left hclamp hstep.1
      _ = e.step_mm * max 0 (min 1 lift) + e.step_mm * (lift' - lift) := mul_add _ _ _
      _ ≤ e.step_mm * max 0 (min 1 lift) + 50 * (lift' - lift) := by
          linarith [mul_le_mul_of_nonneg_right hstep.2 hdiff]
  rw [footZ_eq, footZ_eq]
  generalize e.step_mm * max 0 (min 1 lift') = rise' at hrise
  generalize e.step_mm * max 0 (min 1 lift) = rise at hrise
  refine max_le (by linarith [le_max_left (-158 : ℝ) (min (-15) (-e.body_height_mm + rise))]) ?_
  rcases min_choice (-15) (-e.body_height_mm + rise) with hhigh | hlow
  · rw [hhigh]
    linarith [min_le_left (-15) (-e.body_height_mm + rise'), le_max_right (-158 : ℝ) (-15)]
  · rw [hlow]
    linarith [min_le_right (-15) (-e.body_height_mm + rise'), le_max_right (-158) (-e.body_height_mm + rise)]

end Foot

section Reach

variable {leg : Fin kNumLegs} {p : Point ℝ}

def Point.above (p : Point ℝ) : ℂ := ⟨p.x, p.y⟩

theorem measured_distance_sq (leg : Fin kNumLegs) (p : Point ℝ) :
    planarDistance measured.ik.l1 (measured.footBodyToCoxa leg p) ^ 2 =
      (‖p.above - hipOf leg‖ - 52) ^ 2 + p.z ^ 2 := by
  have hl1 : measured.ik.l1 = 52 := defaultIk_links.1
  have hz : (measured.footBodyToCoxa leg p).z = p.z := by
    show p.z - (measured.legs leg).z_off_mm = p.z
    rw [measured_level, sub_zero]
  have hhorizontal : horizontal (measured.footBodyToCoxa leg p) = ‖p.above - hipOf leg‖ := by
    have hunit : (measured.legs leg).cos_a ^ 2 + (measured.legs leg).sin_a ^ 2 = 1 :=
      unit_new defaultRobotConfig leg
    rw [horizontal_footBodyToCoxa hunit, Complex.norm_def, Complex.normSq_apply, ← sq, ← sq]
    rfl
  rw [planarDistance_sq, hhorizontal, hz, hl1]

theorem reachable_of_inReach (h : InReach ‖p.above - hipOf leg‖ p.z) :
    (measured.solveBody leg p).reachable = true := by
  obtain ⟨-, hl2, hl3⟩ := defaultIk_links
  have hnonneg := planarDistance_nonneg measured.ik.l1 (measured.footBodyToCoxa leg p)
  obtain ⟨hmin, hmax⟩ := h
  rw [← measured_distance_sq, sq_le_sq₀ (by norm_num) hnonneg] at hmin
  rw [← measured_distance_sq, sq_le_sq₀ hnonneg (by norm_num)] at hmax
  refine solveRaw_reachable ?_ ?_
  · show |defaultIk.l2 - defaultIk.l3| ≤ planarDistance measured.ik.l1 (measured.footBodyToCoxa leg p)
    rw [hl2, hl3, abs_of_neg (by norm_num)]
    linarith
  · show planarDistance measured.ik.l1 (measured.footBodyToCoxa leg p) ≤ defaultIk.l2 + defaultIk.l3
    rw [hl2, hl3]
    linarith

theorem inMargin_iff : measured.ik.withinReachMargin (measured.footBodyToCoxa leg p) = true ↔
    InMargin ‖p.above - hipOf leg‖ p.z := by
  obtain ⟨hmin, hmax⟩ := defaultIk_annulus
  have hnonneg := planarDistance_nonneg measured.ik.l1 (measured.footBodyToCoxa leg p)
  have hbounds : measured.ik.dMin = 59.8335 ∧ measured.ik.dMax = 174.4865 := ⟨hmin, hmax⟩
  unfold InMargin
  rw [withinReachMargin_iff, hbounds.1, hbounds.2, ← measured_distance_sq, sq_le_sq₀ (by norm_num) hnonneg,
    sq_le_sq₀ hnonneg (by norm_num)]

end Reach

section Limiter

variable {e : GaitEngine ℝ} {leg : Fin kNumLegs} {κ s t lift : ℝ}

noncomputable def shortened (leg : Fin kNumLegs) (s : ℝ) (target : Point ℝ) : Point ℝ :=
  ⟨(kHomeFootXy leg).1 + (target.x - (kHomeFootXy leg).1) * s,
    (kHomeFootXy leg).2 + (target.y - (kHomeFootXy leg).2) * s, target.z⟩

theorem along_eq_shortened (leg : Fin kNumLegs) (target : Point ℝ) :
    along ⟨(kHomeFootXy leg).1, (kHomeFootXy leg).2, target.z⟩ target s = shortened leg s target := by
  unfold along shortened
  rw [sub_self, zero_mul, add_zero]

theorem shortened_footAt (e : GaitEngine ℝ) (leg : Fin kNumLegs) (κ s t lift : ℝ) :
    (shortened leg s (e.footAt leg (κ * t / 2) lift)).above - hipOf leg =
      stance leg + s • halfStroke (homeOf leg) (turnOf e κ) (moveOf e κ) t := by
  rw [footAt_eq]
  generalize halfStroke (homeOf leg) (turnOf e κ) (moveOf e κ) t = w
  apply Complex.ext
  · show (homeOf leg).re + ((homeOf leg + w).re - (homeOf leg).re) * s - (hipOf leg).re =
      (homeOf leg - hipOf leg + s • w).re
    rw [Complex.add_re, Complex.add_re, Complex.sub_re, Complex.real_smul, Complex.re_ofReal_mul]
    ring
  · show (homeOf leg).im + ((homeOf leg + w).im - (homeOf leg).im) * s - (hipOf leg).im =
      (homeOf leg - hipOf leg + s • w).im
    rw [Complex.add_im, Complex.add_im, Complex.sub_im, Complex.real_smul, Complex.im_ofReal_mul]
    ring

/-- What the scale of a target says: it is zero, or the margin accepts the shortened target. -/
theorem scale_spec (leg : Fin kNumLegs) (target : Point ℝ) :
    0 ≤ measured.bodyTargetPathScale leg ⟨(kHomeFootXy leg).1, (kHomeFootXy leg).2, target.z⟩ target ∧
      measured.bodyTargetPathScale leg ⟨(kHomeFootXy leg).1, (kHomeFootXy leg).2, target.z⟩ target ≤ 1 ∧
      (measured.bodyTargetPathScale leg ⟨(kHomeFootXy leg).1, (kHomeFootXy leg).2, target.z⟩ target = 0 ∨
        InMargin ‖(shortened leg (measured.bodyTargetPathScale leg
          ⟨(kHomeFootXy leg).1, (kHomeFootXy leg).2, target.z⟩ target) target).above - hipOf leg‖ target.z) := by
  have hspec := @bodyTargetPathScale_spec measured leg
    ⟨(kHomeFootXy leg).1, (kHomeFootXy leg).2, target.z⟩ target
  generalize measured.bodyTargetPathScale leg ⟨(kHomeFootXy leg).1, (kHomeFootXy leg).2, target.z⟩ target = σ
    at hspec ⊢
  refine ⟨hspec.1, hspec.2.1, hspec.2.2.imp id fun hinside => ?_⟩
  unfold pathInside at hinside
  rw [along_eq_shortened] at hinside
  exact inMargin_iff.mp hinside

theorem sampled_of_le (hs : s ≤ measured.bodyTargetPathScale leg
    ⟨(kHomeFootXy leg).1, (kHomeFootXy leg).2, (e.footAt leg (κ * 1 / 2) lift).z⟩ (e.footAt leg (κ * 1 / 2) lift)) :
    Sampled (homeOf leg) (stance leg) (moveOf e κ) (turnOf e κ) s (footZ e lift) := by
  obtain ⟨-, hle, hscale⟩ := scale_spec leg (e.footAt leg (κ * 1 / 2) lift)
  rw [shortened_footAt] at hscale
  exact ⟨_, hs, hle, hscale⟩

noncomputable def sampleScale (e : GaitEngine ℝ) (leg : Fin kNumLegs) (place : ℝ × ℝ) : ℝ :=
  measured.bodyTargetPathScale leg
    ⟨(kHomeFootXy leg).1, (kHomeFootXy leg).2, (e.footAt leg place.1 place.2).z⟩ (e.footAt leg place.1 place.2)

/-- The places that a foot passes in its cycle: the swing goes up and down along straight lines. -/
def OnCycle (place : ℝ × ℝ) : Prop := |place.1| + |place.1| ≤ 1 ∧ 0 ≤ place.2 ∧ |place.1| + place.2 ≤ 1

theorem kEnvelope_exact : (GaitPipeline.kEnvelope : List (ℝ × ℝ)) =
    [(-1 * 1 / 2, 0), (1 * 1 / 2, 0), (-1 * 1 / 2, 1 / 2), (1 * 1 / 2, 1 / 2), (0, 1)] := by
  norm_num [GaitPipeline.kEnvelope, kStrokeEnvelopeFrac]

theorem inReach_half (he : EngineOk e) (hκ : |κ| ≤ 1) (hs : 0 ≤ s) (hlow : 0 ≤ t) (hhigh : t ≤ 1)
    (hlift : 0 ≤ lift) (hsum : t / 2 + lift ≤ 1) (hground : s ≤ sampleScale e leg (κ * 1 / 2, 0))
    (hmiddle : s ≤ sampleScale e leg (κ * 1 / 2, 1 / 2)) :
    InReach ‖(shortened leg s (e.footAt leg (κ * t / 2) lift)).above - hipOf leg‖ (footZ e lift) := by
  have hrise : footZ e lift ≤ footZ e (1 / 2) + 25 * (1 - t) := by
    rcases le_total lift (1 / 2) with hle | hge
    · have hmono := footZ_mono he.step.1 hle
      linarith
    · have hsub := footZ_sub_le he.step hge
      linarith
  rw [shortened_footAt]
  exact inReach_scaled (stance_measures leg) (he.short hκ) hs hlow hhigh (sampled_of_le hground)
    (sampled_of_le hmiddle) (footZ_mem e 0).1 (footZ_mem e _).2 (footZ_mono he.step.1 hlift) (footZ_mem e lift).2
    hrise

theorem inReach_shortened (he : EngineOk e) {place : ℝ × ℝ} (hplace : OnCycle place) (hs : 0 ≤ s)
    (hsamples : ∀ sample ∈ (GaitPipeline.kEnvelope : List (ℝ × ℝ)), s ≤ sampleScale e leg sample) :
    InReach ‖(shortened leg s (e.footAt leg place.1 place.2)).above - hipOf leg‖ (footZ e place.2) := by
  obtain ⟨hstroke, hlift, hsum⟩ := hplace
  rw [kEnvelope_exact] at hsamples
  simp only [List.forall_mem_cons] at hsamples
  obtain ⟨hback, hfront, hback', hfront', -⟩ := hsamples
  rcases le_total 0 place.1 with hfwd | hbwd
  · rw [abs_of_nonneg hfwd] at hstroke hsum
    have hlong : place.1 = 1 * (2 * place.1) / 2 := by ring
    rw [hlong]
    exact inReach_half he (by norm_num) hs (by linarith) (by linarith) hlift (by linarith) hfront hfront'
  · rw [abs_of_nonpos hbwd] at hstroke hsum
    have hlong : place.1 = -1 * (-2 * place.1) / 2 := by ring
    rw [hlong]
    exact inReach_half he (by norm_num) hs (by linarith) (by linarith) hlift (by linarith) hback hback'

end Limiter

section Fold

variable {α ι : Type} [Preorder α] {step : α → ι → α}

theorem foldl_le (hdown : ∀ s x, step s x ≤ s) (l : List ι) (init : α) : l.foldl step init ≤ init := by
  induction l generalizing init with
  | nil => exact le_rfl
  | cons x l ih => exact (ih (step init x)).trans (hdown init x)

theorem foldl_le_of_mem (hdown : ∀ s x, step s x ≤ s) {l : List ι} {x : ι} (hx : x ∈ l) {bound : α}
    (hstep : ∀ s, step s x ≤ bound) (init : α) : l.foldl step init ≤ bound := by
  induction l generalizing init with
  | nil => cases hx
  | cons y l ih =>
    rcases List.mem_cons.mp hx with rfl | hmem
    · exact (foldl_le hdown l (step init x)).trans (hstep init)
    · exact ih hmem (step init y)

end Fold

section Pipeline

variable {g : GaitPipeline ℝ}

noncomputable def lesser (scale σ : ℝ) : ℝ := if lt σ scale then σ else scale

theorem lesser_le (scale σ : ℝ) : lesser scale σ ≤ scale ∧ lesser scale σ ≤ σ := by
  unfold lesser
  split_ifs with hlt
  · rw [lt_exact] at hlt
    exact ⟨hlt.le, le_rfl⟩
  · rw [lt_exact, not_lt] at hlt
    exact ⟨le_rfl, hlt⟩

theorem lesser_nonneg {scale σ : ℝ} (hscale : 0 ≤ scale) (hσ : 0 ≤ σ) : 0 ≤ lesser scale σ := by
  unfold lesser
  split_ifs
  · exact hσ
  · exact hscale

theorem pathScale_eq (hbody : g.body = measured) : g.pathScale =
    (List.finRange kNumLegs).foldl (fun scale leg =>
      GaitPipeline.kEnvelope.foldl (fun scale sample => lesser scale (sampleScale g.engine leg sample)) scale) 1 := by
  have hone : (lit 1 : ℝ) = 1 := Rat.cast_one
  unfold GaitPipeline.pathScale
  rw [hbody, hone]
  rfl

theorem pathScale_spec (hbody : g.body = measured) : 0 ≤ g.pathScale ∧ g.pathScale ≤ 1 ∧
    ∀ leg, ∀ sample ∈ (GaitPipeline.kEnvelope : List (ℝ × ℝ)), g.pathScale ≤ sampleScale g.engine leg sample := by
  have hdown (leg : Fin kNumLegs) (scale : ℝ) (sample : ℝ × ℝ) :
      lesser scale (sampleScale g.engine leg sample) ≤ scale := (lesser_le _ _).1
  have hleg (scale : ℝ) (leg : Fin kNumLegs) := foldl_le (hdown leg) GaitPipeline.kEnvelope scale
  rw [pathScale_eq hbody]
  refine ⟨?_, foldl_le hleg _ _, fun leg sample hsample => ?_⟩
  · refine List.foldlRecOn (motive := fun scale => (0 : ℝ) ≤ scale) _ _ zero_le_one ?_
    intro scale hscale leg _
    refine List.foldlRecOn (motive := fun scale => (0 : ℝ) ≤ scale) _ _ hscale ?_
    intro scale hscale sample _
    exact lesser_nonneg hscale (scale_spec leg _).1
  · exact foldl_le_of_mem hleg (List.mem_finRange leg)
      (fun scale => foldl_le_of_mem (hdown leg) hsample (fun s => (lesser_le s _).2) scale) 1

theorem limitStride_spec (hbody : g.body = measured) (hneutral : g.apply_pose = false)
    (feet : Fin kNumLegs → FootTarget ℝ) : ∃ s : ℝ, 0 ≤ s ∧ s ≤ 1 ∧
      (∀ leg, ∀ sample ∈ (GaitPipeline.kEnvelope : List (ℝ × ℝ)), s ≤ sampleScale g.engine leg sample) ∧
      ∀ leg, (g.limitStride feet).1 leg = GaitPipeline.scaleTravel (g.engine.homeFoot leg) s (feet leg) := by
  have hone : (lit 1 : ℝ) = 1 := Rat.cast_one
  obtain ⟨hlow, hhigh, hsamples⟩ := pathScale_spec hbody
  refine ⟨g.pathScale, hlow, hhigh, hsamples, fun leg => ?_⟩
  unfold GaitPipeline.limitStride
  rw [hneutral, if_neg Bool.false_ne_true]
  dsimp only
  split_ifs with hshort
  · rfl
  · rw [lt_exact, hone, not_lt] at hshort
    unfold GaitPipeline.scaleTravel
    rw [le_antisymm hhigh hshort, mul_one, mul_one, add_sub_cancel, add_sub_cancel]

end Pipeline

section Cycle

variable {gait : MarkIiiGait} {leg : Fin kNumLegs} {first last : ℝ × ℝ} {k : ℝ}

/-- Between two places of the cycle there are only places of the cycle. -/
theorem OnCycle.between (hfirst : OnCycle first) (hlast : OnCycle last) (hlow : 0 ≤ k) (hhigh : k ≤ 1) :
    OnCycle (first.1 + (last.1 - first.1) * k, first.2 + (last.2 - first.2) * k) := by
  have hrest : 0 ≤ 1 - k := sub_nonneg.mpr hhigh
  have hsplit (x y : ℝ) : x + (y - x) * k = (1 - k) * x + k * y := by ring
  have habs : |(1 - k) * first.1 + k * last.1| ≤ (1 - k) * |first.1| + k * |last.1| := by
    refine (abs_add_le _ _).trans_eq ?_
    rw [abs_mul, abs_mul, abs_of_nonneg hrest, abs_of_nonneg hlow]
  have hmix {x y c : ℝ} (hx : x ≤ c) (hy : y ≤ c) : (1 - k) * x + k * y ≤ c := by
    calc (1 - k) * x + k * y ≤ (1 - k) * c + k * c :=
          add_le_add (mul_le_mul_of_nonneg_left hx hrest) (mul_le_mul_of_nonneg_left hy hlow)
      _ = c := by ring
  rw [hsplit, hsplit]
  refine ⟨?_, ?_, ?_⟩
  · have htwice := hmix hfirst.1 hlast.1
    linarith
  · exact add_nonneg (mul_nonneg hrest hfirst.2.1) (mul_nonneg hlow hlast.2.1)
  · have hsum := hmix hfirst.2.2 hlast.2.2
    linarith

theorem keyframe_onCycle (hgait : gait.WellFormed) (hdivisor : gait.steps = gait.travel_divisor + 4)
    (gait_step : ℕ) : OnCycle (keyframe gait leg gait_step : ℝ × ℝ) := by
  have henough := hgait.enough
  have hlt := @relative_lt gait leg hgait gait_step
  by_cases hground : 2 ≤ relative gait leg gait_step ∧ relative gait leg gait_step + 2 ≤ gait.steps
  · have hdivisor_pos : (0 : ℝ) < gait.travel_divisor := Nat.cast_pos.mpr (by omega)
    have hlow : (2 : ℝ) ≤ relative gait leg gait_step := by exact_mod_cast hground.1
    have hhigh : (relative gait leg gait_step : ℝ) ≤ gait.travel_divisor + 2 := by
      exact_mod_cast (show relative gait leg gait_step ≤ gait.travel_divisor + 2 by omega)
    have hback : 0 ≤ ((relative gait leg gait_step : ℝ) - 2) / gait.travel_divisor :=
      div_nonneg (by linarith) hdivisor_pos.le
    have hback' : ((relative gait leg gait_step : ℝ) - 2) / gait.travel_divisor ≤ 1 := by
      rw [div_le_one hdivisor_pos]
      linarith
    have hstroke : |1 / 2 - ((relative gait leg gait_step : ℝ) - 2) / gait.travel_divisor| ≤ 1 / 2 := by
      rw [abs_le]
      exact ⟨by linarith, by linarith⟩
    rw [keyframe_ground hground.1 hground.2]
    exact ⟨by linarith, le_rfl, by linarith⟩
  · rw [keyframe_eq]
    unfold OnCycle
    split_ifs
    · norm_num
    · norm_num
    · omega
    · norm_num
    · omega

theorem gaitDefinition_divisor (id : GaitId) :
    (gaitDefinition id).steps = (gaitDefinition id).travel_divisor + 4 := by
  cases id <;> rfl

theorem wellFormed_gaitDefinition (id : GaitId) : (gaitDefinition id).WellFormed := by
  cases id
  case tripod => exact wellFormed_kTripod
  case ripple => exact wellFormed_kRipple
  all_goals exact wellFormed_kWave

theorem trajectory_onCycle (id : GaitId) (leg : Fin kNumLegs) (phase : ℝ) :
    OnCycle (trajectory (gaitDefinition id) leg phase) := by
  have hkey := @keyframe_onCycle (gaitDefinition id) leg (wellFormed_gaitDefinition id) (gaitDefinition_divisor id)
  exact (hkey _).between (hkey _) (Int.fract_nonneg phase) (Int.fract_lt_one phase).le

end Cycle

structure WalkingEngine (e : GaitEngine ℝ) : Prop where
  ok : EngineOk e
  seeded : e.params_seeded = true
  height : 40 ≤ e.body_height_mm ∧ e.body_height_mm ≤ 160
  height_target : 40 ≤ e.height_target ∧ e.height_target ≤ 160

section Engine

variable {e : GaitEngine ℝ}

theorem WalkingEngine.advanceFilters (h : WalkingEngine e) (dt_ms : UInt32) :
    WalkingEngine (e.advanceFilters dt_ms) :=
  ⟨h.ok.advanceFilters dt_ms, h.seeded, filter_mem h.height h.height_target (filterGain_mem dt_ms),
    h.height_target⟩

theorem WalkingEngine.parked (h : WalkingEngine e) (dt_ms : UInt32) : WalkingEngine (e.parked dt_ms) := by
  have hfiltered := h.advanceFilters dt_ms
  exact ⟨h.ok.parked dt_ms, hfiltered.seeded, hfiltered.height, hfiltered.height_target⟩

theorem WalkingEngine.stepFeet (h : WalkingEngine e) (dt_ms : UInt32) : WalkingEngine (e.stepFeet dt_ms).1 :=
  ⟨h.ok.stepFeet dt_ms, h.seeded, h.height, h.height_target⟩

/-- A target that the engine asks for: the foot is at home, or on its cycle. -/
def Asked (e : GaitEngine ℝ) (leg : Fin kNumLegs) (f : FootTarget ℝ) : Prop :=
  (f.x_mm = (kHomeFootXy leg).1 ∧ f.y_mm = (kHomeFootXy leg).2 ∧ -160 ≤ f.z_mm ∧ f.z_mm ≤ 0) ∨
    ∃ place, OnCycle place ∧ f = e.footOn leg place

theorem WalkingEngine.asked_heldFoot (h : WalkingEngine e) (leg : Fin kNumLegs) : Asked e leg (e.heldFoot leg) := by
  obtain ⟨hlow, hhigh⟩ := h.height
  refine .inl ⟨rfl, rfl, ?_, ?_⟩
  · show -160 ≤ -e.body_height_mm
    linarith
  · show -e.body_height_mm ≤ 0
    linarith

theorem WalkingEngine.update (h : WalkingEngine e) (dt_ms : UInt32) :
    WalkingEngine (e.update dt_ms).1 ∧ ∀ leg, Asked (e.update dt_ms).1 leg ((e.update dt_ms).2 leg) := by
  have hfiltered := h.advanceFilters dt_ms
  have hparked := h.parked dt_ms
  rcases update_cases e dt_ms with heq | ⟨-, heq⟩ | heq | heq
  · rw [heq]
    exact ⟨hfiltered, hfiltered.asked_heldFoot⟩
  · rw [heq]
    refine ⟨hfiltered, fun leg => .inl ⟨rfl, rfl, ?_, ?_⟩⟩
    · norm_num [kSitFootZMm]
    · norm_num [kSitFootZMm]
  · rw [heq]
    exact ⟨hparked, hparked.asked_heldFoot⟩
  · rw [heq]
    refine ⟨hparked.stepFeet dt_ms, fun leg => .inr ⟨_, ?_, stepFeet_foot (e.parked dt_ms) dt_ms leg⟩⟩
    exact trajectory_onCycle _ leg _

def TargetInReach (leg : Fin kNumLegs) (f : FootTarget ℝ) : Prop :=
  InReach ‖(⟨f.x_mm, f.y_mm⟩ : ℂ) - hipOf leg‖ f.z_mm

theorem Asked.inReach (he : EngineOk e) {leg : Fin kNumLegs} {f : FootTarget ℝ} (hf : Asked e leg f) {s : ℝ}
    (hs : 0 ≤ s) (hsamples : ∀ sample ∈ (GaitPipeline.kEnvelope : List (ℝ × ℝ)), s ≤ sampleScale e leg sample) :
    TargetInReach leg (GaitPipeline.scaleTravel (e.homeFoot leg) s f) := by
  rcases hf with ⟨hx, hy, hlow, hhigh⟩ | ⟨place, hplace, rfl⟩
  · have hhome : (⟨(kHomeFootXy leg).1 + (f.x_mm - (kHomeFootXy leg).1) * s,
        (kHomeFootXy leg).2 + (f.y_mm - (kHomeFootXy leg).2) * s⟩ : ℂ) = homeOf leg := by
      rw [hx, hy, sub_self, sub_self, zero_mul, add_zero, add_zero]
      rfl
    show InReach ‖(⟨(kHomeFootXy leg).1 + (f.x_mm - (kHomeFootXy leg).1) * s,
      (kHomeFootXy leg).2 + (f.y_mm - (kHomeFootXy leg).2) * s⟩ : ℂ) - hipOf leg‖ f.z_mm
    rw [hhome]
    exact inReach_home (stance_measures leg) hlow hhigh
  · exact inReach_shortened he hplace hs hsamples

end Engine

section Preview

variable {g : GaitPipeline ℝ}

def Previewed (g : GaitPipeline ℝ) (leg : Fin kNumLegs) : Prop := g.preview_leg.toInt = leg

theorem inReach_ownScale (leg : Fin kNumLegs) {target : Point ℝ} (hlow : -160 ≤ target.z) (hhigh : target.z ≤ 0) :
    InReach ‖(shortened leg (measured.bodyTargetPathScale leg
      ⟨(kHomeFootXy leg).1, (kHomeFootXy leg).2, target.z⟩ target) target).above - hipOf leg‖ target.z := by
  obtain ⟨-, -, hzero | hmargin⟩ := scale_spec leg target
  · have hhome : (shortened leg 0 target).above = homeOf leg := by
      unfold shortened Point.above
      rw [mul_zero, mul_zero, add_zero, add_zero]
      rfl
    rw [hzero, hhome]
    exact inReach_home (stance_measures leg) hlow hhigh
  · exact hmargin.inReach

theorem previewFoot_z_mem (e : GaitEngine ℝ) (leg : Fin kNumLegs) (phase : ℝ) :
    -158 ≤ (e.previewFoot leg phase).z ∧ (e.previewFoot leg phase).z ≤ -15 := by
  have hlow : (kMinFootZMm : ℝ) = -158 := by norm_num [kMinFootZMm]
  have hhigh : (kMaxFootZMm : ℝ) = -15 := by norm_num [kMaxFootZMm]
  unfold GaitEngine.previewFoot
  rw [hlow, hhigh]
  exact clampf_mem (by norm_num)

theorem applyPreview_spec (hbody : g.body = measured) (dt_ms : UInt32) (feet : Fin kNumLegs → FootTarget ℝ)
    (any_reach_limited : Bool) (leg : Fin kNumLegs) :
    (¬ Previewed g leg → (g.applyPreview dt_ms feet any_reach_limited).2.1 leg = feet leg) ∧
      (Previewed g leg → TargetInReach leg ((g.applyPreview dt_ms feet any_reach_limited).2.1 leg) ∧
        ((g.applyPreview dt_ms feet any_reach_limited).2.1 leg).z_mm =
          (g.engine.previewFoot leg (g.applyPreview dt_ms feet any_reach_limited).1.preview_phase).z) := by
  have hone : (lit 1 : ℝ) = 1 := Rat.cast_one
  unfold Previewed GaitPipeline.applyPreview
  split_ifs with hleg
  · have hsame : g.preview_leg.toInt = leg ↔ leg = ⟨g.preview_leg.toInt.toNat, hleg.2⟩ := by
      rw [Fin.ext_iff]
      dsimp only
      omega
    dsimp only
    rw [hsame]
    refine ⟨fun hne => Function.update_of_ne hne _ _, ?_⟩
    rintro rfl
    rw [Function.update_self]
    refine ⟨?_, rfl⟩
    generalize (⟨g.preview_leg.toInt.toNat, hleg.2⟩ : Fin kNumLegs) = leg
    generalize g.preview_phase + ofUInt32 dt_ms / lit 1000 / kPreviewCycleSeconds = phase
    obtain ⟨hlow, hhigh⟩ := previewFoot_z_mem g.engine leg (phase - FloatArith.floor phase)
    generalize g.engine.previewFoot leg (phase - FloatArith.floor phase) = target at hlow hhigh ⊢
    have hreach := inReach_ownScale leg (show -160 ≤ target.z by linarith) (show target.z ≤ 0 by linarith)
    have hle := (scale_spec leg target).2.1
    rw [hbody, if_neg (by rw [lt_exact, hone, not_lt]; exact hle)]
    exact hreach
  · refine ⟨fun _ => rfl, fun heq => absurd ⟨?_, ?_⟩ hleg⟩
    · omega
    · have hlt := leg.isLt
      omega

end Preview

section Update

variable {g : GaitPipeline ℝ} {cfg : RobotConfig}

theorem emitLegs_reachable (g : GaitPipeline ℝ) (cfg : RobotConfig) (limit : Int)
    (feet : Fin kNumLegs → FootTarget ℝ) (legs : List (Fin kNumLegs))
    (hlegs : ∀ leg ∈ legs, (g.solveLeg leg (feet leg)).1.reachable = true) (r : Ramp) (out : PipelineOutput) :
    (g.emitLegs cfg limit feet legs r out).2.any_unreachable = out.any_unreachable := by
  induction legs generalizing r out with
  | nil => rfl
  | cons leg legs ih =>
    obtain ⟨hleg, hlegs⟩ := List.forall_mem_cons.mp hlegs
    unfold GaitPipeline.emitLegs
    rw [ih hlegs, hleg, Bool.not_true, Bool.or_false]

def PipelineLegTarget.foot (t : PipelineLegTarget) : Int16 × Int16 × Int16 := (t.foot_x_mm, t.foot_y_mm, t.foot_z_mm)

/-- A foot target in the millimetres of the telemetry. -/
noncomputable def rounded (f : FootTarget ℝ) : Int16 × Int16 × Int16 :=
  (Int16.ofInt (lround f.x_mm), Int16.ofInt (lround f.y_mm), Int16.ofInt (lround f.z_mm))

theorem emitLegs_legs (g : GaitPipeline ℝ) (cfg : RobotConfig) (limit : Int) (feet : Fin kNumLegs → FootTarget ℝ)
    (legs : List (Fin kNumLegs)) (r : Ramp) (out : PipelineOutput) :
    (g.emitLegs cfg limit feet legs r out).2.legs.map PipelineLegTarget.foot =
      out.legs.map PipelineLegTarget.foot ++ legs.map fun leg => rounded (feet leg) := by
  induction legs generalizing r out with
  | nil => exact (List.append_nil _).symm
  | cons leg legs ih =>
    unfold GaitPipeline.emitLegs
    rw [ih, List.map_append, List.append_assoc]
    rfl

theorem update_feet (g : GaitPipeline ℝ) (cfg : RobotConfig) (dt_ms : UInt32) :
    (g.update cfg dt_ms).2.legs.map PipelineLegTarget.foot =
      (List.finRange kNumLegs).map fun leg => rounded ((g.advanceFeet dt_ms).2.1 leg) := by
  unfold GaitPipeline.update
  rw [emitLegs_legs]
  rfl

noncomputable def solution (g : GaitPipeline ℝ) (leg : Fin kNumLegs) (f : FootTarget ℝ) : IkResult ℝ :=
  g.body.solveBody leg ⟨f.x_mm, f.y_mm, f.z_mm⟩

structure Walking (g : GaitPipeline ℝ) : Prop where
  engine : WalkingEngine g.engine
  body : g.body = measured
  pose : g.pose = .neutral
  pose_target : g.pose_target = .neutral
  apply_pose : g.apply_pose = false

theorem Walking.filterPose (h : Walking g) (dt_ms : UInt32) : g.filterPose dt_ms = g :=
  filterPose_neutral h.pose h.pose_target h.apply_pose dt_ms

/-- What a walk promises of an update: every foot is in reach, the strokes of all legs are shortened alike, and
the feet keep the heights that the engine asked for. These are the feet that the update solves: it reports them,
and emits for every mapped joint the ramped tick of its angle in the solution. -/
structure InWorkspace (cfg : RobotConfig) (g : GaitPipeline ℝ) (dt_ms : UInt32) : Prop where
  reachable : (g.update cfg dt_ms).2.any_unreachable = false
  feet : (g.update cfg dt_ms).2.legs.map PipelineLegTarget.foot =
    (List.finRange kNumLegs).map fun leg => rounded ((g.advanceFeet dt_ms).2.1 leg)
  goals : ∀ (leg : Fin kNumLegs) (joint : UInt8), joint.toNat < kJointsPerLeg →
    (servoFor cfg (UInt8.ofNat leg) joint).isSome →
    GaitPipeline.ticksFor (UInt8.ofNat leg) joint (g.update cfg dt_ms).2.joints =
      [(GaitPipeline.rampTick (GaitPipeline.slewLimit g.goal_slew_ticks_per_s dt_ms)
        (g.ramping (slotOf (UInt8.ofNat leg) joint)) (g.last_tick (slotOf (UInt8.ofNat leg) joint))
        (angleToTick cfg (UInt8.ofNat leg) joint
          (GaitPipeline.jointAngle (solution g leg ((g.advanceFeet dt_ms).2.1 leg)) joint)).tick).1]
  strokes : ∃ s : ℝ, 0 ≤ s ∧ s ≤ 1 ∧ ∀ leg, ¬ Previewed g leg → (g.advanceFeet dt_ms).2.1 leg =
    GaitPipeline.scaleTravel ((g.engine.update dt_ms).1.homeFoot leg) s ((g.engine.update dt_ms).2 leg)
  heights : ∀ leg, ¬ Previewed g leg →
    ((g.advanceFeet dt_ms).2.1 leg).z_mm = ((g.engine.update dt_ms).2 leg).z_mm
  preview : ∀ leg, Previewed g leg → ((g.advanceFeet dt_ms).2.1 leg).z_mm =
    ((g.engine.update dt_ms).1.previewFoot leg (g.advanceFeet dt_ms).1.preview_phase).z

noncomputable def stepped (g : GaitPipeline ℝ) (dt_ms : UInt32) : GaitPipeline ℝ :=
  { g with engine := (g.engine.update dt_ms).1 }

theorem Walking.advanceFeet_eq (h : Walking g) (dt_ms : UInt32) : g.advanceFeet dt_ms =
    (stepped g dt_ms).applyPreview dt_ms ((stepped g dt_ms).limitStride (g.engine.update dt_ms).2).1
      ((stepped g dt_ms).limitStride (g.engine.update dt_ms).2).2 := by
  unfold GaitPipeline.advanceFeet
  rw [h.filterPose]
  rfl

theorem Walking.stepped (h : Walking g) (dt_ms : UInt32) : Walking (stepped g dt_ms) :=
  ⟨(h.engine.update dt_ms).1, h.body, h.pose, h.pose_target, h.apply_pose⟩

theorem Walking.advanceFeet (h : Walking g) (dt_ms : UInt32) : Walking (g.advanceFeet dt_ms).1 := by
  have hstepped := h.stepped dt_ms
  rw [h.advanceFeet_eq]
  obtain ⟨_, heq⟩ := GaitPipeline.applyPreview_frame (Gait.stepped g dt_ms) dt_ms
    ((Gait.stepped g dt_ms).limitStride (g.engine.update dt_ms).2).1
    ((Gait.stepped g dt_ms).limitStride (g.engine.update dt_ms).2).2
  rw [heq]
  exact ⟨hstepped.engine, hstepped.body, hstepped.pose, hstepped.pose_target, hstepped.apply_pose⟩

theorem Walking.inWorkspace (h : Walking g) (cfg : RobotConfig) (dt_ms : UInt32) : InWorkspace cfg g dt_ms := by
  have hstepped := h.stepped dt_ms
  have hafter := h.advanceFeet dt_ms
  obtain ⟨s, hlow, hhigh, hsamples, hlimited⟩ :=
    limitStride_spec hstepped.body hstepped.apply_pose (g.engine.update dt_ms).2
  have hpreview := applyPreview_spec hstepped.body dt_ms
    ((Gait.stepped g dt_ms).limitStride (g.engine.update dt_ms).2).1
    ((Gait.stepped g dt_ms).limitStride (g.engine.update dt_ms).2).2
  rw [← h.advanceFeet_eq] at hpreview
  have hstrokes (leg : Fin kNumLegs) (hleg : ¬ Previewed g leg) : (g.advanceFeet dt_ms).2.1 leg =
      GaitPipeline.scaleTravel ((g.engine.update dt_ms).1.homeFoot leg) s ((g.engine.update dt_ms).2 leg) :=
    ((hpreview leg).1 hleg).trans (hlimited leg)
  have hreach (leg : Fin kNumLegs) : TargetInReach leg ((g.advanceFeet dt_ms).2.1 leg) := by
    by_cases hleg : Previewed g leg
    · exact ((hpreview leg).2 hleg).1
    · rw [hstrokes leg hleg]
      exact ((h.engine.update dt_ms).2 leg).inReach hstepped.engine.ok hlow (hsamples leg)
  have hsolved (leg : Fin kNumLegs) :
      ((g.advanceFeet dt_ms).1.solveLeg leg ((g.advanceFeet dt_ms).2.1 leg)).1.reachable = true := by
    unfold GaitPipeline.solveLeg
    rw [hafter.apply_pose, if_neg Bool.false_ne_true, hafter.body]
    exact reachable_of_inReach (hreach leg)
  refine ⟨?_, update_feet g cfg dt_ms, ?_, ⟨s, hlow, hhigh, hstrokes⟩, fun leg hleg => ?_,
    fun leg hleg => ((hpreview leg).2 hleg).2⟩
  · exact emitLegs_reachable (g.advanceFeet dt_ms).1 cfg
      (GaitPipeline.slewLimit (g.advanceFeet dt_ms).1.goal_slew_ticks_per_s dt_ms) (g.advanceFeet dt_ms).2.1
      (List.finRange kNumLegs) (fun leg _ => hsolved leg) (g.advanceFeet dt_ms).1.toRamp
      { any_reach_limited := (g.advanceFeet dt_ms).2.2 }
  · intro leg joint hjoint hmapped
    obtain ⟨servo, hservo⟩ := Option.isSome_iff_exists.mp hmapped
    refine (GaitPipeline.update_slot g dt_ms leg hjoint hservo).emitted.trans ?_
    unfold GaitPipeline.trajectoryTick GaitPipeline.solveLeg solution
    dsimp only
    rw [hafter.apply_pose, if_neg Bool.false_ne_true, hafter.body, h.body]
  · rw [hstrokes leg hleg]
    rfl

end Update

section Run

variable {g : GaitPipeline ℝ} {cfg : RobotConfig} {h : List (PipelineEvent ℝ)}

/-- The calls of a walk: the body height is one that the schema accepts, and there is no body pose. -/
def WalkCall : PipelineCall ℝ → Prop
  | .setParams body_height_mm _ _ _ _ =>
    kMinGaitBodyHeightMm ≤ body_height_mm ∧ body_height_mm ≤ kMaxGaitBodyHeightMm
  | .setBodyPose pose => pose = .neutral
  | _ => True

theorem WalkingEngine.configure {e : GaitEngine ℝ} (hok : EngineOk e)
    (hheight : e.params_seeded = true → WalkingEngine e) {d : GaitDefaults}
    (hd : kMinGaitBodyHeightMm ≤ d.body_height_mm ∧ d.body_height_mm ≤ kMaxGaitBodyHeightMm) :
    WalkingEngine (e.configure d) := by
  have htarget : (40 : ℝ) ≤ ofUInt16 d.body_height_mm ∧ (ofUInt16 d.body_height_mm : ℝ) ≤ 160 := by
    rw [UInt16.le_iff_toNat_le, UInt16.le_iff_toNat_le] at hd
    have hcast : (ofUInt16 d.body_height_mm : ℝ) = d.body_height_mm.toNat :=
      Int.cast_natCast d.body_height_mm.toNat
    rw [hcast]
    exact_mod_cast hd
  have hafter := hok.configure d
  unfold GaitEngine.configure at hafter ⊢
  dsimp only at hafter ⊢
  split_ifs at hafter ⊢ with hseeded
  · exact ⟨hafter, hseeded, (hheight hseeded).height, htarget⟩
  · exact ⟨hafter, rfl, htarget, htarget⟩

theorem walking_new (cfg : RobotConfig) : Walking (GaitPipeline.new (applyRobotKinematicsProfile cfg)) :=
  ⟨.configure engineOk_new nofun (show (40 : UInt16) ≤ 132 ∧ (132 : UInt16) ≤ 160 by decide), new_measured cfg, rfl,
    rfl, rfl⟩

theorem Walking.call (hg : Walking g) (cfg : RobotConfig) {call : PipelineCall ℝ} (hcall : WalkCall call) :
    Walking (g.call cfg call).1 := by
  obtain ⟨hengine, hbody, hpose, htarget, happly⟩ := hg
  cases call with
  | setGait id =>
    exact ⟨⟨hengine.ok.setGait id, hengine.seeded, hengine.height, hengine.height_target⟩, hbody, hpose, htarget,
      happly⟩
  | setParams body_height_mm stride_len_mm step_height_mm duty_x255 speed_x255 =>
    have hconfigured := WalkingEngine.configure hengine.ok (fun _ => hengine)
      (d := { cfg.gait with body_height_mm, stride_len_mm, step_height_mm, duty_x255, speed_x255 }) hcall
    exact ⟨⟨hconfigured.ok.setGait _, hconfigured.seeded, hconfigured.height, hconfigured.height_target⟩, hbody,
      hpose, htarget, happly⟩
  | setTwist vx vy wz =>
    exact ⟨⟨hengine.ok.setTwist ⟨vx, vy, wz⟩, hengine.seeded, hengine.height, hengine.height_target⟩, hbody, hpose,
      htarget, happly⟩
  | setBodyPose pose => exact ⟨hengine, hbody, hpose, hcall, happly⟩
  | setPreviewLeg leg =>
    show Walking (g.setPreviewLeg leg)
    obtain ⟨_, _, hframe⟩ := g.setPreviewLeg_frame leg
    rw [hframe]
    exact ⟨hengine, hbody, hpose, htarget, happly⟩
  | resetPhase =>
    exact ⟨⟨hengine.ok.reset, hengine.seeded, hengine.height, hengine.height_target⟩, hbody, hpose, htarget, happly⟩
  | seedGoal id present_tick =>
    show Walking (g.seedGoal cfg id present_tick)
    obtain ⟨_, hframe⟩ := g.seedGoal_frame cfg id present_tick
    rw [hframe]
    exact ⟨hengine, hbody, hpose, htarget, happly⟩
  | update dt_ms =>
    have hafter := Walking.advanceFeet ⟨hengine, hbody, hpose, htarget, happly⟩ dt_ms
    exact ⟨hafter.engine, hafter.body, hafter.pose, hafter.pose_target, hafter.apply_pose⟩

/-- **Walking stays in the workspace.** With the measured geometry, after every run of calls with accepted body
heights and a neutral body pose, every update solves all feet, shortens only their horizontal strokes, and keeps the
heights that the engine asked for. -/
theorem walking_in_workspace (hcalls : ∀ e ∈ h, WalkCall e.label.1)
    (run : PipelineRun (applyRobotKinematicsProfile cfg) h g) (dt_ms : UInt32) :
    InWorkspace (applyRobotKinematicsProfile cfg) g dt_ms := by
  have hwalking : Walking g := by
    refine run.history_invariant (fun h g => (∀ e ∈ h, WalkCall e.label.1) → Walking g)
      (fun _ => walking_new cfg) ?_ hcalls
    rintro h g ⟨call, goals⟩ g' - ih hstep hcalls
    obtain ⟨hcall, hbefore⟩ := List.forall_mem_cons.mp hcalls
    have hnext := (ih hbefore).call (applyRobotKinematicsProfile cfg) hcall
    rwa [show (g.call (applyRobotKinematicsProfile cfg) call).1 = g' from congrArg Prod.fst hstep] at hnext
  exact hwalking.inWorkspace _ dt_ms

end Run

/-- The pipeline of the compiled configuration, asked for the lowest body and the longest and highest steps. -/
noncomputable def lowestWalk : GaitPipeline ℝ :=
  (GaitPipeline.new (applyRobotKinematicsProfile defaultRobotConfig)).setParams
    (applyRobotKinematicsProfile defaultRobotConfig) 40 80 50 159 255

theorem walking_in_workspace_lowest :
    InWorkspace (applyRobotKinematicsProfile defaultRobotConfig) lowestWalk 20 := by
  refine walking_in_workspace (h := [⟨_, (.setParams 40 80 50 159 255, []), lowestWalk⟩]) ?_ (.step .nil rfl) 20
  intro e he
  rw [List.mem_singleton.mp he]
  exact show (40 : UInt16) ≤ 40 ∧ (40 : UInt16) ≤ 160 by decide

end HexapodVerified.Gait
