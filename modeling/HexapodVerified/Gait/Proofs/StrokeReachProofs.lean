import Mathlib.Analysis.CStarAlgebra.Classes
import HexapodVerified.Gait.Proofs.EngineProofs
import HexapodVerified.Gait.Proofs.PathScaleProofs

/-!
# Strokes of the measured legs

Seen from above, half a stroke turns the foot about the centre of the body and moves it along. Its limits keep it
in front of the femur axis, and nearly straight. When the margin accepts, at a scale, the end of the stroke on the
ground and at half the lift, then at a smaller scale the whole of it is in reach: it is convex, and so no further
out than its ends, and where it may come nearer than its ends it is low enough or does not come far.
-/

namespace HexapodVerified.Gait

open Config FloatArith PlanarPath

noncomputable def measured : BodyKinematics ℝ := BodyKinematics.new defaultRobotConfig

theorem new_measured (cfg : RobotConfig) :
    BodyKinematics.new (applyRobotKinematicsProfile cfg) = measured := rfl

/-- The home foot of a leg, and its hip, seen from above. -/
noncomputable def homeOf (leg : Fin kNumLegs) : ℂ := ⟨(kHomeFootXy leg).1, (kHomeFootXy leg).2⟩

noncomputable def hipOf (leg : Fin kNumLegs) : ℂ :=
  ⟨(measured.legs leg).hip_x_mm, (measured.legs leg).hip_y_mm⟩

noncomputable def stance (leg : Fin kNumLegs) : ℂ := homeOf leg - hipOf leg

theorem deci (n : Int16) : (ofInt16 n / lit 10 : ℝ) = n.toInt / 10 := by
  rw [lit_exact]
  norm_num [ofInt16]

theorem measured_hip (leg : Fin kNumLegs) :
    hipOf leg = ⟨(kLegSeeds.get leg).mount_x_dmm.toInt / 10, (kLegSeeds.get leg).mount_y_dmm.toInt / 10⟩ := by
  rw [← deci, ← deci]
  rfl

theorem measured_level (leg : Fin kNumLegs) : (measured.legs leg).z_off_mm = 0 := by
  have hlift : (ofUInt16 0 / lit 100 : ℝ) = 0 := (centi 0).trans (by norm_num)
  have hmount : ∀ leg, (kLegSeeds.get leg).mount_z_dmm.toInt = 0 := by decide
  show (ofInt16 (kLegSeeds.get leg).mount_z_dmm / lit 10 + ofUInt16 0 / lit 100 : ℝ) = 0
  rw [hlift, deci, hmount leg]
  norm_num

structure Stance (home stance : ℂ) : Prop where
  home_le : ‖home‖ ≤ 257.3
  low : 126.7 ≤ ‖stance‖
  high : ‖stance‖ ≤ 126.72
  along : 0 ≤ stance.re * home.re + stance.im * home.im ∧ stance.re * home.re + stance.im * home.im ≤ 32300
  across : |stance.re * home.im - stance.im * home.re| ≤ 4481
  sides : |stance.re| + |stance.im| ≤ 179.2

theorem mount_table : ∀ leg : Fin kNumLegs,
    ((kLegSeeds.get leg).mount_x_dmm.toInt, (kLegSeeds.get leg).mount_y_dmm.toInt) =
      ![(-656, -1156), (656, -1156), (698, 0), (656, 1156), (-656, 1156), (-698, 0)] leg := by
  decide

theorem stance_cases (leg : Fin kNumLegs) :
    (∃ a b : ℝ, a ^ 2 = 1 ∧ b ^ 2 = 1 ∧ homeOf leg = ⟨155.2 * a, 205.2 * b⟩ ∧ stance leg = ⟨89.6 * a, 89.6 * b⟩) ∨
      ∃ a : ℝ, a ^ 2 = 1 ∧ homeOf leg = ⟨196.5 * a, 0⟩ ∧ stance leg = ⟨126.7 * a, 0⟩ := by
  have hmount := mount_table leg
  have hstance : stance leg = ⟨(kHomeFootXy leg).1 - (kLegSeeds.get leg).mount_x_dmm.toInt / 10,
      (kHomeFootXy leg).2 - (kLegSeeds.get leg).mount_y_dmm.toInt / 10⟩ := by
    unfold stance
    rw [measured_hip]
    rfl
  have hx := congrArg Prod.fst hmount
  have hy := congrArg Prod.snd hmount
  dsimp only at hx hy
  rw [hstance, hx, hy]
  unfold homeOf
  fin_cases leg
  · refine .inl ⟨-1, -1, ?_⟩
    norm_num [kHomeFootXy]
  · refine .inl ⟨1, -1, ?_⟩
    norm_num [kHomeFootXy]
  · refine .inr ⟨1, ?_⟩
    norm_num [kHomeFootXy]
  · refine .inl ⟨1, 1, ?_⟩
    norm_num [kHomeFootXy]
  · refine .inl ⟨-1, 1, ?_⟩
    norm_num [kHomeFootXy]
  · refine .inr ⟨-1, ?_⟩
    norm_num [kHomeFootXy]

theorem norm_le_of_sq {z : ℂ} {r : ℝ} (hr : 0 ≤ r) (h : z.re ^ 2 + z.im ^ 2 ≤ r ^ 2) : ‖z‖ ≤ r := by
  rw [← sq_le_sq₀ (norm_nonneg z) hr, Complex.sq_norm, Complex.normSq_apply, ← sq, ← sq]
  exact h

theorem le_norm_of_sq {z : ℂ} {r : ℝ} (hr : 0 ≤ r) (h : r ^ 2 ≤ z.re ^ 2 + z.im ^ 2) : r ≤ ‖z‖ := by
  rw [← sq_le_sq₀ hr (norm_nonneg z), Complex.sq_norm, Complex.normSq_apply, ← sq z.re, ← sq z.im]
  exact h

theorem abs_of_sq_eq_one {a : ℝ} (ha : a ^ 2 = 1) : |a| = 1 := by
  rwa [← sq_abs, pow_eq_one_iff_of_nonneg (abs_nonneg a) two_ne_zero] at ha

theorem stance_corner {a b : ℝ} (ha : a ^ 2 = 1) (hb : b ^ 2 = 1) :
    Stance ⟨155.2 * a, 205.2 * b⟩ ⟨89.6 * a, 89.6 * b⟩ := by
  constructor
  · refine norm_le_of_sq (by norm_num) ?_
    rw [mul_pow, mul_pow, ha, hb]
    norm_num
  · refine le_norm_of_sq (by norm_num) ?_
    rw [mul_pow, mul_pow, ha, hb]
    norm_num
  · refine norm_le_of_sq (by norm_num) ?_
    rw [mul_pow, mul_pow, ha, hb]
    norm_num
  · dsimp only
    constructor <;> linarith
  · dsimp only
    rw [show 89.6 * a * (205.2 * b) - 89.6 * b * (155.2 * a) = 4480 * (a * b) by ring, abs_mul, abs_mul,
      abs_of_sq_eq_one ha, abs_of_sq_eq_one hb]
    norm_num
  · dsimp only
    rw [abs_mul, abs_mul, abs_of_sq_eq_one ha, abs_of_sq_eq_one hb]
    norm_num

theorem stance_middle {a : ℝ} (ha : a ^ 2 = 1) : Stance ⟨196.5 * a, 0⟩ ⟨126.7 * a, 0⟩ := by
  constructor
  · refine norm_le_of_sq (by norm_num) ?_
    rw [mul_pow, ha]
    norm_num
  · refine le_norm_of_sq (by norm_num) ?_
    rw [mul_pow, ha]
    norm_num
  · refine norm_le_of_sq (by norm_num) ?_
    rw [mul_pow, ha]
    norm_num
  · dsimp only
    constructor <;> linarith
  · norm_num
  · dsimp only
    rw [abs_mul, abs_zero, abs_of_sq_eq_one ha]
    norm_num

theorem stance_measures (leg : Fin kNumLegs) : Stance (homeOf leg) (stance leg) := by
  rcases stance_cases leg with ⟨a, b, ha, hb, hhome, hstance⟩ | ⟨a, ha, hhome, hstance⟩
  · rw [hhome, hstance]
    exact stance_corner ha hb
  · rw [hhome, hstance]
    exact stance_middle ha

open RealInnerProductSpace

/-- The foot turns about the centre of the body and moves along. -/
noncomputable def halfStroke (home : ℂ) (ψ : ℝ) (v : ℂ) (t : ℝ) : ℂ := home * arc (t * ψ) + t • v

structure Short (ψ : ℝ) (v : ℂ) : Prop where
  turn : |ψ| ≤ 0.157
  ahead : |v.re| ≤ 40
  aside : |v.im| ≤ 40

section Stroke

variable {home u v : ℂ} {ψ t : ℝ}

theorem Short.norm_le (hshort : Short ψ v) : ‖v‖ ≤ 56.57 := by
  have hre : v.re ^ 2 ≤ 40 ^ 2 := sq_le_sq' (abs_le.mp hshort.ahead).1 (abs_le.mp hshort.ahead).2
  have him : v.im ^ 2 ≤ 40 ^ 2 := sq_le_sq' (abs_le.mp hshort.aside).1 (abs_le.mp hshort.aside).2
  refine norm_le_of_sq (by norm_num) ?_
  linarith

theorem norm_halfStroke_le (hstance : Stance home u) (hshort : Short ψ v) : ‖halfStroke home ψ v 1‖ ≤ 97 := by
  have harc : ‖home * arc ψ‖ ≤ 257.3 * 0.157 := by
    rw [norm_mul]
    exact mul_le_mul hstance.home_le ((norm_arc_le ψ).trans hshort.turn) (norm_nonneg _) (by norm_num)
  unfold halfStroke
  rw [one_mul, one_smul]
  linarith [norm_add_le (home * arc ψ) v, hshort.norm_le]

/-- Half a stroke goes in by less than 65.3 mm. -/
theorem le_inner_halfStroke (hstance : Stance home u) (hshort : Short ψ v) :
    -8270 ≤ ⟪u, halfStroke home ψ v 1⟫ := by
  have hinner : ⟪u, halfStroke home ψ v 1⟫ = (u.re * home.re + u.im * home.im) * (Real.cos ψ - 1) -
      (u.re * home.im - u.im * home.re) * Real.sin ψ + (u.re * v.re + u.im * v.im) := by
    unfold halfStroke
    rw [one_mul, one_smul, Complex.inner, Complex.mul_re, Complex.conj_re, Complex.conj_im, Complex.add_re,
      Complex.add_im, Complex.mul_re, Complex.mul_im, arc_re, arc_im]
    ring
  obtain ⟨halong, halong'⟩ := hstance.along
  have hsq : ψ ^ 2 ≤ 0.157 ^ 2 := sq_le_sq' (abs_le.mp hshort.turn).1 (abs_le.mp hshort.turn).2
  have hback : 32300 * -(0.157 ^ 2 / 2) ≤ (u.re * home.re + u.im * home.im) * (Real.cos ψ - 1) := by
    have hcos := Real.one_sub_sq_div_two_le_cos (x := ψ)
    have hle := Real.cos_le_one ψ
    calc 32300 * -(0.157 ^ 2 / 2) ≤ 32300 * (Real.cos ψ - 1) := by linarith
      _ ≤ (u.re * home.re + u.im * home.im) * (Real.cos ψ - 1) :=
        mul_le_mul_of_nonpos_right halong' (by linarith)
  have hturn : (u.re * home.im - u.im * home.re) * Real.sin ψ ≤ 4481 * 0.157 := by
    refine (le_abs_self _).trans ?_
    rw [abs_mul]
    exact mul_le_mul hstance.across (Real.abs_sin_le_abs.trans hshort.turn) (abs_nonneg _) (by norm_num)
  have hmove : -(179.2 * 40) ≤ u.re * v.re + u.im * v.im := by
    have hre : |u.re * v.re| ≤ |u.re| * 40 := by
      rw [abs_mul]
      exact mul_le_mul_of_nonneg_left hshort.ahead (abs_nonneg _)
    have him : |u.im * v.im| ≤ |u.im| * 40 := by
      rw [abs_mul]
      exact mul_le_mul_of_nonneg_left hshort.aside (abs_nonneg _)
    linarith [neg_abs_le (u.re * v.re), neg_abs_le (u.im * v.im), hstance.sides]
  rw [hinner]
  linarith

theorem norm_halfStroke_sub_le (hstance : Stance home u) (hshort : Short ψ v) (hlow : 0 ≤ t) (hhigh : t ≤ 1) :
    ‖halfStroke home ψ v t - t • halfStroke home ψ v 1‖ ≤ 1 := by
  have hturn := hshort.turn
  have hsplit : halfStroke home ψ v t - t • halfStroke home ψ v 1 = home * (arc (t * ψ) - t * arc ψ) := by
    unfold halfStroke
    rw [one_mul, one_smul, smul_add, Complex.real_smul, Complex.real_smul]
    ring
  have hchord := norm_arc_sub_chord_le (show |ψ| ≤ 1 by linarith) hlow hhigh
  have hsq : ψ ^ 2 ≤ 0.157 ^ 2 := sq_le_sq' (abs_le.mp hturn).1 (abs_le.mp hturn).2
  have hbend : 9 * (t * (1 - t) * ψ ^ 2) + 4 * ((t ^ 3 + t) * |ψ| ^ 3) ≤ 18 * 0.00386 := by
    have hcubic : t ^ 3 ≤ t ^ 2 := pow_le_pow_of_le_one hlow hhigh (by decide)
    calc 9 * (t * (1 - t) * ψ ^ 2) + 4 * ((t ^ 3 + t) * |ψ| ^ 3)
        ≤ 9 * (t * (1 - t) * 0.157 ^ 2) + 4 * ((t ^ 2 + t) * 0.157 ^ 3) := by gcongr
      _ ≤ 18 * 0.00386 := by nlinarith [sq_nonneg (t - 0.575)]
  have hnear : ‖arc (t * ψ) - t * arc ψ‖ ≤ 0.00386 := by linarith
  rw [hsplit, norm_mul]
  calc ‖home‖ * ‖arc (t * ψ) - t * arc ψ‖ ≤ 257.3 * 0.00386 :=
        mul_le_mul hstance.home_le hnear (norm_nonneg _) (by norm_num)
    _ ≤ 1 := by norm_num

end Stroke

/-- A foot at this distance from the axis of the hip and at this height is in reach of the leg. -/
def InReach (r z : ℝ) : Prop := 50.65 ^ 2 ≤ (r - 52) ^ 2 + z ^ 2 ∧ (r - 52) ^ 2 + z ^ 2 ≤ 183.67 ^ 2

section Inner

variable {a ρ ρ₁ r z t : ℝ}

theorem near_of_lines {α β b k : ℝ} (hρ : α - β * t ≤ ρ) (hr : ρ - 1 ≤ r) (hz : b + k * t ≤ -z)
    (hout : 0 ≤ α - β * t - 53) (hdeep : 0 ≤ b + k * t)
    (hfar : 50.65 ^ 2 ≤ (α - β * t - 53) ^ 2 + (b + k * t) ^ 2) : 50.65 ^ 2 ≤ (r - 52) ^ 2 + z ^ 2 := by
  have hfirst : (α - β * t - 53) ^ 2 ≤ (r - 52) ^ 2 := pow_le_pow_left₀ hout (by linarith) 2
  have hsecond : (b + k * t) ^ 2 ≤ (-z) ^ 2 := pow_le_pow_left₀ hdeep hz 2
  linarith

/-- On the way to a sample at depth `a`, of which the margin says that it is far enough. -/
structure Toward (a ρ ρ₁ t : ℝ) : Prop where
  low : 0 ≤ t
  high : t ≤ 1
  front : 126.7 - 65.28 * t ≤ ρ
  path : 16052 * (1 - t) + t * ρ₁ ^ 2 - 9409 * (t * (1 - t)) ≤ ρ ^ 2
  ahead : 52 ≤ ρ₁
  sample : 59.8335 ^ 2 ≤ (ρ₁ - 52) ^ 2 + a ^ 2

theorem Toward.line_le {c α β : ℝ} (h : Toward a ρ ρ₁ t) (hc : 0 ≤ c) (hca : c ^ 2 + a ^ 2 ≤ 59.8335 ^ 2)
    (hline : (α - β * t) ^ 2 ≤ 16052 * (1 - t) + t * (52 + c) ^ 2 - 9409 * (t * (1 - t))) : α - β * t ≤ ρ := by
  have hfront := h.front
  have hhigh := h.high
  have hahead := h.ahead
  have hsample : c ≤ ρ₁ - 52 := by
    rw [← sq_le_sq₀ hc (by linarith)]
    linarith [h.sample]
  have hend : t * (52 + c) ^ 2 ≤ t * ρ₁ ^ 2 :=
    mul_le_mul_of_nonneg_left (pow_le_pow_left₀ (by linarith) (by linarith) 2) h.low
  refine (le_abs_self _).trans ?_
  rw [← abs_of_nonneg (show 0 ≤ ρ by linarith), ← sq_le_sq]
  linarith [h.path]

theorem near_of_toward (h : Toward a ρ ρ₁ t) (ha : 15 ≤ a) (hr : ρ - 1 ≤ r) (hz : z ≤ -15)
    (hdeep : a - 25 * (1 - t) ≤ -z) : 50.65 ^ 2 ≤ (r - 52) ^ 2 + z ^ 2 := by
  have hlow := h.low
  have hhigh := h.high
  rcases le_total a 29.5 with h₁ | h₁
  · have hline := h.line_le (c := 52.05) (α := 101.6) (β := 0) (by norm_num) (by nlinarith)
      (by nlinarith [sq_nonneg (t - 0.78)])
    exact near_of_lines (b := 15) (k := 0) hline hr (by linarith) (by linarith) (by linarith) (by norm_num)
  rcases le_total a 36 with h₂ | h₂
  · have hline := h.line_le (c := 47.78) (α := 108.5) (β := 13.6) (by norm_num) (by nlinarith)
      (by nlinarith [sq_nonneg (t - 0.7)])
    exact near_of_lines (b := 4.5) (k := 25) hline hr (by linarith) (by linarith) (by linarith)
      (by nlinarith [sq_nonneg (t - 0.793)])
  rcases le_total a 42.5 with h₃ | h₃
  · have hline := h.line_le (c := 42.1) (α := 106.3) (β := 16.1) (by norm_num) (by nlinarith)
      (by nlinarith [sq_nonneg (t - 0.72)])
    exact near_of_lines (b := 11) (k := 25) hline hr (by linarith) (by linarith) (by linarith)
      (by nlinarith [sq_nonneg (t - 0.66)])
  rcases le_total a 48.5 with h₄ | h₄
  · have hline := h.line_le (c := 35.02) (α := 110.4) (β := 29) (by norm_num) (by nlinarith)
      (by nlinarith [sq_nonneg (t - 0.68)])
    exact near_of_lines (b := 17.5) (k := 25) hline hr (by linarith) (by linarith) (by linarith)
      (by nlinarith [sq_nonneg (t - 0.837)])
  rcases le_total a 52 with h₅ | h₅
  · have hline := h.line_le (c := 29.58) (α := 119.6) (β := 49.5) (by norm_num) (by nlinarith)
      (by nlinarith [sq_nonneg (t - 0.5)])
    exact near_of_lines (b := 23.5) (k := 25) hline hr (by linarith) (by linarith) (by linarith)
      (by nlinarith [sq_nonneg (t - 0.881)])
  · -- at this depth the foot is far enough wherever the stroke may take it
    exact near_of_lines (b := 27) (k := 25) h.front hr (by linarith) (by linarith) (by linarith)
      (by nlinarith [sq_nonneg (t - 0.846)])

end Inner

def InMargin (r z : ℝ) : Prop := 59.8335 ^ 2 ≤ (r - 52) ^ 2 + z ^ 2 ∧ (r - 52) ^ 2 + z ^ 2 ≤ 174.4865 ^ 2

theorem InMargin.inReach {r z : ℝ} (h : InMargin r z) : InReach r z := by
  obtain ⟨hmin, hmax⟩ := h
  constructor
  · linarith
  · linarith

section Scaled

variable {home u v : ℂ} {ψ s t σ z z₀ z₁ : ℝ}

theorem inReach_home (hstance : Stance home u) (hlow : -160 ≤ z) (hhigh : z ≤ 0) : InReach ‖u‖ z := by
  have hnear : (126.7 - 52) ^ 2 ≤ (‖u‖ - 52) ^ 2 := pow_le_pow_left₀ (by norm_num) (by linarith [hstance.low]) 2
  have hfar : (‖u‖ - 52) ^ 2 ≤ (126.72 - 52) ^ 2 :=
    pow_le_pow_left₀ (by linarith [hstance.low]) (by linarith [hstance.high]) 2
  have hz : z ^ 2 ≤ 160 ^ 2 := sq_le_sq' hlow (by linarith)
  constructor
  · linarith [sq_nonneg z]
  · linarith

theorem le_inner_scaled (hstance : Stance home u) (hshort : Short ψ v) (hσ : 0 ≤ σ) (hσ' : σ ≤ 1) :
    -8270 ≤ ⟪u, σ • halfStroke home ψ v 1⟫ := by
  have hinner := le_inner_halfStroke hstance hshort
  rw [inner_smul_right]
  calc -8270 ≤ σ * -8270 := by linarith
    _ ≤ σ * ⟪u, halfStroke home ψ v 1⟫ := mul_le_mul_of_nonneg_left hinner hσ

theorem norm_scaled_le (hstance : Stance home u) (hshort : Short ψ v) (hσ : 0 ≤ σ) (hσ' : σ ≤ 1) :
    ‖σ • halfStroke home ψ v 1‖ ≤ 97 := by
  rw [norm_smul_of_nonneg hσ]
  calc σ * ‖halfStroke home ψ v 1‖ ≤ 1 * 97 :=
        mul_le_mul hσ' (norm_halfStroke_le hstance hshort) (norm_nonneg _) zero_le_one
    _ = 97 := one_mul 97

theorem front_le (hstance : Stance home u) (hshort : Short ψ v) (hσ : 0 ≤ σ) (hσ' : σ ≤ 1) (ht : 0 ≤ t) :
    126.7 - 65.28 * t ≤ ‖u + t • σ • halfStroke home ψ v 1‖ := by
  have hlow := hstance.low
  have hpos : 0 < ‖u‖ := by linarith
  have hpath := le_norm_add_smul (le_inner_scaled hstance hshort hσ hσ') ht
  refine le_of_mul_le_mul_left ?_ hpos
  refine le_trans ?_ hpath
  nlinarith

theorem exists_near (hstance : Stance home u) (hshort : Short ψ v) (hs : 0 ≤ s) (hpos : 0 < σ) (hle : s ≤ σ)
    (hσ : σ ≤ 1) (hlow : 0 ≤ t) (hhigh : t ≤ 1) : ∃ t', 0 ≤ t' ∧ t' ≤ t ∧
      |‖u + s • halfStroke home ψ v t‖ - ‖u + t' • σ • halfStroke home ψ v 1‖| ≤ 1 := by
  have hratio : s / σ ≤ 1 := (div_le_one hpos).mpr hle
  refine ⟨s / σ * t, mul_nonneg (div_nonneg hs hpos.le) hlow, mul_le_of_le_one_left hlow hratio, ?_⟩
  have hdiff : u + s • halfStroke home ψ v t - (u + (s / σ * t) • σ • halfStroke home ψ v 1) =
      s • (halfStroke home ψ v t - t • halfStroke home ψ v 1) := by
    rw [smul_smul, show s / σ * t * σ = s * t by field_simp, smul_sub, smul_smul]
    abel
  calc |‖u + s • halfStroke home ψ v t‖ - ‖u + (s / σ * t) • σ • halfStroke home ψ v 1‖|
      ≤ ‖u + s • halfStroke home ψ v t - (u + (s / σ * t) • σ • halfStroke home ψ v 1)‖ :=
        abs_norm_sub_norm_le _ _
    _ = s * ‖halfStroke home ψ v t - t • halfStroke home ψ v 1‖ := by rw [hdiff, norm_smul_of_nonneg hs]
    _ ≤ 1 * 1 := mul_le_mul (hle.trans hσ) (norm_halfStroke_sub_le hstance hshort hlow hhigh) (norm_nonneg _)
        zero_le_one
    _ = 1 := one_mul 1

theorem far_of_sample (hstance : Stance home u) (hshort : Short ψ v) (hs : 0 ≤ s) (hpos : 0 < σ) (hle : s ≤ σ)
    (hσ : σ ≤ 1) (hlow : 0 ≤ t) (hhigh : t ≤ 1) (hmargin : InMargin ‖u + σ • halfStroke home ψ v 1‖ z₀)
    (hground : -158 ≤ z₀) (hz : z₀ ≤ z) (hz' : z ≤ 0) :
    (‖u + s • halfStroke home ψ v t‖ - 52) ^ 2 + z ^ 2 ≤ 183.67 ^ 2 := by
  obtain ⟨t', hlow', hle', hnear⟩ := exists_near hstance hshort hs hpos hle hσ hlow hhigh
  have hfront := front_le hstance hshort hpos.le hσ hlow'
  have hpath := norm_add_smul_le (u := u) (w := σ • halfStroke home ψ v 1) hlow' (hle'.trans hhigh)
  obtain ⟨hin, hout⟩ := abs_le.mp hnear
  generalize ‖u + s • halfStroke home ψ v t‖ = r at hin hout ⊢
  have hzsq : z ^ 2 ≤ z₀ ^ 2 := by nlinarith
  rcases le_total ‖u‖ ‖u + σ • halfStroke home ψ v 1‖ with hgrow | hshrink
  · rw [max_eq_right hgrow] at hpath
    obtain ⟨-, hmax⟩ := hmargin
    have hhome := hstance.low
    generalize ‖u + σ • halfStroke home ψ v 1‖ = ρ₁ at hpath hgrow hmax
    have hlimit : ρ₁ - 52 ≤ 174.4865 := by
      rw [← sq_le_sq₀ (by linarith) (by norm_num)]
      linarith [sq_nonneg z₀]
    have hrsq : (r - 52) ^ 2 ≤ (ρ₁ - 52 + 1) ^ 2 := pow_le_pow_left₀ (by linarith) (by linarith) 2
    calc (r - 52) ^ 2 + z ^ 2 ≤ (ρ₁ - 52) ^ 2 + z₀ ^ 2 + 2 * (ρ₁ - 52) + 1 := by linarith
      _ ≤ 174.4865 ^ 2 + 2 * 174.4865 + 1 := by linarith
      _ ≤ 183.67 ^ 2 := by norm_num
  · rw [max_eq_left hshrink] at hpath
    have hhome := hstance.high
    have hrsq : (r - 52) ^ 2 ≤ (127.72 - 52) ^ 2 := pow_le_pow_left₀ (by linarith) (by linarith) 2
    have hzmax : z₀ ^ 2 ≤ 158 ^ 2 := sq_le_sq' hground (by linarith)
    linarith

theorem near_of_sample (hstance : Stance home u) (hshort : Short ψ v) (hs : 0 ≤ s) (hpos : 0 < σ) (hle : s ≤ σ)
    (hσ : σ ≤ 1) (hlow : 0 ≤ t) (hhigh : t ≤ 1) (hmargin : InMargin ‖u + σ • halfStroke home ψ v 1‖ z₁)
    (hz₁ : z₁ ≤ -15) (hz : z ≤ -15) (hlift : z ≤ z₁ + 25 * (1 - t)) :
    50.65 ^ 2 ≤ (‖u + s • halfStroke home ψ v t‖ - 52) ^ 2 + z ^ 2 := by
  obtain ⟨t', hlow', hle', hnear⟩ := exists_near hstance hshort hs hpos hle hσ hlow hhigh
  have hfront {t : ℝ} (ht : 0 ≤ t) := front_le (t := t) hstance hshort hpos.le hσ ht
  have hend := hfront zero_le_one
  rw [one_smul] at hend
  have htoward : Toward (-z₁) ‖u + t' • σ • halfStroke home ψ v 1‖ ‖u + σ • halfStroke home ψ v 1‖ t' := by
    refine ⟨hlow', hle'.trans hhigh, hfront hlow', ?_, by linarith, ?_⟩
    · have hpart : 0 ≤ t' * (1 - t') := mul_nonneg hlow' (by linarith)
      have hhome : 16052 ≤ ‖u‖ ^ 2 := by
        have hsq := pow_le_pow_left₀ (by norm_num) hstance.low 2
        linarith
      have hlength : ‖σ • halfStroke home ψ v 1‖ ^ 2 ≤ 9409 := by
        have hsq := pow_le_pow_left₀ (norm_nonneg _) (norm_scaled_le hstance hshort hpos.le hσ) 2
        linarith
      rw [norm_add_smul_sq u (σ • halfStroke home ψ v 1) t']
      have hfirst := mul_le_mul_of_nonneg_left hhome (show 0 ≤ 1 - t' by linarith)
      have hlast := mul_le_mul_of_nonneg_left hlength hpart
      linarith
    · rw [neg_sq]
      exact hmargin.1
  refine near_of_toward htoward (by linarith) ?_ hz (by linarith)
  linarith [(abs_le.mp hnear).1]

/-- What the limiter has checked of half a stroke: the margin accepts the sample at some scale that is not
smaller, unless that is zero. -/
def Sampled (home u v : ℂ) (ψ s z : ℝ) : Prop :=
  ∃ σ, s ≤ σ ∧ σ ≤ 1 ∧ (σ = 0 ∨ InMargin ‖u + σ • halfStroke home ψ v 1‖ z)

theorem inReach_scaled (hstance : Stance home u) (hshort : Short ψ v) (hs : 0 ≤ s) (hlow : 0 ≤ t) (hhigh : t ≤ 1)
    (hsample₀ : Sampled home u v ψ s z₀) (hsample₁ : Sampled home u v ψ s z₁) (hground : -158 ≤ z₀)
    (hz₁ : z₁ ≤ -15) (hz₀ : z₀ ≤ z) (hz : z ≤ -15) (hlift : z ≤ z₁ + 25 * (1 - t)) :
    InReach ‖u + s • halfStroke home ψ v t‖ z := by
  obtain ⟨σ₀, hle₀, hσ₀, hin₀⟩ := hsample₀
  obtain ⟨σ₁, hle₁, hσ₁, hin₁⟩ := hsample₁
  rcases hs.eq_or_lt with rfl | hpos
  · rw [zero_smul, add_zero]
    exact inReach_home hstance (by linarith) (by linarith)
  · have hpos₀ := hpos.trans_le hle₀
    have hpos₁ := hpos.trans_le hle₁
    exact ⟨near_of_sample hstance hshort hs hpos₁ hle₁ hσ₁ hlow hhigh (hin₁.resolve_left hpos₁.ne') hz₁ hz hlift,
      far_of_sample hstance hshort hs hpos₀ hle₀ hσ₀ hlow hhigh (hin₀.resolve_left hpos₀.ne') hground hz₀
        (by linarith)⟩

end Scaled

end HexapodVerified.Gait
