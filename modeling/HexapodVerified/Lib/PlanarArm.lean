import Mathlib.Analysis.InnerProductSpace.Basic
import Mathlib.Analysis.SpecialFunctions.Complex.Arg
import Mathlib.Analysis.SpecialFunctions.Trigonometric.Angle
import Mathlib.Analysis.SpecialFunctions.Trigonometric.Basic
import Mathlib.Analysis.SpecialFunctions.Trigonometric.Bounds
import Mathlib.Analysis.SpecialFunctions.Trigonometric.Inverse
import Mathlib.LinearAlgebra.UnitaryGroup

/-!
# Rotations, arms and paths

The geometry of a body that turns in space and of an arm that moves in a plane.
-/

/-!
### Rotations about the axes

The rotations of space about its three axes, and the attitude that roll, pitch and yaw give together. All
are orthogonal, so the transpose turns back.
-/

namespace Rotation

open Matrix

noncomputable def rotX (θ : ℝ) : Matrix (Fin 3) (Fin 3) ℝ :=
  !![1, 0, 0; 0, Real.cos θ, -Real.sin θ; 0, Real.sin θ, Real.cos θ]

noncomputable def rotY (θ : ℝ) : Matrix (Fin 3) (Fin 3) ℝ :=
  !![Real.cos θ, 0, Real.sin θ; 0, 1, 0; -Real.sin θ, 0, Real.cos θ]

noncomputable def rotZ (θ : ℝ) : Matrix (Fin 3) (Fin 3) ℝ :=
  !![Real.cos θ, -Real.sin θ, 0; Real.sin θ, Real.cos θ, 0; 0, 0, 1]

/-- The attitude of a body that was rolled, then pitched, then yawed. -/
noncomputable def attitude (roll pitch yaw : ℝ) : Matrix (Fin 3) (Fin 3) ℝ :=
  rotZ yaw * rotY pitch * rotX roll

theorem rotX_mem (θ : ℝ) : rotX θ ∈ orthogonalGroup (Fin 3) ℝ := by
  rw [mem_orthogonalGroup_iff]
  have h := Real.sin_sq_add_cos_sq θ
  ext i j
  fin_cases i <;> fin_cases j <;> simp [rotX, Matrix.mul_apply, Fin.sum_univ_three] <;>
    nlinarith [h]

theorem rotY_mem (θ : ℝ) : rotY θ ∈ orthogonalGroup (Fin 3) ℝ := by
  rw [mem_orthogonalGroup_iff]
  have h := Real.sin_sq_add_cos_sq θ
  ext i j
  fin_cases i <;> fin_cases j <;> simp [rotY, Matrix.mul_apply, Fin.sum_univ_three] <;>
    nlinarith [h]

theorem rotZ_mem (θ : ℝ) : rotZ θ ∈ orthogonalGroup (Fin 3) ℝ := by
  rw [mem_orthogonalGroup_iff]
  have h := Real.sin_sq_add_cos_sq θ
  ext i j
  fin_cases i <;> fin_cases j <;> simp [rotZ, Matrix.mul_apply, Fin.sum_univ_three] <;>
    nlinarith [h]

theorem attitude_mem (roll pitch yaw : ℝ) : attitude roll pitch yaw ∈ orthogonalGroup (Fin 3) ℝ :=
  mul_mem (mul_mem (rotZ_mem yaw) (rotY_mem pitch)) (rotX_mem roll)

theorem mulVec_transpose_mulVec {R : Matrix (Fin 3) (Fin 3) ℝ} (hR : R ∈ orthogonalGroup (Fin 3) ℝ)
    (v : Fin 3 → ℝ) : R *ᵥ (Rᵀ *ᵥ v) = v := by
  have h : R * Rᵀ = 1 := (mem_orthogonalGroup_iff (Fin 3) ℝ).mp hR
  rw [mulVec_mulVec, h, one_mulVec]

end Rotation

/-!
### The planar arm with two links

The plane of the arm is the complex plane, its root is the origin. The first link has length `l₂` and
points at the angle `α`; the second one has length `l₃` and turns by `β` at the knee. `forearm` is the arm
before it is turned by `α`, so that `hand` is a rotation of it: its length decides the knee, by the law of
cosines, and its argument is what the first angle has to make up for.
-/

namespace PlanarArm

open Complex

variable {l₂ l₃ α β c : ℝ} {w : ℂ}

/-- Where the arm ends when the first link lies on the real axis. -/
noncomputable def forearm (l₂ l₃ β : ℝ) : ℂ := l₂ + l₃ * exp (β * I)

noncomputable def hand (l₂ l₃ α β : ℝ) : ℂ := exp (α * I) * forearm l₂ l₃ β

theorem forearm_eq (l₂ l₃ β : ℝ) :
    forearm l₂ l₃ β = ⟨l₂ + l₃ * Real.cos β, l₃ * Real.sin β⟩ := by
  apply Complex.ext <;> simp [forearm, exp_ofReal_mul_I_re, exp_ofReal_mul_I_im]

theorem hand_eq (l₂ l₃ α β : ℝ) :
    hand l₂ l₃ α β = ⟨l₂ * Real.cos α + l₃ * Real.cos (α + β),
      l₂ * Real.sin α + l₃ * Real.sin (α + β)⟩ := by
  have hsplit : hand l₂ l₃ α β = l₂ * exp (α * I) + l₃ * exp ((α + β : ℝ) * I) := by
    rw [hand, forearm, ofReal_add, add_mul, exp_add]
    ring
  rw [hsplit]
  apply Complex.ext <;> simp only [add_re, add_im, re_ofReal_mul, im_ofReal_mul, exp_ofReal_mul_I_re,
    exp_ofReal_mul_I_im]

theorem norm_hand (l₂ l₃ α β : ℝ) : ‖hand l₂ l₃ α β‖ = ‖forearm l₂ l₃ β‖ := by
  rw [hand, norm_mul, norm_exp_ofReal_mul_I, one_mul]

theorem norm_forearm_sq (l₂ l₃ β : ℝ) :
    ‖forearm l₂ l₃ β‖ ^ 2 = l₂ ^ 2 + l₃ ^ 2 + 2 * l₂ * l₃ * Real.cos β := by
  rw [← normSq_eq_norm_sq, forearm_eq, normSq_mk]
  have htrig := Real.sin_sq_add_cos_sq β
  linear_combination l₃ ^ 2 * htrig

theorem knee_cos_bounds (h₂ : 0 < l₂) (h₃ : 0 < l₃) {d : ℝ} (hmin : |l₂ - l₃| ≤ d) (hmax : d ≤ l₂ + l₃)
    (hc : 2 * l₂ * l₃ * c = d ^ 2 - l₂ ^ 2 - l₃ ^ 2) : -1 ≤ c ∧ c ≤ 1 := by
  have hpos : 0 < 2 * l₂ * l₃ := by positivity
  have hd : 0 ≤ d := le_trans (abs_nonneg _) hmin
  have hlow : (l₂ - l₃) ^ 2 ≤ d ^ 2 := sq_le_sq' (by linarith [neg_abs_le (l₂ - l₃)])
    (le_trans (le_abs_self _) hmin)
  have hhigh : d ^ 2 ≤ (l₂ + l₃) ^ 2 := pow_le_pow_left₀ hd hmax 2
  constructor
  · refine le_of_mul_le_mul_left ?_ hpos
    rw [hc]
    linarith
  · refine le_of_mul_le_mul_left ?_ hpos
    rw [hc]
    linarith

theorem hand_of_norm_eq (h : ‖forearm l₂ l₃ β‖ = ‖w‖) :
    hand l₂ l₃ (arg w - arg (forearm l₂ l₃ β)) β = w := by
  have hpolar : forearm l₂ l₃ β = ‖w‖ * exp (arg (forearm l₂ l₃ β) * I) := by
    rw [← h]
    exact (norm_mul_exp_arg_mul_I _).symm
  have hcancel : exp (-(arg (forearm l₂ l₃ β)) * I) * forearm l₂ l₃ β = ‖w‖ := by
    refine (congrArg (exp (-(arg (forearm l₂ l₃ β)) * I) * ·) hpolar).trans ?_
    show exp _ * (‖w‖ * exp _) = _
    rw [mul_left_comm, ← exp_add, neg_mul, neg_add_cancel, exp_zero, mul_one]
  rw [hand, ofReal_sub, sub_mul, sub_eq_add_neg, exp_add, ← neg_mul, mul_assoc, hcancel, mul_comm,
    norm_mul_exp_arg_mul_I]

theorem reaches (h₂ : 0 < l₂) (h₃ : 0 < l₃) (hmin : |l₂ - l₃| ≤ ‖w‖) (hmax : ‖w‖ ≤ l₂ + l₃)
    (hc : 2 * l₂ * l₃ * c = ‖w‖ ^ 2 - l₂ ^ 2 - l₃ ^ 2) (hβ : β = -Real.arccos c) :
    hand l₂ l₃ (arg w - arg (forearm l₂ l₃ β)) β = w := by
  obtain ⟨hge, hle⟩ := knee_cos_bounds h₂ h₃ hmin hmax hc
  have hcos : Real.cos β = c := by
    rw [hβ, Real.cos_neg, Real.cos_arccos hge hle]
  apply hand_of_norm_eq
  have hsq : ‖forearm l₂ l₃ β‖ ^ 2 = ‖w‖ ^ 2 := by
    rw [norm_forearm_sq, hcos]
    linarith
  exact (sq_eq_sq₀ (norm_nonneg _) (norm_nonneg _)).mp hsq

theorem knee_cos (α : ℝ) (h₂ : 0 < l₂) (h₃ : 0 < l₃)
    (hc : 2 * l₂ * l₃ * c = ‖hand l₂ l₃ α β‖ ^ 2 - l₂ ^ 2 - l₃ ^ 2) : c = Real.cos β := by
  rw [norm_hand, norm_forearm_sq] at hc
  have hpos : 2 * l₂ * l₃ ≠ 0 := by positivity
  apply mul_left_cancel₀ hpos
  linarith

theorem arg_hand_sub (h : hand l₂ l₃ α β ≠ 0) :
    ∃ k : ℤ, arg (hand l₂ l₃ α β) - arg (forearm l₂ l₃ β) = α + 2 * Real.pi * k := by
  have hforearm : forearm l₂ l₃ β ≠ 0 := right_ne_zero_of_mul h
  have hunit : (arg (exp (α * I)) : Real.Angle) = α := by
    have hcoe := arg_cos_add_sin_mul_I_coe_angle (α : Real.Angle)
    rwa [Real.Angle.cos_coe, Real.Angle.sin_coe, ofReal_cos, ofReal_sin, ← exp_mul_I] at hcoe
  have hangle : (arg (hand l₂ l₃ α β) : Real.Angle) = α + arg (forearm l₂ l₃ β) := by
    rw [hand, arg_mul_coe_angle (exp_ne_zero _) hforearm, hunit]
  rw [← Real.Angle.coe_add, Real.Angle.angle_eq_iff_two_pi_dvd_sub] at hangle
  obtain ⟨k, hk⟩ := hangle
  exact ⟨k, by linarith⟩

end PlanarArm

/-!
## Straight paths and arcs

The distance from the origin along a straight path, and how far an arc of a circle is from its chord.
-/

namespace PlanarPath

section Straight

variable {V : Type*} [NormedAddCommGroup V] [InnerProductSpace ℝ V] {u w : V} {t : ℝ}

open RealInnerProductSpace

theorem norm_add_smul_sq (u w : V) (t : ℝ) :
    ‖u + t • w‖ ^ 2 = (1 - t) * ‖u‖ ^ 2 + t * ‖u + w‖ ^ 2 - t * (1 - t) * ‖w‖ ^ 2 := by
  rw [norm_add_sq_real, norm_add_sq_real, inner_smul_right, norm_smul, mul_pow, Real.norm_eq_abs, sq_abs]
  ring

theorem norm_add_smul_le (hlow : 0 ≤ t) (hhigh : t ≤ 1) : ‖u + t • w‖ ≤ max ‖u‖ ‖u + w‖ := by
  have hsplit : u + t • w = (1 - t) • u + t • (u + w) := by
    rw [sub_smul, one_smul, smul_add]
    abel
  have hrest : 0 ≤ 1 - t := sub_nonneg.mpr hhigh
  calc ‖u + t • w‖ ≤ ‖(1 - t) • u‖ + ‖t • (u + w)‖ := by
        rw [hsplit]
        exact norm_add_le _ _
    _ = (1 - t) * ‖u‖ + t * ‖u + w‖ := by
        rw [norm_smul_of_nonneg hrest, norm_smul_of_nonneg hlow]
    _ ≤ (1 - t) * max ‖u‖ ‖u + w‖ + t * max ‖u‖ ‖u + w‖ :=
        add_le_add (mul_le_mul_of_nonneg_left (le_max_left _ _) hrest)
          (mul_le_mul_of_nonneg_left (le_max_right _ _) hlow)
    _ = max ‖u‖ ‖u + w‖ := by ring

/-- A path that goes in by at most `k` over its length is no nearer than that. -/
theorem le_norm_add_smul {k : ℝ} (hinward : -k ≤ ⟪u, w⟫) (ht : 0 ≤ t) :
    ‖u‖ ^ 2 - k * t ≤ ‖u‖ * ‖u + t • w‖ := by
  calc ‖u‖ ^ 2 - k * t = ‖u‖ ^ 2 + t * -k := by ring
    _ ≤ ‖u‖ ^ 2 + t * ⟪u, w⟫ := by linarith [mul_le_mul_of_nonneg_left hinward ht]
    _ = ⟪u, u + t • w⟫ := by rw [inner_add_right, inner_smul_right, real_inner_self_eq_norm_sq]
    _ ≤ ‖u‖ * ‖u + t • w‖ := real_inner_le_norm u _

end Straight

open Complex Finset

noncomputable def arc (ψ : ℝ) : ℂ := exp (I * ψ) - 1

theorem arc_re (ψ : ℝ) : (arc ψ).re = Real.cos ψ - 1 := by
  unfold arc
  rw [mul_comm, sub_re, exp_ofReal_mul_I_re, one_re]

theorem arc_im (ψ : ℝ) : (arc ψ).im = Real.sin ψ := by
  unfold arc
  rw [mul_comm, sub_im, exp_ofReal_mul_I_im, one_im, sub_zero]

theorem norm_arc_le (ψ : ℝ) : ‖arc ψ‖ ≤ |ψ| := Real.norm_exp_I_mul_ofReal_sub_one_le

theorem norm_arc_sub_le {ψ : ℝ} (hψ : |ψ| ≤ 1) : 9 * ‖arc ψ - (I * ψ - ψ ^ 2 / 2)‖ ≤ 2 * |ψ| ^ 3 := by
  have hnorm : ‖I * ψ‖ = |ψ| := by
    rw [norm_mul, norm_I, one_mul, norm_real, Real.norm_eq_abs]
  have hbound := exp_bound (x := I * ψ) (hnorm ▸ hψ) (show 0 < 3 by decide)
  have hsum : ∑ m ∈ range 3, (I * ψ) ^ m / m.factorial = 1 + (I * ψ - ψ ^ 2 / 2) := by
    have hsq : (I * ψ) ^ 2 = -(ψ : ℂ) ^ 2 := by
      rw [mul_pow, I_sq, neg_one_mul]
    rw [sum_range_succ, sum_range_succ, sum_range_one, hsq, pow_zero, pow_one]
    ring
  rw [hsum, hnorm] at hbound
  calc 9 * ‖arc ψ - (I * ψ - ψ ^ 2 / 2)‖ = 9 * ‖exp (I * ψ) - (1 + (I * ψ - ψ ^ 2 / 2))‖ := by
        unfold arc
        rw [sub_sub]
    _ ≤ 9 * (|ψ| ^ 3 * ((Nat.succ 3 : ℝ) * (Nat.factorial 3 * (3 : ℕ) : ℝ)⁻¹)) :=
        mul_le_mul_of_nonneg_left hbound (by norm_num)
    _ = 2 * |ψ| ^ 3 := by
        ring

theorem norm_arc_sub_chord_le {ψ t : ℝ} (hψ : |ψ| ≤ 1) (hlow : 0 ≤ t) (hhigh : t ≤ 1) :
    18 * ‖arc (t * ψ) - t * arc ψ‖ ≤ 9 * (t * (1 - t) * ψ ^ 2) + 4 * ((t ^ 3 + t) * |ψ| ^ 3) := by
  have habs : |t * ψ| = t * |ψ| := by rw [abs_mul, abs_of_nonneg hlow]
  have hpart : |t * ψ| ≤ 1 := by
    rw [habs]
    exact mul_le_one₀ hhigh (abs_nonneg ψ) hψ
  have hfirst := norm_arc_sub_le hpart
  have hsecond := norm_arc_sub_le hψ
  rw [habs] at hfirst
  have hsplit : arc (t * ψ) - t * arc ψ = ((t * (1 - t) * ψ ^ 2 / 2 : ℝ) : ℂ) +
      (arc (t * ψ) - (I * (t * ψ : ℝ) - (t * ψ : ℝ) ^ 2 / 2)) - t * (arc ψ - (I * ψ - ψ ^ 2 / 2)) := by
    push_cast
    ring
  have hmiddle : ‖((t * (1 - t) * ψ ^ 2 / 2 : ℝ) : ℂ)‖ = t * (1 - t) * ψ ^ 2 / 2 := by
    rw [norm_real, Real.norm_of_nonneg]
    positivity
  have hlast : ‖(t : ℂ) * (arc ψ - (I * ψ - ψ ^ 2 / 2))‖ = t * ‖arc ψ - (I * ψ - ψ ^ 2 / 2)‖ := by
    rw [norm_mul, norm_real, Real.norm_of_nonneg hlow]
  have hsum : ‖arc (t * ψ) - t * arc ψ‖ ≤ t * (1 - t) * ψ ^ 2 / 2 +
      ‖arc (t * ψ) - (I * (t * ψ : ℝ) - (t * ψ : ℝ) ^ 2 / 2)‖ + t * ‖arc ψ - (I * ψ - ψ ^ 2 / 2)‖ := by
    rw [← hmiddle, ← hlast, hsplit]
    exact (norm_sub_le _ _).trans (add_le_add_left (norm_add_le _ _) _)
  have hscaled := mul_le_mul_of_nonneg_left hsecond hlow
  linarith [mul_pow t |ψ| 3]

end PlanarPath
