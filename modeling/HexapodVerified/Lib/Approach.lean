import Mathlib.Algebra.Order.Group.Abs
import Mathlib.Order.Interval.Set.UnorderedInterval
import Mathlib.Tactic.Abel

/-!
# Approaching a target

A value goes towards a target by a limit at most, and stops there. It stays between the two, it moves by the
limit at most, and every such step takes the limit off the distance as long as there is any left.
-/

namespace Approach

variable {α : Type*} [AddCommGroup α] [LinearOrder α] [IsOrderedAddMonoid α]

/-- From `x` towards `target`, by `limit` at most. -/
def approach (x target limit : α) : α := max (x - limit) (min (x + limit) target)

variable {x target limit : α}

theorem approach_of_abs_le (h : |target - x| ≤ limit) : approach x target limit = target := by
  rcases abs_sub_le_iff.mp h with ⟨hup, hdown⟩
  have hle : target ≤ x + limit := sub_le_iff_le_add'.mp hup
  have hge : x - limit ≤ target := sub_le_comm.mp hdown
  unfold approach
  rw [min_eq_right hle, max_eq_right hge]

theorem approach_of_lt (hlimit : 0 ≤ limit) (h : x + limit < target) :
    approach x target limit = x + limit := by
  have hle : x - limit ≤ x + limit := by
    rw [sub_le_iff_le_add, add_assoc]
    exact le_add_of_nonneg_right (add_nonneg hlimit hlimit)
  unfold approach
  rw [min_eq_left h.le, max_eq_right hle]

omit [IsOrderedAddMonoid α] in
theorem approach_of_gt (h : target < x - limit) : approach x target limit = x - limit := by
  exact max_eq_left ((min_le_right _ _).trans h.le)

theorem approach_cases (x target : α) (hlimit : 0 ≤ limit) :
    (x + limit < target ∧ approach x target limit = x + limit) ∨
    (target < x - limit ∧ approach x target limit = x - limit) ∨
    (|target - x| ≤ limit ∧ approach x target limit = target) := by
  by_cases hup : x + limit < target
  · exact .inl ⟨hup, approach_of_lt hlimit hup⟩
  · by_cases hdown : target < x - limit
    · exact .inr (.inl ⟨hdown, approach_of_gt hdown⟩)
    · have hnear : |target - x| ≤ limit := by
        rw [abs_sub_le_iff]
        constructor
        · rw [sub_le_iff_le_add']
          exact not_lt.mp hup
        · rw [sub_le_comm]
          exact not_lt.mp hdown
      exact .inr (.inr ⟨hnear, approach_of_abs_le hnear⟩)

theorem approach_mem_uIcc (x target : α) (hlimit : 0 ≤ limit) :
    approach x target limit ∈ Set.uIcc x target := by
  rcases approach_cases x target hlimit with ⟨hup, heq⟩ | ⟨hdown, heq⟩ | ⟨-, heq⟩
  · rw [heq]
    exact Set.mem_uIcc.mpr (.inl ⟨le_add_of_nonneg_right hlimit, hup.le⟩)
  · rw [heq]
    exact Set.mem_uIcc.mpr (.inr ⟨hdown.le, sub_le_self _ hlimit⟩)
  · rw [heq]
    exact Set.right_mem_uIcc

/-- Towards a target that is farther from zero on its own side, a value goes away from zero. -/
theorem abs_le_abs_approach (hlimit : 0 ≤ limit)
    (haway : 0 ≤ x ∧ x ≤ target ∨ target ≤ x ∧ x ≤ 0) : |x| ≤ |approach x target limit| := by
  have hbetween := approach_mem_uIcc x target hlimit
  rcases haway with ⟨hpos, hup⟩ | ⟨hdown, hneg⟩
  · rw [Set.uIcc_of_le hup] at hbetween
    exact abs_le_abs_of_nonneg hpos hbetween.1
  · rw [Set.uIcc_of_ge hdown] at hbetween
    exact abs_le_abs_of_nonpos hneg hbetween.2

theorem abs_approach_le_abs (hlimit : 0 ≤ limit) (hnear : |target| ≤ |x|) :
    |approach x target limit| ≤ |x| := by
  rcases Set.mem_uIcc.mp (approach_mem_uIcc x target hlimit) with ⟨hlow, hhigh⟩ | ⟨hlow, hhigh⟩
  · exact (abs_le_max_abs_abs hlow hhigh).trans (max_le le_rfl hnear)
  · exact (abs_le_max_abs_abs hlow hhigh).trans (max_le hnear le_rfl)

theorem abs_approach_sub_le (x target : α) (hlimit : 0 ≤ limit) :
    |approach x target limit - x| ≤ limit := by
  rcases approach_cases x target hlimit with ⟨-, heq⟩ | ⟨-, heq⟩ | ⟨hnear, heq⟩
  · rw [heq, add_sub_cancel_left, abs_of_nonneg hlimit]
  · rw [heq, sub_sub_cancel_left, abs_neg, abs_of_nonneg hlimit]
  · rwa [heq]

/-- A step takes the limit off the distance, unless it reaches the target. -/
theorem abs_sub_approach (hlimit : 0 ≤ limit) (hfar : limit ≤ |target - x|) :
    |target - approach x target limit| = |target - x| - limit := by
  rcases approach_cases x target hlimit with ⟨hup, heq⟩ | ⟨hdown, heq⟩ | ⟨hnear, heq⟩
  · have hpos : 0 ≤ target - x := sub_nonneg.mpr ((le_add_of_nonneg_right hlimit).trans hup.le)
    have hleft : 0 ≤ target - (x + limit) := sub_nonneg.mpr hup.le
    rw [heq, abs_of_nonneg hleft, abs_of_nonneg hpos, sub_sub]
  · have hneg : target - x ≤ 0 := sub_nonpos.mpr (hdown.le.trans (sub_le_self _ hlimit))
    have hleft : target - (x - limit) ≤ 0 := sub_nonpos.mpr hdown.le
    rw [heq, abs_of_nonpos hleft, abs_of_nonpos hneg]
    abel
  · rw [heq, sub_self, abs_zero, le_antisymm hnear hfar, sub_self]

theorem approach_neg (hlimit : 0 ≤ limit) :
    approach (-x) (-target) limit = -approach x target limit := by
  rcases approach_cases x target hlimit with ⟨hup, heq⟩ | ⟨hdown, heq⟩ | ⟨hnear, heq⟩
  · have hdown' := neg_lt_neg hup
    rw [neg_add'] at hdown'
    rw [heq, approach_of_gt hdown', neg_add']
  · have hup' := neg_lt_neg hdown
    rw [neg_sub, sub_eq_neg_add] at hup'
    rw [heq, approach_of_lt hlimit hup', neg_sub, sub_eq_neg_add]
  · have hnear' : |-target - -x| ≤ limit := by rwa [neg_sub_neg, abs_sub_comm]
    rw [heq, approach_of_abs_le hnear']

end Approach
