import Mathlib.Algebra.Order.Field.Basic
import Mathlib.Tactic.FieldSimp
import Mathlib.Tactic.Ring
import Mathlib.Tactic.Linarith

/-!
# Bisection

The search for the place where a test stops accepting looks at one point in each round. When what it accepts is
not a single interval it may still be asked where acceptance ends for the first time: it finds that place
exactly when no point that it has to look at is accepted behind it.
-/

namespace Bisection

variable {α : Type*} [Field α] [LinearOrder α] [IsStrictOrderedRing α]

def middle (lower upper : α) : α := (lower + upper) / (2 : ℕ)

/-- `n` rounds between a lower end that is accepted and an upper end that is not. -/
def bisect (accept : α → Bool) : ℕ → α → α → α
  | 0, lower, _ => lower
  | n + 1, lower, upper =>
    if accept (middle lower upper) then bisect accept n (middle lower upper) upper
    else bisect accept n lower (middle lower upper)

variable {accept : α → Bool} {lower upper : α}

omit [LinearOrder α] [IsStrictOrderedRing α] in
theorem middle_eq (lower upper : α) : middle lower upper = (lower + upper) / 2 := by
  unfold middle
  rw [Nat.cast_ofNat]

theorem middle_mem (h : lower ≤ upper) : lower ≤ middle lower upper ∧ middle lower upper ≤ upper := by
  rw [middle_eq]
  constructor <;> linarith

theorem bisect_mem (n : ℕ) (h : lower ≤ upper) :
    lower ≤ bisect accept n lower upper ∧ bisect accept n lower upper ≤ upper := by
  induction n generalizing lower upper with
  | zero => exact ⟨le_rfl, h⟩
  | succ n ih =>
    obtain ⟨hlow, hhigh⟩ := middle_mem h
    unfold bisect
    split
    · obtain ⟨hle, hge⟩ := ih hhigh
      exact ⟨hlow.trans hle, hge⟩
    · obtain ⟨hle, hge⟩ := ih hlow
      exact ⟨hle, hge.trans hhigh⟩

omit [LinearOrder α] [IsStrictOrderedRing α] in
theorem accept_bisect (n : ℕ) (h : accept lower = true) : accept (bisect accept n lower upper) = true := by
  induction n generalizing lower upper with
  | zero => exact h
  | succ n ih =>
    unfold bisect
    split
    case isTrue hmiddle => exact ih hmiddle
    case isFalse => exact ih h

theorem not_accept_bisect (n : ℕ) (h : accept upper = false) :
    accept (bisect accept n lower upper + (upper - lower) / 2 ^ n) = false := by
  induction n generalizing lower upper with
  | zero =>
    have hupper : lower + (upper - lower) / 2 ^ 0 = upper := by ring
    unfold bisect
    rw [hupper, h]
  | succ n ih =>
    unfold bisect
    split
    · have hwidth : (upper - lower) / 2 ^ (n + 1) = (upper - middle lower upper) / 2 ^ n := by
        rw [middle_eq]
        ring
      rw [hwidth]
      exact ih h
    case isFalse hmiddle =>
      have hwidth : (upper - lower) / 2 ^ (n + 1) = (middle lower upper - lower) / 2 ^ n := by
        rw [middle_eq]
        ring
      rw [hwidth]
      exact ih (Bool.eq_false_of_not_eq_true hmiddle)

/-! ## Where acceptance ends for the first time -/

/-- The points that cut the interval into `2 ^ j` parts. -/
def cut (lower upper : α) (j k : ℕ) : α := lower + k * ((upper - lower) / (2 ^ j : ℕ))

omit [LinearOrder α] [IsStrictOrderedRing α] in
theorem cut_eq (lower upper : α) (j k : ℕ) : cut lower upper j k = lower + k * ((upper - lower) / 2 ^ j) := by
  unfold cut
  rw [Nat.cast_pow, Nat.cast_ofNat]

omit [LinearOrder α] [IsStrictOrderedRing α] in
theorem cut_zero (lower upper : α) (j : ℕ) : cut lower upper j 0 = lower := by
  rw [cut_eq]
  rw [Nat.cast_zero, zero_mul, add_zero]

theorem cut_last (lower upper : α) (j : ℕ) : cut lower upper j (2 ^ j) = upper := by
  have hpow : (2 : α) ^ j ≠ 0 := pow_ne_zero _ two_ne_zero
  rw [cut_eq, Nat.cast_pow, Nat.cast_ofNat, mul_div_cancel₀ _ hpow]
  ring

theorem cut_lower (lower upper : α) (j k : ℕ) :
    cut lower upper (j + 1) k = cut lower (middle lower upper) j k := by
  rw [cut_eq, cut_eq, middle_eq]
  ring

theorem cut_upper (lower upper : α) (j k : ℕ) :
    cut lower upper (j + 1) (2 ^ j + k) = cut (middle lower upper) upper j k := by
  rw [cut_eq, cut_eq, middle_eq]
  push_cast
  field_simp
  ring

theorem cut_mem (h : lower ≤ upper) {j k : ℕ} (hk : k ≤ 2 ^ j) :
    lower ≤ cut lower upper j k ∧ cut lower upper j k ≤ upper := by
  have hwidth : 0 ≤ (upper - lower) / 2 ^ j := div_nonneg (sub_nonneg.mpr h) (pow_nonneg zero_le_two _)
  have hcast : (k : α) ≤ (2 ^ j : ℕ) := Nat.cast_le.mpr hk
  have hlast := cut_last lower upper j
  rw [cut_eq] at hlast ⊢
  constructor
  · linarith [mul_nonneg (Nat.cast_nonneg (α := α) k) hwidth]
  · linarith [mul_le_mul_of_nonneg_right hcast hwidth]

/-- `Safe` holds up to some point, and what is accepted may go on behind it: yet in each of `n` rounds, the
middle of the part in which `Safe` ends is accepted only when it is safe. -/
def Honest (accept : α → Bool) (Safe : α → Prop) (n : ℕ) (lower upper : α) : Prop :=
  ∀ j < n, ∀ k < 2 ^ j, Safe (cut lower upper j k) → ¬ Safe (cut lower upper j (k + 1)) →
    accept (cut lower upper (j + 1) (2 * k + 1)) = true → Safe (cut lower upper (j + 1) (2 * k + 1))

variable {Safe : α → Prop} {bottom : α}

theorem cut_middle (lower upper : α) : cut lower upper 1 1 = middle lower upper := by
  rw [cut_eq, middle_eq]
  ring

theorem honest_succ (hdown : ∀ x y, bottom ≤ x → x ≤ y → Safe y → Safe x) (hbottom : bottom ≤ lower)
    (h : lower ≤ upper) (hlower : Safe lower) (hupper : ¬ Safe upper) (n : ℕ) :
    Honest accept Safe (n + 1) lower upper ↔
      (accept (middle lower upper) = true → Safe (middle lower upper)) ∧
        (Safe (middle lower upper) → Honest accept Safe n (middle lower upper) upper) ∧
        (¬ Safe (middle lower upper) → Honest accept Safe n lower (middle lower upper)) := by
  obtain ⟨hlow, hhigh⟩ := middle_mem h
  constructor
  · intro hhonest
    refine ⟨fun haccept => ?_, fun hmiddle j hj k hk => ?_, fun hmiddle j hj k hk => ?_⟩
    · have hfirst := hhonest 0 (Nat.succ_pos n) 0 Nat.one_pos
      rw [cut_zero, zero_add] at hfirst
      have hlast : cut lower upper 0 1 = upper := cut_last lower upper 0
      rw [hlast, Nat.mul_zero, Nat.zero_add, cut_middle] at hfirst
      exact hfirst hlower hupper haccept
    · have hround := hhonest (j + 1) (Nat.succ_lt_succ hj) (2 ^ j + k) (by rw [pow_succ]; omega)
      have hindex : 2 * (2 ^ j + k) + 1 = 2 ^ (j + 1) + (2 * k + 1) := by ring
      rw [cut_upper, add_assoc, cut_upper, hindex, cut_upper] at hround
      exact hround
    · have hround := hhonest (j + 1) (Nat.succ_lt_succ hj) k (by rw [pow_succ]; omega)
      rw [cut_lower, cut_lower, cut_lower] at hround
      exact hround
  · rintro ⟨hfirst, hright, hleft⟩ j hj k hk hsafe hnot haccept
    cases j with
    | zero =>
      obtain rfl : k = 0 := by simpa using hk
      rw [Nat.mul_zero, Nat.zero_add, cut_middle] at haccept ⊢
      exact hfirst haccept
    | succ j =>
      have hj' : j < n := Nat.lt_of_succ_lt_succ hj
      rcases Nat.lt_or_ge k (2 ^ j) with hk' | hk'
      · rw [cut_lower] at hsafe hnot haccept ⊢
        -- a part of the lower half, which is not all safe
        have hmiddle : ¬ Safe (middle lower upper) := by
          intro hmiddle
          obtain ⟨hge, hle⟩ := cut_mem hlow hk'
          exact hnot (hdown _ _ (hbottom.trans hge) hle hmiddle)
        exact hleft hmiddle j hj' k hk' hsafe hnot haccept
      · obtain ⟨m, rfl⟩ := Nat.exists_eq_add_of_le hk'
        have hm : m < 2 ^ j := by rw [pow_succ] at hk; omega
        have hindex : 2 * (2 ^ j + m) + 1 = 2 ^ (j + 1) + (2 * m + 1) := by ring
        rw [hindex, cut_upper] at haccept ⊢
        rw [cut_upper] at hsafe
        rw [add_assoc, cut_upper] at hnot
        have hmiddle : Safe (middle lower upper) :=
          hdown _ _ (hbottom.trans hlow) (cut_mem hhigh hm.le).1 hsafe
        exact hright hmiddle j hj' m hm hsafe hnot haccept

theorem safe_bisect_iff (hdown : ∀ x y, bottom ≤ x → x ≤ y → Safe y → Safe x)
    (hsafe : ∀ x, bottom ≤ x → Safe x → accept x = true) (n : ℕ) (hbottom : bottom ≤ lower)
    (h : lower ≤ upper) (hlower : Safe lower) (hupper : ¬ Safe upper) :
    Safe (bisect accept n lower upper) ↔ Honest accept Safe n lower upper := by
  induction n generalizing lower upper with
  | zero => exact iff_of_true hlower fun j hj => absurd hj (Nat.not_lt_zero j)
  | succ n ih =>
    obtain ⟨hlow, hhigh⟩ := middle_mem h
    rw [honest_succ hdown hbottom h hlower hupper]
    unfold bisect
    split
    case isTrue haccept =>
      by_cases hmiddle : Safe (middle lower upper)
      · rw [ih (hbottom.trans hlow) hhigh hmiddle hupper]
        exact ⟨fun hhonest => ⟨fun _ => hmiddle, fun _ => hhonest, fun hnot => absurd hmiddle hnot⟩,
          fun hhonest => hhonest.2.1 hmiddle⟩
      · -- the search goes on behind the safe part
        refine iff_of_false (fun hreturned => hmiddle ?_) fun hhonest => hmiddle (hhonest.1 haccept)
        exact hdown _ _ (hbottom.trans hlow) (bisect_mem n hhigh).1 hreturned
    case isFalse hrefuse =>
      have hmiddle : ¬ Safe (middle lower upper) := fun hmiddle =>
        hrefuse (hsafe _ (hbottom.trans hlow) hmiddle)
      rw [ih hbottom hlow hlower hmiddle]
      exact ⟨fun hhonest => ⟨fun haccept => absurd haccept hrefuse, fun hsafe => absurd hsafe hmiddle,
        fun _ => hhonest⟩, fun hhonest => hhonest.2.2 hmiddle⟩

end Bisection
