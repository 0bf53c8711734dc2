import Mathlib.Topology.Algebra.Order.Floor
import Mathlib.Topology.Algebra.Order.Field
import Mathlib.Topology.Order.LeftRight

/-!
# Keyframes

A track goes through its keys at the integer times and along straight lines between them. It is continuous, and
repeats when its keys do. Where all steps between keys are the same it moves at constant velocity, and a track
whose keys are not negative rests at zero only between keys that are zero.
-/

namespace Keyframes

variable {α : Type*} [Field α] [LinearOrder α] [IsStrictOrderedRing α] [FloorRing α]

def track (key : ℤ → α) (t : α) : α := key ⌊t⌋ + (key (⌊t⌋ + 1) - key ⌊t⌋) * Int.fract t

variable {key : ℤ → α} {s t : α} {n : ℤ}

/-- Between two keys, both included, the track is the line between them. -/
theorem track_of_mem (key : ℤ → α) (hlow : (n : α) ≤ t) (hhigh : t ≤ n + 1) :
    track key t = key n + (key (n + 1) - key n) * (t - n) := by
  unfold track
  rcases hhigh.lt_or_eq with hlt | rfl
  · rw [Int.floor_eq_iff.mpr ⟨hlow, hlt⟩, Int.fract, Int.floor_eq_iff.mpr ⟨hlow, hlt⟩]
  · have hfloor : ⌊(n : α) + 1⌋ = n + 1 := by
      rw [← Int.cast_one, ← Int.cast_add, Int.floor_intCast]
    rw [Int.fract, hfloor]
    push_cast
    ring

theorem track_intCast (key : ℤ → α) (n : ℤ) : track key n = key n := by
  unfold track
  rw [Int.floor_intCast, Int.fract_intCast, mul_zero, add_zero]

theorem track_sub_period {period : ℤ} (hkey : ∀ n, key (n - period) = key n) (t : α) :
    track key (t - period) = track key t := by
  unfold track
  rw [Int.floor_sub_intCast, Int.fract_sub_intCast, hkey, sub_add_eq_add_sub, hkey]

theorem track_sub_mul_period {period : ℤ} (hkey : ∀ n, key (n - period) = key n) (t : α) (k : ℤ) :
    track key (t - (k * period : ℤ)) = track key t := by
  refine track_sub_period (fun n => ?_) t
  induction k with
  | zero => rw [zero_mul, sub_zero]
  | succ k ih => rw [add_mul, one_mul, ← sub_sub, hkey, ih]
  | pred k ih => rw [sub_mul, one_mul, ← sub_add, ← hkey, add_sub_cancel_right, ih]

/-! ## Continuity -/

section Continuity

variable [TopologicalSpace α] [OrderTopology α]

theorem continuousOn_track (key : ℤ → α) (n : ℤ) : ContinuousOn (track key) (Set.Icc (n : α) (n + 1)) := by
  have hline : Continuous fun t : α => key n + (key (n + 1) - key n) * (t - n) := by fun_prop
  exact hline.continuousOn.congr fun t ht => track_of_mem key ht.1 ht.2

theorem continuous_track (key : ℤ → α) : Continuous (track key) := by
  rw [continuous_iff_continuousAt]
  intro t
  rw [continuousAt_iff_continuous_left_right]
  constructor
  · -- the last key before
    have hceil : ((⌈t⌉ - 1 : ℤ) : α) < t ∧ t ≤ (⌈t⌉ - 1 : ℤ) + 1 := by
      push_cast
      exact ⟨sub_lt_iff_lt_add.mpr (Int.ceil_lt_add_one t), by rw [sub_add_cancel]; exact Int.le_ceil t⟩
    have hmem := (continuousOn_track key (⌈t⌉ - 1)).continuousWithinAt ⟨hceil.1.le, hceil.2⟩
    refine hmem.mono_of_mem_nhdsWithin ?_
    filter_upwards [self_mem_nhdsWithin, mem_nhdsWithin_of_mem_nhds (Ioi_mem_nhds hceil.1)] with u hle hlt
    exact ⟨hlt.le, le_trans hle hceil.2⟩
  · have hmem := (continuousOn_track key ⌊t⌋).continuousWithinAt
      ⟨Int.floor_le t, (Int.lt_floor_add_one t).le⟩
    refine hmem.mono_of_mem_nhdsWithin ?_
    filter_upwards [self_mem_nhdsWithin,
      mem_nhdsWithin_of_mem_nhds (Iio_mem_nhds (Int.lt_floor_add_one t))] with u hge hlt
    exact ⟨le_trans (Int.floor_le t) hge, hlt.le⟩

end Continuity

/-! ## Rest and constant velocity -/

/-- Strictly between two keys that are not negative, the track is at zero only if both are. -/
theorem keys_of_track_eq_zero (hkey : ∀ n, 0 ≤ key n) (hlow : (n : α) < t) (hhigh : t < n + 1)
    (htrack : track key t = 0) : key n = 0 ∧ key (n + 1) = 0 := by
  rw [track_of_mem key hlow.le hhigh.le] at htrack
  have hbefore : 0 < n + 1 - t := sub_pos.mpr hhigh
  have hafter : 0 < t - n := sub_pos.mpr hlow
  have hsum : key n * (n + 1 - t) + key (n + 1) * (t - n) = 0 := by
    rw [← htrack]
    ring
  obtain ⟨hfirst, hlast⟩ := (add_eq_zero_iff_of_nonneg (mul_nonneg (hkey n) hbefore.le)
    (mul_nonneg (hkey _) hafter.le)).mp hsum
  exact ⟨(mul_eq_zero.mp hfirst).resolve_right hbefore.ne', (mul_eq_zero.mp hlast).resolve_right hafter.ne'⟩

omit [IsStrictOrderedRing α] in
theorem key_ne_zero_of_track_pos (htrack : 0 < track key t) : key ⌊t⌋ ≠ 0 ∨ key (⌊t⌋ + 1) ≠ 0 := by
  by_contra hzero
  rw [not_or, not_not, not_not] at hzero
  unfold track at htrack
  rw [hzero.1, hzero.2, sub_zero, zero_mul, add_zero] at htrack
  exact lt_irrefl 0 htrack

theorem track_sub_track {c : α} (hst : s ≤ t)
    (hstep : ∀ n : ℤ, ⌊s⌋ ≤ n → n < ⌈t⌉ → key (n + 1) - key n = c) :
    track key t - track key s = c * (t - s) := by
  have hkey : ∀ n, ⌊s⌋ ≤ n → n ≤ ⌈t⌉ → key n = key ⌊s⌋ + c * (n - ⌊s⌋) := by
    intro n hle
    induction n, hle using Int.leInduction with
    | base => simp
    | succ n hle ih =>
      intro hn
      have hnext := hstep n hle (Int.add_one_le_iff.mp hn)
      rw [sub_eq_iff_eq_add] at hnext
      rw [hnext, ih (by omega)]
      push_cast
      ring
  have hline : ∀ u, s ≤ u → u ≤ t → track key u = key ⌊s⌋ + c * (u - ⌊s⌋) := by
    intro u hsu hut
    have hfloor : ⌊s⌋ ≤ ⌊u⌋ := Int.floor_mono hsu
    by_cases hint : ⌊u⌋ < ⌈t⌉
    · have hstep := hstep ⌊u⌋ hfloor hint
      unfold track
      rw [hstep, hkey ⌊u⌋ hfloor hint.le, Int.fract]
      ring
    · -- the end is a key
      have hu : u = ⌊u⌋ := by
        have hge : (⌈t⌉ : α) ≤ ⌊u⌋ := Int.cast_le.mpr (not_lt.mp hint)
        exact le_antisymm (hut.trans ((Int.le_ceil t).trans hge)) (Int.floor_le u)
      have hle : ⌊u⌋ ≤ ⌈t⌉ := by
        rw [← Int.cast_le (R := α), ← hu]
        exact hut.trans (Int.le_ceil t)
      rw [hu, track_intCast]
      exact hkey ⌊u⌋ hfloor hle
  rw [hline t hst le_rfl, hline s le_rfl hst]
  ring

end Keyframes
