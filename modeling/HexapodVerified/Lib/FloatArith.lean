import Mathlib.Analysis.Real.Sqrt
import Mathlib.Analysis.SpecialFunctions.Complex.Arg
import Mathlib.Analysis.SpecialFunctions.Trigonometric.Inverse

/-!
# Floating point

The operations of a floating-point type, and their laws where they are exact.
-/

/-!
## Arithmetic of a program's floating-point type

Embedded control code computes in `float`. `FloatArith F` lists the operations such code makes on
that type: a program is modelled over an arbitrary `F`, so what is proved of it holds for every
rounding and every maths library. The operations come without laws, because rounding breaks nearly
all of them; the one law is about a conversion to an integer. The real numbers are an instance.
-/

/-- The operations of a floating-point type. Comparisons are decided; on a value that is not a
number they may all be false. -/
class FloatArith (F : Type) extends Add F, Sub F, Mul F, Div F, Neg F where
  /-- The constant nearest to a rational number. -/
  lit : ℚ → F
  /-- Conversion from an integer. -/
  ofInt : Int → F
  /-- `a < b`. -/
  lt : F → F → Bool
  /-- `a <= b`. -/
  le : F → F → Bool
  /-- `a == b`. -/
  feq : F → F → Bool
  /-- Rounding to the nearest integer, halves away from zero. -/
  lround : F → Int
  /-- Conversion to an integer, towards zero. -/
  trunc : F → Int
  floor : F → F
  sqrt : F → F
  sin : F → F
  cos : F → F
  asin : F → F
  acos : F → F
  /-- `atan2 y x`. -/
  atan2 : F → F → F
  /-- A value that is not below one does not truncate to a negative integer. -/
  trunc_nonneg : ∀ x, lt x (lit 1) = false → 0 ≤ trunc x

namespace FloatArith

variable {F : Type} [FloatArith F]

def fabs (x : F) : F := if lt x (lit 0) then -x else x

def fmax (x y : F) : F := if lt x y then y else x

def fmin (x y : F) : F := if lt y x then y else x

/-- `v` forced into `lo .. hi`. -/
def clampf (v lo hi : F) : F :=
  if lt v lo then lo else if lt hi v then hi else v

/-- Conversion to a 16-bit unsigned integer. -/
def toUInt16 (x : F) : UInt16 := UInt16.ofInt (trunc x)

/-- Conversion to an 8-bit unsigned integer. -/
def toUInt8 (x : F) : UInt8 := UInt8.ofInt (trunc x)

/-- A 32-bit unsigned integer as a float. -/
def ofUInt32 (n : UInt32) : F := ofInt n.toNat

/-- A 16-bit unsigned integer as a float. -/
def ofUInt16 (n : UInt16) : F := ofInt n.toNat

/-- An 8-bit unsigned integer as a float. -/
def ofUInt8 (n : UInt8) : F := ofInt n.toNat

/-- A 16-bit signed integer as a float. -/
def ofInt16 (n : Int16) : F := ofInt n.toInt

end FloatArith

/-- A floating-point type with the exponential function. -/
class FloatExp (F : Type) extends FloatArith F where
  expf : F → F

open Classical in
/-- Exact arithmetic: the real numbers. -/
noncomputable instance : FloatArith ℝ where
  lit q := q
  ofInt n := n
  lt a b := decide (a < b)
  le a b := decide (a ≤ b)
  feq a b := decide (a = b)
  lround x := if 0 ≤ x then ⌊x + 1 / 2⌋ else ⌈x - 1 / 2⌉
  trunc x := if 0 ≤ x then ⌊x⌋ else ⌈x⌉
  floor x := ⌊x⌋
  sqrt := Real.sqrt
  sin := Real.sin
  cos := Real.cos
  asin := Real.arcsin
  acos := Real.arccos
  atan2 y x := Complex.arg ⟨x, y⟩
  trunc_nonneg := by
    intro x hx
    have h1 : (1 : ℝ) ≤ x := by simpa using hx
    have h0 : 0 ≤ x := by linarith
    rw [if_pos h0]
    exact Int.floor_nonneg.mpr h0

noncomputable instance : FloatExp ℝ where
  expf := Real.exp

/-!
## The laws of exact arithmetic

On the real numbers the operations of `FloatArith` are the ones of mathematics, so here they have their
laws: comparisons decide the order, and rounding is monotone, odd and leaves the integers alone.
-/

namespace FloatArith

variable {x y lo hi : ℝ}

@[simp] theorem lit_exact (q : ℚ) : (lit q : ℝ) = q := rfl

@[simp] theorem ofInt_exact (n : ℤ) : (ofInt n : ℝ) = n := rfl

@[simp] theorem lt_exact : lt x y = true ↔ x < y := decide_eq_true_iff

@[simp] theorem le_exact : le x y = true ↔ x ≤ y := decide_eq_true_iff

theorem fabs_exact : fabs x = |x| := by
  unfold fabs
  simp only [lit_exact, Rat.cast_zero, lt_exact]
  split_ifs with hneg
  · rw [abs_of_neg hneg]
  · rw [abs_of_nonneg (not_lt.mp hneg)]

theorem clampf_exact (hle : lo ≤ hi) : clampf x lo hi = max lo (min hi x) := by
  unfold clampf
  simp only [lt_exact]
  split_ifs with hlow hhigh
  · rw [max_eq_left ((min_le_right hi x).trans hlow.le)]
  · rw [min_eq_left hhigh.le, max_eq_right hle]
  · rw [min_eq_right (not_lt.mp hhigh), max_eq_right (not_lt.mp hlow)]

theorem clampf_of_mem (hlo : lo ≤ x) (hhi : x ≤ hi) : clampf x lo hi = x := by
  rw [clampf_exact (hlo.trans hhi), min_eq_right hhi, max_eq_right hlo]

theorem lround_of_nonneg (hx : 0 ≤ x) : lround x = ⌊x + 1 / 2⌋ := if_pos hx

theorem lround_of_neg (hx : x < 0) : lround x = ⌈x - 1 / 2⌉ := if_neg (not_le.mpr hx)

@[simp] theorem lround_intCast (n : ℤ) : lround (n : ℝ) = n := by
  rcases lt_or_ge (n : ℝ) 0 with hneg | hpos
  · rw [lround_of_neg hneg, Int.ceil_eq_iff]
    constructor <;> linarith
  · rw [lround_of_nonneg hpos, Int.floor_eq_iff]
    constructor <;> linarith

theorem trunc_intCast (n : ℤ) : trunc (n : ℝ) = n := by
  show (if 0 ≤ (n : ℝ) then ⌊(n : ℝ)⌋ else ⌈(n : ℝ)⌉) = n
  rw [Int.floor_intCast, Int.ceil_intCast, ite_self]

theorem lround_neg (x : ℝ) : lround (-x) = -lround x := by
  rcases lt_trichotomy x 0 with hneg | rfl | hpos
  · rw [lround_of_neg hneg, lround_of_nonneg (by linarith), ← Int.floor_neg]
    congr 1
    ring
  · have hzero := lround_intCast 0
    rw [Int.cast_zero] at hzero
    rw [neg_zero, hzero, neg_zero]
  · rw [lround_of_nonneg hpos.le, lround_of_neg (by linarith), ← Int.ceil_neg]
    congr 1
    ring

theorem abs_lround_sub_le (x : ℝ) : |(lround x : ℝ) - x| ≤ 1 / 2 := by
  rw [abs_le]
  rcases lt_or_ge x 0 with hneg | hpos
  · rw [lround_of_neg hneg]
    have hlow := Int.le_ceil (x - 1 / 2)
    have hhigh := Int.ceil_lt_add_one (x - 1 / 2)
    constructor <;> linarith
  · rw [lround_of_nonneg hpos]
    have hlow := Int.lt_floor_add_one (x + 1 / 2)
    have hhigh := Int.floor_le (x + 1 / 2)
    constructor <;> linarith

theorem lround_mono (hxy : x ≤ y) : lround x ≤ lround y := by
  rcases lt_or_ge x 0 with hx | hx
  · rcases lt_or_ge y 0 with hy | hy
    · rw [lround_of_neg hx, lround_of_neg hy]
      exact Int.ceil_le_ceil (by linarith)
    · -- a negative number rounds to at most zero
      have hlow : lround x ≤ 0 := by
        rw [lround_of_neg hx, Int.ceil_le, Int.cast_zero]
        linarith
      have hhigh : 0 ≤ lround y := by
        rw [lround_of_nonneg hy, Int.le_floor, Int.cast_zero]
        linarith
      exact hlow.trans hhigh
  · rw [lround_of_nonneg hx, lround_of_nonneg (hx.trans hxy)]
    exact Int.floor_le_floor (by linarith)

end FloatArith
