import Mathlib.Algebra.Order.Ring.Nat
import Mathlib.Algebra.Ring.Int.Defs
import Mathlib.Algebra.Ring.Nat
import Mathlib.Data.List.Basic
import Mathlib.Tactic.Ring

/-!
# Machine words

An operation on signed 32-bit integers has an exact result, which it delivers when that can be
represented and which overflows otherwise. On machine words the result wraps around; it is the exact one
where nothing overflows.
-/

namespace SignedArith

def FitsInt32 (x : Int) : Prop := -2 ^ 31 ≤ x ∧ x < 2 ^ 31

instance (x : Int) : Decidable (FitsInt32 x) := inferInstanceAs (Decidable (_ ∧ _))

variable {a b : Int32} {x : Int}

theorem bmod_of_fits (hfits : FitsInt32 x) : x.bmod (2 ^ 32) = x := by
  obtain ⟨hmin, hmax⟩ := hfits
  exact Int.bmod_eq_of_le (by omega) (by omega)

theorem toInt_ofInt_of_fits (hfits : FitsInt32 x) : (Int32.ofInt x).toInt = x :=
  Int32.toInt_ofInt_of_le hfits.1 hfits.2

theorem toInt_add_of_fits (hfits : FitsInt32 (a.toInt + b.toInt)) :
    (a + b).toInt = a.toInt + b.toInt := by
  rw [Int32.toInt_add, bmod_of_fits hfits]

theorem toInt_sub_of_fits (hfits : FitsInt32 (a.toInt - b.toInt)) :
    (a - b).toInt = a.toInt - b.toInt := by
  rw [Int32.toInt_sub, bmod_of_fits hfits]

theorem toInt_mul_of_fits (hfits : FitsInt32 (a.toInt * b.toInt)) :
    (a * b).toInt = a.toInt * b.toInt := by
  rw [Int32.toInt_mul, bmod_of_fits hfits]

theorem toInt_div_of_fits (hfits : FitsInt32 (a.toInt.tdiv b.toInt)) :
    (a / b).toInt = a.toInt.tdiv b.toInt := by
  rw [Int32.toInt_div, bmod_of_fits hfits]

theorem natAbs_tdiv_le_half {y : Int} (hy : 2 ≤ y) : 2 * (x.tdiv y).natAbs ≤ x.natAbs := by
  have hdiv : (x.tdiv y).natAbs ≤ x.natAbs / 2 := by
    rw [Int.natAbs_tdiv]
    exact Nat.div_le_div_left (by omega) (by decide)
  omega

end SignedArith

/-!
## Bit fields of a byte string

A byte string is read as a number, the first byte lowest. Field `i` of width `w` are the bits from `w * i`
on. A field lies in the bytes that cover its bits, and the fields together determine the string.
-/

namespace BitFields

variable {a b : List UInt8} {u v w i n : Nat}

/-- The number of a byte string. -/
def value : List UInt8 → Nat
  | [] => 0
  | byte :: bytes => byte.toNat + 256 * value bytes

def field (w i v : Nat) : Nat := v / 2 ^ (w * i) % 2 ^ w

theorem value_cons {byte : UInt8} : value (byte :: a) = byte.toNat + 256 * value a := rfl

theorem value_append : value (a ++ b) = value a + 2 ^ (8 * a.length) * value b := by
  induction a with
  | nil =>
    rw [List.nil_append, List.length_nil, Nat.mul_zero, Nat.pow_zero, Nat.one_mul]
    exact (Nat.zero_add _).symm
  | cons byte a ih =>
    rw [List.cons_append, List.length_cons, value_cons, value_cons, ih, Nat.mul_succ, Nat.pow_add]
    ring

theorem value_lt : value a < 2 ^ (8 * a.length) := by
  induction a with
  | nil => exact Nat.one_pos
  | cons byte a ih =>
    have hbyte := byte.toNat_lt
    rw [List.length_cons, value_cons, Nat.mul_succ, Nat.pow_add]
    omega

theorem value_inj (hlen : a.length = b.length) (h : value a = value b) : a = b := by
  induction a generalizing b with
  | nil => exact (List.length_eq_zero_iff.mp hlen.symm).symm
  | cons byte a ih =>
    cases b with
    | nil => cases hlen
    | cons other b =>
      have hbyte := byte.toNat_lt
      have hother := other.toNat_lt
      rw [value_cons, value_cons] at h
      have hfirst : byte = other := UInt8.toNat_inj.mp (by omega)
      rw [hfirst, ih (Nat.succ.inj hlen) (by omega)]

/-- The next byte of a string, shifted behind the fields that were taken. -/
theorem value_take_succ {k : Nat} (h : k < a.length) :
    value (a.take (k + 1)) = value (a.take k) + 2 ^ (8 * k) * a[k].toNat := by
  rw [List.take_succ_eq_append_getElem h, value_append, List.length_take,
    Nat.min_eq_left (Nat.le_of_lt h)]
  rfl

/-- Bytes above the bits that are set are added. -/
theorem or_shiftLeft {n low : Nat} (high : Nat) (h : low < 2 ^ n) :
    low ||| (high <<< n) = low + 2 ^ n * high := by
  rw [Nat.or_comm, Nat.shiftLeft_eq, Nat.mul_comm, ← Nat.two_pow_add_eq_or_of_lt h, Nat.add_comm]

/-- A field lies in the bytes that cover it. -/
theorem field_append (h : w * (i + 1) ≤ 8 * a.length) :
    field w i (value (a ++ b)) = field w i (value a) := by
  obtain ⟨gap, hgap⟩ := Nat.exists_eq_add_of_le h
  unfold field
  rw [value_append, hgap, Nat.mul_succ, Nat.pow_add, Nat.pow_add, Nat.mul_assoc, Nat.mul_assoc,
    Nat.add_mul_div_left _ _ (Nat.two_pow_pos _), Nat.add_mul_mod_self_left]

theorem mod_eq_of_fields (h : ∀ i < n, field w i u = field w i v) :
    u % 2 ^ (w * n) = v % 2 ^ (w * n) := by
  induction n with
  | zero => rw [Nat.mul_zero, Nat.pow_zero, Nat.mod_one, Nat.mod_one]
  | succ n ih =>
    have hlow := ih fun i hi => h i (Nat.lt_succ_of_lt hi)
    have hhigh := h n (Nat.lt_succ_self n)
    unfold field at hhigh
    rw [Nat.mul_succ, Nat.pow_add, Nat.mod_mul, Nat.mod_mul, hlow, hhigh]

theorem eq_of_fields (hlen : a.length = b.length) (hcover : 8 * a.length = w * n)
    (h : ∀ i < n, field w i (value a) = field w i (value b)) : a = b := by
  refine value_inj hlen ?_
  have hmod := mod_eq_of_fields h
  rw [← hcover, Nat.mod_eq_of_lt value_lt, hlen, Nat.mod_eq_of_lt value_lt] at hmod
  exact hmod

end BitFields
