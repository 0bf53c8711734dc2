import Mathlib.Data.Nat.Notation
import Mathlib.Tactic.NormNum

/-!
# Clocks

A program reads the low 32 bits of a clock that never goes back, and subtracts readings. What it sees
of a span is the span modulo `2 ^ 32`: the truth as long as less than a wrap has passed. A test whether
something is at most `ttl` old is right exactly when its age is not one of those that look young after
a wrap.
-/

namespace WrappedTime

variable {last now : Nat} {ttl d : UInt32}

theorem elapsed_eq (hle : last ≤ now) :
    (UInt32.ofNat now - UInt32.ofNat last).toNat = (now - last) % UInt32.size := by
  have hsize : UInt32.size = 4294967296 := rfl
  rw [UInt32.toNat_sub, UInt32.toNat_ofNat', UInt32.toNat_ofNat', hsize]
  omega

theorem elapsed_le (hle : last ≤ now) :
    (UInt32.ofNat now - UInt32.ofNat last).toNat ≤ now - last := by
  rw [elapsed_eq hle]
  exact Nat.mod_le ..

theorem elapsed_exact (hle : last ≤ now) (hwrap : now < last + UInt32.size) :
    (UInt32.ofNat now - UInt32.ofNat last).toNat = now - last := by
  rw [elapsed_eq hle]
  exact Nat.mod_eq_of_lt (by omega)

theorem le_of_elapsed (hle : last ≤ now) (hd : d ≤ UInt32.ofNat now - UInt32.ofNat last) :
    last + d.toNat ≤ now := by
  have hshown := elapsed_le hle
  rw [UInt32.le_iff_toNat_le] at hd
  omega

/-- The age is within `ttl`, or looks too old as well. -/
def Unaliased (ttl : UInt32) (last now : Nat) : Prop :=
  now ≤ last + ttl.toNat ∨ ttl.toNat < (now - last) % UInt32.size

instance (ttl : UInt32) (last now : Nat) : Decidable (Unaliased ttl last now) :=
  inferInstanceAs (Decidable (_ ∨ _))

theorem unaliased_iff (hle : last ≤ now) : Unaliased ttl last now ↔
    (UInt32.ofNat now - UInt32.ofNat last ≤ ttl → now ≤ last + ttl.toNat) := by
  unfold Unaliased
  rw [UInt32.le_iff_toNat_le, elapsed_eq hle, ← Nat.not_le]
  constructor
  · rintro (hyoung | hold) hlooks
    · exact hyoung
    · exact absurd hlooks hold
  · intro himp
    by_cases hlooks : (now - last) % UInt32.size ≤ ttl.toNat
    · exact .inl (himp hlooks)
    · exact .inr hlooks

theorem Unaliased.not_young (hseen : Unaliased ttl last now) (hover : last + ttl.toNat < now) :
    ¬ UInt32.ofNat now - UInt32.ofNat last ≤ ttl := by
  intro hlooks
  have hle : last ≤ now := by omega
  have hyoung := (unaliased_iff hle).mp hseen hlooks
  omega

end WrappedTime

/-!
## Time slots

From a first time on, time is divided into slots of equal length. Counting the slots from the start of an
earlier slot gives the same slots as counting them from the first one.
-/

namespace Slots

variable {first len last now : Nat}

def slot (first len now : Nat) : Nat := (now - first) / len

def start (first len now : Nat) : Nat := first + slot first len now * len

@[simp] theorem slot_first : slot first len first = 0 := by
  unfold slot
  rw [Nat.sub_self, Nat.zero_div]

@[simp] theorem start_first : start first len first = first := by
  unfold start
  rw [slot_first, Nat.zero_mul, Nat.add_zero]

theorem first_le_start : first ≤ start first len now := Nat.le_add_right ..

theorem start_le (hle : first ≤ now) : start first len now ≤ now := by
  have hfloor := Nat.div_mul_le_self (now - first) len
  unfold start slot
  omega

theorem start_mod : start first len now % len = first % len := Nat.add_mul_mod_self_right ..

theorem slot_eq_add (hlen : 0 < len) (hfirst : first ≤ last) (hle : last ≤ now) :
    slot first len now = slot first len last + (now - start first len last) / len := by
  have hstart : start first len last ≤ last := start_le hfirst
  have hsplit : now - first = (now - start first len last) + slot first len last * len := by
    unfold start at hstart ⊢
    omega
  have hcount : slot first len now = (now - first) / len := rfl
  rw [hcount, hsplit, Nat.add_mul_div_right _ _ hlen, Nat.add_comm]

theorem start_eq_add (hlen : 0 < len) (hfirst : first ≤ last) (hle : last ≤ now) :
    start first len now = start first len last + (now - start first len last) / len * len := by
  unfold start
  rw [slot_eq_add hlen hfirst hle, Nat.add_mul, Nat.add_assoc]
  rfl

theorem slot_mono (hle : last ≤ now) : slot first len last ≤ slot first len now :=
  Nat.div_le_div_right (Nat.sub_le_sub_right hle first)

/-- A time is in an earlier slot as long as less than its length has passed since its start. -/
theorem slot_eq_iff (hlen : 0 < len) (hfirst : first ≤ last) (hle : last ≤ now) :
    slot first len now = slot first len last ↔ now - start first len last < len := by
  rw [slot_eq_add hlen hfirst hle, Nat.add_eq_left, Nat.div_eq_zero_iff]
  omega

end Slots
