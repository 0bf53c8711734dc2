import Mathlib.Data.List.Basic

/-!
# Byte strings: windows and little-endian integers

`window l offset n` are the `n` bytes of `l` from `offset` on. A reader that walks over a byte string
sees windows; a writer that only appends leaves the windows of the old string where they were.
-/

namespace Bytes

variable {l r : List UInt8} {offset n m : Nat}

/-! ## Windows -/

/-- The `n` bytes from `offset` on. -/
def window (l : List UInt8) (offset n : Nat) : List UInt8 := (l.drop offset).take n

theorem window_length (h : offset + n ≤ l.length) : (window l offset n).length = n := by
  simp only [window, List.length_take, List.length_drop]
  omega

theorem window_append_left (h : offset + n ≤ l.length) :
    window (l ++ r) offset n = window l offset n := by
  unfold window
  rw [List.drop_append_of_le_length (by omega), List.take_append_of_le_length]
  rw [List.length_drop]
  omega

/-- A window of the appended bytes. -/
theorem window_append_right : window (l ++ r) (l.length + offset) n = window r offset n := by
  unfold window
  rw [List.drop_append, List.drop_of_length_le (by omega), List.nil_append,
    Nat.add_sub_cancel_left]

theorem window_append_self : window (l ++ r) l.length n = r.take n := by
  unfold window
  rw [List.drop_left]

theorem window_split : window l offset (n + m) = window l offset n ++ window l (offset + n) m := by
  unfold window
  rw [List.take_add, List.drop_drop]

theorem drop_eq_window_append {stop : Nat} (h : offset ≤ stop) :
    l.drop offset = window l offset (stop - offset) ++ l.drop stop := by
  unfold window
  conv_lhs => rw [← List.take_append_drop (stop - offset) (l.drop offset)]
  rw [List.drop_drop, Nat.add_sub_cancel' h]

/-- Sliding a window by one byte. -/
theorem window_slide (h : offset + n < l.length) (hn : 0 < n) :
    (window l offset n).drop 1 ++ window l (offset + n) 1 = window l (offset + 1) n := by
  obtain ⟨k, rfl⟩ : ∃ k, n = 1 + k := ⟨n - 1, by omega⟩
  have hlen : (window l offset 1).length = 1 := window_length (by omega)
  rw [window_split, List.drop_append_of_le_length (by omega), List.drop_of_length_le (by omega),
    List.nil_append, Nat.add_comm 1 k, window_split (n := k), Nat.add_comm k 1,
    ← Nat.add_assoc]

theorem flatten_windows : ((List.range m).map fun i => window l (i * n) n).flatten = l.take (m * n) := by
  induction m with
  | zero => rw [Nat.zero_mul]; rfl
  | succ m ih =>
    rw [List.range_succ, List.map_append, List.flatten_append, ih, Nat.succ_mul, List.take_add]
    exact congrArg (_ ++ ·) List.flatten_singleton

theorem window_min : window l offset (min (l.length - offset) n) = window l offset n := by
  unfold window
  rw [List.take_eq_take_iff, List.length_drop]
  omega

/-! ## Little-endian integers -/

def putU16 (v : UInt16) : List UInt8 := [v.toUInt8, (v >>> 8).toUInt8]

def putU32 (v : UInt32) : List UInt8 :=
  [v.toUInt8, (v >>> 8).toUInt8, (v >>> 16).toUInt8, (v >>> 24).toUInt8]

def getU16 (p : List UInt8) : UInt16 := (p.getD 0 0).toUInt16 ||| ((p.getD 1 0).toUInt16 <<< 8)

def getU32 (p : List UInt8) : UInt32 :=
  (p.getD 0 0).toUInt32 ||| ((p.getD 1 0).toUInt32 <<< 8) ||| ((p.getD 2 0).toUInt32 <<< 16) |||
    ((p.getD 3 0).toUInt32 <<< 24)

@[simp] theorem putU16_length (v : UInt16) : (putU16 v).length = 2 := rfl

@[simp] theorem putU32_length (v : UInt32) : (putU32 v).length = 4 := rfl

theorem getU16_putU16 (v : UInt16) : getU16 (putU16 v ++ r) = v := by
  show v.toUInt8.toUInt16 ||| ((v >>> 8).toUInt8.toUInt16 <<< 8) = v
  rw [← UInt16.toBitVec_inj]
  ext i hi
  simp only [UInt16.toBitVec_or, UInt8.toBitVec_toUInt16, UInt16.toBitVec_toUInt8,
    UInt16.toBitVec_shiftLeft, UInt16.toBitVec_shiftRight, UInt16.toBitVec_ofNat,
    BitVec.ofNat_eq_ofNat, BitVec.reduceMod, BitVec.ushiftRight_eq', BitVec.toNat_ofNat,
    Nat.reducePow, Nat.reduceMod, BitVec.shiftLeft_eq', BitVec.getElem_or, BitVec.getElem_setWidth,
    BitVec.getLsbD_setWidth, BitVec.getElem_shiftLeft, BitVec.getLsbD_ushiftRight]
  grind

theorem getU32_putU32 (v : UInt32) : getU32 (putU32 v ++ r) = v := by
  show v.toUInt8.toUInt32 ||| ((v >>> 8).toUInt8.toUInt32 <<< 8) |||
    ((v >>> 16).toUInt8.toUInt32 <<< 16) ||| ((v >>> 24).toUInt8.toUInt32 <<< 24) = v
  rw [← UInt32.toBitVec_inj]
  ext i hi
  simp only [UInt32.toBitVec_or, UInt8.toBitVec_toUInt32, UInt32.toBitVec_toUInt8,
    UInt32.toBitVec_shiftLeft, UInt32.toBitVec_shiftRight, UInt32.toBitVec_ofNat,
    BitVec.ofNat_eq_ofNat, BitVec.reduceMod, BitVec.ushiftRight_eq', BitVec.toNat_ofNat,
    Nat.reducePow, Nat.reduceMod, BitVec.shiftLeft_eq', BitVec.getElem_or, BitVec.getElem_setWidth,
    BitVec.getLsbD_setWidth, BitVec.getElem_shiftLeft, BitVec.getLsbD_ushiftRight]
  grind

theorem getU16_putU16_self (v : UInt16) : getU16 (putU16 v) = v := by
  simpa using getU16_putU16 (r := []) v

theorem getU32_putU32_self (v : UInt32) : getU32 (putU32 v) = v := by
  simpa using getU32_putU32 (r := []) v

end Bytes
