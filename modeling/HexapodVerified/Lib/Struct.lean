import HexapodVerified.Lib.Codec

/-!
# Packing of unbounded integers

A language with unbounded integers reads and writes binary data through format codes (`struct` of Python,
little-endian, standard sizes): a code says how many bytes an integer takes and whether it has a sign, and
an integer that does not fit is refused. `Mirrors` relates a reader of such integers to a reader of
machine integers: both take the same bytes, and their values are the same up to a translation.
-/

namespace Struct

open Codec

inductive Code where
  | B | b | H | h | I | i
  deriving DecidableEq, Repr

def Code.Holds : Code → Int → Prop
  | .B, v => 0 ≤ v ∧ v ≤ 255
  | .b, v => -128 ≤ v ∧ v ≤ 127
  | .H, v => 0 ≤ v ∧ v ≤ 65535
  | .h, v => -32768 ≤ v ∧ v ≤ 32767
  | .I, v => 0 ≤ v ∧ v ≤ 4294967295
  | .i, v => -2147483648 ≤ v ∧ v ≤ 2147483647

instance (c : Code) (v : Int) : Decidable (c.Holds v) := by
  unfold Code.Holds
  cases c <;> infer_instance

/-- The bytes of an integer that the code can carry. -/
def bytesOf : Code → Int → List UInt8
  | .B, v => putU8 (UInt8.ofInt v)
  | .b, v => putI8 (Int8.ofInt v)
  | .H, v => Bytes.putU16 (UInt16.ofInt v)
  | .h, v => putI16 (Int16.ofInt v)
  | .I, v => Bytes.putU32 (UInt32.ofInt v)
  | .i, v => putI32 (Int32.ofInt v)

def pack (c : Code) (v : Int) : Option (List UInt8) := if c.Holds v then some (bytesOf c v) else none

def unpack : Code → Reader Int
  | .B => do return (← getU8).toNat
  | .b => do return (← getI8).toInt
  | .H => do return (← getU16).toNat
  | .h => do return (← getI16).toInt
  | .I => do return (← getU32).toNat
  | .i => do return (← getI32).toInt

variable {α β γ δ : Type} {n : Nat}

/-- Reads `n` values, each appended to those before. -/
def unpackList (read : Reader α) : Nat → Reader (List α)
  | 0 => return []
  | n + 1 => do
    let values ← unpackList read n
    let last ← read
    return values ++ [last]

def packList (write : α → Option (List UInt8)) : List α → Option (List UInt8)
  | [] => some []
  | a :: rest => do
    let bytes ← write a
    let later ← packList write rest
    return bytes ++ later

/-- Packs a format: each code with its integer. -/
def packFields (fields : List (Code × Int)) : Option (List UInt8) :=
  packList (fun field => pack field.1 field.2) fields

/-! ## Packing machine integers -/

theorem ofInt_toNat_u8 (v : UInt8) : UInt8.ofInt v.toNat = v := by
  show UInt8.ofNat ((v.toNat : Int) % 2 ^ 8).toNat = v
  rw [Int.emod_eq_of_lt (Int.natCast_nonneg _) (by exact_mod_cast v.toNat_lt), Int.toNat_natCast,
    UInt8.ofNat_toNat]

theorem pack_B (v : UInt8) : pack .B v.toNat = some (putU8 v) := by
  have hv := v.toNat_lt
  rw [pack, if_pos ⟨by omega, by omega⟩, bytesOf, ofInt_toNat_u8]

theorem pack_b (v : Int8) : pack .b v.toInt = some (putI8 v) := by
  have hlt := v.toInt_lt
  have hge := v.le_toInt
  rw [pack, if_pos ⟨by omega, by omega⟩, bytesOf]
  simp

theorem ofInt_toNat_u16 (v : UInt16) : UInt16.ofInt v.toNat = v := by
  show UInt16.ofNat ((v.toNat : Int) % 2 ^ 16).toNat = v
  rw [Int.emod_eq_of_lt (Int.natCast_nonneg _) (by exact_mod_cast v.toNat_lt), Int.toNat_natCast,
    UInt16.ofNat_toNat]

theorem pack_H (v : UInt16) : pack .H v.toNat = some (Bytes.putU16 v) := by
  have hv := v.toNat_lt
  rw [pack, if_pos ⟨by omega, by omega⟩, bytesOf, ofInt_toNat_u16]

theorem pack_h (v : Int16) : pack .h v.toInt = some (putI16 v) := by
  have hlt := v.toInt_lt
  have hge := v.le_toInt
  rw [pack, if_pos ⟨by omega, by omega⟩, bytesOf]
  simp

theorem ofInt_toNat_u32 (v : UInt32) : UInt32.ofInt v.toNat = v := by
  show UInt32.ofNat ((v.toNat : Int) % 2 ^ 32).toNat = v
  rw [Int.emod_eq_of_lt (Int.natCast_nonneg _) (by exact_mod_cast v.toNat_lt), Int.toNat_natCast,
    UInt32.ofNat_toNat]

theorem pack_I (v : UInt32) : pack .I v.toNat = some (Bytes.putU32 v) := by
  have hv := v.toNat_lt
  rw [pack, if_pos ⟨by omega, by omega⟩, bytesOf, ofInt_toNat_u32]

theorem pack_i (v : Int32) : pack .i v.toInt = some (putI32 v) := by
  have hlt := v.toInt_lt
  have hge := v.le_toInt
  rw [pack, if_pos ⟨by omega, by omega⟩, bytesOf]
  simp

theorem packList_map {f : β → α} {write : α → Option (List UInt8)} {put : β → List UInt8}
    (h : ∀ b, write (f b) = some (put b)) (values : List β) :
    packList write (values.map f) = some (values.flatMap put) := by
  induction values with
  | nil => rfl
  | cons b values ih =>
    rw [List.map_cons, packList, h, ih]
    rfl

variable {c : Code} {v : Int} {bytes later : List UInt8} {fields : List (Code × Int)}

theorem packFields_cons (h : pack c v = some bytes) (hlater : packFields fields = some later) :
    packFields ((c, v) :: fields) = some (bytes ++ later) := by
  show (pack c v).bind (fun bytes => (packFields fields).bind fun later => some (bytes ++ later)) = _
  rw [h, hlater]
  rfl

theorem packFields_last (h : pack c v = some bytes) : packFields [(c, v)] = some bytes := by
  have hcons := packFields_cons h (show packFields [] = some [] from rfl)
  rwa [List.append_nil] at hcons

/-! ## Integers that fit -/

theorem exists_u8 (h : Code.B.Holds v) : ∃ x : UInt8, (x.toNat : Int) = v := by
  obtain ⟨hge, hle⟩ := h
  exact ⟨UInt8.ofNat v.toNat, by rw [UInt8.toNat_ofNat_of_lt' (by dsimp only [UInt8.size]; omega)]; omega⟩

theorem exists_i8 (h : Code.b.Holds v) : ∃ x : Int8, x.toInt = v := by
  obtain ⟨hge, hle⟩ := h
  exact ⟨Int8.ofInt v, Int8.toInt_ofInt_of_le hge (Int.lt_add_one_of_le hle)⟩

theorem exists_u16 (h : Code.H.Holds v) : ∃ x : UInt16, (x.toNat : Int) = v := by
  obtain ⟨hge, hle⟩ := h
  exact ⟨UInt16.ofNat v.toNat,
    by rw [UInt16.toNat_ofNat_of_lt' (by dsimp only [UInt16.size]; omega)]; omega⟩

theorem exists_i16 (h : Code.h.Holds v) : ∃ x : Int16, x.toInt = v := by
  obtain ⟨hge, hle⟩ := h
  exact ⟨Int16.ofInt v, Int16.toInt_ofInt_of_le hge (Int.lt_add_one_of_le hle)⟩

theorem exists_u32 (h : Code.I.Holds v) : ∃ x : UInt32, (x.toNat : Int) = v := by
  obtain ⟨hge, hle⟩ := h
  exact ⟨UInt32.ofNat v.toNat,
    by rw [UInt32.toNat_ofNat_of_lt' (by dsimp only [UInt32.size]; omega)]; omega⟩

theorem exists_i32 (h : Code.i.Holds v) : ∃ x : Int32, x.toInt = v := by
  obtain ⟨hge, hle⟩ := h
  exact ⟨Int32.ofInt v, Int32.toInt_ofInt_of_le hge (Int.lt_add_one_of_le hle)⟩

theorem exists_vector_map {f : β → α} {values : List α} (hlen : values.length = n)
    (h : ∀ a ∈ values, ∃ b, f b = a) : ∃ entries : Vector β n, entries.toList.map f = values := by
  induction values generalizing n with
  | nil =>
    obtain rfl : 0 = n := hlen
    exact ⟨#v[], rfl⟩
  | cons a values ih =>
    obtain ⟨b, rfl⟩ := h a List.mem_cons_self
    obtain ⟨entries, hentries⟩ := ih rfl fun a ha => h a (List.mem_cons_of_mem _ ha)
    have hsize : (b :: entries.toList).toArray.size = n := by
      rw [← hlen, List.size_toArray, List.length_cons, Vector.length_toList, List.length_cons]
    exact ⟨⟨(b :: entries.toList).toArray, hsize⟩, congrArg (f b :: ·) hentries⟩

theorem holds_of_pack (h : pack c v = some bytes) : c.Holds v := by
  by_contra hno
  rw [pack, if_neg hno] at h
  cases h

/-- A list that was packed has only values that could be packed. -/
theorem exists_of_packList {write : α → Option (List UInt8)} {values : List α}
    (h : packList write values = some bytes) : ∀ a ∈ values, ∃ bytes, write a = some bytes := by
  induction values generalizing bytes with
  | nil => exact nofun
  | cons a values ih =>
    obtain ⟨first, hfirst, hrest⟩ := Option.bind_eq_some_iff.mp h
    obtain ⟨later, hlater, -⟩ := Option.bind_eq_some_iff.mp hrest
    rw [List.forall_mem_cons]
    exact ⟨⟨first, hfirst⟩, ih hlater⟩

theorem holds_of_packFields (h : packFields fields = some bytes) :
    ∀ field ∈ fields, field.1.Holds field.2 := by
  intro field hfield
  obtain ⟨bytes, hbytes⟩ := exists_of_packList h field hfield
  exact holds_of_pack hbytes

/-! ## Readers that mirror each other -/

/-- `read` takes the bytes that `get` takes, and its value is the translation of the other one's. -/
def Mirrors (read : Reader α) (get : Reader β) (f : β → α) : Prop :=
  ∀ bytes, read bytes = (get bytes).map (Prod.map f id)

variable {read : Reader α} {get : Reader β} {f : β → α}

theorem Mirrors.pure {a : α} {b : β} (h : a = f b) :
    Mirrors (Pure.pure a : Reader α) (Pure.pure b : Reader β) f := by
  intro bytes
  rw [h]
  rfl

theorem Mirrors.bind {next : α → Reader γ} {next' : β → Reader δ} {g : δ → γ} (h : Mirrors read get f)
    (hnext : ∀ b, Mirrors (next (f b)) (next' b) g) : Mirrors (read >>= next) (get >>= next') g := by
  intro bytes
  show (read bytes).bind (fun out => next out.1 out.2) =
    ((get bytes).bind fun out => next' out.1 out.2).map (Prod.map g id)
  rw [h bytes]
  cases get bytes with
  | none => rfl
  | some out => exact hnext out.1 out.2

theorem mirrors_B : Mirrors (unpack .B) getU8 fun v => (v.toNat : Int) := by
  intro bytes
  cases bytes <;> rfl

theorem mirrors_b : Mirrors (unpack .b) getI8 Int8.toInt := by
  intro bytes
  cases bytes <;> rfl

theorem mirrors_map (get : Reader β) (f : β → α) :
    Mirrors (do return f (← get)) get f := by
  intro bytes
  show (get bytes).bind (fun out => some (f out.1, out.2)) = _
  cases get bytes <;> rfl

theorem mirrors_H : Mirrors (unpack .H) getU16 fun v => (v.toNat : Int) := mirrors_map _ _

theorem mirrors_h : Mirrors (unpack .h) getI16 Int16.toInt := mirrors_map _ _

theorem mirrors_I : Mirrors (unpack .I) getU32 fun v => (v.toNat : Int) := mirrors_map _ _

theorem mirrors_i : Mirrors (unpack .i) getI32 Int32.toInt := mirrors_map _ _

theorem Mirrors.vector (h : Mirrors read get f) :
    Mirrors (unpackList read n) (getVector get n) fun entries => entries.toList.map f := by
  induction n with
  | zero => exact .pure rfl
  | succ n ih =>
    refine ih.bind fun entries => h.bind fun last => .pure ?_
    rw [Vector.toList_push, List.map_append]
    rfl

end Struct
