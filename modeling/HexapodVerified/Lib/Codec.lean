import HexapodVerified.Lib.Bytes

/-!
# Field-by-field codecs

A writer is a function to byte strings, a reader takes a value from the front of a byte string. `Codec P
size put get` says that the reader undoes the writer and the writer the reader: among the values
that satisfy `P`, the reader returns exactly the one the bytes were written from. `P` says which
fields are fixed already, so that a reader that goes field by field is treated one field at a time.
-/

namespace Codec

open Bytes

abbrev Reader (α : Type) := StateT (List UInt8) Option α

variable {α β : Type} {P : α → Prop} {n m : Nat} {bytes rest : List UInt8}

/-! ## Readers and writers of integers -/

def getU8 : Reader UInt8
  | [] => none
  | byte :: rest => some (byte, rest)

def getI8 : Reader Int8 := do return (← getU8).toInt8

def getU16 : Reader UInt16 := do
  let lo ← getU8
  let hi ← getU8
  return lo.toUInt16 ||| (hi.toUInt16 <<< 8)

def getI16 : Reader Int16 := do return (← getU16).toInt16

def getU32 : Reader UInt32 := do
  let b0 ← getU8
  let b1 ← getU8
  let b2 ← getU8
  let b3 ← getU8
  return b0.toUInt32 ||| (b1.toUInt32 <<< 8) ||| (b2.toUInt32 <<< 16) ||| (b3.toUInt32 <<< 24)

def getI32 : Reader Int32 := do return (← getU32).toInt32

def putU8 (v : UInt8) : List UInt8 := [v]

def putI8 (v : Int8) : List UInt8 := putU8 v.toUInt8

def putI16 (v : Int16) : List UInt8 := putU16 v.toUInt16

def putI32 (v : Int32) : List UInt8 := putU32 v.toUInt32

/-- Reads the `n` entries of an array, in order. -/
def getVector (get : Reader α) : (n : Nat) → Reader (Vector α n)
  | 0 => return #v[]
  | n + 1 => do
    let entries ← getVector get n
    let last ← get
    return entries.push last

def putVector (put : α → List UInt8) (entries : Vector α n) : List UInt8 := entries.toList.flatMap put

/-! ## The law -/

/-- The reader and the writer undo each other on the values that satisfy `P`, which take `size` bytes. -/
structure Law (P : α → Prop) (size : Nat) (put : α → List UInt8) (get : Reader α) : Prop where
  get_eq : ∀ {bytes a rest}, get bytes = some (a, rest) ↔ P a ∧ bytes = put a ++ rest
  length : ∀ {a}, P a → (put a).length = size
  total : ∀ bytes, size ≤ bytes.length → ∃ a rest, get bytes = some (a, rest)

theorem Law.get_put {put : α → List UInt8} {get : Reader α} (law : Law P n put get) {a : α} (ha : P a)
    (rest : List UInt8) : get (put a ++ rest) = some (a, rest) := law.get_eq.mpr ⟨ha, rfl⟩

theorem bind_eq_some {get : Reader α} {next : α → Reader β} {b : β} :
    (get >>= next) bytes = some (b, rest) ↔
      ∃ a mid, get bytes = some (a, mid) ∧ next a mid = some (b, rest) := by
  show (get bytes).bind (fun out => next out.1 out.2) = some (b, rest) ↔ _
  rw [Option.bind_eq_some_iff]
  constructor
  · rintro ⟨⟨a, mid⟩, hget, hnext⟩
    exact ⟨a, mid, hget, hnext⟩
  · rintro ⟨a, mid, hget, hnext⟩
    exact ⟨(a, mid), hget, hnext⟩

theorem Law.pure {a : α} (hP : ∀ b, P b ↔ b = a) : Law P 0 (fun _ => []) (pure a) where
  get_eq := by
    intro bytes b rest
    show some (a, bytes) = some (b, rest) ↔ _
    rw [hP, Option.some.injEq, Prod.mk.injEq, List.nil_append]
    exact and_congr_left' eq_comm
  length := fun _ => rfl
  total := fun _ _ => ⟨a, _, rfl⟩

/-- Reading a field and going on: from then on the field is fixed. -/
theorem Law.bind_of {F : α → Prop} {Q : β → Prop} {putField : α → List UInt8}
    {getField : Reader α} {put : β → List UInt8} {next : α → Reader β}
    (hfield : Law F n putField getField) (field : β → α) (hF : ∀ b, Q b → F (field b))
    (hnext : ∀ a, F a → Law (fun b => Q b ∧ field b = a) m put (next a)) :
    Law Q (n + m) (fun b => putField (field b) ++ put b) (getField >>= next) where
  get_eq := by
    intro bytes b rest
    rw [bind_eq_some]
    constructor
    · rintro ⟨a, mid, hget, hget'⟩
      obtain ⟨ha, rfl⟩ := hfield.get_eq.mp hget
      obtain ⟨⟨hQ, rfl⟩, rfl⟩ := (hnext a ha).get_eq.mp hget'
      exact ⟨hQ, (List.append_assoc _ _ _).symm⟩
    · rintro ⟨hQ, rfl⟩
      refine ⟨field b, put b ++ rest, ?_, (hnext (field b) (hF b hQ)).get_put ⟨hQ, rfl⟩ rest⟩
      rw [List.append_assoc]
      exact hfield.get_put (hF b hQ) _
  length := by
    intro b hQ
    rw [List.length_append, hfield.length (hF b hQ),
      (hnext (field b) (hF b hQ)).length ⟨hQ, rfl⟩]
  total := by
    intro bytes hlen
    obtain ⟨a, mid, hget⟩ := hfield.total bytes (Nat.le_trans (Nat.le_add_right n m) hlen)
    obtain ⟨ha, rfl⟩ := hfield.get_eq.mp hget
    rw [List.length_append, hfield.length ha] at hlen
    obtain ⟨b, rest, hget'⟩ := (hnext a ha).total mid (Nat.le_of_add_le_add_left hlen)
    exact ⟨b, rest, bind_eq_some.mpr ⟨a, mid, hget, hget'⟩⟩

theorem Law.bind {Q : β → Prop} {putField : α → List UInt8} {getField : Reader α}
    {put : β → List UInt8} {next : α → Reader β}
    (hfield : Law (fun _ => True) n putField getField) (field : β → α)
    (hnext : ∀ a, Law (fun b => Q b ∧ field b = a) m put (next a)) :
    Law Q (n + m) (fun b => putField (field b) ++ put b) (getField >>= next) :=
  hfield.bind_of field (fun _ _ => trivial) fun a _ => hnext a

theorem Law.last {Q : β → Prop} {putField : α → List UInt8} {getField : Reader α}
    {make : α → β} (hfield : Law (fun _ => True) n putField getField) (field : β → α)
    (hmake : ∀ a b, Q b ∧ field b = a ↔ b = make a) :
    Law Q n (fun b => putField (field b)) (getField >>= fun a => Pure.pure (make a)) where
  get_eq := by
    intro bytes b rest
    have hput : putField (field b) ++ rest = putField (field b) ++ [] ++ rest := by
      rw [List.append_nil]
    rw [hput]
    exact (hfield.bind field fun a => Law.pure (hmake a)).get_eq
  length := fun _ => hfield.length trivial
  total := (hfield.bind field fun a => Law.pure (hmake a)).total

theorem Law.sized {put : α → List UInt8} {get : Reader α} (law : Law P n put get) (hsize : n = m) :
    Law P m put get := hsize ▸ law

theorem Law.map {put : α → List UInt8} {get : Reader α} (law : Law (fun _ => True) n put get)
    {f : α → β} {g : β → α} (hfg : ∀ b, f (g b) = b) (hgf : ∀ a, g (f a) = a) :
    Law (fun _ => True) n (fun b => put (g b)) (do return f (← get)) where
  get_eq := by
    intro bytes b rest
    rw [bind_eq_some]
    constructor
    · rintro ⟨a, mid, hget, hdone⟩
      obtain ⟨rfl, rfl⟩ : f a = b ∧ mid = rest := Prod.mk.inj (Option.some.inj hdone)
      rw [hgf]
      exact law.get_eq.mp hget
    · rintro ⟨-, rfl⟩
      refine ⟨g b, rest, law.get_put trivial rest, ?_⟩
      show some (f (g b), rest) = some (b, rest)
      rw [hfg]
  length := fun _ => law.length trivial
  total := by
    intro bytes hlen
    obtain ⟨a, rest, hget⟩ := law.total bytes hlen
    exact ⟨f a, rest, bind_eq_some.mpr ⟨a, rest, hget, rfl⟩⟩

theorem putVector_push {put : α → List UInt8} :
    putVector put (n := n + 1) = fun entries => putVector put entries.pop ++ put entries.back := by
  funext entries
  conv_lhs => rw [← Vector.push_pop_back entries]
  unfold putVector
  rw [Vector.toList_push, List.flatMap_append, List.flatMap_singleton]

theorem putVector_zero {put : α → List UInt8} : putVector put (n := 0) = fun _ => [] := by
  funext entries
  obtain rfl : entries = #v[] := Vector.eq_empty
  rfl

theorem Law.vector {put : α → List UInt8} {get : Reader α} (law : Law (fun _ => True) m put get) :
    ∀ n, Law (fun _ => True) (n * m) (putVector put (n := n)) (getVector get n)
  | 0 => by
    rw [putVector_zero]
    refine (Law.pure fun entries => ?_).sized (Nat.zero_mul m).symm
    exact ⟨fun _ => Vector.eq_empty, fun _ => trivial⟩
  | n + 1 => by
    rw [putVector_push]
    refine ((law.vector n).bind (fun all : Vector α (n + 1) => all.pop) fun entries =>
      law.last Vector.back fun last all => ?_).sized (Nat.succ_mul n m).symm
    constructor
    · rintro ⟨⟨-, rfl⟩, rfl⟩
      exact (Vector.push_pop_back all).symm
    · rintro rfl
      exact ⟨⟨trivial, Vector.pop_push⟩, Vector.back_eq_of_push_eq (Vector.push_pop_back _)⟩

/-! ## Laws of the integers -/

theorem law_u8 : Law (fun _ => True) 1 putU8 getU8 where
  get_eq := by
    intro bytes a rest
    cases bytes with
    | nil => exact ⟨fun h => absurd h (by rintro ⟨⟩), fun h => absurd h.2 (by rintro ⟨⟩)⟩
    | cons byte tail =>
      show some (byte, tail) = some (a, rest) ↔ True ∧ byte :: tail = a :: rest
      rw [Option.some.injEq, Prod.mk.injEq, List.cons.injEq, true_and]
  length := fun _ => rfl
  total := by
    intro bytes hlen
    cases bytes with
    | nil => cases hlen
    | cons byte tail => exact ⟨byte, tail, rfl⟩

theorem law_i8 : Law (fun _ => True) 1 putI8 getI8 :=
  law_u8.map Int8.toInt8_toUInt8 UInt8.toUInt8_toInt8

theorem join_u16 (lo hi : UInt8) :
    (lo.toUInt16 ||| (hi.toUInt16 <<< 8)).toUInt8 = lo ∧
      ((lo.toUInt16 ||| (hi.toUInt16 <<< 8)) >>> 8).toUInt8 = hi := by
  constructor
  · rw [← UInt8.toBitVec_inj]
    ext i hi'
    simp only [UInt16.toBitVec_toUInt8, UInt16.toBitVec_or, UInt8.toBitVec_toUInt16,
      UInt16.toBitVec_shiftLeft, UInt16.toBitVec_ofNat, BitVec.ofNat_eq_ofNat, BitVec.reduceMod,
      BitVec.shiftLeft_eq', BitVec.toNat_ofNat, Nat.reducePow, Nat.reduceMod,
      BitVec.getElem_setWidth, BitVec.getLsbD_or, BitVec.getLsbD_setWidth, BitVec.getLsbD_shiftLeft]
    grind
  · rw [← UInt8.toBitVec_inj]
    ext i hi'
    simp only [UInt16.toBitVec_toUInt8, UInt16.toBitVec_or, UInt8.toBitVec_toUInt16,
      UInt16.toBitVec_shiftLeft, UInt16.toBitVec_shiftRight, UInt16.toBitVec_ofNat,
      BitVec.ofNat_eq_ofNat, BitVec.reduceMod, BitVec.shiftLeft_eq', BitVec.ushiftRight_eq',
      BitVec.toNat_ofNat, Nat.reducePow, Nat.reduceMod, BitVec.getElem_setWidth,
      BitVec.getLsbD_ushiftRight, BitVec.getLsbD_or, BitVec.getLsbD_setWidth,
      BitVec.getLsbD_shiftLeft]
    grind

theorem law_u16 : Law (fun _ => True) 2 putU16 getU16 := by
  have hput : putU16 = fun v : UInt16 => putU8 v.toUInt8 ++ putU8 (v >>> 8).toUInt8 := rfl
  rw [hput]
  refine (law_u8.bind UInt16.toUInt8 fun lo =>
    law_u8.last (fun v : UInt16 => (v >>> 8).toUInt8) fun hi v => ?_).sized (by rfl)
  constructor
  · rintro ⟨⟨-, rfl⟩, rfl⟩
    exact (getU16_putU16_self v).symm
  · rintro rfl
    obtain ⟨hlo, hhi⟩ := join_u16 lo hi
    exact ⟨⟨trivial, hlo⟩, hhi⟩

theorem law_i16 : Law (fun _ => True) 2 putI16 getI16 :=
  law_u16.map Int16.toInt16_toUInt16 UInt16.toUInt16_toInt16

/-- The bytes of a word that was put together from four bytes. -/
theorem join_u32 (b0 b1 b2 b3 : UInt8) :
    (b0.toUInt32 ||| (b1.toUInt32 <<< 8) ||| (b2.toUInt32 <<< 16) |||
        (b3.toUInt32 <<< 24)).toUInt8 = b0 ∧
      ((b0.toUInt32 ||| (b1.toUInt32 <<< 8) ||| (b2.toUInt32 <<< 16) |||
        (b3.toUInt32 <<< 24)) >>> 8).toUInt8 = b1 ∧
      ((b0.toUInt32 ||| (b1.toUInt32 <<< 8) ||| (b2.toUInt32 <<< 16) |||
        (b3.toUInt32 <<< 24)) >>> 16).toUInt8 = b2 ∧
      ((b0.toUInt32 ||| (b1.toUInt32 <<< 8) ||| (b2.toUInt32 <<< 16) |||
        (b3.toUInt32 <<< 24)) >>> 24).toUInt8 = b3 := by
  refine ⟨?_, ?_, ?_, ?_⟩
  all_goals
    rw [← UInt8.toBitVec_inj]
    ext i hi
    simp only [UInt32.toBitVec_toUInt8, UInt32.toBitVec_or, UInt8.toBitVec_toUInt32,
      UInt32.toBitVec_shiftLeft, UInt32.toBitVec_shiftRight, UInt32.toBitVec_ofNat,
      BitVec.ofNat_eq_ofNat, BitVec.reduceMod, BitVec.shiftLeft_eq', BitVec.ushiftRight_eq',
      BitVec.toNat_ofNat, Nat.reducePow, Nat.reduceMod, BitVec.getElem_setWidth,
      BitVec.getLsbD_ushiftRight, BitVec.getLsbD_or, BitVec.getLsbD_setWidth,
      BitVec.getLsbD_shiftLeft]
    grind

theorem law_u32 : Law (fun _ => True) 4 putU32 getU32 := by
  have hput : putU32 = fun v : UInt32 => putU8 v.toUInt8 ++ (putU8 (v >>> 8).toUInt8 ++
      (putU8 (v >>> 16).toUInt8 ++ putU8 (v >>> 24).toUInt8)) := rfl
  rw [hput]
  refine (law_u8.bind UInt32.toUInt8 fun b0 =>
    law_u8.bind (fun v : UInt32 => (v >>> 8).toUInt8) fun b1 =>
    law_u8.bind (fun v : UInt32 => (v >>> 16).toUInt8) fun b2 =>
    law_u8.last (fun v : UInt32 => (v >>> 24).toUInt8) fun b3 v => ?_).sized (by rfl)
  constructor
  · rintro ⟨⟨⟨⟨-, rfl⟩, rfl⟩, rfl⟩, rfl⟩
    exact (getU32_putU32_self v).symm
  · rintro rfl
    obtain ⟨h0, h1, h2, h3⟩ := join_u32 b0 b1 b2 b3
    exact ⟨⟨⟨⟨trivial, h0⟩, h1⟩, h2⟩, h3⟩

theorem law_i32 : Law (fun _ => True) 4 putI32 getI32 :=
  law_u32.map Int32.toInt32_toUInt32 UInt32.toUInt32_toInt32

/-! ## Readers that normalise -/

def putEnum [DecidableEq α] (all : List α) (a : α) : List UInt8 := [UInt8.ofNat (all.idxOf a)]

/-- Reads an element by its number; a number that none has is refused. -/
def getEnum (all : List α) : Reader α := do
  let v ← getU8
  match all[v.toNat]? with
  | some a => return a
  | none => failure

/-- The reader also accepts bytes that the writer does not make: what it has read is written back as
`norm` of these bytes. It takes `size` bytes and looks at no others. -/
structure Normal (P : α → Prop) (size : Nat) (norm : List UInt8 → List UInt8)
    (put : α → List UInt8) (get : Reader α) : Prop where
  get_put : ∀ {a}, P a → ∀ rest, get (put a ++ rest) = some (a, rest)
  put_get : ∀ {bytes a rest}, get bytes = some (a, rest) →
    P a ∧ size ≤ bytes.length ∧ rest = bytes.drop size ∧ put a = norm (bytes.take size)
  frame : ∀ {bytes}, size ≤ bytes.length → ∀ rest,
    get (bytes ++ rest) = (get bytes).map fun out => (out.1, out.2 ++ rest)

variable {norm norm' : List UInt8 → List UInt8}

theorem Normal.length {put : α → List UInt8} {get : Reader α} (law : Normal P n norm put get) {a : α}
    (ha : P a) : (put a).length = n := by
  have hback := law.get_put ha []
  rw [List.append_nil] at hback
  obtain ⟨-, hle, hrest, -⟩ := law.put_get hback
  have hdrop := congrArg List.length hrest
  rw [List.length_nil, List.length_drop] at hdrop
  omega

theorem Law.normal {put : α → List UInt8} {get : Reader α} (law : Law P n put get) :
    Normal P n id put get where
  get_put := fun ha rest => law.get_put ha rest
  put_get := by
    intro bytes a rest hget
    obtain ⟨ha, rfl⟩ := law.get_eq.mp hget
    have hlen := law.length ha
    refine ⟨ha, ?_, ?_, ?_⟩
    · rw [List.length_append]
      omega
    · rw [← hlen, List.drop_left]
    · rw [← hlen, List.take_left]
      rfl
  frame := by
    intro bytes hle rest
    obtain ⟨a, tail, hget⟩ := law.total bytes hle
    obtain ⟨ha, rfl⟩ := law.get_eq.mp hget
    rw [hget, List.append_assoc, law.get_put ha]
    rfl

/-- A field whose type is read through another one, of which some values are not written. -/
theorem Law.normal_map {Q : β → Prop} {put : α → List UInt8} {get : Reader α}
    (law : Law (fun _ => True) n put get) {f : α → β} {g : β → α} (hfg : ∀ b, Q b → f (g b) = b)
    (hQ : ∀ a, Q (f a)) (hnorm : ∀ a, norm (put a) = put (g (f a))) :
    Normal Q n norm (fun b => put (g b)) (do return f (← get)) where
  get_put := by
    intro b hb rest
    rw [bind_eq_some]
    refine ⟨g b, rest, law.get_put trivial rest, ?_⟩
    show some (f (g b), rest) = some (b, rest)
    rw [hfg b hb]
  put_get := by
    intro bytes b rest hget
    obtain ⟨a, mid, hfirst, hdone⟩ := bind_eq_some.mp hget
    obtain ⟨rfl, rfl⟩ : f a = b ∧ mid = rest := Prod.mk.inj (Option.some.inj hdone)
    obtain ⟨-, hle, hrest, htake⟩ := law.normal.put_get hfirst
    refine ⟨hQ a, hle, hrest, ?_⟩
    rw [id_eq] at htake
    rw [← htake, hnorm]
  frame := by
    intro bytes hle rest
    show (get (bytes ++ rest)).bind (fun out => some (f out.1, out.2)) =
      ((get bytes).bind (fun out => some (f out.1, out.2))).map _
    rw [law.normal.frame hle]
    cases get bytes <;> rfl

theorem normal_enum [DecidableEq α] {all : List α} (hnodup : all.Nodup) (hsize : all.length ≤ 256) :
    Normal (· ∈ all) 1 id (putEnum all) (getEnum all) where
  get_put := by
    intro a ha rest
    have hlt : all.idxOf a < all.length := List.idxOf_lt_length_iff.mpr ha
    have hbyte : (UInt8.ofNat (all.idxOf a)).toNat = all.idxOf a := by
      rw [UInt8.toNat_ofNat']
      omega
    have hat : all[(UInt8.ofNat (all.idxOf a)).toNat]? = some a := by
      rw [hbyte, List.getElem?_eq_getElem hlt, List.getElem_idxOf hlt]
    show ((match all[(UInt8.ofNat (all.idxOf a)).toNat]? with
      | some a => pure a
      | none => failure : Reader α) rest) = some (a, rest)
    rw [hat]
    rfl
  put_get := by
    intro bytes a rest hget
    cases bytes with
    | nil => cases hget
    | cons v tail =>
      have hread : ((match all[v.toNat]? with
        | some a => pure a
        | none => failure : Reader α) tail) = some (a, rest) := hget
      cases hat : all[v.toNat]? with
      | none =>
        rw [hat] at hread
        cases hread
      | some b =>
        rw [hat] at hread
        obtain ⟨rfl, rfl⟩ : b = a ∧ tail = rest := Prod.mk.inj (Option.some.inj hread)
        obtain ⟨hlt, hb⟩ := List.getElem?_eq_some_iff.mp hat
        have hidx : all.idxOf b = v.toNat := by
          rw [← hb]
          exact hnodup.idxOf_getElem _ hlt
        refine ⟨List.mem_of_getElem hb, Nat.succ_le_succ (Nat.zero_le _), rfl, ?_⟩
        show [UInt8.ofNat (all.idxOf b)] = [v]
        rw [hidx, UInt8.ofNat_toNat]
  frame := by
    intro bytes hle rest
    cases bytes with
    | nil => cases hle
    | cons v tail =>
      show ((match all[v.toNat]? with
        | some a => pure a
        | none => failure : Reader α) (tail ++ rest)) = Option.map _ ((match all[v.toNat]? with
        | some a => pure a
        | none => failure : Reader α) tail)
      cases all[v.toNat]? <;> rfl

theorem normal_enum_all [DecidableEq α] {all : List α} (hnodup : all.Nodup)
    (hsize : all.length ≤ 256) (hall : ∀ a, a ∈ all) :
    Normal (fun _ => True) 1 id (putEnum all) (getEnum all) := by
  have law := normal_enum hnodup hsize
  have htrue : (· ∈ all) = fun _ => True := funext fun a => eq_true (hall a)
  rwa [htrue] at law

theorem Normal.of_norm {put : α → List UInt8} {get : Reader α} (law : Normal P n norm put get)
    (hnorm : ∀ bytes, norm bytes = norm' bytes) : Normal P n norm' put get := funext hnorm ▸ law

theorem Normal.pure {a : α} (hP : ∀ b, P b ↔ b = a) : Normal P 0 id (fun _ => []) (pure a) :=
  (Law.pure hP).normal

theorem Normal.bind {F : α → Prop} {Q : β → Prop} {putField : α → List UInt8} {getField : Reader α}
    {put : β → List UInt8} {next : α → Reader β} (hfield : Normal F n norm putField getField)
    (field : β → α) (hF : ∀ b, Q b → F (field b))
    (hnext : ∀ a, F a → Normal (fun b => Q b ∧ field b = a) m norm' put (next a)) :
    Normal Q (n + m) (fun bytes => norm (bytes.take n) ++ norm' (bytes.drop n))
      (fun b => putField (field b) ++ put b) (getField >>= next) where
  get_put := by
    intro b hQ rest
    rw [bind_eq_some]
    refine ⟨field b, put b ++ rest, ?_, (hnext (field b) (hF b hQ)).get_put ⟨hQ, rfl⟩ rest⟩
    rw [List.append_assoc]
    exact hfield.get_put (hF b hQ) _
  put_get := by
    intro bytes b rest hget
    obtain ⟨a, mid, hfirst, hsecond⟩ := bind_eq_some.mp hget
    obtain ⟨ha, hle, rfl, hput⟩ := hfield.put_get hfirst
    obtain ⟨⟨hQ, rfl⟩, hle', rfl, hput'⟩ := (hnext a ha).put_get hsecond
    rw [List.length_drop] at hle'
    refine ⟨hQ, by omega, List.drop_drop, ?_⟩
    rw [hput, hput', List.take_take, List.drop_take, Nat.min_eq_left (Nat.le_add_right n m),
      Nat.add_sub_cancel_left]
  frame := by
    intro bytes hle rest
    show (getField (bytes ++ rest)).bind (fun out => next out.1 out.2) =
      ((getField bytes).bind (fun out => next out.1 out.2)).map _
    rw [hfield.frame (Nat.le_trans (Nat.le_add_right n m) hle)]
    cases hfirst : getField bytes with
    | none => rfl
    | some out =>
      obtain ⟨a, mid⟩ := out
      obtain ⟨ha, -, rfl, -⟩ := hfield.put_get hfirst
      refine (hnext a ha).frame ?_ rest
      rw [List.length_drop]
      omega

/-- The last field: with it, everything is fixed. -/
theorem Normal.last {F : α → Prop} {Q : β → Prop} {putField : α → List UInt8}
    {getField : Reader α} {make : α → β} (hfield : Normal F n norm putField getField)
    (field : β → α) (hF : ∀ b, Q b → F (field b))
    (hmake : ∀ a, F a → ∀ b, Q b ∧ field b = a ↔ b = make a) :
    Normal Q n norm (fun b => putField (field b)) (getField >>= fun a => Pure.pure (make a)) := by
  have law := hfield.bind field hF fun a ha => Normal.pure (hmake a ha)
  refine ⟨fun {b} hQ rest => ?_, fun {bytes b rest} hget => ?_, law.frame⟩
  · have hback := law.get_put hQ rest
    rw [List.append_nil] at hback
    exact hback
  · obtain ⟨hQ, hle, hrest, hput⟩ := law.put_get hget
    rw [List.append_nil, List.take_take, Nat.min_eq_left (Nat.le_add_right n 0), id_eq, Nat.add_zero,
      List.drop_take_self, List.append_nil] at hput
    exact ⟨hQ, hle, hrest, hput⟩

/-- The normal form of an array whose entries take `m` bytes. -/
def normVector (norm : List UInt8 → List UInt8) (m : Nat) : Nat → List UInt8 → List UInt8
  | 0 => id
  | n + 1 => fun bytes => normVector norm m n (bytes.take (n * m)) ++ norm (bytes.drop (n * m))

theorem normVector_id (m n : Nat) (bytes : List UInt8) : normVector id m n bytes = bytes := by
  induction n generalizing bytes with
  | zero => rfl
  | succ n ih =>
    unfold normVector
    rw [ih]
    exact List.take_append_drop ..

theorem normVector_eq (norm : List UInt8 → List UInt8) {bytes : List UInt8} :
    ∀ {n}, bytes.length = n * m → normVector norm m n bytes =
      (List.range n).flatMap fun i => norm (window bytes (i * m) m) := by
  intro n
  induction n generalizing bytes with
  | zero =>
    intro hlen
    rw [Nat.zero_mul] at hlen
    exact List.length_eq_zero_iff.mp hlen
  | succ n ih =>
    intro hlen
    have hprod : (n + 1) * m = n * m + m := Nat.succ_mul n m
    have htake : (bytes.take (n * m)).length = n * m := by
      rw [List.length_take]
      omega
    have hlast : bytes.drop (n * m) = window bytes (n * m) m := by
      unfold window
      rw [List.take_of_length_le]
      rw [List.length_drop]
      omega
    unfold normVector
    rw [ih htake, List.range_succ, List.flatMap_append, List.flatMap_singleton, hlast]
    congr 1
    refine List.flatMap_congr fun i hi => ?_
    have hle : i * m + m ≤ n * m := by
      rw [← Nat.succ_mul]
      exact Nat.mul_le_mul_right m (List.mem_range.mp hi)
    unfold window
    rw [List.drop_take, List.take_take, Nat.min_eq_left (by omega)]

theorem Normal.vector {put : α → List UInt8} {get : Reader α} (law : Normal P m norm put get) :
    ∀ n, Normal (fun entries : Vector α n => ∀ a ∈ entries, P a) (n * m) (normVector norm m n)
      (putVector put) (getVector get n)
  | 0 => by
    rw [putVector_zero, Nat.zero_mul]
    refine Normal.pure fun entries => ?_
    obtain rfl : entries = #v[] := Vector.eq_empty
    exact ⟨fun _ => rfl, nofun⟩
  | n + 1 => by
    have hmem (all : Vector α (n + 1)) (hall : ∀ a ∈ all, P a) :
        (∀ a ∈ all.pop, P a) ∧ P all.back := by
      rw [← Vector.push_pop_back all] at hall
      exact ⟨fun a ha => hall a (Vector.mem_push.mpr (.inl ha)),
        hall all.back (Vector.mem_push.mpr (.inr rfl))⟩
    rw [putVector_push, Nat.succ_mul]
    refine (law.vector n).bind (fun all : Vector α (n + 1) => all.pop)
      (fun all hall => (hmem all hall).1) fun entries hentries =>
        law.last Vector.back (fun all hall => (hmem all hall.1).2) fun last hlast all => ?_
    constructor
    · rintro ⟨⟨-, rfl⟩, rfl⟩
      exact (Vector.push_pop_back all).symm
    · rintro rfl
      refine ⟨⟨fun a ha => ?_, Vector.pop_push⟩,
        Vector.back_eq_of_push_eq (Vector.push_pop_back _)⟩
      rcases Vector.mem_push.mp ha with ha | rfl
      · exact hentries a ha
      · exact hlast

/-! ## Writers whose values end themselves -/

def putBool (v : Bool) : List UInt8 := [if v then 1 else 0]

/-- The value that was written, and what follows it, can be told from the bytes. -/
def Delimited (put : α → List UInt8) : Prop :=
  ∀ ⦃a b : α⦄ ⦃s t : List UInt8⦄, put a ++ s = put b ++ t → a = b ∧ s = t

theorem Delimited.append_iff {put : α → List UInt8} (hput : Delimited put) {a b : α}
    {s t : List UInt8} : put a ++ s = put b ++ t ↔ a = b ∧ s = t := by
  constructor
  · exact fun heq => hput heq
  · rintro ⟨rfl, rfl⟩
    rfl

theorem Law.delimited {put : α → List UInt8} {get : Reader α} (law : Law (fun _ => True) n put get) :
    Delimited put := by
  intro a b s t heq
  have ha := law.get_put trivial s (a := a)
  rw [heq, law.get_put trivial t, Option.some.injEq, Prod.mk.injEq] at ha
  exact ⟨ha.1.symm, ha.2.symm⟩

theorem delimited_bool : Delimited putBool := by
  intro a b s t heq
  obtain ⟨hab, hst⟩ := List.cons.inj heq
  refine ⟨?_, hst⟩
  revert hab
  cases a <;> cases b <;> simp

theorem delimited_enum [DecidableEq α] {all : List α} (hall : ∀ a, a ∈ all)
    (hsize : all.length ≤ 256) : Delimited (putEnum all) := by
  intro a b s t heq
  obtain ⟨hab, hst⟩ := List.cons.inj heq
  have hlt (c : α) : all.idxOf c < 256 :=
    Nat.lt_of_lt_of_le (List.idxOf_lt_length_iff.mpr (hall c)) hsize
  have hidx := congrArg UInt8.toNat hab
  rw [UInt8.toNat_ofNat', UInt8.toNat_ofNat', Nat.mod_eq_of_lt (hlt a), Nat.mod_eq_of_lt (hlt b)]
    at hidx
  exact ⟨(List.idxOf_inj (hall a)).mp hidx, hst⟩

theorem Delimited.list {put : α → List UInt8} (hput : Delimited put) {l l' : List α}
    {s t : List UInt8} (hlen : l.length = l'.length)
    (heq : l.flatMap put ++ s = l'.flatMap put ++ t) : l = l' ∧ s = t := by
  induction l generalizing l' with
  | nil =>
    obtain rfl := List.length_eq_zero_iff.mp hlen.symm
    exact ⟨rfl, heq⟩
  | cons a l ih =>
    cases l' with
    | nil => cases hlen
    | cons b l' =>
      rw [List.flatMap_cons, List.flatMap_cons, List.append_assoc, List.append_assoc] at heq
      obtain ⟨rfl, heq'⟩ := hput heq
      obtain ⟨rfl, hst⟩ := ih (Nat.succ.inj hlen) heq'
      exact ⟨rfl, hst⟩

theorem Delimited.vector {put : α → List UInt8} (hput : Delimited put) :
    Delimited (putVector put (n := n)) := by
  intro a b s t heq
  obtain ⟨hab, hst⟩ := hput.list (by simp) heq
  exact ⟨Vector.toList_inj.mp hab, hst⟩

end Codec
