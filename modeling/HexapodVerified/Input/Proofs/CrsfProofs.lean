import HexapodVerified.Input.CrsfParser
import HexapodVerified.Lib.BitFields
import HexapodVerified.Lib.SyncFrames
import Mathlib.Data.List.GetD

/-!
# What the parser decodes

The parser is a scanner for frames behind a sync byte: its buffer holds the open frame, and a push that
completes a frame decides on the whole of it. The channels of a frame are the 11-bit fields of its
payload.
-/

namespace HexapodVerified.Input.Crsf

open BitFields SyncFrames

namespace Parser

variable {d : List UInt8} {u : Unpacking} {fuel : Nat}

/-- Behind `byte_idx` bytes and `ch` channels: the bits that are left, and the channels taken. -/
structure Unpacking.Holds (d : List UInt8) (u : Unpacking) : Prop where
  bits : u.bits.toNat = value (d.take u.byte_idx) / 2 ^ (11 * u.ch)
  avail : 11 * u.ch + u.bits_avail = 8 * u.byte_idx
  few : u.bits_avail < 19
  ch_le : u.ch ≤ kNumChannels
  channels : ∀ i (h : i < kNumChannels), i < u.ch → (u.channels[i]).toNat = field 11 i (value d)

theorem Unpacking.holds_start : Unpacking.Holds d {} := by
  refine ⟨?_, rfl, by decide, Nat.zero_le _, fun _ _ h => absurd h (Nat.not_lt_zero _)⟩
  show 0 = value [] / 2 ^ (11 * 0)
  rfl

theorem Unpacking.Holds.add (h : u.Holds d) (hd : 22 ≤ d.length) (hch : u.ch < kNumChannels)
    (hfew : u.bits_avail < 11) : (u.next d).Holds d := by
  have havail := h.avail
  have hch16 : u.ch < 16 := hch
  have hidx : u.byte_idx < d.length := by omega
  have hbits : u.bits.toNat < 2 ^ u.bits_avail := by
    rw [h.bits, Nat.div_lt_iff_lt_mul (Nat.two_pow_pos _), ← Nat.pow_add, Nat.add_comm, h.avail]
    have hlt := @value_lt (d.take u.byte_idx)
    rw [List.length_take, Nat.min_eq_left (Nat.le_of_lt hidx)] at hlt
    exact hlt
  have hnext : u.next d = { u with
      bits := u.bits ||| ((d.getD u.byte_idx 0).toUInt32 <<< UInt32.ofNat u.bits_avail)
      byte_idx := u.byte_idx + 1
      bits_avail := u.bits_avail + 8 } := if_pos hfew
  have hget : d.getD u.byte_idx 0 = d[u.byte_idx] := by
    rw [List.getD_eq_getElem?_getD, List.getElem?_eq_getElem hidx, Option.getD_some]
  rw [hnext]
  refine ⟨?_, ?_, ?_, h.ch_le, h.channels⟩
  · show (u.bits ||| ((d.getD u.byte_idx 0).toUInt32 <<< UInt32.ofNat u.bits_avail)).toNat =
      value (d.take (u.byte_idx + 1)) / 2 ^ (11 * u.ch)
    have hbyte := (d[u.byte_idx]).toNat_lt
    have hsmall : (d[u.byte_idx]).toNat * 2 ^ u.bits_avail < 2 ^ 32 := by
      have hpow : 2 ^ u.bits_avail ≤ 2 ^ 10 := Nat.pow_le_pow_right (by decide) (by omega)
      calc (d[u.byte_idx]).toNat * 2 ^ u.bits_avail ≤ 255 * 2 ^ 10 := Nat.mul_le_mul (by omega) hpow
        _ < 2 ^ 32 := by decide
    have hshift : ((d[u.byte_idx]).toUInt32 <<< UInt32.ofNat u.bits_avail).toNat =
        (d[u.byte_idx]).toNat <<< u.bits_avail := by
      rw [UInt32.toNat_shiftLeft, UInt8.toNat_toUInt32, UInt32.toNat_ofNat',
        Nat.mod_eq_of_lt (show u.bits_avail < 2 ^ 32 by omega),
        Nat.mod_eq_of_lt (show u.bits_avail < 32 by omega), Nat.shiftLeft_eq,
        Nat.mod_eq_of_lt hsmall]
    have hsplit : 2 ^ (8 * u.byte_idx) = 2 ^ (11 * u.ch) * 2 ^ u.bits_avail := by
      rw [← Nat.pow_add, havail]
    rw [hget, UInt32.toNat_or, hshift, or_shiftLeft _ hbits, value_take_succ hidx, hsplit,
      Nat.mul_assoc, Nat.add_mul_div_left _ _ (Nat.two_pow_pos _), ← h.bits]
  · show 11 * u.ch + (u.bits_avail + 8) = 8 * (u.byte_idx + 1)
    omega
  · show u.bits_avail + 8 < 19
    omega

theorem Unpacking.Holds.take (h : u.Holds d) (hd : 22 ≤ d.length) (hch : u.ch < kNumChannels)
    (henough : ¬u.bits_avail < 11) : (u.next d).Holds d := by
  have havail := h.avail
  have hfew := h.few
  have hch16 : u.ch < 16 := hch
  have hidx : u.byte_idx ≤ d.length := by omega
  have hnext : u.next d = { u with
      channels := u.channels.setIfInBounds u.ch (u.bits &&& 0x7FF).toUInt16
      ch := u.ch + 1
      bits := u.bits >>> 11
      bits_avail := u.bits_avail - 11 } := if_neg henough
  -- the channel lies in the bytes that were read
  have hfield : (u.bits &&& 0x7FF).toUInt16.toNat = field 11 u.ch (value d) := by
    have hmask : (u.bits &&& 0x7FF).toNat = u.bits.toNat % 2 ^ 11 := by
      rw [UInt32.toNat_and]
      exact Nat.and_two_pow_sub_one_eq_mod _ 11
    have hlt := Nat.mod_lt u.bits.toNat (Nat.two_pow_pos 11)
    have hprefix : field 11 u.ch (value (d.take u.byte_idx)) = field 11 u.ch (value d) := by
      have happend := @field_append (d.take u.byte_idx) (d.drop u.byte_idx) 11 u.ch (by
        rw [List.length_take, Nat.min_eq_left hidx]
        omega)
      rw [List.take_append_drop] at happend
      exact happend.symm
    rw [UInt32.toNat_toUInt16, hmask, Nat.mod_eq_of_lt (by omega), h.bits, ← hprefix]
    rfl
  rw [hnext]
  refine ⟨?_, ?_, ?_, hch, ?_⟩
  · show (u.bits >>> 11).toNat = value (d.take u.byte_idx) / 2 ^ (11 * (u.ch + 1))
    have hshift : (u.bits >>> 11).toNat = u.bits.toNat >>> 11 := UInt32.toNat_shiftRight u.bits 11
    rw [hshift, Nat.shiftRight_eq_div_pow, h.bits, Nat.div_div_eq_div_mul, ← Nat.pow_add,
      Nat.mul_succ]
  · show 11 * (u.ch + 1) + (u.bits_avail - 11) = 8 * u.byte_idx
    omega
  · show u.bits_avail - 11 < 19
    omega
  · intro i hi hlt
    show ((u.channels.setIfInBounds u.ch (u.bits &&& 0x7FF).toUInt16)[i]).toNat = _
    rw [Vector.getElem_setIfInBounds]
    split_ifs with heq
    · rw [hfield, heq]
    · have hbefore : i < u.ch + 1 := hlt
      exact h.channels i hi (by omega)

theorem unpackLoop_holds (h : u.Holds d) (hd : 22 ≤ d.length)
    (hfuel : u.byte_idx + u.ch + fuel = 38) :
    (unpackLoop d fuel u).Holds d ∧ (unpackLoop d fuel u).ch = kNumChannels := by
  induction fuel generalizing u with
  | zero =>
    have havail := h.avail
    have hfew := h.few
    refine ⟨h, ?_⟩
    show u.ch = 16
    omega
  | succ fuel ih =>
    unfold unpackLoop
    split_ifs with hch
    · by_cases hfew : u.bits_avail < 11
      · have hnext : (u.next d).byte_idx = u.byte_idx + 1 ∧ (u.next d).ch = u.ch := by
          unfold Unpacking.next
          rw [if_pos hfew]
          exact ⟨rfl, rfl⟩
        exact ih (h.add hd hch hfew) (by omega)
      · have hnext : (u.next d).byte_idx = u.byte_idx ∧ (u.next d).ch = u.ch + 1 := by
          unfold Unpacking.next
          rw [if_neg hfew]
          exact ⟨rfl, rfl⟩
        exact ih (h.take hd hch hfew) (by omega)
    · exact ⟨h, Nat.le_antisymm h.ch_le (Nat.not_lt.mp hch)⟩

theorem channelsOf_spec (hd : 22 ≤ d.length) (i : Nat) (h : i < kNumChannels) :
    ((channelsOf d)[i]).toNat = field 11 i (value d) := by
  obtain ⟨hholds, hall⟩ := @unpackLoop_holds d {} (kRcPayloadBytes.toNat + kNumChannels)
    Unpacking.holds_start hd rfl
  exact hholds.channels i h (by rw [hall]; exact h)

theorem channelsOf_append {rest : List UInt8} (hd : 22 ≤ d.length) :
    channelsOf (d ++ rest) = channelsOf d := by
  refine Vector.ext fun i hi => ?_
  rw [← UInt16.toNat_inj, channelsOf_spec hd, channelsOf_spec (by rw [List.length_append]; omega)]
  have hi16 : i < 16 := hi
  exact field_append (by omega)

end Parser

def format : Format where
  sync := kSyncByte
  accepts := fun len => !decide (len < 2 ∨ len > kMaxFrameLen - 2)
  accepts_pos := by
    intro len h
    rw [Bool.not_eq_true', decide_eq_false_iff_not, not_or, UInt8.not_lt, UInt8.le_iff_toNat_le] at h
    exact h.1

theorem accepts_iff {len : UInt8} : format.accepts len ↔ ¬(len < 2 ∨ len > kMaxFrameLen - 2) := by
  show (!decide _) = true ↔ _
  rw [Bool.not_eq_true', decide_eq_false_iff_not]

theorem accepts_le {len : UInt8} (h : format.accepts len) : len.toNat ≤ 62 := by
  have hle := (not_or.mp (accepts_iff.mp h)).2
  rw [gt_iff_lt, UInt8.not_lt, UInt8.le_iff_toNat_le] at hle
  exact hle

/-- What the CRC covers: type and payload. -/
def content (frame : List UInt8) : List UInt8 := (frame.drop 2).dropLast

def Corrupt (frame : List UInt8) : Prop := crc8 (content frame) ≠ frame.getD (frame.length - 1) 0

structure Rc (frame : List UInt8) : Prop where
  intact : ¬Corrupt frame
  type : frame.getD 2 0 = kFrameTypeRcChannels
  length : frame.length = 26

instance (frame : List UInt8) : Decidable (Corrupt frame) := inferInstanceAs (Decidable (_ ≠ _))

instance (frame : List UInt8) : Decidable (Rc frame) :=
  decidable_of_iff (¬Corrupt frame ∧ frame.getD 2 0 = kFrameTypeRcChannels ∧ frame.length = 26)
    ⟨fun h => ⟨h.1, h.2.1, h.2.2⟩, fun h => ⟨h.intact, h.type, h.length⟩⟩

def decoded (frame : List UInt8) : Option Channels :=
  if Rc frame then some (Parser.channelsOf (frame.drop 3)) else none

/-! ## The parser scans -/

namespace Parser

variable {p : Parser} {pending : List UInt8} {byte : UInt8}

inductive Represents : Parser → List UInt8 → Prop where
  | rest {p : Parser} (hstate : p.state = .sync) : Represents p []
  | sync {p : Parser} (hstate : p.state = .length) (hbuf : p.buf.toList.take 1 = [kSyncByte]) :
    Represents p [kSyncByte]
  | data {p : Parser} {body : List UInt8} (hstate : p.state = .data)
    (haccepts : format.accepts p.frame_len) (hidx : p.idx.toNat = 2 + body.length)
    (hshort : body.length < p.frame_len.toNat)
    (hbuf : p.buf.toList.take (2 + body.length) = kSyncByte :: p.frame_len :: body) :
    Represents p (kSyncByte :: p.frame_len :: body)

theorem take_setIfInBounds {buf : Vector UInt8 kMaxFrameLen.toNat} {held : List UInt8} {n : Nat}
    (hbuf : buf.toList.take n = held) (hn : n < 64) :
    (buf.setIfInBounds n byte).toList.take (n + 1) = held ++ [byte] := by
  have hlen : buf.toList.length = 64 := Vector.length_toList
  have hheld : held.length = n := by
    rw [← hbuf, List.length_take]
    omega
  rw [Vector.toList_setIfInBounds, List.take_set, List.take_succ_eq_append_getElem (by omega), hbuf,
    List.set_append_right _ _ (Nat.le_of_eq hheld), hheld, Nat.sub_self, List.set_cons_zero]

/-- The end of a frame: what it returns and what it counts. -/
theorem finishFrame_spec {body : List UInt8} (haccepts : format.accepts p.frame_len)
    (hlength : body.length = p.frame_len.toNat)
    (hbuf : p.buf.toList.take (2 + body.length) = kSyncByte :: p.frame_len :: body) :
    p.finishFrame.1.state = .sync ∧
      p.finishFrame.2 = decoded (kSyncByte :: p.frame_len :: body) ∧
      p.finishFrame.1.frames_decoded = p.frames_decoded +
        (if Rc (kSyncByte :: p.frame_len :: body) then 1 else 0) ∧
      p.finishFrame.1.crc_errors = p.crc_errors +
        (if Corrupt (kSyncByte :: p.frame_len :: body) then 1 else 0) := by
  have hpos := format.accepts_pos _ haccepts
  obtain ⟨rest, hwhole⟩ : ∃ rest, p.buf.toList = (kSyncByte :: p.frame_len :: body) ++ rest :=
    ⟨p.buf.toList.drop (2 + body.length), by rw [← hbuf, List.take_append_drop]⟩
  have hone : (1 : UInt8).toNat = 1 := rfl
  have hpred : (p.frame_len - 1).toNat = body.length - 1 := by
    rw [UInt8.toNat_sub_of_le _ _ (by rw [UInt8.le_iff_toNat_le, hone]; omega), hone, hlength]
  have hcontent : Bytes.window p.buf.toList 2 (p.frame_len - 1).toNat =
      content (kSyncByte :: p.frame_len :: body) := by
    unfold Bytes.window content
    rw [hpred, hwhole, List.dropLast_eq_take]
    exact List.take_append_of_le_length (Nat.sub_le _ _)
  have hget : ∀ i, i < 2 + body.length → p.buf.toList.getD i 0 =
      (kSyncByte :: p.frame_len :: body).getD i 0 := by
    intro i hi
    rw [hwhole, List.getD_append _ _ _ _ (by rw [List.length_cons, List.length_cons]; omega)]
  have hlast : p.buf.toList.getD (2 + p.frame_len.toNat - 1) 0 =
      (kSyncByte :: p.frame_len :: body).getD ((kSyncByte :: p.frame_len :: body).length - 1) 0 := by
    rw [hget _ (by omega), List.length_cons, List.length_cons, hlength]
    congr 1
    omega
  have htype := hget 2 (by omega)
  have hsize : p.frame_len = kRcPayloadBytes + 2 ↔
      (kSyncByte :: p.frame_len :: body).length = 26 := by
    rw [← UInt8.toNat_inj, List.length_cons, List.length_cons, hlength]
    show p.frame_len.toNat = 24 ↔ _
    omega
  unfold finishFrame decoded
  dsimp only
  rw [hcontent, hlast, htype]
  by_cases hcrc : crc8 (content (kSyncByte :: p.frame_len :: body)) ≠
      (kSyncByte :: p.frame_len :: body).getD ((kSyncByte :: p.frame_len :: body).length - 1) 0
  · have hcorrupt : Corrupt (kSyncByte :: p.frame_len :: body) := hcrc
    have hrc : ¬Rc (kSyncByte :: p.frame_len :: body) := fun h => h.intact hcorrupt
    rw [if_pos hcrc, if_neg hrc, if_neg hrc, if_pos hcorrupt]
    exact ⟨rfl, rfl, (UInt32.add_zero _).symm, rfl⟩
  · have hcorrupt : ¬Corrupt (kSyncByte :: p.frame_len :: body) := hcrc
    rw [if_neg hcrc, if_neg hcorrupt]
    by_cases hother : (kSyncByte :: p.frame_len :: body).getD 2 0 ≠ kFrameTypeRcChannels ∨
        p.frame_len ≠ kRcPayloadBytes + 2
    · have hrc : ¬Rc (kSyncByte :: p.frame_len :: body) := by
        intro h
        rcases hother with htyp | hlen
        · exact htyp h.type
        · exact hlen (hsize.mpr h.length)
      rw [if_pos hother, if_neg hrc, if_neg hrc]
      split_ifs
      · exact ⟨rfl, rfl, (UInt32.add_zero _).symm, (UInt32.add_zero _).symm⟩
      · exact ⟨rfl, rfl, (UInt32.add_zero _).symm, (UInt32.add_zero _).symm⟩
    · have hrc : Rc (kSyncByte :: p.frame_len :: body) := by
        rw [not_or, not_not, not_not] at hother
        exact ⟨hcorrupt, hother.1, hsize.mp hother.2⟩
      rw [if_neg hother, if_pos hrc, if_pos hrc]
      refine ⟨rfl, ?_, rfl, (UInt32.add_zero _).symm⟩
      unfold unpackChannels
      have hlen := hrc.length
      rw [hwhole, List.drop_append_of_le_length (by omega),
        channelsOf_append (by rw [List.length_drop]; omega)]

/-- How many frames with channels, and how many corrupt ones, a push completes. -/
def rcCount (completed : Option (List UInt8)) : Nat :=
  if ∃ frame ∈ completed, Rc frame then 1 else 0

def corruptCount (completed : Option (List UInt8)) : Nat :=
  if ∃ frame ∈ completed, Corrupt frame then 1 else 0

structure Steps (p : Parser) (pending : List UInt8) (byte : UInt8) : Prop where
  represents : Represents (p.push byte).1 (step format pending byte).1
  result : (p.push byte).2 = (step format pending byte).2.bind decoded
  frames_decoded : (p.push byte).1.frames_decoded =
    p.frames_decoded + UInt32.ofNat (rcCount (step format pending byte).2)
  crc_errors : (p.push byte).1.crc_errors =
    p.crc_errors + UInt32.ofNat (corruptCount (step format pending byte).2)

theorem rcCount_none : rcCount none = 0 := by
  refine if_neg ?_
  rintro ⟨frame, hmem, -⟩
  cases hmem

theorem corruptCount_none : corruptCount none = 0 := by
  refine if_neg ?_
  rintro ⟨frame, hmem, -⟩
  cases hmem

theorem rcCount_some {frame : List UInt8} : rcCount (some frame) = if Rc frame then 1 else 0 := by
  unfold rcCount
  simp only [Option.mem_def, Option.some.injEq, exists_eq_left']

theorem corruptCount_some {frame : List UInt8} :
    corruptCount (some frame) = if Corrupt frame then 1 else 0 := by
  unfold corruptCount
  simp only [Option.mem_def, Option.some.injEq, exists_eq_left']

theorem Steps.of_none {next : List UInt8} (hstep : step format pending byte = (next, none))
    (hpush : (p.push byte).2 = none) (hframes : (p.push byte).1.frames_decoded = p.frames_decoded)
    (herrors : (p.push byte).1.crc_errors = p.crc_errors) (h : Represents (p.push byte).1 next) :
    Steps p pending byte := by
  refine ⟨?_, ?_, ?_, ?_⟩
  · rw [hstep]
    exact h
  · rw [hstep, hpush]
    rfl
  · rw [hstep, hframes, rcCount_none]
    exact (UInt32.add_zero _).symm
  · rw [hstep, herrors, corruptCount_none]
    exact (UInt32.add_zero _).symm

theorem steps_rest (hstate : p.state = .sync) : Steps p [] byte := by
  by_cases hsync : byte = kSyncByte
  · have hpush : p.push byte =
        ({ p with buf := p.buf.setIfInBounds 0 byte, idx := 1, state := .length }, none) := by
      unfold push
      rw [hstate]
      exact if_pos hsync
    refine .of_none (if_pos hsync) ?_ ?_ ?_ ?_
    · rw [hpush]
    · rw [hpush]
    · rw [hpush]
    · rw [hpush, hsync]
      exact .sync rfl (@take_setIfInBounds kSyncByte p.buf [] 0 rfl (by decide))
  · have hpush : p.push byte = (p, none) := by
      unfold push
      rw [hstate]
      exact if_neg hsync
    refine .of_none (if_neg hsync) ?_ ?_ ?_ ?_
    · rw [hpush]
    · rw [hpush]
    · rw [hpush]
    · rw [hpush]
      exact .rest hstate

theorem steps_sync (hstate : p.state = .length) (hbuf : p.buf.toList.take 1 = [kSyncByte]) :
    Steps p [kSyncByte] byte := by
  by_cases hbad : byte < 2 ∨ byte > kMaxFrameLen - 2
  · have hpush : p.push byte = ({ p with state := .sync }, none) := by
      unfold push
      rw [hstate]
      exact if_pos hbad
    have hstep : step format [kSyncByte] byte = ([], none) :=
      if_neg (accepts_iff.not.mpr (not_not.mpr hbad))
    refine .of_none hstep ?_ ?_ ?_ ?_
    · rw [hpush]
    · rw [hpush]
    · rw [hpush]
    · rw [hpush]
      exact .rest rfl
  · have haccepts : format.accepts byte := accepts_iff.mpr hbad
    have hpos := format.accepts_pos _ haccepts
    have hpush : p.push byte = ({ p with
        frame_len := byte
        buf := p.buf.setIfInBounds 1 byte
        idx := 2
        state := .data }, none) := by
      unfold push
      rw [hstate]
      exact if_neg hbad
    have hstep : step format [kSyncByte] byte = ([kSyncByte, byte], none) := if_pos haccepts
    refine .of_none hstep ?_ ?_ ?_ ?_
    · rw [hpush]
    · rw [hpush]
    · rw [hpush]
    · rw [hpush]
      refine @Represents.data { p with
        frame_len := byte
        buf := p.buf.setIfInBounds 1 byte
        idx := 2
        state := .data } [] rfl haccepts rfl ?_ ?_
      · show 0 < byte.toNat
        omega
      · exact take_setIfInBounds hbuf (by decide)

theorem steps_data {body : List UInt8} (hstate : p.state = .data)
    (haccepts : format.accepts p.frame_len) (hidx : p.idx.toNat = 2 + body.length)
    (hshort : body.length < p.frame_len.toNat)
    (hbuf : p.buf.toList.take (2 + body.length) = kSyncByte :: p.frame_len :: body) :
    Steps p (kSyncByte :: p.frame_len :: body) byte := by
  have hmax := accepts_le haccepts
  have hone : (1 : UInt8).toNat = 1 := rfl
  have htwo : (2 : UInt8).toNat = 2 := rfl
  have hnext : (p.idx + 1).toNat = 2 + (body ++ [byte]).length := by
    rw [UInt8.toNat_add, hone, hidx, List.length_append, List.length_singleton,
      Nat.mod_eq_of_lt (by omega), Nat.add_assoc]
  have hend : (2 + p.frame_len).toNat = 2 + p.frame_len.toNat := by
    rw [UInt8.toNat_add, htwo, Nat.mod_eq_of_lt (by omega)]
  have hlen : (body ++ [byte]).length = body.length + 1 := by
    rw [List.length_append, List.length_singleton]
  have hheld : (p.buf.setIfInBounds p.idx.toNat byte).toList.take (2 + (body ++ [byte]).length) =
      kSyncByte :: p.frame_len :: (body ++ [byte]) := by
    rw [hlen, hidx]
    exact take_setIfInBounds hbuf (by omega)
  have hlater : p.idx + 1 < 2 + p.frame_len ↔ body.length + 1 < p.frame_len.toNat := by
    rw [UInt8.lt_iff_toNat_lt, hnext, hend, hlen]
    omega
  by_cases hshorter : body.length + 1 < p.frame_len.toNat
  · have hpush : p.push byte =
        ({ p with buf := p.buf.setIfInBounds p.idx.toNat byte, idx := p.idx + 1 }, none) := by
      unfold push
      rw [hstate]
      exact if_pos (hlater.mpr hshorter)
    have hstep : step format (kSyncByte :: p.frame_len :: body) byte =
        (kSyncByte :: p.frame_len :: (body ++ [byte]), none) := if_pos hshorter
    refine .of_none hstep ?_ ?_ ?_ ?_
    · rw [hpush]
    · rw [hpush]
    · rw [hpush]
    · rw [hpush]
      exact @Represents.data
        { p with buf := p.buf.setIfInBounds p.idx.toNat byte, idx := p.idx + 1 } (body ++ [byte])
        hstate haccepts hnext (by rw [hlen]; exact hshorter) hheld
  · have hpush : p.push byte = finishFrame
        { p with buf := p.buf.setIfInBounds p.idx.toNat byte, idx := p.idx + 1 } := by
      unfold push
      rw [hstate]
      exact if_neg (hlater.not.mpr hshorter)
    have hstep : step format (kSyncByte :: p.frame_len :: body) byte =
        ([], some (kSyncByte :: p.frame_len :: (body ++ [byte]))) := if_neg hshorter
    obtain ⟨hsync, hresult, hframes, herrors⟩ := @finishFrame_spec
      { p with buf := p.buf.setIfInBounds p.idx.toNat byte, idx := p.idx + 1 } (body ++ [byte])
      haccepts (by rw [hlen]; dsimp only; omega) hheld
    refine ⟨?_, ?_, ?_, ?_⟩
    · rw [hstep, hpush]
      exact .rest hsync
    · rw [hstep, hpush]
      exact hresult
    · rw [hstep, hpush, rcCount_some, hframes]
      split_ifs <;> rfl
    · rw [hstep, hpush, corruptCount_some, herrors]
      split_ifs <;> rfl

theorem Represents.steps (h : Represents p pending) : Steps p pending byte := by
  cases h with
  | rest hstate => exact steps_rest hstate
  | sync hstate hbuf => exact steps_sync hstate hbuf
  | data hstate haccepts hidx hshort hbuf => exact steps_data hstate haccepts hidx hshort hbuf

variable {bytes rest : List UInt8}

theorem pushAll_cons : p.pushAll (byte :: bytes) =
    (((p.push byte).1.pushAll bytes).1, (p.push byte).2 :: ((p.push byte).1.pushAll bytes).2) := rfl

/-- What the parser returns and counts over a string is what the scanner completes. -/
structure Scans (p : Parser) (pending bytes : List UInt8) : Prop where
  represents : Represents (p.pushAll bytes).1 (feed format pending bytes).1
  results : (p.pushAll bytes).2 = (feed format pending bytes).2.map (·.bind decoded)
  frames_decoded : (p.pushAll bytes).1.frames_decoded = p.frames_decoded +
    UInt32.ofNat ((feed format pending bytes).2.map rcCount).sum
  crc_errors : (p.pushAll bytes).1.crc_errors = p.crc_errors +
    UInt32.ofNat ((feed format pending bytes).2.map corruptCount).sum

theorem Represents.scans (h : Represents p pending) : Scans p pending bytes := by
  induction bytes generalizing p pending with
  | nil => exact ⟨h, rfl, (UInt32.add_zero _).symm, (UInt32.add_zero _).symm⟩
  | cons byte bytes ih =>
    have hstep := @Represents.steps p pending byte h
    have hrest := ih hstep.represents
    refine ⟨?_, ?_, ?_, ?_⟩
    · exact hrest.represents
    · rw [pushAll_cons, feed_cons, List.map_cons, hrest.results, hstep.result]
    · rw [pushAll_cons, feed_cons, List.map_cons, List.sum_cons, UInt32.ofNat_add,
        ← UInt32.add_assoc, ← hstep.frames_decoded]
      exact hrest.frames_decoded
    · rw [pushAll_cons, feed_cons, List.map_cons, List.sum_cons, UInt32.ofNat_add,
        ← UInt32.add_assoc, ← hstep.crc_errors]
      exact hrest.crc_errors

/-- The index stays in the buffer, and is below its end where a byte is written. -/
structure InBuffer (p : Parser) : Prop where
  idx_le : p.idx ≤ kMaxFrameLen
  idx_lt : p.state = .data → p.idx < kMaxFrameLen

theorem finishFrame_idx : p.finishFrame.1.idx = p.idx := by
  unfold finishFrame
  dsimp only
  split_ifs <;> rfl

theorem push_idx_le (h : Represents p pending) (hle : p.idx ≤ kMaxFrameLen) :
    (p.push byte).1.idx ≤ kMaxFrameLen := by
  unfold push
  cases h with
  | rest hstate =>
    rw [hstate]
    dsimp only
    split_ifs
    · show (1 : UInt8) ≤ kMaxFrameLen
      decide
    · exact hle
  | sync hstate hbuf =>
    rw [hstate]
    dsimp only
    split_ifs
    · exact hle
    · show (2 : UInt8) ≤ kMaxFrameLen
      decide
  | data hstate haccepts hidx hshort hbuf =>
    have hmax := accepts_le haccepts
    have hnext : p.idx + 1 ≤ kMaxFrameLen := by
      have hone : (1 : UInt8).toNat = 1 := rfl
      rw [UInt8.le_iff_toNat_le, UInt8.toNat_add, hone, hidx, Nat.mod_eq_of_lt (by omega)]
      show 2 + _ + 1 ≤ 64
      omega
    rw [hstate]
    dsimp only
    split_ifs
    · exact hnext
    · rw [finishFrame_idx]
      exact hnext

theorem Represents.inBuffer (h : Represents p pending) (hle : p.idx ≤ kMaxFrameLen) : p.InBuffer := by
  refine ⟨hle, fun hdata => ?_⟩
  cases h with
  | rest hstate => rw [hstate] at hdata; cases hdata
  | sync hstate hbuf => rw [hstate] at hdata; cases hdata
  | data hstate haccepts hidx hshort hbuf =>
    have hmax := accepts_le haccepts
    rw [UInt8.lt_iff_toNat_lt, hidx]
    show _ < 64
    omega

theorem pushAll_inBuffer (h : Represents p pending) (hle : p.idx ≤ kMaxFrameLen) :
    (p.pushAll bytes).1.InBuffer := by
  induction bytes generalizing p pending with
  | nil => exact h.inBuffer hle
  | cons byte bytes ih => exact ih h.steps.represents (push_idx_le h hle)

end Parser

/-- The frame that carries the channels of `payload`. -/
def rcFrame (payload : List UInt8) : List UInt8 :=
  kSyncByte :: 24 :: kFrameTypeRcChannels ::
    (payload ++ [crc8 (kFrameTypeRcChannels :: payload)])

variable {payload frame : List UInt8}

theorem content_append {type len crc : UInt8} :
    content (kSyncByte :: len :: type :: (payload ++ [crc])) = type :: payload :=
  @List.dropLast_concat _ (type :: payload) crc

theorem getD_last {type len crc : UInt8} :
    (kSyncByte :: len :: type :: (payload ++ [crc])).getD
      ((kSyncByte :: len :: type :: (payload ++ [crc])).length - 1) 0 = crc := by
  rw [show (kSyncByte :: len :: type :: (payload ++ [crc])).length - 1 = payload.length + 3 by
    simp only [List.length_cons, List.length_append, List.length_nil]; omega]
  show (payload ++ [crc]).getD payload.length 0 = crc
  rw [List.getD_append_right _ _ _ _ (Nat.le_refl _), Nat.sub_self]
  rfl

theorem corrupt_iff {type len crc : UInt8} :
    Corrupt (kSyncByte :: len :: type :: (payload ++ [crc])) ↔ crc8 (type :: payload) ≠ crc := by
  unfold Corrupt
  rw [content_append, getD_last]

theorem rc_rcFrame (h : payload.length = 22) : Rc (rcFrame payload) := by
  refine ⟨corrupt_iff.not.mpr (not_not.mpr rfl), rfl, ?_⟩
  unfold rcFrame
  simp only [List.length_cons, List.length_append, List.length_nil, h]

theorem Rc.exists_eq (hrc : Rc frame) (hframe : Frame format frame) :
    ∃ payload, payload.length = 22 ∧ frame = rcFrame payload := by
  cases hframe with
  | @mk len body haccepts hlength =>
    have hlen := hrc.length
    rw [List.length_cons, List.length_cons] at hlen
    have hlen24 : len = 24 := UInt8.toNat_inj.mp (by show _ = 24; omega)
    obtain ⟨type, rest, rfl⟩ := List.exists_cons_of_ne_nil
      (show body ≠ [] by rintro rfl; rw [List.length_nil] at hlen; omega)
    have hrest : rest ≠ [] := by
      rintro rfl
      rw [List.length_cons, List.length_nil] at hlen
      omega
    obtain ⟨payload, crc, rfl⟩ : ∃ payload crc, rest = payload ++ [crc] :=
      ⟨rest.dropLast, rest.getLast hrest, (List.dropLast_concat_getLast hrest).symm⟩
    have htype : type = kFrameTypeRcChannels := hrc.type
    have hcrc := not_not.mp (corrupt_iff.not.mp hrc.intact)
    rw [List.length_cons, List.length_append, List.length_singleton] at hlen
    refine ⟨payload, by omega, ?_⟩
    rw [← hcrc, htype, hlen24]
    rfl

theorem decoded_rcFrame (h : payload.length = 22) :
    decoded (rcFrame payload) = some (Parser.channelsOf payload) := by
  unfold decoded
  rw [if_pos (rc_rcFrame h)]
  exact congrArg some (Parser.channelsOf_append (Nat.le_of_eq h.symm))

/-- What `buildFrame` builds is a frame with the right CRC; it carries channels exactly if it has their
type and length. -/
theorem buildFrame_spec {type : UInt8} {out_capacity : Nat} (hlen : payload.length ≤ 60)
    (hcap : payload.length + 4 ≤ out_capacity) :
    Frame format (buildFrame type payload out_capacity) ∧
      ¬Corrupt (buildFrame type payload out_capacity) ∧
      decoded (buildFrame type payload out_capacity) =
        if type = kFrameTypeRcChannels ∧ payload.length = 22 then
          some (Parser.channelsOf payload) else none := by
  have hlength : (UInt8.ofNat (payload.length + 2)).toNat = payload.length + 2 := by
    rw [UInt8.toNat_ofNat', Nat.mod_eq_of_lt (by omega)]
  have hframe : buildFrame type payload out_capacity =
      kSyncByte :: UInt8.ofNat (payload.length + 2) :: type ::
        (payload ++ [crc8 (type :: payload)]) := by
    refine if_neg ?_
    show ¬(payload.length + 4 > 64 ∨ _)
    omega
  have hintact : ¬Corrupt (buildFrame type payload out_capacity) := by
    rw [hframe, corrupt_iff]
    exact not_not.mpr rfl
  refine ⟨?_, hintact, ?_⟩
  · rw [hframe]
    refine .mk ?_ ?_
    · rw [accepts_iff, not_or, gt_iff_lt, UInt8.not_lt, UInt8.not_lt, UInt8.le_iff_toNat_le,
        UInt8.le_iff_toNat_le, hlength]
      show 2 ≤ payload.length + 2 ∧ payload.length + 2 ≤ 62
      omega
    · rw [hlength, List.length_cons, List.length_append, List.length_singleton]
  · split_ifs with hrc
    · have heq : buildFrame type payload out_capacity = rcFrame payload := by
        rw [hframe, hrc.1, hrc.2]
        rfl
      rw [heq, decoded_rcFrame hrc.2]
    · refine if_neg fun h => hrc ⟨?_, ?_⟩
      · have htype := h.type
        rw [hframe] at htype
        exact htype
      · have hsize := h.length
        rw [hframe] at hsize
        simp only [List.length_cons, List.length_append, List.length_nil] at hsize
        omega

theorem feed_frames {frames : List (List UInt8)} (h : ∀ frame ∈ frames, Frame format frame) :
    feed format [] frames.flatten =
      ([], frames.flatMap fun frame => .replicate (frame.length - 1) none ++ [some frame]) := by
  induction frames with
  | nil => rfl
  | cons frame frames ih =>
    have hrest := ih fun other hmem => h other (List.mem_cons_of_mem _ hmem)
    rw [List.flatten_cons, feed_append, feed_frame (h frame List.mem_cons_self), hrest,
      List.flatMap_cons]

theorem sum_map_flatMap {frames : List (List UInt8)} {count : Option (List UInt8) → Nat}
    {Counts : List UInt8 → Prop} [DecidablePred Counts] (hnone : count none = 0)
    (hsome : ∀ frame, count (some frame) = if Counts frame then 1 else 0) :
    ((frames.flatMap fun frame =>
      List.replicate (frame.length - 1) none ++ [some frame]).map count).sum =
      frames.countP fun frame => decide (Counts frame) := by
  induction frames with
  | nil => rfl
  | cons frame frames ih =>
    rw [List.flatMap_cons, List.map_append, List.map_append, List.map_replicate, hnone,
      List.map_singleton, List.sum_append, List.sum_append, ih, List.sum_replicate_nat,
      List.sum_singleton, hsome, List.countP_cons]
    simp only [Nat.mul_zero, Nat.zero_add, decide_eq_true_eq]
    omega

/-- A push returns channels exactly behind a frame that carries them. From the sync state every string of
frames is parsed frame by frame, and the counters count the frames with channels and the corrupt ones.
The channels are the fields of the payload, and the index stays in the buffer. -/
theorem parser_frames :
    (∀ (p : Parser) (bytes : List UInt8) (i : Nat) (channels : Channels),
      (p.reset.pushAll bytes).2[i]? = some (some channels) →
      ∃ before payload, payload.length = 22 ∧ bytes.take (i + 1) = before ++ rcFrame payload ∧
        channels = Parser.channelsOf payload) ∧
    (∀ (p : Parser) (frames : List (List UInt8)), p.state = .sync →
      (∀ frame ∈ frames, Frame format frame) →
      (p.pushAll frames.flatten).1.state = .sync ∧
      (p.pushAll frames.flatten).2 =
        frames.flatMap (fun frame => .replicate (frame.length - 1) none ++ [decoded frame]) ∧
      (p.pushAll frames.flatten).1.frames_decoded =
        p.frames_decoded + UInt32.ofNat (frames.countP fun frame => decide (Rc frame)) ∧
      (p.pushAll frames.flatten).1.crc_errors =
        p.crc_errors + UInt32.ofNat (frames.countP fun frame => decide (Corrupt frame))) ∧
    (∀ (type : UInt8) (payload : List UInt8), payload.length ≤ 60 →
      Frame format (buildFrame type payload kMaxFrameLen.toNat) ∧
      ¬Corrupt (buildFrame type payload kMaxFrameLen.toNat) ∧
      decoded (buildFrame type payload kMaxFrameLen.toNat) =
        if type = kFrameTypeRcChannels ∧ payload.length = 22 then
          some (Parser.channelsOf payload) else none) ∧
    (∀ payload : List UInt8, payload.length = 22 → ∀ i (h : i < kNumChannels),
      ((Parser.channelsOf payload)[i]).toNat = field 11 i (value payload)) ∧
    ∀ (p : Parser) (bytes : List UInt8), (p.reset.pushAll bytes).1.InBuffer := by
  refine ⟨?_, ?_, ?_, ?_, ?_⟩
  · intro p bytes i channels hresult
    have hscans := @Parser.Represents.scans p.reset [] bytes (.rest rfl)
    rw [hscans.results, List.getElem?_map, Option.map_eq_some_iff] at hresult
    obtain ⟨completed, hget, hbind⟩ := hresult
    obtain ⟨frame, rfl, hdecoded⟩ := Option.bind_eq_some_iff.mp hbind
    obtain ⟨hwhole, before, heq⟩ := feed_suffix .rest hget
    unfold decoded at hdecoded
    split_ifs at hdecoded with hrc
    obtain ⟨payload, hlen, rfl⟩ := hrc.exists_eq hwhole
    refine ⟨before, payload, hlen, heq, ?_⟩
    have hchannels := decoded_rcFrame hlen
    unfold decoded at hchannels
    rw [if_pos hrc] at hchannels
    exact (Option.some.inj hdecoded).symm.trans (Option.some.inj hchannels)
  · intro p frames hstate hframes
    have hscans := @Parser.Represents.scans p [] frames.flatten (.rest hstate)
    obtain ⟨hrepresents, hresults, hcount, herrors⟩ := hscans
    rw [feed_frames hframes] at hrepresents hresults hcount herrors
    refine ⟨?_, ?_, ?_, ?_⟩
    · cases hrepresents
      assumption
    · rw [hresults, List.map_flatMap]
      refine List.flatMap_congr fun frame _ => ?_
      rw [List.map_append, List.map_replicate]
      rfl
    · rw [hcount, sum_map_flatMap Parser.rcCount_none fun _ => Parser.rcCount_some]
    · rw [herrors, sum_map_flatMap Parser.corruptCount_none fun _ => Parser.corruptCount_some]
  · intro type payload hlen
    exact buildFrame_spec hlen (by show _ ≤ 64; omega)
  · intro payload hlen i hi
    exact Parser.channelsOf_spec (Nat.le_of_eq hlen.symm) i hi
  · intro p bytes
    exact Parser.pushAll_inBuffer (.rest rfl) (UInt8.le_iff_toNat_le.mpr (Nat.zero_le _))

def zeroFrame : List UInt8 := buildFrame kFrameTypeRcChannels (.replicate 22 0) 26

theorem parser_frames_zero :
    (({} : Parser).pushAll [zeroFrame, zeroFrame].flatten).1.frames_decoded =
      0 + UInt32.ofNat ([zeroFrame, zeroFrame].countP fun frame => decide (Rc frame)) := by
  have hframe : Frame format zeroFrame := (buildFrame_spec (by decide) (by decide)).1
  refine (parser_frames.2.1 {} [zeroFrame, zeroFrame] rfl ?_).2.2.1
  intro frame hmem
  rcases List.mem_cons.mp hmem with rfl | hmem
  · exact hframe
  · rw [List.mem_singleton.mp hmem]
    exact hframe

end HexapodVerified.Input.Crsf
