import HexapodVerified.Host.Framing
import HexapodVerified.Lib.BitFields
import HexapodVerified.Protocol.Proofs.FramingProofs

/-!
# The host and the controller speak the same frames

The host's codec is related to the controller's piece by piece: CRC, stuffing, header layout. Both accept
the same bodies and write the same frames.
-/

namespace HexapodVerified.Host

open BitFields Bytes Stuffing

variable {data src out : List UInt8} {fuel : Nat}

theorem crc16Bit_eq (crc : UInt16) : crc16Bit crc.toNat = (Protocol.crc16Bit crc).toNat := by
  have hset : crc.toNat &&& 0x8000 ≠ 0 ↔ crc &&& 0x8000 ≠ 0 := by
    rw [← UInt16.toNat_inj.ne]
    rfl
  have hmask : ∀ n : Nat, n &&& 0xFFFF = n % 2 ^ 16 := fun n => Nat.and_two_pow_sub_one_eq_mod n 16
  have hshift : (crc <<< 1).toNat = (crc.toNat <<< 1) % 2 ^ 16 := UInt16.toNat_shiftLeft crc 1
  unfold crc16Bit Protocol.crc16Bit
  rw [hmask, hmask]
  by_cases h : crc &&& 0x8000 ≠ 0
  · rw [if_pos h, if_pos (hset.mpr h), UInt16.toNat_xor, hshift, Nat.xor_mod_two_pow]
    rfl
  · rw [if_neg h, if_neg (hset.not.mpr h), hshift]

theorem crc16Byte_eq (crc : UInt16) (byte : UInt8) :
    crc16Byte crc.toNat byte = (Protocol.crc16Byte crc byte).toNat := by
  have hmixed : crc.toNat ^^^ (byte.toNat <<< 8) = (crc ^^^ (byte.toUInt16 <<< 8)).toNat := by
    have hbyte := byte.toNat_lt
    have hshift : (byte.toUInt16 <<< 8).toNat = (byte.toNat <<< 8) % 2 ^ 16 :=
      UInt16.toNat_shiftLeft byte.toUInt16 8
    rw [UInt16.toNat_xor, hshift, Nat.mod_eq_of_lt]
    rw [Nat.shiftLeft_eq]
    omega
  have hrepeat : ∀ (n : Nat) (crc : UInt16),
      Nat.repeat crc16Bit n crc.toNat = (Nat.repeat Protocol.crc16Bit n crc).toNat := by
    intro n
    induction n with
    | zero => exact fun _ => rfl
    | succ n ih =>
      intro crc
      show crc16Bit (Nat.repeat crc16Bit n crc.toNat) = _
      rw [ih, crc16Bit_eq]
      rfl
  unfold crc16Byte Protocol.crc16Byte
  rw [hmixed, hrepeat]

theorem crc16_eq (data : List UInt8) : crc16 data = (Protocol.crc16 data).toNat := by
  have hfold : ∀ (data : List UInt8) (crc : UInt16),
      data.foldl crc16Byte crc.toNat = (data.foldl Protocol.crc16Byte crc).toNat := by
    intro data
    induction data with
    | nil => exact fun _ => rfl
    | cons byte data ih =>
      intro crc
      rw [List.foldl_cons, crc16Byte_eq, ih, List.foldl_cons]
  have hinit : CRC16_INIT = Protocol.kCrc16Init.toNat := rfl
  have hlt := (data.foldl Protocol.crc16Byte Protocol.kCrc16Init).toNat_lt
  unfold crc16
  rw [hinit, hfold, Nat.and_two_pow_sub_one_eq_mod _ 16, Nat.mod_eq_of_lt hlt]
  rfl

/-- The two encoders hold the same; the host's code is an integer that stays below 255. -/
structure CobsEncoder.Same (enc : CobsEncoder) (other : Protocol.CobsEncoder) : Prop where
  out : enc.out = other.dst
  code_idx : enc.code_idx = other.code_idx
  code : enc.code = other.code.toNat
  small : enc.code < 255

namespace CobsEncoder

variable {enc : CobsEncoder} {other : Protocol.CobsEncoder}

theorem same_closeBlock (hout : enc.out = other.dst) (hidx : enc.code_idx = other.code_idx)
    (hcode : enc.code = other.code.toNat) : enc.closeBlock.Same other.closeBlock := by
  refine ⟨?_, ?_, rfl, Nat.one_lt_succ_succ 253⟩
  · unfold closeBlock Protocol.CobsEncoder.closeBlock
    rw [hout, hidx, hcode, UInt8.ofNat_toNat]
  · exact congrArg List.length hout

theorem same_next (h : enc.Same other) (byte : UInt8) : (enc.next byte).Same (other.next byte) := by
  have hsmall := h.small
  have hcode : enc.code + 1 = (other.code + 1).toNat := by
    have hone : (1 : UInt8).toNat = 1 := rfl
    have hother := h.code
    rw [UInt8.toNat_add, hone]
    omega
  have hout : enc.out ++ [byte] = other.dst ++ [byte] := by rw [h.out]
  by_cases hzero : byte = 0
  · rw [hzero, Protocol.CobsEncoder.next_zero]
    unfold next
    rw [if_pos rfl]
    exact same_closeBlock h.out h.code_idx h.code
  · have hfull : enc.code + 1 = 0xFF ↔ other.code + 1 = 0xFF := by
      rw [hcode, ← UInt8.toNat_inj]
      rfl
    unfold next
    rw [if_neg hzero]
    dsimp only
    split_ifs with hmax
    · rw [Protocol.CobsEncoder.next_full hzero (hfull.mp hmax)]
      exact @same_closeBlock { enc with out := enc.out ++ [byte], code := enc.code + 1 }
        { other with dst := other.dst ++ [byte], code := other.code + 1 } hout h.code_idx hcode
    · rw [Protocol.CobsEncoder.next_open hzero (hfull.not.mp hmax)]
      exact ⟨hout, h.code_idx, hcode, by dsimp only; omega⟩

theorem same_foldl (h : enc.Same other) (data : List UInt8) :
    (data.foldl next enc).Same (data.foldl Protocol.CobsEncoder.next other) := by
  induction data generalizing enc other with
  | nil => exact h
  | cons byte data ih => exact ih (same_next h byte)

end CobsEncoder

theorem cobsEncode_eq (data : List UInt8) : cobsEncode data = stuff [] data := by
  have hsame := @CobsEncoder.same_foldl {} {} ⟨rfl, rfl, rfl, Nat.one_lt_succ_succ 253⟩ data
  have hstuff := @Protocol.CobsEncoder.foldl_next [] [] data {} Protocol.CobsEncoder.holds_start
  rw [List.nil_append] at hstuff
  unfold cobsEncode
  dsimp only
  rw [hsame.out, hsame.code_idx, hsame.code, UInt8.ofNat_toNat, hstuff]

theorem cobsDecodeLoop_eq (hfuel : src.length ≤ fuel) :
    (cobsDecodeLoop fuel src out).toOption = (unstuff src).map (out ++ ·) := by
  induction fuel generalizing src out with
  | zero =>
    obtain rfl := List.length_eq_zero_iff.mp (Nat.le_zero.mp hfuel)
    rw [unstuff, Option.map_some, List.append_nil]
    rfl
  | succ fuel ih =>
    cases src with
    | nil =>
      rw [unstuff, Option.map_some, List.append_nil]
      rfl
    | cons code rest =>
      have hrest : (rest.drop (code.toNat - 1)).length ≤ fuel := by
        rw [List.length_cons] at hfuel
        rw [List.length_drop]
        omega
      unfold cobsDecodeLoop
      rw [unstuff]
      by_cases hbad : code = 0 ∨ rest.length + 1 < code.toNat
      · rw [if_pos hbad]
        rcases hbad with hzero | hpast
        · rw [if_pos hzero]
          rfl
        · rw [if_pos hpast]
          split_ifs <;> rfl
      · rw [if_neg hbad]
        rw [not_or] at hbad
        rw [if_neg hbad.1, if_neg hbad.2]
        rw [ih hrest, Option.map_map]
        unfold ending
        split_ifs <;>
          exact congrArg (fun f => Option.map f _) (funext fun later => by simp)

theorem cobsDecode_eq (data : List UInt8) : (cobsDecode data).toOption = unstuff data := by
  unfold cobsDecode
  rw [cobsDecodeLoop_eq (Nat.le_refl _)]
  cases unstuff data <;> rfl

theorem littleEndian_one (v : UInt8) : littleEndian 1 v.toNat = [v] := by
  show [UInt8.ofNat v.toNat] = [v]
  rw [UInt8.ofNat_toNat]

theorem littleEndian_two (v : UInt16) : littleEndian 2 v.toNat = putU16 v := by
  show [UInt8.ofNat v.toNat, UInt8.ofNat (v.toNat / 256)] = [v.toUInt8, (v >>> 8).toUInt8]
  have hhigh : (v >>> 8).toNat = v.toNat / 256 := by
    have hshift : (v >>> 8).toNat = v.toNat >>> 8 := UInt16.toNat_shiftRight v 8
    rw [hshift, Nat.shiftRight_eq_div_pow]
  rw [← hhigh]
  rfl

theorem littleEndian_four (v : UInt32) : littleEndian 4 v.toNat = putU32 v := by
  show [UInt8.ofNat v.toNat, UInt8.ofNat (v.toNat / 256), UInt8.ofNat (v.toNat / 256 / 256),
    UInt8.ofNat (v.toNat / 256 / 256 / 256)] =
      [v.toUInt8, (v >>> 8).toUInt8, (v >>> 16).toUInt8, (v >>> 24).toUInt8]
  have h1 : (v >>> 8).toNat = v.toNat / 256 := by
    have hshift : (v >>> 8).toNat = v.toNat >>> 8 := UInt32.toNat_shiftRight v 8
    rw [hshift, Nat.shiftRight_eq_div_pow]
  have h2 : (v >>> 16).toNat = v.toNat / 256 / 256 := by
    have hshift : (v >>> 16).toNat = v.toNat >>> 16 := UInt32.toNat_shiftRight v 16
    rw [hshift, Nat.shiftRight_eq_div_pow, Nat.div_div_eq_div_mul]
  have h3 : (v >>> 24).toNat = v.toNat / 256 / 256 / 256 := by
    have hshift : (v >>> 24).toNat = v.toNat >>> 24 := UInt32.toNat_shiftRight v 24
    rw [hshift, Nat.shiftRight_eq_div_pow, Nat.div_div_eq_div_mul, Nat.div_div_eq_div_mul]
  rw [← h3, ← h2, ← h1]
  rfl

theorem ofLittleEndian_two {a b : UInt8} {rest : List UInt8} :
    ofLittleEndian [a, b] = (getU16 (a :: b :: rest)).toNat := by
  have ha := a.toNat_lt
  have hb := b.toNat_lt
  have hshift : (b.toUInt16 <<< 8).toNat = (b.toNat <<< 8) % 2 ^ 16 :=
    UInt16.toNat_shiftLeft b.toUInt16 8
  have hsmall : b.toNat <<< 8 < 2 ^ 16 := by
    rw [Nat.shiftLeft_eq]
    omega
  show _ = (a.toUInt16 ||| (b.toUInt16 <<< 8)).toNat
  rw [UInt16.toNat_or, hshift, Nat.mod_eq_of_lt hsmall, UInt8.toNat_toUInt16, or_shiftLeft _ ha]
  show a.toNat + 256 * (b.toNat + 256 * 0) = _
  omega

theorem ofLittleEndian_four {a b c d : UInt8} {rest : List UInt8} :
    ofLittleEndian [a, b, c, d] = (getU32 (a :: b :: c :: d :: rest)).toNat := by
  have ha := a.toNat_lt
  have hb := b.toNat_lt
  have hc := c.toNat_lt
  have hshift : ∀ (byte : UInt8) (n : UInt32), n.toNat ≤ 24 →
      (byte.toUInt32 <<< n).toNat = byte.toNat <<< n.toNat := by
    intro byte n hn
    have hbyte := byte.toNat_lt
    have hpow : 2 ^ n.toNat ≤ 2 ^ 24 := Nat.pow_le_pow_right (by decide) hn
    rw [UInt32.toNat_shiftLeft, UInt8.toNat_toUInt32, Nat.mod_eq_of_lt (show n.toNat < 32 by omega),
      Nat.mod_eq_of_lt]
    rw [Nat.shiftLeft_eq]
    calc byte.toNat * 2 ^ n.toNat ≤ 255 * 2 ^ 24 := Nat.mul_le_mul (by omega) hpow
      _ < 2 ^ 32 := by decide
  show _ = (a.toUInt32 ||| (b.toUInt32 <<< 8) ||| (c.toUInt32 <<< 16) ||| (d.toUInt32 <<< 24)).toNat
  rw [UInt32.toNat_or, UInt32.toNat_or, UInt32.toNat_or, hshift b 8 (by decide),
    hshift c 16 (by decide), hshift d 24 (by decide), UInt8.toNat_toUInt32]
  show _ = a.toNat ||| (b.toNat <<< 8) ||| (c.toNat <<< 16) ||| (d.toNat <<< 24)
  rw [or_shiftLeft b.toNat ha, or_shiftLeft c.toNat (by omega), or_shiftLeft d.toNat (by omega)]
  show a.toNat + 256 * (b.toNat + 256 * (c.toNat + 256 * (d.toNat + 256 * 0))) = _
  omega

def hostHeader (h : Protocol.Header) : Header where
  msg_type := h.msg_type.toNat
  msg_id := h.msg_id.toNat
  flags := h.flags.toNat
  seq := h.seq.toNat
  timestamp_ms := h.timestamp_ms.toNat
  payload_len := h.payload_len.toNat
  magic := h.magic.toNat
  version_major := h.version_major.toNat
  version_minor := h.version_minor.toNat

structure Header.InRange (h : Header) : Prop where
  bytes : ∀ v ∈ [h.magic, h.version_major, h.version_minor, h.msg_type, h.msg_id, h.flags],
    0 ≤ v ∧ v < UInt8.size
  seq : 0 ≤ h.seq ∧ h.seq < UInt16.size
  timestamp_ms : 0 ≤ h.timestamp_ms ∧ h.timestamp_ms < UInt32.size
  payload_len : 0 ≤ h.payload_len ∧ h.payload_len < UInt16.size

theorem Header.InRange.exists_eq {h : Header} (hrange : h.InRange) : ∃ other, hostHeader other = h := by
  have hbyte : ∀ v ∈ [h.magic, h.version_major, h.version_minor, h.msg_type, h.msg_id, h.flags],
      ((UInt8.ofNat v.toNat).toNat : Int) = v := by
    intro v hmem
    obtain ⟨hpos, hlt⟩ := hrange.bytes v hmem
    rw [UInt8.toNat_ofNat', Nat.mod_eq_of_lt (by dsimp only [UInt8.size] at hlt; omega)]
    exact Int.toNat_of_nonneg hpos
  have hword : ∀ v : Int, 0 ≤ v ∧ v < UInt16.size → ((UInt16.ofNat v.toNat).toNat : Int) = v := by
    intro v hv
    rw [UInt16.toNat_ofNat', Nat.mod_eq_of_lt (by dsimp only [UInt16.size] at hv; omega)]
    exact Int.toNat_of_nonneg hv.1
  have htime : ((UInt32.ofNat h.timestamp_ms.toNat).toNat : Int) = h.timestamp_ms := by
    have hlt := hrange.timestamp_ms.2
    rw [UInt32.toNat_ofNat', Nat.mod_eq_of_lt (by dsimp only [UInt32.size] at hlt; omega)]
    exact Int.toNat_of_nonneg hrange.timestamp_ms.1
  refine ⟨⟨.ofNat h.magic.toNat, .ofNat h.version_major.toNat, .ofNat h.version_minor.toNat,
    .ofNat h.msg_type.toNat, .ofNat h.msg_id.toNat, .ofNat h.flags.toNat, .ofNat h.seq.toNat,
    .ofNat h.timestamp_ms.toNat, .ofNat h.payload_len.toNat⟩, ?_⟩
  unfold hostHeader
  rw [hbyte h.magic (by simp), hbyte h.version_major (by simp), hbyte h.version_minor (by simp),
    hbyte h.msg_type (by simp), hbyte h.msg_id (by simp), hbyte h.flags (by simp),
    hword _ hrange.seq, htime, hword _ hrange.payload_len]

theorem unpack_eq (hlen : HEADER_LEN ≤ data.length) :
    Header.unpack data = hostHeader (Protocol.readHeader data) := by
  match data, hlen with
  | a :: b :: c :: d :: e :: f :: s0 :: s1 :: t0 :: t1 :: t2 :: t3 :: l0 :: l1 :: rest, _ =>
    have hone : ∀ byte : UInt8, ofLittleEndian [byte] = byte.toNat := fun byte => rfl
    have hseq := @ofLittleEndian_two s0 s1 (t0 :: t1 :: t2 :: t3 :: l0 :: l1 :: rest)
    have htime := @ofLittleEndian_four t0 t1 t2 t3 (l0 :: l1 :: rest)
    have hlen := @ofLittleEndian_two l0 l1 rest
    simp only [Header.unpack, hostHeader, Protocol.readHeader, List.drop_succ_cons, List.drop_zero,
      List.take_succ_cons, List.take_zero, List.getD_cons_zero, List.getD_cons_succ, hone, hseq,
      htime, hlen]

theorem pack_ofNat {n k : Nat} (h : k < 256 ^ n) : pack n (k : Int) = .ok (littleEndian n k) := by
  unfold pack
  rw [Int.toNat_natCast, if_pos ⟨Int.natCast_nonneg k, h⟩]

theorem pack_byte (v : UInt8) : pack 1 (v.toNat : Int) = .ok [v] := by
  rw [pack_ofNat v.toNat_lt, littleEndian_one]

theorem pack_word (v : UInt16) : pack 2 (v.toNat : Int) = .ok (putU16 v) := by
  rw [pack_ofNat v.toNat_lt, littleEndian_two]

theorem pack_long (v : UInt32) : pack 4 (v.toNat : Int) = .ok (putU32 v) := by
  rw [pack_ofNat v.toNat_lt, littleEndian_four]

theorem pack_eq (h : Protocol.Header) : (hostHeader h).pack = .ok (Protocol.writeHeader h) := by
  unfold Header.pack Header.fields hostHeader
  simp only [List.mapM_cons, List.mapM_nil, pack_byte, pack_word, pack_long]
  rfl

theorem encodeFrame_eq {h : Protocol.Header} {payload : List UInt8} {out_cap : Nat}
    (hframe : Protocol.Announces h payload) (hcap : Protocol.kMaxWireFrame ≤ out_cap)
    {header : Header}
    (hheader : hostHeader h = { header with payload_len := (payload.length : Int) }) :
    encodeFrame header payload = .ok (Protocol.encodeFrame h payload out_cap) := by
  have hshort := hframe.short
  have hroom := hframe.fits hcap
  have hcrc : pack 2 (crc16 (Protocol.writeHeader h ++ payload) : Int) =
      .ok (putU16 (Protocol.crc16 (Protocol.covered h payload))) := by
    rw [crc16_eq, pack_word]
    rfl
  have hraised : ¬payload.length > MAX_PAYLOAD := Nat.not_lt.mpr hshort
  unfold encodeFrame
  rw [if_neg hraised, ← hheader, Protocol.encodeFrame_eq hframe hroom]
  show (do
    let packed ← (hostHeader h).pack
    let crc ← pack 2 (crc16 (packed ++ payload))
    return [0] ++ cobsEncode (packed ++ payload ++ crc) ++ [0]) = _
  rw [pack_eq]
  show (do
    let crc ← pack 2 (crc16 (Protocol.writeHeader h ++ payload))
    return [0] ++ cobsEncode (Protocol.writeHeader h ++ payload ++ crc) ++ [0]) = _
  rw [hcrc]
  unfold Protocol.stuffedBody
  rw [Protocol.frameBody_eq hframe, ← cobsEncode_eq]
  rfl

structure WellFormed (body : List UInt8) : Prop where
  long : HEADER_LEN + CRC_LEN ≤ body.length
  magic : body.getD 0 0 = Protocol.kMagic
  short : (Protocol.readHeader body).payload_len.toNat ≤ MAX_PAYLOAD
  payload_len : HEADER_LEN + (Protocol.readHeader body).payload_len.toNat + CRC_LEN = body.length
  crc : Protocol.crc16 (body.take (HEADER_LEN + (Protocol.readHeader body).payload_len.toNat)) =
    getU16 (body.drop (HEADER_LEN + (Protocol.readHeader body).payload_len.toNat))

def payloadOf (body : List UInt8) : List UInt8 :=
  (body.drop HEADER_LEN).take (Protocol.readHeader body).payload_len.toNat

variable {body_cobs body : List UInt8} {before : Protocol.Header} {payload_cap : Nat}

theorem controller_accepts (hread : unstuff body_cobs = some body) (h : WellFormed body)
    (hcap : Protocol.kMaxPayload ≤ payload_cap) :
    Protocol.decodeFrameBody body_cobs before payload_cap =
      ⟨.ok, Protocol.readHeader body, payloadOf body⟩ := by
  have hlong : 14 + 2 ≤ body.length := h.long
  have hlen : 14 + (Protocol.readHeader body).payload_len.toNat + 2 = body.length := h.payload_len
  have hshort : (Protocol.readHeader body).payload_len.toNat ≤ 256 := h.short
  have hdecode : Protocol.cobsDecode body_cobs Protocol.kMaxFrameBody = body := by
    rw [Protocol.cobsDecode_eq, hread, Protocol.fitting_some, List.nil_append, Option.getD_some]
    show 0 + body.length ≤ 14 + 256 + 2
    omega
  have hlenok : ¬((Protocol.readHeader body).payload_len.toNat > Protocol.kMaxPayload ∨
      Protocol.kHeaderLen + (Protocol.readHeader body).payload_len.toNat + Protocol.kCrcLen ≠
        body.length) := by
    rintro (hlarge | hother)
    · exact absurd hshort (Nat.not_le.mpr hlarge)
    · exact hother hlen
  unfold Protocol.decodeFrameBody
  rw [hdecode, if_neg (by omega), if_neg (Nat.not_lt.mpr hlong), if_neg (not_not.mpr h.magic),
    if_neg hlenok, if_neg (not_not.mpr h.crc), if_neg (Nat.not_lt.mpr (Nat.le_trans hshort hcap))]
  rfl

theorem controller_checks
    (h : (Protocol.decodeFrameBody body_cobs before payload_cap).status = .ok) :
    ∃ body, unstuff body_cobs = some body ∧ WellFormed body := by
  unfold Protocol.decodeFrameBody at h
  dsimp only at h
  split_ifs at h with hempty hlong hmagic hlen hcrc hcap
  have hdecode := @Protocol.cobsDecode_eq body_cobs Protocol.kMaxFrameBody
  refine ⟨Protocol.cobsDecode body_cobs Protocol.kMaxFrameBody, ?_, ?_⟩
  · cases hread : unstuff body_cobs with
    | none =>
      rw [hread] at hdecode
      rw [hdecode] at hempty
      exact absurd rfl hempty
    | some body =>
      by_cases hfits : ([] : List UInt8).length + body.length ≤ Protocol.kMaxFrameBody
      · rw [hdecode, hread, Protocol.fitting_some hfits, List.nil_append, Option.getD_some]
      · have hnone := @Protocol.fitting_eq_none [] _ body (some []) (Nat.not_le.mp hfits)
        rw [Option.map_some, List.append_nil] at hnone
        rw [hread, hnone] at hdecode
        rw [hdecode] at hempty
        exact absurd rfl hempty
  · rw [not_or, not_not] at hlen
    exact ⟨Nat.not_lt.mp hlong, not_not.mp hmagic, Nat.not_lt.mp hlen.1, hlen.2, not_not.mp hcrc⟩

theorem cobsDecode_eq_ok (hread : unstuff body_cobs = some body) : cobsDecode body_cobs = .ok body := by
  have hopt := cobsDecode_eq body_cobs
  rw [hread] at hopt
  cases hdecode : cobsDecode body_cobs with
  | error exc =>
    rw [hdecode] at hopt
    cases hopt
  | ok read =>
    rw [hdecode] at hopt
    rw [Option.some.inj hopt]

/-! The host's checks are the controller's. -/

theorem magic_iff : ((body.getD 0 0).toNat : Int) = MAGIC ↔ body.getD 0 0 = Protocol.kMagic := by
  rw [← UInt8.toNat_inj]
  exact Int.ofNat_inj

theorem short_iff {h : Protocol.Header} :
    (hostHeader h).payload_len > MAX_PAYLOAD ↔ ¬h.payload_len.toNat ≤ MAX_PAYLOAD := by
  show (MAX_PAYLOAD : Int) < h.payload_len.toNat ↔ _
  rw [Int.ofNat_lt, Nat.not_le]

theorem payload_len_iff {h : Protocol.Header} :
    HEADER_LEN + (hostHeader h).payload_len + CRC_LEN = body.length ↔
      HEADER_LEN + h.payload_len.toNat + CRC_LEN = body.length := by
  show (HEADER_LEN : Int) + h.payload_len.toNat + CRC_LEN = body.length ↔ _
  rw [← Int.natCast_add, ← Int.natCast_add, Int.ofNat_inj]

theorem crc_iff {offset : Nat} (h : offset + CRC_LEN ≤ body.length) :
    crc16 (body.take offset) = ofLittleEndian ((body.drop offset).take CRC_LEN) ↔
      Protocol.crc16 (body.take offset) = getU16 (body.drop offset) := by
  have hgot : ofLittleEndian ((body.drop offset).take CRC_LEN) =
      (getU16 (body.drop offset)).toNat := by
    have hlen : CRC_LEN ≤ (body.drop offset).length := by
      rw [List.length_drop]
      omega
    match body.drop offset, hlen with
    | a :: b :: rest, _ => exact ofLittleEndian_two
  rw [hgot, crc16_eq, UInt16.toNat_inj]

theorem host_accepts (hread : unstuff body_cobs = some body) (h : WellFormed body) :
    decodeFrameBody body_cobs = .ok (hostHeader (Protocol.readHeader body), payloadOf body) := by
  have hunpack := unpack_eq (Nat.le_trans (Nat.le_add_right HEADER_LEN CRC_LEN) h.long)
  have hoffset : HEADER_LEN + (hostHeader (Protocol.readHeader body)).payload_len.toNat =
      HEADER_LEN + (Protocol.readHeader body).payload_len.toNat := rfl
  unfold decodeFrameBody
  rw [cobsDecode_eq_ok hread]
  dsimp only
  rw [hunpack, if_neg (Nat.not_lt.mpr h.long), if_neg (not_not.mpr (magic_iff.mpr h.magic)),
    if_neg (short_iff.not.mpr (not_not.mpr h.short)),
    if_neg (not_not.mpr (payload_len_iff.mpr h.payload_len)), hoffset,
    if_neg (not_not.mpr ((crc_iff (Nat.le_of_eq h.payload_len)).mpr h.crc))]
  unfold payloadOf
  rw [List.drop_take, Nat.add_sub_cancel_left]

theorem host_checks {read : Header × List UInt8} (h : decodeFrameBody body_cobs = .ok read) :
    ∃ body, unstuff body_cobs = some body ∧ WellFormed body := by
  have hopt := cobsDecode_eq body_cobs
  unfold decodeFrameBody at h
  cases hdecode : cobsDecode body_cobs with
  | error exc =>
    rw [hdecode] at h
    cases h
  | ok body =>
    rw [hdecode] at h hopt
    refine ⟨body, hopt.symm, ?_⟩
    dsimp only at h
    split_ifs at h with hlong hmagic hshort hlen hcrc
    rw [Nat.not_lt] at hlong
    rw [unpack_eq (Nat.le_trans (Nat.le_add_right HEADER_LEN CRC_LEN) hlong)] at hshort hlen hcrc
    have hsum := payload_len_iff.mp (not_not.mp hlen)
    exact ⟨hlong, magic_iff.mp (not_not.mp hmagic), not_not.mp (short_iff.not.mp hshort), hsum,
      (crc_iff (Nat.le_of_eq hsum)).mp (not_not.mp hcrc)⟩

/-- The two codecs accept the same bodies, read the same from them and write the same frames. -/
theorem codecs_agree :
    (∀ (body_cobs : List UInt8) (before : Protocol.Header) (payload_cap : Nat),
      Protocol.kMaxPayload ≤ payload_cap →
      ((Protocol.decodeFrameBody body_cobs before payload_cap).status = .ok ↔
        ∃ read, decodeFrameBody body_cobs = .ok read) ∧
      ∀ header payload, decodeFrameBody body_cobs = .ok (header, payload) →
        hostHeader (Protocol.decodeFrameBody body_cobs before payload_cap).header = header ∧
        (Protocol.decodeFrameBody body_cobs before payload_cap).payload = payload) ∧
    ∀ (header : Header) (payload : List UInt8) (out_cap : Nat), header.InRange →
      header.magic = MAGIC → payload.length ≤ MAX_PAYLOAD → Protocol.kMaxWireFrame ≤ out_cap →
      ∃ h, hostHeader h = { header with payload_len := (payload.length : Int) } ∧
        encodeFrame header payload = .ok (Protocol.encodeFrame h payload out_cap) := by
  refine ⟨fun body_cobs before payload_cap hcap => ⟨⟨?_, ?_⟩, ?_⟩, ?_⟩
  · intro hok
    obtain ⟨body, hread, hwell⟩ := controller_checks hok
    exact ⟨_, host_accepts hread hwell⟩
  · rintro ⟨read, hok⟩
    obtain ⟨body, hread, hwell⟩ := host_checks hok
    rw [controller_accepts hread hwell hcap]
  · intro header payload hok
    obtain ⟨body, hread, hwell⟩ := host_checks hok
    rw [host_accepts hread hwell] at hok
    obtain ⟨rfl, rfl⟩ := Prod.mk.inj (Except.ok.inj hok)
    rw [controller_accepts hread hwell hcap]
    exact ⟨rfl, rfl⟩
  · intro header payload out_cap hrange hmagic hshort hcap
    have hlen : { header with payload_len := (payload.length : Int) }.InRange :=
      ⟨hrange.bytes, hrange.seq, hrange.timestamp_ms, Int.natCast_nonneg _, by
        show (payload.length : Int) < (65536 : Nat)
        have hle : payload.length ≤ 256 := hshort
        omega⟩
    obtain ⟨h, hheader⟩ := hlen.exists_eq
    refine ⟨h, hheader, encodeFrame_eq ⟨?_, ?_, hshort⟩ hcap hheader⟩
    · have hview : (h.magic.toNat : Int) = header.magic := congrArg Header.magic hheader
      rw [hmagic] at hview
      exact UInt8.toNat_inj.mp (Int.ofNat_inj.mp hview)
    · have hview : (h.payload_len.toNat : Int) = payload.length := congrArg Header.payload_len hheader
      exact Int.ofNat_inj.mp hview

def ping : Header := { msg_type := 1, seq := 7 }

theorem codecs_agree_ping :
    (Protocol.decodeFrameBody [1, 0] {} 256).status ≠ .ok ∧
    ∃ h, hostHeader h = { ping with payload_len := 1 } ∧
      encodeFrame ping [0] = .ok (Protocol.encodeFrame h [0] Protocol.kMaxWireFrame) := by
  refine ⟨?_, ?_⟩
  · have hagree := (codecs_agree.1 [1, 0] {} 256 (Nat.le_refl _)).1
    rw [ne_eq, hagree]
    rintro ⟨read, hok⟩
    cases hok
  · exact codecs_agree.2 ping [0] _ ⟨by decide, by decide, by decide, by decide⟩ rfl
      (by decide) (Nat.le_refl _)

end HexapodVerified.Host
