import Mathlib.Algebra.Group.Nat.Defs
import Mathlib.Data.List.Basic

/-!
# Wire frames on the host

`hexapod_protocol/crc16.py`, `cobs.py` and `framing.py`. A byte string of the host is a list of bytes, its
integers are unbounded. A function that raises returns `Except.error`.
-/

namespace HexapodVerified.Host

/-! ## `crc16.py` -/

abbrev CRC16_INIT : Nat := 0xFFFF

def crc16Bit (crc : Nat) : Nat :=
  if crc &&& 0x8000 ≠ 0 then ((crc <<< 1) ^^^ 0x1021) &&& 0xFFFF else (crc <<< 1) &&& 0xFFFF

def crc16Byte (crc : Nat) (byte : UInt8) : Nat :=
  Nat.repeat crc16Bit 8 (crc ^^^ (byte.toNat <<< 8))

def crc16 (data : List UInt8) : Nat := data.foldl crc16Byte CRC16_INIT &&& 0xFFFF

/-! ## `cobs.py` -/

/-- The locals of `cobs_encode`. -/
structure CobsEncoder where
  out : List UInt8 := [0]
  code_idx : Nat := 0
  code : Nat := 1

def CobsEncoder.closeBlock (enc : CobsEncoder) : CobsEncoder where
  out := enc.out.set enc.code_idx (UInt8.ofNat enc.code) ++ [0]
  code_idx := enc.out.length
  code := 1

def CobsEncoder.next (enc : CobsEncoder) (byte : UInt8) : CobsEncoder :=
  if byte = 0 then enc.closeBlock
  else
    let enc := { enc with out := enc.out ++ [byte], code := enc.code + 1 }
    if enc.code = 0xFF then enc.closeBlock else enc

def cobsEncode (data : List UInt8) : List UInt8 :=
  let enc := data.foldl CobsEncoder.next {}
  enc.out.set enc.code_idx (UInt8.ofNat enc.code)

/-- The loop of `cobs_decode` over what is left of `data`, at most `fuel` blocks; the text is the one of
the `ValueError`. -/
def cobsDecodeLoop : Nat → List UInt8 → List UInt8 → Except String (List UInt8)
  | _, [], out => .ok out
  | 0, _ :: _, _ => .error ""
  | fuel + 1, code :: rest, out =>
    if code = 0 then .error "unexpected zero byte in COBS stream"
    else if rest.length + 1 < code.toNat then .error "COBS code runs past end of buffer"
    else
      let out := out ++ rest.take (code.toNat - 1)
      let rest := rest.drop (code.toNat - 1)
      cobsDecodeLoop fuel rest (if code ≠ 0xFF ∧ rest ≠ [] then out ++ [0] else out)

/-- `cobs_decode`; every block takes a byte at least. -/
def cobsDecode (data : List UInt8) : Except String (List UInt8) :=
  cobsDecodeLoop data.length data []

/-! ## `struct` -/

/-- The `n` bytes of an integer, the lowest one first. -/
def littleEndian : Nat → Nat → List UInt8
  | 0, _ => []
  | n + 1, v => UInt8.ofNat v :: littleEndian n (v / 256)

def ofLittleEndian : List UInt8 → Nat
  | [] => 0
  | byte :: bytes => byte.toNat + 256 * ofLittleEndian bytes

/-- What `encode_frame` raises. -/
inductive EncodeError where
  | valueError (text : String)
  | structError
  deriving DecidableEq, Repr

/-- Packs an unsigned integer of `n` bytes. -/
def pack (n : Nat) (v : Int) : Except EncodeError (List UInt8) :=
  if 0 ≤ v ∧ v.toNat < 256 ^ n then .ok (littleEndian n v.toNat) else .error .structError

/-! ## `framing.py` -/

abbrev MAGIC : Int := 0xA5
abbrev VERSION_MAJOR : Int := 0
abbrev VERSION_MINOR : Int := 5
abbrev HEADER_LEN : Nat := 14
abbrev CRC_LEN : Nat := 2
abbrev MAX_PAYLOAD : Nat := 256

structure Header where
  msg_type : Int := 0
  msg_id : Int := 0
  flags : Int := 0
  seq : Int := 0
  timestamp_ms : Int := 0
  payload_len : Int := 0
  magic : Int := MAGIC
  version_major : Int := VERSION_MAJOR
  version_minor : Int := VERSION_MINOR
  deriving DecidableEq, Repr

/-- The fields of `_HEADER_STRUCT` with their sizes. -/
def Header.fields (h : Header) : List (Nat × Int) :=
  [(1, h.magic), (1, h.version_major), (1, h.version_minor), (1, h.msg_type), (1, h.msg_id),
    (1, h.flags), (2, h.seq), (4, h.timestamp_ms), (2, h.payload_len)]

def Header.pack (h : Header) : Except EncodeError (List UInt8) := do
  let fields ← h.fields.mapM fun field => Host.pack field.1 field.2
  return fields.flatten

/-- `Header.unpack`; `data` has the bytes of a header at least. -/
def Header.unpack (data : List UInt8) : Header where
  magic := ofLittleEndian (data.take 1)
  version_major := ofLittleEndian ((data.drop 1).take 1)
  version_minor := ofLittleEndian ((data.drop 2).take 1)
  msg_type := ofLittleEndian ((data.drop 3).take 1)
  msg_id := ofLittleEndian ((data.drop 4).take 1)
  flags := ofLittleEndian ((data.drop 5).take 1)
  seq := ofLittleEndian ((data.drop 6).take 2)
  timestamp_ms := ofLittleEndian ((data.drop 8).take 4)
  payload_len := ofLittleEndian ((data.drop 12).take 2)

def encodeFrame (header : Header) (payload : List UInt8) : Except EncodeError (List UInt8) := do
  if payload.length > MAX_PAYLOAD then
    throw (.valueError "payload exceeds MAX_PAYLOAD")
  let header := { header with payload_len := payload.length }
  let packed ← header.pack
  let body := packed ++ payload
  let crc ← pack 2 (crc16 body)
  return [0] ++ cobsEncode (body ++ crc) ++ [0]

/-- `decode_frame_body`; the text is the one of the `DecodeError`. -/
def decodeFrameBody (body_cobs : List UInt8) : Except String (Header × List UInt8) :=
  match cobsDecode body_cobs with
  | .error exc => .error ("bad COBS: " ++ exc)
  | .ok body =>
    if body.length < HEADER_LEN + CRC_LEN then .error "frame too short"
    else if ((body.getD 0 0).toNat : Int) ≠ MAGIC then .error "bad magic"
    else
      let header := Header.unpack body
      if header.payload_len > MAX_PAYLOAD then .error "payload_len over MAX_PAYLOAD"
      else if HEADER_LEN + header.payload_len + CRC_LEN ≠ body.length then
        .error "payload_len inconsistent with frame"
      else
        let crc_offset := HEADER_LEN + header.payload_len.toNat
        let want := crc16 (body.take crc_offset)
        let got := ofLittleEndian ((body.drop crc_offset).take CRC_LEN)
        if want ≠ got then .error "CRC mismatch"
        else .ok (header, (body.take crc_offset).drop HEADER_LEN)

end HexapodVerified.Host
