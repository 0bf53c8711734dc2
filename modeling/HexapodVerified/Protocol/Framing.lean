import HexapodVerified.Lib.Bytes
import HexapodVerified.Lib.Stuffing

/-!
# Framing on the controller

`protocol/crc16.cpp`.
-/

namespace HexapodVerified.Protocol

open Bytes

def kCrc16Init : UInt16 := 0xFFFF

def crc16Bit (crc : UInt16) : UInt16 :=
  if crc &&& 0x8000 ≠ 0 then (crc <<< 1) ^^^ 0x1021 else crc <<< 1

/-- One byte: it is mixed in, then the bit loop runs eight times. -/
def crc16Byte (crc : UInt16) (byte : UInt8) : UInt16 :=
  Nat.repeat crc16Bit 8 (crc ^^^ (byte.toUInt16 <<< 8))

def crc16Update (crc : UInt16) (data : List UInt8) : UInt16 := data.foldl crc16Byte crc

def crc16 (data : List UInt8) : UInt16 := crc16Update kCrc16Init data

/-- The check value of the published algorithm. -/
example : crc16 [0x31, 0x32, 0x33, 0x34, 0x35, 0x36, 0x37, 0x38, 0x39] = 0x29B1 := by
  decide +kernel

theorem crc16Update_append (crc : UInt16) (a b : List UInt8) :
    crc16Update crc (a ++ b) = crc16Update (crc16Update crc a) b := List.foldl_append

/-!
## COBS on the controller

`protocol/cobs.cpp`. The output buffer is the list of the bytes written so far; a code byte that is
reserved is zero until it is written. A function that returns 0 returns no bytes here.
-/

def cobsMaxEncodedLen (n : Nat) : Nat := n + n / 254 + 1

/-- The locals of `cobsEncode`; `write_idx` is the length of `dst`. -/
structure CobsEncoder where
  dst : List UInt8 := [0]
  code_idx : Nat := 0
  code : UInt8 := 1

/-- Writes the code of the open block and reserves the one of the next block. -/
def CobsEncoder.closeBlock (enc : CobsEncoder) : CobsEncoder where
  dst := enc.dst.set enc.code_idx enc.code ++ [0]
  code_idx := enc.dst.length
  code := 1

def CobsEncoder.next (enc : CobsEncoder) (byte : UInt8) : CobsEncoder :=
  if byte = 0 then enc.closeBlock
  else
    let enc := { enc with dst := enc.dst ++ [byte], code := enc.code + 1 }
    if enc.code = 0xFF then enc.closeBlock else enc

def cobsEncode (src : List UInt8) (dst_cap : Nat) : List UInt8 :=
  if dst_cap < cobsMaxEncodedLen src.length then []
  else
    let enc := src.foldl CobsEncoder.next {}
    enc.dst.set enc.code_idx enc.code

/-- The loop of `cobsDecode` over what is left of `src`, at most `fuel` blocks; `dst` has been
written. -/
def cobsDecodeLoop (dst_cap : Nat) : Nat → List UInt8 → List UInt8 → Option (List UInt8)
  | _, [], dst => some dst
  | 0, _ :: _, _ => none
  | fuel + 1, code :: rest, dst =>
    if code = 0 then none
    else if rest.length + 1 < code.toNat then none
    else
      let block := rest.take (code.toNat - 1)
      let rest := rest.drop (code.toNat - 1)
      if dst_cap < dst.length + block.length then none
      else
        let dst := dst ++ block
        if code ≠ 0xFF ∧ rest ≠ [] then
          if dst_cap ≤ dst.length then none else cobsDecodeLoop dst_cap fuel rest (dst ++ [0])
        else cobsDecodeLoop dst_cap fuel rest dst

/-- `cobsDecode`; every block takes a byte at least. -/
def cobsDecode (src : List UInt8) (dst_cap : Nat) : List UInt8 :=
  (cobsDecodeLoop dst_cap src.length src []).getD []

/-!
## Wire frames on the controller

`protocol/framing.cpp` and `protocol/frame_reader.cpp`: a frame is written, received byte by byte and
decoded.
-/

abbrev kMagic : UInt8 := 0xA5
abbrev kVersionMajor : UInt8 := 0
abbrev kVersionMinor : UInt8 := 5
abbrev kHeaderLen : Nat := 14
abbrev kCrcLen : Nat := 2
abbrev kMaxPayload : Nat := 256
abbrev kMaxFrameBody : Nat := kHeaderLen + kMaxPayload + kCrcLen
abbrev kMaxWireFrame : Nat := cobsMaxEncodedLen kMaxFrameBody + 2
abbrev kMaxFrameBodyCobs : Nat := cobsMaxEncodedLen kMaxFrameBody

structure Header where
  magic : UInt8 := kMagic
  version_major : UInt8 := kVersionMajor
  version_minor : UInt8 := kVersionMinor
  msg_type : UInt8 := 0
  msg_id : UInt8 := 0
  flags : UInt8 := 0
  seq : UInt16 := 0
  timestamp_ms : UInt32 := 0
  payload_len : UInt16 := 0
  deriving DecidableEq, Repr

inductive DecodeStatus where
  | ok | tooShort | badCobs | badMagic | badCrc | badLength | bufferTooSmall
  deriving DecidableEq, Repr

def writeHeader (h : Header) : List UInt8 :=
  [h.magic, h.version_major, h.version_minor, h.msg_type, h.msg_id, h.flags] ++
    (putU16 h.seq ++ (putU32 h.timestamp_ms ++ putU16 h.payload_len))

def readHeader (b : List UInt8) : Header where
  magic := b.getD 0 0
  version_major := b.getD 1 0
  version_minor := b.getD 2 0
  msg_type := b.getD 3 0
  msg_id := b.getD 4 0
  flags := b.getD 5 0
  seq := getU16 (b.drop 6)
  timestamp_ms := getU32 (b.drop 8)
  payload_len := getU16 (b.drop 12)

/-- Header, payload and CRC, not yet stuffed. -/
def frameBody (header : Header) (payload : List UInt8) : List UInt8 :=
  let body := writeHeader header ++ payload.take header.payload_len.toNat
  body ++ putU16 (crc16 body)

/-- `encodeFrame`; the payload has `payload_len` bytes at least. -/
def encodeFrame (header : Header) (payload : List UInt8) (out_cap : Nat) : List UInt8 :=
  if header.payload_len.toNat > kMaxPayload then []
  else
    let body := frameBody header payload
    if out_cap < cobsMaxEncodedLen body.length + 2 then []
    else
      let enc := cobsEncode body (out_cap - 2)
      if enc = [] then [] else [0] ++ enc ++ [0]

/-- What `decodeFrameBody` returns and leaves in `header` and `payload_out`. -/
structure Decoded where
  status : DecodeStatus
  header : Header
  payload : List UInt8 := []
  deriving DecidableEq, Repr

/-- `decodeFrameBody`; `header` is what the caller's header was before. -/
def decodeFrameBody (body_cobs : List UInt8) (header : Header) (payload_cap : Nat) : Decoded :=
  let body := cobsDecode body_cobs kMaxFrameBody
  if body.length = 0 then { status := .badCobs, header }
  else if body.length < kHeaderLen + kCrcLen then { status := .tooShort, header }
  else if body.getD 0 0 ≠ kMagic then { status := .badMagic, header }
  else
    let header := readHeader body
    let payload_len := header.payload_len.toNat
    if payload_len > kMaxPayload ∨ kHeaderLen + payload_len + kCrcLen ≠ body.length then
      { status := .badLength, header }
    else if crc16 (body.take (kHeaderLen + payload_len)) ≠
        getU16 (body.drop (kHeaderLen + payload_len)) then
      { status := .badCrc, header }
    else if payload_len > payload_cap then { status := .bufferTooSmall, header }
    else { status := .ok, header, payload := (body.drop kHeaderLen).take payload_len }

/-- `FrameReader`; `buf` is the filled part of the buffer. -/
structure FrameReader where
  buf : List UInt8 := []
  overflow : Bool := false
  ready : Bool := false
  frames_ok : UInt32 := 0
  overflows_dropped : UInt32 := 0

namespace FrameReader

/-- After a frame was delivered, the next push starts a fresh one. -/
def restart (reader : FrameReader) : FrameReader :=
  if reader.ready then { reader with ready := false, buf := [], overflow := false } else reader

/-- `FrameReader::push`. -/
def push (reader : FrameReader) (byte : UInt8) : FrameReader × Bool :=
  let reader := reader.restart
  if byte = 0 then
    if reader.buf.length > 0 ∧ !reader.overflow then
      ({ reader with ready := true, frames_ok := reader.frames_ok + 1 }, true)
    else ({ reader with buf := [], overflow := false }, false)
  else if reader.overflow then (reader, false)
  else if reader.buf.length ≥ kMaxFrameBodyCobs then
    ({ reader with
        overflow := true
        buf := []
        overflows_dropped := reader.overflows_dropped + 1 }, false)
  else ({ reader with buf := reader.buf ++ [byte] }, false)

/-- The bytes of one buffer are pushed in order; each delivered body is handed on before the next
push. -/
def receive (reader : FrameReader) : List UInt8 → FrameReader × List (List UInt8)
  | [] => (reader, [])
  | byte :: bytes =>
    let (next, delivered) := reader.push byte
    let (last, bodies) := receive next bytes
    (last, if delivered then next.buf :: bodies else bodies)

def receiveAll (reader : FrameReader) : List (List UInt8) → FrameReader × List (List UInt8)
  | [] => (reader, [])
  | chunk :: chunks =>
    let (next, bodies) := reader.receive chunk
    let (last, later) := receiveAll next chunks
    (last, bodies ++ later)

end FrameReader

end HexapodVerified.Protocol
