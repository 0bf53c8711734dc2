import HexapodVerified.Input.ChannelPack
import HexapodVerified.Lib.Bytes

/-!
# The parser of the radio link

`Parser` of `input/crsf_parser.cpp`, and `buildFrame` of `input/crsf_telemetry.cpp`. A push returns the
channels that it writes to `out`, or nothing where it leaves `out` alone and returns false.
-/

namespace HexapodVerified.Input.Crsf

open Bytes

abbrev kNumChannels : Nat := CPACK_NUM_CHANNELS
abbrev kSyncByte : UInt8 := 0xC8
abbrev kFrameTypeRcChannels : UInt8 := 0x16
abbrev kFrameTypeLinkStats : UInt8 := 0x14
abbrev kRcPayloadBytes : UInt8 := 22
abbrev kLinkStatsPayloadBytes : UInt8 := 10
abbrev kMaxFrameLen : UInt8 := 64

def crc8Bit (crc : UInt8) : UInt8 := if crc &&& 0x80 ≠ 0 then (crc <<< 1) ^^^ 0xD5 else crc <<< 1

/-- One byte: it is mixed in, then the bit loop runs eight times. -/
def crc8Byte (crc byte : UInt8) : UInt8 := Nat.repeat crc8Bit 8 (crc ^^^ byte)

def crc8 (data : List UInt8) : UInt8 := data.foldl crc8Byte 0

example : crc8 [kFrameTypeRcChannels] = 0xD3 := by decide

structure LinkStatistics where
  up_rssi_ant1 : UInt8 := 0
  up_rssi_ant2 : UInt8 := 0
  up_link_quality : UInt8 := 0
  up_snr : Int8 := 0
  active_antenna : UInt8 := 0
  rf_mode : UInt8 := 0
  up_tx_power : UInt8 := 0
  down_rssi : UInt8 := 0
  down_link_quality : UInt8 := 0
  down_snr : Int8 := 0
  deriving DecidableEq, Repr

inductive State where
  | sync | length | data
  deriving DecidableEq, Repr

structure Parser where
  buf : Vector UInt8 kMaxFrameLen.toNat := .replicate _ 0
  idx : UInt8 := 0
  frame_len : UInt8 := 0
  state : State := .sync
  frames_decoded : UInt32 := 0
  crc_errors : UInt32 := 0
  link_stats_count : UInt32 := 0
  link_stats : LinkStatistics := {}
  deriving DecidableEq, Repr

namespace Parser

/-- `Parser::reset`; the buffer is left as it is. -/
def reset (p : Parser) : Parser where
  buf := p.buf
  idx := 0
  frame_len := 0
  state := .sync
  frames_decoded := 0
  crc_errors := 0
  link_stats_count := 0
  link_stats := {}

/-- The locals of `unpackChannels`. -/
structure Unpacking where
  bits : UInt32 := 0
  bits_avail : Nat := 0
  byte_idx : Nat := 0
  ch : Nat := 0
  channels : Channels := .replicate _ 0

/-- One turn of the loop: a byte is added to the bits, or a channel is taken from them. -/
def Unpacking.next (d : List UInt8) (u : Unpacking) : Unpacking :=
  if u.bits_avail < 11 then
    { u with
      bits := u.bits ||| ((d.getD u.byte_idx 0).toUInt32 <<< UInt32.ofNat u.bits_avail)
      byte_idx := u.byte_idx + 1
      bits_avail := u.bits_avail + 8 }
  else
    { u with
      channels := u.channels.setIfInBounds u.ch (u.bits &&& 0x7FF).toUInt16
      ch := u.ch + 1
      bits := u.bits >>> 11
      bits_avail := u.bits_avail - 11 }

/-- The loop of `unpackChannels`, at most `fuel` turns. -/
def unpackLoop (d : List UInt8) : Nat → Unpacking → Unpacking
  | 0, u => u
  | fuel + 1, u => if u.ch < kNumChannels then unpackLoop d fuel (u.next d) else u

/-- The channels of a payload; every turn of the loop reads a byte or writes a channel. -/
def channelsOf (d : List UInt8) : Channels :=
  (unpackLoop d (kRcPayloadBytes.toNat + kNumChannels) {}).channels

def unpackChannels (p : Parser) : Channels := channelsOf (p.buf.toList.drop 3)

def unpackLinkStats (p : Parser) : Parser :=
  let d := p.buf.toList.drop 3
  { p with
    link_stats :=
      { up_rssi_ant1 := d.getD 0 0
        up_rssi_ant2 := d.getD 1 0
        up_link_quality := d.getD 2 0
        up_snr := (d.getD 3 0).toInt8
        active_antenna := d.getD 4 0
        rf_mode := d.getD 5 0
        up_tx_power := d.getD 6 0
        down_rssi := d.getD 7 0
        down_link_quality := d.getD 8 0
        down_snr := (d.getD 9 0).toInt8 }
    link_stats_count := p.link_stats_count + 1 }

/-- The end of `push` in `State::Data`: the frame is complete. -/
def finishFrame (p : Parser) : Parser × Option Channels :=
  let p := { p with state := .sync }
  let crc_calc := crc8 (window p.buf.toList 2 (p.frame_len - 1).toNat)
  let crc_rx := p.buf.toList.getD (2 + p.frame_len.toNat - 1) 0
  if crc_calc ≠ crc_rx then ({ p with crc_errors := p.crc_errors + 1 }, none)
  else
    let type := p.buf.toList.getD 2 0
    if type ≠ kFrameTypeRcChannels ∨ p.frame_len ≠ kRcPayloadBytes + 2 then
      if type = kFrameTypeLinkStats ∧ p.frame_len = kLinkStatsPayloadBytes + 2 then
        (p.unpackLinkStats, none)
      else (p, none)
    else ({ p with frames_decoded := p.frames_decoded + 1 }, some p.unpackChannels)

/-- `Parser::push`. -/
def push (p : Parser) (byte : UInt8) : Parser × Option Channels :=
  match p.state with
  | .sync =>
    if byte = kSyncByte then
      ({ p with buf := p.buf.setIfInBounds 0 byte, idx := 1, state := .length }, none)
    else (p, none)
  | .length =>
    if byte < 2 ∨ byte > kMaxFrameLen - 2 then ({ p with state := .sync }, none)
    else
      ({ p with
          frame_len := byte
          buf := p.buf.setIfInBounds 1 byte
          idx := 2
          state := .data }, none)
  | .data =>
    let p := { p with buf := p.buf.setIfInBounds p.idx.toNat byte, idx := p.idx + 1 }
    if p.idx < 2 + p.frame_len then (p, none) else p.finishFrame

/-- A string is pushed byte by byte. -/
def pushAll (p : Parser) : List UInt8 → Parser × List (Option Channels)
  | [] => (p, [])
  | byte :: bytes =>
    let (next, result) := p.push byte
    let (last, results) := pushAll next bytes
    (last, result :: results)

end Parser

/-- `buildFrame`: address, length, type, payload and CRC. -/
def buildFrame (type : UInt8) (payload : List UInt8) (out_capacity : Nat) : List UInt8 :=
  let frame_len := payload.length + 4
  if frame_len > kMaxFrameLen.toNat ∨ out_capacity < frame_len then []
  else
    [kSyncByte, UInt8.ofNat (payload.length + 2), type] ++ (payload ++ [crc8 (type :: payload)])

end HexapodVerified.Input.Crsf
