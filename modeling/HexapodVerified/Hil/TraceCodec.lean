import HexapodVerified.Protocol.Framing

/-!
# Fragments of trace records

`hil/trace_codec.cpp`: a logical record is sent in fragments, each with the header of the record, and put
together again in a buffer of the caller. A payload is a byte string of at most 65535 bytes, its length
the `payload_len` of the code; `out` is the caller's buffer, its length the `out_cap`.
-/

namespace HexapodVerified.Hil

open Bytes Protocol

abbrev kSchemaVersion : UInt16 := 1
abbrev kFragmentPrefixBytes : UInt16 := 21

inductive RecordType where
  | begin | config | step | marker | outputBlocked | «end»
  deriving DecidableEq, Repr

namespace RecordType

def all : List RecordType := [.begin, .config, .step, .marker, .outputBlocked, .end]

def number (t : RecordType) : UInt8 := UInt8.ofNat (all.idxOf t)

/-- Numbers behind `End` are refused. -/
def ofNumber (n : UInt8) : Option RecordType := all[n.toNat]?

theorem ofNumber_number (t : RecordType) : ofNumber t.number = some t := by
  cases t <;> rfl

end RecordType

inductive ReassemblyResult where
  | accepted | complete | badRequest | wrongRecord | outOfOrder | overflow | badCrc
  deriving DecidableEq, Repr

structure FragmentHeader where
  schema_version : UInt16 := kSchemaVersion
  session_id : UInt32 := 0
  capture_id : UInt32 := 0
  record_seq : UInt32 := 0
  record_type : RecordType := .begin
  fragment_index : UInt8 := 0
  fragment_count : UInt8 := 0
  logical_length : UInt16 := 0
  logical_crc16 : UInt16 := 0
  deriving DecidableEq, Repr

structure ReassemblyState where
  header : FragmentHeader := {}
  received : UInt16 := 0
  next_fragment : UInt8 := 0
  active : Bool := false
  deriving DecidableEq, Repr

/-! ## Sending -/

/-- The largest slice that fits a payload of `cap` bytes. -/
def maxFragmentData (cap : UInt16) : UInt16 :=
  if cap > kFragmentPrefixBytes then cap - kFragmentPrefixBytes else 0

def fragmentPrefix (header : FragmentHeader) : List UInt8 :=
  putU16 header.schema_version ++ (putU32 header.session_id ++ (putU32 header.capture_id ++
    (putU32 header.record_seq ++ ([header.record_type.number, header.fragment_index,
      header.fragment_count] ++ (putU16 header.logical_length ++ putU16 header.logical_crc16)))))

def expectedCount (logical_length fragment_capacity : UInt16) : UInt16 :=
  ((logical_length.toUInt32 + fragment_capacity.toUInt32 - 1) /
    fragment_capacity.toUInt32).toUInt16

def sliceOffset (header : FragmentHeader) (fragment_capacity : UInt16) : UInt32 :=
  header.fragment_index.toUInt32 * fragment_capacity.toUInt32

/-- The length of the slice at `offset`. -/
def sliceLength (header : FragmentHeader) (fragment_capacity : UInt16) (offset : UInt32) : UInt16 :=
  let remaining := header.logical_length - offset.toUInt16
  if remaining < fragment_capacity then remaining else fragment_capacity

/-- `encodeFragmentSlice`: one fragment from the slice that its index selects. -/
def encodeFragmentSlice (header : FragmentHeader) (fragment_bytes : List UInt8) (out_cap : UInt16) :
    Option (List UInt8) :=
  if header.schema_version ≠ kSchemaVersion ∨ header.session_id = 0 ∨ header.capture_id = 0 ∨
      header.fragment_count = 0 ∨ header.fragment_index ≥ header.fragment_count ∨
      header.logical_length = 0 then none
  else
    let fragment_capacity := maxFragmentData out_cap
    if fragment_capacity = 0 then none
    else
      let expected_count := expectedCount header.logical_length fragment_capacity
      if expected_count = 0 ∨ expected_count > 255 ∨
          header.fragment_count.toUInt16 ≠ expected_count then none
      else
        let offset := sliceOffset header fragment_capacity
        if offset ≥ header.logical_length.toUInt32 then none
        else if fragment_bytes.length ≠ (sliceLength header fragment_capacity offset).toNat ∨
            kFragmentPrefixBytes.toNat + fragment_bytes.length > out_cap.toNat then none
        else some (fragmentPrefix header ++ fragment_bytes)

/-- `encodeFragment`: one fragment from the whole record. -/
def encodeFragment (header : FragmentHeader) (logical : List UInt8) (out_cap : UInt16) :
    Option (List UInt8) :=
  if header.schema_version ≠ kSchemaVersion ∨ header.session_id = 0 ∨ header.capture_id = 0 ∨
      header.fragment_count = 0 ∨ header.fragment_index ≥ header.fragment_count ∨
      logical.length = 0 ∨ logical.length ≠ header.logical_length.toNat then none
  else
    let fragment_capacity := maxFragmentData out_cap
    if fragment_capacity = 0 then none
    else
      let expected_count := expectedCount header.logical_length fragment_capacity
      if expected_count = 0 ∨ expected_count > 255 ∨
          header.fragment_count.toUInt16 ≠ expected_count ∨
          header.logical_crc16 ≠ crc16 logical then none
      else
        let offset := sliceOffset header fragment_capacity
        if offset ≥ header.logical_length.toUInt32 then none
        else
          let slice_length := sliceLength header fragment_capacity offset
          let total_length := kFragmentPrefixBytes + slice_length
          if total_length > out_cap then none
          else
            encodeFragmentSlice header (window logical offset.toUInt16.toNat slice_length.toNat)
              out_cap

/-! ## Receiving -/

def decodeHeader (payload : List UInt8) : Option (FragmentHeader × Nat) :=
  if payload.length < kFragmentPrefixBytes.toNat then none
  else
    match RecordType.ofNumber (payload.getD 14 0) with
    | none => none
    | some record_type =>
      let decoded : FragmentHeader :=
        { schema_version := getU16 payload
          session_id := getU32 (payload.drop 2)
          capture_id := getU32 (payload.drop 6)
          record_seq := getU32 (payload.drop 10)
          record_type := record_type
          fragment_index := payload.getD 15 0
          fragment_count := payload.getD 16 0
          logical_length := getU16 (payload.drop 17)
          logical_crc16 := getU16 (payload.drop 19) }
      if decoded.schema_version ≠ kSchemaVersion ∨ decoded.session_id = 0 ∨
          decoded.capture_id = 0 ∨ decoded.fragment_count = 0 ∨
          decoded.fragment_index ≥ decoded.fragment_count ∨ decoded.logical_length = 0 then none
      else some (decoded, payload.length - kFragmentPrefixBytes.toNat)

def sameRecord (a b : FragmentHeader) : Prop :=
  a.schema_version = b.schema_version ∧ a.session_id = b.session_id ∧
    a.capture_id = b.capture_id ∧ a.record_seq = b.record_seq ∧ a.record_type = b.record_type ∧
    a.fragment_count = b.fragment_count ∧ a.logical_length = b.logical_length ∧
    a.logical_crc16 = b.logical_crc16

instance (a b : FragmentHeader) : Decidable (sameRecord a b) :=
  inferInstanceAs (Decidable (_ ∧ _))

/-- Writes `data` at `index`. -/
def overwrite (out : List UInt8) (index : Nat) (data : List UInt8) : List UInt8 :=
  out.take index ++ (data ++ out.drop (index + data.length))

/-- What a receiver holds: its state and its buffer. -/
structure Receiver where
  state : ReassemblyState := {}
  out : List UInt8
  deriving DecidableEq, Repr

def ReassemblyState.opened (header : FragmentHeader) : ReassemblyState where
  header := header
  received := 0
  next_fragment := 0
  active := true

/-- The second half of `acceptFragment`: a fragment of the record that is open. -/
def appendFragment (rx : Receiver) (header : FragmentHeader) (data : List UInt8) :
    ReassemblyResult × Receiver :=
  if header.fragment_index ≠ rx.state.next_fragment ∨
      rx.state.received.toNat + data.length > header.logical_length.toNat then
    (.outOfOrder, rx)
  else
    let out := overwrite rx.out rx.state.received.toNat data
    let state := { rx.state with
      received := rx.state.received + UInt16.ofNat data.length
      next_fragment := rx.state.next_fragment + 1 }
    if state.next_fragment < header.fragment_count then (.accepted, { state, out })
    else if state.received ≠ header.logical_length ∨
        crc16 (out.take state.received.toNat) ≠ header.logical_crc16 then
      (.badCrc, { state := { state with active := false }, out })
    else (.complete, { state := { state with active := false }, out })

def acceptFragment (rx : Receiver) (payload : List UInt8) : ReassemblyResult × Receiver :=
  match decodeHeader payload with
  | none => (.badRequest, rx)
  | some (header, fragment_data_len) =>
    if fragment_data_len = 0 ∨ header.logical_length.toNat > rx.out.length then (.badRequest, rx)
    else
      let data := payload.drop kFragmentPrefixBytes.toNat
      if !rx.state.active then
        if header.fragment_index ≠ 0 then (.outOfOrder, rx)
        else
          let rx := { rx with state := .opened header }
          appendFragment rx header data
      else if ¬sameRecord rx.state.header header then (.wrongRecord, rx)
      else appendFragment rx header data

def feed (rx : Receiver) : List (List UInt8) → Receiver × List ReassemblyResult
  | [] => (rx, [])
  | payload :: payloads =>
    let (result, next) := acceptFragment rx payload
    let (last, results) := feed next payloads
    (last, result :: results)

end HexapodVerified.Hil
