import HexapodVerified.Host.HilRecords

/-!
# The trace assembler of the host

The second half of `hexapod_protocol/hil.py`: an event payload is decoded to a fragment, the fragments of a
record are put together, and the records are checked against each other until the trace is complete. A
method gives the object back as it is afterwards, also when it raises.
-/

namespace HexapodVerified.Host

abbrev TRACE_FRAGMENT_EVENT : Nat := 0xA0
abbrev OUTPUT_BLOCKED_EVENT : Nat := 0xA1
abbrev FRAGMENT_PREFIX_BYTES : Nat := 21
abbrev MAX_EVENT_PAYLOAD : Nat := 256
abbrev MAX_FRAGMENT_DATA : Nat := MAX_EVENT_PAYLOAD - FRAGMENT_PREFIX_BYTES

structure TraceFragment where
  header : FragmentHeader
  data : List UInt8
  deriving DecidableEq, Repr

/-! ## Fragments -/

/-- `_validate_header`. -/
def validateHeader (header : FragmentHeader) : Except String Unit :=
  if header.schema_version ≠ TRACE_SCHEMA_VERSION then
    .error ("unsupported trace schema version " ++ toString header.schema_version)
  else if header.session_id = 0 ∨ header.capture_id = 0 then
    .error "session_id and capture_id must be nonzero"
  else if header.fragment_count = 0 ∨ header.fragment_index ≥ header.fragment_count then
    .error "fragment index/count is invalid"
  else if header.logical_length = 0 ∨ header.logical_length > MAX_LOGICAL_RECORD_BYTES then
    .error "logical record length is invalid"
  else
    let expected_count := (header.logical_length + MAX_FRAGMENT_DATA - 1) / MAX_FRAGMENT_DATA
    if header.fragment_count ≠ expected_count then
      .error "fragment count does not match logical record length"
    else .ok ()

/-- The fields of `_FRAGMENT_HEADER` with the number of the record type. -/
def unpackHeader (payload : List UInt8) (record_type : RecordType) : FragmentHeader where
  schema_version := ofLittleEndian (payload.take 2)
  session_id := ofLittleEndian ((payload.drop 2).take 4)
  capture_id := ofLittleEndian ((payload.drop 6).take 4)
  record_seq := ofLittleEndian ((payload.drop 10).take 4)
  record_type
  fragment_index := ofLittleEndian ((payload.drop 15).take 1)
  fragment_count := ofLittleEndian ((payload.drop 16).take 1)
  logical_length := ofLittleEndian ((payload.drop 17).take 2)
  logical_crc16 := ofLittleEndian ((payload.drop 19).take 2)

def decodeFragment (payload : List UInt8) : Except String TraceFragment :=
  if payload.length < FRAGMENT_PREFIX_BYTES then
    .error "trace fragment is shorter than its prefix"
  else if payload.length > MAX_EVENT_PAYLOAD then
    .error "trace fragment exceeds the event payload limit"
  else
    let record_type := ofLittleEndian ((payload.drop 14).take 1)
    match RecordType.all[record_type]? with
    | none => .error ("unknown trace record type " ++ toString record_type)
    | some typed_record =>
      let header := unpackHeader payload typed_record
      match validateHeader header with
      | .error text => .error text
      | .ok () =>
        let data := payload.drop FRAGMENT_PREFIX_BYTES
        if data = [] then .error "trace fragment has no logical-record data"
        else
          -- an unsigned difference is enough: a negative one is not the length of any data either
          let expected_length :=
            min MAX_FRAGMENT_DATA
              (header.logical_length - header.fragment_index * MAX_FRAGMENT_DATA)
          if data.length ≠ expected_length then
            .error "trace fragment data length is inconsistent"
          else .ok { header, data }

/-! ## The reassembler -/

structure TraceReassembler where
  expected_session_id : Option Nat := none
  header : Option FragmentHeader := none
  next_fragment : Nat := 0
  record : List UInt8 := []
  deriving DecidableEq, Repr

namespace TraceReassembler

def active (s : TraceReassembler) : Bool := s.header.isSome

def reset (s : TraceReassembler) : TraceReassembler :=
  { s with header := none, next_fragment := 0, record := [] }

/-- `_same_record`: everything but the index of the fragment. -/
def sameRecord (left right : FragmentHeader) : Prop :=
  left.schema_version = right.schema_version ∧ left.session_id = right.session_id ∧
    left.capture_id = right.capture_id ∧ left.record_seq = right.record_seq ∧
    left.record_type = right.record_type ∧ left.fragment_count = right.fragment_count ∧
    left.logical_length = right.logical_length ∧ left.logical_crc16 = right.logical_crc16

instance (left right : FragmentHeader) : Decidable (sameRecord left right) :=
  inferInstanceAs (Decidable (_ ∧ _))

def append (s : TraceReassembler) (fragment : TraceFragment) :
    TraceReassembler × Except String (Option TraceRecord) :=
  let header := fragment.header
  if header.fragment_index ≠ s.next_fragment then
    (s, .error "trace fragment is duplicated or out of order")
  else if s.record.length + fragment.data.length > header.logical_length then
    (s, .error "trace fragments exceed logical record length")
  else
    let s := { s with record := s.record ++ fragment.data, next_fragment := s.next_fragment + 1 }
    if s.next_fragment < header.fragment_count then (s, .ok none)
    else if s.record.length ≠ header.logical_length then (s, .error "trace record is truncated")
    else if crc16 s.record ≠ header.logical_crc16 then (s, .error "trace record CRC mismatch")
    else
      match s.header with
      | none => (s, .error "trace reassembler lost its record header")
      | some completed_header => (s, .ok (some { header := completed_header, payload := s.record }))

/-- The body of the `try`. -/
def tryAccept (s : TraceReassembler) (fragment : TraceFragment) :
    TraceReassembler × Except String (Option TraceRecord) :=
  let header := fragment.header
  if s.expected_session_id.any (header.session_id ≠ ·) then
    (s, .error "trace fragment belongs to another session")
  else
    match s.header with
    | none =>
      if header.fragment_index ≠ 0 then (s, .error "first trace fragment is out of order")
      else append { s with header := some header, next_fragment := 0, record := [] } fragment
    | some opened =>
      if ¬sameRecord opened header then
        (s, .error "trace fragment belongs to another logical record")
      else s.append fragment

/-- `accept`: the `except` and the `finally` around it. -/
def accept (s : TraceReassembler) (fragment : TraceFragment) :
    TraceReassembler × Except String (Option TraceRecord) :=
  let out := s.tryAccept fragment
  let s :=
    match out.2 with
    | .error _ => out.1.reset
    | .ok _ => out.1
  if s.header.isSome ∧ s.next_fragment = fragment.header.fragment_count then (s.reset, out.2)
  else (s, out.2)

end TraceReassembler

/-! ## The assembler -/

structure TraceAssembler where
  reassembler : TraceReassembler := {}
  expected_session_id : Option Nat := none
  begin : Option TraceBegin := none
  config : Option ConfigSnapshot := none
  «end» : Option TraceEnd := none
  next_record_seq : Nat := 1
  records : List ParsedRecord := []
  steps : List ControllerStep := []
  markers : List TraceMarker := []
  output_blocked : List OutputBlocked := []
  fragments_before_end : Nat := 0

structure HILTrace where
  begin : TraceBegin
  config : ConfigSnapshot
  steps : List ControllerStep
  markers : List TraceMarker
  output_blocked : List OutputBlocked
  «end» : TraceEnd
  records : List ParsedRecord

namespace TraceAssembler

/-- `__init__`; the text is the one of the `ValueError`. -/
def new (expected_session_id : Option Nat) : Except String TraceAssembler :=
  if expected_session_id = some 0 then .error "expected_session_id must be nonzero when provided"
  else .ok { reassembler := { expected_session_id }, expected_session_id }

/-- `_require_existing_step`. -/
def requireExistingStep (a : TraceAssembler) (step_sequence : Nat) (record_name : String) :
    Except String Unit :=
  if 1 ≤ step_sequence ∧ step_sequence ≤ a.steps.length then .ok ()
  else .error (record_name ++ " does not refer to a recorded controller step")

/-- `_validate_end`. -/
def validateEnd (a : TraceAssembler) (begin : TraceBegin) («end» : TraceEnd) : Except String Unit :=
  if end.requested_steps ≠ begin.requested_steps then
    .error "TraceEnd requested count does not match TraceBegin"
  else if end.recorded_steps ≠ a.steps.length then
    .error "TraceEnd recorded count does not match ControllerStep records"
  else if end.emitted_record_count ≠ a.records.length then
    .error "TraceEnd logical record counter is inconsistent"
  else if end.emitted_fragment_count ≠ a.fragments_before_end then
    .error "TraceEnd fragment counter is inconsistent"
  else if end.reason = .complete ∧ end.recorded_steps ≠ end.requested_steps then
    .error "completed trace does not contain all requested steps"
  else .ok ()

/-- `_accept_following_record`. -/
def acceptFollowingRecord (a : TraceAssembler) (begin : TraceBegin) (parsed : ParsedRecord) :
    TraceAssembler × Except String Unit :=
  match parsed with
  | .begin _ => (a, .error "unknown parsed trace record")
  | .config parsed =>
    if a.config.isSome ∨ a.steps ≠ [] then
      (a, .error "ConfigSnapshot must appear exactly once before steps")
    else if parsed.revision ≠ begin.config_revision then
      (a, .error "ConfigSnapshot revision does not match TraceBegin")
    else if parsed.payload_crc16 ≠ begin.config_payload_crc16 then
      (a, .error "ConfigSnapshot CRC does not match TraceBegin")
    else ({ a with config := some parsed }, .ok ())
  | .step parsed =>
    match a.config with
    | none => (a, .error "ControllerStep appeared before ConfigSnapshot")
    | some config =>
      if parsed.config.revision ≠ config.revision ∨ parsed.config.valid ≠ config.valid ∨
          parsed.config.persistent ≠ config.persistent then
        (a, .error "ControllerStep config reference does not match ConfigSnapshot")
      else if parsed.step_sequence ≠ a.steps.length + 1 then
        (a, .error "ControllerStep sequence is not contiguous")
      else if a.steps.length ≥ begin.requested_steps then
        (a, .error "trace recorded more steps than requested")
      else ({ a with steps := a.steps ++ [parsed] }, .ok ())
  | .marker parsed =>
    match a.requireExistingStep parsed.step_sequence "Marker" with
    | .error text => (a, .error text)
    | .ok () => ({ a with markers := a.markers ++ [parsed] }, .ok ())
  | .outputBlocked parsed =>
    match a.requireExistingStep parsed.step_sequence "OutputBlocked" with
    | .error text => (a, .error text)
    | .ok () => ({ a with output_blocked := a.output_blocked ++ [parsed] }, .ok ())
  | .end parsed =>
    if a.config.isNone then (a, .error "TraceEnd appeared before ConfigSnapshot")
    else
      match a.validateEnd begin parsed with
      | .error text => (a, .error text)
      | .ok () => ({ a with «end» := some parsed }, .ok ())

/-- The last lines of `_accept_record`. -/
def noteRecord (a : TraceAssembler) (header : FragmentHeader) (parsed : ParsedRecord) :
    TraceAssembler :=
  let a := { a with records := a.records ++ [parsed] }
  match parsed with
  | .end _ => a
  | _ => { a with fragments_before_end := a.fragments_before_end + header.fragment_count }

/-- `_accept_record`. -/
def acceptRecord (a : TraceAssembler) (record : TraceRecord) (parsed : ParsedRecord) :
    TraceAssembler × Except String Unit :=
  let header := record.header
  if header.record_seq ≠ a.next_record_seq then
    (a, .error "trace record sequence is not contiguous")
  else
    let a := { a with next_record_seq := a.next_record_seq + 1 }
    match a.begin with
    | none =>
      match parsed with
      | .begin begin =>
        let a := { a with begin := some begin }
        if a.expected_session_id.any (begin.session_id ≠ ·) then
          (a, .error "TraceBegin belongs to another session")
        else (a.noteRecord header parsed, .ok ())
      | _ => (a, .error "TraceBegin must be the first logical record")
    | some begin =>
      if header.session_id ≠ begin.session_id ∨ header.capture_id ≠ begin.capture_id then
        (a, .error "trace record belongs to another capture")
      else
        match parsed with
        | .begin _ => (a, .error "trace contains multiple TraceBegin records")
        | _ =>
          match a.acceptFollowingRecord begin parsed with
          | (a, .error text) => (a, .error text)
          | (a, .ok ()) => (a.noteRecord header parsed, .ok ())

/-- The format `02X`. -/
def hexByte (n : Nat) : String :=
  let digits := (String.ofList (Nat.toDigits 16 n)).toUpper
  if digits.length < 2 then "0" ++ digits else digits

/-- `accept_event`. -/
def acceptEvent (a : TraceAssembler) (event_id : Nat) (payload : List UInt8) :
    TraceAssembler × Except String (Option ParsedRecord) :=
  if a.end.isSome then (a, .error "trace contains an event after TraceEnd")
  else if event_id ≠ TRACE_FRAGMENT_EVENT ∧ event_id ≠ OUTPUT_BLOCKED_EVENT then
    (a, .error ("unsupported HIL event ID 0x" ++ hexByte event_id))
  else
    match decodeFragment payload with
    | .error text => (a, .error text)
    | .ok fragment =>
      if fragment.header.record_type = .outputBlocked ∧ event_id ≠ OUTPUT_BLOCKED_EVENT then
        (a, .error "OutputBlocked record used the wrong event ID")
      else if fragment.header.record_type ≠ .outputBlocked ∧ event_id ≠ TRACE_FRAGMENT_EVENT then
        (a, .error "non-output trace record used the wrong event ID")
      else
        let (reassembler, record) := a.reassembler.accept fragment
        let a := { a with reassembler }
        match record with
        | .error text => (a, .error text)
        | .ok none => (a, .ok none)
        | .ok (some record) =>
          match parseRecord record with
          | .error text => (a, .error text)
          | .ok parsed =>
            match a.acceptRecord record parsed with
            | (a, .error text) => (a, .error text)
            | (a, .ok ()) => (a, .ok (some parsed))

/-- `finalize`. -/
def finalize (a : TraceAssembler) : Except String HILTrace :=
  match a.begin, a.config, a.end with
  | some begin, some config, some «end» =>
    .ok
      { begin
        config
        steps := a.steps
        markers := a.markers
        output_blocked := a.output_blocked
        «end»
        records := a.records }
  | _, _, _ => .error "trace is incomplete"

/-- The events of a capture, one after the other; the first error ends it. -/
def acceptEvents (a : TraceAssembler) : List (Nat × List UInt8) → Except String TraceAssembler
  | [] => .ok a
  | (event_id, payload) :: events =>
    match a.acceptEvent event_id payload with
    | (_, .error text) => .error text
    | (a, .ok _) => a.acceptEvents events

end TraceAssembler

end HexapodVerified.Host
