import HexapodVerified.Companion.FrameExtractor
import HexapodVerified.Host.Framing
import HexapodVerified.Lib.Runs
import Mathlib.Data.Finset.Basic

/-!
# The protocol client

`transport/protocol_client.py`: a client that writes commands and waits for the responses with their numbers.
Until its reader thread runs it reads the stream itself while it waits; from then on the reader thread puts a
response into the queue of the call that is registered under its number.
-/

namespace HexapodVerified.Companion

open Host

abbrev MsgType.TELEMETRY : Int := 2
abbrev MsgType.EVENT : Int := 3

namespace StreamId

abbrev HEALTH : Int := 0
abbrev CONTROL_STATE : Int := 1
abbrev RC_INPUT : Int := 5
abbrev API_STATS : Int := 6

end StreamId

/-- What `decode_stream` raises. -/
inductive StreamError where
  | shortPayload
  deriving DecidableEq, Repr

/-- `_next_seq`. -/
def nextSeq (seq : UInt16) : UInt16 := if seq + 1 = 0 then 1 else seq + 1

abbrev MSG_TELEMETRY_BASE : Int := 0x40

/-- The offset and the size of what the decoder of a stream reads whatever the length of the payload is. The
decoders that are not named look at the length first. -/
def unguardedReads (stream_id : Int) : List (Nat × Nat) :=
  if stream_id = StreamId.HEALTH then [(0, 4), (4, 1), (5, 1), (6, 4), (10, 2)]
  else if stream_id = StreamId.CONTROL_STATE then [(0, 1), (1, 1), (2, 1)]
  else if stream_id = StreamId.RC_INPUT then [(0, 1), (1, 1)]
  else if stream_id = StreamId.API_STATS then [(0, 4)]
  else []

/-- `_dispatch_telemetry`: the `struct.error` or `IndexError` of `decode_stream` is not caught; what the callbacks
raise is. -/
def dispatchTelemetry (header : Header) (payload : List UInt8) : Except StreamError Unit :=
  if (unguardedReads (header.msg_id - MSG_TELEMETRY_BASE)).any fun read => payload.length < read.1 + read.2 then
    .error .shortPayload
  else .ok ()

/-- `_handle_frame`, which returns the header and the payload of a response. -/
def handleFrame (frame : List UInt8) : Except StreamError (Option (Header × List UInt8)) :=
  if frame.length < 2 ∨ frame.head? ≠ some 0x00 ∨ frame.getLast? ≠ some 0x00 then .ok none
  else
    match decodeFrameBody frame.tail.dropLast with
    | .error _ => .ok none
    | .ok (header, payload) =>
      if header.msg_type = MsgType.TELEMETRY then (dispatchTelemetry header payload).map fun _ => none
      else if header.msg_type = MsgType.EVENT then .ok none
      else .ok (some (header, payload))

def raises (frame : List UInt8) : Bool :=
  match handleFrame frame with
  | .error _ => true
  | .ok _ => false

def responds (seq : UInt16) (frame : List UInt8) : Bool :=
  match handleFrame frame with
  | .error _ => false
  | .ok response => response.any fun response => response.1.seq = (seq.toNat : Int)

/-! ## The inline path -/

/-- A chunk that is read: the extractor behind it, the frames that were handed to `_handle_frame`, and the bytes that
the generator was not asked for any more. -/
structure ChunkRead where
  extractor : FrameExtractor
  handed : List (List UInt8) := []
  left : List UInt8 := []
  stopped : Bool := false
  deriving DecidableEq, Repr

/-- The loop over the frames of a chunk, which is left at the first frame that stops it. -/
def readChunk (stop : List UInt8 → Bool) (e : FrameExtractor) : List UInt8 → ChunkRead
  | [] => { extractor := e }
  | b :: data =>
    let (next, frames) := e.pushByte b
    if frames.any stop then { extractor := next, handed := frames, left := data, stopped := true }
    else
      let read := readChunk stop next data
      { read with handed := frames ++ read.handed }

/-- The client, with what it has read from the stream and what it has handed on so far. -/
structure Session where
  extractor : FrameExtractor := {}
  seq : UInt16 := 0
  /-- the request of the inline path that waits for its response -/
  waiting : Option UInt16 := none
  /-- the reader thread runs -/
  reader : Bool := false
  received : List UInt8 := []
  handed : List (List UInt8) := []

/-- Behind a chunk. -/
def Session.take (s : Session) (chunk : List UInt8) (read : ChunkRead) : Session :=
  { s with extractor := read.extractor, received := s.received ++ chunk, handed := s.handed ++ read.handed }

/-- `_request_sync` leaves its loop at its response, and when `_handle_frame` raises. -/
def leaves (seq : UInt16) (frame : List UInt8) : Bool := responds seq frame || raises frame

inductive SessionAction where
  | request
  | read (chunk : List UInt8)
  | timeout
  | ensureReader
  | readLoop (chunk : List UInt8)

/-- At most 512 bytes are read at a time. -/
inductive SessionStep : Session → SessionAction → Session → Prop where
  /-- `_request_sync` writes its command. -/
  | requestSync {s : Session} (hidle : s.waiting = none) (hreader : s.reader = false) :
      SessionStep s .request { s with seq := nextSeq s.seq, waiting := some (nextSeq s.seq) }
  | read {s : Session} {seq : UInt16} {chunk : List UInt8} (hwaiting : s.waiting = some seq)
      (hsize : chunk.length ≤ 512) :
      SessionStep s (.read chunk)
        { s.take chunk (readChunk (leaves seq) s.extractor chunk) with
          waiting := if (readChunk (leaves seq) s.extractor chunk).stopped then none else some seq }
  | timeout {s : Session} (hwaiting : s.waiting ≠ none) : SessionStep s .timeout { s with waiting := none }
  | ensureReader {s : Session} (hidle : s.waiting = none) : SessionStep s .ensureReader { s with reader := true }
  /-- With the reader thread a request only registers itself. -/
  | requestAsync {s : Session} (hreader : s.reader = true) :
      SessionStep s .request { s with seq := nextSeq s.seq }
  /-- The reader thread ends when `_handle_frame` raises. -/
  | readLoop {s : Session} {chunk : List UInt8} (hreader : s.reader = true) (hsize : chunk.length ≤ 512) :
      SessionStep s (.readLoop chunk)
        { s.take chunk (readChunk raises s.extractor chunk) with
          reader := !(readChunk raises s.extractor chunk).stopped }

/-! ## The asynchronous path -/

/-- A response frame with the number in its header. Which call's command it answers and which of all frames it is
can not be seen by the client. -/
structure Response where
  seq : UInt16
  answers : Nat
  frame : Nat
  deriving DecidableEq, Repr

inductive Progress where
  /-- `_next_seq` has returned. -/
  | numbered
  /-- The queue is in `_pending`. -/
  | registered
  /-- The command is written, and the call waits at its queue. -/
  | waiting
  /-- The outcome is known, and `finally` is still to come. -/
  | leaving
  | ended
  deriving DecidableEq, Repr

/-- A call of `request`, or of `send`, which awaits no response; the `slot` is the queue of size one. -/
structure Call where
  seq : UInt16
  awaits : Bool
  progress : Progress := .numbered
  written : Bool := false
  slot : Option Response := none
  result : Option Response := none
  deriving DecidableEq, Repr

/-- The client and the firmware. The calls stand in the order in which they drew their numbers, whatever the threads
are that make them; a queue in `pending` goes by its call. -/
structure Link where
  seq : UInt16 := 0
  calls : List Call := []
  pending : UInt16 → Option Nat := fun _ => none
  /-- what the reader thread is about to put into a queue -/
  routing : Option (Nat × Response) := none
  flight : Finset Response := ∅
  /-- how many frames the firmware has sent -/
  sent : Nat := 0

inductive LinkAction where
  | issue (awaits : Bool)
  | register (call : Nat)
  | write (call : Nat)
  | fail (call : Nat)
  | take (call : Nat)
  | timeout (call : Nat)
  | leave (call : Nat)
  | answer (call : Nat)
  | lose (response : Response)
  | arrive (response : Response)
  | deliver
  deriving DecidableEq, Repr

/-- The steps of the calls, of the firmware and of the reader thread. A call without a connection returns at once and
is left out. -/
inductive LinkStep : Link → LinkAction → Link → Prop where
  | issue {s : Link} {awaits : Bool} :
      LinkStep s (.issue awaits)
        { s with seq := nextSeq s.seq, calls := s.calls ++ [{ seq := nextSeq s.seq, awaits }] }
  | register {s : Link} {c : Nat} {call : Call} (hcall : s.calls[c]? = some call) (hawaits : call.awaits = true)
      (hprogress : call.progress = .numbered) :
      LinkStep s (.register c)
        { s with
          calls := s.calls.set c { call with progress := .registered }
          pending := Function.update s.pending call.seq (some c) }
  | write {s : Link} {c : Nat} {call : Call} (hcall : s.calls[c]? = some call)
      (hprogress : call.progress = if call.awaits then .registered else .numbered) :
      LinkStep s (.write c)
        { s with
          calls := s.calls.set c
            { call with written := true, progress := if call.awaits then .waiting else .ended } }
  /-- `_write` raises an error. -/
  | fail {s : Link} {c : Nat} {call : Call} (hcall : s.calls[c]? = some call)
      (hprogress : call.progress = if call.awaits then .registered else .numbered) :
      LinkStep s (.fail c)
        { s with calls := s.calls.set c { call with progress := if call.awaits then .leaving else .ended } }
  /-- `slot.get` returns. -/
  | take {s : Link} {c : Nat} {call : Call} {r : Response} (hcall : s.calls[c]? = some call)
      (hprogress : call.progress = .waiting) (hslot : call.slot = some r) :
      LinkStep s (.take c)
        { s with calls := s.calls.set c { call with progress := .leaving, slot := none, result := some r } }
  /-- `slot.get` raises `Empty`. -/
  | timeout {s : Link} {c : Nat} {call : Call} (hcall : s.calls[c]? = some call)
      (hprogress : call.progress = .waiting) (hslot : call.slot = none) :
      LinkStep s (.timeout c) { s with calls := s.calls.set c { call with progress := .leaving } }
  /-- What is registered under the number is removed. -/
  | leave {s : Link} {c : Nat} {call : Call} (hcall : s.calls[c]? = some call)
      (hprogress : call.progress = .leaving) :
      LinkStep s (.leave c)
        { s with
          calls := s.calls.set c { call with progress := .ended }
          pending := Function.update s.pending call.seq none }
  /-- The firmware sends a frame with the number of a command that it has received. -/
  | answer {s : Link} {c : Nat} {call : Call} (hcall : s.calls[c]? = some call) (hwritten : call.written = true) :
      LinkStep s (.answer c) { s with flight := insert ⟨call.seq, c, s.sent⟩ s.flight, sent := s.sent + 1 }
  | lose {s : Link} {r : Response} (hflight : r ∈ s.flight) :
      LinkStep s (.lose r) { s with flight := s.flight.erase r }
  /-- `_handle_frame` looks up the queue. -/
  | arrive {s : Link} {r : Response} (hflight : r ∈ s.flight) (hidle : s.routing = none) :
      LinkStep s (.arrive r)
        { s with flight := s.flight.erase r, routing := (s.pending r.seq).map fun c => (c, r) }
  /-- `put_nowait`, which leaves a full queue as it is. -/
  | deliver {s : Link} {c : Nat} {call : Call} {r : Response} (hrouting : s.routing = some (c, r))
      (hcall : s.calls[c]? = some call) :
      LinkStep s .deliver
        { s with routing := none, calls := s.calls.set c { call with slot := call.slot.or (some r) } }

end HexapodVerified.Companion
