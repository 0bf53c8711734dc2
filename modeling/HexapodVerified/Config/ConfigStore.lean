import HexapodVerified.Lib.Runs
import HexapodVerified.Protocol.Framing

/-!
# The store of configurations

`config/config_store.cpp`. The file is a byte array that only grows: reads inside it succeed, reads
beyond its end fail, and a commit may find that the card stops taking bytes. Offsets are natural
numbers; the file stays far below the 4 GiB at which the source's offsets would wrap.
-/

namespace HexapodVerified.Config

open HexapodVerified.Protocol Bytes Transition

def kConfigMagic : UInt32 := 0x48455843
def kConfigVersion : UInt16 := 1
def kCommitMagic : UInt32 := 0x54494D43
abbrev kHeaderSize : Nat := 16
abbrev kTrailerSize : Nat := 8
abbrev kMaxPayload : Nat := 2032

structure SlotHeader where
  magic : UInt32 := 0
  version : UInt16 := 0
  sequence : UInt32 := 0
  length : UInt16 := 0
  payload_crc : UInt16 := 0
  header_crc : UInt16 := 0
  deriving DecidableEq, Repr

/-- `StoreStatus`, with the `newest` location that `scan` fills beside it. -/
structure StoreStatus where
  has_valid_record : Bool := false
  sequence : UInt32 := 0
  length : UInt16 := 0
  file_size : Nat := 0
  valid_records : Nat := 0
  newest_payload_offset : Nat := 0
  newest_header : SlotHeader := {}
  deriving DecidableEq, Repr

def serializeHeader (h : SlotHeader) : List UInt8 :=
  putU32 h.magic ++ (putU16 h.version ++ (putU32 h.sequence ++ (putU16 h.length ++
    (putU16 h.payload_crc ++ putU16 h.header_crc))))

def deserializeHeader (raw : List UInt8) : SlotHeader where
  magic := getU32 raw
  version := getU16 (raw.drop 4)
  sequence := getU32 (raw.drop 6)
  length := getU16 (raw.drop 10)
  payload_crc := getU16 (raw.drop 12)
  header_crc := getU16 (raw.drop 14)

def headerCrc (raw : List UInt8) : UInt16 := crc16 (raw.take (kHeaderSize - 2))

def headerValid (raw : List UInt8) : Bool :=
  let h := deserializeHeader raw
  h.magic == kConfigMagic && h.version == kConfigVersion && decide (h.length.toNat ≤ kMaxPayload) &&
    headerCrc raw == h.header_crc

/-- `ConfigFile::read`. -/
def readFile (file : List UInt8) (offset n : Nat) : Option (List UInt8) :=
  if offset + n ≤ file.length then some (window file offset n) else none

/-- The chunk loop of `ConfigStore::payloadValid`: the CRC of the remaining bytes from `offset` on. -/
def payloadCrc (file : List UInt8) (offset remaining : Nat) (crc : UInt16) : Option UInt16 :=
  if remaining = 0 then some crc
  else
    let n := min remaining 64
    match readFile file offset n with
    | none => none
    | some chunk => payloadCrc file (offset + n) (remaining - n) (crc16Update crc chunk)
termination_by remaining

def payloadValid (file : List UInt8) (payload_offset : Nat) (h : SlotHeader) : Bool :=
  payloadCrc file payload_offset h.length.toNat kCrc16Init == some h.payload_crc

/-- `committed`. -/
def trailerValid (h : SlotHeader) (trailer : List UInt8) : Bool :=
  getU32 trailer == kCommitMagic && getU32 (trailer.drop 4) == h.sequence

/-- What a complete record does to the status: the highest sequence number wins, the first of equal
ones stays. -/
def StoreStatus.note (status : StoreStatus) (h : SlotHeader) (payload_offset : Nat) : StoreStatus :=
  let status := { status with valid_records := status.valid_records + 1 }
  if !status.has_valid_record || h.sequence > status.sequence then
    { status with
      has_valid_record := true
      sequence := h.sequence
      length := h.length
      newest_payload_offset := payload_offset
      newest_header := h }
  else status

/-- Where the record of a header at `offset` ends. -/
def recordEnd (offset : Nat) (h : SlotHeader) : Nat :=
  offset + kHeaderSize + h.length.toNat + kTrailerSize

/-- The loop of `ConfigStore::scan`. `raw?` is the header window, present when `window_valid` is
set; `none` as the result is a failed read. -/
def scanLoop (file : List UInt8) (offset : Nat) (raw? : Option (List UInt8))
    (status : StoreStatus) : Option StoreStatus :=
  if file.length - offset < kHeaderSize + kTrailerSize then some status
  else
    match raw?.or (readFile file offset kHeaderSize) with
    | none => none
    | some raw =>
      let h := deserializeHeader raw
      if !headerValid raw then
        match readFile file (offset + kHeaderSize) 1 with
        | none => none
        | some byte => scanLoop file (offset + 1) (some (raw.drop 1 ++ byte)) status
      else
        let payload_offset := offset + kHeaderSize
        let trailer_offset := payload_offset + h.length.toNat
        let record_end := recordEnd offset h
        if record_end > file.length then some status
        else
          let payload_valid := payloadValid file payload_offset h
          match readFile file trailer_offset kTrailerSize with
          | none => none
          | some trailer =>
            scanLoop file record_end none
              (if payload_valid && trailerValid h trailer then status.note h payload_offset
                else status)
termination_by file.length - offset
decreasing_by
  all_goals simp only [recordEnd, kHeaderSize, kTrailerSize] at *
  all_goals omega

def StoreStatus.sized (status : StoreStatus) (file_size : Nat) : StoreStatus :=
  { status with file_size }

def scan (file : List UInt8) : Option StoreStatus :=
  (scanLoop file 0 none {}).map fun status => status.sized file.length

structure ConfigStore where
  latest_sequence : UInt32 := 0
  sequence_known : Bool := false
  deriving DecidableEq, Repr

/-- How the card behaves during one commit: the number of bytes it still takes, when it is not going to
take all, and whether it can be synced. -/
structure Card where
  room : Option Nat := none
  sync_ok : Bool := true
  deriving DecidableEq, Repr

/-- `ConfigFile::append`: a card that runs out of room keeps what fitted. -/
def appendFile (card : Card) (file buf : List UInt8) : Card × List UInt8 × Bool :=
  match card.room with
  | none => (card, file ++ buf, true)
  | some room =>
    if buf.length ≤ room then ({ card with room := some (room - buf.length) }, file ++ buf, true)
    else ({ card with room := some 0 }, file ++ buf.take room, false)

namespace ConfigStore

/-- `ConfigStore::load`: the payload, when there is a record and it fits into `max_len` bytes. -/
def load (store : ConfigStore) (file : List UInt8) (max_len : Nat) :
    ConfigStore × Option (List UInt8) :=
  match scan file with
  | none => ({ store with sequence_known := false }, none)
  | some status =>
    let store := { latest_sequence := status.sequence, sequence_known := true }
    if !status.has_valid_record then (store, none)
    else if status.newest_header.length.toNat > max_len then (store, none)
    else (store, readFile file status.newest_payload_offset status.newest_header.length.toNat)

def inspect (store : ConfigStore) (file : List UInt8) : ConfigStore × Option StoreStatus :=
  match scan file with
  | none => ({ store with sequence_known := false }, none)
  | some status => ({ latest_sequence := status.sequence, sequence_known := true }, some status)

def commitHeader (seq : UInt32) (payload : List UInt8) : List UInt8 :=
  let h : SlotHeader :=
    { magic := kConfigMagic, version := kConfigVersion, sequence := seq,
      length := UInt16.ofNat payload.length, payload_crc := crc16 payload }
  let raw := serializeHeader h
  raw.take (kHeaderSize - 2) ++ putU16 (headerCrc raw)

def commitTrailer (seq : UInt32) : List UInt8 := putU32 kCommitMagic ++ putU32 seq

/-- The appends of a commit and its sync: the file afterwards and whether all went well. -/
def appendRecord (card : Card) (file : List UInt8) (seq : UInt32) (payload : List UInt8) :
    List UInt8 × Bool :=
  let (card, file, ok) := appendFile card file (commitHeader seq payload)
  if !ok then (file, false)
  else
    let (card, file, ok) :=
      if payload.length > 0 then appendFile card file payload else (card, file, true)
    if !ok then (file, false)
    else
      let (card, file, ok) := appendFile card file (commitTrailer seq)
      if !ok then (file, false) else (file, card.sync_ok)

/-- `ConfigStore::commit`: the store and the file afterwards, and the result. -/
def commit (store : ConfigStore) (card : Card) (file : List UInt8) (payload : List UInt8) :
    ConfigStore × List UInt8 × Bool :=
  if payload.length > kMaxPayload then (store, file, false)
  else
    let known : Option ConfigStore :=
      if store.sequence_known then some store
      else (scan file).map fun status =>
        { latest_sequence := status.sequence, sequence_known := true }
    match known with
    | none => (store, file, false)
    | some store =>
      let seq := store.latest_sequence + 1
      let (file, ok) := appendRecord card file seq payload
      if ok then ({ store with latest_sequence := seq }, file, true) else (store, file, false)

end ConfigStore

structure Journal where
  file : List UInt8 := []
  store : ConfigStore := {}
  deriving DecidableEq, Repr

/-- What happens to a journal. A power loss is a commit the card stops, followed by a `reopen`. -/
inductive JournalCall where
  | commit (payload : List UInt8) (card : Card)
  | load (max_len : Nat)
  | inspect
  | reopen
  deriving DecidableEq, Repr

inductive JournalResult where
  | committed (ok : Bool)
  | loaded (payload : Option (List UInt8))
  | inspected (status : Option StoreStatus)
  | reopened
  deriving DecidableEq, Repr

def Journal.call (j : Journal) : JournalCall → Journal × JournalResult
  | .commit payload card =>
    let (store, file, ok) := j.store.commit card j.file payload
    ({ file, store }, .committed ok)
  | .load max_len =>
    let (store, payload) := j.store.load j.file max_len
    ({ j with store }, .loaded payload)
  | .inspect =>
    let (store, status) := j.store.inspect j.file
    ({ j with store }, .inspected status)
  | .reopen => ({ j with store := {} }, .reopened)

abbrev JournalEvent := Event Journal (JournalCall × JournalResult)

/-- From an empty file, the calls recorded in `h` lead to the journal `j`. -/
abbrev JournalRun : List JournalEvent → Journal → Prop := Run (WithOutput Journal.call) {}

/-!
## The passes of the scan

The loop of `ConfigStore::scan` in the 32-bit offsets of the source, pass by pass, with the reads that every
pass issues; and the plain scan, which reads the whole header at every offset.
-/

/-- A call of `ConfigFile::read`. -/
structure ReadCall where
  offset : UInt32
  len : Nat
  deriving DecidableEq, Repr

/-- `file_.read`. -/
def ReadCall.issue (file : List UInt8) (call : ReadCall) : Option (List UInt8) :=
  readFile file call.offset.toNat call.len

/-- What `payloadValid` reads at once. -/
def chunkLen (remaining : UInt16) : UInt16 := if remaining < 64 then remaining else 64

theorem chunkLen_toNat (remaining : UInt16) :
    (chunkLen remaining).toNat = min remaining.toNat 64 := by
  have h64 : (64 : UInt16).toNat = 64 := rfl
  unfold chunkLen
  split
  · rename_i hsmall
    have := UInt16.lt_iff_toNat_lt.mp hsmall
    omega
  · rename_i hlarge
    have := UInt16.le_iff_toNat_le.mp (UInt16.not_lt.mp hlarge)
    omega

theorem sub_chunkLen_toNat (remaining : UInt16) :
    (remaining - chunkLen remaining).toNat = remaining.toNat - min remaining.toNat 64 := by
  have hlen := chunkLen_toNat remaining
  rw [UInt16.toNat_sub_of_le, hlen]
  rw [UInt16.le_iff_toNat_le, hlen]
  omega

/-- The loop of `payloadValid` in the source's widths: its reads, and the CRC unless one of them fails. -/
def payloadPass (file : List UInt8) (payload_offset : UInt32) (remaining : UInt16) (off : UInt32)
    (crc : UInt16) : List ReadCall × Option UInt16 :=
  if remaining.toNat = 0 then ([], some crc)
  else
    let n := chunkLen remaining
    let call : ReadCall := ⟨payload_offset + off, n.toNat⟩
    match call.issue file with
    | none => ([call], none)
    | some chunk =>
      let (calls, crc) := payloadPass file payload_offset (remaining - n)
        (off + n.toUInt32).toUInt16.toUInt32 (crc16Update crc chunk)
      (call :: calls, crc)
termination_by remaining.toNat
decreasing_by
  have := sub_chunkLen_toNat remaining
  omega

/-- The locals of `scan` between two passes of its loop; `raw` counts while `window_valid` is set. -/
structure ScanPass where
  offset : UInt32 := 0
  raw : List UInt8 := []
  window_valid : Bool := false
  status : StoreStatus := {}

/-- How a pass ends: with the next one, by leaving the loop, or with a failed read. -/
inductive PassEnd where
  | again (next : ScanPass)
  | done (status : StoreStatus)
  | failed

namespace ScanPass

def header (file : List UInt8) (p : ScanPass) : List ReadCall × Option (List UInt8) :=
  if p.window_valid then ([], some p.raw)
  else
    let call : ReadCall := ⟨p.offset, kHeaderSize⟩
    ([call], call.issue file)

def slide (file : List UInt8) (p : ScanPass) (raw : List UInt8) : List ReadCall × PassEnd :=
  let call : ReadCall := ⟨p.offset + 16, 1⟩
  match call.issue file with
  | none => ([call], .failed)
  | some byte =>
    ([call], .again { p with
      offset := p.offset + 1, raw := raw.drop 1 ++ byte, window_valid := true })

def record (file : List UInt8) (file_size : UInt32) (p : ScanPass) (raw : List UInt8) :
    List ReadCall × PassEnd :=
  let h := deserializeHeader raw
  let payload_offset := p.offset + 16
  let trailer_offset := payload_offset + h.length.toUInt32
  let record_end := trailer_offset + 8
  if record_end > file_size then ([], .done p.status)
  else
    let (calls, crc) := payloadPass file payload_offset h.length 0 kCrc16Init
    let payload_valid := crc == some h.payload_crc
    let call : ReadCall := ⟨trailer_offset, kTrailerSize⟩
    match call.issue file with
    | none => (calls ++ [call], .failed)
    | some trailer =>
      (calls ++ [call], .again { p with
        offset := record_end
        window_valid := false
        status :=
          if payload_valid && trailerValid h trailer then p.status.note h payload_offset.toNat
          else p.status })

/-- One turn of the loop of `ConfigStore::scan`. -/
def pass (file : List UInt8) (file_size : UInt32) (p : ScanPass) : List ReadCall × PassEnd :=
  if file_size - p.offset < 24 then ([], .done p.status)
  else
    match p.header file with
    | (calls, none) => (calls, .failed)
    | (calls, some raw) =>
      let (later, result) := if !headerValid raw then p.slide file raw else p.record file file_size raw
      (calls ++ later, result)

/-- A pass that is followed by another one; the label is the reads it issued. -/
def Next (file : List UInt8) (file_size : UInt32) (p : ScanPass) (calls : List ReadCall)
    (next : ScanPass) : Prop :=
  p.pass file file_size = (calls, .again next)

/-- The loop, for at most `fuel` passes; `some none` is a failed read. -/
def scan (file : List UInt8) (file_size : UInt32) : Nat → ScanPass → Option (Option StoreStatus)
  | 0, _ => none
  | fuel + 1, p =>
    match (p.pass file file_size).2 with
    | .again next => scan file file_size fuel next
    | .done status => some (some (status.sized file_size.toNat))
    | .failed => some none

end ScanPass

/-- The scan as it would be with random access: at every offset the whole header is read anew. -/
def plainLoop (file : List UInt8) (offset : Nat) (status : StoreStatus) : StoreStatus :=
  if file.length - offset < kHeaderSize + kTrailerSize then status
  else
    let raw := window file offset kHeaderSize
    let h := deserializeHeader raw
    let payload_offset := offset + kHeaderSize
    if !headerValid raw then plainLoop file (offset + 1) status
    else if recordEnd offset h > file.length then status
    else
      let payload := window file payload_offset h.length.toNat
      let trailer := window file (payload_offset + h.length.toNat) kTrailerSize
      plainLoop file (recordEnd offset h)
        (if crc16 payload == h.payload_crc && trailerValid h trailer then status.note h payload_offset
          else status)
termination_by file.length - offset
decreasing_by
  all_goals simp only [recordEnd, kHeaderSize, kTrailerSize] at *
  all_goals omega

def plainScan (file : List UInt8) : StoreStatus := (plainLoop file 0 {}).sized file.length

end HexapodVerified.Config
