import HexapodVerified.Config.ConfigBootstrap
import HexapodVerified.Host.ConfigValidation

/-!
# The configuration card on the companion

`companion/src/data/openlog_config.py`: the companion reads the text file of the card, and it writes the
file back after a configuration was appended, made the active one again, or deleted. A run of a card mixes
the commits of the controller, any of which the power may cut off, with such edits.
-/

namespace HexapodVerified.Companion

open HexapodVerified.Config HexapodVerified.Host Bytes Struct Transition

abbrev CONFIG_MAGIC : Int := 0x48455843
abbrev CONFIG_VERSION : Int := 1
abbrev COMMIT_MAGIC : Int := 0x54494D43
abbrev HEADER_SIZE : Nat := 16
abbrev TRAILER_SIZE : Nat := 8
abbrev MAX_PAYLOAD_SIZE : Nat := 2032

/-- The exceptions: an `OpenLogConfigError` with its text, and what packing a configuration raises. -/
inductive CardError where
  | openLogConfigError (text : String)
  | encodeError (exc : ConfigEncodeError)
  deriving DecidableEq, Repr

/-! ## The file -/

structure JournalRecord where
  offset : Nat
  sequence : Int
  payload : List UInt8
  config : Host.RobotConfig
  deriving DecidableEq, Repr

def JournalRecord.end_offset (record : JournalRecord) : Nat :=
  record.offset + HEADER_SIZE + record.payload.length + TRAILER_SIZE

structure OpenLogConfigJournal where
  raw_text : List UInt8
  decoded_bytes : List UInt8
  records : List JournalRecord
  deriving DecidableEq, Repr

/-- `max(…, key=…)` of `best` and the elements behind it: the first one with the highest key. -/
def maxBy {α : Type} (key : α → Int) (best : α) : List α → α
  | [] => best
  | a :: rest => maxBy key (if key best < key a then a else best) rest

namespace OpenLogConfigJournal

def newest (journal : OpenLogConfigJournal) : Except CardError JournalRecord :=
  match journal.records with
  | [] => .error (.openLogConfigError "CONFIG.TXT contains no valid config record")
  | record :: records => .ok (maxBy JournalRecord.sequence record records)

def next_sequence (journal : OpenLogConfigJournal) : Except CardError Int := do
  return (← journal.newest).sequence + 1

end OpenLogConfigJournal

/-- `_nibble`. -/
def nibble (value : UInt8) : Nat :=
  if 48 ≤ value ∧ value ≤ 57 then value.toNat - 48
  else if 65 ≤ value ∧ value ≤ 70 then value.toNat - 65 + 10
  else 0

/-- The bytes of the pairs of characters. -/
def decodePairs : List UInt8 → List UInt8
  | c :: d :: raw_text => UInt8.ofNat ((nibble c <<< 4) ||| nibble d) :: decodePairs raw_text
  | _ => []

def decodeOpenlogHex (raw_text : List UInt8) : Except CardError (List UInt8) :=
  if raw_text.length % 2 ≠ 0 then
    .error (.openLogConfigError
      "CONFIG.TXT has an odd number of bytes; firmware would reject it")
  else .ok (decodePairs raw_text)

/-- The header as `struct.unpack("<IHIHHH", header)` returns it. -/
structure RecordHeader where
  magic : Int
  version : Int
  sequence : Int
  length : Int
  payload_crc : Int
  header_crc : Int
  deriving DecidableEq, Repr

def unpackHeader : Codec.Reader RecordHeader := do
  let magic ← unpack .I
  let version ← unpack .H
  let sequence ← unpack .I
  let length ← unpack .H
  let payload_crc ← unpack .H
  let header_crc ← unpack .H
  return { magic, version, sequence, length, payload_crc, header_crc }

/-- `struct.unpack("<II", …)`. -/
def unpackTrailer : Codec.Reader (Int × Int) := do
  let trailer_magic ← unpack .I
  let trailer_sequence ← unpack .I
  return (trailer_magic, trailer_sequence)

/-- `_parse_record`. -/
def parseRecord (data : List UInt8) (offset : Nat) : Option JournalRecord :=
  if data.length - offset < HEADER_SIZE + TRAILER_SIZE then none
  else
    let header := window data offset HEADER_SIZE
    match unpackHeader header with
    | none => none
    | some (h, _) =>
      if h.magic ≠ CONFIG_MAGIC ∨ h.version ≠ CONFIG_VERSION ∨ h.length > MAX_PAYLOAD_SIZE ∨
          (crc16 (header.take 14) : Int) ≠ h.header_crc then none
      else
        let payload_start := offset + HEADER_SIZE
        let payload_end := payload_start + h.length.toNat
        let trailer_end := payload_end + TRAILER_SIZE
        if trailer_end > data.length then none
        else
          let payload := window data payload_start h.length.toNat
          match unpackTrailer (window data payload_end TRAILER_SIZE) with
          | none => none
          | some ((trailer_magic, trailer_sequence), _) =>
            if (crc16 payload : Int) ≠ h.payload_crc ∨ trailer_magic ≠ COMMIT_MAGIC ∨
                trailer_sequence ≠ h.sequence then none
            else
              match decodeRobotConfig payload with
              | .error _ => none
              | .ok config => some { offset, sequence := h.sequence, payload, config }

theorem offset_of_parseRecord {data : List UInt8} {offset : Nat} {record : JournalRecord}
    (h : parseRecord data offset = some record) : record.offset = offset := by
  unfold parseRecord at h
  dsimp only at h
  iterate 7
    split at h
    · cases h
  · cases h
    rfl

/-- The loop of `parse_openlog_config`. -/
def parseRecords (data : List UInt8) (offset : Nat) : List JournalRecord :=
  if data.length - offset < HEADER_SIZE + TRAILER_SIZE then []
  else
    match hrecord : parseRecord data offset with
    | none => parseRecords data (offset + 1)
    | some record => record :: parseRecords data record.end_offset
termination_by data.length - offset
decreasing_by
  · dsimp only [HEADER_SIZE, TRAILER_SIZE] at *
    omega
  · have := offset_of_parseRecord hrecord
    unfold JournalRecord.end_offset
    dsimp only [HEADER_SIZE, TRAILER_SIZE] at *
    omega

def parseOpenlogConfig (raw_text : List UInt8) : Except CardError OpenLogConfigJournal := do
  let data ← decodeOpenlogHex raw_text
  let records := parseRecords data 0
  if records = [] then
    throw (.openLogConfigError "CONFIG.TXT contains no valid CRC-protected record")
  return { raw_text, decoded_bytes := data, records }

/-! ## Edits -/

/-- The record that `encode_record` packs: the CRC of the header is packed over its last two bytes. -/
def packRecord (sequence : Int) (payload : List UInt8) : Option (List UInt8) := do
  let header ← packFields [(.I, CONFIG_MAGIC), (.H, CONFIG_VERSION), (.I, sequence),
    (.H, payload.length), (.H, crc16 payload), (.H, 0)]
  let header_crc ← pack .H (crc16 (header.take 14))
  let trailer ← packFields [(.I, COMMIT_MAGIC), (.I, sequence)]
  return header.take 14 ++ header_crc ++ (payload ++ trailer)

def encodeRecord (config : Host.RobotConfig) (sequence : Int) : Except CardError (List UInt8) :=
  if ¬ (0 ≤ sequence ∧ sequence ≤ 0xFFFFFFFF) then
    .error (.openLogConfigError "record sequence must fit in uint32")
  else
    match Host.validateRobotConfig config with
    | error :: _ => .error (.openLogConfigError error)
    | [] =>
      match encodeRobotConfig config with
      | .error exc => .error (.encodeError exc)
      | .ok payload =>
        if payload.length > MAX_PAYLOAD_SIZE then
          .error (.openLogConfigError "serialized config exceeds the OpenLog limit")
        else
          match packRecord sequence payload with
          | none => .error (.encodeError .structError)
          | some record => .ok record

/-- A digit of `bytes.hex().upper()`. -/
def upperDigit (value : Nat) : UInt8 := UInt8.ofNat (if value < 10 then 48 + value else 55 + value)

/-- `record.hex().upper().encode("ascii")`. -/
def upperHex (record : List UInt8) : List UInt8 :=
  record.flatMap fun byte => [upperDigit (byte.toNat / 16), upperDigit (byte.toNat % 16)]

def appendConfigRecord (journal : OpenLogConfigJournal) (config : Host.RobotConfig) :
    Except CardError (List UInt8) := do
  let record ← encodeRecord config (← journal.next_sequence)
  return journal.raw_text ++ upperHex record

def activateConfigRecord (journal : OpenLogConfigJournal) (record : JournalRecord) :
    Except CardError (List UInt8) :=
  if record ∉ journal.records then
    .error (.openLogConfigError "selected record does not belong to this journal")
  else appendConfigRecord journal record.config

def deleteConfigRecord (journal : OpenLogConfigJournal) (record : JournalRecord) :
    Except CardError (List UInt8) :=
  if record ∉ journal.records then
    .error (.openLogConfigError "selected record does not belong to this journal")
  else if journal.records.length ≤ 1 then
    .error (.openLogConfigError "cannot delete the only valid config record")
  else
    let start := record.offset * 2
    let stop := record.end_offset * 2
    if ¬ (start < stop ∧ stop ≤ journal.raw_text.length) then
      .error (.openLogConfigError "selected record has an invalid encoded range")
    else do
      let rendered := journal.raw_text.take start ++ journal.raw_text.drop stop
      let _ ← parseOpenlogConfig rendered
      return rendered

/-- What happens to a card. The power may cut a commit off after `cut` bytes of its record; an edit on
the companion is written back completely. -/
inductive CardCall where
  | commit (payload : List UInt8) (cut : Option Nat)
  | load (max_len : Nat)
  | reopen
  | append (config : Host.RobotConfig)
  | activate (record : JournalRecord)
  | delete (record : JournalRecord)

inductive CardResult where
  | answered (result : JournalResult)
  | powerLost
  | written
  | raised (exc : CardError)

/-- The text file and the store that the controller has open on it. -/
abbrev ConfigCard : Type := FileJournal TextFile

namespace ConfigCard

/-- The card is in the companion: the file is parsed, changed and written back. -/
def edit (card : ConfigCard) (change : OpenLogConfigJournal → Except CardError (List UInt8)) :
    ConfigCard × CardResult :=
  match parseOpenlogConfig card.file.chars >>= change with
  | .error exc => (card, .raised exc)
  | .ok raw_text => ({ card with file := some raw_text }, .written)

def serve (card : ConfigCard) (c : JournalCall) : ConfigCard × CardResult :=
  ((QwiicConfigFile.file.call card c).1, .answered (QwiicConfigFile.file.call card c).2)

def call (card : ConfigCard) : CardCall → ConfigCard × CardResult
  | .commit payload none => card.serve (.commit payload {})
  | .commit payload (some n) =>
    -- two characters a byte, and a new store after the power loss
    ({ (card.serve (.commit payload { room := some (2 * n) })).1 with store := {} }, .powerLost)
  | .load max_len => card.serve (.load max_len)
  | .reopen => card.serve .reopen
  | .append config => card.edit fun journal => appendConfigRecord journal config
  | .activate record => card.edit fun journal => activateConfigRecord journal record
  | .delete record => card.edit fun journal => deleteConfigRecord journal record

end ConfigCard

abbrev CardEvent := Event ConfigCard (CardCall × CardResult)

/-- From a card without the file, the calls recorded in `h` lead to this card. -/
abbrev CardRun : List CardEvent → ConfigCard → Prop :=
  Run (WithOutput ConfigCard.call) { file := none }

end HexapodVerified.Companion
