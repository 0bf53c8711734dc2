import HexapodVerified.Config.QwiicOpenLog

/-!
# The store over a configuration file, and the bootstrap

`ConfigStore` sees its file through the surface `ConfigFile` of `config/config_store.h`. Here are its
functions over any such file, and `loadOrInitializeConfig` of `config/config_bootstrap.cpp`. The
file on the OpenLog is one such surface.
-/

namespace HexapodVerified.Config

open HexapodVerified.Protocol Transition

/-- `ConfigFile`, over the states `φ` of a file. Whether a `sync` succeeds is a matter of the card. -/
structure ConfigFile (φ : Type) where
  size : φ → Option Nat
  read : φ → Nat → Nat → Option (List UInt8)
  append : Card → φ → List UInt8 → Card × φ × Bool

namespace ConfigFile

variable {φ : Type} (f : ConfigFile φ) (x : φ)

def payloadCrc (offset remaining : Nat) (crc : UInt16) : Option UInt16 :=
  if remaining = 0 then some crc
  else
    let n := min remaining 64
    match f.read x offset n with
    | none => none
    | some chunk => payloadCrc (offset + n) (remaining - n) (crc16Update crc chunk)
termination_by remaining

def payloadValid (payload_offset : Nat) (h : SlotHeader) : Bool :=
  f.payloadCrc x payload_offset h.length.toNat kCrc16Init == some h.payload_crc

def scanLoop (file_size offset : Nat) (raw? : Option (List UInt8)) (status : StoreStatus) :
    Option StoreStatus :=
  if file_size - offset < kHeaderSize + kTrailerSize then some status
  else
    match raw?.or (f.read x offset kHeaderSize) with
    | none => none
    | some raw =>
      let h := deserializeHeader raw
      if !headerValid raw then
        match f.read x (offset + kHeaderSize) 1 with
        | none => none
        | some byte => scanLoop file_size (offset + 1) (some (raw.drop 1 ++ byte)) status
      else
        let payload_offset := offset + kHeaderSize
        let trailer_offset := payload_offset + h.length.toNat
        let record_end := recordEnd offset h
        if record_end > file_size then some status
        else
          let payload_valid := f.payloadValid x payload_offset h
          match f.read x trailer_offset kTrailerSize with
          | none => none
          | some trailer =>
            scanLoop file_size record_end none
              (if payload_valid && trailerValid h trailer then status.note h payload_offset
                else status)
termination_by file_size - offset
decreasing_by
  all_goals simp only [recordEnd, kHeaderSize, kTrailerSize] at *
  all_goals omega

def scan : Option StoreStatus :=
  match f.size x with
  | none => none
  | some file_size =>
    (f.scanLoop x file_size 0 none {}).map fun status => status.sized file_size

def load (store : ConfigStore) (max_len : Nat) : ConfigStore × Option (List UInt8) :=
  match f.scan x with
  | none => ({ store with sequence_known := false }, none)
  | some status =>
    let store := { latest_sequence := status.sequence, sequence_known := true }
    if !status.has_valid_record then (store, none)
    else if status.newest_header.length.toNat > max_len then (store, none)
    else (store, f.read x status.newest_payload_offset status.newest_header.length.toNat)

def inspect (store : ConfigStore) : ConfigStore × Option StoreStatus :=
  match f.scan x with
  | none => ({ store with sequence_known := false }, none)
  | some status => ({ latest_sequence := status.sequence, sequence_known := true }, some status)

def appendRecord (card : Card) (seq : UInt32) (payload : List UInt8) : φ × Bool :=
  let (card, x, ok) := f.append card x (ConfigStore.commitHeader seq payload)
  if !ok then (x, false)
  else
    let (card, x, ok) := if payload.length > 0 then f.append card x payload else (card, x, true)
    if !ok then (x, false)
    else
      let (card, x, ok) := f.append card x (ConfigStore.commitTrailer seq)
      if !ok then (x, false) else (x, card.sync_ok)

def commit (store : ConfigStore) (card : Card) (payload : List UInt8) : ConfigStore × φ × Bool :=
  if payload.length > kMaxPayload then (store, x, false)
  else
    let known : Option ConfigStore :=
      if store.sequence_known then some store
      else (f.scan x).map fun status =>
        { latest_sequence := status.sequence, sequence_known := true }
    match known with
    | none => (store, x, false)
    | some store =>
      let seq := store.latest_sequence + 1
      let (x, ok) := f.appendRecord x card seq payload
      if ok then ({ store with latest_sequence := seq }, x, true) else (store, x, false)

end ConfigFile

/-! ## Bootstrap -/

inductive BootstrapResult where
  | Loaded | InitializedDefaults | RecoveredDefaults | StorageError
  deriving DecidableEq, Repr

/-- `loadOrInitializeConfig`: the file afterwards, the result and the payload. `defaults` is `none` for
a null pointer. -/
def loadOrInitializeConfig {φ : Type} (f : ConfigFile φ) (x : φ) (store : ConfigStore) (card : Card)
    (defaults : Option (List UInt8)) (out_capacity : Nat) : φ × BootstrapResult × List UInt8 :=
  match f.size x with
  | none => (x, .StorageError, [])
  | some file_size =>
    match f.load x store out_capacity with
    | (_, some payload) => (x, .Loaded, payload)
    | (store, none) =>
      match defaults with
      | none => (x, .StorageError, [])
      | some defaults =>
        if defaults.length = 0 then (x, .StorageError, [])
        else
          match f.commit x store card defaults with
          | (_, x, false) => (x, .StorageError, [])
          | (store, x, true) =>
            match f.load x store out_capacity with
            | (_, none) => (x, .StorageError, [])
            | (_, some payload) =>
              (x, if file_size = 0 then .InitializedDefaults else .RecoveredDefaults, payload)

structure FileJournal (φ : Type) where
  file : φ
  store : ConfigStore := {}

def ConfigFile.call {φ : Type} (f : ConfigFile φ) (j : FileJournal φ) :
    JournalCall → FileJournal φ × JournalResult
  | .commit payload card =>
    let (store, file, ok) := f.commit j.file j.store card payload
    ({ file, store }, .committed ok)
  | .load max_len =>
    let (store, payload) := f.load j.file j.store max_len
    ({ j with store }, .loaded payload)
  | .inspect =>
    let (store, status) := f.inspect j.file j.store
    ({ j with store }, .inspected status)
  | .reopen => ({ j with store := {} }, .reopened)

/-! ## The file on the OpenLog -/

def QwiicConfigFile.file : ConfigFile TextFile where
  size := QwiicConfigFile.size
  read := QwiicConfigFile.read
  append := QwiicConfigFile.append

abbrev TextEvent := Event (FileJournal TextFile) (JournalCall × JournalResult)

/-- From a card without the file, the calls recorded in `h` lead to the journal `j`. -/
abbrev TextRun : List TextEvent → FileJournal TextFile → Prop :=
  Run (WithOutput QwiicConfigFile.file.call) { file := none }

end HexapodVerified.Config
