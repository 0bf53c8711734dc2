import HexapodVerified.Config.ConfigStore
import HexapodVerified.Lib.Loops

/-!
# The OpenLog

`config/qwiic_openlog.cpp`. The card holds a text file; `QwiicConfigFile` writes every byte as two
upper-case hexadecimal characters, in chunks of fifteen bytes, and reads pairs of characters back. The
device itself is taken as working: a read inside the file gives its characters, and a `Card` tells how
many characters an append still reaches.
-/

namespace HexapodVerified.Config

open Bytes Loops Transition

/-- The text file on the card; `none` until something was appended to it. -/
abbrev TextFile := Option (List UInt8)

abbrev TextFile.chars (text : TextFile) : List UInt8 := text.getD []

namespace QwiicOpenLog

/-- `readAt` of at least one character. -/
def readAt (text : TextFile) (offset n : Nat) : Option (List UInt8) :=
  text.bind fun chars => readFile chars offset n

/-- `append` opens the file, which creates it, and writes. -/
def append (card : Card) (text : TextFile) (data : List UInt8) : Card × TextFile × Bool :=
  let (card, chars, ok) := appendFile card text.chars data
  (card, some chars, ok)

end QwiicOpenLog

namespace QwiicConfigFile

/-- `kHex`, the characters `0` to `9` and `A` to `F`. -/
def kHex : List UInt8 :=
  [0x30, 0x31, 0x32, 0x33, 0x34, 0x35, 0x36, 0x37, 0x38, 0x39, 0x41, 0x42, 0x43, 0x44, 0x45, 0x46]

/-- The bytes of one chunk. -/
abbrev kChunk : Nat := 15

def encodeByte (byte : UInt8) : List UInt8 :=
  [kHex.getD (byte >>> 4).toNat 0, kHex.getD (byte &&& 0x0F).toNat 0]

/-- The inner loop of `append`. -/
def encode (buf : List UInt8) : List UInt8 := buf.flatMap encodeByte

def decodeNibble (c : UInt8) : Option UInt8 :=
  if 0x30 ≤ c ∧ c ≤ 0x39 then some (c - 0x30)
  else if 0x41 ≤ c ∧ c ≤ 0x46 then some (c - 0x41 + 10)
  else none

/-- A pair of characters; one that is no digit counts as zero. -/
def decodePair (c d : UInt8) : UInt8 :=
  ((decodeNibble c).getD 0 <<< 4) ||| (decodeNibble d).getD 0

/-- The inner loop of `read`. -/
def decode : List UInt8 → List UInt8
  | c :: d :: encoded => decodePair c d :: decode encoded
  | _ => []

/-- `size`: an odd number of characters is an error. -/
def size (text : TextFile) : Option Nat :=
  match text with
  | none => some 0
  | some chars => if chars.length % 2 ≠ 0 then none else some (chars.length / 2)

def read (text : TextFile) (offset len : Nat) : Option (List UInt8) :=
  if len = 0 then some []
  else
    let bytes := min len kChunk
    match QwiicOpenLog.readAt text (offset * 2) (bytes * 2) with
    | none => none
    | some encoded =>
      (read text (offset + bytes) (len - bytes)).map fun rest => decode encoded ++ rest
termination_by len
decreasing_by
  show len - min len 15 < len
  omega

def append (card : Card) (text : TextFile) (buf : List UInt8) : Card × TextFile × Bool :=
  if buf.length = 0 then (card, text, true)
  else
    let (card, text, ok) := QwiicOpenLog.append card text (encode (buf.take kChunk))
    if !ok then (card, text, false) else append card text (buf.drop kChunk)
termination_by buf.length
decreasing_by
  rw [List.length_drop]
  show buf.length - 15 < buf.length
  omega

end QwiicConfigFile

/-!
## The OpenLog driver

`config/qwiic_openlog.cpp` on its bus. The device is a card with files and one response that reads hand out in
order: a file from its start position, or the four bytes of a size. What becomes of a bus transaction is chosen by
the surroundings: a command may be lost, acknowledged or not; a read may fail after any number of bytes. The
timeouts and the address are left out. Names and data are byte lists, a name without its terminating zero.
-/

inductive Register where
  | status | readFile | startPosition | openFile | writeFile | fileSize
  deriving DecidableEq, Repr

structure Fate where
  /-- Whether the device carries a command out. -/
  arrives : Register → Bool
  acknowledged : Bool
  /-- What a command without an answer of its own leaves for the next read. -/
  leaves : List UInt8
  /-- Whether a read fails, after how many bytes of the response, with how many bytes stored. -/
  fails : Bool
  consumed : Nat
  stored : Nat
  /-- What is read behind the end of the response. -/
  filler : UInt8

structure Surroundings where
  samd21 : Bool
  fates : Nat → Fate

structure Device where
  files : List UInt8 → Option (List UInt8)
  opened : Option (List UInt8)
  start : Nat
  response : List UInt8

namespace Device

def sizeBytes (size : UInt32) : List UInt8 := (putU32 size).reverse

/-- A number in big-endian bytes. -/
def number (data : List UInt8) : Nat := data.foldl (fun n byte => n * 256 + byte.toNat) 0

def setFile (d : Device) (name contents : List UInt8) : Device :=
  { d with files := Function.update d.files name (some contents) }

def execute (d : Device) (fate : Fate) (register : Register) (data : List UInt8) : Device :=
  match register with
  | .status => { d with response := fate.leaves }
  | .readFile =>
    { d with
      response := match d.files data with
        | some contents => contents.drop d.start
        | none => fate.leaves }
  | .startPosition => { d with start := number data, response := fate.leaves }
  | .openFile =>
    let d := match d.files data with
      | some _ => d
      | none => d.setFile data []
    { d with opened := some data, response := fate.leaves }
  | .writeFile =>
    let d := match d.opened with
      | some name => d.setFile name ((d.files name).getD [] ++ data)
      | none => d
    { d with response := fate.leaves }
  | .fileSize =>
    { d with
      response := match d.files data with
        | some contents => sizeBytes (UInt32.ofNat contents.length)
        | none => sizeBytes 0xFFFFFFFF }

end Device

/-- The bus: the device, and how many transactions there have been. -/
structure Bus where
  device : Device
  now : Nat

structure OpenLog where
  bus : Bus
  ready : Bool := false
  append_file : List UInt8 := []
  read_file : List UInt8 := []
  read_file_size : UInt32 := 0
  read_source_offset : UInt32 := 0
  read_client_offset : UInt32 := 0
  read_cache : List UInt8 := List.replicate 32 0
  read_cache_pos : UInt8 := 0
  read_cache_len : UInt8 := 0

namespace OpenLog

variable (around : Surroundings)

def kMaxWriteBytes : Nat := 30

/-- `copyName`, for a name that is not null. -/
def copyName (name : List UInt8) : Option (List UInt8) :=
  if name.length = 0 ∨ name.length ≥ 13 then none else some name

/-- A SAMD21 build takes every command for acknowledged. -/
def command (bus : Bus) (register : Register) (data : List UInt8) : Bus × Bool :=
  if data.length > 31 then (bus, false)
  else
    let fate := around.fates bus.now
    let device := if fate.arrives register then bus.device.execute fate register data else bus.device
    ({ device, now := bus.now + 1 }, around.samd21 || fate.acknowledged)

/-- `busRead` into the first `len` bytes of `data`. -/
def busRead (bus : Bus) (data : List UInt8) (len : Nat) : Bus × List UInt8 × Bool :=
  let fate := around.fates bus.now
  let served := (bus.device.response ++ List.replicate len fate.filler).take len
  if fate.fails then
    let stored := min fate.stored len
    ({ device := { bus.device with response := bus.device.response.drop fate.consumed }, now := bus.now + 1 },
      served.take stored ++ data.drop stored, false)
  else
    ({ device := { bus.device with response := bus.device.response.drop len }, now := bus.now + 1 },
      served ++ data.drop len, true)

def begin (o : OpenLog) : OpenLog × Bool :=
  let o := { o with ready := false, append_file := [], read_file := [] }
  let (bus, ok) := command around o.bus .status []
  let o := { o with bus }
  if !ok then (o, false)
  else
    let (bus, status, ok) := busRead around o.bus [0] 1
    let o := { o with bus }
    if !ok then (o, false)
    else
      let ready := (status.getD 0 0) &&& 1 != 0
      ({ o with ready }, ready)

/-- The size and whether the file exists; none when the call fails. -/
def fileSize (o : OpenLog) (name : List UInt8) : OpenLog × Option (UInt32 × Bool) :=
  if !o.ready then (o, none)
  else if name.length = 0 ∨ name.length > 31 then (o, none)
  else
    let (bus, ok) := command around o.bus .fileSize name
    let o := { o with bus }
    if !ok then (o, none)
    else
      let (bus, raw, ok) := busRead around o.bus [0, 0, 0, 0] 4
      let o := { o with bus }
      if !ok then (o, none)
      else
        let size := ((raw.getD 0 0).toUInt32 <<< 24) ||| ((raw.getD 1 0).toUInt32 <<< 16) |||
          ((raw.getD 2 0).toUInt32 <<< 8) ||| (raw.getD 3 0).toUInt32
        let there := size != 0xFFFFFFFF
        ({ o with append_file := [], read_file := [] }, some (if there then size else 0, there))

def beginRead (o : OpenLog) (name : List UInt8) : OpenLog × Bool :=
  match o.fileSize around name with
  | (o, none) => (o, false)
  | (o, some (_, false)) => (o, false)
  | (o, some (size, true)) =>
    let (bus, ok) := command around o.bus .startPosition [0]
    let o := { o with bus }
    if !ok then (o, false)
    else
      let (bus, ok) := command around o.bus .readFile name
      let o := { o with bus }
      if !ok then (o, false)
      else
        match copyName name with
        | none => (o, false)
        | some read_file =>
          ({ o with
            read_file
            append_file := []
            read_file_size := size
            read_source_offset := 0
            read_client_offset := 0
            read_cache_pos := 0
            read_cache_len := 0 }, true)

def fillReadCache (o : OpenLog) : OpenLog × Bool :=
  if o.read_source_offset ≥ o.read_file_size then (o, false)
  else
    let remaining := o.read_file_size - o.read_source_offset
    let read_cache_len := if remaining < 32 then remaining.toUInt8 else 32
    let (bus, read_cache, ok) := busRead around o.bus o.read_cache read_cache_len.toNat
    let o := { o with bus, read_cache, read_cache_len }
    if !ok then (o, false)
    else
      ({ o with
        read_source_offset := o.read_source_offset + read_cache_len.toUInt32
        read_cache_pos := 0 }, true)

/-- How both loops of `readAtOnce` begin. -/
def cacheReady (o : OpenLog) : OpenLog × Bool :=
  if o.read_cache_pos ≥ o.read_cache_len then o.fillReadCache around else (o, true)

/-- A pass of the loop that skips to `offset`. -/
def skipPass (offset : UInt32) (s : OpenLog × Bool) : Pass (OpenLog × Bool) :=
  let (o, _) := s
  if o.read_client_offset < offset then
    match o.cacheReady around with
    | (o, false) => .done (o, false)
    | (o, true) =>
      let skip_needed := offset - o.read_client_offset
      let cached := o.read_cache_len - o.read_cache_pos
      let skip := if skip_needed < cached.toUInt32 then skip_needed.toUInt8 else cached
      .again ({ o with
        read_cache_pos := o.read_cache_pos + skip
        read_client_offset := o.read_client_offset + skip.toUInt32 }, true)
  else .done (o, true)

/-- A pass of the loop that copies; `out` holds the `copied` bytes. -/
def copyPass (len : UInt16) (s : OpenLog × List UInt8 × Bool) : Pass (OpenLog × List UInt8 × Bool) :=
  let (o, out, _) := s
  if out.length < len.toNat then
    match o.cacheReady around with
    | (o, false) => .done (o, out, false)
    | (o, true) =>
      let cached := o.read_cache_len - o.read_cache_pos
      let needed := len.toNat - out.length
      let take := if needed < cached.toNat then UInt8.ofNat needed else cached
      .again ({ o with
        read_cache_pos := o.read_cache_pos + take
        read_client_offset := o.read_client_offset + take.toUInt32 },
        out ++ window o.read_cache o.read_cache_pos.toNat take.toNat, true)
  else .done (o, out, true)

/-- The two loops of `readAtOnce`: the bytes, or none; nothing when a loop does not end. Every pass of a loop
moves the reader by a byte at least. -/
def readOpened (o : OpenLog) (offset : UInt32) (len : UInt16) : Option (OpenLog × Option (List UInt8)) :=
  match loop (fun s => some (skipPass around offset s)) (offset.toNat + 1) (o, true) with
  | none => none
  | some (o, false) => some (o, none)
  | some (o, true) =>
    match loop (fun s => some (copyPass around len s)) (len.toNat + 1) (o, [], true) with
    | none => none
    | some (o, _, false) => some (o, none)
    | some (o, out, true) => some (o, some out)

def readAtOnce (o : OpenLog) (name : List UInt8) (offset : UInt32) (len : UInt16) :
    Option (OpenLog × Option (List UInt8)) :=
  if !o.ready then some (o, none)
  else
    let (o, ok) := if o.read_file ≠ name ∨ offset < o.read_client_offset then o.beginRead around name
      else (o, true)
    if !ok then some (o, none) else o.readOpened around offset len

/-- The attempts that are left of a `readAt`. -/
def readAttempts (name : List UInt8) (offset : UInt32) (len : UInt16) :
    Nat → OpenLog → Option (OpenLog × Option (List UInt8))
  | 0, o => some (o, none)
  | attempts + 1, o =>
    match o.readAtOnce around name offset len with
    | none => none
    | some (o, some out) => some (o, some out)
    | some (o, none) =>
      readAttempts name offset len attempts { o with read_file := [], read_cache_pos := 0, read_cache_len := 0 }

def readAt (o : OpenLog) (name : List UInt8) (offset : UInt32) (len : UInt16) :
    Option (OpenLog × Option (List UInt8)) :=
  readAttempts around name offset len 3 o

def selectAppendFile (o : OpenLog) (name : List UInt8) : OpenLog × Bool :=
  if o.append_file = name then (o, true)
  else if name.length = 0 ∨ name.length > 31 then (o, false)
  else
    let (bus, ok) := command around o.bus .openFile name
    let o := { o with bus }
    if !ok then (o, false)
    else
      match copyName name with
      | none => (o, false)
      | some append_file => ({ o with append_file, read_file := [] }, true)

def append (o : OpenLog) (name data : List UInt8) : OpenLog × Bool :=
  if !o.ready ∨ data.length > kMaxWriteBytes then (o, false)
  else
    match o.selectAppendFile around name with
    | (o, false) => (o, false)
    | (o, true) =>
      if data.length = 0 then (o, true)
      else
        let (bus, ok) := command around o.bus .writeFile data
        ({ o with bus }, ok)

end OpenLog

inductive OpenLogCall where
  | begin
  | fileSize (name : List UInt8)
  | readAt (name : List UInt8) (offset : UInt32) (len : UInt16)
  | append (name data : List UInt8)

def OpenLog.call (around : Surroundings) (o : OpenLog) : OpenLogCall → Option OpenLog
  | .begin => some (o.begin around).1
  | .fileSize name => some (o.fileSize around name).1
  | .readAt name offset len => (o.readAt around name offset len).map (·.1)
  | .append name data => some (o.append around name data).1

abbrev OpenLogEvent := Event OpenLog OpenLogCall

/-- From the constructed driver on some bus, the calls recorded in `h` lead to `o`. -/
abbrev OpenLogRun (around : Surroundings) (bus : Bus) : List OpenLogEvent → OpenLog → Prop :=
  Run (Guarded (OpenLog.call around)) { bus }

end HexapodVerified.Config
