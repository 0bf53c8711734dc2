import HexapodVerified.Lib.PastTime
import HexapodVerified.Lib.Runs
import HexapodVerified.Lib.Tables
import HexapodVerified.Lib.WrappedTime

/-!
# The error journal

`safety/error_journal.cpp`: a table of twelve distinct errors. An error becomes pending when it is new
information, and `takePending` hands the pending entries out one at a time. When the table is full a new
error takes the place of an entry that may be recycled.
-/

namespace HexapodVerified.Safety

open Tables Transition

inductive ErrorCode where
  | none | safetyFault | dxlWriteFailed | dxlReadFailed | dxlHardwareError | dxlBusSilent
  | dxlDiscoveryIncomplete | i2cFootSensorFault | i2cMuxMissing | configStorageMissing
  | configVolatile | configCommitFailed | rcFailsafe | rcFrameErrors | goalUnreachable | goalClamped
  | batteryLow | watchdogStall | gaitSaveRejected | captureUnavailable | captureWriteFailed
  | armingStarted
  deriving DecidableEq, Repr

inductive ErrorSeverity where
  | info | warning | error | critical
  deriving DecidableEq, Repr

def ErrorSeverity.wire : ErrorSeverity → Nat
  | .info => 0
  | .warning => 1
  | .error => 2
  | .critical => 3

instance : LE ErrorSeverity := ⟨fun a b => a.wire ≤ b.wire⟩

instance : LT ErrorSeverity := ⟨fun a b => a.wire < b.wire⟩

instance (a b : ErrorSeverity) : Decidable (a ≤ b) := inferInstanceAs (Decidable (a.wire ≤ b.wire))

instance (a b : ErrorSeverity) : Decidable (a < b) := inferInstanceAs (Decidable (a.wire < b.wire))

abbrev kMaxErrorEntries : Nat := 12
abbrev kRepeatIntervalMs : UInt32 := 5000
abbrev kClearAfterMs : UInt32 := 15000

structure ErrorEntry where
  code : ErrorCode := .none
  detail : UInt8 := 0
  severity : ErrorSeverity := .info
  count : UInt16 := 0
  first_ms : UInt32 := 0
  last_ms : UInt32 := 0
  sequence : UInt8 := 0
  deriving DecidableEq, Repr

/-- The defaults are those of `reset`. -/
structure ErrorJournal where
  entries : Vector ErrorEntry kMaxErrorEntries := .replicate _ {}
  pending : Vector Bool kMaxErrorEntries := .replicate _ false
  latest : ErrorEntry := {}
  count : Nat := 0
  pending_count : Nat := 0
  next_sequence : UInt8 := 1
  suppressed : UInt32 := 0
  deriving DecidableEq, Repr

def elapsed (now_ms then_ms : UInt32) : UInt32 := now_ms - then_ms

namespace ErrorJournal

def indices (j : ErrorJournal) : List (Fin kMaxErrorEntries) :=
  (List.finRange kMaxErrorEntries).filter (·.val < j.count)

def find (j : ErrorJournal) (code : ErrorCode) (detail : UInt8) : Option (Fin kMaxErrorEntries) :=
  j.indices.find? fun i => (j.entries.get i).code = code ∧ (j.entries.get i).detail = detail

/-- A pending entry is passed over unless the incoming error is more severe. -/
def recyclable (j : ErrorJournal) (incoming : ErrorSeverity) (i : Fin kMaxErrorEntries) : Bool :=
  !(j.pending.get i && (j.entries.get i).severity ≥ incoming)

/-- `i` takes the place of the best entry so far: it is less severe, or was not seen for longer. -/
def recycledFirst (j : ErrorJournal) (now_ms : UInt32) (i best : Fin kMaxErrorEntries) : Bool :=
  let candidate := j.entries.get i
  let current := j.entries.get best
  if candidate.severity ≠ current.severity then candidate.severity < current.severity
  else elapsed now_ms candidate.last_ms > elapsed now_ms current.last_ms

def recycleSlot (j : ErrorJournal) (incoming : ErrorSeverity) (now_ms : UInt32) :
    Option (Fin kMaxErrorEntries) :=
  pick (j.recyclable incoming) (j.recycledFirst now_ms) j.indices

/-- The tail of `note`: the occurrence is counted, and announced or suppressed. -/
def record (j : ErrorJournal) (slot : Fin kMaxErrorEntries) (entry : ErrorEntry)
    (severity : ErrorSeverity) (now_ms : UInt32) (announce : Bool) : ErrorJournal × Bool :=
  let entry := { entry with
    severity := severity
    last_ms := now_ms
    count := if entry.count < 0xFFFF then entry.count + 1 else entry.count }
  if !announce then
    ({ j with
        entries := j.entries.setIfInBounds slot.val entry
        suppressed := j.suppressed + 1 }, false)
  else
    ({ j with
        entries := j.entries.setIfInBounds slot.val { entry with sequence := j.next_sequence }
        next_sequence := if j.next_sequence + 1 = 0 then 1 else j.next_sequence + 1
        pending := j.pending.setIfInBounds slot.val true
        pending_count :=
          if !j.pending.get slot then j.pending_count + 1 else j.pending_count }, true)

def freshEntry (code : ErrorCode) (detail : UInt8) (now_ms : UInt32) : ErrorEntry where
  code := code
  detail := detail
  first_ms := now_ms

def dropPending (j : ErrorJournal) (slot : Fin kMaxErrorEntries) : ErrorJournal :=
  if j.pending.get slot then
    { j with
      pending := j.pending.setIfInBounds slot.val false
      pending_count := if j.pending_count > 0 then j.pending_count - 1 else j.pending_count }
  else j

/-- An occurrence of an error; true when it is announced. -/
def note (j : ErrorJournal) (code : ErrorCode) (detail : UInt8) (severity : ErrorSeverity)
    (now_ms : UInt32) : ErrorJournal × Bool :=
  if code = .none then (j, false)
  else
    match j.find code detail with
    | none =>
      if hroom : j.count < kMaxErrorEntries then
        { j with count := j.count + 1 }.record ⟨j.count, hroom⟩ (freshEntry code detail now_ms)
          severity now_ms true
      else
        match j.recycleSlot severity now_ms with
        | none => ({ j with suppressed := j.suppressed + 1 }, false)
        | some slot =>
          (j.dropPending slot).record slot (freshEntry code detail now_ms) severity now_ms true
    | some slot =>
      let entry := j.entries.get slot
      if elapsed now_ms entry.last_ms ≥ kClearAfterMs then
        j.record slot { entry with count := 0, first_ms := now_ms } severity now_ms true
      else if elapsed now_ms entry.first_ms ≥ kRepeatIntervalMs ∧ !j.pending.get slot then
        j.record slot { entry with first_ms := now_ms } severity now_ms true
      else j.record slot entry severity now_ms false

/-- `i` takes the place of the best pending entry so far: it is more severe, or older. -/
def takenFirst (j : ErrorJournal) (i best : Fin kMaxErrorEntries) : Bool :=
  let candidate := j.entries.get i
  let current := j.entries.get best
  if candidate.severity > current.severity then true
  else candidate.severity = current.severity ∧ candidate.first_ms < current.first_ms

/-- The loop of `takePending`. -/
def bestPending (j : ErrorJournal) : Option (Fin kMaxErrorEntries) :=
  pick j.pending.get j.takenFirst j.indices

/-- The entry that is handed out, if there is one. -/
def takePending (j : ErrorJournal) : ErrorJournal × Option ErrorEntry :=
  if j.pending_count = 0 then (j, none)
  else
    match j.bestPending with
    | none => ({ j with pending_count := 0 }, none)
    | some best =>
      ({ j with
          pending := j.pending.setIfInBounds best.val false
          pending_count := j.pending_count - 1
          latest := j.entries.get best }, some (j.entries.get best))

end ErrorJournal

inductive JournalCall where
  | note (code : ErrorCode) (detail : UInt8) (severity : ErrorSeverity) (now_ms : UInt32)
  | takePending
  deriving DecidableEq, Repr

inductive JournalAnswer where
  | note (announced : Bool)
  | takePending (out : Option ErrorEntry)
  deriving DecidableEq, Repr

def ErrorJournal.step (j : ErrorJournal) : JournalCall → ErrorJournal × JournalAnswer
  | .note code detail severity now_ms =>
    ((j.note code detail severity now_ms).1, .note (j.note code detail severity now_ms).2)
  | .takePending => (j.takePending.1, .takePending j.takePending.2)

abbrev JournalEvent := Event ErrorJournal (JournalCall × JournalAnswer)

/-- From the journal as `reset` leaves it, the calls recorded in `h` lead to `j`. -/
abbrev JournalRun : List JournalEvent → ErrorJournal → Prop := Run (WithOutput ErrorJournal.step) {}

/-! ## Runs by the clock

The journal is given the low 32 bits of the time. Here its calls carry the whole time, so that what a run
has done can be compared with when it really happened. -/

inductive ClockedCall where
  | note (code : ErrorCode) (detail : UInt8) (severity : ErrorSeverity) (now : Nat)
  | takePending
  deriving DecidableEq, Repr

def ClockedCall.observed : ClockedCall → JournalCall
  | .note code detail severity now => .note code detail severity (UInt32.ofNat now)
  | .takePending => .takePending

def ErrorJournal.timedStep (j : ErrorJournal) (call : ClockedCall) : ErrorJournal × JournalAnswer :=
  j.step call.observed

abbrev ClockedEvent := Event ErrorJournal (ClockedCall × JournalAnswer)

/-- From the journal as `reset` leaves it, the calls recorded in `h` lead to `j`. -/
abbrev ClockedRun : List ClockedEvent → ErrorJournal → Prop :=
  Run (WithOutput ErrorJournal.timedStep) {}

def notedAt (code : ErrorCode) (detail : UInt8) (e : ClockedEvent) : Option Nat :=
  match e.label.1 with
  | .note c d _ now => if c = code ∧ d = detail then some now else none
  | .takePending => none

def announcedAt (code : ErrorCode) (detail : UInt8) (e : ClockedEvent) : Option Nat :=
  if e.label.2 = .note true then notedAt code detail e else none

def noteTimes (code : ErrorCode) (detail : UInt8) (h : List ClockedEvent) : List Nat :=
  h.filterMap (notedAt code detail)

/-- The start of the latest incident of the error: an announcement starts one, new or repeated. -/
def incidentStart (code : ErrorCode) (detail : UInt8) (h : List ClockedEvent) : Nat :=
  (h.findSome? (announcedAt code detail)).getD 0

/-- `takePending` is called until it returns false, at most `n` times. -/
def ErrorJournal.drain (j : ErrorJournal) : Nat → List ErrorEntry
  | 0 => []
  | n + 1 =>
    match j.takePending with
    | (_, none) => []
    | (rest, some out) => out :: rest.drain n

end HexapodVerified.Safety
