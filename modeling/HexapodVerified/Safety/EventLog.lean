import HexapodVerified.Lib.Fifo
import HexapodVerified.Safety.ErrorJournal

/-!
# The event log

`safety/event_log.cpp`: the events that wait for the OpenLog, in a ring of eight cells. Every task may add one.
`i2cTask` of `app/tasks.cpp` writes them to the card, one at a time.
-/

namespace HexapodVerified.Safety

open BoundedQueue Tables

structure PersistentEvent where
  timestamp_ms : UInt32 := 0
  code : ErrorCode := .none
  detail : UInt8 := 0
  severity : ErrorSeverity := .info
  deriving DecidableEq, Repr

abbrev kCapacity : Nat := 8

/-- The tail is `count_` places behind the head. -/
structure PersistentEventQueue where
  events_ : Vector PersistentEvent kCapacity := .replicate _ {}
  head_ : Fin kCapacity := 0
  tail_ : Fin kCapacity := 0
  count_ : Nat := 0
  dropped_ : UInt16 := 0
  count_le : count_ ≤ kCapacity := by decide
  tail_eq : tail_ = place head_ count_ := by decide

namespace PersistentEventQueue

theorem tail_push {head tail : Fin kCapacity} {count : Nat} (htail : tail = place head count) :
    place tail 1 = place head (count + 1) := by
  rw [htail, place_place]

theorem tail_pop {head tail : Fin kCapacity} {count : Nat} (htail : tail = place head count) (hpos : count ≠ 0) :
    tail = place (place head 1) (count - 1) := by
  rw [htail, place_place]
  congr 1
  omega

def push (q : PersistentEventQueue) (event : PersistentEvent) : PersistentEventQueue × Bool :=
  if hfull : q.count_ ≥ kCapacity then
    ({ q with dropped_ := if q.dropped_ ≠ 0xFFFF then q.dropped_ + 1 else q.dropped_ }, false)
  else
    ({ q with
        events_ := q.events_.setIfInBounds q.tail_.val event
        tail_ := place q.tail_ 1
        count_ := q.count_ + 1
        count_le := Nat.lt_of_not_le hfull
        tail_eq := tail_push q.tail_eq }, true)

def peek (q : PersistentEventQueue) : Option PersistentEvent :=
  if q.count_ = 0 then none else some (q.events_.get q.head_)

def pop (q : PersistentEventQueue) : PersistentEventQueue × Bool :=
  if hempty : q.count_ = 0 then (q, false)
  else
    ({ q with
        head_ := place q.head_ 1
        count_ := q.count_ - 1
        count_le := (Nat.sub_le ..).trans q.count_le
        tail_eq := tail_pop q.tail_eq hempty }, true)

def call (q : PersistentEventQueue) : Call PersistentEvent → PersistentEventQueue × Answer PersistentEvent
  | .push event => ((q.push event).1, .done (q.push event).2)
  | .peek => (q, .front q.peek)
  | .pop => (q.pop.1, .done q.pop.2)

def view (q : PersistentEventQueue) : Fifo PersistentEvent kCapacity 0xFFFF :=
  { items := contents q.events_ q.head_ q.count_, dropped := q.dropped_.toNat }

end PersistentEventQueue

/-! ## The drain -/

/-- Where `i2cTask` is with an event. -/
inductive LogPoint where
  | idle
  /-- The event is taken a copy of, and its line goes to the card. -/
  | writing (event : PersistentEvent) (log_now_ms : UInt32)
  | written (log_now_ms : UInt32)
  deriving DecidableEq, Repr

structure EventDrain where
  g_persistentEvents : PersistentEventQueue := {}
  next_log_attempt_ms : UInt32 := 0
  point : LogPoint := .idle

inductive LogAction where
  /-- Any task reports an event. -/
  | push (event : PersistentEvent) (ok : Bool)
  | peek (log_now_ms : UInt32) (event : Option PersistentEvent)
  | write (event : PersistentEvent) (written : Bool)
  | pop

/-- A pass of `i2cTask` that is not due does not touch the queue. -/
inductive LogStep : EventDrain → LogAction → EventDrain → Prop where
  | push {q : PersistentEventQueue} {next_log_attempt_ms : UInt32} {point : LogPoint} (event : PersistentEvent) :
      LogStep ⟨q, next_log_attempt_ms, point⟩ (.push event (q.push event).2)
        ⟨(q.push event).1, next_log_attempt_ms, point⟩
  | peekSome {q : PersistentEventQueue} {next_log_attempt_ms log_now_ms : UInt32} {event : PersistentEvent}
      (hdue : 0 ≤ (log_now_ms - next_log_attempt_ms).toInt32) (hpeek : q.peek = some event) :
      LogStep ⟨q, next_log_attempt_ms, .idle⟩ (.peek log_now_ms (some event))
        ⟨q, next_log_attempt_ms, .writing event log_now_ms⟩
  | peekNone {q : PersistentEventQueue} {next_log_attempt_ms log_now_ms : UInt32}
      (hdue : 0 ≤ (log_now_ms - next_log_attempt_ms).toInt32) (hpeek : q.peek = none) :
      LogStep ⟨q, next_log_attempt_ms, .idle⟩ (.peek log_now_ms none) ⟨q, next_log_attempt_ms, .idle⟩
  | written {q : PersistentEventQueue} {next_log_attempt_ms log_now_ms : UInt32} {event : PersistentEvent} :
      LogStep ⟨q, next_log_attempt_ms, .writing event log_now_ms⟩ (.write event true)
        ⟨q, next_log_attempt_ms, .written log_now_ms⟩
  | failed {q : PersistentEventQueue} {next_log_attempt_ms log_now_ms : UInt32} {event : PersistentEvent} :
      LogStep ⟨q, next_log_attempt_ms, .writing event log_now_ms⟩ (.write event false)
        ⟨q, log_now_ms + 1000, .idle⟩
  | pop {q : PersistentEventQueue} {next_log_attempt_ms log_now_ms : UInt32} :
      LogStep ⟨q, next_log_attempt_ms, .written log_now_ms⟩ .pop ⟨q.pop.1, log_now_ms, .idle⟩

def LogPoint.phase : LogPoint → Phase PersistentEvent
  | .idle => .idle
  | .writing event _ => .writing event
  | .written _ => .popping

def EventDrain.drain (s : EventDrain) : Drain PersistentEventQueue PersistentEvent :=
  ⟨s.g_persistentEvents, s.point.phase⟩

def LogAction.drain : LogAction → DrainAction PersistentEvent
  | .push event ok => .push event ok
  | .peek _ event => .peek event
  | .write event written => .write event written
  | .pop => .pop

end HexapodVerified.Safety
