import HexapodVerified.Config.ConfigSchema
import HexapodVerified.Lib.Runs

/-!
# The commit mailbox

The hand-off of a configuration commit from `apiTask` to `i2cTask`, `app/tasks.cpp`. The two tasks
share a mailbox, the mutex that guards it and a binary semaphore for the completion; both semaphores
exist before the scheduler starts. A step is what one task does between two points at which the other
can notice it: a critical section, an access outside of one, or a wait that ends.

A bounded take of the mutex may fail at any time. The wait for the completion ends with the token, or
without it when there is none. `ConfigStore::commit` reads the mailbox outside the mutex while it
runs, and its result is arbitrary.
-/

namespace HexapodVerified.App

open HexapodVerified.Config Transition

structure CommitMailbox where
  requested : Bool := false
  ok : Bool := false
  len : Nat := 0
  payload : List UInt8 := List.replicate kConfigPayloadSize 0
  deriving DecidableEq, Repr

inductive Task where
  | apiTask
  | i2cTask
  deriving DecidableEq, Repr

/-- Where `apiTask` is in `TaskConfigPersistence::commitPayload`. -/
inductive ApiPoint where
  /-- Not in a call yet. -/
  | idle
  /-- Before the first take of the mutex. -/
  | wantMailbox (payload : List UInt8)
  /-- In the critical section, before the payload is copied. -/
  | copy (payload : List UInt8)
  /-- In the critical section, before the other fields are set. -/
  | publish (payload : List UInt8)
  /-- Waiting for the completion. -/
  | waitDone (payload : List UInt8)
  /-- Before the second take of the mutex. -/
  | wantResult (payload : List UInt8)
  /-- In the critical section, before the result is read. -/
  | readResult (payload : List UInt8)
  /-- Returned false without a request. -/
  | refused (payload : List UInt8)
  /-- Returned after a request. -/
  | returned (payload : List UInt8) (result : Bool)
  deriving DecidableEq, Repr

/-- Not in a call, so that `commitPayload` can be called. -/
def ApiPoint.ready : ApiPoint → Bool
  | .idle | .refused _ | .returned _ _ => true
  | _ => false

/-- Where `i2cTask` is in the commit service of its loop. -/
inductive I2cPoint where
  /-- Before the first take of the mutex, or elsewhere in the loop. -/
  | idle
  /-- In the critical section, before `requested` is read. -/
  | check
  /-- A request was seen. -/
  | serve
  /-- `ConfigStore::commit` runs on the first `len` bytes of the mailbox. -/
  | committing (len : Nat)
  /-- The commit returned. -/
  | committed (ok : Bool)
  /-- In the critical section, before the result is stored. -/
  | store (ok : Bool)
  /-- Before the completion is given. -/
  | giveDone (ok : Bool)
  deriving DecidableEq, Repr

structure Handoff where
  g_commit : CommitMailbox := {}
  g_commitMutex : Option Task := none
  g_commitDone : Bool := false
  api : ApiPoint := .idle
  i2c : I2cPoint := .idle
  deriving DecidableEq, Repr

/-- The steps of the two tasks. A take says whether it succeeds. -/
inductive HandoffStep where
  | call (payload : List UInt8)
  | takeMailbox (ok : Bool)
  | copy
  | publish
  | takeDone (ok : Bool)
  | takeResult (ok : Bool)
  | readResult
  | takeCheck (ok : Bool)
  | check (boot_storage_pending : Bool)
  | commitStart
  | commitEnd (ok : Bool)
  | takeStore (ok : Bool)
  | store
  | giveDone
  deriving DecidableEq, Repr

namespace Handoff

/-- `memcpy` of a payload into the mailbox. -/
def copyPayload (buffer payload : List UInt8) : List UInt8 := payload ++ buffer.drop payload.length

/-- A step of `apiTask`, in `commitPayload`. -/
def apiStep (s : Handoff) (a : HandoffStep) : Option Handoff :=
  match a, s.api with
  | .call payload, point =>
    if !point.ready then none
    else if payload.length > kConfigPayloadSize then some { s with api := .refused payload }
    else some { s with api := .wantMailbox payload }
  | .takeMailbox false, .wantMailbox payload => some { s with api := .refused payload }
  | .takeMailbox true, .wantMailbox payload =>
    if s.g_commitMutex = none then
      some { s with g_commitMutex := some .apiTask, api := .copy payload }
    else none
  | .copy, .copy payload =>
    some { s with
      g_commit.payload := copyPayload s.g_commit.payload payload
      api := .publish payload }
  | .publish, .publish payload =>
    some { s with
      g_commit.len := payload.length
      g_commit.ok := false
      g_commit.requested := true
      g_commitMutex := none
      api := .waitDone payload }
  | .takeDone false, .waitDone payload =>
    if s.g_commitDone = false then some { s with api := .returned payload false } else none
  | .takeDone true, .waitDone payload =>
    if s.g_commitDone = true then
      some { s with g_commitDone := false, api := .wantResult payload }
    else none
  | .takeResult false, .wantResult payload => some { s with api := .returned payload false }
  | .takeResult true, .wantResult payload =>
    if s.g_commitMutex = none then
      some { s with g_commitMutex := some .apiTask, api := .readResult payload }
    else none
  | .readResult, .readResult payload =>
    some { s with g_commitMutex := none, api := .returned payload s.g_commit.ok }
  | _, _ => none

/-- A step of the commit service of `i2cTask`. -/
def i2cStep (s : Handoff) (a : HandoffStep) : Option Handoff :=
  match a, s.i2c with
  | .takeCheck false, .idle => some s
  | .takeCheck true, .idle =>
    if s.g_commitMutex = none then
      some { s with g_commitMutex := some .i2cTask, i2c := .check }
    else none
  | .check boot_storage_pending, .check =>
    let do_commit := s.g_commit.requested
    some { s with
      g_commitMutex := none
      i2c := if do_commit && !boot_storage_pending then .serve else .idle }
  | .commitStart, .serve => some { s with i2c := .committing s.g_commit.len }
  | .commitEnd ok, .committing _ => some { s with i2c := .committed ok }
  | .takeStore false, .committed _ => some { s with i2c := .idle }
  | .takeStore true, .committed ok =>
    if s.g_commitMutex = none then
      some { s with g_commitMutex := some .i2cTask, i2c := .store ok }
    else none
  | .store, .store ok =>
    some { s with
      g_commit.ok := ok
      g_commit.requested := false
      g_commitMutex := none
      i2c := .giveDone ok }
  | .giveDone, .giveDone _ => some { s with g_commitDone := true, i2c := .idle }
  | _, _ => none

def step (s : Handoff) (a : HandoffStep) : Option Handoff := (s.apiStep a).or (s.i2cStep a)

/-- The bytes a running commit reads. -/
def committing (s : Handoff) : Option (List UInt8) :=
  match s.i2c with
  | .committing len => some (s.g_commit.payload.take len)
  | _ => none

/-- `i2cTask` is between the start of a commit and its completion. -/
def serving (s : Handoff) : Bool :=
  match s.i2c with
  | .committing _ | .committed _ | .store _ | .giveDone _ => true
  | _ => false

end Handoff

abbrev HandoffEvent := Event Handoff HandoffStep

/-- From the empty mailbox, the steps recorded in `h` lead to `s`. -/
abbrev HandoffRun : List HandoffEvent → Handoff → Prop := Run (Guarded Handoff.step) {}

end HexapodVerified.App
