import HexapodVerified.Dxl.DxlBus
import HexapodVerified.Gait.GaitPipeline

/-!
# The goal frame

The hand-off of the servo goals from `controlTask` (the end of `publishControllerCommand`) to the Sync Write
of `dxlTask`, `app/tasks.cpp`. A mutex guards the frame; the flag that says whether the frame is valid is
read and cleared outside of it. A step is one access to the flag, to the mutex, or to one entry of the
frame.

A take of the mutex may fail at any time. Other tasks take the mutex to look at the frame.
-/

namespace HexapodVerified.App

open HexapodVerified.Config HexapodVerified.Dxl HexapodVerified.Gait Transition

/-- The goals of a command; there are at most as many as servos. -/
structure GoalSet where
  joints : List PipelineJoint
  fits : joints.length ≤ kNumServos
  deriving DecidableEq, Repr

/-- `GoalFrame`, as far as the Sync Write reads it. -/
structure GoalFrame where
  count : Nat := 0
  joints : Vector PipelineJoint kNumServos := .replicate _ {}
  deriving DecidableEq, Repr

inductive GoalReader where
  | controlTask
  | dxlTask
  | otherTask
  deriving DecidableEq, Repr

/-- Where `controlTask` is in the publication of a command. -/
inductive PublishPoint where
  | idle
  /-- The command has goals; before the mutex is taken. -/
  | wantFrame (goals : GoalSet)
  /-- In the critical section, before the count is written. -/
  | count (goals : GoalSet)
  /-- In the critical section, before the joint with that index. -/
  | joints (goals : GoalSet) (index : Nat)
  /-- In the critical section, before the flag is set. -/
  | raise (goals : GoalSet)
  /-- Before the mutex is given back. -/
  | give
  /-- The command has no goals; before the flag is cleared. -/
  | clear
  deriving DecidableEq, Repr

/-- Where `dxlTask` is in its goal path. -/
inductive WritePoint where
  | idle
  /-- The flag was set; before the mutex is taken. -/
  | wantFrame (skipped : List UInt8)
  /-- In the critical section, before the count is read. -/
  | count (skipped : List UInt8)
  /-- In the critical section, before the joint with that index. -/
  | joints (skipped : List UInt8) (frame_count index : Nat) (targets : List GoalTarget)
  /-- Before the Sync Write. -/
  | write (targets : List GoalTarget)
  deriving DecidableEq, Repr

structure GoalTasks where
  g_goalFrame : GoalFrame := {}
  g_goalMutex : Option GoalReader := none
  g_goalValid : Bool := false
  g_goalSeq : UInt32 := 0
  control : PublishPoint := .idle
  dxl : WritePoint := .idle
  deriving DecidableEq, Repr

/-- The steps of the tasks. A take says whether it succeeds. -/
inductive GoalStep where
  /-- `controlTask` publishes a command; it has no goals when `goal_valid` is false. -/
  | publish (goals : Option GoalSet)
  | takePublish (ok : Bool)
  | writeCount
  | writeJoint
  | writeSeq
  | raiseValid
  | givePublish
  | clearValid
  /-- `dxlTask` tests the flag in a cycle in which motion may be open; under maintenance authority it skips
  the servos that are released or driven directly. -/
  | test (motion_open : Bool) (skipped : List UInt8)
  | takeCopy (ok : Bool)
  | readCount
  | readJoint
  | giveCopy
  | write
  /-- Another task takes the mutex. -/
  | takeOther
  | giveOther
  deriving DecidableEq, Repr

/-- The target of a joint, unless it is skipped. -/
def targetOf (skipped : List UInt8) (joint : PipelineJoint) : List GoalTarget :=
  if joint.id ∈ skipped then [] else [{ id := joint.id, tick := joint.tick }]

namespace GoalTasks

/-- A step of `controlTask`. -/
def controlStep (s : GoalTasks) (a : GoalStep) : Option GoalTasks :=
  match a, s.control with
  | .publish (some goals), .idle => some { s with control := .wantFrame goals }
  | .publish none, .idle => some { s with control := .clear }
  | .takePublish false, .wantFrame _ => some { s with control := .idle }
  | .takePublish true, .wantFrame goals =>
    if s.g_goalMutex = none then
      some { s with g_goalMutex := some .controlTask, control := .count goals }
    else none
  | .writeCount, .count goals =>
    some { s with g_goalFrame.count := goals.joints.length, control := .joints goals 0 }
  | .writeJoint, .joints goals index =>
    if index < goals.joints.length then
      some { s with
        g_goalFrame.joints := s.g_goalFrame.joints.setIfInBounds index (goals.joints.getD index {})
        control := .joints goals (index + 1) }
    else none
  | .writeSeq, .joints goals index =>
    if index = goals.joints.length then
      some { s with g_goalSeq := s.g_goalSeq + 1, control := .raise goals }
    else none
  | .raiseValid, .raise _ => some { s with g_goalValid := true, control := .give }
  | .givePublish, .give => some { s with g_goalMutex := none, control := .idle }
  | .clearValid, .clear => some { s with g_goalValid := false, control := .idle }
  | _, _ => none

/-- A step of `dxlTask`. -/
def dxlStep (s : GoalTasks) (a : GoalStep) : Option GoalTasks :=
  match a, s.dxl with
  | .test motion_open skipped, .idle =>
    some { s with dxl := if motion_open && s.g_goalValid then .wantFrame skipped else .idle }
  | .takeCopy false, .wantFrame _ => some { s with dxl := .idle }
  | .takeCopy true, .wantFrame skipped =>
    if s.g_goalMutex = none then
      some { s with g_goalMutex := some .dxlTask, dxl := .count skipped }
    else none
  | .readCount, .count skipped =>
    some { s with dxl := .joints skipped s.g_goalFrame.count 0 [] }
  | .readJoint, .joints skipped frame_count index targets =>
    if index < frame_count then
      some { s with
        dxl := .joints skipped frame_count (index + 1)
          (targets ++ targetOf skipped (s.g_goalFrame.joints.getD index {})) }
    else none
  | .giveCopy, .joints _ frame_count index targets =>
    if index = frame_count then
      some { s with g_goalMutex := none, dxl := .write targets }
    else none
  | .write, .write _ => some { s with dxl := .idle }
  | _, _ => none

def otherStep (s : GoalTasks) (a : GoalStep) : Option GoalTasks :=
  match a with
  | .takeOther => if s.g_goalMutex = none then some { s with g_goalMutex := some .otherTask } else none
  | .giveOther =>
    if s.g_goalMutex = some .otherTask then some { s with g_goalMutex := none } else none
  | _ => none

def step (s : GoalTasks) (a : GoalStep) : Option GoalTasks :=
  ((s.controlStep a).or (s.dxlStep a)).or (s.otherStep a)

end GoalTasks

abbrev GoalEvent : Type := Event GoalTasks GoalStep

/-- From the start, the steps recorded in `h` lead to `s`. -/
abbrev GoalRun : List GoalEvent → GoalTasks → Prop := Run (Guarded GoalTasks.step) {}

end HexapodVerified.App
