import HexapodVerified.Config.ConfigApi
import HexapodVerified.Controller.ControllerCore
import HexapodVerified.Safety.ErrorJournal

/-!
# Saving the gait from the handset

A save press is handed from `controlTask` (the end of `publishControllerCommand`) to `apiTask`, which runs
the storage transaction, `app/tasks.cpp`. The tasks share a slot for the values and a flag. `apiTask`
tests the flag, copies the slot, saves, and clears the flag; `controlTask` can run between any two of
these.
-/

namespace HexapodVerified.App

open HexapodVerified.Config HexapodVerified.Controller HexapodVerified.Safety Transition

/-- `safety::GaitSaveReject`, the detail of a rejected save. -/
inductive GaitSaveReject where
  | notPersistent | busy | invalid | storeFailed
  deriving DecidableEq, Repr

def GaitSaveReject.wire : GaitSaveReject → UInt8
  | .notPersistent => 1
  | .busy => 2
  | .invalid => 3
  | .storeFailed => 4

/-- Where `apiTask` is in the save of its loop. -/
inductive GaitSavePoint where
  /-- Before the flag is tested, or elsewhere in the loop. -/
  | idle
  /-- The flag was set. -/
  | requested
  /-- `saveGaitDefaults` was called with these values and has not returned. -/
  | saving (pending : GaitDefaults)
  /-- The call has returned. -/
  | saved
  deriving DecidableEq, Repr

structure GaitSaveTasks where
  g_gaitSavePending : GaitDefaults := {}
  g_gaitSaveRequested : Bool := false
  g_gaitSaveHandledSeq : UInt32 := 0
  g_configApi : ConfigApi
  g_errorJournal : ErrorJournal := {}
  api : GaitSavePoint := .idle
  deriving DecidableEq, Repr

inductive GaitSaveStep where
  /-- `controlTask` publishes a command, with the gait of the configuration it has applied. -/
  | publish (gait : GaitDefaults) (diag : ControllerDiagnostics) (now_ms : UInt32)
  /-- `apiTask` tests the flag. -/
  | test
  /-- The slot is copied and the save begins. -/
  | copy
  /-- The save ends. -/
  | save (persist : Persistence) (api_loop_now_ms : UInt32)
  /-- The flag is cleared. -/
  | clear
  /-- Anything else `apiTask` does with the configuration. -/
  | other (configApi : ConfigApi)
  deriving DecidableEq, Repr

/-- The values staged for a press: the gait of the configuration with the applied parameters. -/
def pendingGait (gait : GaitDefaults) (diag : ControllerDiagnostics) : GaitDefaults :=
  { gait with
    body_height_mm := diag.applied_body_height_mm
    stride_len_mm := diag.applied_stride_mm
    step_height_mm := diag.applied_step_height_mm
    duty_x255 := diag.applied_duty_x255
    speed_x255 := diag.applied_speed_x255 }

def rejectReason (result : CfgResult) : GaitSaveReject :=
  match result with
  | .volatile => .notPersistent
  | .validationFailed => .invalid
  | _ => .storeFailed

namespace GaitSaveTasks

def noteRejected (s : GaitSaveTasks) (reason : GaitSaveReject) (now_ms : UInt32) : GaitSaveTasks :=
  { s with
    g_errorJournal := (s.g_errorJournal.note .gaitSaveRejected reason.wire .warning now_ms).1 }

/-- The gait save block of `publishControllerCommand`. -/
def publish (s : GaitSaveTasks) (gait : GaitDefaults) (diag : ControllerDiagnostics)
    (now_ms : UInt32) : GaitSaveTasks :=
  if diag.gait_save_seq ≠ s.g_gaitSaveHandledSeq then
    if diag.gait_save_requested then
      { s with
        g_gaitSaveHandledSeq := diag.gait_save_seq
        g_gaitSavePending := pendingGait gait diag
        g_gaitSaveRequested := true }
    else if diag.gait_tune_active then s.noteRejected .busy now_ms
    else s
  else s

/-- `saveGaitDefaults` returns, and a failure is reported. -/
def finishSave (s : GaitSaveTasks) (pending : GaitDefaults) (persist : Persistence)
    (api_loop_now_ms : UInt32) : GaitSaveTasks :=
  let (configApi, result, _) := s.g_configApi.saveGaitDefaults persist pending
  let s := { s with g_configApi := configApi, api := .saved }
  if result ≠ .ok then s.noteRejected (rejectReason result) api_loop_now_ms else s

def step (s : GaitSaveTasks) (a : GaitSaveStep) : Option GaitSaveTasks :=
  match a, s.api with
  | .publish gait diag now_ms, _ => some (s.publish gait diag now_ms)
  | .test, .idle => some { s with api := if s.g_gaitSaveRequested then .requested else .idle }
  | .copy, .requested => some { s with api := .saving s.g_gaitSavePending }
  | .save persist api_loop_now_ms, .saving pending =>
    some (s.finishSave pending persist api_loop_now_ms)
  | .clear, .saved => some { s with g_gaitSaveRequested := false, api := .idle }
  | .other configApi, .idle => some { s with g_configApi := configApi }
  | _, _ => none

end GaitSaveTasks

abbrev GaitSaveEvent := Event GaitSaveTasks GaitSaveStep

/-- From the start with that configuration interface, the steps recorded in `h` lead to `s`. -/
abbrev GaitSaveRun (configApi : ConfigApi) : List GaitSaveEvent → GaitSaveTasks → Prop :=
  Run (Guarded GaitSaveTasks.step) { g_configApi := configApi }

/-! ## The control cycle and the save press

`controlTask` of `app/tasks.cpp`, as far as the save of the gait is concerned: the controller steps, and
the end of `publishControllerCommand` looks at the save sequence that the command shows. `apiTask` takes
its own steps between two cycles. -/

variable {F : Type} [FloatArith F]

structure ControlTasks (F : Type) where
  g_controllerCore : ControllerCore F
  save : GaitSaveTasks

inductive ControlStep (F : Type) where
  /-- `controlTask` runs a cycle on these inputs. -/
  | cycle (inp : ControllerStepInput F)
  /-- `apiTask` takes a step of its own. -/
  | api (a : GaitSaveStep)

/-- The steps of `apiTask`. -/
def GaitSaveStep.ofApi : GaitSaveStep → Bool
  | .publish .. => false
  | _ => true

namespace ControlTasks

/-- A cycle: the command of the step is published. -/
def cycle (s : ControlTasks F) (inp : ControllerStepInput F) : ControlTasks F :=
  let (g_controllerCore, command) := s.g_controllerCore.step inp
  { g_controllerCore
    save := s.save.publish inp.config.robot.gait command.diagnostics inp.time.now_ms }

def step (s : ControlTasks F) : ControlStep F → Option (ControlTasks F)
  | .cycle inp => some (s.cycle inp)
  | .api a => if a.ofApi then (s.save.step a).map fun save => { s with save } else none

end ControlTasks

abbrev ControlEvent (F : Type) := Event (ControlTasks F) (ControlStep F)

/-- From the reset of `core₀` and the start of `apiTask` with that configuration interface, the steps
recorded in `h` lead to `s`. -/
abbrev ControlRun (core₀ : ControllerCore F) (configApi : ConfigApi) :
    List (ControlEvent F) → ControlTasks F → Prop :=
  Run (Guarded ControlTasks.step) ⟨core₀.reset, { g_configApi := configApi }⟩

end HexapodVerified.App
