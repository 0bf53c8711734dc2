import HexapodVerified.Input.ControllerBridge
import HexapodVerified.Input.CrsfParser

/-!
# The receiver task

`rcTask` of `app/tasks.cpp`: every cycle it decodes the bytes that have arrived from the receiver,
adopts what other tasks have staged, and publishes one snapshot of the command.
-/

namespace HexapodVerified.App

open HexapodVerified.Config HexapodVerified.Input FloatArith

/-- `RcFrameSnapshot`, without the status, which repeats fields of the command. -/
structure RcFrameSnapshot (F : Type) where
  command : ControllerCommand F
  frame_sequence : UInt32
  published_ms : UInt32

/-- `RcFrameMailbox`. -/
structure RcFrameMailbox (F : Type) where
  snapshot : RcFrameSnapshot F
  sequence : UInt32
  published : Bool

namespace RcFrameMailbox

variable {F : Type} (m : RcFrameMailbox F)

def publish (snapshot : RcFrameSnapshot F) : RcFrameMailbox F where
  snapshot
  sequence := m.sequence + 1
  published := true

def copy : Option (RcFrameSnapshot F) := if m.published then some m.snapshot else none

end RcFrameMailbox

abbrev kMaxBytesPerCycle : Nat := 128

variable {F : Type} [FloatExp F]

structure RcTask (F : Type) where
  g_crsfParser : Crsf.Parser := {}
  g_bridge : ControllerBridge F
  g_rcMailbox : RcFrameMailbox F
  applied_calibration_revision : UInt32 := 0xFFFFFFFF
  applied_gait_tune_revision : UInt32 := 0xFFFFFFFF

/-- What a cycle finds: the time, and what other tasks have staged. -/
structure RcStaged (F : Type) where
  now_ms : UInt32
  g_pendingRcCalibration : Option (RcInputCalibration × UInt32)
  g_ctrlPendingBindings : Option (BindingConfig F)
  gait_rev : UInt32
  gait : GaitDefaults

namespace RcTask

/-- The start of `rcTask`: the mailbox and the bridge are reset. -/
def start : RcTask F where
  g_bridge := ControllerBridge.construct.reset
  g_rcMailbox :=
    { snapshot := { command := .default, frame_sequence := 0, published_ms := 0 }
      sequence := 0
      published := false }

variable (t : RcTask F)

def readFrame (now_ms : UInt32) (t : RcTask F) (channels : Channels) : RcTask F :=
  { t with g_bridge := t.g_bridge.update channels true now_ms }

/-- A byte goes to the parser. -/
def readByte (now_ms : UInt32) (t : RcTask F) (b : UInt8) : RcTask F :=
  let (parser, frame) := t.g_crsfParser.push b
  let t := { t with g_crsfParser := parser }
  match frame with
  | none => t
  | some channels => t.readFrame now_ms channels

def adoptCalibration (staged : RcStaged F) : RcTask F :=
  match staged.g_pendingRcCalibration with
  | none => t
  | some (calibration, revision) =>
    if revision ≠ t.applied_calibration_revision then
      { t with
        g_bridge := t.g_bridge.setCalibration calibration
        applied_calibration_revision := revision }
    else t

def adoptBindings (staged : RcStaged F) : RcTask F :=
  match staged.g_ctrlPendingBindings with
  | none => t
  | some cfg => { t with g_bridge := t.g_bridge.setBindings cfg }

def adoptGaitTune (staged : RcStaged F) : RcTask F :=
  if staged.gait_rev ≠ t.applied_gait_tune_revision then
    { t with
      g_bridge := t.g_bridge.setGaitTuneFractions
        (ofUInt16 staged.gait.step_height_mm / ofUInt16 kMaxGaitStepMm)
        (ofUInt16 staged.gait.stride_len_mm / ofUInt16 kMaxGaitStrideMm)
        (ofUInt8 staged.gait.duty_x255 / lit 255)
      applied_gait_tune_revision := staged.gait_rev }
  else t

def publish (staged : RcStaged F) : RcTask F :=
  { t with
    g_rcMailbox := t.g_rcMailbox.publish
      { command := t.g_bridge.cmd
        frame_sequence := t.g_crsfParser.frames_decoded
        published_ms := staged.now_ms } }

/-- The cycle after the bytes were read. -/
def finish (staged : RcStaged F) : RcTask F :=
  let t := { t with g_bridge := t.g_bridge.evaluateFailsafe staged.now_ms kDefaultFailsafeMs }
  (((t.adoptCalibration staged).adoptBindings staged).adoptGaitTune staged).publish staged

/-- One cycle, with the bytes that are available. -/
def cycle (bytes : List UInt8) (staged : RcStaged F) : RcTask F :=
  ((bytes.take kMaxBytesPerCycle).foldl (readByte staged.now_ms) t).finish staged

end RcTask

end HexapodVerified.App
