import HexapodVerified.Input.ControllerBridge
import HexapodVerified.Lib.Codec
import HexapodVerified.Protocol.ControlApi

/-!
# The hand controller on the wire

The binding part of `protocol/controller_api.cpp`: a binding map is written field by field; a map that
is read is checked and only adopted as a whole. An older host sends one trick slot less.
-/

namespace HexapodVerified.Protocol

open HexapodVerified.Input Codec FloatArith

abbrev kControllerBindingsLen : Nat := 83
abbrev kLegacyControllerBindingsLen : Nat := 81
/-- `kMaxTrickBindings - 1`. -/
abbrev kLegacyTrickBindings : Nat := 8

variable {F : Type} [FloatArith F]

/-- Rounding to the nearest 16-bit integer, with saturation. -/
def toI16 (v : F) : Int16 :=
  let r := if le (lit 0) v then v + lit 0.5 else v - lit 0.5
  if lt (lit 32767) r then 32767
  else if lt r (lit (-32768)) then -32768
  else Int16.ofInt (trunc r)

def milli (v : F) : Int16 := toI16 (v * lit 1000)

def putFlag (v : Bool) : List UInt8 := putU8 (if v then 1 else 0)

def getFlag : Reader Bool := do return (← getU8) != 0

def putDeadband (deadband : F) : List UInt8 := putI16 (milli deadband)

def deadbandOf (thousandths : Int16) : F :=
  let db : F := ofInt16 thousandths / lit 1000
  let db := if lt db (lit 0) then lit 0 else db
  if lt (lit 1) db then lit 1 else db

def getDeadband : Reader F := do return deadbandOf (← getI16)

def putAxis (a : AxisBinding F) : List UInt8 :=
  putEnum AxisSource.all a.source ++ (putFlag a.invert ++ putDeadband a.deadband)

def getAxis : Reader (AxisBinding F) := do
  let source ← getEnum AxisSource.all
  let invert ← getFlag
  let deadband ← getDeadband
  return { source, invert, deadband }

def putTrick (tb : TrickBinding) : List UInt8 :=
  putEnum BoolSource.all tb.source ++ putEnum allTricks tb.trick

def getTrick : Reader TrickBinding := do
  let source ← getEnum BoolSource.all
  let trick ← getEnum allTricks
  return { source, trick }

/-- `ControllerApi::encodeBindings`. -/
def encodeBindings (cfg : BindingConfig F) : List UInt8 :=
  putAxis cfg.walk_forward ++
  putAxis cfg.walk_strafe ++
  putAxis cfg.walk_yaw ++
  putAxis cfg.body_x ++
  putAxis cfg.body_y ++
  putAxis cfg.body_z ++
  putAxis cfg.body_roll ++
  putAxis cfg.body_pitch ++
  putAxis cfg.body_yaw ++
  putAxis cfg.speed ++
  putAxis cfg.body_height ++
  putAxis cfg.stride ++
  putAxis cfg.step_height ++
  putEnum TriSource.all cfg.mode_select ++
  putEnum TriSource.all cfg.gait_select ++
  putEnum BoolSource.all cfg.arm ++
  putEnum BoolSource.all cfg.estop ++
  putEnum BoolSource.all cfg.feat_foot_contact ++
  putEnum BoolSource.all cfg.feat_terrain_leveling ++
  putEnum BoolSource.all cfg.feat_passive_pose ++
  putEnum BoolSource.all cfg.host_authority ++
  putEnum BoolSource.all cfg.trim_pitch_up ++
  putEnum BoolSource.all cfg.trim_pitch_down ++
  putEnum BoolSource.all cfg.trim_roll_left ++
  putEnum BoolSource.all cfg.trim_roll_right ++
  putEnum BoolSource.all cfg.trim_reset ++
  putVector putTrick cfg.tricks

/-- The axes in the order of the pointer table `axes` of `decodeBindings`. -/
def setAxes (c : BindingConfig F) (axes : Vector (AxisBinding F) 13) : BindingConfig F :=
  { c with
    walk_forward := axes.get 0
    walk_strafe := axes.get 1
    walk_yaw := axes.get 2
    body_x := axes.get 3
    body_y := axes.get 4
    body_z := axes.get 5
    body_roll := axes.get 6
    body_pitch := axes.get 7
    body_yaw := axes.get 8
    speed := axes.get 9
    body_height := axes.get 10
    stride := axes.get 11
    step_height := axes.get 12 }

/-- The sources in the order of the pointer table `bools`. -/
def setBools (c : BindingConfig F) (bools : Vector BoolSource 11) : BindingConfig F :=
  { c with
    arm := bools.get 0
    estop := bools.get 1
    feat_foot_contact := bools.get 2
    feat_terrain_leveling := bools.get 3
    feat_passive_pose := bools.get 4
    host_authority := bools.get 5
    trim_pitch_up := bools.get 6
    trim_pitch_down := bools.get 7
    trim_roll_left := bools.get 8
    trim_roll_right := bools.get 9
    trim_reset := bools.get 10 }

/-- The part of `decodeBindings` before the tricks. Fields that are not on the wire keep their
defaults. -/
def getFunctions : Reader (BindingConfig F) := do
  let axes ← getVector getAxis 13
  let mode_select ← getEnum TriSource.all
  let gait_select ← getEnum TriSource.all
  let bools ← getVector (getEnum BoolSource.all) 11
  return { setBools (setAxes defaultBindings axes) bools with mode_select, gait_select }

/-- The slot that an older host does not send: `tricks[kMaxTrickBindings - 2]`. -/
def newTrick (tricks : Vector TrickBinding kMaxTrickBindings) : TrickBinding := tricks.get 7

/-- The trick slots of an older host: the last one is shifted, and the default of the new slot is put
in before it. -/
def shiftTricks (defaults : Vector TrickBinding kMaxTrickBindings)
    (tricks : Vector TrickBinding kLegacyTrickBindings) : Vector TrickBinding kMaxTrickBindings :=
  (tricks.pop.push (newTrick defaults)).push tricks.back

def getTricks (legacy : Bool) (c : BindingConfig F) : Reader (BindingConfig F) :=
  if legacy then do
    let tricks ← getVector getTrick kLegacyTrickBindings
    return { c with tricks := shiftTricks c.tricks tricks }
  else do
    let tricks ← getVector getTrick kMaxTrickBindings
    return { c with tricks }

def readBindings (bytes : List UInt8) : Option (BindingConfig F) :=
  if bytes.length ≠ kControllerBindingsLen ∧ bytes.length ≠ kLegacyControllerBindingsLen then none
  else
    ((getFunctions >>= getTricks (bytes.length == kLegacyControllerBindingsLen)) bytes).map (·.1)

/-- `ControllerApi::decodeBindings`: the verdict and what is in `out` afterwards. -/
def decodeBindings (bytes : List UInt8) (out : BindingConfig F) : Bool × BindingConfig F :=
  match readBindings bytes with
  | none => (false, out)
  | some c => (true, c)

/-!
## The hand controller commands

The rest of `protocol/controller_api.cpp`: the decoded state of the hand controller with its raw inputs, and
the commands that read it and that replace the bindings.
-/

namespace Controllermsg

abbrev kGetState : UInt8 := 0x90
abbrev kGetBindings : UInt8 := 0x91
abbrev kSetBindings : UInt8 := 0x92
abbrev kFirst : UInt8 := kGetState
abbrev kLast : UInt8 := kSetBindings

def isControllerMsg (id : UInt8) : Bool := id ≥ kFirst && id ≤ kLast

end Controllermsg

inductive ControllerResult where
  | ok | rejected | badRequest
  deriving DecidableEq, Repr

def ControllerResult.wire : ControllerResult → UInt8
  | .ok => 0
  | .rejected => 1
  | .badRequest => 2

abbrev kControllerStateLen : Nat := 57

variable {F : Type} [FloatArith F]

/-- The unit interval in 255 steps, with saturation. -/
def scalarU8 (v : F) : UInt8 :=
  let r := v * lit 255 + lit 0.5
  let r := if lt r (lit 0) then lit 0 else r
  let r := if lt (lit 255) r then lit 255 else r
  toUInt8 r

def allControlModes : List ControlMode := [.yaw, .translateBody, .rotateBody]

/-- One bit for each flag, the first in the lowest. -/
def packBits : List Bool → UInt8
  | [] => 0
  | b :: bits => (if b then (1 : UInt8) else 0) ||| (packBits bits <<< 1)

def encodeCommand (cmd : ControllerCommand F) : List UInt8 :=
  [packBits [cmd.valid, cmd.failsafe, cmd.ever_seen, cmd.arm_request, cmd.estop, cmd.host_authority,
      cmd.feat_foot_contact, cmd.feat_terrain_leveling], packBits [cmd.feat_passive_pose]] ++
  putEnum allControlModes cmd.mode ++
  putU8 cmd.gait_index ++
  putEnum allTricks cmd.trick ++
  putI16 (milli cmd.twist_vx) ++
  putI16 (milli cmd.twist_vy) ++
  putI16 (milli cmd.twist_wz) ++
  putI16 (toI16 cmd.pose_x_mm) ++
  putI16 (toI16 cmd.pose_y_mm) ++
  putI16 (toI16 cmd.pose_z_mm) ++
  putI16 (milli cmd.pose_roll) ++
  putI16 (milli cmd.pose_pitch) ++
  putI16 (milli cmd.pose_yaw) ++
  putI16 (milli cmd.trim_roll) ++
  putI16 (milli cmd.trim_pitch) ++
  [scalarU8 cmd.speed, scalarU8 cmd.body_height, scalarU8 cmd.stride, scalarU8 cmd.step_height]

def encodeInputs (raw : ChannelPackInputs) : List UInt8 :=
  putVector putI16 raw.gimbal ++
  putVector putI16 raw.pot ++
  putVector putI32 raw.encoder ++
  [packBits raw.switches.toList, packBits raw.buttons.toList] ++
  putVector putU8 raw.toggles ++
  putVector (fun nav => [packBits nav.toList]) raw.nav

/-- `ControllerApi::encodeState`. -/
def encodeState (cmd : ControllerCommand F) (raw : ChannelPackInputs) : List UInt8 :=
  encodeCommand cmd ++ encodeInputs raw

/-- The bindings that were set wait in `pending` for their owner. -/
structure ControllerApi (F : Type) where
  cmd : ControllerCommand F
  raw : ChannelPackInputs
  cfg : BindingConfig F
  pending : BindingConfig F
  pending_valid : Bool

namespace ControllerApi

def writeResult (r : ControllerResult) (out_cap : Nat) : Reply :=
  if out_cap < 1 then { out := [], out_flags := 0x02 }
  else { out := [r.wire], out_flags := if r = .badRequest then 0x02 else 0x00 }

/-- `case kSetBindings`. -/
def handleSetBindings (api : ControllerApi F) (req : List UInt8) (out_cap : Nat) :
    ControllerApi F × Reply :=
  match readBindings req with
  | none => (api, writeResult .badRequest out_cap)
  | some c =>
    ({ api with pending := c, pending_valid := true, cfg := c }, writeResult .ok out_cap)

/-- `handle`; no reply when it returns false. -/
def handle (api : ControllerApi F) (msg_id : UInt8) (req : List UInt8) (out_cap : Nat) :
    ControllerApi F × Option Reply :=
  if !Controllermsg.isControllerMsg msg_id then (api, none)
  else if msg_id = Controllermsg.kGetState then
    if out_cap < kControllerStateLen then (api, some (writeResult .badRequest out_cap))
    else (api, some { out := encodeState api.cmd api.raw })
  else if msg_id = Controllermsg.kGetBindings then
    if out_cap < kControllerBindingsLen then (api, some (writeResult .badRequest out_cap))
    else (api, some { out := encodeBindings api.cfg })
  else if msg_id = Controllermsg.kSetBindings then (api.handleSetBindings req out_cap).map id some
  else (api, some (writeResult .badRequest out_cap))

end ControllerApi

end HexapodVerified.Protocol
