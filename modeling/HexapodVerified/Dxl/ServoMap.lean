import HexapodVerified.Config.ConfigSchema
import HexapodVerified.Lib.FloatArith

/-!
# The servo map

`dxl/servo_map.cpp`: from a joint angle to a goal tick inside the configured travel window. `long` is
an integer here: the values of the source fit its 32 bits for angles below 3 million radians.
-/

namespace HexapodVerified.Dxl

open HexapodVerified.Config FloatArith

variable {F : Type} [FloatArith F]

def kTicksPerDeg : F := lit 4096 / lit 360

def kRadToDeg : F := lit 180 / lit 3.14159265358979323846

def kDegToRad : F := lit 3.14159265358979323846 / lit 180

structure JointCommand where
  tick : UInt16 := kServoCenterTick
  clamped_low : Bool := false
  clamped_high : Bool := false
  unmapped : Bool := false
  deriving DecidableEq, Repr

/-- `ServoMap::servoFor`: the first servo in the slot. -/
def servoFor (cfg : RobotConfig) (leg joint : UInt8) : Option ServoConfig :=
  cfg.servos.toList.find? fun s => s.leg == leg && s.joint == joint

/-- `ServoMap::servoForId`: the first servo with the bus id. -/
def servoForId (cfg : RobotConfig) (id : UInt8) : Option ServoConfig :=
  cfg.servos.toList.find? fun s => s.id == id

/-- The clamps of `ServoMap::angleToTick`, in the order of the source: the travel window, then the
device range. -/
def clampTick (s : ServoConfig) (raw : Int) : JointCommand :=
  let lo : Int := s.min_tick.toNat
  let hi : Int := s.max_tick.toNat
  let low := decide (raw < lo)
  let raw := if raw < lo then lo else raw
  let high := decide (raw > hi)
  let raw := if raw > hi then hi else raw
  let low := low || decide (raw < 0)
  let raw := if raw < 0 then 0 else raw
  let high := high || decide (raw > kServoMaxTick.toNat)
  let raw := if raw > kServoMaxTick.toNat then (kServoMaxTick.toNat : Int) else raw
  { tick := UInt16.ofInt raw, clamped_low := low, clamped_high := high }

def angleToTick (cfg : RobotConfig) (leg joint : UInt8) (angle_rad : F) : JointCommand :=
  match servoFor cfg leg joint with
  | none => { unmapped := true }
  | some s =>
    let offset := lround (angle_rad * kRadToDeg * kTicksPerDeg)
    clampTick s (kServoCenterTick.toNat + s.trim_ticks.toInt + s.sign.toInt * offset)

/-- `ServoMap::tickToAngle`. -/
def tickToAngle (cfg : RobotConfig) (leg joint : UInt8) (tick : UInt16) : F :=
  match servoFor cfg leg joint with
  | none => lit 0
  | some s =>
    let offset_ticks : F := ofInt (tick.toNat - kServoCenterTick.toNat - s.trim_ticks.toInt)
    let deg := offset_ticks / kTicksPerDeg
    ofInt s.sign.toInt * deg * kDegToRad

end HexapodVerified.Dxl
