import HexapodVerified.Host.RobotConfig
import HexapodVerified.Lib.FloatArith

/-!
# The servo telemetry on the host

The decoders of `hexapod_protocol/telemetry.py` for the status of the servos and the angles of their joints, and
`servo_status_to_joint_angles` of `config.py`, which computes those angles on the host.
-/

namespace HexapodVerified.Host

open Bytes FloatArith

structure ServoStatus where
  id : Int
  position : Int
  velocity : Int
  load : Int
  voltage_mv : Int
  temperature_c : Int
  hardware_error : Int
  torque_enabled : Bool := false
  deriving DecidableEq, Repr

structure ServoStatusTelemetry where
  servos : List ServoStatus := []
  deriving DecidableEq, Repr

structure JointAngle where
  leg : Int
  joint : Int
  angle_centideg : Int
  deriving DecidableEq, Repr

structure JointStateTelemetry where
  joints : List JointAngle := []
  deriving DecidableEq, Repr

/-! ## Decoders -/

/-- The loop of the decoders over the records of a payload, which stops at one that is cut short. -/
def readRecords {α : Type} (size : Nat) (read : List UInt8 → α) : Nat → List UInt8 → List α
  | 0, _ => []
  | count + 1, p => if p.length < size then [] else read p :: readRecords size read count (p.drop size)

def readServoStatus (p : List UInt8) : ServoStatus where
  id := (p.getD 0 0).toNat
  position := (getU32 (p.drop 1)).toNat
  velocity := (getU16 (p.drop 5)).toInt16.toInt
  load := (getU16 (p.drop 7)).toInt16.toInt
  voltage_mv := (getU16 (p.drop 9)).toNat
  temperature_c := (p.getD 11 0).toInt8.toInt
  hardware_error := (p.getD 12 0).toNat
  torque_enabled := p.getD 13 0 != 0

def decodeServoStatus : List UInt8 → ServoStatusTelemetry
  | [] => {}
  | count :: p => { servos := readRecords 14 readServoStatus count.toNat p }

def readJointAngle (p : List UInt8) : JointAngle where
  leg := (p.getD 0 0).toNat
  joint := (p.getD 1 0).toNat
  angle_centideg := (getU16 (p.drop 2)).toInt16.toInt

def decodeJointState : List UInt8 → JointStateTelemetry
  | [] => {}
  | count :: p => { joints := readRecords 4 readJointAngle count.toNat p }

/-! ## From a tick to an angle -/

abbrev SERVO_CENTER_TICK : Int := 2048

section Conversion

variable {F : Type} [FloatArith F]

def TICKS_PER_REV : F := lit 4096
def TICKS_PER_DEG : F := TICKS_PER_REV / lit 360
def RAD_TO_DEG : F := lit 180 / lit 3.14159265358979323846
def DEG_TO_RAD : F := lit 3.14159265358979323846 / lit 180

/-- `_lround`; `math.ceil` is `math.floor` of the number turned round. -/
def roundAway (x : F) : Int :=
  if le (lit 0) x then trunc (floor (x + lit 0.5)) else trunc (-floor (-(x - lit 0.5)))

/-- `tick_to_angle`. -/
def tickToAngle (servo : ServoConfig) (tick : Int) : F :=
  let offset_ticks : F := ofInt (tick - SERVO_CENTER_TICK - servo.trim_ticks)
  let deg := offset_ticks / TICKS_PER_DEG
  ofInt servo.sign * deg * DEG_TO_RAD

end Conversion

/-- `ServoMap.servo_for_id`: in the dictionary the last servo with an id stays. -/
def servoForId (config : RobotConfig) (servo_id : Int) : Option ServoConfig :=
  config.servos.reverse.find? fun s => s.id == servo_id

/-- One turn of the loop of `servo_status_to_joint_angles`. -/
def jointAngle (F : Type) [FloatArith F] (config : RobotConfig) (s : ServoStatus) : Option JointAngle :=
  match servoForId config s.id with
  | none => none
  | some servo =>
    let tick := max 0 (min SERVO_MAX_TICK s.position)
    let rad : F := tickToAngle servo tick
    let centideg := roundAway (rad * RAD_TO_DEG * lit 100)
    some { leg := servo.leg, joint := servo.joint, angle_centideg := max (-32768) (min 32767 centideg) }

def servoStatusToJointAngles (F : Type) [FloatArith F] (config : RobotConfig) (servo_status : ServoStatusTelemetry) :
    List JointAngle := servo_status.servos.filterMap (jointAngle F config)

end HexapodVerified.Host
