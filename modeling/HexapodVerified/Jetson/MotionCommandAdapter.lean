import HexapodVerified.Lib.FloatArith
import HexapodVerified.Lib.Runs

/-!
# The motion commands of the Jetson

`jetson/src/hexapod_jetson_bridge/motion_command_adapter.py`: a motion request of a planner is checked,
clamped and forwarded to the bridge in four parts, and the motion is stopped when the request has been valid
for long enough. A response of the bridge is what `_send` looks at: nothing, or its `ok`. The readings of the clock
have a type of their own beside the numbers of a request.
-/

namespace HexapodVerified.Jetson

open FloatArith Transition

variable {F T : Type} [FloatArith F] [FloatArith T]

abbrev GAIT_COUNT : Int := 6
abbrev MAX_BODY_HEIGHT_MM : Int := 120
abbrev MAX_STRIDE_MM : Int := 80
abbrev MAX_STEP_HEIGHT_MM : Int := 50
def MAX_POSE_TRANSLATION_MM : F := lit 50
def MAX_POSE_ROTATION_RAD : F := lit 0.4363
abbrev MAXIMUM_VALIDITY_MS : Int := 1000

structure MotionCommandInput (F : Type) where
  gait : Int
  body_height_m : F
  stride_length_m : F
  step_height_m : F
  duty_factor : F
  speed_scale : F
  normalized_vx : F
  normalized_vy : F
  normalized_wz : F
  body_translation_x_m : F
  body_translation_y_m : F
  body_translation_z_m : F
  body_roll_rad : F
  body_pitch_rad : F
  body_yaw_rad : F
  valid_for_sec : Int
  valid_for_nanosec : Int

structure MappedMotionCommand (F T : Type) where
  gait : Int
  body_height_mm : Int
  stride_length_mm : Int
  step_height_mm : Int
  duty_x255 : Int
  speed_x255 : Int
  normalized_vx : F
  normalized_vy : F
  normalized_wz : F
  pose_x_mm : F
  pose_y_mm : F
  pose_z_mm : F
  pose_roll_deg : F
  pose_pitch_deg : F
  pose_yaw_deg : F
  validity_s : T

/-- `math.isfinite`: the difference of a value and itself is zero unless it is infinite or no number. -/
def isfinite (value : F) : Bool := feq (value - value) (lit 0)

/-- `_clamp`. -/
def clamp (value minimum maximum : F) : F := fmin (fmax value minimum) maximum

/-- `_round_nonnegative`. -/
def roundNonnegative (value : F) : Int := trunc (FloatArith.floor (value + lit 0.5))

/-- `_meters_to_millimeters`. -/
def metersToMillimeters (value : F) (maximum : Int) : Int :=
  roundNonnegative (clamp (value * lit 1000) (lit 0) (ofInt maximum))

/-- `_meters_to_bounded_millimeters`. -/
def metersToBoundedMillimeters (value : F) : F :=
  clamp (value * lit 1000) (-MAX_POSE_TRANSLATION_MM) MAX_POSE_TRANSLATION_MM

/-- `_radians_to_bounded_degrees`; `math.degrees` multiplies by a constant. -/
def radiansToBoundedDegrees (value : F) : F :=
  let radians := clamp value (-MAX_POSE_ROTATION_RAD) MAX_POSE_ROTATION_RAD
  radians * (lit 180 / lit 3.14159265358979323846)

/-- `_unit_to_x255`. -/
def unitToX255 (value : F) : Int := roundNonnegative (clamp value (lit 0) (lit 1) * lit 255)

namespace MotionCommandInput

variable (command : MotionCommandInput F)

def values : List F :=
  [command.body_height_m, command.stride_length_m, command.step_height_m, command.duty_factor,
    command.speed_scale, command.normalized_vx, command.normalized_vy, command.normalized_wz,
    command.body_translation_x_m, command.body_translation_y_m, command.body_translation_z_m,
    command.body_roll_rad, command.body_pitch_rad, command.body_yaw_rad]

/-- `requested_ms`. -/
def requestedMs : Int := command.valid_for_sec * 1000 + command.valid_for_nanosec / 1000000

/-- `map_motion_command`; an error is the text of the `ValueError`. -/
def mapMotionCommand : Except String (MappedMotionCommand F T) :=
  if ¬ (0 ≤ command.gait ∧ command.gait < GAIT_COUNT) then
    .error "motion command has an unknown gait"
  else if ¬ command.values.all isfinite then
    .error "motion command contains a non-finite value"
  else if command.requestedMs ≤ 0 then
    .error "motion command validity must be positive"
  else
    .ok
      { gait := command.gait
        body_height_mm := metersToMillimeters command.body_height_m MAX_BODY_HEIGHT_MM
        stride_length_mm := metersToMillimeters command.stride_length_m MAX_STRIDE_MM
        step_height_mm := metersToMillimeters command.step_height_m MAX_STEP_HEIGHT_MM
        duty_x255 := unitToX255 command.duty_factor
        speed_x255 := unitToX255 command.speed_scale
        normalized_vx := clamp command.normalized_vx (lit (-1)) (lit 1)
        normalized_vy := clamp command.normalized_vy (lit (-1)) (lit 1)
        normalized_wz := clamp command.normalized_wz (lit (-1)) (lit 1)
        pose_x_mm := metersToBoundedMillimeters command.body_translation_x_m
        pose_y_mm := metersToBoundedMillimeters command.body_translation_y_m
        pose_z_mm := metersToBoundedMillimeters command.body_translation_z_m
        pose_roll_deg := radiansToBoundedDegrees command.body_roll_rad
        pose_pitch_deg := radiansToBoundedDegrees command.body_pitch_rad
        pose_yaw_deg := radiansToBoundedDegrees command.body_yaw_rad
        validity_s := ofInt (min command.requestedMs MAXIMUM_VALIDITY_MS) / lit 1000 }

end MotionCommandInput

/-- A part of a motion that is forwarded: the calls of `HighLevelMotionBridge` but `stop_motion`. -/
inductive MotionPart (F : Type) where
  | setGait (gait : Int)
  | setGaitParams (body_height_mm stride_len_mm step_height_mm duty_x255 speed_x255 : Int)
  | setBodyTwist (vx vy wz : F)
  | setBodyPose (x_mm y_mm z_mm roll_deg pitch_deg yaw_deg : F)

def MappedMotionCommand.parts (mapped : MappedMotionCommand F T) : List (String × MotionPart F) :=
  [("gait", .setGait mapped.gait),
    ("gait parameters", .setGaitParams mapped.body_height_mm mapped.stride_length_mm
      mapped.step_height_mm mapped.duty_x255 mapped.speed_x255),
    ("body twist", .setBodyTwist mapped.normalized_vx mapped.normalized_vy mapped.normalized_wz),
    ("body pose", .setBodyPose mapped.pose_x_mm mapped.pose_y_mm mapped.pose_z_mm
      mapped.pose_roll_deg mapped.pose_pitch_deg mapped.pose_yaw_deg)]

/-- What the bridge answers to a part: nothing, or a result with this `ok`. -/
abbrev Responder (F : Type) : Type := MotionPart F → Option Bool

/-- A call on the bridge: a part with whether it was accepted, or a stop. -/
inductive BridgeCall (F : Type) where
  | forwarded (part : MotionPart F) (accepted : Bool)
  | stopMotion

structure MotionCommandAdapter (T : Type) where
  expires_at : Option T
  last_error : Option String

namespace MotionCommandAdapter

def new : MotionCommandAdapter T where
  expires_at := none
  last_error := none

variable (a : MotionCommandAdapter T)

/-- `expire_if_needed`, with the reading of the clock. -/
def expireIfNeeded (now : T) : MotionCommandAdapter T × Bool × List (BridgeCall F) :=
  match a.expires_at with
  | none => (a, false, [])
  | some expires_at =>
    if lt now expires_at then (a, false, [])
    else ({ a with expires_at := none }, true, [.stopMotion])

/-- `_send`. -/
def send (label : String) (response : Option Bool) :
    MotionCommandAdapter T × Bool × List (BridgeCall F) :=
  if response = some true then (a, true, [])
  else
    ({ expires_at := none, last_error := some (label ++ " command was not accepted") }, false,
      [.stopMotion])

/-- The parts go out one by one, until one is not accepted. -/
def forward (respond : Responder F) :
    List (String × MotionPart F) → MotionCommandAdapter T →
      MotionCommandAdapter T × Bool × List (BridgeCall F)
  | [], a => (a, true, [])
  | (label, part) :: rest, a =>
    let response := respond part
    let (a, sent, calls) := a.send label response
    let call := .forwarded part (response = some true)
    if sent then
      let (a, ok, later) := forward respond rest a
      (a, ok, call :: (calls ++ later))
    else (a, false, call :: calls)

/-- `accept`: the clock is read at `start`, and at `finish` when all parts were accepted. -/
def accept (command : MotionCommandInput F) (respond : Responder F) (start finish : T) :
    MotionCommandAdapter T × Bool × List (BridgeCall F) :=
  let (a, _, expired) := a.expireIfNeeded start
  match command.mapMotionCommand (T := T) with
  | .error error => ({ a with last_error := some error }, false, expired)
  | .ok mapped =>
    let (a, ok, calls) := forward respond mapped.parts { a with last_error := none }
    if ok then ({ a with expires_at := some (finish + mapped.validity_s) }, true, expired ++ calls)
    else (a, false, expired ++ calls)

end MotionCommandAdapter

inductive AdapterCall (F : Type) where
  | accept (command : MotionCommandInput F) (respond : Responder F)
  | expireIfNeeded

structure TimedCall (F T : Type) where
  call : AdapterCall F
  start : T
  finish : T

/-- What a call returns and the calls on the bridge that it made, in order. -/
structure AdapterResult (F : Type) where
  returned : Bool
  calls : List (BridgeCall F)

def MotionCommandAdapter.serve (a : MotionCommandAdapter T) (c : TimedCall F T) :
    MotionCommandAdapter T × AdapterResult F :=
  let (a, returned, calls) :=
    match c.call with
    | .accept command respond => a.accept command respond c.start c.finish
    | .expireIfNeeded => a.expireIfNeeded c.start
  (a, { returned, calls })

structure ClockedAdapter (T : Type) where
  adapter : MotionCommandAdapter T
  clock : T

/-- One call; the clock does not go back. -/
def ClockedAdapter.Step (s : ClockedAdapter T) (io : TimedCall F T × AdapterResult F)
    (t : ClockedAdapter T) : Prop :=
  le s.clock io.1.start ∧ le io.1.start io.1.finish ∧ t.clock = io.1.finish ∧
    s.adapter.serve io.1 = (t.adapter, io.2)

abbrev AdapterEvent (F T : Type) := Event (ClockedAdapter T) (TimedCall F T × AdapterResult F)

/-- From a new adapter, the calls recorded in `h` lead to `s`. -/
abbrev AdapterRun (clock : T) : List (AdapterEvent F T) → ClockedAdapter T → Prop :=
  Run ClockedAdapter.Step { adapter := .new, clock }

end HexapodVerified.Jetson
