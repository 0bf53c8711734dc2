import HexapodVerified.Gait.TrickEngine

/-!
# The controller bindings

The sources of the hand controller and the map from sources to functions, from
`input/controller_bridge.h`, with the default map of `controller_bridge.cpp`.
-/

namespace HexapodVerified.Input

open HexapodVerified.Gait FloatArith

inductive AxisSource where
  | none | gimbalLX | gimbalLY | gimbalRX | gimbalRY | pot1 | pot2 | enc1 | enc2
  deriving DecidableEq, Repr

def AxisSource.all : List AxisSource :=
  [.none, .gimbalLX, .gimbalLY, .gimbalRX, .gimbalRY, .pot1, .pot2, .enc1, .enc2]

inductive BoolSource where
  | none | swA | swB | swC | swD | swG | swH | btn1 | btn2 | btn3 | btn4
  | nav1Up | nav1Down | nav1Left | nav1Right | nav1Center
  | nav2Up | nav2Down | nav2Left | nav2Right | nav2Center
  deriving DecidableEq, Repr

def BoolSource.all : List BoolSource :=
  [.none, .swA, .swB, .swC, .swD, .swG, .swH, .btn1, .btn2, .btn3, .btn4,
    .nav1Up, .nav1Down, .nav1Left, .nav1Right, .nav1Center,
    .nav2Up, .nav2Down, .nav2Left, .nav2Right, .nav2Center]

inductive TriSource where
  | none | swE | swF
  deriving DecidableEq, Repr

def TriSource.all : List TriSource := [.none, .swE, .swF]

def allTricks : List TrickId :=
  [.none, .standUp, .sitDown, .wave, .crouchToggle, .twirl, .stretch, .leanLook, .danceLoop,
    .spiderAttack, .jumpKick]

structure AxisBinding (F : Type) where
  source : AxisSource
  invert : Bool
  deadband : F

structure TrickBinding where
  source : BoolSource := .none
  trick : TrickId := .none
  deriving DecidableEq, Repr

abbrev kMaxTrickBindings : Nat := 9

/-- `BindingConfig`: what each function of the controller is fed from. -/
structure BindingConfig (F : Type) where
  walk_forward : AxisBinding F
  walk_strafe : AxisBinding F
  walk_yaw : AxisBinding F
  body_x : AxisBinding F
  body_y : AxisBinding F
  body_z : AxisBinding F
  body_roll : AxisBinding F
  body_pitch : AxisBinding F
  body_yaw : AxisBinding F
  speed : AxisBinding F
  body_height : AxisBinding F
  stride : AxisBinding F
  step_height : AxisBinding F
  duty : AxisBinding F
  gait_select : TriSource
  mode_select : TriSource
  arm : BoolSource
  estop : BoolSource
  feat_foot_contact : BoolSource
  feat_terrain_leveling : BoolSource
  feat_passive_pose : BoolSource
  host_authority : BoolSource
  trim_pitch_up : BoolSource
  trim_pitch_down : BoolSource
  trim_roll_left : BoolSource
  trim_roll_right : BoolSource
  trim_reset : BoolSource
  gait_tune_toggle : BoolSource
  gait_tune_next : BoolSource
  gait_tune_prev : BoolSource
  gait_tune_increase : BoolSource
  gait_tune_decrease : BoolSource
  gait_tune_save : BoolSource
  tricks : Vector TrickBinding kMaxTrickBindings

/-- `defaultBindings`. -/
def defaultBindings {F : Type} [FloatArith F] : BindingConfig F where
  walk_forward := ⟨.gimbalLY, false, lit 0⟩
  walk_strafe := ⟨.gimbalLX, true, lit 0⟩
  walk_yaw := ⟨.gimbalRX, true, lit 0⟩
  body_x := ⟨.gimbalRY, false, lit 0⟩
  body_y := ⟨.gimbalRX, false, lit 0⟩
  body_z := ⟨.none, false, lit 0⟩
  body_roll := ⟨.gimbalRX, false, lit 0⟩
  body_pitch := ⟨.gimbalRY, false, lit 0⟩
  body_yaw := ⟨.none, false, lit 0⟩
  speed := ⟨.pot1, false, lit 0⟩
  body_height := ⟨.pot2, false, lit 0⟩
  stride := ⟨.none, false, lit 0⟩
  step_height := ⟨.none, false, lit 0⟩
  duty := ⟨.none, false, lit 0⟩
  gait_select := .swE
  mode_select := .swF
  arm := .swA
  estop := .swB
  feat_foot_contact := .swC
  feat_terrain_leveling := .swD
  feat_passive_pose := .none
  host_authority := .swH
  trim_pitch_up := .nav1Up
  trim_pitch_down := .nav1Down
  trim_roll_left := .nav1Left
  trim_roll_right := .nav1Right
  trim_reset := .nav1Center
  gait_tune_toggle := .swG
  gait_tune_next := .nav1Up
  gait_tune_prev := .nav1Down
  gait_tune_increase := .nav1Right
  gait_tune_decrease := .nav1Left
  gait_tune_save := .nav1Center
  tricks := #v[⟨.btn1, .standUp⟩, ⟨.btn2, .sitDown⟩, ⟨.btn3, .wave⟩, {}, ⟨.nav2Up, .twirl⟩,
    ⟨.nav2Down, .stretch⟩, ⟨.nav2Left, .jumpKick⟩, ⟨.nav2Right, .spiderAttack⟩,
    ⟨.nav2Center, .danceLoop⟩]

end HexapodVerified.Input
