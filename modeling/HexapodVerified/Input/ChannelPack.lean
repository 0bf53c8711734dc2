import Mathlib.Algebra.GroupWithZero.Nat
import Mathlib.Data.Rat.Defs

/-!
# The channel map of the hand controller

The receiving side of `lib/ChannelPack/ChannelPack.h`: how the sixteen channels of a frame carry the
sticks, the knobs and the packed switches.
-/

namespace HexapodVerified.Input

abbrev CPACK_CRSF_MIN : Nat := 191
abbrev CPACK_CRSF_MID : Nat := 992
abbrev CPACK_CRSF_MAX : Nat := 1792
abbrev CPACK_SWITCH_FIELD_MAX : Nat := 31
abbrev CPACK_BTN_TOGGLE_FIELD_MAX : Nat := 143
abbrev CPACK_NAV_FIELD_MAX : Nat := 35
abbrev CPACK_ARM_POT_STEPS : Nat := 511
abbrev CPACK_ARM_POT_ON_BASE : Nat := 1536
abbrev CPACK_ARM_POT_CODE_MAX : Nat := 2047
abbrev CPACK_NUM_CHANNELS : Nat := 16

abbrev Channels := Vector UInt16 CPACK_NUM_CHANNELS

/-! The lengths of the tables here, for numerals as indices. -/

scoped instance neZero_channels : NeZero CPACK_NUM_CHANNELS := Nat.instNeZeroSucc
scoped instance neZero_two : NeZero 2 := Nat.instNeZeroSucc
scoped instance neZero_three : NeZero 3 := Nat.instNeZeroSucc
scoped instance neZero_four : NeZero 4 := Nat.instNeZeroSucc
scoped instance neZero_five : NeZero 5 := Nat.instNeZeroSucc
scoped instance neZero_eight : NeZero 8 := Nat.instNeZeroSucc

/-- `ChannelPackInputs_t`. -/
structure ChannelPackInputs where
  gimbal : Vector Int16 4 := .replicate _ 0
  pot : Vector Int16 2 := .replicate _ 0
  encoder : Vector Int32 2 := .replicate _ 0
  switches : Vector Bool 8 := .replicate _ false
  buttons : Vector Bool 4 := .replicate _ false
  toggles : Vector UInt8 2 := .replicate _ 0
  /-- Up, down, left, right, centre of each cluster. -/
  nav : Vector (Vector Bool 5) 2 := .replicate _ (.replicate _ false)
  deriving DecidableEq, Repr

namespace ChannelPack

abbrev span : Nat := CPACK_CRSF_MAX - CPACK_CRSF_MIN

def clampChannel (crsf_val : UInt16) : Nat := min (max crsf_val.toNat CPACK_CRSF_MIN) CPACK_CRSF_MAX

def crsfToDiscrete (crsf_val : UInt16) (field_max : Nat) : Nat :=
  ((clampChannel crsf_val - CPACK_CRSF_MIN) * field_max + span / 2) / span

/-- The difference to the low end, which is negative for a value below the range. -/
def aboveMin (crsf_val : UInt16) : Int := crsf_val.toNat - CPACK_CRSF_MIN

def crsfToGimbal (crsf_val : UInt16) : Int16 :=
  Int16.ofInt ((aboveMin crsf_val * 2000).tdiv span - 1000)

def crsfToPot (crsf_val : UInt16) : Int16 := Int16.ofInt ((aboveMin crsf_val * 1000).tdiv span)

/-- `crsfToArmPot`: the knob and the arm switch that share a channel. -/
def crsfToArmPot (crsf_val : UInt16) : Int16 × Bool :=
  let code := ((clampChannel crsf_val - CPACK_CRSF_MIN) * CPACK_ARM_POT_CODE_MAX + span / 2) / span
  let arm := code ≥ (CPACK_ARM_POT_CODE_MAX + 1) / 2
  let pot_code := if arm then code - CPACK_ARM_POT_ON_BASE else code
  let pot_code := min pot_code CPACK_ARM_POT_STEPS
  (Int16.ofNat ((pot_code * 1000 + CPACK_ARM_POT_STEPS / 2) / CPACK_ARM_POT_STEPS), arm)

def crsfToEncoder (crsf_val : UInt16) : Int32 := Int32.ofNat (crsf_val.toNat % 2048)

/-- `unpackAuxSwitches`, with the arm switch of the other channel. -/
def unpackSwitches (val : Nat) (arm : Bool) : Vector Bool 8 := .ofFn fun i =>
  if i.val == 0 then arm else if i.val < 6 then val.testBit (i.val - 1) else false

def unpackButtons (val : Nat) : Vector Bool 4 := .ofFn fun i =>
  (min val CPACK_BTN_TOGGLE_FIELD_MAX % 16).testBit i.val

def unpackToggles (val : Nat) : Vector UInt8 2 :=
  let toggle_state := min val CPACK_BTN_TOGGLE_FIELD_MAX / 16
  #v[UInt8.ofNat (toggle_state / 3), UInt8.ofNat (toggle_state % 3)]

def unpackNavStates (val : Nat) : Vector (Vector Bool 5) 2 :=
  let val := min val CPACK_NAV_FIELD_MAX
  let cluster (state : Nat) : Vector Bool 5 := .ofFn fun i => state == i.val + 1
  #v[cluster (val / 6), cluster (val % 6)]

def unpackChannels (ch : Channels) : ChannelPackInputs :=
  let arm_pot := crsfToArmPot (ch.get 4)
  let btn_toggle := crsfToDiscrete (ch.get 9) CPACK_BTN_TOGGLE_FIELD_MAX
  { gimbal := #v[crsfToGimbal (ch.get 0), crsfToGimbal (ch.get 1), crsfToGimbal (ch.get 2),
      crsfToGimbal (ch.get 3)]
    pot := #v[arm_pot.1, crsfToPot (ch.get 5)]
    encoder := #v[crsfToEncoder (ch.get 6), crsfToEncoder (ch.get 7)]
    switches := unpackSwitches (crsfToDiscrete (ch.get 8) CPACK_SWITCH_FIELD_MAX) arm_pot.2
    buttons := unpackButtons btn_toggle
    toggles := unpackToggles btn_toggle
    nav := unpackNavStates (crsfToDiscrete (ch.get 10) CPACK_NAV_FIELD_MAX) }

end ChannelPack

end HexapodVerified.Input
