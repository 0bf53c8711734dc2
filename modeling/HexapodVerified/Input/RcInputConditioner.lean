import HexapodVerified.Config.ConfigSchema
import HexapodVerified.Input.ChannelPack
import HexapodVerified.Lib.FloatArith

/-!
# Conditioning of the controller inputs

`input/rc_input_conditioner.cpp`: the filter of each analog source, the response curves, and the debouncer
of the three-position switches.
-/

namespace HexapodVerified.Input

open HexapodVerified.Config FloatArith

variable {F : Type} [FloatExp F]

inductive InputFilterMode where
  | ema | median3Ema | noneDiagnostic
  deriving DecidableEq, Repr

structure ChannelState (F : Type) where
  output : F
  median : Vector F 3
  median_count : UInt8
  median_next : UInt8
  initialized : Bool

/-- `ChannelState{}`. -/
def ChannelState.default : ChannelState F where
  output := lit 0
  median := .replicate _ (lit 0)
  median_count := 0
  median_next := 0
  initialized := false

structure RcInputConditioner (F : Type) where
  calibration : RcInputCalibration
  channels : Vector (ChannelState F) kNumRcAnalogInputs
  mode : InputFilterMode

namespace RcInputConditioner

def default : RcInputConditioner F where
  calibration := {}
  channels := .replicate _ .default
  mode := .ema

variable (c : RcInputConditioner F)

def reset : RcInputConditioner F := { c with channels := .replicate _ .default }

def configure (calibration : RcInputCalibration) : RcInputConditioner F :=
  if validateRcInputCalibration calibration then { c with calibration }.reset else c

/-- The history of a channel starts over from its output. -/
def seedMedian (state : ChannelState F) : ChannelState F :=
  { state with
    median := .replicate _ state.output
    median_count := if state.initialized then 3 else 0
    median_next := 0 }

def setMode (mode : InputFilterMode) (diagnostic_mode_allowed : Bool) : Bool × RcInputConditioner F :=
  if mode == .noneDiagnostic && !diagnostic_mode_allowed then (false, c)
  else if mode == c.mode then (true, c)
  else (true, { c with mode, channels := c.channels.map seedMedian })

def find (source : UInt8) : Option RcChannelCalibration :=
  c.calibration.channels.toList.find? (·.source == source)

def isCentered (source : UInt8) : Bool := (c.find source).any fun ch => ch.type == rcCenteredAnalog

/-- A number of 255ths. -/
def x255 (v : UInt8) : F := ofUInt8 v * (lit 1 / lit 255)

def deadband (source : UInt8) : F :=
  match c.find source with
  | none => lit 0
  | some ch => x255 ch.deadband_x255

def expo (source : UInt8) : F :=
  match c.find source with
  | none => lit 0
  | some ch => x255 ch.expo_x255

def applyDeadband (value deadband : F) : F :=
  let deadband := clampf deadband (lit 0) (lit 0.999)
  let magnitude := fabs value
  if le magnitude deadband then lit 0
  else
    let scaled := (magnitude - deadband) / (lit 1 - deadband)
    if lt value (lit 0) then -scaled else scaled

def applyExpo (value expo : F) : F :=
  let expo := clampf expo (lit 0) (lit 1)
  (lit 1 - expo) * value + expo * value * value * value

def median3 (a b c : F) : F :=
  let (a, b) := if lt b a then (b, a) else (a, b)
  let (b, _) := if lt c b then (c, b) else (b, c)
  if lt b a then a else b

def medianInput (state : ChannelState F) (input : F) : F × ChannelState F :=
  let median := state.median.setIfInBounds state.median_next.toNat input
  (median3 (median.get 0) (median.get 1) (median.get 2),
    { state with
      median
      median_next := (state.median_next + 1) % 3
      median_count := if state.median_count < 3 then state.median_count + 1 else state.median_count })

def updateChannel (ch : RcChannelCalibration) (state : ChannelState F) (input : F) (dt_ms : UInt32) :
    F × ChannelState F :=
  let low : F := if ch.type == rcCenteredAnalog then lit (-1) else lit 0
  let input := clampf input low (lit 1)
  if !state.initialized then
    (input,
      { state with output := input, median := .replicate _ input, median_count := 3
                   initialized := true })
  else if ch.type == rcRelativeEncoder then (input, { state with output := input })
  else if c.mode == .noneDiagnostic then (input, { state with output := input })
  else
    let (filtered_input, state) :=
      if c.mode == .median3Ema then medianInput state input else (input, state)
    if ch.filter_tau_ms == 0 then (filtered_input, { state with output := filtered_input })
    else if dt_ms == 0 then (state.output, state)
    else
      let tau_ms : F := ofUInt16 ch.filter_tau_ms
      let alpha := lit 1 - FloatExp.expf (-(ofUInt32 dt_ms) / tau_ms)
      let output := state.output + (filtered_input - state.output) * clampf alpha (lit 0) (lit 1)
      (clampf output low (lit 1), { state with output })

def update (source : UInt8) (input : F) (dt_ms : UInt32) : F × RcInputConditioner F :=
  if source == 0 || source.toNat > kNumRcAnalogInputs then (lit 0, c)
  else
    match c.find source with
    | none => (lit 0, c)
    | some ch =>
      let index := source.toNat - 1
      let (out, state) := c.updateChannel ch (c.channels.getD index .default) input dt_ms
      (out, { c with channels := c.channels.setIfInBounds index state })

end RcInputConditioner

/-- `RcTriSwitchDebouncer`. -/
structure RcTriSwitchDebouncer where
  stable : UInt8 := 1
  candidate : UInt8 := 1
  candidate_since_ms : UInt32 := 0
  initialized : Bool := false
  deriving DecidableEq, Repr

namespace RcTriSwitchDebouncer

def reset (d : RcTriSwitchDebouncer) : RcTriSwitchDebouncer := { d with initialized := false }

/-- `update`; the result is the position that is then stable. -/
def update (d : RcTriSwitchDebouncer) (raw : UInt8) (now_ms : UInt32) (debounce_ms : UInt16) :
    RcTriSwitchDebouncer :=
  let raw := if raw > 2 then 1 else raw
  if !d.initialized then
    { stable := raw, candidate := raw, candidate_since_ms := now_ms, initialized := true }
  else
    let d := if raw != d.candidate then { d with candidate := raw, candidate_since_ms := now_ms } else d
    if d.candidate != d.stable && now_ms - d.candidate_since_ms ≥ debounce_ms.toUInt32 then
      { d with stable := d.candidate }
    else d

end RcTriSwitchDebouncer

end HexapodVerified.Input
