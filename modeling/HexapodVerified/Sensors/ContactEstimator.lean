import HexapodVerified.Config.ConfigSchema
import HexapodVerified.Lib.Runs
import HexapodVerified.Lib.BitFields

/-!
# The contact estimator

`sensors/contact_estimator.cpp`: the calibration of all feet, the thresholds of one foot at runtime, and the
state machine that tells from the samples of a foot whether it touches the ground. Each of the six feet has
its entry of `ctx_` and of `feet_`, which make up a `ContactFoot` here; the parameters are shared.

Arithmetic on pressures wraps around like that of 32-bit machine words. The thresholds are integers here:
for the default parameters, with which the firmware configures, the product that the release threshold is
made of stays inside 32 bits.
-/

namespace HexapodVerified.Sensors

open HexapodVerified.Config SignedArith Transition

abbrev kNumFeet : Nat := kNumFootSensors

structure ContactParams where
  touch_debounce : UInt8 := 2
  load_debounce : UInt8 := 2
  release_debounce : UInt8 := 2
  fault_limit : UInt8 := 5
  stale_timeout_ms : UInt32 := 200
  release_num : UInt16 := 1
  release_den : UInt16 := 2
  baseline_track : Int32 := 1
  deriving DecidableEq, Repr

structure FootCtx where
  near_thresh : Int := 0
  touch_thresh : Int := 0
  load_thresh : Int := 0
  release_thresh : Int := 0
  enabled : Bool := false
  touch_count : UInt8 := 0
  load_count : UInt8 := 0
  release_count : UInt8 := 0
  fault_count : UInt8 := 0
  last_ok_ms : UInt32 := 0
  seen : Bool := false
  deriving DecidableEq, Repr

inductive ContactState where
  | air | near | touch | loaded | release | stale | fault
  deriving DecidableEq, Repr

def ContactState.all : List ContactState := [.air, .near, .touch, .loaded, .release, .stale, .fault]

structure LegContactState where
  timestamp_ms : UInt32 := 0
  proximity_raw : UInt16 := 0
  pressure_raw : Int32 := 0
  pressure_baseline : Int32 := 0
  pressure_delta : Int32 := 0
  state : ContactState := .air
  confidence : UInt8 := 0
  near_surface : Bool := false
  touch : Bool := false
  loaded : Bool := false
  release : Bool := false
  stale : Bool := false
  fault : Bool := false
  deriving DecidableEq, Repr

def ContactParams.guarded (params : ContactParams) : ContactParams :=
  if params.release_den = 0 then { params with release_den := 1 } else params

def releaseThresh (params : ContactParams) (touch_thresh : UInt16) : Int :=
  Int.tdiv (touch_thresh.toNat * params.release_num.toNat) params.release_den.toNat

structure FootSample where
  proximity_raw : UInt16 := 0
  pressure_raw : Int32 := 0
  ok : Bool := false
  deriving DecidableEq, Repr

/-- What the estimator keeps of a foot: its entries of `ctx_` and `feet_`. -/
structure ContactFoot where
  ctx : FootCtx := {}
  state : LegContactState := {}
  deriving DecidableEq, Repr

def clampU8 (v : Int32) : UInt8 :=
  if v < 0 then 0
  else if v > 255 then 255
  else v.toUInt32.toUInt8

/-- One more, unless the counter is at its end. -/
def bump (count : UInt8) : UInt8 := if count < 255 then count + 1 else count

def countSample (c : FootCtx) (delta : Int32) (near : Bool) : FootCtx :=
  let release_count := if delta.toInt ≥ c.touch_thresh then 0 else c.release_count
  { c with
    touch_count := if delta.toInt ≥ c.touch_thresh then bump c.touch_count else 0
    load_count := if delta.toInt ≥ c.load_thresh then bump c.load_count else 0
    release_count := if delta.toInt ≤ c.release_thresh ∧ !near then bump release_count else 0 }

/-- The `switch` of `update`. -/
def nextState (params : ContactParams) (c : FootCtx) (near : Bool) (prev : ContactState) :
    ContactState :=
  match prev with
  | .air | .stale | .fault =>
    if c.load_count ≥ params.load_debounce then .loaded
    else if c.touch_count ≥ params.touch_debounce then .touch
    else if near then .near
    else .air
  | .near =>
    if c.load_count ≥ params.load_debounce then .loaded
    else if c.touch_count ≥ params.touch_debounce then .touch
    else if !near then .air
    else prev
  | .touch =>
    if c.load_count ≥ params.load_debounce then .loaded
    else if c.release_count ≥ params.release_debounce then .release
    else prev
  | .loaded => if c.release_count ≥ params.release_debounce then .release else prev
  | .release =>
    if c.load_count ≥ params.load_debounce then .loaded
    else if c.touch_count ≥ params.touch_debounce then .touch
    else if !near then .air
    else .near

/-- While the foot is unloaded its baseline follows the reading. -/
def trackBaseline (params : ContactParams) (next : ContactState) (pressure_raw baseline : Int32) :
    Int32 :=
  if (next = .air ∨ next = .near) ∧ params.baseline_track ≠ 0 then
    if pressure_raw > baseline then baseline + params.baseline_track
    else if pressure_raw < baseline then baseline - params.baseline_track
    else baseline
  else baseline

def confidenceFor (ctx : FootCtx) (st : LegContactState) (delta : Int32) : UInt8 :=
  match st.state with
  | .loaded =>
    if ctx.load_thresh ≤ 0 then 255
    else
      let load_thresh := Int32.ofInt ctx.load_thresh
      let margin := delta - load_thresh
      clampU8 (200 + margin * 55 / (load_thresh + 1))
  | .touch => 160
  | .near => 96
  | .release => 64
  | .air => 0
  | _ => 0

namespace ContactFoot

/-- The loop body of `configure`, which leaves the published state but for the baseline. -/
def configure (params : ContactParams) (cal : FootSensorCal) (foot : ContactFoot) : ContactFoot where
  ctx :=
    { enabled := cal.enabled != 0
      near_thresh := cal.near_thresh.toNat
      touch_thresh := cal.touch_thresh.toNat
      load_thresh := cal.load_thresh.toNat
      release_thresh := releaseThresh params cal.touch_thresh }
  state := { foot.state with pressure_baseline := cal.pressure_baseline }

def setThresholds (params : ContactParams) (near_thresh touch_thresh load_thresh : UInt16)
    (foot : ContactFoot) : ContactFoot :=
  { foot with
    ctx :=
      { foot.ctx with
        near_thresh := near_thresh.toNat
        touch_thresh := touch_thresh.toNat
        load_thresh := load_thresh.toNat
        release_thresh := releaseThresh params touch_thresh } }

def captureBaseline (foot : ContactFoot) : ContactFoot :=
  { foot with
    state :=
      { foot.state with
        pressure_baseline := foot.state.pressure_raw
        pressure_delta := 0 } }

/-- A foot without a usable pressure calibration is not enabled. -/
def setEnabled (enabled : Bool) (foot : ContactFoot) : ContactFoot × Bool :=
  let c := foot.ctx
  if enabled ∧ (c.touch_thresh ≤ 0 ∨ c.load_thresh ≤ 0 ∨ c.load_thresh < c.touch_thresh) then
    (foot, false)
  else ({ foot with ctx := { c with enabled := enabled } }, true)

/-- The loop body of `reset`. -/
def reset (foot : ContactFoot) : ContactFoot where
  ctx :=
    { foot.ctx with
      touch_count := 0, load_count := 0, release_count := 0, fault_count := 0
      last_ok_ms := 0, seen := false }
  state := { pressure_baseline := foot.state.pressure_baseline }

/-- A failed read; after `fault_limit` of them in a row the foot is at fault. -/
def failRead (params : ContactParams) (foot : ContactFoot) : ContactFoot :=
  let c := { foot.ctx with fault_count := bump foot.ctx.fault_count }
  if c.fault_count ≥ params.fault_limit then
    { ctx := c
      state :=
        { foot.state with
          state := .fault, fault := true
          near_surface := false, touch := false, loaded := false, release := false
          confidence := 0 } }
  else { foot with ctx := c }

def takeSample (sample : FootSample) (now_ms : UInt32) (foot : ContactFoot) : ContactFoot where
  ctx := { foot.ctx with fault_count := 0, last_ok_ms := now_ms, seen := true }
  state :=
    { foot.state with
      fault := false, timestamp_ms := now_ms, stale := false
      proximity_raw := sample.proximity_raw, pressure_raw := sample.pressure_raw }

/-- A disabled foot only mirrors the raw values. -/
def mirror (foot : ContactFoot) : ContactFoot :=
  { foot with
    state :=
      { foot.state with
        state := .air, pressure_delta := 0
        near_surface := false, touch := false, loaded := false, release := false
        confidence := 0 } }

def delta (foot : ContactFoot) (sample : FootSample) : Int32 :=
  sample.pressure_raw - foot.state.pressure_baseline

def near (foot : ContactFoot) (sample : FootSample) : Bool :=
  (sample.proximity_raw.toNat : Int) ≥ foot.ctx.near_thresh

/-- The rest of `update`, for an enabled foot. -/
def classify (params : ContactParams) (sample : FootSample) (foot : ContactFoot) : ContactFoot :=
  let delta := foot.delta sample
  let near := foot.near sample
  let c := countSample foot.ctx delta near
  let next := nextState params c near foot.state.state
  let st :=
    { foot.state with
      pressure_delta := delta, near_surface := near, state := next
      touch := next == ContactState.touch || next == ContactState.loaded
      loaded := next == ContactState.loaded, release := next == ContactState.release
      pressure_baseline :=
        trackBaseline params next sample.pressure_raw foot.state.pressure_baseline }
  { ctx := c, state := { st with confidence := confidenceFor c st delta } }

def update (params : ContactParams) (sample : FootSample) (now_ms : UInt32) (foot : ContactFoot) :
    ContactFoot :=
  if !sample.ok then foot.failRead params
  else
    let foot := foot.takeSample sample now_ms
    if !foot.ctx.enabled then foot.mirror else foot.classify params sample

/-- The last good sample of the foot is too old; a faulty foot is waiting for one anyway. -/
def timedOut (params : ContactParams) (now_ms : UInt32) (foot : ContactFoot) : Bool :=
  foot.state.state ≠ .fault ∧ foot.ctx.seen ∧
    now_ms - foot.ctx.last_ok_ms ≥ params.stale_timeout_ms

/-- The loop body of `tickStaleness`. -/
def tickStaleness (params : ContactParams) (now_ms : UInt32) (foot : ContactFoot) : ContactFoot :=
  if foot.timedOut params now_ms then
    { foot with
      state :=
        { foot.state with
          state := .stale, stale := true
          near_surface := false, touch := false, loaded := false, release := false
          confidence := 0 } }
  else foot

end ContactFoot

structure ContactEstimator where
  feet : Vector ContactFoot kNumFeet := .replicate _ {}
  params : ContactParams := {}
  deriving DecidableEq, Repr

inductive ContactCall where
  | configure (cal : Vector FootSensorCal kNumFeet) (params : ContactParams)
  | setThresholds (leg : Nat) (near_thresh touch_thresh load_thresh : UInt16)
  | captureBaseline (leg : Nat)
  | setEnabled (leg : Nat) (enabled : Bool)
  | reset
  | update (leg : Nat) (sample : FootSample) (now_ms : UInt32)
  | tickStaleness (now_ms : UInt32)
  deriving DecidableEq, Repr

namespace ContactEstimator

/-- One foot is replaced by what `f` makes of it. -/
def modify (m : ContactEstimator) (leg : Fin kNumFeet) (f : ContactFoot → ContactFoot) :
    ContactEstimator :=
  { m with feet := m.feet.set leg.val (f (m.feet.get leg)) leg.isLt }

def configure (m : ContactEstimator) (cal : Vector FootSensorCal kNumFeet) (params : ContactParams) :
    ContactEstimator where
  params := params.guarded
  feet := .ofFn fun i => (m.feet.get i).configure params.guarded (cal.get i)

def setThresholds (m : ContactEstimator) (leg : Nat) (near_thresh touch_thresh load_thresh : UInt16) :
    ContactEstimator :=
  if h : leg < kNumFeet then
    { m with params := m.params.guarded }.modify ⟨leg, h⟩
      (.setThresholds m.params.guarded near_thresh touch_thresh load_thresh)
  else m

def captureBaseline (m : ContactEstimator) (leg : Nat) : ContactEstimator :=
  if h : leg < kNumFeet then m.modify ⟨leg, h⟩ .captureBaseline else m

def setEnabled (m : ContactEstimator) (leg : Nat) (enabled : Bool) : ContactEstimator × Bool :=
  if h : leg < kNumFeet then
    (m.modify ⟨leg, h⟩ fun foot => (foot.setEnabled enabled).1,
      ((m.feet.get ⟨leg, h⟩).setEnabled enabled).2)
  else (m, false)

def reset (m : ContactEstimator) : ContactEstimator :=
  { m with feet := .ofFn fun i => (m.feet.get i).reset }

def update (m : ContactEstimator) (leg : Nat) (sample : FootSample) (now_ms : UInt32) :
    ContactEstimator :=
  if h : leg < kNumFeet then m.modify ⟨leg, h⟩ (.update m.params sample now_ms) else m

def tickStaleness (m : ContactEstimator) (now_ms : UInt32) : ContactEstimator :=
  { m with feet := .ofFn fun i => (m.feet.get i).tickStaleness m.params now_ms }

def call (m : ContactEstimator) : ContactCall → ContactEstimator
  | .configure cal params => m.configure cal params
  | .setThresholds leg near_thresh touch_thresh load_thresh =>
    m.setThresholds leg near_thresh touch_thresh load_thresh
  | .captureBaseline leg => m.captureBaseline leg
  | .setEnabled leg enabled => (m.setEnabled leg enabled).1
  | .reset => m.reset
  | .update leg sample now_ms => m.update leg sample now_ms
  | .tickStaleness now_ms => m.tickStaleness now_ms

end ContactEstimator

abbrev ContactEvent := Event ContactEstimator ContactCall

/-- From an estimator just constructed, the calls recorded in `h` lead to `m`. -/
abbrev ContactRun : List ContactEvent → ContactEstimator → Prop :=
  Run (Deterministic ContactEstimator.call) {}

/-! ### Arithmetic

The exact results of the signed 32-bit operations that `update` carries out on a sample, in their order:
the pressure delta, the step of the baseline, and those of `confidenceFor`. -/

def trackResults (params : ContactParams) (next : ContactState) (pressure_raw baseline : Int32) :
    List Int :=
  if (next = .air ∨ next = .near) ∧ params.baseline_track ≠ 0 then
    if pressure_raw > baseline then [baseline.toInt + params.baseline_track.toInt]
    else if pressure_raw < baseline then [baseline.toInt - params.baseline_track.toInt]
    else []
  else []

/-- The operations of `confidenceFor`. -/
def confidenceResults (ctx : FootCtx) (state : ContactState) (delta : Int32) : List Int :=
  match state with
  | .loaded =>
    if ctx.load_thresh ≤ 0 then []
    else
      let margin := delta.toInt - ctx.load_thresh
      [margin, margin * 55, ctx.load_thresh + 1, (margin * 55).tdiv (ctx.load_thresh + 1),
        200 + (margin * 55).tdiv (ctx.load_thresh + 1)]
  | _ => []

namespace ContactFoot

/-- The state in which a sample leaves an enabled foot. -/
def nextOf (params : ContactParams) (sample : FootSample) (foot : ContactFoot) : ContactState :=
  nextState params (countSample foot.ctx (foot.delta sample) (foot.near sample)) (foot.near sample)
    foot.state.state

/-- The operations of `update`; a failed read and a disabled foot need none. -/
def updateResults (params : ContactParams) (sample : FootSample) (foot : ContactFoot) : List Int :=
  if !sample.ok || !foot.ctx.enabled then []
  else
    let next := foot.nextOf params sample
    (sample.pressure_raw.toInt - foot.state.pressure_baseline.toInt) ::
      (trackResults params next sample.pressure_raw foot.state.pressure_baseline ++
        confidenceResults foot.ctx next (foot.delta sample))

end ContactFoot

/-- If the call is an update of the foot `i`, none of its operations overflows. -/
def NoOverflow (i : Fin kNumFeet) (m : ContactEstimator) : ContactCall → Prop
  | .update leg sample _ =>
    leg = i → ∀ x ∈ (m.feet.get i).updateResults m.params sample, FitsInt32 x
  | _ => True

/-- A raw pressure of the sensor has 24 bits with the sign. -/
def SensorRange (pressure_raw : Int32) : Prop :=
  -2 ^ 23 ≤ pressure_raw.toInt ∧ pressure_raw.toInt < 2 ^ 23

/-- The call is one that can occur while that configuration is in force, with samples of the sensor. -/
def CallOn (cfg : RobotConfig) : ContactCall → Prop
  | .configure cal params => cal = cfg.feet ∧ params = {}
  | .update _ sample _ => sample.ok = true → SensorRange sample.pressure_raw
  | _ => True

/-- From an estimator configured with those feet, the calls recorded in `h` lead to `m`. -/
abbrev PressureRun (cfg : RobotConfig) : List ContactEvent → ContactEstimator → Prop :=
  Run (fun m c m' => CallOn cfg c ∧ m' = m.call c) (ContactEstimator.configure {} cfg.feet {})

end HexapodVerified.Sensors
