import HexapodVerified.Protocol.SensorApi
import HexapodVerified.Sensors.ContactEstimator

/-!
# The services of the sensor task

`i2cTask` of `app/tasks.cpp` owns the contact estimator and serves what `apiTask` stages for it: captures
of baselines, thresholds, and the configuration in force. Each service is modelled with what it reads and
writes of the estimator.
-/

namespace HexapodVerified.App

open HexapodVerified.Config HexapodVerified.Protocol HexapodVerified.Sensors Transition

def inMask (mask : UInt8) (i : Fin kNumFeet) : Bool :=
  mask &&& ((1 : UInt8) <<< UInt8.ofNat i.val) != 0

/-- The body of the loop that captures the baselines. -/
def calibrateFoot (m : ContactEstimator) (i : Fin kNumFeet) : ContactEstimator :=
  ((m.captureBaseline i.val).setEnabled i.val true).1

/-- The body of the loop that applies the table of thresholds. -/
def applyRow (t : ContactThresholds) (m : ContactEstimator) (i : Fin kNumFeet) : ContactEstimator :=
  m.setThresholds i.val (t.near_thresh.get i) (t.touch_thresh.get i) (t.load_thresh.get i)

/-! ## The captures of baselines

Each time round its loop `i2cTask` compares the sequence number of the requests with the one it applied
last, and captures the baselines of the feet in the staged mask when they differ. Number and mask are read
one after the other, and a request can be handled in between. -/

structure CalibrationTasks where
  g_sensorApi : SensorCalibrate := {}
  g_contact : ContactEstimator := {}
  applied_calibrate_seq : UInt32 := 0
  /-- `want_cal`, between the two reads of the service. -/
  want_cal : Option UInt32 := none
  deriving DecidableEq, Repr

inductive CalibrationStep where
  /-- A command with that message and request. -/
  | command (msg_id : UInt8) (req : List UInt8)
  /-- The service reads the sequence number. -/
  | check
  /-- The service reads the mask, when it has to, and captures the baselines. -/
  | serve
  /-- The rest of the loop of `i2cTask`: the sensors are read and their status is published. -/
  | poll (est : ContactEstimator) (status : Option SensorStatusSnapshot)
  deriving DecidableEq, Repr

namespace CalibrationTasks

/-- The feet of which a service that found the number `want` captures the baselines. -/
def captured (s : CalibrationTasks) (want : UInt32) : List (Fin kNumFeet) :=
  if want ≠ s.applied_calibrate_seq then
    (List.finRange kNumFeet).filter (inMask s.g_sensorApi.calibrate_mask)
  else []

def step (s : CalibrationTasks) : CalibrationStep → Option CalibrationTasks
  | .command msg_id req =>
    (s.g_sensorApi.handle msg_id req).map fun reply => { s with g_sensorApi := reply.1 }
  | .check =>
    match s.want_cal with
    | none => some { s with want_cal := some s.g_sensorApi.calibrate_seq }
    | some _ => none
  | .serve =>
    match s.want_cal with
    | none => none
    | some want =>
      some { s with
        g_contact := (s.captured want).foldl calibrateFoot s.g_contact
        applied_calibrate_seq := want
        want_cal := none }
  | .poll est status =>
    match s.want_cal with
    | none => some { s with g_contact := est, g_sensorApi.status := status }
    | some _ => none

end CalibrationTasks

abbrev CalibrationEvent := Event CalibrationTasks CalibrationStep

/-- From the start, the steps recorded in `h` lead to `s`. -/
abbrev CalibrationRun : List CalibrationEvent → CalibrationTasks → Prop :=
  Run (Guarded CalibrationTasks.step) {}

/-! ## The blocks of the task

`i2cTask` applies to the estimator what the commands of `SensorApi` have staged: the table of thresholds
when its sequence number has changed, and the captures of baselines, which enable the feet too. It also
feeds the estimator with samples and lets it look for silent feet. -/

structure ContactTasks where
  g_sensorApi : SensorGroup := {}
  g_featureApi : FeatureApi := {}
  g_contact : ContactEstimator
  applied_threshold_seq : UInt32 := 0
  applied_calibrate_seq : UInt32 := 0
  deriving DecidableEq, Repr

inductive ContactStep where
  /-- A command of the group of `SensorApi`. -/
  | command (msg_id : UInt8) (req : List UInt8) (out_cap : Nat)
  /-- The block of `i2cTask` that applies the staged thresholds. -/
  | applyThresholds
  /-- The block that captures the baselines. -/
  | calibrate
  /-- A foot was read. -/
  | update (leg : Nat) (sample : FootSample) (now_ms : UInt32)
  /-- The feet are checked for silence. -/
  | tickStaleness (now_ms : UInt32)
  /-- The state of the sensors is published. -/
  | publish (status : Option SensorStatusSnapshot) (readings : StatusReadings)
  deriving DecidableEq, Repr

namespace ContactTasks

def applyThresholds (s : ContactTasks) : ContactTasks :=
  if s.g_sensorApi.threshold_seq ≠ s.applied_threshold_seq then
    { s with
      g_contact :=
        (List.finRange kNumFeet).foldl (applyRow s.g_sensorApi.thresholds) s.g_contact
      applied_threshold_seq := s.g_sensorApi.threshold_seq }
  else s

def calibrate (s : ContactTasks) : ContactTasks :=
  if s.g_sensorApi.calibrate_seq ≠ s.applied_calibrate_seq then
    { s with
      g_contact :=
        ((List.finRange kNumFeet).filter (inMask s.g_sensorApi.calibrate_mask)).foldl calibrateFoot
          s.g_contact
      applied_calibrate_seq := s.g_sensorApi.calibrate_seq }
  else s

/-- A command of the group of `SensorApi`, which is wired to the feature store. -/
def command (s : ContactTasks) (msg_id : UInt8) (req : List UInt8) (out_cap : Nat) :
    ContactTasks × Option SensorReply :=
  let (sensor, features, reply) := s.g_sensorApi.handle (some s.g_featureApi) msg_id req out_cap
  ({ s with g_sensorApi := sensor, g_featureApi := features.getD s.g_featureApi }, reply)

def step (s : ContactTasks) : ContactStep → ContactTasks
  | .command msg_id req out_cap => (s.command msg_id req out_cap).1
  | .applyThresholds => s.applyThresholds
  | .calibrate => s.calibrate
  | .update leg sample now_ms => { s with g_contact := s.g_contact.update leg sample now_ms }
  | .tickStaleness now_ms => { s with g_contact := s.g_contact.tickStaleness now_ms }
  | .publish status readings => { s with g_sensorApi := { s.g_sensorApi with status, readings } }

def start (cfg : RobotConfig) : ContactTasks :=
  { g_contact := ContactEstimator.configure {} cfg.feet {} }

end ContactTasks

abbrev ContactTaskEvent := Event ContactTasks ContactStep

/-- From the start with that configuration, the steps recorded in `h` lead to `s`. -/
abbrev ContactTaskRun (cfg : RobotConfig) : List ContactTaskEvent → ContactTasks → Prop :=
  Run (Deterministic ContactTasks.step) (ContactTasks.start cfg)

/-! ## The configuration in force

Each time round its loop `i2cTask` configures all feet again when the revision of the configuration has
changed, before the block of the thresholds. `apiTask` replaces the configuration and stages thresholds. -/

structure SensorTasks extends ContactTasks where
  /-- `g_configApi.config()` and `g_configApi.revision()`. -/
  config : RobotConfig
  revision : UInt32
  applied_cfg_rev : UInt32 := 0xFFFFFFFF
  deriving DecidableEq, Repr

inductive SensorStep where
  /-- A CONTACT_SET_THRESHOLDS request. -/
  | setThresholds (req : List UInt8)
  /-- The active configuration is replaced, which advances the revision. -/
  | replaceConfig (cfg : RobotConfig)
  /-- The two blocks of the loop of `i2cTask`. -/
  | service
  deriving DecidableEq, Repr

namespace SensorTasks

/-- The first block: the active configuration is applied again when its revision has changed. -/
def applyConfig (s : SensorTasks) : SensorTasks :=
  if s.revision ≠ s.applied_cfg_rev then
    { s with
      g_contact := s.g_contact.configure s.config.feet {}
      applied_cfg_rev := s.revision }
  else s

def step (s : SensorTasks) : SensorStep → SensorTasks
  | .setThresholds req =>
    { s with
      g_sensorApi.toSensorApi := (s.g_sensorApi.handleContactSetThresholds req).1 }
  | .replaceConfig cfg => { s with config := cfg, revision := s.revision + 1 }
  | .service =>
    let s := s.applyConfig
    { s with toContactTasks := s.applyThresholds }

def start (config : RobotConfig) (revision : UInt32) : SensorTasks :=
  { toContactTasks := ContactTasks.start config, config, revision }

end SensorTasks

abbrev SensorEvent := Event SensorTasks SensorStep

/-- From the start with that configuration, the steps recorded in `h` lead to `s`. -/
abbrev SensorRun (config : RobotConfig) (revision : UInt32) :
    List SensorEvent → SensorTasks → Prop :=
  Run (Deterministic SensorTasks.step) (SensorTasks.start config revision)

end HexapodVerified.App
