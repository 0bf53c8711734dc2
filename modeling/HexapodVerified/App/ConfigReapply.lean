import HexapodVerified.App.SensorService
import HexapodVerified.Config.ConfigApi
import HexapodVerified.Protocol.MotionApi

/-!
# Applying the active configuration

When the revision of the active configuration has moved, `i2cTask` of `app/tasks.cpp` seeds the contact
estimator, the motion defaults and the desired features from it again. The thresholds, the baselines and
the features also have runtime values, which the commands of `apiTask` set; `controlTask` publishes
which features are available.
-/

namespace HexapodVerified.App

open HexapodVerified.Config HexapodVerified.Protocol HexapodVerified.Sensors Transition

structure ReapplyTasks (F : Type) [FloatArith F] extends ContactTasks where
  g_configApi : ConfigApi := .construct
  g_motionApi : MotionApi F := {}
  applied_cfg_rev : UInt32 := 0xFFFFFFFF

inductive ReapplyStep where
  /-- A command of the group of `FeatureApi`. -/
  | feature (msg_id : UInt8) (req : List UInt8) (out_cap : Nat)
  /-- A command of the group of `SensorApi`. -/
  | sensor (msg_id : UInt8) (req : List UInt8) (out_cap : Nat)
  /-- A command of the group of `MotionApi`. -/
  | motion (msg_id : UInt8) (req : List UInt8) (out_cap : Nat)
  /-- A call of `ConfigApi`, with the answers of the store. -/
  | config (call : ConfigCall) (persist : Persistence)
  /-- `controlTask` publishes the availability of the features. -/
  | updateFeatureFlags (mux any_foot : Bool) (safetyState : UInt8)
  /-- The block of `i2cTask` that applies a changed configuration. -/
  | reapply
  /-- The block that applies the staged thresholds. -/
  | applyThresholds
  /-- The block that captures the baselines. -/
  | calibrate
  /-- The rest of the loop of `i2cTask`: the sensors are read and their status is published. -/
  | poll (est : ContactEstimator) (topo : Option TopologySnapshot)
      (status : Option SensorStatusSnapshot) (readings : StatusReadings)

/-- `updateFeatureFlags`; `mux` and `any_foot` are what the sensor task has published. -/
def updateFeatureFlags (features : FeatureApi) (mux any_foot : Bool) (safetyState : UInt8) :
    FeatureApi :=
  let features :=
    features.setAvailability .sensorPolling mux (if mux then .none else .hardwareMissing)
  let polling := features.effectiveEnabled .sensorPolling
  let features :=
    if !mux || !any_foot then features.setAvailability .footContact false .hardwareMissing
    else if !polling then features.setAvailability .footContact false .dependencyOff
    else features.setAvailability .footContact true .none
  let contact_on := features.effectiveEnabled .footContact
  let features :=
    features.setAvailability .terrainLeveling false
      (if contact_on then .notImplemented else .dependencyOff)
  let features := features.setAvailability .passivePose true .none
  let features := features.setAvailability .jetsonControl true .none
  features.setLiveState safetyState

namespace ReapplyTasks

variable {F : Type} [FloatArith F]

def seedMotion (api : MotionApi F) (gait : GaitDefaults) : MotionApi F :=
  api.setDefaults gait.gait gait.body_height_mm gait.stride_len_mm gait.step_height_mm
    gait.duty_x255 gait.speed_x255

/-- The revision of the active configuration has moved since it was applied. -/
def stale (s : ReapplyTasks F) : Bool := s.g_configApi.shadow_rev != s.applied_cfg_rev

def applyConfig (s : ReapplyTasks F) : ReapplyTasks F :=
  if s.stale then
    let cfg := s.g_configApi.shadow
    { s with
      g_contact := s.g_contact.configure cfg.feet {}
      g_motionApi := seedMotion s.g_motionApi cfg.gait
      g_featureApi := s.g_featureApi.applyDefaults cfg.feature_defaults
      applied_cfg_rev := s.g_configApi.shadow_rev }
  else s

def step (s : ReapplyTasks F) : ReapplyStep → ReapplyTasks F
  | .feature msg_id req out_cap =>
    { s with g_featureApi := (s.g_featureApi.handle msg_id req out_cap).1 }
  | .sensor msg_id req out_cap => { s with toContactTasks := (s.command msg_id req out_cap).1 }
  | .motion msg_id req out_cap =>
    { s with g_motionApi := (s.g_motionApi.handle msg_id req out_cap).1 }
  | .config call persist => { s with g_configApi := (s.g_configApi.call (call, persist)).1 }
  | .updateFeatureFlags mux any_foot safetyState =>
    { s with g_featureApi := App.updateFeatureFlags s.g_featureApi mux any_foot safetyState }
  | .reapply => s.applyConfig
  | .applyThresholds => { s with toContactTasks := s.applyThresholds }
  | .calibrate => { s with toContactTasks := s.calibrate }
  | .poll est topo status readings =>
    { s with
      g_contact := est
      g_sensorApi := { s.g_sensorApi with topo, status, readings } }

/-- At the start the estimator and the motion defaults are seeded with the compiled defaults. -/
def start : ReapplyTasks F :=
  { toContactTasks := .start ConfigApi.construct.shadow
    g_motionApi := seedMotion {} ConfigApi.construct.shadow.gait }

end ReapplyTasks

abbrev ReapplyEvent (F : Type) [FloatArith F] : Type := Event (ReapplyTasks F) ReapplyStep

/-- From the start, the steps recorded in `h` lead to `s`. -/
abbrev ReapplyRun {F : Type} [FloatArith F] : List (ReapplyEvent F) → ReapplyTasks F → Prop :=
  Run (Deterministic ReapplyTasks.step) ReapplyTasks.start

end HexapodVerified.App
