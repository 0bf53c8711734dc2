import HexapodVerified.Protocol.FeatureApi

/-!
# The sensor commands

`protocol/sensor_api.cpp`: the command that stages the contact thresholds of one foot, and the commands
that ask for a new pressure baseline. What is staged and its sequence number are read by the task that
owns the contact estimator.
-/

namespace HexapodVerified.Protocol

open Bytes

namespace Sensormsg

abbrev kContactSetThresholds : UInt8 := 0x72
abbrev kContactCalibrate : UInt8 := 0x7A
abbrev kSensorCalibrate : UInt8 := 0x7B

end Sensormsg

abbrev kSensorNumFeet : Nat := 6

inductive SensorResult where
  | ok | rejected | badRequest
  deriving DecidableEq, Repr

def SensorResult.wire : SensorResult → UInt8
  | .ok => 0
  | .rejected => 1
  | .badRequest => 2

structure ContactThresholds where
  near_thresh : Vector UInt16 kSensorNumFeet := .replicate _ 0
  touch_thresh : Vector UInt16 kSensorNumFeet := .replicate _ 0
  load_thresh : Vector UInt16 kSensorNumFeet := .replicate _ 0
  deriving DecidableEq, Repr

/-- The part of `SensorApi` that the thresholds live in; the defaults are those of `reset`. -/
structure SensorApi where
  thresholds : ContactThresholds := {}
  threshold_seq : UInt32 := 0
  deriving DecidableEq, Repr

structure SensorReply where
  out : List UInt8
  out_flags : UInt8 := 0
  deriving DecidableEq, Repr

namespace SensorApi

/-- `case kContactSetThresholds` of `handle`. -/
def handleContactSetThresholds (api : SensorApi) (req : List UInt8) : SensorApi × SensorReply :=
  if req.length < 7 then (api, { out := [SensorResult.badRequest.wire], out_flags := 0x02 })
  else
    let foot := req.getD 0 0
    if foot.toNat ≥ kSensorNumFeet then
      (api, { out := [SensorResult.badRequest.wire], out_flags := 0x02 })
    else
      let near_t := getU16 (req.drop 1)
      let touch_t := getU16 (req.drop 3)
      let load_t := getU16 (req.drop 5)
      ({ api with
          thresholds :=
            { near_thresh := api.thresholds.near_thresh.setIfInBounds foot.toNat near_t
              touch_thresh := api.thresholds.touch_thresh.setIfInBounds foot.toNat touch_t
              load_thresh := api.thresholds.load_thresh.setIfInBounds foot.toNat load_t }
          threshold_seq := api.threshold_seq + 1 },
        { out := SensorResult.ok.wire :: foot ::
            (putU16 near_t ++ (putU16 touch_t ++ putU16 load_t)) })

end SensorApi

/-- The part of the published sensor status that the calibration commands read. -/
structure SensorStatusSnapshot where
  valid : Bool := false
  present_mask : UInt8 := 0
  deriving DecidableEq, Repr

/-- The part of `SensorApi` that a calibration request lives in; the defaults are those of `reset`. -/
structure SensorCalibrate where
  status : Option SensorStatusSnapshot := none
  calibrate_mask : UInt8 := 0
  calibrate_seq : UInt32 := 0
  deriving DecidableEq, Repr

namespace SensorCalibrate

def noneSensed (api : SensorCalibrate) (mask : UInt8) : Bool :=
  match api.status with
  | some status => status.valid && status.present_mask &&& mask == 0
  | none => false

def stageCalibrate (api : SensorCalibrate) (mask : UInt8) : SensorCalibrate × SensorReply :=
  if api.noneSensed mask then
    (api, { out := [SensorResult.rejected.wire, mask], out_flags := 0x02 })
  else
    ({ api with calibrate_mask := mask, calibrate_seq := api.calibrate_seq + 1 },
      { out := [SensorResult.ok.wire, mask] })

def allFeet : UInt8 := ((1 : UInt8) <<< UInt8.ofNat kSensorNumFeet) - 1

/-- The two calibration cases of `handle`; `none` for any other message. -/
def handle (api : SensorCalibrate) (msg_id : UInt8) (req : List UInt8) :
    Option (SensorCalibrate × SensorReply) :=
  if msg_id = Sensormsg.kContactCalibrate then
    if req.length < 1 then some (api, { out := [SensorResult.badRequest.wire], out_flags := 0x02 })
    else
      let foot := req.getD 0 0
      if foot = 0xFF then some (api.stageCalibrate allFeet)
      else if foot.toNat < kSensorNumFeet then some (api.stageCalibrate ((1 : UInt8) <<< foot))
      else some (api, { out := [SensorResult.badRequest.wire], out_flags := 0x02 })
  else if msg_id = Sensormsg.kSensorCalibrate then some (api.stageCalibrate allFeet)
  else none

end SensorCalibrate

/-!
## The sensor commands

`protocol/sensor_api.cpp`: contact and leveling, the query of the published snapshots, and the requests
that the sensor task serves. Thresholds and calibration have their own part of the state; enabling and
disabling goes to the feature store.
-/

namespace Sensormsg

abbrev kContactEnable : UInt8 := 0x70
abbrev kContactDisable : UInt8 := 0x71
abbrev kLevelingEnable : UInt8 := 0x73
abbrev kLevelingDisable : UInt8 := 0x74
abbrev kLevelingSetParams : UInt8 := 0x75
abbrev kI2cScan : UInt8 := 0x76
abbrev kI2cGetTopology : UInt8 := 0x77
abbrev kSensorGetStatus : UInt8 := 0x78
abbrev kSensorSetRate : UInt8 := 0x79
abbrev kFirst : UInt8 := 0x70
abbrev kLast : UInt8 := 0x7F

def isSensorMsg (id : UInt8) : Bool := id ≥ kFirst && id ≤ kLast

end Sensormsg

abbrev kSensorNumChannels : Nat := 8

structure LevelingParams where
  max_tilt_mdeg : UInt16 := 0
  rate_mdeg_s : UInt16 := 0
  response_x255 : UInt16 := 0
  deriving DecidableEq, Repr

/-- `TopologySnapshot::Channel`. -/
structure TopologyChannel where
  scanned : UInt8 := 0
  vcnl_present : UInt8 := 0
  lps_present : UInt8 := 0
  device_count : UInt8 := 0
  state : UInt8 := 0
  deriving DecidableEq, Repr

structure TopologySnapshot where
  valid : Bool := false
  mux_present : UInt8 := 0
  eeprom_present : UInt8 := 0
  oled_present : UInt8 := 0
  channels : Vector TopologyChannel kSensorNumChannels := .replicate _ {}
  deriving DecidableEq, Repr

/-- `StatusSnapshot::Foot`. -/
structure StatusFoot where
  state : UInt8 := 0
  confidence : UInt8 := 0
  proximity : UInt16 := 0
  pressure_delta : Int16 := 0
  flags : UInt8 := 0
  deriving DecidableEq, Repr

/-- The part of the published sensor status that only the query reads. -/
structure StatusReadings where
  polling_enabled : UInt8 := 0
  feet : Vector StatusFoot kSensorNumFeet := .replicate _ {}
  deriving DecidableEq, Repr

/-- The whole of `SensorApi`; the defaults are those of `reset`. -/
structure SensorGroup extends SensorApi, SensorCalibrate where
  topo : Option TopologySnapshot := none
  readings : StatusReadings := {}
  leveling : LevelingParams := {}
  leveling_seq : UInt32 := 0
  scan_seq : UInt32 := 0
  rate_hz : UInt16 := 0
  rate_seq : UInt32 := 0
  deriving DecidableEq, Repr

def mapResult : FeatureResult → SensorResult
  | .ok => .ok
  | .rejected => .rejected
  | .badRequest => .badRequest

/-- `applyFeature`, with the feature store it was given. -/
def applyFeature (features : Option FeatureApi) (f : Feature) (enable : Bool) (out_cap : Nat) :
    Option FeatureApi × SensorReply :=
  match features with
  | none => (none, { out := [SensorResult.rejected.wire], out_flags := 0x02 })
  | some api =>
    if out_cap < 5 then (some api, { out := [SensorResult.rejected.wire], out_flags := 0x02 })
    else
      let (api, r) := api.applyDesired f enable
      (some api,
        { out := [(mapResult r.result).wire, api.live_state, FeatureApi.flag r.available,
            FeatureApi.flag r.enabled, r.reason.wire]
          out_flags := if r.result = .ok then 0 else 0x02 })

/-- The bytes of a channel. -/
def channelBytes (c : TopologyChannel) : List UInt8 :=
  [c.scanned, c.vcnl_present, c.lps_present, c.device_count, c.state]

/-- The bytes of a foot. -/
def statusFootBytes (f : StatusFoot) : List UInt8 :=
  f.state :: f.confidence ::
    (putU16 f.proximity ++ (putU16 f.pressure_delta.toUInt16 ++ [f.flags]))

/-- Only what has been published is told; otherwise everything is absent. -/
def shownTopology (topo : Option TopologySnapshot) : TopologySnapshot :=
  match topo with
  | some topo => if topo.valid then topo else {}
  | none => {}

namespace SensorGroup

def encodeTopology (api : SensorGroup) (out_cap : Nat) : SensorReply :=
  if out_cap < 4 + kSensorNumChannels * 5 then { out := [SensorResult.rejected.wire] }
  else
    let topo := shownTopology api.topo
    { out := [topo.mux_present, topo.eeprom_present, UInt8.ofNat kSensorNumChannels] ++
        ((List.finRange kSensorNumChannels).flatMap (fun i => channelBytes (topo.channels.get i)) ++
          [topo.oled_present]) }

def published (api : SensorGroup) : Option SensorStatusSnapshot := api.status.filter (·.valid)

def encodeStatus (api : SensorGroup) (out_cap : Nat) : SensorReply :=
  if out_cap < 3 + kSensorNumFeet * 7 then { out := [SensorResult.rejected.wire] }
  else
    match api.published with
    | some status =>
      { out := [UInt8.ofNat kSensorNumFeet, status.present_mask, api.readings.polling_enabled] ++
          (List.finRange kSensorNumFeet).flatMap fun i => statusFootBytes (api.readings.feet.get i) }
    | none =>
      { out := [UInt8.ofNat kSensorNumFeet, 0, 0] ++
          (List.finRange kSensorNumFeet).flatMap fun _ => statusFootBytes {} }

/-- `case kLevelingSetParams`. -/
def handleLevelingSetParams (api : SensorGroup) (req : List UInt8) : SensorGroup × SensorReply :=
  if req.length < 6 then (api, { out := [SensorResult.badRequest.wire], out_flags := 0x02 })
  else
    let leveling : LevelingParams :=
      { max_tilt_mdeg := getU16 req
        rate_mdeg_s := getU16 (req.drop 2)
        response_x255 := getU16 (req.drop 4) }
    ({ api with leveling, leveling_seq := api.leveling_seq + 1 },
      { out := SensorResult.ok.wire :: (putU16 leveling.max_tilt_mdeg ++
          (putU16 leveling.rate_mdeg_s ++ putU16 leveling.response_x255)) })

/-- `case kI2cScan`. -/
def handleI2cScan (api : SensorGroup) : SensorGroup × SensorReply :=
  ({ api with scan_seq := api.scan_seq + 1 },
    { out := SensorResult.ok.wire :: putU16 (api.scan_seq + 1).toUInt16 })

/-- `case kSensorSetRate`. -/
def handleSensorSetRate (api : SensorGroup) (req : List UInt8) : SensorGroup × SensorReply :=
  if req.length < 2 then (api, { out := [SensorResult.badRequest.wire], out_flags := 0x02 })
  else
    let rate := getU16 req
    if rate == 0 || rate > 1000 then
      (api, { out := [SensorResult.badRequest.wire], out_flags := 0x02 })
    else
      ({ api with rate_hz := rate, rate_seq := api.rate_seq + 1 },
        { out := SensorResult.ok.wire :: putU16 rate })

def enabling (msg_id : UInt8) : Option (Feature × Bool) :=
  if msg_id = Sensormsg.kContactEnable then some (.footContact, true)
  else if msg_id = Sensormsg.kContactDisable then some (.footContact, false)
  else if msg_id = Sensormsg.kLevelingEnable then some (.terrainLeveling, true)
  else if msg_id = Sensormsg.kLevelingDisable then some (.terrainLeveling, false)
  else none

/-- The commands that leave the feature store alone. -/
def handleOwn (api : SensorGroup) (msg_id : UInt8) (req : List UInt8) (out_cap : Nat) :
    SensorGroup × Option SensorReply :=
  if msg_id = Sensormsg.kContactSetThresholds then
    let (own, reply) := api.toSensorApi.handleContactSetThresholds req
    ({ api with toSensorApi := own }, some reply)
  else if msg_id = Sensormsg.kLevelingSetParams then (api.handleLevelingSetParams req).map id some
  else if msg_id = Sensormsg.kI2cScan then api.handleI2cScan.map id some
  else if msg_id = Sensormsg.kI2cGetTopology then (api, some (api.encodeTopology out_cap))
  else if msg_id = Sensormsg.kSensorGetStatus then (api, some (api.encodeStatus out_cap))
  else if msg_id = Sensormsg.kSensorSetRate then (api.handleSensorSetRate req).map id some
  else
    match api.toSensorCalibrate.handle msg_id req with
    | some (own, reply) => ({ api with toSensorCalibrate := own }, some reply)
    | none => (api, none)

/-- `handle`, with the feature store; no reply when it returns false. -/
def handle (api : SensorGroup) (features : Option FeatureApi) (msg_id : UInt8) (req : List UInt8)
    (out_cap : Nat) : SensorGroup × Option FeatureApi × Option SensorReply :=
  if !Sensormsg.isSensorMsg msg_id then (api, features, none)
  else
    match enabling msg_id with
    | some (f, enable) =>
      let (features, reply) := applyFeature features f enable out_cap
      (api, features, some reply)
    | none =>
      let (api, reply) := api.handleOwn msg_id req out_cap
      (api, features, reply)

end SensorGroup

end HexapodVerified.Protocol
