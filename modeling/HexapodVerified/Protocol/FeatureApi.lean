import HexapodVerified.Protocol.ControlApi

/-!
# The feature commands

`protocol/feature_api.cpp`: which optional behaviours the host wants, and whether each is available. A
feature is effective when it is desired and available. The desired set comes from the commands and,
whenever a configuration becomes active, from its feature defaults.
-/

namespace HexapodVerified.Protocol

namespace Featuremsg

abbrev kGet : UInt8 := 0x39
abbrev kSet : UInt8 := 0x3A
abbrev kGetReasons : UInt8 := 0x3B
abbrev kResetDefaults : UInt8 := 0x3C
abbrev kFirst : UInt8 := kGet
abbrev kLast : UInt8 := kResetDefaults

def isFeatureMsg (id : UInt8) : Bool := id ≥ kFirst && id ≤ kLast

end Featuremsg

inductive Feature where
  | footContact | terrainLeveling | sensorPolling | jetsonControl | passivePose
  deriving DecidableEq, Repr

abbrev kFeatureCount : Nat := 5

def Feature.index : Feature → Fin kFeatureCount
  | .footContact => 0
  | .terrainLeveling => 1
  | .sensorPolling => 2
  | .jetsonControl => 3
  | .passivePose => 4

/-- `static_cast<Feature>` of a valid number. -/
def Feature.ofIndex (i : Fin kFeatureCount) : Feature :=
  #v[Feature.footContact, .terrainLeveling, .sensorPolling, .jetsonControl, .passivePose].get i

inductive FeatureReason where
  | none | hardwareMissing | notCalibrated | unsafeState | staleData | dependencyOff | notImplemented
  deriving DecidableEq, Repr

def FeatureReason.wire : FeatureReason → UInt8
  | .none => 0
  | .hardwareMissing => 1
  | .notCalibrated => 2
  | .unsafeState => 3
  | .staleData => 4
  | .dependencyOff => 5
  | .notImplemented => 6

inductive FeatureResult where
  | ok | rejected | badRequest
  deriving DecidableEq, Repr

def FeatureResult.wire : FeatureResult → UInt8
  | .ok => 0
  | .rejected => 1
  | .badRequest => 2

structure FeatureApplyResult where
  result : FeatureResult
  feature : UInt8
  available : Bool
  enabled : Bool
  reason : FeatureReason
  deriving DecidableEq, Repr

def kFeatureDefaultEnabled (i : Fin kFeatureCount) : Bool :=
  #v[false, false, true, false, false].get i

structure FeatureState where
  desired : Bool
  available : Bool := false
  reason : FeatureReason := .notImplemented
  deriving DecidableEq, Repr

/-- The defaults are those of `reset`. -/
structure FeatureApi where
  state : Vector FeatureState kFeatureCount :=
    .ofFn fun i => { desired := kFeatureDefaultEnabled i }
  live_state : UInt8 := 0
  seq : UInt32 := 0
  deriving DecidableEq, Repr

namespace FeatureApi

/-- The desired set is replaced; the sequence number moves when that changes it. -/
def setDesired (api : FeatureApi) (want : Fin kFeatureCount → Bool) : FeatureApi :=
  { api with
    state := .ofFn fun i => { api.state.get i with desired := want i }
    seq :=
      if (List.finRange kFeatureCount).any fun i => (api.state.get i).desired != want i then
        api.seq + 1
      else api.seq }

/-- Bit `i` of a mask. -/
def maskBit (mask : UInt32) (i : Fin kFeatureCount) : Bool :=
  (mask >>> UInt32.ofNat i.val) &&& 1 != 0

def applyDefaults (api : FeatureApi) (mask : UInt32) : FeatureApi := api.setDesired (maskBit mask)

def setAvailability (api : FeatureApi) (f : Feature) (available : Bool) (reason : FeatureReason) :
    FeatureApi :=
  { api with
    state := api.state.setIfInBounds f.index.val { api.state.get f.index with available, reason } }

def setLiveState (api : FeatureApi) (live_state : UInt8) : FeatureApi := { api with live_state }

def desiredEnabled (api : FeatureApi) (f : Feature) : Bool := (api.state.get f.index).desired

def effectiveEnabled (api : FeatureApi) (f : Feature) : Bool :=
  (api.state.get f.index).desired && (api.state.get f.index).available

/-- The desired setting of a feature, after a request that `applyDesired` accepts. -/
def accept (api : FeatureApi) (f : Feature) (enable : Bool) : FeatureApi :=
  { api with
    state := api.state.setIfInBounds f.index.val { api.state.get f.index with desired := enable }
    seq := if (api.state.get f.index).desired != enable then api.seq + 1 else api.seq }

/-- `applyDesired`: a feature that is not available is not enabled; every feature can be disabled. -/
def applyDesired (api : FeatureApi) (f : Feature) (enable : Bool) : FeatureApi × FeatureApplyResult :=
  let refused := enable && !(api.state.get f.index).available
  let api := if refused then api else api.accept f enable
  let s := api.state.get f.index
  (api,
    { result := if refused then .rejected else .ok
      feature := UInt8.ofNat f.index.val
      available := s.available
      enabled := s.desired && s.available
      reason := s.reason })

def flag (b : Bool) : UInt8 := if b then 1 else 0

def writeFullState (api : FeatureApi) : List UInt8 :=
  (List.finRange kFeatureCount).flatMap fun i =>
    let s := api.state.get i
    [UInt8.ofNat i.val, flag s.available, flag (s.desired && s.available), s.reason.wire]

def badRequest : Reply := { out := [FeatureResult.badRequest.wire], out_flags := 0x02 }

/-- `case kGet`. -/
def handleGet (api : FeatureApi) (out_cap : Nat) : Reply :=
  if out_cap < 2 + 4 * kFeatureCount then badRequest
  else { out := api.live_state :: UInt8.ofNat kFeatureCount :: api.writeFullState }

/-- `case kSet`. -/
def handleSet (api : FeatureApi) (req : List UInt8) : FeatureApi × Reply :=
  if req.length < 2 then (api, badRequest)
  else
    let fid := req.getD 0 0
    let enable := req.getD 1 0 != 0
    if hfid : fid.toNat < kFeatureCount then
      let (api, r) := api.applyDesired (.ofIndex ⟨fid.toNat, hfid⟩) enable
      (api, { out := [r.result.wire, api.live_state, r.feature, flag r.available, flag r.enabled,
        r.reason.wire] })
    else (api, badRequest)

/-- `case kGetReasons`. -/
def handleGetReasons (api : FeatureApi) (out_cap : Nat) : Reply :=
  if out_cap < 2 + 2 * kFeatureCount then badRequest
  else
    { out := api.live_state :: UInt8.ofNat kFeatureCount ::
        (List.finRange kFeatureCount).flatMap fun i =>
          [UInt8.ofNat i.val, (api.state.get i).reason.wire] }

/-- `case kResetDefaults`. -/
def handleResetDefaults (api : FeatureApi) (out_cap : Nat) : FeatureApi × Reply :=
  if out_cap < 3 + 4 * kFeatureCount then (api, badRequest)
  else
    let api := api.setDesired kFeatureDefaultEnabled
    (api, { out := FeatureResult.ok.wire :: api.live_state :: UInt8.ofNat kFeatureCount ::
      api.writeFullState })

/-- `handle`; no reply when it returns false. -/
def handle (api : FeatureApi) (msg_id : UInt8) (req : List UInt8) (out_cap : Nat) :
    FeatureApi × Option Reply :=
  if !Featuremsg.isFeatureMsg msg_id then (api, none)
  else if msg_id = Featuremsg.kGet then (api, some (api.handleGet out_cap))
  else if msg_id = Featuremsg.kSet then (api.handleSet req).map id some
  else if msg_id = Featuremsg.kGetReasons then (api, some (api.handleGetReasons out_cap))
  else if msg_id = Featuremsg.kResetDefaults then (api.handleResetDefaults out_cap).map id some
  else (api, none)

end FeatureApi

end HexapodVerified.Protocol
