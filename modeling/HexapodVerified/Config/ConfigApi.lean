import HexapodVerified.Config.ConfigCodec
import HexapodVerified.Lib.Runs

/-!
# The configuration commands

`config/config_api.cpp`: the known-good configuration (`shadow`), the serialized copy that the host edits in
windows (`staging`), and the transactional commit between them. The persistent store is outside: each
call is told whether a store is available and whether it confirms a payload.
-/

namespace HexapodVerified.Config

open Bytes Transition

namespace Cfgmsg

abbrev kGetSummary : UInt8 := 0x20
abbrev kGetBlock : UInt8 := 0x21
abbrev kSetBlock : UInt8 := 0x22
abbrev kValidate : UInt8 := 0x23
abbrev kCommit : UInt8 := 0x24
abbrev kResetDefaults : UInt8 := 0x25

def isConfigMsg (msg_id : UInt8) : Bool := msg_id ≥ kGetSummary && msg_id ≤ kResetDefaults

end Cfgmsg

abbrev kCfgBlockMax : Nat := 192
abbrev kErrorFlag : UInt8 := 0x02

inductive CfgResult where
  | ok | validationFailed | volatile | commitFailed | rejected
  deriving DecidableEq, Repr

def CfgResult.wire : CfgResult → UInt8
  | .ok => 0
  | .validationFailed => 1
  | .volatile => 2
  | .commitFailed => 3
  | .rejected => 4

inductive CfgError where
  | none | badRequest | badRange | rejected
  deriving DecidableEq, Repr

def CfgError.wire : CfgError → UInt8
  | .none => 0
  | .badRequest => 1
  | .badRange => 2
  | .rejected => 3

/-- How the `ConfigPersistence` sink answers during one call. -/
structure Persistence where
  persistent : Bool := true
  commit_ok : Bool := true
  deriving DecidableEq, Repr

structure ConfigApi where
  shadow : RobotConfig
  staging : List UInt8
  staging_len : Nat
  shadow_rev : UInt32 := 0
  staging_allowed : Bool := false
  apply_allowed : Bool := false
  deriving DecidableEq, Repr

/-- The answer of `ConfigApi::handle`: whether the message was a configuration command, the response
bytes and flags, and the payload that the store has confirmed on the way. -/
structure ConfigReply where
  handled : Bool := true
  out : List UInt8 := []
  flags : UInt8 := 0
  persisted : Option (List UInt8) := none
  deriving DecidableEq, Repr

def errorReply (e : CfgError) : ConfigReply := { out := [e.wire], flags := kErrorFlag }

def resultReply (r : CfgResult) : ConfigReply := { out := [r.wire] }

/-- `memcpy(&dst[offset], data, len)` inside a buffer. -/
def copyInto (dst : List UInt8) (offset : Nat) (data : List UInt8) : List UInt8 :=
  dst.take offset ++ (data ++ dst.drop (offset + data.length))

namespace ConfigApi

/-- The known-good configuration is replaced: the staged copy follows, and the revision advances. -/
def replaceShadow (api : ConfigApi) (shadow : RobotConfig) : ConfigApi :=
  { api with
    shadow
    staging := serializeRobotConfig shadow kConfigPayloadSize
    staging_len := (serializeRobotConfig shadow kConfigPayloadSize).length
    shadow_rev := api.shadow_rev + 1 }

def resetToDefaults (api : ConfigApi) : ConfigApi := api.replaceShadow defaultRobotConfig

def construct : ConfigApi :=
  resetToDefaults { shadow := {}, staging := [], staging_len := kConfigPayloadSize }

/-- `adoptPayload`. The serialized size is checked after the shadow was replaced, as in the source. -/
def adoptPayload (api : ConfigApi) (payload : List UInt8) : ConfigApi × Bool :=
  match deserializeRobotConfig payload with
  | none => (api, false)
  | some tmp =>
    if !validateRobotConfig tmp then (api, false)
    else
      let bytes := serializeRobotConfig tmp kConfigPayloadSize
      if bytes.length != kConfigPayloadSize then
        ({ api with shadow := tmp, staging := bytes, staging_len := bytes.length }, false)
      else (api.replaceShadow tmp, true)

/-- `stagedValid`: the staged configuration, when it deserializes and validates. -/
def stagedValid (api : ConfigApi) : Option RobotConfig :=
  match deserializeRobotConfig (api.staging.take api.staging_len) with
  | none => none
  | some staged => if validateRobotConfig staged then some staged else none

/-- `saveGaitDefaults`, with the payload the store has confirmed. -/
def saveGaitDefaults (api : ConfigApi) (persist : Persistence) (gait : GaitDefaults) :
    ConfigApi × CfgResult × Option (List UInt8) :=
  let candidate := { api.shadow with gait }
  if !validateRobotConfig candidate then (api, .validationFailed, none)
  else
    let payload := serializeRobotConfig candidate kConfigPayloadSize
    if payload.length != kConfigPayloadSize then (api, .validationFailed, none)
    else if !persist.persistent then (api, .volatile, none)
    else if !persist.commit_ok then (api, .commitFailed, none)
    else (api.replaceShadow candidate, .ok, some payload)

def handleGetSummary (api : ConfigApi) (persist : Persistence) (out_cap : Nat) : ConfigReply :=
  if out_cap < 2 + 2 + 2 + 1 + 4 + kRobotNameLen then {}
  else
    let staged := api.stagedValid
    let view := staged.getD api.shadow
    let flags : UInt8 := (if persist.persistent then 0x01 else 0) ||| (if staged.isSome then 0x02 else 0)
    { out := putU16 kSchemaVersion ++ (putU16 (UInt16.ofNat kConfigPayloadSize) ++
        (putU16 (UInt16.ofNat kCfgBlockMax) ++ ([flags] ++ (putU32 view.feature_defaults ++
          view.robot_name.toList)))) }

def handleGetBlock (api : ConfigApi) (req : List UInt8) (out_cap : Nat) : ConfigReply :=
  if req.length < 4 then errorReply .badRequest
  else
    let offset := getU16 req
    let len := getU16 (req.drop 2)
    if len == 0 || decide (len.toNat > kCfgBlockMax) ||
        decide (offset.toNat + len.toNat > api.staging_len) || decide (len.toNat + 4 > out_cap) then
      errorReply .badRange
    else { out := putU16 offset ++ (putU16 len ++ window api.staging offset.toNat len.toNat) }

def handleSetBlock (api : ConfigApi) (req : List UInt8) : ConfigApi × ConfigReply :=
  if !api.staging_allowed then (api, errorReply .rejected)
  else if req.length < 4 then (api, errorReply .badRequest)
  else
    let offset := getU16 req
    let len := getU16 (req.drop 2)
    if len == 0 || decide (len.toNat > kCfgBlockMax) ||
        decide (offset.toNat + len.toNat > api.staging_len) ||
        decide (req.length ≠ 4 + len.toNat) then (api, errorReply .badRange)
    else
      ({ api with staging := copyInto api.staging offset.toNat (req.drop 4) },
        { out := putU16 offset ++ putU16 len })

def handleValidate (api : ConfigApi) : ConfigReply :=
  resultReply (if api.stagedValid.isSome then .ok else .validationFailed)

def handleCommit (api : ConfigApi) (persist : Persistence) : ConfigApi × ConfigReply :=
  if !api.apply_allowed then (api, resultReply .rejected)
  else
    match api.stagedValid with
    | none => (api, resultReply .validationFailed)
    | some tmp =>
      if !persist.persistent then (api, resultReply .volatile)
      else if !persist.commit_ok then (api, resultReply .commitFailed)
      else
        ({ api with shadow := tmp, shadow_rev := api.shadow_rev + 1 },
          { resultReply .ok with persisted := some (api.staging.take api.staging_len) })

def handleResetDefaults (api : ConfigApi) : ConfigApi × ConfigReply :=
  if !api.apply_allowed then (api, resultReply .rejected)
  else (api.resetToDefaults, resultReply .ok)

def handle (api : ConfigApi) (persist : Persistence) (msg_id : UInt8) (req : List UInt8)
    (out_cap : Nat) : ConfigApi × ConfigReply :=
  if !Cfgmsg.isConfigMsg msg_id then (api, { handled := false })
  else if msg_id == Cfgmsg.kGetSummary then (api, api.handleGetSummary persist out_cap)
  else if msg_id == Cfgmsg.kGetBlock then (api, api.handleGetBlock req out_cap)
  else if msg_id == Cfgmsg.kSetBlock then api.handleSetBlock req
  else if msg_id == Cfgmsg.kValidate then (api, api.handleValidate)
  else if msg_id == Cfgmsg.kCommit then api.handleCommit persist
  else if msg_id == Cfgmsg.kResetDefaults then api.handleResetDefaults
  else (api, { handled := false })

end ConfigApi

inductive ConfigCall where
  | handle (msg_id : UInt8) (req : List UInt8) (out_cap : Nat)
  | adoptPayload (payload : List UInt8)
  | resetToDefaults
  | saveGaitDefaults (gait : GaitDefaults)
  | setMutationPolicy (staging_allowed apply_allowed : Bool)
  deriving DecidableEq, Repr

inductive ConfigOutput where
  | replied (reply : ConfigReply)
  | adopted (ok : Bool)
  | saved (result : CfgResult) (persisted : Option (List UInt8))
  | done
  deriving DecidableEq, Repr

def ConfigApi.call (api : ConfigApi) : ConfigCall × Persistence → ConfigApi × ConfigOutput
  | (.handle msg_id req out_cap, persist) =>
    let (api, reply) := api.handle persist msg_id req out_cap
    (api, .replied reply)
  | (.adoptPayload payload, _) =>
    let (api, ok) := api.adoptPayload payload
    (api, .adopted ok)
  | (.resetToDefaults, _) => (api.resetToDefaults, .done)
  | (.saveGaitDefaults gait, persist) =>
    let (api, result, persisted) := api.saveGaitDefaults persist gait
    (api, .saved result persisted)
  | (.setMutationPolicy staging_allowed apply_allowed, _) =>
    ({ api with staging_allowed, apply_allowed }, .done)

abbrev ConfigEvent := Event ConfigApi ((ConfigCall × Persistence) × ConfigOutput)

/-- From construction, the calls recorded in `h` lead to `api`. -/
abbrev ConfigRun : List ConfigEvent → ConfigApi → Prop :=
  Run (WithOutput ConfigApi.call) ConfigApi.construct

end HexapodVerified.Config
