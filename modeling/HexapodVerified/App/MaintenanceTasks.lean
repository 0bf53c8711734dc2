import HexapodVerified.Config.ConfigApi
import HexapodVerified.Controller.ControllerCore
import HexapodVerified.Protocol.MaintenanceApi
import HexapodVerified.Protocol.MaintenanceTargetApi

/-!
# The tasks around maintenance

`apiTask` and `controlTask` of `app/tasks.cpp` share the lock without a mutex. `apiTask` samples the
clock, hands the sample and what it knows of the robot's state to the lock, and then lets it handle the
request; `controlTask` can run between any two of these steps. It feeds, reads and revokes the lock
with the clock of the moment.
-/

namespace HexapodVerified.App

open HexapodVerified.Config HexapodVerified.Controller HexapodVerified.Protocol HexapodVerified.Safety
  Bytes Transition

/-- `framing.h`: the room for the payload of a response. -/
abbrev kMaxPayload : Nat := 256

/-- Where `apiTask` is with a request. -/
inductive RequestPoint where
  | idle
  /-- `st.uptime_ms` is read. -/
  | sampled (uptime_ms : UInt32)
  /-- After `setNow`. -/
  | clocked
  /-- After `setLiveState`. -/
  | published
  /-- After `setFailsafeRecoveryAllowed`. -/
  | ready
  deriving DecidableEq, Repr

structure MaintTasks where
  g_maintApi : MaintenanceApi := {}
  /-- Milliseconds since the start; the tasks read the low 32 bits. -/
  clock : Nat := 0
  api : RequestPoint := .idle
  deriving DecidableEq, Repr

inductive MaintStep where
  /-- A millisecond passes. -/
  | tick
  | sample
  | setNow
  | setLiveState (state : UInt8)
  | setFailsafeRecoveryAllowed (allowed : Bool)
  | handle (msg_id : UInt8) (req : List UInt8)
  | feedTtl
  | lockHeld
  | revoke
  deriving DecidableEq, Repr

namespace MaintTasks

def now (s : MaintTasks) : UInt32 := UInt32.ofNat s.clock

def step (s : MaintTasks) (a : MaintStep) : Option MaintTasks :=
  match a, s.api with
  | .tick, _ => some { s with clock := s.clock + 1 }
  | .sample, .idle => some { s with api := .sampled s.now }
  | .setNow, .sampled uptime_ms =>
    some { s with g_maintApi := s.g_maintApi.setNow uptime_ms, api := .clocked }
  | .setLiveState state, .clocked =>
    some { s with g_maintApi := s.g_maintApi.setLiveState state, api := .published }
  | .setFailsafeRecoveryAllowed allowed, .published =>
    some { s with g_maintApi := s.g_maintApi.setFailsafeRecoveryAllowed allowed, api := .ready }
  | .handle msg_id req, .ready =>
    some { s with g_maintApi := (s.g_maintApi.handle msg_id req kMaxPayload).1, api := .idle }
  | .feedTtl, _ => some { s with g_maintApi := s.g_maintApi.feedTtl s.now }
  | .lockHeld, _ => some s
  | .revoke, _ => some { s with g_maintApi := s.g_maintApi.revoke }
  | _, _ => none

/-- `lockHeld` with the clock of the moment. -/
def held (s : MaintTasks) : Bool := s.g_maintApi.lockHeld s.now

def reply (s : MaintTasks) (msg_id : UInt8) (req : List UInt8) : Option MaintReply :=
  (s.g_maintApi.handle msg_id req kMaxPayload).2

end MaintTasks

/-- The answer is `Ok`. -/
def accepted (reply : Option MaintReply) : Bool :=
  match reply with
  | none => false
  | some reply => reply.out.head? == some MaintResult.ok.wire

def replyToken (reply : Option MaintReply) : UInt32 :=
  match reply with
  | none => 0
  | some reply => getU32 (reply.out.drop 2)

abbrev MaintEvent := Event MaintTasks MaintStep

/-- From a lock that nobody holds, the steps recorded in `h` lead to `s`. -/
abbrev MaintRun (ttl_ms : UInt32) : List MaintEvent → MaintTasks → Prop :=
  Run (Guarded MaintTasks.step) { g_maintApi := { ttl_ms } }

/-! ### The lock and the heartbeat by the clock

The maintenance lock of `protocol/maintenance_api.cpp` and the Jetson heartbeat of
`safety/command_arbiter.cpp` under any calls, with the clock that the calls read. The clock never goes
back, and the calls see its low 32 bits. -/

structure ExpiryState where
  g_maintApi : MaintenanceApi
  arbiter : CommandArbiter
  /-- Milliseconds since the start. -/
  clock : Nat := 0
  /-- The clock when `setNow` was last called. -/
  sampled : Nat := 0
  deriving DecidableEq, Repr

inductive ExpiryCall where
  /-- Milliseconds pass. -/
  | pass (ms : Nat)
  | setNow
  | setLiveState (state : UInt8)
  | setFailsafeRecoveryAllowed (allowed : Bool)
  | handle (msg_id : UInt8) (req : List UInt8) (out_cap : Nat)
  | feedTtl
  | lockHeld
  | recoveryLockHeld
  | revoke
  | jetsonHeartbeat
  | jetsonFresh
  | update (rc : RcInputs)
  deriving DecidableEq, Repr

namespace ExpiryState

def now (s : ExpiryState) : UInt32 := UInt32.ofNat s.clock

def call (s : ExpiryState) : ExpiryCall → ExpiryState
  | .pass ms => { s with clock := s.clock + ms }
  | .setNow => { s with g_maintApi := s.g_maintApi.setNow s.now, sampled := s.clock }
  | .setLiveState state => { s with g_maintApi := s.g_maintApi.setLiveState state }
  | .setFailsafeRecoveryAllowed allowed =>
    { s with g_maintApi := s.g_maintApi.setFailsafeRecoveryAllowed allowed }
  | .handle msg_id req out_cap =>
    { s with g_maintApi := (s.g_maintApi.handle msg_id req out_cap).1 }
  | .feedTtl => { s with g_maintApi := s.g_maintApi.feedTtl s.now }
  | .lockHeld | .recoveryLockHeld => s
  | .revoke => { s with g_maintApi := s.g_maintApi.revoke }
  | .jetsonHeartbeat => { s with arbiter := s.arbiter.jetsonHeartbeat s.now }
  | .jetsonFresh => s
  | .update rc => { s with arbiter := s.arbiter.update rc s.now }

/-- What a call of `lockHeld` answers. -/
def held (s : ExpiryState) : Bool := s.g_maintApi.lockHeld s.now

def heldForRecovery (s : ExpiryState) : Bool := s.g_maintApi.recoveryLockHeld s.now

/-- What a call of `jetsonFresh` answers. -/
def fresh (s : ExpiryState) : Bool := s.arbiter.jetsonFresh s.now

end ExpiryState

abbrev ExpiryEvent := Event ExpiryState ExpiryCall

/-- From a lock that nobody holds and an arbiter after its reset, the calls recorded in `h` lead to
`s`. -/
abbrev ExpiryRun (ttl_ms : UInt32) (params : ArbiterParams) : List ExpiryEvent → ExpiryState → Prop :=
  Run (Deterministic ExpiryState.call) { g_maintApi := { ttl_ms }, arbiter := { params } }

/-!
## The maintenance targets and the control cycle

What `apiTask` and `controlTask` of `app/tasks.cpp` share about joint targets: `apiTask` replaces the
configuration and handles target commands under the configuration of the moment; a cycle of
`controlTask` takes a snapshot of the configuration, hands the stored targets to the controller and
clears them when a maintenance session starts. A cycle is not interrupted by `apiTask`, which has the
lower priority. Everything else that a cycle reads is given with it.
-/

structure MaintTargetTasks (F : Type) where
  g_configApi : ConfigApi
  g_maintTargetApi : MaintTargetApi
  g_controllerConfig : ControllerConfigSnapshot
  g_controllerConfigRevision : UInt32
  g_controllerCore : ControllerCore F
  g_controllerCommand : RobotCommand

inductive MaintTargetTaskStep (F : Type) where
  /-- A call of the configuration commands. -/
  | config (call : ConfigCall × Persistence)
  /-- A maintenance target command. -/
  | target (msg_id : UInt8) (req : List UInt8) (out_cap : Nat)
  /-- A cycle of `controlTask`. The configuration and the targets of `inp` are replaced by those of
  the tasks; `maintenance_held` is read after the step. -/
  | control (inp : ControllerStepInput F) (g_configVolatile maintenance_held : Bool)

namespace MaintTargetTasks

variable {F : Type} [FloatArith F]

def start : MaintTargetTasks F where
  g_configApi := .construct
  g_maintTargetApi := .new
  g_controllerConfig := {}
  g_controllerConfigRevision := 0xFFFFFFFF
  g_controllerCore := ControllerCore.new.reset
  g_controllerCommand := {}

/-- The target commands look at the known-good configuration through a pointer to it. -/
def boundApi (s : MaintTargetTasks F) : MaintTargetApi :=
  s.g_maintTargetApi.setConfig (some s.g_configApi.shadow)

def refreshControllerConfigSnapshot (s : MaintTargetTasks F) (g_configVolatile : Bool) :
    MaintTargetTasks F :=
  let revision := s.g_configApi.shadow_rev
  if s.g_controllerConfig.valid && revision == s.g_controllerConfigRevision then s
  else
    match makeControllerConfigSnapshot s.g_configApi.shadow revision (!g_configVolatile) with
    | none => { s with g_controllerConfig := { revision, persistent := !g_configVolatile } }
    | some snapshot =>
      { s with g_controllerConfig := snapshot, g_controllerConfigRevision := revision }

/-- What the controller is given: the snapshot and, by `collectControllerIntent`, the stored
targets. -/
def stepInput (s : MaintTargetTasks F) (inp : ControllerStepInput F) : ControllerStepInput F :=
  { inp with
    config := s.g_controllerConfig
    intent := { inp.intent with
      maintenance := { inp.intent.maintenance with
        control_mode := s.g_maintTargetApi.control_mode
        targets := s.g_maintTargetApi.target.joints } } }

/-- What `publishControllerCommand` does to the target commands. -/
def publishControllerCommand (s : MaintTargetTasks F) (maintenance_held : Bool) :
    MaintTargetTasks F :=
  let api := s.g_maintTargetApi
  let api :=
    if s.g_controllerCommand.diagnostics.clear_maintenance_targets then
      api.clearTargets.resetControlMode
    else api
  { s with
    g_maintTargetApi :=
      api.setLiveState s.g_controllerCommand.safety_state.wire maintenance_held }

def controlCycle (s : MaintTargetTasks F) (inp : ControllerStepInput F)
    (g_configVolatile maintenance_held : Bool) : MaintTargetTasks F :=
  let s := s.refreshControllerConfigSnapshot g_configVolatile
  let (g_controllerCore, g_controllerCommand) := s.g_controllerCore.step (s.stepInput inp)
  { s with g_controllerCore, g_controllerCommand }.publishControllerCommand maintenance_held

def step (s : MaintTargetTasks F) : MaintTargetTaskStep F → MaintTargetTasks F
  | .config call => { s with g_configApi := (s.g_configApi.call call).1 }
  | .target msg_id req out_cap =>
    { s with g_maintTargetApi := (s.boundApi.handle F msg_id req out_cap).1 }
  | .control inp g_configVolatile maintenance_held =>
    s.controlCycle inp g_configVolatile maintenance_held

end MaintTargetTasks

abbrev MaintTargetTaskEvent (F : Type) : Type :=
  Event (MaintTargetTasks F) (MaintTargetTaskStep F)

/-- From the start of the tasks, the steps recorded in `h` lead to `s`. -/
abbrev MaintTargetTaskRun (F : Type) [FloatArith F] :
    List (MaintTargetTaskEvent F) → MaintTargetTasks F → Prop :=
  Run (Deterministic MaintTargetTasks.step) MaintTargetTasks.start

end HexapodVerified.App
