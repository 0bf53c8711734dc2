import Mathlib.Data.List.Basic

/-!
# The safety states

The vocabulary shared by the safety state machine, the command arbiter and the wire protocol. The
numeric values are part of the protocol.
-/

namespace HexapodVerified.Safety

/-- `safety::State` (`system_state.h`). -/
inductive State where
  | boot | configLoad | disarmed | armingChecks | standReady | rcManual | contactTerrain
  | jetsonAssisted | macMaintenance | passivePoseStream | faultSoft | faultHard | estop
  deriving DecidableEq, Repr

def State.wire : State → UInt8
  | .boot => 0
  | .configLoad => 1
  | .disarmed => 2
  | .armingChecks => 3
  | .standReady => 4
  | .rcManual => 5
  | .contactTerrain => 6
  | .jetsonAssisted => 7
  | .macMaintenance => 8
  | .passivePoseStream => 9
  | .faultSoft => 10
  | .faultHard => 11
  | .estop => 12

/-- `safety::FaultReason`: why the machine is (or last was) in a fault or E-stop state. -/
inductive FaultReason where
  | none | rcKill | hostEstop | rcLinkLost | batteryLow | watchdog | dxlHardware | armingTimeout
  deriving DecidableEq, Repr

/-- `safety::CommandSource`: who owns motion authority. -/
inductive CommandSource where
  | none | rc | jetson | macMaintenance
  deriving DecidableEq, Repr

def CommandSource.wire : CommandSource → UInt8
  | .none => 0
  | .rc => 1
  | .jetson => 2
  | .macMaintenance => 3

theorem CommandSource.wire_injective {a b : CommandSource} : a.wire = b.wire ↔ a = b := by
  cases a <;> cases b <;> decide

/-!
## The firmware safety state machine

`StateMachine::update` of `safety/state_machine.cpp`. The source advances one object in place; here
`update` maps the machine before the cycle to the machine after it. Each section of the source's
function is a definition of its own, in the order in which the source runs them; the early returns
become the branches of `update`. Times are `uint32_t` milliseconds and wrap.
-/

/-- `StateParams`: tunable thresholds. -/
structure StateParams where
  /-- Below this, when valid, the battery is low. -/
  battery_min_mv : UInt16 := 10000
  /-- How long a low reading must persist before it trips the E-stop. -/
  battery_low_debounce_ms : UInt16 := 250
  /-- The longest time arming may take. -/
  arming_timeout_ms : UInt16 := 10000
  /-- Idle time after which an armed robot disarms; `0` disables the timeout. -/
  idle_disarm_ms : UInt32 := 60000
  deriving DecidableEq, Repr

/-- `StateInputs`: one cycle of inputs sampled from the rest of the firmware. -/
structure StateInputs where
  config_loaded : Bool := false
  battery_mv : UInt16 := 0
  battery_valid : Bool := false
  watchdog_fault : Bool := false
  dxl_hard_fault : Bool := false
  host_estop : Bool := false
  rc_kill : Bool := false
  rc_failsafe : Bool := false
  rc_ever_seen : Bool := false
  rc_armed : Bool := false
  arming_checks_pass : Bool := false
  host_disarm : Bool := false
  command_source : UInt8 := 0
  jetson_fresh : Bool := false
  rc_autonomy : Bool := false
  mac_lock_held : Bool := false
  maintenance_request : Bool := false
  maintenance_failsafe_recovery : Bool := false
  passive_request : Bool := false
  torque_off : Bool := false
  contact_enabled : Bool := false
  contact_confident : Bool := false
  motion_active : Bool := false
  deriving DecidableEq, Repr

def isOperational : State → Bool
  | .armingChecks | .standReady | .rcManual | .contactTerrain | .jetsonAssisted => true
  | _ => false

def srcIs (src : UInt8) (want : CommandSource) : Bool := src == want.wire

/-- `idleDisarmEligible`: armed, torque-holding, operator-driven states. -/
def idleDisarmEligible : State → Bool
  | .standReady | .rcManual | .contactTerrain | .jetsonAssisted => true
  | _ => false

def stateAllowsMotion : State → Bool
  | .rcManual | .contactTerrain | .jetsonAssisted | .macMaintenance => true
  | _ => false

def stateAllowsTorque (s : State) : Bool := s == .standReady || stateAllowsMotion s

def stateAllowsDxlPower (s : State) : Bool :=
  s == .armingChecks || s == .passivePoseStream || stateAllowsTorque s

/-- The states `host_disarm` drops to `Disarmed` (the cases of the source's inner `switch`). -/
def hostDisarmDrops : State → Bool
  | .armingChecks | .standReady | .rcManual | .contactTerrain | .jetsonAssisted
  | .macMaintenance | .passivePoseStream => true
  | _ => false

/-- `StateMachine`: the fields of the class, `params_` first. The defaults are the members'
initializers, so `{ params := p }` is a freshly configured machine. -/
structure StateMachine where
  params : StateParams := {}
  state : State := .boot
  reason : FaultReason := .none
  last_fault_reason : FaultReason := .none
  last_fault_timestamp_ms : UInt32 := 0
  clear_fault_requested : Bool := false
  batt_low_active : Bool := false
  batt_low_since_ms : UInt32 := 0
  arming_since_ms : UInt32 := 0
  last_activity_ms : UInt32 := 0
  arm_release_required : Bool := true
  deriving DecidableEq, Repr

namespace StateMachine

/-- `StateMachine::reset`: back to the power-on state, keeping the parameters. -/
def reset (m : StateMachine) : StateMachine := { params := m.params }

def requestClearFault (m : StateMachine) : StateMachine := { m with clear_fault_requested := true }

def latchFault (m : StateMachine) (reason : FaultReason) (now_ms : UInt32) : StateMachine :=
  if reason = .none ∨ reason = m.reason then m
  else { m with last_fault_reason := reason, last_fault_timestamp_ms := now_ms }

/-- The guard at the top of `update`: an arm switch seen high outside `Boot`, `ConfigLoad` and
`Disarmed` must be released before it can start arming. -/
def requireArmRelease (m : StateMachine) (inp : StateInputs) : StateMachine :=
  { m with arm_release_required :=
      if m.state ≠ .boot ∧ m.state ≠ .configLoad ∧ m.state ≠ .disarmed ∧ inp.rc_armed then true
      else m.arm_release_required }

/-- Entry into a forced state with a reason: the release latch is set and the reason recorded. -/
def enterFault (m : StateMachine) (s : State) (reason : FaultReason) (now_ms : UInt32) :
    StateMachine :=
  { latchFault { m with arm_release_required := true, state := s } reason now_ms with
    reason := reason }

def fallToDisarmed (m : StateMachine) : StateMachine :=
  { m with state := .disarmed, reason := .none }

def battLowNow (m : StateMachine) (inp : StateInputs) : Bool :=
  inp.battery_valid && decide (inp.battery_mv < m.params.battery_min_mv)

/-- The battery debounce: remember since when the reading has been low. -/
def trackBattery (m : StateMachine) (inp : StateInputs) (now_ms : UInt32) : StateMachine :=
  { m with
    batt_low_active := m.battLowNow inp
    batt_low_since_ms :=
      if m.battLowNow inp ∧ ¬ m.batt_low_active then now_ms else m.batt_low_since_ms }

/-- `batt_unsafe`, on the machine whose battery tracking is up to date. -/
def battUnsafe (m : StateMachine) (now_ms : UInt32) : Bool :=
  m.batt_low_active &&
    decide (m.params.battery_low_debounce_ms.toUInt32 ≤ now_ms - m.batt_low_since_ms)

def staleFailsafeMaintenanceRecovery (inp : StateInputs) : Bool :=
  inp.maintenance_failsafe_recovery && inp.maintenance_request && inp.mac_lock_held &&
    inp.rc_ever_seen && inp.rc_kill && inp.rc_failsafe

def failsafeStop (m : StateMachine) (inp : StateInputs) : Bool :=
  inp.rc_failsafe && inp.rc_ever_seen && (isOperational m.state || m.state == .estop) &&
    !staleFailsafeMaintenanceRecovery inp

/-- `estop_reason`: the first E-stop source that is active, on the machine whose battery tracking
is up to date. -/
def estopReason (m : StateMachine) (inp : StateInputs) (now_ms : UInt32) : FaultReason :=
  if inp.host_estop then .hostEstop
  else if inp.rc_kill && inp.rc_ever_seen && !staleFailsafeMaintenanceRecovery inp then .rcKill
  else if m.battUnsafe now_ms then .batteryLow
  else if inp.watchdog_fault then .watchdog
  else if m.failsafeStop inp then .rcLinkLost
  else .none

/-- Entering an armed state or any activity refreshes the idle timer. -/
def trackActivity (m : StateMachine) (inp : StateInputs) (now_ms : UInt32) : StateMachine :=
  { m with last_activity_ms :=
      if inp.motion_active ∨ ¬ idleDisarmEligible m.state then now_ms else m.last_activity_ms }

/-- The idle auto-disarm condition, on the machine whose idle timer is up to date. -/
def idleExpired (m : StateMachine) (now_ms : UInt32) : Bool :=
  m.params.idle_disarm_ms != 0 && idleDisarmEligible m.state &&
    decide (m.params.idle_disarm_ms ≤ now_ms - m.last_activity_ms)

def batteryReady (m : StateMachine) (inp : StateInputs) : Bool :=
  inp.battery_valid && decide (m.params.battery_min_mv ≤ inp.battery_mv)

def armingExpired (m : StateMachine) (now_ms : UInt32) : Bool :=
  decide (m.params.arming_timeout_ms.toUInt32 ≤ now_ms - m.arming_since_ms)

/-- The takeover condition the three RC states share. -/
def jetsonTakesOver (inp : StateInputs) : Bool :=
  inp.jetson_fresh && inp.rc_autonomy && srcIs inp.command_source .jetson

/-- The `Disarmed` case of the normal progression. -/
def progressDisarmed (m : StateMachine) (inp : StateInputs) (now_ms : UInt32) : StateMachine :=
  let m := { m with
    arm_release_required := if ¬ inp.rc_armed then false else m.arm_release_required }
  if inp.host_disarm then m
  else if inp.passive_request && inp.torque_off then { m with state := .passivePoseStream }
  else if inp.maintenance_request && inp.mac_lock_held then { m with state := .macMaintenance }
  else if inp.rc_armed && !m.arm_release_required then
    { m with state := .armingChecks, reason := .none, arming_since_ms := now_ms }
  else m

/-- The `ArmingChecks` case of the normal progression. -/
def progressArmingChecks (m : StateMachine) (inp : StateInputs) (now_ms : UInt32) :
    StateMachine :=
  if ¬ inp.rc_armed then { m with state := .disarmed }
  else if inp.arming_checks_pass && m.batteryReady inp then { m with state := .standReady }
  else if m.armingExpired now_ms then m.enterFault .faultSoft .armingTimeout now_ms
  else m

/-- The state an armed robot moves to (the cases `StandReady`, `RcManual`, `ContactTerrain` and
`JetsonAssisted` of the normal progression). Only the state changes in these cases. -/
def armedNext (s : State) (inp : StateInputs) : State :=
  match s with
  | .standReady =>
    if ¬ inp.rc_armed then .disarmed
    else if jetsonTakesOver inp then .jetsonAssisted
    else if inp.contact_enabled && inp.contact_confident && srcIs inp.command_source .rc then
      .contactTerrain
    else if srcIs inp.command_source .rc then .rcManual
    else .standReady
  | .rcManual =>
    if ¬ inp.rc_armed then .disarmed
    else if jetsonTakesOver inp then .jetsonAssisted
    else if ¬ srcIs inp.command_source .rc then .standReady
    else if inp.contact_enabled && inp.contact_confident then .contactTerrain
    else .rcManual
  | .contactTerrain =>
    if ¬ inp.rc_armed then .disarmed
    else if jetsonTakesOver inp then .jetsonAssisted
    else if ¬ srcIs inp.command_source .rc then .standReady
    else if ¬ (inp.contact_enabled && inp.contact_confident) then .rcManual
    else .contactTerrain
  | .jetsonAssisted =>
    -- the source of the command is not looked at here
    if ¬ inp.rc_armed then .disarmed
    else if ¬ (inp.jetson_fresh && inp.rc_autonomy) then .standReady
    else .jetsonAssisted
  | s => s

/-- The final `switch` of `update`: the normal progression. -/
def progress (m : StateMachine) (inp : StateInputs) (now_ms : UInt32) : StateMachine :=
  match m.state with
  | .boot => { m with state := .configLoad }
  | .configLoad => { m with state := if inp.config_loaded then .disarmed else .configLoad }
  | .disarmed => m.progressDisarmed inp now_ms
  | .armingChecks => m.progressArmingChecks inp now_ms
  | .standReady | .rcManual | .contactTerrain | .jetsonAssisted =>
    { m with state := armedNext m.state inp }
  | .macMaintenance =>
    if inp.passive_request && inp.torque_off then { m with state := .passivePoseStream }
    else if !inp.maintenance_request || !inp.mac_lock_held then { m with state := .disarmed }
    else m
  | .passivePoseStream => { m with state := if ¬ inp.passive_request then .disarmed else m.state }
  | .faultSoft =>
    if m.clear_fault_requested then { m.fallToDisarmed with clear_fault_requested := false } else m
  | .faultHard | .estop => m

/-- `StateMachine::update` after the hard-fault section: the E-stop sources, the idle auto-disarm,
the host disarm and the normal progression. -/
def updateRunning (m : StateMachine) (inp : StateInputs) (now_ms : UInt32) : StateMachine :=
  let m := m.trackBattery inp now_ms
  let estop_reason := m.estopReason inp now_ms
  if estop_reason ≠ .none then m.enterFault .estop estop_reason now_ms
  else if m.state = .estop then m.fallToDisarmed
  else
    let m := m.trackActivity inp now_ms
    if m.idleExpired now_ms then { m.fallToDisarmed with arm_release_required := true }
    else if inp.host_disarm && hostDisarmDrops m.state then
      { m.fallToDisarmed with arm_release_required := true }
    else m.progress inp now_ms

/-- `StateMachine::update`: advance one cycle. -/
def update (m : StateMachine) (inp : StateInputs) (now_ms : UInt32) : StateMachine :=
  let m := m.requireArmRelease inp
  if inp.dxl_hard_fault then
    { m.enterFault .faultHard .dxlHardware now_ms with clear_fault_requested := false }
  else if m.state = .faultHard then
    if m.clear_fault_requested then { m.fallToDisarmed with clear_fault_requested := false } else m
  else m.updateRunning inp now_ms

end StateMachine

/-- The calls the firmware makes on its state machine once it is configured. -/
inductive Call where
  | update (inp : StateInputs) (now_ms : UInt32)
  | requestClearFault
  deriving DecidableEq, Repr

def StateMachine.call (m : StateMachine) : Call → StateMachine
  | .update inp now_ms => m.update inp now_ms
  | .requestClearFault => m.requestClearFault

end HexapodVerified.Safety
