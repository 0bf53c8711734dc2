import HexapodVerified.Dxl.DxlBus
import HexapodVerified.Safety.StateMachine

/-!
# The bus task

One cycle of `dxlTask` of `app/tasks.cpp` in which no maintenance job is pending: the bring-up of the
servos while the system is arming, the power cut, the torque gate, the goals and the status snapshot.
Error reports, watchdog marks and timing are left out.
-/

namespace HexapodVerified.App

open HexapodVerified.Config HexapodVerified.Dxl HexapodVerified.Safety

/-- `kAllServoPosesKnown`. -/
abbrev kAllServoPosesKnown : UInt32 := ((1 : UInt32) <<< 18) - 1
abbrev kServoBootDelayMs : UInt32 := 500
abbrev kDxlBusFailLimit : UInt16 := 50

/-- The bit of a servo in a mask. -/
def servoBit (index : Nat) : UInt32 := 1 <<< UInt32.ofNat index

/-- The locals of `dxlTask` that say how far arming has come. -/
structure ArmingProgress where
  discovery_started : Bool := false
  discovery_finished : Bool := false
  torque_off_verified : Bool := false
  hold_seeded : Bool := false
  discovery_index : Nat := 0
  status_checked_mask : UInt32 := 0
  power_on_ms : UInt32 := 0
  deriving DecidableEq, Repr

/-- Arming starts over. The time of the last power-on stays. -/
def ArmingProgress.reset (a : ArmingProgress) : ArmingProgress := { power_on_ms := a.power_on_ms }

structure DxlTask where
  bus : DxlBus := {}
  /-- `hasDxlPowerControl`. -/
  power_control : Bool := true
  power_on : Bool := false
  servo_status : Vector ServoStatus kMaxServos := .replicate _ {}
  servo_status_count : Nat := 0
  configured_servo_coverage : Bool := false
  pose_known_mask : UInt32 := 0
  arming_ready : Bool := false
  torque_off : Bool := false
  hard_fault : Bool := false
  maintenance_released_mask : UInt32 := 0
  maintenance_direct_goal_mask : UInt32 := 0
  arming : ArmingProgress := {}
  fault_monitor : FaultMonitor := {}
  prev_authorized : Bool := false
  torque_seed_pending : Bool := false
  torque_enable_fault : Bool := false
  consec_zero_reads : UInt16 := 0
  rr_servo : Nat := 0

/-- What a cycle reads from the other tasks and from the wire. -/
structure DxlInput where
  now_ms : UInt32
  live_state : State
  motion_gate : Bool := false
  command_source : UInt8 := 0
  config : RobotConfig
  /-- The goal frame, when it is valid and could be copied in time. -/
  goal_frame : Option (List GoalTarget) := none
  wire : Nat → Reply := fun _ => {}

namespace DxlTask

variable (t : DxlTask) (cfg : RobotConfig)

/-- The task at its start, with whatever is in the globals. -/
def boot : DxlTask := { t with arming := {}, arming_ready := false }

def onBus {α : Type} (t : DxlTask) (op : BusM α) : α × DxlTask :=
  ((op t.bus).1, { t with bus := (op t.bus).2 })

/-! ## Readiness -/

def configuredIds : List UInt8 := cfg.servos.toList.map ServoConfig.id

def configuredServoCoverageFromBus : Bool :=
  t.bus.servoCount ≥ kNumServos && (configuredIds cfg).all fun id => (t.bus.profileById id).isSome

def statuses : List ServoStatus := t.servo_status.toList.take t.servo_status_count

def configuredPoseMaskFromStatus : UInt32 :=
  (configuredIds cfg).zipIdx.foldl (fun mask (id, index) =>
    if t.statuses.any fun s => s.id == id && s.ok then mask ||| servoBit index else mask) 0

def publishServoReadiness : DxlTask :=
  { t with
    configured_servo_coverage := t.configuredServoCoverageFromBus cfg
    pose_known_mask := t.configuredPoseMaskFromStatus cfg }

def clearServoStatusSnapshot : DxlTask :=
  { t with
    servo_status_count := 0
    pose_known_mask := 0
    arming_ready := false
    servo_status := .replicate _ {} }

def buildConfiguredHoldTargets : Option (List GoalTarget) :=
  if t.configuredPoseMaskFromStatus cfg != kAllServoPosesKnown then none
  else buildHoldTargets (configuredIds cfg) t.statuses

/-! ## Arming -/

inductive ArmingStep where
  | idle
  | torqueOff (acked : Nat) (verified : Bool)
  | writeHold (hold : List GoalTarget) (written : Bool)
  | torqueOn (acked : Nat) (verified : Bool)
  deriving DecidableEq, Repr

structure ArmingCycle where
  /-- The discovery was finished with full coverage when it came to the status reads. -/
  discovered : Bool := false
  /-- The entry whose status was read with success, and its id. -/
  status_read : Option (Nat × UInt8) := none
  step : ArmingStep := .idle
  deriving DecidableEq, Repr

/-- The bus has lost its power: it is switched on and arming starts over. -/
def powerUp (now_ms : UInt32) : DxlTask :=
  if t.power_on then t
  else
    { t with
      power_on := t.power_control
      arming := { t.arming.reset with power_on_ms := now_ms } }.clearServoStatusSnapshot

def startDiscovery : DxlTask :=
  if t.arming.discovery_started then t
  else if t.configuredServoCoverageFromBus cfg then
    { t with arming := { t.arming with discovery_finished := true } }
  else
    { t with
      bus := t.bus.beginDiscovery
      configured_servo_coverage := false
      arming :=
        { t.arming with discovery_index := 0, discovery_started := true
                        discovery_finished := false } }.clearServoStatusSnapshot

/-- Looks for one configured servo; one that is found is made limp. -/
def discoverOne (id : UInt8) : BusM Unit := do
  if ← DxlBus.discoverId id then
    let bus ← get
    match bus.profileById id with
    | none => return
    | some _ =>
      let _acked ← DxlBus.setTorqueOne id false
      return

def discoverNext : DxlTask :=
  if t.arming.discovery_started && !t.arming.discovery_finished then
    let t := (t.onBus (discoverOne ((configuredIds cfg).getD t.arming.discovery_index 0))).2
    let index := t.arming.discovery_index + 1
    { t with
      arming :=
        { t.arming with
          discovery_index := index
          discovery_finished := t.arming.discovery_finished || index ≥ kNumServos }
      }.publishServoReadiness cfg
  else if !t.arming.discovery_started then t.publishServoReadiness cfg
  else t

/-- The first discovered servo whose status is still to be read. -/
def nextStatus : Option Nat :=
  (List.range t.bus.servoCount).find? fun i => t.arming.status_checked_mask &&& servoBit i == 0

def readStatusOf (i : Nat) : DxlTask × Option (Nat × UInt8) :=
  let profile := t.bus.profile i
  let (read, t) := t.onBus (DxlBus.readStatus profile.id)
  let t := { t with servo_status := t.servo_status.setIfInBounds i { read.2 with id := profile.id } }
  if read.1 then
    ({ t with
      fault_monitor := t.fault_monitor.observe i profile.table_kind read.2.hardware_error
      arming :=
        { t.arming with status_checked_mask := t.arming.status_checked_mask ||| servoBit i }
      servo_status_count := t.bus.servoCount }.publishServoReadiness cfg, some (i, profile.id))
  else (t, none)

def checkStatus : DxlTask × Option (Nat × UInt8) :=
  if t.arming.discovery_finished && t.configured_servo_coverage &&
      t.arming.status_checked_mask != kAllServoPosesKnown then
    match t.nextStatus with
    | none => (t, none)
    | some i => t.readStatusOf cfg i
  else (t, none)

def torqueOffVerified : BusM (Nat × Bool) := do
  let acked ← DxlBus.setTorqueAll false
  if acked == kNumServos then return (acked, ← DxlBus.verifyTorque false (← get).servoCount)
  else return (acked, false)

/-- `verifyDiscoveredTorqueOn`, after an acknowledgement by every servo. -/
def verifyTorqueOn (acked : Nat) : BusM Bool := do
  if acked == kNumServos then
    let count := (← get).servoCount
    let on ← DxlBus.verifyTorque true count
    return on && count == kNumServos
  else return false

/-- Torque on on every servo, read back; all are switched off again when one is not on. -/
def torqueOnVerified : BusM (Nat × Bool) := do
  let acked ← DxlBus.setTorqueAll true
  let verified ← verifyTorqueOn acked
  if verified then return (acked, true)
  else
    let _acked ← DxlBus.setTorqueAll false
    return (acked, false)

/-- The hold targets are written; nothing is written when there are none. -/
def writeHold : Option (List GoalTarget) → BusM Bool
  | none => return false
  | some hold => DxlBus.writeGoalPositions hold

/-- The last part of the arming branch: at most one of torque off, hold targets and torque on. -/
def advance : DxlTask × ArmingStep :=
  let status_checked := t.arming.status_checked_mask == kAllServoPosesKnown
  let poses_known := t.pose_known_mask == kAllServoPosesKnown
  if status_checked && poses_known && !t.fault_monitor.faulted &&
      !t.arming.torque_off_verified then
    let (out, t) := t.onBus torqueOffVerified
    ({ t with arming := { t.arming with torque_off_verified := out.2 } }, .torqueOff out.1 out.2)
  else if t.arming.torque_off_verified && !t.arming.hold_seeded then
    let hold := t.buildConfiguredHoldTargets cfg
    let (written, t) := t.onBus (writeHold hold)
    ({ t with arming := { t.arming with hold_seeded := written } },
      .writeHold (hold.getD []) written)
  else if t.arming.hold_seeded && !t.arming_ready then
    let (out, t) := t.onBus torqueOnVerified
    if out.2 then ({ t with arming_ready := true }, .torqueOn out.1 true)
    else
      ({ t with
        arming :=
          { t.arming with torque_off_verified := false, hold_seeded := false
                          status_checked_mask := 0 } }.clearServoStatusSnapshot,
        .torqueOn out.1 false)
  else (t, .idle)

/-- The arming branch once the servos have booted. -/
def bringUp : DxlTask × ArmingCycle :=
  let t := (t.startDiscovery cfg).discoverNext cfg
  let discovered := t.arming.discovery_finished && t.configured_servo_coverage
  let (t, status_read) := t.checkStatus cfg
  let (t, step) := t.advance cfg
  (t, { discovered, status_read, step })

def arm (now_ms : UInt32) : DxlTask × ArmingCycle :=
  let t := t.powerUp now_ms
  if now_ms - t.arming.power_on_ms ≥ kServoBootDelayMs then t.bringUp cfg else (t, {})

def notArming : DxlTask := { t with arming := t.arming.reset, arming_ready := false }

/-! ## The rest of the cycle -/

def cutPower (live_state : State) : DxlTask :=
  if t.power_on && !stateAllowsDxlPower live_state then
    { t with power_on := false }.clearServoStatusSnapshot
  else t

/-- Every servo is switched off on the falling edge of the authority. -/
def gateTorque (authorized : Bool) : DxlTask :=
  let t := if !authorized && t.prev_authorized && t.bus.servoCount > 0 then
    (t.onBus (DxlBus.setTorqueAll false)).2 else t
  if authorized then t else { t with torque_seed_pending := false }

/-- On the rising edge of the authority the torque is to be enabled, but not in maintenance. -/
def raiseSeed (authorized maint_authority : Bool) : DxlTask :=
  if authorized && !t.prev_authorized && t.bus.servoCount > 0 && !maint_authority then
    { t with torque_seed_pending := true }
  else t

/-- The measured positions are latched as goals before the torque is enabled. -/
def enableTorque : DxlTask :=
  let (written, t) := t.onBus (writeHold (t.buildConfiguredHoldTargets cfg))
  if written then
    let (acked, t) := t.onBus (DxlBus.setTorqueAll true)
    if acked == kNumServos then { t with torque_seed_pending := false, torque_enable_fault := false }
    else { (t.onBus (DxlBus.setTorqueAll false)).2 with torque_enable_fault := true }
  else t

def seedTorque (authorized maint_authority : Bool) : DxlTask :=
  let t := t.raiseSeed authorized maint_authority
  if authorized && t.torque_seed_pending && t.bus.servoCount > 0 then t.enableTorque cfg else t

def releaseEach (released : UInt32) : List Nat → BusM Unit
  | [] => return
  | i :: rest => do
    let profile := (← get).profile i
    if released &&& servoBit i != 0 && profile.torque_enabled then
      let _acked ← DxlBus.setTorqueOne profile.id false
    releaseEach released rest

def keepReleased (live_state : State) : DxlTask :=
  if !t.power_on || live_state != .macMaintenance then
    { t with maintenance_released_mask := 0, maintenance_direct_goal_mask := 0 }
  else if t.maintenance_released_mask != 0 then
    (t.onBus (releaseEach t.maintenance_released_mask (List.range t.bus.servoCount))).2
  else t

def publishTorqueOff : DxlTask :=
  { t with
    torque_off := torqueOffConfirmed t.power_on t.configured_servo_coverage
      (t.bus.servoCount > 0 && t.bus.allTorqueOff) }

/-- The servo with this id has its bit in the mask. -/
def inServoMask (mask : UInt32) (id : UInt8) : Bool :=
  match t.bus.ids.idxOf? id with
  | none => false
  | some i => mask &&& servoBit i != 0

/-- `maintenanceServoReleased` and `maintenanceServoDirect`. -/
def heldBack (maint_authority : Bool) (id : UInt8) : Bool :=
  maint_authority && (t.inServoMask t.maintenance_released_mask id ||
    t.inServoMask t.maintenance_direct_goal_mask id)

def writeGoals (authorized maint_authority : Bool) (frame : Option (List GoalTarget)) : DxlTask :=
  if authorized && !t.torque_seed_pending && t.bus.servoCount > 0 then
    let targets := (frame.getD []).filter fun target => !t.heldBack maint_authority target.id
    if targets.isEmpty then t else (t.onBus (DxlBus.writeGoalPositions targets)).2
  else t

/-- The full status of one servo after another. -/
def readDetail : DxlTask :=
  let rr := if t.rr_servo ≥ t.bus.servoCount then 0 else t.rr_servo
  let profile := t.bus.profile rr
  let (read, t) := t.onBus (DxlBus.readStatus profile.id)
  { t with
    servo_status := t.servo_status.setIfInBounds rr { read.2 with id := profile.id }
    fault_monitor :=
      if read.1 then t.fault_monitor.observe rr profile.table_kind read.2.hardware_error
      else t.fault_monitor
    rr_servo := rr + 1 }

def readPosition : Bool × DxlTask :=
  let (out, t) := t.onBus (DxlBus.syncReadStatus t.servo_status)
  (out.1 > 0,
    { t with
      servo_status := out.2
      servo_status_count := if out.1 > 0 then t.bus.servoCount else t.servo_status_count })

/-- The hard fault of a powered bus, after a read. -/
def noteRead (read : Bool) : DxlTask :=
  let zero_reads : UInt16 :=
    if read then 0
    else if t.consec_zero_reads < (0xFFFF : UInt16) then t.consec_zero_reads + 1
    else t.consec_zero_reads
  { t with
    consec_zero_reads := zero_reads
    hard_fault := t.torque_enable_fault || t.fault_monitor.faulted || zero_reads ≥ kDxlBusFailLimit }

def noteIdleBus : DxlTask :=
  let t := if t.power_on then t else { t with torque_enable_fault := false, fault_monitor := {} }
  { t with consec_zero_reads := 0, hard_fault := t.torque_enable_fault }

def refreshStatus (arming : Bool) : DxlTask :=
  let arming_reads_ready :=
    !arming || (t.arming.discovery_finished && t.configured_servo_coverage)
  if t.bus.servoCount > 0 && t.power_on && arming_reads_ready then
    let (read, t) := t.readPosition
    let t := if read && !arming then t.readDetail else t
    t.noteRead read
  else t.noteIdleBus

def finish (inp : DxlInput) : DxlTask :=
  let maint_authority := inp.command_source == CommandSource.macMaintenance.wire
  let t := (t.publishServoReadiness inp.config).cutPower inp.live_state
  let t := (t.gateTorque inp.motion_gate).seedTorque inp.config inp.motion_gate maint_authority
  let t := { t.keepReleased inp.live_state with prev_authorized := inp.motion_gate }.publishTorqueOff
  let t := t.writeGoals inp.motion_gate maint_authority inp.goal_frame
  (t.refreshStatus (inp.live_state == .armingChecks)).publishServoReadiness inp.config

def cycle (t : DxlTask) (inp : DxlInput) : DxlTask × ArmingCycle :=
  let t := { t with bus := { t.bus with wire := inp.wire, sent := 0 } }
  let (t, arming) :=
    if inp.live_state == .armingChecks then t.arm inp.config inp.now_ms else (t.notArming, {})
  (t.finish inp, arming)

end DxlTask

end HexapodVerified.App
