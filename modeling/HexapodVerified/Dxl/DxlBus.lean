import HexapodVerified.Config.ConfigSchema

/-!
# The DYNAMIXEL bus

`dxl/dxl_bus.cpp` with the parts of `dxl_model.cpp`, `dxl_status.h`, `hold_targets.cpp` and
`dxl_fault_monitor.cpp` that the bus task uses. What the servos answer is not known: every transaction
takes the next reply from the wire, whatever it is. Statistics, the last error code, the cooperative
service hook and the output guard are left out: the guard's checks block torque and goal writes only in
a build without outputs.
-/

namespace HexapodVerified.Dxl

open HexapodVerified.Config

/-! ## Servos -/

inductive TableKind where
  | unknown | mx28Legacy | mx28V2
  deriving DecidableEq, Repr

abbrev kModelMx28Legacy : UInt16 := 29
abbrev kModelMx28_2 : UInt16 := 30

def tableKindFromModel (model_number : UInt16) : TableKind :=
  if model_number == kModelMx28Legacy then .mx28Legacy
  else if model_number == kModelMx28_2 then .mx28V2
  else .unknown

/-- `ServoProfile` without the capability flags. -/
structure ServoProfile where
  id : UInt8 := 0
  protocol_version : UInt8 := 0
  table_kind : TableKind := .unknown
  torque_enabled : Bool := false
  deriving DecidableEq, Repr

structure ServoStatus where
  id : UInt8 := 0
  present_position : Int32 := 0
  present_velocity : Int32 := 0
  present_load : Int32 := 0
  present_voltage_mv : UInt16 := 0
  present_temperature_c : Int8 := 0
  hardware_error : UInt8 := 0
  torque_enabled : Bool := false
  ok : Bool := false
  deriving DecidableEq, Repr

structure GoalTarget where
  id : UInt8 := 0
  tick : UInt16 := 2048
  deriving DecidableEq, Repr

/-! ## The bus -/

/-- `DxlBus::kMaxServos`. -/
abbrev kMaxServos : Nat := kNumServos
abbrev kMaxServoId : UInt8 := 252

structure Reply where
  /-- The servo answered, without a library error. -/
  ok : Bool := true
  value : Int32 := 0
  /-- The error bits of the status packet. -/
  error : UInt8 := 0

/-- `DxlBus`: the table of discovered servos, and the replies to the transactions to come. -/
structure DxlBus where
  ready : Bool := true
  servos : Vector ServoProfile kMaxServos := .replicate _ {}
  count : Fin (kMaxServos + 1) := 0
  status_rr : Nat := 0
  /-- `DXL_MAX_NODE` of the library. -/
  max_node : Nat := kMaxServos
  wire : Nat → Reply := fun _ => {}
  sent : Nat := 0

/-- `DxlBus{}`. -/
def DxlBus.new : DxlBus := {}

abbrev BusM := StateM DxlBus

namespace DxlBus

variable (bus : DxlBus)

def servoCount : Nat := bus.count.val

def profile (index : Nat) : ServoProfile := bus.servos.getD index {}

def discovered : List ServoProfile := bus.servos.toList.take bus.count.val

def ids : List UInt8 := bus.discovered.map ServoProfile.id

def profileById (id : UInt8) : Option ServoProfile := bus.discovered.find? (·.id == id)

def allTorqueOff : Bool := bus.discovered.all fun p => !p.torque_enabled

def transact : BusM Reply := fun bus => (bus.wire bus.sent, { bus with sent := bus.sent + 1 })

/-- The tries of `ping`, with the protocols in the order of the source. -/
def pingTries (id : UInt8) : List UInt8 → BusM (Option ServoProfile)
  | [] => return none
  | protocol_version :: rest => do
    let pinged ← transact
    if !pinged.ok then pingTries id rest
    else
      let model_number ← transact
      let _firmware_version ← transact
      let torque ← transact
      return some
        { id, protocol_version
          table_kind := tableKindFromModel model_number.value.toUInt32.toUInt16
          torque_enabled := torque.value != 0 }

def ping (id : UInt8) : BusM (Option ServoProfile) := do
  let bus ← get
  if !bus.ready || id > kMaxServoId then return none
  else pingTries id [1, 2, 1, 2]

def beginDiscovery : DxlBus := { bus with count := 0, status_rr := 0 }

def insert (p : ServoProfile) : DxlBus :=
  if h : bus.count.val < kMaxServos then
    { bus with
      servos := bus.servos.setIfInBounds bus.count.val p
      count := ⟨bus.count.val + 1, Nat.succ_lt_succ h⟩ }
  else bus

def discoverId (id : UInt8) : BusM Bool := do
  let bus ← get
  if !bus.ready || bus.count.val ≥ kMaxServos || id > kMaxServoId then return false
  else if (bus.profileById id).isSome then return true
  else
    match ← ping id with
    | none => return false
    | some p =>
      modify (insert · p)
      return true

/-! ## Status -/

/-- The value of a field of a status; a field that was not read keeps its default. -/
def fieldOf (r : Reply) : Int32 := if r.ok then r.value else 0

/-- The alarm bits of a field that was read. -/
def alarmsOf (r : Reply) : UInt8 := if r.ok then r.error else 0

/-- `readStatus`: whether the position could be read, and the status. -/
def readStatus (id : UInt8) : BusM (Bool × ServoStatus) := do
  let bus ← get
  if !bus.ready then return (false, { id })
  else
    let p := bus.profileById id
    let is_mx2 := p.any fun p => p.table_kind == .mx28V2
    let is_protocol1 := p.all fun p => p.protocol_version == 1
    let position ← transact
    if !position.ok then return (false, { id })
    else
      let velocity ← transact
      let load ← transact
      let voltage ← transact
      let temperature ← transact
      let alarms := if is_protocol1 then
        alarmsOf position ||| alarmsOf velocity ||| alarmsOf load ||| alarmsOf voltage |||
          alarmsOf temperature else 0
      let hardware_error ← if is_mx2 then do
          let hardware ← transact
          pure (if hardware.ok then hardware.value.toUInt32.toUInt8 else alarms)
        else pure alarms
      let torque ← transact
      return (true,
        { id
          present_position := position.value
          present_velocity := fieldOf velocity
          present_load := fieldOf load
          present_voltage_mv := (fieldOf voltage * 100).toUInt32.toUInt16
          present_temperature_c := (fieldOf temperature).toUInt32.toUInt8.toInt8
          hardware_error
          torque_enabled := torque.value != 0
          ok := true })

/-- `decodePosition` of `dxl_sync.cpp`, from the bytes as one word. -/
def decodePosition (kind : TableKind) (v : Int32) : Int32 :=
  if kind == .mx28V2 then v else v.toUInt32.toUInt16.toUInt32.toInt32

def retried : BusM Reply := do
  let first ← transact
  if first.ok then return first else transact

/-- `syncReadStatus` with room for all servos: the number of servos read, and the snapshot. -/
def syncReadStatus (out : Vector ServoStatus kMaxServos) : BusM (Nat × Vector ServoStatus kMaxServos) :=
  do
  let bus ← get
  if !bus.ready || bus.servoCount == 0 then return (0, out)
  else
    let out := Vector.ofFn fun i : Fin kMaxServos =>
      if i.val < bus.servoCount then { out.get i with id := (bus.profile i.val).id } else out.get i
    let index := if bus.status_rr ≥ bus.servoCount then 0 else bus.status_rr
    modify fun bus => { bus with status_rr := index + 1 }
    let r ← retried
    let old := out.getD index {}
    if r.ok then
      let position := decodePosition (bus.profile index).table_kind r.value
      return (1, out.setIfInBounds index { old with present_position := position, ok := true })
    else return (0, out.setIfInBounds index { old with ok := false })

/-! ## Torque and goals -/

def setTorqueFlag (index : Nat) (on : Bool) : DxlBus :=
  { bus with
    servos := bus.servos.setIfInBounds index { bus.profile index with torque_enabled := on } }

/-- One round of `setTorqueAll`. -/
def setTorqueAt (on : Bool) (index : Nat) : BusM Bool := do
  let r ← retried
  if r.ok then
    modify (setTorqueFlag · index on)
    return true
  else return false

def setTorqueEach (on : Bool) : List Nat → BusM Nat
  | [] => return 0
  | index :: rest => do
    let ok ← setTorqueAt on index
    let acked ← setTorqueEach on rest
    return if ok then acked + 1 else acked

/-- `setTorqueAll`: the number of servos that acknowledged. -/
def setTorqueAll (on : Bool) : BusM Nat := do
  let bus ← get
  if !bus.ready then return 0 else setTorqueEach on (List.range bus.servoCount)

def setTorqueOne (id : UInt8) (on : Bool) : BusM Bool := do
  let bus ← get
  if !bus.ready then return false
  else
    let r ← transact
    if r.ok then
      match bus.ids.idxOf? id with
      | none => return true
      | some index =>
        modify (setTorqueFlag · index on)
        return true
    else return false

/-- `torqueState`: `none` when the read failed. -/
def torqueState : BusM (Option Bool) := do
  let bus ← get
  if !bus.ready then return none
  else
    let r ← transact
    return if r.ok then some (r.value != 0) else none

/-- The torque states of the discovered servos are read until one is not as wanted. -/
def verifyTorque (on : Bool) : Nat → BusM Bool
  | 0 => return true
  | n + 1 => do
    let state ← torqueState
    if state == some on then verifyTorque on n else return false

/-- The Sync Writes of `writeGoalPositions`, one for each chunk. -/
def syncWrites : List (List GoalTarget) → BusM Bool
  | [] => return true
  | _ :: rest => do
    let r ← transact
    let all_ok ← syncWrites rest
    return r.ok && all_ok

def ofKind (targets : List GoalTarget) (kind : TableKind) : List GoalTarget :=
  targets.filter fun target => (bus.profileById target.id).any fun p => p.table_kind == kind

def writeGoalPositions (targets : List GoalTarget) : BusM Bool := do
  let bus ← get
  if !bus.ready || targets.isEmpty then return false
  else
    let legacy := (bus.ofKind targets .mx28Legacy).toChunks bus.max_node
    let v2 := (bus.ofKind targets .mx28V2).toChunks bus.max_node
    syncWrites (legacy ++ v2)

end DxlBus

/-! ## Hold targets and servo faults -/

/-- `buildHoldTargets`: the measured positions as goals, if there is a good one for every id. -/
def buildHoldTargets (ids : List UInt8) (statuses : List ServoStatus) : Option (List GoalTarget) :=
  ids.mapM fun id => do
    let s ← statuses.find? (·.id == id)
    if !s.ok || s.present_position < 0 || s.present_position > kServoMaxTick.toUInt32.toInt32 then none
    else some { id, tick := s.present_position.toUInt32.toUInt16 }

/-- `torqueOffConfirmed`. -/
def torqueOffConfirmed (power_enabled configured_coverage all_discovered_off : Bool) : Bool :=
  !power_enabled || (configured_coverage && all_discovered_off)

/-- `FaultMonitor`. -/
structure FaultMonitor where
  streak : Vector UInt8 kNumServos := .replicate _ 0
  faulted : Bool := false
  deriving DecidableEq, Repr

abbrev kPersistentSamples : UInt8 := 3

def FaultMonitor.reset (_ : FaultMonitor) : FaultMonitor := {}

/-- The error bits that stop at once. -/
def immediateMask : TableKind → UInt8
  | .mx28V2 => 0x1C
  | _ => 0x04

/-- The error bits that stop when they repeat. -/
def persistentMask : TableKind → UInt8
  | .mx28V2 => 0x21
  | _ => 0x23

def FaultMonitor.observe (m : FaultMonitor) (servo_index : Nat) (table_kind : TableKind)
    (error_bits : UInt8) : FaultMonitor :=
  if m.faulted || servo_index ≥ kNumServos then m
  else if error_bits &&& immediateMask table_kind != 0 then { m with faulted := true }
  else if error_bits &&& persistentMask table_kind == 0 then
    { m with streak := m.streak.setIfInBounds servo_index 0 }
  else
    let old := m.streak.getD servo_index 0
    let streak := if old < 0xFF then old + 1 else old
    { streak := m.streak.setIfInBounds servo_index streak
      faulted := streak ≥ kPersistentSamples }

end HexapodVerified.Dxl
