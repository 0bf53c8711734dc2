import HexapodVerified.Lib.Runs
import HexapodVerified.Protocol.ControlApi

/-!
# Servo maintenance

`DxlJobQueue` of `protocol/dxl_job_api.cpp`: one slot that hands a job from `apiTask` (`submit`, `poll`)
to `dxlTask` (`claim`, `complete`) and its result back. A call of either task is one step.
-/

namespace HexapodVerified.Protocol

open Bytes Transition

namespace Dxljob

/-- `Type`, the kind of a job. -/
inductive JobType where
  | none | scan | ping | torque | getProfile | getParam | setParam | setLimits | readReg | writeReg
  | power
  deriving DecidableEq, Repr

inductive Slot where
  | empty | pending | running | done
  deriving DecidableEq, Repr

inductive Code where
  | ok | notFound | powerOff | busError | unsupported | verifyFailed | outputDisabled
  deriving DecidableEq, Repr

abbrev kMaxResult : Nat := 160

end Dxljob

open Dxljob

structure DxlJobRequest where
  type : JobType := .none
  arg0 : UInt8 := 0
  arg1 : UInt8 := 0
  param : UInt8 := 0
  val_a : Int32 := 0
  val_b : Int32 := 0
  deriving DecidableEq, Repr

structure DxlJobResult where
  code : Code := .ok
  len : UInt8 := 0
  data : Vector UInt8 kMaxResult := .replicate _ 0
  deriving DecidableEq, Repr

/-- The defaults are those of `reset`. -/
structure DxlJobQueue where
  slot : Slot := .empty
  job_id : UInt8 := 0
  next_id : UInt8 := 0
  req : DxlJobRequest := {}
  result : DxlJobResult := {}
  deriving DecidableEq, Repr

/-- `data ? data[i] : 0`; the buffer behind a pointer that is not null has at least the bytes that the
length passed with it promises. -/
def resultByte (data : Option (List UInt8)) (i : Nat) : UInt8 :=
  match data with
  | some data => data.getD i 0
  | none => 0

/-- The loop of `complete`. -/
def writeData (old : Vector UInt8 kMaxResult) (data : Option (List UInt8)) (len : Nat) :
    Vector UInt8 kMaxResult :=
  (List.range len).foldl (fun d i => d.setIfInBounds i (resultByte data i)) old

namespace DxlJobQueue

/-- The id of the next job: 0 is skipped when the counter wraps. -/
def nextJobId (q : DxlJobQueue) : UInt8 :=
  if q.next_id + 1 = 0 then 1 else q.next_id + 1

/-- `none` when a job is in flight, else the id of the job. -/
def submit (q : DxlJobQueue) (req : DxlJobRequest) : DxlJobQueue × Option UInt8 :=
  if q.slot ≠ .empty ∧ q.slot ≠ .done then (q, none)
  else
    ({ q with req := req, next_id := q.nextJobId, job_id := q.nextJobId, slot := .pending },
      some q.nextJobId)

/-- `out` is only written when the job is done. -/
def poll (q : DxlJobQueue) (job_id : UInt8) (out : DxlJobResult) : Slot × DxlJobResult :=
  if job_id = 0 ∨ job_id ≠ q.job_id then (.empty, out)
  else if q.slot = .done then (q.slot, q.result)
  else (q.slot, out)

/-- `none` when there is no pending job. -/
def claim (q : DxlJobQueue) : DxlJobQueue × Option (DxlJobRequest × UInt8) :=
  if q.slot ≠ .pending then (q, none)
  else ({ q with slot := .running }, some (q.req, q.job_id))

def complete (q : DxlJobQueue) (job_id : UInt8) (code : Code) (data : Option (List UInt8))
    (len : UInt8) : DxlJobQueue :=
  if q.slot ≠ .running ∨ job_id ≠ q.job_id then q
  else
    let len := if len.toNat > kMaxResult then UInt8.ofNat kMaxResult else len
    { q with
      result := { code := code, len := len, data := writeData q.result.data data len.toNat }
      slot := .done }

end DxlJobQueue

inductive QueueCall where
  | submit (req : DxlJobRequest)
  | poll (job_id : UInt8) (out : DxlJobResult)
  | claim
  | complete (job_id : UInt8) (code : Code) (data : Option (List UInt8)) (len : UInt8)
  deriving DecidableEq, Repr

inductive QueueAnswer where
  | submit (job_id : Option UInt8)
  | poll (slot : Slot) (out : DxlJobResult)
  | claim (job : Option (DxlJobRequest × UInt8))
  | complete
  deriving DecidableEq, Repr

def DxlJobQueue.step (q : DxlJobQueue) : QueueCall → DxlJobQueue × QueueAnswer
  | .submit req => ((q.submit req).1, .submit (q.submit req).2)
  | .poll job_id out => (q, .poll (q.poll job_id out).1 (q.poll job_id out).2)
  | .claim => (q.claim.1, .claim q.claim.2)
  | .complete job_id code data len => (q.complete job_id code data len, .complete)

abbrev QueueEvent := Event DxlJobQueue (QueueCall × QueueAnswer)

/-- From the queue as `reset` leaves it, the calls recorded in `h` lead to `q`. -/
abbrev QueueRun : List QueueEvent → DxlJobQueue → Prop := Run (WithOutput DxlJobQueue.step) {}

/-!
## The servo maintenance commands

`DxlJobApi` of `protocol/dxl_job_api.cpp`: a command is checked and becomes a job in the queue, and a poll
brings the result back. Only the poll is answered outside of maintenance.
-/

namespace Dxlmsg

abbrev kScan : UInt8 := 0x60
abbrev kPing : UInt8 := 0x61
abbrev kTorque : UInt8 := 0x62
abbrev kGetServoProfile : UInt8 := 0x63
abbrev kGetResult : UInt8 := 0x64
abbrev kGetParam : UInt8 := 0x65
abbrev kSetParam : UInt8 := 0x66
abbrev kSetServoLimits : UInt8 := 0x67
abbrev kReadRegister : UInt8 := 0x68
abbrev kWriteRegister : UInt8 := 0x69
abbrev kPower : UInt8 := 0x6A
abbrev kFirst : UInt8 := 0x60
abbrev kLast : UInt8 := 0x6F

def isDxlMsg (id : UInt8) : Bool := id ≥ kFirst && id ≤ kLast

end Dxlmsg

namespace Dxljob

def Slot.wire : Slot → UInt8
  | .empty => 0
  | .pending => 1
  | .running => 2
  | .done => 3

def Code.wire : Code → UInt8
  | .ok => 0
  | .notFound => 1
  | .powerOff => 2
  | .busError => 3
  | .unsupported => 4
  | .verifyFailed => 5
  | .outputDisabled => 6

end Dxljob

inductive DxlSubmit where
  | accepted | rejected | busy | badRequest
  deriving DecidableEq, Repr

def DxlSubmit.wire : DxlSubmit → UInt8
  | .accepted => 0
  | .rejected => 1
  | .busy => 2
  | .badRequest => 3

/-- The defaults are those of `reset`. -/
structure DxlJobApi where
  queue : DxlJobQueue := {}
  live_state : UInt8 := 0
  lock_held : Bool := false
  raw_register_enabled : Bool := false
  deriving DecidableEq, Repr

/-- A signed 32-bit integer, low byte first. -/
def readI32 (p : List UInt8) : Int32 := (getU32 p).toInt32

/-- `case kScan`: without a range all identifiers are scanned. -/
def scanJob (req : List UInt8) : Except DxlSubmit DxlJobRequest :=
  let first := if req.length ≥ 1 then req.getD 0 0 else 1
  let last := if req.length ≥ 2 then req.getD 1 0 else if req.length = 1 then req.getD 0 0 else 252
  if first = 0 ∨ last < first then .error .badRequest
  else .ok { type := .scan, arg0 := first, arg1 := last }

/-- `case kPing` and `case kGetServoProfile`: a job on one servo. -/
def servoJob (type : JobType) (req : List UInt8) : Except DxlSubmit DxlJobRequest :=
  if req.length < 1 ∨ req.getD 0 0 = 0 then .error .badRequest
  else .ok { type, arg0 := req.getD 0 0 }

/-- `case kTorque` and `case kPower`: a switch. -/
def switchJob (type : JobType) (req : List UInt8) : Except DxlSubmit DxlJobRequest :=
  if req.length < 1 then .error .badRequest
  else .ok { type, arg0 := if req.getD 0 0 != 0 then 1 else 0 }

/-- `case kGetParam`. -/
def getParamJob (req : List UInt8) : Except DxlSubmit DxlJobRequest :=
  if req.length < 2 ∨ req.getD 0 0 = 0 then .error .badRequest
  else .ok { type := .getParam, arg0 := req.getD 0 0, param := req.getD 1 0 }

/-- `case kSetParam`. -/
def setParamJob (req : List UInt8) : Except DxlSubmit DxlJobRequest :=
  if req.length < 6 ∨ req.getD 0 0 = 0 then .error .badRequest
  else
    .ok
      { type := .setParam, arg0 := req.getD 0 0, param := req.getD 1 0
        val_a := readI32 (req.drop 2) }

/-- `case kSetServoLimits`. -/
def setLimitsJob (req : List UInt8) : Except DxlSubmit DxlJobRequest :=
  if req.length < 9 ∨ req.getD 0 0 = 0 then .error .badRequest
  else
    let lo := readI32 (req.drop 1)
    let hi := readI32 (req.drop 5)
    if hi < lo then .error .badRequest
    else .ok { type := .setLimits, arg0 := req.getD 0 0, val_a := lo, val_b := hi }

/-- A register has one, two or four bytes. -/
def registerLen (len : UInt8) : Bool := len == 1 || len == 2 || len == 4

/-- `case kReadRegister`. -/
def readRegisterJob (enabled : Bool) (req : List UInt8) : Except DxlSubmit DxlJobRequest :=
  if !enabled then .error .rejected
  else if req.length < 4 ∨ req.getD 0 0 = 0 then .error .badRequest
  else if !registerLen (req.getD 3 0) then .error .badRequest
  else
    .ok
      { type := .readReg, arg0 := req.getD 0 0, param := req.getD 3 0
        val_a := (getU16 (req.drop 1)).toUInt32.toInt32 }

/-- `case kWriteRegister`. -/
def writeRegisterJob (enabled : Bool) (req : List UInt8) : Except DxlSubmit DxlJobRequest :=
  if !enabled then .error .rejected
  else if req.length < 9 ∨ req.getD 0 0 = 0 then .error .badRequest
  else if !registerLen (req.getD 3 0) then .error .badRequest
  else
    .ok
      { type := .writeReg, arg0 := req.getD 0 0, arg1 := req.getD 8 0, param := req.getD 3 0
        val_a := (getU16 (req.drop 1)).toUInt32.toInt32
        val_b := readI32 (req.drop 4) }

namespace DxlJobApi

abbrev kMacMaintenanceState : UInt8 := 8

def gateOpen (api : DxlJobApi) : Bool := api.lock_held && api.live_state == kMacMaintenanceState

def writeSubmit (r : DxlSubmit) (job_id : UInt8) (slot : Slot) (out_cap : Nat) : Reply :=
  if out_cap < 3 then { out := [DxlSubmit.badRequest.wire], out_flags := 0x02 }
  else
    { out := [r.wire, job_id, slot.wire]
      out_flags := if r = .accepted then 0x00 else 0x02 }

/-- `if (msg_id == dxlmsg::kGetResult)`. A finished job has at most `kMaxResult` bytes of data, since
`complete` clamps them. -/
def handleGetResult (api : DxlJobApi) (req : List UInt8) (out_cap : Nat) : Reply :=
  if req.length < 1 then { out := [Slot.empty.wire, Code.ok.wire, 0], out_flags := 0x02 }
  else
    let (s, res) := api.queue.poll (req.getD 0 0) {}
    if s = .done then
      let n := min res.len.toNat (out_cap - 3)
      { out := [s.wire, res.code.wire, UInt8.ofNat n] ++ res.data.toList.take n }
    else { out := [s.wire, Code.ok.wire, 0] }

/-- The switch over the commands that submit a job; `none` for an unassigned number. -/
def requestedJob (api : DxlJobApi) (msg_id : UInt8) (req : List UInt8) :
    Option (Except DxlSubmit DxlJobRequest) :=
  if msg_id = Dxlmsg.kScan then some (scanJob req)
  else if msg_id = Dxlmsg.kPing then some (servoJob .ping req)
  else if msg_id = Dxlmsg.kTorque then some (switchJob .torque req)
  else if msg_id = Dxlmsg.kGetServoProfile then some (servoJob .getProfile req)
  else if msg_id = Dxlmsg.kGetParam then some (getParamJob req)
  else if msg_id = Dxlmsg.kSetParam then some (setParamJob req)
  else if msg_id = Dxlmsg.kSetServoLimits then some (setLimitsJob req)
  else if msg_id = Dxlmsg.kReadRegister then some (readRegisterJob api.raw_register_enabled req)
  else if msg_id = Dxlmsg.kWriteRegister then some (writeRegisterJob api.raw_register_enabled req)
  else if msg_id = Dxlmsg.kPower then some (switchJob .power req)
  else none

/-- The job is put into the queue, if that is free. -/
def submitJob (api : DxlJobApi) (job : DxlJobRequest) (out_cap : Nat) : DxlJobApi × Reply :=
  match api.queue.submit job with
  | (queue, none) => ({ api with queue }, writeSubmit .busy 0 queue.slot out_cap)
  | (queue, some job_id) => ({ api with queue }, writeSubmit .accepted job_id .pending out_cap)

/-- `handle`; no reply when it returns false. -/
def handle (api : DxlJobApi) (msg_id : UInt8) (req : List UInt8) (out_cap : Nat) :
    DxlJobApi × Option Reply :=
  if !Dxlmsg.isDxlMsg msg_id then (api, none)
  else if msg_id = Dxlmsg.kGetResult then (api, some (api.handleGetResult req out_cap))
  else if !api.gateOpen then (api, some (writeSubmit .rejected 0 .empty out_cap))
  else
    match api.requestedJob msg_id req with
    | none => (api, none)
    | some (.error r) => (api, some (writeSubmit r 0 .empty out_cap))
    | some (.ok job) => (api.submitJob job out_cap).map id some

end DxlJobApi

end HexapodVerified.Protocol
