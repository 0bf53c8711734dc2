import HexapodVerified.Lib.Bytes
import HexapodVerified.Lib.PastTime
import HexapodVerified.Lib.Runs
import HexapodVerified.Lib.Tables

/-!
# The record of a fatal fault

`safety/fault_capture.cpp` on the board: a fault leaves a record in memory that a reset keeps, the next start
copies it, and it is cleared when it has been persisted. The chip can be reset after any store. What switches
the servos off is not modelled, nor is a loss of the memory's own power.
-/

namespace HexapodVerified.Safety.FaultCapture

open Bytes PastTime Tables Transition

inductive FatalReason where
  | none | hardFault | stackOverflow | mallocFailed

def FatalReason.code : FatalReason → UInt8
  | .none => 0
  | .hardFault => 1
  | .stackOverflow => 2
  | .mallocFailed => 3

inductive StartupStage where
  | reset | setupEntered | boardInitialized | serialStarted | appStarting | schedulerStarting | tasksRunning

def StartupStage.code : StartupStage → UInt8
  | .reset => 0
  | .setupEntered => 1
  | .boardInitialized => 2
  | .serialStarted => 3
  | .appStarting => 4
  | .schedulerStarting => 5
  | .tasksRunning => 6

/-- The registers are `r0` to `r3`, `r12`, `lr`, `pc` and `xpsr`; the enumerations are bytes. -/
structure Snapshot where
  reason : UInt8 := FatalReason.none.code
  stage : UInt8 := StartupStage.reset.code
  task_name : Vector UInt8 16 := .replicate 16 0
  stack_pointer : UInt32 := 0
  exception_return : UInt32 := 0
  registers : Vector UInt32 8 := .replicate 8 0
  deriving DecidableEq

structure RetainedFaultRecord where
  magic : UInt32
  magic_inverse : UInt32
  version_reason_stage : UInt32
  task_name : Vector UInt8 16
  stack_pointer : UInt32
  exception_return : UInt32
  registers : Vector UInt32 8
  checksum : UInt32
  checksum_inverse : UInt32

def kRetainedMagic : UInt32 := 0x464C5431
def kRecordVersion : UInt32 := 1
def kSramStart : UInt32 := 0x20000000
def kSramEnd : UInt32 := 0x20008000

def recordChecksum (record : RetainedFaultRecord) : UInt32 :=
  let checksum := (List.range 4).foldl (fun sum i => sum ^^^ getU32 (record.task_name.toList.drop (4 * i)))
    (0xA5C35A3C ^^^ record.version_reason_stage)
  record.registers.toList.foldl (· ^^^ ·) (checksum ^^^ record.stack_pointer ^^^ record.exception_return)

def retainedValid (record : RetainedFaultRecord) : Bool :=
  record.magic == kRetainedMagic && record.magic_inverse == ~~~kRetainedMagic &&
    record.checksum_inverse == ~~~record.checksum && recordChecksum record == record.checksum

/-! ## The stores of a fault -/

/-- What `writeRecord` is given; `frame` is what the pointer points to. -/
structure Fault where
  reason : FatalReason
  task_name : Option (List UInt8) := none
  frame : Option (Vector UInt32 8) := none
  stack_pointer : UInt32
  exception_return : UInt32 := 0

def faultCaptureHardFaultC (stack_pointer : UInt32) (memory : Vector UInt32 8) (exc_return : UInt32) : Fault where
  reason := .hardFault
  frame := if stack_pointer &&& 3 == 0 && stack_pointer ≥ kSramStart && stack_pointer ≤ kSramEnd - 32 then
    some memory else none
  stack_pointer := stack_pointer
  exception_return := exc_return

def vApplicationStackOverflowHook (task_name : Option (List UInt8)) (stack_pointer : UInt32) : Fault :=
  { reason := .stackOverflow, task_name, stack_pointer }

def vApplicationMallocFailedHook (stack_pointer : UInt32) : Fault := { reason := .mallocFailed, stack_pointer }

/-- The bytes of the name that are stored. -/
def Fault.name (fault : Fault) : List UInt8 := ((fault.task_name.getD []).take 15).takeWhile (· ≠ 0)

def Fault.words (fault : Fault) : Vector UInt32 8 := fault.frame.getD (.replicate 8 0)

abbrev Store := RetainedFaultRecord → RetainedFaultRecord

def inName (f : Vector UInt8 16 → Vector UInt8 16) : Store := fun r => { r with task_name := f r.task_name }
def inRegisters (f : Vector UInt32 8 → Vector UInt32 8) : Store := fun r => { r with registers := f r.registers }

def clearWord (i : Nat) (name : Vector UInt8 16) : Vector UInt8 16 :=
  .ofFn fun k => if k.val / 4 = i then 0 else name[k.val]

def header (reason : FatalReason) (stage : StartupStage) : UInt32 :=
  kRecordVersion ||| (reason.code.toUInt32 <<< 8) ||| (stage.code.toUInt32 <<< 16)

/-- The stores of `writeRecord` between its two to `magic`. -/
def body (fault : Fault) (stage : StartupStage) : List Store :=
  [fun r => { r with magic_inverse := 0 }, fun r => { r with version_reason_stage := header fault.reason stage }] ++
  ((List.range 4).map clearWord).map inName ++
  (fault.name.zipIdx.map fun c name => name.setIfInBounds c.2 c.1).map inName ++
  [fun r => { r with stack_pointer := fault.stack_pointer },
    fun r => { r with exception_return := fault.exception_return }] ++
  (fault.words.toList.zipIdx.map fun w words => words.setIfInBounds w.2 w.1).map inRegisters ++
  [fun r => { r with checksum := recordChecksum r }, fun r => { r with checksum_inverse := ~~~r.checksum },
    fun r => { r with magic_inverse := ~~~kRetainedMagic }]

def writeRecord (fault : Fault) (stage : StartupStage) : List Store :=
  (fun r => { r with magic := 0 }) :: (body fault stage ++ [fun r => { r with magic := kRetainedMagic }])

def acknowledgePersisted : List Store := [fun r => { r with magic := 0 }, fun r => { r with magic_inverse := 0 }]

/-- What `init` takes from a valid record. -/
def adopt (record : RetainedFaultRecord) : Snapshot where
  reason := ((record.version_reason_stage >>> 8) &&& 0xFF).toUInt8
  stage := ((record.version_reason_stage >>> 16) &&& 0xFF).toUInt8
  task_name := copyInto (record.task_name.toList.take 15) (.replicate 16 0)
  stack_pointer := record.stack_pointer
  exception_return := record.exception_return
  registers := copyInto record.registers.toList (.replicate 8 0)

structure Memory where
  g_retainedFault : RetainedFaultRecord
  g_lastSnapshot : Snapshot := {}
  g_currentStage : StartupStage := .reset

/-- A fault ends in a reset; the number says how many stores are made before one. -/
inductive Call where
  | init
  | markStartupStage (stage : StartupStage)
  | fault (fault : Fault) (stores : Nat)
  | acknowledgePersisted (stores : Nat)
  | reset

def call (m : Memory) : Call → Memory
  | .init => { m with
      g_lastSnapshot := if retainedValid m.g_retainedFault then adopt m.g_retainedFault else {}
      g_currentStage := .setupEntered }
  | .markStartupStage stage => { m with g_currentStage := stage }
  | .fault fault stores => { g_retainedFault := cutOff (writeRecord fault m.g_currentStage) stores m.g_retainedFault }
  | .acknowledgePersisted stores =>
    let g_retainedFault := cutOff acknowledgePersisted stores m.g_retainedFault
    if stores < acknowledgePersisted.length then { g_retainedFault } else { m with g_retainedFault }
  | .reset => { g_retainedFault := m.g_retainedFault }

/-! ## What a start finds -/

/-- What is known of a fault. -/
def Fault.snapshot (fault : Fault) (stage : StartupStage) : Snapshot where
  reason := fault.reason.code
  stage := stage.code
  task_name := .ofFn fun k => (fault.name[k.val]?).getD 0
  stack_pointer := fault.stack_pointer
  exception_return := fault.exception_return
  registers := fault.words

/-- What `init` would find. -/
def found (record : RetainedFaultRecord) : Option Snapshot :=
  if retainedValid record then some (adopt record) else none

/-- The fault that is to be found: the last one, when it was written to the end and not acknowledged since. -/
def kept (start : Option Snapshot) : List (Event Memory Call) → Option Snapshot
  | [] => start
  | ⟨m, .fault fault stores, _⟩ :: earlier =>
    if stores = 0 then kept start earlier
    else if stores < (writeRecord fault m.g_currentStage).length then none
    else some (fault.snapshot m.g_currentStage)
  | ⟨_, .acknowledgePersisted stores, _⟩ :: earlier => if stores = 0 then kept start earlier else none
  | _ :: earlier => kept start earlier

theorem fields_header (reason : FatalReason) (stage : StartupStage) :
    ((header reason stage >>> 8) &&& 0xFF).toUInt8 = reason.code ∧
      ((header reason stage >>> 16) &&& 0xFF).toUInt8 = stage.code := by
  cases reason <;> cases stage <;> decide

theorem cleared (name : Vector UInt8 16) :
    (List.range 4).foldl (fun name i => clearWord i name) name = .replicate 16 0 := by
  refine Vector.ext fun i hi => ?_
  have hword : i / 4 = 3 ∨ i / 4 = 2 ∨ i / 4 = 1 ∨ i / 4 = 0 := by omega
  rcases hword with h | h | h | h <;> simp [List.range_succ, clearWord, h, -Nat.div_eq_zero_iff]

/-- What a fault leaves, beside the seal. -/
def payload (fault : Fault) (stage : StartupStage) (r : RetainedFaultRecord) : RetainedFaultRecord :=
  { r with
    version_reason_stage := header fault.reason stage
    task_name := copyInto fault.name (.replicate 16 0)
    stack_pointer := fault.stack_pointer
    exception_return := fault.exception_return
    registers := fault.words }

theorem written (fault : Fault) (stage : StartupStage) {stores : Nat} (r : RetainedFaultRecord)
    (hall : (writeRecord fault stage).length ≤ stores) : cutOff (writeRecord fault stage) stores r =
      { payload fault stage r with
        magic := kRetainedMagic
        magic_inverse := ~~~kRetainedMagic
        checksum := recordChecksum (payload fault stage r)
        checksum_inverse := ~~~recordChecksum (payload fault stage r) } := by
  have hname := foldl_part inName (fun _ => rfl) (fun _ _ _ => rfl)
  have hregisters := foldl_part inRegisters (fun _ => rfl) (fun _ _ _ => rfl)
  unfold cutOff
  rw [List.take_of_length_le hall]
  unfold writeRecord body
  simp only [List.foldl_cons, List.foldl_append, List.foldl_nil, hname, hregisters]
  simp only [inName, inRegisters, List.foldl_map, cleared]
  rw [show fault.words.toList.zipIdx.foldl (fun words w => words.setIfInBounds w.2 w.1) r.registers = fault.words
    from copyInto_self ..]
  rfl

theorem copied_name (fault : Fault) :
    copyInto ((copyInto fault.name (.replicate 16 0)).toList.take 15) (.replicate 16 0) =
      Vector.ofFn fun k : Fin 16 => (fault.name[k.val]?).getD 0 := by
  have hlen : fault.name.length ≤ 15 := (List.takeWhile_prefix _).length_le.trans (List.length_take_le ..)
  refine Vector.ext fun i hi => ?_
  have hfirst := copyInto_get fault.name (.replicate 16 0) ⟨i, hi⟩
  have hcopy := copyInto_get ((copyInto fault.name (.replicate 16 0)).toList.take 15) (.replicate 16 0) ⟨i, hi⟩
  refine Eq.trans hcopy ?_
  rw [Vector.getElem_ofFn, List.getElem?_take]
  split_ifs with hlast
  · simpa [hi, Vector.get] using hfirst
  · rw [List.getElem?_eq_none (by omega)]
    exact Vector.getElem_replicate hi

theorem zero_ne : ¬ (0 : UInt32) = kRetainedMagic := by decide

theorem found_of_broken {r : RetainedFaultRecord} (hbroken : ¬ r.magic = kRetainedMagic) : found r = none := by
  unfold found retainedValid
  rw [beq_eq_false_iff_ne.mpr hbroken]
  rfl

theorem magic_body (fault : Fault) (stage : StartupStage) :
    ∀ store ∈ body fault stage, ∀ r, (store r).magic = r.magic := by
  intro store hmem r
  simp only [body, List.mem_append, List.mem_cons, List.not_mem_nil, or_false, List.mem_map] at hmem
  rcases hmem with ((((((rfl | rfl) | ⟨f, -, rfl⟩) | ⟨f, -, rfl⟩) | rfl | rfl) | ⟨f, -, rfl⟩) | rfl | rfl | rfl)
  all_goals rfl

theorem found_fault (fault : Fault) (stage : StartupStage) (stores : Nat) (r : RetainedFaultRecord) :
    found (cutOff (writeRecord fault stage) stores r) =
      if stores = 0 then found r
      else if stores < (writeRecord fault stage).length then none
      else some (fault.snapshot stage) := by
  split_ifs with hzero hcut
  · rw [hzero]
    rfl
  · have hkeep : ∀ store ∈ body fault stage, ∀ r, (store r).magic = kRetainedMagic → r.magic = kRetainedMagic :=
      fun store hmem r hsealed => (magic_body fault stage store hmem r).symm.trans hsealed
    exact found_of_broken (cutOff_broken (fun r => r.magic = kRetainedMagic) (fun _ => zero_ne) hkeep hzero hcut r)
  · rw [written fault stage r (not_lt.mp hcut)]
    obtain ⟨hreason, hstage⟩ := fields_header fault.reason stage
    have hvalid : retainedValid { payload fault stage r with
        magic := kRetainedMagic
        magic_inverse := ~~~kRetainedMagic
        checksum := recordChecksum (payload fault stage r)
        checksum_inverse := ~~~recordChecksum (payload fault stage r) } = true := by
      simp [retainedValid]
      rfl
    unfold found
    rw [if_pos hvalid]
    unfold adopt payload Fault.snapshot
    simp only [hreason, hstage, copied_name, copyInto_self]

theorem found_acknowledge (stores : Nat) (r : RetainedFaultRecord) :
    found (cutOff acknowledgePersisted stores r) = if stores = 0 then found r else none := by
  split_ifs with hzero
  · rw [hzero]
    rfl
  · refine found_of_broken ?_
    obtain ⟨k, rfl⟩ := Nat.exists_eq_succ_of_ne_zero hzero
    rcases k with _ | _ | k <;> exact zero_ne

/-- Wherever the stores of faults and acknowledgements are cut off, a start finds the last fault when that was
written to the end and not acknowledged, and otherwise nothing. -/
theorem init_finds_kept (start : RetainedFaultRecord) {h : List (Event Memory Call)} {m : Memory}
    (run : Run (Deterministic call) { g_retainedFault := start } h m) :
    Historically (fun e earlier => e.label = .init →
      e.post.g_lastSnapshot = (kept (found start) earlier).getD {}) h := by
  have hall : found m.g_retainedFault = kept (found start) h ∧
      Historically (fun e earlier => e.label = .init →
        e.post.g_lastSnapshot = (kept (found start) earlier).getD {}) h := by
    refine run.history_invariant (fun h m => found m.g_retainedFault = kept (found start) h ∧
      Historically (fun e earlier => e.label = .init →
        e.post.g_lastSnapshot = (kept (found start) earlier).getD {}) h) ⟨rfl, trivial⟩ ?_
    rintro h m c next - ⟨hfound, hbefore⟩ rfl
    refine ⟨?_, ?_, hbefore⟩
    · cases c with
      | init | markStartupStage | reset => exact hfound
      | fault fault stores =>
        refine (found_fault ..).trans ?_
        rw [hfound]
        rfl
      | acknowledgePersisted stores =>
        unfold call
        dsimp only
        split_ifs <;>
        · refine (found_acknowledge ..).trans ?_
          rw [hfound]
          rfl
    · rintro rfl
      rw [← hfound]
      unfold found
      cases hvalid : retainedValid m.g_retainedFault <;> simp [call, hvalid]
  exact hall.2

/-- A hard fault that is cut off, a stack overflow that is recorded and acknowledged, and no memory. -/
def faultCalls : List Call :=
  [.init, .fault (faultCaptureHardFaultC 0x20001000 (.replicate 8 0) 0) 20, .init, .markStartupStage .tasksRunning,
    .fault (vApplicationStackOverflowHook (some [82, 67]) 0x20001000) 40, .init, .acknowledgePersisted 2, .reset,
    .fault (vApplicationMallocFailedHook 0x20001000) 40, .init]

def emptyRecord : RetainedFaultRecord := ⟨0, 0, 0, .replicate 16 0, 0, 0, .replicate 8 0, 0, 0⟩

theorem init_finds_kept_overflow : Historically (fun e earlier => e.label = .init →
    e.post.g_lastSnapshot = (kept (found emptyRecord) earlier).getD {})
      (executeHistory call { g_retainedFault := emptyRecord } [] faultCalls) :=
  init_finds_kept emptyRecord (run_execute call faultCalls .nil)

end HexapodVerified.Safety.FaultCapture
