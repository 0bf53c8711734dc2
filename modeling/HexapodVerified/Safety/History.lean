import HexapodVerified.Lib.PastTime
import HexapodVerified.Lib.Runs
import HexapodVerified.Lib.WrappedTime
import HexapodVerified.Safety.StateMachine

/-!
# Histories of the safety state machine

The vocabulary for talking about a run of the machine: its events, which of them are updates, what
an update was asked to do. A run starts from a configured machine that has just been reset and
interleaves `update` calls with `requestClearFault` calls in any order.
-/

namespace HexapodVerified.Safety

open PastTime Transition

/-- One call made on a state machine, with the machine before and after it. -/
abbrev CallEvent := Event StateMachine Call

/-- `MachineRun p h m`: from reset under the parameters `p`, the calls recorded in `h` (latest
first) lead to the machine `m`. -/
abbrev MachineRun (p : StateParams) : List CallEvent → StateMachine → Prop :=
  Run (Deterministic StateMachine.call) { params := p }

/-- The event is an update satisfying `P`. -/
def OnUpdate (P : StateMachine → StateInputs → UInt32 → Prop) (e : CallEvent) : Prop :=
  match e.label with
  | .update inp now_ms => P e.pre inp now_ms
  | .requestClearFault => False

/-- If the event is an update, it satisfies `P`. -/
def WhenUpdate (P : StateMachine → StateInputs → UInt32 → Prop) (e : CallEvent) : Prop :=
  match e.label with
  | .update inp now_ms => P e.pre inp now_ms
  | .requestClearFault => True

section

variable {P : StateMachine → StateInputs → UInt32 → Prop} {m m' : StateMachine}
  {inp : StateInputs} {now_ms : UInt32}

@[simp] theorem onUpdate_update : OnUpdate P ⟨m, .update inp now_ms, m'⟩ ↔ P m inp now_ms := Iff.rfl

@[simp] theorem onUpdate_clear : ¬ OnUpdate P ⟨m, .requestClearFault, m'⟩ := id

@[simp] theorem whenUpdate_update : WhenUpdate P ⟨m, .update inp now_ms, m'⟩ ↔ P m inp now_ms :=
  Iff.rfl

@[simp] theorem whenUpdate_clear : WhenUpdate P ⟨m, .requestClearFault, m'⟩ := trivial

instance [∀ m inp now_ms, Decidable (P m inp now_ms)] : DecidablePred (OnUpdate P)
  | ⟨m, .update inp now_ms, _⟩ => inferInstanceAs (Decidable (P m inp now_ms))
  | ⟨_, .requestClearFault, _⟩ => isFalse id

end

/-- An invariant of history and machine that `requestClearFault` and every update extend holds
after every run. -/
theorem MachineRun.history_invariant {p : StateParams} {h : List CallEvent} {m : StateMachine}
    (J : List CallEvent → StateMachine → Prop) (hinit : J [] { params := p })
    (hclear : ∀ h m, MachineRun p h m → J h m →
      J (⟨m, .requestClearFault, m.requestClearFault⟩ :: h) m.requestClearFault)
    (hupdate : ∀ h m inp now_ms, MachineRun p h m → J h m →
      J (⟨m, .update inp now_ms, m.update inp now_ms⟩ :: h) (m.update inp now_ms))
    (run : MachineRun p h m) : J h m := by
  refine Run.history_invariant J hinit ?_ run
  rintro h m c m' hrun hJ rfl
  cases c with
  | update inp now_ms => exact hupdate h m inp now_ms hrun hJ
  | requestClearFault => exact hclear h m hrun hJ

theorem MachineRun.post_eq {p : StateParams} {h : List CallEvent} {m : StateMachine}
    (run : MachineRun p h m) {e : CallEvent} (he : e ∈ h) : e.post = e.pre.call e.label :=
  (run.of_mem he).1

/-! ## The way up -/

def armingInputs : StateInputs :=
  { config_loaded := true, rc_armed := true, arming_checks_pass := true, battery_valid := true,
    battery_mv := 11100 }

/-- The first two updates after a reset: they load the configuration and end in `Disarmed`. -/
def bootCalls : List Call := [.update {} 1, .update { config_loaded := true } 2]

/-- From reset to `StandReady`: boot, release the arm switch, raise it, pass the checks. -/
def armingCalls : List Call :=
  bootCalls ++ [.update {} 3, .update armingInputs 4, .update armingInputs 5]

/-! ## Runs by the clock

The times of `update` are the lower 32 bits of a clock that never goes back. In a run by the clock every
update carries the whole time, so that a span of time can be told from what the machine sees of it. -/

inductive TimedCall where
  | update (inp : StateInputs) (time : Nat)
  | requestClearFault
  deriving DecidableEq

def TimedCall.call : TimedCall → Call
  | .update inp time => .update inp (UInt32.ofNat time)
  | .requestClearFault => .requestClearFault

def StateMachine.timedCall (m : StateMachine) (c : TimedCall) : StateMachine := m.call c.call

abbrev TimedEvent : Type := Event StateMachine TimedCall

abbrev TimedRun (p : StateParams) : List TimedEvent → StateMachine → Prop :=
  Run (Deterministic StateMachine.timedCall) { params := p }

def updateTime (e : TimedEvent) : Option Nat :=
  match e.label with
  | .update _ time => some time
  | .requestClearFault => none

def updateInputs (e : TimedEvent) : Option StateInputs :=
  match e.label with
  | .update inp _ => some inp
  | .requestClearFault => none

def latestTime (h : List TimedEvent) : Option Nat := (h.filterMap updateTime).head?

def NotEarlier (e : TimedEvent) (h : List TimedEvent) : Prop :=
  ∀ now ∈ updateTime e, ∀ x ∈ h, ∀ time ∈ updateTime x, time ≤ now

instance (e : TimedEvent) (h : List TimedEvent) : Decidable (NotEarlier e h) :=
  inferInstanceAs (Decidable (∀ now ∈ updateTime e, ∀ x ∈ h, ∀ time ∈ updateTime x, time ≤ now))

/-- The clock never goes back. -/
abbrev Increasing (h : List TimedEvent) : Prop := Historically NotEarlier h

variable {p : StateParams} {h : List TimedEvent} {m : StateMachine}

theorem TimedRun.history_invariant (J : List TimedEvent → StateMachine → Prop) (hinit : J [] { params := p })
    (hclear : ∀ h m, TimedRun p h m → J h m →
      J (⟨m, .requestClearFault, m.requestClearFault⟩ :: h) m.requestClearFault)
    (hupdate : ∀ h m inp time, TimedRun p h m → J h m →
      J (⟨m, .update inp time, m.update inp (UInt32.ofNat time)⟩ :: h)
        (m.update inp (UInt32.ofNat time)))
    (run : TimedRun p h m) : J h m := by
  refine Run.history_invariant J hinit ?_ run
  rintro h m c m' hrun hJ rfl
  cases c with
  | update inp time => exact hupdate h m inp time hrun hJ
  | requestClearFault => exact hclear h m hrun hJ

end HexapodVerified.Safety
