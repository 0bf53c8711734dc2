import HexapodVerified.Safety.History
import HexapodVerified.Safety.Proofs.UpdateProofs

/-!
# Stops

The conditions behind the E-stop reasons, stated on the inputs and the machine before the update,
and the link to the chain of tests in which `update` looks for them.
-/

namespace HexapodVerified.Safety

open Transition PastTime

/-- An RC kill or failsafe is ignored during maintenance recovery from a stale failsafe. -/
def FailsafeRecovery (inp : StateInputs) : Prop :=
  inp.maintenance_failsafe_recovery = true ∧ inp.maintenance_request = true ∧
    inp.mac_lock_held = true ∧ inp.rc_ever_seen = true ∧ inp.rc_kill = true ∧
    inp.rc_failsafe = true

/-- The stop inputs: a DXL hard fault, a host E-stop, an RC kill, a watchdog fault, or a lost RC link
in an operational state. -/
def StopInput (m : StateMachine) (inp : StateInputs) : Prop :=
  inp.dxl_hard_fault = true ∨ inp.host_estop = true ∨
    (inp.rc_kill = true ∧ inp.rc_ever_seen = true ∧ ¬ FailsafeRecovery inp) ∨
    inp.watchdog_fault = true ∨
    (inp.rc_failsafe = true ∧ inp.rc_ever_seen = true ∧ isOperational m.state = true ∧
      ¬ FailsafeRecovery inp)

def BatteryLow (m : StateMachine) (inp : StateInputs) (now_ms : UInt32) : Prop :=
  inp.battery_valid = true ∧ inp.battery_mv < m.params.battery_min_mv ∧
    m.params.battery_low_debounce_ms.toUInt32 ≤
      now_ms - if m.batt_low_active = true then m.batt_low_since_ms else now_ms

/-- The condition behind each E-stop reason. A lost link keeps an E-stop that is already there. -/
def SourceActive (m : StateMachine) (inp : StateInputs) (now_ms : UInt32) : FaultReason → Prop
  | .hostEstop => inp.host_estop = true
  | .rcKill => inp.rc_kill = true ∧ inp.rc_ever_seen = true ∧ ¬ FailsafeRecovery inp
  | .batteryLow => BatteryLow m inp now_ms
  | .watchdog => inp.watchdog_fault = true
  | .rcLinkLost => inp.rc_failsafe = true ∧ inp.rc_ever_seen = true ∧
      (isOperational m.state = true ∨ m.state = .estop) ∧ ¬ FailsafeRecovery inp
  | _ => False

/-- A stop source is active: a DXL hard fault or any E-stop condition. -/
def StopActive (m : StateMachine) (inp : StateInputs) (now_ms : UInt32) : Prop :=
  inp.dxl_hard_fault = true ∨ ∃ r, SourceActive m inp now_ms r

/-- The order of the E-stop reasons, the most urgent first. -/
def priority : FaultReason → Nat
  | .hostEstop => 0
  | .rcKill => 1
  | .batteryLow => 2
  | .watchdog => 3
  | .rcLinkLost => 4
  | _ => 5

namespace StateMachine

variable {m : StateMachine} {inp : StateInputs} {now_ms : UInt32}

theorem failsafeRecovery_iff :
    FailsafeRecovery inp ↔ staleFailsafeMaintenanceRecovery inp = true := by
  simp only [FailsafeRecovery, staleFailsafeMaintenanceRecovery, Bool.and_eq_true, and_assoc]

theorem battUnsafe_iff :
    ((m.requireArmRelease inp).trackBattery inp now_ms).battUnsafe now_ms = true ↔
      BatteryLow m inp now_ms := by
  have hlow : (m.requireArmRelease inp).battLowNow inp = m.battLowNow inp := rfl
  have hactive : (m.requireArmRelease inp).batt_low_active = m.batt_low_active := rfl
  have hsince : (m.requireArmRelease inp).batt_low_since_ms = m.batt_low_since_ms := rfl
  simp only [battUnsafe, trackBattery, hlow, hactive, hsince, BatteryLow, Bool.and_eq_true,
    decide_eq_true_eq, requireArmRelease_params]
  cases hl : m.battLowNow inp with
  | false =>
    simp only [Bool.false_eq_true, false_and, false_iff, not_and]
    simp only [battLowNow, Bool.and_eq_false_iff, decide_eq_false_iff_not] at hl
    intro hv hlt
    rcases hl with hl | hl
    · exact absurd hv (by simp [hl])
    · exact absurd hlt hl
  | true =>
    simp only [battLowNow, Bool.and_eq_true, decide_eq_true_eq] at hl
    cases m.batt_low_active <;> simp [hl]

open Classical in
theorem stopReason_eq : m.stopReason inp now_ms =
    if SourceActive m inp now_ms .hostEstop then .hostEstop
    else if SourceActive m inp now_ms .rcKill then .rcKill
    else if SourceActive m inp now_ms .batteryLow then .batteryLow
    else if SourceActive m inp now_ms .watchdog then .watchdog
    else if SourceActive m inp now_ms .rcLinkLost then .rcLinkLost
    else .none := by
  have hkill : (inp.rc_kill && inp.rc_ever_seen && !staleFailsafeMaintenanceRecovery inp) = true ↔
      SourceActive m inp now_ms .rcKill := by
    simp only [SourceActive, failsafeRecovery_iff, Bool.and_eq_true, Bool.not_eq_true', and_assoc,
      Bool.not_eq_true]
  have hlink : ((m.requireArmRelease inp).trackBattery inp now_ms).failsafeStop inp = true ↔
      SourceActive m inp now_ms .rcLinkLost := by
    simp only [failsafeStop, SourceActive, failsafeRecovery_iff, Bool.and_eq_true,
      Bool.not_eq_true', and_assoc, Bool.not_eq_true, trackBattery_state, requireArmRelease_state,
      Bool.or_eq_true, beq_iff_eq]
  have hbatt : ((m.requireArmRelease inp).trackBattery inp now_ms).battUnsafe now_ms = true ↔
      SourceActive m inp now_ms .batteryLow := battUnsafe_iff
  have hhost : inp.host_estop = true ↔ SourceActive m inp now_ms .hostEstop := Iff.rfl
  have hwatch : inp.watchdog_fault = true ↔ SourceActive m inp now_ms .watchdog := Iff.rfl
  unfold stopReason estopReason
  simp only [hkill, hlink, hbatt, hhost, hwatch]

theorem stopReason_spec (hr : m.stopReason inp now_ms ≠ .none) :
    SourceActive m inp now_ms (m.stopReason inp now_ms) ∧
      ∀ r, SourceActive m inp now_ms r → priority (m.stopReason inp now_ms) ≤ priority r := by
  rw [stopReason_eq] at hr ⊢
  by_cases h0 : SourceActive m inp now_ms .hostEstop
  · rw [if_pos h0]
    exact ⟨h0, fun r _ => Nat.zero_le _⟩
  by_cases h1 : SourceActive m inp now_ms .rcKill
  · rw [if_neg h0, if_pos h1]
    refine ⟨h1, fun r hr => ?_⟩
    cases r <;> first | exact absurd hr h0 | simp [priority]
  by_cases h2 : SourceActive m inp now_ms .batteryLow
  · rw [if_neg h0, if_neg h1, if_pos h2]
    refine ⟨h2, fun r hr => ?_⟩
    cases r <;> first | exact absurd hr h0 | exact absurd hr h1 | simp [priority]
  by_cases h3 : SourceActive m inp now_ms .watchdog
  · rw [if_neg h0, if_neg h1, if_neg h2, if_pos h3]
    refine ⟨h3, fun r hr => ?_⟩
    cases r <;>
      first | exact absurd hr h0 | exact absurd hr h1 | exact absurd hr h2 | simp [priority]
  by_cases h4 : SourceActive m inp now_ms .rcLinkLost
  · rw [if_neg h0, if_neg h1, if_neg h2, if_neg h3, if_pos h4]
    refine ⟨h4, fun r hr => ?_⟩
    cases r <;>
      first
      | exact absurd hr h0 | exact absurd hr h1 | exact absurd hr h2 | exact absurd hr h3
      | simp [priority]
  · rw [if_neg h0, if_neg h1, if_neg h2, if_neg h3, if_neg h4] at hr
    exact absurd rfl hr

theorem not_sourceActive (hr : m.stopReason inp now_ms = .none) (r : FaultReason) :
    ¬ SourceActive m inp now_ms r := by
  intro ha
  rw [stopReason_eq] at hr
  split_ifs at hr with h0 h1 h2 h3 h4
  cases r <;> first | exact h0 ha | exact h1 ha | exact h2 ha | exact h3 ha | exact h4 ha | exact ha

theorem sourceActive_of_stopInput (now_ms : UInt32) (hf : inp.dxl_hard_fault = false) (hin : StopInput m inp) :
    ∃ r, SourceActive m inp now_ms r := by
  rcases hin with h | h | h | h | ⟨hl, hs, ho, hx⟩
  · simp [hf] at h
  · exact ⟨.hostEstop, h⟩
  · exact ⟨.rcKill, h⟩
  · exact ⟨.watchdog, h⟩
  · exact ⟨.rcLinkLost, hl, hs, .inl ho, hx⟩

/-- Under a stop input `update` sees a hard fault or computes a reason. -/
theorem stopReason_of_stopInput (hf : inp.dxl_hard_fault = false) (hin : StopInput m inp) :
    m.stopReason inp now_ms ≠ .none := by
  intro hr
  obtain ⟨r, hactive⟩ := sourceActive_of_stopInput now_ms hf hin
  exact not_sourceActive hr r hactive

theorem stopActive_iff :
    StopActive m inp now_ms ↔ inp.dxl_hard_fault = true ∨ m.stopReason inp now_ms ≠ .none := by
  unfold StopActive
  by_cases hr : m.stopReason inp now_ms = .none
  · simp only [hr, ne_eq, not_true_eq_false, or_false, or_iff_left_iff_imp]
    rintro ⟨r, ha⟩
    exact absurd ha (not_sourceActive hr r)
  · simp only [ne_eq, hr, not_false_eq_true, or_true, iff_true]
    exact .inr ⟨_, (stopReason_spec hr).1⟩

instance : Decidable (StopActive m inp now_ms) := decidable_of_iff' _ stopActive_iff

/-- An update ends in `Estop` only by computing a reason, which it then reports. -/
theorem update_eq_estop (he : (m.update inp now_ms).state = .estop) :
    m.stopReason inp now_ms ≠ .none ∧
      (m.update inp now_ms).reason = m.stopReason inp now_ms := by
  obtain ⟨s, clear, latch, hs, -, -, ho⟩ := update_ends he
  cases ho with
  | stopped hf hm hr => exact ⟨hr, update_stop_reason hf hm hr⟩
  | progressed hf hr hi hd hp =>
    cases hp with
    | armed hm =>
      rcases armedNext_cases inp hm with ⟨-, hn⟩ | ⟨-, hn⟩
      · rw [hn] at hs
        cases hs
      · rw [hs] at hn
        cases hn
    | _ => cases hs
  | _ => cases hs

end StateMachine

/-!
## Stop dominance

What a run of the state machine can never do: leave a hard fault or an E-stop other than through
their exits, reach an armed state without the arming checks, or ignore a stop input. The one update
that does ignore a stop input is the one that consumes a clear request in `FaultHard`.
-/

namespace StateMachine

variable {m : StateMachine} {inp : StateInputs} {now_ms : UInt32}

/-- A DXL hard fault always ends in `FaultHard`. -/
theorem update_of_hardFault (hf : inp.dxl_hard_fault = true) :
    (m.update inp now_ms).state = .faultHard := by
  obtain ⟨s, clear, latch, hs, -, -, ho⟩ := m.update_cases inp now_ms
  rw [hs]
  cases ho <;> simp_all

/-- Without a DXL hard fault, `FaultHard` is left exactly by consuming a pending clear request. -/
theorem update_of_faultHard (now_ms : UInt32) (hm : m.state = .faultHard) (hf : inp.dxl_hard_fault = false) :
    (m.clear_fault_requested = true ∧ (m.update inp now_ms).state = .disarmed) ∨
      (m.clear_fault_requested = false ∧ (m.update inp now_ms).state = .faultHard) := by
  unfold update
  cases hc : m.clear_fault_requested <;>
    simp [hf, hm, hc, fallToDisarmed]

/-- `Estop` is left for `Disarmed` or `FaultHard` only. -/
theorem update_of_estop (hm : m.state = .estop) :
    (m.update inp now_ms).state = .estop ∨ (m.update inp now_ms).state = .disarmed ∨
      (m.update inp now_ms).state = .faultHard := by
  obtain ⟨s, clear, latch, hs, -, -, ho⟩ := m.update_cases inp now_ms
  rw [hs]
  cases ho with
  | hardFault | hardFaultHeld => exact .inr (.inr rfl)
  | hardFaultCleared | estopReleased | idleDisarmed | hostDisarmed => exact .inr (.inl rfl)
  | stopped => exact .inl rfl
  | progressed hf hr hi hh hp => cases hp <;> simp_all [idleDisarmEligible]

/-- A host disarm never leaves the robot operational, in maintenance or streaming its pose. -/
theorem update_of_hostDisarm (m : StateMachine) (now_ms : UInt32) (hh : inp.host_disarm = true) :
    hostDisarmDrops (m.update inp now_ms).state = false := by
  obtain ⟨s, clear, latch, hs, -, -, ho⟩ := m.update_cases inp now_ms
  rw [hs]
  cases ho with
  | progressed hf hr hi hd hp =>
    have hd' : hostDisarmDrops m.state = false := by simpa [hh] using hd
    cases hp with
    | armed he =>
      -- an armed state is one of those that drop
      cases hm : m.state <;> simp [hm, idleDisarmEligible, hostDisarmDrops] at he hd'
    | _ => simp_all [hostDisarmDrops]
  | _ => rfl

/-- The armed states are entered from `ArmingChecks` when its checks pass, and are kept only while
the arm switch is up. -/
theorem update_eligible (he : idleDisarmEligible (m.update inp now_ms).state = true) :
    inp.rc_armed = true ∧ (idleDisarmEligible m.state = true ∨
      m.state = .armingChecks ∧ inp.arming_checks_pass = true ∧ m.batteryReady inp = true ∧
        (m.update inp now_ms).state = .standReady) := by
  obtain ⟨s, clear, latch, hs, -, -, ho⟩ := m.update_cases inp now_ms
  rw [hs] at he ⊢
  cases ho with
  | progressed hf hr hi hd hp =>
    cases hp with
    | armingPassed hm ha hc hb => exact ⟨ha, .inr ⟨hm, hc, hb, rfl⟩⟩
    | armed hm =>
      rcases armedNext_cases inp hm with ⟨-, hn⟩ | ⟨ha, -⟩
      · rw [hn] at he
        cases he
      · exact ⟨ha, .inl hm⟩
    | _ => cases he
  | _ => cases he

end StateMachine

section Histories

variable {p : StateParams} {h : List CallEvent} {m : StateMachine}

theorem MachineRun.params_eq (run : MachineRun p h m) : m.params = p := by
  refine MachineRun.history_invariant (fun _ m => m.params = p) rfl ?_ ?_ run
  · intro h m _ hp
    exact hp
  · intro h m inp now_ms _ hp
    rw [StateMachine.update_params, hp]

/-- The update passed the arming checks: in `ArmingChecks`, with the arm switch up, the checks
passing and a valid battery reading at or above the minimum. -/
def ArmingPassed (p : StateParams) (m : StateMachine) (inp : StateInputs) (_now_ms : UInt32) :
    Prop :=
  m.state = .armingChecks ∧ inp.rc_armed = true ∧ inp.arming_checks_pass = true ∧
    inp.battery_valid = true ∧ p.battery_min_mv ≤ inp.battery_mv

/-- The update was taken in an armed state with the arm switch up. -/
def HeldArmed (m : StateMachine) (inp : StateInputs) (_now_ms : UInt32) : Prop :=
  idleDisarmEligible m.state = true ∧ inp.rc_armed = true

/-- In an armed state the arming checks have been passed, and the robot has been held armed ever
since. -/
theorem armed_since (run : MachineRun p h m) (he : idleDisarmEligible m.state = true) :
    Since (WhenUpdate HeldArmed) (OnUpdate (ArmingPassed p)) h := by
  revert he
  refine MachineRun.history_invariant (fun h m => idleDisarmEligible m.state = true →
    Since (WhenUpdate HeldArmed) (OnUpdate (ArmingPassed p)) h) ?_ ?_ ?_ run
  · intro he
    exact nomatch he
  · intro h m _ ih he
    exact .keep whenUpdate_clear (ih he)
  · intro h m inp now_ms hrun ih he
    obtain ⟨ha, hm | ⟨hm, hc, hb, -⟩⟩ := StateMachine.update_eligible he
    · exact .keep ⟨hm, ha⟩ (ih hm)
    · rw [StateMachine.batteryReady, hrun.params_eq, Bool.and_eq_true,
        decide_eq_true_eq] at hb
      exact .now ⟨hm, ha, hc, hb⟩

/-- A clear request is pending only if one was made since the last DXL hard fault. -/
theorem clear_since (run : MachineRun p h m) (hc : m.clear_fault_requested = true) :
    Since (WhenUpdate fun _ inp _ => inp.dxl_hard_fault = false)
      (fun e => e.label = .requestClearFault) h := by
  revert hc
  refine MachineRun.history_invariant (fun h m => m.clear_fault_requested = true →
    Since (WhenUpdate fun _ inp _ => inp.dxl_hard_fault = false)
      (fun e => e.label = .requestClearFault) h) ?_ ?_ ?_ run
  · intro hc
    exact nomatch hc
  · intro h m _ _ _
    exact .now rfl
  · intro h m inp now_ms _ ih hc
    obtain ⟨hf, hc'⟩ : inp.dxl_hard_fault = false ∧ m.clear_fault_requested = true := by
      obtain ⟨s, clear, latch, -, hs, -, ho⟩ := m.update_cases inp now_ms
      cases ho with
      | progressed hf hr hi hd hp => cases hp <;> simp_all
      | _ => simp_all
    exact .keep hf (ih hc')

/-- **Stop dominance.** Whatever the calls of a run and the times passed to them, its next update
obeys the exits of the latched states, the arming path and the host disarm. -/
theorem stop_dominance (run : MachineRun p h m) (inp : StateInputs) (now_ms : UInt32) :
    -- a DXL hard fault wins, and is left only to `Disarmed`, by a clear request made since
    (inp.dxl_hard_fault = true → (m.update inp now_ms).state = .faultHard) ∧
    (m.state = .faultHard → (m.update inp now_ms).state ≠ .faultHard →
      inp.dxl_hard_fault = false ∧ (m.update inp now_ms).state = .disarmed ∧
      Since (WhenUpdate fun _ inp _ => inp.dxl_hard_fault = false)
        (fun e => e.label = .requestClearFault) h) ∧
    -- an E-stop is left only to `Disarmed` or `FaultHard`
    (m.state = .estop → (m.update inp now_ms).state ≠ .estop →
      (m.update inp now_ms).state = .disarmed ∨ (m.update inp now_ms).state = .faultHard) ∧
    -- the armed states lie behind the arming checks, with the arm switch up ever since
    (idleDisarmEligible (m.update inp now_ms).state = true →
      Since (WhenUpdate HeldArmed) (OnUpdate (ArmingPassed p))
        (⟨m, .update inp now_ms, m.update inp now_ms⟩ :: h)) ∧
    -- a host disarm leaves nothing running
    (inp.host_disarm = true → isOperational (m.update inp now_ms).state = false ∧
      (m.update inp now_ms).state ≠ .macMaintenance ∧
      (m.update inp now_ms).state ≠ .passivePoseStream) := by
  refine ⟨StateMachine.update_of_hardFault, ?_, ?_, ?_, ?_⟩
  · intro hm hne
    have hf : inp.dxl_hard_fault = false := by
      by_contra hf
      exact hne (StateMachine.update_of_hardFault (eq_true_of_ne_false hf))
    rcases StateMachine.update_of_faultHard now_ms hm hf with ⟨hc, hd⟩ | ⟨-, hk⟩
    · exact ⟨hf, hd, clear_since run hc⟩
    · exact absurd hk hne
  · intro hm hne
    exact (StateMachine.update_of_estop hm).resolve_left hne
  · intro he
    exact armed_since (run.step rfl) he
  · intro hh
    have hd := StateMachine.update_of_hostDisarm m now_ms hh
    generalize (m.update inp now_ms).state = s at hd ⊢
    cases s <;> simp_all [hostDisarmDrops, isOperational]

/-- The clauses at work on the shortest run that arms: one more update stays armed, and the arming
checks lie behind it. -/
theorem stop_dominance_armed :
    Since (WhenUpdate HeldArmed) (OnUpdate (ArmingPassed {}))
      (executeHistory StateMachine.call {} [] (armingCalls ++ [.update armingInputs 6])) :=
  (stop_dominance (p := {}) (run_execute StateMachine.call armingCalls .nil) armingInputs 6).2.2.2.1
    (by decide)

end Histories

/-- The update from `m` to `m'` honours the stop inputs: if one is active it ends in `Estop` or
`FaultHard`, and in `Estop` it reports the most urgent of the active sources. -/
def StopHonoured (m : StateMachine) (inp : StateInputs) (now_ms : UInt32) (m' : StateMachine) :
    Prop :=
  (StopInput m inp → m'.state = .estop ∨ m'.state = .faultHard) ∧
    (m'.state = .estop → SourceActive m inp now_ms m'.reason ∧
      ∀ r, SourceActive m inp now_ms r → priority m'.reason ≤ priority r)

/-- The update consumes a clear request in `FaultHard` while an E-stop input is active. -/
def ClearsIntoStop (m : StateMachine) (inp : StateInputs) : Prop :=
  m.state = .faultHard ∧ m.clear_fault_requested = true ∧ inp.dxl_hard_fault = false ∧
    StopInput m inp

/-- Every update of every run honours the stop inputs, except the one that consumes a clear request
in `FaultHard`. -/
theorem stop_inputs_honoured_iff {p : StateParams} {h : List CallEvent} {m m₁ m₂ : StateMachine}
    {inp : StateInputs} {now_ms : UInt32} (run : MachineRun p h m)
    (he : ⟨m₁, .update inp now_ms, m₂⟩ ∈ h) :
    StopHonoured m₁ inp now_ms m₂ ↔ ¬ ClearsIntoStop m₁ inp := by
  obtain rfl : m₂ = m₁.update inp now_ms := run.post_eq he
  have hreason (hs : (m₁.update inp now_ms).state = .estop) :
      SourceActive m₁ inp now_ms (m₁.update inp now_ms).reason ∧ ∀ r,
        SourceActive m₁ inp now_ms r → priority (m₁.update inp now_ms).reason ≤ priority r := by
    obtain ⟨hr, heq⟩ := StateMachine.update_eq_estop hs
    rw [heq]
    exact StateMachine.stopReason_spec hr
  constructor
  · rintro ⟨hstop, -⟩ ⟨hs, hc, hf, hin⟩
    rcases StateMachine.update_of_faultHard now_ms hs hf with ⟨-, hd⟩ | ⟨hc', -⟩
    · rcases hstop hin with hx | hx <;> rw [hd] at hx <;> cases hx
    · rw [hc] at hc'
      cases hc'
  · intro hno
    refine ⟨fun hin => ?_, hreason⟩
    obtain ⟨s, clear, latch, hs, -, -, ho⟩ := m₁.update_cases inp now_ms
    rw [hs]
    -- only the branches without a stop reason are left to exclude
    cases ho with
    | hardFault | hardFaultHeld => exact .inr rfl
    | hardFaultCleared hf hm hc => exact absurd ⟨hm, hc, hf, hin⟩ hno
    | stopped => exact .inl rfl
    | estopReleased hf hr | idleDisarmed hf hr | hostDisarmed hf hr | progressed hf hr =>
      exact absurd hr (StateMachine.stopReason_of_stopInput hf hin)

theorem stop_inputs_honoured_hostEstop :
    StopHonoured (execute StateMachine.call {} bootCalls) { host_estop := true } 3
      ((execute StateMachine.call {} bootCalls).update { host_estop := true } 3) :=
  (stop_inputs_honoured_iff (p := {})
    (run_execute StateMachine.call (bootCalls ++ [.update { host_estop := true } 3]) .nil)
    (List.mem_cons_self ..)).mpr (fun hc => nomatch hc.1)

/-- A run that clears a hard fault while the host E-stop is held. -/
def clearUnderEstop : List Call :=
  [.update { dxl_hard_fault := true } 1, .requestClearFault, .update { host_estop := true } 2]

/-- That run passes through `Disarmed` with the host E-stop active, so not every update honours the
stop inputs. -/
theorem stop_input_skipped : ¬ ∀ (p : StateParams) (h : List CallEvent) (m : StateMachine),
    MachineRun p h m → ∀ m₁ inp now_ms m₂, ⟨m₁, .update inp now_ms, m₂⟩ ∈ h →
      StopHonoured m₁ inp now_ms m₂ := by
  intro hall
  have hrun : MachineRun {} _ _ := run_execute StateMachine.call clearUnderEstop .nil
  have hstop := (hall {} _ _ hrun _ _ _ _ (List.mem_cons_self ..)).1
    (.inr (.inl (show ({ host_estop := true } : StateInputs).host_estop = true from rfl)))
  revert hstop
  decide

end HexapodVerified.Safety
