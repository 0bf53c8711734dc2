import HexapodVerified.Safety.StateMachine

/-!
# What one call of `StateMachine::update` does

`update` is unfolded once, here. `Outcome` lists its branches with their guards and with the values
they leave in the state, the clear request and the arm-release latch; `update_outcome` says that
every call is one of them. Every invariant of the machine is then a case analysis over `Outcome`.
-/

namespace HexapodVerified.Safety

namespace StateMachine

variable {m : StateMachine} {inp : StateInputs} {now_ms : UInt32}

/-- The latch after the guard at the top of `update`. -/
def latched (m : StateMachine) (inp : StateInputs) : Bool :=
  (m.requireArmRelease inp).arm_release_required

/-- The E-stop reason `update` computes on the machine `m`. -/
def stopReason (m : StateMachine) (inp : StateInputs) (now_ms : UInt32) : FaultReason :=
  ((m.requireArmRelease inp).trackBattery inp now_ms).estopReason inp now_ms

/-- The idle timeout `update` computes on the machine `m`. -/
def idleTimeout (m : StateMachine) (inp : StateInputs) (now_ms : UInt32) : Bool :=
  (m.trackActivity inp now_ms).idleExpired now_ms

/-- The passive entry condition of the `Disarmed` case. -/
def passiveEntry (inp : StateInputs) : Bool := inp.passive_request && inp.torque_off

/-- The maintenance entry condition of the `Disarmed` case. -/
def maintenanceEntry (inp : StateInputs) : Bool := inp.maintenance_request && inp.mac_lock_held

/-! ## The sections of `update` leave the other fields alone -/

@[simp] theorem requireArmRelease_state : (m.requireArmRelease inp).state = m.state := rfl
@[simp] theorem requireArmRelease_params : (m.requireArmRelease inp).params = m.params := rfl
@[simp] theorem requireArmRelease_clear :
    (m.requireArmRelease inp).clear_fault_requested = m.clear_fault_requested := rfl
@[simp] theorem requireArmRelease_latch :
    (m.requireArmRelease inp).arm_release_required = m.latched inp := rfl
@[simp] theorem trackBattery_state : (m.trackBattery inp now_ms).state = m.state := rfl
@[simp] theorem trackBattery_params : (m.trackBattery inp now_ms).params = m.params := rfl
@[simp] theorem trackBattery_clear :
    (m.trackBattery inp now_ms).clear_fault_requested = m.clear_fault_requested := rfl
@[simp] theorem trackBattery_latch :
    (m.trackBattery inp now_ms).arm_release_required = m.arm_release_required := rfl
@[simp] theorem trackActivity_state : (m.trackActivity inp now_ms).state = m.state := rfl
@[simp] theorem trackActivity_params : (m.trackActivity inp now_ms).params = m.params := rfl
@[simp] theorem trackActivity_clear :
    (m.trackActivity inp now_ms).clear_fault_requested = m.clear_fault_requested := rfl
@[simp] theorem trackActivity_latch :
    (m.trackActivity inp now_ms).arm_release_required = m.arm_release_required := rfl

@[simp] theorem latchFault_state {r : FaultReason} : (m.latchFault r now_ms).state = m.state := by
  unfold latchFault; split <;> rfl
@[simp] theorem latchFault_params {r : FaultReason} :
    (m.latchFault r now_ms).params = m.params := by
  unfold latchFault; split <;> rfl
@[simp] theorem latchFault_clear {r : FaultReason} :
    (m.latchFault r now_ms).clear_fault_requested = m.clear_fault_requested := by
  unfold latchFault; split <;> rfl
@[simp] theorem latchFault_latch {r : FaultReason} :
    (m.latchFault r now_ms).arm_release_required = m.arm_release_required := by
  unfold latchFault; split <;> rfl

@[simp] theorem enterFault_state {s : State} {r : FaultReason} :
    (m.enterFault s r now_ms).state = s := by simp [enterFault]
@[simp] theorem enterFault_reason {s : State} {r : FaultReason} :
    (m.enterFault s r now_ms).reason = r := rfl
@[simp] theorem enterFault_params {s : State} {r : FaultReason} :
    (m.enterFault s r now_ms).params = m.params := by simp [enterFault]
@[simp] theorem enterFault_clear {s : State} {r : FaultReason} :
    (m.enterFault s r now_ms).clear_fault_requested = m.clear_fault_requested := by
  simp [enterFault]
@[simp] theorem enterFault_latch {s : State} {r : FaultReason} :
    (m.enterFault s r now_ms).arm_release_required = true := by simp [enterFault]

/-- An armed switch sets the latch outside `Boot`, `ConfigLoad` and `Disarmed`; otherwise it is kept. -/
theorem latched_eq : m.latched inp = if m.state ≠ .boot ∧ m.state ≠ .configLoad ∧
    m.state ≠ .disarmed ∧ inp.rc_armed then true else m.arm_release_required := rfl

theorem latched_of_armed (hb : m.state ≠ .boot) (hc : m.state ≠ .configLoad)
    (hd : m.state ≠ .disarmed) (ha : inp.rc_armed = true) : m.latched inp = true := by
  simp [latched_eq, hb, hc, hd, ha]

theorem latched_of_required (h : m.arm_release_required = true) : m.latched inp = true := by
  simp [latched_eq, h]

theorem latched_of_released (ha : inp.rc_armed = false) :
    m.latched inp = m.arm_release_required := by simp [latched_eq, ha]

theorem latched_of_disarmed (hs : m.state = .disarmed) :
    m.latched inp = m.arm_release_required := by simp [latched_eq, hs]

/-- The branches of the normal progression. The indices are the state, the clear request and the
arm-release latch it leaves. -/
inductive ProgressOutcome (m : StateMachine) (inp : StateInputs) (now_ms : UInt32) :
    State → Bool → Bool → Prop where
  | booted (hs : m.state = .boot) :
      ProgressOutcome m inp now_ms .configLoad m.clear_fault_requested (m.latched inp)
  | configWaiting (hs : m.state = .configLoad) :
      ProgressOutcome m inp now_ms .configLoad m.clear_fault_requested (m.latched inp)
  | configLoaded (hs : m.state = .configLoad) :
      ProgressOutcome m inp now_ms .disarmed m.clear_fault_requested (m.latched inp)
  | disarmedHeld (hs : m.state = .disarmed)
      (hwhy : inp.host_disarm = true ∨ passiveEntry inp = false ∧ maintenanceEntry inp = false ∧
        (inp.rc_armed = true → m.arm_release_required = true)) :
      ProgressOutcome m inp now_ms .disarmed m.clear_fault_requested
        (inp.rc_armed && m.arm_release_required)
  | passiveEntered (hs : m.state = .disarmed) (hh : inp.host_disarm = false)
      (hp : passiveEntry inp = true) :
      ProgressOutcome m inp now_ms .passivePoseStream m.clear_fault_requested
        (inp.rc_armed && m.arm_release_required)
  | maintenanceEntered (hs : m.state = .disarmed) (hh : inp.host_disarm = false)
      (hp : passiveEntry inp = false) (hm : maintenanceEntry inp = true) :
      ProgressOutcome m inp now_ms .macMaintenance m.clear_fault_requested
        (inp.rc_armed && m.arm_release_required)
  | armingStarted (hs : m.state = .disarmed) (hh : inp.host_disarm = false)
      (hp : passiveEntry inp = false) (hm : maintenanceEntry inp = false)
      (ha : inp.rc_armed = true) (hl : m.arm_release_required = false) :
      ProgressOutcome m inp now_ms .armingChecks m.clear_fault_requested false
  | armingAbandoned (hs : m.state = .armingChecks) (ha : inp.rc_armed = false) :
      ProgressOutcome m inp now_ms .disarmed m.clear_fault_requested (m.latched inp)
  | armingPassed (hs : m.state = .armingChecks) (ha : inp.rc_armed = true)
      (hc : inp.arming_checks_pass = true) (hb : m.batteryReady inp = true) :
      ProgressOutcome m inp now_ms .standReady m.clear_fault_requested (m.latched inp)
  | armingTimedOut (hs : m.state = .armingChecks) (ha : inp.rc_armed = true)
      (hc : (inp.arming_checks_pass && m.batteryReady inp) = false)
      (he : m.armingExpired now_ms = true) :
      ProgressOutcome m inp now_ms .faultSoft m.clear_fault_requested true
  | armingPending (hs : m.state = .armingChecks) (ha : inp.rc_armed = true)
      (hc : (inp.arming_checks_pass && m.batteryReady inp) = false)
      (he : m.armingExpired now_ms = false) :
      ProgressOutcome m inp now_ms .armingChecks m.clear_fault_requested (m.latched inp)
  | armed (hs : idleDisarmEligible m.state = true) :
      ProgressOutcome m inp now_ms (armedNext m.state inp) m.clear_fault_requested (m.latched inp)
  | maintenanceToPassive (hs : m.state = .macMaintenance) (hp : passiveEntry inp = true) :
      ProgressOutcome m inp now_ms .passivePoseStream m.clear_fault_requested (m.latched inp)
  | maintenanceEnded (hs : m.state = .macMaintenance) (hm : maintenanceEntry inp = false) :
      ProgressOutcome m inp now_ms .disarmed m.clear_fault_requested (m.latched inp)
  | maintenanceHeld (hs : m.state = .macMaintenance) (hm : maintenanceEntry inp = true) :
      ProgressOutcome m inp now_ms .macMaintenance m.clear_fault_requested (m.latched inp)
  | passiveEnded (hs : m.state = .passivePoseStream) :
      ProgressOutcome m inp now_ms .disarmed m.clear_fault_requested (m.latched inp)
  | passiveHeld (hs : m.state = .passivePoseStream) :
      ProgressOutcome m inp now_ms .passivePoseStream m.clear_fault_requested (m.latched inp)
  | softFaultCleared (hs : m.state = .faultSoft) (hc : m.clear_fault_requested = true) :
      ProgressOutcome m inp now_ms .disarmed false (m.latched inp)
  | softFaultHeld (hs : m.state = .faultSoft) (hc : m.clear_fault_requested = false) :
      ProgressOutcome m inp now_ms .faultSoft m.clear_fault_requested (m.latched inp)

/-- The branches of `update`, with the same indices. -/
inductive Outcome (m : StateMachine) (inp : StateInputs) (now_ms : UInt32) :
    State → Bool → Bool → Prop where
  | hardFault (hf : inp.dxl_hard_fault = true) : Outcome m inp now_ms .faultHard false true
  | hardFaultCleared (hf : inp.dxl_hard_fault = false) (hs : m.state = .faultHard)
      (hc : m.clear_fault_requested = true) :
      Outcome m inp now_ms .disarmed false (m.latched inp)
  | hardFaultHeld (hf : inp.dxl_hard_fault = false) (hs : m.state = .faultHard)
      (hc : m.clear_fault_requested = false) :
      Outcome m inp now_ms .faultHard m.clear_fault_requested (m.latched inp)
  | stopped (hf : inp.dxl_hard_fault = false) (hs : m.state ≠ .faultHard)
      (hr : m.stopReason inp now_ms ≠ .none) :
      Outcome m inp now_ms .estop m.clear_fault_requested true
  | estopReleased (hf : inp.dxl_hard_fault = false) (hr : m.stopReason inp now_ms = .none)
      (hs : m.state = .estop) :
      Outcome m inp now_ms .disarmed m.clear_fault_requested (m.latched inp)
  | idleDisarmed (hf : inp.dxl_hard_fault = false) (hr : m.stopReason inp now_ms = .none)
      (hi : m.idleTimeout inp now_ms = true) :
      Outcome m inp now_ms .disarmed m.clear_fault_requested true
  | hostDisarmed (hf : inp.dxl_hard_fault = false) (hr : m.stopReason inp now_ms = .none)
      (hh : inp.host_disarm = true) (hs : hostDisarmDrops m.state = true) :
      Outcome m inp now_ms .disarmed m.clear_fault_requested true
  | progressed (hf : inp.dxl_hard_fault = false) (hr : m.stopReason inp now_ms = .none)
      (hi : m.idleTimeout inp now_ms = false)
      (hh : (inp.host_disarm && hostDisarmDrops m.state) = false)
      {s : State} {clear latch : Bool} (hp : ProgressOutcome m inp now_ms s clear latch) :
      Outcome m inp now_ms s clear latch

theorem progressDisarmed_outcome {m' : StateMachine} (hs : m.state = .disarmed)
    (hstate : m'.state = m.state) (hclear : m'.clear_fault_requested = m.clear_fault_requested)
    (hlatch : m'.arm_release_required = m.latched inp) :
    ProgressOutcome m inp now_ms (m'.progressDisarmed inp now_ms).state
      (m'.progressDisarmed inp now_ms).clear_fault_requested
      (m'.progressDisarmed inp now_ms).arm_release_required := by
  have hl : m'.arm_release_required = m.arm_release_required := by
    rw [hlatch, latched_of_disarmed hs]
  have hl' : (if ¬ inp.rc_armed = true then false else m'.arm_release_required) =
      (inp.rc_armed && m.arm_release_required) := by
    rw [hl]; cases inp.rc_armed <;> simp
  simp only [progressDisarmed, hl']
  by_cases hh : inp.host_disarm = true
  · simp only [hh, if_true, hstate, hs, hclear]
    exact .disarmedHeld hs (Or.inl hh)
  have hh' : inp.host_disarm = false := by simpa using hh
  by_cases hp : passiveEntry inp = true
  · have hp' : (inp.passive_request && inp.torque_off) = true := hp
    simp only [hh', hp', if_true, hclear]
    exact .passiveEntered hs hh' hp
  have hp' : (inp.passive_request && inp.torque_off) = false := by simpa [passiveEntry] using hp
  by_cases hm : maintenanceEntry inp = true
  · have hm' : (inp.maintenance_request && inp.mac_lock_held) = true := hm
    simp only [hh', hp', hm', if_true, hclear]
    exact .maintenanceEntered hs hh' hp' hm
  have hm' : (inp.maintenance_request && inp.mac_lock_held) = false := by
    simpa [maintenanceEntry] using hm
  by_cases ha : inp.rc_armed = true ∧ m.arm_release_required = false
  · simp only [hh', hp', hm', ha.1, ha.2, hclear]
    exact .armingStarted hs hh' hp' hm' ha.1 ha.2
  · have hcond : (inp.rc_armed && !(inp.rc_armed && m.arm_release_required)) = false := by
      revert ha; cases inp.rc_armed <;> cases m.arm_release_required <;> simp
    simp only [hh', hp', hm', hcond, hstate, hs, hclear]
    refine .disarmedHeld hs (Or.inr ⟨hp', hm', fun h => ?_⟩)
    simpa [h] using ha

theorem progressArmingChecks_outcome {m' : StateMachine} (hs : m.state = .armingChecks)
    (hstate : m'.state = m.state) (hclear : m'.clear_fault_requested = m.clear_fault_requested)
    (hlatch : m'.arm_release_required = m.latched inp) (hparams : m'.params = m.params)
    (hsince : m'.arming_since_ms = m.arming_since_ms) :
    ProgressOutcome m inp now_ms (m'.progressArmingChecks inp now_ms).state
      (m'.progressArmingChecks inp now_ms).clear_fault_requested
      (m'.progressArmingChecks inp now_ms).arm_release_required := by
  have hb : m'.batteryReady inp = m.batteryReady inp := by simp [batteryReady, hparams]
  have he : m'.armingExpired now_ms = m.armingExpired now_ms := by
    simp [armingExpired, hparams, hsince]
  unfold progressArmingChecks
  rw [hb, he]
  by_cases ha : inp.rc_armed = true
  · by_cases hc : (inp.arming_checks_pass && m.batteryReady inp) = true
    · obtain ⟨hc1, hc2⟩ : inp.arming_checks_pass = true ∧ m.batteryReady inp = true := by
        simpa using hc
      simp only [ha, hc, not_true_eq_false, if_false, if_true, hclear, hlatch]
      exact .armingPassed hs ha hc1 hc2
    · have hc' : (inp.arming_checks_pass && m.batteryReady inp) = false := by simpa using hc
      by_cases hx : m.armingExpired now_ms = true
      · simp only [ha, hc', hx, not_true_eq_false, if_false, if_true, Bool.false_eq_true,
          enterFault_state, enterFault_clear, enterFault_latch, hclear]
        exact .armingTimedOut hs ha hc' hx
      · have hx' : m.armingExpired now_ms = false := by simpa using hx
        simp only [ha, hc', hx', not_true_eq_false, if_false, Bool.false_eq_true, hstate, hs,
          hclear, hlatch]
        exact .armingPending hs ha hc' hx'
  · have ha' : inp.rc_armed = false := by simpa using ha
    simp only [ha', Bool.false_eq_true, not_false_eq_true, if_true, hclear, hlatch]
    exact .armingAbandoned hs ha'

/-- Every run of the normal progression is one of its branches. The machine `m'` is `m` after the
earlier sections of `update`. -/
theorem progress_outcome {m' : StateMachine} (hf : m.state ≠ .faultHard) (he : m.state ≠ .estop)
    (hstate : m'.state = m.state) (hclear : m'.clear_fault_requested = m.clear_fault_requested)
    (hlatch : m'.arm_release_required = m.latched inp) (hparams : m'.params = m.params)
    (hsince : m'.arming_since_ms = m.arming_since_ms) :
    ProgressOutcome m inp now_ms (m'.progress inp now_ms).state
      (m'.progress inp now_ms).clear_fault_requested
      (m'.progress inp now_ms).arm_release_required := by
  unfold progress
  cases hs : m.state with
  | boot =>
    simp only [hstate, hs, hclear, hlatch]
    exact .booted hs
  | configLoad =>
    simp only [hstate, hs, hclear, hlatch]
    cases inp.config_loaded
    · exact .configWaiting hs
    · exact .configLoaded hs
  | disarmed =>
    simp only [hstate, hs]
    exact progressDisarmed_outcome hs hstate hclear hlatch
  | armingChecks =>
    simp only [hstate, hs]
    exact progressArmingChecks_outcome hs hstate hclear hlatch hparams hsince
  | standReady =>
    simp only [hstate, hs, hclear, hlatch]
    exact hs ▸ .armed (by rw [hs]; rfl)
  | rcManual =>
    simp only [hstate, hs, hclear, hlatch]
    exact hs ▸ .armed (by rw [hs]; rfl)
  | contactTerrain =>
    simp only [hstate, hs, hclear, hlatch]
    exact hs ▸ .armed (by rw [hs]; rfl)
  | jetsonAssisted =>
    simp only [hstate, hs, hclear, hlatch]
    exact hs ▸ .armed (by rw [hs]; rfl)
  | macMaintenance =>
    simp only [hstate, hs]
    by_cases hp : (inp.passive_request && inp.torque_off) = true
    · simp only [hp, if_true, hclear, hlatch]
      exact .maintenanceToPassive hs hp
    by_cases hm : maintenanceEntry inp = true
    · have hm' : (!inp.maintenance_request || !inp.mac_lock_held) = false := by
        simpa [maintenanceEntry] using hm
      simp only [hp, hm', if_false, Bool.false_eq_true, hstate, hs, hclear, hlatch]
      exact .maintenanceHeld hs hm
    · have hm' : (!inp.maintenance_request || !inp.mac_lock_held) = true := by
        have hm'' : (inp.maintenance_request && inp.mac_lock_held) = false :=
          eq_false_of_ne_true hm
        rw [← Bool.not_and, hm'', Bool.not_false]
      simp only [hp, hm', if_true, Bool.false_eq_true, hclear, hlatch]
      exact .maintenanceEnded hs (by simpa using hm)
  | passivePoseStream =>
    simp only [hstate, hs, hclear, hlatch]
    cases inp.passive_request
    · exact .passiveEnded hs
    · exact .passiveHeld hs
  | faultSoft =>
    simp only [hstate, hs, hclear]
    by_cases hc : m.clear_fault_requested = true
    · simp only [hc, if_true, fallToDisarmed, hlatch]
      exact .softFaultCleared hs hc
    · have hc' : m.clear_fault_requested = false := by simpa using hc
      simp only [hc', if_false, Bool.false_eq_true, hstate, hs, hclear, hlatch]
      exact hc' ▸ .softFaultHeld hs hc'
  | faultHard => exact absurd hs hf
  | estop => exact absurd hs he

theorem update_of_stop (hf : inp.dxl_hard_fault = false) (hs : m.state ≠ .faultHard)
    (hr : m.stopReason inp now_ms ≠ .none) : m.update inp now_ms =
      ((m.requireArmRelease inp).trackBattery inp now_ms).enterFault .estop (m.stopReason inp now_ms) now_ms := by
  unfold stopReason at hr
  unfold update updateRunning
  simp only [hf, requireArmRelease_state, hs, if_false, Bool.false_eq_true, if_pos hr]
  rfl

/-- Without a fault and outside `Estop`, the machine is disarmed or it goes on. -/
theorem update_of_running (hf : inp.dxl_hard_fault = false) (hs : m.state ≠ .faultHard)
    (hr : m.stopReason inp now_ms = .none) (he : m.state ≠ .estop) : m.update inp now_ms =
      if m.idleTimeout inp now_ms || (inp.host_disarm && hostDisarmDrops m.state) then
        { (((m.requireArmRelease inp).trackBattery inp now_ms).trackActivity inp now_ms).fallToDisarmed with
          arm_release_required := true }
      else (((m.requireArmRelease inp).trackBattery inp now_ms).trackActivity inp now_ms).progress inp now_ms := by
  unfold stopReason at hr
  have hi : (((m.requireArmRelease inp).trackBattery inp now_ms).trackActivity inp now_ms).idleExpired now_ms =
    m.idleTimeout inp now_ms := rfl
  unfold update updateRunning
  simp only [hf, requireArmRelease_state, hs, if_false, Bool.false_eq_true, hr, ne_eq, not_true_eq_false,
    trackBattery_state, he, trackActivity_state, hi]
  cases m.idleTimeout inp now_ms <;> rfl

theorem update_eq_progress (hf : inp.dxl_hard_fault = false) (hs : m.state ≠ .faultHard)
    (hr : m.stopReason inp now_ms = .none) (he : m.state ≠ .estop)
    (hi : m.idleTimeout inp now_ms = false) (hh : (inp.host_disarm && hostDisarmDrops m.state) = false) :
    m.update inp now_ms =
      (((m.requireArmRelease inp).trackBattery inp now_ms).trackActivity inp now_ms).progress inp now_ms := by
  rw [update_of_running hf hs hr he, hi, hh]
  rfl

/-- Every call of `update` is one of its branches. -/
theorem update_outcome (m : StateMachine) (inp : StateInputs) (now_ms : UInt32) :
    Outcome m inp now_ms (m.update inp now_ms).state (m.update inp now_ms).clear_fault_requested
      (m.update inp now_ms).arm_release_required := by
  unfold update
  by_cases hf : inp.dxl_hard_fault = true
  · simp only [hf, if_true, enterFault_state, enterFault_latch]
    exact .hardFault hf
  have hf' : inp.dxl_hard_fault = false := by simpa using hf
  by_cases hs : m.state = .faultHard
  · by_cases hc : m.clear_fault_requested = true
    · simp only [hf', requireArmRelease_state, requireArmRelease_clear, hs, hc, if_true, if_false,
        Bool.false_eq_true, fallToDisarmed, requireArmRelease_latch]
      exact .hardFaultCleared hf' hs hc
    · have hc' : m.clear_fault_requested = false := by simpa using hc
      simp only [hf', requireArmRelease_state, requireArmRelease_clear, hs, hc', if_true, if_false,
        Bool.false_eq_true, requireArmRelease_latch]
      exact hc' ▸ .hardFaultHeld hf' hs hc'
  by_cases hr : m.stopReason inp now_ms = .none
  · by_cases he : m.state = .estop
    · have hr' : ((m.requireArmRelease inp).trackBattery inp now_ms).estopReason inp now_ms = .none := hr
      unfold updateRunning
      simp only [hf', requireArmRelease_state, hr', ne_eq, not_true_eq_false, if_false, trackBattery_state, he,
        if_true, fallToDisarmed, trackBattery_clear, trackBattery_latch, requireArmRelease_clear,
        requireArmRelease_latch, Bool.false_eq_true, reduceCtorEq]
      exact .estopReleased hf' hr he
    rw [← update, update_of_running hf' hs hr he]
    by_cases hi : m.idleTimeout inp now_ms = true
    · rw [hi, Bool.true_or, if_pos rfl]
      exact .idleDisarmed hf' hr hi
    rw [eq_false_of_ne_true hi, Bool.false_or]
    by_cases hh : (inp.host_disarm && hostDisarmDrops m.state) = true
    · rw [if_pos hh]
      obtain ⟨hh1, hh2⟩ := Bool.and_eq_true_iff.mp hh
      exact .hostDisarmed hf' hr hh1 hh2
    · rw [if_neg hh]
      exact .progressed hf' hr (eq_false_of_ne_true hi) (eq_false_of_ne_true hh)
        (progress_outcome hs he rfl rfl rfl rfl rfl)
  · rw [← update, update_of_stop hf' hs hr, enterFault_state, enterFault_latch, enterFault_clear]
    exact .stopped hf' hs hr

theorem update_cases (m : StateMachine) (inp : StateInputs) (now_ms : UInt32) :
    ∃ s clear latch, (m.update inp now_ms).state = s ∧
      (m.update inp now_ms).clear_fault_requested = clear ∧
      (m.update inp now_ms).arm_release_required = latch ∧ Outcome m inp now_ms s clear latch :=
  ⟨_, _, _, rfl, rfl, rfl, m.update_outcome inp now_ms⟩

theorem update_ends {s₁ : State} (hs : (m.update inp now_ms).state = s₁) :
    ∃ s clear latch, s = s₁ ∧ (m.update inp now_ms).clear_fault_requested = clear ∧
      (m.update inp now_ms).arm_release_required = latch ∧ Outcome m inp now_ms s clear latch :=
  ⟨_, _, _, hs, rfl, rfl, m.update_outcome inp now_ms⟩

theorem update_stop_reason (hf : inp.dxl_hard_fault = false) (hs : m.state ≠ .faultHard)
    (hr : m.stopReason inp now_ms ≠ .none) :
    (m.update inp now_ms).reason = m.stopReason inp now_ms := by
  rw [update_of_stop hf hs hr, enterFault_reason]

theorem progressDisarmed_params : (m.progressDisarmed inp now_ms).params = m.params := by
  unfold progressDisarmed
  simp only [apply_ite params, ite_self]

theorem progressArmingChecks_params :
    (m.progressArmingChecks inp now_ms).params = m.params := by
  unfold progressArmingChecks
  simp only [apply_ite params, enterFault_params, ite_self]

theorem progress_params : (m.progress inp now_ms).params = m.params := by
  unfold progress
  cases hs : m.state <;>
    simp only [apply_ite params, fallToDisarmed, ite_self, progressDisarmed_params,
      progressArmingChecks_params]

@[simp] theorem update_params : (m.update inp now_ms).params = m.params := by
  unfold update updateRunning
  simp only [apply_ite params, fallToDisarmed, enterFault_params, progress_params,
    trackActivity_params, trackBattery_params, requireArmRelease_params, ite_self]

/-- Only an armed robot times out. -/
theorem eligible_of_idleTimeout (hi : m.idleTimeout inp now_ms = true) :
    idleDisarmEligible m.state = true := by
  simp only [idleTimeout, idleExpired, Bool.and_eq_true, trackActivity_state] at hi
  exact hi.1.2

theorem armedNext_cases {s : State} (inp : StateInputs) (hs : idleDisarmEligible s = true) :
    (inp.rc_armed = false ∧ armedNext s inp = .disarmed) ∨
    (inp.rc_armed = true ∧ idleDisarmEligible (armedNext s inp) = true) := by
  cases ha : inp.rc_armed with
  | false =>
    left
    cases s <;> simp [idleDisarmEligible] at hs <;> simp [armedNext, ha]
  | true =>
    right
    refine ⟨rfl, ?_⟩
    cases s <;> simp [idleDisarmEligible] at hs <;>
      simp only [armedNext, ha, not_true_eq_false, if_false] <;> (repeat' split) <;> rfl

theorem isOperational_of_eligible {s : State} (hs : idleDisarmEligible s = true) :
    isOperational s = true := by
  cases s <;> simp [idleDisarmEligible] at hs <;> rfl

/-- Why an update may end in a state that allows motion: what the branch that leads there asks of the
inputs. The index is the state it ends in. -/
inductive MotionGround (m : StateMachine) (inp : StateInputs) : State → Prop where
  | maintenance (hm : maintenanceEntry inp = true)
      (hs : m.state = .disarmed ∨ m.state = .macMaintenance) : MotionGround m inp .macMaintenance
  | rcManual (hsrc : srcIs inp.command_source .rc = true) (hs : m.state ≠ .jetsonAssisted) :
      MotionGround m inp .rcManual
  | contactTerrain (hsrc : srcIs inp.command_source .rc = true) (hs : m.state ≠ .jetsonAssisted) :
      MotionGround m inp .contactTerrain
  | jetsonTakeover (ht : jetsonTakesOver inp = true) (hs : m.state ≠ .jetsonAssisted) :
      MotionGround m inp .jetsonAssisted
  | jetsonHeld (ha : inp.rc_armed = true) (hf : inp.jetson_fresh = true)
      (hr : inp.rc_autonomy = true) (hs : m.state = .jetsonAssisted) :
      MotionGround m inp .jetsonAssisted

theorem armedNext_ground (hs : idleDisarmEligible m.state = true)
    (hmotion : stateAllowsMotion (armedNext m.state inp) = true) :
    MotionGround m inp (armedNext m.state inp) := by
  cases hm : m.state <;> rw [hm] at hs hmotion <;> simp only [idleDisarmEligible] at hs <;>
    try exact absurd hs Bool.false_ne_true
  case standReady =>
    have hne : m.state ≠ .jetsonAssisted := by rw [hm]; decide
    simp only [armedNext] at hmotion ⊢
    split_ifs at hmotion ⊢ with ha ht hc hr
    · exact .jetsonTakeover ht hne
    · exact .contactTerrain (by simp only [Bool.and_eq_true] at hc; exact hc.2) hne
    · exact .rcManual hr hne
    all_goals exact nomatch hmotion
  case rcManual | contactTerrain =>
    have hne : m.state ≠ .jetsonAssisted := by rw [hm]; decide
    simp only [armedNext] at hmotion ⊢
    split_ifs at hmotion ⊢ with ha ht hr hc
    · exact .jetsonTakeover ht hne
    · exact .contactTerrain hr hne
    · exact .rcManual hr hne
    all_goals exact nomatch hmotion
  case jetsonAssisted =>
    simp only [armedNext] at hmotion ⊢
    split_ifs at hmotion ⊢ with ha hf
    · rw [Bool.and_eq_true] at hf
      exact .jetsonHeld ha hf.1 hf.2 hm
    all_goals exact nomatch hmotion

theorem update_ground (m : StateMachine) (inp : StateInputs) (now_ms : UInt32)
    (hmotion : stateAllowsMotion (m.update inp now_ms).state = true) :
    MotionGround m inp (m.update inp now_ms).state := by
  obtain ⟨s, clear, latch, hs, -, -, hout⟩ := m.update_cases inp now_ms
  rw [hs] at hmotion ⊢
  cases hout with
  | progressed hf hr hi hh hp =>
    cases hp with
    | maintenanceEntered hd hh hp hm => exact .maintenance hm (.inl hd)
    | maintenanceHeld hmac hm => exact .maintenance hm (.inr hmac)
    | armed he => exact armedNext_ground he hmotion
    | _ => exact nomatch hmotion
  | _ => exact nomatch hmotion

end StateMachine

end HexapodVerified.Safety
