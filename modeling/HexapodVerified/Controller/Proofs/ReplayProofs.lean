import HexapodVerified.Controller.Proofs.AuthorityProofs

/-!
# What a step depends on

Six inputs of a step are looked at from another side here: the evidence of the arming checks, the
recovery flag of the maintenance lock, and the duty and the editor fields of the RC command. Two inputs
that differ in nothing else lead to the same step exactly when they agree on the ones that the step
looks at, and when it looks at one is a condition on the other inputs and on the core before the step.
-/

namespace HexapodVerified.Controller

open HexapodVerified.Config HexapodVerified.Gait HexapodVerified.Safety FloatArith
open HexapodVerified.Safety.StateMachine (maintenanceEntry rcStates)

variable {F : Type}

structure Unrecorded (F : Type) where
  arming_ready : Bool
  recovery_lock : Bool
  duty : F
  gait_tune_active : Bool
  gait_tune_param : GaitTuneParam
  gait_tune_save_seq : UInt32

def ControllerStepInput.unrecorded (inp : ControllerStepInput F) : Unrecorded F where
  arming_ready := inp.state.dxl.arming_ready
  recovery_lock := inp.intent.maintenance.recovery_lock
  duty := inp.intent.rc.command.duty
  gait_tune_active := inp.intent.rc.command.gait_tune_active
  gait_tune_param := inp.intent.rc.command.gait_tune_param
  gait_tune_save_seq := inp.intent.rc.command.gait_tune_save_seq

def ControllerStepInput.withUnrecorded (inp : ControllerStepInput F) (u : Unrecorded F) :
    ControllerStepInput F :=
  { inp with
    state.dxl.arming_ready := u.arming_ready
    intent.maintenance.recovery_lock := u.recovery_lock
    intent.rc.command.duty := u.duty
    intent.rc.command.gait_tune_active := u.gait_tune_active
    intent.rc.command.gait_tune_param := u.gait_tune_param
    intent.rc.command.gait_tune_save_seq := u.gait_tune_save_seq }

variable [FloatArith F]

def dutyByte (duty : F) : UInt8 := toUInt8 (duty * lit 255)

namespace ControllerCore

variable (core : ControllerCore F) (inp : ControllerStepInput F)

def recovery : Bool := maintenanceFailsafeRecovery inp.state inp.intent (core.configUsable inp)

def jetsonAlive : Bool :=
  inp.intent.jetson_heartbeat_received && inp.intent.features.jetson_control_enabled ||
    core.arbiter.jetsonFresh inp.time.now_ms

/-- RC owns the motion: the switch is armed, nothing is killed, and neither a lock nor Jetson is in the
way. -/
structure RcOwns : Prop where
  armed : inp.intent.rc.armed = true
  kill : inp.intent.rc.kill = false
  host_estop : inp.intent.host_estop = false
  lock_held : inp.intent.maintenance.lock_held = false
  mac_lock : core.arbiter.macLockValid inp.time.now_ms = false
  jetson : (inp.intent.rc.autonomy_enabled && core.jetsonAlive inp) = false

def stopInputs : StateInputs where
  battery_mv := inp.state.battery.millivolts
  battery_valid := inp.state.battery.valid
  watchdog_fault := inp.state.watchdog_fault
  dxl_hard_fault := inp.state.dxl.hard_fault
  host_estop := inp.intent.host_estop
  rc_kill := inp.intent.rc.kill
  rc_failsafe := inp.intent.rc.failsafe
  rc_ever_seen := inp.intent.rc.ever_seen
  rc_armed := inp.intent.rc.armed
  host_disarm := inp.intent.host_disarm
  motion_active := core.motionActive inp.intent core.trick_engine.active

structure RcMoves : Prop where
  usable : core.configUsable inp = true
  state : core.state_machine.state ∈ rcStates
  undisturbed : Undisturbed core.state_machine (core.stopInputs inp) inp.time.now_ms

/-- Nothing but the evidence of the adapter decides the arming checks. -/
structure EvidenceDecides : Prop where
  usable : core.configUsable inp = true
  current : inp.state.dxl.config_revision = (core.configured inp).config_cache.snapshot.revision
  coverage : inp.state.dxl.configured_servo_coverage = true
  pose : inp.state.dxl.pose_known_mask = kAllServoPosesKnown
  checks : ChecksDecide core.state_machine (core.stopInputs inp) inp.time.now_ms

/-- The two inputs agree on those of the six that a step from `core` on `inp` looks at. -/
structure AgreeWhereRead (inp' : ControllerStepInput F) : Prop where
  param : inp'.intent.rc.command.gait_tune_param = inp.intent.rc.command.gait_tune_param
  save_seq : inp'.intent.rc.command.gait_tune_save_seq = inp.intent.rc.command.gait_tune_save_seq
  recovery : core.recovery inp' = core.recovery inp
  arming_ready : core.EvidenceDecides inp →
    inp'.state.dxl.arming_ready = inp.state.dxl.arming_ready
  active : core.RcOwns inp →
    inp'.intent.rc.command.gait_tune_active = inp.intent.rc.command.gait_tune_active
  duty : core.RcOwns inp → inp.intent.rc.command.ever_seen = true ∨ core.RcMoves inp →
    dutyByte inp'.intent.rc.command.duty = dutyByte inp.intent.rc.command.duty

theorem jetsonFresh_heartbeat (a : CommandArbiter) (now_ms : UInt32) :
    (a.jetsonHeartbeat now_ms).jetsonFresh now_ms = true := by
  unfold CommandArbiter.jetsonFresh CommandArbiter.jetsonHeartbeat
  simp

def told : CommandArbiter :=
  let arbiter :=
    if inp.intent.jetson_heartbeat_received && inp.intent.features.jetson_control_enabled then
      core.arbiter.jetsonHeartbeat inp.time.now_ms
    else core.arbiter
  (arbiter.setHostEstop inp.intent.host_estop).setExternalMacLock inp.intent.maintenance.lock_held
    inp.intent.maintenance.lock_token (core.recovery inp)

theorem arbitrated_arbiter : (core.arbitrated inp).arbiter =
    (core.told inp).update (rcInputs inp.intent.rc) inp.time.now_ms := by
  have hframe : (core.configured inp).arbiter = core.arbiter :=
    (core.applyConfig_frame inp.config).1
  unfold arbitrated Authority.arbitrate told
  rw [hframe]
  rfl

theorem told_jetsonFresh :
    (core.told inp).jetsonFresh inp.time.now_ms = core.jetsonAlive inp := by
  have hsame (a : CommandArbiter) (host_estop held recovery : Bool) (token now_ms : UInt32) :
      ((a.setHostEstop host_estop).setExternalMacLock held token recovery).jetsonFresh now_ms =
        a.jetsonFresh now_ms := rfl
  unfold told jetsonAlive
  rw [hsame]
  split
  · next hbeat =>
    rw [hbeat, jetsonFresh_heartbeat]
    rfl
  · next hbeat => rw [eq_false_of_ne_true hbeat, Bool.false_or]

theorem told_macLockHeld : (core.told inp).macLockHeld inp.time.now_ms =
    (core.arbiter.macLockValid inp.time.now_ms || inp.intent.maintenance.lock_held) := by
  unfold told
  split <;> rfl

theorem told_killActive : (core.told inp).killActive (rcInputs inp.intent.rc) =
    ((inp.intent.rc.kill && !(inp.intent.maintenance.lock_held && core.recovery inp &&
      inp.intent.rc.ever_seen && inp.intent.rc.kill && inp.intent.rc.failsafe &&
      !inp.intent.rc.armed)) || inp.intent.host_estop) := by
  unfold told CommandArbiter.killActive CommandArbiter.staleFailsafeRecovery rcInputs
  cases hheld : inp.intent.maintenance.lock_held <;> split_ifs <;> rfl

/-- The source of a step is RC exactly when RC owns the motion. -/
theorem source_rc_iff : (core.arbitrated inp).arbiter.out.source = .rc ↔ core.RcOwns inp := by
  rw [arbitrated_arbiter, CommandArbiter.update_source_rc_iff, told_killActive, told_macLockHeld,
    told_jetsonFresh]
  show _ ∧ _ ∧ inp.intent.rc.armed = true ∧ (inp.intent.rc.autonomy_enabled && _) = false ↔ _
  constructor
  · rintro ⟨hkill, hlock, harmed, hjetson⟩
    rw [harmed, Bool.not_true, Bool.and_false, Bool.not_false, Bool.and_true,
      Bool.or_eq_false_iff] at hkill
    rw [Bool.or_eq_false_iff] at hlock
    exact ⟨harmed, hkill.1, hkill.2, hlock.2, hlock.1, hjetson⟩
  · intro h
    refine ⟨?_, ?_, h.armed, h.jetson⟩
    · rw [h.kill, h.host_estop]
      rfl
    · rw [h.mac_lock, h.lock_held]
      rfl

variable (u : Unrecorded F)

omit [FloatArith F] in
theorem rcOwns_withUnrecorded : core.RcOwns (inp.withUnrecorded u) ↔ core.RcOwns inp :=
  ⟨fun h => ⟨h.armed, h.kill, h.host_estop, h.lock_held, h.mac_lock, h.jetson⟩,
    fun h => ⟨h.armed, h.kill, h.host_estop, h.lock_held, h.mac_lock, h.jetson⟩⟩

theorem rcMoves_withUnrecorded : core.RcMoves (inp.withUnrecorded u) ↔ core.RcMoves inp :=
  ⟨fun h => ⟨h.usable, h.state, h.undisturbed⟩, fun h => ⟨h.usable, h.state, h.undisturbed⟩⟩

theorem evidenceDecides_withUnrecorded :
    core.EvidenceDecides (inp.withUnrecorded u) ↔ core.EvidenceDecides inp :=
  ⟨fun h => ⟨h.usable, h.current, h.coverage, h.pose, h.checks⟩,
    fun h => ⟨h.usable, h.current, h.coverage, h.pose, h.checks⟩⟩

theorem of_recovery (hr : core.recovery inp = true) :
    inp.intent.maintenance.lock_held = true ∧ inp.intent.rc.ever_seen = true ∧
      inp.intent.rc.kill = true ∧ inp.intent.rc.failsafe = true ∧ inp.intent.rc.armed = false ∧
      inp.intent.host_estop = false := by
  unfold recovery maintenanceFailsafeRecovery at hr
  simp only [Bool.and_eq_true, Bool.not_eq_true'] at hr
  obtain ⟨⟨⟨⟨⟨⟨⟨⟨⟨⟨⟨hheld, -⟩, hseen⟩, hkill⟩, hfailsafe⟩, harmed⟩, hestop⟩, -⟩, -⟩, -⟩, -⟩, -⟩ := hr
  exact ⟨hheld, hseen, hkill, hfailsafe, harmed, hestop⟩

theorem killActive_of_recovery (hr : core.recovery inp = true) :
    (core.arbitrated inp).arbiter.out.kill_active = false ∧
      (core.recovery (inp.withUnrecorded u) = false →
        (core.arbitrated (inp.withUnrecorded u)).arbiter.out.kill_active = true) := by
  obtain ⟨hheld, hseen, hkill, hfailsafe, harmed, hestop⟩ := core.of_recovery inp hr
  constructor
  · rw [arbitrated_arbiter, CommandArbiter.update_killActive, told_killActive, hheld, hr, hseen,
      hkill, hfailsafe, harmed, hestop]
    rfl
  · intro hr'
    have hkill' : (inp.withUnrecorded u).intent.rc.kill = true := hkill
    rw [arbitrated_arbiter, CommandArbiter.update_killActive, told_killActive, hr', hkill',
      Bool.and_false]
    rfl

omit [FloatArith F] in
theorem unrecorded_unrecorded :
    (inp.withUnrecorded u).withUnrecorded inp.unrecorded = inp := rfl

theorem recovery_of_killActive
    (hkill : (core.arbitrated (inp.withUnrecorded u)).arbiter.out.kill_active =
      (core.arbitrated inp).arbiter.out.kill_active) :
    core.recovery (inp.withUnrecorded u) = core.recovery inp := by
  cases hr : core.recovery inp with
  | true =>
    refine eq_true_of_ne_false fun hr' => ?_
    obtain ⟨hfalse, htrue⟩ := core.killActive_of_recovery inp u hr
    rw [hfalse, htrue hr'] at hkill
    exact Bool.noConfusion hkill
  | false =>
    refine eq_false_of_ne_true fun hr' => ?_
    obtain ⟨hfalse, htrue⟩ :=
      core.killActive_of_recovery (inp.withUnrecorded u) inp.unrecorded hr'
    rw [unrecorded_unrecorded] at htrue
    rw [hfalse, htrue hr] at hkill
    exact Bool.noConfusion hkill

/-! ## The decision -/

def machine : StateMachine :=
  if inp.intent.clear_fault_requested then core.state_machine.requestClearFault
  else core.state_machine

theorem decided_machine : (core.decided inp).state_machine =
    (core.machine inp).update (core.safetyInputs inp) inp.time.now_ms := by
  have hframe : (core.configured inp).state_machine = core.state_machine :=
    (core.applyConfig_frame inp.config).2.1
  unfold machine
  rw [← hframe]
  rfl

theorem configured_motionActive :
    (core.configured inp).toAuthority.motionActive inp.intent
        (core.configured inp).trick_engine.active =
      core.motionActive inp.intent core.trick_engine.active := by
  unfold configured applyConfig
  dsimp only
  split_ifs <;> rfl

theorem recovery_of_armed (harmed : inp.intent.rc.armed = true) : core.recovery inp = false := by
  refine eq_false_of_ne_true fun hr => ?_
  obtain ⟨-, -, -, -, hdisarmed, -⟩ := core.of_recovery inp hr
  exact Bool.noConfusion (harmed.symm.trans hdisarmed)

/-- While the switch is armed, the recovery plays no part in what interrupts the robot. -/
theorem undisturbed_iff (harmed : inp.intent.rc.armed = true) :
    Undisturbed (core.machine inp) (core.safetyInputs inp) inp.time.now_ms ↔
      Undisturbed core.state_machine (core.stopInputs inp) inp.time.now_ms := by
  have hstale : StateMachine.staleFailsafeMaintenanceRecovery (core.safetyInputs inp) = false := by
    show (core.recovery inp && _ && _ && _ && _ && _) = false
    rw [core.recovery_of_armed inp harmed]
    rfl
  have hreason : (core.machine inp).stopReason (core.safetyInputs inp) inp.time.now_ms =
      core.state_machine.stopReason (core.stopInputs inp) inp.time.now_ms := by
    unfold StateMachine.stopReason StateMachine.estopReason StateMachine.failsafeStop machine
    rw [hstale]
    cases inp.intent.clear_fault_requested <;> rfl
  have hidle : (core.machine inp).idleTimeout (core.safetyInputs inp) inp.time.now_ms =
      core.state_machine.idleTimeout (core.stopInputs inp) inp.time.now_ms := by
    have hactive : (core.safetyInputs inp).motion_active = (core.stopInputs inp).motion_active :=
      core.configured_motionActive inp
    unfold StateMachine.idleTimeout StateMachine.trackActivity machine
    rw [hactive]
    cases inp.intent.clear_fault_requested <;> rfl
  have hstop : StopActive (core.machine inp) (core.safetyInputs inp) inp.time.now_ms ↔
      StopActive core.state_machine (core.stopInputs inp) inp.time.now_ms := by
    rw [StateMachine.stopActive_iff, StateMachine.stopActive_iff, hreason]
    rfl
  constructor
  · intro hu
    exact ⟨hstop.not.mp hu.running, hidle ▸ hu.busy, hu.wanted⟩
  · intro hu
    exact ⟨hstop.not.mpr hu.running, hidle ▸ hu.busy, hu.wanted⟩

omit [FloatArith F] in
theorem machine_state : (core.machine inp).state = core.state_machine.state := by
  unfold machine
  split_ifs <;> rfl

theorem checksDecide_iff :
    ChecksDecide (core.machine inp) (core.safetyInputs inp) inp.time.now_ms ↔
      ChecksDecide core.state_machine (core.stopInputs inp) inp.time.now_ms := by
  have hbattery : (core.machine inp).batteryReady (core.safetyInputs inp) =
      core.state_machine.batteryReady (core.stopInputs inp) := by
    unfold machine
    split_ifs <;> rfl
  constructor
  · intro hd
    exact ⟨(core.machine_state inp).symm.trans hd.checking, hd.armed, hbattery ▸ hd.battery,
      (core.undisturbed_iff inp hd.armed).mp hd.undisturbed⟩
  · intro hd
    exact ⟨(core.machine_state inp).trans hd.checking, hd.armed, hbattery ▸ hd.battery,
      (core.undisturbed_iff inp hd.armed).mpr hd.undisturbed⟩

theorem safetyInputs_checks : (core.safetyInputs inp).arming_checks_pass =
    (core.configUsable inp && inp.state.battery.valid &&
      (inp.state.dxl.config_revision == (core.configured inp).config_cache.snapshot.revision &&
        inp.state.dxl.configured_servo_coverage) &&
      (inp.state.dxl.config_revision == (core.configured inp).config_cache.snapshot.revision &&
        inp.state.dxl.pose_known_mask == kAllServoPosesKnown) &&
      inp.state.dxl.arming_ready && !inp.state.dxl.hard_fault) := rfl

theorem checks_of_evidenceDecides (he : core.EvidenceDecides inp) :
    (core.safetyInputs inp).arming_checks_pass = inp.state.dxl.arming_ready := by
  have hbattery : inp.state.battery.valid = true := (Bool.and_eq_true _ _ ▸ he.checks.battery).1
  have hfault : inp.state.dxl.hard_fault = false :=
    (StateMachine.clear_of_undisturbed he.checks.undisturbed).1
  rw [safetyInputs_checks, he.usable, hbattery, he.current, he.coverage, he.pose, hfault]
  simp

theorem checks_of_not_evidenceDecides (he : ¬ core.EvidenceDecides inp)
    (hd : ChecksDecide (core.machine inp) (core.safetyInputs inp) inp.time.now_ms) :
    (core.safetyInputs inp).arming_checks_pass = false := by
  refine eq_false_of_ne_true fun hpass => he ?_
  rw [safetyInputs_checks] at hpass
  simp only [Bool.and_eq_true, beq_iff_eq] at hpass
  obtain ⟨⟨⟨⟨⟨husable, -⟩, hcurrent, hcoverage⟩, -, hpose⟩, -⟩, -⟩ := hpass
  exact ⟨husable, hcurrent, hcoverage, hpose, (core.checksDecide_iff inp).mp hd⟩

theorem arbitrated_withUnrecorded
    (hr : core.recovery (inp.withUnrecorded u) = core.recovery inp) :
    core.arbitrated (inp.withUnrecorded u) = core.arbitrated inp := by
  have hshape (inp : ControllerStepInput F) : core.arbitrated inp =
      (core.configured inp).toAuthority.arbitrate inp.intent inp.time.now_ms (core.recovery inp) :=
    rfl
  rw [hshape, hshape, hr]
  rfl

/-- With the same recovery condition only the check result can differ. -/
theorem safetyInputs_withUnrecorded
    (hr : core.recovery (inp.withUnrecorded u) = core.recovery inp) :
    core.safetyInputs (inp.withUnrecorded u) =
      { core.safetyInputs inp with
        arming_checks_pass := (core.safetyInputs (inp.withUnrecorded u)).arming_checks_pass } := by
  have hshape (inp : ControllerStepInput F) : core.safetyInputs inp =
      (core.arbitrated inp).safetyInputs inp.state inp.intent inp.time.now_ms
        (core.configUsable inp) (core.recovery inp)
        ((core.configured inp).toAuthority.motionActive inp.intent
          (core.configured inp).trick_engine.active) := rfl
  rw [hshape, hshape, core.arbitrated_withUnrecorded inp u hr, hr]
  rfl

variable {u}

theorem decided_of_agree (ha : core.AgreeWhereRead inp (inp.withUnrecorded u)) :
    core.decided (inp.withUnrecorded u) = core.decided inp := by
  have hshape (inp : ControllerStepInput F) : core.decided inp =
      { core.arbitrated inp with
        idle_seen_intent_sequence := inp.intent.motion.seq
        state_machine := (core.decided inp).state_machine } := rfl
  have hmachine : (core.decided (inp.withUnrecorded u)).state_machine =
      (core.decided inp).state_machine := by
    have hinputs := core.safetyInputs_withUnrecorded inp u ha.recovery
    have hkeep (hpass : (core.safetyInputs (inp.withUnrecorded u)).arming_checks_pass =
        (core.safetyInputs inp).arming_checks_pass) :
        core.safetyInputs (inp.withUnrecorded u) = core.safetyInputs inp := by
      rw [hinputs, hpass]
    rw [decided_machine, decided_machine]
    show (core.machine inp).update _ inp.time.now_ms = _
    by_cases hd : ChecksDecide (core.machine inp) (core.safetyInputs inp) inp.time.now_ms
    · rw [hkeep]
      by_cases he : core.EvidenceDecides inp
      · rw [checks_of_evidenceDecides _ _ ((core.evidenceDecides_withUnrecorded inp u).mpr he),
          checks_of_evidenceDecides _ _ he]
        exact ha.arming_ready he
      · have he' := mt (core.evidenceDecides_withUnrecorded inp u).mp he
        have hd' : ChecksDecide (core.machine (inp.withUnrecorded u))
            (core.safetyInputs (inp.withUnrecorded u)) inp.time.now_ms :=
          (core.checksDecide_iff (inp.withUnrecorded u)).mpr ((core.checksDecide_iff inp).mp hd)
        rw [checks_of_not_evidenceDecides _ _ he' hd', checks_of_not_evidenceDecides _ _ he hd]
    · rw [hinputs]
      exact StateMachine.update_of_not_checksDecide hd _
  rw [hshape, hshape inp, hmachine, core.arbitrated_withUnrecorded inp u ha.recovery]
  rfl

theorem arming_ready_of_state (he : core.EvidenceDecides inp)
    (hstate : (core.decided (inp.withUnrecorded u)).state_machine.state =
      (core.decided inp).state_machine.state) :
    (inp.withUnrecorded u).state.dxl.arming_ready = inp.state.dxl.arming_ready := by
  have htold (inp : ControllerStepInput F) (he : core.EvidenceDecides inp) :
      (core.decided inp).state_machine.state = .standReady ↔ inp.state.dxl.arming_ready = true := by
    rw [decided_machine, StateMachine.state_of_checksDecide ((core.checksDecide_iff inp).mpr he.checks),
      core.checks_of_evidenceDecides inp he]
  have he' := (core.evidenceDecides_withUnrecorded inp u).mpr he
  rw [Bool.eq_iff_iff, ← htold _ he', ← htold _ he, hstate]

/-- Under RC the gate opens exactly when RC moves the robot. -/
theorem reported_gate_iff (hrc : core.RcOwns inp) :
    (core.reported inp).motion_gate = true ↔ core.RcMoves inp := by
  have hsource := (core.source_rc_iff inp).mpr hrc
  have hauthorized : (core.arbitrated inp).arbiter.out.motion_authorized = true := by
    rw [arbitrated_arbiter] at hsource ⊢
    exact CommandArbiter.update_authorized_of_rc hsource
  have hsrc : srcIs (core.safetyInputs inp).command_source .rc = true := by
    show ((core.arbitrated inp).arbiter.out.source.wire == CommandSource.rc.wire) = true
    rw [hsource]
    rfl
  have hjetson : ((core.safetyInputs inp).jetson_fresh && (core.safetyInputs inp).rc_autonomy) =
      false := by
    show ((core.arbitrated inp).arbiter.jetsonFresh inp.time.now_ms &&
      inp.intent.rc.autonomy_enabled) = false
    rw [arbitrated_arbiter, CommandArbiter.update_jetsonFresh, told_jetsonFresh, Bool.and_comm]
    exact hrc.jetson
  have hmaintenance : maintenanceEntry (core.safetyInputs inp) = false := by
    show (inp.intent.maintenance.lock_held && _) = false
    rw [hrc.lock_held]
    rfl
  have hmotion := @StateMachine.motion_of_rc_iff (core.machine inp) (core.safetyInputs inp)
    inp.time.now_ms hrc.armed hsrc hjetson hmaintenance
  rw [machine_state, undisturbed_iff _ _ hrc.armed, ← decided_machine] at hmotion
  rw [reported_gate, hauthorized, Bool.and_true, Bool.and_eq_true, hmotion]
  exact ⟨fun h => ⟨h.1, h.2.1, h.2.2⟩, fun h => ⟨h.usable, h.state, h.undisturbed⟩⟩

theorem reported_of_agree (ha : core.AgreeWhereRead inp (inp.withUnrecorded u)) :
    core.reported (inp.withUnrecorded u) = core.reported inp := by
  have hactive : ((core.decided inp).arbiter.out.source == .rc &&
      (inp.withUnrecorded u).intent.rc.command.gait_tune_active) =
        ((core.decided inp).arbiter.out.source == .rc &&
          inp.intent.rc.command.gait_tune_active) := by
    by_cases hsource : (core.decided inp).arbiter.out.source = .rc
    · rw [ha.active ((core.source_rc_iff inp).mp hsource)]
    · rw [beq_eq_false_iff_ne.mpr hsource, Bool.false_and, Bool.false_and]
  unfold reported Authority.report
  dsimp only
  rw [core.decided_of_agree inp ha, hactive, ha.param, ha.save_seq]
  rfl

end ControllerCore

namespace Motion

variable (motion : Motion F) (cfg : RobotConfig) {inp : ControllerStepInput F} {u : Unrecorded F}
  (previous_motion_gate previous_maintenance_authority : Bool) {command : RobotCommand}

theorem act_gait_tune :
    (motion.act cfg inp previous_motion_gate previous_maintenance_authority
        command).2.diagnostics.gait_tune_active = command.diagnostics.gait_tune_active ∧
      (motion.act cfg inp previous_motion_gate previous_maintenance_authority
        command).2.diagnostics.gait_tune_param = command.diagnostics.gait_tune_param ∧
      (motion.act cfg inp previous_motion_gate previous_maintenance_authority
        command).2.diagnostics.gait_save_seq = command.diagnostics.gait_save_seq ∧
      (motion.act cfg inp previous_motion_gate previous_maintenance_authority
        command).2.diagnostics.gait_save_requested = command.diagnostics.gait_save_requested := by
  unfold act
  dsimp only
  split_ifs <;> exact ⟨rfl, rfl, rfl, rfl⟩

theorem rcDesired_duty (rc : ControllerCommand F) (trick : TrickOutput F) (host : DesiredMotion F) :
    (rcDesired rc trick host).duty = dutyByte rc.duty := by
  unfold rcDesired
  split_ifs <;> rfl

theorem act_of_rc (hsource : command.command_source = .rc) :
    motion.act cfg inp previous_motion_gate previous_maintenance_authority command =
      if command.motion_gate then motion.drive cfg inp previous_motion_gate command
      else motion.hold cfg inp.intent.rc.command command :=
  act_of_not_maintenance _ _ _ _ _ _ (by rw [hsource]; decide)

/-- RC's duty is reported when RC moves the robot and when a command was ever seen. -/
theorem act_duty (hsource : command.command_source = .rc)
    (hshown : inp.intent.rc.command.ever_seen = true ∨ command.motion_gate = true) :
    (motion.act cfg inp previous_motion_gate previous_maintenance_authority
      command).2.diagnostics.applied_duty_x255 = dutyByte inp.intent.rc.command.duty := by
  rw [act_of_rc _ _ _ _ hsource]
  by_cases hgate : command.motion_gate = true
  · rw [if_pos hgate]
    unfold drive desire
    rw [hsource]
    exact rcDesired_duty _ _ _
  · rw [if_neg hgate]
    have hseen : inp.intent.rc.command.ever_seen = true := hshown.resolve_right hgate
    unfold hold
    rw [hsource, hseen]
    rfl

theorem act_of_not_rc (hsource : command.command_source ≠ .rc) :
    motion.act cfg (inp.withUnrecorded u) previous_motion_gate previous_maintenance_authority
        command =
      motion.act cfg inp previous_motion_gate previous_maintenance_authority command := by
  have hrc : (command.command_source == .rc) = false := beq_eq_false_iff_ne.mpr hsource
  unfold act drive desire hold
  rw [hrc]
  rfl

/-- The gait shape of RC looks at the byte of the duty only. -/
theorem rcShape_withUnrecorded
    (hduty : dutyByte (inp.withUnrecorded u).intent.rc.command.duty =
      dutyByte inp.intent.rc.command.duty) (height_fraction : F) (d : DesiredMotion F) :
    rcShape (inp.withUnrecorded u).intent.rc.command height_fraction d =
      rcShape inp.intent.rc.command height_fraction d := by
  show { rcShape inp.intent.rc.command height_fraction d with
    duty := dutyByte (inp.withUnrecorded u).intent.rc.command.duty } = _
  rw [hduty]
  rfl

theorem desire_withUnrecorded
    (hduty : dutyByte (inp.withUnrecorded u).intent.rc.command.duty =
      dutyByte inp.intent.rc.command.duty) :
    motion.desire (inp.withUnrecorded u).intent true (inp.withUnrecorded u).time.dt_ms =
      motion.desire inp.intent true inp.time.dt_ms := by
  have hdesired (trick : TrickOutput F) (host : DesiredMotion F) :
      rcDesired (inp.withUnrecorded u).intent.rc.command trick host =
        rcDesired inp.intent.rc.command trick host := by
    unfold rcDesired
    rw [rcShape_withUnrecorded hduty, rcShape_withUnrecorded hduty]
    rfl
  unfold desire
  rw [if_pos rfl, if_pos rfl]
  exact Prod.ext rfl (hdesired _ _)

/-- A closed gate looks at the duty once a command was seen. -/
theorem hold_withUnrecorded
    (hduty : inp.intent.rc.command.ever_seen = true →
      dutyByte (inp.withUnrecorded u).intent.rc.command.duty =
        dutyByte inp.intent.rc.command.duty) :
    motion.hold cfg (inp.withUnrecorded u).intent.rc.command command =
      motion.hold cfg inp.intent.rc.command command := by
  unfold hold
  by_cases hseen : inp.intent.rc.command.ever_seen = true
  · rw [rcShape_withUnrecorded (hduty hseen)]
    rfl
  · have hunseen := eq_false_of_ne_true hseen
    have hunseen' : (inp.withUnrecorded u).intent.rc.command.ever_seen = false := hunseen
    rw [hunseen, hunseen', Bool.and_false]
    rfl

theorem act_of_agree (hsource : command.command_source = .rc)
    (hactive : (inp.withUnrecorded u).intent.rc.command.gait_tune_active =
      inp.intent.rc.command.gait_tune_active)
    (hduty : inp.intent.rc.command.ever_seen = true ∨ command.motion_gate = true →
      dutyByte (inp.withUnrecorded u).intent.rc.command.duty =
        dutyByte inp.intent.rc.command.duty) :
    motion.act cfg (inp.withUnrecorded u) previous_motion_gate previous_maintenance_authority
        command =
      motion.act cfg inp previous_motion_gate previous_maintenance_authority command := by
  rw [act_of_rc _ _ _ _ hsource, act_of_rc _ _ _ _ hsource]
  by_cases hgate : command.motion_gate = true
  · rw [if_pos hgate, if_pos hgate]
    unfold drive
    rw [hsource, beq_self_eq_true]
    dsimp only
    rw [desire_withUnrecorded motion (hduty (.inr hgate)), hactive]
    rfl
  · rw [if_neg hgate, if_neg hgate]
    exact motion.hold_withUnrecorded cfg fun hseen => hduty (.inl hseen)

end Motion

namespace ControllerCore

variable (core : ControllerCore F) (inp : ControllerStepInput F) {u : Unrecorded F}

/-- Agreement is enough for the same step. -/
theorem step_of_agree (ha : inp.time.valid = true → core.AgreeWhereRead inp (inp.withUnrecorded u)) :
    core.step (inp.withUnrecorded u) = core.step inp := by
  by_cases hv : inp.time.valid = true
  · have hagree := ha hv
    have hacted : core.acted (inp.withUnrecorded u) = core.acted inp := by
      unfold acted
      rw [core.reported_of_agree inp hagree]
      by_cases hsource : (core.reported inp).command_source = .rc
      · have hrc : core.RcOwns inp := (core.source_rc_iff inp).mp hsource
        refine Motion.act_of_agree _ _ _ _ hsource (hagree.active hrc) fun hshown => ?_
        exact hagree.duty hrc (hshown.imp_right (core.reported_gate_iff inp hrc).mp)
      · exact Motion.act_of_not_rc _ _ _ _ hsource
    rw [core.step_of_valid inp hv, core.step_of_valid (inp.withUnrecorded u) hv, hacted,
      core.decided_of_agree inp hagree]
  · have hinvalid := eq_false_of_ne_true hv
    have hinvalid' : (inp.withUnrecorded u).time.valid = false := hinvalid
    refine Prod.ext ?_ ?_
    · rw [(core.step_of_invalid inp hinvalid).1, (core.step_of_invalid _ hinvalid').1]
    · rw [core.step_command_of_invalid inp hinvalid, core.step_command_of_invalid _ hinvalid']
      rfl

/-- The command of a step tells the editor fields, whether RC edits, and whether its save is
permitted. -/
theorem acted_gait_tune :
    (core.acted inp).2.diagnostics.gait_tune_active =
        ((core.arbitrated inp).arbiter.out.source == .rc &&
          inp.intent.rc.command.gait_tune_active) ∧
      (core.acted inp).2.diagnostics.gait_tune_param = inp.intent.rc.command.gait_tune_param ∧
      (core.acted inp).2.diagnostics.gait_save_seq = inp.intent.rc.command.gait_tune_save_seq ∧
      (core.acted inp).2.diagnostics.gait_save_requested =
        ((core.arbitrated inp).arbiter.out.source == .rc &&
          !rcCommandIsActive inp.intent.rc.command && !core.trick_engine.active) := by
  have htrick : (core.configured inp).trick_engine.active = core.trick_engine.active := by
    unfold configured applyConfig
    dsimp only
    split_ifs <;> rfl
  rw [← htrick]
  exact Motion.act_gait_tune ..

theorem acted_duty (hrc : core.RcOwns inp)
    (hshown : inp.intent.rc.command.ever_seen = true ∨ core.RcMoves inp) :
    (core.acted inp).2.diagnostics.applied_duty_x255 = dutyByte inp.intent.rc.command.duty :=
  Motion.act_duty _ _ _ _ ((core.source_rc_iff inp).mpr hrc)
    (hshown.imp_right (core.reported_gate_iff inp hrc).mpr)

/-- Nothing less is enough. -/
theorem agree_of_step (hstep : core.step (inp.withUnrecorded u) = core.step inp)
    (hv : inp.time.valid = true) : core.AgreeWhereRead inp (inp.withUnrecorded u) := by
  rw [core.step_of_valid inp hv, core.step_of_valid (inp.withUnrecorded u) hv] at hstep
  have hcommand : (core.acted (inp.withUnrecorded u)).2 = (core.acted inp).2 :=
    congrArg (fun result : ControllerCore F × RobotCommand => result.2) hstep
  have hdecided : core.decided (inp.withUnrecorded u) = core.decided inp :=
    congrArg (fun result : ControllerCore F × RobotCommand => result.1.toAuthority) hstep
  obtain ⟨hactive, hparam, hseq, -⟩ := core.acted_gait_tune inp
  obtain ⟨hactive', hparam', hseq', -⟩ := core.acted_gait_tune (inp.withUnrecorded u)
  rw [hcommand] at hactive' hparam' hseq'
  refine ⟨hparam'.symm.trans hparam, hseq'.symm.trans hseq, ?_, ?_, ?_, ?_⟩
  · refine core.recovery_of_killActive inp u ?_
    show (core.decided (inp.withUnrecorded u)).arbiter.out.kill_active = _
    rw [hdecided]
    rfl
  · intro he
    refine core.arming_ready_of_state inp he ?_
    rw [hdecided]
  · intro hrc
    rw [(core.source_rc_iff inp).mpr hrc] at hactive
    rw [(core.source_rc_iff _).mpr ((core.rcOwns_withUnrecorded inp u).mpr hrc)] at hactive'
    exact hactive'.symm.trans hactive
  · intro hrc hshown
    rw [← core.acted_duty inp hrc hshown, ← hcommand]
    refine (core.acted_duty _ ((core.rcOwns_withUnrecorded inp u).mpr hrc) ?_).symm
    exact hshown.imp_right (core.rcMoves_withUnrecorded inp u).mpr

/-- Two inputs that differ in nothing but the six lead to the same step exactly when they agree on
those that the step looks at. -/
theorem step_eq_iff : core.step (inp.withUnrecorded u) = core.step inp ↔
    (inp.time.valid = true → core.AgreeWhereRead inp (inp.withUnrecorded u)) :=
  ⟨core.agree_of_step inp, core.step_of_agree inp⟩

theorem applyConfig_congr {config config' : ControllerConfigSnapshot}
    (hrevision : config'.revision = config.revision) (hvalid : config'.valid = config.valid)
    (hpersistent : config'.persistent = config.persistent)
    (hrobot : config.valid = true → config'.robot = config.robot) :
    core.applyConfig config' = core.applyConfig config := by
  unfold applyConfig
  rw [hvalid]
  cases hv : config.valid with
  | true => rw [hrobot hv, hrevision, hpersistent]
  | false => rw [Bool.not_false, if_pos rfl, if_pos rfl]

theorem step_of_applyConfig {config : ControllerConfigSnapshot}
    (hconfig : core.applyConfig config = core.applyConfig inp.config) :
    core.step { inp with config } = core.step inp := by
  unfold step
  rw [hconfig]
  rfl

theorem agree_of_applyConfig {inp inp' : ControllerStepInput F} {config : ControllerConfigSnapshot}
    (hconfig : core.applyConfig config = core.applyConfig inp'.config) :
    core.AgreeWhereRead inp { inp' with config } ↔ core.AgreeWhereRead inp inp' := by
  have hrecovery : core.recovery { inp' with config } = core.recovery inp' := by
    unfold recovery configUsable
    rw [hconfig]
  exact ⟨fun h => ⟨h.param, h.save_seq, hrecovery ▸ h.recovery, h.arming_ready, h.active, h.duty⟩,
    fun h => ⟨h.param, h.save_seq, hrecovery ▸ h.recovery, h.arming_ready, h.active, h.duty⟩⟩

end ControllerCore

end HexapodVerified.Controller
