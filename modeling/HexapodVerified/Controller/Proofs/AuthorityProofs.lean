import HexapodVerified.Controller.Proofs.StepProofs
import HexapodVerified.Safety.Proofs.DecisionProofs

/-!
# The source that drives is the source the state was entered for

The state comes from the safety state machine and the source from the arbiter. A state that allows
motion has its ground in the inputs of the update that led there, and those inputs contain the
arbiter's choice, so the two agree, except that `JetsonAssisted` is kept without a look at the source.
-/

namespace HexapodVerified.Controller

open HexapodVerified.Config HexapodVerified.Safety Transition
open HexapodVerified.Safety.StateMachine (MotionGround)

variable {F : Type} [FloatArith F]

def AuthorityConsistent (command : RobotCommand) : Prop :=
  (command.safety_state, command.command_source) ∈
    [(State.rcManual, CommandSource.rc), (.contactTerrain, .rc), (.jetsonAssisted, .jetson),
      (.macMaintenance, .macMaintenance)]

instance (command : RobotCommand) : Decidable (AuthorityConsistent command) :=
  inferInstanceAs (Decidable (_ ∈ _))

namespace Authority

variable (authority : Authority) (intent : ControllerIntent F) (now_ms : UInt32) (recovery : Bool)

omit [FloatArith F] in
/-- The arbitration never takes the arbiter's own token lock. -/
theorem arbitrate_lock (hlock : authority.arbiter.mac_lock_active = false) :
    (authority.arbitrate intent now_ms recovery).arbiter.mac_lock_active = false := by
  refine CommandArbiter.update_lock ?_
  show (if _ then _ else _ : CommandArbiter).mac_lock_active = false
  split_ifs <;> exact hlock

omit [FloatArith F] in
theorem arbitrate_source (hlock : authority.arbiter.mac_lock_active = false)
    (hauth : (authority.arbitrate intent now_ms recovery).arbiter.out.motion_authorized = true) :
    (authority.arbitrate intent now_ms recovery).arbiter.out.source =
      if intent.maintenance.lock_held then .macMaintenance
      else if intent.rc.armed && intent.rc.autonomy_enabled &&
        (authority.arbitrate intent now_ms recovery).arbiter.jetsonFresh now_ms then .jetson
      else .rc := by
  unfold arbitrate at hauth ⊢
  dsimp only at hauth ⊢
  rw [CommandArbiter.update_jetsonFresh]
  refine CommandArbiter.update_source ?_ hauth
  show (if _ then _ else _ : CommandArbiter).mac_lock_active = false
  split_ifs <;> exact hlock

end Authority

namespace ControllerCore

variable (core : ControllerCore F) (inp : ControllerStepInput F)

def arbitrated : Authority :=
  (core.configured inp).toAuthority.arbitrate inp.intent inp.time.now_ms
    (maintenanceFailsafeRecovery inp.state inp.intent (core.configUsable inp))

/-- The state machine of a step is updated once, from the state and the latch it had, on the inputs that
carry the arbiter's choice. -/
theorem decided_state : ∃ m : StateMachine, m.state = core.state_machine.state ∧
    m.arm_release_required = core.state_machine.arm_release_required ∧
    (core.decided inp).state_machine = m.update (core.safetyInputs inp) inp.time.now_ms := by
  have hframe : (core.configured inp).state_machine = core.state_machine :=
    (core.applyConfig_frame inp.config).2.1
  refine ⟨if inp.intent.clear_fault_requested then
    (core.configured inp).state_machine.requestClearFault
    else (core.configured inp).state_machine, ?_, ?_, rfl⟩
  all_goals
    rw [← hframe]
    split_ifs <;> rfl

/-- A step opens the gate on a usable configuration, in a motion state and for an authorized
source. -/
theorem reported_gate : (core.reported inp).motion_gate = (core.configUsable inp &&
    stateAllowsMotion (core.decided inp).state_machine.state &&
    (core.arbitrated inp).arbiter.out.motion_authorized) := rfl

theorem reported_source (hlock : core.arbiter.mac_lock_active = false)
    (hgate : (core.reported inp).motion_gate = true) :
    (core.reported inp).command_source =
      if inp.intent.maintenance.lock_held then .macMaintenance
      else if inp.intent.rc.armed && inp.intent.rc.autonomy_enabled &&
        (core.safetyInputs inp).jetson_fresh then .jetson
      else .rc := by
  rw [reported_gate, Bool.and_eq_true] at hgate
  have hframe : (core.configured inp).arbiter = core.arbiter :=
    (core.applyConfig_frame inp.config).1
  exact (core.configured inp).toAuthority.arbitrate_source inp.intent inp.time.now_ms _
    (hframe ▸ hlock) hgate.2

/-- A step that opens the gate pairs the state with its source, unless it stays in
`JetsonAssisted` while the maintenance lock is held. -/
theorem reported_consistent_iff (hlock : core.arbiter.mac_lock_active = false)
    (hgate : (core.reported inp).motion_gate = true) :
    AuthorityConsistent (core.reported inp) ↔
      ¬ (core.state_machine.state = .jetsonAssisted ∧
        inp.intent.maintenance.lock_held = true) := by
  have hsource := core.reported_source inp hlock hgate
  have hwire : (core.safetyInputs inp).command_source = (core.reported inp).command_source.wire :=
    rfl
  rw [reported_gate, Bool.and_eq_true, Bool.and_eq_true] at hgate
  obtain ⟨m, hm, -, hupdate⟩ := core.decided_state inp
  have hstate : (core.reported inp).safety_state =
      (m.update (core.safetyInputs inp) inp.time.now_ms).state := by
    rw [← hupdate]
    rfl
  have hmotion := hgate.1.2
  rw [hupdate] at hmotion
  have hground := m.update_ground _ _ hmotion
  rw [← hstate] at hground
  rw [← hm]
  -- the source the inputs name is the source of the command
  have hsrc {want : CommandSource}
      (h : srcIs (core.safetyInputs inp).command_source want = true) :
      (core.reported inp).command_source = want := by
    rw [hwire, srcIs, beq_iff_eq] at h
    exact CommandSource.wire_injective.mp h
  unfold AuthorityConsistent
  generalize hs : (core.reported inp).safety_state = s at hground ⊢
  cases hground with
  | maintenance hentry hfrom =>
    have hheld : inp.intent.maintenance.lock_held = true := by
      rw [StateMachine.maintenanceEntry, Bool.and_eq_true] at hentry
      exact hentry.1
    rw [hsource, if_pos hheld]
    refine iff_of_true (by decide) ?_
    rintro ⟨hjet, -⟩
    rcases hfrom with hfrom | hfrom <;> rw [hfrom] at hjet <;> cases hjet
  | rcManual h hne =>
    rw [hsrc h]
    exact iff_of_true (by decide) fun hbad => hne hbad.1
  | contactTerrain h hne =>
    rw [hsrc h]
    exact iff_of_true (by decide) fun hbad => hne hbad.1
  | jetsonTakeover h hne =>
    rw [StateMachine.jetsonTakesOver, Bool.and_eq_true] at h
    rw [hsrc h.2]
    exact iff_of_true (by decide) fun hbad => hne hbad.1
  | jetsonHeld ha hf hr hjet =>
    rw [hsource]
    by_cases hheld : inp.intent.maintenance.lock_held = true
    · rw [if_pos hheld]
      exact iff_of_false (by decide) fun hno => hno ⟨hjet, hheld⟩
    · have ha' : inp.intent.rc.armed = true := ha
      have hr' : inp.intent.rc.autonomy_enabled = true := hr
      rw [if_neg hheld, if_pos (by rw [ha', hr', hf]; rfl)]
      exact iff_of_true (by decide) fun hbad => hheld hbad.2

/-- A step never takes the arbiter's own token lock. -/
theorem step_lock (hlock : core.arbiter.mac_lock_active = false) :
    (core.step inp).1.arbiter.mac_lock_active = false := by
  by_cases hv : inp.time.valid = true
  · have hframe : (core.configured inp).arbiter = core.arbiter :=
      (core.applyConfig_frame inp.config).1
    rw [core.step_of_valid inp hv]
    exact (core.configured inp).toAuthority.arbitrate_lock inp.intent inp.time.now_ms _
      (hframe ▸ hlock)
  · rw [(core.step_of_invalid inp (eq_false_of_ne_true hv)).1]
    exact hlock

theorem step_decision (hgate : (core.step inp).2.motion_gate = true) :
    inp.time.valid = true ∧ Motion.SameDecision (core.reported inp) (core.step inp).2 := by
  by_cases hv : inp.time.valid = true
  · refine ⟨hv, ?_⟩
    rw [core.step_of_valid inp hv]
    exact Motion.act_sameDecision ..
  · rw [(core.step_of_invalid inp (eq_false_of_ne_true hv)).2.1] at hgate
    exact nomatch hgate

end ControllerCore

variable {core₀ core : ControllerCore F} {h : List (ControllerEvent F)} {e : ControllerEvent F}

theorem ControllerRun.lock (run : ControllerRun core₀ h core) :
    core.arbiter.mac_lock_active = false := by
  refine run.invariant (fun core => core.arbiter.mac_lock_active = false) rfl ?_
  rintro core ⟨inp, command⟩ core' hlock hstep
  have hcore : (core.step inp).1 = core' := congrArg Prod.fst hstep
  rw [← hcore]
  exact core.step_lock inp hlock

/-- **Motion-gate authority.** In every run, a step that opens the motion gate pairs the safety state
with the source it was entered for, exactly when it does not start in `JetsonAssisted` with the
maintenance lock held. -/
theorem gate_authority_iff (run : ControllerRun core₀ h core) (he : e ∈ h)
    (hgate : e.label.2.motion_gate = true) :
    AuthorityConsistent e.label.2 ↔
      ¬ (e.pre.state_machine.state = .jetsonAssisted ∧
        e.label.1.intent.maintenance.lock_held = true) := by
  obtain ⟨hstep, h', run'⟩ := run.of_mem he
  have hcommand : (e.pre.step e.label.1).2 = e.label.2 := congrArg Prod.snd hstep
  rw [← hcommand] at hgate ⊢
  obtain ⟨-, hsame⟩ := e.pre.step_decision e.label.1 hgate
  have hgate' : (e.pre.reported e.label.1).motion_gate = true := by
    rw [← hsame.2.2.2.2.1]
    exact hgate
  have hiff := e.pre.reported_consistent_iff e.label.1 (ControllerRun.lock run') hgate'
  unfold AuthorityConsistent at hiff ⊢
  rw [hsame.1, hsame.2.2.1]
  exact hiff

def readyState : RobotState where
  battery := { millivolts := 12000, valid := true }
  dxl := { configured_servo_coverage := true, pose_known_mask := kAllServoPosesKnown,
           arming_ready := true }
  config_ready := true

/-- A step of a ready robot under the compiled configuration, with a live RC link. -/
noncomputable def readyStep (now_ms : UInt32) (armed autonomy : Bool)
    (maintenance : MaintenanceIntent) : ControllerStepInput ℝ where
  state := readyState
  intent :=
    { rc := { command := .default, ever_seen := true, kill := false, armed, failsafe := false,
              autonomy_enabled := autonomy }
      motion := .default
      maintenance
      features := { jetson_control_enabled := true }
      jetson_heartbeat_received := autonomy }
  config := { robot := defaultRobotConfig, valid := true }
  time := { now_ms, dt_ms := 10, valid := true }

noncomputable def armingSteps : List (ControllerStepInput ℝ) :=
  [readyStep 10 false false {}, readyStep 20 false false {}, readyStep 30 false false {},
    readyStep 40 true false {}, readyStep 50 true false {}]

/-- The step in which Jetson takes over from `StandReady`. -/
noncomputable def takeoverStep : ControllerStepInput ℝ := readyStep 60 true true {}

noncomputable def lockedStep : ControllerStepInput ℝ :=
  readyStep 70 true true { lock_held := true, lock_token := 1 }

noncomputable def armedCore : ControllerCore ℝ :=
  (record ControllerCore.step ControllerCore.new.reset [] armingSteps).1

theorem gate_authority_takeover : AuthorityConsistent (armedCore.step takeoverStep).2 := by
  have run : ControllerRun ControllerCore.new _ armedCore :=
    run_record ControllerCore.step armingSteps .nil
  have run' := run.input takeoverStep
  have hgate : (armedCore.step takeoverStep).2.motion_gate = true := by decide
  refine (gate_authority_iff run' (List.mem_cons_self ..) hgate).mpr ?_
  rintro ⟨-, hheld⟩
  exact nomatch hheld

/-- With the maintenance lock, the next step opens the gate for the maintenance source in
`JetsonAssisted`. -/
theorem maintenance_drives_jetson : ∃ (h : List (ControllerEvent ℝ)) (core : ControllerCore ℝ),
    ControllerRun ControllerCore.new h core ∧ h.length = 7 ∧
      ∃ e ∈ h, e.label.1 = lockedStep ∧ e.label.2.motion_gate = true ∧
        e.label.2.safety_state = .jetsonAssisted ∧
        e.label.2.command_source = .macMaintenance ∧ ¬ AuthorityConsistent e.label.2 := by
  have run : ControllerRun ControllerCore.new _ armedCore :=
    run_record ControllerCore.step armingSteps .nil
  refine ⟨_, _, (run.input takeoverStep).input lockedStep, rfl, _, List.mem_cons_self .., rfl,
    ?_, ?_, ?_, ?_⟩
  · show ((armedCore.step takeoverStep).1.step lockedStep).2.motion_gate = true
    decide
  · show ((armedCore.step takeoverStep).1.step lockedStep).2.safety_state = .jetsonAssisted
    decide
  · show ((armedCore.step takeoverStep).1.step lockedStep).2.command_source = .macMaintenance
    decide
  · show ¬ AuthorityConsistent ((armedCore.step takeoverStep).1.step lockedStep).2
    decide

end HexapodVerified.Controller
