import HexapodVerified.App.MaintenanceTasks
import HexapodVerified.Config.Proofs.ConfigApiProofs
import HexapodVerified.Controller.Proofs.MotionStartProofs
import HexapodVerified.Protocol.Proofs.MaintenanceTargetProofs

/-!
# Joint targets and the active configuration

Targets are clamped when they are stored and sent to the servos of the configuration that is active
then. Two things have to hold for a sent target to lie in its servo's window: the active configuration
is the known-good one, which the revision tells unless it has wrapped around, and a replacement of the
configuration during a maintenance session leaves the stored targets inside the new windows.
-/

namespace HexapodVerified.App

open HexapodVerified.Config HexapodVerified.Controller HexapodVerified.Dxl HexapodVerified.Gait
open HexapodVerified.Protocol Bytes Transition

variable {F : Type} [FloatArith F] {h : List (MaintTargetTaskEvent F)} {s : MaintTargetTasks F}

def activeConfig (core : ControllerCore F) : RobotConfig := core.config_cache.snapshot.robot

def SendsJointTargets (e : MaintTargetTaskEvent F) : Prop :=
  (∃ inp g_configVolatile maintenance_held,
    e.label = .control inp g_configVolatile maintenance_held) ∧
  e.post.g_controllerCommand.goal_valid = true ∧
  e.post.g_controllerCommand.command_source = .macMaintenance ∧
  e.pre.g_maintTargetApi.control_mode = .jointTargets

/-- Every goal lies in the travel window of the servo that the active configuration maps to its
joint. -/
def GoalsInWindow (core : ControllerCore F) (command : RobotCommand) : Prop :=
  ∀ goal ∈ command.goals.joints,
    ∃ servo, servoFor (activeConfig core) goal.leg goal.joint = some servo ∧
      InWindow servo goal.tick

/-- A control cycle in which the controller looks at its configuration. -/
def applies (e : MaintTargetTaskEvent F) : Bool :=
  match e.label with
  | .control inp _ _ => inp.time.valid
  | _ => false

/-- How often the configuration was replaced since the controller last looked at it. The
configuration of the start counts as a replacement. -/
def unapplied : List (MaintTargetTaskEvent F) → Nat
  | [] => 1
  | e :: h =>
    if applies e then 0
    else if e.post.g_configApi.shadow_rev = e.pre.g_configApi.shadow_rev then unapplied h
    else unapplied h + 1

/-- Whenever the controller looks, the configuration was replaced less than `2^32` times since it
last did. -/
def RevisionsTell : List (MaintTargetTaskEvent F) → Prop
  | [] => True
  | e :: h => (applies e = true → unapplied h < UInt32.size) ∧ RevisionsTell h

/-- A replacement of the configuration during a maintenance session leaves the stored targets inside
the new windows. -/
def KeepsTargets (e : MaintTargetTaskEvent F) : Prop :=
  ∀ call, e.label = .config call →
    e.pre.g_controllerCore.previous_maintenance_authority = true →
      TargetsInWindow e.post.g_configApi.shadow e.pre.g_maintTargetApi.target.joints

section Step

variable (core : ControllerCore F) (inp : ControllerStepInput F)

/-- Joint targets are sent only in a maintenance session that has been going on, and they are the
stored ones. -/
theorem act_targets (cfg : RobotConfig) (motion : Motion F) (previous_motion_gate
    previous_maintenance_authority : Bool) {command : RobotCommand}
    (hfresh : command.goal_valid = false)
    (hmode : inp.intent.maintenance.control_mode = .jointTargets)
    (hsource : command.command_source = .macMaintenance)
    (hvalid : (motion.act cfg inp previous_motion_gate previous_maintenance_authority
      command).2.goal_valid = true) :
    previous_maintenance_authority = true ∧
      (motion.act cfg inp previous_motion_gate previous_maintenance_authority
        command).2.goals.joints = Motion.maintenanceGoals cfg inp.intent.maintenance.targets := by
  unfold Motion.act at hvalid ⊢
  dsimp only at hvalid ⊢
  rw [hsource, hmode] at hvalid ⊢
  split_ifs at hvalid ⊢ with hstart hjoint hgate
  · rw [Motion.startMaintenanceSession, hfresh] at hvalid
    exact absurd hvalid Bool.false_ne_true
  · refine ⟨?_, rfl⟩
    rw [Bool.and_eq_true] at hjoint
    rw [hjoint.1, Bool.true_and, Bool.not_eq_true', Bool.not_eq_false] at hstart
    exact hstart
  · rw [hgate] at hjoint
    exact absurd rfl hjoint
  · rw [Motion.hold, hfresh] at hvalid
    exact absurd hvalid Bool.false_ne_true

theorem step_targets (hmode : inp.intent.maintenance.control_mode = .jointTargets)
    (hsource : (core.step inp).2.command_source = .macMaintenance)
    (hvalid : (core.step inp).2.goal_valid = true) :
    inp.time.valid = true ∧ core.previous_maintenance_authority = true ∧
      (core.step inp).2.goals.joints =
        Motion.maintenanceGoals (activeConfig (core.step inp).1)
          inp.intent.maintenance.targets := by
  by_cases htime : inp.time.valid = true
  · rw [core.step_of_valid inp htime] at hsource hvalid ⊢
    have hsame := ((core.configured inp).toMotion.act_sameDecision
      (core.configured inp).config_cache.snapshot.robot inp core.previous_motion_gate
      core.previous_maintenance_authority (core.reported inp)).2.2.1
    obtain ⟨hsession, hgoals⟩ := act_targets inp _ (core.configured inp).toMotion
      core.previous_motion_gate core.previous_maintenance_authority
      (show (core.reported inp).goal_valid = false from rfl) hmode (hsame.symm.trans hsource) hvalid
    exact ⟨htime, hsession, hgoals⟩
  · have hnone := (core.step_of_invalid inp (eq_false_of_ne_true htime)).2.2
    exact nomatch hnone.symm.trans hvalid

theorem step_session (hbefore : core.previous_maintenance_authority = false)
    (hafter : (core.step inp).1.previous_maintenance_authority = true) :
    (core.step inp).2.diagnostics.clear_maintenance_targets = true := by
  by_cases htime : inp.time.valid = true
  · rw [core.step_of_valid inp htime] at hafter ⊢
    obtain ⟨-, -, hsource, -, hgate, -, -⟩ := (core.configured inp).toMotion.act_sameDecision
      (core.configured inp).config_cache.snapshot.robot inp core.previous_motion_gate
      core.previous_maintenance_authority (core.reported inp)
    have hafter' : ((core.acted inp).2.motion_gate &&
        (core.acted inp).2.command_source == .macMaintenance) = true := hafter
    unfold ControllerCore.acted at hafter' ⊢
    rw [hsource, hgate] at hafter'
    unfold Motion.act
    rw [hafter', hbefore]
    rfl
  · rw [(core.step_of_invalid inp (eq_false_of_ne_true htime)).1, hbefore] at hafter
    exact nomatch hafter

/-- A valid snapshot is taken over unless it carries the revision the controller has. -/
theorem step_activeConfig (htime : inp.time.valid = true) (hconfig : inp.config.valid = true)
    (hrobot : validateRobotConfig inp.config.robot = true) :
    (core.step inp).1.config_cache.snapshot.revision = inp.config.revision ∧
      activeConfig (core.step inp).1 =
        if inp.config.revision = core.config_cache.snapshot.revision then activeConfig core
        else inp.config.robot := by
  have hcache : (core.step inp).1.config_cache = (core.configured inp).config_cache := by
    rw [core.step_of_valid inp htime]
    rfl
  unfold activeConfig
  rw [hcache]
  unfold ControllerCore.configured ControllerCore.applyConfig ConfigSnapshotCache.apply
  rw [hconfig, core.config_cache.known_good.1]
  rw [dif_pos hrobot, Bool.true_and]
  by_cases hrev : inp.config.revision = core.config_cache.snapshot.revision
  · rw [if_pos (beq_iff_eq.mpr hrev), if_pos hrev]
    exact ⟨hrev.symm, rfl⟩
  · rw [if_neg (mt beq_iff_eq.mp hrev), if_neg hrev]
    exact ⟨rfl, rfl⟩

theorem maintenanceGoals_inWindow {cfg : RobotConfig} {joints : JointTable}
    (hin : TargetsInWindow cfg joints) :
    ∀ goal ∈ Motion.maintenanceGoals cfg joints,
      ∃ servo, servoFor cfg goal.leg goal.joint = some servo ∧ InWindow servo goal.tick := by
  intro goal hgoal
  obtain ⟨leg, -, hgoal⟩ := List.mem_flatMap.mp hgoal
  obtain ⟨joint, -, hgoal⟩ := List.mem_filterMap.mp hgoal
  dsimp only at hgoal
  split_ifs at hgoal with hunset
  obtain ⟨servo, hservo, rfl⟩ := Option.map_eq_some_iff.mp hgoal
  have hset : ((joints.get leg).get joint).set = true := by simpa using hunset
  obtain ⟨servo', hservo', hwindow⟩ := hin (leg, joint) hset
  obtain rfl : servo' = servo := Option.some.inj (hservo'.symm.trans hservo)
  exact ⟨servo', hservo, hwindow⟩

theorem mem_maintenanceGoals {cfg : RobotConfig} {joints : JointTable} {slot : Slot}
    {servo : ServoConfig} (hset : (joints.read slot).set = true)
    (hservo : slotServo cfg slot = some servo) :
    ∃ goal ∈ Motion.maintenanceGoals cfg joints, goal.leg = UInt8.ofNat slot.1.val ∧
      goal.joint = UInt8.ofNat slot.2.val ∧ goal.tick = (joints.read slot).tick := by
  have hset' : (!((joints.get slot.1).get slot.2).set) ≠ true := by
    intro hunset
    have hread : ((joints.get slot.1).get slot.2).set = true := hset
    rw [hread] at hunset
    exact Bool.false_ne_true hunset
  refine ⟨{ id := servo.id, tick := (joints.read slot).tick, leg := UInt8.ofNat slot.1.val,
            joint := UInt8.ofNat slot.2.val, clamped := (joints.read slot).clamped },
    ?_, rfl, rfl, rfl⟩
  refine List.mem_flatMap.mpr ⟨slot.1, List.mem_finRange _, ?_⟩
  refine List.mem_filterMap.mpr ⟨slot.2, List.mem_finRange _, ?_⟩
  rw [if_neg hset', show servoFor cfg _ _ = some servo from hservo]
  rfl

end Step

/-! ## The active configuration -/

theorem add_ofNat_succ (r : UInt32) (n : Nat) :
    r + UInt32.ofNat n + 1 = r + UInt32.ofNat (n + 1) := by
  rw [← UInt32.toNat_inj]
  simp only [UInt32.toNat_add, UInt32.toNat_ofNat', UInt32.toNat_one]
  omega

theorem eq_zero_of_add_ofNat {r : UInt32} {n : Nat} (hn : n < UInt32.size)
    (heq : r + UInt32.ofNat n = r) : n = 0 := by
  have hsize : UInt32.size = 4294967296 := rfl
  have hnat := congrArg UInt32.toNat heq
  rw [UInt32.toNat_add, UInt32.toNat_ofNat'] at hnat
  omega

theorem call_revision {api : ConfigApi} (hcoherent : Coherent api) (c : ConfigCall × Persistence) :
    Coherent (api.call c).1 ∧
      ((api.call c).1.shadow = api.shadow ∧ (api.call c).1.shadow_rev = api.shadow_rev ∨
        (api.call c).1.shadow_rev = api.shadow_rev + 1) := by
  have houtcome := call_outcome hcoherent c
  refine ⟨houtcome.coherent hcoherent, ?_⟩
  by_cases hreplaces : Replaces c.1 (api.call c).2
  · exact .inr (houtcome.revision.1 hreplaces)
  · exact .inl (houtcome.revision.2 hreplaces)

/-- A snapshot that was taken from the known-good configuration at most `n` replacements ago. -/
def TakenWithin (n : Nat) (api : ConfigApi) (snapshot : ControllerConfigSnapshot) : Prop :=
  validateRobotConfig snapshot.robot = true ∧
    ∃ m ≤ n, api.shadow_rev = snapshot.revision + UInt32.ofNat m ∧
      (m = 0 → snapshot.robot = api.shadow)

/-- The snapshots of the control task and of the controller are as old as the replacements counted
since. -/
structure ConfigInv (h : List (MaintTargetTaskEvent F)) (s : MaintTargetTasks F) : Prop where
  coherent : Coherent s.g_configApi
  applied : s.g_configApi.shadow_rev =
    s.g_controllerCore.config_cache.snapshot.revision + UInt32.ofNat (unapplied h)
  current : unapplied h = 0 → activeConfig s.g_controllerCore = s.g_configApi.shadow
  taken : s.g_controllerConfig.valid = true →
    s.g_controllerConfig.revision = s.g_controllerConfigRevision ∧
      TakenWithin (unapplied h) s.g_configApi s.g_controllerConfig

theorem configInv_start : ConfigInv [] (MaintTargetTasks.start (F := F)) where
  coherent := coherent_construct
  applied := rfl
  current := fun hzero => absurd hzero Nat.one_ne_zero
  taken := nofun

theorem TakenWithin.replace {n : Nat} {api : ConfigApi} {snapshot : ControllerConfigSnapshot}
    (htaken : TakenWithin n api snapshot) {api' : ConfigApi}
    (hrev : api'.shadow_rev = api.shadow_rev + 1) : TakenWithin (n + 1) api' snapshot := by
  obtain ⟨hvalid, m, hm, hage, -⟩ := htaken
  refine ⟨hvalid, m + 1, Nat.succ_le_succ hm, ?_, fun hzero => absurd hzero (Nat.succ_ne_zero m)⟩
  rw [hrev, hage, add_ofNat_succ]

theorem ne_of_moved {r r' : UInt32} (hmoved : r' = r + 1) : r' ≠ r := by
  intro heq
  have hone : r + UInt32.ofNat 1 = r := (hmoved.symm.trans heq)
  exact absurd (eq_zero_of_add_ofNat (by decide) hone) Nat.one_ne_zero

theorem ConfigInv.config (hinv : ConfigInv h s) (call : ConfigCall × Persistence) :
    ConfigInv (⟨s, .config call, s.step (.config call)⟩ :: h) (s.step (.config call)) := by
  obtain ⟨hcoherent, hmove⟩ := call_revision hinv.coherent call
  rcases hmove with ⟨hshadow, hrev⟩ | hrev
  · have hcount : unapplied (⟨s, .config call, s.step (.config call)⟩ :: h) = unapplied h :=
      if_pos hrev
    refine ⟨hcoherent, ?_, fun hzero => ?_, fun hvalid => ?_⟩
    · rw [hcount]
      exact hrev.trans hinv.applied
    · rw [hcount] at hzero
      exact (hinv.current hzero).trans hshadow.symm
    · obtain ⟨heq, hvalid', m, hm, hage, hnow⟩ := hinv.taken hvalid
      rw [hcount]
      exact ⟨heq, hvalid', m, hm, hrev.trans hage, fun hzero => (hnow hzero).trans hshadow.symm⟩
  · have hcount : unapplied (⟨s, .config call, s.step (.config call)⟩ :: h) = unapplied h + 1 :=
      if_neg (ne_of_moved hrev)
    refine ⟨hcoherent, ?_, fun hzero => ?_, fun hvalid => ?_⟩
    · rw [hcount, ← add_ofNat_succ]
      show (s.g_configApi.call call).1.shadow_rev = _
      rw [hrev, hinv.applied]
      rfl
    · rw [hcount] at hzero
      exact absurd hzero (Nat.succ_ne_zero _)
    · obtain ⟨heq, htaken⟩ := hinv.taken hvalid
      rw [hcount]
      exact ⟨heq, htaken.replace hrev⟩

omit [FloatArith F] in
theorem refresh_frame (s : MaintTargetTasks F) (g_configVolatile : Bool) :
    let s' := s.refreshControllerConfigSnapshot g_configVolatile
    s'.g_configApi = s.g_configApi ∧ s'.g_maintTargetApi = s.g_maintTargetApi ∧
      s'.g_controllerCore = s.g_controllerCore := by
  unfold MaintTargetTasks.refreshControllerConfigSnapshot
  dsimp only
  split_ifs
  · exact ⟨rfl, rfl, rfl⟩
  · split <;> exact ⟨rfl, rfl, rfl⟩

omit [FloatArith F] in
theorem refresh_taken (hinv : ConfigInv h s) (g_configVolatile : Bool) :
    let s' := s.refreshControllerConfigSnapshot g_configVolatile
    s'.g_controllerConfig.valid = true ∧
      s'.g_controllerConfig.revision = s.g_configApi.shadow_rev ∧
      s'.g_controllerConfig.revision = s'.g_controllerConfigRevision ∧
      TakenWithin (unapplied h) s.g_configApi s'.g_controllerConfig := by
  unfold MaintTargetTasks.refreshControllerConfigSnapshot makeControllerConfigSnapshot
  by_cases hkeep : (s.g_controllerConfig.valid &&
      s.g_configApi.shadow_rev == s.g_controllerConfigRevision) = true
  · rw [if_pos hkeep]
    rw [Bool.and_eq_true, beq_iff_eq] at hkeep
    obtain ⟨heq, htaken⟩ := hinv.taken hkeep.1
    exact ⟨hkeep.1, heq.trans hkeep.2.symm, heq, htaken⟩
  · rw [if_neg hkeep, hinv.coherent.valid, Bool.not_true, if_neg Bool.false_ne_true]
    have hzero : s.g_configApi.shadow_rev + UInt32.ofNat 0 = s.g_configApi.shadow_rev :=
      UInt32.add_zero _
    exact ⟨rfl, rfl, rfl, hinv.coherent.valid, 0, Nat.zero_le _, hzero.symm, fun _ => rfl⟩

/-- What a cycle does: a step of the controller under the snapshot and with the stored targets. -/
theorem controlCycle_spec (s : MaintTargetTasks F) (inp : ControllerStepInput F)
    (g_configVolatile maintenance_held : Bool) :
    let s' := s.controlCycle inp g_configVolatile maintenance_held
    ∃ inp' : ControllerStepInput F,
      inp'.time.valid = inp.time.valid ∧
      inp'.intent.maintenance.control_mode = s.g_maintTargetApi.control_mode ∧
      inp'.intent.maintenance.targets = s.g_maintTargetApi.target.joints ∧
      (s'.g_controllerCore, s'.g_controllerCommand) = s.g_controllerCore.step inp' ∧
      s'.g_configApi = s.g_configApi ∧
      s'.g_maintTargetApi.target.joints =
        (if s'.g_controllerCommand.diagnostics.clear_maintenance_targets then
          s.g_maintTargetApi.clearTargets.target.joints else s.g_maintTargetApi.target.joints) ∧
      inp'.config = s'.g_controllerConfig ∧
      s'.g_controllerConfig =
        (s.refreshControllerConfigSnapshot g_configVolatile).g_controllerConfig ∧
      s'.g_controllerConfigRevision =
        (s.refreshControllerConfigSnapshot g_configVolatile).g_controllerConfigRevision := by
  obtain ⟨hapi, htargets, hcore⟩ := refresh_frame s g_configVolatile
  unfold MaintTargetTasks.controlCycle
  generalize s.refreshControllerConfigSnapshot g_configVolatile = r at *
  refine ⟨r.stepInput inp, rfl, ?_, ?_, ?_, hapi, ?_, rfl, rfl, rfl⟩
  · rw [← htargets]
    rfl
  · rw [← htargets]
    rfl
  · rw [← hcore]
    rfl
  · rw [← htargets]
    unfold MaintTargetTasks.publishControllerCommand
    dsimp only
    split_ifs <;> rfl

theorem controlCycle_sends {s' : MaintTargetTasks F} {inp : ControllerStepInput F}
    {g_configVolatile maintenance_held : Bool}
    (hcycle : s' = s.controlCycle inp g_configVolatile maintenance_held)
    (hsends : SendsJointTargets ⟨s, .control inp g_configVolatile maintenance_held, s'⟩) :
    inp.time.valid = true ∧ s.g_controllerCore.previous_maintenance_authority = true ∧
      s'.g_controllerCommand.goals.joints =
        Motion.maintenanceGoals (activeConfig s'.g_controllerCore)
          s.g_maintTargetApi.target.joints := by
  obtain ⟨inp', htime, hmode, htargets, hstep, -⟩ :=
    controlCycle_spec s inp g_configVolatile maintenance_held
  rw [← hcycle] at hstep
  obtain ⟨-, hgoal, hsource, hjoint⟩ := hsends
  have hcore : s'.g_controllerCore = _ := congrArg Prod.fst hstep
  have hcommand : s'.g_controllerCommand = _ := congrArg Prod.snd hstep
  rw [hcommand] at hgoal hsource
  obtain ⟨hclock, hsession, hgoals⟩ :=
    step_targets s.g_controllerCore inp' (hmode.trans hjoint) hsource hgoal
  rw [hcommand, hgoals, ← hcore, htargets]
  exact ⟨htime.symm.trans hclock, hsession, rfl⟩

/-- A cycle, provided the revision tells whether the configuration was replaced. If the controller
looks at the configuration in it, the known-good one is active afterwards. -/
theorem ConfigInv.control (hinv : ConfigInv h s) (inp : ControllerStepInput F)
    (g_configVolatile maintenance_held : Bool)
    (htell : inp.time.valid = true → unapplied h < UInt32.size) :
    let s' := s.controlCycle inp g_configVolatile maintenance_held
    ConfigInv (⟨s, .control inp g_configVolatile maintenance_held, s'⟩ :: h) s' ∧
      (inp.time.valid = true → activeConfig s'.g_controllerCore = s.g_configApi.shadow) := by
  obtain ⟨inp', htime, -, -, hstep, hapi, -, hconfig, hsnapshot, hsnapshotRev⟩ :=
    controlCycle_spec s inp g_configVolatile maintenance_held
  obtain ⟨hvalid, hrev, heq, htaken⟩ := refresh_taken hinv g_configVolatile
  rw [← hsnapshot] at hvalid hrev heq htaken
  rw [← hsnapshotRev] at heq
  generalize s.controlCycle inp g_configVolatile maintenance_held = s' at *
  have hcore : s'.g_controllerCore = (s.g_controllerCore.step inp').1 := congrArg Prod.fst hstep
  have hcoherent : Coherent s'.g_configApi := hapi ▸ hinv.coherent
  by_cases hclock : inp.time.valid = true
  · have hfew := htell hclock
    have hcount : unapplied (⟨s, .control inp g_configVolatile maintenance_held, s'⟩ :: h) = 0 :=
      if_pos hclock
    obtain ⟨hrobot, m, hm, hage, hnow⟩ := htaken
    have hm0 : m = 0 := by
      rw [hrev] at hage
      exact eq_zero_of_add_ofNat (lt_of_le_of_lt hm hfew) hage.symm
    obtain ⟨hrevision, hactive⟩ := step_activeConfig s.g_controllerCore inp' (htime.trans hclock)
      (hconfig ▸ hvalid) (by rw [hconfig]; exact hrobot)
    have hcurrent : activeConfig s'.g_controllerCore = s.g_configApi.shadow := by
      rw [hcore, hactive, hconfig]
      split_ifs with hsame
      · have hback := hinv.applied
        rw [← hrev, hsame] at hback
        exact hinv.current (eq_zero_of_add_ofNat hfew hback.symm)
      · exact hnow hm0
    refine ⟨⟨hcoherent, ?_, fun _ => ?_, fun _ => ⟨heq, hrobot, 0, Nat.zero_le _, ?_, fun _ => ?_⟩⟩,
      fun _ => hcurrent⟩
    · rw [hcount, hcore, hrevision, hconfig, hrev, hapi]
      exact (UInt32.add_zero _).symm
    · rw [hcurrent, hapi]
    · rw [hrev, hapi]
      exact (UInt32.add_zero _).symm
    · rw [hapi]
      exact hnow hm0
  · have hsame : s'.g_controllerCore = s.g_controllerCore := by
      rw [hcore]
      exact (s.g_controllerCore.step_of_invalid inp'
        (eq_false_of_ne_true fun hyes => hclock (htime.symm.trans hyes))).1
    have hcount : unapplied (⟨s, .control inp g_configVolatile maintenance_held, s'⟩ :: h) =
        unapplied h :=
      (if_neg hclock).trans (if_pos (congrArg ConfigApi.shadow_rev hapi))
    refine ⟨⟨hcoherent, ?_, ?_, fun _ => ⟨heq, ?_⟩⟩, fun hyes => absurd hyes hclock⟩
    · rw [hcount, hsame, hapi]
      exact hinv.applied
    · rw [hcount, hsame, hapi]
      exact hinv.current
    · rw [hcount, hapi]
      exact htaken

/-- During a maintenance session the stored targets lie in the windows of the known-good
configuration. -/
def TargetInv (s : MaintTargetTasks F) : Prop :=
  s.g_controllerCore.previous_maintenance_authority = true →
    TargetsInWindow s.g_configApi.shadow s.g_maintTargetApi.target.joints

theorem TargetInv.target (hinv : TargetInv s) (hvalid : validateRobotConfig s.g_configApi.shadow = true)
    (msg_id : UInt8) (req : List UInt8) (out_cap : Nat) :
    TargetInv (s.step (.target msg_id req out_cap)) := by
  intro hsession
  have hcfg : ∀ c, s.boundApi.cfg = some c → c = s.g_configApi.shadow :=
    fun c hc => (Option.some.inj hc).symm
  exact (hinv hsession).move (servoMapValid_of_validate hvalid)
    (handle_move (F := F) s.boundApi hcfg msg_id req out_cap).2

theorem TargetInv.control (hinv : TargetInv s) (inp : ControllerStepInput F)
    (g_configVolatile maintenance_held : Bool) :
    TargetInv (s.controlCycle inp g_configVolatile maintenance_held) := by
  obtain ⟨inp', -, -, -, hstep, hapi, hjoints, -⟩ :=
    controlCycle_spec s inp g_configVolatile maintenance_held
  generalize s.controlCycle inp g_configVolatile maintenance_held = s' at *
  intro hsession
  rw [hjoints, hapi]
  split_ifs with hclear
  · exact targetsInWindow_clear _ _
  · cases hbefore : s.g_controllerCore.previous_maintenance_authority with
    | true => exact hinv hbefore
    | false =>
      rw [show s'.g_controllerCore = _ from congrArg Prod.fst hstep] at hsession
      rw [show s'.g_controllerCommand = _ from congrArg Prod.snd hstep] at hclear
      exact absurd (step_session _ inp' hbefore hsession) hclear

theorem goalsInWindow_control (hinv : TargetInv s) (hconfig : ConfigInv h s)
    (inp : ControllerStepInput F) (g_configVolatile maintenance_held : Bool)
    (htell : inp.time.valid = true → unapplied h < UInt32.size) :
    let s' := s.controlCycle inp g_configVolatile maintenance_held
    SendsJointTargets ⟨s, .control inp g_configVolatile maintenance_held, s'⟩ →
      GoalsInWindow s'.g_controllerCore s'.g_controllerCommand := by
  dsimp only
  intro hsends
  obtain ⟨hclock, hsession, hgoals⟩ := controlCycle_sends rfl hsends
  have hactive := (hconfig.control inp g_configVolatile maintenance_held htell).2 hclock
  unfold GoalsInWindow
  rw [hgoals, hactive]
  exact maintenanceGoals_inWindow (hinv hsession)

theorem targets_run (run : MaintTargetTaskRun F h s) (htell : RevisionsTell h)
    (hkeeps : ∀ e ∈ h, KeepsTargets e) :
    ConfigInv h s ∧ TargetInv s ∧ ∀ e ∈ h, SendsJointTargets e →
      GoalsInWindow e.post.g_controllerCore e.post.g_controllerCommand := by
  induction run with
  | nil => exact ⟨configInv_start, nofun,
      fun e he => absurd he List.not_mem_nil⟩
  | @step h s after label run hstep ih =>
    obtain ⟨htellNow, htell⟩ := htell
    obtain ⟨hconfig, htarget, hgoals⟩ :=
      ih htell fun e he => hkeeps e (List.mem_cons_of_mem _ he)
    have hkeepsNow := hkeeps _ (List.mem_cons_self ..)
    rw [show after = s.step label from hstep] at htellNow hkeepsNow ⊢
    cases label with
    | config call =>
      refine ⟨hconfig.config call, hkeepsNow call rfl, fun e he hsends => ?_⟩
      rcases List.mem_cons.mp he with rfl | he
      · obtain ⟨⟨_, _, _, hlabel⟩, -⟩ := hsends
        cases hlabel
      · exact hgoals e he hsends
    | target msg_id req out_cap =>
      have hcount : unapplied
          (⟨s, .target msg_id req out_cap, s.step (.target msg_id req out_cap)⟩ :: h) =
            unapplied h := if_pos rfl
      refine ⟨⟨hconfig.coherent, ?_, ?_, ?_⟩,
        htarget.target hconfig.coherent.valid msg_id req out_cap, fun e he hsends => ?_⟩
      · rw [hcount]
        exact hconfig.applied
      · rw [hcount]
        exact hconfig.current
      · rw [hcount]
        exact hconfig.taken
      · rcases List.mem_cons.mp he with rfl | he
        · obtain ⟨⟨_, _, _, hlabel⟩, -⟩ := hsends
          cases hlabel
        · exact hgoals e he hsends
    | control inp g_configVolatile maintenance_held =>
      refine ⟨(hconfig.control inp g_configVolatile maintenance_held htellNow).1,
        htarget.control inp g_configVolatile maintenance_held, fun e he hsends => ?_⟩
      rcases List.mem_cons.mp he with rfl | he
      · exact goalsInWindow_control htarget hconfig inp g_configVolatile maintenance_held htellNow
          hsends
      · exact hgoals e he hsends

/-- **Targets follow the configuration.** In every run in which the revision tells the controller of
each replacement and no replacement during a maintenance session leaves a stored target outside the
new windows, every joint target that is sent lies in the window of its servo in the active
configuration. -/
theorem sent_targets_inWindow (run : MaintTargetTaskRun F h s) (htell : RevisionsTell h)
    (hkeeps : ∀ e ∈ h, KeepsTargets e) : ∀ e ∈ h, SendsJointTargets e →
      GoalsInWindow e.post.g_controllerCore e.post.g_controllerCommand :=
  (targets_run run htell hkeeps).2.2

noncomputable def heldStep (now_ms : UInt32) : ControllerStepInput ℝ :=
  readyStep now_ms false false { lock_held := true, lock_token := 1 }

/-- Boot, release of the arm switch, the start of a maintenance session, and a target for the first
joint. -/
noncomputable def targetSteps : List (MaintTargetTaskStep ℝ) :=
  [.control (readyStep 10 false false {}) false false,
    .control (readyStep 20 false false {}) false false, .control (heldStep 30) false true,
    .target Mainttargetmsg.kSetJointTarget [0, 0, 0, 0] 6]

noncomputable def targetTasks : MaintTargetTasks ℝ :=
  execute MaintTargetTasks.step MaintTargetTasks.start targetSteps

noncomputable def sendEvent (s : MaintTargetTasks ℝ) : MaintTargetTaskEvent ℝ :=
  ⟨s, .control (heldStep 40) false true, s.step (.control (heldStep 40) false true)⟩

theorem targetTasks_run : MaintTargetTaskRun ℝ
    (executeHistory MaintTargetTasks.step MaintTargetTasks.start [] targetSteps) targetTasks :=
  run_execute MaintTargetTasks.step targetSteps .nil

theorem targetSteps_tell :
    RevisionsTell (executeHistory MaintTargetTasks.step MaintTargetTasks.start [] targetSteps) := by
  refine ⟨nofun, fun _ => ?_, fun _ => ?_, fun _ => ?_, trivial⟩
  all_goals decide

theorem targetSteps_keep : ∀ e ∈ executeHistory MaintTargetTasks.step MaintTargetTasks.start []
    targetSteps, KeepsTargets e := by
  intro e he call hlabel
  iterate 4
    rcases List.mem_cons.mp he with rfl | he
    · cases hlabel
  exact absurd he List.not_mem_nil

theorem sent_targets_inWindow_session :
    GoalsInWindow (sendEvent targetTasks).post.g_controllerCore
      (sendEvent targetTasks).post.g_controllerCommand := by
  refine sent_targets_inWindow (targetTasks_run.step rfl) ⟨fun _ => by decide,
    targetSteps_tell⟩ ?_ (sendEvent targetTasks) (List.mem_cons_self ..)
    ⟨⟨_, _, _, rfl⟩, by decide, by decide, by decide⟩
  intro e he
  rcases List.mem_cons.mp he with rfl | he
  · exact fun call hlabel => by cases hlabel
  · exact targetSteps_keep e he

/-- In the session the host narrows the travel of the first servo to the ticks 3100 to 3200 and
commits. -/
def narrowSteps : List (MaintTargetTaskStep ℝ) :=
  [.config (.setMutationPolicy true true, {}),
    .config (.handle Cfgmsg.kSetBlock
      (putU16 84 ++ (putU16 4 ++ (putU16 3100 ++ putU16 3200))) 64, {}),
    .config (.handle Cfgmsg.kCommit [] 64, {})]

noncomputable def narrowTasks : MaintTargetTasks ℝ :=
  execute MaintTargetTasks.step targetTasks narrowSteps

theorem narrowSteps_keep (s : MaintTargetTasks ℝ) :
    (execute MaintTargetTasks.step s narrowSteps).g_maintTargetApi = s.g_maintTargetApi := rfl

/-- The target stored before the commit is sent to the servo that may not go there. -/
theorem sent_target_outside : ¬ ∀ (h : List (MaintTargetTaskEvent ℝ)) (s : MaintTargetTasks ℝ),
    MaintTargetTaskRun ℝ h s → ∀ e ∈ h, SendsJointTargets e →
      GoalsInWindow e.post.g_controllerCore e.post.g_controllerCommand := by
  intro hall
  have run : MaintTargetTaskRun ℝ _ narrowTasks :=
    run_execute MaintTargetTasks.step narrowSteps targetTasks_run
  have hsends : SendsJointTargets (sendEvent narrowTasks) :=
    ⟨⟨_, _, _, rfl⟩, by decide +kernel, by decide +kernel, by decide +kernel⟩
  have hin := hall _ _ (run.step rfl) (sendEvent narrowTasks) (List.mem_cons_self ..) hsends
  -- before the commit the target lay in the window of the compiled configuration
  have hold : TargetsInWindow targetTasks.g_configApi.shadow
      targetTasks.g_maintTargetApi.target.joints :=
    (targets_run targetTasks_run targetSteps_tell targetSteps_keep).2.1 (by decide)
  have hset : (targetTasks.g_maintTargetApi.target.joints.read (0, 0)).set = true := by
    decide
  have hkeep : narrowTasks.g_maintTargetApi = targetTasks.g_maintTargetApi :=
    narrowSteps_keep targetTasks
  obtain ⟨servo, hservo, -, hhigh⟩ := hold (0, 0) hset
  have hwas : slotServo targetTasks.g_configApi.shadow (0, 0) =
      some { id := 1, leg := 0, joint := 0, min_tick := 1024, max_tick := 3072 } := by
    decide
  obtain rfl := Option.some.inj (hservo.symm.trans hwas)
  -- it is sent as it is, under the configuration with the narrow window
  have his : slotServo (activeConfig (sendEvent narrowTasks).post.g_controllerCore) (0, 0) =
      some { id := 1, leg := 0, joint := 0, min_tick := 3100, max_tick := 3200 } := by
    decide +kernel
  obtain ⟨goal, hgoal, hleg, hjoint, htick⟩ := mem_maintenanceGoals hset his
  have hcycle : (sendEvent narrowTasks).post = narrowTasks.controlCycle (heldStep 40) false true :=
    rfl
  rw [← hkeep, ← (controlCycle_sends hcycle hsends).2.2] at hgoal
  obtain ⟨servo', hservo', hlow, -⟩ := hin goal hgoal
  rw [hleg, hjoint] at hservo'
  obtain rfl := Option.some.inj (hservo'.symm.trans his)
  rw [htick] at hlow
  have hno : (3100 : UInt16).toNat ≤ (3072 : UInt16).toNat := hlow.trans hhigh
  exact absurd hno (by decide)

end HexapodVerified.App
