import HexapodVerified.Controller.Proofs.StepProofs

/-!
# The configuration the controller acts on

The cache begins with the compiled fallback, under revision zero, and from then on compares revisions only.
As long as a revision stands for one configuration, and revision zero for the fallback, the cached
configuration is the one that was accepted last. What is derived from it, the geometry of the legs and the
limits of the body command, changes with the cache and with nothing else.
-/

namespace HexapodVerified.Controller

open HexapodVerified.Config HexapodVerified.Gait Transition

variable {F : Type} [FloatArith F] {cfg : RobotConfig}

section Body

variable (g : GaitPipeline F)

theorem setPreviewLeg_body (leg : Int8) : (g.setPreviewLeg leg).body = g.body := by
  obtain ⟨_, _, hframe⟩ := g.setPreviewLeg_frame leg
  rw [hframe]

omit [FloatArith F] in
theorem seedGoals_body (servos : List ServoStatus) : (seedGoals cfg servos g).body = g.body := by
  obtain ⟨_, hframe⟩ := seedGoals_frame cfg servos g
  rw [hframe]

theorem update_body (dt_ms : UInt32) : (g.update cfg dt_ms).1.body = g.body := by
  obtain ⟨_, _, _, _, hframe⟩ := g.update_frame cfg dt_ms
  rw [hframe]

end Body

namespace Motion

variable (motion : Motion F) (inp : ControllerStepInput F)
  (previous_motion_gate previous_maintenance_authority : Bool) (command : RobotCommand)

def Uses (robot : RobotConfig) : Prop :=
  motion.pipeline.body = .new robot ∧ motion.body_command_shaper.limits = robot.body_command

theorem drive_derived :
    (motion.drive cfg inp previous_motion_gate command).1.pipeline.body = motion.pipeline.body ∧
    (motion.drive cfg inp previous_motion_gate command).1.body_command_shaper.limits =
      motion.body_command_shaper.limits := by
  have hdesire : ∀ rc_drives,
      (motion.desire inp.intent rc_drives inp.time.dt_ms).1.pipeline = motion.pipeline ∧
      (motion.desire inp.intent rc_drives inp.time.dt_ms).1.body_command_shaper =
        motion.body_command_shaper := by
    intro rc_drives
    cases rc_drives <;> exact ⟨rfl, rfl⟩
  have hsteer : ∀ (m : Motion F) d preview,
      (m.steer cfg d inp.time.dt_ms preview).pipeline.body = m.pipeline.body ∧
      (m.steer cfg d inp.time.dt_ms preview).body_command_shaper.limits =
        m.body_command_shaper.limits := by
    intro m d preview
    unfold steer
    refine ⟨?_, (BodyCommandShaper.update_frame ..).1⟩
    rw [setPreviewLeg_body]
    split <;> rfl
  have hseed : ∀ m : Motion F,
      (m.seed cfg inp.state.dxl.servos previous_motion_gate).pipeline.body = m.pipeline.body ∧
      (m.seed cfg inp.state.dxl.servos previous_motion_gate).body_command_shaper =
        m.body_command_shaper := by
    intro m
    unfold seed
    split
    · exact ⟨seedGoals_body _ _, rfl⟩
    · exact ⟨rfl, rfl⟩
  have hemit : ∀ (m : Motion F) command,
      (m.emit cfg inp.time.dt_ms command).1.pipeline.body = m.pipeline.body ∧
      (m.emit cfg inp.time.dt_ms command).1.body_command_shaper = m.body_command_shaper :=
    fun m command => ⟨update_body m.pipeline _, rfl⟩
  unfold drive
  dsimp only
  generalize (command.command_source == .rc) = rc_drives
  rcases hd : motion.desire inp.intent rc_drives inp.time.dt_ms with ⟨desired, d⟩
  have hdesired := hdesire rc_drives
  rw [hd] at hdesired
  dsimp only at hdesired ⊢
  rw [(hemit ..).1, (hemit ..).2, (hseed _).1, (hseed _).2, (hsteer ..).1, (hsteer ..).2, hdesired.1,
    hdesired.2]
  exact ⟨rfl, rfl⟩

theorem act_derived (cfg : RobotConfig) :
    (motion.act cfg inp previous_motion_gate previous_maintenance_authority command).1.pipeline.body =
      motion.pipeline.body ∧
    (motion.act cfg inp previous_motion_gate previous_maintenance_authority
      command).1.body_command_shaper.limits = motion.body_command_shaper.limits := by
  unfold act
  dsimp only
  split
  · exact ⟨rfl, rfl⟩
  · split
    · exact ⟨rfl, rfl⟩
    · split
      · exact drive_derived ..
      · exact ⟨setPreviewLeg_body .., rfl⟩

end Motion

/-! ## One step -/

theorem validateBodyCommandLimits_of_validate (h : validateRobotConfig cfg = true) :
    validateBodyCommandLimits cfg.body_command = true := by
  by_contra hno
  have hfalse : validateBodyCommandLimits cfg.body_command = false := eq_false_of_ne_true hno
  unfold validateRobotConfig at h
  simp only [hfalse, Bool.not_false, if_true, ite_self, Bool.false_eq_true] at h

/-- The configuration is the one the controller acts on: it is cached, and the leg geometry and the limits
are made from it. The servo map is read from the cached configuration. -/
structure InForce (core : ControllerCore F) (robot : RobotConfig) : Prop where
  cached : core.config_cache.snapshot.robot = robot
  uses : core.toMotion.Uses robot

/-- The step takes the snapshot: it has a time, and the snapshot is valid and passes validation. -/
def Accepted (inp : ControllerStepInput F) : Prop :=
  inp.time.valid = true ∧ inp.config.valid = true ∧ validateRobotConfig inp.config.robot = true

instance : DecidablePred (Accepted (F := F)) := fun inp =>
  inferInstanceAs (Decidable (inp.time.valid = true ∧ inp.config.valid = true ∧
    validateRobotConfig inp.config.robot = true))

namespace ControllerCore

variable (core : ControllerCore F) (inp : ControllerStepInput F)

theorem step_inForce (hv : inp.time.valid = true) {robot : RobotConfig}
    (h : InForce (core.configured inp) robot) : InForce (core.step inp).1 robot := by
  rw [step_of_valid core inp hv]
  have hact := Motion.act_derived (core.configured inp).toMotion inp core.previous_motion_gate
    core.previous_maintenance_authority (core.reported inp)
    (core.configured inp).config_cache.snapshot.robot
  refine ⟨h.cached, ?_, ?_⟩
  · exact hact.1.trans h.uses.1
  · exact hact.2.trans h.uses.2

theorem step_config_cache (hv : inp.time.valid = true) :
    (core.step inp).1.config_cache = (core.configured inp).config_cache := by
  rw [step_of_valid core inp hv]
  rfl

theorem configured_cases :
    (¬ (inp.config.valid = true ∧ validateRobotConfig inp.config.robot = true) ∧
      core.configured inp = core) ∨
    (inp.config.revision = core.config_cache.snapshot.revision ∧ core.configured inp = core) ∨
    (InForce (core.configured inp) inp.config.robot ∧
      (core.configured inp).config_cache.snapshot.revision = inp.config.revision) := by
  unfold configured applyConfig ConfigSnapshotCache.apply
  by_cases hvalid : inp.config.valid = true
  · rw [hvalid]
    dsimp only [Bool.not_true, Bool.false_eq_true, if_false]
    by_cases hpass : validateRobotConfig inp.config.robot = true
    · rw [dif_pos hpass]
      by_cases hsame : (core.config_cache.snapshot.valid &&
          inp.config.revision == core.config_cache.snapshot.revision) = true
      · rw [if_pos hsame]
        rw [Bool.and_eq_true, beq_iff_eq] at hsame
        exact .inr (.inl ⟨hsame.2, rfl⟩)
      · rw [if_neg hsame]
        have hlimits := validateBodyCommandLimits_of_validate hpass
        refine .inr (.inr ⟨⟨rfl, rfl, ?_⟩, rfl⟩)
        show ((core.body_command_shaper.configure inp.config.robot.body_command).reset _).limits = _
        unfold BodyCommandShaper.configure
        rw [if_pos hlimits]
        rfl
    · rw [dif_neg hpass]
      exact .inl ⟨fun hboth => hpass hboth.2, rfl⟩
  · rw [Bool.eq_false_iff.mpr hvalid]
    exact .inl ⟨fun hboth => Bool.false_ne_true hboth.1, rfl⟩

end ControllerCore

section Runs

variable {h : List (ControllerEvent F)} {core : ControllerCore F}

/-- The snapshot that was accepted last, the compiled fallback before there was one. -/
def lastAccepted : List (ControllerEvent F) → ControllerConfigSnapshot
  | [] => ConfigSnapshotCache.new.snapshot
  | e :: h => if Accepted e.label.1 then e.label.1.config else lastAccepted h

/-- The compiled fallback, and the snapshots that were accepted. -/
def Offered (h : List (ControllerEvent F)) (snapshot : ControllerConfigSnapshot) : Prop :=
  snapshot = ConfigSnapshotCache.new.snapshot ∨
    ∃ e ∈ h, Accepted e.label.1 ∧ e.label.1.config = snapshot

/-- Equal revisions carry equal configurations; the compiled fallback has revision zero. -/
def Versioned (h : List (ControllerEvent F)) : Prop :=
  ∀ s s', Offered h s → Offered h s' → s.revision = s'.revision → s.robot = s'.robot

omit [FloatArith F] in
theorem Offered.cons {snapshot : ControllerConfigSnapshot} (e : ControllerEvent F)
    (ho : Offered h snapshot) : Offered (e :: h) snapshot := by
  rcases ho with rfl | ⟨x, hx, hacc⟩
  · exact .inl rfl
  · exact .inr ⟨x, List.mem_cons_of_mem _ hx, hacc⟩

omit [FloatArith F] in
theorem Versioned.tail {e : ControllerEvent F} (hv : Versioned (e :: h)) : Versioned h :=
  fun s s' hs hs' => hv s s' (hs.cons e) (hs'.cons e)

omit [FloatArith F] in
theorem offered_lastAccepted (h : List (ControllerEvent F)) : Offered h (lastAccepted h) := by
  induction h with
  | nil => exact .inl rfl
  | cons e h ih =>
    unfold lastAccepted
    split
    · rename_i hacc
      exact .inr ⟨e, List.mem_cons_self .., hacc, rfl⟩
    · exact ih.cons e

/-- The cached snapshot is the one that was accepted last. -/
def Adopted (h : List (ControllerEvent F)) (core : ControllerCore F) : Prop :=
  InForce core (lastAccepted h).robot ∧
    core.config_cache.snapshot.revision = (lastAccepted h).revision

theorem adopted_new : Adopted [] (ControllerCore.new (F := F)) := by
  refine ⟨⟨rfl, rfl, ?_⟩, rfl⟩
  have hlimits := validateBodyCommandLimits_of_validate validate_defaultRobotConfig
  show (((BodyCommandShaper.new.configure defaultRobotConfig.body_command).configure
    defaultRobotConfig.body_command).reset _).limits = _
  unfold BodyCommandShaper.configure
  rw [if_pos hlimits, if_pos hlimits]
  rfl

theorem ControllerCore.configured_of_refused (core : ControllerCore F) (inp : ControllerStepInput F)
    (hrefused : ¬ (inp.config.valid = true ∧ validateRobotConfig inp.config.robot = true)) :
    core.configured inp = core := by
  unfold ControllerCore.configured ControllerCore.applyConfig ConfigSnapshotCache.apply
  by_cases hvalid : inp.config.valid = true
  · have hpass : ¬ validateRobotConfig inp.config.robot = true := fun hp => hrefused ⟨hvalid, hp⟩
    rw [hvalid]
    dsimp only [Bool.not_true, Bool.false_eq_true, if_false]
    rw [dif_neg hpass]
    rfl
  · rw [Bool.eq_false_iff.mpr hvalid]
    rfl

theorem Adopted.step (ha : Adopted h core) (inp : ControllerStepInput F) {command : RobotCommand}
    {core' : ControllerCore F} (hstep : core.step inp = (core', command))
    (hv : Versioned (⟨core, (inp, command), core'⟩ :: h)) :
    Adopted (⟨core, (inp, command), core'⟩ :: h) core' := by
  have hcore' : core' = (core.step inp).1 := by rw [hstep]
  by_cases htime : inp.time.valid = true
  · have hnext : ∀ {robot : RobotConfig}, InForce (core.configured inp) robot → InForce core' robot := by
      intro robot hforce
      rw [hcore']
      exact core.step_inForce inp htime hforce
    have hcache : core'.config_cache = (core.configured inp).config_cache := by
      rw [hcore']
      exact core.step_config_cache inp htime
    unfold Adopted lastAccepted
    rw [hcache]
    by_cases hacc : Accepted inp
    · have hoffered : Offered (⟨core, (inp, command), core'⟩ :: h) inp.config :=
        .inr ⟨_, List.mem_cons_self .., hacc, rfl⟩
      rw [if_pos hacc]
      rcases core.configured_cases inp with ⟨hnot, -⟩ | ⟨hrev, hsame⟩ | ⟨hforce, hrev⟩
      · exact absurd hacc.2 hnot
      · -- the revision is the cached one, so the configuration is too
        have hrobot := hv inp.config (lastAccepted h) hoffered ((offered_lastAccepted h).cons _)
          (hrev.trans ha.2)
        refine ⟨hnext ?_, ?_⟩
        · rw [hsame]
          show InForce core inp.config.robot
          rw [hrobot]
          exact ha.1
        · rw [hsame]
          exact hrev.symm
      · exact ⟨hnext hforce, hrev⟩
    · rw [if_neg hacc]
      have hsame : core.configured inp = core :=
        core.configured_of_refused inp fun hboth => hacc ⟨htime, hboth⟩
      refine ⟨hnext ?_, ?_⟩
      · rw [hsame]
        exact ha.1
      · rw [hsame]
        exact ha.2
  · have hsame : core' = core := by
      rw [hcore']
      exact (core.step_of_invalid inp (Bool.eq_false_iff.mpr htime)).1
    have hacc : ¬ Accepted inp := fun hacc => htime hacc.1
    unfold Adopted lastAccepted
    rw [if_neg hacc, hsame]
    exact ha

theorem adopted_of_run (run : Run (WithOutput ControllerCore.step) ControllerCore.new h core)
    (hv : Versioned h) : Adopted h core := by
  revert hv
  refine Run.history_invariant (fun h core => Versioned h → Adopted h core) ?_ ?_ run
  · intro _
    exact adopted_new
  · rintro h core ⟨inp, command⟩ core' - ih hstep hv
    exact (ih hv.tail).step inp hstep hv

/-- **Configurations are adopted.** In every run from construction in which a revision stands for one
configuration, revision zero for the compiled fallback: a step with a valid time acts on the configuration
of its snapshot when that is valid and passes validation, and has it in force afterwards; every other step
leaves the one in force that was accepted last. -/
theorem config_adopted {e : ControllerEvent F}
    (run : Run (WithOutput ControllerCore.step) ControllerCore.new (e :: h) core)
    (hv : Versioned (e :: h)) :
    (Accepted e.label.1 →
      (e.pre.configured e.label.1).config_cache.snapshot.robot = e.label.1.config.robot ∧
      InForce core e.label.1.config.robot) ∧
    (¬ Accepted e.label.1 → InForce core (lastAccepted h).robot) := by
  have hadopted := adopted_of_run run hv
  constructor
  · intro hacc
    have hforce := hadopted.1
    unfold lastAccepted at hforce
    rw [if_pos hacc] at hforce
    refine ⟨?_, hforce⟩
    rcases run.of_cons with ⟨rfl, hstep, -⟩
    have hcache := e.pre.step_config_cache e.label.1 hacc.1
    have hpost : (e.pre.step e.label.1).1 = e.post := congrArg Prod.fst hstep
    rw [← hcache, hpost]
    exact hforce.cached
  · intro hacc
    have hforce := hadopted.1
    unfold lastAccepted at hforce
    rwa [if_neg hacc] at hforce

end Runs

def lowConfig : RobotConfig :=
  { defaultRobotConfig with gait := { defaultRobotConfig.gait with body_height_mm := 55 } }

def lowStep (revision : UInt32) (time_valid : Bool) : ControllerStepInput F where
  intent := { rc := { command := .default }, motion := .default }
  config := { robot := lowConfig, revision, valid := true }
  time := { dt_ms := 10, valid := time_valid }

theorem validate_lowConfig : validateRobotConfig lowConfig = true := by decide

theorem lowStep_run (revision : UInt32) (time_valid : Bool) :
    Run (WithOutput ControllerCore.step) ControllerCore.new
      [⟨ControllerCore.new, (lowStep revision time_valid,
          (ControllerCore.new.step (lowStep (F := F) revision time_valid)).2),
        (ControllerCore.new.step (lowStep revision time_valid)).1⟩]
      (ControllerCore.new.step (lowStep (F := F) revision time_valid)).1 :=
  Run.nil.input _

theorem config_adopted_low :
    InForce (ControllerCore.new.step (lowStep (F := ℝ) 1 true)).1 lowConfig := by
  have hadopted := config_adopted (lowStep_run (F := ℝ) 1 true) ?_
  · exact (hadopted.1 ⟨rfl, rfl, validate_lowConfig⟩).2
  · have hsingle : ∀ s, Offered [⟨ControllerCore.new, (lowStep (F := ℝ) 1 true,
        (ControllerCore.new.step (lowStep (F := ℝ) 1 true)).2),
        (ControllerCore.new.step (lowStep 1 true)).1⟩] s →
        s = ConfigSnapshotCache.new.snapshot ∨ s = (lowStep (F := ℝ) 1 true).config := by
      rintro s (rfl | ⟨e, he, -, rfl⟩)
      · exact .inl rfl
      · rw [List.mem_singleton.mp he]
        exact .inr rfl
    intro s s' hs hs' hrev
    rcases hsingle s hs with rfl | rfl <;> rcases hsingle s' hs' with rfl | rfl
    · rfl
    · cases hrev
    · cases hrev
    · rfl

/-- Every step whose time is valid, or not, acts on a valid snapshot, as long as equal revisions carry equal
configurations. -/
def AdoptsWhen (time_valid : Bool) : Prop :=
  ∀ (h : List (ControllerEvent ℝ)) (e : ControllerEvent ℝ) (core : ControllerCore ℝ),
    Run (WithOutput ControllerCore.step) ControllerCore.new (e :: h) core →
    (∀ x ∈ e :: h, ∀ y ∈ e :: h, x.label.1.config.revision = y.label.1.config.revision →
      x.label.1.config.robot = y.label.1.config.robot) →
    e.label.1.time.valid = time_valid → e.label.1.config.valid = true →
    validateRobotConfig e.label.1.config.robot = true → InForce core e.label.1.config.robot

theorem defaultRobotConfig_ne_low : defaultRobotConfig ≠ lowConfig := by
  intro heq
  have hheight := congrArg (fun cfg : RobotConfig => cfg.gait.body_height_mm) heq
  cases hheight

theorem not_adoptsWhen (revision : UInt32) {time_valid : Bool}
    (hsame : (ControllerCore.new.step (lowStep (F := ℝ) revision time_valid)).1.config_cache =
      (ControllerCore.new (F := ℝ)).config_cache) : ¬ AdoptsWhen time_valid := by
  intro hadopts
  have hforce := hadopts [] _ _ (lowStep_run revision time_valid) (by
    intro x hx y hy _
    rw [List.mem_singleton.mp hx, List.mem_singleton.mp hy]) rfl rfl validate_lowConfig
  have hcached := hforce.cached
  rw [hsame] at hcached
  exact defaultRobotConfig_ne_low hcached

/-- A step without a valid time does not look at its snapshot, and revision zero counts as the compiled
fallback. -/
theorem config_not_adopted : ¬ AdoptsWhen false ∧ ¬ AdoptsWhen true := by
  constructor
  · refine not_adoptsWhen 1 ?_
    rw [(ControllerCore.step_of_invalid _ _ rfl).1]
  · refine not_adoptsWhen 0 ?_
    rw [ControllerCore.step_config_cache _ _ rfl]
    unfold ControllerCore.configured ControllerCore.applyConfig ConfigSnapshotCache.apply
    rw [dif_pos (show validateRobotConfig (lowStep (F := ℝ) 0 true).config.robot = true from
      validate_lowConfig)]
    rfl

end HexapodVerified.Controller
