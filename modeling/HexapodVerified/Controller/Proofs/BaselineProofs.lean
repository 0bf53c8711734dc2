import HexapodVerified.Controller.Proofs.AdoptionProofs
import HexapodVerified.Controller.Proofs.TrickShapeProofs
import HexapodVerified.Controller.Proofs.TwistLimitProofs
import HexapodVerified.Protocol.MotionApi

/-!
# The configured gait baseline

The gait block of a configuration becomes the motion intent of the host, and under Jetson authority the body
height of that intent is the one the pipeline gets once the shaper has come to it. The schema admits heights that
the motion interface does not.
-/

namespace HexapodVerified.Protocol

open HexapodVerified.Config HexapodVerified.Controller Transition

variable {F : Type} [FloatArith F]

def gaitDefaults (intent : MotionIntent F) : GaitDefaults where
  body_height_mm := intent.body_height_mm
  stride_len_mm := intent.stride_len_mm
  step_height_mm := intent.step_height_mm
  duty_x255 := intent.duty_x255
  speed_x255 := intent.speed_x255
  gait := intent.gait

/-- `setDefaults` from the gait block of a configuration. -/
def MotionApi.baseline (api : MotionApi F) (gait : GaitDefaults) : MotionApi F :=
  api.setDefaults gait.gait gait.body_height_mm gait.stride_len_mm gait.step_height_mm gait.duty_x255
    gait.speed_x255

abbrev MotionEvent (F : Type) [FloatArith F] : Type :=
  Event (MotionApi F) (MotionCall × Option Reply)

def gaitCommands : List UInt8 := [Motionmsg.kSetGait, Motionmsg.kSetGaitParams, Motionmsg.kStopMotion]

def KeepsParameters (e : MotionEvent F) : Prop :=
  ∀ msg_id req out_cap, e.label.1 = .handle msg_id req out_cap → msg_id ∈ gaitCommands →
    gaitDefaults e.post.intent = gaitDefaults e.pre.intent

variable {api api₀ : MotionApi F} {h : List (MotionEvent F)} {cfg : RobotConfig}

theorem gaitDefaults_handle {msg_id : UInt8} (hother : msg_id ∉ gaitCommands) (req : List UInt8) (out_cap : Nat) :
    gaitDefaults (api.handle msg_id req out_cap).1.intent = gaitDefaults api.intent := by
  unfold gaitCommands at hother
  simp only [List.mem_cons, List.not_mem_nil, or_false, not_or] at hother
  obtain ⟨hgait, hparams, hstop⟩ := hother
  unfold MotionApi.handle
  rw [if_neg hgait, if_neg hparams, if_neg hstop]
  split_ifs
  · rfl
  · rfl
  · unfold MotionApi.handleSetBodyTwist
    split_ifs <;> rfl
  · unfold MotionApi.handleSetBodyPose
    split_ifs <;> rfl
  · rfl

theorem gaitDefaults_of_run (run : Run (WithOutput MotionApi.call) api₀ h api) (hkeeps : ∀ e ∈ h, KeepsParameters e) :
    gaitDefaults api.intent = gaitDefaults api₀.intent := by
  induction run with
  | nil => rfl
  | @step h s t label run hstep ih =>
    rw [List.forall_mem_cons] at hkeeps
    rw [← ih hkeeps.2]
    have hpost : (s.call label.1).1 = t := congrArg Prod.fst hstep
    obtain ⟨call, reply⟩ := label
    cases call with
    | setLiveState live_state motion_allowed =>
      rw [← hpost]
      rfl
    | handle msg_id req out_cap =>
      by_cases hcommand : msg_id ∈ gaitCommands
      · exact hkeeps.1 msg_id req out_cap rfl hcommand
      · rw [← hpost]
        exact gaitDefaults_handle hcommand req out_cap

theorem clampU16_eq_iff (v hi : UInt16) : clampU16 v hi = v ↔ v ≤ hi := by
  unfold clampU16
  split_ifs with hover
  · exact iff_of_false (fun heq => absurd hover (heq ▸ UInt16.lt_irrefl _)) (UInt16.not_le.mpr hover)
  · exact iff_of_true rfl (UInt16.not_lt.mp hover)

/-- A validated gait block is within the limits of the motion interface, up to its body height. -/
theorem gait_of_validate (hvalid : validateRobotConfig cfg = true) : cfg.gait.gait < Motiongait.kCount ∧
    cfg.gait.stride_len_mm ≤ Motionlim.kMaxStrideMm ∧ cfg.gait.step_height_mm ≤ Motionlim.kMaxStepMm := by
  unfold validateRobotConfig at hvalid
  simp only [Bool.if_false_left, Bool.and_eq_true, Bool.not_eq_true', decide_eq_false_iff_not,
    Bool.or_eq_true, not_or, beq_iff_eq] at hvalid
  obtain ⟨-, -, -, -, hgait, -, hstride, hstep, -⟩ := hvalid
  refine ⟨?_, UInt16.not_lt.mp hstride, UInt16.not_lt.mp hstep⟩
  have hle : cfg.gait.gait ≤ 5 := UInt8.not_lt.mp hgait
  exact UInt8.lt_of_le_of_lt hle (by decide)

/-- A validated gait block is stored as it is exactly when its body height is one the motion interface takes. -/
theorem gaitDefaults_baseline_iff (hvalid : validateRobotConfig cfg = true) (api : MotionApi F) :
    gaitDefaults (api.baseline cfg.gait).intent = cfg.gait ↔
      cfg.gait.body_height_mm ≤ Motionlim.kMaxBodyHeightMm := by
  obtain ⟨hgait, hstride, hstep⟩ := gait_of_validate hvalid
  have hstored : gaitDefaults (api.baseline cfg.gait).intent =
      { cfg.gait with body_height_mm := clampU16 cfg.gait.body_height_mm Motionlim.kMaxBodyHeightMm } := by
    unfold MotionApi.baseline MotionApi.setDefaults gaitDefaults
    rw [if_pos hgait, (clampU16_eq_iff _ _).mpr hstride, (clampU16_eq_iff _ _).mpr hstep]
  rw [hstored, ← clampU16_eq_iff]
  constructor
  · intro heq
    exact congrArg GaitDefaults.body_height_mm heq
  · intro heq
    rw [heq]

end HexapodVerified.Protocol

namespace HexapodVerified.Controller

open HexapodVerified.Config HexapodVerified.Gait HexapodVerified.Protocol FloatArith Transition

variable {F : Type} [FloatArith F] {cfg : RobotConfig}

theorem height_target_update (g : GaitPipeline F) (dt_ms : UInt32) :
    (g.update cfg dt_ms).1.engine.height_target = g.engine.height_target := by
  obtain ⟨_, _, _, _, hframe⟩ := g.update_frame cfg dt_ms
  obtain ⟨_, _, _, _, _, _, _, hengine⟩ := g.engine.update_frame dt_ms
  rw [hframe, hengine]

theorem height_target_setPreviewLeg (g : GaitPipeline F) (leg : Int8) :
    (g.setPreviewLeg leg).engine.height_target = g.engine.height_target := by
  obtain ⟨_, _, hframe⟩ := g.setPreviewLeg_frame leg
  rw [hframe]

omit [FloatArith F] in
theorem height_target_seedGoals (servos : List ServoStatus) (g : GaitPipeline F) :
    (seedGoals cfg servos g).engine.height_target = g.engine.height_target := by
  obtain ⟨_, hframe⟩ := seedGoals_frame cfg servos g
  rw [hframe]

/-- A step applies a body height: the command reports it and the pipeline is heading for it. -/
structure AppliesHeight (height_mm : UInt16) (core : ControllerCore F) (command : RobotCommand) : Prop where
  reported : command.diagnostics.applied_body_height_mm = height_mm
  pipeline : core.pipeline.engine.height_target = ofUInt16 height_mm

namespace Motion

variable (motion : Motion F) (cfg : RobotConfig) (inp : ControllerStepInput F)
  (previous_motion_gate : Bool) {command : RobotCommand}

theorem steer_height_target (d : DesiredMotion F) (dt_ms : UInt32) (preview : Bool) :
    (motion.steer cfg d dt_ms preview).pipeline.engine.height_target =
      ofUInt16 (toUInt16
        ((motion.steer cfg d dt_ms preview).body_command_shaper.current.body_height_mm + lit 0.5)) := by
  have hparams (height : UInt16) : (motion.pipeline.setParams cfg height d.stride d.step_height d.duty
      d.speed).engine.height_target = ofUInt16 height := by
    unfold GaitPipeline.setParams GaitEngine.configure
    dsimp only
    split_ifs <;> rfl
  unfold steer
  dsimp only
  rw [height_target_setPreviewLeg]
  split_ifs
  · exact hparams _
  · exact hparams _

theorem seed_height_target (servos : List ServoStatus) :
    (motion.seed cfg servos previous_motion_gate).body_command_shaper = motion.body_command_shaper ∧
      (motion.seed cfg servos previous_motion_gate).pipeline.engine.height_target =
        motion.pipeline.engine.height_target := by
  unfold seed
  split_ifs
  · exact ⟨rfl, height_target_seedGoals servos _⟩
  · exact ⟨rfl, rfl⟩

theorem drive_height :
    (motion.drive cfg inp previous_motion_gate command).2.diagnostics.applied_body_height_mm =
        toUInt16 ((motion.drive cfg inp previous_motion_gate command).1.body_command_shaper.current.body_height_mm +
          lit 0.5) ∧
      (motion.drive cfg inp previous_motion_gate command).1.pipeline.engine.height_target =
        ofUInt16 (toUInt16
          ((motion.drive cfg inp previous_motion_gate command).1.body_command_shaper.current.body_height_mm +
            lit 0.5)) := by
  unfold drive emit
  dsimp only
  rw [height_target_update, (seed_height_target _ _ _ _).1, (seed_height_target _ _ _ _).2,
    steer_height_target]
  exact ⟨rfl, rfl⟩

end Motion

namespace ControllerCore

variable (core : ControllerCore F) (inp : ControllerStepInput F)

structure JetsonDrives : Prop where
  gate : (core.step inp).2.motion_gate = true
  source : (core.step inp).2.command_source = .jetson

/-- The shaper has come to the body height that the host asks for. -/
def Settled : Prop :=
  (core.step inp).1.body_command_shaper.current.body_height_mm = ofUInt16 inp.intent.motion.body_height_mm

variable {core inp}

theorem step_of_jetsonDrives (hdrives : core.JetsonDrives inp) : ∃ command : RobotCommand,
    command.command_source = .jetson ∧
      (core.step inp).1.toMotion = ((core.configured inp).toMotion.drive
        (core.configured inp).config_cache.snapshot.robot inp core.previous_motion_gate command).1 ∧
      (core.step inp).2 = ((core.configured inp).toMotion.drive
        (core.configured inp).config_cache.snapshot.robot inp core.previous_motion_gate command).2 := by
  obtain ⟨hjetson, hmotion, hcommand⟩ := step_of_open core inp hdrives.gate (by rw [hdrives.source]; decide)
  exact ⟨core.reported inp, hjetson.trans hdrives.source, hmotion, hcommand⟩

theorem step_height (hdrives : core.JetsonDrives inp) :
    (core.step inp).2.diagnostics.applied_body_height_mm =
        toUInt16 ((core.step inp).1.body_command_shaper.current.body_height_mm + lit 0.5) ∧
      (core.step inp).1.pipeline.engine.height_target =
        ofUInt16 (toUInt16 ((core.step inp).1.body_command_shaper.current.body_height_mm + lit 0.5)) := by
  obtain ⟨command, -, hmotion, hcommand⟩ := step_of_jetsonDrives hdrives
  rw [hmotion, hcommand]
  exact Motion.drive_height ..

theorem step_shaper (hdrives : core.JetsonDrives inp) : (core.step inp).1.body_command_shaper =
    (core.configured inp).body_command_shaper.update (Motion.shaperInput (hostDesired inp.intent.motion))
      inp.time.dt_ms := by
  obtain ⟨command, hjetson, hmotion, -⟩ := step_of_jetsonDrives hdrives
  have hrc : (command.command_source == .rc) = false := by rw [hjetson]; rfl
  rw [hmotion]
  unfold Motion.drive Motion.emit
  rw [(Motion.seed_height_target _ _ _ _).1, hrc]
  rfl

end ControllerCore

section Settling

open Approach BodyCommandShaper

variable {b : BodyCommandShaper ℝ} {desired : BodyCommand ℝ} {dt_ms : UInt32}

structure Shaping (b : BodyCommandShaper ℝ) : Prop where
  mode : b.mode = .accelLimited
  limits : validateBodyCommandLimits b.limits = true

/-- What is left of a distance after a number of updates. -/
noncomputable def remaining (distance : ℝ) (updates : ℕ) : ℝ := max 0 (distance - updates / ((1000 : ℕ) : ℝ))

theorem heightRate_ge_one (hlimits : validateBodyCommandLimits b.limits = true)
    (hoverride : desired.height_rate_override_mm_per_s = lit 0) : 1 ≤ b.heightRate desired := by
  unfold validateBodyCommandLimits at hlimits
  simp only [Bool.and_eq_true, decide_eq_true_eq] at hlimits
  obtain ⟨⟨⟨⟨⟨⟨⟨⟨-, hrise⟩, -⟩, hlower⟩, -⟩, -⟩, -⟩, -⟩, -⟩ := hlimits
  have hone (v : UInt16) (hpos : 0 < v) : (1 : ℝ) ≤ ofUInt16 v := by
    have hnat : 1 ≤ v.toNat := UInt16.lt_iff_toNat_lt.mp hpos
    unfold ofUInt16
    rw [ofInt_exact]
    exact_mod_cast hnat
  unfold heightRate
  have hno : lt (lit 0 : ℝ) desired.height_rate_override_mm_per_s = false := by
    rw [hoverride]
    exact decide_eq_false (lt_irrefl _)
  rw [hno, if_neg Bool.false_ne_true]
  split_ifs
  · exact hone _ hrise
  · exact hone _ hlower

theorem boundedSeconds_ge (hdt : dt_ms ≠ 0) : 1 / 1000 ≤ boundedSeconds dt_ms := by
  have hpos : 1 ≤ (if dt_ms > kMaxBodyCommandIntegrationMs then kMaxBodyCommandIntegrationMs else dt_ms).toNat := by
    split_ifs
    · decide
    · exact Nat.one_le_iff_ne_zero.mpr fun hzero => hdt (UInt32.toNat_inj.mp hzero)
  unfold boundedSeconds ofUInt32
  rw [ofInt_exact, lit_exact]
  generalize (if dt_ms > kMaxBodyCommandIntegrationMs then kMaxBodyCommandIntegrationMs else dt_ms).toNat = n at hpos
  have hcast : (1 : ℝ) ≤ n := by exact_mod_cast hpos
  push_cast
  linarith

theorem current_height_update (hmode : b.mode = .accelLimited) (hdt : dt_ms ≠ 0) :
    (b.update desired dt_ms).current.body_height_mm =
      moveToward b.current.body_height_mm desired.body_height_mm
        (b.heightRate (b.clampDesired desired) * boundedSeconds dt_ms) := by
  have hseconds := boundedSeconds_ge hdt
  unfold BodyCommandShaper.update
  rw [hmode]
  change (if le (boundedSeconds dt_ms) (lit 0) = true then b else _).current.body_height_mm = _
  have hpos : ¬ le (boundedSeconds dt_ms) (lit 0) = true := by
    rw [le_exact, lit_exact, Rat.cast_zero]
    linarith
  rw [if_neg hpos]
  rfl

theorem update_height (hb : Shaping b) (hoverride : desired.height_rate_override_mm_per_s = lit 0)
    (hdt : dt_ms ≠ 0) : |desired.body_height_mm - (b.update desired dt_ms).current.body_height_mm| ≤
      remaining |desired.body_height_mm - b.current.body_height_mm| 1 := by
  have hrate : 1 ≤ b.heightRate (b.clampDesired desired) := heightRate_ge_one hb.limits hoverride
  have hseconds := boundedSeconds_ge hdt
  rw [current_height_update hb.mode hdt]
  generalize b.heightRate (b.clampDesired desired) = rate at hrate
  have hlimit : 1 / 1000 ≤ rate * boundedSeconds dt_ms :=
    hseconds.trans (le_mul_of_one_le_left (by linarith) hrate)
  have hnonneg : 0 ≤ rate * boundedSeconds dt_ms := by linarith
  rw [moveToward_exact hnonneg]
  by_cases hfar : rate * boundedSeconds dt_ms ≤ |desired.body_height_mm - b.current.body_height_mm|
  · rw [abs_sub_approach hnonneg hfar]
    refine le_max_of_le_right ?_
    linarith
  · rw [approach_of_abs_le (not_le.mp hfar).le, sub_self, abs_zero]
    exact le_max_left _ _

theorem remaining_remaining {distance distance' : ℝ} {n : ℕ} (hn : distance ≤ remaining distance' n) :
    remaining distance 1 ≤ remaining distance' (n + 1) := by
  unfold remaining at hn ⊢
  push_cast
  rcases le_max_iff.mp hn with hzero | hleft
  · exact max_le (le_max_left _ _) (le_max_of_le_left (by linarith))
  · exact max_le (le_max_left _ _) (le_max_of_le_right (by linarith))

/-- A step in which Jetson asks for this height, time passes, and no configuration is adopted. -/
structure AsksFor (height_mm : UInt16) (core : ControllerCore ℝ) (inp : ControllerStepInput ℝ) : Prop where
  drives : core.JetsonDrives inp
  height : inp.intent.motion.body_height_mm = height_mm
  passes : inp.time.dt_ms ≠ 0
  shaper : (core.configured inp).body_command_shaper = core.body_command_shaper

/-- While Jetson asks for a height, the shaper comes to it: a thousand steps suffice for every millimetre. -/
theorem height_settles {core₀ core : ControllerCore ℝ} {height_mm : UInt16}
    (hshaping : Shaping core₀.body_command_shaper)
    {h : List (Event (ControllerCore ℝ) (ControllerStepInput ℝ × RobotCommand))}
    (run : Run (WithOutput ControllerCore.step) core₀ h core) (hasks : ∀ e ∈ h, AsksFor height_mm e.pre e.label.1) :
    Shaping core.body_command_shaper ∧
      |ofUInt16 height_mm - core.body_command_shaper.current.body_height_mm| ≤
        remaining |ofUInt16 height_mm - core₀.body_command_shaper.current.body_height_mm| h.length := by
  induction run with
  | nil =>
    refine ⟨hshaping, ?_⟩
    unfold remaining
    rw [List.length_nil, Nat.cast_zero, zero_div, sub_zero]
    exact le_max_right _ _
  | @step h core t label run hstep ih =>
    rw [List.forall_mem_cons] at hasks
    obtain ⟨hasksNow, hasksBefore⟩ := hasks
    obtain ⟨hcore, hdistance⟩ := ih hasksBefore
    have hpost : (core.step label.1).1 = t := congrArg Prod.fst hstep
    have hupdate := ControllerCore.step_shaper hasksNow.drives
    rw [hasksNow.shaper, hpost] at hupdate
    have hframe := core.body_command_shaper.update_frame (Motion.shaperInput (hostDesired label.1.intent.motion))
      label.1.time.dt_ms
    have hheight := @update_height _ (Motion.shaperInput (hostDesired label.1.intent.motion)) _ hcore rfl
      hasksNow.passes
    rw [← hupdate] at hframe hheight
    refine ⟨⟨hframe.2.trans hcore.mode, hframe.1 ▸ hcore.limits⟩, ?_⟩
    have hwanted : (Motion.shaperInput (hostDesired label.1.intent.motion)).body_height_mm =
        (ofUInt16 height_mm : ℝ) := congrArg ofUInt16 hasksNow.height
    rw [hwanted] at hheight
    exact hheight.trans (remaining_remaining hdistance)

/-- A robot that Jetson takes over, with the height of an empty intent. -/
theorem height_settles_takeover : Shaping (armedCore.step takeoverStep).1.body_command_shaper ∧
    |ofUInt16 0 - (armedCore.step takeoverStep).1.body_command_shaper.current.body_height_mm| ≤
      remaining |ofUInt16 0 - armedCore.body_command_shaper.current.body_height_mm| 1 :=
  height_settles ⟨rfl, by decide⟩ (Run.nil.input takeoverStep)
    (List.forall_mem_singleton.mpr ⟨⟨by decide, by decide⟩, rfl, by decide, rfl⟩)

end Settling

def RoundsBack (F : Type) [FloatArith F] : Prop := ∀ n : UInt16, toUInt16 (ofUInt16 n + lit 0.5 : F) = n

/-- The intent carries the configured gait block, from any state of the motion interface before. -/
def BaselineStored (F : Type) [FloatArith F] (cfg : RobotConfig) : Prop :=
  ∀ (api₀ api : MotionApi F) h, Run (WithOutput MotionApi.call) (api₀.baseline cfg.gait) h api →
    (∀ e ∈ h, KeepsParameters e) → gaitDefaults api.intent = cfg.gait

/-- Under Jetson authority the configured body height is applied, once the shaper has settled. -/
def BaselineApplied (F : Type) [FloatArith F] (cfg : RobotConfig) : Prop :=
  ∀ (api₀ api : MotionApi F) h, Run (WithOutput MotionApi.call) (api₀.baseline cfg.gait) h api →
    (∀ e ∈ h, KeepsParameters e) → ∀ (core : ControllerCore F) inp, inp.intent.motion = api.intent →
      core.JetsonDrives inp → core.Settled inp →
      AppliesHeight cfg.gait.body_height_mm (core.step inp).1 (core.step inp).2

theorem baselineApplied_of_stored (hround : RoundsBack F) (hstored : BaselineStored F cfg) : BaselineApplied F cfg := by
  intro api₀ api h run hkeeps core inp hintent hdrives hsettled
  have hblock := hstored api₀ api h run hkeeps
  have hheight : api.intent.body_height_mm = cfg.gait.body_height_mm := congrArg GaitDefaults.body_height_mm hblock
  obtain ⟨hreported, hpipeline⟩ := ControllerCore.step_height hdrives
  rw [hsettled, hintent, hheight, hround] at hreported hpipeline
  exact ⟨hreported, hpipeline⟩

/-- The default configuration is accepted, and its body height is not stored. -/
theorem default_not_stored : validateRobotConfig defaultRobotConfig = true ∧
    ¬ BaselineStored ℝ defaultRobotConfig := by
  refine ⟨validate_defaultRobotConfig, fun hstored => ?_⟩
  have hblock := hstored {} _ [] .nil (List.forall_mem_nil _)
  exact absurd ((gaitDefaults_baseline_iff validate_defaultRobotConfig _).mp hblock) (by decide)

/-- The gait block of a validated configuration reaches the intent and its body height the pipeline exactly when
the height is one that the motion interface takes. -/
theorem baseline_reaches_iff (hround : RoundsBack F) (hvalid : validateRobotConfig cfg = true) :
    (BaselineStored F cfg ∧ BaselineApplied F cfg) ↔ cfg.gait.body_height_mm ≤ Motionlim.kMaxBodyHeightMm := by
  constructor
  · rintro ⟨hstored, -⟩
    exact (gaitDefaults_baseline_iff hvalid {}).mp (hstored {} _ [] .nil (List.forall_mem_nil _))
  · intro hheight
    have hstored : BaselineStored F cfg := by
      intro api₀ api h run hkeeps
      exact (gaitDefaults_of_run run hkeeps).trans ((gaitDefaults_baseline_iff hvalid api₀).mpr hheight)
    exact ⟨hstored, baselineApplied_of_stored hround hstored⟩

theorem roundsBack_exact : RoundsBack ℝ := by
  intro n
  have hfloor : ⌊((n.toNat : ℤ) : ℝ) + 1 / 2⌋ = (n.toNat : ℤ) := by
    rw [Int.floor_intCast_add]
    norm_num
  have hlit : (lit 0.5 : ℝ) = 1 / 2 := by
    rw [lit_exact]
    norm_num
  have hpos : (0 : ℝ) ≤ ((n.toNat : ℤ) : ℝ) + 1 / 2 := by positivity
  show UInt16.ofInt (if (0 : ℝ) ≤ ((n.toNat : ℤ) : ℝ) + lit 0.5 then ⌊((n.toNat : ℤ) : ℝ) + lit 0.5⌋ else _) = n
  have hlt : (n.toNat : ℤ) < 65536 := by exact_mod_cast n.toNat_lt
  rw [hlit, if_pos hpos, hfloor]
  exact UInt16.toNat_inj.mp (Int.ofNat_inj.mp (Dxl.toNat_ofInt (Int.natCast_nonneg _) hlt))

/-- The default configuration with a lower body. -/
theorem baseline_reaches_low : BaselineStored ℝ lowConfig ∧ BaselineApplied ℝ lowConfig :=
  (baseline_reaches_iff roundsBack_exact validate_lowConfig).mpr (by decide)

end HexapodVerified.Controller
