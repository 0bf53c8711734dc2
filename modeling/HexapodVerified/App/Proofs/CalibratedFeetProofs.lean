import HexapodVerified.App.Proofs.CalibrationProofs
import HexapodVerified.App.Proofs.ThresholdProofs
import HexapodVerified.Config.Proofs.ValidateProofs

/-!
# Enabled feet are calibrated

A foot is enabled by a validated configuration or by a calibration, and both want its thresholds to be
usable. The table of thresholds is applied to all feet without such a check. So the enabled feet stay
calibrated exactly as long as every table that is applied is usable for them.
-/

namespace HexapodVerified.App

open HexapodVerified.Config HexapodVerified.Protocol HexapodVerified.Sensors Transition

variable {cfg : RobotConfig} {i : Fin kNumFeet} {foot : ContactFoot} {params : ContactParams}
  {s : ContactTasks} {h : List ContactTaskEvent}

/-- Thresholds at which a pressure can be told from none, and load from a touch. -/
def Usable (touch_thresh load_thresh : Int) : Prop := 0 < touch_thresh ∧ touch_thresh ≤ load_thresh

/-- If the foot is enabled, its thresholds are usable. -/
def Calibrated (foot : ContactFoot) : Prop :=
  foot.ctx.enabled = true → Usable foot.ctx.touch_thresh foot.ctx.load_thresh

/-- With usable thresholds no touch and no load is seen in a pressure of zero, and a load is a touch. -/
theorem Usable.contact {touch_thresh load_thresh : Int} (husable : Usable touch_thresh load_thresh)
    (delta : Int32) :
    (delta.toInt ≥ touch_thresh → delta ≠ 0) ∧
      (delta.toInt ≥ load_thresh → delta ≠ 0 ∧ delta.toInt ≥ touch_thresh) := by
  have hzero : delta.toInt ≥ touch_thresh → delta ≠ 0 := by
    rintro htouch rfl
    exact absurd husable.1 (not_lt.mpr htouch)
  exact ⟨hzero, fun hload => ⟨hzero (husable.2.trans hload), husable.2.trans hload⟩⟩

/-- A call that does not set the thresholds keeps a foot calibrated: it is enabled only with usable
thresholds. -/
theorem calibrated_call {c : ContactCall} (hcal : Calibrated foot)
    (hconfigure : ∀ cal params', c ≠ .configure cal params')
    (hset : ∀ leg near_thresh touch_thresh load_thresh,
      c ≠ .setThresholds leg near_thresh touch_thresh load_thresh) :
    Calibrated (foot.call i params c) := by
  have hmove := footMove_call i params foot c
  generalize foot.call i params c = foot' at hmove ⊢
  cases hmove with
  | configure cal params' => exact absurd rfl (hconfigure cal params')
  | setThresholds near_thresh touch_thresh load_thresh => exact absurd rfl (hset _ _ _ _)
  | captureBaseline => exact hcal
  | setEnabled enabled husable => exact husable
  | reset => exact hcal
  | fail sample now_ms hok =>
    unfold ContactFoot.failRead
    dsimp only
    split_ifs <;> exact hcal
  | mirror sample now_ms hok hoff => exact hcal
  | classify sample now_ms hok hon => exact hcal
  | timeout now_ms htimeout =>
    unfold ContactFoot.tickStaleness
    rw [if_pos htimeout]
    exact hcal
  | skip hother => exact hcal

theorem calibrated_configure (hvalid : validateRobotConfig cfg = true) (params : ContactParams)
    (i : Fin kNumFeet) (foot : ContactFoot) : Calibrated (foot.configure params (cfg.feet.get i)) := by
  intro hon
  have henabled : (cfg.feet.get i).enabled ≠ 0 := bne_iff_ne.mp hon
  obtain ⟨htouch, horder⟩ :=
    validateFoot_thresholds (validateFoot_of_validate hvalid i) henabled
  exact ⟨Int.natCast_pos.mpr htouch, Int.ofNat_le.mpr horder⟩

theorem calibrated_calibrate (hcal : ∀ i, Calibrated (s.g_contact.feet.get i)) (i : Fin kNumFeet) :
    Calibrated (s.calibrate.g_contact.feet.get i) := by
  unfold ContactTasks.calibrate
  split_ifs
  · dsimp only
    rw [get_calibrateFeet ((List.nodup_finRange _).filter _)]
    split_ifs
    · have hcapture : Calibrated (s.g_contact.feet.get i).captureBaseline := hcal i
      have henabled : Calibrated ((s.g_contact.feet.get i).captureBaseline.call i s.g_contact.params
          (.setEnabled i.val true)) := calibrated_call hcapture nofun nofun
      rwa [ContactFoot.call, if_pos rfl] at henabled
    · exact hcal i
  · exact hcal i

/-- If the step applies the staged table, that is usable for every foot that is enabled. -/
def TableUsable (e : ContactTaskEvent) : Prop :=
  e.label = .applyThresholds →
    e.pre.g_sensorApi.threshold_seq ≠ e.pre.applied_threshold_seq →
    ∀ i, (e.pre.g_contact.feet.get i).ctx.enabled = true →
      Usable (e.pre.g_sensorApi.thresholds.touch_thresh.get i).toNat
        (e.pre.g_sensorApi.thresholds.load_thresh.get i).toNat

def FeetCalibrated (s : ContactTasks) : Prop := ∀ i, Calibrated (s.g_contact.feet.get i)

theorem feetCalibrated_applyThresholds (hcal : FeetCalibrated s) :
    FeetCalibrated s.applyThresholds ↔
      (s.g_sensorApi.threshold_seq ≠ s.applied_threshold_seq →
        ∀ i, (s.g_contact.feet.get i).ctx.enabled = true →
          Usable (s.g_sensorApi.thresholds.touch_thresh.get i).toNat
            (s.g_sensorApi.thresholds.load_thresh.get i).toNat) := by
  unfold ContactTasks.applyThresholds
  by_cases hnew : s.g_sensorApi.threshold_seq ≠ s.applied_threshold_seq
  · rw [if_pos hnew]
    have hfoot : ∀ i, Calibrated (((List.finRange kNumFeet).foldl
        (applyRow s.g_sensorApi.thresholds) s.g_contact).feet.get i) ↔
          ((s.g_contact.feet.get i).ctx.enabled = true →
            Usable (s.g_sensorApi.thresholds.touch_thresh.get i).toNat
              (s.g_sensorApi.thresholds.load_thresh.get i).toNat) := by
      intro i
      rw [get_applyTable]
      exact Iff.rfl
    exact (forall_congr' hfoot).trans (imp_iff_right hnew).symm
  · rw [if_neg hnew]
    exact iff_of_true hcal fun hneq => absurd hneq hnew

theorem feetCalibrated_step (hcal : FeetCalibrated s) (a : ContactStep) :
    FeetCalibrated (s.step a) ↔ TableUsable ⟨s, a, s.step a⟩ := by
  have hother : a ≠ .applyThresholds → TableUsable ⟨s, a, s.step a⟩ := fun hne heq => absurd heq hne
  cases a with
  | applyThresholds =>
    exact (feetCalibrated_applyThresholds hcal).trans (imp_iff_right rfl).symm
  | command msg_id req out_cap => exact iff_of_true hcal (hother nofun)
  | calibrate => exact iff_of_true (calibrated_calibrate hcal) (hother nofun)
  | update leg sample now_ms =>
    refine iff_of_true (fun i => ?_) (hother nofun)
    show Calibrated ((s.g_contact.call (.update leg sample now_ms)).feet.get i)
    rw [get_call]
    exact calibrated_call (hcal i) nofun nofun
  | tickStaleness now_ms =>
    refine iff_of_true (fun i => ?_) (hother nofun)
    show Calibrated ((s.g_contact.call (.tickStaleness now_ms)).feet.get i)
    rw [get_call]
    exact calibrated_call (hcal i) nofun nofun
  | publish status readings => exact iff_of_true hcal (hother nofun)

/-- With a validated configuration, every enabled foot is calibrated in every state of a run exactly if
every table of thresholds that is applied is usable for the feet enabled then; and with calibrated
thresholds a touch or a load is never seen in a pressure of zero, and every load is a touch. -/
theorem enabled_calibrated_iff (hvalid : validateRobotConfig cfg = true)
    (run : ContactTaskRun cfg h s) :
    (Throughout FeetCalibrated h s ↔ ∀ e ∈ h, TableUsable e) ∧
      (FeetCalibrated s → ∀ i, (s.g_contact.feet.get i).ctx.enabled = true → ∀ delta : Int32,
        (delta.toInt ≥ (s.g_contact.feet.get i).ctx.touch_thresh → delta ≠ 0) ∧
        (delta.toInt ≥ (s.g_contact.feet.get i).ctx.load_thresh →
          delta ≠ 0 ∧ delta.toInt ≥ (s.g_contact.feet.get i).ctx.touch_thresh)) := by
  refine ⟨run.throughout_iff ?_ ?_, fun hcal i henabled => (hcal i henabled).contact⟩
  · intro i
    show Calibrated ((ContactEstimator.call {} (.configure cfg.feet {})).feet.get i)
    rw [get_call]
    exact calibrated_configure hvalid _ i _
  · rintro h ⟨s, a, s'⟩ - hstep hcal
    have hpost : s' = s.step a := hstep
    subst hpost
    exact feetCalibrated_step hcal a

def firstFootConfig : RobotConfig :=
  { defaultRobotConfig with
    feet := defaultRobotConfig.feet.setIfInBounds 0
      { near_thresh := 10, touch_thresh := 20, load_thresh := 30, enabled := 1 } }

theorem validate_firstFootConfig : validateRobotConfig firstFootConfig = true := by decide

instance (e : ContactTaskEvent) : Decidable (TableUsable e) :=
  inferInstanceAs (Decidable (e.label = .applyThresholds →
    e.pre.g_sensorApi.threshold_seq ≠ e.pre.applied_threshold_seq →
    ∀ i, (e.pre.g_contact.feet.get i).ctx.enabled = true →
      0 < ((e.pre.g_sensorApi.thresholds.touch_thresh.get i).toNat : Int) ∧
        ((e.pre.g_sensorApi.thresholds.touch_thresh.get i).toNat : Int) ≤
          (e.pre.g_sensorApi.thresholds.load_thresh.get i).toNat))

/-- A command sets the touch threshold of the first foot, and the task applies it. -/
def touchSteps (touch : UInt8) : List ContactStep :=
  [.command Sensormsg.kContactSetThresholds [0, 10, 0, touch, 0, 30, 0] 16, .applyThresholds]

theorem enabled_calibrated_iff_touched : Throughout FeetCalibrated
    (executeHistory ContactTasks.step (ContactTasks.start firstFootConfig) [] (touchSteps 25))
    (execute ContactTasks.step (ContactTasks.start firstFootConfig) (touchSteps 25)) :=
  (enabled_calibrated_iff validate_firstFootConfig (run_execute _ _ .nil)).1.mpr (by decide)

/-- The enabled foot gets a touch threshold of zero. -/
theorem enabled_without_threshold : ¬ ∀ (cfg : RobotConfig) (h : List ContactTaskEvent)
    (s : ContactTasks), validateRobotConfig cfg = true → ContactTaskRun cfg h s →
    Throughout FeetCalibrated h s := by
  intro hclaim
  have hfinal := (hclaim firstFootConfig _ _ validate_firstFootConfig
    (run_execute _ (touchSteps 0) .nil)).1 0
  have henabled : ((execute ContactTasks.step (ContactTasks.start firstFootConfig)
      (touchSteps 0)).g_contact.feet.get 0).ctx.enabled = true := by decide
  exact absurd (hfinal henabled).1 (by decide)

end HexapodVerified.App
