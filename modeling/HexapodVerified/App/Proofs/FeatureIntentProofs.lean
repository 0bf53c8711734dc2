import HexapodVerified.App.ConfigReapply
import HexapodVerified.Config.Proofs.ConfigApiProofs
import HexapodVerified.Lib.Tables
import Mathlib.Data.Nat.Bitwise

/-!
# Which features are desired

Commands name a feature by its number on the wire, the configuration by a bit. A configuration that
becomes active is applied bit by bit in the order of the wire numbers, and the two orders disagree on
passive pose and Jetson control. So what is desired is what the configuration asks for as long as it asks
for both or for neither of these.
-/

namespace HexapodVerified.App

open HexapodVerified.Config HexapodVerified.Protocol Transition Tables

variable {F : Type} [FloatArith F] {api : FeatureApi} {f g : Feature} {enable : Bool} {mask : UInt32}
  {msg_id : UInt8} {req : List UInt8} {out_cap : Nat} {s : ReapplyTasks F} {e : ReapplyEvent F}
  {h : List (ReapplyEvent F)} {cfg : RobotConfig}

theorem index_inj : f.index = g.index ↔ f = g := by
  cases f <;> cases g <;> decide

theorem index_ofIndex (i : Fin kFeatureCount) : (Feature.ofIndex i).index = i := by
  revert i
  decide

/-- The bit of `config::FeatureBit` with the name of the feature. -/
def featureBit : Feature → UInt32
  | .footContact => kFeatFootContact
  | .terrainLeveling => kFeatTerrainLeveling
  | .sensorPolling => kFeatSensorPolling
  | .passivePose => kFeatPassivePoseStream
  | .jetsonControl => kFeatJetsonControl

/-- The feature defaults have the bit of the feature. -/
def asksFor (mask : UInt32) (f : Feature) : Bool := mask &&& featureBit f != 0

/-- The feature whose bit has the wire number of `f`. -/
def bitOwner : Feature → Feature
  | .jetsonControl => .passivePose
  | .passivePose => .jetsonControl
  | f => f

theorem maskBit_eq (mask : UInt32) (i : Fin kFeatureCount) :
    FeatureApi.maskBit mask i = (mask &&& ((1 : UInt32) <<< UInt32.ofNat i.val) != 0) := by
  have hmod : (UInt32.ofNat i.val).toNat % 32 = i.val := by
    revert i
    decide
  have hone : ((1 : UInt32) <<< UInt32.ofNat i.val).toNat = 2 ^ i.val := by
    revert i
    decide
  have hshift : ((mask >>> UInt32.ofNat i.val) &&& 1).toNat = (mask.toNat.testBit i.val).toNat := by
    rw [UInt32.toNat_and, UInt32.toNat_shiftRight, hmod]
    rw [Nat.toNat_testBit, ← Nat.shiftRight_eq_div_pow]
    exact Nat.and_one_is_mod _
  have hand : (mask &&& ((1 : UInt32) <<< UInt32.ofNat i.val)).toNat =
      (mask.toNat.testBit i.val).toNat * 2 ^ i.val := by
    rw [UInt32.toNat_and, hone, Nat.and_two_pow]
  rw [Bool.eq_iff_iff]
  unfold FeatureApi.maskBit
  rw [bne_iff_ne, bne_iff_ne, ne_eq, ne_eq, ← UInt32.toNat_inj, ← UInt32.toNat_inj, hshift, hand]
  cases mask.toNat.testBit i.val with
  | false => simp
  | true => simp

theorem maskBit_index (mask : UInt32) (f : Feature) :
    FeatureApi.maskBit mask f.index = asksFor mask (bitOwner f) := by
  rw [maskBit_eq]
  cases f <;> rfl

@[simp] theorem desired_setDesired (want : Fin kFeatureCount → Bool) :
    (api.setDesired want).desiredEnabled f = want f.index :=
  congrArg FeatureState.desired (get_ofFn _ f.index)

@[simp] theorem desired_applyDefaults :
    (api.applyDefaults mask).desiredEnabled f = FeatureApi.maskBit mask f.index := desired_setDesired _

@[simp] theorem desired_setAvailability {available : Bool} {reason : FeatureReason} :
    (api.setAvailability f available reason).desiredEnabled g = api.desiredEnabled g := by
  unfold FeatureApi.setAvailability FeatureApi.desiredEnabled
  rw [get_set]
  split_ifs with heq
  · rw [heq]
  · rfl

theorem desired_accept :
    (api.accept f enable).desiredEnabled g = if f = g then enable else api.desiredEnabled g := by
  unfold FeatureApi.accept FeatureApi.desiredEnabled
  rw [get_set]
  by_cases heq : f = g
  · rw [if_pos heq, if_pos (congrArg Feature.index heq)]
  · rw [if_neg heq, if_neg fun hindex => heq (index_inj.mp hindex)]

theorem eq_of_accept_moved (hmoved : (api.accept f enable).desiredEnabled g ≠ api.desiredEnabled g) :
    f = g ∧ (api.accept f enable).desiredEnabled g = enable := by
  rw [desired_accept] at hmoved ⊢
  by_cases heq : f = g
  · exact ⟨heq, if_pos heq⟩
  · exact absurd (if_neg heq) hmoved

theorem applyDesired_cases (api : FeatureApi) (f : Feature) (enable : Bool) :
    (api.applyDesired f enable).2.result = .ok ∧ (api.applyDesired f enable).1 = api.accept f enable ∨
      (api.applyDesired f enable).2.result = .rejected ∧ (api.applyDesired f enable).1 = api := by
  unfold FeatureApi.applyDesired
  cases enable && !(api.state.get f.index).available with
  | true => exact .inr ⟨rfl, rfl⟩
  | false => exact .inl ⟨rfl, rfl⟩

@[simp] theorem desired_updateFeatureFlags {mux any_foot : Bool} {safetyState : UInt8} :
    (updateFeatureFlags api mux any_foot safetyState).desiredEnabled g = api.desiredEnabled g := by
  unfold updateFeatureFlags
  show (((FeatureApi.setAvailability _ _ _ _).setAvailability _ _ _).setAvailability _ _ _
    |>.desiredEnabled g) = _
  rw [desired_setAvailability, desired_setAvailability, desired_setAvailability]
  split_ifs
  all_goals rw [desired_setAvailability, desired_setAvailability]

/-- What `FEATURE_SET` can do: record the setting of the feature it names, or nothing. -/
theorem handleSet_cases (api : FeatureApi) (req : List UInt8) :
    (api.handleSet req).1 = api ∨
      ∃ f, (req.getD 0 0).toNat = f.index.val ∧
        (api.handleSet req).1 = api.accept f (req.getD 1 0 != 0) ∧
        (api.handleSet req).2.out.head? = some FeatureResult.ok.wire := by
  unfold FeatureApi.handleSet
  by_cases hlen : req.length < 2
  · rw [if_pos hlen]
    exact .inl rfl
  · rw [if_neg hlen]
    by_cases hfid : (req.getD 0 0).toNat < kFeatureCount
    · rw [dif_pos hfid]
      rcases applyDesired_cases api (.ofIndex ⟨_, hfid⟩) (req.getD 1 0 != 0) with
        ⟨hok, happly⟩ | ⟨-, happly⟩
      · refine .inr ⟨.ofIndex ⟨_, hfid⟩, ?_, happly, ?_⟩
        · rw [index_ofIndex]
        · exact congrArg (fun r : FeatureResult => some r.wire) hok
      · exact .inl happly
    · rw [dif_neg hfid]
      exact .inl rfl

/-- The event is an accepted command for this setting of the feature: one that names the feature, or the
reset to the compiled defaults. -/
def Commanded (e : ReapplyEvent F) (f : Feature) (want : Bool) : Prop :=
  match e.label with
  | .feature msg_id req out_cap =>
    ∃ reply ∈ (e.pre.g_featureApi.handle msg_id req out_cap).2,
      reply.out.head? = some FeatureResult.ok.wire ∧
        (msg_id = Featuremsg.kSet ∧ (req.getD 0 0).toNat = f.index.val ∧
            (req.getD 1 0 != 0) = want ∨
          msg_id = Featuremsg.kResetDefaults ∧ kFeatureDefaultEnabled f.index = want)
  | .sensor msg_id req out_cap =>
    ∃ reply ∈ (e.pre.command msg_id req out_cap).2,
      reply.out.head? = some SensorResult.ok.wire ∧ SensorGroup.enabling msg_id = some (f, want)
  | _ => False

/-- A feature command changes the setting of a feature only when it asks for that. -/
theorem commanded_feature
    (hmoved : (api.handle msg_id req out_cap).1.desiredEnabled f ≠ api.desiredEnabled f) :
    ∃ reply ∈ (api.handle msg_id req out_cap).2,
      reply.out.head? = some FeatureResult.ok.wire ∧
        (msg_id = Featuremsg.kSet ∧ (req.getD 0 0).toNat = f.index.val ∧
            (req.getD 1 0 != 0) = (api.handle msg_id req out_cap).1.desiredEnabled f ∨
          msg_id = Featuremsg.kResetDefaults ∧
            kFeatureDefaultEnabled f.index = (api.handle msg_id req out_cap).1.desiredEnabled f) := by
  unfold FeatureApi.handle at hmoved ⊢
  by_cases hgroup : (!Featuremsg.isFeatureMsg msg_id) = true
  · rw [if_pos hgroup] at hmoved
    exact absurd rfl hmoved
  rw [if_neg hgroup] at hmoved ⊢
  by_cases hget : msg_id = Featuremsg.kGet
  · rw [if_pos hget] at hmoved
    exact absurd rfl hmoved
  rw [if_neg hget] at hmoved ⊢
  by_cases hset : msg_id = Featuremsg.kSet
  · rw [if_pos hset] at hmoved ⊢
    rcases handleSet_cases api req with hsame | ⟨g, hg, haccept, hok⟩
    · exact absurd (congrArg (·.desiredEnabled f) hsame) hmoved
    · rw [Prod.map_fst, id_eq, haccept] at hmoved ⊢
      obtain ⟨rfl, hdesired⟩ := eq_of_accept_moved hmoved
      exact ⟨_, rfl, hok, .inl ⟨hset, hg, hdesired.symm⟩⟩
  rw [if_neg hset] at hmoved ⊢
  by_cases hreasons : msg_id = Featuremsg.kGetReasons
  · rw [if_pos hreasons] at hmoved
    exact absurd rfl hmoved
  rw [if_neg hreasons] at hmoved ⊢
  by_cases hreset : msg_id = Featuremsg.kResetDefaults
  · rw [if_pos hreset] at hmoved ⊢
    unfold FeatureApi.handleResetDefaults at hmoved ⊢
    by_cases hcap : out_cap < 3 + 4 * kFeatureCount
    · rw [if_pos hcap] at hmoved
      exact absurd rfl hmoved
    · rw [if_neg hcap]
      exact ⟨_, rfl, rfl, .inr ⟨hreset, (desired_setDesired _).symm⟩⟩
  · rw [if_neg hreset] at hmoved
    exact absurd rfl hmoved

theorem commanded_sensor
    (hmoved : (s.command msg_id req out_cap).1.g_featureApi.desiredEnabled f ≠
      s.g_featureApi.desiredEnabled f) :
    ∃ reply ∈ (s.command msg_id req out_cap).2,
      reply.out.head? = some SensorResult.ok.wire ∧
        SensorGroup.enabling msg_id =
          some (f, (s.command msg_id req out_cap).1.g_featureApi.desiredEnabled f) := by
  unfold ContactTasks.command SensorGroup.handle at hmoved ⊢
  by_cases hgroup : (!Sensormsg.isSensorMsg msg_id) = true
  · rw [if_pos hgroup] at hmoved
    exact absurd rfl hmoved
  rw [if_neg hgroup] at hmoved ⊢
  cases henabling : SensorGroup.enabling msg_id with
  | none =>
    rw [henabling] at hmoved
    exact absurd rfl hmoved
  | some asked =>
    obtain ⟨g, want⟩ := asked
    rw [henabling] at hmoved
    unfold applyFeature at hmoved ⊢
    dsimp only at hmoved ⊢
    by_cases hcap : out_cap < 5
    · rw [if_pos hcap] at hmoved
      exact absurd rfl hmoved
    rw [if_neg hcap] at hmoved ⊢
    rcases applyDesired_cases s.g_featureApi g want with ⟨hok, happly⟩ | ⟨-, happly⟩
    · rw [happly] at hmoved ⊢
      obtain ⟨rfl, hdesired⟩ := eq_of_accept_moved hmoved
      refine ⟨_, rfl, ?_, ?_⟩
      · exact congrArg (fun r => some (mapResult r).wire) hok
      · exact congrArg (fun b => some (g, b)) hdesired.symm
    · exact absurd (congrArg (·.desiredEnabled f) happly) hmoved

/-- The event is a service step that applies the active configuration. -/
def Applies (e : ReapplyEvent F) : Prop :=
  match e.label with
  | .reapply => e.pre.stale = true
  | _ => False

/-- After a configuration was applied, what it asks for is desired. -/
def FollowsConfig (e : ReapplyEvent F) : Prop :=
  Applies e → ∀ f, e.post.g_featureApi.desiredEnabled f =
    asksFor e.pre.g_configApi.shadow.feature_defaults f

/-- Any other event changes the setting of a feature only by a command for it. -/
def ChangedByCommand (e : ReapplyEvent F) : Prop :=
  ¬ Applies e → ∀ f, e.post.g_featureApi.desiredEnabled f ≠ e.pre.g_featureApi.desiredEnabled f →
    Commanded e f (e.post.g_featureApi.desiredEnabled f)

/-- Jetson control comes to be desired only when a command or the configuration asks for it. -/
def JetsonAsked (e : ReapplyEvent F) : Prop :=
  e.pre.g_featureApi.desiredEnabled .jetsonControl = false →
    e.post.g_featureApi.desiredEnabled .jetsonControl = true →
      Commanded e .jetsonControl true ∨
        Applies e ∧ asksFor e.pre.g_configApi.shadow.feature_defaults .jetsonControl = true

structure IntentKept (e : ReapplyEvent F) : Prop where
  config : FollowsConfig e
  commands : ChangedByCommand e
  jetson : JetsonAsked e

/-- A configuration that is applied asks for passive pose and Jetson control, or for neither. -/
def BitsAgree (e : ReapplyEvent F) : Prop :=
  Applies e → asksFor e.pre.g_configApi.shadow.feature_defaults .passivePose =
    asksFor e.pre.g_configApi.shadow.feature_defaults .jetsonControl

theorem desired_applied (happlies : Applies e) (hstep : e.post = e.pre.step e.label) (f : Feature) :
    e.post.g_featureApi.desiredEnabled f =
      asksFor e.pre.g_configApi.shadow.feature_defaults (bitOwner f) := by
  obtain ⟨r, a, r'⟩ := e
  cases a with
  | reapply =>
    have hpost : r' = r.applyConfig := hstep
    have hstale : r.stale = true := happlies
    unfold ReapplyTasks.applyConfig at hpost
    rw [if_pos hstale] at hpost
    subst hpost
    exact desired_applyDefaults.trans (maskBit_index _ f)
  | _ => exact happlies.elim

theorem changedByCommand (hstep : e.post = e.pre.step e.label) : ChangedByCommand e := by
  intro hnot f hmoved
  obtain ⟨r, a, r'⟩ := e
  have hpost : r' = r.step a := hstep
  subst hpost
  cases a with
  | feature msg_id req out_cap => exact commanded_feature hmoved
  | sensor msg_id req out_cap => exact commanded_sensor hmoved
  | updateFeatureFlags mux any_foot safetyState => exact absurd desired_updateFeatureFlags hmoved
  | reapply =>
    have hsame : r.applyConfig = r := if_neg hnot
    exact absurd (congrArg (·.g_featureApi.desiredEnabled f) hsame) hmoved
  | applyThresholds =>
    refine absurd ?_ hmoved
    show r.applyThresholds.g_featureApi.desiredEnabled f = _
    unfold ContactTasks.applyThresholds
    split_ifs <;> rfl
  | calibrate =>
    refine absurd ?_ hmoved
    show r.calibrate.g_featureApi.desiredEnabled f = _
    unfold ContactTasks.calibrate
    split_ifs <;> rfl
  | _ => exact absurd rfl hmoved

theorem jetsonAsked (hagree : BitsAgree e) (hstep : e.post = e.pre.step e.label) : JetsonAsked e := by
  intro hbefore hafter
  by_cases happlies : Applies e
  · refine .inr ⟨happlies, ?_⟩
    rw [← hagree happlies]
    exact (desired_applied happlies hstep .jetsonControl).symm.trans hafter
  · refine .inl ?_
    have hcommanded := changedByCommand hstep happlies .jetsonControl
      (by rw [hafter, hbefore]; exact Bool.true_eq_false_eq_False)
    rwa [hafter] at hcommanded

/-- What is desired after a configuration was applied is what it asks for, provided that it does not tell
passive pose from Jetson control. -/
theorem followsConfig_iff (hstep : e.post = e.pre.step e.label) : FollowsConfig e ↔ BitsAgree e := by
  constructor
  · intro hfollows happlies
    exact (desired_applied happlies hstep .jetsonControl).symm.trans (hfollows happlies .jetsonControl)
  · intro hagree happlies f
    rw [desired_applied happlies hstep]
    cases f with
    | jetsonControl => exact hagree happlies
    | passivePose => exact (hagree happlies).symm
    | _ => rfl

/-- **The intent of the features.** A run keeps it exactly if every configuration that is applied asks for
passive pose and Jetson control together or for neither of them. -/
theorem feature_intent_kept_iff (run : ReapplyRun h s) :
    (∀ e ∈ h, IntentKept e) ↔ ∀ e ∈ h, BitsAgree e := by
  constructor
  · intro hkept e he
    exact (followsConfig_iff (run.of_mem he).1).mp (hkept e he).config
  · intro hagree e he
    have hstep := (run.of_mem he).1
    exact ⟨(followsConfig_iff hstep).mpr (hagree e he), changedByCommand hstep,
      jetsonAsked (hagree e he) hstep⟩

/-- Sensor polling is switched off, and then the compiled defaults are applied. -/
def bootSteps : List ReapplyStep := [.feature Featuremsg.kSet [2, 0] 256, .reapply]

theorem feature_intent_kept_iff_boot :
    List.Forall IntentKept
      (executeHistory ReapplyTasks.step (ReapplyTasks.start : ReapplyTasks ℝ) [] bootSteps) := by
  refine List.forall_iff_forall_mem.mpr ?_
  refine (feature_intent_kept_iff (run_execute _ bootSteps .nil)).mpr fun e he happlies => ?_
  rcases List.mem_cons.mp he with rfl | he
  · exact (by decide : asksFor kFeatureDefaultMask .passivePose = asksFor kFeatureDefaultMask .jetsonControl)
  · rw [List.mem_singleton.mp he] at happlies
    exact happlies.elim

def passiveConfig : RobotConfig :=
  { defaultRobotConfig with feature_defaults := kFeatSensorPolling ||| kFeatPassivePoseStream }

theorem validate_passiveConfig : validateRobotConfig passiveConfig = true := by decide

theorem terminated_passiveConfig : NameTerminated passiveConfig :=
  (by decide : NameTerminated defaultRobotConfig)

/-- The state after the payload of a valid configuration was adopted at boot. -/
def afterAdoption (F : Type) [FloatArith F] (cfg : RobotConfig) : ReapplyTasks F :=
  { ReapplyTasks.start with g_configApi := ConfigApi.construct.replaceShadow cfg }

theorem adoption_run (hvalid : validateRobotConfig cfg = true) (hname : NameTerminated cfg) :
    ∃ h, ReapplyRun h (afterAdoption F cfg) := by
  refine ⟨_, Run.nil.step (i := .config (.adoptPayload (payloadOf cfg)) {}) ?_⟩
  have hadopt : (ConfigApi.construct.call (.adoptPayload (payloadOf cfg), {})).1 =
      ConfigApi.construct.replaceShadow cfg :=
    congrArg Prod.fst
      (adoptPayload_eq _ (deserialize_payloadOf (schema_of_valid hvalid) hname) hvalid)
  exact congrArg (fun api => ({ ReapplyTasks.start with g_configApi := api } : ReapplyTasks F))
    hadopt.symm

/-- The bit of passive pose switches Jetson control on. -/
theorem passive_bit_enables_jetson : ¬ ∀ (F : Type) [FloatArith F] (h : List (ReapplyEvent F))
    (s : ReapplyTasks F), ReapplyRun h s → ∀ e ∈ h, IntentKept e := by
  intro hclaim
  obtain ⟨h, run⟩ := adoption_run (F := ℝ) validate_passiveConfig terminated_passiveConfig
  have hkept := hclaim ℝ _ _ (run.step (i := .reapply) rfl) _ (List.mem_cons_self ..)
  have happlies : (afterAdoption ℝ passiveConfig).stale = true := by
    show (ConfigApi.construct.shadow_rev + 1 != 0xFFFFFFFF) = true
    decide
  have hagree : asksFor passiveConfig.feature_defaults .passivePose =
      asksFor passiveConfig.feature_defaults .jetsonControl :=
    (followsConfig_iff rfl).mp hkept.config happlies
  cases hagree

/-! ## What a gait save leaves alone

A saved gait moves the revision of the configuration, and the sensor task seeds everything it owns again
from a configuration of which only the gait is new. What had been set at runtime is lost, so the features
and the feet stay as they are exactly when they are as configured. -/

section GaitSave

open HexapodVerified.Sensors

variable {s : ReapplyTasks F} {persist : Persistence} {gait : GaitDefaults}

structure FootSetting where
  near_thresh : Int
  touch_thresh : Int
  load_thresh : Int
  release_thresh : Int
  enabled : Bool
  pressure_baseline : Int32

def footSetting (foot : ContactFoot) : FootSetting where
  near_thresh := foot.ctx.near_thresh
  touch_thresh := foot.ctx.touch_thresh
  load_thresh := foot.ctx.load_thresh
  release_thresh := foot.ctx.release_thresh
  enabled := foot.ctx.enabled
  pressure_baseline := foot.state.pressure_baseline

def configuredSetting (cal : FootSensorCal) : FootSetting where
  near_thresh := cal.near_thresh.toNat
  touch_thresh := cal.touch_thresh.toNat
  load_thresh := cal.load_thresh.toNat
  release_thresh := releaseThresh {} cal.touch_thresh
  enabled := cal.enabled != 0
  pressure_baseline := cal.pressure_baseline

theorem footSetting_configure (m : ContactEstimator) (feet : Vector FootSensorCal kNumFeet)
    (i : Fin kNumFeet) :
    footSetting ((m.configure feet {}).feet.get i) = configuredSetting (feet.get i) := by
  have hget : (m.configure feet {}).feet.get i = _ := Tables.get_ofFn _ i
  rw [hget]
  rfl

structure AsConfigured (s : ReapplyTasks F) : Prop where
  features : ∀ f : Feature, s.g_featureApi.desiredEnabled f =
    FeatureApi.maskBit s.g_configApi.shadow.feature_defaults f.index
  feet : ∀ i, footSetting (s.g_contact.feet.get i) = configuredSetting (s.g_configApi.shadow.feet.get i)

/-- From `s` to `t` the gait of the configuration was replaced and the motion defaults with it; the desired
features and the feet are the same. -/
structure GaitOnly (gait : GaitDefaults) (s t : ReapplyTasks F) : Prop where
  config : t.g_configApi.shadow = { s.g_configApi.shadow with gait }
  motion : t.g_motionApi = ReapplyTasks.seedMotion s.g_motionApi gait
  features : ∀ f, t.g_featureApi.desiredEnabled f = s.g_featureApi.desiredEnabled f
  feet : ∀ i, footSetting (t.g_contact.feet.get i) = footSetting (s.g_contact.feet.get i)

def afterSave (s : ReapplyTasks F) (gait : GaitDefaults) (persist : Persistence) : ReapplyTasks F :=
  s.step (.config (.saveGaitDefaults gait) persist)

theorem applyConfig_of_stale (hstale : s.stale = true) :
    s.applyConfig =
      { s with
        g_contact := s.g_contact.configure s.g_configApi.shadow.feet {}
        g_motionApi := ReapplyTasks.seedMotion s.g_motionApi s.g_configApi.shadow.gait
        g_featureApi := s.g_featureApi.applyDefaults s.g_configApi.shadow.feature_defaults
        applied_cfg_rev := s.g_configApi.shadow_rev } := if_pos hstale

theorem asConfigured_applied (hstale : s.stale = true) : AsConfigured s.applyConfig := by
  rw [applyConfig_of_stale hstale]
  exact ⟨fun _ => desired_applyDefaults, footSetting_configure _ _⟩

theorem shadow_afterSave (hok : (s.g_configApi.saveGaitDefaults persist gait).2.1 = .ok) :
    (afterSave s gait persist).g_configApi =
      s.g_configApi.replaceShadow { s.g_configApi.shadow with gait } :=
  replaced_of_save hok

/-- **The frame of a gait save.** The service step that follows a successful save and sees the new revision
leaves the desired features, the thresholds, the enable flags and the baselines as they were exactly if
they were as configured. -/
theorem gait_save_frame_iff
    (hok : (s.g_configApi.saveGaitDefaults persist gait).2.1 = .ok)
    (hseen : (afterSave s gait persist).stale = true) :
    GaitOnly gait s ((afterSave s gait persist).step .reapply) ↔ AsConfigured s := by
  have hconfig := shadow_afterSave hok
  have happlied : (afterSave s gait persist).step .reapply = _ := applyConfig_of_stale hseen
  have hfeatures : ∀ f : Feature, ((afterSave s gait persist).step .reapply).g_featureApi.desiredEnabled f =
      FeatureApi.maskBit s.g_configApi.shadow.feature_defaults f.index := by
    intro f
    rw [happlied, hconfig]
    exact desired_applyDefaults
  have hfeet : ∀ i, footSetting (((afterSave s gait persist).step .reapply).g_contact.feet.get i) =
      configuredSetting (s.g_configApi.shadow.feet.get i) := by
    intro i
    rw [happlied, hconfig]
    exact footSetting_configure _ _ i
  constructor
  · intro honly
    exact ⟨fun f => (honly.features f).symm.trans (hfeatures f),
      fun i => (honly.feet i).symm.trans (hfeet i)⟩
  · intro has
    refine ⟨?_, ?_, fun f => (hfeatures f).trans (has.features f).symm,
      fun i => (hfeet i).trans (has.feet i).symm⟩
    · rw [happlied, hconfig]
      rfl
    · rw [happlied, hconfig]
      rfl

def tunedGait : GaitDefaults := { defaultRobotConfig.gait with duty_x255 := 100 }

theorem validate_tunedGait : validateRobotConfig { defaultRobotConfig with gait := tunedGait } = true := by
  decide

/-- The compiled defaults were applied, and nothing else has happened. -/
def applied (F : Type) [FloatArith F] : ReapplyTasks F := ReapplyTasks.start.applyConfig

def pollingOff (F : Type) [FloatArith F] : ReapplyTasks F :=
  (applied F).step (.feature Featuremsg.kSet [2, 0] 256)

theorem tunedGait_saved (hconfig : s.g_configApi = ConfigApi.construct)
    (happlied : s.applied_cfg_rev = ConfigApi.construct.shadow_rev) :
    (s.g_configApi.saveGaitDefaults {} tunedGait).2.1 = .ok ∧
      (afterSave s tunedGait {}).stale = true := by
  have hok : (s.g_configApi.saveGaitDefaults {} tunedGait).2.1 = .ok := by
    rw [hconfig]
    exact save_ok validate_tunedGait
  refine ⟨hok, ?_⟩
  unfold ReapplyTasks.stale
  rw [shadow_afterSave hok, hconfig]
  show (ConfigApi.construct.shadow_rev + 1 != s.applied_cfg_rev) = true
  rw [happlied]
  decide

theorem gait_save_frame_iff_applied :
    GaitOnly tunedGait (applied ℝ) ((afterSave (applied ℝ) tunedGait {}).step .reapply) := by
  obtain ⟨hok, hseen⟩ := @tunedGait_saved ℝ _ (applied ℝ) rfl rfl
  exact (gait_save_frame_iff hok hseen).mpr (asConfigured_applied rfl)

/-- Sensor polling was off before the save; afterwards it is on again. -/
theorem gait_save_enables_polling : ¬ ∀ (F : Type) [FloatArith F] (h : List (ReapplyEvent F))
    (s : ReapplyTasks F) (gait : GaitDefaults) (persist : Persistence), ReapplyRun h s →
      (s.g_configApi.saveGaitDefaults persist gait).2.1 = .ok →
        (afterSave s gait persist).stale = true →
          GaitOnly gait s ((afterSave s gait persist).step .reapply) := by
  intro hclaim
  have run : ReapplyRun _ (pollingOff ℝ) :=
    run_execute ReapplyTasks.step [.reapply, .feature Featuremsg.kSet [2, 0] 256] .nil
  obtain ⟨hok, hseen⟩ := @tunedGait_saved ℝ _ (pollingOff ℝ) rfl rfl
  have hpolling := (hclaim ℝ _ _ tunedGait {} run hok hseen).features .sensorPolling
  have happlied : (afterSave (pollingOff ℝ) tunedGait {}).step .reapply = _ :=
    applyConfig_of_stale hseen
  rw [happlied, shadow_afterSave hok] at hpolling
  cases hpolling

end GaitSave

end HexapodVerified.App
