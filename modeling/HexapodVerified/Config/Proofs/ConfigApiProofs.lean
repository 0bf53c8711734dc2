import HexapodVerified.Config.ConfigApi
import HexapodVerified.Config.Proofs.CodecProofs

/-!
# Configuration transactions

A call keeps the configuration, edits the staged bytes, or replaces the known-good configuration by a valid
one and advances the revision. What the store was asked to persist reads back as the configuration
that the call left behind.
-/

namespace HexapodVerified.Config

open Bytes Transition

variable {api api' : ConfigApi} {cfg tmp : RobotConfig} {persist : Persistence}
  {c : ConfigCall × Persistence} {out : ConfigOutput} {h : List ConfigEvent} {e : ConfigEvent}

theorem length_payloadOf (cfg : RobotConfig) : (payloadOf cfg).length = kConfigPayloadSize := by
  have hblocks := (law_blocks cfg.schema_version cfg.robot_name false false).length (a := cfg)
    ⟨rfl, rfl, nofun, nofun⟩
  show (putU16 cfg.schema_version ++ (putName cfg.robot_name ++ putBlocks false false cfg)).length = _
  rw [List.length_append, List.length_append, Codec.law_u16.length trivial,
    law_name.length trivial, hblocks]
  rfl

theorem serialize_eq (cfg : RobotConfig) :
    serializeRobotConfig cfg kConfigPayloadSize = payloadOf cfg := serialize_of_le (Nat.le_refl _)

theorem of_deserialize {bytes : List UInt8} (hread : deserializeRobotConfig bytes = some cfg) :
    cfg.schema_version = kSchemaVersion ∧ NameTerminated cfg := by
  obtain ⟨version, size, old, -, -, -, rfl⟩ := of_deserialize_eq_some hread
  refine ⟨rfl, ?_⟩
  unfold NameTerminated
  rw [migrate_robot_name]
  exact get_terminated old.robot_name

theorem schema_of_valid (hvalid : validateRobotConfig cfg = true) :
    cfg.schema_version = kSchemaVersion := by
  by_contra hne
  unfold validateRobotConfig at hvalid
  rw [if_pos (bne_iff_ne.mpr hne)] at hvalid
  exact Bool.false_ne_true hvalid

/-- The known-good configuration is valid and terminated, the staging buffer is full. -/
structure Coherent (api : ConfigApi) : Prop where
  valid : validateRobotConfig api.shadow = true
  terminated : NameTerminated api.shadow
  staging : api.staging.length = kConfigPayloadSize
  staging_len : api.staging_len = kConfigPayloadSize

theorem coherent_replaceShadow (api : ConfigApi) (hvalid : validateRobotConfig cfg = true)
    (hname : NameTerminated cfg) : Coherent (api.replaceShadow cfg) where
  valid := hvalid
  terminated := hname
  staging := by
    show (serializeRobotConfig cfg kConfigPayloadSize).length = _
    rw [serialize_eq, length_payloadOf]
  staging_len := by
    show (serializeRobotConfig cfg kConfigPayloadSize).length = _
    rw [serialize_eq, length_payloadOf]

theorem coherent_construct : Coherent .construct :=
  coherent_replaceShadow _ validate_defaultRobotConfig (by decide)

theorem length_copyInto {dst data : List UInt8} {offset : Nat}
    (hin : offset + data.length ≤ dst.length) : (copyInto dst offset data).length = dst.length := by
  simp only [copyInto, List.length_append, List.length_take, List.length_drop]
  omega

theorem of_stagedValid (hcoherent : Coherent api) (hstaged : api.stagedValid = some tmp) :
    deserializeRobotConfig api.staging = some tmp ∧ validateRobotConfig tmp = true := by
  unfold ConfigApi.stagedValid at hstaged
  rw [hcoherent.staging_len, ← hcoherent.staging, List.take_length] at hstaged
  cases hread : deserializeRobotConfig api.staging with
  | none =>
    rw [hread] at hstaged
    cases hstaged
  | some staged =>
    rw [hread] at hstaged
    dsimp only at hstaged
    split_ifs at hstaged with hvalid
    cases hstaged
    exact ⟨rfl, hvalid⟩

theorem adoptPayload_eq {payload : List UInt8} (api : ConfigApi)
    (hread : deserializeRobotConfig payload = some tmp) (hvalid : validateRobotConfig tmp = true) :
    api.adoptPayload payload = (api.replaceShadow tmp, true) := by
  unfold ConfigApi.adoptPayload
  rw [hread]
  dsimp only
  rw [hvalid, Bool.not_true, if_neg Bool.false_ne_true, serialize_eq, length_payloadOf, bne_self_eq_false,
    if_neg Bool.false_ne_true]

/-! ## What a call does -/

/-- The call reports that it has replaced the known-good configuration. -/
def Replaces : ConfigCall → ConfigOutput → Prop
  | .adoptPayload _, .adopted ok => ok = true
  | .resetToDefaults, _ => True
  | .saveGaitDefaults _, .saved result _ => result = .ok
  | .handle msg_id _ _, .replied reply =>
    (msg_id = Cfgmsg.kCommit ∨ msg_id = Cfgmsg.kResetDefaults) ∧ reply.out = [CfgResult.ok.wire]
  | _, _ => False

/-- The call reports a failure: an error flag, a result other than `Ok`, or a refused payload. -/
def Failed : ConfigCall → ConfigOutput → Prop
  | .adoptPayload _, .adopted ok => ok = false
  | .saveGaitDefaults _, .saved result _ => result ≠ .ok
  | .handle msg_id _ _, .replied reply =>
    reply.flags = kErrorFlag ∨
      (msg_id = Cfgmsg.kValidate ∨ msg_id = Cfgmsg.kCommit ∨ msg_id = Cfgmsg.kResetDefaults) ∧
        reply.out ≠ [CfgResult.ok.wire]
  | _, _ => False

def persistedBy : ConfigOutput → Option (List UInt8)
  | .replied reply => reply.persisted
  | .saved _ persisted => persisted
  | _ => none

/-- The call is a commit or a save that answers `Ok`. -/
def Saves : ConfigCall → ConfigOutput → Prop
  | .saveGaitDefaults _, .saved result _ => result = .ok
  | .handle msg_id _ _, .replied reply =>
    msg_id = Cfgmsg.kCommit ∧ reply.out = [CfgResult.ok.wire]
  | _, _ => False

inductive Outcome (api : ConfigApi) (c : ConfigCall) : ConfigApi → ConfigOutput → Prop where
  /-- Nothing but the mutation policy may change. -/
  | kept {api' : ConfigApi} {out : ConfigOutput} (hshadow : api'.shadow = api.shadow)
      (hstaging : api'.staging = api.staging) (hlen : api'.staging_len = api.staging_len)
      (hrev : api'.shadow_rev = api.shadow_rev) (hno : ¬ Replaces c out)
      (hpersisted : persistedBy out = none) : Outcome api c api' out
  /-- The host has edited the staged bytes. -/
  | edited (staging : List UInt8) {out : ConfigOutput} (hlen : staging.length = api.staging.length)
      (hno : ¬ Replaces c out) (hok : ¬ Failed c out) (hpersisted : persistedBy out = none) :
      Outcome api c { api with staging } out
  /-- A valid configuration has replaced the known-good one, together with the staged bytes. -/
  | replaced (cfg : RobotConfig) {out : ConfigOutput} (hvalid : validateRobotConfig cfg = true)
      (hname : NameTerminated cfg) (hyes : Replaces c out) (hok : ¬ Failed c out)
      (hpersisted : (¬ Saves c out ∧ persistedBy out = none) ∨
        persistedBy out = some (payloadOf cfg)) :
      Outcome api c (api.replaceShadow cfg) out
  /-- The staged configuration has become the known-good one; the staged bytes stay as they are. -/
  | committed (tmp : RobotConfig) {out : ConfigOutput} (hstaged : api.stagedValid = some tmp)
      (hyes : Replaces c out) (hok : ¬ Failed c out)
      (hpersisted : persistedBy out = some (api.staging.take api.staging_len)) :
      Outcome api c { api with shadow := tmp, shadow_rev := api.shadow_rev + 1 } out

theorem wire_ok_iff {result : CfgResult} : [result.wire] = [CfgResult.ok.wire] ↔ result = .ok := by
  cases result <;> decide

theorem zero_ne_errorFlag : (0 : UInt8) ≠ kErrorFlag := by decide

theorem Outcome.refused {msg_id : UInt8} {req : List UInt8} {out_cap : Nat} {result : CfgResult}
    (hresult : result ≠ .ok) :
    Outcome api (.handle msg_id req out_cap) api (.replied (resultReply result)) := by
  refine .kept rfl rfl rfl rfl (fun hyes => hresult ?_) rfl
  exact wire_ok_iff.mp hyes.2

theorem outcome_setBlock (hcoherent : Coherent api) {req : List UInt8} {out_cap : Nat} :
    Outcome api (.handle Cfgmsg.kSetBlock req out_cap) (api.handleSetBlock req).1
      (.replied (api.handleSetBlock req).2) := by
  have hno : ∀ reply, ¬ Replaces (.handle Cfgmsg.kSetBlock req out_cap) (.replied reply) := by
    rintro reply ⟨hmsg | hmsg, -⟩
    · cases hmsg
    · cases hmsg
  unfold ConfigApi.handleSetBlock
  dsimp only
  split_ifs with hallowed hshort hrange
  iterate 3 · exact .kept rfl rfl rfl rfl (hno _) rfl
  · simp only [Bool.or_eq_true, decide_eq_true_eq, not_or] at hrange
    refine .edited _ (length_copyInto ?_) (hno _) ?_ rfl
    · rw [List.length_drop, hcoherent.staging, ← hcoherent.staging_len]
      omega
    · rintro (hflag | ⟨hmsg | hmsg | hmsg, -⟩)
      · exact absurd hflag zero_ne_errorFlag
      iterate 3 · cases hmsg

theorem outcome_commit {req : List UInt8} {out_cap : Nat} :
    Outcome api (.handle Cfgmsg.kCommit req out_cap) (api.handleCommit persist).1
      (.replied (api.handleCommit persist).2) := by
  unfold ConfigApi.handleCommit
  by_cases hallowed : (!api.apply_allowed) = true
  · rw [if_pos hallowed]
    exact .refused (by decide)
  · rw [if_neg hallowed]
    cases hstaged : api.stagedValid with
    | none => exact .refused (by decide)
    | some tmp =>
      split_ifs with hpersistent hok
      · exact .refused (by decide)
      · exact .refused (by decide)
      · refine .committed tmp hstaged ⟨.inl rfl, rfl⟩ ?_ rfl
        rintro (hflag | ⟨-, hresult⟩)
        · exact absurd hflag zero_ne_errorFlag
        · exact hresult rfl

theorem outcome_reset (c : ConfigCall) {out : ConfigOutput} (hyes : Replaces c out)
    (hok : ¬ Failed c out) (hnosave : ¬ Saves c out) (hpersisted : persistedBy out = none) :
    Outcome api c api.resetToDefaults out :=
  .replaced defaultRobotConfig validate_defaultRobotConfig (by decide) hyes hok
    (.inl ⟨hnosave, hpersisted⟩)

theorem outcome_handle (hcoherent : Coherent api) {msg_id : UInt8} {req : List UInt8} {out_cap : Nat} :
    Outcome api (.handle msg_id req out_cap) (api.handle persist msg_id req out_cap).1
      (.replied (api.handle persist msg_id req out_cap).2) := by
  -- A command that is neither a commit nor a reset replaces nothing.
  have hno : ∀ reply, msg_id ≠ Cfgmsg.kCommit → msg_id ≠ Cfgmsg.kResetDefaults →
      ¬ Replaces (.handle msg_id req out_cap) (.replied reply) := by
    rintro reply hcommit hreset ⟨hmsg | hmsg, -⟩
    · exact hcommit hmsg
    · exact hreset hmsg
  unfold ConfigApi.handle
  split_ifs with hmsg hsummary hget hset hvalidate hcommit hreset
  · refine .kept rfl rfl rfl rfl (hno _ ?_ ?_) rfl
    all_goals
      rintro rfl
      cases hmsg
  · obtain rfl := beq_iff_eq.mp hsummary
    refine .kept rfl rfl rfl rfl (hno _ (by decide) (by decide)) ?_
    show (api.handleGetSummary persist out_cap).persisted = none
    unfold ConfigApi.handleGetSummary
    split_ifs <;> rfl
  · obtain rfl := beq_iff_eq.mp hget
    refine .kept rfl rfl rfl rfl (hno _ (by decide) (by decide)) ?_
    show (api.handleGetBlock req out_cap).persisted = none
    unfold ConfigApi.handleGetBlock
    dsimp only
    split_ifs <;> rfl
  · obtain rfl := beq_iff_eq.mp hset
    exact outcome_setBlock hcoherent
  · obtain rfl := beq_iff_eq.mp hvalidate
    exact .kept rfl rfl rfl rfl (hno _ (by decide) (by decide)) rfl
  · obtain rfl := beq_iff_eq.mp hcommit
    exact outcome_commit
  · obtain rfl := beq_iff_eq.mp hreset
    unfold ConfigApi.handleResetDefaults
    split_ifs with hallowed
    · exact .refused (by decide)
    · refine outcome_reset _ ⟨.inr rfl, rfl⟩ ?_ (fun hsaves => nomatch hsaves.1) rfl
      rintro (hflag | ⟨-, hresult⟩)
      · exact absurd hflag zero_ne_errorFlag
      · exact hresult rfl
  · refine .kept rfl rfl rfl rfl (hno _ ?_ ?_) rfl
    · rintro rfl
      exact hcommit rfl
    · rintro rfl
      exact hreset rfl

theorem outcome_adopt {payload : List UInt8} :
    Outcome api (.adoptPayload payload) (api.adoptPayload payload).1
      (.adopted (api.adoptPayload payload).2) := by
  by_cases hreads : ∃ tmp, deserializeRobotConfig payload = some tmp ∧ validateRobotConfig tmp = true
  · obtain ⟨tmp, hread, hvalid⟩ := hreads
    rw [adoptPayload_eq api hread hvalid]
    exact .replaced tmp hvalid (of_deserialize hread).2 rfl (fun hfailed => by cases hfailed)
      (.inl ⟨fun hsaves => hsaves, rfl⟩)
  · have hrefused : api.adoptPayload payload = (api, false) := by
      unfold ConfigApi.adoptPayload
      cases hread : deserializeRobotConfig payload with
      | none => rfl
      | some tmp =>
        have hinvalid : validateRobotConfig tmp = false :=
          eq_false_of_ne_true fun hvalid => hreads ⟨tmp, hread, hvalid⟩
        dsimp only
        rw [hinvalid, Bool.not_false, if_pos rfl]
    rw [hrefused]
    exact .kept rfl rfl rfl rfl (fun hyes => by cases hyes) rfl

theorem outcome_save (hcoherent : Coherent api) {gait : GaitDefaults} :
    Outcome api (.saveGaitDefaults gait) (api.saveGaitDefaults persist gait).1
      (.saved (api.saveGaitDefaults persist gait).2.1 (api.saveGaitDefaults persist gait).2.2) := by
  have hkept : ∀ result, result ≠ CfgResult.ok →
      Outcome api (.saveGaitDefaults gait) api (.saved result none) :=
    fun result hresult => .kept rfl rfl rfl rfl hresult rfl
  unfold ConfigApi.saveGaitDefaults
  dsimp only
  split_ifs with hinvalid hlen hpersistent hok
  · exact hkept .validationFailed (by decide)
  · exact hkept .validationFailed (by decide)
  · exact hkept .volatile (by decide)
  · exact hkept .commitFailed (by decide)
  · rw [Bool.not_eq_true', Bool.not_eq_false] at hinvalid
    refine .replaced _ hinvalid hcoherent.terminated rfl (fun hfailed => hfailed rfl) (.inr ?_)
    exact congrArg some (serialize_eq _)

theorem call_outcome (hcoherent : Coherent api) (c : ConfigCall × Persistence) :
    Outcome api c.1 (api.call c).1 (api.call c).2 := by
  obtain ⟨c, persist⟩ := c
  cases c with
  | handle msg_id req out_cap => exact outcome_handle hcoherent
  | adoptPayload payload => exact outcome_adopt
  | resetToDefaults => exact outcome_reset _ trivial (fun hfailed => hfailed) (fun hsaves => hsaves) rfl
  | saveGaitDefaults gait => exact outcome_save hcoherent
  | setMutationPolicy staging_allowed apply_allowed =>
    exact .kept rfl rfl rfl rfl (fun hyes => hyes) rfl

theorem Outcome.coherent {c : ConfigCall} (houtcome : Outcome api c api' out)
    (hcoherent : Coherent api) : Coherent api' := by
  cases houtcome with
  | kept hshadow hstaging hlen hrev hno hpersisted =>
    refine ⟨?_, ?_, ?_, ?_⟩
    · rw [hshadow]
      exact hcoherent.valid
    · unfold NameTerminated
      rw [hshadow]
      exact hcoherent.terminated
    · rw [hstaging]
      exact hcoherent.staging
    · rw [hlen]
      exact hcoherent.staging_len
  | edited staging hlen hno hok hpersisted =>
    exact ⟨hcoherent.valid, hcoherent.terminated, hlen.trans hcoherent.staging, hcoherent.staging_len⟩
  | replaced cfg hvalid hname hyes hok hpersisted => exact coherent_replaceShadow api hvalid hname
  | committed tmp hstaged hyes hok hpersisted =>
    obtain ⟨hread, hvalid⟩ := of_stagedValid hcoherent hstaged
    exact ⟨hvalid, (of_deserialize hread).2, hcoherent.staging, hcoherent.staging_len⟩

theorem run_coherent (run : ConfigRun h api) : Coherent api := by
  refine run.invariant Coherent coherent_construct ?_
  rintro api ⟨c, out⟩ api' hcoherent hstep
  have houtcome := call_outcome hcoherent c
  rw [hstep] at houtcome
  exact houtcome.coherent hcoherent

theorem event_outcome (run : ConfigRun h api) (he : e ∈ h) :
    Coherent e.pre ∧ Outcome e.pre e.label.1.1 e.post e.label.2 := by
  obtain ⟨hstep, h', run'⟩ := run.of_mem he
  have hcoherent := run_coherent run'
  have houtcome := call_outcome hcoherent e.label.1
  rw [hstep] at houtcome
  exact ⟨hcoherent, houtcome⟩

theorem Outcome.revision {c : ConfigCall} (houtcome : Outcome api c api' out) :
    (Replaces c out → api'.shadow_rev = api.shadow_rev + 1) ∧
      (¬ Replaces c out → api'.shadow = api.shadow ∧ api'.shadow_rev = api.shadow_rev) := by
  cases houtcome with
  | kept hshadow hstaging hlen hrev hno hpersisted =>
    exact ⟨fun hyes => absurd hyes hno, fun _ => ⟨hshadow, hrev⟩⟩
  | edited staging hlen hno hok hpersisted =>
    exact ⟨fun hyes => absurd hyes hno, fun _ => ⟨rfl, rfl⟩⟩
  | replaced cfg hvalid hname hyes hok hpersisted =>
    exact ⟨fun _ => rfl, fun hno => absurd hyes hno⟩
  | committed tmp hstaged hyes hok hpersisted => exact ⟨fun _ => rfl, fun hno => absurd hyes hno⟩

theorem Outcome.failed {c : ConfigCall} (houtcome : Outcome api c api' out) (hfailed : Failed c out) :
    api'.shadow = api.shadow ∧ api'.staging = api.staging ∧ api'.staging_len = api.staging_len ∧
      api'.shadow_rev = api.shadow_rev := by
  cases houtcome with
  | kept hshadow hstaging hlen hrev hno hpersisted => exact ⟨hshadow, hstaging, hlen, hrev⟩
  | edited staging hlen hno hok hpersisted => exact absurd hfailed hok
  | replaced cfg hvalid hname hyes hok hpersisted => exact absurd hfailed hok
  | committed tmp hstaged hyes hok hpersisted => exact absurd hfailed hok

/-- What was persisted is adopted by a fresh api as the configuration that the call left behind. -/
theorem Outcome.persisted {c : ConfigCall} {bytes : List UInt8} (houtcome : Outcome api c api' out)
    (hcoherent : Coherent api) (hbytes : persistedBy out = some bytes) (fresh : ConfigApi) :
    fresh.adoptPayload bytes = (fresh.replaceShadow api'.shadow, true) := by
  cases houtcome with
  | kept hshadow hstaging hlen hrev hno hpersisted =>
    rw [hpersisted] at hbytes
    cases hbytes
  | edited staging hlen hno hok hpersisted =>
    rw [hpersisted] at hbytes
    cases hbytes
  | replaced cfg hvalid hname hyes hok hpersisted =>
    obtain ⟨-, hnone⟩ | hsome := hpersisted
    · rw [hnone] at hbytes
      cases hbytes
    · rw [hsome] at hbytes
      obtain rfl := Option.some.inj hbytes
      exact adoptPayload_eq fresh (deserialize_payloadOf (schema_of_valid hvalid) hname) hvalid
  | committed tmp hstaged hyes hok hpersisted =>
    obtain ⟨hread, hvalid⟩ := of_stagedValid hcoherent hstaged
    rw [hpersisted, hcoherent.staging_len, ← hcoherent.staging, List.take_length] at hbytes
    obtain rfl := Option.some.inj hbytes
    exact adoptPayload_eq fresh hread hvalid

theorem Saves.replaces {c : ConfigCall} (hsaves : Saves c out) : Replaces c out := by
  cases c with
  | handle msg_id req out_cap =>
    cases out with
    | replied reply => exact ⟨.inl hsaves.1, hsaves.2⟩
    | _ => exact absurd hsaves id
  | saveGaitDefaults gait =>
    cases out with
    | saved result persisted => exact hsaves
    | _ => exact absurd hsaves id
  | _ => exact absurd hsaves id

theorem Outcome.saves {c : ConfigCall} (houtcome : Outcome api c api' out) (hsaves : Saves c out) :
    ∃ bytes, persistedBy out = some bytes := by
  cases houtcome with
  | kept hshadow hstaging hlen hrev hno hpersisted => exact absurd hsaves.replaces hno
  | edited staging hlen hno hok hpersisted => exact absurd hsaves.replaces hno
  | replaced cfg hvalid hname hyes hok hpersisted =>
    obtain ⟨hnosave, -⟩ | hsome := hpersisted
    · exact absurd hsaves hnosave
    · exact ⟨_, hsome⟩
  | committed tmp hstaged hyes hok hpersisted => exact ⟨_, hpersisted⟩

/-- In every run the known-good configuration is valid, the revision advances by one exactly when it is
replaced, failures change nothing, and what a commit or a save has persisted is adopted by a fresh
api as the same configuration. -/
theorem config_transactions (run : ConfigRun h api) :
    validateRobotConfig api.shadow = true ∧
    (∀ e ∈ h, (Replaces e.label.1.1 e.label.2 → e.post.shadow_rev = e.pre.shadow_rev + 1) ∧
      (¬ Replaces e.label.1.1 e.label.2 →
        e.post.shadow = e.pre.shadow ∧ e.post.shadow_rev = e.pre.shadow_rev)) ∧
    (∀ e ∈ h, Failed e.label.1.1 e.label.2 →
      e.post.shadow = e.pre.shadow ∧ e.post.staging = e.pre.staging ∧
        e.post.staging_len = e.pre.staging_len ∧ e.post.shadow_rev = e.pre.shadow_rev) ∧
    ∀ e ∈ h, Saves e.label.1.1 e.label.2 →
      ∃ bytes, persistedBy e.label.2 = some bytes ∧
        ∃ fresh, ConfigApi.construct.adoptPayload bytes = (fresh, true) ∧
          fresh.shadow = e.post.shadow := by
  refine ⟨(run_coherent run).valid, fun e he => ?_, fun e he hfailed => ?_, fun e he hsaves => ?_⟩
  · exact (event_outcome run he).2.revision
  · exact (event_outcome run he).2.failed hfailed
  · obtain ⟨hcoherent, houtcome⟩ := event_outcome run he
    obtain ⟨bytes, hbytes⟩ := houtcome.saves hsaves
    exact ⟨bytes, hbytes, _, houtcome.persisted hcoherent hbytes .construct, rfl⟩

theorem save_ok {gait : GaitDefaults} (hvalid : validateRobotConfig { api.shadow with gait } = true) :
    (api.saveGaitDefaults {} gait).2.1 = .ok := by
  unfold ConfigApi.saveGaitDefaults
  dsimp only
  rw [hvalid, Bool.not_true, if_neg Bool.false_ne_true, serialize_eq, length_payloadOf,
    bne_self_eq_false, if_neg Bool.false_ne_true]
  rfl

theorem refused_save (api : ConfigApi) (gait : GaitDefaults) :
    (api.saveGaitDefaults { commit_ok := false } gait).2.1 ≠ .ok := by
  unfold ConfigApi.saveGaitDefaults
  dsimp only
  split_ifs with hvalid hlength hpersistent hcommit
  · nofun
  · nofun
  · nofun
  · nofun
  · exact absurd rfl hcommit

theorem replaced_of_save {gait : GaitDefaults} {persist : Persistence}
    (hok : (api.saveGaitDefaults persist gait).2.1 = .ok) :
    (api.saveGaitDefaults persist gait).1 = api.replaceShadow { api.shadow with gait } := by
  unfold ConfigApi.saveGaitDefaults at hok ⊢
  dsimp only at hok ⊢
  split_ifs at hok ⊢
  rfl

def lowerGait : GaitDefaults := { body_height_mm := 100 }

def saving (api : ConfigApi) (persist : Persistence) : ConfigEvent :=
  ⟨api, ((.saveGaitDefaults lowerGait, persist), (api.call (.saveGaitDefaults lowerGait, persist)).2),
    (api.call (.saveGaitDefaults lowerGait, persist)).1⟩

theorem run_saving (run : ConfigRun h api) (persist : Persistence) :
    ConfigRun (saving api persist :: h) (saving api persist).post := run.step rfl

theorem failed_saving {e : ConfigEvent} (he : e = saving api { commit_ok := false }) :
    Failed e.label.1.1 e.label.2 := he ▸ refused_save api lowerGait

theorem saves_saving {e : ConfigEvent} (he : e = saving api {}) (h : (api.saveGaitDefaults {} lowerGait).2.1 = .ok) :
    Saves e.label.1.1 e.label.2 ∧ e.post = api.replaceShadow { api.shadow with gait := lowerGait } :=
  he ▸ ⟨h, replaced_of_save h⟩

/-- A save that the store refuses, and the same save again. -/
theorem config_transactions_saved : ∃ (h : List ConfigEvent) (api : ConfigApi) (failed saved : ConfigEvent),
    ConfigRun h api ∧ h = [saved, failed] ∧ validateRobotConfig api.shadow = true ∧
    failed.post.shadow = failed.pre.shadow ∧ failed.post.shadow_rev = failed.pre.shadow_rev ∧
    saved.post.shadow_rev = saved.pre.shadow_rev + 1 ∧
    ∃ bytes, persistedBy saved.label.2 = some bytes ∧
      ∃ fresh, ConfigApi.construct.adoptPayload bytes = (fresh, true) ∧ fresh.shadow.gait = lowerGait := by
  obtain ⟨failed, hfailed⟩ : ∃ failed, failed = saving .construct { commit_ok := false } := ⟨_, rfl⟩
  obtain ⟨saved, hsaved⟩ : ∃ saved, saved = saving failed.post {} := ⟨_, rfl⟩
  have hstart : ConfigRun [failed] failed.post := hfailed ▸ run_saving .nil _
  have run : ConfigRun [saved, failed] saved.post := hsaved ▸ run_saving hstart _
  obtain ⟨hvalid, hrevision, hfails, hsaves⟩ := config_transactions run
  have hfirst : saved ∈ [saved, failed] := List.mem_cons_self ..
  have hsecond : failed ∈ [saved, failed] := List.mem_cons_of_mem _ (List.mem_singleton_self _)
  obtain ⟨hshadow, -, -, hrev⟩ := hfails _ hsecond (failed_saving hfailed)
  have hlower : validateRobotConfig { failed.post.shadow with gait := lowerGait } = true := by
    rw [hshadow, hfailed]
    decide +kernel
  obtain ⟨hok, hpost⟩ := saves_saving hsaved (save_ok hlower)
  obtain ⟨bytes, hbytes, fresh, hadopted, hsame⟩ := hsaves _ hfirst hok
  refine ⟨_, _, failed, saved, run, rfl, hvalid, hshadow, hrev, (hrevision _ hfirst).1 hok.replaces, bytes, hbytes,
    fresh, hadopted, ?_⟩
  rw [hsame, hpost]
  rfl

end HexapodVerified.Config
