import HexapodVerified.Config.Proofs.ConfigApiProofs

/-!
# What the host reads back

The blocks that a host reads are windows of the staged bytes. A commit makes the staged configuration the
known-good one but leaves the staged bytes as they are, also where they are not what that
configuration is serialized as: the bytes of an older schema, or a name without terminator.
-/

namespace HexapodVerified.Config

open Bytes Transition

variable {api : ConfigApi} {tmp : RobotConfig} {persist : Persistence} {bytes : List UInt8}
  {h : List ConfigEvent} {e : ConfigEvent}

/-- The blocks read over the whole range are windows of the bytes. -/
def ServesBlocks (api : ConfigApi) (bytes : List UInt8) : Prop :=
  ∀ (persist : Persistence) (out_cap : Nat) (offset len : UInt16), len ≠ 0 →
    len.toNat ≤ kCfgBlockMax → offset.toNat + len.toNat ≤ kConfigPayloadSize →
    len.toNat + 4 ≤ out_cap →
    (api.handle persist Cfgmsg.kGetBlock (putU16 offset ++ putU16 len) out_cap).2 =
      { out := putU16 offset ++ (putU16 len ++ window bytes offset.toNat len.toNat) }

/-- The host reads back the configuration the robot runs, and its blocks carry the schema version that
the summary announces. -/
def BlocksCoherent (api : ConfigApi) : Prop :=
  ServesBlocks api (serializeRobotConfig api.shadow kConfigPayloadSize) ∧
    ∀ (persist : Persistence) (out_cap : Nat), 2 + 2 + 2 + 1 + 4 + kRobotNameLen ≤ out_cap →
      (api.handle persist Cfgmsg.kGetBlock (putU16 0 ++ putU16 2) out_cap).2.out.drop 4 =
        (api.handle persist Cfgmsg.kGetSummary [] out_cap).2.out.take 2

theorem handle_getBlock {out_cap : Nat} {offset len : UInt16} (hne : len ≠ 0)
    (hmax : len.toNat ≤ kCfgBlockMax) (hin : offset.toNat + len.toNat ≤ api.staging_len)
    (hcap : len.toNat + 4 ≤ out_cap) :
    (api.handle persist Cfgmsg.kGetBlock (putU16 offset ++ putU16 len) out_cap).2 =
      { out := putU16 offset ++ (putU16 len ++ window api.staging offset.toNat len.toNat) } := by
  have hoffset : getU16 (putU16 offset ++ putU16 len) = offset := getU16_putU16 offset
  have hlen : getU16 ((putU16 offset ++ putU16 len).drop 2) = len := getU16_putU16_self len
  show api.handleGetBlock (putU16 offset ++ putU16 len) out_cap = _
  unfold ConfigApi.handleGetBlock
  rw [hoffset, hlen, if_neg (by simp), if_neg]
  simp only [Bool.or_eq_true, beq_iff_eq, decide_eq_true_eq, not_or]
  exact ⟨⟨⟨hne, by omega⟩, by omega⟩, by omega⟩

theorem servesBlocks_iff (hcoherent : Coherent api) (hlen : bytes.length = kConfigPayloadSize) :
    ServesBlocks api bytes ↔ api.staging = bytes := by
  constructor
  · intro hserves
    refine List.ext_getElem? fun i => ?_
    by_cases hi : i < kConfigPayloadSize
    · have hsize : kConfigPayloadSize = 485 := rfl
      have htoNat : (UInt16.ofNat i).toNat = i := by
        rw [UInt16.toNat_ofNat', Nat.mod_eq_of_lt (by omega)]
      have hone : (1 : UInt16).toNat = 1 := rfl
      have hread := hserves {} 5 (UInt16.ofNat i) 1 (by decide) (by decide) (by omega) (by decide)
      rw [handle_getBlock (by decide) (by decide) (by rw [hcoherent.staging_len]; omega) (by decide),
        htoNat, hone] at hread
      have hwindow := congrArg (fun reply => reply.out.drop 4) hread
      have hbyte := congrArg List.head? (show window api.staging i 1 = window bytes i 1 from hwindow)
      unfold window at hbyte
      rwa [List.head?_take, List.head?_take, List.head?_drop, List.head?_drop] at hbyte
    · rw [List.getElem?_eq_none (by rw [hcoherent.staging]; omega),
        List.getElem?_eq_none (by rw [hlen]; omega)]
  · rintro rfl persist out_cap offset len hne hmax hin hcap
    exact handle_getBlock hne hmax (by rwa [hcoherent.staging_len]) hcap

/-- The host reads back the running configuration exactly when the staged bytes are what it is
serialized as. -/
theorem blocksCoherent_iff (hcoherent : Coherent api) :
    BlocksCoherent api ↔ api.staging = payloadOf api.shadow := by
  have hserves := servesBlocks_iff hcoherent (length_payloadOf api.shadow)
  unfold BlocksCoherent
  rw [serialize_eq, hserves]
  refine and_iff_left_of_imp fun hstaging persist out_cap hcap => ?_
  have hcapacity : ¬ out_cap < 2 + 2 + 2 + 1 + 4 + kRobotNameLen := Nat.not_lt.mpr hcap
  have htwo : (2 : UInt16).toNat = 2 := rfl
  rw [handle_getBlock (by decide) (by decide) (by rw [hcoherent.staging_len]; decide) (by omega),
    hstaging, payloadOf, schema_of_valid hcoherent.valid]
  show _ = (api.handleGetSummary persist out_cap).out.take 2
  unfold ConfigApi.handleGetSummary
  rw [if_neg hcapacity]
  rfl

/-- The event is a commit that answered `Ok`. -/
def CommittedOk (e : ConfigEvent) : Prop :=
  ∃ req out_cap reply, e.label.1.1 = .handle Cfgmsg.kCommit req out_cap ∧
    e.label.2 = .replied reply ∧ reply.out = [CfgResult.ok.wire]

theorem handleCommit_ok (hok : (api.handleCommit persist).2.out = [CfgResult.ok.wire]) :
    ∃ tmp, api.stagedValid = some tmp ∧
      (api.handleCommit persist).1 = { api with shadow := tmp, shadow_rev := api.shadow_rev + 1 } := by
  have hrefused : ∀ result, result ≠ CfgResult.ok →
      (resultReply result).out ≠ [CfgResult.ok.wire] :=
    fun result hne heq => hne (wire_ok_iff.mp heq)
  unfold ConfigApi.handleCommit at hok ⊢
  by_cases hallowed : (!api.apply_allowed) = true
  · rw [if_pos hallowed] at hok
    exact absurd hok (hrefused _ (by decide))
  · rw [if_neg hallowed] at hok ⊢
    cases hstaged : api.stagedValid with
    | none =>
      rw [hstaged] at hok
      exact absurd hok (hrefused _ (by decide))
    | some tmp =>
      rw [hstaged] at hok
      dsimp only at hok ⊢
      split_ifs at hok ⊢ with hpersistent hcommit
      · exact absurd hok (hrefused .volatile (by decide))
      · exact absurd hok (hrefused .commitFailed (by decide))
      · exact ⟨tmp, rfl, rfl⟩

/-- After a commit that answers `Ok`, the host reads back the running configuration exactly when the
staged bytes carried the current schema version and a terminated name. -/
theorem commit_blocks_coherent_iff (run : ConfigRun h api) (he : e ∈ h) (hcommit : CommittedOk e) :
    BlocksCoherent e.post ↔
      getU16 e.pre.staging = kSchemaVersion ∧ e.pre.staging.getD 17 1 = 0 := by
  obtain ⟨hstep, h', run'⟩ := run.of_mem he
  have hcoherent := run_coherent run'
  obtain ⟨pre, ⟨⟨c, persist⟩, out⟩, post⟩ := e
  obtain ⟨req, out_cap, reply, rfl, rfl, hok⟩ := hcommit
  have hpost : pre.handleCommit persist = (post, reply) := by
    have hpair : ((pre.handleCommit persist).1, ConfigOutput.replied (pre.handleCommit persist).2) =
        (post, .replied reply) := hstep
    rw [Prod.mk.injEq, ConfigOutput.replied.injEq] at hpair
    exact Prod.ext hpair.1 hpair.2
  have hanswer : (pre.handleCommit persist).2.out = [CfgResult.ok.wire] := by rw [hpost, hok]
  obtain ⟨tmp, hstaged, hreplaced⟩ := handleCommit_ok hanswer
  rw [hpost] at hreplaced
  obtain ⟨hread, hvalid⟩ := of_stagedValid hcoherent hstaged
  obtain ⟨hschema, hname⟩ := of_deserialize hread
  have hcoherent' : Coherent post := by
    rw [show post = _ from hreplaced]
    exact ⟨hvalid, hname, hcoherent.staging, hcoherent.staging_len⟩
  rw [blocksCoherent_iff hcoherent', show post = _ from hreplaced]
  constructor
  · intro hstaging
    rw [hstaging]
    refine ⟨?_, ?_⟩
    · rw [payloadOf, hschema]
      exact getU16_putU16 kSchemaVersion
    · rw [payloadOf_eq hschema, getD_schemaPayload]
      exact hname
  · rintro ⟨hversion, hlast⟩
    obtain ⟨cfg, hread', hbytes⟩ := payloadOf_deserialize hcoherent.staging hversion hlast
    rw [hread] at hread'
    obtain rfl := Option.some.inj hread'
    exact hbytes.symm

/-- The host is allowed to configure, and commits the staged bytes as they are. -/
def commitCalls : List (ConfigCall × Persistence) :=
  [(.setMutationPolicy true true, {}), (.handle Cfgmsg.kCommit [] 64, {})]

/-- Before the commit the host writes the schema version 8 over the staged version. -/
def staleCommitCalls : List (ConfigCall × Persistence) :=
  [(.setMutationPolicy true true, {}),
    (.handle Cfgmsg.kSetBlock (putU16 0 ++ (putU16 2 ++ putU16 8)) 64, {}),
    (.handle Cfgmsg.kCommit [] 64, {})]

/-- The state before the last of the calls, the call itself, and the state after it. -/
def lastEvent (calls : List (ConfigCall × Persistence)) : ConfigEvent :=
  (record ConfigApi.call .construct [] calls).2.headD
    ⟨.construct, ((.resetToDefaults, {}), .done), .construct⟩

theorem commit_blocks_coherent_iff_current : BlocksCoherent (lastEvent commitCalls).post := by
  have hcommit : CommittedOk (lastEvent commitCalls) :=
    ⟨[], 64, { resultReply .ok with persisted := some defaultPayload }, rfl,
      by decide +kernel, rfl⟩
  exact (commit_blocks_coherent_iff (run_record ConfigApi.call commitCalls .nil)
    (.head _) hcommit).mpr (by decide)

/-- After the commit of a payload of an older schema, the host reads back that payload and not the
configuration the robot runs. -/
theorem commit_blocks_incoherent : ¬ ∀ (h : List ConfigEvent) (api : ConfigApi), ConfigRun h api →
    ∀ e ∈ h, CommittedOk e → BlocksCoherent e.post := by
  intro hall
  have hcommit : CommittedOk (lastEvent staleCommitCalls) :=
    ⟨[], 64, { resultReply .ok with persisted := (lastEvent staleCommitCalls).pre.staging }, rfl,
      by decide +kernel, rfl⟩
  have hcoherent := hall _ _ (run_record ConfigApi.call staleCommitCalls .nil) _ (.head _) hcommit
  have hversion := hcoherent.2 {} 64 (by decide)
  revert hversion
  decide +kernel

end HexapodVerified.Config
