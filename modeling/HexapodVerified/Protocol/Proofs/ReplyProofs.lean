import HexapodVerified.Protocol.Api

/-!
# The replies of the handlers fit the payload buffer

Whatever the state of a handler, the message and the request, what it writes is no longer than the largest
payload.
-/

namespace HexapodVerified.Protocol

open HexapodVerified.Config HexapodVerified.Hil HexapodVerified.Input Bytes Codec Dispatch

variable {F : Type} [FloatArith F] {msg_id : UInt8} {req : List UInt8} {r : Reply}

theorem answered_le {α : Type} (out : α → List UInt8) {x a : α} {n : Nat} (h : some x = some a)
    (hx : (out x).length ≤ n) : (out a).length ≤ n := by
  cases h
  exact hx

namespace SubscriptionManager

variable {tel : SubscriptionManager}

theorem streamStats_length (i : Fin kNumStreams) (st : StreamState) :
    (streamStats i st).length = 12 := rfl

theorem handleRate_length {out_cap : Nat} :
    (tel.handleRate msg_id req out_cap).2.out.length ≤ 4 := by
  unfold handleRate
  dsimp only
  split_ifs <;> exact Nat.le_of_ble_eq_true rfl

theorem handleUnsubscribe_length {out_cap : Nat} :
    (tel.handleUnsubscribe req out_cap).2.out.length ≤ 2 := by
  unfold handleUnsubscribe
  dsimp only
  split_ifs <;> exact Nat.le_of_ble_eq_true rfl

theorem handleGetStreamStats_length {out_cap : Nat} :
    (tel.handleGetStreamStats out_cap).out.length ≤ 1 + 4 + kNumStreams * 12 := by
  unfold handleGetStreamStats
  split_ifs
  · exact Nat.le_of_ble_eq_true rfl
  · simp [streamStats_length]

theorem handle_length (h : (tel.handle msg_id req kMaxPayload).2 = some r) :
    r.out.length ≤ kMaxPayload := by
  unfold handle at h
  split_ifs at h
  · obtain rfl := Option.some.inj h
    exact handleRate_length.trans (by decide)
  · obtain rfl := Option.some.inj h
    exact handleUnsubscribe_length.trans (by decide)
  · obtain rfl := Option.some.inj h
    exact handleGetStreamStats_length.trans (by decide)

end SubscriptionManager

section

variable {api : ConfigApi} {persist : Persistence}

theorem handleGetSummary_length {out_cap : Nat} :
    (api.handleGetSummary persist out_cap).out.length ≤ 2 + 2 + 2 + 1 + 4 + kRobotNameLen := by
  unfold ConfigApi.handleGetSummary
  by_cases hcap : out_cap < 2 + 2 + 2 + 1 + 4 + kRobotNameLen
  · rw [if_pos hcap]
    exact Nat.zero_le _
  · rw [if_neg hcap]
    simp only [List.length_append, putU16_length, putU32_length, List.length_singleton,
      Vector.length_toList]
    omega

theorem handleGetBlock_length {out_cap : Nat} :
    (api.handleGetBlock req out_cap).out.length ≤ 4 + kCfgBlockMax := by
  unfold ConfigApi.handleGetBlock
  dsimp only
  split_ifs with hshort hrange
  · exact Nat.le_of_ble_eq_true rfl
  · exact Nat.le_of_ble_eq_true rfl
  · simp only [Bool.or_eq_true, decide_eq_true_eq, not_or, not_lt] at hrange
    have hwindow := List.length_take_le (Bytes.getU16 (req.drop 2)).toNat
      (api.staging.drop (Bytes.getU16 req).toNat)
    simp only [window, List.length_append, putU16_length]
    omega

theorem handleSetBlock_length : (api.handleSetBlock req).2.out.length ≤ 4 := by
  unfold ConfigApi.handleSetBlock
  dsimp only
  split_ifs <;> exact Nat.le_of_ble_eq_true rfl

theorem handleCommit_length : (api.handleCommit persist).2.out.length ≤ 1 := by
  unfold ConfigApi.handleCommit
  cases api.stagedValid with
  | none => split_ifs <;> exact Nat.le_refl 1
  | some tmp => split_ifs <;> exact Nat.le_refl 1

theorem handleResetDefaults_length : api.handleResetDefaults.2.out.length ≤ 1 := by
  unfold ConfigApi.handleResetDefaults
  split_ifs <;> exact Nat.le_refl 1

theorem config_length : (api.handle persist msg_id req kMaxPayload).2.out.length ≤ kMaxPayload := by
  unfold ConfigApi.handle
  split_ifs
  · exact Nat.zero_le _
  · exact handleGetSummary_length.trans (by decide)
  · exact handleGetBlock_length.trans (by decide)
  · exact handleSetBlock_length.trans (by decide)
  · exact Nat.le_of_ble_eq_true rfl
  · exact handleCommit_length.trans (by decide)
  · exact handleResetDefaults_length.trans (by decide)
  · exact Nat.zero_le _

theorem handleConfig_length (h : (Handlers.handleConfig persist msg_id req api).2 = some r) :
    r.out.length ≤ kMaxPayload := by
  unfold Handlers.handleConfig at h
  dsimp only at h
  split_ifs at h
  obtain rfl := Option.some.inj h
  exact config_length

end

section

variable {api : ObserverApi} {reply : ObserverReply} {result : ObserverResult} {cap : UInt16}

theorem observer_writeResult_length (h : ObserverApi.writeResult result cap = some reply) :
    reply.response.length ≤ 19 := by
  unfold ObserverApi.writeResult at h
  by_cases hcap : cap < 1
  · rw [if_pos hcap] at h
    cases h
  · rw [if_neg hcap] at h
    obtain rfl := Option.some.inj h
    exact Nat.le_of_ble_eq_true rfl

theorem observer_writeStatus_length (h : api.writeStatus result cap = some reply) :
    reply.response.length ≤ 19 := by
  unfold ObserverApi.writeStatus at h
  by_cases hcap : cap < 19
  · rw [if_pos hcap] at h
    cases h
  · rw [if_neg hcap] at h
    obtain rfl := Option.some.inj h
    exact Nat.le_refl 19

theorem handleOpenSession_length (h : (api.handleOpenSession req cap).2 = some reply) :
    reply.response.length ≤ 19 := by
  unfold ObserverApi.handleOpenSession at h
  split_ifs at h
  iterate 4 · exact observer_writeResult_length h
  · obtain rfl := Option.some.inj h
    exact Nat.le_of_ble_eq_true rfl

theorem handleCapture_length (h : (api.handleCapture req cap).2 = some reply) :
    reply.response.length ≤ 19 := by
  unfold ObserverApi.handleCapture at h
  dsimp only at h
  split_ifs at h
  iterate 7 · exact observer_writeResult_length h
  · obtain rfl := Option.some.inj h
    exact Nat.le_of_ble_eq_true rfl

theorem handleAbortCapture_length (h : (api.handleAbortCapture req cap).2 = some reply) :
    reply.response.length ≤ 19 := by
  unfold ObserverApi.handleAbortCapture at h
  split_ifs at h <;> exact observer_writeResult_length h

theorem handleMark_length (h : (api.handleMark req cap).2 = some reply) :
    reply.response.length ≤ 19 := by
  unfold ObserverApi.handleMark at h
  split_ifs at h <;> exact observer_writeResult_length h

theorem observer_length (h : (api.handle msg_id req cap).2 = some reply) :
    reply.response.length ≤ 19 := by
  rcases answer_of_ite h with h | h
  · cases h
  rcases answer_of_ite h with h | h
  · exact observer_writeStatus_length h
  rcases answer_of_ite h with h | h
  · exact observer_writeResult_length h
  rcases answer_of_ite h with h | h
  · exact handleOpenSession_length h
  rcases answer_of_ite h with h | h
  · unfold ObserverApi.handleCloseSession at h
    split_ifs at h <;> exact observer_writeResult_length h
  rcases answer_of_ite h with h | h
  · unfold ObserverApi.handleHeartbeat at h
    split_ifs at h <;> exact observer_writeResult_length h
  rcases answer_of_ite h with h | h
  · exact handleCapture_length h
  rcases answer_of_ite h with h | h
  · exact handleAbortCapture_length h
  rcases answer_of_ite h with h | h
  · exact handleMark_length h
  rcases answer_of_ite h with h | h
  · unfold ObserverApi.handleGetSessionStatus at h
    split_ifs at h
    · exact observer_writeResult_length h
    · exact observer_writeStatus_length h
  · cases h

end

theorem handleSetArming_length {api : ControlApi} :
    (api.handleSetArming req).2.out.length ≤ kMaxPayload := by
  unfold ControlApi.handleSetArming
  split_ifs <;> exact Nat.le_of_ble_eq_true rfl

theorem handleSetMode_length {api : ControlApi} :
    (api.handleSetMode req).2.out.length ≤ kMaxPayload := by
  unfold ControlApi.handleSetMode
  dsimp only
  split_ifs <;> exact Nat.le_of_ble_eq_true rfl

theorem control_length {api : ControlApi} (h : (api.handle msg_id req kMaxPayload).2 = some r) :
    r.out.length ≤ kMaxPayload := by
  unfold ControlApi.handle at h
  split_ifs at h
  iterate 3 · exact answered_le Reply.out h (Nat.le_of_ble_eq_true rfl)
  · exact answered_le Reply.out h handleSetArming_length
  · exact answered_le Reply.out h handleSetMode_length

section

variable {api : MotionApi F} {result : MotionResult} {out_cap : Nat}

theorem motion_writeResult_length : (api.writeResult result out_cap).out.length ≤ kMaxPayload := by
  unfold MotionApi.writeResult
  split_ifs <;> exact Nat.le_of_ble_eq_true rfl

theorem handleSetGait_length : (api.handleSetGait req out_cap).2.out.length ≤ kMaxPayload := by
  unfold MotionApi.handleSetGait
  dsimp only
  split_ifs <;> exact motion_writeResult_length

theorem handleSetGaitParams_length :
    (api.handleSetGaitParams req out_cap).2.out.length ≤ kMaxPayload := by
  unfold MotionApi.handleSetGaitParams
  split_ifs <;> exact motion_writeResult_length

theorem handleSetBodyTwist_length :
    (api.handleSetBodyTwist req out_cap).2.out.length ≤ kMaxPayload := by
  unfold MotionApi.handleSetBodyTwist
  split_ifs <;> exact motion_writeResult_length

theorem handleSetBodyPose_length :
    (api.handleSetBodyPose req out_cap).2.out.length ≤ kMaxPayload := by
  unfold MotionApi.handleSetBodyPose
  split_ifs <;> exact motion_writeResult_length

theorem motion_length (h : (api.handle msg_id req out_cap).2 = some r) :
    r.out.length ≤ kMaxPayload := by
  unfold MotionApi.handle at h
  split_ifs at h
  · exact answered_le Reply.out h motion_writeResult_length
  · exact answered_le Reply.out h handleSetGait_length
  · exact answered_le Reply.out h handleSetGaitParams_length
  · exact answered_le Reply.out h handleSetBodyTwist_length
  · exact answered_le Reply.out h handleSetBodyPose_length
  · exact answered_le Reply.out h motion_writeResult_length

end

section

variable {api : PassiveApi} {result : PassiveResult} {out_cap : Nat}

theorem passive_writeResult_length {extra : List UInt8} (hextra : extra.length ≤ 2) :
    (api.writeResult result out_cap extra).out.length ≤ kMaxPayload := by
  unfold PassiveApi.writeResult
  by_cases hcap : out_cap < 2 + extra.length
  · rw [if_pos hcap]
    exact Nat.le_of_ble_eq_true rfl
  · rw [if_neg hcap]
    dsimp only [List.length_cons, kMaxPayload]
    omega

theorem handleSetStreamRate_length :
    (api.handleSetStreamRate req out_cap).2.out.length ≤ kMaxPayload := by
  unfold PassiveApi.handleSetStreamRate
  dsimp only
  split_ifs
  iterate 3 · exact passive_writeResult_length (Nat.zero_le 2)
  · exact passive_writeResult_length (Nat.le_refl 2)

theorem passive_length (h : (api.handle msg_id req out_cap).2 = some r) :
    r.out.length ≤ kMaxPayload := by
  unfold PassiveApi.handle at h
  split_ifs at h
  iterate 3 · exact answered_le Reply.out h (passive_writeResult_length (Nat.zero_le 2))
  · exact answered_le Reply.out h handleSetStreamRate_length
  · exact answered_le Reply.out h (passive_writeResult_length (Nat.zero_le 2))
  · exact answered_le Reply.out h (passive_writeResult_length (Nat.zero_le 2))

end

section

variable {api : FeatureApi} {out_cap : Nat}

theorem writeFullState_length : api.writeFullState.length = 4 * kFeatureCount := by
  unfold FeatureApi.writeFullState
  simp [kFeatureCount]

theorem handleGet_length : (api.handleGet out_cap).out.length ≤ kMaxPayload := by
  unfold FeatureApi.handleGet
  split_ifs
  · exact Nat.le_of_ble_eq_true rfl
  · simp [writeFullState_length, kFeatureCount, kMaxPayload]

theorem handleSet_length : (api.handleSet req).2.out.length ≤ kMaxPayload := by
  unfold FeatureApi.handleSet
  dsimp only
  split_ifs <;> exact Nat.le_of_ble_eq_true rfl

theorem handleGetReasons_length : (api.handleGetReasons out_cap).out.length ≤ kMaxPayload := by
  unfold FeatureApi.handleGetReasons
  split_ifs
  · exact Nat.le_of_ble_eq_true rfl
  · simp [kFeatureCount, kMaxPayload]

theorem feature_resetDefaults_length :
    (api.handleResetDefaults out_cap).2.out.length ≤ kMaxPayload := by
  unfold FeatureApi.handleResetDefaults
  split_ifs
  · exact Nat.le_of_ble_eq_true rfl
  · simp [writeFullState_length, kFeatureCount, kMaxPayload]

theorem feature_length (h : (api.handle msg_id req out_cap).2 = some r) :
    r.out.length ≤ kMaxPayload := by
  unfold FeatureApi.handle at h
  split_ifs at h
  · exact answered_le Reply.out h handleGet_length
  · exact answered_le Reply.out h handleSet_length
  · exact answered_le Reply.out h handleGetReasons_length
  · exact answered_le Reply.out h feature_resetDefaults_length

end

section

variable {api : SensorGroup} {features : Option FeatureApi} {reply : SensorReply} {out_cap : Nat}

theorem applyFeature_length {f : Feature} {enable : Bool} :
    (applyFeature features f enable out_cap).2.out.length ≤ 5 := by
  unfold applyFeature
  cases features with
  | none => exact Nat.le_of_ble_eq_true rfl
  | some api =>
    split_ifs <;> exact Nat.le_of_ble_eq_true rfl

theorem handleContactSetThresholds_length {api : SensorApi} :
    (api.handleContactSetThresholds req).2.out.length ≤ 8 := by
  unfold SensorApi.handleContactSetThresholds
  dsimp only
  split_ifs <;> exact Nat.le_of_ble_eq_true rfl

theorem handleLevelingSetParams_length : (api.handleLevelingSetParams req).2.out.length ≤ 7 := by
  unfold SensorGroup.handleLevelingSetParams
  split_ifs <;> exact Nat.le_of_ble_eq_true rfl

theorem channelBytes_length (c : TopologyChannel) : (channelBytes c).length = 5 := rfl

theorem statusFootBytes_length (f : StatusFoot) : (statusFootBytes f).length = 7 := rfl

theorem encodeTopology_length : (api.encodeTopology out_cap).out.length ≤ kMaxPayload := by
  unfold SensorGroup.encodeTopology
  split_ifs
  · exact Nat.le_of_ble_eq_true rfl
  · simp [channelBytes_length, kSensorNumChannels, kMaxPayload]

theorem encodeStatus_length : (api.encodeStatus out_cap).out.length ≤ kMaxPayload := by
  unfold SensorGroup.encodeStatus
  split_ifs
  · exact Nat.le_of_ble_eq_true rfl
  · cases api.published with
    | none => simp [statusFootBytes_length, kSensorNumFeet, kMaxPayload]
    | some status => simp [statusFootBytes_length, kSensorNumFeet, kMaxPayload]

theorem handleSensorSetRate_length : (api.handleSensorSetRate req).2.out.length ≤ 3 := by
  unfold SensorGroup.handleSensorSetRate
  dsimp only
  split_ifs <;> exact Nat.le_of_ble_eq_true rfl

theorem stageCalibrate_length {api : SensorCalibrate} {mask : UInt8} :
    (api.stageCalibrate mask).2.out.length = 2 := by
  unfold SensorCalibrate.stageCalibrate
  split_ifs <;> rfl

theorem calibrate_length {api own : SensorCalibrate}
    (h : api.handle msg_id req = some (own, reply)) : reply.out.length ≤ 2 := by
  unfold SensorCalibrate.handle at h
  dsimp only at h
  split_ifs at h
  · cases h
    exact Nat.le_of_ble_eq_true rfl
  · obtain ⟨-, rfl⟩ := Prod.ext_iff.mp (Option.some.inj h)
    exact Nat.le_of_eq stageCalibrate_length
  · obtain ⟨-, rfl⟩ := Prod.ext_iff.mp (Option.some.inj h)
    exact Nat.le_of_eq stageCalibrate_length
  · cases h
    exact Nat.le_of_ble_eq_true rfl
  · obtain ⟨-, rfl⟩ := Prod.ext_iff.mp (Option.some.inj h)
    exact Nat.le_of_eq stageCalibrate_length

theorem handleOwn_length (h : (api.handleOwn msg_id req out_cap).2 = some reply) :
    reply.out.length ≤ kMaxPayload := by
  unfold SensorGroup.handleOwn at h
  split_ifs at h
  · exact (answered_le SensorReply.out h handleContactSetThresholds_length).trans (by decide)
  · exact (answered_le SensorReply.out h handleLevelingSetParams_length).trans (by decide)
  · cases h
    exact Nat.le_of_ble_eq_true rfl
  · exact answered_le SensorReply.out h encodeTopology_length
  · exact answered_le SensorReply.out h encodeStatus_length
  · exact (answered_le SensorReply.out h handleSensorSetRate_length).trans (by decide)
  · cases hcal : api.toSensorCalibrate.handle msg_id req with
    | none =>
      rw [hcal] at h
      cases h
    | some own =>
      rw [hcal] at h
      exact (answered_le SensorReply.out h (calibrate_length hcal)).trans (by decide)

theorem sensor_length (h : (api.handle features msg_id req out_cap).2.2 = some reply) :
    reply.out.length ≤ kMaxPayload := by
  unfold SensorGroup.handle at h
  split_ifs at h
  cases hfeature : SensorGroup.enabling msg_id with
  | none =>
    rw [hfeature] at h
    exact handleOwn_length h
  | some feature =>
    rw [hfeature] at h
    exact (answered_le SensorReply.out h applyFeature_length).trans (by decide)

end

/-! ## Maintenance -/

section

variable {api : MaintenanceApi} {reply : MaintReply} {out_cap : Nat}

theorem maint_writeResult_length {result : MaintResult} :
    (api.writeResult result out_cap).out.length ≤ 6 := by
  unfold MaintenanceApi.writeResult
  split_ifs <;> exact Nat.le_of_ble_eq_true rfl

theorem handleEnter_length : (api.handleEnter out_cap).2.out.length ≤ 6 := by
  unfold MaintenanceApi.handleEnter
  split_ifs
  iterate 3 · exact maint_writeResult_length
  · exact Nat.le_refl 6

theorem handleExit_length : (api.handleExit req out_cap).2.out.length ≤ 6 := by
  unfold MaintenanceApi.handleExit
  split_ifs <;> exact maint_writeResult_length

theorem handleHeartbeat_length : (api.handleHeartbeat req out_cap).2.out.length ≤ 6 := by
  unfold MaintenanceApi.handleHeartbeat
  split_ifs <;> exact maint_writeResult_length

theorem maintenance_length (h : (api.handle msg_id req out_cap).2 = some reply) :
    reply.out.length ≤ 6 := by
  unfold MaintenanceApi.handle at h
  split_ifs at h
  · exact answered_le MaintReply.out h handleEnter_length
  · exact answered_le MaintReply.out h handleExit_length
  · exact answered_le MaintReply.out h handleHeartbeat_length

end

section

variable {api : MaintTargetApi} {cfg : RobotConfig} {reply : MaintTargetReply} {out_cap : Nat}

theorem writeStatus_length {result : MaintTargetResult} :
    (api.writeStatus result out_cap).out.length ≤ 11 := by
  unfold MaintTargetApi.writeStatus
  split_ifs <;> exact Nat.le_of_ble_eq_true rfl

theorem setLegTarget_length {leg : Fin kNumLegs} :
    (api.setLegTarget F cfg leg req out_cap).2.out.length ≤ 11 := by
  unfold MaintTargetApi.setLegTarget
  dsimp only
  by_cases hcap : out_cap < 11
  · rw [if_pos hcap]
    exact writeStatus_length
  · rw [if_neg hcap]
    exact Nat.le_refl 11

theorem handleSetLegTarget_length :
    (api.handleSetLegTarget F cfg req out_cap).2.out.length ≤ 11 := by
  unfold MaintTargetApi.handleSetLegTarget
  dsimp only
  split_ifs
  · exact writeStatus_length
  · exact setLegTarget_length
  · exact writeStatus_length

theorem setJointTarget_length {slot : Slot} :
    (api.setJointTarget F cfg slot req out_cap).2.out.length ≤ 11 := by
  unfold MaintTargetApi.setJointTarget
  by_cases hunmapped : (MaintTargetApi.angleCommand F cfg slot (req.drop 2)).unmapped
  · rw [if_pos hunmapped]
    exact writeStatus_length
  · rw [if_neg hunmapped]
    by_cases hcap : out_cap < 6
    · rw [if_pos hcap]
      exact writeStatus_length
    · rw [if_neg hcap]
      exact Nat.le_of_ble_eq_true rfl

theorem handleSetJointTarget_length :
    (api.handleSetJointTarget F cfg req out_cap).2.out.length ≤ 11 := by
  unfold MaintTargetApi.handleSetJointTarget
  dsimp only
  split_ifs
  · exact writeStatus_length
  · exact setJointTarget_length
  · exact writeStatus_length

theorem handleSetControlMode_length : (api.handleSetControlMode req out_cap).2.out.length ≤ 11 := by
  unfold MaintTargetApi.handleSetControlMode
  by_cases hbad : req.length < 1 ∨ req.getD 0 0 > controlModeWire .gaitPipeline
  · rw [if_pos hbad]
    exact writeStatus_length
  · rw [if_neg hbad]
    by_cases hcap : out_cap < 3
    · rw [if_pos hcap]
      exact writeStatus_length
    · rw [if_neg hcap]
      exact Nat.le_of_ble_eq_true rfl

theorem handleSetAllJoints_length :
    (api.handleSetAllJoints F cfg req out_cap).2.out.length ≤ 11 := by
  unfold MaintTargetApi.handleSetAllJoints
  split_ifs
  · exact writeStatus_length
  · exact writeStatus_length
  · simp only [List.length_cons, Vector.length_toList]
    omega

theorem maintTarget_length (h : (api.handle F msg_id req out_cap).2 = some reply) :
    reply.out.length ≤ 11 := by
  unfold MaintTargetApi.handle at h
  by_cases hmine : Mainttargetmsg.isMaintTargetMsg msg_id
  case neg =>
    rw [if_pos (by rw [eq_false_of_ne_true hmine]; rfl)] at h
    cases h
  rw [if_neg (by rw [hmine]; exact Bool.false_ne_true)] at h
  split at h
  · split_ifs at h
    · exact answered_le MaintTargetReply.out h handleSetLegTarget_length
    · exact answered_le MaintTargetReply.out h handleSetJointTarget_length
    · exact answered_le MaintTargetReply.out h handleSetControlMode_length
    · exact answered_le MaintTargetReply.out h handleSetAllJoints_length
  · exact answered_le MaintTargetReply.out h writeStatus_length

end

section

variable {api : DxlJobApi}

theorem writeSubmit_length {result : DxlSubmit} {job_id : UInt8} {slot : Dxljob.Slot} {out_cap : Nat} :
    (DxlJobApi.writeSubmit result job_id slot out_cap).out.length ≤ kMaxPayload := by
  unfold DxlJobApi.writeSubmit
  split_ifs <;> exact Nat.le_of_ble_eq_true rfl

theorem handleGetResult_length : (api.handleGetResult req kMaxPayload).out.length ≤ kMaxPayload := by
  unfold DxlJobApi.handleGetResult
  dsimp only
  split_ifs
  · exact Nat.le_of_ble_eq_true rfl
  · have hdata := List.length_take_le
      (min (api.queue.poll (req.getD 0 0) {}).2.len.toNat (kMaxPayload - 3))
      (api.queue.poll (req.getD 0 0) {}).2.data.toList
    simp only [List.length_append, List.length_cons, List.length_nil]
    dsimp only [kMaxPayload] at *
    omega
  · exact Nat.le_of_ble_eq_true rfl

theorem submitJob_length {job : DxlJobRequest} {out_cap : Nat} :
    (api.submitJob job out_cap).2.out.length ≤ kMaxPayload := by
  unfold DxlJobApi.submitJob
  split <;> exact writeSubmit_length

theorem dxl_length (h : (api.handle msg_id req kMaxPayload).2 = some r) :
    r.out.length ≤ kMaxPayload := by
  unfold DxlJobApi.handle at h
  split_ifs at h
  · exact answered_le Reply.out h handleGetResult_length
  · exact answered_le Reply.out h writeSubmit_length
  · split at h
    · cases h
    · exact answered_le Reply.out h writeSubmit_length
    · exact answered_le Reply.out h submitJob_length

end

section

variable {api : ControllerApi F}

theorem controller_writeResult_length {result : ControllerResult} {out_cap : Nat} :
    (ControllerApi.writeResult result out_cap).out.length ≤ kMaxPayload := by
  unfold ControllerApi.writeResult
  split_ifs <;> exact Nat.le_of_ble_eq_true rfl

theorem length_putVector {α : Type} {n m : Nat} {put : α → List UInt8} (hput : ∀ a, (put a).length = m)
    (entries : Vector α n) : (putVector put entries).length = n * m := by
  unfold putVector
  simp [hput]

theorem putAxis_length {a : AxisBinding F} : (putAxis a).length = 4 := rfl

theorem putEnum_length {α : Type} [DecidableEq α] {all : List α} {a : α} :
    (putEnum all a).length = 1 := rfl

theorem putU8_length {v : UInt8} : (putU8 v).length = 1 := rfl

theorem putI16_length {v : Int16} : (putI16 v).length = 2 := rfl

theorem encodeState_length {cmd : ControllerCommand F} {raw : ChannelPackInputs} :
    (encodeState cmd raw).length = kControllerStateLen := by
  have hcommand : (encodeCommand cmd).length = 31 := by
    unfold encodeCommand
    simp only [List.length_append, putEnum_length, putU8_length, putI16_length, List.length_cons,
      List.length_nil]
  have hinputs : (encodeInputs raw).length = 26 := by
    unfold encodeInputs
    simp only [List.length_append, List.length_cons, List.length_nil]
    rw [length_putVector (m := 2) fun _ => rfl, length_putVector (m := 2) fun _ => rfl,
      length_putVector (m := 4) fun _ => rfl, length_putVector (m := 1) fun _ => rfl,
      length_putVector (m := 1) fun _ => rfl]
  unfold encodeState
  rw [List.length_append, hcommand, hinputs]

theorem encodeBindings_length {cfg : BindingConfig F} :
    (encodeBindings cfg).length = kControllerBindingsLen := by
  unfold encodeBindings
  simp only [List.length_append, putAxis_length, putEnum_length]
  rw [length_putVector (m := 2) fun _ => rfl]
  rfl

theorem handleSetBindings_length {out_cap : Nat} :
    (api.handleSetBindings req out_cap).2.out.length ≤ kMaxPayload := by
  unfold ControllerApi.handleSetBindings
  split <;> exact controller_writeResult_length

theorem controller_length {out_cap : Nat} (h : (api.handle msg_id req out_cap).2 = some r) :
    r.out.length ≤ kMaxPayload := by
  unfold ControllerApi.handle at h
  split_ifs at h
  · exact answered_le Reply.out h controller_writeResult_length
  · exact answered_le Reply.out h (encodeState_length.le.trans (by decide))
  · exact answered_le Reply.out h controller_writeResult_length
  · exact answered_le Reply.out h (encodeBindings_length.le.trans (by decide))
  · exact answered_le Reply.out h handleSetBindings_length
  · exact answered_le Reply.out h controller_writeResult_length

end

end HexapodVerified.Protocol
