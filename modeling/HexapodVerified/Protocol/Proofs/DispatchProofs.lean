import HexapodVerified.Protocol.Proofs.FramingProofs
import HexapodVerified.Protocol.Proofs.ReplyProofs

/-!
# Every command is answered once, by its own group

A command gets one response frame, whatever it asks and whatever state the handlers are in, and no group
is changed by a message outside of its block. The exceptions are those the dispatcher makes: a greeting
drops the subscriptions, the heartbeat of the companion is noted, and the sensor group reaches the feature
store.
-/

namespace HexapodVerified.Protocol

open HexapodVerified.Config HexapodVerified.Hil Bytes Dispatch

variable {F : Type} [FloatArith F] {hs s : Handlers F} {persist : Persistence} {msg_id : UInt8}
  {req : List UInt8} {r : Reply} {info : DeviceInfo} {status : StatusSnapshot} {g g' : Group}

namespace Group

def State (F : Type) [FloatArith F] : Group → Type
  | .config => Option ConfigApi
  | .telemetry => Option SubscriptionManager
  | .hilObserver => Option ObserverApi
  | .control => Option ControlApi
  | .motion => Option (MotionApi F)
  | .feature => Option FeatureApi
  | .maintenance => Option MaintenanceApi
  | .maintTarget => Option MaintTargetApi
  | .dxl => Option DxlJobApi
  | .sensor => Option SensorGroup × StoreLink
  | .passive => Option PassiveApi
  | .controller => Option (ControllerApi F)

def state : (g : Group) → Handlers F → g.State F
  | .config, hs => hs.cfg
  | .telemetry, hs => hs.tel
  | .hilObserver, hs => hs.hil_observer
  | .control, hs => hs.ctrl
  | .motion, hs => hs.motion
  | .feature, hs => hs.features
  | .maintenance, hs => hs.maint
  | .maintTarget, hs => hs.maint_target
  | .dxl, hs => hs.dxl_jobs
  | .sensor, hs => (hs.sensors, hs.sensor_store)
  | .passive, hs => hs.passive
  | .controller, hs => hs.controller

/-- The messages that may change a group: those of its block, and the exceptions. -/
def MayChange (hs : Handlers F) (g : Group) (msg_id : UInt8) : Prop :=
  g.owns msg_id = true ∨
    (g = .telemetry ∧ msg_id = Msg.kHello) ∨
    (g = .control ∧ msg_id = Msg.kJetsonHeartbeat) ∨
    (g = .feature ∧ Group.sensor.owns msg_id = true ∧ hs.sensor_store = .shared)

end Group

theorem state_setStore {store : Option FeatureApi}
    (hfeature : g = .feature → hs.sensor_store ≠ .shared) (hsensor : g ≠ .sensor) :
    g.state (hs.setStore store) = g.state hs := by
  unfold Handlers.setStore
  split
  · cases g with
    | feature => exact absurd ‹_› (hfeature rfl)
    | _ => rfl
  · cases g with
    | sensor => exact absurd rfl hsensor
    | _ => rfl
  · rfl

theorem state_sensorStage (hfeature : g = .feature → hs.sensor_store ≠ .shared)
    (hsensor : g ≠ .sensor) :
    g.state (Handlers.sensorStage msg_id req hs).1 = g.state hs := by
  unfold Handlers.sensorStage
  cases hs.sensors with
  | none => rfl
  | some api =>
    cases Group.sensor.owns msg_id with
    | false => rfl
    | true =>
      refine Eq.trans ?_ (@state_setStore F _ hs g (api.handle hs.store msg_id req kMaxPayload).2.1
        hfeature hsensor)
      cases g with
      | sensor => exact absurd rfl hsensor
      | _ => rfl

theorem state_observerStage (hother : g ≠ .hilObserver) :
    g.state (Handlers.observerStage msg_id req hs).1 = g.state hs := by
  unfold Handlers.observerStage
  cases Group.hilObserver.owns msg_id with
  | false => cases hs.hil_observer <;> rfl
  | true =>
    cases hs.hil_observer with
    | none => rfl
    | some api =>
      cases g with
      | hilObserver => exact absurd rfl hother
      | _ => rfl

/-- A stage only changes its own group, and the sensor stage the feature store it shares. -/
theorem state_stage_ne (hne : g' ≠ g)
    (hshared : g = .sensor → g' = .feature → hs.sensor_store ≠ .shared) :
    g'.state (Handlers.stage persist msg_id req g hs).1 = g'.state hs := by
  cases g with
  | sensor => exact state_sensorStage (hshared rfl) hne
  | hilObserver => exact state_observerStage hne
  | _ =>
    refine delegate_keeps (f := g'.state) fun s part => ?_
    cases g' <;> first | rfl | exact absurd rfl hne

/-- The groups that a message belongs to, in the order in which they are asked. -/
def owners (msg_id : UInt8) : List Group := allGroups.filter (·.owns msg_id)

/-- The group is asked in this state: the groups before it that own the message have declined it. -/
def Asked (hs : Handlers F) (persist : Persistence) (msg_id : UInt8) (req : List UInt8) (g : Group)
    (s : Handlers F) : Prop :=
  ∃ earlier later, owners msg_id = earlier ++ g :: later ∧
    firstAnswer (earlier.map (Handlers.stage persist msg_id req)) hs = (s, none)

theorem Asked.owns (h : Asked hs persist msg_id req g s) : g.owns msg_id = true := by
  obtain ⟨earlier, later, hsplit, -⟩ := h
  have hmem : g ∈ owners msg_id := by
    rw [hsplit]
    exact List.mem_append_right _ List.mem_cons_self
  exact (List.mem_filter.mp hmem).2

/-- A group is asked in the state it had before: no earlier group changes it. -/
theorem Asked.state (h : Asked hs persist msg_id req g s) : g.state s = g.state hs := by
  obtain ⟨earlier, later, hsplit, hearlier⟩ := h
  have horder : allGroups.Pairwise fun g g' => g' ≠ g ∧ ¬(g = .sensor ∧ g' = .feature) := by decide
  have howners := horder.filter (·.owns msg_id)
  change (owners msg_id).Pairwise _ at howners
  rw [hsplit] at howners
  have hkept : g.state (firstAnswer (earlier.map (Handlers.stage persist msg_id req)) hs).1 =
      g.state hs := by
    refine firstAnswer_preserves (P := fun s => g.state s = g.state hs) ?_ rfl
    rintro stage hstage s hs'
    obtain ⟨g', hg', rfl⟩ := List.mem_map.mp hstage
    obtain ⟨hne, hpair⟩ := (List.pairwise_append.mp howners).2.2 g' hg' g List.mem_cons_self
    rw [state_stage_ne hne fun hsensor hfeature => absurd ⟨hsensor, hfeature⟩ hpair]
    exact hs'
  rwa [hearlier] at hkept

theorem sensorStage_length (h : (Handlers.sensorStage msg_id req hs).2 = some r) :
    r.out.length ≤ kMaxPayload := by
  unfold Handlers.sensorStage at h
  cases hsensors : hs.sensors with
  | none =>
    rw [hsensors] at h
    cases h
  | some api =>
    rw [hsensors] at h
    cases hmine : Group.sensor.owns msg_id with
    | false =>
      rw [hmine] at h
      cases h
    | true =>
      rw [hmine] at h
      obtain ⟨reply, hreply, rfl⟩ := Option.map_eq_some_iff.mp h
      exact sensor_length hreply

theorem observerStage_length (h : (Handlers.observerStage msg_id req hs).2 = some r) :
    r.out.length ≤ kMaxPayload := by
  unfold Handlers.observerStage at h
  cases hmine : Group.hilObserver.owns msg_id with
  | false =>
    rw [hmine] at h
    cases hhil : hs.hil_observer with
    | none =>
      rw [hhil] at h
      cases h
    | some api =>
      rw [hhil] at h
      cases h
  | true =>
    rw [hmine] at h
    cases hhil : hs.hil_observer with
    | none =>
      rw [hhil] at h
      exact answered_le Reply.out h (Nat.le_of_ble_eq_true rfl)
    | some api =>
      rw [hhil] at h
      obtain ⟨reply, hreply, rfl⟩ := Option.map_eq_some_iff.mp h
      exact (observer_length hreply).trans (by decide)

theorem stage_length (h : (Handlers.stage persist msg_id req g hs).2 = some r) :
    r.out.length ≤ kMaxPayload := by
  cases g with
  | sensor => exact sensorStage_length h
  | hilObserver => exact observerStage_length h
  | config =>
    obtain ⟨api, -, hreply⟩ := delegate_answer h
    exact handleConfig_length hreply
  | telemetry =>
    obtain ⟨api, -, hreply⟩ := delegate_answer h
    exact SubscriptionManager.handle_length hreply
  | control =>
    obtain ⟨api, -, hreply⟩ := delegate_answer h
    exact control_length hreply
  | motion =>
    obtain ⟨api, -, hreply⟩ := delegate_answer h
    exact motion_length hreply
  | feature =>
    obtain ⟨api, -, hreply⟩ := delegate_answer h
    exact feature_length hreply
  | maintenance =>
    obtain ⟨api, -, hanswer⟩ := delegate_answer h
    obtain ⟨reply, hreply, rfl⟩ := Option.map_eq_some_iff.mp hanswer
    exact (maintenance_length hreply).trans (by decide)
  | maintTarget =>
    obtain ⟨api, -, hanswer⟩ := delegate_answer h
    obtain ⟨reply, hreply, rfl⟩ := Option.map_eq_some_iff.mp hanswer
    exact (maintTarget_length hreply).trans (by decide)
  | dxl =>
    obtain ⟨api, -, hreply⟩ := delegate_answer h
    exact dxl_length hreply
  | passive =>
    obtain ⟨api, -, hreply⟩ := delegate_answer h
    exact passive_length hreply
  | controller =>
    obtain ⟨api, -, hreply⟩ := delegate_answer h
    exact controller_length hreply

theorem helloPayload_length : (helloPayload info).length = 21 := by
  unfold helloPayload
  rw [List.length_append, Vector.length_toList]
  rfl

theorem capabilitiesPayload_length : (capabilitiesPayload info).length = 26 := by
  unfold capabilitiesPayload
  rw [List.length_append, List.length_append, Vector.length_toList]
  rfl

theorem statusPayload_length : (statusPayload status).length = 113 := by
  have hregisters : (status.last_fault_registers.toList.flatMap putU32).length = 32 := by
    simp
  unfold statusPayload
  simp only [List.length_append, putU16_length, putU32_length, List.length_cons, List.length_nil,
    Vector.length_toList, hregisters]

def sessionMsgs : List UInt8 :=
  [Msg.kHello, Msg.kHeartbeat, Msg.kGetStatus, Msg.kGetCapabilities, Msg.kJetsonHeartbeat]

/-- What a message leaves the handlers in, and the answer to it: the dispatcher answers the messages of
the session itself, every other message goes to its groups until one of them answers, and a message that
all of them decline is unknown. -/
inductive AnsweredBy (hs : Handlers F) (persist : Persistence) (msg_id : UInt8) (req : List UInt8)
    (info : DeviceInfo) (status : StatusSnapshot) : Handlers F → Reply → Prop where
  | hello (hmsg : msg_id = Msg.kHello) :
      AnsweredBy hs persist msg_id req info status { hs with tel := hs.tel.map (·.reset) }
        { out := helloPayload info }
  | heartbeat (hmsg : msg_id = Msg.kHeartbeat) :
      AnsweredBy hs persist msg_id req info status hs { out := heartbeatPayload status }
  | jetsonHeartbeat (hmsg : msg_id = Msg.kJetsonHeartbeat) :
      AnsweredBy hs persist msg_id req info status
        { hs with ctrl := hs.ctrl.map (·.noteJetsonHeartbeat) } { out := heartbeatPayload status }
  | getStatus (hmsg : msg_id = Msg.kGetStatus) :
      AnsweredBy hs persist msg_id req info status hs { out := statusPayload status }
  | getCapabilities (hmsg : msg_id = Msg.kGetCapabilities) :
      AnsweredBy hs persist msg_id req info status hs { out := capabilitiesPayload info }
  | group {hs' s : Handlers F} {r : Reply} (g : Group) (howns : g.owns msg_id = true)
      (hasked : Asked hs persist msg_id req g s) (hstate : g.state s = g.state hs)
      (hreply : Handlers.stage persist msg_id req g s = (hs', some r)) :
      AnsweredBy hs persist msg_id req info status hs' r
  | unknown {hs' : Handlers F} (hmsg : msg_id ∉ sessionMsgs)
      (hdeclined : ∀ g : Group, g.owns msg_id = true → ∃ s, Asked hs persist msg_id req g s ∧
        g.state s = g.state hs ∧ (Handlers.stage persist msg_id req g s).2 = none)
      (hnone : firstAnswer ((owners msg_id).map (Handlers.stage persist msg_id req)) hs = (hs', none)) :
      AnsweredBy hs persist msg_id req info status hs' { out := [kUnknownMsg], out_flags := kFrameError }

theorem AnsweredBy.length (h : AnsweredBy hs persist msg_id req info status s r) :
    r.out.length ≤ kMaxPayload := by
  cases h with
  | hello hmsg => exact helloPayload_length.le.trans (by decide)
  | heartbeat hmsg => exact Nat.le_of_ble_eq_true rfl
  | jetsonHeartbeat hmsg => exact Nat.le_of_ble_eq_true rfl
  | getStatus hmsg => exact statusPayload_length.le.trans (by decide)
  | getCapabilities hmsg => exact capabilitiesPayload_length.le.trans (by decide)
  | group g howns hasked hstate hreply => exact stage_length (congrArg Prod.snd hreply)
  | unknown hmsg hdeclined hnone => exact Nat.le_of_ble_eq_true rfl

/-- `out` is one frame: a response to the request `req`, with the payload and the flags of the reply. -/
def IsResponse (req : Header) (reply : Reply) (out : List UInt8) : Prop :=
  ∃ body header, out = [0] ++ body ++ [0] ∧ 0 ∉ body ∧
    (∀ before, decodeFrameBody body before kMaxPayload = ⟨.ok, header, reply.out⟩) ∧
    header.msg_type = MsgType.response.wire ∧ header.msg_id = req.msg_id ∧ header.seq = req.seq ∧
    header.flags = reply.out_flags

/-- A command has been answered: its own group has written the payload, which fits, the frame that went
out carries it back, and the other groups are as before. -/
structure Answered (hs : Handlers F) (persist : Persistence) (req : Header) (req_payload : List UInt8)
    (info : DeviceInfo) (status : StatusSnapshot) (handled : Handled F) : Prop where
  response : ∃ reply,
    AnsweredBy hs persist req.msg_id req_payload info status handled.handlers reply ∧
      reply.out.length ≤ kMaxPayload ∧ IsResponse req reply handled.out
  others : ∀ g : Group, ¬ g.MayChange hs req.msg_id → g.state handled.handlers = g.state hs
  hello : req.msg_id = Msg.kHello →
    handled.handlers = { hs with tel := hs.tel.map (·.reset) }
  jetsonHeartbeat : req.msg_id = Msg.kJetsonHeartbeat →
    handled.handlers = { hs with ctrl := hs.ctrl.map (·.noteJetsonHeartbeat) }

end HexapodVerified.Protocol
