import HexapodVerified.Hil.ObserverApi
import HexapodVerified.Lib.PastTime

/-!
# The sessions of the observer commands

A marker or an abort that is accepted concerns a capture of the open session, and a capture request is
handed out in its own session, as long as no session ends while a capture request waits to be taken and
no session is opened while a capture is active. A session that ends does not drop the request.
-/

namespace HexapodVerified.Hil

open Bytes Transition PastTime

variable {api api' : ObserverApi} {call : ObserverCall} {answer : ObserverAnswer}
  {request : List UInt8} {response_cap : UInt16} {msg_id : UInt8} {build_available : Bool}
  {reply : Option ObserverReply} {h later : List ObserverEvent} {e : ObserverEvent}
  {capture : CaptureRequest}

/-- The call ends the open session: it expires, or the host closes it. -/
def ObserverApi.closes (api : ObserverApi) : ObserverCall → Bool
  | .tick => api.expired
  | .handle msg_id request _ =>
    Observermsg.isObserverMsg msg_id &&
      (api.expired ||
        (msg_id == Observermsg.kCloseSession && api.available && api.hasSessionToken request))
  | _ => false

theorem ObserverApi.closes_handle : api.closes (.handle msg_id request response_cap) =
    (Observermsg.isObserverMsg msg_id &&
      (api.expired ||
        (msg_id == Observermsg.kCloseSession && api.available && api.hasSessionToken request))) := rfl

def ObserverApi.opens (api : ObserverApi) : ObserverCall → Bool
  | .handle msg_id request _ =>
    msg_id == Observermsg.kOpenSession && request.length == 4 &&
      (!api.session_open || api.expired) && api.canOpen (getU32 request)
  | _ => false

def SessionEnds (e : ObserverEvent) : Prop := e.pre.closes e.label.1 = true

/-- The host was told the id of a new capture, under the session that is open. -/
def CaptureStarted (capture : CaptureRequest) (e : ObserverEvent) : Prop :=
  ∃ request response_cap,
    e.label = (.handle Observermsg.kCapture request response_cap,
      .reply (some { response := ObserverResult.ok.wire :: putU32 capture.capture_id })) ∧
    request[4]? = some capture.step_count ∧ e.post.session_open = true ∧
    e.post.session_id = capture.session_id

/-- A `Mark` command left a request for the capture. -/
def MarkerAccepted (capture_id : UInt32) (e : ObserverEvent) : Prop :=
  (∃ request response_cap, e.label.1 = .handle Observermsg.kMark request response_cap) ∧
    e.pre.marker_pending = false ∧ e.post.marker_pending = true ∧
    e.post.marker_request.capture_id = capture_id

/-- An `AbortCapture` command left the request. -/
def AbortAccepted (abort : CaptureAbortRequest) (e : ObserverEvent) : Prop :=
  (∃ request response_cap, e.label.1 = .handle Observermsg.kAbortCapture request response_cap) ∧
    e.pre.abort_pending = false ∧ e.post.session_open = true ∧ e.post.abort_pending = true ∧
    e.post.abort_request = abort

def HandedOut (capture : CaptureRequest) (e : ObserverEvent) : Prop :=
  e.label = (.takeCaptureRequest, .capture (some capture))

def StartedInSession (capture : CaptureRequest) : List ObserverEvent → Prop :=
  Since (fun e => ¬ SessionEnds e) (CaptureStarted capture)

/-- What an event does with captures concerns those of the session at that time. -/
structure Isolated (e : ObserverEvent) (h : List ObserverEvent) : Prop where
  marker : ∀ capture_id, MarkerAccepted capture_id e →
    ∃ capture, capture.capture_id = capture_id ∧ StartedInSession capture h
  abort : ∀ abort, AbortAccepted abort e →
    ∃ capture, capture.capture_id = abort.capture_id ∧ capture.session_id = abort.session_id ∧
      StartedInSession capture h
  capture : ∀ capture, HandedOut capture e → StartedInSession capture h

def SessionsIsolated (h : List ObserverEvent) : Prop :=
  ∀ later e earlier, h = later ++ e :: earlier → Isolated e earlier

/-- No request is left behind by a session, and no capture is met by another one. -/
structure Separate (e : ObserverEvent) : Prop where
  closes : e.pre.closes e.label.1 = true → e.pre.capture_pending = false
  opens : e.pre.opens e.label.1 = true → e.pre.capture_active = false

instance : DecidablePred Separate := fun e =>
  decidable_of_iff ((e.pre.closes e.label.1 = true → e.pre.capture_pending = false) ∧
    (e.pre.opens e.label.1 = true → e.pre.capture_active = false))
    ⟨fun h => ⟨h.1, h.2⟩, fun h => ⟨h.closes, h.opens⟩⟩

/-! ## What a call does to sessions and captures -/

/-- No session begins or ends and no capture starts. -/
structure Quiet (api api' : ObserverApi) : Prop where
  session_open : api'.session_open = api.session_open
  session_id : api'.session_id = api.session_id
  active : api'.capture_active = true →
    api.capture_active = true ∧ api'.capture_request = api.capture_request
  pending : api'.capture_pending = true →
    api.capture_pending = true ∧ api'.capture_active = api.capture_active

theorem Quiet.refl : Quiet api api := ⟨rfl, rfl, fun h => ⟨h, rfl⟩, fun h => ⟨h, rfl⟩⟩

inductive Effect (e : ObserverEvent) : Prop where
  | quiet (hcloses : ¬ SessionEnds e) (hquiet : Quiet e.pre e.post)
  | ended (hcloses : SessionEnds e) (hopen : e.post.session_open = false)
      (hactive : e.post.capture_active = e.pre.capture_active)
      (hpending : e.post.capture_pending = e.pre.capture_pending)
  | opened (hopens : e.pre.opens e.label.1 = true)
      (hactive : e.post.capture_active = e.pre.capture_active)
      (hpending : e.post.capture_pending = e.pre.capture_pending)
  | started (hcloses : ¬ SessionEnds e) (hopen : e.post.session_open = true)
      (hactive : e.post.capture_active = true)
      (hid : e.post.capture_request.session_id = e.post.session_id)
      (hstarted : CaptureStarted e.post.capture_request e)

namespace ObserverApi

@[simp] theorem closeSession_open (reason : CaptureEndReason) :
    (api.closeSession reason).session_open = false := rfl

@[simp] theorem closeSession_active (reason : CaptureEndReason) :
    (api.closeSession reason).capture_active = api.capture_active := by
  unfold closeSession
  split <;> rfl

@[simp] theorem closeSession_pending (reason : CaptureEndReason) :
    (api.closeSession reason).capture_pending = api.capture_pending := by
  unfold closeSession
  split <;> rfl

@[simp] theorem closeSession_available (reason : CaptureEndReason) :
    (api.closeSession reason).available = api.available := by
  unfold closeSession
  split <;> rfl

@[simp] theorem closeSession_canOpen (reason : CaptureEndReason) (token : UInt32) :
    (api.closeSession reason).canOpen token = api.canOpen token := by
  unfold closeSession
  split <;> rfl

theorem hasSessionToken_of_closed (hclosed : api.session_open = false) :
    api.hasSessionToken request = false := by
  unfold hasSessionToken
  rw [hclosed, Bool.and_false, Bool.false_and]

theorem tick_of_expired (hexpired : api.expired = true) :
    api.tick = api.closeSession .hostHeartbeatExpired := if_pos hexpired

theorem tick_of_not_expired (hexpired : api.expired = false) : api.tick = api :=
  if_neg (by rw [hexpired]; exact Bool.false_ne_true)

theorem handleOpenSession_cases (api : ObserverApi) (request : List UInt8) (response_cap : UInt16) :
    (api.handleOpenSession request response_cap).1 = api ∨
      request.length = 4 ∧ api.session_open = false ∧ api.canOpen (getU32 request) = true ∧
        ((api.handleOpenSession request response_cap).1 = api.openSession ∨
          (api.handleOpenSession request response_cap).1 =
            api.openSession.closeSession .sessionClosed) := by
  unfold handleOpenSession
  split_ifs with hlen hopen hcan hcap
  · exact .inl rfl
  · exact .inl rfl
  · exact .inl rfl
  · exact .inr ⟨not_not.mp hlen, by simpa using hopen, by simpa using hcan, .inr rfl⟩
  · exact .inr ⟨not_not.mp hlen, by simpa using hopen, by simpa using hcan, .inl rfl⟩

theorem quiet_heartbeat : Quiet api (api.handleHeartbeat request response_cap).1 := by
  unfold handleHeartbeat
  split
  · exact Quiet.refl
  · exact ⟨rfl, rfl, fun h => ⟨h, rfl⟩, fun h => ⟨h, rfl⟩⟩

theorem quiet_abort : Quiet api (api.handleAbortCapture request response_cap).1 := by
  unfold handleAbortCapture
  split_ifs
  · exact Quiet.refl
  · exact Quiet.refl
  · exact Quiet.refl
  · exact ⟨rfl, rfl, fun h => ⟨h, rfl⟩, fun h => ⟨h, rfl⟩⟩

theorem quiet_mark : Quiet api (api.handleMark request response_cap).1 := by
  unfold handleMark
  split_ifs
  · exact Quiet.refl
  · exact Quiet.refl
  · exact Quiet.refl
  · exact Quiet.refl
  · exact ⟨rfl, rfl, fun h => ⟨h, rfl⟩, fun h => ⟨h, rfl⟩⟩

/-- What a `Capture` command does: nothing, or it starts a capture and says so. -/
theorem handleCapture_cases (api : ObserverApi) (request : List UInt8) (response_cap : UInt16) :
    Quiet api (api.handleCapture request response_cap).1 ∨
      ∃ step_count, request[4]? = some step_count ∧ api.session_open = true ∧
        api.handleCapture request response_cap =
          (api.startCapture step_count,
            some { response := ObserverResult.ok.wire :: putU32 api.next_capture_id }) := by
  unfold handleCapture
  dsimp only
  split_ifs with hlen htoken hcount hactive hcapacity hrate hcap
  iterate 6 · exact .inl Quiet.refl
  · exact .inl ⟨rfl, rfl, nofun, nofun⟩
  · refine .inr ⟨request.getD 4 0, ?_, ?_, rfl⟩
    · have h4 : 4 < request.length := by
        rw [not_not.mp hlen]
        exact Nat.lt_succ_self 4
      rw [List.getD_eq_getElem?_getD, List.getElem?_eq_getElem h4, Option.getD_some]
    · cases hopen : api.session_open with
      | true => rfl
      | false =>
        rw [hasSessionToken_of_closed hopen] at htoken
        exact absurd rfl htoken

/-- Without a session a command other than `OpenSession` does nothing. -/
theorem handleCapture_of_closed (hclosed : api.session_open = false) :
    (api.handleCapture request response_cap).1 = api := by
  unfold handleCapture
  rw [hasSessionToken_of_closed hclosed, Bool.not_false, if_pos rfl]
  split <;> rfl

theorem handleMark_of_closed (hclosed : api.session_open = false) :
    (api.handleMark request response_cap).1 = api := by
  unfold handleMark
  rw [hasSessionToken_of_closed hclosed, Bool.not_false, if_pos rfl]
  split <;> rfl

theorem handleAbortCapture_of_closed (hclosed : api.session_open = false) :
    (api.handleAbortCapture request response_cap).1 = api := by
  unfold handleAbortCapture
  rw [hasSessionToken_of_closed hclosed, Bool.not_false, if_pos rfl]

theorem handleHeartbeat_of_closed (hclosed : api.session_open = false) :
    (api.handleHeartbeat request response_cap).1 = api := by
  unfold handleHeartbeat
  rw [hasSessionToken_of_closed hclosed, Bool.not_false, if_pos rfl]

theorem handleCloseSession_of_closed (hclosed : api.session_open = false) :
    (api.handleCloseSession request response_cap).1 = api := by
  unfold handleCloseSession
  rw [hasSessionToken_of_closed hclosed, Bool.not_false, if_pos rfl]

inductive Dispatched (api : ObserverApi) (request : List UInt8) (response_cap : UInt16) :
    UInt8 → ObserverApi × Option ObserverReply → Prop where
  | kept {msg_id : UInt8} (reply : Option ObserverReply)
      (hclose : msg_id = Observermsg.kCloseSession → api.available = false) :
      Dispatched api request response_cap msg_id (api, reply)
  | openSession :
      Dispatched api request response_cap Observermsg.kOpenSession
        (api.handleOpenSession request response_cap)
  | closeSession (havailable : api.available = true) :
      Dispatched api request response_cap Observermsg.kCloseSession
        (api.handleCloseSession request response_cap)
  | heartbeat : Dispatched api request response_cap Observermsg.kHeartbeat
      (api.handleHeartbeat request response_cap)
  | capture : Dispatched api request response_cap Observermsg.kCapture
      (api.handleCapture request response_cap)
  | abort : Dispatched api request response_cap Observermsg.kAbortCapture
      (api.handleAbortCapture request response_cap)
  | mark : Dispatched api request response_cap Observermsg.kMark
      (api.handleMark request response_cap)

theorem handle_dispatched (hrange : Observermsg.isObserverMsg msg_id = true) :
    Dispatched api.tick request response_cap msg_id (api.handle msg_id request response_cap) := by
  unfold handle
  rw [hrange, Bool.not_true, if_neg Bool.false_ne_true]
  by_cases hcapability : msg_id = Observermsg.kGetCapability
  · rw [if_pos hcapability]
    exact .kept _ fun hmsg => nomatch hcapability.symm.trans hmsg
  by_cases havailable : (!api.tick.available) = true
  · rw [if_neg hcapability, if_pos havailable]
    exact .kept _ fun _ => by simpa using havailable
  rw [if_neg hcapability, if_neg havailable]
  by_cases hopen : msg_id = Observermsg.kOpenSession
  · rw [if_pos hopen]
    exact hopen ▸ .openSession
  by_cases hclose : msg_id = Observermsg.kCloseSession
  · rw [if_neg hopen, if_pos hclose]
    exact hclose ▸ .closeSession (by simpa using havailable)
  rw [if_neg hopen, if_neg hclose]
  by_cases hheartbeat : msg_id = Observermsg.kHeartbeat
  · rw [if_pos hheartbeat]
    exact hheartbeat ▸ .heartbeat
  by_cases hcapture : msg_id = Observermsg.kCapture
  · rw [if_neg hheartbeat, if_pos hcapture]
    exact hcapture ▸ .capture
  rw [if_neg hheartbeat, if_neg hcapture]
  by_cases habort : msg_id = Observermsg.kAbortCapture
  · rw [if_pos habort]
    exact habort ▸ .abort
  by_cases hmark : msg_id = Observermsg.kMark
  · rw [if_neg habort, if_pos hmark]
    exact hmark ▸ .mark
  rw [if_neg habort, if_neg hmark]
  unfold handleGetSessionStatus
  split
  · split
    · exact .kept _ fun hmsg => absurd hmsg hclose
    · exact .kept _ fun hmsg => absurd hmsg hclose
  · exact .kept _ fun hmsg => absurd hmsg hclose

end ObserverApi

theorem effect_of_handle_open (hexpired : api.expired = false)
    (hrange : Observermsg.isObserverMsg msg_id = true)
    (hstep : api.handle msg_id request response_cap = (api', reply)) :
    Effect ⟨api, (.handle msg_id request response_cap, .reply reply), api'⟩ := by
  have hends (hclose : ¬ (msg_id = Observermsg.kCloseSession ∧ api.available = true ∧
      api.hasSessionToken request = true)) :
      ¬ SessionEnds ⟨api, (.handle msg_id request response_cap, .reply reply), api'⟩ := by
    intro h
    unfold SessionEnds ObserverApi.closes at h
    simp only [hexpired, Bool.and_eq_true, Bool.or_eq_true, beq_iff_eq, Bool.false_eq_true,
      false_or] at h
    exact hclose ⟨h.2.1.1, h.2.1.2, h.2.2⟩
  have hcommand := @ObserverApi.handle_dispatched api request response_cap msg_id hrange
  rw [ObserverApi.tick_of_not_expired hexpired, hstep] at hcommand
  generalize hout : (api', reply) = out at hcommand
  cases hcommand with
  | kept reply' hclose =>
    obtain ⟨rfl, -⟩ := Prod.mk.inj hout
    exact .quiet (hends fun h => by rw [hclose h.1] at h; exact nomatch h.2.1) .refl
  | openSession =>
    obtain hsame | ⟨hlen, hopen, hcan, hstate⟩ :=
      api.handleOpenSession_cases request response_cap
    · rw [← hout] at hsame
      obtain rfl := hsame
      exact .quiet (hends fun h => nomatch h.1) .refl
    · have hopens : api.opens (.handle Observermsg.kOpenSession request response_cap) = true := by
        simp [ObserverApi.opens, hlen, hopen, hcan]
      rw [← hout] at hstate
      obtain rfl | rfl := hstate
      · exact .opened hopens rfl rfl
      · refine .opened hopens ?_ ?_
        · exact ObserverApi.closeSession_active _
        · exact ObserverApi.closeSession_pending _
  | closeSession havailable =>
    unfold ObserverApi.handleCloseSession at hout
    split at hout
    · rename_i htoken
      obtain ⟨rfl, -⟩ := Prod.mk.inj hout
      refine .quiet (hends fun h => ?_) .refl
      rw [h.2.2] at htoken
      exact nomatch htoken
    · rename_i htoken
      obtain ⟨rfl, -⟩ := Prod.mk.inj hout
      refine .ended ?_ rfl (ObserverApi.closeSession_active _) (ObserverApi.closeSession_pending _)
      show api.closes (.handle Observermsg.kCloseSession request response_cap) = true
      rw [ObserverApi.closes_handle, hrange, havailable, hexpired]
      simpa using htoken
  | heartbeat =>
    obtain rfl : api' = _ := congrArg Prod.fst hout
    exact .quiet (hends fun h => nomatch h.1) ObserverApi.quiet_heartbeat
  | abort =>
    obtain rfl : api' = _ := congrArg Prod.fst hout
    exact .quiet (hends fun h => nomatch h.1) ObserverApi.quiet_abort
  | mark =>
    obtain rfl : api' = _ := congrArg Prod.fst hout
    exact .quiet (hends fun h => nomatch h.1) ObserverApi.quiet_mark
  | capture =>
    have hclose : ¬ SessionEnds
        ⟨api, (.handle Observermsg.kCapture request response_cap, .reply reply), api'⟩ :=
      hends fun h => nomatch h.1
    obtain hquiet | ⟨step_count, hcount, hopen, heq⟩ :=
      api.handleCapture_cases request response_cap
    · rw [← hout] at hquiet
      exact .quiet hclose hquiet
    · rw [heq] at hout
      obtain ⟨rfl, rfl⟩ := Prod.mk.inj hout
      exact .started hclose hopen rfl rfl ⟨request, response_cap, rfl, hcount, hopen, rfl⟩

/-- In the call in which a session expires no command but `OpenSession` takes effect. -/
theorem effect_of_handle_expired (hexpired : api.expired = true)
    (hrange : Observermsg.isObserverMsg msg_id = true)
    (hstep : api.handle msg_id request response_cap = (api', reply)) :
    Effect ⟨api, (.handle msg_id request response_cap, .reply reply), api'⟩ := by
  have hends : SessionEnds ⟨api, (.handle msg_id request response_cap, .reply reply), api'⟩ := by
    simp [SessionEnds, ObserverApi.closes, hrange, hexpired]
  have hcommand := @ObserverApi.handle_dispatched api request response_cap msg_id hrange
  have hclosed : (api.closeSession .hostHeartbeatExpired).session_open = false := rfl
  rw [ObserverApi.tick_of_expired hexpired, hstep] at hcommand
  have hended (hstate : api' = api.closeSession .hostHeartbeatExpired) :
      Effect ⟨api, (.handle msg_id request response_cap, .reply reply), api'⟩ := by
    subst hstate
    exact .ended hends rfl (ObserverApi.closeSession_active _) (ObserverApi.closeSession_pending _)
  generalize hout : (api', reply) = out at hcommand
  have hfst : api' = out.1 := congrArg Prod.fst hout
  cases hcommand with
  | kept reply' hclose => exact hended hfst
  | openSession =>
    obtain hsame | ⟨hlen, hopen, hcan, hstate⟩ :=
      (api.closeSession .hostHeartbeatExpired).handleOpenSession_cases request response_cap
    · exact hended (hfst.trans hsame)
    · have hopens : api.opens (.handle Observermsg.kOpenSession request response_cap) = true := by
        rw [ObserverApi.closeSession_canOpen] at hcan
        simp [ObserverApi.opens, hlen, hexpired, hcan]
      rw [← hfst] at hstate
      have hactive := @ObserverApi.closeSession_active api .hostHeartbeatExpired
      have hpending := @ObserverApi.closeSession_pending api .hostHeartbeatExpired
      obtain rfl | rfl := hstate
      · exact .opened hopens hactive hpending
      · refine .opened hopens ?_ ?_
        · exact (ObserverApi.closeSession_active _).trans hactive
        · exact (ObserverApi.closeSession_pending _).trans hpending
  | closeSession havailable =>
    exact hended (hfst.trans (ObserverApi.handleCloseSession_of_closed hclosed))
  | heartbeat => exact hended (hfst.trans (ObserverApi.handleHeartbeat_of_closed hclosed))
  | capture => exact hended (hfst.trans (ObserverApi.handleCapture_of_closed hclosed))
  | abort => exact hended (hfst.trans (ObserverApi.handleAbortCapture_of_closed hclosed))
  | mark => exact hended (hfst.trans (ObserverApi.handleMark_of_closed hclosed))

theorem effect_of_call (hstep : api.call call = (api', answer)) :
    Effect ⟨api, (call, answer), api'⟩ := by
  have hquiet (hcloses : api.closes call = false) (hquiet : Quiet api api') :
      Effect ⟨api, (call, answer), api'⟩ := by
    refine .quiet (fun h => ?_) hquiet
    unfold SessionEnds at h
    rw [hcloses] at h
    exact nomatch h
  cases call with
  | setNow now_ms =>
    obtain ⟨rfl, -⟩ := Prod.mk.inj hstep
    exact hquiet rfl ⟨rfl, rfl, fun h => ⟨h, rfl⟩, fun h => ⟨h, rfl⟩⟩
  | setLiveState state =>
    obtain ⟨rfl, -⟩ := Prod.mk.inj hstep
    exact hquiet rfl ⟨rfl, rfl, fun h => ⟨h, rfl⟩, fun h => ⟨h, rfl⟩⟩
  | setMaintenanceLock token held =>
    obtain ⟨rfl, -⟩ := Prod.mk.inj hstep
    exact hquiet rfl ⟨rfl, rfl, fun h => ⟨h, rfl⟩, fun h => ⟨h, rfl⟩⟩
  | setOutputGuard status =>
    obtain ⟨rfl, -⟩ := Prod.mk.inj hstep
    exact hquiet rfl ⟨rfl, rfl, fun h => ⟨h, rfl⟩, fun h => ⟨h, rfl⟩⟩
  | setTaskRequestCapacity available =>
    obtain ⟨rfl, -⟩ := Prod.mk.inj hstep
    exact hquiet rfl ⟨rfl, rfl, fun h => ⟨h, rfl⟩, fun h => ⟨h, rfl⟩⟩
  | tick =>
    obtain ⟨rfl, -⟩ := Prod.mk.inj hstep
    cases hexpired : api.expired with
    | false =>
      rw [ObserverApi.tick_of_not_expired hexpired] at hquiet ⊢
      exact hquiet hexpired .refl
    | true =>
      rw [ObserverApi.tick_of_expired hexpired]
      exact .ended hexpired rfl (ObserverApi.closeSession_active _)
        (ObserverApi.closeSession_pending _)
  | handle msg_id request response_cap =>
    cases hhandle : api.handle msg_id request response_cap with
    | mk api'' reply =>
    have hmap : ((api'', reply) : ObserverApi × Option ObserverReply).map id .reply =
        (api', answer) := hhandle ▸ hstep
    obtain ⟨rfl, rfl⟩ := Prod.mk.inj hmap
    cases hrange : Observermsg.isObserverMsg msg_id with
    | false =>
      unfold ObserverApi.handle at hhandle
      rw [hrange, Bool.not_false, if_pos rfl] at hhandle
      obtain ⟨rfl, -⟩ := Prod.mk.inj hhandle
      exact hquiet (by simp [ObserverApi.closes, hrange]) .refl
    | true =>
      cases hexpired : api.expired with
      | false => exact effect_of_handle_open hexpired hrange hhandle
      | true => exact effect_of_handle_expired hexpired hrange hhandle
  | takeCaptureRequest =>
    obtain ⟨rfl, -⟩ := Prod.mk.inj hstep
    refine hquiet rfl ?_
    show Quiet api api.takeCaptureRequest.1
    unfold ObserverApi.takeCaptureRequest
    split
    · exact .refl
    · exact ⟨rfl, rfl, fun h => ⟨h, rfl⟩, nofun⟩
  | takeAbortRequest =>
    obtain ⟨rfl, -⟩ := Prod.mk.inj hstep
    refine hquiet rfl ?_
    show Quiet api api.takeAbortRequest.1
    unfold ObserverApi.takeAbortRequest
    split
    · exact .refl
    · exact ⟨rfl, rfl, fun h => ⟨h, rfl⟩, fun h => ⟨h, rfl⟩⟩
  | takeMarkerRequest =>
    obtain ⟨rfl, -⟩ := Prod.mk.inj hstep
    refine hquiet rfl ?_
    show Quiet api api.takeMarkerRequest.1
    unfold ObserverApi.takeMarkerRequest
    split
    · exact .refl
    · exact ⟨rfl, rfl, fun h => ⟨h, rfl⟩, fun h => ⟨h, rfl⟩⟩
  | noteCaptureFinished capture_id =>
    obtain ⟨rfl, -⟩ := Prod.mk.inj hstep
    refine hquiet rfl ?_
    unfold ObserverApi.noteCaptureFinished
    split
    · exact ⟨rfl, rfl, nofun, nofun⟩
    · exact .refl

/-- The active capture of an open session was started in it, and a request that waits is one of these. -/
structure Attributed (h : List ObserverEvent) (api : ObserverApi) : Prop where
  pending_active : api.capture_pending = true → api.capture_active = true
  pending_open : api.capture_pending = true → api.session_open = true
  session : api.session_open = true → api.capture_active = true →
    api.capture_request.session_id = api.session_id
  started : api.session_open = true → api.capture_active = true →
    StartedInSession api.capture_request h

theorem Attributed.step (hattributed : Attributed h e.pre) (hseparate : Separate e)
    (heffect : Effect e) : Attributed (e :: h) e.post := by
  cases heffect with
  | quiet hcloses hquiet =>
    refine ⟨fun hp => ?_, fun hp => ?_, fun hopen ha => ?_, fun hopen ha => ?_⟩
    · obtain ⟨hpending, hactive⟩ := hquiet.pending hp
      rw [hactive]
      exact hattributed.pending_active hpending
    · rw [hquiet.session_open]
      exact hattributed.pending_open (hquiet.pending hp).1
    · obtain ⟨hactive, hrequest⟩ := hquiet.active ha
      rw [hrequest, hquiet.session_id]
      exact hattributed.session (hquiet.session_open ▸ hopen) hactive
    · obtain ⟨hactive, hrequest⟩ := hquiet.active ha
      rw [hrequest]
      exact .keep hcloses (hattributed.started (hquiet.session_open ▸ hopen) hactive)
  | ended hcloses hopen hactive hpending =>
    have hnone := hseparate.closes hcloses
    rw [← hpending] at hnone
    refine ⟨fun hp => ?_, fun hp => ?_, fun ho => ?_, fun ho => ?_⟩
    · exact nomatch hnone.symm.trans hp
    · exact nomatch hnone.symm.trans hp
    · exact nomatch hopen.symm.trans ho
    · exact nomatch hopen.symm.trans ho
  | opened hopens hactive hpending =>
    have hidle := hseparate.opens hopens
    rw [← hactive] at hidle
    have hnone : e.post.capture_pending ≠ true := by
      intro hp
      rw [hpending] at hp
      rw [hactive] at hidle
      exact absurd (hidle.symm.trans (hattributed.pending_active hp)) Bool.false_ne_true
    refine ⟨fun hp => absurd hp hnone, fun hp => absurd hp hnone, fun _ ha => ?_, fun _ ha => ?_⟩
    · exact nomatch hidle.symm.trans ha
    · exact nomatch hidle.symm.trans ha
  | started hcloses hopen hactive hid hstarted =>
    exact ⟨fun _ => hactive, fun _ => hopen, fun _ _ => hid, fun _ _ => .now hstarted⟩

theorem attributed_of_run (run : ObserverRun build_available h api) (hseparate : ∀ e ∈ h, Separate e) :
    Attributed h api := by
  induction run with
  | nil => exact ⟨nofun, nofun, nofun, nofun⟩
  | step run hstep ih =>
    have hbefore := ih fun e he => hseparate e (List.mem_cons_of_mem _ he)
    exact hbefore.step (hseparate _ (List.mem_cons_self ..)) (effect_of_call hstep)

theorem ObserverApi.handle_mark : api.handle Observermsg.kMark request response_cap =
    if !api.tick.available then (api.tick, ObserverApi.writeResult .notAvailable response_cap)
    else api.tick.handleMark request response_cap := rfl

theorem ObserverApi.handle_abort : api.handle Observermsg.kAbortCapture request response_cap =
    if !api.tick.available then (api.tick, ObserverApi.writeResult .notAvailable response_cap)
    else api.tick.handleAbortCapture request response_cap := rfl

theorem ObserverApi.hasSessionToken_open (htoken : api.hasSessionToken request = true) :
    api.session_open = true := by
  cases hopen : api.session_open with
  | true => rfl
  | false => rw [hasSessionToken_of_closed hopen] at htoken; exact nomatch htoken

/-- The session is open after the tick only if nothing has expired. -/
theorem ObserverApi.tick_open (hopen : api.tick.session_open = true) : api.tick = api := by
  cases hexpired : api.expired with
  | false => exact tick_of_not_expired hexpired
  | true => rw [tick_of_expired hexpired] at hopen; exact nomatch hopen

theorem ObserverApi.handleMark_pending (hbefore : api.marker_pending = false)
    (hafter : (api.handleMark request response_cap).1.marker_pending = true) :
    api.session_open = true ∧ api.capture_active = true ∧
      (api.handleMark request response_cap).1.marker_request.capture_id =
        api.capture_request.capture_id := by
  unfold handleMark at hafter ⊢
  split_ifs at hafter ⊢ with hlen htoken hactive hbusy
  iterate 4 · exact nomatch hbefore.symm.trans hafter
  · exact ⟨hasSessionToken_open (by simpa using htoken), by simpa using hactive, rfl⟩

theorem ObserverApi.handleAbortCapture_pending (hbefore : api.abort_pending = false)
    (hafter : (api.handleAbortCapture request response_cap).1.abort_pending = true) :
    api.session_open = true ∧ api.capture_active = true ∧
      (api.handleAbortCapture request response_cap).1.abort_request =
        { session_id := api.session_id
          capture_id := api.capture_request.capture_id
          reason := .hostAborted } := by
  unfold handleAbortCapture at hafter ⊢
  split_ifs at hafter ⊢ with htoken hactive hbusy
  iterate 3 · exact nomatch hbefore.symm.trans hafter
  · exact ⟨hasSessionToken_open (by simpa using htoken), by simpa using hactive, rfl⟩

theorem marker_accepted (hstep : e.pre.call e.label.1 = (e.post, e.label.2)) {capture_id : UInt32}
    (hmarker : MarkerAccepted capture_id e) :
    e.pre.session_open = true ∧ e.pre.capture_active = true ∧
      e.pre.capture_request.capture_id = capture_id := by
  obtain ⟨⟨request, response_cap, hcall⟩, hbefore, hafter, hid⟩ := hmarker
  rw [hcall] at hstep
  have hpost : (e.pre.handle Observermsg.kMark request response_cap).1 = e.post :=
    congrArg Prod.fst hstep
  have htick : e.pre.tick.marker_pending = false := by
    unfold ObserverApi.tick
    split
    · rfl
    · exact hbefore
  rw [ObserverApi.handle_mark] at hpost
  split at hpost
  · rw [← hpost] at hafter
    exact nomatch htick.symm.trans hafter
  · rw [← hpost] at hafter hid
    obtain ⟨hopen, hactive, hrequest⟩ := ObserverApi.handleMark_pending htick hafter
    rw [hrequest] at hid
    have hsame : e.pre.tick = e.pre := ObserverApi.tick_open hopen
    rw [hsame] at hopen hactive hid
    exact ⟨hopen, hactive, hid⟩

theorem abort_accepted (hstep : e.pre.call e.label.1 = (e.post, e.label.2))
    {abort : CaptureAbortRequest} (habort : AbortAccepted abort e) :
    e.pre.session_open = true ∧ e.pre.capture_active = true ∧
      e.pre.capture_request.capture_id = abort.capture_id ∧ e.pre.session_id = abort.session_id := by
  obtain ⟨⟨request, response_cap, hcall⟩, hbefore, hopened, hafter, habort⟩ := habort
  rw [hcall] at hstep
  have hpost : (e.pre.handle Observermsg.kAbortCapture request response_cap).1 = e.post :=
    congrArg Prod.fst hstep
  rw [ObserverApi.handle_abort] at hpost
  cases hexpired : e.pre.expired with
  | true =>
    -- the expired session leaves nothing that the command could concern
    have hclosed : e.pre.tick.session_open = false := by
      rw [ObserverApi.tick_of_expired hexpired]
      rfl
    have hsame : e.post = e.pre.tick := by
      rw [← hpost]
      split
      · rfl
      · exact ObserverApi.handleAbortCapture_of_closed hclosed
    rw [hsame] at hopened
    exact nomatch hclosed.symm.trans hopened
  | false =>
    rw [ObserverApi.tick_of_not_expired hexpired] at hpost
    split at hpost
    · rw [← hpost] at hafter
      exact nomatch hbefore.symm.trans hafter
    · rw [← hpost] at hafter habort
      obtain ⟨hopen, hactive, hrequest⟩ := ObserverApi.handleAbortCapture_pending hbefore hafter
      rw [hrequest] at habort
      rw [← habort]
      exact ⟨hopen, hactive, rfl, rfl⟩

theorem handed_out (hstep : e.pre.call e.label.1 = (e.post, e.label.2))
    (hout : HandedOut capture e) :
    e.pre.capture_pending = true ∧ e.pre.capture_request = capture := by
  rw [hout] at hstep
  have hanswer : ObserverAnswer.capture e.pre.takeCaptureRequest.2 = .capture (some capture) :=
    congrArg Prod.snd hstep
  unfold ObserverApi.takeCaptureRequest at hanswer
  split at hanswer
  · cases hanswer
  · rename_i hpending
    refine ⟨by simpa using hpending, ?_⟩
    cases hanswer
    rfl

/-- **Session isolation.** In a run of separate calls every marker and abort that is accepted concerns a
capture of the session that is open, and every request is handed out in its session. -/
theorem sessions_isolated (run : ObserverRun build_available h api)
    (hseparate : ∀ e ∈ h, Separate e) : SessionsIsolated h := by
  rintro later e earlier rfl
  obtain ⟨api', run⟩ := run.of_append
  obtain ⟨-, hstep, hbefore⟩ := run.of_cons
  have hattributed := attributed_of_run hbefore fun x hx =>
    hseparate x (List.mem_append_right _ (List.mem_cons_of_mem _ hx))
  refine ⟨fun capture_id hmarker => ?_, fun abort habort => ?_, fun capture hout => ?_⟩
  · obtain ⟨hopen, hactive, hid⟩ := marker_accepted hstep hmarker
    exact ⟨e.pre.capture_request, hid, hattributed.started hopen hactive⟩
  · obtain ⟨hopen, hactive, hid, hsession⟩ := abort_accepted hstep habort
    refine ⟨e.pre.capture_request, hid, ?_, hattributed.started hopen hactive⟩
    rw [hattributed.session hopen hactive, hsession]
  · obtain ⟨hpending, rfl⟩ := handed_out hstep hout
    exact hattributed.started (hattributed.pending_open hpending)
      (hattributed.pending_active hpending)

def readyGuard : OutputGuardStatus where
  output_disabled := true
  power_guard_active := true
  torque_guard_active := true
  goal_guard_active := true
  write_guard_active := true

/-- The host opens a session under the maintenance token 44 and asks for a capture of three steps. -/
def captureCalls : List ObserverCall :=
  [.setOutputGuard readyGuard, .setLiveState ObserverApi.kDisarmedState,
    .setMaintenanceLock 44 true, .handle Observermsg.kOpenSession (putU32 44) 64,
    .handle Observermsg.kCapture (putU32 1 ++ [3]) 64]

def closedCalls : List ObserverCall :=
  captureCalls ++ [.handle Observermsg.kCloseSession (putU32 1) 64, .takeCaptureRequest]

/-- Another session is opened while the capture runs, and marks it. -/
def reopenedCalls : List ObserverCall :=
  captureCalls ++ [.takeCaptureRequest, .handle Observermsg.kCloseSession (putU32 1) 64,
    .handle Observermsg.kOpenSession (putU32 44) 64,
    .handle Observermsg.kMark (putU32 2 ++ putU32 7) 64]

def markedCalls : List ObserverCall :=
  captureCalls ++ [.takeCaptureRequest, .handle Observermsg.kMark (putU32 1 ++ putU32 7) 64]

def recordCalls (calls : List ObserverCall) : ObserverApi × List ObserverEvent :=
  record ObserverApi.call (.new true) [] calls

theorem run_recordCalls (calls : List ObserverCall) :
    ObserverRun true (recordCalls calls).2 (recordCalls calls).1 :=
  run_record ObserverApi.call calls .nil

theorem sessions_isolated_marked : SessionsIsolated (recordCalls markedCalls).2 :=
  sessions_isolated (run_recordCalls markedCalls) (by decide)

theorem not_started_of_closed (hends : SessionEnds e) (hclosed : e.post.session_open = false) :
    ¬ StartedInSession capture (e :: h) := by
  rintro (⟨_, _, _, _, hopen, _⟩ | ⟨hkeeps, _⟩)
  · exact nomatch hclosed.symm.trans hopen
  · exact hkeeps hends

theorem not_started_of_other (hlabel : ∀ request response_cap,
      e.label.1 ≠ .handle Observermsg.kCapture request response_cap)
    (hnot : ¬ StartedInSession capture h) : ¬ StartedInSession capture (e :: h) := by
  rintro (⟨request, response_cap, heq, _⟩ | ⟨_, hstarted⟩)
  · exact hlabel request response_cap (congrArg Prod.fst heq)
  · exact hnot hstarted

/-- The request of a closed session is handed out, and a session marks the capture of another one. -/
theorem sessions_not_isolated :
    (ObserverRun true (recordCalls closedCalls).2 (recordCalls closedCalls).1 ∧
      ¬ SessionsIsolated (recordCalls closedCalls).2) ∧
    (ObserverRun true (recordCalls reopenedCalls).2 (recordCalls reopenedCalls).1 ∧
      ¬ SessionsIsolated (recordCalls reopenedCalls).2) := by
  refine ⟨⟨run_recordCalls closedCalls, fun hisolated => ?_⟩,
    ⟨run_recordCalls reopenedCalls, fun hisolated => ?_⟩⟩
  · have hstarted := (hisolated [] _ _ rfl).capture ⟨1, 1, 3⟩ (by
      show _ = _
      decide)
    revert hstarted
    refine not_started_of_closed ?_ ?_
    · show _ = true
      decide
    · decide
  · obtain ⟨capture, -, hstarted⟩ := (hisolated [] _ _ rfl).marker 1
      ⟨⟨_, _, rfl⟩, by decide, by decide, by decide⟩
    revert hstarted
    refine not_started_of_other nofun (not_started_of_closed ?_ ?_)
    · show _ = true
      decide
    · decide

end HexapodVerified.Hil
