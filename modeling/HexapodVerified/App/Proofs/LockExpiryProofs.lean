import HexapodVerified.App.MaintenanceTasks
import HexapodVerified.Lib.PastTime
import HexapodVerified.Lib.WrappedTime

/-!
# Expiry is permanent

Whether the lock is held, and whether the Jetson is alive, is computed anew from a difference of 32-bit
readings at every call, and what has expired is not marked as such. An expired lock stays expired as
long as no call looks at it at an age that seems young after a wrap of the clock, and no heartbeat is
accepted by a sample of the clock from before its expiry.
-/

namespace HexapodVerified.App

open HexapodVerified.Protocol HexapodVerified.Safety Bytes Transition PastTime WrappedTime

variable {api : MaintenanceApi} {msg_id : UInt8} {req : List UInt8} {out_cap : Nat}

def grants (api : MaintenanceApi) (msg_id : UInt8) : Bool :=
  msg_id == Maintmsg.kEnter && api.dropStale.canEnter && !api.dropStale.locked

def acceptsBeat (api : MaintenanceApi) (msg_id : UInt8) (req : List UInt8) : Bool :=
  msg_id == Maintmsg.kHeartbeat && decide (4 ≤ req.length) && api.dropStale.locked &&
    getU32 req == api.dropStale.token

inductive LockMove (api : MaintenanceApi) (msg_id : UInt8) (req : List UInt8) :
    MaintenanceApi → Prop where
  | kept (hno : grants api msg_id = false ∧ acceptsBeat api msg_id req = false) :
      LockMove api msg_id req api
  | dropped (hno : grants api msg_id = false ∧ acceptsBeat api msg_id req = false) :
      LockMove api msg_id req api.dropStale
  | released (hno : grants api msg_id = false ∧ acceptsBeat api msg_id req = false) :
      LockMove api msg_id req api.dropStale.revoke
  | granted (hgrants : grants api msg_id = true) : LockMove api msg_id req api.dropStale.grant
  | beaten (hbeat : grants api msg_id = false ∧ acceptsBeat api msg_id req = true) :
      LockMove api msg_id req { api.dropStale with last_hb_ms := api.dropStale.now_ms }

theorem grants_of_ne (hid : msg_id ≠ Maintmsg.kEnter) : grants api msg_id = false := by
  unfold grants
  rw [beq_eq_false_iff_ne.mpr hid]
  rfl

theorem acceptsBeat_of_ne (hid : msg_id ≠ Maintmsg.kHeartbeat) :
    acceptsBeat api msg_id req = false := by
  unfold acceptsBeat
  rw [beq_eq_false_iff_ne.mpr hid]
  rfl

theorem lockMove_handleEnter :
    LockMove api Maintmsg.kEnter req (api.dropStale.handleEnter out_cap).1 := by
  have hbeat : acceptsBeat api Maintmsg.kEnter req = false := acceptsBeat_of_ne (by decide)
  unfold MaintenanceApi.handleEnter
  by_cases hcan : api.dropStale.canEnter = true
  · by_cases hlocked : api.dropStale.locked = true
    · have hno : grants api Maintmsg.kEnter = false := by
        unfold grants
        rw [hlocked, Bool.not_true, Bool.and_false]
      rw [hcan, hlocked]
      exact .dropped ⟨hno, hbeat⟩
    · have hfree := eq_false_of_ne_true hlocked
      have hgrants : grants api Maintmsg.kEnter = true := by
        unfold grants
        rw [hcan, hfree]
        rfl
      rw [hcan, hfree, Bool.not_true, if_neg Bool.false_ne_true, if_neg Bool.false_ne_true]
      split_ifs
      · exact .granted hgrants
      · exact .granted hgrants
  · have hcannot := eq_false_of_ne_true hcan
    have hno : grants api Maintmsg.kEnter = false := by
      unfold grants
      rw [hcannot, Bool.and_false, Bool.false_and]
    rw [hcannot]
    exact .dropped ⟨hno, hbeat⟩

theorem lockMove_handleExit :
    LockMove api Maintmsg.kExit req (api.dropStale.handleExit req out_cap).1 := by
  have hno : grants api Maintmsg.kExit = false ∧ acceptsBeat api Maintmsg.kExit req = false :=
    ⟨grants_of_ne (by decide), acceptsBeat_of_ne (by decide)⟩
  unfold MaintenanceApi.handleExit
  split_ifs
  · exact .dropped hno
  · exact .dropped hno
  · exact .released hno

theorem lockMove_handleHeartbeat :
    LockMove api Maintmsg.kHeartbeat req (api.dropStale.handleHeartbeat req out_cap).1 := by
  have henter : grants api Maintmsg.kHeartbeat = false := grants_of_ne (by decide)
  unfold MaintenanceApi.handleHeartbeat
  split_ifs with hlen hbad
  · refine .dropped ⟨henter, ?_⟩
    unfold acceptsBeat
    rw [decide_eq_false (Nat.not_le.mpr hlen), Bool.and_false, Bool.false_and, Bool.false_and]
  · refine .dropped ⟨henter, ?_⟩
    unfold acceptsBeat
    rw [Bool.or_eq_true, Bool.not_eq_true', bne_iff_ne] at hbad
    rcases hbad with hfree | htoken
    · rw [hfree, Bool.and_false, Bool.false_and]
    · rw [beq_eq_false_iff_ne.mpr htoken, Bool.and_false]
  · refine .beaten ⟨henter, ?_⟩
    rw [Bool.not_eq_true, Bool.or_eq_false_iff, Bool.not_eq_false', bne_eq_false_iff_eq] at hbad
    unfold acceptsBeat
    rw [decide_eq_true (Nat.not_lt.mp hlen), hbad.1, hbad.2]
    simp

theorem lockMove_handle (api : MaintenanceApi) (msg_id : UInt8) (req : List UInt8) (out_cap : Nat) :
    LockMove api msg_id req (api.handle msg_id req out_cap).1 := by
  unfold MaintenanceApi.handle
  by_cases henter : msg_id = Maintmsg.kEnter
  · subst henter
    exact lockMove_handleEnter
  by_cases hbeat : msg_id = Maintmsg.kHeartbeat
  · subst hbeat
    exact lockMove_handleHeartbeat
  have hno : grants api msg_id = false ∧ acceptsBeat api msg_id req = false :=
    ⟨grants_of_ne henter, acceptsBeat_of_ne hbeat⟩
  by_cases hid : Maintmsg.isMaintMsg msg_id = true
  · rw [hid, Bool.not_true, if_neg Bool.false_ne_true]
    rw [if_neg henter]
    by_cases hexit : msg_id = Maintmsg.kExit
    · subst hexit
      exact lockMove_handleExit
    · rw [if_neg hexit, if_neg hbeat]
      exact .dropped hno
  · rw [eq_false_of_ne_true hid]
    exact .kept hno

variable {e : ExpiryEvent} {h later earlier : List ExpiryEvent} {s t : ExpiryState}
  {ttl : UInt32} {params : ArbiterParams}

def Grants (e : ExpiryEvent) : Prop :=
  ∃ msg_id req out_cap, e.label = .handle msg_id req out_cap ∧ grants e.pre.g_maintApi msg_id = true

/-- When the lock was last refreshed: by the grant, an accepted heartbeat or a feed. A command counts
from its sample of the clock. -/
def lockSince : List ExpiryEvent → Option Nat
  | [] => none
  | e :: h =>
    match e.label with
    | .handle msg_id req _ =>
      if grants e.pre.g_maintApi msg_id || acceptsBeat e.pre.g_maintApi msg_id req then
        some e.pre.sampled
      else lockSince h
    | .feedTtl => if e.pre.held then some e.pre.clock else lockSince h
    | _ => lockSince h

def jetsonSince : List ExpiryEvent → Option Nat
  | [] => none
  | e :: h => if e.label = .jetsonHeartbeat then some e.pre.clock else jetsonSince h

def clockAfter : List ExpiryEvent → Nat
  | [] => 0
  | e :: _ => e.post.clock

/-- What is expected of the expiry, in a run with these times to live. -/
structure ExpiryPermanent (ttl jetson_ttl : UInt32) (h : List ExpiryEvent) : Prop where
  /-- Once the lock has not been refreshed for more than its time, `lockHeld` and `recoveryLockHeld` answer false
  and a feed does nothing, until an ENTER is granted. -/
  lock : ∀ later earlier, h = later ++ earlier →
    (∃ since ∈ lockSince earlier, since + ttl.toNat < clockAfter earlier) →
    (∀ x ∈ later, ¬ Grants x) →
    ∀ x ∈ later, (x.label = .lockHeld → x.pre.held = false) ∧
      (x.label = .recoveryLockHeld → x.pre.heldForRecovery = false) ∧ (x.label = .feedTtl → x.post = x.pre)
  /-- Once the last heartbeat of the Jetson is older than its time, `jetsonFresh` answers false until
  the next one. -/
  jetson : ∀ later earlier, h = later ++ earlier →
    (∃ since ∈ jetsonSince earlier, since + jetson_ttl.toNat < clockAfter earlier) →
    (∀ x ∈ later, x.label ≠ .jetsonHeartbeat) →
    ∀ x ∈ later, x.label = .jetsonFresh → x.pre.fresh = false

/-- The call takes nothing for young that is not: it looks at a lock or at a heartbeat at an age that is
within the time to live or does not seem so, and it accepts a heartbeat only while the lock lives by
the clock. -/
def SeesAge (ttl jetson_ttl : UInt32) (e : ExpiryEvent) (earlier : List ExpiryEvent) : Prop :=
  match e.label with
  | .lockHeld | .recoveryLockHeld | .feedTtl => e.pre.g_maintApi.locked = true →
      ∀ since ∈ lockSince earlier, Unaliased ttl since e.pre.clock
  | .handle msg_id req _ => acceptsBeat e.pre.g_maintApi msg_id req = true →
      ∀ since ∈ lockSince earlier, e.pre.clock ≤ since + ttl.toNat
  | .jetsonFresh => ∀ since ∈ jetsonSince earlier, Unaliased jetson_ttl since e.pre.clock
  | _ => True

/-- The readings that the code has stored are readings of the clock at the latest beats. -/
structure Anchored (ttl : UInt32) (params : ArbiterParams) (h : List ExpiryEvent) (s : ExpiryState) :
    Prop where
  clock : clockAfter h = s.clock
  ttl_ms : s.g_maintApi.ttl_ms = ttl
  params : s.arbiter.params = params
  now_ms : s.g_maintApi.now_ms = UInt32.ofNat s.sampled
  sampled_le : s.sampled ≤ s.clock
  lock : s.g_maintApi.locked = true → ∃ since, lockSince h = some since ∧ since ≤ s.clock ∧
    s.g_maintApi.last_hb_ms = UInt32.ofNat since
  jetson : s.arbiter.jetson_seen = true → ∃ since, jetsonSince h = some since ∧ since ≤ s.clock ∧
    s.arbiter.jetson_last_ms = UInt32.ofNat since

/-- A call that leaves the lock, the arbiter's heartbeat and the sample alone. -/
theorem Anchored.keep {call : ExpiryCall} (hinv : Anchored ttl params h s)
    (hlock : lockSince (⟨s, call, t⟩ :: h) = lockSince h)
    (hjetson : jetsonSince (⟨s, call, t⟩ :: h) = jetsonSince h)
    (hclock : s.clock ≤ t.clock) (hsampled : t.sampled = s.sampled)
    (hnow : t.g_maintApi.now_ms = s.g_maintApi.now_ms) (httl : t.g_maintApi.ttl_ms = s.g_maintApi.ttl_ms)
    (hparams : t.arbiter.params = s.arbiter.params)
    (hlocked : t.g_maintApi.locked = true → s.g_maintApi.locked = true ∧
      t.g_maintApi.last_hb_ms = s.g_maintApi.last_hb_ms)
    (hseen : t.arbiter.jetson_seen = s.arbiter.jetson_seen ∧
      t.arbiter.jetson_last_ms = s.arbiter.jetson_last_ms) :
    Anchored ttl params (⟨s, call, t⟩ :: h) t := by
  refine ⟨rfl, httl.trans hinv.ttl_ms, hparams.trans hinv.params, ?_, ?_, fun hl => ?_, fun hj => ?_⟩
  · rw [hnow, hsampled, hinv.now_ms]
  · rw [hsampled]
    exact hinv.sampled_le.trans hclock
  · obtain ⟨hl', hlast⟩ := hlocked hl
    obtain ⟨since, hsince, hle, hstamp⟩ := hinv.lock hl'
    exact ⟨since, hlock.trans hsince, hle.trans hclock, hlast.trans hstamp⟩
  · rw [hseen.1] at hj
    obtain ⟨since, hsince, hle, hstamp⟩ := hinv.jetson hj
    exact ⟨since, hjetson.trans hsince, hle.trans hclock, hseen.2.trans hstamp⟩

theorem dropStale_readings (api : MaintenanceApi) :
    api.dropStale.now_ms = api.now_ms ∧ api.dropStale.ttl_ms = api.ttl_ms ∧
      api.dropStale.last_hb_ms = api.last_hb_ms ∧
      (api.dropStale.locked = true → api.locked = true) := by
  unfold MaintenanceApi.dropStale
  split_ifs
  · exact ⟨rfl, rfl, rfl, nofun⟩
  · exact ⟨rfl, rfl, rfl, id⟩

theorem update_heartbeat (a : CommandArbiter) (rc : RcInputs) (now_ms : UInt32) :
    (a.update rc now_ms).params = a.params ∧ (a.update rc now_ms).jetson_seen = a.jetson_seen ∧
      (a.update rc now_ms).jetson_last_ms = a.jetson_last_ms := by
  unfold CommandArbiter.update CommandArbiter.grant CommandArbiter.expireMacLock
  dsimp only
  split_ifs <;> exact ⟨rfl, rfl, rfl⟩

theorem lockSince_of_no (hno : grants s.g_maintApi msg_id = false ∧
    acceptsBeat s.g_maintApi msg_id req = false) :
    lockSince (⟨s, .handle msg_id req out_cap, t⟩ :: h) = lockSince h := by
  show (if grants s.g_maintApi msg_id || acceptsBeat s.g_maintApi msg_id req then some s.sampled
    else lockSince h) = lockSince h
  rw [hno.1, hno.2]
  rfl

theorem lockSince_of_counts (hcounts : grants s.g_maintApi msg_id = true ∨
    acceptsBeat s.g_maintApi msg_id req = true) :
    lockSince (⟨s, .handle msg_id req out_cap, t⟩ :: h) = some s.sampled := by
  rw [← Bool.or_eq_true] at hcounts
  exact if_pos hcounts

theorem Anchored.handle (hinv : Anchored ttl params h s) {api : MaintenanceApi}
    (hmove : LockMove s.g_maintApi msg_id req api) (ht : t = { s with g_maintApi := api }) :
    Anchored ttl params (⟨s, .handle msg_id req out_cap, t⟩ :: h) t := by
  subst ht
  obtain ⟨hnow, httl, hlast, hlocked⟩ := dropStale_readings s.g_maintApi
  have hsample : s.g_maintApi.dropStale.now_ms = UInt32.ofNat s.sampled := hnow.trans hinv.now_ms
  cases hmove with
  | kept hno =>
    exact hinv.keep (lockSince_of_no hno) rfl le_rfl rfl rfl rfl rfl (fun hl => ⟨hl, rfl⟩) ⟨rfl, rfl⟩
  | dropped hno =>
    exact hinv.keep (lockSince_of_no hno) rfl le_rfl rfl hnow httl rfl
      (fun hl => ⟨hlocked hl, hlast⟩) ⟨rfl, rfl⟩
  | released hno =>
    exact hinv.keep (lockSince_of_no hno) rfl le_rfl rfl hnow httl rfl
      (nofun) ⟨rfl, rfl⟩
  | granted hgrants =>
    exact ⟨rfl, httl.trans hinv.ttl_ms, hinv.params, hsample, hinv.sampled_le,
      fun _ => ⟨_, lockSince_of_counts (.inl hgrants), hinv.sampled_le, hsample⟩, hinv.jetson⟩
  | beaten hbeat =>
    exact ⟨rfl, httl.trans hinv.ttl_ms, hinv.params, hsample, hinv.sampled_le,
      fun _ => ⟨_, lockSince_of_counts (.inr hbeat.2), hinv.sampled_le, hsample⟩, hinv.jetson⟩

theorem call_feedTtl_of_held (hheld : s.held = true) : s.call .feedTtl =
    { s with g_maintApi := { s.g_maintApi with last_hb_ms := s.now } } :=
  congrArg (fun api => { s with g_maintApi := api }) (if_pos hheld)

theorem call_feedTtl_of_free (hfree : s.held = false) : s.call .feedTtl = s :=
  congrArg (fun api => { s with g_maintApi := api }) (if_neg (ne_true_of_eq_false hfree))

theorem Anchored.feedTtl (hinv : Anchored ttl params h s) :
    Anchored ttl params (⟨s, .feedTtl, s.call .feedTtl⟩ :: h) (s.call .feedTtl) := by
  by_cases hheld : s.held = true
  · have hsince : lockSince (⟨s, .feedTtl, s.call .feedTtl⟩ :: h) = some s.clock := if_pos hheld
    rw [call_feedTtl_of_held hheld] at hsince ⊢
    exact ⟨rfl, hinv.ttl_ms, hinv.params, hinv.now_ms, hinv.sampled_le,
      fun _ => ⟨_, hsince, le_rfl, rfl⟩, hinv.jetson⟩
  · have hsince : lockSince (⟨s, .feedTtl, s.call .feedTtl⟩ :: h) = lockSince h := if_neg hheld
    rw [call_feedTtl_of_free (eq_false_of_ne_true hheld)] at hsince ⊢
    exact hinv.keep hsince rfl le_rfl rfl rfl rfl rfl (fun hl => ⟨hl, rfl⟩) ⟨rfl, rfl⟩

theorem anchored_of_run (run : ExpiryRun ttl params h s) : Anchored ttl params h s := by
  refine run.history_invariant (Anchored ttl params) ?_ ?_
  · exact ⟨rfl, rfl, rfl, rfl, le_rfl, nofun,
      nofun⟩
  · rintro h s c t - hinv rfl
    cases c with
    | pass ms =>
      exact hinv.keep rfl rfl (Nat.le_add_right _ _) rfl rfl rfl rfl (fun hl => ⟨hl, rfl⟩) ⟨rfl, rfl⟩
    | setNow =>
      exact ⟨rfl, hinv.ttl_ms, hinv.params, rfl, le_rfl, hinv.lock, hinv.jetson⟩
    | setLiveState state =>
      exact hinv.keep rfl rfl le_rfl rfl rfl rfl rfl (fun hl => ⟨hl, rfl⟩) ⟨rfl, rfl⟩
    | setFailsafeRecoveryAllowed allowed =>
      exact hinv.keep rfl rfl le_rfl rfl rfl rfl rfl (fun hl => ⟨hl, rfl⟩) ⟨rfl, rfl⟩
    | handle msg_id req out_cap => exact hinv.handle (lockMove_handle _ _ _ _) rfl
    | feedTtl => exact hinv.feedTtl
    | lockHeld | recoveryLockHeld => exact hinv.keep rfl rfl le_rfl rfl rfl rfl rfl (fun hl => ⟨hl, rfl⟩) ⟨rfl, rfl⟩
    | revoke =>
      exact hinv.keep rfl rfl le_rfl rfl rfl rfl rfl (nofun)
        ⟨rfl, rfl⟩
    | jetsonHeartbeat =>
      exact ⟨rfl, hinv.ttl_ms, hinv.params, hinv.now_ms, hinv.sampled_le, hinv.lock,
        fun _ => ⟨s.clock, rfl, le_rfl, rfl⟩⟩
    | jetsonFresh => exact hinv.keep rfl rfl le_rfl rfl rfl rfl rfl (fun hl => ⟨hl, rfl⟩) ⟨rfl, rfl⟩
    | update rc =>
      obtain ⟨hparams, hseen⟩ := update_heartbeat s.arbiter rc s.now
      exact hinv.keep rfl rfl le_rfl rfl rfl rfl hparams (fun hl => ⟨hl, rfl⟩) hseen

/-- A lock that is still marked as taken has run out. -/
def Expired (ttl : UInt32) (h : List ExpiryEvent) (s : ExpiryState) : Prop :=
  s.g_maintApi.locked = true → ∃ since ∈ lockSince h, since + ttl.toNat < s.clock

theorem held_of_expired (hinv : Anchored ttl params h s) (hexpired : Expired ttl h s)
    (hage : s.g_maintApi.locked = true → ∀ since ∈ lockSince h, Unaliased ttl since s.clock) :
    s.held = false := by
  refine eq_false_of_ne_true fun hheld => ?_
  obtain ⟨hlocked, hlooks⟩ := (Bool.and_eq_true _ _ ▸ hheld)
  obtain ⟨since, hsince, -, hstamp⟩ := hinv.lock hlocked
  obtain ⟨since', hsince', hover⟩ := hexpired hlocked
  obtain rfl : since = since' := Option.some.inj (hsince.symm.trans hsince')
  rw [hstamp, hinv.ttl_ms] at hlooks
  exact (hage hlocked since hsince).not_young hover (of_decide_eq_true hlooks)

theorem Expired.keep {call : ExpiryCall} (hexpired : Expired ttl h s)
    (hlock : lockSince (⟨s, call, t⟩ :: h) = lockSince h) (hclock : s.clock ≤ t.clock)
    (hlocked : t.g_maintApi.locked = true → s.g_maintApi.locked = true) :
    Expired ttl (⟨s, call, t⟩ :: h) t := by
  intro hl
  obtain ⟨since, hsince, hover⟩ := hexpired (hlocked hl)
  rw [hlock]
  exact ⟨since, hsince, by omega⟩

theorem Expired.handle (hexpired : Expired ttl h s) {api : MaintenanceApi}
    (hmove : LockMove s.g_maintApi msg_id req api) (hno : grants s.g_maintApi msg_id = false)
    (hbeat : acceptsBeat s.g_maintApi msg_id req = true →
      ∀ since ∈ lockSince h, s.clock ≤ since + ttl.toNat) :
    Expired ttl (⟨s, .handle msg_id req out_cap, { s with g_maintApi := api }⟩ :: h)
      { s with g_maintApi := api } := by
  obtain ⟨-, -, -, hlocked⟩ := dropStale_readings s.g_maintApi
  cases hmove with
  | kept hnone => exact hexpired.keep (lockSince_of_no hnone) le_rfl id
  | dropped hnone => exact hexpired.keep (lockSince_of_no hnone) le_rfl hlocked
  | released hnone => exact nofun
  | granted hgrants => exact nomatch hno.symm.trans hgrants
  | beaten haccepts =>
    have hdrop : s.g_maintApi.dropStale.locked = true := by
      have hboth := haccepts.2
      unfold acceptsBeat at hboth
      simp only [Bool.and_eq_true] at hboth
      exact hboth.1.2
    obtain ⟨since, hsince, hover⟩ := hexpired (hlocked hdrop)
    have hlive := hbeat haccepts.2 since hsince
    omega

theorem Expired.call {jetson_ttl : UInt32} (hinv : Anchored ttl params h s)
    (hexpired : Expired ttl h s) (c : ExpiryCall) (hno : ¬ Grants ⟨s, c, s.call c⟩)
    (hsees : SeesAge ttl jetson_ttl ⟨s, c, s.call c⟩ h) :
    Expired ttl (⟨s, c, s.call c⟩ :: h) (s.call c) ∧ (c = .lockHeld → s.held = false) ∧
      (c = .recoveryLockHeld → s.heldForRecovery = false) ∧ (c = .feedTtl → s.call c = s) := by
  cases c with
  | pass ms => exact ⟨hexpired.keep rfl (Nat.le_add_right _ _) id, nofun, nofun, nofun⟩
  | handle msg_id req out_cap =>
    refine ⟨hexpired.handle (lockMove_handle _ _ _ _) ?_ hsees, nofun, nofun, nofun⟩
    exact eq_false_of_ne_true fun hgrants => hno ⟨_, _, _, rfl, hgrants⟩
  | feedTtl =>
    have hfree := held_of_expired hinv hexpired hsees
    have hsince : lockSince (⟨s, .feedTtl, s.call .feedTtl⟩ :: h) = lockSince h :=
      if_neg (ne_true_of_eq_false hfree)
    have hsame := call_feedTtl_of_free hfree
    refine ⟨?_, nofun, nofun, fun _ => hsame⟩
    rw [hsame] at hsince ⊢
    exact hexpired.keep hsince le_rfl id
  | lockHeld => exact ⟨hexpired.keep rfl le_rfl id, fun _ => held_of_expired hinv hexpired hsees, nofun, nofun⟩
  | recoveryLockHeld =>
    have hfree := held_of_expired hinv hexpired hsees
    exact ⟨hexpired.keep rfl le_rfl id, nofun, fun _ => congrArg (· && s.g_maintApi.recovery_lock) hfree, nofun⟩
  | revoke => exact ⟨nofun, nofun, nofun, nofun⟩
  | setNow | setLiveState _ | setFailsafeRecoveryAllowed _ | jetsonHeartbeat | jetsonFresh
  | update _ => exact ⟨hexpired.keep rfl le_rfl id, nofun, nofun, nofun⟩

/-- The latest heartbeat of the Jetson has run out. -/
def Silent (jetson_ttl : UInt32) (h : List ExpiryEvent) (s : ExpiryState) : Prop :=
  ∃ since ∈ jetsonSince h, since + jetson_ttl.toNat < s.clock

theorem fresh_of_silent {jetson_ttl : UInt32} (hinv : Anchored ttl params h s)
    (hparams : params.jetson_ttl_ms = jetson_ttl) (hsilent : Silent jetson_ttl h s)
    (hage : ∀ since ∈ jetsonSince h, Unaliased jetson_ttl since s.clock) : s.fresh = false := by
  refine eq_false_of_ne_true fun hfresh => ?_
  obtain ⟨hseen, hlooks⟩ := (Bool.and_eq_true _ _ ▸ hfresh)
  obtain ⟨since, hsince, -, hstamp⟩ := hinv.jetson hseen
  obtain ⟨since', hsince', hover⟩ := hsilent
  obtain rfl : since = since' := Option.some.inj (hsince.symm.trans hsince')
  rw [hstamp, hinv.params, hparams] at hlooks
  exact (hage since hsince).not_young hover (of_decide_eq_true hlooks)

theorem clock_le_call (s : ExpiryState) (c : ExpiryCall) : s.clock ≤ (s.call c).clock := by
  cases c with
  | pass ms => exact Nat.le_add_right _ _
  | _ => exact le_rfl

theorem Silent.call {jetson_ttl : UInt32} (hinv : Anchored ttl params h s)
    (hparams : params.jetson_ttl_ms = jetson_ttl) (hsilent : Silent jetson_ttl h s) (c : ExpiryCall)
    (hno : c ≠ .jetsonHeartbeat) (hsees : SeesAge ttl jetson_ttl ⟨s, c, s.call c⟩ h) :
    Silent jetson_ttl (⟨s, c, s.call c⟩ :: h) (s.call c) ∧ (c = .jetsonFresh → s.fresh = false) := by
  have hsame : jetsonSince (⟨s, c, s.call c⟩ :: h) = jetsonSince h := if_neg hno
  have hclock := clock_le_call s c
  constructor
  · obtain ⟨since, hsince, hover⟩ := hsilent
    unfold Silent
    rw [hsame]
    exact ⟨since, hsince, by omega⟩
  · rintro rfl
    exact fresh_of_silent hinv hparams hsilent hsees

/-- In every run whose calls see every age as it is, what has expired stays expired. -/
theorem expiry_permanent (run : ExpiryRun ttl params h s)
    (hsees : Historically (SeesAge ttl params.jetson_ttl_ms) h) :
    ExpiryPermanent ttl params.jetson_ttl_ms h := by
  have hat (later : List ExpiryEvent) (e : ExpiryEvent) (between earlier : List ExpiryEvent)
      (heq : h = (later ++ e :: between) ++ earlier) :
      SeesAge ttl params.jetson_ttl_ms e (between ++ earlier) := by
    rw [heq, List.append_assoc, List.cons_append] at hsees
    exact hsees.at
  constructor
  · rintro later earlier rfl ⟨since, hsince, hover⟩ hno
    refine (run.resume (P := fun e h => ¬ Grants e ∧ SeesAge ttl params.jetson_ttl_ms e h)
      (Expired ttl) ?_ ?_ ?_).2
    · intro m hrun hlocked
      rw [(anchored_of_run hrun).clock] at hover
      exact ⟨since, hsince, hover⟩
    · rintro h' ⟨pre, c, post⟩ hrun hpost hexpired ⟨hgrants, hage⟩
      obtain rfl : post = pre.call c := hpost
      exact hexpired.call (anchored_of_run hrun) c hgrants hage
    · rintro after e between rfl
      exact ⟨hno e (by simp), hat after e between earlier rfl⟩
  · rintro later earlier rfl ⟨since, hsince, hover⟩ hno
    refine (run.resume (P := fun e h => e.label ≠ .jetsonHeartbeat ∧
      SeesAge ttl params.jetson_ttl_ms e h) (Silent params.jetson_ttl_ms) ?_ ?_ ?_).2
    · intro m hrun
      rw [(anchored_of_run hrun).clock] at hover
      exact ⟨since, hsince, hover⟩
    · rintro h' ⟨pre, c, post⟩ hrun hpost hsilent ⟨hbeat, hage⟩
      obtain rfl : post = pre.call c := hpost
      exact hsilent.call (anchored_of_run hrun) rfl c hbeat hage
    · rintro after e between rfl
      exact ⟨hno e (by simp), hat after e between earlier rfl⟩

def longWait (ms : Nat) : List ExpiryCall :=
  [.setLiveState Maintstate.kDisarmed, .handle Maintmsg.kEnter [] 256, .pass ms, .lockHeld]

def expiryStart : ExpiryState := { g_maintApi := {}, arbiter := {} }

def longWaitHistory (ms : Nat) : List ExpiryEvent :=
  executeHistory ExpiryState.call expiryStart [] (longWait ms)

/-- The state after a wait of 2 ^ 32 milliseconds. -/
def longWaitEnd : ExpiryState := execute ExpiryState.call expiryStart (longWait (2 ^ 32))

theorem longWait_run (ms : Nat) : ExpiryRun kDefaultTtlMs {} (longWaitHistory ms)
    (execute ExpiryState.call expiryStart (longWait ms)) :=
  run_execute ExpiryState.call (longWait ms) .nil

theorem expiry_permanent_longWait : ExpiryPermanent kDefaultTtlMs 250 (longWaitHistory 5000) := by
  refine expiry_permanent (longWait_run 5000) ⟨fun _ since hsince => ?_, trivial, fun hbeat => ?_,
    trivial, trivial⟩
  · obtain rfl : 0 = since := Option.some.inj hsince
    decide
  · cases hbeat

/-- After 2 ^ 32 milliseconds the lock is held again. -/
theorem not_expiry_permanent :
    ¬ ∀ ttl params h s, ExpiryRun ttl params h s → ExpiryPermanent ttl params.jetson_ttl_ms h := by
  intro hall
  have hexpected := hall _ _ _ _ (longWait_run (2 ^ 32))
  have hsplit : longWaitHistory (2 ^ 32) =
      [⟨longWaitEnd, .lockHeld, longWaitEnd⟩] ++ (longWaitHistory (2 ^ 32)).tail := rfl
  have hanswer := hexpected.lock _ _ hsplit ⟨0, rfl, by decide⟩
    (fun x hx hgrants => ?_) _ (List.mem_singleton_self _)
  · exact nomatch hanswer.1 rfl
  · obtain rfl := List.mem_singleton.mp hx
    obtain ⟨msg_id, req, out_cap, hlabel, -⟩ := hgrants
    cases hlabel

end HexapodVerified.App
