import HexapodVerified.App.MaintenanceTasks

/-!
# The maintenance lock between two tasks

The requests and feeds of a run tell who should hold the lock and since when; `ledger` reads it off the
history. The lock of the code is the one of the ledger as long as no request is handled with a
clock sample that was overtaken: by a feed, because the age of the lock then wraps around and looks
like an expired one, or by the end of the lock's time.
-/

namespace HexapodVerified.App

open HexapodVerified.Protocol Bytes Transition

variable {api : MaintenanceApi} {s t : MaintTasks} {a : MaintStep} {e : MaintEvent}
  {h : List MaintEvent} {msg_id : UInt8} {req : List UInt8} {ttl : Nat}

/-- What a command does to the lock, and whether it is answered `Ok`. -/
inductive Handled (api : MaintenanceApi) (msg_id : UInt8) (req : List UInt8) :
    MaintenanceApi → Option MaintReply → Prop where
  | foreign (hid : Maintmsg.isMaintMsg msg_id = false) : Handled api msg_id req api none
  | refused (reply : Option MaintReply) (hid : Maintmsg.isMaintMsg msg_id = true)
      (hno : ∀ r ∈ reply, r.out.head? ≠ some MaintResult.ok.wire) :
      Handled api msg_id req api.dropStale reply
  | entered (hid : msg_id = Maintmsg.kEnter) (hcan : api.dropStale.canEnter = true)
      (hfree : api.dropStale.locked = false) :
      Handled api msg_id req api.dropStale.grant
        (some { out := MaintResult.ok.wire :: api.dropStale.live_state ::
          putU32 api.dropStale.grant.token })
  | exited (hid : msg_id = Maintmsg.kExit) (hlocked : api.dropStale.locked = true)
      (htoken : getU32 req = api.dropStale.token) :
      Handled api msg_id req api.dropStale.revoke
        (some { out := [MaintResult.ok.wire, api.dropStale.live_state] })
  | beaten (hid : msg_id = Maintmsg.kHeartbeat) (hlocked : api.dropStale.locked = true)
      (htoken : getU32 req = api.dropStale.token) :
      Handled api msg_id req { api.dropStale with last_hb_ms := api.dropStale.now_ms }
        (some { out := [MaintResult.ok.wire, api.dropStale.live_state] })

theorem head?_writeResult (api : MaintenanceApi) (r : MaintResult) :
    (api.writeResult r kMaxPayload).out.head? = some r.wire := rfl

theorem refused_writeResult (hid : Maintmsg.isMaintMsg msg_id = true) {r : MaintResult}
    (hr : r.wire ≠ MaintResult.ok.wire) :
    Handled api msg_id req api.dropStale (some (api.dropStale.writeResult r kMaxPayload)) := by
  refine .refused _ hid fun reply hreply => ?_
  obtain rfl : _ = reply := Option.some.inj hreply
  rw [head?_writeResult]
  exact fun heq => hr (Option.some.inj heq)

theorem handled_handleEnter (hid : Maintmsg.isMaintMsg msg_id = true)
    (henter : msg_id = Maintmsg.kEnter) :
    Handled api msg_id req (api.dropStale.handleEnter kMaxPayload).1
      (some (api.dropStale.handleEnter kMaxPayload).2) := by
  unfold MaintenanceApi.handleEnter
  cases hcan : api.dropStale.canEnter with
  | false => exact refused_writeResult hid (by decide)
  | true =>
    cases hlocked : api.dropStale.locked with
    | true => exact refused_writeResult hid (by decide)
    | false => exact .entered henter hcan hlocked

theorem token_of_checked {api : MaintenanceApi}
    (hbad : (!api.locked || getU32 req != api.token) = false) :
    api.locked = true ∧ getU32 req = api.token := by
  rw [Bool.or_eq_false_iff, Bool.not_eq_false', bne_eq_false_iff_eq] at hbad
  exact hbad

/-- EXIT and HEARTBEAT are refused unless the request carries the token of the lock. -/
theorem handled_checked (hid : Maintmsg.isMaintMsg msg_id = true) {accepted : MaintenanceApi × MaintReply}
    (haccepted : api.dropStale.locked = true → getU32 req = api.dropStale.token →
      Handled api msg_id req accepted.1 (some accepted.2)) :
    Handled api msg_id req
      (if req.length < 4 then (api.dropStale, api.dropStale.writeResult .badRequest kMaxPayload)
        else if !api.dropStale.locked || getU32 req != api.dropStale.token then
          (api.dropStale, api.dropStale.writeResult .badToken kMaxPayload)
        else accepted).1
      (some (if req.length < 4 then (api.dropStale, api.dropStale.writeResult .badRequest kMaxPayload)
        else if !api.dropStale.locked || getU32 req != api.dropStale.token then
          (api.dropStale, api.dropStale.writeResult .badToken kMaxPayload)
        else accepted).2) := by
  by_cases hlen : req.length < 4
  · rw [if_pos hlen]
    exact refused_writeResult hid (by decide)
  · rw [if_neg hlen]
    cases hbad : (!api.dropStale.locked || getU32 req != api.dropStale.token) with
    | true => exact refused_writeResult hid (by decide)
    | false =>
      obtain ⟨hlocked, htoken⟩ := token_of_checked hbad
      exact haccepted hlocked htoken

theorem handled_handleExit (hid : Maintmsg.isMaintMsg msg_id = true)
    (hexit : msg_id = Maintmsg.kExit) :
    Handled api msg_id req (api.dropStale.handleExit req kMaxPayload).1
      (some (api.dropStale.handleExit req kMaxPayload).2) := by
  exact handled_checked hid fun hlocked htoken => .exited hexit hlocked htoken

theorem handled_handleHeartbeat (hid : Maintmsg.isMaintMsg msg_id = true)
    (hbeat : msg_id = Maintmsg.kHeartbeat) :
    Handled api msg_id req (api.dropStale.handleHeartbeat req kMaxPayload).1
      (some (api.dropStale.handleHeartbeat req kMaxPayload).2) := by
  exact handled_checked hid fun hlocked htoken => .beaten hbeat hlocked htoken

theorem handled_handle (api : MaintenanceApi) (msg_id : UInt8) (req : List UInt8) :
    Handled api msg_id req (api.handle msg_id req kMaxPayload).1
      (api.handle msg_id req kMaxPayload).2 := by
  unfold MaintenanceApi.handle
  cases hid : Maintmsg.isMaintMsg msg_id with
  | false => exact .foreign hid
  | true =>
    rw [Bool.not_true, if_neg Bool.false_ne_true]
    by_cases henter : msg_id = Maintmsg.kEnter
    · rw [if_pos henter]
      exact handled_handleEnter hid henter
    rw [if_neg henter]
    by_cases hexit : msg_id = Maintmsg.kExit
    · rw [if_pos hexit]
      exact handled_handleExit hid hexit
    rw [if_neg hexit]
    by_cases hbeat : msg_id = Maintmsg.kHeartbeat
    · rw [if_pos hbeat]
      exact handled_handleHeartbeat hid hbeat
    · rw [if_neg hbeat]
      exact .refused none hid fun r hr => nomatch hr

/-- Who holds the lock, and the clock of the last request or feed that counts for it. -/
structure Lock where
  token : UInt32
  since : Nat
  deriving DecidableEq, Repr

variable {lock : Option Lock}

/-- What an answer means for the lock; the request counts from its clock sample. -/
def answered (lock : Option Lock) (msg_id : UInt8) (reply : Option MaintReply) (sample : Nat) :
    Option Lock :=
  if accepted reply then
    if msg_id = Maintmsg.kEnter then some { token := replyToken reply, since := sample }
    else if msg_id = Maintmsg.kExit then none
    else lock.map fun l => { l with since := sample }
  else lock

/-- What a feed means for the lock: it refreshes one that lives. -/
def fed (ttl : Nat) (lock : Option Lock) (clock : Nat) : Option Lock :=
  lock.map fun l => if clock ≤ l.since + ttl then { l with since := clock } else l

/-- The lock as the steps of a run tell it, when its time to live is `ttl`. It may be expired. -/
def ledger (ttl : Nat) : List MaintEvent → Option Lock
  | [] => none
  | e :: h =>
    match e.label with
    | .handle msg_id req =>
      answered (ledger ttl h) msg_id (e.pre.reply msg_id req) e.pre.g_maintApi.now_ms.toNat
    | .feedTtl => fed ttl (ledger ttl h) e.pre.clock
    | .revoke => none
    | _ => ledger ttl h

/-- Somebody holds the lock of the ledger at that time. -/
def LiveAt (ttl : Nat) (lock : Option Lock) (time : Nat) : Prop :=
  ∃ l ∈ lock, time ≤ l.since + ttl

/-- The request is not handled with a sample of the clock that was overtaken: no feed has refreshed a
living lock since, and a lock that lives by the sample of its holder's EXIT or HEARTBEAT still lives
by the clock. -/
def OnTime (s : MaintTasks) (msg_id : UInt8) (req : List UInt8) : Prop :=
  (s.held = true → s.g_maintApi.last_hb_ms ≤ s.g_maintApi.now_ms) ∧
  ((msg_id = Maintmsg.kExit ∨ msg_id = Maintmsg.kHeartbeat) → getU32 req = s.g_maintApi.token →
    s.g_maintApi.lockHeld s.g_maintApi.now_ms = true → s.held = true)

instance (s : MaintTasks) (msg_id : UInt8) (req : List UInt8) : Decidable (OnTime s msg_id req) :=
  inferInstanceAs (Decidable ((_ → _) ∧ (_ → _ → _ → _)))

def StepOnTime (s : MaintTasks) : MaintStep → Prop
  | .handle msg_id req => Maintmsg.isMaintMsg msg_id = true → OnTime s msg_id req
  | _ => True

instance (s : MaintTasks) : (a : MaintStep) → Decidable (StepOnTime s a)
  | .handle _ _ => inferInstanceAs (Decidable (_ → _))
  | .tick | .sample | .setNow | .setLiveState _ | .setFailsafeRecoveryAllowed _ | .feedTtl
  | .lockHeld | .revoke => .isTrue trivial

/-- Every maintenance command of the history was handled on time. -/
def AllOnTime (h : List MaintEvent) : Prop := ∀ e ∈ h, StepOnTime e.pre e.label

theorem lockHeld_iff {now_ms : UInt32} (hle : api.last_hb_ms.toNat ≤ now_ms.toNat) :
    api.lockHeld now_ms = true ↔
      api.locked = true ∧ now_ms.toNat ≤ api.last_hb_ms.toNat + api.ttl_ms.toNat := by
  have hsub := UInt32.toNat_sub_of_le _ _ (UInt32.le_iff_toNat_le.mpr hle)
  unfold MaintenanceApi.lockHeld
  rw [Bool.and_eq_true, decide_eq_true_eq, UInt32.le_iff_toNat_le, hsub]
  constructor
  · rintro ⟨hlocked, hlive⟩
    exact ⟨hlocked, by omega⟩
  · rintro ⟨hlocked, hlive⟩
    exact ⟨hlocked, by omega⟩

theorem now_toNat (hclock : s.clock < 2 ^ 32) : s.now.toNat = s.clock := by
  unfold MaintTasks.now
  rw [UInt32.toNat_ofNat', Nat.mod_eq_of_lt hclock]

theorem dropStale_cases (api : MaintenanceApi) :
    (api.dropStale = api ∧ (api.locked = true → api.lockHeld api.now_ms = true)) ∨
      (api.dropStale = api.revoke ∧ api.locked = true ∧ api.lockHeld api.now_ms = false) := by
  unfold MaintenanceApi.dropStale MaintenanceApi.lockHeld
  cases api.locked with
  | false => exact .inl ⟨rfl, nofun⟩
  | true =>
    by_cases hstale : api.now_ms - api.last_hb_ms > api.ttl_ms
    · refine .inr ⟨if_pos (decide_eq_true hstale), rfl, ?_⟩
      exact decide_eq_false (UInt32.not_le.mpr hstale)
    · refine .inl ⟨if_neg fun h => hstale (of_decide_eq_true h), fun _ => ?_⟩
      exact decide_eq_true (UInt32.not_lt.mp hstale)

/-- The lock of the code is the one of the ledger, unless it has been dropped after its time. -/
structure LockInv (ttl : Nat) (lock : Option Lock) (s : MaintTasks) : Prop where
  ttl_ms : s.g_maintApi.ttl_ms.toNat = ttl
  now_le : s.g_maintApi.now_ms.toNat ≤ s.clock
  sampled_le : ∀ uptime_ms, s.api = .sampled uptime_ms → uptime_ms.toNat ≤ s.clock
  last_le : s.g_maintApi.last_hb_ms.toNat ≤ s.clock
  next : s.g_maintApi.next_token ≠ 0
  locked : s.g_maintApi.locked = true → s.g_maintApi.token ≠ 0 ∧
    lock = some ⟨s.g_maintApi.token, s.g_maintApi.last_hb_ms.toNat⟩
  unlocked : s.g_maintApi.locked = false → ¬ LiveAt ttl lock s.clock

theorem LockInv.held_iff (hinv : LockInv ttl lock s) (hclock : s.clock < 2 ^ 32) :
    s.held = true ↔
      s.g_maintApi.locked = true ∧ s.clock ≤ s.g_maintApi.last_hb_ms.toNat + ttl := by
  have hnow := now_toNat hclock
  unfold MaintTasks.held
  rw [lockHeld_iff (by rw [hnow]; exact hinv.last_le), hnow, hinv.ttl_ms]

/-- The lock is held exactly when the one of the ledger lives, and then the tokens agree. -/
theorem LockInv.held_iff_live (hinv : LockInv ttl lock s) (hclock : s.clock < 2 ^ 32) :
    s.held = true ↔ LiveAt ttl lock s.clock := by
  rw [hinv.held_iff hclock]
  cases hlocked : s.g_maintApi.locked with
  | false =>
    exact iff_of_false (fun hheld => nomatch hheld.1) (hinv.unlocked hlocked)
  | true =>
    obtain ⟨-, hledger⟩ := hinv.locked hlocked
    rw [hledger]
    constructor
    · rintro ⟨-, hlive⟩
      exact ⟨_, rfl, hlive⟩
    · rintro ⟨l, hl, hlive⟩
      obtain rfl := Option.some.inj hl
      exact ⟨rfl, hlive⟩

theorem LockInv.not_live (hinv : LockInv ttl lock s) (hclock : s.clock < 2 ^ 32)
    (hfree : s.held = false) : ¬ LiveAt ttl lock s.clock := by
  rw [← hinv.held_iff_live hclock, hfree]
  exact Bool.false_ne_true

theorem LockInv.stale (hinv : LockInv ttl lock s) (hclock : s.clock < 2 ^ 32)
    (hfed : s.held = true → s.g_maintApi.last_hb_ms ≤ s.g_maintApi.now_ms)
    (hstale : s.g_maintApi.lockHeld s.g_maintApi.now_ms = false) : s.held = false := by
  cases hheld : s.held with
  | false => rfl
  | true =>
    obtain ⟨hlocked, hlive⟩ := (hinv.held_iff hclock).mp hheld
    have hle := UInt32.le_iff_toNat_le.mp (hfed hheld)
    have hnow := hinv.now_le
    have hlive' : s.g_maintApi.lockHeld s.g_maintApi.now_ms = true := by
      rw [lockHeld_iff hle, hinv.ttl_ms]
      exact ⟨hlocked, by omega⟩
    rw [hlive'] at hstale
    exact nomatch hstale

/-! ## Steps -/

inductive MaintMove : MaintTasks → MaintStep → MaintTasks → Prop where
  | tick {s : MaintTasks} : MaintMove s .tick { s with clock := s.clock + 1 }
  | sample {s : MaintTasks} : MaintMove s .sample { s with api := .sampled s.now }
  | setNow {s : MaintTasks} {uptime_ms : UInt32} (hapi : s.api = .sampled uptime_ms) :
      MaintMove s .setNow { s with g_maintApi := s.g_maintApi.setNow uptime_ms, api := .clocked }
  | setLiveState {s : MaintTasks} {state : UInt8} :
      MaintMove s (.setLiveState state)
        { s with g_maintApi := s.g_maintApi.setLiveState state, api := .published }
  | setFailsafeRecoveryAllowed {s : MaintTasks} {allowed : Bool} :
      MaintMove s (.setFailsafeRecoveryAllowed allowed)
        { s with g_maintApi := s.g_maintApi.setFailsafeRecoveryAllowed allowed, api := .ready }
  | handle {s : MaintTasks} {msg_id : UInt8} {req : List UInt8} :
      MaintMove s (.handle msg_id req)
        { s with g_maintApi := (s.g_maintApi.handle msg_id req kMaxPayload).1, api := .idle }
  | feedTtl {s : MaintTasks} :
      MaintMove s .feedTtl { s with g_maintApi := s.g_maintApi.feedTtl s.now }
  | lockHeld {s : MaintTasks} : MaintMove s .lockHeld s
  | revoke {s : MaintTasks} : MaintMove s .revoke { s with g_maintApi := s.g_maintApi.revoke }

theorem maintMove_of_step (hstep : s.step a = some t) : MaintMove s a t := by
  unfold MaintTasks.step at hstep
  split at hstep
  all_goals cases hstep
  · exact .tick
  · exact .sample
  · exact .setNow ‹_›
  · exact .setLiveState
  · exact .setFailsafeRecoveryAllowed
  · exact .handle
  · exact .feedTtl
  · exact .lockHeld
  · exact .revoke

theorem MaintMove.clock_le (hmove : MaintMove s a t) : s.clock ≤ t.clock := by
  cases hmove with
  | tick => exact Nat.le_succ _
  | _ => exact Nat.le_refl _

/-- What is asked of one step: an ENTER is accepted only in an allowed state and while nobody holds the
lock, an EXIT or HEARTBEAT only with the token of the lock while it lives, and a lock that is held
stops being held only through its EXIT, a revocation, or the end of its time. -/
structure StepSound (ttl : Nat) (lock : Option Lock) (e : MaintEvent) : Prop where
  enter : ∀ req, e.label = .handle Maintmsg.kEnter req →
    accepted (e.pre.reply Maintmsg.kEnter req) = true →
    e.pre.g_maintApi.canEnter = true ∧ ¬ LiveAt ttl lock e.pre.clock ∧
      replyToken (e.pre.reply Maintmsg.kEnter req) ≠ 0
  holder : ∀ msg_id req, e.label = .handle msg_id req →
    msg_id = Maintmsg.kExit ∨ msg_id = Maintmsg.kHeartbeat →
    accepted (e.pre.reply msg_id req) = true →
    ∃ l ∈ lock, getU32 req = l.token ∧ e.pre.clock ≤ l.since + ttl
  lost : e.pre.held = true →
    (e.post.held = true ∧ e.post.g_maintApi.token = e.pre.g_maintApi.token) ∨
    (∃ req, e.label = .handle Maintmsg.kExit req ∧ getU32 req = e.pre.g_maintApi.token) ∨
    e.label = .revoke ∨ ∃ l ∈ lock, l.since + ttl < e.post.clock

theorem StepSound.of_other (hid : ∀ msg_id req, e.label ≠ .handle msg_id req)
    (hlost : e.pre.held = true →
      (e.post.held = true ∧ e.post.g_maintApi.token = e.pre.g_maintApi.token) ∨
      e.label = .revoke ∨ ∃ l ∈ lock, l.since + ttl < e.post.clock) : StepSound ttl lock e := by
  refine ⟨fun req hlabel => absurd hlabel (hid _ _), fun msg_id req hlabel => absurd hlabel (hid _ _),
    fun hheld => ?_⟩
  obtain hkept | hrevoked | hover := hlost hheld
  · exact .inl hkept
  · exact .inr (.inr (.inl hrevoked))
  · exact .inr (.inr (.inr hover))

theorem StepSound.of_kept (hid : ∀ msg_id req, e.label ≠ .handle msg_id req)
    (hkept : e.pre.held = true →
      e.post.held = true ∧ e.post.g_maintApi.token = e.pre.g_maintApi.token) :
    StepSound ttl lock e :=
  .of_other hid fun hheld => .inl (hkept hheld)

theorem StepSound.of_refused (hno : accepted (s.reply msg_id req) = false)
    (hkept : s.held = true → t.held = true ∧ t.g_maintApi.token = s.g_maintApi.token) :
    StepSound ttl lock ⟨s, .handle msg_id req, t⟩ := by
  refine ⟨fun req' hlabel haccepted => ?_, fun id' req' hlabel _ haccepted => ?_,
    fun hheld => .inl (hkept hheld)⟩
  · cases hlabel
    exact nomatch hno.symm.trans haccepted
  · cases hlabel
    exact nomatch hno.symm.trans haccepted

theorem StepSound.of_token {l : Lock} (hid : msg_id ≠ Maintmsg.kEnter) (hl : lock = some l)
    (htoken : getU32 req = l.token) (hlive : s.clock ≤ l.since + ttl)
    (hlost : s.held = true →
      (t.held = true ∧ t.g_maintApi.token = s.g_maintApi.token) ∨ msg_id = Maintmsg.kExit ∧
        getU32 req = s.g_maintApi.token) :
    StepSound ttl lock ⟨s, .handle msg_id req, t⟩ := by
  refine ⟨fun req' hlabel => ?_, fun id' req' hlabel _ _ => ?_, fun hheld => ?_⟩
  · cases hlabel
    exact absurd rfl hid
  · cases hlabel
    exact ⟨l, hl, htoken, hlive⟩
  · obtain hkept | ⟨hexit, hown⟩ := hlost hheld
    · exact .inl hkept
    · subst hexit
      exact .inr (.inl ⟨req, rfl, hown⟩)

/-- Where `apiTask` is with its request matters for the sample only. -/
theorem LockInv.at_point (hinv : LockInv ttl lock s) {point : RequestPoint}
    (hsampled : ∀ uptime_ms, point = .sampled uptime_ms → uptime_ms.toNat ≤ s.clock) :
    LockInv ttl lock { s with api := point } :=
  ⟨hinv.ttl_ms, hinv.now_le, hsampled, hinv.last_le, hinv.next, hinv.locked, hinv.unlocked⟩

theorem LockInv.setNow (hinv : LockInv ttl lock s) {uptime_ms : UInt32}
    (hnow : uptime_ms.toNat ≤ s.clock) :
    LockInv ttl lock { s with g_maintApi := s.g_maintApi.setNow uptime_ms } :=
  ⟨hinv.ttl_ms, hnow, hinv.sampled_le, hinv.last_le, hinv.next, hinv.locked, hinv.unlocked⟩

theorem LockInv.setLiveState (hinv : LockInv ttl lock s) (state : UInt8) :
    LockInv ttl lock { s with g_maintApi := s.g_maintApi.setLiveState state } :=
  ⟨hinv.ttl_ms, hinv.now_le, hinv.sampled_le, hinv.last_le, hinv.next, hinv.locked, hinv.unlocked⟩

theorem LockInv.setFailsafeRecoveryAllowed (hinv : LockInv ttl lock s) (allowed : Bool) :
    LockInv ttl lock { s with g_maintApi := s.g_maintApi.setFailsafeRecoveryAllowed allowed } :=
  ⟨hinv.ttl_ms, hinv.now_le, hinv.sampled_le, hinv.last_le, hinv.next, hinv.locked, hinv.unlocked⟩

theorem LockInv.tick (hinv : LockInv ttl lock s) (hclock : s.clock + 1 < 2 ^ 32) :
    LockInv ttl lock { s with clock := s.clock + 1 } ∧
      StepSound ttl lock ⟨s, .tick, { s with clock := s.clock + 1 }⟩ := by
  have hinv' : LockInv ttl lock { s with clock := s.clock + 1 } := by
    refine ⟨hinv.ttl_ms, Nat.le_succ_of_le hinv.now_le,
      fun u hu => Nat.le_succ_of_le (hinv.sampled_le u hu), Nat.le_succ_of_le hinv.last_le,
      hinv.next, hinv.locked, fun hfree hlive => ?_⟩
    obtain ⟨l, hl, hle⟩ := hlive
    exact hinv.unlocked hfree ⟨l, hl, Nat.le_of_succ_le hle⟩
  refine ⟨hinv', .of_other (fun _ _ hlabel => nomatch hlabel) fun hheld => ?_⟩
  obtain ⟨hlocked, -⟩ := (hinv.held_iff (Nat.lt_of_succ_lt hclock)).mp hheld
  obtain ⟨-, hledger⟩ := hinv.locked hlocked
  by_cases hlive : s.clock + 1 ≤ s.g_maintApi.last_hb_ms.toNat + ttl
  · exact .inl ⟨(hinv'.held_iff hclock).mpr ⟨hlocked, hlive⟩, rfl⟩
  · exact .inr (.inr ⟨_, hledger, Nat.not_le.mp hlive⟩)

/-- A feed refreshes the lock exactly when it lives. -/
theorem LockInv.feedTtl (hinv : LockInv ttl lock s) (hclock : s.clock < 2 ^ 32) :
    LockInv ttl (fed ttl lock s.clock)
        { s with g_maintApi := s.g_maintApi.feedTtl s.now } ∧
      StepSound ttl lock ⟨s, .feedTtl, { s with g_maintApi := s.g_maintApi.feedTtl s.now }⟩ := by
  have hnow := now_toNat hclock
  cases hheld : s.held with
  | true =>
    obtain ⟨hlocked, hlive⟩ := (hinv.held_iff hclock).mp hheld
    obtain ⟨htoken, hledger⟩ := hinv.locked hlocked
    have hfed : s.g_maintApi.feedTtl s.now = { s.g_maintApi with last_hb_ms := s.now } :=
      if_pos hheld
    rw [hfed]
    have hinv' : LockInv ttl (fed ttl lock s.clock)
        { s with g_maintApi := { s.g_maintApi with last_hb_ms := s.now } } := by
      refine ⟨hinv.ttl_ms, hinv.now_le, hinv.sampled_le, Nat.le_of_eq hnow, hinv.next,
        fun _ => ⟨htoken, ?_⟩, fun hfree => ?_⟩
      · rw [fed, hledger, Option.map_some, if_pos hlive, hnow]
      · have hfree' : s.g_maintApi.locked = false := hfree
        rw [hlocked] at hfree'
        exact nomatch hfree'
    refine ⟨hinv', .of_other (fun _ _ hlabel => nomatch hlabel) fun _ => .inl ⟨?_, rfl⟩⟩
    refine (hinv'.held_iff hclock).mpr ⟨hlocked, ?_⟩
    show s.clock ≤ s.now.toNat + ttl
    omega
  | false =>
    have hfed : s.g_maintApi.feedTtl s.now = s.g_maintApi :=
      if_neg fun hlive => absurd (hheld.symm.trans hlive) Bool.false_ne_true
    have hsame : fed ttl lock s.clock = lock := by
      cases lock with
      | none => rfl
      | some l =>
        rw [fed, Option.map_some, if_neg fun hlive => hinv.not_live hclock hheld ⟨l, rfl, hlive⟩]
    rw [hfed, hsame]
    refine ⟨hinv, .of_other (fun _ _ hlabel => nomatch hlabel) fun hpre => ?_⟩
    exact nomatch hheld.symm.trans hpre

theorem LockInv.revoke (hinv : LockInv ttl lock s) :
    LockInv ttl none { s with g_maintApi := s.g_maintApi.revoke } :=
  ⟨hinv.ttl_ms, hinv.now_le, hinv.sampled_le, hinv.last_le, hinv.next,
    nofun, fun _ ⟨_, hl, _⟩ => nomatch hl⟩

theorem LockInv.drop (hinv : LockInv ttl lock s) (hover : ¬ LiveAt ttl lock s.clock) :
    LockInv ttl lock { s with g_maintApi := s.g_maintApi.revoke } :=
  ⟨hinv.ttl_ms, hinv.now_le, hinv.sampled_le, hinv.last_le, hinv.next,
    nofun, fun _ => hover⟩

theorem LockInv.dropStale (hinv : LockInv ttl lock s) (hclock : s.clock < 2 ^ 32)
    (hfed : s.held = true → s.g_maintApi.last_hb_ms ≤ s.g_maintApi.now_ms) :
    LockInv ttl lock { s with g_maintApi := s.g_maintApi.dropStale } ∧
      (s.held = true → s.g_maintApi.dropStale = s.g_maintApi) := by
  obtain ⟨hsame, -⟩ | ⟨hdropped, -, hstale⟩ := dropStale_cases s.g_maintApi
  · rw [hsame]
    exact ⟨hinv, fun _ => rfl⟩
  · have hfree := hinv.stale hclock hfed hstale
    rw [hdropped]
    exact ⟨hinv.drop (hinv.not_live hclock hfree),
      fun hheld => nomatch hfree.symm.trans hheld⟩

theorem grant_next_token (api : MaintenanceApi) : api.grant.next_token ≠ 0 := by
  show (if api.next_token + 1 = 0 then 1 else api.next_token + 1) ≠ 0
  by_cases hzero : api.next_token + 1 = 0
  · rw [if_pos hzero]
    decide
  · rw [if_neg hzero]
    exact hzero

theorem dropStale_frame (api : MaintenanceApi) :
    api.dropStale.canEnter = api.canEnter ∧ api.dropStale.now_ms = api.now_ms ∧
      api.dropStale.next_token = api.next_token := by
  obtain ⟨hsame, -⟩ | ⟨hdropped, -, -⟩ := dropStale_cases api
  · rw [hsame]
    exact ⟨rfl, rfl, rfl⟩
  · rw [hdropped]
    exact ⟨rfl, rfl, rfl⟩

theorem dropStale_locked (hlocked : api.dropStale.locked = true) :
    api.dropStale = api ∧ api.locked = true ∧ api.lockHeld api.now_ms = true := by
  obtain ⟨hsame, hlive⟩ | ⟨hdropped, -, -⟩ := dropStale_cases api
  · rw [hsame] at hlocked
    exact ⟨hsame, hlocked, hlive hlocked⟩
  · rw [hdropped] at hlocked
    exact nomatch hlocked

/-- An answer other than `Ok` leaves the lock alone, except that a stale one is dropped. -/
theorem LockInv.refused (hinv : LockInv ttl lock s) (hclock : s.clock < 2 ^ 32)
    (hfed : s.held = true → s.g_maintApi.last_hb_ms ≤ s.g_maintApi.now_ms)
    (hno : accepted (s.reply msg_id req) = false) :
    LockInv ttl lock { s with g_maintApi := s.g_maintApi.dropStale, api := .idle } ∧
      StepSound ttl lock ⟨s, .handle msg_id req,
        { s with g_maintApi := s.g_maintApi.dropStale, api := .idle }⟩ := by
  obtain ⟨hdrop, hsame⟩ := hinv.dropStale hclock hfed
  refine ⟨hdrop.at_point fun _ hu => (nomatch hu), .of_refused hno fun hheld => ?_⟩
  rw [hsame hheld]
  exact ⟨hheld, rfl⟩

theorem replyToken_entered (api : MaintenanceApi) :
    replyToken (some ⟨MaintResult.ok.wire :: api.dropStale.live_state ::
      putU32 api.dropStale.grant.token, 0⟩) = api.next_token := by
  show getU32 (putU32 api.dropStale.grant.token) = api.next_token
  rw [getU32_putU32_self, ← (dropStale_frame api).2.2]
  rfl

theorem LockInv.entered (hinv : LockInv ttl lock s) (hclock : s.clock < 2 ^ 32)
    (hfed : s.held = true → s.g_maintApi.last_hb_ms ≤ s.g_maintApi.now_ms)
    (hcan : s.g_maintApi.dropStale.canEnter = true)
    (hfree : s.g_maintApi.dropStale.locked = false)
    (hreply : s.reply Maintmsg.kEnter req = some ⟨MaintResult.ok.wire ::
      s.g_maintApi.dropStale.live_state :: putU32 s.g_maintApi.dropStale.grant.token, 0⟩) :
    LockInv ttl (answered lock Maintmsg.kEnter (s.reply Maintmsg.kEnter req)
        s.g_maintApi.now_ms.toNat)
        { s with g_maintApi := s.g_maintApi.dropStale.grant, api := .idle } ∧
      StepSound ttl lock ⟨s, .handle Maintmsg.kEnter req,
        { s with g_maintApi := s.g_maintApi.dropStale.grant, api := .idle }⟩ := by
  obtain ⟨hdrop, hsame⟩ := hinv.dropStale hclock hfed
  obtain ⟨hcan', hnow, hnext⟩ := dropStale_frame s.g_maintApi
  have htoken : replyToken (s.reply Maintmsg.kEnter req) = s.g_maintApi.next_token := by
    rw [hreply]
    exact replyToken_entered s.g_maintApi
  have hanswered : answered lock Maintmsg.kEnter (s.reply Maintmsg.kEnter req)
      s.g_maintApi.now_ms.toNat = some ⟨s.g_maintApi.next_token, s.g_maintApi.now_ms.toNat⟩ := by
    rw [← htoken, hreply]
    rfl
  have hnotHeld : s.held = true → False := fun hheld => by
    rw [hsame hheld] at hfree
    exact Bool.false_ne_true (hfree.symm.trans ((hinv.held_iff hclock).mp hheld).1)
  constructor
  · rw [hanswered]
    refine ⟨hdrop.ttl_ms, hdrop.now_le, fun _ hu => (nomatch hu), hdrop.now_le,
      grant_next_token _, fun _ => ⟨hdrop.next, ?_⟩, fun hlocked => ?_⟩
    · rw [← hnow, ← hnext]
      rfl
    · exact nomatch hlocked
  · refine ⟨fun req' hlabel _ => ?_, fun id' req' hlabel hid => ?_,
      fun hheld => (hnotHeld hheld).elim⟩
    · cases hlabel
      refine ⟨hcan'.symm.trans hcan, hdrop.unlocked hfree, ?_⟩
      rw [htoken]
      exact hinv.next
    · cases hlabel
      obtain hbad | hbad := hid
      · cases hbad
      · cases hbad

/-- A command that is accepted for its token, on time, comes from the holder of the ledger's lock, which
lives. -/
theorem LockInv.holder (hinv : LockInv ttl lock s) (hclock : s.clock < 2 ^ 32)
    (hlive : getU32 req = s.g_maintApi.token →
      s.g_maintApi.lockHeld s.g_maintApi.now_ms = true → s.held = true)
    (hlocked : s.g_maintApi.dropStale.locked = true)
    (htoken : getU32 req = s.g_maintApi.dropStale.token) :
    s.g_maintApi.dropStale = s.g_maintApi ∧ getU32 req = s.g_maintApi.token ∧ s.held = true ∧
      s.g_maintApi.locked = true ∧ s.clock ≤ s.g_maintApi.last_hb_ms.toNat + ttl ∧
      lock = some ⟨s.g_maintApi.token, s.g_maintApi.last_hb_ms.toNat⟩ := by
  obtain ⟨hsame, hlocked', hsampled⟩ := dropStale_locked hlocked
  rw [hsame] at htoken
  have hheld := hlive htoken hsampled
  exact ⟨hsame, htoken, hheld, hlocked', ((hinv.held_iff hclock).mp hheld).2,
    (hinv.locked hlocked').2⟩

theorem LockInv.beaten (hinv : LockInv ttl lock s) (hclock : s.clock < 2 ^ 32)
    (hle : s.g_maintApi.last_hb_ms ≤ s.g_maintApi.now_ms) (hheld : s.held = true)
    (htoken : getU32 req = s.g_maintApi.token) :
    LockInv ttl (lock.map fun l => { l with since := s.g_maintApi.now_ms.toNat })
        { s with g_maintApi := { s.g_maintApi with last_hb_ms := s.g_maintApi.now_ms }
                 api := .idle } ∧
      StepSound ttl lock ⟨s, .handle Maintmsg.kHeartbeat req,
        { s with g_maintApi := { s.g_maintApi with last_hb_ms := s.g_maintApi.now_ms }
                 api := .idle }⟩ := by
  obtain ⟨hlocked, halive⟩ := (hinv.held_iff hclock).mp hheld
  obtain ⟨htoken0, hledger⟩ := hinv.locked hlocked
  have hle' := UInt32.le_iff_toNat_le.mp hle
  have hinv' : LockInv ttl (lock.map fun l => { l with since := s.g_maintApi.now_ms.toNat })
      { s with g_maintApi := { s.g_maintApi with last_hb_ms := s.g_maintApi.now_ms }
               api := .idle } := by
    refine ⟨hinv.ttl_ms, hinv.now_le, fun _ hu => (nomatch hu), hinv.now_le, hinv.next,
      fun _ => ⟨htoken0, ?_⟩, fun hfree => ?_⟩
    · rw [hledger]
      rfl
    · exact absurd (hlocked.symm.trans hfree) (Bool.false_ne_true ∘ Eq.symm)
  refine ⟨hinv', .of_token (by decide) hledger htoken halive fun _ => .inl ⟨?_, rfl⟩⟩
  refine (hinv'.held_iff hclock).mpr ⟨hlocked, ?_⟩
  show s.clock ≤ s.g_maintApi.now_ms.toNat + ttl
  omega

theorem LockInv.handle (hinv : LockInv ttl lock s) (hclock : s.clock < 2 ^ 32)
    (hontime : Maintmsg.isMaintMsg msg_id = true → OnTime s msg_id req) {api' : MaintenanceApi}
    {reply : Option MaintReply} (hhandled : Handled s.g_maintApi msg_id req api' reply)
    (hreply : s.reply msg_id req = reply) :
    LockInv ttl (answered lock msg_id reply s.g_maintApi.now_ms.toNat)
        { s with g_maintApi := api', api := .idle } ∧
      StepSound ttl lock
        ⟨s, .handle msg_id req, { s with g_maintApi := api', api := .idle }⟩ := by
  cases hhandled with
  | foreign hid =>
    have hno : accepted (s.reply msg_id req) = false := by
      rw [hreply]
      rfl
    exact ⟨hinv.at_point fun _ hu => (nomatch hu), .of_refused hno fun hheld => ⟨hheld, rfl⟩⟩
  | refused _ hid hno =>
    have hno' : accepted reply = false := by
      cases reply with
      | none => rfl
      | some r => exact beq_eq_false_iff_ne.mpr (hno r rfl)
    have hanswered : answered lock msg_id reply s.g_maintApi.now_ms.toNat = lock :=
      if_neg fun haccepted => Bool.false_ne_true (hno'.symm.trans haccepted)
    rw [hanswered]
    exact hinv.refused hclock (hontime hid).1 (hreply ▸ hno')
  | entered hid hcan hfree =>
    subst hid
    have hentered := hinv.entered hclock (hontime rfl).1 hcan hfree hreply
    rw [hreply] at hentered
    exact hentered
  | exited hid hlocked htoken =>
    subst hid
    obtain ⟨hsame, hown, -, -, halive, hledger⟩ :=
      hinv.holder hclock ((hontime rfl).2 (.inl rfl)) hlocked htoken
    rw [hsame]
    exact ⟨hinv.revoke.at_point fun _ hu => (nomatch hu),
      .of_token (by decide) hledger hown halive fun _ => .inr ⟨rfl, hown⟩⟩
  | beaten hid hlocked htoken =>
    subst hid
    obtain ⟨hfed, hlive⟩ := hontime rfl
    obtain ⟨hsame, hown, hheld, -⟩ := hinv.holder hclock (hlive (.inr rfl)) hlocked htoken
    rw [hsame]
    exact hinv.beaten hclock (hfed hheld) hheld hown

theorem LockInv.step (hinv : LockInv ttl (ledger ttl h) s) (hstep : s.step a = some t)
    (hclock : t.clock < 2 ^ 32)
    (hontime : StepOnTime s a) :
    LockInv ttl (ledger ttl (⟨s, a, t⟩ :: h)) t ∧ StepSound ttl (ledger ttl h) ⟨s, a, t⟩ := by
  have hmove := maintMove_of_step hstep
  have hbefore := Nat.lt_of_le_of_lt hmove.clock_le hclock
  cases hmove with
  | tick => exact hinv.tick hclock
  | sample =>
    refine ⟨hinv.at_point fun u hu => ?_,
      .of_kept (fun _ _ hlabel => nomatch hlabel) fun hheld => ⟨hheld, rfl⟩⟩
    obtain rfl : s.now = u := RequestPoint.sampled.inj hu
    exact Nat.le_of_eq (now_toNat hbefore)
  | setNow hapi =>
    have hset := hinv.setNow (hinv.sampled_le _ hapi)
    exact ⟨hset.at_point fun _ hu => (nomatch hu),
      .of_kept (fun _ _ hlabel => nomatch hlabel) fun hheld => ⟨hheld, rfl⟩⟩
  | @setLiveState state =>
    have hset := hinv.setLiveState state
    exact ⟨hset.at_point fun _ hu => (nomatch hu),
      .of_kept (fun _ _ hlabel => nomatch hlabel) fun hheld => ⟨hheld, rfl⟩⟩
  | @setFailsafeRecoveryAllowed allowed =>
    have hset := hinv.setFailsafeRecoveryAllowed allowed
    exact ⟨hset.at_point fun _ hu => (nomatch hu),
      .of_kept (fun _ _ hlabel => nomatch hlabel) fun hheld => ⟨hheld, rfl⟩⟩
  | handle =>
    exact hinv.handle hclock hontime (handled_handle s.g_maintApi _ _) rfl
  | feedTtl => exact hinv.feedTtl hclock
  | lockHeld =>
    exact ⟨hinv, .of_kept (fun _ _ hlabel => nomatch hlabel) fun hheld => ⟨hheld, rfl⟩⟩
  | revoke =>
    exact ⟨hinv.revoke, .of_other (fun _ _ hlabel => nomatch hlabel) fun _ => .inr (.inl rfl)⟩

/-- What is asked of a run: the lock is held exactly when the one of the ledger lives, with its token,
which is not zero, and every step was sound. -/
structure MaintLockSound (ttl : Nat) (h : List MaintEvent) (s : MaintTasks) : Prop where
  held : s.held = true ↔ LiveAt ttl (ledger ttl h) s.clock
  token : s.held = true → s.g_maintApi.token ≠ 0 ∧ ∀ l ∈ ledger ttl h, s.g_maintApi.token = l.token
  steps : ∀ later e earlier, h = later ++ e :: earlier → StepSound ttl (ledger ttl earlier) e

theorem lockInv_start (ttl_ms : UInt32) :
    LockInv ttl_ms.toNat (ledger ttl_ms.toNat []) { g_maintApi := { ttl_ms } } :=
  ⟨rfl, Nat.le_refl 0, fun _ hu => (nomatch hu), Nat.le_refl 0, (by decide : (1 : UInt32) ≠ 0),
    nofun, fun _ ⟨_, hl, _⟩ => nomatch hl⟩

theorem lockInv_run {ttl_ms : UInt32} (run : MaintRun ttl_ms h s) (hclock : s.clock < 2 ^ 32)
    (hontime : AllOnTime h) :
    LockInv ttl_ms.toNat (ledger ttl_ms.toNat h) s ∧ ∀ later e earlier, h = later ++ e :: earlier →
      StepSound ttl_ms.toNat (ledger ttl_ms.toNat earlier) e := by
  refine run.history_invariant (fun h s => s.clock < 2 ^ 32 → AllOnTime h →
    LockInv ttl_ms.toNat (ledger ttl_ms.toNat h) s ∧ ∀ later e earlier,
      h = later ++ e :: earlier → StepSound ttl_ms.toNat (ledger ttl_ms.toNat earlier) e)
    ?_ ?_ hclock hontime
  · refine fun _ _ => ⟨lockInv_start ttl_ms, fun later e earlier heq => ?_⟩
    cases later <;> cases heq
  · intro h s a t _ ih hstep hclock hontime
    have hbefore := Nat.lt_of_le_of_lt (maintMove_of_step hstep).clock_le hclock
    obtain ⟨hinv, hsound⟩ := ih hbefore fun e he => hontime e (List.mem_cons_of_mem _ he)
    obtain ⟨hinv', hlatest⟩ := hinv.step hstep hclock (hontime _ List.mem_cons_self)
    refine ⟨hinv', fun later e earlier heq => ?_⟩
    cases later with
    | nil =>
      cases heq
      exact hlatest
    | cons x later =>
      cases heq
      exact hsound later e earlier rfl

/-- In a run of less than 2^32 milliseconds in which every command is handled on time, the lock is
the one of the ledger. -/
theorem maintenance_lock_sound {ttl_ms : UInt32} (run : MaintRun ttl_ms h s)
    (hclock : s.clock < 2 ^ 32) (hontime : AllOnTime h) : MaintLockSound ttl_ms.toNat h s := by
  obtain ⟨hinv, hsound⟩ := lockInv_run run hclock hontime
  refine ⟨hinv.held_iff_live hclock, fun hheld => ?_, hsound⟩
  obtain ⟨htoken, hledger⟩ := hinv.locked ((hinv.held_iff hclock).mp hheld).1
  refine ⟨htoken, fun l hl => ?_⟩
  rw [hledger] at hl
  obtain rfl := Option.some.inj hl
  rfl

/-- An ENTER, a feed a millisecond later, and a HEARTBEAT of the holder. -/
def keptSteps : List MaintStep :=
  [.sample, .setNow, .setLiveState 2, .setFailsafeRecoveryAllowed false, .handle 0x50 [], .tick,
    .feedTtl, .lockHeld, .sample, .setNow, .setLiveState 8, .setFailsafeRecoveryAllowed false,
    .handle 0x52 [1, 0, 0, 0]]

def keptRun : MaintTasks × List MaintEvent :=
  (replay MaintTasks.step {} [] keptSteps).getD ({}, [])

theorem maintenance_lock_sound_kept : keptRun.1.held = true ∧ keptRun.1.g_maintApi.token = 1 := by
  have run : MaintRun kDefaultTtlMs keptRun.2 keptRun.1 := run_replay keptSteps .nil rfl
  have hontime : AllOnTime keptRun.2 := by
    unfold AllOnTime
    decide
  have hclock : keptRun.1.clock < 2 ^ 32 := by decide
  have hsound := maintenance_lock_sound run hclock hontime
  have hledger : ledger kDefaultTtlMs.toNat keptRun.2 = some ⟨1, 1⟩ := by decide
  have hheld := hsound.held.mpr ⟨_, hledger, by decide⟩
  exact ⟨hheld, (hsound.token hheld).2 _ hledger⟩

/-- The same, but the HEARTBEAT has sampled the clock before the feed. -/
def lostSteps : List MaintStep :=
  [.sample, .setNow, .setLiveState 2, .setFailsafeRecoveryAllowed false, .handle 0x50 [], .sample,
    .setNow, .tick, .feedTtl, .setLiveState 8, .setFailsafeRecoveryAllowed false,
    .handle 0x52 [1, 0, 0, 0]]

def lostRun : MaintTasks × List MaintEvent :=
  (replay MaintTasks.step {} [] lostSteps).getD ({}, [])

/-- A feed between the clock sample and the handling of the holder's HEARTBEAT costs the lock, a
millisecond after it was refreshed. -/
theorem maintenance_lock_lost : ¬ ∀ (ttl_ms : UInt32) (h : List MaintEvent) (s : MaintTasks),
    MaintRun ttl_ms h s → s.clock < 2 ^ 32 → MaintLockSound ttl_ms.toNat h s := by
  intro hsound
  have run : MaintRun kDefaultTtlMs lostRun.2 lostRun.1 := run_replay lostSteps .nil rfl
  have hclock : lostRun.1.clock < 2 ^ 32 := by decide
  have hledger : ledger kDefaultTtlMs.toNat lostRun.2 = some ⟨1, 1⟩ := by decide
  have hheld := (hsound _ _ _ run hclock).held.mpr ⟨_, hledger, by decide⟩
  have hfree : lostRun.1.held = false := by decide
  exact Bool.false_ne_true (hfree.symm.trans hheld)

end HexapodVerified.App
