import HexapodVerified.Safety.CommandArbiter
import HexapodVerified.Safety.Proofs.StopSourceProofs

/-!
# Decisions

One update of the arbiter: the source it gives motion authority to, and what it leaves of the lock
and of the heartbeat.
-/

namespace HexapodVerified.Safety

namespace CommandArbiter

variable {a : CommandArbiter} {rc : RcInputs} {now_ms : UInt32}

theorem expireMacLock_of_inactive (hlock : a.mac_lock_active = false) :
    a.expireMacLock now_ms = a := by
  unfold expireMacLock
  rw [hlock, Bool.and_false]
  rfl

/-- Who owns motion while the arbiter's own token lock is not in use, when anybody does. -/
theorem ownerOf_source (hlock : a.mac_lock_active = false)
    (hauth : (a.ownerOf rc now_ms).2 = true) :
    (a.ownerOf rc now_ms).1 =
      if a.ext_mac_held then .macMaintenance
      else if rc.armed && rc.autonomy_enabled && a.jetsonFresh now_ms then .jetson
      else .rc := by
  have hheld : a.macLockHeld now_ms = a.ext_mac_held := by
    simp only [macLockHeld, macLockValid, hlock, Bool.false_and, Bool.false_or]
  unfold ownerOf at hauth ⊢
  rw [hheld] at hauth ⊢
  by_cases hmac : a.ext_mac_held = true
  · rw [if_pos hmac, if_pos hmac]
  rw [if_neg hmac] at hauth ⊢
  rw [if_neg hmac]
  by_cases hjetson : (rc.armed && rc.autonomy_enabled && a.jetsonFresh now_ms) = true
  · rw [if_pos hjetson, if_pos hjetson]
  rw [if_neg hjetson] at hauth ⊢
  rw [if_neg hjetson]
  by_cases harmed : rc.armed = true
  · rw [if_pos harmed]
  · rw [if_neg harmed] at hauth
    exact nomatch hauth

theorem update_source (hlock : a.mac_lock_active = false)
    (hauth : (a.update rc now_ms).out.motion_authorized = true) :
    (a.update rc now_ms).out.source =
      if a.ext_mac_held then .macMaintenance
      else if rc.armed && rc.autonomy_enabled && a.jetsonFresh now_ms then .jetson
      else .rc := by
  unfold update at hauth ⊢
  dsimp only at hauth ⊢
  by_cases hkill : a.killActive rc = true
  · rw [if_pos hkill] at hauth
    exact nomatch hauth
  · rw [if_neg hkill] at hauth ⊢
    unfold grant at hauth ⊢
    rw [expireMacLock_of_inactive (by exact hlock)] at hauth ⊢
    exact ownerOf_source hlock hauth

theorem update_of_kill (hkill : a.killActive rc = true) :
    (a.update rc now_ms).out = { kill_active := true } := by
  unfold update
  rw [if_pos hkill]
  rfl

theorem update_jetsonFresh : (a.update rc now_ms).jetsonFresh now_ms = a.jetsonFresh now_ms := by
  unfold update grant expireMacLock
  dsimp only
  split_ifs <;> rfl

/-- An update never takes the token lock. -/
theorem update_lock (hlock : a.mac_lock_active = false) :
    (a.update rc now_ms).mac_lock_active = false := by
  unfold update
  by_cases hkill : a.killActive rc = true
  · rw [if_pos hkill]
    rfl
  · rw [if_neg hkill]
    unfold grant
    rw [expireMacLock_of_inactive (by exact hlock)]
    exact hlock

end CommandArbiter

/-!
## Which inputs decide

When the arming checks decide an update of the state machine, when RC moves the robot, and when the
arbiter lets RC own the motion: each as a condition on the inputs and on the state before.
-/

/-- Nothing interrupts the update: no stop source, no idle timeout, no host disarm. -/
structure Undisturbed (m : StateMachine) (inp : StateInputs) (now_ms : UInt32) : Prop where
  running : ¬ StopActive m inp now_ms
  busy : m.idleTimeout inp now_ms = false
  wanted : inp.host_disarm = false

/-- The arming checks decide whether the robot stands up. -/
structure ChecksDecide (m : StateMachine) (inp : StateInputs) (now_ms : UInt32) : Prop where
  checking : m.state = .armingChecks
  armed : inp.rc_armed = true
  battery : m.batteryReady inp = true
  undisturbed : Undisturbed m inp now_ms

namespace StateMachine

variable {m : StateMachine} {inp : StateInputs} {now_ms : UInt32}

theorem clear_of_undisturbed (hu : Undisturbed m inp now_ms) :
    inp.dxl_hard_fault = false ∧ m.stopReason inp now_ms = .none := by
  have hrunning := hu.running
  rw [stopActive_iff, not_or, not_not] at hrunning
  exact ⟨eq_false_of_ne_true hrunning.1, hrunning.2⟩

theorem update_checking (hs : m.state = .armingChecks) (hu : Undisturbed m inp now_ms) :
    m.update inp now_ms =
      (((m.requireArmRelease inp).trackBattery inp now_ms).trackActivity inp
        now_ms).progressArmingChecks inp now_ms := by
  obtain ⟨hfault, hreason⟩ := clear_of_undisturbed hu
  rw [update_eq_progress hfault (by rw [hs]; decide) hreason (by rw [hs]; decide) hu.busy
    (by rw [hu.wanted, Bool.false_and])]
  unfold progress
  simp only [trackActivity_state, trackBattery_state, requireArmRelease_state, hs]

theorem state_of_checksDecide (hd : ChecksDecide m inp now_ms) :
    (m.update inp now_ms).state = .standReady ↔ inp.arming_checks_pass = true := by
  rw [update_checking hd.checking hd.undisturbed]
  have hbattery : (((m.requireArmRelease inp).trackBattery inp now_ms).trackActivity inp
      now_ms).batteryReady inp = true := hd.battery
  unfold progressArmingChecks
  rw [hbattery, if_neg (not_not.mpr hd.armed)]
  cases inp.arming_checks_pass with
  | true => simp
  | false =>
    simp only [Bool.false_and, Bool.false_eq_true, if_false, iff_false]
    split
    · rw [enterFault_state]
      decide
    · rw [trackActivity_state, trackBattery_state, requireArmRelease_state, hd.checking]
      decide

theorem progress_pass (hs : m.state ≠ .armingChecks) (pass : Bool) :
    m.progress { inp with arming_checks_pass := pass } now_ms = m.progress inp now_ms := by
  unfold progress
  cases hstate : m.state with
  | armingChecks => exact absurd hstate hs
  | _ => rfl

theorem progressArmingChecks_pass (hb : inp.rc_armed = true → m.batteryReady inp = false)
    (pass : Bool) :
    m.progressArmingChecks { inp with arming_checks_pass := pass } now_ms =
      m.progressArmingChecks inp now_ms := by
  have hready : m.batteryReady { inp with arming_checks_pass := pass } = m.batteryReady inp := rfl
  unfold progressArmingChecks
  rw [hready]
  by_cases harmed : inp.rc_armed = true
  · rw [hb harmed, Bool.and_false, Bool.and_false]
  · rw [if_pos harmed, if_pos harmed]

/-- Where the checks do not decide, their result does not matter. -/
theorem update_of_not_checksDecide (hd : ¬ ChecksDecide m inp now_ms) (pass : Bool) :
    m.update { inp with arming_checks_pass := pass } now_ms = m.update inp now_ms := by
  have hrequire : m.requireArmRelease { inp with arming_checks_pass := pass } =
      m.requireArmRelease inp := rfl
  have hbattery (m : StateMachine) :
      m.trackBattery { inp with arming_checks_pass := pass } now_ms = m.trackBattery inp now_ms :=
    rfl
  have hactivity (m : StateMachine) :
      m.trackActivity { inp with arming_checks_pass := pass } now_ms =
        m.trackActivity inp now_ms := rfl
  have hreason (m : StateMachine) :
      m.estopReason { inp with arming_checks_pass := pass } now_ms = m.estopReason inp now_ms :=
    rfl
  by_cases hchecking : m.state = .armingChecks ∧ Undisturbed m inp now_ms
  · obtain ⟨hs, hu⟩ := hchecking
    have hu' : Undisturbed m { inp with arming_checks_pass := pass } now_ms :=
      ⟨hu.running, hu.busy, hu.wanted⟩
    rw [update_checking hs hu, update_checking hs hu', hrequire, hbattery, hactivity]
    refine progressArmingChecks_pass (fun harmed => eq_false_of_ne_true fun hb => ?_) pass
    exact hd ⟨hs, harmed, hb, hu⟩
  · unfold update updateRunning
    dsimp only
    rw [hrequire, hbattery, hactivity, hreason]
    split_ifs with hfault hhard hclear hstop hestop hidle hdisarm
    all_goals try rfl
    have hs : (((m.requireArmRelease inp).trackBattery inp now_ms).trackActivity inp now_ms).state ≠
        .armingChecks := by
      intro hs
      have hs' : m.state = .armingChecks := hs
      refine hchecking ⟨hs', ?_, eq_false_of_ne_true hidle, ?_⟩
      · rw [stopActive_iff, not_or]
        exact ⟨hfault, hstop⟩
      · refine eq_false_of_ne_true fun hwanted => hdisarm ?_
        rw [Bool.and_eq_true, hs]
        exact ⟨hwanted, rfl⟩
    exact progress_pass hs pass

def rcStates : List State := [.standReady, .rcManual, .contactTerrain]

/-- An armed robot that RC drives moves exactly from these states, when nothing interrupts. -/
theorem motion_of_rc_iff (harmed : inp.rc_armed = true)
    (hsource : srcIs inp.command_source .rc = true)
    (hjetson : (inp.jetson_fresh && inp.rc_autonomy) = false)
    (hmaintenance : maintenanceEntry inp = false) :
    stateAllowsMotion (m.update inp now_ms).state = true ↔
      m.state ∈ rcStates ∧ Undisturbed m inp now_ms := by
  have htakes : jetsonTakesOver inp = false := by
    unfold jetsonTakesOver
    rw [hjetson, Bool.false_and]
  obtain ⟨s, clear, latch, hs, -, -, ho⟩ := m.update_cases inp now_ms
  rw [hs]
  have hstopped (hmotion : stateAllowsMotion s = false)
      (hdisturbed : ¬ Undisturbed m inp now_ms) :
      stateAllowsMotion s = true ↔ m.state ∈ rcStates ∧ Undisturbed m inp now_ms := by
    rw [hmotion]
    exact iff_of_false Bool.false_ne_true fun h => hdisturbed h.2
  have hresting (hmotion : stateAllowsMotion s = false) (hstate : m.state ∉ rcStates) :
      stateAllowsMotion s = true ↔ m.state ∈ rcStates ∧ Undisturbed m inp now_ms := by
    rw [hmotion]
    exact iff_of_false Bool.false_ne_true fun h => hstate h.1
  cases ho with
  | hardFault hf => exact hstopped rfl fun hu => hu.running (.inl hf)
  | hardFaultCleared hf hm => exact hresting rfl (by rw [hm]; decide)
  | hardFaultHeld hf hm => exact hresting rfl (by rw [hm]; decide)
  | stopped hf hm hr => exact hstopped rfl fun hu => hr (clear_of_undisturbed hu).2
  | estopReleased hf hr hm => exact hresting rfl (by rw [hm]; decide)
  | idleDisarmed hf hr hi =>
    exact hstopped rfl fun hu => Bool.false_ne_true (hu.busy.symm.trans hi)
  | hostDisarmed hf hr hh =>
    exact hstopped rfl fun hu => Bool.false_ne_true (hu.wanted.symm.trans hh)
  | progressed hf hr hi hh hp =>
    cases hp with
    | armed hm =>
      have hnext : stateAllowsMotion (armedNext m.state inp) = true ↔ m.state ∈ rcStates := by
        cases hstate : m.state with
        | standReady =>
          simp only [armedNext, harmed, htakes, hsource, rcStates]
          cases inp.contact_enabled <;> cases inp.contact_confident <;> decide
        | rcManual =>
          simp only [armedNext, harmed, htakes, hsource, rcStates]
          cases inp.contact_enabled <;> cases inp.contact_confident <;> decide
        | contactTerrain =>
          simp only [armedNext, harmed, htakes, hsource, rcStates]
          cases inp.contact_enabled <;> cases inp.contact_confident <;> decide
        | jetsonAssisted =>
          simp only [armedNext, harmed, hjetson, rcStates]
          decide
        | _ =>
          rw [hstate] at hm
          cases hm
      rw [hnext]
      refine ⟨fun hstate => ⟨hstate, ?_, hi, ?_⟩, fun h => h.1⟩
      · rw [stopActive_iff, hf, hr]
        simp
      · have hdrops : hostDisarmDrops m.state = true := by
          revert hm
          cases m.state <;> decide
        rw [hdrops, Bool.and_true] at hh
        exact hh
    | maintenanceHeld hm hentry =>
      rw [hmaintenance] at hentry
      cases hentry
    | maintenanceEntered hm hentry hp hmaint =>
      rw [hmaintenance] at hmaint
      cases hmaint
    | booted hm | configWaiting hm | configLoaded hm | disarmedHeld hm | passiveEntered hm
    | armingStarted hm | armingAbandoned hm | armingPassed hm | armingTimedOut hm
    | armingPending hm | maintenanceToPassive hm | maintenanceEnded hm | passiveEnded hm
    | passiveHeld hm | softFaultCleared hm | softFaultHeld hm =>
      exact hresting rfl (by rw [hm]; decide)

end StateMachine

namespace CommandArbiter

variable {a : CommandArbiter} {rc : RcInputs} {now_ms : UInt32}

theorem update_killActive : (a.update rc now_ms).out.kill_active = a.killActive rc := by
  unfold update
  cases hkill : a.killActive rc with
  | true => rfl
  | false => rfl

theorem ownerOf_rc_iff : (a.ownerOf rc now_ms).1 = .rc ↔ a.macLockHeld now_ms = false ∧
    rc.armed = true ∧ (rc.autonomy_enabled && a.jetsonFresh now_ms) = false := by
  unfold ownerOf
  cases a.macLockHeld now_ms <;> cases rc.armed <;> cases rc.autonomy_enabled <;>
    cases a.jetsonFresh now_ms <;> simp

theorem ownerOf_expireMacLock :
    (a.expireMacLock now_ms).ownerOf rc now_ms = a.ownerOf rc now_ms := by
  unfold expireMacLock
  split
  · next hexpired =>
    rw [Bool.and_eq_true, Bool.not_eq_true'] at hexpired
    have hheld : a.revokeMacLock.macLockHeld now_ms = a.macLockHeld now_ms := by
      have hext : a.ext_mac_held = false := (Bool.or_eq_false_iff.mp hexpired.1).2
      rw [hexpired.1]
      show (false && _ || a.ext_mac_held) = false
      rw [hext]
      rfl
    unfold ownerOf
    rw [hheld]
    rfl
  · rfl

theorem update_source_rc_iff : (a.update rc now_ms).out.source = .rc ↔
    a.killActive rc = false ∧ a.macLockHeld now_ms = false ∧ rc.armed = true ∧
      (rc.autonomy_enabled && a.jetsonFresh now_ms) = false := by
  unfold update
  by_cases hkill : a.killActive rc = true
  · rw [if_pos hkill, hkill]
    exact iff_of_false (by decide : ¬ CommandSource.none = .rc) fun h => Bool.noConfusion h.1
  · rw [if_neg hkill]
    unfold grant
    dsimp only
    rw [ownerOf_expireMacLock, ownerOf_rc_iff]
    exact ⟨fun h => ⟨eq_false_of_ne_true hkill, h⟩, fun h => h.2⟩

/-- RC owns the motion only with authority. -/
theorem update_authorized_of_rc (hrc : (a.update rc now_ms).out.source = .rc) :
    (a.update rc now_ms).out.motion_authorized = true := by
  obtain ⟨hkill, hlock, harmed, hjetson⟩ := update_source_rc_iff.mp hrc
  unfold update
  rw [hkill]
  show ((expireMacLock _ now_ms).ownerOf rc now_ms).2 = true
  rw [ownerOf_expireMacLock]
  show (a.ownerOf rc now_ms).2 = true
  unfold ownerOf
  rw [hlock, harmed, Bool.true_and, hjetson]
  rfl

end CommandArbiter

end HexapodVerified.Safety
