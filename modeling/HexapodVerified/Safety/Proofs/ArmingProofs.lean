import HexapodVerified.Safety.Proofs.StopSourceProofs

/-!
# Arming

The arm-release latch, related to the history of the run. The latch is low exactly when the arm
switch has been seen released in `Disarmed` and nothing has relapsed since (`released_since_iff`).
From this follow when a raised switch starts arming, that an exit of the armed states is followed by
a released switch before the next entry, and how far arming is edge-triggered.
-/

namespace HexapodVerified.Safety

open Transition PastTime

/-- The update saw the arm switch released in `Disarmed`, with no stop source active. -/
def ReleasedDisarmed (m : StateMachine) (inp : StateInputs) (now_ms : UInt32) : Prop :=
  m.state = .disarmed ∧ inp.rc_armed = false ∧ ¬ StopActive m inp now_ms

/-- The update relapsed: it had a stop source, or started outside `Disarmed` with the arm switch up,
or was forced out of an armed (or arming), maintenance or passive state by the host disarm or the
idle timeout. -/
def Relapsed (m : StateMachine) (inp : StateInputs) (now_ms : UInt32) : Prop :=
  StopActive m inp now_ms ∨ (m.state ≠ .disarmed ∧ inp.rc_armed = true) ∨
    (inp.host_disarm = true ∧ hostDisarmDrops m.state = true) ∨ m.idleTimeout inp now_ms = true

/-- The arm switch has been seen released in `Disarmed`, and no update has relapsed since. -/
def ReleasedSince (h : List CallEvent) : Prop :=
  Since (fun e => ¬ OnUpdate Relapsed e) (OnUpdate ReleasedDisarmed) h

namespace StateMachine

variable {m : StateMachine} {inp : StateInputs} {now_ms : UInt32}

def latchHolds : State → Bool
  | .boot | .configLoad | .faultSoft | .faultHard | .estop => true
  | _ => false

theorem latched_iff (hd : m.state ≠ .disarmed) (hstop : ¬ StopActive m inp now_ms)
    (hi : m.idleTimeout inp now_ms = false)
    (hh : (inp.host_disarm && hostDisarmDrops m.state) = false)
    (hinv : latchHolds m.state = true → m.arm_release_required = true) :
    m.latched inp = false ↔ ReleasedDisarmed m inp now_ms ∨
      (¬ Relapsed m inp now_ms ∧ m.arm_release_required = false) := by
  have hrel : ¬ ReleasedDisarmed m inp now_ms := fun hr => hd hr.1
  cases ha : inp.rc_armed with
  | true =>
    have hlapse : Relapsed m inp now_ms := .inr (.inl ⟨hd, ha⟩)
    have hlatch : m.latched inp = true := by
      by_cases hb : latchHolds m.state = true
      · exact latched_of_required (hinv hb)
      · refine latched_of_armed ?_ ?_ hd ha <;> intro hs <;> rw [hs] at hb <;> exact hb rfl
    simp [hlatch, hrel, hlapse]
  | false =>
    have hlapse : ¬ Relapsed m inp now_ms := by
      rintro (hr | ⟨-, hr⟩ | ⟨hr, hr'⟩ | hr)
      · exact hstop hr
      · rw [ha] at hr
        cases hr
      · rw [hr, hr'] at hh
        cases hh
      · rw [hi] at hr
        cases hr
    simp [latched_of_released ha, hrel, hlapse]

/-- One update and the latch: it is low afterwards when the switch was seen released, or when it was
low before and the update did not relapse. -/
theorem update_latch (hinv : latchHolds m.state = true → m.arm_release_required = true) :
    (m.update inp now_ms).arm_release_required = false ↔
      ReleasedDisarmed m inp now_ms ∨
        (¬ Relapsed m inp now_ms ∧ m.arm_release_required = false) := by
  have hnot (hr : Relapsed m inp now_ms) (hrel : ¬ ReleasedDisarmed m inp now_ms) :
      true = false ↔ ReleasedDisarmed m inp now_ms ∨
        (¬ Relapsed m inp now_ms ∧ m.arm_release_required = false) := by simp [hr, hrel]
  have hset (hs : latchHolds m.state = true) :
      m.latched inp = false ↔ ReleasedDisarmed m inp now_ms ∨
        (¬ Relapsed m inp now_ms ∧ m.arm_release_required = false) := by
    have hrel : ¬ ReleasedDisarmed m inp now_ms := by
      rintro ⟨hd, -⟩
      rw [hd] at hs
      cases hs
    simp [latched_of_required (hinv hs), hinv hs, hrel]
  obtain ⟨s, clear, latch, -, -, hs, ho⟩ := m.update_cases inp now_ms
  rw [hs]
  cases ho with
  | hardFault hf => exact hnot (.inl (.inl hf)) (fun hr => hr.2.2 (.inl hf))
  | hardFaultCleared hf hm | hardFaultHeld hf hm | estopReleased hf hr hm =>
    exact hset (by rw [hm]; rfl)
  | stopped hf hm hr =>
    have hstop : StopActive m inp now_ms := stopActive_iff.mpr (.inr hr)
    exact hnot (.inl hstop) (fun hr => hr.2.2 hstop)
  | idleDisarmed hf hr hi =>
    refine hnot (.inr (.inr (.inr hi))) (fun hrel => ?_)
    have he := eligible_of_idleTimeout hi
    rw [hrel.1] at he
    cases he
  | hostDisarmed hf hr hh hd =>
    refine hnot (.inr (.inr (.inl ⟨hh, hd⟩))) (fun hrel => ?_)
    rw [hrel.1] at hd
    cases hd
  | progressed hf hr hi hh hp =>
    have hstop : ¬ StopActive m inp now_ms := by
      rw [stopActive_iff]
      simp [hf, hr]
    have hrun (hd : m.state ≠ .disarmed) := latched_iff hd hstop hi hh hinv
    -- in `Disarmed` the latch is dropped by a released switch and kept by a raised one
    have hdis (hd : m.state = .disarmed) :
        (inp.rc_armed && m.arm_release_required) = false ↔ ReleasedDisarmed m inp now_ms ∨
          (¬ Relapsed m inp now_ms ∧ m.arm_release_required = false) := by
      have hlapse : ¬ Relapsed m inp now_ms := by
        rintro (hx | ⟨hx, -⟩ | ⟨-, hx⟩ | hx)
        · exact hstop hx
        · exact hx hd
        · rw [hd] at hx
          cases hx
        · rw [hi] at hx
          cases hx
      cases ha : inp.rc_armed <;> simp [ReleasedDisarmed, hd, hstop, hlapse, ha]
    cases hp with
    | disarmedHeld hd | passiveEntered hd | maintenanceEntered hd => exact hdis hd
    | armingStarted hd hh hp hm ha hl =>
      have hiff := hdis hd
      rw [ha, hl] at hiff
      rw [hl]
      exact hiff
    | armingTimedOut hm ha =>
      refine hnot (.inr (.inl ⟨by rw [hm]; decide, ha⟩)) (fun hrel => ?_)
      rw [hrel.1] at hm
      cases hm
    | armed hm =>
      refine hrun fun hd => ?_
      rw [hd] at hm
      cases hm
    | booted hm | configWaiting hm | configLoaded hm | armingAbandoned hm | armingPassed hm
    | armingPending hm | maintenanceToPassive hm | maintenanceEnded hm | maintenanceHeld hm
    | passiveEnded hm | passiveHeld hm | softFaultCleared hm | softFaultHeld hm =>
      exact hrun (by rw [hm]; decide)

theorem update_latchHolds (hinv : latchHolds m.state = true → m.arm_release_required = true)
    (hs : latchHolds (m.update inp now_ms).state = true) :
    (m.update inp now_ms).arm_release_required = true := by
  obtain ⟨s, clear, latch, hst, -, hl, ho⟩ := m.update_cases inp now_ms
  rw [hst] at hs
  rw [hl]
  have hset (hm : latchHolds m.state = true) : m.latched inp = true :=
    latched_of_required (hinv hm)
  cases ho with
  | hardFault | stopped | idleDisarmed | hostDisarmed => rfl
  | hardFaultCleared hf hm | hardFaultHeld hf hm | estopReleased hf hr hm =>
    exact hset (by rw [hm]; rfl)
  | progressed hf hr hi hh hp =>
    cases hp with
    | armingTimedOut => rfl
    | armed hm =>
      rcases armedNext_cases inp hm with ⟨-, hn⟩ | ⟨-, hn⟩
      · rw [hn] at hs
        cases hs
      · cases hx : armedNext m.state inp <;> rw [hx] at hs hn <;> cases hs <;> cases hn
    | booted hm | configWaiting hm | softFaultHeld hm => exact hset (by rw [hm]; rfl)
    | _ => cases hs

theorem update_of_arming (hm : m.state = .disarmed)
    (he : (m.update inp now_ms).state = .armingChecks) :
    inp.rc_armed = true ∧ m.arm_release_required = false := by
  obtain ⟨s, clear, latch, hs, -, -, ho⟩ := update_ends he
  cases ho with
  | progressed hf hr hi hh hp =>
    cases hp with
    | armingStarted hd hh hp hm ha hl => exact ⟨ha, hl⟩
    | armingPending hd =>
      rw [hm] at hd
      cases hd
    | armed hd =>
      rw [hm] at hd
      cases hd
    | _ => cases hs
  | _ => cases hs

/-- Nothing but the latch keeps a raised switch in `Disarmed` from arming. -/
theorem update_arms_iff (hm : m.state = .disarmed) (ha : inp.rc_armed = true)
    (hstop : ¬ StopActive m inp now_ms) (hh : inp.host_disarm = false)
    (hp : passiveEntry inp = false) (hmt : maintenanceEntry inp = false) :
    (m.update inp now_ms).state = .armingChecks ↔ m.arm_release_required = false := by
  refine ⟨fun he => (update_of_arming hm he).2, fun hl => ?_⟩
  rw [stopActive_iff, not_or, not_not] at hstop
  obtain ⟨s, clear, latch, hst, -, -, ho⟩ := m.update_cases inp now_ms
  rw [hst]
  cases ho with
  | progressed hf hr hi hd hpr =>
    cases hpr with
    | armingStarted => rfl
    | disarmedHeld _ hwhy =>
      rcases hwhy with hx | ⟨-, -, hx⟩
      · rw [hh] at hx
        cases hx
      · rw [hl] at hx
        cases hx ha
    | _ => simp_all [idleDisarmEligible]
  | idleDisarmed hf hr hi =>
    have he := eligible_of_idleTimeout hi
    rw [hm] at he
    cases he
  | _ => simp_all

/-- How an update can leave the robot in `Disarmed` with the latch low: the switch was down, or it
was held up in `Disarmed` under a host disarm. -/
theorem update_disarmed_released (hinv : latchHolds m.state = true → m.arm_release_required = true)
    (hs : (m.update inp now_ms).state = .disarmed)
    (hl : (m.update inp now_ms).arm_release_required = false) :
    inp.rc_armed = false ∨
      (m.state = .disarmed ∧ inp.rc_armed = true ∧ inp.host_disarm = true) := by
  cases ha : inp.rc_armed with
  | false => exact .inl rfl
  | true =>
    right
    rcases (update_latch hinv).mp hl with hr | ⟨hlapse, hlow⟩
    · rw [hr.2.1] at ha
      cases ha
    have hm : m.state = .disarmed := by
      by_contra hm
      exact hlapse (.inr (.inl ⟨hm, ha⟩))
    refine ⟨hm, rfl, ?_⟩
    by_contra hh
    obtain ⟨s, clear, latch, hx, -, -, ho⟩ := update_ends hs
    cases ho with
    | hardFaultCleared hf hf' =>
      rw [hm] at hf'
      cases hf'
    | estopReleased hf hr hm' =>
      rw [hm] at hm'
      cases hm'
    | idleDisarmed hf hr hi =>
      have he := eligible_of_idleTimeout hi
      rw [hm] at he
      cases he
    | hostDisarmed hf hr hh' => exact hh hh'
    | progressed hf hr hi hd hp =>
      cases hp with
      | disarmedHeld _ hwhy =>
        rcases hwhy with hy | ⟨-, -, hy⟩
        · exact hh hy
        · rw [hlow] at hy
          cases hy ha
      | armed hd =>
        rw [hm] at hd
        cases hd
      | configLoaded hd | armingAbandoned hd | maintenanceEnded hd | passiveEnded hd
      | softFaultCleared hd =>
        rw [hm] at hd
        cases hd
      | _ => cases hx
    | _ => cases hx

theorem update_blocked (hinv : latchHolds m.state = true → m.arm_release_required = true)
    (ha : inp.rc_armed = true) (hl : m.arm_release_required = true)
    (hs : isOperational m.state = false) :
    (m.update inp now_ms).arm_release_required = true ∧
      isOperational (m.update inp now_ms).state = false := by
  have hlatch : (m.update inp now_ms).arm_release_required = true := by
    by_contra hc
    rcases (update_latch hinv).mp (eq_false_of_ne_true hc) with hr | ⟨-, hr⟩
    · rw [hr.2.1] at ha
      cases ha
    · rw [hl] at hr
      cases hr
  refine ⟨hlatch, ?_⟩
  obtain ⟨s, clear, latch, hst, -, -, ho⟩ := m.update_cases inp now_ms
  rw [hst]
  cases ho with
  | progressed hf hr hi hd hp =>
    cases hp with
    | armingStarted _ _ _ _ _ hlow =>
      rw [hl] at hlow
      cases hlow
    | armingPassed hm | armingPending hm =>
      rw [hm] at hs
      cases hs
    | armed hm =>
      rw [isOperational_of_eligible hm] at hs
      cases hs
    | _ => rfl
  | _ => rfl

theorem update_exit_latch (hinv : latchHolds m.state = true → m.arm_release_required = true)
    (ha : inp.rc_armed = true) (hs : isOperational m.state = true) :
    (m.update inp now_ms).arm_release_required = true := by
  by_contra hc
  have hm : m.state ≠ .disarmed := by
    intro hm
    rw [hm] at hs
    cases hs
  rcases (update_latch hinv).mp (eq_false_of_ne_true hc) with hr | ⟨hr, -⟩
  · exact hm hr.1
  · exact hr (.inr (.inl ⟨hm, ha⟩))

/-- The robot is operational after an update only if the switch was up in it. -/
theorem update_operational (hs : isOperational (m.update inp now_ms).state = true) :
    inp.rc_armed = true := by
  obtain ⟨s, clear, latch, hst, -, -, ho⟩ := m.update_cases inp now_ms
  rw [hst] at hs
  cases ho with
  | progressed hf hr hi hd hp =>
    cases hp with
    | armingStarted _ _ _ _ ha => exact ha
    | armingPassed _ ha => exact ha
    | armingPending _ ha => exact ha
    | armed hm =>
      rcases armedNext_cases inp hm with ⟨-, hn⟩ | ⟨ha, -⟩
      · rw [hn] at hs
        cases hs
      · exact ha
    | _ => cases hs
  | _ => cases hs

/-- A stop input leaves the robot out of the operational states with the latch set, also where it is
skipped because a hard fault is being cleared. -/
theorem update_of_stopInput (hinv : latchHolds m.state = true → m.arm_release_required = true)
    (hstop : StopInput m inp) :
    (m.update inp now_ms).arm_release_required = true ∧
      isOperational (m.update inp now_ms).state = false := by
  obtain ⟨s, clear, latch, hst, -, hl, ho⟩ := m.update_cases inp now_ms
  rw [hst, hl]
  cases ho with
  | hardFault | stopped => exact ⟨rfl, rfl⟩
  | hardFaultCleared _ hm | hardFaultHeld _ hm =>
    exact ⟨latched_of_required (hinv (by rw [hm]; rfl)), rfl⟩
  | estopReleased hf hr | idleDisarmed hf hr | hostDisarmed hf hr | progressed hf hr =>
    exact absurd hr (stopReason_of_stopInput hf hstop)

theorem update_of_eligible (he : idleDisarmEligible m.state = true)
    (hx : idleDisarmEligible (m.update inp now_ms).state = false) :
    isOperational (m.update inp now_ms).state = false := by
  obtain ⟨s, clear, latch, hst, -, -, ho⟩ := m.update_cases inp now_ms
  rw [hst] at hx ⊢
  cases ho with
  | progressed hf hr hi hd hp =>
    cases hp with
    | armed hm =>
      rcases armedNext_cases inp hm with ⟨-, hn⟩ | ⟨-, hn⟩
      · rw [hn]
        rfl
      · rw [hn] at hx
        cases hx
    | armingStarted hm | armingPending hm =>
      rw [hm] at he
      cases he
    | armingPassed => cases hx
    | _ => rfl
  | _ => rfl

end StateMachine

section Histories

variable {p : StateParams} {h : List CallEvent} {m : StateMachine}

theorem latch_of_latchHolds (run : MachineRun p h m)
    (hs : StateMachine.latchHolds m.state = true) : m.arm_release_required = true := by
  revert hs
  refine run.history_invariant (fun _ m => StateMachine.latchHolds m.state = true →
    m.arm_release_required = true) (fun _ => rfl) ?_ ?_
  · intro h m _ ih hs
    exact ih hs
  · intro h m inp now_ms _ ih hs
    exact StateMachine.update_latchHolds ih hs

theorem released_since_iff (run : MachineRun p h m) :
    m.arm_release_required = false ↔ ReleasedSince h := by
  refine run.history_invariant (fun h m => m.arm_release_required = false ↔ ReleasedSince h)
    ?_ ?_ ?_
  · simp [ReleasedSince]
  · intro h m _ ih
    have hcons : ReleasedSince (⟨m, .requestClearFault, m.requestClearFault⟩ :: h) ↔
        ReleasedSince h := by
      simp [ReleasedSince, since_cons]
    exact ih.trans hcons.symm
  · intro h m inp now_ms hrun ih
    rw [StateMachine.update_latch (latch_of_latchHolds hrun), ih]
    rfl

def ExitsArmed (e : CallEvent) : Prop :=
  (idleDisarmEligible e.pre.state = true ∧ idleDisarmEligible e.post.state = false) ∨
    (isOperational e.pre.state = true ∧ isOperational e.post.state = false)

/-- After an exit of the armed states the robot stays out of the operational states, with the latch
set, until some update sees the switch down. -/
theorem exit_blocks (run : MachineRun p h m) {later earlier : List CallEvent} {e : CallEvent}
    (hh : h = later ++ e :: earlier) (hexit : ExitsArmed e) :
    (∃ x ∈ later ++ [e], OnUpdate (fun _ inp _ => inp.rc_armed = false) x) ∨
      (m.arm_release_required = true ∧ isOperational m.state = false) := by
  induction later generalizing h m with
  | nil =>
    subst hh
    obtain ⟨hpost, hstep, hrun⟩ := run.of_cons
    obtain ⟨m₁, c, m₂⟩ := e
    obtain rfl : m₂ = m := hpost
    obtain rfl : m₂ = m₁.call c := hstep
    have hexit' : isOperational m₁.state = true ∧
        isOperational (m₁.call c).state = false := by
      rcases hexit with ⟨h1, h2⟩ | hx
      · refine ⟨StateMachine.isOperational_of_eligible h1, ?_⟩
        cases c with
        | update inp now_ms => exact StateMachine.update_of_eligible h1 h2
        | requestClearFault =>
          have h2' : idleDisarmEligible m₁.state = false := h2
          rw [show idleDisarmEligible m₁.state = true from h1] at h2'
          cases h2'
      · exact hx
    cases c with
    | requestClearFault =>
      have h2 : isOperational m₁.state = false := hexit'.2
      rw [hexit'.1] at h2
      cases h2
    | update inp now_ms =>
      cases ha : inp.rc_armed with
      | false => exact .inl ⟨⟨m₁, .update inp now_ms, _⟩, List.mem_singleton_self _, ha⟩
      | true =>
        exact .inr ⟨StateMachine.update_exit_latch (latch_of_latchHolds hrun) ha hexit'.1,
          hexit'.2⟩
  | cons x later ih =>
    subst hh
    obtain ⟨hpost, hstep, hrun⟩ := run.of_cons
    obtain ⟨m₁, c, m₂⟩ := x
    obtain rfl : m₂ = m := hpost
    obtain rfl : m₂ = m₁.call c := hstep
    rcases ih hrun rfl with ⟨y, hy, hrel⟩ | ⟨hl, hs⟩
    · exact .inl ⟨y, List.mem_cons_of_mem _ hy, hrel⟩
    cases c with
    | requestClearFault => exact .inr ⟨hl, hs⟩
    | update inp now_ms =>
      cases ha : inp.rc_armed with
      | false => exact .inl ⟨_, List.mem_cons_self .., ha⟩
      | true => exact .inr (StateMachine.update_blocked (latch_of_latchHolds hrun) ha hl hs)

/-- **Re-arming.** In `Disarmed`, with the switch up and nothing else asked for, arming starts
exactly when the switch has been seen released in `Disarmed` and no update has relapsed since. And
from an exit of the armed states to the moment the robot is operational again, some update (the
exit included) saw the switch down. -/
theorem rearm_exact (run : MachineRun p h m) :
    (∀ inp now_ms, m.state = .disarmed → inp.rc_armed = true → ¬ StopActive m inp now_ms →
      inp.host_disarm = false → StateMachine.passiveEntry inp = false →
      StateMachine.maintenanceEntry inp = false →
      ((m.update inp now_ms).state = .armingChecks ↔ ReleasedSince h)) ∧
    (isOperational m.state = true → ∀ later e earlier, h = later ++ e :: earlier → ExitsArmed e →
      ∃ x ∈ later ++ [e], OnUpdate (fun _ inp _ => inp.rc_armed = false) x) := by
  constructor
  · intro inp now_ms hm ha hstop hh hp hmt
    rw [StateMachine.update_arms_iff hm ha hstop hh hp hmt, released_since_iff run]
  · intro hs later e earlier hsplit hexit
    rcases exit_blocks run hsplit hexit with hx | ⟨-, hx⟩
    · exact hx
    · rw [hs] at hx
      cases hx

/-- The first time the switch is raised after boot: it has been seen released, so it arms. -/
theorem rearm_exact_boot :
    ((execute StateMachine.call {} (bootCalls ++ [.update {} 3])).update armingInputs 4).state =
      .armingChecks ↔ ReleasedSince (executeHistory StateMachine.call {} []
        (bootCalls ++ [.update {} 3])) := by
  have run : MachineRun {} _ _ :=
    run_execute StateMachine.call (bootCalls ++ [.update {} 3]) .nil
  refine (rearm_exact run).1 armingInputs 4 ?_ ?_ ?_ ?_ ?_ ?_ <;> decide

def PrevUpdate (P : StateMachine → StateInputs → UInt32 → Prop) (h : List CallEvent) : Prop :=
  Latest (OnUpdate fun _ _ _ => True) (OnUpdate P) h

def SwitchDown (_m : StateMachine) (inp : StateInputs) (_now_ms : UInt32) : Prop :=
  inp.rc_armed = false

/-- The update held the arm switch up in `Disarmed` under a host disarm. -/
def HeldUnderHostDisarm (m : StateMachine) (inp : StateInputs) (_now_ms : UInt32) : Prop :=
  m.state = .disarmed ∧ inp.rc_armed = true ∧ inp.host_disarm = true

/-- When the latch is low in `Disarmed`, the latest update saw the switch down or was held under a
host disarm. -/
theorem prev_of_released (run : MachineRun p h m) (hm : m.state = .disarmed)
    (hl : m.arm_release_required = false) :
    PrevUpdate (fun m inp now_ms => SwitchDown m inp now_ms ∨ HeldUnderHostDisarm m inp now_ms)
      h := by
  revert hm hl
  refine run.history_invariant (fun h m => m.state = .disarmed → m.arm_release_required = false →
    PrevUpdate (fun m inp now_ms => SwitchDown m inp now_ms ∨ HeldUnderHostDisarm m inp now_ms)
      h) ?_ ?_ ?_
  · intro hm
    cases hm
  · intro h m _ ih hm hl
    rw [PrevUpdate, latest_cons_of_not onUpdate_clear]
    exact ih hm hl
  · intro h m inp now_ms hrun _ hm hl
    rw [PrevUpdate, latest_cons_of trivial]
    exact StateMachine.update_disarmed_released (latch_of_latchHolds hrun) hm hl

/-- Arming is edge-triggered: the update before one that starts arming saw the switch down, unless
it held the switch up in `Disarmed` under a host disarm. -/
theorem arming_edge_iff (run : MachineRun p h m) (inp : StateInputs) (now_ms : UInt32)
    (hm : m.state = .disarmed) (he : (m.update inp now_ms).state = .armingChecks) :
    PrevUpdate SwitchDown h ↔ ¬ PrevUpdate HeldUnderHostDisarm h := by
  have hprev := prev_of_released run hm (StateMachine.update_of_arming hm he).2
  constructor
  · intro hdown hheld
    have hboth := Latest.and hdown hheld
    obtain ⟨⟨_, c, _⟩, -, -, h1, h2⟩ := Since.once hboth
    cases c with
    | requestClearFault => exact h1
    | update inp now_ms =>
      have hdown' : inp.rc_armed = false := h1
      rw [h2.2.1] at hdown'
      cases hdown'
  · intro hheld
    have hor : PrevUpdate SwitchDown h ∨ PrevUpdate HeldUnderHostDisarm h := by
      refine Latest.or (Latest.imp ?_ hprev)
      rintro ⟨_, c, _⟩ - - hq
      cases c with
      | update => exact hq
      | requestClearFault => exact hq.elim
    exact hor.resolve_right hheld

theorem arming_edge_boot :
    PrevUpdate SwitchDown (executeHistory StateMachine.call {} []
        (bootCalls ++ [.update {} 3])) ↔
      ¬ PrevUpdate HeldUnderHostDisarm (executeHistory StateMachine.call {} []
        (bootCalls ++ [.update {} 3])) := by
  have run : MachineRun {} _ _ :=
    run_execute StateMachine.call (bootCalls ++ [.update {} 3]) .nil
  refine arming_edge_iff run armingInputs 4 ?_ ?_ <;> decide

/-- The switch is released, raised under a host disarm, and the host disarm is then withdrawn. -/
def armUnderHostDisarm : List Call :=
  bootCalls ++ [.update {} 3, .update { rc_armed := true, host_disarm := true } 4]

/-- That run starts arming although the switch was up on the update before. -/
theorem arming_without_edge : ¬ ∀ (p : StateParams) (h : List CallEvent) (m : StateMachine),
    MachineRun p h m → ∀ inp now_ms, m.state = .disarmed →
      (m.update inp now_ms).state = .armingChecks → PrevUpdate SwitchDown h := by
  intro hall
  have run : MachineRun {} _ _ := run_execute StateMachine.call armUnderHostDisarm .nil
  have hdown := hall {} _ _ run armingInputs 5 (by decide) (by decide)
  -- the latest event is the update that held the switch up under the host disarm
  obtain ⟨-, hlatest⟩ | ⟨hno, -⟩ := hdown
  · have hup : true = false := hlatest
    cases hup
  · exact hno trivial

end Histories

end HexapodVerified.Safety
