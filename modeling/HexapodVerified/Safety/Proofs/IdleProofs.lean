import HexapodVerified.Safety.Proofs.DebounceProofs

/-!
# The idle timeout and the arming timeout

Both timers compare a remembered time with the present one, modulo the width of the counter. The idle timer
remembers the latest update that had motion or found the robot not armed; the arming timer remembers
the update that started the checks. While the updates come often enough for the counter, the timers tell
the true time.
-/

namespace HexapodVerified.Safety

open Transition PastTime

variable {p : StateParams} {h : List TimedEvent} {m : StateMachine} {e : TimedEvent} {inp : StateInputs}
  {time : Nat}

/-- If the event is an update, the robot was armed and idle in it. -/
def Quiet (e : TimedEvent) : Prop :=
  ∀ inp ∈ updateInputs e, idleDisarmEligible e.pre.state = true ∧ inp.motion_active = false

/-- The update starts the idle time anew. -/
def Refreshes (e : TimedEvent) : Prop :=
  ∃ inp ∈ updateInputs e, inp.motion_active = true ∨ idleDisarmEligible e.pre.state = false

/-- A hard fault or an E-stop source comes before the timeouts. -/
def Preempted (e : TimedEvent) : Prop :=
  match e.label with
  | .update inp time =>
    inp.dxl_hard_fault = true ∨ e.pre.stopReason inp (UInt32.ofNat time) ≠ .none
  | .requestClearFault => False

instance (e : TimedEvent) : Decidable (Preempted e) :=
  match e with
  | ⟨pre, .update inp time, _⟩ => inferInstanceAs
      (Decidable (inp.dxl_hard_fault = true ∨ pre.stopReason inp (UInt32.ofNat time) ≠ .none))
  | ⟨_, .requestClearFault, _⟩ => inferInstanceAs (Decidable False)

def IdleExit (e : TimedEvent) : Prop :=
  match e.label with
  | .update inp time => ¬ Preempted e ∧ e.pre.idleTimeout inp (UInt32.ofNat time) = true
  | .requestClearFault => False

/-- The robot has been armed since an update at least this long before the present one, and no update
since then, the present one included, had motion. -/
def IdleFor (span : Nat) (e : TimedEvent) (h : List TimedEvent) : Prop :=
  (updateTime e).isSome = true ∧ Quiet e ∧
    Since Quiet (fun x => idleDisarmEligible x.post.state = true ∧
      ∃ now ∈ updateTime e, ∃ time ∈ updateTime x, time + span ≤ now) h

/-- While the robot is idle, the update comes in time for the counter. -/
def IdleInTime (span : Nat) (e : TimedEvent) (h : List TimedEvent) : Prop :=
  idleDisarmEligible e.pre.state = true → ∀ now ∈ updateTime e, ∀ latest ∈ latestTime h,
    now < latest + (UInt32.size - span)

instance (span : Nat) (e : TimedEvent) (h : List TimedEvent) : Decidable (IdleInTime span e h) :=
  inferInstanceAs (Decidable (idleDisarmEligible e.pre.state = true → ∀ now ∈ updateTime e,
    ∀ latest ∈ latestTime h, now < latest + (UInt32.size - span)))

def EntersArming (e : TimedEvent) : Prop :=
  e.pre.state ≠ .armingChecks ∧ e.post.state = .armingChecks

def StaysArming (e : TimedEvent) : Prop :=
  e.pre.state = .armingChecks ∧ e.post.state = .armingChecks

/-- During the checks, the update comes in time for the counter. -/
def ArmingInTime (span : Nat) (e : TimedEvent) (h : List TimedEvent) : Prop :=
  e.pre.state = .armingChecks → ∀ now ∈ updateTime e, ∀ latest ∈ latestTime h,
    now < latest + (UInt32.size - span)

theorem quiet_not_refreshes (hquiet : Quiet e) : ¬ Refreshes e := by
  rintro ⟨inp, hinp, hmotion | hstate⟩
  · exact absurd (hmotion.symm.trans (hquiet inp hinp).2) (by decide)
  · exact absurd ((hquiet inp hinp).1.symm.trans hstate) (by decide)

theorem armed_from {s : State} {clear latch : Bool} {now_ms : UInt32}
    (hp : StateMachine.ProgressOutcome m inp now_ms s clear latch) (heligible : idleDisarmEligible s = true) :
    m.state = .armingChecks ∨ idleDisarmEligible m.state = true := by
  cases hp with
  | armed he => exact .inr he
  | armingPassed hs => exact .inl hs
  | _ => cases heligible

/-- An update that leaves the robot armed has gone through the normal progression. -/
theorem running_of_eligible {now_ms : UInt32}
    (heligible : idleDisarmEligible (m.update inp now_ms).state = true) :
    inp.dxl_hard_fault = false ∧ m.state ≠ .faultHard ∧ m.stopReason inp now_ms = .none ∧
      m.state ≠ .estop ∧ m.idleTimeout inp now_ms = false := by
  obtain ⟨s, clear, latch, hs, -, -, hout⟩ := m.update_cases inp now_ms
  rw [hs] at heligible
  cases hout with
  | progressed hf hr hi hh hp =>
    have hfrom := armed_from hp heligible
    refine ⟨hf, ?_, hr, ?_, hi⟩
    · intro hstate
      rw [hstate] at hfrom
      rcases hfrom with hfrom | hfrom <;> cases hfrom
    · intro hstate
      rw [hstate] at hfrom
      rcases hfrom with hfrom | hfrom <;> cases hfrom
  | _ => cases heligible

theorem update_activity {now_ms : UInt32}
    (heligible : idleDisarmEligible (m.update inp now_ms).state = true) :
    (m.update inp now_ms).last_activity_ms =
      if inp.motion_active = true ∨ ¬ idleDisarmEligible m.state = true then now_ms
      else m.last_activity_ms := by
  obtain ⟨hf, hs, hr, he, -⟩ := running_of_eligible heligible
  exact congrArg StateMachine.Timers.last_activity_ms
    (StateMachine.update_timers_of_running hf hs hr he)

theorem idleTimeout_iff {now_ms : UInt32} (hpos : m.params.idle_disarm_ms ≠ 0) :
    m.idleTimeout inp now_ms = true ↔ idleDisarmEligible m.state = true ∧ inp.motion_active = false ∧
      m.params.idle_disarm_ms ≤ now_ms - m.last_activity_ms := by
  unfold StateMachine.idleTimeout StateMachine.idleExpired StateMachine.trackActivity
  rw [Bool.and_eq_true, Bool.and_eq_true, bne_iff_ne, decide_eq_true_eq]
  constructor
  · rintro ⟨⟨-, heligible⟩, hspan⟩
    cases hmotion : inp.motion_active with
    | false =>
      rw [if_neg (by rw [hmotion, heligible]; simp)] at hspan
      exact ⟨heligible, rfl, hspan⟩
    | true =>
      rw [if_pos (.inl hmotion), UInt32.sub_self] at hspan
      exact absurd (UInt32.le_zero_iff.mp hspan) hpos
  · rintro ⟨heligible, hmotion, hspan⟩
    rw [if_neg (by rw [hmotion, heligible]; simp)]
    exact ⟨⟨hpos, heligible⟩, hspan⟩

/-- The idle timer of an armed robot remembers the latest refresh, and since then the timeout has not
come. -/
def Idles (p : StateParams) (h : List TimedEvent) (m : StateMachine) : Prop :=
  m.params = p ∧ (idleDisarmEligible m.state = true →
    ∃ since latest, m.last_activity_ms = UInt32.ofNat since ∧
      Since Quiet (fun x => updateTime x = some since ∧ Refreshes x ∧
        idleDisarmEligible x.post.state = true) h ∧
      latestTime h = some latest ∧ (latest = since ∨ latest < since + p.idle_disarm_ms.toNat))

theorem le_of_since {q q' : TimedEvent → Prop} {since : Nat} (hsince : Since q q' h)
    (hq : ∀ x, q' x → updateTime x = some since) (hclock : NotEarlier e h) {now : Nat}
    (hnow : now ∈ updateTime e) : since ≤ now := by
  obtain ⟨x, hx, hx'⟩ := hsince.once
  exact hclock now hnow x hx since (hq x hx')

theorem idles_update (hidles : Idles p h m) (hpos : p.idle_disarm_ms ≠ 0)
    (hclock : NotEarlier ⟨m, .update inp time, m.update inp (UInt32.ofNat time)⟩ h)
    (hintime : IdleInTime p.idle_disarm_ms.toNat
      ⟨m, .update inp time, m.update inp (UInt32.ofNat time)⟩ h) :
    Idles p (⟨m, .update inp time, m.update inp (UInt32.ofNat time)⟩ :: h)
      (m.update inp (UInt32.ofNat time)) := by
  obtain ⟨rfl, hidle⟩ := hidles
  refine ⟨StateMachine.update_params, fun heligible => ?_⟩
  have hactivity := update_activity heligible
  by_cases hrefresh : inp.motion_active = true ∨ ¬ idleDisarmEligible m.state = true
  · rw [if_pos hrefresh] at hactivity
    refine ⟨time, time, hactivity, .now ⟨rfl, ⟨inp, rfl, ?_⟩, heligible⟩, rfl, .inl rfl⟩
    exact hrefresh.imp_right eq_false_of_ne_true
  · rw [if_neg hrefresh] at hactivity
    rw [not_or, not_not, Bool.not_eq_true] at hrefresh
    obtain ⟨hmotion, hbefore⟩ := hrefresh
    obtain ⟨since, latest, hsince, hquiet, hlatest, hspan⟩ := hidle hbefore
    refine ⟨since, time, hactivity.trans hsince, .keep ?_ hquiet, rfl, .inr ?_⟩
    · rintro _ ⟨⟩
      exact ⟨hbefore, hmotion⟩
    · have hle : since ≤ time := le_of_since hquiet (fun x hx => hx.1) hclock rfl
      have hlt := hintime hbefore time rfl latest hlatest
      have hbound : m.params.idle_disarm_ms.toNat < UInt32.size := m.params.idle_disarm_ms.toNat_lt
      have hexact := WrappedTime.elapsed_exact hle (by omega)
      obtain ⟨-, -, -, -, hrunning⟩ := running_of_eligible heligible
      by_contra hover
      have hexpired : m.idleTimeout inp (UInt32.ofNat time) = true := by
        refine (idleTimeout_iff hpos).mpr ⟨hbefore, hmotion, ?_⟩
        rw [hsince, UInt32.le_iff_toNat_le, hexact]
        omega
      exact absurd (hexpired.symm.trans hrunning) (by decide)

theorem idles_of_run (run : TimedRun p h m) (hpos : p.idle_disarm_ms ≠ 0) (hclock : Increasing h)
    (hintime : Historically (IdleInTime p.idle_disarm_ms.toNat) h) : Idles p h m := by
  revert hclock hintime
  refine TimedRun.history_invariant (fun h m => Increasing h →
    Historically (IdleInTime p.idle_disarm_ms.toNat) h → Idles p h m) ?_ ?_ ?_ run
  · intro _ _
    exact ⟨rfl, nofun⟩
  · intro h m _ ih hclock hintime
    obtain ⟨hparams, hidle⟩ := ih hclock.2 hintime.2
    refine ⟨hparams, fun heligible => ?_⟩
    obtain ⟨since, latest, hsince, hquiet, hlatest, hspan⟩ := hidle heligible
    refine ⟨since, latest, hsince, .keep ?_ hquiet, hlatest, hspan⟩
    exact fun _ hnone => absurd hnone (Option.not_mem_none _)
  · intro h m inp time _ ih hclock hintime
    exact idles_update (ih hclock.2 hintime.2) hpos hclock.1 hintime.1

/-- The idle exit comes exactly when the robot has been idle for the timeout, unless it is preempted. -/
theorem idleExit_iff (run : TimedRun p (e :: h) m) (hpos : p.idle_disarm_ms ≠ 0)
    (hclock : Increasing (e :: h)) (hintime : Historically (IdleInTime p.idle_disarm_ms.toNat) (e :: h)) :
    IdleExit e ↔ ¬ Preempted e ∧ IdleFor p.idle_disarm_ms.toNat e h := by
  obtain ⟨-, -, hrun⟩ := run.of_cons
  obtain ⟨hparams, hidle⟩ := idles_of_run hrun hpos hclock.2 hintime.2
  obtain ⟨r, c, r'⟩ := e
  cases c with
  | requestClearFault => exact ⟨False.elim, fun hidle => nomatch hidle.2.1⟩
  | update inp time =>
    refine and_congr_right fun _ => ?_
    rw [← hparams] at hpos
    refine (idleTimeout_iff hpos).trans ?_
    constructor
    · rintro ⟨heligible, hmotion, hspan⟩
      obtain ⟨since, latest, hsince, hquiet, -, -⟩ := hidle heligible
      have hle : since ≤ time := le_of_since hquiet (fun x hx => hx.1) hclock.1 rfl
      have helapsed := WrappedTime.elapsed_le hle
      rw [hsince, UInt32.le_iff_toNat_le] at hspan
      refine ⟨rfl, ?_, hquiet.imp (fun _ _ hx => hx) fun x _ hx => ?_⟩
      · rintro _ ⟨⟩
        exact ⟨heligible, hmotion⟩
      · refine ⟨hx.2.2, time, rfl, since, hx.1, ?_⟩
        rw [← hparams]
        dsimp only at hspan ⊢
        omega
    · rintro ⟨-, hnow, hsince⟩
      obtain ⟨heligible, hmotion⟩ := hnow inp rfl
      obtain ⟨since, latest, hlast, hquiet, hlatest, hspan⟩ := hidle heligible
      have hle : since ≤ time := le_of_since hquiet (fun x hx => hx.1) hclock.1 rfl
      have hlt := hintime.1 heligible time rfl latest hlatest
      have hbound : p.idle_disarm_ms.toNat < UInt32.size := p.idle_disarm_ms.toNat_lt
      have hexact := WrappedTime.elapsed_exact hle (by omega)
      -- the refresh is not later than the event from which on the robot is known to be idle
      obtain ⟨later, x, earlier, rfl, ⟨-, now, hnow, start, hstart, hlong⟩, y, hy, hrefresh⟩ :=
        hsince.before hquiet fun x hx hnot => quiet_not_refreshes hx hnot.2.1
      obtain rfl := Option.some.inj hnow
      have hstart' : since ≤ start := by
        rcases List.mem_cons.mp hy with rfl | hy
        · exact Nat.le_of_eq (Option.some.inj (hrefresh.1.symm.trans hstart))
        · exact hclock.2.at start hstart y hy since hrefresh.1
      refine ⟨heligible, hmotion, ?_⟩
      rw [hlast, UInt32.le_iff_toNat_le, hexact, hparams]
      omega

theorem post_of_idleExit (run : TimedRun p (e :: h) m) (hexit : IdleExit e) :
    idleDisarmEligible e.pre.state = true ∧ e.post.state = .disarmed ∧
      e.post.arm_release_required = true := by
  obtain ⟨-, hstep, -⟩ := run.of_cons
  obtain ⟨r, c, r'⟩ := e
  cases c with
  | requestClearFault => exact hexit.elim
  | update inp time =>
    have hpost : r' = r.update inp (UInt32.ofNat time) := hstep
    subst hpost
    obtain ⟨hfree, hidle⟩ := hexit
    have heligible := StateMachine.eligible_of_idleTimeout hidle
    have hfree' : ¬ (inp.dxl_hard_fault = true ∨ r.stopReason inp (UInt32.ofNat time) ≠ .none) := hfree
    rw [not_or, not_not] at hfree'
    obtain ⟨s, clear, latch, hs, -, hlatch, hout⟩ := r.update_cases inp (UInt32.ofNat time)
    refine ⟨heligible, ?_⟩
    show (r.update inp (UInt32.ofNat time)).state = _ ∧ (r.update inp (UInt32.ofNat time)).arm_release_required = _
    rw [hs, hlatch]
    cases hout with
    | hardFault hf => exact absurd hf hfree'.1
    | hardFaultCleared hf hstate hc =>
      rw [hstate] at heligible
      cases heligible
    | hardFaultHeld hf hstate hc =>
      rw [hstate] at heligible
      cases heligible
    | stopped hf hstate hr => exact absurd hfree'.2 hr
    | estopReleased hf hr hstate =>
      rw [hstate] at heligible
      cases heligible
    | idleDisarmed hf hr hi => exact ⟨rfl, rfl⟩
    | hostDisarmed hf hr hh hstate => exact ⟨rfl, rfl⟩
    | progressed hf hr hi hh hp => exact nomatch hi.symm.trans hidle

namespace StateMachine

variable {now_ms : UInt32}

@[simp] theorem enterFault_arming_since {s : State} {r : FaultReason} :
    (m.enterFault s r now_ms).arming_since_ms = m.arming_since_ms := by
  unfold enterFault latchFault
  split <;> rfl

theorem progressDisarmed_arming_since (hs : m.state = .disarmed)
    (hstarted : (m.progressDisarmed inp now_ms).state = .armingChecks) :
    (m.progressDisarmed inp now_ms).arming_since_ms = now_ms := by
  revert hstarted
  unfold progressDisarmed
  generalize (if ¬ inp.rc_armed = true then false else m.arm_release_required) = release
  rw [hs]
  by_cases hhost : inp.host_disarm = true
  · rw [if_pos hhost]
    rintro ⟨⟩
  rw [if_neg hhost]
  by_cases hpassive : (inp.passive_request && inp.torque_off) = true
  · rw [if_pos hpassive]
    rintro ⟨⟩
  rw [if_neg hpassive]
  by_cases hmaintenance : (inp.maintenance_request && inp.mac_lock_held) = true
  · rw [if_pos hmaintenance]
    rintro ⟨⟩
  rw [if_neg hmaintenance]
  by_cases hstart : (inp.rc_armed && !release) = true
  · rw [if_pos hstart]
    exact fun _ => rfl
  · rw [if_neg hstart]
    rintro ⟨⟩

theorem progressArmingChecks_arming_since :
    (m.progressArmingChecks inp now_ms).arming_since_ms = m.arming_since_ms := by
  unfold progressArmingChecks
  simp only [apply_ite arming_since_ms, enterFault_arming_since, ite_self]

theorem update_arming_since (hchecks : (m.update inp now_ms).state = .armingChecks) :
    (m.update inp now_ms).arming_since_ms =
      (if m.state = .armingChecks then m.arming_since_ms else now_ms) ∧
    (m.state = .armingChecks → m.armingExpired now_ms = false) := by
  obtain ⟨s, clear, latch, hs, -, -, hout⟩ := m.update_cases inp now_ms
  have hsame := hs.symm.trans hchecks
  cases hout with
  | progressed hf hr hi hh hp =>
    cases hp with
    | armingStarted hd =>
      rw [update_eq_progress hf (by rw [hd]; decide) hr (by rw [hd]; decide) hi hh] at hchecks ⊢
      unfold progress at hchecks ⊢
      simp only [trackActivity_state, trackBattery_state, requireArmRelease_state, hd] at hchecks ⊢
      rw [if_neg (by decide)]
      exact ⟨progressDisarmed_arming_since hd hchecks, nofun⟩
    | armingPending ha harmed hc hexpired =>
      rw [update_eq_progress hf (by rw [ha]; decide) hr (by rw [ha]; decide) hi hh]
      unfold progress
      simp only [trackActivity_state, trackBattery_state, requireArmRelease_state, ha]
      rw [progressArmingChecks_arming_since, if_pos trivial]
      exact ⟨rfl, fun _ => hexpired⟩
    | armed he =>
      rcases armedNext_cases inp he with ⟨-, hnext⟩ | ⟨-, hnext⟩
      · rw [hnext] at hsame
        cases hsame
      · rw [hsame] at hnext
        cases hnext
    | _ => cases hsame
  | _ => cases hsame

end StateMachine

/-- The arming timer remembers the update that has started the checks, and the timeout has not come. -/
def Arms (p : StateParams) (h : List TimedEvent) (m : StateMachine) : Prop :=
  m.params = p ∧ (m.state = .armingChecks →
    ∃ since latest, m.arming_since_ms = UInt32.ofNat since ∧
      Since StaysArming (fun x => updateTime x = some since ∧ EntersArming x) h ∧
      latestTime h = some latest ∧ (latest = since ∨ latest < since + p.arming_timeout_ms.toNat))

theorem before_timeout (harms : Arms p h m) (hbefore : m.state = .armingChecks)
    (hchecks : (m.update inp (UInt32.ofNat time)).state = .armingChecks)
    (hclock : NotEarlier ⟨m, .update inp time, m.update inp (UInt32.ofNat time)⟩ h)
    (hintime : ArmingInTime p.arming_timeout_ms.toNat
      ⟨m, .update inp time, m.update inp (UInt32.ofNat time)⟩ h) :
    ∃ since, m.arming_since_ms = UInt32.ofNat since ∧
      Since StaysArming (fun x => updateTime x = some since ∧ EntersArming x) h ∧
      time < since + p.arming_timeout_ms.toNat := by
  obtain ⟨rfl, harm⟩ := harms
  obtain ⟨since, latest, hsince, hstays, hlatest, hspan⟩ := harm hbefore
  refine ⟨since, hsince, hstays, ?_⟩
  have hle : since ≤ time := le_of_since hstays (fun x hx => hx.1) hclock rfl
  have hlt := hintime hbefore time rfl latest hlatest
  have hbound : m.params.arming_timeout_ms.toNat < 65536 := m.params.arming_timeout_ms.toNat_lt
  have hsize : UInt32.size = 4294967296 := rfl
  have hexact := WrappedTime.elapsed_exact hle (by omega)
  have hmissing := (StateMachine.update_arming_since hchecks).2 hbefore
  unfold StateMachine.armingExpired at hmissing
  rw [decide_eq_false_iff_not, hsince, UInt32.le_iff_toNat_le, hexact, UInt16.toNat_toUInt32] at hmissing
  omega

theorem arms_update (harms : Arms p h m)
    (hclock : NotEarlier ⟨m, .update inp time, m.update inp (UInt32.ofNat time)⟩ h)
    (hintime : ArmingInTime p.arming_timeout_ms.toNat
      ⟨m, .update inp time, m.update inp (UInt32.ofNat time)⟩ h) :
    Arms p (⟨m, .update inp time, m.update inp (UInt32.ofNat time)⟩ :: h)
      (m.update inp (UInt32.ofNat time)) := by
  refine ⟨StateMachine.update_params.trans harms.1, fun hchecks => ?_⟩
  have hsame := (StateMachine.update_arming_since hchecks).1
  by_cases hbefore : m.state = .armingChecks
  · rw [if_pos hbefore] at hsame
    obtain ⟨since, hsince, hstays, hlt⟩ := before_timeout harms hbefore hchecks hclock hintime
    exact ⟨since, time, hsame.trans hsince, .keep ⟨hbefore, hchecks⟩ hstays, rfl, .inr hlt⟩
  · rw [if_neg hbefore] at hsame
    exact ⟨time, time, hsame, .now ⟨rfl, hbefore, hchecks⟩, rfl, .inl rfl⟩

theorem arms_of_run (run : TimedRun p h m) (hclock : Increasing h)
    (hintime : Historically (ArmingInTime p.arming_timeout_ms.toNat) h) : Arms p h m := by
  revert hclock hintime
  refine TimedRun.history_invariant (fun h m => Increasing h →
    Historically (ArmingInTime p.arming_timeout_ms.toNat) h → Arms p h m) ?_ ?_ ?_ run
  · intro _ _
    exact ⟨rfl, fun hchecks => by cases hchecks⟩
  · intro h m _ ih hclock hintime
    obtain ⟨hparams, harm⟩ := ih hclock.2 hintime.2
    refine ⟨hparams, fun hchecks => ?_⟩
    obtain ⟨since, latest, hsince, hstays, hlatest, hspan⟩ := harm hchecks
    exact ⟨since, latest, hsince, .keep ⟨hchecks, hchecks⟩ hstays, hlatest, hspan⟩
  · intro h m inp time _ ih hclock hintime
    exact arms_update (ih hclock.2 hintime.2) hclock.1 hintime.1

theorem leaves_arming (run : TimedRun p (e :: h) m) (hclock : Increasing (e :: h))
    (hintime : Historically (ArmingInTime p.arming_timeout_ms.toNat) (e :: h)) {since now : Nat}
    (hnow : now ∈ updateTime e) (hspan : since + p.arming_timeout_ms.toNat ≤ now)
    (hstays : Since StaysArming (fun x => updateTime x = some since ∧ EntersArming x) h) :
    e.post.state ≠ .armingChecks := by
  obtain ⟨-, hstep, hrun⟩ := run.of_cons
  have hbefore : e.pre.state = .armingChecks := by
    cases h with
    | nil => exact absurd hstays since_nil
    | cons x h =>
      rw [← hrun.of_cons.1]
      rcases hstays with ⟨-, henters⟩ | ⟨hstays, -⟩
      · exact henters.2
      · exact hstays.2
  have harms := arms_of_run hrun hclock.2 hintime.2
  obtain ⟨r, c, r'⟩ := e
  cases c with
  | requestClearFault => cases hnow
  | update inp time =>
    obtain rfl := Option.some.inj hnow
    have hpost : r' = r.update inp (UInt32.ofNat time) := hstep
    subst hpost
    intro hchecks
    obtain ⟨since', -, hstays', hlt⟩ := before_timeout harms hbefore hchecks hclock.1 hintime.1
    obtain ⟨x, -, hx, hx'⟩ := (hstays.and hstays' (fun y hy hnot => hnot.2.1 hy.1)
      fun y hy hnot => hnot.2.1 hy.1).once
    obtain rfl := Option.some.inj (hx.1.symm.trans hx'.1)
    omega

/-- **The timeouts.** Unless a hard fault or an E-stop source preempts it, the idle exit comes exactly when
the robot has been armed and without motion for the timeout, and it disarms the robot; and the arming checks
are left at the latest by the first update after their timeout. -/
theorem idle_and_arming_timeouts (run : TimedRun p (e :: h) m) (hpos : 0 < p.idle_disarm_ms)
    (hclock : Increasing (e :: h)) :
    (Historically (IdleInTime p.idle_disarm_ms.toNat) (e :: h) →
      (IdleExit e ↔ ¬ Preempted e ∧ IdleFor p.idle_disarm_ms.toNat e h)) ∧
    (IdleExit e → idleDisarmEligible e.pre.state = true ∧ e.post.state = .disarmed ∧
      e.post.arm_release_required = true) ∧
    (Historically (ArmingInTime p.arming_timeout_ms.toNat) (e :: h) →
      ∀ since, ∀ now ∈ updateTime e, since + p.arming_timeout_ms.toNat ≤ now →
        Since StaysArming (fun x => updateTime x = some since ∧ EntersArming x) h →
          e.post.state ≠ .armingChecks) := by
  have hne : p.idle_disarm_ms ≠ 0 := (UInt32.pos_iff_ne_zero).mp hpos
  refine ⟨fun hintime => idleExit_iff run hne hclock hintime, post_of_idleExit run, ?_⟩
  exact fun hintime since now hnow hspan hstays => leaves_arming run hclock hintime hnow hspan hstays

/-- From reset to `StandReady`, and then nothing for the timeout. -/
def idleCalls : List TimedCall :=
  [.update {} 1, .update { config_loaded := true } 2, .update {} 3, .update armingInputs 4,
    .update armingInputs 5, .update armingInputs 60005]

theorem idle_and_arming_timeouts_idle :
    ∃ e h, timedHistory idleCalls = e :: h ∧ IdleExit e ∧ e.post.state = .disarmed := by
  have run : TimedRun {} (timedHistory idleCalls) _ := run_execute StateMachine.timedCall idleCalls .nil
  obtain ⟨hexit, hpost, -⟩ := idle_and_arming_timeouts run (by decide) (by decide)
  have hidle := (hexit (by decide)).mpr ⟨by decide, rfl, ?_, .now ⟨rfl, _, rfl, _, rfl, Nat.le_refl _⟩⟩
  · exact ⟨_, _, rfl, hidle, (hpost hidle).2.1⟩
  · rintro _ ⟨⟩
    exact ⟨rfl, rfl⟩

/-- Idle for the timeout, but the host stops the robot in this update. -/
def stoppedCalls : List TimedCall :=
  idleCalls.take 5 ++ [.update { armingInputs with host_estop := true } 60005]

theorem idle_exit_preempted : ¬ ∀ (p : StateParams) (e : TimedEvent) (h : List TimedEvent)
    (m : StateMachine), TimedRun p (e :: h) m → 0 < p.idle_disarm_ms → Increasing (e :: h) →
      Historically (IdleInTime p.idle_disarm_ms.toNat) (e :: h) →
        (IdleExit e ↔ IdleFor p.idle_disarm_ms.toNat e h) := by
  intro hclaim
  have run : TimedRun {} (timedHistory stoppedCalls) _ :=
    run_execute StateMachine.timedCall stoppedCalls .nil
  have hidle := (hclaim {} _ _ _ run (by decide) (by decide) (by decide)).mpr
    ⟨rfl, ?_, .now ⟨rfl, _, rfl, _, rfl, Nat.le_refl _⟩⟩
  · exact hidle.1 (.inr (by decide))
  · rintro _ ⟨⟩
    exact ⟨rfl, rfl⟩

end HexapodVerified.Safety
