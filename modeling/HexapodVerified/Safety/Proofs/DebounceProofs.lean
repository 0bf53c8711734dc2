import HexapodVerified.Safety.History
import HexapodVerified.Safety.Proofs.UpdateProofs

/-!
# The battery debounce

The count of a low battery starts with the first low reading and is dropped by any other reading, except
under a hard fault: `update` returns before it looks at the battery then. Where no such reading is
overlooked, an E-stop for a low battery has an unbroken sequence of low readings behind it.
-/

namespace HexapodVerified.Safety

open Transition PastTime

variable {p : StateParams} {h : List TimedEvent} {m : StateMachine} {inp : StateInputs}
  {now_ms : UInt32}

namespace StateMachine

/-- What `update` remembers of the times it was called. -/
structure Timers where
  batt_low_active : Bool
  batt_low_since_ms : UInt32
  last_activity_ms : UInt32
  deriving DecidableEq

def timers (m : StateMachine) : Timers where
  batt_low_active := m.batt_low_active
  batt_low_since_ms := m.batt_low_since_ms
  last_activity_ms := m.last_activity_ms

@[simp] theorem latchFault_timers {r : FaultReason} : (m.latchFault r now_ms).timers = m.timers := by
  unfold latchFault
  split <;> rfl

@[simp] theorem enterFault_timers {s : State} {r : FaultReason} :
    (m.enterFault s r now_ms).timers = m.timers := by
  exact latchFault_timers

theorem progressDisarmed_timers : (m.progressDisarmed inp now_ms).timers = m.timers := by
  unfold progressDisarmed
  simp only [apply_ite timers]
  simp only [timers, ite_self]

theorem progressArmingChecks_timers : (m.progressArmingChecks inp now_ms).timers = m.timers := by
  unfold progressArmingChecks
  simp only [apply_ite timers, enterFault_timers]
  simp only [timers, ite_self]

theorem progress_timers : (m.progress inp now_ms).timers = m.timers := by
  unfold progress
  cases hs : m.state <;>
    simp only [apply_ite timers, progressDisarmed_timers, progressArmingChecks_timers] <;>
    simp only [timers, fallToDisarmed, ite_self]

theorem update_timers_of_hardFault (hfault : inp.dxl_hard_fault = true ∨ m.state = .faultHard) :
    (m.update inp now_ms).timers = m.timers := by
  unfold update
  by_cases hf : inp.dxl_hard_fault = true
  · simp only [hf, if_true]
    exact enterFault_timers
  · have hs : (m.requireArmRelease inp).state = .faultHard := hfault.resolve_left hf
    simp only [hf, if_false, hs, if_true, Bool.false_eq_true]
    split <;> rfl

theorem update_timers_of_stop (hf : inp.dxl_hard_fault = false) (hs : m.state ≠ .faultHard)
    (hstop : m.stopReason inp now_ms ≠ .none ∨ m.state = .estop) :
    (m.update inp now_ms).timers = (m.trackBattery inp now_ms).timers := by
  by_cases hr : m.stopReason inp now_ms = .none
  · have hr' : ((m.requireArmRelease inp).trackBattery inp now_ms).estopReason inp now_ms = .none := hr
    have he : m.state = .estop := hstop.resolve_left (not_not.mpr hr)
    unfold update updateRunning
    simp only [hf, requireArmRelease_state, if_false, Bool.false_eq_true, hr', ne_eq, not_true_eq_false,
      trackBattery_state, he, if_true, reduceCtorEq]
    rfl
  · rw [update_of_stop hf hs hr]
    exact enterFault_timers

theorem update_timers_of_running (hf : inp.dxl_hard_fault = false) (hs : m.state ≠ .faultHard)
    (hr : m.stopReason inp now_ms = .none) (he : m.state ≠ .estop) :
    (m.update inp now_ms).timers = ((m.trackBattery inp now_ms).trackActivity inp now_ms).timers := by
  rw [update_of_running hf hs hr he]
  split
  · rfl
  · rw [progress_timers]
    rfl

theorem update_battery (hf : inp.dxl_hard_fault = false) (hs : m.state ≠ .faultHard) :
    (m.update inp now_ms).batt_low_active = m.battLowNow inp ∧
      (m.update inp now_ms).batt_low_since_ms =
        if m.battLowNow inp ∧ ¬ m.batt_low_active then now_ms else m.batt_low_since_ms := by
  by_cases hstop : m.stopReason inp now_ms ≠ .none ∨ m.state = .estop
  · have htimers := update_timers_of_stop hf hs hstop
    exact ⟨congrArg Timers.batt_low_active htimers, congrArg Timers.batt_low_since_ms htimers⟩
  · rw [not_or, not_not] at hstop
    have htimers := update_timers_of_running hf hs hstop.1 hstop.2
    exact ⟨congrArg Timers.batt_low_active htimers, congrArg Timers.batt_low_since_ms htimers⟩

theorem stopReason_batteryLow (hr : m.stopReason inp now_ms = .batteryLow) :
    m.battLowNow inp = true ∧ m.params.battery_low_debounce_ms.toUInt32 ≤
      now_ms - (if m.battLowNow inp ∧ ¬ m.batt_low_active then now_ms else m.batt_low_since_ms) := by
  have hunsafe : ((m.requireArmRelease inp).trackBattery inp now_ms).battUnsafe now_ms = true := by
    unfold stopReason estopReason at hr
    split_ifs at hr with hhost hkill hlow hwatchdog hlink
    exact hlow
  unfold battUnsafe at hunsafe
  rw [Bool.and_eq_true, decide_eq_true_eq] at hunsafe
  exact hunsafe

end StateMachine

def lowReading (p : StateParams) (inp : StateInputs) : Bool :=
  inp.battery_valid && decide (inp.battery_mv < p.battery_min_mv)

def ReadsLow (p : StateParams) (e : TimedEvent) : Prop := ∀ inp ∈ updateInputs e, lowReading p inp = true

/-- The update ends in an E-stop for a low battery. -/
def TripsBattery (e : TimedEvent) : Prop :=
  (updateInputs e).isSome = true ∧ e.post.state = .estop ∧ e.post.reason = .batteryLow

/-- A hard fault hides from a running count that the battery does not read low any more. -/
def Overlooks (p : StateParams) (e : TimedEvent) : Prop :=
  ∃ inp ∈ updateInputs e, (inp.dxl_hard_fault = true ∨ e.pre.state = .faultHard) ∧
    e.pre.batt_low_active = true ∧ lowReading p inp = false

instance : DecidablePred (Overlooks p) := fun e =>
  inferInstanceAs (Decidable (∃ inp ∈ updateInputs e,
    (inp.dxl_hard_fault = true ∨ e.pre.state = .faultHard) ∧ e.pre.batt_low_active = true ∧
      lowReading p inp = false))

instance : DecidablePred TripsBattery := fun e =>
  inferInstanceAs (Decidable ((updateInputs e).isSome = true ∧ e.post.state = .estop ∧
    e.post.reason = .batteryLow))

def IsAt (time : Nat) (e : TimedEvent) (_ : List TimedEvent) : Prop := updateTime e = some time

/-- Behind a running count are low readings only, from its start on. -/
def Counts (p : StateParams) (h : List TimedEvent) (m : StateMachine) : Prop :=
  m.params = p ∧ (m.batt_low_active = true →
    ∃ since, m.batt_low_since_ms = UInt32.ofNat since ∧ Within (ReadsLow p) (IsAt since) h)

theorem counts_update {time : Nat} (hcounts : Counts p h m)
    (hseen : ¬ Overlooks p ⟨m, .update inp time, m.update inp (UInt32.ofNat time)⟩) :
    Counts p (⟨m, .update inp time, m.update inp (UInt32.ofNat time)⟩ :: h)
      (m.update inp (UInt32.ofNat time)) := by
  obtain ⟨rfl, hcount⟩ := hcounts
  have hlow (hread : lowReading m.params inp = true) :
      ReadsLow m.params ⟨m, .update inp time, m.update inp (UInt32.ofNat time)⟩ := by
    rintro _ ⟨⟩
    exact hread
  refine ⟨StateMachine.update_params, fun hactive => ?_⟩
  by_cases hfault : inp.dxl_hard_fault = true ∨ m.state = .faultHard
  · have htimers : (m.update inp (UInt32.ofNat time)).timers = m.timers :=
      StateMachine.update_timers_of_hardFault hfault
    have hsame : (m.update inp (UInt32.ofNat time)).batt_low_active = m.batt_low_active :=
      congrArg StateMachine.Timers.batt_low_active htimers
    rw [hsame] at hactive
    obtain ⟨since, hsince, hwithin⟩ := hcount hactive
    refine ⟨since, (congrArg StateMachine.Timers.batt_low_since_ms htimers).trans hsince, ?_⟩
    refine .keep (hlow ?_) hwithin
    by_contra hgood
    exact hseen ⟨inp, rfl, hfault, hactive, eq_false_of_ne_true hgood⟩
  · rw [not_or, Bool.not_eq_true] at hfault
    obtain ⟨hactive', hsince'⟩ :=
      @StateMachine.update_battery m inp (UInt32.ofNat time) hfault.1 hfault.2
    have hread : m.battLowNow inp = true := hactive'.symm.trans hactive
    by_cases hbefore : m.batt_low_active = true
    · obtain ⟨since, hsince, hwithin⟩ := hcount hbefore
      rw [if_neg fun hstarts => hstarts.2 hbefore] at hsince'
      exact ⟨since, hsince'.trans hsince, .keep (hlow hread) hwithin⟩
    · rw [if_pos ⟨hread, hbefore⟩] at hsince'
      exact ⟨time, hsince', .now (hlow hread) rfl⟩

theorem counts_of_run (run : TimedRun p h m) (hseen : ∀ e ∈ h, ¬ Overlooks p e) : Counts p h m := by
  revert hseen
  refine TimedRun.history_invariant (fun h m => (∀ e ∈ h, ¬ Overlooks p e) → Counts p h m) ?_ ?_ ?_ run
  · intro _
    exact ⟨rfl, nofun⟩
  · intro h m _ ih hseen
    rw [List.forall_mem_cons] at hseen
    obtain ⟨hparams, hcount⟩ := ih hseen.2
    refine ⟨hparams, fun hactive => ?_⟩
    obtain ⟨since, hsince, hwithin⟩ := hcount hactive
    exact ⟨since, hsince, .keep (fun _ hnone => absurd hnone (Option.not_mem_none _)) hwithin⟩
  · intro h m inp time _ ih hseen
    rw [List.forall_mem_cons] at hseen
    exact counts_update (ih hseen.2) hseen.1

theorem stop_of_trips {time : Nat} (hstate : (m.update inp (UInt32.ofNat time)).state = .estop)
    (hreason : (m.update inp (UInt32.ofNat time)).reason = .batteryLow) :
    inp.dxl_hard_fault = false ∧ m.state ≠ .faultHard ∧
      m.stopReason inp (UInt32.ofNat time) = .batteryLow := by
  obtain ⟨s, clear, latch, hs, -, -, hout⟩ := StateMachine.update_ends hstate
  cases hout with
  | stopped hf hh hr => exact ⟨hf, hh, (StateMachine.update_stop_reason hf hh hr).symm.trans hreason⟩
  | progressed hf hr hi hh hp =>
    cases hp with
    | armed he =>
      rcases StateMachine.armedNext_cases inp he with ⟨-, hnext⟩ | ⟨-, hnext⟩
      · rw [hs] at hnext
        cases hnext
      · rw [hs] at hnext
        cases hnext
    | _ => cases hs
  | _ => cases hs

/-- **The battery debounce.** While no hard fault hides a good reading from a running count, an E-stop for
a low battery comes after nothing but low readings for at least the debounce time. -/
theorem battery_debounced {e : TimedEvent} (run : TimedRun p (e :: h) m) (hclock : Increasing (e :: h))
    (hseen : ∀ x ∈ e :: h, ¬ Overlooks p x) (htrips : TripsBattery e) :
    ∀ now ∈ updateTime e, Within (ReadsLow p)
      (fun x _ => ∃ time ∈ updateTime x, time + p.battery_low_debounce_ms.toNat ≤ now) (e :: h) := by
  intro now hnow
  obtain ⟨hparams, hcount⟩ := counts_of_run run hseen
  obtain ⟨rfl, hstep, hrun⟩ := run.of_cons
  obtain ⟨hparams', -⟩ := counts_of_run hrun fun x hx => hseen x (List.mem_cons_of_mem _ hx)
  obtain ⟨r, c, r'⟩ := e
  cases c with
  | requestClearFault => cases hnow
  | update inp time =>
    obtain rfl := Option.some.inj hnow
    have hpost : r' = r.update inp (UInt32.ofNat time) := hstep
    subst hpost
    obtain ⟨-, hstate, hreason⟩ := htrips
    obtain ⟨hf, hs, hr⟩ := stop_of_trips hstate hreason
    obtain ⟨hlow, hspan⟩ := StateMachine.stopReason_batteryLow hr
    obtain ⟨hactive', hsince'⟩ := @StateMachine.update_battery r inp (UInt32.ofNat time) hf hs
    obtain ⟨since, hsince, hwithin⟩ := hcount (hactive'.trans hlow)
    rw [← hsince', hsince, hparams', UInt32.le_iff_toNat_le, UInt16.toNat_toUInt32] at hspan
    have hle : since ≤ time := by
      obtain ⟨later, x, earlier, heq, hx, -⟩ := within_iff.mp hwithin
      have hmem : x ∈ later ++ x :: earlier := List.mem_append_right _ (List.mem_cons_self ..)
      rw [← heq] at hmem
      rcases List.mem_cons.mp hmem with rfl | hmem
      · exact Nat.le_of_eq (Option.some.inj hx).symm
      · exact hclock.1 time rfl x hmem since hx
    have helapsed := WrappedTime.elapsed_le hle
    refine hwithin.imp fun x _ _ hx => ⟨since, hx, ?_⟩
    omega

/-- A battery that stays low, and the updates up to the E-stop. -/
def flatBattery : List TimedCall :=
  [.update {} 0, .update { battery_valid := true, battery_mv := 9000 } 100,
    .update { battery_valid := true, battery_mv := 9000 } 400]

def timedHistory (calls : List TimedCall) : List TimedEvent :=
  executeHistory StateMachine.timedCall { params := {} } [] calls

theorem battery_debounced_flat : Within (ReadsLow {})
    (fun x _ => ∃ time ∈ updateTime x, time + 250 ≤ 400) (timedHistory flatBattery) := by
  have run : TimedRun {} (timedHistory flatBattery) _ := run_execute StateMachine.timedCall flatBattery .nil
  exact battery_debounced run (by decide) (by decide) (by decide) 400 rfl

/-- A low reading, a good one during a hard fault, and a low one afterwards. -/
def hiddenRecovery : List TimedCall :=
  [.update { battery_valid := true, battery_mv := 9000 } 0,
    .update { dxl_hard_fault := true, battery_valid := true, battery_mv := 12000 } 100,
    .requestClearFault, .update { battery_valid := true, battery_mv := 12000 } 200,
    .update { battery_valid := true, battery_mv := 9000 } 300]

/-- The last low reading trips the E-stop alone. -/
theorem hidden_recovery_trips : ¬ ∀ (p : StateParams) (e : TimedEvent) (h : List TimedEvent)
    (m : StateMachine), TimedRun p (e :: h) m → Increasing (e :: h) → TripsBattery e →
      ∀ now ∈ updateTime e, Within (ReadsLow p)
        (fun x _ => ∃ time ∈ updateTime x, time + p.battery_low_debounce_ms.toNat ≤ now) (e :: h) := by
  intro hclaim
  have run : TimedRun {} (timedHistory hiddenRecovery) _ :=
    run_execute StateMachine.timedCall hiddenRecovery .nil
  have hwithin := hclaim {} _ _ _ run (by decide) (by decide) 300 rfl
  obtain ⟨-, ⟨time, htime, hspan⟩ | ⟨hlow, -⟩⟩ := hwithin
  · obtain rfl := Option.some.inj htime
    exact absurd hspan (by decide)
  · exact absurd (hlow _ rfl) (by decide)

end HexapodVerified.Safety
