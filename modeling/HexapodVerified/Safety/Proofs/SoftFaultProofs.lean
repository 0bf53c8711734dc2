import HexapodVerified.Safety.Proofs.StopSourceProofs

/-!
# Soft faults and clear requests

The clear request is one flag, consumed in `FaultSoft` and `FaultHard` and dropped by a hard fault
only. A request made to release an E-stop therefore stays pending, and an E-stop that interrupts a
soft fault is released without any request. Where a soft fault is entered with no request pending
and its E-stops are released with one, a soft fault is left only by a request made since.
-/

namespace HexapodVerified.Safety

open Transition PastTime

def EntersSoftFault (e : CallEvent) : Prop := e.pre.state ≠ .faultSoft ∧ e.post.state = .faultSoft

/-- A clear request has been made since `FaultSoft` was last entered. -/
def ClearRequestedSince (h : List CallEvent) : Prop :=
  Since (fun e => ¬ EntersSoftFault e) (fun e => e.label = .requestClearFault) h

def InterruptedSoftFault (h : List CallEvent) : Prop :=
  Since (fun e => e.post.state = .estop)
    (fun e => e.pre.state = .faultSoft ∧ e.post.state = .estop) h

/-- The update from `m` to `m'` leaves a soft fault for `Disarmed`, directly or through `Estop`. -/
def LeavesSoftFault (h : List CallEvent) (m m' : StateMachine) : Prop :=
  (m.state = .faultSoft ∨ m.state = .estop ∧ InterruptedSoftFault h) ∧ m'.state = .disarmed

/-- The update times out in `ArmingChecks` while a clear request is pending. -/
def TimesOutPending (m : StateMachine) (inp : StateInputs) (now_ms : UInt32) : Prop :=
  m.clear_fault_requested = true ∧ m.state = .armingChecks ∧ inp.rc_armed = true ∧
    (inp.arming_checks_pass && m.batteryReady inp) = false ∧ m.armingExpired now_ms = true ∧
    inp.host_disarm = false ∧ ¬ StopActive m inp now_ms

instance (m : StateMachine) (inp : StateInputs) (now_ms : UInt32) :
    Decidable (TimesOutPending m inp now_ms) :=
  inferInstanceAs (Decidable (_ ∧ _ ∧ _ ∧ _ ∧ _ ∧ _ ∧ _))

namespace StateMachine

variable {m : StateMachine} {inp : StateInputs} {now_ms : UInt32}

/-- An update that ends in `FaultSoft` was there already with no request pending, or has timed out
in `ArmingChecks`. It leaves the request as it was. -/
theorem update_faultSoft (hs : (m.update inp now_ms).state = .faultSoft) :
    (m.update inp now_ms).clear_fault_requested = m.clear_fault_requested ∧
      (m.state = .faultSoft ∨
        (m.clear_fault_requested = true → TimesOutPending m inp now_ms)) := by
  obtain ⟨s, clear, latch, hx, hc, -, ho⟩ := update_ends hs
  rw [hc]
  cases ho with
  | progressed hf hr hi hh hp =>
    cases hp with
    | armingTimedOut hm ha hck he =>
      refine ⟨rfl, .inr fun hclear => ⟨hclear, hm, ha, hck, he, ?_, ?_⟩⟩
      · rw [hm] at hh
        simpa [hostDisarmDrops] using hh
      · rw [stopActive_iff]
        simp [hf, hr]
    | softFaultHeld hm => exact ⟨rfl, .inl hm⟩
    | armed hm =>
      rcases armedNext_cases inp hm with ⟨-, hn⟩ | ⟨-, hn⟩
      · rw [hn] at hx
        cases hx
      · rw [hx] at hn
        cases hn
    | _ => cases hx
  | _ => cases hx

/-- An update that ends in `Estop` leaves the request as it was. -/
theorem update_estop_clear (hs : (m.update inp now_ms).state = .estop) :
    (m.update inp now_ms).clear_fault_requested = m.clear_fault_requested := by
  obtain ⟨hr, -⟩ := update_eq_estop hs
  obtain ⟨s, clear, latch, hx, hc, -, ho⟩ := update_ends hs
  rw [hc]
  cases ho with
  | stopped => rfl
  | progressed _ hr' => exact absurd hr' hr
  | _ => cases hx

/-- `FaultSoft` is left for `Disarmed` only by a pending request. -/
theorem update_of_faultSoft (hm : m.state = .faultSoft)
    (hs : (m.update inp now_ms).state = .disarmed) : m.clear_fault_requested = true := by
  obtain ⟨s, clear, latch, hx, -, -, ho⟩ := update_ends hs
  cases ho with
  | progressed hf hr hi hh hp =>
    cases hp with
    | softFaultCleared _ hc => exact hc
    | _ => simp_all [idleDisarmEligible]
  | idleDisarmed _ _ hi =>
    have he := eligible_of_idleTimeout hi
    rw [hm] at he
    cases he
  | hostDisarmed _ _ _ hd =>
    rw [hm] at hd
    cases hd
  | _ => simp_all

end StateMachine

section Histories

variable {p : StateParams} {h : List CallEvent} {m : StateMachine}

/-- As long as no soft fault is entered with a clear request pending, the request pending in a soft
fault, or in an E-stop that interrupted one, is one made since. -/
theorem pending_iff_requested (run : MachineRun p h m)
    (hfresh : ∀ e ∈ h, ¬ OnUpdate TimesOutPending e)
    (hs : m.state = .faultSoft ∨ InterruptedSoftFault h) :
    m.clear_fault_requested = true ↔ ClearRequestedSince h := by
  revert hfresh hs
  refine run.history_invariant (fun h m => (∀ e ∈ h, ¬ OnUpdate TimesOutPending e) →
    m.state = .faultSoft ∨ InterruptedSoftFault h →
    (m.clear_fault_requested = true ↔ ClearRequestedSince h)) ?_ ?_ ?_
  · rintro - (hs | hs)
    · cases hs
    · exact hs.elim
  · intro h m _ _ _ _
    exact iff_of_true rfl (.now rfl)
  · intro h m inp now_ms hrun ih hfresh hs
    have hfresh' : ∀ e ∈ h, ¬ OnUpdate TimesOutPending e :=
      fun e he => hfresh e (List.mem_cons_of_mem _ he)
    have hhead : ¬ TimesOutPending m inp now_ms := hfresh _ (List.mem_cons_self ..)
    -- an update that enters no soft fault keeps what is known about the requests
    have hkeep (hent : ¬ EntersSoftFault ⟨m, .update inp now_ms, m.update inp now_ms⟩) :
        ClearRequestedSince (⟨m, .update inp now_ms, m.update inp now_ms⟩ :: h) ↔
          ClearRequestedSince h := by
      simp [ClearRequestedSince, since_cons, hent]
    by_cases hsoft : (m.update inp now_ms).state = .faultSoft
    · obtain ⟨hc, hm⟩ := StateMachine.update_faultSoft hsoft
      rw [hc]
      by_cases hm' : m.state = .faultSoft
      · rw [hkeep (fun hent => hent.1 hm')]
        exact ih hfresh' (.inl hm')
      · have hpend : m.clear_fault_requested ≠ true := fun hp =>
          hhead ((hm.resolve_left hm') hp)
        have hnew : ¬ ClearRequestedSince (⟨m, .update inp now_ms, m.update inp now_ms⟩ :: h) := by
          simp [ClearRequestedSince, since_cons, EntersSoftFault, hm', hsoft]
        exact iff_of_false hpend hnew
    · have hint := hs.resolve_left hsoft
      have hestop : (m.update inp now_ms).state = .estop := by
        rcases hint with hq | ⟨hp, -⟩
        · exact hq.2
        · exact hp
      have hent : ¬ EntersSoftFault ⟨m, .update inp now_ms, m.update inp now_ms⟩ :=
        fun hent => hsoft hent.2
      rw [StateMachine.update_estop_clear hestop, hkeep hent]
      refine ih hfresh' ?_
      rcases hint with hq | ⟨-, hi⟩
      · exact .inl hq.1
      · exact .inr hi

/-- **Soft-fault latching.** In a run that enters no soft fault with a clear request pending, an
update that leaves a soft fault comes after a request made since the fault was entered, exactly when
it is taken in `FaultSoft` itself or with a request pending. -/
theorem soft_fault_latched_iff (run : MachineRun p h m)
    (hfresh : ∀ e ∈ h, ¬ OnUpdate TimesOutPending e) (inp : StateInputs) (now_ms : UInt32)
    (hleave : LeavesSoftFault h m (m.update inp now_ms)) :
    ClearRequestedSince h ↔ (m.state = .faultSoft ∨ m.clear_fault_requested = true) := by
  obtain ⟨hs, hd⟩ := hleave
  have hpend := pending_iff_requested run hfresh (hs.imp id And.right)
  constructor
  · intro hreq
    exact .inr (hpend.mpr hreq)
  · rintro (hm | hc)
    · exact hpend.mp (StateMachine.update_of_faultSoft hm hd)
    · exact hpend.mp hc

/-- From reset into a soft fault: arming starts and its checks never pass. -/
def softFaultCalls : List Call :=
  bootCalls ++ [.update {} 3, .update { rc_armed := true } 4, .update { rc_armed := true } 10004]

/-- The statement at work on a soft fault that is cleared as intended. -/
theorem soft_fault_latched_cleared :
    ClearRequestedSince (executeHistory StateMachine.call {} []
        (softFaultCalls ++ [.requestClearFault])) ↔
      ((execute StateMachine.call {} (softFaultCalls ++ [.requestClearFault])).state = .faultSoft ∨
        (execute StateMachine.call {} (softFaultCalls ++
          [.requestClearFault])).clear_fault_requested = true) := by
  have run : MachineRun {} _ _ :=
    run_execute StateMachine.call (softFaultCalls ++ [.requestClearFault]) .nil
  refine soft_fault_latched_iff run ?_ {} 10005 ⟨.inl (by decide), by decide⟩
  decide

/-- A host E-stop is released with a clear request; arming then times out. -/
def staleClearCalls : List Call :=
  bootCalls ++ [.update { host_estop := true } 3, .requestClearFault, .update {} 4, .update {} 5,
    .update { rc_armed := true } 6, .update { rc_armed := true } 10006]

/-- That run leaves its soft fault by the request that was meant for the E-stop. -/
theorem soft_fault_cleared_by_stale_request :
    ¬ ∀ (p : StateParams) (h : List CallEvent) (m : StateMachine), MachineRun p h m →
      ∀ inp now_ms, LeavesSoftFault h m (m.update inp now_ms) → ClearRequestedSince h := by
  intro hall
  have run : MachineRun {} _ _ := run_execute StateMachine.call staleClearCalls .nil
  have hreq := hall {} _ _ run {} 10007 ⟨.inl (by decide), by decide⟩
  -- the latest event enters the soft fault and is no request
  rcases hreq with hq | ⟨hent, -⟩
  · cases hq
  · exact hent ⟨by decide, by decide⟩

end Histories

end HexapodVerified.Safety
