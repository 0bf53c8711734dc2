import HexapodVerified.Controller.Proofs.AuthorityProofs
import HexapodVerified.Safety.Proofs.ArmingProofs

/-!
# Kill dominance

A killed step sends nothing and authorizes nothing. It also sets the arm-release latch of the state
machine, so that the operator's motion states are closed until the arm switch has been released and
raised again. A step without a valid time does not reach the state machine: it sends nothing, and it is
forgotten with the next step.
-/

namespace HexapodVerified.Controller

open HexapodVerified.Gait HexapodVerified.Safety Transition PastTime
open HexapodVerified.Safety.StateMachine (latchHolds)

variable {F : Type} [FloatArith F]

/-- The host E-stop, or an RC kill that no maintenance recovery covers. -/
def Killed (e : ControllerEvent F) : Prop :=
  e.label.1.intent.host_estop = true ∨ (e.label.1.intent.rc.kill = true ∧
    maintenanceFailsafeRecovery e.label.1.state e.label.1.intent (e.pre.configUsable e.label.1) =
      false)

def SeenKill (e : ControllerEvent F) : Prop :=
  Killed e ∧ (e.label.1.intent.rc.ever_seen = true ∨ e.label.1.intent.host_estop = true)

/-- Nothing moves and nobody may move it. -/
def ShutDown (command : RobotCommand) : Prop :=
  command.motion_gate = false ∧ command.motion_authorized = false ∧ command.goal_valid = false ∧
    command.goals.joints = []

def rcOrJetson : State → Bool
  | .rcManual | .contactTerrain | .jetsonAssisted => true
  | _ => false

theorem eligible_of_rcOrJetson {s : State} (hs : rcOrJetson s = true) :
    idleDisarmEligible s = true := by
  cases s <;> first | rfl | cases hs

/-- Among the steps that `counts` counts, the switch was seen down and, later, up. -/
def Rearmed (counts : ControllerStepInput F → Prop) (h : List (ControllerEvent F)) : Prop :=
  OnceThen (fun e => counts e.label.1 ∧ e.label.1.intent.rc.armed = false)
    (fun e => counts e.label.1 ∧ e.label.1.intent.rc.armed = true) h

/-- After a seen kill no step opens the gate for RC or Jetson before a re-arming. Only the kills and the
switch positions of steps that `counts` counts are looked at. -/
def KillLatched (counts : ControllerStepInput F → Prop) (h : List (ControllerEvent F)) : Prop :=
  ∀ after x between e earlier, h = after ++ x :: (between ++ e :: earlier) →
    SeenKill e → counts e.label.1 → rcOrJetson x.label.2.safety_state = true →
    x.label.2.motion_gate = true → Rearmed counts between

def Sampled (inp : ControllerStepInput F) : Prop := inp.time.valid = true

namespace Authority

variable (authority : Authority) (intent : ControllerIntent F) (now_ms : UInt32) (recovery : Bool)

omit [FloatArith F] in
theorem arbitrate_of_kill
    (hkill : intent.host_estop = true ∨ (intent.rc.kill = true ∧ recovery = false)) :
    (authority.arbitrate intent now_ms recovery).arbiter.out = { kill_active := true } := by
  refine CommandArbiter.update_of_kill ?_
  unfold CommandArbiter.killActive CommandArbiter.staleFailsafeRecovery
    CommandArbiter.setExternalMacLock CommandArbiter.setHostEstop rcInputs
  rcases hkill with hhost | ⟨hrc, hrec⟩
  · simp [hhost]
  · simp [hrc, hrec]

end Authority

namespace ControllerCore

variable (core : ControllerCore F) (inp : ControllerStepInput F)

theorem acted_of_unauthorized
    (hauth : (core.arbitrated inp).arbiter.out.motion_authorized = false) :
    ShutDown (core.acted inp).2 := by
  have hclosed : (core.reported inp).motion_gate = false := by
    rw [reported_gate, hauth, Bool.and_false]
  have hhold := (core.configured inp).toMotion.act_of_closed
    (core.configured inp).config_cache.snapshot.robot inp core.previous_motion_gate
    core.previous_maintenance_authority (core.reported inp) hclosed
  unfold acted
  rw [hhold]
  exact ⟨hclosed, hauth, rfl, rfl⟩

theorem step_shutDown (hkill : Killed ⟨core, (inp, (core.step inp).2), (core.step inp).1⟩) :
    ShutDown (core.step inp).2 := by
  by_cases hv : inp.time.valid = true
  · have hout := (core.configured inp).toAuthority.arbitrate_of_kill inp.intent inp.time.now_ms _
      hkill
    have hauth : (core.arbitrated inp).arbiter.out.motion_authorized = false :=
      congrArg ArbiterOutput.motion_authorized hout
    rw [core.step_of_valid inp hv]
    exact core.acted_of_unauthorized inp hauth
  · rw [core.step_command_of_invalid inp (eq_false_of_ne_true hv)]
    exact ⟨rfl, rfl, rfl, rfl⟩

/-- A sampled step updates the state machine once, from the state and the latch it had; any other step
leaves the core alone. -/
theorem step_cases : (¬ Sampled inp ∧ (core.step inp).1 = core) ∨
    (Sampled inp ∧ ∃ m : StateMachine, m.state = core.state_machine.state ∧
      m.arm_release_required = core.state_machine.arm_release_required ∧
      (core.step inp).1.state_machine = m.update (core.safetyInputs inp) inp.time.now_ms) := by
  by_cases hv : inp.time.valid = true
  · refine .inr ⟨hv, ?_⟩
    rw [core.step_of_valid inp hv]
    exact core.decided_state inp
  · exact .inl ⟨hv, (core.step_of_invalid inp (eq_false_of_ne_true hv)).1⟩

def Latched (core : ControllerCore F) : Prop :=
  core.state_machine.arm_release_required = true ∧ isOperational core.state_machine.state = false

def LatchInv (core : ControllerCore F) : Prop :=
  latchHolds core.state_machine.state = true → core.state_machine.arm_release_required = true

variable {core inp}

theorem LatchInv.step (hinv : LatchInv core) : LatchInv (core.step inp).1 := by
  obtain ⟨-, hsame⟩ | ⟨-, m, hm, hl, hupdate⟩ := core.step_cases inp
  · rw [hsame]
    exact hinv
  · unfold LatchInv at hinv ⊢
    rw [← hm, ← hl] at hinv
    rw [hupdate]
    exact StateMachine.update_latchHolds hinv

theorem stopInput_of_seenKill {m : StateMachine} {e : ControllerEvent F} (hkill : SeenKill e) :
    StopInput m (e.pre.safetyInputs e.label.1) := by
  obtain ⟨hhost | ⟨hrc, hrec⟩, hseen⟩ := hkill
  · exact .inr (.inl hhost)
  rcases hseen with hseen | hhost
  · refine .inr (.inr (.inl ⟨hrc, hseen, ?_⟩))
    rintro ⟨hcovered, -⟩
    exact nomatch hrec.symm.trans hcovered
  · exact .inr (.inl hhost)

theorem latched_of_seenKill {e : ControllerEvent F} (hinv : LatchInv e.pre) (hkill : SeenKill e)
    (hv : Sampled e.label.1) : Latched (e.pre.step e.label.1).1 := by
  obtain ⟨hno, -⟩ | ⟨-, m, hm, hl, hupdate⟩ := e.pre.step_cases e.label.1
  · exact absurd hv hno
  · unfold LatchInv at hinv
    rw [← hm, ← hl] at hinv
    unfold Latched
    rw [hupdate]
    exact StateMachine.update_of_stopInput hinv (stopInput_of_seenKill hkill)

theorem Latched.step (hinv : LatchInv core) (hlatched : Latched core)
    (ha : Sampled inp → inp.intent.rc.armed = true) : Latched (core.step inp).1 := by
  obtain ⟨-, hsame⟩ | ⟨hv, m, hm, hl, hupdate⟩ := core.step_cases inp
  · rw [hsame]
    exact hlatched
  · unfold LatchInv at hinv
    unfold Latched at hlatched ⊢
    rw [← hm, ← hl] at hinv hlatched
    rw [hupdate]
    exact StateMachine.update_blocked hinv (ha hv) hlatched.1 hlatched.2

theorem step_operational (hs : isOperational (core.step inp).1.state_machine.state = true) :
    (Sampled inp ∧ inp.intent.rc.armed = true) ∨
      (¬ Sampled inp ∧ isOperational core.state_machine.state = true) := by
  obtain ⟨hno, hsame⟩ | ⟨hv, m, -, -, hupdate⟩ := core.step_cases inp
  · rw [hsame] at hs
    exact .inr ⟨hno, hs⟩
  · rw [hupdate] at hs
    exact .inl ⟨hv, StateMachine.update_operational hs⟩

theorem step_from_operational (hstate : rcOrJetson (core.step inp).2.safety_state = true)
    (hgate : (core.step inp).2.motion_gate = true) :
    isOperational core.state_machine.state = true := by
  obtain ⟨hv, hsame⟩ := core.step_decision inp hgate
  obtain ⟨m, hm, -, hupdate⟩ := core.decided_state inp
  have hdecided : (core.step inp).2.safety_state =
      (m.update (core.safetyInputs inp) inp.time.now_ms).state := by
    rw [hsame.1, ← hupdate]
    rfl
  rw [hdecided] at hstate
  rw [← hm]
  obtain ⟨-, hfrom | ⟨hfrom, -⟩⟩ :=
    StateMachine.update_eligible (eligible_of_rcOrJetson hstate)
  · exact StateMachine.isOperational_of_eligible hfrom
  · rw [hfrom]
    rfl

end ControllerCore

open ControllerCore (LatchInv Latched)

variable {core₀ core : ControllerCore F} {h : List (ControllerEvent F)}

theorem ControllerRun.latchInv (run : ControllerRun core₀ h core) : LatchInv core := by
  refine run.invariant LatchInv (fun _ => rfl) ?_
  rintro core ⟨inp, command⟩ core' hinv hstep
  have hcore : (core.step inp).1 = core' := congrArg Prod.fst hstep
  rw [← hcore]
  exact hinv.step

/-- From a sampled kill on, the latch is set until the switch is seen down, and the robot is operational
only after it has then been seen up. -/
theorem latched_or_rearmed {e : ControllerEvent F} {between earlier : List (ControllerEvent F)}
    (run : ControllerRun core₀ (between ++ e :: earlier) core) (hkill : SeenKill e)
    (hv : Sampled e.label.1) :
    Latched core ∨
      (Once (fun e => Sampled e.label.1 ∧ e.label.1.intent.rc.armed = false) between ∧
        (isOperational core.state_machine.state = true → Rearmed Sampled between)) := by
  induction between generalizing core with
  | nil =>
    obtain ⟨hpost, hstep, hrun⟩ := run.of_cons
    have hcore : (e.pre.step e.label.1).1 = e.post := congrArg Prod.fst hstep
    left
    rw [← hpost, ← hcore]
    exact ControllerCore.latched_of_seenKill (ControllerRun.latchInv hrun) hkill hv
  | cons x between ih =>
    obtain ⟨hpost, hstep, hrun⟩ := run.of_cons
    have hcore : (x.pre.step x.label.1).1 = x.post := congrArg Prod.fst hstep
    rw [← hpost, ← hcore]
    rcases ih hrun with hlatched | ⟨hdown, hup⟩
    · by_cases ha : Sampled x.label.1 ∧ x.label.1.intent.rc.armed = false
      · refine .inr ⟨.now ha, fun hs => ?_⟩
        -- a released switch leaves nothing operational
        rcases ControllerCore.step_operational hs with ⟨-, harmed⟩ | ⟨hno, -⟩
        · rw [ha.2] at harmed
          cases harmed
        · exact absurd ha.1 hno
      · refine .inl (hlatched.step (ControllerRun.latchInv hrun) fun hs => ?_)
        by_contra harmed
        exact ha ⟨hs, eq_false_of_ne_true harmed⟩
    · refine .inr ⟨hdown.keep, fun hs => ?_⟩
      rcases ControllerCore.step_operational hs with harmed | ⟨-, hs'⟩
      · exact OnceThen.now harmed hdown
      · exact OnceThen.keep (hup hs')

/-- **Kill dominance.** In every run a killed step is shut down, and after a seen kill with a valid time
the gate stays closed to RC and Jetson until the switch has been seen down and then up. -/
theorem kill_dominance (run : ControllerRun core₀ h core) :
    (∀ e ∈ h, Killed e → ShutDown e.label.2) ∧ KillLatched Sampled h := by
  constructor
  · intro e he hkill
    obtain ⟨hstep, -⟩ := run.of_mem he
    have hcommand : (e.pre.step e.label.1).2 = e.label.2 := congrArg Prod.snd hstep
    rw [← hcommand]
    exact e.pre.step_shutDown e.label.1 hkill
  · rintro after x between e earlier rfl hkill hv hstate hgate
    obtain ⟨_, run'⟩ := run.of_append
    obtain ⟨-, hstep, hrun⟩ := run'.of_cons
    have hcommand : (x.pre.step x.label.1).2 = x.label.2 := congrArg Prod.snd hstep
    rw [← hcommand] at hstate hgate
    have hfrom := ControllerCore.step_from_operational hstate hgate
    rcases latched_or_rearmed hrun hkill hv with ⟨-, hstill⟩ | ⟨-, hup⟩
    · rw [hfrom] at hstill
      cases hstill
    · exact hup hfrom

noncomputable def estopStep (now_ms : UInt32) (valid : Bool) : ControllerStepInput ℝ :=
  let inp := readyStep now_ms true false {}
  { inp with
    intent := { inp.intent with host_estop := true }
    time := { inp.time with valid } }

/-- Release of the E-stop with the switch down, the switch up again, and the checks. -/
noncomputable def rearmingSteps : List (ControllerStepInput ℝ) :=
  [readyStep 80 false false {}, readyStep 90 false false {}, readyStep 100 true false {},
    readyStep 110 true false {}]

noncomputable def drivingCore : ControllerCore ℝ := (armedCore.step (readyStep 60 true false {})).1

noncomputable def rearmedCore : ControllerCore ℝ :=
  (record ControllerCore.step (drivingCore.step (estopStep 70 true)).1 [] rearmingSteps).1

/-- The E-stop shuts its step down, and the drive after it has a re-arming behind it. -/
theorem kill_dominance_rearmed : ShutDown (drivingCore.step (estopStep 70 true)).2 ∧
    (rearmedCore.step (readyStep 120 true false {})).2.motion_gate = true ∧
    Rearmed Sampled (record ControllerCore.step (drivingCore.step (estopStep 70 true)).1 []
      rearmingSteps).2 := by
  have run : ControllerRun ControllerCore.new _ armedCore :=
    run_record ControllerCore.step armingSteps .nil
  have hestop := (run.input (readyStep 60 true false {})).input (estopStep 70 true)
  have hdriven := (run_record ControllerCore.step rearmingSteps hestop).input
    (readyStep 120 true false {})
  have hgate : (rearmedCore.step (readyStep 120 true false {})).2.motion_gate = true := by
    decide
  have hstate : rcOrJetson (rearmedCore.step (readyStep 120 true false {})).2.safety_state =
      true := by decide
  refine ⟨(kill_dominance hestop).1 _ (List.mem_cons_self ..) (.inl rfl), hgate, ?_⟩
  exact (kill_dominance hdriven).2 [] _ (record ControllerCore.step _ [] rearmingSteps).2 _ _ rfl
    ⟨.inl rfl, .inr rfl⟩ rfl hstate hgate

/-- Without a valid time the E-stop is forgotten: the next step drives on, and the switch was up in
both. -/
theorem kill_forgotten_without_time : ∃ (core : ControllerCore ℝ) (x e : ControllerEvent ℝ)
    (earlier : List (ControllerEvent ℝ)),
    ControllerRun ControllerCore.new (x :: e :: earlier) core ∧ e.label.1 = estopStep 70 false ∧
      x.label.1 = readyStep 80 true false {} ∧
      ¬ KillLatched (fun _ => True) (x :: e :: earlier) := by
  have run : ControllerRun ControllerCore.new _ armedCore :=
    run_record ControllerCore.step armingSteps .nil
  have run' := ((run.input (readyStep 60 true false {})).input (estopStep 70 false)).input
    (readyStep 80 true false {})
  have hgate : ((drivingCore.step (estopStep 70 false)).1.step
      (readyStep 80 true false {})).2.motion_gate = true := by decide
  have hstate : rcOrJetson ((drivingCore.step (estopStep 70 false)).1.step
      (readyStep 80 true false {})).2.safety_state = true := by decide
  refine ⟨_, _, _, _, run', rfl, rfl, fun hlatched => ?_⟩
  -- nothing lies between the two steps
  obtain ⟨later, e, earlier, hnone, -⟩ :=
    hlatched [] _ [] _ _ rfl ⟨.inl rfl, .inr rfl⟩ trivial hstate hgate
  exact absurd hnone (by simp)

end HexapodVerified.Controller
