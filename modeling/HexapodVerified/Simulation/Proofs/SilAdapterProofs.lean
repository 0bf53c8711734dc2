import HexapodVerified.Controller.Proofs.AuthorityProofs
import HexapodVerified.Simulation.SilAdapter

/-!
# What the simulation node is fed and what it sends

The adapter passes on what is fresh, and a command is sent on only when it is whole. It never tells the core
that the servos are ready for arming.
-/

namespace HexapodVerified.Simulation

open HexapodVerified.Config HexapodVerified.Controller HexapodVerified.Gait HexapodVerified.Safety
open FloatArith PastTime Tables Transition

variable {F : Type} [FloatArith F]

/-- The states from which only passed arming checks, a maintenance lock or a passive request lead on. -/
def Parked : State → Bool
  | .boot | .configLoad | .disarmed | .armingChecks | .faultSoft | .faultHard | .estop => true
  | _ => false

theorem Parked.unarmed {s : State} (hs : Parked s = true) : idleDisarmEligible s = false ∧
    stateAllowsMotion s = false ∧ stateAllowsTorque s = false := by
  revert hs
  cases s <;> decide

/-- What the adapter leaves at its default. -/
structure Unattended (inp : ControllerStepInput F) : Prop where
  arming_ready : inp.state.dxl.arming_ready = false
  passive_requested : inp.intent.passive_requested = false
  lock_held : inp.intent.maintenance.lock_held = false

theorem update_parked {m : StateMachine} {inp : StateInputs} {now_ms : UInt32} (hm : Parked m.state = true)
    (hchecks : inp.arming_checks_pass = false) (hpassive : StateMachine.passiveEntry inp = false)
    (hmaintenance : StateMachine.maintenanceEntry inp = false) : Parked (m.update inp now_ms).state = true := by
  obtain ⟨s, clear, latch, hs, -, -, houtcome⟩ := m.update_cases inp now_ms
  rw [hs]
  cases houtcome with
  | hardFault | hardFaultCleared | hardFaultHeld | stopped | estopReleased | idleDisarmed | hostDisarmed => rfl
  | progressed _ _ _ _ hprogress =>
    cases hprogress with
    | booted | configWaiting | configLoaded | disarmedHeld | armingStarted | armingAbandoned | armingTimedOut
    | armingPending | maintenanceEnded | passiveEnded | softFaultCleared | softFaultHeld => rfl
    | passiveEntered _ _ hentry => cases hpassive.symm.trans hentry
    | maintenanceEntered _ _ _ hentry => cases hmaintenance.symm.trans hentry
    | armingPassed _ _ hpass => cases hchecks.symm.trans hpass
    | armed harmed => cases (Parked.unarmed hm).1.symm.trans harmed
    | maintenanceToPassive hstate | maintenanceHeld hstate | passiveHeld hstate =>
      rw [hstate] at hm
      cases hm

/-- A step on such an input leaves the core parked, and its command moves and holds nothing. -/
theorem step_parked {core : ControllerCore F} {inp : ControllerStepInput F} (hu : Unattended inp)
    (hcore : Parked core.state_machine.state = true) :
    Parked (core.step inp).1.state_machine.state = true ∧ (core.step inp).2.motion_gate = false ∧
      (core.step inp).2.allow_torque = false := by
  by_cases hvalid : inp.time.valid = true
  · obtain ⟨m, hm, -, hdecided⟩ := core.decided_state inp
    have hchecks : (core.safetyInputs inp).arming_checks_pass = false := by
      show (_ && inp.state.dxl.arming_ready && _) = false
      rw [hu.arming_ready, Bool.and_false, Bool.false_and]
    have hparked : Parked (core.decided inp).state_machine.state = true := by
      rw [hdecided]
      refine update_parked (hm ▸ hcore) hchecks ?_ ?_
      · show (inp.intent.passive_requested && _) = false
        rw [hu.passive_requested, Bool.false_and]
      · show (inp.intent.maintenance.lock_held && _) = false
        rw [hu.lock_held, Bool.false_and]
    obtain ⟨-, hmotion, htorque⟩ := Parked.unarmed hparked
    rw [core.step_of_valid inp hvalid]
    obtain ⟨-, -, -, -, hgate, -, hallow⟩ := (core.configured inp).toMotion.act_sameDecision
      (core.configured inp).config_cache.snapshot.robot inp core.previous_motion_gate
      core.previous_maintenance_authority (core.reported inp)
    refine ⟨hparked, hgate.trans ?_, hallow.trans ?_⟩
    · rw [core.reported_gate, hmotion, Bool.and_false, Bool.false_and]
    · show (_ && stateAllowsTorque (core.decided inp).state_machine.state) = false
      rw [htorque, Bool.and_false]
  · have hinvalid := eq_false_of_ne_true hvalid
    have hstep := core.step_of_invalid inp hinvalid
    refine ⟨hstep.1.symm ▸ hcore, hstep.2.1, ?_⟩
    rw [core.step_command_of_invalid inp hinvalid]

theorem get_invalidateContacts {snapshot : ContactSnapshot} {fault : Bool} (leg : Fin kNumFootSensors) :
    (invalidateContacts snapshot fault).feet.get leg = markContactUnavailable (snapshot.feet.get leg) fault :=
  Vector.getElem_map _ leg.isLt

namespace Ros2ControlSilAdapter

variable (adapter : Ros2ControlSilAdapter F) (now : Nat)

omit [FloatArith F] in
theorem max_one_mem {dt_ms : UInt32} (hdt : dt_ms ≤ 1000) : 1 ≤ max 1 dt_ms ∧ max 1 dt_ms ≤ 1000 := by
  show 1 ≤ (if 1 ≤ dt_ms then dt_ms else 1) ∧ (if 1 ≤ dt_ms then dt_ms else 1) ≤ 1000
  split_ifs with hone
  · exact ⟨hone, hdt⟩
  · decide

/-- The input is a sample of the adapter at the time. -/
structure Sampled (inp : ControllerStepInput F) : Prop where
  valid : adapter.feedback_valid = true
  fresh : millisecondsSince now adapter.feedback_received ≤ adapter.feedback_timeout_ms.toNat
  servos : adapter.config.servos.toList.mapM (servoStatus adapter.config adapter.feedback_positions_rad) =
    some inp.state.dxl.servos
  dt_ms : 1 ≤ inp.time.dt_ms ∧ inp.time.dt_ms ≤ 1000
  input : inp = adapter.sampledInput now inp.state.dxl.servos (elapsedMilliseconds now) inp.time.dt_ms

/-- A sample changes only what it keeps of the last one. -/
theorem sample_cases : ∃ last_sample_ms sampled_once,
    (adapter.sample now).1 = { adapter with last_sample_ms, sampled_once } ∧
    ∀ inp, (adapter.sample now).2 = some inp → adapter.Sampled now inp := by
  unfold sample
  by_cases hstale : (!adapter.feedback_valid ||
      decide (millisecondsSince now adapter.feedback_received > adapter.feedback_timeout_ms.toNat)) = true
  · rw [if_pos hstale]
    exact ⟨adapter.last_sample_ms, adapter.sampled_once, rfl, fun _ h => by cases h⟩
  rw [if_neg hstale]
  have hfresh := Bool.or_eq_false_iff.mp (eq_false_of_ne_true hstale)
  dsimp only
  by_cases hlong : (adapter.sampled_once &&
      decide (elapsedMilliseconds now - adapter.last_sample_ms > 1000)) = true
  · rw [if_pos hlong]
    exact ⟨adapter.last_sample_ms, false, rfl, fun _ h => by cases h⟩
  rw [if_neg hlong]
  have hdt : 1 ≤ (if adapter.sampled_once then max 1 (elapsedMilliseconds now - adapter.last_sample_ms) else 10) ∧
      (if adapter.sampled_once then max 1 (elapsedMilliseconds now - adapter.last_sample_ms) else 10) ≤ 1000 := by
    split_ifs with honce
    · rw [honce, Bool.true_and] at hlong
      exact max_one_mem (UInt32.not_lt.mp (of_decide_eq_false (eq_false_of_ne_true hlong)))
    · decide
  split
  · exact ⟨elapsedMilliseconds now, true, rfl, fun _ h => by cases h⟩
  · rename_i servos hservos
    refine ⟨elapsedMilliseconds now, true, rfl, fun inp h => ?_⟩
    cases h
    exact ⟨by simpa using hfresh.1, not_lt.mp (of_decide_eq_false hfresh.2), hservos, hdt, rfl⟩

omit [FloatArith F] in
theorem sampledContact_fresh {leg : Fin kNumFootSensors}
    (hstale : ((adapter.sampledContact now).feet.get leg).stale = false) :
    adapter.contacts.received_valid = true ∧
      millisecondsSince now adapter.contacts.received ≤ adapter.contact_timeout_ms.toNat ∧
      adapter.sampledContact now = adapter.contacts.snapshot := by
  unfold sampledContact at hstale ⊢
  split_ifs at hstale with hnone hold
  · rw [get_invalidateContacts] at hstale
    cases hstale
  · rw [get_invalidateContacts] at hstale
    cases hstale
  · rw [if_neg hnone, if_neg hold]
    exact ⟨by simpa using hnone, not_lt.mp hold, rfl⟩

/-- A command without an open gate is sent on to nobody. -/
theorem publish_of_closed {inp : ControllerStepInput F} {command : RobotCommand}
    (hgate : command.motion_gate = false) : (adapter.publish inp command).1 = adapter ∧
      (adapter.publish inp command).2.simulation_command = none := by
  unfold publish
  rw [hgate]
  exact ⟨rfl, rfl⟩

end Ros2ControlSilAdapter

namespace ControllerCoreNode

variable {node : ControllerCoreNode F} {feedback_timeout_ms contact_timeout_ms : Int} {h : List (NodeEvent F)}

/-- The core is parked and nothing has been sent on. -/
structure Resting (node : ControllerCoreNode F) : Prop where
  parked : Parked node.core.state_machine.state = true
  unsent : node.adapter.simulation_output_count = 0

/-- The reply of a step whose command neither moves nor holds the robot. -/
def Idles (reply : NodeReply F) : Prop :=
  ∀ inp published, reply = .stepped inp published → published.simulation_command = none ∧
    published.status.motion_gate = false ∧ published.status.allow_torque = false

omit [FloatArith F] in
theorem idles_returned {success : Bool} : Idles (.returned success : NodeReply F) := by
  intro inp published h
  cases h

/-- A cycle without a sample, or one that steps the core and publishes its command. -/
theorem stepOnce_cases (node : ControllerCoreNode F) (now : Nat) : ∃ last_sample_ms sampled_once,
    node.call (.stepOnce now) =
      ({ node with adapter := { node.adapter with last_sample_ms, sampled_once } }, .returned false) ∨
    ∃ inp, node.adapter.Sampled now inp ∧ node.call (.stepOnce now) =
      ({ node with
          core := (node.core.step inp).1
          adapter := (Ros2ControlSilAdapter.publish { node.adapter with last_sample_ms, sampled_once } inp
            (node.core.step inp).2).1 },
        .stepped inp (Ros2ControlSilAdapter.publish { node.adapter with last_sample_ms, sampled_once } inp
          (node.core.step inp).2).2) := by
  obtain ⟨last_sample_ms, sampled_once, hsample, hinput⟩ := node.adapter.sample_cases now
  unfold call
  dsimp only
  unfold stepOnce
  by_cases hactive : (!node.active) = true
  · rw [if_pos hactive]
    exact ⟨node.adapter.last_sample_ms, node.adapter.sampled_once, .inl rfl⟩
  rw [if_neg hactive]
  refine ⟨last_sample_ms, sampled_once, ?_⟩
  rcases hs : node.adapter.sample now with ⟨adapter, _ | inp⟩
  · rw [hs] at hsample
    exact .inl (by rw [← hsample])
  · rw [hs] at hsample hinput
    refine .inr ⟨inp, hinput inp rfl, ?_⟩
    rw [← hsample]

theorem resting_stepOnce (hrest : Resting node) (now : Nat) :
    Resting (node.call (.stepOnce now)).1 ∧ Idles (node.call (.stepOnce now)).2 := by
  obtain ⟨last_sample_ms, sampled_once, hcall | ⟨inp, hinp, hcall⟩⟩ := node.stepOnce_cases now
  · rw [hcall]
    exact ⟨⟨hrest.parked, hrest.unsent⟩, idles_returned⟩
  · have hunattended : Unattended inp := by
      rw [hinp.input]
      exact ⟨rfl, rfl, rfl⟩
    obtain ⟨hparked, hgate, htorque⟩ := step_parked hunattended hrest.parked
    rw [hcall, (Ros2ControlSilAdapter.publish_of_closed _ hgate).1]
    refine ⟨⟨hparked, hrest.unsent⟩, ?_⟩
    rintro _ _ ⟨⟩
    exact ⟨(Ros2ControlSilAdapter.publish_of_closed _ hgate).2, hgate, htorque⟩

theorem resting_call (hrest : Resting node) (c : NodeCall F) :
    Resting (node.call c).1 ∧ Idles (node.call c).2 := by
  cases c with
  | configure period_ms idle_disarm_ms =>
    unfold call
    dsimp only
    unfold onConfigure
    split_ifs
    · exact ⟨hrest, idles_returned⟩
    · exact ⟨hrest, idles_returned⟩
    · exact ⟨⟨rfl, hrest.unsent⟩, idles_returned⟩
  | activate =>
    unfold call
    unfold onActivate
    split_ifs
    · exact ⟨hrest, idles_returned⟩
    · exact ⟨⟨hrest.parked, hrest.unsent⟩, idles_returned⟩
  | deactivate => exact ⟨⟨hrest.parked, hrest.unsent⟩, idles_returned⟩
  | cleanup => exact ⟨⟨rfl, hrest.unsent⟩, idles_returned⟩
  | jointState now message =>
    unfold call
    dsimp only
    unfold Ros2ControlSilAdapter.acceptJointState
    cases message.convert <;> exact ⟨⟨hrest.parked, hrest.unsent⟩, idles_returned⟩
  | motionCommand now message =>
    unfold call
    dsimp only
    unfold Ros2ControlSilAdapter.acceptMotionCommand
    cases message.convert <;> exact ⟨⟨hrest.parked, hrest.unsent⟩, idles_returned⟩
  | safetyInput message => exact ⟨⟨hrest.parked, hrest.unsent⟩, idles_returned⟩
  | footContacts now message =>
    unfold call
    dsimp only
    unfold Ros2ControlSilAdapter.acceptFootContacts
    cases message.convert <;> exact ⟨⟨hrest.parked, hrest.unsent⟩, idles_returned⟩
  | stepOnce now => exact resting_stepOnce hrest now

/-- Whatever the simulation sends and however the node is driven, the robot never moves: the core asks for
servos that are ready for arming, and the adapter never says that they are. -/
theorem simulation_never_commanded (run : NodeRun feedback_timeout_ms contact_timeout_ms h node) :
    node.adapter.simulation_output_count = 0 ∧ ∀ e ∈ h, Idles e.label.2 := by
  have hall : Resting node ∧ ∀ e ∈ h, Idles e.label.2 := by
    refine run.history_invariant (fun h node => Resting node ∧ ∀ e ∈ h, Idles e.label.2)
      ⟨⟨rfl, rfl⟩, fun e he => absurd he List.not_mem_nil⟩ ?_
    rintro h node ⟨c, reply⟩ next - ⟨hrest, hidle⟩ hcall
    have hnext := resting_call hrest c
    rw [show node.call c = (next, reply) from hcall] at hnext
    exact ⟨hnext.1, List.forall_mem_cons.mpr ⟨hnext.2, hidle⟩⟩
  exact ⟨hall.1.unsent, hall.2⟩

/-- A node that is started and armed, has its feedback, is asked to walk and steps. -/
def walkCalls : List (NodeCall F) :=
  [.configure 10 0, .activate, .jointState 0 ⟨kJointNames.toList, .replicate kNumServos (lit 0)⟩,
    .stepOnce 10000000,
    .safetyInput { rc_seen := true, rc_kill := false, rc_armed := true, rc_autonomy_enabled := true },
    .motionCommand 15000000 ⟨1, 1, 0, 2, lit 0.05, lit 0.06, lit 0.025, lit 0.5, lit 0.6, lit 0.6, lit 0, lit 0,
      lit 0, lit 0, lit 0, lit 0, lit 0, lit 0⟩,
    .stepOnce 20000000, .stepOnce 30000000]

theorem simulation_never_commanded_walk :
    (record call (.new 250 250 : ControllerCoreNode ℝ) [] walkCalls).1.adapter.simulation_output_count = 0 ∧
      ∀ e ∈ (record call (.new 250 250 : ControllerCoreNode ℝ) [] walkCalls).2, Idles e.label.2 :=
  simulation_never_commanded (run_record call walkCalls .nil)

end ControllerCoreNode

/-- The joint states that the event puts into the mailbox: when, the message and the positions in it. -/
def feedbackIn (e : NodeEvent F) : Option (Nat × Msg.JointState F × Vector F kNumServos) :=
  match e.label.1 with
  | .jointState now message => message.convert.map fun positions => (now, message, positions)
  | _ => none

/-- The motion command that the event puts into the mailbox, with its intent and its validity. -/
def motionIn (e : NodeEvent F) : Option (Nat × MotionIntent F × Nat) :=
  match e.label.1 with
  | .motionCommand now message => message.convert.map fun converted => (now, converted)
  | _ => none

/-- The foot contacts that the event puts into the mailbox. -/
def contactsIn (e : NodeEvent F) : Option (Nat × Msg.FootContactArray × ContactSnapshot) :=
  match e.label.1 with
  | .footContacts now message => message.convert.map fun snapshot => (now, message, snapshot)
  | _ => none

def safetyIn (e : NodeEvent F) : Option Msg.SilSafetyInput :=
  match e.label.1 with
  | .safetyInput message => some message
  | _ => none

/-- The mailboxes of the adapter hold the latest messages that were accepted. -/
structure Mailboxes (feedback_timeout_ms contact_timeout_ms : Int) (h : List (NodeEvent F))
    (adapter : Ros2ControlSilAdapter F) : Prop where
  feedback : (if adapter.feedback_valid then some (adapter.feedback_received, adapter.feedback_positions_rad)
    else none) = (h.findSome? feedbackIn).map fun taken => (taken.1, taken.2.2)
  motion : (if adapter.motion_valid then some (adapter.motion_expires, adapter.motion) else none) =
    (h.findSome? motionIn).map fun taken => (taken.1 + taken.2.2 * 1000000, taken.2.1)
  contacts : (if adapter.contacts.received_valid then
      some (adapter.contacts.received, adapter.contacts.snapshot) else none) =
    (h.findSome? contactsIn).map fun taken => (taken.1, taken.2.2)
  safety : adapter.safety = (h.findSome? safetyIn).getD {}
  timeouts : adapter.feedback_timeout_ms = timeoutParameter feedback_timeout_ms ∧
    adapter.contact_timeout_ms = timeoutParameter contact_timeout_ms

section Sources

variable {feedback_timeout_ms contact_timeout_ms : Int} {h : List (NodeEvent F)}
  {node : ControllerCoreNode F} {adapter : Ros2ControlSilAdapter F}

theorem Ros2ControlSilAdapter.publish_mailboxes (hboxes : Mailboxes feedback_timeout_ms contact_timeout_ms h adapter)
    (inp : ControllerStepInput F) (command : RobotCommand) :
    Mailboxes feedback_timeout_ms contact_timeout_ms h (adapter.publish inp command).1 := by
  unfold publish
  dsimp only
  split_ifs
  · exact ⟨hboxes.feedback, hboxes.motion, hboxes.contacts, hboxes.safety, hboxes.timeouts⟩
  · exact hboxes

theorem mailboxes_call (hboxes : Mailboxes feedback_timeout_ms contact_timeout_ms h node.adapter) (c : NodeCall F) :
    Mailboxes feedback_timeout_ms contact_timeout_ms (⟨node, (c, (node.call c).2), (node.call c).1⟩ :: h)
      (node.call c).1.adapter := by
  obtain ⟨hfeedback, hmotion, hcontacts, hsafety, htimeouts⟩ := hboxes
  cases c with
  | configure period_ms idle_disarm_ms =>
    have hadapter : (node.call (.configure period_ms idle_disarm_ms)).1.adapter = node.adapter := by
      unfold ControllerCoreNode.call
      dsimp only
      unfold ControllerCoreNode.onConfigure
      split_ifs <;> rfl
    rw [hadapter]
    exact ⟨hfeedback, hmotion, hcontacts, hsafety, htimeouts⟩
  | activate =>
    have hadapter : (node.call .activate).1.adapter = node.adapter := by
      unfold ControllerCoreNode.call
      unfold ControllerCoreNode.onActivate
      split_ifs <;> rfl
    rw [hadapter]
    exact ⟨hfeedback, hmotion, hcontacts, hsafety, htimeouts⟩
  | deactivate => exact ⟨hfeedback, hmotion, hcontacts, hsafety, htimeouts⟩
  | cleanup => exact ⟨hfeedback, hmotion, hcontacts, hsafety, htimeouts⟩
  | jointState now message =>
    show Mailboxes _ _ _ (node.adapter.acceptJointState now message).1
    unfold Ros2ControlSilAdapter.acceptJointState
    cases hmessage : message.convert
    all_goals
      refine ⟨?_, hmotion, hcontacts, hsafety, htimeouts⟩
      rw [List.findSome?_cons]
      unfold feedbackIn
      dsimp only
      rw [hmessage]
    · exact hfeedback
    · rfl
  | motionCommand now message =>
    show Mailboxes _ _ _ (node.adapter.acceptMotionCommand now message).1
    unfold Ros2ControlSilAdapter.acceptMotionCommand
    cases hmessage : message.convert
    all_goals
      refine ⟨hfeedback, ?_, hcontacts, hsafety, htimeouts⟩
      rw [List.findSome?_cons]
      unfold motionIn
      dsimp only
      rw [hmessage]
    · exact hmotion
    · rfl
  | safetyInput message => exact ⟨hfeedback, hmotion, hcontacts, rfl, htimeouts⟩
  | footContacts now message =>
    show Mailboxes _ _ _ (node.adapter.acceptFootContacts now message).1
    unfold Ros2ControlSilAdapter.acceptFootContacts
    cases hmessage : message.convert
    all_goals
      refine ⟨hfeedback, hmotion, ?_, hsafety, htimeouts⟩
      rw [List.findSome?_cons]
      unfold contactsIn
      dsimp only
      rw [hmessage]
    · exact hcontacts
    · rfl
  | stepOnce now =>
    have hbefore : ∀ last_sample_ms sampled_once, Mailboxes feedback_timeout_ms contact_timeout_ms
        (⟨node, (.stepOnce now, (node.call (.stepOnce now)).2), (node.call (.stepOnce now)).1⟩ :: h)
        { node.adapter with last_sample_ms, sampled_once } := fun last_sample_ms sampled_once =>
      ⟨hfeedback, hmotion, hcontacts, hsafety, htimeouts⟩
    obtain ⟨last_sample_ms, sampled_once, hcall | ⟨inp, -, hcall⟩⟩ := node.stepOnce_cases now
    · rw [congrArg (fun r => r.1.adapter) hcall]
      exact hbefore last_sample_ms sampled_once
    · rw [congrArg (fun r => r.1.adapter) hcall]
      exact Ros2ControlSilAdapter.publish_mailboxes (hbefore last_sample_ms sampled_once) inp _

end Sources

namespace Msg

theorem name_of_jointIndex {name : String} {i : Fin kNumServos} (hindex : jointIndexForName name = some i) :
    kJointNames.get i = name := by
  have hname := List.find?_some hindex
  exact (eq_of_beq hname).symm

theorem JointState.mem_of_convert {message : JointState F} {positions : Vector F kNumServos}
    (hconvert : message.convert = some positions) (i : Fin kNumServos) :
    (kJointNames.get i, positions.get i) ∈ message.name.zip message.position := by
  unfold convert at hconvert
  by_cases hlength : message.name.length ≠ message.position.length
  · rw [if_pos hlength] at hconvert
    cases hconvert
  rw [if_neg hlength] at hconvert
  cases hfill : fill ((message.name.zip message.position).map JointState.slot) (.replicate kNumServos none) with
  | none =>
    rw [hfill] at hconvert
    cases hconvert
  | some found =>
    rw [hfill] at hconvert
    dsimp only at hconvert
    split_ifs at hconvert with hall
    cases hconvert
    have hentry := mem_of_fill (d := lit 0) hfill (by simpa only [Bool.not_eq_true', Bool.not_eq_false] using hall) i
    obtain ⟨⟨name, position⟩, hjoint, hslot⟩ := List.mem_map.mp hentry
    unfold JointState.slot at hslot
    cases hindex : jointIndexForName name with
    | none =>
      rw [hindex] at hslot
      cases hslot
    | some joint_index =>
      rw [hindex] at hslot
      split_ifs at hslot
      obtain ⟨rfl, hposition⟩ := Prod.mk.inj (Option.some.inj hslot)
      rw [name_of_jointIndex hindex, ← hposition]
      exact hjoint

theorem FootContact.slot_eq {source : FootContact} {leg : Fin kNumFootSensors} {foot : LegContactState}
    (hslot : source.slot = some (leg, foot)) : source.leg_index.toNat = leg.val ∧
      foot = setContactState { confidence := source.confidence } source.state := by
  unfold slot at hslot
  split_ifs at hslot
  cases hslot
  exact ⟨rfl, rfl⟩

/-- A foot that is neither stale nor faulty is reported, present and fresh. -/
theorem FootContactArray.of_convert {message : FootContactArray} {snapshot : ContactSnapshot}
    (hconvert : message.convert = some snapshot) {leg : Fin kNumFootSensors}
    (hstale : (snapshot.feet.get leg).stale = false) (hfault : (snapshot.feet.get leg).fault = false) :
    message.validity = VALIDITY_FRESH ∧ message.present_mask &&& (1 <<< UInt8.ofNat leg.val) ≠ 0 ∧
      ∃ source ∈ message.feet.toList, source.leg_index.toNat = leg.val ∧
        (snapshot.feet.get leg).confidence = source.confidence := by
  unfold convert at hconvert
  by_cases hmask : (decide (message.validity > VALIDITY_FAULT) || message.present_mask &&& kNoFeetMask != 0) = true
  · rw [if_pos hmask] at hconvert
    cases hconvert
  rw [if_neg hmask] at hconvert
  cases hfill : fill (message.feet.toList.map FootContact.slot) (.replicate kNumFootSensors none) with
  | none =>
    rw [hfill] at hconvert
    cases hconvert
  | some found =>
    rw [hfill] at hconvert
    dsimp only at hconvert
    split_ifs at hconvert with hall hvalidity
    · cases hconvert
      rw [get_invalidateContacts] at hstale hfault
      cases hf : message.validity == VALIDITY_FAULT
      · rw [hf] at hstale
        cases hstale
      · rw [hf] at hfault
        cases hfault
    · cases hconvert
      rw [get_ofFn] at hstale hfault ⊢
      split_ifs at hstale with hpresent
      · cases hstale
      rw [if_neg hpresent] at hfault ⊢
      have hentry := mem_of_fill (d := {}) hfill (by simpa only [Bool.not_eq_true', Bool.not_eq_false] using hall) leg
      obtain ⟨source, hsource, hslot⟩ := List.mem_map.mp hentry
      obtain ⟨hleg, hfoot⟩ := FootContact.slot_eq hslot
      rw [hfoot] at hstale hfault ⊢
      refine ⟨not_not.mp hvalidity, hpresent, source, hsource, hleg, ?_⟩
      unfold setContactState at hstale hfault ⊢
      dsimp only at hstale hfault ⊢
      rw [hstale, hfault]
      rfl

theorem MotionCommand.validity_le {message : MotionCommand F} {motion : MotionIntent F} {validity : Nat}
    (hconvert : message.convert = some (motion, validity)) :
    validity ≤ 1000 ∧ (validity : Int) ≤ message.requestedMs := by
  unfold convert at hconvert
  split_ifs at hconvert with hgait hpositive
  cases hconvert
  have hle : (0 : Int) ≤ min message.requestedMs kMaximumMotionValidityMs := by
    unfold kMaximumMotionValidityMs
    omega
  unfold kMaximumMotionValidityMs at hle ⊢
  omega

end Msg

/-- The safety message that an input passes on. -/
def passedSafety (inp : ControllerStepInput F) : Msg.SilSafetyInput where
  rc_seen := inp.intent.rc.ever_seen
  rc_kill := inp.intent.rc.kill
  rc_armed := inp.intent.rc.armed
  rc_autonomy_enabled := inp.intent.rc.autonomy_enabled
  host_estop := inp.intent.host_estop
  battery_valid := inp.state.battery.valid
  battery_millivolts := inp.state.battery.millivolts
  watchdog_fault := inp.state.watchdog_fault
  dxl_hard_fault := inp.state.dxl.hard_fault
  foot_contact_enabled := inp.intent.features.foot_contact_enabled

/-- Where the parts of an input come from: each from the latest message of its kind that was accepted, and
only while this message is fresh. -/
structure Sourced (feedback_timeout_ms contact_timeout_ms : Int) (earlier : List (NodeEvent F)) (now : Nat)
    (inp : ControllerStepInput F) : Prop where
  feedback : ∃ received message positions, earlier.findSome? feedbackIn = some (received, message, positions) ∧
    millisecondsSince now received ≤ (timeoutParameter feedback_timeout_ms).toNat ∧
    (∀ i, (kJointNames.get i, positions.get i) ∈ message.name.zip message.position) ∧
    inp.config.robot.servos.toList.mapM (servoStatus inp.config.robot positions) = some inp.state.dxl.servos
  motion : inp.intent.jetson_heartbeat_received = true → ∃ received validity,
    earlier.findSome? motionIn = some (received, inp.intent.motion, validity) ∧ validity ≤ 1000 ∧
      now ≤ received + validity * 1000000
  no_motion : inp.intent.jetson_heartbeat_received = false → inp.intent.motion = .default
  contacts : ∀ leg, (inp.state.contact.feet.get leg).stale = false →
    (inp.state.contact.feet.get leg).fault = false → ∃ received message snapshot,
      earlier.findSome? contactsIn = some (received, message, snapshot) ∧
      millisecondsSince now received ≤ (timeoutParameter contact_timeout_ms).toNat ∧
      message.validity = Msg.VALIDITY_FRESH ∧ message.present_mask &&& (1 <<< UInt8.ofNat leg.val) ≠ 0 ∧
      ∃ source ∈ message.feet.toList, source.leg_index.toNat = leg.val ∧
        (inp.state.contact.feet.get leg).confidence = source.confidence
  safety : passedSafety inp = (earlier.findSome? safetyIn).getD {}
  time : inp.time.valid = true ∧ 1 ≤ inp.time.dt_ms ∧ inp.time.dt_ms ≤ 1000

/-- If the event is a step of the core, its input has its sources in what came before. -/
def StepSourced (feedback_timeout_ms contact_timeout_ms : Int) (e : NodeEvent F) (earlier : List (NodeEvent F)) :
    Prop :=
  ∀ now inp published, e.label = (.stepOnce now, .stepped inp published) →
    Sourced feedback_timeout_ms contact_timeout_ms earlier now inp

section Sampling

variable {feedback_timeout_ms contact_timeout_ms : Int} {h earlier : List (NodeEvent F)}
  {node : ControllerCoreNode F} {adapter : Ros2ControlSilAdapter F} {now : Nat} {inp : ControllerStepInput F}

theorem convert_of_feedbackIn {received : Nat} {message : Msg.JointState F} {positions : Vector F kNumServos}
    (hin : earlier.findSome? feedbackIn = some (received, message, positions)) :
    message.convert = some positions := by
  obtain ⟨e, -, he⟩ := List.exists_of_findSome?_eq_some hin
  unfold feedbackIn at he
  split at he
  · obtain ⟨converted, hconverted, heq⟩ := Option.map_eq_some_iff.mp he
    cases heq
    exact hconverted
  · cases he

theorem convert_of_motionIn {received validity : Nat} {motion : MotionIntent F}
    (hin : earlier.findSome? motionIn = some (received, motion, validity)) :
    ∃ message : Msg.MotionCommand F, message.convert = some (motion, validity) := by
  obtain ⟨e, -, he⟩ := List.exists_of_findSome?_eq_some hin
  unfold motionIn at he
  split at he
  · obtain ⟨converted, hconverted, heq⟩ := Option.map_eq_some_iff.mp he
    cases heq
    exact ⟨_, hconverted⟩
  · cases he

omit [FloatArith F] in
theorem convert_of_contactsIn {received : Nat} {message : Msg.FootContactArray} {snapshot : ContactSnapshot}
    (hin : earlier.findSome? contactsIn = some (received, message, snapshot)) :
    message.convert = some snapshot := by
  obtain ⟨e, -, he⟩ := List.exists_of_findSome?_eq_some hin
  unfold contactsIn at he
  split at he
  · obtain ⟨converted, hconverted, heq⟩ := Option.map_eq_some_iff.mp he
    cases heq
    exact hconverted
  · cases he

/-- What the adapter samples is sourced when its mailboxes hold the latest messages. -/
theorem sourced_of_sampled (hboxes : Mailboxes feedback_timeout_ms contact_timeout_ms earlier adapter)
    (hsampled : adapter.Sampled now inp) : Sourced feedback_timeout_ms contact_timeout_ms earlier now inp := by
  obtain ⟨hvalid, hfresh, hservos, hdt, hinput⟩ := hsampled
  obtain ⟨hfeedback, hmotion, hcontacts, hsafety, htimeouts⟩ := hboxes
  have hconfig : inp.config.robot = adapter.config := congrArg (fun i => i.config.robot) hinput
  have hheartbeat := congrArg (fun i => i.intent.jetson_heartbeat_received) hinput
  have hintent := congrArg (fun i => i.intent.motion) hinput
  have hcontact : inp.state.contact = adapter.sampledContact now := congrArg (fun i => i.state.contact) hinput
  refine ⟨?_, ?_, ?_, ?_, ?_, congrArg (fun i => i.time.valid) hinput, hdt⟩
  · rw [if_pos hvalid] at hfeedback
    obtain ⟨⟨received, message, positions⟩, hin, heq⟩ := Option.map_eq_some_iff.mp hfeedback.symm
    obtain ⟨hreceived, hpositions⟩ := Prod.mk.inj heq
    dsimp only at hreceived hpositions
    refine ⟨received, message, positions, hin, ?_, Msg.JointState.mem_of_convert (convert_of_feedbackIn hin), ?_⟩
    · rw [hreceived, ← htimeouts.1]
      exact hfresh
    · rw [hpositions, hconfig]
      exact hservos
  · intro hheard
    obtain ⟨hvalid', hexpires⟩ := Bool.and_eq_true_iff.mp (hheartbeat.symm.trans hheard)
    rw [if_pos hvalid'] at hmotion
    obtain ⟨⟨received, motion, validity⟩, hin, heq⟩ := Option.map_eq_some_iff.mp hmotion.symm
    obtain ⟨hexpiry, hmotion'⟩ := Prod.mk.inj heq
    obtain ⟨message, hmessage⟩ := convert_of_motionIn hin
    have hintent' : inp.intent.motion = adapter.motion := hintent.trans (if_pos (hheartbeat.symm.trans hheard))
    refine ⟨received, validity, ?_, (Msg.MotionCommand.validity_le hmessage).1, ?_⟩
    · rw [hintent', ← hmotion']
      exact hin
    · exact (of_decide_eq_true hexpires).trans_eq hexpiry.symm
  · intro hsilent
    exact hintent.trans (if_neg (Bool.eq_false_iff.mp (hheartbeat.symm.trans hsilent)))
  · intro leg hstale hfault
    rw [hcontact] at hstale hfault ⊢
    obtain ⟨hreceived, hage, hsame⟩ := adapter.sampledContact_fresh now hstale
    rw [hsame] at hstale hfault ⊢
    rw [if_pos hreceived] at hcontacts
    obtain ⟨⟨received, message, snapshot⟩, hin, heq⟩ := Option.map_eq_some_iff.mp hcontacts.symm
    obtain ⟨hat, hsnapshot⟩ := Prod.mk.inj heq
    dsimp only at hat hsnapshot
    rw [← hsnapshot] at hstale hfault ⊢
    refine ⟨received, message, snapshot, hin, ?_,
      Msg.FootContactArray.of_convert (convert_of_contactsIn hin) hstale hfault⟩
    rw [hat, ← htimeouts.2]
    exact hage
  · rw [← hsafety]
    exact congrArg passedSafety hinput

/-- Whatever the messages and however the node is driven, the core steps on nothing that is stale. -/
theorem sample_sourced (run : NodeRun feedback_timeout_ms contact_timeout_ms h node) :
    Historically (StepSourced feedback_timeout_ms contact_timeout_ms) h := by
  have hall : Mailboxes feedback_timeout_ms contact_timeout_ms h node.adapter ∧
      Historically (StepSourced feedback_timeout_ms contact_timeout_ms) h := by
    refine run.history_invariant (fun h node => Mailboxes feedback_timeout_ms contact_timeout_ms h node.adapter ∧
      Historically (StepSourced feedback_timeout_ms contact_timeout_ms) h) ?_ ?_
    · exact ⟨⟨rfl, rfl, rfl, rfl, rfl, rfl⟩, trivial⟩
    · rintro h node ⟨c, reply⟩ next - ⟨hboxes, hbefore⟩ hcall
      have hcall' : node.call c = (next, reply) := hcall
      have hnext := mailboxes_call hboxes c
      rw [hcall'] at hnext
      refine ⟨hnext, fun now inp published hlabel => ?_, hbefore⟩
      obtain ⟨rfl, rfl⟩ := Prod.mk.inj hlabel
      obtain ⟨last_sample_ms, sampled_once, hstep | ⟨sampled, hsampled, hstep⟩⟩ := node.stepOnce_cases now
      · cases (congrArg Prod.snd (hcall'.symm.trans hstep))
      · have hreply := congrArg Prod.snd (hcall'.symm.trans hstep)
        injection hreply with hinp
        exact sourced_of_sampled hboxes (hinp ▸ hsampled)
  exact hall.2

theorem sample_sourced_walk : Historically (StepSourced 250 250)
    (record ControllerCoreNode.call (.new 250 250 : ControllerCoreNode ℝ) [] ControllerCoreNode.walkCalls).2 :=
  sample_sourced (run_record ControllerCoreNode.call ControllerCoreNode.walkCalls .nil)

end Sampling

section Publishing

variable (adapter : Ros2ControlSilAdapter F) (inp : ControllerStepInput F) (command : RobotCommand)

theorem goalSlot_keys : (command.goals.joints.map
    (Ros2ControlSilAdapter.goalSlot (F := F) inp.config.robot)).map (Option.map Prod.fst) =
      command.goals.joints.map goalIndex := by
  rw [List.map_map]
  refine List.map_congr_left fun goal _ => ?_
  unfold Ros2ControlSilAdapter.goalSlot
  cases h : goalIndex goal <;> simp [h]

/-- The robot of the simulation is sent a command when the gate is open and the goals name every joint once,
and then each joint is sent the angle of its goal. -/
theorem simulation_command_whole : ((adapter.publish inp command).2.simulation_command.isSome = true ↔
      command.motion_gate = true ∧ command.goal_valid = true ∧
        (command.goals.joints.map goalIndex).Perm ((List.finRange kNumServos).map some)) ∧
    ∀ positions, (adapter.publish inp command).2.simulation_command = some positions →
      ∀ goal ∈ command.goals.joints, ∀ i, goalIndex goal = some i →
        positions.get i = Dxl.tickToAngle inp.config.robot goal.leg goal.joint goal.tick := by
  have hkeys := goalSlot_keys inp command
  unfold Ros2ControlSilAdapter.publish
  dsimp only
  generalize hplaced : place (command.goals.joints.map (Ros2ControlSilAdapter.goalSlot (F := F) inp.config.robot))
    (command.goal_valid && command.goals.joints.length == kNumServos, .replicate kNumServos none) = placed
  obtain ⟨whole, found⟩ := placed
  -- the loop keeps its flag only when it passes over nothing
  have hwhole : whole = true → fill (command.goals.joints.map
      (Ros2ControlSilAdapter.goalSlot (F := F) inp.config.robot)) (.replicate kNumServos none) = some found := by
    rintro rfl
    cases hstart : command.goal_valid && command.goals.joints.length == kNumServos
    · rw [hstart] at hplaced
      cases (congrArg Prod.fst hplaced).symm.trans place_of_false
    · rw [hstart] at hplaced
      exact place_eq_iff.mp hplaced
  refine ⟨?_, ?_⟩
  · constructor
    · intro hsent
      split_ifs at hsent with hsend
      · simp only [Bool.and_eq_true] at hsend
        obtain ⟨⟨hgate, hvalid⟩, hflag, hall⟩ := hsend
        exact ⟨hgate, hvalid, hkeys ▸ fill_full_iff.mp ⟨found, hwhole hflag, all_isSome_iff.mp hall⟩⟩
      · cases hsent
    · rintro ⟨hgate, hvalid, hperm⟩
      obtain ⟨filled, hfill, hfull⟩ := fill_full_iff.mpr (hkeys ▸ hperm)
      have hlength : (command.goals.joints.length == kNumServos) = true := by
        have := hperm.length_eq
        simpa using this
      rw [hvalid, hlength] at hplaced
      cases hplaced.symm.trans (place_eq_iff.mpr hfill)
      rw [hgate, hvalid, all_isSome_iff.mpr hfull]
      rfl
  · intro positions hpositions goal hgoal i hi
    split_ifs at hpositions with hsend
    simp only [Bool.and_eq_true] at hsend
    cases hpositions
    have hentry : some (i, goal.tick, Dxl.tickToAngle (F := F) inp.config.robot goal.leg goal.joint goal.tick,
        goal.clamped) ∈ command.goals.joints.map (Ros2ControlSilAdapter.goalSlot inp.config.robot) := by
      refine List.mem_map.mpr ⟨goal, hgoal, ?_⟩
      unfold Ros2ControlSilAdapter.goalSlot
      rw [hi]
      rfl
    have hget := (fill_get (hwhole hsend.2.1)).mpr (.inr hentry)
    refine (Vector.getElem_map _ i.isLt).trans ?_
    rw [show found[i.val] = found.get i from rfl, hget]
    rfl

end Publishing

end HexapodVerified.Simulation
