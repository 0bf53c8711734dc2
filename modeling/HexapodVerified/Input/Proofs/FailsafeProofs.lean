import HexapodVerified.Input.Proofs.BridgeUpdateProofs
import HexapodVerified.Lib.PastTime
import HexapodVerified.Lib.WrappedTime

/-!
# The failsafe of the controller bridge

What the failsafe rests on is the `link` of a bridge: only a frame that is accepted clears the failsafe,
and everything that `decode` does afterwards leaves the link as it is.
-/

namespace HexapodVerified.Input

open HexapodVerified.Config HexapodVerified.Gait FloatArith PastTime Transition

variable {F : Type}

namespace ControllerBridge

section Link

variable (b : ControllerBridge F) (now_ms : UInt32)

theorem cmd_attemptProfileDetection (ch : Channels) :
    (b.attemptProfileDetection ch).cmd = b.cmd := by
  unfold attemptProfileDetection
  dsimp only
  split_ifs <;> rfl

theorem cmd_dropStreaks : b.dropStreaks.cmd = b.cmd := by
  unfold dropStreaks
  split_ifs <;> rfl

variable [FloatExp F]

theorem link_readCustom (ch : Channels) : (b.readCustom ch).link = b.link := by
  rw [← core_link, core_readCustom]
  rfl

theorem link_readDirect (ch : Channels) : (b.readDirect ch).link = b.link := rfl

theorem link_decode : (b.decode now_ms).link = b.link.accept now_ms := by
  rw [← core_link, core_decode]

end Link

/-- The command of a bridge in failsafe: nobody is armed, and nothing moves. -/
structure SafeCommand [FloatExp F] (cmd : ControllerCommand F) : Prop where
  valid : cmd.valid = false
  arm_request : cmd.arm_request = false
  estop : cmd.estop = true
  twist : cmd.twist_vx = lit 0 ∧ cmd.twist_vy = lit 0 ∧ cmd.twist_wz = lit 0
  position : cmd.pose_x_mm = lit 0 ∧ cmd.pose_y_mm = lit 0 ∧ cmd.pose_z_mm = lit 0
  rotation : cmd.pose_roll = lit 0 ∧ cmd.pose_pitch = lit 0 ∧ cmd.pose_yaw = lit 0
  trick : cmd.trick = .none

variable [FloatExp F] (b : ControllerBridge F)

theorem safe_default : SafeCommand (.default : ControllerCommand F) :=
  ⟨rfl, rfl, rfl, ⟨rfl, rfl, rfl⟩, ⟨rfl, rfl, rfl⟩, ⟨rfl, rfl, rfl⟩, rfl⟩

theorem safe_enterFailsafe : SafeCommand b.enterFailsafe.cmd :=
  ⟨rfl, rfl, rfl, ⟨rfl, rfl, rfl⟩, ⟨rfl, rfl, rfl⟩, ⟨rfl, rfl, rfl⟩, rfl⟩

/-- What an update does: a frame is accepted when the link is up and a profile is locked, and else
the bridge enters the failsafe. -/
theorem update_cases (ch : Channels) (link_up : Bool) (now_ms : UInt32) :
    (link_up = true ∧ ∃ l : LinkState, l.ProfileLocked ∧
      (b.update ch link_up now_ms).link = l.accept now_ms) ∨
    ∃ b' : ControllerBridge F, b.update ch link_up now_ms = b'.enterFailsafe ∧ b'.cmd = b.cmd ∧
      ¬ (link_up = true ∧ b'.link.ProfileLocked) := by
  cases link_up with
  | false => exact .inr ⟨b.dropStreaks, rfl, cmd_dropStreaks b, fun h => nomatch h.1⟩
  | true =>
    have hcmd := cmd_attemptProfileDetection b ch
    have hup := update_link_up b ch now_ms
    generalize b.attemptProfileDetection ch = b' at hcmd hup
    rcases hup with ⟨hno, heq⟩ | ⟨hlocked, hprofile, heq⟩ | ⟨hlocked, hprofile, heq⟩
    · exact .inr ⟨b', heq, hcmd, fun h => hno h.2⟩
    · refine .inl ⟨rfl, b'.link, ⟨hlocked, fun hno => ?_⟩, ?_⟩
      · exact nomatch hprofile.symm.trans hno
      · rw [heq, link_decode, link_readCustom]
    · refine .inl ⟨rfl, b'.link, ⟨hlocked, fun hno => ?_⟩, ?_⟩
      · exact nomatch hprofile.symm.trans hno
      · rw [heq, link_decode, link_readDirect]

/-- A call of the bridge. The times count milliseconds from the start. -/
inductive Call (F : Type) where
  | update (ch : Channels) (link_up : Bool) (now : Nat)
  | evaluateFailsafe (now : Nat) (timeout_ms : UInt32)
  | setBindings (cfg : BindingConfig F)
  | setCalibration (calibration : RcInputCalibration)
  | setInputFilterMode (mode : InputFilterMode) (diagnostic_mode_allowed : Bool)
  | setGaitTuneFractions (step_height stride duty : F)
  | reset

/-- The bridge after a call. Its clock has 32 bits. -/
def call : Call F → ControllerBridge F
  | .update ch link_up now => b.update ch link_up (UInt32.ofNat now)
  | .evaluateFailsafe now timeout_ms => b.evaluateFailsafe (UInt32.ofNat now) timeout_ms
  | .setBindings cfg => b.setBindings cfg
  | .setCalibration calibration => b.setCalibration calibration
  | .setInputFilterMode mode diagnostic_mode_allowed =>
    (b.setInputFilterMode mode diagnostic_mode_allowed).2
  | .setGaitTuneFractions step_height stride duty => b.setGaitTuneFractions step_height stride duty
  | .reset => b.reset

def AcceptedAt (now : Nat) (e : Event (ControllerBridge F) (Call F)) : Prop :=
  (∃ ch, e.label = .update ch true now) ∧ e.post.link.ProfileLocked

def Accepted (e : Event (ControllerBridge F) (Call F)) : Prop := ∃ now, AcceptedAt now e

theorem not_accepted_of_ne (hne : ∀ ch now, c ≠ .update ch true now) : ¬ Accepted ⟨b, c, b.call c⟩ := by
  rintro ⟨now, ⟨ch, hlabel⟩, -⟩
  exact hne ch now hlabel

/-- What a call does: it accepts a frame, or enters the failsafe, or leaves the command alone, or
resets the bridge. -/
theorem call_cases (c : Call F) :
    (∃ now, ∃ l : LinkState, AcceptedAt now ⟨b, c, b.call c⟩ ∧
      (b.call c).link = l.accept (UInt32.ofNat now)) ∨
    (¬ Accepted ⟨b, c, b.call c⟩ ∧
      ((∃ b' : ControllerBridge F, b.call c = b'.enterFailsafe ∧ b'.cmd = b.cmd) ∨
        (b.call c).cmd = b.cmd ∨ (b.call c).cmd = .default)) := by
  cases c with
  | update ch link_up now =>
    rcases update_cases b ch link_up (UInt32.ofNat now) with
      ⟨rfl, l, hlocked, hlink⟩ | ⟨b', hb', hcmd, hno⟩
    · refine .inl ⟨now, l, ⟨⟨ch, rfl⟩, ?_⟩, hlink⟩
      show (b.update ch true (UInt32.ofNat now)).link.ProfileLocked
      rw [hlink]
      exact hlocked
    · refine .inr ⟨?_, .inl ⟨b', hb', hcmd⟩⟩
      rintro ⟨now', ⟨ch', hlabel⟩, hlocked⟩
      cases hlabel
      have hlocked' : (b.update ch true (UInt32.ofNat now)).link.ProfileLocked := hlocked
      rw [hb'] at hlocked'
      exact hno ⟨rfl, hlocked'⟩
  | evaluateFailsafe now timeout_ms =>
    refine .inr ⟨not_accepted_of_ne b nofun, ?_⟩
    unfold call evaluateFailsafe
    dsimp only
    split_ifs
    · exact .inl ⟨b, rfl, rfl⟩
    · exact .inl ⟨b, rfl, rfl⟩
    · exact .inr (.inl rfl)
  | setBindings cfg => exact .inr ⟨not_accepted_of_ne b nofun, .inr (.inl rfl)⟩
  | setCalibration calibration =>
    refine .inr ⟨not_accepted_of_ne b nofun, .inr (.inl ?_)⟩
    unfold call setCalibration
    dsimp only
    split_ifs
    · rfl
    · rfl
  | setInputFilterMode mode allowed => exact .inr ⟨not_accepted_of_ne b nofun, .inr (.inl rfl)⟩
  | setGaitTuneFractions step_height stride duty =>
    refine .inr ⟨not_accepted_of_ne b nofun, .inr (.inl ?_)⟩
    unfold call setGaitTuneFractions
    split_ifs
    · rfl
    · rfl
  | reset => exact .inr ⟨not_accepted_of_ne b nofun, .inr (.inr rfl)⟩

variable {b : ControllerBridge F} {h : List (Event (ControllerBridge F) (Call F))}

def FailsafeHeld (b : ControllerBridge F) : Prop := b.cmd.failsafe = true → SafeCommand b.cmd

theorem held_call (hb : b.FailsafeHeld) (c : Call F) : (b.call c).FailsafeHeld := by
  intro hfailsafe
  rcases call_cases b c with ⟨now, l, -, hlink⟩ | ⟨-, ⟨b', hb', -⟩ | hcmd | hcmd⟩
  · have hclear : (b.call c).cmd.failsafe = false := congrArg LinkState.failsafe hlink
    rw [hclear] at hfailsafe
    cases hfailsafe
  · rw [hb']
    exact safe_enterFailsafe b'
  · rw [hcmd] at hfailsafe ⊢
    exact hb hfailsafe
  · rw [hcmd]
    exact safe_default

theorem held_of_run (run : Run (Deterministic call) construct h b) : b.FailsafeHeld := by
  refine run.invariant FailsafeHeld (fun _ => safe_default) ?_
  rintro b c _ hb rfl
  exact held_call hb c

/-- The failsafe is only cleared by an update that accepts a frame. -/
theorem accepted_of_clear {c : Call F} (hb : b.cmd.failsafe = true)
    (hc : (b.call c).cmd.failsafe = false) : Accepted ⟨b, c, b.call c⟩ := by
  rcases call_cases b c with ⟨now, l, haccepted, -⟩ | ⟨-, ⟨b', hb', -⟩ | hcmd | hcmd⟩
  · exact ⟨now, haccepted⟩
  · rw [hb'] at hc
    cases hc
  · rw [hcmd, hb] at hc
    cases hc
  · rw [hcmd] at hc
    cases hc

def RemembersFrame (h : List (Event (ControllerBridge F) (Call F))) (b : ControllerBridge F) : Prop :=
  b.cmd.ever_seen = true →
    ∃ now, Latest Accepted (AcceptedAt now) h ∧ b.cmd.frame_ms = UInt32.ofNat now

theorem remembers_call (hb : RemembersFrame h b) (c : Call F) :
    RemembersFrame (⟨b, c, b.call c⟩ :: h) (b.call c) := by
  intro hseen
  rcases call_cases b c with ⟨now, l, haccepted, hlink⟩ | ⟨hno, hcmd⟩
  · refine ⟨now, (latest_cons_of ⟨now, haccepted⟩).mpr haccepted, ?_⟩
    exact congrArg LinkState.frame_ms hlink
  · have hsame : (b.call c).cmd.ever_seen = b.cmd.ever_seen ∧
        (b.call c).cmd.frame_ms = b.cmd.frame_ms := by
      rcases hcmd with ⟨b', hb', hcmd⟩ | hcmd | hcmd
      · rw [hb', ← hcmd]
        exact ⟨rfl, rfl⟩
      · rw [hcmd]
        exact ⟨rfl, rfl⟩
      · rw [hcmd] at hseen
        cases hseen
    obtain ⟨now, hlatest, hframe⟩ := hb (hsame.1 ▸ hseen)
    exact ⟨now, (latest_cons_of_not hno).mpr hlatest, hsame.2.trans hframe⟩

theorem remembers_of_run (run : Run (Deterministic call) construct h b) : RemembersFrame h b := by
  refine run.history_invariant RemembersFrame (fun hseen => by cases hseen) ?_
  rintro h b c _ - hb rfl
  exact remembers_call hb c

omit [FloatExp F] in
theorem acceptedAt_unique {now now' : Nat} {e : Event (ControllerBridge F) (Call F)}
    (he : AcceptedAt now e) (he' : AcceptedAt now' e) : now = now' := by
  obtain ⟨⟨ch, hlabel⟩, -⟩ := he
  obtain ⟨⟨ch', hlabel'⟩, -⟩ := he'
  rw [hlabel] at hlabel'
  cases hlabel'
  rfl

theorem failsafe_evaluate {now : Nat} {timeout_ms : UInt32}
    (hlate : b.cmd.ever_seen = true → timeout_ms < UInt32.ofNat now - b.cmd.frame_ms) :
    (b.call (.evaluateFailsafe now timeout_ms)).cmd.failsafe = true := by
  unfold call evaluateFailsafe
  dsimp only
  cases hseen : b.cmd.ever_seen with
  | false => rfl
  | true =>
    rw [if_neg (by simp), if_pos (hlate hseen)]
    rfl

/-- The failsafe holds: after every run a bridge in failsafe has the safe command, only an update
with the link up and a locked profile clears the failsafe, and a check of the timeout more than the
timeout after the last frame that was accepted, or when none was, leaves it on. -/
theorem failsafe_holds (run : Run (Deterministic call) construct h b) :
    (b.cmd.failsafe = true → SafeCommand b.cmd) ∧
    (∀ c, b.cmd.failsafe = true → (b.call c).cmd.failsafe = false →
      ∃ ch now, c = .update ch true now ∧ (b.call c).link.ProfileLocked) ∧
    (∀ now timeout_ms, ¬ Once Accepted h →
      (b.call (.evaluateFailsafe now timeout_ms)).cmd.failsafe = true) ∧
    ∀ last now timeout_ms, Latest Accepted (AcceptedAt last) h →
      last + timeout_ms.toNat < now → now < last + UInt32.size →
      (b.call (.evaluateFailsafe now timeout_ms)).cmd.failsafe = true := by
  have hremembers := remembers_of_run run
  refine ⟨held_of_run run, fun c hb hc => ?_, fun now timeout_ms hnone => ?_,
    fun last now timeout_ms hlatest hlate hwrap => ?_⟩
  · obtain ⟨now, ⟨ch, hlabel⟩, hlocked⟩ := accepted_of_clear hb hc
    exact ⟨ch, now, hlabel, hlocked⟩
  · refine failsafe_evaluate fun hseen => ?_
    obtain ⟨last, hlatest, -⟩ := hremembers hseen
    obtain ⟨e, he, haccepted, -⟩ := hlatest.once
    exact absurd ⟨e, he, haccepted⟩ hnone
  · refine failsafe_evaluate fun hseen => ?_
    obtain ⟨last', hlatest', hframe⟩ := hremembers hseen
    obtain ⟨e, -, -, he, he'⟩ := (hlatest.and hlatest').once
    obtain rfl := acceptedAt_unique he he'
    rw [hframe, UInt32.lt_iff_toNat_lt, WrappedTime.elapsed_exact (by omega) hwrap]
    omega

/-- A frame of a controller that nobody touches. Its arm switch is on. -/
def restingFrame (now : Nat) : Call F := .update (.replicate _ 992) true now

/-- A cycle of the receiver task that finds a frame: the frame is read and the timeout checked. -/
def rcCycle (frame : Nat → Call F) (now : Nat) : List (Call F) :=
  [frame now, .evaluateFailsafe now kDefaultFailsafeMs]

/-- A bridge that has seen two frames; the next one locks the profile. -/
noncomputable def twoFrames : ControllerBridge ℝ :=
  execute call construct [restingFrame 0, restingFrame 10]

theorem failsafe_holds_lostFrames :
    ∃ h b, Run (Deterministic call) (construct (F := ℝ)) h b ∧ b.cmd.failsafe = false ∧
      (b.call (.evaluateFailsafe 271 250)).cmd.failsafe = true := by
  have hrun := run_execute call [restingFrame 0, restingFrame 10]
    (show Run (Deterministic call) (construct (F := ℝ)) [] construct from .nil)
  have hrun' := hrun.step (i := restingFrame 20) rfl
  have hlast : AcceptedAt 20 ⟨twoFrames, restingFrame 20, twoFrames.call (restingFrame 20)⟩ :=
    ⟨⟨_, rfl⟩, by decide +kernel, by decide +kernel⟩
  refine ⟨_, _, hrun', by decide +kernel, (failsafe_holds hrun').2.2.2 20 271 250 ?_ ?_ ?_⟩
  · exact (latest_cons_of ⟨20, hlast⟩).mpr hlast
  · decide
  · decide

end ControllerBridge

end HexapodVerified.Input
