import HexapodVerified.Input.Proofs.FailsafeProofs

/-!
# The debounce of the arm switch

A release of the arm switch is only believed after it has lasted. The pending flag and its time are set
by the first low frame and dropped by every frame that is not low and by the failsafe, so they stand for
an unbroken stretch of low frames.
-/

namespace HexapodVerified.Input

open PastTime Transition

variable {F : Type}

namespace ArmSwitch

variable {s : ArmSwitch} {kill level : Bool} {now_ms : UInt32}

theorem read_turns_on (hs : s.arm_request = false)
    (hon : (s.read kill level now_ms).arm_request = true) : kill = false ∧ level = true := by
  unfold read at hon
  cases kill with
  | true => cases hon
  | false =>
    cases level with
    | true => exact ⟨rfl, rfl⟩
    | false =>
      rw [if_neg (by decide), if_neg (by decide), if_neg (by simp [hs])] at hon
      exact absurd hon (by simp [hs])

theorem read_turns_off (hs : s.arm_request = true)
    (hoff : (s.read kill level now_ms).arm_request = false) (hkill : kill = false) :
    level = false ∧ s.release_pending = true ∧
      kArmReleaseDebounceMs ≤ now_ms - s.release_since_ms := by
  unfold read at hoff
  subst hkill
  cases level with
  | true => cases hoff
  | false =>
    rw [if_neg (by decide), if_neg (by decide), if_pos hs] at hoff
    by_cases hpending : s.release_pending = true
    · rw [if_neg (by simp [hpending])] at hoff
      split_ifs at hoff with hlong
      · exact ⟨rfl, hpending, hlong⟩
      · exact absurd hoff (by simp [hs])
    · rw [if_pos (by simp [hpending])] at hoff
      exact absurd hoff (by simp [hs])

theorem read_pending (hp : (s.read kill level now_ms).release_pending = true) :
    kill = false ∧ level = false ∧
      ((s.read kill level now_ms).release_since_ms = now_ms ∨
        s.release_pending = true ∧
          (s.read kill level now_ms).release_since_ms = s.release_since_ms) := by
  unfold read at hp ⊢
  cases kill with
  | true => cases hp
  | false =>
    cases level with
    | true => cases hp
    | false =>
      refine ⟨rfl, rfl, ?_⟩
      rw [if_neg (by decide), if_neg (by decide)] at hp ⊢
      split_ifs at hp ⊢ with hreq hfirst hlong
      · exact .inl rfl
      · exact .inr ⟨hp, rfl⟩

end ArmSwitch

namespace ControllerBridge

section Calls

variable (b : ControllerBridge F)

theorem armSwitch_attemptProfileDetection (ch : Channels) :
    (b.attemptProfileDetection ch).armSwitch = b.armSwitch := by
  unfold attemptProfileDetection
  dsimp only
  split_ifs <;> rfl

variable [FloatExp F]

theorem armSwitch_decode (now_ms : UInt32) :
    (b.decode now_ms).armSwitch = b.armSwitch.read b.killLevel b.armLevel now_ms ∧
      (b.decode now_ms).killLevel = b.killLevel ∧ (b.decode now_ms).armLevel = b.armLevel := by
  have hcore := core_decode b now_ms
  generalize b.decode now_ms = b' at hcore
  have hcfg : b'.cfg = b.cfg := congrArg BridgeCore.cfg hcore
  have hraw : b'.raw = b.raw := congrArg BridgeCore.raw hcore
  exact ⟨congrArg BridgeCore.arm hcore, killLevel_congr hcfg hraw, armLevel_congr hcfg hraw⟩

theorem armSwitch_readCustom (ch : Channels) : (b.readCustom ch).armSwitch = b.armSwitch := by
  rw [← core_arm, core_readCustom]
  rfl

theorem armSwitch_readDirect (ch : Channels) : (b.readDirect ch).armSwitch = b.armSwitch := rfl

theorem armSwitch_update (ch : Channels) (link_up : Bool) (now_ms : UInt32) :
    (link_up = true ∧ (b.update ch link_up now_ms).link.ProfileLocked ∧
      (b.update ch link_up now_ms).armSwitch = b.armSwitch.read
        (b.update ch link_up now_ms).killLevel (b.update ch link_up now_ms).armLevel now_ms) ∨
    ∃ b' : ControllerBridge F, b.update ch link_up now_ms = b'.enterFailsafe := by
  cases link_up with
  | false => exact .inr ⟨_, update_link_down b ch now_ms⟩
  | true =>
    have hdetect := armSwitch_attemptProfileDetection b ch
    have hup := update_link_up b ch now_ms
    generalize b.attemptProfileDetection ch = b' at hdetect hup
    have hread (b'' : ControllerBridge F) (hlink : b''.link.ProfileLocked)
        (hswitch : b''.armSwitch = b'.armSwitch) (heq : b.update ch true now_ms = b''.decode now_ms) :
        (b.update ch true now_ms).link.ProfileLocked ∧
          (b.update ch true now_ms).armSwitch = b.armSwitch.read (b.update ch true now_ms).killLevel
            (b.update ch true now_ms).armLevel now_ms := by
      obtain ⟨harm, hkill, hlevel⟩ := armSwitch_decode b'' now_ms
      rw [heq, link_decode, harm, hkill, hlevel, hswitch, hdetect]
      exact ⟨hlink, rfl⟩
    rcases hup with ⟨-, heq⟩ | ⟨hlocked, hprofile, heq⟩ | ⟨hlocked, hprofile, heq⟩
    · exact .inr ⟨b', heq⟩
    · refine .inl ⟨rfl, hread (b'.readCustom ch) ?_ (armSwitch_readCustom b' ch) heq⟩
      rw [link_readCustom]
      exact ⟨hlocked, fun hno => nomatch hprofile.symm.trans hno⟩
    · refine .inl ⟨rfl, hread (b'.readDirect ch) ?_ (armSwitch_readDirect b' ch) heq⟩
      rw [link_readDirect]
      exact ⟨hlocked, fun hno => nomatch hprofile.symm.trans hno⟩

end Calls

variable [FloatExp F] {b : ControllerBridge F} {c : Call F}
  {h : List (Event (ControllerBridge F) (Call F))}

def KillFrame (e : Event (ControllerBridge F) (Call F)) : Prop :=
  Accepted e ∧ e.post.killLevel = true

def LowFrame (e : Event (ControllerBridge F) (Call F)) : Prop :=
  Accepted e ∧ e.post.killLevel = false ∧ e.post.armLevel = false

def StaysLow (e : Event (ControllerBridge F) (Call F)) : Prop :=
  e.post.cmd.failsafe = false ∧ (Accepted e → LowFrame e)

def FramesForward : List (Event (ControllerBridge F) (Call F)) → Prop :=
  Historically fun e h => ∀ now, AcceptedAt now e → ∀ x ∈ h, ∀ since, AcceptedAt since x → since ≤ now

/-- What a call does to the switch: a frame is read, or the failsafe is entered, or nothing. -/
theorem armSwitch_call (b : ControllerBridge F) (c : Call F) :
    (∃ now, AcceptedAt now ⟨b, c, b.call c⟩ ∧ (b.call c).cmd.failsafe = false ∧
      (b.call c).armSwitch = b.armSwitch.read (b.call c).killLevel (b.call c).armLevel
        (UInt32.ofNat now)) ∨
    (¬ Accepted ⟨b, c, b.call c⟩ ∧
      ((b.call c).cmd.failsafe = true ∧ (b.call c).cmd.arm_request = false ∧
        (b.call c).arm_release_pending = false ∨
      (b.call c).cmd.failsafe = b.cmd.failsafe ∧ (b.call c).armSwitch = b.armSwitch)) := by
  cases c with
  | update ch link_up now =>
    rcases armSwitch_update b ch link_up (UInt32.ofNat now) with ⟨rfl, hlocked, harm⟩ | ⟨b', hb'⟩
    · rcases call_cases b (.update ch true now) with ⟨now', l, haccepted, hlink⟩ | ⟨hno, -⟩
      · obtain ⟨ch', hlabel⟩ := haccepted.1
        cases hlabel
        exact .inl ⟨now, haccepted, congrArg LinkState.failsafe hlink, harm⟩
      · exact absurd ⟨now, ⟨ch, rfl⟩, hlocked⟩ hno
    · have hfailsafe : (b.call (.update ch link_up now)).cmd.failsafe = true := by
        unfold call
        dsimp only
        rw [hb']
        rfl
      have hoff : (b.call (.update ch link_up now)).cmd.arm_request = false ∧
          (b.call (.update ch link_up now)).arm_release_pending = false := by
        unfold call
        dsimp only
        rw [hb']
        exact ⟨rfl, rfl⟩
      refine .inr ⟨?_, .inl ⟨hfailsafe, hoff⟩⟩
      rintro ⟨now', hat⟩
      have hclear : (b.call (.update ch link_up now)).cmd.failsafe = false := by
        rcases call_cases b (.update ch link_up now) with ⟨now'', l, -, hlink⟩ | ⟨hno, -⟩
        · exact congrArg LinkState.failsafe hlink
        · exact absurd ⟨now', hat⟩ hno
      rw [hclear] at hfailsafe
      cases hfailsafe
  | evaluateFailsafe now timeout_ms =>
    refine .inr ⟨not_accepted_of_ne b nofun, ?_⟩
    unfold call evaluateFailsafe
    dsimp only
    split_ifs
    · exact .inl ⟨rfl, rfl, rfl⟩
    · exact .inl ⟨rfl, rfl, rfl⟩
    · exact .inr ⟨rfl, rfl⟩
  | setBindings cfg => exact .inr ⟨not_accepted_of_ne b nofun, .inr ⟨rfl, rfl⟩⟩
  | setCalibration calibration =>
    refine .inr ⟨not_accepted_of_ne b nofun, .inr ?_⟩
    unfold call setCalibration
    dsimp only
    split_ifs <;> exact ⟨rfl, rfl⟩
  | setInputFilterMode mode allowed => exact .inr ⟨not_accepted_of_ne b nofun, .inr ⟨rfl, rfl⟩⟩
  | setGaitTuneFractions step_height stride duty =>
    refine .inr ⟨not_accepted_of_ne b nofun, .inr ?_⟩
    unfold call setGaitTuneFractions
    dsimp only
    split_ifs <;> exact ⟨rfl, rfl⟩
  | reset => exact .inr ⟨not_accepted_of_ne b nofun, .inl ⟨rfl, rfl, rfl⟩⟩

/-- A pending release has an unbroken stretch of low frames behind it. -/
def PendingSince (h : List (Event (ControllerBridge F) (Call F))) (b : ControllerBridge F) : Prop :=
  b.arm_release_pending = true → b.cmd.failsafe = false ∧
    ∃ since, Within StaysLow (fun e _ => AcceptedAt since e) h ∧
      b.arm_release_since_ms = UInt32.ofNat since

theorem pendingSince_call (hb : PendingSince h b) (c : Call F) :
    PendingSince (⟨b, c, b.call c⟩ :: h) (b.call c) := by
  intro hpending
  rcases armSwitch_call b c with ⟨now, hat, hclear, harm⟩ | ⟨hno, ⟨-, -, hoff⟩ | ⟨hsame, harm⟩⟩
  · have hread : (b.armSwitch.read (b.call c).killLevel (b.call c).armLevel
        (UInt32.ofNat now)).release_pending = true := by
      rw [← harm]
      exact hpending
    obtain ⟨hkill, hlevel, hsince⟩ := ArmSwitch.read_pending hread
    rw [← harm] at hsince
    have hlow : StaysLow ⟨b, c, b.call c⟩ := ⟨hclear, fun hacc => ⟨hacc, hkill, hlevel⟩⟩
    refine ⟨hclear, ?_⟩
    rcases hsince with hnow | ⟨hbefore, hkept⟩
    · exact ⟨now, .now hlow hat, hnow⟩
    · obtain ⟨-, since, hwithin, hstamp⟩ := hb hbefore
      exact ⟨since, hwithin.keep hlow, hkept.trans hstamp⟩
  · rw [hoff] at hpending
    cases hpending
  · have hbefore : b.arm_release_pending = true :=
      (congrArg ArmSwitch.release_pending harm).symm.trans hpending
    obtain ⟨hclear, since, hwithin, hstamp⟩ := hb hbefore
    refine ⟨hsame.trans hclear, since, hwithin.keep ⟨hsame.trans hclear, fun h => absurd h hno⟩, ?_⟩
    exact (congrArg ArmSwitch.release_since_ms harm).trans hstamp

theorem pendingSince_of_run (run : Run (Deterministic call) construct h b) : PendingSince h b := by
  refine run.history_invariant PendingSince (fun hp => by cases hp) ?_
  rintro h b c _ - hb rfl
  exact pendingSince_call hb c

/-- An arm request ends at once with a frame that has the kill switch on and with the failsafe, and
otherwise only with a frame that ends an unbroken stretch of low frames of at least the debounce time;
it begins only with a frame that has the arm switch on and no kill. -/
theorem armRequest_debounced (run : Run (Deterministic call) construct h b) (c : Call F)
    (hclock : FramesForward (⟨b, c, b.call c⟩ :: h)) :
    (KillFrame ⟨b, c, b.call c⟩ → (b.call c).cmd.arm_request = false) ∧
    ((b.call c).cmd.failsafe = true → (b.call c).cmd.arm_request = false) ∧
    (b.cmd.arm_request = true → (b.call c).cmd.arm_request = false →
      ¬ KillFrame ⟨b, c, b.call c⟩ → (b.call c).cmd.failsafe = false →
      LowFrame ⟨b, c, b.call c⟩ ∧ ∃ now since, AcceptedAt now ⟨b, c, b.call c⟩ ∧
        Within StaysLow (fun e _ => AcceptedAt since e) (⟨b, c, b.call c⟩ :: h) ∧
        since + kArmReleaseDebounceMs.toNat ≤ now) ∧
    (b.cmd.arm_request = false → (b.call c).cmd.arm_request = true →
      Accepted ⟨b, c, b.call c⟩ ∧ (b.call c).armLevel = true ∧ (b.call c).killLevel = false) := by
  rcases armSwitch_call b c with ⟨now, hat, hclear, harm⟩ | ⟨hno, ⟨hset, hoff, -⟩ | ⟨hsame, harm⟩⟩
  · have hrequest : (b.call c).cmd.arm_request = (b.armSwitch.read (b.call c).killLevel
        (b.call c).armLevel (UInt32.ofNat now)).arm_request := congrArg ArmSwitch.arm_request harm
    refine ⟨fun hkill => ?_, fun hset => ?_, fun hon hoff hkill _ => ?_, fun hoff hon => ?_⟩
    · rw [hrequest, hkill.2]
      rfl
    · rw [hclear] at hset
      cases hset
    · have hnokill : (b.call c).killLevel = false := by
        by_contra hk
        exact hkill ⟨⟨now, hat⟩, by simpa using hk⟩
      rw [hrequest] at hoff
      obtain ⟨hlevel, hpending, hlong⟩ := ArmSwitch.read_turns_off hon hoff hnokill
      obtain ⟨-, since, hwithin, hstamp⟩ := pendingSince_of_run run hpending
      have hlow : LowFrame ⟨b, c, b.call c⟩ := ⟨⟨now, hat⟩, hnokill, hlevel⟩
      refine ⟨hlow, now, since, hat, hwithin.keep ⟨hclear, fun _ => hlow⟩, ?_⟩
      obtain ⟨later, e, earlier, rfl, hsince, -⟩ := within_iff.mp hwithin
      have hle : since ≤ now := hclock.1 now hat e (by simp) since hsince
      have hlong' : kArmReleaseDebounceMs ≤ UInt32.ofNat now - b.arm_release_since_ms := hlong
      rw [hstamp] at hlong'
      exact WrappedTime.le_of_elapsed hle hlong'
    · rw [hrequest] at hon
      obtain ⟨hkill, hlevel⟩ := ArmSwitch.read_turns_on hoff hon
      exact ⟨⟨now, hat⟩, hlevel, hkill⟩
  · refine ⟨fun _ => hoff, fun _ => hoff, fun _ _ _ hclear => ?_, fun _ hon => ?_⟩
    · rw [hset] at hclear
      cases hclear
    · rw [hoff] at hon
      cases hon
  · have hrequest : (b.call c).cmd.arm_request = b.cmd.arm_request :=
      congrArg ArmSwitch.arm_request harm
    refine ⟨fun hkill => absurd hkill.1 hno, fun hset => ?_, fun hon hoff _ _ => ?_,
      fun hoff hon => ?_⟩
    · rw [hrequest]
      exact (held_of_run run (hsame.symm.trans hset)).arm_request
    · rw [hrequest, hon] at hoff
      cases hoff
    · rw [hrequest, hoff] at hon
      cases hon

def frameTime (e : Event (ControllerBridge F) (Call F)) : Option Nat :=
  match e.label with
  | .update _ true now => some now
  | _ => none

omit [FloatExp F] in
theorem frameTime_of_acceptedAt {now : Nat} {e : Event (ControllerBridge F) (Call F)}
    (hat : AcceptedAt now e) : frameTime e = some now := by
  obtain ⟨⟨ch, hlabel⟩, -⟩ := hat
  unfold frameTime
  rw [hlabel]

omit [FloatExp F] in
theorem framesForward_of_times (hsorted : (h.filterMap frameTime).Pairwise (· ≥ ·)) :
    FramesForward h := by
  induction h with
  | nil => trivial
  | cons e h ih =>
    refine ⟨fun now hat x hx since hsince => ?_, ih (hsorted.sublist ?_)⟩
    · rw [List.filterMap_cons_some (frameTime_of_acceptedAt hat)] at hsorted
      refine (List.pairwise_cons.mp hsorted).1 since (List.mem_filterMap.mpr ⟨x, hx, ?_⟩)
      exact frameTime_of_acceptedAt hsince
    · exact (List.sublist_cons_self e h).filterMap _

/-- A frame with the arm switch off. -/
def lowFrame (now : Nat) : Call F := .update ((Vector.replicate _ 992).set 4 191) true now

/-- The arm switch is on in three frames, which lock the profile, and then off. The second frame with it
off comes before the wait is over. -/
def lettingGo : List (Call ℝ) :=
  [0, 20, 40].flatMap (rcCycle restingFrame) ++ [60, 140].flatMap (rcCycle lowFrame)

/-- The third frame begins a request, and a frame a hundred and fifty-five milliseconds after the switch
went off ends it. -/
theorem armRequest_debounced_released :
    (∃ h b, Run (Deterministic call) (construct (F := ℝ)) h b ∧
      Accepted ⟨b, restingFrame 40, b.call (restingFrame 40)⟩ ∧
      (b.call (restingFrame 40)).armLevel = true ∧ (b.call (restingFrame 40)).killLevel = false) ∧
    (∃ h b, Run (Deterministic call) (construct (F := ℝ)) h b ∧ b.cmd.arm_request = true ∧
      LowFrame ⟨b, lowFrame 215, b.call (lowFrame 215)⟩ ∧
      ∃ now since, AcceptedAt now ⟨b, lowFrame 215, b.call (lowFrame 215)⟩ ∧
        Within StaysLow (fun e _ => AcceptedAt since e) (⟨b, lowFrame 215, b.call (lowFrame 215)⟩ :: h) ∧
        since + kArmReleaseDebounceMs.toNat ≤ now) := by
  constructor
  · have hrun := run_execute call (lettingGo.take 4)
      (show Run (Deterministic call) (construct (F := ℝ)) [] construct from .nil)
    obtain ⟨haccepted, hlevel, hkill⟩ := (armRequest_debounced hrun (restingFrame 40)
      (framesForward_of_times (by decide +kernel))).2.2.2 (by decide +kernel) (by decide +kernel)
    exact ⟨_, _, hrun, haccepted, hlevel, hkill⟩
  · have hrun := run_execute call lettingGo
      (show Run (Deterministic call) (construct (F := ℝ)) [] construct from .nil)
    have hon : (execute call construct lettingGo).cmd.arm_request = true := by decide +kernel
    have hkill : ((execute call construct lettingGo).call (lowFrame 215)).killLevel = false := by
      decide +kernel
    obtain ⟨hlow, now, since, hat, hwithin, hlong⟩ := (armRequest_debounced hrun (lowFrame 215)
      (framesForward_of_times (by decide +kernel))).2.2.1 hon (by decide +kernel)
      (fun h => absurd h.2 (by dsimp only; rw [hkill]; decide)) (by decide +kernel)
    exact ⟨_, _, hrun, hon, hlow, now, since, hat, hwithin, hlong⟩

end ControllerBridge

end HexapodVerified.Input
