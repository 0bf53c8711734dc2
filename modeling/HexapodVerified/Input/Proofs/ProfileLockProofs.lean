import HexapodVerified.Input.Proofs.FailsafeProofs

/-!
# The lock of the input profile

A profile is locked by three frames of one layout in a row. Only an update with the link down starts the
count over, and the receiver task never makes one: a gap in the link trips the failsafe, and the frames
before and after it are counted together. Where the second and third frame of a row come in time, the
row is one of an uninterrupted link.
-/

namespace HexapodVerified.Input

open PastTime Transition

variable {F : Type}

abbrev TimedFrame := Channels × Nat

def HasLayout (layout : InputProfile) (f : TimedFrame) : Prop :=
  ControllerBridge.classifyFirstFrame f.1 = layout

instance (layout : InputProfile) : DecidablePred (HasLayout layout) := fun f =>
  inferInstanceAs (Decidable (ControllerBridge.classifyFirstFrame f.1 = layout))

/-- The later frame comes within the timeout of the one before it. -/
def InTime (later before : TimedFrame) : Prop := later.2 ≤ before.2 + kDefaultFailsafeMs.toNat

instance : DecidableRel InTime := fun later before =>
  inferInstanceAs (Decidable (later.2 ≤ before.2 + kDefaultFailsafeMs.toNat))

/-- The latest frames are a full row of a layout, each in time after the one before. -/
def LockedOn (layout : InputProfile) (frames : List TimedFrame) : Prop :=
  ∃ row earlier, frames = row ++ earlier ∧ row.length = kProfileDetectFrames.toNat ∧
    (∀ f ∈ row, HasLayout layout f) ∧ row.IsChain InTime

def layoutRow (layout : InputProfile) (frames : List TimedFrame) : List TimedFrame :=
  frames.takeWhile (HasLayout layout ·)

section Rows

variable {layout : InputProfile} {f : TimedFrame} {frames : List TimedFrame}

theorem layoutRow_cons_of (hf : HasLayout layout f) :
    layoutRow layout (f :: frames) = f :: layoutRow layout frames :=
  List.takeWhile_cons_of_pos (decide_eq_true hf)

theorem layoutRow_cons_of_not (hf : ¬ HasLayout layout f) : layoutRow layout (f :: frames) = [] :=
  List.takeWhile_cons_of_neg (by simpa using hf)

theorem length_layoutRow : (layoutRow layout frames).length = streak (HasLayout layout) frames := rfl

theorem head?_layoutRow {g : TimedFrame} (hg : g ∈ (layoutRow layout frames).head?) :
    g ∈ frames.head? := by
  unfold layoutRow at hg
  rw [List.head?_takeWhile] at hg
  exact (Option.mem_filter_iff.mp hg).1

theorem lockedOn_of_row (hlen : (layoutRow layout frames).length = kProfileDetectFrames.toNat)
    (hchain : (layoutRow layout frames).IsChain InTime) : LockedOn layout frames := by
  refine ⟨layoutRow layout frames, frames.dropWhile (HasLayout layout ·), ?_, hlen, ?_, hchain⟩
  · exact List.takeWhile_append_dropWhile.symm
  · intro g hg
    have hp := List.mem_takeWhile_imp hg
    simpa using hp

end Rows

namespace ControllerBridge

def layoutStreak (b : ControllerBridge F) : InputProfile → UInt8
  | .unknown => 0
  | .customControllerChannelPack => b.custom_layout_streak
  | .tx16sMk3Direct => b.tx_direct_layout_streak

section Detection

variable {b : ControllerBridge F} (ch : Channels) {layout : InputProfile}

theorem classifyFirstFrame_ne_unknown : classifyFirstFrame ch ≠ .unknown := by
  unfold classifyFirstFrame
  split <;> decide

/-- Before the lock a frame counts for its layout, starts the other one over, and locks the profile when
it is the last that was needed. -/
theorem attemptProfileDetection_open (hopen : b.profile_locked = false) :
    (b.attemptProfileDetection ch).layoutStreak (classifyFirstFrame ch) =
        longerStreak (b.layoutStreak (classifyFirstFrame ch)) ∧
      (∀ layout ≠ classifyFirstFrame ch, (b.attemptProfileDetection ch).layoutStreak layout = 0) ∧
      ((b.attemptProfileDetection ch).profile_locked = true ↔
        longerStreak (b.layoutStreak (classifyFirstFrame ch)) ≥ kProfileDetectFrames) ∧
      ((b.attemptProfileDetection ch).profile_locked = true →
        (b.attemptProfileDetection ch).detected_profile = classifyFirstFrame ch) := by
  unfold attemptProfileDetection
  rw [if_neg (by simp [hopen])]
  cases hlayout : looksLikeCustomChannelPack ch with
  | true =>
    have hclass : classifyFirstFrame ch = .customControllerChannelPack := by
      unfold classifyFirstFrame
      rw [hlayout]
      rfl
    rw [if_pos rfl, hclass]
    dsimp only [layoutStreak]
    split_ifs with hfull
    · refine ⟨rfl, fun layout hne => ?_, iff_of_true rfl hfull, fun _ => rfl⟩
      cases layout with
      | unknown => rfl
      | customControllerChannelPack => exact absurd rfl hne
      | tx16sMk3Direct => rfl
    · refine ⟨rfl, fun layout hne => ?_, iff_of_false (by simp [hopen]) hfull,
        fun hlocked => absurd hlocked (by simp [hopen])⟩
      cases layout with
      | unknown => rfl
      | customControllerChannelPack => exact absurd rfl hne
      | tx16sMk3Direct => rfl
  | false =>
    have hclass : classifyFirstFrame ch = .tx16sMk3Direct := by
      unfold classifyFirstFrame
      rw [hlayout]
      rfl
    rw [if_neg (by decide), hclass]
    dsimp only [layoutStreak]
    split_ifs with hfull
    · refine ⟨rfl, fun layout hne => ?_, iff_of_true rfl hfull, fun _ => rfl⟩
      cases layout with
      | unknown => rfl
      | customControllerChannelPack => rfl
      | tx16sMk3Direct => exact absurd rfl hne
    · refine ⟨rfl, fun layout hne => ?_, iff_of_false (by simp [hopen]) hfull,
        fun hlocked => absurd hlocked (by simp [hopen])⟩
      cases layout with
      | unknown => rfl
      | customControllerChannelPack => rfl
      | tx16sMk3Direct => exact absurd rfl hne

end Detection

/-- What the counters say of the frames so far, before the lock. -/
structure Detecting (frames : List TimedFrame) (b : ControllerBridge F) : Prop where
  streak : ∀ layout ≠ .unknown,
    (b.layoutStreak layout).toNat = PastTime.streak (HasLayout layout) frames
  short : ∀ layout ≠ .unknown, PastTime.streak (HasLayout layout) frames < kProfileDetectFrames.toNat
  inTime : ∀ layout ≠ .unknown, (layoutRow layout frames).IsChain InTime

theorem detecting_nil {b : ControllerBridge F} (hzero : ∀ layout, b.layoutStreak layout = 0) :
    Detecting [] b where
  streak layout _ := by
    rw [hzero]
    rfl
  short _ _ := by
    show 0 < 3
    omega
  inTime _ _ := .nil

theorem longerStreak_toNat {s : UInt8} (hs : s.toNat < kProfileDetectFrames.toNat) :
    (longerStreak s).toNat = s.toNat + 1 := by
  have h1 : (1 : UInt8).toNat = 1 := rfl
  have h3 : kProfileDetectFrames.toNat = 3 := rfl
  unfold longerStreak
  rw [if_pos (UInt8.lt_iff_toNat_lt.mpr hs), UInt8.toNat_add, h1]
  exact Nat.mod_eq_of_lt (by omega)

/-- One frame more: the row of its layout is longer by one, and every other row is over. -/
theorem detecting_frame {b : ControllerBridge F} {frames : List TimedFrame} {ch : Channels} {now : Nat}
    (hb : Detecting frames b) (hopen : b.profile_locked = false)
    (hprompt : b.layoutStreak (classifyFirstFrame ch) ≠ 0 →
      ∀ f ∈ frames.head?, InTime (ch, now) f) :
    if (b.attemptProfileDetection ch).profile_locked = true then
      (b.attemptProfileDetection ch).detected_profile = classifyFirstFrame ch ∧
        LockedOn (classifyFirstFrame ch) ((ch, now) :: frames)
    else Detecting ((ch, now) :: frames) (b.attemptProfileDetection ch) := by
  obtain ⟨hown, hother, hlock, hdetected⟩ := attemptProfileDetection_open ch hopen
  have hclass := classifyFirstFrame_ne_unknown ch
  have hhas : HasLayout (classifyFirstFrame ch) (ch, now) := rfl
  have hnot : ∀ layout ≠ classifyFirstFrame ch, ¬ HasLayout layout (ch, now) := by
    intro layout hne h
    exact hne h.symm
  have hstreak := hb.streak _ hclass
  have hshort := hb.short _ hclass
  have hlonger := longerStreak_toNat (hstreak.trans_lt hshort)
  have hnew : (longerStreak (b.layoutStreak (classifyFirstFrame ch))).toNat =
      PastTime.streak (HasLayout (classifyFirstFrame ch)) ((ch, now) :: frames) := by
    rw [hlonger, streak_cons_of hhas, hstreak]
  have hchain : (layoutRow (classifyFirstFrame ch) ((ch, now) :: frames)).IsChain InTime := by
    rw [layoutRow_cons_of hhas]
    refine List.IsChain.cons (hb.inTime _ hclass) fun f hf => ?_
    refine hprompt (fun hzero => ?_) f (head?_layoutRow hf)
    -- a row that has a latest frame has been counted
    cases hrow : layoutRow (classifyFirstFrame ch) frames with
    | nil =>
      rw [hrow] at hf
      cases hf
    | cons g rest =>
      have hlen := hstreak
      rw [hzero, ← length_layoutRow, hrow] at hlen
      cases hlen
  split_ifs with hlocked
  · refine ⟨hdetected hlocked, lockedOn_of_row ?_ hchain⟩
    have hfull := UInt8.le_iff_toNat_le.mp (hlock.mp hlocked)
    rw [hnew] at hfull
    rw [length_layoutRow]
    refine le_antisymm ?_ hfull
    rw [streak_cons_of hhas]
    exact hshort
  · refine ⟨fun layout hne => ?_, fun layout hne => ?_, fun layout hne => ?_⟩
    · by_cases heq : layout = classifyFirstFrame ch
      · subst heq
        rw [hown, hnew]
      · rw [hother layout heq, streak_cons_of_not (hnot layout heq)]
        rfl
    · by_cases heq : layout = classifyFirstFrame ch
      · subst heq
        by_contra hfull
        refine hlocked (hlock.mpr (UInt8.le_iff_toNat_le.mpr ?_))
        rw [hnew]
        exact Nat.le_of_not_lt hfull
      · rw [streak_cons_of_not (hnot layout heq)]
        decide
    · by_cases heq : layout = classifyFirstFrame ch
      · subst heq
        exact hchain
      · rw [layoutRow_cons_of_not (hnot layout heq)]
        exact .nil

variable {b : ControllerBridge F} {c : Call F} {h : List (Event (ControllerBridge F) (Call F))}

/-- The frames received since the last reset or the last update with the link down, latest first. -/
def framesReceived : List (Event (ControllerBridge F) (Call F)) → List TimedFrame
  | [] => []
  | e :: h =>
    match e.label with
    | .reset => []
    | .update _ false _ => []
    | .update ch true now => (ch, now) :: framesReceived h
    | _ => framesReceived h

/-- A frame that would continue a row before the lock comes in time after the frame before it. -/
def RowsInTime : List (Event (ControllerBridge F) (Call F)) → Prop :=
  Historically fun e h => ∀ ch now, e.label = .update ch true now → e.pre.profile_locked = false →
    e.pre.layoutStreak (classifyFirstFrame ch) ≠ 0 → ∀ f ∈ (framesReceived h).head?,
      InTime (ch, now) f

/-- Before the lock the counters tell of the frames, and a command that is valid comes after it. -/
structure DetectionHeld (frames : List TimedFrame) (b : ControllerBridge F) : Prop where
  detecting : b.profile_locked = false → Detecting frames b
  valid : b.cmd.valid = true → b.profile_locked = true

/-- A call that touches neither the detection nor the validity of the command, but perhaps withdraws
it. -/
theorem DetectionHeld.same {frames : List TimedFrame} {b' : ControllerBridge F}
    (hb : DetectionHeld frames b) (hlocked : b'.profile_locked = b.profile_locked)
    (hstreak : ∀ layout, b'.layoutStreak layout = b.layoutStreak layout)
    (hvalid : b'.cmd.valid = true → b.cmd.valid = true) : DetectionHeld frames b' where
  detecting hopen := by
    have hbefore := hb.detecting (hlocked ▸ hopen)
    exact ⟨fun layout hne => (hstreak layout).symm ▸ hbefore.streak layout hne, hbefore.short,
      hbefore.inTime⟩
  valid hv := hlocked.trans (hb.valid (hvalid hv))

theorem detection_nil {b : ControllerBridge F} (hvalid : b.cmd.valid = false)
    (hzero : b.profile_locked = false → ∀ layout, b.layoutStreak layout = 0) : DetectionHeld [] b where
  detecting hopen := detecting_nil (hzero hopen)
  valid hv := absurd hv (by simp [hvalid])

variable [FloatExp F]

theorem update_open (hopen : b.profile_locked = false) (ch : Channels) (now_ms : UInt32) :
    (b.update ch true now_ms).profile_locked = (b.attemptProfileDetection ch).profile_locked ∧
      (b.update ch true now_ms).detected_profile =
        (b.attemptProfileDetection ch).detected_profile ∧
      ((b.attemptProfileDetection ch).profile_locked = false →
        (b.update ch true now_ms) = (b.attemptProfileDetection ch).enterFailsafe) := by
  obtain ⟨-, -, -, hdetected⟩ := attemptProfileDetection_open ch hopen
  rcases update_link_up b ch now_ms with ⟨-, heq⟩ | ⟨hlocked, -, heq⟩ | ⟨hlocked, -, heq⟩
  · rw [heq]
    exact ⟨rfl, rfl, fun _ => rfl⟩
  · have hlink : (b.update ch true now_ms).link =
        (b.attemptProfileDetection ch).link.accept now_ms := by
      rw [heq, link_decode, link_readCustom]
    exact ⟨congrArg LinkState.profile_locked hlink, congrArg LinkState.detected_profile hlink,
      fun hno => absurd hlocked (by simp [hno])⟩
  · have hlink : (b.update ch true now_ms).link =
        (b.attemptProfileDetection ch).link.accept now_ms := by
      rw [heq, link_decode, link_readDirect]
    exact ⟨congrArg LinkState.profile_locked hlink, congrArg LinkState.detected_profile hlink,
      fun hno => absurd hlocked (by simp [hno])⟩

theorem update_locked (hlocked : b.profile_locked = true) (ch : Channels) (link_up : Bool)
    (now_ms : UInt32) : (b.update ch link_up now_ms).profile_locked = true ∧
      (b.update ch link_up now_ms).detected_profile = b.detected_profile := by
  cases link_up with
  | false =>
    rw [update_link_down, dropStreaks_of_locked hlocked]
    exact ⟨hlocked, rfl⟩
  | true =>
    have hup := update_link_up b ch now_ms
    rw [attemptProfileDetection_of_locked hlocked] at hup
    rcases hup with ⟨-, heq⟩ | ⟨-, -, heq⟩ | ⟨-, -, heq⟩
    · rw [heq]
      exact ⟨hlocked, rfl⟩
    · have hlink : (b.update ch true now_ms).link = b.link.accept now_ms := by
        rw [heq, link_decode, link_readCustom]
      exact ⟨(congrArg LinkState.profile_locked hlink).trans hlocked,
        congrArg LinkState.detected_profile hlink⟩
    · have hlink : (b.update ch true now_ms).link = b.link.accept now_ms := by
        rw [heq, link_decode, link_readDirect]
      exact ⟨(congrArg LinkState.profile_locked hlink).trans hlocked,
        congrArg LinkState.detected_profile hlink⟩

/-- Only a reset releases the lock. -/
theorem call_locked (hlocked : b.profile_locked = true) (hreset : c ≠ .reset) :
    (b.call c).profile_locked = true ∧ (b.call c).detected_profile = b.detected_profile := by
  cases c with
  | update ch link_up now => exact update_locked hlocked ch link_up _
  | evaluateFailsafe now timeout_ms =>
    unfold call evaluateFailsafe
    dsimp only
    split_ifs <;> exact ⟨hlocked, rfl⟩
  | setBindings cfg => exact ⟨hlocked, rfl⟩
  | setCalibration calibration =>
    unfold call setCalibration
    dsimp only
    split_ifs <;> exact ⟨hlocked, rfl⟩
  | setInputFilterMode mode allowed => exact ⟨hlocked, rfl⟩
  | setGaitTuneFractions step_height stride duty =>
    unfold call setGaitTuneFractions
    split_ifs <;> exact ⟨hlocked, rfl⟩
  | reset => contradiction

theorem detection_frame {frames : List TimedFrame} {ch : Channels} {now : Nat}
    (hb : DetectionHeld frames b)
    (hprompt : b.profile_locked = false → b.layoutStreak (classifyFirstFrame ch) ≠ 0 →
      ∀ f ∈ frames.head?, InTime (ch, now) f) :
    DetectionHeld ((ch, now) :: frames) (b.call (.update ch true now)) ∧
      (b.profile_locked = false → (b.call (.update ch true now)).profile_locked = true →
        LockedOn (b.call (.update ch true now)).detected_profile ((ch, now) :: frames)) := by
  cases hopen : b.profile_locked with
  | true =>
    obtain ⟨hkept, -⟩ := update_locked hopen ch true (UInt32.ofNat now)
    exact ⟨⟨fun hno => absurd (hkept.symm.trans hno) (by decide), fun _ => hkept⟩, nofun⟩
  | false =>
    have hframe := detecting_frame (hb.detecting hopen) hopen (hprompt hopen)
    obtain ⟨hlock, hdetected, hfailsafe⟩ := update_open hopen ch (UInt32.ofNat now)
    cases hafter : (b.attemptProfileDetection ch).profile_locked with
    | true =>
      rw [if_pos hafter] at hframe
      rw [hafter] at hlock
      refine ⟨⟨fun hno => absurd (hlock.symm.trans hno) (by decide), fun _ => hlock⟩,
        fun _ _ => ?_⟩
      show LockedOn (b.update ch true (UInt32.ofNat now)).detected_profile ((ch, now) :: frames)
      rw [hdetected, hframe.1]
      exact hframe.2
    | false =>
      rw [if_neg (by simp [hafter])] at hframe
      have heq : b.call (.update ch true now) = (b.attemptProfileDetection ch).enterFailsafe :=
        hfailsafe hafter
      rw [heq]
      refine ⟨⟨fun _ => ⟨fun layout hne => ?_, hframe.short, hframe.inTime⟩, nofun⟩,
        fun _ hlocked => ?_⟩
      · rw [← hframe.streak layout hne]
        cases layout <;> rfl
      · exact nomatch hafter.symm.trans hlocked

theorem detection_call (hb : DetectionHeld (framesReceived h) b) (c : Call F)
    (hprompt : RowsInTime (⟨b, c, b.call c⟩ :: h)) :
    DetectionHeld (framesReceived (⟨b, c, b.call c⟩ :: h)) (b.call c) ∧
      (b.profile_locked = false → (b.call c).profile_locked = true →
        LockedOn (b.call c).detected_profile (framesReceived (⟨b, c, b.call c⟩ :: h))) := by
  have hlayout {b₁ b₂ : ControllerBridge F}
      (hcustom : b₁.custom_layout_streak = b₂.custom_layout_streak)
      (hdirect : b₁.tx_direct_layout_streak = b₂.tx_direct_layout_streak) (layout : InputProfile) :
      b₁.layoutStreak layout = b₂.layoutStreak layout := by
    cases layout with
    | unknown => rfl
    | customControllerChannelPack => exact hcustom
    | tx16sMk3Direct => exact hdirect
  have hquiet {b' : ControllerBridge F} (hlocked : b'.profile_locked = b.profile_locked)
      (hcustom : b'.custom_layout_streak = b.custom_layout_streak)
      (hdirect : b'.tx_direct_layout_streak = b.tx_direct_layout_streak)
      (hvalid : b'.cmd.valid = true → b.cmd.valid = true) :
      DetectionHeld (framesReceived h) b' ∧ (b.profile_locked = false → b'.profile_locked = true →
        LockedOn b'.detected_profile (framesReceived h)) :=
    ⟨hb.same hlocked (hlayout hcustom hdirect) hvalid,
      fun hopen hnow => absurd (hlocked.symm.trans hnow) (by simp [hopen])⟩
  cases c with
  | update ch link_up now =>
    cases link_up with
    | true => exact detection_frame hb (hprompt.1 ch now rfl)
    | false =>
      have hlocked : b.dropStreaks.profile_locked = b.profile_locked := profile_locked_dropStreaks
      refine ⟨detection_nil rfl fun hopen layout => ?_, fun hopen hnow => ?_⟩
      · have hbefore : b.profile_locked = false := hlocked.symm.trans hopen
        have hdrop : b.dropStreaks = { b with
            detected_profile := .unknown, custom_layout_streak := 0
            tx_direct_layout_streak := 0 } := if_neg (by simp [hbefore])
        show b.dropStreaks.enterFailsafe.layoutStreak layout = 0
        rw [hdrop]
        cases layout <;> rfl
      · exact absurd (hlocked.symm.trans hnow) (by simp [hopen])
  | evaluateFailsafe now timeout_ms =>
    show DetectionHeld (framesReceived h) (b.evaluateFailsafe (UInt32.ofNat now) timeout_ms) ∧ _
    unfold call evaluateFailsafe
    dsimp only
    split_ifs
    · exact hquiet rfl rfl rfl nofun
    · exact hquiet rfl rfl rfl nofun
    · exact hquiet rfl rfl rfl id
  | setBindings cfg => exact hquiet rfl rfl rfl id
  | setCalibration calibration =>
    show DetectionHeld (framesReceived h) (b.setCalibration calibration) ∧ _
    unfold call setCalibration
    dsimp only
    split_ifs
    · exact hquiet rfl rfl rfl id
    · exact hquiet rfl rfl rfl id
  | setInputFilterMode mode allowed => exact hquiet rfl rfl rfl id
  | setGaitTuneFractions step_height stride duty =>
    show DetectionHeld (framesReceived h) (b.setGaitTuneFractions step_height stride duty) ∧ _
    unfold call setGaitTuneFractions
    split_ifs
    · exact hquiet rfl rfl rfl id
    · exact hquiet rfl rfl rfl id
  | reset =>
    refine ⟨detection_nil rfl fun _ layout => ?_, nofun⟩
    cases layout <;> rfl

theorem detection_of_run (run : Run (Deterministic call) construct h b) (hprompt : RowsInTime h) :
    DetectionHeld (framesReceived h) b := by
  induction run with
  | nil =>
    refine detection_nil rfl fun _ layout => ?_
    cases layout <;> rfl
  | @step h b _ c run hstep ih =>
    obtain rfl := hstep
    exact (detection_call (ih hprompt.2) c hprompt).1

/-- As long as every frame that would continue a row before the lock comes in time: a profile is locked
by a full row of frames of its layout, each in time after the one before. A locked profile only changes
with a reset, and no command is valid before the lock. -/
theorem profile_locked_by_row (run : Run (Deterministic call) construct h b) (c : Call F)
    (hprompt : RowsInTime (⟨b, c, b.call c⟩ :: h)) :
    (b.profile_locked = false → (b.call c).profile_locked = true →
      LockedOn (b.call c).detected_profile (framesReceived (⟨b, c, b.call c⟩ :: h))) ∧
    (b.profile_locked = true → c ≠ .reset →
      (b.call c).profile_locked = true ∧ (b.call c).detected_profile = b.detected_profile) ∧
    (b.cmd.valid = true → b.profile_locked = true) := by
  have hb := detection_of_run run hprompt.2
  exact ⟨(detection_call hb c hprompt).2, call_locked, hb.valid⟩

/-- Three frames, ten milliseconds apart. -/
theorem profile_locked_by_row_resting : ∃ h b, Run (Deterministic call) (construct (F := ℝ)) h b ∧
    b.profile_locked = true ∧ LockedOn b.detected_profile (framesReceived h) := by
  have hrun := run_execute call ([0, 10].flatMap (rcCycle restingFrame))
    (show Run (Deterministic call) (construct (F := ℝ)) [] construct from .nil)
  have hlocked : ((execute call (construct (F := ℝ)) ([0, 10].flatMap (rcCycle restingFrame))).call
      (restingFrame 20)).profile_locked = true := by
    decide +kernel
  refine ⟨_, _, hrun.step (i := restingFrame 20) rfl, hlocked,
    (profile_locked_by_row hrun (restingFrame 20) ⟨?_, nofun, ?_, nofun, ?_, trivial⟩).1 (by decide) hlocked⟩
  · rintro ch now hlabel - - f hf
    cases hlabel
    cases hf
    decide
  · rintro ch now hlabel - - f hf
    cases hlabel
    cases hf
    decide
  · rintro ch now hlabel - - f hf
    cases hf

/-- Two frames, a gap of ten seconds in which the failsafe trips, and a third frame that locks the
profile. -/
theorem not_profile_locked_by_row :
    ¬ ∀ (h : List (Event (ControllerBridge ℝ) (Call ℝ))) b c, Run (Deterministic call) construct h b →
      b.profile_locked = false → (b.call c).profile_locked = true →
      LockedOn (b.call c).detected_profile (framesReceived (⟨b, c, b.call c⟩ :: h)) := by
  intro hall
  have hrun := run_execute call
    ([0, 10].flatMap (rcCycle restingFrame) ++ [.evaluateFailsafe 1000 kDefaultFailsafeMs])
    (show Run (Deterministic call) (construct (F := ℝ)) [] construct from .nil)
  obtain ⟨row, earlier, hframes, hlen, -, hchain⟩ :=
    hall _ _ (restingFrame 10010) hrun (by decide +kernel) (by decide +kernel)
  match row, hlen, hchain, hframes with
  | [f₃, f₂, f₁], _, hchain, hframes =>
    obtain ⟨rfl, hrest⟩ := List.cons.inj hframes
    obtain ⟨rfl, -⟩ := List.cons.inj hrest
    have hlate : InTime _ _ := (List.isChain_cons_cons.mp hchain).1
    exact absurd hlate (by decide)

end ControllerBridge

end HexapodVerified.Input
