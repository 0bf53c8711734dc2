import HexapodVerified.App.RcTask
import HexapodVerified.Input.Proofs.FailsafeProofs

/-!
# The pulse of a trick

The bridge fires a trick on one frame, and the next frame takes it back. The task publishes what the last
frame of a cycle has left, so a trick of an earlier frame of the cycle is never seen. Where no trick waits
when a further frame is decoded, every trick that fires is published.
-/

namespace HexapodVerified.App

open HexapodVerified.Gait HexapodVerified.Input Transition

variable {F : Type} [FloatExp F]

namespace RcTask

variable {t : RcTask F} {staged : RcStaged F} {frames : List Channels}

/-- One cycle, with the frames that its bytes complete. -/
def cycleOf (t : RcTask F) (frames : List Channels) (staged : RcStaged F) : RcTask F :=
  (frames.foldl (readFrame staged.now_ms) t).finish staged

theorem foldl_readByte (now_ms : UInt32) (bytes : List UInt8) (t : RcTask F) :
    bytes.foldl (readByte now_ms) t =
      (t.g_crsfParser.pushAll bytes).2.reduceOption.foldl (readFrame now_ms)
        { t with g_crsfParser := (t.g_crsfParser.pushAll bytes).1 } := by
  induction bytes generalizing t with
  | nil => rfl
  | cons byte bytes ih =>
    rw [List.foldl_cons, ih]
    simp only [readByte, Crsf.Parser.pushAll]
    cases t.g_crsfParser.push byte with
    | mk parser frame =>
      cases frame with
      | none => rfl
      | some channels => rfl

/-- A cycle decodes the frames that its bytes complete, however many these are. -/
theorem cycle_eq (t : RcTask F) (bytes : List UInt8) (staged : RcStaged F) :
    t.cycle bytes staged =
      { t with g_crsfParser :=
          (t.g_crsfParser.pushAll (bytes.take kMaxBytesPerCycle)).1 }.cycleOf
        (t.g_crsfParser.pushAll (bytes.take kMaxBytesPerCycle)).2.reduceOption staged := by
  unfold cycle cycleOf
  rw [foldl_readByte]

def afterFrames (t : RcTask F) (staged : RcStaged F) (frames : List Channels) : RcTask F :=
  frames.foldl (readFrame staged.now_ms) t

/-- The bridge fires a trick on some frame of a cycle. -/
def Fires (t : RcTask F) (staged : RcStaged F) (frames : List Channels) (trick : TrickId) : Prop :=
  trick ≠ .none ∧ ∃ front ch back, frames = front ++ ch :: back ∧
    (t.afterFrames staged (front ++ [ch])).g_bridge.cmd.trick = trick

def KeepsTricks (t : RcTask F) (staged : RcStaged F) (frames : List Channels) : Prop :=
  ∀ trick, t.Fires staged frames trick →
    (t.cycleOf frames staged).g_rcMailbox.snapshot.command.trick = trick

/-- Whenever a frame is decoded, no trick of an earlier frame of the cycle waits to be published. -/
def NoneWaits (t : RcTask F) (staged : RcStaged F) (frames : List Channels) : Prop :=
  ∀ front ch back, frames = front ++ ch :: back → front ≠ [] →
    (t.afterFrames staged front).g_bridge.cmd.trick = .none

theorem afterFrames_concat (front : List Channels) (ch : Channels) :
    (t.afterFrames staged (front ++ [ch])).g_bridge =
      (t.afterFrames staged front).g_bridge.update ch true staged.now_ms := by
  unfold afterFrames
  rw [List.foldl_append]
  rfl

theorem link_of_trick {b : ControllerBridge F} {ch : Channels} {now_ms : UInt32}
    (hfires : (b.update ch true now_ms).cmd.trick ≠ .none) :
    (b.update ch true now_ms).cmd.ever_seen = true ∧
      (b.update ch true now_ms).cmd.frame_ms = now_ms := by
  rcases ControllerBridge.update_cases b ch true now_ms with ⟨-, l, -, hlink⟩ | ⟨b', heq, -, -⟩
  · exact ⟨congrArg LinkState.ever_seen hlink, congrArg LinkState.frame_ms hlink⟩
  · rw [heq] at hfires
    exact absurd rfl hfires

theorem evaluateFailsafe_fresh {b : ControllerBridge F} {now_ms timeout_ms : UInt32}
    (hseen : b.cmd.ever_seen = true) (hframe : b.cmd.frame_ms = now_ms) :
    b.evaluateFailsafe now_ms timeout_ms = b := by
  unfold ControllerBridge.evaluateFailsafe
  rw [if_neg (by simp [hseen]), hframe, UInt32.sub_self, if_neg (by simp)]

theorem finish_command (t : RcTask F) (staged : RcStaged F) :
    (t.finish staged).g_rcMailbox.snapshot.command =
      (t.g_bridge.evaluateFailsafe staged.now_ms kDefaultFailsafeMs).cmd := by
  have hcalibration (t : RcTask F) : (t.adoptCalibration staged).g_bridge.cmd = t.g_bridge.cmd := by
    unfold adoptCalibration ControllerBridge.setCalibration
    split
    · rfl
    · split
      · dsimp only
        split_ifs <;> rfl
      · rfl
  have hbindings (t : RcTask F) : (t.adoptBindings staged).g_bridge.cmd = t.g_bridge.cmd := by
    unfold adoptBindings
    split <;> rfl
  have hgait (t : RcTask F) : (t.adoptGaitTune staged).g_bridge.cmd = t.g_bridge.cmd := by
    unfold adoptGaitTune ControllerBridge.setGaitTuneFractions
    split
    · dsimp only
      split_ifs <;> rfl
    · rfl
  show (((({ t with
    g_bridge := t.g_bridge.evaluateFailsafe staged.now_ms kDefaultFailsafeMs }).adoptCalibration
      staged).adoptBindings staged).adoptGaitTune staged).g_bridge.cmd = _
  rw [hgait, hbindings, hcalibration]

theorem keepsTricks_of_noneWaits (hwaits : t.NoneWaits staged frames) :
    t.KeepsTricks staged frames := by
  rintro trick ⟨hsome, front, ch, back, rfl, hfires⟩
  cases back with
  | cons ch' back =>
    -- a further frame would find the trick waiting
    have hnone := hwaits (front ++ [ch]) ch' back (by simp) (by simp)
    exact absurd (hfires.symm.trans hnone) hsome
  | nil =>
    have hfires' := hfires
    rw [afterFrames_concat] at hfires'
    obtain ⟨hseen, hframe⟩ := link_of_trick (hfires' ▸ hsome)
    rw [← afterFrames_concat] at hseen hframe
    unfold cycleOf
    rw [finish_command]
    show ((t.afterFrames staged (front ++ [ch])).g_bridge.evaluateFailsafe staged.now_ms
      kDefaultFailsafeMs).cmd.trick = trick
    rw [evaluateFailsafe_fresh hseen hframe]
    exact hfires

/-- A cycle as the label of a step: the frames that it decodes, and what it finds. -/
structure RcCycle (F : Type) where
  frames : List Channels
  staged : RcStaged F

def step (t : RcTask F) (c : RcCycle F) : RcTask F := t.cycleOf c.frames c.staged

/-- However the frames are grouped into cycles: as long as no trick waits when a further frame of its
cycle is decoded, every trick that fires is published. -/
theorem tricks_published {h : List (Event (RcTask F) (RcCycle F))}
    (run : Run (Deterministic step) start h t)
    (hwaits : ∀ e ∈ h, e.pre.NoneWaits e.label.staged e.label.frames) :
    ∀ e ∈ h, ∀ trick, e.pre.Fires e.label.staged e.label.frames trick →
      e.post.g_rcMailbox.snapshot.command.trick = trick := by
  intro e he trick hfires
  obtain ⟨hstep, -⟩ := run.of_mem he
  have hpost : e.post = e.pre.cycleOf e.label.frames e.label.staged := hstep
  rw [hpost]
  exact keepsTricks_of_noneWaits (hwaits e he) trick hfires

def buttonFrame (field : UInt16) : Channels :=
  (((Vector.replicate _ 992).setIfInBounds 8 191).setIfInBounds 9 field).setIfInBounds 10 191

def quietCycle (now_ms : UInt32) (frames : List Channels) : RcCycle ℝ where
  frames
  staged :=
    { now_ms
      g_pendingRcCalibration := none
      g_ctrlPendingBindings := none
      gait_rev := 0xFFFFFFFF
      gait := {} }

noncomputable def locked : RcTask ℝ :=
  start.step (quietCycle 1000 [buttonFrame 191, buttonFrame 191, buttonFrame 191])

theorem run_locked : Run (Deterministic step) (start (F := ℝ))
    [⟨start, quietCycle 1000 [buttonFrame 191, buttonFrame 191, buttonFrame 191], locked⟩] locked :=
  .step .nil rfl

/-- The first button is pressed in the first of the two frames of a cycle, and in the second it still
is. -/
theorem not_tricks_published :
    ¬ ∀ (h : List (Event (RcTask ℝ) (RcCycle ℝ))) t, Run (Deterministic step) start h t →
      ∀ e ∈ h, ∀ trick, e.pre.Fires e.label.staged e.label.frames trick →
        e.post.g_rcMailbox.snapshot.command.trick = trick := by
  intro hall
  have hrun := run_locked.step (i := quietCycle 2000 [buttonFrame 203, buttonFrame 203]) rfl
  have hpublished := hall _ _ hrun _ (List.mem_cons_self ..) .standUp
    ⟨by decide, [], buttonFrame 203, [buttonFrame 203], rfl, by decide +kernel⟩
  exact absurd hpublished (by decide +kernel)

theorem noneWaits_of_length_le (hlen : frames.length ≤ 1) : t.NoneWaits staged frames := by
  rintro front ch back rfl hfront
  have hpos := List.length_pos_of_ne_nil hfront
  rw [List.length_append, List.length_cons] at hlen
  omega

theorem tricks_published_oneFrame : ∃ h t, Run (Deterministic step) (start (F := ℝ)) h t ∧
    ∃ e ∈ h, e.post.g_rcMailbox.snapshot.command.trick = .standUp := by
  have hstart : Run (Deterministic step) (start (F := ℝ)) [] start := .nil
  have hrun := ((hstart.step (i := quietCycle 0 [buttonFrame 191]) rfl).step
    (i := quietCycle 10 [buttonFrame 191]) rfl).step (i := quietCycle 20 [buttonFrame 203]) rfl
  have hpublished := tricks_published hrun ?_ _ (List.mem_cons_self ..) .standUp
    ⟨by decide, [], buttonFrame 203, [], rfl, by decide +kernel⟩
  · exact ⟨_, _, hrun, _, List.mem_cons_self .., hpublished⟩
  · intro e he
    refine noneWaits_of_length_le ?_
    rcases List.mem_cons.mp he with rfl | he
    · exact le_rfl
    · rcases List.mem_cons.mp he with rfl | he
      · exact le_rfl
      · obtain rfl := List.mem_singleton.mp he
        exact le_rfl

end RcTask

end HexapodVerified.App
