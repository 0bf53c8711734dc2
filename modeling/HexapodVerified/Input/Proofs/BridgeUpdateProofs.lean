import HexapodVerified.Input.ControllerBridge

/-!
# What an update changes

The command is one long-lived record that many parts of `update` write. The *core* of a bridge is what
the failsafe, the arm switch, the input profile and the encoders rest on: only the acceptance of a frame
and the safety switches change it, and everything else that `decode` does leaves it as it is.
-/

namespace HexapodVerified.Input

variable {F : Type}

structure LinkState where
  failsafe : Bool
  ever_seen : Bool
  frame_ms : UInt32
  profile_locked : Bool
  detected_profile : InputProfile

namespace LinkState

def ProfileLocked (l : LinkState) : Prop := l.profile_locked = true ∧ l.detected_profile ≠ .unknown

def accept (l : LinkState) (now_ms : UInt32) : LinkState :=
  { l with failsafe := false, ever_seen := true, frame_ms := now_ms }

end LinkState

structure ArmSwitch where
  arm_request : Bool
  release_pending : Bool
  release_since_ms : UInt32
  deriving DecidableEq

/-- The switch after its level was read. The kill switch releases it at once. -/
def ArmSwitch.read (s : ArmSwitch) (kill level : Bool) (now_ms : UInt32) : ArmSwitch :=
  if kill then { s with arm_request := false, release_pending := false }
  else if level then { s with arm_request := true, release_pending := false }
  else if s.arm_request then
    if !s.release_pending then { s with release_pending := true, release_since_ms := now_ms }
    else if now_ms - s.release_since_ms ≥ kArmReleaseDebounceMs then
      { s with arm_request := false, release_pending := false }
    else s
  else { s with release_pending := false }

/-- The part of a bridge that an update changes only where it accepts the frame, reads the safety
switches or integrates the encoders. -/
structure BridgeCore (F : Type) where
  cfg : BindingConfig F
  raw : ChannelPackInputs
  link : LinkState
  valid : Bool
  estop : Bool
  arm : ArmSwitch
  custom_layout_streak : UInt8
  tx_direct_layout_streak : UInt8
  enc_last : Vector Int32 2
  enc_seen : Vector Bool 2
  enc_accum : Vector F 2

namespace ControllerBridge

def link (b : ControllerBridge F) : LinkState where
  failsafe := b.cmd.failsafe
  ever_seen := b.cmd.ever_seen
  frame_ms := b.cmd.frame_ms
  profile_locked := b.profile_locked
  detected_profile := b.detected_profile

def armSwitch (b : ControllerBridge F) : ArmSwitch where
  arm_request := b.cmd.arm_request
  release_pending := b.arm_release_pending
  release_since_ms := b.arm_release_since_ms

def core (b : ControllerBridge F) : BridgeCore F where
  cfg := b.cfg
  raw := b.raw
  link := b.link
  valid := b.cmd.valid
  estop := b.cmd.estop
  arm := b.armSwitch
  custom_layout_streak := b.custom_layout_streak
  tx_direct_layout_streak := b.tx_direct_layout_streak
  enc_last := b.enc_last
  enc_seen := b.enc_seen
  enc_accum := b.enc_accum

theorem core_link (b : ControllerBridge F) : b.core.link = b.link := rfl

theorem core_arm (b : ControllerBridge F) : b.core.arm = b.armSwitch := rfl

/-! ## What leaves the core alone -/

section Core

variable (b : ControllerBridge F) (now_ms : UInt32)

theorem core_setEdge (slot : Nat) (level : Bool) : (b.setEdge slot level).core = b.core := rfl

theorem core_risingEdge (slot : Nat) (level : Bool) :
    (b.risingEdge slot level now_ms).2.core = b.core := by
  unfold risingEdge
  rw [core_setEdge]
  split <;> rfl

theorem core_repeatingTrickTrigger (slot : Nat) (level : Bool) :
    (b.repeatingTrickTrigger slot level now_ms).2.core = b.core := by
  unfold repeatingTrickTrigger
  dsimp only
  split_ifs <;> rfl

theorem core_onEdge (slot : Nat) (level : Bool) {act : ControllerBridge F → ControllerBridge F}
    (hact : ∀ b, (act b).core = b.core) : (b.onEdge slot level now_ms act).core = b.core := by
  unfold onEdge
  dsimp only
  split
  · rw [hact, core_risingEdge]
  · exact core_risingEdge b now_ms slot level

theorem core_toggleGaitTune : (b.toggleGaitTune now_ms).core = b.core := by
  unfold toggleGaitTune
  dsimp only
  split
  · split
    · rfl
    · rfl
  · split
    · exact core_risingEdge b now_ms _ _
    · exact core_risingEdge b now_ms _ _

theorem core_editKey (slot : Nat) (level : Bool) {act : ControllerBridge F → ControllerBridge F}
    (hact : ∀ b, (act b).core = b.core) (edited : Bool × ControllerBridge F) :
    (editKey slot level now_ms act edited).2.core = edited.2.core := by
  unfold editKey
  dsimp only
  split
  · rw [hact, core_risingEdge]
  · exact core_risingEdge edited.2 now_ms slot level

theorem core_followGaitTuneEdges : b.followGaitTuneEdges.core = b.core := by
  unfold followGaitTuneEdges
  simp only [core_setEdge]

theorem core_followTrimEdges : b.followTrimEdges.core = b.core := by
  unfold followTrimEdges
  simp only [core_setEdge]

theorem core_noteEdited (edited : Bool × ControllerBridge F) :
    (if edited.1 then edited.2.noteEdit now_ms else edited.2).core = edited.2.core := by
  split
  · rfl
  · rfl

theorem core_updateCaptureStart : (b.updateCaptureStart now_ms).core = b.core := by
  unfold updateCaptureStart
  split_ifs <;> rfl

theorem core_updateTrick (i : Fin kMaxTrickBindings) : (updateTrick now_ms b i).core = b.core := by
  unfold updateTrick
  dsimp only
  split
  · rfl
  · split
    · rfl
    · have htrigger := core_repeatingTrickTrigger b now_ms i (b.readBool (b.cfg.tricks.get i).source)
      split
      · exact htrigger
      · exact htrigger

theorem view_foldl {ι α : Type} {view : ControllerBridge F → α} {step : ControllerBridge F → ι → ControllerBridge F}
    (hstep : ∀ b i, view (step b i) = view b) (l : List ι) : view (l.foldl step b) = view b := by
  induction l generalizing b with
  | nil => rfl
  | cons i l ih => rw [List.foldl_cons, ih, hstep]

theorem core_updateTricks : (b.updateTricks now_ms).core = b.core :=
  view_foldl _ (core_updateTrick · now_ms) _

theorem core_updateConditionedToggles : (b.updateConditionedToggles now_ms).core = b.core := rfl

def killLevel (b : ControllerBridge F) : Bool := b.readBool b.cfg.estop

def armLevel (b : ControllerBridge F) : Bool := b.readBool b.cfg.arm

theorem killLevel_congr {b b' : ControllerBridge F} (hcfg : b.cfg = b'.cfg) (hraw : b.raw = b'.raw) :
    b.killLevel = b'.killLevel := by
  unfold killLevel readBool
  rw [hcfg, hraw]

theorem armLevel_congr {b b' : ControllerBridge F} (hcfg : b.cfg = b'.cfg) (hraw : b.raw = b'.raw) :
    b.armLevel = b'.armLevel := by
  unfold armLevel readBool
  rw [hcfg, hraw]

theorem core_acceptFrame : (b.acceptFrame now_ms).core =
    { b.core with link := b.link.accept now_ms, valid := true } := rfl

theorem core_readSafety : (b.readSafety now_ms).core =
    { b.core with
      estop := b.killLevel, arm := b.armSwitch.read b.killLevel b.armLevel now_ms } := by
  unfold readSafety ArmSwitch.read killLevel armLevel armSwitch
  dsimp only
  split_ifs <;> rfl

variable [FloatExp F]

theorem core_updatePoseTrim : (b.updatePoseTrim now_ms).core = b.core := by
  unfold updatePoseTrim
  have hpitch (step : F) (b : ControllerBridge F) : (nudgePitch step b).core = b.core := rfl
  have hroll (step : F) (b : ControllerBridge F) : (nudgeRoll step b).core = b.core := rfl
  rw [core_onEdge _ _ _ _ (hroll _), core_onEdge _ _ _ _ (hroll _),
    core_onEdge _ _ _ _ (hpitch _), core_onEdge _ _ _ _ (hpitch _)]
  exact core_onEdge b now_ms _ _ fun _ => rfl

theorem core_updateGaitTune : (b.updateGaitTune now_ms).core = b.core := by
  have hmove (step : UInt8) (b : ControllerBridge F) : (moveParam step b).core = b.core := rfl
  have hnudge (step : F) (b : ControllerBridge F) : (nudgeParam step b).core = b.core := rfl
  have hsave (b : ControllerBridge F) : (requestSave b).core = b.core := rfl
  have htoggle := core_toggleGaitTune b now_ms
  unfold updateGaitTune
  lift_lets
  intro b' key edited₀ edited₁ edited₂ edited₃ edited₄ edited₅
  have hkey {act : ControllerBridge F → ControllerBridge F} (slot : Nat) (source : BoolSource)
      (edited : Bool × ControllerBridge F) (hact : ∀ b, (act b).core = b.core)
      (hedited : edited.2.core = b.core) : (key slot source act edited).2.core = b.core :=
    (core_editKey now_ms _ _ hact edited).trans hedited
  split
  · rw [core_followGaitTuneEdges]
    exact htoggle
  · have h₀ : edited₀.2.core = b.core := (core_followTrimEdges b').trans htoggle
    have h₁ : edited₁.2.core = b.core := hkey 1 _ _ (hmove 1) h₀
    have h₂ : edited₂.2.core = b.core := hkey 2 _ _ (hmove 2) h₁
    have h₃ : edited₃.2.core = b.core := hkey 3 _ _ (hnudge _) h₂
    have h₄ : edited₄.2.core = b.core := hkey 4 _ _ (hnudge _) h₃
    have h₅ : edited₅.2.core = b.core := hkey 5 _ _ hsave h₄
    rw [core_noteEdited]
    exact h₅

theorem view_updateConditionedInputs {α : Type} (view : ControllerBridge F → α)
    (hgimbal : ∀ dt b i, view (conditionGimbal dt b i) = view b) (hpot : ∀ dt b i, view (conditionPot dt b i) = view b)
    (hencoder : ∀ dt b i, view (conditionEncoder dt b i) = view b)
    (hclock : view { b with condition_time_seen := true, last_condition_ms := now_ms } = view b) :
    view (b.updateConditionedInputs now_ms) = view b := by
  unfold updateConditionedInputs
  rw [view_foldl _ (hencoder _), view_foldl _ (hpot _), view_foldl _ (hgimbal _)]
  exact hclock

theorem core_updateConditionedInputs : (b.updateConditionedInputs now_ms).core = b.core :=
  b.view_updateConditionedInputs now_ms core (fun _ _ _ => rfl) (fun _ _ _ => rfl) (fun _ _ _ => rfl) rfl

theorem core_readSwitches : b.readSwitches.core = b.core := rfl

theorem core_readShape : b.readShape.core = b.core := rfl

theorem core_readMotion : b.readMotion.core = b.core := rfl

theorem core_accepted :
    (((b.updateConditionedInputs now_ms).updateConditionedToggles now_ms).acceptFrame now_ms).core =
      { b.core with link := b.link.accept now_ms, valid := true } := by
  have hinputs : ((b.updateConditionedInputs now_ms).updateConditionedToggles now_ms).core =
      b.core :=
    (core_updateConditionedToggles _ now_ms).trans (core_updateConditionedInputs b now_ms)
  generalize (b.updateConditionedInputs now_ms).updateConditionedToggles now_ms = b' at hinputs
  have hlink : b'.link = b.link := congrArg BridgeCore.link hinputs
  rw [core_acceptFrame, hinputs, hlink]

/-- After a frame is decoded the link is up, whatever the channels say, and the safety switches are
those of the frame. -/
theorem core_decode : (b.decode now_ms).core =
    { b.core with
      link := b.link.accept now_ms
      valid := true
      estop := b.killLevel
      arm := b.armSwitch.read b.killLevel b.armLevel now_ms } := by
  have haccept := core_accepted b now_ms
  unfold decode
  lift_lets
  intro b₁ b₂ b₃ b₄ b₅
  have h₁ : b₁.core = { b.core with link := b.link.accept now_ms, valid := true } := haccept
  clear_value b₁
  have hkill : b₁.killLevel = b.killLevel :=
    killLevel_congr (congrArg BridgeCore.cfg h₁) (congrArg BridgeCore.raw h₁)
  have harm : b₁.armLevel = b.armLevel :=
    armLevel_congr (congrArg BridgeCore.cfg h₁) (congrArg BridgeCore.raw h₁)
  have hswitch : b₁.armSwitch = b.armSwitch := congrArg BridgeCore.arm h₁
  have h₂ : b₂.core = (b₁.readSafety now_ms).core := core_readSwitches _
  have h₃ : b₃.core = b₂.core := by rw [core_readMotion, core_readShape, core_updateGaitTune]
  have h₄ : b₄.core = b₃.core := by
    unfold b₄
    split
    · rfl
    · rw [core_updatePoseTrim]
  have hcapture (b : ControllerBridge F) : (toggleCapture b).core = b.core := rfl
  have h₅ : b₅.core = b₄.core := by rw [core_onEdge _ _ _ _ hcapture]
  rw [core_updateTricks, core_updateCaptureStart, h₅, h₄, h₃, h₂, core_readSafety, h₁, hkill, harm,
    hswitch]

end Core

section Lock

variable {b : ControllerBridge F} {ch : Channels}

theorem attemptProfileDetection_of_locked (hlocked : b.profile_locked = true) :
    b.attemptProfileDetection ch = b := if_pos hlocked

theorem dropStreaks_of_locked (hlocked : b.profile_locked = true) : b.dropStreaks = b := if_pos hlocked

theorem profile_locked_dropStreaks : b.dropStreaks.profile_locked = b.profile_locked := by
  unfold dropStreaks
  split <;> rfl

end Lock

section Update

variable [FloatExp F] (b : ControllerBridge F) (ch : Channels) (now_ms : UInt32)

def readCustom : ControllerBridge F :=
  { b with raw := ChannelPack.unpackChannels ch }.integrateEncoders

/-- A frame of the TX16S is read in. -/
def readDirect : ControllerBridge F :=
  { b with raw := unpackTx16sMk3DirectChannels F ch }.updateTx16sDirectVirtualEncoders ch

theorem update_eq : b.update ch true now_ms =
    let b := b.attemptProfileDetection ch
    if !b.profile_locked then b.enterFailsafe
    else
      match b.detected_profile with
      | .customControllerChannelPack => (b.readCustom ch).decode now_ms
      | .tx16sMk3Direct => (b.readDirect ch).decode now_ms
      | .unknown => b.enterFailsafe := rfl

/-- A frame while the link is up: no profile is locked yet, or the frame is decoded in the profile that
is. -/
theorem update_link_up :
    (¬ (b.attemptProfileDetection ch).link.ProfileLocked ∧
      b.update ch true now_ms = (b.attemptProfileDetection ch).enterFailsafe) ∨
    ((b.attemptProfileDetection ch).profile_locked = true ∧
      (b.attemptProfileDetection ch).detected_profile = .customControllerChannelPack ∧
      b.update ch true now_ms = ((b.attemptProfileDetection ch).readCustom ch).decode now_ms) ∨
    ((b.attemptProfileDetection ch).profile_locked = true ∧
      (b.attemptProfileDetection ch).detected_profile = .tx16sMk3Direct ∧
      b.update ch true now_ms = ((b.attemptProfileDetection ch).readDirect ch).decode now_ms) := by
  rw [update_eq]
  generalize b.attemptProfileDetection ch = b'
  by_cases hlocked : b'.profile_locked = true
  · rw [if_neg (by simp [hlocked])]
    cases hprofile : b'.detected_profile with
    | unknown => exact .inl ⟨fun h => h.2 hprofile, rfl⟩
    | customControllerChannelPack => exact .inr (.inl ⟨hlocked, rfl, rfl⟩)
    | tx16sMk3Direct => exact .inr (.inr ⟨hlocked, rfl, rfl⟩)
  · rw [if_pos (by simp [hlocked])]
    exact .inl ⟨fun h => hlocked h.1, rfl⟩

theorem core_readCustom : (b.readCustom ch).core =
    { b.core with
      raw := ChannelPack.unpackChannels ch
      enc_last := (b.readCustom ch).enc_last
      enc_seen := (b.readCustom ch).enc_seen
      enc_accum := (b.readCustom ch).enc_accum } := by
  have hone (b : ControllerBridge F) (i : Fin 2) : (b.integrateEncoder i).core =
      { b.core with
        enc_last := (b.integrateEncoder i).enc_last
        enc_seen := (b.integrateEncoder i).enc_seen
        enc_accum := (b.integrateEncoder i).enc_accum } := by
    unfold integrateEncoder
    split
    · rfl
    · rfl
  unfold readCustom integrateEncoders
  rw [hone, hone]
  rfl

theorem update_link_down : b.update ch false now_ms = b.dropStreaks.enterFailsafe := rfl

end Update

end ControllerBridge

end HexapodVerified.Input
