import HexapodVerified.Input.Proofs.ProfileLockProofs
import HexapodVerified.Lib.Tables

/-!
# The edge slots

Every button that acts on a press has a slot with its last level and the time of its last action. An update
changes a slot only where it reads the button of that slot. What the trim and the gait editor hold is changed
by the keys of the trim and of the editor alone.
-/

namespace HexapodVerified.Input

open Transition

variable {F : Type}

/-- What the keys of the trim and of the gait editor work on. -/
structure Panel (F : Type) where
  active : Bool
  trim_roll : F
  trim_pitch : F
  gait_tune_param : UInt8
  gait_tune_frac : Vector F 3
  gait_tune_save_seq : UInt32

/-- The part of a bridge that the edges are taken from and act on. -/
structure KeyState (F : Type) where
  cfg : BindingConfig F
  raw : ChannelPackInputs
  panel : Panel F
  edge_prev : Vector Bool kNumEdgeSlots
  edge_last_ms : Vector UInt32 kNumEdgeSlots

namespace ControllerBridge

def panel (b : ControllerBridge F) : Panel F where
  active := b.cmd.gait_tune_active
  trim_roll := b.cmd.trim_roll
  trim_pitch := b.cmd.trim_pitch
  gait_tune_param := b.cmd.gait_tune_param
  gait_tune_frac := b.gait_tune_frac
  gait_tune_save_seq := b.cmd.gait_tune_save_seq

def keyState (b : ControllerBridge F) : KeyState F where
  cfg := b.cfg
  raw := b.raw
  panel := b.panel
  edge_prev := b.edge_prev
  edge_last_ms := b.edge_last_ms

/-- A slot: the level that was seen last, and the time of the last action. -/
def edge (b : ControllerBridge F) (slot : Nat) : Bool × UInt32 :=
  (b.edge_prev.getD slot false, b.edge_last_ms.getD slot 0)

theorem edge_congr {b b' : ControllerBridge F} (h : b.keyState = b'.keyState) : b.edge = b'.edge := by
  funext slot
  unfold edge
  rw [show b.edge_prev = b'.edge_prev from congrArg KeyState.edge_prev h,
    show b.edge_last_ms = b'.edge_last_ms from congrArg KeyState.edge_last_ms h]

theorem readBool_congr {b b' : ControllerBridge F} (h : b.raw = b'.raw) : b.readBool = b'.readBool := by
  funext source
  unfold readBool
  rw [h]

section Slots

variable (b : ControllerBridge F) {slot slot' : Nat} (level : Bool) (now_ms : UInt32)

theorem edge_setEdge (hslot : slot < kNumEdgeSlots) :
    (b.setEdge slot level).edge slot = (level, (b.edge slot).2) := by
  unfold edge setEdge
  rw [Tables.getD_set, if_pos ⟨rfl, hslot⟩]

theorem edge_setEdge_of_ne (hne : slot ≠ slot') : (b.setEdge slot level).edge slot' = b.edge slot' := by
  unfold edge setEdge
  rw [Tables.getD_set, if_neg fun h => hne h.1]

theorem edge_markEdge_of_ne (hne : slot ≠ slot') : (b.markEdge slot now_ms).edge slot' = b.edge slot' := by
  unfold edge markEdge
  rw [Tables.getD_set, if_neg fun h => hne h.1]

/-- The button of the slot was up, and its last action is long enough ago. -/
def edgeDue (slot : Nat) : Bool := !(b.edge slot).1 && now_ms - (b.edge slot).2 ≥ kEdgeRefractoryMs

theorem risingEdge_fst : (b.risingEdge slot level now_ms).1 = (level && b.edgeDue now_ms slot) := by
  unfold risingEdge edgeDue edge
  rw [Bool.and_assoc]

theorem edge_risingEdge (hslot : slot < kNumEdgeSlots) :
    ((b.risingEdge slot level now_ms).2.edge slot).1 = level := by
  unfold risingEdge
  rw [edge_setEdge _ level hslot]

theorem edge_risingEdge_of_ne (hne : slot ≠ slot') :
    (b.risingEdge slot level now_ms).2.edge slot' = b.edge slot' := by
  unfold risingEdge
  rw [edge_setEdge_of_ne _ level hne]
  split
  · rw [edge_markEdge_of_ne b now_ms hne]
  · rfl

theorem panel_risingEdge : (b.risingEdge slot level now_ms).2.panel = b.panel := by
  unfold risingEdge
  dsimp only
  split <;> rfl

theorem raw_risingEdge : (b.risingEdge slot level now_ms).2.raw = b.raw :=
  congrArg BridgeCore.raw (core_risingEdge b now_ms slot level)

theorem cfg_risingEdge : (b.risingEdge slot level now_ms).2.cfg = b.cfg :=
  congrArg BridgeCore.cfg (core_risingEdge b now_ms slot level)

end Slots

section Frame

variable (b : ControllerBridge F) (now_ms : UInt32)

theorem keyState_readSafety : (b.readSafety now_ms).keyState = b.keyState := by
  unfold readSafety
  dsimp only
  split_ifs <;> rfl

theorem keyState_updateCaptureStart : (b.updateCaptureStart now_ms).keyState = b.keyState := by
  unfold updateCaptureStart
  split_ifs <;> rfl

variable [FloatExp F]

theorem keyState_updateConditionedInputs : (b.updateConditionedInputs now_ms).keyState = b.keyState :=
  b.view_updateConditionedInputs now_ms keyState (fun _ _ _ => rfl) (fun _ _ _ => rfl) (fun _ _ _ => rfl) rfl

theorem keyState_beforeKeys :
    (((((b.updateConditionedInputs now_ms).updateConditionedToggles now_ms).acceptFrame now_ms).readSafety
      now_ms).readSwitches).keyState = b.keyState := by
  have hswitches (b : ControllerBridge F) : b.readSwitches.keyState = b.keyState := rfl
  have haccept (b : ControllerBridge F) : (b.acceptFrame now_ms).keyState = b.keyState := rfl
  have htoggles (b : ControllerBridge F) : (b.updateConditionedToggles now_ms).keyState = b.keyState := rfl
  rw [hswitches, keyState_readSafety, haccept, htoggles, keyState_updateConditionedInputs]

theorem keyState_afterKeys : (b.readShape).readMotion.keyState = b.keyState := rfl

theorem edge_readCustom (ch : Channels) : (b.readCustom ch).edge = b.edge ∧
    (b.readCustom ch).cfg = b.cfg ∧ (b.readCustom ch).panel = b.panel := by
  have hone (b : ControllerBridge F) (i : Fin 2) : (b.integrateEncoder i).keyState = b.keyState := by
    unfold integrateEncoder
    split <;> rfl
  have hread : (b.readCustom ch).keyState = { b.keyState with raw := ChannelPack.unpackChannels ch } := by
    unfold readCustom integrateEncoders
    rw [hone, hone]
    rfl
  exact ⟨@edge_congr _ _ { b with raw := ChannelPack.unpackChannels ch } hread,
    congrArg KeyState.cfg hread, congrArg KeyState.panel hread⟩

theorem edge_readDirect (ch : Channels) : (b.readDirect ch).edge = b.edge ∧
    (b.readDirect ch).cfg = b.cfg := ⟨rfl, rfl⟩

end Frame

structure FrameCall where
  ch : Channels
  link_up : Bool
  now_ms : UInt32

variable [FloatExp F]

def frame (b : ControllerBridge F) (f : FrameCall) : ControllerBridge F := b.update f.ch f.link_up f.now_ms

abbrev FrameEvent (F : Type) := Event (ControllerBridge F) FrameCall

/-- The updates of the history lead from the one bridge to the other. -/
abbrev FrameRun (b₀ : ControllerBridge F) : List (FrameEvent F) → ControllerBridge F → Prop :=
  Run (Deterministic frame) b₀

/-- The frame came over the link, so that it is processed once a profile is locked. -/
def Processed (e : FrameEvent F) : Prop := e.label.link_up = true

instance : DecidablePred (Processed (F := F)) := fun e => inferInstanceAs (Decidable (e.label.link_up = true))

def readIn (b : ControllerBridge F) (ch : Channels) : ControllerBridge F :=
  if b.detected_profile = .tx16sMk3Direct then b.readDirect ch else b.readCustom ch

variable {b : ControllerBridge F}

theorem frame_cases (hlocked : b.link.ProfileLocked) (f : FrameCall) :
    (f.link_up = false ∧ b.frame f = b.enterFailsafe) ∨
      (f.link_up = true ∧ b.frame f = (b.readIn f.ch).decode f.now_ms) := by
  obtain ⟨ch, link_up, now_ms⟩ := f
  unfold frame readIn
  cases link_up with
  | false =>
    rw [update_link_down, dropStreaks_of_locked hlocked.1]
    exact .inl ⟨rfl, rfl⟩
  | true =>
    have hup := update_link_up b ch now_ms
    rw [attemptProfileDetection_of_locked hlocked.1] at hup
    refine .inr ⟨rfl, ?_⟩
    rcases hup with ⟨hno, -⟩ | ⟨-, hprofile, heq⟩ | ⟨-, hprofile, heq⟩
    · exact absurd hlocked hno
    · rw [heq, hprofile, if_neg (by decide)]
    · rw [heq, hprofile, if_pos rfl]

theorem edge_readIn (b : ControllerBridge F) (ch : Channels) :
    (b.readIn ch).edge = b.edge ∧ (b.readIn ch).cfg = b.cfg := by
  unfold readIn
  split_ifs
  · exact edge_readDirect b ch
  · exact ⟨(edge_readCustom b ch).1, (edge_readCustom b ch).2.1⟩

theorem inputs_decode (b : ControllerBridge F) (now_ms : UInt32) :
    (b.decode now_ms).cfg = b.cfg ∧ (b.decode now_ms).raw = b.raw ∧
      (b.decode now_ms).enc_accum = b.enc_accum := by
  have hcore := core_decode b now_ms
  generalize b.decode now_ms = b' at hcore ⊢
  exact ⟨congrArg BridgeCore.cfg hcore, congrArg BridgeCore.raw hcore, congrArg BridgeCore.enc_accum hcore⟩

theorem locked_frame (hlocked : b.link.ProfileLocked) (f : FrameCall) :
    (b.frame f).link.ProfileLocked ∧ (b.frame f).cfg = b.cfg := by
  obtain ⟨hkept, hprofile⟩ := update_locked hlocked.1 f.ch f.link_up f.now_ms
  refine ⟨⟨hkept, fun hno => hlocked.2 (hprofile.symm.trans hno)⟩, ?_⟩
  rcases frame_cases hlocked f with ⟨-, heq⟩ | ⟨-, heq⟩
  · rw [heq]
    rfl
  · rw [heq, (inputs_decode (b.readIn f.ch) f.now_ms).1, (edge_readIn b f.ch).2]

theorem locked_of_run {b₀ : ControllerBridge F} {h : List (FrameEvent F)} (hlocked : b₀.link.ProfileLocked)
    (run : FrameRun b₀ h b) : b.link.ProfileLocked ∧ b.cfg = b₀.cfg := by
  refine run.invariant (fun b => b.link.ProfileLocked ∧ b.cfg = b₀.cfg) ⟨hlocked, rfl⟩ ?_
  rintro b f _ ⟨hb, hcfg⟩ rfl
  obtain ⟨hkept, hsame⟩ := locked_frame hb f
  exact ⟨hkept, hsame.trans hcfg⟩

end ControllerBridge

end HexapodVerified.Input
