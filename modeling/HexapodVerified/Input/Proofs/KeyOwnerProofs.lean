import HexapodVerified.Input.Proofs.CaptureHoldProofs

/-!
# Who owns a press

The same five buttons nudge the trim and drive the gait editor. After every processed frame both groups of slots
have the levels of the buttons, whichever of the two has read them, so that a press acts on its first frame or
not at all, and on the one of the two that is engaged in that frame.
-/

namespace HexapodVerified.Input

open HexapodVerified.Config FloatArith PastTime Transition

variable {F : Type}

/-- A key: its slot and its button, and what it does to the bridge and to the panel. -/
structure Key (F : Type) where
  slot : Nat
  source : BoolSource
  act : ControllerBridge F → ControllerBridge F
  on : Panel F → Panel F

structure Key.Sound (key : Key F) : Prop where
  slot : key.slot < kNumEdgeSlots
  inputs : ∀ b, (key.act b).cfg = b.cfg ∧ (key.act b).raw = b.raw ∧ (key.act b).edge = b.edge
  panel : ∀ b, (key.act b).panel = key.on b.panel
  active : ∀ p, (key.on p).active = p.active

namespace ControllerBridge

def press (now_ms : UInt32) (b : ControllerBridge F) (key : Key F) : ControllerBridge F :=
  b.onEdge key.slot (b.readBool key.source) now_ms key.act

section Press

variable {b : ControllerBridge F} {now_ms : UInt32} {key : Key F}

/-- What reading a key changes: its slot gets the level, and the key acts on a press. -/
theorem press_spec (hkey : key.Sound) :
    (press now_ms b key).cfg = b.cfg ∧ (press now_ms b key).raw = b.raw ∧
      ((press now_ms b key).edge key.slot).1 = b.readBool key.source ∧
      (∀ slot, key.slot ≠ slot → (press now_ms b key).edge slot = b.edge slot) ∧
      ((b.readBool key.source = true ∧ (b.edge key.slot).1 = false ∧
          (press now_ms b key).panel = key.on b.panel) ∨
        (press now_ms b key).panel = b.panel) := by
  have hedge := edge_risingEdge b (b.readBool key.source) now_ms hkey.slot
  have hother {slot : Nat} (hne : key.slot ≠ slot) :=
    edge_risingEdge_of_ne b (b.readBool key.source) now_ms hne
  have hpanel := @panel_risingEdge _ b key.slot (b.readBool key.source) now_ms
  have hcfg := @cfg_risingEdge _ b key.slot (b.readBool key.source) now_ms
  have hraw := @raw_risingEdge _ b key.slot (b.readBool key.source) now_ms
  have hfired := @risingEdge_fst _ b key.slot (b.readBool key.source) now_ms
  unfold press onEdge
  dsimp only
  generalize b.risingEdge key.slot (b.readBool key.source) now_ms = r at hedge hother hpanel hcfg hraw hfired ⊢
  obtain ⟨hactCfg, hactRaw, hactEdge⟩ := hkey.inputs r.2
  split_ifs with h
  · rw [hfired, Bool.and_eq_true] at h
    have hup : (b.edge key.slot).1 = false := by
      have hdue := h.2
      unfold edgeDue at hdue
      rw [Bool.and_eq_true, Bool.not_eq_true'] at hdue
      exact hdue.1
    refine ⟨hactCfg.trans hcfg, hactRaw.trans hraw, ?_, fun slot hne => ?_, .inl ⟨h.1, hup, ?_⟩⟩
    · rw [hactEdge, hedge]
    · rw [hactEdge, hother hne]
    · rw [hkey.panel, hpanel]
  · exact ⟨hcfg, hraw, hedge, fun slot hne => hother hne, .inr hpanel⟩

end Press

/-- The keys were read: their slots have the levels of their buttons, and no other slot has changed. -/
structure Read (keys : List (Key F)) (b b' : ControllerBridge F) : Prop where
  cfg : b'.cfg = b.cfg
  raw : b'.raw = b.raw
  level : ∀ key ∈ keys, (b'.edge key.slot).1 = b.readBool key.source
  other : ∀ slot, slot ∉ keys.map Key.slot → b'.edge slot = b.edge slot

/-- Some of the keys were pressed, and acted in their order. -/
def Acted (keys : List (Key F)) (b b' : ControllerBridge F) : Prop :=
  ∃ fired : List (Key F), fired.Sublist keys ∧
    (∀ key ∈ fired, b.readBool key.source = true ∧ (b.edge key.slot).1 = false) ∧
    b'.panel = fired.foldl (fun p key => key.on p) b.panel

section Reading

variable {b b' b'' : ControllerBridge F} {keys keys' : List (Key F)} {now_ms : UInt32}

theorem Read.nil (hcfg : b'.cfg = b.cfg) (hraw : b'.raw = b.raw) (hedge : b'.edge = b.edge) :
    Read [] b b' :=
  ⟨hcfg, hraw, nofun, fun slot _ => congrFun hedge slot⟩

theorem Read.perm (hperm : keys.Perm keys') (hread : Read keys b b') : Read keys' b b' := by
  refine ⟨hread.cfg, hread.raw, fun key hkey => hread.level key (hperm.mem_iff.mpr hkey), fun slot hslot => ?_⟩
  exact hread.other slot fun hmem => hslot ((hperm.map Key.slot).mem_iff.mp hmem)

theorem Read.append (hread : Read keys b b') (hread' : Read keys' b' b'')
    (hslots : ((keys ++ keys').map Key.slot).Nodup) : Read (keys ++ keys') b b'' := by
  rw [List.map_append, List.nodup_append] at hslots
  obtain ⟨-, -, hdisjoint⟩ := hslots
  refine ⟨hread'.cfg.trans hread.cfg, hread'.raw.trans hread.raw, ?_, ?_⟩
  · intro key hkey
    rcases List.mem_append.mp hkey with hkey | hkey
    · have hslot : key.slot ∉ keys'.map Key.slot := fun hmem =>
        hdisjoint _ (List.mem_map_of_mem hkey) _ hmem rfl
      rw [hread'.other _ hslot, hread.level key hkey]
    · rw [hread'.level key hkey, readBool_congr hread.raw]
  · intro slot hslot
    rw [List.map_append, List.mem_append, not_or] at hslot
    rw [hread'.other slot hslot.2, hread.other slot hslot.1]

theorem Read.acted (hread : Read keys b b') (hpanel : b'.panel = b.panel)
    (hslots : ((keys ++ keys').map Key.slot).Nodup) (hacted : Acted keys' b' b'') : Acted keys' b b'' := by
  rw [List.map_append, List.nodup_append] at hslots
  obtain ⟨fired, hsub, hpressed, hact⟩ := hacted
  refine ⟨fired, hsub, fun key hkey => ?_, hpanel ▸ hact⟩
  have hslot : key.slot ∉ keys.map Key.slot := fun hmem =>
    hslots.2.2 _ hmem _ (List.mem_map_of_mem (hsub.subset hkey)) rfl
  have h := hpressed key hkey
  rwa [readBool_congr hread.raw, hread.other _ hslot] at h

theorem Acted.congr (hacted : Acted keys b b') (hpanel : b''.panel = b'.panel) : Acted keys b b'' := by
  obtain ⟨fired, hsub, hpressed, hact⟩ := hacted
  exact ⟨fired, hsub, hpressed, hpanel.trans hact⟩

theorem foldl_active (hsound : ∀ key ∈ keys, key.Sound) (p : Panel F) :
    (keys.foldl (fun p key => key.on p) p).active = p.active := by
  induction keys generalizing p with
  | nil => rfl
  | cons key keys ih =>
    obtain ⟨hkey, hsound⟩ := List.forall_mem_cons.mp hsound
    rw [List.foldl_cons, ih hsound, hkey.active]

theorem Acted.active (hacted : Acted keys b b') (hsound : ∀ key ∈ keys, key.Sound) :
    b'.panel.active = b.panel.active := by
  obtain ⟨fired, hsub, -, hact⟩ := hacted
  rw [hact, foldl_active fun key hkey => hsound key (hsub.subset hkey)]

theorem foldl_press (hsound : ∀ key ∈ keys, key.Sound) (hslots : (keys.map Key.slot).Nodup)
    (b : ControllerBridge F) :
    Read keys b (keys.foldl (press now_ms) b) ∧ Acted keys b (keys.foldl (press now_ms) b) := by
  induction keys generalizing b with
  | nil => exact ⟨.nil rfl rfl rfl, [], .slnil, nofun, rfl⟩
  | cons key keys ih =>
    obtain ⟨hkey, hsound⟩ := List.forall_mem_cons.mp hsound
    obtain ⟨hcfg, hraw, hown, hother, hact⟩ := @press_spec F b now_ms key hkey
    obtain ⟨hread, hacted⟩ := ih hsound (List.nodup_cons.mp hslots).2 (press now_ms b key)
    have hfirst : Read [key] b (press now_ms b key) := by
      refine ⟨hcfg, hraw, fun key' hkey' => ?_, fun slot hslot => hother slot fun heq => hslot ?_⟩
      · rw [List.mem_singleton.mp hkey']
        exact hown
      · exact List.mem_singleton.mpr heq.symm
    rw [List.foldl_cons]
    refine ⟨hfirst.append hread hslots, ?_⟩
    rcases hact with ⟨hdown, hup, hon⟩ | hkept
    · obtain ⟨fired, hsub, hpressed, hpanel⟩ := hacted
      have hpressed' (key' : Key F) (hkey' : key' ∈ fired) :
          b.readBool key'.source = true ∧ (b.edge key'.slot).1 = false := by
        have hne : key.slot ≠ key'.slot := fun heq =>
          (List.nodup_cons.mp hslots).1 (heq ▸ List.mem_map_of_mem (hsub.subset hkey'))
        have h := hpressed key' hkey'
        rwa [readBool_congr hraw, hother _ hne] at h
      refine ⟨key :: fired, hsub.cons_cons key, List.forall_mem_cons.mpr ⟨⟨hdown, hup⟩, hpressed'⟩, ?_⟩
      rw [hpanel, hon, List.foldl_cons]
    · obtain ⟨fired, hsub, hpressed, hpanel⟩ := hfirst.acted hkept hslots hacted
      exact ⟨fired, hsub.cons key, hpressed, hpanel⟩

theorem foldl_editKey (hsound : ∀ key ∈ keys, key.Sound) (hread : b.readBool = b'.readBool) (edited : Bool) :
    (keys.foldl (fun edited key => editKey key.slot (b'.readBool key.source) now_ms key.act edited)
      (edited, b)).2 = keys.foldl (press now_ms) b := by
  induction keys generalizing b edited with
  | nil => rfl
  | cons key keys ih =>
    obtain ⟨hkey, hsound⟩ := List.forall_mem_cons.mp hsound
    have hraw := (@press_spec F b now_ms key hkey).2.1
    have hpress : (editKey key.slot (b'.readBool key.source) now_ms key.act (edited, b)).2 =
        press now_ms b key := by
      rw [← hread]
      rfl
    rw [List.foldl_cons, List.foldl_cons, ← ih hsound ((readBool_congr hraw).trans hread), ← hpress]

def follow (b : ControllerBridge F) (key : Key F) : ControllerBridge F :=
  b.setEdge key.slot (b.readBool key.source)

theorem foldl_follow (hsound : ∀ key ∈ keys, key.Sound) (hslots : (keys.map Key.slot).Nodup)
    (b : ControllerBridge F) :
    Read keys b (keys.foldl follow b) ∧ (keys.foldl follow b).panel = b.panel := by
  induction keys generalizing b with
  | nil => exact ⟨.nil rfl rfl rfl, rfl⟩
  | cons key keys ih =>
    obtain ⟨hkey, hsound⟩ := List.forall_mem_cons.mp hsound
    obtain ⟨hread, hpanel⟩ := ih hsound (List.nodup_cons.mp hslots).2 (follow b key)
    have hfirst : Read [key] b (follow b key) := by
      refine ⟨rfl, rfl, fun key' hkey' => ?_, fun slot hslot => ?_⟩
      · rw [List.mem_singleton.mp hkey']
        exact congrArg Prod.fst (edge_setEdge b _ hkey.slot)
      · exact edge_setEdge_of_ne b _ fun heq => hslot (List.mem_singleton.mpr heq.symm)
    rw [List.foldl_cons]
    exact ⟨hfirst.append hread hslots, hpanel⟩

end Reading

end ControllerBridge

namespace Panel

/-- The editor is switched on or off, which selects its first parameter, or stays as it is. -/
def toggled (p : Panel F) (active : Bool) : Panel F :=
  { p with active, gait_tune_param := if active = p.active then p.gait_tune_param else 0 }

section Steps

variable [FloatExp F]

def clearTrim (p : Panel F) : Panel F := { p with trim_roll := lit 0, trim_pitch := lit 0 }

def nudgePitch (step : F) (p : Panel F) : Panel F :=
  { p with trim_pitch := clampf (p.trim_pitch + step) (-kTrimMaxRad) kTrimMaxRad }

def nudgeRoll (step : F) (p : Panel F) : Panel F :=
  { p with trim_roll := clampf (p.trim_roll + step) (-kTrimMaxRad) kTrimMaxRad }

def moveParam (step : UInt8) (p : Panel F) : Panel F :=
  { p with gait_tune_param := (p.gait_tune_param + step) % 3 }

def nudgeParam (step : F) (p : Panel F) : Panel F :=
  { p with
    gait_tune_frac := p.gait_tune_frac.setIfInBounds p.gait_tune_param.toNat
      (clampf (p.gait_tune_frac.getD p.gait_tune_param.toNat (lit 0) + step) (lit 0) (lit 1)) }

def requestSave (p : Panel F) : Panel F := { p with gait_tune_save_seq := p.gait_tune_save_seq + 1 }

end Steps

end Panel

namespace ControllerBridge

/-- The switch of the editor changes its own slot only, and the editor is on or off afterwards. -/
theorem toggleGaitTune_spec (b : ControllerBridge F) (now_ms : UInt32) :
    (b.toggleGaitTune now_ms).cfg = b.cfg ∧ (b.toggleGaitTune now_ms).raw = b.raw ∧
      (∀ slot, kGaitTuneEdgeBase ≠ slot → (b.toggleGaitTune now_ms).edge slot = b.edge slot) ∧
      (b.toggleGaitTune now_ms).panel = b.panel.toggled (b.toggleGaitTune now_ms).panel.active := by
  have hcore := core_toggleGaitTune b now_ms
  refine ⟨congrArg BridgeCore.cfg hcore, congrArg BridgeCore.raw hcore,
    fun slot hne => edge_toggleGaitTune_of_ne b now_ms hne, ?_⟩
  have hkept (p : Panel F) : p.toggled p.active = p := by
    unfold Panel.toggled
    rw [if_pos rfl]
  have hflipped {p : Panel F} {active : Bool} (hne : active ≠ p.active) :
      p.toggled active = { p with active, gait_tune_param := 0 } := by
    unfold Panel.toggled
    rw [if_neg hne]
  unfold toggleGaitTune
  dsimp only
  by_cases hsw : (b.cfg.gait_tune_toggle == .swG) = true
  · rw [if_pos hsw, if_pos hsw]
    split_ifs with hchanged
    · exact (hflipped (p := b.panel) (bne_iff_ne.mp hchanged)).symm
    · exact (hkept b.panel).symm
  · rw [if_neg hsw]
    have hpanel := @panel_risingEdge _ b kGaitTuneEdgeBase (b.readBool b.cfg.gait_tune_toggle) now_ms
    have hcfg := @cfg_risingEdge _ b kGaitTuneEdgeBase (b.readBool b.cfg.gait_tune_toggle) now_ms
    generalize b.risingEdge kGaitTuneEdgeBase (b.readBool b.cfg.gait_tune_toggle) now_ms = r at hpanel hcfg ⊢
    rw [← hcfg] at hsw
    rw [if_neg hsw, ← hpanel]
    split_ifs
    · exact (hflipped (p := r.2.panel) (Bool.not_ne_self r.2.panel.active)).symm
    · exact (hkept r.2.panel).symm

theorem updateTricks_spec (b : ControllerBridge F) (now_ms : UInt32) :
    (b.updateTricks now_ms).panel = b.panel ∧
      ∀ slot, kTrimEdgeBase ≤ slot → (b.updateTricks now_ms).edge slot = b.edge slot := by
  constructor
  · refine List.foldlRecOn (motive := fun b' : ControllerBridge F => b'.panel = b.panel) _ _ rfl ?_
    intro b' hb' i _
    have htrigger (slot : Nat) (level : Bool) :
        (b'.repeatingTrickTrigger slot level now_ms).2.panel = b'.panel := by
      unfold repeatingTrickTrigger
      dsimp only
      split_ifs <;> rfl
    rw [← hb']
    unfold updateTrick
    dsimp only
    split_ifs
    · rfl
    · rfl
    · exact htrigger _ _
    · exact htrigger _ _
  · intro slot hslot
    have hout := (@edge_foldl_updateTrick F now_ms _ (List.nodup_finRange kMaxTrickBindings)
      { b with cmd.trick := .none }).2 slot
    exact hout fun i _ heq => absurd (heq ▸ i.isLt) (Nat.not_lt.mpr hslot)

theorem panel_onEdge {b : ControllerBridge F} {now_ms : UInt32} {slot : Nat} {level : Bool}
    {act : ControllerBridge F → ControllerBridge F} (hact : ∀ b, (act b).panel = b.panel) :
    (b.onEdge slot level now_ms act).panel = b.panel := by
  have hrising := @panel_risingEdge _ b slot level now_ms
  unfold onEdge
  dsimp only
  split_ifs
  · rw [hact, hrising]
  · exact hrising

variable [FloatExp F]

/-- The keys of the trim, in the order of `updatePoseTrim`. -/
def trimKeys (cfg : BindingConfig F) : List (Key F) := [
  ⟨kTrimEdgeBase + 4, cfg.trim_reset, clearTrim, Panel.clearTrim⟩,
  ⟨kTrimEdgeBase, cfg.trim_pitch_up, nudgePitch kTrimStepRad, Panel.nudgePitch kTrimStepRad⟩,
  ⟨kTrimEdgeBase + 1, cfg.trim_pitch_down, nudgePitch (-kTrimStepRad), Panel.nudgePitch (-kTrimStepRad)⟩,
  ⟨kTrimEdgeBase + 2, cfg.trim_roll_left, nudgeRoll (-kTrimStepRad), Panel.nudgeRoll (-kTrimStepRad)⟩,
  ⟨kTrimEdgeBase + 3, cfg.trim_roll_right, nudgeRoll kTrimStepRad, Panel.nudgeRoll kTrimStepRad⟩]

/-- The keys of the editor, in the order of `updateGaitTune`. -/
def tuneKeys (cfg : BindingConfig F) : List (Key F) := [
  ⟨kGaitTuneEdgeBase + 1, cfg.gait_tune_next, moveParam 1, Panel.moveParam 1⟩,
  ⟨kGaitTuneEdgeBase + 2, cfg.gait_tune_prev, moveParam 2, Panel.moveParam 2⟩,
  ⟨kGaitTuneEdgeBase + 3, cfg.gait_tune_increase, nudgeParam kGaitTuneStepFrac,
    Panel.nudgeParam kGaitTuneStepFrac⟩,
  ⟨kGaitTuneEdgeBase + 4, cfg.gait_tune_decrease, nudgeParam (-kGaitTuneStepFrac),
    Panel.nudgeParam (-kGaitTuneStepFrac)⟩,
  ⟨kGaitTuneEdgeBase + 5, cfg.gait_tune_save, requestSave, Panel.requestSave⟩]

theorem trimKeys_sound (cfg : BindingConfig F) : ∀ key ∈ trimKeys cfg, key.Sound := by
  simp only [trimKeys, List.forall_mem_cons]
  refine ⟨?_, ?_, ?_, ?_, ?_, nofun⟩
  all_goals exact ⟨by dsimp only; decide, fun _ => ⟨rfl, rfl, rfl⟩, fun _ => rfl, fun _ => rfl⟩

theorem tuneKeys_sound (cfg : BindingConfig F) : ∀ key ∈ tuneKeys cfg, key.Sound := by
  simp only [tuneKeys, List.forall_mem_cons]
  refine ⟨?_, ?_, ?_, ?_, ?_, nofun⟩
  all_goals exact ⟨by dsimp only; decide, fun _ => ⟨rfl, rfl, rfl⟩, fun _ => rfl, fun _ => rfl⟩

theorem trimKeys_slots (cfg : BindingConfig F) :
    (trimKeys cfg).map Key.slot = [kTrimEdgeBase + 4, kTrimEdgeBase, kTrimEdgeBase + 1, kTrimEdgeBase + 2,
      kTrimEdgeBase + 3] := rfl

theorem tuneKeys_slots (cfg : BindingConfig F) :
    (tuneKeys cfg).map Key.slot = [kGaitTuneEdgeBase + 1, kGaitTuneEdgeBase + 2, kGaitTuneEdgeBase + 3,
      kGaitTuneEdgeBase + 4, kGaitTuneEdgeBase + 5] := rfl

theorem keys_slots (cfg : BindingConfig F) : ((trimKeys cfg ++ tuneKeys cfg).map Key.slot).Nodup := by
  rw [List.map_append, trimKeys_slots, tuneKeys_slots]
  decide

theorem trimKeys_nodup (cfg : BindingConfig F) : ((trimKeys cfg).map Key.slot).Nodup := by
  have hslots := keys_slots cfg
  rw [List.map_append] at hslots
  exact (List.nodup_append.mp hslots).1

theorem tuneKeys_nodup (cfg : BindingConfig F) : ((tuneKeys cfg).map Key.slot).Nodup := by
  have hslots := keys_slots cfg
  rw [List.map_append] at hslots
  exact (List.nodup_append.mp hslots).2.1

/-! ## The two groups in a frame -/

section Groups

variable {b b' : ControllerBridge F} {now_ms : UInt32}

theorem updatePoseTrim_eq (b : ControllerBridge F) (now_ms : UInt32) :
    b.updatePoseTrim now_ms = (trimKeys b.cfg).foldl (press now_ms) b := by
  have hcfg {act : ControllerBridge F → ControllerBridge F} (hact : ∀ b, (act b).core = b.core)
      (b : ControllerBridge F) (slot : Nat) (level : Bool) : (b.onEdge slot level now_ms act).cfg = b.cfg :=
    congrArg BridgeCore.cfg (core_onEdge b now_ms slot level hact)
  have hclear (b : ControllerBridge F) : (clearTrim b).core = b.core := rfl
  have hpitch (step : F) (b : ControllerBridge F) : (nudgePitch step b).core = b.core := rfl
  have hroll (step : F) (b : ControllerBridge F) : (nudgeRoll step b).core = b.core := rfl
  unfold updatePoseTrim
  simp only [hcfg hclear, hcfg (hpitch _), hcfg (hroll _)]
  rfl

theorem updatePoseTrim_spec (b : ControllerBridge F) (now_ms : UInt32) :
    Read (trimKeys b.cfg) b (b.updatePoseTrim now_ms) ∧ Acted (trimKeys b.cfg) b (b.updatePoseTrim now_ms) := by
  rw [updatePoseTrim_eq]
  exact foldl_press (trimKeys_sound b.cfg) (trimKeys_nodup b.cfg) b

theorem followTrimEdges_spec (b : ControllerBridge F) :
    Read (trimKeys b.cfg) b b.followTrimEdges ∧ b.followTrimEdges.panel = b.panel := by
  -- here the key of the reset comes last
  have hperm : ((trimKeys b.cfg).rotate 1).Perm (trimKeys b.cfg) := List.rotate_perm _ 1
  obtain ⟨hread, hpanel⟩ := foldl_follow (fun key hkey => trimKeys_sound b.cfg key (hperm.mem_iff.mp hkey))
    ((hperm.map Key.slot).nodup_iff.mpr (trimKeys_nodup b.cfg)) b
  exact ⟨hread.perm hperm, hpanel⟩

theorem followGaitTuneEdges_spec (b : ControllerBridge F) :
    Read (tuneKeys b.cfg) b b.followGaitTuneEdges ∧ b.followGaitTuneEdges.panel = b.panel :=
  foldl_follow (tuneKeys_sound b.cfg) (tuneKeys_nodup b.cfg) b

theorem updateGaitTune_spec (b : ControllerBridge F) (now_ms : UInt32) :
    ((b.toggleGaitTune now_ms).panel.active = false →
      Read (tuneKeys b.cfg) (b.toggleGaitTune now_ms) (b.updateGaitTune now_ms) ∧
        (b.updateGaitTune now_ms).panel = (b.toggleGaitTune now_ms).panel) ∧
    ((b.toggleGaitTune now_ms).panel.active = true →
      Read (trimKeys b.cfg ++ tuneKeys b.cfg) (b.toggleGaitTune now_ms) (b.updateGaitTune now_ms) ∧
        Acted (tuneKeys b.cfg) (b.toggleGaitTune now_ms) (b.updateGaitTune now_ms)) := by
  have hcfg := (toggleGaitTune_spec b now_ms).1
  unfold updateGaitTune
  generalize b.toggleGaitTune now_ms = b' at hcfg ⊢
  rw [← hcfg]
  constructor
  · intro hoff
    rw [if_pos (by rw [show b'.cmd.gait_tune_active = false from hoff]; rfl)]
    exact followGaitTuneEdges_spec b'
  · intro hon
    rw [if_neg (by rw [show b'.cmd.gait_tune_active = true from hon]; decide)]
    obtain ⟨hread, hpanel⟩ := followTrimEdges_spec b'
    obtain ⟨hread', hacted⟩ :=
      @foldl_press F (tuneKeys b'.cfg) now_ms (tuneKeys_sound b'.cfg) (tuneKeys_nodup b'.cfg) b'.followTrimEdges
    have hslots := keys_slots b'.cfg
    have hboth := hread.append hread' hslots
    have hacted' := hread.acted hpanel hslots hacted
    lift_lets
    intro key edited₀ edited₁ edited₂ edited₃ edited₄ edited₅
    have hedited : edited₅ = (tuneKeys b'.cfg).foldl
      (fun edited key => editKey key.slot (b'.readBool key.source) now_ms key.act edited)
      (false, b'.followTrimEdges) := by
      unfold tuneKeys
      simp only [List.foldl_cons, List.foldl_nil]
      rfl
    have hedits := @foldl_editKey F _ _ _ now_ms (tuneKeys_sound b'.cfg) (readBool_congr hread.raw) false
    rw [← hedited] at hedits
    clear_value edited₅
    rw [← hedits] at hboth hacted'
    split
    · exact ⟨⟨hboth.1, hboth.2, hboth.3, hboth.4⟩, hacted'⟩
    · exact ⟨hboth, hacted'⟩

def ownedKeys (cfg : BindingConfig F) (active : Bool) : List (Key F) :=
  if active then tuneKeys cfg else trimKeys cfg

theorem ownedKeys_subset (cfg : BindingConfig F) (active : Bool) :
    ∀ key ∈ ownedKeys cfg active, key ∈ trimKeys cfg ++ tuneKeys cfg := by
  intro key hkey
  unfold ownedKeys at hkey
  split_ifs at hkey
  · exact List.mem_append_right _ hkey
  · exact List.mem_append_left _ hkey

def KeysFollow (b : ControllerBridge F) : Prop :=
  ∀ key ∈ trimKeys b.cfg ++ tuneKeys b.cfg, (b.edge key.slot).1 = b.readBool key.source

theorem keys_slot_of_mem (cfg : BindingConfig F) {key : Key F} (hkey : key ∈ trimKeys cfg ++ tuneKeys cfg) :
    kTrimEdgeBase ≤ key.slot ∧ kGaitTuneEdgeBase ≠ key.slot ∧ kCaptureEdge ≠ key.slot := by
  have hslots : ∀ slot ∈ (trimKeys cfg ++ tuneKeys cfg).map Key.slot,
      kTrimEdgeBase ≤ slot ∧ kGaitTuneEdgeBase ≠ slot ∧ kCaptureEdge ≠ slot := by
    rw [List.map_append, trimKeys_slots, tuneKeys_slots]
    decide
  exact hslots _ (List.mem_map_of_mem hkey)

/-- After both groups were read, the slots of the keys have the levels of the buttons, and the keys of the side
that is on have acted. -/
theorem updateKeys_spec (b : ControllerBridge F) (now_ms : UInt32) {b₂ b₃ : ControllerBridge F}
    (hb₂ : b₂.keyState = (b.updateGaitTune now_ms).keyState)
    (hb₃ : b₃ = if b₂.cmd.gait_tune_active then b₂ else b₂.updatePoseTrim now_ms) :
    Read (trimKeys b.cfg ++ tuneKeys b.cfg) (b.toggleGaitTune now_ms) b₃ ∧
      Acted (ownedKeys b.cfg (b.toggleGaitTune now_ms).panel.active) (b.toggleGaitTune now_ms) b₃ := by
  have hcfg := (toggleGaitTune_spec b now_ms).1
  obtain ⟨hoff, hon⟩ := updateGaitTune_spec b now_ms
  generalize b.updateGaitTune now_ms = b' at hb₂ hoff hon
  generalize b.toggleGaitTune now_ms = b₁ at hcfg hoff hon ⊢
  have hedge := edge_congr hb₂
  have hpanel : b₂.panel = b'.panel := congrArg KeyState.panel hb₂
  have hcfg₂ : b₂.cfg = b'.cfg := congrArg KeyState.cfg hb₂
  have hraw₂ : b₂.raw = b'.raw := congrArg KeyState.raw hb₂
  have hread₂ {keys : List (Key F)} (hread : Read keys b₁ b') : Read keys b₁ b₂ :=
    ⟨hcfg₂.trans hread.cfg, hraw₂.trans hread.raw, hedge ▸ hread.level, hedge ▸ hread.other⟩
  cases hactive : b₁.panel.active with
  | true =>
    obtain ⟨hread, hacted⟩ := hon hactive
    have hon₂ : b₂.cmd.gait_tune_active = true := by
      show b₂.panel.active = true
      rw [hpanel, hacted.active (tuneKeys_sound b.cfg), hactive]
    rw [hb₃, if_pos hon₂]
    exact ⟨hread₂ hread, hacted.congr hpanel⟩
  | false =>
    obtain ⟨hread, hkept⟩ := hoff hactive
    have hoff₂ : ¬ b₂.cmd.gait_tune_active = true := by
      show ¬ b₂.panel.active = true
      rw [hpanel, hkept, hactive]
      exact Bool.false_ne_true
    rw [hb₃, if_neg hoff₂]
    have hpose := updatePoseTrim_spec b₂ now_ms
    rw [hcfg₂.trans (hread.cfg.trans hcfg)] at hpose
    have hperm := @List.perm_append_comm _ (tuneKeys b.cfg) (trimKeys b.cfg)
    have hslots := (hperm.map Key.slot).nodup_iff.mpr (keys_slots b.cfg)
    exact ⟨((hread₂ hread).append hpose.1 hslots).perm hperm,
      (hread₂ hread).acted (hpanel.trans hkept) hslots hpose.2⟩

theorem exists_keysRead (b : ControllerBridge F) (now_ms : UInt32) : ∃ b₁ b₂ : ControllerBridge F,
    b₁.keyState = b.keyState ∧ Read (trimKeys b₁.cfg ++ tuneKeys b₁.cfg) (b₁.toggleGaitTune now_ms) b₂ ∧
      Acted (ownedKeys b₁.cfg (b₁.toggleGaitTune now_ms).panel.active) (b₁.toggleGaitTune now_ms) b₂ ∧
      (b.decode now_ms).panel = b₂.panel ∧
      ∀ slot, kTrimEdgeBase ≤ slot → kCaptureEdge ≠ slot → (b.decode now_ms).edge slot = b₂.edge slot := by
  have hbefore := keyState_beforeKeys b now_ms
  have hcapture (b : ControllerBridge F) : (toggleCapture b).edge = b.edge := rfl
  unfold decode
  lift_lets
  intro b₁ b₂ b₃ b₄ b₅
  have hread := @updateKeys_spec F _ b₂ now_ms b₃ b₄ (keyState_afterKeys _) rfl
  clear_value b₄
  have hpanel₅ : b₅.panel = b₄.panel := panel_onEdge fun _ => rfl
  have hedge₅ (slot : Nat) (hne : kCaptureEdge ≠ slot) : b₅.edge slot = b₄.edge slot :=
    edge_onEdge_of_ne b₄ now_ms hcapture hne
  clear_value b₅
  have hkeys := keyState_updateCaptureStart b₅ now_ms
  obtain ⟨hpanel, hedge⟩ := updateTricks_spec (b₅.updateCaptureStart now_ms) now_ms
  refine ⟨b₂, b₄, hbefore, hread.1, hread.2, ?_, fun slot hslot hne => ?_⟩
  · exact hpanel.trans ((congrArg KeyState.panel hkeys).trans hpanel₅)
  · rw [hedge slot hslot, edge_congr hkeys, hedge₅ slot hne]

theorem keys_decode (b : ControllerBridge F) (now_ms : UInt32) :
    KeysFollow (b.decode now_ms) ∧ ∃ fired : List (Key F),
      fired.Sublist (ownedKeys b.cfg (b.decode now_ms).panel.active) ∧
      (∀ key ∈ fired, b.readBool key.source = true ∧ (b.edge key.slot).1 = false) ∧
      (b.decode now_ms).panel =
        fired.foldl (fun p key => key.on p) (b.panel.toggled (b.decode now_ms).panel.active) := by
  obtain ⟨hcfg, hraw, -⟩ := inputs_decode b now_ms
  obtain ⟨b₁, b₂, hsame, hread, hacted, hpanel, hedge⟩ := exists_keysRead b now_ms
  obtain ⟨htoggleCfg, htoggleRaw, htoggleEdge, htoggled⟩ := toggleGaitTune_spec b₁ now_ms
  have hcfg₁ : b₁.cfg = b.cfg := congrArg KeyState.cfg hsame
  have hraw₁ : b₁.raw = b.raw := congrArg KeyState.raw hsame
  have hpanel₁ : b₁.panel = b.panel := congrArg KeyState.panel hsame
  have hedge₁ := edge_congr hsame
  generalize b.decode now_ms = b' at hcfg hraw hpanel hedge ⊢
  generalize b₁.toggleGaitTune now_ms = b₀ at hread hacted htoggleCfg htoggleRaw htoggleEdge htoggled
  rw [hcfg₁] at hread hacted
  constructor
  · intro key hkey
    rw [hcfg] at hkey
    obtain ⟨hslot, -, hne⟩ := keys_slot_of_mem b.cfg hkey
    rw [hedge key.slot hslot hne, hread.level key hkey,
      readBool_congr (htoggleRaw.trans (hraw₁.trans hraw.symm))]
  · have hactive : b'.panel.active = b₀.panel.active := by
      rw [hpanel]
      refine hacted.active fun key hkey => ?_
      rcases List.mem_append.mp (ownedKeys_subset b.cfg _ key hkey) with htrim | htune
      · exact trimKeys_sound b.cfg key htrim
      · exact tuneKeys_sound b.cfg key htune
    obtain ⟨fired, hsub, hpressed, hact⟩ := hacted
    refine ⟨fired, hactive ▸ hsub, fun key hkey => ?_, ?_⟩
    · have hne := (keys_slot_of_mem b.cfg (ownedKeys_subset b.cfg _ key (hsub.subset hkey))).2.1
      have h := hpressed key hkey
      rwa [readBool_congr (htoggleRaw.trans hraw₁), htoggleEdge key.slot hne, hedge₁] at h
    · rw [hactive, ← hpanel₁, ← htoggled, hpanel, hact]

end Groups

/-- The trim and the editor have the same buttons, all of them different. -/
structure SharedKeys (cfg : BindingConfig F) : Prop where
  distinct : ((trimKeys cfg).map Key.source).Nodup
  shared : ((tuneKeys cfg).map Key.source).Perm ((trimKeys cfg).map Key.source)

/-- A press of a button acts on the editor while that is on, and on the trim while it is off. -/
def pressOn (cfg : BindingConfig F) (p : Panel F) (source : BoolSource) : Panel F :=
  match (ownedKeys cfg p.active).find? (·.source == source) with
  | some key => key.on p
  | none => p

section Presses

variable {cfg : BindingConfig F} {active : Bool}

theorem SharedKeys.sources (hshared : SharedKeys cfg) (active : Bool) :
    ((ownedKeys cfg active).map Key.source).Perm ((trimKeys cfg).map Key.source) := by
  unfold ownedKeys
  split_ifs
  · exact hshared.shared
  · exact .refl _

theorem SharedKeys.nodup (hshared : SharedKeys cfg) (active : Bool) :
    ((ownedKeys cfg active).map Key.source).Nodup :=
  (hshared.sources active).nodup_iff.mpr hshared.distinct

theorem ownedKeys_sound (cfg : BindingConfig F) (active : Bool) : ∀ key ∈ ownedKeys cfg active, key.Sound := by
  unfold ownedKeys
  split_ifs
  · exact tuneKeys_sound cfg
  · exact trimKeys_sound cfg

theorem pressOn_of_mem (hshared : SharedKeys cfg) {p : Panel F} {key : Key F}
    (hkey : key ∈ ownedKeys cfg p.active) : pressOn cfg p key.source = key.on p := by
  have hfind : (ownedKeys cfg p.active).find? (·.source == key.source) = some key := by
    cases h : (ownedKeys cfg p.active).find? (·.source == key.source) with
    | none => exact absurd (beq_self_eq_true key.source) (List.find?_eq_none.mp h key hkey)
    | some key' =>
      have hsource : (key'.source == key.source) = true := by
        simpa only using List.find?_some h
      rw [List.inj_on_of_nodup_map (hshared.nodup p.active) (List.mem_of_find?_eq_some h) hkey
        (beq_iff_eq.mp hsource)]
  unfold pressOn
  rw [hfind]

theorem foldl_pressOn (hshared : SharedKeys cfg) {fired : List (Key F)} {p : Panel F}
    (hfired : ∀ key ∈ fired, key ∈ ownedKeys cfg p.active) :
    (fired.map Key.source).foldl (pressOn cfg) p = fired.foldl (fun p key => key.on p) p := by
  induction fired generalizing p with
  | nil => rfl
  | cons key fired ih =>
    obtain ⟨hkey, hfired⟩ := List.forall_mem_cons.mp hfired
    rw [List.map_cons, List.foldl_cons, List.foldl_cons, pressOn_of_mem hshared hkey]
    rw [← (ownedKeys_sound cfg p.active key hkey).active p] at hfired
    exact ih hfired

omit [FloatExp F] in
theorem foldl_on_kept {β : Type} (view : Panel F → β) {fired : List (Key F)}
    (hkept : ∀ key ∈ fired, ∀ p, view (key.on p) = view p) (p : Panel F) :
    view (fired.foldl (fun p key => key.on p) p) = view p := by
  induction fired generalizing p with
  | nil => rfl
  | cons key fired ih =>
    obtain ⟨hkey, hkept⟩ := List.forall_mem_cons.mp hkept
    exact (ih hkept (key.on p)).trans (hkey p)

theorem trim_foldl_tuneKeys {fired : List (Key F)} (hfired : ∀ key ∈ fired, key ∈ tuneKeys cfg) (p : Panel F) :
    (fired.foldl (fun p key => key.on p) p).trim_roll = p.trim_roll ∧
      (fired.foldl (fun p key => key.on p) p).trim_pitch = p.trim_pitch := by
  have hkept : ∀ key ∈ tuneKeys cfg, ∀ p, (key.on p).trim_roll = p.trim_roll ∧
      (key.on p).trim_pitch = p.trim_pitch := by
    simp only [tuneKeys, List.forall_mem_cons]
    exact ⟨fun _ => ⟨rfl, rfl⟩, fun _ => ⟨rfl, rfl⟩, fun _ => ⟨rfl, rfl⟩, fun _ => ⟨rfl, rfl⟩,
      fun _ => ⟨rfl, rfl⟩, nofun⟩
  constructor
  · exact foldl_on_kept Panel.trim_roll (fun key hkey p => (hkept key (hfired key hkey) p).1) p
  · exact foldl_on_kept Panel.trim_pitch (fun key hkey p => (hkept key (hfired key hkey) p).2) p

theorem tune_foldl_trimKeys {fired : List (Key F)} (hfired : ∀ key ∈ fired, key ∈ trimKeys cfg) (p : Panel F) :
    (fired.foldl (fun p key => key.on p) p).gait_tune_param = p.gait_tune_param ∧
      (fired.foldl (fun p key => key.on p) p).gait_tune_frac = p.gait_tune_frac ∧
      (fired.foldl (fun p key => key.on p) p).gait_tune_save_seq = p.gait_tune_save_seq := by
  have hkept : ∀ key ∈ trimKeys cfg, ∀ p, (key.on p).gait_tune_param = p.gait_tune_param ∧
      (key.on p).gait_tune_frac = p.gait_tune_frac ∧ (key.on p).gait_tune_save_seq = p.gait_tune_save_seq := by
    simp only [trimKeys, List.forall_mem_cons]
    exact ⟨fun _ => ⟨rfl, rfl, rfl⟩, fun _ => ⟨rfl, rfl, rfl⟩, fun _ => ⟨rfl, rfl, rfl⟩,
      fun _ => ⟨rfl, rfl, rfl⟩, fun _ => ⟨rfl, rfl, rfl⟩, nofun⟩
  refine ⟨?_, ?_, ?_⟩
  · exact foldl_on_kept Panel.gait_tune_param (fun key hkey p => (hkept key (hfired key hkey) p).1) p
  · exact foldl_on_kept Panel.gait_tune_frac (fun key hkey p => (hkept key (hfired key hkey) p).2.1) p
  · exact foldl_on_kept Panel.gait_tune_save_seq (fun key hkey p => (hkept key (hfired key hkey) p).2.2) p

end Presses

/-- The panel after the sliders of the TX16S, which move two fractions while the editor is off. -/
def slid (e : FrameEvent F) : Panel F :=
  if e.pre.detected_profile = .tx16sMk3Direct ∧ e.pre.panel.active = false then
    { e.pre.panel with
      gait_tune_frac :=
        #v[e.post.enc_accum.get 1, e.post.enc_accum.get 0, e.pre.panel.gait_tune_frac.get 2] }
  else e.pre.panel

/-- The panel that the presses of the frame find: the switch of the editor has been read. -/
def beforePresses (e : FrameEvent F) : Panel F := (slid e).toggled e.post.panel.active

/-- The button is down, and it was not down in the processed frame before. -/
structure FirstDown (source : BoolSource) (e : FrameEvent F) (past : List (FrameEvent F)) : Prop where
  shared : source ∈ (trimKeys e.pre.cfg).map Key.source
  down : e.post.readBool source = true
  first : ¬ Latest Processed (fun e => e.post.readBool source = true) past

/-- The changes of a frame are those of some of its presses, each of which acts once, and all of which act on
the editor, or all on the trim. -/
structure Owned (e : FrameEvent F) (past : List (FrameEvent F)) (pressed : List BoolSource) : Prop where
  once : pressed.Nodup
  first : ∀ source ∈ pressed, FirstDown source e past
  acted : e.post.panel = pressed.foldl (pressOn e.pre.cfg) (beforePresses e)
  editor : e.post.panel.active = true →
    e.post.panel.trim_roll = e.pre.panel.trim_roll ∧ e.post.panel.trim_pitch = e.pre.panel.trim_pitch
  trim : e.post.panel.active = false →
    e.post.panel.gait_tune_param = (beforePresses e).gait_tune_param ∧
      e.post.panel.gait_tune_frac = (beforePresses e).gait_tune_frac ∧
      e.post.panel.gait_tune_save_seq = (beforePresses e).gait_tune_save_seq

def OwnedFrame (e : FrameEvent F) (past : List (FrameEvent F)) : Prop :=
  (Processed e → ∃ pressed, Owned e past pressed) ∧ (¬ Processed e → e.post.panel = e.pre.panel)

section Run

variable {b b₀ : ControllerBridge F} {h : List (FrameEvent F)}

omit [FloatExp F] in
theorem trim_beforePresses (e : FrameEvent F) : (beforePresses e).trim_roll = e.pre.panel.trim_roll ∧
    (beforePresses e).trim_pitch = e.pre.panel.trim_pitch := by
  unfold beforePresses slid
  split_ifs
  · exact ⟨rfl, rfl⟩
  · exact ⟨rfl, rfl⟩

theorem panel_readIn {f : FrameCall} (heq : b.frame f = (b.readIn f.ch).decode f.now_ms) :
    (b.readIn f.ch).panel = slid ⟨b, f, b.frame f⟩ := by
  have haccum := (inputs_decode (b.readIn f.ch) f.now_ms).2.2
  rw [← heq] at haccum
  unfold slid
  rw [haccum]
  unfold readIn
  by_cases hdirect : b.detected_profile = .tx16sMk3Direct
  · rw [if_pos hdirect]
    by_cases hactive : b.panel.active = true
    · have hkept : (b.readDirect f.ch).gait_tune_frac = b.gait_tune_frac := if_pos hactive
      rw [if_neg fun h => Bool.false_ne_true (h.2.symm.trans hactive)]
      show { b.panel with gait_tune_frac := (b.readDirect f.ch).gait_tune_frac } = b.panel
      rw [hkept]
      rfl
    · have hmoved : (b.readDirect f.ch).gait_tune_frac =
          #v[(b.readDirect f.ch).enc_accum.get 1, (b.readDirect f.ch).enc_accum.get 0,
            b.panel.gait_tune_frac.get 2] :=
        if_neg hactive
      rw [if_pos ⟨hdirect, Bool.not_eq_true _ ▸ hactive⟩, ← hmoved]
      rfl
  · rw [if_neg hdirect, if_neg fun h => hdirect h.1]
    exact (edge_readCustom b f.ch).2.2

theorem keysFollow_frame (hlocked : b.link.ProfileLocked) (f : FrameCall)
    (hfollow : f.link_up = true ∨ KeysFollow b) : KeysFollow (b.frame f) := by
  rcases frame_cases hlocked f with ⟨hdown, heq⟩ | ⟨-, heq⟩
  · rw [heq]
    exact hfollow.resolve_left (by rw [hdown]; decide)
  · rw [heq]
    exact (keys_decode (b.readIn f.ch) f.now_ms).1

theorem level_of_latest (hlocked : b₀.link.ProfileLocked) (run : FrameRun b₀ h b) {key : Key F}
    (hkey : key ∈ trimKeys b.cfg ++ tuneKeys b.cfg)
    (hlatest : Latest Processed (fun e => e.post.readBool key.source = true) h) :
    (b.edge key.slot).1 = true := by
  have hfollow : Once Processed h → KeysFollow b := by
    refine run.history_invariant (fun h b => Once Processed h → KeysFollow b) ?_ ?_
    · rintro ⟨e, he, -⟩
      cases he
    · rintro h b f _ run ih rfl honce
      exact keysFollow_frame (locked_of_run hlocked run).1 f ((once_cons.mp honce).imp id ih)
  have hdown : b.readBool key.source = true := by
    refine run.history_invariant
      (fun h b => Latest Processed (fun e => e.post.readBool key.source = true) h →
        b.readBool key.source = true) ?_ ?_ hlatest
    · exact fun hnone => absurd hnone since_nil
    · rintro h b f _ run ih rfl hlatest
      rcases frame_cases (locked_of_run hlocked run).1 f with ⟨hdown, heq⟩ | ⟨hup, -⟩
      · have hnot : ¬ Processed (⟨b, f, b.frame f⟩ : FrameEvent F) := fun hprocessed =>
          Bool.false_ne_true (hdown.symm.trans hprocessed)
        rw [heq]
        exact ih ((latest_cons_of_not hnot).mp hlatest)
      · exact (latest_cons_of (e := (⟨b, f, b.frame f⟩ : FrameEvent F)) hup).mp hlatest
  obtain ⟨e, he, hprocessed, -⟩ := hlatest.once
  rw [hfollow ⟨e, he, hprocessed⟩ key hkey, hdown]

theorem ownedFrame (hlocked : b₀.link.ProfileLocked) (hshared : SharedKeys b₀.cfg) (run : FrameRun b₀ h b)
    (f : FrameCall) : OwnedFrame ⟨b, f, b.frame f⟩ h := by
  obtain ⟨hlocked', hcfg⟩ := locked_of_run hlocked run
  rw [← hcfg] at hshared
  rcases frame_cases hlocked' f with ⟨hdown, heq⟩ | ⟨hup, heq⟩
  · have hnot : ¬ Processed (⟨b, f, b.frame f⟩ : FrameEvent F) := fun hprocessed =>
      Bool.false_ne_true (hdown.symm.trans hprocessed)
    refine ⟨fun hprocessed => absurd hprocessed hnot, fun _ => ?_⟩
    show (b.frame f).panel = b.panel
    rw [heq]
    rfl
  · refine ⟨fun _ => ?_, fun hnot => absurd hup hnot⟩
    obtain ⟨hedge, hcfg'⟩ := edge_readIn b f.ch
    have hraw := (inputs_decode (b.readIn f.ch) f.now_ms).2.1
    obtain ⟨-, fired, hsub, hpressed, hact⟩ := keys_decode (b.readIn f.ch) f.now_ms
    rw [panel_readIn heq] at hact
    rw [← heq] at hraw hsub hact
    rw [hcfg'] at hsub
    rw [← readBool_congr hraw, hedge] at hpressed
    have hfired (key : Key F) (hkey : key ∈ fired) := hsub.subset hkey
    refine ⟨fired.map Key.source, (hshared.nodup _).sublist (hsub.map Key.source), ?_, ?_, ?_, ?_⟩
    · intro source hsource
      obtain ⟨key, hkey, rfl⟩ := List.mem_map.mp hsource
      refine ⟨?_, (hpressed key hkey).1, fun hlatest => ?_⟩
      · exact (hshared.sources _).mem_iff.mp (List.mem_map_of_mem (hfired key hkey))
      · have hlevel := level_of_latest hlocked run (ownedKeys_subset b.cfg _ key (hfired key hkey)) hlatest
        exact Bool.false_ne_true ((hpressed key hkey).2.symm.trans hlevel)
    · exact hact.trans (foldl_pressOn (p := beforePresses ⟨b, f, b.frame f⟩) hshared hfired).symm
    · intro hon
      rw [hon] at hfired
      obtain ⟨hroll, hpitch⟩ := trim_foldl_tuneKeys hfired (beforePresses ⟨b, f, b.frame f⟩)
      obtain ⟨hroll', hpitch'⟩ := trim_beforePresses (⟨b, f, b.frame f⟩ : FrameEvent F)
      exact ⟨(congrArg Panel.trim_roll hact).trans (hroll.trans hroll'),
        (congrArg Panel.trim_pitch hact).trans (hpitch.trans hpitch')⟩
    · intro hoff
      rw [hoff] at hfired
      obtain ⟨hparam, hfrac, hsave⟩ := tune_foldl_trimKeys hfired (beforePresses ⟨b, f, b.frame f⟩)
      exact ⟨(congrArg Panel.gait_tune_param hact).trans hparam,
        (congrArg Panel.gait_tune_frac hact).trans hfrac, (congrArg Panel.gait_tune_save_seq hact).trans hsave⟩

/-- Where the trim and the editor share their buttons, every change of a run is that of a press in its first
frame, and belongs to the editor exactly when that is on. -/
theorem press_owned (hlocked : b₀.link.ProfileLocked) (hshared : SharedKeys b₀.cfg) (run : FrameRun b₀ h b) :
    Historically OwnedFrame h := by
  induction run with
  | nil => trivial
  | step run hstep ih =>
    cases hstep
    exact ⟨ownedFrame hlocked hshared run _, ih⟩

end Run

/-- A frame at rest, but for the channels of the switches and of the two clusters. -/
def navFrame (switches nav : UInt16) (now_ms : UInt32) : FrameCall :=
  ⟨((Vector.replicate _ 992).set 8 switches).set 10 nav, true, now_ms⟩

/-- NAV1 up is pressed and held, also while the editor is switched on; it is released, pressed again and
held, also while the editor is switched off. -/
def heldOver : List FrameCall :=
  [navFrame 191 465 0, navFrame 191 465 20, navFrame 604 465 40, navFrame 604 191 200, navFrame 604 465 400,
    navFrame 604 465 420, navFrame 191 465 440]

/-- The default bindings. Only the second press moves the parameter of the editor, and only once. -/
theorem press_owned_heldOver :
    Historically OwnedFrame (executeHistory frame (lockedBridge ℝ) [] heldOver) ∧
      (executeHistory frame (lockedBridge ℝ) [] heldOver).map
          (fun e => (e.post.cmd.gait_tune_active, e.post.cmd.gait_tune_param)) =
        [(false, 0), (true, 1), (true, 1), (true, 0), (true, 0), (false, 0), (false, 0)] := by
  have hrun := run_execute frame heldOver
    (show FrameRun (lockedBridge ℝ) [] (lockedBridge ℝ) from .nil)
  refine ⟨press_owned locked_lockedBridge ⟨?_, ?_⟩ hrun, by decide +kernel⟩
  · show ([.nav1Center, .nav1Up, .nav1Down, .nav1Left, .nav1Right] : List BoolSource).Nodup
    decide
  · show List.Perm ([.nav1Up, .nav1Down, .nav1Right, .nav1Left, .nav1Center] : List BoolSource)
      [.nav1Center, .nav1Up, .nav1Down, .nav1Left, .nav1Right]
    decide

end ControllerBridge

end HexapodVerified.Input
