import HexapodVerified.Input.Proofs.EdgeSlotProofs

/-!
# Tricks around a capture hold

The two buttons that start a capture are also bound to tricks. While both are down their tricks are held back;
when one of them is released before the other, the trick of the other one repeats as soon as its last start is
long enough ago.
-/

namespace HexapodVerified.Input

open PastTime Transition

variable {F : Type}

namespace ControllerBridge

section Slots

variable (b : ControllerBridge F) (now_ms : UInt32) {slot slot' : Nat} {level : Bool}
  {act : ControllerBridge F → ControllerBridge F}

theorem edge_onEdge_of_ne (hact : ∀ b, (act b).edge = b.edge) (hne : slot ≠ slot') :
    (b.onEdge slot level now_ms act).edge slot' = b.edge slot' := by
  have hrising := edge_risingEdge_of_ne b level now_ms hne
  unfold onEdge
  dsimp only
  split
  · rw [hact, hrising]
  · exact hrising

theorem edge_editKey_of_ne (hact : ∀ b, (act b).edge = b.edge) (hne : slot ≠ slot')
    (edited : Bool × ControllerBridge F) :
    (editKey slot level now_ms act edited).2.edge slot' = edited.2.edge slot' :=
  edge_onEdge_of_ne edited.2 now_ms hact hne

theorem edge_toggleGaitTune_of_ne (hne : kGaitTuneEdgeBase ≠ slot') :
    (b.toggleGaitTune now_ms).edge slot' = b.edge slot' := by
  unfold toggleGaitTune
  dsimp only
  split
  · split
    · rfl
    · rfl
  · have hrising := edge_risingEdge_of_ne b (b.readBool b.cfg.gait_tune_toggle) now_ms hne
    split
    · exact hrising
    · exact hrising

theorem edge_followGaitTuneEdges_of_lt (hslot : slot < kGaitTuneEdgeBase) :
    b.followGaitTuneEdges.edge slot = b.edge slot := by
  unfold followGaitTuneEdges
  rw [edge_setEdge_of_ne _ _ (by omega), edge_setEdge_of_ne _ _ (by omega), edge_setEdge_of_ne _ _ (by omega),
    edge_setEdge_of_ne _ _ (by omega), edge_setEdge_of_ne _ _ (by omega)]

theorem edge_followTrimEdges_of_lt (hslot : slot < kTrimEdgeBase) :
    b.followTrimEdges.edge slot = b.edge slot := by
  unfold followTrimEdges
  rw [edge_setEdge_of_ne _ _ (by omega), edge_setEdge_of_ne _ _ (by omega), edge_setEdge_of_ne _ _ (by omega),
    edge_setEdge_of_ne _ _ (by omega), edge_setEdge_of_ne _ _ (by omega)]

variable [FloatExp F]

theorem edge_updatePoseTrim_of_lt (hslot : slot < kTrimEdgeBase) :
    (b.updatePoseTrim now_ms).edge slot = b.edge slot := by
  have hpitch (step : F) (b : ControllerBridge F) : (nudgePitch step b).edge = b.edge := rfl
  have hroll (step : F) (b : ControllerBridge F) : (nudgeRoll step b).edge = b.edge := rfl
  have hclear (b : ControllerBridge F) : (clearTrim b).edge = b.edge := rfl
  unfold updatePoseTrim
  rw [edge_onEdge_of_ne _ _ (hroll _) (by omega), edge_onEdge_of_ne _ _ (hroll _) (by omega),
    edge_onEdge_of_ne _ _ (hpitch _) (by omega), edge_onEdge_of_ne _ _ (hpitch _) (by omega),
    edge_onEdge_of_ne _ _ hclear (by omega)]

theorem edge_updateGaitTune_of_lt (hslot : slot < kTrimEdgeBase) :
    (b.updateGaitTune now_ms).edge slot = b.edge slot := by
  have hmove (step : UInt8) (b : ControllerBridge F) : (moveParam step b).edge = b.edge := rfl
  have hnudge (step : F) (b : ControllerBridge F) : (nudgeParam step b).edge = b.edge := rfl
  have hsave (b : ControllerBridge F) : (requestSave b).edge = b.edge := rfl
  have hbase : kTrimEdgeBase + 5 = kGaitTuneEdgeBase := rfl
  have htoggle : (b.toggleGaitTune now_ms).edge slot = b.edge slot :=
    edge_toggleGaitTune_of_ne b now_ms (by omega)
  unfold updateGaitTune
  lift_lets
  intro b' key edited₀ edited₁ edited₂ edited₃ edited₄ edited₅
  split
  · rw [edge_followGaitTuneEdges_of_lt _ (by omega)]
    exact htoggle
  · have hedited : edited₅.2.edge slot = b.edge slot := by
      rw [edge_editKey_of_ne _ hsave (by omega), edge_editKey_of_ne _ (hnudge _) (by omega),
        edge_editKey_of_ne _ (hnudge _) (by omega), edge_editKey_of_ne _ (hmove _) (by omega),
        edge_editKey_of_ne _ (hmove _) (by omega), edge_followTrimEdges_of_lt _ hslot]
      exact htoggle
    split
    · exact hedited
    · exact hedited

def beforeTricks : ControllerBridge F :=
  let b := ((b.updateConditionedInputs now_ms).updateConditionedToggles now_ms).acceptFrame now_ms
  let b := (b.readSafety now_ms).readSwitches
  let b := ((b.updateGaitTune now_ms).readShape).readMotion
  let b := if b.cmd.gait_tune_active then b else b.updatePoseTrim now_ms
  (b.onEdge kCaptureEdge (b.readBool .btn4) now_ms toggleCapture).updateCaptureStart now_ms

theorem decode_eq_updateTricks : b.decode now_ms = (b.beforeTricks now_ms).updateTricks now_ms := rfl

theorem edge_beforeTricks (hslot : slot < kTrimEdgeBase) : (b.beforeTricks now_ms).edge slot = b.edge slot := by
  have hbefore := edge_congr (keyState_beforeKeys b now_ms)
  have hcapture (b : ControllerBridge F) : (toggleCapture b).edge = b.edge := rfl
  unfold beforeTricks
  lift_lets
  intro b₁ b₂ b₃ b₄
  have h₂ : b₂.edge slot = b.edge slot := congrFun hbefore slot
  clear_value b₂
  have h₃ : b₃.edge slot = b₂.edge slot := by
    rw [edge_congr (keyState_afterKeys _), edge_updateGaitTune_of_lt b₂ now_ms hslot]
  clear_value b₃
  have h₄ : b₄.edge slot = b₃.edge slot := by
    unfold b₄
    split
    · rfl
    · exact edge_updatePoseTrim_of_lt b₃ now_ms hslot
  rw [edge_congr (keyState_updateCaptureStart _ now_ms),
    edge_onEdge_of_ne _ _ hcapture (by dsimp only [kCaptureEdge, kGaitTuneEdgeBase]; omega), h₄, h₃, h₂]

end Slots

def Bound (tb : TrickBinding) : Prop := tb.source ≠ .none ∧ tb.trick ≠ .none

def OnButton (tb : TrickBinding) : Prop := tb.source = .btn1 ∨ tb.source = .btn2

instance (tb : TrickBinding) : Decidable (Bound tb) := inferInstanceAs (Decidable (_ ∧ _))

instance (tb : TrickBinding) : Decidable (OnButton tb) := inferInstanceAs (Decidable (_ ∨ _))

/-- The slot starts its trick: the button is down and is not held back, and the last start is long enough ago. -/
structure Starts (b : ControllerBridge F) (now_ms : UInt32) (i : Fin kMaxTrickBindings) : Prop where
  bound : Bound (b.cfg.tricks.get i)
  free : ¬ (b.captureStartHold = true ∧ OnButton (b.cfg.tricks.get i))
  down : b.readBool (b.cfg.tricks.get i).source = true
  elapsed : (if (b.edge i).1 then kTrickRepeatMs else kEdgeRefractoryMs) ≤ now_ms - (b.edge i).2

section Tricks

variable {b : ControllerBridge F} {now_ms : UInt32} {i : Fin kMaxTrickBindings}

theorem unbound_iff {tb : TrickBinding} : (tb.source == .none || tb.trick == .none) = true ↔ ¬ Bound tb := by
  unfold Bound
  rw [Bool.or_eq_true, beq_iff_eq, beq_iff_eq, not_and_or, not_not, not_not]

theorem reserved_iff {tb : TrickBinding} :
    (b.captureStartHold && (tb.source == .btn1 || tb.source == .btn2)) = true ↔
      b.captureStartHold = true ∧ OnButton tb := by
  unfold OnButton
  rw [Bool.and_eq_true, Bool.or_eq_true, beq_iff_eq, beq_iff_eq]

theorem down_of_reserved {tb : TrickBinding} (h : b.captureStartHold = true ∧ OnButton tb) :
    b.readBool tb.source = true := by
  obtain ⟨hhold, hbutton⟩ := h
  unfold captureStartHold at hhold
  rw [Bool.and_eq_true] at hhold
  rcases hbutton with heq | heq
  · rw [heq]
    exact hhold.1
  · rw [heq]
    exact hhold.2

theorem repeatingTrickTrigger_fst {slot : Nat} {level : Bool} :
    (b.repeatingTrickTrigger slot level now_ms).1 = true ↔ level = true ∧
      (if (b.edge slot).1 then kTrickRepeatMs else kEdgeRefractoryMs) ≤ now_ms - (b.edge slot).2 := by
  unfold repeatingTrickTrigger edge
  cases level with
  | false => exact iff_of_false nofun fun h => nomatch h.1
  | true => simp

theorem edge_repeatingTrickTrigger {slot slot' : Nat} {level : Bool} :
    (slot < kNumEdgeSlots → ((b.repeatingTrickTrigger slot level now_ms).2.edge slot).1 = level) ∧
      (slot ≠ slot' → (b.repeatingTrickTrigger slot level now_ms).2.edge slot' = b.edge slot') := by
  unfold repeatingTrickTrigger
  cases level with
  | false =>
    exact ⟨fun hslot => congrArg Prod.fst (edge_setEdge b false hslot), edge_setEdge_of_ne b false⟩
  | true =>
    rw [if_neg (by decide)]
    dsimp only
    split_ifs
    all_goals refine ⟨fun hslot => congrArg Prod.fst (edge_setEdge _ true hslot), fun hne => ?_⟩
    all_goals rw [edge_setEdge_of_ne _ true hne]
    all_goals exact edge_markEdge_of_ne b now_ms hne

theorem time_repeatingTrickTrigger {slot : Nat} {level : Bool} (hslot : slot < kNumEdgeSlots)
    (hnot : ¬ (b.repeatingTrickTrigger slot level now_ms).1 = true) :
    ((b.repeatingTrickTrigger slot level now_ms).2.edge slot).2 = (b.edge slot).2 := by
  rw [repeatingTrickTrigger_fst] at hnot
  unfold repeatingTrickTrigger
  cases level with
  | false =>
    rw [if_pos (by decide)]
    rw [edge_setEdge b false hslot]
  | true =>
    have hshort := fun helapsed => hnot ⟨rfl, helapsed⟩
    unfold edge at hshort
    rw [if_neg (by decide)]
    dsimp only at hshort ⊢
    rw [if_neg (by simpa using hshort), edge_setEdge b true hslot]

theorem lt_edgeSlots (i : Fin kMaxTrickBindings) : (i : Nat) < kNumEdgeSlots :=
  Nat.lt_of_lt_of_le i.isLt (by decide)

theorem trick_updateTrick (b : ControllerBridge F) (now_ms : UInt32) (i : Fin kMaxTrickBindings) :
    (b.cmd.trick = .none ∧ Starts b now_ms i ∧
      (updateTrick now_ms b i).cmd.trick = (b.cfg.tricks.get i).trick) ∨
    ((b.cmd.trick = .none → ¬ Starts b now_ms i) ∧ (updateTrick now_ms b i).cmd.trick = b.cmd.trick) := by
  have htrigger : (b.repeatingTrickTrigger i (b.readBool (b.cfg.tricks.get i).source) now_ms).2.cmd = b.cmd := by
    unfold repeatingTrickTrigger
    dsimp only
    split_ifs <;> rfl
  unfold updateTrick
  dsimp only
  split_ifs with hunbound hreserved hfired
  · exact .inr ⟨fun _ h => unbound_iff.mp hunbound h.bound, rfl⟩
  · exact .inr ⟨fun _ h => h.free (reserved_iff.mp hreserved), rfl⟩
  · rw [htrigger, Bool.and_eq_true, repeatingTrickTrigger_fst, beq_iff_eq] at hfired
    obtain ⟨⟨hdown, helapsed⟩, hnone⟩ := hfired
    exact .inl ⟨hnone, ⟨not_not.mp (mt unbound_iff.mpr hunbound), mt reserved_iff.mpr hreserved, hdown, helapsed⟩,
      rfl⟩
  · rw [htrigger, Bool.and_eq_true, repeatingTrickTrigger_fst, beq_iff_eq, not_and_or] at hfired
    refine .inr ⟨fun hnone hstarts => ?_, congrArg (fun cmd : ControllerCommand F => cmd.trick) htrigger⟩
    exact hfired.elim (fun h => h ⟨hstarts.down, hstarts.elapsed⟩) fun h => h hnone

theorem edge_updateTrick (b : ControllerBridge F) (now_ms : UInt32) (i : Fin kMaxTrickBindings) :
    (Bound (b.cfg.tricks.get i) →
      ((updateTrick now_ms b i).edge i).1 = b.readBool (b.cfg.tricks.get i).source) ∧
      ∀ slot, (i : Nat) ≠ slot → (updateTrick now_ms b i).edge slot = b.edge slot := by
  have htrigger := @edge_repeatingTrickTrigger _ b now_ms i
  unfold updateTrick
  dsimp only
  split_ifs with hunbound hreserved hfired
  · exact ⟨fun h => absurd h (unbound_iff.mp hunbound), fun slot hne => edge_setEdge_of_ne b false hne⟩
  · refine ⟨fun _ => ?_, fun slot hne => edge_setEdge_of_ne b true hne⟩
    rw [edge_setEdge b true (lt_edgeSlots i), down_of_reserved (reserved_iff.mp hreserved)]
  · exact ⟨fun _ => (@htrigger 0 _).1 (lt_edgeSlots i), fun slot hne => (@htrigger slot _).2 hne⟩
  · exact ⟨fun _ => (@htrigger 0 _).1 (lt_edgeSlots i), fun slot hne => (@htrigger slot _).2 hne⟩

theorem time_updateTrick (hnot : ¬ Starts b now_ms i) :
    ((updateTrick now_ms b i).edge i).2 = (b.edge i).2 := by
  unfold updateTrick
  dsimp only
  split_ifs with hunbound hreserved hfired
  · rw [edge_setEdge b false (lt_edgeSlots i)]
  · rw [edge_setEdge b true (lt_edgeSlots i)]
  all_goals
    refine time_repeatingTrickTrigger (lt_edgeSlots i) fun hfires => hnot ?_
    obtain ⟨hdown, helapsed⟩ := repeatingTrickTrigger_fst.mp hfires
    exact ⟨not_not.mp (mt unbound_iff.mpr hunbound), mt reserved_iff.mpr hreserved, hdown, helapsed⟩

theorem starts_congr {b' : ControllerBridge F} (hcfg : b'.cfg = b.cfg) (hraw : b'.raw = b.raw)
    (hedge : b'.edge i = b.edge i) : Starts b' now_ms i ↔ Starts b now_ms i := by
  have hread := readBool_congr hraw
  have hhold : b'.captureStartHold = b.captureStartHold := by
    unfold captureStartHold
    rw [hread]
  constructor
  · rintro ⟨hbound, hfree, hdown, helapsed⟩
    rw [hcfg] at hbound hfree hdown
    rw [hhold] at hfree
    rw [hread] at hdown
    rw [hedge] at helapsed
    exact ⟨hbound, hfree, hdown, helapsed⟩
  · rintro ⟨hbound, hfree, hdown, helapsed⟩
    rw [← hcfg] at hbound hfree hdown
    rw [← hhold] at hfree
    rw [← hread] at hdown
    rw [← hedge] at helapsed
    exact ⟨hbound, hfree, hdown, helapsed⟩

theorem inputs_updateTrick (b : ControllerBridge F) (now_ms : UInt32) (i : Fin kMaxTrickBindings) :
    (updateTrick now_ms b i).cfg = b.cfg ∧ (updateTrick now_ms b i).raw = b.raw := by
  have hcore := core_updateTrick b now_ms i
  exact ⟨congrArg BridgeCore.cfg hcore, congrArg BridgeCore.raw hcore⟩

theorem edge_foldl_updateTrick {l : List (Fin kMaxTrickBindings)} (hnodup : l.Nodup) (b : ControllerBridge F) :
    (∀ i ∈ l, (Bound (b.cfg.tricks.get i) →
      ((l.foldl (updateTrick now_ms) b).edge i).1 = b.readBool (b.cfg.tricks.get i).source) ∧
      (¬ Starts b now_ms i → ((l.foldl (updateTrick now_ms) b).edge i).2 = (b.edge i).2)) ∧
      ∀ slot, (∀ i ∈ l, (i : Nat) ≠ slot) → (l.foldl (updateTrick now_ms) b).edge slot = b.edge slot := by
  induction l generalizing b with
  | nil => exact ⟨nofun, fun _ _ => rfl⟩
  | cons i l ih =>
    obtain ⟨hfirst, hrest⟩ := List.nodup_cons.mp hnodup
    obtain ⟨hown, hother⟩ := edge_updateTrick b now_ms i
    obtain ⟨hcfg, hraw⟩ := inputs_updateTrick b now_ms i
    obtain ⟨hin, hout⟩ := ih hrest (updateTrick now_ms b i)
    rw [hcfg, readBool_congr hraw] at hin
    rw [List.foldl_cons]
    constructor
    · intro j hj
      rcases List.mem_cons.mp hj with rfl | hj
      · rw [hout j fun k hk heq => hfirst (Fin.ext heq ▸ hk)]
        exact ⟨hown, time_updateTrick⟩
      · have hsame := hother j fun heq => hfirst (Fin.ext heq ▸ hj)
        obtain ⟨hlevel, htime⟩ := hin j hj
        rw [starts_congr hcfg hraw hsame, hsame] at htime
        exact ⟨hlevel, htime⟩
    · intro slot hne
      rw [hout slot fun k hk => hne k (List.mem_cons_of_mem i hk)]
      exact hother slot (hne i List.mem_cons_self)

theorem trick_foldl_of_ne {l : List (Fin kMaxTrickBindings)} (hsome : b.cmd.trick ≠ .none) :
    (l.foldl (updateTrick now_ms) b).cmd.trick = b.cmd.trick := by
  induction l generalizing b with
  | nil => rfl
  | cons i l ih =>
    rcases trick_updateTrick b now_ms i with ⟨hnone, -⟩ | ⟨-, hkept⟩
    · exact absurd hnone hsome
    · rw [List.foldl_cons, ih (hkept ▸ hsome), hkept]

theorem trick_foldl_updateTrick {l : List (Fin kMaxTrickBindings)} (hnodup : l.Nodup)
    (hnone : b.cmd.trick = .none) :
    ((l.foldl (updateTrick now_ms) b).cmd.trick = .none ∧ ∀ i ∈ l, ¬ Starts b now_ms i) ∨
      ∃ before i after, l = before ++ i :: after ∧ Starts b now_ms i ∧ (∀ j ∈ before, ¬ Starts b now_ms j) ∧
        (l.foldl (updateTrick now_ms) b).cmd.trick = (b.cfg.tricks.get i).trick := by
  induction l generalizing b with
  | nil => exact .inl ⟨hnone, nofun⟩
  | cons i l ih =>
    obtain ⟨hfirst, hrest⟩ := List.nodup_cons.mp hnodup
    obtain ⟨hcfg, hraw⟩ := inputs_updateTrick b now_ms i
    -- the binding changes no slot but its own
    have hsame {j : Fin kMaxTrickBindings} (hj : j ∈ l) :
        Starts (updateTrick now_ms b i) now_ms j ↔ Starts b now_ms j :=
      starts_congr hcfg hraw ((edge_updateTrick b now_ms i).2 j fun heq => hfirst (Fin.ext heq ▸ hj))
    rw [List.foldl_cons]
    rcases trick_updateTrick b now_ms i with ⟨-, hstarts, htrick⟩ | ⟨hnot, hkept⟩
    · refine .inr ⟨[], i, l, rfl, hstarts, nofun, ?_⟩
      rw [trick_foldl_of_ne (htrick ▸ hstarts.bound.2), htrick]
    · rcases ih hrest (hkept.trans hnone) with ⟨hstill, hall⟩ | ⟨before, j, after, rfl, hstarts, hall, htrick⟩
      · refine .inl ⟨hstill, fun j hj => ?_⟩
        rcases List.mem_cons.mp hj with rfl | hj
        · exact hnot hnone
        · exact fun h => hall j hj ((hsame hj).mpr h)
      · refine .inr ⟨i :: before, j, after, rfl, (hsame (by simp)).mp hstarts, fun k hk => ?_, hcfg ▸ htrick⟩
        rcases List.mem_cons.mp hk with rfl | hk
        · exact hnot hnone
        · exact fun h => hall k hk ((hsame (by simp [hk])).mpr h)

end Tricks

/-! ## Frames -/

theorem inputs_updateTricks (b : ControllerBridge F) (now_ms : UInt32) :
    (b.updateTricks now_ms).cfg = b.cfg ∧ (b.updateTricks now_ms).raw = b.raw := by
  have hcore := core_updateTricks b now_ms
  generalize b.updateTricks now_ms = b' at hcore ⊢
  exact ⟨congrArg BridgeCore.cfg hcore, congrArg BridgeCore.raw hcore⟩

def TricksFollow (b : ControllerBridge F) : Prop :=
  ∀ i, Bound (b.cfg.tricks.get i) → (b.edge i).1 = b.readBool (b.cfg.tricks.get i).source

/-- What the bindings do: the trick is the one of the first that starts, and the slots have the levels. -/
theorem tricks_updateTricks (b : ControllerBridge F) (now_ms : UInt32) :
    (TricksFollow (b.updateTricks now_ms) ∧
      ∀ i, ¬ Starts b now_ms i → ((b.updateTricks now_ms).edge i).2 = (b.edge i).2) ∧
      (((b.updateTricks now_ms).cmd.trick = .none ∧ ∀ i, ¬ Starts b now_ms i) ∨
        ∃ i, Starts b now_ms i ∧ (∀ j < i, ¬ Starts b now_ms j) ∧
          (b.updateTricks now_ms).cmd.trick = (b.cfg.tricks.get i).trick) := by
  obtain ⟨b', hfold, hfirst, hcfg, hraw, hedge⟩ : ∃ b' : ControllerBridge F, b.updateTricks now_ms =
      (List.finRange kMaxTrickBindings).foldl (updateTrick now_ms) b' ∧ b'.cmd.trick = .none ∧
        b'.cfg = b.cfg ∧ b'.raw = b.raw ∧ b'.edge = b.edge :=
    ⟨{ b with cmd.trick := .none }, rfl, rfl, rfl, rfl, rfl⟩
  have hnodup := List.nodup_finRange kMaxTrickBindings
  have hsame (i : Fin kMaxTrickBindings) : Starts b' now_ms i ↔ Starts b now_ms i :=
    starts_congr hcfg hraw (congrFun hedge i)
  obtain ⟨hcfg', hraw'⟩ := inputs_updateTricks b now_ms
  obtain ⟨hlevels, -⟩ := @edge_foldl_updateTrick F now_ms _ hnodup b'
  have htricks := @trick_foldl_updateTrick F b' now_ms _ hnodup hfirst
  rw [← hfold] at hlevels htricks
  rw [hcfg, readBool_congr hraw] at hlevels
  rw [hcfg] at htricks
  refine ⟨⟨fun i hbound => ?_, fun i hnot => ?_⟩, ?_⟩
  · rw [hcfg'] at hbound ⊢
    rw [readBool_congr hraw']
    exact (hlevels i (List.mem_finRange i)).1 hbound
  · rw [← hedge]
    exact (hlevels i (List.mem_finRange i)).2 fun h => hnot ((hsame i).mp h)
  · rcases htricks with ⟨hnone, hall⟩ | ⟨before, i, after, hlist, hstarts, hall, htrick⟩
    · exact .inl ⟨hnone, fun i hi => hall i (List.mem_finRange i) ((hsame i).mpr hi)⟩
    · refine .inr ⟨i, (hsame i).mp hstarts, fun j hj hi => ?_, htrick⟩
      -- what is before the slot in order is before it in the list
      have hsorted := List.pairwise_lt_finRange kMaxTrickBindings
      have hmem := List.mem_finRange j
      rw [hlist] at hsorted hmem
      obtain ⟨-, htail, -⟩ := List.pairwise_append.mp hsorted
      rcases List.mem_append.mp hmem with hbefore | hafter
      · exact hall j hbefore ((hsame j).mpr hi)
      · rcases List.mem_cons.mp hafter with rfl | hlater
        · exact absurd hj (lt_irrefl j)
        · exact absurd ((List.pairwise_cons.mp htail).1 j hlater) (lt_asymm hj)

variable [FloatExp F] {b b₀ : ControllerBridge F} {e : FrameEvent F} {h : List (FrameEvent F)}

/-- Slot `i` starts its trick in the frame, judged by the slot before it and the inputs of the frame. -/
def Started (e : FrameEvent F) (i : Fin kMaxTrickBindings) : Prop :=
  Processed e ∧ Starts { e.pre with raw := e.post.raw } e.label.now_ms i

/-- The trick of the frame is the one of slot `i`, the first slot that starts. -/
structure Emits (e : FrameEvent F) (i : Fin kMaxTrickBindings) : Prop where
  started : Started e i
  first : ∀ j < i, ¬ Started e j
  trick : e.post.cmd.trick = (e.pre.cfg.tricks.get i).trick

theorem inputs_beforeTricks (b : ControllerBridge F) (now_ms : UInt32) :
    (b.beforeTricks now_ms).cfg = b.cfg ∧ (b.beforeTricks now_ms).raw = b.raw := by
  obtain ⟨hcfg, hraw, -⟩ := inputs_decode b now_ms
  obtain ⟨hcfg', hraw'⟩ := inputs_updateTricks (b.beforeTricks now_ms) now_ms
  rw [decode_eq_updateTricks] at hcfg hraw
  exact ⟨hcfg'.symm.trans hcfg, hraw'.symm.trans hraw⟩

theorem tricks_decode (b : ControllerBridge F) (now_ms : UInt32) :
    (TricksFollow (b.decode now_ms) ∧
      ∀ i, ¬ Starts b now_ms i → ((b.decode now_ms).edge i).2 = (b.edge i).2) ∧
      (((b.decode now_ms).cmd.trick = .none ∧ ∀ i, ¬ Starts b now_ms i) ∨
        ∃ i, Starts b now_ms i ∧ (∀ j < i, ¬ Starts b now_ms j) ∧
          (b.decode now_ms).cmd.trick = (b.cfg.tricks.get i).trick) := by
  obtain ⟨hcfg, hraw⟩ := inputs_beforeTricks b now_ms
  have hsame (i : Fin kMaxTrickBindings) : Starts (b.beforeTricks now_ms) now_ms i ↔ Starts b now_ms i :=
    starts_congr hcfg hraw (edge_beforeTricks b now_ms i.isLt)
  have htricks := tricks_updateTricks (b.beforeTricks now_ms) now_ms
  rw [← decode_eq_updateTricks] at htricks
  have hedge (i : Fin kMaxTrickBindings) := edge_beforeTricks b now_ms i.isLt
  simp only [hsame, hcfg, hedge] at htricks
  exact htricks

def BothDown (e : FrameEvent F) : Prop := Processed e ∧ e.post.captureStartHold = true

def BothUp (e : FrameEvent F) : Prop :=
  Processed e ∧ e.post.readBool .btn1 = false ∧ e.post.readBool .btn2 = false

instance : DecidablePred (BothDown (F := F)) := fun _ => inferInstanceAs (Decidable (_ ∧ _))

instance : DecidablePred (BothUp (F := F)) := fun _ => inferInstanceAs (Decidable (_ ∧ _))

/-- From the frame on that has both buttons down, before the first one that has both up. -/
def CaptureWindow : List (FrameEvent F) → Prop := Since (fun e => ¬ BothUp e) BothDown

instance : DecidablePred (CaptureWindow (F := F)) := fun h => Since.decidable h

def NoButtonTrick (e : FrameEvent F) : Prop :=
  e.post.cmd.trick = .none ∨ ∃ i, Emits e i ∧ ¬ OnButton (e.pre.cfg.tricks.get i)

/-- The slot belongs to the one of the two buttons that is down alone, and its last start was long enough ago:
a repetition if the button was down on the frame before, else a first press. -/
@[mk_iff]
structure Due (e : FrameEvent F) (i : Fin kMaxTrickBindings) : Prop where
  processed : Processed e
  bound : Bound (e.pre.cfg.tricks.get i)
  button : OnButton (e.pre.cfg.tricks.get i)
  down : e.post.readBool (e.pre.cfg.tricks.get i).source = true
  alone : e.post.captureStartHold = false
  elapsed : (if e.pre.readBool (e.pre.cfg.tricks.get i).source then kTrickRepeatMs else kEdgeRefractoryMs) ≤
    e.label.now_ms - (e.pre.edge i).2

instance (e : FrameEvent F) (i : Fin kMaxTrickBindings) : Decidable (Due e i) :=
  decidable_of_iff _ (due_iff e i).symm

/-- No slot of the two buttons is due, except behind a slot of another button that starts. -/
def Quiet (e : FrameEvent F) : Prop :=
  ∀ i, Due e i → ∃ j < i, Started e j ∧ ¬ OnButton (e.pre.cfg.tricks.get j)

/-- The slots are judged by what they were before the frame and by the inputs of the frame. -/
theorem starts_readIn {f : FrameCall} (heq : b.frame f = (b.readIn f.ch).decode f.now_ms)
    (i : Fin kMaxTrickBindings) :
    Starts (b.readIn f.ch) f.now_ms i ↔ Starts { b with raw := (b.frame f).raw } f.now_ms i := by
  obtain ⟨hedge, hcfg⟩ := edge_readIn b f.ch
  obtain ⟨-, hraw, -⟩ := inputs_decode (b.readIn f.ch) f.now_ms
  rw [← heq] at hraw
  exact starts_congr hcfg hraw.symm (congrFun hedge i)

theorem tricks_frame (hlocked : b.link.ProfileLocked) (f : FrameCall) :
    ((b.frame f).cmd.trick = .none ∧ ∀ i, ¬ Started ⟨b, f, b.frame f⟩ i) ∨
      (Processed ⟨b, f, b.frame f⟩ ∧ ∃ i, Emits ⟨b, f, b.frame f⟩ i) := by
  rcases frame_cases hlocked f with ⟨hdown, heq⟩ | ⟨hup, heq⟩
  · refine .inl ⟨by rw [heq]; rfl, fun i hi => ?_⟩
    have hprocessed : f.link_up = true := hi.1
    rw [hdown] at hprocessed
    cases hprocessed
  · have hcfg := (edge_readIn b f.ch).2
    have htricks := (tricks_decode (b.readIn f.ch) f.now_ms).2
    rw [← heq] at htricks
    simp only [starts_readIn heq, hcfg] at htricks
    rcases htricks with ⟨hnone, hall⟩ | ⟨i, hstarts, hfirst, htrick⟩
    · exact .inl ⟨hnone, fun i hi => hall i hi.2⟩
    · exact .inr ⟨hup, i, ⟨hup, hstarts⟩, fun j hj hi => hfirst j hj hi.2, htrick⟩

/-- A processed frame leaves the levels in the slots, any other one leaves the slots alone. -/
theorem follow_frame (hlocked : b.link.ProfileLocked) (f : FrameCall)
    (hfollow : f.link_up = true ∨ TricksFollow b) : TricksFollow (b.frame f) := by
  rcases frame_cases hlocked f with ⟨hdown, heq⟩ | ⟨-, heq⟩
  · rw [heq]
    exact hfollow.resolve_left (by rw [hdown]; decide)
  · rw [heq]
    exact (tricks_decode (b.readIn f.ch) f.now_ms).1.1

theorem follow_of_run (hlocked : b₀.link.ProfileLocked) (run : FrameRun b₀ h b) (honce : Once Processed h) :
    TricksFollow b := by
  refine run.history_invariant (fun h b => Once Processed h → TricksFollow b) ?_ ?_ honce
  · rintro ⟨e, he, -⟩
    cases he
  · rintro h b f _ run ih rfl honce
    exact follow_frame (locked_of_run hlocked run).1 f ((once_cons.mp honce).imp id ih)

/-- Inside a window, a slot of the two buttons starts its trick exactly when it is due. -/
theorem started_iff_due (hlocked : b₀.link.ProfileLocked) (run : FrameRun b₀ h b) (f : FrameCall)
    {i : Fin kMaxTrickBindings} (hbutton : OnButton (b.cfg.tricks.get i))
    (hwindow : CaptureWindow (⟨b, f, b.frame f⟩ :: h)) :
    Started ⟨b, f, b.frame f⟩ i ↔ Due ⟨b, f, b.frame f⟩ i := by
  -- without the other button the window began before
  have hlevel (halone : (b.frame f).captureStartHold = false) (hbound : Bound (b.cfg.tricks.get i)) :
      (b.edge i).1 = b.readBool (b.cfg.tricks.get i).source := by
    rcases hwindow with hboth | ⟨-, hbefore⟩
    · exact nomatch halone.symm.trans hboth.2
    · obtain ⟨e, he, hdown⟩ := hbefore.once
      exact follow_of_run hlocked run ⟨e, he, hdown.1⟩ i hbound
  constructor
  · rintro ⟨hprocessed, hbound, hfree, hdown, helapsed⟩
    have halone : (b.frame f).captureStartHold = false :=
      Bool.eq_false_iff.mpr fun hboth => hfree ⟨hboth, hbutton⟩
    refine ⟨hprocessed, hbound, hbutton, hdown, halone, ?_⟩
    rw [← hlevel halone hbound]
    exact helapsed
  · rintro ⟨hprocessed, hbound, -, hdown, halone, helapsed⟩
    rw [← hlevel halone hbound] at helapsed
    exact ⟨hprocessed, hbound, fun h => Bool.false_ne_true (halone.symm.trans h.1), hdown, helapsed⟩

/-- A frame of a window emits no trick of the two buttons exactly when it is quiet. -/
theorem noButtonTrick_iff (hlocked : b₀.link.ProfileLocked) (run : FrameRun b₀ h b) (f : FrameCall)
    (hwindow : CaptureWindow (⟨b, f, b.frame f⟩ :: h)) :
    NoButtonTrick ⟨b, f, b.frame f⟩ ↔ Quiet ⟨b, f, b.frame f⟩ := by
  have htricks := tricks_frame (locked_of_run hlocked run).1 f
  constructor
  · intro hno i hdue
    have hstarted := (started_iff_due hlocked run f hdue.button hwindow).mpr hdue
    rcases hno with hnone | ⟨j, hemits, hother⟩
    · rcases htricks with ⟨-, hall⟩ | ⟨-, k, hemits⟩
      · exact absurd hstarted (hall i)
      · exact absurd (hemits.trick.symm.trans hnone) hemits.started.2.bound.2
    · refine ⟨j, ?_, hemits.started, hother⟩
      rcases lt_trichotomy j i with hlt | rfl | hgt
      · exact hlt
      · exact absurd hdue.button hother
      · exact absurd hstarted (hemits.first i hgt)
  · intro hquiet
    rcases htricks with ⟨hnone, -⟩ | ⟨-, i, hemits⟩
    · exact .inl hnone
    · refine .inr ⟨i, hemits, fun hbutton => ?_⟩
      obtain ⟨j, hlt, hstarted, -⟩ :=
        hquiet i ((started_iff_due hlocked run f hbutton hwindow).mp hemits.started)
      exact hemits.first j hlt hstarted

/-- Around a capture hold no trick of the two buttons is emitted if and only if, in every frame of the window
that has one of the two buttons down alone, the last start of each of its slots is too recent, or a slot of
another button comes first. -/
theorem capture_hold_quiet_iff (hlocked : b₀.link.ProfileLocked) (run : FrameRun b₀ h b) :
    Historically (fun e past => CaptureWindow (e :: past) → NoButtonTrick e) h ↔
      Historically (fun e past => CaptureWindow (e :: past) → Quiet e) h := by
  induction run with
  | nil => exact Iff.rfl
  | step run hstep ih =>
    cases hstep
    exact and_congr (forall_congr' (noButtonTrick_iff hlocked run _)) ih

/-- The bridge with the default bindings, when the layout of the custom controller is locked. -/
def lockedBridge (F : Type) [FloatExp F] : ControllerBridge F :=
  { construct with profile_locked := true, detected_profile := .customControllerChannelPack }

theorem locked_lockedBridge : (lockedBridge F).link.ProfileLocked := ⟨rfl, nofun⟩

/-- A frame that differs from one at rest in the channel of the four buttons. -/
def buttonFrame (buttons : UInt16) (now_ms : UInt32) : FrameCall :=
  ⟨(Vector.replicate _ 992).set 9 buttons, true, now_ms⟩

def noneDown (now_ms : UInt32) : FrameCall := buttonFrame 191 now_ms

def secondDown (now_ms : UInt32) : FrameCall := buttonFrame 213 now_ms

def bothDown (now_ms : UInt32) : FrameCall := buttonFrame 224 now_ms

/-- The release of the first button starts the trick of the second one. -/
theorem capture_hold_starts_trick : ¬ ∀ (b₀ : ControllerBridge ℝ) h b, b₀.link.ProfileLocked →
    FrameRun b₀ h b → Historically (fun e past => CaptureWindow (e :: past) → NoButtonTrick e) h := by
  intro hall
  have hrun := run_execute frame [bothDown 0]
    (show FrameRun (lockedBridge ℝ) [] (lockedBridge ℝ) from .nil)
  have hno := (hall _ _ _ locked_lockedBridge (hrun.step (i := secondDown 2000) rfl)).1 (by decide +kernel)
  obtain ⟨j, hlt, -, hother⟩ := (noButtonTrick_iff locked_lockedBridge hrun (secondDown 2000)
    (by decide +kernel)).mp hno 1 (by decide +kernel)
  obtain rfl : j = 0 := Fin.lt_one_iff j |>.mp hlt
  exact hother (by decide +kernel)

/-- The second button starts its trick, both are down fifty milliseconds later, and the first one is
released before the second. Then both are held until the capture starts, and released together. -/
def staggeredRelease : List FrameCall :=
  [secondDown 0, bothDown 50, secondDown 100, noneDown 150, bothDown 1000, bothDown 4000, noneDown 4020]

theorem capture_hold_quiet_iff_staggered :
    Historically (fun e past => CaptureWindow (e :: past) → NoButtonTrick e)
      (executeHistory frame (lockedBridge ℝ) [] staggeredRelease) := by
  have hdue : Historically (fun e past => CaptureWindow (e :: past) → ∀ i, ¬ Due e i)
      (executeHistory frame (lockedBridge ℝ) [] staggeredRelease) := by
    decide +kernel
  have hrun := run_execute frame staggeredRelease
    (show FrameRun (lockedBridge ℝ) [] (lockedBridge ℝ) from .nil)
  refine (capture_hold_quiet_iff locked_lockedBridge hrun).mpr
    (Historically.imp (fun e past hnot hwindow i hi => ?_) hdue)
  exact absurd hi (hnot hwindow i)

end ControllerBridge

end HexapodVerified.Input
