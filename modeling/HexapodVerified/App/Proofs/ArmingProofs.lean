import Mathlib.Algebra.Group.Nat.Defs
import HexapodVerified.App.DxlTask
import HexapodVerified.Dxl.Proofs.DxlBusProofs
import HexapodVerified.Lib.Runs

/-!
# The bring-up

While the system is arming, the locals of the bus task record what has been established in this attempt.
Each of them ties the state to the cycles that put it there: the status reads behind the mask, the
torque-off behind its flag, the hold targets behind theirs.
-/

namespace HexapodVerified.App

open HexapodVerified.Config HexapodVerified.Dxl HexapodVerified.Safety PastTime Transition
open DxlBus (KeepsIds)
open DxlTask (ArmingStep ArmingCycle configuredIds)

variable {t t' u : DxlTask} {cfg : RobotConfig} {i : Nat}

/-- The status of this entry has been read in this attempt. -/
def ArmingProgress.Checked (a : ArmingProgress) (i : Nat) : Prop :=
  a.status_checked_mask.toNat.testBit i = true

theorem servoBit_toNat (hi : i < kNumServos) : (servoBit i).toNat = 2 ^ i := by
  have hall : ∀ j : Fin kNumServos, (servoBit j.val).toNat = 2 ^ j.val := by decide
  exact hall ⟨i, hi⟩

theorem checked_of_all {a : ArmingProgress} (hall : a.status_checked_mask = kAllServoPosesKnown)
    (hi : i < kNumServos) : a.Checked i := by
  have hbits : ∀ j : Fin kNumServos, kAllServoPosesKnown.toNat.testBit j.val = true := by decide
  unfold ArmingProgress.Checked
  rw [hall]
  exact hbits ⟨i, hi⟩

theorem not_checked_of_zero {a : ArmingProgress} (hzero : a.status_checked_mask = 0) :
    ¬ a.Checked i := by
  unfold ArmingProgress.Checked
  rw [hzero, UInt32.toNat_zero, Nat.zero_testBit]
  exact Bool.false_ne_true

theorem checked_or {a a' : ArmingProgress} {j : Nat} (hj : j < kNumServos)
    (hmask : a'.status_checked_mask = a.status_checked_mask ||| servoBit j) :
    a'.Checked i ↔ a.Checked i ∨ i = j := by
  unfold ArmingProgress.Checked
  rw [hmask, UInt32.toNat_or, Nat.testBit_or, servoBit_toNat hj, Nat.testBit_two_pow,
    Bool.or_eq_true, decide_eq_true_iff]
  exact or_congr_right eq_comm

/-- Nothing is established or lost, the servos are the same, and the system is not newly ready. -/
structure SameArming (t t' : DxlTask) : Prop where
  arming : t'.arming = t.arming
  ids : t'.bus.ids = t.bus.ids
  ready : t'.arming_ready = true → t.arming_ready = true

theorem SameArming.refl (t : DxlTask) : SameArming t t := ⟨rfl, rfl, id⟩

theorem SameArming.trans (h : SameArming t u) (h' : SameArming u t') : SameArming t t' :=
  ⟨h'.arming.trans h.arming, h'.ids.trans h.ids, fun hr => h.ready (h'.ready hr)⟩

theorem SameArming.ite {c : Prop} [Decidable c] {u' : DxlTask} (h : SameArming t u)
    (h' : SameArming t u') : SameArming t (if c then u else u') := by
  by_cases hc : c
  · rw [if_pos hc]
    exact h
  · rw [if_neg hc]
    exact h'

theorem sameArming_onBus {α : Type} {op : BusM α} (hop : KeepsIds op) :
    SameArming t (t.onBus op).2 := ⟨rfl, hop t.bus, id⟩

theorem sameArming_publish : SameArming t (t.publishServoReadiness cfg) := ⟨rfl, rfl, id⟩

theorem sameArming_cutPower {state : State} : SameArming t (t.cutPower state) :=
  .ite ⟨rfl, rfl, nofun⟩ (.refl t)

theorem sameArming_gateTorque {authorized : Bool} : SameArming t (t.gateTorque authorized) := by
  have hoff := SameArming.ite (c := (!authorized && t.prev_authorized && t.bus.servoCount > 0) = true)
    (sameArming_onBus (.setTorqueAll false)) (.refl t)
  exact .ite hoff (hoff.trans ⟨rfl, rfl, id⟩)

theorem keepsIds_writeHold (hold : Option (List GoalTarget)) : KeepsIds (DxlTask.writeHold hold) := by
  cases hold with
  | none => exact .pure _
  | some hold => exact .writeGoalPositions hold

theorem sameArming_raiseSeed {authorized maint : Bool} :
    SameArming t (t.raiseSeed authorized maint) := .ite ⟨rfl, rfl, id⟩ (.refl t)

theorem sameArming_enableTorque : SameArming t (t.enableTorque cfg) := by
  have hhold := sameArming_onBus (t := t) (keepsIds_writeHold (t.buildConfiguredHoldTargets cfg))
  refine .ite (hhold.trans ?_) hhold
  refine (sameArming_onBus (.setTorqueAll true)).trans ?_
  exact .ite ⟨rfl, rfl, id⟩ ((sameArming_onBus (.setTorqueAll false)).trans ⟨rfl, rfl, id⟩)

theorem sameArming_seedTorque {authorized maint : Bool} :
    SameArming t (t.seedTorque cfg authorized maint) :=
  .ite (sameArming_raiseSeed.trans sameArming_enableTorque) sameArming_raiseSeed

theorem keepsIds_releaseEach (released : UInt32) (l : List Nat) :
    KeepsIds (DxlTask.releaseEach released l) := by
  induction l with
  | nil => exact .pure _
  | cons i rest ih =>
    refine .bind .get fun bus => ?_
    dsimp only
    split
    · exact .bind (.setTorqueOne _ false) fun _ => ih
    · exact ih

theorem sameArming_keepReleased {state : State} : SameArming t (t.keepReleased state) :=
  .ite ⟨rfl, rfl, id⟩ (.ite (sameArming_onBus (keepsIds_releaseEach _ _)) (.refl t))

theorem sameArming_writeGoals {authorized maint : Bool} {frame : Option (List GoalTarget)} :
    SameArming t (t.writeGoals authorized maint frame) :=
  .ite (.ite (.refl t) (sameArming_onBus (.writeGoalPositions _))) (.refl t)

theorem sameArming_readDetail : SameArming t t.readDetail :=
  (sameArming_onBus (.readStatus _)).trans ⟨rfl, rfl, id⟩

theorem sameArming_readPosition : SameArming t t.readPosition.2 :=
  (sameArming_onBus (.syncReadStatus t.servo_status)).trans ⟨rfl, rfl, id⟩

theorem sameArming_noteRead {read : Bool} : SameArming t (t.noteRead read) := ⟨rfl, rfl, id⟩

theorem sameArming_noteIdleBus : SameArming t t.noteIdleBus :=
  (SameArming.ite (.refl t) ⟨rfl, rfl, id⟩ : SameArming t (if t.power_on then t else
    { t with torque_enable_fault := false, fault_monitor := {} })).trans ⟨rfl, rfl, id⟩

theorem sameArming_refreshStatus {arming : Bool} : SameArming t (t.refreshStatus arming) := by
  refine .ite ?_ sameArming_noteIdleBus
  refine sameArming_readPosition.trans (SameArming.trans ?_ sameArming_noteRead)
  exact .ite sameArming_readDetail (.refl _)

theorem sameArming_finish {inp : DxlInput} : SameArming t (t.finish inp) := by
  refine SameArming.trans ?_ sameArming_publish
  refine SameArming.trans ?_ sameArming_refreshStatus
  refine SameArming.trans ?_ sameArming_writeGoals
  refine SameArming.trans (u := DxlTask.keepReleased _ inp.live_state) ?_ ⟨rfl, rfl, id⟩
  refine SameArming.trans ?_ sameArming_keepReleased
  refine SameArming.trans ?_ sameArming_seedTorque
  refine SameArming.trans ?_ sameArming_gateTorque
  exact SameArming.trans sameArming_publish sameArming_cutPower

theorem coverage_congr {bus bus' : DxlBus} (hids : bus'.ids = bus.ids) :
    ({ t with bus := bus' } : DxlTask).configuredServoCoverageFromBus cfg =
      ({ t with bus } : DxlTask).configuredServoCoverageFromBus cfg := by
  have hfound (id : UInt8) : (bus'.profileById id).isSome = (bus.profileById id).isSome := by
    rw [Bool.eq_iff_iff, DxlBus.profileById_isSome, DxlBus.profileById_isSome, hids]
  unfold DxlTask.configuredServoCoverageFromBus
  simp only [DxlBus.servoCount_congr hids, hfound]

/-- The table of servos is what this configuration needs: the discovery will not change it. -/
structure Settled (t : DxlTask) (cfg : RobotConfig) : Prop where
  finished : t.arming.discovery_finished = true
  covered : t.arming.discovery_started = false → t.configuredServoCoverageFromBus cfg = true

theorem coverage_of_ids (hids : t'.bus.ids = t.bus.ids) :
    t'.configuredServoCoverageFromBus cfg = t.configuredServoCoverageFromBus cfg :=
  show ({ t with bus := t'.bus } : DxlTask).configuredServoCoverageFromBus cfg =
      ({ t with bus := t.bus } : DxlTask).configuredServoCoverageFromBus cfg from
    coverage_congr hids

theorem Settled.of_same (hs : Settled t cfg) (hids : t'.bus.ids = t.bus.ids)
    (hfinished : t'.arming.discovery_finished = t.arming.discovery_finished)
    (hstarted : t'.arming.discovery_started = t.arming.discovery_started) : Settled t' cfg := by
  refine ⟨hfinished.trans hs.finished, fun hno => ?_⟩
  rw [coverage_of_ids hids]
  exact hs.covered (hstarted ▸ hno)

def DxlTask.discover (t : DxlTask) (cfg : RobotConfig) : DxlTask :=
  (t.startDiscovery cfg).discoverNext cfg

structure SameEstablished (t t' : DxlTask) : Prop where
  mask : t'.arming.status_checked_mask = t.arming.status_checked_mask
  off : t'.arming.torque_off_verified = t.arming.torque_off_verified
  hold : t'.arming.hold_seeded = t.arming.hold_seeded
  ready : t'.arming_ready = true → t.arming_ready = true

theorem SameEstablished.trans (h : SameEstablished t u) (h' : SameEstablished u t') :
    SameEstablished t t' :=
  ⟨h'.mask.trans h.mask, h'.off.trans h.off, h'.hold.trans h.hold, fun hr => h.ready (h'.ready hr)⟩

theorem sameEstablished_start : SameEstablished t (t.startDiscovery cfg) := by
  unfold DxlTask.startDiscovery
  split
  · exact ⟨rfl, rfl, rfl, id⟩
  · split
    · exact ⟨rfl, rfl, rfl, id⟩
    · exact ⟨rfl, rfl, rfl, nofun⟩

theorem sameEstablished_next : SameEstablished t (t.discoverNext cfg) := by
  unfold DxlTask.discoverNext
  split
  · exact ⟨rfl, rfl, rfl, id⟩
  · split
    · exact ⟨rfl, rfl, rfl, id⟩
    · exact ⟨rfl, rfl, rfl, id⟩

theorem discover_established : SameEstablished t (t.discover cfg) :=
  sameEstablished_start.trans sameEstablished_next

theorem discover_settled (hs : Settled t cfg) :
    Settled (t.discover cfg) cfg ∧ (t.discover cfg).bus.ids = t.bus.ids := by
  unfold DxlTask.discover DxlTask.startDiscovery
  cases hstarted : t.arming.discovery_started with
  | true =>
    rw [if_pos rfl]
    unfold DxlTask.discoverNext
    rw [hstarted, hs.finished]
    exact ⟨hs, rfl⟩
  | false =>
    rw [if_neg Bool.false_ne_true, if_pos (hs.covered hstarted)]
    dsimp only
    rw [hstarted]
    exact ⟨⟨rfl, fun _ => hs.covered hstarted⟩, rfl⟩

theorem discoverNext_started :
    (t.discoverNext cfg).arming.discovery_started = t.arming.discovery_started := by
  unfold DxlTask.discoverNext
  split
  · rfl
  · split
    · rfl
    · rfl

theorem settled_of_finished (hfinished : (t.discover cfg).arming.discovery_finished = true) :
    Settled (t.discover cfg) cfg := by
  refine ⟨hfinished, fun hno => ?_⟩
  unfold DxlTask.discover at hno ⊢
  rw [discoverNext_started] at hno
  unfold DxlTask.startDiscovery at hno ⊢
  by_cases hstarted : t.arming.discovery_started = true
  · rw [if_pos hstarted] at hno
    exact absurd hstarted (hno ▸ Bool.false_ne_true)
  · by_cases hcovered : t.configuredServoCoverageFromBus cfg = true
    · rw [if_neg hstarted, if_pos hcovered]
      dsimp only
      rw [Bool.eq_false_of_not_eq_true hstarted]
      exact hcovered
    · rw [if_neg hstarted, if_neg hcovered] at hno
      exact absurd hno Bool.noConfusion

inductive StatusMove (t t' : DxlTask) : Option (Nat × UInt8) → Prop
  | none (same : SameArming t t') : StatusMove t t' none
  | read (i : Nat) (id : UInt8) (hi : i < kNumServos) (hid : t.bus.ids[i]? = some id)
      (hdiscovered : (t.arming.discovery_finished && t.configured_servo_coverage) = true)
      (harming : t'.arming =
        { t.arming with status_checked_mask := t.arming.status_checked_mask ||| servoBit i })
      (hids : t'.bus.ids = t.bus.ids) (hready : t'.arming_ready = true → t.arming_ready = true) :
      StatusMove t t' (some (i, id))

theorem checkStatus_move : StatusMove t (t.checkStatus cfg).1 (t.checkStatus cfg).2 := by
  unfold DxlTask.checkStatus
  by_cases hcheck : (t.arming.discovery_finished && t.configured_servo_coverage &&
      t.arming.status_checked_mask != kAllServoPosesKnown) = true
  · rw [if_pos hcheck]
    have hdiscovered := (Bool.and_eq_true_iff.mp hcheck).1
    cases hnext : t.nextStatus with
    | none => exact .none (.refl t)
    | some i =>
      have hlt : i < t.bus.servoCount := List.mem_range.mp (List.mem_of_find?_eq_some hnext)
      have hkeeps := KeepsIds.readStatus (t.bus.profile i).id t.bus
      show StatusMove t (t.readStatusOf cfg i).1 (t.readStatusOf cfg i).2
      unfold DxlTask.readStatusOf
      dsimp only
      split
      · exact .read i _ (Nat.lt_of_lt_of_le hlt DxlBus.servoCount_le) (DxlBus.ids_get hlt)
          hdiscovered rfl hkeeps id
      · exact .none ⟨rfl, hkeeps, id⟩
  · rw [if_neg hcheck]
    exact .none (.refl t)

/-- What the last part of the arming branch establishes, and what it needs for it. -/
inductive AdvanceMove (t : DxlTask) (cfg : RobotConfig) (t' : DxlTask) : ArmingStep → Prop
  | idle (same : SameArming t t') : AdvanceMove t cfg t' .idle
  | torqueOff (acked : Nat) (verified : Bool) (hacked : verified = true → acked = kNumServos)
      (hall : t.arming.status_checked_mask = kAllServoPosesKnown)
      (harming : t'.arming = { t.arming with torque_off_verified := verified })
      (hready : t'.arming_ready = true → t.arming_ready = true) :
      AdvanceMove t cfg t' (.torqueOff acked verified)
  | writeHold (hold : List GoalTarget) (written : Bool)
      (hhold : written = true → hold.map GoalTarget.id = configuredIds cfg)
      (hoff : t.arming.torque_off_verified = true)
      (harming : t'.arming = { t.arming with hold_seeded := written })
      (hready : t'.arming_ready = true → t.arming_ready = true) :
      AdvanceMove t cfg t' (.writeHold hold written)
  | torqueOn (hhold : t.arming.hold_seeded = true) (harming : t'.arming = t.arming) :
      AdvanceMove t cfg t' (.torqueOn kNumServos true)
  | failed (acked : Nat) (hhold : t.arming.hold_seeded = true)
      (harming : t'.arming =
        { t.arming with torque_off_verified := false, hold_seeded := false
                        status_checked_mask := 0 })
      (hready : t'.arming_ready = false) : AdvanceMove t cfg t' (.torqueOn acked false)

theorem torqueOffVerified_acked {bus : DxlBus}
    (hverified : (DxlTask.torqueOffVerified bus).1.2 = true) :
    (DxlTask.torqueOffVerified bus).1.1 = kNumServos := by
  let acked := (DxlBus.setTorqueAll false bus).1
  change (ite ((acked == kNumServos) = true) _ _ : BusM (Nat × Bool)) _ |>.1.2 = true at hverified
  change (ite ((acked == kNumServos) = true) _ _ : BusM (Nat × Bool)) _ |>.1.1 = kNumServos
  by_cases hacked : (acked == kNumServos) = true
  · rw [if_pos hacked]
    exact eq_of_beq hacked
  · rw [if_neg hacked] at hverified
    exact nomatch hverified

theorem keepsIds_torqueOffVerified : KeepsIds DxlTask.torqueOffVerified :=
  .bind (.setTorqueAll false) fun _ => .ite (.bind .get fun _ =>
    .bind (.verifyTorque false _) fun _ => .pure _) (.pure _)

theorem buildHoldTargets_ids {ids : List UInt8} {statuses : List ServoStatus}
    {hold : List GoalTarget} (hbuild : buildHoldTargets ids statuses = some hold) :
    hold.map GoalTarget.id = ids := by
  unfold buildHoldTargets at hbuild
  induction ids generalizing hold with
  | nil =>
    cases hbuild
    rfl
  | cons id ids ih =>
    rw [List.mapM_cons] at hbuild
    obtain ⟨target, htarget, hothers⟩ := Option.bind_eq_some_iff.mp hbuild
    obtain ⟨rest, hrest, hdone⟩ := Option.bind_eq_some_iff.mp hothers
    cases hdone
    obtain ⟨s, -, htarget⟩ := Option.bind_eq_some_iff.mp htarget
    have hid : target.id = id := by
      split at htarget
      · cases htarget
      · cases htarget
        rfl
    rw [List.map_cons, hid, ih hrest]

theorem verifyTorqueOn_acked {acked : Nat} {bus : DxlBus}
    (hverified : (DxlTask.verifyTorqueOn acked bus).1 = true) : acked = kNumServos := by
  unfold DxlTask.verifyTorqueOn at hverified
  by_cases hacked : (acked == kNumServos) = true
  · exact eq_of_beq hacked
  · rw [if_neg hacked] at hverified
    exact nomatch hverified

theorem keepsIds_verifyTorqueOn (acked : Nat) : KeepsIds (DxlTask.verifyTorqueOn acked) :=
  .ite (.bind .get fun _ => .bind (.verifyTorque true _) fun _ => .pure _) (.pure _)

theorem torqueOnVerified_acked {bus : DxlBus}
    (hverified : (DxlTask.torqueOnVerified bus).1.2 = true) :
    (DxlTask.torqueOnVerified bus).1.1 = kNumServos := by
  let acked := (DxlBus.setTorqueAll true bus).1
  let verified := (DxlTask.verifyTorqueOn acked (DxlBus.setTorqueAll true bus).2).1
  change (ite (verified = true) _ _ : BusM (Nat × Bool)) _ |>.1.2 = true at hverified
  change (ite (verified = true) _ _ : BusM (Nat × Bool)) _ |>.1.1 = kNumServos
  by_cases hon : verified = true
  · rw [if_pos hon]
    exact verifyTorqueOn_acked hon
  · rw [if_neg hon] at hverified
    exact nomatch hverified

theorem keepsIds_torqueOnVerified : KeepsIds DxlTask.torqueOnVerified :=
  .bind (.setTorqueAll true) fun _ => .bind (keepsIds_verifyTorqueOn _) fun _ =>
    .ite (.pure _) (.bind (.setTorqueAll false) fun _ => .pure _)

theorem writeHold_ids {bus : DxlBus}
    (hwritten : (DxlTask.writeHold (t.buildConfiguredHoldTargets cfg) bus).1 = true) :
    ((t.buildConfiguredHoldTargets cfg).getD []).map GoalTarget.id = configuredIds cfg := by
  cases hbuild : t.buildConfiguredHoldTargets cfg with
  | none =>
    rw [hbuild] at hwritten
    exact nomatch hwritten
  | some hold =>
    unfold DxlTask.buildConfiguredHoldTargets at hbuild
    split at hbuild
    · cases hbuild
    · exact buildHoldTargets_ids hbuild

theorem advance_move : AdvanceMove t cfg (t.advance cfg).1 (t.advance cfg).2 := by
  unfold DxlTask.advance
  dsimp only
  split
  next hoff =>
    simp only [Bool.and_eq_true, beq_iff_eq] at hoff
    exact .torqueOff _ _ torqueOffVerified_acked hoff.1.1.1 rfl id
  next =>
    split
    next hseed =>
      exact .writeHold _ _ writeHold_ids (Bool.and_eq_true_iff.mp hseed).1 rfl id
    next =>
      split
      next hon =>
        have hhold := (Bool.and_eq_true_iff.mp hon).1
        split
        next hverified =>
          have hacked : (t.onBus DxlTask.torqueOnVerified).1.1 = kNumServos :=
            torqueOnVerified_acked hverified
          rw [hacked]
          exact .torqueOn hhold rfl
        next => exact .failed _ hhold rfl rfl
      next => exact .idle (.refl t)

theorem advance_ids : (t.advance cfg).1.bus.ids = t.bus.ids := by
  unfold DxlTask.advance
  dsimp only
  split
  · exact keepsIds_torqueOffVerified t.bus
  · split
    · exact keepsIds_writeHold _ t.bus
    · split
      · split
        · exact keepsIds_torqueOnVerified t.bus
        · exact keepsIds_torqueOnVerified t.bus
      · rfl

/-- The cycle belongs to the attempt: the system is arming, and no torque-on has failed. -/
def KeepsArming (inp : DxlInput) (out : ArmingCycle) : Prop :=
  inp.live_state = .armingChecks ∧ ∀ acked, out.step ≠ .torqueOn acked false

structure CycleMove (t : DxlTask) (inp : DxlInput) (t' : DxlTask) (out : ArmingCycle) : Prop where
  checked : ∀ i, t'.arming.Checked i → KeepsArming inp out ∧ (t.arming.Checked i ∨
    ∃ id, out.status_read = some (i, id) ∧ out.discovered = true ∧ t'.bus.ids[i]? = some id)
  off : t'.arming.torque_off_verified = true → KeepsArming inp out ∧
    (t.arming.torque_off_verified = true ∨
      out.step = .torqueOff kNumServos true ∧ ∀ i < kNumServos, t'.arming.Checked i)
  hold : t'.arming.hold_seeded = true → KeepsArming inp out ∧ (t.arming.hold_seeded = true ∨
    t.arming.torque_off_verified = true ∧
      ∃ hold, out.step = .writeHold hold true ∧ hold.map GoalTarget.id = configuredIds inp.config)
  torqueOn : ∀ acked verified, out.step = .torqueOn acked verified →
    inp.live_state = .armingChecks ∧ t.arming.hold_seeded = true
  ready : t'.arming_ready = true → t.arming_ready = true ∨ out.step = .torqueOn kNumServos true
  settled : ∀ i, t'.arming.Checked i → Settled t inp.config →
    Settled t' inp.config ∧ t'.bus.ids = t.bus.ids
  fresh : ∀ i id, out.status_read = some (i, id) → t'.arming.Checked i → Settled t' inp.config

variable {inp : DxlInput} {out : ArmingCycle}

/-- The rest of the cycle does not matter. -/
theorem CycleMove.of_same (move : CycleMove t inp u out) (same : SameArming u t') :
    CycleMove t inp t' out where
  checked := by
    rw [same.arming, same.ids]
    exact move.checked
  off := by
    rw [same.arming]
    exact move.off
  hold := by
    rw [same.arming]
    exact move.hold
  torqueOn := move.torqueOn
  ready := fun hr => move.ready (same.ready hr)
  settled := by
    rw [same.arming, same.ids]
    intro _ hi hs
    obtain ⟨hs', hids⟩ := move.settled _ hi hs
    exact ⟨hs'.of_same same.ids (congrArg _ same.arming) (congrArg _ same.arming), hids⟩
  fresh := by
    rw [same.arming]
    intro _ _ hread hi
    exact (move.fresh _ _ hread hi).of_same same.ids (congrArg _ same.arming)
      (congrArg _ same.arming)

theorem cycleMove_wait (harming : inp.live_state = .armingChecks) (same : SameArming t t') :
    CycleMove t inp t' {} := by
  have hkeeps : KeepsArming inp {} := ⟨harming, fun _ => nofun⟩
  refine CycleMove.of_same (u := t) ?_ same
  exact
    { checked := fun _ hi => ⟨hkeeps, .inl hi⟩
      off := fun hoff => ⟨hkeeps, .inl hoff⟩
      hold := fun hhold => ⟨hkeeps, .inl hhold⟩
      torqueOn := nofun
      ready := .inl
      settled := fun _ _ hs => ⟨hs, rfl⟩
      fresh := nofun }

theorem cycleMove_reset (hmask : t'.arming.status_checked_mask = 0)
    (hoff : t'.arming.torque_off_verified = false) (hhold : t'.arming.hold_seeded = false)
    (hready : t'.arming_ready = false) : CycleMove t inp t' {} where
  checked := fun _ hi => absurd hi (not_checked_of_zero hmask)
  off := fun h => absurd h (hoff ▸ Bool.false_ne_true)
  hold := fun h => absurd h (hhold ▸ Bool.false_ne_true)
  torqueOn := nofun
  ready := fun h => absurd h (hready ▸ Bool.false_ne_true)
  settled := fun _ hi => absurd hi (not_checked_of_zero hmask)
  fresh := nofun

theorem checked_congr {a a' : ArmingProgress}
    (hmask : a'.status_checked_mask = a.status_checked_mask) : a'.Checked i ↔ a.Checked i := by
  unfold ArmingProgress.Checked
  rw [hmask]

theorem cycleMove_status (harming : inp.live_state = .armingChecks)
    {status : Option (Nat × UInt8)} (hread : StatusMove (t.discover inp.config) u status) :
    CycleMove t inp u
      { discovered := (t.discover inp.config).arming.discovery_finished &&
          (t.discover inp.config).configured_servo_coverage
        status_read := status } := by
  have hest : SameEstablished t (t.discover inp.config) := discover_established
  have hkeeps {discovered : Bool} : KeepsArming inp { discovered, status_read := status } :=
    ⟨harming, fun _ => nofun⟩
  have hoff : u.arming.torque_off_verified = (t.discover inp.config).arming.torque_off_verified ∧
      u.arming.hold_seeded = (t.discover inp.config).arming.hold_seeded ∧
      u.arming.discovery_finished = (t.discover inp.config).arming.discovery_finished ∧
      u.arming.discovery_started = (t.discover inp.config).arming.discovery_started ∧
      u.bus.ids = (t.discover inp.config).bus.ids ∧
      (u.arming_ready = true → (t.discover inp.config).arming_ready = true) := by
    cases hread with
    | none same =>
      rw [same.arming]
      exact ⟨rfl, rfl, rfl, rfl, same.ids, same.ready⟩
    | read i id hi hid hdiscovered harm hids hready =>
      rw [harm]
      exact ⟨rfl, rfl, rfl, rfl, hids, hready⟩
  obtain ⟨hoff, hhold, hfinished, hstarted, hids, hready⟩ := hoff
  exact
    { checked := by
        intro i hi
        refine ⟨hkeeps, ?_⟩
        cases hread with
        | none same =>
          rw [same.arming, checked_congr hest.mask] at hi
          exact .inl hi
        | read j id hj hid hdiscovered harm hids hready =>
          have hmask : u.arming.status_checked_mask =
              (t.discover inp.config).arming.status_checked_mask ||| servoBit j := by rw [harm]
          rcases (checked_or hj hmask).mp hi with hold | rfl
          · exact .inl ((checked_congr hest.mask).mp hold)
          · exact .inr ⟨id, rfl, hdiscovered, by rw [hids, hid]⟩
      off := fun h => ⟨hkeeps, .inl (by rw [← hest.off, ← hoff, h])⟩
      hold := fun h => ⟨hkeeps, .inl (by rw [← hest.hold, ← hhold, h])⟩
      torqueOn := nofun
      ready := fun h => .inl (hest.ready (hready h))
      settled := fun _ _ hs => by
        obtain ⟨hs', hids'⟩ := discover_settled hs
        exact ⟨hs'.of_same hids hfinished hstarted, hids.trans hids'⟩
      fresh := fun i id hstatus _ => by
        refine Settled.of_same (settled_of_finished ?_) hids hfinished hstarted
        cases hread with
        | none same => cases hstatus
        | read j id hj hid hdiscovered harm hids hready =>
          exact (Bool.and_eq_true_iff.mp hdiscovered).1 }

theorem CycleMove.of_latches {discovered : Bool} {status_read : Option (Nat × UInt8)}
    {step : ArmingStep} (move : CycleMove t inp u { discovered, status_read })
    (hkeeps : KeepsArming inp { discovered, status_read, step }) (hids : t'.bus.ids = u.bus.ids)
    (hmask : t'.arming.status_checked_mask = u.arming.status_checked_mask)
    (hfinished : t'.arming.discovery_finished = u.arming.discovery_finished)
    (hstarted : t'.arming.discovery_started = u.arming.discovery_started)
    (hoff : t'.arming.torque_off_verified = true → u.arming.torque_off_verified = true ∨
      step = .torqueOff kNumServos true ∧ ∀ i < kNumServos, t'.arming.Checked i)
    (hhold : t'.arming.hold_seeded = true → u.arming.hold_seeded = true ∨
      u.arming.torque_off_verified = true ∧
        ∃ hold, step = .writeHold hold true ∧ hold.map GoalTarget.id = configuredIds inp.config)
    (hon : ∀ acked verified, step = .torqueOn acked verified → u.arming.hold_seeded = true)
    (hready : t'.arming_ready = true → u.arming_ready = true ∨ step = .torqueOn kNumServos true) :
    CycleMove t inp t' { discovered, status_read, step } := by
  have hoffBefore (h : u.arming.torque_off_verified = true) : t.arming.torque_off_verified = true := by
    rcases (move.off h).2 with hoff | ⟨hstep, -⟩
    · exact hoff
    · cases hstep
  have hholdBefore (h : u.arming.hold_seeded = true) : t.arming.hold_seeded = true := by
    rcases (move.hold h).2 with hhold | ⟨-, hold, hstep, -⟩
    · exact hhold
    · cases hstep
  exact
    { checked := by
        intro i hi
        rw [checked_congr hmask] at hi
        rw [hids]
        exact ⟨hkeeps, (move.checked i hi).2⟩
      off := fun h => ⟨hkeeps, (hoff h).imp_left hoffBefore⟩
      hold := fun h => ⟨hkeeps, (hhold h).imp hholdBefore fun ⟨hoff, hex⟩ => ⟨hoffBefore hoff, hex⟩⟩
      torqueOn := fun acked verified h => ⟨hkeeps.1, hholdBefore (hon acked verified h)⟩
      ready := fun h => by
        rcases hready h with hu | hstep
        · rcases move.ready hu with ht | hno
          · exact .inl ht
          · cases hno
        · exact .inr hstep
      settled := fun i hi hs => by
        rw [checked_congr hmask] at hi
        obtain ⟨hs', hids'⟩ := move.settled i hi hs
        exact ⟨hs'.of_same hids hfinished hstarted, hids.trans hids'⟩
      fresh := fun i id hstatus hi => by
        rw [checked_congr hmask] at hi
        exact (move.fresh i id hstatus hi).of_same hids hfinished hstarted }

theorem CycleMove.advance (harming : inp.live_state = .armingChecks) {discovered : Bool}
    {status_read : Option (Nat × UInt8)} {step : ArmingStep}
    (move : CycleMove t inp u { discovered, status_read })
    (hadvance : AdvanceMove u inp.config t' step) (hids : t'.bus.ids = u.bus.ids) :
    CycleMove t inp t' { discovered, status_read, step } := by
  cases hadvance with
  | idle same => exact move.of_same same
  | torqueOff acked verified hacked hall harm hready =>
    have hmask : t'.arming.status_checked_mask = u.arming.status_checked_mask := by rw [harm]
    refine move.of_latches ⟨harming, fun _ => nofun⟩ hids hmask (by rw [harm]) (by rw [harm])
      (fun h => .inr ?_) (fun h => .inl ?_) (fun _ _ => nofun) fun h => .inl (hready h)
    · rw [harm] at h
      have hverified : verified = true := h
      rw [hverified, hacked hverified]
      exact ⟨rfl, fun i hi => checked_of_all (hmask.trans hall) hi⟩
    · rw [harm] at h
      exact h
  | writeHold hold written hhold hoff harm hready =>
    refine move.of_latches ⟨harming, fun _ => nofun⟩ hids (by rw [harm]) (by rw [harm]) (by rw [harm])
      (fun h => .inl ?_) (fun h => .inr ⟨hoff, ?_⟩) (fun _ _ => nofun) fun h => .inl (hready h)
    · exact hoff
    · rw [harm] at h
      have hwritten : written = true := h
      rw [hwritten]
      exact ⟨hold, rfl, hhold hwritten⟩
  | torqueOn hhold harm =>
    refine move.of_latches ⟨harming, fun _ => nofun⟩ hids (by rw [harm]) (by rw [harm]) (by rw [harm])
      (fun h => .inl ?_) (fun h => .inl ?_) (fun _ _ _ => hhold) fun _ => .inr rfl
    · rw [harm] at h
      exact h
    · exact hhold
  | failed acked hhold harm hready =>
    have hmask : t'.arming.status_checked_mask = 0 := by rw [harm]
    have hbefore : t.arming.hold_seeded = true := by
      rcases (move.hold hhold).2 with hhold | ⟨-, hold, hstep, -⟩
      · exact hhold
      · cases hstep
    exact
      { checked := fun _ hi => absurd hi (not_checked_of_zero hmask)
        off := fun h => by
          rw [harm] at h
          exact nomatch h
        hold := fun h => by
          rw [harm] at h
          exact nomatch h
        torqueOn := fun _ _ _ => ⟨harming, hbefore⟩
        ready := fun h => absurd h (hready ▸ Bool.false_ne_true)
        settled := fun _ hi => absurd hi (not_checked_of_zero hmask)
        fresh := fun _ _ _ hi => absurd hi (not_checked_of_zero hmask) }

theorem arm_move (harming : inp.live_state = .armingChecks) :
    CycleMove t inp (t.arm inp.config inp.now_ms).1 (t.arm inp.config inp.now_ms).2 := by
  unfold DxlTask.arm
  by_cases hpower : t.power_on = true
  · have hup : t.powerUp inp.now_ms = t := if_pos hpower
    rw [hup]
    dsimp only
    split
    · have hread : StatusMove (t.discover inp.config)
          ((t.discover inp.config).checkStatus inp.config).1
          ((t.discover inp.config).checkStatus inp.config).2 := checkStatus_move
      have hstatus := cycleMove_status harming hread
      exact CycleMove.advance harming hstatus advance_move advance_ids
    · exact cycleMove_wait harming (.refl t)
  · have hup : (t.powerUp inp.now_ms).arming = { power_on_ms := inp.now_ms } ∧
        (t.powerUp inp.now_ms).arming_ready = false := by
      unfold DxlTask.powerUp
      rw [if_neg hpower]
      exact ⟨rfl, rfl⟩
    obtain ⟨harm, hready⟩ := hup
    have hwait : ¬ inp.now_ms - (t.powerUp inp.now_ms).arming.power_on_ms ≥ kServoBootDelayMs := by
      rw [harm, UInt32.sub_self]
      decide
    rw [if_neg hwait]
    exact cycleMove_reset (by rw [harm]) (by rw [harm]) (by rw [harm]) hready

/-- The bus at the start of a cycle: only the replies to come are new. -/
theorem CycleMove.of_wire {wire : Nat → Reply} {sent : Nat}
    (move : CycleMove { t with bus := { t.bus with wire, sent } } inp t' out) :
    CycleMove t inp t' out where
  checked := move.checked
  off := move.off
  hold := move.hold
  torqueOn := move.torqueOn
  ready := move.ready
  settled := fun i hi hs => move.settled i hi ⟨hs.finished, hs.covered⟩
  fresh := move.fresh

/-- Every cycle, whatever the servos answer. -/
theorem cycle_move : CycleMove t inp (t.cycle inp).1 (t.cycle inp).2 := by
  suffices hmove : CycleMove { t with bus := { t.bus with wire := inp.wire, sent := 0 } } inp
      (t.cycle inp).1 (t.cycle inp).2 from hmove.of_wire
  unfold DxlTask.cycle
  dsimp only
  by_cases harming : inp.live_state = .armingChecks
  · rw [if_pos (beq_iff_eq.mpr harming)]
    exact (arm_move harming).of_same sameArming_finish
  · rw [if_neg (fun h => harming (eq_of_beq h))]
    exact (cycleMove_reset rfl rfl rfl rfl).of_same sameArming_finish

/-!
## Torque on only after the whole bring-up

In one attempt to arm, torque is switched on only after the hold targets were written, these only after
a verified torque-off, and this only when the status of every servo had been read with the discovery
finished. Each of these is in a cycle of its own, except that the last status read may share its cycle
with the torque-off.
-/

abbrev DxlEvent := Event DxlTask (DxlInput × ArmingCycle)

def InAttempt (e : DxlEvent) : Prop := KeepsArming e.label.1 e.label.2

def StatusRead (i : Nat) (e : DxlEvent) : Prop :=
  e.label.2.discovered = true ∧ ∃ id, e.label.2.status_read = some (i, id)

def ServoRead (id : UInt8) (e : DxlEvent) : Prop :=
  e.label.2.discovered = true ∧ ∃ i, e.label.2.status_read = some (i, id)

/-- At the cycle `e`: every entry has been read, and every discovered servo, unless the configuration
was another one in between. -/
structure AllRead (e : DxlEvent) (h : List DxlEvent) : Prop where
  entries : ∀ i < kNumServos, Within InAttempt (fun x _ => StatusRead i x) h
  servos : ∀ p ∈ e.post.bus.discovered, Within InAttempt
    (fun x _ => ServoRead p.id x ∨ x.label.1.config ≠ e.label.1.config) h

/-- A torque-off by all servos was verified, with all statuses read by then. -/
def TorqueOffDone (h : List DxlEvent) : Prop :=
  Within InAttempt (fun e before =>
    e.label.2.step = .torqueOff kNumServos true ∧ AllRead e (e :: before)) h

/-- The hold targets for all configured servos went out. -/
def WritesHold (e : DxlEvent) : Prop :=
  ∃ hold, e.label.2.step = .writeHold hold true ∧
    hold.map GoalTarget.id = configuredIds e.label.1.config

/-- The hold targets went out after the torque-off. -/
def HoldDone (h : List DxlEvent) : Prop :=
  Within InAttempt (fun e before => WritesHold e ∧ TorqueOffDone before) h

def TorqueOn (e : DxlEvent) : Prop := ∃ acked verified, e.label.2.step = .torqueOn acked verified

/-- The locals of the task say what has been done in the attempt. -/
structure ArmingInv (h : List DxlEvent) (t : DxlTask) : Prop where
  checked : ∀ i, t.arming.Checked i → Within InAttempt (fun x _ => StatusRead i x) h
  servos : ∀ i cfg, t.arming.Checked i →
    Within InAttempt (fun x _ => x.label.1.config ≠ cfg) h ∨
    Settled t cfg ∧ ∃ id, t.bus.ids[i]? = some id ∧ Within InAttempt (fun x _ => ServoRead id x) h
  off : t.arming.torque_off_verified = true → TorqueOffDone h
  hold : t.arming.hold_seeded = true → HoldDone h

variable {t t' : DxlTask} {h : List DxlEvent} {inp : DxlInput} {out : ArmingCycle}

theorem armingInv_boot : ArmingInv [] t.boot where
  checked := fun _ hi => absurd hi (not_checked_of_zero rfl)
  servos := fun _ _ hi => absurd hi (not_checked_of_zero rfl)
  off := nofun
  hold := nofun

theorem ArmingInv.checked_step (inv : ArmingInv h t) (move : CycleMove t inp t' out) {i : Nat}
    (hi : t'.arming.Checked i) :
    Within InAttempt (fun x _ => StatusRead i x) (⟨t, (inp, out), t'⟩ :: h) := by
  obtain ⟨hkeeps, hbefore | ⟨id, hread, hdiscovered, -⟩⟩ := move.checked i hi
  · exact .keep hkeeps (inv.checked i hbefore)
  · exact .now hkeeps ⟨hdiscovered, id, hread⟩

theorem ArmingInv.servos_step (inv : ArmingInv h t) (move : CycleMove t inp t' out) {i : Nat}
    (cfg : RobotConfig) (hi : t'.arming.Checked i) :
    Within InAttempt (fun x _ => x.label.1.config ≠ cfg) (⟨t, (inp, out), t'⟩ :: h) ∨
    Settled t' cfg ∧ ∃ id, t'.bus.ids[i]? = some id ∧
      Within InAttempt (fun x _ => ServoRead id x) (⟨t, (inp, out), t'⟩ :: h) := by
  obtain ⟨hkeeps, hsource⟩ := move.checked i hi
  by_cases hcfg : inp.config = cfg
  · subst hcfg
    rcases hsource with hbefore | ⟨id, hread, hdiscovered, hid⟩
    · rcases inv.servos i inp.config hbefore with hother | ⟨hs, id, hid, hread⟩
      · exact .inl (.keep hkeeps hother)
      · obtain ⟨hs', hids⟩ := move.settled i hi hs
        exact .inr ⟨hs', id, by rw [hids, hid], .keep hkeeps hread⟩
    · exact .inr ⟨move.fresh i id hread hi, id, hid, .now hkeeps ⟨hdiscovered, i, hread⟩⟩
  · exact .inl (.now hkeeps hcfg)

theorem allRead_of_checked {e : DxlEvent} {cfg : RobotConfig}
    (hentries : ∀ i < kNumServos, Within InAttempt (fun x _ => StatusRead i x) h)
    (hservos : ∀ i < kNumServos, Within InAttempt (fun x _ => x.label.1.config ≠ cfg) h ∨
      Settled e.post cfg ∧ ∃ id, e.post.bus.ids[i]? = some id ∧
        Within InAttempt (fun x _ => ServoRead id x) h)
    (hcfg : e.label.1.config = cfg) : AllRead e h := by
  subst hcfg
  refine ⟨hentries, fun p hp => ?_⟩
  have hmem : p.id ∈ e.post.bus.ids := List.mem_map_of_mem hp
  obtain ⟨i, hi, hid⟩ := List.getElem_of_mem hmem
  have hlt : i < kNumServos := by
    rw [DxlBus.length_ids] at hi
    exact Nat.lt_of_lt_of_le hi DxlBus.servoCount_le
  rcases hservos i hlt with hother | ⟨-, id, hget, hread⟩
  · exact hother.imp fun _ _ _ hne => .inr hne
  · rw [List.getElem?_eq_getElem hi, hid] at hget
    cases hget
    exact hread.imp fun _ _ _ hr => .inl hr

theorem ArmingInv.step (inv : ArmingInv h t) (move : CycleMove t inp t' out) :
    ArmingInv (⟨t, (inp, out), t'⟩ :: h) t' where
  checked := fun _ hi => inv.checked_step move hi
  servos := fun _ cfg hi => inv.servos_step move cfg hi
  off := by
    intro hoff
    obtain ⟨hkeeps, hbefore | ⟨hstep, hall⟩⟩ := move.off hoff
    · exact .keep hkeeps (inv.off hbefore)
    · refine .now hkeeps ⟨hstep, allRead_of_checked (fun i hi => ?_) (fun i hi => ?_) rfl⟩
      · exact inv.checked_step move (hall i hi)
      · exact inv.servos_step move inp.config (hall i hi)
  hold := by
    intro hhold
    obtain ⟨hkeeps, hbefore | ⟨hoff, hold, hstep, hids⟩⟩ := move.hold hhold
    · exact .keep hkeeps (inv.hold hbefore)
    · exact .now hkeeps ⟨⟨hold, hstep, hids⟩, inv.off hoff⟩

theorem move_of_cycle (hstep : WithOutput DxlTask.cycle t (inp, out) t') : CycleMove t inp t' out := by
  have hcycle : t.cycle inp = (t', out) := hstep
  have hmove : CycleMove t inp (t.cycle inp).1 (t.cycle inp).2 := cycle_move
  rw [hcycle] at hmove
  exact hmove

theorem armingInv_run {t₀ : DxlTask} (run : Run (WithOutput DxlTask.cycle) t₀.boot h t) :
    ArmingInv h t :=
  run.history_invariant ArmingInv armingInv_boot fun _ _ _ _ _ inv hstep =>
    inv.step (move_of_cycle hstep)

/-- The arming branch switches torque on only in an attempt in which the bring-up was done in its order,
and the system becomes ready only in a cycle in which all servos confirmed it. -/
theorem arming_order {t₀ : DxlTask} {e : DxlEvent}
    (run : Run (WithOutput DxlTask.cycle) t₀.boot (e :: h) t) :
    (TorqueOn e → e.label.1.live_state = .armingChecks ∧ HoldDone h) ∧
    (e.pre.arming_ready = false → e.post.arming_ready = true →
      e.label.2.step = .torqueOn kNumServos true) := by
  obtain ⟨-, hstep, before⟩ := run.of_cons
  have move := move_of_cycle hstep
  constructor
  · rintro ⟨acked, verified, hon⟩
    obtain ⟨harming, hhold⟩ := move.torqueOn acked verified hon
    exact ⟨harming, (armingInv_run before).hold hhold⟩
  · intro hpre hpost
    rcases move.ready hpost with hready | hon
    · exact absurd hready (hpre ▸ Bool.false_ne_true)
    · exact hon

/-- The torque-off came in a later cycle than the last status read. -/
def TorqueOffApart (h : List DxlEvent) : Prop :=
  Within InAttempt (fun e before =>
    e.label.2.step = .torqueOff kNumServos true ∧ AllRead e before) h

def HoldApart (h : List DxlEvent) : Prop :=
  Within InAttempt (fun e before => WritesHold e ∧ TorqueOffApart before) h

/-- A cycle of a bring-up in which every servo answers every transaction with `value`. -/
def bringUpInput (now_ms : UInt32) (value : Int32) : DxlInput :=
  { now_ms, live_state := .armingChecks, config := defaultRobotConfig, wire := fun _ => { value } }

/-- Power on, 18 cycles of discovery, 18 status reads, the hold targets, torque on. -/
def bringUpInputs : List DxlInput :=
  bringUpInput 0 0 :: (List.replicate 18 (bringUpInput 500 29) ++
    List.replicate 18 (bringUpInput 500 0) ++ [bringUpInput 500 1])

def poweredTask : DxlTask := DxlTask.boot { bus := .new }

def bringUpHistory : List DxlEvent := (record DxlTask.cycle poweredTask [] bringUpInputs).2

theorem lastRead_of_holdApart (happart : HoldApart h) :
    OnceThen (fun e : DxlEvent => e.label.2.status_read.map (·.1) = some 17)
      (fun e => e.label.2.step = .torqueOff kNumServos true) h := by
  obtain ⟨later, e, earlier, rfl, ⟨-, hoff⟩, -⟩ := within_iff.mp happart
  obtain ⟨later', e', earlier', rfl, ⟨hstep, hall⟩, -⟩ := within_iff.mp hoff
  obtain ⟨later'', e'', earlier'', rfl, ⟨-, id, hread⟩, -⟩ :=
    within_iff.mp (hall.entries 17 (by decide))
  refine ⟨later ++ e :: later', e', later'' ++ e'' :: earlier'', ?_, hstep, e'', ?_, ?_⟩
  · rw [List.append_assoc, List.cons_append]
  · exact List.mem_append_right _ (List.mem_cons_self ..)
  · show e''.label.2.status_read.map (·.1) = some 17
    rw [hread]
    rfl

theorem bringUpHistory_spec :
    bringUpHistory.head?.map (fun e => e.label.2.step) = some (.torqueOn kNumServos true) ∧
    ¬ OnceThen (fun e : DxlEvent => e.label.2.status_read.map (·.1) = some 17)
      (fun e => e.label.2.step = .torqueOff kNumServos true) bringUpHistory.tail := by
  decide +kernel

theorem bringUp_torqueOn : ∃ e h t, Run (WithOutput DxlTask.cycle) poweredTask (e :: h) t ∧
    TorqueOn e ∧ h = bringUpHistory.tail := by
  have hrun : Run (WithOutput DxlTask.cycle) poweredTask bringUpHistory _ :=
    run_record DxlTask.cycle bringUpInputs .nil
  have hhead := bringUpHistory_spec.1
  cases hhistory : bringUpHistory with
  | nil =>
    rw [hhistory] at hhead
    cases hhead
  | cons e h =>
    rw [hhistory] at hrun hhead
    exact ⟨e, h, _, hrun, ⟨kNumServos, true, Option.some.inj hhead⟩, rfl⟩

theorem arming_order_bringUp : ∃ e h t, Run (WithOutput DxlTask.cycle) poweredTask (e :: h) t ∧
    TorqueOn e ∧ HoldDone h := by
  obtain ⟨e, h, t, run, hon, -⟩ := bringUp_torqueOn
  exact ⟨e, h, t, run, hon, ((arming_order run).1 hon).2⟩

/-- When everything works, the last status read and the torque-off are in one cycle. -/
theorem torqueOff_shares_cycle : ∃ e h t, Run (WithOutput DxlTask.cycle) poweredTask (e :: h) t ∧
    TorqueOn e ∧ ¬ HoldApart h := by
  obtain ⟨e, h, t, run, hon, rfl⟩ := bringUp_torqueOn
  exact ⟨e, _, t, run, hon, fun happart => bringUpHistory_spec.2 (lastRead_of_holdApart happart)⟩

end HexapodVerified.App
