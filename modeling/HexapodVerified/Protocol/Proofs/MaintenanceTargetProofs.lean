import HexapodVerified.Dxl.Proofs.ServoMapProofs
import HexapodVerified.Lib.Tables
import HexapodVerified.Protocol.MaintenanceTargetApi

/-!
# What the maintenance target commands store

A command either keeps the joint targets and their sequence number or stores clamped ticks and
counts. Under one configuration the stored ticks therefore never leave the servos' windows. The
batch command stores what the single commands store, and stores at different joints commute.
-/

namespace HexapodVerified.Protocol

open HexapodVerified.Config HexapodVerified.Controller HexapodVerified.Dxl HexapodVerified.Gait
open Bytes Tables Transition

variable {F : Type} [FloatArith F] {cfg : RobotConfig} {api : MaintTargetApi} {slot slot' : Slot}
  {joints : JointTable} {req : List UInt8} {out_cap : Nat} {h : List MaintTargetEvent}

theorem mem_allSlots (slot : Slot) : slot ∈ allSlots := by
  refine List.mem_flatMap.mpr ⟨slot.1, List.mem_finRange _, ?_⟩
  exact List.mem_map.mpr ⟨slot.2, List.mem_finRange _, rfl⟩

theorem read_write (joints : JointTable) (slot slot' : Slot) (target : MaintTarget) :
    (joints.write slot target).read slot' = if slot = slot' then target else joints.read slot' := by
  obtain ⟨leg, joint⟩ := slot
  obtain ⟨leg', joint'⟩ := slot'
  unfold JointTable.write JointTable.read
  rw [get_set]
  by_cases hleg : leg = leg'
  · subst hleg
    rw [if_pos rfl, get_set]
    simp only [Prod.mk.injEq, true_and]
  · have hne : (leg, joint) ≠ (leg', joint') := fun heq => hleg (Prod.mk.inj heq).1
    rw [if_neg hleg, if_neg hne]

theorem ext_read {joints joints' : JointTable} (hread : ∀ slot, joints.read slot = joints'.read slot) :
    joints = joints' := by
  apply Vector.ext
  intro leg hleg
  apply Vector.ext
  intro joint hjoint
  exact hread (⟨leg, hleg⟩, ⟨joint, hjoint⟩)

theorem write_comm (joints : JointTable) (hne : slot ≠ slot') (x y : MaintTarget) :
    (joints.write slot x).write slot' y = (joints.write slot' y).write slot x := by
  apply ext_read
  intro other
  rw [read_write, read_write, read_write, read_write]
  by_cases hs : slot = other
  · subst hs
    rw [if_neg hne.symm, if_pos rfl, if_pos rfl]
  · rw [if_neg hs, if_neg hs]

def slotServo (cfg : RobotConfig) (slot : Slot) : Option ServoConfig :=
  servoFor cfg (UInt8.ofNat slot.1.val) (UInt8.ofNat slot.2.val)

/-- Every stored tick lies in the travel window of the joint's servo. -/
def TargetsInWindow (cfg : RobotConfig) (joints : JointTable) : Prop :=
  ∀ slot, (joints.read slot).set = true →
    ∃ s, slotServo cfg slot = some s ∧ InWindow s (joints.read slot).tick

/-- The joint's target is one that `angleToTick` made for some angle. -/
def Solved (F : Type) [FloatArith F] (cfg : RobotConfig) (slot : Slot) (target : MaintTarget) :
    Prop :=
  ∃ angle : F, target =
    storedTarget (angleToTick cfg (UInt8.ofNat slot.1.val) (UInt8.ofNat slot.2.val) angle)

inductive TargetMove (F : Type) [FloatArith F] (cfg : RobotConfig) (t t' : MaintTargetSet) : Prop
  | kept (hseq : t'.seq = t.seq) (hjoints : t'.joints = t.joints)
  | stored (hseq : t'.seq = t.seq + 1)
      (hjoints : ∀ slot, t'.joints.read slot = t.joints.read slot ∨
        Solved F cfg slot (t'.joints.read slot))

theorem storeLeg_read (leg : Fin kNumLegs) (jc : Fin kJointsPerLeg → JointCommand) (slot : Slot) :
    (MaintTargetApi.storeLeg joints leg jc).read slot = joints.read slot ∨
      slot.1 = leg ∧ (MaintTargetApi.storeLeg joints leg jc).read slot = storedTarget (jc slot.2) := by
  unfold MaintTargetApi.storeLeg
  generalize List.finRange kJointsPerLeg = l
  induction l generalizing joints with
  | nil => exact .inl rfl
  | cons j l ih =>
    rw [List.foldl_cons]
    rcases @ih (joints.write (leg, j) (storedTarget (jc j))) with hkept | hstored
    · rw [hkept, read_write]
      by_cases heq : (leg, j) = slot
      · subst heq
        exact .inr ⟨rfl, if_pos rfl⟩
      · exact .inl (if_neg heq)
    · exact .inr hstored

theorem storeFoot_move (target : MaintTargetSet) (leg : Fin kNumLegs) (foot : FootTarget)
    (reachable : Bool) {jc : Fin kJointsPerLeg → JointCommand}
    (hjc : ∀ joint, Solved F cfg (leg, joint) (storedTarget (jc joint))) :
    TargetMove F cfg target (MaintTargetApi.storeFoot target leg foot reachable jc) := by
  cases reachable with
  | false => exact .kept rfl rfl
  | true =>
    refine .stored rfl fun slot => ?_
    have hread : (MaintTargetApi.storeLeg target.joints leg jc).read slot = target.joints.read slot ∨ _ :=
      storeLeg_read leg jc slot
    rcases hread with hkept | ⟨hleg, hstored⟩
    · exact .inl hkept
    · subst hleg
      have hsolved := hjc slot.2
      rw [← hstored] at hsolved
      exact .inr hsolved

theorem setLegTarget_move (api : MaintTargetApi) (leg : Fin kNumLegs) (req : List UInt8)
    (out_cap : Nat) :
    let after := (api.setLegTarget F cfg leg req out_cap).1
    after.cfg = api.cfg ∧ TargetMove F cfg api.target after.target := by
  unfold MaintTargetApi.setLegTarget
  rw [apply_ite Prod.fst, ite_self]
  exact ⟨rfl, storeFoot_move _ _ _ _ fun joint => ⟨_, rfl⟩⟩

/-- An angle stored at a joint; nothing is stored at a joint without a servo. -/
def storeAngle (F : Type) [FloatArith F] (cfg : RobotConfig) (angle : Slot → List UInt8)
    (joints : JointTable) (slot : Slot) : JointTable :=
  let jc := MaintTargetApi.angleCommand F cfg slot (angle slot)
  if jc.unmapped then joints else joints.write slot (storedTarget jc)

theorem storeAngle_read (cfg : RobotConfig) (angle : Slot → List UInt8) (joints : JointTable)
    (slot slot' : Slot) :
    (storeAngle F cfg angle joints slot).read slot' = joints.read slot' ∨
      Solved F cfg slot' ((storeAngle F cfg angle joints slot).read slot') := by
  unfold storeAngle
  dsimp only
  split_ifs with hunmapped
  · exact .inl rfl
  · rw [read_write]
    by_cases heq : slot = slot'
    · subst heq
      rw [if_pos rfl]
      exact .inr ⟨_, rfl⟩
    · rw [if_neg heq]
      exact .inl rfl

theorem foldl_storeAngle_read (cfg : RobotConfig) (angle : Slot → List UInt8) (order : List Slot)
    (joints : JointTable) (slot : Slot) :
    (order.foldl (storeAngle F cfg angle) joints).read slot = joints.read slot ∨
      Solved F cfg slot ((order.foldl (storeAngle F cfg angle) joints).read slot) := by
  induction order generalizing joints with
  | nil => exact .inl rfl
  | cons next order ih =>
    rw [List.foldl_cons]
    rcases ih (storeAngle F cfg angle joints next) with hkept | hsolved
    · rw [hkept]
      exact storeAngle_read cfg angle joints next slot
    · exact .inr hsolved

theorem foldl_add_joints (cfg : RobotConfig) (req : List UInt8) (order : List Slot)
    (acc : MaintTargetApi.AllJoints) :
    (order.foldl (MaintTargetApi.AllJoints.add F cfg req) acc).joints =
      order.foldl (storeAngle F cfg fun slot => req.drop (MaintTargetApi.slotIndex slot * 2))
        acc.joints := by
  induction order generalizing acc with
  | nil => rfl
  | cons slot order ih =>
    rw [List.foldl_cons, List.foldl_cons, ih]
    congr 1
    unfold MaintTargetApi.AllJoints.add storeAngle
    dsimp only
    split_ifs with hunmapped <;> rfl

theorem setJointTarget_eq (api : MaintTargetApi) (cfg : RobotConfig) (slot : Slot)
    (req : List UInt8) (out_cap : Nat) :
    let after := (api.setJointTarget F cfg slot req out_cap).1
    after.target.joints = storeAngle F cfg (fun _ => req.drop 2) api.target.joints slot ∧
      after.control_mode = .jointTargets ∧ after.cfg = api.cfg ∧ after.gateOpen = api.gateOpen ∧
      TargetMove F cfg api.target after.target := by
  unfold MaintTargetApi.setJointTarget storeAngle
  by_cases hunmapped :
      (MaintTargetApi.angleCommand F cfg slot (req.drop 2)).unmapped = true
  · rw [if_pos hunmapped, if_pos hunmapped]
    exact ⟨rfl, rfl, rfl, rfl, .kept rfl rfl⟩
  · rw [if_neg hunmapped, if_neg hunmapped, apply_ite Prod.fst, ite_self]
    refine ⟨rfl, rfl, rfl, rfl, .stored rfl fun other => ?_⟩
    have hread := storeAngle_read (F := F) cfg (fun _ => req.drop 2) api.target.joints slot other
    unfold storeAngle at hread
    rw [if_neg hunmapped] at hread
    exact hread

theorem handleSetAllJoints_eq (api : MaintTargetApi) (cfg : RobotConfig)
    (hlen : kNumLegs * kJointsPerLeg * 2 ≤ req.length) (out_cap : Nat) :
    let after := (api.handleSetAllJoints F cfg req out_cap).1
    after.target.joints =
        allSlots.foldl (storeAngle F cfg fun slot => req.drop (MaintTargetApi.slotIndex slot * 2))
          api.target.joints ∧
      after.control_mode = .jointTargets ∧ after.target.seq = api.target.seq + 1 ∧
      after.cfg = api.cfg := by
  unfold MaintTargetApi.handleSetAllJoints
  rw [if_neg (Nat.not_lt.mpr hlen)]
  rw [apply_ite Prod.fst, ite_self]
  exact ⟨foldl_add_joints .., rfl, rfl, rfl⟩

/-- Every command keeps the configuration, and keeps the joint targets or stores clamped ticks and
counts. -/
theorem handle_move (api : MaintTargetApi) (hcfg : ∀ c, api.cfg = some c → c = cfg)
    (msg_id : UInt8) (req : List UInt8) (out_cap : Nat) :
    let after := (api.handle F msg_id req out_cap).1
    after.cfg = api.cfg ∧ TargetMove F cfg api.target after.target := by
  have hkept : api.cfg = api.cfg ∧ TargetMove F cfg api.target api.target := ⟨rfl, .kept rfl rfl⟩
  unfold MaintTargetApi.handle
  by_cases hmsg : (!Mainttargetmsg.isMaintTargetMsg msg_id) = true
  · rw [if_pos hmsg]
    exact hkept
  rw [if_neg hmsg]
  split
  case h_2 => exact hkept
  case h_1 c _ hbound =>
    obtain rfl := hcfg c hbound
    split_ifs
    · show (api.handleSetLegTarget F c req out_cap).1.cfg = api.cfg ∧
        TargetMove F c api.target (api.handleSetLegTarget F c req out_cap).1.target
      unfold MaintTargetApi.handleSetLegTarget
      dsimp only
      split_ifs
      · exact hkept
      · exact setLegTarget_move ..
      · exact hkept
    · show (api.handleSetJointTarget F c req out_cap).1.cfg = api.cfg ∧
        TargetMove F c api.target (api.handleSetJointTarget F c req out_cap).1.target
      unfold MaintTargetApi.handleSetJointTarget
      dsimp only
      split_ifs with hlen hslot
      · exact hkept
      · obtain ⟨-, -, hbound, -, hmove⟩ := setJointTarget_eq (F := F) api c
          (⟨_, hslot.1⟩, ⟨_, hslot.2⟩) req out_cap
        exact ⟨hbound, hmove⟩
      · exact hkept
    · show (api.handleSetControlMode req out_cap).1.cfg = api.cfg ∧
        TargetMove F c api.target (api.handleSetControlMode req out_cap).1.target
      unfold MaintTargetApi.handleSetControlMode
      split_ifs <;> exact hkept
    · show (api.handleSetAllJoints F c req out_cap).1.cfg = api.cfg ∧
        TargetMove F c api.target (api.handleSetAllJoints F c req out_cap).1.target
      by_cases hlen : req.length < kNumLegs * kJointsPerLeg * 2
      · unfold MaintTargetApi.handleSetAllJoints
        rw [if_pos hlen]
        exact hkept
      · obtain ⟨hjoints, -, hseq, hbound⟩ :=
          handleSetAllJoints_eq (F := F) api c (Nat.not_lt.mp hlen) out_cap
        refine ⟨hbound, .stored hseq fun slot => ?_⟩
        rw [hjoints]
        exact foldl_storeAngle_read ..
    · exact hkept

theorem slot_bytes (slot : Slot) : (UInt8.ofNat slot.1.val).toNat < kNumLegs ∧
    (UInt8.ofNat slot.2.val).toNat < kJointsPerLeg := by
  have hleg : slot.1.val < 6 := slot.1.isLt
  have hjoint : slot.2.val < 3 := slot.2.isLt
  rw [UInt8.toNat_ofNat', UInt8.toNat_ofNat', Nat.mod_eq_of_lt (by omega),
    Nat.mod_eq_of_lt (by omega)]
  exact ⟨hleg, hjoint⟩

theorem TargetsInWindow.move {t t' : MaintTargetSet} (hv : ServoMapValid cfg)
    (hmove : TargetMove F cfg t t') (hin : TargetsInWindow cfg t.joints) :
    TargetsInWindow cfg t'.joints := by
  intro slot hset
  rcases hmove with ⟨-, hjoints⟩ | ⟨-, hjoints⟩
  · rw [hjoints] at hset ⊢
    exact hin slot hset
  · rcases hjoints slot with hkept | ⟨angle, hsolved⟩
    · rw [hkept] at hset ⊢
      exact hin slot hset
    · obtain ⟨hleg, hjoint⟩ := slot_bytes slot
      obtain ⟨s, hs⟩ := servoFor_covered hv hleg hjoint
      refine ⟨s, hs, ?_⟩
      rw [hsolved]
      exact angleToTick_inWindow hv hs angle

theorem targetsInWindow_clear (cfg : RobotConfig) (api : MaintTargetApi) :
    TargetsInWindow cfg api.clearTargets.target.joints := by
  intro slot hset
  have hread : api.clearTargets.target.joints.read slot = { tick := kServoCenterTick } := by
    unfold MaintTargetApi.clearTargets JointTable.read
    simp [Vector.get]
  rw [hread] at hset
  cases hset

theorem targetsInWindow_run (hv : ServoMapValid cfg) (run : MaintTargetRun F h api)
    (honly : OnlyConfig cfg h) :
    (∀ c, api.cfg = some c → c = cfg) ∧ TargetsInWindow cfg api.target.joints := by
  induction run with
  | nil => exact ⟨fun c hc => (by cases hc), targetsInWindow_clear cfg {}⟩
  | @step h api after call run hstep ih =>
    obtain ⟨hcfg, hin⟩ := ih fun e he => honly e (List.mem_cons_of_mem _ he)
    rw [show after = api.call F call from hstep]
    cases call with
    | setConfig bound =>
      refine ⟨fun c hc => ?_, hin⟩
      exact honly _ (List.mem_cons_self ..) c (congrArg MaintTargetCall.setConfig hc)
    | setLiveState state lock_held => exact ⟨hcfg, hin⟩
    | resetControlMode => exact ⟨hcfg, hin⟩
    | clearTargets => exact ⟨hcfg, targetsInWindow_clear cfg api⟩
    | handle msg_id req out_cap =>
      obtain ⟨hbound, hmove⟩ := handle_move (F := F) api hcfg msg_id req out_cap
      exact ⟨fun c hc => hcfg c (hbound.symm.trans hc), hin.move hv hmove⟩

theorem kept_of_seq {e : MaintTargetEvent} (hstep : e.post = e.pre.call F e.label)
    (hlabel : e.label ≠ .clearTargets) (hseq : e.post.target.seq = e.pre.target.seq) :
    e.post.target.joints = e.pre.target.joints := by
  obtain ⟨before, label, after⟩ := e
  dsimp only at hstep hlabel hseq ⊢
  subst hstep
  cases label with
  | setConfig bound => rfl
  | setLiveState state lock_held => rfl
  | resetControlMode => rfl
  | clearTargets => exact absurd rfl hlabel
  | handle msg_id req out_cap =>
    -- The configuration bound at the time is the one the command works with.
    have hcfg : ∀ c, before.cfg = some c → c = before.cfg.getD {} := by
      intro c hc
      rw [hc]
      rfl
    rcases (handle_move (F := F) before hcfg msg_id req out_cap).2 with
      ⟨-, hjoints⟩ | ⟨hcount, -⟩
    · exact hjoints
    · have hnext : before.target.seq + 1 = before.target.seq := hcount.symm.trans hseq
      have hnat := congrArg UInt32.toNat hnext
      rw [UInt32.toNat_add, UInt32.toNat_one] at hnat
      omega

/-- The single joint command for the angle that a batch request has for the joint. -/
def jointCall (req : List UInt8) (cap : Slot → Nat) (slot : Slot) : MaintTargetCall :=
  let idx := MaintTargetApi.slotIndex slot
  .handle Mainttargetmsg.kSetJointTarget
    [UInt8.ofNat slot.1.val, UInt8.ofNat slot.2.val, req.getD (idx * 2) 0, req.getD (idx * 2 + 1) 0]
    (cap slot)

theorem readI16_jointCall (req : List UInt8) (leg joint : UInt8) (k : Nat) :
    MaintTargetApi.readI16 ([leg, joint, req.getD k 0, req.getD (k + 1) 0].drop 2) =
      MaintTargetApi.readI16 (req.drop k) := by
  unfold MaintTargetApi.readI16 getU16
  simp only [List.drop_succ_cons, List.drop_zero, List.getD_eq_getElem?_getD, List.getElem?_drop,
    Nat.add_zero]
  rfl

theorem storeAngle_comm (angle : Slot → List UInt8) (joints : JointTable) (slot slot' : Slot) :
    storeAngle F cfg angle (storeAngle F cfg angle joints slot) slot' =
      storeAngle F cfg angle (storeAngle F cfg angle joints slot') slot := by
  by_cases hne : slot = slot'
  · rw [hne]
  · unfold storeAngle
    dsimp only
    split_ifs
    · rfl
    · rfl
    · rfl
    · exact write_comm joints hne _ _

theorem handle_closed (hgate : api.gateOpen = false) (msg_id : UInt8) (req : List UInt8)
    (out_cap : Nat) : (api.handle F msg_id req out_cap).1 = api := by
  unfold MaintTargetApi.handle
  rw [hgate]
  split_ifs <;> rfl

theorem handle_setJoint (hgate : api.gateOpen = true) (hbound : api.cfg = some cfg)
    (req : List UInt8) (out_cap : Nat) :
    (api.handle F Mainttargetmsg.kSetJointTarget req out_cap).1 =
      (api.handleSetJointTarget F cfg req out_cap).1 := by
  unfold MaintTargetApi.handle
  rw [hgate, hbound, if_neg (by decide)]
  dsimp only
  rw [if_neg (by decide), if_pos rfl]
  rfl

theorem handle_setAll (hgate : api.gateOpen = true) (hbound : api.cfg = some cfg)
    (req : List UInt8) (out_cap : Nat) :
    (api.handle F Mainttargetmsg.kSetAllJoints req out_cap).1 =
      (api.handleSetAllJoints F cfg req out_cap).1 := by
  unfold MaintTargetApi.handle
  rw [hgate, hbound, if_neg (by decide)]
  dsimp only
  rw [if_neg (by decide), if_neg (by decide), if_neg (by decide), if_pos rfl]
  rfl

theorem call_jointCall (hgate : api.gateOpen = true) (hbound : api.cfg = some cfg)
    (req : List UInt8) (cap : Slot → Nat) (slot : Slot) :
    let after := api.call F (jointCall req cap slot)
    after.target.joints =
        storeAngle F cfg (fun slot => req.drop (MaintTargetApi.slotIndex slot * 2))
          api.target.joints slot ∧
      after.control_mode = .jointTargets ∧ after.cfg = some cfg ∧ after.gateOpen = true := by
  obtain ⟨hleg, hjoint⟩ := slot_bytes slot
  have hlegEq : (⟨_, hleg⟩ : Fin kNumLegs) = slot.1 := by
    have hlt : slot.1.val < 6 := slot.1.isLt
    apply Fin.ext
    show (UInt8.ofNat slot.1.val).toNat = slot.1.val
    rw [UInt8.toNat_ofNat', Nat.mod_eq_of_lt (by omega)]
  have hjointEq : (⟨_, hjoint⟩ : Fin kJointsPerLeg) = slot.2 := by
    have hlt : slot.2.val < 3 := slot.2.isLt
    apply Fin.ext
    show (UInt8.ofNat slot.2.val).toNat = slot.2.val
    rw [UInt8.toNat_ofNat', Nat.mod_eq_of_lt (by omega)]
  set idx := MaintTargetApi.slotIndex slot * 2 with hidx
  set single : List UInt8 :=
    [UInt8.ofNat slot.1.val, UInt8.ofNat slot.2.val, req.getD idx 0, req.getD (idx + 1) 0]
    with hsingle
  have hcall : api.call F (jointCall req cap slot) =
      (api.setJointTarget F cfg slot single (cap slot)).1 := by
    show (api.handle F Mainttargetmsg.kSetJointTarget single (cap slot)).1 = _
    rw [handle_setJoint hgate hbound]
    unfold MaintTargetApi.handleSetJointTarget
    rw [if_neg (by rw [hsingle]; exact Nat.not_lt.mpr le_rfl)]
    rw [dif_pos ⟨hleg, hjoint⟩]
    show (api.setJointTarget F cfg (⟨_, hleg⟩, ⟨_, hjoint⟩) single (cap slot)).1 = _
    rw [hlegEq, hjointEq]
  obtain ⟨hjoints, hmode, hcfg, hopen, -⟩ :=
    setJointTarget_eq (F := F) api cfg slot single (cap slot)
  rw [hcall]
  refine ⟨hjoints.trans ?_, hmode, hcfg.trans hbound, hopen.trans hgate⟩
  have hangle : MaintTargetApi.angleCommand F cfg slot (single.drop 2) =
      MaintTargetApi.angleCommand F cfg slot (req.drop idx) := by
    unfold MaintTargetApi.angleCommand
    rw [readI16_jointCall]
  unfold storeAngle
  rw [hangle]

theorem execute_jointCalls (hgate : api.gateOpen = true) (hbound : api.cfg = some cfg)
    (req : List UInt8) (cap : Slot → Nat) (order : List Slot) :
    let after := execute (MaintTargetApi.call F) api (order.map (jointCall req cap))
    after.target.joints =
        order.foldl (storeAngle F cfg fun slot => req.drop (MaintTargetApi.slotIndex slot * 2))
          api.target.joints ∧
      (api.control_mode = .jointTargets ∨ order ≠ [] → after.control_mode = .jointTargets) := by
  induction order generalizing api with
  | nil => exact ⟨rfl, fun hmode => hmode.resolve_right fun hne => hne rfl⟩
  | cons slot order ih =>
    obtain ⟨hjoints, hmode, hcfg, hopen⟩ := call_jointCall (F := F) hgate hbound req cap slot
    obtain ⟨hrest, hrestMode⟩ := ih hopen hcfg
    rw [hjoints] at hrest
    exact ⟨hrest, fun _ => hrestMode (.inl hmode)⟩

theorem execute_closed (hgate : api.gateOpen = false) (req : List UInt8) (cap : Slot → Nat)
    (order : List Slot) :
    execute (MaintTargetApi.call F) api (order.map (jointCall req cap)) = api := by
  induction order with
  | nil => rfl
  | cons slot order ih =>
    show execute _ (api.call F (jointCall req cap slot)) _ = api
    rw [show api.call F (jointCall req cap slot) = api from handle_closed hgate ..]
    exact ih

theorem setAll_eq_singles (api : MaintTargetApi)
    (hlen : kNumLegs * kJointsPerLeg * 2 ≤ req.length) (out_cap : Nat) (cap : Slot → Nat)
    {order : List Slot} (horder : order.Perm allSlots) :
    let batch := api.call F (.handle Mainttargetmsg.kSetAllJoints req out_cap)
    let singles := execute (MaintTargetApi.call F) api (order.map (jointCall req cap))
    batch.target.joints = singles.target.joints ∧ batch.control_mode = singles.control_mode := by
  show (api.handle F Mainttargetmsg.kSetAllJoints req out_cap).1.target.joints = _ ∧
    (api.handle F Mainttargetmsg.kSetAllJoints req out_cap).1.control_mode = _
  by_cases hgate : api.gateOpen = true
  · obtain ⟨cfg, hbound⟩ : ∃ cfg, api.cfg = some cfg := by
      unfold MaintTargetApi.gateOpen at hgate
      rw [Bool.and_eq_true, Bool.and_eq_true] at hgate
      exact Option.isSome_iff_exists.mp hgate.1.1
    obtain ⟨hbatch, hbatchMode, -, -⟩ := handleSetAllJoints_eq (F := F) api cfg hlen out_cap
    obtain ⟨hsingles, hsinglesMode⟩ := execute_jointCalls (F := F) hgate hbound req cap order
    have hne : order ≠ [] := by
      rintro rfl
      exact absurd (horder.mem_iff.mpr (mem_allSlots (0, 0))) List.not_mem_nil
    rw [handle_setAll hgate hbound]
    refine ⟨?_, hbatchMode.trans (hsinglesMode (.inr hne)).symm⟩
    rw [hbatch, hsingles]
    exact (horder.foldl_eq' (fun _ _ _ _ joints => storeAngle_comm ..) _).symm
  · have hclosed : api.gateOpen = false := eq_false_of_ne_true hgate
    rw [handle_closed hclosed, execute_closed hclosed]
    exact ⟨rfl, rfl⟩

/-- Under one validated configuration: the stored ticks lie in the windows of their servos; ticks and
set flags change only together with the sequence number, or by `clearTargets`; and a batch command
leaves the ticks, flags and control mode that the eighteen single commands leave in any order. -/
theorem maintenance_targets (F : Type) [FloatArith F] {cfg : RobotConfig}
    (hv : validateRobotConfig cfg = true) {h : List MaintTargetEvent} {api : MaintTargetApi}
    (run : MaintTargetRun F h api) (honly : OnlyConfig cfg h) :
    TargetsInWindow cfg api.target.joints ∧
      (∀ e ∈ h, e.label ≠ .clearTargets → e.post.target.seq = e.pre.target.seq →
        ∀ slot, (e.post.target.joints.read slot).tick = (e.pre.target.joints.read slot).tick ∧
          (e.post.target.joints.read slot).set = (e.pre.target.joints.read slot).set) ∧
      ∀ (req : List UInt8) (order : List Slot) (out_cap : Nat) (cap : Slot → Nat),
        kNumLegs * kJointsPerLeg * 2 ≤ req.length → order.Perm allSlots →
        let batch := api.call F (.handle Mainttargetmsg.kSetAllJoints req out_cap)
        let singles := execute (MaintTargetApi.call F) api (order.map (jointCall req cap))
        (∀ slot, batch.target.joints.read slot = singles.target.joints.read slot) ∧
          batch.control_mode = singles.control_mode := by
  refine ⟨?_, fun e he hlabel hseq slot => ?_, fun req order out_cap cap hlen horder => ?_⟩
  · exact (targetsInWindow_run (servoMapValid_of_validate hv) run honly).2
  · have hjoints := kept_of_seq (run.of_mem he).1 hlabel hseq
    rw [hjoints]
    exact ⟨rfl, rfl⟩
  · obtain ⟨hjoints, hmode⟩ := setAll_eq_singles (F := F) api hlen out_cap cap horder
    exact ⟨fun slot => congrArg (JointTable.read · slot) hjoints, hmode⟩

/-- A joint far outside its window, a joint of a leg that does not exist, and all joints. -/
def targetSession : List MaintTargetCall :=
  [.setConfig (some defaultRobotConfig), .setLiveState Mainttargetstate.kMacMaintenance true,
    .handle Mainttargetmsg.kSetJointTarget [0, 0, 0xff, 0x7f] 6,
    .handle Mainttargetmsg.kSetJointTarget [7, 0, 0, 0] 6,
    .handle Mainttargetmsg.kSetAllJoints (List.replicate 36 8) 64]

theorem maintenance_targets_session : ∃ (h : List MaintTargetEvent) (api : MaintTargetApi),
    MaintTargetRun ℝ h api ∧ h.map (·.label) = targetSession.reverse ∧
    TargetsInWindow defaultRobotConfig api.target.joints ∧
    (∀ e ∈ h, e.label ≠ .clearTargets → e.post.target.seq = e.pre.target.seq →
      ∀ slot, (e.post.target.joints.read slot).tick = (e.pre.target.joints.read slot).tick) ∧
    ∀ cap slot, (api.call ℝ (.handle Mainttargetmsg.kSetAllJoints (List.replicate 36 5) 0)).target.joints.read slot =
      (execute (MaintTargetApi.call ℝ) api
        (allSlots.reverse.map (jointCall (List.replicate 36 5) cap))).target.joints.read slot := by
  have run : MaintTargetRun ℝ _ _ := run_execute (MaintTargetApi.call ℝ) targetSession .nil
  have hlabels : (executeHistory (MaintTargetApi.call ℝ) MaintTargetApi.new [] targetSession).map (·.label) =
      targetSession.reverse := rfl
  have honly : OnlyConfig defaultRobotConfig
      (executeHistory (MaintTargetApi.call ℝ) MaintTargetApi.new [] targetSession) := by
    intro e he c hc
    have hmem : e.label ∈ targetSession.reverse := hlabels ▸ List.mem_map_of_mem he
    rw [hc] at hmem
    simpa [targetSession] using hmem
  obtain ⟨hwindow, hkept, hbatch⟩ := maintenance_targets ℝ validate_defaultRobotConfig run honly
  refine ⟨_, _, run, hlabels, hwindow, fun e he hlabel hseq slot => (hkept e he hlabel hseq slot).1, fun cap slot => ?_⟩
  exact (hbatch _ _ 0 cap (by decide) allSlots.reverse_perm).1 slot

end HexapodVerified.Protocol
