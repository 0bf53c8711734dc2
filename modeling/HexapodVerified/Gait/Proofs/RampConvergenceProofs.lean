import HexapodVerified.Gait.Proofs.RampProofs
import HexapodVerified.Lib.Approach

/-!
# The ramp reaches the trajectory

A seeded slot approaches the trajectory by the slew limit, update by update. While the trajectory rests, the
distance shrinks by every limit, so the trajectory is reached and the slot handed over; from then on what is
emitted is the trajectory, whatever it does, until the slot is seeded again.
-/

namespace HexapodVerified.Gait

open HexapodVerified.Config HexapodVerified.Dxl FloatArith Approach Transition

variable {F : Type} [FloatArith F] {cfg : RobotConfig}

namespace GaitPipeline

def jointAngle (ik : IkResult F) (joint : UInt8) : F :=
  if joint = 0 then ik.coxa else if joint = 1 then ik.femur else ik.tibia

/-- Where an update wants a joint to go: the clamped tick of its angle. -/
def trajectoryTick (g : GaitPipeline F) (cfg : RobotConfig) (dt_ms : UInt32) (leg : Fin kNumLegs)
    (joint : UInt8) : UInt16 :=
  let (g, feet, _) := g.advanceFeet dt_ms
  (angleToTick cfg (UInt8.ofNat leg) joint (jointAngle (g.solveLeg leg (feet leg)).1 joint)).tick

def ticksFor (leg joint : UInt8) (goals : List PipelineJoint) : List UInt16 :=
  (goals.filter fun goal => goal.leg = leg ∧ goal.joint = joint).map (·.tick)

section Slot

variable {leg joint : UInt8}

theorem ticksFor_append (goals goals' : List PipelineJoint) :
    ticksFor leg joint (goals ++ goals') = ticksFor leg joint goals ++ ticksFor leg joint goals' := by
  unfold ticksFor
  rw [List.filter_append, List.map_append]

theorem emitAll_frame (limit : Int) (hjoint : joint.toNat < kJointsPerLeg) (l : List (UInt8 × UInt8 × F)) (r : Ramp)
    (hothers : ∀ t ∈ l, t.2.1.toNat < kJointsPerLeg ∧ taskSlot t ≠ slotOf leg joint) :
    ticksFor leg joint (emitAll cfg limit l r).2 = [] ∧
      (emitAll cfg limit l r).1.last_tick (slotOf leg joint) = r.last_tick (slotOf leg joint) ∧
      (emitAll cfg limit l r).1.ramping (slotOf leg joint) = r.ramping (slotOf leg joint) := by
  induction l generalizing r with
  | nil => exact ⟨rfl, rfl, rfl⟩
  | cons t l ih =>
    rcases t with ⟨leg', joint', angle⟩
    rcases hothers _ (List.mem_cons_self ..) with ⟨hjoint', hslot⟩
    have hlater := fun r => ih r fun t ht => hothers t (List.mem_cons_of_mem _ ht)
    unfold emitAll
    cases hs : servoFor cfg leg' joint' with
    | none =>
      have hnone : emitJoint cfg limit leg' joint' angle r = (r, none) := by
        unfold emitJoint
        rw [hs]
      rw [hnone]
      exact hlater r
    | some s =>
      rcases emitJoint_spec limit angle r hs with ⟨r', goal, hstep, hemits, hframe⟩
      rcases hemits with ⟨s', -, -, hleg, hgoal, -, -⟩
      rcases hlater r' with ⟨hticks, hlast, hramping⟩
      rw [hstep]
      refine ⟨?_, hlast.trans (hframe _ (Ne.symm hslot)).1, hramping.trans (hframe _ (Ne.symm hslot)).2⟩
      have hother : ¬ (goal.leg = leg ∧ goal.joint = joint) := by
        rintro ⟨rfl, rfl⟩
        rw [hleg, hgoal] at hslot
        exact hslot rfl
      show ticksFor leg joint ([goal] ++ (emitAll cfg limit l r').2) = []
      rw [ticksFor_append, hticks]
      simp [ticksFor, hother]

end Slot

section Update

variable (g : GaitPipeline F) (dt_ms : UInt32) (leg : Fin kNumLegs) {joint : UInt8}

structure SlotUpdate (limit : Int) (want : UInt16) (slot : Nat) (r r' : Ramp) (ticks : List UInt16) :
    Prop where
  emitted : ticks = [(rampTick limit (r.ramping slot) (r.last_tick slot) want).1]
  last : r'.last_tick slot = (rampTick limit (r.ramping slot) (r.last_tick slot) want).1
  ramping : r'.ramping slot = (rampTick limit (r.ramping slot) (r.last_tick slot) want).2

theorem exists_split (feet : Fin kNumLegs → FootTarget F) (hjoint : joint.toNat < kJointsPerLeg) :
    ∃ l₁ l₂, g.tasks feet (List.finRange kNumLegs) = l₁ ++
        (UInt8.ofNat leg, joint, jointAngle (g.solveLeg leg (feet leg)).1 joint) :: l₂ ∧
      ∀ t ∈ l₁ ++ l₂, t.2.1.toNat < kJointsPerLeg ∧ taskSlot t ≠ slotOf (UInt8.ofNat leg) joint := by
  have hmem : (UInt8.ofNat leg, joint, jointAngle (g.solveLeg leg (feet leg)).1 joint) ∈
      g.tasks feet (List.finRange kNumLegs) := by
    refine List.mem_flatMap.mpr ⟨leg, List.mem_finRange leg, ?_⟩
    refine List.mem_map.mpr ⟨(joint, jointAngle (g.solveLeg leg (feet leg)).1 joint), ?_, rfl⟩
    have hcases : joint = 0 ∨ joint = 1 ∨ joint = 2 := by
      have hlt : joint.toNat < 3 := hjoint
      simp only [← UInt8.toNat_inj]
      simp
      omega
    unfold legAngles
    rcases hcases with rfl | rfl | rfl
    · simp [jointAngle]
    · simp [jointAngle]
    · simp [jointAngle]
  rcases List.append_of_mem hmem with ⟨l₁, l₂, hsplit⟩
  refine ⟨l₁, l₂, hsplit, fun t ht => ⟨?_, ?_⟩⟩
  · have htask : t ∈ g.tasks feet (List.finRange kNumLegs) := by
      rw [hsplit]
      rcases List.mem_append.mp ht with hleft | hright
      · exact List.mem_append_left _ hleft
      · exact List.mem_append_right _ (List.mem_cons_of_mem _ hright)
    exact (task_bounds g feet htask).2
  · have hnodup := tasks_nodup g feet
    rw [hsplit, List.map_append, List.map_cons, List.nodup_middle, ← List.map_append] at hnodup
    intro heq
    refine (List.nodup_cons.mp hnodup).1 ?_
    rw [show taskSlot (UInt8.ofNat leg, joint, jointAngle (g.solveLeg leg (feet leg)).1 joint) =
      slotOf (UInt8.ofNat leg) joint from rfl, ← heq]
    exact List.mem_map_of_mem ht

theorem update_eq_emitAll (cfg : RobotConfig) :
    (g.update cfg dt_ms).1.toRamp = (emitAll cfg (slewLimit g.goal_slew_ticks_per_s dt_ms)
        ((g.advanceFeet dt_ms).1.tasks (g.advanceFeet dt_ms).2.1 (List.finRange kNumLegs)) g.toRamp).1 ∧
      (g.update cfg dt_ms).2.joints = (emitAll cfg (slewLimit g.goal_slew_ticks_per_s dt_ms)
        ((g.advanceFeet dt_ms).1.tasks (g.advanceFeet dt_ms).2.1 (List.finRange kNumLegs)) g.toRamp).2 := by
  rcases advanceFeet_frame g dt_ms with ⟨_, _, _, hframe⟩
  unfold update
  generalize g.advanceFeet dt_ms = advanced at hframe ⊢
  rcases advanced with ⟨g', feet, limited⟩
  dsimp only at hframe ⊢
  have hramp : g.toRamp = g'.toRamp := by rw [hframe]
  have hslew : g.goal_slew_ticks_per_s = g'.goal_slew_ticks_per_s := by rw [hframe]
  rw [hramp, hslew]
  exact ⟨(emitLegs_eq ..).1, emitLegs_joints ..⟩

/-- For a slot, an update is what it does for the joint: the joints before it and behind it leave the slot alone. -/
theorem update_joint (hjoint : joint.toNat < kJointsPerLeg) : ∃ (angle : F) (r : Ramp),
    g.trajectoryTick cfg dt_ms leg joint = (angleToTick cfg (UInt8.ofNat leg) joint angle).tick ∧
    (r.last_tick (slotOf (UInt8.ofNat leg) joint) = g.last_tick (slotOf (UInt8.ofNat leg) joint) ∧
      r.ramping (slotOf (UInt8.ofNat leg) joint) = g.ramping (slotOf (UInt8.ofNat leg) joint)) ∧
    ∀ r' goal, emitJoint cfg (slewLimit g.goal_slew_ticks_per_s dt_ms) (UInt8.ofNat leg) joint angle r =
        (r', goal) →
      ticksFor (UInt8.ofNat leg) joint (g.update cfg dt_ms).2.joints =
        ticksFor (UInt8.ofNat leg) joint goal.toList ∧
      (g.update cfg dt_ms).1.last_tick (slotOf (UInt8.ofNat leg) joint) =
        r'.last_tick (slotOf (UInt8.ofNat leg) joint) ∧
      (g.update cfg dt_ms).1.ramping (slotOf (UInt8.ofNat leg) joint) =
        r'.ramping (slotOf (UInt8.ofNat leg) joint) := by
  rcases update_eq_emitAll g dt_ms cfg with ⟨hramp, hjoints⟩
  rcases exists_split (g.advanceFeet dt_ms).1 leg (g.advanceFeet dt_ms).2.1 hjoint with
    ⟨l₁, l₂, hsplit, hothers⟩
  rcases emitAll_frame (slewLimit g.goal_slew_ticks_per_s dt_ms) hjoint l₁ g.toRamp
    (fun t ht => hothers t (List.mem_append_left _ ht)) with ⟨hticks₁, hlast₁, hramping₁⟩
  refine ⟨jointAngle ((g.advanceFeet dt_ms).1.solveLeg leg ((g.advanceFeet dt_ms).2.1 leg)).1 joint,
    _, rfl, ⟨hlast₁, hramping₁⟩, fun r' goal hstep => ?_⟩
  rw [hramp, hjoints, hsplit, emitAll_append]
  generalize emitAll cfg (slewLimit g.goal_slew_ticks_per_s dt_ms) l₁ g.toRamp = before at hticks₁ hstep ⊢
  unfold emitAll
  rw [hstep]
  rcases emitAll_frame (slewLimit g.goal_slew_ticks_per_s dt_ms) hjoint l₂ r'
    (fun t ht => hothers t (List.mem_append_right _ ht)) with ⟨hticks₂, hlast₂, hramping₂⟩
  refine ⟨?_, hlast₂, hramping₂⟩
  rw [ticksFor_append, ticksFor_append, hticks₁, hticks₂, List.nil_append, List.append_nil]

theorem update_slot {s : ServoConfig} (hjoint : joint.toNat < kJointsPerLeg)
    (hs : servoFor cfg (UInt8.ofNat leg) joint = some s) :
    SlotUpdate (slewLimit g.goal_slew_ticks_per_s dt_ms) (g.trajectoryTick cfg dt_ms leg joint)
      (slotOf (UInt8.ofNat leg) joint) g.toRamp (g.update cfg dt_ms).1.toRamp
      (ticksFor (UInt8.ofNat leg) joint (g.update cfg dt_ms).2.joints) := by
  rcases update_joint g dt_ms leg hjoint with ⟨angle, r, hwant, ⟨hlastBefore, hrampingBefore⟩, hupdate⟩
  rcases emitJoint_spec (slewLimit g.goal_slew_ticks_per_s dt_ms) angle r hs with ⟨r', goal, hstep, hemits, -⟩
  rcases hupdate r' (some goal) hstep with ⟨hticks, hlastAfter, hrampingAfter⟩
  rcases hemits with ⟨s', -, -, hleg, hgoal, hramped, hlast⟩
  have htask : taskSlot (UInt8.ofNat leg, joint, angle) = slotOf (UInt8.ofNat leg) joint := rfl
  rw [htask, hlastBefore, hrampingBefore] at hramped
  rw [htask] at hlast
  have htick := congrArg Prod.fst hramped
  have hnext := congrArg Prod.snd hramped
  rw [hwant]
  refine ⟨?_, hlastAfter.trans (hlast.trans htick), hrampingAfter.trans hnext⟩
  rw [hticks]
  unfold ticksFor
  rw [Option.toList_some, List.filter_cons_of_pos (by simpa using ⟨hleg, hgoal⟩)]
  exact congrArg (fun tick => [tick]) htick

theorem update_unmapped (hjoint : joint.toNat < kJointsPerLeg)
    (hs : servoFor cfg (UInt8.ofNat leg) joint = none) :
    ticksFor (UInt8.ofNat leg) joint (g.update cfg dt_ms).2.joints = [] ∧
      (g.update cfg dt_ms).1.last_tick (slotOf (UInt8.ofNat leg) joint) =
        g.last_tick (slotOf (UInt8.ofNat leg) joint) ∧
      (g.update cfg dt_ms).1.ramping (slotOf (UInt8.ofNat leg) joint) =
        g.ramping (slotOf (UInt8.ofNat leg) joint) := by
  rcases update_joint g dt_ms leg hjoint with ⟨angle, r, -, ⟨hlastBefore, hrampingBefore⟩, hupdate⟩
  have hnone : emitJoint cfg (slewLimit g.goal_slew_ticks_per_s dt_ms) (UInt8.ofNat leg) joint angle r =
      (r, none) := by
    unfold emitJoint
    rw [hs]
  rcases hupdate r none hnone with ⟨hticks, hlastAfter, hrampingAfter⟩
  exact ⟨hticks, hlastAfter.trans hlastBefore, hrampingAfter.trans hrampingBefore⟩

end Update

/-! ## Towards a trajectory that rests -/

section Resting

variable {limit : Int} {last seed want : UInt16} {ramping : Bool} {L k : Nat}

/-- A ramping joint approaches the trajectory, and goes on ramping as long as that is out of reach. -/
theorem rampTick_approach (hlimit : 0 ≤ limit) (last want : UInt16) :
    ((rampTick limit true last want).1.toNat : Int) = approach (last.toNat : Int) want.toNat limit ∧
      (rampTick limit true last want).2 = decide (limit < |(want.toNat : Int) - last.toNat|) := by
  constructor
  · rw [rampTick_toNat last want hlimit]
    unfold approach
    split_ifs <;> omega
  · unfold rampTick
    rw [if_pos rfl]
    split_ifs with hup hdown
    · exact (decide_eq_true (lt_abs.mpr (.inl (by omega)))).symm
    · exact (decide_eq_true (lt_abs.mpr (.inr (by omega)))).symm
    · refine (decide_eq_false ?_).symm
      rw [not_lt, abs_le]
      constructor <;> omega

/-- A slot `k` updates behind its seed: it has come closer by `L` each time and is not there yet, or it has
been handed over. -/
def Underway (seed want : UInt16) (L k : Nat) (last : UInt16) (ramping : Bool) : Prop :=
  (ramping = true ∧ |(want.toNat : Int) - last.toNat| + L * k ≤ |(want.toNat : Int) - seed.toNat| ∧
      (0 < k → last ≠ want)) ∨
    (0 < k ∧ ramping = false ∧ last = want)

theorem underway_seed (seed want : UInt16) (L : Nat) : Underway seed want L 0 seed true := by
  refine .inl ⟨rfl, ?_, fun h => absurd h (Nat.lt_irrefl 0)⟩
  rw [Nat.cast_zero, mul_zero, add_zero]

theorem Underway.update (h : Underway seed want L k last ramping) (hL : (L : Int) ≤ limit) :
    Underway seed want L (k + 1) (rampTick limit ramping last want).1
        (rampTick limit ramping last want).2 ∧
      ((rampTick limit ramping last want).1.toNat : Int) ∈ Set.uIcc (last.toNat : Int) want.toNat ∧
      |((rampTick limit ramping last want).1.toNat : Int) - last.toNat| ≤ limit := by
  have hlimit : 0 ≤ limit := by omega
  rcases h with ⟨rfl, hcloser, -⟩ | ⟨-, rfl, rfl⟩
  · rcases rampTick_approach hlimit last want with ⟨htick, hramping⟩
    refine ⟨?_, ?_, ?_⟩
    · rw [hramping]
      by_cases hfar : limit < |(want.toNat : Int) - last.toNat|
      · left
        have hleft := abs_sub_approach hlimit hfar.le
        rw [← htick] at hleft
        refine ⟨decide_eq_true hfar, ?_, fun _ hthere => ?_⟩
        · rw [hleft]
          push_cast
          linarith
        · rw [hthere, sub_self, abs_zero] at hleft
          omega
      · right
        have hthere := approach_of_abs_le (not_lt.mp hfar)
        rw [← htick] at hthere
        exact ⟨Nat.succ_pos k, decide_eq_false hfar, UInt16.toNat_inj.mp (by exact_mod_cast hthere)⟩
    · rw [htick]
      exact approach_mem_uIcc _ _ hlimit
    · rw [htick]
      exact abs_approach_sub_le _ _ hlimit
  · rw [rampTick_of_not_ramping]
    refine ⟨.inr ⟨Nat.succ_pos k, rfl, rfl⟩, Set.right_mem_uIcc, ?_⟩
    rw [sub_self, abs_zero]
    exact hlimit

/-- Behind enough updates, the slot is handed over. -/
theorem Underway.handed_over (h : Underway seed want L k last ramping) (hk : 0 < k)
    (henough : |(want.toNat : Int) - seed.toNat| ≤ L * k) : ramping = false ∧ last = want := by
  rcases h with ⟨-, hcloser, haway⟩ | ⟨-, hoff, hthere⟩
  · have hzero : |(want.toNat : Int) - last.toNat| ≤ 0 := by linarith
    have hsame := sub_eq_zero.mp (abs_nonpos_iff.mp hzero)
    exact absurd (UInt16.toNat_inj.mp (by exact_mod_cast hsame.symm)) (haway hk)
  · exact ⟨hoff, hthere⟩

end Resting

end GaitPipeline

inductive RampCall (F : Type) where
  | call (cfg : RobotConfig) (call : PipelineCall F)
  | reconfigure (cfg : RobotConfig)

def GaitPipeline.rampCall (g : GaitPipeline F) : RampCall F → GaitPipeline F × List PipelineJoint
  | .call cfg call => g.call cfg call
  | .reconfigure cfg => (g.reconfigure cfg, [])

abbrev RampEvent (F : Type) := Event (GaitPipeline F) (RampCall F × List PipelineJoint)

namespace RampEvent

variable (leg : Fin kNumLegs) (joint : UInt8)

/-- For an update that ramps the slot: where its trajectory is, and the slew limit. -/
def aim (e : RampEvent F) : Option (UInt16 × Int) :=
  match e.label.1 with
  | .call cfg (.update dt_ms) =>
    (servoFor cfg (UInt8.ofNat leg) joint).map fun _ =>
      (e.pre.trajectoryTick cfg dt_ms leg joint,
        GaitPipeline.slewLimit e.pre.goal_slew_ticks_per_s dt_ms)
  | _ => none

/-- For a `seedGoal` of the slot: the tick. -/
def seed (e : RampEvent F) : Option UInt16 :=
  match e.label.1 with
  | .call cfg (.seedGoal id present_tick) =>
    (servoForId cfg id).bind fun sc =>
      if slotOf sc.leg sc.joint = slotOf (UInt8.ofNat leg) joint then some present_tick else none
  | _ => none

def emitted (e : RampEvent F) : List UInt16 :=
  GaitPipeline.ticksFor (UInt8.ofNat leg) joint e.label.2

end RampEvent

section Runs

open GaitPipeline RampEvent

variable {leg : Fin kNumLegs} {joint : UInt8} {g₀ g : GaitPipeline F}

/-- From `g₀`, the calls recorded in `h` lead to `g`. -/
abbrev RampRun (g₀ : GaitPipeline F) : List (RampEvent F) → GaitPipeline F → Prop :=
  Run (WithOutput GaitPipeline.rampCall) g₀

/-- What a call does to a slot: it seeds it, ramps it, or leaves it alone. -/
structure SlotStep (leg : Fin kNumLegs) (joint : UInt8) (e : RampEvent F) : Prop where
  seeded : ∀ tick, seed leg joint e = some tick →
    e.post.last_tick (slotOf (UInt8.ofNat leg) joint) = tick ∧
      e.post.ramping (slotOf (UInt8.ofNat leg) joint) = true
  ramped : ∀ want limit, aim leg joint e = some (want, limit) →
    SlotUpdate limit want (slotOf (UInt8.ofNat leg) joint) e.pre.toRamp e.post.toRamp
      (emitted leg joint e)
  untouched : seed leg joint e = none → aim leg joint e = none →
    emitted leg joint e = [] ∧
      e.post.last_tick (slotOf (UInt8.ofNat leg) joint) =
        e.pre.last_tick (slotOf (UInt8.ofNat leg) joint) ∧
      e.post.ramping (slotOf (UInt8.ofNat leg) joint) =
        e.pre.ramping (slotOf (UInt8.ofNat leg) joint)

theorem slotOf_lt (leg : Fin kNumLegs) (hjoint : joint.toNat < kJointsPerLeg) :
    slotOf (UInt8.ofNat leg) joint < kNumServos := by
  have hleg : (UInt8.ofNat leg.val).toNat = leg.val :=
    UInt8.toNat_ofNat_of_lt' (lt_trans leg.isLt (by decide))
  have hlt := leg.isLt
  unfold slotOf
  rw [hleg]
  simp only [kNumLegs, kJointsPerLeg, kNumServos] at hlt hjoint ⊢
  omega

theorem SlotStep.of_quiet {e : RampEvent F} (hseed : seed leg joint e = none)
    (haim : aim leg joint e = none) (hgoals : e.label.2 = []) (hramp : e.post.toRamp = e.pre.toRamp) :
    SlotStep leg joint e where
  seeded tick h := by
    rw [hseed] at h
    cases h
  ramped want limit h := by
    rw [haim] at h
    cases h
  untouched _ _ := by
    refine ⟨?_, by rw [hramp], by rw [hramp]⟩
    unfold emitted
    rw [hgoals]
    rfl

theorem SlotStep.of_seedGoal (hjoint : joint.toNat < kJointsPerLeg) (g : GaitPipeline F)
    (cfg : RobotConfig) (id : UInt8) (present_tick : UInt16) :
    SlotStep leg joint
      ⟨g, (.call cfg (.seedGoal id present_tick), []), g.seedGoal cfg id present_tick⟩ := by
  have hslot := slotOf_lt leg hjoint
  cases hs : servoForId cfg id with
  | none =>
    refine .of_quiet ?_ rfl rfl ?_
    · unfold seed
      dsimp only
      rw [hs]
      rfl
    · show (g.seedGoal cfg id present_tick).toRamp = g.toRamp
      unfold seedGoal
      rw [hs]
  | some sc =>
    by_cases hsame : slotOf sc.leg sc.joint = slotOf (UInt8.ofNat leg) joint
    · have hseed : g.seedGoal cfg id present_tick = { g with
          last_tick := Function.update g.last_tick (slotOf (UInt8.ofNat leg) joint) present_tick
          ramping := Function.update g.ramping (slotOf (UInt8.ofNat leg) joint) true } := by
        unfold seedGoal
        rw [hs]
        dsimp only
        rw [hsame, if_neg (Nat.not_le.mpr hslot)]
      have hsome : seed leg joint (⟨g, (.call cfg (.seedGoal id present_tick), []),
          g.seedGoal cfg id present_tick⟩ : RampEvent F) = some present_tick := by
        unfold seed
        dsimp only
        rw [hs]
        exact if_pos hsame
      refine ⟨fun tick htick => ?_, fun want limit haim => (by cases haim), fun hnone => ?_⟩
      · rw [hsome] at htick
        cases htick
        rw [hseed]
        exact ⟨Function.update_self .., Function.update_self ..⟩
      · rw [hsome] at hnone
        cases hnone
    · have hnone : seed leg joint (⟨g, (.call cfg (.seedGoal id present_tick), []),
          g.seedGoal cfg id present_tick⟩ : RampEvent F) = none := by
        unfold seed
        dsimp only
        rw [hs]
        exact if_neg hsame
      refine ⟨fun tick htick => ?_, fun want limit haim => (by cases haim), fun _ _ => ⟨rfl, ?_⟩⟩
      · rw [hnone] at htick
        cases htick
      · dsimp only
        unfold seedGoal
        rw [hs]
        dsimp only
        split_ifs
        · exact ⟨rfl, rfl⟩
        · exact ⟨Function.update_of_ne (Ne.symm hsame) .., Function.update_of_ne (Ne.symm hsame) ..⟩

theorem SlotStep.of_update (hjoint : joint.toNat < kJointsPerLeg) (g : GaitPipeline F)
    (cfg : RobotConfig) (dt_ms : UInt32) :
    SlotStep leg joint
      ⟨g, (.call cfg (.update dt_ms), (g.update cfg dt_ms).2.joints), (g.update cfg dt_ms).1⟩ := by
  refine ⟨fun tick htick => (by cases htick), fun want limit haim => ?_, fun _ haim => ?_⟩
  · unfold aim at haim
    rcases Option.map_eq_some_iff.mp haim with ⟨s, hs, heq⟩
    cases heq
    exact update_slot g dt_ms leg hjoint hs
  · unfold aim at haim
    exact update_unmapped g dt_ms leg hjoint (Option.map_eq_none_iff.mp haim)

theorem slotStep (leg : Fin kNumLegs) (hjoint : joint.toNat < kJointsPerLeg) {e : RampEvent F}
    (hstep : WithOutput GaitPipeline.rampCall e.pre e.label e.post) : SlotStep leg joint e := by
  rcases e with ⟨pre, ⟨call, goals⟩, post⟩
  have hcall : pre.rampCall call = (post, goals) := hstep
  cases call with
  | reconfigure cfg =>
    cases hcall
    exact .of_quiet rfl rfl rfl rfl
  | call cfg call =>
    cases call with
    | setGait id =>
      cases hcall
      exact .of_quiet rfl rfl rfl rfl
    | setParams body_height_mm stride_len_mm step_height_mm duty_x255 speed_x255 =>
      cases hcall
      exact .of_quiet rfl rfl rfl rfl
    | setTwist vx vy wz =>
      cases hcall
      exact .of_quiet rfl rfl rfl rfl
    | setBodyPose pose =>
      cases hcall
      exact .of_quiet rfl rfl rfl rfl
    | setPreviewLeg preview =>
      cases hcall
      refine .of_quiet rfl rfl rfl ?_
      rcases setPreviewLeg_frame pre preview with ⟨_, _, hframe⟩
      exact congrArg (·.toRamp) hframe
    | resetPhase =>
      cases hcall
      exact .of_quiet rfl rfl rfl rfl
    | seedGoal id present_tick =>
      cases hcall
      exact .of_seedGoal hjoint pre cfg id present_tick
    | update dt_ms =>
      cases hcall
      exact .of_update hjoint pre cfg dt_ms

def ramps (leg : Fin kNumLegs) (joint : UInt8) (h : List (RampEvent F)) : Nat :=
  h.countP fun e => (aim leg joint e).isSome

/-- The tick that was emitted last for the slot, the seed before there is one. -/
def lastEmitted (leg : Fin kNumLegs) (joint : UInt8) (tick : UInt16) (h : List (RampEvent F)) : UInt16 :=
  (h.flatMap (emitted leg joint)).headD tick

variable {before : List (RampEvent F)} {s : RampEvent F} {tick want : UInt16} {L : Nat}

theorem underway_of_run (hjoint : joint.toNat < kJointsPerLeg) (hseed : seed leg joint s = some tick)
    (first : List (RampEvent F)) (run : RampRun g₀ (first ++ s :: before) g)
    (hquiet : ∀ e ∈ first, seed leg joint e = none)
    (hrests : ∀ e ∈ first, ∀ w limit, aim leg joint e = some (w, limit) → w = want ∧ (L : Int) ≤ limit) :
    g.last_tick (slotOf (UInt8.ofNat leg) joint) = lastEmitted leg joint tick first ∧
      Underway tick want L (ramps leg joint first) (g.last_tick (slotOf (UInt8.ofNat leg) joint))
        (g.ramping (slotOf (UInt8.ofNat leg) joint)) := by
  induction first generalizing g with
  | nil =>
    rcases run.of_cons with ⟨rfl, hstep, -⟩
    rcases (slotStep leg hjoint hstep).seeded tick hseed with ⟨hlast, hramping⟩
    rw [hlast, hramping]
    exact ⟨rfl, underway_seed tick want L⟩
  | cons e first ih =>
    rcases run.of_cons with ⟨rfl, hstep, run'⟩
    rcases ih run' (fun x hx => hquiet x (List.mem_cons_of_mem _ hx))
      (fun x hx => hrests x (List.mem_cons_of_mem _ hx)) with ⟨hlast, hunderway⟩
    have hslot := slotStep leg hjoint hstep
    unfold lastEmitted ramps at *
    rw [List.flatMap_cons, List.countP_cons]
    cases haim : aim leg joint e with
    | none =>
      rcases hslot.untouched (hquiet e (List.mem_cons_self ..)) haim with ⟨hnone, hsame, hsame'⟩
      rw [hnone, hsame, hsame', List.nil_append]
      exact ⟨hlast, hunderway⟩
    | some input =>
      rcases input with ⟨w, limit⟩
      rcases hrests e (List.mem_cons_self ..) w limit haim with ⟨rfl, hL⟩
      rcases hslot.ramped w limit haim with ⟨hticks, hlast', hramping'⟩
      rw [hticks, hlast', hramping']
      exact ⟨rfl, (hunderway.update hL).1⟩

theorem emitted_of_run (hjoint : joint.toNat < kJointsPerLeg) {h : List (RampEvent F)}
    (hoff : ∀ m, RampRun g₀ h m → m.ramping (slotOf (UInt8.ofNat leg) joint) = false)
    (rest : List (RampEvent F)) (run : RampRun g₀ (rest ++ h) g)
    (hquiet : ∀ e ∈ rest, seed leg joint e = none) :
    g.ramping (slotOf (UInt8.ofNat leg) joint) = false ∧
      ∀ e ∈ rest, ∀ w limit, aim leg joint e = some (w, limit) → emitted leg joint e = [w] := by
  induction rest generalizing g with
  | nil => exact ⟨hoff g run, fun e he => absurd he List.not_mem_nil⟩
  | cons e rest ih =>
    rcases run.of_cons with ⟨rfl, hstep, run'⟩
    rcases ih run' (fun x hx => hquiet x (List.mem_cons_of_mem _ hx)) with ⟨hramping, hothers⟩
    have hslot := slotStep leg hjoint hstep
    constructor
    · cases haim : aim leg joint e with
      | none =>
        rw [(hslot.untouched (hquiet e (List.mem_cons_self ..)) haim).2.2]
        exact hramping
      | some input =>
        rw [(hslot.ramped input.1 input.2 haim).ramping, hramping]
        rfl
    · intro x hx w limit haim
      rcases List.mem_cons.mp hx with rfl | hlater
      · rw [(hslot.ramped w limit haim).emitted, hramping]
        rfl
      · exact hothers x hlater w limit haim

/-- **The ramp converges.** A slot is seeded with a tick; then come some calls, among them updates under which
its trajectory rests at one tick and the slew limit is at least `L`; then any others, none of which seeds the
slot. As long as the trajectory rests, every update emits a tick between the one before and the trajectory,
farther by the limit at most, and the trajectory itself as soon as the updates cover the distance. If they did
so, at least one, every later update emits the trajectory, wherever that is. -/
theorem ramp_converges {rest first : List (RampEvent F)} (hjoint : joint.toNat < kJointsPerLeg)
    (run : RampRun g₀ (rest ++ (first ++ s :: before)) g) (hseed : seed leg joint s = some tick)
    (hquiet : ∀ e ∈ rest ++ first, seed leg joint e = none)
    (hrests : ∀ e ∈ first, ∀ w limit, aim leg joint e = some (w, limit) → w = want ∧ (L : Int) ≤ limit) :
    (∀ later e earlier, first = later ++ e :: earlier → ∀ w limit, aim leg joint e = some (w, limit) →
      ∃ t : UInt16, emitted leg joint e = [t] ∧
        (t.toNat : Int) ∈ Set.uIcc ((lastEmitted leg joint tick earlier).toNat : Int) want.toNat ∧
        |(t.toNat : Int) - (lastEmitted leg joint tick earlier).toNat| ≤ limit ∧
        (|(want.toNat : Int) - tick.toNat| ≤ L * (ramps leg joint earlier + 1) → t = want)) ∧
    (0 < ramps leg joint first → |(want.toNat : Int) - tick.toNat| ≤ L * ramps leg joint first →
      ∀ e ∈ rest, ∀ w limit, aim leg joint e = some (w, limit) → emitted leg joint e = [w]) := by
  constructor
  · rintro later e earlier rfl w limit haim
    rcases run.of_append with ⟨m, hfirst⟩
    rw [List.append_assoc] at hfirst
    rcases hfirst.of_append with ⟨m', hupto⟩
    rcases hupto.of_cons with ⟨-, hstep, hbefore⟩
    rcases underway_of_run hjoint hseed earlier hbefore
      (fun x hx => hquiet x (List.mem_append_right _ (List.mem_append_right _ (List.mem_cons_of_mem _ hx))))
      (fun x hx => hrests x (List.mem_append_right _ (List.mem_cons_of_mem _ hx))) with ⟨hlast, hunderway⟩
    rcases hrests e (List.mem_append_right _ (List.mem_cons_self ..)) w limit haim with ⟨rfl, hlimit⟩
    have hramped := (slotStep leg hjoint hstep).ramped w limit haim
    rcases hunderway.update hlimit with ⟨hnext, hbetween, hnear⟩
    rw [hlast] at hnext hbetween hnear
    rw [hramped.emitted, hlast]
    refine ⟨_, rfl, hbetween, hnear, fun henough => ?_⟩
    exact (hnext.handed_over (Nat.succ_pos _) (by push_cast; exact henough)).2
  · intro hsome henough
    refine (emitted_of_run hjoint ?_ rest run fun x hx => hquiet x (List.mem_append_left _ hx)).2
    intro m hm
    have hunderway := (underway_of_run hjoint hseed first hm
      (fun x hx => hquiet x (List.mem_append_right _ hx)) hrests).2
    exact (hunderway.handed_over hsome henough).1

/-- Without a body pose there is nothing to filter. -/
theorem filterPose_neutral {g : GaitPipeline ℝ} (hpose : g.pose = .neutral) (htarget : g.pose_target = .neutral)
    (happly : g.apply_pose = false) (dt_ms : UInt32) : g.filterPose dt_ms = g := by
  have hkept (k : ℝ) : (lit 0 : ℝ) + (lit 0 - lit 0) * k = lit 0 := by
    rw [sub_self, zero_mul, add_zero]
  have hzero : feq (lit 0 : ℝ) (lit 0) = true := decide_eq_true rfl
  unfold GaitPipeline.filterPose
  rw [hpose, htarget]
  unfold BodyPose.neutral at hpose htarget ⊢
  simp only [hkept, ite_self, hzero, Bool.and_self, Bool.not_true]
  cases g
  dsimp only at hpose htarget happly ⊢
  rw [hpose, htarget, happly]

/-- The pipeline over the default configuration at rest, with this ramp memory. -/
noncomputable def restPipeline (r : Ramp) : GaitPipeline ℝ := { GaitPipeline.new defaultRobotConfig with toRamp := r }

theorem advanceFeet_rest (r : Ramp) (dt_ms : UInt32) : ((restPipeline r).advanceFeet dt_ms).1 = restPipeline r := by
  have hkept (x k : ℝ) : x + (x - x) * k = x := by
    rw [sub_self, zero_mul, add_zero]
  have hengine : (restPipeline r).engine.update dt_ms =
      ((restPipeline r).engine, (restPipeline r).engine.heldFoot) := by
    have hgait : gaitOfStored defaultRobotConfig.gait.gait = .stand := rfl
    unfold restPipeline GaitPipeline.new GaitEngine.configure GaitEngine.new GaitEngine.update GaitEngine.advanceFilters
    rw [hgait]
    simp only [hkept, Bool.false_eq_true, if_false]
  unfold GaitPipeline.advanceFeet
  rw [filterPose_neutral rfl rfl rfl]
  dsimp only
  rw [hengine]
  rfl

theorem update_rest (r : Ramp) (dt_ms : UInt32) :
    ∃ r', ((restPipeline r).update defaultRobotConfig dt_ms).1 = restPipeline r' := by
  refine ⟨((restPipeline r).update defaultRobotConfig dt_ms).1.toRamp, ?_⟩
  show { ((restPipeline r).advanceFeet dt_ms).1 with
    toRamp := ((restPipeline r).update defaultRobotConfig dt_ms).1.toRamp } = _
  rw [advanceFeet_rest]
  rfl

/-- Where the first coxa rests. -/
noncomputable def restTick : UInt16 :=
  (GaitPipeline.new defaultRobotConfig : GaitPipeline ℝ).trajectoryTick defaultRobotConfig 20 0 0

noncomputable def restUpdate (r : Ramp) : RampEvent ℝ :=
  ⟨restPipeline r, (.call defaultRobotConfig (.update 20), ((restPipeline r).update defaultRobotConfig 20).2.joints),
    ((restPipeline r).update defaultRobotConfig 20).1⟩

theorem aim_restUpdate (r : Ramp) : aim (0 : Fin kNumLegs) 0 (restUpdate r) = some (restTick, 12) := by
  have hlimit : slewLimit (kMinGoalSlewTicksPerSec : ℝ) 20 = 12 := by
    have hstep : (kMinGoalSlewTicksPerSec : ℝ) * ofUInt32 20 / lit 1000 = ((12 : ℤ) : ℝ) := by
      show ((600 : ℚ) : ℝ) * ((20 : ℤ) : ℝ) / ((1000 : ℚ) : ℝ) = _
      norm_num
    unfold slewLimit
    dsimp only
    rw [hstep, trunc_intCast, if_neg (by rw [lt_exact]; norm_num)]
  have hservo : servoFor defaultRobotConfig (UInt8.ofNat (0 : Fin kNumLegs)) 0 = _ := servoFor_default
  have htick : (restPipeline r).trajectoryTick defaultRobotConfig 20 0 0 = restTick := rfl
  unfold aim restUpdate
  dsimp only
  rw [hservo, htick]
  exact congrArg (fun limit => some (restTick, limit)) hlimit

theorem seed_restUpdate (r : Ramp) : seed (0 : Fin kNumLegs) 0 (restUpdate r) = none := rfl

theorem run_restUpdate {g₀ : GaitPipeline ℝ} {h : List (RampEvent ℝ)} {r : Ramp}
    (run : RampRun g₀ h (restPipeline r)) : ∃ r', RampRun g₀ (restUpdate r :: h) (restPipeline r') := by
  rcases update_rest r 20 with ⟨r', hrest⟩
  refine ⟨r', ?_⟩
  rw [← hrest]
  exact run.step rfl

theorem restTick_fits : (restTick + 30).toNat = restTick.toNat + 30 := by
  have hwindow : InWindow _ restTick :=
    angleToTick_inWindow (servoMapValid_of_validate validate_defaultRobotConfig) servoFor_default _
  have hhigh : restTick.toNat ≤ 3072 := hwindow.2
  rw [UInt16.toNat_add]
  exact Nat.mod_eq_of_lt (show restTick.toNat + 30 < 65536 by omega)

/-- Seeded 30 ticks above the tick where it rests, the first coxa gets there in three updates, 12 ticks each at
most, and the fourth update emits that tick, too. -/
theorem ramp_converges_coxa : ∃ (r₁ r₃ r₄ : Ramp) (t : UInt16),
    emitted (0 : Fin kNumLegs) 0 (restUpdate r₁) = [t] ∧ |(t.toNat : Int) - (restTick.toNat + 30)| ≤ 12 ∧
    emitted (0 : Fin kNumLegs) 0 (restUpdate r₃) = [restTick] ∧
    emitted (0 : Fin kNumLegs) 0 (restUpdate r₄) = [restTick] := by
  rcases (restPipeline {}).seedGoal_frame defaultRobotConfig 1 (restTick + 30) with ⟨r₁, hseeded⟩
  have run₁ : RampRun (restPipeline {}) [⟨_, (.call defaultRobotConfig (.seedGoal 1 (restTick + 30)), []), _⟩]
    (restPipeline r₁) := .step .nil (congrArg (·, []) hseeded)
  rcases run_restUpdate run₁ with ⟨r₂, run₂⟩
  rcases run_restUpdate run₂ with ⟨r₃, run₃⟩
  rcases run_restUpdate run₃ with ⟨r₄, run₄⟩
  rcases run_restUpdate run₄ with ⟨r₅, run₅⟩
  have hquiet : ∀ e ∈ [restUpdate r₄] ++ [restUpdate r₃, restUpdate r₂, restUpdate r₁],
      seed (0 : Fin kNumLegs) 0 e = none := by
    simp [seed_restUpdate]
  have hrests : ∀ e ∈ [restUpdate r₃, restUpdate r₂, restUpdate r₁], ∀ w limit,
      aim (0 : Fin kNumLegs) 0 e = some (w, limit) → w = restTick ∧ ((12 : Nat) : Int) ≤ limit := by
    simp [aim_restUpdate]
  have hseed : seed (0 : Fin kNumLegs) 0 ⟨restPipeline {}, (.call defaultRobotConfig
    (.seedGoal 1 (restTick + 30)), []), restPipeline r₁⟩ = some (restTick + 30) := rfl
  have hramps (later : List Ramp) : ramps (0 : Fin kNumLegs) 0 (later.map restUpdate) = later.length := by
    unfold ramps
    rw [List.countP_map]
    exact List.countP_eq_length.mpr fun r _ => congrArg Option.isSome (aim_restUpdate r)
  have hdistance : |(restTick.toNat : Int) - (restTick + 30).toNat| = 30 := by
    rw [restTick_fits, abs_eq (by norm_num)]
    omega
  rcases ramp_converges (by decide) run₅ hseed hquiet hrests with ⟨hway, hthere⟩
  rcases hway [_, _] (restUpdate r₁) [] rfl _ _ (aim_restUpdate r₁) with ⟨t, ht, -, hnear, -⟩
  rcases hway [] (restUpdate r₃) [_, _] rfl _ _ (aim_restUpdate r₃) with ⟨t', ht', -, -, harrived⟩
  refine ⟨r₁, r₃, r₄, t, ht, ?_, ?_, hthere ?_ ?_ _ (List.mem_singleton_self _) _ _ (aim_restUpdate r₄)⟩
  · rwa [show lastEmitted (F := ℝ) (0 : Fin kNumLegs) 0 (restTick + 30) [] = restTick + 30 from rfl,
      restTick_fits] at hnear
  · rw [ht', harrived]
    rw [hdistance]
    exact show (30 : Int) ≤ 12 * ((ramps 0 0 ([r₂, r₁].map restUpdate) : Nat) + 1) by rw [hramps]; norm_num
  · exact show 0 < ramps 0 0 ([r₃, r₂, r₁].map restUpdate) by rw [hramps]; norm_num
  · rw [hdistance]
    exact show (30 : Int) ≤ 12 * (ramps 0 0 ([r₃, r₂, r₁].map restUpdate) : Nat) by rw [hramps]; norm_num

end Runs

end HexapodVerified.Gait
