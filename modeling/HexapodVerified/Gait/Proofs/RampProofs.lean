import HexapodVerified.Dxl.Proofs.ServoMapProofs
import HexapodVerified.Gait.GaitPipeline

/-!
# Goals and travel windows

The leg and joint loops of `GaitPipeline::update` visit every slot once. `emitAll` is the two loops as
one loop over slots; its specification says what the ramp does to each slot and which goal leaves
it. What holds of a single ramped joint then holds of a whole update.
-/

namespace HexapodVerified.Gait

open HexapodVerified.Config HexapodVerified.Dxl FloatArith

variable {F : Type} [FloatArith F] {cfg : RobotConfig}

theorem slotOf_inj {leg joint leg' joint' : UInt8} (hj : joint.toNat < kJointsPerLeg)
    (hj' : joint'.toNat < kJointsPerLeg) (h : slotOf leg joint = slotOf leg' joint') :
    leg = leg' ∧ joint = joint' := by
  simp only [slotOf, kJointsPerLeg] at h hj hj'
  rw [← UInt8.toNat_inj, ← UInt8.toNat_inj]
  omega

namespace GaitPipeline

section Joint

variable {limit : Int} {ramping : Bool} {last_tick want : UInt16}

theorem slewLimit_nonneg (slew : F) (dt_ms : UInt32) : 0 ≤ slewLimit slew dt_ms := by
  simp only [slewLimit]
  split_ifs with h
  · exact Int.one_nonneg
  · exact FloatArith.trunc_nonneg _ (eq_false_of_ne_true h)

theorem rampTick_of_not_ramping : rampTick limit false last_tick want = (want, false) := rfl

theorem rampTick_toNat (last_tick want : UInt16) (hlimit : 0 ≤ limit) :
    ((rampTick limit true last_tick want).1.toNat : Int) =
      if want.toNat > last_tick.toNat + limit then (last_tick.toNat + limit : Int)
      else if want.toNat < last_tick.toNat - limit then (last_tick.toNat - limit : Int)
      else want.toNat := by
  have hw := want.toNat_lt
  have hl := last_tick.toNat_lt
  simp only [rampTick, if_true]
  split_ifs with h1 h2
  · exact toNat_ofInt (by omega) (by omega)
  · exact toNat_ofInt (by omega) (by omega)
  · rfl

theorem rampTick_near (hlimit : 0 ≤ limit) :
    |((rampTick limit true last_tick want).1.toNat : Int) - last_tick.toNat| ≤ limit := by
  rw [rampTick_toNat last_tick want hlimit, abs_le]
  split_ifs <;> omega

/-- The remembered tick is more than one slew step outside the window. -/
def FarOutside (s : ServoConfig) (limit : Int) (last_tick : UInt16) : Prop :=
  (last_tick.toNat : Int) > s.max_tick.toNat + limit ∨
    (last_tick.toNat : Int) + limit < s.min_tick.toNat

/-- A joint on its way into the window is sent a tick in the window unless it ramps from a tick more
than one step outside. -/
theorem rampTick_inWindow_iff {s : ServoConfig} (hlimit : 0 ≤ limit) (hwant : InWindow s want) :
    InWindow s (rampTick limit ramping last_tick want).1 ↔
      ¬ (ramping = true ∧ FarOutside s limit last_tick) := by
  obtain ⟨hlo, hhi⟩ := hwant
  cases ramping with
  | false =>
    rw [rampTick_of_not_ramping]
    exact iff_of_true ⟨hlo, hhi⟩ (fun h => nomatch h.1)
  | true =>
    have hnat := rampTick_toNat last_tick want hlimit
    simp only [true_and, InWindow, FarOutside]
    generalize (rampTick limit true last_tick want).1.toNat = tick at hnat ⊢
    split_ifs at hnat <;> omega

end Joint

omit [FloatArith F] in
theorem seedGoal_slot (hv : ServoMapValid cfg) {s : ServoConfig} (hs : s ∈ cfg.servos.toList)
    (g : GaitPipeline F) (id : UInt8) (tick : UInt16) :
    (g.seedGoal cfg id tick).last_tick (slotOf s.leg s.joint) =
        (if s.id = id then tick else g.last_tick (slotOf s.leg s.joint)) ∧
      (g.seedGoal cfg id tick).ramping (slotOf s.leg s.joint) =
        (if s.id = id then true else g.ramping (slotOf s.leg s.joint)) := by
  unfold seedGoal
  cases hsc : servoForId cfg id with
  | none =>
    have hne : s.id ≠ id := by
      rintro rfl
      rw [servoForId_of_mem hv hs] at hsc
      exact absurd hsc (Option.some_ne_none s)
    rw [if_neg hne, if_neg hne]
    exact ⟨rfl, rfl⟩
  | some sc =>
    obtain ⟨hmem, rfl⟩ := mem_of_servoForId hsc
    obtain ⟨-, hjoint, -⟩ := validateServo_bounds (hv.sane s hs)
    obtain ⟨hleg', hjoint', -⟩ := validateServo_bounds (hv.sane sc hmem)
    have hslot : ¬ slotOf sc.leg sc.joint ≥ kNumServos := by
      simp only [slotOf, kNumLegs, kJointsPerLeg, kNumServos] at hleg' hjoint' ⊢
      omega
    dsimp only
    rw [if_neg hslot]
    by_cases hid : s.id = sc.id
    · obtain rfl : s = sc := hv.id_inj s hs sc hmem hid
      rw [if_pos rfl, if_pos rfl]
      exact ⟨Function.update_self .., Function.update_self ..⟩
    · have hne : slotOf s.leg s.joint ≠ slotOf sc.leg sc.joint := by
        intro heq
        obtain ⟨hl, hj⟩ := slotOf_inj hjoint hjoint' heq
        exact hid (congrArg ServoConfig.id (hv.slot_inj s hs sc hmem hl hj))
      rw [if_neg hid, if_neg hid]
      exact ⟨Function.update_of_ne hne .., Function.update_of_ne hne ..⟩

/-- The leg and joint loops as one loop. A task is a slot and the angle asked of it. -/
def emitAll (cfg : RobotConfig) (limit : Int) :
    List (UInt8 × UInt8 × F) → Ramp → Ramp × List PipelineJoint
  | [], r => (r, [])
  | (leg, joint, angle) :: rest, r =>
    let (r, goal) := emitJoint cfg limit leg joint angle r
    let (r, goals) := emitAll cfg limit rest r
    (r, goal.toList ++ goals)

def legTasks (leg : UInt8) (l : List (UInt8 × F)) : List (UInt8 × UInt8 × F) :=
  l.map fun ja => (leg, ja.1, ja.2)

def tasks (g : GaitPipeline F) (feet : Fin kNumLegs → FootTarget F) (legs : List (Fin kNumLegs)) :
    List (UInt8 × UInt8 × F) :=
  legs.flatMap fun (leg : Fin kNumLegs) => legTasks (UInt8.ofNat leg.val) (legAngles (g.solveLeg leg (feet leg)).1)

theorem emitAll_append {limit : Int} (l₁ l₂ : List (UInt8 × UInt8 × F)) (r : Ramp) :
    emitAll cfg limit (l₁ ++ l₂) r =
      ((emitAll cfg limit l₂ (emitAll cfg limit l₁ r).1).1,
        (emitAll cfg limit l₁ r).2 ++ (emitAll cfg limit l₂ (emitAll cfg limit l₁ r).1).2) := by
  induction l₁ generalizing r with
  | nil => simp [emitAll]
  | cons t l₁ ih =>
    simp only [List.cons_append, emitAll, ih, List.append_assoc]

theorem emitJoints_eq {limit : Int} (leg : UInt8) (l : List (UInt8 × F)) (r : Ramp)
    (joints : List PipelineJoint) :
    emitJoints cfg limit leg l r joints =
      ((emitAll cfg limit (legTasks leg l) r).1,
        joints ++ (emitAll cfg limit (legTasks leg l) r).2) := by
  induction l generalizing r joints with
  | nil => simp [emitJoints, emitAll, legTasks]
  | cons ja l ih =>
    simp only [emitJoints, ih, legTasks, List.map_cons, emitAll, List.append_assoc]

theorem emitLegs_eq (cfg : RobotConfig) (g : GaitPipeline F) (limit : Int)
    (feet : Fin kNumLegs → FootTarget F)
    (legs : List (Fin kNumLegs)) (r : Ramp) (out : PipelineOutput) :
    (g.emitLegs cfg limit feet legs r out).1 = (emitAll cfg limit (g.tasks feet legs) r).1 ∧
      (g.emitLegs cfg limit feet legs r out).2.joints =
        out.joints ++ (emitAll cfg limit (g.tasks feet legs) r).2 := by
  induction legs generalizing r out with
  | nil => simp [emitLegs, tasks, emitAll]
  | cons leg legs ih =>
    have htasks : g.tasks feet (leg :: legs) =
        legTasks (UInt8.ofNat leg.val) (legAngles (g.solveLeg leg (feet leg)).1) ++
          g.tasks feet legs := by simp [tasks]
    rw [htasks, emitAll_append]
    simp only [emitLegs, emitJoints_eq, List.nil_append]
    refine ⟨(ih _ _).1, ?_⟩
    rw [(ih _ _).2, List.append_assoc]

theorem emitLegs_joints (cfg : RobotConfig) (g : GaitPipeline F) (limit : Int)
    (feet : Fin kNumLegs → FootTarget F) (legs : List (Fin kNumLegs)) (r : Ramp) (limited : Bool) :
    (g.emitLegs cfg limit feet legs r { any_reach_limited := limited }).2.joints =
      (emitAll cfg limit (g.tasks feet legs) r).2 := by
  rw [(emitLegs_eq cfg g limit feet legs r _).2, List.nil_append]

def taskSlot (t : UInt8 × UInt8 × F) : Nat := slotOf t.1 t.2.1

/-- The goal that the task of a slot leads to, and what the ramp memory of the slot becomes. -/
def Emits (cfg : RobotConfig) (limit : Int) (r r' : Ramp) (t : UInt8 × UInt8 × F)
    (goal : PipelineJoint) : Prop :=
  ∃ s, servoFor cfg t.1 t.2.1 = some s ∧ goal.id = s.id ∧ goal.leg = t.1 ∧ goal.joint = t.2.1 ∧
    (goal.tick, r'.ramping (taskSlot t)) = rampTick limit (r.ramping (taskSlot t))
      (r.last_tick (taskSlot t)) (angleToTick cfg t.1 t.2.1 t.2.2).tick ∧
    r'.last_tick (taskSlot t) = goal.tick

theorem emitJoint_spec (limit : Int) {leg joint : UInt8} {s : ServoConfig} (angle : F) (r : Ramp)
    (hs : servoFor cfg leg joint = some s) :
    ∃ r' goal, emitJoint cfg limit leg joint angle r = (r', some goal) ∧
      Emits cfg limit r r' (leg, joint, angle) goal ∧
      ∀ slot, slot ≠ slotOf leg joint →
        r'.last_tick slot = r.last_tick slot ∧ r'.ramping slot = r.ramping slot := by
  obtain ⟨tick, ramping, hramp⟩ : ∃ tick ramping, rampTick limit (r.ramping (slotOf leg joint))
      (r.last_tick (slotOf leg joint)) (angleToTick cfg leg joint angle).tick = (tick, ramping) :=
    ⟨_, _, rfl⟩
  simp only [emitJoint, hs, hramp]
  refine ⟨_, _, rfl, ⟨s, hs, rfl, rfl, rfl, ?_, ?_⟩, ?_⟩
  · simp only [taskSlot, Function.update_self, hramp]
  · simp only [taskSlot, Function.update_self]
  · intro slot hslot
    exact ⟨Function.update_of_ne hslot .., Function.update_of_ne hslot ..⟩

/-- The slot loop over tasks of different, mapped slots: one goal a task, each ramped from the memory
of its own slot before the loop, and nothing else of the memory changes. -/
theorem emitAll_spec (limit : Int) (l : List (UInt8 × UInt8 × F)) (r : Ramp)
    (hmapped : ∀ t ∈ l, ∃ s, servoFor cfg t.1 t.2.1 = some s) (hnodup : (l.map taskSlot).Nodup) :
    (∀ slot, slot ∉ l.map taskSlot → (emitAll cfg limit l r).1.last_tick slot = r.last_tick slot ∧
      (emitAll cfg limit l r).1.ramping slot = r.ramping slot) ∧
    (∀ goal ∈ (emitAll cfg limit l r).2, ∃ t ∈ l,
      Emits cfg limit r (emitAll cfg limit l r).1 t goal) ∧
    (∀ t ∈ l, ∃ goal ∈ (emitAll cfg limit l r).2,
      Emits cfg limit r (emitAll cfg limit l r).1 t goal) := by
  induction l generalizing r with
  | nil => simp [emitAll]
  | cons t l ih =>
    obtain ⟨leg, joint, angle⟩ := t
    obtain ⟨s, hs⟩ := hmapped _ (List.mem_cons_self ..)
    obtain ⟨r₁, goal₁, hstep, hemit, hother⟩ := emitJoint_spec limit angle r hs
    rw [List.map_cons, List.nodup_cons] at hnodup
    obtain ⟨hfresh, hnodup'⟩ := hnodup
    have hih := ih r₁ (fun t ht => hmapped t (List.mem_cons_of_mem _ ht)) hnodup'
    have hall : emitAll cfg limit ((leg, joint, angle) :: l) r =
        ((emitAll cfg limit l r₁).1, goal₁ :: (emitAll cfg limit l r₁).2) := by
      simp [emitAll, hstep]
    rw [hall]
    obtain ⟨hframe, hgoals, htotal⟩ := hih
    -- the first slot is not visited again
    have hkeep := hframe _ hfresh
    have hfirst : Emits cfg limit r (emitAll cfg limit l r₁).1 (leg, joint, angle) goal₁ := by
      obtain ⟨s', h1, h2, h3, h4, h5, h6⟩ := hemit
      exact ⟨s', h1, h2, h3, h4, by rw [hkeep.2]; exact h5, by rw [hkeep.1]; exact h6⟩
    -- the other slots were not touched before
    have hlater {t : UInt8 × UInt8 × F} (ht : t ∈ l) {goal : PipelineJoint}
        (he : Emits cfg limit r₁ (emitAll cfg limit l r₁).1 t goal) :
        Emits cfg limit r (emitAll cfg limit l r₁).1 t goal := by
      have hne : taskSlot t ≠ slotOf leg joint := by
        intro heq
        have hmem : taskSlot t ∈ l.map taskSlot := List.mem_map_of_mem ht
        rw [heq] at hmem
        exact hfresh hmem
      obtain ⟨s', h1, h2, h3, h4, h5, h6⟩ := he
      rw [(hother _ hne).1, (hother _ hne).2] at h5
      exact ⟨s', h1, h2, h3, h4, h5, h6⟩
    refine ⟨?_, ?_, ?_⟩
    · intro slot hslot
      rw [List.map_cons, List.mem_cons, not_or] at hslot
      rw [(hframe slot hslot.2).1, (hframe slot hslot.2).2]
      exact hother slot hslot.1
    · intro goal hgoal
      rcases List.mem_cons.mp hgoal with rfl | hgoal
      · exact ⟨_, List.mem_cons_self .., hfirst⟩
      · obtain ⟨t, ht, he⟩ := hgoals goal hgoal
        exact ⟨t, List.mem_cons_of_mem _ ht, hlater ht he⟩
    · intro t ht
      rcases List.mem_cons.mp ht with rfl | ht
      · exact ⟨goal₁, List.mem_cons_self .., hfirst⟩
      · obtain ⟨goal, hgoal, he⟩ := htotal t ht
        exact ⟨goal, List.mem_cons_of_mem _ hgoal, hlater ht he⟩

/-- The slots an update visits: every slot of the robot, once. -/
theorem tasks_slots (g : GaitPipeline F) (feet : Fin kNumLegs → FootTarget F) :
    (g.tasks feet (List.finRange kNumLegs)).map (fun t => (t.1, t.2.1)) =
      [(0, 0), (0, 1), (0, 2), (1, 0), (1, 1), (1, 2), (2, 0), (2, 1), (2, 2), (3, 0), (3, 1),
        (3, 2), (4, 0), (4, 1), (4, 2), (5, 0), (5, 1), (5, 2)] := rfl

theorem tasks_nodup (g : GaitPipeline F) (feet : Fin kNumLegs → FootTarget F) :
    ((g.tasks feet (List.finRange kNumLegs)).map taskSlot).Nodup := by
  have hmap : (g.tasks feet (List.finRange kNumLegs)).map taskSlot =
      ((g.tasks feet (List.finRange kNumLegs)).map (fun t => (t.1, t.2.1))).map
        (fun s => slotOf s.1 s.2) := by
    rw [List.map_map]
    rfl
  rw [hmap, tasks_slots]
  decide

theorem exists_task (g : GaitPipeline F) (feet : Fin kNumLegs → FootTarget F) {leg joint : UInt8}
    (hleg : leg.toNat < kNumLegs) (hjoint : joint.toNat < kJointsPerLeg) :
    ∃ t ∈ g.tasks feet (List.finRange kNumLegs), t.1 = leg ∧ t.2.1 = joint := by
  have hmem : (leg, joint) ∈ (g.tasks feet (List.finRange kNumLegs)).map
      (fun t => (t.1, t.2.1)) := by
    rw [tasks_slots]
    have hleg' : leg.toNat < 6 := hleg
    have hjoint' : joint.toNat < 3 := hjoint
    have hl : leg = 0 ∨ leg = 1 ∨ leg = 2 ∨ leg = 3 ∨ leg = 4 ∨ leg = 5 := by
      simp only [← UInt8.toNat_inj]
      simp
      omega
    have hj : joint = 0 ∨ joint = 1 ∨ joint = 2 := by
      simp only [← UInt8.toNat_inj]
      simp
      omega
    rcases hl with rfl | rfl | rfl | rfl | rfl | rfl <;> rcases hj with rfl | rfl | rfl <;> decide
  obtain ⟨t, ht, heq⟩ := List.mem_map.mp hmem
  rw [Prod.mk.injEq] at heq
  exact ⟨t, ht, heq⟩

theorem task_bounds (g : GaitPipeline F) (feet : Fin kNumLegs → FootTarget F)
    {t : UInt8 × UInt8 × F} (ht : t ∈ g.tasks feet (List.finRange kNumLegs)) :
    t.1.toNat < kNumLegs ∧ t.2.1.toNat < kJointsPerLeg := by
  have hmem : (t.1, t.2.1) ∈ (g.tasks feet (List.finRange kNumLegs)).map
      (fun t => (t.1, t.2.1)) := List.mem_map_of_mem (f := fun t => (t.1, t.2.1)) ht
  rw [tasks_slots] at hmem
  have hall : ([(0, 0), (0, 1), (0, 2), (1, 0), (1, 1), (1, 2), (2, 0), (2, 1), (2, 2), (3, 0),
      (3, 1), (3, 2), (4, 0), (4, 1), (4, 2), (5, 0), (5, 1), (5, 2)] : List (UInt8 × UInt8)).all
      (fun s => decide (s.1.toNat < kNumLegs ∧ s.2.toNat < kJointsPerLeg)) = true := by decide
  exact of_decide_eq_true (List.all_eq_true.mp hall _ hmem)

/-- What the ramp makes of one goal: the servo of its slot, the tick its joint should go to, and what
happens to the memory of the slot. -/
def Ramped (cfg : RobotConfig) (limit : Int) (r r' : Ramp) (goal : PipelineJoint) : Prop :=
  ∃ s want, servoFor cfg goal.leg goal.joint = some s ∧ goal.id = s.id ∧ InWindow s want ∧
    (goal.tick, r'.ramping (slotOf goal.leg goal.joint)) =
      rampTick limit (r.ramping (slotOf goal.leg goal.joint))
        (r.last_tick (slotOf goal.leg goal.joint)) want ∧
    r'.last_tick (slotOf goal.leg goal.joint) = goal.tick

theorem ramped_of_emits (hv : ServoMapValid cfg) {limit : Int} {r r' : Ramp}
    {t : UInt8 × UInt8 × F} {goal : PipelineJoint} (he : Emits cfg limit r r' t goal) :
    Ramped cfg limit r r' goal := by
  obtain ⟨s, hs, hid, hleg, hjoint, htick, hlast⟩ := he
  refine ⟨s, (angleToTick cfg t.1 t.2.1 t.2.2).tick, ?_, hid, ?_, ?_, ?_⟩
  · rw [hleg, hjoint]
    exact hs
  · exact angleToTick_inWindow hv hs _
  · rw [hleg, hjoint]
    exact htick
  · rw [hleg, hjoint]
    exact hlast

/-- The leg loop: every slot of the robot gets one goal, ramped from the memory of the slot. -/
theorem emitLegs_spec (hv : ServoMapValid cfg) (g : GaitPipeline F) (limit : Int)
    (feet : Fin kNumLegs → FootTarget F) (r : Ramp) (limited : Bool) {r' : Ramp}
    {out : PipelineOutput} (hout : g.emitLegs cfg limit feet (List.finRange kNumLegs) r
      { any_reach_limited := limited } = (r', out)) :
    (∀ goal ∈ out.joints, Ramped cfg limit r r' goal) ∧
    (∀ leg joint s, servoFor cfg leg joint = some s →
      ∃ goal ∈ out.joints, goal.leg = leg ∧ goal.joint = joint) := by
  have hr : r' = (emitAll cfg limit (g.tasks feet (List.finRange kNumLegs)) r).1 := by
    rw [← (emitLegs_eq cfg g limit feet _ r { any_reach_limited := limited }).1, hout]
  have hjoints : out.joints = (emitAll cfg limit (g.tasks feet (List.finRange kNumLegs)) r).2 := by
    rw [← emitLegs_joints cfg g limit feet _ r limited, hout]
  have hmapped : ∀ t ∈ g.tasks feet (List.finRange kNumLegs),
      ∃ s, servoFor cfg t.1 t.2.1 = some s := by
    intro t ht
    obtain ⟨hleg, hjoint⟩ := task_bounds g feet ht
    exact servoFor_covered hv hleg hjoint
  obtain ⟨-, hgoals, htotal⟩ := emitAll_spec limit _ r hmapped (tasks_nodup g feet)
  rw [hr, hjoints]
  constructor
  · intro goal hgoal
    obtain ⟨t, -, he⟩ := hgoals goal hgoal
    exact ramped_of_emits hv he
  · intro leg joint s hs
    obtain ⟨hmem, hl, hj⟩ := mem_of_servoFor hs
    obtain ⟨hleg, hjoint, -⟩ := validateServo_bounds (hv.sane s hmem)
    rw [hl] at hleg
    rw [hj] at hjoint
    obtain ⟨t, ht, htl, htj⟩ := exists_task g feet hleg hjoint
    obtain ⟨goal, hgoal, -, -, -, hgl, hgj, -⟩ := htotal t ht
    exact ⟨goal, hgoal, by rw [hgl, htl], by rw [hgj, htj]⟩

theorem update_slew (g : GaitPipeline F) (dt_ms : UInt32) :
    (g.update cfg dt_ms).1.goal_slew_ticks_per_s = g.goal_slew_ticks_per_s := by
  obtain ⟨_, _, _, _, hframe⟩ := update_frame g cfg dt_ms
  rw [hframe]

/-- **One update.** Every slot of the robot gets one goal, ramped from the memory of the slot. -/
theorem update_spec (hv : ServoMapValid cfg) (g : GaitPipeline F) (dt_ms : UInt32) :
    (∀ goal ∈ (g.update cfg dt_ms).2.joints, Ramped cfg (slewLimit g.goal_slew_ticks_per_s dt_ms)
      g.toRamp (g.update cfg dt_ms).1.toRamp goal) ∧
    (∀ leg joint s, servoFor cfg leg joint = some s →
      ∃ goal ∈ (g.update cfg dt_ms).2.joints, goal.leg = leg ∧ goal.joint = joint) := by
  obtain ⟨_, _, _, hframe⟩ := advanceFeet_frame g dt_ms
  unfold update
  generalize g.advanceFeet dt_ms = gfl at hframe ⊢
  obtain ⟨g', feet, limited⟩ := gfl
  dsimp only at hframe ⊢
  generalize hout : g'.emitLegs cfg (slewLimit g'.goal_slew_ticks_per_s dt_ms) feet
    (List.finRange kNumLegs) g'.toRamp { any_reach_limited := limited } = ro
  have hspec := emitLegs_spec hv g' _ feet _ limited hout
  rwa [hframe] at hspec

end GaitPipeline

/-!
## Travel windows

The clamp sits in `angleToTick`, before the ramp. A ramped joint walks from its remembered tick, so an
update stays in the travel windows exactly when no joint ramps from a tick more than one slew step
outside its window; and it stays there for good when the pipeline is only ever seeded inside.
-/

def GoalsInWindow (cfg : RobotConfig) (goals : List PipelineJoint) : Prop :=
  ∀ goal ∈ goals, ∃ s ∈ cfg.servos.toList, s.id = goal.id ∧ InWindow s goal.tick

/-- Some joint is ramping from a tick more than one slew step outside its window. -/
def RampsFromFarOutside (cfg : RobotConfig) (g : GaitPipeline F) (dt_ms : UInt32) : Prop :=
  ∃ leg joint s, servoFor cfg leg joint = some s ∧ g.ramping (slotOf leg joint) = true ∧
    GaitPipeline.FarOutside s (GaitPipeline.slewLimit g.goal_slew_ticks_per_s dt_ms)
      (g.last_tick (slotOf leg joint))

namespace GaitPipeline

theorem update_inWindow_iff (hv : ServoMapValid cfg) (g : GaitPipeline F) (dt_ms : UInt32) :
    GoalsInWindow cfg (g.update cfg dt_ms).2.joints ↔ ¬ RampsFromFarOutside cfg g dt_ms := by
  obtain ⟨hgoals, htotal⟩ := update_spec hv g dt_ms
  have hlimit := slewLimit_nonneg g.goal_slew_ticks_per_s dt_ms
  constructor
  · rintro hin ⟨leg, joint, s, hs, hramp, hfar⟩
    obtain ⟨goal, hgoal, rfl, rfl⟩ := htotal leg joint s hs
    obtain ⟨s', want, hs', hid, hwant, htick, -⟩ := hgoals goal hgoal
    obtain rfl : s' = s := Option.some.inj (hs'.symm.trans hs)
    obtain ⟨t, ht, htid, hwin⟩ := hin goal hgoal
    have htick' : goal.tick = _ := congrArg Prod.fst htick
    rw [hv.id_inj t ht s' (mem_of_servoFor hs).1 (by rw [htid, hid]), htick'] at hwin
    exact (rampTick_inWindow_iff hlimit hwant).mp hwin ⟨hramp, hfar⟩
  · intro hno goal hgoal
    obtain ⟨s, want, hs, hid, hwant, htick, -⟩ := hgoals goal hgoal
    refine ⟨s, (mem_of_servoFor hs).1, hid.symm, ?_⟩
    have htick' : goal.tick = _ := congrArg Prod.fst htick
    rw [htick']
    refine (rampTick_inWindow_iff hlimit hwant).mpr ?_
    rintro ⟨hramp, hfar⟩
    exact hno ⟨goal.leg, goal.joint, s, hs, hramp, hfar⟩

end GaitPipeline

/-- **Travel windows.** Over a validated configuration, an update of any run keeps its goals in the
travel windows exactly when no joint is ramping from a tick more than one slew step outside its
window. -/
theorem travel_window_iff (hv : validateRobotConfig cfg = true) {h : List (PipelineEvent F)}
    {g : GaitPipeline F} (run : PipelineRun cfg h g) {e : PipelineEvent F} (he : e ∈ h)
    {dt_ms : UInt32} {goals : List PipelineJoint} (hupdate : e.label = (.update dt_ms, goals)) :
    GoalsInWindow cfg goals ↔ ¬ RampsFromFarOutside cfg e.pre dt_ms := by
  obtain ⟨hstep, -⟩ := run.of_mem he
  have hgoals : (e.pre.update cfg dt_ms).2.joints = goals := by
    have hout := congrArg Prod.snd hstep
    rw [hupdate] at hout
    exact hout
  rw [← hgoals]
  exact GaitPipeline.update_inWindow_iff (servoMapValid_of_validate hv) e.pre dt_ms

/-- A first update stays in the windows: a new pipeline ramps no joint. -/
theorem travel_window_first :
    GoalsInWindow defaultRobotConfig
      ((GaitPipeline.new defaultRobotConfig : GaitPipeline ℝ).update defaultRobotConfig 10).2.joints := by
  have start : PipelineRun defaultRobotConfig [] (.new defaultRobotConfig : GaitPipeline ℝ) := .nil
  have run := start.input (.update 10)
  refine (travel_window_iff validate_defaultRobotConfig run (List.mem_cons_self ..) rfl).mpr ?_
  rintro ⟨leg, joint, s, hs, hramp, hfar⟩
  exact nomatch hramp

/-- The pipeline over the default configuration whose servo 1, with its window ending at 3072, was
seeded at the upper end of the device range. -/
noncomputable def seededOutside : GaitPipeline ℝ :=
  (GaitPipeline.new defaultRobotConfig).seedGoal defaultRobotConfig 1 4095

/-- Over the default configuration, a seed at 4095 and an update emit a tick outside the window. -/
theorem tick_outside_window : ∃ (h : List (PipelineEvent ℝ)) (g : GaitPipeline ℝ),
    PipelineRun defaultRobotConfig h g ∧
      h.map (fun e => e.label.1) = [.update 0, .seedGoal 1 4095] ∧
      ∃ e ∈ h, ¬ GoalsInWindow defaultRobotConfig e.label.2 := by
  have start : PipelineRun defaultRobotConfig [] (.new defaultRobotConfig : GaitPipeline ℝ) := .nil
  refine ⟨_, _, (start.input (.seedGoal 1 4095)).input (.update 0), rfl, _,
    List.mem_cons_self .., ?_⟩
  intro hin
  have hv := servoMapValid_of_validate validate_defaultRobotConfig
  refine (GaitPipeline.update_inWindow_iff hv seededOutside 0).mp hin ?_
  have hlimit : GaitPipeline.slewLimit seededOutside.goal_slew_ticks_per_s 0 = 1 := by
    simp [GaitPipeline.slewLimit, FloatArith.lt, FloatArith.lit, ofUInt32, FloatArith.ofInt]
  refine ⟨0, 0, _, servoFor_default, rfl, ?_⟩
  rw [hlimit]
  exact .inl (by decide)

def RampsInWindow (cfg : RobotConfig) (r : Ramp) : Prop :=
  ∀ leg joint s, servoFor cfg leg joint = some s → r.ramping (slotOf leg joint) = true →
    InWindow s (r.last_tick (slotOf leg joint))

def SeedsInWindow (cfg : RobotConfig) : PipelineCall F → Prop
  | .seedGoal id present_tick => ∀ s, servoForId cfg id = some s → InWindow s present_tick
  | _ => True

namespace GaitPipeline

theorem not_rampsFromFarOutside {g : GaitPipeline F} (hr : RampsInWindow cfg g.toRamp)
    (dt_ms : UInt32) : ¬ RampsFromFarOutside cfg g dt_ms := by
  rintro ⟨leg, joint, s, hs, hramp, hfar⟩
  obtain ⟨hlo, hhi⟩ := hr leg joint s hs hramp
  have hlimit := slewLimit_nonneg g.goal_slew_ticks_per_s dt_ms
  rcases hfar with hfar | hfar <;> omega

omit [FloatArith F] in
theorem seedGoal_rampsInWindow (hv : ServoMapValid cfg) {g : GaitPipeline F}
    (hr : RampsInWindow cfg g.toRamp) {id : UInt8} {tick : UInt16}
    (hseed : ∀ s, servoForId cfg id = some s → InWindow s tick) :
    RampsInWindow cfg (g.seedGoal cfg id tick).toRamp := by
  intro leg joint s hs hramp
  obtain ⟨hmem, rfl, rfl⟩ := mem_of_servoFor hs
  obtain ⟨htick, hramping⟩ := seedGoal_slot hv hmem g id tick
  rw [htick]
  rw [hramping] at hramp
  split_ifs at hramp ⊢ with hid
  · exact hseed s (hid ▸ servoForId_of_mem hv hmem)
  · exact hr _ _ s hs hramp

theorem update_rampsInWindow (hv : ServoMapValid cfg) {g : GaitPipeline F}
    (hr : RampsInWindow cfg g.toRamp) (dt_ms : UInt32) :
    RampsInWindow cfg (g.update cfg dt_ms).1.toRamp := by
  obtain ⟨hgoals, htotal⟩ := update_spec hv g dt_ms
  intro leg joint s hs _
  obtain ⟨goal, hgoal, rfl, rfl⟩ := htotal leg joint s hs
  obtain ⟨s', want, hs', hid, -, -, hlast⟩ := hgoals goal hgoal
  obtain rfl : s' = s := Option.some.inj (hs'.symm.trans hs)
  obtain ⟨t, ht, htid, hwin⟩ := (update_inWindow_iff hv g dt_ms).mpr
    (not_rampsFromFarOutside hr dt_ms) goal hgoal
  rw [hlast]
  rwa [hv.id_inj t ht s' (mem_of_servoFor hs).1 (by rw [htid, hid])] at hwin

theorem call_inWindow (hv : ServoMapValid cfg) {g : GaitPipeline F}
    (hr : RampsInWindow cfg g.toRamp) (c : PipelineCall F) (hseed : SeedsInWindow cfg c) :
    GoalsInWindow cfg (g.call cfg c).2 ∧ RampsInWindow cfg (g.call cfg c).1.toRamp := by
  have hnone : GoalsInWindow cfg [] := nofun
  cases c with
  | setGait | setParams | setTwist | setBodyPose | resetPhase => exact ⟨hnone, hr⟩
  | setPreviewLeg leg =>
    refine ⟨hnone, ?_⟩
    obtain ⟨_, _, hframe⟩ := setPreviewLeg_frame g leg
    show RampsInWindow cfg (g.setPreviewLeg leg).toRamp
    rwa [hframe]
  | seedGoal id present_tick => exact ⟨hnone, seedGoal_rampsInWindow hv hr hseed⟩
  | update dt_ms =>
    exact ⟨(update_inWindow_iff hv g dt_ms).mpr (not_rampsFromFarOutside hr dt_ms),
      update_rampsInWindow hv hr dt_ms⟩

end GaitPipeline

theorem goals_inWindow_of_seeds (hv : validateRobotConfig cfg = true) {h : List (PipelineEvent F)}
    {g : GaitPipeline F} (run : PipelineRun cfg h g)
    (hseeds : ∀ e ∈ h, SeedsInWindow cfg e.label.1) :
    (∀ e ∈ h, GoalsInWindow cfg e.label.2) ∧ RampsInWindow cfg g.toRamp := by
  have hv' := servoMapValid_of_validate hv
  revert hseeds
  refine run.history_invariant (fun h g => (∀ e ∈ h, SeedsInWindow cfg e.label.1) →
    (∀ e ∈ h, GoalsInWindow cfg e.label.2) ∧ RampsInWindow cfg g.toRamp) ?_ ?_
  · intro _
    exact ⟨by simp, fun _ _ _ _ hramp => nomatch hramp⟩
  · rintro h g ⟨c, goals⟩ g' _ ih hstep hseeds
    obtain ⟨hgoals, hr⟩ := ih (fun e he => hseeds e (List.mem_cons_of_mem _ he))
    have hseed : SeedsInWindow cfg c := hseeds _ (List.mem_cons_self ..)
    have hcall := GaitPipeline.call_inWindow hv' hr c hseed
    rw [show GaitPipeline.call cfg g c = (g', goals) from hstep] at hcall
    refine ⟨?_, hcall.2⟩
    intro e he
    rcases List.mem_cons.mp he with rfl | he
    · exact hcall.1
    · exact hgoals e he

theorem goals_inWindow_of_seeds_first : ∃ (h : List (PipelineEvent ℝ)) (g : GaitPipeline ℝ),
    h.map (fun e => e.label.1) = [.update 10, .seedGoal 1 3000] ∧
      (∀ e ∈ h, GoalsInWindow defaultRobotConfig e.label.2) ∧ RampsInWindow defaultRobotConfig g.toRamp := by
  have start : PipelineRun defaultRobotConfig [] (.new defaultRobotConfig : GaitPipeline ℝ) := .nil
  have run := (start.input (.seedGoal 1 3000)).input (.update 10)
  refine ⟨_, _, ?_, goals_inWindow_of_seeds validate_defaultRobotConfig run ?_⟩
  · rfl
  · rw [List.forall_mem_cons, List.forall_mem_cons]
    refine ⟨trivial, fun s hs => ?_, fun e he => absurd he List.not_mem_nil⟩
    cases hs
    exact ⟨by decide, by decide⟩

end HexapodVerified.Gait
