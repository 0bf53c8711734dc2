import HexapodVerified.Controller.BodyCommandShaper
import HexapodVerified.Lib.Approach
import HexapodVerified.Lib.Runs

/-!
# The acceleration of the body command

In exact arithmetic an update moves every component of the twist towards its clamped target, by the
acceleration limit when it goes away from zero, by the deceleration limit otherwise. A component that goes
through zero within one update takes the deceleration limit all the way, so on the far side it can gain more
than the acceleration limit allows.
-/

namespace HexapodVerified.Controller

open HexapodVerified.Config FloatArith Approach Transition

inductive ShaperCall where
  | update (desired : BodyCommand ℝ) (dt_ms : UInt32)
  | reset (body_height_mm : ℝ)
  | setMode (mode : CommandShaperMode) (diagnostic_mode_allowed : Bool)

noncomputable def BodyCommandShaper.call (b : BodyCommandShaper ℝ) : ShaperCall → BodyCommandShaper ℝ
  | .update desired dt_ms => b.update desired dt_ms
  | .reset body_height_mm => b.reset body_height_mm
  | .setMode mode diagnostic_mode_allowed => (b.setMode mode diagnostic_mode_allowed).1

inductive TwistAxis where
  | vx | vy | wz

namespace TwistAxis

def get : TwistAxis → BodyCommand ℝ → ℝ
  | .vx, command => command.vx
  | .vy, command => command.vy
  | .wz, command => command.wz

noncomputable def positiveMax : TwistAxis → BodyCommandLimits → ℝ
  | .vx, limits => BodyCommandShaper.milli limits.max_forward_milli
  | .vy, limits => BodyCommandShaper.milli limits.max_lateral_milli
  | .wz, limits => BodyCommandShaper.milli limits.max_yaw_milli

noncomputable def negativeMax : TwistAxis → BodyCommandLimits → ℝ
  | .vx, limits => BodyCommandShaper.milli limits.max_reverse_milli
  | .vy, limits => BodyCommandShaper.milli limits.max_lateral_milli
  | .wz, limits => BodyCommandShaper.milli limits.max_yaw_milli

noncomputable def accel : TwistAxis → BodyCommandLimits → ℝ
  | .vx, limits => BodyCommandShaper.milli limits.forward_accel_milli_per_s
  | .vy, limits => BodyCommandShaper.milli limits.lateral_accel_milli_per_s
  | .wz, limits => BodyCommandShaper.milli limits.yaw_accel_milli_per_s

noncomputable def decel : TwistAxis → BodyCommandLimits → ℝ
  | .vx, limits => BodyCommandShaper.milli limits.forward_decel_milli_per_s
  | .vy, limits => BodyCommandShaper.milli limits.lateral_decel_milli_per_s
  | .wz, limits => BodyCommandShaper.milli limits.yaw_decel_milli_per_s

noncomputable def target (axis : TwistAxis) (limits : BodyCommandLimits) (desired : BodyCommand ℝ) : ℝ :=
  clampf (axis.get desired) (-axis.negativeMax limits) (axis.positiveMax limits)

end TwistAxis

noncomputable def boundedSeconds (dt_ms : UInt32) : ℝ :=
  ofUInt32 (if dt_ms > kMaxBodyCommandIntegrationMs then kMaxBodyCommandIntegrationMs else dt_ms) /
    lit 1000

/-- An update from `pre` to `post` keeps the limits on the change of the magnitude. -/
def TwistLimited (axis : TwistAxis) (limits : BodyCommandLimits) (dt_ms : UInt32)
    (pre post : BodyCommand ℝ) : Prop :=
  |axis.get post| - |axis.get pre| ≤ axis.accel limits * boundedSeconds dt_ms ∧
    |axis.get pre| - |axis.get post| ≤ axis.decel limits * boundedSeconds dt_ms

/-- The component does not go through zero, or the far side stays close. -/
def CrossesSlowly (axis : TwistAxis) (limits : BodyCommandLimits) (dt_ms : UInt32)
    (pre desired : BodyCommand ℝ) : Prop :=
  0 ≤ axis.get pre * axis.target limits desired ∨
    axis.decel limits * boundedSeconds dt_ms ≤
      axis.accel limits * boundedSeconds dt_ms + (|axis.get pre| + |axis.get pre|) ∨
    |axis.target limits desired| ≤ axis.accel limits * boundedSeconds dt_ms + |axis.get pre|

namespace BodyCommandShaper

section Component

variable {current target positive_max negative_max accel decel dt_s : ℝ} {max_delta : ℝ}

theorem moveToward_exact (hdelta : 0 ≤ max_delta) :
    moveToward current target max_delta = approach current target max_delta := by
  unfold moveToward
  simp only [le_exact, lt_exact, lit_exact, Rat.cast_zero]
  rcases hdelta.eq_or_lt with rfl | hpos
  · have hstay : approach current target 0 = current := by
      have hmoved := abs_approach_sub_le current target le_rfl
      exact sub_eq_zero.mp (abs_nonpos_iff.mp hmoved)
    rw [if_pos le_rfl, hstay]
  · rw [if_neg (not_le.mpr hpos)]
    rcases approach_cases current target hdelta with
      ⟨hup, heq⟩ | ⟨hdown, heq⟩ | ⟨hnear, heq⟩
    · rw [if_pos (by linarith), heq]
    · rw [if_neg (by linarith), if_pos (by linarith), heq]
    · rcases abs_le.mp hnear with ⟨hlow, hhigh⟩
      rw [if_neg (not_lt.mpr hhigh), if_neg (not_lt.mpr hlow), heq]

theorem milli_exact (v : UInt16) : (milli v : ℝ) = v.toNat / 1000 := by
  unfold milli kMilliScale ofUInt16
  simp only [ofInt_exact, lit_exact]
  push_cast
  ring

theorem milli_nonneg (v : UInt16) : (0 : ℝ) ≤ milli v := by
  rw [milli_exact]
  positivity

/-- A component that goes away from zero, or stands there. -/
def Accelerates (current target : ℝ) : Prop := current = 0 ∨ 0 < current * target ∧ |current| < |target|

open Classical in
theorem shapeTwist_exact (htarget : target ∈ Set.Icc (-negative_max) positive_max)
    (haccel : 0 ≤ accel * dt_s) (hdecel : 0 ≤ decel * dt_s) :
    shapeTwist current target positive_max negative_max accel decel dt_s =
      approach current target (if Accelerates current target then accel * dt_s else decel * dt_s) := by
  have hbool : (feq current (lit 0) || (lt (lit 0) (current * target) &&
      lt (fabs current) (fabs target))) = decide (Accelerates current target) := by
    rw [Bool.eq_iff_iff, decide_eq_true_iff, Bool.or_eq_true, Bool.and_eq_true, lt_exact, lt_exact,
      fabs_exact, fabs_exact, lit_exact, Rat.cast_zero]
    exact or_congr decide_eq_true_iff Iff.rfl
  unfold shapeTwist
  rw [clampf_of_mem htarget.1 htarget.2]
  dsimp only
  rw [hbool]
  by_cases hacc : Accelerates current target
  · rw [decide_eq_true hacc, if_pos rfl, if_pos hacc, moveToward_exact haccel]
  · rw [decide_eq_false hacc, if_neg Bool.false_ne_true, if_neg hacc, moveToward_exact hdecel]

theorem crossing_pos (hcurrent : 0 < current) (htarget : target < 0) {a d : ℝ} (ha : 0 ≤ a)
    (hd : 0 ≤ d) :
    (|approach current target d| - |current| ≤ a ∧ |current| - |approach current target d| ≤ d) ↔
      d ≤ a + (|current| + |current|) ∨ |target| ≤ a + |current| := by
  rw [abs_of_pos hcurrent, abs_of_neg htarget]
  rcases approach_cases current target hd with
    ⟨hup, heq⟩ | ⟨hdown, heq⟩ | ⟨hnear, heq⟩
  · linarith
  · rw [heq]
    rcases le_or_gt 0 (current - d) with hstays | hcrosses
    · rw [abs_of_nonneg hstays]
      constructor
      · intro _
        left
        linarith
      · intro _
        constructor <;> linarith
    · rw [abs_of_neg hcrosses]
      constructor
      · rintro ⟨hgain, -⟩
        left
        linarith
      · rintro (hlimit | hclose)
        · constructor <;> linarith
        · constructor <;> linarith
  · rcases abs_le.mp hnear with ⟨hlow, -⟩
    rw [heq, abs_of_neg htarget]
    constructor
    · rintro ⟨hgain, -⟩
      right
      linarith
    · rintro (hlimit | hclose)
      · constructor <;> linarith
      · constructor <;> linarith

theorem crossing (hcross : current * target < 0) {a d : ℝ} (ha : 0 ≤ a) (hd : 0 ≤ d) :
    (|approach current target d| - |current| ≤ a ∧ |current| - |approach current target d| ≤ d) ↔
      d ≤ a + (|current| + |current|) ∨ |target| ≤ a + |current| := by
  rcases mul_neg_iff.mp hcross with ⟨hcurrent, htarget⟩ | ⟨hcurrent, htarget⟩
  · exact crossing_pos hcurrent htarget ha hd
  · have hmirror := crossing_pos (neg_pos.mpr hcurrent) (neg_neg_iff_pos.mpr htarget) ha hd
    rwa [approach_neg hd, abs_neg, abs_neg, abs_neg] at hmirror

theorem accelerates_limited (haccelerates : Accelerates current target) {a d : ℝ} (ha : 0 ≤ a) (hd : 0 ≤ d) :
    |approach current target a| - |current| ≤ a ∧ |current| - |approach current target a| ≤ d := by
  have hmoved := abs_approach_sub_le current target ha
  have hgain := (abs_sub_abs_le_abs_sub (approach current target a) current).trans hmoved
  have haway : 0 ≤ current ∧ current ≤ target ∨ target ≤ current ∧ current ≤ 0 := by
    rcases haccelerates with rfl | ⟨hpos, hless⟩
    · exact (le_total 0 target).imp (fun ht => ⟨le_rfl, ht⟩) (fun ht => ⟨ht, le_rfl⟩)
    · rcases pos_and_pos_or_neg_and_neg_of_mul_pos hpos with ⟨hc, ht⟩ | ⟨hc, ht⟩
      · rw [abs_of_pos hc, abs_of_pos ht] at hless
        exact .inl ⟨hc.le, hless.le⟩
      · rw [abs_of_neg hc, abs_of_neg ht] at hless
        exact .inr ⟨(neg_lt_neg_iff.mp hless).le, hc.le⟩
  have hgrows := abs_le_abs_approach ha haway
  exact ⟨hgain, by linarith⟩

theorem brakes_limited (hside : 0 ≤ current * target) (hbrakes : ¬ Accelerates current target) {a d : ℝ}
    (ha : 0 ≤ a) (hd : 0 ≤ d) :
    |approach current target d| - |current| ≤ a ∧ |current| - |approach current target d| ≤ d := by
  have hmoved := abs_approach_sub_le current target hd
  rw [abs_sub_comm] at hmoved
  have hloss := (abs_sub_abs_le_abs_sub current (approach current target d)).trans hmoved
  have hnear : |target| ≤ |current| := by
    rcases hside.eq_or_lt with hzero | hpos
    · rcases mul_eq_zero.mp hzero.symm with hc | ht
      · exact absurd (.inl hc) hbrakes
      · rw [ht, abs_zero]
        exact abs_nonneg _
    · by_contra hmore
      exact hbrakes (.inr ⟨hpos, not_le.mp hmore⟩)
  have hshrinks := abs_approach_le_abs hd hnear
  exact ⟨by linarith, hloss⟩

end Component

section Update

variable {b : BodyCommandShaper ℝ} {desired : BodyCommand ℝ} {dt_ms : UInt32} (axis : TwistAxis)

theorem boundedSeconds_nonneg (dt_ms : UInt32) : 0 ≤ boundedSeconds dt_ms := by
  unfold boundedSeconds ofUInt32
  simp only [ofInt_exact, lit_exact]
  positivity

theorem range_nonneg (limits : BodyCommandLimits) :
    -axis.negativeMax limits ≤ 0 ∧ 0 ≤ axis.positiveMax limits := by
  cases axis <;> exact ⟨neg_nonpos.mpr (milli_nonneg _), milli_nonneg _⟩

theorem target_mem (limits : BodyCommandLimits) (desired : BodyCommand ℝ) :
    axis.target limits desired ∈ Set.Icc (-axis.negativeMax limits) (axis.positiveMax limits) := by
  rcases range_nonneg axis limits with ⟨hlow, hhigh⟩
  unfold TwistAxis.target
  rw [clampf_exact (hlow.trans hhigh)]
  exact ⟨le_max_left _ _, max_le (hlow.trans hhigh) (min_le_left _ _)⟩

theorem rates_nonneg (limits : BodyCommandLimits) (dt_ms : UInt32) :
    0 ≤ axis.accel limits * boundedSeconds dt_ms ∧ 0 ≤ axis.decel limits * boundedSeconds dt_ms := by
  have hdt := boundedSeconds_nonneg dt_ms
  cases axis <;> exact ⟨mul_nonneg (milli_nonneg _) hdt, mul_nonneg (milli_nonneg _) hdt⟩

open Classical in
theorem update_get (hmode : b.mode = .accelLimited) :
    axis.get (b.update desired dt_ms).current =
      approach (axis.get b.current) (axis.target b.limits desired)
        (if Accelerates (axis.get b.current) (axis.target b.limits desired)
          then axis.accel b.limits * boundedSeconds dt_ms
          else axis.decel b.limits * boundedSeconds dt_ms) := by
  rcases rates_nonneg axis b.limits dt_ms with ⟨haccel, hdecel⟩
  have hshape : ∀ (shaped : BodyCommandShaper ℝ),
      axis.get shaped.current = shapeTwist (axis.get b.current) (axis.target b.limits desired)
        (axis.positiveMax b.limits) (axis.negativeMax b.limits) (axis.accel b.limits)
        (axis.decel b.limits) (boundedSeconds dt_ms) →
      axis.get shaped.current =
        approach (axis.get b.current) (axis.target b.limits desired)
          (if Accelerates (axis.get b.current) (axis.target b.limits desired)
            then axis.accel b.limits * boundedSeconds dt_ms
            else axis.decel b.limits * boundedSeconds dt_ms) := by
    intro shaped hshaped
    rw [hshaped, shapeTwist_exact (target_mem axis b.limits desired) haccel hdecel]
  unfold BodyCommandShaper.update
  rw [hmode]
  change axis.get (if le (boundedSeconds dt_ms) (lit 0) = true then b else _).current = _
  by_cases hdt : le (boundedSeconds dt_ms) (lit 0) = true
  · -- no time has passed
    have hzero : boundedSeconds dt_ms = 0 := by
      rw [le_exact, lit_exact, Rat.cast_zero] at hdt
      exact le_antisymm hdt (boundedSeconds_nonneg dt_ms)
    rw [if_pos hdt, hzero, mul_zero, mul_zero, ite_self]
    have hmoved := abs_approach_sub_le (axis.get b.current) (axis.target b.limits desired) le_rfl
    exact (sub_eq_zero.mp (abs_nonpos_iff.mp hmoved)).symm
  · rw [if_neg hdt]
    apply hshape
    cases axis <;> rfl

def Contained (limits : BodyCommandLimits) (command : BodyCommand ℝ) : Prop :=
  ∀ axis : TwistAxis,
    axis.get command ∈ Set.Icc (-axis.negativeMax limits) (axis.positiveMax limits)

/-- An update never goes past the target. -/
theorem update_mem_uIcc (hmode : b.mode = .accelLimited) :
    axis.get (b.update desired dt_ms).current ∈
      Set.uIcc (axis.get b.current) (axis.target b.limits desired) := by
  rcases rates_nonneg axis b.limits dt_ms with ⟨haccel, hdecel⟩
  rw [update_get axis hmode]
  apply approach_mem_uIcc
  split_ifs
  · exact haccel
  · exact hdecel

/-- An update keeps the limits exactly when it crosses zero slowly. -/
theorem update_limited_iff (hmode : b.mode = .accelLimited) :
    TwistLimited axis b.limits dt_ms b.current (b.update desired dt_ms).current ↔
      CrossesSlowly axis b.limits dt_ms b.current desired := by
  rcases rates_nonneg axis b.limits dt_ms with ⟨haccel, hdecel⟩
  unfold TwistLimited CrossesSlowly
  rw [update_get axis hmode]
  rcases le_or_gt 0 (axis.get b.current * axis.target b.limits desired) with hside | hcross
  · refine iff_of_true ?_ (.inl hside)
    by_cases hacc : Accelerates (axis.get b.current) (axis.target b.limits desired)
    · rw [if_pos hacc]
      exact accelerates_limited hacc haccel hdecel
    · rw [if_neg hacc]
      exact brakes_limited hside hacc haccel hdecel
  · have hbrakes : ¬ Accelerates (axis.get b.current) (axis.target b.limits desired) := by
      rintro (hzero | ⟨hpos, -⟩)
      · rw [hzero, zero_mul] at hcross
        exact lt_irrefl _ hcross
      · exact lt_asymm hpos hcross
    rw [if_neg hbrakes, crossing hcross haccel hdecel]
    constructor
    · exact .inr
    · rintro (hside | hslow)
      · exact absurd hside (not_le.mpr hcross)
      · exact hslow

end Update

section Runs

variable {limits : BodyCommandLimits} {h : List (Event (BodyCommandShaper ℝ) ShaperCall)}
  {b : BodyCommandShaper ℝ}

theorem call_contained (call : ShaperCall) (hlimits : b.limits = limits)
    (hb : Contained limits b.current) :
    (b.call call).limits = limits ∧ Contained limits (b.call call).current := by
  subst hlimits
  have hzero : ∀ axis : TwistAxis,
      (0 : ℝ) ∈ Set.Icc (-axis.negativeMax b.limits) (axis.positiveMax b.limits) :=
    fun axis => range_nonneg axis b.limits
  cases call with
  | update desired dt_ms =>
    cases hmode : b.mode with
    | directDiagnostic =>
      have hdirect : b.call (.update desired dt_ms) = { b with current := b.clampDesired desired } := by
        show b.update desired dt_ms = _
        unfold BodyCommandShaper.update
        rw [hmode]
      rw [hdirect]
      refine ⟨rfl, fun axis => ?_⟩
      have htarget := target_mem axis b.limits desired
      cases axis <;> exact htarget
    | accelLimited =>
      refine ⟨(update_frame b desired dt_ms).1, fun axis => ?_⟩
      exact Set.uIcc_subset_Icc (hb axis) (target_mem axis b.limits desired)
        (update_mem_uIcc axis hmode)
  | reset body_height_mm =>
    refine ⟨rfl, fun axis => ?_⟩
    have hdefault : axis.get (b.call (.reset body_height_mm)).current = 0 := by
      cases axis <;> exact Rat.cast_zero
    rw [hdefault]
    exact hzero axis
  | setMode mode diagnostic_mode_allowed =>
    have hset : (b.call (.setMode mode diagnostic_mode_allowed)).limits = b.limits ∧
        (b.call (.setMode mode diagnostic_mode_allowed)).current = b.current := by
      show (b.setMode mode diagnostic_mode_allowed).1.limits = _ ∧
        (b.setMode mode diagnostic_mode_allowed).1.current = _
      unfold BodyCommandShaper.setMode
      split <;> exact ⟨rfl, rfl⟩
    refine ⟨hset.1, ?_⟩
    rw [hset.2]
    exact hb

theorem contained_of_run (hvalid : validateBodyCommandLimits limits = true)
    (run : Run (Deterministic BodyCommandShaper.call) (BodyCommandShaper.new.configure limits) h b) :
    b.limits = limits ∧ Contained limits b.current := by
  refine Run.invariant (fun b => b.limits = limits ∧ Contained limits b.current) ?_ ?_ run
  · have hstart : (BodyCommandShaper.new (F := ℝ)).configure limits =
        { BodyCommandShaper.new with limits } := if_pos hvalid
    rw [hstart]
    refine ⟨rfl, fun axis => ?_⟩
    have hdefault : axis.get (BodyCommand.default : BodyCommand ℝ) = 0 := by
      cases axis <;> exact Rat.cast_zero
    show axis.get BodyCommand.default ∈ _
    rw [hdefault]
    exact range_nonneg axis limits
  · rintro b call b' ⟨hlimits, hb⟩ rfl
    exact call_contained call hlimits hb

/-- **The acceleration limit of the twist.** In every run of calls under valid limits, the twist stays within
them. An update in the acceleration-limited mode does not take a component past its clamped target. It keeps
the limits on the change of the magnitude exactly when the component does not go through zero, or what it can
lose is at most what it can gain and twice what it has, or the target is no farther than what it can gain and
what it has. -/
theorem twist_limited_iff (hvalid : validateBodyCommandLimits limits = true)
    (run : Run (Deterministic BodyCommandShaper.call) (BodyCommandShaper.new.configure limits) h b) :
    Contained limits b.current ∧
    ∀ e ∈ h, ∀ desired dt_ms, e.label = .update desired dt_ms → e.pre.mode = .accelLimited →
      ∀ axis : TwistAxis,
        axis.get e.post.current ∈
          Set.uIcc (axis.get e.pre.current) (axis.target limits desired) ∧
        (TwistLimited axis limits dt_ms e.pre.current e.post.current ↔
          CrossesSlowly axis limits dt_ms e.pre.current desired) := by
  refine ⟨(contained_of_run hvalid run).2, ?_⟩
  rintro ⟨pre, label, post⟩ he desired dt_ms rfl hmode axis
  rcases run.of_mem he with ⟨hstep, before, hbefore⟩
  have hpost : post = pre.update desired dt_ms := hstep
  subst hpost
  rcases contained_of_run hvalid hbefore with ⟨rfl, -⟩
  exact ⟨update_mem_uIcc axis hmode, update_limited_iff axis hmode⟩

noncomputable def creep : BodyCommand ℝ := { BodyCommand.default with vx := milli 1 }

noncomputable def backward : BodyCommand ℝ := { BodyCommand.default with vx := -1 }

theorem default_rates : TwistAxis.vx.accel {} * boundedSeconds 50 = 6 / 100 ∧
    TwistAxis.vx.decel {} * boundedSeconds 50 = 9 / 100 := by
  have hdt : boundedSeconds 50 = 5 / 100 := by
    show (((50 : ℕ) : ℤ) : ℝ) / ((1000 : ℚ) : ℝ) = _
    norm_num
  have haccel : TwistAxis.vx.accel {} = 12 / 10 := by
    refine (milli_exact 1200).trans ?_
    norm_num [show (1200 : UInt16).toNat = 1200 from rfl]
  have hdecel : TwistAxis.vx.decel {} = 18 / 10 := by
    refine (milli_exact 1800).trans ?_
    norm_num [show (1800 : UInt16).toNat = 1800 from rfl]
  rw [hdt, haccel, hdecel]
  constructor <;> norm_num

/-- The first update reaches the slow twist, the second goes from there to the backward side. -/
theorem backward_not_slow :
    ¬ CrossesSlowly .vx {} 50 ((BodyCommandShaper.new.configure {}).update creep 50).current backward := by
  have hmax : TwistAxis.vx.positiveMax {} = 1 ∧ TwistAxis.vx.negativeMax {} = 1 := by
    have hmilli : (milli 1000 : ℝ) = 1 := by
      refine (milli_exact 1000).trans ?_
      norm_num [show (1000 : UInt16).toNat = 1000 from rfl]
    exact ⟨hmilli, hmilli⟩
  have hcreep : TwistAxis.vx.target {} creep = 1 / 1000 := by
    have hslow : TwistAxis.vx.get (creep : BodyCommand ℝ) = 1 / 1000 := by
      refine (milli_exact 1).trans ?_
      norm_num [show (1 : UInt16).toNat = 1 from rfl]
    unfold TwistAxis.target
    rw [hmax.1, hmax.2, hslow]
    exact clampf_of_mem (by norm_num) (by norm_num)
  have hback : TwistAxis.vx.target {} backward = -1 := by
    unfold TwistAxis.target
    rw [hmax.1, hmax.2]
    exact clampf_of_mem (by norm_num [TwistAxis.get, backward]) (by norm_num [TwistAxis.get, backward])
  have hfirst : TwistAxis.vx.get ((BodyCommandShaper.new.configure {}).update creep 50).current =
      1 / 1000 := by
    have hzero : TwistAxis.vx.get (BodyCommand.default : BodyCommand ℝ) = 0 := Rat.cast_zero
    have hupdate : TwistAxis.vx.get ((BodyCommandShaper.new.configure {}).update creep 50).current = _ :=
      update_get .vx rfl
    have hlimits : ((BodyCommandShaper.new (F := ℝ)).configure {}).limits = {} := by
      unfold BodyCommandShaper.configure
      split <;> rfl
    have hcurrent : ((BodyCommandShaper.new (F := ℝ)).configure {}).current = .default := by
      unfold BodyCommandShaper.configure
      split <;> rfl
    rw [hlimits, hcurrent, hzero, hcreep, if_pos (.inl rfl), default_rates.1] at hupdate
    rw [hupdate, approach_of_abs_le (by norm_num [abs_of_pos])]
  unfold CrossesSlowly
  rw [hfirst, hback, default_rates.1, default_rates.2]
  norm_num [abs_of_pos]

theorem backward_run :
    Run (Deterministic BodyCommandShaper.call) (BodyCommandShaper.new.configure {})
      (executeHistory BodyCommandShaper.call (BodyCommandShaper.new.configure {}) []
        [.update creep 50, .update backward 50])
      (execute BodyCommandShaper.call (BodyCommandShaper.new.configure {})
        [.update creep 50, .update backward 50]) :=
  run_execute BodyCommandShaper.call _ .nil

theorem twist_limited_iff_creep :
    TwistLimited .vx {} 50 ((BodyCommandShaper.new (F := ℝ)).configure {}).current
      ((BodyCommandShaper.new.configure {}).update creep 50).current := by
  have hlimited := twist_limited_iff (show validateBodyCommandLimits {} = true by decide) backward_run
  refine ((hlimited.2 _ (List.mem_cons_of_mem _ (List.mem_cons_self ..)) creep 50 rfl rfl .vx).2).mpr ?_
  left
  have hzero : TwistAxis.vx.get ((BodyCommandShaper.new (F := ℝ)).configure {}).current = 0 :=
    Rat.cast_zero
  show 0 ≤ TwistAxis.vx.get ((BodyCommandShaper.new (F := ℝ)).configure {}).current * _
  rw [hzero, zero_mul]

/-- Under the default limits, an update through zero gains more than the acceleration limit. -/
theorem twist_not_limited :
    ¬ ∀ (limits : BodyCommandLimits) (h : List (Event (BodyCommandShaper ℝ) ShaperCall))
        (b : BodyCommandShaper ℝ),
      validateBodyCommandLimits limits = true →
      Run (Deterministic BodyCommandShaper.call) (BodyCommandShaper.new.configure limits) h b →
      ∀ e ∈ h, ∀ desired dt_ms, e.label = .update desired dt_ms → e.pre.mode = .accelLimited →
        ∀ axis : TwistAxis, TwistLimited axis limits dt_ms e.pre.current e.post.current := by
  intro hclaim
  rcases update_frame ((BodyCommandShaper.new (F := ℝ)).configure {}) creep 50 with ⟨hlimits, hmode⟩
  have hlimited := hclaim {} _ _ (by decide) backward_run _ (List.mem_cons_self ..) backward 50 rfl hmode .vx
  have hslow : CrossesSlowly .vx ((BodyCommandShaper.new.configure {}).update creep 50).limits 50
      ((BodyCommandShaper.new.configure {}).update creep 50).current backward := by
    refine (update_limited_iff .vx hmode).mp ?_
    rw [hlimits]
    exact hlimited
  rw [hlimits] at hslow
  exact backward_not_slow hslow

end Runs

end BodyCommandShaper

end HexapodVerified.Controller
