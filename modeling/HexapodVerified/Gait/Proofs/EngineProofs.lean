import HexapodVerified.Gait.GaitEngine
import HexapodVerified.Lib.Keyframes

/-!
# The gait engine in exact arithmetic

Whatever the engine is asked for, its filtered parameters stay between their limits, its command within one, and
its phase in a cycle.
-/

namespace HexapodVerified.Gait

open Config FloatArith Transition Keyframes

variable {e : GaitEngine ℝ}

theorem filter_mem {lo hi v target k : ℝ} (hv : lo ≤ v ∧ v ≤ hi) (htarget : lo ≤ target ∧ target ≤ hi)
    (hk : 0 ≤ k ∧ k ≤ 1) : lo ≤ v + (target - v) * k ∧ v + (target - v) * k ≤ hi := by
  have hsplit : v + (target - v) * k = v * (1 - k) + target * k := by ring
  have hrest : 0 ≤ 1 - k := sub_nonneg.mpr hk.2
  rw [hsplit]
  constructor
  · linarith [mul_le_mul_of_nonneg_right hv.1 hrest, mul_le_mul_of_nonneg_right htarget.1 hk.1]
  · linarith [mul_le_mul_of_nonneg_right hv.2 hrest, mul_le_mul_of_nonneg_right htarget.2 hk.1]

theorem clampf_mem {x lo hi : ℝ} (h : lo ≤ hi) : lo ≤ clampf x lo hi ∧ clampf x lo hi ≤ hi := by
  rw [clampf_exact h]
  exact ⟨le_max_left _ _, max_le h (min_le_left _ _)⟩

theorem filterGain_mem (dt_ms : UInt32) :
    0 ≤ (if le kParamFilterTau (ofUInt32 dt_ms / lit 1000 : ℝ) then lit 1
      else ofUInt32 dt_ms / lit 1000 / kParamFilterTau : ℝ) ∧
    (if le kParamFilterTau (ofUInt32 dt_ms / lit 1000 : ℝ) then lit 1
      else ofUInt32 dt_ms / lit 1000 / kParamFilterTau : ℝ) ≤ 1 := by
  have htau : (kParamFilterTau : ℝ) = 1 / 4 := by
    unfold kParamFilterTau
    rw [lit_exact]
    norm_num
  have hdt : (0 : ℝ) ≤ ofUInt32 dt_ms / lit 1000 := by
    show (0 : ℝ) ≤ ((dt_ms.toNat : ℤ) : ℝ) / ((1000 : ℚ) : ℝ)
    positivity
  have hone : (lit 1 : ℝ) = 1 := Rat.cast_one
  rw [htau, hone]
  split_ifs with hge
  · exact ⟨zero_le_one, le_rfl⟩
  · rw [le_exact, not_le] at hge
    exact ⟨by positivity, by linarith⟩

theorem wrapPhase_eq {steps : ℝ} (hsteps : 0 < steps) (fuel : ℕ) {phase : ℝ} (hphase : 0 ≤ phase)
    (hfuel : phase < steps * (fuel + 1)) :
    GaitEngine.wrapPhase steps fuel phase = phase - steps * ⌊phase / steps⌋ := by
  induction fuel generalizing phase with
  | zero =>
    have hfloor : ⌊phase / steps⌋ = 0 := by
      rw [Int.floor_eq_zero_iff]
      refine ⟨div_nonneg hphase hsteps.le, ?_⟩
      rw [div_lt_one hsteps]
      simpa using hfuel
    rw [hfloor, Int.cast_zero, mul_zero, sub_zero]
    rfl
  | succ fuel ih =>
    unfold GaitEngine.wrapPhase
    split_ifs with hge
    · rw [le_exact] at hge
      have hdiv : (phase - steps) / steps = phase / steps - 1 := by
        rw [sub_div, div_self hsteps.ne']
      push_cast at hfuel
      rw [ih (sub_nonneg.mpr hge) (by linarith), hdiv, Int.floor_sub_one]
      push_cast
      ring
    · rw [le_exact, not_le] at hge
      have hfloor : ⌊phase / steps⌋ = 0 := by
        rw [Int.floor_eq_zero_iff]
        exact ⟨div_nonneg hphase hsteps.le, (div_lt_one hsteps).mpr hge⟩
      rw [hfloor, Int.cast_zero, mul_zero, sub_zero]

noncomputable def cyclePhase (gait : MarkIiiGait) (phase : ℝ) : ℝ :=
  phase - gait.steps * ⌊phase / gait.steps⌋

theorem cyclePhase_mem {gait : MarkIiiGait} (hsteps : 0 < gait.steps) (phase : ℝ) :
    0 ≤ cyclePhase gait phase ∧ cyclePhase gait phase < gait.steps := by
  have hpos : (0 : ℝ) < gait.steps := Nat.cast_pos.mpr hsteps
  have hfract := Int.fract_nonneg (phase / gait.steps)
  have hlt := Int.fract_lt_one (phase / gait.steps)
  have heq : cyclePhase gait phase = gait.steps * Int.fract (phase / gait.steps) := by
    unfold cyclePhase
    rw [Int.fract, mul_sub, mul_div_cancel₀ _ hpos.ne']
  rw [heq]
  exact ⟨mul_nonneg hpos.le hfract, mul_lt_of_lt_one_right hpos hlt⟩

theorem gaitDefinition_steps (id : GaitId) :
    8 ≤ (gaitDefinition id).steps ∧ (gaitDefinition id).steps ≤ 24 := by
  cases id <;> exact ⟨by decide, by decide⟩

structure EngineOk (e : GaitEngine ℝ) : Prop where
  stride : 0 ≤ e.stride_mm ∧ e.stride_mm ≤ 80
  stride_target : 0 ≤ e.stride_target ∧ e.stride_target ≤ 80
  step : 0 ≤ e.step_mm ∧ e.step_mm ≤ 50
  step_target : 0 ≤ e.step_target ∧ e.step_target ≤ 50
  speed : 0 ≤ e.speed ∧ e.speed ≤ 1
  speed_target : 0 ≤ e.speed_target ∧ e.speed_target ≤ 1
  phase : 0 ≤ e.gait_step_phase ∧ e.gait_step_phase < 24
  vx : |e.twist.vx| ≤ 1
  vy : |e.twist.vy| ≤ 1
  wz : |e.twist.wz| ≤ 1

theorem engineOk_new : EngineOk GaitEngine.new := by
  constructor <;> norm_num [GaitEngine.new]

theorem EngineOk.setGait (h : EngineOk e) (id : GaitId) : EngineOk (e.setGait id) :=
  ⟨h.stride, h.stride_target, h.step, h.step_target, h.speed, h.speed_target, h.phase, h.vx, h.vy, h.wz⟩

theorem EngineOk.configure (h : EngineOk e) (d : GaitDefaults) : EngineOk (e.configure d) := by
  have hstride : (0 : ℝ) ≤ clampf (ofUInt16 d.stride_len_mm) (lit 0) kMaxStrideMm ∧
      clampf (ofUInt16 d.stride_len_mm) (lit 0) kMaxStrideMm ≤ (80 : ℝ) := by
    have hmem := clampf_mem (x := ofUInt16 d.stride_len_mm) (show (lit 0 : ℝ) ≤ lit 80 by norm_num)
    simpa [kMaxStrideMm] using hmem
  have hstep : (0 : ℝ) ≤ clampf (ofUInt16 d.step_height_mm) (lit 0) kMaxStepMm ∧
      clampf (ofUInt16 d.step_height_mm) (lit 0) kMaxStepMm ≤ (50 : ℝ) := by
    have hmem := clampf_mem (x := ofUInt16 d.step_height_mm) (show (lit 0 : ℝ) ≤ lit 50 by norm_num)
    simpa [kMaxStepMm] using hmem
  have hspeed : (0 : ℝ) ≤ clampf (ofUInt8 d.speed_x255 / lit 255) (lit 0) (lit 1) ∧
      clampf (ofUInt8 d.speed_x255 / lit 255) (lit 0) (lit 1) ≤ (1 : ℝ) := by
    have hmem := clampf_mem (x := ofUInt8 d.speed_x255 / lit 255) (show (lit 0 : ℝ) ≤ lit 1 by norm_num)
    simpa using hmem
  unfold GaitEngine.configure
  dsimp only
  split
  · exact ⟨h.stride, hstride, h.step, hstep, h.speed, hspeed, h.phase, h.vx, h.vy, h.wz⟩
  · -- the first configuration seeds the filters
    exact ⟨hstride, hstride, hstep, hstep, hspeed, hspeed, h.phase, h.vx, h.vy, h.wz⟩

theorem EngineOk.setTwist (h : EngineOk e) (t : BodyTwist ℝ) : EngineOk (e.setTwist t) := by
  have haxis : ∀ v : ℝ, |(if le (fabs (clampf v (lit (-1)) (lit 1))) kMotionDeadband then lit 0
      else clampf v (lit (-1)) (lit 1) : ℝ)| ≤ 1 := by
    intro v
    split
    · norm_num
    · have hmem := clampf_mem (x := v) (show (lit (-1) : ℝ) ≤ lit 1 by norm_num)
      rw [abs_le]
      simpa using hmem
  exact ⟨h.stride, h.stride_target, h.step, h.step_target, h.speed, h.speed_target, h.phase,
    haxis t.vx, haxis t.vy, haxis t.wz⟩

theorem EngineOk.reset (h : EngineOk e) : EngineOk e.reset := by
  refine ⟨h.stride, h.stride_target, h.step, h.step_target, h.speed, h.speed_target, ?_, h.vx, h.vy, h.wz⟩
  norm_num [GaitEngine.reset]

theorem EngineOk.advanceFilters (h : EngineOk e) (dt_ms : UInt32) : EngineOk (e.advanceFilters dt_ms) := by
  have hgain := filterGain_mem dt_ms
  exact ⟨filter_mem h.stride h.stride_target hgain, h.stride_target, filter_mem h.step h.step_target hgain,
    h.step_target, filter_mem h.speed h.speed_target hgain, h.speed_target, h.phase, h.vx, h.vy, h.wz⟩

noncomputable def GaitEngine.parked (e : GaitEngine ℝ) (dt_ms : UInt32) : GaitEngine ℝ :=
  { e.advanceFilters dt_ms with twist := GaitEngine.parkTwist (e.advanceFilters dt_ms).twist }

theorem EngineOk.parked (h : EngineOk e) (dt_ms : UInt32) : EngineOk (e.parked dt_ms) := by
  have hf := h.advanceFilters dt_ms
  have hpark : |(GaitEngine.parkTwist (e.advanceFilters dt_ms).twist).vx| ≤ 1 ∧
      |(GaitEngine.parkTwist (e.advanceFilters dt_ms).twist).vy| ≤ 1 ∧
      |(GaitEngine.parkTwist (e.advanceFilters dt_ms).twist).wz| ≤ 1 := by
    unfold GaitEngine.parkTwist
    split
    · norm_num
    · exact ⟨hf.vx, hf.vy, hf.wz⟩
  exact ⟨hf.stride, hf.stride_target, hf.step, hf.step_target, hf.speed, hf.speed_target, hf.phase,
    hpark.1, hpark.2.1, hpark.2.2⟩

/-- What an update can do: hold the feet, sit, or step. -/
theorem update_cases (e : GaitEngine ℝ) (dt_ms : UInt32) :
    e.update dt_ms = (e.advanceFilters dt_ms, (e.advanceFilters dt_ms).heldFoot) ∨
    e.gait = .sit ∧ e.update dt_ms =
      (e.advanceFilters dt_ms, fun leg => { (e.advanceFilters dt_ms).heldFoot leg with z_mm := kSitFootZMm }) ∨
    e.update dt_ms = (e.parked dt_ms, (e.parked dt_ms).heldFoot) ∨
    e.update dt_ms = (e.parked dt_ms).stepFeet dt_ms := by
  have hstep : ∀ r, r = (if le (fmax (fabs (e.parked dt_ms).twist.vx)
      (fmax (fabs (e.parked dt_ms).twist.vy) (fabs (e.parked dt_ms).twist.wz))) (lit 0)
      then (e.parked dt_ms, (e.parked dt_ms).heldFoot) else (e.parked dt_ms).stepFeet dt_ms) →
      r = (e.parked dt_ms, (e.parked dt_ms).heldFoot) ∨ r = (e.parked dt_ms).stepFeet dt_ms := by
    rintro r rfl
    split
    · exact .inl rfl
    · exact .inr rfl
  unfold GaitEngine.update
  dsimp only
  split
  case h_1 => exact .inl rfl
  case h_2 hsit => exact .inr (.inl ⟨hsit, rfl⟩)
  case h_3 => exact .inr (.inr (hstep _ rfl))

/-- A step takes at least 60 ms. -/
theorem EngineOk.stepPeriodMs_ge (h : EngineOk e) : 60 ≤ e.stepPeriodMs := by
  have hneutral : (lit 128 / lit 255 : ℝ) = 128 / 255 := by norm_num
  have hmin : (kMinStepPeriodMs : ℝ) = 60 := by norm_num [kMinStepPeriodMs]
  have hmid : (kNeutralStepPeriodMs : ℝ) = 80 := by norm_num [kNeutralStepPeriodMs]
  have hmax : (kMaxStepPeriodMs : ℝ) = 120 := by norm_num [kMaxStepPeriodMs]
  have hone : (lit 1 : ℝ) = 1 := Rat.cast_one
  unfold GaitEngine.stepPeriodMs
  dsimp only
  rw [hneutral, hmin, hmid, hmax, hone]
  split_ifs with hslow
  · rw [le_exact] at hslow
    have hratio : e.speed / (128 / 255) ≤ 1 := by rw [div_le_one (by norm_num)]; exact hslow
    linarith
  · have hratio : (e.speed - 128 / 255) / (1 - 128 / 255) ≤ 1 := by
      rw [div_le_one (by norm_num)]
      linarith [h.speed.2]
    linarith

theorem EngineOk.stepFeet_phase (h : EngineOk e) (dt_ms : UInt32) : (e.stepFeet dt_ms).1.gait_step_phase =
    cyclePhase (gaitDefinition e.gait) (e.gait_step_phase + ofUInt32 dt_ms / e.stepPeriodMs) := by
  obtain ⟨hlow, hhigh⟩ := gaitDefinition_steps e.gait
  have hperiod := h.stepPeriodMs_ge
  have hdt : (0 : ℝ) ≤ (dt_ms.toNat : ℝ) := Nat.cast_nonneg _
  have hsteps : (8 : ℝ) ≤ (gaitDefinition e.gait).steps := by exact_mod_cast hlow
  have hcast : (ofUInt32 dt_ms : ℝ) = dt_ms.toNat := by
    show (((dt_ms.toNat : ℤ)) : ℝ) = dt_ms.toNat
    rw [Int.cast_natCast]
  have hofInt : (ofInt ((gaitDefinition e.gait).steps : ℤ) : ℝ) = (gaitDefinition e.gait).steps := by
    rw [ofInt_exact, Int.cast_natCast]
  have hadvance : (dt_ms.toNat : ℝ) / e.stepPeriodMs ≤ dt_ms.toNat / 60 :=
    div_le_div_of_nonneg_left hdt (by norm_num) hperiod
  have hnonneg : 0 ≤ (dt_ms.toNat : ℝ) / e.stepPeriodMs := div_nonneg hdt (by linarith)
  show GaitEngine.wrapPhase _ _ _ = _
  rw [hofInt, hcast, wrapPhase_eq (by linarith) _ (by linarith [h.phase.1])]
  · rfl
  · push_cast
    have hroom : 8 * ((dt_ms.toNat : ℝ) + 4 + 1) ≤ (gaitDefinition e.gait).steps * ((dt_ms.toNat : ℝ) + 4 + 1) :=
      mul_le_mul_of_nonneg_right hsteps (by linarith)
    linarith [h.phase.2]

theorem EngineOk.stepFeet (h : EngineOk e) (dt_ms : UInt32) : EngineOk (e.stepFeet dt_ms).1 := by
  obtain ⟨hlow, hhigh⟩ := gaitDefinition_steps e.gait
  have hmem := @cyclePhase_mem (gaitDefinition e.gait) (by omega)
    (e.gait_step_phase + ofUInt32 dt_ms / e.stepPeriodMs)
  have hsteps : ((gaitDefinition e.gait).steps : ℝ) ≤ 24 := by exact_mod_cast hhigh
  rw [← h.stepFeet_phase] at hmem
  exact ⟨h.stride, h.stride_target, h.step, h.step_target, h.speed, h.speed_target,
    ⟨hmem.1, hmem.2.trans_le hsteps⟩, h.vx, h.vy, h.wz⟩

theorem EngineOk.update (h : EngineOk e) (dt_ms : UInt32) : EngineOk (e.update dt_ms).1 := by
  rcases update_cases e dt_ms with heq | ⟨-, heq⟩ | heq | heq
  · rw [heq]
    exact h.advanceFilters dt_ms
  · rw [heq]
    exact h.advanceFilters dt_ms
  · rw [heq]
    exact h.parked dt_ms
  · rw [heq]
    exact (h.parked dt_ms).stepFeet dt_ms

theorem engineOk_of_run {h : List (Event (GaitEngine ℝ) (EngineCall ℝ))} (run : EngineRun h e) :
    EngineOk e := by
  refine run.invariant EngineOk engineOk_new ?_
  rintro e call _ hok rfl
  cases call with
  | configure d => exact hok.configure d
  | setGait id => exact hok.setGait id
  | setTwist t => exact hok.setTwist t
  | reset => exact hok.reset
  | update dt_ms => exact hok.update dt_ms

/-!
## The trajectories of the gaits

Between the rows of its gait's table a leg follows a track through the keyframes, which repeats with the cycle.
The tables lift few legs at a time, and give all legs on the ground the same velocity.
-/

section Step

variable {F : Type} [FloatArith F]

def currentStep (gait_step_phase : F) : ℕ := (trunc (FloatArith.floor gait_step_phase)).toNat % 256 + 1

def nextStep (gait : MarkIiiGait) (gait_step_phase : F) : ℕ :=
  if currentStep gait_step_phase = gait.steps then 1 else currentStep gait_step_phase + 1

def trajectory (gait : MarkIiiGait) (leg : Fin kNumLegs) (gait_step_phase : F) : F × F :=
  let interpolation := gait_step_phase - FloatArith.floor gait_step_phase
  let current : F × F := keyframe gait leg (currentStep gait_step_phase)
  let next : F × F := keyframe gait leg (nextStep gait gait_step_phase)
  (current.1 + (next.1 - current.1) * interpolation, current.2 + (next.2 - current.2) * interpolation)

def GaitEngine.footOn (e : GaitEngine F) (leg : Fin kNumLegs) (place : F × F) : FootTarget F :=
  let foot := e.footAt leg place.1 place.2
  { x_mm := foot.x, y_mm := foot.y, z_mm := foot.z, swing := lt (lit 0.0001) place.2 }

theorem stepFeet_foot (e : GaitEngine F) (dt_ms : UInt32) (leg : Fin kNumLegs) :
    (e.stepFeet dt_ms).2 leg = (e.stepFeet dt_ms).1.footOn leg
      (trajectory (gaitDefinition e.gait) leg (e.stepFeet dt_ms).1.gait_step_phase) := rfl

end Step

/-- The row of a leg, counted from the top of its swing. -/
def relative (gait : MarkIiiGait) (leg : Fin kNumLegs) (gait_step : ℕ) : ℕ :=
  (gait_step + gait.steps - gait.origin.get leg) % gait.steps

def Airborne (gait : MarkIiiGait) (leg : Fin kNumLegs) (gait_step : ℕ) : Prop :=
  relative gait leg gait_step ≤ 1 ∨ gait.steps ≤ relative gait leg gait_step + 2

instance (gait : MarkIiiGait) (leg : Fin kNumLegs) (gait_step : ℕ) : Decidable (Airborne gait leg gait_step) :=
  inferInstanceAs (Decidable (_ ∨ _))

/-- The rows of a table go round, and so do those of every leg. -/
structure MarkIiiGait.WellFormed (gait : MarkIiiGait) : Prop where
  enough : 5 ≤ gait.steps
  few : gait.steps ≤ 24
  next : ∀ row < gait.steps, ∀ leg,
    relative gait leg ((row + 1) % gait.steps + 1) = (relative gait leg (row + 1) + 1) % gait.steps

theorem wellFormed_kTripod : kTripod.WellFormed := ⟨by decide, by decide, by decide⟩

theorem wellFormed_kRipple : kRipple.WellFormed := ⟨by decide, by decide, by decide⟩

theorem wellFormed_kWave : kWave.WellFormed := ⟨by decide, by decide, by decide⟩

theorem airborne_kTripod : ∀ row < kTripod.steps,
    (Finset.univ.filter fun leg => Airborne kTripod leg (row + 1)).card ≤ 3 := by decide

theorem airborne_kRipple : ∀ row < kRipple.steps,
    (Finset.univ.filter fun leg => Airborne kRipple leg (row + 1)).card ≤ 2 := by decide

theorem airborne_kWave : ∀ row < kWave.steps,
    (Finset.univ.filter fun leg => Airborne kWave leg (row + 1)).card ≤ 1 := by decide

variable {gait : MarkIiiGait} {leg : Fin kNumLegs}

noncomputable def keyAt (gait : MarkIiiGait) (leg : Fin kNumLegs) (n : ℤ) : ℝ × ℝ :=
  keyframe gait leg ((n % gait.steps).toNat + 1)

theorem row_lt (hgait : gait.WellFormed) (n : ℤ) : (n % gait.steps).toNat < gait.steps := by
  have henough := hgait.enough
  have hpos : (0 : ℤ) < gait.steps := by omega
  have hlt := Int.emod_lt_of_pos n hpos
  omega

theorem row_add_one (hgait : gait.WellFormed) (n : ℤ) :
    ((n + 1) % gait.steps).toNat = ((n % gait.steps).toNat + 1) % gait.steps := by
  have henough := hgait.enough
  have hpos : (0 : ℤ) < gait.steps := by omega
  have hnonneg := Int.emod_nonneg n hpos.ne'
  rw [← Int.emod_add_emod]
  obtain ⟨row, hrow⟩ := Int.eq_ofNat_of_zero_le hnonneg
  rw [hrow, Int.toNat_natCast, ← Nat.cast_add_one, ← Int.natCast_emod, Int.toNat_natCast]

theorem keyAt_sub_steps (gait : MarkIiiGait) (leg : Fin kNumLegs) (n : ℤ) :
    keyAt gait leg (n - gait.steps) = keyAt gait leg n := by
  unfold keyAt
  rw [Int.sub_emod_right]

theorem keyframe_eq (gait : MarkIiiGait) (leg : Fin kNumLegs) (gait_step : ℕ) :
    (keyframe gait leg gait_step : ℝ × ℝ) =
      if relative gait leg gait_step = 0 then (lit 0, lit 1)
      else if relative gait leg gait_step = 1 then (lit 0.5, lit 0.5)
      else if relative gait leg gait_step = 2 then (lit 0.5, lit 0)
      else if relative gait leg gait_step = gait.steps - 1 then (lit (-0.5), lit 0.5)
      else (lit 0.5 - ofInt (relative gait leg gait_step - 2) / ofInt gait.travel_divisor, lit 0) := rfl

theorem keyframe_ground {gait_step : ℕ} (hlow : 2 ≤ relative gait leg gait_step)
    (hhigh : relative gait leg gait_step + 2 ≤ gait.steps) :
    (keyframe gait leg gait_step : ℝ × ℝ) =
      (1 / 2 - ((relative gait leg gait_step : ℝ) - 2) / gait.travel_divisor, 0) := by
  have hhalf : (lit 0.5 : ℝ) = 1 / 2 := by norm_num
  have hzero : (lit 0 : ℝ) = 0 := Rat.cast_zero
  rw [keyframe_eq, if_neg (by omega), if_neg (by omega), hhalf, hzero]
  split_ifs with htwo hlast
  · rw [htwo]
    norm_num
  · omega
  · rw [ofInt_exact, ofInt_exact]
    push_cast
    rfl

/-- Keyframes are never below the ground. -/
theorem keyframe_lift_nonneg (gait : MarkIiiGait) (leg : Fin kNumLegs) (gait_step : ℕ) :
    0 ≤ (keyframe gait leg gait_step : ℝ × ℝ).2 := by
  rw [keyframe_eq]
  split_ifs <;> norm_num

theorem relative_of_lift {gait_step : ℕ} (hlift : (keyframe gait leg gait_step : ℝ × ℝ).2 ≠ 0) :
    relative gait leg gait_step ≤ 1 ∨ relative gait leg gait_step = gait.steps - 1 := by
  by_contra hnot
  rw [not_or] at hnot
  refine hlift ?_
  rw [keyframe_eq, if_neg (by omega), if_neg (by omega), if_neg hnot.2]
  split_ifs
  · exact Rat.cast_zero
  · exact Rat.cast_zero

theorem lift_of_relative {gait_step : ℕ}
    (h : relative gait leg gait_step ≤ 1 ∨ relative gait leg gait_step = gait.steps - 1)
    (hgait : gait.WellFormed) : (keyframe gait leg gait_step : ℝ × ℝ).2 ≠ 0 := by
  have henough := hgait.enough
  rw [keyframe_eq]
  split_ifs
  · norm_num
  · norm_num
  · omega
  · norm_num
  · omega

theorem relative_lt (hgait : gait.WellFormed) (gait_step : ℕ) : relative gait leg gait_step < gait.steps :=
  Nat.mod_lt _ (by have henough := hgait.enough; omega)

theorem keyAt_ground (hgait : gait.WellFormed) {n : ℤ} (hfirst : (keyAt gait leg n).2 = 0)
    (hnext : (keyAt gait leg (n + 1)).2 = 0) :
    (keyAt gait leg (n + 1)).1 - (keyAt gait leg n).1 = -1 / gait.travel_divisor := by
  have hrow := row_lt hgait n
  have hrelative := hgait.next _ hrow leg
  have hlt : relative gait leg ((n % gait.steps).toNat + 1) < gait.steps := relative_lt hgait _
  have hfirst' : ¬ _ := fun h => @lift_of_relative gait leg _ h hgait hfirst
  have hnext' : ¬ _ := fun h => @lift_of_relative gait leg _ h hgait hnext
  unfold keyAt at *
  rw [row_add_one hgait] at hnext' ⊢
  rw [hrelative] at hnext'
  have hmod : (relative gait leg ((n % gait.steps).toNat + 1) + 1) % gait.steps =
      relative gait leg ((n % gait.steps).toNat + 1) + 1 := by
    refine Nat.mod_eq_of_lt ?_
    omega
  rw [hmod] at hnext' hrelative
  rw [keyframe_ground (by omega) (by omega), keyframe_ground (by omega) (by omega), hrelative]
  push_cast
  ring

noncomputable def longitudinal (gait : MarkIiiGait) (leg : Fin kNumLegs) : ℝ → ℝ :=
  track fun n => (keyAt gait leg n).1

noncomputable def lift (gait : MarkIiiGait) (leg : Fin kNumLegs) : ℝ → ℝ :=
  track fun n => (keyAt gait leg n).2

section Rows

variable {phase : ℝ}

theorem floor_mem_cycle (hlow : 0 ≤ phase) (hhigh : phase < gait.steps) :
    0 ≤ ⌊phase⌋ ∧ ⌊phase⌋ < gait.steps := by
  refine ⟨Int.floor_nonneg.mpr hlow, Int.floor_lt.mpr ?_⟩
  rw [Int.cast_natCast]
  exact hhigh

theorem currentStep_eq (hgait : gait.WellFormed) (hlow : 0 ≤ phase) (hhigh : phase < gait.steps) :
    currentStep phase = (⌊phase⌋ % gait.steps).toNat + 1 := by
  obtain ⟨hnonneg, hlt⟩ := floor_mem_cycle hlow hhigh
  have hfew := hgait.few
  have htrunc : trunc (FloatArith.floor phase) = ⌊phase⌋ := trunc_intCast ⌊phase⌋
  unfold currentStep
  rw [htrunc, Int.emod_eq_of_lt hnonneg hlt]
  omega

theorem nextStep_eq (hgait : gait.WellFormed) (hlow : 0 ≤ phase) (hhigh : phase < gait.steps) :
    nextStep gait phase = ((⌊phase⌋ + 1) % gait.steps).toNat + 1 := by
  have hrow := row_lt hgait ⌊phase⌋
  unfold nextStep
  rw [currentStep_eq hgait hlow hhigh, row_add_one hgait]
  split_ifs with hlast
  · rw [hlast, Nat.mod_self]
  · rw [Nat.mod_eq_of_lt (by omega)]

theorem steps_mem_table (hgait : gait.WellFormed) (hlow : 0 ≤ phase) (hhigh : phase < gait.steps) :
    (1 ≤ currentStep phase ∧ currentStep phase ≤ gait.steps) ∧
      1 ≤ nextStep gait phase ∧ nextStep gait phase ≤ gait.steps := by
  have hrow := row_lt hgait ⌊phase⌋
  have hnext := row_lt hgait (⌊phase⌋ + 1)
  rw [currentStep_eq hgait hlow hhigh, nextStep_eq hgait hlow hhigh]
  omega

theorem trajectory_eq (hgait : gait.WellFormed) (hlow : 0 ≤ phase) (hhigh : phase < gait.steps) :
    trajectory gait leg phase = (longitudinal gait leg phase, lift gait leg phase) := by
  unfold trajectory longitudinal lift track
  rw [currentStep_eq hgait hlow hhigh, nextStep_eq hgait hlow hhigh]
  rfl

end Rows

theorem trajectory_cyclePhase (hgait : gait.WellFormed) (phase : ℝ) :
    trajectory gait leg (cyclePhase gait phase) = (longitudinal gait leg phase, lift gait leg phase) := by
  have henough := hgait.enough
  obtain ⟨hlow, hhigh⟩ := @cyclePhase_mem gait (by omega) phase
  have hphase : cyclePhase gait phase = phase - (⌊phase / gait.steps⌋ * gait.steps : ℤ) := by
    unfold cyclePhase
    push_cast
    ring
  rw [trajectory_eq hgait hlow hhigh, hphase]
  unfold longitudinal lift
  rw [track_sub_mul_period fun n => congrArg Prod.fst (keyAt_sub_steps gait leg n),
    track_sub_mul_period fun n => congrArg Prod.snd (keyAt_sub_steps gait leg n)]

theorem keyAt_lift_nonneg (gait : MarkIiiGait) (leg : Fin kNumLegs) (n : ℤ) : 0 ≤ (keyAt gait leg n).2 :=
  keyframe_lift_nonneg gait leg _

theorem airborne_of_lift (hgait : gait.WellFormed) {phase : ℝ} (hlift : 0 < lift gait leg phase) :
    Airborne gait leg ((⌊phase⌋ % gait.steps).toNat + 1) := by
  have hrelative := hgait.next _ (row_lt hgait ⌊phase⌋) leg
  unfold Airborne
  rcases key_ne_zero_of_track_pos hlift with hkey | hkey
  · rcases relative_of_lift hkey with htop | hbefore
    · exact .inl htop
    · exact .inr (by omega)
  · unfold keyAt at hkey
    rw [row_add_one hgait] at hkey
    have hnext := relative_of_lift hkey
    rw [hrelative] at hnext
    rcases Nat.lt_or_ge (relative gait leg ((⌊phase⌋ % gait.steps).toNat + 1) + 1) gait.steps with hin | hout
    · rw [Nat.mod_eq_of_lt hin] at hnext
      omega
    · exact .inr (by omega)

theorem longitudinal_ground (hgait : gait.WellFormed) {first last : ℝ} (hle : first ≤ last)
    (hground : ∀ phase, first ≤ phase → phase ≤ last → lift gait leg phase = 0) :
    longitudinal gait leg last - longitudinal gait leg first = -1 / gait.travel_divisor * (last - first) := by
  rcases hle.lt_or_eq with hlt | rfl
  · refine track_sub_track hle fun n hlow hhigh => ?_
    have hlow' : first < n + 1 := by
      have hcast : (⌊first⌋ : ℝ) ≤ n := Int.cast_le.mpr hlow
      linarith [Int.lt_floor_add_one first]
    have hhigh' : (n : ℝ) < last := Int.lt_ceil.mp hhigh
    -- a phase strictly between the two keys
    obtain ⟨phase, hafter, hbefore⟩ := exists_between (max_lt (lt_min hlt hlow') (lt_min hhigh' (lt_add_one (n : ℝ))))
    rw [max_lt_iff] at hafter
    rw [lt_min_iff] at hbefore
    obtain ⟨hfirst, hnext⟩ := keys_of_track_eq_zero (keyAt_lift_nonneg gait leg) hafter.2 hbefore.2
      (hground phase hafter.1.le hbefore.1.le)
    exact keyAt_ground hgait hfirst hnext
  · rw [sub_self, sub_self, mul_zero]

noncomputable def GaitEngine.groundVelocity (e : GaitEngine ℝ) (gait : MarkIiiGait) : Point ℝ :=
  ⟨-(e.twist.vx * e.stride_mm / gait.travel_divisor), -(e.twist.vy * e.stride_mm / gait.travel_divisor), lit 0⟩

def Grounded (gait : MarkIiiGait) (leg : Fin kNumLegs) (phase : ℝ) : Prop :=
  (trajectory gait leg (cyclePhase gait phase)).2 = lit 0

open Classical in
structure SoundGait (id : GaitId) (lifted : ℕ) : Prop where
  /-- The two rows between which a phase lies are rows of the table. -/
  index : ∀ phase : ℝ,
    let row := currentStep (cyclePhase (gaitDefinition id) phase)
    let next := nextStep (gaitDefinition id) (cyclePhase (gaitDefinition id) phase)
    (1 ≤ row ∧ row ≤ (gaitDefinition id).steps) ∧ 1 ≤ next ∧ next ≤ (gaitDefinition id).steps
  /-- The trajectory goes on without a jump, from cycle to cycle too. -/
  continuous : ∀ leg, Continuous fun phase : ℝ =>
    trajectory (gaitDefinition id) leg (cyclePhase (gaitDefinition id) phase)
  /-- Few legs are lifted at a time. -/
  support : ∀ phase : ℝ,
    (Finset.univ.filter fun leg => ¬ Grounded (gaitDefinition id) leg phase).card ≤ lifted
  /-- Without yaw the feet on the ground all move at one velocity. -/
  ground : ∀ (e : GaitEngine ℝ), e.twist.wz = lit 0 → ∀ leg (first last : ℝ), first ≤ last →
    (∀ phase, first ≤ phase → phase ≤ last → Grounded (gaitDefinition id) leg phase) →
    let foot phase := e.footOn leg (trajectory (gaitDefinition id) leg (cyclePhase (gaitDefinition id) phase))
    let velocity := e.groundVelocity (gaitDefinition id)
    (foot last).x_mm - (foot first).x_mm = velocity.x * (last - first) ∧
      (foot last).y_mm - (foot first).y_mm = velocity.y * (last - first) ∧
      (foot last).z_mm - (foot first).z_mm = velocity.z * (last - first)
  /-- In every run of the engine, an update holds the feet at home or puts them on the trajectories. -/
  emitted : ∀ (h : List (Event (GaitEngine ℝ) (EngineCall ℝ))) (e : GaitEngine ℝ), EngineRun h e → e.gait = id →
    ∀ dt_ms, (∀ leg, (e.update dt_ms).2 leg = (e.update dt_ms).1.heldFoot leg) ∨
      ∃ phase : ℝ, (e.update dt_ms).1.gait_step_phase = cyclePhase (gaitDefinition id) phase ∧
        ∀ leg, (e.update dt_ms).2 leg = (e.update dt_ms).1.footOn leg
          (trajectory (gaitDefinition id) leg (cyclePhase (gaitDefinition id) phase))

theorem grounded_iff (hgait : gait.WellFormed) (phase : ℝ) : Grounded gait leg phase ↔ lift gait leg phase = 0 := by
  have hzero : (lit 0 : ℝ) = 0 := Rat.cast_zero
  unfold Grounded
  rw [trajectory_cyclePhase hgait, hzero]

open Classical in
theorem card_lifted_le (hgait : gait.WellFormed) {lifted : ℕ}
    (hrows : ∀ row < gait.steps, (Finset.univ.filter fun leg => Airborne gait leg (row + 1)).card ≤ lifted)
    (phase : ℝ) : (Finset.univ.filter fun leg => ¬ Grounded gait leg phase).card ≤ lifted := by
  refine le_trans (Finset.card_le_card ?_) (hrows _ (row_lt hgait ⌊phase⌋))
  intro leg hleg
  rw [Finset.mem_filter] at hleg ⊢
  refine ⟨hleg.1, airborne_of_lift hgait ?_⟩
  have hne := hleg.2
  rw [grounded_iff hgait] at hne
  have hnonneg : 0 ≤ lift gait leg phase := by
    have hfract := Int.fract_nonneg phase
    have hlt := Int.fract_lt_one phase
    have hsplit : lift gait leg phase = (keyAt gait leg ⌊phase⌋).2 * (1 - Int.fract phase) +
        (keyAt gait leg (⌊phase⌋ + 1)).2 * Int.fract phase := by
      unfold lift track
      ring
    rw [hsplit]
    exact add_nonneg (mul_nonneg (keyAt_lift_nonneg _ _ _) (by linarith))
      (mul_nonneg (keyAt_lift_nonneg _ _ _) hfract)
  exact lt_of_le_of_ne hnonneg (Ne.symm hne)

/-- Without yaw, a foot stands at its home, moved along the command by its longitudinal position. -/
theorem footAt_of_no_yaw {e : GaitEngine ℝ} (hyaw : e.twist.wz = 0) (leg : Fin kNumLegs)
    (longitudinal lift_fraction : ℝ) :
    (e.footAt leg longitudinal lift_fraction).x =
        (e.homeFoot leg).x + e.twist.vx * e.stride_mm * longitudinal ∧
      (e.footAt leg longitudinal lift_fraction).y =
        (e.homeFoot leg).y + e.twist.vy * e.stride_mm * longitudinal := by
  unfold GaitEngine.footAt
  dsimp only
  rw [hyaw, zero_mul, zero_mul, show FloatArith.cos (0 : ℝ) = 1 from Real.cos_zero,
    show FloatArith.sin (0 : ℝ) = 0 from Real.sin_zero]
  constructor <;> ring

theorem footAt_z (e : GaitEngine ℝ) (leg : Fin kNumLegs) (longitudinal longitudinal' lift_fraction : ℝ) :
    (e.footAt leg longitudinal lift_fraction).z = (e.footAt leg longitudinal' lift_fraction).z := rfl

theorem footAt_ground (hgait : gait.WellFormed) {e : GaitEngine ℝ} (hyaw : e.twist.wz = 0) (leg : Fin kNumLegs)
    {first last : ℝ} (hle : first ≤ last)
    (hground : ∀ phase, first ≤ phase → phase ≤ last → Grounded gait leg phase) :
    let foot phase := e.footAt leg (trajectory gait leg (cyclePhase gait phase)).1
      (trajectory gait leg (cyclePhase gait phase)).2
    (foot last).x - (foot first).x = (e.groundVelocity gait).x * (last - first) ∧
      (foot last).y - (foot first).y = (e.groundVelocity gait).y * (last - first) ∧
      (foot last).z - (foot first).z = (e.groundVelocity gait).z * (last - first) := by
  have hlift : ∀ phase, first ≤ phase → phase ≤ last → lift gait leg phase = 0 :=
    fun phase hlow hhigh => (grounded_iff hgait phase).mp (hground phase hlow hhigh)
  have hback := longitudinal_ground hgait hle hlift
  rw [sub_eq_iff_eq_add] at hback
  intro foot
  have hfoot : ∀ phase, foot phase = e.footAt leg (longitudinal gait leg phase) (lift gait leg phase) := by
    intro phase
    show e.footAt leg (trajectory gait leg (cyclePhase gait phase)).1 _ = _
    rw [trajectory_cyclePhase hgait]
  obtain ⟨hx, hy⟩ := footAt_of_no_yaw hyaw leg (longitudinal gait leg first) (lift gait leg first)
  obtain ⟨hx', hy'⟩ := footAt_of_no_yaw hyaw leg (longitudinal gait leg last) (lift gait leg last)
  have hvelocity : e.groundVelocity gait = ⟨-(e.twist.vx * e.stride_mm / gait.travel_divisor),
      -(e.twist.vy * e.stride_mm / gait.travel_divisor), 0⟩ := by
    unfold GaitEngine.groundVelocity
    rw [show (lit 0 : ℝ) = 0 from Rat.cast_zero]
  rw [hfoot, hfoot, hvelocity]
  refine ⟨?_, ?_, ?_⟩
  · rw [hx, hx', hback]
    ring
  · rw [hy, hy', hback]
    ring
  · rw [hlift first le_rfl hle, hlift last hle le_rfl,
      footAt_z e leg (longitudinal gait leg last) (longitudinal gait leg first), sub_self, zero_mul]

theorem soundGait {id : GaitId} {lifted : ℕ} (hgait : (gaitDefinition id).WellFormed) (hmoving : id ≠ .sit)
    (hrows : ∀ row < (gaitDefinition id).steps,
      (Finset.univ.filter fun leg => Airborne (gaitDefinition id) leg (row + 1)).card ≤ lifted) :
    SoundGait id lifted where
  index phase := by
    have henough := hgait.enough
    obtain ⟨hlow, hhigh⟩ := @cyclePhase_mem (gaitDefinition id) (by omega) phase
    exact steps_mem_table hgait hlow hhigh
  continuous leg := by
    have htrack : (fun phase : ℝ => trajectory (gaitDefinition id) leg (cyclePhase (gaitDefinition id) phase)) =
        fun phase => (longitudinal (gaitDefinition id) leg phase, Gait.lift (gaitDefinition id) leg phase) :=
      funext fun phase => trajectory_cyclePhase hgait phase
    rw [htrack]
    exact (continuous_track _).prodMk (continuous_track _)
  support phase := card_lifted_le hgait hrows phase
  ground e hyaw leg first last hle hground :=
    footAt_ground hgait (hyaw.trans Rat.cast_zero) leg hle hground
  emitted h e hrun hid dt_ms := by
    have hok := engineOk_of_run hrun
    rcases update_cases e dt_ms with heq | ⟨hsit, -⟩ | heq | heq
    · rw [heq]
      exact .inl fun leg => rfl
    · exact absurd (hid.symm.trans hsit) hmoving
    · rw [heq]
      exact .inl fun leg => rfl
    · have hid' : (e.parked dt_ms).gait = id := hid
      have hphase := (hok.parked dt_ms).stepFeet_phase dt_ms
      rw [hid'] at hphase
      rw [heq]
      refine .inr ⟨_, hphase, fun leg => ?_⟩
      rw [stepFeet_foot, hphase, hid']

/-- **The gaits are sound.** For Tripod, Ripple and Wave, and every real phase: the step index stays in the
gait's table; the trajectory of every leg is continuous over the whole line of phases, the ends of steps and
cycles included; at most three, two and one legs are lifted; and without yaw the feet on the ground move at one
velocity, which is the same for all legs. In every run of the engine these trajectories are what an update
emits, unless it holds the feet at home. -/
theorem gaits_sound : SoundGait .tripod 3 ∧ SoundGait .ripple 2 ∧ SoundGait .wave 1 :=
  ⟨soundGait wellFormed_kTripod (by decide) airborne_kTripod,
    soundGait wellFormed_kRipple (by decide) airborne_kRipple,
    soundGait wellFormed_kWave (by decide) airborne_kWave⟩

end HexapodVerified.Gait
