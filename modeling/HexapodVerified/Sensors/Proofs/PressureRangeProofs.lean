import HexapodVerified.Sensors.Proofs.ContactFootProofs

/-!
# The range of the pressures

The raw pressures have 24 bits, but the baseline that is taken off comes from a configuration field of
32 bits. The confidence of a loaded foot multiplies what is left by 55, so the operations on a sample
stay in range exactly if the configured baselines are within about thirty millions of zero.
-/

namespace HexapodVerified.Sensors

open HexapodVerified.Config SignedArith Transition

variable {cfg : RobotConfig} {m : ContactEstimator} {i : Fin kNumFeet} {foot : ContactFoot}
  {params : ContactParams} {sample : FootSample} {now_ms : UInt32} {c : ContactCall}
  {h : List ContactEvent} {ctx : FootCtx} {st : LegContactState} {next : ContactState}
  {pressure_raw baseline delta : Int32}

theorem trackBaseline_exact
    (hfits : ∀ x ∈ trackResults params next pressure_raw baseline, FitsInt32 x) :
    (trackBaseline params next pressure_raw baseline).toInt =
      (trackResults params next pressure_raw baseline).headD baseline.toInt := by
  unfold trackResults at hfits ⊢
  unfold trackBaseline
  split_ifs at hfits ⊢
  · exact toInt_add_of_fits (hfits _ List.mem_cons_self)
  · exact toInt_sub_of_fits (hfits _ List.mem_cons_self)
  · rfl
  · rfl

theorem confidenceFor_exact (hstate : st.state = .loaded) (hload : 0 < ctx.load_thresh)
    (hfits : ∀ x ∈ confidenceResults ctx .loaded delta, FitsInt32 x) :
    ∃ v : Int32, confidenceFor ctx st delta = clampU8 v ∧
      (confidenceResults ctx .loaded delta).getLast? = some v.toInt := by
  unfold confidenceResults at hfits ⊢
  unfold confidenceFor
  rw [hstate]
  dsimp only at hfits ⊢
  rw [if_neg (not_le.mpr hload)] at hfits ⊢
  rw [if_neg (not_le.mpr hload)]
  refine ⟨_, rfl, ?_⟩
  simp only [List.forall_mem_cons] at hfits
  obtain ⟨hmargin, hscaled, hnext, hquot, hsum, -⟩ := hfits
  have hthresh : (Int32.ofInt ctx.load_thresh).toInt = ctx.load_thresh :=
    toInt_ofInt_of_fits ⟨by omega, by have := hnext.2; omega⟩
  have hmargin' : (delta - Int32.ofInt ctx.load_thresh).toInt = delta.toInt - ctx.load_thresh := by
    rw [toInt_sub_of_fits (by rwa [hthresh]), hthresh]
  have hscaled' : ((delta - Int32.ofInt ctx.load_thresh) * 55).toInt =
      (delta.toInt - ctx.load_thresh) * 55 := by
    rw [← hmargin'] at hscaled ⊢
    exact toInt_mul_of_fits hscaled
  have hnext' : (Int32.ofInt ctx.load_thresh + 1).toInt = ctx.load_thresh + 1 := by
    have hfits : FitsInt32 ((Int32.ofInt ctx.load_thresh).toInt + (1 : Int32).toInt) := by
      rw [hthresh]
      exact hnext
    rw [toInt_add_of_fits hfits, hthresh]
    rfl
  have hquot' : ((delta - Int32.ofInt ctx.load_thresh) * 55 /
      (Int32.ofInt ctx.load_thresh + 1)).toInt =
      ((delta.toInt - ctx.load_thresh) * 55).tdiv (ctx.load_thresh + 1) := by
    rw [← hscaled', ← hnext'] at hquot ⊢
    exact toInt_div_of_fits hquot
  rw [← hquot'] at hsum
  rw [toInt_add_of_fits (a := 200) hsum, hquot']
  rfl

theorem update_exact (hok : sample.ok = true) (henabled : foot.ctx.enabled = true)
    (hfits : ∀ x ∈ foot.updateResults params sample, FitsInt32 x) :
    (foot.update params sample now_ms).state.pressure_delta.toInt =
        sample.pressure_raw.toInt - foot.state.pressure_baseline.toInt ∧
      (foot.update params sample now_ms).state.pressure_baseline.toInt =
        (trackResults params (foot.nextOf params sample) sample.pressure_raw
          foot.state.pressure_baseline).headD foot.state.pressure_baseline.toInt ∧
      ((foot.update params sample now_ms).state.state = .loaded → 0 < foot.ctx.load_thresh →
        ∃ v : Int32, (foot.update params sample now_ms).state.confidence = clampU8 v ∧
          (foot.updateResults params sample).getLast? = some v.toInt) := by
  have hresults : foot.updateResults params sample =
      (sample.pressure_raw.toInt - foot.state.pressure_baseline.toInt) ::
        (trackResults params (foot.nextOf params sample) sample.pressure_raw
            foot.state.pressure_baseline ++
          confidenceResults foot.ctx (foot.nextOf params sample) (foot.delta sample)) := by
    unfold ContactFoot.updateResults
    rw [hok, henabled]
    rfl
  rw [hresults, List.forall_mem_cons, List.forall_mem_append] at hfits
  obtain ⟨hdelta, htrack, hconfidence⟩ := hfits
  rw [update_of_enabled hok henabled, hresults]
  refine ⟨toInt_sub_of_fits hdelta, trackBaseline_exact htrack, fun hloaded hload => ?_⟩
  have hnext : foot.nextOf params sample = .loaded := hloaded
  rw [hnext] at hconfidence ⊢
  obtain ⟨v, hv, hlast⟩ := confidenceFor_exact hloaded hload hconfidence
  refine ⟨v, hv, ?_⟩
  rw [List.getLast?_cons, List.getLast?_append, hlast]
  rfl

def baselineMin : Int := -30656551
def baselineMax : Int := 30591014

def BaselineFits (baseline : Int32) : Prop :=
  baselineMin ≤ baseline.toInt ∧ baseline.toInt ≤ baselineMax

/-- What is known of a foot as long as the configured baselines are in range. -/
structure PressureInv (foot : ContactFoot) : Prop where
  baseline : BaselineFits foot.state.pressure_baseline
  raw : SensorRange foot.state.pressure_raw
  load : 0 ≤ foot.ctx.load_thresh ∧ foot.ctx.load_thresh ≤ 65535

theorem SensorRange.baselineFits (hraw : SensorRange pressure_raw) : BaselineFits pressure_raw := by
  obtain ⟨hmin, hmax⟩ := hraw
  unfold BaselineFits baselineMin baselineMax
  omega

theorem trackResults_between (htrack : params.baseline_track = 1) (hbaseline : BaselineFits baseline)
    (hraw : SensorRange pressure_raw) :
    ∀ x ∈ trackResults params next pressure_raw baseline, baselineMin ≤ x ∧ x ≤ baselineMax := by
  obtain ⟨hmin, hmax⟩ := hbaseline
  obtain ⟨hlo, hhi⟩ := hraw.baselineFits
  have hone : (1 : Int32).toInt = 1 := rfl
  unfold trackResults
  rw [htrack, hone]
  intro x hx
  split_ifs at hx with _ hgt hlt
  · rw [List.mem_singleton.mp hx]
    have hgt' : baseline.toInt < pressure_raw.toInt := Int32.lt_iff_toInt_lt.mp hgt
    omega
  · rw [List.mem_singleton.mp hx]
    have hlt' : pressure_raw.toInt < baseline.toInt := Int32.lt_iff_toInt_lt.mp hlt
    omega
  · cases hx
  · cases hx

theorem fits_of_baseline {x : Int} (hx : baselineMin ≤ x ∧ x ≤ baselineMax) : FitsInt32 x := by
  unfold baselineMin baselineMax at hx
  unfold FitsInt32
  omega

theorem trackBaseline_fits (htrack : params.baseline_track = 1) (hbaseline : BaselineFits baseline)
    (hraw : SensorRange pressure_raw) :
    BaselineFits (trackBaseline params next pressure_raw baseline) := by
  have hbetween : ∀ x ∈ trackResults params next pressure_raw baseline,
      baselineMin ≤ x ∧ x ≤ baselineMax := trackResults_between htrack hbaseline hraw
  unfold BaselineFits
  rw [trackBaseline_exact fun x hx => fits_of_baseline (hbetween x hx)]
  cases hresults : trackResults params next pressure_raw baseline with
  | nil => exact hbaseline
  | cons x rest => exact hbetween x (hresults ▸ List.mem_cons_self)

theorem confidenceResults_fits (hload : ctx.load_thresh ≤ 65535)
    (hmin : -38979622 ≤ delta.toInt) (hmax : delta.toInt ≤ 39045158) :
    ∀ x ∈ confidenceResults ctx next delta, FitsInt32 x := by
  unfold confidenceResults
  cases next with
  | loaded =>
    split_ifs with hzero
    · exact nofun
    · have hhalf := natAbs_tdiv_le_half (x := (delta.toInt - ctx.load_thresh) * 55)
        (y := ctx.load_thresh + 1) (by omega)
      simp only [List.forall_mem_cons]
      unfold FitsInt32
      refine ⟨by omega, by omega, by omega, by omega, by omega, nofun⟩
  | _ => exact nofun

theorem PressureInv.fits (hinv : PressureInv foot) (htrack : params.baseline_track = 1)
    (hsample : sample.ok = true → SensorRange sample.pressure_raw) :
    ∀ x ∈ foot.updateResults params sample, FitsInt32 x := by
  unfold ContactFoot.updateResults
  split_ifs with hskip
  · exact nofun
  · rw [Bool.or_eq_true, not_or, Bool.not_eq_true', Bool.not_eq_false] at hskip
    have hraw := hsample hskip.1
    obtain ⟨hmin, hmax⟩ := hinv.baseline
    obtain ⟨hlo, hhi⟩ := id hraw
    unfold baselineMin at hmin
    unfold baselineMax at hmax
    have hdelta : FitsInt32 (sample.pressure_raw.toInt - foot.state.pressure_baseline.toInt) := by
      unfold FitsInt32
      omega
    have hdelta' : (foot.delta sample).toInt =
        sample.pressure_raw.toInt - foot.state.pressure_baseline.toInt := toInt_sub_of_fits hdelta
    rw [List.forall_mem_cons]
    refine ⟨hdelta, fun x hx => ?_⟩
    rcases List.mem_append.mp hx with htracked | hconfidence
    · exact fits_of_baseline (trackResults_between htrack hinv.baseline hraw x htracked)
    · exact confidenceResults_fits hinv.load.2 (by omega) (by omega) x hconfidence

def ConfigFits (cfg : RobotConfig) : Prop := ∀ i, BaselineFits (cfg.feet.get i).pressure_baseline

theorem load_le (load_thresh : UInt16) :
    (0 : Int) ≤ load_thresh.toNat ∧ (load_thresh.toNat : Int) ≤ 65535 := by
  have hlt := load_thresh.toNat_lt
  omega

theorem PressureInv.call (hinv : PressureInv foot) (hcfg : ConfigFits cfg) (hcall : CallOn cfg c) :
    PressureInv (foot.call i {} c) := by
  have hmove := footMove_call i {} foot c
  generalize foot.call i {} c = foot' at hmove ⊢
  cases hmove with
  | configure cal params' =>
    obtain ⟨rfl, rfl⟩ := hcall
    exact ⟨hcfg i, hinv.raw, load_le _⟩
  | setThresholds near_thresh touch_thresh load_thresh => exact ⟨hinv.baseline, hinv.raw, load_le _⟩
  | captureBaseline => exact ⟨hinv.raw.baselineFits, hinv.raw, hinv.load⟩
  | setEnabled enabled husable => exact ⟨hinv.baseline, hinv.raw, hinv.load⟩
  | reset =>
    have hzero : SensorRange 0 := ⟨by decide, by decide⟩
    exact ⟨hinv.baseline, hzero, hinv.load⟩
  | fail sample now_ms hok =>
    unfold ContactFoot.failRead
    dsimp only
    split_ifs <;> exact ⟨hinv.baseline, hinv.raw, hinv.load⟩
  | mirror sample now_ms hok hoff => exact ⟨hinv.baseline, hcall hok, hinv.load⟩
  | classify sample now_ms hok hon =>
    exact ⟨trackBaseline_fits rfl hinv.baseline (hcall hok), hcall hok, hinv.load⟩
  | timeout now_ms htimeout =>
    unfold ContactFoot.tickStaleness
    rw [if_pos htimeout]
    exact ⟨hinv.baseline, hinv.raw, hinv.load⟩
  | skip hother => exact hinv

theorem params_callOn (hcall : CallOn cfg c) : ContactParams.call {} c = {} := by
  cases c with
  | configure cal params =>
    obtain ⟨-, rfl⟩ := hcall
    rfl
  | setThresholds leg near_thresh touch_thresh load_thresh => exact ite_self _
  | _ => rfl

theorem params_run (run : PressureRun cfg h m) : m.params = {} := by
  refine run.invariant (fun m => m.params = {}) rfl ?_
  rintro m c m' hparams ⟨hcall, rfl⟩
  rw [params_call, hparams]
  exact params_callOn hcall

theorem pressureInv_run (hcfg : ConfigFits cfg) (run : PressureRun cfg h m) (i : Fin kNumFeet) :
    PressureInv (m.feet.get i) := by
  have hboth : m.params = {} ∧ ∀ i, PressureInv (m.feet.get i) := by
    refine run.invariant (fun m => m.params = {} ∧ ∀ i, PressureInv (m.feet.get i)) ⟨rfl, ?_⟩ ?_
    · intro i
      have hempty : ∀ i, ({} : ContactEstimator).feet.get i = {} := by decide
      have hzero : SensorRange 0 := ⟨by decide, by decide⟩
      show PressureInv ((ContactEstimator.call {} (.configure cfg.feet {})).feet.get i)
      rw [get_call, hempty]
      exact ⟨hcfg i, hzero, load_le _⟩
    · rintro m c m' ⟨hparams, hinv⟩ ⟨hcall, rfl⟩
      rw [params_call, hparams]
      refine ⟨params_callOn hcall, fun i => ?_⟩
      rw [get_call, hparams]
      exact (hinv i).call hcfg hcall
  exact hboth.2 i

/-- In a run under a configuration in range an update of an enabled foot computes what the integers give:
the pressure above the baseline, the baseline that follows it, and the confidence of a loaded foot. -/
theorem pressure_exact (hcfg : ConfigFits cfg) (run : PressureRun cfg h m) (hok : sample.ok = true)
    (hraw : SensorRange sample.pressure_raw) (hfoot : m.feet.get i = foot)
    (henabled : foot.ctx.enabled = true) :
    (foot.update m.params sample now_ms).state.pressure_delta.toInt =
        sample.pressure_raw.toInt - foot.state.pressure_baseline.toInt ∧
      (foot.update m.params sample now_ms).state.pressure_baseline.toInt =
        (trackResults m.params (foot.nextOf m.params sample) sample.pressure_raw
          foot.state.pressure_baseline).headD foot.state.pressure_baseline.toInt ∧
      ((foot.update m.params sample now_ms).state.state = .loaded → 0 < foot.ctx.load_thresh →
        ∃ v : Int32, (foot.update m.params sample now_ms).state.confidence = clampU8 v ∧
          (foot.updateResults m.params sample).getLast? = some v.toInt) := by
  refine update_exact hok henabled ?_
  rw [params_run run, ← hfoot]
  exact (pressureInv_run hcfg run i).fits rfl fun _ => hraw

def restingConfig : RobotConfig :=
  { defaultRobotConfig with
    feet := .replicate _
      { pressure_baseline := 10, near_thresh := 10, touch_thresh := 20, load_thresh := 30, enabled := 1 } }

def firmSample : FootSample := { pressure_raw := 100, ok := true }

/-- A drift that the baseline follows, and then the foot is put down. -/
def footDown : List ContactCall :=
  [.update 0 { pressure_raw := 14, ok := true } 0, .update 0 firmSample 20, .update 0 firmSample 40]

def lighterSample : FootSample := { pressure_raw := 45, ok := true }

theorem run_calls {calls : List ContactCall} (hcalls : ∀ c ∈ calls, CallOn cfg c) (run : PressureRun cfg h m) :
    PressureRun cfg (executeHistory ContactEstimator.call m h calls) (execute ContactEstimator.call m calls) := by
  induction calls generalizing m h with
  | nil => exact run
  | cons c calls ih =>
    obtain ⟨hcall, hlater⟩ := List.forall_mem_cons.mp hcalls
    exact ih hlater (run.step ⟨hcall, rfl⟩)

theorem pressure_exact_footDown :
    let m := execute ContactEstimator.call (ContactEstimator.configure {} restingConfig.feet {}) footDown
    let next := (m.feet.get 0).update m.params lighterSample 60
    (m.feet.get 0).state.pressure_baseline = 12 ∧ next.state.pressure_delta.toInt = 33 ∧
      next.state.pressure_baseline.toInt = 12 ∧
      ∃ v : Int32, next.state.confidence = clampU8 v ∧ v.toInt = 200 + (33 - 30) * 55 / 31 := by
  intro m next
  have hcfg : ConfigFits restingConfig := by
    unfold ConfigFits BaselineFits
    decide
  have hcalls : ∀ c ∈ footDown, CallOn restingConfig c := by
    unfold footDown
    simp only [List.forall_mem_cons]
    exact ⟨fun _ => ⟨by decide, by decide⟩, fun _ => ⟨by decide, by decide⟩,
      fun _ => ⟨by decide, by decide⟩, List.forall_mem_nil _⟩
  have hraw : SensorRange lighterSample.pressure_raw := ⟨by decide, by decide⟩
  obtain ⟨henabled, hbefore, hresults, htrack, hloaded, hthresh⟩ : (m.feet.get 0).ctx.enabled = true ∧
      (m.feet.get 0).state.pressure_baseline = 12 ∧
      ((m.feet.get 0).updateResults m.params lighterSample).getLast? = some 205 ∧
      trackResults m.params ((m.feet.get 0).nextOf m.params lighterSample) 45 12 = [] ∧
      next.state.state = .loaded ∧ 0 < (m.feet.get 0).ctx.load_thresh := by
    decide +kernel
  obtain ⟨hdelta, hbaseline, hconfidence⟩ : next.state.pressure_delta.toInt = _ ∧ _ :=
    pressure_exact hcfg (run_calls hcalls .nil) rfl hraw rfl henabled
  obtain ⟨v, hv, hlast⟩ := hconfidence hloaded hthresh
  rw [hbefore] at hdelta hbaseline
  refine ⟨hbefore, hdelta, hbaseline.trans (congrArg (·.headD 12) htrack), v, hv, ?_⟩
  exact (Option.some.inj (hresults.symm.trans hlast)).symm

/-- Some run under the configuration leaves the foot so. -/
def Reached (cfg : RobotConfig) (i : Fin kNumFeet) (foot : ContactFoot) : Prop :=
  ∃ h m, PressureRun cfg h m ∧ m.feet.get i = foot

theorem Reached.call (hreached : Reached cfg i foot) (hcall : CallOn cfg c) :
    Reached cfg i (foot.call i {} c) := by
  obtain ⟨h, m, run, rfl⟩ := hreached
  refine ⟨_, _, run.step ⟨hcall, rfl⟩, ?_⟩
  rw [get_call, params_run run]

/-- A foot that bears weight, with that load threshold, whose baseline has just been configured. -/
structure LoadedAt (baseline : Int32) (load_thresh : UInt16) (foot : ContactFoot) : Prop where
  state : foot.state.state = .loaded
  enabled : foot.ctx.enabled = true
  load : foot.ctx.load_thresh = load_thresh.toNat
  release : foot.ctx.release_count = 0
  baseline : foot.state.pressure_baseline = baseline

namespace Reached

theorem start (cfg : RobotConfig) (i : Fin kNumFeet) :
    Reached cfg i (ContactFoot.configure {} (cfg.feet.get i) {}) := by
  have hempty : ∀ i, ({} : ContactEstimator).feet.get i = {} := by decide
  refine ⟨[], _, .nil, ?_⟩
  show (ContactEstimator.call {} (.configure cfg.feet {})).feet.get i = _
  rw [get_call, hempty]
  rfl

theorem configure (hreached : Reached cfg i foot) :
    Reached cfg i (foot.configure {} (cfg.feet.get i)) :=
  hreached.call (c := .configure cfg.feet {}) ⟨rfl, rfl⟩

theorem captureBaseline (hreached : Reached cfg i foot) : Reached cfg i foot.captureBaseline := by
  have hcall := hreached.call (c := .captureBaseline i.val) trivial
  unfold ContactFoot.call at hcall
  dsimp only at hcall
  rwa [if_pos rfl] at hcall

theorem update (hreached : Reached cfg i foot) (hraw : SensorRange sample.pressure_raw)
    (now_ms : UInt32) : Reached cfg i (foot.update {} sample now_ms) := by
  have hcall := hreached.call (c := .update i.val sample now_ms) fun _ => hraw
  unfold ContactFoot.call at hcall
  dsimp only at hcall
  rwa [if_pos rfl] at hcall

theorem enable (hreached : Reached cfg i foot) {load_thresh : UInt16} (hload : 1 ≤ load_thresh) :
    Reached cfg i
      { foot.setThresholds {} 0 1 load_thresh with
        ctx := { (foot.setThresholds {} 0 1 load_thresh).ctx with enabled := true } } := by
  have hset := hreached.call (c := .setThresholds i.val 0 1 load_thresh) trivial
  unfold ContactFoot.call at hset
  dsimp only at hset
  rw [if_pos rfl] at hset
  have hon := hset.call (c := .setEnabled i.val true) trivial
  unfold ContactFoot.call at hon
  dsimp only at hon
  rw [if_pos rfl] at hon
  have husable : (foot.setThresholds {} 0 1 load_thresh).setEnabled true =
      ({ foot.setThresholds {} 0 1 load_thresh with
          ctx := { (foot.setThresholds {} 0 1 load_thresh).ctx with enabled := true } }, true) := by
    refine if_neg ?_
    rintro ⟨-, htouch | hzero | horder⟩
    · have hone : ((1 : UInt16).toNat : Int) ≤ 0 := htouch
      cases hone
    · exact absurd (Int.ofNat_le.mp hzero) (Nat.not_le.mpr hload)
    · exact absurd (Int.ofNat_lt.mp horder) (Nat.not_lt.mpr hload)
  rw [ContactParams.guarded, if_neg (by decide), husable] at hon
  exact hon

end Reached

def restedFoot : ContactFoot :=
  { ctx := { near_thresh := 0, touch_thresh := 1, load_thresh := 1, enabled := true } }

theorem reached_rested (cfg : RobotConfig) (i : Fin kNumFeet) : Reached cfg i restedFoot := by
  have hload : (1 : UInt16) ≤ 1 := by decide
  exact (Reached.start cfg i).captureBaseline.enable hload

theorem reached_loaded (cfg : RobotConfig) (i : Fin kNumFeet) :
    ∃ foot, Reached cfg i foot ∧ foot.state.state = .loaded := by
  have hraw : SensorRange firmSample.pressure_raw := ⟨by decide, by decide⟩
  exact ⟨_, ((reached_rested cfg i).update hraw 0).update hraw 0, by decide⟩

theorem reached_loadedAt (cfg : RobotConfig) (i : Fin kNumFeet) {load_thresh : UInt16}
    (hload : 1 ≤ load_thresh) :
    ∃ foot, Reached cfg i foot ∧ LoadedAt (cfg.feet.get i).pressure_baseline load_thresh foot := by
  obtain ⟨foot, hreached, hstate⟩ := reached_loaded cfg i
  exact ⟨_, hreached.configure.enable hload, ⟨hstate, rfl, rfl, rfl, rfl⟩⟩

theorem nextOf_loaded (hstate : foot.state.state = .loaded) (hrelease : foot.ctx.release_count = 0)
    (sample : FootSample) : foot.nextOf {} sample = .loaded := by
  have hcount : ∀ delta near, ¬ (countSample foot.ctx delta near).release_count ≥ 2 := by
    intro delta near
    unfold countSample
    rw [hrelease]
    dsimp only
    split_ifs <;> decide
  unfold ContactFoot.nextOf
  rw [hstate]
  exact if_neg (hcount _ _)

theorem fits_of_noOverflow
    (hnone : ∀ h m, PressureRun cfg h m → ∀ e ∈ h, ∀ i, NoOverflow i e.pre e.label)
    (i : Fin kNumFeet) {load_thresh : UInt16} (hload : 1 ≤ load_thresh) (pressure_raw : Int32)
    (hraw : SensorRange pressure_raw) :
    FitsInt32 ((pressure_raw.toInt - (cfg.feet.get i).pressure_baseline.toInt -
      load_thresh.toNat) * 55) := by
  obtain ⟨foot, ⟨h, m, run, hfoot⟩, hloaded⟩ := reached_loadedAt cfg i hload
  let sample : FootSample := { pressure_raw, ok := true }
  have hcall : CallOn cfg (.update i.val sample 0) := fun _ => hraw
  have hfits := hnone _ _ (run.step ⟨hcall, rfl⟩) _ List.mem_cons_self i rfl
  rw [hfoot, params_run run] at hfits
  unfold ContactFoot.updateResults at hfits
  rw [hloaded.enabled, nextOf_loaded hloaded.state hloaded.release] at hfits
  have hresults : ∀ x ∈ (pressure_raw.toInt - foot.state.pressure_baseline.toInt) ::
      ([] ++ confidenceResults foot.ctx .loaded (foot.delta sample)), FitsInt32 x := hfits
  rw [List.forall_mem_cons, List.nil_append] at hresults
  obtain ⟨hdelta, hconfidence⟩ := hresults
  have hdelta' : (foot.delta sample).toInt =
      pressure_raw.toInt - foot.state.pressure_baseline.toInt := toInt_sub_of_fits hdelta
  unfold confidenceResults at hconfidence
  have hpositive : ¬ foot.ctx.load_thresh ≤ 0 := by
    rw [hloaded.load]
    exact fun hle => absurd (Int.ofNat_le.mp hle) (Nat.not_le.mpr hload)
  rw [if_neg hpositive, hdelta', hloaded.load, hloaded.baseline] at hconfidence
  exact hconfidence _ (List.mem_cons_of_mem _ List.mem_cons_self)

theorem configFits_of_noOverflow
    (hnone : ∀ h m, PressureRun cfg h m → ∀ e ∈ h, ∀ i, NoOverflow i e.pre e.label) :
    ConfigFits cfg := by
  intro i
  have hleast : (1 : UInt16) ≤ 1 := by decide
  have hmost : (1 : UInt16) ≤ 65535 := by decide
  have hlow := fits_of_noOverflow hnone i hleast 8388607 ⟨by decide, by decide⟩
  have hhigh := fits_of_noOverflow hnone i hmost (-8388608) ⟨by decide, by decide⟩
  have hmax : (8388607 : Int32).toInt = 8388607 := rfl
  have hmin : (-8388608 : Int32).toInt = -8388608 := rfl
  have hone : (1 : UInt16).toNat = 1 := rfl
  have hall : (65535 : UInt16).toNat = 65535 := rfl
  rw [hmax, hone] at hlow
  rw [hmin, hall] at hhigh
  unfold FitsInt32 at hlow hhigh
  unfold BaselineFits baselineMin baselineMax
  omega

/-- On raw pressures of the sensor no operation of any run overflows, exactly if the configured baselines
are in range. -/
theorem no_overflow_iff (cfg : RobotConfig) :
    (∀ h m, PressureRun cfg h m → ∀ e ∈ h, ∀ i, NoOverflow i e.pre e.label) ↔ ConfigFits cfg := by
  refine ⟨configFits_of_noOverflow, fun hcfg h m run e he i => ?_⟩
  obtain ⟨⟨hcall, -⟩, earlier, run'⟩ := run.of_mem he
  cases hlabel : e.label with
  | update leg sample now_ms =>
    rw [hlabel] at hcall
    rintro -
    rw [params_run run']
    exact (pressureInv_run hcfg run' i).fits rfl hcall
  | _ => exact trivial

/-- The compiled defaults, with the first foot enabled and the least baseline that the field can hold. -/
def lowBaselineConfig : RobotConfig :=
  { defaultRobotConfig with
    feet := defaultRobotConfig.feet.setIfInBounds 0
      { pressure_baseline := -2147483648, near_thresh := 10, touch_thresh := 20, load_thresh := 30
        enabled := 1 } }

/-- A reading of zero is already too far from that baseline. -/
theorem delta_overflows : ¬ ∀ cfg : RobotConfig, validateRobotConfig cfg = true →
    ∀ h m, PressureRun cfg h m → ∀ e ∈ h, ∀ i, NoOverflow i e.pre e.label := by
  intro hclaim
  have hcall : CallOn lowBaselineConfig (.update 0 { ok := true } 0) :=
    fun _ => ⟨by decide, by decide⟩
  have hfits := hclaim lowBaselineConfig (by decide) _ _ (Run.nil.step ⟨hcall, rfl⟩) _
    List.mem_cons_self 0 rfl
  have hdelta : (2147483648 : Int) ∈ ((ContactEstimator.configure {} lowBaselineConfig.feet {}).feet.get
      0).updateResults (ContactEstimator.configure {} lowBaselineConfig.feet {}).params
        { ok := true } := List.mem_of_head? (by decide)
  exact nomatch hfits _ hdelta

end HexapodVerified.Sensors
