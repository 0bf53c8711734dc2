import Mathlib.Order.Interval.Finset.Nat
import HexapodVerified.Config.ConfigSchema
import HexapodVerified.Lib.Checks

/-!
# What validation establishes

The servo loop of `validateRobotConfig` checks each servo against those before it and ends with a
coverage check. `ServoMapValid` is what a configuration that passed it satisfies.
-/

namespace HexapodVerified.Config

open Checks

/-- Two servos share neither their slot nor their bus id. -/
def Distinct (s t : ServoConfig) : Prop :=
  ¬ (t.leg = s.leg ∧ t.joint = s.joint) ∧ t.id ≠ s.id

theorem validateServos_spec {seen l : List ServoConfig} (hv : validateServos seen l = true) :
    (∀ s ∈ l, validateServo s = true) ∧ l.Pairwise (fun s t => Distinct t s) ∧
      (∀ s ∈ l, ∀ t ∈ seen, Distinct s t) ∧
      ∀ leg < kNumLegs, ∀ joint < kJointsPerLeg, ∃ s, (s ∈ l ∨ s ∈ seen) ∧ s.leg.toNat = leg ∧
        s.joint.toNat = joint := by
  induction l generalizing seen with
  | nil =>
    refine ⟨by simp, .nil, by simp, fun leg hleg joint hjoint => ?_⟩
    have hrow := List.all_eq_true.mp hv leg (List.mem_range.mpr hleg)
    have hslot := List.all_eq_true.mp hrow joint (List.mem_range.mpr hjoint)
    obtain ⟨s, hs, hat⟩ := List.any_eq_true.mp hslot
    rw [Bool.and_eq_true, beq_iff_eq, beq_iff_eq] at hat
    exact ⟨s, .inr hs, hat⟩
  | cons s rest ih =>
    unfold validateServos at hv
    split_ifs at hv with h1 h2 h3
    obtain ⟨hok, hpair, hseen, hcover⟩ := ih hv
    have hs : validateServo s = true := by simpa using h1
    have hdist : ∀ t ∈ seen, Distinct s t := by
      intro t ht
      refine ⟨fun hslot => h2 ?_, fun hid => h3 ?_⟩
      · exact List.any_eq_true.mpr ⟨t, ht, by simpa using hslot⟩
      · exact List.any_eq_true.mpr ⟨t, ht, by simpa using hid⟩
    refine ⟨?_, ?_, ?_, ?_⟩
    · intro t ht
      rcases List.mem_cons.mp ht with rfl | ht
      · exact hs
      · exact hok t ht
    · exact .cons (fun t ht => hseen t ht s (List.mem_cons_self ..)) hpair
    · intro t ht u hu
      rcases List.mem_cons.mp ht with rfl | ht
      · exact hdist u hu
      · exact hseen t ht u (List.mem_cons_of_mem _ hu)
    · intro leg hleg joint hjoint
      obtain ⟨t, ht, hat⟩ := hcover leg hleg joint hjoint
      refine ⟨t, ?_, hat⟩
      rcases ht with ht | ht
      · exact .inl (List.mem_cons_of_mem _ ht)
      · rcases List.mem_cons.mp ht with rfl | ht
        · exact .inl (List.mem_cons_self ..)
        · exact .inr ht

/-- The servo map of a configuration: every servo is sane, a slot or an id determines the servo, and
every slot has one. -/
structure ServoMapValid (cfg : RobotConfig) : Prop where
  sane : ∀ s ∈ cfg.servos.toList, validateServo s = true
  slot_inj : ∀ s ∈ cfg.servos.toList, ∀ t ∈ cfg.servos.toList, s.leg = t.leg → s.joint = t.joint →
    s = t
  id_inj : ∀ s ∈ cfg.servos.toList, ∀ t ∈ cfg.servos.toList, s.id = t.id → s = t
  covered : ∀ leg < kNumLegs, ∀ joint < kJointsPerLeg, ∃ s ∈ cfg.servos.toList,
    s.leg.toNat = leg ∧ s.joint.toNat = joint

/-- In a list without repetition of slots or ids, a servo is determined by either. -/
theorem eq_of_not_distinct {l : List ServoConfig} (hl : l.Pairwise (fun s t => Distinct t s))
    {s t : ServoConfig} (hs : s ∈ l) (ht : t ∈ l)
    (hst : ¬ Distinct s t) (hts : ¬ Distinct t s) : s = t := by
  induction l with
  | nil => cases hs
  | cons a l ih =>
    obtain ⟨ha, hl'⟩ := List.pairwise_cons.mp hl
    rcases List.mem_cons.mp hs with hsa | hs'
    · rcases List.mem_cons.mp ht with hta | ht'
      · rw [hsa, hta]
      · exact absurd (hsa ▸ ha t ht') hts
    · rcases List.mem_cons.mp ht with hta | ht'
      · exact absurd (hta ▸ ha s hs') hst
      · exact ih hl' hs' ht'

theorem servoMapValid_of_validate {cfg : RobotConfig} (hv : validateRobotConfig cfg = true) :
    ServoMapValid cfg := by
  have hservos : validateServos [] cfg.servos.toList = true := by
    by_contra hno
    have hfalse : validateServos [] cfg.servos.toList = false := eq_false_of_ne_true hno
    unfold validateRobotConfig at hv
    simp only [hfalse, Bool.not_false, if_true, ite_self, Bool.false_eq_true] at hv
  obtain ⟨hok, hpair, -, hcover⟩ := validateServos_spec hservos
  refine ⟨hok, ?_, ?_, ?_⟩
  · intro s hs t ht hleg hjoint
    exact eq_of_not_distinct hpair hs ht (fun h => h.1 ⟨hleg.symm, hjoint.symm⟩)
      (fun h => h.1 ⟨hleg, hjoint⟩)
  · intro s hs t ht hid
    exact eq_of_not_distinct hpair hs ht (fun h => h.2 hid.symm) (fun h => h.2 hid)
  · intro leg hleg joint hjoint
    obtain ⟨s, hs | hs, hat⟩ := hcover leg hleg joint hjoint
    · exact ⟨s, hs, hat⟩
    · cases hs

theorem validateFoot_of_validate {cfg : RobotConfig} (hv : validateRobotConfig cfg = true)
    (i : Fin kNumFootSensors) : validateFoot (cfg.feet.get i) = true := by
  have hfeet : cfg.feet.toList.all validateFoot = true := by
    by_contra hno
    have hfalse : cfg.feet.toList.all validateFoot = false := eq_false_of_ne_true hno
    unfold validateRobotConfig at hv
    simp only [hfalse, ite_self, Bool.false_eq_true] at hv
  exact List.all_eq_true.mp hfeet _ (Vector.mem_toList_iff.mpr (Vector.getElem_mem i.isLt))

theorem validateFoot_thresholds {c : FootSensorCal} (hc : validateFoot c = true)
    (henabled : c.enabled ≠ 0) : 0 < c.touch_thresh.toNat ∧ c.touch_thresh ≤ c.load_thresh := by
  unfold validateFoot at hc
  rw [if_neg (by rwa [beq_iff_eq])] at hc
  split_ifs at hc with hzero
  rw [Bool.or_eq_true, Bool.or_eq_true, not_or, not_or] at hzero
  refine ⟨Nat.pos_of_ne_zero fun htouch => hzero.1.2 (beq_iff_eq.mpr (UInt16.toNat_inj.mp htouch)), ?_⟩
  rw [Bool.not_eq_true', decide_eq_false_iff_not, UInt16.not_lt] at hc
  exact hc

theorem lengths_of_validate {cfg : RobotConfig} (hv : validateRobotConfig cfg = true) :
    cfg.links.femur_cmm ≠ 0 ∧ cfg.links.tibia_cmm ≠ 0 ∧ cfg.geometry.home_radius_cmm ≠ 0 := by
  unfold validateRobotConfig at hv
  simp only [Bool.if_false_left, Bool.and_eq_true, Bool.not_eq_true', decide_eq_false_iff_not,
    Bool.or_eq_true, not_or, beq_iff_eq] at hv
  exact ⟨hv.2.1.1.2, hv.2.1.2, hv.2.2.1⟩

theorem validateServo_bounds {s : ServoConfig} (hs : validateServo s = true) :
    s.leg.toNat < kNumLegs ∧ s.joint.toNat < kJointsPerLeg ∧ s.min_tick.toNat < s.max_tick.toNat ∧
      s.max_tick.toNat ≤ 4095 := by
  simp only [validateServo, Bool.not_eq_true', Bool.or_eq_false_iff, decide_eq_false_iff_not,
    ge_iff_le, gt_iff_lt, UInt8.le_iff_toNat_le, UInt16.le_iff_toNat_le,
    UInt16.lt_iff_toNat_lt] at hs
  have h6 : (6 : UInt8).toNat = 6 := rfl
  have h3 : (3 : UInt8).toNat = 3 := rfl
  have h4095 : kServoMaxTick.toNat = 4095 := rfl
  refine ⟨?_, ?_, ?_, ?_⟩
  · show s.leg.toNat < 6
    omega
  · show s.joint.toNat < 3
    omega
  · omega
  · omega

theorem validateServo_sign {s : ServoConfig} (hs : validateServo s = true) :
    s.sign.toInt = 1 ∨ s.sign.toInt = -1 := by
  simp only [validateServo, Bool.not_eq_true', Bool.or_eq_false_iff, Bool.and_eq_false_iff,
    bne_eq_false_iff_eq] at hs
  obtain ⟨⟨⟨-, hsign⟩, -⟩, -⟩ := hs
  rcases hsign with h | h
  · rw [h]
    exact .inl rfl
  · rw [h]
    exact .inr rfl

theorem validateRcChannels_iff {seen : List UInt8} {channels : List RcChannelCalibration} :
    validateRcChannels seen channels = true ↔
      (∀ c ∈ channels, (1 ≤ c.source.toNat ∧ c.source.toNat ≤ 8) ∧
        validateRcChannel c = true) ∧ Fresh (·.source) seen.toFinset channels := by
  induction channels generalizing seen with
  | nil => exact iff_of_true rfl ⟨nofun, fresh_nil⟩
  | cons c rest ih =>
    have hsource : (c.source == 0 || decide (c.source > 8)) = true ↔
        ¬ (1 ≤ c.source.toNat ∧ c.source.toNat ≤ 8) := by
      have h0 : (0 : UInt8).toNat = 0 := rfl
      have h8 : (8 : UInt8).toNat = 8 := rfl
      rw [Bool.or_eq_true, beq_iff_eq, decide_eq_true_eq, ← UInt8.toNat_inj, gt_iff_lt,
        UInt8.lt_iff_toNat_lt, h0, h8]
      omega
    have hseen : seen.contains c.source = true ↔ c.source ∈ seen.toFinset := by
      rw [List.contains_iff_mem, List.mem_toFinset]
    unfold validateRcChannels
    rw [Bool.if_false_left, Bool.if_false_left, List.forall_mem_cons, fresh_cons]
    simp only [Bool.and_eq_true, Bool.not_eq_true', decide_eq_false_iff_not, hsource, not_not, hseen, ih,
      List.toFinset_cons]
    tauto

theorem mem_rcSources {calibration : RcInputCalibration}
    (hv : validateRcInputCalibration calibration = true) {source : UInt8}
    (hsource : 1 ≤ source.toNat ∧ source.toNat ≤ 8) :
    source ∈ calibration.channels.toList.map (·.source) := by
  obtain ⟨hchannels, hfresh⟩ := validateRcChannels_iff.mp hv
  have hinj : Function.Injective UInt8.toNat := fun _ _ h => UInt8.toNat_inj.mp h
  have hall : ((calibration.channels.toList.map (·.source)).map UInt8.toNat).toFinset =
      Finset.Icc 1 8 := by
    refine toFinset_eq_of_nodup ((List.nodup_map_iff hinj).mpr hfresh.1) ?_ ?_
    · intro n hn
      rw [List.map_map] at hn
      obtain ⟨c, hc, rfl⟩ := List.mem_map.mp hn
      exact Finset.mem_Icc.mpr (hchannels c hc).1
    · rw [List.length_map, List.length_map, Vector.length_toList]
      decide
  have hmem : source.toNat ∈ ((calibration.channels.toList.map (·.source)).map UInt8.toNat) := by
    rw [← List.mem_toFinset, hall]
    exact Finset.mem_Icc.mpr hsource
  obtain ⟨s, hs, heq⟩ := List.mem_map.mp hmem
  exact hinj heq ▸ hs

structure RcChannelValid (c : RcChannelCalibration) : Prop where
  source : 1 ≤ c.source.toNat ∧ c.source.toNat ≤ 8
  range : c.min_raw.toInt < c.max_raw.toInt
  center : c.min_raw.toInt ≤ c.center_raw.toInt ∧ c.center_raw.toInt ≤ c.max_raw.toInt
  gimbal : c.source.toNat ≤ 4 → c.type = rcCenteredAnalog ∧
    c.min_raw.toInt < c.center_raw.toInt ∧ c.center_raw.toInt < c.max_raw.toInt
  knob : 5 ≤ c.source.toNat → c.source.toNat ≤ 6 → c.type = rcUnipolarAnalog
  encoder : 7 ≤ c.source.toNat → c.type = rcRelativeEncoder

theorem rcChannelValid_of_validate {c : RcChannelCalibration}
    (hsource : 1 ≤ c.source.toNat ∧ c.source.toNat ≤ 8) (hc : validateRcChannel c = true) :
    RcChannelValid c := by
  have hindex : (c.source - 1).toNat = c.source.toNat - 1 :=
    UInt8.toNat_sub_of_le _ _ (UInt8.le_iff_toNat_le.mpr hsource.1)
  have h4 : (4 : UInt8).toNat = 4 := rfl
  have h6 : (6 : UInt8).toNat = 6 := rfl
  unfold validateRcChannel at hc
  simp only [Bool.if_true_right, Bool.if_false_left, Bool.and_eq_true, Bool.not_eq_true',
    Bool.or_eq_true, Bool.or_false, decide_eq_true_eq, decide_eq_false_iff_not, bne_iff_ne,
    beq_iff_eq, not_or, ge_iff_le, gt_iff_lt, UInt8.lt_iff_toNat_lt, UInt8.le_iff_toNat_le,
    Int16.lt_iff_toInt_lt, Int16.le_iff_toInt_le, ← Int16.toInt_inj, hindex, h4, h6] at hc
  obtain ⟨⟨⟨⟨-, hrange⟩, hlow⟩, hhigh⟩, hgimbal, hknob, hencoder, hstrict⟩ := hc
  have hcentered : c.source.toNat ≤ 4 → c.type = rcCenteredAnalog := fun hs => by
    by_contra hne
    exact hgimbal ⟨by omega, hne⟩
  refine ⟨hsource, by omega, by omega, fun hs => ?_, fun hlo hhi => ?_, fun hs => ?_⟩
  · have hne : c.center_raw.toInt ≠ c.min_raw.toInt ∧ c.center_raw.toInt ≠ c.max_raw.toInt :=
      ⟨fun h => hstrict ⟨hcentered hs, .inl h⟩, fun h => hstrict ⟨hcentered hs, .inr h⟩⟩
    exact ⟨hcentered hs, by omega, by omega⟩
  · by_contra hne
    exact hknob ⟨⟨by omega, by omega⟩, hne⟩
  · by_contra hne
    exact hencoder ⟨by omega, hne⟩

end HexapodVerified.Config
