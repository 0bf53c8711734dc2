import HexapodVerified.Config.Proofs.ValidateProofs
import HexapodVerified.Dxl.ServoMap

/-!
# The servo map of a validated configuration

Lookup by slot and by id find the same servos, and `angleToTick` stays in the travel window.
-/

namespace HexapodVerified.Dxl

open HexapodVerified.Config FloatArith

variable {F : Type} [FloatArith F] {cfg : RobotConfig} {s : ServoConfig} {leg joint id : UInt8}

def InWindow (s : ServoConfig) (tick : UInt16) : Prop :=
  s.min_tick.toNat ≤ tick.toNat ∧ tick.toNat ≤ s.max_tick.toNat

theorem toNat_ofInt {x : Int} (h0 : 0 ≤ x) (h1 : x < 65536) :
    ((UInt16.ofInt x).toNat : Int) = x := by
  simp only [UInt16.ofInt, UInt16.toNat_ofNat']
  omega

theorem mem_of_servoFor (hs : servoFor cfg leg joint = some s) :
    s ∈ cfg.servos.toList ∧ s.leg = leg ∧ s.joint = joint := by
  have hat := List.find?_some hs
  rw [Bool.and_eq_true, beq_iff_eq, beq_iff_eq] at hat
  exact ⟨List.mem_of_find?_eq_some hs, hat⟩

theorem mem_of_servoForId (hs : servoForId cfg id = some s) :
    s ∈ cfg.servos.toList ∧ s.id = id := by
  have hat := List.find?_some hs
  rw [beq_iff_eq] at hat
  exact ⟨List.mem_of_find?_eq_some hs, hat⟩

theorem servoFor_of_mem (hv : ServoMapValid cfg) (hs : s ∈ cfg.servos.toList) :
    servoFor cfg s.leg s.joint = some s := by
  cases h : servoFor cfg s.leg s.joint with
  | none =>
    have hno := List.find?_eq_none.mp h s hs
    simp at hno
  | some t =>
    obtain ⟨ht, hleg, hjoint⟩ := mem_of_servoFor h
    rw [hv.slot_inj t ht s hs hleg hjoint]

theorem servoForId_of_mem (hv : ServoMapValid cfg) (hs : s ∈ cfg.servos.toList) :
    servoForId cfg s.id = some s := by
  cases h : servoForId cfg s.id with
  | none =>
    have hno := List.find?_eq_none.mp h s hs
    simp at hno
  | some t =>
    obtain ⟨ht, hid⟩ := mem_of_servoForId h
    rw [hv.id_inj t ht s hs hid]

theorem servoFor_covered (hv : ServoMapValid cfg) (hleg : leg.toNat < kNumLegs)
    (hjoint : joint.toNat < kJointsPerLeg) : ∃ s, servoFor cfg leg joint = some s := by
  obtain ⟨s, hs, hl, hj⟩ := hv.covered _ hleg _ hjoint
  refine ⟨s, ?_⟩
  rw [← UInt8.toNat_inj.mp hl, ← UInt8.toNat_inj.mp hj]
  exact servoFor_of_mem hv hs

theorem servoFor_default : servoFor defaultRobotConfig 0 0 =
    some { id := 1, leg := 0, joint := 0, min_tick := 1024, max_tick := 3072 } := by
  decide

/-- The two clamps are one: the device range holds the travel window. -/
theorem clampTick_tick (hs : validateServo s = true) (raw : Int) :
    ((clampTick s raw).tick.toNat : Int) =
      max (s.min_tick.toNat : Int) (min raw s.max_tick.toNat) := by
  obtain ⟨-, -, hwin, hmax⟩ := validateServo_bounds hs
  have h4095 : kServoMaxTick.toNat = 4095 := rfl
  have hclamp : (clampTick s raw).tick =
      UInt16.ofInt (max (s.min_tick.toNat : Int) (min raw s.max_tick.toNat)) := by
    unfold clampTick
    simp only [h4095]
    congr 1
    split_ifs <;> omega
  rw [hclamp, toNat_ofInt (by omega) (by omega)]

theorem clampTick_inWindow (hs : validateServo s = true) (raw : Int) :
    InWindow s (clampTick s raw).tick := by
  obtain ⟨-, -, hwin, -⟩ := validateServo_bounds hs
  have htick := clampTick_tick hs raw
  constructor <;> omega

/-- `angleToTick` never leaves the travel window of a mapped slot. -/
theorem angleToTick_inWindow (hv : ServoMapValid cfg) (hs : servoFor cfg leg joint = some s)
    (angle : F) : InWindow s (angleToTick cfg leg joint angle).tick := by
  unfold angleToTick
  rw [hs]
  exact clampTick_inWindow (hv.sane s (mem_of_servoFor hs).1) _

/-- A slot leads to a servo whose id leads back, an id to a servo whose slot leads back, and every
configured servo is found both ways. -/
structure SlotsMatchIds (cfg : RobotConfig) : Prop where
  servoFor_total : ∀ leg joint : UInt8, leg.toNat < kNumLegs → joint.toNat < kJointsPerLeg →
    ∃ s, servoFor cfg leg joint = some s ∧ s.leg = leg ∧ s.joint = joint ∧
      servoForId cfg s.id = some s
  servoForId_back : ∀ id s, servoForId cfg id = some s → s.id = id ∧ s.leg.toNat < kNumLegs ∧
    s.joint.toNat < kJointsPerLeg ∧ servoFor cfg s.leg s.joint = some s
  found : ∀ s ∈ cfg.servos.toList, servoFor cfg s.leg s.joint = some s ∧ servoForId cfg s.id = some s

theorem slotsMatchIds (hv : ServoMapValid cfg) : SlotsMatchIds cfg where
  servoFor_total leg joint hleg hjoint := by
    obtain ⟨s, hs⟩ := servoFor_covered hv hleg hjoint
    obtain ⟨hmem, hl, hj⟩ := mem_of_servoFor hs
    exact ⟨s, hs, hl, hj, servoForId_of_mem hv hmem⟩
  servoForId_back id s hs := by
    obtain ⟨hmem, hid⟩ := mem_of_servoForId hs
    obtain ⟨hleg, hjoint, -⟩ := validateServo_bounds (hv.sane s hmem)
    exact ⟨hid, hleg, hjoint, servoFor_of_mem hv hmem⟩
  found s hs := ⟨servoFor_of_mem hv hs, servoForId_of_mem hv hs⟩

def unclampedTick (s : ServoConfig) (angle : F) : Int :=
  kServoCenterTick.toNat + s.trim_ticks.toInt +
    s.sign.toInt * lround (angle * kRadToDeg * kTicksPerDeg)

theorem angleToTick_of_servoFor (hs : servoFor cfg leg joint = some s) (angle : F) :
    angleToTick cfg leg joint angle = clampTick s (unclampedTick s angle) := by
  unfold angleToTick
  rw [hs]
  rfl

/-- The device range never adds a flag of its own. -/
theorem clampTick_clamped_low (hs : validateServo s = true) (raw : Int) :
    (clampTick s raw).clamped_low = true ↔ raw < s.min_tick.toNat := by
  obtain ⟨-, -, hwin, -⟩ := validateServo_bounds hs
  unfold clampTick
  simp only [Bool.or_eq_true, decide_eq_true_eq]
  split_ifs <;> omega

theorem clampTick_clamped_high (hs : validateServo s = true) (raw : Int) :
    (clampTick s raw).clamped_high = true ↔ (s.max_tick.toNat : Int) < raw := by
  obtain ⟨-, -, hwin, hmax⟩ := validateServo_bounds hs
  have h4095 : kServoMaxTick.toNat = 4095 := rfl
  unfold clampTick
  simp only [Bool.or_eq_true, decide_eq_true_eq, h4095]
  split_ifs <;> omega

theorem clampTick_of_inWindow (hs : validateServo s = true) {tick : UInt16} (hw : InWindow s tick) :
    clampTick s tick.toNat = { tick } := by
  obtain ⟨hlo, hhi⟩ := hw
  have htick : (clampTick s tick.toNat).tick = tick := by
    have h := clampTick_tick hs tick.toNat
    rw [← UInt16.toNat_inj]
    omega
  have hlow : (clampTick s tick.toNat).clamped_low = false := by
    rw [← Bool.not_eq_true, clampTick_clamped_low hs]
    omega
  have hhigh : (clampTick s tick.toNat).clamped_high = false := by
    rw [← Bool.not_eq_true, clampTick_clamped_high hs]
    omega
  have hmapped : (clampTick s tick.toNat).unmapped = false := rfl
  cases hc : clampTick s tick.toNat with
  | mk t low high un =>
    rw [hc] at htick hlow hhigh hmapped
    simp only at htick hlow hhigh hmapped
    rw [htick, hlow, hhigh, hmapped]

theorem kTicksPerDeg_pos : (0 : ℝ) < kTicksPerDeg := by
  unfold kTicksPerDeg
  rw [lit_exact, lit_exact]
  norm_num

theorem kRadToDeg_pos : (0 : ℝ) < kRadToDeg := by
  unfold kRadToDeg
  rw [lit_exact, lit_exact]
  norm_num

theorem kDegToRad_mul_kRadToDeg : (kDegToRad : ℝ) * kRadToDeg = 1 := by
  unfold kDegToRad kRadToDeg
  simp only [lit_exact]
  norm_num

theorem sign_mul_lround (hs : validateServo s = true) (x : ℝ) :
    s.sign.toInt * lround x = lround (s.sign.toInt * x) := by
  rcases validateServo_sign hs with h | h
  · rw [h, one_mul, Int.cast_one, one_mul]
  · rw [h, Int.cast_neg, Int.cast_one, neg_one_mul, neg_one_mul, lround_neg]

theorem unclampedTick_mono (hs : validateServo s = true) {a b : ℝ}
    (hab : (s.sign.toInt : ℝ) * a ≤ s.sign.toInt * b) : unclampedTick s a ≤ unclampedTick s b := by
  have hscale : (s.sign.toInt : ℝ) * (a * kRadToDeg * kTicksPerDeg) ≤
      s.sign.toInt * (b * kRadToDeg * kTicksPerDeg) := by
    have hpos := mul_pos kRadToDeg_pos kTicksPerDeg_pos
    calc (s.sign.toInt : ℝ) * (a * kRadToDeg * kTicksPerDeg)
        = s.sign.toInt * a * (kRadToDeg * kTicksPerDeg) := by ring
      _ ≤ s.sign.toInt * b * (kRadToDeg * kTicksPerDeg) :=
          mul_le_mul_of_nonneg_right hab hpos.le
      _ = s.sign.toInt * (b * kRadToDeg * kTicksPerDeg) := by ring
  unfold unclampedTick
  rw [sign_mul_lround hs, sign_mul_lround hs]
  have hround := lround_mono hscale
  omega

theorem unclampedTick_tickToAngle (hs : validateServo s = true)
    (hslot : servoFor cfg leg joint = some s) (tick : UInt16) :
    unclampedTick s (tickToAngle cfg leg joint tick : ℝ) = tick.toNat := by
  have hangle : (tickToAngle cfg leg joint tick : ℝ) * kRadToDeg * kTicksPerDeg =
      ((s.sign.toInt * (tick.toNat - kServoCenterTick.toNat - s.trim_ticks.toInt) : ℤ) : ℝ) := by
    have hne := kTicksPerDeg_pos.ne'
    unfold tickToAngle
    rw [hslot]
    simp only [ofInt_exact]
    calc (s.sign.toInt : ℝ) *
          (((tick.toNat - kServoCenterTick.toNat - s.trim_ticks.toInt : ℤ) : ℝ) / kTicksPerDeg) *
            kDegToRad * kRadToDeg * kTicksPerDeg
        = s.sign.toInt *
            ((tick.toNat - kServoCenterTick.toNat - s.trim_ticks.toInt : ℤ) : ℝ) *
              (kDegToRad * kRadToDeg) := by field_simp
      _ = _ := by rw [kDegToRad_mul_kRadToDeg, mul_one, Int.cast_mul]
  unfold unclampedTick
  rw [hangle, lround_intCast]
  rcases validateServo_sign hs with h | h <;> rw [h] <;> ring

/-- What `angleToTick` and `tickToAngle` do for the servo of a slot, in exact arithmetic. -/
structure TickConversion (cfg : RobotConfig) (leg joint : UInt8) (s : ServoConfig) : Prop where
  inWindow : ∀ angle : ℝ, InWindow s (angleToTick cfg leg joint angle).tick
  clamped_low : ∀ angle : ℝ, (angleToTick cfg leg joint angle).clamped_low = true ↔
    unclampedTick s angle < s.min_tick.toNat
  clamped_high : ∀ angle : ℝ, (angleToTick cfg leg joint angle).clamped_high = true ↔
    (s.max_tick.toNat : Int) < unclampedTick s angle
  monotone : ∀ a b : ℝ, (s.sign.toInt : ℝ) * a ≤ s.sign.toInt * b →
    (angleToTick cfg leg joint a).tick ≤ (angleToTick cfg leg joint b).tick
  round_trip : ∀ tick, InWindow s tick →
    angleToTick cfg leg joint (tickToAngle cfg leg joint tick : ℝ) = { tick }

theorem tickConversion (hv : ServoMapValid cfg) (hslot : servoFor cfg leg joint = some s) :
    TickConversion cfg leg joint s where
  inWindow := angleToTick_inWindow hv hslot
  clamped_low angle := by
    rw [angleToTick_of_servoFor hslot]
    exact clampTick_clamped_low (hv.sane s (mem_of_servoFor hslot).1) _
  clamped_high angle := by
    rw [angleToTick_of_servoFor hslot]
    exact clampTick_clamped_high (hv.sane s (mem_of_servoFor hslot).1) _
  monotone a b hab := by
    have hs := hv.sane s (mem_of_servoFor hslot).1
    have hraw := unclampedTick_mono hs hab
    have ha := clampTick_tick hs (unclampedTick s a)
    have hb := clampTick_tick hs (unclampedTick s b)
    rw [angleToTick_of_servoFor hslot, angleToTick_of_servoFor hslot, UInt16.le_iff_toNat_le]
    omega
  round_trip tick hw := by
    have hs := hv.sane s (mem_of_servoFor hslot).1
    rw [angleToTick_of_servoFor hslot, unclampedTick_tickToAngle hs hslot]
    exact clampTick_of_inWindow hs hw

/-- In a validated configuration the slots and the ids name the same servos, and each servo converts
angles and ticks into each other. -/
theorem servoMap_of_validate (hv : validateRobotConfig cfg = true) :
    SlotsMatchIds cfg ∧
    ∀ leg joint s, servoFor cfg leg joint = some s → TickConversion cfg leg joint s :=
  ⟨slotsMatchIds (servoMapValid_of_validate hv),
    fun _ _ _ hslot => tickConversion (servoMapValid_of_validate hv) hslot⟩

theorem servoMap_of_validate_default : SlotsMatchIds defaultRobotConfig ∧
    TickConversion defaultRobotConfig 0 0
      { id := 1, leg := 0, joint := 0, min_tick := 1024, max_tick := 3072 } :=
  ⟨(servoMap_of_validate validate_defaultRobotConfig).1,
    (servoMap_of_validate validate_defaultRobotConfig).2 0 0 _ servoFor_default⟩

end HexapodVerified.Dxl
