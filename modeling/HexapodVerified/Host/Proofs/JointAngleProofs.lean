import HexapodVerified.Dxl.Proofs.ServoMapProofs
import HexapodVerified.Host.Proofs.RobotConfigProofs
import HexapodVerified.Host.Telemetry
import HexapodVerified.Protocol.Telemetry

/-!
# The angles of the joints, computed twice

The controller sends the angles of the joints, and the host can compute them from the raw positions instead. The
host reads a position without its sign, so that a negative one is taken for the other end of the turn.
-/

namespace HexapodVerified.Host

open HexapodVerified.Protocol Bytes FloatArith

section Records

variable {α β : Type} {size : Nat} {read : List UInt8 → β} {write : α → List UInt8} {value : α → β}

theorem readRecords_flatMap (hsize : ∀ a, (write a).length = size) (hread : ∀ a r, read (write a ++ r) = value a)
    (l : List α) : readRecords size read l.length (l.flatMap write) = l.map value := by
  induction l with
  | nil => rfl
  | cons a l ih =>
    have hlong : ¬ (write a ++ l.flatMap write).length < size := by
      rw [List.length_append, hsize]
      omega
    rw [List.flatMap_cons, List.length_cons, readRecords, if_neg hlong, hread, List.map_cons, ← hsize a,
      List.drop_left, hsize, ih]

/-- Two ways of passing over elements and of computing a value for the others, which pass over the same ones. -/
theorem filterMap_eq_iff {f g : α → Option β} (hsame : ∀ a, (f a).isSome = (g a).isSome) {l : List α} :
    l.filterMap f = l.filterMap g ↔ ∀ a ∈ l, f a = g a := by
  induction l with
  | nil => exact iff_of_true rfl nofun
  | cons a l ih =>
    rw [List.forall_mem_cons, ← ih]
    cases hf : f a with
    | none =>
      have hg : g a = none := by
        rw [← Option.isNone_iff_eq_none, ← Option.not_isSome, ← hsame, hf]
        rfl
      rw [List.filterMap_cons_none hf, List.filterMap_cons_none hg, hg]
      exact (and_iff_right rfl).symm
    | some b =>
      obtain ⟨c, hg⟩ : ∃ c, g a = some c := by
        rw [← Option.isSome_iff_exists, ← hsame, hf]
        rfl
      rw [List.filterMap_cons_some hf, List.filterMap_cons_some hg, hg, List.cons.injEq, Option.some.injEq]

end Records

def hostStatus (s : Dxl.ServoStatus) : ServoStatus where
  id := s.id.toNat
  position := s.present_position.toUInt32.toNat
  velocity := s.present_velocity.toUInt32.toUInt16.toInt16.toInt
  load := s.present_load.toUInt32.toUInt16.toInt16.toInt
  voltage_mv := s.present_voltage_mv.toNat
  temperature_c := s.present_temperature_c.toInt
  hardware_error := s.hardware_error.toNat
  torque_enabled := s.torque_enabled

def hostJoint : UInt8 × UInt8 × UInt16 → JointAngle
  | (leg, joint, angle) => { leg := leg.toNat, joint := joint.toNat, angle_centideg := angle.toInt16.toInt }

theorem length_putServoStatus (s : Dxl.ServoStatus) : (putServoStatus s).length = 14 := rfl

theorem length_putJointState (e : UInt8 × UInt8 × UInt16) : (putJointState e).length = 4 := rfl

theorem readServoStatus_put (s : Dxl.ServoStatus) (r : List UInt8) :
    readServoStatus (putServoStatus s ++ r) = hostStatus s := by
  have hposition : getU32 ((putServoStatus s ++ r).drop 1) = s.present_position.toUInt32 := getU32_putU32 _
  have hvelocity : getU16 ((putServoStatus s ++ r).drop 5) = s.present_velocity.toUInt32.toUInt16 := getU16_putU16 _
  have hload : getU16 ((putServoStatus s ++ r).drop 7) = s.present_load.toUInt32.toUInt16 := getU16_putU16 _
  have hvoltage : getU16 ((putServoStatus s ++ r).drop 9) = s.present_voltage_mv := getU16_putU16 _
  have htorque : ((putServoStatus s ++ r).getD 13 0 != 0) = s.torque_enabled := by
    show ((if s.torque_enabled then (1 : UInt8) else 0) != 0) = s.torque_enabled
    cases s.torque_enabled <;> rfl
  unfold readServoStatus
  rw [hposition, hvelocity, hload, hvoltage, htorque]
  rfl

theorem readJointAngle_put (e : UInt8 × UInt8 × UInt16) (r : List UInt8) :
    readJointAngle (putJointState e ++ r) = hostJoint e := by
  obtain ⟨leg, joint, angle⟩ := e
  have hangle : getU16 ((putJointState (leg, joint, angle) ++ r).drop 2) = angle := getU16_putU16 (r := r) angle
  unfold readJointAngle
  rw [hangle]
  rfl

theorem decodeServoStatus_encode {servos : List Dxl.ServoStatus} (hcount : servos.length < 256) :
    decodeServoStatus (encodeServoStatus servos) = { servos := servos.map hostStatus } := by
  have hlen : (UInt8.ofNat servos.length).toNat = servos.length := UInt8.toNat_ofNat_of_lt' hcount
  show ServoStatusTelemetry.mk
    (readRecords 14 readServoStatus (UInt8.ofNat servos.length).toNat (servos.flatMap putServoStatus)) = _
  rw [hlen, readRecords_flatMap length_putServoStatus readServoStatus_put]

theorem decodeJointState_encode {map : Config.RobotConfig} {servos : List Dxl.ServoStatus}
    (hcount : servos.length < 256) : (decodeJointState (encodeJointState ℝ map servos)).joints =
      servos.filterMap fun s => (jointState ℝ map s).map hostJoint := by
  have hlen : (UInt8.ofNat (servos.filterMap (jointState ℝ map)).length).toNat =
      (servos.filterMap (jointState ℝ map)).length :=
    UInt8.toNat_ofNat_of_lt' (Nat.lt_of_le_of_lt (List.length_filterMap_le ..) hcount)
  show readRecords 4 readJointAngle (UInt8.ofNat (servos.filterMap (jointState ℝ map)).length).toNat
    ((servos.filterMap (jointState ℝ map)).flatMap putJointState) = _
  rw [hlen, readRecords_flatMap length_putJointState readJointAngle_put, List.map_filterMap]

theorem roundAway_exact (x : ℝ) : roundAway x = lround x := by
  have hzero : (lit 0 : ℝ) = 0 := by simp only [lit_exact, Rat.cast_zero]
  have hhalf : (lit 0.5 : ℝ) = 1 / 2 := by
    rw [lit_exact]
    norm_num
  unfold roundAway
  rw [hzero, hhalf]
  by_cases hx : 0 ≤ x
  · rw [if_pos (le_exact.mpr hx), lround_of_nonneg hx]
    exact trunc_intCast _
  · rw [if_neg (mt le_exact.mp hx), lround_of_neg (not_le.mp hx)]
    have hceil : -floor (-(x - 1 / 2)) = ((⌈x - 1 / 2⌉ : ℤ) : ℝ) := by
      show -((⌊-(x - 1 / 2)⌋ : ℤ) : ℝ) = _
      rw [Int.floor_neg, Int.cast_neg, neg_neg]
    rw [hceil, trunc_intCast]

/-- What is sent for so many ticks away from the centre. -/
noncomputable def centideg (ticks : ℤ) : ℤ :=
  max (-32768) (min 32767 (lround (ofInt ticks / Dxl.kTicksPerDeg * lit 100 : ℝ)))

/-- How far from its centre, and in the direction of its sign, a servo is at a tick. -/
def offsetTicks (sc : Config.ServoConfig) (tick : ℤ) : ℤ :=
  sc.sign.toInt * (tick - SERVO_CENTER_TICK - sc.trim_ticks.toInt)

theorem angleCentideg_exact (rad : ℝ) : (angleCentideg rad).toInt16.toInt =
    max (-32768) (min 32767 (lround (rad * Dxl.kRadToDeg * lit 100))) := by
  have hclamp (v : ℤ) : (if (if v > 32767 then 32767 else v) < -32768 then -32768
      else if v > 32767 then 32767 else v) = max (-32768) (min 32767 v) := by
    omega
  unfold angleCentideg
  dsimp only
  rw [hclamp]
  exact Int16.toInt_ofInt_of_le (by omega) (by omega)

theorem degrees_exact (sc : Config.ServoConfig) (tick : ℤ) (scale back ticks : ℝ) (hback : scale * back = 1) :
    ofInt sc.sign.toInt * (ofInt (tick - SERVO_CENTER_TICK - sc.trim_ticks.toInt) / ticks) * scale * back * lit 100 =
      ofInt (offsetTicks sc tick) / ticks * lit 100 := by
  unfold offsetTicks
  simp only [ofInt_exact, Int.cast_mul]
  calc (sc.sign.toInt : ℝ) * (((tick - SERVO_CENTER_TICK - sc.trim_ticks.toInt : ℤ) : ℝ) / ticks) * scale * back *
        lit 100
      = (sc.sign.toInt : ℝ) * (((tick - SERVO_CENTER_TICK - sc.trim_ticks.toInt : ℤ) : ℝ) / ticks) * (scale * back) *
          lit 100 := by ring
    _ = _ := by
      rw [hback]
      ring

def hostTick (position : Int32) : ℤ := max 0 (min SERVO_MAX_TICK position.toUInt32.toNat)

variable {cfg : Config.RobotConfig} {name : String}

theorem jointState_eq (hv : Config.validateRobotConfig cfg = true) (s : Dxl.ServoStatus) :
    (jointState ℝ cfg s).map hostJoint = (Dxl.servoForId cfg s.id).map fun sc =>
      { leg := sc.leg.toNat, joint := sc.joint.toNat
        angle_centideg := centideg (offsetTicks sc (deviceTick s.present_position).toNat) } := by
  unfold jointState
  cases hid : Dxl.servoForId cfg s.id with
  | none => rfl
  | some sc =>
    have hmap := Config.servoMapValid_of_validate hv
    have hslot := Dxl.servoFor_of_mem hmap (Dxl.mem_of_servoForId hid).1
    show some (hostJoint _) = some _
    unfold hostJoint
    dsimp only
    rw [angleCentideg_exact]
    unfold Dxl.tickToAngle centideg
    rw [hslot]
    rw [← degrees_exact sc _ _ _ _ Dxl.kDegToRad_mul_kRadToDeg]
    rfl

theorem hostServo_id (sc : Config.ServoConfig) (id : UInt8) :
    ((hostServo sc).id == (id.toNat : Int)) = (sc.id == id) := by
  rw [Bool.eq_iff_iff, beq_iff_eq, beq_iff_eq, ← UInt8.toNat_inj]
  exact Int.ofNat_inj

theorem servoForId_host (hmap : Config.ServoMapValid cfg) (id : UInt8) :
    servoForId (hostConfig name cfg) id.toNat = (Dxl.servoForId cfg id).map hostServo := by
  unfold servoForId
  cases hid : Dxl.servoForId cfg id with
  | none =>
    refine List.find?_eq_none.mpr fun servo hservo => ?_
    obtain ⟨sc, hsc, rfl⟩ := List.mem_map.mp (List.mem_reverse.mp hservo)
    rw [hostServo_id]
    exact List.find?_eq_none.mp hid sc hsc
  | some sc =>
    obtain ⟨hsc, hscid⟩ := Dxl.mem_of_servoForId hid
    cases hfind : (hostConfig name cfg).servos.reverse.find? fun s => s.id == (id.toNat : Int) with
    | none =>
      have hmem : hostServo sc ∈ (hostConfig name cfg).servos.reverse :=
        List.mem_reverse.mpr (List.mem_map_of_mem hsc)
      have hother := List.find?_eq_none.mp hfind _ hmem
      rw [hostServo_id, beq_iff_eq] at hother
      exact absurd hscid hother
    | some servo =>
      obtain ⟨sc', hsc', rfl⟩ := List.mem_map.mp (List.mem_reverse.mp (List.mem_of_find?_eq_some hfind))
      have hid' := List.find?_some hfind
      rw [hostServo_id, beq_iff_eq] at hid'
      rw [hmap.id_inj sc' hsc' sc hsc (hid'.trans hscid.symm)]
      rfl

theorem jointAngle_eq (hmap : Config.ServoMapValid cfg) (s : Dxl.ServoStatus) :
    jointAngle ℝ (hostConfig name cfg) (hostStatus s) = (Dxl.servoForId cfg s.id).map fun sc =>
      { leg := sc.leg.toNat, joint := sc.joint.toNat
        angle_centideg := centideg (offsetTicks sc (hostTick s.present_position)) } := by
  have hfound : servoForId (hostConfig name cfg) (hostStatus s).id = (Dxl.servoForId cfg s.id).map hostServo :=
    servoForId_host hmap s.id
  have hback : (DEG_TO_RAD : ℝ) * RAD_TO_DEG = 1 := Dxl.kDegToRad_mul_kRadToDeg
  unfold jointAngle
  rw [hfound]
  cases hid : Dxl.servoForId cfg s.id with
  | none => rfl
  | some sc =>
    dsimp only [Option.map_some]
    rw [roundAway_exact]
    unfold tickToAngle centideg
    rw [← degrees_exact sc _ _ _ _ hback]
    rfl

theorem kTicksPerDeg_inv (ticks : ℤ) : (ofInt ticks / Dxl.kTicksPerDeg * lit 100 : ℝ) = 1125 * ticks / 128 := by
  unfold Dxl.kTicksPerDeg
  simp only [lit_exact, ofInt_exact]
  ring

theorem lround_near (ticks : ℤ) :
    |128 * lround (ofInt ticks / Dxl.kTicksPerDeg * lit 100 : ℝ) - 1125 * ticks| ≤ 64 := by
  obtain ⟨hlow, hhigh⟩ := abs_le.mp (abs_lround_sub_le (ofInt ticks / Dxl.kTicksPerDeg * lit 100 : ℝ))
  rw [kTicksPerDeg_inv] at hlow hhigh ⊢
  rw [abs_le]
  constructor
  · have hreal : (-64 : ℝ) ≤ 128 * lround (1125 * (ticks : ℝ) / 128) - 1125 * ticks := by linarith
    exact_mod_cast hreal
  · have hreal : 128 * (lround (1125 * (ticks : ℝ) / 128) : ℝ) - 1125 * ticks ≤ 64 := by linarith
    exact_mod_cast hreal

/-- A whole turn apart, two angles are sent alike when both are past the same limit. -/
theorem centideg_eq_iff {near far : ℤ} (hturn : far = near + 4095) :
    centideg near = centideg far ↔ 3729 ≤ near ∨ far ≤ -3729 := by
  have hnear := abs_le.mp (lround_near near)
  have hfar := abs_le.mp (lround_near far)
  unfold centideg
  omega

/-- The two ends of the turn are sent alike for a servo whose trim takes both past a limit. -/
theorem ends_agree_iff {sc : Config.ServoConfig} (hs : Config.validateServo sc = true) :
    centideg (offsetTicks sc 4095) = centideg (offsetTicks sc 0) ↔
      sc.trim_ticks.toInt ≤ -5777 ∨ 5776 ≤ sc.trim_ticks.toInt := by
  have hcenter : SERVO_CENTER_TICK = 2048 := rfl
  unfold offsetTicks
  rw [hcenter]
  rcases Config.validateServo_sign hs with h | h
  · rw [eq_comm, h, centideg_eq_iff (by omega)]
    omega
  · rw [h, centideg_eq_iff (by omega)]
    omega

theorem deviceTick_eq (position : Int32) : ((deviceTick position).toNat : ℤ) = max 0 (min 4095 position.toInt) := by
  have hmax : Config.kServoMaxTick.toNat = 4095 := rfl
  unfold deviceTick
  rw [hmax]
  rw [Dxl.toNat_ofInt]
  · omega
  · omega
  · omega

theorem unsigned_eq (position : Int32) : (position.toUInt32.toNat : ℤ) =
    if position.toInt < 0 then position.toInt + 4294967296 else position.toInt := by
  have hsigned : position.toInt = position.toBitVec.toInt := rfl
  have hunsigned : position.toUInt32.toNat = position.toBitVec.toNat := rfl
  rw [hsigned, hunsigned, BitVec.toInt_eq_toNat_cond]
  split_ifs <;> omega

theorem hostTick_eq (position : Int32) :
    hostTick position = if position.toInt < 0 then (4095 : ℤ) else (deviceTick position).toNat := by
  have hmax : SERVO_MAX_TICK = 4095 := rfl
  have hlow := position.le_toInt
  unfold hostTick
  rw [deviceTick_eq, unsigned_eq, hmax]
  split_ifs <;> omega

theorem streams_agree_iff (hv : Config.validateRobotConfig cfg = true) {servos : List Dxl.ServoStatus}
    (hcount : servos.length < 256) :
    servoStatusToJointAngles ℝ (hostConfig name cfg) (decodeServoStatus (encodeServoStatus servos)) =
        (decodeJointState (encodeJointState ℝ cfg servos)).joints ↔
      ∀ s ∈ servos, jointAngle ℝ (hostConfig name cfg) (hostStatus s) = (jointState ℝ cfg s).map hostJoint := by
  rw [decodeServoStatus_encode hcount, decodeJointState_encode hcount]
  unfold servoStatusToJointAngles
  rw [List.filterMap_map, filterMap_eq_iff]
  · rfl
  · intro s
    dsimp only [Function.comp_apply]
    rw [jointAngle_eq (Config.servoMapValid_of_validate hv), jointState_eq hv, Option.isSome_map, Option.isSome_map]

theorem servo_agrees_iff (hv : Config.validateRobotConfig cfg = true) (s : Dxl.ServoStatus) :
    jointAngle ℝ (hostConfig name cfg) (hostStatus s) = (jointState ℝ cfg s).map hostJoint ↔
      (s.present_position.toInt < 0 → ∀ sc, Dxl.servoForId cfg s.id = some sc →
        sc.trim_ticks.toInt ≤ -5777 ∨ 5776 ≤ sc.trim_ticks.toInt) := by
  have hmap := Config.servoMapValid_of_validate hv
  rw [jointAngle_eq hmap, jointState_eq hv]
  cases hid : Dxl.servoForId cfg s.id with
  | none => exact iff_of_true rfl fun _ => nofun
  | some sc =>
    have hsane := hmap.sane sc (Dxl.mem_of_servoForId hid).1
    rw [Option.map_some, Option.map_some, Option.some.injEq, JointAngle.mk.injEq, hostTick_eq]
    by_cases hneg : s.present_position.toInt < 0
    · have hlow : ((deviceTick s.present_position).toNat : ℤ) = 0 := by
        rw [deviceTick_eq]
        omega
      rw [if_pos hneg, hlow, ends_agree_iff hsane]
      constructor
      · rintro ⟨-, -, htrim⟩ - sc' hsc'
        rwa [← Option.some.inj hsc']
      · intro htrim
        exact ⟨rfl, rfl, htrim hneg sc rfl⟩
    · rw [if_neg hneg]
      exact iff_of_true ⟨rfl, rfl, rfl⟩ fun h => absurd h hneg

/-- The host computes the angles that the controller sends exactly when every servo with a negative position has a
trim that takes both ends of its turn past a limit. -/
theorem fallback_eq_firmware_iff (cfg : Config.RobotConfig) (hv : Config.validateRobotConfig cfg = true)
    (name : String) (servos : List Dxl.ServoStatus) (hcount : servos.length < 256) :
    servoStatusToJointAngles ℝ (hostConfig name cfg) (decodeServoStatus (encodeServoStatus servos)) =
        (decodeJointState (encodeJointState ℝ cfg servos)).joints ↔
      ∀ s ∈ servos, s.present_position.toInt < 0 → ∀ sc, Dxl.servoForId cfg s.id = some sc →
        sc.trim_ticks.toInt ≤ -5777 ∨ 5776 ≤ sc.trim_ticks.toInt := by
  rw [streams_agree_iff hv hcount]
  exact forall₂_congr fun s _ => servo_agrees_iff hv s

/-- The compiled configuration with a trim on the first servo that takes both ends of its turn past a limit. -/
def trimmedConfig : Config.RobotConfig :=
  { Config.defaultRobotConfig with
    servos := Config.defaultRobotConfig.servos.set 0
      { Config.defaultRobotConfig.servos.get 0 with trim_ticks := 6000 } }

/-- A servo below its turn with such a trim, one above its turn, one in the middle of it, and one that is not in
the map. -/
def someStatus : List Dxl.ServoStatus :=
  [{ id := 1, present_position := -1 }, { id := 2, present_position := 5000 }, { id := 3, present_position := 2048 },
    { id := 200, present_position := -7 }]

theorem fallback_eq_firmware_trimmed :
    servoStatusToJointAngles ℝ (hostConfig "" trimmedConfig) (decodeServoStatus (encodeServoStatus someStatus)) =
      (decodeJointState (encodeJointState ℝ trimmedConfig someStatus)).joints := by
  refine (fallback_eq_firmware_iff _ (by decide +kernel) _ _ (by decide)).mpr ?_
  have htrim : ∀ s ∈ someStatus, s.present_position.toInt < 0 → (Dxl.servoForId trimmedConfig s.id).all
      fun sc => sc.trim_ticks.toInt ≤ -5777 ∨ 5776 ≤ sc.trim_ticks.toInt := by decide +kernel
  intro s hs hneg sc hsc
  have hall := htrim s hs hneg
  rw [hsc] at hall
  exact of_decide_eq_true hall

/-- A servo one tick below its turn: the host takes it for one at the upper end. -/
theorem negative_position_differs : ¬ ∀ (cfg : Config.RobotConfig) (name : String) (servos : List Dxl.ServoStatus),
    Config.validateRobotConfig cfg = true → servos.length ≤ 18 → (servos.map (·.id)).Nodup →
      servoStatusToJointAngles ℝ (hostConfig name cfg) (decodeServoStatus (encodeServoStatus servos)) =
        (decodeJointState (encodeJointState ℝ cfg servos)).joints := by
  intro hclaim
  have hvalid : Config.validateRobotConfig Config.defaultRobotConfig = true := by decide +kernel
  have hequal := hclaim Config.defaultRobotConfig "" [{ id := 1, present_position := -1 }] hvalid (by decide)
    (by decide)
  have hservo := (streams_agree_iff hvalid (by decide)).mp hequal _ (List.mem_singleton_self _)
  obtain ⟨sc, hsc, htrim⟩ : ∃ sc, Dxl.servoForId Config.defaultRobotConfig 1 = some sc ∧ sc.trim_ticks.toInt = 0 :=
    ⟨_, rfl, rfl⟩
  have hpast := (servo_agrees_iff hvalid _).mp hservo (by decide) sc hsc
  omega

end HexapodVerified.Host
