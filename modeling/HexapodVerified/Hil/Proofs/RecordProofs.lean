import HexapodVerified.Config.Proofs.CodecProofs
import HexapodVerified.Hil.TraceRecorder

/-!
# What can be told from a record

Two inputs with the same records agree in every field that is written. The fields that are not written are
named by the statements: each says that the second value is the first one with these fields replaced.
-/

namespace HexapodVerified.Hil

open HexapodVerified.Config HexapodVerified.Controller Codec

variable {s t : List UInt8}

/-! ## Parts that are written whole -/

theorem delimited_u8 : Delimited putU8 := law_u8.delimited

theorem delimited_i8 : Delimited putI8 := law_i8.delimited

theorem delimited_u16 : Delimited Bytes.putU16 := law_u16.delimited

theorem delimited_i16 : Delimited putI16 := law_i16.delimited

theorem delimited_u32 : Delimited Bytes.putU32 := law_u32.delimited

theorem delimited_i32 : Delimited putI32 := law_i32.delimited

theorem delimited_validity : Delimited (putEnum SnapshotValidity.all) :=
  delimited_enum (fun v => by cases v <;> decide) (by decide)

theorem delimited_controlMode : Delimited (putEnum allControlModes) :=
  delimited_enum (fun v => by cases v <;> decide) (by decide)

theorem delimited_maintControlMode : Delimited (putEnum allMaintControlModes) :=
  delimited_enum (fun v => by cases v <;> decide) (by decide)

theorem delimited_trick : Delimited (putEnum Input.allTricks) :=
  delimited_enum (fun v => by cases v <;> decide) (by decide)

theorem delimited_contactState : Delimited (putEnum Sensors.ContactState.all) :=
  delimited_enum (fun v => by cases v <;> decide) (by decide)

theorem servoCount_injective :
    Function.Injective fun count : Fin (kNumServos + 1) => UInt8.ofNat count := by
  intro a b hab
  have hlt (c : Fin (kNumServos + 1)) : (c : Nat) < 256 := Nat.lt_of_lt_of_le c.isLt (by decide)
  have hnat := congrArg UInt8.toNat hab
  rw [UInt8.toNat_ofNat', UInt8.toNat_ofNat', Nat.mod_eq_of_lt (hlt a), Nat.mod_eq_of_lt (hlt b)]
    at hnat
  exact Fin.ext hnat

theorem delimited_servo : Delimited writeServo := by
  intro a b s t heq
  cases a
  cases b
  unfold writeServo at heq
  simp only [List.append_assoc, delimited_u8.append_iff, delimited_i8.append_iff,
    delimited_u16.append_iff, delimited_i32.append_iff, delimited_bool.append_iff] at heq
  obtain ⟨rfl, rfl, rfl, rfl, rfl, rfl, rfl, rfl, rfl, hst⟩ := heq
  exact ⟨rfl, hst⟩

theorem delimited_foot : Delimited writeFoot := by
  intro a b s t heq
  cases a
  cases b
  unfold writeFoot at heq
  simp only [List.append_assoc, delimited_u8.append_iff, delimited_u16.append_iff,
    delimited_u32.append_iff, delimited_i32.append_iff, delimited_bool.append_iff,
    delimited_contactState.append_iff] at heq
  obtain ⟨rfl, rfl, rfl, rfl, rfl, rfl, rfl, rfl, rfl, rfl, rfl, rfl, rfl, hst⟩ := heq
  exact ⟨rfl, hst⟩

theorem delimited_footTarget : Delimited writeFootTarget := by
  intro a b s t heq
  cases a
  cases b
  unfold writeFootTarget at heq
  simp only [List.append_assoc, delimited_i16.append_iff, delimited_bool.append_iff] at heq
  obtain ⟨rfl, rfl, rfl, rfl, rfl, rfl, hst⟩ := heq
  exact ⟨rfl, hst⟩

theorem delimited_motion : Delimited writeMotionIntent := by
  intro a b s t heq
  cases a
  cases b
  unfold writeMotionIntent at heq
  simp only [List.append_assoc, delimited_u8.append_iff, delimited_u16.append_iff,
    delimited_u32.append_iff] at heq
  obtain ⟨rfl, rfl, rfl, rfl, rfl, rfl, rfl, rfl, rfl, rfl, rfl, rfl, rfl, rfl, rfl, rfl, hst⟩ := heq
  exact ⟨rfl, hst⟩

theorem writeJoints_inj {α : Type} {put : α → List UInt8} (hput : Delimited put)
    {field : MaintTarget → α} {joints joints' : Protocol.JointTable}
    (heq : writeJoints put field joints ++ s = writeJoints put field joints' ++ t) :
    joints.map (·.map field) = joints'.map (·.map field) ∧ s = t := by
  have hmap (joints : Protocol.JointTable) : writeJoints put field joints =
      putVector (putVector put) (joints.map (·.map field)) := by
    unfold writeJoints putVector
    simp [List.flatMap_map, Vector.toList_map]
  rw [hmap, hmap] at heq
  exact hput.vector.vector heq

theorem joints_eq {joints joints' : Protocol.JointTable}
    (htick : joints.map (·.map (·.tick)) = joints'.map (·.map (·.tick)))
    (hset : joints.map (·.map (·.set)) = joints'.map (·.map (·.set)))
    (hclamped : joints.map (·.map (·.clamped)) = joints'.map (·.map (·.clamped))) :
    joints = joints' := by
  have hentry {α : Type} {field : MaintTarget → α} {leg joint : Nat} (hl : leg < kNumLegs)
      (hj : joint < kJointsPerLeg)
      (h : joints.map (·.map field) = joints'.map (·.map field)) :
      field joints[leg][joint] = field joints'[leg][joint] := by
    have hrow : (joints.map (·.map field))[leg][joint] = (joints'.map (·.map field))[leg][joint] := by
      rw [h]
    simpa using hrow
  refine Vector.ext fun leg hl => Vector.ext fun joint hj => ?_
  have h₁ := hentry hl hj htick
  have h₂ := hentry hl hj hset
  have h₃ := hentry hl hj hclamped
  revert h₁ h₂ h₃
  cases joints[leg][joint]
  cases joints'[leg][joint]
  rintro rfl rfl rfl
  rfl

theorem writeMaintenanceIntent_inj {intent intent' : MaintenanceIntent}
    (heq : writeMaintenanceIntent intent ++ s = writeMaintenanceIntent intent' ++ t) :
    intent' = { intent with recovery_lock := intent'.recovery_lock } ∧ s = t := by
  obtain ⟨held', recovery', token', mode', seq', joints', feet'⟩ := intent'
  unfold writeMaintenanceIntent at heq
  simp only [List.append_assoc, delimited_u32.append_iff, delimited_bool.append_iff,
    delimited_maintControlMode.append_iff] at heq
  obtain ⟨rfl, rfl, rfl, rfl, htables⟩ := heq
  obtain ⟨htick, htables⟩ := writeJoints_inj delimited_u16 htables
  obtain ⟨hset, htables⟩ := writeJoints_inj delimited_bool htables
  obtain ⟨hclamped, htables⟩ := writeJoints_inj delimited_bool htables
  obtain ⟨rfl, hst⟩ := delimited_footTarget.vector htables
  obtain rfl := joints_eq htick hset hclamped
  exact ⟨rfl, hst⟩

/-- A command with the fields that are not written taken from another one. -/
def unwrittenFrom (command other : Input.ControllerCommand UInt32) : Input.ControllerCommand UInt32 :=
  { command with
    duty := other.duty
    gait_tune_active := other.gait_tune_active
    gait_tune_param := other.gait_tune_param
    gait_tune_edit_seq := other.gait_tune_edit_seq
    gait_tune_last_edit_ms := other.gait_tune_last_edit_ms
    gait_tune_save_seq := other.gait_tune_save_seq
    capture_toggle_seq := other.capture_toggle_seq
    capture_start_seq := other.capture_start_seq }

theorem writeControllerCommand_inj {command command' : Input.ControllerCommand UInt32}
    (heq : writeControllerCommand command ++ s = writeControllerCommand command' ++ t) :
    command' = unwrittenFrom command command' ∧ s = t := by
  obtain ⟨⟨⟩⟩ := command'
  unfold writeControllerCommand at heq
  simp only [List.append_assoc, delimited_u8.append_iff, delimited_u32.append_iff,
    delimited_bool.append_iff, delimited_controlMode.append_iff, delimited_trick.append_iff] at heq
  obtain ⟨rfl, rfl, rfl, rfl, rfl, rfl, rfl, rfl, rfl, rfl, rfl, rfl, rfl, rfl, rfl, rfl, rfl, rfl,
    rfl, rfl, rfl, rfl, rfl, rfl, rfl, rfl, rfl, rfl, hst⟩ := heq
  exact ⟨rfl, hst⟩

theorem writeRobotState_inj {state state' : RobotState}
    (heq : writeRobotState state ++ s = writeRobotState state' ++ t) :
    state' = { state with dxl.arming_ready := state'.dxl.arming_ready } ∧ s = t := by
  obtain ⟨⟨⟨⟩⟩, ⟨⟩, ⟨⟩⟩ := state'
  unfold writeRobotState at heq
  simp only [List.append_assoc, delimited_u8.append_iff, delimited_u16.append_iff,
    delimited_u32.append_iff, delimited_bool.append_iff, delimited_validity.append_iff,
    delimited_servo.vector.append_iff, delimited_foot.vector.append_iff] at heq
  obtain ⟨rfl, rfl, rfl, hcount, rfl, rfl, rfl, rfl, rfl, rfl, rfl, rfl, rfl, rfl, rfl, rfl, hst⟩ :=
    heq
  obtain rfl := servoCount_injective hcount
  exact ⟨rfl, hst⟩

theorem writeControllerIntent_inj {intent intent' : ControllerIntent}
    (heq : writeControllerIntent intent ++ s = writeControllerIntent intent' ++ t) :
    intent' =
      { intent with
        rc.command := unwrittenFrom intent.rc.command intent'.rc.command
        maintenance.recovery_lock := intent'.maintenance.recovery_lock } ∧ s = t := by
  obtain ⟨⟨command'⟩, motion', maintenance', ⟨⟩⟩ := intent'
  unfold writeControllerIntent at heq
  simp only [List.append_assoc] at heq
  obtain ⟨hcommand, hflags⟩ := writeControllerCommand_inj heq
  simp only [delimited_bool.append_iff, delimited_motion.append_iff] at hflags
  obtain ⟨rfl, rfl, rfl, rfl, rfl, rfl, hlater⟩ := hflags
  obtain ⟨hmaintenance, hfeatures⟩ := writeMaintenanceIntent_inj hlater
  simp only [delimited_bool.append_iff] at hfeatures
  obtain ⟨rfl, rfl, rfl, rfl, rfl, rfl, rfl, rfl, rfl, rfl, hst⟩ := hfeatures
  refine ⟨?_, hst⟩
  rw [← hcommand, ← hmaintenance]

theorem payloadOf_injective : Function.Injective payloadOf := by
  intro cfg cfg' heq
  obtain ⟨hschema, heq⟩ := delimited_u16 heq
  obtain ⟨hname, heq⟩ := law_name.delimited heq
  have hblocks := law_blocks cfg.schema_version cfg.robot_name false false
  have hcfg : Expected cfg.schema_version cfg.robot_name false false cfg := ⟨rfl, rfl, nofun, nofun⟩
  have hcfg' : Expected cfg.schema_version cfg.robot_name false false cfg' :=
    ⟨hschema.symm, hname.symm, nofun, nofun⟩
  have hread := hblocks.get_put hcfg []
  have hread' := hblocks.get_put hcfg' []
  have hput : putBlocks false false cfg = putBlocks false false cfg' := heq
  rw [hput, hread', Option.some.injEq, Prod.mk.injEq] at hread
  exact hread.1.symm

theorem configRecord_inj {config config' : ControllerConfigSnapshot}
    (heq : configRecord config = configRecord config') :
    config'.revision = config.revision ∧ config'.valid = config.valid ∧
      config'.persistent = config.persistent ∧
      (config.valid = true → config'.robot = config.robot) := by
  obtain ⟨hrevision, heq⟩ := delimited_u32 heq
  obtain ⟨hvalid, heq⟩ := delimited_bool heq
  obtain ⟨hpersistent, heq⟩ := delimited_bool heq
  obtain ⟨-, heq⟩ := delimited_u16 heq
  obtain ⟨-, hpayload⟩ := delimited_u16 heq
  refine ⟨hrevision.symm, hvalid.symm, hpersistent.symm, fun hv => ?_⟩
  rw [← hvalid, if_pos hv, if_pos hv] at hpayload
  exact (payloadOf_injective hpayload).symm

/-- The `Step` record tells the time but not whether it overran, and the snapshots but for the fields that
are not written. -/
theorem stepInputRecord_inj {n m : UInt32} {inp inp' : ControllerStepInput}
    (heq : stepInputRecord n inp = stepInputRecord m inp') :
    inp'.time.toControllerTime = inp.time.toControllerTime ∧
      inp'.state = { inp.state with dxl.arming_ready := inp'.state.dxl.arming_ready } ∧
      inp'.intent =
        { inp.intent with
          rc.command := unwrittenFrom inp.intent.rc.command inp'.intent.rc.command
          maintenance.recovery_lock := inp'.intent.maintenance.recovery_lock } := by
  obtain ⟨-, heq⟩ := delimited_u32 heq
  obtain ⟨hnow, heq⟩ := delimited_u32 heq
  obtain ⟨hdt, heq⟩ := delimited_u32 heq
  obtain ⟨hvalid, heq⟩ := delimited_bool heq
  obtain ⟨hstate, heq⟩ := writeRobotState_inj heq
  obtain ⟨hintent, -⟩ := writeControllerIntent_inj heq
  refine ⟨?_, hstate, hintent⟩
  show (⟨_, _, _⟩ : Controller.ControllerTime) = ⟨_, _, _⟩
  rw [hnow, hdt, hvalid]

end HexapodVerified.Hil
