import HexapodVerified.Protocol.Proofs.MaintenanceTargetProofs

/-!
# Refused maintenance target commands

A command that is answered with an error is to leave the stored targets and the control mode as they are.
The checks of the payload come before anything is written. Two checks come after it: that of the servo of a
joint, when the control mode has been switched, and that of the room for the reply, when the targets have
been stored.
-/

namespace HexapodVerified.Protocol

open HexapodVerified.Config HexapodVerified.Controller HexapodVerified.Dxl

variable {F : Type} [FloatArith F] {cfg : RobotConfig} {api : MaintTargetApi} {slot : Slot}
  {leg : Fin kNumLegs} {req : List UInt8} {out_cap : Nat} {result : MaintTargetApi × MaintTargetReply}
  {msg_id : UInt8}

/-- The result byte of a reply. -/
def Answers (r : MaintTargetResult) (reply : MaintTargetReply) : Prop := reply.out.head? = some r.wire

def Refuses (reply : MaintTargetReply) : Prop := Answers .rejected reply ∨ Answers .badRequest reply

theorem wire_injective {a b : MaintTargetResult} (heq : a.wire = b.wire) : a = b := by
  cases a <;> cases b <;> first | rfl | cases heq

theorem Answers.unique {a b : MaintTargetResult} {reply : MaintTargetReply} (ha : Answers a reply)
    (hb : Answers b reply) : a = b := wire_injective (Option.some.inj (ha.symm.trans hb))

theorem writeStatus_refuses (api : MaintTargetApi) {r : MaintTargetResult}
    (hr : r = .rejected ∨ r = .badRequest) (out_cap : Nat) : Refuses (api.writeStatus r out_cap) := by
  unfold MaintTargetApi.writeStatus
  by_cases hcap : out_cap < 2
  · rw [if_pos hcap]
    exact .inr rfl
  · rw [if_neg hcap]
    rcases hr with rfl | rfl
    · exact .inl rfl
    · exact .inr rfl

theorem badRequest_refuses (api : MaintTargetApi) (out_cap : Nat) :
    Refuses (api.writeStatus .badRequest out_cap) := writeStatus_refuses api (.inr rfl) out_cap

/-- The ticks, the set flags and the sequence number are the same. -/
structure TargetsKept (api api' : MaintTargetApi) : Prop where
  seq : api'.target.seq = api.target.seq
  tick : ∀ slot, (api'.target.joints.read slot).tick = (api.target.joints.read slot).tick
  set : ∀ slot, (api'.target.joints.read slot).set = (api.target.joints.read slot).set

theorem TargetsKept.of_joints {api' : MaintTargetApi} (hseq : api'.target.seq = api.target.seq)
    (hjoints : api'.target.joints = api.target.joints) : TargetsKept api api' :=
  ⟨hseq, fun slot => by rw [hjoints], fun slot => by rw [hjoints]⟩

/-- A command that was refused has kept the targets and the control mode, and one whose target is
unreachable the targets. -/
structure KeptByErrors (api : MaintTargetApi) (result : MaintTargetApi × MaintTargetReply) : Prop where
  refused : Refuses result.2 →
    TargetsKept api result.1 ∧ result.1.control_mode = api.control_mode
  unreachable : Answers .unreachable result.2 → TargetsKept api result.1

theorem keptByErrors_of_refuses (hrefuses : Refuses result.2) : KeptByErrors api result ↔
    TargetsKept api result.1 ∧ result.1.control_mode = api.control_mode := by
  constructor
  · rintro ⟨hkept, -⟩
    exact hkept hrefuses
  · exact fun hkept => ⟨fun _ => hkept, fun _ => hkept.1⟩

theorem keptByErrors_of_ok (hok : Answers .ok result.2) : KeptByErrors api result := by
  constructor
  · rintro (hrejected | hbad)
    · cases hok.unique hrejected
    · cases hok.unique hbad
  · intro hunreachable
    cases hok.unique hunreachable

theorem keptByErrors_badRequest (api : MaintTargetApi) (out_cap : Nat) :
    KeptByErrors api (api, api.writeStatus .badRequest out_cap) :=
  (keptByErrors_of_refuses (badRequest_refuses api out_cap)).mpr ⟨.of_joints rfl rfl, rfl⟩

theorem not_kept_of_counted {api' : MaintTargetApi} (hseq : api'.target.seq = api.target.seq + 1) :
    ¬ TargetsKept api api' := by
  rintro ⟨hkept, -, -⟩
  rw [hseq] at hkept
  have hone : (1 : UInt32) = 0 := by
    have hcancel : api.target.seq + 1 - api.target.seq = api.target.seq - api.target.seq := by
      rw [hkept]
    rwa [UInt32.sub_self, UInt32.add_comm, UInt32.add_sub_cancel] at hcancel
  cases hone

open MaintTargetApi in
def requestedLeg (F : Type) [FloatArith F] (cfg : RobotConfig) (leg : Fin kNumLegs)
    (req : List UInt8) : Bool × (Fin kJointsPerLeg → JointCommand) :=
  solveLeg F cfg leg (readI16 (req.drop 1)) (readI16 (req.drop 3)) (readI16 (req.drop 5))

theorem setLegTarget_kept_iff : KeptByErrors api (api.setLegTarget F cfg leg req out_cap) ↔
    (out_cap < 11 → api.control_mode = .jointTargets ∧ (requestedLeg F cfg leg req).1 = false) := by
  unfold MaintTargetApi.setLegTarget requestedLeg
  dsimp only
  cases hreachable : (MaintTargetApi.solveLeg F cfg leg (MaintTargetApi.readI16 (req.drop 1))
    (MaintTargetApi.readI16 (req.drop 3)) (MaintTargetApi.readI16 (req.drop 5))).1 with
  | true =>
    by_cases hcap : out_cap < 11
    · rw [if_pos hcap, keptByErrors_of_refuses (badRequest_refuses _ _)]
      refine iff_of_false (fun hkept => not_kept_of_counted rfl hkept.1) fun hno => ?_
      cases (hno hcap).2
    · rw [if_neg hcap]
      exact iff_of_true (keptByErrors_of_ok rfl) fun h => absurd h hcap
  | false =>
    by_cases hcap : out_cap < 11
    · rw [if_pos hcap, keptByErrors_of_refuses (badRequest_refuses _ _)]
      constructor
      · rintro ⟨-, hmode⟩ -
        exact ⟨hmode.symm, rfl⟩
      · intro hmode
        exact ⟨.of_joints rfl rfl, (hmode hcap).1.symm⟩
    · rw [if_neg hcap]
      refine iff_of_true ⟨?_, fun _ => .of_joints rfl rfl⟩ fun h => absurd h hcap
      rintro (hrejected | hbad)
      · cases Option.some.inj hrejected
      · cases Option.some.inj hbad

theorem setJointTarget_kept_iff : KeptByErrors api (api.setJointTarget F cfg slot req out_cap) ↔
    if (MaintTargetApi.angleCommand F cfg slot (req.drop 2)).unmapped
    then api.control_mode = .jointTargets else 6 ≤ out_cap := by
  unfold MaintTargetApi.setJointTarget
  by_cases hunmapped : (MaintTargetApi.angleCommand F cfg slot (req.drop 2)).unmapped = true
  · rw [if_pos hunmapped, if_pos hunmapped, keptByErrors_of_refuses (badRequest_refuses _ _)]
    constructor
    · rintro ⟨-, hmode⟩
      exact hmode.symm
    · exact fun hmode => ⟨.of_joints rfl rfl, hmode.symm⟩
  · rw [if_neg hunmapped, if_neg hunmapped]
    by_cases hcap : out_cap < 6
    · rw [if_pos hcap, keptByErrors_of_refuses (badRequest_refuses _ _)]
      exact iff_of_false (fun hkept => not_kept_of_counted rfl hkept.1) (Nat.not_le.mpr hcap)
    · rw [if_neg hcap]
      exact iff_of_true (keptByErrors_of_ok rfl) (Nat.not_lt.mp hcap)

def requestedMode (req : List UInt8) : Controller.MaintControlMode :=
  if req.getD 0 0 = 0 then .jointTargets else .gaitPipeline

theorem handleSetControlMode_kept_iff : KeptByErrors api (api.handleSetControlMode req out_cap) ↔
    (1 ≤ req.length → req.getD 0 0 ≤ controlModeWire .gaitPipeline → out_cap < 3 →
      api.control_mode = requestedMode req) := by
  unfold MaintTargetApi.handleSetControlMode requestedMode
  by_cases hbad : req.length < 1 ∨ req.getD 0 0 > controlModeWire .gaitPipeline
  · rw [if_pos hbad]
    refine iff_of_true (keptByErrors_badRequest api out_cap) fun hlen hmode => ?_
    rcases hbad with hshort | hlarge
    · omega
    · exact absurd hlarge (UInt8.not_lt.mpr hmode)
  · rw [if_neg hbad]
    obtain ⟨hlen, hmode⟩ := not_or.mp hbad
    by_cases hcap : out_cap < 3
    · rw [if_pos hcap, keptByErrors_of_refuses (badRequest_refuses _ _)]
      constructor
      · rintro ⟨-, hsame⟩ - - -
        exact hsame.symm
      · intro hsame
        exact ⟨.of_joints rfl rfl, (hsame (by omega) (UInt8.not_lt.mp hmode) hcap).symm⟩
    · rw [if_neg hcap]
      exact iff_of_true (keptByErrors_of_ok rfl) fun _ _ h => absurd h hcap

theorem handleSetAllJoints_kept_iff :
    KeptByErrors api (api.handleSetAllJoints F cfg req out_cap) ↔
      (kNumLegs * kJointsPerLeg * 2 ≤ req.length → 6 ≤ out_cap) := by
  unfold MaintTargetApi.handleSetAllJoints
  by_cases hshort : req.length < kNumLegs * kJointsPerLeg * 2
  · rw [if_pos hshort]
    exact iff_of_true (keptByErrors_badRequest api out_cap) fun hlen => absurd hshort (Nat.not_lt.mpr hlen)
  · rw [if_neg hshort]
    by_cases hcap : out_cap < 6
    · rw [if_pos hcap, keptByErrors_of_refuses (badRequest_refuses _ _)]
      refine iff_of_false (fun hkept => not_kept_of_counted rfl hkept.1) fun hroom => ?_
      exact absurd (hroom (Nat.not_lt.mp hshort)) (Nat.not_le.mpr hcap)
    · rw [if_neg hcap]
      exact iff_of_true (keptByErrors_of_ok rfl) fun _ => Nat.not_lt.mp hcap

theorem handleSetLegTarget_kept_iff : KeptByErrors api (api.handleSetLegTarget F cfg req out_cap) ↔
    (7 ≤ req.length → ∀ leg : Fin kNumLegs, (req.getD 0 0).toNat = leg.val → out_cap < 11 →
      api.control_mode = .jointTargets ∧ (requestedLeg F cfg leg req).1 = false) := by
  unfold MaintTargetApi.handleSetLegTarget
  by_cases hshort : req.length < 7
  · rw [if_pos hshort]
    exact iff_of_true (keptByErrors_badRequest api out_cap) fun hlen => absurd hshort (Nat.not_lt.mpr hlen)
  · rw [if_neg hshort]
    by_cases hleg : (req.getD 0 0).toNat < kNumLegs
    · rw [dif_pos hleg, setLegTarget_kept_iff]
      constructor
      · rintro hkept - leg hval
        obtain rfl : ⟨(req.getD 0 0).toNat, hleg⟩ = leg := Fin.ext hval
        exact hkept
      · exact fun hkept => hkept (Nat.not_lt.mp hshort) _ rfl
    · rw [dif_neg hleg]
      refine iff_of_true (keptByErrors_badRequest api out_cap) fun _ leg hval => ?_
      exact absurd (hval ▸ leg.isLt) hleg

theorem handleSetJointTarget_kept_iff :
    KeptByErrors api (api.handleSetJointTarget F cfg req out_cap) ↔
      (4 ≤ req.length → ∀ slot : Slot, (req.getD 0 0).toNat = slot.1.val →
        (req.getD 1 0).toNat = slot.2.val →
        if (MaintTargetApi.angleCommand F cfg slot (req.drop 2)).unmapped
        then api.control_mode = .jointTargets else 6 ≤ out_cap) := by
  unfold MaintTargetApi.handleSetJointTarget
  by_cases hshort : req.length < 4
  · rw [if_pos hshort]
    exact iff_of_true (keptByErrors_badRequest api out_cap) fun hlen => absurd hshort (Nat.not_lt.mpr hlen)
  · rw [if_neg hshort]
    by_cases hslot : (req.getD 0 0).toNat < kNumLegs ∧ (req.getD 1 0).toNat < kJointsPerLeg
    · rw [dif_pos hslot, setJointTarget_kept_iff]
      constructor
      · rintro hkept - ⟨leg, joint⟩ hleg hjoint
        obtain rfl : ⟨(req.getD 0 0).toNat, hslot.1⟩ = leg := Fin.ext hleg
        obtain rfl : ⟨(req.getD 1 0).toNat, hslot.2⟩ = joint := Fin.ext hjoint
        exact hkept
      · exact fun hkept => hkept (Nat.not_lt.mp hshort) (_, _) rfl rfl
    · rw [dif_neg hslot]
      refine iff_of_true (keptByErrors_badRequest api out_cap) fun _ slot hleg hjoint => ?_
      exact absurd ⟨hleg ▸ slot.1.isLt, hjoint ▸ slot.2.isLt⟩ hslot

/-- What could still refuse the command when it has written something does not: the reply has room, or what
was written is what was there. -/
structure ChecksFirst (F : Type) [FloatArith F] (api : MaintTargetApi) (cfg : RobotConfig)
    (msg_id : UInt8) (req : List UInt8) (out_cap : Nat) : Prop where
  leg : msg_id = Mainttargetmsg.kSetLegTarget → 7 ≤ req.length →
    ∀ leg : Fin kNumLegs, (req.getD 0 0).toNat = leg.val → out_cap < 11 →
      api.control_mode = .jointTargets ∧ (requestedLeg F cfg leg req).1 = false
  joint : msg_id = Mainttargetmsg.kSetJointTarget → 4 ≤ req.length →
    ∀ slot : Slot, (req.getD 0 0).toNat = slot.1.val → (req.getD 1 0).toNat = slot.2.val →
      if (MaintTargetApi.angleCommand F cfg slot (req.drop 2)).unmapped
      then api.control_mode = .jointTargets else 6 ≤ out_cap
  mode : msg_id = Mainttargetmsg.kSetControlMode → 1 ≤ req.length →
    req.getD 0 0 ≤ controlModeWire .gaitPipeline → out_cap < 3 →
      api.control_mode = requestedMode req
  all : msg_id = Mainttargetmsg.kSetAllJoints → kNumLegs * kJointsPerLeg * 2 ≤ req.length →
    6 ≤ out_cap

structure Atomic (F : Type) [FloatArith F] (api : MaintTargetApi) (msg_id : UInt8)
    (req : List UInt8) (out_cap : Nat) : Prop where
  kept : ∀ reply, (api.handle F msg_id req out_cap).2 = some reply →
    KeptByErrors api ((api.handle F msg_id req out_cap).1, reply)
  closed : api.gateOpen = false → (api.handle F msg_id req out_cap).1 = api

theorem keptByErrors_map (result : MaintTargetApi × MaintTargetReply) :
    (∀ reply, (result.map id some).2 = some reply → KeptByErrors api ((result.map id some).1, reply)) ↔
      KeptByErrors api result := by
  constructor
  · exact fun hkept => hkept _ rfl
  · rintro hkept reply hreply
    obtain rfl := Option.some.inj hreply
    exact hkept

theorem handle_open (hgate : api.gateOpen = true) (hbound : api.cfg = some cfg) (msg_id : UInt8)
    (req : List UInt8) (out_cap : Nat) : api.handle F msg_id req out_cap =
      if msg_id = Mainttargetmsg.kSetLegTarget then
        (api.handleSetLegTarget F cfg req out_cap).map id some
      else if msg_id = Mainttargetmsg.kSetJointTarget then
        (api.handleSetJointTarget F cfg req out_cap).map id some
      else if msg_id = Mainttargetmsg.kSetControlMode then
        (api.handleSetControlMode req out_cap).map id some
      else if msg_id = Mainttargetmsg.kSetAllJoints then
        (api.handleSetAllJoints F cfg req out_cap).map id some
      else (api, none) := by
  unfold MaintTargetApi.handle
  rw [hgate, hbound]
  by_cases hmsg : (!Mainttargetmsg.isMaintTargetMsg msg_id) = true
  · have hne : ∀ id, Mainttargetmsg.isMaintTargetMsg id = true → msg_id ≠ id := by
      rintro id hid rfl
      rw [hid] at hmsg
      cases hmsg
    rw [if_pos hmsg, if_neg (hne _ rfl), if_neg (hne _ rfl), if_neg (hne _ rfl), if_neg (hne _ rfl)]
  · rw [if_neg hmsg]

theorem handle_open_kept_iff (hgate : api.gateOpen = true) (hbound : api.cfg = some cfg) :
    (∀ reply, (api.handle F msg_id req out_cap).2 = some reply →
      KeptByErrors api ((api.handle F msg_id req out_cap).1, reply)) ↔
    ChecksFirst F api cfg msg_id req out_cap := by
  rw [handle_open hgate hbound]
  by_cases hleg : msg_id = Mainttargetmsg.kSetLegTarget
  · subst hleg
    rw [if_pos rfl, keptByErrors_map, handleSetLegTarget_kept_iff]
    exact ⟨fun hkept => ⟨fun _ => hkept, nofun, nofun, nofun⟩, fun hchecks => hchecks.leg rfl⟩
  rw [if_neg hleg]
  by_cases hjoint : msg_id = Mainttargetmsg.kSetJointTarget
  · subst hjoint
    rw [if_pos rfl, keptByErrors_map, handleSetJointTarget_kept_iff]
    exact ⟨fun hkept => ⟨nofun, fun _ => hkept, nofun, nofun⟩, fun hchecks => hchecks.joint rfl⟩
  rw [if_neg hjoint]
  by_cases hmode : msg_id = Mainttargetmsg.kSetControlMode
  · subst hmode
    rw [if_pos rfl, keptByErrors_map, handleSetControlMode_kept_iff]
    exact ⟨fun hkept => ⟨nofun, nofun, fun _ => hkept, nofun⟩, fun hchecks => hchecks.mode rfl⟩
  rw [if_neg hmode]
  by_cases hall : msg_id = Mainttargetmsg.kSetAllJoints
  · subst hall
    rw [if_pos rfl, keptByErrors_map, handleSetAllJoints_kept_iff]
    exact ⟨fun hkept => ⟨nofun, nofun, nofun, fun _ => hkept⟩, fun hchecks => hchecks.all rfl⟩
  rw [if_neg hall]
  exact iff_of_true nofun ⟨fun h => absurd h hleg, fun h => absurd h hjoint,
    fun h => absurd h hmode, fun h => absurd h hall⟩

theorem atomic_of_closed (hgate : api.gateOpen = false) : Atomic F api msg_id req out_cap := by
  have hsame := handle_closed (F := F) hgate msg_id req out_cap
  refine ⟨fun reply _ => ?_, fun _ => hsame⟩
  rw [hsame]
  exact ⟨fun _ => ⟨.of_joints rfl rfl, rfl⟩, fun _ => .of_joints rfl rfl⟩

/-- A command that is answered with an error changes neither the targets nor the control mode exactly when
nothing is checked after it has written. -/
theorem target_atomicity_iff (F : Type) [FloatArith F] (api : MaintTargetApi) (msg_id : UInt8)
    (req : List UInt8) (out_cap : Nat) : Atomic F api msg_id req out_cap ↔
      (api.gateOpen = true → ∀ cfg, api.cfg = some cfg →
        ChecksFirst F api cfg msg_id req out_cap) := by
  cases hgate : api.gateOpen with
  | false => exact iff_of_true (atomic_of_closed hgate) nofun
  | true =>
    constructor
    · rintro ⟨hkept, -⟩ - cfg hbound
      exact (handle_open_kept_iff hgate hbound).mp hkept
    · intro hchecks
      obtain ⟨cfg, hbound⟩ : ∃ cfg, api.cfg = some cfg := by
        unfold MaintTargetApi.gateOpen at hgate
        rw [Bool.and_eq_true, Bool.and_eq_true] at hgate
        exact Option.isSome_iff_exists.mp hgate.1.1
      exact ⟨(handle_open_kept_iff hgate hbound).mpr (hchecks rfl cfg hbound),
        fun hclosed => by cases hgate.symm.trans hclosed⟩

/-- Maintenance under a configuration, with the gait in control of the servos. -/
def maintained (cfg : RobotConfig) : MaintTargetApi :=
  { MaintTargetApi.new with
    cfg := some cfg
    live_state := Mainttargetstate.kMacMaintenance
    lock_held := true
    control_mode := .gaitPipeline }

/-- The default configuration with the servo of the first joint moved to the second. -/
def unmappedConfig : RobotConfig :=
  { defaultRobotConfig with
    servos := defaultRobotConfig.servos.map fun s =>
      if s.leg = 0 ∧ s.joint = 0 then { s with joint := 1 } else s }

theorem servoFor_unmappedConfig : servoFor unmappedConfig 0 0 = none := by
  unfold servoFor unmappedConfig
  rw [Vector.toList_map, List.find?_eq_none]
  intro s hs
  obtain ⟨s₀, -, rfl⟩ := List.mem_map.mp hs
  by_cases hfirst : s₀.leg = 0 ∧ s₀.joint = 0
  · rw [if_pos hfirst]
    simp
  · rw [if_neg hfirst]
    simpa using hfirst

theorem unmapped_firstJoint (angle : List UInt8) :
    (MaintTargetApi.angleCommand F unmappedConfig (0, 0) angle).unmapped = true := by
  have hslot : servoFor unmappedConfig (UInt8.ofNat ((0, 0) : Slot).1.val)
      (UInt8.ofNat ((0, 0) : Slot).2.val) = none := servoFor_unmappedConfig
  unfold MaintTargetApi.angleCommand angleToTick
  rw [hslot]

/-- A pose without room for the reply is refused and stored; a target for a joint without a servo is
refused and takes the control from the gait. -/
theorem refused_with_effect :
    ¬ Atomic ℝ (maintained defaultRobotConfig) Mainttargetmsg.kSetAllJoints
        (List.replicate 36 0) 5 ∧
      ¬ Atomic ℝ (maintained unmappedConfig) Mainttargetmsg.kSetJointTarget [0, 0, 0, 0] 1024 := by
  constructor
  · rintro ⟨hkept, -⟩
    have hchecks := (handle_open_kept_iff rfl rfl).mp hkept
    have hroom := hchecks.all rfl (by decide)
    omega
  · rintro ⟨hkept, -⟩
    have hchecks := (handle_open_kept_iff rfl rfl).mp hkept
    have hmode := hchecks.joint rfl (by simp) (0, 0) rfl rfl
    rw [if_pos (unmapped_firstJoint _)] at hmode
    cases hmode

end HexapodVerified.Protocol
