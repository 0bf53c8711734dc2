import HexapodVerified.App.SensorService
import HexapodVerified.Sensors.Proofs.ContactFootProofs

/-!
# Which calibration requests are served

There is one staged mask, so a pass of the service captures the feet of the latest request it can see.
The requests accepted since the previous pass are served as far as their feet are in that mask, provided
that their number does not bring the sequence number back to where it was.
-/

namespace HexapodVerified.App

open HexapodVerified.Protocol HexapodVerified.Sensors Transition

variable {s t : CalibrationTasks} {a : CalibrationStep} {e : CalibrationEvent}
  {h : List CalibrationEvent} {i : Fin kNumFeet} {want : UInt32}

def okMask (reply : SensorReply) : Option UInt8 :=
  match reply.out with
  | [result, mask] => if result = SensorResult.ok.wire then some mask else none
  | _ => none

def acceptedMask (e : CalibrationEvent) : Option UInt8 :=
  match e.label with
  | .command msg_id req => (e.pre.g_sensorApi.handle msg_id req).bind fun reply => okMask reply.2
  | _ => none

/-- The masks of the requests accepted since the last check. -/
def pending : List CalibrationEvent → List UInt8
  | [] => []
  | e :: h =>
    if e.label = .check then []
    else
      match acceptedMask e with
      | some mask => mask :: pending h
      | none => pending h

/-- The masks of the requests accepted between the last check and the one before: the pass of the last
check is the first one that begins after them. -/
def taken : List CalibrationEvent → List UInt8
  | [] => []
  | e :: h => if e.label = .check then pending h else taken h

def latestMask (h : List CalibrationEvent) : UInt8 := (h.filterMap acceptedMask).headD 0

/-- What a calibration command can do: stage a mask with a foot, or nothing. -/
inductive CalibrateMove (api : SensorCalibrate) : SensorCalibrate × SensorReply → Prop where
  | stage {reply : SensorReply} (mask : UInt8) (hok : okMask reply = some mask)
      (hfoot : ∃ i, inMask mask i = true) :
      CalibrateMove api
        ({ api with calibrate_mask := mask, calibrate_seq := api.calibrate_seq + 1 }, reply)
  | refuse {reply : SensorReply} (hno : okMask reply = none) : CalibrateMove api (api, reply)

theorem stageCalibrate_move (api : SensorCalibrate) {mask : UInt8}
    (hfoot : ∃ i, inMask mask i = true) : CalibrateMove api (api.stageCalibrate mask) := by
  unfold SensorCalibrate.stageCalibrate
  by_cases hnone : api.noneSensed mask = true
  · rw [if_pos hnone]
    exact .refuse rfl
  · rw [if_neg hnone]
    exact .stage mask rfl hfoot

theorem inMask_foot {foot : UInt8} (hfoot : foot.toNat < kSensorNumFeet) :
    inMask ((1 : UInt8) <<< foot) ⟨foot.toNat, hfoot⟩ = true := by
  have hall : ∀ i : Fin kNumFeet, inMask ((1 : UInt8) <<< UInt8.ofNat i.val) i = true := by decide
  have hthis := hall ⟨foot.toNat, hfoot⟩
  rwa [UInt8.ofNat_toNat] at hthis

theorem handle_move {api : SensorCalibrate} {msg_id : UInt8} {req : List UInt8}
    {reply : SensorCalibrate × SensorReply} (hhandle : api.handle msg_id req = some reply) :
    CalibrateMove api reply := by
  unfold SensorCalibrate.handle at hhandle
  have hall : ∃ i, inMask SensorCalibrate.allFeet i = true := ⟨0, by decide⟩
  simp only at hhandle
  split_ifs at hhandle with hcontact hshort hbroadcast hfoot hsensor
  · cases hhandle
    exact .refuse rfl
  · cases hhandle
    exact stageCalibrate_move api hall
  · cases hhandle
    exact stageCalibrate_move api ⟨_, inMask_foot hfoot⟩
  · cases hhandle
    exact .refuse rfl
  · cases hhandle
    exact stageCalibrate_move api hall

theorem get_calibrateFoot (m : ContactEstimator) (i j : Fin kNumFeet) :
    (calibrateFoot m j).feet.get i =
      if j = i then ((m.feet.get i).captureBaseline.setEnabled true).1 else m.feet.get i := by
  show ((m.call (.captureBaseline j.val)).call (.setEnabled j.val true)).feet.get i = _
  rw [get_call, get_call]
  unfold ContactFoot.call
  dsimp only
  by_cases hij : j = i
  · subst hij
    rw [if_pos rfl, if_pos rfl, if_pos rfl]
  · have hval : j.val ≠ i.val := fun hval => hij (Fin.ext hval)
    rw [if_neg hij, if_neg hval, if_neg hval]

theorem get_calibrateFeet {feet : List (Fin kNumFeet)} (hfeet : feet.Nodup) (m : ContactEstimator)
    (i : Fin kNumFeet) :
    (feet.foldl calibrateFoot m).feet.get i =
      if i ∈ feet then ((m.feet.get i).captureBaseline.setEnabled true).1 else m.feet.get i := by
  have hparams (m : ContactEstimator) (j : Fin kNumFeet) :
      (calibrateFoot m j).params.guarded = m.params.guarded := by
    show ((m.call (.captureBaseline j.val)).call (.setEnabled j.val true)).params.guarded = _
    rw [params_call, params_call]
    rfl
  exact get_foldl (g := fun _ _ foot => (foot.captureBaseline.setEnabled true).1) hparams
    get_calibrateFoot hfeet m i

theorem state_setEnabled (foot : ContactFoot) (enabled : Bool) :
    (foot.setEnabled enabled).1.state = foot.state := by
  unfold ContactFoot.setEnabled
  dsimp only
  split_ifs <;> rfl

inductive CalibrationMove : CalibrationTasks → CalibrationStep → CalibrationTasks → Prop where
  | command {s : CalibrationTasks} {msg_id : UInt8} {req : List UInt8}
      {reply : SensorCalibrate × SensorReply} (hhandle : s.g_sensorApi.handle msg_id req = some reply) :
      CalibrationMove s (.command msg_id req) { s with g_sensorApi := reply.1 }
  | check {s : CalibrationTasks} (hidle : s.want_cal = none) :
      CalibrationMove s .check { s with want_cal := some s.g_sensorApi.calibrate_seq }
  | serve {s : CalibrationTasks} {want : UInt32} (hwant : s.want_cal = some want) :
      CalibrationMove s .serve { s with
        g_contact := (s.captured want).foldl calibrateFoot s.g_contact
        applied_calibrate_seq := want
        want_cal := none }
  | poll {s : CalibrationTasks} {est : ContactEstimator} {status : Option SensorStatusSnapshot}
      (hidle : s.want_cal = none) :
      CalibrationMove s (.poll est status)
        { s with g_contact := est, g_sensorApi.status := status, want_cal := none }

theorem calibrationMove_of_step (hstep : s.step a = some t) : CalibrationMove s a t := by
  cases a with
  | command msg_id req =>
    obtain ⟨reply, hhandle, rfl⟩ := Option.map_eq_some_iff.mp hstep
    exact .command hhandle
  | check =>
    cases hwant : s.want_cal with
    | none =>
      simp only [CalibrationTasks.step, hwant] at hstep
      cases hstep
      exact .check hwant
    | some want => simp only [CalibrationTasks.step, hwant, reduceCtorEq] at hstep
  | serve =>
    cases hwant : s.want_cal with
    | none => simp only [CalibrationTasks.step, hwant, reduceCtorEq] at hstep
    | some want =>
      simp only [CalibrationTasks.step, hwant] at hstep
      cases hstep
      exact .serve hwant
  | poll est status =>
    cases hwant : s.want_cal with
    | none =>
      simp only [CalibrationTasks.step, hwant] at hstep
      cases hstep
      exact .poll hwant
    | some want => simp only [CalibrationTasks.step, hwant, reduceCtorEq] at hstep

/-- Mask and numbers, in terms of the requests accepted. -/
structure Counted (h : List CalibrationEvent) (s : CalibrationTasks) : Prop where
  mask : s.g_sensorApi.calibrate_mask = latestMask h
  idle : s.want_cal = none →
    s.g_sensorApi.calibrate_seq = s.applied_calibrate_seq + UInt32.ofNat (pending h).length
  busy : ∀ want, s.want_cal = some want →
    want = s.applied_calibrate_seq + UInt32.ofNat (taken h).length ∧
      s.g_sensorApi.calibrate_seq = want + UInt32.ofNat (pending h).length

theorem ledger_accepted {mask : UInt8} (hacc : acceptedMask e = some mask) :
    latestMask (e :: h) = mask ∧ pending (e :: h) = mask :: pending h ∧ taken (e :: h) = taken h := by
  have hlabel : e.label ≠ .check := fun heq => by
    rw [acceptedMask, heq] at hacc
    cases hacc
  refine ⟨?_, ?_, ?_⟩
  · unfold latestMask
    rw [List.filterMap_cons_some hacc]
    rfl
  · rw [pending, if_neg hlabel, hacc]
  · rw [taken, if_neg hlabel]

theorem ledger_other (hlabel : e.label ≠ .check) (hacc : acceptedMask e = none) :
    latestMask (e :: h) = latestMask h ∧ pending (e :: h) = pending h ∧ taken (e :: h) = taken h := by
  refine ⟨?_, ?_, ?_⟩
  · unfold latestMask
    rw [List.filterMap_cons_none hacc]
  · rw [pending, if_neg hlabel, hacc]
  · rw [taken, if_neg hlabel]

theorem Counted.step (hcount : Counted h s) (hmove : CalibrationMove s a t) :
    Counted (⟨s, a, t⟩ :: h) t := by
  obtain ⟨hmask, hidle, hbusy⟩ := hcount
  cases hmove with
  | @command msg_id req reply hhandle =>
    have hreply : acceptedMask ⟨s, .command msg_id req, { s with g_sensorApi := reply.1 }⟩ =
        okMask reply.2 := by
      change (s.g_sensorApi.handle msg_id req).bind _ = _
      rw [hhandle]
      rfl
    have hone (n : UInt32) (l : Nat) : n + UInt32.ofNat l + 1 = n + UInt32.ofNat (l + 1) := by
      rw [UInt32.ofNat_add, ← UInt32.add_assoc]
      rfl
    cases handle_move hhandle with
    | stage mask hok hfoot =>
      obtain ⟨hlatest, hpending, htaken⟩ := ledger_accepted (h := h) (hreply.trans hok)
      refine ⟨hlatest.symm, fun hwant => ?_, fun want hwant => ?_⟩
      · rw [hpending, List.length_cons, ← hone, ← hidle hwant]
      · rw [hpending, htaken, List.length_cons, ← hone, ← (hbusy want hwant).2]
        exact ⟨(hbusy want hwant).1, rfl⟩
    | refuse hno =>
      have hlabel : CalibrationStep.command msg_id req ≠ .check := nofun
      obtain ⟨hlatest, hpending, htaken⟩ := ledger_other (h := h) hlabel (hreply.trans hno)
      refine ⟨hmask.trans hlatest.symm, fun hwant => ?_, fun want hwant => ?_⟩
      · rw [hpending]
        exact hidle hwant
      · rw [hpending, htaken]
        exact hbusy want hwant
  | check hnone =>
    refine ⟨?_, nofun, fun want hwant => ?_⟩
    · exact hmask.trans (congrArg (List.headD · 0) (List.filterMap_cons_none rfl).symm)
    · cases hwant
      exact ⟨hidle hnone, (UInt32.add_zero _).symm⟩
  | @serve want hwant =>
    obtain ⟨hlatest, hpending, -⟩ := ledger_other (h := h) (e := ⟨s, .serve, _⟩) nofun rfl
    refine ⟨hmask.trans hlatest.symm, fun _ => ?_, nofun⟩
    rw [hpending]
    exact (hbusy want hwant).2
  | poll hnone =>
    obtain ⟨hlatest, hpending, -⟩ := ledger_other (h := h) (e := ⟨s, .poll _ _, _⟩) nofun rfl
    refine ⟨hmask.trans hlatest.symm, fun _ => ?_, fun want hwant => ?_⟩
    · rw [hpending]
      exact hidle hnone
    · cases hwant

theorem counted_of_run (run : CalibrationRun h s) : Counted h s := by
  have hinit : Counted [] {} := ⟨rfl, fun _ => rfl, fun want hwant => by cases hwant⟩
  refine run.history_invariant Counted hinit ?_
  intro h s a t _ hcount hstep
  exact hcount.step (calibrationMove_of_step hstep)

theorem taken_feet (run : CalibrationRun h s) :
    (∀ mask ∈ pending h, ∃ i, inMask mask i = true) ∧ ∀ mask ∈ taken h, ∃ i, inMask mask i = true := by
  refine run.history_invariant (fun h _ => (∀ mask ∈ pending h, ∃ i, inMask mask i = true) ∧
    ∀ mask ∈ taken h, ∃ i, inMask mask i = true) ⟨nofun, nofun⟩ ?_
  rintro h s a t - ⟨hpending, htaken⟩ hstep
  by_cases hcheck : a = .check
  · subst hcheck
    exact ⟨nofun, hpending⟩
  cases hacc : acceptedMask ⟨s, a, t⟩ with
  | none =>
    obtain ⟨-, hp, ht⟩ := ledger_other (h := h) (e := ⟨s, a, t⟩) hcheck hacc
    rw [hp, ht]
    exact ⟨hpending, htaken⟩
  | some mask =>
    obtain ⟨-, hp, ht⟩ := ledger_accepted (h := h) hacc
    rw [hp, ht]
    refine ⟨List.forall_mem_cons.mpr ⟨?_, hpending⟩, htaken⟩
    cases calibrationMove_of_step hstep with
    | command hhandle =>
      change (s.g_sensorApi.handle _ _).bind _ = _ at hacc
      rw [hhandle, Option.bind_some] at hacc
      cases handle_move hhandle with
      | stage mask' hok hfoot =>
        cases hok.symm.trans hacc
        exact hfoot
      | refuse hno => cases hno.symm.trans hacc
    | check => cases hacc
    | serve => cases hacc
    | poll => cases hacc

/-- The pass captures the baseline of the foot: it becomes the pressure of the foot. -/
def Rebaselined (e : CalibrationEvent) (i : Fin kNumFeet) : Prop :=
  (∃ want, e.pre.want_cal = some want ∧ i ∈ e.pre.captured want) ∧
    (e.post.g_contact.feet.get i).state.pressure_baseline =
      (e.pre.g_contact.feet.get i).state.pressure_raw ∧
    (e.post.g_contact.feet.get i).state.pressure_delta = 0

/-- The pass that reads the mask after `h` re-baselines every foot of every request that it is the
first to see. -/
def ServesAll (e : CalibrationEvent) (h : List CalibrationEvent) : Prop :=
  ∀ mask ∈ taken h, ∀ i, inMask mask i = true → Rebaselined e i

/-- The latest request covers the feet of all requests that the pass is the first to see, and their
number is not a multiple of 2^32. -/
def Covers (h : List CalibrationEvent) : Prop :=
  ∀ mask ∈ taken h, (taken h).length % UInt32.size ≠ 0 ∧
    ∀ i, inMask mask i = true → inMask (latestMask h) i = true

theorem captured_baseline (hmove : CalibrationMove s .serve t) (hwant : s.want_cal = some want)
    (hmem : i ∈ s.captured want) :
    (t.g_contact.feet.get i).state.pressure_baseline = (s.g_contact.feet.get i).state.pressure_raw ∧
      (t.g_contact.feet.get i).state.pressure_delta = 0 := by
  cases hmove with
  | serve hwant' =>
    cases hwant.symm.trans hwant'
    have hfeet : (s.captured want).Nodup := by
      unfold CalibrationTasks.captured
      split_ifs
      · exact (List.nodup_finRange _).filter _
      · exact .nil
    rw [get_calibrateFeet hfeet, if_pos hmem, state_setEnabled]
    exact ⟨rfl, rfl⟩

instance (h : List CalibrationEvent) : Decidable (Covers h) :=
  inferInstanceAs (Decidable (∀ mask ∈ taken h, (taken h).length % UInt32.size ≠ 0 ∧
    ∀ i, inMask mask i = true → inMask (latestMask h) i = true))

theorem rebaselined_iff (hmove : CalibrationMove e.pre .serve e.post) (i : Fin kNumFeet) :
    Rebaselined e i ↔ ∃ want, e.pre.want_cal = some want ∧ i ∈ e.pre.captured want := by
  refine ⟨fun hre => hre.1, fun hcap => ⟨hcap, ?_⟩⟩
  obtain ⟨want, hwant, hmem⟩ := hcap
  exact captured_baseline hmove hwant hmem

theorem want_ne_iff (hcount : Counted h s) {want : UInt32} (hwant : s.want_cal = some want) :
    want ≠ s.applied_calibrate_seq ↔ (taken h).length % UInt32.size ≠ 0 := by
  have hsum := (hcount.busy want hwant).1
  have hzero : want = s.applied_calibrate_seq ↔ UInt32.ofNat (taken h).length = 0 := by
    have hadd := UInt32.add_right_inj (a := UInt32.ofNat (taken h).length) (b := 0)
      s.applied_calibrate_seq
    rw [UInt32.add_zero] at hadd
    rw [hsum]
    exact hadd
  rw [Ne, hzero, ← UInt32.toNat_inj, UInt32.toNat_ofNat']
  rfl

theorem mem_captured_iff (hcount : Counted h s) {want : UInt32} (hwant : s.want_cal = some want)
    (i : Fin kNumFeet) :
    i ∈ s.captured want ↔
      (taken h).length % UInt32.size ≠ 0 ∧ inMask (latestMask h) i = true := by
  unfold CalibrationTasks.captured
  rw [← want_ne_iff hcount hwant, hcount.mask]
  by_cases hne : want ≠ s.applied_calibrate_seq
  · rw [if_pos hne, List.mem_filter]
    simp [hne]
  · rw [if_neg hne]
    simp [hne]

/-- A pass serves the requests that it is the first to see exactly when the latest one covers them. -/
theorem servesAll_iff (run : CalibrationRun (e :: h) s) (hserve : e.label = .serve) :
    ServesAll e h ↔ Covers h := by
  obtain ⟨-, hstep, hbefore⟩ := run.of_cons
  have hmove := calibrationMove_of_step hstep
  rw [hserve] at hmove
  have hcount := counted_of_run hbefore
  have hre := rebaselined_iff hmove
  obtain ⟨want, hwant⟩ : ∃ want, e.pre.want_cal = some want := by
    generalize e.pre = pre at hmove
    generalize e.post = post at hmove
    cases hmove with
    | serve hwant => exact ⟨_, hwant⟩
  have hcap : ∀ i, Rebaselined e i ↔
      (taken h).length % UInt32.size ≠ 0 ∧ inMask (latestMask h) i = true := by
    intro i
    rw [hre i, ← mem_captured_iff hcount hwant i]
    constructor
    · rintro ⟨want', hwant', hmem⟩
      cases hwant'.symm.trans hwant
      exact hmem
    · exact fun hmem => ⟨want, hwant, hmem⟩
  constructor
  · intro hall mask hmask
    obtain ⟨i, hi⟩ := (taken_feet hbefore).2 mask hmask
    refine ⟨((hcap i).mp (hall mask hmask i hi)).1, fun k hk => ?_⟩
    exact ((hcap k).mp (hall mask hmask k hk)).2
  · intro hcovers mask hmask i hi
    obtain ⟨hlen, hfeet⟩ := hcovers mask hmask
    exact (hcap i).mpr ⟨hlen, hfeet i hi⟩

/-- Every pass of the run serves the requests that it is the first to see. -/
def NoRequestLost (h : List CalibrationEvent) : Prop :=
  ∀ later e earlier, h = later ++ e :: earlier → e.label = .serve → ServesAll e earlier

theorem calibration_served_iff {h : List CalibrationEvent} {s : CalibrationTasks}
    (run : CalibrationRun h s) :
    NoRequestLost h ↔
      ∀ later e earlier, h = later ++ e :: earlier → e.label = .serve → Covers earlier := by
  have hsplit : ∀ later e earlier, h = later ++ e :: earlier → e.label = .serve →
      (ServesAll e earlier ↔ Covers earlier) := by
    intro later e earlier heq hserve
    obtain ⟨m, hrun⟩ := (heq ▸ run : CalibrationRun (later ++ e :: earlier) s).of_append
    exact servesAll_iff hrun hserve
  constructor
  · intro hlost later e earlier heq hserve
    exact (hsplit later e earlier heq hserve).mp (hlost later e earlier heq hserve)
  · intro hcovers later e earlier heq hserve
    exact (hsplit later e earlier heq hserve).mpr (hcovers later e earlier heq hserve)

/-- Foot 0 is to be calibrated, then foot 1, and then the service passes. -/
def twoRequests : List CalibrationStep :=
  [.command Sensormsg.kContactCalibrate [0], .command Sensormsg.kContactCalibrate [1], .check,
    .serve]

def twoRequestsRun : CalibrationTasks × List CalibrationEvent :=
  (replay CalibrationTasks.step {} [] twoRequests).getD ({}, [])

theorem twoRequests_run : CalibrationRun twoRequestsRun.2 twoRequestsRun.1 := by
  refine run_replay twoRequests .nil ?_
  unfold twoRequestsRun
  cases hreplay : replay CalibrationTasks.step {} [] twoRequests with
  | some out => rfl
  | none =>
    have hsome : (replay CalibrationTasks.step {} [] twoRequests).isSome := by decide
    rw [hreplay] at hsome
    cases hsome

theorem calibration_served_iff_twoRequests :
    NoRequestLost twoRequestsRun.2 ↔
      ∀ later e earlier, twoRequestsRun.2 = later ++ e :: earlier → e.label = .serve →
        Covers earlier :=
  calibration_served_iff twoRequests_run

theorem calibration_request_lost :
    ¬ ∀ (h : List CalibrationEvent) (s : CalibrationTasks), CalibrationRun h s → NoRequestLost h := by
  intro hall
  have hlost := hall _ _ twoRequests_run
  obtain ⟨e, earlier, hlist⟩ := List.exists_cons_of_ne_nil
    (show twoRequestsRun.2 ≠ [] by decide)
  have hrun : CalibrationRun (e :: earlier) twoRequestsRun.1 := hlist ▸ twoRequests_run
  have hserve : e.label = .serve := by
    have hhead : twoRequestsRun.2.head?.map Event.label = some .serve := by decide
    rw [hlist] at hhead
    exact Option.some.inj hhead
  have hcovers := (servesAll_iff hrun hserve).mp (hlost [] e earlier hlist hserve)
  have hno : ¬ Covers twoRequestsRun.2.tail := by decide
  rw [hlist] at hno
  exact hno hcovers

end HexapodVerified.App
