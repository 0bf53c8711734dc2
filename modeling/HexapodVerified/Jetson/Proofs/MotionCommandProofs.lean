import HexapodVerified.Jetson.MotionCommandAdapter
import HexapodVerified.Lib.PastTime

/-!
# A motion is stopped when it is no longer valid

Between two calls of the adapter, a part that the bridge has accepted since the last stop means that an
expiry is pending, and the call that finds it due stops the motion first.
-/

namespace HexapodVerified.Jetson

open FloatArith Transition PastTime

namespace BridgeCall

variable {F : Type}

@[simp] def isStop : BridgeCall F → Bool
  | .stopMotion => true
  | .forwarded _ _ => false

@[simp] def isAccepted : BridgeCall F → Bool
  | .stopMotion => false
  | .forwarded _ accepted => accepted

@[simp] def isRejected : BridgeCall F → Bool
  | .stopMotion => false
  | .forwarded _ accepted => !accepted

end BridgeCall

namespace MotionCommandAdapter

variable {F T : Type}

def accepted (parts : List (String × MotionPart F)) : List (BridgeCall F) :=
  parts.map fun part => .forwarded part.2 true

/-- What `forward` can do: all parts are accepted, or the first one that is not is followed by a stop. -/
inductive Forwards (a : MotionCommandAdapter T) (parts : List (String × MotionPart F)) :
    MotionCommandAdapter T × Bool × List (BridgeCall F) → Prop where
  | all : Forwards a parts (a, true, accepted parts)
  | upTo {a' : MotionCommandAdapter T} (sent : List (String × MotionPart F)) (part : MotionPart F)
      (hexpires : a'.expires_at = none) :
      Forwards a parts (a', false, accepted sent ++ [.forwarded part false, .stopMotion])

theorem forwards_forward (respond : Responder F) (parts : List (String × MotionPart F))
    (a : MotionCommandAdapter T) : Forwards a parts (forward respond parts a) := by
  induction parts with
  | nil => exact .all
  | cons labelled rest ih =>
    rcases labelled with ⟨label, part⟩
    unfold forward send
    by_cases hok : respond part = some true
    · simp only [hok, if_true, decide_true, List.nil_append]
      revert ih
      generalize forward respond rest a = result
      intro ih
      cases ih with
      | all => exact .all
      | upTo sent part' hexpires => exact .upTo ((label, part) :: sent) part' hexpires
    · simp only [hok, if_false, decide_false, Bool.false_eq_true]
      exact .upTo [] part rfl

variable [FloatArith T]

def due (a : MotionCommandAdapter T) (now : T) : Bool := a.expires_at.any fun t => !lt now t

def stops (a : MotionCommandAdapter T) (now : T) : List (BridgeCall F) :=
  if a.due now then [.stopMotion] else []

def pending (a : MotionCommandAdapter T) (now : T) : Option T :=
  if a.due now then none else a.expires_at

theorem expireIfNeeded_eq (a : MotionCommandAdapter T) (now : T) :
    a.expireIfNeeded now =
      ({ a with expires_at := a.pending now }, a.due now, (a.stops now : List (BridgeCall F))) := by
  unfold expireIfNeeded stops pending due
  rcases a with ⟨_ | expires_at, last_error⟩
  · rfl
  · by_cases hlt : lt now expires_at = true
    · simp [hlt]
    · simp [hlt]

variable [FloatArith F]

/-- What a call can do: it forwards nothing, it stops at a part that is not accepted, or it starts the
validity of a motion. -/
inductive Serves (a : MotionCommandAdapter T) (c : TimedCall F T) :
    MotionCommandAdapter T × AdapterResult F → Prop where
  | quiet {a' : MotionCommandAdapter T} {returned : Bool}
      (hexpires : a'.expires_at = a.pending c.start)
      (hfails : ∀ command respond, c.call = .accept command respond → returned = false) :
      Serves a c (a', ⟨returned, a.stops c.start⟩)
  | failed {a' : MotionCommandAdapter T} (sent : List (String × MotionPart F)) (part : MotionPart F)
      (hexpires : a'.expires_at = none) :
      Serves a c (a', ⟨false, a.stops c.start ++
        (accepted sent ++ [.forwarded part false, .stopMotion])⟩)
  | moving {a' : MotionCommandAdapter T} {command : MotionCommandInput F} {respond : Responder F}
      {mapped : MappedMotionCommand F T} (hcall : c.call = .accept command respond)
      (hmapped : command.mapMotionCommand = .ok mapped)
      (hexpires : a'.expires_at = some (c.finish + mapped.validity_s)) :
      Serves a c (a', ⟨true, a.stops c.start ++ accepted mapped.parts⟩)

theorem serves_serve (a : MotionCommandAdapter T) (c : TimedCall F T) : Serves a c (a.serve c) := by
  rcases c with ⟨call, start, finish⟩
  unfold serve
  cases call with
  | expireIfNeeded =>
    rw [expireIfNeeded_eq]
    refine .quiet rfl ?_
    rintro command respond ⟨⟩
  | accept command respond =>
    dsimp only [accept]
    rw [expireIfNeeded_eq]
    cases hmapped : command.mapMotionCommand (T := T) with
    | error error => exact .quiet rfl fun _ _ _ => rfl
    | ok mapped =>
      dsimp only
      have hforwards := forwards_forward respond mapped.parts
        { expires_at := a.pending start, last_error := none }
      revert hforwards
      generalize forward respond mapped.parts _ = result
      intro hforwards
      cases hforwards with
      | all => exact .moving rfl hmapped rfl
      | upTo sent part hexpires => exact .failed sent part hexpires

end MotionCommandAdapter

variable {F : Type} {clock : ℝ} {h : List (AdapterEvent F ℝ)} {s : ClockedAdapter ℝ}

def issued (h : List (AdapterEvent F ℝ)) : List (BridgeCall F) :=
  h.flatMap fun e => e.label.2.calls.reverse

/-- Some part of a motion was accepted since the last stop. -/
def Moving (h : List (AdapterEvent F ℝ)) : Prop :=
  Since (fun call => call.isStop = false) (fun call => call.isAccepted = true) (issued h)

noncomputable def MotionCommandInput.validity (command : MotionCommandInput F) : ℝ :=
  command.valid_for_sec + command.valid_for_nanosec / 1000000000

/-- An accept of this command that has returned `true`. -/
def Accepts (command : MotionCommandInput F) (e : AdapterEvent F ℝ) : Prop :=
  (∃ respond, e.label.1.call = .accept command respond) ∧ e.label.2.returned = true

def Succeeds (e : AdapterEvent F ℝ) : Prop := ∃ command, Accepts command e

/-- The accept allows the time: its validity, one second at most, behind its end. -/
def Allows (expires_at : ℝ) (e : AdapterEvent F ℝ) : Prop :=
  ∃ command, Accepts command e ∧ expires_at ≤ e.label.1.finish + min command.validity 1

def Due (e : AdapterEvent F ℝ) : Prop :=
  ∃ expires_at, e.pre.adapter.expires_at = some expires_at ∧ expires_at ≤ e.label.1.start

theorem due_iff {e : AdapterEvent F ℝ} : e.pre.adapter.due e.label.1.start = true ↔ Due e := by
  unfold MotionCommandAdapter.due Due
  rw [Option.any_eq_true]
  simp only [Bool.not_eq_true', ← Bool.not_eq_true, lt_exact, not_lt]

theorem issued_cons (e : AdapterEvent F ℝ) (h : List (AdapterEvent F ℝ)) :
    issued (e :: h) = e.label.2.calls.reverse ++ issued h := List.flatMap_cons

theorem not_moving_of_stop {e : AdapterEvent F ℝ} (calls : List (BridgeCall F))
    (hcalls : e.label.2.calls = calls ++ [.stopMotion]) : ¬ Moving (e :: h) := by
  unfold Moving
  rw [issued_cons, hcalls, List.reverse_append]
  rintro (haccepted | ⟨hstop, -⟩)
  · cases haccepted
  · cases hstop

open Classical in
/-- What the calls of one event say: one stop for each expiry and each rejected part, and the one for the
expiry first. -/
structure StopsOnce (e : AdapterEvent F ℝ) : Prop where
  first : Due e → e.label.2.calls.head? = some .stopMotion
  count : e.label.2.calls.countP BridgeCall.isStop =
    (if Due e then 1 else 0) + e.label.2.calls.countP BridgeCall.isRejected
  rejected : e.label.2.calls.countP BridgeCall.isRejected ≤ 1

/-- The motion since the last stop has an expiry. -/
def Guarded (h : List (AdapterEvent F ℝ)) (s : ClockedAdapter ℝ) : Prop :=
  Moving h → ∃ expires_at, s.adapter.expires_at = some expires_at ∧ Latest Succeeds (Allows expires_at) h

theorem stopsOnce_of_calls {e : AdapterEvent F ℝ} (calls : List (BridgeCall F))
    (hcalls : e.label.2.calls = e.pre.adapter.stops e.label.1.start ++ calls)
    (hcount : calls.countP BridgeCall.isStop = calls.countP BridgeCall.isRejected)
    (hrejected : calls.countP BridgeCall.isRejected ≤ 1) : StopsOnce e := by
  unfold MotionCommandAdapter.stops at hcalls
  by_cases hdue : Due e
  · rw [if_pos (due_iff.mpr hdue)] at hcalls
    refine ⟨fun _ => by rw [hcalls]; rfl, ?_, ?_⟩
    · rw [hcalls, if_pos hdue]
      simp [List.countP_cons, hcount, Nat.add_comm]
    · rw [hcalls]
      simpa [List.countP_cons] using hrejected
  · rw [if_neg fun h => hdue (due_iff.mp h), List.nil_append] at hcalls
    refine ⟨fun h => absurd h hdue, ?_, ?_⟩
    · rw [hcalls, if_neg hdue, Nat.zero_add, hcount]
    · rw [hcalls]
      exact hrejected

theorem countP_accepted (parts : List (String × MotionPart F)) :
    (MotionCommandAdapter.accepted parts).countP BridgeCall.isStop = 0 ∧
      (MotionCommandAdapter.accepted parts).countP BridgeCall.isRejected = 0 := by
  unfold MotionCommandAdapter.accepted
  simp [List.countP_eq_zero]

/-- A call without a successful accept keeps the expiry of a motion that it does not stop. -/
theorem Guarded.quiet {e : AdapterEvent F ℝ} (hguarded : Guarded h e.pre)
    (hcalls : e.label.2.calls = e.pre.adapter.stops e.label.1.start)
    (hexpires : e.post.adapter.expires_at = e.pre.adapter.pending e.label.1.start) (hnot : ¬ Succeeds e) :
    Guarded (e :: h) e.post := by
  intro hmoving
  by_cases hdue : e.pre.adapter.due e.label.1.start = true
  · refine absurd hmoving (not_moving_of_stop [] ?_)
    rw [hcalls, MotionCommandAdapter.stops, if_pos hdue]
    rfl
  · have hnone : e.label.2.calls = [] := by
      rw [hcalls, MotionCommandAdapter.stops, if_neg hdue]
    have hbefore : Moving h := by
      unfold Moving at hmoving ⊢
      rwa [issued_cons, hnone] at hmoving
    obtain ⟨expires_at, hpending, hlatest⟩ := hguarded hbefore
    refine ⟨expires_at, ?_, (latest_cons_of_not hnot).mpr hlatest⟩
    rw [hexpires, MotionCommandAdapter.pending, if_neg hdue, hpending]

variable [FloatArith F]

theorem validity_le {command : MotionCommandInput F} {mapped : MappedMotionCommand F ℝ}
    (hmapped : command.mapMotionCommand = .ok mapped) : mapped.validity_s ≤ min command.validity 1 := by
  unfold MotionCommandInput.mapMotionCommand at hmapped
  iterate 3
    split at hmapped
    · cases hmapped
  cases hmapped
  have hfloor : command.valid_for_nanosec / 1000000 * 1000000 ≤ command.valid_for_nanosec :=
    Int.ediv_mul_le _ (by norm_num)
  have hfloor' : ((command.valid_for_nanosec / 1000000 : ℤ) : ℝ) * 1000000 ≤
      command.valid_for_nanosec := by exact_mod_cast hfloor
  have hms : ((min command.requestedMs MAXIMUM_VALIDITY_MS : ℤ) : ℝ) / 1000 ≤
      min command.validity 1 := by
    unfold MotionCommandInput.requestedMs MotionCommandInput.validity
    push_cast
    have hleft := min_le_left
      ((command.valid_for_sec : ℝ) * 1000 + (command.valid_for_nanosec / 1000000 : ℤ)) 1000
    have hright := min_le_right
      ((command.valid_for_sec : ℝ) * 1000 + (command.valid_for_nanosec / 1000000 : ℤ)) 1000
    refine le_min ?_ ?_
    · linarith
    · linarith
  simpa using hms

theorem guarded_step {e : AdapterEvent F ℝ} (hguarded : Guarded h e.pre)
    (hstep : ClockedAdapter.Step e.pre e.label e.post) : Guarded (e :: h) e.post ∧ StopsOnce e := by
  obtain ⟨hstart, hfinish, hclock, hserve⟩ := hstep
  have hserves := e.pre.adapter.serves_serve e.label.1
  rw [hserve] at hserves
  generalize hresult : e.label.2 = result at hserves
  generalize hpost : e.post.adapter = a' at hserves
  cases hserves with
  | @quiet _ returned hexpires hfails =>
    have hcalls : e.label.2.calls = e.pre.adapter.stops e.label.1.start := by rw [hresult]
    have hnot : ¬ Succeeds e := by
      rintro ⟨command, ⟨respond, hcall⟩, htrue⟩
      rw [hresult, hfails command respond hcall] at htrue
      cases htrue
    refine ⟨hguarded.quiet hcalls (by rw [hpost, hexpires]) hnot, stopsOnce_of_calls [] ?_ rfl (Nat.zero_le _)⟩
    rw [hcalls, List.append_nil]
  | failed sent part hexpires =>
    obtain ⟨hnostop, hnorejected⟩ := countP_accepted sent
    refine ⟨fun hmoving => ?_, stopsOnce_of_calls _ (by rw [hresult]) ?_ ?_⟩
    · refine absurd hmoving (not_moving_of_stop (e.pre.adapter.stops e.label.1.start ++
        (MotionCommandAdapter.accepted sent ++ [.forwarded part false])) ?_)
      rw [hresult]
      simp
    · simp [List.countP_append, hnostop, hnorejected]
    · simp [List.countP_append, hnorejected]
  | @moving _ command respond mapped hcall hmapped hexpires =>
    obtain ⟨hnostop, hnorejected⟩ := countP_accepted mapped.parts
    have haccepts : Accepts command e := ⟨⟨respond, hcall⟩, by rw [hresult]⟩
    refine ⟨fun _ => ⟨_, by rw [hpost, hexpires], ?_⟩, stopsOnce_of_calls _ (by rw [hresult]) ?_ ?_⟩
    · refine (latest_cons_of ⟨command, haccepts⟩).mpr ⟨command, haccepts, ?_⟩
      have := validity_le hmapped
      linarith
    · rw [hnostop, hnorejected]
    · rw [hnorejected]
      exact Nat.zero_le _

/-- In every run: a motion that was accepted since the last stop has a pending expiry, at most the requested
validity and at most a second behind the latest successful accept; the call that finds it due stops first;
and there is one stop for each expiry and for each part that is not accepted. -/
theorem motion_stopped (run : AdapterRun clock h s) : Guarded h s ∧ ∀ e ∈ h, StopsOnce e := by
  induction run with
  | nil => exact ⟨fun hmoving => absurd hmoving since_nil, List.forall_mem_nil _⟩
  | @step h s t io run hstep ih =>
    obtain ⟨hguarded, hall⟩ := ih
    obtain ⟨hguarded', hstops⟩ := guarded_step (e := ⟨s, io, t⟩) hguarded hstep
    exact ⟨hguarded', List.forall_mem_cons.mpr ⟨hstops, hall⟩⟩

theorem moving_of_succeeds {e : AdapterEvent F ℝ} (hstep : ClockedAdapter.Step e.pre e.label e.post)
    (hsucceeds : Succeeds e) : Moving (e :: h) := by
  obtain ⟨-, -, -, hserve⟩ := hstep
  obtain ⟨command, ⟨respond, hcall⟩, hreturned⟩ := hsucceeds
  have hserves := e.pre.adapter.serves_serve e.label.1
  rw [hserve] at hserves
  generalize hresult : e.label.2 = result at hserves
  rw [hresult] at hreturned
  cases hserves with
  | quiet hexpires hfails =>
    rw [hfails command respond hcall] at hreturned
    cases hreturned
  | failed sent part hexpires => cases hreturned
  | moving hcall' hmapped hexpires =>
    unfold Moving
    rw [issued_cons, hresult, List.reverse_append]
    exact .now rfl

noncomputable def ClockedAdapter.after (s : ClockedAdapter ℝ) (c : TimedCall F ℝ) : ClockedAdapter ℝ where
  adapter := (s.adapter.serve c).1
  clock := c.finish

noncomputable def ClockedAdapter.event (s : ClockedAdapter ℝ) (c : TimedCall F ℝ) : AdapterEvent F ℝ :=
  ⟨s, (c, (s.adapter.serve c).2), s.after c⟩

theorem run_after (run : AdapterRun clock h s) {c : TimedCall F ℝ} (hstart : s.clock ≤ c.start)
    (hfinish : c.start ≤ c.finish) : AdapterRun clock (s.event c :: h) (s.after c) :=
  run.step ⟨le_exact.mpr hstart, le_exact.mpr hfinish, rfl, rfl⟩

noncomputable def restCommand : MotionCommandInput ℝ :=
  { gait := 0, body_height_m := 0, stride_length_m := 0, step_height_m := 0, duty_factor := 0,
    speed_scale := 0, normalized_vx := 0, normalized_vy := 0, normalized_wz := 0,
    body_translation_x_m := 0, body_translation_y_m := 0, body_translation_z_m := 0,
    body_roll_rad := 0, body_pitch_rad := 0, body_yaw_rad := 0, valid_for_sec := 1,
    valid_for_nanosec := 0 }

theorem map_rest : ∃ mapped : MappedMotionCommand ℝ ℝ,
    restCommand.mapMotionCommand = .ok mapped ∧ mapped.validity_s = 1 := by
  have hfinite : restCommand.values.all isfinite = true := by
    simp [MotionCommandInput.values, restCommand, isfinite, FloatArith.feq]
  have hgait : 0 ≤ restCommand.gait ∧ restCommand.gait < GAIT_COUNT := by decide
  have hms : ¬ restCommand.requestedMs ≤ 0 := by decide
  have hvalidity : min restCommand.requestedMs MAXIMUM_VALIDITY_MS = 1000 := by decide
  unfold MotionCommandInput.mapMotionCommand
  rw [if_neg (not_not.mpr hgait), if_neg (not_not.mpr hfinite), if_neg hms]
  refine ⟨_, rfl, ?_⟩
  rw [hvalidity]
  norm_num

/-- The bridge that does not take the parameters of a gait. -/
def refuseParams : Responder ℝ
  | .setGaitParams .. => some false
  | _ => some true

noncomputable def restCall (respond : Responder ℝ) (now : ℝ) : TimedCall ℝ ℝ :=
  ⟨.accept restCommand respond, now, now⟩

theorem serve_rest (a : MotionCommandAdapter ℝ) (now : ℝ) :
    (a.serve (restCall (fun _ => some true) now)).1.expires_at = some (now + 1) ∧
      (a.serve (restCall (fun _ => some true) now)).2.returned = true := by
  obtain ⟨mapped, hmapped, hvalidity⟩ := map_rest
  unfold MotionCommandAdapter.serve restCall MotionCommandAdapter.accept
  dsimp only
  rw [hmapped, ← hvalidity]
  exact ⟨rfl, rfl⟩

theorem rejected_rest (a : MotionCommandAdapter ℝ) (now : ℝ) :
    (a.serve (restCall refuseParams now)).2.calls.countP BridgeCall.isRejected = 1 := by
  obtain ⟨mapped, hmapped, -⟩ := map_rest
  have hstops : (a.stops now : List (BridgeCall ℝ)).countP BridgeCall.isRejected = 0 := by
    unfold MotionCommandAdapter.stops
    split_ifs <;> rfl
  unfold MotionCommandAdapter.serve restCall MotionCommandAdapter.accept
  dsimp only
  rw [hmapped, MotionCommandAdapter.expireIfNeeded_eq]
  show (a.stops now ++ _).countP BridgeCall.isRejected = 1
  rw [List.countP_append, hstops]
  rfl

noncomputable def restStart : ClockedAdapter ℝ where
  adapter := .new
  clock := 0

noncomputable def restMoving : ClockedAdapter ℝ := restStart.after (restCall (fun _ => some true) 0)

/-- A motion is due when the next one comes, of which the bridge refuses a part: two stops. Then it moves again. -/
theorem motion_stopped_refused : ∃ (h : List (AdapterEvent ℝ ℝ)) (s : ClockedAdapter ℝ), AdapterRun 0 h s ∧
    (∃ e ∈ h, Due e ∧ e.label.2.calls.countP BridgeCall.isRejected = 1 ∧
      e.label.2.calls.head? = some .stopMotion ∧ e.label.2.calls.countP BridgeCall.isStop = 2) ∧
    Moving h ∧ Guarded h s := by
  have hstart : AdapterRun (F := ℝ) 0 [] restStart := .nil
  have hmoving : AdapterRun 0 _ restMoving := run_after hstart (le_refl (0 : ℝ)) le_rfl
  have hrefuses := run_after hmoving (c := restCall refuseParams 1) zero_le_one le_rfl
  have run := run_after hrefuses (c := restCall (fun _ => some true) 2) one_le_two le_rfl
  have hdue : Due (restMoving.event (restCall refuseParams 1)) :=
    ⟨0 + 1, (serve_rest .new 0).1, (zero_add (1 : ℝ)).le⟩
  have hrefused := (motion_stopped hrefuses).2 _ (List.mem_cons_self ..)
  refine ⟨_, _, run, ⟨_, List.mem_cons_of_mem _ (List.mem_cons_self ..), hdue, rejected_rest _ 1,
    hrefused.first hdue, ?_⟩, ?_, (motion_stopped run).1⟩
  · rw [hrefused.count, if_pos hdue]
    exact congrArg (1 + ·) (rejected_rest _ 1)
  · exact moving_of_succeeds (run.of_mem (List.mem_cons_self ..)).1 ⟨restCommand, ⟨_, rfl⟩, (serve_rest _ 2).2⟩

end HexapodVerified.Jetson
