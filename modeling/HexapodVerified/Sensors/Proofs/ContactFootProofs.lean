import HexapodVerified.Lib.Tables
import HexapodVerified.Sensors.ContactEstimator

/-!
# Feet and flags of the contact estimator

A call acts on the feet one by one: what it does to a foot depends on that foot, the call and the
parameters only. So a property of the estimator is proved for a single foot.
-/

namespace HexapodVerified.Sensors

open HexapodVerified.Config Tables Transition

section

variable {m : ContactEstimator} {i : Fin kNumFeet} {leg : Nat} {foot : ContactFoot}
  {params : ContactParams} {sample : FootSample} {now_ms : UInt32}

/-- What a call does to the foot `i`. -/
def ContactFoot.call (i : Fin kNumFeet) (params : ContactParams) (foot : ContactFoot) :
    ContactCall → ContactFoot
  | .configure cal params => foot.configure params.guarded (cal.get i)
  | .setThresholds leg near_thresh touch_thresh load_thresh =>
    if leg = i then foot.setThresholds params.guarded near_thresh touch_thresh load_thresh else foot
  | .captureBaseline leg => if leg = i then foot.captureBaseline else foot
  | .setEnabled leg enabled => if leg = i then (foot.setEnabled enabled).1 else foot
  | .reset => foot.reset
  | .update leg sample now_ms => if leg = i then foot.update params sample now_ms else foot
  | .tickStaleness now_ms => foot.tickStaleness params now_ms

def ContactParams.call (params : ContactParams) : ContactCall → ContactParams
  | .configure _ params => params.guarded
  | .setThresholds leg _ _ _ => if leg < kNumFeet then params.guarded else params
  | _ => params

theorem get_modify (j : Fin kNumFeet) (f : ContactFoot → ContactFoot) :
    (m.modify j f).feet.get i = if j = i then f (m.feet.get i) else m.feet.get i := by
  have hset : (m.modify j f).feet.get i = (m.feet.set j.val (f (m.feet.get j)) j.isLt)[i.val] := rfl
  rw [hset, Vector.getElem_set]
  by_cases hij : j = i
  · subst hij
    rw [if_pos rfl, if_pos rfl]
  · rw [if_neg fun hval => hij (Fin.ext hval), if_neg hij]
    rfl

theorem get_modify_leg (m : ContactEstimator) (leg : Nat) (f : ContactFoot → ContactFoot) :
    (if hleg : leg < kNumFeet then m.modify ⟨leg, hleg⟩ f else m).feet.get i =
      if leg = i then f (m.feet.get i) else m.feet.get i := by
  by_cases hleg : leg < kNumFeet
  · rw [dif_pos hleg, get_modify]
    by_cases hi : leg = i
    · rw [if_pos (Fin.ext hi), if_pos hi]
    · rw [if_neg fun heq => hi (congrArg Fin.val heq), if_neg hi]
  · rw [dif_neg hleg, if_neg]
    rintro rfl
    exact hleg i.isLt

theorem get_setThresholds (near_thresh touch_thresh load_thresh : UInt16) :
    (m.setThresholds leg near_thresh touch_thresh load_thresh).feet.get i =
      if leg = i then
        (m.feet.get i).setThresholds m.params.guarded near_thresh touch_thresh load_thresh
      else m.feet.get i := by
  unfold ContactEstimator.setThresholds
  by_cases hleg : leg < kNumFeet
  · have hget := get_modify_leg (i := i) { m with params := m.params.guarded } leg
      (.setThresholds m.params.guarded near_thresh touch_thresh load_thresh)
    rw [dif_pos hleg] at hget ⊢
    exact hget
  · rw [dif_neg hleg, if_neg]
    rintro rfl
    exact hleg i.isLt

theorem get_setEnabled (enabled : Bool) :
    (m.setEnabled leg enabled).1.feet.get i =
      if leg = i then ((m.feet.get i).setEnabled enabled).1 else m.feet.get i := by
  unfold ContactEstimator.setEnabled
  rw [apply_dite Prod.fst]
  exact get_modify_leg m leg fun foot => (foot.setEnabled enabled).1

theorem get_call (m : ContactEstimator) (c : ContactCall) (i : Fin kNumFeet) :
    (m.call c).feet.get i = (m.feet.get i).call i m.params c := by
  cases c with
  | configure cal params => exact get_ofFn _ i
  | setThresholds leg near_thresh touch_thresh load_thresh => exact get_setThresholds _ _ _
  | captureBaseline leg => exact get_modify_leg m leg _
  | setEnabled leg enabled => exact get_setEnabled _
  | reset => exact get_ofFn _ i
  | update leg sample now_ms => exact get_modify_leg m leg _
  | tickStaleness now_ms => exact get_ofFn _ i

theorem params_modify_leg (f : ContactFoot → ContactFoot) :
    (if hleg : leg < kNumFeet then m.modify ⟨leg, hleg⟩ f else m).params = m.params := by
  split <;> rfl

theorem params_call (m : ContactEstimator) (c : ContactCall) :
    (m.call c).params = m.params.call c := by
  cases c with
  | configure cal params => rfl
  | setThresholds leg near_thresh touch_thresh load_thresh =>
    show (m.setThresholds leg near_thresh touch_thresh load_thresh).params =
      if leg < kNumFeet then m.params.guarded else m.params
    unfold ContactEstimator.setThresholds
    split <;> rfl
  | captureBaseline leg => exact params_modify_leg _
  | setEnabled leg enabled =>
    show (m.setEnabled leg enabled).1.params = m.params
    unfold ContactEstimator.setEnabled
    rw [apply_dite Prod.fst]
    exact params_modify_leg fun foot => (foot.setEnabled enabled).1
  | reset => rfl
  | update leg sample now_ms => exact params_modify_leg _
  | tickStaleness now_ms => rfl

/-- The call is an update of the foot, or finds that it has timed out. -/
def ContactFoot.Concerned (i : Fin kNumFeet) (params : ContactParams) (foot : ContactFoot) :
    ContactCall → Prop
  | .update leg _ _ => leg = i
  | .tickStaleness now_ms => foot.timedOut params now_ms = true
  | _ => False

/-- What a call can do to the foot `i`. -/
inductive FootMove (i : Fin kNumFeet) (params : ContactParams) (foot : ContactFoot) :
    ContactCall → ContactFoot → Prop where
  | configure (cal : Vector FootSensorCal kNumFeet) (params' : ContactParams) :
      FootMove i params foot (.configure cal params') (foot.configure params'.guarded (cal.get i))
  | setThresholds (near_thresh touch_thresh load_thresh : UInt16) :
      FootMove i params foot (.setThresholds i.val near_thresh touch_thresh load_thresh)
        (foot.setThresholds params.guarded near_thresh touch_thresh load_thresh)
  | captureBaseline : FootMove i params foot (.captureBaseline i.val) foot.captureBaseline
  /-- A foot is enabled only with usable thresholds. -/
  | setEnabled (enabled : Bool)
      (husable : enabled = true →
        0 < foot.ctx.touch_thresh ∧ foot.ctx.touch_thresh ≤ foot.ctx.load_thresh) :
      FootMove i params foot (.setEnabled i.val enabled)
        { foot with ctx := { foot.ctx with enabled := enabled } }
  | reset : FootMove i params foot .reset foot.reset
  /-- A failed read is counted. -/
  | fail (sample : FootSample) (now_ms : UInt32) (hok : sample.ok = false) :
      FootMove i params foot (.update i.val sample now_ms) (foot.failRead params)
  /-- A sample of a disabled foot is mirrored. -/
  | mirror (sample : FootSample) (now_ms : UInt32) (hok : sample.ok = true)
      (hoff : foot.ctx.enabled = false) :
      FootMove i params foot (.update i.val sample now_ms) (foot.takeSample sample now_ms).mirror
  /-- A sample of an enabled foot is classified. -/
  | classify (sample : FootSample) (now_ms : UInt32) (hok : sample.ok = true)
      (hon : foot.ctx.enabled = true) :
      FootMove i params foot (.update i.val sample now_ms)
        ((foot.takeSample sample now_ms).classify params sample)
  | timeout (now_ms : UInt32) (htimeout : foot.timedOut params now_ms = true) :
      FootMove i params foot (.tickStaleness now_ms) (foot.tickStaleness params now_ms)
  /-- The call is for another foot, is refused, or finds the foot alive. -/
  | skip {c : ContactCall} (hother : ¬ foot.Concerned i params c) : FootMove i params foot c foot

theorem footMove_update (i : Fin kNumFeet) (params : ContactParams) (foot : ContactFoot)
    (sample : FootSample) (now_ms : UInt32) :
    FootMove i params foot (.update i.val sample now_ms) (foot.update params sample now_ms) := by
  unfold ContactFoot.update
  have henabled : (foot.takeSample sample now_ms).ctx.enabled = foot.ctx.enabled := rfl
  cases hok : sample.ok with
  | false => exact .fail sample now_ms hok
  | true =>
    dsimp only
    rw [henabled]
    cases hon : foot.ctx.enabled with
    | false => exact .mirror sample now_ms hok hon
    | true => exact .classify sample now_ms hok hon

theorem footMove_setEnabled (i : Fin kNumFeet) (params : ContactParams) (foot : ContactFoot)
    (enabled : Bool) :
    FootMove i params foot (.setEnabled i.val enabled) (foot.setEnabled enabled).1 := by
  unfold ContactFoot.setEnabled
  dsimp only
  split_ifs with hrefuse
  · exact .skip id
  · refine .setEnabled enabled fun hon => ?_
    rw [not_and_or, not_or, not_or] at hrefuse
    obtain ⟨htouch, -, horder⟩ := hrefuse.resolve_left (not_not.mpr hon)
    exact ⟨not_le.mp htouch, not_lt.mp horder⟩

theorem footMove_call (i : Fin kNumFeet) (params : ContactParams) (foot : ContactFoot)
    (c : ContactCall) : FootMove i params foot c (foot.call i params c) := by
  unfold ContactFoot.call
  cases c with
  | configure cal params' => exact .configure cal params'
  | setThresholds leg near_thresh touch_thresh load_thresh =>
    dsimp only
    split_ifs with hleg
    · subst hleg
      exact .setThresholds near_thresh touch_thresh load_thresh
    · exact .skip id
  | captureBaseline leg =>
    dsimp only
    split_ifs with hleg
    · subst hleg
      exact .captureBaseline
    · exact .skip id
  | setEnabled leg enabled =>
    dsimp only
    split_ifs with hleg
    · subst hleg
      exact footMove_setEnabled i params foot enabled
    · exact .skip id
  | reset => exact .reset
  | update leg sample now_ms =>
    dsimp only
    split_ifs with hleg
    · subst hleg
      exact footMove_update i params foot sample now_ms
    · exact .skip hleg
  | tickStaleness now_ms =>
    by_cases htimeout : foot.timedOut params now_ms = true
    · exact .timeout now_ms htimeout
    · have hsame : foot.tickStaleness params now_ms = foot := if_neg htimeout
      dsimp only
      rw [hsame]
      exact .skip htimeout

theorem update_of_enabled (hok : sample.ok = true) (henabled : foot.ctx.enabled = true) :
    foot.update params sample now_ms = (foot.takeSample sample now_ms).classify params sample := by
  have hon : (foot.takeSample sample now_ms).ctx.enabled = true := henabled
  unfold ContactFoot.update
  dsimp only
  rw [hok, hon]
  rfl

theorem guarded_guarded (params : ContactParams) : params.guarded.guarded = params.guarded := by
  unfold ContactParams.guarded
  by_cases hden : params.release_den = 0
  · rw [if_pos hden]
    rfl
  · rw [if_neg hden, if_neg hden]

/-- A loop over the feet that acts on each of them once. -/
theorem get_foldl {f : ContactEstimator → Fin kNumFeet → ContactEstimator}
    {g : ContactParams → Fin kNumFeet → ContactFoot → ContactFoot}
    (hparams : ∀ m j, (f m j).params.guarded = m.params.guarded)
    (hget : ∀ m i j, (f m j).feet.get i =
      if j = i then g m.params.guarded i (m.feet.get i) else m.feet.get i)
    {feet : List (Fin kNumFeet)} (hfeet : feet.Nodup) (m : ContactEstimator) (i : Fin kNumFeet) :
    (feet.foldl f m).feet.get i =
      if i ∈ feet then g m.params.guarded i (m.feet.get i) else m.feet.get i := by
  induction feet generalizing m with
  | nil => rfl
  | cons j feet ih =>
    obtain ⟨hj, hrest⟩ := List.nodup_cons.mp hfeet
    rw [List.foldl_cons, ih hrest, hparams, hget]
    by_cases hij : j = i
    · subst hij
      rw [if_neg hj, if_pos rfl, if_pos List.mem_cons_self]
    · have hmem : i ∈ j :: feet ↔ i ∈ feet := by rw [List.mem_cons, or_iff_right (Ne.symm hij)]
      rw [if_neg hij]
      exact (if_congr hmem rfl rfl).symm

/-- Feet with a touch threshold of 20 and a load threshold of 30. -/
def calibratedFeet : Vector FootSensorCal kNumFeet :=
  .replicate _ { near_thresh := 10, touch_thresh := 20, load_thresh := 30, enabled := 1 }

end

/-!
## The contact flags

The state of a foot is published together with flags that repeat it. Whatever writes the state restores
them, with one exception: a failed read that takes a stale foot to fault leaves its stale flag set.
-/

section

variable {m : ContactEstimator} {i : Fin kNumFeet} {foot : ContactFoot} {params : ContactParams}
  {sample : FootSample} {now_ms : UInt32} {st : LegContactState} {c : ContactCall}
  {h : List ContactEvent}

/-- The flags tell the state, and only contact is reported with confidence. -/
structure FlagsTell (st : LegContactState) : Prop where
  touch : st.touch = true ↔ st.state = .touch ∨ st.state = .loaded
  loaded : st.loaded = true ↔ st.state = .loaded
  release : st.release = true ↔ st.state = .release
  fault : st.fault = true ↔ st.state = .fault
  stale : st.stale = true ↔ st.state = .stale
  confidence : 128 ≤ st.confidence → st.state = .touch ∨ st.state = .loaded

/-- A failed read, the last one that the foot is allowed, comes while it is stale. -/
def ContactFoot.FaultsStale (i : Fin kNumFeet) (params : ContactParams) (foot : ContactFoot) :
    ContactCall → Prop
  | .update leg sample _ =>
    leg = i ∧ sample.ok = false ∧ foot.state.state = .stale ∧
      params.fault_limit ≤ bump foot.ctx.fault_count
  | _ => False

instance : Decidable (foot.FaultsStale i params c) :=
  match c with
  | .update _ _ _ => inferInstanceAs (Decidable (_ ∧ _ ∧ _ ∧ _))
  | .configure _ _ | .setThresholds _ _ _ _ | .captureBaseline _ | .setEnabled _ _ | .reset
  | .tickStaleness _ => .isFalse id

theorem ContactFoot.FaultsStale.concerned (hfaults : foot.FaultsStale i params c) :
    foot.Concerned i params c := by
  cases c with
  | update leg sample now_ms => exact hfaults.1
  | _ => exact hfaults.elim

/-- A sample is never classified as stale or at fault. -/
theorem nextState_live (params : ContactParams) (c : FootCtx) (near : Bool) (prev : ContactState) :
    nextState params c near prev ≠ .stale ∧ nextState params c near prev ≠ .fault := by
  unfold nextState
  cases prev <;> dsimp only <;> split_ifs <;> exact ⟨nofun, nofun⟩

theorem confidenceFor_contact {c : FootCtx} {delta : Int32}
    (hconfident : 128 ≤ confidenceFor c st delta) : st.state = .touch ∨ st.state = .loaded := by
  unfold confidenceFor at hconfident
  cases hstate : st.state <;> rw [hstate] at hconfident
  case touch => exact .inl rfl
  case loaded => exact .inr rfl
  all_goals
    dsimp only at hconfident
    exact absurd hconfident (by decide)

theorem flagsTell_clear (htouch : st.touch = false) (hloaded : st.loaded = false)
    (hrelease : st.release = false) (hconfidence : st.confidence = 0)
    (hstate : st.state = .air ∨ st.state = .stale ∨ st.state = .fault)
    (hfault : st.fault = true ↔ st.state = .fault) (hstale : st.stale = true ↔ st.state = .stale) :
    FlagsTell st := by
  refine ⟨?_, ?_, ?_, hfault, hstale, fun hconfident => ?_⟩
  · rcases hstate with hs | hs | hs
    all_goals
      rw [htouch, hs]
      exact iff_of_false nofun nofun
  · rcases hstate with hs | hs | hs
    all_goals
      rw [hloaded, hs]
      exact iff_of_false nofun nofun
  · rcases hstate with hs | hs | hs
    all_goals
      rw [hrelease, hs]
      exact iff_of_false nofun nofun
  · rw [hconfidence] at hconfident
    cases hconfident

/-- The classification writes all flags of a foot that is neither stale nor at fault any more. -/
theorem flagsTell_classify (hfault : foot.state.fault = false) (hstale : foot.state.stale = false) :
    FlagsTell (foot.classify params sample).state := by
  obtain ⟨hlive, hsound⟩ := nextState_live params
    (countSample foot.ctx (foot.delta sample) (foot.near sample)) (foot.near sample) foot.state.state
  refine ⟨?_, ?_, ?_, ?_, ?_, fun hconfident => confidenceFor_contact hconfident⟩
  · exact (Bool.or_eq_true _ _).to_iff.trans (or_congr beq_iff_eq beq_iff_eq)
  · exact beq_iff_eq
  · exact beq_iff_eq
  · exact iff_of_false (ne_true_of_eq_false hfault) hsound
  · exact iff_of_false (ne_true_of_eq_false hstale) hlive

theorem flagsTell_mirror (hfault : foot.state.fault = false) (hstale : foot.state.stale = false) :
    FlagsTell foot.mirror.state :=
  flagsTell_clear rfl rfl rfl rfl (.inl rfl) (iff_of_false (ne_true_of_eq_false hfault) nofun)
    (iff_of_false (ne_true_of_eq_false hstale) nofun)

/-- A failed read restores the flags unless it takes a stale foot to fault. -/
theorem flagsTell_failRead (htell : FlagsTell foot.state) :
    FlagsTell (foot.failRead params).state ↔
      ¬ (foot.state.state = .stale ∧ params.fault_limit ≤ bump foot.ctx.fault_count) := by
  unfold ContactFoot.failRead
  by_cases hlimit : bump foot.ctx.fault_count ≥ params.fault_limit
  · rw [if_pos hlimit]
    constructor
    · rintro htell' ⟨hstale, -⟩
      exact absurd (htell'.stale.mp (htell.stale.mpr hstale)) nofun
    · intro hnot
      have hfresh : foot.state.stale ≠ true := fun hset => hnot ⟨htell.stale.mp hset, hlimit⟩
      exact flagsTell_clear rfl rfl rfl rfl (.inr (.inr rfl)) (iff_of_true rfl rfl)
        (iff_of_false hfresh nofun)
  · rw [if_neg hlimit]
    exact iff_of_true htell fun hfaults => hlimit hfaults.2

theorem flagsTell_tickStaleness (htell : FlagsTell foot.state) :
    FlagsTell (foot.tickStaleness params now_ms).state := by
  unfold ContactFoot.tickStaleness
  split_ifs with htimeout
  · have hsound : foot.state.state ≠ .fault := (of_decide_eq_true htimeout).1
    exact flagsTell_clear rfl rfl rfl rfl (.inr (.inl rfl))
      (iff_of_false (fun hset => hsound (htell.fault.mp hset)) nofun) (iff_of_true rfl rfl)
  · exact htell

/-- A call keeps the flags of a foot right unless it is a failed read that takes it from stale to
fault. -/
theorem flagsTell_call (htell : FlagsTell foot.state) :
    FlagsTell (foot.call i params c).state ↔ ¬ foot.FaultsStale i params c := by
  have hmove := footMove_call i params foot c
  generalize foot.call i params c = foot' at hmove ⊢
  cases hmove with
  | configure cal params' =>
    exact iff_of_true ⟨htell.touch, htell.loaded, htell.release, htell.fault, htell.stale,
      htell.confidence⟩ id
  | setThresholds near_thresh touch_thresh load_thresh => exact iff_of_true htell id
  | captureBaseline =>
    exact iff_of_true ⟨htell.touch, htell.loaded, htell.release, htell.fault, htell.stale,
      htell.confidence⟩ id
  | setEnabled enabled husable => exact iff_of_true htell id
  | reset =>
    exact iff_of_true (flagsTell_clear rfl rfl rfl rfl (.inl rfl) (iff_of_false nofun nofun)
      (iff_of_false nofun nofun)) id
  | fail sample now_ms hok =>
    rw [flagsTell_failRead htell]
    exact not_congr ⟨fun hfaults => ⟨rfl, hok, hfaults⟩, fun hfaults => hfaults.2.2⟩
  | mirror sample now_ms hok hoff =>
    exact iff_of_true (flagsTell_mirror rfl rfl) fun hfaults =>
      nomatch hok.symm.trans hfaults.2.1
  | classify sample now_ms hok hon =>
    exact iff_of_true (flagsTell_classify rfl rfl) fun hfaults =>
      nomatch hok.symm.trans hfaults.2.1
  | timeout now_ms htimeout => exact iff_of_true (flagsTell_tickStaleness htell) id
  | skip hother => exact iff_of_true htell fun hfaults => hother hfaults.concerned

/-- A call is, for no foot, a failed read that takes it from stale to fault. -/
def NoStaleFault (e : ContactEvent) : Prop :=
  ∀ i, ¬ (e.pre.feet.get i).FaultsStale i e.pre.params e.label

instance (e : ContactEvent) : Decidable (NoStaleFault e) :=
  inferInstanceAs (Decidable (∀ i, ¬ (e.pre.feet.get i).FaultsStale i e.pre.params e.label))

/-- In every state of a run the flags of all feet tell their states, exactly if no failed read of the run
takes a foot from stale to fault. -/
theorem flags_tell_iff (run : ContactRun h m) :
    Throughout (fun m => ∀ i, FlagsTell (m.feet.get i).state) h m ↔ ∀ e ∈ h, NoStaleFault e := by
  refine run.throughout_iff ?_ ?_
  · have hstart : ∀ i, (({} : ContactEstimator).feet.get i).state = {} := by decide
    intro i
    rw [hstart]
    exact flagsTell_clear rfl rfl rfl rfl (.inl rfl) (iff_of_false nofun nofun)
      (iff_of_false nofun nofun)
  · rintro h ⟨m, c, m'⟩ - hstep htell
    have hpost : m' = m.call c := hstep
    subst hpost
    refine forall_congr' fun i => ?_
    show FlagsTell ((m.call c).feet.get i).state ↔ _
    rw [get_call]
    exact flagsTell_call (htell i)

/-- The calls in which a calibrated foot gives a sample, falls silent, and then fails `failed` times. -/
def silentCalls (failed : Nat) : List ContactCall :=
  [.configure calibratedFeet {}, .update 0 { pressure_raw := 25, ok := true } 0, .tickStaleness 200] ++
    .replicate failed (.update 0 {} 220)

theorem flags_tell_iff_silent :
    Throughout (fun m => ∀ i, FlagsTell (m.feet.get i).state)
      (executeHistory ContactEstimator.call {} [] (silentCalls 4))
      (execute ContactEstimator.call {} (silentCalls 4)) :=
  (flags_tell_iff (run_execute _ _ .nil)).mpr (by decide)

/-- At the fifth failed read the foot is at fault, and still stale. -/
theorem stale_at_fault : ¬ ∀ (h : List ContactEvent) (m : ContactEstimator), ContactRun h m →
    Throughout (fun m => ∀ i, FlagsTell (m.feet.get i).state) h m := by
  intro htell
  have hfinal := (htell _ _ (run_execute _ (silentCalls 5) .nil)).1 0
  have hstate : ((execute ContactEstimator.call {} (silentCalls 5)).feet.get 0).state.state = .fault ∧
      ((execute ContactEstimator.call {} (silentCalls 5)).feet.get 0).state.stale = true := by
    decide
  exact absurd (hstate.1.symm.trans (hfinal.stale.mp hstate.2)) nofun

end

end HexapodVerified.Sensors
