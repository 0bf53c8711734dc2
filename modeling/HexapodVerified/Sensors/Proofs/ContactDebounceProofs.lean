import HexapodVerified.Lib.PastTime
import HexapodVerified.Sensors.Proofs.ContactFootProofs

/-!
# The debounce of the contact states

A foot enters Touch or Loaded when the counter of that level has reached the debounce. The counters are
advanced by the samples alone: a failed read, a fault and a staleness timeout leave them where they are.
So the samples that make up a count are consecutive as far as no such gap found the counter running.
-/

namespace HexapodVerified.Sensors

open HexapodVerified.Config Transition PastTime

variable {m : ContactEstimator} {i : Fin kNumFeet} {foot : ContactFoot} {params : ContactParams}
  {sample : FootSample} {now_ms : UInt32} {c : ContactCall} {e : ContactEvent}
  {h : List ContactEvent}

inductive ContactLevel where
  | touch | loaded
  deriving DecidableEq, Repr

namespace ContactLevel

def thresh (c : FootCtx) : ContactLevel → Int
  | touch => c.touch_thresh
  | loaded => c.load_thresh

def count (c : FootCtx) : ContactLevel → UInt8
  | touch => c.touch_count
  | loaded => c.load_count

def debounce (params : ContactParams) : ContactLevel → UInt8
  | touch => params.touch_debounce
  | loaded => params.load_debounce

def state : ContactLevel → ContactState
  | touch => .touch
  | loaded => .loaded

end ContactLevel

variable {level : ContactLevel}

namespace ContactFoot

/-- The call is a good sample of the foot, at or above the threshold of the level. -/
def Reaches (level : ContactLevel) (i : Fin kNumFeet) (foot : ContactFoot) : ContactCall → Prop
  | .update leg sample _ =>
    leg = i ∧ sample.ok = true ∧ level.thresh foot.ctx ≤ (foot.delta sample).toInt
  | _ => False

/-- The call is a failed read of the foot, or finds that it has timed out. -/
def Gap (i : Fin kNumFeet) (params : ContactParams) (foot : ContactFoot) : ContactCall → Prop
  | .update leg sample _ => leg = i ∧ sample.ok = false
  | .tickStaleness now_ms => foot.timedOut params now_ms = true
  | _ => False

/-- The call is not an update of the foot while it is disabled. -/
def Classified (i : Fin kNumFeet) (foot : ContactFoot) : ContactCall → Prop
  | .update leg _ _ => leg = i → foot.ctx.enabled = true
  | _ => True

instance : Decidable (foot.Reaches level i c) :=
  match c with
  | .update _ _ _ => inferInstanceAs (Decidable (_ ∧ _ ∧ _))
  | .configure _ _ | .setThresholds _ _ _ _ | .captureBaseline _ | .setEnabled _ _ | .reset
  | .tickStaleness _ => .isFalse id

instance : Decidable (foot.Concerned i params c) :=
  match c with
  | .update leg _ _ => inferInstanceAs (Decidable (leg = i))
  | .tickStaleness now_ms => inferInstanceAs (Decidable (foot.timedOut params now_ms = true))
  | .configure _ _ | .setThresholds _ _ _ _ | .captureBaseline _ | .setEnabled _ _ | .reset => .isFalse id

instance : Decidable (foot.Gap i params c) :=
  match c with
  | .update _ _ _ => inferInstanceAs (Decidable (_ ∧ _))
  | .tickStaleness now_ms => inferInstanceAs (Decidable (foot.timedOut params now_ms = true))
  | .configure _ _ | .setThresholds _ _ _ _ | .captureBaseline _ | .setEnabled _ _ | .reset => .isFalse id

instance : Decidable (foot.Classified i c) :=
  match c with
  | .update leg _ _ => inferInstanceAs (Decidable (leg = i → foot.ctx.enabled = true))
  | .tickStaleness _ | .configure _ _ | .setThresholds _ _ _ _ | .captureBaseline _ | .setEnabled _ _
  | .reset => .isTrue trivial

end ContactFoot

/-! ## The counters -/

inductive CountMove (level : ContactLevel) (i : Fin kNumFeet) (params : ContactParams)
    (foot foot' : ContactFoot) (c : ContactCall) : Prop where
  /-- It is set to zero. -/
  | drop (hzero : level.count foot'.ctx = 0)
  /-- A good sample advances it. -/
  | advance (hreaches : foot.Reaches level i c)
      (hcount : level.count foot'.ctx = bump (level.count foot.ctx))
  /-- A gap leaves it. -/
  | gap (hgap : foot.Gap i params c) (hcount : level.count foot'.ctx = level.count foot.ctx)
  /-- The call has nothing to do with it. -/
  | other (hother : ¬ foot.Concerned i params c)
      (hcount : level.count foot'.ctx = level.count foot.ctx)

theorem failRead_count (params : ContactParams) (foot : ContactFoot) (level : ContactLevel) :
    level.count (foot.failRead params).ctx = level.count foot.ctx := by
  unfold ContactFoot.failRead
  dsimp only
  split_ifs <;> cases level <;> rfl

theorem tickStaleness_count (params : ContactParams) (now_ms : UInt32) (foot : ContactFoot)
    (level : ContactLevel) :
    level.count (foot.tickStaleness params now_ms).ctx = level.count foot.ctx := by
  unfold ContactFoot.tickStaleness
  split_ifs <;> rfl

theorem classify_count (params : ContactParams) (sample : FootSample) (now_ms : UInt32)
    (foot : ContactFoot) (level : ContactLevel) :
    level.count ((foot.takeSample sample now_ms).classify params sample).ctx =
      if level.thresh foot.ctx ≤ (foot.delta sample).toInt then bump (level.count foot.ctx)
      else 0 := by
  cases level <;> rfl

theorem count_move (level : ContactLevel) (hclassified : foot.Classified i c) :
    CountMove level i params foot (foot.call i params c) c := by
  have hmove := footMove_call i params foot c
  generalize foot.call i params c = foot' at hmove ⊢
  cases hmove with
  | configure cal params' => exact .drop (by cases level <;> rfl)
  | setThresholds near_thresh touch_thresh load_thresh => exact .other id (by cases level <;> rfl)
  | captureBaseline => exact .other id rfl
  | setEnabled enabled husable => exact .other id (by cases level <;> rfl)
  | reset => exact .drop (by cases level <;> rfl)
  | fail sample now_ms hok => exact .gap ⟨rfl, hok⟩ (failRead_count params foot level)
  | mirror sample now_ms hok hoff => exact absurd (hoff.symm.trans (hclassified rfl)) nofun
  | classify sample now_ms hok hon =>
    have hcount := classify_count params sample now_ms foot level
    by_cases hreaches : level.thresh foot.ctx ≤ (foot.delta sample).toInt
    · rw [if_pos hreaches] at hcount
      exact .advance ⟨rfl, hok, hreaches⟩ hcount
    · rw [if_neg hreaches] at hcount
      exact .drop hcount
  | timeout now_ms htimeout =>
    exact .gap htimeout (tickStaleness_count params now_ms foot level)
  | skip hother => exact .other hother rfl

theorem guarded_debounce (params : ContactParams) (level : ContactLevel) :
    level.debounce params.guarded = level.debounce params := by
  unfold ContactParams.guarded
  split_ifs <;> cases level <;> rfl

/-- The debounce of a level changes only with the configuration, which sets the counters to zero. -/
theorem debounce_call (level : ContactLevel) (params : ContactParams) (foot : ContactFoot)
    (c : ContactCall) (i : Fin kNumFeet) :
    level.debounce (params.call c) = level.debounce params ∨
      level.count (foot.call i params c).ctx = 0 := by
  cases c with
  | configure cal params => exact .inr (by cases level <;> rfl)
  | setThresholds leg near_thresh touch_thresh load_thresh =>
    refine .inl ?_
    unfold ContactParams.call
    dsimp only
    split_ifs
    · exact guarded_debounce params level
    · rfl
  | captureBaseline leg => exact .inl rfl
  | setEnabled leg enabled => exact .inl rfl
  | reset => exact .inl rfl
  | update leg sample now_ms => exact .inl rfl
  | tickStaleness now_ms => exact .inl rfl

theorem nextState_level {near : Bool} {ctx : FootCtx} {prev : ContactState}
    (hnext : nextState params ctx near prev = level.state) (hprev : prev ≠ level.state) :
    level.debounce params ≤ level.count ctx := by
  cases level with
  | touch =>
    unfold nextState at hnext
    cases prev <;> dsimp only at hnext <;> split_ifs at hnext
    all_goals first | assumption | exact absurd rfl hprev | cases hnext
  | loaded =>
    unfold nextState at hnext
    cases prev <;> dsimp only at hnext <;> split_ifs at hnext
    all_goals first | assumption | exact absurd rfl hprev | cases hnext

/-- Only the classification of a sample takes a foot into a level, and at that sample the counter has
reached the debounce. -/
theorem enters_level (hclassified : foot.Classified i c) (hbefore : foot.state.state ≠ level.state)
    (hafter : (foot.call i params c).state.state = level.state) :
    foot.Concerned i params c ∧
      level.debounce params ≤ level.count (foot.call i params c).ctx ∧
      (level.count (foot.call i params c).ctx = 0 ∨ foot.Reaches level i c) := by
  have hair : ContactState.air ≠ level.state := by cases level <;> nofun
  have hstale : ContactState.stale ≠ level.state := by cases level <;> nofun
  have hfault : ContactState.fault ≠ level.state := by cases level <;> nofun
  have hmove := footMove_call i params foot c
  generalize foot.call i params c = foot' at hmove hafter ⊢
  cases hmove with
  | configure cal params' => exact absurd hafter hbefore
  | setThresholds near_thresh touch_thresh load_thresh => exact absurd hafter hbefore
  | captureBaseline => exact absurd hafter hbefore
  | setEnabled enabled husable => exact absurd hafter hbefore
  | reset => exact absurd hafter hair
  | fail sample now_ms hok =>
    unfold ContactFoot.failRead at hafter
    dsimp only at hafter
    split_ifs at hafter
    · exact absurd hafter hfault
    · exact absurd hafter hbefore
  | mirror sample now_ms hok hoff => exact absurd (hoff.symm.trans (hclassified rfl)) nofun
  | classify sample now_ms hok hon =>
    refine ⟨rfl, nextState_level hafter hbefore, ?_⟩
    have hcount := classify_count params sample now_ms foot level
    by_cases hreaches : level.thresh foot.ctx ≤ (foot.delta sample).toInt
    · exact .inr ⟨rfl, hok, hreaches⟩
    · rw [if_neg hreaches] at hcount
      exact .inl hcount
  | timeout now_ms htimeout =>
    unfold ContactFoot.tickStaleness at hafter
    rw [if_pos htimeout] at hafter
    exact absurd hafter hstale
  | skip hother => exact absurd hafter hbefore

/-- The part of a history that concerns the foot: its updates and its timeouts. -/
def footHistory (i : Fin kNumFeet) (h : List ContactEvent) : List ContactEvent :=
  h.filter fun e => (e.pre.feet.get i).Concerned i e.pre.params e.label

/-- The event is a good sample of the foot, at or above the threshold of the level. -/
def GoodSample (level : ContactLevel) (i : Fin kNumFeet) (e : ContactEvent) : Prop :=
  (e.pre.feet.get i).Reaches level i e.label

instance : DecidablePred (GoodSample level i) := fun e =>
  inferInstanceAs (Decidable ((e.pre.feet.get i).Reaches level i e.label))

def Enters (level : ContactLevel) (i : Fin kNumFeet) (e : ContactEvent) : Prop :=
  (e.pre.feet.get i).state.state ≠ level.state ∧ (e.post.feet.get i).state.state = level.state

/-- The event, with the history before it, is the last of that many good samples in a row: between them
there was no other update of the foot, and it did not time out. -/
def Debounced (level : ContactLevel) (i : Fin kNumFeet) (e : ContactEvent)
    (h : List ContactEvent) : Prop :=
  ∃ row earlier, footHistory i (e :: h) = row ++ earlier ∧
    (level.debounce e.pre.params).toNat ≤ row.length ∧ ∀ e ∈ row, GoodSample level i e

theorem debounced_iff : Debounced level i e h ↔
    (level.debounce e.pre.params).toNat ≤ streak (GoodSample level i) (footHistory i (e :: h)) := by
  constructor
  · rintro ⟨row, earlier, heq, hlen, hall⟩
    exact hlen.trans (le_streak_iff.mpr ⟨row, earlier, heq, rfl, hall⟩)
  · intro hstreak
    obtain ⟨row, earlier, heq, hlen, hall⟩ := le_streak_iff.mp hstreak
    exact ⟨row, earlier, heq, hlen.ge, hall⟩

/-- If the event is a gap of the foot, the counter of the level is not running. -/
def GapIdle (level : ContactLevel) (i : Fin kNumFeet) (e : ContactEvent) : Prop :=
  (e.pre.feet.get i).Gap i e.pre.params e.label →
    level.debounce e.pre.params ≤ 1 ∨ level.count (e.pre.feet.get i).ctx = 0

instance : DecidablePred (GapIdle level i) := fun e =>
  inferInstanceAs (Decidable ((e.pre.feet.get i).Gap i e.pre.params e.label →
    level.debounce e.pre.params ≤ 1 ∨ level.count (e.pre.feet.get i).ctx = 0))

/-- A count that matters is no larger than the number of good samples in a row. -/
def CountInv (level : ContactLevel) (i : Fin kNumFeet) (h : List ContactEvent) (m : ContactEstimator) :
    Prop :=
  level.debounce m.params ≤ 1 ∨
    (level.count (m.feet.get i).ctx).toNat ≤ streak (GoodSample level i) (footHistory i h)

theorem footHistory_cons_of (hconcerned : (e.pre.feet.get i).Concerned i e.pre.params e.label) :
    footHistory i (e :: h) = e :: footHistory i h :=
  List.filter_cons_of_pos (decide_eq_true hconcerned)

theorem footHistory_cons_of_not
    (hother : ¬ (e.pre.feet.get i).Concerned i e.pre.params e.label) :
    footHistory i (e :: h) = footHistory i h :=
  List.filter_cons_of_neg (by rw [decide_eq_true_eq]; exact hother)

theorem bump_le (count : UInt8) : (bump count).toNat ≤ count.toNat + 1 := by
  unfold bump
  split_ifs with hlt
  · rw [UInt8.toNat_add]
    exact Nat.mod_le _ _
  · exact Nat.le_succ _

theorem ContactFoot.Reaches.concerned (hreaches : foot.Reaches level i c) :
    foot.Concerned i params c := by
  cases c with
  | update leg sample now_ms => exact hreaches.1
  | _ => exact hreaches.elim

/-- A call keeps the bound on the count unless it is a gap that finds the counter running. -/
theorem CountInv.step (hinv : CountInv level i h m) (hclassified : (m.feet.get i).Classified i c)
    (hidle : GapIdle level i ⟨m, c, m.call c⟩) :
    CountInv level i (⟨m, c, m.call c⟩ :: h) (m.call c) := by
  unfold CountInv
  rw [get_call, params_call]
  rcases debounce_call level m.params (m.feet.get i) c i with hsame | hzero
  · rw [hsame]
    have hmove : CountMove level i m.params (m.feet.get i) ((m.feet.get i).call i m.params c) c :=
      count_move level hclassified
    cases hmove with
    | drop hzero =>
      rw [hzero]
      exact .inr (Nat.zero_le _)
    | advance hreaches hcount =>
      refine hinv.imp_right fun hle => ?_
      have hgood : GoodSample level i ⟨m, c, m.call c⟩ := hreaches
      rw [hcount, footHistory_cons_of hreaches.concerned, streak_cons_of hgood]
      exact (bump_le _).trans (Nat.succ_le_succ hle)
    | gap hgap hcount =>
      refine (hidle hgap).imp_right fun hzero => ?_
      rw [hcount, hzero]
      exact Nat.zero_le _
    | other hother hcount =>
      refine hinv.imp_right fun hle => ?_
      rw [hcount, footHistory_cons_of_not hother]
      exact hle
  · rw [hzero]
    exact .inr (Nat.zero_le _)

theorem countInv_run (run : ContactRun h m)
    (hclassified : ∀ e ∈ h, (e.pre.feet.get i).Classified i e.label)
    (hidle : ∀ e ∈ h, GapIdle level i e) : CountInv level i h m := by
  refine run.history_invariant (fun h m => (∀ e ∈ h, (e.pre.feet.get i).Classified i e.label) →
    (∀ e ∈ h, GapIdle level i e) → CountInv level i h m) ?_ ?_ hclassified hidle
  · intro _ _
    have hstart : ∀ i, (({} : ContactEstimator).feet.get i).ctx = {} := by decide
    unfold CountInv
    rw [hstart]
    exact .inr (by cases level <;> exact Nat.zero_le _)
  · rintro h m c m' - ih hstep hclassified hidle
    have hpost : m' = m.call c := hstep
    subst hpost
    rw [List.forall_mem_cons] at hclassified hidle
    exact (ih hclassified.2 hidle.2).step hclassified.1 hidle.1

theorem CountInv.debounced (hinv : CountInv level i (e :: h) e.post)
    (hpost : e.post = e.pre.call e.label)
    (hclassified : (e.pre.feet.get i).Classified i e.label) (henters : Enters level i e) :
    Debounced level i e h := by
  obtain ⟨hbefore, hafter⟩ := henters
  unfold CountInv at hinv
  rw [hpost, get_call] at hafter
  rw [hpost, get_call, params_call] at hinv
  obtain ⟨hconcerned, hle, hgood⟩ := enters_level hclassified hbefore hafter
  have hnat : (level.debounce e.pre.params).toNat ≤
      (level.count ((e.pre.feet.get i).call i e.pre.params e.label).ctx).toNat := hle
  rw [debounced_iff]
  rcases hgood with hzero | hgood
  · rw [hzero] at hnat
    exact hnat.trans (Nat.zero_le _)
  · rcases debounce_call level e.pre.params (e.pre.feet.get i) e.label i with hsame | hzero
    · rcases hinv with hone | hcount
      · rw [hsame] at hone
        rw [footHistory_cons_of hconcerned, streak_cons_of (p := GoodSample level i) hgood]
        exact Nat.le_trans hone (Nat.le_add_left 1 _)
      · exact hnat.trans hcount
    · rw [hzero] at hnat
      exact hnat.trans (Nat.zero_le _)

/-- In a run in which the foot is enabled whenever it is updated, and no failed read and no timeout of
the foot finds the counter of a level running, that level is entered only as the last of a debounce of
good samples in a row. -/
theorem debounce_across_gaps (run : ContactRun h m)
    (hclassified : ∀ e ∈ h, (e.pre.feet.get i).Classified i e.label)
    (hidle : ∀ e ∈ h, GapIdle level i e) :
    ∀ later e earlier, h = later ++ e :: earlier → Enters level i e → Debounced level i e earlier := by
  rintro later e earlier rfl henters
  obtain ⟨m', run'⟩ := run.of_append
  obtain ⟨rfl, hstep, -⟩ := run'.of_cons
  have hmem : ∀ x ∈ e :: earlier, x ∈ later ++ e :: earlier := fun x hx =>
    List.mem_append_right later hx
  have hinv := countInv_run run' (fun x hx => hclassified x (hmem x hx))
    fun x hx => hidle x (hmem x hx)
  exact hinv.debounced hstep (hclassified e (hmem e List.mem_cons_self)) henters

def pressed (pressure_raw : Int32) (now_ms : UInt32) : ContactCall :=
  .update 0 { pressure_raw, ok := true } now_ms

/-- A sample below the threshold comes before the failed read. -/
def idleGapCalls : List ContactCall :=
  [.configure calibratedFeet {}, pressed 25 0, pressed 5 20, .update 0 {} 40, pressed 25 60,
    pressed 25 80]

theorem debounce_across_gaps_idle : ∃ later e earlier,
    executeHistory ContactEstimator.call {} [] idleGapCalls = later ++ e :: earlier ∧
      Enters .touch 0 e ∧ Debounced .touch 0 e earlier := by
  have henters : ∃ e earlier, executeHistory ContactEstimator.call {} [] idleGapCalls = e :: earlier ∧
      Enters .touch 0 e := ⟨_, _, rfl, by decide, by decide⟩
  obtain ⟨e, earlier, heq, henters⟩ := henters
  exact ⟨[], e, earlier, heq, henters, debounce_across_gaps (run_execute _ idleGapCalls .nil)
    (by decide) (by decide) [] e earlier heq henters⟩

def sampling : ContactCall → Bool
  | .update _ _ _ => true
  | .tickStaleness _ => true
  | _ => false

/-- Two good samples with a failed read between them take a foot into Touch. -/
theorem touch_across_gap : ¬ ∀ (cal : Vector FootSensorCal kNumFeet) (params : ContactParams)
    (calls : List ContactCall) (level : ContactLevel) (i : Fin kNumFeet),
    (cal.get i).enabled ≠ 0 → (∀ c ∈ calls, sampling c = true) → ∀ later e earlier,
      executeHistory ContactEstimator.call {} [] (.configure cal params :: calls) =
        later ++ e :: earlier → Enters level i e → Debounced level i e earlier := by
  intro hclaim
  have hgap := hclaim calibratedFeet {} [pressed 25 0, .update 0 {} 20, pressed 25 40] .touch 0
    (by decide) (by decide) [] _ _ rfl ⟨by decide, by decide⟩
  rw [debounced_iff] at hgap
  exact absurd hgap (by decide)

end HexapodVerified.Sensors
