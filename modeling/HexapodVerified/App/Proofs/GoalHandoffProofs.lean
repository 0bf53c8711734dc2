import HexapodVerified.App.GoalHandoff
import HexapodVerified.Lib.PastTime
import HexapodVerified.Lib.Tables

/-!
# Which goals are written

The mutex keeps the frame together: what `dxlTask` copies is always the latest frame that was published.
Whether that frame is still valid is tested before the mutex is taken, and the flag can be cleared in
between; so the copy is of a valid frame exactly when the flag is still set while it is made.
-/

namespace HexapodVerified.App

open HexapodVerified.Dxl HexapodVerified.Gait Transition PastTime Tables

variable {s t : GoalTasks} {a : GoalStep} {h : List GoalEvent} {e : GoalEvent} {goals : GoalSet}
  {frame : GoalFrame}

/-- What a step of `controlTask` can do. -/
inductive ControlMove (s : GoalTasks) : GoalStep → GoalTasks → Prop where
  | begin (goals : GoalSet) (hpoint : s.control = .idle) :
      ControlMove s (.publish (some goals)) { s with control := .wantFrame goals }
  | beginNone (hpoint : s.control = .idle) : ControlMove s (.publish none) { s with control := .clear }
  | skip {goals : GoalSet} (hpoint : s.control = .wantFrame goals) :
      ControlMove s (.takePublish false) { s with control := .idle }
  | take {goals : GoalSet} (hpoint : s.control = .wantFrame goals) (hfree : s.g_goalMutex = none) :
      ControlMove s (.takePublish true)
        { s with g_goalMutex := some .controlTask, control := .count goals }
  | count {goals : GoalSet} (hpoint : s.control = .count goals) :
      ControlMove s .writeCount
        { s with g_goalFrame.count := goals.joints.length, control := .joints goals 0 }
  | joint {goals : GoalSet} {index : Nat} (hpoint : s.control = .joints goals index)
      (hmore : index < goals.joints.length) :
      ControlMove s .writeJoint
        { s with
          g_goalFrame.joints := s.g_goalFrame.joints.setIfInBounds index (goals.joints.getD index {})
          control := .joints goals (index + 1) }
  | seq {goals : GoalSet} (hpoint : s.control = .joints goals goals.joints.length) :
      ControlMove s .writeSeq { s with g_goalSeq := s.g_goalSeq + 1, control := .raise goals }
  | raise {goals : GoalSet} (hpoint : s.control = .raise goals) :
      ControlMove s .raiseValid { s with g_goalValid := true, control := .give }
  | give (hpoint : s.control = .give) :
      ControlMove s .givePublish { s with g_goalMutex := none, control := .idle }
  | clear (hpoint : s.control = .clear) :
      ControlMove s .clearValid { s with g_goalValid := false, control := .idle }

/-- What a step of `dxlTask` can do. -/
inductive DxlMove (s : GoalTasks) : GoalStep → GoalTasks → Prop where
  | pass {motion_open : Bool} {skipped : List UInt8} (hpoint : s.dxl = .idle) :
      DxlMove s (.test motion_open skipped) { s with dxl := .idle }
  | test {motion_open : Bool} {skipped : List UInt8} (hpoint : s.dxl = .idle)
      (hvalid : s.g_goalValid = true) :
      DxlMove s (.test motion_open skipped) { s with dxl := .wantFrame skipped }
  | skip {skipped : List UInt8} (hpoint : s.dxl = .wantFrame skipped) :
      DxlMove s (.takeCopy false) { s with dxl := .idle }
  | take {skipped : List UInt8} (hpoint : s.dxl = .wantFrame skipped) (hfree : s.g_goalMutex = none) :
      DxlMove s (.takeCopy true) { s with g_goalMutex := some .dxlTask, dxl := .count skipped }
  | count {skipped : List UInt8} (hpoint : s.dxl = .count skipped) :
      DxlMove s .readCount { s with dxl := .joints skipped s.g_goalFrame.count 0 [] }
  | joint {skipped : List UInt8} {frame_count index : Nat} {targets : List GoalTarget}
      (hpoint : s.dxl = .joints skipped frame_count index targets) (hmore : index < frame_count) :
      DxlMove s .readJoint
        { s with
          dxl := .joints skipped frame_count (index + 1)
            (targets ++ targetOf skipped (s.g_goalFrame.joints.getD index {})) }
  | give {skipped : List UInt8} {frame_count : Nat} {targets : List GoalTarget}
      (hpoint : s.dxl = .joints skipped frame_count frame_count targets) :
      DxlMove s .giveCopy { s with g_goalMutex := none, dxl := .write targets }
  | write {targets : List GoalTarget} (hpoint : s.dxl = .write targets) :
      DxlMove s .write { s with dxl := .idle }

inductive OtherMove (s : GoalTasks) : GoalStep → GoalTasks → Prop where
  | take (hfree : s.g_goalMutex = none) :
      OtherMove s .takeOther { s with g_goalMutex := some .otherTask }
  | give (hheld : s.g_goalMutex = some .otherTask) : OtherMove s .giveOther { s with g_goalMutex := none }

theorem controlMove_of_controlStep (hstep : s.controlStep a = some t) : ControlMove s a t := by
  unfold GoalTasks.controlStep at hstep
  split at hstep
  all_goals try split_ifs at hstep
  all_goals cases hstep
  · exact .begin _ ‹_›
  · exact .beginNone ‹_›
  · exact .skip ‹_›
  · exact .take ‹_› ‹_›
  · exact .count ‹_›
  · exact .joint ‹_› ‹_›
  · rename_i hpoint hlast
    subst hlast
    exact .seq hpoint
  · exact .raise ‹_›
  · exact .give ‹_›
  · exact .clear ‹_›

theorem dxlMove_of_dxlStep (hstep : s.dxlStep a = some t) : DxlMove s a t := by
  unfold GoalTasks.dxlStep at hstep
  split at hstep
  all_goals try split_ifs at hstep
  all_goals cases hstep
  · rename_i hpoint hopen
    exact .test hpoint (Bool.and_eq_true_iff.mp hopen).2
  · exact .pass ‹_›
  · exact .skip ‹_›
  · exact .take ‹_› ‹_›
  · exact .count ‹_›
  · exact .joint ‹_› ‹_›
  · rename_i hpoint hlast
    subst hlast
    exact .give hpoint
  · exact .write ‹_›

theorem otherMove_of_otherStep (hstep : s.otherStep a = some t) : OtherMove s a t := by
  unfold GoalTasks.otherStep at hstep
  split at hstep
  all_goals try split_ifs at hstep
  all_goals cases hstep
  · exact .take ‹_›
  · exact .give ‹_›

theorem goalMove_of_step (hstep : s.step a = some t) :
    ControlMove s a t ∨ DxlMove s a t ∨ OtherMove s a t := by
  unfold GoalTasks.step at hstep
  cases hcontrol : s.controlStep a with
  | some t' =>
    rw [hcontrol, Option.some_or, Option.some_or] at hstep
    cases hstep
    exact .inl (controlMove_of_controlStep hcontrol)
  | none =>
    rw [hcontrol, Option.none_or] at hstep
    cases hdxl : s.dxlStep a with
    | some t' =>
      rw [hdxl, Option.some_or] at hstep
      cases hstep
      exact .inr (.inl (dxlMove_of_dxlStep hdxl))
    | none =>
      rw [hdxl, Option.none_or] at hstep
      exact .inr (.inr (otherMove_of_otherStep hstep))

def Publishes (goals : GoalSet) (e : GoalEvent) : Prop :=
  e.label = .raiseValid ∧ e.pre.control = .raise goals

abbrev PublishesFrame (e : GoalEvent) : Prop := ∃ goals, Publishes goals e

/-- The event publishes a command without goals. -/
def Invalidates (e : GoalEvent) : Prop := e.label = .clearValid

abbrev LatestFrame (h : List GoalEvent) (goals : GoalSet) : Prop :=
  Latest PublishesFrame (Publishes goals) h

/-- This frame is the latest that was published, and no command without goals has been published since. -/
def Standing (h : List GoalEvent) (goals : GoalSet) : Prop :=
  Since (fun e => ¬ PublishesFrame e ∧ ¬ Invalidates e) (fun e => PublishesFrame e ∧ Publishes goals e) h

def targetsOf (skipped : List UInt8) (joints : List PipelineJoint) : List GoalTarget :=
  joints.flatMap (targetOf skipped)

theorem not_publishes (hne : a ≠ .raiseValid) : ¬ PublishesFrame ⟨s, a, t⟩ :=
  fun ⟨_, hlabel, _⟩ => hne hlabel

def Shows (frame : GoalFrame) (goals : GoalSet) : Prop :=
  frame.count = goals.joints.length ∧
    ∀ k < goals.joints.length, frame.joints.getD k {} = goals.joints.getD k {}

/-- What is in the frame, by the point where `controlTask` is. -/
def FrameInv (h : List GoalEvent) (frame : GoalFrame) : PublishPoint → Prop
  | .count _ => True
  | .joints goals index => frame.count = goals.joints.length ∧
      ∀ k < index, frame.joints.getD k {} = goals.joints.getD k {}
  | .raise goals => Shows frame goals
  | _ => ∀ goals, LatestFrame h goals → Shows frame goals

/-- What `dxlTask` has, by the point where it is. -/
def ReaderInv (h : List GoalEvent) : WritePoint → Prop
  | .idle => True
  | .wantFrame _ | .count _ => Once PublishesFrame h
  | .joints skipped frame_count index targets => ∃ goals, LatestFrame h goals ∧
      frame_count = goals.joints.length ∧ index ≤ frame_count ∧
      targets = targetsOf skipped (goals.joints.take index)
  | .write targets => ∃ goals skipped, Once (Publishes goals) h ∧
      targets = targetsOf skipped goals.joints

/-- `controlTask` has the mutex. -/
def PublishPoint.inside : PublishPoint → Bool
  | .count _ | .joints _ _ | .raise _ | .give => true
  | _ => false

/-- `dxlTask` has the mutex. -/
def WritePoint.inside : WritePoint → Bool
  | .count _ | .joints _ _ _ _ => true
  | _ => false

structure GoalInv (h : List GoalEvent) (s : GoalTasks) : Prop where
  flag : s.g_goalValid = true ↔ Since (fun e => ¬ Invalidates e) PublishesFrame h
  control : s.control.inside = true → s.g_goalMutex = some .controlTask
  dxl : s.dxl.inside = true → s.g_goalMutex = some .dxlTask
  frame : FrameInv h s.g_goalFrame s.control
  reader : ReaderInv h s.dxl

theorem ReaderInv.keep (hnot : ¬ PublishesFrame e) {point : WritePoint} (hreader : ReaderInv h point) :
    ReaderInv (e :: h) point := by
  cases point with
  | idle => trivial
  | wantFrame skipped => exact Once.keep hreader
  | count skipped => exact Once.keep hreader
  | joints skipped frame_count index targets =>
    obtain ⟨goals, hlatest, hcount⟩ := hreader
    exact ⟨goals, (latest_cons_of_not hnot).mpr hlatest, hcount⟩
  | write targets =>
    obtain ⟨goals, skipped, honce, htargets⟩ := hreader
    exact ⟨goals, skipped, honce.keep, htargets⟩

theorem FrameInv.keep (hnot : ¬ PublishesFrame e) {point : PublishPoint}
    (hframe : FrameInv h frame point) : FrameInv (e :: h) frame point := by
  have hlatest : ∀ goals, LatestFrame (e :: h) goals ↔ LatestFrame h goals :=
    fun goals => latest_cons_of_not hnot
  cases point with
  | count goals => trivial
  | joints goals index => exact hframe
  | raise goals => exact hframe
  | _ => exact fun goals hgoals => hframe goals ((hlatest goals).mp hgoals)

theorem flag_keep (hnot : ¬ PublishesFrame e) (hvalid : ¬ Invalidates e) :
    Since (fun e => ¬ Invalidates e) PublishesFrame (e :: h) ↔
      Since (fun e => ¬ Invalidates e) PublishesFrame h := by
  rw [since_cons]
  exact ⟨fun hs => (hs.resolve_left hnot).2, fun hs => .inr ⟨hvalid, hs⟩⟩

/-- A step that neither sets nor clears the flag keeps what the steps of the other task need. -/
theorem GoalInv.quiet (hinv : GoalInv h s) (hraise : a ≠ .raiseValid) (hclear : a ≠ .clearValid)
    (hvalid : t.g_goalValid = s.g_goalValid)
    (hcontrol : t.control.inside = true → t.g_goalMutex = some .controlTask)
    (hdxl : t.dxl.inside = true → t.g_goalMutex = some .dxlTask)
    (hframe : FrameInv h s.g_goalFrame s.control → FrameInv h t.g_goalFrame t.control)
    (hreader : ReaderInv h s.dxl → ReaderInv h t.dxl) : GoalInv (⟨s, a, t⟩ :: h) t where
  flag := by
    rw [flag_keep (not_publishes hraise) hclear, hvalid]
    exact hinv.flag
  control := hcontrol
  dxl := hdxl
  frame := (hframe hinv.frame).keep (not_publishes hraise)
  reader := (hreader hinv.reader).keep (not_publishes hraise)

theorem GoalInv.exclusive (hinv : GoalInv h s) (hcontrol : s.control.inside = true) :
    s.dxl.inside = false := by
  by_contra hdxl
  have hheld := hinv.dxl (eq_true_of_ne_false hdxl)
  rw [hinv.control hcontrol] at hheld
  cases hheld

theorem GoalInv.outside (hinv : GoalInv h s) (hfree : s.g_goalMutex = none) :
    s.control.inside = false ∧ s.dxl.inside = false := by
  refine ⟨?_, ?_⟩
  · by_contra hcontrol
    have hheld := hinv.control (eq_true_of_ne_false hcontrol)
    rw [hfree] at hheld
    cases hheld
  · by_contra hdxl
    have hheld := hinv.dxl (eq_true_of_ne_false hdxl)
    rw [hfree] at hheld
    cases hheld

theorem GoalInv.controlMove (hinv : GoalInv h s) (hmove : ControlMove s a t) :
    GoalInv (⟨s, a, t⟩ :: h) t := by
  cases hmove with
  | begin goals hpoint =>
    refine hinv.quiet nofun nofun rfl nofun hinv.dxl (fun hframe => ?_) id
    rw [hpoint] at hframe
    exact hframe
  | beginNone hpoint =>
    refine hinv.quiet nofun nofun rfl nofun hinv.dxl (fun hframe => ?_) id
    rw [hpoint] at hframe
    exact hframe
  | skip hpoint =>
    refine hinv.quiet nofun nofun rfl nofun hinv.dxl (fun hframe => ?_) id
    rw [hpoint] at hframe
    exact hframe
  | take hpoint hfree =>
    refine hinv.quiet nofun nofun rfl (fun _ => rfl) (fun hdxl => ?_) (fun _ => trivial) id
    exact absurd ((hinv.outside hfree).2.symm.trans hdxl) Bool.false_ne_true
  | count hpoint =>
    refine hinv.quiet nofun nofun rfl (fun _ => ?_) hinv.dxl (fun _ => ⟨rfl, nofun⟩) id
    exact hinv.control (by rw [hpoint]; rfl)
  | joint hpoint hmore =>
    refine hinv.quiet nofun nofun rfl (fun _ => ?_) hinv.dxl (fun hframe => ?_) id
    · exact hinv.control (by rw [hpoint]; rfl)
    · rw [hpoint] at hframe
      refine ⟨hframe.1, fun k hk => ?_⟩
      have hindex := Nat.lt_of_lt_of_le hmore (GoalSet.fits _)
      rw [Tables.getD_set]
      split_ifs with heq
      · rw [heq.1]
      · exact hframe.2 k (by omega)
  | seq hpoint =>
    refine hinv.quiet nofun nofun rfl (fun _ => ?_) hinv.dxl (fun hframe => ?_) id
    · exact hinv.control (by rw [hpoint]; rfl)
    · rw [hpoint] at hframe
      exact hframe
  | @raise published hpoint =>
    have hinside : s.control.inside = true := by rw [hpoint]; rfl
    have hpublishes : ∀ t, Publishes published ⟨s, .raiseValid, t⟩ := fun _ => ⟨rfl, hpoint⟩
    have hframe := hinv.frame
    rw [hpoint] at hframe
    refine ⟨?_, fun _ => hinv.control hinside, hinv.dxl, fun goals hgoals => ?_, ?_⟩
    · exact ⟨fun _ => .now ⟨_, hpublishes _⟩, fun _ => rfl⟩
    · have hnow : ∀ t, PublishesFrame ⟨s, .raiseValid, t⟩ := fun t => ⟨published, hpublishes t⟩
      have hsame : s.control = .raise goals := ((latest_cons_of (hnow _)).mp hgoals).2
      rw [PublishPoint.raise.inj (hpoint.symm.trans hsame)] at hframe
      exact hframe
    · have houtside := hinv.exclusive hinside
      have hreader := hinv.reader
      show ReaderInv _ s.dxl
      cases hdxl : s.dxl with
      | idle => trivial
      | wantFrame skipped => exact .now ⟨_, hpublishes _⟩
      | write targets =>
        rw [hdxl] at hreader
        obtain ⟨goals, skipped, honce, htargets⟩ := hreader
        exact ⟨goals, skipped, honce.keep, htargets⟩
      | _ =>
        rw [hdxl] at houtside
        cases houtside
  | give hpoint =>
    refine hinv.quiet nofun nofun rfl nofun (fun hdxl => ?_) (fun hframe => ?_) id
    · have houtside := hinv.exclusive (by rw [hpoint]; rfl)
      exact nomatch houtside.symm.trans hdxl
    · rw [hpoint] at hframe
      exact hframe
  | clear hpoint =>
    have hnot : ∀ t, ¬ PublishesFrame ⟨s, .clearValid, t⟩ := fun _ => not_publishes nofun
    have hframe : FrameInv h s.g_goalFrame .idle := by
      have hbefore := hinv.frame
      rw [hpoint] at hbefore
      exact hbefore
    refine ⟨?_, nofun, hinv.dxl, hframe.keep (hnot _), hinv.reader.keep (hnot _)⟩
    refine ⟨nofun, fun hsince => ?_⟩
    rcases hsince with hpublishes | ⟨hkept, -⟩
    · exact absurd hpublishes (hnot _)
    · exact absurd rfl hkept

/-- Outside of the critical section of `controlTask` the frame shows what was published latest. -/
theorem FrameInv.shows {point : PublishPoint} (hframe : FrameInv h frame point)
    (houtside : point.inside = false) (hgoals : LatestFrame h goals) : Shows frame goals := by
  cases point with
  | idle => exact hframe goals hgoals
  | wantFrame goals' => exact hframe goals hgoals
  | clear => exact hframe goals hgoals
  | _ => cases houtside

/-- While `dxlTask` is inside, the frame shows what was published latest. -/
theorem GoalInv.shows (hinv : GoalInv h s) (hinside : s.dxl.inside = true)
    (hgoals : LatestFrame h goals) : Shows s.g_goalFrame goals := by
  refine hinv.frame.shows ?_ hgoals
  by_contra hcontrol
  have houtside := hinv.exclusive (eq_true_of_ne_false hcontrol)
  rw [hinside] at houtside
  cases houtside

theorem targetsOf_take_succ {skipped : List UInt8} {joints : List PipelineJoint} {k : Nat}
    (hk : k < joints.length) : targetsOf skipped (joints.take (k + 1)) =
      targetsOf skipped (joints.take k) ++ targetOf skipped (joints.getD k {}) := by
  have hget : joints.getD k {} = joints[k] := by simp [hk]
  unfold targetsOf
  rw [List.take_succ_eq_append_getElem hk, List.flatMap_append, List.flatMap_singleton, hget]

theorem GoalInv.dxlMove (hinv : GoalInv h s) (hmove : DxlMove s a t) : GoalInv (⟨s, a, t⟩ :: h) t := by
  cases hmove with
  | pass hpoint => exact hinv.quiet nofun nofun rfl hinv.control nofun id fun _ => trivial
  | test hpoint hvalid =>
    refine hinv.quiet nofun nofun rfl hinv.control nofun id fun _ => ?_
    exact (hinv.flag.mp hvalid).once
  | skip hpoint => exact hinv.quiet nofun nofun rfl hinv.control nofun id fun _ => trivial
  | take hpoint hfree =>
    refine hinv.quiet nofun nofun rfl (fun hcontrol => ?_) (fun _ => rfl) id fun hreader => ?_
    · exact absurd ((hinv.outside hfree).1.symm.trans hcontrol) Bool.false_ne_true
    · rw [hpoint] at hreader
      exact hreader
  | count hpoint =>
    have hinside : s.dxl.inside = true := by rw [hpoint]; rfl
    refine hinv.quiet nofun nofun rfl hinv.control (fun _ => hinv.dxl hinside) id fun hreader => ?_
    rw [hpoint] at hreader
    obtain ⟨goals, hgoals⟩ := exists_latest hreader
    exact ⟨goals, hgoals, (hinv.shows hinside hgoals).1, Nat.zero_le _, rfl⟩
  | joint hpoint hmore =>
    have hinside : s.dxl.inside = true := by rw [hpoint]; rfl
    refine hinv.quiet nofun nofun rfl hinv.control (fun _ => hinv.dxl hinside) id fun hreader => ?_
    rw [hpoint] at hreader
    obtain ⟨goals, hgoals, hcount, -, htargets⟩ := hreader
    subst hcount
    refine ⟨goals, hgoals, rfl, hmore, ?_⟩
    rw [targetsOf_take_succ hmore, htargets, (hinv.shows hinside hgoals).2 _ hmore]
  | give hpoint =>
    have hinside : s.dxl.inside = true := by rw [hpoint]; rfl
    refine hinv.quiet nofun nofun rfl (fun hcontrol => ?_) nofun id fun hreader => ?_
    · have houtside := hinv.exclusive hcontrol
      exact nomatch houtside.symm.trans hinside
    · rw [hpoint] at hreader
      obtain ⟨goals, hgoals, hcount, -, htargets⟩ := hreader
      rw [hcount, List.take_length] at htargets
      exact ⟨goals, _, (hgoals.once.imp fun _ he => ⟨he.1, he.2.2⟩), htargets⟩
  | write hpoint => exact hinv.quiet nofun nofun rfl hinv.control nofun id fun _ => trivial

theorem GoalInv.otherMove (hinv : GoalInv h s) (hmove : OtherMove s a t) :
    GoalInv (⟨s, a, t⟩ :: h) t := by
  cases hmove with
  | take hfree =>
    obtain ⟨hcontrol, hdxl⟩ := hinv.outside hfree
    refine hinv.quiet nofun nofun rfl (fun hinside => ?_) (fun hinside => ?_) id id
    · exact nomatch hcontrol.symm.trans hinside
    · exact nomatch hdxl.symm.trans hinside
  | give hheld =>
    refine hinv.quiet nofun nofun rfl (fun hinside => ?_) (fun hinside => ?_) id id
    · have hcontrol := hinv.control hinside
      rw [hheld] at hcontrol
      cases hcontrol
    · have hdxl := hinv.dxl hinside
      rw [hheld] at hdxl
      cases hdxl

theorem GoalInv.step (hinv : GoalInv h s) (hstep : s.step a = some t) : GoalInv (⟨s, a, t⟩ :: h) t := by
  rcases goalMove_of_step hstep with hmove | hmove | hmove
  · exact hinv.controlMove hmove
  · exact hinv.dxlMove hmove
  · exact hinv.otherMove hmove

theorem goalInv_run (run : GoalRun h s) : GoalInv h s := by
  refine run.history_invariant GoalInv ?_ ?_
  · exact ⟨⟨nofun, fun hsince => absurd hsince since_nil⟩, nofun, nofun,
      fun goals hgoals => absurd hgoals since_nil, trivial⟩
  · intro h s a t _ hinv hstep
    exact hinv.step hstep

def Reads (e : GoalEvent) : Prop := e.label = .readCount ∨ e.label = .readJoint

/-- `dxlTask` has copied the first joints of the frame with these goals. -/
def CopyOf (goals : GoalSet) : WritePoint → Prop
  | .joints skipped frame_count index targets => frame_count = goals.joints.length ∧
      targets = targetsOf skipped (goals.joints.take index)
  | _ => False

/-- Targets that are written are those of one published frame, but for the servos that are skipped. -/
def WritesOneFrame (e : GoalEvent) (h : List GoalEvent) : Prop :=
  ∀ targets, e.label = .write → e.pre.dxl = .write targets →
    ∃ goals skipped, Once (Publishes goals) h ∧ targets = targetsOf skipped goals.joints

/-- What is copied belongs to the latest published frame, and no command without goals has been published
after that. -/
def CopiesStanding (e : GoalEvent) (h : List GoalEvent) : Prop :=
  Reads e → ∃ goals, CopyOf goals e.post.dxl ∧ Standing h goals

structure HandsOver (e : GoalEvent) (h : List GoalEvent) : Prop where
  writes : WritesOneFrame e h
  copies : CopiesStanding e h

/-- The flag is set while `dxlTask` reads from the frame. -/
def ValidAtCopy (e : GoalEvent) : Prop := Reads e → e.pre.g_goalValid = true

instance (e : GoalEvent) : Decidable (ValidAtCopy e) :=
  inferInstanceAs (Decidable (e.label = .readCount ∨ e.label = .readJoint → e.pre.g_goalValid = true))

theorem joints_of_reads (hstep : s.step a = some t) (hreads : Reads ⟨s, a, t⟩) :
    (¬ PublishesFrame ⟨s, a, t⟩) ∧
      ∃ skipped frame_count index targets, t.dxl = .joints skipped frame_count index targets := by
  rcases hreads with hlabel | hlabel
  all_goals
    obtain rfl : a = _ := hlabel
    refine ⟨not_publishes nofun, ?_⟩
    rcases goalMove_of_step hstep with hmove | hmove | hmove
    · cases hmove
    · cases hmove
      exact ⟨_, _, _, _, rfl⟩
    · cases hmove

theorem copiesStanding_iff (hinv : GoalInv h s) (hstep : s.step a = some t)
    (hreads : Reads ⟨s, a, t⟩) :
    (∃ goals, CopyOf goals t.dxl ∧ Standing h goals) ↔ s.g_goalValid = true := by
  obtain ⟨hnot, skipped, frame_count, index, targets, hdxl⟩ := joints_of_reads hstep hreads
  constructor
  · rintro ⟨goals, -, hstanding⟩
    exact hinv.flag.mpr (latest_undisturbed_iff.mp hstanding).2
  · intro hvalid
    have hreader := (hinv.step hstep).reader
    rw [hdxl] at hreader ⊢
    obtain ⟨goals, hgoals, hcount, -, htargets⟩ := hreader
    exact ⟨goals, ⟨hcount, htargets⟩,
      latest_undisturbed_iff.mpr ⟨(latest_cons_of_not hnot).mp hgoals, hinv.flag.mp hvalid⟩⟩

theorem handsOver_iff (hinv : GoalInv h s) (hstep : s.step a = some t) :
    HandsOver ⟨s, a, t⟩ h ↔ ValidAtCopy ⟨s, a, t⟩ := by
  constructor
  · intro hands hreads
    exact (copiesStanding_iff hinv hstep hreads).mp (hands.copies hreads)
  · intro hvalid
    refine ⟨fun targets _ hpoint => ?_,
      fun hreads => (copiesStanding_iff hinv hstep hreads).mpr (hvalid hreads)⟩
    have hreader := hinv.reader
    have hwrite : s.dxl = .write targets := hpoint
    rw [hwrite] at hreader
    exact hreader

/-- **The goal hand-off.** In every interleaving what is written belongs to one published frame; and it is
copied from a frame that no command without goals has followed exactly if the flag is still set whenever
`dxlTask` reads from the frame. -/
theorem goal_handoff_iff (run : GoalRun h s) :
    Historically HandsOver h ↔ ∀ e ∈ h, ValidAtCopy e := by
  induction run with
  | nil => exact ⟨fun _ e he => absurd he List.not_mem_nil, fun _ => trivial⟩
  | step run hstep ih =>
    rw [List.forall_mem_cons]
    exact and_congr (handsOver_iff (goalInv_run run) hstep) ih

def oneGoal : GoalSet := ⟨[{ id := 1, tick := 2100 }], by decide⟩

/-- The frame is published, and `dxlTask` finds the flag set. -/
def publishedSteps : List GoalStep :=
  [.publish (some oneGoal), .takePublish true, .writeCount, .writeJoint, .writeSeq, .raiseValid,
    .givePublish, .test true []]

def copySteps : List GoalStep := [.takeCopy true, .readCount, .readJoint, .giveCopy, .write]

theorem goal_handoff_iff_copied : ∃ h s, GoalRun h s ∧ Historically HandsOver h ∧
    ∃ e ∈ h, e.label = .write ∧ e.pre.dxl = .write [{ id := 1, tick := 2100 }] := by
  have run : GoalRun _ _ := run_replay (publishedSteps ++ copySteps) .nil rfl
  have hvalid := (goal_handoff_iff run).mpr (by decide)
  exact ⟨_, _, run, hvalid, _, List.mem_cons_self .., rfl, rfl⟩

/-- The gate closes after `dxlTask` has found the flag set: the frame is copied nevertheless. -/
theorem stale_goals_copied : ¬ ∀ (h : List GoalEvent) (s : GoalTasks), GoalRun h s →
    Historically HandsOver h := by
  intro hclaim
  have run : GoalRun _ _ :=
    run_replay (publishedSteps ++ [.publish none, .clearValid, .takeCopy true, .readCount]) .nil rfl
  have hhands := (hclaim _ _ run).1
  obtain ⟨-, hstep, hrun⟩ := run.of_cons
  have hvalid := (handsOver_iff (goalInv_run hrun) hstep).mp hhands (.inl rfl)
  cases hvalid

end HexapodVerified.App
