import HexapodVerified.App.GaitSave
import HexapodVerified.Controller.Proofs.ReplayProofs

/-!
# Save presses

A press that is handled stays requested until `apiTask` copies the slot, and the save that begins then is
its save. The flag is cleared only after that save: a press handled in the meantime loses its request.
-/

namespace HexapodVerified.App

open HexapodVerified.Config HexapodVerified.Controller FloatArith PastTime Transition

variable {s t : GaitSaveTasks} {a : GaitSaveStep} {e p : GaitSaveEvent}
  {h later earlier : List GaitSaveEvent} {configApi : ConfigApi} {v : GaitDefaults}

/-- The values that are staged for a press which `controlTask` marks as handled. -/
def stagedBy (e : GaitSaveEvent) : Option GaitDefaults :=
  match e.label with
  | .publish gait diag _ =>
    if diag.gait_save_seq ≠ e.pre.g_gaitSaveHandledSeq ∧ diag.gait_save_requested then
      some (pendingGait gait diag)
    else none
  | _ => none

/-- `controlTask` marks a press as handled. -/
def Handles (e : GaitSaveEvent) : Prop := (stagedBy e).isSome

instance : DecidablePred Handles := fun e => inferInstanceAs (Decidable ((stagedBy e).isSome = true))

/-- `saveGaitDefaults` is called with these values. -/
def CallsWith (v : GaitDefaults) (e : GaitSaveEvent) : Prop :=
  e.label = .copy ∧ e.post.api = .saving v

/-- A press was handled, and no save has begun since. -/
def Unsaved (h : List GaitSaveEvent) : Prop := Since (fun e => e.label ≠ .copy) Handles h

instance (h : List GaitSaveEvent) : Decidable (Unsaved h) := Since.decidable h

/-- After every press that was handled a save began with the values staged for it or for a later one. -/
def AllSaved (h : List GaitSaveEvent) : Prop :=
  ∀ later p earlier, h = later ++ p :: earlier → Handles p →
    ∃ after c before v, later = after ++ c :: before ∧ CallsWith v c ∧
      ((before ++ [p]).filterMap stagedBy).head? = some v

structure SavedExactlyOnce (h : List GaitSaveEvent) : Prop where
  /-- Whenever nothing is requested, there was a save for every press that was handled. -/
  saved : ∀ later e earlier, h = later ++ e :: earlier → e.post.g_gaitSaveRequested = false →
    AllSaved (e :: earlier)
  /-- Between two saves another press was handled. -/
  once : ∀ last c' between c first, h = last ++ c' :: (between ++ c :: first) → c.label = .copy →
    c'.label = .copy → ∃ x ∈ between, Handles x

/-- No request is cleared while a press that was handled since the save began waits for its own. -/
def ClearedInTime (h : List GaitSaveEvent) : Prop :=
  ∀ later e earlier, h = later ++ e :: earlier → e.label = .clear → ¬ Unsaved earlier

inductive GaitSaveMove : GaitSaveTasks → GaitSaveStep → GaitSaveTasks → Prop where
  | handle {s : GaitSaveTasks} {gait : GaitDefaults} {diag : ControllerDiagnostics} {now_ms : UInt32}
      (hseq : diag.gait_save_seq ≠ s.g_gaitSaveHandledSeq ∧ diag.gait_save_requested) :
      GaitSaveMove s (.publish gait diag now_ms) { s with
        g_gaitSaveHandledSeq := diag.gait_save_seq
        g_gaitSavePending := pendingGait gait diag
        g_gaitSaveRequested := true }
  | publish {s t : GaitSaveTasks} {gait : GaitDefaults} {diag : ControllerDiagnostics}
      {now_ms : UInt32}
      (hseq : ¬ (diag.gait_save_seq ≠ s.g_gaitSaveHandledSeq ∧ diag.gait_save_requested))
      (hflag : t.g_gaitSaveRequested = s.g_gaitSaveRequested)
      (hslot : t.g_gaitSavePending = s.g_gaitSavePending) (hapi : t.api = s.api) :
      GaitSaveMove s (.publish gait diag now_ms) t
  | test {s : GaitSaveTasks} (hapi : s.api = .idle) :
      GaitSaveMove s .test { s with api := if s.g_gaitSaveRequested then .requested else .idle }
  | copy {s : GaitSaveTasks} (hapi : s.api = .requested) :
      GaitSaveMove s .copy { s with api := .saving s.g_gaitSavePending }
  | save {s t : GaitSaveTasks} {persist : Persistence} {api_loop_now_ms : UInt32}
      (hflag : t.g_gaitSaveRequested = s.g_gaitSaveRequested)
      (hslot : t.g_gaitSavePending = s.g_gaitSavePending) (hapi : t.api = .saved) :
      GaitSaveMove s (.save persist api_loop_now_ms) t
  | clear {s : GaitSaveTasks} (hapi : s.api = .saved) :
      GaitSaveMove s .clear { s with g_gaitSaveRequested := false, api := .idle }
  | other {s : GaitSaveTasks} {configApi : ConfigApi} (hapi : s.api = .idle) :
      GaitSaveMove s (.other configApi) { s with g_configApi := configApi }

theorem publish_move (s : GaitSaveTasks) (gait : GaitDefaults) (diag : ControllerDiagnostics)
    (now_ms : UInt32) :
    GaitSaveMove s (.publish gait diag now_ms) (s.publish gait diag now_ms) := by
  unfold GaitSaveTasks.publish
  by_cases hseq : diag.gait_save_seq ≠ s.g_gaitSaveHandledSeq
  · rw [if_pos hseq]
    by_cases hreq : diag.gait_save_requested
    · rw [if_pos hreq]
      exact .handle ⟨hseq, hreq⟩
    · rw [if_neg hreq]
      split_ifs with htune
      · exact .publish (fun hboth => hreq hboth.2) rfl rfl rfl
      · exact .publish (fun hboth => hreq hboth.2) rfl rfl rfl
  · rw [if_neg hseq]
    exact .publish (fun hboth => hseq hboth.1) rfl rfl rfl

theorem finishSave_move (s : GaitSaveTasks) (pending : GaitDefaults) (persist : Persistence)
    (api_loop_now_ms : UInt32) :
    GaitSaveMove s (.save persist api_loop_now_ms)
      (s.finishSave pending persist api_loop_now_ms) := by
  unfold GaitSaveTasks.finishSave
  simp only
  split_ifs with hok
  · exact .save rfl rfl rfl
  · exact .save rfl rfl rfl

theorem gaitSaveMove_of_step (hstep : s.step a = some t) : GaitSaveMove s a t := by
  unfold GaitSaveTasks.step at hstep
  split at hstep
  · cases hstep
    exact publish_move s _ _ _
  · cases hstep
    exact .test ‹_›
  · cases hstep
    exact .copy ‹_›
  · cases hstep
    exact finishSave_move s _ _ _
  · cases hstep
    exact .clear ‹_›
  · cases hstep
    exact .other ‹_›
  · cases hstep

theorem stagedBy_handle {gait : GaitDefaults} {diag : ControllerDiagnostics} {now_ms : UInt32}
    (hseq : diag.gait_save_seq ≠ s.g_gaitSaveHandledSeq ∧ diag.gait_save_requested) :
    stagedBy ⟨s, .publish gait diag now_ms, t⟩ = some (pendingGait gait diag) := if_pos hseq

theorem stagedBy_publish {gait : GaitDefaults} {diag : ControllerDiagnostics} {now_ms : UInt32}
    (hseq : ¬ (diag.gait_save_seq ≠ s.g_gaitSaveHandledSeq ∧ diag.gait_save_requested)) :
    stagedBy ⟨s, .publish gait diag now_ms, t⟩ = none := if_neg hseq

theorem handles_handle {gait : GaitDefaults} {diag : ControllerDiagnostics} {now_ms : UInt32}
    (hseq : diag.gait_save_seq ≠ s.g_gaitSaveHandledSeq ∧ diag.gait_save_requested) :
    Handles ⟨s, .publish gait diag now_ms, t⟩ := by
  unfold Handles
  rw [stagedBy_handle hseq]
  rfl

/-- The slot holds the values of the latest press, and a flag that `apiTask` has not answered stands for
a press without a save. -/
structure Staged (h : List GaitSaveEvent) (s : GaitSaveTasks) : Prop where
  slot : ∀ v, (h.filterMap stagedBy).head? = some v → s.g_gaitSavePending = v
  idle : s.api = .idle → s.g_gaitSaveRequested = true → Unsaved h
  requested : s.api = .requested → Unsaved h

theorem Staged.keep (hstaged : Staged h s) (hno : stagedBy ⟨s, a, t⟩ = none) (hlabel : a ≠ .copy)
    (hslot : t.g_gaitSavePending = s.g_gaitSavePending)
    (hidle : t.api = .idle → t.g_gaitSaveRequested = true →
      s.api = .idle ∧ s.g_gaitSaveRequested = true)
    (hrequested : t.api = .requested →
      s.api = .requested ∨ s.api = .idle ∧ s.g_gaitSaveRequested = true) :
    Staged (⟨s, a, t⟩ :: h) t := by
  refine ⟨fun v hv => ?_, fun hi hf => ?_, fun hr => ?_⟩
  · rw [List.filterMap_cons_none hno] at hv
    exact hslot.trans (hstaged.slot v hv)
  · obtain ⟨hi, hf⟩ := hidle hi hf
    exact .keep hlabel (hstaged.idle hi hf)
  · rcases hrequested hr with hr | ⟨hi, hf⟩
    · exact .keep hlabel (hstaged.requested hr)
    · exact .keep hlabel (hstaged.idle hi hf)

theorem Staged.step (hstaged : Staged h s) (hmove : GaitSaveMove s a t) :
    Staged (⟨s, a, t⟩ :: h) t := by
  cases hmove with
  | handle hseq =>
    refine ⟨fun v hv => ?_, fun _ _ => .now (handles_handle hseq), fun _ => .now (handles_handle hseq)⟩
    rw [List.filterMap_cons_some (stagedBy_handle hseq)] at hv
    exact Option.some.inj hv
  | publish hseq hflag hslot hapi =>
    refine hstaged.keep (stagedBy_publish hseq) nofun hslot ?_ ?_
    · rw [hflag, hapi]
      exact fun hi hf => ⟨hi, hf⟩
    · rw [hapi]
      exact .inl
  | test hapi =>
    refine hstaged.keep rfl nofun rfl (fun _ hf => ⟨hapi, hf⟩) fun hr => .inr ⟨hapi, ?_⟩
    by_contra hf
    simp only [hf, if_false, reduceCtorEq] at hr
  | copy => exact ⟨fun v hv => hstaged.slot v hv, nofun, nofun⟩
  | save _ hslot hapi =>
    refine hstaged.keep rfl nofun hslot ?_ ?_
    · rw [hapi]
      exact nofun
    · rw [hapi]
      exact nofun
  | clear =>
    refine hstaged.keep rfl nofun rfl (fun _ hf => ?_) nofun
    cases hf
  | other hapi =>
    refine hstaged.keep rfl nofun rfl (fun hi hf => ⟨hi, hf⟩) fun hr => ?_
    exact .inl hr

theorem staged_of_run (run : GaitSaveRun configApi h s) : Staged h s := by
  have hinit : Staged [] { g_configApi := configApi } :=
    ⟨fun v hv => (by cases hv), fun _ hf => (by cases hf), fun hr => (by cases hr)⟩
  refine run.history_invariant Staged hinit ?_
  intro h s a t _ hstaged hstep
  exact hstaged.step (gaitSaveMove_of_step hstep)

theorem copy_move (hmove : GaitSaveMove s .copy t) :
    s.api = .requested ∧ t.api = .saving s.g_gaitSavePending := by
  cases hmove with
  | copy hapi => exact ⟨hapi, rfl⟩

theorem clear_move (hmove : GaitSaveMove s .clear t) : t.g_gaitSaveRequested = false := by
  cases hmove with
  | clear => rfl

theorem allSaved_of_not_unsaved (run : GaitSaveRun configApi h s) (hno : ¬ Unsaved h) : AllSaved h := by
  rintro later p earlier rfl hp
  have hcopy : ∃ c ∈ later, c.label = .copy := by
    by_contra hnone
    refine hno (since_iff.mpr ⟨later, p, earlier, rfl, hp, fun x hx hlabel => ?_⟩)
    exact hnone ⟨x, hx, hlabel⟩
  obtain ⟨c, hc, hlabel⟩ := hcopy
  obtain ⟨after, before, rfl⟩ := List.append_of_mem hc
  rw [List.append_assoc, List.cons_append] at run
  obtain ⟨m, hrun⟩ := run.of_append
  obtain ⟨-, hstep, hbefore⟩ := hrun.of_cons
  have hmove := gaitSaveMove_of_step hstep
  rw [hlabel] at hmove
  refine ⟨after, c, before, c.pre.g_gaitSavePending, rfl, ⟨hlabel, (copy_move hmove).2⟩, ?_⟩
  obtain ⟨v, hv⟩ := Option.isSome_iff_exists.mp hp
  have hne : ((before ++ [p]).filterMap stagedBy).head? ≠ none := by
    rw [List.filterMap_append, List.filterMap_cons_some hv, Ne, List.head?_eq_none_iff]
    simp
  obtain ⟨w, hw⟩ := Option.ne_none_iff_exists'.mp hne
  have hall : ((before ++ p :: earlier).filterMap stagedBy).head? = some w := by
    have happend : before ++ p :: earlier = (before ++ [p]) ++ earlier := by simp
    rw [happend, List.filterMap_append, List.head?_append, hw]
    rfl
  rw [(staged_of_run hbefore).slot w hall, hw]

theorem not_unsaved_of_allSaved (hall : AllSaved h) : ¬ Unsaved h := by
  intro hunsaved
  obtain ⟨later, p, earlier, rfl, hp, hnone⟩ := since_iff.mp hunsaved
  obtain ⟨after, c, before, v, rfl, hcall, -⟩ := hall later p earlier rfl hp
  exact hnone c (List.mem_append.mpr (.inr (List.mem_cons_self ..))) hcall.1

theorem handled_between {last between first : List GaitSaveEvent} {c c' : GaitSaveEvent}
    (run : GaitSaveRun configApi (last ++ c' :: (between ++ c :: first)) s) (hc : c.label = .copy)
    (hc' : c'.label = .copy) : ∃ x ∈ between, Handles x := by
  obtain ⟨m, hrun⟩ := run.of_append
  obtain ⟨-, hstep, hbefore⟩ := hrun.of_cons
  have hmove := gaitSaveMove_of_step hstep
  rw [hc'] at hmove
  have hunsaved := (staged_of_run hbefore).requested (copy_move hmove).1
  by_contra hnone
  have hno : ∀ l, (∀ x ∈ l, ¬ Handles x) → ¬ Unsaved (l ++ c :: first) := by
    intro l hl hu
    induction l with
    | nil =>
      rcases since_cons.mp hu with hnow | ⟨hlabel, -⟩
      · unfold Handles stagedBy at hnow
        rw [hc] at hnow
        cases hnow
      · exact hlabel hc
    | cons x l ih =>
      obtain ⟨hx, hl⟩ := List.forall_mem_cons.mp hl
      exact ih hl ((since_cons.mp hu).resolve_left hx).2
  exact hno between (fun x hx hh => hnone ⟨x, hx, hh⟩) hunsaved

/-- As long as no request is cleared early, a press without a save is requested. -/
theorem requested_of_unsaved (run : GaitSaveRun configApi h s) (hclear : ClearedInTime h)
    (hunsaved : Unsaved h) : s.g_gaitSaveRequested = true := by
  induction run with
  | nil => exact absurd hunsaved since_nil
  | @step h s t a run hstep ih =>
    have hbefore : ClearedInTime h := fun later e earlier heq hlabel =>
      hclear (⟨s, a, t⟩ :: later) e earlier (by rw [heq]; rfl) hlabel
    have hflag (hnot : ¬ Handles ⟨s, a, t⟩) : s.g_gaitSaveRequested = true :=
      ih hbefore ((since_cons.mp hunsaved).resolve_left hnot).2
    cases gaitSaveMove_of_step hstep with
    | handle => rfl
    | publish hseq hsame =>
      refine hsame.trans (hflag ?_)
      unfold Handles
      rw [stagedBy_publish hseq]
      nofun
    | test => exact hflag nofun
    | copy => exact hflag nofun
    | save hsame => exact hsame.trans (hflag nofun)
    | clear =>
      exact absurd ((since_cons.mp hunsaved).resolve_left nofun).2 (hclear [] _ h rfl rfl)
    | other => exact hflag nofun

/-- Every press that is handled is saved exactly once if and only if no press is handled while a save is
running. -/
theorem gait_saved_iff {configApi : ConfigApi} {h : List GaitSaveEvent} {s : GaitSaveTasks}
    (run : GaitSaveRun configApi h s) : SavedExactlyOnce h ↔ ClearedInTime h := by
  constructor
  · rintro ⟨hsaved, -⟩ later e earlier rfl hlabel hunsaved
    obtain ⟨m, hrun⟩ := run.of_append
    have hmove := gaitSaveMove_of_step hrun.of_cons.2.1
    rw [hlabel] at hmove
    refine not_unsaved_of_allSaved (hsaved later e earlier rfl (clear_move hmove)) ?_
    refine .keep (fun hcopy => ?_) hunsaved
    rw [hlabel] at hcopy
    cases hcopy
  · intro hclear
    refine ⟨fun later e earlier heq hflag => ?_, fun last c' between c first heq hc hc' => ?_⟩
    · subst heq
      obtain ⟨m, hrun⟩ := run.of_append
      refine allSaved_of_not_unsaved hrun fun hunsaved => ?_
      have hbefore : ClearedInTime (e :: earlier) := fun later' e' earlier' heq hlabel =>
        hclear (later ++ later') e' earlier' (by rw [heq, List.append_assoc]) hlabel
      have hset := requested_of_unsaved hrun hbefore hunsaved
      rw [← hrun.of_cons.1, hflag] at hset
      cases hset
    · exact handled_between (heq ▸ run) hc hc'

/-- The first press is handled and its save begins, the second is handled, and the save ends without
storage. -/
def pressDuringSave : List GaitSaveStep :=
  [.publish {} { gait_save_seq := 1, gait_save_requested := true, applied_stride_mm := 40 } 0, .test,
    .copy, .publish {} { gait_save_seq := 2, gait_save_requested := true, applied_stride_mm := 50 } 10,
    .save { persistent := false } 20, .clear]

def pressDuringSaveRun : GaitSaveTasks × List GaitSaveEvent :=
  (replay GaitSaveTasks.step { g_configApi := ConfigApi.construct } [] pressDuringSave).getD
    ({ g_configApi := ConfigApi.construct }, [])

theorem pressDuringSave_run :
    GaitSaveRun ConfigApi.construct pressDuringSaveRun.2 pressDuringSaveRun.1 := by
  refine run_replay pressDuringSave .nil ?_
  unfold pressDuringSaveRun
  cases hreplay : replay GaitSaveTasks.step { g_configApi := ConfigApi.construct } []
      pressDuringSave with
  | some out => rfl
  | none =>
    have hsome : (replay GaitSaveTasks.step { g_configApi := ConfigApi.construct } []
      pressDuringSave).isSome := by decide
    rw [hreplay] at hsome
    cases hsome

theorem gait_saved_iff_pressDuringSave :
    SavedExactlyOnce pressDuringSaveRun.2 ↔ ClearedInTime pressDuringSaveRun.2 :=
  gait_saved_iff pressDuringSave_run

theorem gait_press_lost :
    ¬ ∀ (configApi : ConfigApi) (h : List GaitSaveEvent) (s : GaitSaveTasks),
      GaitSaveRun configApi h s → SavedExactlyOnce h := by
  intro hall
  have hsaved := (hall _ _ _ pressDuringSave_run).saved
  obtain ⟨e, earlier, hlist⟩ := List.exists_cons_of_ne_nil
    (show pressDuringSaveRun.2 ≠ [] by decide)
  have hflag : e.post.g_gaitSaveRequested = false := by
    have hhead : pressDuringSaveRun.2.head?.map (fun e => e.post.g_gaitSaveRequested) =
      some false := by decide
    rw [hlist] at hhead
    exact Option.some.inj hhead
  have hunsaved : Unsaved pressDuringSaveRun.2 := by decide
  rw [hlist] at hunsaved
  exact not_unsaved_of_allSaved (hsaved [] e earlier hlist hflag) hunsaved

/-!
## Which cycle hands a save press over

A save press shows as a new value of the save sequence. The cycle that hands it to `apiTask` marks the
value as handled; a cycle that refuses it leaves the value unhandled, and every later cycle that still
shows it decides again. So the first cycle is the only one that can hand a press over exactly as long as
no later cycle permits a save.
-/

variable {F : Type} [FloatArith F]

/-- A save is permitted: RC owns the motion, its command leaves the robot still, and no trick runs. -/
structure PermitsSave (core : ControllerCore F) (inp : ControllerStepInput F) : Prop where
  valid : inp.time.valid = true
  owns : core.RcOwns inp
  still : rcCommandIsActive inp.intent.rc.command = false
  trick : core.trick_engine.active = false

/-- The command of a step requests the save exactly when it is permitted. -/
theorem gait_save_requested_iff (core : ControllerCore F) (inp : ControllerStepInput F) :
    (core.step inp).2.diagnostics.gait_save_requested = true ↔ PermitsSave core inp := by
  by_cases hv : inp.time.valid = true
  · obtain ⟨-, -, -, hrequested⟩ := core.acted_gait_tune inp
    rw [core.step_of_valid inp hv, hrequested]
    simp only [Bool.and_eq_true, beq_iff_eq, Bool.not_eq_true']
    rw [core.source_rc_iff inp]
    constructor
    · rintro ⟨⟨howns, hstill⟩, htrick⟩
      exact ⟨hv, howns, hstill, htrick⟩
    · intro hp
      exact ⟨⟨hp.owns, hp.still⟩, hp.trick⟩
  · rw [core.step_command_of_invalid inp (eq_false_of_ne_true hv)]
    constructor
    · intro hfalse
      cases hfalse
    · intro hp
      exact absurd hp.valid hv

theorem gait_save_seq_of_valid (core : ControllerCore F) {inp : ControllerStepInput F}
    (hv : inp.time.valid = true) :
    (core.step inp).2.diagnostics.gait_save_seq = inp.intent.rc.command.gait_tune_save_seq := by
  obtain ⟨-, -, hseq, -⟩ := core.acted_gait_tune inp
  rw [core.step_of_valid inp hv]
  exact hseq

variable {core₀ : ControllerCore F} {configApi : ConfigApi} {s t : ControlTasks F}
  {e : ControlEvent F} {h earlier later : List (ControlEvent F)} {seq : UInt32}

def ShowsSeq (seq : UInt32) (e : ControlEvent F) : Prop :=
  ∃ inp, e.label = .cycle inp ∧ inp.time.valid = true ∧
    inp.intent.rc.command.gait_tune_save_seq = seq

/-- The latest cycle showed this save sequence. -/
def Seen (seq : UInt32) : List (ControlEvent F) → Prop :=
  Latest (fun e => ∃ k, ShowsSeq k e) (ShowsSeq seq)

/-- The command of the cycle has `gait_save_requested` set. -/
def Requested (e : ControlEvent F) : Prop :=
  ∃ inp, e.label = .cycle inp ∧
    (e.pre.g_controllerCore.step inp).2.diagnostics.gait_save_requested = true

def StagesSave (e : ControlEvent F) : Prop :=
  e.post.save.g_gaitSaveHandledSeq ≠ e.pre.save.g_gaitSaveHandledSeq

structure RefusedStaysRefused (h : List (ControlEvent F)) : Prop where
  /-- A press is handed over in the first cycle that shows its sequence, and the save is requested
  there. -/
  first : ∀ later e earlier, h = later ++ e :: earlier → StagesSave e →
    Requested e ∧ ∃ seq, ShowsSeq seq e ∧ ¬ Seen seq earlier
  /-- After a cycle that refuses what it shows, nothing is handed over before the sequence changes. -/
  refused : ∀ later e earlier seq, h = later ++ e :: earlier → ShowsSeq seq e → ¬ Requested e →
    (∀ x ∈ later, ∀ k, ShowsSeq k x → k = seq) → ∀ x ∈ later, ¬ StagesSave x

/-- The event is no cycle that permits the save of an old press, that is, of a sequence that the latest
cycle before has shown already and that is unhandled. -/
def NoLateChance (e : ControlEvent F) (earlier : List (ControlEvent F)) : Prop :=
  ∀ inp, e.label = .cycle inp → Seen inp.intent.rc.command.gait_tune_save_seq earlier →
    inp.intent.rc.command.gait_tune_save_seq ≠ e.pre.save.g_gaitSaveHandledSeq →
    ¬ PermitsSave e.pre.g_controllerCore inp

omit [FloatArith F] in
theorem ShowsSeq.unique {k : UInt32} (hshows : ShowsSeq seq e) (hk : ShowsSeq k e) : k = seq := by
  obtain ⟨inp, hlabel, -, rfl⟩ := hshows
  obtain ⟨inp', hlabel', -, rfl⟩ := hk
  rw [hlabel] at hlabel'
  obtain rfl := ControlStep.cycle.inj hlabel'
  rfl

def ControlStep.saveStep (core : ControllerCore F) : ControlStep F → GaitSaveStep
  | .cycle inp =>
    .publish inp.config.robot.gait (core.step inp).2.diagnostics inp.time.now_ms
  | .api a => a

theorem save_step {c : ControlStep F} (hstep : s.step c = some t) :
    s.save.step (c.saveStep s.g_controllerCore) = some t.save := by
  cases c with
  | cycle inp =>
    obtain rfl : s.cycle inp = t := Option.some.inj hstep
    rfl
  | api a =>
    unfold ControlTasks.step at hstep
    dsimp only at hstep
    split_ifs at hstep with hapi
    cases hsave : s.save.step a with
    | none =>
      rw [hsave] at hstep
      cases hstep
    | some save =>
      rw [hsave] at hstep
      rw [← Option.some.inj hstep]
      exact hsave

theorem handledSeq_step {save save' : GaitSaveTasks} {a : GaitSaveStep}
    (hstep : save.step a = some save') :
    save'.g_gaitSaveHandledSeq ≠ save.g_gaitSaveHandledSeq ↔ Handles ⟨save, a, save'⟩ := by
  have hneither (a : GaitSaveStep) (hstaged : stagedBy ⟨save, a, save'⟩ = none)
      (hsame : save'.g_gaitSaveHandledSeq = save.g_gaitSaveHandledSeq) :
      save'.g_gaitSaveHandledSeq ≠ save.g_gaitSaveHandledSeq ↔ Handles ⟨save, a, save'⟩ := by
    unfold Handles
    rw [hstaged]
    exact iff_of_false (fun hne => hne hsame) Bool.false_ne_true
  unfold GaitSaveTasks.step at hstep
  split at hstep
  · next gait diag now_ms =>
    obtain rfl := Option.some.inj hstep
    by_cases hseq : diag.gait_save_seq ≠ save.g_gaitSaveHandledSeq ∧ diag.gait_save_requested
    · refine iff_of_true ?_ (handles_handle hseq)
      unfold GaitSaveTasks.publish
      rw [if_pos hseq.1, if_pos hseq.2]
      exact hseq.1
    · refine hneither _ (stagedBy_publish hseq) ?_
      unfold GaitSaveTasks.publish
      split_ifs with hne hrequested
      · exact absurd ⟨hne, hrequested⟩ hseq
      · rfl
      · rfl
      · rfl
  · cases hstep
    exact hneither _ rfl rfl
  · cases hstep
    exact hneither _ rfl rfl
  · obtain rfl := Option.some.inj hstep
    refine hneither _ rfl ?_
    unfold GaitSaveTasks.finishSave
    dsimp only
    split_ifs <;> rfl
  · cases hstep
    exact hneither _ rfl rfl
  · cases hstep
    exact hneither _ rfl rfl
  · cases hstep

/-- A press is handed over by a cycle that shows an unhandled sequence and permits the save. -/
theorem stagesSave_iff (hstep : s.step e.label = some e.post) (hpre : e.pre = s) :
    StagesSave e ↔ ∃ inp, e.label = .cycle inp ∧
      inp.intent.rc.command.gait_tune_save_seq ≠ s.save.g_gaitSaveHandledSeq ∧
      PermitsSave s.g_controllerCore inp := by
  subst hpre
  have hsave := save_step hstep
  unfold StagesSave
  rw [handledSeq_step hsave]
  cases hlabel : e.label with
  | cycle inp =>
    unfold Handles stagedBy ControlStep.saveStep
    rw [Option.isSome_ite, gait_save_requested_iff]
    constructor
    · rintro ⟨hseq, hp⟩
      rw [gait_save_seq_of_valid _ hp.valid] at hseq
      exact ⟨inp, rfl, hseq, hp⟩
    · rintro ⟨inp', heq, hseq, hp⟩
      obtain rfl := ControlStep.cycle.inj heq
      rw [gait_save_seq_of_valid _ hp.valid]
      exact ⟨hseq, hp⟩
  | api a =>
    have hapi : a.ofApi = true := by
      rw [hlabel] at hstep
      unfold ControlTasks.step at hstep
      dsimp only at hstep
      split_ifs at hstep with hapi
      exact hapi
    refine iff_of_false (fun hhandles => ?_) fun ⟨inp, heq, _⟩ => by cases heq
    cases a with
    | publish gait diag now_ms => cases hapi
    | _ => cases hhandles

theorem requested_iff : Requested e ↔
    ∃ inp, e.label = .cycle inp ∧ PermitsSave e.pre.g_controllerCore inp := by
  unfold Requested
  simp only [gait_save_requested_iff]

theorem ShowsSeq.of_permits {inp : ControllerStepInput F} (hlabel : e.label = .cycle inp)
    (hp : PermitsSave e.pre.g_controllerCore inp) :
    ShowsSeq inp.intent.rc.command.gait_tune_save_seq e := ⟨inp, hlabel, hp.valid, rfl⟩

theorem save_run (run : ControlRun core₀ configApi h s) :
    GaitSaveRun configApi
      (h.map fun e => ⟨e.pre.save, e.label.saveStep e.pre.g_controllerCore, e.post.save⟩) s.save := by
  induction run with
  | nil => exact .nil
  | step run hstep ih => exact ih.step (save_step hstep)

omit [FloatArith F] in
theorem seen_cons_of_shows {k : UInt32} (hshows : ShowsSeq k e) : Seen seq (e :: h) ↔ ShowsSeq seq e :=
  latest_cons_of (c := fun e => ∃ k, ShowsSeq k e) ⟨k, hshows⟩

omit [FloatArith F] in
theorem seen_of_unchanged (hshows : ShowsSeq seq e)
    (hsame : ∀ x ∈ later, ∀ k, ShowsSeq k x → k = seq) : Seen seq (later ++ e :: earlier) := by
  induction later with
  | nil => exact (seen_cons_of_shows hshows).mpr hshows
  | cons x later ih =>
    by_cases hx : ∃ k, ShowsSeq k x
    · obtain ⟨k, hk⟩ := hx
      refine (seen_cons_of_shows hk).mpr ?_
      rw [← hsame x (List.mem_cons_self ..) k hk]
      exact hk
    · refine (latest_cons_of_not (c := fun e => ∃ k, ShowsSeq k e) hx).mpr ?_
      exact ih fun y hy => hsame y (List.mem_cons_of_mem _ hy)

theorem stagesSave_of_run (run : ControlRun core₀ configApi (later ++ e :: earlier) s) :
    StagesSave e ↔ ∃ inp, e.label = .cycle inp ∧
      inp.intent.rc.command.gait_tune_save_seq ≠ e.pre.save.g_gaitSaveHandledSeq ∧
      PermitsSave e.pre.g_controllerCore inp := by
  obtain ⟨hstep, -⟩ := run.of_mem (List.mem_append_right _ (List.mem_cons_self ..))
  exact stagesSave_iff hstep rfl

/-- In every run, a refused press stays refused exactly when no cycle gives an old press a late
chance. -/
theorem refused_stays_refused_iff (run : ControlRun core₀ configApi h s) :
    RefusedStaysRefused h ↔
      ∀ later e earlier, h = later ++ e :: earlier → NoLateChance e earlier := by
  constructor
  · intro hrefused later e earlier heq inp hlabel hseen hseq hp
    subst heq
    obtain ⟨-, k, hshows, hfresh⟩ :=
      hrefused.first later e earlier rfl ((stagesSave_of_run run).mpr ⟨inp, hlabel, hseq, hp⟩)
    obtain rfl := (ShowsSeq.of_permits hlabel hp).unique hshows
    exact hfresh hseen
  · intro hchance
    have hfirst : ∀ later e earlier, h = later ++ e :: earlier → StagesSave e →
        Requested e ∧ ∃ seq, ShowsSeq seq e ∧ ¬ Seen seq earlier := by
      intro later e earlier heq hover
      subst heq
      obtain ⟨inp, hlabel, hseq, hp⟩ := (stagesSave_of_run run).mp hover
      refine ⟨requested_iff.mpr ⟨inp, hlabel, hp⟩, _, .of_permits hlabel hp, fun hseen => ?_⟩
      exact hchance later e earlier rfl inp hlabel hseen hseq hp
    refine ⟨hfirst, fun later e earlier seq heq hshows hnot hsame x hx hover => ?_⟩
    obtain ⟨after, before, rfl⟩ := List.append_of_mem hx
    rw [List.append_assoc, List.cons_append] at heq
    obtain ⟨-, k, hk, hfresh⟩ := hfirst after x (before ++ e :: earlier) heq hover
    rw [hsame x hx k hk] at hfresh
    refine hfresh (seen_of_unchanged hshows fun y hy => hsame y ?_)
    exact List.mem_append_right _ (List.mem_cons_of_mem _ hy)

/-- RC is armed and has pressed save once, with the stick at this position. -/
noncomputable def pressedOnce (twist_vx : ℝ) (now_ms : UInt32) : ControllerStepInput ℝ where
  intent :=
    { rc :=
        { command := { ControllerCommand.default with
            valid := true
            twist_vx
            gait_tune_active := true
            gait_tune_save_seq := 1 }
          ever_seen := true
          kill := false
          failsafe := false
          armed := true }
      motion := .default }
  time := { now_ms, dt_ms := 10, valid := true }

theorem active_pressedOnce (twist_vx : ℝ) (now_ms : UInt32) :
    rcCommandIsActive (pressedOnce twist_vx now_ms).intent.rc.command = true ↔
      ((0.05 : ℚ) : ℝ) < |twist_vx| := by
  unfold rcCommandIsActive pressedOnce ControllerCommand.default
  simp only [Bool.or_eq_true, Bool.and_eq_true, lt_exact, fabs_exact, lit_exact]
  norm_num

noncomputable def saveStart : ControlTasks ℝ :=
  ⟨ControllerCore.new.reset, { g_configApi := ConfigApi.construct }⟩

/-- The cycle that shows the press while the stick is pushed, and the next one, at rest. -/
noncomputable def lateSave : List (ControlEvent ℝ) :=
  let moving := saveStart.cycle (pressedOnce 1 0)
  [⟨moving, .cycle (pressedOnce 0 10), moving.cycle (pressedOnce 0 10)⟩,
    ⟨saveStart, .cycle (pressedOnce 1 0), moving⟩]

theorem lateSave_run : ControlRun ControllerCore.new ConfigApi.construct lateSave
    ((saveStart.cycle (pressedOnce 1 0)).cycle (pressedOnce 0 10)) :=
  .step (.step .nil rfl) rfl

theorem refused_stays_refused_iff_lateSave :
    RefusedStaysRefused lateSave ↔
      ∀ later e earlier, lateSave = later ++ e :: earlier → NoLateChance e earlier :=
  refused_stays_refused_iff lateSave_run

theorem lateSave_refused : ¬ PermitsSave saveStart.g_controllerCore (pressedOnce 1 0) := by
  intro hp
  have hactive := (active_pressedOnce 1 0).mpr (by norm_num)
  rw [hp.still] at hactive
  cases hactive

theorem lateSave_unhandled :
    (saveStart.cycle (pressedOnce 1 0)).save.g_gaitSaveHandledSeq = 0 := by
  by_contra hne
  have hstep : saveStart.step (.cycle (pressedOnce 1 0)) =
      some (saveStart.cycle (pressedOnce 1 0)) := rfl
  obtain ⟨inp, hlabel, -, hp⟩ := (stagesSave_iff (e := ⟨saveStart, _, _⟩) hstep rfl).mp hne
  obtain rfl := ControlStep.cycle.inj hlabel
  exact lateSave_refused hp

theorem lateSave_permitted :
    PermitsSave (saveStart.cycle (pressedOnce 1 0)).g_controllerCore (pressedOnce 0 10) := by
  refine ⟨rfl, ⟨rfl, rfl, rfl, rfl, ?_, ?_⟩, ?_, ?_⟩
  · decide
  · decide
  · refine eq_false_of_ne_true fun hactive => ?_
    have hstick := (active_pressedOnce 0 10).mp hactive
    norm_num at hstick
  · decide

theorem not_refused_stays_refused :
    ¬ ∀ (core₀ : ControllerCore ℝ) configApi h s, ControlRun core₀ configApi h s →
      RefusedStaysRefused h := by
  intro hall
  have hrefused := hall _ _ _ _ lateSave_run
  have hfirst : ¬ Requested (⟨saveStart, .cycle (pressedOnce 1 0),
      saveStart.cycle (pressedOnce 1 0)⟩ : ControlEvent ℝ) := by
    intro hrequested
    obtain ⟨inp, hlabel, hp⟩ := requested_iff.mp hrequested
    obtain rfl := ControlStep.cycle.inj hlabel
    exact lateSave_refused hp
  refine hrefused.refused [_] _ [] 1 rfl ⟨_, rfl, rfl, rfl⟩ hfirst ?_ _
    (List.mem_cons_self ..) ((stagesSave_iff rfl rfl).mpr ⟨_, rfl, ?_, lateSave_permitted⟩)
  · intro x hx k hk
    obtain rfl := List.mem_singleton.mp hx
    obtain ⟨inp, hlabel, -, rfl⟩ := hk
    obtain rfl := ControlStep.cycle.inj hlabel
    rfl
  · rw [lateSave_unhandled]
    decide

end HexapodVerified.App
