import HexapodVerified.Safety.Proofs.JournalProofs

/-!
# Announced errors that have not been handed out

An unsent error leaves the table only when it is handed out or when its entry is recycled. Recycling
looks at the severity stored in the entry, which is that of the latest occurrence and not that of the
announcement: an error that occurs again less severely is protected less.
-/

namespace HexapodVerified.Safety

open Transition Tables

variable {j t : ErrorJournal} {slot : Fin kMaxErrorEntries} {code c : ErrorCode}
  {detail d : UInt8} {severity sev : ErrorSeverity} {now_ms : UInt32} {announced : Bool}
  {h later earlier : List JournalEvent} {e a : JournalEvent}

def Announced (code : ErrorCode) (detail : UInt8) (severity : ErrorSeverity) (e : JournalEvent) :
    Prop :=
  ∃ now_ms, e.label = (.note code detail severity now_ms, .note true)

/-- `takePending` hands the error out. -/
def Takes (code : ErrorCode) (detail : UInt8) (e : JournalEvent) : Prop :=
  ∃ out, e.label = (.takePending, .takePending (some out)) ∧ out.code = code ∧ out.detail = detail

/-- The error has not been handed out, and all other errors noted were at most of the severity. -/
structure Waiting (code : ErrorCode) (detail : UInt8) (severity : ErrorSeverity)
    (later : List JournalEvent) : Prop where
  untaken : ∀ e ∈ later, ¬ Takes code detail e
  others : ∀ e ∈ later, ∀ c d sev now_ms, e.label.1 = .note c d sev now_ms →
    ¬ (c = code ∧ d = detail) → sev ≤ severity

/-- A note of the error `c`, `d` does not recycle the entry of the error `code`, `detail`: it needs no
entry of the table, or there is room, or the entry is stored at its severity or above, or another entry
is recycled before. -/
def Spared (j : ErrorJournal) (code : ErrorCode) (detail : UInt8) (c : ErrorCode) (d : UInt8)
    (sev : ErrorSeverity) (now_ms : UInt32) : Prop :=
  c = .none ∨ (∃ i, Holds j c d i) ∨ j.count < kMaxErrorEntries ∨
    ∃ slot, Holds j code detail slot ∧
      (sev ≤ (j.entries.get slot).severity ∨ RecycledBefore j sev now_ms slot)

def SparedIn (code : ErrorCode) (detail : UInt8) (e : JournalEvent) : Prop :=
  ∀ c d sev now_ms, e.label.1 = .note c d sev now_ms → ¬ (c = code ∧ d = detail) →
    Spared e.pre code detail c d sev now_ms

theorem recyclable_pending (hpending : j.pending.get slot = true) :
    j.recyclable sev slot = true ↔ ¬ sev ≤ (j.entries.get slot).severity := by
  unfold ErrorJournal.recyclable
  rw [hpending, Bool.true_and, Bool.not_eq_true', decide_eq_false_iff_not]

theorem Written.unsent_other {i : Fin kMaxErrorEntries}
    (hwritten : Written j t i c d sev announced) (hholds : Holds j code detail slot)
    (hpending : j.pending.get slot = true) (hne : slot ≠ i) : Unsent t code detail :=
  ⟨slot, (hwritten.holds_other hne).mpr hholds, ((hwritten.others slot hne).2.2).trans hpending⟩

theorem unsent_after_repeat (hdistinct : DistinctErrors j) (hunsent : Unsent j code detail)
    (hmove : NoteMove j code detail sev now_ms t announced) : Unsent t code detail := by
  obtain ⟨slot, hholds, hpending⟩ := hunsent
  cases hmove with
  | ignored => exact ⟨slot, hholds, hpending⟩
  | added hnew => exact absurd hholds (hnew slot)
  | dropped hnew => exact absurd hholds (hnew slot)
  | recycled _ hnew => exact absurd hholds (hnew slot)
  | repeated hholds' hwritten =>
    obtain rfl := hdistinct _ _ _ _ hholds' hholds
    refine ⟨_, hwritten.holds, ?_⟩
    rw [hwritten.pending, hpending, Bool.or_true]

/-- A note of another error leaves an unsent error unsent exactly when it spares it. -/
theorem unsent_after_other (hdistinct : DistinctErrors j) (hunsent : Unsent j code detail)
    (hother : ¬ (c = code ∧ d = detail)) (hmove : NoteMove j c d sev now_ms t announced) :
    Unsent t code detail ↔ Spared j code detail c d sev now_ms := by
  obtain ⟨slot, hholds, hpending⟩ := hunsent
  cases hmove with
  | ignored hnone => exact iff_of_true ⟨slot, hholds, hpending⟩ (.inl hnone)
  | @added t i hnew hroom hwritten =>
    have hne : slot ≠ i := fun heq => by
      have hused := hholds.used
      rw [heq, hroom] at hused
      exact lt_irrefl _ hused
    exact iff_of_true (hwritten.unsent_other hholds hpending hne) (.inr (.inr (.inl (hroom ▸ i.isLt))))
  | dropped hnew hsame hno =>
    have hkept := (pick_eq_none_iff recycledFirst_iff).mp hno slot (mem_indices.mpr hholds.used)
    have hsev : sev ≤ (j.entries.get slot).severity := by
      by_contra hnot
      rw [(recyclable_pending hpending).mpr hnot] at hkept
      cases hkept
    refine iff_of_true ⟨slot, (Holds.of_same hsame).mpr hholds, ?_⟩
      (.inr (.inr (.inr ⟨slot, hholds, .inl hsev⟩)))
    rw [hsame.2.1]
    exact hpending
  | @recycled t i hcode hnew hfull hrecycle hwritten =>
    by_cases heq : i = slot
    · subst heq
      have hel := (recycled_used hrecycle).2
      refine iff_of_false ?_ ?_
      · rintro ⟨k, hk, -⟩
        by_cases hki : k = i
        · subst hki
          exact hother (hk.same hwritten.holds)
        · exact hki (hdistinct _ _ _ _ ((hwritten.holds_other hki).mp hk) hholds)
      · rintro (hnone | ⟨k, hk⟩ | hroom | ⟨k, hk, hsaved⟩)
        · exact hcode hnone
        · exact hnew k hk
        · exact hfull hroom
        · obtain rfl := hdistinct _ _ _ _ hk hholds
          rcases hsaved with hsev | hbefore
          · exact (recyclable_pending hpending).mp hel hsev
          · exact (recycleSlot_iff hholds.used hel).mp hrecycle hbefore
    · have hne : slot ≠ i := fun h => heq h.symm
      refine iff_of_true (hwritten.unsent_other hholds hpending hne) ?_
      refine .inr (.inr (.inr ⟨slot, hholds, ?_⟩))
      by_contra hnot
      obtain ⟨hsev, hbefore⟩ := not_or.mp hnot
      have hsame := (recycleSlot_iff hholds.used ((recyclable_pending hpending).mpr hsev)).mpr hbefore
      exact heq (Option.some.inj (hrecycle.symm.trans hsame))
  | @repeated t i announced hholds' hwritten =>
    have hne : slot ≠ i := fun heq => by
      subst heq
      exact hother (hholds.same hholds')
    exact iff_of_true (hwritten.unsent_other hholds hpending hne) (.inr (.inl ⟨i, hholds'⟩))

theorem unsent_after_take {out : Option ErrorEntry} (hunsent : Unsent j code detail)
    (hmove : TakeMove j t out)
    (hother : ∀ entry, out = some entry → ¬ (entry.code = code ∧ entry.detail = detail)) :
    Unsent t code detail := by
  obtain ⟨slot, hholds, hpending⟩ := hunsent
  cases hmove with
  | nothing hsame =>
    refine ⟨slot, (Holds.of_same hsame).mpr hholds, ?_⟩
    rw [hsame.2.1]
    exact hpending
  | @taken i _ _ hentries hcount hothers =>
    have hne : slot ≠ i := fun heq => by
      subst heq
      exact hother _ rfl ⟨hholds.code, hholds.detail⟩
    refine ⟨slot, ⟨hcount ▸ hholds.used, ?_, ?_⟩, (hothers slot hne).trans hpending⟩
    · rw [hentries]
      exact hholds.code
    · rw [hentries]
      exact hholds.detail

theorem noteMove_of_step {io : JournalCall × JournalAnswer}
    (hstep : WithOutput ErrorJournal.step j io t) (hcall : io.1 = .note c d sev now_ms) :
    ∃ announced, io.2 = .note announced ∧ NoteMove j c d sev now_ms t announced := by
  obtain ⟨call, answer⟩ := io
  cases hcall
  cases hstep
  exact ⟨_, rfl, noteMove_of_note j c d sev now_ms⟩

theorem takeMove_of_step {io : JournalCall × JournalAnswer}
    (hstep : WithOutput ErrorJournal.step j io t) (hcall : io.1 = .takePending) :
    ∃ out, io = (.takePending, .takePending out) ∧ TakeMove j t out := by
  obtain ⟨call, answer⟩ := io
  cases hcall
  cases hstep
  exact ⟨_, rfl, takeMove_of_take j⟩

/-- One call leaves an unsent error unsent, unless it hands it out or does not spare it. -/
theorem unsent_step_iff (run : JournalRun (e :: h) j) (hunsent : Unsent e.pre code detail)
    (huntaken : ¬ Takes code detail e) : Unsent e.post code detail ↔ SparedIn code detail e := by
  obtain ⟨-, hstep, hbefore⟩ := run.of_cons
  have hdistinct := distinctErrors_of_run hbefore
  cases hcall : e.label.1 with
  | note c d sev now_ms =>
    obtain ⟨announced, -, hmove⟩ := noteMove_of_step hstep hcall
    by_cases hsame : c = code ∧ d = detail
    · obtain ⟨rfl, rfl⟩ := hsame
      refine iff_of_true (unsent_after_repeat hdistinct hunsent hmove) ?_
      intro c' d' sev' now' hlabel hother
      cases hcall.symm.trans hlabel
      exact absurd ⟨rfl, rfl⟩ hother
    · rw [unsent_after_other hdistinct hunsent hsame hmove]
      constructor
      · intro hspared c' d' sev' now' hlabel _
        cases hcall.symm.trans hlabel
        exact hspared
      · intro hspared
        exact hspared c d sev now_ms hcall hsame
  | takePending =>
    obtain ⟨out, hlabel, hmove⟩ := takeMove_of_step hstep hcall
    refine iff_of_true (unsent_after_take hunsent hmove ?_) ?_
    · intro entry hout hkey
      rw [hout] at hlabel
      exact huntaken ⟨entry, hlabel, hkey⟩
    · intro c d sev now_ms hlabel
      cases hcall.symm.trans hlabel

/-- An announced error is a note that announces. -/
theorem Announced.noteMove (hann : Announced code detail severity a) (run : JournalRun (a :: earlier) j) :
    ∃ now_ms, NoteMove a.pre code detail severity now_ms j true := by
  obtain ⟨hpost, hstep, -⟩ := run.of_cons
  obtain ⟨now_ms, hlabel⟩ := hann
  obtain ⟨announced, hout, hmove⟩ := noteMove_of_step hstep (congrArg Prod.fst hlabel)
  rw [hlabel] at hout
  cases hout
  exact ⟨now_ms, hpost ▸ hmove⟩

theorem unsent_reached (run : JournalRun (later ++ a :: earlier) j)
    (hann : Announced code detail severity a) (hlater : ∀ e ∈ later, Unsent e.post code detail) :
    Unsent j code detail := by
  cases later with
  | nil =>
    obtain ⟨now_ms, hmove⟩ := hann.noteMove run
    exact unsent_of_announced hmove
  | cons e later =>
    rw [← run.of_cons.1]
    exact hlater e (List.mem_cons_self ..)

/-- An announced error that is not handed out stays unsent exactly as long as the notes of other errors
spare it. -/
theorem unsent_kept_iff {h : List JournalEvent} {j : ErrorJournal} {later earlier : List JournalEvent}
    {a : JournalEvent} {code : ErrorCode} {detail : UInt8} {severity : ErrorSeverity}
    (run : JournalRun h j) (hsplit : h = later ++ a :: earlier)
    (hann : Announced code detail severity a) (hwait : Waiting code detail severity later) :
    (∀ e ∈ later, Unsent e.post code detail) ↔ ∀ e ∈ later, SparedIn code detail e := by
  subst hsplit
  obtain ⟨huntaken, -⟩ := hwait
  induction later generalizing j with
  | nil =>
    exact iff_of_true (fun e he => absurd he List.not_mem_nil)
      (fun e he => absurd he List.not_mem_nil)
  | cons e later ih =>
    obtain ⟨-, -, hbefore⟩ := run.of_cons
    obtain ⟨hnot, huntaken⟩ := List.forall_mem_cons.mp huntaken
    rw [List.forall_mem_cons, List.forall_mem_cons, ih hbefore huntaken]
    constructor
    · rintro ⟨hpost, hspared⟩
      have hpre := unsent_reached hbefore hann ((ih hbefore huntaken).mpr hspared)
      exact ⟨(unsent_step_iff run hpre hnot).mp hpost, hspared⟩
    · rintro ⟨hnow, hspared⟩
      have hpre := unsent_reached hbefore hann ((ih hbefore huntaken).mpr hspared)
      exact ⟨(unsent_step_iff run hpre hnot).mpr hnow, hspared⟩

def StoredAtLeast (severity : ErrorSeverity) (code : ErrorCode) (detail : UInt8) (j : ErrorJournal) :
    Prop :=
  ∀ i, Holds j code detail i → severity ≤ (j.entries.get i).severity

theorem Written.stored {i : Fin kMaxErrorEntries} (hwritten : Written j t i c d sev announced)
    (hstored : StoredAtLeast severity code detail j)
    (hsame : c = code ∧ d = detail → severity ≤ sev) : StoredAtLeast severity code detail t := by
  intro k hk
  by_cases hki : k = i
  · subst hki
    rw [hwritten.severity]
    exact hsame (hk.same hwritten.holds)
  · rw [(hwritten.others k hki).2.1]
    exact hstored k ((hwritten.holds_other hki).mp hk)

theorem NoteMove.stored (hmove : NoteMove j c d sev now_ms t announced)
    (hstored : StoredAtLeast severity code detail j)
    (hsame : c = code ∧ d = detail → severity ≤ sev) : StoredAtLeast severity code detail t := by
  cases hmove with
  | ignored => exact hstored
  | added _ _ hwritten => exact hwritten.stored hstored hsame
  | dropped _ hunchanged =>
    intro i hi
    rw [hunchanged.1]
    exact hstored i ((Holds.of_same hunchanged).mp hi)
  | recycled _ _ _ _ hwritten => exact hwritten.stored hstored hsame
  | repeated _ hwritten => exact hwritten.stored hstored hsame

theorem TakeMove.stored {out : Option ErrorEntry} (hmove : TakeMove j t out)
    (hstored : StoredAtLeast severity code detail j) : StoredAtLeast severity code detail t := by
  have hsame := hmove.entries_same
  rintro i ⟨hused, hcode, hdetail⟩
  rw [hsame.1] at hcode hdetail ⊢
  exact hstored i ⟨hsame.2 ▸ hused, hcode, hdetail⟩

theorem stored_of_announced (hdistinct : DistinctErrors t)
    (hmove : NoteMove j code detail severity now_ms t true) :
    StoredAtLeast severity code detail t := by
  have hwritten : ∃ i, Holds t code detail i ∧ (t.entries.get i).severity = severity := by
    cases hmove with
    | added _ _ hwritten => exact ⟨_, hwritten.holds, hwritten.severity⟩
    | recycled _ _ _ _ hwritten => exact ⟨_, hwritten.holds, hwritten.severity⟩
    | repeated _ hwritten => exact ⟨_, hwritten.holds, hwritten.severity⟩
  obtain ⟨i, hi, hsev⟩ := hwritten
  intro k hk
  rw [hdistinct _ _ _ _ hk hi, hsev]
  exact Nat.le_refl _

theorem stored_reached (run : JournalRun (later ++ a :: earlier) j)
    (hann : Announced code detail severity a)
    (hrepeat : ∀ e ∈ later, ∀ sev now_ms, e.label.1 = .note code detail sev now_ms → severity ≤ sev) :
    StoredAtLeast severity code detail j := by
  induction later generalizing j with
  | nil =>
    obtain ⟨now_ms, hmove⟩ := hann.noteMove run
    exact stored_of_announced (distinctErrors_of_run run) hmove
  | cons e later ih =>
    obtain ⟨hpost, hstep, hbefore⟩ := run.of_cons
    obtain ⟨hnow, hrepeat⟩ := List.forall_mem_cons.mp hrepeat
    have hstored := ih hbefore hrepeat
    rw [← hpost]
    cases hcall : e.label.1 with
    | note c d sev now_ms =>
      obtain ⟨announced, -, hmove⟩ := noteMove_of_step hstep hcall
      refine hmove.stored hstored ?_
      rintro ⟨rfl, rfl⟩
      exact hnow sev now_ms hcall
    | takePending =>
      obtain ⟨out, -, hmove⟩ := takeMove_of_step hstep hcall
      exact hmove.stored hstored

/-- An announced error that never occurs less severely stays unsent until it is handed out. -/
theorem unsent_of_not_lowered (run : JournalRun (later ++ a :: earlier) j)
    (hann : Announced code detail severity a) (hwait : Waiting code detail severity later)
    (hrepeat : ∀ e ∈ later, ∀ sev now_ms, e.label.1 = .note code detail sev now_ms → severity ≤ sev) :
    ∀ e ∈ later, Unsent e.post code detail := by
  obtain ⟨huntaken, hothers⟩ := hwait
  induction later generalizing j with
  | nil => exact fun e he => absurd he List.not_mem_nil
  | cons e later ih =>
    obtain ⟨-, -, hbefore⟩ := run.of_cons
    obtain ⟨hnot, huntaken⟩ := List.forall_mem_cons.mp huntaken
    obtain ⟨hsev, hothers⟩ := List.forall_mem_cons.mp hothers
    obtain ⟨-, hrepeat⟩ := List.forall_mem_cons.mp hrepeat
    have hlater := ih hbefore hrepeat huntaken hothers
    have hpre := unsent_reached hbefore hann hlater
    have hstored := stored_reached hbefore hann hrepeat
    refine List.forall_mem_cons.mpr ⟨(unsent_step_iff run hpre hnot).mpr ?_, hlater⟩
    intro c d sev now_ms hlabel hother
    obtain ⟨slot, hholds, -⟩ := hpre
    have hle : sev ≤ (e.pre.entries.get slot).severity :=
      Nat.le_trans (hsev c d sev now_ms hlabel hother) (hstored slot hholds)
    exact .inr (.inr (.inr ⟨slot, hholds, .inl hle⟩))

instance : Decidable (Holds j code detail slot) :=
  decidable_of_iff (slot.val < j.count ∧ (j.entries.get slot).code = code ∧
      (j.entries.get slot).detail = detail)
    ⟨fun ⟨hused, hcode, hdetail⟩ => ⟨hused, hcode, hdetail⟩,
      fun ⟨hused, hcode, hdetail⟩ => ⟨hused, hcode, hdetail⟩⟩

instance : Decidable (Unsent j code detail) :=
  inferInstanceAs (Decidable (∃ i, Holds j code detail i ∧ j.pending.get i = true))

def criticalNoted : JournalEvent where
  pre := {}
  label := (.note .watchdogStall 0 .critical 0, .note true)
  post := (ErrorJournal.note {} .watchdogStall 0 .critical 0).1

/-- After it eleven warnings fill the table, the critical error occurs again, noted as information only,
and there is another warning. -/
def loweredCalls : List JournalCall :=
  (List.range 11).map (fun i => .note .goalClamped (UInt8.ofNat i) .warning 10) ++
    [.note .watchdogStall 0 .info 20, .note .goalClamped 11 .warning 30]

theorem loweredCalls_notes {call : JournalCall} (hcall : call ∈ loweredCalls) :
    ∃ c d sev now_ms, call = .note c d sev now_ms ∧ sev ≤ .critical := by
  rcases List.mem_append.mp hcall with hmem | hmem
  · obtain ⟨i, -, rfl⟩ := List.mem_map.mp hmem
    exact ⟨_, _, _, _, rfl, by decide⟩
  · rcases List.mem_cons.mp hmem with rfl | hmem
    · exact ⟨_, _, _, _, rfl, by decide⟩
    · obtain rfl := List.mem_singleton.mp hmem
      exact ⟨_, _, _, _, rfl, by decide⟩

def loweredEvents : List JournalEvent :=
  (record ErrorJournal.step criticalNoted.post [] loweredCalls).2

theorem run_after_critical (calls : List JournalCall) :
    JournalRun ((record ErrorJournal.step criticalNoted.post [] calls).2 ++ [criticalNoted])
      (record ErrorJournal.step criticalNoted.post [] calls).1 := by
  have hnote : (ErrorJournal.note {} .watchdogStall 0 .critical 0).2 = true := by decide
  have hfirst : JournalRun [criticalNoted] criticalNoted.post :=
    .step .nil (congrArg (fun b => (criticalNoted.post, JournalAnswer.note b)) hnote)
  have hrun := run_record ErrorJournal.step calls hfirst
  rw [record_append] at hrun
  exact hrun

theorem lowered_run : JournalRun (loweredEvents ++ [criticalNoted])
    (record ErrorJournal.step criticalNoted.post [] loweredCalls).1 :=
  run_after_critical loweredCalls

theorem lowered_waiting : Waiting .watchdogStall 0 .critical loweredEvents := by
  refine ⟨?_, ?_⟩
  · rintro e he ⟨out, hlabel, -⟩
    obtain ⟨c, d, sev, now_ms, hcall, -⟩ := loweredCalls_notes (mem_record he)
    cases (congrArg Prod.fst hlabel).symm.trans hcall
  · intro e he c d sev now_ms hlabel _
    obtain ⟨c', d', sev', now', hcall, hsev⟩ := loweredCalls_notes (mem_record he)
    cases hlabel.symm.trans hcall
    exact hsev

theorem unsent_kept_iff_lowered :
    (∀ e ∈ loweredEvents, Unsent e.post .watchdogStall 0) ↔
      ∀ e ∈ loweredEvents, SparedIn .watchdogStall 0 e :=
  unsent_kept_iff lowered_run rfl ⟨0, rfl⟩ lowered_waiting

theorem unsent_displaced :
    ¬ ∀ (h : List JournalEvent) (j : ErrorJournal) (later : List JournalEvent) (a : JournalEvent)
      (earlier : List JournalEvent) (code : ErrorCode) (detail : UInt8) (severity : ErrorSeverity),
      JournalRun h j → h = later ++ a :: earlier → Announced code detail severity a →
      Waiting code detail severity later → ∀ e ∈ later, Unsent e.post code detail := by
  intro hkept
  have hann : Announced .watchdogStall 0 .critical criticalNoted := ⟨0, rfl⟩
  have hevents := hkept _ _ _ _ _ _ _ _ lowered_run rfl hann lowered_waiting
  have hreached := unsent_reached lowered_run hann hevents
  revert hreached
  decide +kernel

/-- Twelve warnings: more than there is room for beside the critical error. -/
def warningCalls : List JournalCall :=
  (List.range 12).map fun i => .note .goalClamped (UInt8.ofNat i) .warning 10

theorem warning_of_mem {e : JournalEvent} (he : e ∈ (record ErrorJournal.step criticalNoted.post [] warningCalls).2) :
    ∃ d, e.label.1 = .note .goalClamped d .warning 10 := by
  obtain ⟨i, -, hi⟩ := List.mem_map.mp (mem_record he)
  exact ⟨_, hi.symm⟩

theorem unsent_of_not_lowered_warnings : warningCalls.length = 12 ∧
    ∀ e ∈ (record ErrorJournal.step criticalNoted.post [] warningCalls).2, Unsent e.post .watchdogStall 0 := by
  refine ⟨rfl, unsent_of_not_lowered (run_after_critical warningCalls)
    (show Announced .watchdogStall 0 .critical _ from ⟨0, rfl⟩) ⟨?_, ?_⟩ ?_⟩
  · rintro e he ⟨out, hlabel, -⟩
    obtain ⟨d, hcall⟩ := warning_of_mem he
    cases (congrArg Prod.fst hlabel).symm.trans hcall
  · intro e he c d sev now_ms hlabel _
    obtain ⟨d', hcall⟩ := warning_of_mem he
    cases hlabel.symm.trans hcall
    decide
  · intro e he sev now_ms hlabel
    obtain ⟨d', hcall⟩ := warning_of_mem he
    cases hlabel.symm.trans hcall

end HexapodVerified.Safety
