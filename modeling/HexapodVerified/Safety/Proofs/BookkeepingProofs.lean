import HexapodVerified.Safety.Proofs.JournalProofs

/-!
# The bookkeeping of the error journal

The count of pending entries is the number of flags that are set, and an error that stays in the table is
announced at most once in `kRepeatIntervalMs`. The second rests on the two times of an entry: `first_ms` is
the time of the latest announcement and `last_ms` that of the latest note, which is not earlier, so either of
the two tests of `note` shows that the interval has passed.
-/

namespace HexapodVerified.Safety

open Transition Tables WrappedTime

variable {j t : ErrorJournal} {i k slot : Fin kMaxErrorEntries} {code c : ErrorCode}
  {detail d : UInt8} {severity sev : ErrorSeverity} {now_ms : UInt32} {announced announce : Bool}
  {h : List ClockedEvent} {e : ClockedEvent} {start now : Nat}

/-- The flags that are set belong to entries in use, and there are `pending_count` of them. -/
structure Booked (j : ErrorJournal) : Prop where
  capacity : j.count ≤ kMaxErrorEntries
  flags : ∀ i, j.pending.get i = true → i.val < j.count
  tally : j.pending_count = (flagged j.pending).card

theorem record_booked (hbooked : Booked j) (hused : slot.val < j.count) (entry : ErrorEntry)
    (severity : ErrorSeverity) (now_ms : UInt32) (announce : Bool) :
    Booked (j.record slot entry severity now_ms announce).1 := by
  obtain ⟨hcapacity, hflags, htally⟩ := hbooked
  cases announce with
  | false => exact ⟨hcapacity, hflags, htally⟩
  | true =>
    refine ⟨hcapacity, fun i hi => ?_, ?_⟩
    · by_cases heq : slot = i
      · exact heq ▸ hused
      · exact hflags i ((get_set_ne _ (fun h => heq h.symm) _).symm.trans hi)
    · refine Eq.trans ?_ (card_flagged_set j.pending slot).symm
      rw [← htally]
      rfl

theorem dropPending_booked (hbooked : Booked j) (slot : Fin kMaxErrorEntries) :
    Booked (j.dropPending slot) := by
  unfold ErrorJournal.dropPending
  by_cases hpending : j.pending.get slot = true
  · rw [if_pos hpending]
    obtain ⟨hcapacity, hflags, htally⟩ := hbooked
    refine ⟨hcapacity, fun i hi => hflags i ?_, ?_⟩
    · by_cases heq : slot = i
      · exact heq ▸ hpending
      · exact (get_set_ne _ (fun h => heq h.symm) _).symm.trans hi
    · have hcard := card_flagged_clear hpending
      rw [← htally] at hcard
      have hguard : (if j.pending_count > 0 then j.pending_count - 1 else j.pending_count) =
          j.pending_count - 1 := by
        split_ifs <;> omega
      exact hguard.trans hcard.symm
  · rw [if_neg hpending]
    exact hbooked

theorem note_booked (hbooked : Booked j) (code : ErrorCode) (detail : UInt8)
    (severity : ErrorSeverity) (now_ms : UInt32) :
    Booked (j.note code detail severity now_ms).1 := by
  unfold ErrorJournal.note
  by_cases hcode : code = .none
  · rw [if_pos hcode]
    exact hbooked
  rw [if_neg hcode]
  cases hfind : j.find code detail with
  | none =>
    by_cases hroom : j.count < kMaxErrorEntries
    · simp only [hroom, dif_pos]
      have hgrown : Booked { j with count := j.count + 1 } :=
        ⟨hroom, fun i hi => Nat.lt_succ_of_lt (hbooked.flags i hi), hbooked.tally⟩
      exact record_booked hgrown (Nat.lt_succ_self _) _ _ _ _
    · simp only [hroom, dif_neg, not_false_eq_true]
      cases hrecycle : j.recycleSlot severity now_ms with
      | none => exact ⟨hbooked.capacity, hbooked.flags, hbooked.tally⟩
      | some slot =>
        have hused : slot.val < (j.dropPending slot).count :=
          (dropPending_entries j slot).2 ▸ (recycled_used hrecycle).1
        exact record_booked (dropPending_booked hbooked slot) hused _ _ _ _
  | some slot =>
    have hused := (holds_of_find hfind).used
    simp only
    split_ifs <;> exact record_booked hbooked hused _ _ _ _

/-- As long as the count is right, something pending is found. -/
theorem bestPending_of_booked (hbooked : Booked j) (hcount : j.pending_count ≠ 0) :
    j.bestPending ≠ none := by
  intro hnone
  rw [hbooked.tally] at hcount
  obtain ⟨i, hi⟩ := Finset.card_ne_zero.mp hcount
  rw [mem_flagged] at hi
  have hno := (pick_eq_none_iff takenFirst_iff).mp hnone i (mem_indices.mpr (hbooked.flags i hi))
  rw [hi] at hno
  cases hno

theorem take_booked (hbooked : Booked j) : Booked j.takePending.1 := by
  unfold ErrorJournal.takePending
  by_cases hzero : j.pending_count = 0
  · rw [if_pos hzero]
    exact hbooked
  rw [if_neg hzero]
  cases hbest : j.bestPending with
  | none => exact absurd hbest (bestPending_of_booked hbooked hzero)
  | some best =>
    obtain ⟨-, hpending⟩ := pick_mem takenFirst_iff hbest
    refine ⟨hbooked.capacity, fun i hi => hbooked.flags i ?_, ?_⟩
    · by_cases heq : best = i
      · exact heq ▸ hpending
      · exact (get_set_ne _ (fun h => heq h.symm) _).symm.trans hi
    · refine Eq.trans ?_ (card_flagged_clear hpending).symm
      rw [← hbooked.tally]

theorem booked_of_run {h : List JournalEvent} (run : JournalRun h j) : Booked j := by
  refine run.invariant Booked ?_ ?_
  · refine ⟨Nat.zero_le _, fun i hi => ?_, by decide⟩
    have hclear : (Vector.replicate kMaxErrorEntries false).get i = false := by
      simp [Vector.get]
    cases hclear.symm.trans hi
  · rintro s ⟨call, answer⟩ r hbooked hstep
    cases call with
    | note code detail severity now_ms =>
      cases hstep
      exact note_booked hbooked code detail severity now_ms
    | takePending =>
      cases hstep
      exact take_booked hbooked

theorem record_suppressed (j : ErrorJournal) (slot : Fin kMaxErrorEntries) (entry : ErrorEntry)
    (severity : ErrorSeverity) (now_ms : UInt32) (announce : Bool) :
    (j.record slot entry severity now_ms announce).1.suppressed =
      if announce then j.suppressed else j.suppressed + 1 := by
  cases announce <;> rfl

theorem dropPending_suppressed (j : ErrorJournal) (slot : Fin kMaxErrorEntries) :
    (j.dropPending slot).suppressed = j.suppressed := by
  unfold ErrorJournal.dropPending
  split_ifs <;> rfl

theorem note_suppressed (j : ErrorJournal) (hcode : code ≠ .none) (detail : UInt8)
    (severity : ErrorSeverity) (now_ms : UInt32) :
    (j.note code detail severity now_ms).1.suppressed =
      if (j.note code detail severity now_ms).2 then j.suppressed else j.suppressed + 1 := by
  unfold ErrorJournal.note
  rw [if_neg hcode]
  cases j.find code detail with
  | none =>
    by_cases hroom : j.count < kMaxErrorEntries
    · simp only [hroom, dif_pos, record_announced, record_suppressed]
    · simp only [hroom, dif_neg, not_false_eq_true]
      cases j.recycleSlot severity now_ms with
      | none => rfl
      | some slot => simp only [record_announced, record_suppressed, dropPending_suppressed]
  | some slot =>
    by_cases hquiet : elapsed now_ms (j.entries.get slot).last_ms ≥ kClearAfterMs
    · simp only [if_pos hquiet, record_announced, record_suppressed]
    · by_cases hrepeat : elapsed now_ms (j.entries.get slot).first_ms ≥ kRepeatIntervalMs ∧
          !j.pending.get slot
      · simp only [if_neg hquiet, if_pos hrepeat, record_announced, record_suppressed]
      · simp only [if_neg hquiet, if_neg hrepeat, record_announced, record_suppressed]

/-- What a note leaves in the entry of its error: the time of the note, and as the start of the incident
its time or the one before. An error that is in the table is announced only when it was quiet long enough
or announced long enough ago. -/
structure Stamped (j t : ErrorJournal) (slot : Fin kMaxErrorEntries) (code : ErrorCode)
    (detail : UInt8) (now_ms : UInt32) (announced : Bool) : Prop where
  last : (t.entries.get slot).last_ms = now_ms
  first : (t.entries.get slot).first_ms =
    if announced then now_ms else (j.entries.get slot).first_ms
  held : announced = false → Holds j code detail slot
  due : announced = true → ∀ i, Holds j code detail i → i = slot ∧
    (kClearAfterMs ≤ elapsed now_ms (j.entries.get slot).last_ms ∨
      kRepeatIntervalMs ≤ elapsed now_ms (j.entries.get slot).first_ms)

theorem record_times (j : ErrorJournal) (slot : Fin kMaxErrorEntries) (entry : ErrorEntry)
    (severity : ErrorSeverity) (now_ms : UInt32) (announce : Bool) :
    ((j.record slot entry severity now_ms announce).1.entries.get slot).last_ms = now_ms ∧
      ((j.record slot entry severity now_ms announce).1.entries.get slot).first_ms =
        entry.first_ms := by
  cases announce <;>
    exact ⟨(congrArg ErrorEntry.last_ms (get_set_self _ _ _)).trans rfl,
      (congrArg ErrorEntry.first_ms (get_set_self _ _ _)).trans rfl⟩

theorem stamped_fresh (hnew : ∀ i, ¬ Holds j code detail i) (t : ErrorJournal)
    (slot : Fin kMaxErrorEntries) (severity : ErrorSeverity) (now_ms : UInt32) :
    Stamped j (t.record slot (ErrorJournal.freshEntry code detail now_ms) severity now_ms true).1 slot
      code detail now_ms true := by
  obtain ⟨hlast, hfirst⟩ :=
    record_times t slot (ErrorJournal.freshEntry code detail now_ms) severity now_ms true
  exact ⟨hlast, hfirst, nofun, fun _ i hi => absurd hi (hnew i)⟩

theorem note_stamped (hcode : code ≠ .none)
    (hholds : Holds (j.note code detail severity now_ms).1 code detail slot)
    (hdistinct : DistinctErrors j) :
    Stamped j (j.note code detail severity now_ms).1 slot code detail now_ms
      (j.note code detail severity now_ms).2 := by
  have hdistinct' := (noteMove_of_note j code detail severity now_ms).distinct hdistinct
  revert hholds hdistinct'
  unfold ErrorJournal.note
  rw [if_neg hcode]
  cases hfind : j.find code detail with
  | none =>
    have hnew := not_holds_of_find hfind
    by_cases hroom : j.count < kMaxErrorEntries
    · simp only [hroom, dif_pos, record_announced]
      intro hholds hdistinct'
      have hwritten := added_written hroom code detail severity now_ms
      obtain rfl := hdistinct' _ _ _ _ hwritten.holds hholds
      exact stamped_fresh hnew _ _ severity now_ms
    · simp only [hroom, dif_neg, not_false_eq_true]
      cases hrecycle : j.recycleSlot severity now_ms with
      | none =>
        intro hholds _
        have hbefore : Holds j code detail slot := ⟨hholds.used, hholds.code, hholds.detail⟩
        exact absurd hbefore (hnew slot)
      | some i =>
        simp only [record_announced]
        intro hholds hdistinct'
        have hwritten := recycled_written (recycled_used hrecycle).1 code detail severity now_ms
        obtain rfl := hdistinct' _ _ _ _ hwritten.holds hholds
        exact stamped_fresh hnew _ _ severity now_ms
  | some i =>
    have hheld := holds_of_find hfind
    -- whichever way the entry is written, it stays the entry of its error
    have hslot : ∀ entry : ErrorEntry, entry.code = code → entry.detail = detail → ∀ announce,
        Holds (j.record i entry severity now_ms announce).1 code detail slot →
        DistinctErrors (j.record i entry severity now_ms announce).1 → i = slot := by
      rintro entry rfl rfl announce hholds hdistinct'
      exact hdistinct' _ _ _ _ (record_written j hheld.used entry severity now_ms announce).holds hholds
    by_cases hquiet : elapsed now_ms (j.entries.get i).last_ms ≥ kClearAfterMs
    · simp only [if_pos hquiet, record_announced]
      intro hholds hdistinct'
      obtain rfl := hslot { j.entries.get i with count := 0, first_ms := now_ms } hheld.code
        hheld.detail true hholds hdistinct'
      obtain ⟨hlast, hfirst⟩ := record_times j i
        { j.entries.get i with count := 0, first_ms := now_ms } severity now_ms true
      exact ⟨hlast, hfirst, nofun, fun _ k hk => ⟨hdistinct _ _ _ _ hk hheld, .inl hquiet⟩⟩
    · by_cases hrepeat : elapsed now_ms (j.entries.get i).first_ms ≥ kRepeatIntervalMs ∧
          !j.pending.get i
      · simp only [if_neg hquiet, if_pos hrepeat, record_announced]
        intro hholds hdistinct'
        obtain rfl := hslot { j.entries.get i with first_ms := now_ms } hheld.code hheld.detail true
          hholds hdistinct'
        obtain ⟨hlast, hfirst⟩ := record_times j i { j.entries.get i with first_ms := now_ms }
          severity now_ms true
        exact ⟨hlast, hfirst, nofun, fun _ k hk => ⟨hdistinct _ _ _ _ hk hheld, .inr hrepeat.1⟩⟩
      · simp only [if_neg hquiet, if_neg hrepeat, record_announced]
        intro hholds hdistinct'
        obtain rfl := hslot (j.entries.get i) hheld.code hheld.detail false hholds hdistinct'
        obtain ⟨hlast, hfirst⟩ := record_times j i (j.entries.get i) severity now_ms false
        exact ⟨hlast, hfirst, fun _ => hheld, nofun⟩

theorem NoteMove.entry_other (hmove : NoteMove j c d sev now_ms t announced)
    (hother : ¬ (c = code ∧ d = detail)) (hholds : Holds t code detail slot) :
    Holds j code detail slot ∧ t.entries.get slot = j.entries.get slot := by
  have hwrites : ∀ {i} {b : Bool}, Written j t i c d sev b →
      Holds j code detail slot ∧ t.entries.get slot = j.entries.get slot := by
    intro i b hwritten
    have hne : slot ≠ i := by
      rintro rfl
      exact hother (hholds.same hwritten.holds)
    exact ⟨(hwritten.holds_other hne).mp hholds, (hwritten.others slot hne).2.1⟩
  cases hmove with
  | ignored => exact ⟨hholds, rfl⟩
  | added _ _ hwritten => exact hwrites hwritten
  | dropped _ hsame => exact ⟨(Holds.of_same hsame).mp hholds, by rw [hsame.1]⟩
  | recycled _ _ _ _ hwritten => exact hwrites hwritten
  | repeated _ hwritten => exact hwrites hwritten

def observedEvent (e : ClockedEvent) : JournalEvent :=
  ⟨e.pre, (e.label.1.observed, e.label.2), e.post⟩

theorem ClockedRun.observed (run : ClockedRun h j) : JournalRun (h.map observedEvent) j := by
  induction run with
  | nil => exact .nil
  | step _ hstep ih => exact ih.step hstep

theorem timed_note (hstep : WithOutput ErrorJournal.timedStep e.pre e.label e.post)
    (hcall : e.label.1 = .note code detail severity now) :
    e.post = (e.pre.note code detail severity (UInt32.ofNat now)).1 ∧
      e.label.2 = .note (e.pre.note code detail severity (UInt32.ofNat now)).2 := by
  have hresult := hstep
  unfold WithOutput at hresult
  rw [hcall] at hresult
  exact ⟨(congrArg Prod.fst hresult).symm, (congrArg Prod.snd hresult).symm⟩

theorem timed_take (hstep : WithOutput ErrorJournal.timedStep e.pre e.label e.post)
    (hcall : e.label.1 = .takePending) :
    e.post = e.pre.takePending.1 ∧ e.label.2 = .takePending e.pre.takePending.2 := by
  have hresult := hstep
  unfold WithOutput at hresult
  rw [hcall] at hresult
  exact ⟨(congrArg Prod.fst hresult).symm, (congrArg Prod.snd hresult).symm⟩

theorem notedAt_eq_some (hnoted : notedAt code detail e = some now) :
    ∃ severity, e.label.1 = .note code detail severity now := by
  unfold notedAt at hnoted
  cases hcall : e.label.1 with
  | note c d sev t =>
    rw [hcall] at hnoted
    simp only [Option.ite_none_right_eq_some, Option.some.injEq] at hnoted
    obtain ⟨⟨rfl, rfl⟩, rfl⟩ := hnoted
    exact ⟨sev, rfl⟩
  | takePending =>
    rw [hcall] at hnoted
    cases hnoted

theorem notedAt_of_call (hcall : e.label.1 = .note code detail severity now) :
    notedAt code detail e = some now := by
  unfold notedAt
  rw [hcall]
  exact if_pos ⟨rfl, rfl⟩

theorem announcedAt_eq_some (hann : announcedAt code detail e = some now) :
    e.label.2 = .note true ∧ notedAt code detail e = some now := by
  unfold announcedAt at hann
  rw [Option.ite_none_right_eq_some] at hann
  exact hann

theorem code_of_announced (hstep : WithOutput ErrorJournal.timedStep e.pre e.label e.post)
    (hann : announcedAt code detail e = some now) : code ≠ .none := by
  rintro rfl
  obtain ⟨hanswer, hnoted⟩ := announcedAt_eq_some hann
  obtain ⟨severity, hcall⟩ := notedAt_eq_some hnoted
  have hnote := (timed_note hstep hcall).2.symm.trans hanswer
  cases hnote

/-- The error is in the table and was announced at `start` or later, and not after its latest note. -/
def AnnouncedSince (code : ErrorCode) (detail : UInt8) (start : Nat) (h : List ClockedEvent)
    (j : ErrorJournal) : Prop :=
  ∃ slot first last, Holds j code detail slot ∧
    (j.entries.get slot).first_ms = UInt32.ofNat first ∧
    (j.entries.get slot).last_ms = UInt32.ofNat last ∧
    start ≤ first ∧ first ≤ last ∧ last ∈ noteTimes code detail h

theorem noteTimes_cons_of_noted (hnoted : notedAt code detail e = some now) :
    noteTimes code detail (e :: h) = now :: noteTimes code detail h :=
  List.filterMap_cons_some hnoted

theorem mem_noteTimes_cons {u : Nat} (hu : u ∈ noteTimes code detail h) :
    u ∈ noteTimes code detail (e :: h) := by
  obtain ⟨x, hx, hnoted⟩ := List.mem_filterMap.mp hu
  exact List.mem_filterMap.mpr ⟨x, List.mem_cons_of_mem _ hx, hnoted⟩

/-- An announced error has an entry, which the note has stamped. -/
theorem stamped_of_announced (hstep : WithOutput ErrorJournal.timedStep e.pre e.label e.post)
    (hdistinct : DistinctErrors e.pre) (hann : announcedAt code detail e = some now) :
    ∃ slot, Holds e.post code detail slot ∧
      Stamped e.pre e.post slot code detail (UInt32.ofNat now) true := by
  obtain ⟨hanswer, hnoted⟩ := announcedAt_eq_some hann
  obtain ⟨severity, hcall⟩ := notedAt_eq_some hnoted
  obtain ⟨hpost, hout⟩ := timed_note hstep hcall
  have htrue : (e.pre.note code detail severity (UInt32.ofNat now)).2 = true :=
    JournalAnswer.note.inj (hout.symm.trans hanswer)
  have hmove := noteMove_of_note e.pre code detail severity (UInt32.ofNat now)
  rw [← hpost, htrue] at hmove
  obtain ⟨slot, hholds, -⟩ := unsent_of_announced hmove
  have hstamped := note_stamped (code_of_announced hstep hann) (hpost ▸ hholds) hdistinct
  rw [← hpost, htrue] at hstamped
  exact ⟨slot, hholds, hstamped⟩

theorem announcedSince_first (hstep : WithOutput ErrorJournal.timedStep e.pre e.label e.post)
    (hdistinct : DistinctErrors e.pre) (hann : announcedAt code detail e = some start) :
    AnnouncedSince code detail start (e :: h) e.post := by
  obtain ⟨slot, hholds, hstamped⟩ := stamped_of_announced hstep hdistinct hann
  refine ⟨slot, start, start, hholds, hstamped.first, hstamped.last, le_refl _, le_refl _, ?_⟩
  rw [noteTimes_cons_of_noted (announcedAt_eq_some hann).2]
  exact List.mem_cons_self ..

theorem announcedSince_step (hstep : WithOutput ErrorJournal.timedStep e.pre e.label e.post)
    (hdistinct : DistinctErrors e.pre) (hcode : code ≠ .none)
    (hsince : AnnouncedSince code detail start h e.pre)
    (hheld : ∃ i, Holds e.post code detail i)
    (hclock : ∀ t, notedAt code detail e = some t → ∀ u ∈ noteTimes code detail h, u ≤ t) :
    AnnouncedSince code detail start (e :: h) e.post := by
  obtain ⟨slot, first, last, hholds, hfirst, hlast, hstart, hle, hmem⟩ := hsince
  obtain ⟨i, hi⟩ := hheld
  cases hcall : e.label.1 with
  | note c d severity t =>
    obtain ⟨hpost, -⟩ := timed_note hstep hcall
    by_cases hsame : c = code ∧ d = detail
    · obtain ⟨rfl, rfl⟩ := hsame
      have hnoted := notedAt_of_call hcall
      have hlate := hclock t hnoted last hmem
      have hstamped := note_stamped hcode (hpost ▸ hi) hdistinct
      have hmem' : t ∈ noteTimes c d (e :: h) := by
        rw [noteTimes_cons_of_noted hnoted]
        exact List.mem_cons_self ..
      have hnow := hstamped.first
      cases hann : (e.pre.note c d severity (UInt32.ofNat t)).2 with
      | true =>
        rw [hann, if_pos rfl] at hnow
        exact ⟨i, t, t, hi, hpost ▸ hnow, hpost ▸ hstamped.last, by omega, le_refl _, hmem'⟩
      | false =>
        obtain rfl := hdistinct _ _ _ _ (hstamped.held hann) hholds
        rw [hann, if_neg Bool.false_ne_true, hfirst] at hnow
        exact ⟨i, first, t, hi, hpost ▸ hnow, hpost ▸ hstamped.last, hstart, by omega, hmem'⟩
    · have hmove := noteMove_of_note e.pre c d severity (UInt32.ofNat t)
      rw [← hpost] at hmove
      obtain ⟨hbefore, hentry⟩ := hmove.entry_other hsame hi
      obtain rfl := hdistinct _ _ _ _ hbefore hholds
      exact ⟨i, first, last, hi, hentry ▸ hfirst, hentry ▸ hlast, hstart, hle, mem_noteTimes_cons hmem⟩
  | takePending =>
    obtain ⟨hpost, -⟩ := timed_take hstep hcall
    obtain ⟨hentries, hcount⟩ := (takeMove_of_take e.pre).entries_same
    rw [← hpost] at hentries hcount
    have hbefore : Holds e.pre code detail i :=
      ⟨hcount ▸ hi.used, hentries ▸ hi.code, hentries ▸ hi.detail⟩
    obtain rfl := hdistinct _ _ _ _ hbefore hholds
    rw [← hentries] at hfirst hlast
    exact ⟨i, first, last, hi, hfirst, hlast, hstart, hle, mem_noteTimes_cons hmem⟩

theorem announced_spaced (hstep : WithOutput ErrorJournal.timedStep e.pre e.label e.post)
    (hdistinct : DistinctErrors e.pre) (hsince : AnnouncedSince code detail start h e.pre)
    (hann : announcedAt code detail e = some now)
    (hclock : ∀ u ∈ noteTimes code detail h, u ≤ now) : start + 5000 ≤ now := by
  obtain ⟨slot, first, last, hholds, hfirst, hlast, hstart, hle, hmem⟩ := hsince
  obtain ⟨i, hi, hstamped⟩ := stamped_of_announced hstep hdistinct hann
  obtain ⟨rfl, hdue⟩ := hstamped.due rfl slot hholds
  have hlate := hclock last hmem
  rcases hdue with hquiet | hrepeat
  · rw [hlast] at hquiet
    have hgap := le_of_elapsed hlate hquiet
    have hclear : kClearAfterMs.toNat = 15000 := rfl
    omega
  · rw [hfirst] at hrepeat
    have hgap := le_of_elapsed (hle.trans hlate) hrepeat
    have hinterval : kRepeatIntervalMs.toNat = 5000 := rfl
    omega

/-- The true times of the notes of an error do not go back. -/
def OnClock (code : ErrorCode) (detail : UInt8) (h : List ClockedEvent) : Prop :=
  (noteTimes code detail h).Pairwise (· ≥ ·)

theorem OnClock.of_append {later : List ClockedEvent} (hclock : OnClock code detail (later ++ h)) :
    OnClock code detail h := by
  unfold OnClock noteTimes at hclock
  rw [List.filterMap_append] at hclock
  exact (List.pairwise_append.mp hclock).2.1

theorem OnClock.latest (hclock : OnClock code detail (e :: h))
    (hnoted : notedAt code detail e = some now) : ∀ u ∈ noteTimes code detail h, u ≤ now := by
  unfold OnClock at hclock
  rw [noteTimes_cons_of_noted hnoted] at hclock
  exact (List.pairwise_cons.mp hclock).1

theorem announcements_spaced {later between earlier : List ClockedEvent} {a b : ClockedEvent}
    (run : ClockedRun (later ++ b :: (between ++ a :: earlier)) j)
    (hclock : OnClock code detail (later ++ b :: (between ++ a :: earlier)))
    (ha : announcedAt code detail a = some start) (hb : announcedAt code detail b = some now)
    (hheld : ∀ e ∈ between, ∃ i, Holds e.post code detail i) : start + 5000 ≤ now := by
  obtain ⟨m, run⟩ := run.of_append
  obtain ⟨-, hstep, hbefore⟩ := run.of_cons
  have hclock := hclock.of_append
  have hlonger : OnClock code detail ([b] ++ (between ++ a :: earlier)) := hclock
  have hclock' := hlonger.of_append
  have hdistinct : ∀ {h j}, ClockedRun h j → DistinctErrors j := fun run =>
    distinctErrors_of_run run.observed
  have hcode := code_of_announced hstep hb
  have hsince : AnnouncedSince code detail start (between ++ a :: earlier) b.pre := by
    refine (hbefore.resume (P := fun e h => (∃ i, Holds e.post code detail i) ∧
      OnClock code detail (e :: h)) (Q := fun _ => True) (AnnouncedSince code detail start)
      ?_ ?_ ?_).1
    · intro m hfirst
      obtain ⟨hpost, hstep, hpre⟩ := hfirst.of_cons
      rw [← hpost]
      exact announcedSince_first hstep (hdistinct hpre) ha
    · rintro h e hpre hstep hsince ⟨hkept, hticks⟩
      exact ⟨announcedSince_step hstep (hdistinct hpre) hcode hsince hkept
        fun t hnoted => hticks.latest hnoted, trivial⟩
    · rintro later' e earlier' rfl
      refine ⟨hheld e (List.mem_append_right _ (List.mem_cons_self ..)), ?_⟩
      rw [List.append_assoc] at hclock'
      exact hclock'.of_append
  exact announced_spaced hstep (hdistinct hbefore) hsince hb
    (hclock.latest (announcedAt_eq_some hb).2)

/-- What the journal's books say about its entries. -/
structure BooksKept (h : List ClockedEvent) (j : ErrorJournal) : Prop where
  distinct : ∀ i k : Fin kMaxErrorEntries, i.val < j.count → k.val < j.count → i ≠ k →
    ((j.entries.get i).code, (j.entries.get i).detail) ≠
      ((j.entries.get k).code, (j.entries.get k).detail)
  capacity : j.count ≤ kMaxErrorEntries
  tally : j.pending_count =
    (Finset.univ.filter fun i : Fin kMaxErrorEntries => i.val < j.count ∧ j.pending.get i).card
  found : j.pending_count ≠ 0 → j.bestPending ≠ none
  answered : ∀ code detail severity now_ms, code ≠ .none →
    (j.note code detail severity now_ms).2 = true ∧
        (j.note code detail severity now_ms).1.suppressed = j.suppressed ∨
      (j.note code detail severity now_ms).2 = false ∧
        (j.note code detail severity now_ms).1.suppressed = j.suppressed + 1
  spaced : ∀ code detail later b between a earlier start now,
    h = later ++ b :: (between ++ a :: earlier) → OnClock code detail h →
    announcedAt code detail a = some start → announcedAt code detail b = some now →
    (∀ e ∈ between, ∃ i, Holds e.post code detail i) → start + 5000 ≤ now

/-- The books are kept in every run. -/
theorem journal_bookkeeping {h : List ClockedEvent} {j : ErrorJournal} (run : ClockedRun h j) :
    BooksKept h j := by
  have hdistinct := distinctErrors_of_run run.observed
  have hbooked := booked_of_run run.observed
  refine ⟨?_, hbooked.capacity, ?_, bestPending_of_booked hbooked, ?_, ?_⟩
  · intro i k hi hk hne heq
    obtain ⟨hcode, hdetail⟩ := Prod.mk.inj heq
    exact hne (hdistinct _ _ _ _ ⟨hi, hcode, hdetail⟩ ⟨hk, rfl, rfl⟩)
  · have hsame : (Finset.univ.filter fun i : Fin kMaxErrorEntries =>
        i.val < j.count ∧ j.pending.get i) = flagged j.pending :=
      Finset.filter_congr fun i _ => and_iff_right_of_imp (hbooked.flags i)
    rw [hsame]
    exact hbooked.tally
  · intro code detail severity now_ms hcode
    have hsuppressed := note_suppressed j hcode detail severity now_ms
    cases hout : (j.note code detail severity now_ms).2 with
    | true =>
      rw [hout, if_pos rfl] at hsuppressed
      exact .inl ⟨rfl, hsuppressed⟩
    | false =>
      rw [hout, if_neg Bool.false_ne_true] at hsuppressed
      exact .inr ⟨rfl, hsuppressed⟩
  · rintro code detail later b between a earlier start now rfl hclock ha hb hheld
    exact announcements_spaced run hclock ha hb hheld

/-- A stalled watchdog is noted and sent just before the 32-bit time wraps, and noted again once it has. -/
def stalledCalls : List ClockedCall :=
  [.note .watchdogStall 0 .critical 4294967290, .takePending,
    .note .watchdogStall 0 .critical 4294972290]

theorem journal_bookkeeping_stalled :
    BooksKept (record ErrorJournal.timedStep {} [] stalledCalls).2
      (record ErrorJournal.timedStep {} [] stalledCalls).1 :=
  journal_bookkeeping (run_record _ stalledCalls .nil)

end HexapodVerified.Safety
