import HexapodVerified.Safety.Proofs.BookkeepingProofs
import HexapodVerified.Safety.Proofs.UnsentProofs

/-!
# The order in which pending errors are handed out

`takePending` hands out the most severe pending entry and, of these, the oldest. It compares the stored
starts of the incidents as numbers, where the rest of the journal subtracts them from the time: entries on
the two sides of a wrap of the 32-bit time are taken for each other.
-/

namespace HexapodVerified.Safety

open Transition Tables PastTime

variable {j t : ErrorJournal} {i k slot : Fin kMaxErrorEntries} {code c : ErrorCode}
  {detail d : UInt8} {sev : ErrorSeverity} {now_ms : UInt32} {announced : Bool}
  {h : List ClockedEvent} {e : ClockedEvent} {now : Nat} {out : ErrorEntry}

def Pending (j : ErrorJournal) (i : Fin kMaxErrorEntries) : Prop :=
  i.val < j.count ∧ j.pending.get i = true

theorem not_takenFirst_iff : j.takenFirst i slot = false ↔
    (j.entries.get i).severity ≤ (j.entries.get slot).severity ∧
      ((j.entries.get i).severity = (j.entries.get slot).severity →
        (j.entries.get slot).first_ms ≤ (j.entries.get i).first_ms) := by
  unfold ErrorJournal.takenFirst
  by_cases hgt : (j.entries.get i).severity > (j.entries.get slot).severity
  · simp only [hgt, if_true]
    exact iff_of_false nofun fun hle => absurd hgt (Nat.not_lt.mpr hle.1)
  · simp only [hgt, if_false, decide_eq_false_iff_not, not_and]
    have hle : (j.entries.get i).severity ≤ (j.entries.get slot).severity := Nat.not_lt.mp hgt
    constructor
    · intro hnot
      exact ⟨hle, fun heq => UInt32.not_lt.mp (hnot heq)⟩
    · rintro ⟨-, hfirst⟩ heq
      exact UInt32.not_lt.mpr (hfirst heq)

theorem take_of_pending (hbooked : Booked j) (hpending : Pending j i) :
    ∃ slot, Pending j slot ∧ (∀ k, Pending j k → j.takenFirst k slot = false) ∧
      j.takePending.2 = some (j.entries.get slot) ∧
      j.takePending.1.entries = j.entries ∧ j.takePending.1.count = j.count ∧
      j.takePending.1.pending = j.pending.setIfInBounds slot.val false := by
  have hcount : j.pending_count ≠ 0 := by
    rw [hbooked.tally]
    exact Finset.card_ne_zero.mpr ⟨i, mem_flagged.mpr hpending.2⟩
  unfold ErrorJournal.takePending
  rw [if_neg hcount]
  cases hbest : j.bestPending with
  | none => exact absurd hbest (bestPending_of_booked hbooked hcount)
  | some slot =>
    obtain ⟨hmem, hflag⟩ := pick_mem takenFirst_iff hbest
    refine ⟨slot, ⟨mem_indices.mp hmem, hflag⟩, fun k hk => ?_, rfl, rfl, rfl, rfl⟩
    refine Bool.eq_false_iff.mpr fun hbetter => ?_
    exact pick_first takenFirst_iff (indices_sorted j) hbest (mem_indices.mpr hk.1) hk.2 (.inl hbetter)

/-- What `takePending` does when nothing is pending. -/
theorem take_of_none (hbooked : Booked j) (hnone : ∀ i, ¬ Pending j i) :
    j.takePending = (j, none) := by
  have hcount : j.pending_count = 0 := by
    rw [hbooked.tally, Finset.card_eq_zero, Finset.eq_empty_iff_forall_notMem]
    intro i hi
    rw [mem_flagged] at hi
    exact hnone i ⟨hbooked.flags i hi, hi⟩
  unfold ErrorJournal.takePending
  rw [if_pos hcount]

theorem unsent_after_taken (hdistinct : DistinctErrors j) (hslot : slot.val < j.count)
    (hentries : t.entries = j.entries) (hcount : t.count = j.count)
    (hpending : t.pending = j.pending.setIfInBounds slot.val false) :
    Unsent t code detail ↔ Unsent j code detail ∧
      ¬ ((j.entries.get slot).code = code ∧ (j.entries.get slot).detail = detail) := by
  have hholds : ∀ i, Holds t code detail i ↔ Holds j code detail i := by
    intro i
    constructor
    · rintro ⟨hused, hcode, hdetail⟩
      exact ⟨hcount ▸ hused, hentries ▸ hcode, hentries ▸ hdetail⟩
    · rintro ⟨hused, hcode, hdetail⟩
      exact ⟨hcount ▸ hused, hentries ▸ hcode, hentries ▸ hdetail⟩
  constructor
  · rintro ⟨i, hi, hflag⟩
    rw [hpending] at hflag
    have hne : i ≠ slot := by
      rintro rfl
      rw [get_set_self] at hflag
      cases hflag
    rw [get_set_ne _ hne] at hflag
    refine ⟨⟨i, (hholds i).mp hi, hflag⟩, ?_⟩
    rintro ⟨hcode, hdetail⟩
    exact hne (hdistinct _ _ _ _ ((hholds i).mp hi) ⟨hslot, hcode, hdetail⟩)
  · rintro ⟨⟨i, hi, hflag⟩, hnot⟩
    have hne : i ≠ slot := by
      rintro rfl
      exact hnot ⟨hi.code, hi.detail⟩
    exact ⟨i, (hholds i).mpr hi, by rw [hpending, get_set_ne _ hne]; exact hflag⟩

def errorKey (entry : ErrorEntry) : ErrorCode × UInt8 := (entry.code, entry.detail)

theorem unsent_pending (hunsent : Unsent j code detail) : ∃ i, Pending j i := by
  obtain ⟨i, hi, hflag⟩ := hunsent
  exact ⟨i, hi.used, hflag⟩

theorem drain_once (n : Nat) (hbooked : Booked j) (hdistinct : DistinctErrors j)
    (hn : (flagged j.pending).card ≤ n) : ((j.drain n).map errorKey).Nodup ∧
      ∀ code detail, (code, detail) ∈ (j.drain n).map errorKey ↔ Unsent j code detail := by
  induction n generalizing j with
  | zero =>
    refine ⟨List.nodup_nil, fun code detail => iff_of_false List.not_mem_nil fun hunsent => ?_⟩
    obtain ⟨i, -, hflag⟩ := unsent_pending hunsent
    have hmem : i ∈ flagged j.pending := mem_flagged.mpr hflag
    rw [Finset.card_eq_zero.mp (Nat.le_zero.mp hn)] at hmem
    exact absurd hmem (Finset.notMem_empty i)
  | succ n ih =>
    by_cases hsome : ∃ i, Pending j i
    · obtain ⟨i, hi⟩ := hsome
      obtain ⟨slot, ⟨hused, hflag⟩, -, hout, hentries, hcount, hpending⟩ :=
        take_of_pending hbooked hi
      have hleft : (flagged j.takePending.1.pending).card ≤ n := by
        rw [hpending, card_flagged_clear hflag]
        omega
      obtain ⟨hnodup, hmem⟩ := ih (take_booked hbooked)
        ((takeMove_of_take j).distinct hdistinct) hleft
      have hdrain : j.drain (n + 1) = j.entries.get slot :: j.takePending.1.drain n := by
        rw [ErrorJournal.drain, ← Prod.mk.eta (p := j.takePending), hout]
      have hunsent : ∀ code detail, Unsent j.takePending.1 code detail ↔ Unsent j code detail ∧
          ¬ ((j.entries.get slot).code = code ∧ (j.entries.get slot).detail = detail) :=
        fun code detail => unsent_after_taken hdistinct hused hentries hcount hpending
      rw [hdrain, List.map_cons]
      refine ⟨List.nodup_cons.mpr ⟨fun hin => ?_, hnodup⟩, fun code detail => ?_⟩
      · exact ((hunsent _ _).mp ((hmem _ _).mp hin)).2 ⟨rfl, rfl⟩
      · rw [List.mem_cons, hmem, hunsent]
        constructor
        · rintro (heq | ⟨hleft, -⟩)
          · obtain ⟨rfl, rfl⟩ := Prod.mk.inj heq
            exact ⟨slot, ⟨hused, rfl, rfl⟩, hflag⟩
          · exact hleft
        · intro hkey
          by_cases heq : (j.entries.get slot).code = code ∧ (j.entries.get slot).detail = detail
          · exact .inl (Prod.ext heq.1.symm heq.2.symm)
          · exact .inr ⟨hkey, heq⟩
    · have hnone : ∀ i, ¬ Pending j i := fun i hi => hsome ⟨i, hi⟩
      have hdrain : j.drain (n + 1) = [] := by
        rw [ErrorJournal.drain, take_of_none hbooked hnone]
      rw [hdrain]
      exact ⟨List.nodup_nil, fun code detail =>
        iff_of_false List.not_mem_nil fun hunsent => hsome (unsent_pending hunsent)⟩

def Recycled (code : ErrorCode) (detail : UInt8) (e : ClockedEvent) : Prop :=
  (∃ i, Holds e.pre code detail i) ∧ ¬ ∃ i, Holds e.post code detail i

/-- The error was announced, and since then neither handed out nor recycled. -/
def ToBeSent (code : ErrorCode) (detail : UInt8) : List ClockedEvent → Prop :=
  Since (fun e => ¬ Takes code detail (observedEvent e) ∧ ¬ Recycled code detail e)
    fun e => ∃ t, announcedAt code detail e = some t

theorem Unsent.held (hunsent : Unsent j code detail) : ∃ i, Holds j code detail i := by
  obtain ⟨i, hi, -⟩ := hunsent
  exact ⟨i, hi⟩

/-- Another error's note leaves an error unsent as long as it leaves it in the table. -/
theorem unsent_note_other (hdistinct : DistinctErrors j)
    (hmove : NoteMove j c d sev now_ms t announced) (hother : ¬ (c = code ∧ d = detail)) :
    Unsent t code detail ↔ (∃ i, Holds t code detail i) ∧ Unsent j code detail := by
  have hwrites : ∀ {i} {b : Bool}, Written j t i c d sev b →
      (Unsent t code detail ↔ (∃ i, Holds t code detail i) ∧ Unsent j code detail) := by
    intro i b hwritten
    have hne : ∀ k, Holds t code detail k → k ≠ i := by
      rintro k hk rfl
      exact hother (hk.same hwritten.holds)
    constructor
    · rintro ⟨k, hk, hflag⟩
      refine ⟨⟨k, hk⟩, k, (hwritten.holds_other (hne k hk)).mp hk, ?_⟩
      exact (hwritten.others k (hne k hk)).2.2.symm.trans hflag
    · rintro ⟨⟨k, hk⟩, m, hm, hflag⟩
      obtain rfl := hdistinct _ _ _ _ ((hwritten.holds_other (hne k hk)).mp hk) hm
      exact ⟨k, hk, (hwritten.others k (hne k hk)).2.2.trans hflag⟩
  cases hmove with
  | ignored => exact (and_iff_right_of_imp Unsent.held).symm
  | added _ _ hwritten => exact hwrites hwritten
  | dropped _ hsame =>
    have hsent : Unsent t code detail ↔ Unsent j code detail := by
      unfold Unsent
      rw [hsame.2.1]
      exact exists_congr fun i => and_congr_left fun _ => Holds.of_same hsame
    rw [hsent]
    refine (and_iff_right_of_imp fun hunsent => ?_).symm
    obtain ⟨i, hi⟩ := hunsent.held
    exact ⟨i, (Holds.of_same hsame).mpr hi⟩
  | recycled _ _ _ _ hwritten => exact hwrites hwritten
  | repeated _ hwritten => exact hwrites hwritten

theorem unsent_note_suppressed (hdistinct : DistinctErrors j)
    (hmove : NoteMove j code detail sev now_ms t false) :
    (Unsent t code detail ↔ Unsent j code detail) ∧
      ((∃ i, Holds j code detail i) → ∃ i, Holds t code detail i) := by
  cases hmove with
  | ignored => exact ⟨Iff.rfl, id⟩
  | dropped hnew hsame =>
    refine ⟨iff_of_false ?_ ?_, fun ⟨i, hi⟩ => absurd hi (hnew i)⟩
    · rintro ⟨i, hi, -⟩
      exact hnew i ((Holds.of_same hsame).mp hi)
    · rintro ⟨i, hi, -⟩
      exact hnew i hi
  | @repeated _ i _ hholds hwritten =>
    have hflag : t.pending.get i = j.pending.get i := hwritten.pending
    refine ⟨⟨?_, ?_⟩, fun _ => ⟨i, hwritten.holds⟩⟩
    · rintro ⟨k, hk, hpending⟩
      by_cases heq : k = i
      · subst heq
        exact ⟨k, hholds, hflag.symm.trans hpending⟩
      · exact ⟨k, (hwritten.holds_other heq).mp hk, (hwritten.others k heq).2.2.symm.trans hpending⟩
    · rintro ⟨k, hk, hpending⟩
      obtain rfl := hdistinct _ _ _ _ hk hholds
      exact ⟨k, hwritten.holds, hflag.trans hpending⟩

theorem unsent_step (hstep : WithOutput ErrorJournal.timedStep e.pre e.label e.post)
    (hbooked : Booked e.pre) (hdistinct : DistinctErrors e.pre) :
    Unsent e.post code detail ↔ (∃ t, announcedAt code detail e = some t) ∨
      (¬ Takes code detail (observedEvent e) ∧ ¬ Recycled code detail e) ∧
        Unsent e.pre code detail := by
  have hrecycled : ¬ Recycled code detail e ∧ Unsent e.pre code detail ↔
      (∃ i, Holds e.post code detail i) ∧ Unsent e.pre code detail := by
    refine and_congr_left fun hunsent => ?_
    unfold Recycled
    rw [not_and, not_not]
    exact forall_prop_of_true hunsent.held
  rw [and_assoc, hrecycled]
  cases hcall : e.label.1 with
  | note c d sev now =>
    obtain ⟨hpost, hanswer⟩ := timed_note hstep hcall
    have hmove := noteMove_of_note e.pre c d sev (UInt32.ofNat now)
    rw [← hpost] at hmove
    have hnot : ¬ Takes code detail (observedEvent e) := by
      rintro ⟨out, hlabel, -⟩
      have hcalls : ClockedCall.observed e.label.1 = .takePending := congrArg Prod.fst hlabel
      rw [hcall] at hcalls
      cases hcalls
    by_cases hsame : c = code ∧ d = detail
    · obtain ⟨rfl, rfl⟩ := hsame
      have hnoted := notedAt_of_call hcall
      cases hout : (e.pre.note c d sev (UInt32.ofNat now)).2 with
      | true =>
        rw [hout] at hmove hanswer
        refine iff_of_true (unsent_of_announced hmove) (.inl ⟨now, ?_⟩)
        unfold announcedAt
        rw [if_pos hanswer]
        exact hnoted
      | false =>
        rw [hout] at hmove hanswer
        have hquiet : ¬ ∃ t, announcedAt c d e = some t := by
          rintro ⟨t, hann⟩
          cases hanswer.symm.trans (announcedAt_eq_some hann).1
        obtain ⟨hunsent, hheld⟩ := unsent_note_suppressed hdistinct hmove
        rw [hunsent, or_iff_right hquiet, and_iff_right hnot]
        exact (and_iff_right_of_imp fun h => hheld h.held).symm
    · have hquiet : ¬ ∃ t, announcedAt code detail e = some t := by
        rintro ⟨t, hann⟩
        obtain ⟨sev', hcall'⟩ := notedAt_eq_some (announcedAt_eq_some hann).2
        cases hcall.symm.trans hcall'
        exact hsame ⟨rfl, rfl⟩
      rw [or_iff_right hquiet, and_iff_right hnot]
      exact unsent_note_other hdistinct hmove hsame
  | takePending =>
    obtain ⟨hpost, hanswer⟩ := timed_take hstep hcall
    have hquiet : ¬ ∃ t, announcedAt code detail e = some t := by
      rintro ⟨t, hann⟩
      obtain ⟨sev', hcall'⟩ := notedAt_eq_some (announcedAt_eq_some hann).2
      cases hcall.symm.trans hcall'
    rw [or_iff_right hquiet]
    obtain ⟨hentries, hcount⟩ := (takeMove_of_take e.pre).entries_same
    have hheld : Unsent e.pre code detail → ∃ i, Holds e.post code detail i := by
      rintro ⟨i, ⟨hused, hcode, hdetail⟩, -⟩
      rw [hpost]
      exact ⟨i, hcount ▸ hused, hentries ▸ hcode, hentries ▸ hdetail⟩
    rw [and_iff_right_of_imp hheld]
    by_cases hsome : ∃ i, Pending e.pre i
    · obtain ⟨i, hi⟩ := hsome
      obtain ⟨slot, ⟨hused, -⟩, -, hout, hentries, hcount, hpending⟩ := take_of_pending hbooked hi
      rw [hpost, unsent_after_taken hdistinct hused hentries hcount hpending, and_comm]
      refine and_congr_left fun _ => not_congr ?_
      constructor
      · rintro hkey
        refine ⟨e.pre.entries.get slot, ?_, hkey⟩
        exact Prod.ext (congrArg ClockedCall.observed hcall) (hanswer.trans (congrArg _ hout))
      · rintro ⟨entry, hlabel, hkey⟩
        have hentry := JournalAnswer.takePending.inj
          ((congrArg Prod.snd hlabel).symm.trans (hanswer.trans (congrArg _ hout)))
        cases hentry
        exact hkey
    · have hno : ∀ i, ¬ Pending e.pre i := fun i hi => hsome ⟨i, hi⟩
      rw [hpost, take_of_none hbooked hno]
      refine (and_iff_right_of_imp fun hunsent => ?_).symm
      exact absurd (unsent_pending hunsent) hsome

/-- The unsent errors are those announced and neither handed out nor recycled since. -/
theorem unsent_iff_toBeSent (run : ClockedRun h j) :
    Unsent j code detail ↔ ToBeSent code detail h := by
  induction run with
  | nil =>
    refine iff_of_false ?_ since_nil
    rintro ⟨i, hi, -⟩
    exact absurd hi.used (Nat.not_lt_zero _)
  | @step h s t io run hstep ih =>
    have hcall : Unsent t code detail ↔ _ := unsent_step (e := ⟨s, io, t⟩) hstep
      (booked_of_run (ClockedRun.observed run)) (distinctErrors_of_run (ClockedRun.observed run))
    rw [hcall, ih]
    exact Iff.rfl

theorem incidentStart_cons_announced (hann : announcedAt code detail e = some now) :
    incidentStart code detail (e :: h) = now := by
  unfold incidentStart
  rw [List.findSome?_cons, hann]
  rfl

theorem incidentStart_cons_of_none (hno : announcedAt code detail e = none) :
    incidentStart code detail (e :: h) = incidentStart code detail h := by
  unfold incidentStart
  rw [List.findSome?_cons, hno]

theorem announcedAt_of_note {b : Bool} (hcall : e.label.1 = .note c d sev now)
    (hanswer : e.label.2 = .note b) :
    announcedAt code detail e = if b ∧ c = code ∧ d = detail then some now else none := by
  unfold announcedAt notedAt
  rw [hcall, hanswer]
  cases b with
  | false => simp
  | true => simp

theorem announcedAt_of_take (hcall : e.label.1 = .takePending) :
    announcedAt code detail e = none := by
  unfold announcedAt notedAt
  rw [hcall, ite_self]

/-- The stored start of an incident is what the clock showed when it started. -/
def Dated (h : List ClockedEvent) (j : ErrorJournal) : Prop :=
  ∀ code detail i, Holds j code detail i →
    (j.entries.get i).first_ms = UInt32.ofNat (incidentStart code detail h)

theorem dated_step (hstep : WithOutput ErrorJournal.timedStep e.pre e.label e.post)
    (hdistinct : DistinctErrors e.pre) (hdated : Dated h e.pre) : Dated (e :: h) e.post := by
  intro code detail slot hholds
  cases hcall : e.label.1 with
  | note c d sev now =>
    obtain ⟨hpost, hanswer⟩ := timed_note hstep hcall
    have hann : announcedAt code detail e = _ := announcedAt_of_note hcall hanswer
    by_cases hsame : c = code ∧ d = detail
    · obtain ⟨rfl, rfl⟩ := hsame
      by_cases hcode : c = .none
      · have hignored : e.pre.note c d sev (UInt32.ofNat now) = (e.pre, false) := if_pos hcode
        rw [hignored] at hpost hann
        have hsame : e.post = e.pre := hpost
        rw [hsame] at hholds ⊢
        rw [incidentStart_cons_of_none (hann.trans (if_neg (by simp)))]
        exact hdated _ _ _ hholds
      · have hstamped := note_stamped hcode (hpost ▸ hholds) hdistinct
        have hfirst := hstamped.first
        rw [← hpost] at hfirst
        cases hout : (e.pre.note c d sev (UInt32.ofNat now)).2 with
        | true =>
          rw [hout] at hann hfirst
          rw [incidentStart_cons_announced (hann.trans (if_pos ⟨rfl, rfl, rfl⟩))]
          exact hfirst
        | false =>
          rw [hout] at hann hfirst
          rw [incidentStart_cons_of_none (hann.trans (if_neg (by simp)))]
          exact hfirst.trans (hdated _ _ _ (hstamped.held hout))
    · have hmove := noteMove_of_note e.pre c d sev (UInt32.ofNat now)
      rw [← hpost] at hmove
      obtain ⟨hbefore, hentry⟩ := hmove.entry_other hsame hholds
      rw [incidentStart_cons_of_none (hann.trans (if_neg fun h => hsame h.2)), hentry]
      exact hdated _ _ _ hbefore
  | takePending =>
    obtain ⟨hpost, -⟩ := timed_take hstep hcall
    obtain ⟨hentries, hcount⟩ := (takeMove_of_take e.pre).entries_same
    rw [← hpost] at hentries hcount
    rw [incidentStart_cons_of_none (announcedAt_of_take hcall), hentries]
    exact hdated _ _ _ ⟨hcount ▸ hholds.used, hentries ▸ hholds.code, hentries ▸ hholds.detail⟩

theorem dated_of_run (run : ClockedRun h j) : Dated h j := by
  refine run.history_invariant Dated ?_ ?_
  · rintro code detail i ⟨hused, -, -⟩
    exact absurd hused (Nat.not_lt_zero _)
  · intro h s io t run hdated hstep
    exact dated_step (e := ⟨s, io, t⟩) hstep (distinctErrors_of_run (ClockedRun.observed run)) hdated

def startOf (h : List ClockedEvent) (j : ErrorJournal) (i : Fin kMaxErrorEntries) : Nat :=
  incidentStart (j.entries.get i).code (j.entries.get i).detail h

/-- The entry is pending, and no pending entry is more severe. -/
def Foremost (j : ErrorJournal) (i : Fin kMaxErrorEntries) : Prop :=
  Pending j i ∧ ∀ k, Pending j k → (j.entries.get k).severity ≤ (j.entries.get i).severity

/-- The pending incidents started within half the range of the counter. -/
def HalfRange (h : List ClockedEvent) (j : ErrorJournal) : Prop :=
  ∀ i k, Pending j i → Pending j k → startOf h j i < startOf h j k + 2 ^ 31

/-- `takePending` hands out the most severe pending error and, of these, the one whose incident started
first; called again and again, it hands out each error that is to be sent once. -/
structure DrainsInOrder (h : List ClockedEvent) (j : ErrorJournal) : Prop where
  oldest : (∃ i, Pending j i) → ∃ slot, Foremost j slot ∧
    (∀ k, Foremost j k → startOf h j slot ≤ startOf h j k) ∧
    j.takePending.2 = some (j.entries.get slot)
  once : ∀ n, kMaxErrorEntries ≤ n → ((j.drain n).map errorKey).Nodup ∧
    ∀ code detail, (code, detail) ∈ (j.drain n).map errorKey ↔ ToBeSent code detail h

/-- The counter did not wrap between the starts of the most severe pending incidents. -/
def OneEpoch (h : List ClockedEvent) (j : ErrorJournal) : Prop :=
  ∀ i k, Foremost j i → Foremost j k → startOf h j i / 2 ^ 32 = startOf h j k / 2 ^ 32

theorem le_of_shown {a b : Nat} (hepoch : a / 2 ^ 32 = b / 2 ^ 32)
    (hshown : UInt32.ofNat a ≤ UInt32.ofNat b) : a ≤ b := by
  rw [UInt32.le_iff_toNat_le, UInt32.toNat_ofNat', UInt32.toNat_ofNat'] at hshown
  omega

/-- Of two times within half the range, the later is shown as the smaller if the clock wrapped. -/
theorem epoch_of_shown {a b : Nat} (hle : a ≤ b) (hrange : b < a + 2 ^ 31)
    (hshown : UInt32.ofNat a ≤ UInt32.ofNat b) : a / 2 ^ 32 = b / 2 ^ 32 := by
  rw [UInt32.le_iff_toNat_le, UInt32.toNat_ofNat', UInt32.toNat_ofNat'] at hshown
  omega

theorem first_of_take (run : ClockedRun h j) (hpending : Pending j i) :
    ∃ slot, Foremost j slot ∧ (∀ k, Foremost j k →
        UInt32.ofNat (startOf h j slot) ≤ UInt32.ofNat (startOf h j k)) ∧
      j.takePending.2 = some (j.entries.get slot) := by
  have hdated := dated_of_run run
  have hshown : ∀ k, Pending j k →
      (j.entries.get k).first_ms = UInt32.ofNat (startOf h j k) := fun k hk =>
    hdated _ _ _ ⟨hk.1, rfl, rfl⟩
  obtain ⟨slot, hslot, hfirst, hout, -⟩ :=
    take_of_pending (booked_of_run run.observed) hpending
  have hforemost : Foremost j slot :=
    ⟨hslot, fun k hk => (not_takenFirst_iff.mp (hfirst k hk)).1⟩
  refine ⟨slot, hforemost, fun k hk => ?_, hout⟩
  have hsame : (j.entries.get k).severity = (j.entries.get slot).severity :=
    ErrorSeverity.wire_injective.mp (le_antisymm (hforemost.2 k hk.1) (hk.2 slot hslot))
  rw [← hshown slot hslot, ← hshown k hk.1]
  exact (not_takenFirst_iff.mp (hfirst k hk.1)).2 hsame

/-- Pending errors are handed out in their order exactly when the counter did not wrap between the starts
of the most severe of them. -/
theorem drain_order_iff {h : List ClockedEvent} {j : ErrorJournal} (run : ClockedRun h j)
    (hrange : HalfRange h j) : DrainsInOrder h j ↔ OneEpoch h j := by
  have hdistinct := distinctErrors_of_run run.observed
  have hbooked := booked_of_run run.observed
  constructor
  · rintro ⟨holdest, -⟩
    -- all of them share the epoch of the one that is handed out
    have hepoch : ∀ i, Foremost j i → ∃ slot, ∀ k, Foremost j k →
        startOf h j slot / 2 ^ 32 = startOf h j k / 2 ^ 32 := by
      intro i hi
      obtain ⟨slot, hslot, hmin, hout⟩ := holdest ⟨i, hi.1⟩
      obtain ⟨slot', hslot', hshown, hout'⟩ := first_of_take run hi.1
      have hentry := Option.some.inj (hout.symm.trans hout')
      obtain rfl : slot = slot' := by
        refine hdistinct _ _ _ _ ⟨hslot.1.1, rfl, rfl⟩ ⟨hslot'.1.1, ?_, ?_⟩
        · rw [hentry]
        · rw [hentry]
      exact ⟨slot, fun k hk => epoch_of_shown (hmin k hk) (hrange k slot hk.1 hslot.1) (hshown k hk)⟩
    intro i k hi hk
    obtain ⟨slot, hall⟩ := hepoch i hi
    exact (hall i hi).symm.trans (hall k hk)
  · intro hepoch
    refine ⟨?_, fun n hn => ?_⟩
    · rintro ⟨i, hi⟩
      obtain ⟨slot, hslot, hshown, hout⟩ := first_of_take run hi
      exact ⟨slot, hslot, fun k hk => le_of_shown (hepoch slot k hslot hk) (hshown k hk), hout⟩
    · have hcard : (flagged j.pending).card ≤ n := (card_flagged_le j.pending).trans hn
      obtain ⟨hnodup, hmem⟩ := drain_once n hbooked hdistinct hcard
      exact ⟨hnodup, fun code detail => (hmem code detail).trans (unsent_iff_toBeSent run)⟩

/-- When the journal was called with a time, latest first. -/
def notedTimes (h : List ClockedEvent) : List Nat :=
  h.filterMap fun e =>
    match e.label.1 with
    | .note _ _ _ now => some now
    | .takePending => none

/-- A warning a second before the counter wraps, and another half a second after it. -/
def wrappedCalls : List ClockedCall :=
  [.note .batteryLow 0 .warning 4294966296, .note .rcFailsafe 0 .warning 4294967796]

def wrappedHistory : List ClockedEvent := (record ErrorJournal.timedStep {} [] wrappedCalls).2

def wrappedJournal : ErrorJournal := (record ErrorJournal.timedStep {} [] wrappedCalls).1

theorem wrapped_run : ClockedRun wrappedHistory wrappedJournal := run_record _ wrappedCalls .nil

theorem wrapped_range : HalfRange wrappedHistory wrappedJournal := by
  unfold HalfRange Pending
  decide

theorem drain_order_iff_wrapped :
    DrainsInOrder wrappedHistory wrappedJournal ↔ OneEpoch wrappedHistory wrappedJournal :=
  drain_order_iff wrapped_run wrapped_range

/-- The later of the two is handed out first. -/
theorem later_handed_out :
    ¬ ∀ (h : List ClockedEvent) (j : ErrorJournal), ClockedRun h j →
      (notedTimes h).Pairwise (· ≥ ·) → HalfRange h j → DrainsInOrder h j := by
  intro hdrains
  have hpending : ∃ i, Pending wrappedJournal i := ⟨0, by decide, by decide⟩
  obtain ⟨slot, hslot, hmin, hout⟩ :=
    (hdrains _ _ wrapped_run (by decide) wrapped_range).oldest hpending
  revert slot
  unfold Foremost Pending
  decide

end HexapodVerified.Safety
