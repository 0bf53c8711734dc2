import HexapodVerified.Safety.Proofs.UnsentProofs

/-!
# The entry that a new error replaces

`recycleSlot` is to recycle the entry of lowest severity that was not seen for longest, and never one that
is still pending if that can be avoided. Its loop passes over a pending entry only when the incoming error
is not more severe: a less severe pending entry competes with those that were sent, and by its severity it
may win against them.
-/

namespace HexapodVerified.Safety

open Transition Tables

variable {j t : ErrorJournal} {i k slot : Fin kMaxErrorEntries} {code c : ErrorCode}
  {detail d : UInt8} {severity : ErrorSeverity} {now_ms : UInt32} {announced : Bool}

def Sent (j : ErrorJournal) (i : Fin kMaxErrorEntries) : Prop :=
  i.val < j.count ∧ j.pending.get i = false

/-- Entries that were sent may be recycled and, when there are none, pending entries that are less severe
than the new error. -/
def Admissible (j : ErrorJournal) (severity : ErrorSeverity) (i : Fin kMaxErrorEntries) : Prop :=
  Sent j i ∨ i.val < j.count ∧ (∀ k, ¬ Sent j k) ∧ (j.entries.get i).severity < severity

/-- Of the admissible entries `slot` has the lowest severity and, of these, was not seen for longest; no
unsent error is lost if there is an entry that was sent. -/
structure SparesUnsent (j t : ErrorJournal) (severity : ErrorSeverity) (now_ms : UInt32)
    (slot : Fin kMaxErrorEntries) : Prop where
  admissible : Admissible j severity slot
  lowest : ∀ i, Admissible j severity i → (j.entries.get slot).severity ≤ (j.entries.get i).severity
  longest : ∀ i, Admissible j severity i →
    (j.entries.get i).severity = (j.entries.get slot).severity →
    elapsed now_ms (j.entries.get i).last_ms ≤ elapsed now_ms (j.entries.get slot).last_ms
  unsent : (∃ i, Sent j i) → ∀ code detail, Unsent j code detail → Unsent t code detail

/-- Either everything is pending, or an entry that was sent is recycled before every pending entry that is
less severe than the new error. -/
def SentFirst (j : ErrorJournal) (severity : ErrorSeverity) (now_ms : UInt32) : Prop :=
  (∀ i, ¬ Sent j i) ∨ ∃ i, Sent j i ∧ ∀ k, k.val < j.count → j.pending.get k = true →
    (j.entries.get k).severity < severity → ¬ ChosenOver (j.recycledFirst now_ms) k i

theorem recyclable_sent (hsent : Sent j i) : j.recyclable severity i = true := by
  unfold ErrorJournal.recyclable
  rw [hsent.2]
  rfl

theorem recyclable_of_lt (hlt : (j.entries.get i).severity < severity) :
    j.recyclable severity i = true := by
  unfold ErrorJournal.recyclable
  have hnot : ¬ (j.entries.get i).severity ≥ severity := Nat.not_le.mpr hlt
  rw [decide_eq_false hnot, Bool.and_false]
  rfl

theorem admissible_recyclable (hadm : Admissible j severity i) :
    i.val < j.count ∧ j.recyclable severity i = true := by
  rcases hadm with hsent | ⟨hused, -, hlt⟩
  · exact ⟨hsent.1, recyclable_sent hsent⟩
  · exact ⟨hused, recyclable_of_lt hlt⟩

theorem not_recycledFirst_iff : j.recycledFirst now_ms i slot = false ↔
    (j.entries.get slot).severity ≤ (j.entries.get i).severity ∧
      ((j.entries.get i).severity = (j.entries.get slot).severity →
        elapsed now_ms (j.entries.get i).last_ms ≤ elapsed now_ms (j.entries.get slot).last_ms) := by
  unfold ErrorJournal.recycledFirst
  by_cases heq : (j.entries.get i).severity = (j.entries.get slot).severity
  · simp only [heq, ne_eq, not_true_eq_false, if_false, decide_eq_false_iff_not, forall_const]
    constructor
    · intro hnot
      exact ⟨Nat.le_refl _, UInt32.not_lt.mp hnot⟩
    · rintro ⟨-, hle⟩
      exact UInt32.not_lt.mpr hle
  · simp only [heq, ne_eq, not_false_eq_true, if_true, decide_eq_false_iff_not, false_imp_iff,
      and_true]
    exact Nat.not_lt

theorem replaced_slot (hfull : j.count = kMaxErrorEntries)
    (hnew : ∀ i, ¬ Holds j code detail i)
    (hholds : Holds (j.note code detail severity now_ms).1 code detail slot) :
    j.recycleSlot severity now_ms = some slot ∧
      Written j (j.note code detail severity now_ms).1 slot code detail severity true := by
  generalize hnote : j.note code detail severity now_ms = r at hholds ⊢
  have hmove := noteMove_of_note j code detail severity now_ms
  rw [hnote] at hmove
  obtain ⟨t, announced⟩ := r
  cases hmove with
  | ignored => exact absurd hholds (hnew slot)
  | @added _ i _ hroom =>
    omega
  | dropped _ hsame => exact absurd ((Holds.of_same hsame).mp hholds) (hnew slot)
  | @recycled _ i _ _ _ hrecycle hwritten =>
    by_cases heq : slot = i
    · subst heq
      exact ⟨hrecycle, hwritten⟩
    · exact absurd ((hwritten.holds_other heq).mp hholds) (hnew slot)
  | repeated hheld => exact absurd hheld (hnew _)

theorem exists_replaced (hfull : j.count = kMaxErrorEntries) (hcode : code ≠ .none)
    (hnew : ∀ i, ¬ Holds j code detail i) (hsent : ∃ i, Sent j i) :
    ∃ slot, Holds (j.note code detail severity now_ms).1 code detail slot := by
  generalize hnote : j.note code detail severity now_ms = r
  have hmove := noteMove_of_note j code detail severity now_ms
  rw [hnote] at hmove
  obtain ⟨t, announced⟩ := r
  cases hmove with
  | ignored hnone => exact absurd hnone hcode
  | @added _ i _ hroom =>
    omega
  | dropped _ _ hno =>
    obtain ⟨i, hi⟩ := hsent
    have hkept := (pick_eq_none_iff recycledFirst_iff).mp hno i (mem_indices.mpr hi.1)
    cases (recyclable_sent hi).symm.trans hkept
  | recycled _ _ _ _ hwritten => exact ⟨_, hwritten.holds⟩
  | repeated hheld => exact absurd hheld (hnew _)

/-- The entry recycled was sent, unless all are pending. -/
theorem sent_of_recycled (hfirst : SentFirst j severity now_ms)
    (hrecycle : j.recycleSlot severity now_ms = some slot) : Admissible j severity slot := by
  obtain ⟨hused, hel⟩ := recycled_used hrecycle
  cases hpending : j.pending.get slot with
  | false => exact .inl ⟨hused, hpending⟩
  | true =>
    have hlt : (j.entries.get slot).severity < severity :=
      Nat.not_le.mp ((recyclable_pending hpending).mp hel)
    rcases hfirst with hnone | ⟨i, hsent, hbefore⟩
    · exact .inr ⟨hused, hnone, hlt⟩
    · have hslot := hbefore slot hused hpending hlt
      have hi : ¬ ChosenOver (j.recycledFirst now_ms) i slot := fun hchosen =>
        (recycleSlot_iff hused hel).mp hrecycle ⟨i, hsent.1, recyclable_sent hsent, hchosen⟩
      rw [chosenOver_iff recycledFirst_iff] at hslot hi
      have heq := le_antisymm (not_lt.mp hslot) (not_lt.mp hi)
      obtain rfl := (Prod.mk.inj (toLex.injective heq)).2
      cases hpending.symm.trans hsent.2

theorem sparesUnsent_of_recycled (hwritten : Written j t slot code detail severity true)
    (hfirst : SentFirst j severity now_ms) (hrecycle : j.recycleSlot severity now_ms = some slot) :
    SparesUnsent j t severity now_ms slot := by
  obtain ⟨hused, hel⟩ := recycled_used hrecycle
  have hadm := sent_of_recycled hfirst hrecycle
  have hlast : ∀ i, Admissible j severity i → j.recycledFirst now_ms i slot = false := by
    intro i hi
    obtain ⟨hiused, hiel⟩ := admissible_recyclable hi
    refine Bool.eq_false_iff.mpr fun hbetter => ?_
    exact (recycleSlot_iff hused hel).mp hrecycle ⟨i, hiused, hiel, .inl hbetter⟩
  refine ⟨hadm, fun i hi => (not_recycledFirst_iff.mp (hlast i hi)).1,
    fun i hi => (not_recycledFirst_iff.mp (hlast i hi)).2, ?_⟩
  rintro hsome c d ⟨k, hk, hpending⟩
  have hsent : Sent j slot := hadm.resolve_right fun ⟨_, hnone, _⟩ =>
    hsome.elim fun i hi => hnone i hi
  have hne : k ≠ slot := by
    rintro rfl
    cases hpending.symm.trans hsent.2
  exact hwritten.unsent_other hk hpending hne

/-- The entry that a new error replaces in a full table is the one it is to replace exactly when an entry
that was sent is recycled before the less severe pending ones. -/
theorem recycling_spares_unsent_iff {j : ErrorJournal} {code : ErrorCode} {detail : UInt8}
    {severity : ErrorSeverity} {now_ms : UInt32} (hfull : j.count = kMaxErrorEntries)
    (hcode : code ≠ .none) (hnew : ∀ i, ¬ Holds j code detail i) :
    (∀ slot, Holds (j.note code detail severity now_ms).1 code detail slot →
      SparesUnsent j (j.note code detail severity now_ms).1 severity now_ms slot) ↔
      SentFirst j severity now_ms := by
  constructor
  · intro hspares
    by_cases hsent : ∃ i, Sent j i
    · obtain ⟨slot, hholds⟩ := exists_replaced hfull hcode hnew hsent
      obtain ⟨hrecycle, -⟩ := replaced_slot hfull hnew hholds
      obtain ⟨hused, hel⟩ := recycled_used hrecycle
      have hslot : Sent j slot := (hspares slot hholds).admissible.resolve_right
        fun ⟨_, hnone, _⟩ => hsent.elim fun i hi => hnone i hi
      refine .inr ⟨slot, hslot, fun k hk _ hlt hchosen => ?_⟩
      exact (recycleSlot_iff hused hel).mp hrecycle ⟨k, hk, recyclable_of_lt hlt, hchosen⟩
    · exact .inl fun i hi => hsent ⟨i, hi⟩
  · intro hfirst slot hholds
    obtain ⟨hrecycle, hwritten⟩ := replaced_slot hfull hnew hholds
    exact sparesUnsent_of_recycled hwritten hfirst hrecycle

/-- A warning is noted and sent, and eleven pieces of information fill the table. -/
def crowdedCalls : List JournalCall :=
  [.note .batteryLow 0 .warning 0, .takePending] ++
    (List.range 11).map fun i => .note .goalClamped (UInt8.ofNat i) .info 10

def crowded : ErrorJournal := (record ErrorJournal.step {} [] crowdedCalls).1

theorem crowded_new (i : Fin kMaxErrorEntries) : ¬ Holds crowded .watchdogStall 0 i := by
  revert i
  decide

theorem recycling_spares_unsent_iff_crowded :
    (∀ slot, Holds (crowded.note .watchdogStall 0 .critical 20).1 .watchdogStall 0 slot →
      SparesUnsent crowded (crowded.note .watchdogStall 0 .critical 20).1 .critical 20 slot) ↔
      SentFirst crowded .critical 20 :=
  recycling_spares_unsent_iff rfl (by decide) crowded_new

/-- The warning was sent, but information that was not is replaced. -/
theorem unsent_recycled :
    ¬ ∀ (h : List JournalEvent) (j : ErrorJournal) (code : ErrorCode) (detail : UInt8)
      (severity : ErrorSeverity) (now_ms : UInt32), JournalRun h j → j.count = kMaxErrorEntries →
      code ≠ .none → (∀ i, ¬ Holds j code detail i) →
      ∀ slot, Holds (j.note code detail severity now_ms).1 code detail slot →
        SparesUnsent j (j.note code detail severity now_ms).1 severity now_ms slot := by
  intro hspares
  have hrun : JournalRun _ crowded := run_record ErrorJournal.step crowdedCalls .nil
  have hholds : Holds (crowded.note .watchdogStall 0 .critical 20).1 .watchdogStall 0 1 := by decide
  have hsent : Sent crowded 0 := ⟨by decide, by decide⟩
  rcases (hspares _ _ _ _ _ _ hrun rfl (by decide) crowded_new 1 hholds).admissible with
    hslot | ⟨-, hnone, -⟩
  · have hpending : crowded.pending.get 1 = true := by decide
    cases hpending.symm.trans hslot.2
  · exact hnone 0 hsent

end HexapodVerified.Safety
