import HexapodVerified.Safety.ErrorJournal

/-!
# The table of errors

What one call of the journal does to the table. `note` writes one entry and leaves the others as they
are, and the entry it writes is that of its error; the errors in the table stay distinct.
-/

namespace HexapodVerified.Safety

open Transition Tables

variable {j t : ErrorJournal} {i k slot : Fin kMaxErrorEntries} {code c : ErrorCode}
  {detail d : UInt8} {severity incoming : ErrorSeverity} {now_ms : UInt32} {announced : Bool}

theorem ErrorSeverity.wire_injective {a b : ErrorSeverity} : a.wire = b.wire ↔ a = b := by
  cases a <;> cases b <;> decide

/-- Entry `i` is in use for the error. -/
structure Holds (j : ErrorJournal) (code : ErrorCode) (detail : UInt8) (i : Fin kMaxErrorEntries) :
    Prop where
  used : i.val < j.count
  code : (j.entries.get i).code = code
  detail : (j.entries.get i).detail = detail

/-- The error was announced and has not been handed out. -/
def Unsent (j : ErrorJournal) (code : ErrorCode) (detail : UInt8) : Prop :=
  ∃ i, Holds j code detail i ∧ j.pending.get i = true

def DistinctErrors (j : ErrorJournal) : Prop :=
  ∀ code detail i k, Holds j code detail i → Holds j code detail k → i = k

theorem mem_indices : i ∈ j.indices ↔ i.val < j.count := by
  unfold ErrorJournal.indices
  rw [List.mem_filter, decide_eq_true_iff]
  exact and_iff_right (List.mem_finRange i)

theorem indices_sorted (j : ErrorJournal) : j.indices.Pairwise (· < ·) :=
  (List.pairwise_lt_finRange _).filter _

theorem holds_of_find (hfind : j.find code detail = some i) : Holds j code detail i := by
  have hmem := mem_indices.mp (List.mem_of_find?_eq_some hfind)
  have hkey := List.find?_some hfind
  rw [decide_eq_true_iff] at hkey
  exact ⟨hmem, hkey.1, hkey.2⟩

theorem not_holds_of_find (hfind : j.find code detail = none) (i : Fin kMaxErrorEntries) :
    ¬ Holds j code detail i := by
  intro hholds
  have hno := List.find?_eq_none.mp hfind i (mem_indices.mpr hholds.used)
  rw [decide_eq_true_iff] at hno
  exact hno ⟨hholds.code, hholds.detail⟩

theorem Holds.same (hholds : Holds j code detail i) (hother : Holds j c d i) :
    c = code ∧ d = detail :=
  ⟨hother.code.symm.trans hholds.code, hother.detail.symm.trans hholds.detail⟩

def recycleKey (j : ErrorJournal) (now_ms : UInt32) (i : Fin kMaxErrorEntries) :
    ℕ ×ₗ ℕᵒᵈ :=
  toLex ((j.entries.get i).severity.wire,
    OrderDual.toDual (elapsed now_ms (j.entries.get i).last_ms).toNat)

theorem recycledFirst_iff (i k : Fin kMaxErrorEntries) :
    j.recycledFirst now_ms i k = true ↔ recycleKey j now_ms i < recycleKey j now_ms k := by
  unfold ErrorJournal.recycledFirst recycleKey
  rw [Prod.Lex.toLex_lt_toLex]
  by_cases heq : (j.entries.get i).severity = (j.entries.get k).severity
  · simp only [heq, ne_eq, not_true_eq_false, if_false, decide_eq_true_iff, lt_irrefl, false_or,
      true_and]
    exact UInt32.lt_iff_toNat_lt
  · have hne : (j.entries.get i).severity.wire ≠ (j.entries.get k).severity.wire :=
      fun hw => heq (ErrorSeverity.wire_injective.mp hw)
    simp only [heq, hne, ne_eq, not_false_eq_true, if_true, decide_eq_true_iff, false_and, or_false]
    rfl

theorem recycled_used (hrecycle : j.recycleSlot incoming now_ms = some slot) :
    slot.val < j.count ∧ j.recyclable incoming slot = true := by
  obtain ⟨hmem, hel⟩ := pick_mem recycledFirst_iff hrecycle
  exact ⟨mem_indices.mp hmem, hel⟩

/-- Another entry is recycled before `slot`. -/
def RecycledBefore (j : ErrorJournal) (incoming : ErrorSeverity) (now_ms : UInt32)
    (slot : Fin kMaxErrorEntries) : Prop :=
  ∃ i, i.val < j.count ∧ j.recyclable incoming i = true ∧
    ChosenOver (j.recycledFirst now_ms) i slot

theorem recycleSlot_iff (hused : slot.val < j.count) (hel : j.recyclable incoming slot = true) :
    j.recycleSlot incoming now_ms = some slot ↔ ¬ RecycledBefore j incoming now_ms slot := by
  unfold ErrorJournal.recycleSlot RecycledBefore
  rw [picked_iff recycledFirst_iff (indices_sorted j) (mem_indices.mpr hused) hel]
  constructor
  · rintro hfirst ⟨i, hi, hi', hchosen⟩
    exact hfirst i (mem_indices.mpr hi) hi' hchosen
  · intro hno a ha hela hchosen
    exact hno ⟨a, mem_indices.mp ha, hela, hchosen⟩

/-- `t` differs from `j` in the entry `slot`, which is that of the error. -/
structure Written (j t : ErrorJournal) (slot : Fin kMaxErrorEntries) (code : ErrorCode)
    (detail : UInt8) (severity : ErrorSeverity) (announced : Bool) : Prop where
  holds : Holds t code detail slot
  severity : (t.entries.get slot).severity = severity
  pending : t.pending.get slot = (announced || j.pending.get slot)
  others : ∀ i, i ≠ slot → (i.val < t.count ↔ i.val < j.count) ∧
    t.entries.get i = j.entries.get i ∧ t.pending.get i = j.pending.get i

theorem record_written (j : ErrorJournal) {slot : Fin kMaxErrorEntries} (hused : slot.val < j.count)
    (entry : ErrorEntry) (severity : ErrorSeverity) (now_ms : UInt32) (announce : Bool) :
    Written j (j.record slot entry severity now_ms announce).1 slot entry.code entry.detail
      severity announce := by
  cases announce with
  | false =>
    refine ⟨⟨hused, ?_, ?_⟩, ?_, rfl, fun i hi => ⟨Iff.rfl, get_set_ne _ hi _, rfl⟩⟩
    · exact Eq.trans (congrArg ErrorEntry.code (get_set_self _ _ _)) rfl
    · exact Eq.trans (congrArg ErrorEntry.detail (get_set_self _ _ _)) rfl
    · exact Eq.trans (congrArg ErrorEntry.severity (get_set_self _ _ _)) rfl
  | true =>
    refine ⟨⟨hused, ?_, ?_⟩, ?_, get_set_self _ _ _,
      fun i hi => ⟨Iff.rfl, get_set_ne _ hi _, get_set_ne _ hi _⟩⟩
    · exact Eq.trans (congrArg ErrorEntry.code (get_set_self _ _ _)) rfl
    · exact Eq.trans (congrArg ErrorEntry.detail (get_set_self _ _ _)) rfl
    · exact Eq.trans (congrArg ErrorEntry.severity (get_set_self _ _ _)) rfl

theorem record_announced (j : ErrorJournal) (slot : Fin kMaxErrorEntries) (entry : ErrorEntry)
    (severity : ErrorSeverity) (now_ms : UInt32) (announce : Bool) :
    (j.record slot entry severity now_ms announce).2 = announce := by
  cases announce <;> rfl

theorem dropPending_others (hne : i ≠ slot) :
    (j.dropPending slot).pending.get i = j.pending.get i := by
  unfold ErrorJournal.dropPending
  by_cases hpending : j.pending.get slot = true
  · rw [if_pos hpending]
    exact get_set_ne _ hne _
  · rw [if_neg hpending]

theorem dropPending_entries (j : ErrorJournal) (slot : Fin kMaxErrorEntries) :
    (j.dropPending slot).entries = j.entries ∧ (j.dropPending slot).count = j.count := by
  unfold ErrorJournal.dropPending
  split_ifs with hpending <;> exact ⟨rfl, rfl⟩

/-- What `note` can do. -/
inductive NoteMove (j : ErrorJournal) (code : ErrorCode) (detail : UInt8) (severity : ErrorSeverity)
    (now_ms : UInt32) : ErrorJournal → Bool → Prop where
  | ignored (hnone : code = .none) : NoteMove j code detail severity now_ms j false
  | added {t : ErrorJournal} {slot : Fin kMaxErrorEntries} (hnew : ∀ i, ¬ Holds j code detail i)
      (hroom : slot.val = j.count) (hwritten : Written j t slot code detail severity true) :
      NoteMove j code detail severity now_ms t true
  | dropped {t : ErrorJournal} (hnew : ∀ i, ¬ Holds j code detail i)
      (hsame : t.entries = j.entries ∧ t.pending = j.pending ∧ t.count = j.count)
      (hno : j.recycleSlot severity now_ms = none) :
      NoteMove j code detail severity now_ms t false
  | recycled {t : ErrorJournal} {slot : Fin kMaxErrorEntries} (hcode : code ≠ .none)
      (hnew : ∀ i, ¬ Holds j code detail i) (hfull : ¬ j.count < kMaxErrorEntries)
      (hrecycle : j.recycleSlot severity now_ms = some slot)
      (hwritten : Written j t slot code detail severity true) :
      NoteMove j code detail severity now_ms t true
  | repeated {t : ErrorJournal} {slot : Fin kMaxErrorEntries} {announced : Bool}
      (hholds : Holds j code detail slot)
      (hwritten : Written j t slot code detail severity announced) :
      NoteMove j code detail severity now_ms t announced

theorem added_written (hroom : j.count < kMaxErrorEntries) (code : ErrorCode) (detail : UInt8)
    (severity : ErrorSeverity) (now_ms : UInt32) :
    Written j ({ j with count := j.count + 1 }.record ⟨j.count, hroom⟩
      (ErrorJournal.freshEntry code detail now_ms) severity now_ms true).1 ⟨j.count, hroom⟩ code detail severity
      true := by
  obtain ⟨hholds, hsev, hpending, hothers⟩ :=
    record_written { j with count := j.count + 1 }
      (show (⟨j.count, hroom⟩ : Fin kMaxErrorEntries).val < j.count + 1 from Nat.lt_succ_self _)
      (ErrorJournal.freshEntry code detail now_ms) severity now_ms true
  refine ⟨hholds, hsev, hpending, fun i hi => ?_⟩
  obtain ⟨hused, hentry⟩ := hothers i hi
  have hne : i.val ≠ j.count := fun heq => hi (Fin.ext heq)
  have hlt : i.val < j.count + 1 ↔ i.val < j.count := by omega
  exact ⟨hused.trans hlt, hentry⟩

theorem recycled_written (hused : slot.val < j.count) (code : ErrorCode) (detail : UInt8)
    (severity : ErrorSeverity) (now_ms : UInt32) :
    Written j ((j.dropPending slot).record slot (ErrorJournal.freshEntry code detail now_ms)
      severity now_ms true).1 slot code detail severity true := by
  obtain ⟨hentries, hcount⟩ := dropPending_entries j slot
  have hstill : slot.val < (j.dropPending slot).count := hcount ▸ hused
  obtain ⟨hholds, hsev, hpending, hothers⟩ :=
    record_written (j.dropPending slot) hstill
      (ErrorJournal.freshEntry code detail now_ms) severity now_ms true
  refine ⟨hholds, hsev, hpending, fun i hi => ?_⟩
  obtain ⟨hcountIff, hentry, hpend⟩ := hothers i hi
  rw [hcount] at hcountIff
  rw [hentries] at hentry
  rw [dropPending_others hi] at hpend
  exact ⟨hcountIff, hentry, hpend⟩

theorem noteMove_of_note (j : ErrorJournal) (code : ErrorCode) (detail : UInt8)
    (severity : ErrorSeverity) (now_ms : UInt32) :
    NoteMove j code detail severity now_ms (j.note code detail severity now_ms).1
      (j.note code detail severity now_ms).2 := by
  unfold ErrorJournal.note
  by_cases hcode : code = .none
  · rw [if_pos hcode]
    exact .ignored hcode
  rw [if_neg hcode]
  cases hfind : j.find code detail with
  | none =>
    have hnew := not_holds_of_find hfind
    by_cases hroom : j.count < kMaxErrorEntries
    · simp only [hroom, dif_pos, record_announced]
      exact .added hnew rfl (added_written hroom code detail severity now_ms)
    · simp only [hroom, dif_neg, not_false_eq_true]
      cases hrecycle : j.recycleSlot severity now_ms with
      | none => exact .dropped hnew ⟨rfl, rfl, rfl⟩ hrecycle
      | some slot =>
        simp only [record_announced]
        exact .recycled hcode hnew hroom hrecycle
          (recycled_written (recycled_used hrecycle).1 code detail severity now_ms)
  | some slot =>
    have hholds := holds_of_find hfind
    -- whichever way the entry is written, it stays the entry of its error
    have hrepeated : ∀ entry : ErrorEntry, entry.code = code → entry.detail = detail → ∀ announce,
        NoteMove j code detail severity now_ms (j.record slot entry severity now_ms announce).1 announce := by
      rintro entry rfl rfl announce
      exact .repeated hholds (record_written j hholds.used entry severity now_ms announce)
    simp only
    split_ifs with hquiet hrepeat
    · rw [record_announced]
      exact hrepeated { j.entries.get slot with count := 0, first_ms := now_ms } hholds.code hholds.detail true
    · rw [record_announced]
      exact hrepeated { j.entries.get slot with first_ms := now_ms } hholds.code hholds.detail true
    · rw [record_announced]
      exact hrepeated _ hholds.code hholds.detail false

theorem unsent_of_announced (hmove : NoteMove j code detail severity now_ms t true) :
    Unsent t code detail := by
  cases hmove with
  | added _ _ hwritten => exact ⟨_, hwritten.holds, hwritten.pending⟩
  | recycled _ _ _ _ hwritten => exact ⟨_, hwritten.holds, hwritten.pending⟩
  | repeated _ hwritten => exact ⟨_, hwritten.holds, hwritten.pending⟩

def takeKey (j : ErrorJournal) (i : Fin kMaxErrorEntries) : ℕᵒᵈ ×ₗ ℕ :=
  toLex (OrderDual.toDual (j.entries.get i).severity.wire, (j.entries.get i).first_ms.toNat)

theorem takenFirst_iff (i k : Fin kMaxErrorEntries) :
    j.takenFirst i k = true ↔ takeKey j i < takeKey j k := by
  unfold ErrorJournal.takenFirst takeKey
  rw [Prod.Lex.toLex_lt_toLex]
  by_cases hgt : (j.entries.get i).severity > (j.entries.get k).severity
  · simp only [hgt, if_true, true_iff]
    exact .inl hgt
  · simp only [hgt, if_false, decide_eq_true_iff]
    constructor
    · rintro ⟨hsev, hfirst⟩
      exact .inr ⟨congrArg (fun s => OrderDual.toDual s.wire) hsev, UInt32.lt_iff_toNat_lt.mp hfirst⟩
    · rintro (hlt | ⟨hsev, hfirst⟩)
      · exact absurd hlt hgt
      · exact ⟨ErrorSeverity.wire_injective.mp (OrderDual.toDual.injective hsev),
          UInt32.lt_iff_toNat_lt.mpr hfirst⟩

/-- What `takePending` can do. -/
inductive TakeMove (j : ErrorJournal) : ErrorJournal → Option ErrorEntry → Prop where
  | nothing {t : ErrorJournal}
      (hsame : t.entries = j.entries ∧ t.pending = j.pending ∧ t.count = j.count) :
      TakeMove j t none
  | taken {t : ErrorJournal} {slot : Fin kMaxErrorEntries} (hused : slot.val < j.count)
      (hpending : j.pending.get slot = true) (hentries : t.entries = j.entries)
      (hcount : t.count = j.count) (hothers : ∀ i, i ≠ slot → t.pending.get i = j.pending.get i) :
      TakeMove j t (some (j.entries.get slot))

theorem takeMove_of_take (j : ErrorJournal) : TakeMove j j.takePending.1 j.takePending.2 := by
  unfold ErrorJournal.takePending
  by_cases hzero : j.pending_count = 0
  · rw [if_pos hzero]
    exact .nothing ⟨rfl, rfl, rfl⟩
  rw [if_neg hzero]
  cases hbest : j.bestPending with
  | none => exact .nothing ⟨rfl, rfl, rfl⟩
  | some slot =>
    obtain ⟨hmem, hpending⟩ := pick_mem takenFirst_iff hbest
    exact .taken (mem_indices.mp hmem) hpending rfl rfl fun i hi => get_set_ne _ hi _

theorem TakeMove.entries_same {out : Option ErrorEntry} (hmove : TakeMove j t out) :
    t.entries = j.entries ∧ t.count = j.count := by
  cases hmove with
  | nothing hsame => exact ⟨hsame.1, hsame.2.2⟩
  | taken _ _ hentries hcount => exact ⟨hentries, hcount⟩

theorem Holds.of_same (hsame : t.entries = j.entries ∧ t.pending = j.pending ∧ t.count = j.count) :
    Holds t c d i ↔ Holds j c d i := by
  obtain ⟨hentries, -, hcount⟩ := hsame
  constructor
  · rintro ⟨hused, hc, hd⟩
    rw [hentries] at hc hd
    exact ⟨hcount ▸ hused, hc, hd⟩
  · rintro ⟨hused, hc, hd⟩
    rw [← hentries] at hc hd
    exact ⟨hcount ▸ hused, hc, hd⟩

theorem Written.holds_other (hwritten : Written j t slot code detail severity announced)
    (hne : i ≠ slot) : Holds t c d i ↔ Holds j c d i := by
  obtain ⟨hused, hentry, -⟩ := hwritten.others i hne
  constructor
  · rintro ⟨hlt, hc, hd⟩
    rw [hentry] at hc hd
    exact ⟨hused.mp hlt, hc, hd⟩
  · rintro ⟨hlt, hc, hd⟩
    rw [← hentry] at hc hd
    exact ⟨hused.mpr hlt, hc, hd⟩

theorem Written.distinct (hwritten : Written j t slot code detail severity announced)
    (hdistinct : DistinctErrors j) (honly : ∀ i, Holds j code detail i → i = slot) :
    DistinctErrors t := by
  have hslot : ∀ c d i k, Holds t c d i → Holds t c d k → i = slot → k = slot := by
    rintro c d i k hi hk rfl
    by_contra hne
    obtain ⟨rfl, rfl⟩ := hwritten.holds.same hi
    exact hne (honly k ((hwritten.holds_other hne).mp hk))
  intro c d i k hi hk
  by_cases hislot : i = slot
  · exact hislot.trans (hslot c d i k hi hk hislot).symm
  · by_cases hkslot : k = slot
    · exact absurd (hslot c d k i hk hi hkslot) hislot
    · exact hdistinct c d i k ((hwritten.holds_other hislot).mp hi)
        ((hwritten.holds_other hkslot).mp hk)

theorem distinct_of_same (hsame : t.entries = j.entries ∧ t.pending = j.pending ∧ t.count = j.count)
    (hdistinct : DistinctErrors j) : DistinctErrors t := fun c d i k hi hk =>
  hdistinct c d i k ((Holds.of_same hsame).mp hi) ((Holds.of_same hsame).mp hk)

theorem NoteMove.distinct (hmove : NoteMove j code detail severity now_ms t announced)
    (hdistinct : DistinctErrors j) : DistinctErrors t := by
  cases hmove with
  | ignored => exact hdistinct
  | added hnew _ hwritten => exact hwritten.distinct hdistinct fun i hi => absurd hi (hnew i)
  | dropped _ hsame => exact distinct_of_same hsame hdistinct
  | recycled _ hnew _ _ hwritten => exact hwritten.distinct hdistinct fun i hi => absurd hi (hnew i)
  | repeated hholds hwritten =>
    exact hwritten.distinct hdistinct fun i hi => hdistinct _ _ _ _ hi hholds

theorem TakeMove.distinct {out : Option ErrorEntry} (hmove : TakeMove j t out)
    (hdistinct : DistinctErrors j) : DistinctErrors t := by
  cases hmove with
  | nothing hsame => exact distinct_of_same hsame hdistinct
  | taken _ _ hentries hcount =>
    intro c d i k hi hk
    obtain ⟨hiused, hic, hid⟩ := hi
    obtain ⟨hkused, hkc, hkd⟩ := hk
    rw [hentries] at hic hid hkc hkd
    exact hdistinct c d i k ⟨hcount ▸ hiused, hic, hid⟩ ⟨hcount ▸ hkused, hkc, hkd⟩

theorem distinctErrors_of_run {h : List JournalEvent} (run : JournalRun h j) : DistinctErrors j := by
  refine run.invariant DistinctErrors ?_ ?_
  · rintro code detail i k ⟨hused, -, -⟩
    exact absurd hused (Nat.not_lt_zero _)
  · rintro s ⟨call, answer⟩ r hdistinct hstep
    cases call with
    | note code detail severity now_ms =>
      cases hstep
      exact (noteMove_of_note s code detail severity now_ms).distinct hdistinct
    | takePending =>
      cases hstep
      exact (takeMove_of_take s).distinct hdistinct

end HexapodVerified.Safety
