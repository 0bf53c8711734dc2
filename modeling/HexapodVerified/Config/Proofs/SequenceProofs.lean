import HexapodVerified.Config.Proofs.DurabilityProofs

/-!
# The sequence numbers in a journal

A commit counts from the cached sequence number, or else from the newest record. As long as that number
is not older than the file, and the commit finds a settled file, the appended record is the only one
that becomes visible and its number is new. The cache falls behind when the whole record reaches
the file but the sync after it fails: the next commit then writes the same number again, and a scan
keeps the first of the two.
-/

namespace HexapodVerified.Config

open HexapodVerified.Protocol Bytes Transition

variable {file old payload l r : List UInt8} {offset : Nat} {card : Card} {seq latest : UInt32}
  {j : Journal} {h : List JournalEvent} {e : JournalEvent}

/-- The bytes that reach the file. -/
def Card.taken (card : Card) (bytes : List UInt8) : List UInt8 :=
  match card.room with
  | none => bytes
  | some room => bytes.take room

/-- The card has room for all the bytes. -/
def Card.takesAll (card : Card) (bytes : List UInt8) : Bool :=
  match card.room with
  | none => true
  | some room => decide (bytes.length ≤ room)

/-- The card after it was given the bytes. -/
def Card.after (card : Card) (bytes : List UInt8) : Card :=
  { card with room := card.room.map fun room => room - bytes.length }

theorem Card.taken_of_takesAll {bytes : List UInt8} (hall : card.takesAll bytes = true) :
    card.taken bytes = bytes := by
  unfold takesAll at hall
  unfold taken
  cases hroom : card.room with
  | none => rfl
  | some room =>
    rw [hroom] at hall
    exact List.take_of_length_le (of_decide_eq_true hall)

theorem Card.taken_append (card : Card) (l r : List UInt8) :
    card.taken (l ++ r) = card.taken l ++ (card.after l).taken r := by
  unfold taken after
  cases card.room with
  | none => rfl
  | some room => exact List.take_append

theorem Card.takesAll_append (card : Card) (l r : List UInt8) :
    card.takesAll (l ++ r) = (card.takesAll l && (card.after l).takesAll r) := by
  unfold takesAll after
  cases card.room with
  | none => rfl
  | some room =>
    rw [Option.map_some, ← Bool.decide_and, List.length_append]
    exact decide_eq_decide.mpr (by omega)

theorem Card.taken_after {l : List UInt8} (hfull : card.takesAll l = false) (r : List UInt8) :
    (card.after l).taken r = [] := by
  unfold takesAll at hfull
  unfold taken after
  cases hroom : card.room with
  | none =>
    rw [hroom] at hfull
    exact nomatch hfull
  | some room =>
    rw [hroom] at hfull
    have hlt : ¬ l.length ≤ room := of_decide_eq_false hfull
    have hzero : room - l.length = 0 := by omega
    rw [Option.map_some, hzero]
    exact List.take_zero

theorem appendFile_eq (card : Card) (file buf : List UInt8) :
    appendFile card file buf = (card.after buf, file ++ card.taken buf, card.takesAll buf) := by
  obtain ⟨room, sync_ok⟩ := card
  unfold appendFile Card.after Card.taken Card.takesAll
  cases room with
  | none => rfl
  | some room =>
    dsimp only
    split_ifs with hfits
    · rw [List.take_of_length_le hfits, decide_eq_true hfits]
      rfl
    · have hzero : room - buf.length = 0 := by omega
      rw [decide_eq_false hfits, Option.map_some, hzero]

theorem Card.after_nil (card : Card) : card.after [] = card := by
  obtain ⟨_ | room, sync_ok⟩ := card <;> rfl

theorem Card.taken_nil (card : Card) : card.taken [] = [] := by
  obtain ⟨_ | room, sync_ok⟩ := card
  · rfl
  · exact List.take_nil

theorem Card.takesAll_nil (card : Card) : card.takesAll [] = true := by
  obtain ⟨_ | room, sync_ok⟩ := card
  · rfl
  · exact decide_eq_true (Nat.zero_le room)

theorem appendPayload_eq (card : Card) (file payload : List UInt8) :
    (if payload.length > 0 then appendFile card file payload else (card, file, true)) =
      (card.after payload, file ++ card.taken payload, card.takesAll payload) := by
  cases payload with
  | nil =>
    rw [card.after_nil, card.taken_nil, card.takesAll_nil, List.append_nil]
    rfl
  | cons byte rest => exact appendFile_eq card file (byte :: rest)

theorem appendRecord_eq (card : Card) (file : List UInt8) (seq : UInt32) (payload : List UInt8) :
    ConfigStore.appendRecord card file seq payload =
      (file ++ card.taken (recordBytes seq payload),
        card.takesAll (recordBytes seq payload) && card.sync_ok) := by
  unfold ConfigStore.appendRecord recordBytes
  generalize ConfigStore.commitHeader seq payload = header
  generalize ConfigStore.commitTrailer seq = trailer
  rw [appendFile_eq, card.taken_append, card.takesAll_append, ← List.append_assoc]
  dsimp only
  cases hheader : card.takesAll header with
  | false =>
    rw [card.taken_after hheader, List.append_nil]
    rfl
  | true =>
    rw [appendPayload_eq, Card.taken_append, Card.takesAll_append, ← List.append_assoc]
    cases hpayload : (card.after header).takesAll payload with
    | false =>
      rw [Card.taken_after hpayload, List.append_nil]
      rfl
    | true =>
      rw [appendFile_eq]
      cases ((card.after header).after payload).takesAll trailer with
      | false => rfl
      | true => rfl

def ConfigStore.latest? (store : ConfigStore) (file : List UInt8) : Option UInt32 :=
  if store.sequence_known then some store.latest_sequence
  else (scan file).map fun status => status.sequence

theorem ConfigStore.latest_cases {store : ConfigStore} (hlatest : store.latest? file = some latest) :
    store = { latest_sequence := latest, sequence_known := true } ∨
      store.sequence_known = false ∧ ∃ status, scan file = some status ∧ status.sequence = latest := by
  unfold ConfigStore.latest? at hlatest
  split_ifs at hlatest with hknown
  · rw [Option.some.injEq] at hlatest
    obtain ⟨latest_sequence, sequence_known⟩ := store
    obtain rfl : latest_sequence = latest := hlatest
    obtain rfl : sequence_known = true := hknown
    exact .inl rfl
  · exact .inr ⟨eq_false_of_ne_true hknown, Option.map_eq_some_iff.mp hlatest⟩

theorem commit_eq {store : ConfigStore} (hlen : payload.length ≤ kMaxPayload)
    (hlatest : store.latest? file = some latest) :
    store.commit card file payload =
      ({ latest_sequence :=
          if card.takesAll (recordBytes (latest + 1) payload) && card.sync_ok then latest + 1
          else latest
         sequence_known := true },
        file ++ card.taken (recordBytes (latest + 1) payload),
        card.takesAll (recordBytes (latest + 1) payload) && card.sync_ok) := by
  unfold ConfigStore.commit
  rw [if_neg (Nat.not_lt.mpr hlen)]
  obtain rfl | ⟨hknown, status, hscan, rfl⟩ := ConfigStore.latest_cases hlatest
  · rw [if_pos rfl]
    dsimp only
    rw [appendRecord_eq]
    cases card.takesAll (recordBytes (latest + 1) payload) && card.sync_ok <;> rfl
  · rw [hknown, if_neg Bool.false_ne_true, hscan, Option.map_some]
    dsimp only
    rw [appendRecord_eq]
    cases card.takesAll (recordBytes (status.sequence + 1) payload) && card.sync_ok <;> rfl

theorem scan_isSome (file : List UInt8) : ∃ status, scan file = some status := by
  obtain ⟨status, hstatus, -⟩ :=
    scanLoop_invariant (fun _ => True) (fun _ _ _ _ => trivial) 0 {} (Reaches.start : Reaches file 0)
      trivial
  exact ⟨_, by rw [scan, hstatus, Option.map_some]⟩

theorem latest?_isSome (store : ConfigStore) (file : List UInt8) :
    ∃ latest, store.latest? file = some latest := by
  unfold ConfigStore.latest?
  obtain ⟨status, hscan⟩ := scan_isSome file
  split_ifs
  · exact ⟨_, rfl⟩
  · exact ⟨status.sequence, by rw [hscan, Option.map_some]⟩

theorem scanLoop_of_reaches (hreach : Reaches file offset)
    (hroom : offset + kHeaderSize + kTrailerSize ≤ file.length) :
    ∃ status, scanLoop file 0 none {} = scanLoop file offset none status ∧
      status.newest_payload_offset ≤ offset := by
  induction hreach with
  | start => exact ⟨{}, rfl, Nat.le_refl 0⟩
  | skip h hin hno ih =>
    obtain ⟨status, hstatus, hle⟩ := ih (by omega)
    exact ⟨status, by rw [hstatus, scanLoop_skip (by omega) hno], by omega⟩
  | @record offset h hheader hfits ih =>
    have := lt_endAt file offset
    obtain ⟨status, hstatus, hle⟩ := ih (by omega)
    refine ⟨_, by rw [hstatus, scanLoop_record hheader hfits], ?_⟩
    split_ifs
    · obtain ⟨-, hnote⟩ | ⟨-, -, hnote⟩ :=
        note_cases status (headerAt file offset) (offset + kHeaderSize)
      · rw [hnote]
        show offset + kHeaderSize ≤ endAt file offset
        omega
      · rw [hnote]
        show status.newest_payload_offset ≤ endAt file offset
        omega
    · omega

/-- The status has noted a record with that number and payload, or a better one. -/
def StoreStatus.Covers (status : StoreStatus) (sequence : UInt32) (payload_offset : Nat) : Prop :=
  status.has_valid_record = true ∧ (sequence < status.sequence ∨
    sequence = status.sequence ∧ status.newest_payload_offset ≤ payload_offset)

theorem StoreStatus.Covers.note {status : StoreStatus} (hcovers : status.Covers seq offset)
    (header : SlotHeader) (payload_offset : Nat) :
    (status.note header payload_offset).Covers seq offset := by
  obtain ⟨hvalid, hbetter⟩ := hcovers
  obtain ⟨hnewer, hnote⟩ | ⟨-, -, hnote⟩ := note_cases status header payload_offset
  · rw [hnote]
    refine ⟨rfl, .inl ?_⟩
    obtain hlt | ⟨heq, -⟩ := hbetter
    · exact UInt32.lt_trans hlt (hnewer hvalid)
    · rw [heq]
      exact hnewer hvalid
  · rw [hnote]
    exact ⟨hvalid, hbetter⟩

theorem StoreStatus.covers_note {status : StoreStatus} {payload_offset : Nat}
    (hle : status.newest_payload_offset ≤ payload_offset) (header : SlotHeader) :
    (status.note header payload_offset).Covers header.sequence payload_offset := by
  obtain ⟨-, hnote⟩ | ⟨hvalid, hold, hnote⟩ := note_cases status header payload_offset
  · rw [hnote]
    exact ⟨rfl, .inr ⟨rfl, Nat.le_refl _⟩⟩
  · rw [hnote]
    obtain hlt | heq := UInt32.lt_or_eq_of_le hold
    · exact ⟨hvalid, .inl hlt⟩
    · exact ⟨hvalid, .inr ⟨heq, hle⟩⟩

theorem scan_covers {status : StoreStatus} (hvisible : Visible file offset)
    (hscan : scan file = some status) :
    status.Covers (headerAt file offset).sequence (offset + kHeaderSize) := by
  have := lt_endAt file offset
  have := hvisible.fits
  obtain ⟨before, hbefore, hle⟩ := scanLoop_of_reaches hvisible.reached (by omega)
  rw [scanLoop_record hvisible.header hvisible.fits, if_pos hvisible.complete] at hbefore
  obtain ⟨after, hafter, hcovers⟩ := scanLoop_invariant
    (fun status => status.Covers (headerAt file offset).sequence (offset + kHeaderSize))
    (fun offset' _ _ hcovers => hcovers.note (headerAt file offset') (offset' + kHeaderSize))
    _ _ (hvisible.reached.record hvisible.header hvisible.fits)
    (StoreStatus.covers_note (Nat.le_trans hle (Nat.le_add_right _ _)) (headerAt file offset))
  rw [scan, hbefore, hafter] at hscan
  cases hscan
  exact hcovers

theorem sequence_le_scan {status : StoreStatus} (hvisible : Visible file offset)
    (hscan : scan file = some status) : (headerAt file offset).sequence ≤ status.sequence := by
  obtain ⟨-, hlt | ⟨heq, -⟩⟩ := scan_covers hvisible hscan
  · exact UInt32.le_of_lt hlt
  · exact UInt32.le_of_eq heq

/-- The visible record with the highest sequence number, the first one of equals. -/
structure Newest (file : List UInt8) (offset : Nat) : Prop where
  visible : Visible file offset
  highest : ∀ other, Visible file other →
    (headerAt file other).sequence ≤ (headerAt file offset).sequence
  first : ∀ other, Visible file other →
    (headerAt file other).sequence = (headerAt file offset).sequence → offset ≤ other

theorem Newest.unique {other : Nat} (hnewest : Newest file offset) (hother : Newest file other) :
    offset = other := by
  have hsequence := UInt32.le_antisymm (hnewest.highest other hother.visible)
    (hother.highest offset hnewest.visible)
  exact Nat.le_antisymm (hnewest.first other hother.visible hsequence)
    (hother.first offset hnewest.visible hsequence.symm)

theorem scan_newest {status : StoreStatus} (hscan : scan file = some status)
    (hvalid : status.has_valid_record = true) :
    ∃ offset, Newest file offset ∧ status.newest_payload_offset = offset + kHeaderSize ∧
      status.newest_header = headerAt file offset := by
  obtain ⟨last, hlast, hnoted⟩ := scanLoop_invariant
    (fun status => status.has_valid_record = true → ∃ offset, Visible file offset ∧
      status.newest_payload_offset = offset + kHeaderSize ∧
      status.newest_header = headerAt file offset ∧
      status.sequence = (headerAt file offset).sequence)
    (fun offset status hvisible ih _ => by
      obtain ⟨-, hnote⟩ | ⟨hold, -, hnote⟩ :=
        note_cases status (headerAt file offset) (offset + kHeaderSize)
      · rw [hnote]
        exact ⟨offset, hvisible, rfl, rfl, rfl⟩
      · rw [hnote]
        exact ih hold)
    0 {} (Reaches.start : Reaches file 0) (nofun)
  have hcovers := fun other (hvisible : Visible file other) => scan_covers hvisible hscan
  rw [scan, hlast, Option.map_some, Option.some.injEq] at hscan
  subst hscan
  obtain ⟨offset, hvisible, hpayload, hheader, hsequence⟩ := hnoted hvalid
  refine ⟨offset, ⟨hvisible, fun other hother => ?_, fun other hother heq => ?_⟩, hpayload, hheader⟩
  · rw [← hsequence]
    obtain ⟨-, hlt | ⟨heq, -⟩⟩ := hcovers other hother
    · exact UInt32.le_of_lt hlt
    · exact UInt32.le_of_eq heq
  · rw [← hsequence] at heq
    obtain ⟨-, hlt | ⟨-, hle⟩⟩ := hcovers other hother
    · rw [heq] at hlt
      exact absurd hlt (UInt32.lt_irrefl _)
    · have hle' : last.newest_payload_offset ≤ other + kHeaderSize := hle
      rw [hpayload] at hle'
      exact Nat.le_of_add_le_add_right hle'

def recordPayload (file : List UInt8) (offset : Nat) : List UInt8 :=
  window file (offset + kHeaderSize) (headerAt file offset).length.toNat

theorem recordPayload_length (hfits : endAt file offset ≤ file.length) :
    (recordPayload file offset).length = (headerAt file offset).length.toNat := by
  have hend : offset + kHeaderSize + (headerAt file offset).length.toNat + kTrailerSize =
    endAt file offset := rfl
  exact window_length (by omega)

theorem load_of_newest (hnewest : Newest file offset) (store : ConfigStore) {max_len : Nat}
    (hfits : (recordPayload file offset).length ≤ max_len) :
    (store.load file max_len).2 = some (recordPayload file offset) := by
  obtain ⟨status, hscan⟩ := scan_isSome file
  obtain ⟨hvalid, -⟩ := scan_covers hnewest.visible hscan
  obtain ⟨other, hother, hpayload, hheader⟩ := scan_newest hscan hvalid
  obtain rfl := hnewest.unique hother
  rw [recordPayload_length hnewest.visible.fits] at hfits
  have hend : offset + kHeaderSize + (headerAt file offset).length.toNat + kTrailerSize =
    endAt file offset := rfl
  have hin := hnewest.visible.fits
  unfold ConfigStore.load
  rw [hscan]
  dsimp only
  rw [hvalid, Bool.not_true, if_neg Bool.false_ne_true, hheader, hpayload,
    if_neg (Nat.not_lt.mpr hfits), readFile_of_le (by omega)]
  rfl

theorem visible_le_latest (hcurrent : SequenceCurrent j)
    (hlatest : j.store.latest? j.file = some latest) (hvisible : Visible j.file offset) :
    (headerAt j.file offset).sequence ≤ latest := by
  obtain hstore | ⟨-, status, hscan, rfl⟩ := ConfigStore.latest_cases hlatest
  · have hle := hcurrent (by rw [hstore]) offset hvisible
    rwa [hstore] at hle
  · exact sequence_le_scan hvisible hscan

theorem offset_lt_endAt (file : List UInt8) (offset : Nat) : offset < endAt file offset := by
  have := headerSize_trailerSize
  have := lt_endAt file offset
  omega

/-- The scan goes the same way in two files as long as it stays in their common first part. -/
theorem Reaches.replace_tail {r' : List UInt8} (hreach : Reaches (l ++ r) offset)
    (hle : offset ≤ l.length) (hclear : ∀ before, before < offset → l.length < before + kHeaderSize →
      ¬ HeaderAt (l ++ r') before) : Reaches (l ++ r') offset := by
  induction hreach with
  | start => exact .start
  | @skip before h hin hno ih =>
    refine (ih (by omega) fun o ho => hclear o (by omega)).skip (by rw [List.length_append]; omega) ?_
    by_cases hroom : before + kHeaderSize ≤ l.length
    · rwa [HeaderAt_append hroom] at hno ⊢
    · exact hclear before (Nat.lt_succ_self _) (Nat.not_le.mp hroom)
  | @record before h hheader hfits ih =>
    have := lt_endAt (l ++ r) before
    have hroom : before + kHeaderSize ≤ l.length := by omega
    have hstart := ih (by omega) fun o ho => hclear o (by omega)
    have hend : endAt (l ++ r) before = endAt (l ++ r') before := by
      rw [endAt_append hroom, endAt_append hroom]
    rw [hend] at hle ⊢
    refine hstart.record ?_ ?_
    · rwa [HeaderAt_append hroom] at hheader ⊢
    · rw [List.length_append]
      omega

theorem Visible.append (hvisible : Visible l offset) : Visible (l ++ r) offset := by
  have hin := hvisible.header.1
  have hreach := hvisible.reached
  rw [← List.append_nil l] at hreach
  refine ⟨hreach.replace_tail (by omega) fun before hbefore hbeyond => by omega,
    (HeaderAt_append hin).mpr hvisible.header, ?_, ?_⟩
  · have := hvisible.fits
    rw [endAt_append hin, List.length_append]
    omega
  · rw [completeAt_append hvisible.fits]
    exact hvisible.complete

theorem NoStraddle.within {file' : List UInt8} (hstraddle : NoStraddle old file')
    (hheader : HeaderAt file' offset) (hlt : offset < old.length) :
    offset + kHeaderSize ≤ old.length := by
  by_contra hbeyond
  exact hstraddle offset hlt (by omega) hheader

/-- The scan of the new file is the scan of the old one until it reaches the appended record, which
it passes in one go. -/
theorem Reaches.of_append (hsettled : Settled old)
    (hstraddle : NoStraddle old (old ++ recordBytes seq payload))
    (hlen : payload.length ≤ kMaxPayload)
    (hreach : Reaches (old ++ recordBytes seq payload) offset) :
    (offset ≤ old.length ∧ Reaches old offset) ∨
      (old ++ recordBytes seq payload).length ≤ offset := by
  have := headerSize_trailerSize
  induction hreach with
  | start => exact .inl ⟨Nat.zero_le _, .start⟩
  | @skip offset h hin hno ih =>
    obtain ⟨hle, hold⟩ | hend := ih
    · obtain heq | hlt := Nat.eq_or_lt_of_le hle
      · rw [heq] at hno
        exact absurd (HeaderAt_recordBytes hlen) hno
      · refine .inl ⟨hlt, hold.skip hlt fun hheader => hno ?_⟩
        exact (HeaderAt_append hheader.1).mpr hheader
    · omega
  | @record offset h hheader hfits ih =>
    obtain ⟨hle, hold⟩ | hend := ih
    · obtain heq | hlt := Nat.eq_or_lt_of_le hle
      · rw [heq, endAt_recordBytes hlen]
        exact .inr (Nat.le_refl _)
      · have hin := hstraddle.within hheader hlt
        have hheader' := (HeaderAt_append hin).mp hheader
        have hfits' := hsettled offset hold hheader'
        rw [endAt_append hin]
        exact .inl ⟨hfits', hold.record hheader' hfits'⟩
    · have := hheader.1
      omega

/-- The record appended to a settled file is the only one that becomes visible. -/
theorem visible_append_recordBytes (hsettled : Settled old)
    (hstraddle : NoStraddle old (old ++ recordBytes seq payload))
    (hlen : payload.length ≤ kMaxPayload)
    (hvisible : Visible (old ++ recordBytes seq payload) offset) :
    Visible old offset ∨ offset = old.length := by
  obtain ⟨hle, hold⟩ | hend := hvisible.reached.of_append hsettled hstraddle hlen
  · obtain heq | hlt := Nat.eq_or_lt_of_le hle
    · exact .inr heq
    · have hin := hstraddle.within hvisible.header hlt
      have hheader := (HeaderAt_append hin).mp hvisible.header
      have hfits := hsettled offset hold hheader
      refine .inl ⟨hold, hheader, hfits, ?_⟩
      rw [← completeAt_append hfits]
      exact hvisible.complete
  · have := headerSize_trailerSize
    have := hvisible.header.1
    omega

theorem Settled.reaches_length (hsettled : Settled old) (offset : Nat) (hreach : Reaches old offset)
    (hle : offset ≤ old.length) : Reaches old old.length := by
  obtain heq | hlt := Nat.eq_or_lt_of_le hle
  · rwa [heq] at hreach
  · by_cases hheader : HeaderAt old offset
    · have hfits := hsettled offset hreach hheader
      have hnext := offset_lt_endAt old offset
      exact hsettled.reaches_length _ (hreach.record hheader hfits) hfits
    · exact hsettled.reaches_length _ (hreach.skip hlt hheader) hlt
termination_by old.length - offset

theorem reaches_length (hsettled : Settled old)
    (hstraddle : NoStraddle old (old ++ recordBytes seq payload)) :
    Reaches (old ++ recordBytes seq payload) old.length := by
  have hold := hsettled.reaches_length 0 .start (Nat.zero_le _)
  have hreach : Reaches (old ++ []) old.length := by rwa [List.append_nil]
  exact hreach.replace_tail (Nat.le_refl _) hstraddle

theorem visible_recordBytes (hsettled : Settled old)
    (hstraddle : NoStraddle old (old ++ recordBytes seq payload))
    (hlen : payload.length ≤ kMaxPayload) :
    Visible (old ++ recordBytes seq payload) old.length :=
  ⟨reaches_length hsettled hstraddle, HeaderAt_recordBytes hlen,
    Nat.le_of_eq (endAt_recordBytes hlen), completeAt_recordBytes hlen⟩

/-- No two complete records of the file carry the same sequence number. -/
def SequencesDistinct (file : List UInt8) : Prop :=
  ∀ a b, Visible file a → Visible file b →
    (headerAt file a).sequence = (headerAt file b).sequence → a = b

def WroteRecord (e : JournalEvent) (payload : List UInt8) : Prop :=
  ∃ card latest, e.label.1 = .commit payload card ∧ payload.length ≤ kMaxPayload ∧
    e.pre.store.latest? e.pre.file = some latest ∧
    card.takesAll (recordBytes (latest + 1) payload) = true

/-- What a commit needs of the journal it finds. A commit that the card stops must not turn the bytes
that are already there into a record; one that gets its whole record written must find a settled
file and must not count from a number that is older than the file. -/
structure SoundCommit (j : Journal) (payload : List UInt8) (card : Card) : Prop where
  torn : ∀ latest, j.store.latest? j.file = some latest →
    card.takesAll (recordBytes (latest + 1) payload) = false →
    ∀ offset, Visible (j.file ++ card.taken (recordBytes (latest + 1) payload)) offset →
      Visible j.file offset
  whole : ∀ latest, j.store.latest? j.file = some latest →
    card.takesAll (recordBytes (latest + 1) payload) = true →
    Settled j.file ∧ NoStraddle j.file (j.file ++ recordBytes (latest + 1) payload) ∧
      SequenceCurrent j ∧ latest ≠ 0xFFFFFFFF

def SoundHistory (h : List JournalEvent) : Prop :=
  ∀ e ∈ h, ∀ payload card, e.label.1 = .commit payload card → payload.length ≤ kMaxPayload →
    SoundCommit e.pre payload card

theorem add_one_ne_zero (hmax : latest ≠ 0xFFFFFFFF) : latest + 1 ≠ 0 := by
  intro hzero
  refine hmax ?_
  rw [← UInt32.add_sub_cancel latest 1, hzero]
  rfl

theorem SequenceCurrent.lt_next (hcurrent : SequenceCurrent j)
    (hlatest : j.store.latest? j.file = some latest) (hmax : latest ≠ 0xFFFFFFFF)
    (hvisible : Visible j.file offset) : (headerAt j.file offset).sequence < latest + 1 :=
  UInt32.lt_of_le_of_lt (visible_le_latest hcurrent hlatest hvisible)
    (lt_succ_of_ne_zero (add_one_ne_zero hmax))

theorem SoundCommit.step (hsound : SoundCommit j payload card) (hlen : payload.length ≤ kMaxPayload)
    (hlatest : j.store.latest? j.file = some latest) (hdistinct : SequencesDistinct j.file) :
    SequencesDistinct (j.file ++ card.taken (recordBytes (latest + 1) payload)) ∧
      (card.takesAll (recordBytes (latest + 1) payload) = true →
        Visible (j.file ++ card.taken (recordBytes (latest + 1) payload)) j.file.length) := by
  have hkept : ∀ {offset}, Visible j.file offset →
      (headerAt (j.file ++ card.taken (recordBytes (latest + 1) payload)) offset).sequence =
        (headerAt j.file offset).sequence :=
    fun hvisible => by rw [headerAt_append hvisible.header.1]
  cases hall : card.takesAll (recordBytes (latest + 1) payload) with
  | false =>
    have hold := hsound.torn latest hlatest hall
    refine ⟨fun a b ha hb heq => ?_, nofun⟩
    rw [hkept (hold a ha), hkept (hold b hb)] at heq
    exact hdistinct a b (hold a ha) (hold b hb) heq
  | true =>
    obtain ⟨hsettled, hstraddle, hcurrent, hmax⟩ := hsound.whole latest hlatest hall
    rw [Card.taken_of_takesAll hall] at hkept ⊢
    refine ⟨fun a b ha hb heq => ?_, fun _ => visible_recordBytes hsettled hstraddle hlen⟩
    have hnew : (headerAt (j.file ++ recordBytes (latest + 1) payload) j.file.length).sequence =
        latest + 1 := by
      rw [headerAt_recordBytes, writtenHeader_eq]
    obtain ha' | rfl := visible_append_recordBytes hsettled hstraddle hlen ha
    · obtain hb' | rfl := visible_append_recordBytes hsettled hstraddle hlen hb
      · rw [hkept ha', hkept hb'] at heq
        exact hdistinct a b ha' hb' heq
      · rw [hkept ha', hnew] at heq
        exact absurd (heq ▸ hcurrent.lt_next hlatest hmax ha') (UInt32.lt_irrefl _)
    · obtain hb' | rfl := visible_append_recordBytes hsettled hstraddle hlen hb
      · rw [hkept hb', hnew] at heq
        exact absurd (heq ▸ hcurrent.lt_next hlatest hmax hb') (UInt32.lt_irrefl _)
      · rfl

/-- Every record that a commit of the history has written completely is visible. -/
def AllVisible (h : List JournalEvent) (file : List UInt8) : Prop :=
  ∀ e ∈ h, ∀ payload, WroteRecord e payload → Visible file e.pre.file.length

theorem AllVisible.cons (hwrote : AllVisible h file)
    (hnew : ∀ payload, WroteRecord e payload → Visible file e.pre.file.length) :
    AllVisible (e :: h) file := by
  intro e' he payload hrecord
  obtain rfl | he := List.mem_cons.mp he
  · exact hnew payload hrecord
  · exact hwrote e' he payload hrecord

theorem AllVisible.append (hwrote : AllVisible h l) : AllVisible h (l ++ r) :=
  fun e he payload hrecord => (hwrote e he payload hrecord).append

theorem call_file {c : JournalCall} (hno : ∀ payload card, c ≠ .commit payload card) :
    (j.call c).1.file = j.file := by
  cases c with
  | commit payload card => exact absurd rfl (hno payload card)
  | _ => rfl

/-- What a commit of a run of sound commits does: the numbers stay distinct, and what it has written
completely is visible. -/
theorem distinct_commit {result : JournalResult} {j' : Journal}
    (hsound : payload.length ≤ kMaxPayload → SoundCommit j payload card)
    (hstep : j.call (.commit payload card) = (j', result)) (hdistinct : SequencesDistinct j.file) :
    SequencesDistinct j'.file ∧ ∀ payload',
      WroteRecord ⟨j, (.commit payload card, result), j'⟩ payload' →
        Visible j'.file j.file.length := by
  by_cases hlen : payload.length ≤ kMaxPayload
  · obtain ⟨latest, hlatest⟩ := latest?_isSome j.store j.file
    obtain ⟨hnew, hvisible⟩ := (hsound hlen).step hlen hlatest hdistinct
    have hfile : j'.file = j.file ++ card.taken (recordBytes (latest + 1) payload) := by
      simp only [Journal.call, commit_eq hlen hlatest, Prod.mk.injEq] at hstep
      rw [← hstep.1]
    rw [hfile]
    refine ⟨hnew, fun payload' hrecord => ?_⟩
    obtain ⟨card', latest', hlabel, -, hlatest', hall⟩ := hrecord
    cases hlabel
    rw [hlatest] at hlatest'
    cases hlatest'
    exact hvisible hall
  · have hfile : j'.file = j.file := by
      have hcommit : j.store.commit card j.file payload = (j.store, j.file, false) :=
        if_pos (Nat.not_le.mp hlen)
      simp only [Journal.call, hcommit, Prod.mk.injEq] at hstep
      rw [← hstep.1]
    rw [hfile]
    refine ⟨hdistinct, fun payload' hrecord => ?_⟩
    obtain ⟨card', latest', hlabel, hlen', -⟩ := hrecord
    cases hlabel
    exact absurd hlen' hlen

/-- Over a run of sound commits the sequence numbers stay distinct, and every record that was written
completely stays visible. -/
theorem run_distinct (run : JournalRun h j) (hsound : SoundHistory h) :
    SequencesDistinct j.file ∧ AllVisible h j.file := by
  refine run.history_invariant (fun h j => SoundHistory h → SequencesDistinct j.file ∧
    AllVisible h j.file) ?_ ?_ hsound
  · refine fun _ => ⟨fun a b ha => ?_, List.forall_mem_nil _⟩
    exact absurd ha.header.1 (Nat.not_succ_le_zero (a + 15))
  · rintro h j ⟨c, result⟩ j' run ih hstep hsound
    obtain ⟨hdistinct, hwrote⟩ := ih fun e he => hsound e (List.mem_cons_of_mem _ he)
    have hgrow : j.file <+: j'.file := by
      have hgrow := call_extends j c
      rwa [hstep] at hgrow
    have hkept : AllVisible h j'.file := by
      obtain ⟨tail, htail⟩ := hgrow
      rw [← htail]
      exact hwrote.append
    by_cases hcommit : ∃ payload card, c = .commit payload card
    · obtain ⟨payload, card, rfl⟩ := hcommit
      obtain ⟨hdistinct', hvisible⟩ :=
        distinct_commit (hsound _ List.mem_cons_self payload card rfl) hstep hdistinct
      exact ⟨hdistinct', hkept.cons hvisible⟩
    · have hno : ∀ payload card, c ≠ .commit payload card := fun payload card hc =>
        hcommit ⟨payload, card, hc⟩
      have hfile : j'.file = j.file := by
        have hcall : j.call c = (j', result) := hstep
        rw [← call_file (j := j) hno, hcall]
      refine ⟨by rwa [hfile], hkept.cons fun payload hrecord => ?_⟩
      obtain ⟨card', latest', hlabel, -⟩ := hrecord
      exact absurd hlabel (hno payload card')

theorem sound_commit_loads {later earlier : List JournalEvent} {max_len : Nat}
    (run : JournalRun (later ++ e :: earlier) j) (hsound : SoundHistory (later ++ e :: earlier))
    (hcommit : e.label = (.commit payload card, .committed true))
    (hlater : ∀ x ∈ later, NoCommit x) (hfits : payload.length ≤ max_len) :
    (j.call (.load max_len)).2 = .loaded (some payload) := by
  have hcall := call_of_commit run hcommit
  obtain ⟨hlen, hfile, -⟩ := commit_ok hcall
  obtain ⟨latest, hlatest⟩ := latest?_isSome e.pre.store e.pre.file
  simp only [Journal.call, commit_eq hlen hlatest, Prod.mk.injEq, JournalResult.committed.injEq]
    at hcall
  have hall : card.takesAll (recordBytes (latest + 1) payload) = true := by
    have hok := hcall.2
    rw [Bool.and_eq_true] at hok
    exact hok.1
  have hpost : e.post.store.latest_sequence = latest + 1 := by
    rw [← hcall.1, hcall.2]
    rfl
  obtain ⟨hsettled, hstraddle, hcurrent, hmax⟩ :=
    (hsound e (List.mem_append_right _ List.mem_cons_self) payload card (by rw [hcommit]) hlen).whole
      latest hlatest hall
  refine load_after_commit run hcommit hlater ?_ ?_ hsettled hcurrent hfits
  · rwa [run_file_of_noCommit run hlater, hfile, hpost]
  · rw [hpost]
    exact add_one_ne_zero hmax

/-- In a run of sound commits the records of the file carry distinct sequence numbers, every record
that was written completely is among them, and a load finds what the last commit has written when
that commit returned true. -/
theorem journal_sequences_distinct (run : JournalRun h j) (hsound : SoundHistory h) :
    SequencesDistinct j.file ∧
      (∀ e ∈ h, ∀ payload, WroteRecord e payload → Visible j.file e.pre.file.length) ∧
      ∀ later earlier e payload card max_len, h = later ++ e :: earlier →
        e.label = (.commit payload card, .committed true) → (∀ x ∈ later, NoCommit x) →
        payload.length ≤ max_len → (j.call (.load max_len)).2 = .loaded (some payload) := by
  obtain ⟨hdistinct, hvisible⟩ := run_distinct run hsound
  refine ⟨hdistinct, hvisible, ?_⟩
  rintro later earlier e payload card max_len rfl hcommit hlater hfits
  exact sound_commit_loads run hsound hcommit hlater hfits

theorem SoundHistory.commit {result : JournalResult} {j' : Journal} (hcommit : SoundCommit j payload card)
    (hsound : SoundHistory h) : SoundHistory (⟨j, (.commit payload card, result), j'⟩ :: h) := by
  intro e he payload' card' hlabel hlen
  rcases List.mem_cons.mp he with rfl | he
  · cases hlabel
    exact hcommit
  · exact hsound e he payload' card' hlabel hlen

theorem SoundHistory.other (hno : NoCommit e) (hsound : SoundHistory h) : SoundHistory (e :: h) := by
  intro x hx payload card hlabel hlen
  rcases List.mem_cons.mp hx with rfl | hx
  · exact absurd hlabel (hno payload card)
  · exact hsound x hx payload card hlabel hlen

theorem latest?_nil : ConfigStore.latest? {} [] = some 0 := by
  show (scan []).map StoreStatus.sequence = some 0
  rw [scan, scanLoop_stop (by decide)]
  rfl

theorem sound_firstCommit : SoundCommit {} [1] {} := by
  refine ⟨fun latest _ htorn => absurd htorn.symm Bool.false_ne_true, fun latest hlatest _ => ?_⟩
  cases latest?_nil.symm.trans hlatest
  refine ⟨fun offset _ hheader => ?_, fun offset hlt => ?_, fun hknown => ?_, by decide⟩
  · exact absurd hheader.1 (Nat.not_succ_le_zero (offset + 15))
  · exact absurd hlt (Nat.not_lt_zero offset)
  · exact absurd hknown Bool.false_ne_true

theorem visible_firstRecord (hlen : payload.length ≤ kMaxPayload) : Visible (recordBytes latest payload) 0 := by
  have hsettled : Settled [] := fun offset _ hheader => absurd hheader.1 (Nat.not_succ_le_zero (offset + 15))
  have hrecord : Visible ([] ++ recordBytes latest payload) ([] : List UInt8).length :=
    visible_recordBytes hsettled (fun offset hlt => absurd hlt (Nat.not_lt_zero offset)) hlen
  rwa [List.nil_append] at hrecord

theorem sound_brokenOff :
    SoundCommit (Journal.call {} (.commit [1] {})).1 [5] { room := some 7 } := by
  rw [call_firstCommit]
  refine ⟨fun latest hlatest _ offset hvisible => ?_, fun latest _ hall => ?_⟩
  · cases hlatest
    have hheader : HeaderAt afterBreak.file offset := by
      rw [afterBreak_eq.1]
      exact hvisible.header
    rw [(headers_afterBreak hheader).1]
    exact visible_firstRecord (by decide)
  · have hroom : (recordBytes (latest + 1) [5]).length ≤ 7 := of_decide_eq_true hall
    rw [recordBytes_length] at hroom
    exact absurd hroom (by decide)

theorem sound_thirdCommit : SoundCommit afterBreak [7, 8] {} := by
  have hone : afterBreak.store.latest? afterBreak.file = some 1 := by
    rw [afterBreak_eq.1]
    rfl
  refine ⟨fun latest _ htorn => absurd htorn.symm Bool.false_ne_true, fun latest hlatest _ => ?_⟩
  cases hone.symm.trans hlatest
  refine ⟨fun offset _ hheader => (headers_afterBreak hheader).2.1, fun offset hlt hbeyond hheader => ?_,
    fun _ offset hvisible => (headers_afterBreak hvisible.header).2.2, by decide⟩
  rw [length_afterBreak] at hlt hbeyond
  have hthird : thirdCommit.file = afterBreak.file ++ recordBytes 2 [7, 8] := by rw [thirdCommit, call_thirdCommit]
  obtain rfl | rfl := afterBreak_eq.2.2 offset (by omega) (hthird ▸ hheader)
  · exact absurd hbeyond (by decide)
  · exact absurd hlt (Nat.lt_irrefl 32)

theorem journal_sequences_distinct_behindBreak : SequencesDistinct thirdCommit.file ∧
    ((thirdCommit.call .reopen).1.call (.load 8)).2 = .loaded (some [7, 8]) := by
  have hrun := ((run_record Journal.call brokenOff
    (show JournalRun [] {} from .nil)).input (.commit [7, 8] {})).input .reopen
  have hthird : (JournalCall.commit [7, 8] {}, (afterBreak.call (.commit [7, 8] {})).2) =
      (.commit [7, 8] {}, .committed true) := by rw [call_thirdCommit]
  obtain ⟨hdistinct, -, hload⟩ := journal_sequences_distinct hrun (.other nofun (.commit sound_thirdCommit
    (.other nofun (.other nofun (.commit sound_brokenOff (.commit sound_firstCommit (List.forall_mem_nil _)))))))
  refine ⟨hdistinct, hload [_] (record Journal.call {} [] brokenOff).2 _ [7, 8] {} 8 rfl hthird
    (fun x hx => ?_) (by decide)⟩
  rw [List.mem_singleton.mp hx]
  exact nofun

/-- The whole record of a commit is in the file, but the sync after it failed. -/
def unsyncedCommit : Journal :=
  { file := recordBytes 1 [1], store := { latest_sequence := 0, sequence_known := true } }

def afterUnsynced : Journal :=
  { file := recordBytes 1 [1] ++ recordBytes 1 [2]
    store := { latest_sequence := 1, sequence_known := true } }

def unsyncedHistory : List JournalEvent :=
  [⟨unsyncedCommit, (.commit [2] {}, .committed true), afterUnsynced⟩,
    ⟨{}, (.commit [1] { sync_ok := false }, .committed false), unsyncedCommit⟩]

theorem unsyncedHistory_run : JournalRun unsyncedHistory afterUnsynced := by
  refine .step (.step .nil ?_) rfl
  show Journal.call _ _ = _
  simp only [Journal.call, ConfigStore.commit]
  rw [scan, scanLoop_stop (by decide)]
  rfl

theorem visible_afterUnsynced : Visible afterUnsynced.file 0 ∧ Visible afterUnsynced.file 25 := by
  have hone : [(1 : UInt8)].length ≤ kMaxPayload := by decide
  have htwo : [(2 : UInt8)].length ≤ kMaxPayload := by decide
  have hfirst : Visible (recordBytes 1 [1] ++ recordBytes 1 [2]) 0 := (visible_firstRecord hone).append
  have hend : endAt afterUnsynced.file 0 = 25 := by decide
  refine ⟨hfirst, ?_, HeaderAt_recordBytes htwo, Nat.le_of_eq (endAt_recordBytes htwo),
    completeAt_recordBytes htwo⟩
  rw [← hend]
  exact hfirst.reached.record hfirst.header hfirst.fits

/-- After a commit whose sync failed, the next one writes the same sequence number again. -/
theorem journal_sequences_collide : ¬ ∀ (h : List JournalEvent) (j : Journal), JournalRun h j →
    SequencesDistinct j.file ∧
      ∀ later earlier e payload card max_len, h = later ++ e :: earlier →
        e.label = (.commit payload card, .committed true) → (∀ x ∈ later, NoCommit x) →
        payload.length ≤ max_len → (j.call (.load max_len)).2 = .loaded (some payload) := by
  intro hall
  obtain ⟨hfirst, hsecond⟩ := visible_afterUnsynced
  have hdistinct := (hall _ _ unsyncedHistory_run).1
  exact absurd (hdistinct 0 25 hfirst hsecond (by decide)) (by decide)

end HexapodVerified.Config
