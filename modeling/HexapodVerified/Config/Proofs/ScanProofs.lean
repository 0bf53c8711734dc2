import HexapodVerified.Config.ConfigStore

/-!
# What a scan finds

The loop of `ConfigStore::scan` visits offsets: it skips a byte where there is no header, and jumps over
the record of a header where there is one. `Reaches` are the offsets it visits. A file is settled
when none of the headers it visits claims bytes beyond the end; a record appended to a settled file
is found, and nothing else changes.
-/

namespace HexapodVerified.Config

open HexapodVerified.Protocol Bytes

variable {file l r : List UInt8} {offset : Nat} {status : StoreStatus}

theorem headerSize_trailerSize : kHeaderSize = 16 ∧ kTrailerSize = 8 := ⟨rfl, rfl⟩

theorem readFile_of_le {n : Nat} (h : offset + n ≤ file.length) :
    readFile file offset n = some (window file offset n) := if_pos h

theorem payloadCrc_eq (remaining offset : Nat) (crc : UInt16)
    (h : offset + remaining ≤ file.length) :
    payloadCrc file offset remaining crc =
      some (crc16Update crc (window file offset remaining)) := by
  induction remaining using Nat.strongRecOn generalizing offset crc with
  | _ remaining ih =>
    unfold payloadCrc
    by_cases hzero : remaining = 0
    · rw [if_pos hzero, hzero]
      rfl
    · rw [if_neg hzero]
      dsimp only
      rw [readFile_of_le (by omega)]
      dsimp only
      rw [ih (remaining - min remaining 64) (by omega) _ _ (by omega), ← crc16Update_append,
        ← window_split]
      congr 3
      omega

theorem payloadValid_eq (h : SlotHeader) (hle : offset + h.length.toNat ≤ file.length) :
    payloadValid file offset h = (crc16 (window file offset h.length.toNat) == h.payload_crc) := by
  unfold payloadValid
  rw [payloadCrc_eq _ _ _ hle]
  rfl

/-- There is a header at the offset: the sixteen bytes there pass the header test. -/
def HeaderAt (file : List UInt8) (offset : Nat) : Prop :=
  offset + kHeaderSize ≤ file.length ∧ headerValid (window file offset kHeaderSize) = true

instance (file : List UInt8) (offset : Nat) : Decidable (HeaderAt file offset) :=
  inferInstanceAs (Decidable (_ ∧ _))

def headerAt (file : List UInt8) (offset : Nat) : SlotHeader :=
  deserializeHeader (window file offset kHeaderSize)

def endAt (file : List UInt8) (offset : Nat) : Nat := recordEnd offset (headerAt file offset)

/-- The record at the offset is complete: its payload has the CRC of the header and its trailer is in
place. -/
def completeAt (file : List UInt8) (offset : Nat) : Bool :=
  payloadValid file (offset + kHeaderSize) (headerAt file offset) &&
    trailerValid (headerAt file offset)
      (window file (offset + kHeaderSize + (headerAt file offset).length.toNat) kTrailerSize)

theorem lt_endAt (file : List UInt8) (offset : Nat) :
    offset + kHeaderSize + kTrailerSize ≤ endAt file offset := by
  unfold endAt recordEnd
  omega

theorem completeAt_eq (hfits : endAt file offset ≤ file.length) :
    completeAt file offset =
      ((crc16 (window file (offset + kHeaderSize) (headerAt file offset).length.toNat) ==
        (headerAt file offset).payload_crc) && trailerValid (headerAt file offset)
      (window file (offset + kHeaderSize + (headerAt file offset).length.toNat) kTrailerSize)) := by
  have hend : offset + kHeaderSize + (headerAt file offset).length.toNat + kTrailerSize =
    endAt file offset := rfl
  unfold completeAt
  rw [payloadValid_eq _ (by omega)]

theorem scanLoop_window (h : offset + kHeaderSize ≤ file.length) :
    scanLoop file offset (some (window file offset kHeaderSize)) status =
      scanLoop file offset none status := by
  unfold scanLoop
  rw [readFile_of_le h]
  rfl

theorem scanLoop_stop (h : file.length < offset + kHeaderSize + kTrailerSize) :
    scanLoop file offset none status = some status := by
  have := headerSize_trailerSize
  unfold scanLoop
  rw [if_pos (by omega)]

theorem scanLoop_skip (h : offset + kHeaderSize + kTrailerSize ≤ file.length)
    (hno : ¬ HeaderAt file offset) :
    scanLoop file offset none status = scanLoop file (offset + 1) none status := by
  have := headerSize_trailerSize
  have hinvalid : headerValid (window file offset kHeaderSize) = false := by
    refine eq_false_of_ne_true fun hvalid => hno ⟨?_, hvalid⟩
    omega
  conv_lhs => unfold scanLoop
  rw [if_neg (by omega), Option.none_or, readFile_of_le (by omega)]
  dsimp only
  rw [hinvalid, readFile_of_le (by omega)]
  simp only [Bool.not_false, if_true]
  rw [window_slide (by omega) (by decide), scanLoop_window (by omega)]

theorem scanLoop_torn (h : offset + kHeaderSize + kTrailerSize ≤ file.length)
    (hheader : HeaderAt file offset) (htorn : file.length < endAt file offset) :
    scanLoop file offset none status = some status := by
  unfold scanLoop
  rw [if_neg (by omega), Option.none_or, readFile_of_le (by omega)]
  dsimp only
  rw [hheader.2, Bool.not_true, if_neg Bool.false_ne_true, if_pos (by exact htorn)]

theorem scanLoop_record (hheader : HeaderAt file offset) (hfits : endAt file offset ≤ file.length) :
    scanLoop file offset none status = scanLoop file (endAt file offset) none
      (if completeAt file offset then status.note (headerAt file offset) (offset + kHeaderSize)
        else status) := by
  have hend : offset + kHeaderSize + (headerAt file offset).length.toNat + kTrailerSize =
    endAt file offset := rfl
  conv_lhs => unfold scanLoop
  rw [if_neg (by omega), Option.none_or, readFile_of_le (by omega)]
  dsimp only
  rw [hheader.2, Bool.not_true, if_neg Bool.false_ne_true,
    if_neg (by exact Nat.not_lt.mpr hfits)]
  have hread : readFile file (offset + kHeaderSize +
      (deserializeHeader (window file offset kHeaderSize)).length.toNat) kTrailerSize =
      some (window file (offset + kHeaderSize + (headerAt file offset).length.toNat)
        kTrailerSize) := readFile_of_le (by rw [← hend] at hfits; exact hfits)
  rw [hread]
  rfl

theorem note_cases (status : StoreStatus) (header : SlotHeader) (offset : Nat) :
    ((status.has_valid_record = true → status.sequence < header.sequence) ∧
      status.note header offset =
        { status with
          valid_records := status.valid_records + 1
          has_valid_record := true
          sequence := header.sequence
          length := header.length
          newest_payload_offset := offset
          newest_header := header }) ∨
    (status.has_valid_record = true ∧ header.sequence ≤ status.sequence ∧
      status.note header offset = { status with valid_records := status.valid_records + 1 }) := by
  unfold StoreStatus.note
  dsimp only
  split_ifs with hnewer
  · refine .inl ⟨fun hvalid => ?_, rfl⟩
    rw [hvalid, Bool.not_true, Bool.false_or, decide_eq_true_eq] at hnewer
    exact hnewer
  · rw [Bool.or_eq_true, not_or, Bool.not_eq_true', Bool.not_eq_false, decide_eq_true_eq,
      UInt32.not_lt] at hnewer
    exact .inr ⟨hnewer.1, hnewer.2, rfl⟩

inductive Reaches (file : List UInt8) : Nat → Prop where
  | start : Reaches file 0
  | skip {offset : Nat} (h : Reaches file offset) (hin : offset < file.length)
      (hno : ¬ HeaderAt file offset) : Reaches file (offset + 1)
  | record {offset : Nat} (h : Reaches file offset) (hheader : HeaderAt file offset)
      (hfits : endAt file offset ≤ file.length) : Reaches file (endAt file offset)

/-- No header the scan visits claims bytes beyond the end of the file. -/
def Settled (file : List UInt8) : Prop :=
  ∀ offset, Reaches file offset → HeaderAt file offset → endAt file offset ≤ file.length

structure Visible (file : List UInt8) (offset : Nat) : Prop where
  reached : Reaches file offset
  header : HeaderAt file offset
  fits : endAt file offset ≤ file.length
  complete : completeAt file offset = true

/-- The loop never fails, and what every visible record preserves holds of its result. -/
theorem scanLoop_invariant (P : StoreStatus → Prop)
    (hnote : ∀ offset status, Visible file offset → P status →
      P (status.note (headerAt file offset) (offset + kHeaderSize)))
    (offset : Nat) (status : StoreStatus) (hreach : Reaches file offset) (hP : P status) :
    ∃ status', scanLoop file offset none status = some status' ∧ P status' := by
  have := headerSize_trailerSize
  by_cases htail : file.length < offset + kHeaderSize + kTrailerSize
  · exact ⟨status, scanLoop_stop htail, hP⟩
  · by_cases hheader : HeaderAt file offset
    · by_cases hfits : endAt file offset ≤ file.length
      · have hnext : offset < endAt file offset := by
          have := lt_endAt file offset
          omega
        rw [scanLoop_record hheader hfits]
        refine scanLoop_invariant P hnote _ _ (hreach.record hheader hfits) ?_
        split_ifs with hcomplete
        · exact hnote offset status ⟨hreach, hheader, hfits, hcomplete⟩ hP
        · exact hP
      · exact ⟨status, scanLoop_torn (by omega) hheader (by omega), hP⟩
    · rw [scanLoop_skip (by omega) hheader]
      exact scanLoop_invariant P hnote _ _ (hreach.skip (by omega) hheader) hP
termination_by file.length - offset

theorem scan_sequence_le {bound : UInt32} {status : StoreStatus}
    (hbound : ∀ offset, Visible file offset → (headerAt file offset).sequence ≤ bound)
    (hscan : scan file = some status) : status.sequence ≤ bound := by
  obtain ⟨status', hstatus, hle⟩ := scanLoop_invariant (fun status => status.sequence ≤ bound)
    (fun offset status hvisible hle => by
      obtain ⟨-, hnote⟩ | ⟨-, -, hnote⟩ :=
        note_cases status (headerAt file offset) (offset + kHeaderSize)
      · rw [hnote]
        exact hbound offset hvisible
      · rw [hnote]
        exact hle) 0 {} .start (UInt32.zero_le)
  rw [scan, hstatus] at hscan
  cases hscan
  exact hle

theorem headerAt_append (h : offset + kHeaderSize ≤ l.length) :
    headerAt (l ++ r) offset = headerAt l offset := by
  unfold headerAt
  rw [window_append_left h]

theorem endAt_append (h : offset + kHeaderSize ≤ l.length) :
    endAt (l ++ r) offset = endAt l offset := by
  unfold endAt
  rw [headerAt_append h]

theorem HeaderAt_append (h : offset + kHeaderSize ≤ l.length) :
    HeaderAt (l ++ r) offset ↔ HeaderAt l offset := by
  unfold HeaderAt
  rw [window_append_left h, List.length_append]
  constructor
  · rintro ⟨-, hvalid⟩
    exact ⟨h, hvalid⟩
  · rintro ⟨-, hvalid⟩
    exact ⟨by omega, hvalid⟩

theorem completeAt_append (h : endAt l offset ≤ l.length) :
    completeAt (l ++ r) offset = completeAt l offset := by
  have hend : offset + kHeaderSize + (headerAt l offset).length.toNat + kTrailerSize =
    endAt l offset := rfl
  have hnew : endAt (l ++ r) offset ≤ (l ++ r).length := by
    rw [endAt_append (by omega), List.length_append]
    omega
  rw [completeAt_eq hnew, completeAt_eq h, headerAt_append (by omega),
    window_append_left (by omega), window_append_left (by omega)]

/-- The bytes of a complete commit. -/
def recordBytes (seq : UInt32) (payload : List UInt8) : List UInt8 :=
  ConfigStore.commitHeader seq payload ++ (payload ++ ConfigStore.commitTrailer seq)

def writtenHeader (seq : UInt32) (payload : List UInt8) : SlotHeader :=
  deserializeHeader (ConfigStore.commitHeader seq payload)

theorem commitHeader_length (seq : UInt32) (payload : List UInt8) :
    (ConfigStore.commitHeader seq payload).length = kHeaderSize := rfl

theorem recordBytes_length (seq : UInt32) (payload : List UInt8) :
    (recordBytes seq payload).length = kHeaderSize + payload.length + kTrailerSize := by
  simp only [recordBytes, List.length_append, commitHeader_length, ConfigStore.commitTrailer,
    putU32_length, headerSize_trailerSize]
  omega

theorem commitHeader_eq (seq : UInt32) (payload : List UInt8) :
    ConfigStore.commitHeader seq payload =
      putU32 kConfigMagic ++ (putU16 kConfigVersion ++ (putU32 seq ++
        (putU16 (UInt16.ofNat payload.length) ++ (putU16 (crc16 payload) ++
          putU16 (headerCrc (ConfigStore.commitHeader seq payload)))))) := rfl

theorem writtenHeader_eq (seq : UInt32) (payload : List UInt8) :
    writtenHeader seq payload =
      { magic := kConfigMagic, version := kConfigVersion, sequence := seq,
        length := UInt16.ofNat payload.length, payload_crc := crc16 payload,
        header_crc := headerCrc (ConfigStore.commitHeader seq payload) } := by
  have hbytes := commitHeader_eq seq payload
  unfold writtenHeader
  generalize headerCrc (ConfigStore.commitHeader seq payload) = crc at hbytes ⊢
  rw [hbytes]
  simp only [deserializeHeader, SlotHeader.mk.injEq]
  exact ⟨getU32_putU32 _, getU16_putU16 _, getU32_putU32 _, getU16_putU16 _, getU16_putU16 _,
    getU16_putU16_self _⟩

theorem writtenHeader_length {seq : UInt32} {payload : List UInt8}
    (hlen : payload.length ≤ kMaxPayload) :
    (writtenHeader seq payload).length.toNat = payload.length := by
  rw [writtenHeader_eq]
  refine UInt16.toNat_ofNat_of_lt ?_
  show payload.length < 65536
  simp only [kMaxPayload] at hlen
  omega

theorem headerValid_commitHeader {seq : UInt32} {payload : List UInt8}
    (hlen : payload.length ≤ kMaxPayload) :
    headerValid (ConfigStore.commitHeader seq payload) = true := by
  have hlength : (writtenHeader seq payload).length.toNat = payload.length :=
    writtenHeader_length hlen
  have hheader := writtenHeader_eq seq payload
  rw [hheader] at hlength
  unfold writtenHeader at hheader
  simp only [headerValid, hheader, hlength, BEq.rfl, decide_eq_true hlen, Bool.and_true]

theorem trailerValid_commitTrailer (seq : UInt32) (payload : List UInt8) :
    trailerValid (writtenHeader seq payload) (ConfigStore.commitTrailer seq) = true := by
  rw [writtenHeader_eq]
  simp only [trailerValid, ConfigStore.commitTrailer, getU32_putU32, BEq.rfl, Bool.true_and]
  exact beq_iff_eq.mpr (getU32_putU32_self seq)

section AppendRecord

variable {old payload : List UInt8} {seq : UInt32}

theorem window_recordBytes_header :
    window (old ++ recordBytes seq payload) old.length kHeaderSize =
      ConfigStore.commitHeader seq payload := by
  rw [window_append_self, recordBytes, ← commitHeader_length seq payload, List.take_left]

theorem headerAt_recordBytes :
    headerAt (old ++ recordBytes seq payload) old.length = writtenHeader seq payload := by
  unfold headerAt
  rw [window_recordBytes_header]
  rfl

theorem HeaderAt_recordBytes (hlen : payload.length ≤ kMaxPayload) :
    HeaderAt (old ++ recordBytes seq payload) old.length := by
  refine ⟨?_, ?_⟩
  · rw [List.length_append, recordBytes_length]
    omega
  · rw [window_recordBytes_header]
    exact headerValid_commitHeader hlen

theorem endAt_recordBytes (hlen : payload.length ≤ kMaxPayload) :
    endAt (old ++ recordBytes seq payload) old.length =
      (old ++ recordBytes seq payload).length := by
  unfold endAt recordEnd
  rw [headerAt_recordBytes, writtenHeader_length hlen, List.length_append, recordBytes_length]
  omega

theorem window_recordBytes_payload :
    window (old ++ recordBytes seq payload) (old.length + kHeaderSize) payload.length = payload := by
  rw [window_append_right, recordBytes, ← commitHeader_length seq payload, window_append_self,
    List.take_left]

theorem window_recordBytes_trailer :
    window (old ++ recordBytes seq payload) (old.length + kHeaderSize + payload.length)
      kTrailerSize = ConfigStore.commitTrailer seq := by
  have hassoc : old ++ recordBytes seq payload =
      (old ++ ConfigStore.commitHeader seq payload ++ payload) ++ ConfigStore.commitTrailer seq := by
    simp only [recordBytes, List.append_assoc]
  have hlength : old.length + kHeaderSize + payload.length =
      (old ++ ConfigStore.commitHeader seq payload ++ payload).length := by
    simp only [List.length_append, commitHeader_length]
  rw [hassoc, hlength, window_append_self]
  rfl

theorem completeAt_recordBytes (hlen : payload.length ≤ kMaxPayload) :
    completeAt (old ++ recordBytes seq payload) old.length = true := by
  rw [completeAt_eq (Nat.le_of_eq (endAt_recordBytes hlen)), headerAt_recordBytes,
    writtenHeader_length hlen, window_recordBytes_trailer, trailerValid_commitTrailer,
    Bool.and_true, window_recordBytes_payload, writtenHeader_eq]
  exact BEq.rfl

theorem scanLoop_recordBytes (hlen : payload.length ≤ kMaxPayload) :
    scanLoop (old ++ recordBytes seq payload) old.length none status =
      some (status.note (writtenHeader seq payload) (old.length + kHeaderSize)) := by
  have := headerSize_trailerSize
  rw [scanLoop_record (HeaderAt_recordBytes hlen) (Nat.le_of_eq (endAt_recordBytes hlen)),
    completeAt_recordBytes hlen, if_pos rfl, headerAt_recordBytes, endAt_recordBytes hlen,
    scanLoop_stop (by omega)]

theorem scanLoop_recordBytes_append (hlen : payload.length ≤ kMaxPayload) :
    scanLoop (old ++ recordBytes seq payload ++ r) old.length none status =
      scanLoop (old ++ recordBytes seq payload ++ r) (old ++ recordBytes seq payload).length none
        (status.note (writtenHeader seq payload) (old.length + kHeaderSize)) := by
  have hheader : HeaderAt (old ++ recordBytes seq payload) old.length := HeaderAt_recordBytes hlen
  have hend : endAt (old ++ recordBytes seq payload) old.length =
    (old ++ recordBytes seq payload).length := endAt_recordBytes hlen
  have hin := hheader.1
  have hend' : endAt (old ++ recordBytes seq payload ++ r) old.length =
      (old ++ recordBytes seq payload).length := by
    rw [endAt_append hin, hend]
  rw [scanLoop_record ((HeaderAt_append hin).mpr hheader), hend', headerAt_append hin,
    completeAt_append (Nat.le_of_eq hend), completeAt_recordBytes hlen, if_pos rfl,
    headerAt_recordBytes]
  rw [hend']
  exact (List.prefix_append _ r).length_le

def NoStraddle (old new : List UInt8) : Prop :=
  ∀ offset, offset < old.length → old.length < offset + kHeaderSize → ¬ HeaderAt new offset

/-- Near the end of a settled file there is no header, so the scan walks to what was appended. -/
theorem scanLoop_tail (offset : Nat) (hsettled : Settled old)
    (hstraddle : NoStraddle old (old ++ recordBytes seq payload)) (hreach : Reaches old offset)
    (hle : offset ≤ old.length) (htail : old.length < offset + kHeaderSize + kTrailerSize) :
    scanLoop (old ++ recordBytes seq payload) offset none status =
      scanLoop (old ++ recordBytes seq payload) old.length none status := by
  obtain hend | hlt := Nat.eq_or_lt_of_le hle
  · rw [hend]
  · have hold : ¬ HeaderAt old offset := fun hheader => by
      have := hsettled offset hreach hheader
      have := lt_endAt old offset
      omega
    have hnew : ¬ HeaderAt (old ++ recordBytes seq payload) offset := by
      by_cases hin : offset + kHeaderSize ≤ old.length
      · rwa [HeaderAt_append hin]
      · exact hstraddle offset hlt (by omega)
    rw [scanLoop_skip (by rw [List.length_append, recordBytes_length]; omega) hnew]
    exact scanLoop_tail _ hsettled hstraddle (hreach.skip hlt hold) hlt (by omega)
termination_by old.length - offset

theorem scanLoop_append (offset : Nat) (status : StoreStatus) (hsettled : Settled old)
    (hstraddle : NoStraddle old (old ++ recordBytes seq payload))
    (hlen : payload.length ≤ kMaxPayload) (hreach : Reaches old offset)
    (hle : offset ≤ old.length) :
    ∃ status', scanLoop old offset none status = some status' ∧
      scanLoop (old ++ recordBytes seq payload) offset none status =
        some (status'.note (writtenHeader seq payload) (old.length + kHeaderSize)) := by
  have := headerSize_trailerSize
  by_cases htail : old.length < offset + kHeaderSize + kTrailerSize
  · refine ⟨status, scanLoop_stop htail, ?_⟩
    rw [scanLoop_tail offset hsettled hstraddle hreach hle htail, scanLoop_recordBytes hlen]
  · have hin : offset + kHeaderSize ≤ old.length := by omega
    by_cases hheader : HeaderAt old offset
    · have hfits := hsettled offset hreach hheader
      have hnext : offset < endAt old offset := by
        have := lt_endAt old offset
        omega
      have hfits' : endAt (old ++ recordBytes seq payload) offset ≤
          (old ++ recordBytes seq payload).length := by
        rw [endAt_append hin, List.length_append]
        omega
      rw [scanLoop_record hheader hfits,
        scanLoop_record ((HeaderAt_append hin).mpr hheader) hfits', endAt_append hin,
        headerAt_append hin, completeAt_append hfits]
      exact scanLoop_append _ _ hsettled hstraddle hlen (hreach.record hheader hfits) hfits
    · have hskip : scanLoop (old ++ recordBytes seq payload) offset none status =
          scanLoop (old ++ recordBytes seq payload) (offset + 1) none status :=
        scanLoop_skip (by rw [List.length_append]; omega) (by rwa [HeaderAt_append hin])
      rw [scanLoop_skip (by omega) hheader, hskip]
      exact scanLoop_append _ _ hsettled hstraddle hlen (hreach.skip (by omega) hheader) (by omega)
termination_by old.length - offset

/-- Appending a complete record to a settled file notes that record and changes nothing else. -/
theorem scan_append (hsettled : Settled old)
    (hstraddle : NoStraddle old (old ++ recordBytes seq payload))
    (hlen : payload.length ≤ kMaxPayload) :
    ∃ status : StoreStatus, scan old = some (status.sized old.length) ∧
      scan (old ++ recordBytes seq payload) =
        some ((status.note (writtenHeader seq payload) (old.length + kHeaderSize)).sized
          (old ++ recordBytes seq payload).length) := by
  obtain ⟨status, hold, hnew⟩ :=
    scanLoop_append 0 {} hsettled hstraddle hlen .start (Nat.zero_le _)
  refine ⟨status, ?_, ?_⟩
  · rw [scan, hold, Option.map_some]
  · rw [scan, hnew, Option.map_some]

end AppendRecord

end HexapodVerified.Config
