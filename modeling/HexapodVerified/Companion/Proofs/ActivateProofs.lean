import HexapodVerified.Companion.Proofs.JournalEditProofs

/-!
# What an activation copies

The companion activates a record by encoding its configuration again. This gives the bytes of the record when
they are in the form the encoder writes, which no older schema is.
-/

namespace HexapodVerified.Companion

open HexapodVerified.Config HexapodVerified.Host Bytes Struct

variable {raw_text payload payload' : List UInt8} {record : JournalRecord} {journal : OpenLogConfigJournal}
  {seq seq' : UInt32} {config : Host.RobotConfig}

theorem ascii_of_decodeAscii {raw : List UInt8} (h : ∀ c ∈ (decodeAscii raw).toList, c.toNat < 128) :
    ∀ x ∈ raw, x < 128 := by
  intro x hx
  by_contra hbig
  unfold decodeAscii at h
  rw [String.toList_ofList] at h
  have hlt := h _ (List.mem_map_of_mem hx)
  rw [if_neg hbig] at hlt
  exact absurd hlt (by decide)

theorem of_encodeName_trimName {raw : List UInt8} (hlen : raw.length = ROBOT_NAME_LEN)
    (hname : encodeName (trimName raw) = .ok raw) :
    (∀ x ∈ raw, x < 128) ∧ 0 ∈ raw ∧ ZeroPadded raw := by
  obtain ⟨codes, hcodes, hraw⟩ := bind_eq_ok hname
  have hascii := ascii_of_decodeAscii (ascii_of_encodeAscii hcodes).1
  obtain rfl := Except.ok.inj ((encodeAscii_decodeAscii hascii).symm.trans hcodes)
  have hform : (raw.takeWhile (· != 0)).take (ROBOT_NAME_LEN - 1) ++ List.replicate
      (ROBOT_NAME_LEN - ((raw.takeWhile (· != 0)).take (ROBOT_NAME_LEN - 1)).length) 0 = raw :=
    Except.ok.inj hraw
  have hzero : 0 ∈ raw := by
    rw [← hform]
    refine List.mem_append_right _ (List.mem_replicate.mpr ⟨?_, rfl⟩)
    have hle := List.length_take_le (ROBOT_NAME_LEN - 1) (raw.takeWhile (· != 0))
    dsimp only [ROBOT_NAME_LEN] at hle ⊢
    omega
  have hshort := takeWhile_length_lt hzero
  rw [hlen] at hshort
  rw [List.take_of_length_le (Nat.le_sub_one_of_lt hshort), ← hlen] at hform
  refine ⟨fun x hx => ?_, hzero, hform.symm⟩
  rw [← hform] at hx
  rcases List.mem_append.mp hx with hx | hx
  · exact hascii x hx
  · rw [(List.mem_replicate.mp hx).2]
    decide

theorem name_of_decode (hdecode : decodeRobotConfig payload = .ok config) :
    config.robot_name = trimName (nameField payload) := by
  cases hread : Config.deserializeRobotConfig payload with
  | none =>
    obtain ⟨exc, hexc⟩ := decodeRobotConfig_of_none hread
    rw [hexc] at hdecode
    cases hdecode
  | some out =>
    obtain ⟨version, size, cfg, hsize, rfl, -⟩ := Config.of_deserialize_eq_some hread
    rw [decodeRobotConfig_schemaPayload hsize] at hdecode
    cases hdecode
    rw [nameField_schemaPayload]
    rfl

theorem recordBytes_inj (hlen : payload.length ≤ kMaxPayload) (hlen' : payload'.length ≤ kMaxPayload)
    (h : recordBytes seq payload = recordBytes seq' payload') : payload = payload' := by
  have hfirst := @recordPayload_recordBytes [] payload seq hlen
  have hsecond := @recordPayload_recordBytes [] payload' seq' hlen'
  rw [List.nil_append] at hfirst hsecond
  rw [← hfirst, h, hsecond]

theorem of_encodeRobotConfig (hvalid : Host.validateRobotConfig config = [])
    (hencode : encodeRobotConfig config = .ok payload) :
    Bytes.getU16 payload = kSchemaVersion ∧ (nameField payload).length = ROBOT_NAME_LEN ∧
      encodeName config.robot_name = .ok (nameField payload) := by
  obtain ⟨cfg, -, hname, -, -, -, rfl⟩ := exists_config_of_encode hvalid hencode
  rw [version_of_schemaPayload, nameField_schemaPayload]
  exact ⟨rfl, Vector.length_toList, hname⟩

theorem encode_of_decode (haccepted : Accepted payload) (hcurrent : Bytes.getU16 payload = kSchemaVersion)
    (hascii : ∀ x ∈ nameField payload, x < 128) (hzero : 0 ∈ nameField payload)
    (hpadded : ZeroPadded (nameField payload)) (hdecode : decodeRobotConfig payload = .ok config) :
    encodeRobotConfig config = .ok payload := by
  obtain ⟨out, hread, -⟩ := haccepted
  obtain ⟨version, size, cfg, hsize, rfl, hversion, -⟩ := Config.of_deserialize_eq_some hread
  rw [version_of_schemaPayload] at hcurrent
  rw [nameField_schemaPayload] at hascii hzero hpadded
  subst hcurrent
  have hterminated : NameTerminated cfg := get_last_of_zeroPadded hzero hpadded
  rw [decodeRobotConfig_schemaPayload hsize, readBack_current hversion hterminated] at hdecode
  cases hdecode
  rw [← payloadOf_eq hversion]
  exact encodeRobotConfig_hostConfig cfg (encodeName_trimName Vector.length_toList hascii hzero hpadded)

/-- The activation of a record appends its payload, byte by byte, with the next number. -/
def CopiesPayload (journal : OpenLogConfigJournal) (record : JournalRecord) : Prop :=
  ∃ sequence bytes, journal.next_sequence = .ok sequence ∧ packRecord sequence record.payload = some bytes ∧
    activateConfigRecord journal record = .ok (journal.raw_text ++ upperHex bytes)

/-- There is a next number, and the payload is of the current schema with a name field in ASCII that is
terminated and filled up with zeros. -/
structure Copyable (journal : OpenLogConfigJournal) (record : JournalRecord) : Prop where
  room : ∃ newest, journal.newest = .ok newest ∧ newest.sequence < 0xFFFFFFFF
  current : Bytes.getU16 record.payload = kSchemaVersion
  ascii : ∀ x ∈ nameField record.payload, x < 128
  terminated : 0 ∈ nameField record.payload
  padded : ZeroPadded (nameField record.payload)

theorem of_mem_records (hparse : parseOpenlogConfig raw_text = .ok journal) (hmem : record ∈ journal.records) :
    record.payload.length ≤ kMaxPayload ∧ decodeRobotConfig record.payload = .ok record.config ∧
      ∃ seq : UInt32, record.sequence = seq.toNat := by
  obtain ⟨-, -, rfl⟩ := parseOpenlogConfig_eq_ok.mp hparse
  obtain ⟨hcomplete, config, hdecode, hrecord⟩ := parseRecord_eq_some_iff.mp (of_mem_parseRecords 0 hmem).2
  have hheader := hcomplete.header.2
  simp only [headerValid, Bool.and_eq_true, decide_eq_true_eq] at hheader
  rw [hrecord]
  exact ⟨(List.length_take_le _ _).trans hheader.1.2, hdecode, _, rfl⟩

theorem newest_mem (hparse : parseOpenlogConfig raw_text = .ok journal) (hnewest : journal.newest = .ok record) :
    record ∈ journal.records := by
  obtain ⟨-, -, rfl⟩ := parseOpenlogConfig_eq_ok.mp hparse
  have hsorted := parseRecords_sorted (decodePairs raw_text) 0
  dsimp only at hnewest ⊢
  cases hrecords : parseRecords (decodePairs raw_text) 0 with
  | nil =>
    rw [hrecords] at hnewest
    cases hnewest
  | cons first rest =>
    rw [hrecords] at hnewest hsorted
    cases hnewest
    exact (maxBy_spec hsorted).1

theorem copyable_of_copies (hparse : parseOpenlogConfig raw_text = .ok journal) (hmem : record ∈ journal.records)
    (hcopies : CopiesPayload journal record) : Copyable journal record := by
  obtain ⟨hlen, hdecode, -⟩ := of_mem_records hparse hmem
  obtain ⟨sequence, bytes, hnext, hpack, hactivate⟩ := hcopies
  unfold activateConfigRecord at hactivate
  rw [if_neg (not_not.mpr hmem)] at hactivate
  obtain ⟨sequence', hnext', hrest⟩ := bind_eq_ok hactivate
  obtain rfl := Except.ok.inj (hnext.symm.trans hnext')
  obtain ⟨bytes', hbytes', htext⟩ := bind_eq_ok hrest
  obtain ⟨seq, payload, rfl, hvalid, hencode, hlen', rfl⟩ := of_encodeRecord hbytes'
  rw [packRecord_eq seq hlen] at hpack
  cases hpack
  -- the two texts are the same, and so are the bytes and the payloads
  have hhex := List.append_cancel_left (Except.ok.inj htext)
  rw [upperHex_eq, upperHex_eq] at hhex
  have hbytes := congrArg decodePairs hhex
  rw [decodePairs_encode, decodePairs_encode] at hbytes
  obtain rfl := recordBytes_inj hlen' hlen hbytes
  obtain ⟨hcurrent, hnameLen, hname⟩ := of_encodeRobotConfig hvalid hencode
  obtain ⟨newest, hnewest, hnumber⟩ := bind_eq_ok hnext
  have hsequence : newest.sequence + 1 = seq.toNat := Except.ok.inj hnumber
  have hseq := seq.toNat_lt
  rw [name_of_decode hdecode] at hname
  obtain ⟨hascii, hzero, hpadded⟩ := of_encodeName_trimName hnameLen hname
  exact ⟨⟨newest, hnewest, by omega⟩, hcurrent, hascii, hzero, hpadded⟩

/-- Activating a record that the controller accepts appends exactly its payload if and only if there is a next
number and the payload is in the form of the encoder. -/
theorem activate_copies_iff (hparse : parseOpenlogConfig raw_text = .ok journal)
    (hmem : record ∈ journal.records) (haccepted : Accepted record.payload) :
    CopiesPayload journal record ↔ Copyable journal record := by
  constructor
  · exact copyable_of_copies hparse hmem
  · rintro ⟨⟨newest, hnewest, hroom⟩, hcurrent, hascii, hzero, hpadded⟩
    obtain ⟨hlen, hdecode, -⟩ := of_mem_records hparse hmem
    obtain ⟨-, -, seq, hseq⟩ := of_mem_records hparse (newest_mem hparse hnewest)
    obtain ⟨next, hnext⟩ := exists_u32 (v := newest.sequence + 1) ⟨by omega, by omega⟩
    have hsequence : journal.next_sequence = .ok (next.toNat : Int) := by
      unfold OpenLogConfigJournal.next_sequence
      rw [hnewest]
      exact congrArg Except.ok hnext.symm
    obtain ⟨config, hdecode', hvalid⟩ := valid_of_accepted hzero haccepted
    obtain rfl := Except.ok.inj (hdecode.symm.trans hdecode')
    have hencode := encode_of_decode haccepted hcurrent hascii hzero hpadded hdecode
    refine ⟨next.toNat, recordBytes next record.payload, hsequence, packRecord_eq next hlen, ?_⟩
    unfold activateConfigRecord
    rw [if_neg (not_not.mpr hmem)]
    exact appendConfigRecord_ok hsequence hvalid hencode hlen

/-- The default configuration in the schema before the current one. -/
def legacyPayload : List UInt8 := schemaPayload kLegacySchemaVersionV8 defaultRobotConfig

def legacyRecord : JournalRecord := writtenRecord 1 legacyPayload hostDefault 0

theorem migrate_default :
    migrate kLegacySchemaVersionV8 (readBack kLegacySchemaVersionV8 defaultRobotConfig) = defaultRobotConfig := by
  rfl

theorem parse_legacy : parseOpenlogConfig (singleJournal 1 legacyPayload hostDefault).raw_text =
    .ok (singleJournal 1 legacyPayload hostDefault) := by
  have hlen : legacyPayload.length ≤ kMaxPayload := by
    rw [legacyPayload, length_schemaPayload rfl]
    decide
  refine parse_singleJournal hlen ?_
  rw [legacyPayload, decodeRobotConfig_schemaPayload rfl, migrate_default]
  rfl

theorem accepted_legacy : Accepted legacyRecord.payload :=
  ⟨_, (deserialize_schemaPayload rfl _).trans (congrArg some migrate_default), validate_defaultRobotConfig⟩

/-- The first of two records is copied behind them; a record of an older schema is not copied. -/
theorem activate_copies_iff_older :
    CopiesPayload twoRecords (writtenRecord 1 defaultPayload hostDefault 0) ∧
      ¬ CopiesPayload (singleJournal 1 legacyPayload hostDefault) legacyRecord := by
  constructor
  · obtain ⟨hascii, hzero, hversion, hpadded⟩ := nameField_default
    exact (activate_copies_iff parse_twoRecords (List.mem_append_left _ List.mem_cons_self)
      ⟨defaultRobotConfig, deserialize_payloadOf rfl (by decide), validate_defaultRobotConfig⟩).mpr
      ⟨⟨secondRecord, rfl, by decide⟩, hversion, hascii, hzero, hpadded⟩
  · intro hcopies
    have hcopyable := (activate_copies_iff parse_legacy List.mem_cons_self accepted_legacy).mp hcopies
    exact nomatch version_of_schemaPayload.symm.trans hcopyable.current

/-- A record of an older schema is accepted, and its activation appends other bytes. -/
theorem activate_migrates : ¬ ∀ raw_text journal record, parseOpenlogConfig raw_text = .ok journal →
    record ∈ journal.records → Accepted record.payload → CopiesPayload journal record := by
  intro h
  have hmem : legacyRecord ∈ (singleJournal 1 legacyPayload hostDefault).records := List.mem_cons_self
  have hcopyable := copyable_of_copies parse_legacy hmem (h _ _ _ parse_legacy hmem accepted_legacy)
  exact nomatch version_of_schemaPayload.symm.trans hcopyable.current

end HexapodVerified.Companion
