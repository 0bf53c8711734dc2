import HexapodVerified.Companion.Proofs.OpenlogParseProofs

/-!
# The companion on the card

An edit on the companion writes the record that the controller would write, and its payload can be decoded
again. A step either leaves the text alone, or it writes a record or a first part of one behind it, or it
cuts a record out.
-/

namespace HexapodVerified.Companion

open HexapodVerified.Config HexapodVerified.Host Struct Transition QwiicConfigFile Bytes

section

variable {bytes payload raw_text : List UInt8} {record : JournalRecord} {config : Host.RobotConfig}
  {card : ConfigCard} {journal : OpenLogConfigJournal} {seq latest : UInt32} {sequence : Int}
  {cut : Option Nat} {n : Nat}

theorem packRecord_eq (seq : UInt32) (hlen : payload.length ≤ kMaxPayload) :
    packRecord seq.toNat payload = some (recordBytes seq payload) := by
  have hlength : ((UInt16.ofNat payload.length).toNat : Int) = payload.length := by
    rw [UInt16.toNat_ofNat_of_lt' (by dsimp only [UInt16.size, kMaxPayload] at *; omega)]
  have hheader : packFields [(.I, CONFIG_MAGIC), (.H, CONFIG_VERSION), (.I, (seq.toNat : Int)),
      (.H, (payload.length : Int)), (.H, (crc16 payload : Int)), (.H, 0)] =
      some (serializeHeader { magic := kConfigMagic, version := kConfigVersion, sequence := seq
                              length := UInt16.ofNat payload.length
                              payload_crc := Protocol.crc16 payload }) := by
    rw [← hlength, crc16_eq]
    exact packFields_cons (pack_I kConfigMagic) <| packFields_cons (pack_H kConfigVersion) <|
      packFields_cons (pack_I seq) <| packFields_cons (pack_H _) <| packFields_cons (pack_H _) <|
      packFields_last (pack_H 0)
  have htrailer : packFields [(.I, COMMIT_MAGIC), (.I, (seq.toNat : Int))] =
      some (ConfigStore.commitTrailer seq) :=
    packFields_cons (pack_I kCommitMagic) (packFields_last (pack_I seq))
  unfold packRecord
  rw [hheader, htrailer, Option.bind_eq_bind, Option.bind_some, crc16_eq, pack_H]
  rfl

theorem of_encodeRecord (h : encodeRecord config sequence = .ok bytes) :
    ∃ seq : UInt32, ∃ payload, sequence = seq.toNat ∧ Host.validateRobotConfig config = [] ∧
      encodeRobotConfig config = .ok payload ∧ payload.length ≤ kMaxPayload ∧
      bytes = recordBytes seq payload := by
  unfold encodeRecord at h
  by_cases hrange : 0 ≤ sequence ∧ sequence ≤ 0xFFFFFFFF
  case neg =>
    rw [if_pos hrange] at h
    cases h
  rw [if_neg (not_not.mpr hrange)] at h
  obtain ⟨seq, rfl⟩ := exists_u32 hrange
  cases hvalid : Host.validateRobotConfig config with
  | cons error errors =>
    rw [hvalid] at h
    cases h
  | nil =>
    rw [hvalid] at h
    cases hencode : encodeRobotConfig config with
    | error exc =>
      rw [hencode] at h
      cases h
    | ok payload =>
      rw [hencode] at h
      dsimp only at h
      by_cases hlong : payload.length > MAX_PAYLOAD_SIZE
      · rw [if_pos hlong] at h
        cases h
      have hlen : payload.length ≤ kMaxPayload := Nat.not_lt.mp hlong
      rw [if_neg hlong, packRecord_eq seq hlen] at h
      cases h
      exact ⟨seq, payload, rfl, rfl, rfl, hlen, rfl⟩

theorem ascii_of_encodeAscii {name : String} {codes : List UInt8} (h : encodeAscii name = .ok codes) :
    (∀ c ∈ name.toList, c.toNat < 128) ∧ codes = name.toList.map fun c => UInt8.ofNat c.toNat := by
  unfold encodeAscii at h
  by_cases hall : (name.toList.all fun c => c.toNat < 128) = true
  · rw [if_pos hall] at h
    exact ⟨fun c hc => of_decide_eq_true (List.all_eq_true.mp hall c hc), (Except.ok.inj h).symm⟩
  · rw [if_neg hall] at h
    cases h

theorem exists_config_of_encode (hvalid : Host.validateRobotConfig config = [])
    (hencode : encodeRobotConfig config = .ok payload) :
    ∃ cfg : Config.RobotConfig, hostConfig config.robot_name cfg = config ∧
      encodeName config.robot_name = .ok cfg.robot_name.toList ∧ Config.NameTerminated cfg ∧
      asciiLength config.robot_name < ROBOT_NAME_LEN ∧ cfg.schema_version = kSchemaVersion ∧
      payload = schemaPayload kSchemaVersion cfg := by
  have hascii : ∀ c ∈ config.robot_name.toList, c.toNat < 128 := by
    have h := hencode
    obtain ⟨_, -, h⟩ := bind_eq_ok h
    obtain ⟨raw, hraw, -⟩ := bind_eq_ok h
    obtain ⟨codes, hcodes, -⟩ := bind_eq_ok hraw
    exact (ascii_of_encodeAscii hcodes).1
  obtain ⟨cfg, hconfig, hname, hterminated⟩ := exists_hostConfig hascii hvalid (fits_of_encode hencode)
  have hpayload := encodeRobotConfig_hostConfig cfg hname
  rw [hconfig, hencode] at hpayload
  rw [← hconfig] at hvalid
  obtain ⟨hshort, hvalid⟩ := (validateRobotConfig_hostConfig cfg).mp hvalid
  have hschema := Config.schema_of_valid hvalid
  exact ⟨cfg, hconfig, hname, hterminated, hshort, hschema,
    (Except.ok.inj hpayload).trans (Config.payloadOf_eq hschema)⟩

theorem decodes_of_encode (hvalid : Host.validateRobotConfig config = [])
    (hencode : encodeRobotConfig config = .ok payload) : Decodes payload := by
  obtain ⟨cfg, -, -, -, -, -, rfl⟩ := exists_config_of_encode hvalid hencode
  exact ⟨_, decodeRobotConfig_schemaPayload rfl cfg⟩

theorem encodeRecord_eq (hvalid : Host.validateRobotConfig config = [])
    (hencode : encodeRobotConfig config = .ok payload) (hlen : payload.length ≤ kMaxPayload) :
    encodeRecord config seq.toNat = .ok (recordBytes seq payload) := by
  have hseq := seq.toNat_lt
  unfold encodeRecord
  rw [if_neg (not_not.mpr ⟨by omega, by omega⟩), hvalid, hencode]
  dsimp only
  rw [if_neg (Nat.not_lt.mpr hlen), packRecord_eq seq hlen]

theorem appendConfigRecord_ok (hnext : journal.next_sequence = .ok (seq.toNat : Int))
    (hvalid : Host.validateRobotConfig config = []) (hencode : encodeRobotConfig config = .ok payload)
    (hlen : payload.length ≤ kMaxPayload) :
    appendConfigRecord journal config = .ok (journal.raw_text ++ upperHex (recordBytes seq payload)) := by
  unfold appendConfigRecord
  rw [hnext]
  show encodeRecord config seq.toNat >>= _ = _
  rw [encodeRecord_eq hvalid hencode hlen]
  rfl

/-- The bytes on the card. -/
def ConfigCard.fileBytes (card : ConfigCard) : List UInt8 := QwiicConfigFile.decode card.file.chars

theorem fileBytes_of_holds (hholds : Holds card.file bytes) : card.fileBytes = bytes := by
  unfold ConfigCard.fileBytes
  rw [hholds, decode_encode]

def written (cut : Option Nat) (record : List UInt8) : List UInt8 :=
  match cut with
  | none => record
  | some n => record.take n

def Whole (cut : Option Nat) (payload : List UInt8) : Prop :=
  ∀ n ∈ cut, kHeaderSize + payload.length + kTrailerSize ≤ n

theorem written_of_whole (hwhole : Whole cut payload) :
    written cut (recordBytes seq payload) = recordBytes seq payload := by
  cases cut with
  | none => rfl
  | some n =>
    refine List.take_of_length_le ?_
    rw [recordBytes_length]
    exact hwhole n rfl

inductive Appends (journal : OpenLogConfigJournal) : CardCall → Host.RobotConfig → Prop where
  | append (config : Host.RobotConfig) : Appends journal (.append config) config
  | activate {record : JournalRecord} (hmem : record ∈ journal.records) :
      Appends journal (.activate record) record.config

/-- A step writes the record of this number and payload, up to the cut. -/
inductive Writes (card : ConfigCard) : CardCall → UInt32 → List UInt8 → Option Nat → Prop where
  | commit {payload : List UInt8} {cut : Option Nat} {latest : UInt32}
      (hlen : payload.length ≤ kMaxPayload)
      (hlatest : card.store.latest? card.fileBytes = some latest) :
      Writes card (.commit payload cut) (latest + 1) payload cut
  | edit {c : CardCall} {journal : OpenLogConfigJournal} {config : Host.RobotConfig} {seq : UInt32}
      {payload : List UInt8} (hparse : parseOpenlogConfig card.file.chars = .ok journal)
      (hconfig : Appends journal c config) (hnext : journal.next_sequence = .ok (seq.toNat : Int))
      (hvalid : Host.validateRobotConfig config = [])
      (hencode : encodeRobotConfig config = .ok payload) (hlen : payload.length ≤ kMaxPayload) :
      Writes card c seq payload none

theorem Writes.length_le {c : CardCall} (h : Writes card c seq payload cut) :
    payload.length ≤ kMaxPayload := by
  cases h with
  | commit hlen => exact hlen
  | edit _ _ _ _ _ hlen => exact hlen

theorem Writes.of_commit {body : List UInt8} {n? : Option Nat}
    (h : Writes card (.commit body n?) seq payload cut)
    (hlatest : card.store.latest? card.fileBytes = some latest) :
    seq = latest + 1 ∧ payload = body ∧ cut = n? := by
  cases h with
  | commit _ hlatest' =>
    obtain rfl := Option.some.inj (hlatest'.symm.trans hlatest)
    exact ⟨rfl, rfl, rfl⟩
  | edit _ hconfig => cases hconfig

inductive Outcome (card : ConfigCard) (c : CardCall) : ConfigCard × CardResult → Prop where
  | kept {card' : ConfigCard} {result : CardResult} (hfile : card'.file = card.file)
      (hresult : result ≠ .written) : Outcome card c (card', result)
  | writes {card' : ConfigCard} {result : CardResult} {seq : UInt32} {payload : List UInt8}
      {cut : Option Nat} (hwrites : Writes card c seq payload cut)
      (hholds : Holds card'.file (card.fileBytes ++ written cut (recordBytes seq payload))) :
      Outcome card c (card', result)
  | deletes {card' : ConfigCard} {result : CardResult} {journal : OpenLogConfigJournal}
      {record : JournalRecord} (hcall : c = .delete record)
      (hparse : parseOpenlogConfig card.file.chars = .ok journal) (hmem : record ∈ journal.records)
      (hholds : Holds card'.file
        (card.fileBytes.take record.offset ++ card.fileBytes.drop record.end_offset)) :
      Outcome card c (card', result)

theorem file_commit (hholds : Holds card.file bytes) (hlen : payload.length ≤ kMaxPayload)
    (hlatest : card.store.latest? bytes = some latest) (room : Card) :
    (card.serve (.commit payload room)).1.file =
      some (card.file.chars ++ room.taken (encode (recordBytes (latest + 1) payload))) := by
  unfold ConfigCard.serve ConfigFile.call
  dsimp only
  rw [hholds.reads.commit hlen hlatest, text_appendRecord_eq]

theorem file_commit_of_long (hlong : ¬ payload.length ≤ kMaxPayload) (room : Card) :
    (card.serve (.commit payload room)).1.file = card.file := by
  unfold ConfigCard.serve ConfigFile.call
  dsimp only
  rw [ConfigFile.commit_of_long _ _ _ _ hlong]

theorem holds_append {text : TextFile} {old new : List UInt8} (hold : Holds text old) :
    Holds (some (text.chars ++ encode new)) (old ++ new) := by
  show text.chars ++ encode new = encode (old ++ new)
  rw [hold, encode_append]

theorem holds_commit (hholds : Holds card.file bytes) (hlen : payload.length ≤ kMaxPayload)
    (hlatest : card.store.latest? bytes = some latest) (cut : Option Nat) :
    Holds (card.call (.commit payload cut)).1.file
      (bytes ++ written cut (recordBytes (latest + 1) payload)) := by
  cases cut with
  | none =>
    show Holds (card.serve (.commit payload {})).1.file _
    rw [file_commit hholds hlen hlatest]
    exact holds_append hholds
  | some n =>
    show Holds (card.serve (.commit payload { room := some (2 * n) })).1.file _
    rw [file_commit hholds hlen hlatest]
    show Holds (some (card.file.chars ++ (encode _).take (2 * n))) _
    rw [encode_take]
    exact holds_append hholds

theorem append_written (hparse : parseOpenlogConfig card.file.chars = .ok journal)
    (happend : appendConfigRecord journal config = .ok raw_text) :
    (card.call (.append config)).2 = .written := by
  have hchange : (parseOpenlogConfig card.file.chars >>= fun journal => appendConfigRecord journal config) =
      .ok raw_text := by
    rw [hparse]
    exact happend
  show (card.edit fun journal => appendConfigRecord journal config).2 = .written
  unfold ConfigCard.edit
  rw [hchange]

theorem holds_commit_whole (hholds : Holds card.file bytes) (hlen : payload.length ≤ kMaxPayload)
    (hlatest : card.store.latest? bytes = some latest) (hseq : latest + 1 = seq) :
    Holds (card.call (.commit payload none)).1.file (bytes ++ recordBytes seq payload) := by
  rw [← hseq]
  exact holds_commit hholds hlen hlatest none

theorem outcome_commit (hholds : Holds card.file card.fileBytes) (payload : List UInt8)
    (cut : Option Nat) : Outcome card (.commit payload cut) (card.call (.commit payload cut)) := by
  obtain ⟨latest, hlatest⟩ := latest?_isSome card.store card.fileBytes
  by_cases hlen : payload.length ≤ kMaxPayload
  · exact .writes (.commit hlen hlatest) (holds_commit hholds hlen hlatest cut)
  · cases cut with
    | none => exact .kept (file_commit_of_long hlen _) nofun
    | some n => exact .kept (file_commit_of_long hlen _) nofun

theorem edit_cases (change : OpenLogConfigJournal → Except CardError (List UInt8)) :
    (∃ exc, card.edit change = (card, .raised exc)) ∨
      ∃ journal raw_text, parseOpenlogConfig card.file.chars = .ok journal ∧
        change journal = .ok raw_text ∧
        card.edit change = ({ card with file := some raw_text }, .written) := by
  unfold ConfigCard.edit
  cases hparse : parseOpenlogConfig card.file.chars with
  | error exc => exact .inl ⟨exc, rfl⟩
  | ok journal =>
    have hbind : (Except.ok journal >>= change) = change journal := rfl
    rw [hbind]
    cases hchange : change journal with
    | error exc => exact .inl ⟨exc, rfl⟩
    | ok raw_text => exact .inr ⟨journal, raw_text, rfl, hchange, rfl⟩

theorem of_parseOpenlogConfig (hholds : Holds card.file bytes)
    (hparse : parseOpenlogConfig card.file.chars = .ok journal) :
    journal = ⟨encode bytes, bytes, parseRecords bytes 0⟩ := by
  rw [hholds, parseOpenlogConfig_encode] at hparse
  split_ifs at hparse
  cases hparse
  rfl

theorem writes_of_append {c : CardCall} (hholds : Holds card.file card.fileBytes)
    (hparse : parseOpenlogConfig card.file.chars = .ok journal) (hconfig : Appends journal c config)
    (happend : appendConfigRecord journal config = .ok raw_text) :
    ∃ seq payload, Writes card c seq payload none ∧
      Holds (some raw_text) (card.fileBytes ++ written none (recordBytes seq payload)) := by
  obtain ⟨sequence, hnext, hrest⟩ := bind_eq_ok happend
  obtain ⟨record, hrecord, htext⟩ := bind_eq_ok hrest
  obtain ⟨seq, payload, rfl, hvalid, hencode, hlen, rfl⟩ := of_encodeRecord hrecord
  refine ⟨seq, payload, .edit hparse hconfig hnext hvalid hencode hlen, ?_⟩
  obtain rfl := of_parseOpenlogConfig hholds hparse
  obtain rfl := Except.ok.inj htext
  show encode card.fileBytes ++ upperHex _ = encode _
  rw [upperHex_eq, encode_append]
  rfl

theorem holds_of_delete (hholds : Holds card.file card.fileBytes)
    (hparse : parseOpenlogConfig card.file.chars = .ok journal)
    (hdelete : deleteConfigRecord journal record = .ok raw_text) :
    record ∈ journal.records ∧
      Holds (some raw_text)
        (card.fileBytes.take record.offset ++ card.fileBytes.drop record.end_offset) := by
  unfold deleteConfigRecord at hdelete
  by_cases hmem : record ∈ journal.records
  case neg =>
    rw [if_pos hmem] at hdelete
    cases hdelete
  refine ⟨hmem, ?_⟩
  rw [if_neg (not_not.mpr hmem)] at hdelete
  by_cases hone : journal.records.length ≤ 1
  · rw [if_pos hone] at hdelete
    cases hdelete
  rw [if_neg hone] at hdelete
  by_cases hrange : record.offset * 2 < record.end_offset * 2 ∧
      record.end_offset * 2 ≤ journal.raw_text.length
  case neg =>
    rw [if_pos hrange] at hdelete
    cases hdelete
  rw [if_neg (not_not.mpr hrange)] at hdelete
  obtain ⟨parsed, -, htext⟩ := bind_eq_ok hdelete
  obtain rfl := of_parseOpenlogConfig hholds hparse
  obtain rfl := Except.ok.inj htext
  show (encode card.fileBytes).take (record.offset * 2) ++
    (encode card.fileBytes).drop (record.end_offset * 2) = encode _
  rw [Nat.mul_comm record.offset, Nat.mul_comm record.end_offset, encode_take, encode_drop, encode_append]

theorem outcome_call (hholds : Holds card.file card.fileBytes) (c : CardCall) :
    Outcome card c (card.call c) := by
  cases c with
  | commit payload cut => exact outcome_commit hholds payload cut
  | load max_len => exact .kept rfl nofun
  | reopen => exact .kept rfl nofun
  | append config =>
    unfold ConfigCard.call
    dsimp only
    obtain ⟨exc, heq⟩ | ⟨journal, raw_text, hparse, hchange, heq⟩ :=
      @edit_cases card fun journal => appendConfigRecord journal config
    · rw [heq]
      exact .kept rfl nofun
    · obtain ⟨seq, payload, hwrites, htext⟩ := writes_of_append hholds hparse (.append config) hchange
      rw [heq]
      exact .writes hwrites htext
  | activate record =>
    unfold ConfigCard.call
    dsimp only
    obtain ⟨exc, heq⟩ | ⟨journal, raw_text, hparse, hchange, heq⟩ :=
      @edit_cases card fun journal => activateConfigRecord journal record
    · rw [heq]
      exact .kept rfl nofun
    · unfold activateConfigRecord at hchange
      by_cases hmem : record ∈ journal.records
      case neg =>
        rw [if_pos hmem] at hchange
        cases hchange
      rw [if_neg (not_not.mpr hmem)] at hchange
      obtain ⟨seq, payload, hwrites, htext⟩ := writes_of_append hholds hparse (.activate hmem) hchange
      rw [heq]
      exact .writes hwrites htext
  | delete record =>
    unfold ConfigCard.call
    dsimp only
    obtain ⟨exc, heq⟩ | ⟨journal, raw_text, hparse, hchange, heq⟩ :=
      @edit_cases card fun journal => deleteConfigRecord journal record
    · rw [heq]
      exact .kept rfl nofun
    · obtain ⟨hmem, htext⟩ := holds_of_delete hholds hparse hchange
      rw [heq]
      exact .deletes rfl hparse hmem htext

end

/-!
## The companion and the controller on one card

The companion takes the newest of all complete records, the controller the newest of those its scan visits.
The two agree on a sound file. They disagree when a whole record is written behind a torn header: the
controller jumps over the bytes that header claims, and the new record with them.
-/

section

variable {bytes old payload : List UInt8} {record : JournalRecord} {config : Host.RobotConfig}
  {card : ConfigCard} {journal : OpenLogConfigJournal} {seq : UInt32} {cut : Option Nat}
  {h : List CardEvent} {e : CardEvent}

/-- The controller loads what the companion shows as the newest record. -/
def Agree (card : ConfigCard) : Prop :=
  ∀ journal, parseOpenlogConfig card.file.chars = .ok journal →
    ∃ newest, journal.newest = .ok newest ∧ ∀ max_len, newest.payload.length ≤ max_len →
      (QwiicConfigFile.file.load card.file card.store max_len).2 = some newest.payload

/-- Right after an append the controller loads the configuration that was appended. -/
def LoadsAppended (e : CardEvent) : Prop :=
  ∀ config, e.label = (.append config, .written) →
    ∃ payload, encodeRobotConfig config = .ok payload ∧ ∀ max_len, payload.length ≤ max_len →
      (QwiicConfigFile.file.load e.post.file e.post.store max_len).2 = some payload

/-- What a write needs of the bytes it finds. A part of a record must not complete another one; a whole
record must find a settled file and complete no other record. -/
structure CleanWrite (old : List UInt8) (seq : UInt32) (payload : List UInt8) (cut : Option Nat) :
    Prop where
  torn : ¬ Whole cut payload →
    ∀ offset, Complete (old ++ written cut (recordBytes seq payload)) offset → Complete old offset
  settled : Whole cut payload → Settled old
  straddle : Whole cut payload → NoStraddle old (old ++ recordBytes seq payload)
  alone : Whole cut payload → ∀ offset, Complete (old ++ recordBytes seq payload) offset →
    offset ≠ old.length → Complete old offset

/-- Where no header crosses the end of the old bytes, and the record has no other header in it. -/
theorem CleanWrite.of_headers
    (hold : ∀ offset < old.length, HeaderAt (old ++ recordBytes seq payload) offset → Complete old offset)
    (hown : ∀ k, HeaderAt (recordBytes seq payload) k → k = 0) : CleanWrite old seq payload none where
  torn htorn := absurd nofun htorn
  settled _ offset _ h := by
    have hlt : offset < old.length := Nat.lt_of_lt_of_le (by dsimp only [kHeaderSize]; omega) h.1
    exact (hold offset hlt ((HeaderAt_append h.1).mpr h)).fits
  straddle _ offset hlt hbeyond h := by
    have hin := (hold offset hlt h).header.1
    omega
  alone _ offset h hne := by
    by_cases hlt : offset < old.length
    · exact hold offset hlt h.header
    · obtain ⟨k, rfl⟩ := Nat.exists_eq_add_of_le (Nat.not_lt.mp hlt)
      rw [hown k (HeaderAt_append_right.mp h.header), Nat.add_zero] at hne
      exact absurd rfl hne

/-- What a delete needs of the bytes it finds: no header appears at the seam, and no record in front of
it becomes complete. -/
structure CleanDelete (old : List UInt8) (record : JournalRecord) : Prop where
  straddle : NoStraddle (old.take record.offset)
    (old.take record.offset ++ old.drop record.end_offset)
  alone : ∀ offset, offset < record.offset →
    Complete (old.take record.offset ++ old.drop record.end_offset) offset → Complete old offset

/-- The condition on a step: what the controller commits can be decoded by the companion, and what is
written or deleted hides no record and completes none by chance. -/
structure CleanStep (e : CardEvent) : Prop where
  write : ∀ seq payload cut, Writes e.pre e.label.1 seq payload cut →
    CleanWrite e.pre.fileBytes seq payload cut
  readable : ∀ payload cut, e.label.1 = .commit payload cut → Whole cut payload → Decodes payload
  delete : ∀ journal record, parseOpenlogConfig e.pre.file.chars = .ok journal →
    record ∈ journal.records → e.label.1 = .delete record → CleanDelete e.pre.fileBytes record

/-- The text encodes whole bytes, and these are a sound file. -/
structure SoundCard (card : ConfigCard) : Prop where
  holds : Holds card.file card.fileBytes
  sound : Sound Decodes card.fileBytes

theorem soundCard_of_holds (hholds : Holds card.file bytes) (hsound : Sound Decodes bytes) :
    SoundCard card := by
  have hbytes := fileBytes_of_holds hholds
  exact ⟨hbytes ▸ hholds, hbytes ▸ hsound⟩

theorem Sound.write (hsound : Sound Decodes old) (hclean : CleanWrite old seq payload cut)
    (hlen : payload.length ≤ kMaxPayload) (hreadable : Whole cut payload → Decodes payload) :
    Sound Decodes (old ++ written cut (recordBytes seq payload)) := by
  by_cases hwhole : Whole cut payload
  · rw [written_of_whole hwhole]
    exact hsound.append_record (hclean.settled hwhole) (hclean.straddle hwhole) hlen (hreadable hwhole)
      (hclean.alone hwhole)
  · exact hsound.append (hclean.torn hwhole)

theorem Sound.delete (hsound : Sound Decodes old)
    (hrecord : parseRecord old record.offset = some record) (hclean : CleanDelete old record) :
    Sound Decodes (old.take record.offset ++ old.drop record.end_offset) := by
  obtain ⟨hcomplete, -⟩ := parseRecord_eq_some_iff.mp hrecord
  have hend := end_offset_of_parseRecord hrecord
  have hlt := lt_end_offset hrecord
  have hfits := hcomplete.fits
  have ha : (old.take record.offset).length = record.offset := by
    rw [List.length_take]
    omega
  have hm : (old.take record.offset ++
      window old record.offset (record.end_offset - record.offset)).length = record.end_offset := by
    rw [List.length_append, ha, window_length (by omega)]
    omega
  have htake : old.take record.offset ++
      window old record.offset (record.end_offset - record.offset) = old.take record.end_offset := by
    unfold window
    rw [← List.take_add, Nat.add_sub_cancel' (Nat.le_of_lt hlt)]
  have hsplit : old.take record.offset ++
      window old record.offset (record.end_offset - record.offset) ++ old.drop record.end_offset = old := by
    rw [htake, List.take_append_drop]
  refine Sound.cut (m := window old record.offset (record.end_offset - record.offset)) ?_ ?_ ?_
    hclean.straddle fun offset hlt' h => ?_
  · rwa [hsplit]
  · rwa [hsplit, ha]
  · rw [hsplit, ha, hm, hend]
  · rw [ha] at hlt'
    rw [hsplit]
    exact hclean.alone offset hlt' h

theorem soundCard_step {card card' : ConfigCard} {c : CardCall} {result : CardResult}
    (hcard : SoundCard card) (hstep : card.call c = (card', result))
    (hclean : CleanStep ⟨card, (c, result), card'⟩) : SoundCard card' := by
  have houtcome := outcome_call hcard.holds c
  rw [hstep] at houtcome
  cases houtcome with
  | kept hfile =>
    have hholds := hcard.holds
    rw [← hfile] at hholds
    exact soundCard_of_holds hholds hcard.sound
  | @writes _ _ seq payload cut hwrites hholds =>
    refine soundCard_of_holds hholds
      (Sound.write hcard.sound (hclean.write seq payload cut hwrites) hwrites.length_le fun hwhole => ?_)
    cases hwrites with
    | commit => exact hclean.readable payload cut rfl hwhole
    | edit _ _ _ hvalid hencode => exact decodes_of_encode hvalid hencode
  | @deletes _ _ journal record hcall hparse hmem hholds =>
    have hjournal := of_parseOpenlogConfig hcard.holds hparse
    rw [hjournal] at hmem
    have hrecord := (of_mem_parseRecords 0 hmem).2
    refine soundCard_of_holds hholds (Sound.delete hcard.sound hrecord ?_)
    exact hclean.delete journal record hparse (by rw [hjournal]; exact hmem) hcall

theorem load_card (hholds : Holds card.file bytes) {offset max_len : Nat} (hnewest : Newest bytes offset)
    (hfits : (recordPayload bytes offset).length ≤ max_len) :
    (QwiicConfigFile.file.load card.file card.store max_len).2 = some (recordPayload bytes offset) := by
  rw [hholds.reads.load]
  exact load_of_newest hnewest card.store hfits

theorem agree_of_sound (hcard : SoundCard card) : Agree card := by
  intro journal hparse
  rw [hcard.holds] at hparse
  obtain ⟨offset, config, hnewest, hboth⟩ := newest_of_sound hcard.sound hparse
  exact ⟨_, hnewest, fun max_len hfits => load_card hcard.holds hboth hfits⟩

theorem newest_appended (hsound : Sound Decodes old) (hclean : CleanWrite old seq payload none)
    (hlen : payload.length ≤ kMaxPayload)
    (habove : ∀ offset, Visible old offset → (headerAt old offset).sequence < seq) :
    Newest (old ++ recordBytes seq payload) old.length := by
  have hwhole : Whole none payload := nofun
  have hbelow : ∀ other, Visible (old ++ recordBytes seq payload) other → other ≠ old.length →
      (headerAt (old ++ recordBytes seq payload) other).sequence < seq := by
    intro other hother hne
    have hcomplete := hclean.alone hwhole other hother.toComplete hne
    rw [headerAt_append hcomplete.header.1]
    exact habove other (hcomplete.visible (hsound.reached other hcomplete))
  have hown : (headerAt (old ++ recordBytes seq payload) old.length).sequence = seq := by
    rw [headerAt_recordBytes, writtenHeader_eq]
  refine ⟨visible_recordBytes (hclean.settled hwhole) (hclean.straddle hwhole) hlen, ?_, ?_⟩
  · intro other hother
    rw [hown]
    by_cases hne : other = old.length
    · rw [hne, hown]
      exact UInt32.le_refl seq
    · exact UInt32.le_of_lt (hbelow other hother hne)
  · intro other hother heq
    by_contra hlt
    have hne : other ≠ old.length := fun hother' => hlt hother'.ge
    exact UInt32.lt_irrefl _ ((heq.trans hown) ▸ hbelow other hother hne)

theorem loadsAppended_step {card card' : ConfigCard} {c : CardCall} {result : CardResult}
    (hcard : SoundCard card) (hstep : card.call c = (card', result))
    (hclean : CleanStep ⟨card, (c, result), card'⟩) : LoadsAppended ⟨card, (c, result), card'⟩ := by
  rintro config ⟨⟩
  have houtcome := outcome_call hcard.holds (.append config)
  rw [hstep] at houtcome
  cases houtcome with
  | kept _ hresult => exact absurd rfl hresult
  | deletes hcall => cases hcall
  | @writes _ _ seq payload cut hwrites hholds =>
    have hwrite := hclean.write seq payload cut hwrites
    cases hwrites with
    | edit hparse hconfig hnext hvalid hencode hlen =>
    cases hconfig
    refine ⟨payload, hencode, fun max_len hfits => ?_⟩
    rw [hcard.holds] at hparse
    obtain ⟨offset, config', hnewest, hboth⟩ := newest_of_sound hcard.sound hparse
    have hnumber : seq.toNat = (headerAt card.fileBytes offset).sequence.toNat + 1 := by
      unfold OpenLogConfigJournal.next_sequence at hnext
      rw [hnewest] at hnext
      have hvalue := Except.ok.inj hnext
      exact Int.ofNat_inj.mp hvalue.symm
    have happended := newest_appended hcard.sound hwrite hlen fun other hother => by
      have hle := UInt32.le_iff_toNat_le.mp (hboth.highest other hother)
      rw [UInt32.lt_iff_toNat_lt]
      omega
    have hpayload :
        recordPayload (card.fileBytes ++ recordBytes seq payload) card.fileBytes.length = payload :=
      recordPayload_recordBytes hlen
    have htext : Holds card'.file (card.fileBytes ++ recordBytes seq payload) := hholds
    have hload := load_card htext happended (hpayload.symm ▸ hfits)
    rwa [hpayload] at hload

/-- In every run of clean steps the companion and the controller agree on the active configuration, and the
controller loads what was appended last. -/
theorem card_agreement (run : CardRun h card) (hclean : ∀ e ∈ h, CleanStep e) :
    Agree card ∧ ∀ e ∈ h, LoadsAppended e := by
  have hall := run.history_invariant (fun h card => (∀ e ∈ h, CleanStep e) →
    SoundCard card ∧ ∀ e ∈ h, LoadsAppended e) ?_ ?_ hclean
  · exact ⟨agree_of_sound hall.1, hall.2⟩
  · exact fun _ => ⟨soundCard_of_holds (show Holds none [] from rfl) .nil,
      fun e he => absurd he List.not_mem_nil⟩
  · rintro h card ⟨c, result⟩ card' - ih hstep hclean
    obtain ⟨hnow, hbefore⟩ := List.forall_mem_cons.mp hclean
    obtain ⟨hcard, hloads⟩ := ih hbefore
    exact ⟨soundCard_step hcard hstep hnow,
      List.forall_mem_cons.mpr ⟨loadsAppended_step hcard hstep hnow, hloads⟩⟩

def hostDefault : Host.RobotConfig :=
  hostConfig (trimName defaultRobotConfig.robot_name.toList) defaultRobotConfig

theorem decode_default : decodeRobotConfig defaultPayload = .ok hostDefault := by
  rw [defaultPayload, payloadOf_eq rfl, decodeRobotConfig_schemaPayload rfl, readBack_current rfl (by decide)]
  rfl

theorem hostDefault_valid : Host.validateRobotConfig hostDefault = [] := by
  refine (validateRobotConfig_hostConfig _).mpr ⟨?_, validate_defaultRobotConfig⟩
  obtain ⟨-, hzero, -⟩ := nameField_default
  rw [defaultPayload, payloadOf_eq rfl, nameField_schemaPayload] at hzero
  have hshort := takeWhile_length_lt hzero
  rw [Vector.length_toList] at hshort
  rw [asciiLength, trimName, decodeAscii, String.toList_ofList]
  refine Nat.lt_of_le_of_lt (List.length_filter_le ..) ?_
  rwa [List.length_map]

theorem hostDefault_encode : encodeRobotConfig hostDefault = .ok defaultPayload := by
  obtain ⟨hascii, hzero, -, hpadded⟩ := nameField_default
  rw [defaultPayload, payloadOf_eq rfl, nameField_schemaPayload] at hascii hzero hpadded
  exact encodeRobotConfig_hostConfig _ (encodeName_trimName Vector.length_toList hascii hzero hpadded)

theorem decodes_default : Decodes defaultPayload := ⟨_, decode_default⟩

theorem length_default : defaultPayload.length ≤ kMaxPayload := by
  rw [length_payloadOf]
  decide

/-- The record of the default configuration. -/
abbrev defaultRecord (seq : UInt32) : List UInt8 := recordBytes seq defaultPayload

theorem bytes_of_headerAt {offset : Nat} (h : HeaderAt bytes offset) :
    bytes[offset]? = some 0x43 ∧ bytes[offset + 1]? = some 0x58 ∧ bytes[offset + 4]? = some 1 ∧
      bytes[offset + 5]? = some 0 := by
  obtain ⟨hin, hvalid⟩ := h
  have hlength : (window bytes offset kHeaderSize).length = 16 := window_length hin
  have hget (i : Nat) (hi : i < 16) : bytes[offset + i]? = (window bytes offset kHeaderSize)[i]? := by
    rw [window, List.getElem?_take_of_lt hi, List.getElem?_drop]
  generalize window bytes offset kHeaderSize = raw at *
  simp only [headerValid, deserializeHeader, Bool.and_eq_true, beq_iff_eq] at hvalid
  obtain ⟨⟨⟨hmagic, hversion⟩, -⟩, -⟩ := hvalid
  have hfirst := (Codec.law_u32.get_eq.mp (getU32_of_length (show 4 ≤ raw.length by omega))).2
  have hsecond := (Codec.law_u16.get_eq.mp
    (Config.getU16_of_length (show 2 ≤ (raw.drop 4).length by rw [List.length_drop]; omega))).2
  rw [hmagic, hsecond, hversion] at hfirst
  rw [← Nat.add_zero offset, hget 0 (by decide), Nat.add_zero, hget 1 (by decide), hget 4 (by decide),
    hget 5 (by decide), hfirst]
  exact ⟨rfl, rfl, rfl, rfl⟩

/-- What a commit leaves that the card stops behind three bytes. -/
def brokenBytes : List UInt8 := (defaultRecord 1).take 3

/-- No header starts in the payload, none in the first bytes of the header but itself, and none in the last bytes of
the record. -/
theorem noMagic_default : (defaultPayload.IsChain fun a b => a = 0x43 → b ≠ 0x58) ∧
    ∀ n ∈ [1, 2],
      (∀ o < 12, (ConfigStore.commitHeader (.ofNat n) defaultPayload)[o]? = some 0x43 →
        (ConfigStore.commitHeader (.ofNat n) defaultPayload)[o + 1]? = some 0x58 → o = 0) ∧
      ∀ k < kHeaderSize, (defaultRecord (.ofNat n))[kConfigPayloadSize + kTrailerSize + k]? = some 0x43 →
        k + 1 < kHeaderSize ∧
          (defaultRecord (.ofNat n))[kConfigPayloadSize + kTrailerSize + (k + 1)]? ≠ some 0x58 := by
  decide +kernel

/-- The bytes after a commit that was cut off behind its header, and the same commit again. -/
def repeatedBytes (seq : UInt32) (payload : List UInt8) : List UInt8 :=
  ConfigStore.commitHeader seq payload ++ recordBytes seq payload

/-- No header version stands where a header of the checksum bytes or of the broken bytes would have it, and no
trailer where the header that was cut off would have it. -/
theorem noVersion_default :
    (∀ n ∈ [1, 2], ∀ o ∈ [12, 13, 14, 15],
      (defaultRecord (.ofNat n))[o + 4]? = some 1 → (defaultRecord (.ofNat n))[o + 5]? ≠ some 0) ∧
    (∀ o < 3, (brokenBytes ++ defaultRecord 1)[o]? = some 0x43 →
      (brokenBytes ++ defaultRecord 1)[o + 4]? ≠ some 1) ∧
    (∀ o ∈ [12, 13, 14, 15], (repeatedBytes 1 defaultPayload)[o + 4]? = some 1 →
      (repeatedBytes 1 defaultPayload)[o + 5]? ≠ some 0) ∧
    Bytes.getU32 (window (repeatedBytes 1 defaultPayload) (0 + kHeaderSize + kConfigPayloadSize) kTrailerSize) ≠
      kCommitMagic := by
  decide +kernel

/-- Nothing else in the first header looks like a header, by its first two bytes or by its version. -/
theorem eq_zero_of_headerAt {rest : List UInt8} {offset : Nat} (hseq : seq.toNat ∈ [1, 2])
    (h : HeaderAt (ConfigStore.commitHeader seq defaultPayload ++ rest) offset) (hlt : offset < 16)
    (hversion : ∀ o ∈ [12, 13, 14, 15],
      (ConfigStore.commitHeader seq defaultPayload ++ rest)[o + 4]? = some 1 →
        (ConfigStore.commitHeader seq defaultPayload ++ rest)[o + 5]? ≠ some 0) : offset = 0 := by
  obtain ⟨h0, h1, h4, h5⟩ := bytes_of_headerAt h
  by_cases hcrc : offset < 12
  · have hlen : (ConfigStore.commitHeader seq defaultPayload).length = 16 := commitHeader_length _ _
    rw [List.getElem?_append_left (by omega)] at h0 h1
    have hearly := (noMagic_default.2 seq.toNat hseq).1
    rw [UInt32.ofNat_toNat] at hearly
    exact hearly offset hcrc h0 h1
  · have hmem : offset ∈ [12, 13, 14, 15] := by
      simp only [List.mem_cons, List.not_mem_nil, or_false]
      omega
    exact absurd h5 (hversion offset hmem h4)

/-- In the record of the default configuration, whatever follows it, only its own header passes the test. -/
theorem eq_zero_of_headerAt_default {rest : List UInt8} {offset : Nat} (hseq : seq.toNat ∈ [1, 2])
    (h : HeaderAt (defaultRecord seq ++ rest) offset)
    (hlt : offset < (defaultRecord seq).length) : offset = 0 := by
  have hlength : (defaultRecord seq).length =
      kHeaderSize + kConfigPayloadSize + kTrailerSize := by
    rw [recordBytes_length, length_payloadOf]
  obtain ⟨h0, h1, -⟩ := bytes_of_headerAt h
  rw [List.getElem?_append_left hlt] at h0
  by_cases hin : offset + kHeaderSize ≤ (defaultRecord seq).length
  · rw [HeaderAt_append hin] at h
    rw [List.getElem?_append_left (by dsimp only [kHeaderSize] at hin; omega)] at h1
    by_cases hlate : 16 ≤ offset
    · obtain ⟨k, rfl⟩ := Nat.exists_eq_add_of_le hlate
      have hk : k + 1 < defaultPayload.length := by
        rw [length_payloadOf]
        simp only [hlength, kHeaderSize, kTrailerSize] at hin
        omega
      have hbytes (i : Nat) (hi : i < defaultPayload.length) :
          (defaultRecord seq)[16 + i]? =
            some defaultPayload[i] := by
        unfold defaultRecord recordBytes
        have hlen : (ConfigStore.commitHeader seq defaultPayload).length = 16 :=
          commitHeader_length _ _
        rw [← hlen, List.getElem?_append_right (by omega), Nat.add_sub_cancel_left,
          List.getElem?_append_left hi, List.getElem?_eq_getElem hi]
      rw [hbytes k (by omega), Option.some.injEq] at h0
      rw [Nat.add_assoc, hbytes (k + 1) hk, Option.some.injEq] at h1
      exact absurd h1 (noMagic_default.1.getElem k hk h0)
    · have hversion := noVersion_default.1 seq.toNat hseq
      rw [UInt32.ofNat_toNat] at hversion
      exact eq_zero_of_headerAt hseq h (Nat.not_le.mp hlate) hversion
  · rw [hlength] at hin hlt
    obtain ⟨k, rfl⟩ := Nat.exists_eq_add_of_le (show kConfigPayloadSize + kTrailerSize ≤ offset by omega)
    have htail := (noMagic_default.2 seq.toNat hseq).2
    rw [UInt32.ofNat_toNat] at htail
    obtain ⟨hnext, hne⟩ := htail k (by omega) h0
    rw [Nat.add_assoc, List.getElem?_append_left (by omega)] at h1
    exact absurd h1 hne

theorem eq_zero_of_headerAt_own {offset : Nat} (hseq : seq.toNat ∈ [1, 2])
    (h : HeaderAt (defaultRecord seq) offset) : offset = 0 := by
  have hin := h.1
  dsimp only [kHeaderSize] at hin
  rw [← List.append_nil (defaultRecord seq)] at h
  exact eq_zero_of_headerAt_default hseq h (by omega)

def defaultCommit (cut : Option Nat) : CardCall := .commit defaultPayload cut

def noCard : ConfigCard := { file := none }

theorem latest?_noCard : noCard.store.latest? noCard.fileBytes = some 0 := by
  show (scan []).map StoreStatus.sequence = some 0
  rw [scan, scanLoop_stop (by decide)]
  rfl

theorem holds_defaultCommit (cut : Option Nat) : Holds (noCard.call (defaultCommit cut)).1.file
    (written cut (defaultRecord 1)) :=
  holds_commit (show Holds noCard.file [] from rfl) length_default latest?_noCard cut

theorem length_brokenBytes : brokenBytes.length = 3 := by
  have := headerSize_trailerSize
  unfold brokenBytes
  rw [List.length_take, recordBytes_length]
  omega

theorem not_headerAt_brokenBytes {offset : Nat} : ¬ HeaderAt brokenBytes offset := by
  intro h
  have hin : offset + 16 ≤ brokenBytes.length := h.1
  rw [length_brokenBytes] at hin
  omega

/-- Behind the three bytes, the first header is that of the record. -/
theorem headerAt_broken {rest : List UInt8} {offset : Nat}
    (h : HeaderAt (brokenBytes ++ (defaultRecord 1 ++ rest)) offset)
    (hlt : offset < brokenBytes.length + (defaultRecord 1).length) :
    offset = brokenBytes.length := by
  by_cases hfirst : brokenBytes.length ≤ offset
  · obtain ⟨k, rfl⟩ := Nat.exists_eq_add_of_le hfirst
    rw [HeaderAt_append_right] at h
    rw [eq_zero_of_headerAt_default (.head _) h (by omega), Nat.add_zero]
  · have hlength : (defaultRecord 1).length = _ := recordBytes_length 1 _
    have := headerSize_trailerSize
    rw [length_brokenBytes] at hfirst
    obtain ⟨h0, -, h4, -⟩ := bytes_of_headerAt h
    rw [← List.append_assoc, List.getElem?_append_left (by rw [List.length_append]; omega)] at h0 h4
    exact absurd h4 (noVersion_default.2.1 offset (by omega) h0)

theorem cleanWrite_first : CleanWrite brokenBytes 1 defaultPayload none := by
  refine .of_headers (fun offset hlt h => ?_) fun k => eq_zero_of_headerAt_own (.head _)
  rw [← List.append_nil (recordBytes 1 _)] at h
  exact absurd (headerAt_broken h (by omega)) (Nat.ne_of_lt hlt)

theorem cleanWrite_second : CleanWrite (brokenBytes ++ defaultRecord 1) 2
    defaultPayload none := by
  refine .of_headers (fun offset hlt h => ?_) fun k => eq_zero_of_headerAt_own (.tail _ (.head _))
  rw [List.append_assoc] at h
  rw [List.length_append] at hlt
  rw [headerAt_broken h hlt]
  exact complete_recordBytes length_default

theorem sound_first : Sound Decodes (brokenBytes ++ defaultRecord 1) := by
  have hbroken : Sound Decodes brokenBytes :=
    ⟨fun _ h => absurd h.header not_headerAt_brokenBytes, fun _ h => absurd h.header not_headerAt_brokenBytes⟩
  have hwhole : Whole none defaultPayload := nofun
  have hfirst := Sound.write hbroken cleanWrite_first length_default fun _ => decodes_default
  rwa [written_of_whole hwhole] at hfirst

theorem next_first
    (hparse : parseOpenlogConfig (QwiicConfigFile.encode
      (brokenBytes ++ defaultRecord 1)) = .ok journal) :
    journal.next_sequence = .ok ((2 : UInt32).toNat : Int) := by
  obtain ⟨offset, config, hnewest, hboth⟩ := newest_of_sound sound_first hparse
  have hheader := hboth.visible.header
  have hin := hheader.1
  rw [List.length_append] at hin
  dsimp only [kHeaderSize] at hin
  rw [← List.append_nil (defaultRecord 1)] at hheader
  obtain rfl := headerAt_broken hheader (by omega)
  have hsequence : (headerAt (brokenBytes ++ defaultRecord 1)
      brokenBytes.length).sequence = 1 := by
    rw [headerAt_recordBytes, writtenHeader_eq]
  unfold OpenLogConfigJournal.next_sequence
  rw [hnewest]
  show Except.ok (((headerAt _ _).sequence.toNat : Int) + 1) = _
  rw [hsequence]
  rfl

theorem cleanStep_broken {result : CardResult} {card' : ConfigCard} :
    CleanStep ⟨noCard, (defaultCommit (some 3), result), card'⟩ where
  write := by
    intro seq payload cut hwrites
    obtain ⟨rfl, rfl, rfl⟩ := hwrites.of_commit latest?_noCard
    have htorn : ¬ Whole (some 3) defaultPayload := fun hwhole => by
      have hle := hwhole 3 rfl
      dsimp only [kHeaderSize] at hle
      omega
    exact ⟨fun _ offset h => absurd h.header not_headerAt_brokenBytes, fun h => absurd h htorn,
      fun h => absurd h htorn, fun h => absurd h htorn⟩
  readable := by
    rintro payload cut ⟨⟩ -
    exact decodes_default
  delete := by
    rintro journal record - - ⟨⟩

theorem cleanStep_first {result : CardResult} {card' : ConfigCard} (hholds : Holds card.file brokenBytes)
    (hlatest : card.store.latest? brokenBytes = some 0) :
    CleanStep ⟨card, (defaultCommit none, result), card'⟩ where
  write := by
    intro seq payload cut hwrites
    have hbytes := fileBytes_of_holds hholds
    rw [← hbytes] at hlatest
    obtain ⟨hseq, rfl, rfl⟩ := hwrites.of_commit hlatest
    obtain rfl : seq = 1 := hseq
    rw [hbytes]
    exact cleanWrite_first
  readable := by
    rintro payload cut ⟨⟩ -
    exact decodes_default
  delete := by
    rintro journal record - - ⟨⟩

theorem cleanStep_second {result : CardResult} {card' : ConfigCard}
    (hholds : Holds card.file (brokenBytes ++ defaultRecord 1)) :
    CleanStep ⟨card, (.append hostDefault, result), card'⟩ where
  write := by
    intro seq payload cut hwrites
    cases hwrites with
    | edit hparse hconfig hnext hvalid hencode hlen =>
    cases hconfig
    obtain rfl := Except.ok.inj (hostDefault_encode.symm.trans hencode)
    rw [hholds] at hparse
    have hseq := Except.ok.inj ((next_first hparse).symm.trans hnext)
    obtain rfl := UInt32.toNat_inj.mp (Int.ofNat_inj.mp hseq)
    rw [fileBytes_of_holds hholds]
    exact cleanWrite_second
  readable := by
    rintro payload cut ⟨⟩
  delete := by
    rintro journal record - - ⟨⟩

theorem holds_brokenBytes : Holds (noCard.call (defaultCommit (some 3))).1.file brokenBytes := by
  exact holds_defaultCommit (some 3)

theorem holds_first (hholds : Holds card.file brokenBytes)
    (hlatest : card.store.latest? brokenBytes = some 0) :
    Holds (card.call (defaultCommit none)).1.file
      (brokenBytes ++ defaultRecord 1) := by
  exact holds_commit_whole hholds length_default hlatest rfl

theorem append_first
    (hholds : Holds card.file (brokenBytes ++ defaultRecord 1)) :
    (card.call (.append hostDefault)).2 = .written := by
  have hcomplete : Complete (brokenBytes ++ defaultRecord 1)
      brokenBytes.length :=
    complete_recordBytes length_default
  obtain ⟨config, hmem⟩ := mem_parseRecords_of_visible sound_first
    (hcomplete.visible (sound_first.reached _ hcomplete))
  obtain ⟨journal, hparse⟩ : ∃ journal, parseOpenlogConfig (QwiicConfigFile.encode
      (brokenBytes ++ defaultRecord 1)) = .ok journal :=
    ⟨_, parseOpenlogConfig_encode.trans (if_neg (List.ne_nil_of_mem hmem))⟩
  have hnext := next_first hparse
  rw [← hholds] at hparse
  exact append_written hparse (appendConfigRecord_ok hnext hostDefault_valid hostDefault_encode
    length_default)

/-- A commit that the card stops behind three bytes, the same one again, and an append on the companion. -/
theorem card_agreement_appended : ∃ h card, CardRun h card ∧ Agree card ∧
    (∃ e ∈ h, e.label = (.append hostDefault, .written)) ∧ ∀ e ∈ h, LoadsAppended e := by
  have hlatest : (noCard.call (defaultCommit (some 3))).1.store.latest? brokenBytes = some 0 := by
    show (scan brokenBytes).map StoreStatus.sequence = some 0
    rw [scan, scanLoop_stop (by rw [length_brokenBytes]; decide)]
    rfl
  have hbroken := (show CardRun [] noCard from .nil).input (defaultCommit (some 3))
  have hfirst := hbroken.input (defaultCommit none)
  have hrun := hfirst.input (.append hostDefault)
  have hholds := holds_first holds_brokenBytes hlatest
  have hresult : (CardCall.append hostDefault, (((noCard.call (defaultCommit (some 3))).1.call
      (defaultCommit none)).1.call (.append hostDefault)).2) = (.append hostDefault, .written) := by
    rw [append_first hholds]
  obtain ⟨hagree, hloads⟩ := card_agreement hrun (List.forall_mem_cons.mpr ⟨cleanStep_second hholds,
    List.forall_mem_cons.mpr ⟨cleanStep_first holds_brokenBytes hlatest,
      List.forall_mem_singleton.mpr cleanStep_broken⟩⟩)
  exact ⟨_, _, hrun, hagree, ⟨_, List.mem_cons_self, hresult⟩, hloads⟩

def OnlyWrittenHeaders (h : List CardEvent) (card : ConfigCard) : Prop :=
  ∀ offset, HeaderAt card.fileBytes offset → ∃ e ∈ h, ∃ seq payload cut,
    Writes e.pre e.label.1 seq payload cut ∧
      window card.fileBytes offset kHeaderSize = ConfigStore.commitHeader seq payload

def NoWrap (h : List CardEvent) : Prop :=
  ∀ e ∈ h, ∀ seq payload cut, Writes e.pre e.label.1 seq payload cut → seq ≠ 0

def TwoHeaders (bytes : List UInt8) : Prop :=
  ∀ offset, HeaderAt bytes offset → offset = 0 ∨ offset = kHeaderSize

theorem headerAt_repeatedBytes :
    window (repeatedBytes seq payload) 0 kHeaderSize = ConfigStore.commitHeader seq payload := by
  rw [repeatedBytes, ← commitHeader_length seq payload, window_append_left (by omega)]
  exact List.take_length

/-- The torn header claims the bytes of the record behind it, and its own trailer is not there. -/
theorem not_visible_repeatedBytes {offset : Nat} (hlen : payload.length ≤ kMaxPayload)
    (hheaders : TwoHeaders (repeatedBytes seq payload))
    (htrailer : Bytes.getU32 (window (repeatedBytes seq payload) (0 + kHeaderSize + payload.length)
      kTrailerSize) ≠ kCommitMagic) : ¬ Visible (repeatedBytes seq payload) offset := by
  intro h
  have hheader : headerAt (repeatedBytes seq payload) 0 = writtenHeader seq payload := by
    unfold headerAt
    rw [headerAt_repeatedBytes]
    rfl
  have hlength : (headerAt (repeatedBytes seq payload) 0).length.toNat = payload.length := by
    rw [hheader, writtenHeader_length hlen]
  obtain rfl | rfl := hheaders offset h.header
  · have hcomplete := h.complete
    unfold completeAt trailerValid at hcomplete
    simp only [Bool.and_eq_true, beq_iff_eq, hlength] at hcomplete
    exact htrailer hcomplete.2.1
  · have hin : 0 + kHeaderSize ≤ (repeatedBytes seq payload).length := by
      rw [repeatedBytes, List.length_append, commitHeader_length]
      omega
    have hzero : HeaderAt (repeatedBytes seq payload) 0 := by
      refine ⟨hin, ?_⟩
      rw [headerAt_repeatedBytes]
      exact headerValid_commitHeader hlen
    have hle := Reaches.start.endAt_le hzero h.reached (by decide)
    have hlt := lt_endAt (repeatedBytes seq payload) 0
    have := headerSize_trailerSize
    omega

theorem mem_parseRecords_repeatedBytes (hlen : payload.length ≤ kMaxPayload) (hdecodes : Decodes payload)
    (hheaders : TwoHeaders (repeatedBytes seq payload))
    (hnone : ∀ offset, ¬ Visible (repeatedBytes seq payload) offset) :
    ∃ record, record ∈ parseRecords (repeatedBytes seq payload) 0 := by
  obtain ⟨config, hdecode⟩ := hdecodes
  have hcomplete : Complete (repeatedBytes seq payload) kHeaderSize := by
    rw [repeatedBytes, ← commitHeader_length seq payload]
    exact complete_recordBytes hlen
  have hpayload : recordPayload (repeatedBytes seq payload) kHeaderSize = payload := by
    rw [repeatedBytes, ← commitHeader_length seq payload]
    exact recordPayload_recordBytes hlen
  refine ⟨recordAt (repeatedBytes seq payload) kHeaderSize config,
    mem_parseRecords 0 (parseRecord_eq_some_iff.mpr ⟨hcomplete, config, ?_, rfl⟩) (Nat.zero_le _)
      fun other r hr hlt => ?_⟩
  · rw [hpayload, hdecode]
  · obtain ⟨hother, -⟩ := parseRecord_eq_some_iff.mp hr
    obtain rfl | rfl := hheaders other hother.header
    · exact absurd (hother.visible .start) (hnone 0)
    · exact absurd hlt (Nat.lt_irrefl _)

theorem twoHeaders_default : TwoHeaders (repeatedBytes 1 defaultPayload) := by
  intro offset h
  by_cases hlate : kHeaderSize ≤ offset
  · obtain ⟨k, rfl⟩ := Nat.exists_eq_add_of_le hlate
    rw [repeatedBytes, ← commitHeader_length 1 defaultPayload, HeaderAt_append_right] at h
    exact .inr (by rw [eq_zero_of_headerAt_own (.head _) h])
  · exact .inl (eq_zero_of_headerAt (.head _) h (Nat.not_le.mp hlate) noVersion_default.2.2.1)

theorem not_visible_default {offset : Nat} :
    ¬ Visible (repeatedBytes 1 defaultPayload) offset := by
  refine not_visible_repeatedBytes length_default twoHeaders_default ?_
  rw [length_payloadOf]
  exact noVersion_default.2.2.2

def tornCard : ConfigCard := (noCard.call (defaultCommit (some 16))).1

theorem holds_tornCard :
    Holds tornCard.file (ConfigStore.commitHeader 1 defaultPayload) :=
  holds_defaultCommit (some 16)

theorem latest?_tornCard : tornCard.store.latest? tornCard.fileBytes = some 0 := by
  rw [fileBytes_of_holds holds_tornCard]
  show (scan (ConfigStore.commitHeader 1 defaultPayload)).map
    StoreStatus.sequence = some 0
  rw [scan, scanLoop_stop (by rw [commitHeader_length]; decide)]
  rfl

def repeatedCard : ConfigCard := (tornCard.call (defaultCommit none)).1

theorem holds_repeatedCard :
    Holds repeatedCard.file (repeatedBytes 1 defaultPayload) := by
  have hlatest := latest?_tornCard
  rw [fileBytes_of_holds holds_tornCard] at hlatest
  unfold repeatedCard defaultCommit
  exact holds_commit_whole holds_tornCard length_default hlatest rfl

def repeatedHistory : List CardEvent :=
  [⟨tornCard, (defaultCommit none, (tornCard.call (defaultCommit none)).2), repeatedCard⟩,
    ⟨noCard, (defaultCommit (some 16), (noCard.call (defaultCommit (some 16))).2), tornCard⟩]

theorem repeatedHistory_run : CardRun repeatedHistory repeatedCard :=
  (Run.nil.input (defaultCommit (some 16))).input (defaultCommit none)

theorem repeatedHistory_headers : OnlyWrittenHeaders repeatedHistory repeatedCard := by
  have hwrites : Writes tornCard (defaultCommit none) 1 defaultPayload none :=
    .commit length_default latest?_tornCard
  intro offset hheader
  rw [fileBytes_of_holds holds_repeatedCard] at hheader ⊢
  refine ⟨_, List.mem_cons_self, 1, _, _, hwrites, ?_⟩
  obtain rfl | rfl := twoHeaders_default offset hheader
  · exact headerAt_repeatedBytes
  · exact window_recordBytes_header

theorem repeatedHistory_noWrap : NoWrap repeatedHistory := by
  intro e he seq payload cut hwrites
  obtain rfl | he := List.mem_cons.mp he
  · obtain ⟨rfl, -, -⟩ := hwrites.of_commit latest?_tornCard
    decide
  · obtain rfl := List.mem_singleton.mp he
    obtain ⟨rfl, -, -⟩ := hwrites.of_commit latest?_noCard
    decide

/-- The controller does not find a record that was written behind a torn one, and the companion shows it. -/
theorem card_disagreement : ¬ ∀ (h : List CardEvent) (card : ConfigCard), CardRun h card →
    OnlyWrittenHeaders h card → NoWrap h → Agree card ∧ ∀ e ∈ h, LoadsAppended e := by
  intro hall
  have hagree := (hall repeatedHistory repeatedCard repeatedHistory_run repeatedHistory_headers
    repeatedHistory_noWrap).1
  obtain ⟨record, hmem⟩ := mem_parseRecords_repeatedBytes length_default decodes_default
    twoHeaders_default fun _ => not_visible_default
  have hparse : parseOpenlogConfig repeatedCard.file.chars = _ :=
    holds_repeatedCard ▸ parseOpenlogConfig_encode
  rw [if_neg (List.ne_nil_of_mem hmem)] at hparse
  obtain ⟨newest, -, hload⟩ := hagree _ hparse
  have hsome := hload _ (Nat.le_refl _)
  rw [holds_repeatedCard.reads.load] at hsome
  obtain ⟨offset, hnewest, -⟩ := (load_eq_some_iff repeatedCard.store
    (repeatedBytes 1 defaultPayload) newest.payload.length).mp
      (hsome ▸ Option.some_ne_none _)
  exact not_visible_default hnewest.visible

end

end HexapodVerified.Companion
