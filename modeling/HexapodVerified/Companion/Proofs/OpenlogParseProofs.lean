import HexapodVerified.Companion.OpenlogConfig
import HexapodVerified.Config.Proofs.BootstrapProofs
import HexapodVerified.Config.Proofs.CompleteProofs
import HexapodVerified.Host.Proofs.ConfigEncodeProofs

/-!
# What the companion finds on the card

`parse_openlog_config` tries every offset that no record covers. It accepts the complete records whose
payload can be decoded; in a sound file these are the records the controller scans, and the two agree on the
newest one.
-/

namespace HexapodVerified.Companion

open HexapodVerified.Config HexapodVerified.Host Bytes Struct Transition

variable {bytes data raw payload : List UInt8} {offset start : Nat} {record : JournalRecord}

theorem upperHex_eq (bytes : List UInt8) : upperHex bytes = QwiicConfigFile.encode bytes := by
  have hdigit : ∀ n < 16, upperDigit n = QwiicConfigFile.kHex.getD n 0 := by decide
  refine List.flatMap_congr fun byte _ => ?_
  have hbyte := byte.toNat_lt
  have hhigh : (byte >>> 4).toNat = byte.toNat / 16 := by
    rw [UInt8.toNat_shiftRight]
    exact Nat.shiftRight_eq_div_pow byte.toNat 4
  have hlow : (byte &&& 0x0F).toNat = byte.toNat % 16 := by
    rw [UInt8.toNat_and]
    exact Nat.and_two_pow_sub_one_eq_mod byte.toNat 4
  unfold QwiicConfigFile.encodeByte
  rw [hhigh, hlow, hdigit _ (by omega), hdigit _ (by omega)]

theorem decodePairs_encodeByte (byte : UInt8) (rest : List UInt8) :
    decodePairs (QwiicConfigFile.encodeByte byte ++ rest) = byte :: decodePairs rest := by
  have hall : ∀ n < 256, decodePairs (QwiicConfigFile.encodeByte (UInt8.ofNat n)) = [UInt8.ofNat n] := by
    decide +kernel
  have hbyte := hall byte.toNat byte.toNat_lt
  rw [UInt8.ofNat_toNat] at hbyte
  obtain ⟨c, d, hpair⟩ : ∃ c d, QwiicConfigFile.encodeByte byte = [c, d] := ⟨_, _, rfl⟩
  rw [hpair] at hbyte ⊢
  exact congrArg (· :: decodePairs rest) (List.cons.inj hbyte).1

theorem decodePairs_encode (bytes : List UInt8) :
    decodePairs (QwiicConfigFile.encode bytes) = bytes := by
  induction bytes with
  | nil => rfl
  | cons byte bytes ih => rw [QwiicConfigFile.encode_cons, decodePairs_encodeByte, ih]

theorem decodeOpenlogHex_encode (bytes : List UInt8) :
    decodeOpenlogHex (QwiicConfigFile.encode bytes) = .ok bytes := by
  unfold decodeOpenlogHex
  rw [QwiicConfigFile.encode_length, decodePairs_encode, if_neg (by omega)]

theorem getU32_of_length (hlen : 4 ≤ raw.length) :
    Codec.getU32 raw = some (Bytes.getU32 raw, raw.drop 4) := by
  obtain ⟨a, rest, h⟩ := Codec.law_u32.total raw hlen
  rcases raw with _ | ⟨b0, _ | ⟨b1, _ | ⟨b2, _ | ⟨b3, raw⟩⟩⟩⟩
  · cases h
  · cases h
  · cases h
  · cases h
  · rfl

theorem unpack_I_of_length (hlen : 4 ≤ raw.length) :
    unpack .I raw = some (((Bytes.getU32 raw).toNat : Int), raw.drop 4) := by
  rw [mirrors_I raw, getU32_of_length hlen]
  rfl

theorem unpack_H_of_length (hlen : 2 ≤ raw.length) :
    unpack .H raw = some (((Bytes.getU16 raw).toNat : Int), raw.drop 2) := by
  rw [mirrors_H raw, Config.getU16_of_length hlen]
  rfl

def hostHeader (h : SlotHeader) : RecordHeader where
  magic := h.magic.toNat
  version := h.version.toNat
  sequence := h.sequence.toNat
  length := h.length.toNat
  payload_crc := h.payload_crc.toNat
  header_crc := h.header_crc.toNat

theorem unpackHeader_eq (hlen : raw.length = kHeaderSize) :
    unpackHeader raw = some (hostHeader (deserializeHeader raw), raw.drop 16) := by
  have hsize : kHeaderSize = 16 := rfl
  have hdrop (n : Nat) : (raw.drop n).length = 16 - n := by rw [List.length_drop, hlen]
  show (unpack .I raw).bind _ = _
  rw [unpack_I_of_length (by omega), Option.bind_some]
  show (unpack .H (raw.drop 4)).bind _ = _
  rw [unpack_H_of_length (by rw [hdrop]; omega), Option.bind_some]
  show (unpack .I ((raw.drop 4).drop 2)).bind _ = _
  rw [List.drop_drop, unpack_I_of_length (by rw [hdrop]; omega), Option.bind_some]
  show (unpack .H ((raw.drop 6).drop 4)).bind _ = _
  rw [List.drop_drop, unpack_H_of_length (by rw [hdrop]; omega), Option.bind_some]
  show (unpack .H ((raw.drop 10).drop 2)).bind _ = _
  rw [List.drop_drop, unpack_H_of_length (by rw [hdrop]; omega), Option.bind_some]
  show (unpack .H ((raw.drop 12).drop 2)).bind _ = _
  rw [List.drop_drop, unpack_H_of_length (by rw [hdrop]), Option.bind_some]
  show some (hostHeader (deserializeHeader raw), (raw.drop 14).drop 2) = _
  rw [List.drop_drop]

theorem unpackTrailer_eq (hlen : raw.length = kTrailerSize) :
    unpackTrailer raw = some ((((Bytes.getU32 raw).toNat : Int),
      ((Bytes.getU32 (raw.drop 4)).toNat : Int)), raw.drop 8) := by
  have hsize : kTrailerSize = 8 := rfl
  show (unpack .I raw).bind _ = _
  rw [unpack_I_of_length (by omega), Option.bind_some]
  show (unpack .I (raw.drop 4)).bind _ = _
  rw [unpack_I_of_length (by rw [List.length_drop]; omega), Option.bind_some, List.drop_drop]
  rfl

theorem toNat_eq_iff_u32 {v w : UInt32} : ((v.toNat : Int) = w.toNat) ↔ v = w := by
  rw [Int.ofNat_inj, UInt32.toNat_inj]

theorem toNat_eq_iff_u16 {v w : UInt16} : ((v.toNat : Int) = w.toNat) ↔ v = w := by
  rw [Int.ofNat_inj, UInt16.toNat_inj]

theorem headerRefused_iff {h : SlotHeader} (hh : h = deserializeHeader raw) :
    ((hostHeader h).magic ≠ CONFIG_MAGIC ∨ (hostHeader h).version ≠ CONFIG_VERSION ∨
      (hostHeader h).length > MAX_PAYLOAD_SIZE ∨
      (crc16 (raw.take 14) : Int) ≠ (hostHeader h).header_crc) ↔ ¬ headerValid raw = true := by
  have hmagic : (hostHeader h).magic = CONFIG_MAGIC ↔ h.magic = kConfigMagic :=
    toNat_eq_iff_u32 (w := kConfigMagic)
  have hversion : (hostHeader h).version = CONFIG_VERSION ↔ h.version = kConfigVersion :=
    toNat_eq_iff_u16 (w := kConfigVersion)
  have hlength : (hostHeader h).length ≤ MAX_PAYLOAD_SIZE ↔ h.length.toNat ≤ kMaxPayload :=
    Int.ofNat_le
  have hcrc : (crc16 (raw.take 14) : Int) = (hostHeader h).header_crc ↔
      headerCrc raw = h.header_crc := by
    rw [crc16_eq]
    exact toNat_eq_iff_u16
  have hvalid : headerValid raw = true ↔ h.magic = kConfigMagic ∧ h.version = kConfigVersion ∧
      h.length.toNat ≤ kMaxPayload ∧ headerCrc raw = h.header_crc := by
    rw [hh]
    simp only [headerValid, Bool.and_eq_true, beq_iff_eq, decide_eq_true_eq, and_assoc]
  rw [hvalid, ← hmagic, ← hversion, ← hlength, ← hcrc, gt_iff_lt, ← Int.not_le]
  simp only [not_and_or, ne_eq]

theorem recordRefused_iff (hfits : endAt data offset ≤ data.length) :
    ((crc16 (recordPayload data offset) : Int) ≠ (hostHeader (headerAt data offset)).payload_crc ∨
      ((Bytes.getU32 (window data (offset + kHeaderSize + (headerAt data offset).length.toNat)
        kTrailerSize)).toNat : Int) ≠ COMMIT_MAGIC ∨
      ((Bytes.getU32 ((window data (offset + kHeaderSize + (headerAt data offset).length.toNat)
        kTrailerSize).drop 4)).toNat : Int) ≠ (hostHeader (headerAt data offset)).sequence) ↔
      ¬ completeAt data offset = true := by
  have hcrc : (crc16 (recordPayload data offset) : Int) = (hostHeader (headerAt data offset)).payload_crc ↔
      Protocol.crc16 (recordPayload data offset) = (headerAt data offset).payload_crc := by
    rw [crc16_eq]
    exact toNat_eq_iff_u16
  have hmagic (v : UInt32) : (v.toNat : Int) = COMMIT_MAGIC ↔ v = kCommitMagic :=
    toNat_eq_iff_u32 (w := kCommitMagic)
  have hsequence (v : UInt32) : (v.toNat : Int) = (hostHeader (headerAt data offset)).sequence ↔
      v = (headerAt data offset).sequence := toNat_eq_iff_u32
  have hpayload : window data (offset + kHeaderSize) (headerAt data offset).length.toNat =
    recordPayload data offset := rfl
  rw [completeAt_eq hfits, hpayload]
  unfold trailerValid
  simp only [Bool.and_eq_true, beq_iff_eq, not_and_or, ne_eq, hcrc, hmagic, hsequence]

def recordAt (data : List UInt8) (offset : Nat) (config : Host.RobotConfig) : JournalRecord where
  offset
  sequence := (headerAt data offset).sequence.toNat
  payload := recordPayload data offset
  config

theorem parseRecord_eq_some_iff : parseRecord data offset = some record ↔
    Complete data offset ∧ ∃ config, decodeRobotConfig (recordPayload data offset) = .ok config ∧
      record = recordAt data offset config := by
  have hsizes := headerSize_trailerSize
  have hstep := lt_endAt data offset
  unfold parseRecord
  by_cases hshort : data.length - offset < HEADER_SIZE + TRAILER_SIZE
  · rw [if_pos hshort]
    refine iff_of_false nofun fun ⟨hcomplete, _⟩ => ?_
    have := hcomplete.fits
    dsimp only [HEADER_SIZE, TRAILER_SIZE] at hshort
    omega
  dsimp only [HEADER_SIZE, TRAILER_SIZE] at hshort
  have hin : offset + kHeaderSize ≤ data.length := by omega
  rw [if_neg hshort]
  dsimp only
  rw [unpackHeader_eq (window_length hin)]
  dsimp only
  by_cases hvalid : headerValid (window data offset kHeaderSize) = true
  case neg =>
    rw [if_pos ((headerRefused_iff rfl).mpr hvalid)]
    exact iff_of_false nofun fun ⟨hcomplete, _⟩ => hvalid hcomplete.header.2
  rw [if_neg fun hrefused => (headerRefused_iff rfl).mp hrefused hvalid]
  by_cases hfits : endAt data offset ≤ data.length
  case neg =>
    rw [if_pos (by exact Nat.not_le.mp hfits)]
    exact iff_of_false nofun fun ⟨hcomplete, _⟩ => hfits hcomplete.fits
  rw [if_neg (by exact Nat.not_lt.mpr hfits), unpackTrailer_eq (window_length (by exact hfits))]
  dsimp only
  by_cases hcomplete : completeAt data offset = true
  case neg =>
    rw [if_pos (by exact (recordRefused_iff hfits).mpr hcomplete)]
    exact iff_of_false nofun fun ⟨hcomplete', _⟩ => hcomplete hcomplete'.complete
  rw [if_neg (by exact fun hrefused => (recordRefused_iff hfits).mp hrefused hcomplete)]
  have hpayload : window data (offset + HEADER_SIZE)
      (hostHeader (deserializeHeader (window data offset HEADER_SIZE))).length.toNat =
        recordPayload data offset := rfl
  rw [hpayload]
  cases hdecode : decodeRobotConfig (recordPayload data offset) with
  | error exc => exact iff_of_false nofun fun ⟨_, config, hok, _⟩ => by cases hok
  | ok config =>
    constructor
    · rintro ⟨⟩
      exact ⟨⟨⟨hin, hvalid⟩, hfits, hcomplete⟩, config, rfl, rfl⟩
    · rintro ⟨-, config', ⟨⟩, rfl⟩
      rfl

theorem end_offset_of_parseRecord (h : parseRecord data offset = some record) :
    record.end_offset = endAt data offset := by
  obtain ⟨hcomplete, config, -, rfl⟩ := parseRecord_eq_some_iff.mp h
  have hend : offset + kHeaderSize + (headerAt data offset).length.toNat + kTrailerSize =
    endAt data offset := rfl
  have hfits := hcomplete.fits
  unfold JournalRecord.end_offset recordAt recordPayload
  rw [window_length (by omega)]
  rfl

theorem lt_end_offset (h : parseRecord data offset = some record) : offset < record.end_offset := by
  rw [end_offset_of_parseRecord h]
  exact offset_lt_endAt data offset

theorem parseRecords_record (h : parseRecord data start = some record) :
    parseRecords data start = record :: parseRecords data record.end_offset := by
  obtain ⟨hcomplete, -⟩ := parseRecord_eq_some_iff.mp h
  have hroom : ¬ data.length - start < HEADER_SIZE + TRAILER_SIZE := by
    have hstep := lt_endAt data start
    have hfits := hcomplete.fits
    dsimp only [HEADER_SIZE, TRAILER_SIZE, kHeaderSize, kTrailerSize] at *
    omega
  conv_lhs => unfold parseRecords
  rw [if_neg hroom]
  split
  · rename_i hnone
    rw [h] at hnone
    cases hnone
  · rename_i record' hsome
    obtain rfl := Option.some.inj (h.symm.trans hsome)
    rfl

theorem parseRecords_skip (h : parseRecord data start = none) :
    parseRecords data start = parseRecords data (start + 1) := by
  by_cases hroom : data.length - start < HEADER_SIZE + TRAILER_SIZE
  · have hroom' : data.length - (start + 1) < HEADER_SIZE + TRAILER_SIZE := by omega
    unfold parseRecords
    rw [if_pos hroom, if_pos hroom']
  · conv_lhs => unfold parseRecords
    rw [if_neg hroom]
    split
    · rfl
    · rename_i record hsome
      rw [h] at hsome
      cases hsome

theorem parseRecords_stop (h : data.length < start + 24) : parseRecords data start = [] := by
  unfold parseRecords
  refine if_pos ?_
  dsimp only [HEADER_SIZE, TRAILER_SIZE]
  omega

theorem of_mem_parseRecords (start : Nat) (hmem : record ∈ parseRecords data start) :
    start ≤ record.offset ∧ parseRecord data record.offset = some record := by
  by_cases hend : data.length < start + 24
  · rw [parseRecords_stop hend] at hmem
    cases hmem
  cases hrecord : parseRecord data start with
  | none =>
    rw [parseRecords_skip hrecord] at hmem
    obtain ⟨hle, hsome⟩ := of_mem_parseRecords (start + 1) hmem
    exact ⟨Nat.le_of_succ_le hle, hsome⟩
  | some first =>
    have hnext := lt_end_offset hrecord
    rw [parseRecords_record hrecord] at hmem
    obtain rfl | hmem := List.mem_cons.mp hmem
    · have hoffset := offset_of_parseRecord hrecord
      exact ⟨hoffset.ge, by rw [hoffset]; exact hrecord⟩
    · obtain ⟨hle, hsome⟩ := of_mem_parseRecords first.end_offset hmem
      exact ⟨by omega, hsome⟩
termination_by data.length - start

theorem parseRecords_sorted (data : List UInt8) (start : Nat) :
    (parseRecords data start).Pairwise fun a b => a.offset < b.offset := by
  by_cases hend : data.length < start + 24
  · rw [parseRecords_stop hend]
    exact .nil
  cases hrecord : parseRecord data start with
  | none =>
    rw [parseRecords_skip hrecord]
    exact parseRecords_sorted data (start + 1)
  | some first =>
    have hnext := lt_end_offset hrecord
    rw [parseRecords_record hrecord]
    refine .cons (fun record hmem => ?_) (parseRecords_sorted data first.end_offset)
    obtain ⟨hle, -⟩ := of_mem_parseRecords first.end_offset hmem
    rw [offset_of_parseRecord hrecord]
    omega
termination_by data.length - start

theorem mem_parseRecords (start : Nat) (hrecord : parseRecord data offset = some record)
    (hle : start ≤ offset) (hclear : ∀ other r, parseRecord data other = some r → other < offset →
      r.end_offset ≤ offset) : record ∈ parseRecords data start := by
  obtain rfl | hlt := Nat.eq_or_lt_of_le hle
  · rw [parseRecords_record hrecord]
    exact List.mem_cons_self
  · obtain ⟨hcomplete, -⟩ := parseRecord_eq_some_iff.mp hrecord
    have hstep := lt_endAt data offset
    have hfits := hcomplete.fits
    cases hfirst : parseRecord data start with
    | none =>
      rw [parseRecords_skip hfirst]
      exact mem_parseRecords (start + 1) hrecord hlt hclear
    | some first =>
      have hnext := lt_end_offset hfirst
      rw [parseRecords_record hfirst]
      exact List.mem_cons_of_mem _
        (mem_parseRecords first.end_offset hrecord (hclear start first hfirst hlt) hclear)
termination_by data.length - start

/-- `max` finds an element of the highest key, the first of these. -/
theorem maxBy_spec {α : Type} {k : α → Int} {place : α → Nat} {best : α} {rest : List α}
    (hsorted : (best :: rest).Pairwise fun a b => place a < place b) :
    maxBy k best rest ∈ best :: rest ∧ ∀ a ∈ best :: rest, k a ≤ k (maxBy k best rest) ∧
      (k a = k (maxBy k best rest) → place (maxBy k best rest) ≤ place a) := by
  induction rest generalizing best with
  | nil =>
    refine ⟨List.mem_cons_self, fun a ha => ?_⟩
    obtain rfl := List.mem_singleton.mp ha
    exact ⟨le_rfl, fun _ => le_rfl⟩
  | cons next rest ih =>
    obtain ⟨hbest, hrest⟩ := List.pairwise_cons.mp hsorted
    have hnext := hbest next List.mem_cons_self
    unfold maxBy
    by_cases hlt : k best < k next
    · rw [if_pos hlt]
      obtain ⟨hmem, hmax⟩ := ih hrest
      refine ⟨List.mem_cons_of_mem _ hmem, fun a ha => ?_⟩
      obtain rfl | ha := List.mem_cons.mp ha
      · have hle := (hmax next List.mem_cons_self).1
        exact ⟨by omega, fun heq => by omega⟩
      · exact hmax a ha
    · rw [if_neg hlt]
      obtain ⟨hmem, hmax⟩ := ih (hsorted.sublist (.cons_cons best (List.sublist_cons_self ..)))
      have htop := hmax best List.mem_cons_self
      refine ⟨?_, fun a ha => ?_⟩
      · obtain heq | hmem := List.mem_cons.mp hmem
        · rw [heq]
          exact List.mem_cons_self
        · exact List.mem_cons_of_mem _ (List.mem_cons_of_mem _ hmem)
      · obtain rfl | ha := List.mem_cons.mp ha
        · exact htop
        obtain rfl | ha := List.mem_cons.mp ha
        · refine ⟨by omega, fun heq => ?_⟩
          omega
        · exact hmax a (List.mem_cons_of_mem _ ha)

def Decodes (payload : List UInt8) : Prop := ∃ config, decodeRobotConfig payload = .ok config

theorem parseOpenlogConfig_encode : parseOpenlogConfig (QwiicConfigFile.encode bytes) =
    if parseRecords bytes 0 = [] then
      .error (.openLogConfigError "CONFIG.TXT contains no valid CRC-protected record")
    else .ok ⟨QwiicConfigFile.encode bytes, bytes, parseRecords bytes 0⟩ := by
  unfold parseOpenlogConfig
  rw [decodeOpenlogHex_encode]
  show (if parseRecords bytes 0 = [] then _ else _) = _
  split_ifs
  · rfl
  · rfl

theorem mem_parseRecords_of_visible (hsound : Sound Decodes bytes) (hvisible : Visible bytes offset) :
    ∃ config, recordAt bytes offset config ∈ parseRecords bytes 0 := by
  obtain ⟨config, hdecode⟩ := hsound.readable offset hvisible.toComplete
  have hrecord := parseRecord_eq_some_iff.mpr ⟨hvisible.toComplete, config, hdecode, rfl⟩
  refine ⟨config, mem_parseRecords 0 hrecord (Nat.zero_le _) fun other r hr hlt => ?_⟩
  obtain ⟨hcomplete, -⟩ := parseRecord_eq_some_iff.mp hr
  rw [end_offset_of_parseRecord hr]
  exact (hsound.reached other hcomplete).endAt_le hcomplete.header hvisible.reached hlt

theorem newest_of_sound (hsound : Sound Decodes bytes) {journal : OpenLogConfigJournal}
    (hparse : parseOpenlogConfig (QwiicConfigFile.encode bytes) = .ok journal) :
    ∃ offset config, journal.newest = .ok (recordAt bytes offset config) ∧ Newest bytes offset := by
  rw [parseOpenlogConfig_encode] at hparse
  have hsorted := parseRecords_sorted bytes 0
  cases hrecords : parseRecords bytes 0 with
  | nil =>
    rw [if_pos hrecords] at hparse
    cases hparse
  | cons first rest =>
    rw [if_neg (by rw [hrecords]; exact List.cons_ne_nil _ _)] at hparse
    cases hparse
    rw [hrecords] at hsorted
    obtain ⟨hmem, hmax⟩ := maxBy_spec (k := JournalRecord.sequence) hsorted
    rw [← hrecords] at hmem hmax
    obtain ⟨hcomplete, config, -, hrecord⟩ :=
      parseRecord_eq_some_iff.mp (of_mem_parseRecords 0 hmem).2
    generalize hm : maxBy JournalRecord.sequence first rest = newest at *
    refine ⟨newest.offset, config, ?_, hcomplete.visible (hsound.reached _ hcomplete), ?_, ?_⟩
    · rw [← hrecord]
      unfold OpenLogConfigJournal.newest
      rw [hrecords]
      exact congrArg Except.ok hm
    · intro other hother
      obtain ⟨config', hfound⟩ := mem_parseRecords_of_visible hsound hother
      have hle := (hmax _ hfound).1
      rw [hrecord] at hle
      exact UInt32.le_iff_toNat_le.mpr (Int.ofNat_le.mp hle)
    · intro other hother heq
      obtain ⟨config', hfound⟩ := mem_parseRecords_of_visible hsound hother
      refine (hmax _ hfound).2 ?_
      rw [hrecord]
      exact congrArg (fun s : UInt32 => (s.toNat : Int)) heq

end HexapodVerified.Companion
