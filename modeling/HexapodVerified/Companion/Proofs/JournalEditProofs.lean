import HexapodVerified.Companion.Proofs.CardEditProofs
import HexapodVerified.Lib.GreedyScan

/-!
# Edits of a card keep its other records

The parser of the companion is a greedy scan for records, and a record depends on no byte behind it. So a record
that is deleted or appended changes no other one, whatever else is in the file, as long as no record goes across
the place of the edit.
-/

namespace HexapodVerified.Companion

open HexapodVerified.Config HexapodVerified.Host Bytes GreedyScan

variable {a b data raw_text : List UInt8} {record : JournalRecord} {journal : OpenLogConfigJournal}
  {offset start k n : Nat}

def JournalRecord.moved (record : JournalRecord) (distance : Nat) : JournalRecord :=
  { record with offset := record.offset + distance }

def JournalRecord.content (record : JournalRecord) : Int × List UInt8 × Host.RobotConfig :=
  (record.sequence, record.payload, record.config)

theorem end_offset_moved (record : JournalRecord) (distance : Nat) :
    (record.moved distance).end_offset = record.end_offset + distance := by
  unfold JournalRecord.end_offset JournalRecord.moved
  dsimp only
  omega

theorem recordAt_append_right (config : Host.RobotConfig) :
    recordAt (a ++ b) (a.length + k) config = (recordAt b k config).moved a.length := by
  unfold recordAt JournalRecord.moved
  rw [headerAt_append_right, recordPayload_append_right, Nat.add_comm]

theorem parseRecord_append_right :
    parseRecord (a ++ b) (a.length + k) = (parseRecord b k).map fun r => r.moved a.length := by
  apply Option.ext
  intro record
  rw [Option.map_eq_some_iff, parseRecord_eq_some_iff, complete_append_right, recordPayload_append_right]
  constructor
  · rintro ⟨hcomplete, config, hdecode, rfl⟩
    exact ⟨recordAt b k config, parseRecord_eq_some_iff.mpr ⟨hcomplete, config, hdecode, rfl⟩,
      (recordAt_append_right config).symm⟩
  · rintro ⟨r, hr, rfl⟩
    obtain ⟨hcomplete, config, hdecode, rfl⟩ := parseRecord_eq_some_iff.mp hr
    exact ⟨hcomplete, config, hdecode, (recordAt_append_right config).symm⟩

theorem parseRecord_drop (hstart : start ≤ data.length) :
    parseRecord data start = (parseRecord (data.drop start) 0).map fun r => r.moved start := by
  have hlen : (data.take start).length = start := List.length_take_of_le hstart
  have hsplit := parseRecord_append_right (a := data.take start) (b := data.drop start) (k := 0)
  rwa [List.take_append_drop, hlen, Nat.add_zero] at hsplit

theorem end_offset_le (h : parseRecord data offset = some record) : record.end_offset ≤ data.length := by
  rw [end_offset_of_parseRecord h]
  exact (parseRecord_eq_some_iff.mp h).1.fits

theorem parseRecord_append_of_endAt (hfits : endAt a offset ≤ a.length) :
    parseRecord (a ++ b) offset = some record ↔ parseRecord a offset = some record := by
  have hroom : offset + kHeaderSize ≤ a.length := by
    have hend := lt_endAt a offset
    omega
  have hmake (config : Host.RobotConfig) : recordAt (a ++ b) offset config = recordAt a offset config := by
    unfold recordAt
    rw [headerAt_append hroom, recordPayload_append hfits]
  rw [parseRecord_eq_some_iff, parseRecord_eq_some_iff, complete_append hfits, recordPayload_append hfits]
  simp only [hmake]

theorem parseRecord_append_left (hfits : record.end_offset ≤ a.length) :
    parseRecord (a ++ b) offset = some record ↔ parseRecord a offset = some record := by
  constructor
  · intro h
    have hend := end_offset_of_parseRecord h
    have hroom := lt_endAt (a ++ b) offset
    rw [hend] at hfits
    rw [endAt_append (by omega)] at hfits
    exact (parseRecord_append_of_endAt hfits).mp h
  · intro h
    rw [end_offset_of_parseRecord h] at hfits
    exact (parseRecord_append_of_endAt hfits).mpr h

def recordFront : Recognizer UInt8 JournalRecord where
  accept text := (parseRecord text 0).map fun record => (record, record.end_offset)
  length_pos := by
    intro text record n h
    obtain ⟨record, hrecord, heq⟩ := Option.map_eq_some_iff.mp h
    cases heq
    exact lt_end_offset hrecord
  length_le := by
    intro text record n h
    obtain ⟨record, hrecord, heq⟩ := Option.map_eq_some_iff.mp h
    cases heq
    exact end_offset_le hrecord
  append_iff := by
    intro text record n rest hle
    rw [Option.map_eq_some_iff, Option.map_eq_some_iff]
    refine exists_congr fun record' => and_congr_left fun heq => ?_
    cases heq
    exact parseRecord_append_left hle

theorem accept_of_parseRecord (hstart : start ≤ data.length) (h : parseRecord data start = some record) :
    ∃ front, recordFront.accept (data.drop start) = some (front, record.end_offset - start) ∧
      record = front.moved start ∧ start ≤ record.end_offset := by
  rw [parseRecord_drop hstart] at h
  obtain ⟨front, hfront, rfl⟩ := Option.map_eq_some_iff.mp h
  rw [end_offset_moved, Nat.add_sub_cancel]
  refine ⟨front, ?_, rfl, Nat.le_add_left _ _⟩
  show (parseRecord (data.drop start) 0).map _ = _
  rw [hfront]
  rfl

theorem accept_of_none (hstart : start ≤ data.length) (h : parseRecord data start = none) :
    recordFront.accept (data.drop start) = none := by
  rw [parseRecord_drop hstart, Option.map_eq_none_iff] at h
  show (parseRecord (data.drop start) 0).map _ = _
  rw [h]
  rfl

theorem drop_eq_cons (hstart : start < data.length) : ∃ x, data.drop start = x :: data.drop (start + 1) :=
  ⟨data[start], List.drop_eq_getElem_cons hstart⟩

theorem parseRecords_eq_scan (data : List UInt8) (start : Nat) (hstart : start ≤ data.length) :
    parseRecords data start =
      (scan recordFront start (data.drop start)).map fun found => found.2.moved found.1 := by
  rcases hstart.lt_or_eq with hlt | rfl
  · cases hrecord : parseRecord data start with
    | none =>
      obtain ⟨x, hx⟩ := drop_eq_cons hlt
      have hnone := accept_of_none hstart hrecord
      rw [hx] at hnone ⊢
      rw [parseRecords_skip hrecord, scan_of_none hnone]
      exact parseRecords_eq_scan data (start + 1) hlt
    | some record =>
      have hend := end_offset_le hrecord
      have hnext := lt_end_offset hrecord
      obtain ⟨front, hfront, rfl, hle⟩ := accept_of_parseRecord hstart hrecord
      rw [parseRecords_record hrecord, scan_of_some hfront, List.drop_drop, Nat.add_sub_cancel' hle,
        parseRecords_eq_scan data (front.moved start).end_offset hend]
      rfl
  · rw [parseRecords_stop (by omega), List.drop_length, GreedyScan.scan_nil]
    rfl
termination_by data.length - start

theorem comes_of_mem (data : List UInt8) (start : Nat) (hstart : start ≤ data.length)
    (hmem : record ∈ parseRecords data start) :
    Comes recordFront (data.drop start) (record.offset - start) := by
  rcases hstart.lt_or_eq with hlt | rfl
  · cases hrecord : parseRecord data start with
    | none =>
      obtain ⟨x, hx⟩ := drop_eq_cons hlt
      have hnone := accept_of_none hstart hrecord
      rw [parseRecords_skip hrecord] at hmem
      have hle := (of_mem_parseRecords (start + 1) hmem).1
      rw [hx] at hnone ⊢
      have hcomes := Comes.skip hnone (comes_of_mem data (start + 1) hlt hmem)
      rwa [show record.offset - (start + 1) + 1 = record.offset - start by omega] at hcomes
    | some first =>
      have hend := end_offset_le hrecord
      have hnext := lt_end_offset hrecord
      have hoffset := offset_of_parseRecord hrecord
      obtain ⟨front, hfront, -, hle⟩ := accept_of_parseRecord hstart hrecord
      rw [parseRecords_record hrecord] at hmem
      rcases List.mem_cons.mp hmem with rfl | hmem
      · rw [hoffset, Nat.sub_self]
        exact .here _
      · have hbehind := (of_mem_parseRecords first.end_offset hmem).1
        have hrest := comes_of_mem data first.end_offset hend hmem
        rw [← Nat.add_sub_cancel' hle, ← List.drop_drop, Nat.add_sub_cancel' hle] at hrest
        have hcomes := Comes.take hfront hrest
        rwa [show first.end_offset - start + (record.offset - first.end_offset) = record.offset - start by
          omega] at hcomes
  · rw [parseRecords_stop (by omega)] at hmem
    cases hmem
termination_by data.length - start

def Unstraddled (data : List UInt8) (point : Nat) : Prop :=
  ∀ offset record, parseRecord data offset = some record → offset < point → record.end_offset ≤ point

theorem clear_of_unstraddled (h : Unstraddled (a ++ b) a.length) : Clear recordFront a b := by
  intro i hi front n haccept
  obtain ⟨record, hrecord, heq⟩ := Option.map_eq_some_iff.mp haccept
  cases heq
  have hin : i ≤ (a ++ b).length := by
    rw [List.length_append]
    omega
  have hfound : parseRecord (a ++ b) i = some (front.moved i) := by
    rw [parseRecord_drop hin, hrecord]
    rfl
  have hle := h i _ hfound hi
  rw [end_offset_moved] at hle
  omega

theorem decodePairs_append (hlen : n = 2 * k) (hk : a.length = n) (b : List UInt8) :
    decodePairs (a ++ b) = decodePairs a ++ decodePairs b := by
  induction k generalizing a n with
  | zero =>
    rw [List.eq_nil_of_length_eq_zero (hk.trans hlen)]
    rfl
  | succ k ih =>
    rcases a with _ | ⟨c, _ | ⟨d, a⟩⟩
    · simp only [List.length_nil] at hk
      omega
    · simp only [List.length_singleton] at hk
      omega
    · have hrest : a.length = 2 * k := by
        simp only [List.length_cons] at hk
        omega
      exact congrArg (_ :: ·) (ih rfl hrest)

theorem length_decodePairs (raw_text : List UInt8) : (decodePairs raw_text).length = raw_text.length / 2 := by
  match raw_text with
  | [] => simp [decodePairs]
  | [c] => simp [decodePairs]
  | c :: d :: raw_text =>
    show (decodePairs raw_text).length + 1 = (raw_text.length + 1 + 1) / 2
    rw [length_decodePairs raw_text]
    omega

theorem decodePairs_take_drop (hk : 2 * k ≤ raw_text.length) :
    decodePairs (raw_text.take (2 * k)) = (decodePairs raw_text).take k ∧
      decodePairs (raw_text.drop (2 * k)) = (decodePairs raw_text).drop k := by
  have hlen : (raw_text.take (2 * k)).length = 2 * k := List.length_take_of_le hk
  have hsplit := decodePairs_append rfl hlen (raw_text.drop (2 * k))
  have hfirst : (decodePairs (raw_text.take (2 * k))).length = k := by
    rw [length_decodePairs, hlen]
    omega
  rw [List.take_append_drop] at hsplit
  rw [hsplit]
  exact ⟨(List.take_left' hfirst).symm, (List.drop_left' hfirst).symm⟩

theorem parseOpenlogConfig_eq_ok : parseOpenlogConfig raw_text = .ok journal ↔
    raw_text.length % 2 = 0 ∧ parseRecords (decodePairs raw_text) 0 ≠ [] ∧
      journal = ⟨raw_text, decodePairs raw_text, parseRecords (decodePairs raw_text) 0⟩ := by
  unfold parseOpenlogConfig decodeOpenlogHex
  by_cases hodd : raw_text.length % 2 ≠ 0
  · rw [if_pos hodd]
    exact iff_of_false nofun fun h => hodd h.1
  rw [if_neg hodd]
  rw [not_not] at hodd
  show (if parseRecords (decodePairs raw_text) 0 = [] then _ else _ : Except CardError _) = _ ↔ _
  by_cases hempty : parseRecords (decodePairs raw_text) 0 = []
  · rw [if_pos hempty]
    exact iff_of_false nofun fun h => h.2.1 hempty
  · rw [if_neg hempty]
    constructor
    · rintro ⟨⟩
      exact ⟨hodd, hempty, rfl⟩
    · rintro ⟨-, -, rfl⟩
      rfl

/-- The bytes without a record. -/
def without (data : List UInt8) (record : JournalRecord) : List UInt8 :=
  data.take record.offset ++ data.drop record.end_offset

theorem notMem_parseRecords_take (hlt : record.offset < record.end_offset) :
    record ∉ parseRecords (data.take record.offset) 0 := by
  intro hin
  have hfits := end_offset_le (of_mem_parseRecords 0 hin).2
  rw [List.length_take] at hfits
  omega

theorem parseRecords_without (hmem : record ∈ parseRecords data 0)
    (hclear : Unstraddled (without data record) record.offset) :
    (parseRecords (without data record) 0).map JournalRecord.content =
      ((parseRecords data 0).erase record).map JournalRecord.content := by
  have hrecord := (of_mem_parseRecords 0 hmem).2
  have hend := end_offset_le hrecord
  have hlt := lt_end_offset hrecord
  have hcomes := comes_of_mem data 0 (Nat.zero_le _) hmem
  obtain ⟨front, hfront, hmoved, hle⟩ := accept_of_parseRecord (by omega) hrecord
  have hscan := parseRecords_eq_scan data 0 (Nat.zero_le _)
  have hscan' := parseRecords_eq_scan (without data record) 0 (Nat.zero_le _)
  rw [List.drop_zero] at hcomes hscan hscan'
  rw [Nat.sub_zero] at hcomes
  -- what lies before the record, the record, and what lies behind it
  have ha : (data.take record.offset).length = record.offset := List.length_take_of_le (by omega)
  have hm : (window data record.offset (record.end_offset - record.offset)).length =
      record.end_offset - record.offset := window_length (by omega)
  have hsplit : data.drop record.offset =
      window data record.offset (record.end_offset - record.offset) ++ data.drop record.end_offset :=
    drop_eq_window_append hle
  have hdata : data = data.take record.offset ++
      (window data record.offset (record.end_offset - record.offset) ++ data.drop record.end_offset) := by
    rw [← hsplit, List.take_append_drop]
  have hclear' : Clear recordFront (data.take record.offset) (data.drop record.end_offset) :=
    clear_of_unstraddled (by rw [ha]; exact hclear)
  have hfront' : recordFront.accept (window data record.offset (record.end_offset - record.offset) ++
      data.drop record.end_offset) =
      some (front, (window data record.offset (record.end_offset - record.offset)).length) := by
    rw [← hsplit, hm]
    exact hfront
  obtain ⟨hbefore, hafter⟩ := scan_cut (by rw [← hdata, ha]; exact hcomes) hfront' hclear'
  rw [← hdata, ha, hm, Nat.add_sub_cancel' hle] at hbefore
  rw [ha] at hafter
  have hshift := scan_add recordFront record.offset (record.end_offset - record.offset)
    (data.drop record.end_offset)
  rw [Nat.add_sub_cancel' hle] at hshift
  have hnot : record ∉ (scan recordFront 0 (data.take record.offset)).map fun found => found.2.moved found.1 := by
    have hfirst := parseRecords_eq_scan (data.take record.offset) 0 (Nat.zero_le _)
    rw [List.drop_zero] at hfirst
    rw [← hfirst]
    exact notMem_parseRecords_take hlt
  have hafter' : GreedyScan.scan recordFront 0 (without data record) = _ := hafter
  rw [hbefore, hshift, List.map_append, List.map_cons, ← hmoved] at hscan
  rw [hafter', List.map_append] at hscan'
  rw [hscan, hscan', List.erase_append_right _ hnot, List.erase_cons_head, List.map_append, List.map_append,
    List.map_map, List.map_map, List.map_map, List.map_map]
  rfl

theorem deleteConfigRecord_eq (hparse : parseOpenlogConfig raw_text = .ok journal)
    (hmem : record ∈ journal.records) (hmany : 2 ≤ journal.records.length)
    (hclear : Unstraddled (without journal.decoded_bytes record) record.offset) :
    ∃ text journal', deleteConfigRecord journal record = .ok text ∧ parseOpenlogConfig text = .ok journal' ∧
      journal'.records.map JournalRecord.content =
        (journal.records.erase record).map JournalRecord.content := by
  obtain ⟨heven, -, rfl⟩ := parseOpenlogConfig_eq_ok.mp hparse
  dsimp only at hmem hmany hclear ⊢
  have hrecord := (of_mem_parseRecords 0 hmem).2
  have hend := end_offset_le hrecord
  have hlt := lt_end_offset hrecord
  have hothers := parseRecords_without hmem hclear
  rw [length_decodePairs] at hend
  set rendered := raw_text.take (record.offset * 2) ++ raw_text.drop (record.end_offset * 2) with hrendered
  have htake : (raw_text.take (2 * record.offset)).length = 2 * record.offset :=
    List.length_take_of_le (by omega)
  have hbytes : decodePairs rendered = without (decodePairs raw_text) record := by
    rw [hrendered, Nat.mul_comm, Nat.mul_comm record.end_offset, decodePairs_append rfl htake,
      (decodePairs_take_drop (by omega)).1, (decodePairs_take_drop (by omega)).2]
    rfl
  have hsome : parseRecords (without (decodePairs raw_text) record) 0 ≠ [] := by
    intro hnone
    rw [hnone] at hothers
    have hlen := congrArg List.length hothers
    rw [List.length_map, List.length_map, List.length_erase_of_mem hmem, List.length_nil] at hlen
    omega
  have hrest : parseOpenlogConfig rendered = .ok ⟨rendered, decodePairs rendered,
      parseRecords (decodePairs rendered) 0⟩ := by
    refine parseOpenlogConfig_eq_ok.mpr ⟨?_, by rw [hbytes]; exact hsome, rfl⟩
    rw [hrendered, List.length_append, Nat.mul_comm, htake, List.length_drop]
    omega
  refine ⟨rendered, _, ?_, hrest, by rw [hbytes]; exact hothers⟩
  have hrange : record.offset * 2 < record.end_offset * 2 ∧ record.end_offset * 2 ≤ raw_text.length := by
    omega
  unfold deleteConfigRecord
  dsimp only
  rw [if_neg (not_not.mpr hmem), if_neg (by omega), if_neg (not_not.mpr hrange), hrest]
  rfl

/-- The only record of a journal cannot be deleted. -/
theorem deleteConfigRecord_only (hmem : record ∈ journal.records) (hone : journal.records.length ≤ 1) :
    deleteConfigRecord journal record =
      .error (.openLogConfigError "cannot delete the only valid config record") := by
  unfold deleteConfigRecord
  rw [if_neg (not_not.mpr hmem), if_pos hone]

/-! ## Appending -/

def untilNul (name : String) : String := String.ofList (name.toList.takeWhile fun c => c.toNat != 0)

theorem takeWhile_append_zeros (l : List UInt8) (n : Nat) :
    (l ++ List.replicate n 0).takeWhile (· != 0) = l.takeWhile (· != 0) := by
  induction l with
  | nil =>
    cases n with
    | zero => rfl
    | succ n => rfl
  | cons x l ih =>
    rw [List.cons_append, List.takeWhile_cons, List.takeWhile_cons, ih]

theorem takeWhile_eq_of_mem {α : Type} {l : List α} {p q : α → Bool} (h : ∀ x ∈ l, p x = q x) :
    l.takeWhile p = l.takeWhile q := by
  induction l with
  | nil => rfl
  | cons x l ih =>
    rw [List.takeWhile_cons, List.takeWhile_cons, h x List.mem_cons_self,
      ih fun y hy => h y (List.mem_cons_of_mem x hy)]

theorem trimName_codes {chars : List Char} (hascii : ∀ c ∈ chars, c.toNat < 128) :
    trimName (chars.map fun c => UInt8.ofNat c.toNat) =
      String.ofList (chars.takeWhile fun c => c.toNat != 0) := by
  have hcode (c : Char) (hc : c ∈ chars) : (UInt8.ofNat c.toNat).toNat = c.toNat := by
    have hlt := hascii c hc
    exact UInt8.toNat_ofNat_of_lt' (by dsimp only [UInt8.size]; omega)
  have hnonzero (c : Char) (hc : c ∈ chars) : (UInt8.ofNat c.toNat != 0) = (c.toNat != 0) := by
    rw [Bool.eq_iff_iff, bne_iff_ne, bne_iff_ne, ne_eq, ne_eq, ← UInt8.toNat_inj, hcode c hc]
    rfl
  have htake : chars.takeWhile ((· != 0) ∘ fun c : Char => UInt8.ofNat c.toNat) =
      chars.takeWhile fun c => c.toNat != 0 := takeWhile_eq_of_mem hnonzero
  unfold trimName decodeAscii
  rw [List.takeWhile_map, htake, List.map_map]
  congr 1
  refine (List.map_congr_left fun c hc => ?_).trans (List.map_id _)
  have hin := (List.takeWhile_sublist _).subset hc
  have hlt := hascii c hin
  show (if UInt8.ofNat c.toNat < 128 then Char.ofNat (UInt8.ofNat c.toNat).toNat else Char.ofNat 0xFFFD) = c
  rw [if_pos (UInt8.lt_iff_toNat_lt.mpr (by rw [hcode c hin]; exact hlt)), hcode c hin, Char.ofNat_toNat]

theorem trimName_of_encodeName {name : String} {raw : List UInt8} (hshort : asciiLength name < ROBOT_NAME_LEN)
    (hname : encodeName name = .ok raw) : trimName raw = untilNul name := by
  obtain ⟨codes, hcodes, hraw⟩ := bind_eq_ok hname
  obtain ⟨hascii, rfl⟩ := ascii_of_encodeAscii hcodes
  have hfilter : name.toList.filter (fun c => c.toNat < 128) = name.toList :=
    List.filter_eq_self.mpr fun c hc => decide_eq_true (hascii c hc)
  rw [asciiLength, hfilter] at hshort
  cases hraw
  have htake : (name.toList.map fun c => UInt8.ofNat c.toNat).take (ROBOT_NAME_LEN - 1) =
      name.toList.map fun c => UInt8.ofNat c.toNat :=
    List.take_of_length_le (by rw [List.length_map]; exact Nat.le_sub_one_of_lt hshort)
  have htrim := trimName_codes hascii
  unfold trimName at htrim ⊢
  rw [takeWhile_append_zeros, htake]
  exact htrim

theorem decode_of_encode {config : Host.RobotConfig} {payload : List UInt8}
    (hvalid : Host.validateRobotConfig config = []) (hencode : encodeRobotConfig config = .ok payload) :
    decodeRobotConfig payload = .ok { config with robot_name := untilNul config.robot_name } := by
  obtain ⟨cfg, hconfig, hname, hterminated, hshort, hschema, rfl⟩ := exists_config_of_encode hvalid hencode
  rw [decodeRobotConfig_schemaPayload rfl cfg, Config.readBack_current hschema hterminated,
    trimName_of_encodeName hshort hname, ← hconfig]
  rfl

def writtenRecord (seq : UInt32) (payload : List UInt8) (config : Host.RobotConfig) (offset : Nat) :
    JournalRecord where
  offset
  sequence := seq.toNat
  payload
  config

theorem moved_writtenRecord (seq : UInt32) (payload : List UInt8) (config : Host.RobotConfig) (offset : Nat) :
    (writtenRecord seq payload config 0).moved offset = writtenRecord seq payload config offset := by
  unfold JournalRecord.moved writtenRecord
  rw [Nat.zero_add]

theorem accept_recordBytes {seq : UInt32} {payload : List UInt8} {config : Host.RobotConfig}
    (hlen : payload.length ≤ kMaxPayload) (hdecode : decodeRobotConfig payload = .ok config) :
    recordFront.accept (recordBytes seq payload) =
      some (writtenRecord seq payload config 0, (recordBytes seq payload).length) := by
  have hcomplete := @complete_recordBytes [] payload seq hlen
  have hpayload := @recordPayload_recordBytes [] payload seq hlen
  have hheader := @headerAt_recordBytes [] payload seq
  rw [List.nil_append, List.length_nil] at hcomplete hpayload hheader
  have hmade : recordAt (recordBytes seq payload) 0 config = writtenRecord seq payload config 0 := by
    unfold recordAt writtenRecord
    rw [hpayload, hheader, writtenHeader_eq]
  have hrecord : parseRecord (recordBytes seq payload) 0 = some (writtenRecord seq payload config 0) :=
    parseRecord_eq_some_iff.mpr ⟨hcomplete, config, by rw [hpayload, hdecode], hmade.symm⟩
  have hend : (writtenRecord seq payload config 0).end_offset = (recordBytes seq payload).length := by
    rw [recordBytes_length]
    unfold JournalRecord.end_offset writtenRecord
    dsimp only [HEADER_SIZE, TRAILER_SIZE, kHeaderSize, kTrailerSize]
  show (parseRecord (recordBytes seq payload) 0).map _ = _
  rw [hrecord, Option.map_some, hend]

/-- Behind a text that no record goes across the end of, the parser finds the record that was written. -/
theorem parseRecords_append {seq : UInt32} {payload : List UInt8} {config : Host.RobotConfig}
    (hlen : payload.length ≤ kMaxPayload) (hdecode : decodeRobotConfig payload = .ok config)
    (hclear : Unstraddled (data ++ recordBytes seq payload) data.length) :
    parseRecords (data ++ recordBytes seq payload) 0 =
      parseRecords data 0 ++ [writtenRecord seq payload config data.length] := by
  have hitem := @accept_recordBytes seq payload config hlen hdecode
  have hscan := scan_append_item (clear_of_unstraddled hclear) hitem
  rw [parseRecords_eq_scan _ 0 (Nat.zero_le _), parseRecords_eq_scan data 0 (Nat.zero_le _), List.drop_zero,
    List.drop_zero, hscan, List.map_append]
  exact congrArg (fun record => _ ++ [record]) (moved_writtenRecord seq payload config data.length)

/-- What an append makes of a journal: its records, and behind them the configuration with the next number. -/
theorem appendConfigRecord_eq {config : Host.RobotConfig} {text : List UInt8}
    (hparse : parseOpenlogConfig raw_text = .ok journal) (happend : appendConfigRecord journal config = .ok text)
    (hclear : Unstraddled (decodePairs text) journal.decoded_bytes.length) :
    ∃ journal' record, parseOpenlogConfig text = .ok journal' ∧
      journal'.records = journal.records ++ [record] ∧ journal.next_sequence = .ok record.sequence ∧
      record.config = { config with robot_name := untilNul config.robot_name } := by
  obtain ⟨heven, -, rfl⟩ := parseOpenlogConfig_eq_ok.mp hparse
  obtain ⟨sequence, hnext, hrest⟩ := bind_eq_ok happend
  obtain ⟨bytes, hbytes, htext⟩ := bind_eq_ok hrest
  obtain ⟨seq, payload, rfl, hvalid, hencode, hlen, rfl⟩ := of_encodeRecord hbytes
  obtain rfl := Except.ok.inj htext
  have hdecoded : decodePairs (raw_text ++ upperHex (recordBytes seq payload)) =
      decodePairs raw_text ++ recordBytes seq payload := by
    rw [decodePairs_append (k := raw_text.length / 2) (by omega) rfl, upperHex_eq, decodePairs_encode]
  dsimp only at hclear hdecoded ⊢
  rw [hdecoded] at hclear
  have hrecords := parseRecords_append hlen (decode_of_encode hvalid hencode) hclear
  refine ⟨⟨_, _, _⟩, writtenRecord seq payload { config with robot_name := untilNul config.robot_name }
    (decodePairs raw_text).length, parseOpenlogConfig_eq_ok.mpr ⟨?_, ?_, rfl⟩, ?_, hnext, rfl⟩
  · rw [List.length_append, upperHex_eq, QwiicConfigFile.encode_length]
    omega
  · rw [hdecoded, hrecords]
    exact List.append_ne_nil_of_right_ne_nil _ (List.cons_ne_nil _ _)
  · dsimp only
    rw [hdecoded, hrecords]

def DeleteKeeps (journal : OpenLogConfigJournal) (record : JournalRecord) : Prop :=
  ∃ text journal', deleteConfigRecord journal record = .ok text ∧ parseOpenlogConfig text = .ok journal' ∧
    journal'.records.map JournalRecord.content = (journal.records.erase record).map JournalRecord.content

/-- The text holds the records of the journal and one of the configuration behind them. -/
def AppendKeeps (journal : OpenLogConfigJournal) (text : List UInt8) (config : Host.RobotConfig) : Prop :=
  ∃ journal' record, parseOpenlogConfig text = .ok journal' ∧ journal'.records = journal.records ++ [record] ∧
    journal.next_sequence = .ok record.sequence ∧ record.config = config

/-- An edit of a journal keeps its other records, if no record goes across the place of the edit. The only
record is not deleted, and a name is kept up to its first NUL. -/
theorem journal_edits_keep (hparse : parseOpenlogConfig raw_text = .ok journal) :
    (∀ record ∈ journal.records, 2 ≤ journal.records.length →
      Unstraddled (without journal.decoded_bytes record) record.offset → DeleteKeeps journal record) ∧
    (∀ record ∈ journal.records, journal.records.length ≤ 1 → deleteConfigRecord journal record =
      .error (.openLogConfigError "cannot delete the only valid config record")) ∧
    ∀ config text, appendConfigRecord journal config = .ok text →
      Unstraddled (decodePairs text) journal.decoded_bytes.length →
        AppendKeeps journal text { config with robot_name := untilNul config.robot_name } := by
  refine ⟨?_, ?_, ?_⟩
  · intro record hmem hmany hclear
    exact deleteConfigRecord_eq hparse hmem hmany hclear
  · intro record hmem hone
    exact deleteConfigRecord_only hmem hone
  · intro config text happend hclear
    exact appendConfigRecord_eq hparse happend hclear

theorem unstraddled_default (rest : List UInt8) :
    Unstraddled (defaultRecord 1 ++ rest)
      (defaultRecord 1).length := by
  intro offset record hrecord hlt
  have hheader := (parseRecord_eq_some_iff.mp hrecord).1.header
  obtain rfl := eq_zero_of_headerAt_default (.head _) hheader hlt
  have hown := @endAt_recordBytes [] defaultPayload 1 length_default
  rw [List.nil_append, List.length_nil] at hown
  rw [end_offset_of_parseRecord hrecord, endAt_append (by rw [recordBytes_length]; omega), hown]

def singleJournal (seq : UInt32) (payload : List UInt8) (config : Host.RobotConfig) : OpenLogConfigJournal where
  raw_text := upperHex (recordBytes seq payload)
  decoded_bytes := recordBytes seq payload
  records := [writtenRecord seq payload config 0]

theorem parse_singleJournal {seq : UInt32} {payload : List UInt8} {config : Host.RobotConfig}
    (hlen : payload.length ≤ kMaxPayload) (hdecode : decodeRobotConfig payload = .ok config) :
    parseOpenlogConfig (singleJournal seq payload config).raw_text =
      .ok (singleJournal seq payload config) := by
  have hrecords := @parseRecords_append [] seq payload config hlen hdecode
    fun offset record _ hlt => absurd hlt (Nat.not_lt_zero offset)
  have hnone : parseRecords [] 0 = [] := parseRecords_stop (by decide)
  rw [List.nil_append, List.length_nil, hnone, List.nil_append] at hrecords
  unfold singleJournal
  rw [upperHex_eq, parseOpenlogConfig_encode, hrecords, if_neg (List.cons_ne_nil _ _)]

def oneRecord : OpenLogConfigJournal := singleJournal 1 defaultPayload hostDefault

theorem parse_oneRecord : parseOpenlogConfig oneRecord.raw_text = .ok oneRecord :=
  parse_singleJournal length_default decode_default

theorem append_oneRecord {config : Host.RobotConfig} {payload : List UInt8}
    (hvalid : Host.validateRobotConfig config = []) (hencode : encodeRobotConfig config = .ok payload)
    (hlen : payload.length ≤ kMaxPayload) :
    appendConfigRecord oneRecord config = .ok (oneRecord.raw_text ++ upperHex (recordBytes 2 payload)) :=
  appendConfigRecord_ok rfl hvalid hencode hlen

theorem decode_append_oneRecord (bytes : List UInt8) :
    decodePairs (oneRecord.raw_text ++ upperHex bytes) =
      defaultRecord 1 ++ bytes := by
  unfold oneRecord singleJournal
  rw [upperHex_eq, upperHex_eq, ← QwiicConfigFile.encode_append, decodePairs_encode]

def secondRecord : JournalRecord := writtenRecord 2 defaultPayload hostDefault
  (defaultRecord 1).length

def twoRecords : OpenLogConfigJournal where
  raw_text := oneRecord.raw_text ++ upperHex (defaultRecord 2)
  decoded_bytes := defaultRecord 1 ++ defaultRecord 2
  records := oneRecord.records ++ [secondRecord]

theorem parse_twoRecords : parseOpenlogConfig twoRecords.raw_text = .ok twoRecords := by
  obtain ⟨heven, -, hone⟩ := parseOpenlogConfig_eq_ok.mp parse_oneRecord
  have hfirst : parseRecords (defaultRecord 1) 0 = oneRecord.records := by
    have hdecoded := congrArg OpenLogConfigJournal.decoded_bytes hone
    rw [hone]
    exact congrArg (parseRecords · 0) hdecoded
  have hrecords := @parseRecords_append (defaultRecord 1) 2 _ _ length_default
    decode_default (unstraddled_default _)
  rw [hfirst] at hrecords
  refine parseOpenlogConfig_eq_ok.mpr ⟨?_, ?_, ?_⟩
  · unfold twoRecords
    rw [List.length_append, upperHex_eq, QwiicConfigFile.encode_length]
    omega
  · unfold twoRecords
    rw [decode_append_oneRecord, hrecords]
    exact List.append_ne_nil_of_right_ne_nil _ (List.cons_ne_nil _ _)
  · unfold twoRecords
    rw [decode_append_oneRecord, hrecords]
    rfl

theorem without_secondRecord :
    without twoRecords.decoded_bytes secondRecord = defaultRecord 1 ++ [] := by
  have hend : twoRecords.decoded_bytes.length ≤ secondRecord.end_offset := by
    unfold twoRecords secondRecord JournalRecord.end_offset writtenRecord
    dsimp only [HEADER_SIZE, TRAILER_SIZE]
    rw [List.length_append, recordBytes_length 2]
    dsimp only [kHeaderSize, kTrailerSize]
    omega
  unfold without
  rw [List.drop_eq_nil_of_le hend]
  exact congrArg (· ++ []) (List.take_left' rfl)

/-- The second record is deleted from the one journal and appended to the other. -/
theorem journal_edits_keep_default : DeleteKeeps twoRecords secondRecord ∧
    AppendKeeps oneRecord twoRecords.raw_text
      { hostDefault with robot_name := untilNul hostDefault.robot_name } := by
  constructor
  · have hclear := unstraddled_default []
    rw [← without_secondRecord] at hclear
    exact (journal_edits_keep parse_twoRecords).1 secondRecord
      (List.mem_append_right _ List.mem_cons_self) (by decide) hclear
  · have hclear := unstraddled_default (defaultRecord 2)
    rw [← decode_append_oneRecord] at hclear
    exact (journal_edits_keep parse_oneRecord).2.2 hostDefault _
      (append_oneRecord hostDefault_valid hostDefault_encode length_default) hclear

def nulName : String := String.ofList ['a', Char.ofNat 0, 'b']

def nulConfig : Config.RobotConfig :=
  { defaultRobotConfig with robot_name := #v[97, 0, 98, 0, 0, 0, 0, 0, 0, 0, 0, 0, 0, 0, 0, 0] }

theorem nulConfig_valid : Host.validateRobotConfig (hostConfig nulName nulConfig) = [] := by
  refine (validateRobotConfig_hostConfig _).mpr ⟨?_, validate_defaultRobotConfig⟩
  rw [asciiLength, nulName, String.toList_ofList]
  exact Nat.lt_of_le_of_lt (List.length_filter_le ..) (by decide)

theorem nulConfig_encode :
    encodeRobotConfig (hostConfig nulName nulConfig) = .ok (payloadOf nulConfig) := by
  refine encodeRobotConfig_hostConfig _ ?_
  unfold encodeName encodeAscii nulName
  rw [String.toList_ofList]
  rfl

/-- The only record cannot be deleted, and a NUL in a name cuts off what is behind it. -/
theorem journal_edits_lose :
    (¬ ∀ raw_text journal, parseOpenlogConfig raw_text = .ok journal → ∀ record ∈ journal.records,
      Unstraddled (without journal.decoded_bytes record) record.offset → DeleteKeeps journal record) ∧
    ¬ ∀ raw_text journal, parseOpenlogConfig raw_text = .ok journal → ∀ config text,
      appendConfigRecord journal config = .ok text →
        Unstraddled (decodePairs text) journal.decoded_bytes.length → AppendKeeps journal text config := by
  constructor
  · intro h
    obtain ⟨text, journal', hdelete, -⟩ := h _ oneRecord parse_oneRecord _ List.mem_cons_self
      fun offset record _ hlt => absurd hlt (Nat.not_lt_zero offset)
    rw [deleteConfigRecord_only List.mem_cons_self (by decide)] at hdelete
    cases hdelete
  · intro h
    have hlen : (payloadOf nulConfig).length ≤ kMaxPayload := by
      rw [length_payloadOf]
      decide
    have happend := append_oneRecord nulConfig_valid nulConfig_encode hlen
    have hclear := unstraddled_default (recordBytes 2 (payloadOf nulConfig))
    rw [← decode_append_oneRecord] at hclear
    obtain ⟨journal', record, hparse, hrecords, -, hconfig⟩ := h _ oneRecord parse_oneRecord _ _ happend hclear
    obtain ⟨journal₂, record₂, hparse₂, hrecords₂, -, hconfig₂⟩ :=
      appendConfigRecord_eq parse_oneRecord happend hclear
    obtain rfl := Except.ok.inj (hparse.symm.trans hparse₂)
    obtain rfl := List.cons.inj (List.append_cancel_left (hrecords.symm.trans hrecords₂)) |>.1
    have hname := congrArg Host.RobotConfig.robot_name (hconfig.symm.trans hconfig₂)
    have hchars := congrArg String.toList hname
    unfold untilNul hostConfig nulName at hchars
    rw [String.toList_ofList, String.toList_ofList] at hchars
    cases hchars

end HexapodVerified.Companion
