import HexapodVerified.Hil.Proofs.ReassemblyProofs
import HexapodVerified.Hil.TraceOrder

/-!
# Fragments

The arithmetic of the encoders in 16 and 32 bits is the one of the natural numbers, so that the fragments
of a record are the windows of its bytes, one behind the other.
-/

namespace HexapodVerified.Hil

open Bytes Protocol

theorem expectedCount_toNat {len cap : UInt16} (hlen : 0 < len.toNat) (hcap : 0 < cap.toNat) :
    (expectedCount len cap).toNat = (len.toNat + cap.toNat - 1) / cap.toNat := by
  have hlt := len.toNat_lt
  have hclt := cap.toNat_lt
  have hone : (1 : UInt32).toNat = 1 := rfl
  have hsum : (len.toUInt32 + cap.toUInt32).toNat = len.toNat + cap.toNat := by
    rw [UInt32.toNat_add, UInt16.toNat_toUInt32, UInt16.toNat_toUInt32, Nat.mod_eq_of_lt (by omega)]
  have hle : (1 : UInt32) ≤ len.toUInt32 + cap.toUInt32 := by
    rw [UInt32.le_iff_toNat_le, hsum, hone]
    omega
  have hcount : (len.toNat + cap.toNat - 1) / cap.toNat ≤ len.toNat := by
    rw [← Nat.lt_succ_iff, Nat.div_lt_iff_lt_mul hcap, Nat.succ_mul]
    have hmul := Nat.le_mul_of_pos_right len.toNat hcap
    omega
  unfold expectedCount
  rw [UInt32.toNat_toUInt16, UInt32.toNat_div, UInt32.toNat_sub_of_le _ _ hle, hsum, hone,
    UInt16.toNat_toUInt32, Nat.mod_eq_of_lt (by omega)]

theorem sliceOffset_toNat {header : FragmentHeader} {cap : UInt16} :
    (sliceOffset header cap).toNat = header.fragment_index.toNat * cap.toNat := by
  have hlt := cap.toNat_lt
  have hindex := header.fragment_index.toNat_lt
  have hmul : header.fragment_index.toNat * cap.toNat ≤ 255 * 65535 :=
    Nat.mul_le_mul (by omega) (by omega)
  unfold sliceOffset
  rw [UInt32.toNat_mul, UInt8.toNat_toUInt32, UInt16.toNat_toUInt32, Nat.mod_eq_of_lt (by omega)]

theorem sliceLength_toNat {header : FragmentHeader} {cap : UInt16} {offset : UInt32}
    (h : offset.toNat < header.logical_length.toNat) :
    (sliceLength header cap offset).toNat =
      min (header.logical_length.toNat - offset.toNat) cap.toNat := by
  have hlt := header.logical_length.toNat_lt
  have hoffset : offset.toUInt16.toNat = offset.toNat := by
    rw [UInt32.toNat_toUInt16, Nat.mod_eq_of_lt (by omega)]
  have hremaining : (header.logical_length - offset.toUInt16).toNat =
      header.logical_length.toNat - offset.toNat := by
    rw [UInt16.toNat_sub_of_le, hoffset]
    rw [UInt16.le_iff_toNat_le, hoffset]
    omega
  unfold sliceLength
  dsimp only
  split_ifs with hshort
  · rw [UInt16.lt_iff_toNat_lt, hremaining] at hshort
    rw [hremaining]
    omega
  · rw [UInt16.lt_iff_toNat_lt, hremaining] at hshort
    omega

theorem maxFragmentData_toNat {cap : UInt16} :
    (maxFragmentData cap).toNat = cap.toNat - kFragmentPrefixBytes.toNat := by
  unfold maxFragmentData
  split_ifs with h
  · rw [UInt16.toNat_sub_of_le _ _ (UInt16.le_of_lt h)]
  · rw [gt_iff_lt, UInt16.lt_iff_toNat_lt] at h
    rw [UInt16.toNat_zero]
    omega

theorem maxFragmentData_ne_zero {cap : UInt16} (hcap : 0 < (maxFragmentData cap).toNat) :
    maxFragmentData cap ≠ 0 := by
  intro hzero
  rw [hzero] at hcap
  exact absurd hcap (Nat.lt_irrefl _)

namespace LogicalRecord

variable {r : LogicalRecord} {count index : Nat} {out_cap : UInt16}

def countFor (r : LogicalRecord) (out_cap : UInt16) : Nat :=
  (r.logical.length + (maxFragmentData out_cap).toNat - 1) / (maxFragmentData out_cap).toNat

def sliceAt (r : LogicalRecord) (out_cap : UInt16) (index : Nat) : List UInt8 :=
  window r.logical (index * (maxFragmentData out_cap).toNat) (maxFragmentData out_cap).toNat

theorem offset_lt (hcap : 0 < (maxFragmentData out_cap).toNat) (hindex : index < r.countFor out_cap) :
    index * (maxFragmentData out_cap).toNat < r.logical.length := by
  have hle := Nat.div_mul_le_self (r.logical.length + (maxFragmentData out_cap).toNat - 1)
    (maxFragmentData out_cap).toNat
  have hmul : (index + 1) * (maxFragmentData out_cap).toNat ≤
      r.countFor out_cap * (maxFragmentData out_cap).toNat := Nat.mul_le_mul_right _ hindex
  unfold countFor at hmul
  rw [Nat.succ_mul] at hmul
  omega

theorem count_checks (hcap : 0 < (maxFragmentData out_cap).toNat) (hcount : r.countFor out_cap ≤ 255) :
    ¬(expectedCount (r.header (r.countFor out_cap) index).logical_length (maxFragmentData out_cap) = 0 ∨
      expectedCount (r.header (r.countFor out_cap) index).logical_length
        (maxFragmentData out_cap) > 255 ∨
      (r.header (r.countFor out_cap) index).fragment_count.toUInt16 ≠
        expectedCount (r.header (r.countFor out_cap) index).logical_length
          (maxFragmentData out_cap)) := by
  have hpos : 0 < r.logical.length := List.length_pos_iff.mpr r.logical_ne
  have hexpected : (expectedCount (r.header (r.countFor out_cap) index).logical_length
      (maxFragmentData out_cap)).toNat = r.countFor out_cap := by
    rw [expectedCount_toNat (by rw [logical_length_toNat]; exact hpos) hcap, logical_length_toNat]
    rfl
  have hone : 0 < r.countFor out_cap := Nat.div_pos (by omega) hcap
  rw [gt_iff_lt, UInt16.lt_iff_toNat_lt, ne_eq, ← UInt16.toNat_inj, ← UInt16.toNat_inj, hexpected,
    UInt8.toNat_toUInt16, fragment_count_toNat (by omega)]
  have hzero : (0 : UInt16).toNat = 0 := rfl
  have hmax : (255 : UInt16).toNat = 255 := rfl
  rw [hzero, hmax]
  omega

theorem header_checks (hcount : count ≤ 255) (hindex : index < count) :
    (r.header count index).schema_version = kSchemaVersion ∧
      (r.header count index).session_id ≠ 0 ∧ (r.header count index).capture_id ≠ 0 ∧
      (r.header count index).fragment_count ≠ 0 ∧
      ¬(r.header count index).fragment_index ≥ (r.header count index).fragment_count ∧
      (r.header count index).logical_length ≠ 0 := by
  have hvalid := @header_valid r _ _ hcount hindex
  refine ⟨hvalid.schema_version, hvalid.session_id, hvalid.capture_id, hvalid.fragment_count, ?_,
    hvalid.logical_length⟩
  rw [ge_iff_le, UInt8.not_le]
  exact hvalid.fragment_index

theorem sliceOffset_eq (hcount : count ≤ 255) (hindex : index < count) :
    (sliceOffset (r.header count index) (maxFragmentData out_cap)).toNat =
      index * (maxFragmentData out_cap).toNat := by
  rw [sliceOffset_toNat, fragment_index_toNat (by omega)]

theorem sliceAt_length : (r.sliceAt out_cap index).length =
    min (r.logical.length - index * (maxFragmentData out_cap).toNat)
      (maxFragmentData out_cap).toNat := by
  unfold sliceAt window
  rw [List.length_take, List.length_drop, Nat.min_comm]

theorem sliceLength_eq (hcap : 0 < (maxFragmentData out_cap).toNat)
    (hcount : r.countFor out_cap ≤ 255) (hindex : index < r.countFor out_cap) :
    (sliceLength (r.header (r.countFor out_cap) index) (maxFragmentData out_cap)
      (sliceOffset (r.header (r.countFor out_cap) index) (maxFragmentData out_cap))).toNat =
        (r.sliceAt out_cap index).length := by
  have hlt := offset_lt hcap hindex
  rw [sliceLength_toNat (by rw [logical_length_toNat, sliceOffset_eq hcount hindex]; exact hlt),
    sliceOffset_eq hcount hindex, logical_length_toNat, sliceAt_length]

theorem offset_checks (hcap : 0 < (maxFragmentData out_cap).toNat)
    (hcount : r.countFor out_cap ≤ 255) (hindex : index < r.countFor out_cap) :
    ¬sliceOffset (r.header (r.countFor out_cap) index) (maxFragmentData out_cap) ≥
      (r.header (r.countFor out_cap) index).logical_length.toUInt32 := by
  have hlt := offset_lt hcap hindex
  rw [ge_iff_le, UInt32.not_le, UInt32.lt_iff_toNat_lt, sliceOffset_eq hcount hindex,
    UInt16.toNat_toUInt32, logical_length_toNat]
  exact hlt

theorem window_slice (hcap : 0 < (maxFragmentData out_cap).toNat) (hcount : r.countFor out_cap ≤ 255)
    (hindex : index < r.countFor out_cap) :
    window r.logical
      (sliceOffset (r.header (r.countFor out_cap) index) (maxFragmentData out_cap)).toUInt16.toNat
      (sliceLength (r.header (r.countFor out_cap) index) (maxFragmentData out_cap)
        (sliceOffset (r.header (r.countFor out_cap) index) (maxFragmentData out_cap))).toNat =
      r.sliceAt out_cap index := by
  have hbefore := offset_lt hcap hindex
  have hshort := r.logical_lt
  have hsize : UInt16.size = 65536 := rfl
  have hoffset := @sliceOffset_eq r _ _ out_cap hcount hindex
  rw [UInt32.toNat_toUInt16, hoffset, Nat.mod_eq_of_lt (by omega),
    sliceLength_eq hcap hcount hindex, sliceAt_length, window_min]
  rfl

theorem encodeFragmentSlice_eq (hcap : 0 < (maxFragmentData out_cap).toNat)
    (hcount : r.countFor out_cap ≤ 255) (hindex : index < r.countFor out_cap) :
    encodeFragmentSlice (r.header (r.countFor out_cap) index) (r.sliceAt out_cap index) out_cap =
      some (r.fragment (r.countFor out_cap) index (r.sliceAt out_cap index)) := by
  obtain ⟨hschema, hsession, hcapture, hfrag, hbelow, hlength⟩ := @header_checks r _ _ hcount hindex
  unfold encodeFragmentSlice
  rw [if_neg, if_neg (maxFragmentData_ne_zero hcap), if_neg (count_checks hcap hcount),
    if_neg (offset_checks hcap hcount hindex), if_neg]
  · rfl
  · have hmax := @maxFragmentData_toNat out_cap
    rw [sliceLength_eq hcap hcount hindex, sliceAt_length]
    omega
  · simp only [hschema, hsession, hcapture, hfrag, hbelow, hlength, ne_eq, not_true, or_false,
      not_false_eq_true]

theorem encodeFragment_eq (hcap : 0 < (maxFragmentData out_cap).toNat)
    (hcount : r.countFor out_cap ≤ 255) (hindex : index < r.countFor out_cap) :
    encodeFragment (r.header (r.countFor out_cap) index) r.logical out_cap =
      some (r.fragment (r.countFor out_cap) index (r.sliceAt out_cap index)) := by
  obtain ⟨hschema, hsession, hcapture, hfrag, hbelow, hlength⟩ := @header_checks r _ _ hcount hindex
  have hlogical : r.logical.length ≠ 0 := fun hzero =>
    r.logical_ne (List.length_eq_zero_iff.mp hzero)
  unfold encodeFragment
  rw [if_neg, if_neg (maxFragmentData_ne_zero hcap), if_neg, if_neg (offset_checks hcap hcount hindex), if_neg,
    window_slice hcap hcount hindex]
  · exact encodeFragmentSlice_eq hcap hcount hindex
  · have hslice := sliceLength_eq hcap hcount hindex
    have hmax := @maxFragmentData_toNat out_cap
    have hlt := out_cap.toNat_lt
    have hlen := @sliceAt_length r index out_cap
    rw [gt_iff_lt, UInt16.lt_iff_toNat_lt, UInt16.toNat_add, hslice, Nat.mod_eq_of_lt (by omega)]
    omega
  · rw [← or_assoc, ← or_assoc, or_assoc (b := _ > _), not_or]
    exact ⟨count_checks hcap hcount, not_not.mpr rfl⟩
  · simp only [hschema, hsession, hcapture, hfrag, hbelow, hlogical, logical_length_toNat, ne_eq,
      not_true, or_false, not_false_eq_true]

theorem encodeFragment_none (hcount : count ≤ 255) (hindex : index < 256) (h : count ≤ index) :
    encodeFragment (r.header count index) r.logical out_cap = none := by
  have habove : (r.header count index).fragment_index ≥ (r.header count index).fragment_count := by
    rw [ge_iff_le, UInt8.le_iff_toNat_le, fragment_index_toNat hindex,
      fragment_count_toNat (by omega)]
    exact h
  unfold encodeFragment
  rw [if_pos]
  simp only [habove, true_or, or_true]

def slicesFor (r : LogicalRecord) (out_cap : UInt16) : List (List UInt8) :=
  (List.range (r.countFor out_cap)).map (r.sliceAt out_cap)

theorem slicesFor_length : (r.slicesFor out_cap).length = r.countFor out_cap := by
  unfold slicesFor
  rw [List.length_map, List.length_range]

theorem cut_slicesFor (hcap : 0 < (maxFragmentData out_cap).toNat)
    (hcount : r.countFor out_cap ≤ 255) : r.Cut (r.slicesFor out_cap) := by
  refine ⟨?_, ?_, ?_⟩
  · have hcover : r.logical.length ≤ r.countFor out_cap * (maxFragmentData out_cap).toNat := by
      unfold countFor
      have hdiv := Nat.div_add_mod (r.logical.length + (maxFragmentData out_cap).toNat - 1)
        (maxFragmentData out_cap).toNat
      have hmod := Nat.mod_lt (r.logical.length + (maxFragmentData out_cap).toNat - 1) hcap
      rw [Nat.mul_comm] at hdiv
      omega
    show ((List.range (r.countFor out_cap)).map fun i => window r.logical
      (i * (maxFragmentData out_cap).toNat) (maxFragmentData out_cap).toNat).flatten = _
    rw [flatten_windows, List.take_of_length_le hcover]
  · rw [slicesFor_length]
    exact hcount
  · intro slice hmem hnil
    obtain ⟨index, hindex, rfl⟩ := List.mem_map.mp hmem
    have hlt := offset_lt hcap (List.mem_range.mp hindex)
    have hlen := congrArg List.length hnil
    rw [sliceAt_length, List.length_nil] at hlen
    omega

theorem fragmentsFrom_range {slice : Nat → List UInt8} {n : Nat} :
    r.fragmentsFrom count index ((List.range' index n).map slice) =
      (List.range' index n).map fun i => r.fragment count i (slice i) := by
  induction n generalizing index with
  | zero => rfl
  | succ n ih =>
    rw [List.range'_succ, List.map_cons, List.map_cons, fragmentsFrom, ih]

theorem fragments_slicesFor : r.fragments (r.slicesFor out_cap) =
    (List.range (r.countFor out_cap)).map fun i =>
      r.fragment (r.countFor out_cap) i (r.sliceAt out_cap i) := by
  unfold fragments
  rw [slicesFor_length]
  unfold slicesFor
  rw [List.range_eq_range', fragmentsFrom_range]

theorem feed_fragments {rx : Receiver} {slices : List (List UInt8)} (hactive : rx.state.active = false)
    (hcut : r.Cut slices) (hroom : r.logical.length ≤ rx.out.length) :
    (feed rx (r.fragments slices)).2 = .replicate (slices.length - 1) .accepted ++ [.complete] ∧
      (feed rx (r.fragments slices)).1.out.take r.logical.length = r.logical := by
  refine ⟨?_, ((completes_iff hcut hroom).mpr (Or.inl hactive)).2⟩
  rw [feed_inactive hactive hcut hroom]
  obtain ⟨slice, rest, rfl⟩ := List.exists_cons_of_ne_nil hcut.ne_nil
  refine feed_holds hcut.left ?_ holds_opened
  exact hroom

end LogicalRecord

/-- A record is encoded for the indices below its fragment count, by both encoders alike, and what is
encoded is put together to the record. -/
theorem fragments_round_trip (r : LogicalRecord) (out_cap : UInt16)
    (hcap : 0 < (maxFragmentData out_cap).toNat) (hcount : r.countFor out_cap ≤ 255) :
    (∀ index < UInt8.size, (encodeFragment (r.header (r.countFor out_cap) index) r.logical
      out_cap).isSome ↔ index < r.countFor out_cap) ∧
    (∀ index < r.countFor out_cap,
      encodeFragmentSlice (r.header (r.countFor out_cap) index) (r.sliceAt out_cap index) out_cap =
        encodeFragment (r.header (r.countFor out_cap) index) r.logical out_cap) ∧
    ∀ (rx : Receiver) (payloads : List (List UInt8)), rx.state.active = false →
      r.logical.length ≤ rx.out.length →
      payloads.map some = (List.range (r.countFor out_cap)).map (fun index =>
        encodeFragment (r.header (r.countFor out_cap) index) r.logical out_cap) →
      (feed rx payloads).2 = .replicate (r.countFor out_cap - 1) .accepted ++ [.complete] ∧
        (feed rx payloads).1.out.take r.logical.length = r.logical := by
  refine ⟨fun index hindex => ?_, fun index hindex => ?_, ?_⟩
  · by_cases hlt : index < r.countFor out_cap
    · rw [LogicalRecord.encodeFragment_eq hcap hcount hlt]
      exact iff_of_true rfl hlt
    · rw [LogicalRecord.encodeFragment_none hcount hindex (Nat.not_lt.mp hlt)]
      exact iff_of_false Bool.false_ne_true hlt
  · rw [LogicalRecord.encodeFragmentSlice_eq hcap hcount hindex,
      LogicalRecord.encodeFragment_eq hcap hcount hindex]
  · intro rx payloads hactive hroom hpayloads
    have heq : payloads = r.fragments (r.slicesFor out_cap) := by
      rw [← List.map_inj_right (fun _ _ => Option.some.inj), hpayloads,
        LogicalRecord.fragments_slicesFor, List.map_map]
      refine List.map_congr_left fun index hindex => ?_
      exact LogicalRecord.encodeFragment_eq hcap hcount (List.mem_range.mp hindex)
    have hfeed := LogicalRecord.feed_fragments hactive (LogicalRecord.cut_slicesFor hcap hcount) hroom
    rw [LogicalRecord.slicesFor_length, ← heq] at hfeed
    exact hfeed

theorem fragments_round_trip_interrupted :
    (feed { out := [0, 0, 0] }
      [interrupted.fragment 2 0 [1], interrupted.fragment 2 1 [2]]).2 = [.accepted, .complete] :=
  ((fragments_round_trip interrupted 22 (by decide) (by decide)).2.2 { out := [0, 0, 0] }
    [interrupted.fragment 2 0 [1], interrupted.fragment 2 1 [2]] rfl (by decide)
    (by decide +kernel)).1

/-!
## A record is cut for the wire

The loop over the fragments cuts the record into slices of one capacity, the last one shorter, and none of
its calls of `encodeFragmentSlice` fails.
-/

def LogicalRecord.record (r : LogicalRecord) : Record where
  view :=
    { type := r.record_type
      session_id := r.session_id
      capture_id := r.capture_id
      record_seq := r.record_seq
      logical_length := UInt16.ofNat r.logical.length
      logical_crc16 := crc16 r.logical }
  bytes := r.logical

def eventId (type : RecordType) : UInt8 :=
  if type = .outputBlocked then kOutputBlockedEvent else kTraceFragmentEvent

variable {r : LogicalRecord} {index : Nat}

theorem eventCapacity : (maxFragmentData kMaxEventPayload).toNat = 235 := by
  rw [maxFragmentData_toNat]
  rfl

theorem countFor_event (hlen : r.logical.length ≤ kMaxLogicalRecordBytes) :
    r.countFor kMaxEventPayload ≤ 5 := by
  have hlen' : r.logical.length ≤ 960 := hlen
  unfold LogicalRecord.countFor
  rw [eventCapacity]
  omega

theorem fragmentCount_eq (r : LogicalRecord) :
    fragmentCount (UInt16.ofNat r.logical.length) = UInt8.ofNat (r.countFor kMaxEventPayload) := by
  have hsize : (UInt16.ofNat r.logical.length).toNat = r.logical.length := by
    rw [UInt16.toNat_ofNat', Nat.mod_eq_of_lt r.logical_lt]
  have hpos := List.length_pos_of_ne_nil r.logical_ne
  have hexpected := @expectedCount_toNat (UInt16.ofNat r.logical.length)
    (maxFragmentData kMaxEventPayload) (by omega) (by rw [eventCapacity]; omega)
  rw [hsize] at hexpected
  have hbyte (q : UInt32) : q.toUInt8.toNat = q.toUInt16.toNat % 256 := by
    rw [UInt32.toNat_toUInt8, UInt32.toNat_toUInt16]
    omega
  rw [← UInt8.toNat_inj, UInt8.toNat_ofNat']
  unfold fragmentCount
  rw [hbyte]
  exact congrArg (· % 256) hexpected

theorem fragmentEvent_eq (hlen : r.logical.length ≤ kMaxLogicalRecordBytes)
    (hindex : index < r.countFor kMaxEventPayload) :
    fragmentEvent r.record (UInt8.ofNat index) =
      some (eventId r.record_type,
        r.fragment (r.countFor kMaxEventPayload) index (r.sliceAt kMaxEventPayload index)) := by
  have hcap : 0 < (maxFragmentData kMaxEventPayload).toNat := by
    rw [eventCapacity]
    omega
  have hfive := countFor_event hlen
  have hslice := LogicalRecord.window_slice hcap (by omega) hindex
  have hencode := (congrArg (encodeFragmentSlice (r.header (r.countFor kMaxEventPayload) index) ·
    kMaxEventPayload) hslice).trans (LogicalRecord.encodeFragmentSlice_eq hcap (by omega) hindex)
  unfold fragmentEvent
  have hcount : fragmentCount r.record.view.logical_length =
      UInt8.ofNat (r.countFor kMaxEventPayload) := fragmentCount_eq r
  rw [hcount]
  exact congrArg (Option.map fun payload => (eventId r.record_type, payload)) hencode

theorem mapM_of_some {α β : Type} {f : α → Option β} {g : α → β} {l : List α}
    (h : ∀ a ∈ l, f a = some (g a)) : l.mapM f = some (l.map g) := by
  induction l with
  | nil => rfl
  | cons a l ih =>
    rw [List.forall_mem_cons] at h
    rw [List.mapM_cons, h.1, ih h.2]
    rfl

theorem recordEvents_eq (hlen : r.logical.length ≤ kMaxLogicalRecordBytes) :
    recordEvents r.record =
      some ((List.range (r.countFor kMaxEventPayload)).map fun index =>
        (eventId r.record_type,
          r.fragment (r.countFor kMaxEventPayload) index (r.sliceAt kMaxEventPayload index))) := by
  have hfive := countFor_event hlen
  have hcount : (fragmentCount r.record.view.logical_length).toNat = r.countFor kMaxEventPayload := by
    show (fragmentCount (UInt16.ofNat r.logical.length)).toNat = _
    rw [fragmentCount_eq r, UInt8.toNat_ofNat', Nat.mod_eq_of_lt (by omega)]
  unfold recordEvents
  rw [hcount]
  exact mapM_of_some fun index hindex => fragmentEvent_eq hlen (List.mem_range.mp hindex)

end HexapodVerified.Hil
