import HexapodVerified.Hil.TraceCodec

/-!
# What a receiver completes

A record that is cut into slices is sent as one fragment for each slice. A receiver that is inactive takes
the whole record. One that is active completes it only if it holds the first slices of this very record:
nothing but the end of a record clears the header that is open. The header is adopted before the length
of the first fragment is checked.
-/

namespace HexapodVerified.Hil

open Bytes Protocol

section Headers

variable {header : FragmentHeader} {data : List UInt8}

structure FragmentHeader.Valid (header : FragmentHeader) : Prop where
  schema_version : header.schema_version = kSchemaVersion
  session_id : header.session_id ≠ 0
  capture_id : header.capture_id ≠ 0
  fragment_index : header.fragment_index < header.fragment_count
  logical_length : header.logical_length ≠ 0

theorem FragmentHeader.Valid.fragment_count (h : header.Valid) : header.fragment_count ≠ 0 := by
  intro hzero
  have hlt := UInt8.lt_iff_toNat_lt.mp h.fragment_index
  rw [hzero] at hlt
  exact absurd hlt (Nat.not_lt_zero _)

theorem decodeHeader_prefix (h : header.Valid) :
    decodeHeader (fragmentPrefix header ++ data) = some (header, data.length) := by
  have hlen : (fragmentPrefix header ++ data).length = 21 + data.length := by
    rw [List.length_append]
    rfl
  have htype : RecordType.ofNumber ((fragmentPrefix header ++ data).getD 14 0) =
      some header.record_type := RecordType.ofNumber_number _
  have hschema : getU16 (fragmentPrefix header ++ data) = header.schema_version :=
    getU16_putU16 header.schema_version
  have hsession : getU32 ((fragmentPrefix header ++ data).drop 2) = header.session_id :=
    getU32_putU32 header.session_id
  have hcapture : getU32 ((fragmentPrefix header ++ data).drop 6) = header.capture_id :=
    getU32_putU32 header.capture_id
  have hseq : getU32 ((fragmentPrefix header ++ data).drop 10) = header.record_seq :=
    getU32_putU32 header.record_seq
  have hlength : getU16 ((fragmentPrefix header ++ data).drop 17) = header.logical_length :=
    getU16_putU16 header.logical_length
  have hcrc : getU16 ((fragmentPrefix header ++ data).drop 19) = header.logical_crc16 :=
    getU16_putU16 header.logical_crc16
  have hindex : (fragmentPrefix header ++ data).getD 15 0 = header.fragment_index := rfl
  have hcount : (fragmentPrefix header ++ data).getD 16 0 = header.fragment_count := rfl
  have hbelow : ¬header.fragment_index ≥ header.fragment_count := by
    rw [ge_iff_le, UInt8.not_le]
    exact h.fragment_index
  unfold decodeHeader
  rw [htype, hschema, hsession, hcapture, hseq, hlength, hcrc, hindex, hcount, hlen, if_neg]
  · dsimp only
    rw [if_neg]
    · show some (header, 21 + data.length - 21) = _
      rw [Nat.add_sub_cancel_left]
    · simp only [h.schema_version, h.session_id, h.capture_id, h.fragment_count, hbelow,
        h.logical_length, ne_eq, not_true, or_false, not_false_eq_true]
  · show ¬21 + data.length < 21
    omega

end Headers

variable {rx : Receiver} {data : List UInt8}

theorem overwrite_length {out : List UInt8} {index : Nat} (h : index + data.length ≤ out.length) :
    (overwrite out index data).length = out.length := by
  unfold overwrite
  rw [List.length_append, List.length_append, List.length_take, List.length_drop]
  omega

theorem take_overwrite {out : List UInt8} {index : Nat} (h : index + data.length ≤ out.length) :
    (overwrite out index data).take (index + data.length) = out.take index ++ data := by
  have hlen : (out.take index ++ data).length = index + data.length := by
    rw [List.length_append, List.length_take]
    omega
  unfold overwrite
  rw [← List.append_assoc, ← hlen, List.take_left]

structure LogicalRecord where
  session_id : UInt32
  capture_id : UInt32
  record_seq : UInt32
  record_type : RecordType
  logical : List UInt8
  session_id_ne : session_id ≠ 0
  capture_id_ne : capture_id ≠ 0
  logical_ne : logical ≠ []
  logical_lt : logical.length < UInt16.size

namespace LogicalRecord

def header (r : LogicalRecord) (count index : Nat) : FragmentHeader where
  session_id := r.session_id
  capture_id := r.capture_id
  record_seq := r.record_seq
  record_type := r.record_type
  fragment_index := UInt8.ofNat index
  fragment_count := UInt8.ofNat count
  logical_length := UInt16.ofNat r.logical.length
  logical_crc16 := crc16 r.logical

def fragment (r : LogicalRecord) (count index : Nat) (slice : List UInt8) : List UInt8 :=
  fragmentPrefix (r.header count index) ++ slice

/-- The fragments of the slices from `index` on. -/
def fragmentsFrom (r : LogicalRecord) (count : Nat) : Nat → List (List UInt8) → List (List UInt8)
  | _, [] => []
  | index, slice :: slices =>
    r.fragment count index slice :: fragmentsFrom r count (index + 1) slices

/-- The fragments of a record that is cut into `slices`. -/
def fragments (r : LogicalRecord) (slices : List (List UInt8)) : List (List UInt8) :=
  r.fragmentsFrom slices.length 0 slices

structure Cut (r : LogicalRecord) (slices : List (List UInt8)) : Prop where
  flatten : slices.flatten = r.logical
  count : slices.length ≤ 255
  slice_ne : ∀ slice ∈ slices, slice ≠ []

variable {r : LogicalRecord} {count index : Nat} {slice : List UInt8}

theorem logical_length_toNat : (r.header count index).logical_length.toNat = r.logical.length := by
  show (UInt16.ofNat r.logical.length).toNat = _
  rw [UInt16.toNat_ofNat', Nat.mod_eq_of_lt r.logical_lt]

theorem fragment_index_toNat (h : index < 256) :
    (r.header count index).fragment_index.toNat = index := by
  show (UInt8.ofNat index).toNat = _
  rw [UInt8.toNat_ofNat', Nat.mod_eq_of_lt h]

theorem fragment_count_toNat (h : count < 256) :
    (r.header count index).fragment_count.toNat = count := by
  show (UInt8.ofNat count).toNat = _
  rw [UInt8.toNat_ofNat', Nat.mod_eq_of_lt h]

theorem header_valid (hcount : count ≤ 255) (hindex : index < count) :
    (r.header count index).Valid := by
  refine ⟨rfl, r.session_id_ne, r.capture_id_ne, ?_, ?_⟩
  · rw [UInt8.lt_iff_toNat_lt, fragment_index_toNat (by omega), fragment_count_toNat (by omega)]
    exact hindex
  · intro hzero
    have hnat := congrArg UInt16.toNat hzero
    rw [logical_length_toNat] at hnat
    exact r.logical_ne (List.length_eq_zero_iff.mp hnat)

theorem sameRecord_header {other : FragmentHeader} :
    sameRecord other (r.header count index) ↔ sameRecord other (r.header count 0) := Iff.rfl

/-! ## Reception -/

/-- The receiver has got the first fragments of the record, with the bytes `done`. -/
structure Holds (r : LogicalRecord) (count : Nat) (rx : Receiver) (index : Nat) (done : List UInt8) :
    Prop where
  active : rx.state.active = true
  record : sameRecord rx.state.header (r.header count 0)
  next_fragment : rx.state.next_fragment.toNat = index
  received : rx.state.received.toNat = done.length
  out : rx.out.take done.length = done

/-- What is left of the record behind the bytes `done`: the slices from `index` on. -/
structure Left (r : LogicalRecord) (count : Nat) (done : List UInt8) (index : Nat)
    (slices : List (List UInt8)) : Prop where
  bytes : done ++ slices.flatten = r.logical
  total : index + slices.length = count
  small : count ≤ 255
  slice_ne : ∀ slice ∈ slices, slice ≠ []

variable {done : List UInt8} {slices : List (List UInt8)}

theorem Left.tail (h : r.Left count done index (slice :: slices)) :
    r.Left count (done ++ slice) (index + 1) slices := by
  refine ⟨?_, ?_, h.small, fun s hs => h.slice_ne s (List.mem_cons_of_mem _ hs)⟩
  · rw [List.append_assoc, ← List.flatten_cons]
    exact h.bytes
  · have hcount := h.total
    rw [List.length_cons] at hcount
    omega

theorem Left.length_le (h : r.Left count done index (slice :: slices)) :
    done.length + slice.length ≤ r.logical.length := by
  rw [← h.bytes, List.length_append, List.flatten_cons, List.length_append]
  omega

theorem acceptFragment_active (hactive : rx.state.active = true)
    (hleft : r.Left count done index (slice :: slices)) (hroom : r.logical.length ≤ rx.out.length) :
    acceptFragment rx (r.fragment count index slice) =
      if sameRecord rx.state.header (r.header count 0) then
        appendFragment rx (r.header count index) slice
      else (.wrongRecord, rx) := by
  have hcount := hleft.total
  have hsmall := hleft.small
  have hslice : slice.length ≠ 0 := fun hzero =>
    hleft.slice_ne slice List.mem_cons_self (List.length_eq_zero_iff.mp hzero)
  rw [List.length_cons] at hcount
  have hdata : (r.fragment count index slice).drop kFragmentPrefixBytes.toNat = slice :=
    @List.drop_left _ (fragmentPrefix (r.header count index)) slice
  have hfits : ¬(slice.length = 0 ∨
      (r.header count index).logical_length.toNat > rx.out.length) := by
    rw [logical_length_toNat]
    rintro (hzero | hlarge)
    · exact hslice hzero
    · omega
  unfold acceptFragment
  rw [show decodeHeader (r.fragment count index slice) =
    some (r.header count index, slice.length) from
      decodeHeader_prefix (header_valid hsmall (by omega))]
  dsimp only
  rw [if_neg hfits, hdata, hactive]
  rw [if_neg (by decide)]
  by_cases hsame : sameRecord rx.state.header (r.header count index)
  · rw [if_neg (not_not.mpr hsame), if_pos (sameRecord_header.mp hsame)]
  · rw [if_pos hsame, if_neg (sameRecord_header.not.mp hsame)]

def appended (rx : Receiver) (slice : List UInt8) : Receiver where
  state := { rx.state with
    received := rx.state.received + UInt16.ofNat slice.length
    next_fragment := rx.state.next_fragment + 1 }
  out := overwrite rx.out rx.state.received.toNat slice

theorem appended_received (hfits : rx.state.received.toNat + slice.length ≤ r.logical.length) :
    (appended rx slice).state.received.toNat = rx.state.received.toNat + slice.length := by
  have hlt := r.logical_lt
  show (rx.state.received + UInt16.ofNat slice.length).toNat = _
  rw [UInt16.toNat_add, UInt16.toNat_ofNat', Nat.mod_eq_of_lt (by dsimp only [UInt16.size] at hlt; omega),
    Nat.mod_eq_of_lt (by dsimp only [UInt16.size] at hlt; omega)]

theorem appended_next (hsmall : rx.state.next_fragment.toNat < 255) :
    (appended rx slice).state.next_fragment.toNat = rx.state.next_fragment.toNat + 1 := by
  show (rx.state.next_fragment + 1).toNat = _
  have hone : (1 : UInt8).toNat = 1 := rfl
  rw [UInt8.toNat_add, hone, Nat.mod_eq_of_lt (by omega)]

/-- The fragment is the next one of the open record, and there is room for it. -/
structure InOrder (r : LogicalRecord) (count : Nat) (rx : Receiver) (index : Nat)
    (slice : List UInt8) : Prop where
  record : sameRecord rx.state.header (r.header count 0)
  next_fragment : rx.state.next_fragment.toNat = index
  fits : rx.state.received.toNat + slice.length ≤ r.logical.length

theorem Holds.inOrder (h : r.Holds count rx index done)
    (hleft : r.Left count done index (slice :: slices)) : r.InOrder count rx index slice :=
  ⟨h.record, h.next_fragment, h.received ▸ hleft.length_le⟩

theorem acceptFragment_refused (hactive : rx.state.active = true)
    (hleft : r.Left count done index (slice :: slices)) (hroom : r.logical.length ≤ rx.out.length)
    (h : ¬r.InOrder count rx index slice) :
    ∃ result, result ≠ .complete ∧
      acceptFragment rx (r.fragment count index slice) = (result, rx) := by
  have hcount := hleft.total
  have hsmall := hleft.small
  rw [acceptFragment_active hactive hleft hroom]
  by_cases hsame : sameRecord rx.state.header (r.header count 0)
  · refine ⟨.outOfOrder, by decide, ?_⟩
    rw [if_pos hsame]
    unfold appendFragment
    rw [if_pos]
    rw [logical_length_toNat]
    by_cases hnext : rx.state.next_fragment.toNat = index
    · exact Or.inr (Nat.not_le.mp fun hfits => h ⟨hsame, hnext, hfits⟩)
    · refine Or.inl fun heq => hnext ?_
      rw [← heq, fragment_index_toNat (by omega)]
  · exact ⟨.wrongRecord, by decide, if_neg hsame⟩

theorem acceptFragment_inOrder (hactive : rx.state.active = true)
    (hleft : r.Left count done index (slice :: slices)) (hroom : r.logical.length ≤ rx.out.length)
    (h : r.InOrder count rx index slice) :
    acceptFragment rx (r.fragment count index slice) =
      if slices ≠ [] then (.accepted, appended rx slice)
      else if (appended rx slice).state.received.toNat ≠ r.logical.length ∨
          crc16 ((appended rx slice).out.take (appended rx slice).state.received.toNat) ≠
            crc16 r.logical then
        (.badCrc, { appended rx slice with
          state := { (appended rx slice).state with active := false } })
      else
        (.complete, { appended rx slice with
          state := { (appended rx slice).state with active := false } }) := by
  have hcount := hleft.total
  have hsmall := hleft.small
  rw [List.length_cons] at hcount
  have hindex : (r.header count index).fragment_index = rx.state.next_fragment := by
    rw [← UInt8.toNat_inj, fragment_index_toNat (by omega), h.next_fragment]
  have hlater : (appended rx slice).state.next_fragment < (r.header count index).fragment_count ↔
      slices ≠ [] := by
    have hnext := h.next_fragment
    rw [UInt8.lt_iff_toNat_lt, appended_next (by omega), fragment_count_toNat (by omega), hnext,
      ← hcount, ← List.length_pos_iff]
    omega
  have hlength : (appended rx slice).state.received ≠ (r.header count index).logical_length ↔
      (appended rx slice).state.received.toNat ≠ r.logical.length := by
    rw [ne_eq, ← UInt16.toNat_inj, logical_length_toNat]
  have hfits : ¬((r.header count index).fragment_index ≠ rx.state.next_fragment ∨
      rx.state.received.toNat + slice.length > (r.header count index).logical_length.toNat) := by
    rw [not_or, not_not, logical_length_toNat]
    exact ⟨hindex, Nat.not_lt.mpr h.fits⟩
  rw [acceptFragment_active hactive hleft hroom, if_pos h.record]
  unfold appendFragment
  rw [if_neg hfits]
  exact if_congr hlater rfl (if_congr (or_congr hlength Iff.rfl) rfl rfl)

/-- The receiver holds one fragment more exactly if it held those before. -/
theorem holds_appended (hactive : rx.state.active = true)
    (hleft : r.Left count done index (slice :: slices)) (hroom : r.logical.length ≤ rx.out.length)
    (h : r.InOrder count rx index slice) :
    r.Holds count (appended rx slice) (index + 1) (done ++ slice) ↔ r.Holds count rx index done := by
  have hcount := hleft.total
  have hsmall := hleft.small
  have hfits := h.fits
  have hnext := h.next_fragment
  rw [List.length_cons] at hcount
  have hreceived := appended_received hfits
  have htake : (appended rx slice).out.take (rx.state.received.toNat + slice.length) =
      rx.out.take rx.state.received.toNat ++ slice := take_overwrite (by omega)
  have hlen : (done ++ slice).length = done.length + slice.length := List.length_append
  constructor
  · intro hheld
    have hdone : rx.state.received.toNat = done.length := by
      have heq := hheld.received
      omega
    refine ⟨hactive, h.record, hnext, hdone, ?_⟩
    have hout := hheld.out
    rw [hlen, ← hdone, htake] at hout
    rw [← hdone]
    exact List.append_cancel_right hout
  · intro hheld
    refine ⟨hactive, h.record, ?_, ?_, ?_⟩
    · rw [appended_next (by omega), hnext]
    · rw [hreceived, hheld.received, hlen]
    · rw [hlen, ← hheld.received, htake, hheld.received, hheld.out]

/-- The last result is `Complete` and the buffer starts with the record. -/
def Completes (r : LogicalRecord) (fed : Receiver × List ReassemblyResult) : Prop :=
  fed.2.getLast? = some .complete ∧ fed.1.out.take r.logical.length = r.logical

theorem completes_last (hactive : rx.state.active = true)
    (hleft : r.Left count done index [slice]) (hroom : r.logical.length ≤ rx.out.length) :
    r.Completes (feed rx [r.fragment count index slice]) ↔ r.Holds count rx index done := by
  have hwhole : done ++ slice = r.logical := by
    rw [← hleft.bytes, List.flatten_singleton]
  by_cases h : r.InOrder count rx index slice
  · have haccept := acceptFragment_inOrder hactive hleft hroom h
    rw [if_neg (not_not.mpr rfl)] at haccept
    have hheld := holds_appended hactive hleft hroom h
    rw [hwhole] at hheld
    rw [← hheld]
    unfold feed
    rw [haccept]
    by_cases hbad : (appended rx slice).state.received.toNat ≠ r.logical.length ∨
        crc16 ((appended rx slice).out.take (appended rx slice).state.received.toNat) ≠
          crc16 r.logical
    · rw [if_pos hbad]
      refine iff_of_false ?_ fun hlast => ?_
      · rintro ⟨hlast, -⟩
        cases hlast
      · rcases hbad with hlength | hcrc
        · exact hlength hlast.received
        · refine hcrc ?_
          rw [hlast.received, hlast.out]
    · rw [if_neg hbad]
      rw [not_or, not_not] at hbad
      have hcount := hleft.total
      have hsmall := hleft.small
      have hnext := h.next_fragment
      rw [List.length_singleton] at hcount
      constructor
      · rintro ⟨-, hout⟩
        refine ⟨hactive, h.record, ?_, hbad.1, hout⟩
        rw [appended_next (by omega), hnext]
      · exact fun hlast => ⟨rfl, hlast.out⟩
  · obtain ⟨result, hne, haccept⟩ := acceptFragment_refused hactive hleft hroom h
    unfold feed
    rw [haccept]
    refine iff_of_false ?_ fun hheld => h (hheld.inOrder hleft)
    rintro ⟨hlast, -⟩
    exact hne (Option.some.inj hlast)

def HoldsSome (r : LogicalRecord) (count : Nat) (rx : Receiver) (index : Nat) (done : List UInt8)
    (slices : List (List UInt8)) : Prop :=
  ∃ first rest, slices = first ++ rest ∧ rest ≠ [] ∧
    r.Holds count rx (index + first.length) (done ++ first.flatten)

theorem holdsSome_cons : r.HoldsSome count rx index done (slice :: slices) ↔
    r.Holds count rx index done ∨ r.HoldsSome count rx (index + 1) (done ++ slice) slices := by
  constructor
  · rintro ⟨first, rest, heq, hne, hheld⟩
    cases first with
    | nil =>
      rw [List.flatten_nil, List.append_nil] at hheld
      exact Or.inl hheld
    | cons head first =>
      obtain ⟨rfl, hrest⟩ := List.cons.inj heq
      refine Or.inr ⟨first, rest, hrest, hne, ?_⟩
      rw [List.flatten_cons, ← List.append_assoc, List.length_cons] at hheld
      rw [Nat.add_assoc, Nat.add_comm 1]
      exact hheld
  · rintro (hheld | ⟨first, rest, heq, hne, hheld⟩)
    · refine ⟨[], slice :: slices, rfl, List.cons_ne_nil _ _, ?_⟩
      rw [List.flatten_nil, List.append_nil]
      exact hheld
    · refine ⟨slice :: first, rest, by rw [heq, List.cons_append], hne, ?_⟩
      rw [Nat.add_assoc, Nat.add_comm 1] at hheld
      rw [List.flatten_cons, ← List.append_assoc, List.length_cons]
      exact hheld

theorem HoldsSome.next_le (h : r.HoldsSome count rx index done slices) :
    index ≤ rx.state.next_fragment.toNat := by
  obtain ⟨first, -, -, -, hheld⟩ := h
  rw [hheld.next_fragment]
  exact Nat.le_add_right _ _

theorem feed_cons {payload : List UInt8} {payloads : List (List UInt8)} (hne : payloads ≠ []) :
    r.Completes (feed rx (payload :: payloads)) ↔
      r.Completes (feed (acceptFragment rx payload).2 payloads) := by
  obtain ⟨second, rest, rfl⟩ := List.exists_cons_of_ne_nil hne
  conv_lhs => unfold feed
  unfold Completes
  have hlast : ∀ results : List ReassemblyResult, results ≠ [] →
      ((acceptFragment rx payload).1 :: results).getLast? = results.getLast? := by
    intro results hresults
    rw [List.getLast?_cons, List.getLast?_eq_some_getLast hresults]
    rfl
  rw [hlast _ (by unfold feed; exact List.cons_ne_nil _ _)]

/-- An active receiver completes the record exactly if it holds the first slices of what it gets. -/
theorem completes_iff_holdsSome (hactive : rx.state.active = true)
    (hleft : r.Left count done index slices) (hroom : r.logical.length ≤ rx.out.length) :
    r.Completes (feed rx (r.fragmentsFrom count index slices)) ↔
      r.HoldsSome count rx index done slices := by
  induction slices generalizing rx index done with
  | nil =>
    refine iff_of_false ?_ ?_
    · rintro ⟨hlast, -⟩
      cases hlast
    · rintro ⟨first, rest, heq, hne, -⟩
      exact hne (List.append_eq_nil_iff.mp heq.symm).2
  | cons slice slices ih =>
    cases slices with
    | nil =>
      unfold fragmentsFrom fragmentsFrom
      rw [completes_last hactive hleft hroom, holdsSome_cons]
      refine ⟨Or.inl, ?_⟩
      rintro (hheld | ⟨first, rest, heq, hne, -⟩)
      · exact hheld
      · exact absurd (List.append_eq_nil_iff.mp heq.symm).2 hne
    | cons next slices =>
      have htail := hleft.tail
      have hrest : r.fragmentsFrom count (index + 1) (next :: slices) ≠ [] := by
        exact List.cons_ne_nil _ _
      rw [holdsSome_cons]
      unfold fragmentsFrom
      rw [feed_cons hrest]
      by_cases h : r.InOrder count rx index slice
      · have haccept := acceptFragment_inOrder hactive hleft hroom h
        rw [if_pos (List.cons_ne_nil _ _)] at haccept
        rw [haccept]
        have hlen : (appended rx slice).out.length = rx.out.length := by
          have hfits := h.fits
          exact overwrite_length (by omega)
        have hnext : (appended rx slice).state.next_fragment.toNat = index + 1 := by
          have hcount := hleft.total
          have hsmall := hleft.small
          have hindex := h.next_fragment
          rw [List.length_cons] at hcount
          rw [appended_next (by omega), hindex]
        rw [@ih (appended rx slice) _ _ hactive htail (hlen ▸ hroom), holdsSome_cons,
          holds_appended hactive hleft hroom h]
        refine ⟨?_, ?_⟩
        · rintro (hheld | hsome)
          · exact Or.inl hheld
          · have hle := hsome.next_le
            omega
        · rintro (hheld | hsome)
          · exact Or.inl hheld
          · have hle := hsome.next_le
            have hindex := h.next_fragment
            omega
      · obtain ⟨result, -, haccept⟩ := acceptFragment_refused hactive hleft hroom h
        rw [haccept, ih hactive htail hroom]
        refine ⟨Or.inr, ?_⟩
        rintro (hheld | hsome)
        · exact absurd (hheld.inOrder hleft) h
        · exact hsome

theorem feed_holds (hleft : r.Left count done index (slice :: slices))
    (hroom : r.logical.length ≤ rx.out.length) (h : r.Holds count rx index done) :
    (feed rx (r.fragmentsFrom count index (slice :: slices))).2 =
      .replicate slices.length .accepted ++ [.complete] := by
  induction slices generalizing rx index done slice with
  | nil =>
    obtain ⟨hlast, -⟩ := (completes_last h.active hleft hroom).mpr h
    exact congrArg (· :: []) (Option.some.inj hlast)
  | cons next slices ih =>
    have horder := h.inOrder hleft
    have haccept := acceptFragment_inOrder h.active hleft hroom horder
    rw [if_pos (List.cons_ne_nil _ _)] at haccept
    have hlen : (appended rx slice).out.length = rx.out.length := by
      have hfits := horder.fits
      exact overwrite_length (by omega)
    have hrest := ih hleft.tail (hlen ▸ hroom)
      ((holds_appended h.active hleft hroom horder).mpr h)
    rw [fragmentsFrom]
    unfold feed
    rw [haccept]
    dsimp only
    rw [hrest]
    rfl

theorem acceptFragment_inactive (hactive : rx.state.active = false)
    (hleft : r.Left count [] 0 (slice :: slices)) (hroom : r.logical.length ≤ rx.out.length) :
    acceptFragment rx (r.fragment count 0 slice) =
      acceptFragment { rx with state := .opened (r.header count 0) } (r.fragment count 0 slice) := by
  have hcount := hleft.total
  rw [List.length_cons] at hcount
  have hfits : ¬(slice.length = 0 ∨ (r.header count 0).logical_length.toNat > rx.out.length) := by
    rw [logical_length_toNat]
    rintro (hzero | hlarge)
    · exact hleft.slice_ne slice List.mem_cons_self (List.length_eq_zero_iff.mp hzero)
    · omega
  have hdata : (r.fragment count 0 slice).drop kFragmentPrefixBytes.toNat = slice :=
    @List.drop_left _ (fragmentPrefix (r.header count 0)) slice
  have hsame : sameRecord (r.header count 0) (r.header count 0) :=
    ⟨rfl, rfl, rfl, rfl, rfl, rfl, rfl, rfl⟩
  have hopened : acceptFragment { rx with state := .opened (r.header count 0) }
      (r.fragment count 0 slice) = _ := acceptFragment_active rfl hleft hroom
  rw [hopened]
  unfold acceptFragment
  rw [show decodeHeader (r.fragment count 0 slice) = some (r.header count 0, slice.length) from
    decodeHeader_prefix (header_valid hleft.small (by omega))]
  have hfirst : ¬(r.header count 0).fragment_index ≠ 0 := not_not.mpr rfl
  dsimp only
  rw [if_neg hfits, hdata, hactive, if_pos (by decide), if_neg hfirst]
  exact (if_pos hsame).symm

theorem Cut.left (h : r.Cut slices) : r.Left slices.length [] 0 slices :=
  ⟨h.flatten, Nat.zero_add _, h.count, h.slice_ne⟩

theorem Cut.ne_nil (h : r.Cut slices) : slices ≠ [] := by
  rintro rfl
  exact r.logical_ne (h.flatten.symm.trans List.flatten_nil)

theorem holds_opened : r.Holds count { rx with state := .opened (r.header count 0) } 0 [] :=
  ⟨rfl, ⟨rfl, rfl, rfl, rfl, rfl, rfl, rfl, rfl⟩, rfl, rfl, rfl⟩

theorem feed_inactive (hactive : rx.state.active = false) (hcut : r.Cut slices)
    (hroom : r.logical.length ≤ rx.out.length) : (feed rx (r.fragments slices)) =
      feed { rx with state := .opened (r.header slices.length 0) } (r.fragments slices) := by
  obtain ⟨slice, rest, rfl⟩ := List.exists_cons_of_ne_nil hcut.ne_nil
  unfold fragments fragmentsFrom
  conv_lhs => unfold feed
  conv_rhs => unfold feed
  rw [acceptFragment_inactive hactive hcut.left hroom]

/-- A record is completed exactly if the receiver is inactive or holds the first slices of it. -/
theorem completes_iff (hcut : r.Cut slices) (hroom : r.logical.length ≤ rx.out.length) :
    r.Completes (feed rx (r.fragments slices)) ↔
      rx.state.active = false ∨ r.HoldsSome slices.length rx 0 [] slices := by
  cases hactive : rx.state.active with
  | true =>
    have hsome := completes_iff_holdsSome hactive hcut.left hroom
    rw [← hsome]
    exact ⟨Or.inr, fun h => h.resolve_left Bool.noConfusion⟩
  | false =>
    refine iff_of_true ?_ (Or.inl rfl)
    have hopened : r.Completes (feed { rx with state := .opened (r.header slices.length 0) }
        (r.fragments slices)) ↔ _ := completes_iff_holdsSome rfl hcut.left hroom
    rw [feed_inactive hactive hcut hroom, hopened]
    exact ⟨[], slices, rfl, hcut.ne_nil, holds_opened⟩

end LogicalRecord

def ReassemblyResult.Refuses (result : ReassemblyResult) : Prop :=
  result = .badRequest ∨ result = .outOfOrder ∨ result = .wrongRecord

/-- A first fragment with more data than the record it announces comes to an inactive receiver. -/
def Oversized (rx : Receiver) (payload : List UInt8) : Prop :=
  rx.state.active = false ∧ ∃ header fragment_data_len,
    decodeHeader payload = some (header, fragment_data_len) ∧ header.fragment_index = 0 ∧
      header.logical_length.toNat ≤ rx.out.length ∧
      header.logical_length.toNat < fragment_data_len

theorem decodeHeader_length {payload : List UInt8} {header : FragmentHeader} {len : Nat}
    (h : decodeHeader payload = some (header, len)) :
    (payload.drop kFragmentPrefixBytes.toNat).length = len := by
  unfold decodeHeader at h
  split_ifs at h
  split at h
  · cases h
  · dsimp only at h
    split_ifs at h
    rw [List.length_drop]
    exact (Prod.mk.inj (Option.some.inj h)).2

theorem appendFragment_refuses {header : FragmentHeader}
    (h : (appendFragment rx header data).1.Refuses) : (appendFragment rx header data).2 = rx := by
  unfold appendFragment at h ⊢
  dsimp only at h ⊢
  split_ifs at h ⊢
  · rfl
  iterate 3 · rcases h with h | h | h <;> cases h

/-- The first fragment of a record that has just been opened is refused exactly if it is too long. -/
theorem appendFragment_opened {header : FragmentHeader} (hfirst : header.fragment_index = 0) :
    (appendFragment { rx with state := .opened header } header data).1.Refuses ↔
      header.logical_length.toNat < data.length := by
  have hlong : header.fragment_index ≠ (ReassemblyState.opened header).next_fragment ∨
      (ReassemblyState.opened header).received.toNat + data.length >
        header.logical_length.toNat ↔ header.logical_length.toNat < data.length := by
    have hzero : (ReassemblyState.opened header).received.toNat = 0 := rfl
    rw [hzero, Nat.zero_add, hfirst]
    exact ⟨fun h => h.resolve_left (not_not.mpr rfl), Or.inr⟩
  unfold appendFragment
  rw [← hlong]
  dsimp only
  split_ifs with hout hnext hcrc
  · exact iff_of_true (Or.inr (Or.inl rfl)) hout
  iterate 3 · exact iff_of_false (by rintro (h | h | h) <;> cases h) hout

/-- A refused fragment leaves the state as it was, unless it is an oversized first one. -/
theorem unchanged_iff {payload : List UInt8} :
    ((acceptFragment rx payload).1.Refuses → (acceptFragment rx payload).2.state = rx.state) ↔
      ¬Oversized rx payload := by
  unfold acceptFragment
  cases hdecode : decodeHeader payload with
  | none =>
    refine iff_of_true (fun _ => rfl) ?_
    rintro ⟨-, header, len, hsome, -⟩
    rw [hdecode] at hsome
    cases hsome
  | some decoded =>
    obtain ⟨header, len⟩ := decoded
    have hover : Oversized rx payload ↔ rx.state.active = false ∧ header.fragment_index = 0 ∧
        header.logical_length.toNat ≤ rx.out.length ∧ header.logical_length.toNat < len := by
      constructor
      · rintro ⟨hactive, other, otherLen, hsome, hfirst, hroom, hlong⟩
        obtain ⟨rfl, rfl⟩ := Prod.mk.inj (Option.some.inj (hdecode.symm.trans hsome))
        exact ⟨hactive, hfirst, hroom, hlong⟩
      · rintro ⟨hactive, hfirst, hroom, hlong⟩
        exact ⟨hactive, header, len, hdecode, hfirst, hroom, hlong⟩
    have hdata := decodeHeader_length hdecode
    rw [hover]
    dsimp only
    split_ifs with hbad hactive hfirst hother
    · refine iff_of_true (fun _ => rfl) ?_
      rintro ⟨-, -, hroom, hlong⟩
      rcases hbad with hzero | hlarge
      · omega
      · omega
    · exact iff_of_true (fun _ => rfl) fun h => hfirst h.2.1
    · rw [not_not] at hfirst
      rw [not_or, Nat.not_lt] at hbad
      have hinactive : rx.state.active = false := by
        cases hset : rx.state.active with
        | false => rfl
        | true => rw [hset] at hactive; cases hactive
      constructor
      · rintro hsame ⟨-, -, -, hlong⟩
        have hrefuses := (@appendFragment_opened rx _ _ hfirst).mpr (hdata ▸ hlong)
        have hstate := hsame hrefuses
        rw [appendFragment_refuses hrefuses] at hstate
        have hopen := congrArg ReassemblyState.active hstate
        rw [hinactive] at hopen
        cases hopen
      · intro hfits hrefuses
        refine absurd ⟨hinactive, hfirst, hbad.2, ?_⟩ hfits
        rw [← hdata]
        exact (appendFragment_opened hfirst).mp hrefuses
    · refine iff_of_true (fun h => ?_) fun h => ?_
      · rw [appendFragment_refuses h]
      · rw [h.1] at hactive
        exact hactive rfl
    · exact iff_of_true (fun _ => rfl) fun h => by
        rw [h.1] at hactive
        exact hactive rfl

theorem appendFragment_out_length {header : FragmentHeader}
    (hroom : header.logical_length.toNat ≤ rx.out.length) :
    (appendFragment rx header data).2.out.length = rx.out.length := by
  unfold appendFragment
  dsimp only
  split_ifs with hout
  · rfl
  all_goals
    rw [not_or, Nat.not_lt] at hout
    exact overwrite_length (Nat.le_trans hout.2 hroom)

theorem acceptFragment_out_length {payload : List UInt8} :
    (acceptFragment rx payload).2.out.length = rx.out.length := by
  unfold acceptFragment
  split
  · rfl
  · dsimp only
    split_ifs with hbad
    · rfl
    · rfl
    · rw [not_or, Nat.not_lt] at hbad
      exact appendFragment_out_length hbad.2
    · rw [not_or, Nat.not_lt] at hbad
      exact appendFragment_out_length hbad.2
    · rfl

theorem feed_out_length {payloads : List (List UInt8)} :
    (feed rx payloads).1.out.length = rx.out.length := by
  induction payloads generalizing rx with
  | nil => rfl
  | cons payload payloads ih => exact ih.trans acceptFragment_out_length

/-- In every state that is reached, a refused fragment changes the state exactly if it is an oversized
first one, and a new record is completed exactly if no other record is open. -/
theorem reassembly_iff (out : List UInt8) (sent : List (List UInt8)) :
    (∀ payload, ((acceptFragment (feed { out } sent).1 payload).1.Refuses →
        (acceptFragment (feed { out } sent).1 payload).2.state = (feed { out } sent).1.state) ↔
      ¬Oversized (feed { out } sent).1 payload) ∧
    ∀ (r : LogicalRecord) (slices : List (List UInt8)), r.Cut slices →
      r.logical.length ≤ out.length →
      (r.Completes (feed (feed { out } sent).1 (r.fragments slices)) ↔
        (feed { out } sent).1.state.active = false ∨
          r.HoldsSome slices.length (feed { out } sent).1 0 [] slices) := by
  refine ⟨fun payload => unchanged_iff, fun r slices hcut hroom => ?_⟩
  refine LogicalRecord.completes_iff hcut ?_
  rw [feed_out_length]
  exact hroom

/-- A record that is interrupted behind its second slice, and sent again. -/
def resent : LogicalRecord where
  session_id := 1
  capture_id := 1
  record_seq := 1
  record_type := .step
  logical := [1, 2, 3, 4, 5]
  session_id_ne := by decide
  capture_id_ne := by decide
  logical_ne := by decide
  logical_lt := by decide

def resentSlices : List (List UInt8) := [[1, 2], [3, 4], [5]]

/-- The receiver with the first two slices. -/
def halfReceived : Receiver := (feed { out := [0, 0, 0, 0, 0, 0] } ((resent.fragments resentSlices).take 2)).1

/-- The slices that the receiver has are refused and change nothing, and the third one completes the record. -/
theorem reassembly_iff_resent :
    resent.Completes (feed halfReceived (resent.fragments resentSlices)) ∧
      (acceptFragment halfReceived (resent.fragment 3 0 [1, 2])).2.state = halfReceived.state := by
  have hreached := reassembly_iff [0, 0, 0, 0, 0, 0] ((resent.fragments resentSlices).take 2)
  unfold halfReceived
  constructor
  · refine (hreached.2 resent resentSlices ⟨rfl, by decide, by decide⟩ (by decide)).mpr (Or.inr ?_)
    refine ⟨[[1, 2], [3, 4]], [[5]], rfl, by decide, ?_, ?_, ?_, ?_, ?_⟩
    all_goals decide +kernel
  · refine (hreached.1 (resent.fragment 3 0 [1, 2])).mpr (fun hover => ?_) (Or.inr (Or.inl ?_))
    · exact absurd hover.1 (by decide +kernel)
    · decide +kernel

/-- A record of two bytes that is interrupted behind its first, and the one that follows. -/
def interrupted : LogicalRecord where
  session_id := 1
  capture_id := 1
  record_seq := 1
  record_type := .step
  logical := [1, 2]
  session_id_ne := by decide
  capture_id_ne := by decide
  logical_ne := by decide
  logical_lt := by decide

def following : LogicalRecord := { interrupted with record_seq := 2 }

theorem following_cut : following.Cut [[1], [2]] := ⟨rfl, by decide, by decide⟩

/-- A first fragment of three bytes for a record of two is refused and leaves the record open, and the
record that follows an interrupted one is not completed. -/
theorem reassembly_not_recovered :
    (¬∀ (out : List UInt8) (sent : List (List UInt8)) (payload : List UInt8),
      (acceptFragment (feed { out } sent).1 payload).1.Refuses →
        (acceptFragment (feed { out } sent).1 payload).2.state = (feed { out } sent).1.state) ∧
    ¬∀ (out : List UInt8) (sent : List (List UInt8)) (r : LogicalRecord)
      (slices : List (List UInt8)), r.Cut slices → r.logical.length ≤ out.length →
        r.Completes (feed (feed { out } sent).1 (r.fragments slices)) := by
  refine ⟨fun hsame => ?_, fun hcompletes => ?_⟩
  · have hstate := hsame [0, 0] [] (interrupted.fragment 2 0 [1, 2, 3])
      (Or.inr (Or.inl (by decide)))
    cases hstate
  · have hlast := (hcompletes [0, 0] [interrupted.fragment 2 0 [1]] following [[1], [2]] following_cut
      (by decide)).1
    cases hlast

end HexapodVerified.Hil
