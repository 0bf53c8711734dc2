import HexapodVerified.Config.Proofs.SequenceProofs

/-!
# Files without hidden records

A record can be complete and yet never be visited by the scan, when it lies among the bytes that a torn
header claims. A file is sound when the scan visits every complete record. Appending to a sound file and
cutting a record out of it leave it sound, as long as no other record becomes complete on the way.
-/

namespace HexapodVerified.Config

open Bytes

variable {file old a b r m payload : List UInt8} {offset other k : Nat} {seq : UInt32}
  {Readable : List UInt8 → Prop}

theorem Reaches.endAt_le (hoffset : Reaches file offset) (hheader : HeaderAt file offset)
    (hother : Reaches file other) (hlt : offset < other) : endAt file offset ≤ other := by
  induction other using Nat.strongRecOn generalizing offset with
  | _ other ih =>
    cases hother with
    | start => exact absurd hlt (Nat.not_lt_zero _)
    | @skip before hbefore hin hno =>
      obtain heq | hlt' := Nat.eq_or_lt_of_le (Nat.le_of_lt_succ hlt)
      · rw [heq] at hheader
        exact absurd hheader hno
      · exact Nat.le_succ_of_le (ih before (Nat.lt_succ_self _) hoffset hheader hbefore hlt')
    | @record before hbefore hheader' hfits =>
      have := offset_lt_endAt file before
      rcases Nat.lt_trichotomy offset before with hlt' | rfl | hgt
      · have hle := ih before (by omega) hoffset hheader hbefore hlt'
        omega
      · exact Nat.le_refl _
      · have hle := ih offset hlt hbefore hheader' hoffset hgt
        omega

structure Complete (file : List UInt8) (offset : Nat) : Prop where
  header : HeaderAt file offset
  fits : endAt file offset ≤ file.length
  complete : completeAt file offset = true

theorem Visible.toComplete (hvisible : Visible file offset) : Complete file offset :=
  ⟨hvisible.header, hvisible.fits, hvisible.complete⟩

theorem Complete.visible (hcomplete : Complete file offset) (hreach : Reaches file offset) :
    Visible file offset := ⟨hreach, hcomplete.header, hcomplete.fits, hcomplete.complete⟩

theorem complete_append (hfits : endAt a offset ≤ a.length) :
    Complete (a ++ r) offset ↔ Complete a offset := by
  have := lt_endAt a offset
  have hroom : offset + kHeaderSize ≤ a.length := by omega
  constructor
  · intro h
    have hcomplete := h.complete
    rw [completeAt_append hfits] at hcomplete
    exact ⟨(HeaderAt_append hroom).mp h.header, hfits, hcomplete⟩
  · intro h
    have hcomplete := h.complete
    rw [← completeAt_append (r := r) hfits] at hcomplete
    refine ⟨(HeaderAt_append hroom).mpr h.header, ?_, hcomplete⟩
    rw [endAt_append hroom, List.length_append]
    omega

theorem recordPayload_append (hfits : endAt a offset ≤ a.length) :
    recordPayload (a ++ r) offset = recordPayload a offset := by
  have hend : offset + kHeaderSize + (headerAt a offset).length.toNat + kTrailerSize =
    endAt a offset := rfl
  unfold recordPayload
  rw [headerAt_append (by omega), window_append_left (by omega)]

theorem complete_recordBytes (hlen : payload.length ≤ kMaxPayload) :
    Complete (old ++ recordBytes seq payload) old.length :=
  ⟨HeaderAt_recordBytes hlen, Nat.le_of_eq (endAt_recordBytes hlen), completeAt_recordBytes hlen⟩

theorem recordPayload_recordBytes (hlen : payload.length ≤ kMaxPayload) :
    recordPayload (old ++ recordBytes seq payload) old.length = payload := by
  unfold recordPayload
  rw [headerAt_recordBytes, writtenHeader_length hlen, window_recordBytes_payload]

theorem headerAt_append_right : headerAt (a ++ b) (a.length + k) = headerAt b k := by
  unfold headerAt
  rw [window_append_right]

theorem HeaderAt_append_right : HeaderAt (a ++ b) (a.length + k) ↔ HeaderAt b k := by
  unfold HeaderAt
  rw [window_append_right, List.length_append, Nat.add_assoc, Nat.add_le_add_iff_left]

theorem endAt_append_right : endAt (a ++ b) (a.length + k) = a.length + endAt b k := by
  unfold endAt recordEnd
  rw [headerAt_append_right]
  omega

theorem fits_append_right :
    endAt (a ++ b) (a.length + k) ≤ (a ++ b).length ↔ endAt b k ≤ b.length := by
  rw [endAt_append_right, List.length_append, Nat.add_le_add_iff_left]

theorem complete_append_right : Complete (a ++ b) (a.length + k) ↔ Complete b k := by
  have hcompleteAt (hfits : endAt b k ≤ b.length) :
      completeAt (a ++ b) (a.length + k) = completeAt b k := by
    rw [completeAt_eq (fits_append_right.mpr hfits), completeAt_eq hfits, headerAt_append_right,
      Nat.add_assoc, Nat.add_assoc, window_append_right, window_append_right]
  constructor
  · intro h
    have hfits := fits_append_right.mp h.fits
    exact ⟨HeaderAt_append_right.mp h.header, hfits, hcompleteAt hfits ▸ h.complete⟩
  · intro h
    exact ⟨HeaderAt_append_right.mpr h.header, fits_append_right.mpr h.fits,
      (hcompleteAt h.fits).trans h.complete⟩

theorem recordPayload_append_right : recordPayload (a ++ b) (a.length + k) = recordPayload b k := by
  unfold recordPayload
  rw [headerAt_append_right, Nat.add_assoc, window_append_right]

/-- The scan visits every complete record, and every payload is readable. -/
structure Sound (Readable : List UInt8 → Prop) (file : List UInt8) : Prop where
  reached : ∀ offset, Complete file offset → Reaches file offset
  readable : ∀ offset, Complete file offset → Readable (recordPayload file offset)

theorem not_complete_nil : ¬ Complete [] offset := by
  intro h
  exact absurd h.header.1 (Nat.not_succ_le_zero _)

theorem Sound.nil : Sound Readable [] :=
  ⟨fun _ h => absurd h not_complete_nil, fun _ h => absurd h not_complete_nil⟩

/-- A record of the old file stays visible, with its payload, whatever is appended. -/
theorem Sound.of_complete (hsound : Sound Readable old) (hcomplete : Complete old offset) :
    Reaches (old ++ r) offset ∧ Readable (recordPayload (old ++ r) offset) := by
  rw [recordPayload_append hcomplete.fits]
  exact ⟨(hcomplete.visible (hsound.reached offset hcomplete)).append.reached,
    hsound.readable offset hcomplete⟩

/-- Bytes that complete no record. -/
theorem Sound.append (hsound : Sound Readable old)
    (hno : ∀ offset, Complete (old ++ r) offset → Complete old offset) : Sound Readable (old ++ r) :=
  ⟨fun offset h => (hsound.of_complete (hno offset h)).1,
    fun offset h => (hsound.of_complete (hno offset h)).2⟩

theorem Sound.append_record (hsound : Sound Readable old) (hsettled : Settled old)
    (hstraddle : NoStraddle old (old ++ recordBytes seq payload))
    (hlen : payload.length ≤ kMaxPayload) (hreadable : Readable payload)
    (hno : ∀ offset, Complete (old ++ recordBytes seq payload) offset → offset ≠ old.length →
      Complete old offset) : Sound Readable (old ++ recordBytes seq payload) := by
  constructor
  · intro offset h
    by_cases hnew : offset = old.length
    · rw [hnew]
      exact (visible_recordBytes hsettled hstraddle hlen).reached
    · exact (hsound.of_complete (hno offset h hnew)).1
  · intro offset h
    by_cases hnew : offset = old.length
    · rw [hnew, recordPayload_recordBytes hlen]
      exact hreadable
    · exact (hsound.of_complete (hno offset h hnew)).2

theorem Reaches.cut (hreach : Reaches (a ++ m ++ b) offset)
    (hrecord : Reaches (a ++ m ++ b) (a ++ m).length) (hpos : m ≠ [])
    (hstart : Reaches (a ++ b) a.length) :
    offset < (a ++ m).length ∨ ∃ k, offset = (a ++ m).length + k ∧ Reaches (a ++ b) (a.length + k) := by
  have hm := List.length_pos_iff.mpr hpos
  induction hreach with
  | start =>
    refine .inl ?_
    rw [List.length_append]
    omega
  | @skip before h hin hno ih =>
    obtain hlt | ⟨k, rfl, hk⟩ := ih
    · obtain heq | hlt' := Nat.eq_or_lt_of_le (Nat.succ_le_of_lt hlt)
      · exact .inr ⟨0, heq, hstart⟩
      · exact .inl hlt'
    · refine .inr ⟨k + 1, rfl, hk.skip ?_ ?_⟩
      · simp only [List.length_append] at hin ⊢
        omega
      · rwa [HeaderAt_append_right] at hno ⊢
  | @record before h hheader hfits ih =>
    obtain hlt | ⟨k, rfl, hk⟩ := ih
    · obtain heq | hlt' := Nat.eq_or_lt_of_le (h.endAt_le hheader hrecord hlt)
      · exact .inr ⟨0, heq, hstart⟩
      · exact .inl hlt'
    · rw [HeaderAt_append_right] at hheader
      rw [fits_append_right] at hfits
      refine .inr ⟨endAt b k, endAt_append_right, ?_⟩
      rw [← endAt_append_right]
      exact hk.record (HeaderAt_append_right.mpr hheader) (fits_append_right.mpr hfits)

/-- A record is cut out, and no header straddles the seam nor does a record in front of it become
complete. -/
theorem Sound.cut (hsound : Sound Readable (a ++ m ++ b)) (hcomplete : Complete (a ++ m ++ b) a.length)
    (hend : endAt (a ++ m ++ b) a.length = (a ++ m).length) (hstraddle : NoStraddle a (a ++ b))
    (hno : ∀ offset, offset < a.length → Complete (a ++ b) offset → Complete (a ++ m ++ b) offset) :
    Sound Readable (a ++ b) := by
  have hat := hsound.reached a.length hcomplete
  have hbehind : Reaches (a ++ m ++ b) (a ++ m).length := by
    rw [← hend]
    exact hat.record hcomplete.header hcomplete.fits
  have hpos : m ≠ [] := by
    rintro rfl
    have hlt := offset_lt_endAt (a ++ [] ++ b) a.length
    rw [hend, List.append_nil] at hlt
    exact absurd hlt (Nat.lt_irrefl _)
  have hstart : Reaches (a ++ b) a.length := by
    rw [List.append_assoc] at hat
    exact hat.replace_tail (Nat.le_refl _) hstraddle
  have hall : ∀ offset, Complete (a ++ b) offset →
      Reaches (a ++ b) offset ∧ Readable (recordPayload (a ++ b) offset) := by
    intro offset h
    by_cases hlt : offset < a.length
    · have hold := hno offset hlt h
      have hreach := hsound.reached offset hold
      have hends := hreach.endAt_le hold.header hat hlt
      have hreadable := hsound.readable offset hold
      rw [List.append_assoc] at hends hreach hreadable
      have := lt_endAt (a ++ (m ++ b)) offset
      have hroom : offset + kHeaderSize ≤ a.length := by omega
      rw [endAt_append hroom] at hends
      rw [recordPayload_append hends] at hreadable ⊢
      exact ⟨hreach.replace_tail (Nat.le_of_lt hlt) fun before hbefore => hstraddle before (by omega),
        hreadable⟩
    · obtain ⟨k, rfl⟩ := Nat.exists_eq_add_of_le (Nat.not_lt.mp hlt)
      have hold : Complete (a ++ m ++ b) ((a ++ m).length + k) := by
        rw [complete_append_right] at h ⊢
        exact h
      have hreadable := hsound.readable _ hold
      rw [recordPayload_append_right] at hreadable ⊢
      refine ⟨?_, hreadable⟩
      obtain hlt' | ⟨k', heq, hk'⟩ := (hsound.reached _ hold).cut hbehind hpos hstart
      · omega
      · obtain rfl := Nat.add_left_cancel heq
        exact hk'
  exact ⟨fun offset h => (hall offset h).1, fun offset h => (hall offset h).2⟩

end HexapodVerified.Config
