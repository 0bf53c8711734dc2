import Mathlib.Algebra.Group.Nat.Defs
import HexapodVerified.Config.Proofs.SequenceProofs

/-!
# A commit that is cut off

While every commit succeeds, the file is a row of records, numbered from one. The scan walks from record to
record, never into one, so what the payloads contain does not matter. A further record of which only a
part was written is never noted: either no whole header and trailer fit any more, or the header
claims bytes beyond the end.
-/

namespace HexapodVerified.Config

open HexapodVerified.Protocol Transition

variable {old payload tail rest : List UInt8} {payloads : List (List UInt8)} {seq : UInt32}
  {status : StoreStatus} {j : Journal} {h : List JournalEvent} {e : JournalEvent}

/-- The number of the record that follows `older` records. -/
def numberAfter (older : List (List UInt8)) : UInt32 := UInt32.ofNat (older.length + 1)

theorem ofNat_add_one (older : List (List UInt8)) :
    UInt32.ofNat older.length + 1 = numberAfter older := by
  rw [numberAfter, UInt32.ofNat_add]
  rfl

/-- The file after the payloads were committed, the latest first. -/
def journalFile : List (List UInt8) → List UInt8
  | [] => []
  | payload :: older => journalFile older ++ recordBytes (numberAfter older) payload

def journalStatus : List (List UInt8) → StoreStatus
  | [] => {}
  | payload :: older =>
    (journalStatus older).note (writtenHeader (numberAfter older) payload)
      ((journalFile older).length + kHeaderSize)

theorem scanLoop_journalFile (hlen : ∀ payload ∈ payloads, payload.length ≤ kMaxPayload)
    (rest : List UInt8) :
    scanLoop (journalFile payloads ++ rest) 0 none {} =
      scanLoop (journalFile payloads ++ rest) (journalFile payloads).length none
        (journalStatus payloads) := by
  induction payloads generalizing rest with
  | nil => rfl
  | cons payload older ih =>
    have holder := ih (fun p hp => hlen p (List.mem_cons_of_mem _ hp))
      (recordBytes (numberAfter older) payload ++ rest)
    rw [← List.append_assoc] at holder
    simp only [journalFile, journalStatus]
    rw [holder, scanLoop_recordBytes_append (hlen payload List.mem_cons_self)]

theorem scanLoop_cut (hlen : payload.length ≤ kMaxPayload) (hhead : tail <+: recordBytes seq payload)
    (hcut : tail.length < (recordBytes seq payload).length) :
    scanLoop (old ++ tail) old.length none status = some status := by
  by_cases hroom : kHeaderSize + kTrailerSize ≤ tail.length
  · obtain ⟨missing, hmissing⟩ := hhead
    have hin : old.length + kHeaderSize ≤ (old ++ tail).length := by
      rw [List.length_append]
      omega
    have hwhole : old ++ recordBytes seq payload = old ++ tail ++ missing := by
      rw [← hmissing, List.append_assoc]
    have hheader : HeaderAt (old ++ recordBytes seq payload) old.length := HeaderAt_recordBytes hlen
    have hend : endAt (old ++ recordBytes seq payload) old.length =
      (old ++ recordBytes seq payload).length := endAt_recordBytes hlen
    rw [hwhole, HeaderAt_append hin] at hheader
    rw [List.length_append, hwhole, endAt_append hin] at hend
    refine scanLoop_torn ?_ hheader ?_
    · rw [List.length_append]
      omega
    · rw [hend, List.length_append]
      omega
  · refine scanLoop_stop ?_
    rw [List.length_append]
    omega

/-- A cut-off record at the end of the file changes nothing for a scan but the size. -/
theorem scan_cut (hlens : ∀ payload ∈ payloads, payload.length ≤ kMaxPayload)
    (hlen : payload.length ≤ kMaxPayload) (hhead : tail <+: recordBytes seq payload)
    (hcut : tail.length < (recordBytes seq payload).length) :
    scan (journalFile payloads ++ tail) =
      some ((journalStatus payloads).sized (journalFile payloads ++ tail).length) := by
  rw [scan, scanLoop_journalFile hlens, scanLoop_cut hlen hhead hcut, Option.map_some]

theorem scan_journalFile (hlens : ∀ payload ∈ payloads, payload.length ≤ kMaxPayload) :
    scan (journalFile payloads) =
      some ((journalStatus payloads).sized (journalFile payloads).length) := by
  have hnil : [] <+: recordBytes 0 [] := List.nil_prefix
  have hempty := scan_cut hlens (Nat.zero_le _) hnil (by decide)
  rwa [List.append_nil] at hempty

theorem length_journalFile (payloads : List (List UInt8)) :
    payloads.length ≤ (journalFile payloads).length := by
  have := headerSize_trailerSize
  induction payloads with
  | nil => exact Nat.zero_le _
  | cons payload older ih =>
    rw [journalFile, List.length_append, recordBytes_length, List.length_cons]
    omega

theorem ofNat_lt_numberAfter {older : List (List UInt8)} (hcount : older.length + 1 < 2 ^ 32) :
    UInt32.ofNat older.length < numberAfter older := by
  rw [numberAfter, UInt32.lt_iff_toNat_lt, UInt32.toNat_ofNat', UInt32.toNat_ofNat',
    Nat.mod_eq_of_lt hcount, Nat.mod_eq_of_lt (by omega)]
  exact Nat.lt_succ_self _

theorem journalStatus_sequence (hcount : payloads.length < 2 ^ 32) :
    (journalStatus payloads).sequence = UInt32.ofNat payloads.length := by
  induction payloads with
  | nil => rfl
  | cons payload older ih =>
    rw [List.length_cons] at hcount
    have hnewer : (journalStatus older).sequence < numberAfter older := by
      rw [ih (by omega)]
      exact ofNat_lt_numberAfter hcount
    rw [journalStatus, note_newer hnewer]
    rfl

theorem journalStatus_newer {older : List (List UInt8)} (hcount : older.length + 1 < 2 ^ 32) :
    (journalStatus older).sequence < numberAfter older := by
  rw [journalStatus_sequence (by omega)]
  exact ofNat_lt_numberAfter hcount

theorem load_cut (hlens : ∀ payload ∈ payloads, payload.length ≤ kMaxPayload)
    (hlen : payload.length ≤ kMaxPayload) (hhead : tail <+: recordBytes seq payload)
    (hcut : tail.length < (recordBytes seq payload).length) (hcount : payloads.length < 2 ^ 32)
    {max_len : Nat} (hfits : ∀ newest ∈ payloads.head?, newest.length ≤ max_len)
    (store : ConfigStore) :
    (store.load (journalFile payloads ++ tail) max_len).2 = payloads.head? := by
  have hscan := scan_cut hlens hlen hhead hcut
  cases payloads with
  | nil =>
    unfold ConfigStore.load
    rw [hscan]
    rfl
  | cons newest older =>
    exact load_noted hscan (journalStatus_newer hcount) (hlens newest List.mem_cons_self)
      (hfits newest rfl) store

def AllCommitted {σ : Type} (h : List (Event σ (JournalCall × JournalResult))) : Prop :=
  ∀ e ∈ h, ∀ payload card, e.label.1 = .commit payload card → e.label.2 = .committed true

def committedPayload : JournalCall → Option (List UInt8)
  | .commit payload _ => some payload
  | _ => none

def committedPayloads {σ : Type} (h : List (Event σ (JournalCall × JournalResult))) :
    List (List UInt8) :=
  h.filterMap fun e => committedPayload e.label.1

/-- The file is the row of the payloads, and a store that knows a sequence number knows the last one. -/
structure InOrder (payloads : List (List UInt8)) (j : Journal) : Prop where
  file : j.file = journalFile payloads
  lens : ∀ payload ∈ payloads, payload.length ≤ kMaxPayload
  latest : j.store.sequence_known = true → j.store.latest_sequence = UInt32.ofNat payloads.length

theorem InOrder.latest? (hinOrder : InOrder payloads j) (hcount : payloads.length < 2 ^ 32) :
    j.store.latest? j.file = some (UInt32.ofNat payloads.length) := by
  unfold ConfigStore.latest?
  split_ifs with hknown
  · rw [hinOrder.latest hknown]
  · rw [hinOrder.file, scan_journalFile hinOrder.lens, Option.map_some, StoreStatus.sized,
      journalStatus_sequence hcount]

/-- A scan of the journal itself, as `load` and `inspect` make it. -/
theorem InOrder.scan (hinOrder : InOrder payloads j) :
    scan j.file = some ((journalStatus payloads).sized j.file.length) := by
  rw [hinOrder.file, scan_journalFile hinOrder.lens]

theorem InOrder.load (hinOrder : InOrder payloads j) (hcount : payloads.length < 2 ^ 32)
    (max_len : Nat) : InOrder payloads (j.call (.load max_len)).1 := by
  refine ⟨hinOrder.file, hinOrder.lens, fun _ => ?_⟩
  show (j.store.load j.file max_len).1.latest_sequence = _
  rw [← journalStatus_sequence hcount]
  unfold ConfigStore.load
  rw [hinOrder.scan]
  dsimp only
  split_ifs <;> rfl

theorem InOrder.inspect (hinOrder : InOrder payloads j) (hcount : payloads.length < 2 ^ 32) :
    InOrder payloads (j.call .inspect).1 := by
  refine ⟨hinOrder.file, hinOrder.lens, fun _ => ?_⟩
  show (j.store.inspect j.file).1.latest_sequence = _
  rw [← journalStatus_sequence hcount]
  unfold ConfigStore.inspect
  rw [hinOrder.scan]
  rfl

theorem InOrder.reopen (hinOrder : InOrder payloads j) : InOrder payloads (j.call .reopen).1 :=
  ⟨hinOrder.file, hinOrder.lens, nofun⟩

theorem InOrder.commit (hinOrder : InOrder payloads j) (hcount : payloads.length < 2 ^ 32)
    {card : Card} (hok : (j.call (.commit payload card)).2 = .committed true) :
    InOrder (payload :: payloads) (j.call (.commit payload card)).1 := by
  obtain ⟨hlen, -, -⟩ := commit_ok (Prod.ext rfl hok :
    j.call (.commit payload card) = ((j.call (.commit payload card)).1, .committed true))
  have hlatest := hinOrder.latest? hcount
  simp only [Journal.call, commit_eq hlen hlatest, JournalResult.committed.injEq] at hok ⊢
  rw [Bool.and_eq_true] at hok
  rw [Card.taken_of_takesAll hok.1, hok.1, hok.2, ofNat_add_one, hinOrder.file]
  exact ⟨rfl, List.forall_mem_cons.mpr ⟨hlen, hinOrder.lens⟩, fun _ => rfl⟩

/-- A run in which every commit succeeds leaves the row of its payloads, as long as the file size fits
into its 32 bits. -/
theorem run_inOrder (run : JournalRun h j) (hok : AllCommitted h) (hsize : j.file.length < 2 ^ 32) :
    InOrder (committedPayloads h) j := by
  refine run.history_invariant (fun h j => AllCommitted h → j.file.length < 2 ^ 32 →
    InOrder (committedPayloads h) j) ?_ ?_ hok hsize
  · exact fun _ _ => ⟨rfl, nofun, nofun⟩
  · rintro h j ⟨c, result⟩ j' run ih hstep hok hsize
    have hgrow : j.file <+: j'.file := by
      have hgrow := call_extends j c
      rwa [hstep] at hgrow
    have hinOrder := ih (fun e he => hok e (List.mem_cons_of_mem _ he))
      (Nat.lt_of_le_of_lt hgrow.length_le hsize)
    have hcount : (committedPayloads h).length < 2 ^ 32 := by
      have hle := length_journalFile (committedPayloads h)
      rw [← hinOrder.file] at hle
      exact Nat.lt_of_le_of_lt (Nat.le_trans hle hgrow.length_le) hsize
    have hpost : (j.call c).1 = j' := by rw [hstep]
    rw [← hpost]
    cases c with
    | commit payload card =>
      refine hinOrder.commit hcount ?_
      rw [hstep]
      exact hok _ List.mem_cons_self payload card rfl
    | load max_len => exact hinOrder.load hcount max_len
    | inspect => exact hinOrder.inspect hcount
    | reopen => exact hinOrder.reopen

/-- After a run in which every commit succeeds, a further commit that the card stops before the end of
its record loses nothing: a load returns the last payload committed, and a store that is opened on the
file counts from the same number as before. -/
theorem torn_commit_loses_nothing (run : JournalRun h j) (hok : AllCommitted h) (room : Nat)
    (sync_ok : Bool) (hroom : room < kHeaderSize + payload.length + kTrailerSize)
    (hsize : (j.call (.commit payload { room := some room, sync_ok })).1.file.length < 2 ^ 32) :
    (∀ (store : ConfigStore) (max_len : Nat),
      (∀ newest ∈ (committedPayloads h).head?, newest.length ≤ max_len) →
      (store.load (j.call (.commit payload { room := some room, sync_ok })).1.file max_len).2 =
        (committedPayloads h).head?) ∧
      (({} : ConfigStore).inspect (j.call (.commit payload { room := some room, sync_ok })).1.file).1 =
        (({} : ConfigStore).inspect j.file).1 := by
  have hgrow := (call_extends j (.commit payload { room := some room, sync_ok })).length_le
  have hinOrder := run_inOrder run hok (Nat.lt_of_le_of_lt hgrow hsize)
  have hcount : (committedPayloads h).length < 2 ^ 32 := by
    have hle := length_journalFile (committedPayloads h)
    rw [← hinOrder.file] at hle
    exact Nat.lt_of_le_of_lt (Nat.le_trans hle hgrow) hsize
  -- What the commit leaves is a strict prefix of a record, an empty one when it is refused.
  obtain ⟨seq, body, tail, hlen, hhead, hcut, hfile⟩ : ∃ seq body tail, body.length ≤ kMaxPayload ∧
      tail <+: recordBytes seq body ∧ tail.length < (recordBytes seq body).length ∧
      (j.call (.commit payload { room := some room, sync_ok })).1.file =
        journalFile (committedPayloads h) ++ tail := by
    by_cases hlen : payload.length ≤ kMaxPayload
    · refine ⟨UInt32.ofNat (committedPayloads h).length + 1, payload, _, hlen,
        List.take_prefix room _, ?_, ?_⟩
      · rw [List.length_take, recordBytes_length]
        omega
      · simp only [Journal.call, commit_eq hlen (hinOrder.latest? hcount)]
        rw [hinOrder.file]
        rfl
    · refine ⟨0, [], [], Nat.zero_le _, List.nil_prefix, by decide, ?_⟩
      have hrefused : j.store.commit { room := some room, sync_ok } j.file payload =
          (j.store, j.file, false) := if_pos (Nat.not_le.mp hlen)
      simp only [Journal.call, hrefused]
      rw [hinOrder.file, List.append_nil]
  rw [hfile]
  refine ⟨fun store max_len hfits => ?_, ?_⟩
  · exact load_cut hinOrder.lens hlen hhead hcut hcount hfits store
  · unfold ConfigStore.inspect
    rw [scan_cut hinOrder.lens hlen hhead hcut, hinOrder.scan]
    rfl

theorem torn_commit_loses_nothing_first :
    (({} : ConfigStore).load (firstCommit.call (.commit [2, 3] { room := some 21 })).1.file 8).2 =
        some [1] ∧
      (({} : ConfigStore).inspect
          (firstCommit.call (.commit [2, 3] { room := some 21 })).1.file).1.latest_sequence = 1 := by
  have hroom : 21 < kHeaderSize + [2, 3].length + kTrailerSize := by decide
  have hsize : (firstCommit.call (.commit [2, 3] { room := some 21 })).1.file.length < 2 ^ 32 := by
    decide
  obtain ⟨hload, hinspect⟩ := torn_commit_loses_nothing firstCommit_run
    (fun e he payload card _ => by obtain rfl := List.mem_singleton.mp he; rfl) 21 true hroom hsize
  refine ⟨hload {} 8 (by decide), ?_⟩
  rw [hinspect]
  have hlens : ∀ payload ∈ [[(1 : UInt8)]], payload.length ≤ kMaxPayload := by decide
  have hscan := scan_journalFile hlens
  have hcount : [[(1 : UInt8)]].length < 2 ^ 32 := by decide
  have hfile : firstCommit.file = journalFile [[1]] := rfl
  unfold ConfigStore.inspect
  rw [hfile, hscan]
  exact journalStatus_sequence hcount

end HexapodVerified.Config
