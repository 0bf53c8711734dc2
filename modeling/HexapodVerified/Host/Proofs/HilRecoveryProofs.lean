import HexapodVerified.Host.Proofs.HilRecordsProofs

/-!
# The reassembler after an interrupted record

A reassembler that holds an open record waits for its next fragment. The first fragment of another record
is refused there: the error closes the open record, and the fragment is gone. What is left of the other
record does not begin with its first fragment, so nothing of it is taken. A reassembler that holds no record
gives back every complete record of its session.
-/

namespace HexapodVerified.Host

open Hil (LogicalRecord)

namespace TraceReassembler

/-- The fragments are taken one after the other, whatever the calls raise; the results in order. -/
def feed (s : TraceReassembler) :
    List TraceFragment → TraceReassembler × List (Except String (Option TraceRecord))
  | [] => (s, [])
  | fragment :: fragments =>
    let (next, result) := s.accept fragment
    let (last, results) := feed next fragments
    (last, result :: results)

/-- No open record, or one that waits for a fragment behind its first. -/
def Sound (expected : Option Nat) (s : TraceReassembler) : Prop :=
  s = idle expected ∨
    s.expected_session_id = expected ∧ s.active = true ∧ 0 < s.next_fragment

variable {s : TraceReassembler} {expected : Option Nat} {fragment : TraceFragment}

/-- What the body of the `try` leaves behind. -/
structure Tried (s : TraceReassembler) (out : TraceReassembler × Except String (Option TraceRecord)) :
    Prop where
  expected : out.1.expected_session_id = s.expected_session_id
  opened : ∀ result, out.2 = .ok result → out.1.header.isSome ∧ 0 < out.1.next_fragment

theorem tried_append (s : TraceReassembler) (fragment : TraceFragment) (hopen : s.header.isSome) :
    Tried s (s.append fragment) := by
  unfold append
  dsimp only
  split
  · exact ⟨rfl, fun result h => by cases h⟩
  · split
    · exact ⟨rfl, fun result h => by cases h⟩
    · split
      · exact ⟨rfl, fun result h => ⟨hopen, Nat.succ_pos _⟩⟩
      · split
        · exact ⟨rfl, fun result h => by cases h⟩
        · split
          · exact ⟨rfl, fun result h => by cases h⟩
          · split
            · exact ⟨rfl, fun result h => by cases h⟩
            · exact ⟨rfl, fun result h => ⟨hopen, Nat.succ_pos _⟩⟩

theorem tried_tryAccept (s : TraceReassembler) (fragment : TraceFragment) :
    Tried s (s.tryAccept fragment) := by
  unfold tryAccept
  dsimp only
  split
  · exact ⟨rfl, fun result h => by cases h⟩
  · split
    · split
      · exact ⟨rfl, fun result h => by cases h⟩
      · have happend := tried_append
          { s with header := some fragment.header, next_fragment := 0, record := [] } fragment rfl
        exact ⟨happend.expected, happend.opened⟩
    · rename_i opened hopened
      split
      · exact ⟨rfl, fun result h => by cases h⟩
      · exact tried_append s fragment (by rw [hopened]; rfl)

theorem reset_eq (h : s.expected_session_id = expected) : s.reset = idle expected := by
  subst h
  rfl

theorem accept_of_error {text : String} (h : (s.tryAccept fragment).2 = .error text) :
    s.accept fragment = (idle s.expected_session_id, .error text) := by
  have htried := tried_tryAccept s fragment
  unfold accept
  dsimp only
  rw [h, reset_eq htried.expected]
  exact if_neg fun hopen => nomatch hopen.1

theorem Sound.accept (hs : Sound expected s) : Sound expected (s.accept fragment).1 := by
  have hexpected : s.expected_session_id = expected := by
    rcases hs with rfl | ⟨h, -, -⟩
    · rfl
    · exact h
  have htried := tried_tryAccept s fragment
  rcases hresult : (s.tryAccept fragment).2 with text | result
  · left
    rw [accept_of_error hresult, hexpected]
  · rcases htried.opened result hresult with ⟨hopen, hpos⟩
    unfold TraceReassembler.accept
    dsimp only
    rw [hresult]
    dsimp only
    split
    · left
      exact reset_eq (htried.expected.trans hexpected)
    · right
      exact ⟨htried.expected.trans hexpected, hopen, hpos⟩

theorem Sound.feed (hs : Sound expected s) (fragments : List TraceFragment) :
    Sound expected (s.feed fragments).1 := by
  induction fragments generalizing s with
  | nil => exact hs
  | cons fragment fragments ih => exact ih hs.accept

theorem accept_first_of_active (fragment : TraceFragment) (hactive : s.active = true) (hpos : 0 < s.next_fragment)
    (hfirst : fragment.header.fragment_index = 0) :
    ∃ text, s.accept fragment = (idle s.expected_session_id, .error text) := by
  have herror : ∃ text, (s.tryAccept fragment).2 = .error text := by
    rcases Option.isSome_iff_exists.mp hactive with ⟨opened, hopened⟩
    unfold tryAccept
    dsimp only
    split
    · exact ⟨_, rfl⟩
    · rw [hopened]
      dsimp only
      split
      · exact ⟨_, rfl⟩
      · have horder : fragment.header.fragment_index ≠ s.next_fragment := by
          rw [hfirst]
          exact Nat.ne_of_lt hpos
        unfold append
        rw [if_pos horder]
        exact ⟨_, rfl⟩
  rcases herror with ⟨text, htext⟩
  exact ⟨text, accept_of_error htext⟩

theorem accept_idle_of_refused (h : fragment.header.fragment_index ≠ 0 ∨
    ∃ session ∈ expected, session ≠ fragment.header.session_id) :
    ∃ text, (idle expected).accept fragment = (idle expected, .error text) := by
  have herror : ∃ text, ((idle expected).tryAccept fragment).2 = .error text := by
    unfold tryAccept
    dsimp only
    split
    · exact ⟨_, rfl⟩
    · rename_i hsession
      have hlater : fragment.header.fragment_index ≠ 0 := by
        rcases h with hlater | ⟨session, hmem, hne⟩
        · exact hlater
        · exfalso
          apply hsession
          rw [Option.mem_def] at hmem
          rw [show (idle expected).expected_session_id = expected from rfl, hmem]
          simpa using hne.symm
      refine ⟨"first trace fragment is out of order", ?_⟩
      show (if fragment.header.fragment_index ≠ 0 then _ else _ :
        TraceReassembler × Except String (Option TraceRecord)).2 = _
      rw [if_pos hlater]
  rcases herror with ⟨text, htext⟩
  exact ⟨text, accept_of_error htext⟩

theorem feed_idle_of_refused (fragments : List TraceFragment)
    (h : ∀ fragment ∈ fragments, fragment.header.fragment_index ≠ 0 ∨
      ∃ session ∈ expected, session ≠ fragment.header.session_id) :
    ∀ result ∈ ((idle expected).feed fragments).2, ∃ text, result = .error text := by
  induction fragments with
  | nil =>
    intro result hresult
    cases hresult
  | cons fragment fragments ih =>
    rcases accept_idle_of_refused (h fragment (List.mem_cons_self ..)) with ⟨text, haccept⟩
    intro result hresult
    unfold feed at hresult
    rw [haccept] at hresult
    rcases List.mem_cons.mp hresult with rfl | hlater
    · exact ⟨text, rfl⟩
    · exact ih (fun other hother => h other (List.mem_cons_of_mem _ hother)) result hlater

end TraceReassembler

section Records

open TraceReassembler

variable {r : LogicalRecord} {expected : Option Nat}

def fragmentsOf (r : LogicalRecord) : List TraceFragment :=
  (List.range (eventCount r)).map (fragmentAt r)

theorem eventCount_pos (r : LogicalRecord) : 0 < eventCount r := by
  have hpos := List.length_pos_of_ne_nil r.logical_ne
  rw [eventCount_eq]
  omega

theorem fragmentsOf_eq (r : LogicalRecord) :
    fragmentsOf r = fragmentAt r 0 ::
      (List.range' 1 (eventCount r - 1)).map (fragmentAt r) := by
  have hpos := eventCount_pos r
  unfold fragmentsOf
  rw [List.range_eq_range', show eventCount r = eventCount r - 1 + 1 by omega, List.range'_succ,
    List.map_cons, Nat.add_sub_cancel]

/-- A reassembler without an open record takes the record from any of its fragments on. -/
theorem feed_partly (hexpected : ∀ session ∈ expected, session = r.session_id.toNat) (index k : Nat)
    (hk : index + (k + 1) = eventCount r) :
    ((partly expected r index).feed ((List.range' index (k + 1)).map (fragmentAt r))).2 =
      List.replicate k (.ok none) ++ [.ok (some (hostRecord r))] := by
  induction k generalizing index with
  | zero =>
    show [((partly expected r index).accept (fragmentAt r index)).2] = _
    rw [accept_last hexpected hk]
    rfl
  | succ k ih =>
    have hnext := accept_fragmentAt hexpected (show index + 1 < eventCount r by omega)
    rw [List.range'_succ, List.map_cons]
    unfold feed
    rw [hnext]
    dsimp only
    rw [ih (index + 1) (by omega)]
    rfl

theorem feed_fragmentsOf_refused {s : TraceReassembler} {text : String}
    (hfirst : s.accept (fragmentAt r 0) = (idle expected, .error text)) :
    ∀ result ∈ (s.feed (fragmentsOf r)).2, ∃ text, result = .error text := by
  intro result hresult
  rw [fragmentsOf_eq] at hresult
  unfold feed at hresult
  rw [hfirst] at hresult
  rcases List.mem_cons.mp hresult with rfl | hlater
  · exact ⟨text, rfl⟩
  · refine feed_idle_of_refused _ ?_ result hlater
    intro fragment hfragment
    rcases List.mem_map.mp hfragment with ⟨index, hindex, rfl⟩
    left
    have hbelow := List.mem_range'_1.mp hindex
    show index ≠ 0
    omega

/-- **When the next record is recovered.** Whatever fragments the reassembler was fed before, and whatever
it raised, it gives a complete record of its session back exactly when it holds no open record; then it
does so with the last fragment. -/
theorem recovers_iff (expected : Option Nat) (sent : List TraceFragment) (r : LogicalRecord)
    (hexpected : ∀ session ∈ expected, session = r.session_id.toNat) :
    (.ok (some (hostRecord r)) ∈ (((idle expected).feed sent).1.feed (fragmentsOf r)).2 ↔
      ((idle expected).feed sent).1.active = false) ∧
    (((idle expected).feed sent).1.active = false →
      (((idle expected).feed sent).1.feed (fragmentsOf r)).2 =
        List.replicate (eventCount r - 1) (.ok none) ++ [.ok (some (hostRecord r))]) := by
  have hsound : Sound expected ((idle expected).feed sent).1 := Sound.feed (.inl rfl) sent
  generalize ((idle expected).feed sent).1 = s at hsound ⊢
  have hwhole : s.active = false → (s.feed (fragmentsOf r)).2 =
      List.replicate (eventCount r - 1) (.ok none) ++ [.ok (some (hostRecord r))] := by
    intro hinactive
    rcases hsound with rfl | ⟨-, hactive, -⟩
    · have hpos := eventCount_pos r
      have hfeed := feed_partly hexpected 0 (eventCount r - 1) (by omega)
      rw [partly_zero, show eventCount r - 1 + 1 = eventCount r by omega,
        ← List.range_eq_range'] at hfeed
      exact hfeed
    · rw [hinactive] at hactive
      cases hactive
  refine ⟨⟨fun hmem => ?_, fun hinactive => ?_⟩, hwhole⟩
  · rcases hsound with rfl | ⟨hexp, hactive, hpos⟩
    · rfl
    · rcases accept_first_of_active (fragmentAt r 0) hactive hpos rfl with ⟨text, hfirst⟩
      rcases feed_fragmentsOf_refused hfirst _ hmem with ⟨other, herror⟩
      cases herror
  · rw [hwhole hinactive]
    exact List.mem_append_right _ (List.mem_singleton.mpr rfl)

/-- A record of two fragments, interrupted behind the first. -/
def longRecord : LogicalRecord :=
  { Hil.interrupted with
    logical := List.replicate 236 7
    logical_ne := by simp
    logical_lt := by
      rw [List.length_replicate]
      decide }

theorem eventCount_longRecord : eventCount longRecord = 2 := by
  rw [eventCount_eq, show longRecord.logical.length = 236 from List.length_replicate]

/-- A fragment that came too late leaves no record open. -/
theorem recovers_iff_late :
    (((idle (some 1)).feed [fragmentAt longRecord 1]).1.feed (fragmentsOf Hil.following)).2 =
      [.ok (some (hostRecord Hil.following))] := by
  have hrecovers := recovers_iff (some 1) [fragmentAt longRecord 1] Hil.following
    (by intro session hsession; cases hsession; rfl)
  exact hrecovers.2 rfl

/-- The record behind an interrupted one is lost. -/
theorem next_record_lost :
    ¬ ∀ (expected : Option Nat) (sent : List TraceFragment) (r : LogicalRecord),
      (∀ fragment ∈ sent, ∃ payload, decodeFragment payload = .ok fragment) →
      r.logical.length ≤ Hil.kMaxLogicalRecordBytes →
      (∀ session ∈ expected, session = r.session_id.toNat) →
      .ok (some (hostRecord r)) ∈ (((idle expected).feed sent).1.feed (fragmentsOf r)).2 := by
  intro hclaim
  have hvalid : ∀ fragment ∈ [fragmentAt longRecord 0],
      ∃ payload, decodeFragment payload = .ok fragment := by
    intro fragment hfragment
    rw [List.mem_singleton.mp hfragment]
    refine ⟨_, decodeFragment_payloadAt ?_ ?_⟩
    · rw [show longRecord.logical.length = 236 from List.length_replicate]
      decide
    · rw [eventCount_longRecord]
      decide
  have hmem := hclaim none [fragmentAt longRecord 0] Hil.following hvalid (by decide) (by simp)
  have hfed : ((idle none).feed [fragmentAt longRecord 0]).1 = partly none longRecord 1 := by
    have haccept : (partly none longRecord 0).accept (fragmentAt longRecord 0) = _ :=
      accept_fragmentAt (by simp) (by rw [eventCount_longRecord]; decide)
    unfold feed
    rw [← partly_zero (r := longRecord), haccept]
    rfl
  rw [hfed] at hmem
  rcases accept_first_of_active (s := partly none longRecord 1) (fragmentAt Hil.following 0) rfl
    (Nat.succ_pos 0) rfl with ⟨text, hfirst⟩
  rcases feed_fragmentsOf_refused hfirst _ hmem with ⟨other, herror⟩
  cases herror

end Records

end HexapodVerified.Host
