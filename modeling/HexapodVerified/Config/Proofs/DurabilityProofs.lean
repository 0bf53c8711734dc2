import HexapodVerified.Config.Proofs.ScanProofs

/-!
# What a commit leaves in the file

Every call only appends to the file. A commit that returns true has appended one complete record with
the next sequence number, and it is the record a load finds, provided the file was settled and the
store did not believe in an older sequence number than the file holds.
-/

namespace HexapodVerified.Config

open HexapodVerified.Protocol Bytes Transition

variable {file payload : List UInt8} {offset : Nat} {card : Card} {seq : UInt32} {j : Journal}
  {h : List JournalEvent} {e : JournalEvent}

theorem appendFile_spec (card : Card) (file buf : List UInt8) :
    ∃ card' tail ok, appendFile card file buf = (card', file ++ tail, ok) ∧
      (ok = true → tail = buf) := by
  unfold appendFile
  cases card.room with
  | none => exact ⟨_, _, _, rfl, fun _ => rfl⟩
  | some room =>
    dsimp only
    split_ifs with hroom
    · exact ⟨_, _, _, rfl, fun _ => rfl⟩
    · exact ⟨_, _, _, rfl, nofun⟩

/-- The appends of a commit add some bytes, and a complete record when they succeed. -/
theorem appendRecord_spec (card : Card) (file : List UInt8) (seq : UInt32)
    (payload : List UInt8) :
    ∃ tail ok, ConfigStore.appendRecord card file seq payload = (file ++ tail, ok) ∧
      (ok = true → tail = recordBytes seq payload) := by
  unfold ConfigStore.appendRecord
  obtain ⟨card₁, head, ok₁, heq₁, hok₁⟩ :=
    appendFile_spec card file (ConfigStore.commitHeader seq payload)
  obtain ⟨card₂, body, ok₂, heq₂, hok₂⟩ : ∃ card₂ body ok₂,
      (if payload.length > 0 then appendFile card₁ (file ++ head) payload
        else (card₁, file ++ head, true)) = (card₂, file ++ head ++ body, ok₂) ∧
        (ok₂ = true → body = payload) := by
    split_ifs with hlen
    · exact appendFile_spec card₁ (file ++ head) payload
    · refine ⟨card₁, [], true, by rw [List.append_nil], fun _ => ?_⟩
      exact (List.eq_nil_of_length_eq_zero (by omega)).symm
  obtain ⟨card₃, tail, ok₃, heq₃, hok₃⟩ :=
    appendFile_spec card₂ (file ++ head ++ body) (ConfigStore.commitTrailer seq)
  simp only [heq₁, heq₂, heq₃]
  cases ok₁ with
  | false => exact ⟨head, false, rfl, nofun⟩
  | true =>
    cases ok₂ with
    | false =>
      exact ⟨head ++ body, false, by simp, nofun⟩
    | true =>
      refine ⟨head ++ (body ++ tail), ok₃ && card₃.sync_ok, ?_, fun hok => ?_⟩
      · cases ok₃ <;> simp
      · rw [Bool.and_eq_true] at hok
        rw [hok₁ rfl, hok₂ rfl, hok₃ hok.1, recordBytes]

/-- The sequence number a commit counts from: the cached one, or else the one of the newest record. -/
def CountsFrom (store : ConfigStore) (file : List UInt8) (latest : UInt32) : Prop :=
  (store.sequence_known = true ∧ latest = store.latest_sequence) ∨
    ∃ status, scan file = some status ∧ latest = status.sequence

/-- A commit leaves the file alone, or it appends to it; when it returns true it has appended a
complete record. -/
theorem commit_cases (store : ConfigStore) (card : Card) (file payload : List UInt8) :
    store.commit card file payload = (store, file, false) ∨
    ∃ known tail ok, CountsFrom store file known.latest_sequence ∧
      payload.length ≤ kMaxPayload ∧
      store.commit card file payload =
        (if ok then { known with latest_sequence := known.latest_sequence + 1 } else known,
          file ++ tail, ok) ∧
      (ok = true → tail = recordBytes (known.latest_sequence + 1) payload) := by
  unfold ConfigStore.commit
  split_ifs with hlen hknown
  · exact .inl rfl
  · obtain ⟨tail, ok, heq, hok⟩ :=
      appendRecord_spec card file (store.latest_sequence + 1) payload
    refine .inr ⟨store, tail, ok, .inl ⟨hknown, rfl⟩, by omega, ?_, hok⟩
    dsimp only
    rw [heq]
    cases ok <;> rfl
  · cases hscan : scan file with
    | none => exact .inl rfl
    | some status =>
      obtain ⟨tail, ok, heq, hok⟩ := appendRecord_spec card file (status.sequence + 1) payload
      refine .inr ⟨{ latest_sequence := status.sequence, sequence_known := true }, tail, ok,
        .inr ⟨status, hscan, rfl⟩, by omega, ?_, hok⟩
      dsimp only [Option.map_some]
      rw [heq]
      cases ok <;> rfl

theorem call_extends (j : Journal) (c : JournalCall) : j.file <+: (j.call c).1.file := by
  cases c with
  | commit payload card =>
    obtain heq | ⟨known, tail, ok, -, -, heq, -⟩ :=
      commit_cases j.store card j.file payload
    · simp only [Journal.call, heq]
      exact List.prefix_refl _
    · simp only [Journal.call, heq]
      exact List.prefix_append _ _
  | load max_len => exact List.prefix_refl _
  | inspect => exact List.prefix_refl _
  | reopen => exact List.prefix_refl _

/-- The events of a run only let the file grow. -/
theorem run_extends (run : JournalRun h j) : ∀ x ∈ h, x.post.file <+: j.file := by
  refine run.history_invariant (fun h j => ∀ x ∈ h, x.post.file <+: j.file)
    (fun x hx => absurd hx List.not_mem_nil) ?_
  intro h s i t _ ih hstep x hx
  have hgrow := call_extends s i.1
  rw [hstep] at hgrow
  obtain rfl | hx := List.mem_cons.mp hx
  · exact List.prefix_refl _
  · exact (ih x hx).trans hgrow

theorem lt_succ_of_ne_zero {n : UInt32} (h : n + 1 ≠ 0) : n < n + 1 := by
  rw [UInt32.lt_iff_toNat_lt, UInt32.toNat_add, UInt32.toNat_one]
  have hbound := n.toNat_lt
  have hne : (n.toNat + 1) % 2 ^ 32 ≠ 0 := fun hzero =>
    h (UInt32.toNat_inj.mp (by rw [UInt32.toNat_add, UInt32.toNat_one, hzero]; rfl))
  omega

/-- The store does not believe in an older sequence number than the file holds. -/
def SequenceCurrent (j : Journal) : Prop :=
  j.store.sequence_known = true → ∀ offset, Visible j.file offset →
    (headerAt j.file offset).sequence ≤ j.store.latest_sequence

/-- A commit that returns true has appended a complete record, with a sequence number that is newer
than everything the scan of the old file shows. -/
theorem commit_ok {card : Card} {j' : Journal}
    (hcall : j.call (.commit payload card) = (j', .committed true)) :
    payload.length ≤ kMaxPayload ∧
      j'.file = j.file ++ recordBytes j'.store.latest_sequence payload ∧
      (SequenceCurrent j → j'.store.latest_sequence ≠ 0 → ∀ status, scan j.file = some status →
        status.sequence < j'.store.latest_sequence) := by
  obtain heq | ⟨known, tail, ok, hfrom, hlen, heq, hok⟩ :=
    commit_cases j.store card j.file payload
  · simp only [Journal.call, heq, Prod.mk.injEq, JournalResult.committed.injEq] at hcall
    exact nomatch hcall.2
  · simp only [Journal.call, heq, Prod.mk.injEq, JournalResult.committed.injEq] at hcall
    obtain ⟨rfl, rfl⟩ := hcall
    refine ⟨hlen, by rw [hok rfl]; rfl, fun hcurrent hwrap status hscan => ?_⟩
    have hbelow : status.sequence ≤ known.latest_sequence := by
      obtain ⟨hknown, heq⟩ | ⟨status', hscan', heq⟩ := hfrom
      · rw [heq]
        exact scan_sequence_le (hcurrent hknown) hscan
      · rw [hscan] at hscan'
        cases hscan'
        exact UInt32.le_of_eq heq.symm
    exact UInt32.lt_of_le_of_lt hbelow (lt_succ_of_ne_zero hwrap)

theorem note_newer {status : StoreStatus} (hnewer : status.sequence < seq) :
    status.note (writtenHeader seq payload) offset =
      { valid_records := status.valid_records + 1
        has_valid_record := true
        sequence := seq
        length := (writtenHeader seq payload).length
        file_size := status.file_size
        newest_payload_offset := offset
        newest_header := writtenHeader seq payload } := by
  have hsequence : (writtenHeader seq payload).sequence = seq := by
    rw [writtenHeader_eq]
  obtain ⟨-, hnote⟩ | ⟨-, hold, -⟩ := note_cases status (writtenHeader seq payload) offset
  · rw [hnote, hsequence]
  · rw [hsequence] at hold
    exact absurd hnewer (UInt32.not_lt.mpr hold)

theorem load_noted {old rest : List UInt8} {status : StoreStatus} {max_len : Nat}
    (hscan : scan (old ++ recordBytes seq payload ++ rest) =
      some ((status.note (writtenHeader seq payload) (old.length + kHeaderSize)).sized
        (old ++ recordBytes seq payload ++ rest).length))
    (hnewer : status.sequence < seq) (hlen : payload.length ≤ kMaxPayload)
    (hfits : payload.length ≤ max_len) (store : ConfigStore) :
    (store.load (old ++ recordBytes seq payload ++ rest) max_len).2 = some payload := by
  have hin : old.length + kHeaderSize + payload.length ≤ (old ++ recordBytes seq payload).length := by
    rw [List.length_append, recordBytes_length]
    omega
  unfold ConfigStore.load
  rw [hscan, note_newer hnewer]
  dsimp only [StoreStatus.sized]
  rw [Bool.not_true, if_neg Bool.false_ne_true, writtenHeader_length hlen,
    if_neg (Nat.not_lt.mpr hfits), readFile_of_le, window_append_left hin,
    window_recordBytes_payload]
  rw [List.length_append]
  omega

/-- The event is a commit that has written its whole header at the offset. -/
def WroteHeader (e : JournalEvent) (offset : Nat) : Prop :=
  (∃ payload card, e.label.1 = .commit payload card) ∧ e.pre.file.length = offset ∧
    offset + kHeaderSize ≤ e.post.file.length

/-- Nothing but a written header passes the header test. -/
def NoForeignHeader (h : List JournalEvent) (file : List UInt8) : Prop :=
  ∀ offset, HeaderAt file offset → ∃ e ∈ h, WroteHeader e offset

def NoCommit (e : JournalEvent) : Prop := ∀ payload card, e.label.1 ≠ .commit payload card

theorem call_file_of_noCommit {c : JournalCall} (hno : ∀ payload card, c ≠ .commit payload card) :
    (j.call c).1.file = j.file := by
  cases c with
  | commit payload card => exact absurd rfl (hno payload card)
  | load max_len => rfl
  | inspect => rfl
  | reopen => rfl

theorem run_file_of_noCommit {later earlier : List JournalEvent}
    (run : JournalRun (later ++ e :: earlier) j) (hlater : ∀ x ∈ later, NoCommit x) :
    j.file = e.post.file := by
  induction later generalizing j with
  | nil => rw [run.of_cons.1]
  | cons x later ih =>
    obtain ⟨rfl, hstep, hrun⟩ := run.of_cons
    have hsame : (x.pre.call x.label.1).1.file = x.pre.file :=
      call_file_of_noCommit (hlater x List.mem_cons_self)
    rw [hstep] at hsame
    rw [hsame]
    exact ih hrun fun y hy => hlater y (List.mem_cons_of_mem x hy)

/-- When only written headers pass the header test, none straddles the end of the file a commit
found. -/
theorem noStraddle_of_noForeignHeader {later earlier : List JournalEvent}
    (run : JournalRun (later ++ e :: earlier) j) (hlater : ∀ x ∈ later, NoCommit x)
    (hforeign : NoForeignHeader (later ++ e :: earlier) j.file) :
    NoStraddle e.pre.file j.file := by
  intro offset hlt hbeyond hheader
  obtain ⟨x, hx, ⟨payload, card, hcommit⟩, hpre, hpost⟩ := hforeign offset hheader
  obtain ⟨m, hm⟩ := run.of_append
  obtain hx | hx := List.mem_append.mp hx
  · exact hlater x hx payload card hcommit
  · obtain rfl | hx := List.mem_cons.mp hx
    · omega
    · have := (run_extends hm.of_cons.2.2 x hx).length_le
      omega

theorem call_of_commit {later earlier : List JournalEvent} {ok : Bool} (run : JournalRun (later ++ e :: earlier) j)
    (hcommit : e.label = (.commit payload card, .committed ok)) :
    e.pre.call (.commit payload card) = (e.post, .committed ok) := by
  obtain ⟨m, hm⟩ := run.of_append
  have hstep := hm.of_cons.2.1
  rw [hcommit] at hstep
  exact hstep

/-- What a commit that returned true has written is what a load finds, as long as no other commit
follows. -/
theorem load_after_commit {later earlier : List JournalEvent} {max_len : Nat}
    (run : JournalRun (later ++ e :: earlier) j)
    (hcommit : e.label = (.commit payload card, .committed true))
    (hlater : ∀ x ∈ later, NoCommit x) (hstraddle : NoStraddle e.pre.file j.file)
    (hwrap : e.post.store.latest_sequence ≠ 0)
    (hsettled : Settled e.pre.file) (hcurrent : SequenceCurrent e.pre)
    (hfits : payload.length ≤ max_len) :
    (j.call (.load max_len)).2 = .loaded (some payload) := by
  have hcall := call_of_commit run hcommit
  obtain ⟨hlen, hfile, hnewer⟩ := commit_ok hcall
  have hjournal : j.file = e.pre.file ++ recordBytes e.post.store.latest_sequence payload := by
    rw [run_file_of_noCommit run hlater, hfile]
  rw [hjournal] at hstraddle
  obtain ⟨status, hscan, hscan'⟩ := scan_append hsettled hstraddle hlen
  have hbelow : status.sequence < e.post.store.latest_sequence :=
    hnewer hcurrent hwrap (status.sized e.pre.file.length) hscan
  rw [← List.append_nil (e.pre.file ++ _)] at hscan' hjournal
  have hload := load_noted hscan' hbelow hlen hfits j.store
  show JournalResult.loaded (j.store.load j.file max_len).2 = _
  rw [hjournal, hload]

/-- In a run in which the last commit found a settled file and a current sequence number and returned
true, a load returns its payload. -/
theorem commit_durable (later earlier : List JournalEvent) {max_len : Nat}
    (run : JournalRun (later ++ e :: earlier) j)
    (hcommit : e.label = (.commit payload card, .committed true))
    (hlater : ∀ x ∈ later, NoCommit x)
    (hforeign : NoForeignHeader (later ++ e :: earlier) j.file)
    (hwrap : e.post.store.latest_sequence ≠ 0)
    (hsettled : Settled e.pre.file) (hcurrent : SequenceCurrent e.pre)
    (hfits : payload.length ≤ max_len) :
    (j.call (.load max_len)).2 = .loaded (some payload) :=
  load_after_commit run hcommit hlater (noStraddle_of_noForeignHeader run hlater hforeign) hwrap
    hsettled hcurrent hfits

def firstCommit : Journal :=
  { file := recordBytes 1 [1], store := { latest_sequence := 1, sequence_known := true } }

theorem call_firstCommit : Journal.call {} (.commit [1] {}) = (firstCommit, .committed true) := by
  simp only [Journal.call, ConfigStore.commit]
  rw [scan, scanLoop_stop (by decide)]
  rfl

theorem firstCommit_run :
    JournalRun [⟨{}, (.commit [1] {}, .committed true), firstCommit⟩] firstCommit :=
  .step .nil call_firstCommit

/-- A commit that the card stops inside its header, behind a whole one; a restart, and an inspection. -/
def brokenOff : List JournalCall := [.commit [1] {}, .commit [5] { room := some 7 }, .reopen, .inspect]

def afterBreak : Journal := (record Journal.call {} [] brokenOff).1

def thirdCommit : Journal := (afterBreak.call (.commit [7, 8] {})).1

/-- Headers are where the records begin, and nowhere else. -/
theorem afterBreak_eq :
    afterBreak = { firstCommit with file := firstCommit.file ++ (recordBytes 2 [5]).take 7 } ∧
      (∀ offset < 17, HeaderAt afterBreak.file offset → offset = 0 ∧
        endAt afterBreak.file offset ≤ afterBreak.file.length ∧
          (headerAt afterBreak.file offset).sequence ≤ afterBreak.store.latest_sequence) ∧
      ∀ offset < 43, HeaderAt thirdCommit.file offset → offset = 0 ∨ offset = 32 := by
  decide +kernel

theorem length_afterBreak : afterBreak.file.length = 32 := by
  rw [afterBreak_eq.1]
  rfl

theorem call_thirdCommit : afterBreak.call (.commit [7, 8] {}) =
    ({ file := afterBreak.file ++ recordBytes 2 [7, 8]
       store := { latest_sequence := 2, sequence_known := true } }, .committed true) := by
  rw [afterBreak_eq.1]
  rfl

theorem length_thirdCommit : thirdCommit.file.length = 58 := by
  rw [thirdCommit, call_thirdCommit, List.length_append, length_afterBreak]
  rfl

theorem headers_afterBreak (hheader : HeaderAt afterBreak.file offset) : offset = 0 ∧
    endAt afterBreak.file offset ≤ afterBreak.file.length ∧
      (headerAt afterBreak.file offset).sequence ≤ afterBreak.store.latest_sequence := by
  have hlen : offset + 16 ≤ afterBreak.file.length := hheader.1
  rw [length_afterBreak] at hlen
  exact afterBreak_eq.2.1 offset (by omega) hheader

/-- What the third commit has written is found behind the bytes of the second one, also after a restart. -/
theorem commit_durable_behindBreak :
    ((thirdCommit.call .reopen).1.call (.load 8)).2 = .loaded (some [7, 8]) := by
  have hrun := ((run_record Journal.call brokenOff
    (show JournalRun [] {} from .nil)).input (.commit [7, 8] {})).input .reopen
  have hthird : (afterBreak.call (.commit [7, 8] {})).2 = .committed true := by rw [call_thirdCommit]
  have hwrap : thirdCommit.store.latest_sequence ≠ 0 := by
    rw [thirdCommit, call_thirdCommit]
    decide
  refine commit_durable [_] (record Journal.call {} [] brokenOff).2 hrun (Prod.ext rfl hthird) (fun x hx => ?_)
    (fun offset hheader => ?_) hwrap (fun offset _ hheader => (headers_afterBreak hheader).2.1)
    (fun _ offset hvisible => (headers_afterBreak hvisible.header).2.2) (by decide)
  · rw [List.mem_singleton.mp hx]
    exact nofun
  · have hlen : offset + 16 ≤ thirdCommit.file.length := hheader.1
    rw [length_thirdCommit] at hlen
    obtain rfl | rfl := afterBreak_eq.2.2 offset (by omega) hheader
    · refine ⟨⟨{}, (.commit [1] {}, _), _⟩, .tail _ (.tail _ (.tail _ (.tail _ (.tail _ (.head _))))),
        ⟨_, _, rfl⟩, rfl, ?_⟩
      show 0 + kHeaderSize ≤ (Journal.call {} (.commit [1] {})).1.file.length
      rw [call_firstCommit]
      decide
    · refine ⟨⟨afterBreak, _, _⟩, .tail _ (.head _), ⟨_, _, rfl⟩, length_afterBreak, ?_⟩
      show 32 + kHeaderSize ≤ thirdCommit.file.length
      rw [length_thirdCommit]
      decide

/-- A commit of ten bytes that the card stops after the header, followed by a reopen. -/
def tornCommit : Journal :=
  { firstCommit with file := firstCommit.file ++ ConfigStore.commitHeader 2 (List.replicate 10 0) }

def afterTorn : Journal :=
  { file := tornCommit.file ++ recordBytes 2 [7, 8]
    store := { latest_sequence := 2, sequence_known := true } }

/-- The events of the run that leads to `afterTorn`. -/
def tornHistory : List JournalEvent :=
  [⟨{ tornCommit with store := {} }, (.commit [7, 8] {}, .committed true), afterTorn⟩,
    ⟨tornCommit, (.reopen, .reopened), { tornCommit with store := {} }⟩,
    ⟨firstCommit, (.commit (List.replicate 10 0) { room := some 16 }, .committed false),
      tornCommit⟩,
    ⟨{}, (.commit [1] {}, .committed true), firstCommit⟩]

theorem tornHistory_run : JournalRun tornHistory afterTorn := by
  refine .step (.step (.step firstCommit_run ?_) ?_) ?_
  · rfl
  · rfl
  · show Journal.call _ _ = _
    decide +kernel

/-- After a torn commit the record of the next one can lie inside the bytes that the torn header
claims: it is not found, though its commit returned true. -/
theorem commit_not_durable : ¬ ∀ (later earlier : List JournalEvent) (e : JournalEvent) (j : Journal)
    (payload : List UInt8) (card : Card) (max_len : Nat), JournalRun (later ++ e :: earlier) j →
    e.label = (.commit payload card, .committed true) → (∀ x ∈ later, NoCommit x) →
    NoForeignHeader (later ++ e :: earlier) j.file → e.post.store.latest_sequence ≠ 0 →
    payload.length ≤ max_len → (j.call (.load max_len)).2 = .loaded (some payload) := by
  intro hdurable
  have hforeign : ∀ offset < 52, HeaderAt afterTorn.file offset →
      offset = 0 ∨ offset = 25 ∨ offset = 41 := by
    decide +kernel
  have hload := hdurable [] _ _ afterTorn [7, 8] {} 8 tornHistory_run rfl
    (fun x hx => absurd hx List.not_mem_nil) (fun offset hheader => ?_) (by decide) (by decide)
  · exact absurd hload (by decide +kernel)
  · have hlen : offset + 16 ≤ 67 := hheader.1
    obtain rfl | rfl | rfl := hforeign offset (by omega) hheader
    · exact ⟨_, .tail _ (.tail _ (.tail _ (.head _))), ⟨_, _, rfl⟩, rfl, by decide⟩
    · exact ⟨_, .tail _ (.tail _ (.head _)), ⟨_, _, rfl⟩, rfl, by decide⟩
    · exact ⟨_, .head _, ⟨_, _, rfl⟩, rfl, by decide⟩

end HexapodVerified.Config
