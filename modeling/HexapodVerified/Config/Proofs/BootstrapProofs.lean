import HexapodVerified.Config.Proofs.TornProofs
import HexapodVerified.Config.Proofs.TextProofs
import Mathlib.Data.List.Infix

/-!
# A text file that is cut off

The text file keeps the encoding of the journal, so a cut after a whole number of bytes is a cut of the
journal: nothing is lost. After an odd number of characters the size is an error, and with it every
scan, load and bootstrap fails. A bootstrap that finds no record appends the default record
behind the torn bytes, where it is found unless a header among them makes the scan jump over it.
-/

namespace HexapodVerified.Config

open HexapodVerified.Protocol Transition QwiicConfigFile

variable {bytes payload tail : List UInt8} {payloads : List (List UInt8)} {text : TextFile}
  {offset n : Nat} {card : Card} {seq latest : UInt32} {j : FileJournal TextFile} {h : List TextEvent}
  {store : ConfigStore} {max_len : Nat}

def Loadable (file : List UInt8) (max_len : Nat) : Prop :=
  ∃ offset, Newest file offset ∧ (headerAt file offset).length.toNat ≤ max_len

theorem load_eq_some_iff (store : ConfigStore) (file : List UInt8) (max_len : Nat) :
    (store.load file max_len).2 ≠ none ↔ Loadable file max_len := by
  obtain ⟨status, hscan⟩ := scan_isSome file
  constructor
  · intro hload
    unfold ConfigStore.load at hload
    rw [hscan] at hload
    dsimp only at hload
    by_cases hvalid : status.has_valid_record = true
    · obtain ⟨offset, hnewest, -, hheader⟩ := scan_newest hscan hvalid
      rw [hvalid, Bool.not_true, if_neg Bool.false_ne_true] at hload
      by_cases hfits : status.newest_header.length.toNat > max_len
      · rw [if_pos hfits] at hload
        exact absurd rfl hload
      · exact ⟨offset, hnewest, by rw [← hheader]; exact Nat.not_lt.mp hfits⟩
    · rw [eq_false_of_ne_true hvalid, Bool.not_false, if_pos rfl] at hload
      exact absurd rfl hload
  · rintro ⟨offset, hnewest, hfits⟩
    rw [← recordPayload_length hnewest.visible.fits] at hfits
    rw [load_of_newest hnewest store hfits]
    exact Option.some_ne_none _

namespace ConfigFile

variable {φ : Type} {f : ConfigFile φ} {x : φ}

theorem Reads.load (hreads : f.Reads x bytes) (store : ConfigStore) (max_len : Nat) :
    f.load x store max_len = store.load bytes max_len := by
  unfold ConfigFile.load ConfigStore.load
  rw [hreads.scan]
  cases hscan : Config.scan bytes with
  | none => rfl
  | some status =>
    dsimp only
    by_cases hvalid : status.has_valid_record = true
    · obtain ⟨offset, hnewest, hpayload, hheader⟩ := scan_newest hscan hvalid
      have hend : endAt bytes offset =
        offset + kHeaderSize + (headerAt bytes offset).length.toNat + kTrailerSize := rfl
      have := hnewest.visible.fits
      rw [hreads.readFile (by rw [hpayload, hheader]; omega)]
    · rw [eq_false_of_ne_true hvalid]
      rfl

theorem Reads.inspect (hreads : f.Reads x bytes) (store : ConfigStore) :
    f.inspect x store = store.inspect bytes := by
  unfold ConfigFile.inspect ConfigStore.inspect
  cases hscan : Config.scan bytes with
  | none => simp only [hreads.scan, hscan]
  | some status => simp only [hreads.scan, hscan]

theorem commit_of_long (f : ConfigFile φ) (x : φ) (store : ConfigStore) (card : Card)
    (hlong : ¬ payload.length ≤ kMaxPayload) :
    f.commit x store card payload = (store, x, false) := if_pos (Nat.not_le.mp hlong)

theorem Reads.commit (hreads : f.Reads x bytes) (hlen : payload.length ≤ kMaxPayload)
    (hlatest : store.latest? bytes = some latest) :
    f.commit x store card payload =
      ({ latest_sequence :=
          if (f.appendRecord x card (latest + 1) payload).2 then latest + 1 else latest
         sequence_known := true },
        f.appendRecord x card (latest + 1) payload) := by
  unfold ConfigFile.commit
  rw [if_neg (Nat.not_lt.mpr hlen), hreads.scan]
  obtain rfl | ⟨hknown, status, hscan, rfl⟩ := ConfigStore.latest_cases hlatest
  · rw [if_pos rfl]
    dsimp only
    obtain ⟨x', ok⟩ := f.appendRecord x card (latest + 1) payload
    cases ok <;> rfl
  · rw [hknown, if_neg Bool.false_ne_true, hscan, Option.map_some]
    dsimp only
    obtain ⟨x', ok⟩ := f.appendRecord x card (status.sequence + 1) payload
    cases ok <;> rfl

end ConfigFile

theorem text_appendPayload_eq (card : Card) (chars payload : List UInt8) :
    (if payload.length > 0 then QwiicConfigFile.append card (some chars) payload
      else (card, some chars, true)) =
      (card.after (encode payload), some (chars ++ card.taken (encode payload)),
        card.takesAll (encode payload)) := by
  cases payload with
  | nil =>
    have hnil : encode [] = [] := rfl
    rw [hnil, card.after_nil, card.taken_nil, card.takesAll_nil, List.append_nil]
    rfl
  | cons byte rest =>
    exact QwiicConfigFile.append_eq card (some chars) (byte :: rest) (List.cons_ne_nil _ _)

theorem text_appendRecord_eq (card : Card) (text : TextFile) (seq : UInt32) (payload : List UInt8) :
    QwiicConfigFile.file.appendRecord text card seq payload =
      (some (text.chars ++ card.taken (encode (recordBytes seq payload))),
        card.takesAll (encode (recordBytes seq payload)) && card.sync_ok) := by
  have hheader : ConfigStore.commitHeader seq payload ≠ [] := fun hnil => by
    have hlen := commitHeader_length seq payload
    rw [hnil] at hlen
    cases hlen
  have htrailer : ConfigStore.commitTrailer seq ≠ [] := List.cons_ne_nil _ _
  have hfile : QwiicConfigFile.file.append = QwiicConfigFile.append := rfl
  unfold ConfigFile.appendRecord recordBytes
  rw [hfile, QwiicConfigFile.append_eq _ _ _ hheader, encode_append, encode_append,
    card.taken_append, card.takesAll_append, ← List.append_assoc]
  dsimp only
  generalize encode (ConfigStore.commitHeader seq payload) = header
  cases hfirst : card.takesAll header with
  | false =>
    rw [card.taken_after hfirst, List.append_nil]
    rfl
  | true =>
    rw [text_appendPayload_eq, Card.taken_append, Card.takesAll_append, ← List.append_assoc]
    cases hpayload : (card.after header).takesAll (encode payload) with
    | false =>
      rw [Card.taken_after hpayload, List.append_nil]
      rfl
    | true =>
      rw [QwiicConfigFile.append_eq _ _ _ htrailer]
      cases ((card.after header).after (encode payload)).takesAll
        (encode (ConfigStore.commitTrailer seq)) with
      | false => rfl
      | true => rfl

/-- The text is the encoding of the row of the payloads, and the store is in order on that row. -/
structure TextInOrder (payloads : List (List UInt8)) (j : FileJournal TextFile) : Prop where
  holds : Holds j.file (journalFile payloads)
  inOrder : InOrder payloads { file := journalFile payloads, store := j.store }

theorem text_commit_extends (text : TextFile) (store : ConfigStore) (card : Card)
    (payload : List UInt8) :
    text.chars <+: (QwiicConfigFile.file.commit text store card payload).2.1.chars := by
  unfold ConfigFile.commit
  by_cases hlen : payload.length > kMaxPayload
  · rw [if_pos hlen]
  · rw [if_neg hlen]
    generalize (if store.sequence_known = true then some store else _) = known
    cases known with
    | none => exact List.prefix_refl _
    | some known =>
      dsimp only
      rw [text_appendRecord_eq]
      split_ifs
      · exact List.prefix_append _ _
      · exact List.prefix_append _ _

theorem text_call_extends (j : FileJournal TextFile) (c : JournalCall) :
    j.file.chars <+: (QwiicConfigFile.file.call j c).1.file.chars := by
  cases c with
  | commit payload card => exact text_commit_extends j.file j.store card payload
  | load max_len => exact List.prefix_refl _
  | inspect => exact List.prefix_refl _
  | reopen => exact List.prefix_refl _

theorem TextInOrder.commit_eq (hinOrder : TextInOrder payloads j) (hcount : payloads.length < 2 ^ 32)
    (hlen : payload.length ≤ kMaxPayload) (card : Card) :
    QwiicConfigFile.file.commit j.file j.store card payload =
      ({ latest_sequence :=
          if card.takesAll (encode (recordBytes (numberAfter payloads) payload)) && card.sync_ok then
            numberAfter payloads
          else UInt32.ofNat payloads.length
         sequence_known := true },
        some (j.file.chars ++ card.taken (encode (recordBytes (numberAfter payloads) payload))),
        card.takesAll (encode (recordBytes (numberAfter payloads) payload)) && card.sync_ok) := by
  have hlatest : j.store.latest? (journalFile payloads) = _ := hinOrder.inOrder.latest? hcount
  rw [hinOrder.holds.reads.commit hlen hlatest, text_appendRecord_eq, ofNat_add_one]

theorem TextInOrder.commit (hinOrder : TextInOrder payloads j) (hcount : payloads.length < 2 ^ 32)
    (hok : (QwiicConfigFile.file.call j (.commit payload card)).2 = .committed true) :
    TextInOrder (payload :: payloads) (QwiicConfigFile.file.call j (.commit payload card)).1 := by
  have hlen : payload.length ≤ kMaxPayload := by
    by_contra hlong
    simp only [ConfigFile.call, ConfigFile.commit_of_long _ _ _ _ hlong,
      JournalResult.committed.injEq] at hok
    exact nomatch hok
  simp only [ConfigFile.call, hinOrder.commit_eq hcount hlen, JournalResult.committed.injEq] at hok ⊢
  rw [hok, if_pos rfl]
  rw [Bool.and_eq_true] at hok
  rw [Card.taken_of_takesAll hok.1]
  refine ⟨?_, rfl, List.forall_mem_cons.mpr ⟨hlen, hinOrder.inOrder.lens⟩, fun _ => rfl⟩
  show j.file.chars ++ _ = encode (journalFile payloads ++ recordBytes (numberAfter payloads) payload)
  rw [encode_append, hinOrder.holds]

theorem TextInOrder.load (hinOrder : TextInOrder payloads j) (hcount : payloads.length < 2 ^ 32)
    (max_len : Nat) :
    TextInOrder payloads (QwiicConfigFile.file.call j (.load max_len)).1 := by
  have hload := hinOrder.inOrder.load hcount max_len
  refine ⟨hinOrder.holds, ?_⟩
  simp only [ConfigFile.call, hinOrder.holds.reads.load]
  exact hload

theorem TextInOrder.inspect (hinOrder : TextInOrder payloads j)
    (hcount : payloads.length < 2 ^ 32) :
    TextInOrder payloads (QwiicConfigFile.file.call j .inspect).1 := by
  have hinspect := hinOrder.inOrder.inspect hcount
  refine ⟨hinOrder.holds, ?_⟩
  simp only [ConfigFile.call, hinOrder.holds.reads.inspect]
  exact hinspect

theorem TextInOrder.length_le (hinOrder : TextInOrder payloads j) :
    payloads.length ≤ j.file.chars.length := by
  have hle := length_journalFile payloads
  rw [hinOrder.holds, encode_length]
  omega

/-- A run in which every commit succeeds leaves the encoding of the row of its payloads, as long as
the file size fits into its 32 bits. -/
theorem run_textInOrder (run : TextRun h j) (hok : AllCommitted h)
    (hsize : j.file.chars.length < 2 ^ 32) : TextInOrder (committedPayloads h) j := by
  refine run.history_invariant (fun h j => AllCommitted h → j.file.chars.length < 2 ^ 32 →
    TextInOrder (committedPayloads h) j) ?_ ?_ hok hsize
  · exact fun _ _ => ⟨rfl, rfl, nofun, nofun⟩
  · rintro h j ⟨c, result⟩ j' run ih hstep hok hsize
    have hgrow : j.file.chars <+: j'.file.chars := by
      have hgrow := text_call_extends j c
      rwa [hstep] at hgrow
    have hsize' := Nat.lt_of_le_of_lt hgrow.length_le hsize
    have hinOrder := ih (fun e he => hok e (List.mem_cons_of_mem _ he)) hsize'
    have hcount := Nat.lt_of_le_of_lt hinOrder.length_le hsize'
    have hpost : (QwiicConfigFile.file.call j c).1 = j' := by rw [hstep]
    rw [← hpost]
    cases c with
    | commit payload card =>
      refine hinOrder.commit hcount ?_
      rw [hstep]
      exact hok _ List.mem_cons_self payload card rfl
    | load max_len => exact hinOrder.load hcount max_len
    | inspect => exact hinOrder.inspect hcount
    | reopen =>
      exact ⟨hinOrder.holds, rfl, hinOrder.inOrder.lens, nofun⟩

/-- What makes a default record one that a bootstrap can write and read back. -/
def UsableDefaults (defaults : Option (List UInt8)) (d : List UInt8) : Prop :=
  d ∈ defaults ∧ d.length ≠ 0 ∧ d.length ≤ kMaxPayload

/-- A bootstrap over a file with a size: it loads, or it commits its defaults and loads then. -/
theorem bootstrap_ok_iff {φ : Type} {f : ConfigFile φ} {x : φ} (hsize : f.size x ≠ none)
    (store : ConfigStore) (card : Card) (defaults : Option (List UInt8)) (max_len : Nat) :
    (loadOrInitializeConfig f x store card defaults max_len).2.1 ≠ .StorageError ↔
      (f.load x store max_len).2 ≠ none ∨ ∃ d ∈ defaults, d.length ≠ 0 ∧
        (f.commit x (f.load x store max_len).1 card d).2.2 = true ∧
        (f.load (f.commit x (f.load x store max_len).1 card d).2.1
          (f.commit x (f.load x store max_len).1 card d).1 max_len).2 ≠ none := by
  obtain ⟨size, hsome⟩ := Option.ne_none_iff_exists'.mp hsize
  unfold loadOrInitializeConfig
  rw [hsome]
  obtain ⟨store', payload?⟩ := f.load x store max_len
  cases payload? with
  | some payload =>
    exact iff_of_true BootstrapResult.noConfusion (.inl (Option.some_ne_none payload))
  | none =>
    rw [or_iff_right fun hne => hne rfl]
    cases defaults with
    | none => exact iff_of_false (fun hne => hne rfl) fun ⟨d, hmem, _⟩ => nomatch hmem
    | some d =>
      have hdefaults (P : List UInt8 → Prop) : (∃ d' ∈ some d, P d') ↔ P d :=
        ⟨fun ⟨d', hmem, hP⟩ => Option.some.inj hmem ▸ hP, fun hP => ⟨d, rfl, hP⟩⟩
      rw [hdefaults]
      dsimp only
      by_cases hzero : d.length = 0
      · rw [if_pos hzero]
        exact iff_of_false (fun hne => hne rfl) fun hd => hd.1 hzero
      · rw [if_neg hzero]
        obtain ⟨store'', x', ok⟩ := f.commit x store' card d
        cases ok with
        | false => exact iff_of_false (fun hne => hne rfl) fun hd => nomatch hd.2.1
        | true =>
          dsimp only
          obtain ⟨store₃, payload?⟩ := f.load x' store'' max_len
          cases payload? with
          | none => exact iff_of_false (fun hne => hne rfl) fun hd => hd.2.2 rfl
          | some payload =>
            refine iff_of_true ?_ ⟨hzero, rfl, Option.some_ne_none payload⟩
            split_ifs
            · exact BootstrapResult.noConfusion
            · exact BootstrapResult.noConfusion

theorem load_store {status : StoreStatus} (hscan : scan bytes = some status) (store : ConfigStore)
    (max_len : Nat) :
    (store.load bytes max_len).1 =
      { latest_sequence := status.sequence, sequence_known := true } := by
  unfold ConfigStore.load
  rw [hscan]
  dsimp only
  split_ifs <;> rfl

theorem text_commit_eq (hholds : Holds text bytes) (hlen : payload.length ≤ kMaxPayload)
    (sequence : UInt32) :
    QwiicConfigFile.file.commit text { latest_sequence := sequence, sequence_known := true } {}
        payload =
      ({ latest_sequence := sequence + 1, sequence_known := true },
        some (text.chars ++ encode (recordBytes (sequence + 1) payload)), true) := by
  have hlatest : ConfigStore.latest? { latest_sequence := sequence, sequence_known := true } bytes =
    some sequence := rfl
  rw [hholds.reads.commit hlen hlatest, text_appendRecord_eq]
  rfl

theorem bootstrap_iff (hholds : Holds text bytes) {status : StoreStatus}
    (hscan : scan bytes = some status) (store : ConfigStore) (defaults : Option (List UInt8))
    (max_len : Nat) :
    (loadOrInitializeConfig QwiicConfigFile.file text store {} defaults max_len).2.1 ≠
        .StorageError ↔
      Loadable bytes max_len ∨ ∃ d, UsableDefaults defaults d ∧
        Loadable (bytes ++ recordBytes (status.sequence + 1) d) max_len := by
  have hsize : QwiicConfigFile.file.size text ≠ none := by
    rw [hholds.reads.size]
    exact Option.some_ne_none _
  have hafter (d : List UInt8) :
      Holds (some (text.chars ++ encode (recordBytes (status.sequence + 1) d)))
        (bytes ++ recordBytes (status.sequence + 1) d) := by
    show text.chars ++ _ = _
    rw [encode_append, hholds]
  rw [bootstrap_ok_iff hsize, hholds.reads.load, load_eq_some_iff, load_store hscan]
  refine or_congr_right ⟨?_, ?_⟩
  · rintro ⟨d, hmem, hzero, hok, hload⟩
    have hlen : d.length ≤ kMaxPayload := by
      by_contra hlong
      rw [ConfigFile.commit_of_long _ _ _ _ hlong] at hok
      exact nomatch hok
    rw [text_commit_eq hholds hlen, (hafter d).reads.load, load_eq_some_iff] at hload
    exact ⟨d, ⟨hmem, hzero, hlen⟩, hload⟩
  · rintro ⟨d, ⟨hmem, hzero, hlen⟩, hloadable⟩
    refine ⟨d, hmem, hzero, ?_⟩
    rw [text_commit_eq hholds hlen, (hafter d).reads.load, load_eq_some_iff]
    exact ⟨rfl, hloadable⟩

theorem loadable_cut_iff (hlens : ∀ payload ∈ payloads, payload.length ≤ kMaxPayload)
    (hlen : payload.length ≤ kMaxPayload) (hhead : tail <+: recordBytes seq payload)
    (hcut : tail.length < (recordBytes seq payload).length) (hcount : payloads.length < 2 ^ 32) :
    Loadable (journalFile payloads ++ tail) max_len ↔
      ∃ newest ∈ payloads.head?, newest.length ≤ max_len := by
  rw [← load_eq_some_iff {}]
  by_cases hfits : ∀ newest ∈ payloads.head?, newest.length ≤ max_len
  · rw [load_cut hlens hlen hhead hcut hcount hfits, Option.ne_none_iff_exists']
    constructor
    · rintro ⟨newest, hnewest⟩
      exact ⟨newest, hnewest, hfits newest hnewest⟩
    · rintro ⟨newest, hnewest, -⟩
      exact ⟨newest, hnewest⟩
  · cases payloads with
    | nil => exact absurd (fun newest hnewest => nomatch hnewest) hfits
    | cons newest older =>
      have htoo : ¬ newest.length ≤ max_len := fun hle => hfits fun other hother => by
        obtain rfl : newest = other := Option.some.inj hother
        exact hle
      refine iff_of_false (fun hload => hload ?_) ?_
      · unfold ConfigStore.load
        rw [scan_cut hlens hlen hhead hcut, journalStatus, note_newer (journalStatus_newer hcount)]
        dsimp only [StoreStatus.sized]
        rw [Bool.not_true, if_neg Bool.false_ne_true,
          writtenHeader_length (hlens newest List.mem_cons_self), if_pos (Nat.not_le.mp htoo)]
      · rintro ⟨other, hother, hle⟩
        obtain rfl : newest = other := Option.some.inj hother
        exact htoo hle

theorem loadable_journalFile_iff (hlens : ∀ payload ∈ payloads, payload.length ≤ kMaxPayload)
    (hcount : payloads.length < 2 ^ 32) :
    Loadable (journalFile payloads) max_len ↔
      ∃ newest ∈ payloads.head?, newest.length ≤ max_len := by
  have hnil : [] <+: recordBytes 0 [] := List.nil_prefix
  have hempty : Loadable (journalFile payloads ++ []) max_len ↔ _ :=
    loadable_cut_iff hlens (Nat.zero_le _) hnil (by decide) hcount
  rwa [List.append_nil] at hempty

theorem loadable_of_noHeader {d : List UInt8}
    (hlens : ∀ payload ∈ payloads, payload.length ≤ kMaxPayload)
    (hcount : payloads.length + 1 < 2 ^ 32) (hlen : d.length ≤ kMaxPayload)
    (hfits : d.length ≤ max_len)
    (hno : ∀ offset, (journalFile payloads).length ≤ offset →
      offset < (journalFile payloads ++ tail).length →
      ¬ HeaderAt (journalFile payloads ++ tail ++ recordBytes (numberAfter payloads) d) offset) :
    Loadable (journalFile payloads ++ tail ++ recordBytes (numberAfter payloads) d) max_len := by
  have hskip : ∀ n, n ≤ tail.length →
      scanLoop (journalFile payloads ++ tail ++ recordBytes (numberAfter payloads) d) 0 none {} =
        scanLoop (journalFile payloads ++ tail ++ recordBytes (numberAfter payloads) d)
          ((journalFile payloads).length + n) none (journalStatus payloads) := by
    intro n hn
    induction n with
    | zero =>
      rw [List.append_assoc, Nat.add_zero]
      exact scanLoop_journalFile hlens _
    | succ n ih =>
      rw [ih (by omega), scanLoop_skip, Nat.add_assoc]
      · rw [List.length_append, List.length_append, recordBytes_length]
        omega
      · refine hno _ (Nat.le_add_right _ _) ?_
        rw [List.length_append]
        omega
  have hend := hskip tail.length (Nat.le_refl _)
  rw [← List.length_append, scanLoop_recordBytes hlen] at hend
  have hscan : scan (journalFile payloads ++ tail ++ recordBytes (numberAfter payloads) d ++ []) =
      some (((journalStatus payloads).note (writtenHeader (numberAfter payloads) d)
        ((journalFile payloads ++ tail).length + kHeaderSize)).sized
        (journalFile payloads ++ tail ++ recordBytes (numberAfter payloads) d ++ []).length) := by
    rw [List.append_nil, scan, hend, Option.map_some]
  have hload := load_noted hscan (journalStatus_newer hcount) hlen hfits {}
  rw [List.append_nil] at hload
  rw [← load_eq_some_iff {}, hload]
  exact Option.some_ne_none d

/-- What is asked of a text file whose last record is torn: it has a size, the payload of the last
whole record is loaded from it, and a bootstrap succeeds where it would have succeeded before. -/
structure TornTextRecovers (payloads : List (List UInt8)) (before torn : TextFile)
    (defaults : Option (List UInt8)) (max_len : Nat) : Prop where
  size : QwiicConfigFile.size torn ≠ none
  load : (∀ newest ∈ payloads.head?, newest.length ≤ max_len) → ∀ store,
    (QwiicConfigFile.file.load torn store max_len).2 = payloads.head?
  bootstrap : ∀ store,
    (loadOrInitializeConfig QwiicConfigFile.file before store {} defaults max_len).2.1 ≠
      .StorageError →
    (loadOrInitializeConfig QwiicConfigFile.file torn store {} defaults max_len).2.1 ≠
      .StorageError

theorem TextInOrder.torn_file (hinOrder : TextInOrder payloads j) (hcount : payloads.length < 2 ^ 32)
    (hlen : payload.length ≤ kMaxPayload) (room : Nat) (sync_ok : Bool) :
    (QwiicConfigFile.file.call j (.commit payload { room := some room, sync_ok })).1.file =
      some (j.file.chars ++ (encode (recordBytes (numberAfter payloads) payload)).take room) := by
  simp only [ConfigFile.call, hinOrder.commit_eq hcount hlen]
  rfl

/-- Half a byte at the end makes the size an error. -/
theorem TextInOrder.size_torn_odd (hinOrder : TextInOrder payloads j) (seq : UInt32)
    (payload : List UInt8) {room : Nat} (hodd : room % 2 = 1)
    (hroom : room < 2 * (kHeaderSize + payload.length + kTrailerSize)) :
    QwiicConfigFile.size (some (j.file.chars ++ (encode (recordBytes seq payload)).take room)) =
      none := by
  have hlength : (j.file.chars ++ (encode (recordBytes seq payload)).take room).length % 2 ≠ 0 := by
    rw [List.length_append, List.length_take, hinOrder.holds, encode_length, encode_length,
      recordBytes_length]
    omega
  exact if_pos hlength

theorem UsableDefaults.unique {defaults : Option (List UInt8)} {d d' : List UInt8}
    (hd : UsableDefaults defaults d) (hd' : UsableDefaults defaults d') : d = d' :=
  Option.some.inj (hd.1.symm.trans hd'.1)

/-- A bootstrap that falls back on its defaults, before and after: there is one default record at
most. -/
theorem fallback_iff {defaults : Option (List UInt8)} {newest : Prop}
    {fits loads : List UInt8 → Prop} :
    ((newest ∨ ∃ d, UsableDefaults defaults d ∧ fits d) →
        newest ∨ ∃ d, UsableDefaults defaults d ∧ loads d) ↔
      newest ∨ ∀ d, UsableDefaults defaults d → fits d → loads d := by
  constructor
  · intro hboot
    by_cases hnewest : newest
    · exact .inl hnewest
    · refine .inr fun d husable hfits => ?_
      obtain hnew | ⟨d', husable', hloads⟩ := hboot (.inr ⟨d, husable, hfits⟩)
      · exact absurd hnew hnewest
      · rw [husable.unique husable']
        exact hloads
  · rintro (hnewest | hloads)
    · exact fun _ => .inl hnewest
    · rintro (hnewest | ⟨d, husable, hfits⟩)
      · exact .inl hnewest
      · exact .inr ⟨d, husable, hloads d husable hfits⟩

theorem loadable_defaults_iff {d : List UInt8}
    (hlens : ∀ payload ∈ payloads, payload.length ≤ kMaxPayload)
    (hcount : payloads.length + 1 < 2 ^ 32) (hlen : d.length ≤ kMaxPayload) :
    Loadable (journalFile payloads ++ recordBytes (numberAfter payloads) d) max_len ↔
      d.length ≤ max_len := by
  have hnew : Loadable (journalFile (d :: payloads)) max_len ↔ _ :=
    loadable_journalFile_iff (List.forall_mem_cons.mpr ⟨hlen, hlens⟩) hcount
  rw [← journalFile, hnew]
  simp

/-- A record that is cut off after a whole number of bytes: the file has its size and loads as before,
and what it costs a bootstrap is what it costs the default record. -/
theorem TextInOrder.torn_even_iff (hinOrder : TextInOrder payloads j)
    (hcount : payloads.length + 1 < 2 ^ 32) (hlen : payload.length ≤ kMaxPayload) {k : Nat}
    (hk : k < kHeaderSize + payload.length + kTrailerSize) (defaults : Option (List UInt8))
    (max_len : Nat) :
    TornTextRecovers payloads j.file (some (j.file.chars ++
        (encode (recordBytes (numberAfter payloads) payload)).take (2 * k))) defaults max_len ↔
      (∃ newest ∈ payloads.head?, newest.length ≤ max_len) ∨
        ∀ d, UsableDefaults defaults d → d.length ≤ max_len →
          Loadable (journalFile payloads ++ (recordBytes (numberAfter payloads) payload).take k ++
            recordBytes (numberAfter payloads) d) max_len := by
  have hhead : (recordBytes (numberAfter payloads) payload).take k <+:
    recordBytes (numberAfter payloads) payload := List.take_prefix _ _
  have hcut : ((recordBytes (numberAfter payloads) payload).take k).length <
      (recordBytes (numberAfter payloads) payload).length := by
    rw [List.length_take, recordBytes_length]
    omega
  have hholds : Holds (some (j.file.chars ++
      (encode (recordBytes (numberAfter payloads) payload)).take (2 * k)))
      (journalFile payloads ++ (recordBytes (numberAfter payloads) payload).take k) := by
    show j.file.chars ++ _ = _
    rw [encode_take, encode_append, hinOrder.holds]
  have hlens : ∀ payload ∈ payloads, payload.length ≤ kMaxPayload := hinOrder.inOrder.lens
  have hcount' : payloads.length < 2 ^ 32 := Nat.lt_of_succ_lt hcount
  have hnumber : (journalStatus payloads).sequence + 1 = numberAfter payloads := by
    rw [journalStatus_sequence hcount', ofNat_add_one]
  have hbefore (store : ConfigStore) :=
    bootstrap_iff hinOrder.holds (scan_journalFile hlens) store defaults max_len
  have htorn (store : ConfigStore) :=
    bootstrap_iff hholds (scan_cut hlens hlen hhead hcut) store defaults max_len
  simp only [StoreStatus.sized, hnumber, loadable_journalFile_iff hlens hcount'] at hbefore
  simp only [StoreStatus.sized, hnumber, loadable_cut_iff hlens hlen hhead hcut hcount'] at htorn
  have hclean (d : List UInt8) : (UsableDefaults defaults d ∧
      Loadable (journalFile payloads ++ recordBytes (numberAfter payloads) d) max_len) ↔
        UsableDefaults defaults d ∧ d.length ≤ max_len :=
    and_congr_right fun husable => loadable_defaults_iff hlens hcount husable.2.2
  simp only [hclean] at hbefore
  rw [← fallback_iff]
  constructor
  · rintro ⟨-, -, hboot⟩
    rw [← hbefore {}, ← htorn {}]
    exact hboot {}
  · intro hrecover
    refine ⟨?_, fun hfits store => ?_, fun store hboot => ?_⟩
    · rw [hholds.size]
      exact Option.some_ne_none _
    · rw [hholds.reads.load]
      exact load_cut hlens hlen hhead hcut hcount' hfits store
    · rw [htorn]
      exact hrecover ((hbefore store).mp hboot)

/-- After a run in which every commit succeeds, the text file recovers from a further commit that is
cut off exactly if a whole number of bytes was written and, where a bootstrap has to fall back on
its defaults, they can be loaded from behind the torn bytes. -/
theorem torn_text_recovery_iff (run : TextRun h j) (hok : AllCommitted h)
    (hsize : j.file.chars.length < 2 ^ 32) (hlen : payload.length ≤ kMaxPayload) (room : Nat)
    (sync_ok : Bool) (hroom : room < 2 * (kHeaderSize + payload.length + kTrailerSize))
    (defaults : Option (List UInt8)) (max_len : Nat) :
    TornTextRecovers (committedPayloads h) j.file
        (QwiicConfigFile.file.call j (.commit payload { room := some room, sync_ok })).1.file
        defaults max_len ↔
      room % 2 = 0 ∧ ((∃ newest ∈ (committedPayloads h).head?, newest.length ≤ max_len) ∨
        ∀ d, UsableDefaults defaults d → d.length ≤ max_len →
          Loadable (journalFile (committedPayloads h) ++
            (recordBytes (numberAfter (committedPayloads h)) payload).take (room / 2) ++
            recordBytes (numberAfter (committedPayloads h)) d) max_len) := by
  have hinOrder := run_textInOrder run hok hsize
  have hcount : (committedPayloads h).length + 1 < 2 ^ 32 := by
    have hle := length_journalFile (committedPayloads h)
    rw [hinOrder.holds, encode_length] at hsize
    omega
  generalize committedPayloads h = payloads at hinOrder hcount ⊢
  rw [hinOrder.torn_file (Nat.lt_of_succ_lt hcount) hlen]
  obtain heven | hodd := Nat.mod_two_eq_zero_or_one room
  · obtain ⟨k, rfl⟩ : ∃ k, room = 2 * k := ⟨room / 2, by omega⟩
    have hhalf : 2 * k / 2 = k := by omega
    rw [hinOrder.torn_even_iff hcount hlen (by omega), hhalf, and_iff_right heven]
  · refine iff_of_false (fun hrecovers => hrecovers.size ?_) fun hrecovers => ?_
    · exact hinOrder.size_torn_odd _ payload hodd hroom
    · omega

def firstText : FileJournal TextFile :=
  { file := some (encode (recordBytes 1 [1])), store := { latest_sequence := 1, sequence_known := true } }

theorem noText_inOrder : TextInOrder [] { file := none } :=
  ⟨rfl, rfl, nofun, nofun⟩

theorem firstText_run :
    TextRun [⟨{ file := none }, (.commit [1] {}, .committed true), firstText⟩] firstText := by
  refine .step .nil ?_
  have hcommit : QwiicConfigFile.file.commit none {} {} [1] = _ :=
    noText_inOrder.commit_eq (by decide) (by decide) {}
  simp only [WithOutput, ConfigFile.call, hcommit]
  rfl

theorem firstText_allCommitted : AllCommitted (σ := FileJournal TextFile)
    [⟨{ file := none }, (.commit [1] {}, .committed true), firstText⟩] := by
  intro e he payload card _
  obtain rfl := List.mem_singleton.mp he
  rfl

/-- The second record is cut off after 21 bytes, or the first one after five. -/
theorem torn_text_recovery_iff_first :
    TornTextRecovers [[1]] firstText.file
        (QwiicConfigFile.file.call firstText (.commit [2, 3] { room := some 42 })).1.file
        (some [9]) 8 ∧
      TornTextRecovers [] none
        (QwiicConfigFile.file.call { file := none } (.commit [2, 3] { room := some 10 })).1.file
        (some [9]) 8 := by
  constructor
  · exact (torn_text_recovery_iff firstText_run firstText_allCommitted (by decide) (by decide) 42 true
      (by decide) (some [9]) 8).mpr ⟨rfl, .inl ⟨[1], rfl, by decide⟩⟩
  · have hnone : AllCommitted ([] : List TextEvent) := List.forall_mem_nil _
    refine (torn_text_recovery_iff .nil hnone (by decide) (by decide) 10 true (by decide)
      (some [9]) 8).mpr ⟨rfl, .inr fun d husable hfits => ?_⟩
    obtain rfl : [9] = d := Option.some.inj husable.1
    have hno : ∀ offset < 5,
        ¬ HeaderAt ((recordBytes 1 [2, 3]).take 5 ++ recordBytes 1 [9]) offset := by
      decide
    exact loadable_of_noHeader (fun _ hp => absurd hp List.not_mem_nil) (by decide) (by decide) hfits
      fun offset _ hlt => hno offset hlt

/-- Cut off one character earlier, the file has no size any more. -/
theorem torn_text_unreadable : ¬ ∀ (h : List TextEvent) (j : FileJournal TextFile)
    (payload : List UInt8) (room : Nat) (sync_ok : Bool) (defaults : Option (List UInt8))
    (max_len : Nat), TextRun h j → AllCommitted h → j.file.chars.length < 2 ^ 32 →
    payload.length ≤ kMaxPayload → room < 2 * (kHeaderSize + payload.length + kTrailerSize) →
    TornTextRecovers (committedPayloads h) j.file
      (QwiicConfigFile.file.call j (.commit payload { room := some room, sync_ok })).1.file
      defaults max_len := by
  intro hrecovers
  have hfirst := hrecovers _ firstText [2, 3] 41 true (some [9]) 8 firstText_run firstText_allCommitted
    (by decide) (by decide) (by decide)
  have hsize : firstText.file.chars.length < 2 ^ 32 := by decide
  have hinOrder := run_textInOrder firstText_run firstText_allCommitted hsize
  have hcount : [[(1 : UInt8)]].length < 2 ^ 32 := by decide
  have hlen : [(2 : UInt8), 3].length ≤ kMaxPayload := by decide
  refine hfirst.size ?_
  rw [hinOrder.torn_file hcount hlen]
  exact hinOrder.size_torn_odd _ [2, 3] rfl (by decide)

end HexapodVerified.Config
