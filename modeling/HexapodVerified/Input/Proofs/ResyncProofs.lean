import HexapodVerified.Input.Proofs.CrsfProofs

/-!
# Finding a frame that is repeated

A parser that meets a repeated frame somewhere inside walks from offset to offset: past a byte that is no
sync byte, past a sync byte without a length, and past whole stretches that look like a frame. It finds
the frame exactly if this walk comes to an offset at which the frame begins. The walk can miss it for
ever: two bytes of the payload that look like the start of a frame of the same length are enough.
-/

namespace HexapodVerified.Input.Crsf

open BitFields SyncFrames

variable {p : Parser} {pending frame payload : List UInt8} {stream : Nat → UInt8}

def repeated (frame : List UInt8) (i : Nat) : UInt8 := frame.getD (i % frame.length) 0

theorem repeats_repeated : Repeats (repeated frame) frame.length := by
  intro i
  unfold repeated
  rw [Nat.add_mod_right]

theorem replicate_getElem? {count i : Nat} (hi : i < (List.replicate count frame).flatten.length) :
    (List.replicate count frame).flatten[i]? = some (repeated frame i) := by
  induction count generalizing i with
  | zero => exact absurd hi (Nat.not_lt_zero i)
  | succ count ih =>
    rw [List.replicate_succ, List.flatten_cons] at hi ⊢
    rw [List.length_append] at hi
    by_cases hfirst : i < frame.length
    · rw [List.getElem?_append_left hfirst]
      unfold repeated
      rw [Nat.mod_eq_of_lt hfirst, List.getD_eq_getElem?_getD, List.getElem?_eq_getElem hfirst,
        Option.getD_some]
    · obtain ⟨k, rfl⟩ : ∃ k, i = frame.length + k := ⟨i - frame.length, by omega⟩
      rw [List.getElem?_append_right (Nat.le_add_right _ _), Nat.add_sub_cancel_left,
        ih (by omega), Nat.add_comm, ← repeats_repeated k]

theorem window_start {n : Nat} (h : n ≤ frame.length) : window (repeated frame) 0 n = frame.take n := by
  induction n with
  | zero => rfl
  | succ n ih =>
    rw [window_succ, ih (Nat.le_of_succ_le h), List.take_succ_eq_append_getElem h]
    unfold repeated
    rw [Nat.zero_add, Nat.mod_eq_of_lt h, List.getD_eq_getElem?_getD, List.getElem?_eq_getElem h,
      Option.getD_some]

theorem mem_pushAll (h : Parser.Represents p pending) {count : Nat} {channels : Channels} :
    some channels ∈ (p.pushAll (List.replicate count frame).flatten).2 ↔
      ∃ i < (List.replicate count frame).flatten.length, ∃ completed,
        completedAt format pending (repeated frame) i = some completed ∧
          decoded completed = some channels := by
  have hfeed := (@feed_getElem? format pending (repeated frame) (List.replicate count frame).flatten
    fun j hj => replicate_getElem? hj).2
  rw [h.scans.results, List.mem_map]
  constructor
  · rintro ⟨completed, hmem, hbind⟩
    obtain ⟨found, rfl, hdecoded⟩ := Option.bind_eq_some_iff.mp hbind
    obtain ⟨i, hget⟩ := List.mem_iff_getElem?.mp hmem
    have hi : i < (List.replicate count frame).flatten.length := by
      rw [← @feed_length format pending]
      exact (List.getElem?_eq_some_iff.mp hget).1
    rw [hfeed i hi] at hget
    exact ⟨i, hi, found, Option.some.inj hget, hdecoded⟩
  · rintro ⟨i, hi, found, hcompleted, hdecoded⟩
    refine ⟨some found, List.mem_iff_getElem?.mpr ⟨i, ?_⟩, hdecoded⟩
    rw [hfeed i hi, hcompleted]

theorem decoded_eq_iff (hlen : payload.length = 22) (hframe : Frame format frame) :
    decoded frame = some (Parser.channelsOf payload) ↔ frame = rcFrame payload := by
  constructor
  · intro hdecoded
    unfold decoded at hdecoded
    split_ifs at hdecoded with hrc
    obtain ⟨other, hother, rfl⟩ := hrc.exists_eq hframe
    have hchannels := decoded_rcFrame hother
    unfold decoded at hchannels
    rw [if_pos hrc, hdecoded] at hchannels
    have heq : payload = other := by
      refine @eq_of_fields payload other 11 16 (by rw [hlen, hother]) (by rw [hlen]) fun i hi => ?_
      rw [← Parser.channelsOf_spec (Nat.le_of_eq hlen.symm) i hi,
        ← Parser.channelsOf_spec (Nat.le_of_eq hother.symm) i hi, Option.some.inj hchannels]
    rw [heq]
  · rintro rfl
    exact decoded_rcFrame hlen

namespace Parser

def openFrame (p : Parser) : List UInt8 :=
  match p.state with
  | .sync => []
  | .length => [kSyncByte]
  | .data => p.buf.toList.take p.idx.toNat

/-- How many bytes the open frame misses; in `State::Length` the sync byte of the next frame ends it. -/
def missing (p : Parser) : Nat :=
  match p.state with
  | .sync => 0
  | .length => 1
  | .data => 2 + p.frame_len.toNat - p.idx.toNat

end Parser

/-- From one offset of the repeated frame to the next at which the parser waits for a sync byte. -/
def nextOffsetIn (frame : List UInt8) (offset : Nat) : Nat :=
  (if repeated frame offset ≠ kSyncByte then offset + 1
    else if repeated frame (offset + 1) < 2 ∨ repeated frame (offset + 1) > kMaxFrameLen - 2 then
      offset + 2
    else offset + 2 + (repeated frame (offset + 1)).toNat) % frame.length

def BeginsAt (frame : List UInt8) (offset : Nat) : Prop :=
  window (repeated frame) offset frame.length = frame

/-- The first bytes of the frame complete the open one to it, or the walk comes to where it begins. -/
def Meets (p : Parser) (frame : List UInt8) : Prop :=
  p.openFrame ++ frame.take p.missing = frame ∨
    ∃ j, BeginsAt frame ((nextOffsetIn frame)^[j] (p.missing % frame.length))

theorem nextOffsetIn_eq : nextOffsetIn frame =
    nextOffset format (repeated frame) frame.length := by
  funext offset
  have hrefused : format.accepts (repeated frame (offset + 1)) = false ↔
      repeated frame (offset + 1) < 2 ∨ repeated frame (offset + 1) > kMaxFrameLen - 2 := by
    rw [← Bool.not_eq_true, accepts_iff, not_not]
  exact congrArg (· % frame.length) (if_congr Iff.rfl rfl (if_congr hrefused.symm rfl rfl))

theorem Parser.Represents.first_stretch (h : p.Represents pending)
    (hsync : stream 0 = kSyncByte) :
    pendingAt format pending stream p.missing = [] ∧ p.missing ≤ 62 ∧
      ∀ i < p.missing, ∀ completed, completedAt format pending stream i = some completed ↔
        p.state = .data ∧ i + 1 = p.missing ∧ completed = p.openFrame ++ window stream 0 p.missing := by
  cases h with
  | rest hstate =>
    have hmissing : p.missing = 0 := by
      unfold Parser.missing
      rw [hstate]
    rw [hmissing]
    exact ⟨rfl, Nat.zero_le _, fun i hi => absurd hi (Nat.not_lt_zero i)⟩
  | sync hstate hbuf =>
    have hmissing : p.missing = 1 := by
      unfold Parser.missing
      rw [hstate]
    have hstep : step format [kSyncByte] (stream 0) = ([], none) := by
      rw [hsync]
      exact step_sync_of_not rfl
    rw [hmissing]
    refine ⟨congrArg Prod.fst hstep, by decide, fun i hi completed => ?_⟩
    obtain rfl : i = 0 := by omega
    refine iff_of_false ?_ ?_
    · unfold completedAt pendingAt
      rw [hstep]
      rintro ⟨⟩
    · rw [hstate]
      rintro ⟨⟨⟩, -⟩
  | @data body hstate haccepts hidx hshort hbuf =>
    have hmax := accepts_le haccepts
    have hmissing : p.missing = p.frame_len.toNat - body.length := by
      unfold Parser.missing
      rw [hstate]
      dsimp only
      omega
    have hopen : p.openFrame = kSyncByte :: p.frame_len :: body := by
      unfold Parser.openFrame
      rw [hstate]
      rw [hidx, hbuf]
    have hstart : pendingAt format (kSyncByte :: p.frame_len :: body) stream 0 =
        format.sync :: p.frame_len :: body := rfl
    rw [hmissing, hopen]
    refine ⟨?_, by omega, fun i hi completed => ?_⟩
    · have hend := pendingAt_end hstart
        (show body.length + (p.frame_len.toNat - body.length - 1) + 1 = _ by omega)
      rw [show 0 + (p.frame_len.toNat - body.length - 1) + 1 = p.frame_len.toNat - body.length by
        omega] at hend
      exact hend
    · have hdata := completedAt_data hstart (show body.length + i < p.frame_len.toNat by omega)
      rw [Nat.zero_add] at hdata
      rw [hdata]
      by_cases hlast : i + 1 = p.frame_len.toNat - body.length
      · rw [if_neg (by omega), hlast]
        constructor
        · intro hsome
          exact ⟨hstate, rfl, (Option.some.inj hsome).symm⟩
        · rintro ⟨-, -, rfl⟩
          rfl
      · rw [if_pos (by omega)]
        refine iff_of_false (by rintro ⟨⟩) ?_
        rintro ⟨-, heq, -⟩
        exact hlast heq

theorem Parser.Represents.open (h : p.Represents pending) : Open format pending := by
  cases h with
  | rest => exact .rest
  | sync => exact .sync
  | data _ haccepts _ hshort => exact .data haccepts hshort

theorem Parser.Represents.data_of_completes (h : p.Represents pending) (hlong : 2 < frame.length)
    (hcompletes : p.openFrame ++ frame.take p.missing = frame) :
    p.state = .data ∧ 0 < p.missing ∧ p.missing ≤ frame.length := by
  have hsize := congrArg List.length hcompletes
  rw [List.length_append, List.length_take] at hsize
  cases h with
  | rest hstate =>
    unfold Parser.openFrame Parser.missing at hsize
    rw [hstate] at hsize
    dsimp only [List.length_nil] at hsize
    omega
  | sync hstate hbuf =>
    unfold Parser.openFrame Parser.missing at hsize
    rw [hstate] at hsize
    dsimp only [List.length_cons, List.length_nil] at hsize
    omega
  | @data body hstate haccepts hidx hshort hbuf =>
    have hmissing : p.missing = p.frame_len.toNat - body.length := by
      unfold Parser.missing
      rw [hstate]
      dsimp only
      omega
    have hopen : p.openFrame.length = 2 + body.length := by
      unfold Parser.openFrame
      rw [hstate]
      rw [hidx, hbuf, List.length_cons, List.length_cons]
      omega
    exact ⟨hstate, by omega, by omega⟩

section Found

variable {count : Nat}

theorem rcFrame_length (hlen : payload.length = 22) : (rcFrame payload).length = 26 :=
  (rc_rcFrame hlen).length

theorem meets_of_mem (h : p.Represents pending) (hlen : payload.length = 22)
    (hmem : some (Parser.channelsOf payload) ∈
      (p.pushAll (List.replicate count (rcFrame payload)).flatten).2) : Meets p (rcFrame payload) := by
  obtain ⟨hrest, -, hfirst⟩ :=
    @Parser.Represents.first_stretch p pending (repeated (rcFrame payload)) h rfl
  obtain ⟨i, -, completed, hcompleted, hdecoded⟩ := (mem_pushAll h).mp hmem
  have hframe := (decoded_eq_iff hlen (h.open.completedAt hcompleted)).mp hdecoded
  by_cases hbefore : i < p.missing
  · obtain ⟨-, -, heq⟩ := (hfirst i hbefore completed).mp hcompleted
    have htotal := congrArg List.length heq
    rw [hframe, List.length_append, window_length] at htotal
    rw [window_start (by omega), hframe] at heq
    exact Or.inl heq.symm
  · obtain ⟨j, -, -, heq⟩ := (completedAt_iff hrest (Nat.not_lt.mp hbefore)).mp hcompleted
    have htotal := congrArg List.length heq
    rw [hframe, window_length] at htotal
    refine Or.inr ⟨j, ?_⟩
    unfold BeginsAt
    rw [nextOffsetIn_eq, ← iterate_next_mod repeats_repeated, window_mod repeats_repeated, htotal,
      ← heq, hframe]

/-- So many repetitions are enough. -/
def resyncBound : Nat := 65

theorem mem_of_meets (h : p.Represents pending) (hlen : payload.length = 22)
    (hmeets : Meets p (rcFrame payload)) (hcount : resyncBound ≤ count) :
    some (Parser.channelsOf payload) ∈
      (p.pushAll (List.replicate count (rcFrame payload)).flatten).2 := by
  obtain ⟨hrest, hmissing, hfirst⟩ :=
    @Parser.Represents.first_stretch p pending (repeated (rcFrame payload)) h rfl
  have hsize := rcFrame_length hlen
  have htotal : 1690 ≤ (List.replicate count (rcFrame payload)).flatten.length := by
    have hcount' : 65 * 26 ≤ count * 26 := Nat.mul_le_mul_right 26 hcount
    rwa [List.length_flatten, List.map_replicate, List.sum_replicate_nat, hsize]
  refine (mem_pushAll h).mpr ?_
  rcases hmeets with hcompletes | hwalk
  · obtain ⟨hdata, hpos, hle⟩ := h.data_of_completes (by omega) hcompletes
    refine ⟨p.missing - 1, by omega, rcFrame payload, ?_, decoded_rcFrame hlen⟩
    rw [hfirst _ (by omega), window_start hle]
    exact ⟨hdata, by omega, hcompletes.symm⟩
  · have hlt : ∀ offset, nextOffsetIn (rcFrame payload) offset < (rcFrame payload).length := by
      intro offset
      exact Nat.mod_lt _ (by omega)
    obtain ⟨j, hj, hbegins⟩ := exists_iterate_lt hlt (Nat.mod_lt _ (by omega)) hwalk
    rw [nextOffsetIn_eq, ← iterate_next_mod repeats_repeated] at hbegins
    unfold BeginsAt at hbegins
    rw [window_mod repeats_repeated, hsize] at hbegins
    have hle := @iterate_next_le format (repeated (rcFrame payload)) p.missing 62
      (fun len => accepts_le) j
    have hge := @le_iterate_next format (repeated (rcFrame payload)) p.missing j
    have htwo := hbegins
    rw [window_two] at htwo
    obtain ⟨hsync, htail⟩ := List.cons.inj htwo
    obtain ⟨hlength, -⟩ := List.cons.inj htail
    have hopens : Opens format (repeated (rcFrame payload))
        ((next format (repeated (rcFrame payload)))^[j] p.missing) := by
      refine ⟨hsync, ?_⟩
      rw [hlength]
      rfl
    have hnext := next_opens hopens
    have h24 : (24 : UInt8).toNat = 24 := rfl
    rw [hlength, h24] at hnext
    refine ⟨(next format (repeated (rcFrame payload)))^[j] p.missing + 25, ?_, rcFrame payload, ?_,
      decoded_rcFrame hlen⟩
    · rw [hsize] at hj
      omega
    · refine (completedAt_iff hrest (by omega)).mpr ⟨j, hopens, by omega, ?_⟩
      rw [show (next format (repeated (rcFrame payload)))^[j] p.missing + 25 + 1 -
        (next format (repeated (rcFrame payload)))^[j] p.missing = 26 by omega, hbegins]

end Found

/-- From every state that is reached a repeated frame is found within the bound exactly if it is met on the
way from there, and otherwise it is never found. -/
theorem resync_iff (p : Parser) (sent payload : List UInt8) (hlen : payload.length = 22) (count : Nat)
    (hcount : resyncBound ≤ count) :
    some (Parser.channelsOf payload) ∈
        ((p.reset.pushAll sent).1.pushAll (List.replicate count (rcFrame payload)).flatten).2 ↔
      Meets (p.reset.pushAll sent).1 (rcFrame payload) := by
  have hscans := @Parser.Represents.scans p.reset [] sent (.rest rfl)
  exact ⟨meets_of_mem hscans.represents hlen, fun hmeets =>
    mem_of_meets hscans.represents hlen hmeets hcount⟩

theorem resync_iff_zero :
    some (Parser.channelsOf (.replicate 22 0)) ∈ ((({} : Parser).reset.pushAll [0xC8]).1.pushAll
      (List.replicate resyncBound (rcFrame (.replicate 22 0))).flatten).2 := by
  refine (resync_iff {} [0xC8] (.replicate 22 0) rfl resyncBound (Nat.le_refl _)).mpr (Or.inr ⟨25, ?_⟩)
  unfold BeginsAt
  decide +kernel

def lockedPayload : List UInt8 := [0xC8, 24] ++ .replicate 20 0

/-- Three bytes of a frame that breaks off are enough to miss it for ever: the walk stays at the false
start. -/
theorem resync_locked_out : ¬∃ bound : Nat, ∀ (p : Parser) (sent payload : List UInt8),
    payload.length = 22 → some (Parser.channelsOf payload) ∈
      ((p.reset.pushAll sent).1.pushAll (List.replicate bound (rcFrame payload)).flatten).2 := by
  rintro ⟨bound, hfinds⟩
  have hscans := @Parser.Represents.scans ({} : Parser).reset [] [0xC8, 4, 0] (.rest rfl)
  have hmem := hfinds {} [0xC8, 4, 0] lockedPayload rfl
  rcases meets_of_mem hscans.represents rfl hmem with hcompletes | ⟨j, hbegins⟩
  · cases hcompletes
  · have hstay : ∀ j, (nextOffsetIn (rcFrame lockedPayload))^[j]
        ((({} : Parser).reset.pushAll [0xC8, 4, 0]).1.missing % (rcFrame lockedPayload).length) = 3 := by
      intro j
      induction j with
      | zero => decide
      | succ j ih =>
        rw [Function.iterate_succ_apply', ih]
        decide
    rw [hstay j] at hbegins
    unfold BeginsAt at hbegins
    cases hbegins

end HexapodVerified.Input.Crsf
