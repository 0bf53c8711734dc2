import Mathlib.Data.Finset.Card
import Mathlib.Data.List.Basic
import Mathlib.Data.Nat.Find
import Mathlib.Logic.Function.Iterate

/-!
# Frames behind a sync byte

A frame is a sync byte, a length that the format accepts, and as many bytes as the length says. A scanner
reads a stream byte by byte: it waits for a sync byte, drops it if no length follows that it accepts, and
otherwise takes the bytes of the frame as they come. It is at rest when no frame is open.

From a rest position the scanner walks to the next one; the frames that it completes are the ones at its
rest positions. In a stream that repeats itself the walk is a walk on finitely many offsets.
-/

namespace SyncFrames

/-- The sync byte and the lengths of a format; a length counts the bytes behind it. -/
structure Format where
  sync : UInt8
  accepts : UInt8 → Bool
  /-- No frame ends with its length. -/
  accepts_pos : ∀ len, accepts len → 2 ≤ len.toNat

/-- One byte: the open frame behind it, and the frame that it completes. -/
def step (fmt : Format) (pending : List UInt8) (byte : UInt8) : List UInt8 × Option (List UInt8) :=
  match pending with
  | [] => if byte = fmt.sync then ([byte], none) else ([], none)
  | [first] => if fmt.accepts byte then ([first, byte], none) else ([], none)
  | first :: len :: body =>
    let frame := first :: len :: (body ++ [byte])
    if body.length + 1 < len.toNat then (frame, none) else ([], some frame)

/-- What can be open between two bytes. -/
inductive Open (fmt : Format) : List UInt8 → Prop where
  | rest : Open fmt []
  | sync : Open fmt [fmt.sync]
  | data {len : UInt8} {body : List UInt8} (haccepts : fmt.accepts len)
    (hshort : body.length < len.toNat) : Open fmt (fmt.sync :: len :: body)

inductive Frame (fmt : Format) : List UInt8 → Prop where
  | mk {len : UInt8} {body : List UInt8} (haccepts : fmt.accepts len)
    (hlength : body.length = len.toNat) : Frame fmt (fmt.sync :: len :: body)

variable {fmt : Format} {pending : List UInt8} {byte len : UInt8} {body : List UInt8}

theorem Open.step (h : Open fmt pending) : Open fmt (step fmt pending byte).1 := by
  unfold SyncFrames.step
  cases h with
  | rest =>
    dsimp only
    split_ifs with hsync
    · rw [hsync]
      exact .sync
    · exact .rest
  | sync =>
    dsimp only
    split_ifs with haccepts
    · refine .data haccepts ?_
      have hpos := fmt.accepts_pos _ haccepts
      rw [List.length_nil]
      omega
    · exact .rest
  | data haccepts hshort =>
    dsimp only
    split_ifs with hlater
    · refine .data haccepts ?_
      rw [List.length_append, List.length_singleton]
      exact hlater
    · exact .rest

theorem Open.step_some (h : Open fmt pending) {frame : List UInt8}
    (hframe : (SyncFrames.step fmt pending byte).2 = some frame) :
    frame = pending ++ [byte] ∧ Frame fmt frame ∧ (SyncFrames.step fmt pending byte).1 = [] := by
  unfold SyncFrames.step at hframe ⊢
  cases h with
  | rest =>
    split_ifs at hframe
  | sync =>
    split_ifs at hframe
  | data haccepts hshort =>
    dsimp only at hframe ⊢
    split_ifs at hframe ⊢ with hlater
    obtain rfl := Option.some.inj hframe
    refine ⟨rfl, .mk haccepts ?_, rfl⟩
    rw [List.length_append, List.length_singleton]
    omega

/-! ## Strings -/

section Feed

variable {bytes rest : List UInt8}

/-- The open frame behind a string, and for each byte what it completes. -/
def feed (fmt : Format) : List UInt8 → List UInt8 → List UInt8 × List (Option (List UInt8))
  | pending, [] => (pending, [])
  | pending, byte :: bytes =>
    ((feed fmt (step fmt pending byte).1 bytes).1,
      (step fmt pending byte).2 :: (feed fmt (step fmt pending byte).1 bytes).2)

theorem feed_cons : feed fmt pending (byte :: bytes) =
    ((feed fmt (step fmt pending byte).1 bytes).1,
      (step fmt pending byte).2 :: (feed fmt (step fmt pending byte).1 bytes).2) := rfl

theorem feed_length : (feed fmt pending bytes).2.length = bytes.length := by
  induction bytes generalizing pending with
  | nil => rfl
  | cons byte bytes ih => rw [feed_cons, List.length_cons, List.length_cons, ih]

theorem feed_append : feed fmt pending (bytes ++ rest) =
    ((feed fmt (feed fmt pending bytes).1 rest).1,
      (feed fmt pending bytes).2 ++ (feed fmt (feed fmt pending bytes).1 rest).2) := by
  induction bytes generalizing pending with
  | nil => rfl
  | cons byte bytes ih => rw [List.cons_append, feed_cons, feed_cons, ih, List.cons_append]

/-- The bytes that an open frame misses complete it. -/
theorem feed_data (hlen : body.length + bytes.length = len.toNat) (hne : bytes ≠ []) :
    feed fmt (fmt.sync :: len :: body) bytes =
      ([], .replicate (bytes.length - 1) none ++ [some (fmt.sync :: len :: (body ++ bytes))]) := by
  induction bytes generalizing body with
  | nil => exact absurd rfl hne
  | cons byte bytes ih =>
    rw [List.length_cons] at hlen
    cases bytes with
    | nil =>
      have hlast : step fmt (fmt.sync :: len :: body) byte =
          ([], some (fmt.sync :: len :: (body ++ [byte]))) := by
        refine if_neg ?_
        rw [List.length_nil] at hlen
        omega
      unfold feed
      rw [hlast]
      rfl
    | cons next bytes =>
      have hlater : step fmt (fmt.sync :: len :: body) byte =
          (fmt.sync :: len :: (body ++ [byte]), none) := by
        refine if_pos ?_
        rw [List.length_cons] at hlen
        omega
      have hrest := @ih (body ++ [byte])
        (by rw [List.length_append, List.length_singleton]; omega) (List.cons_ne_nil _ _)
      unfold feed
      rw [hlater]
      rw [hrest, List.append_assoc, List.singleton_append]
      rfl

/-- A frame that begins at rest is completed by its last byte, and the scanner is at rest again. -/
theorem feed_frame {frame : List UInt8} (h : Frame fmt frame) :
    feed fmt [] frame = ([], .replicate (frame.length - 1) none ++ [some frame]) := by
  cases h with
  | @mk len body haccepts hlength =>
    have hpos := fmt.accepts_pos _ haccepts
    have hne : body ≠ [] := by
      rintro rfl
      rw [List.length_nil] at hlength
      omega
    have hdata := @feed_data fmt len [] body (by rw [List.length_nil, Nat.zero_add, hlength]) hne
    have hsync : step fmt [] fmt.sync = ([fmt.sync], none) := if_pos rfl
    have hlen : step fmt [fmt.sync] len = ([fmt.sync, len], none) := if_pos haccepts
    unfold feed feed
    rw [hsync]
    rw [hlen]
    rw [hdata]
    have hlast : body.length = body.length - 1 + 1 := by
      omega
    rw [List.length_cons, List.length_cons, Nat.add_sub_cancel, hlast, Nat.add_sub_cancel]
    rfl

theorem step_suffix : (step fmt pending byte).1 = pending ++ [byte] ∨
    (step fmt pending byte).1 = [] := by
  match pending with
  | [] =>
    unfold step
    dsimp only
    split_ifs
    · exact Or.inl rfl
    · exact Or.inr rfl
  | [first] =>
    unfold step
    dsimp only
    split_ifs
    · exact Or.inl rfl
    · exact Or.inr rfl
  | first :: len :: body =>
    unfold step
    dsimp only
    split_ifs
    · exact Or.inl rfl
    · exact Or.inr rfl

theorem feed_suffix {frame : List UInt8} {i : Nat} (h : Open fmt pending)
    (hframe : (feed fmt pending bytes).2[i]? = some (some frame)) :
    Frame fmt frame ∧ ∃ before, pending ++ bytes.take (i + 1) = before ++ frame := by
  induction bytes generalizing pending i with
  | nil => cases hframe
  | cons byte bytes ih =>
    unfold feed at hframe
    cases i with
    | zero =>
      rw [List.getElem?_cons_zero] at hframe
      obtain ⟨rfl, hwhole, -⟩ := h.step_some (Option.some.inj hframe)
      exact ⟨hwhole, [], rfl⟩
    | succ i =>
      rw [List.getElem?_cons_succ] at hframe
      obtain ⟨hwhole, before, heq⟩ := ih h.step hframe
      refine ⟨hwhole, ?_⟩
      rw [List.take_succ_cons]
      rcases @step_suffix fmt pending byte with hopen | hrest
      · rw [hopen, List.append_assoc, List.singleton_append] at heq
        exact ⟨before, heq⟩
      · rw [hrest, List.nil_append] at heq
        refine ⟨pending ++ (byte :: before), ?_⟩
        rw [heq, List.append_assoc, List.cons_append]

end Feed

/-! ## Streams -/

section Stream

variable {stream : Nat → UInt8} {n m i : Nat}

/-- The open frame behind the first `n` bytes of a stream. -/
def pendingAt (fmt : Format) (pending : List UInt8) (stream : Nat → UInt8) : Nat → List UInt8
  | 0 => pending
  | n + 1 => (step fmt (pendingAt fmt pending stream n) (stream n)).1

/-- The frame that byte `n` completes. -/
def completedAt (fmt : Format) (pending : List UInt8) (stream : Nat → UInt8) (n : Nat) :
    Option (List UInt8) :=
  (step fmt (pendingAt fmt pending stream n) (stream n)).2

/-- The `k` bytes from position `n` on. -/
def window (stream : Nat → UInt8) (n k : Nat) : List UInt8 :=
  (List.range k).map fun j => stream (n + j)

theorem window_succ {k : Nat} : window stream n (k + 1) = window stream n k ++ [stream (n + k)] := by
  unfold window
  rw [List.range_succ, List.map_append, List.map_singleton]

theorem window_length {k : Nat} : (window stream n k).length = k := by
  unfold window
  rw [List.length_map, List.length_range]

theorem Open.pendingAt (h : Open fmt pending) : Open fmt (pendingAt fmt pending stream n) := by
  induction n with
  | zero => exact h
  | succ n ih => exact ih.step

theorem pendingAt_data {k : Nat}
    (hopen : pendingAt fmt pending stream m = fmt.sync :: len :: body)
    (hk : body.length + k < len.toNat) :
    pendingAt fmt pending stream (m + k) = fmt.sync :: len :: (body ++ window stream m k) := by
  induction k with
  | zero =>
    rw [Nat.add_zero, hopen]
    exact congrArg (fun bytes => fmt.sync :: len :: bytes) (List.append_nil _).symm
  | succ k ih =>
    show (step fmt (pendingAt fmt pending stream (m + k)) (stream (m + k))).1 = _
    rw [ih (by omega)]
    unfold step
    dsimp only
    rw [if_pos]
    · rw [List.append_assoc, ← window_succ]
    · rw [List.length_append, window_length]
      omega

/-- The last byte of an open frame completes it; the ones before it complete nothing. -/
theorem completedAt_data {k : Nat}
    (hopen : pendingAt fmt pending stream m = fmt.sync :: len :: body)
    (hk : body.length + k < len.toNat) :
    completedAt fmt pending stream (m + k) =
      if body.length + k + 1 < len.toNat then none
      else some (fmt.sync :: len :: (body ++ window stream m (k + 1))) := by
  unfold completedAt
  rw [pendingAt_data hopen hk]
  unfold step
  dsimp only
  rw [List.length_append, window_length, window_succ, ← List.append_assoc]
  split_ifs <;> rfl

theorem pendingAt_end {k : Nat}
    (hopen : pendingAt fmt pending stream m = fmt.sync :: len :: body)
    (hk : body.length + k + 1 = len.toNat) : pendingAt fmt pending stream (m + k + 1) = [] := by
  show (step fmt (pendingAt fmt pending stream (m + k)) (stream (m + k))).1 = _
  rw [pendingAt_data hopen (by omega)]
  unfold step
  dsimp only
  rw [if_neg]
  rw [List.length_append, window_length]
  omega

theorem pendingAt_succ_tail : pendingAt fmt pending stream (n + 1) =
    pendingAt fmt (step fmt pending (stream 0)).1 (fun j => stream (j + 1)) n := by
  induction n with
  | zero => rfl
  | succ n ih =>
    show (step fmt (pendingAt fmt pending stream (n + 1)) (stream (n + 1))).1 = _
    rw [ih]
    rfl

theorem feed_getElem? {bytes : List UInt8} (h : ∀ j < bytes.length, bytes[j]? = some (stream j)) :
    (feed fmt pending bytes).1 = pendingAt fmt pending stream bytes.length ∧
      ∀ i < bytes.length, (feed fmt pending bytes).2[i]? = some (completedAt fmt pending stream i) := by
  induction bytes generalizing pending stream with
  | nil => exact ⟨rfl, fun i hi => absurd hi (Nat.not_lt_zero i)⟩
  | cons byte bytes ih =>
    have hfirst : byte = stream 0 := Option.some.inj (h 0 (Nat.zero_lt_succ _))
    have htail : ∀ j < bytes.length, bytes[j]? = some (stream (j + 1)) := fun j hj =>
      h (j + 1) (Nat.succ_lt_succ hj)
    obtain ⟨hlast, hall⟩ := @ih (step fmt pending byte).1 (fun j => stream (j + 1)) htail
    rw [feed_cons, List.length_cons, pendingAt_succ_tail, ← hfirst]
    refine ⟨hlast, fun i hi => ?_⟩
    cases i with
    | zero =>
      rw [List.getElem?_cons_zero, hfirst]
      rfl
    | succ i =>
      rw [List.getElem?_cons_succ, hall i (Nat.lt_of_succ_lt_succ hi)]
      unfold completedAt
      rw [pendingAt_succ_tail, hfirst]

theorem Open.completedAt (h : Open fmt pending) {frame : List UInt8}
    (hframe : completedAt fmt pending stream n = some frame) : Frame fmt frame :=
  (h.pendingAt.step_some hframe).2.1

/-! ## The walk -/

/-- The rest position behind the one at `n`. -/
def next (fmt : Format) (stream : Nat → UInt8) (n : Nat) : Nat :=
  if stream n ≠ fmt.sync then n + 1
  else if fmt.accepts (stream (n + 1)) = false then n + 2
  else n + 2 + (stream (n + 1)).toNat

/-- The scanner opens a frame at `n`. -/
def Opens (fmt : Format) (stream : Nat → UInt8) (n : Nat) : Prop :=
  stream n = fmt.sync ∧ fmt.accepts (stream (n + 1))

theorem lt_next : n < next fmt stream n := by
  unfold next
  split_ifs <;> omega

theorem next_opens (h : Opens fmt stream n) :
    next fmt stream n = n + 2 + (stream (n + 1)).toNat := by
  unfold next
  rw [if_neg (not_not.mpr h.1), if_neg]
  rw [h.2]
  exact Bool.noConfusion

theorem step_rest_of_ne (h : byte ≠ fmt.sync) : step fmt [] byte = ([], none) := if_neg h

theorem step_rest_sync : step fmt [] fmt.sync = ([fmt.sync], none) := if_pos rfl

theorem step_sync_of_not {first : UInt8} (h : fmt.accepts byte = false) :
    step fmt [first] byte = ([], none) := by
  unfold step
  rw [h]
  rfl

theorem step_sync {first : UInt8} (h : fmt.accepts byte) :
    step fmt [first] byte = ([first, byte], none) := if_pos h

theorem pendingAt_opens (hrest : pendingAt fmt pending stream n = []) (h : Opens fmt stream n) :
    pendingAt fmt pending stream (n + 1) = [fmt.sync] ∧
      pendingAt fmt pending stream (n + 2) = fmt.sync :: stream (n + 1) :: [] := by
  have hsync : pendingAt fmt pending stream (n + 1) = [fmt.sync] := by
    show (step fmt (pendingAt fmt pending stream n) (stream n)).1 = _
    rw [hrest, h.1, step_rest_sync]
  refine ⟨hsync, ?_⟩
  show (step fmt (pendingAt fmt pending stream (n + 1)) (stream (n + 1))).1 = _
  rw [hsync, step_sync h.2]

theorem window_two {k : Nat} :
    window stream n (k + 2) = stream n :: stream (n + 1) :: window stream (n + 2) k := by
  induction k with
  | zero => rfl
  | succ k ih =>
    rw [window_succ, ih, window_succ, Nat.add_right_comm n 2 k]
    rfl

theorem rest_of_not_opens (hrest : pendingAt fmt pending stream n = []) (h : ¬Opens fmt stream n) :
    pendingAt fmt pending stream (next fmt stream n) = [] ∧
      ∀ i, n ≤ i → i < next fmt stream n → completedAt fmt pending stream i = none := by
  unfold next
  by_cases hsync : stream n = fmt.sync
  · have hrefused : fmt.accepts (stream (n + 1)) = false := by
      cases haccepts : fmt.accepts (stream (n + 1)) with
      | false => rfl
      | true => exact absurd ⟨hsync, haccepts⟩ h
    have hopen : pendingAt fmt pending stream (n + 1) = [fmt.sync] := by
      show (step fmt (pendingAt fmt pending stream n) (stream n)).1 = _
      rw [hrest, hsync, step_rest_sync]
    rw [if_neg (not_not.mpr hsync), if_pos hrefused]
    refine ⟨?_, fun i hle hlt => ?_⟩
    · show (step fmt (pendingAt fmt pending stream (n + 1)) (stream (n + 1))).1 = _
      rw [hopen, step_sync_of_not hrefused]
    · unfold completedAt
      obtain rfl | rfl : i = n ∨ i = n + 1 := by omega
      · rw [hrest, hsync, step_rest_sync]
      · rw [hopen, step_sync_of_not hrefused]
  · rw [if_pos hsync]
    refine ⟨?_, fun i hle hlt => ?_⟩
    · show (step fmt (pendingAt fmt pending stream n) (stream n)).1 = _
      rw [hrest, step_rest_of_ne hsync]
    · obtain rfl : i = n := by omega
      unfold completedAt
      rw [hrest, step_rest_of_ne hsync]

/-- If a frame is opened, its last byte completes it and nothing else is completed. -/
theorem rest_of_opens (hrest : pendingAt fmt pending stream n = []) (h : Opens fmt stream n) :
    pendingAt fmt pending stream (next fmt stream n) = [] ∧
      ∀ i, n ≤ i → i < next fmt stream n → completedAt fmt pending stream i =
        if i + 1 < next fmt stream n then none
        else some (window stream n (next fmt stream n - n)) := by
  have hpos := fmt.accepts_pos _ h.2
  obtain ⟨hsync, hopen⟩ := pendingAt_opens hrest h
  rw [next_opens h]
  refine ⟨?_, fun i hle hlt => ?_⟩
  · have hend := pendingAt_end hopen (show 0 + ((stream (n + 1)).toNat - 1) + 1 = _ by omega)
    rw [show n + 2 + ((stream (n + 1)).toNat - 1) + 1 = n + 2 + (stream (n + 1)).toNat by omega]
      at hend
    exact hend
  · by_cases hheader : i < n + 2
    · rw [if_pos (by omega)]
      unfold completedAt
      obtain rfl | rfl : i = n ∨ i = n + 1 := by omega
      · rw [hrest, h.1, step_rest_sync]
      · rw [hsync, step_sync h.2]
    · obtain ⟨k, rfl⟩ : ∃ k, i = n + 2 + k := ⟨i - (n + 2), by omega⟩
      have hdata := completedAt_data hopen (show 0 + k < (stream (n + 1)).toNat by omega)
      rw [hdata, List.nil_append]
      by_cases hlater : n + 2 + k + 1 < n + 2 + (stream (n + 1)).toNat
      · rw [if_pos hlater, if_pos]
        rw [List.length_nil]
        omega
      · rw [if_neg hlater, if_neg (by rw [List.length_nil]; omega),
          show n + 2 + (stream (n + 1)).toNat - n = k + 1 + 2 by omega, window_two, h.1]

theorem rest_next (hrest : pendingAt fmt pending stream n = []) :
    pendingAt fmt pending stream (next fmt stream n) = [] := by
  by_cases h : Opens fmt stream n
  · exact (rest_of_opens hrest h).1
  · exact (rest_of_not_opens hrest h).1

theorem rest_iterate (hrest : pendingAt fmt pending stream n = []) (j : Nat) :
    pendingAt fmt pending stream ((next fmt stream)^[j] n) = [] := by
  induction j with
  | zero => exact hrest
  | succ j ih =>
    rw [Function.iterate_succ_apply']
    exact rest_next ih

theorem le_iterate_next (j : Nat) : n ≤ (next fmt stream)^[j] n := by
  induction j with
  | zero => exact Nat.le_refl _
  | succ j ih =>
    rw [Function.iterate_succ_apply']
    exact Nat.le_trans ih (Nat.le_of_lt lt_next)

theorem exists_stretch (h : n ≤ i) : ∃ j, (next fmt stream)^[j] n ≤ i ∧
    i < (next fmt stream)^[j + 1] n := by
  induction i with
  | zero =>
    obtain rfl := Nat.le_zero.mp h
    exact ⟨0, Nat.le_refl _, lt_next⟩
  | succ i ih =>
    rcases Nat.lt_or_ge i n with hlt | hle
    · obtain rfl : n = i + 1 := by omega
      exact ⟨0, Nat.le_refl _, lt_next⟩
    · obtain ⟨j, hbefore, hbehind⟩ := ih hle
      rcases Nat.lt_or_ge (i + 1) ((next fmt stream)^[j + 1] n) with hlt | hge
      · exact ⟨j, by omega, hlt⟩
      · refine ⟨j + 1, hge, ?_⟩
        rw [Function.iterate_succ_apply']
        have hstep := @lt_next fmt stream ((next fmt stream)^[j + 1] n)
        omega

/-- What is completed behind a rest position is a frame that is opened at a rest position of the walk. -/
theorem completedAt_iff (hrest : pendingAt fmt pending stream n = []) (hle : n ≤ i)
    {frame : List UInt8} : completedAt fmt pending stream i = some frame ↔
      ∃ j, Opens fmt stream ((next fmt stream)^[j] n) ∧
        i + 1 = next fmt stream ((next fmt stream)^[j] n) ∧
        frame = window stream ((next fmt stream)^[j] n) (i + 1 - (next fmt stream)^[j] n) := by
  constructor
  · intro hframe
    obtain ⟨j, hbefore, hbehind⟩ := @exists_stretch fmt stream n i hle
    rw [Function.iterate_succ_apply'] at hbehind
    have hstart := @rest_iterate fmt pending stream n hrest j
    by_cases hopens : Opens fmt stream ((next fmt stream)^[j] n)
    · rw [(rest_of_opens hstart hopens).2 i hbefore hbehind] at hframe
      split_ifs at hframe with hlater
      have hlast : i + 1 = next fmt stream ((next fmt stream)^[j] n) := by omega
      refine ⟨j, hopens, hlast, ?_⟩
      rw [hlast]
      exact (Option.some.inj hframe).symm
    · rw [(rest_of_not_opens hstart hopens).2 i hbefore hbehind] at hframe
      cases hframe
  · rintro ⟨j, hopens, hlast, rfl⟩
    have hstart := @rest_iterate fmt pending stream n hrest j
    have hstep := @lt_next fmt stream ((next fmt stream)^[j] n)
    rw [(rest_of_opens hstart hopens).2 i (by omega) (by omega), if_neg (by omega), hlast]

theorem next_le {longest : Nat} (hlongest : ∀ len, fmt.accepts len → len.toNat ≤ longest) :
    next fmt stream n ≤ n + (longest + 2) := by
  unfold next
  split_ifs with hsync haccepts
  · omega
  · omega
  · have hlen := hlongest _ (Bool.not_eq_false _ ▸ haccepts)
    omega

theorem iterate_next_le {longest : Nat} (hlongest : ∀ len, fmt.accepts len → len.toNat ≤ longest)
    (j : Nat) : (next fmt stream)^[j] n ≤ n + j * (longest + 2) := by
  induction j with
  | zero => exact Nat.le_add_right _ _
  | succ j ih =>
    rw [Function.iterate_succ_apply', Nat.succ_mul]
    have hstep := @next_le fmt stream ((next fmt stream)^[j] n) longest hlongest
    omega

/-! ## Streams that repeat themselves -/

variable {period : Nat}

def Repeats (stream : Nat → UInt8) (period : Nat) : Prop := ∀ i, stream (i + period) = stream i

theorem Repeats.mod (h : Repeats stream period) (i : Nat) : stream (i % period) = stream i := by
  have hmul : ∀ k, stream (i % period + period * k) = stream (i % period) := by
    intro k
    induction k with
    | zero => rfl
    | succ k ih => rw [Nat.mul_succ, ← Nat.add_assoc, h, ih]
  rw [← hmul (i / period), Nat.mod_add_div]

theorem Repeats.mod_add (h : Repeats stream period) (n k : Nat) :
    stream (n % period + k) = stream (n + k) := by
  rw [← h.mod, Nat.mod_add_mod, h.mod]

def nextOffset (fmt : Format) (stream : Nat → UInt8) (period offset : Nat) : Nat :=
  next fmt stream offset % period

theorem next_mod (h : Repeats stream period) :
    next fmt stream n % period = nextOffset fmt stream period (n % period) := by
  unfold nextOffset next
  rw [h.mod, h.mod_add n 1]
  split_ifs
  · rw [Nat.mod_add_mod]
  · rw [Nat.mod_add_mod]
  · rw [Nat.add_assoc, Nat.add_assoc, Nat.mod_add_mod]

theorem iterate_next_mod (h : Repeats stream period) (j : Nat) :
    (next fmt stream)^[j] n % period = (nextOffset fmt stream period)^[j] (n % period) := by
  induction j with
  | zero => rfl
  | succ j ih => rw [Function.iterate_succ_apply', Function.iterate_succ_apply', next_mod h, ih]

theorem window_mod (h : Repeats stream period) (k : Nat) :
    window stream (n % period) k = window stream n k :=
  List.map_congr_left fun j _ => h.mod_add n j

end Stream

/-- What a walk on finitely many offsets meets at all, it meets before it has met more offsets than there
are. -/
theorem exists_iterate_lt {size start : Nat} {walk : Nat → Nat} {Meets : Nat → Prop}
    (hwalk : ∀ offset, walk offset < size) (hstart : start < size)
    (h : ∃ j, Meets (walk^[j] start)) : ∃ j < size, Meets (walk^[j] start) := by
  classical
  have hfirst := Nat.find_spec h
  refine ⟨Nat.find h, ?_, hfirst⟩
  have hlt : ∀ j, walk^[j] start < size := by
    intro j
    cases j with
    | zero => exact hstart
    | succ j =>
      rw [Function.iterate_succ_apply']
      exact hwalk _
  -- up to the first hit no offset is met twice: a loop could be cut out
  have hinj : Set.InjOn (fun j => walk^[j] start) (Finset.range (Nat.find h + 1)) := by
    intro a ha b hb heq
    by_contra hne
    rw [Finset.mem_coe, Finset.mem_range] at ha hb
    have hcut : ∀ low high, low < high → high ≤ Nat.find h →
        walk^[low] start ≠ walk^[high] start := by
      intro low high hlow hhigh hloop
      refine Nat.find_min h (show Nat.find h - high + low < Nat.find h by omega) ?_
      rw [Function.iterate_add_apply, hloop, ← Function.iterate_add_apply,
        Nat.sub_add_cancel hhigh]
      exact hfirst
    rcases Nat.lt_or_gt_of_ne hne with hab | hba
    · exact hcut a b hab (by omega) heq
    · exact hcut b a hba (by omega) heq.symm
  have hcard := Finset.card_le_card_of_injOn (t := Finset.range size) (fun j => walk^[j] start)
    (fun j _ => Finset.mem_coe.mpr (Finset.mem_range.mpr (hlt j))) hinj
  rw [Finset.card_range, Finset.card_range] at hcard
  omega

end SyncFrames
