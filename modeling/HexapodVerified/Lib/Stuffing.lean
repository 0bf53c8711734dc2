import Mathlib.Data.List.Basic
import Mathlib.Data.List.Induction

/-!
# Delimited streams

Every delimiter of a stream ends a run; what is behind the last one is open. A scanner takes the stream
element by element. If it only delivers at a delimiter, and only what the ended run decides, then it delivers
run by run, and its state is a matter of the ended runs and the open one.
-/

namespace Delimited

variable {α β σ : Type*} [DecidableEq α]

def ended (d : α) (stream : List α) : List (List α) := (stream.splitOn d).dropLast

def openRun (d : α) (stream : List α) : List α :=
  (stream.splitOn d).getLast (List.splitOn_ne_nil d stream)

variable {d x : α} {xs : List α}

theorem splitOn_eq (d : α) (stream : List α) :
    stream.splitOn d = ended d stream ++ [openRun d stream] :=
  (List.dropLast_concat_getLast (List.splitOn_ne_nil d stream)).symm

theorem eq_of_splitOn_eq {runs : List (List α)} {run : List α} (h : xs.splitOn d = runs ++ [run]) :
    ended d xs = runs ∧ openRun d xs = run := by
  rw [splitOn_eq] at h
  exact ⟨(List.append_inj' h rfl).1, List.singleton_inj.mp (List.append_inj' h rfl).2⟩

theorem ended_of_notMem (hnot : d ∉ xs) : ended d xs = [] ∧ openRun d xs = xs :=
  eq_of_splitOn_eq (List.splitOn_eq_singleton hnot)

theorem ended_append_cons (d : α) (xs ys : List α) :
    ended d (xs ++ d :: ys) = ended d (xs ++ [d]) ++ ended d ys := by
  have hwhole : (xs ++ d :: ys).splitOn d = xs.splitOn d ++ ended d ys ++ [openRun d ys] := by
    rw [List.splitOn_append_cons_self, splitOn_eq d ys, List.append_assoc]
  have hbefore : (xs ++ [d]).splitOn d = xs.splitOn d ++ [[]] := by
    rw [List.splitOn_append_cons_self, List.splitOn_nil]
  rw [(eq_of_splitOn_eq hwhole).1, (eq_of_splitOn_eq hbefore).1]

theorem ended_concat_self (d : α) (xs : List α) :
    ended d (xs ++ [d]) = ended d xs ++ [openRun d xs] ∧ openRun d (xs ++ [d]) = [] := by
  apply eq_of_splitOn_eq
  rw [List.splitOn_append_cons_self, List.splitOn_nil, splitOn_eq]

theorem ended_concat_of_ne (hx : x ≠ d) (xs : List α) :
    ended d (xs ++ [x]) = ended d xs ∧ openRun d (xs ++ [x]) = openRun d xs ++ [x] := by
  apply eq_of_splitOn_eq
  induction xs with
  | nil =>
    rw [List.nil_append, List.splitOn_eq_singleton (fun h => hx (List.mem_singleton.mp h).symm)]
    rfl
  | cons y ys ih =>
    have hys := splitOn_eq d ys
    by_cases hy : y = d
    · subst hy
      have hcons : ∀ zs : List α, (y :: zs).splitOn y = [] :: zs.splitOn y := by
        intro zs
        rw [List.splitOn_cons_eq_if_modifyHead, if_pos (beq_self_eq_true y)]
      have hwhole : (y :: ys).splitOn y = ([] :: ended y ys) ++ [openRun y ys] := by
        rw [hcons, hys, List.cons_append]
      rw [(eq_of_splitOn_eq hwhole).1, (eq_of_splitOn_eq hwhole).2, List.cons_append, hcons, ih,
        List.cons_append]
    · have hcons : ∀ zs : List α, (y :: zs).splitOn d = (zs.splitOn d).modifyHead (y :: ·) := by
        intro zs
        rw [List.splitOn_cons_eq_if_modifyHead, if_neg (by simpa using hy)]
      have hwhole := hcons ys
      rw [hys] at hwhole
      rw [List.cons_append, hcons, ih]
      cases hended : ended d ys with
      | nil =>
        rw [hended] at hwhole
        have hparts : ended d (y :: ys) = [] ∧ openRun d (y :: ys) = y :: openRun d ys :=
          eq_of_splitOn_eq hwhole
        rw [hparts.1, hparts.2]
        rfl
      | cons run runs =>
        rw [hended] at hwhole
        have hparts : ended d (y :: ys) = (y :: run) :: runs ∧ openRun d (y :: ys) = openRun d ys :=
          eq_of_splitOn_eq hwhole
        rw [hparts.1, hparts.2]
        rfl

/-- The stream goes through the scanner; the last state, and everything that was delivered. -/
def scan (step : σ → α → σ × List β) (s : σ) : List α → σ × List β
  | [] => (s, [])
  | x :: xs =>
    ((scan step (step s x).1 xs).1, (step s x).2 ++ (scan step (step s x).1 xs).2)

omit [DecidableEq α] in
theorem scan_cons (step : σ → α → σ × List β) (s : σ) (x : α) (xs : List α) : scan step s (x :: xs) =
    ((scan step (step s x).1 xs).1, (step s x).2 ++ (scan step (step s x).1 xs).2) := rfl

omit [DecidableEq α] in
theorem scan_append (step : σ → α → σ × List β) (s : σ) (xs ys : List α) :
    scan step s (xs ++ ys) =
      ((scan step (scan step s xs).1 ys).1, (scan step s xs).2 ++ (scan step (scan step s xs).1 ys).2) := by
  induction xs generalizing s with
  | nil => rfl
  | cons x xs ih => rw [List.cons_append, scan_cons, ih, scan_cons, List.append_assoc]

omit [DecidableEq α] in
theorem scan_concat (step : σ → α → σ × List β) (s : σ) (xs : List α) (x : α) :
    scan step s (xs ++ [x]) =
      ((step (scan step s xs).1 x).1, (scan step s xs).2 ++ (step (scan step s xs).1 x).2) := by
  have hlast (t : σ) : scan step t [x] = step t x := Prod.ext rfl (List.append_nil _)
  rw [scan_append, hlast]

/-- The rule for a scanner: what holds of the ended runs, the open run and the state is kept, and what is
delivered is a matter of the ended runs. -/
theorem scan_rule (d : α) (step : σ → α → σ × List β) (deliver : List α → List β)
    (R : List (List α) → List α → σ → Prop) {s : σ} (hstart : R [] [] s)
    (hother : ∀ {runs run t x}, x ≠ d → R runs run t →
      R runs (run ++ [x]) (step t x).1 ∧ (step t x).2 = [])
    (hend : ∀ {runs run t}, R runs run t →
      R (runs ++ [run]) [] (step t d).1 ∧ (step t d).2 = deliver run) (stream : List α) :
    R (ended d stream) (openRun d stream) (scan step s stream).1 ∧
      (scan step s stream).2 = (ended d stream).flatMap deliver := by
  induction stream using List.reverseRecOn with
  | nil => exact ⟨hstart, rfl⟩
  | append_singleton xs x ih =>
    rcases ih with ⟨hstate, hout⟩
    rw [scan_concat]
    by_cases hx : x = d
    · subst hx
      rcases ended_concat_self x xs with ⟨hended, hopen⟩
      rcases hend hstate with ⟨hnext, hdelivered⟩
      rw [hended, hopen, List.flatMap_append, List.flatMap_singleton, hout, hdelivered]
      exact ⟨hnext, rfl⟩
    · rcases ended_concat_of_ne hx xs with ⟨hended, hopen⟩
      rcases hother hx hstate with ⟨hnext, hdelivered⟩
      rw [hended, hopen, hout, hdelivered, List.append_nil]
      exact ⟨hnext, rfl⟩

/-- A run is taken when it is not empty and not longer than the limit. -/
def Fits (limit : Nat) (run : List α) : Prop := run ≠ [] ∧ run.length ≤ limit

instance (limit : Nat) : DecidablePred (Fits (α := α) limit) := fun run =>
  inferInstanceAs (Decidable (run ≠ [] ∧ run.length ≤ limit))

def held (limit : Nat) (run : List α) : List α := if run.length ≤ limit then run else []

omit [DecidableEq α] in
theorem held_concat_of_lt {limit : Nat} {run : List α} (x : α) (h : run.length < limit) :
    held limit (run ++ [x]) = held limit run ++ [x] := by
  unfold held
  rw [List.length_append, List.length_singleton, if_pos (Nat.succ_le_of_lt h),
    if_pos (Nat.le_of_lt h)]

omit [DecidableEq α] in
theorem held_of_lt {limit : Nat} {run : List α} (h : limit < run.length) : held limit run = [] :=
  if_neg (Nat.not_le.mpr h)

omit [DecidableEq α] in
theorem flatMap_fits {limit : Nat} (f : List α → β) (runs : List (List α)) :
    (runs.flatMap fun run => if Fits limit run then [f run] else []) =
      (runs.filter fun run => Fits limit run).map f := by
  induction runs with
  | nil => rfl
  | cons run runs ih =>
    rw [List.flatMap_cons, ih, List.filter_cons]
    by_cases hfits : Fits limit run
    · simp [hfits]
    · simp [hfits]

def alternate : List α → List α
  | [] => []
  | [x] => [x]
  | x :: _ :: xs => x :: alternate xs

omit [DecidableEq α] in
theorem alternate_sublist (xs : List α) : List.Sublist (alternate xs) xs := by
  induction xs using alternate.induct with
  | case1 => exact .slnil
  | case2 x => exact .refl _
  | case3 x y xs ih => exact (ih.cons y).cons_cons x

omit [DecidableEq α] in
theorem alternate_concat (xs : List α) (x : α) :
    alternate (xs ++ [x]) = if xs.length % 2 = 0 then alternate xs ++ [x] else alternate xs := by
  induction xs using alternate.induct with
  | case1 => rfl
  | case2 y => rfl
  | case3 y z xs ih =>
    have hlength : (y :: z :: xs).length % 2 = xs.length % 2 :=
      Nat.add_mod_right xs.length 2
    show y :: alternate (xs ++ [x]) = if _ then y :: alternate xs ++ [x] else y :: alternate xs
    rw [ih, hlength]
    split <;> rfl

omit [DecidableEq α] in
theorem length_filter_alternate (p : α → Bool) (xs : List α) : (xs.filter p).length =
    ((alternate xs).filter p).length + ((alternate xs.tail).filter p).length := by
  induction xs using alternate.induct with
  | case1 => rfl
  | case2 x => rfl
  | case3 x y xs ih =>
    have htail : alternate (y :: xs) = y :: alternate xs.tail := by
      cases xs with
      | nil => rfl
      | cons z zs => rfl
    have hcount (z : α) (zs : List α) : ((z :: zs).filter p).length = [z].countP p + (zs.filter p).length := by
      rw [← List.countP_eq_length_filter, ← List.countP_eq_length_filter, ← List.singleton_append,
        List.countP_append]
    show ((x :: y :: xs).filter p).length =
      ((x :: alternate xs).filter p).length + ((alternate (y :: xs)).filter p).length
    rw [htail, hcount, hcount, hcount, hcount, ih]
    omega

omit [DecidableEq α] in
/-- The elements that pass are all among every other one exactly when none of the others passes. -/
theorem filter_sublist_alternate (p : α → Bool) (xs : List α) :
    List.Sublist (xs.filter p) (alternate xs) ↔ ∀ x ∈ alternate xs.tail, p x = false := by
  have hlength := length_filter_alternate p xs
  constructor
  · intro hsub x hx
    have hpassing := (hsub.filter p).length_le
    have htwice : (xs.filter p).filter p = xs.filter p :=
      List.filter_eq_self.mpr fun y hy => (List.mem_filter.mp hy).2
    rw [htwice] at hpassing
    have hnone : (alternate xs.tail).filter p = [] := List.length_eq_zero_iff.mp (by omega)
    exact Bool.eq_false_iff.mpr fun hp => List.filter_eq_nil_iff.mp hnone x hx hp
  · intro hothers
    have hnone : (alternate xs.tail).filter p = [] :=
      List.filter_eq_nil_iff.mpr fun x hx => Bool.eq_false_iff.mp (hothers x hx)
    have hkept : List.Sublist ((alternate xs).filter p) (xs.filter p) := (alternate_sublist xs).filter p
    rw [hnone, List.length_nil, Nat.add_zero] at hlength
    rw [← hkept.eq_of_length hlength.symm]
    exact List.filter_sublist

end Delimited

/-!
## Consistent overhead byte stuffing

A byte string is cut into blocks of bytes that are not zero. A block is written behind its code, its length
plus one; the zero that ends a block is not written. A block of 254 bytes has the code 255 and is not ended
by a zero. `stuff` writes the blocks, `unstuff` reads them back.
-/

namespace Stuffing

variable {run bytes rest : List UInt8}

def code (run : List UInt8) : UInt8 := UInt8.ofNat (run.length + 1)

/-- Writes the blocks of `bytes`; `run` is the start of the block that is open. -/
def stuff : List UInt8 → List UInt8 → List UInt8
  | run, [] => code run :: run
  | run, byte :: bytes =>
    if byte = 0 then code run :: (run ++ stuff [] bytes)
    else if run.length + 1 = 254 then code (run ++ [byte]) :: ((run ++ [byte]) ++ stuff [] bytes)
    else stuff (run ++ [byte]) bytes

/-- The zero behind a block that is neither the last one nor full. -/
def ending (code : UInt8) (rest : List UInt8) : List UInt8 :=
  if code ≠ 0xFF ∧ rest ≠ [] then [0] else []

def unstuff : List UInt8 → Option (List UInt8)
  | [] => some []
  | code :: rest =>
    if code = 0 ∨ rest.length + 1 < code.toNat then none
    else
      (unstuff (rest.drop (code.toNat - 1))).map fun later =>
        rest.take (code.toNat - 1) ++ (ending code (rest.drop (code.toNat - 1)) ++ later)
termination_by bytes => bytes.length
decreasing_by
  rw [List.length_drop, List.length_cons]
  omega

/-- The start of a block: short enough to be open, and without a zero. -/
structure Open (run : List UInt8) : Prop where
  short : run.length < 254
  nonzero : 0 ∉ run

theorem Open.nil : Open [] := ⟨by decide, List.not_mem_nil⟩

theorem Open.snoc (h : Open run) {byte : UInt8} (hb : byte ≠ 0) (hshort : run.length + 1 ≠ 254) :
    Open (run ++ [byte]) := by
  refine ⟨?_, ?_⟩
  · have hlt := h.short
    rw [List.length_append, List.length_singleton]
    omega
  · rw [List.mem_append, List.mem_singleton, not_or]
    exact ⟨h.nonzero, hb.symm⟩

theorem code_toNat (h : run.length < 255) : (code run).toNat = run.length + 1 := by
  unfold code
  rw [UInt8.toNat_ofNat', Nat.mod_eq_of_lt (by omega)]

theorem code_ne_zero (h : run.length < 255) : code run ≠ 0 := by
  intro hzero
  have hnat := congrArg UInt8.toNat hzero
  rw [code_toNat h] at hnat
  exact absurd hnat (Nat.succ_ne_zero _)

theorem stuff_ne_nil : ∀ run bytes : List UInt8, stuff run bytes ≠ []
  | run, [] => by
    exact List.cons_ne_nil _ _
  | run, byte :: bytes => by
    unfold stuff
    split_ifs
    · exact List.cons_ne_nil _ _
    · exact List.cons_ne_nil _ _
    · exact stuff_ne_nil _ _

theorem unstuff_block (h : run.length < 255) :
    unstuff (code run :: (run ++ rest)) =
      (unstuff rest).map fun later => run ++ (ending (code run) rest ++ later) := by
  have hcode := code_toNat h
  rw [unstuff, if_neg, hcode, Nat.add_sub_cancel, List.drop_left, List.take_left]
  rw [hcode, List.length_append, not_or]
  exact ⟨code_ne_zero h, by omega⟩

theorem zero_notMem_stuff (h : Open run) : 0 ∉ stuff run bytes := by
  induction bytes generalizing run with
  | nil =>
    unfold stuff
    rw [List.mem_cons, not_or]
    have hshort := h.short
    exact ⟨(code_ne_zero (by omega)).symm, h.nonzero⟩
  | cons byte bytes ih =>
    have hshort := h.short
    unfold stuff
    split_ifs with hzero hfull
    · rw [List.mem_cons, List.mem_append, not_or, not_or]
      exact ⟨(code_ne_zero (by omega)).symm, h.nonzero, ih .nil⟩
    · have hlen : (run ++ [byte]).length < 255 := by
        rw [List.length_append, List.length_singleton]
        omega
      rw [List.mem_cons, List.mem_append, List.mem_append, List.mem_singleton, not_or, not_or,
        not_or]
      exact ⟨(code_ne_zero hlen).symm, ⟨h.nonzero, fun heq => hzero heq.symm⟩, ih .nil⟩
    · exact ih (h.snoc hzero hfull)

theorem unstuff_stuff (h : Open run) : unstuff (stuff run bytes) = some (run ++ bytes) := by
  induction bytes generalizing run with
  | nil =>
    have hshort := h.short
    have hblock := @unstuff_block run [] (by omega)
    unfold stuff
    rw [List.append_nil] at hblock
    rw [hblock, unstuff]
    unfold ending
    rw [if_neg fun hend => hend.2 rfl]
    rfl
  | cons byte bytes ih =>
    have hshort := h.short
    unfold stuff
    split_ifs with hzero hfull
    · have hcode : code run ≠ 0xFF := by
        intro heq
        have hnat := congrArg UInt8.toNat heq
        rw [code_toNat (by omega)] at hnat
        have hmax : (0xFF : UInt8).toNat = 255 := rfl
        omega
      rw [unstuff_block (by omega), ih .nil]
      unfold ending
      rw [if_pos ⟨hcode, stuff_ne_nil _ _⟩, hzero]
      rfl
    · have hlen : (run ++ [byte]).length = 254 := by
        rw [List.length_append, List.length_singleton, hfull]
      have hcode : code (run ++ [byte]) = 0xFF := by
        unfold code
        rw [hlen]
        rfl
      rw [unstuff_block (by omega), ih .nil]
      unfold ending
      rw [if_neg fun hend => hend.1 hcode]
      show some ((run ++ [byte]) ++ ([] ++ ([] ++ bytes))) = _
      rw [List.nil_append, List.nil_append, List.append_assoc, List.singleton_append]
    · rw [ih (h.snoc hzero hfull), List.append_assoc, List.singleton_append]

/-- The overhead: a code for each full block, and one more. -/
theorem stuff_length_le (h : Open run) : (stuff run bytes).length ≤
    run.length + bytes.length + (run.length + bytes.length) / 254 + 1 := by
  induction bytes generalizing run with
  | nil =>
    unfold stuff
    rw [List.length_cons, List.length_nil]
    omega
  | cons byte bytes ih =>
    have hnil := ih .nil
    rw [List.length_nil] at hnil
    unfold stuff
    split_ifs with hzero hfull
    · rw [List.length_cons, List.length_append, List.length_cons]
      omega
    · rw [List.length_cons, List.length_append, List.length_append, List.length_singleton,
        List.length_cons]
      omega
    · have hlonger := ih (h.snoc hzero hfull)
      rw [List.length_append, List.length_singleton] at hlonger
      rw [List.length_cons]
      omega

end Stuffing
