import HexapodVerified.Companion.FrameExtractor
import HexapodVerified.Protocol.Proofs.FramingProofs

/-!
# Both ends cut the stream alike

The extractor of the companion is a scanner like the frame reader of the controller; they differ in the
limit on a run, and in the delimiters that the extractor puts around what it yields.
-/

namespace HexapodVerified.Companion

open Delimited Protocol

namespace FrameExtractor

/-- The state of an extractor within the open run. -/
structure Tracks (max_frame : Nat) (run : List UInt8) (e : FrameExtractor) : Prop where
  buf : e.buf = held max_frame run
  discarding : e.discarding = decide (max_frame < run.length)
  max_frame : e.max_frame = max_frame

variable {e : FrameExtractor} {max_frame : Nat} {run : List UInt8} {b : UInt8}

def bounded (run : List UInt8) : List UInt8 := [0] ++ run ++ [0]

/-- A byte of a run. -/
theorem Tracks.pushByte (h : Tracks max_frame run e) (hb : b ≠ 0) :
    Tracks max_frame (run ++ [b]) (e.pushByte b).1 ∧ (e.pushByte b).2 = [] := by
  rcases h with ⟨hbuf, hdiscarding, hmax⟩
  have hlength : (run ++ [b]).length = run.length + 1 := by simp
  unfold FrameExtractor.pushByte
  rw [if_neg hb]
  by_cases hover : max_frame < run.length
  · have hlonger : max_frame < (run ++ [b]).length := by omega
    rw [if_pos (hdiscarding.trans (decide_eq_true hover))]
    refine ⟨⟨?_, ?_, hmax⟩, rfl⟩
    · rw [hbuf, held_of_lt hover, held_of_lt hlonger]
    · rw [hdiscarding, decide_eq_true hover, decide_eq_true hlonger]
  · have hheld : held max_frame run = run := if_pos (Nat.not_lt.mp hover)
    rw [hdiscarding, decide_eq_false hover, if_neg Bool.false_ne_true]
    rw [hbuf, hheld, hmax]
    by_cases hfull : (run ++ [b]).length > max_frame
    · -- the run has just become too long
      rw [if_pos hfull]
      refine ⟨⟨?_, ?_, rfl⟩, rfl⟩
      · exact (held_of_lt hfull).symm
      · exact (decide_eq_true hfull).symm
    · rw [if_neg hfull]
      refine ⟨⟨?_, ?_, rfl⟩, rfl⟩
      · exact (if_pos (Nat.not_lt.mp hfull)).symm
      · exact (decide_eq_false hfull).symm

theorem Tracks.pushDelimiter (h : Tracks max_frame run e) :
    Tracks max_frame [] (e.pushByte 0).1 ∧
      (e.pushByte 0).2 = if Fits max_frame run then [bounded run] else [] := by
  rcases h with ⟨hbuf, hdiscarding, hmax⟩
  have hnil : held max_frame ([] : List UInt8) = [] := if_pos (Nat.zero_le _)
  unfold FrameExtractor.pushByte
  rw [if_pos rfl]
  by_cases hover : max_frame < run.length
  · rw [if_pos (hdiscarding.trans (decide_eq_true hover)),
      if_neg fun hfits : Fits max_frame run => absurd hover (Nat.not_lt.mpr hfits.2)]
    exact ⟨⟨hnil.symm, (decide_eq_false (Nat.not_lt_zero _)).symm, hmax⟩, rfl⟩
  · have hheld : held max_frame run = run := if_pos (Nat.not_lt.mp hover)
    have hkept : e.discarding = false := hdiscarding.trans (decide_eq_false hover)
    rw [hkept, if_neg Bool.false_ne_true, hbuf, hheld]
    by_cases hempty : run = []
    · subst hempty
      rw [if_neg (not_not.mpr rfl), if_neg fun hfits : Fits max_frame [] => hfits.1 rfl]
      exact ⟨⟨hbuf, hdiscarding, hmax⟩, rfl⟩
    · rw [if_pos hempty, if_pos ⟨hempty, Nat.not_lt.mp hover⟩]
      exact ⟨⟨hnil.symm, (decide_eq_false (Nat.not_lt_zero _)).symm, hmax⟩, rfl⟩

theorem push_cons (e : FrameExtractor) (b : UInt8) (data : List UInt8) :
    e.push (b :: data) =
      (((e.pushByte b).1.push data).1, (e.pushByte b).2 ++ ((e.pushByte b).1.push data).2) :=
  rfl

theorem push_eq_scan (e : FrameExtractor) (data : List UInt8) :
    e.push data = scan FrameExtractor.pushByte e data := by
  induction data generalizing e with
  | nil => rfl
  | cons b data ih =>
    rw [push_cons, ih]
    rfl

theorem push_append (e : FrameExtractor) (data later : List UInt8) :
    e.push (data ++ later) =
      (((e.push data).1.push later).1, (e.push data).2 ++ ((e.push data).1.push later).2) := by
  induction data generalizing e with
  | nil => rfl
  | cons b data ih =>
    rw [List.cons_append, push_cons, push_cons, ih, List.append_assoc]

/-- How a stream is cut into chunks does not matter. -/
theorem pushAll_eq (e : FrameExtractor) (chunks : List (List UInt8)) :
    e.pushAll chunks = e.push chunks.flatten := by
  induction chunks generalizing e with
  | nil => rfl
  | cons data later ih =>
    rw [List.flatten_cons, push_append]
    unfold pushAll
    dsimp only
    rw [ih]

theorem push_run (max_frame : Nat) (stream : List UInt8) :
    Tracks max_frame (openRun 0 stream) (push { max_frame } stream).1 ∧
      (push { max_frame } stream).2 = ((ended 0 stream).filter fun run => Fits max_frame run).map bounded := by
  have hscan := scan_rule 0 FrameExtractor.pushByte
    (fun run => if Fits max_frame run then [bounded run] else [])
    (fun _ run e => Tracks max_frame run e) (s := { max_frame })
    ⟨(if_pos (Nat.zero_le _)).symm, (decide_eq_false (Nat.not_lt_zero _)).symm, rfl⟩
    (fun hb h => h.pushByte hb) (fun h => h.pushDelimiter) stream
  rw [push_eq_scan, hscan.2, flatMap_fits bounded]
  exact ⟨hscan.1, rfl⟩

theorem push_spec (max_frame : Nat) (stream : List UInt8) :
    (push { max_frame } stream).2 =
      ((ended 0 stream).filter fun run => Fits max_frame run).map bounded := (push_run max_frame stream).2

end FrameExtractor

open FrameReader FrameExtractor

/-- **Frame splitting.** However a stream is cut into chunks, the frame reader delivers, in order, the ended
runs that are not empty and fit its buffer, and counts them; it counts the runs that overflow the buffer,
the open one included. The extractor yields, between delimiters, the ended runs of at most 4096 bytes. Of
what is behind a delimiter, both make what they make of it on its own. -/
theorem frames_split (chunks : List (List UInt8)) :
    (receiveAll {} chunks).2 =
      ((ended 0 chunks.flatten).filter fun run => Fits kMaxFrameBodyCobs run) ∧
    (receiveAll {} chunks).1.frames_ok = UInt32.ofNat (receiveAll {} chunks).2.length ∧
    (receiveAll {} chunks).1.overflows_dropped = UInt32.ofNat
      ((chunks.flatten.splitOn 0).countP fun run => kMaxFrameBodyCobs < run.length) ∧
    (pushAll {} chunks).2 =
      ((ended 0 chunks.flatten).filter fun run => Fits 4096 run).map (fun run => [0] ++ run ++ [0]) ∧
    ∀ garbage rest, chunks.flatten = garbage ++ 0 :: rest →
      (receiveAll {} chunks).2 = (receive {} (garbage ++ [0])).2 ++ (receive {} rest).2 ∧
      (pushAll {} chunks).2 = (push {} (garbage ++ [0])).2 ++ (push {} rest).2 := by
  rw [receiveAll_eq, pushAll_eq]
  generalize chunks.flatten = stream
  rcases receive_spec stream with ⟨htracks, hbodies⟩
  refine ⟨hbodies, ?_, ?_, push_spec 4096 stream, ?_⟩
  · rw [htracks.frames_ok, hbodies, List.countP_eq_length_filter]
  · rw [htracks.overflows_dropped, splitOn_eq]
    rfl
  · rintro garbage rest rfl
    rw [(receive_spec _).2, (receive_spec _).2, (receive_spec _).2, push_spec 4096, push_spec 4096,
      push_spec 4096, ended_append_cons, List.filter_append, List.filter_append, List.map_append]
    exact ⟨rfl, rfl⟩

end HexapodVerified.Companion
