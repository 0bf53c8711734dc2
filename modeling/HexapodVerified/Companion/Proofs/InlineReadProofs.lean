import HexapodVerified.Companion.Proofs.FrameExtractorProofs
import HexapodVerified.Companion.ProtocolClient

/-!
# What a read loses

A request that reads the stream itself leaves the loop over the frames of a chunk at its response, and any reader
leaves it at a frame that cannot be handled. What the chunk has behind that is not in the extractor and will never
be, unless there are only delimiters.
-/

namespace HexapodVerified.Companion

open Delimited Transition FrameExtractor

/-- No run of the stream has a byte. -/
theorem eq_zero_of_runs_nil {stream : List UInt8} (hended : ∀ run ∈ ended 0 stream, run = [])
    (hopen : openRun 0 stream = []) : ∀ b ∈ stream, b = 0 := by
  induction stream using List.reverseRecOn with
  | nil => exact nofun
  | append_singleton stream b ih =>
    by_cases hb : b = 0
    · subst hb
      rw [(ended_concat_self 0 stream).1] at hended
      have hbefore := ih (fun run hrun => hended run (List.mem_append_left _ hrun))
        (hended _ (List.mem_append_right _ (List.mem_singleton_self _)))
      intro b hmem
      rcases List.mem_append.mp hmem with hmem | hmem
      · exact hbefore b hmem
      · exact List.mem_singleton.mp hmem
    · rw [(ended_concat_of_ne hb stream).2] at hopen
      exact absurd hopen (by simp)

theorem length_run_le (stream : List UInt8) :
    (∀ run ∈ ended 0 stream, run.length ≤ stream.length) ∧ (openRun 0 stream).length ≤ stream.length := by
  induction stream using List.reverseRecOn with
  | nil => exact ⟨nofun, Nat.le_refl _⟩
  | append_singleton stream b ih =>
    obtain ⟨hended, hopen⟩ := ih
    rw [List.length_append, List.length_singleton]
    by_cases hb : b = 0
    · subst hb
      rw [(ended_concat_self 0 stream).1, (ended_concat_self 0 stream).2]
      refine ⟨fun run hrun => ?_, Nat.zero_le _⟩
      rcases List.mem_append.mp hrun with hrun | hrun
      · exact Nat.le_succ_of_le (hended run hrun)
      · rw [List.mem_singleton.mp hrun]
        exact Nat.le_succ_of_le hopen
    · rw [(ended_concat_of_ne hb stream).1, (ended_concat_of_ne hb stream).2, List.length_append,
        List.length_singleton]
      exact ⟨fun run hrun => Nat.le_succ_of_le (hended run hrun), Nat.succ_le_succ hopen⟩

namespace FrameExtractor

variable {e e' : FrameExtractor} {max_frame : Nat} {run data : List UInt8} {b : UInt8}

theorem Tracks.unique (h : Tracks max_frame run e) (h' : Tracks max_frame run e') : e = e' := by
  obtain ⟨buf, limit, discarding⟩ := e
  rw [FrameExtractor.mk.injEq]
  exact ⟨h.buf.trans h'.buf.symm, h.max_frame.trans h'.max_frame.symm, h.discarding.trans h'.discarding.symm⟩

theorem tracks_nil (max_frame : Nat) : Tracks max_frame [] { max_frame } :=
  ⟨(if_pos (Nat.zero_le _)).symm, (decide_eq_false (Nat.not_lt_zero _)).symm, rfl⟩

theorem push_nil (e : FrameExtractor) : e.push [] = (e, []) := rfl

theorem push_zeros (hzeros : ∀ b ∈ data, b = 0) : push {} data = ({}, []) := by
  induction data with
  | nil => rfl
  | cons b data ih =>
    obtain rfl := hzeros b (List.mem_cons_self ..)
    have hrest := ih fun b hb => hzeros b (List.mem_cons_of_mem _ hb)
    rw [push_cons]
    show ((push {} data).1, [] ++ (push {} data).2) = _
    rw [hrest]
    rfl

/-- A chunk that a fresh extractor makes nothing of has delimiters only. -/
theorem push_eq_self_iff (hsize : data.length ≤ 512) : push {} data = ({}, []) ↔ ∀ b ∈ data, b = 0 := by
  constructor
  · intro hnothing
    obtain ⟨htracks, hframes⟩ := push_run 4096 data
    obtain ⟨hended, hopen⟩ := length_run_le data
    have hstate : (push {} data).1 = {} := congrArg Prod.fst hnothing
    have hnone : (push {} data).2 = [] := congrArg Prod.snd hnothing
    refine eq_zero_of_runs_nil (fun run hrun => ?_) ?_
    · rw [hnone] at hframes
      have hunfit : ¬ decide (Fits 4096 run) = true :=
        List.filter_eq_nil_iff.mp (List.map_eq_nil_iff.mp hframes.symm) run hrun
      by_contra hne
      have hlength := hended run hrun
      exact hunfit (decide_eq_true ⟨hne, by omega⟩)
    · have hbuf := htracks.buf
      rw [hstate] at hbuf
      have hheld : held 4096 (openRun 0 data) = openRun 0 data := if_pos (by omega)
      exact (hbuf.trans hheld).symm
  · exact push_zeros

end FrameExtractor

section Read

variable {stop : List UInt8 → Bool} {e : FrameExtractor} {run data before after : List UInt8}

theorem push_readChunk (stop : List UInt8 → Bool) (e : FrameExtractor) (data : List UInt8) : e.push data =
    (((readChunk stop e data).extractor.push (readChunk stop e data).left).1,
      (readChunk stop e data).handed ++
        ((readChunk stop e data).extractor.push (readChunk stop e data).left).2) := by
  induction data generalizing e with
  | nil => rfl
  | cons b data ih =>
    rw [push_cons]
    unfold readChunk
    dsimp only
    split
    · rfl
    · dsimp only
      rw [ih, List.append_assoc]

theorem left_of_not_stopped (hnot : (readChunk stop e data).stopped = false) :
    (readChunk stop e data).left = [] := by
  induction data generalizing e with
  | nil => rfl
  | cons b data ih =>
    unfold readChunk at hnot ⊢
    dsimp only at hnot ⊢
    split at hnot
    · exact nomatch hnot.symm
    · rename_i hframes
      rw [if_neg hframes]
      exact ih hnot

theorem extractor_of_stopped (htracks : Tracks 4096 run e) (hstopped : (readChunk stop e data).stopped = true) :
    (readChunk stop e data).extractor = {} := by
  induction data generalizing e run with
  | nil => exact nomatch hstopped
  | cons b data ih =>
    unfold readChunk at hstopped ⊢
    dsimp only at hstopped ⊢
    by_cases hb : b = 0
    · subst hb
      have hnext := htracks.pushDelimiter.1
      split
      · exact hnext.unique (tracks_nil 4096)
      · rename_i hframes
        rw [if_neg hframes] at hstopped
        exact ih hnext hstopped
    · obtain ⟨hnext, hframes⟩ := htracks.pushByte hb
      rw [hframes] at hstopped ⊢
      exact ih hnext hstopped

theorem stopped_of_split (hstop : (e.push before).2.any stop = true) :
    (readChunk stop e (before ++ after)).stopped = true ∧ after <:+ (readChunk stop e (before ++ after)).left := by
  induction before generalizing e with
  | nil => exact nomatch hstop
  | cons b before ih =>
    rw [push_cons, List.any_append, Bool.or_eq_true] at hstop
    rw [List.cons_append]
    unfold readChunk
    dsimp only
    by_cases hframes : (e.pushByte b).2.any stop = true
    · rw [if_pos hframes]
      exact ⟨rfl, List.suffix_append ..⟩
    · rw [if_neg hframes]
      exact ih (hstop.resolve_left hframes)

theorem split_of_stopped (hstopped : (readChunk stop e data).stopped = true) :
    ∃ before, data = before ++ (readChunk stop e data).left ∧ (e.push before).2.any stop = true := by
  induction data generalizing e with
  | nil => exact nomatch hstopped
  | cons b data ih =>
    unfold readChunk at hstopped ⊢
    dsimp only at hstopped ⊢
    by_cases hframes : (e.pushByte b).2.any stop = true
    · rw [if_pos hframes]
      refine ⟨[b], rfl, ?_⟩
      rw [push_cons, List.any_append, hframes]
      rfl
    · rw [if_neg hframes] at hstopped ⊢
      obtain ⟨before, hdata, hstop⟩ := ih hstopped
      refine ⟨b :: before, congrArg (b :: ·) hdata, ?_⟩
      rw [push_cons, List.any_append, hstop, Bool.or_true]

end Read

abbrev SessionEvent : Type := Event Session SessionAction

/-- The frames of a stream, each between its delimiters, and of at most 4096 bytes. -/
def framesOf (stream : List UInt8) : List (List UInt8) :=
  ((ended 0 stream).filter fun run => Fits 4096 run).map bounded

/-- Nothing that was received is lost: the frames of the stream were all handed on, and the extractor has what is
behind its last delimiter. -/
structure Session.Lossless (s : Session) : Prop where
  handed : s.handed = framesOf s.received
  extractor : Tracks 4096 (openRun 0 s.received) s.extractor

/-- The frames at which the reader of a chunk leaves its loop. -/
def Session.leavesAt (s : Session) : SessionAction → List UInt8 → Bool
  | .read _, frame => s.waiting.any fun seq => leaves seq frame
  | .readLoop _, frame => raises frame
  | _, _ => false

/-- A chunk that is read has nothing but delimiters behind the first frame at which the loop is left. -/
def NothingLeft (e : SessionEvent) : Prop :=
  ∀ chunk before after, e.label = .read chunk ∨ e.label = .readLoop chunk → chunk = before ++ after →
    (e.pre.extractor.push before).2.any (e.pre.leavesAt e.label) = true → ∀ b ∈ after, b = 0

variable {s t : Session} {action : SessionAction}

theorem lossless_iff : s.Lossless ↔ FrameExtractor.push {} s.received = (s.extractor, s.handed) := by
  obtain ⟨htracks, hframes⟩ := push_run 4096 s.received
  constructor
  · rintro ⟨hhanded, hextractor⟩
    exact Prod.ext (htracks.unique hextractor) (hframes.trans hhanded.symm)
  · intro heq
    rw [heq] at htracks hframes
    exact ⟨hframes, htracks⟩

theorem lossless_read_iff (hlossless : s.Lossless) {chunk : List UInt8} {read : ChunkRead}
    (hreceived : t.received = s.received ++ chunk) (hextractor : t.extractor = read.extractor)
    (hhanded : t.handed = s.handed ++ read.handed) :
    t.Lossless ↔ s.extractor.push chunk = (read.extractor, read.handed) := by
  rw [lossless_iff, hreceived, hextractor, hhanded, push_append, lossless_iff.mp hlossless]
  rw [Prod.mk.injEq, List.append_cancel_left_eq, Prod.ext_iff]

theorem push_eq_readChunk_iff {stop : List UInt8 → Bool} {e : FrameExtractor} {run chunk : List UInt8}
    (htracks : Tracks 4096 run e) (hsize : chunk.length ≤ 512) :
    e.push chunk = ((readChunk stop e chunk).extractor, (readChunk stop e chunk).handed) ↔
      ∀ before after, chunk = before ++ after → (e.push before).2.any stop = true → ∀ b ∈ after, b = 0 := by
  rw [push_readChunk stop e chunk]
  cases hstopped : (readChunk stop e chunk).stopped with
  | false =>
    rw [left_of_not_stopped hstopped, push_nil, List.append_nil]
    refine iff_of_true rfl fun before after hsplit hstop => ?_
    subst hsplit
    have hyes := (@stopped_of_split _ _ _ after hstop).1
    rw [hstopped] at hyes
    exact nomatch hyes
  | true =>
    obtain ⟨before, hchunk, hstop⟩ := split_of_stopped hstopped
    have hleft : (readChunk stop e chunk).left.length ≤ 512 := by
      have hlength := congrArg List.length hchunk
      rw [List.length_append] at hlength
      omega
    have hnothing (frames : List (List UInt8)) (left : List UInt8) :
        ((push {} left).1, frames ++ (push {} left).2) = ({}, frames) ↔ push {} left = ({}, []) := by
      rw [Prod.mk.injEq, List.append_right_eq_self, Prod.ext_iff]
    rw [extractor_of_stopped htracks hstopped, hnothing, push_eq_self_iff hleft]
    constructor
    · intro hzeros before' after hsplit hstop' b hb
      subst hsplit
      exact hzeros b ((stopped_of_split hstop').2.mem hb)
    · intro hall
      exact hall before _ hchunk hstop

theorem lossless_step_iff (hstep : SessionStep s action t) (hlossless : s.Lossless) :
    t.Lossless ↔ NothingLeft ⟨s, action, t⟩ := by
  have hkept {t : Session} (hhanded : t.handed = s.handed) (hreceived : t.received = s.received)
      (hextractor : t.extractor = s.extractor) : t.Lossless := by
    rw [lossless_iff, hhanded, hreceived, hextractor]
    exact lossless_iff.mp hlossless
  cases hstep with
  | requestSync hidle hreader => exact iff_of_true (hkept rfl rfl rfl) nofun
  | @read seq chunk hwaiting hsize =>
    rw [lossless_read_iff hlossless rfl rfl rfl, push_eq_readChunk_iff hlossless.extractor hsize]
    unfold NothingLeft Session.leavesAt
    rw [hwaiting]
    constructor
    · rintro hall chunk' before after (hlabel | hlabel) hsplit hstop
      · cases hlabel
        exact hall before after hsplit hstop
      · cases hlabel
    · intro hleft before after hsplit hstop
      exact hleft chunk before after (.inl rfl) hsplit hstop
  | timeout hwaiting => exact iff_of_true (hkept rfl rfl rfl) nofun
  | ensureReader hidle => exact iff_of_true (hkept rfl rfl rfl) nofun
  | requestAsync hreader => exact iff_of_true (hkept rfl rfl rfl) nofun
  | @readLoop chunk hreader hsize =>
    rw [lossless_read_iff hlossless rfl rfl rfl, push_eq_readChunk_iff hlossless.extractor hsize]
    constructor
    · rintro hall chunk' before after (hlabel | hlabel) hsplit hstop
      · cases hlabel
      · cases hlabel
        exact hall before after hsplit hstop
    · intro hleft before after hsplit hstop
      exact hleft chunk before after (.inr rfl) hsplit hstop

theorem nothingLeft_of_left {chunk run : List UInt8} (haction : action = .read chunk ∨ action = .readLoop chunk)
    (htracks : Tracks 4096 run s.extractor) (hsize : chunk.length ≤ 512)
    (hleft : (readChunk (s.leavesAt action) s.extractor chunk).left = []) : NothingLeft ⟨s, action, t⟩ := by
  have hpush : s.extractor.push chunk = ((readChunk (s.leavesAt action) s.extractor chunk).extractor,
      (readChunk (s.leavesAt action) s.extractor chunk).handed) := by
    rw [push_readChunk (s.leavesAt action), hleft, push_nil, List.append_nil]
  have hall := (push_eq_readChunk_iff htracks hsize).mp hpush
  rintro chunk' before after hlabel hsplit hstop
  obtain rfl : chunk' = chunk := by
    rcases haction with rfl | rfl <;> rcases hlabel with hlabel | hlabel <;> cases hlabel <;> rfl
  exact hall before after hsplit hstop

/-- A response with the number 1, a status of no servos, and a telemetry frame that is too short to be decoded. -/
def response : List UInt8 := [0, 2, 165, 4, 5, 1, 1, 2, 1, 1, 1, 1, 1, 1, 1, 3, 97, 27, 0]

def servoStatus : List UInt8 := [0, 2, 165, 4, 5, 2, 66, 2, 1, 1, 1, 1, 1, 1, 1, 3, 78, 160, 0]

def telemetry : List UInt8 := [0, 2, 165, 4, 5, 2, 64, 2, 1, 1, 1, 1, 1, 1, 1, 3, 196, 126, 0]

theorem readChunk_response : (readChunk (leaves 1) {} (response ++ telemetry)).handed = [response] := by
  decide +kernel

/-- The first request reads its response and a telemetry frame at once, and the telemetry frame is never seen. -/
theorem telemetry_lost : ¬ ∀ h s, Run SessionStep {} h s → s.handed = framesOf s.received := by
  intro hall
  have hfirst : Run SessionStep {} _ _ := .step .nil (.requestSync rfl rfl)
  have hsecond := hall _ _ (.step hfirst (@SessionStep.read _ 1 (response ++ telemetry) rfl (by decide)))
  have hframes : framesOf (response ++ telemetry) = [response, telemetry] := by decide +kernel
  have hhanded : [] ++ (readChunk (leaves 1) {} (response ++ telemetry)).handed =
      framesOf ([] ++ (response ++ telemetry)) := hsecond
  rw [readChunk_response, List.nil_append, List.nil_append, hframes] at hhanded
  cases hhanded

/-- Nothing is lost in a run exactly when no read has other bytes than delimiters behind the frame at which it leaves
its loop. -/
theorem lossless_throughout_iff (h : List SessionEvent) (s : Session) (run : Run SessionStep {} h s) :
    Throughout Session.Lossless h s ↔ ∀ e ∈ h, NothingLeft e := by
  have hinit : Session.Lossless {} := ⟨rfl, tracks_nil 4096⟩
  refine run.throughout_iff hinit ?_
  rintro h ⟨pre, action, post⟩ - hstep hlossless
  exact lossless_step_iff hstep hlossless

/-- A request reads its response alone, and the reader thread then ends at the last frame of a chunk. -/
theorem response_lossless : ∃ h s, Run SessionStep {} h s ∧ s.handed = [response, servoStatus, telemetry] ∧
    s.reader = false ∧ Throughout Session.Lossless h s := by
  have hread : readChunk (leaves 1) {} response =
      { extractor := {}, handed := [response], stopped := true } := by decide +kernel
  have hlast : readChunk raises {} (servoStatus ++ telemetry) =
      { extractor := {}, handed := [servoStatus, telemetry], stopped := true } := by decide +kernel
  have hfirst : Run SessionStep {} _ _ := .step .nil (.requestSync rfl rfl)
  have hsecond := hfirst.step (@SessionStep.read _ 1 response rfl (by decide))
  simp only [Session.take, hread] at hsecond
  have hthird := hsecond.step (.ensureReader rfl)
  have hfourth := hthird.step (@SessionStep.readLoop _ (servoStatus ++ telemetry) rfl (by decide))
  simp only [Session.take, hlast] at hfourth
  refine ⟨_, _, hfourth, rfl, rfl, (lossless_throughout_iff _ _ hfourth).mpr fun e he => ?_⟩
  rcases List.mem_cons.mp he with rfl | he
  · exact nothingLeft_of_left (.inr rfl) (tracks_nil 4096) (by decide) (congrArg ChunkRead.left hlast)
  rcases List.mem_cons.mp he with rfl | he
  · exact nofun
  rcases List.mem_cons.mp he with rfl | he
  · exact nothingLeft_of_left (.inl rfl) (tracks_nil 4096) (by decide) (congrArg ChunkRead.left hread)
  · rw [List.mem_singleton.mp he]
    exact nofun

end HexapodVerified.Companion
